import FlashDump.Proofs.Sequencer.Arguments
import FlashDump.Proofs.Sequencer.Calls
import FlashDump.Proofs.Sequencer.Steps

/-!
# Reads without a poll limit

Without a limit a cycle is polled until it is done, which may be never.  `Sequencer.DoneAfter`
says how many polls come before the first one that shows it done, and `Sequencer.Starts` which
cycles a read comes to start if each is followed to its end.  Both are about the device alone:
neither has a limit or a patience in it.

A read `Terminates` if it has a result with enough patience, and the same with more.
`terminates_iff` says that this is so just if every cycle that it starts is done at some
poll.  In both directions the induction is on the number of blocks, and what carries it is that
the first poll that shows a cycle done is the same for every patience that reaches it
(`poll_of_doneAfter`, `doneAfter_of_poll`).
-/

namespace FlashDump

open FlashDump.Register

namespace Sequencer

section Polls

variable {σ : Type}

/-- The device after a number of polls. -/
def afterPolls (q : Sequencer σ) : (polls : Nat) → σ → σ
  | 0, s => s
  | polls + 1, s => q.afterPolls polls (q.device.read .w16 (q.layout.offset Offset.hsfs) s).2

/-- What HSFS holds at the poll that has a number of polls before it. -/
def pollStatus (q : Sequencer σ) (before : Nat) (s : σ) : BitVec 16 :=
  (q.device.read .w16 (q.layout.offset Offset.hsfs) (q.afterPolls before s)).1

/-- The first poll that shows the cycle done has a number of polls before it. -/
structure DoneAfter (q : Sequencer σ) (before : Nat) (s : σ) : Prop where
  done : (q.pollStatus before s).getLsbD 0 = true
  waits : ∀ i, i < before → (q.pollStatus i s).getLsbD 0 = false

variable {q : Sequencer σ} {before polls : Nat} {s s' : σ}

theorem DoneAfter.unique {other : Nat} (first : q.DoneAfter before s) (second : q.DoneAfter other s) :
    before = other := by
  rcases Nat.lt_trichotomy before other with less | same | more
  · exact absurd first.done (Bool.eq_false_iff.1 (second.waits before less))
  · exact same
  · exact absurd second.done (Bool.eq_false_iff.1 (first.waits other more))

/-- A cycle that some poll shows done has a first such poll. -/
theorem exists_doneAfter (shown : ∃ polls, (q.pollStatus polls s).getLsbD 0 = true) :
    ∃ before, q.DoneAfter before s := by
  refine ⟨Nat.find shown, Nat.find_spec shown, ?_⟩
  intro i earlier
  exact Bool.eq_false_iff.2 (Nat.find_min shown earlier)

variable (common : q.layout.Common)

include common

theorem poll_eq_ite (polls : Nat) (s : σ) :
    q.poll (polls + 1) s
      = if (q.pollStatus 0 s).getLsbD 0 then
          (some (Hsfs.decode (q.pollStatus 0 s)), q.afterPolls 1 s)
        else q.poll polls (q.afterPolls 1 s) :=
  poll_succ common polls s

theorem poll_of_doneAfter (first : q.DoneAfter before s) (within : before < polls) :
    q.poll polls s
      = (some (Hsfs.decode (q.pollStatus before s)), q.afterPolls (before + 1) s) := by
  induction before generalizing polls s with
  | zero =>
      obtain ⟨polls, rfl⟩ := Nat.exists_eq_succ_of_ne_zero (Nat.ne_zero_of_lt within)
      rw [poll_eq_ite common, if_pos first.done]
  | succ before ih =>
      obtain ⟨polls, rfl⟩ := Nat.exists_eq_succ_of_ne_zero (Nat.ne_zero_of_lt within)
      have waiting := first.waits 0 (Nat.zero_lt_succ before)
      have later : q.DoneAfter before (q.afterPolls 1 s) :=
        ⟨first.done, fun i earlier => first.waits (i + 1) (Nat.succ_lt_succ earlier)⟩
      rw [poll_eq_ite common, if_neg (Bool.eq_false_iff.1 waiting)]
      exact ih later (Nat.lt_of_succ_lt_succ within)

theorem doneAfter_of_poll {hsfs : Hsfs} (polled : q.poll polls s = (some hsfs, s')) :
    ∃ before, before < polls ∧ q.DoneAfter before s := by
  induction polls generalizing s with
  | zero => cases polled
  | succ polls ih =>
      rw [poll_eq_ite common] at polled
      cases shown : (q.pollStatus 0 s).getLsbD 0 with
      | true => exact ⟨0, Nat.zero_lt_succ polls, shown, fun i none => absurd none (Nat.not_lt_zero i)⟩
      | false =>
          rw [shown, if_neg Bool.false_ne_true] at polled
          obtain ⟨before, within, first⟩ := ih polled
          refine ⟨before + 1, Nat.succ_lt_succ within, first.done, ?_⟩
          intro i earlier
          cases i with
          | zero => exact shown
          | succ i => exact first.waits i (Nat.lt_of_succ_lt_succ earlier)

end Polls

/-! ## Cycles that are started -/

section Starts

variable {σ τ : Type}

/-- A read of blocks starts a cycle, which leaves the device in a certain state.  Every cycle
before it was followed to its end, and the observer wanted to go on after its block. -/
inductive Starts (q : Sequencer σ) (o : Observer τ) (words : Nat) :
    (count address : Nat) → σ → τ → σ → Prop where
  | first {count address : Nat} {s : σ} {t : τ} :
      Starts q o words (count + 1) address s t (q.startCycle words address s)
  | later {count address before : Nat} {s s' e : σ} {t t' t'' : τ} {data : List Byte}
      (done : q.DoneAfter before (q.startCycle words address s))
      (yes : o.hear (Call.ofCycle address
        ((q.pollStatus before (q.startCycle words address s)).getLsbD 1)) t = (true, t'))
      (collected : q.collect (blockRegisters words)
        (q.afterPolls (before + 1) (q.startCycle words address s)) = (data, s'))
      (goesOn : o.block address data t' = (true, t''))
      (rest : Starts q o words count (address + 4 * words) s' t'' e) :
      Starts q o words (count + 1) address s t e

/-- A read starts a cycle, which leaves the device in a certain state. -/
structure ReadStarts (q : Sequencer σ) (o : Observer τ) (r : Request) (s : σ) (t : τ) (e : σ) :
    Prop where
  free : (q.pollStatus 0 s).getLsbD 5 = false
  starts : q.Starts o (r.blockSize / 4) r.blockCount r.start (q.afterPolls 1 s)
    (o.notify (.status (Hsfs.decode (q.pollStatus 0 s))) t) e

/-- The sequencer without a limit, whose cycles are followed for a number of polls. -/
def patient (q : Sequencer σ) (patience : Nat) : Sequencer σ :=
  ⟨q.layout, q.device, .unbounded, patience⟩

/-- With enough patience the read has a result, and more patience does not change it. -/
def Terminates (q : Sequencer σ) (o : Observer τ) (r : Request) (s : σ) (t : τ) : Prop :=
  ∃ patience result s' t', ∀ further, patience ≤ further →
    (q.patient further).read o r s t = (some result, s', t')

end Starts

/-! ## Patience -/

section Patience

variable {σ τ : Type} {q : Sequencer σ}

theorem poll_patient (patience polls : Nat) (s : σ) :
    (q.patient patience).poll polls s = q.poll polls s := by
  induction polls generalizing s with
  | zero => rfl
  | succ polls ih =>
      rw [poll, poll]
      dsimp only
      rw [ih]
      rfl

theorem collect_patient (patience : Nat) (registers : List (Fin fdataCount)) (s : σ) :
    (q.patient patience).collect registers s = q.collect registers s := by
  induction registers generalizing s with
  | nil => rfl
  | cons index registers ih =>
      rw [collect, collect]
      dsimp only
      rw [ih]
      rfl

variable (common : q.layout.Common) {o : Observer τ} {words : Nat}

include common

/-- A cycle that is followed far enough is done when it is first shown to be. -/
theorem poll_startCycle_patient {address before further : Nat} {s : σ}
    (first : q.DoneAfter before (q.startCycle words address s)) (within : before < further) :
    (q.patient further).poll (q.patient further).budget
        ((q.patient further).startCycle words address s)
      = (some (Hsfs.decode (q.pollStatus before (q.startCycle words address s))),
          q.afterPolls (before + 1) (q.startCycle words address s)) := by
  rw [poll_patient]
  exact poll_of_doneAfter common first within

theorem readBlocks_of_done (count : Nat) {address : Nat} {s : σ} {t : τ}
    (done : ∀ e, q.Starts o words count address s t e →
      ∃ polls, (q.pollStatus polls e).getLsbD 0 = true) :
    ∃ patience ending result s' t', Ending.result ending = some result ∧
      ∀ further, patience ≤ further →
        (q.patient further).readBlocks o words count address s t = (ending, s', t') := by
  induction count generalizing address s t with
  | zero => exact ⟨0, .completed, .ok (), s, o.finish t, rfl, fun _ _ => rfl⟩
  | succ count ih =>
      obtain ⟨before, first⟩ := exists_doneAfter (done _ .first)
      have polled {further : Nat} (enough : before + 1 ≤ further) :=
        poll_startCycle_patient common first enough
      rcases heard : o.hear (Call.ofCycle address
        ((q.pollStatus before (q.startCycle words address s)).getLsbD 1)) t with ⟨_ | _, t'⟩
      all_goals have told := (Observer.acknowledge_eq_hear o address
        (Hsfs.decode (q.pollStatus before (q.startCycle words address s))) t).trans heard
      · exact ⟨before + 1, .stopped, .ok (), _, t', rfl,
          fun further enough => readBlocks_of_decline (polled enough) told⟩
      rcases collected : q.collect (blockRegisters words)
        (q.afterPolls (before + 1) (q.startCycle words address s)) with ⟨data, s'⟩
      have read (further : Nat) := (collect_patient further _ _).trans collected
      rcases taken : o.block address data t' with ⟨_ | _, t''⟩
      · exact ⟨before + 1, .stopped, .ok (), s', t'', rfl,
          fun further enough => readBlocks_of_stop (polled enough) told (read further) taken⟩
      · obtain ⟨patience, ending, result, s'', t₃, ended, rest⟩ :=
          ih fun e starts => done e (.later first heard collected taken starts)
        refine ⟨max (before + 1) patience, ending, result, s'', t₃, ended, ?_⟩
        intro further enough
        rw [readBlocks_of_block (polled (le_of_max_le_left enough)) told (read further) taken]
        exact rest further (le_of_max_le_right enough)

/-- A read that is not left unfinished has followed its first cycle to the end. -/
theorem doneAfter_of_readBlocks {count address patience : Nat} {s s' : σ} {t t' : τ}
    {ending : Ending} (ended : ending ≠ .unfinished)
    (run : (q.patient patience).readBlocks o words (count + 1) address s t = (ending, s', t')) :
    ∃ before, before < patience ∧ q.DoneAfter before (q.startCycle words address s) := by
  rcases polled : (q.patient patience).poll (q.patient patience).budget
    ((q.patient patience).startCycle words address s) with ⟨_ | hsfs, s₁⟩
  · rw [readBlocks_of_timeout polled, Prod.mk.injEq] at run
    exact absurd run.1.symm ended
  · rw [poll_patient] at polled
    exact doneAfter_of_poll common polled

theorem done_of_readBlocks {count address patience : Nat} {s s' e : σ} {t t' : τ}
    {ending : Ending} (ended : ending ≠ .unfinished)
    (run : (q.patient patience).readBlocks o words count address s t = (ending, s', t'))
    (starts : q.Starts o words count address s t e) :
    ∃ polls, (q.pollStatus polls e).getLsbD 0 = true := by
  induction starts generalizing s' t' with
  | first =>
      obtain ⟨before, -, first⟩ := doneAfter_of_readBlocks common ended run
      exact ⟨before, first.done⟩
  | @later count address before s s₁ e t t₁ t₂ data first yes collected goesOn _ ih =>
      obtain ⟨other, within, same⟩ := doneAfter_of_readBlocks common ended run
      rw [← first.unique same] at within
      have told := (Observer.acknowledge_eq_hear o address
        (Hsfs.decode (q.pollStatus before (q.startCycle words address s))) t).trans yes
      have read := (collect_patient patience _ _).trans collected
      rw [readBlocks_of_block (poll_startCycle_patient common first within) told read goesOn] at run
      exact ih run

theorem read_patient (o : Observer τ) {r : Request} (accepted : r.Accepted) (patience : Nat) (s : σ)
    (t : τ) :
    (q.patient patience).read o r s t
      = if (q.pollStatus 0 s).getLsbD 5 then
          (some (.error .busy), q.afterPolls 1 s,
            o.notify .busy (o.notify (.status (Hsfs.decode (q.pollStatus 0 s))) t))
        else
          let (ending, s, t) := (q.patient patience).readBlocks o (r.blockSize / 4) r.blockCount
            r.start (q.afterPolls 1 s) (o.notify (.status (Hsfs.decode (q.pollStatus 0 s))) t)
          (ending.result, s, t) := by
  have steps : (q.patient patience).layout.Common := common
  exact read_of_accepted steps o accepted rfl t

/-- Without a limit a read ends just if each cycle that it starts is done at some poll. -/
theorem terminates_iff (o : Observer τ) {r : Request} (accepted : r.Accepted) (s : σ) (t : τ) :
    q.Terminates o r s t
      ↔ ∀ e, q.ReadStarts o r s t e → ∃ polls, (q.pollStatus polls e).getLsbD 0 = true := by
  constructor
  · rintro ⟨patience, result, s', t', ended⟩ e ⟨free, starts⟩
    have ended := ended patience (Nat.le_refl patience)
    rw [read_patient common o accepted, free, if_neg Bool.false_ne_true] at ended
    rcases blocks : (q.patient patience).readBlocks o (r.blockSize / 4) r.blockCount r.start
      (q.afterPolls 1 s) (o.notify (.status (Hsfs.decode (q.pollStatus 0 s))) t) with
      ⟨ending, s'', t''⟩
    refine done_of_readBlocks common ?_ blocks starts
    rintro rfl
    rw [blocks] at ended
    cases ended
  · intro done
    cases free : (q.pollStatus 0 s).getLsbD 5 with
    | true =>
        refine ⟨0, .error .busy, q.afterPolls 1 s,
          o.notify .busy (o.notify (.status (Hsfs.decode (q.pollStatus 0 s))) t), ?_⟩
        intro further _
        rw [read_patient common o accepted, free, if_pos rfl]
    | false =>
        obtain ⟨patience, ending, result, s', t', ended, blocks⟩ :=
          readBlocks_of_done common r.blockCount fun e starts => done e ⟨free, starts⟩
        refine ⟨patience, result, s', t', ?_⟩
        intro further enough
        rw [read_patient common o accepted, free, if_neg Bool.false_ne_true, blocks further enough,
          ← ended]

end Patience

end Sequencer

end FlashDump
