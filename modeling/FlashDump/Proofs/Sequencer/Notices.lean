import FlashDump.Proofs.Sequencer.Limit

/-!
# What a read reports

One observer `Follows` another if they give the same answers, and if the state of the other is
what is seen of its own.  A read is then the same read with either (`Observer.Follows.read`).

`Observer.noting` is an observer that also keeps a list of what is reported to it.  It follows the
one that does not, and it follows every one that keeps what is reported in another way.  So what a
read reports is said once, whatever becomes of it (`Sequencer.Reports`).

The notices of a block are read off its passage (`Passage.notices`).  That all notices are those
of the passages, in order, is by induction on the transfer (`Sequencer.Transfer.notices`).
-/

namespace FlashDump

open FlashDump.Register

variable {σ τ υ κ : Type}

/-! ## Observers that follow others -/

/-- The state of one observer is what is seen of that of another, and their answers are the
same. -/
structure Observer.Follows (o : Observer τ) (o' : Observer υ) (view : τ → υ) : Prop where
  answer : ∀ call t, o'.answer call (view t) = ((o.answer call t).1, view (o.answer call t).2)

namespace Observer.Follows

variable {o : Observer τ} {o' : Observer υ} {view : τ → υ} (follows : o.Follows o' view)

include follows

theorem notify (n : Log.Notice) (t : τ) : o'.notify n (view t) = view (o.notify n t) :=
  congrArg Prod.snd (follows.answer (.notify n) t)

theorem finish (t : τ) : o'.finish (view t) = view (o.finish t) :=
  congrArg Prod.snd (follows.answer .done t)

theorem block (address : Nat) (data : List Byte) (t : τ) :
    o'.block address data (view t)
      = ((o.block address data t).1, view (o.block address data t).2) :=
  follows.answer (.block address data) t

theorem hear (calls : List Call) (t : τ) :
    o'.hear calls (view t) = ((o.hear calls t).1, view (o.hear calls t).2) := by
  induction calls generalizing t with
  | nil => rfl
  | cons call calls ih =>
      rw [Observer.hear, follows.answer, Observer.hear]
      rcases o.answer call t with ⟨_ | _, t'⟩
      · rfl
      · exact ih t'

theorem acknowledge (address : Nat) (hsfs : Hsfs) (t : τ) :
    Sequencer.acknowledge o' address hsfs (view t)
      = ((Sequencer.acknowledge o address hsfs t).1,
          view (Sequencer.acknowledge o address hsfs t).2) := by
  rw [acknowledge_eq_hear, acknowledge_eq_hear]
  exact follows.hear _ t

theorem giveUp (q : Sequencer σ) (address : Nat) (t : τ) :
    q.giveUp o' address (view t) = ((q.giveUp o address t).1, view (q.giveUp o address t).2) := by
  unfold Sequencer.giveUp
  cases q.limit with
  | unbounded => rfl
  | iterations polls => exact Prod.ext rfl (follows.notify _ t)

theorem readBlocks (q : Sequencer σ) (words count address : Nat) (s : σ) (t : τ) :
    q.readBlocks o' words count address s (view t)
      = ((q.readBlocks o words count address s t).1, (q.readBlocks o words count address s t).2.1,
          view (q.readBlocks o words count address s t).2.2) := by
  induction count generalizing address s t with
  | zero => exact Prod.ext rfl (Prod.ext rfl (follows.finish t))
  | succ count ih =>
      rw [Sequencer.readBlocks_succ, Sequencer.readBlocks_succ]
      rcases q.poll q.budget (q.startCycle words address s) with ⟨_ | hsfs, s⟩
      · dsimp only
        rw [follows.giveUp]
      · dsimp only
        rw [follows.acknowledge]
        rcases Sequencer.acknowledge o address hsfs t with ⟨_ | _, t⟩
        · rfl
        · dsimp only
          rw [follows.block]
          rcases o.block address (q.collect (Sequencer.blockRegisters words) s).1 t with ⟨_ | _, t⟩
          · rfl
          · exact ih _ _ _

/-- Nothing but the observer tells the two reads apart. -/
theorem read (q : Sequencer σ) (r : Request) (s : σ) (t : τ) :
    q.read o' r s (view t)
      = ((q.read o r s t).1, (q.read o r s t).2.1, view (q.read o r s t).2.2) := by
  rw [Sequencer.read, Sequencer.read]
  cases r.plan with
  | error fault => rfl
  | ok plan =>
      dsimp only
      rw [follows.notify]
      split
      · exact Prod.ext rfl (Prod.ext rfl (follows.notify _ _))
      · rw [follows.readBlocks]

end Observer.Follows

/-! ## Observers that keep what is reported -/

/-- The observer that also keeps what is reported, in a way of its own. -/
def Observer.keeping (o : Observer τ) (keep : Log.Notice → κ → κ) : Observer (τ × κ) where
  block address data t := ((o.block address data t.1).1, (o.block address data t.1).2, t.2)
  error := o.error.map fun choose address t =>
    ((choose address t.1).1, (choose address t.1).2, t.2)
  done := o.done.map fun learn t => (learn t.1, t.2)
  notify n t := (o.notify n t.1, keep n t.2)

/-- The observer that also keeps a list of all that is reported. -/
def Observer.noting (o : Observer τ) : Observer (τ × List Log.Notice) :=
  o.keeping fun n notices => notices ++ [n]

namespace Observer

/-- What a call reports. -/
def reported : Call → List Log.Notice
  | .notify n => [n]
  | _ => []

/-- Only what is reported is kept. -/
theorem answer_keeping (o : Observer τ) (keep : Log.Notice → κ → κ) (call : Call) (t : τ × κ) :
    (o.keeping keep).answer call t
      = ((o.answer call t.1).1, (o.answer call t.1).2,
          (reported call).foldl (fun kept n => keep n kept) t.2) := by
  cases call with
  | notify n => rfl
  | error address => cases asked : o.error <;> simp [answer, keeping, asked, reported]
  | block address data => simp [answer, keeping, reported]
  | done => cases learn : o.done <;> simp [answer, finish, keeping, learn, reported]

theorem answer_noting (o : Observer τ) (call : Call) (t : τ) (notices : List Log.Notice) :
    o.noting.answer call (t, notices)
      = ((o.answer call t).1, (o.answer call t).2, notices ++ reported call) := by
  rw [noting, answer_keeping]
  cases call with
  | notify n => rfl
  | _ => exact congrArg (fun kept => (_, _, kept)) (List.append_nil notices).symm

theorem noting_follows (o : Observer τ) : o.noting.Follows o Prod.fst where
  answer call t := by rw [answer_noting]

/-- What is kept in any way can be made of the list. -/
theorem noting_follows_keeping (o : Observer τ) (keep : Log.Notice → κ → κ) (kept : κ) :
    o.noting.Follows (o.keeping keep)
      fun t => (t.1, t.2.foldl (fun kept n => keep n kept) kept) where
  answer call t := by rw [answer_keeping, answer_noting, List.foldl_append]

theorem hear_noting_singleton (o : Observer τ) (call : Call) (t : τ) (notices : List Log.Notice) :
    (o.noting.hear [call] (t, notices)).2.2 = notices ++ reported call := by
  rw [hear, answer_noting]
  rcases o.answer call t with ⟨_ | _, t'⟩ <;> rfl

/-- All notices about a cycle come before the observer is asked. -/
theorem hear_noting_ofCycle (o : Observer τ) (address : Nat) (failed : Bool) (t : τ)
    (notices : List Log.Notice) :
    (o.noting.hear (Call.ofCycle address failed) (t, notices)).2.2
      = notices ++ .cycleDone address :: if failed then [.cycleError address] else [] := by
  cases failed with
  | false => exact hear_noting_singleton o _ t notices
  | true =>
      have last := hear_noting_singleton o (.error address)
        (o.notify (.cycleError address) (o.notify (.cycleDone address) t))
        (notices ++ [.cycleDone address] ++ [.cycleError address])
      have silent : reported (.error address) = [] := rfl
      refine last.trans ?_
      rw [silent, List.append_nil, List.append_assoc]
      rfl

end Observer

/-! ## The notices of a read -/

/-- What is reported of a cycle that is given up, if there is a limit at all. -/
def PollLimit.notices (limit : PollLimit) (address : Nat) : List Log.Notice :=
  match limit with
  | .unbounded => []
  | .iterations _ => [.timeout address]

namespace Passage

/-- The notices about the block of a passage.  That its cycle failed is told by the poll that
shows it done. -/
def notices (limit : PollLimit) (p : Passage) : List Log.Notice :=
  match p.last with
  | some status => .cycleDone p.address :: if status.getLsbD 1 then [.cycleError p.address] else []
  | none => limit.notices p.address

variable {limit : PollLimit} {p : Passage} {address budget : Nat}

theorem Polled.notices_of_done {status : BitVec 16}
    (polled : p.Polled address budget (some status)) :
    p.notices limit
      = .cycleDone address :: if status.getLsbD 1 then [.cycleError address] else [] := by
  simp only [notices, polled.last_eq, polled.address_eq]

theorem Polled.notices_of_waiting (polled : p.Polled address budget none) :
    p.notices limit = limit.notices address := by
  simp only [notices, polled.last_eq, polled.address_eq]

end Passage

namespace Sequencer

variable {q : Sequencer σ} {o : Observer τ}

theorem giveUp_noting (q : Sequencer σ) (o : Observer τ) (address : Nat) (t : τ)
    (notices : List Log.Notice) :
    (q.giveUp o.noting address (t, notices)).2.2 = notices ++ q.limit.notices address := by
  unfold giveUp
  cases q.limit with
  | unbounded => exact (List.append_nil notices).symm
  | iterations polls => rfl

/-- Every block adds its notices, whatever way it ends. -/
theorem Transfer.notices {blockSize count address : Nat} {t t' : τ × List Log.Notice}
    {passages : List Passage} {ending : Ending}
    (transfer : q.Transfer o.noting blockSize count address t passages ending t') :
    t'.2 = t.2 ++ passages.flatMap (Passage.notices q.limit) := by
  -- The notices of a cycle that is done, and what is left of them once the block is taken.
  have done {p : Passage} {address : Nat} {status : BitVec 16} {t u : τ × List Log.Notice}
      {yes : Bool} (polled : p.Polled address q.budget (some status))
      (heard : o.noting.hear (Call.ofCycle address (status.getLsbD 1)) t = (yes, u)) :
      u.2 = t.2 ++ p.notices q.limit := by
    rw [polled.notices_of_done, ← o.hear_noting_ofCycle, heard]
  have taken {p : Passage} {address : Nat} {t u : τ × List Log.Notice} {yes : Bool}
      (answered : o.noting.block address p.bytes t = (yes, u)) : u.2 = t.2 := by
    rw [← (Prod.mk.inj answered).2]
  induction transfer with
  | @completed _ t =>
      rw [List.flatMap_nil]
      exact congrArg (fun answer => answer.2.2) (o.answer_noting .done t.1 t.2)
  | @abandoned _ address t p polled _ =>
      rw [List.flatMap_singleton, polled.notices_of_waiting]
      exact giveUp_noting q o address t.1 t.2
  | declined polled no _ =>
      rw [List.flatMap_singleton]
      exact done polled no
  | stopped polled yes _ no =>
      rw [List.flatMap_singleton, taken no]
      exact done polled yes
  | next polled yes _ goesOn _ ih =>
      rw [ih, taken goesOn, done polled yes, List.flatMap_cons, List.append_assoc]

/-! ## The whole read -/

/-- What a read reports whose accesses are one read of HSFS, which gave `status`, and then those
of the passages. -/
structure Reports (q : Sequencer σ) (r : Request) (status : BitVec 16) (passages : List Passage)
    (result : Option (Except ChipsetError Unit)) (notices : List Log.Notice) : Prop where
  busy : status.getLsbD 5 = true →
    passages = [] ∧ result = some (.error .busy) ∧
      notices = [.status (Hsfs.decode status), .busy]
  free : status.getLsbD 5 = false →
    notices = .status (Hsfs.decode status) :: passages.flatMap (Passage.notices q.limit)
  addresses : passages.map Passage.address = r.addresses.take passages.length
  polled : ∀ p ∈ passages, p.Polled p.address q.budget p.last
  /-- A cycle that was not shown to be done is the last. -/
  late : ∀ p ∈ passages, p.last = none →
    (∃ before, passages = before ++ [p] ∧ ∀ b ∈ before, b.last ≠ none) ∧
      ∀ polls, q.limit = .iterations polls →
        result = some (.error (.timeout p.address (max polls 1)))
  inTime : status.getLsbD 5 = false → (∀ p ∈ passages, p.last ≠ none) → result = some (.ok ())

theorem Footprint.reports {r : Request} {t : τ} {t' : τ × List Log.Notice} {status : BitVec 16}
    {passages : List Passage} {result : Option (Except ChipsetError Unit)}
    (footprint : q.Footprint o.noting r (t, []) status passages result t') :
    q.Reports r status passages result t'.2 := by
  have none_of_busy (busy : status.getLsbD 5 = true) {p : Passage} : p ∉ passages := by
    rw [(footprint.busy busy).1]
    exact List.not_mem_nil
  constructor
  case busy =>
    intro busy
    obtain ⟨nothing, result, told⟩ := footprint.busy busy
    exact ⟨nothing, result, told ▸ rfl⟩
  case free =>
    intro free
    obtain ⟨_, _, transfer⟩ := footprint.blocks free
    exact transfer.notices
  case addresses => exact footprint.addresses
  case polled =>
    intro p member
    cases busy : status.getLsbD 5 with
    | true => exact absurd member (none_of_busy busy)
    | false =>
        obtain ⟨_, _, transfer⟩ := footprint.blocks busy
        exact transfer.polled p member
  case late =>
    intro p member waiting
    cases busy : status.getLsbD 5 with
    | true => exact absurd member (none_of_busy busy)
    | false =>
        obtain ⟨ending, rfl, delivered | ⟨before, last, u, abandoned⟩⟩ :=
          footprint.delivered_or_abandoned busy
        · exact absurd waiting (delivered.done p member)
        · obtain rfl := abandoned.eq_of_waiting member waiting
          refine ⟨⟨before, abandoned.passages_eq, abandoned.done⟩, ?_⟩
          intro polls limited
          have gaveUp := abandoned.gaveUp
          rw [giveUp, limited, budget, limited, Prod.mk.injEq] at gaveUp
          rw [← gaveUp.1]
          rfl
  case inTime =>
    intro free done
    obtain ⟨ending, rfl, delivered | ⟨before, last, u, abandoned⟩⟩ :=
      footprint.delivered_or_abandoned free
    · exact delivered.result
    · exact absurd abandoned.waiting (done last abandoned.last_mem)

end Sequencer

end FlashDump
