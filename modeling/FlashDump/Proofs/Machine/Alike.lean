import FlashDump.Proofs.Machine.Aftermath

/-!
# The same read on two controllers

What a read delivers depends on the flash and the faults of the controller, and on nothing
else that it holds.  `Controller.Alike` says that two controllers have these in common.
Their registers, their places and their families may all be different.

The same read is run on both.  `Sequencer.block_of_drives` is one block on one controller, in
terms of what alike controllers have in common, and `Sequencer.readBlocks_alike` takes the two
reads from block to block, by induction on their number.

The observers of the two reads are told different notices, since a notice may hold a register.
So the observer must be `Blind`: notices do not change what it answers.  Observers that
are made of callbacks are blind, and so are those of a policy.
-/

namespace FlashDump

open FlashDump.Register

/-! ## Observers that do not look at notices -/

/-- States that are the `same` to an observer stay so whatever notices it is given, and get the
same answers to the same calls. -/
structure Observer.Blind {τ : Type} (o : Observer τ) (same : τ → τ → Prop) : Prop where
  notify : ∀ n n' t t', same t t' → same (o.notify n t) (o.notify n' t')
  answer : ∀ call t t', same t t' →
    (o.answer call t).1 = (o.answer call t').1 ∧ same (o.answer call t).2 (o.answer call t').2

namespace Observer.Blind

variable {τ : Type} {o : Observer τ} {same : τ → τ → Prop} {t t' : τ}

/-- Two answers that agree, taken apart. -/
theorem both {answer answer' : Bool × τ}
    (agree : answer.1 = answer'.1 ∧ same answer.2 answer'.2) :
    ∃ yes u u', answer = (yes, u) ∧ answer' = (yes, u') ∧ same u u' :=
  ⟨answer.1, answer.2, answer'.2, rfl, Prod.ext agree.1.symm rfl, agree.2⟩

theorem hear (blind : o.Blind same) (calls : List Call) (told : same t t') :
    (o.hear calls t).1 = (o.hear calls t').1 ∧ same (o.hear calls t).2 (o.hear calls t').2 := by
  induction calls generalizing t t' with
  | nil => exact ⟨rfl, told⟩
  | cons call calls ih =>
      obtain ⟨yes, u, u', answer, answer', told⟩ := both (blind.answer call t t' told)
      rw [Observer.hear, Observer.hear, answer, answer']
      cases yes with
      | false => exact ⟨rfl, told⟩
      | true => exact ih told

/-- What is heard of a cycle that is done depends on whether it failed. -/
theorem acknowledge (blind : o.Blind same) (address : Nat) {hsfs hsfs' : Hsfs}
    (failed : hsfs'.flashCycleError = hsfs.flashCycleError) (told : same t t') :
    ∃ yes u u', Sequencer.acknowledge o address hsfs t = (yes, u) ∧
      Sequencer.acknowledge o address hsfs' t' = (yes, u') ∧ same u u' := by
  rw [Observer.acknowledge_eq_hear, Observer.acknowledge_eq_hear, failed]
  exact both (blind.hear _ told)

theorem block (blind : o.Blind same) (address : Nat) (data : List Byte) (told : same t t') :
    ∃ yes u u', o.block address data t = (yes, u) ∧ o.block address data t' = (yes, u') ∧
      same u u' :=
  both (blind.answer (.block address data) t t' told)

theorem finish (blind : o.Blind same) (told : same t t') : same (o.finish t) (o.finish t') :=
  (blind.answer .done t t' told).2

end Observer.Blind

theorem Callbacks.blind (k : Callbacks) : k.observer.Blind Eq where
  notify _ _ _ _ told := told
  answer _ _ _ told := by rw [told]; exact ⟨rfl, rfl⟩

/-- To a policy, states are the same if what was delivered is. -/
theorem Policy.blind (p : Policy) : p.observer.Blind fun t t' => t.1 = t'.1 where
  notify _ _ _ _ told := told
  answer call t t' told := by
    cases call with
    | notify n => exact ⟨rfl, told⟩
    | error address =>
        cases asked : p.error with
        | none => simp [Observer.answer, observer, asked, told]
        | some choose => simp [Observer.answer, observer, asked, told]
    | block address data => simp [Observer.answer, observer, told]
    | done =>
        cases learn : p.done with
        | false => simp [Observer.answer, Observer.finish, observer, learn, told]
        | true => simp [Observer.answer, Observer.finish, observer, learn, told]

/-! ## Controllers that are alike -/

/-- Two controllers with the same flash contents and the same faults. -/
structure Controller.Alike (c d : Controller) : Prop where
  flash : ∀ address, d.flash.byteAt address = c.flash.byteAt address
  errors : ∀ address, d.errors.contains address = c.errors.contains address
  stuck : d.stuck = c.stuck
  delay : d.delay = c.delay

namespace Controller

namespace Alike

variable {c d c' d' : Controller}

theorem kin (alike : c.Alike d) (first : c.Kin c') (second : d.Kin d') : c'.Alike d' where
  flash address := by rw [second.flash, first.flash, alike.flash]
  errors address := by rw [second.errors, first.errors, alike.errors]
  stuck := by rw [second.stuck, first.stuck, alike.stuck]
  delay := by rw [second.delay, first.delay, alike.delay]

theorem slice (alike : c.Alike d) (address count : Nat) :
    d.flash.slice address count = c.flash.slice address count :=
  List.map_congr_left fun _ _ => alike.flash _

theorem endsWithin (alike : c.Alike d) (polls : Nat) : d.endsWithin polls = c.endsWithin polls := by
  rw [Controller.endsWithin, Controller.endsWithin, alike.stuck, alike.delay]

end Alike

/-- A read leaves SCIP alone. -/
theorem Aftermath.busy {blockSize : Nat} {started : List Nat} {c d : Controller}
    (after : c.Aftermath blockSize started d) :
    d.hsfs.spiCycleInProgress = c.hsfs.spiCycleInProgress := by
  cases last : started.getLast? with
  | none =>
      rw [hsfs, hsfs, after.kin.spiBar, after.untouched (List.getLast?_eq_none_iff.1 last)]
  | some address => exact (after.settled address last).status_kept 5 (by decide)

end Controller

/-! ## The two reads -/

namespace Sequencer

variable {τ : Type} {q q' : Sequencer Controller} {c d : Controller}

/-- One block: either its cycle does not end in time, or it gives the flash and says whether
the address is one that fails. -/
theorem block_of_drives (drives : q.Drives c) {words address : Nat} (positive : 0 < words)
    (few : words ≤ fdataCount) (fits : address < flashAddressSpace) :
    ∃ status e, c.Kin e ∧ e.cycles = c.cycles + 1 ∧
      q.poll q.budget (q.startCycle words address c)
        = (if c.endsWithin q.budget then some (Hsfs.decode status) else none, e) ∧
      (c.endsWithin q.budget = true →
        (Hsfs.decode status).flashCycleError = c.errors.contains address ∧
          q.collect (blockRegisters words) e = (c.flash.slice address (4 * words), e)) := by
  have room : 4 * words ≤ 64 := by
    unfold fdataCount at few
    omega
  have settled : c.Settled (4 * words) address (c.launch (4 * words) address) :=
    Controller.settled_launch drives.fits (by omega) room ⟨words, rfl⟩ fits
  have kin : c.Kin (c.launch (4 * words) address) := Controller.kin_launch _ _ c
  obtain ⟨pending, polled⟩ := poll_startCycle drives positive few fits c.pending
  refine ⟨_, _, kin.trans (.pending _ pending), rfl, polled, ?_⟩
  intro ends
  have free : c.stuck = false := by
    rw [Controller.endsWithin, Bool.and_eq_true, Bool.not_eq_true'] at ends
    exact ends.1
  have failed := settled.failed
  have filled := settled.filled
  rw [free] at failed filled
  refine ⟨failed, ?_⟩
  rw [collect_eq (drives.kin (kin.trans (.pending _ pending))) few]
  exact congrArg (·, _) filled

section Alike

variable {o : Observer τ} {same : τ → τ → Prop} (blind : o.Blind same)
  (limit : q'.limit = q.limit) (budget : q'.budget = q.budget)

include blind limit budget

theorem giveUp_alike (address : Nat) {t t' : τ} (told : same t t') :
    (q'.giveUp o address t').1 = (q.giveUp o address t).1 ∧
      same (q.giveUp o address t).2 (q'.giveUp o address t').2 := by
  rw [giveUp, giveUp, limit, budget]
  cases q.limit with
  | unbounded => exact ⟨rfl, told⟩
  | iterations polls => exact ⟨rfl, blind.notify _ _ _ _ told⟩

theorem readBlocks_alike (drives : q.Drives c) (drives' : q'.Drives d) (alike : c.Alike d)
    {words : Nat} (positive : 0 < words) (few : words ≤ fdataCount) (count : Nat) {address : Nat}
    (fits : address + count * (4 * words) ≤ flashAddressSpace) {t t' : τ} (told : same t t') :
    ∃ ending cycles e e' u u',
      q.readBlocks o words count address c t = (ending, e, u) ∧
      q'.readBlocks o words count address d t' = (ending, e', u') ∧
      same u u' ∧ e.cycles = c.cycles + cycles ∧ e'.cycles = d.cycles + cycles := by
  induction count generalizing c d address t t' with
  | zero => exact ⟨.completed, 0, c, d, o.finish t, o.finish t', rfl, rfl, blind.finish told, rfl, rfl⟩
  | succ count ih =>
      rw [Nat.succ_mul] at fits
      have inside : address < flashAddressSpace := by omega
      have rest_fits : address + 4 * words + count * (4 * words) ≤ flashAddressSpace := by omega
      obtain ⟨status, e, kin, once, polled, block⟩ := block_of_drives drives positive few inside
      obtain ⟨status', e', kin', once', polled', block'⟩ :=
        block_of_drives drives' positive few inside
      have both : d.endsWithin q'.budget = c.endsWithin q.budget := by rw [budget, alike.endsWithin]
      rw [both] at polled' block'
      rw [alike.errors, alike.slice] at block'
      cases intime : c.endsWithin q.budget with
      | false =>
          rw [intime, if_neg Bool.false_ne_true] at polled polled'
          obtain ⟨ending, told⟩ := giveUp_alike blind limit budget address told
          have run : q.readBlocks o words (count + 1) address c t = _ := readBlocks_of_timeout polled
          have run' : q'.readBlocks o words (count + 1) address d t' = _ :=
            readBlocks_of_timeout polled'
          rw [ending] at run'
          exact ⟨_, 1, e, e', _, _, run, run', told, once, once'⟩
      | true =>
          rw [intime, if_pos rfl] at polled polled'
          obtain ⟨failed, collected⟩ := block intime
          obtain ⟨failed', collected'⟩ := block' intime
          obtain ⟨yes, u, u', acknowledged, acknowledged', told⟩ :=
            blind.acknowledge address (failed'.trans failed.symm) told
          cases yes with
          | false =>
              exact ⟨.stopped, 1, e, e', u, u', readBlocks_of_decline polled acknowledged,
                readBlocks_of_decline polled' acknowledged', told, once, once'⟩
          | true =>
              obtain ⟨yes, v, v', taken, taken', told⟩ :=
                blind.block address (c.flash.slice address (4 * words)) told
              cases yes with
              | false =>
                  exact ⟨.stopped, 1, e, e', v, v',
                    readBlocks_of_stop polled acknowledged collected taken,
                    readBlocks_of_stop polled' acknowledged' collected' taken', told, once, once'⟩
              | true =>
                  obtain ⟨ending, cycles, f, f', w, w', run, run', told, more, more'⟩ :=
                    ih (drives.kin kin) (drives'.kin kin') (alike.kin kin kin') rest_fits told
                  refine ⟨ending, cycles + 1, f, f', w, w',
                    (readBlocks_of_block polled acknowledged collected taken).trans run,
                    (readBlocks_of_block polled' acknowledged' collected' taken').trans run', told,
                    ?_, ?_⟩
                  · rw [more, once]
                    omega
                  · rw [more', once']
                    omega

theorem read_alike (drives : q.Drives c) (drives' : q'.Drives d) (alike : c.Alike d)
    (busy : d.hsfs.spiCycleInProgress = c.hsfs.spiCycleInProgress) (r : Request) {t t' : τ}
    (told : same t t') :
    ∃ result cycles e e' u u',
      q.read o r c t = (result, e, u) ∧ q'.read o r d t' = (result, e', u') ∧
      same u u' ∧ e.cycles = c.cycles + cycles ∧ e'.cycles = d.cycles + cycles := by
  rw [read, read]
  cases r.plan with
  | error fault =>
      exact ⟨some (.error (.invalidArgument fault)), 0, c, d, t, t', rfl, rfl, told, rfl, rfl⟩
  | ok plan =>
      obtain ⟨shown, looked⟩ := readHsfs_of_drives drives
      obtain ⟨shown', looked'⟩ := readHsfs_of_drives drives'
      have told := blind.notify (.status (q.layout.readHsfs q.device c).1)
        (.status (q'.layout.readHsfs q'.device d).1) t t' told
      have kin : c.Kin { c with pending := c.pending - 1 } := .pending c _
      have kin' : d.Kin { d with pending := d.pending - 1 } := .pending d _
      dsimp only
      rw [shown, shown', busy, looked, looked']
      cases c.hsfs.spiCycleInProgress with
      | true =>
          exact ⟨some (.error .busy), 0, _, _, _, _, rfl, rfl, blind.notify _ _ _ _ told, rfl, rfl⟩
      | false =>
          obtain ⟨ending, cycles, e, e', u, u', run, run', told, more, more'⟩ :=
            readBlocks_alike blind limit budget (drives.kin kin) (drives'.kin kin')
              (alike.kin kin kin') plan.words_pos plan.words_le plan.count plan.fits told
          rw [if_neg Bool.false_ne_true, if_neg Bool.false_ne_true, run, run']
          exact ⟨ending.result, cycles, e, e', u, u', rfl, rfl, told, more, more'⟩

end Alike

end Sequencer

/-! ## The machines of two chipsets -/

namespace Chipset

variable {τ : Type} {c c' : Chipset} {s s' : RecordedMachine}

/-- A read leaves SCIP alone. -/
theorem busy_readFlash (known : c.family ∈ Catalogue.families)
    (place : s.state.controller.spiBar = c.layout.spiBar) (o : Observer τ) (r : Request) (t : τ) :
    (c.readFlash recordedPlatform o r s t).2.1.state.controller.hsfs.spiCycleInProgress
      = s.state.controller.hsfs.spiCycleInProgress := by
  obtain ⟨started, -, after⟩ := Sequencer.read_aftermath (drives_of_known known place) o r t
  rw [controller_readFlash]
  exact after.busy

/-- The same read of two chipsets whose controllers are alike. -/
theorem readFlash_alike (known : c.family ∈ Catalogue.families)
    (known' : c'.family ∈ Catalogue.families)
    (place : s.state.controller.spiBar = c.layout.spiBar)
    (place' : s'.state.controller.spiBar = c'.layout.spiBar)
    (alike : s.state.controller.Alike s'.state.controller) (limit : c'.pollLimit = c.pollLimit)
    (busy : s'.state.controller.hsfs.spiCycleInProgress
      = s.state.controller.hsfs.spiCycleInProgress)
    {o : Observer τ} {same : τ → τ → Prop} (blind : o.Blind same) (r : Request) {t t' : τ}
    (told : same t t') :
    ∃ result cycles e e' u u',
      c.readFlash recordedPlatform o r s t = (result, e, u) ∧
      c'.readFlash recordedPlatform o r s' t' = (result, e', u') ∧ same u u' ∧
      e.state.controller.cycles = s.state.controller.cycles + cycles ∧
      e'.state.controller.cycles = s'.state.controller.cycles + cycles := by
  have budget : (c'.sequencer recordedPlatform s').budget = (c.sequencer recordedPlatform s).budget := by
    have patience : (c'.sequencer recordedPlatform s').patience
        = (c.sequencer recordedPlatform s).patience := congrArg (· + 1) alike.delay
    have limits : (c'.sequencer recordedPlatform s').limit
        = (c.sequencer recordedPlatform s).limit := limit
    rw [Sequencer.budget, Sequencer.budget, limits, patience]
  obtain ⟨result, cycles, e, e', u, u', run, run', told, more, more'⟩ :=
    Sequencer.read_alike blind limit budget (drives_of_known known place)
      (drives_of_known known' place') alike busy r told
  have seen := controller_readFlash c o r s t
  have seen' := controller_readFlash c' o r s' t'
  have projects (s : RecordedMachine) (c : Chipset) :
      (c.sequencer recordedPlatform s).device.Projects Controller.mmio
        fun s => s.state.controller := projects_controller
  have both := Sequencer.read_onDevice (projects s c) o r s t
  have both' := Sequencer.read_onDevice (projects s' c') o r s' t'
  rw [run, Prod.mk.injEq, Prod.mk.injEq] at both
  rw [run', Prod.mk.injEq, Prod.mk.injEq] at both'
  refine ⟨result, cycles, _, _, u, u', Prod.ext both.1.symm (Prod.ext rfl both.2.2.symm),
    Prod.ext both'.1.symm (Prod.ext rfl both'.2.2.symm), told, ?_, ?_⟩
  · rw [seen, run, more]
  · rw [seen', run', more']

end Chipset

end FlashDump
