import FlashDump.Proofs.Sequencer.Footprint

/-!
# What a read refuses

Four conditions on a request are checked in a fixed order, and the first that is not met is the
reason for refusing it (`Request.firstFault`).  Nothing is done before a request is refused.

A request that meets all of them is refused for one reason only: the first look at HSFS shows a
cycle in progress.  What later looks show is no reason any more, since from then on a read ends
in one of the ways of `Ending`, and only a timeout is a failure (`Ending.timeout_of_result`).

The device is any device, and the read is watched: `Sequencer.watch` keeps all its accesses.
-/

namespace FlashDump

open FlashDump.Register

/-! ## Requests -/

namespace Request

/-- The conditions on a request in the order in which they are checked, each with the fault of a
request that does not meet it. -/
def conditions (r : Request) : List (ArgumentFault × Bool) :=
  [(.blockSizeRange, decide (4 ≤ r.blockSize ∧ r.blockSize ≤ 64)),
    (.blockSizeMultiple, decide (4 ∣ r.blockSize)),
    (.sizeMultiple, decide (r.blockSize ∣ r.size)),
    (.pastEnd, decide (r.start + r.size ≤ 2 ^ 25))]

/-- The fault of the first condition that is not met. -/
def firstFault (r : Request) : Option ArgumentFault :=
  (r.conditions.find? fun condition => !condition.2).map (·.1)

theorem map_find?_cons (fault : ArgumentFault) (p : Prop) [Decidable p]
    (rest : List (ArgumentFault × Bool)) :
    (((fault, decide p) :: rest).find? fun condition => !condition.2).map (·.1)
      = if p then (rest.find? fun condition => !condition.2).map (·.1) else some fault := by
  rw [List.find?_cons]
  by_cases met : p <;> simp [met]

theorem firstFault_eq_ite (r : Request) :
    r.firstFault
      = if 4 ≤ r.blockSize ∧ r.blockSize ≤ 64 then
          if 4 ∣ r.blockSize then
            if r.blockSize ∣ r.size then
              if r.start + r.size ≤ 2 ^ 25 then none else some .pastEnd
            else some .sizeMultiple
          else some .blockSizeMultiple
        else some .blockSizeRange := by
  simp only [firstFault, conditions, map_find?_cons, List.find?_nil, Option.map_none]

theorem firstFault_eq_none_iff (r : Request) : r.firstFault = none ↔ r.Accepted := by
  rw [firstFault_eq_ite]
  constructor
  · intro none
    split_ifs at none with range dwords blocks fits
    exact ⟨range.1, range.2, dwords, blocks, fits⟩
  · intro accepted
    have fits : r.start + r.size ≤ 2 ^ 25 := accepted.fits
    rw [if_pos ⟨accepted.four_le, accepted.le_sixtyFour⟩, if_pos accepted.dwords,
      if_pos accepted.blocks, if_pos fits]

theorem plan_of_firstFault {r : Request} {fault : ArgumentFault} (first : r.firstFault = some fault) :
    r.plan = .error fault := by
  rw [firstFault_eq_ite] at first
  unfold plan minBlockSize maxBlockSize fdataCount flashAddressSpace
  -- The last condition comes first here.
  split_ifs at first with range dwords blocks fits
  · cases first
    rw [dif_neg (by omega), dif_neg (by omega), dif_neg (by omega), dif_pos (by omega)]
  · cases first
    rw [dif_neg (by omega), dif_neg (by omega), dif_pos]
    exact fun none => blocks (Nat.dvd_of_mod_eq_zero none)
  · cases first
    rw [dif_neg (by omega), dif_pos (by omega)]
  · cases first
    rw [dif_pos (by omega)]

theorem firstFault_of_not_accepted {r : Request} (refused : ¬ r.Accepted) :
    ∃ fault, r.firstFault = some fault :=
  Option.ne_none_iff_exists'.1 (mt r.firstFault_eq_none_iff.1 refused)

end Request

/-! ## Reads -/

theorem Ending.timeout_of_result {ending : Ending} {e : ChipsetError}
    (failed : ending.result = some (.error e)) : ∃ address polls, e = .timeout address polls := by
  cases ending with
  | timedOut address polls => exact ⟨address, polls, by cases failed; rfl⟩
  | completed => cases failed
  | stopped => cases failed
  | unfinished => cases failed

namespace Sequencer

variable {σ τ : Type} {q : Sequencer σ}

/-- A read with a record of its accesses. -/
def watch (q : Sequencer σ) (o : Observer τ) (r : Request) (s : σ) (t : τ) :
    Option (Except ChipsetError Unit) × Recorded Access σ × τ :=
  (q.onDevice (q.device.recorded id)).read o r (.start true s) t

/-- The record changes nothing. -/
theorem read_eq_watch (q : Sequencer σ) (o : Observer τ) (r : Request) (s : σ) (t : τ) :
    q.read o r s t
      = ((q.watch o r s t).1, (q.watch o r s t).2.1.state, (q.watch o r s t).2.2) :=
  Sequencer.read_onDevice (q := q.onDevice (q.device.recorded id))
    (Mmio.projects_recorded id q.device) o r (.start true s) t

theorem watch_of_firstFault {r : Request} {fault : ArgumentFault} (first : r.firstFault = some fault)
    (o : Observer τ) (s : σ) (t : τ) :
    q.watch o r s t = (some (.error (.invalidArgument fault)), .start true s, t) := by
  rw [watch, read, Request.plan_of_firstFault first]

/-- The look at HSFS that comes before all cycles is on the record. -/
theorem watch_of_accepted (common : q.layout.Common) (o : Observer τ) {r : Request}
    (accepted : r.Accepted) {status : BitVec 16} {s s' : σ}
    (word : q.device.read .w16 (q.layout.offset Offset.hsfs) s = (status, s')) (t : τ) :
    q.watch o r s t
      = if status.getLsbD 5 then
          (some (.error .busy),
            .on s' [.read .w16 (q.layout.offset Offset.hsfs) status],
            o.notify .busy (o.notify (.status (Hsfs.decode status)) t))
        else
          let (ending, s, t) := (q.onDevice (q.device.recorded id)).readBlocks o (r.blockSize / 4)
            r.blockCount r.start (.on s' [.read .w16 (q.layout.offset Offset.hsfs) status])
            (o.notify (.status (Hsfs.decode status)) t)
          (ending.result, s, t) := by
  have recorded : (q.device.recorded id).read .w16 (q.layout.offset Offset.hsfs) (.on s [])
      = (status, .on s' [.read .w16 (q.layout.offset Offset.hsfs) status]) := by
    rw [Mmio.read_on, word]
    rfl
  exact read_of_accepted (q := q.onDevice (q.device.recorded id)) common o accepted recorded t

/-- What becomes of a request before its first cycle, in a read that looks at the given status
first. -/
structure Screens (q : Sequencer σ) (o : Observer τ) (r : Request) (s : σ) (t : τ)
    (status : BitVec 16) (s' : σ) : Prop where
  /-- The first condition that is not met is the reason. -/
  invalid : ∀ fault,
    (q.watch o r s t).1 = some (.error (.invalidArgument fault)) ↔ r.firstFault = some fault
  refused : (∃ fault, (q.watch o r s t).1 = some (.error (.invalidArgument fault))) ↔ ¬ r.Accepted
  untouched : ¬ r.Accepted → (q.watch o r s t).2 = (⟨s, true, #[]⟩, t)
  busy : r.Accepted → ((q.watch o r s t).1 = some (.error .busy) ↔ status.getLsbD 5 = true)
  /-- There is one access then, and no more than notes are made. -/
  looked : r.Accepted → status.getLsbD 5 = true →
    (q.watch o r s t).2
      = (⟨s', true, #[.read .w16 (q.layout.offset Offset.hsfs) status]⟩,
          o.notify .busy (o.notify (.status (Hsfs.decode status)) t))
  /-- After that a read fails by a timeout only. -/
  late : r.Accepted → status.getLsbD 5 = false → ∀ e, (q.watch o r s t).1 = some (.error e) →
    ∃ address polls, e = .timeout address polls
  empty : r.Accepted → status.getLsbD 5 = false → r.size = 0 →
    q.watch o r s t
      = (some (.ok ()), ⟨s', true, #[.read .w16 (q.layout.offset Offset.hsfs) status]⟩,
          o.finish (o.notify (.status (Hsfs.decode status)) t))

theorem screens (common : q.layout.Common) (o : Observer τ) (r : Request) {status : BitVec 16}
    {s s' : σ} (word : q.device.read .w16 (q.layout.offset Offset.hsfs) s = (status, s')) (t : τ) :
    q.Screens o r s t status s' := by
  have late (accepted : r.Accepted) (free : status.getLsbD 5 = false) (e : ChipsetError)
      (failed : (q.watch o r s t).1 = some (.error e)) :
      ∃ address polls, e = .timeout address polls := by
    rw [watch_of_accepted common o accepted word, free, if_neg Bool.false_ne_true] at failed
    exact Ending.timeout_of_result failed
  have busy (accepted : r.Accepted) (inProgress : status.getLsbD 5 = true) :=
    (watch_of_accepted common o accepted word t).trans (if_pos inProgress)
  have invalid (fault : ArgumentFault) :
      (q.watch o r s t).1 = some (.error (.invalidArgument fault))
        ↔ r.firstFault = some fault := by
    refine ⟨fun failed => ?_, fun first => by rw [watch_of_firstFault first]⟩
    by_contra other
    cases first : r.firstFault with
    | some fault' =>
        rw [watch_of_firstFault first] at failed
        cases failed
        exact other first
    | none =>
        have accepted := r.firstFault_eq_none_iff.1 first
        cases inProgress : status.getLsbD 5 with
        | true =>
            rw [busy accepted inProgress] at failed
            cases failed
        | false =>
            obtain ⟨address, polls, same⟩ := late accepted inProgress _ failed
            cases same
  constructor
  case invalid => exact invalid
  case refused =>
    constructor
    · rintro ⟨fault, failed⟩ accepted
      have none := r.firstFault_eq_none_iff.2 accepted
      rw [(invalid fault).1 failed] at none
      cases none
    · intro refused
      obtain ⟨fault, first⟩ := Request.firstFault_of_not_accepted refused
      exact ⟨fault, (invalid fault).2 first⟩
  case untouched =>
    intro refused
    obtain ⟨fault, first⟩ := Request.firstFault_of_not_accepted refused
    rw [watch_of_firstFault first]
    rfl
  case busy =>
    intro accepted
    constructor
    · intro failed
      by_contra free
      obtain ⟨address, polls, same⟩ := late accepted (Bool.eq_false_iff.2 free) _ failed
      cases same
    · intro inProgress
      rw [busy accepted inProgress]
  case looked =>
    intro accepted inProgress
    rw [busy accepted inProgress]
    rfl
  case late => exact late
  case empty =>
    intro accepted free nothing
    have none : r.blockCount = 0 := by rw [Request.blockCount, nothing, Nat.zero_div]
    rw [watch_of_accepted common o accepted word, free, if_neg Bool.false_ne_true, none]
    rfl

/-- A sum that does not fit 32 bits is past the end too. -/
example : Request.firstFault ⟨0xffffffc0, 64, 64⟩ = some .pastEnd := by decide

end Sequencer

end FlashDump
