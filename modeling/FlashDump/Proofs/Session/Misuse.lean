import FlashDump.Proofs.Checked.Session
import FlashDump.Proofs.Session.History

/-!
# Misuse of a session

A session is misused in two ways: by reaching for the window while it is not mapped, and by asking
for a register past the end of its row.  `Session.misuse?` tells which of the two a step is, if it
is one of them.  It looks at the step and at whether the window is mapped, and at nothing else.

Nothing but misuse stops a checked step (`step_faults_by_misuse`).  No word overflows on the way,
whatever the registers hold and whatever is asked for.  Where misuse does stop it, nothing was done
before: the chipset, the machine and the record are those that the step found.
-/

namespace FlashDump

/-! ## Steps that are misuse -/

/-- Whether a step reaches for the window. -/
def Step.needsWindow : Step → Bool
  | .base | .readWindow _ | .write _ | .writeWord _ _ | .access _ | .readFlash _ _ => true
  | _ => false

/-- The row and the index of the register that a step reads, if it is one of a row. -/
def Step.register? : Step → Option (RegisterRow × Nat)
  | .readWindow (.fdata index) => some (.fdata, index)
  | .readWindow (.freg index) => some (.freg, index)
  | .readWindow (.pr index) => some (.pr, index)
  | _ => none

/-- The misuse of asking for a register past the end of its row. -/
def Step.missing? (st : Step) : Option Misuse :=
  st.register?.bind fun (row, index) =>
    if row.count ≤ index then some (row.misuse index) else none

namespace Session

/-- The misuse that a step is.  That the window is not mapped comes first. -/
def misuse? (s : Session) (st : Step) : Option Misuse :=
  if st.needsWindow && !s.chipset.isMapped then some .notMapped else st.missing?

variable {s : Session} {st : Step} {m : Misuse}

theorem readWindow_eq_error_iff {target : WindowTarget} :
    s.readWindow target = .error m ↔ (Step.readWindow target).missing? = some m := by
  cases target with
  | fdata index | freg index | pr index =>
      rw [readWindow, Step.missing?, Step.register?, Option.bind_some]
      dsimp only [RegisterRow.count, RegisterRow.misuse]
      split
      · rename_i below
        simp [answer, Nat.not_le.2 below]
      · rename_i past
        simp [Nat.not_lt.1 past]
  | _ => simp [readWindow, answer, Step.missing?, Step.register?]

/-- A step is refused just where it is misuse. -/
theorem step_eq_error_iff : s.step st = .error m ↔ s.misuse? st = some m := by
  cases held : s.chipset.window with
  | none =>
      have bare : s.chipset.isMapped = false := by rw [Chipset.isMapped, held]; rfl
      cases st <;>
        simp [step, mapped, held, misuse?, bare, Step.needsWindow, Step.missing?, Step.register?]
  | some base =>
      have mapped : s.chipset.isMapped = true := by rw [Chipset.isMapped, held]; rfl
      cases st with
      | readWindow target =>
          rw [step, Session.mapped, held, misuse?, mapped, Bool.not_true, Bool.and_false]
          exact readWindow_eq_error_iff
      | _ => simp [step, Session.mapped, held, misuse?, mapped, Step.missing?, Step.register?]

theorem step_of_misuse_eq_none (proper : s.misuse? st = none) :
    ∃ answer s', s.step st = .ok (answer, s') := by
  cases made : s.step st with
  | error m =>
      rw [step_eq_error_iff.1 made] at proper
      cases proper
  | ok after => exact ⟨after.1, after.2, rfl⟩

/-- After misuse a session goes on as if the step had not been made. -/
theorem play_of_misuse (bad : s.misuse? st = some m) (rest : List Step) :
    s.play (st :: rest) = (⟨.error m, []⟩ :: (s.play rest).1, (s.play rest).2) := by
  rw [play, turn_of_misuse (step_eq_error_iff.2 bad)]

/-- A register of a row is one read of 32 bits. -/
theorem step_of_register (mapped : s.chipset.isMapped = true) {row : RegisterRow} {index : Nat}
    (asked : st.register? = some (row, index)) (below : index < row.count) :
    ∃ answer, s.step st = .ok (answer, s.withHardware (s.context.hardware.after s.machine
      [s.machine.windowEvent .w32 (s.chipset.layout.spiBar + (row.base + 4 * index))])) := by
  obtain ⟨base, held⟩ := Option.isSome_iff_exists.1 mapped
  have word : Width.w32 ≠ .w16 := by decide
  have read (offset : Nat) := recordedPlatform_read_of_width s.context.hardware word offset
  cases st with
  | readWindow target =>
      rw [step, Session.mapped, held]
      cases target with
      | fdata index | freg index | pr index =>
          cases asked
          dsimp only [RegisterRow.count] at below
          rw [readWindow, dif_pos below]
          exact ⟨_, by
            rw [answer]
            simp only [Layout.readFdata, Layout.readFreg, Layout.readPr, Mmio.read32, read]
            rfl⟩
      | _ => cases asked
  | _ => cases asked

/-! ## Checked steps -/

/-- The session with an empty recorder that is switched on. -/
def watch (s : Session) : Session := s.withHardware (.start true s.machine)

/-- What misuse is to a checked step, and that it is the only fault. -/
structure FaultsByMisuse (s : Session) (st : Step) : Prop where
  stops : ∀ fault s', (Checked.step st).run s = .error fault s' ↔
    ∃ m, s.misuse? st = some m ∧ fault = .misuse m ∧ s' = s
  runs : s.misuse? st = none → ∃ answer s',
    (Checked.step st).run s = .ok answer s' ∧ s.step st = .ok (answer, s')
  skipped : ∀ m, s.misuse? st = some m →
    s.turn st = (⟨.error m, []⟩, s) ∧
      ∀ rest, s.play (st :: rest) = (⟨.error m, []⟩ :: (s.play rest).1, (s.play rest).2)
  register : s.chipset.isMapped = true → ∀ row index, st.register? = some (row, index) →
    index < row.count →
      ∃ answer, s.step st = .ok (answer, s.withHardware (s.context.hardware.after s.machine
        [s.machine.windowEvent .w32 (s.chipset.layout.spiBar + (row.base + 4 * index))]))

theorem faultsByMisuse_of_run (run : (Checked.step st).run s = Checked.outcome s (s.step st)) :
    s.FaultsByMisuse st where
  stops fault s' := by
    cases judged : s.misuse? st with
    | none =>
        obtain ⟨answer, s'', made⟩ := step_of_misuse_eq_none judged
        simp [run, made, Checked.outcome]
    | some m =>
        simp [run, step_eq_error_iff.2 judged, Checked.outcome, eq_comm]
  runs proper := by
    obtain ⟨answer, s', made⟩ := step_of_misuse_eq_none proper
    rw [run, made]
    exact ⟨answer, s', rfl, rfl⟩
  skipped m bad := ⟨turn_of_misuse (step_eq_error_iff.2 bad), play_of_misuse bad⟩
  register mapped _ _ asked below := step_of_register mapped asked below

/-- Misuse is all that can stop a step, and it stops the step before anything is done.  With the
recorder switched on, what was done until then would show.

The polls of a cycle are counted by a word of 64 bits, so their limit is below that.  Where they
have no limit, a cycle is followed no further. -/
theorem step_faults_by_misuse (reached : s.Reachable)
    (place : s.machine.controller.spiBar = s.chipset.layout.spiBar)
    (allowed : st.Allowed s.machine.controller)
    (counted : (s.chipset.sequencer recordedPlatform s.context.hardware).budget < 2 ^ 64) :
    s.FaultsByMisuse st ∧ s.watch.FaultsByMisuse st := by
  have fits := Catalogue.spiBar_fits reached.known
  have placed : Checked.Placed s.context.hardware := by
    rw [Checked.Placed, show s.context.hardware.state.controller.spiBar = _ from place]
    exact fits
  have watched : Checked.Placed s.watch.context.hardware := placed
  exact ⟨faultsByMisuse_of_run (Checked.step_run reached.known placed allowed counted),
    faultsByMisuse_of_run (Checked.step_run (s := s.watch) reached.known watched allowed counted)⟩

/-- The index is cut to 16 bits only after it was checked, or this would be the register with the
index 3. -/
theorem step_faults_by_misuse_of_wide_index :
    (ofSteps (.intel 0x2912 0x3800 0) Catalogue.ich9 [.map (some 0xfed1c001)]).FaultsByMisuse
        (.readWindow (.fdata 0x10003)) ∧
      (ofSteps (.intel 0x2912 0x3800 0) Catalogue.ich9 [.map (some 0xfed1c001)]).watch.FaultsByMisuse
        (.readWindow (.fdata 0x10003)) := by
  have known : Catalogue.resolve (Machine.intel 0x2912 0x3800 0).identity = .ok Catalogue.ich9 := by
    rw [Machine.identity_intel_ich9]
    rfl
  have few : 1 < 2 ^ 64 := by decide
  exact step_faults_by_misuse (reachable_ofSteps known _) rfl trivial few

end Session

end FlashDump
