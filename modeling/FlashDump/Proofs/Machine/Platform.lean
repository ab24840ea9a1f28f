import FlashDump.Machine.Basic
import Mathlib.Tactic.IntervalCases

/-!
# Single accesses to a machine

For each thing that can be done to a recorded machine there is one equation: what it answers,
what state it leaves the machine in, and which event it adds to the record
(`Recorded.after`).

A read leaves almost no trace.  One of HSFS that hides the end of a cycle counts as one of
those, and nothing else changes (`Machine.afterRead`).  A request for a mapping is kept by
the machine (`Machine.requested`).
-/

namespace FlashDump

/-! ## Recorders -/

namespace Recorded

variable {ε σ : Type}

/-- The recorder after the events that led to a state. -/
def after (r : Recorded ε σ) (s : σ) (events : List ε) : Recorded ε σ :=
  ⟨s, r.recording, if r.recording then r.entries ++ events.toArray else r.entries⟩

variable (r : Recorded ε σ) (s t : σ) (events more : List ε)

@[simp] theorem state_after : (r.after s events).state = s := rfl

theorem entries_after (on : r.recording = true) :
    (r.after s events).entries.toList = r.entries.toList ++ events := by
  simp [after, on]

@[simp] theorem after_after : (r.after s events).after t more = r.after t (events ++ more) := by
  unfold after
  cases r.recording with
  | false => rfl
  | true => simp

@[simp] theorem after_nil : r.after r.state [] = r := by
  unfold after
  cases r with
  | mk s recording entries => cases recording <;> simp

theorem note_eq_after (event : ε) : note event r = r.after r.state [event] := by
  unfold after note
  cases r with
  | mk s recording entries => cases recording <;> simp

end Recorded

/-! ## Single accesses -/

namespace Machine

/-- What a register of the LPC bridge reads as. -/
def bridgeWord (m : Machine) (width : Pci.ConfigWidth) (offset : BitVec 8) : BitVec width.bits :=
  m.config.get width (Pci.Address.lpcBridge.configAddress offset)

/-- The event of that read. -/
def bridgeEvent (m : Machine) (width : Pci.ConfigWidth) (offset : BitVec 8) : HardwareEvent :=
  .config width (Pci.Address.lpcBridge.configAddress offset) (m.bridgeWord width offset)

/-- What the window reads as at an offset. -/
def windowWord (m : Machine) (width : Width) (offset : Nat) : BitVec width.bits :=
  (m.controller.read width offset).1

/-- The event of that read. -/
def windowEvent (m : Machine) (width : Width) (offset : Nat) : HardwareEvent :=
  .access (.read width offset (m.windowWord width offset))

/-- The machine after that read. -/
def afterRead (m : Machine) (width : Width) (offset : Nat) : Machine :=
  { m with controller := (m.controller.read width offset).2 }

/-- The machine after a write. -/
def afterWrite (m : Machine) (width : Width) (offset : Nat) (value : BitVec width.bits) : Machine :=
  { m with controller := m.controller.write width offset value }

/-- The machine after a request for the window. -/
def requested (m : Machine) (base : Nat) : Machine :=
  { m with requests := m.requests.push (base, windowSize) }

/-- Only reads of HSFS hide anything, and they have 16 bits. -/
theorem afterRead_of_width (m : Machine) {width : Width} (other : width ≠ .w16) (offset : Nat) :
    m.afterRead width offset = m := by
  have shown : ¬ m.controller.hides width offset = true := by
    simp [Controller.hides, other]
  rw [afterRead, Controller.read, if_neg shown]

theorem memory_afterRead (m : Machine) (width : Width) (offset : Nat) :
    (m.afterRead width offset).controller.memory = m.controller.memory := by
  rw [afterRead, Controller.read]
  split <;> rfl

/-- What is not hidden is as it was before any read. -/
theorem windowWord_afterRead (m : Machine) (width : Width) (offset : Nat) {width' : Width}
    (other : width' ≠ .w16) (offset' : Nat) :
    (m.afterRead width offset).windowWord width' offset' = m.windowWord width' offset' := by
  have shown (c : Controller) : ¬ c.hides width' offset' = true := by
    simp [Controller.hides, other]
  rw [windowWord, Controller.read, if_neg (shown _), windowWord, Controller.read, if_neg (shown _),
    memory_afterRead]

/-- A read of HSFS hides its two low bits at most. -/
theorem getLsbD_windowWord (m : Machine) (offset : Nat) {i : Nat} (high : 2 ≤ i) :
    (m.windowWord .w16 offset).getLsbD i = (m.controller.memory.load .w16 offset).getLsbD i := by
  rw [windowWord, Controller.read]
  split
  · change ((m.controller.memory.load .w16 offset : BitVec 16) &&& ~~~3#16).getLsbD i = _
    by_cases inside : i < 16
    · have kept : (~~~3#16).getLsbD i = true := by interval_cases i <;> rfl
      rw [BitVec.getLsbD_and, kept, Bool.and_true]
    · rw [BitVec.getLsbD_of_ge _ _ (Nat.not_lt.1 inside), BitVec.getLsbD_of_ge _ _ (Nat.not_lt.1 inside)]
  · rfl

end Machine

variable (r : RecordedMachine)

theorem recordedPlatform_read (width : Width) (offset : Nat) :
    recordedPlatform.window.read width offset r
      = (r.state.windowWord width offset,
          r.after (r.state.afterRead width offset) [r.state.windowEvent width offset]) := by
  change (_, Recorded.note _ _) = _
  rw [Recorded.note_eq_after]
  rfl

theorem recordedPlatform_read_of_width {width : Width} (other : width ≠ .w16) (offset : Nat) :
    recordedPlatform.window.read width offset r
      = (r.state.windowWord width offset, r.after r.state [r.state.windowEvent width offset]) := by
  rw [recordedPlatform_read, r.state.afterRead_of_width other]

theorem recordedPlatform_write (width : Width) (offset : Nat) (value : BitVec width.bits) :
    recordedPlatform.window.write width offset value r
      = r.after (r.state.afterWrite width offset value) [.access (.write width offset value)] := by
  change Recorded.note _ _ = _
  rw [Recorded.note_eq_after]
  rfl

theorem recordedPlatform_config (width : Pci.ConfigWidth) (offset : BitVec 8) :
    recordedPlatform.config.read width (Pci.Address.lpcBridge.configAddress offset) r
      = (r.state.bridgeWord width offset, r.after r.state [r.state.bridgeEvent width offset]) := by
  change (_, Recorded.note _ _) = _
  rw [Recorded.note_eq_after]
  rfl

theorem recordedPlatform_map (base : Nat) :
    recordedPlatform.map base windowSize r
      = (if r.state.mapperRefuses then .error (.refused .mapMemory .permissionDenied) else .ok (),
          r.after (r.state.requested base) [.map base windowSize !r.state.mapperRefuses]) := by
  change (_, Recorded.note _ _) = _
  rw [Recorded.note_eq_after]
  obtain ⟨⟨config, controller, refuses, ports, requests⟩, recording, entries⟩ := r
  cases refuses <;> rfl

theorem recordedPlatform_unmap : recordedPlatform.unmap r = r.after r.state [.unmap] := by
  change Recorded.note _ _ = _
  rw [Recorded.note_eq_after]
  rfl

end FlashDump
