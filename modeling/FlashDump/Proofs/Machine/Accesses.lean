import FlashDump.Proofs.Machine.Block
import FlashDump.Proofs.Machine.Platform
import FlashDump.Proofs.Sequencer.Reach

/-!
# Accesses to a machine

A program that reaches a machine through its window does nothing to it but accesses.
`Accessed` says what there is to know about these without knowing the program.

* The record grows by the accesses and by nothing else.
* The machine outside its controller stays as it is, and so do the flash and the faults of
  the controller (`Controller.Kin`).
* The controller's own list of writes grows by the writes among the accesses.

All of it holds of one access, and so of every state that accesses lead to
(`accessed_of_reaches`).
-/

namespace FlashDump

namespace Access

def width : Access → Width
  | .read width _ _ => width
  | .write width _ _ => width

def offset : Access → Nat
  | .read _ offset _ => offset
  | .write _ offset _ => offset

/-- The write that an access is, if it is one. -/
def write? : Access → Option Write
  | .read _ _ _ => none
  | .write width offset value => some ⟨width, offset, value⟩

end Access

namespace Controller

theorem kin_read (c : Controller) (width : Width) (offset : Nat) : c.Kin (c.read width offset).2 := by
  rw [read]
  split
  · exact .pending c _
  · exact .refl c

theorem kin_write (c : Controller) (width : Width) (offset : Nat) (value : BitVec width.bits) :
    c.Kin (c.write width offset value) := by
  rw [write]
  split
  · exact ⟨rfl, rfl, rfl, rfl, rfl⟩
  · exact ⟨rfl, rfl, rfl, rfl, rfl⟩

theorem writes_read (c : Controller) (width : Width) (offset : Nat) :
    (c.read width offset).2.writes = c.writes := by
  rw [read]
  split <;> rfl

theorem writes_write (c : Controller) (width : Width) (offset : Nat) (value : BitVec width.bits) :
    (c.write width offset value).writes = c.writes.push ⟨width, offset, value⟩ := by
  rw [write]
  split <;> rfl

end Controller

/-- One state of a recorded machine comes from another by the given accesses, all at certain
places. -/
structure Accessed (place : Width → Nat → Prop) (r : RecordedMachine) (accesses : List Access)
    (r' : RecordedMachine) : Prop where
  record : r' = r.after r'.state (accesses.map .access)
  rest : r'.state = { r.state with controller := r'.state.controller }
  kin : r.state.controller.Kin r'.state.controller
  writes : r'.state.controller.writes.toList
    = r.state.controller.writes.toList ++ accesses.filterMap Access.write?
  places : ∀ access ∈ accesses, place access.width access.offset

namespace Accessed

variable {place : Width → Nat → Prop} {r r' : RecordedMachine} {accesses : List Access}

theorem nil (place : Width → Nat → Prop) (r : RecordedMachine) : Accessed place r [] r :=
  ⟨(r.after_nil).symm, rfl, .refl _, by simp, fun _ member => nomatch member⟩

/-- One access more. -/
theorem snoc (before : Accessed place r accesses r') (access : Access) {c : Controller}
    (kin : r'.state.controller.Kin c)
    (writes : c.writes.toList = r'.state.controller.writes.toList ++ access.write?.toList)
    (allowed : place access.width access.offset) :
    Accessed place r (accesses ++ [access])
      (r'.after { r'.state with controller := c } [.access access]) where
  record := by
    rw [before.record, Recorded.after_after, List.map_append]
    rfl
  rest := by
    rw [Recorded.state_after, before.rest]
  kin := before.kin.trans kin
  writes := by
    rw [Recorded.state_after, writes, before.writes, List.filterMap_append, List.append_assoc]
    cases access <;> rfl
  places := by
    intro other member
    rcases List.mem_append.1 member with member | member
    · exact before.places other member
    · rw [List.mem_singleton.1 member]
      exact allowed

/-- The accesses are what a recorder that is switched on adds. -/
theorem entries (accessed : Accessed place r accesses r') (on : r.recording = true) :
    r'.entries.toList = r.entries.toList ++ accesses.map .access := by
  rw [accessed.record]
  exact r.entries_after _ _ on

end Accessed

theorem accessed_of_reaches {place : Width → Nat → Prop} {r r' : RecordedMachine}
    (reaches : recordedPlatform.window.Reaches place r r') :
    ∃ accesses, Accessed place r accesses r' := by
  refine reaches.preserves (fun r' => ∃ accesses, Accessed place r accesses r') ?_ ?_ ⟨[], .nil place r⟩
  · intro width offset r' allowed ⟨accesses, before⟩
    rw [recordedPlatform_read]
    have kin := r'.state.controller.kin_read width offset
    refine ⟨_, before.snoc (.read width offset (r'.state.windowWord width offset)) kin ?_ allowed⟩
    rw [Controller.writes_read]
    exact (List.append_nil _).symm
  · intro width offset value r' allowed ⟨accesses, before⟩
    rw [recordedPlatform_write]
    have kin := r'.state.controller.kin_write width offset value
    refine ⟨_, before.snoc (.write width offset value) kin ?_ allowed⟩
    rw [Controller.writes_write, Array.toList_push]
    rfl

end FlashDump
