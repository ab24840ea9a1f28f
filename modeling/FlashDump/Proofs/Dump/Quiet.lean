import FlashDump.Proofs.Dump.Stages

/-!
# Looking only

The program looks at the hardware for its gates and changes nothing.  `Quiet` says so of two
states of a recorded machine: neither did the controller see a write or start a cycle, nor
is there a write among the events.  `Machine.inspection` is all that is seen for the gates,
event by event, and its beginnings are what is seen for the first few of them.
-/

namespace FlashDump

open FlashDump.Register

/-- An event that changes a register. -/
def HardwareEvent.isWrite : HardwareEvent → Bool
  | .access (.write _ _ _) => true
  | _ => false

/-- No register is changed. -/
def Inert (events : List HardwareEvent) : Prop := ∀ event ∈ events, event.isWrite = false

theorem Inert.append {events more : List HardwareEvent} (first : Inert events) (second : Inert more) :
    Inert (events ++ more) := by
  intro event member
  rcases List.mem_append.1 member with member | member
  · exact first event member
  · exact second event member

theorem Inert.cons {event : HardwareEvent} {events : List HardwareEvent}
    (first : event.isWrite = false) (rest : Inert events) : Inert (event :: events) := by
  intro other member
  rcases List.mem_cons.1 member with rfl | member
  · exact first
  · exact rest other member

theorem Inert.nil : Inert [] := fun _ member => nomatch member

/-- Events without a write are over before the first write. -/
theorem Inert.isPrefix {seen rest before after : List HardwareEvent} {event : HardwareEvent}
    (inert : Inert seen) (write : event.isWrite = true)
    (split : seen ++ rest = before ++ event :: after) : seen <+: before := by
  rcases List.append_eq_append_iff.1 split with ⟨middle, rfl, _⟩ | ⟨middle, rfl, tail⟩
  · exact List.prefix_append _ _
  · cases middle with
    | nil => simp
    | cons first middle =>
        rw [List.cons_append, List.cons.injEq] at tail
        have member : event ∈ before ++ first :: middle := by
          rw [tail.1]
          exact List.mem_append_right _ List.mem_cons_self
        exact absurd (inert event member) (by rw [write]; decide)

/-- From one state of a recorded machine to another, no register was written and no cycle
was started. -/
structure Quiet (r r' : RecordedMachine) : Prop where
  writes : r'.state.controller.writes = r.state.controller.writes
  cycles : r'.state.controller.cycles = r.state.controller.cycles
  events : ∃ events, r'.entries.toList = r.entries.toList ++ events ∧ Inert events

theorem Quiet.refl (r : RecordedMachine) : Quiet r r :=
  ⟨rfl, rfl, [], (List.append_nil _).symm, .nil⟩

theorem quiet_after {r : RecordedMachine} {m : Machine} {events : List HardwareEvent}
    (writes : m.controller.writes = r.state.controller.writes)
    (cycles : m.controller.cycles = r.state.controller.cycles) (inert : Inert events) :
    Quiet r (r.after m events) := by
  refine ⟨writes, cycles, ?_⟩
  cases on : r.recording with
  | true => exact ⟨events, Recorded.entries_after _ _ _ on, inert⟩
  | false => exact ⟨[], by simp [Recorded.after, on], .nil⟩

namespace Machine

variable (m : Machine) (f : Family)

theorem writes_afterRead (width : Width) (offset : Nat) :
    (m.afterRead width offset).controller.writes = m.controller.writes := by
  rw [afterRead, Controller.read]
  split <;> rfl

theorem cycles_afterRead (width : Width) (offset : Nat) :
    (m.afterRead width offset).controller.cycles = m.controller.cycles := by
  rw [afterRead, Controller.read]
  split <;> rfl

/-! ## What is seen -/

theorem inert_identityEvents : Inert m.identityEvents :=
  .cons rfl (.cons rfl (.cons rfl .nil))

theorem inert_probeEvents : Inert m.probeEvents :=
  (m.inert_identityEvents.append m.inert_identityEvents).append (.cons rfl .nil)

theorem inert_seenStraps : Inert (m.seenStraps f) :=
  (m.inert_probeEvents.append (.cons rfl .nil)).append (.cons rfl .nil)

theorem inert_surveyEvents : Inert (m.surveyEvents f) := by
  have region (index : Fin regionCount) : Inert (m.regionEvents f.layout index) :=
    .cons rfl (.cons rfl .nil)
  have regions : Inert ((List.finRange regionCount).flatMap (m.regionEvents f.layout)) := by
    intro event member
    obtain ⟨index, -, member⟩ := List.mem_flatMap.1 member
    exact region index event member
  exact ((Inert.cons rfl (.cons rfl .nil)).append regions).append (.cons rfl (.cons rfl .nil))

theorem inert_seenSurvey : Inert (m.seenSurvey f) :=
  (m.inert_seenStraps f).append (m.inert_surveyEvents f)

theorem inert_seenStatus : Inert (m.seenStatus f) :=
  (m.inert_seenSurvey f).append (.cons rfl .nil)

theorem inert_inspection : Inert (m.inspection f) :=
  (m.inert_seenStatus f).append (.cons rfl .nil)

end Machine

end FlashDump
