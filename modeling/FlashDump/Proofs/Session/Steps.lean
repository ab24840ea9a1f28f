import FlashDump.Proofs.Chipset.Layout
import FlashDump.Proofs.Dump.Inspection
import FlashDump.Proofs.Machine.Accesses
import FlashDump.Session.Transcript

/-!
# What a step does

Only two kinds of step touch the mapping of the window.  `Session.Steady` says what every other
step does to a session (`step_steady`): the window stays as it is, and the hardware sees reads
of configuration space and accesses of the window, each at a place where the step may make one
(`Step.Place`).  A step that maps the window or releases it leaves the controller alone.
`Session.unmap_eq` and `Session.map_eq` are the two in full.

A session is `Reachable` if it is what some list of steps makes of a chipset that was detected.
-/

namespace FlashDump

open FlashDump.Register

/-! ## Places -/

namespace AccessRequest

def width : AccessRequest → Width
  | .read width _ => width
  | .write width _ _ => width

def offset : AccessRequest → Nat
  | .read _ offset => offset
  | .write _ offset _ => offset

end AccessRequest

theorem Mmio.perform_reaches {σ : Type} (m : Mmio σ) (request : AccessRequest) (s : σ) :
    m.Reaches (fun width offset => width = request.width ∧ offset = request.offset) s
      (m.perform request s).2 := by
  cases request with
  | read width offset => exact .read .start ⟨rfl, rfl⟩
  | write width offset value => exact .write .start ⟨rfl, rfl⟩ value

/-- The places at which a step may access the window: that of the access that it is, or else the
registers of the layout. -/
def Step.Place (l : Layout) : Step → Width → Nat → Prop
  | .access request => fun width offset => width = request.width ∧ offset = request.offset
  | _ => l.Place

/-- Whether a step maps the window or releases it. -/
def Step.remaps : Step → Bool
  | .map _ | .unmap => true
  | _ => false

namespace Session

variable {s s' : Session}

theorem mapped_eq_ok {act : BitVec 32 → Except Misuse (Answer × Session)} {made : Answer × Session}
    (ok : s.mapped act = .ok made) : ∃ base, s.chipset.window = some base ∧ act base = .ok made := by
  rw [mapped] at ok
  cases held : s.chipset.window with
  | none =>
      rw [held] at ok
      cases ok
  | some base =>
      rw [held] at ok
      exact ⟨base, rfl, ok⟩

/-! ## Steps that leave the window alone -/

/-- What a step does that neither maps the window nor releases it. -/
structure Steady (place : Width → Nat → Prop) (s s' : Session) (events : List HardwareEvent) :
    Prop where
  family : s'.chipset.family = s.chipset.family
  window : s'.chipset.window = s.chipset.window
  record : s'.context.hardware = s.context.hardware.after s'.machine events
  rest : s'.machine = { s.machine with controller := s'.machine.controller }
  visible : ∀ event ∈ events, (∃ width address value, event = .config width address value) ∨
    ∃ access, event = .access access ∧ place access.width access.offset

namespace Steady

variable {place : Width → Nat → Prop}

/-- Nothing is done to the hardware. -/
theorem of_hardware (family : s'.chipset.family = s.chipset.family)
    (window : s'.chipset.window = s.chipset.window)
    (hardware : s'.context.hardware = s.context.hardware) : s.Steady place s' [] := by
  have same : s'.machine = s.machine := by rw [machine, machine, hardware]
  refine ⟨family, window, ?_, ?_, fun _ member => nomatch member⟩
  · rw [hardware, same, machine, Recorded.after_nil]
  · rw [same]

/-- Only the controller is changed, behind the back of the chipset. -/
theorem changeMachine (s : Session) (f : Controller → Controller) :
    s.Steady place (s.changeMachine f) [] where
  family := rfl
  window := rfl
  record := by
    obtain ⟨chipset, ⟨⟨m, recording, entries⟩, log⟩⟩ := s
    cases recording with
    | false => rfl
    | true => simp [Session.changeMachine, withHardware, Recorded.after, Recorded.update, machine]
  rest := rfl
  visible := fun _ member => nomatch member

/-- One read of configuration space. -/
theorem config (s : Session) (width : Pci.ConfigWidth) (offset : BitVec 8) (log : Log.Logger) :
    s.Steady place
      ⟨s.chipset, ⟨(recordedPlatform.config.read width (Pci.Address.lpcBridge.configAddress offset)
        s.context.hardware).2, log⟩⟩ [s.machine.bridgeEvent width offset] := by
  rw [recordedPlatform_config]
  refine ⟨rfl, rfl, rfl, rfl, ?_⟩
  intro event member
  exact .inl ⟨_, _, _, List.mem_singleton.1 member⟩

/-- Accesses of the window. -/
theorem of_reaches {hardware : RecordedMachine}
    (reaches : recordedPlatform.window.Reaches place s.context.hardware hardware)
    (log : Log.Logger) : ∃ events, s.Steady place ⟨s.chipset, ⟨hardware, log⟩⟩ events := by
  obtain ⟨accesses, accessed⟩ := accessed_of_reaches reaches
  refine ⟨accesses.map .access, rfl, rfl, accessed.record, accessed.rest, ?_⟩
  intro event member
  obtain ⟨access, inside, rfl⟩ := List.mem_map.1 member
  exact .inr ⟨access, rfl, accessed.places access inside⟩

end Steady

theorem readBridge_steady (s : Session) (target : BridgeTarget) (place : Width → Nat → Prop) :
    ∃ events, s.Steady place (s.readBridge target).2 events := by
  cases target with
  | biosCntl => exact ⟨_, .config s .w8 Pci.biosControlOffset _⟩
  | rcba => exact ⟨_, .config s .w32 Pci.rcbaOffset _⟩

theorem readWindow_steady {target : WindowTarget} {answer : Answer}
    (ok : s.readWindow target = .ok (answer, s')) :
    ∃ events, s.Steady s.chipset.layout.Place s' events := by
  have accesses {hardware : RecordedMachine}
      (reaches : recordedPlatform.window.Reaches s.chipset.layout.Place s.context.hardware hardware)
      (log : Log.Logger) := Steady.of_reaches reaches log
  cases target with
  | gcs =>
      cases ok
      exact accesses (.read .start .gcs) _
  | bfpr =>
      cases ok
      exact accesses (.read .start .bfpr) _
  | hsfs =>
      cases ok
      exact accesses (.read .start .hsfs) _
  | hsfc =>
      cases ok
      exact accesses (.read .start .hsfc) _
  | faddr =>
      cases ok
      exact accesses (.read .start .faddr) _
  | frap =>
      cases ok
      exact accesses (.read .start .frap) _
  | ssfs =>
      cases ok
      exact accesses (.read .start .ssfs) _
  | ssfc =>
      cases ok
      exact accesses (.read (.read .start .ssfcLow) .ssfcHigh) _
  | fdata index =>
      rw [readWindow] at ok
      split at ok
      · cases ok
        exact accesses (.read .start (.fdata _)) _
      · cases ok
  | freg index =>
      rw [readWindow] at ok
      split at ok
      · cases ok
        exact accesses (.read .start (.freg _)) _
      · cases ok
  | pr index =>
      rw [readWindow] at ok
      split at ok
      · cases ok
        exact accesses (.read .start (.pr _)) _
      · cases ok

theorem step_steady {step : Step} {answer : Answer} (steady : step.remaps = false)
    (ok : s.step step = .ok (answer, s')) :
    ∃ events, s.Steady (step.Place s.chipset.layout) s' events := by
  cases step with
  | map rcba => cases steady
  | unmap => cases steady
  | base =>
      obtain ⟨base, -, ok⟩ := mapped_eq_ok ok
      cases ok
      exact ⟨[], .of_hardware rfl rfl rfl⟩
  | state =>
      cases ok
      exact ⟨[], .of_hardware rfl rfl rfl⟩
  | readBridge target =>
      have read : s.readBridge target = (answer, s') := Except.ok.inj ok
      have steady := s.readBridge_steady target (Step.Place s.chipset.layout (.readBridge target))
      rw [read] at steady
      exact steady
  | readWindow target =>
      obtain ⟨base, -, ok⟩ := mapped_eq_ok ok
      exact readWindow_steady ok
  | write record =>
      obtain ⟨base, -, ok⟩ := mapped_eq_ok ok
      cases ok
      exact Steady.of_reaches (s.chipset.layout.writeRecord_reaches _ _ _) _
  | writeWord name raw =>
      obtain ⟨base, -, ok⟩ := mapped_eq_ok ok
      cases ok
      exact Steady.of_reaches (s.chipset.layout.writeRecord_reaches _ _ _) _
  | access request =>
      obtain ⟨base, -, ok⟩ := mapped_eq_ok ok
      cases ok
      exact Steady.of_reaches (recordedPlatform.window.perform_reaches request _) _
  | preset p =>
      cases ok
      exact ⟨[], .changeMachine s _⟩
  | injectError address =>
      cases ok
      exact ⟨[], .changeMachine s _⟩
  | setStuck stuck =>
      cases ok
      exact ⟨[], .changeMachine s _⟩
  | setDelay delay =>
      cases ok
      exact ⟨[], .changeMachine s _⟩
  | setPollLimit limit =>
      cases ok
      exact ⟨[], .of_hardware rfl rfl rfl⟩
  | readFlash request policy =>
      obtain ⟨base, -, ok⟩ := mapped_eq_ok ok
      cases ok
      exact Steady.of_reaches
        ((s.chipset.sequencer recordedPlatform s.context.hardware).read_reaches _ _ _ _) _

/-! ## Steps that map the window or release it -/

end Session

namespace Register

/-- The address that an RCBA word holds. -/
def rcbaBase (raw : BitVec 32) : BitVec 32 := raw &&& 0xffffc000

/-- Whether an RCBA word says that its address is enabled. -/
def rcbaEnabled (raw : BitVec 32) : Bool := raw.getLsbD 0

theorem Rcba.baseAddress_decode (raw : BitVec 32) : (Rcba.decode raw).baseAddress = rcbaBase raw := by
  apply BitVec.eq_of_getLsbD_eq
  intro i inside
  simp only [Rcba.decode, rcbaBase, Bits.field, Bits.Field.getLsbD_mask, BitVec.getLsbD_and]
  interval_cases i <;> simp

end Register

namespace Machine

/-- The word that maps the window: the given one, or that of RCBA. -/
def mapWord (m : Machine) (rcba : Option (BitVec 32)) : BitVec 32 :=
  rcba.getD (m.bridgeWord .w32 Pci.rcbaOffset)

/-- The events of looking it up. -/
def mapLook (m : Machine) : Option (BitVec 32) → List HardwareEvent
  | some _ => []
  | none => [m.bridgeEvent .w32 Pci.rcbaOffset]

variable (m : Machine) (raw : BitVec 32)

/-- The window after it was mapped by an RCBA word. -/
def mapWindow : Option (BitVec 32) :=
  if rcbaEnabled raw && !m.mapperRefuses then some (rcbaBase raw) else none

/-- The request for the window.  There is none if the address is not enabled. -/
def mapEvents : List HardwareEvent :=
  if rcbaEnabled raw then [.map (rcbaBase raw).toNat windowSize !m.mapperRefuses] else []

def mapResult : Except ChipsetError Unit :=
  if rcbaEnabled raw then
    if m.mapperRefuses then .error (.refused .mapMemory .permissionDenied) else .ok ()
  else .error (.invalidArgument .baseDisabled)

/-- What a step is answered that maps the window. -/
def mapAnswer : Answer :=
  match m.mapResult raw with
  | .ok () => .ok
  | .error e => .failed e

/-- The machine after the request. -/
def afterMap : Machine := if rcbaEnabled raw then m.requested (rcbaBase raw).toNat else m

end Machine

namespace Chipset

variable (c : Chipset) (r : RecordedMachine) (log : Log.Logger)

/-- The event of releasing the window, if it is mapped. -/
def releaseEvents : List HardwareEvent := if c.isMapped then [.unmap] else []

theorem unmap_recorded :
    c.unmap recordedPlatform ⟨r, log⟩
      = ({ c with window := none }, ⟨r.after r.state c.releaseEvents, log⟩) := by
  obtain ⟨family, id, window, limit⟩ := c
  cases window with
  | none => simp [unmap, releaseEvents, isMapped]
  | some base => simp [unmap, releaseEvents, isMapped, recordedPlatform_unmap]

/-- The window that is mapped is released first, whatever comes of the request. -/
theorem map_recorded (raw : BitVec 32) :
    ∃ log',
      c.map recordedPlatform (c.layout.rcba raw) ⟨r, log⟩
        = (r.state.mapResult raw, { c with window := r.state.mapWindow raw },
            ⟨r.after (r.state.afterMap raw) (c.releaseEvents ++ r.state.mapEvents raw), log'⟩) := by
  have base : (c.layout.rcba raw).baseAddress = rcbaBase raw := by
    rw [layout, c.family.layout_common.rcba, Rcba.baseAddress_decode]
  have enable : (c.layout.rcba raw).enable = rcbaEnabled raw := by
    rw [layout, c.family.layout_common.rcba]
    rfl
  rw [map, unmap_recorded]
  dsimp only
  rw [Window.map, enable, base]
  cases enabled : rcbaEnabled raw with
  | false =>
      exact ⟨_, by simp [Machine.mapResult, Machine.mapWindow, Machine.afterMap, Machine.mapEvents,
        enabled, Context.note]; rfl⟩
  | true =>
      rw [recordedPlatform_map]
      cases refused : r.state.mapperRefuses with
      | false =>
          exact ⟨_, by simp [Machine.mapResult, Machine.mapWindow, Machine.afterMap,
            Machine.mapEvents, enabled, refused, Context.note]; rfl⟩
      | true =>
          exact ⟨_, by simp [Machine.mapResult, Machine.mapWindow, Machine.afterMap,
            Machine.mapEvents, enabled, refused]; rfl⟩

end Chipset

namespace Session

/-- A step that releases the window. -/
theorem unmap_eq (s : Session) :
    s.unmap = ⟨{ s.chipset with window := none },
      { s.context with
        hardware := s.context.hardware.after s.machine s.chipset.releaseEvents }⟩ := by
  rw [unmap, Chipset.unmap_recorded]
  rfl

/-- A step that maps the window, by a given RCBA word or that of the chipset. -/
theorem map_eq (s : Session) (rcba : Option (BitVec 32)) :
    ∃ log,
      s.map rcba
        = (s.machine.mapAnswer (s.machine.mapWord rcba),
          ⟨{ s.chipset with window := s.machine.mapWindow (s.machine.mapWord rcba) },
            ⟨s.context.hardware.after (s.machine.afterMap (s.machine.mapWord rcba))
              (s.machine.mapLook rcba ++ (s.chipset.releaseEvents
                ++ s.machine.mapEvents (s.machine.mapWord rcba))), log⟩⟩) := by
  cases rcba with
  | some raw =>
      obtain ⟨log, mapped⟩ := s.chipset.map_recorded s.context.hardware s.context.log raw
      refine ⟨log, ?_⟩
      rw [map]
      dsimp only
      rw [mapped]
      rfl
  | none =>
      obtain ⟨noted, looked⟩ : ∃ noted, s.chipset.readRcba recordedPlatform s.context
          = (s.chipset.layout.rcba (s.machine.bridgeWord .w32 Pci.rcbaOffset),
              ⟨s.context.hardware.after s.machine [s.machine.bridgeEvent .w32 Pci.rcbaOffset], noted⟩) :=
        ⟨_, Chipset.readRcba_recorded s.context.hardware s.chipset s.context.log⟩
      obtain ⟨log, mapped⟩ := s.chipset.map_recorded
        (s.context.hardware.after s.machine [s.machine.bridgeEvent .w32 Pci.rcbaOffset]) noted
        (s.machine.bridgeWord .w32 Pci.rcbaOffset)
      rw [Recorded.state_after, Recorded.after_after] at mapped
      refine ⟨log, ?_⟩
      rw [map]
      dsimp only
      rw [looked]
      dsimp only
      rw [mapped]
      rfl

/-! ## Turns -/

variable {s s' : Session} {step : Step}

theorem turn_of_ok {answer : Answer} (ok : s.step step = .ok (answer, s')) :
    s.turn step = (⟨.ok answer, s'.takeEvents.1⟩, s'.takeEvents.2) := by
  rw [turn, ok]

theorem turn_of_misuse {misuse : Misuse} (bad : s.step step = .error misuse) :
    s.turn step = (⟨.error misuse, []⟩, s) := by
  rw [turn, bad]

/-! ## Detection -/

section Detection

variable {m : Machine} {recording : Bool} {verbosity : Log.Verbosity} {chipset : Chipset}
  {context : Context RecordedMachine}

/-- A chipset that is detected is of a known family, and its window is not mapped. -/
theorem detected_of_start (found : start m recording verbosity = (.ok chipset, context)) :
    chipset.family ∈ Catalogue.families ∧ chipset.window = none ∧
      context.hardware = (Recorded.start recording m).after m m.identityEvents := by
  rw [start, Chipset.probe, HardwareId.probe_recorded] at found
  dsimp only at found
  split at found
  · cases found
  · rename_i known
    cases found
    exact ⟨Catalogue.mem_families_of_resolve known, rfl, rfl⟩

theorem start_of_known {f : Family} (known : Catalogue.resolve m.identity = .ok f) :
    start m recording .off
      = (.ok ⟨f, m.identity, none, .unbounded⟩,
          ⟨(Recorded.start recording m).after m m.identityEvents, .empty .off⟩) := by
  have same : (Recorded.start recording m : RecordedMachine).state.identity = m.identity := rfl
  rw [start, Chipset.probe, HardwareId.probe_recorded]
  dsimp only
  rw [same, known]
  rfl

end Detection

end Session

/-- A machine with the LPC bridge of an Intel chipset and a flash of eight bytes. -/
def Machine.intel (device : BitVec 16) (spiBar delay : Nat) : Machine where
  config := .ofIdentity 0x8086 device 0
  controller := { Controller.fresh spiBar (.pattern 8 1 0 0) with delay }
  mapperRefuses := false
  portsRefused := false
  requests := #[]

theorem Machine.identity_intel_ich8 (spiBar delay : Nat) :
    (intel 0x2810 spiBar delay).identity = ⟨0x8086, 0x2810, 0⟩ := by
  have identity : (HardwareId.probe Pci.ConfigMap.reader (.ofIdentity 0x8086 0x2810 0)).1
      = ⟨0x8086, 0x2810, 0⟩ := by decide
  exact identity

theorem Machine.identity_intel_ich9 (spiBar delay : Nat) :
    (intel 0x2912 spiBar delay).identity = ⟨0x8086, 0x2912, 0⟩ := by
  have identity : (HardwareId.probe Pci.ConfigMap.reader (.ofIdentity 0x8086 0x2912 0)).1
      = ⟨0x8086, 0x2912, 0⟩ := by decide
  exact identity

end FlashDump
