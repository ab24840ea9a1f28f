import FlashDump.Proofs.Dump.Quiet
import FlashDump.Proofs.Sequencer.Footprint

/-!
# The gates of a dump

A `Gate` is a condition that a dump depends on, and `Gate.failure?` says of a machine, the
options and the disk whether it holds, and how the program fails if it does not.  It does
not mention the program.

* A dump fails at the first gate that does not hold, and by then it has only looked at the
  hardware (`Quiet`).  The output file is made between the sixth gate and the seventh.
* What the program looks at for the gates is `Machine.inspection`.  Before it has seen all of
  this, it writes nothing to the window.

`run_gated` is both.  The proof of the first half takes the gates one by one.  The second
half rests on the footprint of a read: a write is part of the passage of a block, and these
come after everything else.
-/

namespace FlashDump

open FlashDump.Register

/-! ## Gates -/

namespace Dump

/-- What a dump depends on, in the order in which it is looked at. -/
inductive Gate where
  /-- The privileges for I/O ports are granted. -/
  | privileges
  /-- The chipset is one that is known. -/
  | identity
  /-- The address of the root complex is enabled, and the window is granted. -/
  | mapping
  /-- The machine boots from SPI flash. -/
  | straps
  /-- The flash has a valid descriptor. -/
  | descriptor
  /-- The output file can be made. -/
  | output
  /-- Software sequencing is idle. -/
  | software
  /-- The options describe a read that can be carried out. -/
  | arguments
  /-- Hardware sequencing is idle. -/
  | hardware
deriving DecidableEq, Repr

namespace Gate

/-- The number of a gate, counted from one. -/
def number : Gate → Nat
  | privileges => 1
  | identity => 2
  | mapping => 3
  | straps => 4
  | descriptor => 5
  | output => 6
  | software => 7
  | arguments => 8
  | hardware => 9

/-- What can be said of a machine only if its family is known. -/
def onFamily (m : Machine) (failure? : Family → Option Failure) : Option Failure :=
  match m.family? with
  | .ok f => failure? f
  | .error _ => none

/-- Why a dump fails at a gate, if it does not hold. -/
def failure? (m : Machine) (o : CommandLine.Options) (disk : Disk) : Gate → Option Failure
  | privileges =>
      if m.portsRefused then some (.noConfigAccess (.refused .ioPrivileges .permissionDenied))
      else none
  | identity =>
      match m.family? with
      | .ok _ => none
      | .error reason => some (.notDetected (.unsupported m.identity reason))
  | mapping =>
      onFamily m fun f =>
        if !(m.rcba f).enable then some (.notMapped (.invalidArgument .baseDisabled))
        else if m.mapperRefuses then some (.notMapped (.refused .mapMemory .permissionDenied))
        else none
  | straps =>
      onFamily m fun f =>
        if (m.gcs f).bootBiosStraps = .spi then none else some .notBootedFromSpi
  | descriptor =>
      onFamily m fun f => if (m.hsfs f).flashDescriptorValid then none else some .noDescriptor
  | output =>
      match disk.locate o.output with
      | .ok _ => none
      | .error cause => some (.notOpened o.output cause)
  | software =>
      onFamily m fun f => if (m.ssfs f).spiCycleInProgress then some .inProgress else none
  | arguments =>
      match Request.plan ⟨o.start, o.flashSize, o.blockSize⟩ with
      | .ok _ => none
      | .error fault => some (.notRead (.invalidArgument fault))
  | hardware =>
      onFamily m fun f => if (m.hsfs f).spiCycleInProgress then some (.notRead .busy) else none

/-! ### One gate at a time -/

section Each

variable {m : Machine} {o : CommandLine.Options} {disk : Disk} {f : Family}

theorem failure?_privileges :
    privileges.failure? m o disk
      = if m.portsRefused then some (.noConfigAccess (.refused .ioPrivileges .permissionDenied))
        else none := rfl

theorem failure?_identity_of_known (known : m.family? = .ok f) :
    identity.failure? m o disk = none := by
  change (match m.family? with | .ok _ => none | .error _ => some _) = none
  rw [known]

theorem failure?_identity_of_unknown {reason : UnsupportedReason}
    (unknown : m.family? = .error reason) :
    identity.failure? m o disk = some (.notDetected (.unsupported m.identity reason)) := by
  change (match m.family? with | .ok _ => none | .error reason => some (Failure.notDetected _)) = _
  rw [unknown]

theorem failure?_output_of_located {target : Target} (located : disk.locate o.output = .ok target) :
    output.failure? m o disk = none := by
  change (match disk.locate o.output with | .ok _ => none | .error _ => some _) = none
  rw [located]

theorem failure?_output_of_refused {cause : OsError}
    (refused : disk.locate o.output = .error cause) :
    output.failure? m o disk = some (.notOpened o.output cause) := by
  change (match disk.locate o.output with | .ok _ => none | .error cause => some _) = _
  rw [refused]

theorem failure?_arguments_of_planned {plan : Plan}
    (planned : Request.plan ⟨o.start, o.flashSize, o.blockSize⟩ = .ok plan) :
    arguments.failure? m o disk = none := by
  change (match Request.plan _ with | .ok _ => none | .error _ => some _) = none
  rw [planned]

theorem failure?_arguments_of_refused {fault : ArgumentFault}
    (refused : Request.plan ⟨o.start, o.flashSize, o.blockSize⟩ = .error fault) :
    arguments.failure? m o disk = some (.notRead (.invalidArgument fault)) := by
  change (match Request.plan _ with | .ok _ => none | .error fault => some _) = _
  rw [refused]

theorem onFamily_of_known (known : m.family? = .ok f) (failure? : Family → Option Failure) :
    onFamily m failure? = failure? f := by
  rw [onFamily, known]

variable (known : m.family? = .ok f)

include known

theorem failure?_mapping :
    mapping.failure? m o disk
      = if !(m.rcba f).enable then some (.notMapped (.invalidArgument .baseDisabled))
        else if m.mapperRefuses then some (.notMapped (.refused .mapMemory .permissionDenied))
        else none :=
  onFamily_of_known known _

theorem failure?_straps :
    straps.failure? m o disk
      = if (m.gcs f).bootBiosStraps = .spi then none else some .notBootedFromSpi :=
  onFamily_of_known known _

theorem failure?_descriptor :
    descriptor.failure? m o disk
      = if (m.hsfs f).flashDescriptorValid then none else some .noDescriptor :=
  onFamily_of_known known _

theorem failure?_software :
    software.failure? m o disk
      = if (m.ssfs f).spiCycleInProgress then some .inProgress else none :=
  onFamily_of_known known _

theorem failure?_hardware :
    hardware.failure? m o disk
      = if (m.hsfs f).spiCycleInProgress then some (.notRead .busy) else none :=
  onFamily_of_known known _

end Each

/-! ### Gates that hold -/

section Holds

variable {m : Machine} {o : CommandLine.Options} {disk : Disk} {f : Family}

theorem granted_of_holds (holds : privileges.failure? m o disk = none) : m.portsRefused = false := by
  rw [failure?_privileges] at holds
  simpa using holds

theorem known_of_holds (holds : identity.failure? m o disk = none) : ∃ f, m.family? = .ok f := by
  cases known : m.family? with
  | ok f => exact ⟨f, rfl⟩
  | error reason => simp [failure?_identity_of_unknown known] at holds

theorem created_of_holds (holds : output.failure? m o disk = none) :
    ∃ target disk', disk.create o.output = .ok (target, disk') := by
  cases located : disk.locate o.output with
  | ok target => cases target <;> simp [Disk.create, located]
  | error cause => simp [failure?_output_of_refused located] at holds

theorem accepted_of_holds (holds : arguments.failure? m o disk = none) :
    Request.Accepted ⟨o.start, o.flashSize, o.blockSize⟩ := by
  cases planned : Request.plan ⟨o.start, o.flashSize, o.blockSize⟩ with
  | ok plan => exact Request.accepted_of_plan planned
  | error fault => simp [failure?_arguments_of_refused planned] at holds

variable (known : m.family? = .ok f)

include known

theorem mapped_of_holds (holds : mapping.failure? m o disk = none) :
    (m.rcba f).enable = true ∧ m.mapperRefuses = false := by
  cases enabled : (m.rcba f).enable <;> cases refused : m.mapperRefuses <;>
    simp [failure?_mapping known, enabled, refused] at holds ⊢

theorem spi_of_holds (holds : straps.failure? m o disk = none) : (m.gcs f).bootBiosStraps = .spi := by
  by_contra other
  simp [failure?_straps known, other] at holds

theorem valid_of_holds (holds : descriptor.failure? m o disk = none) :
    (m.hsfs f).flashDescriptorValid = true := by
  simpa [failure?_descriptor known] using holds

theorem free_of_holds (holds : software.failure? m o disk = none) :
    (m.ssfs f).spiCycleInProgress = false := by
  simpa [failure?_software known] using holds

theorem idle_of_holds (holds : hardware.failure? m o disk = none) :
    (m.hsfs f).spiCycleInProgress = false := by
  simpa [failure?_hardware known] using holds

end Holds

/-- The gates hold if the window shows what they ask for and the options are sound. -/
theorem holds_of_booted {m : Machine} {o : CommandLine.Options} {disk : Disk} {f : Family}
    {target : Target} (booted : m.Booted f) (valid : (m.hsfs f).flashDescriptorValid = true)
    (located : disk.locate o.output = .ok target) (free : (m.ssfs f).spiCycleInProgress = false)
    (accepted : Request.Accepted ⟨o.start, o.flashSize, o.blockSize⟩)
    {g : Gate} (idle : g = .hardware → (m.hsfs f).spiCycleInProgress = false) :
    g.failure? m o disk = none := by
  cases g with
  | privileges =>
      rw [failure?_privileges, booted.granted]
      rfl
  | identity => exact failure?_identity_of_known booted.known
  | mapping => simp [failure?_mapping booted.known, booted.enabled, booted.mapper]
  | straps => simp [failure?_straps booted.known, booted.spi]
  | descriptor => simp [failure?_descriptor booted.known, valid]
  | output => exact failure?_output_of_located located
  | software => simp [failure?_software booted.known, free]
  | arguments =>
      obtain ⟨plan, planned, -⟩ := Request.plan_of_accepted accepted
      exact failure?_arguments_of_planned planned
  | hardware => simp [failure?_hardware booted.known, idle rfl]

/-- Either all gates hold or there is a first that does not. -/
theorem all_or_first (m : Machine) (o : CommandLine.Options) (disk : Disk) :
    (∀ g : Gate, g.failure? m o disk = none) ∨
      ∃ (g : Gate) (e : Failure), g.failure? m o disk = some e ∧
        ∀ g' : Gate, g'.number < g.number → g'.failure? m o disk = none := by
  by_cases holds : ∀ g : Gate, g.failure? m o disk = none
  · exact Or.inl holds
  · rw [not_forall] at holds
    obtain ⟨g, fails⟩ := holds
    -- By induction on the number of a gate that does not hold.
    induction number : g.number using Nat.strong_induction_on generalizing g with
    | _ n ih =>
        by_cases before : ∀ g' : Gate, g'.number < g.number → g'.failure? m o disk = none
        · obtain ⟨e, failed⟩ := Option.ne_none_iff_exists'.1 fails
          exact Or.inr ⟨g, e, failed, before⟩
        · simp only [not_forall] at before
          obtain ⟨g', earlier, fails'⟩ := before
          exact ih g'.number (number ▸ earlier) g' fails' rfl

end Gate

/-! ## The first gate that does not hold -/

/-- What a dump that failed at a gate leaves behind. -/
structure StoppedAt (g : Gate) (o : CommandLine.Options) (disk : Disk) (r : RecordedMachine)
    (w : World RecordedMachine) : Prop where
  quiet : Quiet r w.context.hardware
  untouched : g.number ≤ 6 → w.disk = disk
  created : 6 < g.number → ∃ target, disk.create o.output = .ok (target, w.disk)
  empty : 6 < g.number → ∀ place, disk.locate o.output = .ok (.file place) →
    w.disk.content place = some #[]

section First

variable {r : RecordedMachine} {o : CommandLine.Options} {log : Log.Logger} {disk : Disk}
  {printed : String} {f : Family}

/-- At the gates up to the file the disk is as it was. -/
theorem stoppedAt_of_untouched {g : Gate} {w : World RecordedMachine} (early : g.number ≤ 6)
    (quiet : Quiet r w.context.hardware) (untouched : w.disk = disk) : StoppedAt g o disk r w where
  quiet := quiet
  untouched _ := untouched
  created late := absurd early (Nat.not_le.2 late)
  empty late := absurd early (Nat.not_le.2 late)

/-- At the gates behind the file it is there and empty. -/
theorem stoppedAt_of_created {g : Gate} {w : World RecordedMachine} {target : Target}
    (late : 6 < g.number) (quiet : Quiet r w.context.hardware)
    (created : disk.create o.output = .ok (target, w.disk)) : StoppedAt g o disk r w where
  quiet := quiet
  untouched early := absurd late (Nat.not_lt.2 early)
  created _ := ⟨target, created⟩
  empty _ place located := by
    rw [Disk.create, located, Except.ok.injEq, Prod.mk.injEq] at created
    rw [← created.2, Disk.content_store, if_pos rfl]

theorem run_of_privileges (refused : r.state.portsRefused = true) :
    ∃ w, run recordedPlatform o ⟨⟨r, log⟩, disk, printed⟩
        = .error (.noConfigAccess (.refused .ioPrivileges .permissionDenied)) w ∧
      StoppedAt .privileges o disk r w :=
  ⟨_, run_of_refused r o log disk printed refused,
    stoppedAt_of_untouched (by decide) (.refl r) rfl⟩

theorem run_of_identity (granted : r.state.portsRefused = false) {reason : UnsupportedReason}
    (unknown : r.state.family? = .error reason) :
    ∃ w, run recordedPlatform o ⟨⟨r, log⟩, disk, printed⟩
        = .error (.notDetected (.unsupported r.state.identity reason)) w ∧
      StoppedAt .identity o disk r w := by
  obtain ⟨log', stopped⟩ := run_of_unknown r o log disk printed granted unknown
  refine ⟨_, stopped, stoppedAt_of_untouched (by decide) ?_ rfl⟩
  exact quiet_after rfl rfl (r.state.inert_identityEvents.append r.state.inert_identityEvents)

theorem run_of_mapping (granted : r.state.portsRefused = false) (known : r.state.family? = .ok f)
    {e : Failure} (failed : Gate.failure? r.state o disk .mapping = some e) :
    ∃ w, run recordedPlatform o ⟨⟨r, log⟩, disk, printed⟩ = .error e w ∧
      StoppedAt .mapping o disk r w := by
  have inert : Inert (r.state.probeEvents ++ [.map (r.state.base f) windowSize false]) :=
    r.state.inert_probeEvents.append (.cons rfl .nil)
  cases enabled : (r.state.rcba f).enable with
  | false =>
      obtain ⟨log', stopped⟩ := run_of_disabled r o log disk printed granted known enabled
      simp only [Gate.failure?_mapping known, enabled, Bool.not_false, if_true,
        Option.some.injEq] at failed
      refine ⟨_, failed ▸ stopped, stoppedAt_of_untouched (by decide) ?_ rfl⟩
      exact quiet_after rfl rfl r.state.inert_probeEvents
  | true =>
      cases refused : r.state.mapperRefuses with
      | false => simp [Gate.failure?_mapping known, enabled, refused] at failed
      | true =>
          obtain ⟨log', stopped⟩ := run_of_unmapped r o log disk printed granted known enabled refused
          simp only [Gate.failure?_mapping known, enabled, refused, Bool.not_true,
            Bool.false_eq_true, if_false, if_true, Option.some.injEq] at failed
          refine ⟨_, failed ▸ stopped, stoppedAt_of_untouched (by decide) ?_ rfl⟩
          exact quiet_after rfl rfl inert

theorem run_of_straps (granted : r.state.portsRefused = false) (known : r.state.family? = .ok f)
    (enabled : (r.state.rcba f).enable = true) (mapper : r.state.mapperRefuses = false)
    (other : (r.state.gcs f).bootBiosStraps ≠ .spi) :
    ∃ w, run recordedPlatform o ⟨⟨r, log⟩, disk, printed⟩ = .error .notBootedFromSpi w ∧
      StoppedAt .straps o disk r w := by
  obtain ⟨log', mapped⟩ := run_of_mapped r o log disk printed granted known enabled mapper
  obtain ⟨log'', stopped⟩ := runMapped_of_straps
    (r.after (r.state.requested (r.state.base f)) (r.state.seenMapping f)) o log' disk
    (printed ++ r.state.probeText f) (r.state.mappedChipset o f) rfl other
  have run := mapped.trans (Job.closing_of_error stopped)
  rw [release_mapped, Recorded.after_after, Recorded.after_after] at run
  refine ⟨_, run, stoppedAt_of_untouched (by decide) ?_ rfl⟩
  exact quiet_after rfl rfl ((r.state.inert_seenStraps f).append (.cons rfl .nil))

theorem run_of_descriptor (booted : r.state.Booted f)
    (invalid : (r.state.hsfs f).flashDescriptorValid = false) :
    ∃ w, run recordedPlatform o ⟨⟨r, log⟩, disk, printed⟩ = .error .noDescriptor w ∧
      StoppedAt .descriptor o disk r w := by
  obtain ⟨log', surveyed⟩ := run_of_booted r o log disk printed booted
  rw [if_neg (by rw [invalid]; exact Bool.false_ne_true), Job.closing_throw, release_mapped,
    Recorded.after_after] at surveyed
  refine ⟨_, surveyed, stoppedAt_of_untouched (by decide) ?_ rfl⟩
  exact quiet_after (Machine.writes_afterRead _ _ _) (Machine.cycles_afterRead _ _ _)
    ((r.state.inert_seenSurvey f).append (.cons rfl .nil))

section Valid

variable (booted : r.state.Booted f) (valid : (r.state.hsfs f).flashDescriptorValid = true)

include booted valid

theorem run_of_output {cause : OsError} (refused : disk.locate o.output = .error cause) :
    ∃ w, run recordedPlatform o ⟨⟨r, log⟩, disk, printed⟩ = .error (.notOpened o.output cause) w ∧
      StoppedAt .output o disk r w := by
  obtain ⟨log', surveyed⟩ := run_of_booted r o log disk printed booted
  rw [if_pos valid, Job.closing_of_error (writeOutput_of_refused _ o log' disk _ _ refused),
    release_mapped, Recorded.after_after] at surveyed
  refine ⟨_, surveyed, stoppedAt_of_untouched (by decide) ?_ rfl⟩
  exact quiet_after (Machine.writes_afterRead _ _ _) (Machine.cycles_afterRead _ _ _)
    ((r.state.inert_seenSurvey f).append (.cons rfl .nil))

variable {target : Target} {disk' : Disk} (created : disk.create o.output = .ok (target, disk'))

include created

theorem run_of_software (busy : (r.state.ssfs f).spiCycleInProgress = true) :
    ∃ w, run recordedPlatform o ⟨⟨r, log⟩, disk, printed⟩ = .error .inProgress w ∧
      StoppedAt .software o disk r w := by
  obtain ⟨log', opened⟩ := run_of_created r o log disk printed booted valid created
  rw [if_pos busy, Job.closing_throw, release_mapped, Recorded.after_after] at opened
  refine ⟨_, opened, stoppedAt_of_created (by decide) ?_ created⟩
  exact quiet_after (Machine.writes_afterRead _ _ _) (Machine.cycles_afterRead _ _ _)
    ((r.state.inert_seenStatus f).append (.cons rfl .nil))

variable (free : (r.state.ssfs f).spiCycleInProgress = false)

include free

theorem run_of_arguments {fault : ArgumentFault}
    (refused : Request.plan ⟨o.start, o.flashSize, o.blockSize⟩ = .error fault) :
    ∃ w, run recordedPlatform o ⟨⟨r, log⟩, disk, printed⟩
        = .error (.notRead (.invalidArgument fault)) w ∧
      StoppedAt .arguments o disk r w := by
  obtain ⟨log', opened⟩ := run_of_created r o log disk printed booted valid created
  rw [if_neg (by rw [free]; exact Bool.false_ne_true),
    Job.closing_of_error (copy_of_fault _ o log' disk' _ _ target refused), release_mapped,
    Recorded.after_after, Sink.close_start created] at opened
  refine ⟨_, opened, stoppedAt_of_created (by decide) ?_ created⟩
  exact quiet_after (Machine.writes_afterRead _ _ _) (Machine.cycles_afterRead _ _ _)
    ((r.state.inert_seenStatus f).append (.cons rfl .nil))

theorem run_of_hardware (accepted : Request.Accepted ⟨o.start, o.flashSize, o.blockSize⟩)
    (busy : (r.state.hsfs f).spiCycleInProgress = true) :
    ∃ w, run recordedPlatform o ⟨⟨r, log⟩, disk, printed⟩ = .error (.notRead .busy) w ∧
      StoppedAt .hardware o disk r w := by
  obtain ⟨log', opened⟩ := run_of_created r o log disk printed booted valid created
  have still : ((r.state.surveyed f).hsfs f).spiCycleInProgress = true := by
    rw [Machine.spiCycleInProgress_hsfs, Machine.surveyed, Machine.memory_afterRead]
    exact (r.state.spiCycleInProgress_hsfs f).symm.trans busy
  obtain ⟨log'', stopped⟩ := copy_of_busy
    (r.after (r.state.surveyed f) (r.state.seenStatus f)) o log' disk'
    (printed ++ r.state.preamble f ++ "Reading SPI flash") (r.state.mappedChipset o f) target accepted
    still
  rw [if_neg (by rw [free]; exact Bool.false_ne_true), Job.closing_of_error stopped, release_mapped,
    Recorded.after_after, Recorded.after_after, Sink.close_start created] at opened
  refine ⟨_, opened, stoppedAt_of_created (by decide) ?_ created⟩
  exact quiet_after
    ((Machine.writes_afterRead _ _ _).trans (Machine.writes_afterRead _ _ _))
    ((Machine.cycles_afterRead _ _ _).trans (Machine.cycles_afterRead _ _ _))
    (((r.state.inert_seenStatus f).append (.cons rfl .nil)).append (.cons rfl .nil))

end Valid

/-- The gates up to the straps are all that `Booted` asks for. -/
theorem booted_of_before (before : ∀ g : Gate, g.number < 5 → g.failure? r.state o disk = none) :
    ∃ f, r.state.Booted f := by
  have granted := Gate.granted_of_holds (before .privileges (by decide))
  obtain ⟨f, known⟩ := Gate.known_of_holds (before .identity (by decide))
  have mapped := Gate.mapped_of_holds known (before .mapping (by decide))
  have spi := Gate.spi_of_holds known (before .straps (by decide))
  exact ⟨f, granted, known, mapped.1, mapped.2, spi⟩

/-- The gates up to the output file lead to a file that is open. -/
theorem opened_of_before (before : ∀ g : Gate, g.number < 7 → g.failure? r.state o disk = none) :
    ∃ f target disk', r.state.Booted f ∧ (r.state.hsfs f).flashDescriptorValid = true ∧
      disk.create o.output = .ok (target, disk') := by
  obtain ⟨f, booted⟩ := booted_of_before fun g early => before g (Nat.lt_trans early (by decide))
  have valid := Gate.valid_of_holds booted.known (before .descriptor (by decide))
  obtain ⟨target, disk', created⟩ := Gate.created_of_holds (before .output (by decide))
  exact ⟨f, target, disk', booted, valid, created⟩

theorem run_of_first {g : Gate} {e : Failure} (failed : g.failure? r.state o disk = some e)
    (before : ∀ g' : Gate, g'.number < g.number → g'.failure? r.state o disk = none) :
    ∃ w, run recordedPlatform o ⟨⟨r, log⟩, disk, printed⟩ = .error e w ∧
      StoppedAt g o disk r w := by
  cases g with
  | privileges =>
      rw [Gate.failure?_privileges] at failed
      cases refused : r.state.portsRefused with
      | false => simp [refused] at failed
      | true =>
          simp only [refused, if_true, Option.some.injEq] at failed
          exact failed ▸ run_of_privileges refused
  | identity =>
      have granted := Gate.granted_of_holds (before .privileges (by decide))
      cases unknown : r.state.family? with
      | ok f => simp [Gate.failure?_identity_of_known unknown] at failed
      | error reason =>
          simp only [Gate.failure?_identity_of_unknown unknown, Option.some.injEq] at failed
          exact failed ▸ run_of_identity granted unknown
  | mapping =>
      have granted := Gate.granted_of_holds (before .privileges (by decide))
      obtain ⟨f, known⟩ := Gate.known_of_holds (before .identity (by decide))
      exact run_of_mapping granted known failed
  | straps =>
      have granted := Gate.granted_of_holds (before .privileges (by decide))
      obtain ⟨f, known⟩ := Gate.known_of_holds (before .identity (by decide))
      have mapped := Gate.mapped_of_holds known (before .mapping (by decide))
      by_cases spi : (r.state.gcs f).bootBiosStraps = .spi
      · simp [Gate.failure?_straps known, spi] at failed
      · simp only [Gate.failure?_straps known, spi, if_false, Option.some.injEq] at failed
        exact failed ▸ run_of_straps granted known mapped.1 mapped.2 spi
  | descriptor =>
      obtain ⟨f, booted⟩ := booted_of_before before
      cases valid : (r.state.hsfs f).flashDescriptorValid with
      | true => simp [Gate.failure?_descriptor booted.known, valid] at failed
      | false =>
          simp only [Gate.failure?_descriptor booted.known, valid, Bool.false_eq_true, if_false,
            Option.some.injEq] at failed
          exact failed ▸ run_of_descriptor booted valid
  | output =>
      obtain ⟨f, booted⟩ := booted_of_before fun g early => before g (Nat.lt_succ_of_lt early)
      have valid := Gate.valid_of_holds booted.known (before .descriptor (by decide))
      cases refused : disk.locate o.output with
      | ok target => simp [Gate.failure?_output_of_located refused] at failed
      | error cause =>
          simp only [Gate.failure?_output_of_refused refused, Option.some.injEq] at failed
          exact failed ▸ run_of_output booted valid refused
  | software =>
      obtain ⟨f, target, disk', booted, valid, created⟩ := opened_of_before before
      cases busy : (r.state.ssfs f).spiCycleInProgress with
      | false => simp [Gate.failure?_software booted.known, busy] at failed
      | true =>
          simp only [Gate.failure?_software booted.known, busy, if_true,
            Option.some.injEq] at failed
          exact failed ▸ run_of_software booted valid created busy
  | arguments =>
      obtain ⟨f, target, disk', booted, valid, created⟩ :=
        opened_of_before fun g early => before g (Nat.lt_trans early (by decide))
      have free := Gate.free_of_holds booted.known (before .software (by decide))
      cases refused : Request.plan ⟨o.start, o.flashSize, o.blockSize⟩ with
      | ok plan => simp [Gate.failure?_arguments_of_planned refused] at failed
      | error fault =>
          simp only [Gate.failure?_arguments_of_refused refused, Option.some.injEq] at failed
          exact failed ▸ run_of_arguments booted valid created free refused
  | hardware =>
      obtain ⟨f, target, disk', booted, valid, created⟩ :=
        opened_of_before fun g early => before g (Nat.lt_trans early (by decide))
      have free := Gate.free_of_holds booted.known (before .software (by decide))
      have accepted := Gate.accepted_of_holds (before .arguments (by decide))
      cases busy : (r.state.hsfs f).spiCycleInProgress with
      | false => simp [Gate.failure?_hardware booted.known, busy] at failed
      | true =>
          simp only [Gate.failure?_hardware booted.known, busy, if_true,
            Option.some.injEq] at failed
          exact failed ▸ run_of_hardware booted valid created free accepted busy

/-! ## Writes -/

/-- What is left of a dump when all its gates hold: the copy. -/
theorem run_of_holds (holds : ∀ g : Gate, g.failure? r.state o disk = none) :
    ∃ f target disk' log', r.state.Booted f ∧ disk.create o.output = .ok (target, disk') ∧
      run recordedPlatform o ⟨⟨r, log⟩, disk, printed⟩
        = (copy recordedPlatform o (r.state.mappedChipset o f) target).closing
            (release recordedPlatform (r.state.mappedChipset o f))
            ⟨⟨r.after (r.state.surveyed f) (r.state.seenStatus f), log'⟩, disk',
              printed ++ r.state.preamble f ++ "Reading SPI flash"⟩ := by
  obtain ⟨f, target, disk', booted, valid, created⟩ := opened_of_before fun g _ => holds g
  have free := Gate.free_of_holds booted.known (holds .software)
  obtain ⟨log', opened⟩ := run_of_created r o log disk printed booted valid created
  rw [if_neg (by rw [free]; exact Bool.false_ne_true)] at opened
  exact ⟨f, target, disk', log', booted, created, opened⟩

/-- The first thing that a copy does to the hardware is to look at HSFS. -/
theorem entries_copy (on : r.recording = true)
    (accepted : Request.Accepted ⟨o.start, o.flashSize, o.blockSize⟩) (c : Chipset)
    (target : Target) :
    ∃ events,
      (Job.world (copy recordedPlatform o c target ⟨⟨r, log⟩, disk, printed⟩)).context.hardware.entries.toList
        = r.entries.toList ++ (r.state.windowEvent .w16 (c.layout.offset Offset.hsfs) :: events) ∧
      (Job.world (copy recordedPlatform o c target ⟨⟨r, log⟩, disk, printed⟩)).context.hardware.recording
        = true := by
  have common : (⟨c.layout, Machine.platform.window, c.pollLimit, Machine.platform.patience r.state⟩ :
      Sequencer Machine).layout.Common := c.family.layout_common
  obtain ⟨status, passages, result, s', t', answered, -, read, -⟩ := Sequencer.read_on common
    HardwareEvent.access (copier o) accepted r.state r.entries.toList (.start target log printed)
  rw [← Recorded.eq_on on] at read
  refine ⟨(passages.flatMap (Passage.accesses c.layout o.blockSize)).map .access, ?_⟩
  rw [hardware_copy]
  have hardware : (c.readFlash recordedPlatform (copier o) ⟨o.start, o.flashSize, o.blockSize⟩ r
      (.start target log printed)).2.1 = _ := congrArg (·.2.1) read
  rw [hardware, ← answered]
  exact ⟨rfl, rfl⟩

end First

/-- A dump goes through its gates in order, and writes to the hardware behind the last. -/
theorem run_gated (r : RecordedMachine) (o : CommandLine.Options) (log : Log.Logger) (disk : Disk)
    (printed : String) :
    (∀ (g : Gate) (e : Failure), g.failure? r.state o disk = some e →
      (∀ g' : Gate, g'.number < g.number → g'.failure? r.state o disk = none) →
      ∃ w, run recordedPlatform o ⟨⟨r, log⟩, disk, printed⟩ = .error e w ∧
        StoppedAt g o disk r w) ∧
    (r.recording = true →
      ∃ events,
        (Job.world (run recordedPlatform o
            ⟨⟨r, log⟩, disk, printed⟩)).context.hardware.entries.toList
          = r.entries.toList ++ events ∧
        ∀ before width offset value after,
          events = before ++ .access (.write width offset value) :: after →
          (∀ g : Gate, g.failure? r.state o disk = none) ∧
          ∃ f target disk' log', r.state.family? = .ok f ∧
            disk.create o.output = .ok (target, disk') ∧
            run recordedPlatform o ⟨⟨r, log⟩, disk, printed⟩
              = (copy recordedPlatform o (r.state.mappedChipset o f) target).closing
                  (release recordedPlatform (r.state.mappedChipset o f))
                  ⟨⟨r.after (r.state.surveyed f) (r.state.seenStatus f), log'⟩, disk',
                    printed ++ r.state.preamble f ++ "Reading SPI flash"⟩ ∧
            r.state.inspection f <+: before) := by
  refine ⟨?_, ?_⟩
  · intro g e failed before
    exact run_of_first failed before
  intro on
  rcases Gate.all_or_first r.state o disk with holds | ⟨g, e, failed, before⟩
  · obtain ⟨f, target, disk', log', booted, created, copied⟩ := run_of_holds holds
    have accepted := Gate.accepted_of_holds (holds .arguments)
    obtain ⟨events, entries, recording⟩ := entries_copy
      (r := r.after (r.state.surveyed f) (r.state.seenStatus f)) on accepted
      (r.state.mappedChipset o f) target
    refine ⟨r.state.inspection f ++ (events ++ [.unmap]), ?_, ?_⟩
    · rw [copied, Job.world_closing, hardware_release, Recorded.entries_after _ _ _ recording, entries,
        Recorded.entries_after _ _ _ on, Machine.inspection]
      simp only [List.append_assoc, List.cons_append, List.nil_append]
      rfl
    · intro before width offset value after split
      exact ⟨holds, f, target, disk', log', booted.known, created, copied,
        (r.state.inert_inspection f).isPrefix rfl split⟩
  · obtain ⟨w, stopped, left⟩ := run_of_first failed before
    obtain ⟨events, entries, inert⟩ := left.quiet.events
    rw [stopped]
    refine ⟨events, entries, ?_⟩
    intro before' width offset value after split
    have member : HardwareEvent.access (.write width offset value) ∈ events := by
      rw [split]
      exact List.mem_append_right _ List.mem_cons_self
    exact Bool.noConfusion (inert _ member)

/-- An old dump is lost if the controller is busy. -/
theorem run_gated_of_busy :
    ∃ w, run recordedPlatform ⟨"flash.bin", true, 12, 0, 4, some 3, true, .error⟩
          ⟨⟨⟨.ich9 0x4020 (.pattern 6 1 0 0) [] 2, true, #[]⟩, .empty .error⟩,
            Disk.empty.store ⟨.working, "flash.bin"⟩ #[1, 2, 3], ""⟩
        = .error (.notRead .busy) w ∧
      Quiet ⟨.ich9 0x4020 (.pattern 6 1 0 0) [] 2, true, #[]⟩ w.context.hardware ∧
      w.disk.content ⟨.working, "flash.bin"⟩ = some #[] := by
  have accepted : Request.Accepted ⟨0, 12, 4⟩ :=
    ⟨by decide, by decide, by decide, by decide, by decide⟩
  have located : (Disk.empty.store ⟨.working, "flash.bin"⟩ #[1, 2, 3]).locate "flash.bin"
      = .ok (.file ⟨.working, "flash.bin"⟩) := by decide
  have busy : ((Machine.ich9 0x4020 (.pattern 6 1 0 0) [] 2).hsfs Catalogue.ich9).spiCycleInProgress
      = true := by
    rw [Machine.hsfs_ich9]
    rfl
  obtain ⟨w, stopped, left⟩ := (run_gated
    ⟨.ich9 0x4020 (.pattern 6 1 0 0) [] 2, true, #[]⟩
    ⟨"flash.bin", true, 12, 0, 4, some 3, true, .error⟩ (.empty .error)
    (Disk.empty.store ⟨.working, "flash.bin"⟩ #[1, 2, 3]) "").1 .hardware (.notRead .busy)
    ((Gate.failure?_hardware (Machine.family?_ich9 _ _ _ _)).trans (if_pos busy))
    (fun g earlier => Gate.holds_of_booted (Machine.booted_ich9 _ _ _ _)
      (by rw [Machine.hsfs_ich9]; rfl) located (Machine.ssfs_ich9 _ _ _ _) accepted
      fun last => absurd earlier (by rw [last]; decide))
  exact ⟨w, stopped, left.quiet, left.empty (by decide) _ located⟩

end Dump

end FlashDump
