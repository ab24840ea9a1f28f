import FlashDump.Proofs.Dump.Inspection
import FlashDump.Proofs.Memory.RegisterFile
import FlashDump.Proofs.Sequencer.Arguments
import FlashDump.Proofs.Sequencer.Steps

/-!
# The stages of a dump

A dump goes through its gates in two stages, before the window is mapped (`run_of_…`) and
behind that (`runMapped_of_…`).  In each stage there is one equation for every way it can
end: for each gate that it can fail at, with the failure and all that was done by then, and
for the case that all of them hold, with what comes next.
-/

namespace FlashDump

open FlashDump.Register

/-! ## Jobs -/

namespace Dump.Job

variable {σ α β : Type} {job : Job σ α} {rest : α → Job σ β} {w w' : World σ} {a : α} {e : Failure}
  {wrap : ChipsetError → Failure} {x : Context σ} {cause : ChipsetError}
  {f : Context σ → Except ChipsetError α × Context σ}

/-- The world that a job leaves, whether it fails or not. -/
def world : EStateM.Result Failure (World σ) α → World σ
  | .ok _ w => w
  | .error _ w => w

theorem world_closing (job : Job σ α) (finish : World σ → World σ) (w : World σ) :
    world (job.closing finish w) = finish (world (job w)) := by
  rw [closing]
  cases job w <;> rfl

theorem bind_of_ok (done : job w = .ok a w') : (job >>= rest) w = rest a w' := by
  simp only [bind, EStateM.bind, done]

theorem bind_of_error (failed : job w = .error e w') : (job >>= rest) w = .error e w' := by
  simp only [bind, EStateM.bind, failed]

theorem bind_print (text : String) (rest : Unit → Job σ β) (w : World σ) :
    (print text >>= rest) w = rest () { w with printed := w.printed ++ text } := rfl

theorem bind_act {f : Context σ → α × Context σ} (done : f w.context = (a, x)) :
    (act f >>= rest) w = rest a { w with context := x } := by
  simp only [bind, EStateM.bind, act, done]

theorem attempt_of_ok (done : f w.context = (.ok a, x)) :
    attempt wrap f w = .ok a { w with context := x } := by
  rw [attempt, done]

theorem attempt_of_error (failed : f w.context = (.error cause, x)) :
    attempt wrap f w = .error (wrap cause) { w with context := x } := by
  rw [attempt, failed]

variable {finish : World σ → World σ}

theorem closing_of_eq {job' : Job σ α} (same : job w = job' w') :
    job.closing finish w = job'.closing finish w' := by
  rw [closing, closing, same]

theorem closing_of_ok (done : job w = .ok a w') : job.closing finish w = .ok a (finish w') := by
  rw [closing, done]

theorem closing_throw (e : Failure) (finish : World σ → World σ) (w : World σ) :
    (throw e : Job σ α).closing finish w = .error e (finish w) := rfl

theorem closing_of_error (failed : job w = .error e w') :
    job.closing finish w = .error e (finish w') := by
  rw [closing, failed]

end Dump.Job

/-! ## The output file -/

theorem Disk.store_store (d : Disk) (place : Place) (data data' : Array Byte) :
    (d.store place data).store place data' = d.store place data' := by
  rw [store, store, store]
  apply congrArg (Disk.mk d.system)
  funext p
  by_cases same : p = place
  · rw [if_pos same, if_pos same]
  · rw [if_neg same, if_neg same]
    exact if_neg same

theorem Disk.eq_store_of_create {d d' : Disk} {path : String} {place : Place}
    (created : d.create path = .ok (.file place, d')) : d' = d.store place #[] := by
  unfold create at created
  split at created
  · cases created
  · cases created
    rfl
  · rename_i target not_file _
    cases created
    exact absurd rfl (not_file place)

/-- A file that nothing was written to stays empty. -/
theorem Sink.close_start {d d' : Disk} {path : String} {target : Target}
    (created : d.create path = .ok (target, d')) : (start target).close d' = d' := by
  cases target with
  | device refusal => rfl
  | file place =>
      rw [Disk.eq_store_of_create created]
      exact Disk.store_store d place #[] #[]

/-! ## Up to the window -/

namespace Machine

/-- The family of the chipset. -/
def family? (m : Machine) : Except UnsupportedReason Family := Catalogue.resolve m.identity

/-- The handle on the chipset before the window is mapped. -/
def chipset (m : Machine) (o : CommandLine.Options) (f : Family) : Chipset :=
  ⟨f, m.identity, none, Dump.pollLimit o⟩

theorem window_chipset (m : Machine) (o : CommandLine.Options) (f : Family) :
    (m.chipset o f).window = none := rfl

/-- The handle on the chipset while the window is mapped. -/
def mappedChipset (m : Machine) (o : CommandLine.Options) (f : Family) : Chipset :=
  { m.chipset o f with window := some (m.rcba f).baseAddress }

/-- The events up to the mapping.  The identity is read twice. -/
def probeEvents (m : Machine) : List HardwareEvent :=
  m.identityEvents ++ m.identityEvents ++ [m.bridgeEvent .w32 Pci.rcbaOffset]

/-- What is printed up to the mapping. -/
def probeText (m : Machine) (f : Family) : String :=
  Dump.acquireText ++ Dump.identityLabel ++ Dump.identityText m.identity
    ++ Dump.mappingText (m.rcba f)

/-- What is printed up to the survey, and with it. -/
def preamble (m : Machine) (f : Family) : String :=
  m.probeText f ++ Dump.strapsText (m.gcs f) ++ (m.survey f).text

/-! What is seen of a machine is in the order of the gates that it is seen for. -/

variable (m : Machine) (f : Family)

/-- The physical address of the window. -/
def base : Nat := (m.rcba f).baseAddress.toNat

/-- What is seen for the first three gates, if the window is granted. -/
def seenMapping : List HardwareEvent := m.probeEvents ++ [.map (m.base f) windowSize true]

/-- What is seen for the first four gates. -/
def seenStraps : List HardwareEvent := m.seenMapping f ++ [m.windowEvent .w32 Offset.gcs]

/-- What is seen for the first five gates.  The sixth is about the disk. -/
def seenSurvey : List HardwareEvent := m.seenStraps f ++ m.surveyEvents f

/-- What is seen for the first seven gates.  The eighth is about the options. -/
def seenStatus : List HardwareEvent :=
  m.seenSurvey f ++ [m.windowEvent .w8 (f.layout.offset Offset.ssfs)]

/-- The machine once the window is mapped and HSFS has been read. -/
def surveyed : Machine := (m.requested (m.base f)).afterRead .w16 (f.layout.offset Offset.hsfs)

/-- All that is seen for the gates. -/
def inspection : List HardwareEvent :=
  m.seenStatus f ++ [(m.surveyed f).windowEvent .w16 (f.layout.offset Offset.hsfs)]

/-- The window of the machine can be mapped, and the machine boots from SPI flash. -/
structure Booted (m : Machine) (f : Family) : Prop where
  granted : m.portsRefused = false
  known : m.family? = .ok f
  enabled : (m.rcba f).enable = true
  mapper : m.mapperRefuses = false
  spi : (m.gcs f).bootBiosStraps = .spi

/-- The configuration of an ICH9 whose root complex is enabled. -/
def ich9Config : Pci.ConfigMap :=
  (Pci.ConfigMap.ofIdentity 0x8086 0x2912 0).set32 Pci.rcbaOffset 0xfed1c001

/-- An ICH9 with nothing but HSFS set in its window.  So it boots from SPI flash. -/
def ich9 (status : BitVec 16) (flash : Flash) (errors : List Nat) (delay : Nat) : Machine where
  config := ich9Config
  controller :=
    { Controller.fresh 0x3800 flash with
      memory := RegisterFile.zero.store .w16 (0x3800 + Offset.hsfs) status
      errors := errors
      delay := delay }
  mapperRefuses := false
  portsRefused := false
  requests := #[]

section Ich9

variable (status : BitVec 16) (flash : Flash) (errors : List Nat) (delay : Nat)

theorem family?_ich9 : (ich9 status flash errors delay).family? = .ok Catalogue.ich9 := by
  have identity : (HardwareId.probe Pci.ConfigMap.reader ich9Config).1 = ⟨0x8086, 0x2912, 0⟩ := by
    decide
  show Catalogue.resolve (HardwareId.probe Pci.ConfigMap.reader ich9Config).1 = _
  rw [identity]
  rfl

theorem windowWord_ich9 {width : Width} (other : width ≠ .w16) {offset : Nat}
    (apart : 0x3800 + Offset.hsfs + 2 ≤ offset ∨ offset + width.bytes ≤ 0x3800 + Offset.hsfs) :
    (ich9 status flash errors delay).windowWord width offset = 0 := by
  have shown : ¬ (ich9 status flash errors delay).controller.hides width offset = true := by
    simp [Controller.hides, other]
  rw [windowWord, Controller.read, if_neg shown]
  exact (RegisterFile.load_store_disjoint apart _).trans (RegisterFile.load_zero _ _)

theorem hsfs_ich9 : (ich9 status flash errors delay).hsfs Catalogue.ich9 = Hsfs.decode status := by
  have word : (ich9 status flash errors delay).windowWord .w16 (0x3800 + Offset.hsfs) = status :=
    RegisterFile.load_store_same (by decide) _
  exact congrArg Hsfs.decode word

theorem ssfs_ich9 :
    ((ich9 status flash errors delay).ssfs Catalogue.ich9).spiCycleInProgress = false := by
  rw [ssfs, windowWord_ich9 status flash errors delay (by decide) (by decide)]
  rfl

theorem booted_ich9 : (ich9 status flash errors delay).Booted Catalogue.ich9 where
  granted := rfl
  known := family?_ich9 status flash errors delay
  enabled := by
    show (Rcba.decode (ich9Config.get .w32 _)).enable = true
    decide
  mapper := rfl
  spi := by
    rw [gcs, windowWord_ich9 status flash errors delay (by decide) (by decide)]
    rfl

end Ich9

end Machine

namespace Dump

section Stages

variable (r : RecordedMachine) (o : CommandLine.Options) (log : Log.Logger) (disk : Disk)
  (printed : String)

theorem run_of_refused (refused : r.state.portsRefused = true) :
    run recordedPlatform o ⟨⟨r, log⟩, disk, printed⟩
      = .error (.noConfigAccess (.refused .ioPrivileges .permissionDenied))
          ⟨⟨r, log⟩, disk, printed ++ acquireText⟩ := by
  have acquired : recordedPlatform.acquire ⟨r, log⟩
      = (.error (.refused .ioPrivileges .permissionDenied), ⟨r, log⟩) := by
    simp [recordedPlatform, Platform.recorded, Machine.platform, refused]
  rw [run, Job.bind_print, Job.bind_of_error (Job.attempt_of_error acquired)]

theorem acquire_of_granted (granted : r.state.portsRefused = false) :
    recordedPlatform.acquire ⟨r, log⟩ = (.ok (), ⟨r, log⟩) := by
  simp [recordedPlatform, Platform.recorded, Machine.platform, granted]

/-- A simulated machine has nothing to do to take the privileges back. -/
theorem failing_abandon {α : Type} (job : Job RecordedMachine α) :
    job.failing (abandon recordedPlatform) = job := by
  funext w
  rw [Job.failing]
  cases job w <;> rfl

theorem probe_of_unknown {reason : UnsupportedReason} (unknown : r.state.family? = .error reason) :
    Chipset.probe recordedPlatform ⟨r, log⟩
      = (.error (.unsupported r.state.identity reason),
          ⟨r.after r.state r.state.identityEvents, log.log (.bridge r.state.identity)⟩) := by
  unfold Machine.family? at unknown
  simp only [Chipset.probe, HardwareId.probe_recorded, unknown]
  rfl

theorem probe_of_known {f : Family} (known : r.state.family? = .ok f) :
    ∃ log', Chipset.probe recordedPlatform ⟨r, log⟩
      = (.ok ⟨f, r.state.identity, none, .unbounded⟩,
          ⟨r.after r.state r.state.identityEvents, log'⟩) := by
  unfold Machine.family? at known
  simp only [Chipset.probe, HardwareId.probe_recorded, known]
  exact ⟨_, rfl⟩

theorem run_of_unknown (granted : r.state.portsRefused = false) {reason : UnsupportedReason}
    (unknown : r.state.family? = .error reason) :
    ∃ log', run recordedPlatform o ⟨⟨r, log⟩, disk, printed⟩
      = .error (.notDetected (.unsupported r.state.identity reason))
          ⟨⟨r.after r.state (r.state.identityEvents ++ r.state.identityEvents), log'⟩, disk,
            printed ++ acquireText ++ identityLabel ++ identityText r.state.identity⟩ := by
  have probed := probe_of_unknown (r.after r.state r.state.identityEvents) log unknown
  rw [Recorded.after_after] at probed
  refine ⟨log.log (.bridge r.state.identity), ?_⟩
  rw [run, Job.bind_print, Job.bind_of_ok (Job.attempt_of_ok (acquire_of_granted r log granted)),
    Job.bind_print, Job.bind_act (readIdentity_recorded r log), Job.bind_print,
    failing_abandon, Job.bind_of_error (Job.attempt_of_error probed)]
  rfl

/-- What is left once the family is known: the mapping, and what comes behind it. -/
theorem run_of_known (granted : r.state.portsRefused = false) {f : Family}
    (known : r.state.family? = .ok f) :
    ∃ log', run recordedPlatform o ⟨⟨r, log⟩, disk, printed⟩
      = (Job.attempt .notMapped (mapWindow recordedPlatform (r.state.chipset o f) (r.state.rcba f))
          >>= fun c => (runMapped recordedPlatform o c).closing (release recordedPlatform c))
          ⟨⟨r.after r.state r.state.probeEvents, log'⟩, disk, printed ++ r.state.probeText f⟩ := by
  obtain ⟨log', probed⟩ := probe_of_known (r.after r.state r.state.identityEvents) log known
  rw [Recorded.after_after] at probed
  refine ⟨log'.log (.rcba (r.state.bridgeWord .w32 Pci.rcbaOffset)), ?_⟩
  rw [run, Job.bind_print, Job.bind_of_ok (Job.attempt_of_ok (acquire_of_granted r log granted)),
    Job.bind_print, Job.bind_act (readIdentity_recorded r log), Job.bind_print,
    failing_abandon, Job.bind_of_ok (Job.attempt_of_ok probed),
    Job.bind_act (Chipset.readRcba_recorded _ _ log'), Job.bind_print, failing_abandon,
    Recorded.after_after]
  simp only [Machine.probeText, String.append_assoc]
  rfl

theorem hardware_release (m : Machine) (f : Family) (w : World RecordedMachine) :
    (release recordedPlatform (m.mappedChipset o f) w).context.hardware
      = w.context.hardware.after w.context.hardware.state [.unmap] := by
  rw [← recordedPlatform_unmap]
  rfl

theorem release_mapped (m : Machine) (f : Family) :
    release recordedPlatform (m.mappedChipset o f) ⟨⟨r, log⟩, disk, printed⟩
      = ⟨⟨r.after r.state [.unmap], log⟩, disk, printed⟩ := by
  have closed : (m.mappedChipset o f).close recordedPlatform ⟨r, log⟩
      = ⟨recordedPlatform.unmap r, log⟩ := rfl
  rw [release, closed, recordedPlatform_unmap]

section Known

variable (granted : r.state.portsRefused = false) {f : Family} (known : r.state.family? = .ok f)

include granted known

theorem run_of_disabled (disabled : (r.state.rcba f).enable = false) :
    ∃ log', run recordedPlatform o ⟨⟨r, log⟩, disk, printed⟩
      = .error (.notMapped (.invalidArgument .baseDisabled))
          ⟨⟨r.after r.state r.state.probeEvents, log'⟩, disk, printed ++ r.state.probeText f⟩ := by
  obtain ⟨log', rest⟩ := run_of_known r o log disk printed granted known
  have mapped := mapWindow_of_disabled (r.after r.state r.state.probeEvents)
    (r.state.window_chipset o f) log' disabled
  exact ⟨_, rest.trans (Job.bind_of_error (Job.attempt_of_error mapped))⟩

theorem run_of_unmapped (enabled : (r.state.rcba f).enable = true)
    (refused : r.state.mapperRefuses = true) :
    ∃ log', run recordedPlatform o ⟨⟨r, log⟩, disk, printed⟩
      = .error (.notMapped (.refused .mapMemory .permissionDenied))
          ⟨⟨r.after (r.state.requested (r.state.rcba f).baseAddress.toNat)
              (r.state.probeEvents ++ [.map (r.state.rcba f).baseAddress.toNat windowSize false]), log'⟩,
            disk, printed ++ r.state.probeText f⟩ := by
  obtain ⟨log', rest⟩ := run_of_known r o log disk printed granted known
  have mapped := mapWindow_of_refused (r.after r.state r.state.probeEvents)
    (r.state.window_chipset o f) log' enabled refused
  rw [Recorded.after_after] at mapped
  exact ⟨_, rest.trans (Job.bind_of_error (Job.attempt_of_error mapped))⟩

theorem run_of_mapped (enabled : (r.state.rcba f).enable = true)
    (mapper : r.state.mapperRefuses = false) :
    ∃ log', run recordedPlatform o ⟨⟨r, log⟩, disk, printed⟩
      = (runMapped recordedPlatform o (r.state.mappedChipset o f)).closing
          (release recordedPlatform (r.state.mappedChipset o f))
          ⟨⟨r.after (r.state.requested (r.state.rcba f).baseAddress.toNat)
              (r.state.probeEvents ++ [.map (r.state.rcba f).baseAddress.toNat windowSize true]), log'⟩,
            disk, printed ++ r.state.probeText f⟩ := by
  obtain ⟨log', rest⟩ := run_of_known r o log disk printed granted known
  have mapped := mapWindow_of_granted (r.after r.state r.state.probeEvents)
    (r.state.window_chipset o f) log' enabled mapper
  rw [Recorded.after_after] at mapped
  exact ⟨_, rest.trans (Job.bind_of_ok (Job.attempt_of_ok mapped))⟩

end Known

/-! ## Behind the window -/

/-- What is left once the flash has a valid descriptor. -/
def writeOutput {σ : Type} (p : Platform σ) (o : CommandLine.Options) (c : Chipset) : Job σ Unit := do
  let target ← openOutput o.output
  Job.print "Reading SPI flash"
  let ssfs ← Job.act (readStatus p c)
  if ssfs.spiCycleInProgress then throw .inProgress
  copy p o c target

section Mapped

variable (c : Chipset)

theorem runMapped_of_straps (same : c.id = r.state.identity)
    (other : (r.state.gcs c.family).bootBiosStraps ≠ .spi) :
    ∃ log', runMapped recordedPlatform o c ⟨⟨r, log⟩, disk, printed⟩
      = .error .notBootedFromSpi
          ⟨⟨r.after r.state [r.state.windowEvent .w32 Offset.gcs], log'⟩, disk,
            printed ++ strapsText (r.state.gcs c.family)⟩ := by
  refine ⟨log.log (.gcs (r.state.windowWord .w32 Offset.gcs)), ?_⟩
  rw [runMapped, Job.bind_act (Chipset.readGcs_recorded r c log same), Job.bind_print, if_pos other]
  rfl

/-- The survey is made before the descriptor bit in it is looked at. -/
theorem runMapped_of_spi (same : c.id = r.state.identity)
    (spi : (r.state.gcs c.family).bootBiosStraps = .spi) :
    ∃ log', runMapped recordedPlatform o c ⟨⟨r, log⟩, disk, printed⟩
      = (if (r.state.hsfs c.family).flashDescriptorValid then writeOutput recordedPlatform o c
          else throw .noDescriptor)
        ⟨⟨r.after (r.state.afterRead .w16 (c.layout.offset Offset.hsfs))
            (r.state.windowEvent .w32 Offset.gcs :: r.state.surveyEvents c.family), log'⟩, disk,
          printed ++ strapsText (r.state.gcs c.family) ++ (r.state.survey c.family).text⟩ := by
  have surveyed := Survey.read_recorded (r.after r.state [r.state.windowEvent .w32 Offset.gcs]) c
    (log.log (.gcs (r.state.windowWord .w32 Offset.gcs)))
  rw [Recorded.state_after, Recorded.after_after] at surveyed
  refine ⟨(log.log (.gcs (r.state.windowWord .w32 Offset.gcs))).log
    (.biosCntl (r.state.bridgeWord .w8 Pci.biosControlOffset)), ?_⟩
  rw [runMapped, Job.bind_act (Chipset.readGcs_recorded r c log same), Job.bind_print,
    if_neg (fun other => other spi)]
  dsimp only
  rw [Job.bind_act surveyed, Job.bind_print]
  have looked : (r.state.survey c.family).hsfs = r.state.hsfs c.family := rfl
  generalize r.state.survey c.family = survey at looked
  rw [← looked]
  cases survey.hsfs.flashDescriptorValid <;> rfl

theorem writeOutput_of_refused {cause : OsError} (refused : disk.locate o.output = .error cause) :
    writeOutput recordedPlatform o c ⟨⟨r, log⟩, disk, printed⟩
      = .error (.notOpened o.output cause) ⟨⟨r, log⟩, disk, printed⟩ := by
  have opened : openOutput o.output (⟨⟨r, log⟩, disk, printed⟩ : World RecordedMachine)
      = .error (.notOpened o.output cause) ⟨⟨r, log⟩, disk, printed⟩ := by
    simp only [openOutput, Disk.create, refused]
  rw [writeOutput, Job.bind_of_error opened]

theorem writeOutput_of_created {target : Target} {disk' : Disk}
    (created : disk.create o.output = .ok (target, disk')) :
    writeOutput recordedPlatform o c ⟨⟨r, log⟩, disk, printed⟩
      = (if (r.state.ssfs c.family).spiCycleInProgress then throw .inProgress
          else copy recordedPlatform o c target)
        ⟨⟨r.after r.state [r.state.windowEvent .w8 (c.layout.offset Offset.ssfs)], log⟩, disk',
          printed ++ "Reading SPI flash"⟩ := by
  have opened : openOutput o.output (⟨⟨r, log⟩, disk, printed⟩ : World RecordedMachine)
      = .ok target ⟨⟨r, log⟩, disk', printed⟩ := by
    simp only [openOutput, created]
  rw [writeOutput, Job.bind_of_ok opened, Job.bind_print,
    Job.bind_act (readStatus_recorded r c log)]
  cases (r.state.ssfs c.family).spiCycleInProgress <;> rfl

end Mapped

theorem run_of_booted {f : Family} (booted : r.state.Booted f) :
    ∃ log', run recordedPlatform o ⟨⟨r, log⟩, disk, printed⟩
      = (if (r.state.hsfs f).flashDescriptorValid then
            writeOutput recordedPlatform o (r.state.mappedChipset o f)
          else throw .noDescriptor : Job RecordedMachine Unit).closing
          (release recordedPlatform (r.state.mappedChipset o f))
          ⟨⟨r.after (r.state.surveyed f) (r.state.seenSurvey f), log'⟩, disk,
            printed ++ r.state.preamble f⟩ := by
  obtain ⟨log', mapped⟩ := run_of_mapped r o log disk printed booted.granted booted.known
    booted.enabled booted.mapper
  obtain ⟨log'', surveyed⟩ := runMapped_of_spi
    (r.after (r.state.requested (r.state.base f)) (r.state.seenMapping f)) o log' disk
    (printed ++ r.state.probeText f) (r.state.mappedChipset o f) rfl booted.spi
  refine ⟨log'', mapped.trans ((Job.closing_of_eq surveyed).trans ?_)⟩
  rw [Recorded.after_after, Machine.seenSurvey, Machine.seenStraps, List.append_assoc,
    Machine.preamble, String.append_assoc, String.append_assoc, String.append_assoc]
  rfl

theorem run_of_created {f : Family} (booted : r.state.Booted f)
    (valid : (r.state.hsfs f).flashDescriptorValid = true) {target : Target} {disk' : Disk}
    (created : disk.create o.output = .ok (target, disk')) :
    ∃ log', run recordedPlatform o ⟨⟨r, log⟩, disk, printed⟩
      = (if (r.state.ssfs f).spiCycleInProgress then throw .inProgress
          else copy recordedPlatform o (r.state.mappedChipset o f) target :
            Job RecordedMachine Unit).closing
          (release recordedPlatform (r.state.mappedChipset o f))
          ⟨⟨r.after (r.state.surveyed f) (r.state.seenStatus f), log'⟩, disk',
            printed ++ r.state.preamble f ++ "Reading SPI flash"⟩ := by
  obtain ⟨log', surveyed⟩ := run_of_booted r o log disk printed booted
  rw [if_pos valid] at surveyed
  have opened := writeOutput_of_created (r.after (r.state.surveyed f) (r.state.seenSurvey f)) o log' disk
    (printed ++ r.state.preamble f) (r.state.mappedChipset o f) created
  have status : (r.state.surveyed f).ssfs f = r.state.ssfs f := Machine.ssfs_afterRead _ _ _ _
  have event : (r.state.surveyed f).windowEvent .w8 (f.layout.offset Offset.ssfs)
      = r.state.windowEvent .w8 (f.layout.offset Offset.ssfs) := by
    rw [Machine.windowEvent, Machine.surveyed, Machine.windowWord_afterRead _ _ _ (by decide)]
    rfl
  refine ⟨log', surveyed.trans ((Job.closing_of_eq opened).trans ?_)⟩
  rw [Recorded.state_after, Recorded.after_after]
  change (if ((r.state.surveyed f).ssfs f).spiCycleInProgress then _ else _ : Job _ _).closing _
    ⟨⟨r.after _ (_ ++ [(r.state.surveyed f).windowEvent .w8 (f.layout.offset Offset.ssfs)]), _⟩, _, _⟩ = _
  rw [event]
  simp only [status]
  rfl

/-! ## The copy -/

/-- The state of a copy that has not begun. -/
def Progress.start (target : Target) (log : Log.Logger) (printed : String) : Progress :=
  ⟨.start target, log, printed, none, 0⟩

section Copy

variable (c : Chipset) (target : Target)

/-- Only the read acts on the hardware. -/
theorem hardware_copy :
    (Job.world (copy recordedPlatform o c target ⟨⟨r, log⟩, disk, printed⟩)).context.hardware
      = (c.readFlash recordedPlatform (copier o) ⟨o.start, o.flashSize, o.blockSize⟩ r
          (.start target log printed)).2.1 := by
  unfold copy Progress.start
  dsimp only
  generalize c.readFlash recordedPlatform _ _ r _ = read
  obtain ⟨result, r', t⟩ := read
  dsimp only
  rcases conclude o.output result t with ⟨_ | _, t'⟩ <;> rfl

theorem copy_of_failed {e : ChipsetError} {r' : RecordedMachine} {t : Progress}
    (failed : c.readFlash recordedPlatform (copier o) ⟨o.start, o.flashSize, o.blockSize⟩ r
      (.start target log printed) = (some (.error e), r', t)) :
    copy recordedPlatform o c target ⟨⟨r, log⟩, disk, printed⟩
      = .error (.notRead e) ⟨⟨r', t.log⟩, t.sink.close disk, t.printed⟩ := by
  unfold Progress.start at failed
  simp only [copy, failed, conclude]

theorem copy_of_fault {fault : ArgumentFault}
    (refused : Request.plan ⟨o.start, o.flashSize, o.blockSize⟩ = .error fault) :
    copy recordedPlatform o c target ⟨⟨r, log⟩, disk, printed⟩
      = .error (.notRead (.invalidArgument fault))
          ⟨⟨r, log⟩, (Sink.start target).close disk, printed⟩ := by
  refine copy_of_failed r o log disk printed c target (t := .start target log printed) ?_
  rw [Chipset.readFlash, Sequencer.read, refused]

theorem copy_of_busy (accepted : Request.Accepted ⟨o.start, o.flashSize, o.blockSize⟩)
    (busy : (r.state.hsfs c.family).spiCycleInProgress = true) :
    ∃ log', copy recordedPlatform o c target ⟨⟨r, log⟩, disk, printed⟩
      = .error (.notRead .busy)
          ⟨⟨r.after (r.state.afterRead .w16 (c.layout.offset Offset.hsfs))
              [r.state.windowEvent .w16 (c.layout.offset Offset.hsfs)], log'⟩,
            (Sink.start target).close disk, printed⟩ := by
  obtain ⟨plan, planned, -⟩ := Request.plan_of_accepted accepted
  have common : (c.sequencer recordedPlatform r).layout.Common := c.family.layout_common
  have word := recordedPlatform_read r .w16 (c.layout.offset Offset.hsfs)
  have set : (r.state.windowWord .w16 (c.layout.offset Offset.hsfs)).getLsbD 5 = true := by
    rw [Machine.getLsbD_windowWord _ _ (by decide)]
    exact (r.state.spiCycleInProgress_hsfs c.family).symm.trans busy
  have read := Sequencer.read_of_plan common (copier o) planned word (.start target log printed)
  rw [if_pos set] at read
  exact ⟨_, copy_of_failed r o log disk printed c target read⟩

end Copy

end Stages

end Dump

end FlashDump
