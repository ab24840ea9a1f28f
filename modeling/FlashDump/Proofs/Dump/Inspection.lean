import FlashDump.Dump.Run
import FlashDump.Proofs.Chipset.Layout
import FlashDump.Proofs.Machine.Platform

/-!
# What the program looks at

Up to the flash read the program only looks at the machine.  For each function that looks,
there is one equation: what it answers, what state it leaves the machine in, and which
events it adds to the record (`Recorded.after`).

Looking leaves almost no trace.  A request for a mapping is kept by the machine, and a read
of HSFS that hides the end of a cycle counts as one of those.  Nothing else changes
(`Machine.afterRead`, `Machine.requested`).
-/

namespace FlashDump

open FlashDump.Register

/-! ## The functions that look -/

namespace Machine

/-- The identity of the chipset. -/
def identity (m : Machine) : HardwareId where
  vendor := m.bridgeWord .w16 Pci.vendorOffset
  device := m.bridgeWord .w16 Pci.deviceOffset
  revision := m.bridgeWord .w8 Pci.revisionOffset

/-- The events of reading the identity. -/
def identityEvents (m : Machine) : List HardwareEvent :=
  [m.bridgeEvent .w16 Pci.vendorOffset, m.bridgeEvent .w16 Pci.deviceOffset,
    m.bridgeEvent .w8 Pci.revisionOffset]

/-- The base address register of the root complex. -/
def rcba (m : Machine) (f : Family) : Rcba := f.layout.rcba (m.bridgeWord .w32 Pci.rcbaOffset)

/-- The boot straps, as the family has them. -/
def gcs (m : Machine) (f : Family) : Gcs :=
  f.layout.gcs (m.windowWord .w32 Offset.gcs) (f.isIntegratedIo m.identity.device)

/-- The status of hardware sequencing. -/
def hsfs (m : Machine) (f : Family) : Hsfs :=
  f.layout.hsfs.decode (m.windowWord .w16 (f.layout.offset Offset.hsfs))

theorem spiCycleInProgress_hsfs (m : Machine) (f : Family) :
    (m.hsfs f).spiCycleInProgress
      = (m.controller.memory.load .w16 (f.layout.offset Offset.hsfs)).getLsbD 5 := by
  rw [hsfs, f.layout_common.hsfs, ← getLsbD_windowWord m _ (by decide)]
  rfl

/-- The status of software sequencing. -/
def ssfs (m : Machine) (f : Family) : Ssfs :=
  f.layout.ssfs.decode (m.windowWord .w8 (f.layout.offset Offset.ssfs))

theorem ssfs_afterRead (m : Machine) (width : Width) (offset : Nat) (f : Family) :
    (m.afterRead width offset).ssfs f = m.ssfs f := by
  rw [ssfs, windowWord_afterRead m width offset (by decide)]
  rfl

/-- A region and the protected range with the same number. -/
def region (m : Machine) (l : Layout) (index : Fin regionCount) : Freg × ProtectedRange :=
  (l.freg (m.windowWord .w32 (l.offset (Offset.freg + 4 * index))),
    l.pr (m.windowWord .w32 (l.offset (Offset.pr + 4 * index))))

/-- The events of reading them. -/
def regionEvents (m : Machine) (l : Layout) (index : Fin regionCount) : List HardwareEvent :=
  [m.windowEvent .w32 (l.offset (Offset.freg + 4 * index)),
    m.windowEvent .w32 (l.offset (Offset.pr + 4 * index))]

/-- The registers that are printed. -/
def survey (m : Machine) (f : Family) : Dump.Survey where
  bfpr := f.layout.bfpr (m.windowWord .w32 (f.layout.offset Offset.bfpr))
  frap := f.layout.frap (m.windowWord .w32 (f.layout.offset Offset.frap))
  regions := (List.finRange regionCount).map (m.region f.layout)
  hsfs := m.hsfs f
  biosCntl := f.layout.biosCntl (m.bridgeWord .w8 Pci.biosControlOffset)

/-- The events of reading them. -/
def surveyEvents (m : Machine) (f : Family) : List HardwareEvent :=
  [m.windowEvent .w32 (f.layout.offset Offset.bfpr), m.windowEvent .w32 (f.layout.offset Offset.frap)]
    ++ (List.finRange regionCount).flatMap (m.regionEvents f.layout)
    ++ [m.windowEvent .w16 (f.layout.offset Offset.hsfs), m.bridgeEvent .w8 Pci.biosControlOffset]

end Machine

variable (r : RecordedMachine)

theorem HardwareId.probe_recorded :
    HardwareId.probe recordedPlatform.config r
      = (r.state.identity, r.after r.state r.state.identityEvents) := by
  simp only [probe, Pci.ConfigReader.bridge16, Pci.ConfigReader.bridge8, recordedPlatform_config,
    Recorded.state_after, Recorded.after_after]
  rfl

namespace Chipset

variable (c : Chipset) (log : Log.Logger)

theorem readRcba_recorded :
    c.readRcba recordedPlatform ⟨r, log⟩
      = (r.state.rcba c.family,
          ⟨r.after r.state [r.state.bridgeEvent .w32 Pci.rcbaOffset],
            log.log (.rcba (r.state.bridgeWord .w32 Pci.rcbaOffset))⟩) := by
  simp only [readRcba, Pci.ConfigReader.bridge32, recordedPlatform_config]
  rfl

theorem readGcs_recorded (same : c.id = r.state.identity) :
    c.readGcs recordedPlatform ⟨r, log⟩
      = (r.state.gcs c.family,
          ⟨r.after r.state [r.state.windowEvent .w32 Offset.gcs],
            log.log (.gcs (r.state.windowWord .w32 Offset.gcs))⟩) := by
  have width : Width.w32 ≠ .w16 := by decide
  simp only [readGcs, Layout.readGcsWord, Mmio.read32, recordedPlatform_read_of_width r width,
    isIntegratedIo, same]
  rfl

end Chipset

namespace Dump

theorem readIdentity_recorded (log : Log.Logger) :
    readIdentity recordedPlatform ⟨r, log⟩
      = (r.state.identity, ⟨r.after r.state r.state.identityEvents, log⟩) := by
  simp only [readIdentity, HardwareId.probe_recorded]

section Mapping

variable {c : Chipset} (bare : c.window = none) {rcba : Rcba} (log : Log.Logger)

include bare

theorem mapWindow_of_disabled (disabled : rcba.enable = false) :
    mapWindow recordedPlatform c rcba ⟨r, log⟩
      = (.error (.invalidArgument .baseDisabled), ⟨r, log.log .baseDisabled⟩) := by
  simp [mapWindow, Chipset.map, Chipset.unmap, Window.map, bare, disabled, Context.note]

theorem mapWindow_of_refused (enabled : rcba.enable = true)
    (refused : r.state.mapperRefuses = true) :
    mapWindow recordedPlatform c rcba ⟨r, log⟩
      = (.error (.refused .mapMemory .permissionDenied),
          ⟨r.after (r.state.requested rcba.baseAddress.toNat)
            [.map rcba.baseAddress.toNat windowSize false], log⟩) := by
  simp [mapWindow, Chipset.map, Chipset.unmap, Window.map, bare, enabled, recordedPlatform_map,
    refused]

theorem mapWindow_of_granted (enabled : rcba.enable = true)
    (granted : r.state.mapperRefuses = false) :
    mapWindow recordedPlatform c rcba ⟨r, log⟩
      = (.ok { c with window := some rcba.baseAddress },
          ⟨r.after (r.state.requested rcba.baseAddress.toNat)
            [.map rcba.baseAddress.toNat windowSize true], log.log (.mapped rcba.baseAddress)⟩) := by
  simp [mapWindow, Chipset.map, Chipset.unmap, Window.map, bare, enabled, recordedPlatform_map,
    granted, Context.note]

end Mapping

theorem readStatus_recorded (c : Chipset) (log : Log.Logger) :
    readStatus recordedPlatform c ⟨r, log⟩
      = (r.state.ssfs c.family,
          ⟨r.after r.state [r.state.windowEvent .w8 (c.layout.offset Offset.ssfs)], log⟩) := by
  have width : Width.w8 ≠ .w16 := by decide
  simp only [readStatus, Layout.readSsfs, Mmio.read8, recordedPlatform_read_of_width r width]
  rfl

theorem Survey.readRegions_recorded (l : Layout) (indices : List (Fin regionCount)) :
    readRegions l recordedPlatform.window indices r
      = (indices.map (r.state.region l), r.after r.state (indices.flatMap (r.state.regionEvents l))) := by
  have width : Width.w32 ≠ .w16 := by decide
  induction indices generalizing r with
  | nil => rw [List.flatMap_nil, Recorded.after_nil]; rfl
  | cons index indices ih =>
      simp only [readRegions, Layout.readFreg, Layout.readPr, Mmio.read32,
        recordedPlatform_read_of_width _ width, Recorded.state_after, Recorded.after_after, ih]
      rfl

theorem Survey.read_recorded (c : Chipset) (log : Log.Logger) :
    Survey.read c recordedPlatform ⟨r, log⟩
      = (r.state.survey c.family,
          ⟨r.after (r.state.afterRead .w16 (c.layout.offset Offset.hsfs))
              (r.state.surveyEvents c.family),
            log.log (.biosCntl (r.state.bridgeWord .w8 Pci.biosControlOffset))⟩) := by
  have width : Width.w32 ≠ .w16 := by decide
  simp only [Survey.read, Layout.readBfpr, Layout.readFrap, Layout.readHsfs, Mmio.read32, Mmio.read16,
    recordedPlatform_read_of_width _ width, Survey.readRegions_recorded, recordedPlatform_read,
    Chipset.readBiosCntl, Pci.ConfigReader.bridge8, recordedPlatform_config, Recorded.state_after,
    Recorded.after_after]
  rfl

end Dump

end FlashDump
