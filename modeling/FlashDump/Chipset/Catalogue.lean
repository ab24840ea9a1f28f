import FlashDump.Chipset.Family
import FlashDump.Pci.Address

/-!
# The catalogue of chipsets

A chipset is identified by the vendor, device and revision registers of its LPC
bridge.  The catalogue has the seven families and their devices, and the search for
the family of a chipset by its identity.  The first family that lists the device is
taken.  No device is listed twice, so the order of the search does not matter.
-/

namespace FlashDump

open FlashDump.Register

/-- The identity of a chipset. -/
structure HardwareId where
  vendor : BitVec 16
  device : BitVec 16
  revision : BitVec 8
deriving DecidableEq, Repr

namespace HardwareId

def text (id : HardwareId) : String :=
  s!"VID: 0x{Text.hexUpper 4 id.vendor.toNat}  DID: 0x{Text.hexUpper 4 id.device.toNat}  " ++
    s!"RID: 0x{Text.hexUpper 2 id.revision.toNat}"

/-- Read the identity of the LPC bridge: vendor, device, revision. -/
def probe {σ : Type} (r : Pci.ConfigReader σ) (s : σ) : HardwareId × σ :=
  let (vendor, s) := r.bridge16 Pci.vendorOffset s
  let (device, s) := r.bridge16 Pci.deviceOffset s
  let (revision, s) := r.bridge8 Pci.revisionOffset s
  (⟨vendor, device, revision⟩, s)

example : (⟨0x8086, 0x1c44, 0x05⟩ : HardwareId).text = "VID: 0x8086  DID: 0x1C44  RID: 0x05" := by
  decide

end HardwareId

namespace Catalogue

/-- ICH8, the first with hardware sequencing. -/
def ich8 : Family :=
  .root
    { series := .ich8
      name := "Intel ICH8"
      devices := [
        ⟨0x2810, "ICH8/ICH8R"⟩,
        ⟨0x2811, "ICH8M-E"⟩,
        ⟨0x2812, "ICH8DH"⟩,
        ⟨0x2814, "ICH8DO"⟩,
        ⟨0x2815, "ICH8M"⟩] }

/-- ICH9, which moved the SPI registers. -/
def ich9 : Family :=
  .descend ich8
    { series := .ich9
      name := "Intel ICH9"
      devices := [
        ⟨0x2912, "ICH9DH"⟩,
        ⟨0x2914, "ICH9DO"⟩,
        ⟨0x2916, "ICH9R"⟩,
        ⟨0x2917, "ICH9M-E"⟩,
        ⟨0x2918, "ICH9"⟩,
        ⟨0x2919, "ICH9M"⟩]
      overrides := { spiBar := some 0x3800 } }

def ich10 : Family :=
  .descend ich9
    { series := .ich10
      name := "Intel ICH10"
      devices := [
        ⟨0x3a14, "ICH10DO"⟩,
        ⟨0x3a16, "ICH10R"⟩,
        ⟨0x3a18, "ICH10"⟩,
        ⟨0x3a1a, "ICH10D"⟩] }

/-- 6 Series, with the SMM write protect disable and the direct strap encoding. -/
def series6 : Family :=
  .descend ich10
    { series := .series6
      name := "Intel 6 Series"
      devices := [
        ⟨0x1c44, "Z68"⟩,
        ⟨0x1c46, "P67"⟩,
        ⟨0x1c47, "UM67"⟩,
        ⟨0x1c49, "HM65"⟩,
        ⟨0x1c4a, "H67"⟩,
        ⟨0x1c4b, "HM67"⟩,
        ⟨0x1c4c, "Q65"⟩,
        ⟨0x1c4d, "QS67"⟩,
        ⟨0x1c4e, "Q67"⟩,
        ⟨0x1c4f, "QM67"⟩,
        ⟨0x1c50, "B65"⟩,
        ⟨0x1c52, "C202"⟩,
        ⟨0x1c54, "C204"⟩,
        ⟨0x1c56, "C206"⟩,
        ⟨0x1c5c, "H61"⟩,
        ⟨0x1d40, "C606/C608"⟩,
        ⟨0x1d41, "C600"⟩]
      overrides :=
        { biosCntl := some BiosCntl.decodeWithSmm
          gcs := some Gcs.decodeDirect } }

def series7 : Family :=
  .descend series6
    { series := .series7
      name := "Intel 7 Series"
      devices := [
        ⟨0x1e44, "Z77"⟩,
        ⟨0x1e46, "Z75"⟩,
        ⟨0x1e47, "Q77"⟩,
        ⟨0x1e48, "Q75"⟩,
        ⟨0x1e49, "B75"⟩,
        ⟨0x1e4a, "H77"⟩,
        ⟨0x1e53, "C216"⟩,
        ⟨0x1e55, "QM77"⟩,
        ⟨0x1e56, "QS77"⟩,
        ⟨0x1e57, "HM77"⟩,
        ⟨0x1e58, "UM77"⟩,
        ⟨0x1e59, "HM76"⟩,
        ⟨0x1e5d, "HM75"⟩,
        ⟨0x1e5e, "HM70"⟩,
        ⟨0x1e5f, "NM70"⟩] }

/-- 8 Series, which no longer boots from PCI and has integrated parts. -/
def series8 : Family :=
  .descend series7
    { series := .series8
      name := "Intel 8 Series"
      devices := [
        ⟨0x8c41, "Lynx Point Mobile Engineering Sample"⟩,
        ⟨0x8c42, "Lynx Point Desktop Engineering Sample"⟩,
        ⟨0x8c44, "Z87"⟩,
        ⟨0x8c46, "Z85"⟩,
        ⟨0x8c49, "HM86"⟩,
        ⟨0x8c4a, "H87"⟩,
        ⟨0x8c4b, "HM87"⟩,
        ⟨0x8c4c, "Q85"⟩,
        ⟨0x8c4e, "Q87"⟩,
        ⟨0x8c4f, "QM87"⟩,
        ⟨0x8c50, "B85"⟩,
        ⟨0x8c52, "C222"⟩,
        ⟨0x8c54, "C224"⟩,
        ⟨0x8c56, "C226"⟩,
        ⟨0x8c5c, "H81"⟩,
        ⟨0x9c41, "Lynx Point LP Engineering Sample"⟩,
        ⟨0x9c43, "Lynx Point LP Premium"⟩,
        ⟨0x9c45, "Lynx Point LP Mainstream"⟩]
      integratedIo := [0x9c41, 0x9c43, 0x9c45]
      overrides := { gcs := some Gcs.decodeWithoutPci } }

def series9 : Family :=
  .descend series8
    { series := .series9
      name := "Intel 9 Series"
      devices := [
        ⟨0x8cc2, "9 Series Engineering Sample"⟩,
        ⟨0x8cc4, "Z97"⟩,
        ⟨0x8cc6, "H97"⟩,
        ⟨0x9cc1, "Haswell U Sample"⟩,
        ⟨0x9cc2, "Broadwell U Sample"⟩,
        ⟨0x9cc3, "Broadwell U Premium"⟩,
        ⟨0x9cc5, "Broadwell U Base"⟩,
        ⟨0x9cc6, "Broadwell Y Sample"⟩,
        ⟨0x9cc7, "Broadwell Y Premium"⟩,
        ⟨0x9cc9, "Broadwell Y Base"⟩]
      integratedIo := [0x9cc1, 0x9cc2, 0x9cc3, 0x9cc5, 0x9cc6, 0x9cc7, 0x9cc9] }

/-- All families, oldest first. -/
def families : List Family := [ich8, ich9, ich10, series6, series7, series8, series9]

end Catalogue

/-! ## Resolution -/

def intelVendor : BitVec 16 := 0x8086

inductive UnsupportedReason where
  | notIntel
  /-- No family lists the device. -/
  | unknownDevice
deriving DecidableEq, Repr

def UnsupportedReason.message : UnsupportedReason → String
  | notIntel => "only Intel chipsets are supported"
  | unknownDevice => "unsupported Intel chipset"

namespace Catalogue

/-- The family of a chipset in a list of families. -/
def resolveIn (families : List Family) (id : HardwareId) : Except UnsupportedReason Family :=
  if id.vendor ≠ intelVendor then .error .notIntel
  else
    match families.find? (·.supports id.device) with
    | some family => .ok family
    | none => .error .unknownDevice

def resolve (id : HardwareId) : Except UnsupportedReason Family := resolveIn families id

end Catalogue

end FlashDump
