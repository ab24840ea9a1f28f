import FlashDump.Chipset.Catalogue
import FlashDump.Proofs.Checked.Field
import Mathlib.Tactic.IntervalCases

/-!
# Checked registers

The decoders and encoders of the registers, with every bit field checked.  The straps of GCS are
looked up in tables, by the value of a field.

For any word and any record, none of them faults, and what they give is what the decoders and
encoders give.  The only question is that of the tables: a field of two bits has four values, and
one of a single bit has two.
-/

namespace FlashDump.Checked

open FlashDump.Register

variable {σ : Type}

/-! ## Hardware sequencing -/

def decodeHsfs (raw : BitVec 16) : Checked σ Hsfs := do
  return {
    flashConfigurationLockdown := ← test 15 raw
    flashDescriptorValid := ← test 14 raw
    flashDescriptorOverridePinstrapStatus := ← test 13 raw
    reserved12 := ← value 12 6 raw
    spiCycleInProgress := ← test 5 raw
    blockSectorEraseSize := .ofCode ((← value 4 3 raw).setWidth 2)
    accessErrorLog := ← test 2 raw
    flashCycleError := ← test 1 raw
    flashCycleDone := ← test 0 raw }

def encodeHsfs (r : Hsfs) : Checked σ (BitVec 16) := do
  return (← flag 15 r.flashConfigurationLockdown)
    ||| (← flag 14 r.flashDescriptorValid)
    ||| (← flag 13 r.flashDescriptorOverridePinstrapStatus)
    ||| (← place 12 6 r.reserved12)
    ||| (← flag 5 r.spiCycleInProgress)
    ||| (← place 4 3 (r.blockSectorEraseSize.code.setWidth 16))
    ||| (← flag 2 r.accessErrorLog)
    ||| (← flag 1 r.flashCycleError)
    ||| (← flag 0 r.flashCycleDone)

def decodeHsfc (raw : BitVec 16) : Checked σ Hsfc := do
  return {
    flashSpiSmiEnable := ← test 15 raw
    reserved14 := ← test 14 raw
    flashDataByteCount := ← value 13 8 raw
    reserved7 := ← value 7 3 raw
    flashCycle := .ofCode ((← value 2 1 raw).setWidth 2)
    flashCycleGo := ← test 0 raw }

def encodeHsfc (r : Hsfc) : Checked σ (BitVec 16) := do
  return (← flag 15 r.flashSpiSmiEnable)
    ||| (← flag 14 r.reserved14)
    ||| (← place 13 8 r.flashDataByteCount)
    ||| (← place 7 3 r.reserved7)
    ||| (← place 2 1 (r.flashCycle.code.setWidth 16))
    ||| (← flag 0 r.flashCycleGo)

def decodeFaddr (raw : BitVec 32) : Checked σ Faddr := do
  return {
    reserved25 := ← value 31 25 raw
    flashLinearAddress := ← value 24 0 raw }

def encodeFaddr (r : Faddr) : Checked σ (BitVec 32) := do
  return (← place 31 25 r.reserved25) ||| (← place 24 0 r.flashLinearAddress)

theorem decodeHsfs_eq (raw : BitVec 16) : (decodeHsfs raw : Checked σ Hsfs) = pure (.decode raw) := by
  simp (disch := decide) only [decodeHsfs, test_eq, value_field, pure_bind]
  rfl

theorem encodeHsfs_eq (r : Hsfs) : (encodeHsfs r : Checked σ (BitVec 16)) = pure r.encode := by
  simp (disch := decide) only [encodeHsfs, flag_eq, place_field, pure_bind]
  rfl

theorem decodeHsfc_eq (raw : BitVec 16) : (decodeHsfc raw : Checked σ Hsfc) = pure (.decode raw) := by
  simp (disch := decide) only [decodeHsfc, test_eq, value_field, pure_bind]
  rfl

theorem encodeHsfc_eq (r : Hsfc) : (encodeHsfc r : Checked σ (BitVec 16)) = pure r.encode := by
  simp (disch := decide) only [encodeHsfc, flag_eq, place_field, pure_bind]
  rfl

theorem decodeFaddr_eq (raw : BitVec 32) : (decodeFaddr raw : Checked σ Faddr) = pure (.decode raw) := by
  simp (disch := decide) only [decodeFaddr, value_field, pure_bind]
  rfl

theorem encodeFaddr_eq (r : Faddr) : (encodeFaddr r : Checked σ (BitVec 32)) = pure r.encode := by
  simp (disch := decide) only [encodeFaddr, place_field, pure_bind]
  rfl

/-! ## Software sequencing -/

def decodeSsfs (raw : BitVec 8) : Checked σ Ssfs := do
  return {
    reserved7 := ← value 7 5 raw
    accessErrorLog := ← test 4 raw
    flashCycleError := ← test 3 raw
    cycleDoneStatus := ← test 2 raw
    reserved1 := ← test 1 raw
    spiCycleInProgress := ← test 0 raw }

def encodeSsfs (r : Ssfs) : Checked σ (BitVec 8) := do
  return (← place 7 5 r.reserved7)
    ||| (← flag 4 r.accessErrorLog)
    ||| (← flag 3 r.flashCycleError)
    ||| (← flag 2 r.cycleDoneStatus)
    ||| (← flag 1 r.reserved1)
    ||| (← flag 0 r.spiCycleInProgress)

def decodeSsfc (raw : BitVec 32) : Checked σ Ssfc := do
  return {
    reserved23 := (← value 23 19 raw).setWidth 8
    spiCycleFrequency := .ofCode ((← value 18 16 raw).setWidth 3)
    spiSmiEnable := ← test 15 raw
    dataCycle := ← test 14 raw
    dataByteCount := (← value 13 8 raw).setWidth 8
    reserved7 := ← test 7 raw
    cycleOpcodePointer := (← value 6 4 raw).setWidth 8
    sequencePrefixOpcodePointer := ← test 3 raw
    atomicCycleSequence := ← test 2 raw
    spiCycleGo := ← test 1 raw
    reserved0 := ← test 0 raw }

def encodeSsfc (r : Ssfc) : Checked σ (BitVec 32) := do
  return (← place 23 19 (r.reserved23.setWidth 32))
    ||| (← place 18 16 (r.spiCycleFrequency.code.setWidth 32))
    ||| (← flag 15 r.spiSmiEnable)
    ||| (← flag 14 r.dataCycle)
    ||| (← place 13 8 (r.dataByteCount.setWidth 32))
    ||| (← flag 7 r.reserved7)
    ||| (← place 6 4 (r.cycleOpcodePointer.setWidth 32))
    ||| (← flag 3 r.sequencePrefixOpcodePointer)
    ||| (← flag 2 r.atomicCycleSequence)
    ||| (← flag 1 r.spiCycleGo)
    ||| (← flag 0 r.reserved0)

theorem decodeSsfs_eq (raw : BitVec 8) : (decodeSsfs raw : Checked σ Ssfs) = pure (.decode raw) := by
  simp (disch := decide) only [decodeSsfs, test_eq, value_field, pure_bind]
  rfl

theorem encodeSsfs_eq (r : Ssfs) : (encodeSsfs r : Checked σ (BitVec 8)) = pure r.encode := by
  simp (disch := decide) only [encodeSsfs, flag_eq, place_field, pure_bind]
  rfl

theorem decodeSsfc_eq (raw : BitVec 32) : (decodeSsfc raw : Checked σ Ssfc) = pure (.decode raw) := by
  simp (disch := decide) only [decodeSsfc, test_eq, value_field, pure_bind]
  rfl

theorem encodeSsfc_eq (r : Ssfc) : (encodeSsfc r : Checked σ (BitVec 32)) = pure r.encode := by
  simp (disch := decide) only [encodeSsfc, flag_eq, place_field, pure_bind]
  rfl

/-! ## Regions and ranges -/

def pageBase (page : BitVec 32) : Checked σ (BitVec 32) := place 24 12 page

def pageLimit (page : BitVec 32) : Checked σ (BitVec 32) := do
  return (← pageBase page) ||| 0xfff#32

def decodeBfpr (raw : BitVec 32) : Checked σ Bfpr := do
  return {
    reserved31 := (← value 31 29 raw).setWidth 8
    limit := ← pageBase (← value 28 16 raw)
    reserved15 := (← value 15 13 raw).setWidth 8
    base := ← pageBase (← value 12 0 raw) }

def decodeFrap (raw : BitVec 32) : Checked σ Frap := do
  return {
    biosMasterWriteAccessGrant := (← value 31 24 raw).setWidth 8
    biosMasterReadAccessGrant := (← value 23 16 raw).setWidth 8
    biosRegionWriteAccess := (← value 15 8 raw).setWidth 8
    biosRegionReadAccess := (← value 7 0 raw).setWidth 8 }

def decodeFreg (raw : BitVec 32) : Checked σ Freg := do
  return {
    reserved31 := (← value 31 29 raw).setWidth 8
    regionLimit := ← pageLimit (← value 28 16 raw)
    reserved15 := (← value 15 13 raw).setWidth 8
    regionBase := ← pageBase (← value 12 0 raw) }

def decodePr (raw : BitVec 32) : Checked σ ProtectedRange := do
  return {
    writeProtectionEnable := ← test 31 raw
    reserved30 := (← value 30 29 raw).setWidth 8
    limit := ← pageLimit (← value 28 16 raw)
    readProtectionEnable := ← test 15 raw
    reserved14 := (← value 14 13 raw).setWidth 8
    base := ← pageBase (← value 12 0 raw) }

theorem decodeBfpr_eq (raw : BitVec 32) : (decodeBfpr raw : Checked σ Bfpr) = pure (.decode raw) := by
  simp (disch := decide) only [decodeBfpr, pageBase, value_field, place_field, pure_bind]
  rfl

theorem decodeFrap_eq (raw : BitVec 32) : (decodeFrap raw : Checked σ Frap) = pure (.decode raw) := by
  simp (disch := decide) only [decodeFrap, value_field, pure_bind]
  rfl

theorem decodeFreg_eq (raw : BitVec 32) : (decodeFreg raw : Checked σ Freg) = pure (.decode raw) := by
  simp (disch := decide) only [decodeFreg, pageLimit, pageBase, value_field, place_field, pure_bind]
  rfl

theorem decodePr_eq (raw : BitVec 32) :
    (decodePr raw : Checked σ ProtectedRange) = pure (.decode raw) := by
  simp (disch := decide) only [decodePr, pageLimit, pageBase, test_eq, value_field, place_field,
    pure_bind]
  rfl

/-! ## The LPC bridge -/

def configAddress (a : Pci.Address) (offset : BitVec 8) : Checked σ (BitVec 32) := do
  return (← flag 31 true)
    ||| (← place 23 16 (a.bus.setWidth 32))
    ||| (← place 15 11 (a.device.setWidth 32))
    ||| (← place 10 8 (a.function.setWidth 32))
    ||| (← place 7 0 (offset.setWidth 32))

def decodeRcba (raw : BitVec 32) : Checked σ Rcba := do
  return {
    baseAddress := ← mask 31 14 raw
    reserved := ← value 13 1 raw
    enable := ← test 0 raw }

def decodeBiosCntl (raw : BitVec 8) : Checked σ BiosCntl := do
  return {
    reserved := ← value 7 6 raw
    smmBiosWriteProtectDisable := false
    topSwapStatus := ← test 4 raw
    spiReadConfiguration := .ofCode ((← value 3 2 raw).setWidth 2)
    biosLockEnable := ← test 1 raw
    biosWriteEnable := ← test 0 raw }

def decodeBiosCntlWithSmm (raw : BitVec 8) : Checked σ BiosCntl := do
  let smm ← test 5 raw
  return { (← decodeBiosCntl raw) with smmBiosWriteProtectDisable := smm }

theorem configAddress_eq (a : Pci.Address) (offset : BitVec 8) :
    (configAddress a offset : Checked σ (BitVec 32)) = pure (a.configAddress offset) := by
  simp (disch := decide) only [configAddress, flag_eq, place_field, pure_bind]
  rfl

theorem decodeRcba_eq (raw : BitVec 32) : (decodeRcba raw : Checked σ Rcba) = pure (.decode raw) := by
  simp (disch := decide) only [decodeRcba, test_eq, value_field, mask_field, pure_bind]
  rfl

theorem decodeBiosCntl_eq (raw : BitVec 8) :
    (decodeBiosCntl raw : Checked σ BiosCntl) = pure (.decode raw) := by
  simp (disch := decide) only [decodeBiosCntl, test_eq, value_field, pure_bind]
  rfl

theorem decodeBiosCntlWithSmm_eq (raw : BitVec 8) :
    (decodeBiosCntlWithSmm raw : Checked σ BiosCntl) = pure (.decodeWithSmm raw) := by
  simp (disch := decide) only [decodeBiosCntlWithSmm, decodeBiosCntl_eq, test_eq, pure_bind]
  rfl

/-! ## The boot straps -/

/-- The straps of a table, by the value of a field of GCS. -/
def straps (table : List BootStraps) (msb lsb : Nat) (raw : BitVec 32) : Checked σ BootStraps := do
  entry table (← value msb lsb raw).toNat

def decodeGcs (raw : BitVec 32) : Checked σ Gcs := do
  return {
    bootBiosStraps := ← straps [.spi, .spi, .pci, .lpc] 11 10 raw
    biosInterfaceLockdown := ← test 0 raw }

/-- GCS with another table than that of the oldest chipset, whose decoder does the rest. -/
def decodeGcsWith (table : List BootStraps) (msb lsb : Nat) (raw : BitVec 32) : Checked σ Gcs := do
  let found ← straps table msb lsb raw
  return { (← decodeGcs raw) with bootBiosStraps := found }

def decodeGcsDirect (raw : BitVec 32) : Checked σ Gcs :=
  decodeGcsWith [.lpc, .reserved, .pci, .spi] 11 10 raw

def decodeGcsWithoutPci (raw : BitVec 32) (integratedIo : Bool) : Checked σ Gcs :=
  if integratedIo then decodeGcsWith [.spi, .lpc] 10 10 raw
  else decodeGcsWith [.lpc, .reserved, .reserved, .spi] 11 10 raw

theorem straps_of_code {table : List BootStraps} {ofCode : BitVec 2 → BootStraps}
    (agrees : ∀ code : BitVec 2, table[code.toNat]? = some (ofCode code)) (raw : BitVec 32) :
    (straps table 11 10 raw : Checked σ BootStraps) = pure (ofCode (Gcs.strapCode raw)) := by
  have few := Bits.Field.toNat_value_lt (Bits.field 11 10) raw
  have code : ((Bits.field 11 10).value raw).toNat = (Gcs.strapCode raw).toNat := by
    rw [Gcs.strapCode, BitVec.toNat_setWidth]
    exact (Nat.mod_eq_of_lt few).symm
  simp (disch := decide) only [straps, value_field, pure_bind]
  rw [code, entry_eq (agrees _)]

theorem straps_of_bit (raw : BitVec 32) :
    (straps [.spi, .lpc] 10 10 raw : Checked σ BootStraps)
      = pure (.ofIntegratedBit (Bits.test 10 raw)) := by
  have few : ((Bits.field 10 10).value raw).toNat < 2 := Bits.Field.toNat_value_lt (Bits.field 10 10) raw
  have bit : ((Bits.field 10 10).value raw).toNat.testBit 0 = Bits.test 10 raw :=
    Bits.Field.getLsbD_value (Bits.field 10 10) raw 0
  simp (disch := decide) only [straps, value_field, pure_bind]
  generalize ((Bits.field 10 10).value raw).toNat = index at few bit
  rw [← bit]
  interval_cases index
  · exact entry_eq rfl
  · exact entry_eq rfl

theorem decodeGcs_eq (raw : BitVec 32) (integratedIo : Bool) :
    (decodeGcs raw : Checked σ Gcs) = pure (.decodeFirst raw integratedIo) := by
  have agrees : ∀ code : BitVec 2,
      [BootStraps.spi, .spi, .pci, .lpc][code.toNat]? = some (.ofFirstCode code) := by decide
  rw [decodeGcs, straps_of_code agrees, pure_bind, test_eq (by decide) (by decide), pure_bind]
  rfl

theorem decodeGcsWith_eq {table : List BootStraps} {msb lsb : Nat} {raw : BitVec 32}
    {found : BootStraps} (look : (straps table msb lsb raw : Checked σ BootStraps) = pure found) :
    (decodeGcsWith table msb lsb raw : Checked σ Gcs) = pure (.withStraps found raw) := by
  rw [decodeGcsWith, look, pure_bind, decodeGcs_eq raw false, pure_bind]
  rfl

theorem decodeGcsDirect_eq (raw : BitVec 32) (integratedIo : Bool) :
    (decodeGcsDirect raw : Checked σ Gcs) = pure (.decodeDirect raw integratedIo) := by
  have agrees : ∀ code : BitVec 2,
      [BootStraps.lpc, .reserved, .pci, .spi][code.toNat]? = some (.ofDirectCode code) := by decide
  exact decodeGcsWith_eq (straps_of_code agrees raw)

theorem decodeGcsWithoutPci_eq (raw : BitVec 32) (integratedIo : Bool) :
    (decodeGcsWithoutPci raw integratedIo : Checked σ Gcs)
      = pure (.decodeWithoutPci raw integratedIo) := by
  have agrees : ∀ code : BitVec 2,
      [BootStraps.lpc, .reserved, .reserved, .spi][code.toNat]? = some (.ofCodeWithoutPci code) := by
    decide
  cases integratedIo with
  | false => exact decodeGcsWith_eq (straps_of_code agrees raw)
  | true => exact decodeGcsWith_eq (straps_of_bit raw)

/-! ## Families -/

/-- The decoder of BIOS_CNTL of a generation. -/
def biosCntlOf : Series → BitVec 8 → Checked σ BiosCntl
  | .ich8 | .ich9 | .ich10 => decodeBiosCntl
  | .series6 | .series7 | .series8 | .series9 => decodeBiosCntlWithSmm

/-- The decoder of GCS of a generation. -/
def gcsOf : Series → BitVec 32 → Bool → Checked σ Gcs
  | .ich8 | .ich9 | .ich10 => fun raw _ => decodeGcs raw
  | .series6 | .series7 => fun raw _ => decodeGcsDirect raw
  | .series8 | .series9 => decodeGcsWithoutPci

section Known

variable {f : Family} (known : f ∈ Catalogue.families)

include known

theorem biosCntlOf_eq (raw : BitVec 8) :
    (biosCntlOf f.generation.series raw : Checked σ BiosCntl) = pure (f.layout.biosCntl raw) := by
  simp only [Catalogue.families, List.mem_cons, List.not_mem_nil, or_false] at known
  rcases known with rfl | rfl | rfl | rfl | rfl | rfl | rfl
  · exact decodeBiosCntl_eq raw
  · exact decodeBiosCntl_eq raw
  · exact decodeBiosCntl_eq raw
  · exact decodeBiosCntlWithSmm_eq raw
  · exact decodeBiosCntlWithSmm_eq raw
  · exact decodeBiosCntlWithSmm_eq raw
  · exact decodeBiosCntlWithSmm_eq raw

theorem gcsOf_eq (raw : BitVec 32) (integratedIo : Bool) :
    (gcsOf f.generation.series raw integratedIo : Checked σ Gcs)
      = pure (f.layout.gcs raw integratedIo) := by
  simp only [Catalogue.families, List.mem_cons, List.not_mem_nil, or_false] at known
  rcases known with rfl | rfl | rfl | rfl | rfl | rfl | rfl
  · exact decodeGcs_eq raw integratedIo
  · exact decodeGcs_eq raw integratedIo
  · exact decodeGcs_eq raw integratedIo
  · exact decodeGcsDirect_eq raw integratedIo
  · exact decodeGcsDirect_eq raw integratedIo
  · exact decodeGcsWithoutPci_eq raw integratedIo
  · exact decodeGcsWithoutPci_eq raw integratedIo

end Known

end FlashDump.Checked
