import FlashDump.Proofs.Bits.Composed
import FlashDump.Proofs.Register.Update
import FlashDump.Register.Region
import FlashDump.Register.SoftwareCycle

/-!
# Decoders and encoders of registers

A word that is decoded and encoded again is the same word, but for bits that the register does not
have.  A record that is encoded and decoded again is the same record, with each integer field cut
to the width of its bit field.  `Codec.Inverse` says both of a codec.  From both it follows that
two records have the same word just when they are the same once cut (`encode_eq_iff`).  So no
field is so wide that it reaches its neighbour.

The word direction goes by joining fields side by side until they are one field, which is the
whole word.  The record direction goes by taking each field out of an or of fields that lie apart.
The lemmas for both are for simp, with the places of the fields compared by decide.

CycleFrequency is the one field that is neither an integer nor a plain enumeration: three bits of
a reserved code count, and two of the eight codes are not reserved at all.
-/

namespace FlashDump.Register

open FlashDump.Bits

/-! ## Codecs -/

/-- A codec for words of which `keep` keeps the bits of the register, and for records that `norm`
cuts to the widths of their fields. -/
structure Codec.Inverse {w : Nat} {α : Type} (c : Codec w α) (keep : BitVec w → BitVec w)
    (norm : α → α) : Prop where
  encode_decode : ∀ raw, c.encode (c.decode raw) = keep raw
  decode_encode : ∀ r, c.decode (c.encode r) = norm r
  /-- Encoding sets no bit that the register does not have. -/
  keep_encode : ∀ r, keep (c.encode r) = c.encode r
  encode_eq_iff : ∀ r r', c.encode r = c.encode r' ↔ norm r = norm r'

theorem Codec.inverse_of_laws {w : Nat} {α : Type} {c : Codec w α} {keep : BitVec w → BitVec w}
    {norm : α → α} (encode_decode : ∀ raw, c.encode (c.decode raw) = keep raw)
    (decode_encode : ∀ r, c.decode (c.encode r) = norm r)
    (keep_encode : ∀ r, keep (c.encode r) = c.encode r) : c.Inverse keep norm := by
  refine ⟨encode_decode, decode_encode, keep_encode, ?_⟩
  intro r r'
  constructor
  · intro same
    rw [← decode_encode, ← decode_encode, same]
  · intro same
    have word (r : α) : c.encode r = c.encode (norm r) := by
      rw [← decode_encode, encode_decode, keep_encode]
    rw [word r, word r', same]

/-! ## Codes -/

@[simp] theorem EraseSize.ofCode_code (size : EraseSize) : ofCode size.code = size := by
  cases size <;> rfl

@[simp] theorem FlashCycle.ofCode_code (cycle : FlashCycle) : ofCode cycle.code = cycle := by
  cases cycle <;> rfl

namespace CycleFrequency

/-- The frequency that is left when all but the three bits of the code are dropped. -/
def norm : CycleFrequency → CycleFrequency
  | mhz20 => mhz20
  | mhz33 => mhz33
  | reserved code =>
      match code.toNat % 8 with
      | 0 => mhz20
      | 1 => mhz33
      | n => reserved (BitVec.ofNat 8 n)

@[simp] theorem code_ofCode (code : BitVec 3) :
    (ofCode code).code.setWidth 32 = code.setWidth 32 := by
  revert code
  decide

@[simp] theorem ofCode_setWidth_code (frequency : CycleFrequency) :
    ofCode (frequency.code.setWidth 3) = frequency.norm := by
  cases frequency with
  | mhz20 => rfl
  | mhz33 => rfl
  | reserved code =>
      revert code
      decide

end CycleFrequency

/-! ## Records -/

def Hsfs.norm (r : Hsfs) : Hsfs := { r with reserved12 := cut 7 r.reserved12 }

def Hsfc.norm (r : Hsfc) : Hsfc :=
  { r with
    flashDataByteCount := cut 6 r.flashDataByteCount
    reserved7 := cut 5 r.reserved7 }

def Faddr.norm (r : Faddr) : Faddr where
  reserved25 := cut 7 r.reserved25
  flashLinearAddress := cut 25 r.flashLinearAddress

def Ssfs.norm (r : Ssfs) : Ssfs := { r with reserved7 := cut 3 r.reserved7 }

def Ssfc.norm (r : Ssfc) : Ssfc :=
  { r with
    reserved23 := cut 5 r.reserved23
    spiCycleFrequency := r.spiCycleFrequency.norm
    dataByteCount := cut 6 r.dataByteCount
    cycleOpcodePointer := cut 3 r.cycleOpcodePointer }

/-- The four grants have eight bits each, and their fields have as many. -/
def Frap.norm (r : Frap) : Frap where
  biosMasterWriteAccessGrant := cut 8 r.biosMasterWriteAccessGrant
  biosMasterReadAccessGrant := cut 8 r.biosMasterReadAccessGrant
  biosRegionWriteAccess := cut 8 r.biosRegionWriteAccess
  biosRegionReadAccess := cut 8 r.biosRegionReadAccess

/-- The bits of an SSFC word that SSFC has. -/
def Ssfc.bits (raw : BitVec 32) : BitVec 32 := raw &&& 0xffffff

def Frap.codec : Codec 32 Frap := ⟨decode, encode⟩

/-! ## Words -/

theorem Hsfs.encode_decode (raw : BitVec 16) : encode (decode raw) = raw := by
  simp (disch := decide) [encode, decode]
  exact Field.mask_of_whole _ rfl (Nat.le_refl 16) raw

theorem Hsfc.encode_decode (raw : BitVec 16) : encode (decode raw) = raw := by
  simp (disch := decide) [encode, decode]
  exact Field.mask_of_whole _ rfl (Nat.le_refl 16) raw

theorem Faddr.encode_decode (raw : BitVec 32) : encode (decode raw) = raw := by
  simp (disch := decide) [encode, decode]
  exact Field.mask_of_whole _ rfl (Nat.le_refl 32) raw

theorem Frap.encode_decode (raw : BitVec 32) : encode (decode raw) = raw := by
  simp (disch := decide) [encode, decode]
  exact Field.mask_of_whole _ rfl (Nat.le_refl 32) raw

theorem Ssfs.encode_decode (raw : BitVec 8) : encode (decode raw) = raw := by
  simp (disch := decide) [encode, decode]
  exact Field.mask_of_whole _ rfl (Nat.le_refl 8) raw

theorem Ssfc.bits_eq_cut (raw : BitVec 32) : bits raw = cut 24 raw := by
  apply BitVec.eq_of_getLsbD_eq
  intro i inside
  have low : (0xffffff : BitVec 32).getLsbD i = decide (i < 24) := by
    interval_cases i <;> rfl
  rw [bits, BitVec.getLsbD_and, getLsbD_cut, low, Bool.and_comm]

theorem Ssfc.encode_decode (raw : BitVec 32) : encode (decode raw) = bits raw := by
  simp (disch := decide) [encode, decode]
  -- Here the fields span the low 24 bits only.
  exact (Field.mask_of_low _ rfl raw).trans (bits_eq_cut raw).symm

/-! ## Fields -/

theorem Hsfs.decode_encode (r : Hsfs) : decode (encode r) = r.norm := by
  simp (disch := decide) [encode, decode, norm]

theorem Hsfc.decode_encode (r : Hsfc) : decode (encode r) = r.norm := by
  simp (disch := decide) [encode, decode, norm]

theorem Faddr.decode_encode (r : Faddr) : decode (encode r) = r.norm := by
  simp (disch := decide) [encode, decode, norm]

theorem Frap.decode_encode (r : Frap) : decode (encode r) = r.norm := by
  simp (disch := decide) [encode, decode, norm]

theorem Ssfs.decode_encode (r : Ssfs) : decode (encode r) = r.norm := by
  simp (disch := decide) [encode, decode, norm]

theorem Ssfc.decode_encode (r : Ssfc) : decode (encode r) = r.norm := by
  simp (disch := decide) [encode, decode, norm]

/-- The fields of SSFC are below bit 24, and what is put into them stays there. -/
theorem Ssfc.bits_encode (r : Ssfc) : bits (encode r) = encode r := by
  rw [bits_eq_cut]
  simp (disch := decide) [encode]

/-! ## The registers that are written back -/

theorem Hsfs.codec_inverse : Hsfs.codec.Inverse id Hsfs.norm :=
  Codec.inverse_of_laws Hsfs.encode_decode Hsfs.decode_encode fun _ => rfl

theorem Hsfc.codec_inverse : Hsfc.codec.Inverse id Hsfc.norm :=
  Codec.inverse_of_laws Hsfc.encode_decode Hsfc.decode_encode fun _ => rfl

theorem Faddr.codec_inverse : Faddr.codec.Inverse id Faddr.norm :=
  Codec.inverse_of_laws Faddr.encode_decode Faddr.decode_encode fun _ => rfl

theorem Frap.codec_inverse : Frap.codec.Inverse id Frap.norm :=
  Codec.inverse_of_laws Frap.encode_decode Frap.decode_encode fun _ => rfl

theorem Ssfs.codec_inverse : Ssfs.codec.Inverse id Ssfs.norm :=
  Codec.inverse_of_laws Ssfs.encode_decode Ssfs.decode_encode fun _ => rfl

theorem Ssfc.codec_inverse : Ssfc.codec.Inverse Ssfc.bits Ssfc.norm :=
  Codec.inverse_of_laws Ssfc.encode_decode Ssfc.decode_encode Ssfc.bits_encode

/-- Every codec is its own inverse up to the widths of the fields, and that of SSFC up to the 24
bits of the register too. -/
theorem codecs_inverse :
    Hsfs.codec.Inverse id Hsfs.norm ∧ Hsfc.codec.Inverse id Hsfc.norm ∧
      Faddr.codec.Inverse id Faddr.norm ∧ Frap.codec.Inverse id Frap.norm ∧
      Ssfs.codec.Inverse id Ssfs.norm ∧ Ssfc.codec.Inverse Ssfc.bits Ssfc.norm :=
  ⟨Hsfs.codec_inverse, Hsfc.codec_inverse, Faddr.codec_inverse, Frap.codec_inverse,
    Ssfs.codec_inverse, Ssfc.codec_inverse⟩

/-- A reserved code of which only the bits above the third are set is the slowest frequency, and
does not reach the bits above it. -/
example :
    Ssfc.decode (Ssfc.encode
      ⟨0xff, .reserved 0xf8, false, false, 0, false, 0, false, false, false, false⟩)
    = ⟨0x1f, .mhz20, false, false, 0, false, 0, false, false, false, false⟩ := by decide

end FlashDump.Register
