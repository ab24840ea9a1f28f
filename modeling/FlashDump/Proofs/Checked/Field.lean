import FlashDump.Proofs.Bits.Composed
import FlashDump.Proofs.Checked.Arithmetic

/-!
# Checked bit fields

A field is taken out of a word, or put into one, by shifts and masks in words of 64 bits.  Whether
the range is a range of the word is checked before anything else.

Nothing of it faults for a field, whose ends are checked where it is written down, and the result
is what the field does to the word (`mask_eq`, `value_eq`, `place_eq`, `test_eq`, `flag_eq`).
-/

namespace FlashDump

/-- A field has as many values as its width allows. -/
theorem Bits.Field.toNat_value_lt {w : Nat} (f : Field w) (x : BitVec w) :
    (f.value x).toNat < 2 ^ f.width := by
  rw [value, BitVec.toNat_setWidth]
  exact Nat.lt_of_le_of_lt (Nat.mod_le _ _) (BitVec.isLt _)

namespace Checked

variable {σ : Type} {w : Nat}

def checkRange (w msb lsb : Nat) : Checked σ Unit :=
  if msb < lsb then throw (.range (.inverted msb lsb))
  else if w ≤ msb then throw (.range (.outside msb w))
  else pure ()

/-- A word whose low bits are set, up to a width. -/
def lowMask (width : Nat) : Checked σ (BitVec 64) :=
  if 64 ≤ width then pure (BitVec.allOnes 64)
  else do
    let next ← shiftLeft 1#64 width
    return BitVec.ofNat 64 (← sub next.toNat 1)

/-- The mask of a field, at the right end. -/
def fieldMask (msb lsb : Nat) : Checked σ (BitVec 64) := do
  lowMask (← add 32 (← sub msb lsb) 1)

def mask (msb lsb : Nat) (x : BitVec w) : Checked σ (BitVec w) := do
  checkRange w msb lsb
  let bits ← shiftLeft (← fieldMask msb lsb) lsb
  return (x.setWidth 64 &&& bits).setWidth w

def value (msb lsb : Nat) (x : BitVec w) : Checked σ (BitVec w) := do
  checkRange w msb lsb
  let moved ← shiftRight (x.setWidth 64) lsb
  return (moved &&& (← fieldMask msb lsb)).setWidth w

def place (msb lsb : Nat) (v : BitVec w) : Checked σ (BitVec w) := do
  checkRange w msb lsb
  return (← shiftLeft (v.setWidth 64 &&& (← fieldMask msb lsb)) lsb).setWidth w

def test (bit : Nat) (x : BitVec w) : Checked σ Bool := do
  checkRange w bit bit
  return x.setWidth 64 &&& (← shiftLeft 1#64 bit) != 0

def flag (bit : Nat) (set : Bool) : Checked σ (BitVec w) :=
  place bit bit ((BitVec.ofBool set).setWidth w)

/-! ## Masks -/

/-- The word of 64 bits whose low bits are set, up to a width. -/
def lowBits (width : Nat) : BitVec 64 := BitVec.ofNat 64 (2 ^ width - 1)

theorem getLsbD_lowBits {width : Nat} (fits : width ≤ 64) (i : Nat) :
    (lowBits width).getLsbD i = decide (i < width) := by
  rw [lowBits, BitVec.getLsbD_ofNat, Nat.testBit_two_pow_sub_one]
  by_cases low : i < width
  · have inside : i < 64 := by omega
    simp [low, inside]
  · simp [low]

theorem lowMask_eq {width : Nat} (fits : width ≤ 64) :
    (lowMask width : Checked σ (BitVec 64)) = pure (lowBits width) := by
  by_cases whole : width = 64
  · subst whole
    rfl
  · have inside : width < 64 := by omega
    have small : 2 ^ width < 2 ^ 64 := Nat.pow_lt_pow_right (by decide) inside
    have one : (1#64).toNat = 1 := rfl
    have next : (1#64 <<< width).toNat = 2 ^ width := by
      rw [BitVec.toNat_shiftLeft, one, Nat.one_shiftLeft, Nat.mod_eq_of_lt small]
    have positive : 1 ≤ 2 ^ width := Nat.one_le_two_pow
    rw [lowMask, if_neg (by omega), shiftLeft_eq inside, pure_bind, next, sub_eq positive, pure_bind]
    rfl

section Field

variable (f : Bits.Field w) (fits : w ≤ 64)

theorem checkRange_eq : (checkRange w f.msb f.lsb : Checked σ Unit) = pure () := by
  have ordered := f.lsb_le_msb
  have inside := f.msb_lt
  rw [checkRange, if_neg (by omega), if_neg (by omega)]

include fits

theorem width_le : f.width ≤ 64 := by
  have inside := f.msb_lt
  unfold Bits.Field.width
  omega

theorem fieldMask_eq : (fieldMask f.msb f.lsb : Checked σ (BitVec 64)) = pure (lowBits f.width) := by
  have ordered := f.lsb_le_msb
  have few : f.msb - f.lsb + 1 ≤ 64 := width_le f fits
  have word : f.msb - f.lsb + 1 < 2 ^ 32 := by omega
  rw [fieldMask, sub_eq ordered, pure_bind, add_eq word, pure_bind, lowMask_eq few]
  rfl

theorem mask_eq (x : BitVec w) : (mask f.msb f.lsb x : Checked σ (BitVec w)) = pure (f.mask x) := by
  have ordered := f.lsb_le_msb
  have inside := f.msb_lt
  have few := width_le f fits
  have same : (x.setWidth 64 &&& lowBits f.width <<< f.lsb).setWidth w = f.mask x := by
    apply BitVec.eq_of_getLsbD_eq
    intro i small
    have within : i < 64 := by omega
    have cut : i - f.lsb < f.width ↔ i ≤ f.msb ∨ i < f.lsb := by
      unfold Bits.Field.width
      omega
    rw [BitVec.getLsbD_setWidth, BitVec.getLsbD_and, BitVec.getLsbD_setWidth,
      BitVec.getLsbD_shiftLeft, getLsbD_lowBits few, Bits.Field.getLsbD_mask]
    by_cases low : i < f.lsb
    · have below : ¬ f.lsb ≤ i := by omega
      simp [low, below]
    · have above : f.lsb ≤ i := by omega
      simp [small, within, low, above, cut, Bool.and_comm]
  rw [mask, checkRange_eq, pure_bind, fieldMask_eq f fits, pure_bind, shiftLeft_eq (by omega),
    pure_bind, same]

theorem value_eq (x : BitVec w) : (value f.msb f.lsb x : Checked σ (BitVec w)) = pure (f.value x) := by
  have ordered := f.lsb_le_msb
  have inside := f.msb_lt
  have few := width_le f fits
  have same : (x.setWidth 64 >>> f.lsb &&& lowBits f.width).setWidth w = f.value x := by
    apply BitVec.eq_of_getLsbD_eq
    intro i small
    have cut : i < f.width ↔ i ≤ f.msb - f.lsb := by
      unfold Bits.Field.width
      omega
    rw [BitVec.getLsbD_setWidth, BitVec.getLsbD_and, BitVec.getLsbD_ushiftRight,
      BitVec.getLsbD_setWidth, getLsbD_lowBits few, Bits.Field.getLsbD_value]
    by_cases within : f.lsb + i < 64
    · simp [small, within, cut, Bool.and_comm]
    · have past : w ≤ f.lsb + i := by omega
      simp [within, BitVec.getLsbD_of_ge x _ past]
  rw [value, checkRange_eq, pure_bind, shiftRight_eq (by omega), pure_bind, fieldMask_eq f fits,
    pure_bind, same]

theorem place_eq (v : BitVec w) : (place f.msb f.lsb v : Checked σ (BitVec w)) = pure (f.place v) := by
  have ordered := f.lsb_le_msb
  have inside := f.msb_lt
  have few := width_le f fits
  have same : ((v.setWidth 64 &&& lowBits f.width) <<< f.lsb).setWidth w = f.place v := by
    apply BitVec.eq_of_getLsbD_eq
    intro i small
    have within : i < 64 := by omega
    have cut : i - f.lsb < f.width ↔ i ≤ f.msb ∨ i < f.lsb := by
      unfold Bits.Field.width
      omega
    rw [BitVec.getLsbD_setWidth, BitVec.getLsbD_shiftLeft, BitVec.getLsbD_and,
      BitVec.getLsbD_setWidth, getLsbD_lowBits few, Bits.Field.getLsbD_place]
    by_cases low : i < f.lsb
    · have below : ¬ f.lsb ≤ i := by omega
      simp [low, below]
    · have above : f.lsb ≤ i := by omega
      have near : i - f.lsb < 64 := by omega
      simp [small, within, low, above, near, cut, Bool.and_comm]
  rw [place, checkRange_eq, pure_bind, fieldMask_eq f fits, pure_bind, shiftLeft_eq (by omega),
    pure_bind, same]

end Field

section Written

variable {msb lsb : Nat} (ordered : lsb.ble msb = true) (inside : (msb + 1).ble w = true) (fits : w ≤ 64)

include fits

theorem mask_field (x : BitVec w) :
    (mask msb lsb x : Checked σ (BitVec w)) = pure ((Bits.field msb lsb ordered inside).mask x) :=
  mask_eq (Bits.field msb lsb ordered inside) fits x

theorem value_field (x : BitVec w) :
    (value msb lsb x : Checked σ (BitVec w)) = pure ((Bits.field msb lsb ordered inside).value x) :=
  value_eq (Bits.field msb lsb ordered inside) fits x

theorem place_field (v : BitVec w) :
    (place msb lsb v : Checked σ (BitVec w)) = pure ((Bits.field msb lsb ordered inside).place v) :=
  place_eq (Bits.field msb lsb ordered inside) fits v

end Written

/-! ## Single bits -/

section Bit

variable {bit : Nat} (inside : (bit + 1).ble w = true) (fits : w ≤ 64)

include fits

theorem test_eq (x : BitVec w) : (test bit x : Checked σ Bool) = pure (Bits.test bit x inside) := by
  have bit_lt : bit < w := Nat.le_of_ble_eq_true inside
  have within : bit < 64 := by omega
  have range : (checkRange w bit bit : Checked σ Unit) = pure () :=
    checkRange_eq (Bits.Field.single bit bit_lt)
  have one : ¬ BitVec.twoPow 64 bit = 0#64 := by
    intro zero
    have set : (BitVec.twoPow 64 bit).getLsbD bit = _ := BitVec.getLsbD_twoPow bit bit
    rw [zero] at set
    simp [within] at set
  have same : (x.setWidth 64 &&& 1#64 <<< bit != 0) = Bits.test bit x inside := by
    rw [← BitVec.twoPow_eq, BitVec.and_twoPow, BitVec.getLsbD_setWidth, Bits.test]
    cases x.getLsbD bit with
    | false => simp
    | true => simp [within, one]
  rw [test, range, pure_bind, shiftLeft_eq within, pure_bind, same]

theorem flag_eq (set : Bool) : (flag bit set : Checked σ (BitVec w)) = pure (Bits.flag bit set inside) := by
  rw [Bits.flag_eq_place inside set]
  exact place_eq (.single bit (Nat.le_of_ble_eq_true inside)) fits _

end Bit

end Checked

end FlashDump
