import FlashDump.Bits.Field
import Mathlib.Algebra.Group.Nat.Defs

/-!
# Words composed of fields

A word is composed by putting values into fields and single bits, and joining the results with
or.  As long as the fields lie apart, none of them notices the others.

* A field takes out of the word what was put into it, cut to its width (`value_place`).  Of what
  was put elsewhere it sees nothing (`value_place_of_apart`, `value_flag_of_outside`), and a
  single bit does not either (`test_place_of_outside`, `test_flag_of_ne`).
* The other way round, what two neighbours keep of a word is what the field keeps that spans
  both (`mask_or_mask`).  So a word is the or of the fields that it is divided in.

All of it is for words of any width and for fields anywhere in them.
-/

namespace FlashDump.Bits

variable {w : Nat}

/-- A value modulo a power of two, which is its low bits. -/
def cut (bits : Nat) (v : BitVec w) : BitVec w := BitVec.ofNat w (v.toNat % 2 ^ bits)

theorem getLsbD_cut (bits : Nat) (v : BitVec w) (i : Nat) :
    (cut bits v).getLsbD i = (decide (i < bits) && v.getLsbD i) := by
  rw [cut, BitVec.getLsbD_ofNat, Nat.testBit_mod_two_pow, BitVec.testBit_toNat]
  by_cases inside : i < w
  · rw [decide_eq_true inside, Bool.true_and]
  · rw [BitVec.getLsbD_of_ge v i (Nat.not_lt.1 inside), Bool.and_false, Bool.and_false]

@[simp] theorem cut_of_le {bits : Nat} (wide : w ≤ bits) (v : BitVec w) : cut bits v = v := by
  have small : v.toNat < 2 ^ bits :=
    Nat.lt_of_lt_of_le v.isLt (Nat.pow_le_pow_right (by decide) wide)
  rw [cut, Nat.mod_eq_of_lt small, BitVec.ofNat_toNat, BitVec.setWidth_eq]

@[simp] theorem cut_or (bits : Nat) (x y : BitVec w) :
    cut bits (x ||| y) = cut bits x ||| cut bits y := by
  apply BitVec.eq_of_getLsbD_eq
  intro i _
  rw [BitVec.getLsbD_or, getLsbD_cut, getLsbD_cut, getLsbD_cut, BitVec.getLsbD_or,
    Bool.and_or_distrib_left]

/-- What has no bit above its low ones is not changed. -/
theorem cut_of_low {bits : Nat} {x : BitVec w} (low : ∀ i, x.getLsbD i = true → i < bits) :
    cut bits x = x := by
  apply BitVec.eq_of_getLsbD_eq
  intro i _
  rw [getLsbD_cut]
  cases set : x.getLsbD i with
  | false => rw [Bool.and_false]
  | true => rw [decide_eq_true (low i set), Bool.true_and]

@[simp] theorem cut_place {bits : Nat} {f : Field w} (high : f.msb < bits) (v : BitVec w) :
    cut bits (f.place v) = f.place v := by
  apply cut_of_low
  intro i set
  rw [Field.getLsbD_place, Bool.and_eq_true, Bool.and_eq_true, decide_eq_true_iff,
    decide_eq_true_iff] at set
  exact Nat.lt_of_le_of_lt set.1.2 high

@[simp] theorem cut_flag {bits bit : Nat} (high : bit < bits) (set : Bool)
    (inside : (bit + 1).ble w = true) :
    cut bits (flag bit set inside : BitVec w) = flag bit set inside := by
  apply cut_of_low
  intro i there
  rw [getLsbD_flag, Bool.and_eq_true, decide_eq_true_iff] at there
  rw [there.1]
  exact high

@[simp] theorem setWidth_cut {k bits : Nat} (narrow : k ≤ bits) (v : BitVec w) :
    (cut bits v).setWidth k = v.setWidth k := by
  apply BitVec.eq_of_getLsbD_eq
  intro i inside
  have low : i < bits := Nat.lt_of_lt_of_le inside narrow
  rw [BitVec.getLsbD_setWidth, BitVec.getLsbD_setWidth, getLsbD_cut, decide_eq_true low,
    Bool.true_and]

/-- Low bits are the same in a wider word. -/
@[simp] theorem setWidth_cut_setWidth {k bits : Nat} (fits : k ≤ w) (v : BitVec k) :
    (cut bits (v.setWidth w)).setWidth k = cut bits v := by
  apply BitVec.eq_of_getLsbD_eq
  intro i inside
  have within : i < w := Nat.lt_of_lt_of_le inside fits
  simp only [BitVec.getLsbD_setWidth, getLsbD_cut, inside, within, decide_true, Bool.true_and]

/-! ## Taking out what was put in -/

namespace Field

@[simp] theorem width_field (msb lsb : Nat) (ordered : lsb.ble msb = true)
    (inside : (msb + 1).ble w = true) :
    (field msb lsb ordered inside : Field w).width = msb - lsb + 1 := rfl

variable (f g : Field w)

@[simp] theorem value_or (x y : BitVec w) : f.value (x ||| y) = f.value x ||| f.value y := by
  apply BitVec.eq_of_getLsbD_eq
  intro i _
  rw [BitVec.getLsbD_or, getLsbD_value, getLsbD_value, getLsbD_value, BitVec.getLsbD_or,
    Bool.and_or_distrib_left]

@[simp] theorem value_place (v : BitVec w) : f.value (f.place v) = cut f.width v := by
  have ordered := f.lsb_le_msb
  apply BitVec.eq_of_getLsbD_eq
  intro i _
  have low : f.lsb ≤ f.lsb + i := Nat.le_add_right _ _
  have moved : f.lsb + i - f.lsb = i := Nat.add_sub_cancel_left _ _
  rw [getLsbD_value, getLsbD_place, getLsbD_cut, decide_eq_true low, Bool.true_and, moved]
  by_cases inside : i < f.width
  · have near : i ≤ f.msb - f.lsb := Nat.le_of_lt_succ inside
    have high : f.lsb + i ≤ f.msb := by omega
    rw [decide_eq_true near, decide_eq_true high, decide_eq_true inside, Bool.true_and,
      Bool.true_and]
  · have far : ¬ i ≤ f.msb - f.lsb := fun near => inside (Nat.lt_succ_of_le near)
    rw [decide_eq_false far, decide_eq_false inside, Bool.false_and, Bool.false_and]

@[simp] theorem value_place_of_apart (apart : f.msb < g.lsb ∨ g.msb < f.lsb) (v : BitVec w) :
    f.value (g.place v) = 0#w := by
  apply BitVec.eq_of_getLsbD_eq
  intro i _
  rw [getLsbD_value, getLsbD_place]
  by_cases near : i ≤ f.msb - f.lsb
  · have ordered := f.lsb_le_msb
    have outside : ¬ (g.lsb ≤ f.lsb + i ∧ f.lsb + i ≤ g.msb) := by omega
    rw [← Bool.decide_and, decide_eq_false outside, Bool.false_and, Bool.and_false]
    exact BitVec.getLsbD_zero.symm
  · rw [decide_eq_false near, Bool.false_and]
    exact BitVec.getLsbD_zero.symm

@[simp] theorem value_flag_of_outside {bit : Nat} (outside : bit < f.lsb ∨ f.msb < bit) (set : Bool)
    (inside : (bit + 1).ble w = true) : f.value (flag bit set inside) = 0#w := by
  have ordered := f.lsb_le_msb
  apply BitVec.eq_of_getLsbD_eq
  intro i _
  rw [getLsbD_value, getLsbD_flag]
  by_cases near : i ≤ f.msb - f.lsb
  · have other : f.lsb + i ≠ bit := by omega
    rw [decide_eq_false other, Bool.false_and, Bool.and_false]
    exact BitVec.getLsbD_zero.symm
  · rw [decide_eq_false near, Bool.false_and]
    exact BitVec.getLsbD_zero.symm

end Field

section Test

variable {bit : Nat} (inside : (bit + 1).ble w = true)

@[simp] theorem test_or (x y : BitVec w) :
    test bit (x ||| y) inside = (test bit x inside || test bit y inside) :=
  BitVec.getLsbD_or

@[simp] theorem test_flag (set : Bool) :
    test bit (flag bit set inside : BitVec w) inside = set := by
  rw [test, getLsbD_flag, decide_eq_true rfl, Bool.true_and]

@[simp] theorem test_flag_of_ne {other : Nat} (apart : bit ≠ other) (set : Bool)
    (inside' : (other + 1).ble w = true) :
    test bit (flag other set inside' : BitVec w) inside = false := by
  rw [test, getLsbD_flag, decide_eq_false apart, Bool.false_and]

@[simp] theorem test_place_of_outside (f : Field w) (outside : bit < f.lsb ∨ f.msb < bit)
    (v : BitVec w) : test bit (f.place v) inside = false := by
  have apart : ¬ (f.lsb ≤ bit ∧ bit ≤ f.msb) := by omega
  rw [test, Field.getLsbD_place, ← Bool.decide_and, decide_eq_false apart, Bool.false_and]

end Test

/-! ## Putting back what was taken out -/

namespace Field

variable (f g : Field w)

/-- The field of a single bit. -/
def single (bit : Nat) (inside : bit < w) : Field w := ⟨bit, bit, Nat.le_refl bit, inside⟩

/-- The field from the low end of one field to the high end of another. -/
def span (ordered : g.lsb ≤ f.msb) : Field w := ⟨f.msb, g.lsb, ordered, f.msb_lt⟩

@[simp] theorem place_value (x : BitVec w) : f.place (f.value x) = f.mask x := rfl

@[simp] theorem place_setWidth_setWidth {k : Nat} (fits : f.width ≤ k) (v : BitVec w) :
    f.place ((v.setWidth k).setWidth w) = f.place v := by
  apply BitVec.eq_of_getLsbD_eq
  intro i inside
  rw [getLsbD_place, getLsbD_place, ← Bool.decide_and]
  by_cases within : f.lsb ≤ i ∧ i ≤ f.msb
  · have low : i - f.lsb < w := by omega
    have few : i - f.lsb < k := by
      unfold width at fits
      omega
    rw [BitVec.getLsbD_setWidth, BitVec.getLsbD_setWidth, decide_eq_true low, decide_eq_true few,
      Bool.true_and, Bool.true_and]
  · rw [decide_eq_false within, Bool.false_and, Bool.false_and]

@[simp] theorem flag_test {bit : Nat} (inside : (bit + 1).ble w = true) (x : BitVec w) :
    flag bit (test bit x inside) inside
      = (single bit (Nat.le_of_ble_eq_true inside)).mask x := by
  apply BitVec.eq_of_getLsbD_eq
  intro i _
  have here : i = bit ↔ bit ≤ i ∧ i ≤ bit := by omega
  rw [getLsbD_flag, getLsbD_mask, ← Bool.decide_and, decide_eq_decide.2 here]
  by_cases same : bit ≤ i ∧ i ≤ bit
  · obtain rfl : i = bit := here.2 same
    rfl
  · simp only [single, same, decide_false, Bool.false_and]

@[simp] theorem mask_or_mask (neighbours : g.msb + 1 = f.lsb) (x : BitVec w) :
    f.mask x ||| g.mask x
      = (f.span g (by have := f.lsb_le_msb; have := g.lsb_le_msb; omega)).mask x := by
  have above := f.lsb_le_msb
  have below := g.lsb_le_msb
  apply BitVec.eq_of_getLsbD_eq
  intro i _
  have both : g.lsb ≤ i ∧ i ≤ f.msb ↔ f.lsb ≤ i ∧ i ≤ f.msb ∨ g.lsb ≤ i ∧ i ≤ g.msb := by omega
  rw [BitVec.getLsbD_or, getLsbD_mask, getLsbD_mask, getLsbD_mask, ← Bool.decide_and,
    ← Bool.decide_and, ← Bool.decide_and, ← Bool.and_or_distrib_right, ← Bool.decide_or]
  exact congrArg (· && x.getLsbD i) (decide_eq_decide.2 both.symm)

/-- A field that begins at bit 0 keeps the low bits. -/
theorem mask_of_low (low : f.lsb = 0) (x : BitVec w) : f.mask x = cut (f.msb + 1) x := by
  apply BitVec.eq_of_getLsbD_eq
  intro i _
  rw [getLsbD_mask, getLsbD_cut, low, decide_eq_true (Nat.zero_le i), Bool.true_and,
    decide_eq_decide.2 Nat.lt_succ_iff.symm]

/-- A field that is the whole word keeps all of it. -/
theorem mask_of_whole (low : f.lsb = 0) (high : w ≤ f.msb + 1) (x : BitVec w) : f.mask x = x := by
  rw [mask_of_low f low, cut_of_le high]

end Field

/-- A flag is a value put into the field of its bit. -/
theorem flag_eq_place {bit : Nat} (inside : (bit + 1).ble w = true) (set : Bool) :
    (flag bit set inside : BitVec w)
      = (Field.single bit (Nat.le_of_ble_eq_true inside)).place ((BitVec.ofBool set).setWidth w) := by
  have bit_lt : bit < w := Nat.le_of_ble_eq_true inside
  apply BitVec.eq_of_getLsbD_eq
  intro i _
  rw [getLsbD_flag, Field.getLsbD_place, BitVec.getLsbD_setWidth, BitVec.getLsbD_ofBool]
  by_cases here : i = bit
  · subst here
    have positive : 0 < w := by omega
    simp [Field.single, positive]
  · have other : ¬ (bit ≤ i ∧ i ≤ bit) := by omega
    rw [← Bool.decide_and]
    simp [Field.single, here, other]

end FlashDump.Bits
