/-!
# Bit fields of a register word

A register word is a `BitVec w`.  A `Field w` names the bits `msb:lsb` of such a
word, both ends included and counted from zero.  The bounds are part of the
type, so a register described with fields can not name a bit it does not have.

A field does three things to a word.

* `Field.mask` keeps the field where it is and clears all other bits.
* `Field.value` moves the field to the right end of the word.
* `Field.place` cuts a value to the width of the field and moves it into place.
  Bits of the value above that width are dropped, so they never reach a
  neighbour.

`test` and `flag` are `value` and `place` for a single bit.

Where the bounds are only known when the program runs, `Field.of?` builds the
field or says what is wrong with it.  An inverted range is reported before one
that leaves the word.

`getLsbD_mask`, `getLsbD_value`, `getLsbD_place` and `getLsbD_flag` say which bit of
the result is which bit of the argument.
-/

namespace FlashDump.Bits

/-- The bits `msb:lsb` of a word of `w` bits. -/
structure Field (w : Nat) where
  msb : Nat
  lsb : Nat
  lsb_le_msb : lsb ≤ msb
  msb_lt : msb < w

/-- The field with the given ends, checked where it is written down. -/
def field {w : Nat} (msb lsb : Nat) (lsb_le_msb : lsb.ble msb = true := by exact Eq.refl true)
    (msb_lt : (msb + 1).ble w = true := by exact Eq.refl true) : Field w :=
  ⟨msb, lsb, Nat.le_of_ble_eq_true lsb_le_msb, Nat.le_of_ble_eq_true msb_lt⟩

inductive RangeFault where
  | inverted (msb lsb : Nat)
  /-- The high end is not a bit of the word. -/
  | outside (bit width : Nat)
deriving DecidableEq, Repr

def RangeFault.message : RangeFault → String
  | .inverted msb lsb => s!"bit range [{msb}:{lsb}] is inverted"
  | .outside bit width => s!"bit {bit} is outside of a {width}-bit word"

/-! ## The three operations -/

namespace Field

variable {w : Nat}

def width (f : Field w) : Nat := f.msb - f.lsb + 1

/-- The field of a word, moved to the right end. -/
def value (f : Field w) (x : BitVec w) : BitVec w :=
  (x.extractLsb' f.lsb f.width).setWidth w

/-- A value cut to the width of the field and moved into place. -/
def place (f : Field w) (v : BitVec w) : BitVec w :=
  (v.setWidth f.width).setWidth w <<< f.lsb

/-- The field of a word, left where it is, with all other bits clear. -/
def mask (f : Field w) (x : BitVec w) : BitVec w :=
  f.place (f.value x)

theorem getLsbD_value (f : Field w) (x : BitVec w) (i : Nat) :
    (f.value x).getLsbD i = (decide (i ≤ f.msb - f.lsb) && x.getLsbD (f.lsb + i)) := by
  have hw := f.msb_lt
  have hl := f.lsb_le_msb
  rw [value, BitVec.getLsbD_setWidth, BitVec.getLsbD_extractLsb', width]
  by_cases h : i ≤ f.msb - f.lsb
  · have h1 : i < w := by omega
    have h2 : i < f.msb - f.lsb + 1 := by omega
    simp [h, h1, h2]
  · have h2 : ¬ i < f.msb - f.lsb + 1 := by omega
    simp [h, h2]

theorem getLsbD_place (f : Field w) (v : BitVec w) (i : Nat) :
    (f.place v).getLsbD i
      = (decide (f.lsb ≤ i) && decide (i ≤ f.msb) && v.getLsbD (i - f.lsb)) := by
  have hw := f.msb_lt
  have hl := f.lsb_le_msb
  rw [place, BitVec.getLsbD_shiftLeft, BitVec.getLsbD_setWidth, BitVec.getLsbD_setWidth, width]
  by_cases hlo : f.lsb ≤ i
  · by_cases hhi : i ≤ f.msb
    · have h1 : i < w := by omega
      have h2 : ¬ i < f.lsb := by omega
      have h3 : i - f.lsb < w := by omega
      have h4 : i - f.lsb < f.msb - f.lsb + 1 := by omega
      simp [hlo, hhi, h1, h3, h4]
    · have h4 : ¬ i - f.lsb < f.msb - f.lsb + 1 := by omega
      simp [hhi, h4]
  · have h2 : i < f.lsb := by omega
    simp [hlo]

theorem getLsbD_mask (f : Field w) (x : BitVec w) (i : Nat) :
    (f.mask x).getLsbD i = (decide (f.lsb ≤ i) && decide (i ≤ f.msb) && x.getLsbD i) := by
  rw [mask, getLsbD_place, getLsbD_value]
  by_cases hlo : f.lsb ≤ i
  · by_cases hhi : i ≤ f.msb
    · have h1 : i - f.lsb ≤ f.msb - f.lsb := by omega
      simp [hlo, hhi, h1]
    · simp [hhi]
  · simp [hlo]

end Field

/-- Whether a bit of the word is set. -/
def test {w : Nat} (bit : Nat) (x : BitVec w)
    (_bit_lt : (bit + 1).ble w = true := by exact Eq.refl true) : Bool :=
  x.getLsbD bit

/-- The word with one bit set, or with none. -/
def flag {w : Nat} (bit : Nat) (set : Bool)
    (_bit_lt : (bit + 1).ble w = true := by exact Eq.refl true) : BitVec w :=
  (BitVec.ofBool set).setWidth w <<< bit

theorem getLsbD_flag {w : Nat} (bit : Nat) (set : Bool) (inside : (bit + 1).ble w = true)
    (i : Nat) : (flag bit set inside : BitVec w).getLsbD i = (decide (i = bit) && set) := by
  have bit_lt : bit < w := Nat.le_of_ble_eq_true inside
  rw [flag, BitVec.getLsbD_shiftLeft, BitVec.getLsbD_setWidth, BitVec.getLsbD_ofBool]
  by_cases same : i = bit
  · subst same
    have positive : 0 < w := by omega
    simp [bit_lt, positive]
  · by_cases below : i < bit
    · simp [same, below]
    · have h : i - bit ≠ 0 := by omega
      simp [same, h]

/-! ## Ranges known when the program runs -/

/-- The field with the given ends, if they are a range of the word. -/
def Field.of? (w msb lsb : Nat) : Except RangeFault (Field w) :=
  if inverted : msb < lsb then .error (.inverted msb lsb)
  else if outside : w ≤ msb then .error (.outside msb w)
  else .ok ⟨msb, lsb, Nat.le_of_not_lt inverted, Nat.lt_of_not_le outside⟩

/-- `Field.mask` of a range that is checked first. -/
def mask? {w : Nat} (msb lsb : Nat) (x : BitVec w) : Except RangeFault (BitVec w) :=
  (Field.of? w msb lsb).map (·.mask x)

/-- `Field.value` of a range that is checked first. -/
def value? {w : Nat} (msb lsb : Nat) (x : BitVec w) : Except RangeFault (BitVec w) :=
  (Field.of? w msb lsb).map (·.value x)

/-- `Field.place` of a range that is checked first. -/
def place? {w : Nat} (msb lsb : Nat) (v : BitVec w) : Except RangeFault (BitVec w) :=
  (Field.of? w msb lsb).map (·.place v)

/-- `test` of a bit that is checked first. -/
def test? {w : Nat} (bit : Nat) (x : BitVec w) : Except RangeFault Bool :=
  if bit_lt : (bit + 1).ble w = true then .ok (test bit x bit_lt) else .error (.outside bit w)

/-- `flag` of a bit that is checked first. -/
def flag? (w bit : Nat) (set : Bool) : Except RangeFault (BitVec w) :=
  if bit_lt : (bit + 1).ble w = true then .ok (flag bit set bit_lt) else .error (.outside bit w)

end FlashDump.Bits
