import FlashDump.Proofs.Bits.Composed
import FlashDump.Proofs.Checked.Field

/-!
# Ranges and partitions

A range that is only known when the program runs is a fault or a field (`Ranged`).  So each helper
that checks its range answers with the fault, or with the word that `Answers` gives bit by bit.  In
words of 64 bits the helpers come to the same (`ofRange_map` and what follows from it), also for a
field that ends at the last bit or is the whole word.

A word is taken to pieces by fields and put together again (`compose`).  Both laws of it are by
induction on the list of fields, of any length and in any order.

* Fields that lie apart do not notice each other.  Each gives back what was put into it, cut to its
  width (`value_compose`).
* Where each bit of the word is in a field, nothing of the word is lost (`compose_values`).

A `Partition` has both.
-/

namespace FlashDump

namespace Bits

variable {w : Nat}

/-! ## Ranges -/

/-- What a range of a word can be. -/
inductive Ranged (w msb lsb : Nat) : Except RangeFault (Field w) → Prop where
  | inverted (crossed : msb < lsb) : Ranged w msb lsb (.error (.inverted msb lsb))
  | outside (ordered : lsb ≤ msb) (high : w ≤ msb) : Ranged w msb lsb (.error (.outside msb w))
  | inside (f : Field w) (high : f.msb = msb) (low : f.lsb = lsb) : Ranged w msb lsb (.ok f)

theorem ranged_of? (w msb lsb : Nat) : Ranged w msb lsb (Field.of? w msb lsb) := by
  unfold Field.of?
  split
  case isTrue crossed => exact .inverted crossed
  case isFalse ordered =>
    split
    case isTrue high => exact .outside (Nat.le_of_not_lt ordered) high
    case isFalse => exact .inside _ rfl rfl

theorem Field.of?_eq_ok (f : Field w) : Field.of? w f.msb f.lsb = .ok f := by
  have ordered := Nat.not_lt.2 f.lsb_le_msb
  have inside := Nat.not_le.2 f.msb_lt
  rw [of?, dif_neg ordered, dif_neg inside]

/-- What a helper answers for a range: its fault, or else the word with the given bits. -/
structure Answers (msb lsb : Nat) (bit : Nat → Bool) (answer : Except RangeFault (BitVec w)) :
    Prop where
  error_iff : ∀ fault, answer = .error fault ↔
    (msb < lsb ∧ fault = .inverted msb lsb) ∨ (lsb ≤ msb ∧ w ≤ msb ∧ fault = .outside msb w)
  ok_iff : ∀ y, answer = .ok y ↔ lsb ≤ msb ∧ msb < w ∧ ∀ i, y.getLsbD i = bit i

theorem answers_map {msb lsb : Nat} {bit : Nat → Bool} {op : Field w → BitVec w}
    (bits : ∀ f : Field w, f.msb = msb → f.lsb = lsb → ∀ i, (op f).getLsbD i = bit i) :
    Answers msb lsb bit ((Field.of? w msb lsb).map op) := by
  have ranged := ranged_of? w msb lsb
  generalize Field.of? w msb lsb = range at ranged
  cases ranged with
  | inverted crossed =>
      constructor
      case error_iff =>
        intro fault
        simp [Except.map, crossed, Nat.not_le.2 crossed, eq_comm]
      case ok_iff =>
        intro y
        simp [Except.map, Nat.not_le.2 crossed]
  | outside ordered high =>
      constructor
      case error_iff =>
        intro fault
        simp [Except.map, ordered, high, Nat.not_lt.2 ordered, eq_comm]
      case ok_iff =>
        intro y
        simp [Except.map, Nat.not_lt.2 high]
  | inside f high low =>
      have ordered : lsb ≤ msb := high ▸ low ▸ f.lsb_le_msb
      have inside : msb < w := high ▸ f.msb_lt
      constructor
      case error_iff =>
        intro fault
        simp [Except.map, Nat.not_lt.2 ordered, Nat.not_le.2 inside]
      case ok_iff =>
        intro y
        have same : op f = y ↔ ∀ i, y.getLsbD i = bit i := by
          constructor
          · rintro rfl
            exact bits f high low
          · intro given
            apply BitVec.eq_of_getLsbD_eq
            intro i _
            rw [bits f high low, given]
        simp [Except.map, ordered, inside, same]

/-! ## Single bits -/

theorem test?_of_lt {bit : Nat} (inside : bit < w) (x : BitVec w) :
    test? bit x = .ok (x.getLsbD bit) :=
  dif_pos (Nat.ble_eq_true_of_le inside)

theorem test?_of_ge {bit : Nat} (outside : w ≤ bit) (x : BitVec w) :
    test? bit x = .error (.outside bit w) :=
  dif_neg fun inside => Nat.not_lt.2 outside (Nat.le_of_ble_eq_true inside)

theorem Field.eq_single {f : Field w} {bit : Nat} (inside : bit < w) (high : f.msb = bit)
    (low : f.lsb = bit) : f = .single bit inside := by
  obtain ⟨msb, lsb, _, _⟩ := f
  obtain rfl : msb = bit := high
  obtain rfl : lsb = msb := low
  rfl

theorem of?_single {bit : Nat} (inside : bit < w) :
    Field.of? w bit bit = .ok (.single bit inside) :=
  (Field.single bit inside).of?_eq_ok

theorem of?_single_of_ge {bit : Nat} (outside : w ≤ bit) :
    Field.of? w bit bit = .error (.outside bit w) := by
  rw [Field.of?, dif_neg (Nat.lt_irrefl bit), dif_pos outside]

theorem value_single {bit : Nat} (inside : bit < w) (x : BitVec w) :
    (Field.single bit inside).value x = if x.getLsbD bit then 1#w else 0#w := by
  have positive : 0 < w := Nat.zero_lt_of_lt inside
  apply BitVec.eq_of_getLsbD_eq
  intro i _
  rw [Field.getLsbD_value]
  by_cases first : i = 0
  · subst first
    cases set : x.getLsbD bit <;> simpa [Field.single, positive] using set
  · cases x.getLsbD bit <;> simp [Field.single, first]

/-- A test is the value of the field of one bit. -/
theorem test?_eq_value? (bit : Nat) (x : BitVec w) :
    test? bit x = (value? bit bit x).map (· == 1#w) := by
  by_cases inside : bit < w
  · have word : ((Field.single bit inside).value x == 1#w) = x.getLsbD bit := by
      rw [value_single]
      cases x.getLsbD bit <;> simp [Nat.ne_of_gt (Nat.zero_lt_of_lt inside)]
    rw [test?_of_lt inside, value?, of?_single inside, ← word]
    rfl
  · have outside := Nat.le_of_not_lt inside
    rw [test?_of_ge outside, value?, of?_single_of_ge outside]
    rfl

/-- `flag_eq_place` for a bit that is checked first. -/
theorem flag?_eq_place? (bit : Nat) (set : Bool) :
    flag? w bit set = place? bit bit ((BitVec.ofBool set).setWidth w) := by
  by_cases inside : bit < w
  · have few := Nat.ble_eq_true_of_le inside
    rw [flag?, dif_pos few, flag_eq_place few, place?, of?_single inside]
    rfl
  · have outside := Nat.le_of_not_lt inside
    rw [place?, of?_single_of_ge outside]
    exact dif_neg fun few => inside (Nat.le_of_ble_eq_true few)

/-! ## Words as lists of fields -/

namespace Field

/-- Two fields have no bit in common. -/
def Apart (f g : Field w) : Prop := f.msb < g.lsb ∨ g.msb < f.lsb

instance : DecidableRel (Apart (w := w)) := fun f g =>
  inferInstanceAs (Decidable (f.msb < g.lsb ∨ g.msb < f.lsb))

end Field

/-- The word that values make, each in its field. -/
def compose (parts : List (Field w × BitVec w)) : BitVec w :=
  parts.foldr (fun part word => part.1.place part.2 ||| word) 0#w

theorem compose_cons (part : Field w × BitVec w) (parts : List (Field w × BitVec w)) :
    compose (part :: parts) = part.1.place part.2 ||| compose parts := rfl

theorem getLsbD_compose (parts : List (Field w × BitVec w)) (i : Nat) :
    (compose parts).getLsbD i = parts.any fun part => (part.1.place part.2).getLsbD i := by
  induction parts with
  | nil => exact BitVec.getLsbD_zero
  | cons part parts ih => rw [compose_cons, BitVec.getLsbD_or, ih, List.any_cons]

/-- A field sees nothing of what was put elsewhere. -/
theorem value_compose_of_apart {f : Field w} {parts : List (Field w × BitVec w)}
    (apart : ∀ part ∈ parts, f.Apart part.1) : f.value (compose parts) = 0#w := by
  induction parts with
  | nil => exact BitVec.eq_of_getLsbD_eq fun i _ => by simp [compose, Field.getLsbD_value]
  | cons part parts ih =>
      obtain ⟨first, rest⟩ := List.forall_mem_cons.1 apart
      rw [compose_cons, Field.value_or, Field.value_place_of_apart f part.1 first, ih rest]
      exact BitVec.or_zero

/-- A field of a word gives back its own value, cut to its width. -/
theorem value_compose {parts : List (Field w × BitVec w)}
    (apart : parts.Pairwise fun part part' => part.1.Apart part'.1) {part : Field w × BitVec w}
    (member : part ∈ parts) : part.1.value (compose parts) = cut part.1.width part.2 := by
  induction parts with
  | nil => cases member
  | cons first parts ih =>
      obtain ⟨others, rest⟩ := List.pairwise_cons.1 apart
      rw [compose_cons, Field.value_or]
      -- Of the first part and the rest, one is clear where the field is.
      rcases List.mem_cons.1 member with rfl | later
      · rw [Field.value_place, value_compose_of_apart others]
        exact BitVec.or_zero
      · rw [Field.value_place_of_apart part.1 first.1 (others part later).symm, ih rest later]
        exact BitVec.zero_or

/-- Fields that take a word to pieces: each bit of it is in one of them, and in one only. -/
structure Partition (fields : List (Field w)) : Prop where
  apart : fields.Pairwise Field.Apart
  covers : ∀ i < w, ∃ f ∈ fields, f.lsb ≤ i ∧ i ≤ f.msb

/-- The values of fields that cover a word make the word again. -/
theorem compose_values {fields : List (Field w)}
    (covers : ∀ i < w, ∃ f ∈ fields, f.lsb ≤ i ∧ i ≤ f.msb) (x : BitVec w) :
    compose (fields.map fun f => (f, f.value x)) = x := by
  apply BitVec.eq_of_getLsbD_eq
  intro i inside
  obtain ⟨f, member, low, high⟩ := covers i inside
  rw [getLsbD_compose, List.any_map, Bool.eq_iff_iff, List.any_eq_true]
  constructor
  · rintro ⟨g, -, there⟩
    simp only [Function.comp, Field.place_value, Field.getLsbD_mask, Bool.and_eq_true] at there
    exact there.2
  · intro there
    refine ⟨f, member, ?_⟩
    simp only [Function.comp, Field.place_value, Field.getLsbD_mask, low, high, there,
      decide_true, Bool.and_true]

end Bits

/-! ## Words of 64 bits -/

namespace Checked

variable {σ α : Type} {w msb lsb : Nat}

/-- The program that stops at the fault of a range. -/
def ofRange : Except Bits.RangeFault α → Checked σ α
  | .ok a => pure a
  | .error fault => throw (.range fault)

/-- A program that checks its range first, and does to a word what a field does. -/
theorem ofRange_map {op : Bits.Field w → α} {program : Checked σ α}
    (stops : ∀ fault, (checkRange w msb lsb : Checked σ Unit) = throw fault → program = throw fault)
    (runs : ∀ f : Bits.Field w, f.msb = msb → f.lsb = lsb → program = pure (op f)) :
    program = ofRange ((Bits.Field.of? w msb lsb).map op) := by
  have ranged := Bits.ranged_of? w msb lsb
  generalize Bits.Field.of? w msb lsb = range at ranged
  cases ranged with
  | inverted crossed => exact stops _ (if_pos crossed)
  | outside ordered high =>
      apply stops
      rw [checkRange, if_neg (Nat.not_lt.2 ordered), if_pos high]
  | inside f high low => exact runs f high low

variable (fits : w ≤ 64)

include fits

theorem mask_eq_ofRange (msb lsb : Nat) (x : BitVec w) :
    (mask msb lsb x : Checked σ (BitVec w)) = ofRange (Bits.mask? msb lsb x) := by
  apply ofRange_map
  · intro fault stops
    rw [mask, stops]
    rfl
  · rintro f rfl rfl
    exact mask_eq f fits x

theorem value_eq_ofRange (msb lsb : Nat) (x : BitVec w) :
    (value msb lsb x : Checked σ (BitVec w)) = ofRange (Bits.value? msb lsb x) := by
  apply ofRange_map
  · intro fault stops
    rw [value, stops]
    rfl
  · rintro f rfl rfl
    exact value_eq f fits x

theorem place_eq_ofRange (msb lsb : Nat) (v : BitVec w) :
    (place msb lsb v : Checked σ (BitVec w)) = ofRange (Bits.place? msb lsb v) := by
  apply ofRange_map
  · intro fault stops
    rw [place, stops]
    rfl
  · rintro f rfl rfl
    exact place_eq f fits v

theorem test_eq_ofRange (bit : Nat) (x : BitVec w) :
    (test bit x : Checked σ Bool) = ofRange (Bits.test? bit x) := by
  by_cases inside : bit < w
  · rw [Bits.test?_of_lt inside, test_eq (Nat.ble_eq_true_of_le inside) fits]
    rfl
  · have outside := Nat.le_of_not_lt inside
    rw [Bits.test?_of_ge outside, test, checkRange, if_neg (Nat.lt_irrefl bit), if_pos outside]
    rfl

theorem flag_eq_ofRange (bit : Nat) (set : Bool) :
    (flag bit set : Checked σ (BitVec w)) = ofRange (Bits.flag? w bit set) := by
  rw [flag, place_eq_ofRange fits, Bits.flag?_eq_place?]

/-- In words of 64 bits the helpers answer the same for words of `w` bits. -/
structure Widened (σ : Type) (w : Nat) : Prop where
  mask : ∀ msb lsb (x : BitVec w),
    (Checked.mask msb lsb x : Checked σ (BitVec w)) = ofRange (Bits.mask? msb lsb x)
  value : ∀ msb lsb (x : BitVec w),
    (Checked.value msb lsb x : Checked σ (BitVec w)) = ofRange (Bits.value? msb lsb x)
  place : ∀ msb lsb (v : BitVec w),
    (Checked.place msb lsb v : Checked σ (BitVec w)) = ofRange (Bits.place? msb lsb v)
  test : ∀ bit (x : BitVec w), (Checked.test bit x : Checked σ Bool) = ofRange (Bits.test? bit x)
  flag : ∀ bit set,
    (Checked.flag bit set : Checked σ (BitVec w)) = ofRange (Bits.flag? w bit set)

theorem widened (σ : Type) : Widened σ w :=
  ⟨mask_eq_ofRange fits, value_eq_ofRange fits, place_eq_ofRange fits, test_eq_ofRange fits,
    flag_eq_ofRange fits⟩

end Checked

/-! ## The helpers -/

namespace Bits

/-- Which bit of the answer of a helper is which bit of its argument, on words of `w` bits. -/
structure Bitwise (w : Nat) : Prop where
  mask : ∀ msb lsb (x : BitVec w), Answers msb lsb
    (fun i => decide (lsb ≤ i) && decide (i ≤ msb) && x.getLsbD i) (mask? msb lsb x)
  value : ∀ msb lsb (x : BitVec w), Answers msb lsb
    (fun i => decide (i ≤ msb - lsb) && x.getLsbD (i + lsb)) (value? msb lsb x)
  place : ∀ msb lsb (v : BitVec w), Answers msb lsb
    (fun i => decide (lsb ≤ i) && decide (i ≤ msb) && v.getLsbD (i - lsb)) (place? msb lsb v)
  test : ∀ bit (x : BitVec w),
    test? bit x = if bit < w then .ok (x.getLsbD bit) else .error (.outside bit w)
  flag : ∀ bit set, Answers bit bit (fun i => decide (i = bit) && set) (flag? w bit set)
  test_single : ∀ bit (x : BitVec w), test? bit x = (value? bit bit x).map (· == 1#w)
  flag_single : ∀ bit set, flag? w bit set = place? bit bit ((BitVec.ofBool set).setWidth w)
  /-- For a field the helpers do what the field does. -/
  field : ∀ (f : Field w) (x : BitVec w), mask? f.msb f.lsb x = .ok (f.mask x) ∧
    value? f.msb f.lsb x = .ok (f.value x) ∧ place? f.msb f.lsb x = .ok (f.place x)

theorem bitwise (w : Nat) : Bitwise w := by
  constructor
  case mask =>
    intro msb lsb x
    apply answers_map
    rintro f rfl rfl
    exact f.getLsbD_mask x
  case value =>
    intro msb lsb x
    apply answers_map
    rintro f rfl rfl i
    rw [f.getLsbD_value, Nat.add_comm]
  case place =>
    intro msb lsb v
    apply answers_map
    rintro f rfl rfl
    exact f.getLsbD_place v
  case test =>
    intro bit x
    split
    case isTrue inside => exact test?_of_lt inside x
    case isFalse outside => exact test?_of_ge (Nat.le_of_not_lt outside) x
  case flag =>
    intro bit set
    rw [flag?_eq_place?]
    apply answers_map
    intro f high low i
    have inside : bit < w := high ▸ f.msb_lt
    rw [Field.eq_single inside high low, ← flag_eq_place (Nat.ble_eq_true_of_le inside)]
    exact getLsbD_flag bit set _ i
  case test_single => exact test?_eq_value?
  case flag_single => exact flag?_eq_place?
  case field =>
    intro f x
    rw [mask?, value?, place?, f.of?_eq_ok]
    exact ⟨rfl, rfl, rfl⟩

/-- The helpers take words to pieces and put them together bit by bit, also where they compute in
wider words.  A word is made again of the values of any partition, and a word made of values in
fields that lie apart has each of them, cut to its field. -/
theorem helpers_compose (fits : w ≤ 64) :
    Bitwise w ∧ (∀ σ, Checked.Widened σ w) ∧
      (∀ fields : List (Field w), Partition fields → ∀ x,
        compose (fields.map fun f => (f, f.value x)) = x) ∧
      ∀ parts : List (Field w × BitVec w),
        (parts.Pairwise fun part part' => part.1.Apart part'.1) →
          ∀ part ∈ parts, part.1.value (compose parts) = cut part.1.width part.2 := by
  refine ⟨bitwise w, Checked.widened fits, ?_, ?_⟩
  · intro fields partition x
    exact compose_values partition.covers x
  · intro parts apart part member
    exact value_compose apart member

/-- A control word of the flash cycle is the or of its six fields.  A byte count of sixteen bits
loses what is over its six. -/
theorem helpers_compose_of_control :
    let fields : List (Field 16) :=
      [field 15 15, field 14 14, field 13 8, field 7 3, field 2 1, field 0 0]
    let parts : List (Field 16 × BitVec 16) := fields.map fun f => (f, 0xffc1#16)
    (16 ≤ 64 ∧ Partition fields ∧ parts.Pairwise fun part part' => part.1.Apart part'.1) ∧
      compose (fields.map fun f => (f, f.value 0xbeef#16)) = 0xbeef#16 ∧
      (field 13 8 : Field 16).value (compose parts) = 0x01#16 ∧
      (Checked.value 3 5 0xbeef#16 : Checked Unit (BitVec 16))
        = throw (.range (.inverted 3 5)) := by
  intro fields parts
  have partition : Partition fields := ⟨by decide, by decide⟩
  have apart : parts.Pairwise fun part part' => part.1.Apart part'.1 := by decide
  obtain ⟨-, widened, pieces, values⟩ := helpers_compose (w := 16) (by decide)
  refine ⟨⟨by decide, partition, apart⟩, pieces fields partition _, ?_, ?_⟩
  · rw [values parts apart (field 13 8, 0xffc1#16) (by simp [parts, fields])]
    rfl
  · exact (widened Unit).value 3 5 _

end Bits

end FlashDump
