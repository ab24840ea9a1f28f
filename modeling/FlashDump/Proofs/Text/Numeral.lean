import FlashDump.CommandLine.Options
import Mathlib.Data.Nat.Digits.Defs
import Mathlib.Tactic.IntervalCases

/-!
# Which texts are numbers

`IsNumeral` is the grammar of numerals: one digit or more, with at most one plus sign in front.
The value is that of the digits by their positions.  A `Run` is the longest run of digits at the
start of a text.

What is read of a text is decided by its run (`readDigits_run`).  If the number of the run is too
large, that is the fault, whatever comes behind the run.  Else, if something comes behind it, that
is no digit.  Else the number is read.

`CommandLine.readNumber_exact` says this of a value of the command line, whose radix depends on how
it begins, and says in which words each fault is reported.
-/

namespace FlashDump.Text

/-! ## Digits -/

/-- A character stands for a digit of a radix, which is sixteen at most. -/
def IsDigit (radix : Nat) (c : Char) (d : Nat) : Prop :=
  d < radix ∧ (c = Nat.digitChar d ∨ c = (Nat.digitChar d).toUpper)

instance (radix : Nat) : DecidableRel (IsDigit radix) := fun c d =>
  inferInstanceAs (Decidable (d < radix ∧ (c = Nat.digitChar d ∨ c = (Nat.digitChar d).toUpper)))

theorem toNat_toUpper_digitChar :
    ∀ d < 16, (Nat.digitChar d).toUpper.toNat = if d < 10 then d + 48 else d + 55 := by
  decide

section Digit

variable {radix : Nat} (few : radix ≤ 16)

include few

theorem digit?_digitChar {d : Nat} (below : d < radix) :
    digit? radix (Nat.digitChar d) = some d ∧ digit? radix (Nat.digitChar d).toUpper = some d := by
  have code : d < 16 := by omega
  constructor
  · interval_cases d <;> simp [digit?, below, Nat.digitChar]
  · simp only [digit?, toNat_toUpper_digitChar d code]
    interval_cases d <;> simp [below]

theorem isDigit_of_digit? {c : Char} {d : Nat} (found : digit? radix c = some d) :
    IsDigit radix c d := by
  rw [digit?, Option.filter_eq_some_iff, decide_eq_true_iff] at found
  obtain ⟨place, below⟩ := found
  have code : d < 16 := by omega
  refine ⟨below, ?_⟩
  -- The three ranges are the decimal digits, the lower case letters and the upper case ones.
  split at place
  · next range =>
      left
      simp at range place
      apply Char.toNat_inj.1
      rw [Nat.toNat_digitChar_of_lt_ten (by omega)]
      omega
  · split at place
    · next range =>
        left
        simp at range place
        have letter : 10 ≤ d := by omega
        apply Char.toNat_inj.1
        interval_cases d <;> simp [Nat.digitChar] <;> omega
    · split at place
      · next range =>
          right
          simp at range place
          apply Char.toNat_inj.1
          rw [toNat_toUpper_digitChar d code, if_neg (by omega)]
          omega
      · cases place

theorem digit?_eq_some_iff (c : Char) (d : Nat) : digit? radix c = some d ↔ IsDigit radix c d := by
  constructor
  · exact isDigit_of_digit? few
  · rintro ⟨below, rfl | rfl⟩
    · exact (digit?_digitChar few below).1
    · exact (digit?_digitChar few below).2

theorem digit?_eq_none_iff (c : Char) : digit? radix c = none ↔ ∀ d, ¬ IsDigit radix c d := by
  rw [Option.eq_none_iff_forall_ne_some]
  exact forall_congr' fun d => not_congr (digit?_eq_some_iff few c d)

end Digit

/-! ## Numbers by positions -/

/-- The number that digits add up to behind those of another number. -/
def numberFrom (radix value : Nat) (digits : List Nat) : Nat :=
  digits.foldl (fun value d => value * radix + d) value

theorem numberFrom_zero (radix : Nat) (digits : List Nat) :
    numberFrom radix 0 digits = Nat.ofDigits radix digits.reverse := by
  rw [Nat.ofDigits_eq_foldr, List.foldr_reverse, numberFrom]
  congr 1
  funext value d
  rw [Nat.add_comm, Nat.mul_comm]
  rfl

/-- A number does not get smaller by more digits. -/
theorem le_numberFrom {radix : Nat} (positive : 0 < radix) (value : Nat) (digits : List Nat) :
    value ≤ numberFrom radix value digits := by
  induction digits generalizing value with
  | nil => exact Nat.le_refl value
  | cons d digits ih =>
      have grown : value ≤ value * radix + d :=
        Nat.le_trans (Nat.le_mul_of_pos_right value positive) (Nat.le_add_right _ d)
      exact Nat.le_trans grown (ih _)

/-! ## Runs of digits -/

/-- A text is divided behind the longest run of digits at its start. -/
structure Run (radix : Nat) (text run : List Char) (digits : List Nat) (rest : List Char) :
    Prop where
  split : text = run ++ rest
  digits : List.Forall₂ (IsDigit radix) run digits
  longest : ∀ c ∈ rest.head?, ∀ d, ¬ IsDigit radix c d

section Runs

variable {radix limit : Nat} (few : radix ≤ 16)

include few

theorem exists_run (text : List Char) : ∃ run digits rest, Run radix text run digits rest := by
  induction text with
  | nil => exact ⟨[], [], [], rfl, .nil, by simp⟩
  | cons c text ih =>
      cases found : digit? radix c with
      | none =>
          refine ⟨[], [], c :: text, rfl, .nil, ?_⟩
          rintro c' ⟨⟩
          exact (digit?_eq_none_iff few c).1 found
      | some d =>
          obtain ⟨run, digits, rest, parts⟩ := ih
          have first := (digit?_eq_some_iff few c d).1 found
          exact ⟨c :: run, d :: digits, rest, congrArg (c :: ·) parts.split, .cons first parts.digits,
            parts.longest⟩

/-- Digits are read one after the other, up to the limit. -/
theorem readDigits_append (positive : 0 < radix) {run : List Char} {digits : List Nat}
    (are : List.Forall₂ (IsDigit radix) run digits) (rest : List Char) {value : Nat}
    (below : value < limit) :
    readDigits radix limit value (run ++ rest)
      = if numberFrom radix value digits < limit then
          readDigits radix limit (numberFrom radix value digits) rest
        else .error .tooLarge := by
  induction are generalizing value with
  | nil => exact (if_pos below).symm
  | @cons c d run digits is are ih =>
      rw [List.cons_append, readDigits, (digit?_eq_some_iff few c d).2 is]
      by_cases small : value * radix + d < limit
      · exact (if_pos small).trans (ih small)
      · have large : ¬ numberFrom radix (value * radix + d) digits < limit :=
          fun fits => small (Nat.lt_of_le_of_lt (le_numberFrom positive _ digits) fits)
        exact (if_neg small).trans (if_neg large).symm

/-- What is read is decided by the run. -/
theorem readDigits_run (positive : 0 < radix) {text run : List Char} {digits : List Nat}
    {rest : List Char} (parts : Run radix text run digits rest) (some_limit : 0 < limit) :
    readDigits radix limit 0 text
      = if Nat.ofDigits radix digits.reverse < limit then
          if rest = [] then .ok (Nat.ofDigits radix digits.reverse) else .error .invalidDigit
        else .error .tooLarge := by
  rw [parts.split, readDigits_append few positive parts.digits rest some_limit, numberFrom_zero]
  refine if_congr Iff.rfl ?_ rfl
  cases rest with
  | nil => rfl
  | cons c rest =>
      have none := (digit?_eq_none_iff few c).2 (parts.longest c rfl)
      rw [readDigits, none]
      exact (if_neg (List.cons_ne_nil c rest)).symm

end Runs

/-! ## Numerals -/

/-- A text is a numeral, and this is its value. -/
def IsNumeral (radix : Nat) (text : List Char) (n : Nat) : Prop :=
  ∃ run digits, (text = run ∨ text = '+' :: run) ∧ run ≠ [] ∧
    List.Forall₂ (IsDigit radix) run digits ∧ n = Nat.ofDigits radix digits.reverse

/-- A text begins with digits, behind a plus sign if there is one, whose number is not below the
limit. -/
def IsTooLarge (radix limit : Nat) (text : List Char) : Prop :=
  ∃ run digits rest, Run radix (dropPlus text) run digits rest ∧
    limit ≤ Nat.ofDigits radix digits.reverse

/-- What is wrong with a text that is not read as a number below the limit. -/
def IsFault (radix limit : Nat) (text : List Char) : NumeralFault → Prop
  | .empty => text = []
  | .tooLarge => IsTooLarge radix limit text
  | .invalidDigit =>
      text ≠ [] ∧ ¬ IsTooLarge radix limit text ∧ ∀ n, IsNumeral radix text n → limit ≤ n

theorem eq_dropPlus_or (text : List Char) :
    text = dropPlus text ∨ text = '+' :: dropPlus text := by
  unfold dropPlus
  split
  · exact .inr rfl
  · exact .inl rfl

section Numeral

variable {radix limit : Nat} (few : radix ≤ 16)

include few

theorem not_isDigit_plus (d : Nat) : ¬ IsDigit radix '+' d := by
  have none : digit? radix '+' = none := by simp [digit?]
  exact (digit?_eq_none_iff few '+').1 none d

/-- Digits have no sign to be dropped. -/
theorem dropPlus_of_digits {run : List Char} {digits : List Nat}
    (are : List.Forall₂ (IsDigit radix) run digits) : dropPlus run = run := by
  cases are with
  | nil => rfl
  | cons is _ =>
      unfold dropPlus
      split
      · next first => exact absurd ((List.cons.inj first).1 ▸ is) (not_isDigit_plus few _)
      · rfl

/-- A numeral is all run, behind the sign. -/
theorem isNumeral_iff (text : List Char) (n : Nat) :
    IsNumeral radix text n ↔ ∃ run digits, Run radix (dropPlus text) run digits [] ∧ run ≠ [] ∧
      n = Nat.ofDigits radix digits.reverse := by
  constructor
  · rintro ⟨run, digits, sign, some_digit, are, value⟩
    have dropped : dropPlus text = run := by
      rcases sign with rfl | rfl
      · exact dropPlus_of_digits few are
      · rfl
    exact ⟨run, digits, ⟨by rw [dropped, List.append_nil], are, by simp⟩, some_digit, value⟩
  · rintro ⟨run, digits, parts, some_digit, value⟩
    have dropped : dropPlus text = run := by rw [parts.split, List.append_nil]
    refine ⟨run, digits, ?_, some_digit, parts.digits, value⟩
    rw [← dropped]
    exact eq_dropPlus_or text

theorem readNumeral_run (positive : 0 < radix) {text run rest : List Char} {digits : List Nat}
    (parts : Run radix (dropPlus text) run digits rest) (some_limit : 0 < limit)
    (something : text ≠ []) :
    readNumeral radix limit text
      = if Nat.ofDigits radix digits.reverse < limit then
          if run ≠ [] ∧ rest = [] then .ok (Nat.ofDigits radix digits.reverse)
          else .error .invalidDigit
        else .error .tooLarge := by
  obtain ⟨c, text, rfl⟩ := List.exists_cons_of_ne_nil something
  have read := readDigits_run few positive parts some_limit
  rw [readNumeral]
  split
  · next nothing =>
      have empty := parts.split.symm.trans nothing
      obtain ⟨rfl, rfl⟩ := List.append_eq_nil_iff.1 empty
      cases parts.digits
      exact (if_pos some_limit).symm
  · next some_digit =>
      rw [read]
      refine if_congr Iff.rfl (if_congr ?_ rfl rfl) rfl
      rw [iff_and_self]
      rintro rfl rfl
      exact some_digit parts.split

theorem readNumeral_eq_ok_iff (positive : 0 < radix) (some_limit : 0 < limit) (text : List Char)
    (n : Nat) : readNumeral radix limit text = .ok n ↔ IsNumeral radix text n ∧ n < limit := by
  rw [isNumeral_iff few]
  constructor
  · intro read
    have something : text ≠ [] := by
      rintro rfl
      cases read
    obtain ⟨run, digits, rest, parts⟩ := exists_run few (dropPlus text)
    rw [readNumeral_run few positive parts some_limit something] at read
    split at read
    · next small =>
        split at read
        · next all =>
            obtain ⟨some_digit, rfl⟩ := all
            cases read
            exact ⟨⟨run, digits, parts, some_digit, rfl⟩, small⟩
        · cases read
    · cases read
  · rintro ⟨⟨run, digits, parts, some_digit, rfl⟩, small⟩
    have something : text ≠ [] := by
      rintro rfl
      exact some_digit (List.append_eq_nil_iff.1 parts.split.symm).1
    rw [readNumeral_run few positive parts some_limit something, if_pos small,
      if_pos ⟨some_digit, rfl⟩]

theorem readNumeral_eq_tooLarge_iff (positive : 0 < radix) (some_limit : 0 < limit)
    (text : List Char) :
    readNumeral radix limit text = .error .tooLarge ↔ IsTooLarge radix limit text := by
  constructor
  · intro read
    have something : text ≠ [] := by
      rintro rfl
      cases read
    obtain ⟨run, digits, rest, parts⟩ := exists_run few (dropPlus text)
    rw [readNumeral_run few positive parts some_limit something] at read
    split at read
    · split at read <;> cases read
    · next large => exact ⟨run, digits, rest, parts, Nat.le_of_not_lt large⟩
  · rintro ⟨run, digits, rest, parts, large⟩
    have something : text ≠ [] := by
      rintro rfl
      obtain ⟨rfl, rfl⟩ := List.append_eq_nil_iff.1 parts.split.symm
      cases parts.digits
      exact absurd some_limit (Nat.not_lt.2 large)
    rw [readNumeral_run few positive parts some_limit something, if_neg (Nat.not_lt.2 large)]

theorem readNumeral_eq_empty_iff (positive : 0 < radix) (some_limit : 0 < limit)
    (text : List Char) : readNumeral radix limit text = .error .empty ↔ text = [] := by
  constructor
  · intro read
    by_contra something
    obtain ⟨run, digits, rest, parts⟩ := exists_run few (dropPlus text)
    rw [readNumeral_run few positive parts some_limit something] at read
    split at read
    · split at read <;> cases read
    · cases read
  · rintro rfl
    rfl

/-- A text that is not read has just one fault. -/
theorem readNumeral_eq_error_iff (positive : 0 < radix) (some_limit : 0 < limit)
    (text : List Char) (fault : NumeralFault) :
    readNumeral radix limit text = .error fault ↔ IsFault radix limit text fault := by
  have ok := readNumeral_eq_ok_iff few positive some_limit text
  have empty := readNumeral_eq_empty_iff few positive some_limit text
  have tooLarge := readNumeral_eq_tooLarge_iff few positive some_limit text
  cases fault with
  | empty => exact empty
  | tooLarge => exact tooLarge
  | invalidDigit =>
      constructor
      · intro read
        refine ⟨?_, ?_, ?_⟩
        · intro nothing
          cases read.symm.trans (empty.2 nothing)
        · intro large
          cases read.symm.trans (tooLarge.2 large)
        · intro n numeral
          by_contra below
          cases read.symm.trans ((ok n).2 ⟨numeral, Nat.lt_of_not_le below⟩)
      · rintro ⟨something, fits, others⟩
        cases read : readNumeral radix limit text with
        | ok n =>
            obtain ⟨numeral, below⟩ := (ok n).1 read
            exact absurd below (Nat.not_lt.2 (others n numeral))
        | error fault =>
            cases fault with
            | empty => exact absurd (empty.1 read) something
            | tooLarge => exact absurd (tooLarge.1 read) fits
            | invalidDigit => rfl

/-! ## Characters of numerals -/

/-- A digit is a decimal digit or a letter up to F, of ASCII. -/
theorem IsDigit.toNat {c : Char} {d : Nat} (is : IsDigit radix c d) :
    48 ≤ c.toNat ∧ c.toNat ≤ 57 ∨ 65 ≤ c.toNat ∧ c.toNat ≤ 70 ∨ 97 ≤ c.toNat ∧ c.toNat ≤ 102 := by
  obtain ⟨below, rfl | rfl⟩ := is
  · have code : d < 16 := by omega
    interval_cases d <;> decide
  · have code : d < 16 := by omega
    interval_cases d <;> decide

omit few in
theorem isDigit_of_mem {run : List Char} {digits : List Nat}
    (are : List.Forall₂ (IsDigit radix) run digits) {c : Char} (member : c ∈ run) :
    ∃ d, IsDigit radix c d := by
  induction are with
  | nil => cases member
  | cons is _ ih =>
      rcases List.mem_cons.1 member with rfl | later
      · exact ⟨_, is⟩
      · exact ih later

/-- Behind the sign of a numeral there are digits only. -/
theorem IsNumeral.isDigit {text : List Char} {n : Nat} (numeral : IsNumeral radix text n) {c : Char}
    (member : c ∈ dropPlus text) : ∃ d, IsDigit radix c d := by
  obtain ⟨run, digits, parts, -, -⟩ := (isNumeral_iff few text n).1 numeral
  have all : c ∈ run := by
    rw [parts.split, List.append_nil] at member
    exact member
  exact isDigit_of_mem parts.digits all

end Numeral

/-- A character that is no digit of any radix up to sixteen: a sign, the letter of a mark, white
space, or one that is not ASCII. -/
def IsForeign (c : Char) : Prop :=
  c = '+' ∨ c = '-' ∨ c = 'x' ∨ c = 'X' ∨ c.toNat ≤ 0x20 ∨ 0x80 ≤ c.toNat

theorem IsForeign.not_isDigit {radix : Nat} (few : radix ≤ 16) {c : Char} (foreign : IsForeign c)
    (d : Nat) : ¬ IsDigit radix c d := by
  intro is
  have range := is.toNat few
  rcases foreign with rfl | rfl | rfl | rfl | low | high
  · simp at range
  · simp at range
  · simp at range
  · simp at range
  · omega
  · omega

/-! ## Marks of the radix -/

/-- A text is the mark of a radix, if it begins with one, and the rest of it. -/
inductive Marked : (text : String) → (radix : Nat) → (rest : String) → Prop where
  | lower (rest : String) : Marked ("0x" ++ rest) 16 rest
  | upper (rest : String) : Marked ("0X" ++ rest) 16 rest
  | plain {text : String} (lower : ∀ rest, text ≠ "0x" ++ rest) (upper : ∀ rest, text ≠ "0X" ++ rest) :
      Marked text 10 text

theorem marked_splitRadix (text : String) :
    Marked text (splitRadix text.toList).1 (String.ofList (splitRadix text.toList).2) := by
  unfold splitRadix
  split
  · next rest chars =>
      have whole : text = "0x" ++ String.ofList rest := by
        apply String.ext
        simpa using chars
      rw [whole]
      exact .lower _
  · next rest chars =>
      have whole : text = "0X" ++ String.ofList rest := by
        apply String.ext
        simpa using chars
      rw [whole]
      exact .upper _
  · next lower upper =>
      rw [String.ofList_toList]
      refine .plain ?_ ?_
      · rintro rest rfl
        exact lower rest.toList (by simp)
      · rintro rest rfl
        exact upper rest.toList (by simp)

theorem Marked.radix_eq {text rest : String} {radix : Nat} (marked : Marked text radix rest) :
    radix = 10 ∨ radix = 16 := by
  cases marked <;> simp

/-- A text is divided in one way only. -/
theorem Marked.unique {text rest rest' : String} {radix radix' : Nat}
    (marked : Marked text radix rest) (marked' : Marked text radix' rest') :
    radix' = radix ∧ rest' = rest := by
  have split {text rest : String} {radix : Nat} (marked : Marked text radix rest) :
      splitRadix text.toList = (radix, rest.toList) := by
    cases marked with
    | lower rest => simp [splitRadix]
    | upper rest => simp [splitRadix]
    | plain lower upper =>
        unfold splitRadix
        split
        · next rest chars =>
            exact absurd (String.toList_inj.1 (by simpa using chars)) (lower (.ofList rest))
        · next rest chars =>
            exact absurd (String.toList_inj.1 (by simpa using chars)) (upper (.ofList rest))
        · rfl
  have same := (split marked').symm.trans (split marked)
  rw [Prod.mk.injEq, String.toList_inj] at same
  exact same

end FlashDump.Text

namespace FlashDump.CommandLine

open FlashDump.Text

theorem readNumber_eq_ok_iff (text : String) (n : Nat) :
    readNumber text = .ok n ↔ readWord text = .ok n := by
  unfold readNumber
  cases readWord text <;> simp

theorem readNumber_eq_error_iff (text : String) (refusal : Refusal) :
    readNumber text = .error refusal ↔
      ∃ fault, readWord text = .error fault ∧ refusal = .badNumber text fault := by
  unfold readNumber
  cases readWord text <;> simp [eq_comm]

/-- A value is refused, and these are the words for what is wrong with it. -/
def Says (text reason : String) : Prop :=
  ∃ refusal, readNumber text = .error refusal ∧
    refusal.message = some ("invalid number '" ++ text ++ "': " ++ reason)

/-- No two faults have the same words. -/
theorem message_injective : Function.Injective NumeralFault.message := by
  intro fault fault' same
  revert same
  cases fault <;> cases fault' <;> decide

/-- A fault is told by its words. -/
theorem says_message_iff {text : String} {is : NumeralFault → Prop}
    (error : ∀ refusal, readNumber text = .error refusal ↔
      ∃ fault, is fault ∧ refusal = .badNumber text fault) (fault : NumeralFault) :
    Says text fault.message ↔ is fault := by
  constructor
  · rintro ⟨refusal, refused, said⟩
    obtain ⟨fault', wrong, rfl⟩ := (error refusal).1 refused
    have words : "invalid number '" ++ text ++ "': " ++ fault'.message
        = "invalid number '" ++ text ++ "': " ++ fault.message := Option.some.inj said
    rw [String.append_right_inj] at words
    exact message_injective words ▸ wrong
  · intro wrong
    exact ⟨.badNumber text fault, (error _).2 ⟨fault, wrong, rfl⟩, rfl⟩

/-- What is read of a value that is a mark and the rest of it. -/
structure ReadExactly (text : String) (radix : Nat) (rest : String) : Prop where
  marked : Marked text radix rest
  only : ∀ radix' rest', Marked text radix' rest' → radix' = radix ∧ rest' = rest
  ok : ∀ n, readNumber text = .ok n ↔ IsNumeral radix rest.toList n ∧ n < 2 ^ 32
  /-- There is a fault otherwise, and only one. -/
  error : ∀ refusal, readNumber text = .error refusal ↔
    ∃ fault, IsFault radix (2 ^ 32) rest.toList fault ∧ refusal = .badNumber text fault
  empty : Says text "cannot parse integer from empty string" ↔ rest = ""
  tooLarge : Says text "number too large to fit in target type" ↔
    IsTooLarge radix (2 ^ 32) rest.toList
  invalidDigit : Says text "invalid digit found in string" ↔
    rest ≠ "" ∧ ¬ IsTooLarge radix (2 ^ 32) rest.toList ∧
      ∀ n, IsNumeral radix rest.toList n → 2 ^ 32 ≤ n
  /-- A sign alone is no number. -/
  digitless : dropPlus rest.toList = [] → ∀ n, readNumber text ≠ .ok n
  foreign : ∀ c ∈ dropPlus rest.toList, IsForeign c → ∀ n, readNumber text ≠ .ok n

theorem readNumber_exact (text : String) : ∃ radix rest, ReadExactly text radix rest := by
  let radix := (splitRadix text.toList).1
  let rest := String.ofList (splitRadix text.toList).2
  have marked : Marked text radix rest := marked_splitRadix text
  have few : radix ≤ 16 := by
    rcases marked.radix_eq with ten | sixteen <;> omega
  have positive : 0 < radix := by
    rcases marked.radix_eq with ten | sixteen <;> omega
  have some_limit : 0 < 2 ^ 32 := by decide
  have word : readWord text = readNumeral radix (2 ^ 32) rest.toList := by
    rw [String.toList_ofList]
    rfl
  have ok (n : Nat) : readNumber text = .ok n ↔ IsNumeral radix rest.toList n ∧ n < 2 ^ 32 := by
    rw [readNumber_eq_ok_iff, word]
    exact readNumeral_eq_ok_iff few positive some_limit rest.toList n
  have error (refusal : Refusal) : readNumber text = .error refusal ↔
      ∃ fault, IsFault radix (2 ^ 32) rest.toList fault ∧ refusal = .badNumber text fault := by
    rw [readNumber_eq_error_iff, word]
    exact exists_congr fun fault => and_congr_left' <|
      readNumeral_eq_error_iff few positive some_limit rest.toList fault
  have nothing : rest.toList = [] ↔ rest = "" := String.toList_eq_nil_iff
  refine ⟨radix, rest, marked, fun _ _ => marked.unique, ok, error, ?_, ?_, ?_, ?_, ?_⟩
  · rw [← nothing]
    exact says_message_iff error .empty
  · exact says_message_iff error .tooLarge
  · rw [ne_eq, ← nothing]
    exact says_message_iff error .invalidDigit
  · intro nothing n read
    obtain ⟨run, digits, parts, some_digit, -⟩ :=
      (isNumeral_iff few rest.toList n).1 ((ok n).1 read).1
    exact some_digit (List.append_eq_nil_iff.1 (parts.split.symm.trans nothing)).1
  · intro c member foreign n read
    obtain ⟨d, is⟩ := ((ok n).1 read).1.isDigit few member
    exact foreign.not_isDigit few d is

/-- One value for each fault.  An overflow is reported before what is no digit comes. -/
theorem readNumber_exact_of_faults :
    (∃ refusal, readNumber "0X" = .error refusal ∧ refusal.message
      = some "invalid number '0X': cannot parse integer from empty string") ∧
    (∃ refusal, readNumber "4294967296x" = .error refusal ∧ refusal.message
      = some "invalid number '4294967296x': number too large to fit in target type") ∧
    ∃ refusal, readNumber "0x+-1" = .error refusal ∧ refusal.message
      = some "invalid number '0x+-1': invalid digit found in string" := by
  refine ⟨?_, ?_, ?_⟩
  · obtain ⟨radix, rest, exactly⟩ := readNumber_exact "0X"
    obtain ⟨-, rfl⟩ := exactly.only 16 "" (.upper "")
    exact exactly.empty.2 rfl
  · obtain ⟨radix, rest, exactly⟩ := readNumber_exact "4294967296x"
    have plain : Marked "4294967296x" 10 "4294967296x" := marked_splitRadix "4294967296x"
    obtain ⟨rfl, rfl⟩ := exactly.only 10 "4294967296x" plain
    refine exactly.tooLarge.2
      ⟨"4294967296".toList, [4, 2, 9, 4, 9, 6, 7, 2, 9, 6], ['x'], ⟨by decide, by decide, ?_⟩,
        by decide⟩
    rintro c ⟨⟩
    exact IsForeign.not_isDigit (by decide) (.inr (.inr (.inl rfl)))
  · obtain ⟨radix, rest, exactly⟩ := readNumber_exact "0x+-1"
    obtain ⟨rfl, rfl⟩ := exactly.only 16 "+-1" (.lower "+-1")
    obtain ⟨fault, wrong, same⟩ := (exactly.error (.badNumber "0x+-1" .invalidDigit)).1 (by decide)
    obtain ⟨-, rfl⟩ := Refusal.badNumber.inj same
    exact exactly.invalidDigit.2 ⟨by decide, wrong.2⟩

/-- An overflow is reported before what is no digit comes, and not before it shows. -/
example : [readNumber "0x+00000000ff", readNumber "4294967296x", readNumber "429496729x"]
    = [.ok 0xff, .error (.badNumber "4294967296x" .tooLarge),
        .error (.badNumber "429496729x" .invalidDigit)] := by decide

end FlashDump.CommandLine
