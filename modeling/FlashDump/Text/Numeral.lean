/-!
# Numerals

A number is written in a radix, most significant digit first, with an optional plus
sign in front and any number of leading zeros.  There is no minus sign, and only
ASCII digits count.  Letters stand for the digits above nine, in either case.

Numbers have a limit.  One that is not below it is too large, and that is reported
as soon as the digits read so far show it, whatever comes after them.

Addresses and register values are printed in base 16 with a least number of digits.
`hexLower` and `hexUpper` differ in the case of the digits above nine and in nothing
else.
-/

namespace FlashDump.Text

inductive NumeralFault where
  | empty
  /-- There is a character that is no digit, or no digit at all. -/
  | invalidDigit
  | tooLarge
deriving DecidableEq, Repr

def NumeralFault.message : NumeralFault → String
  | empty => "cannot parse integer from empty string"
  | invalidDigit => "invalid digit found in string"
  | tooLarge => "number too large to fit in target type"

/-- The digit that a character stands for. -/
def digit? (radix : Nat) (c : Char) : Option Nat :=
  let n := c.toNat
  let digit :=
    if '0'.toNat ≤ n ∧ n ≤ '9'.toNat then some (n - '0'.toNat)
    else if 'a'.toNat ≤ n ∧ n ≤ 'z'.toNat then some (n - 'a'.toNat + 10)
    else if 'A'.toNat ≤ n ∧ n ≤ 'Z'.toNat then some (n - 'A'.toNat + 10)
    else none
  digit.filter (· < radix)

/-- Read on from a number below the limit. -/
def readDigits (radix limit : Nat) (value : Nat) : List Char → Except NumeralFault Nat
  | [] => .ok value
  | c :: rest =>
      match digit? radix c with
      | none => .error .invalidDigit
      | some d =>
          let value := value * radix + d
          if value < limit then readDigits radix limit value rest else .error .tooLarge

/-- The digits of a numeral, without the sign. -/
def dropPlus : List Char → List Char
  | '+' :: rest => rest
  | cs => cs

def readNumeral (radix limit : Nat) (cs : List Char) : Except NumeralFault Nat :=
  match cs with
  | [] => .error .empty
  | c :: rest =>
      match dropPlus (c :: rest) with
      | [] => .error .invalidDigit
      | digits => readDigits radix limit 0 digits

/-- The radix of a number and its digits.  The number is hexadecimal after `0x`, and
else decimal. -/
def splitRadix : List Char → Nat × List Char
  | '0' :: 'x' :: rest => (16, rest)
  | '0' :: 'X' :: rest => (16, rest)
  | cs => (10, cs)

def readWord (s : String) : Except NumeralFault Nat :=
  let (radix, digits) := splitRadix s.toList
  readNumeral radix 0x100000000 digits

def readCount (s : String) : Except NumeralFault Nat := readNumeral 10 0x10000000000000000 s.toList

/-! ## Hexadecimal text -/

/-- A text with zeros put in front until it has `width` characters. -/
def padZeros (width : Nat) (digits : List Char) : String :=
  String.ofList (List.replicate (width - digits.length) '0' ++ digits)

/-- A number in base 16 with lower case digits, at least `width` of them. -/
def hexLower (width n : Nat) : String :=
  padZeros width (Nat.toDigits 16 n)

/-- A number in base 16 with upper case digits, at least `width` of them. -/
def hexUpper (width n : Nat) : String :=
  padZeros width ((Nat.toDigits 16 n).map Char.toUpper)

example : hexLower 6 0x40 = "000040" := by decide
example : hexUpper 8 0xfed1c000 = "FED1C000" := by decide
example : hexLower 6 0x1000000 = "1000000" := by decide

/-- The bit of a flag, as a digit. -/
def bitDigit (b : Bool) : Nat := if b then 1 else 0

end FlashDump.Text
