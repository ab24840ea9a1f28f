import FlashDump.Register.HardwareCycle
import FlashDump.Register.Offset
import Mathlib.Tactic.IntervalCases

/-!
# Registers that are changed in place

A cycle is started by three registers that are read, changed and written back.
The change is made to a record.  Here it is said what it does to the word.

* HSFS loses its three status bits (`Hsfs.clearStatus`).
* FADDR gets a new address in its low 25 bits (`Faddr.aim`).
* HSFC gets a byte count, the code of a read and the bit that starts the cycle
  (`Hsfc.startRead`).

No other bit of any of them changes, whatever the word was before.  Each equation is
checked bit by bit, on the bits that `getLsbD_place`, `getLsbD_value` and `getLsbD_flag`
give.
-/

namespace FlashDump.Register

open FlashDump.Bits

/-- A number of `k` bits has no bit from `k` on. -/
theorem testBit_of_lt {n k : Nat} (fits : n < 2 ^ k) (j : Nat) (above : k ≤ j) :
    n.testBit j = false :=
  Nat.testBit_lt_two_pow (Nat.lt_of_lt_of_le fits (Nat.pow_le_pow_right (by decide) above))

/-! ## HSFS -/

/-- An HSFS word whose access error, cycle error and done bits are clear. -/
def Hsfs.clearStatus (raw : BitVec 16) : BitVec 16 := raw &&& 0xfff8

theorem Hsfs.getLsbD_clearStatus (raw : BitVec 16) (i : Nat) :
    (clearStatus raw).getLsbD i = (decide (3 ≤ i) && raw.getLsbD i) := by
  rw [clearStatus, BitVec.getLsbD_and]
  by_cases inside : i < 16
  · interval_cases i <;> simp
  · simp [BitVec.getLsbD_of_ge raw i (Nat.not_lt.1 inside)]

@[simp] theorem EraseSize.code_ofCode (code : BitVec 2) : (EraseSize.ofCode code).code = code := by
  revert code
  decide

theorem Hsfs.encode_clearStatus (raw : BitVec 16) :
    Hsfs.encode { Hsfs.decode raw with
      accessErrorLog := false, flashCycleError := false, flashCycleDone := false }
      = Hsfs.clearStatus raw := by
  apply BitVec.eq_of_getLsbD_eq
  intro i inside
  simp only [Hsfs.encode, Hsfs.decode, Hsfs.clearStatus, EraseSize.code_ofCode, field, test,
    BitVec.getLsbD_or, BitVec.getLsbD_and, BitVec.getLsbD_setWidth, getLsbD_flag,
    Field.getLsbD_place, Field.getLsbD_value]
  interval_cases i <;> simp

/-! ## FADDR -/

/-- An FADDR word that names another flash address. -/
def Faddr.aim (address : Nat) (raw : BitVec 32) : BitVec 32 :=
  (raw &&& 0xfe000000) ||| BitVec.ofNat 32 address

theorem Faddr.encode_aim {address : Nat} (fits : address < flashAddressSpace) (raw : BitVec 32) :
    Faddr.encode { Faddr.decode raw with flashLinearAddress := BitVec.ofNat 32 address }
      = Faddr.aim address raw := by
  apply BitVec.eq_of_getLsbD_eq
  intro i inside
  have small : address < 2 ^ 25 := fits
  have high := testBit_of_lt small
  simp only [Faddr.encode, Faddr.decode, Faddr.aim, field, BitVec.getLsbD_or, BitVec.getLsbD_and,
    Field.getLsbD_place, Field.getLsbD_value, BitVec.getLsbD_ofNat]
  interval_cases i <;> simp [high]

/-- The bits above the address are kept. -/
theorem Faddr.getLsbD_aim {address : Nat} (fits : address < flashAddressSpace) (raw : BitVec 32)
    {i : Nat} (above : 25 ≤ i) : (aim address raw).getLsbD i = raw.getLsbD i := by
  have small : address < 2 ^ 25 := fits
  rw [aim, BitVec.getLsbD_or, BitVec.getLsbD_ofNat, testBit_of_lt small i above, Bool.and_false,
    Bool.or_false, BitVec.getLsbD_and]
  by_cases inside : i < 32
  · interval_cases i <;> simp
  · simp [BitVec.getLsbD_of_ge raw i (Nat.not_lt.1 inside)]

/-- The address that an FADDR word names. -/
theorem Faddr.value_aim {address : Nat} (fits : address < flashAddressSpace) (raw : BitVec 32) :
    ((field 24 0).value (Faddr.aim address raw)).toNat = address := by
  have word : (field 24 0).value (Faddr.aim address raw) = BitVec.ofNat 32 address := by
    apply BitVec.eq_of_getLsbD_eq
    intro i inside
    have small : address < 2 ^ 25 := fits
    have high := testBit_of_lt small
    simp only [Field.getLsbD_value, Faddr.aim, field, BitVec.getLsbD_or, BitVec.getLsbD_and,
      BitVec.getLsbD_ofNat]
    interval_cases i <;> simp [high]
  rw [word, BitVec.toNat_ofNat, Nat.mod_eq_of_lt]
  exact Nat.lt_of_lt_of_le fits (by decide)

/-! ## HSFC -/

/-- An HSFC word that starts a read of a number of bytes. -/
def Hsfc.startRead (byteCount : Nat) (raw : BitVec 16) : BitVec 16 :=
  (raw &&& 0xc0f8) ||| (BitVec.ofNat 16 (byteCount - 1) <<< 8) ||| 1

/-- The bits of HSFC that do not describe a cycle. -/
def Hsfc.keptBits : List Nat := [3, 4, 5, 6, 7, 14, 15]

theorem Hsfc.getLsbD_startRead {byteCount : Nat} (fits : byteCount ≤ 64) (raw : BitVec 16) {i : Nat}
    (kept : i ∈ keptBits) : (startRead byteCount raw).getLsbD i = raw.getLsbD i := by
  have count : byteCount - 1 < 2 ^ 6 := by omega
  have high := testBit_of_lt count
  simp only [keptBits, List.mem_cons, List.not_mem_nil, or_false] at kept
  simp only [startRead, BitVec.getLsbD_or, BitVec.getLsbD_and, BitVec.getLsbD_shiftLeft,
    BitVec.getLsbD_ofNat]
  rcases kept with rfl | rfl | rfl | rfl | rfl | rfl | rfl <;> simp [high]

@[simp] theorem FlashCycle.code_ofCode (code : BitVec 2) : (FlashCycle.ofCode code).code = code := by
  revert code
  decide

theorem Hsfc.encode_startRead {byteCount : Nat} (fits : byteCount ≤ 64) (raw : BitVec 16) :
    Hsfc.encode { Hsfc.decode raw with
      flashDataByteCount := BitVec.ofNat 16 (byteCount - 1)
      flashCycle := .read
      flashCycleGo := true }
      = Hsfc.startRead byteCount raw := by
  apply BitVec.eq_of_getLsbD_eq
  intro i inside
  have count : byteCount - 1 < 2 ^ 6 := by omega
  have high := testBit_of_lt count
  simp only [Hsfc.encode, Hsfc.decode, Hsfc.startRead, FlashCycle.code, field, test,
    BitVec.getLsbD_or, BitVec.getLsbD_and, BitVec.getLsbD_shiftLeft, BitVec.getLsbD_setWidth,
    BitVec.getLsbD_ofNat, getLsbD_flag, Field.getLsbD_place, Field.getLsbD_value]
  interval_cases i <;> simp [high]

/-- The byte count that an HSFC word gives, which is kept less one. -/
theorem Hsfc.value_startRead {byteCount : Nat} (positive : 0 < byteCount) (fits : byteCount ≤ 64)
    (raw : BitVec 16) :
    ((field 13 8).value (Hsfc.startRead byteCount raw)).toNat + 1 = byteCount := by
  have word : (field 13 8).value (Hsfc.startRead byteCount raw)
      = BitVec.ofNat 16 (byteCount - 1) := by
    apply BitVec.eq_of_getLsbD_eq
    intro i inside
    have count : byteCount - 1 < 2 ^ 6 := by omega
    have high := testBit_of_lt count
    simp only [Field.getLsbD_value, Hsfc.startRead, field, BitVec.getLsbD_or, BitVec.getLsbD_and,
      BitVec.getLsbD_shiftLeft, BitVec.getLsbD_ofNat]
    interval_cases i <;> simp [high]
  rw [word, BitVec.toNat_ofNat, Nat.mod_eq_of_lt] <;> omega

/-- The code of a read is zero. -/
theorem Hsfc.code_startRead (byteCount : Nat) (raw : BitVec 16) :
    (field 2 1).value (Hsfc.startRead byteCount raw) = 0 := by
  apply BitVec.eq_of_getLsbD_eq
  intro i inside
  simp only [Hsfc.startRead, field, Field.getLsbD_value, BitVec.getLsbD_or, BitVec.getLsbD_and,
    BitVec.getLsbD_shiftLeft, BitVec.getLsbD_ofNat]
  interval_cases i <;> simp

/-- A cycle that is started so is a read, and is started. -/
theorem Hsfc.decode_startRead (byteCount : Nat) (raw : BitVec 16) :
    (Hsfc.decode (Hsfc.startRead byteCount raw)).flashCycle = .read ∧
      (Hsfc.decode (Hsfc.startRead byteCount raw)).flashCycleGo = true := by
  constructor
  · rw [Hsfc.decode, code_startRead]
    rfl
  · simp [Hsfc.decode, Hsfc.startRead, test]

/-! ## The end of a cycle -/

theorem getLsbD_and_not_one (raw : BitVec 16) (i : Nat) :
    (raw &&& ~~~1#16).getLsbD i = (decide (i ≠ 0) && raw.getLsbD i) := by
  rw [BitVec.getLsbD_and]
  by_cases inside : i < 16
  · interval_cases i <;> simp
  · simp [BitVec.getLsbD_of_ge raw i (Nat.not_lt.1 inside)]

/-- A field above bit 0 does not notice that it is cleared. -/
theorem value_and_not_one {f : Field 16} (above : 0 < f.lsb) (raw : BitVec 16) :
    f.value (raw &&& ~~~1#16) = f.value raw := by
  apply BitVec.eq_of_getLsbD_eq
  intro i _
  have other : f.lsb + i ≠ 0 := by omega
  rw [Field.getLsbD_value, Field.getLsbD_value, getLsbD_and_not_one, decide_eq_true other, Bool.true_and]

end FlashDump.Register
