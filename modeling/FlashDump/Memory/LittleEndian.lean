/-!
# Little endian words

A word of `w` bits is kept in memory as its bytes, the lowest first.
`LittleEndian.bytes` takes a word apart and `LittleEndian.word` puts one
together.  `getLsbD_word` says which bit of which byte is a given bit of the
word.
-/

namespace FlashDump

/-- Eight bits. -/
abbrev Byte := BitVec 8

/-- The byte that is left of a number when all but its low eight bits are dropped. -/
def byteOfNat (n : Nat) : Byte := n.toUInt8.toBitVec

theorem byteOfNat_eq (n : Nat) : byteOfNat n = BitVec.ofNat 8 n := rfl

namespace LittleEndian

/-- The low `count` bytes of a word, the lowest first. -/
def bytes {w : Nat} (count : Nat) (x : BitVec w) : List Byte :=
  (List.range count).map fun i => byteOfNat (x.toNat >>> (8 * i))

/-- The number whose digits in base 256 are the given bytes, the lowest first. -/
def number (data : List Byte) : Nat :=
  data.foldr (fun b high => 256 * high + b.toNat) 0

/-- The word with the given bytes, the lowest first.  Bytes past the end of the
word are dropped and missing ones are zero. -/
def word (w : Nat) (data : List Byte) : BitVec w := BitVec.ofNat w (number data)

theorem getD_bytes {w : Nat} (count : Nat) (x : BitVec w) (i : Nat) :
    (bytes count x).getD i 0 = if i < count then x.extractLsb' (8 * i) 8 else 0 := by
  rw [bytes, List.getD_eq_getElem?_getD, List.getElem?_map]
  by_cases inside : i < count
  · simp [inside, byteOfNat_eq, BitVec.extractLsb']
  · simp [inside]

theorem length_bytes {w : Nat} (count : Nat) (x : BitVec w) : (bytes count x).length = count := by
  simp [bytes]

theorem number_nil : number [] = 0 := rfl

theorem number_cons (b : Byte) (data : List Byte) :
    number (b :: data) = 256 * number data + b.toNat := rfl

theorem testBit_number (data : List Byte) (i : Nat) :
    (number data).testBit i = (data.getD (i / 8) 0).getLsbD (i % 8) := by
  induction data generalizing i with
  | nil => simp [number_nil]
  | cons b data ih =>
    have base : (256 * number data + b.toNat).testBit i = (2 ^ 8 * number data + b.toNat).testBit i :=
      rfl
    rw [number_cons, base, Nat.testBit_two_pow_mul_add _ b.isLt, ih]
    by_cases h8 : i < 8
    · simp [h8, Nat.div_eq_of_lt h8, Nat.mod_eq_of_lt h8, BitVec.testBit_toNat]
    · have hd : i / 8 = (i - 8) / 8 + 1 := by omega
      have hm : i % 8 = (i - 8) % 8 := by omega
      simp [h8, hd, hm]

theorem getLsbD_word (w : Nat) (data : List Byte) (i : Nat) :
    (word w data).getLsbD i = (decide (i < w) && (data.getD (i / 8) 0).getLsbD (i % 8)) := by
  rw [word, BitVec.getLsbD_ofNat, testBit_number]

end LittleEndian

end FlashDump
