import FlashDump.Memory.RegisterFile

/-!
# Loads and stores of the register file

A word that is stored in the window is what is loaded from there afterwards
(`load_store_same`).  A store leaves alone what is loaded from other offsets
(`load_store_disjoint`).  The bytes of a loaded word are the bytes at its offsets
(`bytes_load`).

All of this is read off the view `byteAt`, bit by bit where words are compared.
-/

namespace FlashDump

/-- What is taken from a range is taken from its two parts. -/
theorem map_range_add {α : Type} (f : Nat → α) (start count more : Nat) :
    (List.range (count + more)).map (fun i => f (start + i))
      = (List.range count).map (fun i => f (start + i))
        ++ (List.range more).map (fun i => f (start + count + i)) := by
  rw [List.range_add, List.map_append, List.map_map]
  refine congrArg (_ ++ ·) (List.map_congr_left ?_)
  intro i _
  rw [Function.comp_apply, Nat.add_assoc]

/-- A byte of a word is the byte it was made of. -/
theorem LittleEndian.extractLsb'_word {w i : Nat} (inside : 8 * i + 8 ≤ w) (data : List Byte) :
    (word w data).extractLsb' (8 * i) 8 = data.getD i 0 := by
  apply BitVec.eq_of_getLsbD_eq
  intro j hj
  have byte : (8 * i + j) / 8 = i := by omega
  have bit : (8 * i + j) % 8 = j := by omega
  have within : 8 * i + j < w := by omega
  rw [BitVec.getLsbD_extractLsb', getLsbD_word, byte, bit]
  simp [hj, within]

/-- The bits of a word that is made of bytes given by their places. -/
theorem LittleEndian.getLsbD_word_range {w count i : Nat} (inside : i < w) (covered : i / 8 < count)
    (byte : Nat → Byte) :
    (word w ((List.range count).map byte)).getLsbD i = (byte (i / 8)).getLsbD (i % 8) := by
  rw [getLsbD_word, decide_eq_true inside, Bool.true_and, List.getD_eq_getElem?_getD,
    List.getElem?_map, List.getElem?_range covered]
  rfl

namespace RegisterFile

theorem load_store_same {m : RegisterFile} {width : Width} {offset : Nat}
    (inside : offset + width.bytes ≤ windowSize) (value : BitVec width.bits) :
    (m.store width offset value).load width offset = value := by
  apply BitVec.eq_of_getLsbD_eq
  intro i hi
  have size := width.bits_eq
  have covered : offset ≤ offset + i / 8 ∧ offset + i / 8 < offset + width.bytes ∧
      offset + i / 8 < windowSize := by omega
  have place : 8 * (offset + i / 8 - offset) + i % 8 = i := by omega
  rw [getLsbD_load, byteAt_store, if_pos covered, BitVec.getLsbD_extractLsb', place]
  simp [hi, Nat.mod_lt]

/-- Only the bytes that are loaded matter. -/
theorem load_congr {m n : RegisterFile} {width : Width} {offset : Nat}
    (same : ∀ i, offset ≤ i → i < offset + width.bytes → m.byteAt i = n.byteAt i) :
    m.load width offset = n.load width offset := by
  apply BitVec.eq_of_getLsbD_eq
  intro i hi
  have size := width.bits_eq
  rw [getLsbD_load, getLsbD_load, same (offset + i / 8) (by omega) (by omega)]

theorem load_store_disjoint {m : RegisterFile} {width width' : Width} {offset offset' : Nat}
    (apart : offset + width.bytes ≤ offset' ∨ offset' + width'.bytes ≤ offset)
    (value : BitVec width.bits) :
    (m.store width offset value).load width' offset' = m.load width' offset' := by
  apply load_congr
  intro i low high
  rw [byteAt_store, if_neg (by omega)]

/-- A byte of a loaded word is the byte that was there. -/
theorem byteAt_eq_load (m : RegisterFile) (width : Width) (offset i : Nat)
    (inside : i < width.bytes) :
    m.byteAt (offset + i) = (m.load width offset).extractLsb' (8 * i) 8 := by
  have bits := width.bits_eq
  rw [load, LittleEndian.extractLsb'_word (by omega), loadBytes, List.getD_eq_getElem?_getD,
    List.getElem?_map, List.getElem?_range inside]
  rfl

theorem bytes_load (m : RegisterFile) (width : Width) (offset : Nat) :
    LittleEndian.bytes width.bytes (m.load width offset) = m.loadBytes offset width.bytes := by
  apply List.map_congr_left
  intro i member
  exact (m.byteAt_eq_load width offset i (List.mem_range.1 member)).symm

theorem load_zero (width : Width) (offset : Nat) : zero.load width offset = 0 := by
  apply BitVec.eq_of_getLsbD_eq
  intro i _
  rw [getLsbD_load]
  simp [byteAt, zero]

theorem loadBytes_add (m : RegisterFile) (offset count more : Nat) :
    m.loadBytes offset (count + more)
      = m.loadBytes offset count ++ m.loadBytes (offset + count) more :=
  map_range_add m.byteAt offset count more

end RegisterFile

end FlashDump
