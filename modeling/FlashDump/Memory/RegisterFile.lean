import FlashDump.Memory.Mmio

/-!
# The register file

The registers of the root complex take 16 KiB.  `RegisterFile` is that much
plain memory, one byte per offset.  `byteAt` is its view: every operation is
described by the byte it leaves at each offset.

`RegisterFile.load` and `RegisterFile.store` move little endian words of any
width, aligned or not.  Offsets past the end are not memory.  They read as zero
and writes to them are lost.
-/

namespace FlashDump

/-- The size of the root complex register block. -/
def windowSize : Nat := 0x4000

/-- The memory of a root complex register block. -/
structure RegisterFile where
  cells : Vector Byte windowSize

namespace RegisterFile

/-- Memory that is zero everywhere. -/
def zero : RegisterFile := ⟨Vector.replicate windowSize 0⟩

/-- The byte at an offset. -/
def byteAt (m : RegisterFile) (offset : Nat) : Byte :=
  if inside : offset < windowSize then m.cells[offset] else 0

/-- Store one byte. -/
def setByte (m : RegisterFile) (offset : Nat) (b : Byte) : RegisterFile :=
  ⟨m.cells.setIfInBounds offset b⟩

/-- Store bytes at increasing offsets. -/
def storeBytes (m : RegisterFile) (offset : Nat) : List Byte → RegisterFile
  | [] => m
  | b :: data => (m.setByte offset b).storeBytes (offset + 1) data

/-- The bytes at `count` increasing offsets. -/
def loadBytes (m : RegisterFile) (offset count : Nat) : List Byte :=
  (List.range count).map fun i => m.byteAt (offset + i)

/-- The word at an offset. -/
def load (m : RegisterFile) (width : Width) (offset : Nat) : BitVec width.bits :=
  LittleEndian.word width.bits (m.loadBytes offset width.bytes)

/-- Store a word at an offset. -/
def store (m : RegisterFile) (width : Width) (offset : Nat) (value : BitVec width.bits) :
    RegisterFile :=
  m.storeBytes offset (LittleEndian.bytes width.bytes value)

theorem byteAt_setByte (m : RegisterFile) (offset : Nat) (b : Byte) (i : Nat) :
    (m.setByte offset b).byteAt i
      = if i = offset ∧ i < windowSize then b else m.byteAt i := by
  unfold byteAt setByte
  by_cases inside : i < windowSize
  · by_cases same : i = offset
    · subst same
      simp [inside]
    · have other : offset ≠ i := fun h => same h.symm
      simp [inside, same, other]
  · simp [inside]

theorem byteAt_storeBytes (m : RegisterFile) (offset : Nat) (data : List Byte) (i : Nat) :
    (m.storeBytes offset data).byteAt i
      = if offset ≤ i ∧ i < offset + data.length ∧ i < windowSize then data.getD (i - offset) 0
        else m.byteAt i := by
  induction data generalizing m offset with
  | nil =>
    have none : ¬ (offset ≤ i ∧ i < offset + 0 ∧ i < windowSize) := by omega
    simp only [storeBytes, List.length_nil, if_neg none]
  | cons b data ih =>
    rw [storeBytes, ih, byteAt_setByte, List.length_cons]
    by_cases inside : i < windowSize
    · by_cases first : i = offset
      · subst first
        have h1 : ¬ (i + 1 ≤ i) := by omega
        have h2 : i < i + (data.length + 1) := by omega
        simp [inside, h1, h2]
      · by_cases later : offset + 1 ≤ i
        · have h1 : offset ≤ i := by omega
          have h2 : i - offset = (i - (offset + 1)) + 1 := by omega
          have h3 : offset + 1 + data.length = offset + (data.length + 1) := by omega
          simp [inside, first, later, h1, h2, h3]
        · have h1 : ¬ offset ≤ i := by omega
          simp [first, later, h1]
    · simp [inside]

theorem byteAt_store (m : RegisterFile) (width : Width) (offset : Nat) (value : BitVec width.bits)
    (i : Nat) :
    (m.store width offset value).byteAt i
      = if offset ≤ i ∧ i < offset + width.bytes ∧ i < windowSize then
          value.extractLsb' (8 * (i - offset)) 8
        else m.byteAt i := by
  rw [store, byteAt_storeBytes, LittleEndian.length_bytes]
  by_cases covered : offset ≤ i ∧ i < offset + width.bytes ∧ i < windowSize
  · have inside : i - offset < width.bytes := by omega
    rw [if_pos covered, if_pos covered, LittleEndian.getD_bytes, if_pos inside]
  · rw [if_neg covered, if_neg covered]

theorem getLsbD_load (m : RegisterFile) (width : Width) (offset i : Nat) :
    (m.load width offset).getLsbD i
      = (decide (i < width.bits) && (m.byteAt (offset + i / 8)).getLsbD (i % 8)) := by
  rw [load, LittleEndian.getLsbD_word]
  by_cases inside : i < width.bits
  · have h : i / 8 < width.bytes := by
      have := width.bits_eq
      omega
    simp [inside, loadBytes, h]
  · simp [inside]

/-- Plain memory as a device. -/
def mmio : Mmio RegisterFile where
  read width offset m := (m.load width offset, m)
  write width offset value m := m.store width offset value

end RegisterFile

end FlashDump
