import FlashDump.Memory.Physical
import FlashDump.Proofs.Machine.Stores

/-!
# Memory by the last write

Plain memory is what was written to it: each byte is that of the last write that covers its
address, or zero if there is none (`LastWrite.byte`).  A word is read off these bytes, whatever
the widths of the writes were.

`Mmio.Plain` says of a device that it is plain memory for some of the accesses.  One access of
each kind is all there is to show.  It follows that the device answers a whole run as plain memory
does, and that the writes of the run are what its state comes to (`Plain.performAll`).

The register file is plain memory as far as the window goes, and so is the range of a mapping of
physical memory.
-/

namespace FlashDump

namespace AccessRequest

/-- The write that a request asks for, if it is for one. -/
def write? : AccessRequest → Option Write
  | .read _ _ => none
  | .write width offset value => some ⟨width, offset, value⟩

/-- The bytes of the access all lie in the window. -/
def Inside : AccessRequest → Prop
  | .read width offset | .write width offset _ => offset + width.bytes ≤ windowSize

instance : DecidablePred Inside
  | .read _ _ | .write _ _ _ => inferInstanceAs (Decidable (_ ≤ _))

end AccessRequest

/-! ## The last write -/

namespace LastWrite

/-- The byte at an address once writes were made, the latest first. -/
def byte : List Write → Nat → Byte
  | [], _ => 0
  | w :: earlier, address =>
      if w.Covers address then w.value.extractLsb' (8 * (address - w.offset)) 8
      else byte earlier address

/-- The word at an offset, the lowest byte first. -/
def word (latest : List Write) (width : Width) (offset : Nat) : BitVec width.bits :=
  LittleEndian.word width.bits ((List.range width.bytes).map fun i => byte latest (offset + i))

/-- The replies to requests, one after the other. -/
def replies (latest : List Write) : List AccessRequest → List AccessReply
  | [] => []
  | .read width offset :: rest => .value width (word latest width offset) :: replies latest rest
  | .write width offset value :: rest => .done :: replies (⟨width, offset, value⟩ :: latest) rest

/-- The writes that were made once the requests were met, the latest first. -/
def after (latest : List Write) (requests : List AccessRequest) : List Write :=
  (requests.filterMap AccessRequest.write?).reverse ++ latest

theorem after_write (latest : List Write) (width : Width) (offset : Nat)
    (value : BitVec width.bits) (rest : List AccessRequest) :
    after latest (.write width offset value :: rest)
      = after (⟨width, offset, value⟩ :: latest) rest := by
  have first : AccessRequest.write? (.write width offset value) = some ⟨width, offset, value⟩ := rfl
  rw [after, List.filterMap_cons_some first, List.reverse_cons, List.append_assoc]
  rfl

theorem reverse_after_nil (requests : List AccessRequest) :
    (after [] requests).reverse = requests.filterMap AccessRequest.write? := by
  rw [after, List.append_nil, List.reverse_reverse]

/-- Bytes that are those of the last write make a word that is. -/
theorem word_eq {latest : List Write} {width : Width} {offset : Nat} {bytes : Nat → Byte}
    (same : ∀ i, i < width.bytes → bytes i = byte latest (offset + i)) :
    LittleEndian.word width.bits ((List.range width.bytes).map bytes)
      = word latest width offset := by
  rw [word]
  congr 1
  apply List.map_congr_left
  intro i member
  exact same i (List.mem_range.1 member)

end LastWrite

/-! ## Plain memory -/

/-- A device is plain memory for the accesses that are allowed.  Its states hold what was written
to them, the latest first. -/
structure Mmio.Plain {σ : Type} (m : Mmio σ) (Holds : List Write → σ → Prop)
    (Allowed : AccessRequest → Prop) : Prop where
  read : ∀ {width offset latest s}, Allowed (.read width offset) → Holds latest s →
    (m.read width offset s).1 = LastWrite.word latest width offset ∧
      Holds latest (m.read width offset s).2
  write : ∀ {width offset value latest s}, Allowed (.write width offset value) → Holds latest s →
    Holds (⟨width, offset, value⟩ :: latest) (m.write width offset value s)

theorem Mmio.Plain.performAll {σ : Type} {m : Mmio σ} {Holds : List Write → σ → Prop}
    {Allowed : AccessRequest → Prop} (plain : m.Plain Holds Allowed)
    {requests : List AccessRequest} (allowed : ∀ request ∈ requests, Allowed request)
    {latest : List Write} {s : σ} (start : Holds latest s) :
    (m.performAll requests s).1 = LastWrite.replies latest requests ∧
      Holds (LastWrite.after latest requests) (m.performAll requests s).2 := by
  induction requests generalizing latest s with
  | nil => exact ⟨rfl, start⟩
  | cons request rest ih =>
      have first : Allowed request := allowed request List.mem_cons_self
      have later : ∀ request ∈ rest, Allowed request :=
        fun request member => allowed request (List.mem_cons_of_mem _ member)
      cases request with
      | read width offset =>
          obtain ⟨value, held⟩ := plain.read first start
          obtain ⟨values, held⟩ := ih later held
          refine ⟨?_, held⟩
          rw [LastWrite.replies, ← value, ← values]
          rfl
      | write width offset value =>
          obtain ⟨values, held⟩ := ih later (plain.write first start)
          refine ⟨?_, ?_⟩
          · rw [LastWrite.replies, ← values]
            rfl
          · rw [LastWrite.after_write]
            exact held

/-! ## The register file -/

namespace RegisterFile

/-- The register file after writes to zeroed memory, the latest first. -/
def written (latest : List Write) : RegisterFile := zero.storeAll latest.reverse

theorem written_cons (w : Write) (latest : List Write) :
    written (w :: latest) = (written latest).store w.width w.offset w.value := by
  rw [written, written, storeAll, List.reverse_cons, List.foldl_append]
  rfl

theorem byteAt_written (latest : List Write) {address : Nat} (inside : address < windowSize) :
    (written latest).byteAt address = LastWrite.byte latest address := by
  induction latest with
  | nil =>
      change zero.byteAt address = 0
      rw [byteAt, dif_pos inside]
      exact Vector.getElem_replicate _
  | cons w earlier ih =>
      rw [written_cons, byteAt_store, LastWrite.byte, ih]
      exact if_congr (by rw [Write.Covers, and_iff_left inside]) rfl rfl

theorem load_written (latest : List Write) {width : Width} {offset : Nat}
    (inside : offset + width.bytes ≤ windowSize) :
    (written latest).load width offset = LastWrite.word latest width offset := by
  apply LastWrite.word_eq
  intro i within
  exact byteAt_written latest (by omega)

theorem plain_mmio :
    mmio.Plain (fun latest m => m = written latest) AccessRequest.Inside where
  read inside held := by
    subst held
    exact ⟨load_written _ inside, rfl⟩
  write {width offset value latest m} _ held := by
    subst held
    exact (written_cons ⟨width, offset, value⟩ latest).symm

end RegisterFile

/-! ## Mappings of physical memory -/

namespace PhysicalMemory

theorem pageSize_storeBytes (m : PhysicalMemory) (cell : Nat → Cell) (address : Nat)
    (data : List Byte) : (m.storeBytes cell address data).pageSize = m.pageSize := by
  induction data generalizing m address with
  | nil => rfl
  | cons b data ih => exact ih _ _

/-- Bytes that are all stored at their addresses. -/
theorem byteAt_storeBytes (m : PhysicalMemory) {cell : Nat → Cell} {address : Nat}
    {data : List Byte}
    (places : ∀ i, i < data.length → cell (address + i) = .physical (address + i)) (a : Nat) :
    (m.storeBytes cell address data).byteAt (.physical a)
      = if address ≤ a ∧ a < address + data.length then data.getD (a - address) 0
        else m.byteAt (.physical a) := by
  induction data generalizing m address with
  | nil =>
      have none : ¬ (address ≤ a ∧ a < address + 0) := by omega
      exact (if_neg none).symm
  | cons b data ih =>
      have here : cell address = .physical address := places 0 (Nat.zero_lt_succ _)
      have rest (i : Nat) (below : i < data.length) :
          cell (address + 1 + i) = .physical (address + 1 + i) := by
        have place := places (i + 1) (Nat.succ_lt_succ below)
        rw [Nat.add_assoc, Nat.add_comm 1 i]
        exact place
      have first : (m.setByte (cell address) b).byteAt (.physical a)
          = if a = address then b else m.byteAt (.physical a) := by
        rw [here]
        exact if_congr (by rw [Cell.physical.injEq]) rfl rfl
      rw [storeBytes, ih _ rest, first, List.length_cons]
      by_cases same : a = address
      · subst same
        have before : ¬ (a + 1 ≤ a ∧ a < a + 1 + data.length) := by omega
        have covered : a ≤ a ∧ a < a + (data.length + 1) := by omega
        rw [if_neg before, if_pos rfl, if_pos covered, Nat.sub_self]
        rfl
      · by_cases covered : address ≤ a ∧ a < address + (data.length + 1)
        · have later : address + 1 ≤ a ∧ a < address + 1 + data.length := by omega
          have place : a - address = a - (address + 1) + 1 := by omega
          rw [if_pos later, if_pos covered, place]
          rfl
        · have outside : ¬ (address + 1 ≤ a ∧ a < address + 1 + data.length) := by omega
          rw [if_neg outside, if_neg same, if_neg covered]

end PhysicalMemory

namespace Mapping

/-- What physical memory holds of the window. -/
def HoldsWindow (pageSize address : Nat) (latest : List Write) (m : PhysicalMemory) : Prop :=
  m.pageSize = pageSize ∧
    ∀ i, i < windowSize → m.byteAt (.physical (address + i)) = LastWrite.byte latest i

section Window

variable {pageSize address : Nat} {width : Width} {offset : Nat}
  (inside : offset + width.bytes ≤ windowSize)

include inside

theorem address_window (room : address % pageSize + windowSize ≤ wordCount) :
    (ofRange pageSize address windowSize).address offset = address + offset := by
  have below : offset < windowSize := by
    cases width <;> simp only [Width.bytes] at inside <;> omega
  exact address_ofRange (by omega) windowSize

/-- The bytes of an access have their places in the mapping. -/
theorem cell_window (positive : 0 < pageSize) (address : Nat) {i : Nat} (within : i < width.bytes) :
    (ofRange pageSize address windowSize).cell pageSize (address + offset + i)
      = .physical (address + (offset + i)) := by
  have skip := Nat.mod_le address pageSize
  rw [Nat.add_assoc]
  apply cell_of_lt positive
  · simp only [ofRange]
    omega
  · simp only [ofRange]
    omega

theorem byteAt_write {m : PhysicalMemory} (positive : 0 < m.pageSize)
    (room : address % m.pageSize + windowSize ≤ wordCount) (value : BitVec width.bits) (i : Nat) :
    ((ofRange m.pageSize address windowSize).mmio.write width offset value m).byteAt
        (.physical (address + i))
      = if Write.Covers ⟨width, offset, value⟩ i then value.extractLsb' (8 * (i - offset)) 8
        else m.byteAt (.physical (address + i)) := by
  have places (j : Nat) (within : j < (LittleEndian.bytes width.bytes value).length) :
      (ofRange m.pageSize address windowSize).cell m.pageSize (address + offset + j)
        = .physical (address + offset + j) := by
    rw [LittleEndian.length_bytes] at within
    rw [cell_window inside positive address within, Nat.add_assoc]
  have stored := m.byteAt_storeBytes places (address + i)
  rw [← address_window inside room] at stored
  refine stored.trans ?_
  rw [address_window inside room, LittleEndian.length_bytes, LittleEndian.getD_bytes]
  by_cases covered : Write.Covers ⟨width, offset, value⟩ i
  · have covered' := covered
    obtain ⟨low, high⟩ := covered'
    dsimp only at low high
    have shifted : address + i - (address + offset) = i - offset := Nat.add_sub_add_left ..
    rw [if_pos (by omega), shifted, if_pos (by omega), if_pos covered]
  · have outside : ¬ (offset ≤ i ∧ i < offset + width.bytes) := covered
    rw [if_neg (by omega), if_neg covered]

end Window

theorem plain_mmio {pageSize address : Nat} (positive : 0 < pageSize)
    (room : address % pageSize + windowSize ≤ wordCount) :
    (ofRange pageSize address windowSize).mmio.Plain (HoldsWindow pageSize address)
      AccessRequest.Inside := by
  refine ⟨?_, ?_⟩
  · rintro width offset latest m inside ⟨rfl, held⟩
    refine ⟨?_, rfl, held⟩
    apply LastWrite.word_eq
    intro i within
    rw [address_window inside room, cell_window inside positive address within]
    exact held _ (Nat.lt_of_lt_of_le (Nat.add_lt_add_left within _) inside)
  · rintro width offset value latest m inside ⟨rfl, held⟩
    refine ⟨PhysicalMemory.pageSize_storeBytes .., ?_⟩
    intro i below
    rw [byteAt_write inside positive room, held i below]
    rfl

end Mapping

end FlashDump
