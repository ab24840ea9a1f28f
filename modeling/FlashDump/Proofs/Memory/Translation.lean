import FlashDump.Memory.Physical
import FlashDump.Proofs.Memory.LastWrite
import Mathlib.Data.List.GetD

/-!
# Addresses of physical memory

A range of physical memory that begins anywhere is reached through a mapping that begins at a page
boundary, at some place of the process.  The way back from an offset into the range to a byte of the
file goes through four numbers: the place, the bytes that are skipped, the start of the mapping
and the wrapping of addresses.  They cancel (`Region.cell_address`).

So a device that reaches the range is as good as one that reads and writes a list, the bytes of the
file (`Mmio.ShowsFile`).  That is shown of one access, and holds of a run by induction
(`Mmio.ShowsFile.performAll`).  `Process.acquire_translates` is about all that mapping a range
does.
-/

namespace FlashDump

/-- The bytes of an access all lie in a range. -/
def AccessRequest.Within (length : Nat) : AccessRequest → Prop
  | .read width offset | .write width offset _ => offset + width.bytes ≤ length

instance (length : Nat) : DecidablePred (AccessRequest.Within length)
  | .read _ _ | .write _ _ _ => inferInstanceAs (Decidable (_ ≤ _))

/-! ## The file -/

namespace PhysicalMemory

/-- The bytes of the file. -/
def file (m : PhysicalMemory) : List Byte := m.look 0 m.size

/-- The memory with other bytes in the file. -/
def withFile (m : PhysicalMemory) (file : List Byte) : PhysicalMemory :=
  { m with byteAt := fun cell =>
      match cell with
      | .physical address => file.getD address (m.byteAt cell)
      | .process _ => m.byteAt cell }

variable (m : PhysicalMemory) {cell cell' : Nat → Cell} {address address' : Nat}

theorem length_file : m.file.length = m.size := by
  rw [file, look, loadBytes, List.length_map, List.length_range, Nat.sub_zero, Nat.min_self]

theorem getD_file (address : Nat) (b : Byte) :
    m.file.getD address b = if address < m.size then m.byteAt (.physical address) else b := by
  rw [file, look, loadBytes, Nat.sub_zero, Nat.min_self, List.getD_eq_getElem?_getD,
    List.getElem?_map]
  by_cases inside : address < m.size
  · simp [inside]
  · simp [inside]

/-- Memories that differ in no byte. -/
theorem eq_of_byteAt {byteAt : Cell → Byte}
    (physical : ∀ address, byteAt (.physical address) = m.byteAt (.physical address))
    (process : ∀ address, byteAt (.process address) = m.byteAt (.process address)) :
    { m with byteAt } = m := by
  have same : byteAt = m.byteAt := by
    funext cell
    cases cell with
    | physical address => exact physical address
    | process address => exact process address
  rw [same]

theorem withFile_file : m.withFile m.file = m := by
  refine m.eq_of_byteAt (fun address => ?_) fun _ => rfl
  dsimp only
  rw [getD_file, ite_self]

theorem withFile_withFile {file file' : List Byte} (longer : file.length ≤ file'.length) :
    (m.withFile file).withFile file' = m.withFile file' := by
  refine (m.withFile file').eq_of_byteAt (fun address => ?_) fun _ => rfl
  rcases Nat.lt_or_ge address file'.length with inside | outside
  · exact (List.getD_eq_getElem _ _ inside).trans (List.getD_eq_getElem _ _ inside).symm
  · have past : file.getD address (m.byteAt (.physical address)) = m.byteAt (.physical address) :=
      List.getD_eq_default _ _ (longer.trans outside)
    exact congrArg (file'.getD address) past

theorem file_withFile {file : List Byte} (whole : file.length = m.size) :
    (m.withFile file).file = file := by
  refine List.ext_getElem ((m.withFile file).length_file.trans whole.symm) ?_
  intro i here there
  have inside : i < (m.withFile file).size := whole ▸ there
  have byte := (m.withFile file).getD_file i 0
  rw [if_pos inside, List.getD_eq_getElem _ _ here] at byte
  exact byte.trans (List.getD_eq_getElem _ _ there)

theorem setByte_physical (inside : address < m.size) (b : Byte) :
    m.setByte (.physical address) b = m.withFile (m.file.set address b) := by
  refine (m.withFile (m.file.set address b)).eq_of_byteAt (fun other => ?_) fun _ => rfl
  have place : address < m.file.length := m.length_file.symm ▸ inside
  rcases eq_or_ne other address with rfl | apart
  · have set : (m.file.set other b).getD other (m.byteAt (.physical other)) = b := by
      rw [List.getD_eq_getElem?_getD, List.getElem?_set_self place, Option.getD_some]
    exact (if_pos rfl).trans set.symm
  · have kept : (m.file.set address b).getD other (m.byteAt (.physical other))
        = m.byteAt (.physical other) := by
      rw [List.getD_eq_getElem?_getD, List.getElem?_set_ne apart.symm, ← List.getD_eq_getElem?_getD,
        getD_file, ite_self]
    exact (if_neg (by simpa using apart)).trans kept.symm

theorem loadBytes_congr {count : Nat} (same : ∀ i < count, cell (address + i) = cell' (address' + i)) :
    m.loadBytes cell address count = m.loadBytes cell' address' count := by
  apply List.map_congr_left
  intro i member
  rw [same i (List.mem_range.1 member)]

theorem storeBytes_congr {data : List Byte}
    (same : ∀ i < data.length, cell (address + i) = cell' (address' + i)) :
    m.storeBytes cell address data = m.storeBytes cell' address' data := by
  induction data generalizing m address address' with
  | nil => rfl
  | cons b data ih =>
      have first : cell address = cell' address' := same 0 (Nat.zero_lt_succ _)
      rw [storeBytes, storeBytes, first]
      refine ih _ fun i below => ?_
      have next := same (i + 1) (Nat.succ_lt_succ below)
      rw [Nat.add_assoc, Nat.add_assoc, Nat.add_comm 1 i]
      exact next

theorem loadBytes_physical {count : Nat} (inside : address + count ≤ m.size) :
    m.loadBytes .physical address count = (m.file.drop address).take count := by
  have whole := m.length_file
  refine List.ext_getElem ?_ ?_
  · simp only [loadBytes, List.length_map, List.length_range, List.length_take, List.length_drop]
    omega
  · intro i here _
    have few : i < count := by simpa [loadBytes] using here
    have place : address + i < m.file.length := by omega
    have byte := m.getD_file (address + i) 0
    rw [if_pos (by omega), List.getD_eq_getElem _ _ place] at byte
    simp only [loadBytes, List.getElem_map, List.getElem_range, List.getElem_take, List.getElem_drop]
    exact byte.symm

/-- One byte more is written over. -/
theorem splice_cons {file data : List Byte} {b : Byte} (inside : address < file.length) :
    (file.set address b).take (address + 1) ++ data
        ++ (file.set address b).drop (address + 1 + data.length)
      = file.take address ++ b :: data ++ file.drop (address + (data.length + 1)) := by
  have place : address < (file.set address b).length := by rwa [List.length_set]
  have before : (file.set address b).take (address + 1) = file.take address ++ [b] := by
    rw [List.take_succ_eq_append_getElem place, List.getElem_set_self, List.take_set,
      List.set_eq_of_length_le (List.length_take_le _ _)]
  have after : (file.set address b).drop (address + 1 + data.length)
      = file.drop (address + (data.length + 1)) := by
    rw [List.drop_set, if_pos (by omega), Nat.add_assoc, Nat.add_comm 1]
  rw [before, after, List.append_assoc (file.take address), List.singleton_append]

theorem storeBytes_physical {data : List Byte} (inside : address + data.length ≤ m.size) :
    m.storeBytes .physical address data
      = m.withFile (m.file.take address ++ data ++ m.file.drop (address + data.length)) := by
  induction data generalizing m address with
  | nil =>
      rw [List.append_nil, List.length_nil, Nat.add_zero, List.take_append_drop, withFile_file]
      rfl
  | cons b data ih =>
      rw [List.length_cons] at inside
      have whole := m.length_file
      have here : address < m.file.length := by omega
      have changed : (m.file.set address b).length = m.size := by rw [List.length_set, whole]
      have rest : address + 1 + data.length ≤ m.size := by omega
      have later := ih (m.withFile (m.file.set address b)) rest
      rw [storeBytes, setByte_physical m (by omega), later, file_withFile m changed,
        withFile_withFile, splice_cons here, List.length_cons]
      simp only [List.length_append, List.length_take, List.length_drop, changed]
      omega

end PhysicalMemory

/-! ## Devices that show a range of the file -/

/-- The bytes of a file from an address on, as a device. -/
def fileMmio (origin : Nat) : Mmio (List Byte) where
  read width offset file :=
    (LittleEndian.word width.bits ((file.drop (origin + offset)).take width.bytes), file)
  write width offset value file :=
    file.take (origin + offset) ++ LittleEndian.bytes width.bytes value
      ++ file.drop (origin + offset + width.bytes)

theorem length_fileMmio_write {origin length offset : Nat} {width : Width} {file : List Byte}
    (inside : origin + length ≤ file.length) (within : offset + width.bytes ≤ length)
    (value : BitVec width.bits) :
    ((fileMmio origin).write width offset value file).length = file.length := by
  simp only [fileMmio, List.length_append, List.length_take, List.length_drop,
    LittleEndian.length_bytes]
  omega

/-- Accesses within a range are accesses to the bytes of a file, which are put in a state. -/
structure Mmio.ShowsFile {σ : Type} (m : Mmio σ) (put : List Byte → σ)
    (size origin length : Nat) : Prop where
  read : ∀ {width : Width} {offset : Nat} {file : List Byte}, file.length = size →
    offset + width.bytes ≤ length →
    m.read width offset (put file) = (((fileMmio origin).read width offset file).1, put file)
  write : ∀ {width : Width} {offset : Nat} {file : List Byte} (value : BitVec width.bits),
    file.length = size → offset + width.bytes ≤ length →
    m.write width offset value (put file) = put ((fileMmio origin).write width offset value file)

theorem Mmio.ShowsFile.performAll {σ : Type} {m : Mmio σ} {put : List Byte → σ}
    {size origin length : Nat} (shows : m.ShowsFile put size origin length)
    (inside : origin + length ≤ size) {requests : List AccessRequest}
    (within : ∀ request ∈ requests, request.Within length) {file : List Byte}
    (whole : file.length = size) :
    m.performAll requests (put file)
        = (((fileMmio origin).performAll requests file).1,
            put ((fileMmio origin).performAll requests file).2) ∧
      ((fileMmio origin).performAll requests file).2.length = size := by
  induction requests generalizing file with
  | nil => exact ⟨rfl, whole⟩
  | cons request rest ih =>
      have first : request.Within length := within request List.mem_cons_self
      have later : ∀ request ∈ rest, request.Within length :=
        fun request member => within request (List.mem_cons_of_mem _ member)
      cases request with
      | read width offset =>
          obtain ⟨replies, kept⟩ := ih later whole
          have value := shows.read whole first
          refine ⟨?_, kept⟩
          rw [Mmio.performAll, Mmio.perform, value]
          dsimp only
          rw [replies]
          rfl
      | write width offset value =>
          have kept : ((fileMmio origin).write width offset value file).length = size := by
            rw [length_fileMmio_write (whole ▸ inside) first, whole]
          obtain ⟨replies, kept⟩ := ih later kept
          have stored := shows.write value whole first
          refine ⟨?_, kept⟩
          rw [Mmio.performAll, Mmio.perform]
          dsimp only
          rw [stored, replies]
          rfl

namespace PhysicalMemory

section Cells

variable (m : PhysicalMemory) {cell : Nat → Cell} {place address : Nat} {file : List Byte}
  (whole : file.length = m.size)

include whole

theorem loadBytes_withFile {count : Nat} (inside : address + count ≤ m.size)
    (cells : ∀ i < count, cell (place + i) = .physical (address + i)) :
    (m.withFile file).loadBytes cell place count = (file.drop address).take count := by
  rw [(m.withFile file).loadBytes_congr cells,
    (m.withFile file).loadBytes_physical inside, m.file_withFile whole]

theorem storeBytes_withFile {data : List Byte} (inside : address + data.length ≤ m.size)
    (cells : ∀ i < data.length, cell (place + i) = .physical (address + i)) :
    (m.withFile file).storeBytes cell place data
      = m.withFile (file.take address ++ data ++ file.drop (address + data.length)) := by
  rw [(m.withFile file).storeBytes_congr cells,
    (m.withFile file).storeBytes_physical inside, m.file_withFile whole, withFile_withFile]
  simp only [List.length_append, List.length_take, List.length_drop]
  omega

end Cells

/-- A device that loads and stores bytes of the memory shows the range whose cells it reaches. -/
theorem showsFile {σ : Type} (m : PhysicalMemory) (device : Mmio σ) (wrap : PhysicalMemory → σ)
    (cell : Nat → Cell) (place : Nat → Nat) {origin length : Nat}
    (read : ∀ width offset file, device.read width offset (wrap (m.withFile file))
      = (LittleEndian.word width.bits ((m.withFile file).loadBytes cell (place offset) width.bytes),
          wrap (m.withFile file)))
    (write : ∀ (width : Width) offset (value : BitVec width.bits) file,
      device.write width offset value (wrap (m.withFile file))
        = wrap ((m.withFile file).storeBytes cell (place offset)
            (LittleEndian.bytes width.bytes value)))
    (cells : ∀ offset i, offset + i < length →
      cell (place offset + i) = .physical (origin + offset + i))
    (covered : origin + length ≤ m.size) :
    device.ShowsFile (fun file => wrap (m.withFile file)) m.size origin length where
  read := by
    intro width offset file whole within
    rw [read, m.loadBytes_withFile whole (by omega) fun i below => cells offset i (by omega)]
    rfl
  write := by
    intro width offset file value whole within
    have size : (LittleEndian.bytes width.bytes value).length = width.bytes :=
      LittleEndian.length_bytes _ _
    rw [write, m.storeBytes_withFile whole (by omega) fun i below => cells offset i (by omega), size]
    rfl

end PhysicalMemory

/-! ## Mappings -/

namespace Mapping

/-- A mapping begins at a page boundary. -/
theorem dvd_start (pageSize address length : Nat) :
    pageSize ∣ (ofRange pageSize address length).start :=
  Nat.dvd_sub_mod address

theorem start_le (pageSize address length : Nat) :
    (ofRange pageSize address length).start ≤ address :=
  Nat.sub_le _ _

theorem start_add_skip (pageSize address length : Nat) :
    (ofRange pageSize address length).start + (ofRange pageSize address length).skip = address :=
  Nat.sub_add_cancel (Nat.mod_le _ _)

/-- A mapping ends where the range ends. -/
theorem start_add_length (pageSize address length : Nat) :
    (ofRange pageSize address length).start + (ofRange pageSize address length).length
      = address + length := by
  have skipped := start_add_skip pageSize address length
  simp only [ofRange] at skipped ⊢
  omega

/-- The range of a mapping as a part of physical memory. -/
theorem mmio_showsFile (m : PhysicalMemory) {address length : Nat} (positive : 0 < m.pageSize)
    (room : length + address % m.pageSize < wordCount) (covered : address + length ≤ m.size) :
    (ofRange m.pageSize address length).mmio.ShowsFile m.withFile m.size address length := by
  have low := start_le m.pageSize address length
  have high := start_add_length m.pageSize address length
  refine m.showsFile _ id ((ofRange m.pageSize address length).cell m.pageSize)
    (ofRange m.pageSize address length).address (fun _ _ _ => rfl) (fun _ _ _ _ => rfl) ?_ covered
  intro offset i below
  rw [address_ofRange (by omega)]
  exact cell_of_lt positive (by omega) (by omega)

end Mapping

/-! ## Regions -/

namespace Process

/-- The mapping for a range, at a place of the process. -/
@[reducible] def regionAt (p : Process) (place address length : Nat) : Region :=
  ⟨place, .ofRange p.memory.pageSize address length⟩

/-- The process with other bytes in the file. -/
def withFile (p : Process) (file : List Byte) : Process :=
  { p with memory := p.memory.withFile file }

theorem withFile_file (p : Process) : p.withFile p.memory.file = p :=
  congrArg (fun memory => { p with memory }) p.memory.withFile_file

/-- An address in the latest region. -/
theorem cell_of_holds {p : Process} {g : Region} {address : Nat}
    (holds : g.Holds p.memory.pageSize address) :
    (p.addRegion g).cell address = .physical (g.mapping.start + (address - g.place)) := by
  have found : (p.addRegion g).regions.find? (fun g => g.Holds p.memory.pageSize address) = some g :=
    List.find?_cons_of_pos (decide_eq_true holds)
  rw [cell]
  exact found ▸ rfl

end Process

namespace Region

section OfRange

variable {p : Process} {place address length : Nat} (positive : 0 < p.memory.pageSize)
  (fits : place + (Mapping.ofRange p.memory.pageSize address length).length ≤ Mapping.wordCount)

include positive fits

/-- The way from an offset into the range to the byte of the file. -/
theorem cell_address {offset i : Nat} (below : offset + i < length) :
    (p.addRegion (p.regionAt place address length)).cell
        ((p.regionAt place address length).address offset + i)
      = .physical (address + offset + i) := by
  have skipped := Mapping.start_add_skip p.memory.pageSize address length
  have ends := Mapping.start_add_length p.memory.pageSize address length
  have pages := Mapping.length_le_pagesLength positive (.ofRange p.memory.pageSize address length)
  rw [Process.regionAt]
  generalize Mapping.ofRange p.memory.pageSize address length = v at *
  have flat : Region.address ⟨place, v⟩ offset = place + v.skip + offset :=
    Nat.mod_eq_of_lt (by simp only [base]; omega)
  have holds : Region.Holds p.memory.pageSize ⟨place, v⟩ (place + v.skip + offset + i) := by
    refine ⟨?_, ?_⟩ <;> dsimp only <;> omega
  rw [flat, Process.cell_of_holds holds]
  congr 1
  dsimp only
  omega

theorem mmio_showsFile (covered : address + length ≤ p.memory.size) :
    (p.regionAt place address length).mmio.ShowsFile
      (p.addRegion (p.regionAt place address length)).withFile p.memory.size address length := by
  have cells {offset i : Nat} (below : offset + i < length) := cell_address positive fits below
  generalize p.regionAt place address length = g at cells ⊢
  exact p.memory.showsFile g.mmio (fun memory => { p.addRegion g with memory }) (p.addRegion g).cell
    g.address (fun _ _ _ => rfl) (fun _ _ _ _ => rfl) (fun _ _ => cells) covered

end OfRange

end Region

/-! ## Mapping a range -/

/-- What is documented of systems: no mapping is placed at address zero, and each ends within the
address space. -/
structure System.Sound (sys : System) : Prop where
  place_ne_zero : ∀ {p mapping place}, sys p mapping = .ok place → place ≠ 0
  fits : ∀ {p mapping place}, 0 < p.memory.pageSize → sys p mapping = .ok place →
    place + mapping.length ≤ Mapping.wordCount

theorem System.roomy_sound : System.roomy.Sound := by
  have granted {p : Process} {mapping : Mapping} {place : Nat} (ok : roomy p mapping = .ok place) :
      mapping.refusal? p.memory.pageSize = none ∧ lowestPlace = place := by
    rw [roomy] at ok
    split at ok
    · cases ok
    · exact ⟨‹_›, Except.ok.inj ok⟩
  constructor
  case place_ne_zero =>
    intro p mapping place ok
    rw [← (granted ok).2]
    decide
  case fits =>
    intro p mapping place positive ok
    obtain ⟨taken, rfl⟩ := granted ok
    have pages := Mapping.length_le_pagesLength positive mapping
    have short : mapping.pagesLength p.memory.pageSize ≤ Mapping.maxLength := by
      by_contra long
      rw [Mapping.refusal?, if_pos (Nat.lt_of_not_le long)] at taken
      split at taken <;> cases taken
    unfold Mapping.maxLength at short
    unfold lowestPlace Mapping.wordCount
    omega

namespace Process

/-- What mapping a range of physical memory comes to. -/
structure Translates (sys : System) (p : Process) (address length : Nat) : Prop where
  dvd_start : p.memory.pageSize ∣ (Mapping.ofRange p.memory.pageSize address length).start
  start_le : (Mapping.ofRange p.memory.pageSize address length).start ≤ address
  start_add_length : (Mapping.ofRange p.memory.pageSize address length).start
    + (Mapping.ofRange p.memory.pageSize address length).length = address + length
  /-- Nothing is left of a range that could not be mapped. -/
  openRefused : ∀ {cause}, p.memory.openRefusal = some cause →
    p.acquire sys address length = (.ok (.error (.refused .openMemory cause)), p)
  mapRefused : ∀ {cause}, length + address % p.memory.pageSize < Mapping.wordCount →
    p.memory.openRefusal = none →
    sys p.openFile (.ofRange p.memory.pageSize address length) = .error cause →
    p.acquire sys address length = (.ok (.error (.refused .mapMemory cause)), p)
  granted : ∀ {place}, length + address % p.memory.pageSize < Mapping.wordCount →
    p.memory.openRefusal = none →
    sys p.openFile (.ofRange p.memory.pageSize address length) = .ok place →
    p.acquire sys address length
      = (.ok (.ok (p.regionAt place address length)),
          p.openFile.addRegion (p.regionAt place address length))
  /-- Accesses through the mapping are accesses to the file from the address on, and to nothing
  else. -/
  accesses : ∀ {place}, length + address % p.memory.pageSize < Mapping.wordCount →
    address + length ≤ p.memory.size →
    sys p.openFile (.ofRange p.memory.pageSize address length) = .ok place →
    ∀ requests : List AccessRequest, (∀ request ∈ requests, request.Within length) →
    ∃ replies file, (fileMmio address).performAll requests p.memory.file = (replies, file) ∧
      file.length = p.memory.size ∧
      (p.regionAt place address length).mmio.performAll requests
          (p.openFile.addRegion (p.regionAt place address length))
        = (replies, (p.withFile file).openFile.addRegion (p.regionAt place address length)) ∧
      (Mapping.ofRange p.memory.pageSize address length).mmio.performAll requests p.memory
        = (replies, p.memory.withFile file)
  /-- What was written stays when the mapping is let go of, and nothing else. -/
  released : ∀ {place file},
    ((p.withFile file).openFile.addRegion (p.regionAt place address length)).release
      (p.regionAt place address length) = p.withFile file

theorem release_addRegion (g : Region) (p : Process) : (p.openFile.addRegion g).release g = p := by
  rw [release, addRegion, List.erase_cons_head]
  rfl

/-- A range of physical memory is mapped from the page boundary on, and is seen where it was asked
for, wherever it begins in its page. -/
theorem acquire_translates {sys : System} (sound : sys.Sound) (p : Process)
    (positive : 0 < p.memory.pageSize) (address length : Nat) :
    p.Translates sys address length where
  dvd_start := Mapping.dvd_start _ _ _
  start_le := Mapping.start_le _ _ _
  start_add_length := Mapping.start_add_length _ _ _
  openRefused refused := by rw [acquire, refused]
  mapRefused room opened refused := by
    have few : ¬ Mapping.wordCount ≤ (Mapping.ofRange p.memory.pageSize address length).length :=
      Nat.not_le.2 room
    rw [acquire, opened]
    dsimp only
    rw [if_neg few, refused]
    rfl
  granted room opened granted := by
    have few : ¬ Mapping.wordCount ≤ (Mapping.ofRange p.memory.pageSize address length).length :=
      Nat.not_le.2 room
    rw [acquire, opened]
    dsimp only
    rw [if_neg few, granted]
    dsimp only
    rw [if_neg (sound.place_ne_zero granted)]
  accesses := by
    intro place room covered granted requests within
    have fits : place + (Mapping.ofRange p.openFile.memory.pageSize address length).length
        ≤ Mapping.wordCount := sound.fits (p := p.openFile) positive granted
    have region := Region.mmio_showsFile (p := p.openFile) positive fits covered
    have mapping := Mapping.mmio_showsFile p.memory positive room covered
    obtain ⟨process, whole⟩ := region.performAll covered within p.memory.length_file
    obtain ⟨memory, -⟩ := mapping.performAll covered within p.memory.length_file
    refine ⟨_, _, rfl, whole, ?_, ?_⟩
    · exact (congrArg (Mmio.performAll _ requests) (withFile_file _)).symm.trans process
    · rw [← memory, PhysicalMemory.withFile_file]
  released := release_addRegion _ _

/-- A range that begins two bytes before a page boundary. -/
theorem acquire_translates_of_unaligned :
    System.roomy.Sound ∧ 0 < (PhysicalMemory.zero 4096 0x2000).pageSize ∧
      8 + 0xffe % 4096 < Mapping.wordCount ∧ 0xffe + 8 ≤ (PhysicalMemory.zero 4096 0x2000).size ∧
      System.roomy ⟨.zero 4096 0x2000, 1, []⟩ (.ofRange 4096 0xffe 8) = .ok lowestPlace ∧
      Translates .roomy ⟨.zero 4096 0x2000, 0, []⟩ 0xffe 8 :=
  ⟨System.roomy_sound, by decide, by decide, by decide, rfl,
    acquire_translates System.roomy_sound ⟨.zero 4096 0x2000, 0, []⟩ (by decide) 0xffe 8⟩

end Process

end FlashDump
