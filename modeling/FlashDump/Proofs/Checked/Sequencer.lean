import FlashDump.Proofs.Checked.Device
import FlashDump.Proofs.Sequencer.Arguments
import Mathlib.Data.List.FinRange

/-!
# The checked sequencer

A read of the flash with every operation checked: its arguments, the address and the length of each
block, the flash data registers of the block and the count of the polls.

It does not fault, whatever it is asked for, and does what the read does (`read_ok`).  The argument
checks come before any division, and the accepted arguments keep the addresses of all blocks below
32 MiB.
-/

namespace FlashDump.Checked

open FlashDump.Register

variable {σ τ : Type}

/-! ## The flash -/

section Flash

variable (q : Sequencer σ) (d : Device σ)

/-- Start a read cycle of a number of bytes at an address. -/
def startCycle (blockSize address : Nat) : Checked σ Unit := do
  updateRegister q.layout d .w16 Offset.hsfs decodeHsfs encodeHsfs fun hsfs =>
    return { hsfs with
      accessErrorLog := false
      flashCycleError := false
      flashCycleDone := false }
  updateRegister q.layout d .w32 Offset.faddr decodeFaddr encodeFaddr fun faddr =>
    return { faddr with flashLinearAddress := BitVec.ofNat 32 address }
  updateRegister q.layout d .w16 Offset.hsfc decodeHsfc encodeHsfc fun hsfc => do
    return { hsfc with
      flashDataByteCount := BitVec.ofNat 16 (← sub blockSize 1)
      flashCycle := .read
      flashCycleGo := true }

/-- Poll HSFS until it shows the cycle done or the limit is reached. -/
def waitFrom : (further polls : Nat) → Checked σ Wait
  | 0, _ => pure .unfinished
  | further + 1, polls => do
      let hsfs ← readHsfs q.layout d
      if hsfs.flashCycleDone then pure (.done hsfs)
      else
        let polls ← add 64 polls 1
        if q.limit.reached polls then pure (.timedOut polls) else waitFrom further polls

/-- The bytes of the flash data registers with the given indices, in order. -/
def collect : List Nat → Checked σ (List Byte)
  | [] => pure []
  | index :: rest => do
      let word ← readRow q.layout d .fdata pure index
      return LittleEndian.bytes 4 word ++ (← collect rest)

/-- Read a number of blocks, of which some were read before. -/
def readBlocks (o : Observer τ) (start blockSize : Nat) :
    (count block : Nat) → τ → Checked σ (Ending × τ)
  | 0, _, t => pure (.completed, o.finish t)
  | count + 1, block, t => do
      let address ← add 32 start (← mul 32 block blockSize)
      startCycle q d blockSize address
      match ← waitFrom q d q.horizon 0 with
      | .unfinished => pure (.unfinished, t)
      | .timedOut polls => pure (.timedOut address polls, o.notify (.timeout address) t)
      | .done hsfs =>
          match Sequencer.acknowledge o address hsfs t with
          | (false, t) => pure (.stopped, t)
          | (true, t) => do
              let data ← collect q d (List.range (blockSize / 4))
              match o.block address data t with
              | (false, t) => pure (.stopped, t)
              | (true, t) => readBlocks o start blockSize count (block + 1) t

/-- Read the flash. -/
def read (o : Observer τ) (r : Request) (t : τ) :
    Checked σ (Option (Except ChipsetError Unit) × τ) :=
  let refuse (fault : ArgumentFault) := pure (some (.error (.invalidArgument fault)), t)
  if r.blockSize < minBlockSize ∨ maxBlockSize < r.blockSize then refuse .blockSizeRange
  else if r.blockSize % 4 ≠ 0 then refuse .blockSizeMultiple
  else do
    if (← rem r.size r.blockSize) ≠ 0 then refuse .sizeMultiple
    else if flashAddressSpace < (← add 64 r.start r.size) then refuse .pastEnd
    else
      let hsfs ← readHsfs q.layout d
      let t := o.notify (.status hsfs) t
      if hsfs.spiCycleInProgress then pure (some (.error .busy), o.notify .busy t)
      else
        slice maxBlockSize 0 r.blockSize
        let (ending, t) ← readBlocks q d o r.start r.blockSize (← div r.size r.blockSize) 0 t
        return (ending.result, t)

end Flash

/-! ## The count of the polls -/

/-- The polls still to come are counted in 64 bits.  With a limit the count ends there, and without
one it ends with the polls that are followed. -/
def Counts (q : Sequencer σ) (further polls : Nat) : Prop :=
  match q.limit with
  | .unbounded => polls + further < 2 ^ 64
  | .iterations most => polls < max most 1 ∧ max most 1 < 2 ^ 64

namespace Counts

variable {q : Sequencer σ} {further polls : Nat}

theorem first (counted : q.budget < 2 ^ 64) : Counts q q.horizon 0 := by
  unfold Sequencer.budget at counted
  unfold Counts Sequencer.horizon
  cases limit : q.limit with
  | unbounded =>
      rw [limit] at counted
      exact (Nat.zero_add _).trans_lt counted
  | iterations most =>
      rw [limit] at counted
      exact ⟨by omega, counted⟩

theorem succ_lt (counts : Counts q (further + 1) polls) : polls + 1 < 2 ^ 64 := by
  unfold Counts at counts
  cases limit : q.limit with
  | unbounded =>
      rw [limit] at counts
      dsimp only at counts
      omega
  | iterations most =>
      rw [limit] at counts
      exact (Nat.succ_le_of_lt counts.1).trans_lt counts.2

/-- A count that has not reached the limit leaves room for another poll. -/
theorem next (counts : Counts q (further + 1) polls) (more : ¬ q.limit.reached (polls + 1) = true) :
    Counts q further (polls + 1) := by
  unfold Counts at counts ⊢
  cases limit : q.limit with
  | unbounded =>
      rw [limit] at counts
      dsimp only at counts ⊢
      omega
  | iterations most =>
      rw [limit] at counts more
      have below : ¬ most ≤ polls + 1 := fun reached => more (decide_eq_true reached)
      exact ⟨by omega, counts.2⟩

end Counts

/-! ## Reads of the flash do not fault -/

section Flash

variable {q : Sequencer σ} {d : Device σ} {sound : σ → Prop} {s : σ}
  (follows : d.Follows q.device sound) (common : q.layout.Common)
  (fits : q.layout.spiBar + spiSize ≤ windowSize)

include follows common fits

theorem startCycle_ok {words : Nat} (positive : 0 < words) (address : Nat) (start : sound s) :
    (startCycle q d (4 * words) address).run s = .ok () (q.startCycle words address s) := by
  have some : 1 ≤ 4 * words := by omega
  rw [startCycle,
    bind_of_ok (updateRegister_ok follows start (Layout.Place.hsfs.inside fits) decodeHsfs_eq
      encodeHsfs_eq fun _ => rfl),
    bind_of_ok (updateRegister_ok follows (follows.sound_modify start) (Layout.Place.faddr.inside fits)
      decodeFaddr_eq encodeFaddr_eq fun _ => rfl),
    updateRegister_ok follows (follows.sound_modify (follows.sound_modify start))
      (Layout.Place.hsfc.inside fits) decodeHsfc_eq encodeHsfc_eq
      fun _ => by rw [sub_eq some, pure_bind]]
  simp only [Sequencer.startCycle, Layout.readHsfs, Layout.writeHsfs, Layout.readFaddr,
    Layout.writeFaddr, Layout.readHsfc, Layout.writeHsfc, common.hsfs, common.faddr, common.hsfc]
  rfl

theorem waitFrom_ok {further polls : Nat} (counts : Counts q further polls) (start : sound s) :
    (waitFrom q d further polls).run s
      = .ok (q.waitFrom further polls s).1 (q.waitFrom further polls s).2 := by
  induction further generalizing polls s with
  | zero => rfl
  | succ further ih =>
      have next : sound (q.layout.readHsfs q.device s).2 := follows.sound_read start
      rw [waitFrom, bind_of_ok (readHsfs_ok follows start fits common), Sequencer.waitFrom]
      dsimp only
      by_cases done : (q.layout.readHsfs q.device s).1.flashCycleDone = true
      · rw [if_pos done, if_pos done]
        rfl
      · rw [if_neg done, if_neg done, add_eq counts.succ_lt, pure_bind]
        by_cases last : q.limit.reached (polls + 1) = true
        · rw [if_pos last, if_pos last]
          rfl
        · rw [if_neg last, if_neg last]
          exact ih (counts.next last) next

omit common in
theorem collect_ok (registers : List (Fin fdataCount)) (start : sound s) :
    (collect q d (registers.map Fin.val)).run s
      = .ok (q.collect registers s).1 (q.collect registers s).2 := by
  induction registers generalizing s with
  | nil => rfl
  | cons index registers ih =>
      have word := readRow_ok follows start fits .fdata index.isLt
        (fun raw => (rfl : (pure raw : Checked σ (BitVec 32)) = _))
      have next : sound (q.layout.readFdata q.device index s).2 := follows.sound_read start
      rw [List.map_cons, collect, bind_of_ok word]
      change (collect q d _ >>= _).run (q.layout.readFdata q.device index s).2 = _
      rw [bind_of_ok (ih next)]
      rfl

omit follows common fits in
theorem map_blockRegisters {words : Nat} (few : words ≤ fdataCount) :
    (Sequencer.blockRegisters words).map Fin.val = List.range words := by
  rw [Sequencer.blockRegisters, List.map_take, List.map_coe_finRange_eq_range, List.take_range,
    Nat.min_eq_left few]

theorem readBlocks_ok (o : Observer τ) {start words count block : Nat} (positive : 0 < words)
    (few : words ≤ fdataCount)
    (ends : start + (block + count) * (4 * words) ≤ flashAddressSpace) (counted : q.budget < 2 ^ 64)
    (t : τ) (begun : sound s) :
    (readBlocks q d o start (4 * words) count block t).run s
      = .ok ((q.readBlocks o words count (start + block * (4 * words)) s t).1,
            (q.readBlocks o words count (start + block * (4 * words)) s t).2.2)
          (q.readBlocks o words count (start + block * (4 * words)) s t).2.1 := by
  induction count generalizing block s t with
  | zero => rfl
  | succ count ih =>
      have below : block * (4 * words) ≤ (block + (count + 1)) * (4 * words) :=
        Nat.mul_le_mul_right _ (by omega)
      have after : start + block * (4 * words) + 4 * words = start + (block + 1) * (4 * words) := by
        rw [Nat.add_mul block 1, Nat.one_mul, Nat.add_assoc]
      have rest : start + (block + 1 + count) * (4 * words) ≤ flashAddressSpace := by
        rw [Nat.add_assoc block 1 count, Nat.add_comm 1 count]
        exact ends
      have small : start + block * (4 * words) < 2 ^ 32 := by
        unfold flashAddressSpace at ends
        omega
      rw [readBlocks, mul_eq (by omega), pure_bind, add_eq small, pure_bind]
      have next (t : τ) {s : σ} := ih (s := s) rest t
      rw [← after] at next
      generalize start + block * (4 * words) = address at next
      have launched := follows.sound_of_reaches (q.startCycle_reaches words address s) begun
      have waited : sound (q.wait (q.startCycle words address s)).2 :=
        follows.sound_of_reaches (q.wait_reaches _) launched
      rw [bind_of_ok (startCycle_ok follows common fits positive address begun),
        bind_of_ok (waitFrom_ok follows common fits (.first counted) launched), Sequencer.readBlocks]
      change sound (q.waitFrom q.horizon 0 _).2 at waited
      unfold Sequencer.wait
      generalize q.waitFrom q.horizon 0 (q.startCycle words address s) = answer at waited ⊢
      obtain ⟨hsfs | polls | _, s'⟩ := answer
      rotate_left
      · rfl
      · rfl
      · change sound s' at waited
        dsimp only
        generalize Sequencer.acknowledge o address hsfs t = heard
        obtain ⟨_ | _, t'⟩ := heard
        · rfl
        · have registers := collect_ok follows fits (Sequencer.blockRegisters words) waited
          have collected :=
            follows.sound_of_reaches (q.collect_reaches (Sequencer.blockRegisters words) s') waited
          have dwords : 4 * words / 4 = words := Nat.mul_div_cancel_left words (by decide)
          rw [map_blockRegisters few] at registers
          dsimp only
          rw [dwords, bind_of_ok registers]
          generalize q.collect (Sequencer.blockRegisters words) s' = answer at collected ⊢
          obtain ⟨data, s''⟩ := answer
          dsimp only
          generalize o.block address data t' = heard
          obtain ⟨_ | _, t''⟩ := heard
          · rfl
          · exact next t'' collected

/-- The arguments are checked in an order in which no check faults. -/
theorem read_ok (o : Observer τ) {r : Request} (sum : r.start + r.size < 2 ^ 64)
    (counted : q.budget < 2 ^ 64) (t : τ) (begun : sound s) :
    (read q d o r t).run s
      = .ok ((q.read o r s t).1, (q.read o r s t).2.2) (q.read o r s t).2.1 := by
  have refused {fault : ArgumentFault} (planned : r.plan = .error fault) :
      q.read o r s t = (some (.error (.invalidArgument fault)), s, t) := by
    rw [Sequencer.read, planned]
  by_cases range : r.blockSize < minBlockSize ∨ maxBlockSize < r.blockSize
  · rw [read, if_pos range, refused (dif_pos range)]
    rfl
  have divisor : r.blockSize ≠ 0 := by
    unfold minBlockSize at range
    omega
  by_cases multiple : r.blockSize % 4 ≠ 0
  · have planned : r.plan = .error .blockSizeMultiple := by
      rw [Request.plan, dif_neg range, dif_pos multiple]
    rw [read, if_neg range, if_pos multiple, refused planned]
    rfl
  by_cases whole : r.size % r.blockSize ≠ 0
  · have planned : r.plan = .error .sizeMultiple := by
      rw [Request.plan, dif_neg range, dif_neg multiple, dif_pos whole]
    rw [read, if_neg range, if_neg multiple, rem_eq divisor, pure_bind, if_pos whole, refused planned]
    rfl
  by_cases past : flashAddressSpace < r.start + r.size
  · have planned : r.plan = .error .pastEnd := by
      rw [Request.plan, dif_neg range, dif_neg multiple, dif_neg whole, dif_pos past]
    rw [read, if_neg range, if_neg multiple, rem_eq divisor, pure_bind, if_neg whole, add_eq sum,
      pure_bind, if_pos past, refused planned]
    rfl
  obtain ⟨p, planned⟩ : ∃ p, r.plan = .ok p :=
    ⟨_, by rw [Request.plan, dif_neg range, dif_neg multiple, dif_neg whole, dif_neg past]⟩
  have first : p.start = r.start := Request.plan_start planned
  have block : 4 * p.words = r.blockSize := Request.plan_blockSize planned
  have count : r.size / r.blockSize = p.count := by
    rw [← Request.plan_size planned, Plan.size, Plan.blockSize, block, Nat.mul_div_cancel _ (by omega)]
  have ends : r.start + (0 + p.count) * (4 * p.words) ≤ flashAddressSpace := by
    rw [Nat.zero_add, ← first]
    exact p.fits
  have next : sound (q.layout.readHsfs q.device s).2 := follows.sound_read begun
  rw [read, if_neg range, if_neg multiple, rem_eq divisor, pure_bind, if_neg whole, add_eq sum,
    pure_bind, if_neg past, bind_of_ok (readHsfs_ok follows begun fits common), Sequencer.read, planned]
  dsimp only
  by_cases busy : (q.layout.readHsfs q.device s).1.spiCycleInProgress = true
  · rw [if_pos busy, if_pos busy]
    rfl
  · have blocks := readBlocks_ok follows common fits o p.words_pos p.words_le ends counted
      (o.notify (.status (q.layout.readHsfs q.device s).1) t) next
    rw [Nat.zero_mul, Nat.add_zero, ← first] at blocks
    rw [if_neg busy, if_neg busy, slice_eq (Nat.zero_le _) (by omega), pure_bind, div_eq divisor,
      pure_bind, count, ← block, ← first, bind_of_ok blocks]
    rfl

end Flash

end FlashDump.Checked
