import FlashDump.Proofs.Machine.Cycle
import FlashDump.Proofs.Sequencer.Steps
import Mathlib.Data.List.FinRange

/-!
# A block on the simulated controller

A sequencer drives a controller (`Sequencer.Drives`) if it knows where the registers are
and all of them lie in the window.  Then one block is read in three moves, and each has
one equation.

* Starting the cycle runs it at once (`startCycle_eq_launch`).
* Polling finds it done after as many polls as the controller still hides it, and finds
  nothing if there are fewer polls (`poll_of_done`).
* Collecting gives what is in the data registers (`collect_eq`).

`block_of_idle` puts them together.  It makes no assumption about what the registers
held.  What it leaves is `Controller.launch` with nothing hidden any more, and this has
the same flash and the same faults (`Controller.Kin`).
-/

namespace FlashDump

open FlashDump.Bits
open FlashDump.Register

/-! ## Accesses -/

namespace Controller

theorem write_of_outside {c : Controller} {width : Width} {offset : Nat}
    (outside : ¬ (offset ≤ c.spiBar + Offset.hsfc ∧ c.spiBar + Offset.hsfc < offset + width.bytes))
    (value : BitVec width.bits) :
    c.write width offset value
      = { c with
          memory := c.memory.store width offset value
          writes := c.writes.push ⟨width, offset, value⟩ } := by
  have quiet : (preset width offset value (logWrite ⟨width, offset, value⟩ c)).starts width offset
      = false := by
    rw [starts, Bool.and_eq_false_iff]
    refine Or.inl ?_
    rw [← Bool.decide_and, decide_eq_false_iff_not]
    exact outside
  rw [write, quiet]
  rfl

theorem read_hsfs (c : Controller) :
    c.read .w16 (c.spiBar + Offset.hsfs)
      = (if c.pending = 0 then c.memory.load .w16 (c.spiBar + Offset.hsfs)
          else c.memory.load .w16 (c.spiBar + Offset.hsfs) &&& ~~~3,
        { c with pending := c.pending - 1 }) := by
  by_cases none : c.pending = 0
  · have shown : ¬ c.hides .w16 (c.spiBar + Offset.hsfs) = true := by simp [hides, none]
    have same : { c with pending := c.pending - 1 } = c := by rw [none, Nat.zero_sub, ← none]
    rw [read, if_neg shown, if_pos none, same]
  · have hidden : c.hides .w16 (c.spiBar + Offset.hsfs) = true := by
      simp [hides, offset, Nat.pos_of_ne_zero none]
    rw [read, if_pos hidden, if_neg none]

theorem read_of_other {c : Controller} {width : Width} {offset : Nat}
    (other : width ≠ .w16 ∨ offset ≠ c.spiBar + Offset.hsfs) :
    c.read width offset = (c.memory.load width offset, c) := by
  have shown : ¬ c.hides width offset = true := by
    rw [hides, Bool.and_eq_true, Bool.and_eq_true, decide_eq_true_iff, decide_eq_true_iff]
    rintro ⟨⟨w, o⟩, -⟩
    exact other.elim (· w) (· o)
  rw [read, if_neg shown]

/-- The read in between can only hide bits that are cleared anyway. -/
theorem modify_hsfs {c : Controller} {bar : Nat} (place : c.spiBar = bar) :
    mmio.modify .w16 (bar + Offset.hsfs) Hsfs.clearStatus c
      = { c with
          memory := c.memory.store .w16 (bar + Offset.hsfs)
            (Hsfs.clearStatus (c.memory.load .w16 (bar + Offset.hsfs)))
          pending := c.pending - 1
          writes := c.writes.push ⟨.w16, bar + Offset.hsfs,
            Hsfs.clearStatus (c.memory.load .w16 (bar + Offset.hsfs))⟩ } := by
  subst place
  have masked (raw : BitVec 16) : Hsfs.clearStatus (raw &&& ~~~3#16) = Hsfs.clearStatus raw := by
    rw [Hsfs.clearStatus, BitVec.and_assoc]
    rfl
  have value : Hsfs.clearStatus (c.read .w16 (c.spiBar + Offset.hsfs)).1
      = Hsfs.clearStatus (c.memory.load .w16 (c.spiBar + Offset.hsfs)) := by
    rw [read_hsfs]
    split
    · rfl
    · exact masked _
  rw [Mmio.modify]
  change (c.read .w16 _).2.write .w16 _ (Hsfs.clearStatus (c.read .w16 _).1) = _
  rw [value, read_hsfs, write_of_outside]
  simp only [Offset.hsfs, Offset.hsfc, Width.bytes]
  omega

theorem modify_faddr {c : Controller} {bar : Nat} (place : c.spiBar = bar)
    (change : BitVec 32 → BitVec 32) :
    mmio.modify .w32 (bar + Offset.faddr) change c
      = { c with
          memory := c.memory.store .w32 (bar + Offset.faddr)
            (change (c.memory.load .w32 (bar + Offset.faddr)))
          writes := c.writes.push ⟨.w32, bar + Offset.faddr,
            change (c.memory.load .w32 (bar + Offset.faddr))⟩ } := by
  subst place
  rw [Mmio.modify]
  change (c.read .w32 _).2.write .w32 _ (change (c.read .w32 _).1) = _
  rw [read_of_other (Or.inl (by decide)), write_of_outside]
  simp only [Offset.faddr, Offset.hsfc]
  omega

theorem modify_hsfc {c : Controller} {bar : Nat} (place : c.spiBar = bar)
    (fits : bar + sequencerSize ≤ windowSize) (byteCount : Nat) :
    mmio.modify .w16 (bar + Offset.hsfc) (Hsfc.startRead byteCount) c
      = runCycle
          { c with
            memory := c.memory.store .w16 (bar + Offset.hsfc)
              (Hsfc.startRead byteCount (c.memory.load .w16 (bar + Offset.hsfc)))
            writes := c.writes.push ⟨.w16, bar + Offset.hsfc,
              Hsfc.startRead byteCount (c.memory.load .w16 (bar + Offset.hsfc))⟩ } := by
  subst place
  rw [Mmio.modify]
  change (c.read .w16 _).2.write .w16 _ (Hsfc.startRead byteCount (c.read .w16 _).1) = _
  rw [read_of_other (Or.inr (by simp only [Offset.hsfc, Offset.hsfs]; omega)), write, if_pos]
  · rfl
  · have covered : c.spiBar + Offset.hsfc ≤ c.spiBar + Offset.hsfc ∧
        c.spiBar + Offset.hsfc < c.spiBar + Offset.hsfc + Width.w16.bytes ∧
        c.spiBar + Offset.hsfc < windowSize := by
      unfold sequencerSize at fits
      simp only [Offset.hsfc, Width.bytes]
      omega
    simp only [starts, preset, logWrite, offset, test, RegisterFile.byteAt_store, if_pos covered]
    simp [Hsfc.startRead, Width.bytes]

/-! ## The controller after a block -/

/-- The controller once the cycle of a block is started, and so has run. -/
def launch (byteCount address : Nat) (c : Controller) : Controller :=
  runCycle
    { c with
      memory := aimed c.spiBar byteCount address c.memory
      pending := c.pending - 1
      writes :=
        ((c.writes.push ⟨.w16, c.spiBar + Offset.hsfs,
            Hsfs.clearStatus (c.memory.load .w16 (c.spiBar + Offset.hsfs))⟩).push
          ⟨.w32, c.spiBar + Offset.faddr,
            Faddr.aim address (c.memory.load .w32 (c.spiBar + Offset.faddr))⟩).push
          ⟨.w16, c.spiBar + Offset.hsfc,
            Hsfc.startRead byteCount (c.memory.load .w16 (c.spiBar + Offset.hsfc))⟩ }

/-- Two states of one controller: neither its place nor its flash nor its faults differ. -/
structure Kin (c d : Controller) : Prop where
  spiBar : d.spiBar = c.spiBar
  flash : d.flash = c.flash
  errors : d.errors = c.errors
  stuck : d.stuck = c.stuck
  delay : d.delay = c.delay

theorem Kin.refl (c : Controller) : Kin c c := ⟨rfl, rfl, rfl, rfl, rfl⟩

theorem Kin.trans {c d e : Controller} (first : Kin c d) (second : Kin d e) : Kin c e :=
  ⟨second.spiBar.trans first.spiBar, second.flash.trans first.flash,
    second.errors.trans first.errors, second.stuck.trans first.stuck,
    second.delay.trans first.delay⟩

theorem Kin.pending (c : Controller) (pending : Nat) : Kin c { c with pending } :=
  ⟨rfl, rfl, rfl, rfl, rfl⟩

theorem kin_launch (byteCount address : Nat) (c : Controller) : Kin c (c.launch byteCount address) :=
  ⟨rfl, rfl, rfl, rfl, rfl⟩

section Launched

variable {c : Controller} (byteCount : Nat) {address : Nat}
  (fits : c.spiBar + sequencerSize ≤ windowSize)
  (ends : c.stuck = false) (small : address < flashAddressSpace)

theorem memory_launch (address : Nat) (ends : c.stuck = false) :
    (c.launch byteCount address).memory
      = completeCycle c.spiBar c.flash c.errors (aimed c.spiBar byteCount address c.memory) := by
  rw [launch, runCycle]
  simp only [ends, Bool.false_eq_true, if_false]

include fits ends small

/-- The status bits are those of this cycle.  Those of the one before are cleared. -/
theorem status_launch :
    ((c.launch byteCount address).memory.load .w16 (c.spiBar + Offset.hsfs)).getLsbD 0 = true ∧
      ((c.launch byteCount address).memory.load .w16 (c.spiBar + Offset.hsfs)).getLsbD 1
        = c.errors.contains address := by
  rw [memory_launch _ _ ends, load_hsfs_completeCycle fits, load_hsfs_aimed fits,
    cycleAddress_aimed fits _ small]
  simp only [statusAfter, Hsfs.clearStatus, BitVec.getLsbD_or, getLsbD_flag]
  constructor
  · simp
  · simp

theorem loadBytes_launch (positive : 0 < byteCount) (few : byteCount ≤ 64) :
    (c.launch byteCount address).memory.loadBytes (c.spiBar + Offset.fdata) byteCount
      = c.flash.slice address byteCount := by
  have data := loadBytes_completeCycle fits c.flash c.errors (aimed c.spiBar byteCount address c.memory)
  rw [cycleLength_aimed fits _ positive few, cycleAddress_aimed fits _ small] at data
  rw [memory_launch _ _ ends, data]

end Launched

end Controller

/-! ## The sequencer on the controller -/

/-- The sequencer has the controller before it, and knows where its registers are. -/
structure Sequencer.Drives (q : Sequencer Controller) (c : Controller) : Prop where
  common : q.layout.Common
  device : q.device = Controller.mmio
  place : q.layout.spiBar = c.spiBar
  fits : c.spiBar + sequencerSize ≤ windowSize

namespace Sequencer

variable {q : Sequencer Controller} {c : Controller}

theorem Drives.kin {d : Controller} (drives : q.Drives c) (kin : c.Kin d) : q.Drives d :=
  ⟨drives.common, drives.device, by rw [drives.place, kin.spiBar], by rw [kin.spiBar]; exact drives.fits⟩

theorem Drives.offset (drives : q.Drives c) (register : Nat) :
    q.layout.offset register = c.spiBar + register := by
  rw [Layout.offset, drives.place]

/-- Each register is changed on its own: the stores before it are to other offsets. -/
theorem startCycle_eq_launch (drives : q.Drives c) {words address : Nat}
    (fits : address < flashAddressSpace) (few : words ≤ fdataCount) :
    q.startCycle words address c = c.launch (4 * words) address := by
  have faddr (value : BitVec 16) :
      (c.memory.store .w16 (c.spiBar + Offset.hsfs) value).load .w32 (c.spiBar + Offset.faddr)
        = c.memory.load .w32 (c.spiBar + Offset.faddr) := by
    rw [RegisterFile.load_store_disjoint
      (by simp only [Offset.hsfs, Offset.faddr, Width.bytes]; omega)]
  have hsfc (value : BitVec 16) (value' : BitVec 32) :
      ((c.memory.store .w16 (c.spiBar + Offset.hsfs) value).store .w32 (c.spiBar + Offset.faddr)
          value').load .w16 (c.spiBar + Offset.hsfc)
        = c.memory.load .w16 (c.spiBar + Offset.hsfc) := by
    rw [RegisterFile.load_store_disjoint
        (by simp only [Offset.hsfc, Offset.faddr, Width.bytes]; omega),
      RegisterFile.load_store_disjoint
        (by simp only [Offset.hsfc, Offset.hsfs, Width.bytes]; omega)]
  rw [startCycle_eq drives.common fits few, drives.device, drives.offset, drives.offset,
    drives.offset, Controller.modify_hsfs rfl]
  rw [Controller.modify_faddr, Controller.modify_hsfc]
  · simp only [faddr, hsfc]
    rfl
  · rfl
  · exact drives.fits
  · rfl

/-- Polls of a controller whose cycle is done, but may be hidden for a while. -/
theorem poll_of_done (drives : q.Drives c)
    (done : (c.memory.load .w16 (c.spiBar + Offset.hsfs)).getLsbD 0 = true) (polls : Nat) :
    q.poll polls c
      = if c.pending < polls then
          (some (Hsfs.decode (c.memory.load .w16 (c.spiBar + Offset.hsfs))),
            { c with pending := 0 })
        else (none, { c with pending := c.pending - polls }) := by
  induction polls generalizing c with
  | zero => rw [if_neg (Nat.not_lt_zero _)]; rfl
  | succ polls ih =>
      rw [poll_succ drives.common, drives.device, drives.offset]
      change (if (c.read .w16 _).1.getLsbD 0 then (some (Hsfs.decode (c.read .w16 _).1),
        (c.read .w16 _).2) else q.poll polls (c.read .w16 _).2) = _
      rw [Controller.read_hsfs]
      dsimp only
      by_cases shown : c.pending = 0
      · rw [if_pos shown, if_pos done, if_pos (by omega), shown]
      · have hidden (raw : BitVec Width.w16.bits) : ¬ (raw &&& ~~~3).getLsbD 0 = true := by
          change ¬ ((raw : BitVec 16) &&& ~~~3#16).getLsbD 0 = true
          simp
        rw [if_neg shown, if_neg (hidden _),
          ih (drives.kin (Controller.Kin.pending c (c.pending - 1))) done]
        by_cases enough : c.pending < polls + 1
        · rw [if_pos enough, if_pos (by simp only; omega)]
        · rw [if_neg enough, if_neg (by simp only; omega), Nat.sub_sub, Nat.add_comm 1]

theorem collect_list (drives : q.Drives c) (registers : List (Fin fdataCount)) :
    q.collect registers c
      = (registers.flatMap fun index : Fin fdataCount =>
          c.memory.loadBytes (c.spiBar + Offset.fdata + 4 * index) 4, c) := by
  induction registers with
  | nil => rfl
  | cons index registers ih =>
      have word : q.layout.readFdata q.device index c
          = (c.memory.load .w32 (c.spiBar + Offset.fdata + 4 * index), c) := by
        rw [Layout.readFdata, Mmio.read32, drives.device, drives.offset, ← Nat.add_assoc]
        exact Controller.read_of_other (Or.inl (by decide))
      rw [collect, word]
      dsimp only
      rw [ih, List.flatMap_cons, ← RegisterFile.bytes_load c.memory .w32]

/-- The registers of a block hold its bytes one after the other. -/
theorem flatMap_blockRegisters {words : Nat} (few : words ≤ fdataCount) (m : RegisterFile)
    (offset : Nat) :
    ((blockRegisters words).flatMap fun index : Fin fdataCount => m.loadBytes (offset + 4 * index) 4)
      = m.loadBytes offset (4 * words) := by
  have indices : (blockRegisters words).map (fun index => index.val) = List.range words := by
    rw [blockRegisters, List.map_take, List.map_coe_finRange_eq_range, List.take_range,
      Nat.min_eq_left few]
  rw [← List.flatMap_map (fun index : Fin fdataCount => index.val)
    (fun i => m.loadBytes (offset + 4 * i) 4), indices]
  clear indices few
  induction words with
  | zero => rfl
  | succ words ih =>
      rw [List.range_succ, List.flatMap_append, ih, Nat.mul_succ, RegisterFile.loadBytes_add]
      simp

theorem collect_eq (drives : q.Drives c) {words : Nat} (few : words ≤ fdataCount) :
    q.collect (blockRegisters words) c
      = (c.memory.loadBytes (c.spiBar + Offset.fdata) (4 * words), c) := by
  rw [collect_list drives, flatMap_blockRegisters few]

/-- A controller that ends its cycles in time gives the block that was asked for. -/
theorem block_of_idle (drives : q.Drives c) (ends : c.stuck = false)
    (tolerated : c.delay < q.budget) {words address : Nat} (positive : 0 < words)
    (few : words ≤ fdataCount) (fits : address < flashAddressSpace) :
    ∃ hsfs d, q.poll q.budget (q.startCycle words address c) = (some hsfs, d) ∧
      hsfs.flashCycleError = c.errors.contains address ∧
      q.collect (blockRegisters words) d = (c.flash.slice address (4 * words), d) ∧ c.Kin d := by
  have room : 4 * words ≤ 64 := by
    unfold fdataCount at few
    omega
  have kin : c.Kin (c.launch (4 * words) address) := Controller.kin_launch _ _ c
  have status := Controller.status_launch (4 * words) drives.fits ends fits
  have data := Controller.loadBytes_launch (4 * words) drives.fits ends fits
    (Nat.mul_pos (by decide) positive) room
  have shown : Controller.Kin c { c.launch (4 * words) address with pending := 0 } :=
    kin.trans (.pending _ 0)
  refine ⟨Hsfs.decode ((c.launch (4 * words) address).memory.load .w16 (c.spiBar + Offset.hsfs)),
    { c.launch (4 * words) address with pending := 0 }, ?_, ?_, ?_, shown⟩
  · rw [startCycle_eq_launch drives fits few, poll_of_done (drives.kin kin) status.1]
    exact if_pos tolerated
  · exact status.2
  · rw [collect_eq (drives.kin shown) few]
    exact congrArg (·, _) data

end Sequencer

end FlashDump
