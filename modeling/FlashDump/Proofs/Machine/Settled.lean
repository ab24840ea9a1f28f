import FlashDump.Proofs.Machine.Block

/-!
# What a block leaves behind

`Controller.Settled` compares the registers before some blocks with the registers after
them, given the address of the last one.  It has one field for each part of a register: the
bits that are kept, and what the others hold.  All other bytes of the window are kept.

A cycle that is started settles the registers whether it ends or not (`settled_launch`).
What a block leaves depends on none of the blocks before it, so the registers are settled
after any number of blocks (`Settled.trans`).
-/

namespace FlashDump

open FlashDump.Bits
open FlashDump.Register

namespace Controller

/-- The word of a register of the SPI block. -/
def word (c : Controller) (width : Width) (register : Nat) : BitVec width.bits :=
  c.memory.load width (c.spiBar + register)

/-- The bytes of the first flash data registers. -/
def data (c : Controller) (count : Nat) : List Byte :=
  c.memory.loadBytes (c.spiBar + Offset.fdata) count

/-- The registers of `d` are those of `c` after blocks of a size, the last at an address. -/
structure Settled (blockSize address : Nat) (c d : Controller) : Prop where
  /-- Bits 15:3 of HSFS are kept. -/
  status_kept : ∀ i, 3 ≤ i →
    (d.word .w16 Offset.hsfs).getLsbD i = (c.word .w16 Offset.hsfs).getLsbD i
  /-- AEL is clear. -/
  logged : (d.word .w16 Offset.hsfs).getLsbD 2 = false
  /-- FCERR is set if the cycle ended and the address is one that fails. -/
  failed : (d.word .w16 Offset.hsfs).getLsbD 1 = (!c.stuck && c.errors.contains address)
  /-- FDONE is set if the cycle ended. -/
  done : (d.word .w16 Offset.hsfs).getLsbD 0 = !c.stuck
  /-- Bits 31:25 of FADDR are kept. -/
  target_kept : ∀ i, 25 ≤ i →
    (d.word .w32 Offset.faddr).getLsbD i = (c.word .w32 Offset.faddr).getLsbD i
  /-- FLA is the address. -/
  target : ((field 24 0).value (d.word .w32 Offset.faddr)).toNat = address
  /-- Bits 15, 14 and 7:3 of HSFC are kept. -/
  control_kept : ∀ i ∈ Hsfc.keptBits,
    (d.word .w16 Offset.hsfc).getLsbD i = (c.word .w16 Offset.hsfc).getLsbD i
  /-- FDBC is the block size less one. -/
  byteCount : ((field 13 8).value (d.word .w16 Offset.hsfc)).toNat + 1 = blockSize
  /-- FCYCLE is zero. -/
  cycle : (field 2 1).value (d.word .w16 Offset.hsfc) = 0
  /-- FGO is set if the cycle did not end. -/
  go : (d.word .w16 Offset.hsfc).getLsbD 0 = c.stuck
  /-- The flash data registers of a block hold it if the cycle ended. -/
  filled : d.data blockSize = if c.stuck then c.data blockSize else c.flash.slice address blockSize
  /-- All other bytes are kept. -/
  rest : ∀ i, ¬ (c.spiBar + Offset.hsfs ≤ i ∧ i < c.spiBar + Offset.faddr + 4) →
    ¬ (c.spiBar + Offset.fdata ≤ i ∧ i < c.spiBar + Offset.fdata + blockSize) →
    d.memory.byteAt i = c.memory.byteAt i

namespace Settled

variable {blockSize address address' : Nat} {c d e : Controller}

/-- Only the registers count. -/
theorem congr (settled : Settled blockSize address c d) (place : e.spiBar = d.spiBar)
    (memory : e.memory = d.memory) : Settled blockSize address c e := by
  have word (width : Width) (register : Nat) : e.word width register = d.word width register := by
    rw [word, word, place, memory]
  have data : e.data blockSize = d.data blockSize := by
    rw [data, data, place, memory]
  constructor
  case filled => rw [data, settled.filled]
  case rest =>
    rw [memory]
    exact settled.rest
  all_goals simp only [word]
  case status_kept => exact settled.status_kept
  case logged => exact settled.logged
  case failed => exact settled.failed
  case done => exact settled.done
  case target_kept => exact settled.target_kept
  case target => exact settled.target
  case control_kept => exact settled.control_kept
  case byteCount => exact settled.byteCount
  case cycle => exact settled.cycle
  case go => exact settled.go

/-- The last block decides. -/
theorem trans (first : Settled blockSize address c d) (kin : c.Kin d)
    (second : Settled blockSize address' d e) : Settled blockSize address' c e where
  status_kept i high := (second.status_kept i high).trans (first.status_kept i high)
  logged := second.logged
  failed := by rw [second.failed, kin.stuck, kin.errors]
  done := by rw [second.done, kin.stuck]
  target_kept i high := (second.target_kept i high).trans (first.target_kept i high)
  target := second.target
  control_kept i kept := (second.control_kept i kept).trans (first.control_kept i kept)
  byteCount := second.byteCount
  cycle := second.cycle
  go := by rw [second.go, kin.stuck]
  filled := by
    rw [second.filled, kin.stuck, kin.flash, first.filled]
    cases c.stuck <;> rfl
  rest i registers data := by
    have same := second.rest i
    rw [kin.spiBar] at same
    exact (same registers data).trans (first.rest i registers data)

end Settled

/-! ## The registers after a launch -/

theorem getLsbD_statusAfter (failed : Bool) (raw : BitVec 16) (i : Nat) :
    (statusAfter failed raw).getLsbD i
      = (raw.getLsbD i || decide (i = 0) || (decide (i = 1) && failed)) := by
  rw [statusAfter, BitVec.getLsbD_or, BitVec.getLsbD_or, getLsbD_flag, getLsbD_flag, Bool.and_true]

section Launch

variable {c : Controller} {byteCount address : Nat} (fits : c.spiBar + sequencerSize ≤ windowSize)
  (positive : 0 < byteCount) (few : byteCount ≤ 64) (small : address < flashAddressSpace)

theorem memory_launch_of_stuck (stuck : c.stuck = true) (byteCount address : Nat) :
    (c.launch byteCount address).memory = aimed c.spiBar byteCount address c.memory := by
  rw [launch, runCycle]
  simp only [stuck, if_true]

include fits

theorem hsfs_launch (byteCount : Nat) (small : address < flashAddressSpace) :
    (c.launch byteCount address).word .w16 Offset.hsfs
      = if c.stuck then Hsfs.clearStatus (c.word .w16 Offset.hsfs)
        else statusAfter (c.errors.contains address) (Hsfs.clearStatus (c.word .w16 Offset.hsfs)) := by
  change (c.launch byteCount address).memory.load .w16 (c.spiBar + Offset.hsfs) = _
  cases ends : c.stuck with
  | true =>
      rw [memory_launch_of_stuck ends, load_hsfs_aimed fits]
      rfl
  | false =>
      rw [memory_launch _ _ ends, load_hsfs_completeCycle fits, load_hsfs_aimed fits,
        cycleAddress_aimed fits _ small]
      rfl

theorem faddr_launch (byteCount address : Nat) :
    (c.launch byteCount address).word .w32 Offset.faddr
      = Faddr.aim address (c.word .w32 Offset.faddr) := by
  change (c.launch byteCount address).memory.load .w32 (c.spiBar + Offset.faddr) = _
  cases ends : c.stuck with
  | true => rw [memory_launch_of_stuck ends, load_faddr_aimed fits, word]
  | false =>
      rw [memory_launch _ _ ends, load_faddr_completeCycle, load_faddr_aimed fits, word]

theorem hsfc_launch (byteCount address : Nat) :
    (c.launch byteCount address).word .w16 Offset.hsfc
      = if c.stuck then Hsfc.startRead byteCount (c.word .w16 Offset.hsfc)
        else Hsfc.startRead byteCount (c.word .w16 Offset.hsfc) &&& ~~~1#16 := by
  change (c.launch byteCount address).memory.load .w16 (c.spiBar + Offset.hsfc) = _
  cases ends : c.stuck with
  | true =>
      rw [memory_launch_of_stuck ends, load_hsfc_aimed fits]
      rfl
  | false =>
      rw [memory_launch _ _ ends, load_hsfc_completeCycle fits, load_hsfc_aimed fits]
      rfl

include positive few

theorem byteAt_launch {i : Nat}
    (registers : ¬ (c.spiBar + Offset.hsfs ≤ i ∧ i < c.spiBar + Offset.faddr + 4))
    (data : ¬ (c.spiBar + Offset.fdata ≤ i ∧ i < c.spiBar + Offset.fdata + 4 * ((byteCount + 3) / 4))) :
    (c.launch byteCount address).memory.byteAt i = c.memory.byteAt i := by
  cases ends : c.stuck with
  | true => rw [memory_launch_of_stuck ends, byteAt_aimed _ registers]
  | false =>
      rw [memory_launch _ _ ends, byteAt_completeCycle, byteAt_aimed _ registers]
      · simp only [Offset.hsfs, Offset.hsfc, Offset.faddr] at registers ⊢
        omega
      · rwa [cycleLength_aimed fits _ positive few]

theorem data_launch (small : address < flashAddressSpace) :
    (c.launch byteCount address).data byteCount
      = if c.stuck then c.data byteCount else c.flash.slice address byteCount := by
  cases ends : c.stuck with
  | true =>
      apply List.map_congr_left
      intro i _
      change (c.launch byteCount address).memory.byteAt (c.spiBar + Offset.fdata + i) = _
      rw [memory_launch_of_stuck ends, byteAt_aimed]
      simp only [Offset.hsfs, Offset.fdata, Offset.faddr]
      omega
  | false => exact loadBytes_launch byteCount fits ends small positive few

/-- A block settles the registers, even if its cycle does not end. -/
theorem settled_launch (dwords : 4 ∣ byteCount) (small : address < flashAddressSpace) :
    c.Settled byteCount address (c.launch byteCount address) where
  status_kept i high := by
    have other : i ≠ 0 ∧ i ≠ 1 := by omega
    rw [hsfs_launch fits _ small]
    split
    · rw [Hsfs.getLsbD_clearStatus, decide_eq_true high, Bool.true_and]
    · simp only [getLsbD_statusAfter, Hsfs.getLsbD_clearStatus, high, other, decide_true,
        decide_false, Bool.true_and, Bool.false_and, Bool.or_false]
  logged := by
    rw [hsfs_launch fits _ small]
    split
    · exact Hsfs.getLsbD_clearStatus _ 2
    · rw [getLsbD_statusAfter, Hsfs.getLsbD_clearStatus]
      rfl
  failed := by
    rw [hsfs_launch fits _ small]
    cases c.stuck with
    | true => exact Hsfs.getLsbD_clearStatus _ 1
    | false =>
        rw [if_neg Bool.false_ne_true, getLsbD_statusAfter, Hsfs.getLsbD_clearStatus]
        rfl
  done := by
    rw [hsfs_launch fits _ small]
    cases c.stuck with
    | true => exact Hsfs.getLsbD_clearStatus _ 0
    | false =>
        rw [if_neg Bool.false_ne_true, getLsbD_statusAfter, Hsfs.getLsbD_clearStatus]
        rfl
  target_kept i high := by
    rw [faddr_launch fits]
    exact Faddr.getLsbD_aim small _ high
  target := by
    rw [faddr_launch fits]
    exact Faddr.value_aim small _
  control_kept i kept := by
    have other : i ≠ 0 := by
      rintro rfl
      exact absurd kept (by decide)
    rw [hsfc_launch fits]
    split
    · exact Hsfc.getLsbD_startRead few _ kept
    · rw [getLsbD_and_not_one, decide_eq_true other, Bool.true_and]
      exact Hsfc.getLsbD_startRead few _ kept
  byteCount := by
    rw [hsfc_launch fits]
    split
    · exact Hsfc.value_startRead positive few _
    · rw [value_and_not_one (by decide)]
      exact Hsfc.value_startRead positive few _
  cycle := by
    rw [hsfc_launch fits]
    split
    · exact Hsfc.code_startRead _ _
    · rw [value_and_not_one (by decide)]
      exact Hsfc.code_startRead _ _
  go := by
    rw [hsfc_launch fits]
    cases c.stuck with
    | true => simp [Hsfc.startRead]
    | false => exact (getLsbD_and_not_one _ 0).trans rfl
  filled := data_launch fits positive few small
  rest i registers data := by
    have whole : 4 * ((byteCount + 3) / 4) = byteCount := by omega
    apply byteAt_launch fits positive few registers
    rwa [whole]

end Launch

end Controller

end FlashDump
