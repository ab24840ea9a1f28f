import FlashDump.Machine.Controller
import FlashDump.Proofs.Chipset.Layout
import FlashDump.Proofs.Memory.RegisterFile
import FlashDump.Proofs.Register.Update

/-!
# A cycle on the register file

A block is read in two moves.  `Controller.aimed` is the register file once the three
registers of a cycle are written, and `Controller.completeCycle` what the controller
makes of it.  Both are described by what is loaded afterwards.

* The cycle that is aimed has the address and the length that were asked for
  (`cycleAddress_aimed`, `cycleLength_aimed`).
* A cycle leaves the data in the flash data registers (`loadBytes_completeCycle`), and in
  HSFS the done bit and the error bit that goes with the address
  (`load_hsfs_completeCycle`).

Nothing here depends on what the registers held before.
-/

namespace FlashDump

open FlashDump.Bits
open FlashDump.Register

theorem Flash.getD_slice (f : Flash) (address count i : Nat) :
    (f.slice address count).getD i 0 = if i < count then f.byteAt (address + i) else 0 := by
  rw [slice, List.getD_eq_getElem?_getD, List.getElem?_map]
  by_cases inside : i < count <;> simp [inside]

namespace Controller

/-! ## Data -/

/-- The byte at an offset after some of the dwords of the data are stored. -/
theorem byteAt_foldl_store (m : RegisterFile) (offset : Nat) (data : List Byte) (count i : Nat) :
    ((List.range count).foldl
        (fun m i =>
          m.store .w32 (offset + 4 * i) (LittleEndian.word 32 ((data.drop (4 * i)).take 4)))
        m).byteAt i
      = if offset ≤ i ∧ i < offset + 4 * count ∧ i < windowSize then data.getD (i - offset) 0
        else m.byteAt i := by
  induction count with
  | zero => rw [if_neg (by omega)]; rfl
  | succ count ih =>
      rw [List.range_succ, List.foldl_append, List.foldl_cons, List.foldl_nil,
        RegisterFile.byteAt_store, ih]
      by_cases last : offset + 4 * count ≤ i ∧ i < offset + 4 * count + 4 ∧ i < windowSize
      · have within : i - (offset + 4 * count) < 4 := by omega
        have place : 4 * count + (i - (offset + 4 * count)) = i - offset := by omega
        rw [if_pos last, if_pos (by omega), LittleEndian.extractLsb'_word (by simp only [Width.bits]; omega)]
        simp only [List.getD_eq_getElem?_getD, List.getElem?_take, List.getElem?_drop, within,
          if_true, place]
      · rw [if_neg last]
        by_cases before : offset ≤ i ∧ i < offset + 4 * count ∧ i < windowSize
        · rw [if_pos before, if_pos (by omega)]
        · rw [if_neg before, if_neg (by omega)]

theorem byteAt_storeData (m : RegisterFile) (offset : Nat) (data : List Byte) (i : Nat) :
    (storeData m offset data).byteAt i
      = if offset ≤ i ∧ i < offset + 4 * ((data.length + 3) / 4) ∧ i < windowSize then
          data.getD (i - offset) 0
        else m.byteAt i :=
  byteAt_foldl_store m offset data _ i

/-! ## Aiming -/

/-- The register file once the registers of a cycle are written. -/
def aimed (spiBar byteCount address : Nat) (m : RegisterFile) : RegisterFile :=
  ((m.store .w16 (spiBar + Offset.hsfs)
      (Hsfs.clearStatus (m.load .w16 (spiBar + Offset.hsfs)))).store .w32 (spiBar + Offset.faddr)
    (Faddr.aim address (m.load .w32 (spiBar + Offset.faddr)))).store .w16 (spiBar + Offset.hsfc)
    (Hsfc.startRead byteCount (m.load .w16 (spiBar + Offset.hsfc)))

section Aimed

variable {spiBar byteCount address : Nat} (fits : spiBar + sequencerSize ≤ windowSize)
  (m : RegisterFile)

include fits

theorem load_hsfs_aimed :
    (aimed spiBar byteCount address m).load .w16 (spiBar + Offset.hsfs)
      = Hsfs.clearStatus (m.load .w16 (spiBar + Offset.hsfs)) := by
  unfold sequencerSize at fits
  rw [aimed, RegisterFile.load_store_disjoint (by simp only [Offset.hsfc, Offset.hsfs, Width.bytes]; omega),
    RegisterFile.load_store_disjoint (by simp only [Offset.faddr, Offset.hsfs, Width.bytes]; omega),
    RegisterFile.load_store_same (by simp only [Offset.hsfs, Width.bytes]; omega)]

theorem load_faddr_aimed :
    (aimed spiBar byteCount address m).load .w32 (spiBar + Offset.faddr)
      = Faddr.aim address (m.load .w32 (spiBar + Offset.faddr)) := by
  unfold sequencerSize at fits
  rw [aimed, RegisterFile.load_store_disjoint (by simp only [Offset.hsfc, Offset.faddr, Width.bytes]; omega),
    RegisterFile.load_store_same (by simp only [Offset.faddr, Width.bytes]; omega)]

theorem load_hsfc_aimed :
    (aimed spiBar byteCount address m).load .w16 (spiBar + Offset.hsfc)
      = Hsfc.startRead byteCount (m.load .w16 (spiBar + Offset.hsfc)) := by
  unfold sequencerSize at fits
  rw [aimed, RegisterFile.load_store_same (by simp only [Offset.hsfc, Width.bytes]; omega)]

omit fits in
/-- Only HSFS, HSFC and FADDR are written, and they lie side by side. -/
theorem byteAt_aimed {i : Nat}
    (outside : ¬ (spiBar + Offset.hsfs ≤ i ∧ i < spiBar + Offset.faddr + 4)) :
    (aimed spiBar byteCount address m).byteAt i = m.byteAt i := by
  simp only [Offset.hsfs, Offset.faddr] at outside
  rw [aimed, RegisterFile.byteAt_store, if_neg (by simp only [Offset.hsfc, Width.bytes]; omega),
    RegisterFile.byteAt_store, if_neg (by simp only [Offset.faddr, Width.bytes]; omega),
    RegisterFile.byteAt_store, if_neg (by simp only [Offset.hsfs, Width.bytes]; omega)]

theorem cycleAddress_aimed (small : address < flashAddressSpace) :
    cycleAddress spiBar (aimed spiBar byteCount address m) = address := by
  rw [cycleAddress, load_faddr_aimed fits, Faddr.value_aim small]

theorem cycleLength_aimed (positive : 0 < byteCount) (few : byteCount ≤ 64) :
    cycleLength spiBar (aimed spiBar byteCount address m) = byteCount := by
  rw [cycleLength, load_hsfc_aimed fits, Hsfc.value_startRead positive few]

end Aimed

/-! ## Completing -/

theorem cycleLength_le (spiBar : Nat) (m : RegisterFile) : cycleLength spiBar m ≤ 64 := by
  have small : ((field 13 8).value (m.load .w16 (spiBar + Offset.hsfc))).toNat < 2 ^ 6 := by
    rw [Field.value, BitVec.toNat_setWidth]
    exact Nat.lt_of_le_of_lt (Nat.mod_le _ _) (BitVec.isLt _)
  unfold cycleLength
  omega

section Completed

variable {spiBar : Nat} (fits : spiBar + sequencerSize ≤ windowSize) (flash : Flash)
  (errors : List Nat) (m : RegisterFile)

include fits

theorem load_hsfs_completeCycle :
    (completeCycle spiBar flash errors m).load .w16 (spiBar + Offset.hsfs)
      = statusAfter (errors.contains (cycleAddress spiBar m))
          (m.load .w16 (spiBar + Offset.hsfs)) := by
  unfold sequencerSize at fits
  rw [completeCycle, RegisterFile.load_store_disjoint (by simp only [Offset.hsfc, Offset.hsfs, Width.bytes]; omega),
    RegisterFile.load_store_same (by simp only [Offset.hsfs, Width.bytes]; omega)]
  refine congrArg _ (RegisterFile.load_congr ?_)
  intro i low high
  simp only [Offset.hsfs, Width.bytes] at low high
  rw [byteAt_storeData, if_neg (by simp only [Offset.fdata]; omega)]

theorem load_hsfc_completeCycle :
    (completeCycle spiBar flash errors m).load .w16 (spiBar + Offset.hsfc)
      = (m.load .w16 (spiBar + Offset.hsfc) : BitVec 16) &&& ~~~1#16 := by
  unfold sequencerSize at fits
  rw [completeCycle, RegisterFile.load_store_same (by simp only [Offset.hsfc, Width.bytes]; omega)]

omit fits in
/-- Only HSFS, HSFC and the data registers that the cycle fills are written. -/
theorem byteAt_completeCycle {i : Nat}
    (status : ¬ (spiBar + Offset.hsfs ≤ i ∧ i < spiBar + Offset.hsfc + 2))
    (data : ¬ (spiBar + Offset.fdata ≤ i ∧
      i < spiBar + Offset.fdata + 4 * ((cycleLength spiBar m + 3) / 4))) :
    (completeCycle spiBar flash errors m).byteAt i = m.byteAt i := by
  simp only [Offset.hsfs, Offset.hsfc] at status
  rw [completeCycle, RegisterFile.byteAt_store, if_neg (by simp only [Offset.hsfc, Width.bytes]; omega),
    RegisterFile.byteAt_store, if_neg (by simp only [Offset.hsfs, Width.bytes]; omega),
    byteAt_storeData, Flash.length_slice, if_neg (fun inside => data ⟨inside.1, inside.2.1⟩)]

omit fits in
theorem load_faddr_completeCycle :
    (completeCycle spiBar flash errors m).load .w32 (spiBar + Offset.faddr)
      = m.load .w32 (spiBar + Offset.faddr) := by
  apply RegisterFile.load_congr
  intro i low high
  simp only [Offset.faddr, Width.bytes] at low high
  apply byteAt_completeCycle
  · simp only [Offset.hsfs, Offset.hsfc]
    omega
  · simp only [Offset.fdata]
    omega

/-- The data registers that a cycle fills hold the flash, and zeros after it. -/
theorem byteAt_completeCycle_data {i : Nat} (filled : i < 4 * ((cycleLength spiBar m + 3) / 4)) :
    (completeCycle spiBar flash errors m).byteAt (spiBar + Offset.fdata + i)
      = if i < cycleLength spiBar m then flash.byteAt (cycleAddress spiBar m + i) else 0 := by
  have few := cycleLength_le spiBar m
  unfold sequencerSize at fits
  have covered : spiBar + Offset.fdata ≤ spiBar + Offset.fdata + i ∧
      spiBar + Offset.fdata + i < spiBar + Offset.fdata + 4 * ((cycleLength spiBar m + 3) / 4) ∧
      spiBar + Offset.fdata + i < windowSize := by
    unfold Offset.fdata
    omega
  have place : spiBar + Offset.fdata + i - (spiBar + Offset.fdata) = i := by omega
  rw [completeCycle, RegisterFile.byteAt_store, if_neg (by simp only [Offset.fdata, Offset.hsfc, Width.bytes]; omega),
    RegisterFile.byteAt_store, if_neg (by simp only [Offset.fdata, Offset.hsfs, Width.bytes]; omega),
    byteAt_storeData, Flash.length_slice, if_pos covered, place, Flash.getD_slice]

/-- The data registers hold the flash from the address of the cycle on. -/
theorem loadBytes_completeCycle :
    (completeCycle spiBar flash errors m).loadBytes (spiBar + Offset.fdata) (cycleLength spiBar m)
      = flash.slice (cycleAddress spiBar m) (cycleLength spiBar m) := by
  apply List.map_congr_left
  intro i member
  have inside : i < cycleLength spiBar m := List.mem_range.1 member
  rw [byteAt_completeCycle_data fits flash errors m (by omega), if_pos inside]

end Completed

end Controller

end FlashDump
