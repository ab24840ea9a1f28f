import FlashDump.Proofs.Machine.Accesses
import FlashDump.Proofs.Machine.Stores

/-!
# A write, byte by byte

Here a write to the controller is described by the bytes of the window before and after it, and
by nothing else.  `Write.over` stores the bytes of the write.  If these bytes ask for a cycle, it
is the cycle that they describe, whatever they replaced: `Controller.targetOf` is its address and
`Controller.lengthOf` its length.  `Controller.CycleOver` says what a cycle that ends makes of
the bytes, and `Controller.Written` says all that a write does.

The rest is about many writes.  How many cycles they start can be told from the writes alone
(`Controller.cycles_writeAll`), since a cycle starts none itself.
-/

namespace FlashDump

open FlashDump.Bits
open FlashDump.Register

/-- The bytes of a window once a write is stored, given the bytes before. -/
def Write.over (w : Write) (before : Nat → Byte) (i : Nat) : Byte :=
  if w.Covers i then w.value.extractLsb' (8 * (i - w.offset)) 8 else before i

theorem Write.over_of_covers {w : Write} {before : Nat → Byte} {i : Nat} (covered : w.Covers i) :
    w.over before i = w.value.extractLsb' (8 * (i - w.offset)) 8 :=
  if_pos covered

theorem RegisterFile.byteAt_storeAll_one {w : Write} (inside : w.offset + w.width.bytes ≤ windowSize)
    (m : RegisterFile) : (m.storeAll [w]).byteAt = w.over m.byteAt := by
  funext i
  rw [storeAll, List.foldl_cons, List.foldl_nil, byteAt_store, Write.over]
  by_cases covered : w.Covers i
  · rw [if_pos ⟨covered.1, covered.2, Nat.lt_of_lt_of_le covered.2 inside⟩, if_pos covered]
  · rw [if_neg (fun within => covered ⟨within.1, within.2.1⟩), if_neg covered]

namespace Controller

/-! ## Cycles -/

/-- Bits 24:0 of FADDR. -/
def targetOf (spiBar : Nat) (bytes : Nat → Byte) : Nat :=
  LittleEndian.number [bytes (spiBar + 8), bytes (spiBar + 9), bytes (spiBar + 10),
    bytes (spiBar + 11)] % 2 ^ 25

/-- Bits 13:8 of HSFC, and one more. -/
def lengthOf (spiBar : Nat) (bytes : Nat → Byte) : Nat := (bytes (spiBar + 7)).toNat % 2 ^ 6 + 1

theorem cycleAddress_eq (spiBar : Nat) (m : RegisterFile) :
    cycleAddress spiBar m = targetOf spiBar m.byteAt := by
  have word : (m.load .w32 (spiBar + Offset.faddr)).toNat
      = LittleEndian.number [m.byteAt (spiBar + 8), m.byteAt (spiBar + 9), m.byteAt (spiBar + 10),
          m.byteAt (spiBar + 11)] % 2 ^ 32 := rfl
  rw [cycleAddress, Field.value, BitVec.toNat_setWidth, BitVec.extractLsb'_toNat, targetOf]
  change (BitVec.toNat _ >>> 0) % 2 ^ 25 % 2 ^ 32 = _
  rw [word, Nat.shiftRight_zero]
  omega

theorem cycleLength_eq (spiBar : Nat) (m : RegisterFile) :
    cycleLength spiBar m = lengthOf spiBar m.byteAt := by
  have word : (m.load .w16 (spiBar + Offset.hsfc)).toNat
      = (256 * (256 * 0 + (m.byteAt (spiBar + 7)).toNat) + (m.byteAt (spiBar + 6)).toNat) % 2 ^ 16 :=
    rfl
  have low := (m.byteAt (spiBar + 6)).isLt
  rw [cycleLength, Field.value, BitVec.toNat_setWidth, BitVec.extractLsb'_toNat, lengthOf]
  change (BitVec.toNat _ >>> 8) % 2 ^ 6 % 2 ^ 16 + 1 = _
  rw [word, Nat.shiftRight_eq_div_pow]
  omega

/-- The status bits are in the first byte. -/
theorem statusAfter_low (failed : Bool) (hsfs : BitVec 16) :
    (statusAfter failed hsfs).extractLsb' 0 8
      = hsfs.extractLsb' 0 8 ||| 1 ||| (if failed then 2 else 0) := by
  rw [statusAfter, BitVec.extractLsb'_or, BitVec.extractLsb'_or]
  cases failed <;> rfl

theorem statusAfter_high (failed : Bool) (hsfs : BitVec 16) :
    (statusAfter failed hsfs).extractLsb' 8 8 = hsfs.extractLsb' 8 8 := by
  rw [statusAfter, BitVec.extractLsb'_or, BitVec.extractLsb'_or]
  cases failed <;> exact BitVec.or_zero.trans BitVec.or_zero

/-- What a cycle that ends makes of the bytes of a window. -/
structure CycleOver (c : Controller) (before after : Nat → Byte) : Prop where
  /-- As many dwords as there are data for are filled.  The last is filled up with zeros. -/
  data : ∀ i < (lengthOf c.spiBar before + 3) / 4, ∀ j < 4,
    after (c.spiBar + 0x10 + 4 * i + j)
      = if 4 * i + j < lengthOf c.spiBar before then
          c.flash.byteAt (targetOf c.spiBar before + 4 * i + j)
        else 0
  /-- FDONE is set, and FCERR too if the address is one that fails. -/
  status : after (c.spiBar + 4)
    = before (c.spiBar + 4) ||| 1 ||| (if targetOf c.spiBar before ∈ c.errors then 2 else 0)
  /-- FGO is cleared. -/
  control : after (c.spiBar + 6) = before (c.spiBar + 6) &&& 0xfe
  rest : ∀ i, i ≠ c.spiBar + 4 → i ≠ c.spiBar + 6 →
    ¬ (c.spiBar + 0x10 ≤ i ∧ i < c.spiBar + 0x10 + 4 * ((lengthOf c.spiBar before + 3) / 4)) →
    after i = before i

section CycleOver

variable {c : Controller} (fits : c.spiBar + sequencerSize ≤ windowSize) (m : RegisterFile)

include fits

/-- The first byte of HSFS has the status bits. -/
theorem byteAt_hsfs_completeCycle :
    (completeCycle c.spiBar c.flash c.errors m).byteAt (c.spiBar + 4)
      = m.byteAt (c.spiBar + 4) ||| 1
        ||| (if targetOf c.spiBar m.byteAt ∈ c.errors then 2 else 0) := by
  have first (n : RegisterFile) :
      n.byteAt (c.spiBar + 4) = (n.load .w16 (c.spiBar + Offset.hsfs)).extractLsb' 0 8 :=
    n.byteAt_eq_load .w16 (c.spiBar + Offset.hsfs) 0 (by decide)
  rw [first, load_hsfs_completeCycle fits, statusAfter_low, ← first, cycleAddress_eq]
  simp only [List.contains_iff_mem]

theorem byteAt_hsfs_high_completeCycle :
    (completeCycle c.spiBar c.flash c.errors m).byteAt (c.spiBar + 5) = m.byteAt (c.spiBar + 5) := by
  have second (n : RegisterFile) :
      n.byteAt (c.spiBar + 5) = (n.load .w16 (c.spiBar + Offset.hsfs)).extractLsb' 8 8 :=
    n.byteAt_eq_load .w16 (c.spiBar + Offset.hsfs) 1 (by decide)
  rw [second, load_hsfs_completeCycle fits, statusAfter_high, ← second]

/-- The first byte of HSFC has FGO. -/
theorem byteAt_hsfc_completeCycle :
    (completeCycle c.spiBar c.flash c.errors m).byteAt (c.spiBar + 6)
      = m.byteAt (c.spiBar + 6) &&& 0xfe := by
  have first (n : RegisterFile) :
      n.byteAt (c.spiBar + 6) = (n.load .w16 (c.spiBar + Offset.hsfc)).extractLsb' 0 8 :=
    n.byteAt_eq_load .w16 (c.spiBar + Offset.hsfc) 0 (by decide)
  rw [first, load_hsfc_completeCycle fits, BitVec.extractLsb'_and, first]
  rfl

theorem byteAt_hsfc_high_completeCycle :
    (completeCycle c.spiBar c.flash c.errors m).byteAt (c.spiBar + 7) = m.byteAt (c.spiBar + 7) := by
  have second (n : RegisterFile) :
      n.byteAt (c.spiBar + 7) = (n.load .w16 (c.spiBar + Offset.hsfc)).extractLsb' 8 8 :=
    n.byteAt_eq_load .w16 (c.spiBar + Offset.hsfc) 1 (by decide)
  rw [second, load_hsfc_completeCycle fits, BitVec.extractLsb'_and, second]
  exact BitVec.and_allOnes

theorem cycleOver : c.CycleOver m.byteAt (completeCycle c.spiBar c.flash c.errors m).byteAt := by
  constructor
  case data =>
    intro i some_dword j low
    have place : c.spiBar + 0x10 + 4 * i + j = c.spiBar + Offset.fdata + (4 * i + j) :=
      Nat.add_assoc _ _ _
    rw [← cycleLength_eq] at some_dword
    rw [place, byteAt_completeCycle_data fits c.flash c.errors m (by omega), cycleLength_eq,
      cycleAddress_eq, Nat.add_assoc]
  case status => exact byteAt_hsfs_completeCycle fits m
  case control => exact byteAt_hsfc_completeCycle fits m
  case rest =>
    intro i status control data
    -- The bytes next to the two that change belong to registers that are stored.
    by_cases high : i = c.spiBar + 5
    · rw [high, byteAt_hsfs_high_completeCycle fits]
    · by_cases high' : i = c.spiBar + 7
      · rw [high', byteAt_hsfc_high_completeCycle fits]
      · rw [← cycleLength_eq] at data
        refine byteAt_completeCycle c.flash c.errors m ?_ data
        unfold Offset.hsfs Offset.hsfc
        omega

end CycleOver

/-! ## Writes -/

/-- Whether a write starts a cycle: it covers the first byte of HSFC and leaves FGO set. -/
def Starts (c : Controller) (w : Write) : Prop :=
  w.offset ≤ c.spiBar + 6 ∧ c.spiBar + 6 < w.offset + w.width.bytes ∧
    (w.over c.memory.byteAt (c.spiBar + 6)).getLsbD 0 = true

theorem starts_iff (c : Controller) (w : Write) : c.Starts w ↔ w.starts (c.spiBar + 6) = true := by
  rw [Write.starts, Bool.and_eq_true, decide_eq_true_eq, Starts, ← and_assoc]
  refine and_congr_right fun covered => ?_
  rw [Write.over_of_covers covered, BitVec.getLsbD_extractLsb', Nat.add_zero]
  simp only [Nat.zero_lt_succ, decide_true, Bool.true_and]

/-- What becomes of a controller by a write. -/
structure Written (c : Controller) (w : Write) (d : Controller) : Prop where
  /-- There is one entry more, also if a cycle was run. -/
  logged : d.writes = c.writes.push w
  /-- Neither the flash nor the faults are touched. -/
  kin : c.Kin d
  started : c.Starts w → d.cycles = c.cycles + 1 ∧ d.pending = c.delay
  idle : ¬ c.Starts w → d.cycles = c.cycles ∧ d.pending = c.pending
  /-- Without a cycle that ends, the bytes are stored and that is all. -/
  stored : ¬ c.Starts w ∨ c.stuck = true → d.memory.byteAt = w.over c.memory.byteAt
  completed : c.Starts w → c.stuck = false → c.CycleOver (w.over c.memory.byteAt) d.memory.byteAt

theorem write_of_starts {c : Controller} {w : Write}
    (inside : w.offset + w.width.bytes ≤ windowSize) (starts : c.Starts w) :
    c.write w.width w.offset w.value = (c.stored [w]).runCycle :=
  (write_eq inside c).trans (if_pos ((c.starts_iff w).1 starts))

theorem write_of_not_starts {c : Controller} {w : Write}
    (inside : w.offset + w.width.bytes ≤ windowSize) (idle : ¬ c.Starts w) :
    c.write w.width w.offset w.value = c.stored [w] :=
  (write_eq inside c).trans (if_neg (mt (c.starts_iff w).2 idle))

theorem written (c : Controller) (fits : c.spiBar + sequencerSize ≤ windowSize) {w : Write}
    (inside : w.offset + w.width.bytes ≤ windowSize) :
    c.Written w (c.write w.width w.offset w.value) := by
  have bytes : (c.stored [w]).memory.byteAt = w.over c.memory.byteAt :=
    RegisterFile.byteAt_storeAll_one inside c.memory
  constructor
  case logged => exact c.writes_write w.width w.offset w.value
  case kin => exact c.kin_write w.width w.offset w.value
  case started =>
    intro starts
    rw [write_of_starts inside starts]
    exact ⟨rfl, rfl⟩
  case idle =>
    intro idle
    rw [write_of_not_starts inside idle]
    exact ⟨rfl, rfl⟩
  case stored =>
    intro ends
    by_cases starts : c.Starts w
    · have stuck : (c.stored [w]).stuck = true := ends.resolve_left (not_not_intro starts)
      rw [write_of_starts inside starts, runCycle]
      simp only [stuck, if_true]
      exact bytes
    · rw [write_of_not_starts inside starts]
      exact bytes
  case completed =>
    intro starts ends
    have memory : (c.stored [w]).runCycle.memory
        = completeCycle c.spiBar c.flash c.errors (c.stored [w]).memory := by
      have ends : (c.stored [w]).stuck = false := ends
      rw [runCycle]
      simp only [ends, if_false, Bool.false_eq_true]
      rfl
    rw [write_of_starts inside starts, memory, ← bytes]
    exact cycleOver fits (c.stored [w]).memory

/-! ## Runs -/

theorem writeAll_append (c : Controller) (writes more : List Write) :
    c.writeAll (writes ++ more) = (c.writeAll writes).writeAll more :=
  List.foldl_append

theorem kin_writeAll (c : Controller) (writes : List Write) : c.Kin (c.writeAll writes) := by
  induction writes generalizing c with
  | nil => exact .refl c
  | cons w writes ih =>
      exact (c.kin_write w.width w.offset w.value).trans (ih (c.write w.width w.offset w.value))

theorem writes_writeAll (c : Controller) (writes : List Write) :
    (c.writeAll writes).writes = c.writes ++ writes.toArray := by
  induction writes generalizing c with
  | nil => exact (Array.append_empty).symm
  | cons w writes ih =>
      refine (ih (c.write w.width w.offset w.value)).trans ?_
      rw [writes_write, Array.push_eq_append, Array.append_assoc]
      simp

theorem cycles_write {c : Controller} {w : Write} (inside : w.offset + w.width.bytes ≤ windowSize) :
    (c.write w.width w.offset w.value).cycles
      = c.cycles + if w.starts (c.spiBar + 6) then 1 else 0 := by
  rw [write_eq inside]
  change (if w.starts (c.spiBar + 6) = true then _ else _ : Controller).cycles = _
  split <;> rfl

/-- The writes tell how many cycles they start. -/
theorem cycles_writeAll {writes : List Write} (c : Controller)
    (inside : ∀ w ∈ writes, w.offset + w.width.bytes ≤ windowSize) :
    (c.writeAll writes).cycles = c.cycles + writes.countP (Write.starts (c.spiBar + 6)) := by
  induction writes generalizing c with
  | nil => rfl
  | cons w writes ih =>
      have rest := ih (c.write w.width w.offset w.value)
        fun w member => inside w (List.mem_cons_of_mem _ member)
      rw [(c.kin_write w.width w.offset w.value).spiBar] at rest
      refine rest.trans ?_
      rw [cycles_write (inside w List.mem_cons_self), List.countP_cons]
      omega

/-- A write stores its bytes and, if these ask for it, runs the cycle that they describe.  So it
is for every write of a row, and the row alone tells how many cycles there are. -/
theorem write_runs_cycle (c : Controller) (fits : c.spiBar + 0x50 ≤ 0x4000) :
    (∀ w : Write, w.offset + w.width.bytes ≤ 0x4000 →
      c.Written w (c.write w.width w.offset w.value)) ∧
    ∀ writes : List Write, (∀ w ∈ writes, w.offset + w.width.bytes ≤ 0x4000) →
      (c.writeAll writes).writes = c.writes ++ writes.toArray ∧
      (c.writeAll writes).cycles = c.cycles + writes.countP (Write.starts (c.spiBar + 6)) ∧
      c.Kin (c.writeAll writes) ∧
      ∀ before w after, writes = before ++ w :: after →
        (c.writeAll before).Written w (c.writeAll (before ++ [w])) := by
  refine ⟨fun w inside => written c fits inside, ?_⟩
  intro writes inside
  refine ⟨writes_writeAll c writes, cycles_writeAll c inside, kin_writeAll c writes, ?_⟩
  intro before w after split
  have there : (c.writeAll before).spiBar + sequencerSize ≤ windowSize := by
    rw [(kin_writeAll c before).spiBar]
    exact fits
  have member : w ∈ writes := by
    rw [split]
    exact List.mem_append_right before List.mem_cons_self
  rw [writeAll_append]
  exact written (c.writeAll before) there (inside w member)

/-- One write of 64 bits that covers HSFS, HSFC and FADDR reads five bytes from address 6 on.  The
flash has two of them. -/
theorem write_runs_cycle_past_the_end :
    let c := fresh 0x3800 (.pattern 8 1 0 0)
    let d := c.write .w64 0x3804 0x0000000604010000
    c.Starts ⟨.w64, 0x3804, 0x0000000604010000⟩ ∧ d.cycles = 1 ∧
      d.memory.byteAt 0x3811 = 7 ∧ d.memory.byteAt 0x3812 = 0xff ∧
      d.memory.byteAt 0x3814 = 0xff ∧ d.memory.byteAt 0x3815 = 0 ∧
      d.memory.byteAt 0x3804 = 1 ∧ d.memory.byteAt 0x3806 = 0 ∧ d.memory.byteAt 0x3808 = 6 := by
  intro c d
  have starts : c.Starts ⟨.w64, 0x3804, 0x0000000604010000⟩ := ⟨by decide, by decide, by decide⟩
  have written : c.Written ⟨.w64, 0x3804, 0x0000000604010000⟩ d :=
    (write_runs_cycle c (by decide)).1 ⟨.w64, 0x3804, 0x0000000604010000⟩ (by decide)
  clear_value d
  have cycle := written.completed starts rfl
  refine ⟨starts, (written.started starts).1, ?_⟩
  refine ⟨(cycle.data 0 (by decide) 1 (by decide)).trans (by decide),
    (cycle.data 0 (by decide) 2 (by decide)).trans (by decide),
    (cycle.data 1 (by decide) 0 (by decide)).trans (by decide),
    (cycle.data 1 (by decide) 1 (by decide)).trans (by decide),
    cycle.status.trans (by decide), cycle.control.trans (by decide), ?_⟩
  exact (cycle.rest 0x3808 (by decide) (by decide) (by decide)).trans (by decide)

end Controller

end FlashDump
