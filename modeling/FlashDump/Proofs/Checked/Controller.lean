import FlashDump.Machine.Setup
import FlashDump.Proofs.Checked.Register
import FlashDump.Proofs.Machine.Cycle

/-!
# The checked controller

The simulated controller with every operation checked.  An access takes a slice of the register
file, which ends at the end of the window.  A cycle takes its address and its length out of
registers, adds to both, and takes slices of its own.

Nothing of it faults as long as the access lies in the window and so do the registers of the
sequencer.  What they hold does not matter, and neither does the flash.  The numbers by which a
machine counts its cycles and its writes are not words and have no bound.
-/

namespace FlashDump.Checked

open FlashDump.Register

variable {σ : Type}

/-! ## Memory -/

/-- Take the bytes of an access out of the register file. -/
def span (width : Width) (offset : Nat) : Checked σ Unit := do
  slice windowSize offset (← add 64 offset width.bytes)

def load (width : Width) (offset : Nat) : Checked Controller (BitVec width.bits) := do
  span width offset
  return (← get).memory.load width offset

def store (width : Width) (offset : Nat) (value : BitVec width.bits) : Checked Controller Unit := do
  span width offset
  modify (.preset width offset value)

/-- The window offset of an SPI register. -/
def register (offset : Nat) : Checked Controller Nat := do
  add 64 (← get).spiBar offset

def loadRegister (width : Width) (offset : Nat) : Checked Controller (BitVec width.bits) := do
  load width (← register offset)

def storeRegister (width : Width) (offset : Nat) (value : BitVec width.bits) :
    Checked Controller Unit := do
  store width (← register offset) value

theorem word_of_inside {n : Nat} (inside : n ≤ windowSize) : n < 2 ^ 64 :=
  Nat.lt_of_le_of_lt inside (by decide)

section Memory

variable {width : Width} {offset : Nat} (inside : offset + width.bytes ≤ windowSize)

include inside

theorem span_eq : (span width offset : Checked σ Unit) = pure () := by
  rw [span, add_eq (word_of_inside inside), pure_bind, slice_eq (Nat.le_add_right _ _) inside]

theorem load_ok (c : Controller) :
    (load width offset).run c = .ok (c.memory.load width offset) c := by
  rw [load, span_eq inside, pure_bind]
  rfl

theorem store_ok (value : BitVec width.bits) (c : Controller) :
    (store width offset value).run c = .ok () (c.preset width offset value) := by
  rw [store, span_eq inside, pure_bind]
  rfl

end Memory

section Register

variable {c : Controller} {width : Width} {offset : Nat}
  (inside : c.offset offset + width.bytes ≤ windowSize)

include inside

theorem register_ok : (register offset).run c = .ok (c.offset offset) c := by
  have word := word_of_inside (Nat.le_trans (Nat.le_add_right _ _) inside)
  rw [register, bind_of_ok (EStateM.run_get c), add_eq word]
  rfl

theorem loadRegister_ok :
    (loadRegister width offset).run c = .ok (c.memory.load width (c.offset offset)) c := by
  rw [loadRegister, bind_of_ok (register_ok inside), load_ok inside]

theorem storeRegister_ok (value : BitVec width.bits) :
    (storeRegister width offset value).run c = .ok () (c.preset width (c.offset offset) value) := by
  rw [storeRegister, bind_of_ok (register_ok inside), store_ok inside]

end Register

/-! ## Cycles -/

/-- Store a dword of the data, the last of which is filled up with zeros. -/
def storeWord (data : List Byte) (i : Nat) : Checked Controller Unit := do
  slice 4 0 ((data.drop (4 * i)).take 4).length
  storeRegister .w32 (← add 16 Offset.fdata (← mul 16 4 i))
    (LittleEndian.word 32 ((data.drop (4 * i)).take 4))

/-- The status after a cycle. -/
def statusAfter (failed : Bool) (hsfs : BitVec 16) : Checked σ (BitVec 16) := do
  return hsfs ||| (← flag 0 true) ||| (← flag 1 failed)

/-- Fill the flash data registers, show the end of the cycle and clear the bit that started it. -/
def endCycle (failed : Bool) (hsfc : BitVec 16) (data : List Byte) : Checked Controller Unit := do
  forM (List.range ((data.length + 3) / 4)) (storeWord data)
  storeRegister .w16 Offset.hsfs (← statusAfter failed (← loadRegister .w16 Offset.hsfs))
  storeRegister .w16 Offset.hsfc (hsfc &&& ~~~1#16)

/-- Run the cycle that the registers describe. -/
def runCycle : Checked Controller Unit := do
  let hsfc ← loadRegister .w16 Offset.hsfc
  let address ← value 24 0 (← loadRegister .w32 Offset.faddr)
  let count ← add 64 (← value 13 8 hsfc).toNat 1
  let c ← get
  let data ← (List.range count).mapM fun i => do
    return c.flash.byteAt (← add 64 address.toNat i)
  set { c with pending := c.delay, cycles := c.cycles + 1 }
  if c.stuck then pure () else endCycle (c.errors.contains address.toNat) hsfc data

theorem statusAfter_eq (failed : Bool) (hsfs : BitVec 16) :
    (statusAfter failed hsfs : Checked σ (BitVec 16)) = pure (Controller.statusAfter failed hsfs) := by
  simp (disch := decide) only [statusAfter, flag_eq, pure_bind]
  rfl

theorem offset_preset (width : Width) (offset : Nat) (value : BitVec width.bits) (c : Controller)
    (register : Nat) : (c.preset width offset value).offset register = c.offset register :=
  rfl

/-- Stores of dwords change nothing but the memory. -/
theorem foldl_preset (offset : Nat → Nat) (word : Nat → BitVec 32) (l : List Nat) (c : Controller) :
    l.foldl (fun c i => c.preset .w32 (offset i) (word i)) c
      = { c with memory := l.foldl (fun m i => m.store .w32 (offset i) (word i)) c.memory } := by
  induction l generalizing c with
  | nil => rfl
  | cons i l ih =>
      rw [List.foldl_cons, ih, List.foldl_cons]
      rfl

/-- No address of a cycle is past what a word holds. -/
theorem data_eq (flash : Flash) {address count : Nat} (low : address < flashAddressSpace)
    (few : count ≤ 64) :
    ((List.range count).mapM fun i => do return flash.byteAt (← add 64 address i) :
      Checked σ (List Byte)) = pure (flash.slice address count) := by
  apply mapM_of_pure
  intro i member
  have small : address + i < 2 ^ 64 := by
    have := List.mem_range.1 member
    unfold flashAddressSpace at low
    omega
  rw [add_eq small, pure_bind]

section Cycle

variable {c : Controller} (fits : c.spiBar + sequencerSize ≤ windowSize)

include fits

/-- The registers of a cycle lie in the window. -/
theorem inside_of_fits {register : Nat} {width : Width} (low : register + width.bytes ≤ 0x50) :
    c.offset register + width.bytes ≤ windowSize := by
  unfold sequencerSize at fits
  unfold Controller.offset
  omega

theorem storeWord_ok (data : List Byte) {i : Nat} (few : i < fdataCount) :
    (storeWord data i).run c
      = .ok () (c.preset .w32 (c.spiBar + Offset.fdata + 4 * i)
          (LittleEndian.word 32 ((data.drop (4 * i)).take 4))) := by
  unfold fdataCount at few
  have short : ((data.drop (4 * i)).take 4).length ≤ 4 := List.length_take_le _ _
  have times : 4 * i < 2 ^ 16 := by omega
  have low : Offset.fdata + 4 * i + Width.w32.bytes ≤ 0x50 := by
    simp only [Offset.fdata, Width.bytes]
    omega
  have sum : Offset.fdata + 4 * i < 2 ^ 16 := by omega
  have place : c.offset (Offset.fdata + 4 * i) = c.spiBar + Offset.fdata + 4 * i :=
    (Nat.add_assoc _ _ _).symm
  rw [storeWord, slice_eq (Nat.zero_le _) short, pure_bind, mul_eq times, pure_bind, add_eq sum,
    pure_bind, storeRegister_ok (inside_of_fits fits low), place]

theorem forM_storeWord_ok {data : List Byte} (few : data.length ≤ 64) :
    (forM (List.range ((data.length + 3) / 4)) (storeWord data)).run c
      = .ok () { c with memory := Controller.storeData c.memory (c.spiBar + Offset.fdata) data } := by
  have turn : ∀ i ∈ List.range ((data.length + 3) / 4), ∀ d : Controller, d.spiBar = c.spiBar →
      (storeWord data i).run d
        = .ok () (d.preset .w32 (c.spiBar + Offset.fdata + 4 * i)
            (LittleEndian.word 32 ((data.drop (4 * i)).take 4))) ∧
      (d.preset .w32 (c.spiBar + Offset.fdata + 4 * i)
        (LittleEndian.word 32 ((data.drop (4 * i)).take 4))).spiBar = c.spiBar := by
    intro i member d same
    have below : i < fdataCount := by
      have := List.mem_range.1 member
      unfold fdataCount
      omega
    rw [← same] at fits ⊢
    exact ⟨storeWord_ok fits data below, rfl⟩
  rw [forM_of_ok turn rfl, foldl_preset]
  rfl

theorem endCycle_ok (failed : Bool) (hsfc : BitVec 16) {data : List Byte} (few : data.length ≤ 64) :
    (endCycle failed hsfc data).run c = .ok ()
      { c with
        memory :=
          let m := Controller.storeData c.memory (c.spiBar + Offset.fdata) data
          (m.store .w16 (c.spiBar + Offset.hsfs)
            (Controller.statusAfter failed (m.load .w16 (c.spiBar + Offset.hsfs)))).store .w16
            (c.spiBar + Offset.hsfc) (hsfc &&& ~~~1#16) } := by
  have status : c.offset Offset.hsfs + Width.w16.bytes ≤ windowSize := inside_of_fits fits (by decide)
  have control : c.offset Offset.hsfc + Width.w16.bytes ≤ windowSize := inside_of_fits fits (by decide)
  rw [endCycle, bind_of_ok (forM_storeWord_ok fits few)]
  generalize filled : Controller.storeData c.memory (c.spiBar + Offset.fdata) data = m
  have same (register : Nat) : { c with memory := m }.offset register = c.offset register := rfl
  rw [← same] at status control
  rw [bind_of_ok (loadRegister_ok status), statusAfter_eq, pure_bind,
    bind_of_ok (storeRegister_ok status _)]
  rw [← offset_preset .w16 ({ c with memory := m }.offset Offset.hsfs)] at control
  rw [storeRegister_ok control, offset_preset]
  rfl

theorem runCycle_ok : runCycle.run c = .ok () c.runCycle := by
  have control : c.offset Offset.hsfc + Width.w16.bytes ≤ windowSize := inside_of_fits fits (by decide)
  have place : c.offset Offset.faddr + Width.w32.bytes ≤ windowSize := inside_of_fits fits (by decide)
  have few : ((Bits.field 13 8).value (c.memory.load .w16 (c.offset Offset.hsfc))).toNat + 1 ≤ 64 :=
    Controller.cycleLength_le c.spiBar c.memory
  have low : ((Bits.field 24 0).value (c.memory.load .w32 (c.offset Offset.faddr))).toNat
      < flashAddressSpace :=
    Bits.Field.toNat_value_lt (Bits.field 24 0) _
  rw [runCycle, bind_of_ok (loadRegister_ok control), bind_of_ok (loadRegister_ok place),
    value_field rfl rfl (by decide), pure_bind, value_field rfl rfl (by decide), pure_bind,
    add_eq (Nat.lt_of_le_of_lt few (by decide)), pure_bind, bind_of_ok (EStateM.run_get c),
    data_eq c.flash low few, pure_bind, bind_of_ok (EStateM.run_set _ _)]
  have short : (c.flash.slice
      ((Bits.field 24 0).value (c.memory.load .w32 (c.offset Offset.faddr))).toNat
      (((Bits.field 13 8).value (c.memory.load .w16 (c.offset Offset.hsfc))).toNat + 1)).length ≤ 64 := by
    rw [Flash.length_slice]
    exact few
  have after : c.runCycle = { c with
      memory := if c.stuck then c.memory else Controller.completeCycle c.spiBar c.flash c.errors c.memory
      pending := c.delay
      cycles := c.cycles + 1 } := rfl
  by_cases stuck : c.stuck = true
  · rw [if_pos stuck, after, if_pos stuck]
    rfl
  · rw [if_neg stuck, after, if_neg stuck,
      endCycle_ok (c := { c with pending := c.delay, cycles := c.cycles + 1 }) fits _ _ short]
    rfl

end Cycle

/-! ## Accesses -/

/-- Run a cycle, if a write that is now stored starts one. -/
def react (width : Width) (offset : Nat) : Checked Controller Unit := do
  let hsfc ← register Offset.hsfc
  if offset ≤ hsfc then
    if hsfc < (← add 64 offset width.bytes) then
      if ← test 0 (← load .w16 hsfc) then runCycle

def writeAt (width : Width) (offset : Nat) (value : BitVec width.bits) : Checked Controller Unit := do
  modify (.logWrite ⟨width, offset, value⟩)
  store width offset value
  react width offset

/-- Read at an offset.  What hides the end of a cycle is not part of the registers. -/
def readAt (width : Width) (offset : Nat) : Checked Controller (BitVec width.bits) := do
  span width offset
  modifyGet (Controller.read width offset)

/-- Store a word behind the back of the controller. -/
def preset (p : Preset) : Checked Controller Unit := do
  let offset ← if p.relative then register p.offset else pure p.offset
  store p.width offset p.value

/-- The lowest bit of a word is that of its first byte. -/
theorem test_load (m : RegisterFile) (offset : Nat) :
    Bits.test 0 (m.load .w16 offset) = Bits.test 0 (m.byteAt offset) := by
  rw [Bits.test, RegisterFile.getLsbD_load]
  rfl

section Access

variable {c : Controller} {width : Width} {offset : Nat}
  (inside : offset + width.bytes ≤ windowSize)

include inside

/-- Only a write that starts a cycle needs more registers than HSFC. -/
theorem react_of_cycle (control : c.offset Offset.hsfc + Width.w16.bytes ≤ windowSize)
    (cycle : c.starts width offset = true → runCycle.run c = .ok () c.runCycle) :
    (react width offset).run c
      = .ok () (if c.starts width offset then c.runCycle else c) := by
  rw [react, bind_of_ok (register_ok control)]
  rw [Controller.starts] at cycle ⊢
  by_cases before : offset ≤ c.offset Offset.hsfc
  · rw [if_pos before, add_eq (word_of_inside inside), pure_bind]
    by_cases past : c.offset Offset.hsfc < offset + width.bytes
    · rw [if_pos past, bind_of_ok (load_ok control c), test_eq rfl (by decide), pure_bind, test_load]
      cases asked : Bits.test 0 (c.memory.byteAt (c.offset Offset.hsfc)) with
      | false => simp [before, past]
      | true => simpa [before, past, asked] using cycle
    · simp [past]
  · simp [before]

theorem react_ok (fits : c.spiBar + sequencerSize ≤ windowSize) :
    (react width offset).run c
      = .ok () (if c.starts width offset then c.runCycle else c) :=
  react_of_cycle inside (inside_of_fits fits (by decide)) fun _ => runCycle_ok fits

theorem writeAt_ok (fits : c.spiBar + sequencerSize ≤ windowSize) (value : BitVec width.bits) :
    (writeAt width offset value).run c = .ok () (c.write width offset value) := by
  rw [writeAt, bind_of_ok (EStateM.run_modify _ c), bind_of_ok (store_ok inside value _)]
  exact react_ok (c := .preset width offset value (.logWrite ⟨width, offset, value⟩ c)) inside fits

theorem readAt_ok (c : Controller) :
    (readAt width offset).run c = .ok (c.read width offset).1 (c.read width offset).2 := by
  rw [readAt, span_eq inside, pure_bind, EStateM.run_modifyGet]

end Access

theorem preset_ok {c : Controller} {p : Preset}
    (inside : (if p.relative then c.offset p.offset else p.offset) + p.width.bytes ≤ windowSize) :
    (preset p).run c = .ok () (c.applyPreset p) := by
  rw [preset, Controller.applyPreset]
  cases relative : p.relative with
  | false =>
      rw [relative] at inside
      exact store_ok inside p.value c
  | true =>
      rw [relative, if_pos rfl] at inside
      rw [if_pos rfl, bind_of_ok (register_ok inside), store_ok inside]
      rfl

end FlashDump.Checked
