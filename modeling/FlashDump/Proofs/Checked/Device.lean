import FlashDump.Chipset.Record
import FlashDump.Proofs.Checked.Register
import FlashDump.Proofs.Chipset.Layout
import FlashDump.Proofs.Sequencer.Reach
import FlashDump.Proofs.Sequencer.Steps

/-!
# Checked registers of a device

The registers of the window are read and written at offsets that are sums.  The index of a register
in a row is multiplied as well, and before that it is cut to 16 bits.

A checked device may fault at an access outside the window.  One that follows a device
(`Device.Follows`) does nothing else.  Over such a device no register faults, but for an index past
the end of its row.  That is noticed before the device is touched (`readRow_of_past`).
-/

namespace FlashDump

open FlashDump.Register

/-! ## Rows -/

/-- A row of registers that are told apart by an index. -/
inductive RegisterRow where
  | fdata | freg | pr
deriving DecidableEq, Repr

namespace RegisterRow

/-- The offset of the first register. -/
def base : RegisterRow → Nat
  | fdata => Offset.fdata
  | freg => Offset.freg
  | pr => Offset.pr

def count : RegisterRow → Nat
  | fdata => fdataCount
  | freg | pr => regionCount

/-- There is no register with the index. -/
def misuse (row : RegisterRow) (index : Nat) : Misuse :=
  match row with
  | fdata => .fdataIndex index
  | freg => .fregIndex index
  | pr => .prIndex index

theorem fits (row : RegisterRow) : row.base + 4 * row.count ≤ spiSize := by
  cases row <;> decide

end RegisterRow

namespace Checked

variable {σ α : Type}

/-! ## Devices -/

/-- A device whose accesses are checked. -/
structure Device (σ : Type) where
  read : (width : Width) → (offset : Nat) → Checked σ (BitVec width.bits)
  write : (width : Width) → (offset : Nat) → BitVec width.bits → Checked σ Unit

/-- A checked device does what a device does, in the states that are sound, as long as the accesses
lie in the window.  Accesses lead from sound states to sound states. -/
structure Device.Follows (d : Device σ) (m : Mmio σ) (sound : σ → Prop) : Prop where
  read : ∀ {width offset s}, offset + width.bytes ≤ windowSize → sound s →
    (d.read width offset).run s = .ok (m.read width offset s).1 (m.read width offset s).2
  write : ∀ {width offset value s}, offset + width.bytes ≤ windowSize → sound s →
    (d.write width offset value).run s = .ok () (m.write width offset value s)
  sound_read : ∀ {width offset s}, sound s → sound (m.read width offset s).2
  sound_write : ∀ {width offset value s}, sound s → sound (m.write width offset value s)

theorem Device.Follows.sound_of_reaches {d : Device σ} {m : Mmio σ} {sound : σ → Prop}
    (follows : d.Follows m sound) {place : Width → Nat → Prop} {s s' : σ}
    (reaches : m.Reaches place s s') (start : sound s) : sound s' :=
  reaches.preserves sound (fun _ _ _ _ => follows.sound_read) (fun _ _ _ _ _ => follows.sound_write)
    start

theorem Device.Follows.sound_modify {d : Device σ} {m : Mmio σ} {sound : σ → Prop}
    (follows : d.Follows m sound) {width : Width} {offset : Nat}
    {change : BitVec width.bits → BitVec width.bits} {s : σ} (start : sound s) :
    sound (m.modify width offset change s) :=
  follows.sound_write (follows.sound_read start)

/-! ## Registers -/

section Programs

variable (l : Layout) (d : Device σ)

def readRegister (width : Width) (register : Nat) (decode : BitVec width.bits → Checked σ α) :
    Checked σ α := do
  decode (← d.read width (← add 64 l.spiBar register))

def writeRegister (width : Width) (register : Nat) (encode : Checked σ (BitVec width.bits)) :
    Checked σ Unit := do
  let offset ← add 64 l.spiBar register
  d.write width offset (← encode)

/-- Read a register, change its record and write it back. -/
def updateRegister (width : Width) (register : Nat) (decode : BitVec width.bits → Checked σ α)
    (encode : α → Checked σ (BitVec width.bits)) (change : α → Checked σ α) : Checked σ Unit := do
  let r ← change (← readRegister l d width register decode)
  writeRegister l d width register (encode r)

/-- Read a register of a row.  An index past the end of the row is misuse. -/
def readRow (row : RegisterRow) (decode : BitVec 32 → Checked σ α) (index : Nat) : Checked σ α := do
  if row.count ≤ index then throw (.misuse (row.misuse index))
  else readRegister l d .w32 (← add 16 row.base (← mul 16 4 (index % 2 ^ 16))) decode

def readHsfs : Checked σ Hsfs := readRegister l d .w16 Offset.hsfs decodeHsfs

/-- Read SSFC, the low 16 bits first. -/
def readSsfc : Checked σ Ssfc := do
  let low ← readRegister l d .w16 Offset.ssfc pure
  let high ← readRegister l d .w8 (← add 16 Offset.ssfc 2) pure
  decodeSsfc ((← shiftLeft (high.setWidth 32) 16) ||| low.setWidth 32)

/-- Write SSFC, the high 8 bits first. -/
def writeSsfc (r : Ssfc) : Checked σ Unit := do
  let raw ← encodeSsfc r
  writeRegister l d .w8 (← add 16 Offset.ssfc 2) do
    return (← shiftRight raw 16).setWidth 8
  writeRegister l d .w16 Offset.ssfc (pure (raw.setWidth 16))

def writeRecord : WritableRecord → Checked σ Unit
  | .hsfs r => writeRegister l d .w16 Offset.hsfs (encodeHsfs r)
  | .hsfc r => writeRegister l d .w16 Offset.hsfc (encodeHsfc r)
  | .faddr r => writeRegister l d .w32 Offset.faddr (encodeFaddr r)
  | .ssfs r => writeRegister l d .w8 Offset.ssfs (encodeSsfs r)
  | .ssfc r => writeSsfc l d r

end Programs

/-! ## Registers do not fault -/

section Registers

variable {l : Layout} {d : Device σ} {m : Mmio σ} {sound : σ → Prop} {s : σ}
  {width : Width} {register : Nat}
  (follows : d.Follows m sound) (start : sound s)
  (inside : l.offset register + width.bytes ≤ windowSize)

include follows start inside

theorem readRegister_ok {decode : BitVec width.bits → Checked σ α} {plain : BitVec width.bits → α}
    (decodes : ∀ raw, decode raw = pure (plain raw)) :
    (readRegister l d width register decode).run s
      = .ok (plain (m.read width (l.offset register) s).1) (m.read width (l.offset register) s).2 := by
  have word : l.spiBar + register < 2 ^ 64 :=
    Nat.lt_of_le_of_lt (Nat.le_trans (Nat.le_add_right _ _) inside) (by decide)
  rw [readRegister, add_eq word, pure_bind]
  change (d.read width (l.offset register) >>= decode).run s = _
  rw [bind_of_ok (follows.read inside start), decodes]
  rfl

theorem writeRegister_ok {encode : Checked σ (BitVec width.bits)} {word : BitVec width.bits}
    (encodes : encode = pure word) :
    (writeRegister l d width register encode).run s
      = .ok () (m.write width (l.offset register) word s) := by
  have small : l.spiBar + register < 2 ^ 64 :=
    Nat.lt_of_le_of_lt (Nat.le_trans (Nat.le_add_right _ _) inside) (by decide)
  rw [writeRegister, add_eq small, pure_bind, encodes, pure_bind]
  exact follows.write inside start

theorem updateRegister_ok {decode : BitVec width.bits → Checked σ α}
    {encode : α → Checked σ (BitVec width.bits)} {change : α → Checked σ α}
    {plain : BitVec width.bits → α} {back : α → BitVec width.bits} {other : α → α}
    (decodes : ∀ raw, decode raw = pure (plain raw)) (encodes : ∀ r, encode r = pure (back r))
    (changes : ∀ r, change r = pure (other r)) :
    (updateRegister l d width register decode encode change).run s
      = .ok () (m.modify width (l.offset register) (fun raw => back (other (plain raw))) s) := by
  rw [updateRegister, bind_of_ok (readRegister_ok follows start inside decodes), changes, pure_bind,
    writeRegister_ok follows (follows.sound_read start) inside (encodes _)]
  rfl

end Registers

/-- Past the end of a row nothing is done. -/
theorem readRow_of_past (l : Layout) (d : Device σ) {row : RegisterRow} {index : Nat}
    (past : row.count ≤ index) (decode : BitVec 32 → Checked σ α) (s : σ) :
    (readRow l d row decode index).run s = .error (.misuse (row.misuse index)) s := by
  rw [readRow, if_pos past]
  rfl

section Layouts

variable {l : Layout} {d : Device σ} {m : Mmio σ} {sound : σ → Prop} {s : σ}
  (follows : d.Follows m sound) (start : sound s) (fits : l.spiBar + spiSize ≤ windowSize)

include follows start fits

theorem readRow_ok (row : RegisterRow) {index : Nat} (below : index < row.count)
    {decode : BitVec 32 → Checked σ α} {plain : BitVec 32 → α}
    (decodes : ∀ raw, decode raw = pure (plain raw)) :
    (readRow l d row decode index).run s
      = .ok (plain (m.read .w32 (l.offset (row.base + 4 * index)) s).1)
          (m.read .w32 (l.offset (row.base + 4 * index)) s).2 := by
  have whole := row.fits
  have low : row.base + 4 * index + Width.w32.bytes ≤ spiSize := by
    simp only [Width.bytes]
    omega
  have inside : l.offset (row.base + 4 * index) + Width.w32.bytes ≤ windowSize := by
    unfold Layout.offset
    omega
  unfold spiSize at whole
  have kept : index % 2 ^ 16 = index := Nat.mod_eq_of_lt (by omega)
  have times : 4 * index < 2 ^ 16 := by omega
  have sum : row.base + 4 * index < 2 ^ 16 := by omega
  rw [readRow, if_neg (Nat.not_le.2 below), kept, mul_eq times, pure_bind, add_eq sum, pure_bind]
  exact readRegister_ok follows start inside decodes

variable (common : l.Common)

include common

theorem readHsfs_ok : (readHsfs l d).run s = .ok (l.readHsfs m s).1 (l.readHsfs m s).2 := by
  rw [readHsfs, readRegister_ok follows start (Layout.Place.hsfs.inside fits) decodeHsfs_eq,
    Layout.readHsfs, common.hsfs]
  rfl

theorem readSsfc_ok : (readSsfc l d).run s = .ok (l.readSsfc m s).1 (l.readSsfc m s).2 := by
  have next : sound (m.read .w16 (l.offset Offset.ssfc) s).2 := follows.sound_read start
  have sum : Offset.ssfc + 2 < 2 ^ 16 := by decide
  rw [readSsfc, bind_of_ok (readRegister_ok follows start (Layout.Place.ssfcLow.inside fits) fun _ => rfl),
    add_eq sum, pure_bind,
    bind_of_ok (readRegister_ok follows next (Layout.Place.ssfcHigh.inside fits) fun _ => rfl),
    shiftLeft_eq (by decide), pure_bind, decodeSsfc_eq, Layout.readSsfc, common.ssfc]
  rfl

theorem writeSsfc_ok (r : Ssfc) : (writeSsfc l d r).run s = .ok () (l.writeSsfc m r s) := by
  have sum : Offset.ssfc + 2 < 2 ^ 16 := by decide
  rw [writeSsfc, encodeSsfc_eq, pure_bind, add_eq sum, pure_bind,
    bind_of_ok (writeRegister_ok follows start (Layout.Place.ssfcHigh.inside fits)
      (by rw [shiftRight_eq (by decide), pure_bind])),
    writeRegister_ok follows (follows.sound_write start) (Layout.Place.ssfcLow.inside fits) rfl,
    Layout.writeSsfc, common.ssfc]
  rfl

theorem writeRecord_ok (r : WritableRecord) :
    (writeRecord l d r).run s = .ok () (l.writeRecord m r s) := by
  cases r with
  | hsfs r =>
      rw [writeRecord, writeRegister_ok follows start (Layout.Place.hsfs.inside fits) (encodeHsfs_eq r),
        Layout.writeRecord, Layout.writeHsfs, common.hsfs]
      rfl
  | hsfc r =>
      rw [writeRecord, writeRegister_ok follows start (Layout.Place.hsfc.inside fits) (encodeHsfc_eq r),
        Layout.writeRecord, Layout.writeHsfc, common.hsfc]
      rfl
  | faddr r =>
      rw [writeRecord, writeRegister_ok follows start (Layout.Place.faddr.inside fits)
        (encodeFaddr_eq r), Layout.writeRecord, Layout.writeFaddr, common.faddr]
      rfl
  | ssfs r =>
      rw [writeRecord, writeRegister_ok follows start (Layout.Place.ssfs.inside fits) (encodeSsfs_eq r),
        Layout.writeRecord, Layout.writeSsfs, common.ssfs]
      rfl
  | ssfc r => exact writeSsfc_ok follows start fits common r

end Layouts

/-! ## Words -/

/-- The record of the word of a register that can be written. -/
def decodeWritable (raw : BitVec 32) : WritableName → Checked σ WritableRecord
  | .hsfs => do return .hsfs (← decodeHsfs (raw.setWidth 16))
  | .hsfc => do return .hsfc (← decodeHsfc (raw.setWidth 16))
  | .faddr => do return .faddr (← decodeFaddr raw)
  | .ssfs => do return .ssfs (← decodeSsfs (raw.setWidth 8))
  | .ssfc => do return .ssfc (← decodeSsfc raw)

theorem decodeWritable_eq {l : Layout} (common : l.Common) (raw : BitVec 32) (name : WritableName) :
    (decodeWritable raw name : Checked σ WritableRecord) = pure (l.decodeWritable name raw) := by
  cases name with
  | hsfs =>
      rw [decodeWritable, decodeHsfs_eq, pure_bind, Layout.decodeWritable, common.hsfs]
      rfl
  | hsfc =>
      rw [decodeWritable, decodeHsfc_eq, pure_bind, Layout.decodeWritable, common.hsfc]
      rfl
  | faddr =>
      rw [decodeWritable, decodeFaddr_eq, pure_bind, Layout.decodeWritable, common.faddr]
      rfl
  | ssfs =>
      rw [decodeWritable, decodeSsfs_eq, pure_bind, Layout.decodeWritable, common.ssfs]
      rfl
  | ssfc =>
      rw [decodeWritable, decodeSsfc_eq, pure_bind, Layout.decodeWritable, common.ssfc]
      rfl

end Checked

end FlashDump
