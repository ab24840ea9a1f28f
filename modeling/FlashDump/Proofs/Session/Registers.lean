import FlashDump.Proofs.Machine.Stores
import FlashDump.Proofs.Register.Inverse
import FlashDump.Proofs.Session.History

/-!
# Registers that are written and read back

Every register of the window has bytes of its own (`WindowTarget.apart`), and a record goes to
the bytes of its register alone (`WritableRecord.covers_of_mem_writes`).  So where the write
starts no cycle, all other registers read as before, and the register itself reads as the record
that was written, cut to the widths of its fields.

What a register reads as is taken from memory (`Chipset.answerOf`).  That holds while nothing
hides the end of a cycle, which only reads of HSFS do.
-/

namespace FlashDump

open FlashDump.Register

/-! ## The bytes of a register -/

namespace WindowTarget

/-- The offset of the first byte of a register. -/
def first (l : Layout) : WindowTarget → Nat
  | .gcs => Offset.gcs
  | .bfpr => l.offset Offset.bfpr
  | .hsfs => l.offset Offset.hsfs
  | .hsfc => l.offset Offset.hsfc
  | .faddr => l.offset Offset.faddr
  | .frap => l.offset Offset.frap
  | .ssfs => l.offset Offset.ssfs
  | .ssfc => l.offset Offset.ssfc
  | .fdata index => l.offset (Offset.fdata + 4 * index)
  | .freg index => l.offset (Offset.freg + 4 * index)
  | .pr index => l.offset (Offset.pr + 4 * index)

/-- The number of bytes of a register. -/
def size : WindowTarget → Nat
  | .hsfs | .hsfc => 2
  | .ssfs => 1
  | .ssfc => 3
  | _ => 4

/-- Whether a register has the byte at an offset. -/
def Covers (l : Layout) (t : WindowTarget) (i : Nat) : Prop :=
  t.first l ≤ i ∧ i < t.first l + t.size

/-- Whether there is a register with the index. -/
def Exists : WindowTarget → Prop
  | .fdata index => index < fdataCount
  | .freg index | .pr index => index < regionCount
  | _ => True

end WindowTarget

/-- GCS lies outside the block of SPI registers. -/
def Layout.GcsApart (l : Layout) : Prop :=
  Offset.gcs + 4 ≤ l.spiBar ∨ l.spiBar + spiSize ≤ Offset.gcs

theorem Catalogue.gcsApart {f : Family} (known : f ∈ families) : f.layout.GcsApart := by
  have all : ∀ f ∈ families,
      Offset.gcs + 4 ≤ f.layout.spiBar ∨ f.layout.spiBar + spiSize ≤ Offset.gcs := by decide
  exact all f known

/-- No byte belongs to two registers. -/
theorem WindowTarget.apart {l : Layout} (gcs : l.GcsApart) {t u : WindowTarget}
    (t_exists : t.Exists) (u_exists : u.Exists) (other : t ≠ u) {i : Nat}
    (covered : t.Covers l i) : ¬ u.Covers l i := by
  intro covered'
  -- In the block the offsets of two registers differ by enough, whatever the base is.
  cases t <;> cases u <;>
    simp only [Layout.GcsApart, Covers, first, size, Exists, Layout.offset, Offset.gcs, Offset.bfpr,
      Offset.hsfs, Offset.hsfc, Offset.faddr, Offset.frap, Offset.ssfs, Offset.ssfc, Offset.fdata,
      Offset.freg, Offset.pr, spiSize, fdataCount, regionCount, ne_eq, not_true_eq_false,
      WindowTarget.fdata.injEq, WindowTarget.freg.injEq, WindowTarget.pr.injEq]
      at gcs t_exists u_exists other covered covered' <;>
    omega

/-! ## What a register reads as -/

/-- The 24 bits of SSFC in memory. -/
def Layout.ssfcWord (l : Layout) (m : RegisterFile) : BitVec 32 :=
  (m.load .w8 (l.offset (Offset.ssfc + 2)) : BitVec 8).setWidth 32 <<< 16
    ||| (m.load .w16 (l.offset Offset.ssfc) : BitVec 16).setWidth 32

namespace Chipset

/-- The answer for a register of the window, by what memory holds. -/
def answerOf (c : Chipset) (m : RegisterFile) (t : WindowTarget) : Except Misuse Answer :=
  let word (width : Width) := m.load width (t.first c.layout)
  match t with
  | .gcs => .ok (.record (.gcs (c.layout.gcs (word .w32) c.isIntegratedIo)))
  | .bfpr => .ok (.record (.bfpr (c.layout.bfpr (word .w32))))
  | .hsfs => .ok (.record (.hsfs (c.layout.hsfs.decode (word .w16))))
  | .hsfc => .ok (.record (.hsfc (c.layout.hsfc.decode (word .w16))))
  | .faddr => .ok (.record (.faddr (c.layout.faddr.decode (word .w32))))
  | .frap => .ok (.record (.frap (c.layout.frap (word .w32))))
  | .ssfs => .ok (.record (.ssfs (c.layout.ssfs.decode (word .w8))))
  | .ssfc => .ok (.record (.ssfc (c.layout.ssfc.decode (c.layout.ssfcWord m))))
  | .fdata index =>
      if index < fdataCount then .ok (.word (word .w32)) else .error (.fdataIndex index)
  | .freg index =>
      if index < regionCount then .ok (.record (.freg (c.layout.freg (word .w32))))
      else .error (.fregIndex index)
  | .pr index =>
      if index < regionCount then .ok (.record (.pr (c.layout.pr (word .w32))))
      else .error (.prIndex index)

/-- Only the bytes of the register count. -/
theorem answerOf_congr (c : Chipset) {m n : RegisterFile} {t : WindowTarget}
    (same : t.Exists → ∀ i, t.Covers c.layout i → m.byteAt i = n.byteAt i) :
    c.answerOf m t = c.answerOf n t := by
  have word (width : Width) (there : t.Exists) (whole : width.bytes = t.size) :
      m.load width (t.first c.layout) = n.load width (t.first c.layout) := by
    apply RegisterFile.load_congr
    intro i low high
    exact same there i ⟨low, whole ▸ high⟩
  cases t with
  | gcs | bfpr | faddr | frap =>
      dsimp only [answerOf]
      rw [word .w32 trivial rfl]
  | hsfs | hsfc =>
      dsimp only [answerOf]
      rw [word .w16 trivial rfl]
  | ssfs =>
      dsimp only [answerOf]
      rw [word .w8 trivial rfl]
  | ssfc =>
      have part {width : Width} {offset : Nat} (first : c.layout.offset Offset.ssfc ≤ offset)
          (last : offset + width.bytes ≤ c.layout.offset Offset.ssfc + 3) :
          m.load width offset = n.load width offset := by
        apply RegisterFile.load_congr
        intro i low high
        exact same trivial i ⟨Nat.le_trans first low, Nat.lt_of_lt_of_le high last⟩
      have low : m.load .w16 (c.layout.offset Offset.ssfc)
          = n.load .w16 (c.layout.offset Offset.ssfc) := part (Nat.le_refl _) (Nat.le_succ _)
      have high : m.load .w8 (c.layout.offset (Offset.ssfc + 2))
          = n.load .w8 (c.layout.offset (Offset.ssfc + 2)) :=
        part (Nat.le_add_right _ 2) (Nat.le_refl _)
      dsimp only [answerOf]
      rw [Layout.ssfcWord, Layout.ssfcWord, high, low]
  | fdata index | freg index | pr index =>
      dsimp only [answerOf]
      split
      · rename_i below
        rw [word .w32 below rfl]
      · rfl

end Chipset

theorem recordedPlatform_read_of_idle {r : RecordedMachine} (idle : r.state.controller.pending = 0)
    (width : Width) (offset : Nat) :
    recordedPlatform.window.read width offset r
      = (r.state.controller.memory.load width offset,
          r.after r.state [r.state.windowEvent width offset]) := by
  rw [recordedPlatform_read, Machine.windowWord, Machine.afterRead, Controller.read_of_idle idle]

namespace Session

/-- What a read of a register answers, and the machine that it leaves. -/
def look (s : Session) (t : WindowTarget) : Except Misuse (Answer × Machine) :=
  (s.step (.readWindow t)).map (Prod.map id machine)

/-- The answer is what memory holds, and the read leaves no trace. -/
theorem readWindow_of_idle {s : Session} (idle : s.machine.controller.pending = 0)
    (t : WindowTarget) :
    (s.readWindow t).map (Prod.map id machine)
      = (s.chipset.answerOf s.machine.controller.memory t).map (·, s.machine) := by
  have read := recordedPlatform_read_of_idle (r := s.context.hardware) idle
  cases t with
  | gcs =>
      rw [readWindow, Chipset.readGcs, Layout.readGcsWord, Mmio.read32, read]
      rfl
  | bfpr =>
      rw [readWindow, Layout.readBfpr, Mmio.read32, read]
      rfl
  | hsfs =>
      rw [readWindow, Layout.readHsfs, Mmio.read16, read]
      rfl
  | hsfc =>
      rw [readWindow, Layout.readHsfc, Mmio.read16, read]
      rfl
  | faddr =>
      rw [readWindow, Layout.readFaddr, Mmio.read32, read]
      rfl
  | frap =>
      rw [readWindow, Layout.readFrap, Mmio.read32, read]
      rfl
  | ssfs =>
      rw [readWindow, Layout.readSsfs, Mmio.read8, read]
      rfl
  | ssfc =>
      rw [readWindow, Layout.readSsfc, Mmio.read16, read]
      have next (event : HardwareEvent) := recordedPlatform_read_of_idle
        (r := s.context.hardware.after s.context.hardware.state [event]) idle
      dsimp only
      rw [Mmio.read8, next]
      rfl
  | fdata index | freg index | pr index =>
      rw [readWindow]
      dsimp only [Chipset.answerOf]
      split
      · simp only [Layout.readFdata, Layout.readFreg, Layout.readPr, Mmio.read32, read]
        rfl
      · rfl

end Session

/-! ## Writing a record -/

namespace WritableRecord

/-- The register of a record. -/
def target : WritableRecord → WindowTarget
  | .hsfs _ => .hsfs
  | .hsfc _ => .hsfc
  | .faddr _ => .faddr
  | .ssfs _ => .ssfs
  | .ssfc _ => .ssfc

/-- The writes that store a record.  SSFC takes two, the high eight bits before the low sixteen. -/
def writes (l : Layout) : WritableRecord → List Write
  | .hsfs r => [⟨.w16, l.offset Offset.hsfs, r.encode⟩]
  | .hsfc r => [⟨.w16, l.offset Offset.hsfc, r.encode⟩]
  | .faddr r => [⟨.w32, l.offset Offset.faddr, r.encode⟩]
  | .ssfs r => [⟨.w8, l.offset Offset.ssfs, r.encode⟩]
  | .ssfc r =>
      [⟨.w8, l.offset (Offset.ssfc + 2), r.encode.extractLsb' 16 8⟩,
        ⟨.w16, l.offset Offset.ssfc, r.encode.extractLsb' 0 16⟩]

/-- Whether a record asks for a cycle. -/
def starts : WritableRecord → Bool
  | .hsfc r => r.flashCycleGo
  | _ => false

/-- The record with each field cut to the width of its bit field. -/
def norm : WritableRecord → WritableRecord
  | .hsfs r => .hsfs r.norm
  | .hsfc r => .hsfc r.norm
  | .faddr r => .faddr r.norm
  | .ssfs r => .ssfs r.norm
  | .ssfc r => .ssfc r.norm

theorem target_exists (r : WritableRecord) : r.target.Exists := by
  cases r <;> trivial

variable {l : Layout} {w : Write}

/-- A record goes to the bytes of its register. -/
theorem covers_of_mem_writes {r : WritableRecord} (member : w ∈ r.writes l) {i : Nat}
    (covered : w.Covers i) : r.target.Covers l i := by
  cases r with
  | hsfs | hsfc | faddr | ssfs =>
      obtain rfl := List.mem_singleton.1 member
      exact covered
  | ssfc r =>
      simp only [writes, List.mem_cons, List.not_mem_nil, or_false] at member
      obtain ⟨low, high⟩ := covered
      rcases member with rfl | rfl
      · exact ⟨Nat.le_trans (Nat.le_add_right _ 2) low, high⟩
      · exact ⟨low, Nat.lt_succ_of_lt high⟩

theorem inside_of_mem_writes (fits : l.spiBar + spiSize ≤ windowSize) {r : WritableRecord}
    (member : w ∈ r.writes l) : w.offset + w.width.bytes ≤ windowSize := by
  cases r with
  | hsfs r =>
      obtain rfl := List.mem_singleton.1 member
      exact Layout.Place.hsfs.inside fits
  | hsfc r =>
      obtain rfl := List.mem_singleton.1 member
      exact Layout.Place.hsfc.inside fits
  | faddr r =>
      obtain rfl := List.mem_singleton.1 member
      exact Layout.Place.faddr.inside fits
  | ssfs r =>
      obtain rfl := List.mem_singleton.1 member
      exact Layout.Place.ssfs.inside fits
  | ssfc r =>
      simp only [writes, List.mem_cons, List.not_mem_nil, or_false] at member
      rcases member with rfl | rfl
      · exact Layout.Place.ssfcHigh.inside fits
      · exact Layout.Place.ssfcLow.inside fits

variable (gcs : l.GcsApart)

include gcs

/-- A record asks for a cycle by its only write, or not at all. -/
theorem starts_of_mem_writes {r : WritableRecord} (member : w ∈ r.writes l) :
    w.starts (l.offset Offset.hsfc) = r.starts := by
  have quiet (other : r.target ≠ .hsfc) : w.starts (l.offset Offset.hsfc) = false := by
    apply Write.starts_of_not_covers
    intro covered
    have own : WindowTarget.hsfc.Covers l (l.offset Offset.hsfc) :=
      ⟨Nat.le_refl _, Nat.lt_add_of_pos_right Nat.two_pos⟩
    exact WindowTarget.apart gcs r.target_exists (u := .hsfc) trivial other
      (covers_of_mem_writes member covered) own
  cases r with
  | hsfc r =>
      obtain rfl := List.mem_singleton.1 member
      rw [Write.starts_at]
      exact congrArg Hsfc.flashCycleGo r.decode_encode
  | hsfs | faddr | ssfs | ssfc => exact quiet fun same => nomatch same

/-- All that a record does to the controller. -/
theorem writeAll_writes (fits : l.spiBar + spiSize ≤ windowSize) {c : Controller}
    (place : c.spiBar = l.spiBar) (r : WritableRecord) :
    c.writeAll (r.writes l)
      = if r.starts then (c.stored (r.writes l)).runCycle else c.stored (r.writes l) := by
  have hsfc : c.offset Offset.hsfc = l.offset Offset.hsfc := congrArg (· + Offset.hsfc) place
  have inside (w : Write) (member : w ∈ r.writes l) := inside_of_mem_writes fits member
  have asks (w : Write) (member : w ∈ r.writes l) : w.starts (c.offset Offset.hsfc) = r.starts :=
    hsfc ▸ starts_of_mem_writes gcs member
  cases started : r.starts with
  | false =>
      rw [if_neg Bool.false_ne_true]
      exact Controller.writeAll_of_quiet inside fun w member => (asks w member).trans started
  | true =>
      cases r with
      | hsfc r =>
          have once := Controller.write_eq (inside _ List.mem_cons_self) c
          rw [asks _ List.mem_cons_self, started] at once
          exact once
      | hsfs | faddr | ssfs | ssfc => cases started

end WritableRecord

/-! ## Reading it back -/

/-- The high eight and the low sixteen bits of an SSFC word are the bits of SSFC. -/
theorem Register.Ssfc.parts (raw : BitVec 32) :
    (raw.extractLsb' 16 8).setWidth 32 <<< 16 ||| (raw.extractLsb' 0 16).setWidth 32
      = Ssfc.bits raw := by
  rw [Ssfc.bits_eq_cut]
  apply BitVec.eq_of_getLsbD_eq
  intro i inside
  rw [BitVec.getLsbD_or, BitVec.getLsbD_shiftLeft, BitVec.getLsbD_setWidth,
    BitVec.getLsbD_setWidth, BitVec.getLsbD_extractLsb', BitVec.getLsbD_extractLsb',
    Bits.getLsbD_cut]
  by_cases low : i < 16
  · have below : i < 24 := by omega
    simp [low, below, inside]
  · have place : 16 + (i - 16) = i := by omega
    have width : i - 16 < 32 := by omega
    have part : (i - 16 < 8) = (i < 24) := by
      rw [eq_iff_iff]
      omega
    simp [low, inside, place, width, part]

namespace WritableRecord

variable {l : Layout} (fits : l.spiBar + spiSize ≤ windowSize) (m : RegisterFile)

include fits

theorem ssfcWord_writes (r : Ssfc) :
    l.ssfcWord (m.storeAll (writes l (.ssfc r))) = r.encode := by
  have low : l.offset Offset.ssfc + Width.w16.bytes ≤ windowSize := Layout.Place.ssfcLow.inside fits
  have high : l.offset (Offset.ssfc + 2) + Width.w8.bytes ≤ windowSize :=
    Layout.Place.ssfcHigh.inside fits
  have apart : l.offset Offset.ssfc + Width.w16.bytes ≤ l.offset (Offset.ssfc + 2) := Nat.le_refl _
  simp only [Layout.ssfcWord, writes, RegisterFile.storeAll, List.foldl_cons, List.foldl_nil]
  rw [RegisterFile.load_store_same low, RegisterFile.load_store_disjoint (.inl apart),
    RegisterFile.load_store_same high, Ssfc.parts, Ssfc.bits_encode]

end WritableRecord

/-- What the writes of a record leave in memory is the record, cut to its fields. -/
theorem Chipset.answerOf_writes {c : Chipset} (fits : c.layout.spiBar + spiSize ≤ windowSize)
    (m : RegisterFile) (r : WritableRecord) :
    c.answerOf (m.storeAll (r.writes c.layout)) r.target = .ok (.record r.norm.toRecord) := by
  have common : c.layout.Common := c.family.layout_common
  have back {width : Width} {offset : Nat} (place : c.layout.Place width offset) {α : Type}
      {codec : Codec width.bits α} {keep : BitVec width.bits → BitVec width.bits} {norm : α → α}
      (inverse : codec.Inverse keep norm) (r : α) :
      codec.decode ((m.store width offset (codec.encode r)).load width offset) = norm r := by
    rw [RegisterFile.load_store_same (place.inside fits)]
    exact inverse.decode_encode r
  cases r with
  | hsfs r =>
      dsimp only [answerOf, WritableRecord.target]
      rw [common.hsfs]
      exact congrArg (Except.ok ∘ Answer.record ∘ Record.hsfs) (back .hsfs Hsfs.codec_inverse r)
  | hsfc r =>
      dsimp only [answerOf, WritableRecord.target]
      rw [common.hsfc]
      exact congrArg (Except.ok ∘ Answer.record ∘ Record.hsfc) (back .hsfc Hsfc.codec_inverse r)
  | faddr r =>
      dsimp only [answerOf, WritableRecord.target]
      rw [common.faddr]
      exact congrArg (Except.ok ∘ Answer.record ∘ Record.faddr) (back .faddr Faddr.codec_inverse r)
  | ssfs r =>
      dsimp only [answerOf, WritableRecord.target]
      rw [common.ssfs]
      exact congrArg (Except.ok ∘ Answer.record ∘ Record.ssfs) (back .ssfs Ssfs.codec_inverse r)
  | ssfc r =>
      dsimp only [answerOf, WritableRecord.target]
      rw [WritableRecord.ssfcWord_writes fits m r, common.ssfc]
      exact congrArg (Except.ok ∘ Answer.record ∘ Record.ssfc) r.decode_encode

/-! ## Steps that write -/

theorem Layout.writeRecord_recorded {l : Layout} (common : l.Common) (r : WritableRecord)
    (hardware : RecordedMachine) :
    l.writeRecord recordedPlatform.window r hardware
      = hardware.after
          (hardware.state.updateController (·.writeAll (r.writes l)))
          ((r.writes l).map fun w => .access w.access) := by
  cases r with
  | hsfs r =>
      rw [writeRecord, writeHsfs, Mmio.write16, recordedPlatform_write, common.hsfs]
      rfl
  | hsfc r =>
      rw [writeRecord, writeHsfc, Mmio.write16, recordedPlatform_write, common.hsfc]
      rfl
  | faddr r =>
      rw [writeRecord, writeFaddr, Mmio.write32, recordedPlatform_write, common.faddr]
      rfl
  | ssfs r =>
      rw [writeRecord, writeSsfs, Mmio.write8, recordedPlatform_write, common.ssfs]
      rfl
  | ssfc r =>
      rw [writeRecord, writeSsfc, Mmio.write16, Mmio.write8, recordedPlatform_write,
        recordedPlatform_write, Recorded.after_after, common.ssfc]
      rfl

namespace Session

variable {s : Session}

theorem look_of_idle (mapped : s.chipset.isMapped = true) (idle : s.machine.controller.pending = 0)
    (t : WindowTarget) :
    s.look t = (s.chipset.answerOf s.machine.controller.memory t).map (·, s.machine) := by
  obtain ⟨base, held⟩ := Option.isSome_iff_exists.1 mapped
  rw [look, step, Session.mapped, held]
  exact readWindow_of_idle idle t

/-- What it does to write a record. -/
structure Writes (s : Session) (r : WritableRecord) (s' : Session) : Prop where
  /-- The hardware sees the writes of the record, and nothing else is done. -/
  record : s' = s.withHardware (s.context.hardware.after s'.machine
    ((r.writes s.chipset.layout).map fun w => .access w.access))
  rest : s'.machine = { s.machine with controller := s'.machine.controller }
  kin : s.machine.controller.Kin s'.machine.controller
  log : s'.machine.controller.writes
    = s.machine.controller.writes ++ (r.writes s.chipset.layout).toArray
  /-- A cycle is started by a record that asks for one, and by no other. -/
  cycles : s'.machine.controller.cycles
    = s.machine.controller.cycles + if r.starts then 1 else 0

/-- What is left as it was where a record was written, and what is read back. -/
structure Isolates (s : Session) (r : WritableRecord) (s' : Session) : Prop where
  kept : ∀ i, ¬ r.target.Covers s.chipset.layout i →
    s'.machine.controller.memory.byteAt i = s.machine.controller.memory.byteAt i
  others : ∀ t, t ≠ r.target → (s'.look t).map Prod.fst = (s.look t).map Prod.fst
  /-- The read that shows the record leaves no trace. -/
  readBack : s'.look r.target = .ok (.record r.norm.toRecord, s'.machine)
  /-- SSFC is put together again from its two parts. -/
  ssfc : ∀ q, r = .ssfc q → s.chipset.layout.ssfcWord s'.machine.controller.memory = q.encode

/-- The session after a record was written. -/
def written (s : Session) (r : WritableRecord) : Session := (s.writeWindow r).2

section Written

variable (known : s.chipset.family ∈ Catalogue.families)
  (place : s.machine.controller.spiBar = s.chipset.layout.spiBar) (r : WritableRecord)

theorem written_eq :
    s.written r = s.withHardware (s.context.hardware.after
      (s.machine.updateController (·.writeAll (r.writes s.chipset.layout)))
      ((r.writes s.chipset.layout).map fun w => .access w.access)) := by
  have made := Layout.writeRecord_recorded s.chipset.family.layout_common r s.context.hardware
  rw [written, writeWindow]
  exact congrArg s.withHardware made

include known place

theorem controller_written :
    (s.written r).machine.controller
      = if r.starts then (s.machine.controller.stored (r.writes s.chipset.layout)).runCycle
        else s.machine.controller.stored (r.writes s.chipset.layout) := by
  rw [written_eq]
  exact WritableRecord.writeAll_writes (Catalogue.gcsApart known) (Catalogue.spiSize_fits known)
    place r

theorem writes_written : s.Writes r (s.written r) := by
  have after := controller_written known place r
  refine ⟨?_, ?_, ?_, ?_, ?_⟩
  · rw [written_eq]
    rfl
  · rw [written_eq]
    rfl
  · rw [after]
    split <;> exact ⟨rfl, rfl, rfl, rfl, rfl⟩
  · rw [after]
    split <;> rfl
  · rw [after]
    split <;> rfl

theorem isolates_written (mapped : s.chipset.isMapped = true)
    (idle : s.machine.controller.pending = 0) (quiet : r.starts = false) :
    s.Isolates r (s.written r) := by
  have fits := Catalogue.spiSize_fits known
  have after := controller_written known place r
  rw [quiet, if_neg Bool.false_ne_true] at after
  have memory : (s.written r).machine.controller.memory
      = s.machine.controller.memory.storeAll (r.writes s.chipset.layout) := by rw [after]; rfl
  have idle' : (s.written r).machine.controller.pending = 0 := by
    rw [after]
    exact idle
  have kept (i : Nat) (outside : ¬ r.target.Covers s.chipset.layout i) :
      (s.written r).machine.controller.memory.byteAt i = s.machine.controller.memory.byteAt i := by
    rw [memory]
    exact RegisterFile.byteAt_storeAll
      (fun w member covered => outside (WritableRecord.covers_of_mem_writes member covered)) _
  have looked (t : WindowTarget) := look_of_idle (s := s.written r) mapped idle' t
  refine ⟨kept, ?_, ?_, ?_⟩
  · intro t other
    have same : s.chipset.answerOf (s.written r).machine.controller.memory t
        = s.chipset.answerOf s.machine.controller.memory t := by
      apply Chipset.answerOf_congr
      intro t_exists i covered
      exact kept i
        (WindowTarget.apart (Catalogue.gcsApart known) t_exists r.target_exists other covered)
    rw [looked, look_of_idle mapped idle]
    change ((s.chipset.answerOf (s.written r).machine.controller.memory t).map _).map Prod.fst = _
    rw [same]
    cases s.chipset.answerOf s.machine.controller.memory t <;> rfl
  · rw [looked, memory]
    have back := Chipset.answerOf_writes fits s.machine.controller.memory r
    exact congrArg (Except.map (·, (s.written r).machine)) back
  · intro q whole
    rw [memory, whole]
    exact WritableRecord.ssfcWord_writes fits s.machine.controller.memory q

end Written

/-- A record goes to the bytes of its register and nowhere else.  Without a cycle, all other
registers read as before, and the register reads as the record, cut to its fields. -/
theorem write_isolates (known : s.chipset.family ∈ Catalogue.families)
    (mapped : s.chipset.isMapped = true)
    (place : s.machine.controller.spiBar = s.chipset.layout.spiBar)
    (idle : s.machine.controller.pending = 0) (r : WritableRecord) :
    ∃ s', s.step (.write r) = .ok (.ok, s') ∧ s.Writes r s' ∧
      (r.starts = false → s.Isolates r s') := by
  obtain ⟨base, held⟩ := Option.isSome_iff_exists.1 mapped
  refine ⟨s.written r, ?_, writes_written known place r, isolates_written known place r mapped idle⟩
  rw [step, Session.mapped, held]
  rfl

/-- A session on ICH9, with the window mapped. -/
def overIch9 : Session :=
  ofSteps (.intel 0x2912 0x3800 0) Catalogue.ich9 [.map (some 0xfed1c001)]

/-- A record of SSFC whose integer fields and whose frequency are all wider than their bits. -/
def wideSsfc : Ssfc :=
  ⟨0xff, .reserved 0xf9, false, true, 0xff, false, 0xf, false, true, false, true⟩

theorem write_isolates_of_wide_ssfc :
    ∃ s', overIch9.step (.write (.ssfc wideSsfc)) = .ok (.ok, s') ∧
      overIch9.Writes (.ssfc wideSsfc) s' ∧ overIch9.Isolates (.ssfc wideSsfc) s' := by
  have known : Catalogue.resolve (Machine.intel 0x2912 0x3800 0).identity = .ok Catalogue.ich9 := by
    rw [Machine.identity_intel_ich9]
    rfl
  have family : overIch9.chipset.family ∈ Catalogue.families := (reachable_ofSteps known _).known
  obtain ⟨s', made, writes, isolates⟩ := write_isolates family rfl rfl rfl (.ssfc wideSsfc)
  exact ⟨s', made, writes, isolates rfl⟩

end Session

end FlashDump
