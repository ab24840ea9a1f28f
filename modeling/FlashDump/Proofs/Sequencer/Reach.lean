import FlashDump.Chipset.Record
import FlashDump.Proofs.Chipset.Layout
import FlashDump.Proofs.Sequencer.Waits

/-!
# Where accesses lead

A program that only reads and writes a device leads from one of its states to another, by
accesses at certain places (`Mmio.Reaches`).  Whatever each such access preserves, the
program preserves (`Reaches.preserves`).

The places of a layout are its registers, each with the width that it is accessed with
(`Layout.Place`).  Reading a register, writing one and reading the flash all stay at these
places.  Nothing is assumed about the device.
-/

namespace FlashDump

open FlashDump.Register

/-! ## Reachable states -/

/-- The states that accesses at certain places lead to. -/
inductive Mmio.Reaches {σ : Type} (m : Mmio σ) (place : Width → Nat → Prop) (s : σ) : σ → Prop where
  | start : m.Reaches place s s
  | read {s' : σ} {width : Width} {offset : Nat} (before : m.Reaches place s s')
      (allowed : place width offset) : m.Reaches place s (m.read width offset s').2
  | write {s' : σ} {width : Width} {offset : Nat} (before : m.Reaches place s s')
      (allowed : place width offset) (value : BitVec width.bits) :
      m.Reaches place s (m.write width offset value s')

namespace Mmio.Reaches

variable {σ : Type} {m : Mmio σ} {place : Width → Nat → Prop} {s s' s'' : σ}

theorem trans (first : m.Reaches place s s') (second : m.Reaches place s' s'') :
    m.Reaches place s s'' := by
  induction second with
  | start => exact first
  | read _ allowed ih => exact ih.read allowed
  | write _ allowed value ih => exact ih.write allowed value

/-- What every access preserves, a program of accesses preserves. -/
theorem preserves (kept : σ → Prop)
    (read : ∀ width offset s, place width offset → kept s → kept (m.read width offset s).2)
    (write : ∀ width offset value s, place width offset → kept s → kept (m.write width offset value s))
    (reaches : m.Reaches place s s') (first : kept s) : kept s' := by
  induction reaches with
  | start => exact first
  | read _ allowed ih => exact read _ _ _ allowed ih
  | write _ allowed value ih => exact write _ _ value _ allowed ih

end Mmio.Reaches

/-! ## Places -/

/-- The places at which the registers of a layout are accessed. -/
inductive Layout.Place (l : Layout) : Width → Nat → Prop where
  | gcs : l.Place .w32 Offset.gcs
  | bfpr : l.Place .w32 (l.offset Offset.bfpr)
  | hsfs : l.Place .w16 (l.offset Offset.hsfs)
  | hsfc : l.Place .w16 (l.offset Offset.hsfc)
  | faddr : l.Place .w32 (l.offset Offset.faddr)
  | fdata (index : Fin fdataCount) : l.Place .w32 (l.offset (Offset.fdata + 4 * index))
  | frap : l.Place .w32 (l.offset Offset.frap)
  | freg (index : Fin regionCount) : l.Place .w32 (l.offset (Offset.freg + 4 * index))
  | pr (index : Fin regionCount) : l.Place .w32 (l.offset (Offset.pr + 4 * index))
  | ssfs : l.Place .w8 (l.offset Offset.ssfs)
  /-- The low 16 bits of SSFC. -/
  | ssfcLow : l.Place .w16 (l.offset Offset.ssfc)
  /-- The high 8 bits of SSFC. -/
  | ssfcHigh : l.Place .w8 (l.offset (Offset.ssfc + 2))

/-- The registers lie in the window if the block of SPI registers does. -/
theorem Layout.Place.inside {l : Layout} (fits : l.spiBar + spiSize ≤ windowSize) {width : Width}
    {offset : Nat} (place : l.Place width offset) : offset + width.bytes ≤ windowSize := by
  unfold spiSize at fits
  cases place with
  | gcs => decide
  | fdata index | freg index | pr index =>
      have few := index.isLt
      simp only [fdataCount, regionCount] at few
      simp only [Layout.offset, Offset.fdata, Offset.freg, Offset.pr, Width.bytes]
      omega
  | bfpr | hsfs | hsfc | faddr | frap | ssfs | ssfcLow | ssfcHigh =>
      simp only [Layout.offset, Offset.bfpr, Offset.hsfs, Offset.hsfc, Offset.faddr, Offset.frap,
        Offset.ssfs, Offset.ssfc, Width.bytes]
      omega

/-! ## Registers -/

theorem Layout.writeRecord_reaches {σ : Type} (l : Layout) (m : Mmio σ) (r : WritableRecord) (s : σ) :
    m.Reaches l.Place s (l.writeRecord m r s) := by
  cases r with
  | hsfs r => exact .write .start .hsfs _
  | hsfc r => exact .write .start .hsfc _
  | faddr r => exact .write .start .faddr _
  | ssfs r => exact .write .start .ssfs _
  | ssfc r => exact .write (.write .start .ssfcHigh _) .ssfcLow _

/-! ## The sequencer -/

namespace Sequencer

variable {σ τ : Type} (q : Sequencer σ)

theorem startCycle_reaches (words address : Nat) (s : σ) :
    q.device.Reaches q.layout.Place s (q.startCycle words address s) :=
  .write (.read (.write (.read (.write (.read .start .hsfs) .hsfs _) .faddr) .faddr _) .hsfc) .hsfc _

theorem poll_reaches (polls : Nat) (s : σ) :
    q.device.Reaches q.layout.Place s (q.poll polls s).2 := by
  induction polls generalizing s with
  | zero => exact .start
  | succ polls ih =>
      have looked : q.device.Reaches q.layout.Place s (q.layout.readHsfs q.device s).2 :=
        .read .start .hsfs
      rw [poll]
      dsimp only
      split
      · exact looked
      · exact looked.trans (ih _)

theorem wait_reaches (s : σ) : q.device.Reaches q.layout.Place s (q.wait s).2 := by
  have polled := q.poll_reaches q.budget s
  rw [wait_eq]
  generalize q.poll q.budget s = answer at polled
  obtain ⟨_ | hsfs, s'⟩ := answer <;> exact polled

theorem collect_reaches (registers : List (Fin fdataCount)) (s : σ) :
    q.device.Reaches q.layout.Place s (q.collect registers s).2 := by
  induction registers generalizing s with
  | nil => exact .start
  | cons index registers ih =>
      have word : q.device.Reaches q.layout.Place s (q.layout.readFdata q.device index s).2 :=
        .read .start (.fdata index)
      exact word.trans (ih _)

theorem readBlocks_reaches (o : Observer τ) (words count address : Nat) (s : σ) (t : τ) :
    q.device.Reaches q.layout.Place s (q.readBlocks o words count address s t).2.1 := by
  induction count generalizing address s t with
  | zero => exact .start
  | succ count ih =>
      have polled := (q.startCycle_reaches words address s).trans (q.poll_reaches q.budget _)
      rw [readBlocks_succ]
      generalize q.poll q.budget (q.startCycle words address s) = answer at polled
      obtain ⟨_ | hsfs, s'⟩ := answer
      · exact polled
      · dsimp only
        cases acknowledge o address hsfs t with
        | mk yes t' =>
            cases yes with
            | false => exact polled
            | true =>
                have collected := polled.trans (q.collect_reaches (blockRegisters words) s')
                dsimp only
                cases o.block address (q.collect (blockRegisters words) s').1 t' with
                | mk yes t'' =>
                    cases yes with
                    | false => exact collected
                    | true => exact collected.trans (ih _ _ _)

theorem read_reaches (o : Observer τ) (r : Request) (s : σ) (t : τ) :
    q.device.Reaches q.layout.Place s (q.read o r s t).2.1 := by
  have looked : q.device.Reaches q.layout.Place s (q.layout.readHsfs q.device s).2 :=
    .read .start .hsfs
  rw [read]
  cases r.plan with
  | error fault => exact .start
  | ok plan =>
      dsimp only
      split
      · exact looked
      · exact looked.trans (q.readBlocks_reaches o plan.words plan.count plan.start _ _)

end Sequencer

end FlashDump
