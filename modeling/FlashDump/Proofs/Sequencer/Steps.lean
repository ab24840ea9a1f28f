import FlashDump.Proofs.Chipset.Layout
import FlashDump.Proofs.Register.Update
import FlashDump.Proofs.Sequencer.Arguments
import FlashDump.Proofs.Sequencer.Waits

/-!
# The steps of a cycle, at the words

On every family the sequencer uses the same codecs, so what it does can be said in
words and masks, without records.  A cycle is started by three registers, each read,
changed and written back (`Sequencer.startCycle_eq`).  A poll shows the cycle done if bit
0 of the word is set (`Sequencer.poll_succ`).

A read of blocks takes one of four ways at each block.  There is an equation for each:
`readBlocks_of_timeout`, `readBlocks_of_decline`, `readBlocks_of_stop` and
`readBlocks_of_block`.
-/

namespace FlashDump

open FlashDump.Register

/-- Read a word, change it and write it back. -/
def Mmio.modify {σ : Type} (m : Mmio σ) (width : Width) (offset : Nat)
    (change : BitVec width.bits → BitVec width.bits) (s : σ) : σ :=
  m.write width offset (change (m.read width offset s).1) (m.read width offset s).2

namespace Sequencer

variable {σ : Type} {q : Sequencer σ}

theorem startCycle_eq (common : q.layout.Common) {words address : Nat}
    (fits : address < flashAddressSpace) (few : words ≤ fdataCount) (s : σ) :
    q.startCycle words address s
      = q.device.modify .w16 (q.layout.offset Offset.hsfc) (Hsfc.startRead (4 * words))
          (q.device.modify .w32 (q.layout.offset Offset.faddr) (Faddr.aim address)
            (q.device.modify .w16 (q.layout.offset Offset.hsfs) Hsfs.clearStatus s)) := by
  have bytes : 4 * words ≤ 64 := by
    unfold fdataCount at few
    omega
  simp only [startCycle, Layout.readHsfs, Layout.writeHsfs, Layout.readFaddr, Layout.writeFaddr,
    Layout.readHsfc, Layout.writeHsfc, common.hsfs, common.faddr, common.hsfc, Hsfs.codec,
    Faddr.codec, Hsfc.codec, Hsfs.encode_clearStatus, Faddr.encode_aim fits,
    Hsfc.encode_startRead bytes]
  rfl

theorem poll_succ (common : q.layout.Common) (polls : Nat) (s : σ) :
    q.poll (polls + 1) s
      = if (q.device.read .w16 (q.layout.offset Offset.hsfs) s).1.getLsbD 0 then
          (some (Hsfs.decode (q.device.read .w16 (q.layout.offset Offset.hsfs) s).1),
            (q.device.read .w16 (q.layout.offset Offset.hsfs) s).2)
        else q.poll polls (q.device.read .w16 (q.layout.offset Offset.hsfs) s).2 := by
  rw [poll]
  simp only [Layout.readHsfs, common.hsfs]
  rfl

theorem poll_succ_of_read (common : q.layout.Common) (polls : Nat) {status : BitVec 16} {s s' : σ}
    (word : q.device.read .w16 (q.layout.offset Offset.hsfs) s = (status, s')) :
    q.poll (polls + 1) s
      = if status.getLsbD 0 then (some (Hsfs.decode status), s') else q.poll polls s' := by
  rw [poll_succ common]
  simp only [word]

/-! ## A block -/

section Block

variable {τ : Type} {o : Observer τ} {words count address : Nat} {s s' s'' : σ} {t t' t'' : τ}
  {hsfs : Hsfs} {data : List Byte}

theorem readBlocks_of_timeout
    (polled : q.poll q.budget (q.startCycle words address s) = (none, s')) :
    q.readBlocks o words (count + 1) address s t
      = ((q.giveUp o address t).1, s', (q.giveUp o address t).2) := by
  rw [readBlocks_succ, polled]

theorem readBlocks_of_decline
    (polled : q.poll q.budget (q.startCycle words address s) = (some hsfs, s'))
    (no : acknowledge o address hsfs t = (false, t')) :
    q.readBlocks o words (count + 1) address s t = (.stopped, s', t') := by
  rw [readBlocks_succ, polled]
  simp only [no]

theorem readBlocks_of_stop
    (polled : q.poll q.budget (q.startCycle words address s) = (some hsfs, s'))
    (yes : acknowledge o address hsfs t = (true, t'))
    (collected : q.collect (blockRegisters words) s' = (data, s''))
    (no : o.block address data t' = (false, t'')) :
    q.readBlocks o words (count + 1) address s t = (.stopped, s'', t'') := by
  rw [readBlocks_succ, polled]
  simp only [yes, collected, no]

theorem readBlocks_of_block
    (polled : q.poll q.budget (q.startCycle words address s) = (some hsfs, s'))
    (yes : acknowledge o address hsfs t = (true, t'))
    (collected : q.collect (blockRegisters words) s' = (data, s''))
    (goesOn : o.block address data t' = (true, t'')) :
    q.readBlocks o words (count + 1) address s t
      = q.readBlocks o words count (address + 4 * words) s'' t'' := by
  rw [readBlocks_succ, polled]
  simp only [yes, collected, goesOn]

end Block

/-- A read of a sound request looks once whether the controller is busy. -/
theorem read_of_plan {τ : Type} (common : q.layout.Common) (o : Observer τ) {r : Request}
    {plan : Plan} (planned : r.plan = .ok plan) {status : BitVec 16} {s s' : σ}
    (word : q.device.read .w16 (q.layout.offset Offset.hsfs) s = (status, s')) (t : τ) :
    q.read o r s t
      = if status.getLsbD 5 then
          (some (.error .busy), s', o.notify .busy (o.notify (.status (Hsfs.decode status)) t))
        else
          let (ending, s, t) := q.readBlocks o plan.words plan.count plan.start s'
            (o.notify (.status (Hsfs.decode status)) t)
          (ending.result, s, t) := by
  have read : q.layout.readHsfs q.device s = (Hsfs.decode status, s') := by
    rw [Layout.readHsfs, Mmio.read16, word, common.hsfs]
    rfl
  rw [Sequencer.read, planned]
  dsimp only
  rw [read]
  rfl

/-- The same in terms of what is asked for. -/
theorem read_of_accepted {τ : Type} (common : q.layout.Common) (o : Observer τ) {r : Request}
    (accepted : r.Accepted) {status : BitVec 16} {s s' : σ}
    (word : q.device.read .w16 (q.layout.offset Offset.hsfs) s = (status, s')) (t : τ) :
    q.read o r s t
      = if status.getLsbD 5 then
          (some (.error .busy), s', o.notify .busy (o.notify (.status (Hsfs.decode status)) t))
        else
          let (ending, s, t) := q.readBlocks o (r.blockSize / 4) r.blockCount r.start s'
            (o.notify (.status (Hsfs.decode status)) t)
          (ending.result, s, t) := by
  obtain ⟨plan, planned, start, block, count⟩ := Request.plan_of_accepted accepted
  have words : r.blockSize / 4 = plan.words := by omega
  rw [words, ← count, ← start]
  exact read_of_plan common o planned word t

end Sequencer

end FlashDump
