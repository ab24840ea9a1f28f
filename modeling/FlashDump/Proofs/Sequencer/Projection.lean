import FlashDump.Proofs.Sequencer.Waits

/-!
# The same read on two devices

A device may be a part of another, or the same one with a recorder around it.  Then an
access to the larger device is an access to the smaller one, and the rest only looks on
(`Mmio.Projects`).  A read cannot tell the two apart: it has the same result, tells its
observer the same, and leaves the smaller device in the same state
(`Sequencer.read_onDevice`).
-/

namespace FlashDump

variable {σ ρ τ : Type}

/-- Accesses to a device are accesses to what is seen of its state. -/
structure Mmio.Projects (m : Mmio σ) (n : Mmio ρ) (view : σ → ρ) : Prop where
  read : ∀ width offset s,
    n.read width offset (view s) = ((m.read width offset s).1, view (m.read width offset s).2)
  write : ∀ width offset value s,
    n.write width offset value (view s) = view (m.write width offset value s)

theorem Mmio.Projects.trans {υ : Type} {m : Mmio σ} {n : Mmio ρ} {l : Mmio υ} {view : σ → ρ}
    {view' : ρ → υ} (first : m.Projects n view) (second : n.Projects l view') :
    m.Projects l (view' ∘ view) where
  read width offset s := by
    rw [Function.comp_apply, second.read, first.read]
    rfl
  write width offset value s := by
    rw [Function.comp_apply, second.write, first.write]
    rfl

/-- A recorder only looks on. -/
theorem Mmio.projects_recorded {ε : Type} (wrap : Access → ε) (m : Mmio σ) :
    (m.recorded wrap).Projects m Recorded.state where
  read width offset r := by
    simp only [recorded, Recorded.note]
    split <;> rfl
  write width offset value r := by
    simp only [recorded, Recorded.note]
    split <;> rfl

namespace Sequencer

/-- The sequencer with another device. -/
def onDevice (q : Sequencer σ) (n : Mmio ρ) : Sequencer ρ := ⟨q.layout, n, q.limit, q.patience⟩

section Over

variable {q : Sequencer σ} {n : Mmio ρ} {view : σ → ρ} (projects : q.device.Projects n view)

include projects

theorem readHsfs_onDevice (s : σ) :
    (q.onDevice n).layout.readHsfs (q.onDevice n).device (view s)
      = ((q.layout.readHsfs q.device s).1, view (q.layout.readHsfs q.device s).2) := by
  simp only [onDevice, Layout.readHsfs, Mmio.read16, projects.read]

theorem startCycle_onDevice (words address : Nat) (s : σ) :
    (q.onDevice n).startCycle words address (view s) = view (q.startCycle words address s) := by
  simp only [startCycle, onDevice, Layout.readHsfs, Layout.writeHsfs, Layout.readFaddr,
    Layout.writeFaddr, Layout.readHsfc, Layout.writeHsfc, Mmio.read16, Mmio.read32, Mmio.write16,
    Mmio.write32, projects.read, projects.write]

theorem poll_onDevice (polls : Nat) (s : σ) :
    (q.onDevice n).poll polls (view s) = ((q.poll polls s).1, view (q.poll polls s).2) := by
  induction polls generalizing s with
  | zero => rfl
  | succ polls ih =>
      rw [poll, readHsfs_onDevice projects, poll]
      dsimp only
      split
      · rfl
      · exact ih _

theorem collect_onDevice (registers : List (Fin Register.fdataCount)) (s : σ) :
    (q.onDevice n).collect registers (view s)
      = ((q.collect registers s).1, view (q.collect registers s).2) := by
  induction registers generalizing s with
  | nil => rfl
  | cons index registers ih =>
      have word : (q.onDevice n).layout.readFdata (q.onDevice n).device index (view s)
          = ((q.layout.readFdata q.device index s).1, view (q.layout.readFdata q.device index s).2) := by
        simp only [onDevice, Layout.readFdata, Mmio.read32, projects.read]
      rw [collect, word, collect]
      dsimp only
      rw [ih]

theorem readBlocks_onDevice (o : Observer τ) (words count address : Nat) (s : σ) (t : τ) :
    (q.onDevice n).readBlocks o words count address (view s) t
      = ((q.readBlocks o words count address s t).1,
          view (q.readBlocks o words count address s t).2.1,
          (q.readBlocks o words count address s t).2.2) := by
  induction count generalizing address s t with
  | zero => rfl
  | succ count ih =>
      have polled : (q.onDevice n).poll (q.onDevice n).budget ((q.onDevice n).startCycle words address (view s))
          = ((q.poll q.budget (q.startCycle words address s)).1,
              view (q.poll q.budget (q.startCycle words address s)).2) := by
        rw [startCycle_onDevice projects, poll_onDevice projects]
        rfl
      rw [readBlocks_succ, polled, readBlocks_succ]
      rcases q.poll q.budget (q.startCycle words address s) with ⟨_ | hsfs, s⟩
      · rfl
      · dsimp only
        rcases acknowledge o address hsfs t with ⟨_ | _, t⟩
        · rfl
        · dsimp only
          rw [collect_onDevice projects]
          dsimp only
          rcases o.block address (q.collect (blockRegisters words) s).1 t with ⟨_ | _, t⟩
          · rfl
          · exact ih _ _ _

theorem read_onDevice (o : Observer τ) (r : Request) (s : σ) (t : τ) :
    (q.onDevice n).read o r (view s) t
      = ((q.read o r s t).1, view (q.read o r s t).2.1, (q.read o r s t).2.2) := by
  rw [read, read]
  cases r.plan with
  | error fault => rfl
  | ok plan =>
      dsimp only
      rw [readHsfs_onDevice projects]
      dsimp only
      split
      · rfl
      · rw [readBlocks_onDevice projects]

end Over

end Sequencer

end FlashDump
