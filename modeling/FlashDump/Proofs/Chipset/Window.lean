import FlashDump.Proofs.Checked.Session
import FlashDump.Proofs.Memory.LastWrite

/-!
# Accesses through the window

A run of accesses through the window that starts no cycle cannot tell the simulated controller
from plain memory.  A run starts no cycle if none of its writes does, and that is told by the
writes alone.

The machine answers with what was written last, and so does plain memory that is mapped
(`Window.exercise_as_memory`).  The widths of the accesses do not matter, nor whether they are
aligned.  No access of the run takes a slice past the end of the window, even where only the first
registers of the sequencer lie in it.
-/

namespace FlashDump

open FlashDump.Register

namespace AccessRequest

/-- Whether a request is for a write that starts a cycle, given where HSFC is. -/
def starts (hsfc : Nat) : AccessRequest → Bool
  | .read _ _ => false
  | .write width offset value => Write.starts hsfc ⟨width, offset, value⟩

/-- A request for an access in the window that starts no cycle. -/
def Quiet (hsfc : Nat) (request : AccessRequest) : Prop :=
  request.Inside ∧ request.starts hsfc = false

instance (hsfc : Nat) : DecidablePred (Quiet hsfc) := fun _ =>
  inferInstanceAs (Decidable (_ ∧ _))

end AccessRequest

/-! ## The simulated machine -/

/-- The machine after writes that only store, the latest first. -/
def Machine.stored (m : Machine) (latest : List Write) : Machine :=
  m.updateController (·.stored latest.reverse)

theorem Machine.stored_nil (m : Machine) : m.stored [] = m := by
  rw [stored, updateController, List.reverse_nil, Controller.stored_nil]

/-- One write more that only stores. -/
theorem Machine.write_stored {m : Machine} {w : Write}
    (inside : w.offset + w.width.bytes ≤ windowSize)
    (quiet : w.starts (m.controller.offset Offset.hsfc) = false) (latest : List Write) :
    (m.stored latest).updateController (.write w.width w.offset w.value)
      = m.stored (w :: latest) := by
  have written := Controller.write_eq inside (m.controller.stored latest.reverse)
  have same : (m.controller.stored latest.reverse).offset Offset.hsfc
      = m.controller.offset Offset.hsfc := rfl
  rw [same, quiet, if_neg Bool.false_ne_true, Controller.stored_stored,
    ← List.reverse_cons] at written
  exact congrArg (fun c => m.updateController fun _ => c) written

section Plain

variable {m : Machine} (zeroed : m.controller.memory = .zero) (idle : m.controller.pending = 0)

include zeroed idle

theorem Machine.read_stored {width : Width} {offset : Nat}
    (inside : offset + width.bytes ≤ windowSize) (latest : List Write) :
    (m.stored latest).controller.read width offset
      = (LastWrite.word latest width offset, (m.stored latest).controller) := by
  have memory : (m.stored latest).controller.memory = RegisterFile.written latest := by
    rw [RegisterFile.written, ← zeroed]
    rfl
  rw [Controller.read_of_idle (c := (m.stored latest).controller) idle, memory,
    RegisterFile.load_written latest inside]

theorem Machine.plain_window :
    platform.window.Plain (fun latest s => s = m.stored latest)
      (AccessRequest.Quiet (m.controller.offset Offset.hsfc)) where
  read {width offset latest s} allowed held := by
    subst held
    have read := read_stored zeroed idle allowed.1 latest
    exact ⟨congrArg Prod.fst read,
      congrArg (fun made => { m.stored latest with controller := made.2 }) read⟩
  write {width offset value latest s} allowed held := by
    subst held
    exact write_stored (w := ⟨width, offset, value⟩) allowed.1 allowed.2 latest

end Plain

/-! ## Checked accesses -/

namespace Checked

/-- A write that starts no cycle needs no register of the sequencer but HSFC. -/
theorem writeAt_of_quiet {c : Controller} {w : Write}
    (inside : w.offset + w.width.bytes ≤ windowSize)
    (control : c.offset Offset.hsfc + Width.w16.bytes ≤ windowSize)
    (quiet : w.starts (c.offset Offset.hsfc) = false) :
    (writeAt w.width w.offset w.value).run c = .ok () (c.stored [w]) := by
  have asks := Controller.starts_stored inside c
  rw [quiet] at asks
  have still := react_of_cycle (c := c.stored [w]) inside control
    fun started => absurd (asks.symm.trans started) Bool.false_ne_true
  rw [asks, if_neg Bool.false_ne_true] at still
  rw [writeAt, bind_of_ok (EStateM.run_modify _ c), bind_of_ok (store_ok inside w.value _)]
  change (react w.width w.offset).run (.preset w.width w.offset w.value (.logWrite w c)) = _
  rw [Controller.preset_logWrite]
  exact still

theorem perform_of_quiet {m : Machine}
    (control : m.controller.offset Offset.hsfc + Width.w16.bytes ≤ windowSize)
    {request : AccessRequest} (quiet : request.Quiet (m.controller.offset Offset.hsfc)) :
    (perform request).run (.start false m)
      = .ok (Machine.platform.window.perform request m).1
          (.start false (Machine.platform.window.perform request m).2) := by
  cases request with
  | read width offset =>
      have read : (onController (readAt width offset)).run (.start false m) = .ok _ _ :=
        zoom_of_ok (readAt_ok quiet.1 m.controller)
      rw [perform, window, bind_assoc, bind_of_ok read, bind_assoc,
        bind_of_ok (EStateM.run_modify _ _)]
      rfl
  | write width offset value =>
      have once := Controller.write_eq (w := ⟨width, offset, value⟩) quiet.1 m.controller
      have only : Write.starts (m.controller.offset Offset.hsfc) ⟨width, offset, value⟩ = false :=
        quiet.2
      rw [only, if_neg Bool.false_ne_true] at once
      have written : (onController (writeAt width offset value)).run (.start false m) = .ok _ _ :=
        zoom_of_ok (writeAt_of_quiet (w := ⟨width, offset, value⟩) quiet.1 control quiet.2)
      rw [perform, window, bind_assoc, bind_of_ok written, bind_of_ok (EStateM.run_modify _ _)]
      change _ = EStateM.Result.ok AccessReply.done
        (Recorded.start false (m.updateController fun _ => m.controller.write width offset value))
      rw [once]
      rfl

theorem mapM_perform_of_quiet {m : Machine} (zeroed : m.controller.memory = .zero)
    (idle : m.controller.pending = 0)
    (control : m.controller.offset Offset.hsfc + Width.w16.bytes ≤ windowSize)
    {requests : List AccessRequest}
    (quiet : ∀ request ∈ requests, request.Quiet (m.controller.offset Offset.hsfc))
    (latest : List Write) :
    (requests.mapM perform).run (.start false (m.stored latest))
      = .ok (Machine.platform.window.performAll requests (m.stored latest)).1
          (.start false (Machine.platform.window.performAll requests (m.stored latest)).2) := by
  have plain := Machine.plain_window zeroed idle
  induction requests generalizing latest with
  | nil => rfl
  | cons request rest ih =>
      have first := quiet request List.mem_cons_self
      have next := ih fun request member => quiet request (List.mem_cons_of_mem _ member)
      have made := perform_of_quiet (m := m.stored latest) control first
      obtain ⟨latest', after⟩ : ∃ latest',
          (Machine.platform.window.perform request (m.stored latest)).2 = m.stored latest' := by
        cases request with
        | read width offset =>
            have kept : (Machine.platform.window.read width offset (m.stored latest)).2
                = m.stored latest := (plain.read first rfl).2
            exact ⟨latest, kept⟩
        | write width offset value =>
            have grown : Machine.platform.window.write width offset value (m.stored latest)
                = m.stored (⟨width, offset, value⟩ :: latest) := plain.write first rfl
            exact ⟨_, grown⟩
      rw [List.mapM_cons, bind_of_ok made, after, bind_of_ok (next latest')]
      rw [Mmio.performAll]
      dsimp only
      rw [after]
      rfl

end Checked

/-! ## The whole run -/

namespace Window

variable {σ : Type}

/-- A run through a window that is granted, and behind which there is plain memory. -/
theorem exercise_of_plain {p : Platform σ} {Holds : List Write → σ → Prop}
    {Allowed : AccessRequest → Prop} (plain : p.window.Plain Holds Allowed) {rcba : Rcba}
    (enabled : rcba.enable = true) {s s' : σ}
    (granted : p.map rcba.baseAddress.toNat windowSize s = (.ok (), s')) (start : Holds [] s')
    {requests : List AccessRequest} (allowed : ∀ request ∈ requests, Allowed request)
    (log : Log.Logger) :
    ∃ t, exercise p rcba requests ⟨s, log⟩
        = (.ok (rcba.baseAddress, LastWrite.replies [] requests),
            ⟨p.unmap t, log.log (.mapped rcba.baseAddress)⟩) ∧
      Holds (LastWrite.after [] requests) t := by
  obtain ⟨replies, held⟩ := plain.performAll allowed start
  refine ⟨_, ?_, held⟩
  rw [exercise, map, if_pos enabled, granted, ← replies]
  rfl

/-- Nothing tells the window of a machine from memory that holds what was written last. -/
structure AsMemory (m : Machine) (rcba : Rcba) (requests : List AccessRequest)
    (log : Log.Logger) : Prop where
  /-- The machine answers so, starts no cycle, and counts the writes as they were made.  No access
  faults. -/
  machine : ∃ m',
    exercise Machine.platform rcba requests ⟨m, log⟩
      = (.ok (rcba.baseAddress, LastWrite.replies [] requests),
          ⟨m', log.log (.mapped rcba.baseAddress)⟩) ∧
    m'.controller.cycles = 0 ∧
    m'.controller.writes.toList = requests.filterMap AccessRequest.write? ∧
    (requests.mapM Checked.perform).run (.start false (m.requested rcba.baseAddress.toNat))
      = .ok (LastWrite.replies [] requests) (.start false m')
  memory : ∃ memory,
    exercise RegisterFile.platform rcba requests ⟨.zero, log⟩
      = (.ok (rcba.baseAddress, LastWrite.replies [] requests),
          ⟨memory, log.log (.mapped rcba.baseAddress)⟩)
  /-- So does a mapping of zeroed memory, wherever it begins in a page. -/
  mapping : ∀ pageSize address size, 0 < pageSize →
    address % pageSize + windowSize ≤ Mapping.wordCount →
    ((Mapping.ofRange pageSize address windowSize).mmio.performAll requests
      (.zero pageSize size)).1 = LastWrite.replies [] requests

/-- A fresh controller behind the window is plain memory to all accesses that start no cycle. -/
theorem exercise_as_memory {m : Machine} {spiBar : Nat} {flash : Flash} {errors : List Nat}
    {stuck : Bool} {delay : Nat}
    (fresh : m.controller = { Controller.fresh spiBar flash with errors, stuck, delay })
    (grants : m.mapperRefuses = false) (room : spiBar + 8 ≤ windowSize) {rcba : Rcba}
    (enabled : rcba.enable = true) {requests : List AccessRequest}
    (quiet : ∀ request ∈ requests, request.Quiet (spiBar + Offset.hsfc)) (log : Log.Logger) :
    AsMemory m rcba requests log := by
  let start := m.requested rcba.baseAddress.toNat
  have zeroed : start.controller.memory = .zero := congrArg Controller.memory fresh
  have idle : start.controller.pending = 0 := congrArg Controller.pending fresh
  have uncounted : start.controller.writes = #[] := congrArg Controller.writes fresh
  have place : start.controller.offset Offset.hsfc = spiBar + Offset.hsfc :=
    congrArg (·.offset Offset.hsfc) fresh
  have control : start.controller.offset Offset.hsfc + Width.w16.bytes ≤ windowSize := by
    rw [place]
    exact room
  rw [← place] at quiet
  have inside (request : AccessRequest) (member : request ∈ requests) := (quiet request member).1
  have plain := Machine.plain_window zeroed idle
  have nothing : start = start.stored [] := start.stored_nil.symm
  refine ⟨?_, ?_, ?_⟩
  · have granted : Machine.platform.map rcba.baseAddress.toNat windowSize m = (.ok (), start) :=
      Prod.ext (if_neg (Bool.not_eq_true _ ▸ grants)) rfl
    obtain ⟨m', made, held⟩ := exercise_of_plain plain enabled granted nothing quiet log
    have checked := Checked.mapM_perform_of_quiet zeroed idle control quiet []
    obtain ⟨replies, after⟩ := plain.performAll quiet nothing
    rw [Machine.stored_nil, replies, after, ← held] at checked
    refine ⟨m', made, ?_, ?_, checked⟩
    · rw [held]
      exact congrArg Controller.cycles fresh
    · rw [held]
      change (start.controller.writes ++ (LastWrite.after [] requests).reverse.toArray).toList = _
      rw [uncounted, LastWrite.reverse_after_nil, Array.toList_append, List.toList_toArray]
      rfl
  · have zero : RegisterFile.zero = .written [] := rfl
    obtain ⟨memory, made, -⟩ := exercise_of_plain (p := RegisterFile.platform)
      RegisterFile.plain_mmio enabled rfl zero inside log
    exact ⟨memory, made⟩
  · intro pageSize address size positive room
    have held : Mapping.HoldsWindow pageSize address [] (.zero pageSize size) :=
      ⟨rfl, fun _ _ => rfl⟩
    exact ((Mapping.plain_mmio positive room).performAll inside held).1

/-- Accesses that overlap in every way, at a controller of which only HSFC lies in the window. -/
def overlapping : List AccessRequest :=
  [.write .w64 0x3ff8 0x8876665544332211, .write .w8 0x3ffd 0xaa, .read .w16 0x3ffc,
    .write .w16 0x3ffe 0xbb00, .read .w64 0x3ff8, .read .w32 0x3ffb, .read .w32 0]

theorem exercise_as_memory_of_overlapping :
    AsMemory (.intel 0x2810 0x3ff8 2) (.decode 0xfed1c001) overlapping (.empty .off) := by
  have quiet : ∀ request ∈ overlapping, request.Quiet (0x3ff8 + Offset.hsfc) := by decide
  exact exercise_as_memory rfl rfl (by decide) rfl quiet _

/-- The byte that was written last is found in a word that was written before, and a word is read
off bytes of more than one write. -/
example : LastWrite.replies [] overlapping
    = [.done, .done, .value .w16 0xaa55, .done, .value .w64 0xbb00aa5544332211,
        .value .w32 0xaa5544, .value .w32 0] := by decide

end Window

end FlashDump
