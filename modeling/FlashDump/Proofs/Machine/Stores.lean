import FlashDump.Proofs.Machine.Accesses

/-!
# Writes that only store

A write starts a cycle or it does nothing but store.  Which of the two can be told from the write
alone (`Write.starts`): it starts a cycle if the byte that it leaves at HSFC has the lowest bit
set.  `Controller.write_eq` is the whole of what a write does.

Where no write of a list starts a cycle, all of them together are stores (`writeAll_of_quiet`).
So they change the memory as plain memory would be changed, and besides that only the list of the
writes grows.
-/

namespace FlashDump

open FlashDump.Register

namespace Write

/-- Whether the byte at an address is one of those that are stored. -/
def Covers (w : Write) (address : Nat) : Prop :=
  w.offset ≤ address ∧ address < w.offset + w.width.bytes

instance (w : Write) (address : Nat) : Decidable (w.Covers address) :=
  inferInstanceAs (Decidable (_ ∧ _))

/-- Whether a write starts a cycle, given where HSFC is. -/
def starts (hsfc : Nat) (w : Write) : Bool :=
  decide (w.Covers hsfc) && w.value.getLsbD (8 * (hsfc - w.offset))

/-- The write as it is seen at the hardware. -/
def access (w : Write) : Access := .write w.width w.offset w.value

theorem starts_of_not_covers {w : Write} {hsfc : Nat} (outside : ¬ w.Covers hsfc) :
    w.starts hsfc = false := by
  rw [starts, decide_eq_false outside, Bool.false_and]

/-- A write that begins at HSFC has the bit that starts a cycle as its lowest. -/
theorem starts_at (width : Width) (hsfc : Nat) (value : BitVec width.bits) :
    starts hsfc ⟨width, hsfc, value⟩ = value.getLsbD 0 := by
  have below : hsfc < hsfc + width.bytes := by
    cases width <;> exact Nat.lt_add_of_pos_right (by decide)
  have covers : Covers ⟨width, hsfc, value⟩ hsfc := ⟨Nat.le_refl hsfc, below⟩
  rw [starts, decide_eq_true covers, Bool.true_and, Nat.sub_self, Nat.mul_zero]

end Write

namespace RegisterFile

/-- Make the stores of a list of writes, in order. -/
def storeAll (m : RegisterFile) (writes : List Write) : RegisterFile :=
  writes.foldl (fun m w => m.store w.width w.offset w.value) m

/-- What no write covers is kept. -/
theorem byteAt_storeAll {writes : List Write} {i : Nat} (outside : ∀ w ∈ writes, ¬ w.Covers i)
    (m : RegisterFile) : (m.storeAll writes).byteAt i = m.byteAt i := by
  induction writes generalizing m with
  | nil => rfl
  | cons w writes ih =>
      have first : ¬ (w.offset ≤ i ∧ i < w.offset + w.width.bytes ∧ i < windowSize) :=
        fun covered => outside w List.mem_cons_self ⟨covered.1, covered.2.1⟩
      rw [storeAll, List.foldl_cons]
      refine (ih (fun w member => outside w (List.mem_cons_of_mem _ member)) _).trans ?_
      rw [byteAt_store, if_neg first]

end RegisterFile

namespace Controller

/-- The controller after writes that only store. -/
def stored (c : Controller) (writes : List Write) : Controller :=
  { c with
    memory := c.memory.storeAll writes
    writes := c.writes ++ writes.toArray }

/-- Make the writes of a list, in order. -/
def writeAll (c : Controller) (writes : List Write) : Controller :=
  writes.foldl (fun c w => c.write w.width w.offset w.value) c

theorem stored_nil (c : Controller) : c.stored [] = c := by
  simp only [stored, RegisterFile.storeAll, List.foldl_nil, Array.append_empty]

theorem stored_stored (c : Controller) (writes more : List Write) :
    (c.stored writes).stored more = c.stored (writes ++ more) := by
  simp only [stored, RegisterFile.storeAll, List.foldl_append, Array.append_assoc,
    List.append_toArray]

/-- Nothing is hidden once the last cycle has shown its end. -/
theorem read_of_idle {c : Controller} (idle : c.pending = 0) (width : Width) (offset : Nat) :
    c.read width offset = (c.memory.load width offset, c) := by
  have shown : ¬ c.hides width offset = true := by
    simp [hides, idle]
  rw [read, if_neg shown]

theorem preset_logWrite (w : Write) (c : Controller) :
    preset w.width w.offset w.value (logWrite w c) = c.stored [w] := by
  simp only [preset, logWrite, stored, RegisterFile.storeAll, List.foldl_cons, List.foldl_nil,
    Array.push_eq_append]

/-- What is found at HSFC after a write is told by the write. -/
theorem starts_stored {w : Write} (inside : w.offset + w.width.bytes ≤ windowSize)
    (c : Controller) :
    (c.stored [w]).starts w.width w.offset = w.starts (c.offset Offset.hsfc) := by
  change (decide (w.offset ≤ c.offset Offset.hsfc)
      && decide (c.offset Offset.hsfc < w.offset + w.width.bytes)
      && Bits.test 0 ((c.memory.store w.width w.offset w.value).byteAt (c.offset Offset.hsfc)))
    = w.starts (c.offset Offset.hsfc)
  rw [← Bool.decide_and]
  by_cases covered : w.Covers (c.offset Offset.hsfc)
  · have within : w.offset ≤ c.offset Offset.hsfc ∧
        c.offset Offset.hsfc < w.offset + w.width.bytes ∧ c.offset Offset.hsfc < windowSize :=
      ⟨covered.1, covered.2, Nat.lt_of_lt_of_le covered.2 inside⟩
    rw [Write.starts, RegisterFile.byteAt_store, if_pos within, Bits.test,
      BitVec.getLsbD_extractLsb', Nat.add_zero]
    rfl
  · rw [Write.starts_of_not_covers covered]
    exact (congrArg (· && _) (decide_eq_false covered)).trans (Bool.false_and _)

/-- A write stores, and if the byte of HSFC is covered and asks for it, a cycle is run. -/
theorem write_eq {w : Write} (inside : w.offset + w.width.bytes ≤ windowSize) (c : Controller) :
    c.write w.width w.offset w.value
      = if w.starts (c.offset Offset.hsfc) then (c.stored [w]).runCycle else c.stored [w] := by
  rw [write]
  change (if (preset w.width w.offset w.value (logWrite w c)).starts w.width w.offset = true
    then (preset w.width w.offset w.value (logWrite w c)).runCycle
    else preset w.width w.offset w.value (logWrite w c)) = _
  rw [preset_logWrite, starts_stored inside]

theorem writeAll_of_quiet {writes : List Write} {c : Controller}
    (inside : ∀ w ∈ writes, w.offset + w.width.bytes ≤ windowSize)
    (quiet : ∀ w ∈ writes, w.starts (c.offset Offset.hsfc) = false) :
    c.writeAll writes = c.stored writes := by
  induction writes generalizing c with
  | nil => exact c.stored_nil.symm
  | cons w writes ih =>
      have rest : (c.stored [w]).writeAll writes = (c.stored [w]).stored writes :=
        ih (c := c.stored [w]) (fun w member => inside w (List.mem_cons_of_mem _ member))
          (fun w member => quiet w (List.mem_cons_of_mem _ member))
      rw [writeAll, List.foldl_cons, write_eq (inside w List.mem_cons_self),
        quiet w List.mem_cons_self, if_neg Bool.false_ne_true]
      exact rest.trans (c.stored_stored [w] writes)

end Controller

end FlashDump
