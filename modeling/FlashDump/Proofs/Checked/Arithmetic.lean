import FlashDump.Bits.Field
import FlashDump.Chipset.Failure
import Mathlib.Algebra.Group.Nat.Defs

/-!
# Programs that can fault

A machine word can be too small for a sum, and a table has no entry past its last.  A `Checked`
program looks at each such operation before it makes it.  It stops with a `Fault` at the first
that has no result, and the state stays as it is at that moment.  So a program that is checked and
does not fault never leaves the words that it computes with.

Each operation has one equation, under the condition that it has a result.  `bind_of_ok` goes past
a step of a program.
-/

namespace FlashDump

/-- Why a program stops. -/
inductive Fault where
  | misuse (m : Misuse)
  | range (f : Bits.RangeFault)
  /-- The result does not fit its word, or a shift is as wide as its word. -/
  | overflow
  | zeroDivisor
  /-- A slice or an index past the end. -/
  | bounds
deriving DecidableEq, Repr

/-- Programs with states `σ` that stop at a fault. -/
abbrev Checked (σ α : Type) : Type := EStateM Fault σ α

namespace Checked

variable {σ α β : Type}

theorem bind_of_ok {x : Checked σ α} {f : α → Checked σ β} {a : α} {s s' : σ}
    (ok : x.run s = .ok a s') : (x >>= f).run s = (f a).run s' := by
  rw [EStateM.run_bind, ok]

theorem bind_of_error {x : Checked σ α} {f : α → Checked σ β} {fault : Fault} {s s' : σ}
    (error : x.run s = .error fault s') : (x >>= f).run s = .error fault s' := by
  rw [EStateM.run_bind, error]

/-- Run a program on a part of the state. -/
def zoom {ρ : Type} (part : σ → ρ) (put : ρ → σ → σ) (x : Checked ρ α) : Checked σ α := fun s =>
  match x.run (part s) with
  | .ok a r => .ok a (put r s)
  | .error fault r => .error fault (put r s)

theorem zoom_of_ok {ρ : Type} {part : σ → ρ} {put : ρ → σ → σ} {x : Checked ρ α} {a : α} {r : ρ}
    {s : σ} (ok : x.run (part s) = .ok a r) : (zoom part put x).run s = .ok a (put r s) := by
  rw [EStateM.run, zoom, ok]

/-- A loop over a list, where each turn is known in the states that `kept` describes. -/
theorem forM_of_ok {x : β → Checked σ Unit} {f : σ → β → σ} {kept : σ → Prop} {l : List β}
    (turn : ∀ b ∈ l, ∀ s, kept s → (x b).run s = .ok () (f s b) ∧ kept (f s b)) {s : σ}
    (first : kept s) : (forM l x).run s = .ok () (l.foldl f s) := by
  induction l generalizing s with
  | nil => rfl
  | cons b l ih =>
      obtain ⟨ok, next⟩ := turn b List.mem_cons_self s first
      rw [List.forM_cons, bind_of_ok ok, List.foldl_cons]
      exact ih (fun b member => turn b (List.mem_cons_of_mem _ member)) next

theorem mapM_of_pure {x : β → Checked σ α} {f : β → α} {l : List β}
    (turn : ∀ b ∈ l, x b = pure (f b)) : l.mapM x = pure (l.map f) := by
  induction l with
  | nil => rfl
  | cons b l ih =>
      rw [List.mapM_cons, turn b List.mem_cons_self, pure_bind,
        ih fun b member => turn b (List.mem_cons_of_mem _ member), pure_bind, List.map_cons]

/-! ## Words of a number of bits -/

def add (bits a b : Nat) : Checked σ Nat :=
  if a + b < 2 ^ bits then pure (a + b) else throw .overflow

def sub (a b : Nat) : Checked σ Nat := if b ≤ a then pure (a - b) else throw .overflow

def mul (bits a b : Nat) : Checked σ Nat :=
  if a * b < 2 ^ bits then pure (a * b) else throw .overflow

def div (a b : Nat) : Checked σ Nat := if b = 0 then throw .zeroDivisor else pure (a / b)

def rem (a b : Nat) : Checked σ Nat := if b = 0 then throw .zeroDivisor else pure (a % b)

def shiftLeft {w : Nat} (x : BitVec w) (n : Nat) : Checked σ (BitVec w) :=
  if n < w then pure (x <<< n) else throw .overflow

def shiftRight {w : Nat} (x : BitVec w) (n : Nat) : Checked σ (BitVec w) :=
  if n < w then pure (x >>> n) else throw .overflow

section Words

variable {bits a b w n : Nat}

theorem add_eq (fits : a + b < 2 ^ bits) : (add bits a b : Checked σ Nat) = pure (a + b) :=
  if_pos fits

theorem sub_eq (fits : b ≤ a) : (sub a b : Checked σ Nat) = pure (a - b) := if_pos fits

theorem mul_eq (fits : a * b < 2 ^ bits) : (mul bits a b : Checked σ Nat) = pure (a * b) :=
  if_pos fits

theorem div_eq (divisor : b ≠ 0) : (div a b : Checked σ Nat) = pure (a / b) := if_neg divisor

theorem rem_eq (divisor : b ≠ 0) : (rem a b : Checked σ Nat) = pure (a % b) := if_neg divisor

theorem shiftLeft_eq (inside : n < w) (x : BitVec w) :
    (shiftLeft x n : Checked σ (BitVec w)) = pure (x <<< n) :=
  if_pos inside

theorem shiftRight_eq (inside : n < w) (x : BitVec w) :
    (shiftRight x n : Checked σ (BitVec w)) = pure (x >>> n) :=
  if_pos inside

end Words

/-! ## Slices and tables -/

/-- Take the slice `start..stop` of so many items. -/
def slice (length start stop : Nat) : Checked σ Unit :=
  if start ≤ stop ∧ stop ≤ length then pure () else throw .bounds

/-- The entry of a table. -/
def entry (table : List α) (index : Nat) : Checked σ α :=
  match table[index]? with
  | some x => pure x
  | none => throw .bounds

theorem slice_eq {length start stop : Nat} (ordered : start ≤ stop) (inside : stop ≤ length) :
    (slice length start stop : Checked σ Unit) = pure () :=
  if_pos ⟨ordered, inside⟩

theorem entry_eq {table : List α} {index : Nat} {x : α} (found : table[index]? = some x) :
    (entry table index : Checked σ α) = pure x := by
  rw [entry, found]

end Checked

end FlashDump
