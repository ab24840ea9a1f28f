import FlashDump.Sequencer.Plan

/-!
# Requests that are accepted

`Request.Accepted` says which requests are sound, in numbers alone.  They are those
for which there is a plan (`Request.plan_of_accepted`, `Request.accepted_of_plan`), and
the plan is the one that the numbers describe.
-/

namespace FlashDump

/-- A sound request: blocks of whole dwords that fit the flash data registers, a whole
number of them, all in the flash address space. -/
structure Request.Accepted (r : Request) : Prop where
  four_le : 4 ≤ r.blockSize
  le_sixtyFour : r.blockSize ≤ 64
  dwords : 4 ∣ r.blockSize
  blocks : r.blockSize ∣ r.size
  fits : r.start + r.size ≤ Register.flashAddressSpace

namespace Request

/-- The number of blocks that are asked for. -/
def blockCount (r : Request) : Nat := r.size / r.blockSize

/-- The addresses of the blocks, in order. -/
def addresses (r : Request) : List Nat :=
  (List.range r.blockCount).map fun i => r.start + i * r.blockSize

theorem addresses_eq_range' (r : Request) :
    r.addresses = List.range' r.start r.blockCount r.blockSize := by
  apply List.ext_getElem (by simp [addresses])
  intro i _ _
  simp [addresses, Nat.mul_comm]

/-- A block lies within what is asked for. -/
theorem add_blockSize_le {r : Request} (h : r.Accepted) {address : Nat}
    (member : address ∈ r.addresses) : address + r.blockSize ≤ r.start + r.size := by
  obtain ⟨i, inside, rfl⟩ := List.mem_map.1 member
  have whole : r.blockCount * r.blockSize = r.size := Nat.div_mul_cancel h.blocks
  have last : (i + 1) * r.blockSize ≤ r.blockCount * r.blockSize :=
    Nat.mul_le_mul_right _ (List.mem_range.1 inside)
  rw [Nat.succ_mul, whole] at last
  omega

theorem blockCount_pos {r : Request} (h : r.Accepted) (some_block : 0 < r.size) :
    0 < r.blockCount := by
  have positive : 0 < r.blockSize := Nat.lt_of_lt_of_le (by decide) h.four_le
  exact Nat.div_pos (Nat.le_of_dvd some_block h.blocks) positive

theorem plan_of_accepted {r : Request} (h : r.Accepted) :
    ∃ p, r.plan = .ok p ∧ p.start = r.start ∧ 4 * p.words = r.blockSize ∧
      p.count = r.blockCount := by
  have range : ¬ (r.blockSize < minBlockSize ∨ maxBlockSize < r.blockSize) := by
    have := h.four_le
    have := h.le_sixtyFour
    unfold minBlockSize maxBlockSize Register.fdataCount
    omega
  have multiple : ¬ r.blockSize % 4 ≠ 0 := by
    intro rest
    exact rest (Nat.mod_eq_zero_of_dvd h.dwords)
  have whole : ¬ r.size % r.blockSize ≠ 0 := by
    intro rest
    exact rest (Nat.mod_eq_zero_of_dvd h.blocks)
  have past : ¬ Register.flashAddressSpace < r.start + r.size := Nat.not_lt.2 h.fits
  refine ⟨_, by rw [plan, dif_neg range, dif_neg multiple, dif_neg whole, dif_neg past], rfl, ?_,
    rfl⟩
  exact Nat.mul_div_cancel' h.dwords

theorem accepted_of_plan {r : Request} {p : Plan} (h : r.plan = .ok p) : r.Accepted := by
  have block := plan_blockSize h
  have size := plan_size h
  have start := plan_start h
  have positive := p.words_pos
  have most := p.words_le
  have fits := p.fits
  unfold Plan.size at size
  unfold Plan.blockSize at block size
  unfold Register.fdataCount at most
  rw [start, size] at fits
  exact ⟨by omega, by omega, ⟨p.words, block.symm⟩, ⟨p.count, by rw [← size, ← block, Nat.mul_comm]⟩,
    fits⟩

end Request

end FlashDump
