import FlashDump.Chipset.Failure

/-!
# Read requests

A read is asked for by its first address, its size and the size of its blocks.  A
`Request` is any three numbers.  A `Plan` is a request that the controller can
carry out: blocks of one to sixteen flash data registers, a whole number of them,
all within the flash address space.

`Request.plan` checks a request.  Four conditions are tested in a fixed order and
the first that fails is reported.  `plan_start`, `plan_blockSize` and `plan_size`
say that a plan describes the read that was asked for.
-/

namespace FlashDump

/-- What a read asks for. -/
structure Request where
  start : Nat
  size : Nat
  /-- The number of bytes per cycle. -/
  blockSize : Nat
deriving DecidableEq, Repr

/-- The smallest block: one flash data register. -/
def minBlockSize : Nat := 4

/-- The largest block: all flash data registers. -/
def maxBlockSize : Nat := 4 * Register.fdataCount

/-- A read that the controller can carry out. -/
structure Plan where
  start : Nat
  /-- The number of flash data registers per block. -/
  words : Nat
  count : Nat
  words_pos : 0 < words
  /-- A block fits the flash data registers. -/
  words_le : words ≤ Register.fdataCount
  /-- The read ends within the address space. -/
  fits : start + count * (4 * words) ≤ Register.flashAddressSpace

namespace Plan

def blockSize (p : Plan) : Nat := 4 * p.words

def size (p : Plan) : Nat := p.count * p.blockSize

end Plan

namespace Request

/-- Check a request. -/
def plan (r : Request) : Except ArgumentFault Plan :=
  if range : r.blockSize < minBlockSize ∨ maxBlockSize < r.blockSize then .error .blockSizeRange
  else if multiple : r.blockSize % 4 ≠ 0 then .error .blockSizeMultiple
  else if whole : r.size % r.blockSize ≠ 0 then .error .sizeMultiple
  else if past : Register.flashAddressSpace < r.start + r.size then .error .pastEnd
  else
    .ok
      { start := r.start
        words := r.blockSize / 4
        count := r.size / r.blockSize
        words_pos := by unfold minBlockSize at range; omega
        words_le := by unfold maxBlockSize at range; omega
        fits := by
          have block : 4 * (r.blockSize / 4) = r.blockSize := by omega
          have total : r.size / r.blockSize * r.blockSize = r.size :=
            Nat.div_mul_cancel (Nat.dvd_of_mod_eq_zero (Decidable.not_not.1 whole))
          rw [block, total]
          exact Nat.le_of_not_lt past }

theorem plan_eq_ok {r : Request} {p : Plan} (h : r.plan = .ok p) :
    p.start = r.start ∧ p.blockSize = r.blockSize ∧ p.size = r.size := by
  unfold plan at h
  split at h
  · cases h
  · split at h
    · cases h
    · split at h
      · cases h
      · split at h
        · cases h
        · rename_i multiple whole _
          cases h
          have block : 4 * (r.blockSize / 4) = r.blockSize := by omega
          have total : r.size / r.blockSize * r.blockSize = r.size :=
            Nat.div_mul_cancel (Nat.dvd_of_mod_eq_zero (Decidable.not_not.1 whole))
          simp only [Plan.size, Plan.blockSize, block, total, and_self]

theorem plan_start {r : Request} {p : Plan} (h : r.plan = .ok p) : p.start = r.start :=
  (plan_eq_ok h).1

theorem plan_blockSize {r : Request} {p : Plan} (h : r.plan = .ok p) :
    p.blockSize = r.blockSize :=
  (plan_eq_ok h).2.1

theorem plan_size {r : Request} {p : Plan} (h : r.plan = .ok p) : p.size = r.size :=
  (plan_eq_ok h).2.2

end Request

end FlashDump
