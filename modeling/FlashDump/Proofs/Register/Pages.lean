import FlashDump.Proofs.Bits.Composed
import FlashDump.Register.Bridge
import FlashDump.Register.Region
import Mathlib.Order.Interval.Finset.Nat

/-!
# Pages of flash

FREG, PR and BFPR name a range of flash by its first and its last page.  What the records hold
are byte addresses, and nothing is lost by that: a page number is found again in the address of
any byte of the page (`value_pageBase`, `value_pageLimit`).  So each record has a word that it
was decoded from, and no other (`Freg.word_decode` and its like).

A range of FREG or PR goes from the first byte of one page to the last byte of another.  It has
an address just if it has the page of the address (`pageExact`).  BFPR is different: its limit is
the first byte of a page, so the last page is not in it but for that byte.

All of this holds for every word.  The first page may come after the last, and then there is no
address in the range.
-/

namespace FlashDump.Register

open FlashDump.Bits

/-! ## Page numbers -/

theorem toNat_value {w : Nat} (f : Field w) (x : BitVec w) :
    (f.value x).toNat = (x.extractLsb f.msb f.lsb).toNat := by
  have ordered := f.lsb_le_msb
  have inside := f.msb_lt
  have fits : 2 ^ (f.msb - f.lsb + 1) ≤ 2 ^ w := Nat.pow_le_pow_right (by decide) (by omega)
  have small : (x.extractLsb f.msb f.lsb).toNat < 2 ^ w := Nat.lt_of_lt_of_le (BitVec.isLt _) fits
  rw [Field.value, BitVec.toNat_setWidth]
  exact Nat.mod_eq_of_lt small

/-- The number of the first page, bits 12:0. -/
def firstPage (raw : BitVec 32) : Nat := (raw.extractLsb 12 0).toNat

/-- The number of the last page, bits 28:16. -/
def lastPage (raw : BitVec 32) : Nat := (raw.extractLsb 28 16).toNat

theorem toNat_basePage (raw : BitVec 32) : (basePage raw).toNat = firstPage raw :=
  toNat_value _ raw

theorem toNat_limitPage (raw : BitVec 32) : (limitPage raw).toNat = lastPage raw :=
  toNat_value _ raw

theorem basePage_lt (raw : BitVec 32) : (basePage raw).toNat < 2 ^ 13 := by
  rw [toNat_basePage]
  exact BitVec.isLt _

theorem limitPage_lt (raw : BitVec 32) : (limitPage raw).toNat < 2 ^ 13 := by
  rw [toNat_limitPage]
  exact BitVec.isLt _

/-! ## Addresses -/

section Addresses

variable {page : BitVec 32} (fits : page.toNat < 2 ^ 13)

include fits

theorem toNat_pageBase : (pageBase page).toNat = page.toNat * 4096 := by
  have cut : page.toNat % 2 ^ 13 = page.toNat := Nat.mod_eq_of_lt fits
  change (((page.setWidth 13).setWidth 32) <<< 12).toNat = _
  rw [BitVec.toNat_shiftLeft, BitVec.toNat_setWidth, BitVec.toNat_setWidth, cut,
    Nat.mod_eq_of_lt page.isLt, Nat.shiftLeft_eq]
  omega

/-- The limit is the last byte of the page. -/
theorem toNat_pageLimit : (pageLimit page).toNat = page.toNat * 4096 + 4095 := by
  have last : 0xfff < 2 ^ 12 := by decide
  have joined := Nat.shiftLeft_add_eq_or_of_lt last page.toNat
  rw [Nat.shiftLeft_eq] at joined
  rw [pageLimit, BitVec.toNat_or, toNat_pageBase fits]
  exact joined.symm

end Addresses

/-- The page number of an address. -/
def pageField : Field 32 := field 24 12

@[simp] theorem value_pageBase (page : BitVec 32) : pageField.value (pageBase page) = cut 13 page :=
  Field.value_place _ page

@[simp] theorem value_pageLimit (page : BitVec 32) :
    pageField.value (pageLimit page) = cut 13 page := by
  have low : pageField.value 0xfff#32 = 0 := by decide
  rw [pageLimit, Field.value_or, value_pageBase, low]
  exact BitVec.or_zero

/-- The addresses from a base to a limit are those of the pages from the first to the last. -/
structure PageExact (first last : Nat) (base limit : BitVec 32) : Prop where
  base_lt : base.toNat < 2 ^ 25
  limit_lt : limit.toNat < 2 ^ 25
  mem_iff : ∀ address, base.toNat ≤ address ∧ address ≤ limit.toNat
    ↔ first ≤ address >>> 12 ∧ address >>> 12 ≤ last

theorem pageExact (raw : BitVec 32) :
    PageExact (firstPage raw) (lastPage raw) (pageBase (basePage raw)) (pageLimit (limitPage raw)) := by
  have first := basePage_lt raw
  have last := limitPage_lt raw
  have base := toNat_pageBase first
  have limit := toNat_pageLimit last
  rw [toNat_basePage] at first base
  rw [toNat_limitPage] at last limit
  refine ⟨by omega, by omega, ?_⟩
  intro address
  rw [base, limit, Nat.shiftRight_eq_div_pow]
  omega

/-! ## Words -/

/-- Bits above the width of a field are dropped in any case. -/
@[simp] theorem place_cut {w bits : Nat} (f : Field w) (wide : f.width = bits) (v : BitVec w) :
    f.place (cut bits v) = f.place v := by
  subst wide
  rw [Field.place, setWidth_cut (Nat.le_refl _)]
  rfl

/-- The word that a region was decoded from. -/
def Freg.word (r : Freg) : BitVec 32 :=
  (field 31 29).place (r.reserved31.setWidth 32)
    ||| (field 28 16).place (pageField.value r.regionLimit)
    ||| (field 15 13).place (r.reserved15.setWidth 32)
    ||| (field 12 0).place (pageField.value r.regionBase)

/-- The word that a protected range was decoded from. -/
def ProtectedRange.word (r : ProtectedRange) : BitVec 32 :=
  flag 31 r.writeProtectionEnable
    ||| (field 30 29).place (r.reserved30.setWidth 32)
    ||| (field 28 16).place (pageField.value r.limit)
    ||| flag 15 r.readProtectionEnable
    ||| (field 14 13).place (r.reserved14.setWidth 32)
    ||| (field 12 0).place (pageField.value r.base)

/-- The word that the primary region was decoded from. -/
def Bfpr.word (r : Bfpr) : BitVec 32 :=
  (field 31 29).place (r.reserved31.setWidth 32)
    ||| (field 28 16).place (pageField.value r.limit)
    ||| (field 15 13).place (r.reserved15.setWidth 32)
    ||| (field 12 0).place (pageField.value r.base)

/-- The word that the base of the root complex was decoded from. -/
def Rcba.word (r : Rcba) : BitVec 32 :=
  r.baseAddress ||| (field 13 1).place r.reserved ||| flag 0 r.enable

theorem Freg.word_decode (raw : BitVec 32) : word (decode raw) = raw := by
  simp (disch := decide) [word, decode, basePage, limitPage]
  exact Field.mask_of_whole _ rfl (Nat.le_refl 32) raw

theorem ProtectedRange.word_decode (raw : BitVec 32) : word (decode raw) = raw := by
  simp (disch := decide) [word, decode, basePage, limitPage]
  exact Field.mask_of_whole _ rfl (Nat.le_refl 32) raw

theorem Bfpr.word_decode (raw : BitVec 32) : word (decode raw) = raw := by
  simp (disch := decide) [word, decode, basePage, limitPage]
  exact Field.mask_of_whole _ rfl (Nat.le_refl 32) raw

theorem Rcba.word_decode (raw : BitVec 32) : word (decode raw) = raw := by
  simp (disch := decide) [word, decode]
  exact Field.mask_of_whole _ rfl (Nat.le_refl 32) raw

/-! ## The four registers -/

/-- A field that is left where it is has nothing below its low end. -/
theorem dvd_toNat_mask {w : Nat} (f : Field w) (x : BitVec w) : 2 ^ f.lsb ∣ (f.mask x).toNat := by
  have inside : f.lsb ≤ w := Nat.le_of_lt (Nat.lt_of_le_of_lt f.lsb_le_msb f.msb_lt)
  rw [Field.mask, Field.place, BitVec.toNat_shiftLeft, Nat.shiftLeft_eq]
  exact (Nat.dvd_mod_iff (Nat.pow_dvd_pow 2 inside)).2 (Nat.dvd_mul_left _ _)

/-- A region is enabled if its pages are in order. -/
theorem Freg.isEnabled_decode_iff (raw : BitVec 32) :
    (decode raw).isEnabled = true ↔ firstPage raw ≤ lastPage raw := by
  have base := toNat_pageBase (basePage_lt raw)
  have limit := toNat_pageLimit (limitPage_lt raw)
  rw [toNat_basePage] at base
  rw [toNat_limitPage] at limit
  rw [isEnabled, decide_eq_true_iff, BitVec.le_def]
  change (pageBase (basePage raw)).toNat ≤ (pageLimit (limitPage raw)).toNat ↔ _
  rw [base, limit]
  omega

/-- What a word means as each of the four registers. -/
structure Geometry (raw : BitVec 32) : Prop where
  region : PageExact (firstPage raw) (lastPage raw)
    (Freg.decode raw).regionBase (Freg.decode raw).regionLimit
  range : PageExact (firstPage raw) (lastPage raw)
    (ProtectedRange.decode raw).base (ProtectedRange.decode raw).limit
  enabled : (Freg.decode raw).isEnabled = true ↔ firstPage raw ≤ lastPage raw
  inhabited : (Freg.decode raw).isEnabled = true ↔ ∃ address,
    (Freg.decode raw).regionBase.toNat ≤ address ∧ address ≤ (Freg.decode raw).regionLimit.toNat
  size : (Freg.decode raw).isEnabled = true →
    (Finset.Icc (Freg.decode raw).regionBase.toNat (Freg.decode raw).regionLimit.toNat).card
      = (lastPage raw - firstPage raw + 1) * 4096
  primaryBase : (Bfpr.decode raw).base.toNat = firstPage raw * 4096
  primaryLimit : (Bfpr.decode raw).limit.toNat = lastPage raw * 4096
  rootComplex : 0x4000 ∣ (Rcba.decode raw).baseAddress.toNat

theorem geometry (raw : BitVec 32) : Geometry raw := by
  have first := toNat_pageBase (basePage_lt raw)
  have last := toNat_pageBase (limitPage_lt raw)
  have limit := toNat_pageLimit (limitPage_lt raw)
  rw [toNat_basePage] at first
  rw [toNat_limitPage] at last limit
  have base : (Freg.decode raw).regionBase.toNat = firstPage raw * 4096 := first
  have top : (Freg.decode raw).regionLimit.toNat = lastPage raw * 4096 + 4095 := limit
  have enabled := Freg.isEnabled_decode_iff raw
  constructor
  case region => exact pageExact raw
  case range => exact pageExact raw
  case enabled => exact enabled
  case inhabited =>
    rw [enabled, base, top]
    constructor
    · intro ordered
      exact ⟨firstPage raw * 4096, Nat.le_refl _, by omega⟩
    · rintro ⟨address, low, high⟩
      omega
  case size =>
    intro ordered
    rw [enabled] at ordered
    rw [Nat.card_Icc, base, top]
    omega
  case primaryBase => exact first
  case primaryLimit => exact last
  case rootComplex => exact dvd_toNat_mask (field 31 14) raw

/-- No word is decoded to the record of another, and each record has just the addresses that the
page numbers of its word give. -/
theorem decode_lossless_pageExact :
    Function.Injective Freg.decode ∧ Function.Injective ProtectedRange.decode ∧
      Function.Injective Bfpr.decode ∧ Function.Injective Rcba.decode ∧
      ∀ raw, Geometry raw :=
  ⟨Function.LeftInverse.injective Freg.word_decode,
    Function.LeftInverse.injective ProtectedRange.word_decode,
    Function.LeftInverse.injective Bfpr.word_decode,
    Function.LeftInverse.injective Rcba.word_decode, geometry⟩

/-- The last page of the address space. -/
example : (Freg.decode 0x1fff1fff).regionBase = 0x1fff000 ∧
    (Freg.decode 0x1fff1fff).regionLimit = 0x1ffffff := by decide

end FlashDump.Register
