import FlashDump.Proofs.Bits.Composed
import FlashDump.Proofs.Chipset.Resolution
import FlashDump.Proofs.Pci.PortReads

/-!
# Configuration space by its bytes

A map of configuration space is kept in dwords, and a write changes one lane of one dword.  What
comes of it is a memory of bytes.  Each byte is that of the last setting that covers it
(`LastSetting.byte?`).  Where there is none, it depends on the dword: a byte of a dword that was
written in part is zero, and a byte of any other is all ones (`LastSetting.byte`).

`ConfigMap.Holds` says which dwords there are and what is in them.  A setting keeps it
(`Holds.set`), and so it holds after any number of settings.  All that is read from the space
follows from it, and so does the identity that a chipset is found by.
-/

namespace FlashDump.Pci

open FlashDump.Bits

theorem ConfigWidth.bits_eq (width : ConfigWidth) : width.bits = 8 * width.bytes := by
  cases width <;> rfl

theorem ConfigWidth.bytes_pos (width : ConfigWidth) : 0 < width.bytes := by
  cases width <;> decide

/-- All the bytes at an offset lie in one dword. -/
def ConfigWidth.InDword (width : ConfigWidth) (offset : BitVec 8) : Prop :=
  offset.toNat % 4 + width.bytes ≤ 4

instance (width : ConfigWidth) (offset : BitVec 8) : Decidable (width.InDword offset) :=
  inferInstanceAs (Decidable (_ ≤ _))

/-! ## Addresses -/

namespace Address

/-- Two addresses are of one function, as far as they count. -/
def Same (a b : Address) : Prop :=
  a.bus = b.bus ∧ a.device.setWidth 5 = b.device.setWidth 5 ∧
    a.function.setWidth 3 = b.function.setWidth 3

variable (a : Address) (offset : BitVec 8)

theorem bus_configAddress :
    ((field 23 16).value (a.configAddress offset)).setWidth 8 = a.bus := by
  simp (disch := decide) [configAddress]

theorem device_configAddress :
    ((field 15 11).value (a.configAddress offset)).setWidth 5 = a.device.setWidth 5 := by
  simp (disch := decide) [configAddress]

theorem function_configAddress :
    ((field 10 8).value (a.configAddress offset)).setWidth 3 = a.function.setWidth 3 := by
  simp (disch := decide) [configAddress]

variable {a offset}

theorem same_of_configAddress_eq {b : Address} {offset' : BitVec 8}
    (eq : a.configAddress offset = b.configAddress offset') : a.Same b := by
  refine ⟨?_, ?_, ?_⟩
  · rw [← a.bus_configAddress offset, eq, bus_configAddress]
  · rw [← a.device_configAddress offset, eq, device_configAddress]
  · rw [← a.function_configAddress offset, eq, function_configAddress]

end Address

namespace ConfigMap

theorem toNat_and_not_three : ∀ offset : BitVec 8,
    (offset &&& ~~~3#8).toNat = offset.toNat / 4 * 4 := by
  decide

/-- Each dword has an address of its own. -/
theorem dwordAddress_eq_iff {offset offset' : BitVec 8} :
    dwordAddress offset = dwordAddress offset' ↔ offset.toNat / 4 = offset'.toNat / 4 := by
  have low (offset : BitVec 8) : (dwordAddress offset).toNat % 256 = offset.toNat / 4 * 4 := by
    rw [dwordAddress, Address.toNat_configAddress_mod, toNat_and_not_three]
  constructor
  · intro eq
    have same := (low offset).symm.trans ((congrArg (·.toNat % 256) eq).trans (low offset'))
    omega
  · intro eq
    have same : offset &&& ~~~3#8 = offset' &&& ~~~3#8 := by
      apply BitVec.eq_of_toNat_eq
      rw [toNat_and_not_three, toNat_and_not_three, eq]
    rw [dwordAddress, dwordAddress, same]

end ConfigMap

/-! ## The last setting -/

namespace ConfigMap.Setting

/-- Whether the byte at an offset is one of those that are set. -/
def Covers (s : Setting) (i : Nat) : Prop :=
  s.offset.toNat ≤ i ∧ i < s.offset.toNat + s.width.bytes

instance (s : Setting) (i : Nat) : Decidable (s.Covers i) := inferInstanceAs (Decidable (_ ∧ _))

/-- The byte at an offset that is set. -/
def byteAt (s : Setting) (i : Nat) : Byte := s.value.extractLsb' (8 * (i - s.offset.toNat)) 8

/-- A byte of any offset, two bytes but not at the end of a dword, and four bytes of one dword. -/
def Sound (s : Setting) : Prop := s.width.InDword s.offset

instance : DecidablePred Sound := fun s => inferInstanceAs (Decidable (s.width.InDword s.offset))

end ConfigMap.Setting

open ConfigMap (Setting)

namespace LastSetting

/-- The byte that was set last at an offset.  The latest setting comes first. -/
def byte? : List Setting → Nat → Option Byte
  | [], _ => none
  | s :: earlier, i => if s.Covers i then some (s.byteAt i) else byte? earlier i

/-- Whether a byte of a dword was set. -/
def Present (latest : List Setting) (dword : Nat) : Prop :=
  ∃ k < 4, (byte? latest (dword * 4 + k)).isSome

instance (latest : List Setting) (dword : Nat) : Decidable (Present latest dword) :=
  inferInstanceAs (Decidable (∃ k < 4, _))

/-- The byte at an offset. -/
def byte (latest : List Setting) (i : Nat) : Byte :=
  match byte? latest i with
  | some b => b
  | none => if Present latest (i / 4) then 0 else 0xff

/-- The word at an offset, the lowest byte first. -/
def word (latest : List Setting) (width : ConfigWidth) (offset : Nat) : BitVec width.bits :=
  LittleEndian.word width.bits ((List.range width.bytes).map fun k => byte latest (offset + k))

/-- The identity of the LPC bridge. -/
def identity (latest : List Setting) : HardwareId :=
  ⟨word latest .w16 0, word latest .w16 2, word latest .w8 8⟩

theorem present_cons {s : Setting} (sound : s.Sound) (latest : List Setting) (dword : Nat) :
    Present (s :: latest) dword ↔ dword = s.offset.toNat / 4 ∨ Present latest dword := by
  unfold ConfigMap.Setting.Sound ConfigWidth.InDword at sound
  constructor
  · rintro ⟨k, low, found⟩
    by_cases covered : s.Covers (dword * 4 + k)
    · unfold ConfigMap.Setting.Covers at covered
      left
      omega
    · rw [byte?, if_neg covered] at found
      exact .inr ⟨k, low, found⟩
  · rintro (rfl | ⟨k, low, found⟩)
    · have positive := s.width.bytes_pos
      have covered : s.Covers (s.offset.toNat / 4 * 4 + s.offset.toNat % 4) := by
        unfold ConfigMap.Setting.Covers
        omega
      refine ⟨s.offset.toNat % 4, Nat.mod_lt _ (by decide), ?_⟩
      rw [byte?, if_pos covered]
      rfl
    · refine ⟨k, low, ?_⟩
      rw [byte?]
      split
      · rfl
      · exact found

end LastSetting

/-! ## Settings -/

namespace ConfigMap

/-- A setting changes one dword. -/
theorem dword_set_of_ne (m : ConfigMap) {s : Setting} {address : BitVec 32}
    (other : address ≠ dwordAddress s.offset) : (m.set s).dword address = m.dword address := by
  obtain ⟨width, offset, value⟩ := s
  cases width with
  | w8 => exact if_neg other
  | w16 => exact if_neg other
  | w32 => exact if_neg other

/-- The dword in which some bits are replaced from a place on. -/
def replace (old : BitVec 32) (shift : Nat) {w : Nat} (value : BitVec w) : BitVec 32 :=
  (old &&& ~~~((BitVec.allOnes w).setWidth 32 <<< shift)) ||| value.setWidth 32 <<< shift

theorem getLsbD_replace (old : BitVec 32) (shift : Nat) {w : Nat} (value : BitVec w) {i : Nat}
    (inside : i < 32) :
    (replace old shift value).getLsbD i
      = if shift ≤ i ∧ i < shift + w then value.getLsbD (i - shift) else old.getLsbD i := by
  have below : i - shift < 32 := by omega
  rw [replace, BitVec.getLsbD_or, BitVec.getLsbD_and, BitVec.getLsbD_not, BitVec.getLsbD_shiftLeft,
    BitVec.getLsbD_shiftLeft, BitVec.getLsbD_setWidth, BitVec.getLsbD_setWidth,
    BitVec.getLsbD_allOnes]
  by_cases before : i < shift
  · have outside : ¬ (shift ≤ i ∧ i < shift + w) := by omega
    rw [if_neg outside]
    simp [inside, before]
  · by_cases within : i - shift < w
    · have covered : shift ≤ i ∧ i < shift + w := by omega
      rw [if_pos covered]
      simp [inside, below, before, within]
    · have outside : ¬ (shift ≤ i ∧ i < shift + w) := by omega
      rw [if_neg outside, BitVec.getLsbD_of_ge value _ (Nat.not_lt.1 within)]
      simp [inside, below, before, within]

theorem replace_all (old value : BitVec 32) : replace old 0 value = value := by
  apply BitVec.eq_of_getLsbD_eq
  intro i inside
  rw [getLsbD_replace old 0 value inside, if_pos (by omega), Nat.sub_zero]

theorem toNat_and_three : ∀ offset : BitVec 8, (offset &&& 3#8).toNat = offset.toNat % 4 := by
  decide

theorem merge_eq (m : ConfigMap) (offset : BitVec 8) {w : Nat} (value : BitVec w) :
    m.merge offset ((BitVec.allOnes w).setWidth 32) (value.setWidth 32)
      = m.setDword (dwordAddress offset)
          (replace ((m.dword (dwordAddress offset)).getD 0) (8 * (offset.toNat % 4)) value) := by
  have masked : (value.setWidth 32 &&& (BitVec.allOnes w).setWidth 32) = value.setWidth 32 := by
    rw [← BitVec.setWidth_and, BitVec.and_allOnes]
  rw [merge, masked, toNat_and_three, replace]

/-- A setting replaces the bits at its place. -/
theorem dword_set (m : ConfigMap) {s : Setting} (sound : s.Sound) :
    (m.set s).dword (dwordAddress s.offset)
      = some (replace ((m.dword (dwordAddress s.offset)).getD 0) (8 * (s.offset.toNat % 4))
          s.value) := by
  have found (value : BitVec 32) :
      (m.setDword (dwordAddress s.offset) value).dword (dwordAddress s.offset) = some value :=
    if_pos rfl
  rw [← found]
  obtain ⟨width, offset, value⟩ := s
  cases width with
  | w8 => exact congrArg (·.dword (dwordAddress offset)) (m.merge_eq offset value)
  | w16 => exact congrArg (·.dword (dwordAddress offset)) (m.merge_eq offset value)
  | w32 =>
      have whole : offset.toNat % 4 = 0 := by
        have inside : offset.toNat % 4 + 4 ≤ 4 := sound
        omega
      dsimp only
      rw [whole, Nat.mul_zero, replace_all]
      rfl

/-- The bytes of the dword, one by one. -/
theorem byte_replace (old : BitVec 32) (s : Setting) {k : Nat} (low : k < 4) :
    (replace old (8 * (s.offset.toNat % 4)) s.value).extractLsb' (8 * k) 8
      = if s.Covers (s.offset.toNat / 4 * 4 + k) then s.byteAt (s.offset.toNat / 4 * 4 + k)
        else old.extractLsb' (8 * k) 8 := by
  have bits := s.width.bits_eq
  apply BitVec.eq_of_getLsbD_eq
  intro j inside
  have within : 8 * k + j < 32 := by omega
  rw [BitVec.getLsbD_extractLsb', decide_eq_true inside, Bool.true_and,
    getLsbD_replace old _ s.value within]
  by_cases covered : s.Covers (s.offset.toNat / 4 * 4 + k)
  · rw [if_pos covered, Setting.byteAt, BitVec.getLsbD_extractLsb', decide_eq_true inside,
      Bool.true_and]
    unfold Setting.Covers at covered
    rw [if_pos (by omega)]
    congr 1
    omega
  · rw [if_neg covered, BitVec.getLsbD_extractLsb', decide_eq_true inside, Bool.true_and]
    unfold Setting.Covers at covered
    rw [if_neg (by omega)]

/-! ## What a map holds -/

/-- What is read at an address is the lane of its dword. -/
theorem get_eq (m : ConfigMap) (width : ConfigWidth) (a : Address) (offset : BitVec 8) :
    m.get width (a.configAddress offset)
      = (((m.dword (a.configAddress (offset &&& ~~~3#8))).getD (BitVec.allOnes 32))
          >>> (8 * (offset.toNat % 4))).setWidth width.bits := by
  rw [get, Address.configAddress_and_not_three, Address.toNat_configAddress_and_three]

theorem get_bridge_eq (m : ConfigMap) (width : ConfigWidth) (offset : BitVec 8) :
    m.get width (Address.lpcBridge.configAddress offset)
      = (((m.dword (dwordAddress offset)).getD (BitVec.allOnes 32))
          >>> (8 * (offset.toNat % 4))).setWidth width.bits :=
  m.get_eq width .lpcBridge offset

/-- A map holds the bytes of the last settings: there are the dwords of which a byte was set. -/
structure Holds (m : ConfigMap) (latest : List Setting) : Prop where
  present : ∀ offset : BitVec 8, LastSetting.Present latest (offset.toNat / 4) →
    ∃ dword, m.dword (dwordAddress offset) = some dword ∧
      ∀ k < 4, dword.extractLsb' (8 * k) 8
        = (LastSetting.byte? latest (offset.toNat / 4 * 4 + k)).getD 0
  absent : ∀ offset : BitVec 8, ¬ LastSetting.Present latest (offset.toNat / 4) →
    m.dword (dwordAddress offset) = none
  foreign : ∀ address, (∀ offset, address ≠ dwordAddress offset) → m.dword address = none

namespace Holds

theorem empty : Holds empty [] where
  present offset := by
    rintro ⟨k, -, found⟩
    cases found
  absent _ _ := rfl
  foreign _ _ := rfl

variable {latest : List Setting} {m : ConfigMap}

/-- A dword that does not exist counts as zero when it is written. -/
theorem old (holds : m.Holds latest) (offset : BitVec 8) {k : Nat} (low : k < 4) :
    ((m.dword (dwordAddress offset)).getD 0).extractLsb' (8 * k) 8
      = (LastSetting.byte? latest (offset.toNat / 4 * 4 + k)).getD 0 := by
  by_cases there : LastSetting.Present latest (offset.toNat / 4)
  · obtain ⟨dword, found, bytes⟩ := holds.present offset there
    rw [found, Option.getD_some, bytes k low]
  · have none : LastSetting.byte? latest (offset.toNat / 4 * 4 + k) = none :=
      Option.not_isSome_iff_eq_none.1 fun set => there ⟨k, low, set⟩
    rw [holds.absent offset there, none, Option.getD_none, Option.getD_none]
    exact BitVec.extractLsb'_zero

/-- And as ones when it is read. -/
theorem seen (holds : m.Holds latest) (offset : BitVec 8) {k : Nat} (low : k < 4) :
    ((m.dword (dwordAddress offset)).getD (BitVec.allOnes 32)).extractLsb' (8 * k) 8
      = LastSetting.byte latest (offset.toNat / 4 * 4 + k) := by
  have dword : (offset.toNat / 4 * 4 + k) / 4 = offset.toNat / 4 := by omega
  rw [LastSetting.byte, dword]
  by_cases there : LastSetting.Present latest (offset.toNat / 4)
  · obtain ⟨dword, found, bytes⟩ := holds.present offset there
    rw [found, Option.getD_some, bytes k low, if_pos there]
    cases LastSetting.byte? latest (offset.toNat / 4 * 4 + k) <;> rfl
  · have none : LastSetting.byte? latest (offset.toNat / 4 * 4 + k) = none :=
      Option.not_isSome_iff_eq_none.1 fun set => there ⟨k, low, set⟩
    have ones : ∀ k < 4, (BitVec.allOnes 32).extractLsb' (8 * k) 8 = 0xff := by decide
    rw [holds.absent offset there, none, Option.getD_none, if_neg there]
    exact ones k low

theorem set (holds : m.Holds latest) {s : Setting} (sound : s.Sound) :
    (m.set s).Holds (s :: latest) where
  present offset there := by
    by_cases same : offset.toNat / 4 = s.offset.toNat / 4
    · refine ⟨_, by rw [dwordAddress_eq_iff.2 same, m.dword_set sound], ?_⟩
      intro k low
      rw [byte_replace _ s low, holds.old s.offset low, same, LastSetting.byte?]
      split <;> rfl
    · have other : dwordAddress offset ≠ dwordAddress s.offset := mt dwordAddress_eq_iff.1 same
      obtain ⟨dword, found, bytes⟩ :=
        holds.present offset (((LastSetting.present_cons sound _ _).1 there).resolve_left same)
      refine ⟨dword, (m.dword_set_of_ne other).trans found, ?_⟩
      intro k low
      have outside : ¬ s.Covers (offset.toNat / 4 * 4 + k) := by
        unfold Setting.Covers
        unfold Setting.Sound ConfigWidth.InDword at sound
        omega
      rw [bytes k low, LastSetting.byte?, if_neg outside]
  absent offset missing := by
    rw [LastSetting.present_cons sound, not_or] at missing
    have other : dwordAddress offset ≠ dwordAddress s.offset := mt dwordAddress_eq_iff.1 missing.1
    rw [m.dword_set_of_ne other, holds.absent offset missing.2]
  foreign address other := by
    rw [m.dword_set_of_ne (other s.offset), holds.foreign address other]

theorem setAll {settings : List Setting} (sound : ∀ s ∈ settings, s.Sound)
    (holds : m.Holds latest) : (m.setAll settings).Holds (settings.reverse ++ latest) := by
  induction settings generalizing latest m with
  | nil => exact holds
  | cons s settings ih =>
      rw [List.reverse_cons, List.append_assoc]
      exact ih (fun s member => sound s (List.mem_cons_of_mem _ member))
        (holds.set (sound s List.mem_cons_self))

/-- Bytes of one dword that are those of the last settings. -/
theorem get_bridge (holds : m.Holds latest) {width : ConfigWidth} {offset : BitVec 8}
    (inside : width.InDword offset) :
    m.get width (Address.lpcBridge.configAddress offset)
      = LastSetting.word latest width offset.toNat := by
  have bits := width.bits_eq
  unfold ConfigWidth.InDword at inside
  rw [get_bridge_eq]
  apply BitVec.eq_of_getLsbD_eq
  intro i within
  have low : offset.toNat % 4 + i / 8 < 4 := by omega
  have few : i / 8 < width.bytes := by omega
  have place : offset.toNat / 4 * 4 + (offset.toNat % 4 + i / 8) = offset.toNat + i / 8 := by omega
  have bit : 8 * (offset.toNat % 4 + i / 8) + i % 8 = 8 * (offset.toNat % 4) + i := by omega
  have byte := holds.seen offset low
  rw [place] at byte
  rw [LastSetting.word, LittleEndian.getLsbD_word_range within few, ← byte,
    BitVec.getLsbD_extractLsb', bit, decide_eq_true (Nat.mod_lt i (by decide)), Bool.true_and,
    BitVec.getLsbD_setWidth, BitVec.getLsbD_ushiftRight, decide_eq_true within, Bool.true_and]

/-- No other function has a dword. -/
theorem get_other (holds : m.Holds latest) {a : Address} (other : ¬ a.Same .lpcBridge)
    {width : ConfigWidth} {offset : BitVec 8} (inside : width.InDword offset) :
    m.get width (a.configAddress offset) = BitVec.allOnes width.bits := by
  have bits := width.bits_eq
  unfold ConfigWidth.InDword at inside
  have none : m.dword (a.configAddress (offset &&& ~~~3#8)) = none :=
    holds.foreign _ fun _ same => other (Address.same_of_configAddress_eq same)
  rw [get_eq, none, Option.getD_none]
  apply BitVec.eq_of_getLsbD_eq
  intro i within
  have there : 8 * (offset.toNat % 4) + i < 32 := by omega
  rw [BitVec.getLsbD_setWidth, BitVec.getLsbD_ushiftRight, BitVec.getLsbD_allOnes,
    BitVec.getLsbD_allOnes, decide_eq_true there, Bool.and_true]

theorem probe_reader (holds : m.Holds latest) :
    HardwareId.probe reader m = (LastSetting.identity latest, m) := by
  have vendor : m.get .w16 (Address.lpcBridge.configAddress vendorOffset)
      = LastSetting.word latest .w16 0 := holds.get_bridge (by decide)
  have device : m.get .w16 (Address.lpcBridge.configAddress deviceOffset)
      = LastSetting.word latest .w16 2 := holds.get_bridge (by decide)
  have revision : m.get .w8 (Address.lpcBridge.configAddress revisionOffset)
      = LastSetting.word latest .w8 8 := holds.get_bridge (by decide)
  rw [LastSetting.identity, ← vendor, ← device, ← revision]
  rfl

end Holds

end ConfigMap

/-! ## Chipsets -/

/-- Reading configuration space shows what is in a map, and leaves it as it is. -/
structure ConfigReader.Shows {σ : Type} (r : ConfigReader σ) (view : σ → ConfigMap) : Prop where
  value : ∀ width address s, (r.read width address s).1 = (view s).get width address
  kept : ∀ width address s, view (r.read width address s).2 = view s

theorem ConfigReader.Shows.probe {σ : Type} {r : ConfigReader σ} {view : σ → ConfigMap}
    (shows : r.Shows view) (s : σ) :
    (HardwareId.probe r s).1 = (HardwareId.probe ConfigMap.reader (view s)).1 := by
  change HardwareId.mk _ _ _ = HardwareId.mk _ _ _
  simp only [shows.value, shows.kept]

/-- The simulated machine has a map. -/
theorem shows_recordedPlatform : recordedPlatform.config.Shows fun r => r.state.config where
  value _ _ _ := rfl
  kept width address r := by
    obtain ⟨s, recording, entries⟩ := r
    cases recording <;> rfl

/-- What configuration space shows after settings, the latest first. -/
structure ConfigMap.Remembers (m : ConfigMap) (latest : List Setting) : Prop where
  bridge : ∀ width offset, width.InDword offset →
    m.get width (Address.lpcBridge.configAddress offset)
      = LastSetting.word latest width offset.toNat
  /-- A setting changes what is read from its own dword only. -/
  apart : ∀ (s : Setting) width offset, offset.toNat / 4 ≠ s.offset.toNat / 4 →
    (m.set s).get width (Address.lpcBridge.configAddress offset)
      = m.get width (Address.lpcBridge.configAddress offset)
  other : ∀ a, ¬ Address.Same a .lpcBridge → ∀ width offset, width.InDword offset →
    m.get width (a.configAddress offset) = BitVec.allOnes width.bits
  identity : HardwareId.probe reader m = (LastSetting.identity latest, m)
  /-- A chipset is found if its identity is known. -/
  found : ∀ {σ : Type} (p : Platform σ) (view : σ → ConfigMap), p.config.Shows view →
    ∀ x : Context σ, view x.hardware = m → ∀ family,
      Catalogue.resolve (LastSetting.identity latest) = .ok family →
        (Chipset.probe p x).1 = .ok ⟨family, LastSetting.identity latest, none, .unbounded⟩
  unsupported : ∀ {σ : Type} (p : Platform σ) (view : σ → ConfigMap), p.config.Shows view →
    ∀ x : Context σ, view x.hardware = m → ∀ reason,
      Catalogue.resolve (LastSetting.identity latest) = .error reason →
        (Chipset.probe p x).1 = .error (.unsupported (LastSetting.identity latest) reason)

theorem Shows.probe_fst {σ : Type} {p : Platform σ} {view : σ → ConfigMap}
    (shows : p.config.Shows view) {latest : List Setting} (x : Context σ)
    (holds : (view x.hardware).Holds latest) :
    (Chipset.probe p x).1 = match Catalogue.resolve (LastSetting.identity latest) with
      | .ok family => .ok ⟨family, LastSetting.identity latest, none, .unbounded⟩
      | .error reason => .error (.unsupported (LastSetting.identity latest) reason) := by
  have read : (HardwareId.probe p.config x.hardware).1 = LastSetting.identity latest := by
    rw [shows.probe, holds.probe_reader]
  rw [← read]
  exact Chipset.probe_fst p x

theorem ConfigMap.Holds.remembers {latest : List Setting} {m : ConfigMap} (holds : m.Holds latest) :
    m.Remembers latest where
  bridge width offset inside := holds.get_bridge inside
  apart s width offset other := by
    rw [get_bridge_eq, get_bridge_eq, m.dword_set_of_ne (mt dwordAddress_eq_iff.1 other)]
  other a other width offset inside := holds.get_other other inside
  identity := holds.probe_reader
  found p view shows x shown family known := by
    rw [Shows.probe_fst shows x (shown ▸ holds), known]
  unsupported p view shows x shown reason unknown := by
    rw [Shows.probe_fst shows x (shown ▸ holds), unknown]

/-- However settings of three widths overlap, each byte is that of the last one, and a chipset is
found by what was set last. -/
theorem ConfigMap.setAll_remembers (settings : List Setting) (sound : ∀ s ∈ settings, s.Sound) :
    (empty.setAll settings).Remembers settings.reverse := by
  have holds := Holds.setAll sound Holds.empty
  rw [List.append_nil] at holds
  exact holds.remembers

/-- Three settings overlap in the first dword, and one sets a part of the third.  The device is of no
known chipset. -/
theorem ConfigMap.setAll_remembers_of_overlap :
    let settings : List Setting :=
      [⟨.w32, 0x00, 0x11112222⟩, ⟨.w16, 0x00, 0x8086⟩, ⟨.w8, 0x03, 0x7a⟩, ⟨.w8, 0x09, 0xff⟩]
    let m := empty.setAll settings
    (∀ s ∈ settings, s.Sound) ∧
      m.get .w32 (Address.lpcBridge.configAddress 0x00) = 0x7a118086 ∧
      m.get .w16 (Address.lpcBridge.configAddress 0x09) = 0x00ff ∧
      m.get .w32 (Address.lpcBridge.configAddress 0x0c) = 0xffffffff ∧
      m.get .w8 (Address.configAddress ⟨0, 31, 1⟩ 0x03) = 0xff ∧
      (Chipset.probe recordedPlatform
          ⟨.start true ⟨m, .fresh 0x3800 (.pattern 8 1 0 0), false, false, #[]⟩, .empty .off⟩).1
        = .error (.unsupported ⟨0x8086, 0x7a11, 0x00⟩ .unknownDevice) := by
  intro settings m
  have sound : ∀ s ∈ settings, s.Sound := by decide
  have remembers : m.Remembers settings.reverse := setAll_remembers settings sound
  have identity : LastSetting.identity settings.reverse = ⟨0x8086, 0x7a11, 0x00⟩ := by decide
  have unknown : Catalogue.resolve (LastSetting.identity settings.reverse)
      = .error .unknownDevice := by
    rw [identity]
    rfl
  refine ⟨sound, (remembers.bridge .w32 0x00 (by decide)).trans (by decide),
    (remembers.bridge .w16 0x09 (by decide)).trans (by decide),
    (remembers.bridge .w32 0x0c (by decide)).trans (by decide),
    remembers.other ⟨0, 31, 1⟩ (by unfold Address.Same; decide) .w8 0x03 (by decide), ?_⟩
  rw [← identity]
  exact remembers.unsupported recordedPlatform _ shows_recordedPlatform _ rfl .unknownDevice unknown

end FlashDump.Pci
