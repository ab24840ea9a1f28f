import FlashDump.Chipset.Handle
import Mathlib.Data.List.Lattice
import Mathlib.Data.List.Nodup
import Mathlib.Data.List.Pairwise

/-!
# The search for a family

The search takes the first family that lists the device.  Among families that list no device twice
there is at most one, and so it is found in whatever order they are searched (`find?_eq_some_iff`).
`resolveIn_eq_ok_iff`, `resolveIn_eq_notIntel_iff` and `resolveIn_eq_unknownDevice_iff` say when the
search gives which answer.  They mention which families are searched, and not in which order.

The catalogue lists each device once (`nodup_ids`).  The devices that are part of a processor are in
a table of their own, which has no device that its family does not list (`supports_of_integrated`).
-/

namespace FlashDump

/-! ## Tables of devices -/

namespace Family

variable {f : Family} {device : BitVec 16}

/-- The table of a family has a device. -/
def Lists (f : Family) (device : BitVec 16) : Prop := ∃ d ∈ f.generation.devices, d.id = device

theorem supports_iff : f.supports device = true ↔ f.Lists device := by
  simp only [supports, Lists, List.any_eq_true, beq_iff_eq]

/-- A device that is listed has a name, which is that of an entry of the table. -/
theorem Lists.deviceName (listed : f.Lists device) :
    ∃ name, f.deviceName device = some name ∧ ⟨device, name⟩ ∈ f.generation.devices := by
  obtain ⟨d, member, same⟩ := listed
  cases found : f.generation.devices.find? (·.id == device) with
  | none =>
      have other := List.find?_eq_none.1 found d member
      exact absurd (beq_iff_eq.2 same) other
  | some first =>
      have here := List.find?_some found
      obtain rfl : first.id = device := beq_iff_eq.1 here
      refine ⟨first.name, ?_, List.mem_of_find?_eq_some found⟩
      rw [Family.deviceName, found, Option.map_some]

end Family

/-- A probe answers what the search for the identity answers that it reads, and reports that identity
if the search fails. -/
theorem Chipset.probe_fst {σ : Type} (p : Platform σ) (x : Context σ) :
    (Chipset.probe p x).1 = match Catalogue.resolve (HardwareId.probe p.config x.hardware).1 with
      | .ok f => .ok ⟨f, (HardwareId.probe p.config x.hardware).1, none, .unbounded⟩
      | .error reason => .error (.unsupported (HardwareId.probe p.config x.hardware).1 reason) := by
  rw [probe]
  dsimp only
  cases Catalogue.resolve (HardwareId.probe p.config x.hardware).1 <;> rfl

namespace Catalogue

variable {scan scan' : List Family} {id : HardwareId} {f : Family} {device : BitVec 16}

/-- The device numbers that families list, family by family. -/
def ids (scan : List Family) : List (BitVec 16) :=
  scan.flatMap fun f => f.generation.devices.map (·.id)

/-- No device is listed by two families. -/
def Apart (scan : List Family) : Prop :=
  ∀ f ∈ scan, ∀ g ∈ scan, ∀ device, f.Lists device → g.Lists device → f = g

theorem apart_of_nodup_ids (nodup : (ids scan).Nodup) : Apart scan := by
  intro f known g known' device listed listed'
  obtain ⟨-, disjoint⟩ := List.nodup_flatMap.1 nodup
  by_contra other
  have symmetric : Std.Symm (Function.onFun List.Disjoint
      fun f : Family => f.generation.devices.map (·.id)) := ⟨fun _ _ apart => List.Disjoint.symm apart⟩
  have apart := disjoint.forall known known' other
  exact apart (List.mem_map.2 listed) (List.mem_map.2 listed')

theorem Apart.perm (apart : Apart scan') (perm : scan.Perm scan') : Apart scan := by
  intro f known g known'
  exact apart f (perm.mem_iff.1 known) g (perm.mem_iff.1 known')

/-! ## The search -/

theorem find?_eq_none_iff :
    scan.find? (·.supports device) = none ↔ ∀ f ∈ scan, ¬ f.Lists device := by
  simp only [List.find?_eq_none, Family.supports_iff]

theorem find?_eq_some_iff (apart : Apart scan) :
    scan.find? (·.supports device) = some f ↔ f ∈ scan ∧ f.Lists device := by
  constructor
  · intro found
    have holds := List.find?_some found
    exact ⟨List.mem_of_find?_eq_some found, Family.supports_iff.1 holds⟩
  · rintro ⟨known, listed⟩
    cases found : scan.find? (·.supports device) with
    | none => exact absurd listed (find?_eq_none_iff.1 found f known)
    | some g =>
        have holds := List.find?_some found
        rw [apart g (List.mem_of_find?_eq_some found) f known device (Family.supports_iff.1 holds)
          listed]

theorem resolveIn_of_intel (intel : id.vendor = intelVendor) :
    resolveIn scan id = match scan.find? (·.supports id.device) with
      | some family => .ok family
      | none => .error .unknownDevice :=
  if_neg (not_not.2 intel)

theorem resolveIn_of_other (other : id.vendor ≠ intelVendor) :
    resolveIn scan id = .error .notIntel :=
  if_pos other

theorem resolveIn_eq_notIntel_iff :
    resolveIn scan id = .error .notIntel ↔ id.vendor ≠ intelVendor := by
  constructor
  · intro answer intel
    rw [resolveIn_of_intel intel] at answer
    split at answer <;> cases answer
  · exact resolveIn_of_other

theorem resolveIn_eq_unknownDevice_iff :
    resolveIn scan id = .error .unknownDevice
      ↔ id.vendor = intelVendor ∧ ∀ f ∈ scan, ¬ f.Lists id.device := by
  rw [← find?_eq_none_iff]
  by_cases intel : id.vendor = intelVendor
  · rw [resolveIn_of_intel intel]
    cases scan.find? (·.supports id.device) <;> simp [intel]
  · simp [resolveIn_of_other intel, intel]

theorem resolveIn_eq_ok_iff (apart : Apart scan) :
    resolveIn scan id = .ok f ↔ id.vendor = intelVendor ∧ f ∈ scan ∧ f.Lists id.device := by
  rw [← find?_eq_some_iff apart]
  by_cases intel : id.vendor = intelVendor
  · rw [resolveIn_of_intel intel]
    cases scan.find? (·.supports id.device) <;> simp [intel]
  · simp [resolveIn_of_other intel, intel]

theorem resolveIn_perm (apart : Apart scan') (perm : scan.Perm scan') (id : HardwareId) :
    resolveIn scan id = resolveIn scan' id := by
  cases answer : resolveIn scan' id with
  | ok f =>
      rw [resolveIn_eq_ok_iff apart] at answer
      rwa [resolveIn_eq_ok_iff (apart.perm perm), perm.mem_iff]
  | error reason =>
      cases reason with
      | notIntel =>
          rw [resolveIn_eq_notIntel_iff] at answer
          exact resolveIn_eq_notIntel_iff.2 answer
      | unknownDevice =>
          rw [resolveIn_eq_unknownDevice_iff] at answer
          obtain ⟨intel, unlisted⟩ := answer
          refine resolveIn_eq_unknownDevice_iff.2 ⟨intel, ?_⟩
          intro f known
          exact unlisted f (perm.mem_iff.1 known)

/-! ## The catalogue -/

theorem nodup_ids : (ids families).Nodup := by decide +kernel

theorem apart_families : Apart families := apart_of_nodup_ids nodup_ids

theorem supports_of_integrated (known : f ∈ families) (integrated : f.isIntegratedIo device = true) :
    f.supports device = true := by
  have all : (families.all fun f => f.generation.integratedIo.all f.supports) = true := by
    decide +kernel
  exact List.all_eq_true.1 (List.all_eq_true.1 all f known) device
    (List.contains_iff_mem.1 integrated)

/-- The search reads the vendor and the device. -/
theorem resolveIn_congr {id' : HardwareId} (vendor : id'.vendor = id.vendor)
    (device : id'.device = id.device) : resolveIn scan id' = resolveIn scan id := by
  rw [resolveIn, resolveIn, vendor, device]

/-- What the search answers, where it searches the families of the catalogue in some order. -/
structure Answers (scan : List Family) (id : HardwareId) : Prop where
  same : resolveIn scan id = resolve id
  /-- The family is the only one of the catalogue that lists the device. -/
  ok_iff : ∀ f, resolveIn scan id = .ok f ↔ id.vendor = 0x8086 ∧ f ∈ families ∧
    f.Lists id.device ∧ ∀ g ∈ families, g.Lists id.device → g = f
  notIntel_iff : resolveIn scan id = .error .notIntel ↔ id.vendor ≠ 0x8086
  unknownDevice_iff : resolveIn scan id = .error .unknownDevice
    ↔ id.vendor = 0x8086 ∧ ∀ f ∈ families, ¬ f.Lists id.device
  probed : ∀ {σ : Type} (p : Platform σ) (x : Context σ),
    (HardwareId.probe p.config x.hardware).1 = id →
      (Chipset.probe p x).1 = match resolveIn scan id with
        | .ok f => .ok ⟨f, id, none, .unbounded⟩
        | .error reason => .error (.unsupported id reason)
  named : ∀ f, resolveIn scan id = .ok f →
    ∃ name, f.deviceName id.device = some name ∧ ⟨id.device, name⟩ ∈ f.generation.devices
  revision : ∀ revision, resolveIn scan { id with revision } = resolveIn scan id

theorem answers_of_perm (perm : scan.Perm families) (id : HardwareId) : Answers scan id := by
  have apart : Apart scan := apart_families.perm perm
  have same : resolveIn scan id = resolve id := resolveIn_perm apart_families perm id
  constructor
  case same => exact same
  case ok_iff =>
    intro f
    rw [resolveIn_eq_ok_iff apart, perm.mem_iff]
    constructor
    · rintro ⟨intel, known, listed⟩
      refine ⟨intel, known, listed, ?_⟩
      intro g known' listed'
      exact apart_families g known' f known id.device listed' listed
    · rintro ⟨intel, known, listed, -⟩
      exact ⟨intel, known, listed⟩
  case notIntel_iff => exact resolveIn_eq_notIntel_iff
  case unknownDevice_iff =>
    rw [same]
    exact resolveIn_eq_unknownDevice_iff
  case probed =>
    rintro σ p x rfl
    rw [same, Chipset.probe_fst]
  case named =>
    intro f found
    obtain ⟨-, -, listed⟩ := (resolveIn_eq_ok_iff apart).1 found
    exact listed.deviceName
  case revision =>
    intro revision
    exact resolveIn_congr rfl rfl

/-- In whatever order the families are searched, the answer is the same. -/
theorem resolve_in_any_order (perm : scan.Perm families) :
    (∀ id, Answers scan id) ∧
      (∀ f ∈ families, ∀ device, f.isIntegratedIo device = true → f.supports device = true) ∧
      ∀ f ∈ families, ∀ g ∈ families, ∀ device, f.isIntegratedIo device = true →
        g.isIntegratedIo device = true → f = g := by
  refine ⟨answers_of_perm perm, ?_, ?_⟩
  · intro f known device integrated
    exact supports_of_integrated known integrated
  · intro f known g known' device integrated integrated'
    have listed := Family.supports_iff.1 (supports_of_integrated known integrated)
    have listed' := Family.supports_iff.1 (supports_of_integrated known' integrated')
    exact apart_families f known g known' device listed listed'

/-- The newest family is searched first.  The part of a processor is still one of the family before,
and a listed device of another vendor is still refused. -/
theorem resolve_in_any_order_of_reverse :
    families.reverse.Perm families ∧
      resolveIn families.reverse ⟨0x8086, 0x9c43, 0x04⟩ = .ok series8 ∧
      series8.isIntegratedIo 0x9c43 = true ∧
      resolveIn families.reverse ⟨0x1022, 0x9c43, 0x04⟩ = .error .notIntel ∧
      resolveIn families.reverse ⟨0x8086, 0x27b8, 0x01⟩ = .error .unknownDevice := by
  have perm : families.reverse.Perm families := List.reverse_perm families
  obtain ⟨answers, -, -⟩ := resolve_in_any_order perm
  exact ⟨perm, (answers _).same.trans rfl, rfl, (answers _).notIntel_iff.2 (by decide),
    (answers _).same.trans rfl⟩

end Catalogue

end FlashDump
