import FlashDump.Proofs.Chipset.Layout

/-!
# Inheritance along a line of descent

Three entries of a layout can be changed by a generation.  Each of them is inherited for itself, and
`Entry.Inherits` says what that means: along a line of descent, nearest first, an entry has the value
that the nearest generation changes it to, if one changes it, and else that of the oldest chipset.
What a generation does to the other two entries is not mentioned there.

`Inherits.descend` is one generation more at the near end, and `inherits_inherit` a whole line.  A
line inherits one value only (`Inherits.read_inherit`), and so the entry of a layout is that value
and no other.  A generation that changes nothing can be put into a line wherever one likes
(`inherit_insert`).
-/

namespace FlashDump

open FlashDump.Register

namespace Layout

/-- The entries of a layout that a generation may change, with the type of what they hold. -/
inductive Entry : Type → Type where
  | spiBar : Entry Nat
  | biosCntl : Entry (BitVec 8 → BiosCntl)
  | gcs : Entry (BitVec 32 → Bool → Gcs)

namespace Entry

variable {α : Type}

/-- What an entry is changed to, if it is changed. -/
def change? : Entry α → Overrides → Option α
  | spiBar, o => o.spiBar
  | biosCntl, o => o.biosCntl
  | gcs, o => o.gcs

def read : Entry α → Layout → α
  | spiBar, l => l.spiBar
  | biosCntl, l => l.biosCntl
  | gcs, l => l.gcs

theorem read_override (e : Entry α) (l : Layout) (o : Overrides) :
    e.read (l.override o) = (e.change? o).getD (e.read l) := by
  cases e <;> rfl

/-- No generation of a line changes an entry. -/
def Kept (e : Entry α) (line : List Generation) : Prop :=
  ∀ g ∈ line, e.change? g.overrides = none

/-- The value of an entry at the near end of a line of descent. -/
inductive Inherits (e : Entry α) : List Generation → α → Prop where
  /-- Nobody on the line changes it. -/
  | oldest {line : List Generation} (kept : e.Kept line) : Inherits e line (e.read base)
  /-- The nearest generation that changes it. -/
  | nearest {near far : List Generation} {g : Generation} {a : α} (kept : e.Kept near)
      (changed : e.change? g.overrides = some a) : Inherits e (near ++ g :: far) a

theorem Kept.nil {e : Entry α} : e.Kept [] := List.forall_mem_nil _

theorem Kept.cons {e : Entry α} {g : Generation} {line : List Generation}
    (first : e.change? g.overrides = none) (kept : e.Kept line) : e.Kept (g :: line) :=
  List.forall_mem_cons.2 ⟨first, kept⟩

/-- One generation more has its own value, or inherits that of the line. -/
theorem Inherits.descend {e : Entry α} {line : List Generation} {a : α}
    (inherits : e.Inherits line a) (g : Generation) :
    e.Inherits (g :: line) ((e.change? g.overrides).getD a) := by
  cases changed : e.change? g.overrides with
  | some b => exact .nearest .nil changed
  | none =>
      cases inherits with
      | oldest kept => exact .oldest (kept.cons changed)
      | nearest kept later => exact .nearest (kept.cons changed) later

theorem inherits_inherit (e : Entry α) (line : List Generation) :
    e.Inherits line (e.read (inherit (line.map (·.overrides)))) := by
  induction line with
  | nil => exact .oldest .nil
  | cons g line ih =>
      rw [List.map_cons, inherit, read_override]
      exact ih.descend g

/-- Generations that do not change an entry can be passed over. -/
theorem Kept.read_append {e : Entry α} {near : List Generation} (kept : e.Kept near)
    (far : List Generation) :
    e.read (inherit ((near ++ far).map (·.overrides)))
      = e.read (inherit (far.map (·.overrides))) := by
  induction near with
  | nil => rfl
  | cons g near ih =>
      obtain ⟨first, rest⟩ := List.forall_mem_cons.1 kept
      rw [List.cons_append, List.map_cons, inherit, read_override, first, Option.getD_none]
      exact ih rest

theorem Inherits.read_inherit {e : Entry α} {line : List Generation} {a : α}
    (inherits : e.Inherits line a) : e.read (inherit (line.map (·.overrides))) = a := by
  cases inherits with
  | oldest kept =>
      have passed := kept.read_append []
      rw [List.append_nil] at passed
      exact passed
  | nearest kept changed =>
      rw [kept.read_append, List.map_cons, inherit, read_override, changed, Option.getD_some]

end Entry

/-! ## The other entries -/

theorem Common.eq_base {l : Layout} (common : l.Common) :
    l = { base with spiBar := l.spiBar, biosCntl := l.biosCntl, gcs := l.gcs } := by
  obtain ⟨spiBar, biosCntl, rcba, gcs, bfpr, hsfs, hsfc, faddr, frap, freg, pr, ssfs, ssfc⟩ := l
  obtain ⟨rfl, rfl, rfl, rfl, rfl, rfl, rfl, rfl, rfl, rfl⟩ := common
  rfl

/-! ## Generations that change nothing -/

@[simp] theorem override_none (l : Layout) : l.override .none = l := rfl

theorem inherit_insert (near far : List Overrides) :
    inherit (near ++ .none :: far) = inherit (near ++ far) := by
  induction near with
  | nil => exact override_none _
  | cons o near ih => rw [List.cons_append, inherit, ih, List.cons_append, inherit]

end Layout

/-- Each of the three entries is that of the nearest generation that changes it, all others are those
of the oldest chipset, and a generation that changes nothing makes no difference. -/
theorem Family.layout_inherits (f : Family) :
    (∀ {α : Type} (e : Layout.Entry α) (a : α), e.read f.layout = a ↔ e.Inherits f.lineage a) ∧
      f.layout = { Layout.base with
        spiBar := f.layout.spiBar, biosCntl := f.layout.biosCntl, gcs := f.layout.gcs } ∧
      ∀ (f' : Family) (near far : List Generation) (g : Generation), f.lineage = near ++ far →
        f'.lineage = near ++ g :: far → g.overrides = .none → f'.layout = f.layout := by
  refine ⟨?_, f.layout_common.eq_base, ?_⟩
  · intro α e a
    constructor
    · rintro rfl
      exact e.inherits_inherit f.lineage
    · intro inherits
      exact inherits.read_inherit
  · intro f' near far g line line' nothing
    rw [layout, layout, line, line', List.map_append, List.map_append, List.map_cons, nothing]
    exact Layout.inherit_insert _ _

/-- On the line of the last family two generations change GCS.  One that changes nothing is put
between them. -/
theorem Family.layout_inherits_of_series9 :
    let g : Generation := { series := .series8, name := "Intel 8 Series", devices := [] }
    let f := ((Catalogue.series7.descend g).descend Catalogue.series8.generation).descend
      Catalogue.series9.generation
    Catalogue.series9.layout.gcs = Gcs.decodeWithoutPci ∧
      Catalogue.series9.layout.biosCntl = BiosCntl.decodeWithSmm ∧
      Catalogue.series9.layout.spiBar = 0x3800 ∧
      Catalogue.series9.layout.rcba = Rcba.decode ∧ f.layout = Catalogue.series9.layout := by
  intro g f
  obtain ⟨entries, others, inserted⟩ := Catalogue.series9.layout_inherits
  have gcs : Layout.Entry.gcs.Inherits
      ([Catalogue.series9.generation] ++ Catalogue.series8.generation :: Catalogue.series7.lineage)
      Gcs.decodeWithoutPci := .nearest (.cons rfl .nil) rfl
  have biosCntl : Layout.Entry.biosCntl.Inherits
      ([Catalogue.series9.generation, Catalogue.series8.generation, Catalogue.series7.generation]
        ++ Catalogue.series6.generation :: Catalogue.ich10.lineage)
      BiosCntl.decodeWithSmm := .nearest (.cons rfl (.cons rfl (.cons rfl .nil))) rfl
  have spiBar : Layout.Entry.spiBar.Inherits
      ([Catalogue.series9.generation, Catalogue.series8.generation, Catalogue.series7.generation,
        Catalogue.series6.generation, Catalogue.ich10.generation]
        ++ Catalogue.ich9.generation :: Catalogue.ich8.lineage)
      0x3800 := .nearest (.cons rfl (.cons rfl (.cons rfl (.cons rfl (.cons rfl .nil))))) rfl
  have same : f.layout = Catalogue.series9.layout :=
    inserted f [Catalogue.series9.generation, Catalogue.series8.generation]
      Catalogue.series7.lineage g rfl rfl rfl
  refine ⟨(entries .gcs _).2 gcs, (entries .biosCntl _).2 biosCntl, (entries .spiBar _).2 spiBar,
    ?_, same⟩
  rw [others]
  rfl

end FlashDump
