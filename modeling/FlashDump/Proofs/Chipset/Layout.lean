import FlashDump.Chipset.Catalogue
import FlashDump.Memory.RegisterFile

/-!
# What the layouts have in common

A generation changes at most three entries of the register layout.  All others are
those of the oldest chipset, whatever the line of descent (`Family.layout_common`).  So
the code that drives the sequencer finds the same codecs on every family.

The families of the catalogue have their SPI registers at one of two places.  At both
the whole block lies in the root complex window (`Catalogue.spiSize_fits`).
-/

namespace FlashDump

open FlashDump.Register

/-- The entries that no generation changes are those of the oldest chipset. -/
structure Layout.Common (l : Layout) : Prop where
  rcba : l.rcba = Rcba.decode
  bfpr : l.bfpr = Bfpr.decode
  hsfs : l.hsfs = Hsfs.codec
  hsfc : l.hsfc = Hsfc.codec
  faddr : l.faddr = Faddr.codec
  frap : l.frap = Frap.decode
  freg : l.freg = Freg.decode
  pr : l.pr = ProtectedRange.decode
  ssfs : l.ssfs = Ssfs.codec
  ssfc : l.ssfc = Ssfc.codec

namespace Layout

theorem common_base : base.Common :=
  ⟨rfl, rfl, rfl, rfl, rfl, rfl, rfl, rfl, rfl, rfl⟩

theorem Common.override {l : Layout} (h : l.Common) (o : Overrides) : (l.override o).Common :=
  ⟨h.rcba, h.bfpr, h.hsfs, h.hsfc, h.faddr, h.frap, h.freg, h.pr, h.ssfs, h.ssfc⟩

theorem common_inherit : ∀ line : List Overrides, (inherit line).Common
  | [] => common_base
  | o :: line => (common_inherit line).override o

end Layout

theorem Family.layout_common (f : Family) : f.layout.Common :=
  Layout.common_inherit _

theorem Catalogue.mem_families_of_resolve {id : HardwareId} {f : Family}
    (known : resolve id = .ok f) : f ∈ families := by
  unfold resolve resolveIn at known
  split at known
  · cases known
  · split at known
    · rename_i found
      cases known
      exact List.mem_of_find?_eq_some found
    · cases known

/-- The size of the block of SPI registers. -/
def spiSize : Nat := 0x94

/-- The size of the block of SPI registers, up to the last flash data register. -/
def sequencerSize : Nat := 0x50

theorem Catalogue.spiSize_fits {f : Family} (known : f ∈ Catalogue.families) :
    f.layout.spiBar + spiSize ≤ windowSize := by
  have all : ∀ f ∈ Catalogue.families, f.layout.spiBar + spiSize ≤ windowSize := by decide
  exact all f known

theorem Catalogue.spiBar_fits {f : Family} (known : f ∈ Catalogue.families) :
    f.layout.spiBar + sequencerSize ≤ windowSize := by
  have part : sequencerSize ≤ spiSize := by decide
  exact Nat.le_trans (Nat.add_le_add_left part _) (Catalogue.spiSize_fits known)

end FlashDump
