import FlashDump.Chipset.Catalogue
import FlashDump.Machine.Basic

/-!
# Setting up a machine

A `Setup` describes a machine before it is switched on.  The controller is placed
where the chipset of the machine has its SPI registers, unless the setup says where
it is.
-/

namespace FlashDump

/-- A preset of a register. -/
structure Preset where
  /-- The offset counts from the SPI registers and not from the start of the window. -/
  relative : Bool
  width : Width
  offset : Nat
  value : BitVec width.bits
deriving DecidableEq

/-- Make a preset. -/
def Controller.applyPreset (c : Controller) (p : Preset) : Controller :=
  c.preset p.width (if p.relative then c.offset p.offset else p.offset) p.value

/-- A description of a machine. -/
structure Setup where
  vendor : BitVec 16
  device : BitVec 16
  revision : BitVec 8
  /-- Further configuration writes. -/
  settings : List Pci.ConfigMap.Setting
  /-- Where the SPI registers of the controller are, if not where the chipset has them. -/
  spiBar : Option Nat
  flash : Flash
  presets : List Preset
  errors : List Nat
  stuck : Bool
  /-- How many reads of HSFS hide the end of a cycle. -/
  delay : Nat
  mapperRefuses : Bool
  portsRefused : Bool

namespace Setup

/-- Where the SPI registers are on a chipset that is not known. -/
def defaultSpiBar : Nat := 0x3800

/-- Configuration space of the machine. -/
def configMap (s : Setup) : Pci.ConfigMap :=
  (Pci.ConfigMap.ofIdentity s.vendor s.device s.revision).setAll s.settings

/-- Where the SPI registers of the controller are. -/
def controllerSpiBar (s : Setup) : Nat :=
  match s.spiBar with
  | some spiBar => spiBar
  | none =>
      match Catalogue.resolve (HardwareId.probe Pci.ConfigMap.reader s.configMap).1 with
      | .ok family => family.layout.spiBar
      | .error _ => defaultSpiBar

/-- The machine that a setup describes. -/
def machine (s : Setup) : Machine where
  config := s.configMap
  controller :=
    s.presets.foldl Controller.applyPreset
      { Controller.fresh s.controllerSpiBar s.flash with
        errors := s.errors
        stuck := s.stuck
        delay := s.delay }
  mapperRefuses := s.mapperRefuses
  portsRefused := s.portsRefused
  requests := #[]

end Setup

end FlashDump
