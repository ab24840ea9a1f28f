import FlashDump.Chipset.Platform
import FlashDump.Machine.Controller
import FlashDump.Pci.ConfigMap

/-!
# Simulated machines

A `Machine` is a whole machine to run the program on: configuration space with one
LPC bridge, a flash controller, and an operating system that maps physical memory
and grants I/O privileges, or refuses either.  It keeps the requests for mappings
that it saw.

A flash cycle of the controller either shows its end once its delay has passed or
never does.  So it is followed for one poll more than the delay.
-/

namespace FlashDump

/-- A simulated machine. -/
structure Machine where
  config : Pci.ConfigMap
  controller : Controller
  mapperRefuses : Bool
  portsRefused : Bool
  /-- The requests for mappings so far, oldest first, as base and length. -/
  requests : Array (Nat × Nat)

namespace Machine

/-- Change the controller. -/
def updateController (f : Controller → Controller) (m : Machine) : Machine :=
  let ⟨config, controller, mapperRefuses, portsRefused, requests⟩ := m
  ⟨config, f controller, mapperRefuses, portsRefused, requests⟩

/-- Answer a request for a mapping. -/
def map (base length : Nat) (m : Machine) : Except ChipsetError Unit × Machine :=
  let m := { m with requests := m.requests.push (base, length) }
  (if m.mapperRefuses then .error (.refused .mapMemory .permissionDenied) else .ok (), m)

/-- The machine as a platform. -/
def platform : Platform Machine where
  acquire x :=
    (if x.hardware.portsRefused then .error (.refused .ioPrivileges .permissionDenied) else .ok (), x)
  release x := x
  config := ⟨fun width address m => (m.config.get width address, m)⟩
  map := map
  unmap m := m
  window :=
    { read := fun width offset m =>
        let ⟨config, controller, mapperRefuses, portsRefused, requests⟩ := m
        let (value, controller) := controller.read width offset
        (value, ⟨config, controller, mapperRefuses, portsRefused, requests⟩)
      write := fun width offset value m => m.updateController (.write width offset value) }
  patience m := m.controller.delay + 1

end Machine

/-- A machine that records what is done to it. -/
abbrev RecordedMachine := Recorded HardwareEvent Machine

/-- A machine that records what is done to it, as a platform. -/
def recordedPlatform : Platform RecordedMachine := Machine.platform.recorded

end FlashDump
