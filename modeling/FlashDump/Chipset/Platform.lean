import FlashDump.Chipset.Failure
import FlashDump.Log.Logger
import FlashDump.Memory.RegisterFile
import FlashDump.Pci.HostBridge

/-!
# Platforms

A `Platform σ` is all that a chipset is reached through: the privileges for
configuration space, configuration space itself, a way to map physical memory, and the
window that mapping it opens.  Its states are `σ`.  Code that is written for every
platform can be run on hardware, on a simulated machine, and on a platform that records
what is done to it.

On hardware configuration space is behind I/O ports, which can be used while the program
holds the privileges for them.  `PortAccess.acquire` asks for them and
`PortAccess.release` gives them back.  If the system does not take them back, that is
only logged.

`Platform.recorded` is the platform that records.  Each `HardwareEvent` it writes down is
something that was visible at the hardware.
-/

namespace FlashDump

/-- The hardware of a platform together with the log. -/
structure Context (σ : Type) where
  hardware : σ
  log : Log.Logger

def Context.note {σ : Type} (n : Log.Notice) (x : Context σ) : Context σ :=
  { x with log := x.log.log n }

/-! ## Privileges for I/O ports -/

namespace Pci.PortAccess

variable {σ : Type}

def acquire (p : Ports σ) (x : Context σ) : Except ChipsetError Unit × Context σ :=
  match p.setPrivilege 3 x.hardware with
  | (some cause, hardware) => (.error (.refused .ioPrivileges cause), { x with hardware })
  | (none, hardware) => (.ok (), Context.note .privilegesGranted { x with hardware })

def release (p : Ports σ) (x : Context σ) : Context σ :=
  match p.setPrivilege 0 x.hardware with
  | (some cause, hardware) => Context.note (.privilegesKept cause) { x with hardware }
  | (none, hardware) => { x with hardware }

end Pci.PortAccess

/-! ## Platforms -/

/-- What a chipset is reached through. -/
structure Platform (σ : Type) where
  /-- Ask for the privileges that configuration space takes. -/
  acquire : Context σ → Except ChipsetError Unit × Context σ
  /-- Give the privileges back. -/
  release : Context σ → Context σ
  config : Pci.ConfigReader σ
  map : (base length : Nat) → σ → Except ChipsetError Unit × σ
  unmap : σ → σ
  /-- The range that is mapped. -/
  window : Mmio σ
  /-- How many polls of a flash cycle to follow where there is no limit. -/
  patience : σ → Nat

/-- Something that is done to the hardware. -/
inductive HardwareEvent where
  | config (width : Pci.ConfigWidth) (address : BitVec 32) (value : BitVec width.bits)
  /-- A request to map physical memory, and whether it was granted. -/
  | map (base length : Nat) (granted : Bool)
  | unmap
  | access (a : Access)
deriving DecidableEq

/-- The platform that records what is done to it. -/
def Platform.recorded {σ : Type} (p : Platform σ) : Platform (Recorded HardwareEvent σ) where
  acquire x :=
    let (answer, ⟨s, log⟩) := p.acquire ⟨x.hardware.state, x.log⟩
    (answer, ⟨{ x.hardware with state := s }, log⟩)
  release x :=
    let ⟨s, log⟩ := p.release ⟨x.hardware.state, x.log⟩
    ⟨{ x.hardware with state := s }, log⟩
  config :=
    { read := fun width address r =>
        let ⟨s, recording, entries⟩ := r
        let (value, s) := p.config.read width address s
        (value, Recorded.note (.config width address value) ⟨s, recording, entries⟩) }
  map base length r :=
    let ⟨s, recording, entries⟩ := r
    let (result, s) := p.map base length s
    (result, Recorded.note (.map base length result.isOk) ⟨s, recording, entries⟩)
  unmap r :=
    let ⟨s, recording, entries⟩ := r
    Recorded.note .unmap ⟨p.unmap s, recording, entries⟩
  window := p.window.recorded .access
  patience r := p.patience r.state

end FlashDump
