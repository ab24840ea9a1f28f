import FlashDump.Chipset.Catalogue
import FlashDump.Chipset.Platform
import FlashDump.Chipset.Registers
import FlashDump.Chipset.Window
import FlashDump.Sequencer.Transfer

/-!
# A detected chipset

`Chipset.probe` identifies the chipset of a platform and gives a handle on it.  The
handle knows the family and so the register layout.  It also holds the root complex
window: `window` is its physical address while it is mapped.

A handle has at most one window.  `Chipset.map` releases the one it has before it
asks for another, and so a mapping that fails leaves the chipset without a window.
An address that is not enabled is refused without asking.
-/

namespace FlashDump

/-- A handle on a chipset. -/
structure Chipset where
  family : Family
  id : HardwareId
  /-- The physical address of the window, while it is mapped. -/
  window : Option (BitVec 32)
  /-- How long to wait for a flash cycle. -/
  pollLimit : PollLimit

namespace Chipset

variable {σ τ : Type}

def layout (c : Chipset) : Layout := c.family.layout

def isIntegratedIo (c : Chipset) : Bool := c.family.isIntegratedIo c.id.device

def isMapped (c : Chipset) : Bool := c.window.isSome

/-- The chipset with a poll limit. -/
def withPollLimit (c : Chipset) (limit : PollLimit) : Chipset := { c with pollLimit := limit }

def probe (p : Platform σ) (x : Context σ) : Except ChipsetError Chipset × Context σ :=
  let (id, hardware) := HardwareId.probe p.config x.hardware
  let x := Context.note (.bridge id) { x with hardware }
  match Catalogue.resolve id with
  | .error reason => (.error (.unsupported id reason), x)
  | .ok family =>
      (.ok ⟨family, id, none, .unbounded⟩,
        x.note (.found family.name ((family.deviceName id.device).getD "unknown")))

/-! ## Configuration space -/

def readBiosCntl (c : Chipset) (p : Platform σ) (x : Context σ) :
    Register.BiosCntl × Context σ :=
  let (raw, hardware) := p.config.bridge8 Pci.biosControlOffset x.hardware
  (c.layout.biosCntl raw, Context.note (.biosCntl raw) { x with hardware })

def readRcba (c : Chipset) (p : Platform σ) (x : Context σ) : Register.Rcba × Context σ :=
  let (raw, hardware) := p.config.bridge32 Pci.rcbaOffset x.hardware
  (c.layout.rcba raw, Context.note (.rcba raw) { x with hardware })

/-! ## The window -/

/-- Release the window, if it is mapped. -/
def unmap (c : Chipset) (p : Platform σ) (x : Context σ) : Chipset × Context σ :=
  match c.window with
  | none => (c, x)
  | some _ => ({ c with window := none }, { x with hardware := p.unmap x.hardware })

/-- Map the window, in place of the one that is mapped. -/
def map (c : Chipset) (p : Platform σ) (rcba : Register.Rcba) (x : Context σ) :
    Except ChipsetError Unit × Chipset × Context σ :=
  let (c, x) := c.unmap p x
  match Window.map p rcba x with
  | (.error e, x) => (.error e, c, x)
  | (.ok base, x) => (.ok (), { c with window := some base }, x)

/-- Let the chipset go: the privileges are given back, and then the window is released. -/
def close (c : Chipset) (p : Platform σ) (x : Context σ) : Context σ := (c.unmap p (p.release x)).2

def readGcs (c : Chipset) (p : Platform σ) (x : Context σ) : Register.Gcs × Context σ :=
  let (raw, hardware) := c.layout.readGcsWord p.window x.hardware
  (c.layout.gcs raw c.isIntegratedIo, Context.note (.gcs raw) { x with hardware })

/-! ## The flash -/

/-- The flash controller in a state of the hardware. -/
def sequencer (c : Chipset) (p : Platform σ) (s : σ) : Sequencer σ where
  layout := c.layout
  device := p.window
  limit := c.pollLimit
  patience := p.patience s

/-- Read the flash.  There is no result if patience ran out. -/
def readFlash (c : Chipset) (p : Platform σ) (o : Observer τ) (r : Request) (s : σ) (t : τ) :
    Option (Except ChipsetError Unit) × σ × τ :=
  (c.sequencer p s).read o r s t

end Chipset

end FlashDump
