import FlashDump.Chipset.Platform

/-!
# Scripts for I/O ports

A `PortScript` is a list of reads of configuration space.  They are made through I/O
ports, while the program holds the privileges for them.
-/

namespace FlashDump

/-- Reads of configuration space. -/
structure PortScript where
  /-- The widths and addresses. -/
  reads : List (Pci.ConfigWidth × BitVec 32)
  /-- Read the identity of the LPC bridge at the end. -/
  probe : Bool

namespace PortScript

variable {σ : Type}

/-- The values at the given addresses. -/
def readAll (r : Pci.ConfigReader σ) : List (Pci.ConfigWidth × BitVec 32) → σ → List Nat × σ
  | [], s => ([], s)
  | (width, address) :: rest, s =>
      let (value, s) := r.read width address s
      let (values, s) := readAll r rest s
      (value.toNat :: values, s)

/-- The identity, if it is asked for. -/
def readIdentity (script : PortScript) (r : Pci.ConfigReader σ) (s : σ) : Option HardwareId × σ :=
  if script.probe then
    let (id, s) := HardwareId.probe r s
    (some id, s)
  else (none, s)

/-- Make the reads.  The answer is the values and the identity. -/
def run (script : PortScript) (p : Pci.Ports σ) (x : Context σ) :
    Except ChipsetError (List Nat × Option HardwareId) × Context σ :=
  match Pci.PortAccess.acquire p x with
  | (.error e, x) => (.error e, x)
  | (.ok (), x) =>
      let r := Pci.PortAccess.reader p
      let (values, hardware) := readAll r script.reads x.hardware
      let (id, hardware) := script.readIdentity r hardware
      (.ok (values, id), Pci.PortAccess.release p { x with hardware })

end PortScript

end FlashDump
