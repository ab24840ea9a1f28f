import FlashDump.Memory.Mmio
import FlashDump.OsError
import FlashDump.Pci.Address

/-!
# The host bridge

Configuration space is reached through two I/O ports of the host bridge.  Port
`0xcf8` is the CONFIG_ADDRESS register, 32 bits wide, which selects a dword.  The
ports `0xcfc` to `0xcff` are windows onto the selected dword, one per byte lane.

`Ports σ` is any machine with I/O ports, with states `σ`.  Using them takes a
privilege level that the operating system grants or refuses.

A read of configuration space writes the configuration address to CONFIG_ADDRESS and
takes the value from a data port.  The reserved bits 30:24 of CONFIG_ADDRESS belong to
the host bridge: they are read first and written back as they were.  The bridge always
moves a whole dword.  A narrow read picks its byte lane by the data port, which is the
first one plus those low bits of the address that a read of this width can use.

`HostBridge` is a machine with nothing but a host bridge behind its ports.  It
selects by CONFIG_ADDRESS with the bits 30:24 and 1:0 disregarded.
-/

namespace FlashDump.Pci

/-- A machine with I/O ports. -/
structure Ports (σ : Type) where
  /-- Ask for a privilege level.  The answer is the refusal, if there is one. -/
  setPrivilege : (level : Nat) → σ → Option OsError × σ
  input : (width : ConfigWidth) → (port : Nat) → σ → BitVec width.bits × σ
  output : (width : ConfigWidth) → (port : Nat) → BitVec width.bits → σ → σ

def addressPort : Nat := 0xcf8

def dataPort : Nat := 0xcfc

/-- A machine with a host bridge. -/
structure HostBridge where
  /-- The CONFIG_ADDRESS register. -/
  latch : BitVec 32
  dword : BitVec 32 → BitVec 32
  /-- The refusal of privilege level 3, if there is one. -/
  grantRefusal : Option OsError
  /-- The refusal of privilege level 0, if there is one. -/
  dropRefusal : Option OsError

namespace HostBridge

/-- The address of the dword that CONFIG_ADDRESS selects. -/
def selected (b : HostBridge) : BitVec 32 := b.latch &&& 0x80fffffc#32

/-- What a port reads as. -/
def inputValue (b : HostBridge) (width : ConfigWidth) (port : Nat) : BitVec width.bits :=
  if port = addressPort then b.latch.setWidth width.bits
  else if dataPort ≤ port ∧ port < dataPort + 4 then
    (b.dword b.selected >>> (8 * (port - dataPort))).setWidth width.bits
  else BitVec.allOnes width.bits

/-- The machine as one with I/O ports. -/
def ports : Ports HostBridge where
  setPrivilege level b := (if level = 0 then b.dropRefusal else b.grantRefusal, b)
  input width port b := (b.inputValue width port, b)
  output _ port value b :=
    if port = addressPort then { b with latch := value.setWidth 32 } else b

end HostBridge

/-! ## Configuration space through I/O ports -/

namespace PortAccess

variable {σ : Type}

/-- The bits of CONFIG_ADDRESS that are kept. -/
def reservedMask : BitVec 32 := 0x7f000000

/-- The data port of a read. -/
def lanePort (width : ConfigWidth) (address : BitVec 32) : Nat :=
  dataPort + (address.setWidth 16 &&& BitVec.ofNat 16 (4 - width.bytes)).toNat

/-- Write an address to CONFIG_ADDRESS and keep its reserved bits. -/
def select (p : Ports σ) (address : BitVec 32) (s : σ) : σ :=
  let (old, s) := p.input .w32 addressPort s
  p.output .w32 addressPort (address ||| (old &&& reservedMask)) s

/-- The ports of a machine as a reader of configuration space. -/
def reader (p : Ports σ) : ConfigReader σ where
  read width address s :=
    let s := select p address s
    p.input width (lanePort width address) s

end PortAccess

/-! ## Recorded ports -/

/-- An event at the ports. -/
inductive PortEvent where
  | privilege (level : Nat)
  | input (width : ConfigWidth) (port : Nat) (value : BitVec width.bits)
  | output (width : ConfigWidth) (port : Nat) (value : BitVec width.bits)
deriving DecidableEq

/-- The machine that records what happens at its ports. -/
def Ports.recorded {σ : Type} (p : Ports σ) : Ports (Recorded PortEvent σ) where
  setPrivilege level r :=
    let (refusal, s) := p.setPrivilege level r.state
    (refusal, ({ r with state := s }).note (.privilege level))
  input width port r :=
    let (value, s) := p.input width port r.state
    (value, ({ r with state := s }).note (.input width port value))
  output width port value r :=
    ({ r with state := p.output width port value r.state }).note (.output width port value)

end FlashDump.Pci
