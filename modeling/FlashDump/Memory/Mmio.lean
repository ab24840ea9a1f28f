import FlashDump.Memory.LittleEndian

/-!
# Memory mapped input and output

A register window is read and written in units of 8, 16, 32 and 64 bits at an
offset.  `Mmio σ` is any device behind such a window: a state machine with
states `σ` that answers reads and takes writes.  A read may change the state,
and nothing is assumed about what it answers.  The code that drives the hardware
is written against `Mmio σ`, so that what is said of it holds for every device.

`Mmio.recorded` is the device that also writes down each access it sees, as far
as its recorder is switched on.
-/

namespace FlashDump

/-! ## Accesses -/

/-- The widths of an access. -/
inductive Width where
  | w8 | w16 | w32 | w64
deriving DecidableEq, Repr

namespace Width

@[reducible] def bytes : Width → Nat
  | w8 => 1
  | w16 => 2
  | w32 => 4
  | w64 => 8

@[reducible] def bits : Width → Nat
  | w8 => 8
  | w16 => 16
  | w32 => 32
  | w64 => 64

theorem bits_eq (w : Width) : w.bits = 8 * w.bytes := by cases w <;> rfl

end Width

/-- A write: the value that was stored, and where. -/
structure Write where
  width : Width
  offset : Nat
  /-- The value, as it was written. -/
  value : BitVec width.bits
deriving DecidableEq

/-- An access as the code that made it saw it. -/
inductive Access where
  /-- A read and the value it gave. -/
  | read (width : Width) (offset : Nat) (value : BitVec width.bits)
  | write (width : Width) (offset : Nat) (value : BitVec width.bits)
deriving DecidableEq

/-- A request for an access. -/
inductive AccessRequest where
  | read (width : Width) (offset : Nat)
  | write (width : Width) (offset : Nat) (value : BitVec width.bits)
deriving DecidableEq

/-- The answer to a request for an access. -/
inductive AccessReply where
  | value (width : Width) (value : BitVec width.bits)
  | done
deriving DecidableEq

/-! ## Devices -/

/-- A device behind a register window, with states `σ`. -/
structure Mmio (σ : Type) where
  read : (width : Width) → (offset : Nat) → σ → BitVec width.bits × σ
  write : (width : Width) → (offset : Nat) → BitVec width.bits → σ → σ

namespace Mmio

variable {σ : Type}

/-- An 8-bit read. -/
def read8 (m : Mmio σ) (offset : Nat) (s : σ) : BitVec 8 × σ := m.read .w8 offset s

/-- A 16-bit read. -/
def read16 (m : Mmio σ) (offset : Nat) (s : σ) : BitVec 16 × σ := m.read .w16 offset s

/-- A 32-bit read. -/
def read32 (m : Mmio σ) (offset : Nat) (s : σ) : BitVec 32 × σ := m.read .w32 offset s

/-- An 8-bit write. -/
def write8 (m : Mmio σ) (offset : Nat) (value : BitVec 8) (s : σ) : σ := m.write .w8 offset value s

/-- A 16-bit write. -/
def write16 (m : Mmio σ) (offset : Nat) (value : BitVec 16) (s : σ) : σ :=
  m.write .w16 offset value s

/-- A 32-bit write. -/
def write32 (m : Mmio σ) (offset : Nat) (value : BitVec 32) (s : σ) : σ :=
  m.write .w32 offset value s

/-- Make the access that a request asks for. -/
def perform (m : Mmio σ) (request : AccessRequest) (s : σ) : AccessReply × σ :=
  match request with
  | .read width offset =>
      let (value, s) := m.read width offset s
      (.value width value, s)
  | .write width offset value => (.done, m.write width offset value s)

/-- Make the accesses of a list of requests, in order. -/
def performAll (m : Mmio σ) : List AccessRequest → σ → List AccessReply × σ
  | [], s => ([], s)
  | request :: requests, s =>
      let (reply, s) := m.perform request s
      let (replies, s) := m.performAll requests s
      (reply :: replies, s)

end Mmio

/-! ## Recorders -/

/-- A state with a recorder for entries of type `ε`. -/
structure Recorded (ε σ : Type) where
  state : σ
  recording : Bool
  /-- The entries so far, oldest first. -/
  entries : Array ε

namespace Recorded

variable {ε σ : Type}

/-- A state with an empty recorder. -/
def start (recording : Bool) (s : σ) : Recorded ε σ := ⟨s, recording, #[]⟩

/-- Keep an entry, if the recorder is switched on. -/
def note (entry : ε) (r : Recorded ε σ) : Recorded ε σ :=
  if r.recording then { r with entries := r.entries.push entry } else r

/-- The entries, and the recorder without them. -/
def take (r : Recorded ε σ) : List ε × Recorded ε σ := (r.entries.toList, { r with entries := #[] })

/-- Change the state and leave the recorder alone. -/
def update (f : σ → σ) (r : Recorded ε σ) : Recorded ε σ := { r with state := f r.state }

end Recorded

/-- The device that records its accesses, each wrapped as an entry. -/
def Mmio.recorded {ε σ : Type} (wrap : Access → ε) (m : Mmio σ) : Mmio (Recorded ε σ) where
  read width offset r :=
    let ⟨s, recording, entries⟩ := r
    let (value, s) := m.read width offset s
    (value, Recorded.note (wrap (.read width offset value)) ⟨s, recording, entries⟩)
  write width offset value r :=
    let ⟨s, recording, entries⟩ := r
    Recorded.note (wrap (.write width offset value)) ⟨m.write width offset value s, recording, entries⟩

end FlashDump
