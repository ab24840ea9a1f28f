import FlashDump.Chipset.Platform

/-!
# The root complex window

The registers that a chipset has beside configuration space are in a block of
16 KiB.  RCBA holds its physical address and says whether the address is enabled.
`Window.map` asks the platform for the block.  An address that is not enabled is
refused without asking.
-/

namespace FlashDump.Window

variable {σ : Type}

/-- Map the window that RCBA describes.  The answer is its physical address. -/
def map (p : Platform σ) (rcba : Register.Rcba) (x : Context σ) :
    Except ChipsetError (BitVec 32) × Context σ :=
  if rcba.enable then
    match p.map rcba.baseAddress.toNat windowSize x.hardware with
    | (.error e, hardware) => (.error e, { x with hardware })
    | (.ok (), hardware) =>
        (.ok rcba.baseAddress, Context.note (.mapped rcba.baseAddress) { x with hardware })
  else (.error (.invalidArgument .baseDisabled), x.note .baseDisabled)

/-- Map the window and make accesses through it. -/
def exercise (p : Platform σ) (rcba : Register.Rcba) (requests : List AccessRequest)
    (x : Context σ) : Except ChipsetError (BitVec 32 × List AccessReply) × Context σ :=
  match map p rcba x with
  | (.error e, x) => (.error e, x)
  | (.ok base, x) =>
      let (replies, hardware) := p.window.performAll requests x.hardware
      (.ok (base, replies), { x with hardware := p.unmap hardware })

end FlashDump.Window

namespace FlashDump

/-- A platform with plain memory behind its window and nothing else. -/
def RegisterFile.platform : Platform RegisterFile where
  acquire x := (.ok (), x)
  release x := x
  config := ⟨fun width _ m => (BitVec.allOnes width.bits, m)⟩
  map _ _ m := (.ok (), m)
  unmap m := m
  window := RegisterFile.mmio
  patience _ := 1

end FlashDump
