import FlashDump.Pci.Address

/-!
# A map of configuration space

`ConfigMap` is the configuration space of a machine with nothing on the bus but
the LPC bridge.  It is kept in dwords, each under its configuration address, and
a dword that was never written does not exist.

Writing part of a dword that does not exist makes one that is zero elsewhere.
Reading takes the dword at the address, moves the byte lane to the right end and
cuts it to the width of the access.  A dword that does not exist reads as ones.
-/

namespace FlashDump.Pci

/-- The dwords of configuration space that exist. -/
structure ConfigMap where
  /-- The dword at a configuration address. -/
  dword : BitVec 32 → Option (BitVec 32)

namespace ConfigMap

/-- No dword exists. -/
def empty : ConfigMap := ⟨fun _ => none⟩

/-- The configuration address of the dword that holds a register. -/
def dwordAddress (offset : BitVec 8) : BitVec 32 :=
  Address.lpcBridge.configAddress (offset &&& ~~~3#8)

/-- Change the dword at a configuration address. -/
def setDword (m : ConfigMap) (address value : BitVec 32) : ConfigMap :=
  ⟨fun a => if a = address then some value else m.dword a⟩

/-- Replace the bits under `mask` at the byte lane of a register. -/
def merge (m : ConfigMap) (offset : BitVec 8) (mask value : BitVec 32) : ConfigMap :=
  let shift := 8 * (offset &&& 3#8).toNat
  let address := dwordAddress offset
  let old := (m.dword address).getD 0
  m.setDword address ((old &&& ~~~(mask <<< shift)) ||| ((value &&& mask) <<< shift))

def set8 (m : ConfigMap) (offset : BitVec 8) (value : BitVec 8) : ConfigMap :=
  m.merge offset 0xff (value.setWidth 32)

def set16 (m : ConfigMap) (offset : BitVec 8) (value : BitVec 16) : ConfigMap :=
  m.merge offset 0xffff (value.setWidth 32)

def set32 (m : ConfigMap) (offset : BitVec 8) (value : BitVec 32) : ConfigMap :=
  m.setDword (dwordAddress offset) value

structure Setting where
  width : ConfigWidth
  offset : BitVec 8
  value : BitVec width.bits
deriving DecidableEq

def set (m : ConfigMap) : Setting → ConfigMap
  | ⟨.w8, offset, value⟩ => m.set8 offset value
  | ⟨.w16, offset, value⟩ => m.set16 offset value
  | ⟨.w32, offset, value⟩ => m.set32 offset value

/-- Make the writes of a list, in order. -/
def setAll (m : ConfigMap) (settings : List Setting) : ConfigMap :=
  settings.foldl set m

/-- A space that holds the identity of an LPC bridge. -/
def ofIdentity (vendor device : BitVec 16) (revision : BitVec 8) : ConfigMap :=
  ((empty.set16 vendorOffset vendor).set16 deviceOffset device).set8 revisionOffset revision

/-- The value at a configuration address. -/
def get (m : ConfigMap) (width : ConfigWidth) (address : BitVec 32) : BitVec width.bits :=
  let dword := (m.dword (address &&& ~~~3#32)).getD (BitVec.allOnes 32)
  (dword >>> (8 * (address &&& 3#32).toNat)).setWidth width.bits

/-- The map as a reader, which never changes. -/
def reader : ConfigReader ConfigMap where
  read width address m := (m.get width address, m)

end ConfigMap

end FlashDump.Pci
