import FlashDump.Chipset.Registers

/-!
# Register records

A `Record` is the record of any register.  `Layout.decodeWord` decodes the word of a
register that is named when the program runs.  Five registers can also be written;
their records are `WritableRecord`.

Words here have 32 bits.  Those of a narrower register are cut to its width, except
that SSFC gets all of them.
-/

namespace FlashDump

open FlashDump.Register

/-- The registers, those of a row counted once. -/
inductive RegisterName where
  | biosCntl | rcba | gcs | bfpr | hsfs | hsfc | faddr | frap | freg | pr | ssfs | ssfc
deriving DecidableEq, Repr

inductive Record where
  | biosCntl (r : BiosCntl)
  | rcba (r : Rcba)
  | gcs (r : Gcs)
  | bfpr (r : Bfpr)
  | hsfs (r : Hsfs)
  | hsfc (r : Hsfc)
  | faddr (r : Faddr)
  | frap (r : Frap)
  | freg (r : Freg)
  | pr (r : ProtectedRange)
  | ssfs (r : Ssfs)
  | ssfc (r : Ssfc)
deriving DecidableEq, Repr

/-- The registers that can be written. -/
inductive WritableName where
  | hsfs | hsfc | faddr | ssfs | ssfc
deriving DecidableEq, Repr

/-- The record of a register that can be written. -/
inductive WritableRecord where
  | hsfs (r : Hsfs)
  | hsfc (r : Hsfc)
  | faddr (r : Faddr)
  | ssfs (r : Ssfs)
  | ssfc (r : Ssfc)
deriving DecidableEq, Repr

namespace Layout

variable {σ : Type}

def decodeWord (l : Layout) (integratedIo : Bool) (name : RegisterName) (raw : BitVec 32) :
    Record :=
  match name with
  | .biosCntl => .biosCntl (l.biosCntl (raw.setWidth 8))
  | .rcba => .rcba (l.rcba raw)
  | .gcs => .gcs (l.gcs raw integratedIo)
  | .bfpr => .bfpr (l.bfpr raw)
  | .hsfs => .hsfs (l.hsfs.decode (raw.setWidth 16))
  | .hsfc => .hsfc (l.hsfc.decode (raw.setWidth 16))
  | .faddr => .faddr (l.faddr.decode raw)
  | .frap => .frap (l.frap raw)
  | .freg => .freg (l.freg raw)
  | .pr => .pr (l.pr raw)
  | .ssfs => .ssfs (l.ssfs.decode (raw.setWidth 8))
  | .ssfc => .ssfc (l.ssfc.decode raw)

/-- The record of the word of a register that can be written. -/
def decodeWritable (l : Layout) (name : WritableName) (raw : BitVec 32) : WritableRecord :=
  match name with
  | .hsfs => .hsfs (l.hsfs.decode (raw.setWidth 16))
  | .hsfc => .hsfc (l.hsfc.decode (raw.setWidth 16))
  | .faddr => .faddr (l.faddr.decode raw)
  | .ssfs => .ssfs (l.ssfs.decode (raw.setWidth 8))
  | .ssfc => .ssfc (l.ssfc.decode raw)

def encodeWord (l : Layout) (r : WritableRecord) : BitVec 32 :=
  match r with
  | .hsfs r => (l.hsfs.encode r).setWidth 32
  | .hsfc r => (l.hsfc.encode r).setWidth 32
  | .faddr r => l.faddr.encode r
  | .ssfs r => (l.ssfs.encode r).setWidth 32
  | .ssfc r => l.ssfc.encode r

def writeRecord (l : Layout) (m : Mmio σ) (r : WritableRecord) (s : σ) : σ :=
  match r with
  | .hsfs r => l.writeHsfs m r s
  | .hsfc r => l.writeHsfc m r s
  | .faddr r => l.writeFaddr m r s
  | .ssfs r => l.writeSsfs m r s
  | .ssfc r => l.writeSsfc m r s

end Layout

/-- A record that can be written, among all records. -/
def WritableRecord.toRecord : WritableRecord → Record
  | hsfs r => .hsfs r
  | hsfc r => .hsfc r
  | faddr r => .faddr r
  | ssfs r => .ssfs r
  | ssfc r => .ssfc r

/-- A record as one that can be written, if its register can be. -/
def Record.toWritable? : Record → Option WritableRecord
  | hsfs r => some (.hsfs r)
  | hsfc r => some (.hsfc r)
  | faddr r => some (.faddr r)
  | ssfs r => some (.ssfs r)
  | ssfc r => some (.ssfc r)
  | _ => none

end FlashDump
