import FlashDump.Dump.Copy
import FlashDump.Dump.Failure

/-!
# Making a dump

`Dump.run` is the program after its command line is read.  It goes through a fixed
list of gates: privileges, identity, mapping, boot straps, descriptor, output file,
software sequencing.  Only behind the last of them is the flash read.  The privileges
are given back in every case in which they were granted, and the window is released in
every case in which it was mapped.

A `Job` acts on a `World`: the hardware with the log, the disk, and what is printed.
What was done before a failure stays done.
-/

namespace FlashDump.Dump

/-- What the program acts on. -/
structure World (σ : Type) where
  context : Context σ
  disk : Disk
  printed : String

/-- An action on the world. -/
abbrev Job (σ : Type) := EStateM Failure (World σ)

namespace Job

variable {σ α : Type}

def print (text : String) : Job σ Unit :=
  modify fun w => { w with printed := w.printed ++ text }

/-- Act on the hardware and the log. -/
def act (f : Context σ → α × Context σ) : Job σ α := fun w =>
  let (a, context) := f w.context
  .ok a { w with context }

/-- Act on the hardware and the log in a way that may fail. -/
def attempt (wrap : ChipsetError → Failure) (f : Context σ → Except ChipsetError α × Context σ) :
    Job σ α := fun w =>
  match f w.context with
  | (.ok a, context) => .ok a { w with context }
  | (.error e, context) => .error (wrap e) { w with context }

/-- Do something if a job fails. -/
def failing (job : Job σ α) (finish : World σ → World σ) : Job σ α := fun w =>
  match job w with
  | .ok a w => .ok a w
  | .error e w => .error e (finish w)

/-- Do something at the end of a job, however it ends. -/
def closing (job : Job σ α) (finish : World σ → World σ) : Job σ α := fun w =>
  match job w with
  | .ok a w => .ok a (finish w)
  | .error e w => .error e (finish w)

end Job

variable {σ : Type}

/-- Map the window.  The answer is the chipset with it. -/
def mapWindow (p : Platform σ) (c : Chipset) (rcba : Register.Rcba) (x : Context σ) :
    Except ChipsetError Chipset × Context σ :=
  match c.map p rcba x with
  | (.ok (), c, x) => (.ok c, x)
  | (.error e, _, x) => (.error e, x)

/-- Read the identity, for printing. -/
def readIdentity (p : Platform σ) (x : Context σ) : HardwareId × Context σ :=
  let (id, hardware) := HardwareId.probe p.config x.hardware
  (id, { x with hardware })

/-- Read the status of software sequencing. -/
def readStatus (p : Platform σ) (c : Chipset) (x : Context σ) : Register.Ssfs × Context σ :=
  let (ssfs, hardware) := c.layout.readSsfs p.window x.hardware
  (ssfs, { x with hardware })

/-- Make or empty the output file. -/
def openOutput (path : String) : Job σ Target := fun w =>
  match w.disk.create path with
  | .ok (target, disk) => .ok target { w with disk }
  | .error cause => .error (.notOpened path cause) w

/-- What is left of a copy when the read has ended: the rest of the buffer is sent on
and what went wrong is reported. -/
def conclude (path : String) (result : Option (Except ChipsetError Unit)) (t : Progress) :
    Except Failure Unit × Progress :=
  match result with
  | none => (.error .unfinished, t)
  | some (.error e) => (.error (.notRead e), t)
  | some (.ok ()) =>
      match t.writeError with
      | some e => (.error (.notWritten path e), t)
      | none =>
          match t.sink.flush with
          | (some e, sink) => (.error (.notWritten path e), { t with sink })
          | (none, sink) =>
              let t := { t with sink }
              let t := if t.failedBlocks = 0 then t else t.note (.failedBlocks t.failedBlocks)
              (.ok (), t.note (.wrote path))

/-- Copy the flash to the output file, which is open. -/
def copy (p : Platform σ) (o : CommandLine.Options) (c : Chipset) (target : Target) :
    Job σ Unit := fun w =>
  let progress : Progress := ⟨.start target, w.context.log, w.printed, none, 0⟩
  let (result, hardware, progress) :=
    c.readFlash p (copier o) ⟨o.start, o.flashSize, o.blockSize⟩ w.context.hardware progress
  let (outcome, progress) := conclude o.output result progress
  let w : World σ :=
    { context := ⟨hardware, progress.log⟩
      disk := progress.sink.close w.disk
      printed := progress.printed }
  match outcome with
  | .ok () => .ok () w
  | .error e => .error e w

/-- The gates behind the mapping, and the copy. -/
def runMapped (p : Platform σ) (o : CommandLine.Options) (c : Chipset) : Job σ Unit := do
  let gcs ← Job.act (c.readGcs p)
  Job.print (strapsText gcs)
  if gcs.bootBiosStraps ≠ .spi then throw .notBootedFromSpi
  let survey ← Job.act (Survey.read c p)
  Job.print survey.text
  if !survey.hsfs.flashDescriptorValid then throw .noDescriptor
  let target ← openOutput o.output
  Job.print "Reading SPI flash"
  let ssfs ← Job.act (readStatus p c)
  if ssfs.spiCycleInProgress then throw .inProgress
  copy p o c target

/-- The poll limit that the options ask for. -/
def pollLimit (o : CommandLine.Options) : PollLimit :=
  match o.maxPolls with
  | some polls => .iterations polls
  | none => .unbounded

/-- What is left to do where the chipset is not detected, or its window is not mapped. -/
def abandon (p : Platform σ) (w : World σ) : World σ := { w with context := p.release w.context }

/-- What is left to do once the window is mapped, however the run ends. -/
def release (p : Platform σ) (c : Chipset) (w : World σ) : World σ :=
  { w with context := c.close p w.context }

def run (p : Platform σ) (o : CommandLine.Options) : Job σ Unit := do
  Job.print acquireText
  Job.attempt .noConfigAccess p.acquire
  Job.print identityLabel
  let id ← Job.act (readIdentity p)
  Job.print (identityText id)
  let c ← (Job.attempt .notDetected (Chipset.probe p)).failing (abandon p)
  let c := c.withPollLimit (pollLimit o)
  let rcba ← Job.act (c.readRcba p)
  Job.print (mappingText rcba)
  let c ← (Job.attempt .notMapped (mapWindow p c rcba)).failing (abandon p)
  (runMapped p o c).closing (release p c)

end FlashDump.Dump
