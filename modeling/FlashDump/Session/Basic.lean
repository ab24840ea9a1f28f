import FlashDump.Session.Step

/-!
# Sessions

A `Session` is a chipset that was detected on a simulated machine.  `Session.step` makes
a step.

Reaching for the window while it is not mapped, and for a register that does not
exist, is misuse.  A step that is misuse has no effect at all, and so there is no new
session in that case.  A window that is not mapped is noticed first.
-/

namespace FlashDump

/-- A chipset that was detected on a simulated machine. -/
structure Session where
  chipset : Chipset
  context : Context RecordedMachine

namespace Session

def start (machine : Machine) (recording : Bool) (verbosity : Log.Verbosity) :
    Except ChipsetError Chipset × Context RecordedMachine :=
  Chipset.probe recordedPlatform ⟨.start recording machine, .empty verbosity⟩

def machine (s : Session) : Machine := s.context.hardware.state

/-- The session with another state of the hardware. -/
def withHardware (s : Session) (hardware : RecordedMachine) : Session :=
  { s with context := { s.context with hardware } }

/-- Change the machine behind the back of the chipset. -/
def changeMachine (f : Controller → Controller) (s : Session) : Session :=
  s.withHardware (s.context.hardware.update (Machine.updateController f))

/-- What can be seen of the state. -/
def overview (s : Session) : Overview where
  mapped := s.chipset.isMapped
  requests := s.machine.requests
  cycles := s.machine.controller.cycles
  writes := s.machine.controller.writes.size
  integratedIo := s.chipset.isIntegratedIo

/-! ## Steps -/

/-- The answer to a step that leaves the chipset alone. -/
def answer {α : Type} (s : Session) (wrap : α → Answer) (result : α × RecordedMachine) :
    Except Misuse (Answer × Session) :=
  .ok (wrap result.1, s.withHardware result.2)

def readBridge (s : Session) : BridgeTarget → Answer × Session
  | .biosCntl =>
      let (r, context) := s.chipset.readBiosCntl recordedPlatform s.context
      (.record (.biosCntl r), { s with context })
  | .rcba =>
      let (r, context) := s.chipset.readRcba recordedPlatform s.context
      (.record (.rcba r), { s with context })

/-- Read a register of the window, which is mapped. -/
def readWindow (s : Session) (target : WindowTarget) : Except Misuse (Answer × Session) :=
  let l := s.chipset.layout
  let m := recordedPlatform.window
  let hardware := s.context.hardware
  match target with
  | .gcs =>
      let (r, context) := s.chipset.readGcs recordedPlatform s.context
      .ok (.record (.gcs r), { s with context })
  | .bfpr => s.answer (.record ∘ .bfpr) (l.readBfpr m hardware)
  | .hsfs => s.answer (.record ∘ .hsfs) (l.readHsfs m hardware)
  | .hsfc => s.answer (.record ∘ .hsfc) (l.readHsfc m hardware)
  | .faddr => s.answer (.record ∘ .faddr) (l.readFaddr m hardware)
  | .frap => s.answer (.record ∘ .frap) (l.readFrap m hardware)
  | .ssfs => s.answer (.record ∘ .ssfs) (l.readSsfs m hardware)
  | .ssfc => s.answer (.record ∘ .ssfc) (l.readSsfc m hardware)
  | .fdata index =>
      if h : index < Register.fdataCount then
        s.answer .word (l.readFdata m ⟨index, h⟩ hardware)
      else .error (.fdataIndex index)
  | .freg index =>
      if h : index < Register.regionCount then
        s.answer (.record ∘ .freg) (l.readFreg m ⟨index, h⟩ hardware)
      else .error (.fregIndex index)
  | .pr index =>
      if h : index < Register.regionCount then
        s.answer (.record ∘ .pr) (l.readPr m ⟨index, h⟩ hardware)
      else .error (.prIndex index)

/-- Write the record of a register of the window, which is mapped. -/
def writeWindow (s : Session) (r : WritableRecord) : Answer × Session :=
  (.ok, s.withHardware (s.chipset.layout.writeRecord recordedPlatform.window r s.context.hardware))

/-- Make an access through the window, which is mapped. -/
def access (s : Session) (request : AccessRequest) : Answer × Session :=
  let (reply, hardware) := recordedPlatform.window.perform request s.context.hardware
  (.reply reply, s.withHardware hardware)

/-- Read the flash through the window, which is mapped. -/
def readFlash (s : Session) (r : Request) (policy : Policy) : Answer × Session :=
  let before := s.machine.controller.cycles
  let (result, hardware, delivery, log) :=
    s.chipset.readFlash recordedPlatform policy.observer r s.context.hardware
      (.empty, s.context.log)
  (.delivered result delivery (hardware.state.controller.cycles - before),
    { s with context := ⟨hardware, log⟩ })

def map (s : Session) (rcba : Option (BitVec 32)) : Answer × Session :=
  let (rcba, context) :=
    match rcba with
    | some raw => (s.chipset.layout.rcba raw, s.context)
    | none => s.chipset.readRcba recordedPlatform s.context
  let (result, chipset, context) := s.chipset.map recordedPlatform rcba context
  (match result with
    | .ok () => .ok
    | .error e => .failed e,
    ⟨chipset, context⟩)

/-- Release the window, if it is mapped. -/
def unmap (s : Session) : Session :=
  let (chipset, context) := s.chipset.unmap recordedPlatform s.context
  ⟨chipset, context⟩

/-- Do something that needs the window, given its address. -/
def mapped (s : Session) (act : BitVec 32 → Except Misuse (Answer × Session)) :
    Except Misuse (Answer × Session) :=
  match s.chipset.window with
  | some base => act base
  | none => .error .notMapped

def step (s : Session) : Step → Except Misuse (Answer × Session)
  | .map rcba => .ok (s.map rcba)
  | .unmap => .ok (.ok, s.unmap)
  | .base => s.mapped fun base => .ok (.base base, s)
  | .state => .ok (.state s.overview, s)
  | .readBridge target => .ok (s.readBridge target)
  | .readWindow target => s.mapped fun _ => s.readWindow target
  | .write record => s.mapped fun _ => .ok (s.writeWindow record)
  | .writeWord name raw =>
      s.mapped fun _ => .ok (s.writeWindow (s.chipset.layout.decodeWritable name raw))
  | .access request => s.mapped fun _ => .ok (s.access request)
  | .preset p => .ok (.ok, s.changeMachine (·.applyPreset p))
  | .injectError address => .ok (.ok, s.changeMachine (.injectError address))
  | .setStuck stuck => .ok (.ok, s.changeMachine (.setStuck stuck))
  | .setDelay delay => .ok (.ok, s.changeMachine (.setDelay delay))
  | .setPollLimit limit => .ok (.ok, { s with chipset := s.chipset.withPollLimit limit })
  | .readFlash request policy => s.mapped fun _ => .ok (s.readFlash request policy)

end Session

end FlashDump
