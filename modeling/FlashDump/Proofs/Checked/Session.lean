import FlashDump.Proofs.Checked.Controller
import FlashDump.Proofs.Checked.Sequencer
import FlashDump.Proofs.Session.Steps

/-!
# Checked sessions

A step of a session with every operation checked, on a simulated machine with every operation
checked.  The machine records what is done to it as it does otherwise, so a step that faults midway
shows by its record and its state.

`step_run` compares it with the step that is not checked.  Where that is misuse, the checked step
stops with the misuse, and the session is still what it was.  Everywhere else it runs to the end,
with the same answer and the same session after it.
-/

namespace FlashDump

/-- What is said of a step: the access that it makes by itself lies in the window, and a read is
asked for in words of 32 bits. -/
def Step.Allowed (c : Controller) : Step → Prop
  | .access request => request.offset + request.width.bytes ≤ windowSize
  | .preset p => (if p.relative then c.offset p.offset else p.offset) + p.width.bytes ≤ windowSize
  | .readFlash r _ => r.start < 2 ^ 32 ∧ r.size < 2 ^ 32 ∧ r.blockSize < 2 ^ 32
  | _ => True

namespace Checked

open FlashDump.Register

variable {σ α : Type}

/-! ## The machine -/

/-- Run a program of the controller on the machine. -/
def onController (x : Checked Controller α) : Checked RecordedMachine α :=
  zoom (·.state.controller) (fun c r => r.update (Machine.updateController fun _ => c)) x

/-- The window of a machine that is recorded. -/
def window : Device RecordedMachine where
  read width offset := do
    let value ← onController (readAt width offset)
    modify (.note (.access (.read width offset value)))
    return value
  write width offset value := do
    onController (writeAt width offset value)
    modify (.note (.access (.write width offset value)))

/-- The registers of the sequencer lie in the window. -/
def Placed (r : RecordedMachine) : Prop := r.state.controller.spiBar + sequencerSize ≤ windowSize

theorem window_follows : window.Follows recordedPlatform.window Placed where
  read {width offset r} inside _ := by
    have read : (onController (readAt width offset)).run r = .ok _ _ :=
      zoom_of_ok (readAt_ok inside r.state.controller)
    rw [window, bind_of_ok read, bind_of_ok (EStateM.run_modify _ _)]
    rfl
  write {width offset value r} inside placed := by
    have written : (onController (writeAt width offset value)).run r = .ok _ _ :=
      zoom_of_ok (writeAt_ok inside placed value)
    rw [window, bind_of_ok written, EStateM.run_modify]
    rfl
  sound_read {width offset r} placed := by
    have kin := r.state.controller.kin_read width offset
    rw [recordedPlatform_read, Placed, Recorded.state_after]
    rw [Placed, ← kin.spiBar] at placed
    exact placed
  sound_write {width offset value r} placed := by
    have kin := r.state.controller.kin_write width offset value
    rw [recordedPlatform_write, Placed, Recorded.state_after]
    rw [Placed, ← kin.spiBar] at placed
    exact placed

/-- Move a byte lane of configuration space to the right end. -/
def lane (m : Pci.ConfigMap) (width : Pci.ConfigWidth) (address : BitVec 32) :
    Checked σ (BitVec width.bits) := do
  let dword := (m.dword (address &&& ~~~3#32)).getD (BitVec.allOnes 32)
  return (← shiftRight dword (← mul 32 8 (address &&& 3#32).toNat)).setWidth width.bits

/-- Read a register of the LPC bridge. -/
def readConfig (width : Pci.ConfigWidth) (offset : BitVec 8) :
    Checked RecordedMachine (BitVec width.bits) := do
  let address ← configAddress .lpcBridge offset
  let value ← lane (← get).state.config width address
  modify (.note (.config width address value))
  return value

theorem lane_eq (m : Pci.ConfigMap) (width : Pci.ConfigWidth) (address : BitVec 32) :
    (lane m width address : Checked σ (BitVec width.bits)) = pure (m.get width address) := by
  have few : (address &&& 3#32).toNat ≤ 3 := by
    rw [BitVec.toNat_and]
    exact Nat.and_le_right
  rw [lane, mul_eq (by omega), pure_bind, shiftRight_eq (by omega), pure_bind]
  rfl

theorem readConfig_ok (width : Pci.ConfigWidth) (offset : BitVec 8) (r : RecordedMachine) :
    (readConfig width offset).run r
      = .ok (recordedPlatform.config.read width (Pci.Address.lpcBridge.configAddress offset) r).1
          (recordedPlatform.config.read width (Pci.Address.lpcBridge.configAddress offset) r).2 := by
  rw [readConfig, configAddress_eq, pure_bind, bind_of_ok (EStateM.run_get r), lane_eq, pure_bind,
    bind_of_ok (EStateM.run_modify _ r)]
  rfl

/-! ## Steps -/

/-- Run a program of the hardware in a session. -/
def onHardware (x : Checked RecordedMachine α) : Checked Session α :=
  zoom (·.context.hardware) (fun hardware s => s.withHardware hardware) x

/-- The address of the window.  To reach for it while it is not mapped is misuse. -/
def mapped : Checked Session (BitVec 32) := do
  match (← get).chipset.window with
  | some base => pure base
  | none => throw (.misuse .notMapped)

def note (n : Log.Notice) : Checked Session Unit :=
  modify fun s => { s with context := s.context.note n }

def readBiosCntl : Checked Session BiosCntl := do
  let raw ← onHardware (readConfig .w8 Pci.biosControlOffset)
  note (.biosCntl raw)
  biosCntlOf (← get).chipset.family.generation.series raw

def readRcba : Checked Session Rcba := do
  let raw ← onHardware (readConfig .w32 Pci.rcbaOffset)
  note (.rcba raw)
  decodeRcba raw

def readGcs : Checked Session Gcs := do
  let raw ← onHardware (window.read .w32 Offset.gcs)
  note (.gcs raw)
  let c := (← get).chipset
  gcsOf c.family.generation.series raw c.isIntegratedIo

/-- Map the window that RCBA describes. -/
def map (rcba : Rcba) : Checked Session Answer := fun s =>
  let (result, chipset, context) := s.chipset.map recordedPlatform rcba s.context
  .ok (match result with | .ok () => .ok | .error e => .failed e) ⟨chipset, context⟩

/-- The answer to a step that leaves the chipset alone. -/
def answer (wrap : α → Answer) (x : Checked RecordedMachine α) : Checked Session Answer := do
  return wrap (← onHardware x)

/-- Read a register of the window, which is mapped. -/
def readWindow (l : Layout) : WindowTarget → Checked Session Answer
  | .gcs => do return .record (.gcs (← readGcs))
  | .bfpr => answer (.record ∘ .bfpr) (readRegister l window .w32 Offset.bfpr decodeBfpr)
  | .hsfs => answer (.record ∘ .hsfs) (readHsfs l window)
  | .hsfc => answer (.record ∘ .hsfc) (readRegister l window .w16 Offset.hsfc decodeHsfc)
  | .faddr => answer (.record ∘ .faddr) (readRegister l window .w32 Offset.faddr decodeFaddr)
  | .frap => answer (.record ∘ .frap) (readRegister l window .w32 Offset.frap decodeFrap)
  | .ssfs => answer (.record ∘ .ssfs) (readRegister l window .w8 Offset.ssfs decodeSsfs)
  | .ssfc => answer (.record ∘ .ssfc) (readSsfc l window)
  | .fdata index => answer .word (readRow l window .fdata pure index)
  | .freg index => answer (.record ∘ .freg) (readRow l window .freg decodeFreg index)
  | .pr index => answer (.record ∘ .pr) (readRow l window .pr decodePr index)

/-- Make the access that a request asks for. -/
def perform : AccessRequest → Checked RecordedMachine AccessReply
  | .read width offset => do return .value width (← window.read width offset)
  | .write width offset value => do
      window.write width offset value
      return .done

/-- Read the flash through the window, which is mapped. -/
def readFlash (r : Request) (policy : Policy) : Checked Session Answer := do
  let s ← get
  let (result, delivery, log) ← onHardware <|
    read (s.chipset.sequencer recordedPlatform s.context.hardware) window policy.observer r
      (.empty, s.context.log)
  modify fun s => { s with context := { s.context with log } }
  return .delivered result delivery
    ((← get).machine.controller.cycles - s.machine.controller.cycles)

def step : Step → Checked Session Answer
  | .map (some raw) => do map (← decodeRcba raw)
  | .map none => do map (← readRcba)
  | .unmap => do
      modify Session.unmap
      return .ok
  | .base => do return .base (← mapped)
  | .state => do return .state (← get).overview
  | .readBridge .biosCntl => do return .record (.biosCntl (← readBiosCntl))
  | .readBridge .rcba => do return .record (.rcba (← readRcba))
  | .readWindow target => do
      let _ ← mapped
      readWindow (← get).chipset.layout target
  | .write record => do
      let _ ← mapped
      answer (fun _ => .ok) (writeRecord (← get).chipset.layout window record)
  | .writeWord name raw => do
      let record ← decodeWritable raw name
      let _ ← mapped
      answer (fun _ => .ok) (writeRecord (← get).chipset.layout window record)
  | .access request => do
      let _ ← mapped
      answer .reply (perform request)
  | .preset p => answer (fun _ => .ok) (onController (preset p))
  | .injectError address => do
      modify (.changeMachine (.injectError address))
      return .ok
  | .setStuck stuck => do
      modify (.changeMachine (.setStuck stuck))
      return .ok
  | .setDelay delay => do
      modify (.changeMachine (.setDelay delay))
      return .ok
  | .setPollLimit limit => do
      modify fun s => { s with chipset := s.chipset.withPollLimit limit }
      return .ok
  | .readFlash request policy => do
      let _ ← mapped
      readFlash request policy

/-! ## Steps do not fault -/

/-- What a checked step comes to, if a step comes to this.  Misuse leaves the session as it is. -/
def outcome (s : Session) : Except Misuse (Answer × Session) → EStateM.Result Fault Session Answer
  | .ok (answer, s') => .ok answer s'
  | .error misuse => .error (.misuse misuse) s

section Lifted

variable {s : Session} {x : Checked RecordedMachine α} {a : α} {hardware : RecordedMachine}

theorem onHardware_ok (ok : x.run s.context.hardware = .ok a hardware) :
    (onHardware x).run s = .ok a (s.withHardware hardware) :=
  zoom_of_ok ok

theorem answer_ok (wrap : α → Answer) (ok : x.run s.context.hardware = .ok a hardware) :
    (answer wrap x).run s = outcome s (s.answer wrap (a, hardware)) := by
  rw [answer, bind_of_ok (onHardware_ok ok)]
  rfl

theorem mapped_of_some {base : BitVec 32} (held : s.chipset.window = some base) :
    mapped.run s = .ok base s := by
  rw [mapped, bind_of_ok (EStateM.run_get s), held]
  rfl

theorem mapped_of_none (bare : s.chipset.window = none) :
    mapped.run s = .error (.misuse .notMapped) s := by
  rw [mapped, bind_of_ok (EStateM.run_get s), bare]
  rfl

/-- A step that reaches for the window does so before anything else. -/
theorem step_of_mapped {x : BitVec 32 → Checked Session Answer}
    {act : BitVec 32 → Except Misuse (Answer × Session)}
    (same : ∀ base, (x base).run s = outcome s (act base)) :
    (mapped >>= x).run s = outcome s (s.mapped act) := by
  rw [Session.mapped]
  cases held : s.chipset.window with
  | none => rw [bind_of_error (mapped_of_none held)]; rfl
  | some base => rw [bind_of_ok (mapped_of_some held), same]

end Lifted

theorem answer_readRow_of_past (l : Layout) (s : Session) (row : RegisterRow) {index : Nat}
    (past : row.count ≤ index) (decode : BitVec 32 → Checked RecordedMachine α)
    (wrap : α → Answer) :
    (answer wrap (readRow l window row decode index)).run s
      = outcome s (.error (row.misuse index)) := by
  have stopped := readRow_of_past l window past decode s.context.hardware
  have lifted : (onHardware (readRow l window row decode index)).run s
      = .error (.misuse (row.misuse index)) s := by
    rw [EStateM.run, onHardware, zoom, stopped]
    rfl
  rw [answer, bind_of_error lifted]
  rfl

theorem readRcba_ok (s : Session) :
    readRcba.run s
      = .ok (s.chipset.readRcba recordedPlatform s.context).1
          { s with context := (s.chipset.readRcba recordedPlatform s.context).2 } := by
  rw [readRcba, bind_of_ok (onHardware_ok (readConfig_ok _ _ _)), note,
    bind_of_ok (EStateM.run_modify _ _), decodeRcba_eq, Chipset.readRcba, Chipset.layout,
    s.chipset.family.layout_common.rcba]
  rfl

theorem perform_ok {r : RecordedMachine} (placed : Placed r) {request : AccessRequest}
    (inside : request.offset + request.width.bytes ≤ windowSize) :
    (perform request).run r
      = .ok (recordedPlatform.window.perform request r).1 (recordedPlatform.window.perform request r).2 := by
  cases request with
  | read width offset =>
      have read : (window.read width offset).run r = _ := window_follows.read inside placed
      rw [perform, bind_of_ok read]
      rfl
  | write width offset value =>
      have written : (window.write width offset value).run r = _ := window_follows.write inside placed
      rw [perform, bind_of_ok written]
      rfl

section Known

variable {s : Session} (known : s.chipset.family ∈ Catalogue.families)

include known

theorem readBiosCntl_ok :
    readBiosCntl.run s
      = .ok (s.chipset.readBiosCntl recordedPlatform s.context).1
          { s with context := (s.chipset.readBiosCntl recordedPlatform s.context).2 } := by
  rw [readBiosCntl, bind_of_ok (onHardware_ok (readConfig_ok _ _ _)), note,
    bind_of_ok (EStateM.run_modify _ _), bind_of_ok (EStateM.run_get _)]
  change (biosCntlOf s.chipset.family.generation.series _).run _ = _
  rw [biosCntlOf_eq known]
  rfl

variable (placed : Placed s.context.hardware)

include placed

theorem readGcs_ok :
    readGcs.run s
      = .ok (s.chipset.readGcs recordedPlatform s.context).1
          { s with context := (s.chipset.readGcs recordedPlatform s.context).2 } := by
  have inside : Offset.gcs + Width.w32.bytes ≤ windowSize := by decide
  rw [readGcs, bind_of_ok (onHardware_ok (window_follows.read inside placed)), note,
    bind_of_ok (EStateM.run_modify _ _), bind_of_ok (EStateM.run_get _)]
  change (gcsOf s.chipset.family.generation.series _ s.chipset.isIntegratedIo).run _ = _
  rw [gcsOf_eq known]
  rfl

theorem readWindow_run (target : WindowTarget) :
    (readWindow s.chipset.layout target).run s = outcome s (s.readWindow target) := by
  have common : s.chipset.layout.Common := s.chipset.family.layout_common
  have fits : s.chipset.layout.spiBar + spiSize ≤ windowSize := Catalogue.spiSize_fits known
  have follows := window_follows
  cases target with
  | gcs =>
      rw [readWindow, bind_of_ok (readGcs_ok known placed)]
      rfl
  | bfpr =>
      rw [readWindow, answer_ok _ (readRegister_ok follows placed (Layout.Place.bfpr.inside fits)
        decodeBfpr_eq), Session.readWindow, Layout.readBfpr, common.bfpr]
      rfl
  | hsfs =>
      rw [readWindow, answer_ok _ (readHsfs_ok follows placed fits common)]
      rfl
  | hsfc =>
      rw [readWindow, answer_ok _ (readRegister_ok follows placed (Layout.Place.hsfc.inside fits)
        decodeHsfc_eq), Session.readWindow, Layout.readHsfc, common.hsfc]
      rfl
  | faddr =>
      rw [readWindow, answer_ok _ (readRegister_ok follows placed (Layout.Place.faddr.inside fits)
        decodeFaddr_eq), Session.readWindow, Layout.readFaddr, common.faddr]
      rfl
  | frap =>
      rw [readWindow, answer_ok _ (readRegister_ok follows placed (Layout.Place.frap.inside fits)
        decodeFrap_eq), Session.readWindow, Layout.readFrap, common.frap]
      rfl
  | ssfs =>
      rw [readWindow, answer_ok _ (readRegister_ok follows placed (Layout.Place.ssfs.inside fits)
        decodeSsfs_eq), Session.readWindow, Layout.readSsfs, common.ssfs]
      rfl
  | ssfc =>
      rw [readWindow, answer_ok _ (readSsfc_ok follows placed fits common)]
      rfl
  | fdata index =>
      rw [readWindow, Session.readWindow]
      by_cases below : index < fdataCount
      · rw [dif_pos below, answer_ok _ (readRow_ok follows placed fits .fdata below fun _ => rfl)]
        rfl
      · rw [dif_neg below, answer_readRow_of_past _ s .fdata (Nat.not_lt.1 below)]
        rfl
  | freg index =>
      rw [readWindow, Session.readWindow]
      by_cases below : index < regionCount
      · rw [dif_pos below, answer_ok _ (readRow_ok follows placed fits .freg below decodeFreg_eq),
          Layout.readFreg, common.freg]
        rfl
      · rw [dif_neg below, answer_readRow_of_past _ s .freg (Nat.not_lt.1 below)]
        rfl
  | pr index =>
      rw [readWindow, Session.readWindow]
      by_cases below : index < regionCount
      · rw [dif_pos below, answer_ok _ (readRow_ok follows placed fits .pr below decodePr_eq),
          Layout.readPr, common.pr]
        rfl
      · rw [dif_neg below, answer_readRow_of_past _ s .pr (Nat.not_lt.1 below)]
        rfl

theorem readFlash_run {r : Request} (sum : r.start + r.size < 2 ^ 64)
    (counted : (s.chipset.sequencer recordedPlatform s.context.hardware).budget < 2 ^ 64)
    (policy : Policy) :
    (readFlash r policy).run s = outcome s (.ok (s.readFlash r policy)) := by
  have done := read_ok (q := s.chipset.sequencer recordedPlatform s.context.hardware) window_follows
    s.chipset.family.layout_common (Catalogue.spiSize_fits known) policy.observer sum counted
    (.empty, s.context.log) placed
  rw [readFlash, bind_of_ok (EStateM.run_get s), bind_of_ok (onHardware_ok done)]
  rfl

theorem step_run {st : Step} (allowed : st.Allowed s.machine.controller)
    (counted : (s.chipset.sequencer recordedPlatform s.context.hardware).budget < 2 ^ 64) :
    (step st).run s = outcome s (s.step st) := by
  have common : s.chipset.layout.Common := s.chipset.family.layout_common
  have fits : s.chipset.layout.spiBar + spiSize ≤ windowSize := Catalogue.spiSize_fits known
  cases st with
  | map rcba =>
      cases rcba with
      | some raw =>
          rw [step, decodeRcba_eq, pure_bind, Session.step, Session.map, common.rcba]
          rfl
      | none =>
          rw [step, bind_of_ok (readRcba_ok s)]
          rfl
  | unmap => rfl
  | base => exact step_of_mapped fun base => rfl
  | state => rfl
  | readBridge target =>
      cases target with
      | biosCntl =>
          rw [step, bind_of_ok (readBiosCntl_ok known)]
          rfl
      | rcba =>
          rw [step, bind_of_ok (readRcba_ok s)]
          rfl
  | readWindow target =>
      refine step_of_mapped fun _ => ?_
      rw [bind_of_ok (EStateM.run_get s)]
      exact readWindow_run known placed target
  | write record =>
      refine step_of_mapped fun _ => ?_
      rw [bind_of_ok (EStateM.run_get s),
        answer_ok _ (writeRecord_ok window_follows placed fits common record)]
      rfl
  | writeWord name raw =>
      rw [step, decodeWritable_eq common, pure_bind]
      refine step_of_mapped fun _ => ?_
      rw [bind_of_ok (EStateM.run_get s),
        answer_ok _ (writeRecord_ok window_follows placed fits common _)]
      rfl
  | access request =>
      refine step_of_mapped fun _ => ?_
      rw [answer_ok _ (perform_ok placed allowed)]
      rfl
  | preset p =>
      have stored : (onController (preset p)).run s.context.hardware = .ok _ _ :=
        zoom_of_ok (preset_ok allowed)
      rw [step, answer_ok _ stored]
      rfl
  | injectError address => rfl
  | setStuck stuck => rfl
  | setDelay delay => rfl
  | setPollLimit limit => rfl
  | readFlash r policy =>
      refine step_of_mapped fun _ => ?_
      exact readFlash_run known placed (by obtain ⟨start, size, -⟩ := allowed; omega) counted policy

end Known

end Checked

end FlashDump
