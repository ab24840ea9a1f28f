import FlashDump.Proofs.Log.Lines
import FlashDump.Proofs.Machine.Aftermath
import FlashDump.Proofs.Sequencer.Notices
import FlashDump.Proofs.Session.History

/-!
# What a read logs

The log takes no part in a read.  A read reports the same notices, does the same to the machine
and tells its observer the same, whatever the verbosity is and whatever was logged before
(`Session.Logged`).  The verbosity filters the notices, and each that is left takes one line.

The notices are told by the accesses that a recorder sees: which blocks were started, and what the
last poll of each of them showed (`Sequencer.Reports`).
-/

namespace FlashDump

open FlashDump.Register

variable {σ τ : Type}

/-! ## Lines -/

theorem Passage.plain_notices {limit : PollLimit} {p : Passage} {n : Log.Notice}
    (member : n ∈ p.notices limit) : n.Plain := by
  rw [Passage.notices] at member
  cases ended : p.last with
  | none =>
      rw [ended] at member
      cases limit with
      | unbounded => cases member
      | iterations polls =>
          rw [List.mem_singleton.1 member]
          exact Log.Notice.plain_timeout _
  | some status =>
      rw [ended] at member
      rcases List.mem_cons.1 member with rfl | failed
      · exact Log.Notice.plain_cycleDone _
      · split at failed
        · rw [List.mem_singleton.1 failed]
          exact Log.Notice.plain_cycleError _
        · cases failed

theorem Sequencer.Reports.plain {q : Sequencer σ} {r : Request} {status : BitVec 16}
    {passages : List Passage} {result : Option (Except ChipsetError Unit)}
    {notices : List Log.Notice} (reports : q.Reports r status passages result notices) :
    ∀ n ∈ notices, n.Plain := by
  intro n member
  cases busy : status.getLsbD 5 with
  | true =>
      rw [(reports.busy busy).2.2, List.mem_pair] at member
      rcases member with rfl | rfl
      · exact Log.Notice.plain_status _
      · exact Log.Notice.plain_busy
  | false =>
      rw [reports.free busy, List.mem_cons, List.mem_flatMap] at member
      rcases member with rfl | ⟨p, -, member⟩
      · exact Log.Notice.plain_status _
      · exact Passage.plain_notices member

/-! ## Policies -/

/-- The part of the observer of a policy that does not log. -/
def Policy.listener (p : Policy) : Observer Delivery where
  block address data d := (p.block d.blocks, d.addBlock address data)
  error := p.error.map fun choose address d => (choose d.errors, d.addError address)
  done := if p.done then some Delivery.addDone else none
  notify _ d := d

theorem Policy.observer_eq_keeping (p : Policy) :
    p.observer = p.listener.keeping Log.Logger.log := by
  obtain ⟨block, error, done⟩ := p
  cases error <;> cases done <;> rfl

/-! ## The log of a read -/

/-- The same hardware with another log. -/
def Context.withLog (x : Context σ) (log : Log.Logger) : Context σ := { x with log }

namespace Session

/-- What a read does that reports the notices. -/
structure Logged (s : Session) (o : Observer τ) (r : Request) (t : τ)
    (result : Option (Except ChipsetError Unit)) (hardware : RecordedMachine) (t' : τ)
    (notices : List Log.Notice) : Prop where
  run : ∀ log, s.chipset.readFlash recordedPlatform (o.keeping Log.Logger.log) r s.context.hardware
      (t, log) = (result, hardware, t', log.logAll notices)
  lines : ∀ log : Log.Logger, (log.logAll notices).lines
    = log.lines ++ (notices.filter fun n => log.verbosity.keeps n.level).map Log.Notice.entry
  allLines : ∀ log : Log.Logger, log.verbosity = .trace →
    (log.logAll notices).lines = log.lines ++ notices.map Log.Notice.entry
  rejected : ¬ r.Accepted → notices = []
  accepted : r.Accepted → ∃ status passages,
    s.chipset.readFlash recordedPlatform o r (.start true s.machine) t
        = (result,
            .on hardware.state ((Access.read .w16 (s.chipset.layout.offset Offset.hsfs) status
              :: passages.flatMap (Passage.accesses s.chipset.layout r.blockSize)).map .access), t') ∧
      (s.chipset.sequencer Machine.platform s.machine).Reports r status passages result notices

section Noting

variable {s : Session} {o : Observer τ} {r : Request} {t t' : τ}
  {result : Option (Except ChipsetError Unit)} {hardware : RecordedMachine}
  {notices : List Log.Notice}
  (run : s.chipset.readFlash recordedPlatform o.noting r s.context.hardware (t, [])
    = (result, hardware, t', notices))

include run

/-- The log does not matter to a read. -/
theorem readFlash_keeping (log : Log.Logger) :
    s.chipset.readFlash recordedPlatform (o.keeping Log.Logger.log) r s.context.hardware (t, log)
      = (result, hardware, t', log.logAll notices) := by
  have same := (o.noting_follows_keeping Log.Logger.log log).read
    (s.chipset.sequencer recordedPlatform s.context.hardware) r s.context.hardware (t, [])
  rw [Chipset.readFlash] at run
  rw [run] at same
  exact same

theorem notices_of_rejected (not : ¬ r.Accepted) : notices = [] := by
  cases planned : r.plan with
  | ok plan => exact absurd (Request.accepted_of_plan planned) not
  | error fault =>
      rw [Chipset.readFlash, Sequencer.read, planned] at run
      exact (congrArg (fun answer => answer.2.2.2) run).symm

/-- The notices are told by what a recorder sees. -/
theorem reports_of_accepted (sound : r.Accepted) : ∃ status passages,
    s.chipset.readFlash recordedPlatform o r (.start true s.machine) t
        = (result,
            .on hardware.state ((Access.read .w16 (s.chipset.layout.offset Offset.hsfs) status
              :: passages.flatMap (Passage.accesses s.chipset.layout r.blockSize)).map .access), t') ∧
      (s.chipset.sequencer Machine.platform s.machine).Reports r status passages result notices := by
  have common : (s.chipset.sequencer Machine.platform s.machine).layout.Common :=
    s.chipset.family.layout_common
  obtain ⟨status, passages, result', m, u, -, -, recorded, footprint⟩ :=
    Sequencer.read_on common HardwareEvent.access o.noting sound s.machine [] (t, [])
  have watched : s.chipset.readFlash recordedPlatform o.noting r (.start true s.machine) (t, [])
      = (result', .on m ((Access.read .w16 (s.chipset.layout.offset Offset.hsfs) status
          :: passages.flatMap (Passage.accesses s.chipset.layout r.blockSize)).map .access), u) :=
    recorded
  obtain ⟨same, state, told⟩ :=
    s.chipset.readFlash_start o.noting r s.context.hardware true (t, [])
  rw [run] at same state told
  have plain := o.noting_follows.read
    (s.chipset.sequencer recordedPlatform (.start true s.machine)) r (.start true s.machine) (t, [])
  obtain rfl : result' = result := (congrArg (·.1) watched).symm.trans same
  obtain rfl : m = hardware.state := (congrArg (·.2.1.state) watched).symm.trans state
  obtain rfl : u = (t', notices) := (congrArg (·.2.2) watched).symm.trans told
  rw [Chipset.readFlash] at watched
  rw [watched] at plain
  exact ⟨status, passages, plain, footprint.reports⟩

end Noting

theorem logged (s : Session) (o : Observer τ) (r : Request) (t : τ) :
    ∃ result hardware t' notices, s.Logged o r t result hardware t' notices := by
  rcases run : s.chipset.readFlash recordedPlatform o.noting r s.context.hardware (t, [])
    with ⟨result, hardware, t', notices⟩
  have plain : ∀ n ∈ notices, n.Plain := by
    by_cases sound : r.Accepted
    · obtain ⟨_, _, _, reports⟩ := reports_of_accepted run sound
      exact reports.plain
    · simp [notices_of_rejected run sound]
  refine ⟨result, hardware, t', notices, ?_⟩
  constructor
  case run => exact readFlash_keeping run
  case lines => exact fun log => log.lines_logAll notices plain
  case allLines =>
    intro log finest
    rw [log.lines_logAll notices plain, finest, List.filter_eq_self.2]
    exact fun n _ => Log.Logger.keeps_trace n.level
  case rejected => exact notices_of_rejected run
  case accepted => exact reports_of_accepted run

/-- The session with another log. -/
def withLog (s : Session) (log : Log.Logger) : Session :=
  { s with context := s.context.withLog log }

theorem step_readFlash_withLog {s : Session} {r : Request} {policy : Policy}
    {result : Option (Except ChipsetError Unit)} {hardware : RecordedMachine} {delivery : Delivery}
    {notices : List Log.Notice}
    (logged : s.Logged policy.listener r .empty result hardware delivery notices) (log : Log.Logger) :
    (s.withLog log).step (.readFlash r policy)
      = s.mapped fun _ => .ok
          (.delivered result delivery
            (hardware.state.controller.cycles - s.machine.controller.cycles),
            ⟨s.chipset, ⟨hardware, log.logAll notices⟩⟩) := by
  have run := logged.run log
  rw [← policy.observer_eq_keeping] at run
  have read : (s.withLog log).readFlash r policy
      = (.delivered result delivery
          (hardware.state.controller.cycles - s.machine.controller.cycles),
          ⟨s.chipset, ⟨hardware, log.logAll notices⟩⟩) := by
    rw [readFlash]
    dsimp only [withLog, Context.withLog]
    rw [run]
    rfl
  rw [step, read]
  rfl

end Session

end FlashDump
