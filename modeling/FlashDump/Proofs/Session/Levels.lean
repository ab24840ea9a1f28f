import FlashDump.Proofs.Session.ReadLog
import FlashDump.Session.Transcript

/-!
# Sessions at all levels

Nothing that a session does depends on its log.  Whatever the verbosity is, the same steps have the
same answers and do the same to the hardware, and the same is reported
(`Session.play_withLog`).  This is by induction on the steps, from one lemma for a step
(`Session.step_withLog`).  Only a few of the functions that a step is made of report anything.

Two runs of one session at two levels so differ in nothing but their logs, and there the verbosity
filters (`Session.transcript_of_verbosity`).  `Session.readFlash_logs` is about the reads of such
runs.
-/

namespace FlashDump

variable {σ : Type}

/-! ## Mappings -/

theorem Window.map_withLog (p : Platform σ) (rcba : Register.Rcba) (x : Context σ) :
    ∃ notices, ∀ log, Window.map p rcba (x.withLog log)
      = ((Window.map p rcba x).1, (Window.map p rcba x).2.withLog (log.logAll notices)) := by
  cases enabled : rcba.enable with
  | false =>
      refine ⟨[.baseDisabled], fun log => ?_⟩
      simp only [Window.map, enabled, Bool.false_eq_true, if_false]
      rfl
  | true =>
      rcases asked : p.map rcba.baseAddress.toNat windowSize x.hardware with ⟨refused | _, hardware⟩
      · refine ⟨[], fun log => ?_⟩
        simp only [Window.map, enabled, if_true, Context.withLog, asked]
        rfl
      · refine ⟨[.mapped rcba.baseAddress], fun log => ?_⟩
        simp only [Window.map, enabled, if_true, Context.withLog, asked]
        rfl

namespace Chipset

variable (c : Chipset) (p : Platform σ) (x : Context σ)

theorem readRcba_withLog :
    ∃ n, ∀ log, c.readRcba p (x.withLog log)
      = ((c.readRcba p x).1, (c.readRcba p x).2.withLog (log.log n)) :=
  ⟨.rcba (p.config.bridge32 Pci.rcbaOffset x.hardware).1, fun _ => rfl⟩

theorem unmap_withLog (log : Log.Logger) :
    c.unmap p (x.withLog log) = ((c.unmap p x).1, (c.unmap p x).2.withLog log) := by
  simp only [unmap]
  cases c.window <;> rfl

theorem map_withLog (rcba : Register.Rcba) :
    ∃ notices, ∀ log, c.map p rcba (x.withLog log)
      = ((c.map p rcba x).1, (c.map p rcba x).2.1,
          (c.map p rcba x).2.2.withLog (log.logAll notices)) := by
  obtain ⟨notices, asked⟩ := Window.map_withLog p rcba (c.unmap p x).2
  refine ⟨notices, fun log => ?_⟩
  rw [map, unmap_withLog]
  dsimp only
  rw [asked, map]
  dsimp only
  rcases Window.map p rcba (c.unmap p x).2 with ⟨refused | base, x'⟩ <;> rfl

theorem probe_withLog :
    ∃ notices, ∀ log, probe p (x.withLog log)
      = ((probe p x).1, (probe p x).2.withLog (log.logAll notices)) := by
  rcases asked : HardwareId.probe p.config x.hardware with ⟨id, hardware⟩
  cases known : Catalogue.resolve id with
  | error reason =>
      refine ⟨[.bridge id], fun log => ?_⟩
      simp only [probe, Context.withLog, asked, known]
      rfl
  | ok family =>
      refine ⟨[.bridge id, .found family.name ((family.deviceName id.device).getD "unknown")],
        fun log => ?_⟩
      simp only [probe, Context.withLog, asked, known]
      rfl

end Chipset

/-! ## Steps -/

namespace Session

variable (s : Session)

theorem map_withLog (rcba : Option (BitVec 32)) :
    ∃ notices, ∀ log, (s.withLog log).map rcba
      = ((s.map rcba).1, (s.map rcba).2.withLog (log.logAll notices)) := by
  cases rcba with
  | some raw =>
      obtain ⟨notices, mapped⟩ :=
        s.chipset.map_withLog recordedPlatform s.context (s.chipset.layout.rcba raw)
      refine ⟨notices, fun log => ?_⟩
      simp only [map, withLog]
      rw [mapped]
  | none =>
      obtain ⟨notices, mapped⟩ := s.chipset.map_withLog recordedPlatform
        (s.chipset.readRcba recordedPlatform s.context).2
        (s.chipset.readRcba recordedPlatform s.context).1
      obtain ⟨n, looked⟩ := s.chipset.readRcba_withLog recordedPlatform s.context
      refine ⟨n :: notices, fun log => ?_⟩
      simp only [map, withLog]
      rw [looked]
      dsimp only
      rw [mapped]
      rfl

theorem unmap_withLog (log : Log.Logger) : (s.withLog log).unmap = s.unmap.withLog log :=
  congrArg (fun made : Chipset × Context RecordedMachine => (⟨made.1, made.2⟩ : Session))
    (s.chipset.unmap_withLog recordedPlatform s.context log)

theorem mapped_map (act : BitVec 32 → Except Misuse (Answer × Session))
    (f : Answer × Session → Answer × Session) :
    (s.mapped act).map f = s.mapped fun base => (act base).map f := by
  rw [mapped, mapped]
  cases s.chipset.window <;> rfl

theorem readWindow_withLog (target : WindowTarget) :
    ∃ notices, ∀ log, (s.withLog log).readWindow target
      = (s.readWindow target).map fun made => (made.1, made.2.withLog (log.logAll notices)) := by
  cases target with
  | gcs =>
      exact ⟨[.gcs (s.chipset.layout.readGcsWord recordedPlatform.window s.context.hardware).1],
        fun _ => rfl⟩
  | fdata index | freg index | pr index =>
      refine ⟨[], fun log => ?_⟩
      rw [readWindow, readWindow]
      split <;> rfl
  | _ => exact ⟨[], fun _ => rfl⟩

theorem step_withLog (step : Step) :
    ∃ notices, ∀ log, (s.withLog log).step step
      = (s.step step).map fun made => (made.1, made.2.withLog (log.logAll notices)) := by
  cases step with
  | map rcba =>
      obtain ⟨notices, mapped⟩ := s.map_withLog rcba
      exact ⟨notices, fun log => congrArg Except.ok (mapped log)⟩
  | unmap =>
      exact ⟨[], fun log =>
        congrArg (fun after => Except.ok (Answer.ok, after)) (s.unmap_withLog log)⟩
  | readBridge target =>
      cases target with
      | biosCntl =>
          exact ⟨[.biosCntl (recordedPlatform.config.bridge8 Pci.biosControlOffset
            s.context.hardware).1], fun _ => rfl⟩
      | rcba =>
          exact ⟨[.rcba (recordedPlatform.config.bridge32 Pci.rcbaOffset s.context.hardware).1],
            fun _ => rfl⟩
  | readWindow target =>
      obtain ⟨notices, read⟩ := s.readWindow_withLog target
      refine ⟨notices, fun log => ?_⟩
      rw [step, step, mapped_map, read]
      rfl
  | readFlash r policy =>
      obtain ⟨result, hardware, delivery, notices, logged⟩ := s.logged policy.listener r .empty
      refine ⟨notices, fun log => ?_⟩
      have here : s.step (.readFlash r policy) = _ := step_readFlash_withLog logged s.context.log
      rw [step_readFlash_withLog logged log, here, mapped_map]
      rfl
  | base | write record | writeWord name raw | access request =>
      refine ⟨[], fun log => ?_⟩
      rw [step, step, mapped_map]
      rfl
  | state | preset p | injectError address | setStuck stuck | setDelay delay | setPollLimit limit =>
      exact ⟨[], fun _ => rfl⟩

theorem turn_withLog (step : Step) :
    ∃ notices, ∀ log, (s.withLog log).turn step
      = ((s.turn step).1, (s.turn step).2.withLog (log.logAll notices)) := by
  obtain ⟨notices, made⟩ := s.step_withLog step
  cases answered : s.step step with
  | error misuse =>
      refine ⟨[], fun log => ?_⟩
      have same := made log
      rw [answered] at same
      rw [turn_of_misuse answered, turn_of_misuse same]
      rfl
  | ok after =>
      refine ⟨notices, fun log => ?_⟩
      have same := made log
      rw [answered] at same
      rw [turn_of_ok answered, turn_of_ok same]
      rfl

/-- The same steps have the same answers and do the same, whatever log there is. -/
theorem play_withLog (steps : List Step) :
    ∃ notices, ∀ log, (s.withLog log).play steps
      = ((s.play steps).1, (s.play steps).2.withLog (log.logAll notices)) := by
  induction steps generalizing s with
  | nil => exact ⟨[], fun _ => rfl⟩
  | cons step steps ih =>
      obtain ⟨notices, first⟩ := s.turn_withLog step
      obtain ⟨later, rest⟩ := ih (s.turn step).2
      refine ⟨notices ++ later, fun log => ?_⟩
      rw [play, first]
      dsimp only
      rw [rest, Log.Logger.logAll_append, play]

/-! ## Two runs of one session -/

theorem lines_of_empty (verbosity : Log.Verbosity) (notices : List Log.Notice) :
    ((Log.Logger.empty verbosity).logAll notices).lines
      = (notices.filter fun n => verbosity.keeps n.level).flatMap fun n => Text.lines n.entry := by
  rw [Log.Logger.lines, Log.Logger.entries, Log.Logger.toList_kept_logAll, List.flatMap_map]
  rfl

/-- The verbosity of a session filters what is in its log, and changes nothing else. -/
theorem transcript_of_verbosity (machine : Machine) (recording : Bool) (steps : List Step) :
    ∃ notices : List Log.Notice, ∀ verbosity : Log.Verbosity,
      transcript machine recording verbosity steps
      = { transcript machine recording .trace steps with
          log := (notices.filter fun n => verbosity.keeps n.level).flatMap
            fun n => Text.lines n.entry } := by
  obtain ⟨first, probed⟩ := Chipset.probe_withLog recordedPlatform
    ⟨.start recording machine, .empty .trace⟩
  have started (verbosity : Log.Verbosity) : start machine recording verbosity
      = ((start machine recording .trace).1,
          (start machine recording .trace).2.withLog ((Log.Logger.empty verbosity).logAll first)) :=
    probed (.empty verbosity)
  rcases found : (start machine recording .trace) with ⟨probe, context⟩
  rw [found] at started
  cases probe with
  | error e =>
      refine ⟨first, fun verbosity => ?_⟩
      rw [← lines_of_empty, transcript, started verbosity, transcript, found]
      rfl
  | ok chipset =>
      obtain ⟨later, played⟩ := play_withLog
        ⟨chipset, { context with hardware := context.hardware.take.2 }⟩ steps
      refine ⟨first ++ later, fun verbosity => ?_⟩
      have ended : play
          ⟨chipset, ⟨context.hardware.take.2, (Log.Logger.empty verbosity).logAll first⟩⟩ steps = _ :=
        played _
      rw [← lines_of_empty, transcript, started verbosity, transcript, found]
      dsimp only [Context.withLog]
      rw [ended, unmap_withLog, Log.Logger.logAll_append]
      rfl

end Session

end FlashDump
