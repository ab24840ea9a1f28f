import FlashDump.Proofs.Machine.Accesses
import FlashDump.Proofs.Machine.Read
import FlashDump.Proofs.Machine.Settled
import FlashDump.Proofs.Sequencer.Footprint

/-!
# The machine after a read

`Controller.Aftermath` says what a read has made of a controller, given the addresses of the
blocks that it started.  `Sequencer.readBlocks_aftermath` is by induction on the number of
blocks.  It makes no difference how a block ends: the registers are settled when its cycle is
started, and polling and collecting change no register.

Which blocks were started is seen from outside, by the accesses that a recorder sees.  Each
block has three writes, and all of them are in the controller's own list of writes, so the
blocks of the record are those of the aftermath (`Chipset.readFlash_leaves`).
-/

namespace FlashDump

open FlashDump.Bits
open FlashDump.Register

/-- What a controller is after the blocks at some addresses were started. -/
structure Controller.Aftermath (blockSize : Nat) (started : List Nat) (c d : Controller) : Prop where
  kin : c.Kin d
  cycles : d.cycles = c.cycles + started.length
  writes : ∃ more, d.writes.toList = c.writes.toList ++ more ∧ more.length = 3 * started.length
  untouched : started = [] → d.memory = c.memory
  settled : ∀ address ∈ started.getLast?, c.Settled blockSize address d

namespace Controller.Aftermath

variable {blockSize address : Nat} {started : List Nat} {c d e : Controller}

/-- Before the first block, only what hides the end of the last cycle changes. -/
theorem pending (blockSize : Nat) (c : Controller) (pending : Nat) :
    Aftermath blockSize [] c { c with pending } :=
  ⟨.pending c pending, rfl, ⟨[], (List.append_nil _).symm, rfl⟩, fun _ => rfl,
    fun _ member => nomatch member⟩

/-- One block, and then the others. -/
theorem cons (kin : c.Kin d) (cycles : d.cycles = c.cycles + 1)
    (writes : ∃ more, d.writes.toList = c.writes.toList ++ more ∧ more.length = 3)
    (settled : c.Settled blockSize address d) (rest : Aftermath blockSize started d e) :
    Aftermath blockSize (address :: started) c e where
  kin := kin.trans rest.kin
  cycles := by
    rw [rest.cycles, cycles, List.length_cons]
    omega
  writes := by
    obtain ⟨three, first, size⟩ := writes
    obtain ⟨more, second, size'⟩ := rest.writes
    refine ⟨three ++ more, by rw [second, first, List.append_assoc], ?_⟩
    rw [List.length_append, size, size', List.length_cons]
    omega
  untouched none := nomatch none
  settled last member := by
    cases started with
    | nil =>
        obtain rfl : address = last := by simpa using member
        exact settled.congr rest.kin.spiBar (rest.untouched rfl)
    | cons next started =>
        rw [List.getLast?_cons_cons] at member
        exact settled.trans kin (rest.settled last member)

end Controller.Aftermath

/-- Whether cycles end within a number of polls. -/
def Controller.endsWithin (c : Controller) (polls : Nat) : Bool := !c.stuck && decide (c.delay < polls)

/-! ## The sequencer -/

namespace Sequencer

variable {τ : Type} {q : Sequencer Controller} {c : Controller}

/-- Polls of a controller whose cycle is not done. -/
theorem poll_of_undone (drives : q.Drives c)
    (undone : (c.memory.load .w16 (c.spiBar + Offset.hsfs)).getLsbD 0 = false) (polls : Nat) :
    q.poll polls c = (none, { c with pending := c.pending - polls }) := by
  induction polls generalizing c with
  | zero => rfl
  | succ polls ih =>
      have word := Controller.read_hsfs c
      have hidden : ((if c.pending = 0 then c.memory.load .w16 (c.spiBar + Offset.hsfs)
          else c.memory.load .w16 (c.spiBar + Offset.hsfs) &&& ~~~3 : BitVec Width.w16.bits)).getLsbD 0
          = false := by
        split
        · exact undone
        · exact (BitVec.getLsbD_and).trans (by rw [undone, Bool.false_and])
      generalize (if c.pending = 0 then c.memory.load .w16 (c.spiBar + Offset.hsfs)
          else c.memory.load .w16 (c.spiBar + Offset.hsfs) &&& ~~~3) = status at word hidden
      have looked : q.device.read .w16 (q.layout.offset Offset.hsfs) c
          = (status, { c with pending := c.pending - 1 }) := by
        rw [drives.device, drives.offset]
        exact word
      rw [poll_succ_of_read drives.common polls looked, hidden, if_neg Bool.false_ne_true,
        ih (drives.kin (.pending c (c.pending - 1))) undone, Nat.sub_sub, Nat.add_comm 1]

/-- What was hidden before a cycle does not matter after it. -/
theorem poll_startCycle (drives : q.Drives c) {words address : Nat}
    (positive : 0 < words) (few : words ≤ fdataCount) (fits : address < flashAddressSpace)
    (pending : Nat) :
    ∃ pending', q.poll q.budget (q.startCycle words address { c with pending })
      = (if c.endsWithin q.budget then
            some (Hsfs.decode ((c.launch (4 * words) address).word .w16 Offset.hsfs))
          else none,
        { c.launch (4 * words) address with pending := pending' }) := by
  have room : 4 * words ≤ 64 := by
    unfold fdataCount at few
    omega
  have kin : c.Kin (c.launch (4 * words) address) := Controller.kin_launch _ _ c
  have started : q.startCycle words address { c with pending } = c.launch (4 * words) address :=
    startCycle_eq_launch (drives.kin (.pending c pending)) fits few
  rw [started]
  have shown := (Controller.settled_launch drives.fits (by omega) room ⟨words, rfl⟩ fits).done
  unfold Controller.endsWithin
  cases ends : c.stuck with
  | true =>
      rw [ends] at shown
      exact ⟨_, poll_of_undone (drives.kin kin) shown q.budget⟩
  | false =>
      rw [ends] at shown
      refine ⟨if c.delay < q.budget then 0 else c.delay - q.budget, ?_⟩
      rw [poll_of_done (drives.kin kin) shown]
      change (if c.delay < q.budget then _ else _) = _
      by_cases intime : c.delay < q.budget
      · simp only [if_pos intime, decide_eq_true intime]
        rfl
      · simp only [if_neg intime, decide_eq_false intime]
        rfl

theorem readBlocks_aftermath (drives : q.Drives c) (o : Observer τ) {words : Nat}
    (positive : 0 < words) (few : words ≤ fdataCount) (count : Nat) {address : Nat}
    (fits : address + count * (4 * words) ≤ flashAddressSpace) (pending : Nat) (t : τ) :
    ∃ started, started = (List.range' address count (4 * words)).take started.length ∧
      c.Aftermath (4 * words) started (q.readBlocks o words count address { c with pending } t).2.1 := by
  induction count generalizing c address pending t with
  | zero => exact ⟨[], rfl, .pending _ c pending⟩
  | succ count ih =>
      rw [Nat.succ_mul] at fits
      have inside : address < flashAddressSpace := by omega
      have rest_fits : address + 4 * words + count * (4 * words) ≤ flashAddressSpace := by omega
      have room : 4 * words ≤ 64 := by
        unfold fdataCount at few
        omega
      have kin : c.Kin (c.launch (4 * words) address) := Controller.kin_launch _ _ c
      have settled : c.Settled (4 * words) address (c.launch (4 * words) address) :=
        Controller.settled_launch drives.fits (by omega) room ⟨words, rfl⟩ inside
      have launched {started : List Nat} {e : Controller}
          (rest : (c.launch (4 * words) address).Aftermath (4 * words) started e) :
          c.Aftermath (4 * words) (address :: started) e :=
        .cons kin rfl ⟨_, by simp [Controller.launch, Controller.runCycle]; rfl, rfl⟩ settled rest
      obtain ⟨pending', polled⟩ := poll_startCycle drives positive few inside pending
      have alone : c.Aftermath (4 * words) [address]
          { c.launch (4 * words) address with pending := pending' } :=
        launched (.pending _ _ _)
      have shown := drives.kin (kin.trans (.pending _ pending'))
      have first : [address] = (List.range' address (count + 1) (4 * words)).take 1 := by
        rw [List.range'_succ, List.take_succ_cons, List.take_zero]
      cases intime : c.endsWithin q.budget with
      | false =>
          rw [intime, if_neg Bool.false_ne_true] at polled
          rw [readBlocks_of_timeout polled]
          exact ⟨[address], first, alone⟩
      | true =>
          rw [intime, if_pos rfl] at polled
          rcases acknowledged : acknowledge o address _ t with ⟨_ | _, t'⟩
          · rw [readBlocks_of_decline polled acknowledged]
            exact ⟨[address], first, alone⟩
          have collected := collect_eq shown few
          rcases answered : o.block address _ t' with ⟨_ | _, t''⟩
          · rw [readBlocks_of_stop polled acknowledged collected answered]
            exact ⟨[address], first, alone⟩
          · rw [readBlocks_of_block polled acknowledged collected answered]
            obtain ⟨started, prefix_eq, rest⟩ := ih (drives.kin kin) rest_fits pending' t''
            refine ⟨address :: started, ?_, launched rest⟩
            rw [List.range'_succ, List.length_cons, List.take_succ_cons, ← prefix_eq]

/-- SCIP is never hidden. -/
theorem readHsfs_of_drives (drives : q.Drives c) :
    (q.layout.readHsfs q.device c).1.spiCycleInProgress = c.hsfs.spiCycleInProgress ∧
      (q.layout.readHsfs q.device c).2 = { c with pending := c.pending - 1 } := by
  rw [Layout.readHsfs, Mmio.read16, drives.device, drives.offset, drives.common.hsfs]
  change Hsfs.spiCycleInProgress (Hsfs.decode (c.read .w16 _).1) = _ ∧ (c.read .w16 _).2 = _
  rw [Controller.read_hsfs]
  refine ⟨?_, rfl⟩
  dsimp only
  split
  · rfl
  · change ((c.memory.load .w16 (c.spiBar + Offset.hsfs) : BitVec 16) &&& ~~~3#16).getLsbD 5 = _
    rw [BitVec.getLsbD_and]
    exact Bool.and_true _

/-- A read leaves what the blocks that it started leave.  They are the first of those that
were asked for. -/
theorem read_aftermath (drives : q.Drives c) (o : Observer τ) (r : Request) (t : τ) :
    ∃ started, started = r.addresses.take started.length ∧
      c.Aftermath r.blockSize started (q.read o r c t).2.1 := by
  cases planned : r.plan with
  | error fault =>
      rw [read, planned]
      exact ⟨[], rfl, .pending _ c c.pending⟩
  | ok plan =>
      obtain ⟨_, same, start, block, count⟩ := Request.plan_of_accepted (Request.accepted_of_plan planned)
      obtain rfl : plan = _ := Except.ok.inj (planned.symm.trans same)
      obtain ⟨started, first, rest⟩ := readBlocks_aftermath drives o plan.words_pos plan.words_le
        plan.count plan.fits (c.pending - 1) (o.notify (.status (q.layout.readHsfs q.device c).1) t)
      rw [block, count, start, ← Request.addresses_eq_range'] at first
      rw [block] at rest
      rw [read, planned]
      dsimp only
      rw [(readHsfs_of_drives drives).2]
      split
      · exact ⟨[], rfl, .pending _ c _⟩
      · exact ⟨started, first, rest⟩

/-- If the first cycle does not end in time, the read has timed out.  Nothing but that cycle was
started. -/
theorem read_of_late (drives : q.Drives c) {polls : Nat} (limited : q.limit = .iterations polls)
    (late : c.endsWithin q.budget = false) (free : c.hsfs.spiCycleInProgress = false)
    (o : Observer τ) {r : Request} (accepted : r.Accepted) (some_block : 0 < r.size) (t : τ) :
    ∃ pending t', q.read o r c t = (some (.error (.timeout r.start q.budget)),
      { c.launch r.blockSize r.start with pending := pending }, t') := by
  obtain ⟨plan, planned, start, block, blocks⟩ := Request.plan_of_accepted accepted
  obtain ⟨shown, looked⟩ := readHsfs_of_drives drives
  obtain ⟨count, more⟩ := Nat.exists_eq_succ_of_ne_zero
    (Nat.ne_zero_of_lt (Request.blockCount_pos accepted some_block))
  have inside : plan.start < flashAddressSpace := by
    have fits := plan.fits
    have positive := plan.words_pos
    rw [blocks, more, Nat.succ_mul] at fits
    omega
  obtain ⟨pending, polled⟩ := poll_startCycle drives plan.words_pos plan.words_le inside (c.pending - 1)
  rw [late, if_neg Bool.false_ne_true] at polled
  refine ⟨pending, o.notify (.timeout r.start)
    (o.notify (.status (q.layout.readHsfs q.device c).1) t), ?_⟩
  rw [read, planned]
  dsimp only
  rw [shown, looked, free, if_neg Bool.false_ne_true, blocks, more, readBlocks_of_timeout polled,
    giveUp, limited, start, block]
  rfl

end Sequencer

/-! ## The machine of a chipset -/

/-- The accesses of a passage have three writes. -/
theorem Passage.length_writes (l : Layout) (blockSize : Nat) (p : Passage) :
    ((p.accesses l blockSize).filterMap Access.write?).length = 3 := by
  have polls :
      (p.polls.map (Access.read .w16 (l.offset Offset.hsfs))).filterMap Access.write? = [] := by
    simp [Access.write?]
  have data : (p.data.mapIdx fun i word =>
      Access.read .w32 (l.offset (Offset.fdata + 4 * i)) word).filterMap Access.write? = [] := by
    apply List.filterMap_eq_nil_iff.2
    intro access member
    obtain ⟨i, _, rfl⟩ := List.mem_mapIdx.1 member
    rfl
  rw [accesses, List.filterMap_append, List.filterMap_append, polls, data]
  rfl

theorem Passage.length_flatMap_writes (l : Layout) (blockSize : Nat) (passages : List Passage) :
    ((passages.flatMap (accesses l blockSize)).filterMap Access.write?).length
      = 3 * passages.length := by
  induction passages with
  | nil => rfl
  | cons p passages ih =>
      rw [List.flatMap_cons, List.filterMap_append, List.length_append, ih, length_writes,
        List.length_cons]
      omega

namespace Chipset

variable {τ : Type} (c : Chipset) (o : Observer τ) (r : Request)

/-- The accesses of a read are at most one look at HSFS, and then the passages of the blocks
that it starts. -/
theorem readFlash_passages (m : Machine) (t : τ) :
    ∃ (looks : List Access) (passages : List Passage) (result : Option (Except ChipsetError Unit))
      (m' : Machine) (t' : τ),
      c.readFlash recordedPlatform o r (.start true m) t
        = (result, .on m' ((looks ++ passages.flatMap
            (Passage.accesses c.layout r.blockSize)).map .access), t') ∧
      looks.filterMap Access.write? = [] ∧
      passages.map Passage.address = r.addresses.take passages.length := by
  cases planned : r.plan with
  | error fault =>
      refine ⟨[], [], some (.error (.invalidArgument fault)), m, t, ?_, rfl, rfl⟩
      rw [readFlash, Sequencer.read, planned]
      rfl
  | ok plan =>
      have common : (⟨c.layout, Machine.platform.window, c.pollLimit, m.controller.delay + 1⟩ :
          Sequencer Machine).layout.Common := c.family.layout_common
      obtain ⟨status, passages, result, m', t', -, -, recorded, footprint⟩ :=
        Sequencer.read_on common HardwareEvent.access o (Request.accepted_of_plan planned) m [] t
      exact ⟨[.read .w16 _ status], passages, result, m', t', recorded, rfl, footprint.addresses⟩

/-- The recorder does not matter to a read. -/
theorem readFlash_start (s : RecordedMachine) (recording : Bool) (t : τ) :
    (c.readFlash recordedPlatform o r (.start recording s.state) t).1
        = (c.readFlash recordedPlatform o r s t).1 ∧
      (c.readFlash recordedPlatform o r (.start recording s.state) t).2.1.state
        = (c.readFlash recordedPlatform o r s t).2.1.state ∧
      (c.readFlash recordedPlatform o r (.start recording s.state) t).2.2
        = (c.readFlash recordedPlatform o r s t).2.2 := by
  have projects (s : RecordedMachine) : (c.sequencer recordedPlatform s).device.Projects
      Machine.platform.window Recorded.state :=
    Mmio.projects_recorded HardwareEvent.access Machine.platform.window
  have watched := Sequencer.read_onDevice (projects (.start recording s.state)) o r
    (.start recording s.state) t
  have plain := Sequencer.read_onDevice (projects s) o r s t
  have same := watched.symm.trans plain
  rw [Prod.mk.injEq, Prod.mk.injEq] at same
  exact same

theorem result_readFlash (s : RecordedMachine) (t : τ) :
    (c.readFlash recordedPlatform o r s t).1
      = (((c.sequencer recordedPlatform s).onDevice Controller.mmio).read o r s.state.controller
          t).1 := by
  have projects : (c.sequencer recordedPlatform s).device.Projects Controller.mmio
      fun s => s.state.controller := projects_controller
  exact (congrArg Prod.fst (Sequencer.read_onDevice projects o r s t)).symm

/-- What a read makes of the controller. -/
theorem controller_readFlash (s : RecordedMachine) (t : τ) :
    (c.readFlash recordedPlatform o r s t).2.1.state.controller
      = (((c.sequencer recordedPlatform s).onDevice Controller.mmio).read o r s.state.controller
          t).2.1 := by
  have projects : (c.sequencer recordedPlatform s).device.Projects Controller.mmio
      fun s => s.state.controller := projects_controller
  exact (congrArg (fun answer => answer.2.1) (Sequencer.read_onDevice projects o r s t)).symm

/-- Whatever the machine was like and however a read ends, what it leaves behind is what the
blocks leave behind that it started.  A recorder sees which these are. -/
theorem readFlash_leaves (s : RecordedMachine) (t : τ) (known : c.family ∈ Catalogue.families)
    (place : s.state.controller.spiBar = c.layout.spiBar) :
    ∃ (looks : List Access) (passages : List Passage) (result : Option (Except ChipsetError Unit))
      (s' : RecordedMachine) (t' : τ),
      c.readFlash recordedPlatform o r s t = (result, s', t') ∧
      c.readFlash recordedPlatform o r (.start true s.state) t
        = (result, .on s'.state ((looks ++ passages.flatMap
            (Passage.accesses c.layout r.blockSize)).map .access), t') ∧
      looks.filterMap Access.write? = [] ∧
      passages.map Passage.address = r.addresses.take passages.length ∧
      s'.state = { s.state with controller := s'.state.controller } ∧
      s.state.controller.Aftermath r.blockSize (passages.map Passage.address)
        s'.state.controller := by
  obtain ⟨looks, passages, result, m', t', recorded, quiet, addresses⟩ :=
    c.readFlash_passages o r s.state t
  obtain ⟨same, state, told⟩ := c.readFlash_start o r s true t
  obtain ⟨started, first, after⟩ := Sequencer.read_aftermath (drives_of_known known place) o r t
  obtain ⟨accesses, accessed⟩ := accessed_of_reaches
    ((c.sequencer recordedPlatform (.start true s.state)).read_reaches o r (.start true s.state) t)
  have reached : (c.sequencer recordedPlatform (.start true s.state)).read o r (.start true s.state) t
      = (result, .on m' ((looks ++ passages.flatMap
          (Passage.accesses c.layout r.blockSize)).map .access), t') := recorded
  rw [recorded] at same state told
  rw [reached] at accessed
  rw [← controller_readFlash, ← state] at after
  have seen : accesses = looks ++ passages.flatMap (Passage.accesses c.layout r.blockSize) := by
    have entries := accessed.entries rfl
    exact (List.map_injective_iff.2 (fun _ _ same => HardwareEvent.access.inj same) entries).symm
  have counted : 3 * started.length = 3 * passages.length := by
    obtain ⟨more, grown, size⟩ := after.writes
    have writes := accessed.writes
    rw [seen, List.filterMap_append, quiet, List.nil_append] at writes
    have both : more = (passages.flatMap (Passage.accesses c.layout r.blockSize)).filterMap
        Access.write? := List.append_cancel_left (grown.symm.trans writes)
    rw [← size, both, Passage.length_flatMap_writes]
  have blocks : passages.map Passage.address = started := by
    rw [first, addresses]
    congr 1
    omega
  refine ⟨looks, passages, result, (c.readFlash recordedPlatform o r s t).2.1, t', ?_, ?_, quiet,
    addresses, ?_, ?_⟩
  · exact Prod.ext same.symm (Prod.ext rfl told.symm)
  · rw [← state]
    exact recorded
  · rw [← state]
    exact accessed.rest
  · rw [blocks, ← state]
    exact after

/-- A stuck controller times out on the first block.  The cycle is left started at the address of
the block, and no other block was started. -/
theorem readFlash_leaves_of_stuck :
    ∃ (looks : List Access) (first : Passage) (s' : RecordedMachine) (t' : List DeliveryEvent),
      readFlash ⟨Catalogue.ich9, ⟨0x8086, 0x2912, 0⟩, none, .iterations 3⟩ recordedPlatform
          (Callbacks.observer ⟨fun _ => true, none, true⟩) ⟨0, 8, 4⟩
          (.start true ⟨.empty, { Controller.fresh 0x3800 (.pattern 8 1 0 0) with stuck := true },
            false, false, #[]⟩) []
        = (some (.error (.timeout 0 3)), s', t') ∧
      s' = .on s'.state ((looks ++ first.accesses Catalogue.ich9.layout 4).map .access) ∧
      looks.filterMap Access.write? = [] ∧ first.address = 0 ∧
      s'.state = ⟨.empty, s'.state.controller, false, false, #[]⟩ ∧
      s'.state.controller.cycles = 1 ∧ s'.state.controller.writes.size = 3 ∧
      ((field 24 0).value (s'.state.controller.word .w32 Offset.faddr)).toNat = 0 ∧
      (s'.state.controller.word .w16 Offset.hsfc).getLsbD 0 = true := by
  let c : Chipset := ⟨Catalogue.ich9, ⟨0x8086, 0x2912, 0⟩, none, .iterations 3⟩
  let o : Observer (List DeliveryEvent) := Callbacks.observer ⟨fun _ => true, none, true⟩
  let r : Request := ⟨0, 8, 4⟩
  let stuck : Controller := { Controller.fresh 0x3800 (.pattern 8 1 0 0) with stuck := true }
  let s : RecordedMachine := .start true ⟨.empty, stuck, false, false, #[]⟩
  have known : c.family ∈ Catalogue.families := by simp [c, Catalogue.families]
  have accepted : r.Accepted := ⟨by decide, by decide, by decide, by decide, by decide⟩
  have free : stuck.hsfs.spiCycleInProgress = false := by
    rw [Controller.hsfs]
    simp only [stuck, Controller.fresh, RegisterFile.load_zero]
    rfl
  obtain ⟨looks, passages, result, s', t', run, recorded, quiet, addresses, rest, after⟩ :=
    readFlash_leaves c o r s [] known rfl
  obtain ⟨pending, _, late⟩ := Sequencer.read_of_late (drives_of_known (s := s) known rfl) rfl rfl free
    o accepted (by decide) []
  have failed : result = some (.error (.timeout 0 3)) := by
    have same := c.result_readFlash o r s []
    rw [run, late] at same
    exact same
  have once : s'.state.controller.cycles = 1 := by
    have same := c.controller_readFlash o r s []
    rw [run, late] at same
    exact congrArg Controller.cycles same
  have count : s'.state.controller.cycles = 0 + (passages.map Passage.address).length := after.cycles
  rw [once, Nat.zero_add, List.length_map] at count
  obtain ⟨first, rfl⟩ := List.length_eq_one_iff.1 count.symm
  have asked : r.addresses = [0, 4] := show Request.addresses ⟨0, 8, 4⟩ = _ from rfl
  rw [asked] at addresses
  have blocks : [first.address] = [0] := addresses
  have settled := after.settled 0 (by rw [List.map_singleton, blocks]; rfl)
  have same : s' = _ := congrArg (fun answer => answer.2.1) (run.symm.trans recorded)
  rw [List.flatMap_singleton] at same
  rw [failed] at run
  refine ⟨looks, first, s', t', run, same, quiet, List.singleton_inj.1 blocks, rest, once, ?_,
    settled.target, settled.go⟩
  obtain ⟨more, grown, size⟩ := after.writes
  rw [← Array.length_toList, grown, List.length_append, size]
  rfl

end Chipset

end FlashDump
