import FlashDump.Proofs.Dump.Gates
import FlashDump.Proofs.Machine.Read

/-!
# The image of the flash

If all gates hold and cycles end in time, a dump puts the flash into the output file.
`Copied` is the invariant of the copy: after a number of blocks the sink has taken exactly
the first bytes of the flash, in order, and there is a dot for each 256 blocks begun.  A
block keeps it (`Copied.block`), and what is noted or counted on the way does not matter
(`Copied.note`, `Copied.fail`).  A whole run of calls keeps it by induction on the addresses
(`Copied.hear`).

The copy ends early if it is to stop at a block that can not be read.  `blocksCopied` is how
many blocks come before that, and `Complete` what the copy leaves behind in either case.
-/

namespace FlashDump

open FlashDump.Register

theorem Flash.slice_add (f : Flash) (address count more : Nat) :
    f.slice address (count + more) = f.slice address count ++ f.slice (address + count) more :=
  map_range_add f.byteAt address count more

/-- A file refuses nothing. -/
theorem Sink.write_file {s : Sink} {place : Place} (file : s.target = .file place) (data : List Byte) :
    ∃ s', s.write data = (none, s') ∧ s'.target = .file place := by
  have taken : s.refusal? = none := by rw [refusal?, file]
  unfold write
  split
  · exact ⟨_, rfl, file⟩
  · rw [flush, taken]
    exact ⟨_, rfl, file⟩

/-- What a file holds in the end is all that its sink has taken. -/
theorem Sink.close_flush {s : Sink} {place : Place} (file : s.target = .file place) (d : Disk) :
    ∃ s', s.flush = (none, s') ∧ s'.close d = d.store place s.pieces := by
  have taken : s.refusal? = none := by rw [refusal?, file]
  refine ⟨{ s with sent := s.sent ++ s.buffer, buffer := #[] }, by rw [flush, taken], ?_⟩
  simp [close, flush, refusal?, file, pieces]

namespace Dump

/-- A number of dots. -/
def dots (n : Nat) : String := String.ofList (List.replicate n '.')

theorem dots_succ (n : Nat) : dots n ++ "." = dots (n + 1) := by
  rw [dots, dots, List.replicate_succ', String.ofList_append]

/-- The state of a copy after a number of blocks. -/
structure Copied (o : CommandLine.Options) (flash : Flash) (place : Place) (printed : String)
    (count : Nat) (t : Progress) : Prop where
  target : t.sink.target = .file place
  taken : t.sink.pieces.toList = flash.slice o.start (count * o.blockSize)
  printed_eq : t.printed = printed ++ dots ((count + 255) / 256)
  sound : t.writeError = none

section Copied

variable {o : CommandLine.Options} {flash : Flash} {place : Place} {printed : String} {count : Nat}
  {t : Progress} (copied : Copied o flash place printed count t)

include copied

theorem Copied.note (n : Log.Notice) : Copied o flash place printed count (t.note n) :=
  ⟨copied.target, copied.taken, copied.printed_eq, copied.sound⟩

theorem Copied.fail (address : Nat) : Copied o flash place printed count (t.fail address) :=
  ⟨copied.target, copied.taken, copied.printed_eq, copied.sound⟩

theorem Copied.block (positive : 0 < o.blockSize) :
    ∃ t', (copier o).block (o.start + count * o.blockSize)
        (flash.slice (o.start + count * o.blockSize) o.blockSize) t = (true, t') ∧
      Copied o flash place printed (count + 1) t' := by
  have number : (o.start + count * o.blockSize - o.start) / o.blockSize = count := by
    rw [Nat.add_sub_cancel_left, Nat.mul_div_cancel _ positive]
  obtain ⟨sink, written, target⟩ := Sink.write_file copied.target
    (flash.slice (o.start + count * o.blockSize) o.blockSize)
  have pieces : sink.pieces.toList = flash.slice o.start ((count + 1) * o.blockSize) := by
    rw [Sink.toList_pieces_write written, copied.taken, ← Flash.slice_add, Nat.succ_mul]
  by_cases due : count % 256 = 0
  · refine ⟨⟨sink, t.log, t.printed ++ ".", none, t.failedBlocks⟩, ?_, target, pieces, ?_, rfl⟩
    · simp only [copier, Progress.mark, number, blocksPerDot, due, if_true, Progress.write,
        Progress.print, written, copied.sound]
    · have next : (count + 1 + 255) / 256 = (count + 255) / 256 + 1 := by omega
      rw [copied.printed_eq, String.append_assoc, dots_succ, next]
  · refine ⟨⟨sink, t.log, t.printed, none, t.failedBlocks⟩, ?_, target, pieces, ?_, rfl⟩
    · simp only [copier, Progress.mark, number, blocksPerDot, due, if_false, Progress.write, written,
        copied.sound]
    · have same : (count + 1 + 255) / 256 = (count + 255) / 256 := by omega
      rw [copied.printed_eq, same]

end Copied

/-! ## All blocks -/

/-- How many of the blocks at the given addresses are copied: those before the first that
can not be read if the copy is to stop there, and otherwise all. -/
def blocksCopied (o : CommandLine.Options) (c : Controller) (addresses : List Nat) : Nat :=
  if o.stopOnError then addresses.findIdx c.errors.contains else addresses.length

theorem blocksCopied_cons_of_stop {o : CommandLine.Options} {c : Controller} {address : Nat}
    (stop : o.stopOnError = true) (failed : c.errors.contains address = true)
    (addresses : List Nat) : blocksCopied o c (address :: addresses) = 0 := by
  rw [blocksCopied, if_pos stop, List.findIdx_cons, failed]
  rfl

theorem blocksCopied_cons {o : CommandLine.Options} {c : Controller} {address : Nat}
    (goesOn : ¬ (o.stopOnError = true ∧ c.errors.contains address = true)) (addresses : List Nat) :
    blocksCopied o c (address :: addresses) = blocksCopied o c addresses + 1 := by
  unfold blocksCopied
  cases stop : o.stopOnError with
  | false => rfl
  | true =>
      have fine : c.errors.contains address = false := by
        rw [← Bool.not_eq_true]
        exact fun failed => goesOn ⟨stop, failed⟩
      rw [if_pos rfl, if_pos rfl, List.findIdx_cons, fine]
      rfl

section Hear

variable {o : CommandLine.Options} {place : Place} {printed : String}

/-- The calls about a cycle end the copy if it failed and the copy is to stop then. -/
theorem Copied.hear_ofCycle {flash : Flash} {count : Nat} {t : Progress}
    (copied : Copied o flash place printed count t) (address : Nat) (failed : Bool) :
    ∃ t', (copier o).hear (Call.ofCycle address failed) t = (!(o.stopOnError && failed), t') ∧
      Copied o flash place printed count t' := by
  cases failed with
  | false =>
      refine ⟨t.note (.cycleDone address), ?_, copied.note _⟩
      rw [Bool.and_false]
      rfl
  | true =>
      refine ⟨((t.note (.cycleDone address)).note (.cycleError address)).fail address, ?_,
        ((copied.note _).note _).fail _⟩
      rw [Bool.and_true]
      cases stop : o.stopOnError <;> simp [Call.ofCycle, Observer.hear, Observer.answer, copier, stop]

theorem Copied.hear (c : Controller) (positive : 0 < o.blockSize) (n : Nat) {count : Nat}
    {t : Progress} (copied : Copied o c.flash place printed count t) :
    ∃ t', (copier o).hear
          (c.calls o.blockSize (.range' (o.start + count * o.blockSize) n o.blockSize)) t
        = (decide (blocksCopied o c (.range' (o.start + count * o.blockSize) n o.blockSize) = n), t') ∧
      Copied o c.flash place printed
        (count + blocksCopied o c (.range' (o.start + count * o.blockSize) n o.blockSize)) t' := by
  induction n generalizing count t with
  | zero =>
      have none : blocksCopied o c [] = 0 := by
        unfold blocksCopied
        split <;> rfl
      rw [List.range'_zero, none]
      exact ⟨t, rfl, copied⟩
  | succ n ih =>
      obtain ⟨t₁, cycled, copied₁⟩ := copied.hear_ofCycle (o.start + count * o.blockSize)
        (c.errors.contains (o.start + count * o.blockSize))
      rw [List.range'_succ, Controller.calls, List.flatMap_cons, List.append_assoc]
      by_cases ended : o.stopOnError = true ∧
          c.errors.contains (o.start + count * o.blockSize) = true
      · rw [ended.1, ended.2] at cycled
        rw [blocksCopied_cons_of_stop ended.1 ended.2, ended.2, Observer.hear_append_of_false cycled]
        exact ⟨t₁, rfl, copied₁⟩
      · have yes : (!(o.stopOnError && c.errors.contains (o.start + count * o.blockSize))) = true := by
          rw [Bool.not_eq_true', ← Bool.not_eq_true, Bool.and_eq_true]
          exact ended
        obtain ⟨t₂, written, copied₂⟩ := copied₁.block positive
        obtain ⟨t₃, rest, copied₃⟩ := ih copied₂
        rw [yes] at cycled
        rw [← Observer.hear_block] at written
        rw [Nat.succ_mul, ← Nat.add_assoc] at rest copied₃
        rw [blocksCopied_cons ended, Observer.hear_append_of_true cycled,
          Observer.hear_append_of_true written]
        refine ⟨t₃, rest.trans ?_, ?_⟩
        · simp only [Nat.add_right_cancel_iff]
        · rw [Nat.add_assoc, Nat.add_comm 1] at copied₃
          exact copied₃

end Hear

/-! ## The whole dump -/

/-- What is printed after the last block: a line feed if it is the last that was asked for. -/
def closingText (count all : Nat) : String := if count = all then "\n" else ""

/-- How many blocks of the flash a dump puts into its file. -/
def blocksDumped (o : CommandLine.Options) (c : Controller) : Nat :=
  blocksCopied o c (Request.addresses ⟨o.start, o.flashSize, o.blockSize⟩)

theorem blocksDumped_of_kin {c d : Controller} (kin : c.Kin d) (o : CommandLine.Options) :
    blocksDumped o d = blocksDumped o c := by
  rw [blocksDumped, blocksDumped, blocksCopied, kin.errors]
  rfl

/-- The state of a copy at the end: the file is complete, and so is what is printed. -/
structure Complete (o : CommandLine.Options) (c : Controller) (place : Place) (printed : String)
    (t : Progress) : Prop where
  target : t.sink.target = .file place
  taken : t.sink.pieces = (c.flash.slice o.start (blocksDumped o c * o.blockSize)).toArray
  printed_eq : t.printed = printed ++ dots ((blocksDumped o c + 255) / 256)
    ++ closingText (blocksDumped o c) (o.flashSize / o.blockSize)
  sound : t.writeError = none

theorem Copied.complete {o : CommandLine.Options} {c : Controller} {place : Place} {printed : String}
    (positive : 0 < o.blockSize) {t : Progress} (begun : Copied o c.flash place printed 0 t) :
    Complete o c place printed
      ((copier o).hear (c.calls o.blockSize
        (Request.addresses ⟨o.start, o.flashSize, o.blockSize⟩) ++ [.done]) t).2 := by
  have addresses : Request.addresses ⟨o.start, o.flashSize, o.blockSize⟩
      = .range' (o.start + 0 * o.blockSize) (o.flashSize / o.blockSize) o.blockSize := by
    rw [Nat.zero_mul, Nat.add_zero]
    exact Request.addresses_eq_range' _
  obtain ⟨t', heard, copied⟩ := begun.hear c positive (o.flashSize / o.blockSize)
  rw [← addresses, ← blocksDumped] at heard copied
  rw [Nat.zero_add] at copied
  have taken : t'.sink.pieces = (c.flash.slice o.start (blocksDumped o c * o.blockSize)).toArray := by
    rw [← copied.taken]
  by_cases whole : blocksDumped o c = o.flashSize / o.blockSize
  · rw [decide_eq_true whole] at heard
    rw [Observer.hear_append_of_true heard, Observer.hear_done]
    refine ⟨copied.target, taken, ?_, copied.sound⟩
    show t'.printed ++ "\n" = _
    rw [copied.printed_eq, closingText, if_pos whole]
  · rw [decide_eq_false whole] at heard
    rw [Observer.hear_append_of_false heard]
    refine ⟨copied.target, taken, ?_, copied.sound⟩
    rw [copied.printed_eq, closingText, if_neg whole, String.append_empty]

/-- A read that ended well leaves a file with all that its sink has taken. -/
theorem copy_of_done {r r' : RecordedMachine} {o : CommandLine.Options} {log : Log.Logger} {disk : Disk}
    {printed : String} {c : Chipset} {place : Place} {t : Progress}
    (read : c.readFlash recordedPlatform (copier o) ⟨o.start, o.flashSize, o.blockSize⟩ r
      (.start (.file place) log printed) = (some (.ok ()), r', t))
    (sound : t.writeError = none) (file : t.sink.target = .file place) :
    ∃ context, copy recordedPlatform o c (.file place) ⟨⟨r, log⟩, disk, printed⟩
      = .ok () ⟨context, disk.store place t.sink.pieces, t.printed⟩ := by
  obtain ⟨sink, flushed, closed⟩ := Sink.close_flush file disk
  unfold Progress.start at read
  by_cases none : t.failedBlocks = 0
  · exact ⟨_, by
      simp only [copy, read, conclude, sound, flushed, none, if_true, Progress.note, closed]
      rfl⟩
  · exact ⟨_, by
      simp only [copy, read, conclude, sound, flushed, none, if_false, Progress.note, closed]
      rfl⟩

/-- A copy to a file from a controller that ends its cycles in time. -/
theorem copy_of_idle (r : RecordedMachine) (o : CommandLine.Options) (log : Log.Logger) (disk : Disk)
    (printed : String) {c : Chipset} (known : c.family ∈ Catalogue.families)
    (accepted : Request.Accepted ⟨o.start, o.flashSize, o.blockSize⟩)
    (placed : r.state.controller.spiBar = c.layout.spiBar)
    (free : r.state.controller.hsfs.spiCycleInProgress = false)
    (ends : r.state.controller.stuck = false)
    (tolerated : c.pollLimit.Tolerates r.state.controller.delay) (place : Place) :
    ∃ context t, Complete o r.state.controller place printed t ∧
      copy recordedPlatform o c (.file place) ⟨⟨r, log⟩, disk, printed⟩
        = .ok () ⟨context, disk.store place t.sink.pieces, t.printed⟩ := by
  have positive : 0 < o.blockSize := Nat.lt_of_lt_of_le (by decide) accepted.four_le
  have begun : Copied o r.state.controller.flash place printed 0 (.start (.file place) log printed) := by
    refine ⟨rfl, ?_, ?_, rfl⟩
    · rw [Nat.zero_mul]
      rfl
    · exact (String.append_empty).symm
  obtain ⟨hsfs, r', read⟩ := Chipset.readFlash_of_idle known placed free ends tolerated (copier o)
    accepted (.start (.file place) log printed)
  have noted : (copier o).answer (.notify (.status hsfs)) (.start (.file place) log printed)
      = (true, (Progress.start (.file place) log printed).note (.status hsfs)) := rfl
  rw [List.cons_append, Observer.hear_cons_of_true noted] at read
  have complete := (begun.note (.status hsfs)).complete positive
  obtain ⟨context, done⟩ := @copy_of_done r r' o log disk printed c place _ read complete.sound
    complete.target
  exact ⟨context, _, complete, done⟩

end Dump

/-! ## A dump whose gates all hold -/

namespace Machine

/-- The survey changes nothing that a cycle depends on. -/
theorem kin_surveyed (m : Machine) (f : Family) : m.controller.Kin (m.surveyed f).controller := by
  change m.controller.Kin (m.controller.read .w16 _).2
  rw [Controller.read]
  split
  · exact .pending m.controller _
  · exact .refl m.controller

/-- A controller that is where the family has its registers shows whether it is busy. -/
theorem busy_surveyed {m : Machine} {f : Family} (placed : m.controller.spiBar = f.layout.spiBar) :
    (m.surveyed f).controller.hsfs.spiCycleInProgress = (m.hsfs f).spiCycleInProgress := by
  rw [spiCycleInProgress_hsfs, Controller.hsfs, (m.kin_surveyed f).spiBar, placed, surveyed,
    memory_afterRead]
  rfl

/-- Every cycle that a dump starts ends in time.  None would on a controller that is not where
the family has its registers. -/
structure EndsCycles (m : Machine) (o : CommandLine.Options) : Prop where
  placed : ∀ f, m.family? = .ok f → m.controller.spiBar = f.layout.spiBar
  ends : m.controller.stuck = false
  tolerated : (Dump.pollLimit o).Tolerates m.controller.delay

end Machine

namespace Dump

/-- A dump whose gates all hold, on a machine that ends its cycles, writes the flash to its
output file. -/
theorem run_copies_flash (r : RecordedMachine) (o : CommandLine.Options) (log : Log.Logger)
    (disk : Disk) (printed : String) (holds : ∀ g : Gate, g.failure? r.state o disk = none)
    (cycles : r.state.EndsCycles o) {place : Place}
    (located : disk.locate o.output = .ok (.file place)) :
    ∃ f w, r.state.family? = .ok f ∧
      run recordedPlatform o ⟨⟨r, log⟩, disk, printed⟩ = .ok () w ∧
      w.disk = disk.store place (r.state.controller.flash.slice o.start
        (blocksDumped o r.state.controller * o.blockSize)).toArray ∧
      w.printed = printed ++ r.state.preamble f ++ "Reading SPI flash"
        ++ dots ((blocksDumped o r.state.controller + 255) / 256)
        ++ closingText (blocksDumped o r.state.controller) (o.flashSize / o.blockSize) := by
  obtain ⟨f, target, disk', log', booted, created, copied⟩ :=
    @run_of_holds r o log disk printed holds
  have target_eq : target = .file place := by
    rw [Disk.create, located, Except.ok.injEq, Prod.mk.injEq] at created
    exact created.1.symm
  subst target_eq
  have placed := cycles.placed f booted.known
  have kin := r.state.kin_surveyed f
  have free : (r.state.surveyed f).controller.hsfs.spiCycleInProgress = false := by
    rw [Machine.busy_surveyed placed]
    exact Gate.idle_of_holds booted.known (holds .hardware)
  have tolerated : (pollLimit o).Tolerates (r.state.surveyed f).controller.delay := by
    rw [kin.delay]
    exact cycles.tolerated
  obtain ⟨context, t, complete, done⟩ := copy_of_idle
    (r.after (r.state.surveyed f) (r.state.seenStatus f)) o log' disk'
    (printed ++ r.state.preamble f ++ "Reading SPI flash") (c := r.state.mappedChipset o f)
    (Catalogue.mem_families_of_resolve booted.known) (Gate.accepted_of_holds (holds .arguments))
    (kin.spiBar.trans placed) free (kin.stuck.trans cycles.ends) tolerated place
  have same : blocksDumped o (r.state.surveyed f).controller = blocksDumped o r.state.controller :=
    blocksDumped_of_kin kin o
  refine ⟨f, _, booted.known, copied.trans (Job.closing_of_ok done), ?_, ?_⟩
  · show disk'.store place t.sink.pieces = _
    rw [Disk.eq_store_of_create created, Disk.store_store, complete.taken, Recorded.state_after, same,
      kin.flash]
  · show t.printed = _
    rw [complete.printed_eq, Recorded.state_after, same]

end Dump

theorem Machine.endsCycles_ich9 (status : BitVec 16) (flash : Flash) (errors : List Nat) {delay : Nat}
    {o : CommandLine.Options} (tolerated : (Dump.pollLimit o).Tolerates delay) :
    (ich9 status flash errors delay).EndsCycles o where
  placed f known := by
    rw [family?_ich9, Except.ok.injEq] at known
    rw [← known]
    rfl
  ends := rfl
  tolerated := tolerated

/-- A dump of three blocks whose last can not be read.  The flash ends in the second. -/
theorem Dump.run_copies_flash_of_ich9 :
    ∃ f w, (Machine.ich9 0x4000 (.pattern 6 1 0 0) [8] 2).family? = .ok f ∧
      run recordedPlatform ⟨"flash.bin", true, 12, 0, 4, some 3, true, .error⟩
          ⟨⟨⟨.ich9 0x4000 (.pattern 6 1 0 0) [8] 2, true, #[]⟩, .empty .error⟩, .empty, ""⟩
        = .ok () w ∧
      w.disk = Disk.empty.store ⟨.working, "flash.bin"⟩ #[0, 1, 2, 3, 4, 5, 0xff, 0xff] ∧
      w.printed = (Machine.ich9 0x4000 (.pattern 6 1 0 0) [8] 2).preamble f ++ "Reading SPI flash." := by
  have accepted : Request.Accepted ⟨0, 12, 4⟩ :=
    ⟨by decide, by decide, by decide, by decide, by decide⟩
  have located : Disk.empty.locate "flash.bin" = .ok (.file ⟨.working, "flash.bin"⟩) := by decide
  have holds (g : Gate) := Gate.holds_of_booted (g := g)
    (o := ⟨"flash.bin", true, 12, 0, 4, some 3, true, .error⟩)
    (Machine.booted_ich9 0x4000 (.pattern 6 1 0 0) [8] 2) (by rw [Machine.hsfs_ich9]; rfl) located
    (Machine.ssfs_ich9 _ _ _ _) accepted (by rw [Machine.hsfs_ich9]; exact fun _ => rfl)
  obtain ⟨f, w, known, done, disk, printed⟩ := run_copies_flash
    ⟨.ich9 0x4000 (.pattern 6 1 0 0) [8] 2, true, #[]⟩
    ⟨"flash.bin", true, 12, 0, 4, some 3, true, .error⟩ (.empty .error) .empty ""
    holds (Machine.endsCycles_ich9 _ _ _ (by decide)) located
  have count : blocksDumped ⟨"flash.bin", true, 12, 0, 4, some 3, true, .error⟩
      (Machine.ich9 0x4000 (.pattern 6 1 0 0) [8] 2).controller = 2 := rfl
  dsimp only at disk printed
  rw [count] at disk printed
  refine ⟨f, w, known, done, disk, printed.trans ?_⟩
  rw [String.empty_append, String.append_assoc, String.append_assoc]
  rfl

end FlashDump
