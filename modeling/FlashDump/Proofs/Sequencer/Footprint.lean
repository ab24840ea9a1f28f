import FlashDump.Proofs.Sequencer.Arguments
import FlashDump.Proofs.Sequencer.Calls
import FlashDump.Proofs.Sequencer.Projection
import FlashDump.Proofs.Sequencer.Steps

/-!
# The footprint of a read

Nothing is assumed about the device here.  Whatever it answers, a read makes the same
accesses in the same order.  A `Passage` holds the answers that the accesses for one block
got, and `Passage.accesses` is the list of these accesses.  `Sequencer.Transfer` says which
passages a read of blocks consists of, by a rule for each way a block can end.

* A cycle that is not done within the poll limit is `abandoned`.
* A failed cycle that the observer does not want to go on after is `declined`.
* A block that the observer does not want to go on after is `stopped`.
* After any other block comes the `next`.

`Sequencer.readBlocks_on` finds the passages by induction on the number of blocks, from one
lemma for each half of a passage: `cycle_on` and `collect_passage_on`.
`Sequencer.read_footprint` is about the whole read.
-/

namespace FlashDump

open FlashDump.Register

/-! ## Recorded accesses -/

section On

variable {ε σ : Type}

/-- A recorder that is switched on and has these entries. -/
def Recorded.on (s : σ) (entries : List ε) : Recorded ε σ := ⟨s, true, entries.toArray⟩

theorem Recorded.eq_on {r : Recorded ε σ} (on : r.recording = true) : r = .on r.state r.entries.toList := by
  cases r with
  | mk s recording entries =>
      cases on
      rfl

variable (wrap : Access → ε) (m : Mmio σ) (s : σ) (entries : List ε) (width : Width) (offset : Nat)

theorem Mmio.read_on :
    (m.recorded wrap).read width offset (.on s entries)
      = ((m.read width offset s).1,
          .on (m.read width offset s).2
            (entries ++ [wrap (.read width offset (m.read width offset s).1)])) := by
  simp only [recorded, Recorded.on, Recorded.note, if_true, List.push_toArray]

theorem Mmio.write_on (value : BitVec width.bits) :
    (m.recorded wrap).write width offset value (.on s entries)
      = .on (m.write width offset value s) (entries ++ [wrap (.write width offset value)]) := by
  simp only [recorded, Recorded.on, Recorded.note, if_true, List.push_toArray]

theorem Mmio.modify_on (change : BitVec width.bits → BitVec width.bits) :
    (m.recorded wrap).modify width offset change (.on s entries)
      = .on (m.modify width offset change s)
          (entries ++ [wrap (.read width offset (m.read width offset s).1),
            wrap (.write width offset (change (m.read width offset s).1))]) := by
  rw [modify, read_on, write_on, modify, List.append_assoc]
  rfl

end On

/-! ## Passages -/

/-- What the accesses for one block give. -/
structure Passage where
  /-- The address of the block. -/
  address : Nat
  /-- What HSFS held before the cycle. -/
  status : BitVec 16
  /-- What FADDR held before the cycle. -/
  target : BitVec 32
  /-- What HSFC held before the cycle. -/
  control : BitVec 16
  /-- The polls of HSFS that did not show the cycle done. -/
  waits : List (BitVec 16)
  /-- The poll of HSFS that showed it done, if one did. -/
  last : Option (BitVec 16)
  /-- The flash data registers. -/
  data : List (BitVec 32)

namespace Passage

/-- All polls, in order. -/
def polls (p : Passage) : List (BitVec 16) := p.waits ++ p.last.toList

/-- The block. -/
def bytes (p : Passage) : List Byte := p.data.flatMap (LittleEndian.bytes 4)

/-- The accesses that start a cycle. -/
def launch (l : Layout) (blockSize : Nat) (p : Passage) : List Access :=
  [.read .w16 (l.offset Offset.hsfs) p.status,
    .write .w16 (l.offset Offset.hsfs) (Hsfs.clearStatus p.status),
    .read .w32 (l.offset Offset.faddr) p.target,
    .write .w32 (l.offset Offset.faddr) (Faddr.aim p.address p.target),
    .read .w16 (l.offset Offset.hsfc) p.control,
    .write .w16 (l.offset Offset.hsfc) (Hsfc.startRead blockSize p.control)]

/-- The accesses for the block, in order. -/
def accesses (l : Layout) (blockSize : Nat) (p : Passage) : List Access :=
  p.launch l blockSize
    ++ p.polls.map (.read .w16 (l.offset Offset.hsfs))
    ++ p.data.mapIdx fun i word => .read .w32 (l.offset (Offset.fdata + 4 * i)) word

theorem map_accesses {ε : Type} (wrap : Access → ε) (l : Layout) (blockSize : Nat) (p : Passage) :
    (p.accesses l blockSize).map wrap
      = (p.launch l blockSize).map wrap
        ++ (p.polls.map (fun status => wrap (.read .w16 (l.offset Offset.hsfs) status))
          ++ (p.data.mapIdx fun i word =>
            Access.read .w32 (l.offset (Offset.fdata + 4 * i)) word).map wrap) := by
  rw [accesses, List.map_append, List.map_append, List.map_map, List.append_assoc]
  rfl

/-- Only one access of a passage writes HSFC, and the cycle that it starts is a read. -/
theorem harmless (l : Layout) (blockSize : Nat) (p : Passage) {value : BitVec 16}
    (member : .write .w16 (l.offset Offset.hsfc) value ∈ p.accesses l blockSize) :
    (Hsfc.decode value).flashCycle = .read := by
  have written : value = Hsfc.startRead blockSize p.control := by
    simpa [accesses, launch, Layout.offset, Offset.hsfc, Offset.hsfs, List.mem_mapIdx] using member
  rw [written]
  exact (Hsfc.decode_startRead blockSize p.control).1

/-- A passage at an address whose polls are within a number, and end as given. -/
structure Polled (p : Passage) (address budget : Nat) (last : Option (BitVec 16)) : Prop where
  address_eq : p.address = address
  last_eq : p.last = last
  waits : ∀ status ∈ p.waits, status.getLsbD 0 = false
  done : ∀ status ∈ last, status.getLsbD 0 = true
  within : p.polls.length ≤ budget
  exhausted : last = none → p.waits.length = budget

/-- A passage with the flash data registers still to come. -/
theorem map_accesses_data {ε : Type} (wrap : Access → ε) (l : Layout) (blockSize : Nat) {p : Passage}
    (nothing : p.data = []) (data : List (BitVec 32)) :
    ({ p with data }.accesses l blockSize).map wrap
      = (p.accesses l blockSize).map wrap
        ++ (data.mapIdx fun i word =>
          Access.read .w32 (l.offset (Offset.fdata + 4 * i)) word).map wrap := by
  rw [map_accesses, map_accesses, nothing, List.mapIdx_nil, List.map_nil, List.append_nil,
    List.append_assoc]
  rfl

theorem Polled.withData {p : Passage} {address budget : Nat} {last : Option (BitVec 16)}
    (polled : p.Polled address budget last) (data : List (BitVec 32)) :
    Polled { p with data } address budget last :=
  ⟨polled.address_eq, polled.last_eq, polled.waits, polled.done, polled.within, polled.exhausted⟩

end Passage

/-- The passages of a read of a number of blocks from an address on, how the read ends, and
what becomes of the observer. -/
inductive Sequencer.Transfer {σ τ : Type} (q : Sequencer σ) (o : Observer τ) (blockSize : Nat) :
    (count address : Nat) → τ → List Passage → Ending → τ → Prop where
  | completed {address : Nat} {t : τ} :
      Transfer q o blockSize 0 address t [] .completed (o.finish t)
  | abandoned {count address : Nat} {t : τ} {p : Passage} (polled : p.Polled address q.budget none)
      (nothing : p.data = []) :
      Transfer q o blockSize (count + 1) address t [p] (q.giveUp o address t).1
        (q.giveUp o address t).2
  | declined {count address : Nat} {t t' : τ} {p : Passage} {status : BitVec 16}
      (polled : p.Polled address q.budget (some status))
      (no : o.hear (Call.ofCycle address (status.getLsbD 1)) t = (false, t'))
      (nothing : p.data = []) :
      Transfer q o blockSize (count + 1) address t [p] .stopped t'
  | stopped {count address : Nat} {t t' t'' : τ} {p : Passage} {status : BitVec 16}
      (polled : p.Polled address q.budget (some status))
      (yes : o.hear (Call.ofCycle address (status.getLsbD 1)) t = (true, t'))
      (full : 4 * p.data.length = blockSize)
      (no : o.block address p.bytes t' = (false, t'')) :
      Transfer q o blockSize (count + 1) address t [p] .stopped t''
  | next {count address : Nat} {t t' t'' t''' : τ} {p : Passage} {passages : List Passage}
      {status : BitVec 16} {ending : Ending}
      (polled : p.Polled address q.budget (some status))
      (yes : o.hear (Call.ofCycle address (status.getLsbD 1)) t = (true, t'))
      (full : 4 * p.data.length = blockSize)
      (goesOn : o.block address p.bytes t' = (true, t''))
      (rest : Transfer q o blockSize count (address + blockSize) t'' passages ending t''') :
      Transfer q o blockSize (count + 1) address t (p :: passages) ending t'''

/-! ## The loops -/

namespace Sequencer

section Loops

variable {ε σ τ : Type} {q : Sequencer σ} (common : q.layout.Common) (wrap : Access → ε)

include common

theorem startCycle_on {words address : Nat} (fits : address < flashAddressSpace)
    (few : words ≤ fdataCount) (s : σ) (entries : List ε) :
    ∃ p s', p.address = address ∧
      (q.onDevice (q.device.recorded wrap)).startCycle words address (.on s entries)
        = .on s' (entries ++ (Passage.launch q.layout (4 * words) p).map wrap) := by
  have steps : (q.onDevice (q.device.recorded wrap)).layout.Common := common
  have accesses := startCycle_eq steps fits few (.on s entries)
  simp only [onDevice] at accesses
  rw [Mmio.modify_on, Mmio.modify_on, Mmio.modify_on, List.append_assoc, List.append_assoc] at accesses
  exact ⟨⟨address, _, _, _, [], none, []⟩, _, rfl, accesses⟩

theorem poll_on (polls : Nat) (s : σ) (entries : List ε) :
    ∃ waits last s',
      (q.onDevice (q.device.recorded wrap)).poll polls (.on s entries)
        = (last.map Hsfs.decode,
            .on s' (entries
              ++ (waits ++ last.toList).map fun w => wrap (.read .w16 (q.layout.offset Offset.hsfs) w))) ∧
      (∀ status ∈ waits, status.getLsbD 0 = false) ∧ (∀ status ∈ last, status.getLsbD 0 = true) ∧
      (waits ++ last.toList).length ≤ polls ∧ (last = none → waits.length = polls) := by
  induction polls generalizing s entries with
  | zero => exact ⟨[], none, s, by simp [poll], by simp, by simp, by simp, fun _ => rfl⟩
  | succ polls ih =>
      have steps : (q.onDevice (q.device.recorded wrap)).layout.Common := common
      have word := Mmio.read_on wrap q.device s entries .w16 (q.layout.offset Offset.hsfs)
      generalize q.device.read .w16 (q.layout.offset Offset.hsfs) s = answer at word
      obtain ⟨status, s'⟩ := answer
      have step := poll_succ_of_read steps polls word
      cases shown : status.getLsbD 0 with
      | true =>
          rw [shown, if_pos rfl] at step
          refine ⟨[], some status, s', step, ?_, ?_, ?_, ?_⟩
          · simp
          · simpa using shown
          · simp
          · simp
      | false =>
          obtain ⟨waits, last, s'', rest, low, high, within, all⟩ :=
            ih s' (entries ++ [wrap (.read .w16 (q.layout.offset Offset.hsfs) status)])
          rw [shown, if_neg Bool.false_ne_true] at step
          refine ⟨status :: waits, last, s'', ?_, ?_, high, ?_, ?_⟩
          · rw [List.append_assoc] at rest
            exact step.trans rest
          · intro status member
            cases member with
            | head => exact shown
            | tail _ member => exact low status member
          · simpa using within
          · intro none
            rw [List.length_cons, all none]

/-- The passage of a block begins with the accesses that start its cycle and wait for it. -/
theorem cycle_on {words address : Nat} (fits : address < flashAddressSpace)
    (few : words ≤ fdataCount) (s : σ) (entries : List ε) :
    ∃ (p : Passage) (s' : σ), p.data = [] ∧ p.Polled address q.budget p.last ∧
      (q.onDevice (q.device.recorded wrap)).poll q.budget
          ((q.onDevice (q.device.recorded wrap)).startCycle words address (.on s entries))
        = (p.last.map Hsfs.decode,
            .on s' (entries ++ (p.accesses q.layout (4 * words)).map wrap)) := by
  obtain ⟨p, s₁, named, started⟩ := startCycle_on common wrap fits few s entries
  obtain ⟨waits, last, s₂, polled, low, high, within, exhausted⟩ := poll_on common wrap q.budget s₁
    (entries ++ (p.launch q.layout (4 * words)).map wrap)
  refine ⟨{ p with waits, last, data := [] }, s₂, rfl, ?_, ?_⟩
  · exact ⟨named, rfl, low, high, within, exhausted⟩
  · rw [Passage.map_accesses, List.mapIdx_nil, List.map_nil, List.append_nil, ← List.append_assoc,
      started]
    exact polled

omit common in
theorem collect_on (q : Sequencer σ) (registers : List (Fin fdataCount)) (s : σ) (entries : List ε) :
    ∃ data s', data.length = registers.length ∧
      (q.onDevice (q.device.recorded wrap)).collect registers (.on s entries)
        = (data.flatMap (LittleEndian.bytes 4),
            .on s' (entries ++ List.zipWith (fun (index : Fin fdataCount) word =>
              wrap (.read .w32 (q.layout.offset (Offset.fdata + 4 * index)) word)) registers data)) := by
  induction registers generalizing s entries with
  | nil => exact ⟨[], s, rfl, by simp [collect]⟩
  | cons index registers ih =>
      have word := Mmio.read_on wrap q.device s entries .w32
        (q.layout.offset (Offset.fdata + 4 * index))
      generalize q.device.read .w32 _ s = answer at word
      obtain ⟨value, s'⟩ := answer
      obtain ⟨data, s'', count, rest⟩ := ih s' (entries
        ++ [wrap (.read .w32 (q.layout.offset (Offset.fdata + 4 * index)) value)])
      have register : (q.onDevice (q.device.recorded wrap)).layout.readFdata
          (q.onDevice (q.device.recorded wrap)).device index (.on s entries) = _ := word
      refine ⟨value :: data, s'', by rw [List.length_cons, count, List.length_cons], ?_⟩
      rw [collect, register]
      dsimp only
      rw [rest, List.append_assoc]
      rfl

omit common in
/-- The passage of a block ends with the accesses that collect its data. -/
theorem collect_passage_on (q : Sequencer σ) {words : Nat} (few : words ≤ fdataCount) {p : Passage}
    (nothing : p.data = []) (s : σ) (entries : List ε) :
    ∃ (data : List (BitVec 32)) (s' : σ), data.length = words ∧
      (q.onDevice (q.device.recorded wrap)).collect (blockRegisters words)
          (.on s (entries ++ (p.accesses q.layout (4 * words)).map wrap))
        = (data.flatMap (LittleEndian.bytes 4),
            .on s' (entries
              ++ (Passage.accesses q.layout (4 * words) { p with data }).map wrap)) := by
  have registers : (blockRegisters words).length = words := by
    rw [blockRegisters, List.length_take, List.length_finRange, Nat.min_eq_left few]
  obtain ⟨data, s', count, collected⟩ := collect_on wrap q (blockRegisters words) s
    (entries ++ (p.accesses q.layout (4 * words)).map wrap)
  have reads : List.zipWith (fun (index : Fin fdataCount) word =>
        wrap (.read .w32 (q.layout.offset (Offset.fdata + 4 * index)) word)) (blockRegisters words) data
      = (data.mapIdx fun i word =>
          Access.read .w32 (q.layout.offset (Offset.fdata + 4 * i)) word).map wrap := by
    refine List.ext_getElem (by simp [count]) ?_
    intro i _ _
    simp [blockRegisters]
  rw [reads, List.append_assoc, ← Passage.map_accesses_data wrap q.layout (4 * words) nothing]
    at collected
  exact ⟨data, s', count.trans registers, collected⟩

/-- The passages are found block by block. -/
theorem readBlocks_on (o : Observer τ) {words : Nat} (few : words ≤ fdataCount)
    (count : Nat) {address : Nat} (fits : address + count * (4 * words) ≤ flashAddressSpace)
    (positive : 0 < words) (s : σ) (entries : List ε) (t : τ) :
    ∃ passages ending s' t',
      (q.onDevice (q.device.recorded wrap)).readBlocks o words count address (.on s entries) t
        = (ending,
            .on s' (entries
              ++ (passages.flatMap (Passage.accesses q.layout (4 * words))).map wrap), t') ∧
      q.Transfer o (4 * words) count address t passages ending t' := by
  induction count generalizing address s entries t with
  | zero => exact ⟨[], _, s, _, by rw [readBlocks]; simp, .completed⟩
  | succ count ih =>
      rw [Nat.succ_mul] at fits
      have inside : address < flashAddressSpace := by omega
      have rest_fits : address + 4 * words + count * (4 * words) ≤ flashAddressSpace := by omega
      obtain ⟨p, s₁, nothing, way, polled⟩ := cycle_on common wrap inside few s entries
      cases ended : p.last with
      | none =>
          rw [ended] at polled way
          refine ⟨[p], _, s₁, _, (readBlocks_of_timeout polled).trans ?_, .abandoned way nothing⟩
          rw [List.flatMap_singleton]
          rfl
      | some status =>
          rw [ended] at polled way
          cases acknowledged : o.hear (Call.ofCycle address (status.getLsbD 1)) t with
          | mk yes t' =>
              have told := (Observer.acknowledge_eq_hear o address (Hsfs.decode status) t).trans
                acknowledged
              cases yes with
              | false =>
                  refine ⟨[p], _, s₁, _, (readBlocks_of_decline polled told).trans ?_,
                    .declined way acknowledged nothing⟩
                  rw [List.flatMap_singleton]
              | true =>
                  obtain ⟨data, s₂, size, collected⟩ :=
                    collect_passage_on wrap q few nothing s₁ entries
                  have full : 4 * data.length = 4 * words := by rw [size]
                  cases taken : o.block address (data.flatMap (LittleEndian.bytes 4)) t' with
                  | mk yes t'' =>
                      cases yes with
                      | false =>
                          refine ⟨[{ p with data }], _, s₂, _,
                            (readBlocks_of_stop polled told collected taken).trans ?_,
                            .stopped (way.withData data) acknowledged full taken⟩
                          rw [List.flatMap_singleton]
                      | true =>
                          obtain ⟨passages, ending, s₃, t₃, rest, transfer⟩ := ih rest_fits s₂ _ t''
                          refine ⟨{ p with data } :: passages, ending, s₃, t₃,
                            (readBlocks_of_block polled told collected taken).trans (rest.trans ?_),
                            .next (way.withData data) acknowledged full taken transfer⟩
                          rw [List.flatMap_cons, List.map_append, List.append_assoc]

end Loops

/-! ## The whole read -/

section Read

variable {ε σ τ : Type} {q : Sequencer σ} {o : Observer τ}

/-- The blocks are taken in the order of their addresses, from the first on. -/
theorem Transfer.addresses {blockSize count address : Nat} {t t' : τ} {passages : List Passage}
    {ending : Ending} (transfer : q.Transfer o blockSize count address t passages ending t') :
    passages.map Passage.address = (List.range' address count blockSize).take passages.length := by
  induction transfer with
  | completed => rfl
  | abandoned polled _ => simp [List.range'_succ, polled.address_eq]
  | declined polled _ _ => simp [List.range'_succ, polled.address_eq]
  | stopped polled _ _ _ => simp [List.range'_succ, polled.address_eq]
  | next polled _ _ _ _ ih => simp [List.range'_succ, polled.address_eq, ih]

/-- A cycle is polled at least once, unless not even one poll is followed. -/
theorem Transfer.polls_ne_nil {blockSize count address : Nat} {t t' : τ} {passages : List Passage}
    {ending : Ending} (transfer : q.Transfer o blockSize count address t passages ending t')
    (followed : 0 < q.budget) : ∀ p ∈ passages, p.polls ≠ [] := by
  have done {p : Passage} {address : Nat} {status : BitVec 16}
      (polled : p.Polled address q.budget (some status)) : p.polls ≠ [] := by
    simp [Passage.polls, polled.last_eq]
  induction transfer with
  | completed => simp
  | @abandoned _ _ _ p polled _ =>
      have waited : 0 < p.waits.length := by
        rw [polled.exhausted rfl]
        exact followed
      simpa [Passage.polls, polled.last_eq] using List.ne_nil_of_length_pos waited
  | declined polled _ _ => simpa using done polled
  | stopped polled _ _ _ => simpa using done polled
  | next polled _ _ _ _ ih => simpa using ⟨done polled, ih⟩

/-- What holds of a read whose accesses are one read of HSFS, which gave `status`, and then
those of the passages. -/
structure Footprint (q : Sequencer σ) (o : Observer τ) (r : Request) (t : τ)
    (status : BitVec 16) (passages : List Passage) (result : Option (Except ChipsetError Unit))
    (t' : τ) : Prop where
  busy : status.getLsbD 5 = true →
    passages = [] ∧ result = some (.error .busy) ∧
      t' = o.notify .busy (o.notify (.status (Hsfs.decode status)) t)
  blocks : status.getLsbD 5 = false →
    ∃ ending, result = ending.result ∧
      q.Transfer o r.blockSize r.blockCount r.start (o.notify (.status (Hsfs.decode status)) t)
        passages ending t'
  addresses : passages.map Passage.address = r.addresses.take passages.length
  polled : 0 < q.budget → ∀ p ∈ passages, p.polls ≠ []
  inside : ∀ p ∈ passages, p.address + r.blockSize ≤ r.start + r.size
  harmless : ∀ p ∈ passages, ∀ value,
    .write .w16 (q.layout.offset Offset.hsfc) value ∈ p.accesses q.layout r.blockSize →
      (Hsfc.decode value).flashCycle = .read

theorem read_on (common : q.layout.Common) (wrap : Access → ε) (o : Observer τ) {r : Request}
    (accepted : r.Accepted) (s : σ) (entries : List ε) (t : τ) :
    ∃ status passages result s' t',
      (q.device.read .w16 (q.layout.offset Offset.hsfs) s).1 = status ∧
      q.read o r s t = (result, s', t') ∧
      (q.onDevice (q.device.recorded wrap)).read o r (.on s entries) t
        = (result,
            .on s' (entries ++ (Access.read .w16 (q.layout.offset Offset.hsfs) status
              :: passages.flatMap (Passage.accesses q.layout r.blockSize)).map wrap), t') ∧
      q.Footprint o r t status passages result t' := by
  have projects : (q.onDevice (q.device.recorded wrap)).device.Projects q.device Recorded.state :=
    Mmio.projects_recorded wrap q.device
  have plain : q.read o r s t = _ := read_onDevice projects o r (.on s entries) t
  obtain ⟨plan, planned, start, block, count⟩ := Request.plan_of_accepted accepted
  have word := Mmio.read_on wrap q.device s entries .w16 (q.layout.offset Offset.hsfs)
  generalize q.device.read .w16 (q.layout.offset Offset.hsfs) s = answer at word ⊢
  obtain ⟨status, s₁⟩ := answer
  have steps : (q.onDevice (q.device.recorded wrap)).layout.Common := common
  have first := read_of_plan steps o planned word t
  cases busy : status.getLsbD 5 with
  | true =>
      rw [busy, if_pos rfl] at first
      rw [first] at plain
      refine ⟨status, [], _, _, _, rfl, plain, first, ?_⟩
      exact ⟨fun _ => ⟨rfl, rfl, rfl⟩, fun free => absurd (busy.symm.trans free) (by decide), rfl,
        by simp, by simp, by simp⟩
  | false =>
      obtain ⟨passages, ending, s', t', blocks, transfer⟩ := readBlocks_on common wrap o plan.words_le
        plan.count plan.fits plan.words_pos s₁
        (entries ++ [wrap (.read .w16 (q.layout.offset Offset.hsfs) status)])
        (o.notify (.status (Hsfs.decode status)) t)
      rw [busy, if_neg Bool.false_ne_true, blocks, block, List.append_assoc] at first
      rw [first] at plain
      rw [block, count, start] at transfer
      have addresses := transfer.addresses
      rw [← Request.addresses_eq_range'] at addresses
      have inside : ∀ p ∈ passages, p.address + r.blockSize ≤ r.start + r.size := by
        intro p member
        have taken : p.address ∈ r.addresses.take passages.length := by
          rw [← addresses]
          exact List.mem_map_of_mem member
        exact Request.add_blockSize_le accepted (List.mem_of_mem_take taken)
      refine ⟨status, passages, ending.result, s', t', rfl, plain, first, ?_⟩
      exact ⟨fun yes => absurd (busy.symm.trans yes) (by decide), fun _ => ⟨ending, rfl, transfer⟩,
        addresses, transfer.polls_ne_nil, inside, fun p _ _ => p.harmless _ _⟩

end Read

end Sequencer

/-- On every family and every device, a read is one look at HSFS and then the passages of
the blocks in order, and it is the same read with and without a recorder. -/
theorem Sequencer.read_footprint {σ τ : Type} (f : Family) (m : Mmio σ) (limit : PollLimit)
    (patience : Nat) (o : Observer τ) (r : Request) (accepted : r.Accepted) (s : σ) (t : τ) :
    ∃ status passages result s' t',
      Sequencer.read ⟨f.layout, m, limit, patience⟩ o r s t = (result, s', t') ∧
      Sequencer.read ⟨f.layout, m.recorded id, limit, patience⟩ o r (.start true s) t
        = (result,
            ⟨s', true, (Access.read .w16 (f.layout.offset Offset.hsfs) status
              :: passages.flatMap (Passage.accesses f.layout r.blockSize)).toArray⟩, t') ∧
      Sequencer.Footprint ⟨f.layout, m, limit, patience⟩ o r t status passages result t' := by
  have common : (⟨f.layout, m, limit, patience⟩ : Sequencer σ).layout.Common := f.layout_common
  obtain ⟨status, passages, result, s', t', -, plain, recorded, footprint⟩ :=
    Sequencer.read_on common id o accepted s [] t
  refine ⟨status, passages, result, s', t', plain, recorded.trans ?_, footprint⟩
  rw [List.nil_append, List.map_id]
  rfl

/-- The device that answers every read with the same number. -/
def Mmio.constant (value : Nat) : Mmio Unit where
  read width _ s := (BitVec.ofNat width.bits value, s)
  write _ _ _ s := s

/-- With every bit zero but the lowest, a cycle is always done at the first poll. -/
theorem Sequencer.read_footprint_of_one :
    ∃ status passages result s' t',
      Sequencer.read ⟨Catalogue.ich9.layout, .constant 1, .unbounded, 7⟩
          (Callbacks.observer ⟨fun _ => true, none, true⟩) ⟨64, 8, 4⟩ () []
        = (result, s', t') ∧
      Sequencer.read ⟨Catalogue.ich9.layout, (Mmio.constant 1).recorded id, .unbounded, 7⟩
          (Callbacks.observer ⟨fun _ => true, none, true⟩) ⟨64, 8, 4⟩ (.start true ()) []
        = (result,
            ⟨s', true, (Access.read .w16 0x3804 status
              :: passages.flatMap (Passage.accesses Catalogue.ich9.layout 4)).toArray⟩, t') ∧
      Sequencer.Footprint ⟨Catalogue.ich9.layout, .constant 1, .unbounded, 7⟩
        (Callbacks.observer ⟨fun _ => true, none, true⟩) ⟨64, 8, 4⟩ [] status passages result t' :=
  read_footprint Catalogue.ich9 (.constant 1) .unbounded 7
    (Callbacks.observer ⟨fun _ => true, none, true⟩) ⟨64, 8, 4⟩
    ⟨by decide, by decide, by decide, by decide, by decide⟩ () []

end FlashDump
