import FlashDump.Proofs.Sequencer.Footprint

/-!
# Reads within a poll limit

What a poll limit does is read off the passages of a read.  A passage has all the polls of its
own cycle and none of another, so each cycle has the whole limit to itself.  The passages come
in two ways (`Transfer.delivered_or_abandoned`).

* All cycles are done.  The observer is told of each block, and then of the end, as far as it
  wants to go on (`Delivered`).
* The cycle of the last passage is given up.  The observer was told of all blocks before it,
  wanted to go on after each, and is told of no block any more (`Abandoned`).

The second is a timeout if there is a limit.  `Footprint.withinLimit` is about the whole read.
-/

namespace FlashDump

open FlashDump.Register

/-- Whether an access is a read at an offset. -/
def Access.looksAt (place : Nat) : Access → Bool
  | .read _ offset _ => decide (offset = place)
  | .write _ _ _ => false

/-! ## Passages -/

namespace Passage

/-- The calls for a block whose cycle is done.  That its cycle failed is told by the poll that
shows it done. -/
def calls (p : Passage) : List Call :=
  match p.last with
  | some status => Call.ofCycle p.address (status.getLsbD 1) ++ [.block p.address p.bytes]
  | none => []

variable {p : Passage} {address budget : Nat}

theorem Polled.self {last : Option (BitVec 16)} (polled : p.Polled address budget last) :
    p.Polled p.address budget p.last := by
  rw [polled.last_eq, polled.address_eq]
  exact polled

theorem Polled.calls_eq {status : BitVec 16} (polled : p.Polled address budget (some status)) :
    p.calls = Call.ofCycle address (status.getLsbD 1) ++ [.block address p.bytes] := by
  rw [calls, polled.last_eq, polled.address_eq]

/-- HSFS is looked at once before a cycle, and then by each poll. -/
theorem countP_accesses (l : Layout) (blockSize : Nat) (p : Passage) :
    (p.accesses l blockSize).countP (Access.looksAt (l.offset Offset.hsfs)) = 1 + p.polls.length := by
  have polls : (p.polls.map (Access.read .w16 (l.offset Offset.hsfs))).countP
      (Access.looksAt (l.offset Offset.hsfs)) = p.polls.length := by
    rw [List.countP_map]
    exact List.countP_eq_length.2 fun _ _ => decide_eq_true rfl
  have data : (p.data.mapIdx fun i word =>
      Access.read .w32 (l.offset (Offset.fdata + 4 * i)) word).countP
      (Access.looksAt (l.offset Offset.hsfs)) = 0 := by
    apply List.countP_eq_zero.2
    intro access member
    obtain ⟨i, _, rfl⟩ := List.mem_mapIdx.1 member
    have apart : l.offset (Offset.fdata + 4 * i) ≠ l.offset Offset.hsfs := by
      simp only [Layout.offset, Offset.fdata, Offset.hsfs]
      omega
    exact Bool.eq_false_iff.1 (decide_eq_false apart)
  have launch : (p.launch l blockSize).countP (Access.looksAt (l.offset Offset.hsfs)) = 1 := by
    simp [Passage.launch, Access.looksAt, Layout.offset, Offset.hsfs, Offset.faddr, Offset.hsfc]
  rw [accesses, List.countP_append, List.countP_append, polls, data, launch, Nat.add_zero]

theorem countP_flatMap_accesses_le (l : Layout) (blockSize : Nat) {most : Nat}
    {passages : List Passage} (within : ∀ p ∈ passages, p.polls.length ≤ most) :
    (passages.flatMap (accesses l blockSize)).countP (Access.looksAt (l.offset Offset.hsfs))
      ≤ passages.length * (1 + most) := by
  induction passages with
  | nil => exact Nat.zero_le _
  | cons p passages ih =>
      have first := within p List.mem_cons_self
      have rest := ih fun p member => within p (List.mem_cons_of_mem _ member)
      rw [List.flatMap_cons, List.countP_append, countP_accesses, List.length_cons, Nat.succ_mul]
      omega

end Passage

/-! ## Two ways for the blocks -/

namespace Sequencer

variable {σ τ : Type} {q : Sequencer σ} {o : Observer τ}

/-- All cycles of the passages are done. -/
structure Delivered (o : Observer τ) (t : τ) (passages : List Passage) (ending : Ending) (t' : τ) :
    Prop where
  done : ∀ p ∈ passages, p.last ≠ none
  result : ending.result = some (.ok ())
  heard : t' = (o.hear (passages.flatMap Passage.calls ++ [.done]) t).2

/-- The cycle of the last passage is given up. -/
structure Abandoned (q : Sequencer σ) (o : Observer τ) (t : τ) (passages : List Passage)
    (ending : Ending) (t' : τ) (before : List Passage) (p : Passage) (u : τ) : Prop where
  passages_eq : passages = before ++ [p]
  done : ∀ b ∈ before, b.last ≠ none
  waiting : p.last = none
  heard : o.hear (before.flatMap Passage.calls) t = (true, u)
  gaveUp : q.giveUp o p.address u = (ending, t')

namespace Abandoned

variable {t t' u : τ} {passages before : List Passage} {ending : Ending} {p : Passage}

theorem last_mem (abandoned : Abandoned q o t passages ending t' before p u) : p ∈ passages := by
  rw [abandoned.passages_eq]
  exact List.mem_append_right _ (List.mem_singleton_self p)

/-- No cycle but the last is given up. -/
theorem eq_of_waiting (abandoned : Abandoned q o t passages ending t' before p u) {other : Passage}
    (member : other ∈ passages) (waiting : other.last = none) : p = other := by
  rw [abandoned.passages_eq, List.mem_append, List.mem_singleton] at member
  rcases member with earlier | last
  · exact absurd waiting (abandoned.done other earlier)
  · exact last.symm

end Abandoned

section Transfer

variable {blockSize count address : Nat} {t t' : τ} {passages : List Passage} {ending : Ending}

theorem Transfer.polled (transfer : q.Transfer o blockSize count address t passages ending t') :
    ∀ p ∈ passages, p.Polled p.address q.budget p.last := by
  induction transfer with
  | completed => simp
  | abandoned polled _ => simpa using polled.self
  | declined polled _ _ => simpa using polled.self
  | stopped polled _ _ _ => simpa using polled.self
  | next polled _ _ _ _ ih => simpa using ⟨polled.self, ih⟩

theorem Transfer.delivered_or_abandoned
    (transfer : q.Transfer o blockSize count address t passages ending t') :
    Delivered o t passages ending t' ∨
      ∃ before p u, Abandoned q o t passages ending t' before p u := by
  induction transfer with
  | completed => exact .inl ⟨by simp, rfl, rfl⟩
  | @abandoned _ address t p polled _ =>
      refine .inr ⟨[], p, t, rfl, by simp, polled.last_eq, rfl, ?_⟩
      rw [polled.address_eq]
  | declined polled no _ =>
      refine .inl ⟨by simp [polled.last_eq], rfl, ?_⟩
      rw [List.flatMap_singleton, polled.calls_eq, List.append_assoc,
        Observer.hear_append_of_false no]
  | @stopped _ address _ _ _ p _ polled yes _ no =>
      refine .inl ⟨by simp [polled.last_eq], rfl, ?_⟩
      have last := (o.hear_block address p.bytes _).trans no
      rw [List.flatMap_singleton, polled.calls_eq, List.append_assoc,
        Observer.hear_append_of_true yes, Observer.hear_append_of_false last]
  | @next _ address t _ t'' _ p passages _ _ polled yes _ goesOn _ ih =>
      have heard : o.hear p.calls t = (true, t'') := by
        rw [polled.calls_eq, Observer.hear_append_of_true yes, Observer.hear_block, goesOn]
      rcases ih with delivered | ⟨before, last, u, abandoned⟩
      · refine .inl ⟨?_, delivered.result, ?_⟩
        · simpa [polled.last_eq] using delivered.done
        · rw [List.flatMap_cons, List.append_assoc, Observer.hear_append_of_true heard]
          exact delivered.heard
      · refine .inr ⟨p :: before, last, u, ?_, ?_, abandoned.waiting, ?_, abandoned.gaveUp⟩
        · rw [abandoned.passages_eq, List.cons_append]
        · simpa [polled.last_eq] using abandoned.done
        · rw [List.flatMap_cons, Observer.hear_append_of_true heard]
          exact abandoned.heard

end Transfer

/-! ## The whole read -/

/-- What holds of a read in which each cycle is polled so many times at most.  Its accesses are
one read of HSFS, which gave `status`, and then those of the passages. -/
structure WithinLimit (l : Layout) (o : Observer τ) (r : Request) (t : τ) (most : Nat)
    (status : BitVec 16) (passages : List Passage) (result : Option (Except ChipsetError Unit))
    (t' : τ) : Prop where
  addresses : passages.map Passage.address = r.addresses.take passages.length
  /-- A cycle is polled until it is shown to be done, or else as often as it may be. -/
  polled : ∀ p ∈ passages, p.polls ≠ [] ∧ p.Polled p.address most p.last
  /-- A cycle that was not shown to be done ends the read.  No more than the blocks before it
  are delivered. -/
  late : ∀ p ∈ passages, p.last = none → ∃ before u,
    passages = before ++ [p] ∧ (∀ b ∈ before, b.last ≠ none) ∧
      result = some (.error (.timeout p.address most)) ∧
      o.hear (.notify (.status (Hsfs.decode status)) :: before.flatMap Passage.calls) t = (true, u) ∧
      t' = o.notify (.timeout p.address) u
  inTime : status.getLsbD 5 = false → (∀ p ∈ passages, p.last ≠ none) →
    result = some (.ok ()) ∧
      t' = (o.hear (.notify (.status (Hsfs.decode status))
        :: passages.flatMap Passage.calls ++ [.done]) t).2
  busy : status.getLsbD 5 = true → passages = [] ∧ result = some (.error .busy)
  ends : result ≠ none
  looks : (Access.read .w16 (l.offset Offset.hsfs) status
      :: passages.flatMap (Passage.accesses l r.blockSize)).countP
        (Access.looksAt (l.offset Offset.hsfs))
    ≤ 1 + r.blockCount * (1 + most)

/-- The blocks of a footprint, with what is told before the first. -/
theorem Footprint.delivered_or_abandoned {r : Request} {t t' : τ} {status : BitVec 16}
    {passages : List Passage} {result : Option (Except ChipsetError Unit)}
    (footprint : q.Footprint o r t status passages result t') (free : status.getLsbD 5 = false) :
    ∃ ending, result = ending.result ∧
      (Delivered o (o.notify (.status (Hsfs.decode status)) t) passages ending t' ∨
        ∃ before p u, Abandoned q o (o.notify (.status (Hsfs.decode status)) t) passages ending t'
          before p u) := by
  obtain ⟨ending, same, transfer⟩ := footprint.blocks free
  exact ⟨ending, same, transfer.delivered_or_abandoned⟩

theorem Footprint.withinLimit {r : Request} {t t' : τ} {status : BitVec 16}
    {passages : List Passage} {result : Option (Except ChipsetError Unit)} {polls : Nat}
    (limited : q.limit = .iterations polls)
    (footprint : q.Footprint o r t status passages result t') :
    WithinLimit q.layout o r t (max polls 1) status passages result t' := by
  have budget : q.budget = max polls 1 := by rw [Sequencer.budget, limited]
  have positive : 0 < q.budget := budget ▸ Nat.lt_of_lt_of_le Nat.zero_lt_one (Nat.le_max_right _ _)
  have timeout {address : Nat} {u : τ} {ending : Ending}
      (left : q.giveUp o address u = (ending, t')) :
      ending.result = some (.error (.timeout address (max polls 1))) ∧
        t' = o.notify (.timeout address) u := by
    rw [giveUp, limited, budget, Prod.mk.injEq] at left
    exact ⟨left.1 ▸ rfl, left.2.symm⟩
  have polled : ∀ p ∈ passages, p.Polled p.address (max polls 1) p.last := by
    cases busy : status.getLsbD 5 with
    | true => simp [(footprint.busy busy).1]
    | false =>
        obtain ⟨_, _, transfer⟩ := footprint.blocks busy
        exact budget ▸ transfer.polled
  have started : passages.length ≤ r.blockCount := by
    have taken := congrArg List.length footprint.addresses
    rw [List.length_map, List.length_take, Request.addresses, List.length_map,
      List.length_range] at taken
    omega
  constructor
  case addresses => exact footprint.addresses
  case polled => exact fun p member => ⟨footprint.polled positive p member, polled p member⟩
  case late =>
    intro p member waiting
    cases busy : status.getLsbD 5 with
    | true => simp [(footprint.busy busy).1] at member
    | false =>
        obtain ⟨ending, rfl, delivered | ⟨before, last, u, abandoned⟩⟩ :=
          footprint.delivered_or_abandoned busy
        · exact absurd waiting (delivered.done p member)
        · obtain rfl := abandoned.eq_of_waiting member waiting
          obtain ⟨timedOut, told⟩ := timeout abandoned.gaveUp
          exact ⟨before, u, abandoned.passages_eq, abandoned.done, timedOut, abandoned.heard, told⟩
  case inTime =>
    intro free done
    obtain ⟨ending, rfl, delivered | ⟨before, last, u, abandoned⟩⟩ :=
      footprint.delivered_or_abandoned free
    · exact ⟨delivered.result, delivered.heard⟩
    · exact absurd abandoned.waiting (done last abandoned.last_mem)
  case busy => exact fun busy => ⟨(footprint.busy busy).1, (footprint.busy busy).2.1⟩
  case ends =>
    cases busy : status.getLsbD 5 with
    | true => simp [(footprint.busy busy).2.1]
    | false =>
        obtain ⟨ending, rfl, delivered | ⟨before, last, u, abandoned⟩⟩ :=
          footprint.delivered_or_abandoned busy
        · simp [delivered.result]
        · simp [(timeout abandoned.gaveUp).1]
  case looks =>
    have blocks := Passage.countP_flatMap_accesses_le q.layout r.blockSize
      fun p member => (polled p member).within
    have first : Access.looksAt (q.layout.offset Offset.hsfs)
        (.read .w16 (q.layout.offset Offset.hsfs) status) = true := decide_eq_true rfl
    have all := Nat.mul_le_mul_right (1 + max polls 1) started
    rw [List.countP_cons_of_pos first]
    omega

end Sequencer

end FlashDump
