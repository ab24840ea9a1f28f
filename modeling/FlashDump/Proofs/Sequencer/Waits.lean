import FlashDump.Sequencer.Transfer

/-!
# Waits as polls

Waiting for a cycle is a loop that counts its polls and compares the count with the limit.  What
comes of it can be said without a count: there is a `budget` of polls, and the cycle is `poll`ed
until one of them shows it done or none is left.  `wait_eq` says that the two are the same, and
`readBlocks_succ` says it of the blocks of a read.

The loop with a limit and the one without are two inductions, since the first ends by its count and
the second by patience.
-/

namespace FlashDump.Sequencer

open FlashDump.Register

variable {σ τ : Type}

/-- The most polls of one cycle.  There is always a first one. -/
def budget (q : Sequencer σ) : Nat :=
  match q.limit with
  | .unbounded => q.patience
  | .iterations polls => max polls 1

/-- Read HSFS until the cycle is done, at most a given number of times.  The answer
is the status that shows it done. -/
def poll (q : Sequencer σ) : (polls : Nat) → σ → Option Hsfs × σ
  | 0, s => (none, s)
  | polls + 1, s =>
      let (hsfs, s) := q.layout.readHsfs q.device s
      if hsfs.flashCycleDone then (some hsfs, s) else q.poll polls s

/-- What a wait comes to, by the poll that shows the cycle done, if there is one. -/
def outcome (overdue : Wait) : Option Hsfs × σ → Wait × σ
  | (some hsfs, s) => (.done hsfs, s)
  | (none, s) => (overdue, s)

/-- What becomes of a cycle that no poll shows done. -/
def overdue (q : Sequencer σ) : Wait :=
  match q.limit with
  | .unbounded => .unfinished
  | .iterations _ => .timedOut q.budget

/-- Give up on the cycle at an address. -/
def giveUp (q : Sequencer σ) (o : Observer τ) (address : Nat) (t : τ) : Ending × τ :=
  match q.limit with
  | .unbounded => (.unfinished, t)
  | .iterations _ => (.timedOut address q.budget, o.notify (.timeout address) t)

variable {q : Sequencer σ}

/-- The count reaches the limit with the last poll of the budget, and with the first if the limit is
zero. -/
theorem waitFrom_of_limited {most : Nat} (limited : q.limit = .iterations most)
    {further polls : Nat} (before : polls < max most 1) (enough : max most 1 ≤ polls + further)
    (s : σ) :
    q.waitFrom further polls s
      = outcome (.timedOut (max most 1)) (q.poll (max most 1 - polls) s) := by
  induction further generalizing polls s with
  | zero => omega
  | succ further ih =>
      obtain ⟨left, more⟩ : ∃ left, max most 1 - polls = left + 1 :=
        Nat.exists_eq_succ_of_ne_zero (Nat.sub_ne_zero_of_lt before)
      rw [waitFrom, more, poll, limited]
      rcases q.layout.readHsfs q.device s with ⟨hsfs, s⟩
      dsimp only
      cases hsfs.flashCycleDone with
      | true => rfl
      | false =>
          rw [if_neg Bool.false_ne_true, if_neg Bool.false_ne_true]
          by_cases last : most ≤ polls + 1
          · obtain rfl : left = 0 := by omega
            have all : max most 1 = polls + 1 := by omega
            rw [PollLimit.reached, if_pos (decide_eq_true last), all]
            rfl
          · obtain rfl : left = max most 1 - (polls + 1) := by omega
            rw [PollLimit.reached, decide_eq_false last, if_neg Bool.false_ne_true]
            exact ih (by omega) (by omega) s

theorem waitFrom_of_unbounded (unlimited : q.limit = .unbounded) (further polls : Nat) (s : σ) :
    q.waitFrom further polls s = outcome .unfinished (q.poll further s) := by
  induction further generalizing polls s with
  | zero => rfl
  | succ further ih =>
      rw [waitFrom, poll, unlimited]
      rcases q.layout.readHsfs q.device s with ⟨hsfs, s⟩
      dsimp only
      cases hsfs.flashCycleDone with
      | true => rfl
      | false => exact ih (polls + 1) s

/-- To wait is to poll as often as the budget allows. -/
theorem wait_eq (q : Sequencer σ) (s : σ) : q.wait s = outcome q.overdue (q.poll q.budget s) := by
  unfold wait overdue budget horizon
  cases limit : q.limit with
  | unbounded => exact waitFrom_of_unbounded limit q.patience 0 s
  | iterations most =>
      have enough : max most 1 ≤ 0 + (most + 1) := by omega
      exact waitFrom_of_limited limit (by omega) enough s

theorem readBlocks_succ (q : Sequencer σ) (o : Observer τ) (words count address : Nat) (s : σ)
    (t : τ) :
    q.readBlocks o words (count + 1) address s t
      = match q.poll q.budget (q.startCycle words address s) with
        | (none, s) => ((q.giveUp o address t).1, s, (q.giveUp o address t).2)
        | (some hsfs, s) =>
            match acknowledge o address hsfs t with
            | (false, t) => (.stopped, s, t)
            | (true, t) =>
                let (data, s) := q.collect (blockRegisters words) s
                match o.block address data t with
                | (false, t) => (.stopped, s, t)
                | (true, t) => q.readBlocks o words count (address + 4 * words) s t := by
  rw [readBlocks, wait_eq]
  rcases q.poll q.budget (q.startCycle words address s) with ⟨_ | hsfs, s⟩
  · unfold outcome overdue giveUp
    cases q.limit <;> rfl
  · rfl

end FlashDump.Sequencer
