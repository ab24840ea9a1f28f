import FlashDump.Sequencer.Transfer
import FlashDump.Session.Delivery

/-!
# What an observer is told

A read makes calls to its observer.  `Observer.hear` makes the calls of a list, one
after the other, and stops after the first that is answered with no.  A read of the
flash is then described by the list of all calls that it would make if every answer
were yes.

`Callbacks` is the most general observer of which only the calls count.  Each answer is
any function of the calls so far, and the last of these is the one that is answered.
Its state is the list of the calls that it was told, `DeliveryEvent` by `DeliveryEvent`.
`Callbacks.tell` is `Observer.hear` for it: the events of a script, up to the first that
is answered with no (`hear_observer`).
-/

namespace FlashDump

/-- A call of an observer. -/
inductive Call where
  /-- Something is reported. -/
  | notify (n : Log.Notice)
  /-- The cycle at an address failed. -/
  | error (address : Nat)
  /-- A block. -/
  | block (address : Nat) (data : List Byte)
  /-- The last block is delivered. -/
  | done
deriving DecidableEq

/-- The calls about a cycle that is done, before its block is there. -/
def Call.ofCycle (address : Nat) (failed : Bool) : List Call :=
  .notify (.cycleDone address) ::
    if failed then [.notify (.cycleError address), .error address] else []

namespace Observer

variable {τ : Type}

/-- Make a call.  The answer is whether to go on. -/
def answer (o : Observer τ) : Call → τ → Bool × τ
  | .notify n, t => (true, o.notify n t)
  | .error address, t =>
      match o.error with
      | some choose => choose address t
      | none => (true, t)
  | .block address data, t => o.block address data t
  | .done, t => (true, o.finish t)

/-- Make calls, up to the first that is answered with no. -/
def hear (o : Observer τ) : List Call → τ → Bool × τ
  | [], t => (true, t)
  | call :: calls, t =>
      match o.answer call t with
      | (true, t) => o.hear calls t
      | (false, t) => (false, t)

theorem hear_nil (o : Observer τ) (t : τ) : o.hear [] t = (true, t) := rfl

theorem hear_cons_of_true {o : Observer τ} {call : Call} {t t' : τ}
    (yes : o.answer call t = (true, t')) (calls : List Call) :
    o.hear (call :: calls) t = o.hear calls t' := by
  rw [hear, yes]

theorem hear_append_of_true {o : Observer τ} {calls : List Call} {t t' : τ}
    (yes : o.hear calls t = (true, t')) (more : List Call) :
    o.hear (calls ++ more) t = o.hear more t' := by
  induction calls generalizing t with
  | nil =>
      rw [hear_nil, Prod.mk.injEq] at yes
      rw [List.nil_append, yes.2]
  | cons call calls ih =>
      rw [List.cons_append, hear]
      rw [hear] at yes
      split at yes
      · exact ih yes
      · cases yes

theorem hear_append_of_false {o : Observer τ} {calls : List Call} {t t' : τ}
    (no : o.hear calls t = (false, t')) (more : List Call) :
    o.hear (calls ++ more) t = (false, t') := by
  induction calls generalizing t with
  | nil => cases no
  | cons call calls ih =>
      rw [List.cons_append, hear]
      rw [hear] at no
      split at no
      · exact ih no
      · exact no

/-- What is done about a cycle that is done is to make its calls. -/
theorem acknowledge_eq_hear (o : Observer τ) (address : Nat) (hsfs : Register.Hsfs) (t : τ) :
    Sequencer.acknowledge o address hsfs t
      = o.hear (Call.ofCycle address hsfs.flashCycleError) t := by
  cases failed : hsfs.flashCycleError with
  | false => simp [Sequencer.acknowledge, Call.ofCycle, failed, hear, answer]
  | true =>
      cases asked : o.error with
      | none => simp [Sequencer.acknowledge, Call.ofCycle, failed, hear, answer, Observer.failed,
          asked]
      | some f =>
          simp only [Sequencer.acknowledge, Call.ofCycle, failed, hear, answer, Observer.failed,
            asked, if_true]
          rcases f address _ with ⟨_ | _, t'⟩ <;> rfl

theorem hear_block (o : Observer τ) (address : Nat) (data : List Byte) (t : τ) :
    o.hear [.block address data] t = o.block address data t := by
  simp only [hear, answer]
  rcases o.block address data t with ⟨_ | _, t'⟩ <;> rfl

theorem hear_done (o : Observer τ) (t : τ) : o.hear [.done] t = (true, o.finish t) := rfl

end Observer

/-! ## Callbacks -/

/-- Answers that are functions of all that was told so far, the call that is answered
included. -/
structure Callbacks where
  /-- Whether to go on after a block. -/
  block : (told : List DeliveryEvent) → Bool
  /-- Whether to go on after a failed cycle. -/
  error : Option ((told : List DeliveryEvent) → Bool)
  /-- Whether to be told of the end. -/
  done : Bool

namespace Callbacks

/-- The observer that answers so, and keeps what it was told. -/
def observer (k : Callbacks) : Observer (List DeliveryEvent) where
  block address data told :=
    (k.block (told ++ [.block address data]), told ++ [.block address data])
  error := k.error.map fun choose address told =>
    (choose (told ++ [.error address]), told ++ [.error address])
  done := if k.done then some fun told => told ++ [.done] else none
  notify _ told := told

/-- The answer to the last of the events that were told. -/
def goesOn (k : Callbacks) (told : List DeliveryEvent) : DeliveryEvent → Bool
  | .block _ _ => k.block told
  | .error _ =>
      match k.error with
      | some choose => choose told
      | none => true
  | .done => true

/-- Tell the events of a script, up to the first that is answered with no. -/
def tell (k : Callbacks) : (script told : List DeliveryEvent) → Bool × List DeliveryEvent
  | [], told => (true, told)
  | event :: script, told =>
      if k.goesOn (told ++ [event]) event then k.tell script (told ++ [event])
      else (false, told ++ [event])

/-- The event of a call, if there is someone to be told. -/
def event? (k : Callbacks) : Call → Option DeliveryEvent
  | .notify _ => none
  | .error address => if k.error.isSome then some (.error address) else none
  | .block address data => some (.block address data)
  | .done => if k.done then some .done else none

/-- A call with no one to be told changes nothing. -/
theorem answer_of_event_none {k : Callbacks} {call : Call} (unheard : k.event? call = none)
    (told : List DeliveryEvent) : k.observer.answer call told = (true, told) := by
  cases call with
  | notify n => rfl
  | error address =>
      cases asked : k.error with
      | none => simp [Observer.answer, observer, asked]
      | some f => simp [event?, asked] at unheard
  | block address data => cases unheard
  | done =>
      cases learn : k.done with
      | false => simp [Observer.answer, Observer.finish, observer, learn]
      | true => simp [event?, learn] at unheard

/-- A call with someone to be told adds its event. -/
theorem answer_of_event_some {k : Callbacks} {call : Call} {event : DeliveryEvent}
    (heard : k.event? call = some event) (told : List DeliveryEvent) :
    k.observer.answer call told = (k.goesOn (told ++ [event]) event, told ++ [event]) := by
  cases call with
  | notify n => cases heard
  | error address =>
      cases asked : k.error with
      | none => simp [event?, asked] at heard
      | some f =>
          simp only [event?, asked, Option.isSome_some, if_true, Option.some.injEq] at heard
          subst heard
          simp [Observer.answer, observer, goesOn, asked]
  | block address data =>
      cases heard
      rfl
  | done =>
      cases learn : k.done with
      | false => simp [event?, learn] at heard
      | true =>
          simp only [event?, learn, if_true, Option.some.injEq] at heard
          subst heard
          simp [Observer.answer, Observer.finish, observer, goesOn, learn]

theorem hear_observer (k : Callbacks) (calls : List Call) (told : List DeliveryEvent) :
    k.observer.hear calls told = k.tell (calls.filterMap k.event?) told := by
  induction calls generalizing told with
  | nil => rfl
  | cons call calls ih =>
      cases heard : k.event? call with
      | none =>
          rw [Observer.hear_cons_of_true (answer_of_event_none heard told),
            List.filterMap_cons_none heard, ih]
      | some event =>
          rw [Observer.hear, answer_of_event_some heard, List.filterMap_cons_some heard, tell]
          cases k.goesOn (told ++ [event]) event with
          | true => exact ih _
          | false => rfl

end Callbacks

end FlashDump
