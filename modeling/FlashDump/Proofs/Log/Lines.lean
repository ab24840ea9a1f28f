import FlashDump.Log.Logger
import Mathlib.Data.List.Forall2
import Mathlib.Data.Nat.Digits.Lemmas

/-!
# The lines of a log

A log that is given several notices keeps those that its verbosity allows, in order
(`Logger.toList_kept_logAll`).

A notice takes one line if its target and its text hold no end of line (`Notice.Plain`).  The
notices of a read are plain, since all that varies in them are numbers.  So there is a line for each
notice that is kept (`Logger.lines_logAll`).  The number in a line about a block is the address of
the block, in base 16 (`Notice.tells`).
-/

namespace FlashDump

/-! ## Texts of one line -/

namespace Text

/-- A text without an end of line. -/
def OneLine (text : String) : Prop := ∀ c ∈ text.toList, c ≠ '\n' ∧ c ≠ '\r'

instance (text : String) : Decidable (OneLine text) :=
  List.decidableBAll (fun c => c ≠ '\n' ∧ c ≠ '\r') text.toList

theorem OneLine.lines_eq {text : String} (one : OneLine text) : lines text = [text] :=
  lines_of_not_mem (fun member => (one _ member).1 rfl) fun member => (one _ member).2 rfl

theorem OneLine.append {text more : String} (one : OneLine text) (one' : OneLine more) :
    OneLine (text ++ more) := by
  intro c member
  rw [String.toList_append, List.mem_append] at member
  exact member.elim (one c) (one' c)

/-- A text is a number in base 16: digits in lower case, `width` of them or more.  If there are
more, the first is not zero. -/
structure IsHex (width n : Nat) (text : String) : Prop where
  digits : ∃ digits : List Nat,
    List.Forall₂ (fun c d => d < 16 ∧ c = Nat.digitChar d) text.toList digits ∧
      Nat.ofDigits 16 digits.reverse = n
  enough : width ≤ text.length
  shortest : width < text.length → text.toList.head? ≠ some '0'

theorem IsHex.oneLine {width n : Nat} {text : String} (hex : IsHex width n text) :
    OneLine text := by
  have printed : ∀ d < 16, Nat.digitChar d ≠ '\n' ∧ Nat.digitChar d ≠ '\r' := by decide
  obtain ⟨digits, stand, -⟩ := hex.digits
  have chars : List.Forall₂ (fun c d => (c ≠ '\n' ∧ c ≠ '\r') ∧ d < 16) text.toList digits := by
    refine stand.imp ?_
    rintro c d ⟨few, rfl⟩
    exact ⟨printed d few, few⟩
  exact ((List.forall₂_and_left _ _).1 chars).1

/-- The last digit is the remainder, and the others are those of the quotient. -/
theorem exists_hexDigits (n : Nat) : ∃ digits : List Nat,
    List.Forall₂ (fun c d => d < 16 ∧ c = Nat.digitChar d) (Nat.toDigits 16 n) digits ∧
      Nat.ofDigits 16 digits.reverse = n := by
  induction n using Nat.strongRecOn with
  | ind n ih =>
      rcases Nat.lt_or_ge n 16 with small | large
      · rw [Nat.toDigits_of_lt_base small]
        exact ⟨[n], .cons ⟨small, rfl⟩ .nil, Nat.ofDigits_singleton⟩
      · obtain ⟨digits, stand, value⟩ := ih (n / 16) (Nat.div_lt_self (by omega) (by decide))
        refine ⟨digits ++ [n % 16], ?_, ?_⟩
        · rw [Nat.toDigits_of_base_le (by decide) large]
          exact List.rel_append stand (.cons ⟨Nat.mod_lt n (by decide), rfl⟩ .nil)
        · rw [List.reverse_append, List.reverse_singleton, List.singleton_append, Nat.ofDigits_cons,
            value]
          exact Nat.mod_add_div n 16

theorem head?_toDigits {n : Nat} (positive : 0 < n) : (Nat.toDigits 16 n).head? ≠ some '0' := by
  induction n using Nat.strongRecOn with
  | ind n ih =>
      rcases Nat.lt_or_ge n 16 with small | large
      · have printed : ∀ d < 16, 0 < d → Nat.digitChar d ≠ '0' := by decide
        rw [Nat.toDigits_of_lt_base small]
        exact fun zero => printed n small positive (Option.some.inj zero)
      · have rest := ih (n / 16) (Nat.div_lt_self positive (by decide))
          (Nat.div_pos large (by decide))
        rw [Nat.toDigits_of_base_le (by decide) large,
          List.head?_append_of_ne_nil _ (List.ne_nil_of_length_pos Nat.length_toDigits_pos)]
        exact rest

theorem forall₂_zeros (count : Nat) :
    List.Forall₂ (fun c d => d < 16 ∧ c = Nat.digitChar d) (List.replicate count '0')
      (List.replicate count 0) := by
  induction count with
  | zero => exact .nil
  | succ count ih => exact .cons ⟨by decide, rfl⟩ ih

theorem isHex_hexLower {width : Nat} (some_digit : 0 < width) (n : Nat) :
    IsHex width n (hexLower width n) where
  digits := by
    obtain ⟨digits, stand, value⟩ := exists_hexDigits n
    rw [hexLower, padZeros, String.toList_ofList]
    refine ⟨_, List.rel_append (forall₂_zeros _) stand, ?_⟩
    rw [List.reverse_append, List.reverse_replicate, Nat.ofDigits_append_replicate_zero, value]
  enough := by
    rw [hexLower, padZeros, String.length_ofList, List.length_append, List.length_replicate]
    omega
  shortest long := by
    rw [hexLower, padZeros, String.length_ofList, List.length_append, List.length_replicate] at long
    have none : width - (Nat.toDigits 16 n).length = 0 := by omega
    rw [hexLower, padZeros, String.toList_ofList, none, List.replicate_zero, List.nil_append]
    apply head?_toDigits
    by_contra zero
    obtain rfl : n = 0 := by omega
    have one : (Nat.toDigits 16 0).length = 1 := rfl
    omega

theorem oneLine_bitDigit (b : Bool) : OneLine (toString (bitDigit b)) := by
  cases b <;> decide

end Text

namespace Log

open Text

/-! ## Notices of one line -/

namespace Notice

/-- A notice that takes one line. -/
structure Plain (n : Notice) : Prop where
  target : OneLine n.target
  text : OneLine n.text

theorem Plain.lines_entry {n : Notice} (plain : n.Plain) : lines n.entry = [n.entry] := by
  have tag : ∀ level : Level, OneLine level.tag := fun level => by cases level <;> decide
  have opened : OneLine "[" := by decide
  have closed : OneLine "] " := by decide
  have colon : OneLine ": " := by decide
  exact ((((opened.append (tag n.level)).append closed).append plain.target).append colon).append
    plain.text |>.lines_eq

theorem oneLine_hwseq : OneLine "pchflash::drivers::spi::hwseq" := by decide

theorem plain_status (hsfs : Register.Hsfs) : (status hsfs).Plain where
  target := oneLine_hwseq
  text := by
    have flag {name : String} (one : OneLine name) (b : Bool) :
        OneLine (name ++ toString (bitDigit b) ++ " ") :=
      (one.append (oneLine_bitDigit b)).append (by decide)
    have done : OneLine ("FDONE=" ++ toString (bitDigit hsfs.flashCycleDone)) :=
      OneLine.append (by decide) (oneLine_bitDigit _)
    exact ((((((flag (by decide) _).append (flag (by decide) _)).append (flag (by decide) _)).append
      (flag (by decide) _)).append (flag (by decide) _)).append (flag (by decide) _)).append done

theorem plain_busy : busy.Plain := ⟨oneLine_hwseq, by decide⟩

theorem plain_cycleDone (address : Nat) : (cycleDone address).Plain where
  target := oneLine_hwseq
  text := ((by decide : OneLine "Read cycle at 0x").append
    (isHex_hexLower (by decide) address).oneLine).append (by decide : OneLine " done")

theorem plain_cycleError (address : Nat) : (cycleError address).Plain where
  target := oneLine_hwseq
  text := (by decide : OneLine "Flash cycle error at 0x").append
    (isHex_hexLower (by decide) address).oneLine

theorem plain_timeout (address : Nat) : (timeout address).Plain where
  target := oneLine_hwseq
  text := (by decide : OneLine "Hardware sequencing timeout at 0x").append
    (isHex_hexLower (by decide) address).oneLine

/-- The line about the status before a read. -/
theorem entry_status (hsfs : Register.Hsfs) : ∃ flags, (status hsfs).entry
    = "[\x1b[34mDEBUG\x1b[0m] pchflash::drivers::spi::hwseq: HSFS: " ++ flags :=
  ⟨s!"FLOCKDN={bitDigit hsfs.flashConfigurationLockdown} " ++
      s!"FDV={bitDigit hsfs.flashDescriptorValid} " ++
      s!"FDOPSS={bitDigit hsfs.flashDescriptorOverridePinstrapStatus} " ++
      s!"SCIP={bitDigit hsfs.spiCycleInProgress} " ++
      s!"AEL={bitDigit hsfs.accessErrorLog} " ++
      s!"FCERR={bitDigit hsfs.flashCycleError} " ++
      s!"FDONE={bitDigit hsfs.flashCycleDone}", rfl⟩

/-- The lines about the block at an address hold the address, in hexadecimal. -/
structure Tells (address : Nat) (digits : String) : Prop where
  hex : IsHex 6 address digits
  done : (cycleDone address).entry
    = "[\x1b[35mTRACE\x1b[0m] pchflash::drivers::spi::hwseq: Read cycle at 0x" ++ digits ++ " done"
  error : (cycleError address).entry
    = "[\x1b[33mWARN\x1b[0m ] pchflash::drivers::spi::hwseq: Flash cycle error at 0x" ++ digits
  timeout : (timeout address).entry
    = "[\x1b[31mERROR\x1b[0m] pchflash::drivers::spi::hwseq: Hardware sequencing timeout at 0x"
        ++ digits

theorem tells (address : Nat) : ∃ digits, Tells address digits :=
  ⟨_, isHex_hexLower (by decide) address, rfl, rfl, rfl⟩

end Notice

/-! ## Several notices -/

namespace Logger

/-- Log notices, one after the other. -/
def logAll (notices : List Notice) (l : Logger) : Logger := notices.foldl (fun l n => l.log n) l

variable (notices : List Notice) (l : Logger)

theorem logAll_append (more : List Notice) :
    l.logAll (notices ++ more) = (l.logAll notices).logAll more :=
  List.foldl_append

/-- The level filters, and does nothing else. -/
theorem toList_kept_logAll :
    (l.logAll notices).kept.toList
      = l.kept.toList ++ notices.filter fun n => l.verbosity.keeps n.level := by
  induction notices generalizing l with
  | nil => exact (List.append_nil _).symm
  | cons n notices ih =>
      have rest : ((l.log n).logAll notices).kept.toList
          = (l.log n).kept.toList ++ notices.filter fun n => l.verbosity.keeps n.level := by
        rw [ih, verbosity_log]
      have first := l.toList_kept_log n
      refine rest.trans ?_
      rw [first, List.append_assoc, List.filter_cons]
      split <;> rfl

theorem flatMap_lines_entry (plain : ∀ n ∈ notices, n.Plain) :
    (notices.map Notice.entry).flatMap Text.lines = notices.map Notice.entry := by
  induction notices with
  | nil => rfl
  | cons n notices ih =>
      rw [List.map_cons, List.flatMap_cons, (plain n List.mem_cons_self).lines_entry,
        ih fun n member => plain n (List.mem_cons_of_mem _ member), List.singleton_append]

theorem keeps_trace (level : Level) : Verbosity.trace.keeps level = true := by
  cases level <;> rfl

/-- There is a line for each plain notice that is kept. -/
theorem lines_logAll (plain : ∀ n ∈ notices, n.Plain) :
    (l.logAll notices).lines
      = l.lines ++ (notices.filter fun n => l.verbosity.keeps n.level).map Notice.entry := by
  rw [lines, entries, toList_kept_logAll, List.map_append, List.flatMap_append,
    flatMap_lines_entry _ fun n member => plain n (List.mem_filter.1 member).1]
  rfl

end Logger

end Log

end FlashDump
