import FlashDump.Dump.Disk

/-!
# Buffered output

A dump is written through a buffer.  Data goes to the buffer as long as it fits.  What
does not fit sends the buffer on first.  So a target that refuses data is noticed only
when the buffer is full or is sent on at the end.

`Sink.pieces` is all that a sink has taken: what has been sent on, and then what is
still in the buffer.  `pieces_flush` says that sending the buffer on does not change it,
and `toList_pieces_write` that data is taken whole and at the end.
-/

namespace FlashDump

/-- A target that is written through a buffer. -/
structure Sink where
  target : Target
  /-- What has been sent on. -/
  sent : Array Byte
  buffer : Array Byte

namespace Sink

/-- The size of the buffer. -/
def capacity : Nat := 8192

/-- A sink that nothing was given to. -/
def start (target : Target) : Sink := ⟨target, #[], #[]⟩

/-- All that the sink has taken. -/
def pieces (s : Sink) : Array Byte := s.sent ++ s.buffer

/-- Why the buffer cannot be sent on.  An empty one always can. -/
def refusal? (s : Sink) : Option OsError :=
  match s.target with
  | .file _ => none
  | .device refusal => if s.buffer.size = 0 then none else refusal

/-- Send the buffer on.  The answer is the refusal, if there is one. -/
def flush (s : Sink) : Option OsError × Sink :=
  match s.refusal? with
  | some cause => (some cause, s)
  | none => (none, { s with sent := s.sent ++ s.buffer, buffer := #[] })

/-- Take data.  The answer is the refusal, if there is one. -/
def write (data : List Byte) (s : Sink) : Option OsError × Sink :=
  if s.buffer.size + data.length ≤ capacity then
    (none, { s with buffer := data.foldl Array.push s.buffer })
  else
    match s.flush with
    | (some e, s) => (some e, s)
    | (none, s) => (none, { s with buffer := data.foldl Array.push s.buffer })

/-- Let go of the sink.  What is in the buffer is sent on as far as that is possible. -/
def close (s : Sink) (d : Disk) : Disk :=
  match s.target with
  | .file place => d.store place s.flush.2.sent
  | .device _ => d

theorem pieces_flush (s : Sink) : s.flush.2.pieces = s.pieces := by
  unfold flush
  split
  · rfl
  · simp [pieces]

theorem toList_pieces_write {data : List Byte} {s t : Sink} (taken : s.write data = (none, t)) :
    t.pieces.toList = s.pieces.toList ++ data := by
  unfold write at taken
  split at taken
  · cases taken
    simp [pieces]
  · have whole := pieces_flush s
    split at taken
    · cases taken
    · rename_i u flushed
      cases taken
      rw [flushed] at whole
      change u.pieces = s.pieces at whole
      rw [← whole]
      simp [pieces]

end Sink

end FlashDump
