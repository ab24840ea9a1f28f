import FlashDump.Pci.ConfigMap
import FlashDump.Proofs.Machine.Platform
import FlashDump.Proofs.Memory.RegisterFile
import FlashDump.Session.PortScript
import Mathlib.Data.Nat.Bitwise

/-!
# Configuration space through ports

A call that reads configuration space looks at CONFIG_ADDRESS, writes it, and reads a data port.
The bits 30:24 are written back as they were found.  So they are the same after every call of a
run (`ConfigRead.latchAfter_and_reserved`), whatever they were at first, and all other bits are
those of the last address.

The bridge disregards the two low bits of the address, and so a call picks its bytes by the data
port.  They are the bytes of the function from the offset on, rounded down to a multiple of the
width (`ConfigRead.value_eq`).  A map of configuration space moves the lane by the two low bits
instead.  For aligned registers the two are the same (`ConfigRead.value_of_present`).

`Ports.Bridge` is all that is assumed of the machine.  A host bridge alone is such a machine
(`HostBridge.bridge`).
-/

namespace FlashDump.Pci

open FlashDump.Bits

/-! ## Configuration addresses -/

namespace Address

variable (a : Address) (offset : BitVec 8)

theorem getLsbD_configAddress (i : Nat) :
    (a.configAddress offset).getLsbD i
      = (decide (i = 31)
        || (decide (16 ≤ i) && decide (i ≤ 23) && a.bus.getLsbD (i - 16))
        || (decide (11 ≤ i) && decide (i ≤ 15) && a.device.getLsbD (i - 11))
        || (decide (8 ≤ i) && decide (i ≤ 10) && a.function.getLsbD (i - 8))
        || (decide (i ≤ 7) && offset.getLsbD i)) := by
  have wide {low high : Nat} (x : BitVec 8) (short : high < 32) :
      (decide (low ≤ i) && decide (i ≤ high) && (x.setWidth 32).getLsbD (i - low))
        = (decide (low ≤ i) && decide (i ≤ high) && x.getLsbD (i - low)) := by
    by_cases inside : i ≤ high
    · have bit : i - low < 32 := by omega
      rw [BitVec.getLsbD_setWidth, decide_eq_true bit, Bool.true_and]
    · simp [inside]
  simp only [configAddress, field, BitVec.getLsbD_or, getLsbD_flag, Field.getLsbD_place,
    Bool.and_true]
  rw [wide a.bus (by decide), wide a.device (by decide), wide a.function (by decide),
    wide offset (by decide)]
  simp

/-- The reserved bits of an address are clear. -/
theorem configAddress_and_not_reserved :
    a.configAddress offset &&& ~~~PortAccess.reservedMask = a.configAddress offset := by
  apply BitVec.eq_of_getLsbD_eq
  intro i inside
  have kept : ∀ i < 32, (~~~PortAccess.reservedMask).getLsbD i = decide (i = 31 ∨ i ≤ 23) := by
    decide
  rw [BitVec.getLsbD_and, kept i inside]
  by_cases outside : i = 31 ∨ i ≤ 23
  · simp [outside]
  · have h1 : ¬ i = 31 := by omega
    have h2 : ¬ i ≤ 23 := by omega
    have h3 : ¬ i ≤ 15 := by omega
    have h4 : ¬ i ≤ 10 := by omega
    have h5 : ¬ i ≤ 7 := by omega
    simp [getLsbD_configAddress, h1, h2, h3, h4, h5]

theorem configAddress_and_reserved :
    a.configAddress offset &&& PortAccess.reservedMask = 0#32 := by
  rw [← configAddress_and_not_reserved, BitVec.and_assoc, BitVec.and_comm (~~~_),
    BitVec.and_not_self]
  exact BitVec.and_zero

/-- The dword of a register has the address of the register without its two low bits. -/
theorem configAddress_and_not_three :
    a.configAddress offset &&& ~~~3#32 = a.configAddress (offset &&& ~~~3#8) := by
  apply BitVec.eq_of_getLsbD_eq
  intro i inside
  have high : ∀ i < 32, (~~~3#32).getLsbD i = decide (2 ≤ i) := by decide
  have low : ∀ i < 8, (~~~3#8).getLsbD i = decide (2 ≤ i) := by decide
  rw [BitVec.getLsbD_and, high i inside, getLsbD_configAddress, getLsbD_configAddress,
    BitVec.getLsbD_and]
  by_cases lane : 2 ≤ i
  · by_cases byte : i ≤ 7
    · rw [low i (Nat.lt_succ_of_le byte)]
      simp [lane]
    · simp [lane, byte]
  · have below : i < 8 := by omega
    have h1 : ¬ i = 31 := by omega
    have h2 : ¬ 16 ≤ i := by omega
    have h3 : ¬ 11 ≤ i := by omega
    have h4 : ¬ 8 ≤ i := by omega
    rw [low i below]
    simp [lane, h1, h2, h3, h4]

/-- The low byte of an address is the offset. -/
theorem toNat_configAddress_mod : (a.configAddress offset).toNat % 256 = offset.toNat := by
  have same : (a.configAddress offset).setWidth 8 = offset := by
    apply BitVec.eq_of_getLsbD_eq
    intro i inside
    have h1 : ¬ i = 31 := by omega
    have h2 : ¬ 16 ≤ i := by omega
    have h3 : ¬ 11 ≤ i := by omega
    have h4 : ¬ 8 ≤ i := by omega
    have h5 : i ≤ 7 := by omega
    rw [BitVec.getLsbD_setWidth, getLsbD_configAddress]
    simp [inside, h1, h2, h3, h4, h5]
  exact (BitVec.toNat_setWidth 8 _).symm.trans (congrArg BitVec.toNat same)

/-- The two low bits of an address are the place in the dword. -/
theorem toNat_configAddress_and_three :
    (a.configAddress offset &&& 3#32).toNat = offset.toNat % 4 := by
  have low := a.toNat_configAddress_mod offset
  have mask : (a.configAddress offset).toNat &&& (3#32).toNat
      = (a.configAddress offset).toNat % 2 ^ 2 := Nat.and_two_pow_sub_one_eq_mod _ 2
  rw [BitVec.toNat_and, mask]
  omega

/-- The byte of a function at an offset of its configuration space. -/
def byteAt (space : BitVec 32 → BitVec 32) (offset : Nat) : Byte :=
  (space (a.configAddress (.ofNat 8 (offset / 4 * 4)))).extractLsb' (8 * (offset % 4)) 8

end Address

/-! ## Calls -/

/-- A call that reads configuration space. -/
structure ConfigRead where
  width : ConfigWidth
  address : Address
  offset : BitVec 8

namespace ConfigRead

def request (c : ConfigRead) : ConfigWidth × BitVec 32 :=
  (c.width, c.address.configAddress c.offset)

/-- The offset rounded down to a multiple of the width. -/
def start (c : ConfigRead) : Nat := c.offset.toNat / c.width.bytes * c.width.bytes

/-- The bytes from there on, the lowest first. -/
def value (space : BitVec 32 → BitVec 32) (c : ConfigRead) : BitVec c.width.bits :=
  LittleEndian.word c.width.bits
    ((List.range c.width.bytes).map fun i => c.address.byteAt space (c.start + i))

/-- CONFIG_ADDRESS after the call. -/
def latch (old : BitVec 32) (c : ConfigRead) : BitVec 32 :=
  c.address.configAddress c.offset ||| (old &&& PortAccess.reservedMask)

/-- What the call does at the ports. -/
def events (space : BitVec 32 → BitVec 32) (old : BitVec 32) (c : ConfigRead) : List PortEvent :=
  [.input .w32 addressPort old, .output .w32 addressPort (c.latch old),
    .input c.width (dataPort + c.start % 4) (c.value space)]

variable (c : ConfigRead) (space : BitVec 32 → BitVec 32) (old : BitVec 32)

theorem latch_and_reserved :
    c.latch old &&& PortAccess.reservedMask = old &&& PortAccess.reservedMask := by
  rw [latch, BitVec.and_or_distrib_right, Address.configAddress_and_reserved, BitVec.and_assoc,
    BitVec.and_self, BitVec.zero_or]

theorem latch_and_not_reserved :
    c.latch old &&& ~~~PortAccess.reservedMask = c.address.configAddress c.offset := by
  have disjoint : PortAccess.reservedMask &&& ~~~PortAccess.reservedMask = 0#32 :=
    BitVec.and_not_self _
  rw [latch, BitVec.and_or_distrib_right, Address.configAddress_and_not_reserved, BitVec.and_assoc,
    disjoint, BitVec.and_zero, BitVec.or_zero]

theorem latch_and_selected :
    c.latch old &&& 0x80fffffc = c.address.configAddress (c.offset &&& ~~~3#8) := by
  have mask : (0x80fffffc : BitVec 32) = ~~~PortAccess.reservedMask &&& ~~~3#32 := by decide
  rw [mask, ← BitVec.and_assoc, latch_and_not_reserved, Address.configAddress_and_not_three]

/-- The data port is that of the first byte. -/
theorem lanePort_eq :
    PortAccess.lanePort c.width (c.address.configAddress c.offset) = dataPort + c.start % 4 := by
  have low := c.address.toNat_configAddress_mod c.offset
  rw [PortAccess.lanePort, BitVec.toNat_and, BitVec.toNat_setWidth, start]
  congr 1
  generalize (c.address.configAddress c.offset).toNat = n at low
  cases c.width with
  | w8 =>
      have lane : n % 2 ^ 16 &&& (BitVec.ofNat 16 (4 - 1)).toNat = n % 2 ^ 16 % 2 ^ 2 :=
        Nat.and_two_pow_sub_one_eq_mod _ 2
      rw [lane]
      dsimp only [ConfigWidth.bytes]
      omega
  | w16 =>
      have lane : n % 2 ^ 16 &&& (BitVec.ofNat 16 (4 - 2)).toNat
          = ((n % 2 ^ 16).testBit 1).toNat * 2 ^ 1 := Nat.and_two_pow _ 1
      rw [lane, Nat.toNat_testBit]
      dsimp only [ConfigWidth.bytes]
      omega
  | w32 =>
      have lane : n % 2 ^ 16 &&& (BitVec.ofNat 16 (4 - 4)).toNat = 0 := Nat.and_zero _
      rw [lane]
      dsimp only [ConfigWidth.bytes]
      omega

theorem start_add_bytes_le : c.start % 4 + c.width.bytes ≤ 4 := by
  rw [start]
  cases c.width <;> simp only [ConfigWidth.bytes] <;> omega

theorem dword_start {i : Nat} (within : i < c.width.bytes) :
    (c.start + i) / 4 * 4 = c.offset.toNat / 4 * 4 ∧ (c.start + i) % 4 = c.start % 4 + i := by
  rw [start]
  revert within
  cases c.width <;> simp only [ConfigWidth.bytes] <;> omega

/-- All the bytes are of one dword. -/
theorem value_eq :
    c.value space
      = (space (c.address.configAddress (c.offset &&& ~~~3#8)) >>> (8 * (c.start % 4))).setWidth
          c.width.bits := by
  have dword : ∀ offset : BitVec 8, BitVec.ofNat 8 (offset.toNat / 4 * 4) = offset &&& ~~~3#8 := by
    decide
  have byte {i : Nat} (within : i < c.width.bytes) : c.address.byteAt space (c.start + i)
      = (space (c.address.configAddress (c.offset &&& ~~~3#8))).extractLsb'
          (8 * (c.start % 4 + i)) 8 := by
    obtain ⟨same, lane⟩ := c.dword_start within
    rw [Address.byteAt, same, lane, dword]
  apply BitVec.eq_of_getLsbD_eq
  intro i inside
  have within : i / 8 < c.width.bytes := by
    revert inside
    cases c.width <;> simp only [ConfigWidth.bits, ConfigWidth.bytes] <;> omega
  have place : 8 * (c.start % 4 + i / 8) + i % 8 = 8 * (c.start % 4) + i := by omega
  rw [value, LittleEndian.getLsbD_word_range inside within, byte within,
    BitVec.getLsbD_extractLsb', place, decide_eq_true (Nat.mod_lt i (by decide)), Bool.true_and,
    BitVec.getLsbD_setWidth, BitVec.getLsbD_ushiftRight, decide_eq_true inside, Bool.true_and]

end ConfigRead

/-! ## Bridges -/

/-- Two states of the ports with the same CONFIG_ADDRESS and the same configuration space. -/
structure SameBridge {σ : Type} (latch : σ → BitVec 32) (space : σ → BitVec 32 → BitVec 32)
    (s s' : σ) : Prop where
  latch : latch s' = latch s
  space : space s' = space s

/-- A host bridge behind I/O ports.  CONFIG_ADDRESS reads back what was written last, and the data
ports show the bytes of the dword that it selects, with the bits 30:24 and 1:0 disregarded. -/
structure Ports.Bridge {σ : Type} (p : Ports σ) (latch : σ → BitVec 32)
    (space : σ → BitVec 32 → BitVec 32) : Prop where
  read : ∀ s, (p.input .w32 addressPort s).1 = latch s ∧
    SameBridge latch space s (p.input .w32 addressPort s).2
  write : ∀ value s, latch (p.output .w32 addressPort value s) = value ∧
    space (p.output .w32 addressPort value s) = space s
  data : ∀ {width k} s, k + width.bytes ≤ 4 →
    (p.input width (dataPort + k) s).1
        = (space s (latch s &&& 0x80fffffc) >>> (8 * k)).setWidth width.bits ∧
      SameBridge latch space s (p.input width (dataPort + k) s).2

theorem HostBridge.bridge : ports.Bridge latch dword where
  read b := by
    refine ⟨?_, rfl, rfl⟩
    change b.inputValue .w32 addressPort = b.latch
    rw [inputValue, if_pos rfl]
    exact BitVec.setWidth_eq _
  write value b := by
    change (if addressPort = addressPort then { b with latch := value.setWidth 32 } else b).latch
        = value ∧
      (if addressPort = addressPort then { b with latch := value.setWidth 32 } else b).dword
        = b.dword
    rw [if_pos rfl]
    exact ⟨BitVec.setWidth_eq _, rfl⟩
  data {width k} b inside := by
    refine ⟨?_, rfl, rfl⟩
    have few : k < 4 := by
      cases width <;> simp only [ConfigWidth.bytes] at inside <;> omega
    have other : ¬ dataPort + k = addressPort := by
      simp only [dataPort, addressPort]
      omega
    have lane : dataPort ≤ dataPort + k ∧ dataPort + k < dataPort + 4 := by omega
    change b.inputValue width (dataPort + k) = _
    rw [inputValue, if_neg other, if_pos lane, Nat.add_sub_cancel_left]
    rfl

/-! ## Runs -/

section Runs

variable {σ : Type} {p : Ports σ} {latch : σ → BitVec 32} {space : σ → BitVec 32 → BitVec 32}

theorem Ports.recorded_input (p : Ports σ) (width : ConfigWidth) (port : Nat)
    (r : Recorded PortEvent σ) :
    p.recorded.input width port r
      = ((p.input width port r.state).1,
          r.after (p.input width port r.state).2
            [.input width port (p.input width port r.state).1]) := by
  change (_, Recorded.note _ _) = _
  rw [Recorded.note_eq_after]
  rfl

theorem Ports.recorded_output (p : Ports σ) (width : ConfigWidth) (port : Nat)
    (value : BitVec width.bits) (r : Recorded PortEvent σ) :
    p.recorded.output width port value r
      = r.after (p.output width port value r.state) [.output width port value] := by
  change Recorded.note _ _ = _
  rw [Recorded.note_eq_after]
  rfl

/-- One call, in full. -/
theorem Ports.Bridge.read_recorded (bridge : p.Bridge latch space) (c : ConfigRead)
    (r : Recorded PortEvent σ) :
    ∃ s, (PortAccess.reader p.recorded).read c.width (c.address.configAddress c.offset) r
        = (c.value (space r.state), r.after s (c.events (space r.state) (latch r.state))) ∧
      latch s = c.latch (latch r.state) ∧ space s = space r.state := by
  obtain ⟨old, looked⟩ := bridge.read r.state
  obtain ⟨selected, kept⟩ :=
    bridge.write (c.latch (latch r.state)) (p.input .w32 addressPort r.state).2
  obtain ⟨data, same⟩ := bridge.data (p.output .w32 addressPort (c.latch (latch r.state))
    (p.input .w32 addressPort r.state).2) c.start_add_bytes_le
  rw [selected, kept, looked.space, ConfigRead.latch_and_selected, ← c.value_eq] at data
  refine ⟨_, ?_, same.latch.trans selected, same.space.trans (kept.trans looked.space)⟩
  change p.recorded.input c.width (PortAccess.lanePort c.width (c.address.configAddress c.offset))
    (p.recorded.output .w32 addressPort
      (c.address.configAddress c.offset
        ||| ((p.recorded.input .w32 addressPort r).1 &&& PortAccess.reservedMask))
      (p.recorded.input .w32 addressPort r).2) = _
  rw [recorded_input p .w32, old, c.lanePort_eq]
  change p.recorded.input c.width (dataPort + c.start % 4) (p.recorded.output .w32 addressPort
    (c.latch (latch r.state)) _) = _
  rw [recorded_output, recorded_input, Recorded.after_after, Recorded.after_after]
  dsimp only [Recorded.state_after]
  rw [data]
  rfl

/-- CONFIG_ADDRESS after the calls of a list. -/
def ConfigRead.latchAfter (old : BitVec 32) (calls : List ConfigRead) : BitVec 32 :=
  calls.foldl (fun old c => c.latch old) old

/-- What the calls of a list do at the ports. -/
def ConfigRead.trace (space : BitVec 32 → BitVec 32) : BitVec 32 → List ConfigRead → List PortEvent
  | _, [] => []
  | old, c :: rest => c.events space old ++ trace space (c.latch old) rest

theorem ConfigRead.trace_snoc (space : BitVec 32 → BitVec 32) (old : BitVec 32)
    (before : List ConfigRead) (c : ConfigRead) :
    trace space old (before ++ [c])
      = trace space old before ++ c.events space (latchAfter old before) := by
  induction before generalizing old with
  | nil => exact List.append_nil _
  | cons first before ih =>
      rw [List.cons_append, trace, trace, ih, List.append_assoc]
      rfl

theorem ConfigRead.latchAfter_snoc (old : BitVec 32) (before : List ConfigRead) (c : ConfigRead) :
    latchAfter old (before ++ [c]) = c.latch (latchAfter old before) :=
  List.foldl_append

/-- No call changes the reserved bits, and so no run of calls does. -/
theorem ConfigRead.latchAfter_and_reserved (old : BitVec 32) (calls : List ConfigRead) :
    latchAfter old calls &&& PortAccess.reservedMask = old &&& PortAccess.reservedMask := by
  induction calls generalizing old with
  | nil => rfl
  | cons c calls ih => exact (ih _).trans (c.latch_and_reserved old)

theorem Ports.Bridge.readAll_recorded (bridge : p.Bridge latch space) (calls : List ConfigRead)
    (r : Recorded PortEvent σ) :
    ∃ s, PortScript.readAll (PortAccess.reader p.recorded) (calls.map ConfigRead.request) r
        = (calls.map fun c => (c.value (space r.state)).toNat,
            r.after s (ConfigRead.trace (space r.state) (latch r.state) calls)) ∧
      latch s = ConfigRead.latchAfter (latch r.state) calls := by
  induction calls generalizing r with
  | nil => exact ⟨r.state, by rw [ConfigRead.trace, Recorded.after_nil]; rfl, rfl⟩
  | cons c calls ih =>
      obtain ⟨s₁, made, selected, kept⟩ := bridge.read_recorded c r
      obtain ⟨s, ran, ended⟩ := ih (r.after s₁ (c.events (space r.state) (latch r.state)))
      rw [Recorded.state_after, selected, kept, Recorded.after_after] at ran
      rw [Recorded.state_after, selected] at ended
      refine ⟨s, ?_, ended⟩
      rw [List.map_cons, ConfigRead.request, PortScript.readAll, made]
      dsimp only
      rw [ran]
      rfl

/-! ## Every call of every run -/

/-- The values of calls, and the ports after them with all that happened there. -/
def Ports.run (p : Ports σ) (s : σ) (calls : List ConfigRead) :
    List Nat × Recorded PortEvent σ :=
  PortScript.readAll (PortAccess.reader p.recorded) (calls.map ConfigRead.request) (.start true s)

/-- What a call does that is made after others. -/
structure Ports.Selects (p : Ports σ) (latch : σ → BitVec 32) (space : σ → BitVec 32 → BitVec 32)
    (s : σ) (before : List ConfigRead) (c : ConfigRead) : Prop where
  events : (p.run s (before ++ [c])).2.entries.toList
    = (p.run s before).2.entries.toList ++
      [.input .w32 addressPort (latch (p.run s before).2.state),
        .output .w32 addressPort (latch (p.run s (before ++ [c])).2.state),
        .input c.width (dataPort + c.start % 4) (c.value (space s))]
  /-- The bits 30:24 are those from before the run. -/
  reserved : latch (p.run s (before ++ [c])).2.state &&& 0x7f000000 = latch s &&& 0x7f000000
  address : latch (p.run s (before ++ [c])).2.state &&& ~~~0x7f000000
    = c.address.configAddress c.offset

/-- What a run of calls does. -/
structure Ports.ReadsLanes (p : Ports σ) (latch : σ → BitVec 32)
    (space : σ → BitVec 32 → BitVec 32) (s : σ) (calls : List ConfigRead) : Prop where
  values : (p.run s calls).1 = calls.map fun c => (c.value (space s)).toNat
  each : ∀ before c after, calls = before ++ c :: after → p.Selects latch space s before c
  /-- Aligned registers of the LPC bridge read as they do in a map of the same configuration
  space, as far as they are in it. -/
  agrees : ∀ m : ConfigMap,
    (∀ address dword, m.dword address = some dword → space s address = dword) →
    ∀ c ∈ calls, c.address = .lpcBridge → c.offset.toNat % c.width.bytes = 0 →
      (m.dword (ConfigMap.dwordAddress c.offset)).isSome →
        c.value (space s) = m.get c.width (c.address.configAddress c.offset)

theorem Ports.Bridge.selects (bridge : p.Bridge latch space) (s : σ) (before : List ConfigRead)
    (c : ConfigRead) : p.Selects latch space s before c := by
  obtain ⟨t, ran, ended⟩ := bridge.readAll_recorded before (.start true s)
  obtain ⟨t', ran', ended'⟩ := bridge.readAll_recorded (before ++ [c]) (.start true s)
  have run : (p.run s before).2 = _ := congrArg Prod.snd ran
  have run' : (p.run s (before ++ [c])).2 = _ := congrArg Prod.snd ran'
  have next : latch t' = c.latch (latch t) := by
    rw [ended', ConfigRead.latchAfter_snoc, ← ended]
  refine ⟨?_, ?_, ?_⟩
  · have on : (Recorded.start true s : Recorded PortEvent σ).recording = true := rfl
    rw [run, run', Recorded.entries_after _ _ _ on, Recorded.entries_after _ _ _ on,
      ConfigRead.trace_snoc, ← ended, ← List.append_assoc, Recorded.state_after,
      Recorded.state_after, next]
    rfl
  · rw [run', Recorded.state_after, ended']
    exact ConfigRead.latchAfter_and_reserved _ _
  · rw [run', Recorded.state_after, next]
    exact c.latch_and_not_reserved _

/-- For an aligned register the lane of the data port is the lane in the dword. -/
theorem ConfigRead.value_of_present {c : ConfigRead} {space : BitVec 32 → BitVec 32} {m : ConfigMap}
    (same : ∀ address dword, m.dword address = some dword → space address = dword)
    (bridge : c.address = .lpcBridge) (aligned : c.offset.toNat % c.width.bytes = 0)
    (present : (m.dword (ConfigMap.dwordAddress c.offset)).isSome) :
    c.value space = m.get c.width (c.address.configAddress c.offset) := by
  obtain ⟨dword, found⟩ := Option.isSome_iff_exists.1 present
  have whole : c.start = c.offset.toNat := Nat.div_mul_cancel (Nat.dvd_of_mod_eq_zero aligned)
  have place : c.address.configAddress (c.offset &&& ~~~3#8) = ConfigMap.dwordAddress c.offset := by
    rw [bridge]
    rfl
  rw [value_eq, whole, place, same _ _ found, ConfigMap.get, Address.configAddress_and_not_three,
    place, found, Address.toNat_configAddress_and_three]
  rfl

/-- Each call selects its register and leaves the reserved bits as they are, and each value is that
of the aligned bytes at its offset. -/
theorem Ports.Bridge.run_readsLanes (bridge : p.Bridge latch space) (s : σ)
    (calls : List ConfigRead) : p.ReadsLanes latch space s calls where
  values := by
    obtain ⟨t, ran, -⟩ := bridge.readAll_recorded calls (.start true s)
    exact congrArg Prod.fst ran
  each before c _ _ := bridge.selects s before c
  agrees _ same _ _ := ConfigRead.value_of_present same

end Runs

/-- Calls of every width, of which only the first is aligned.  The second names a device and a
function with more bits than count. -/
def unaligned : List ConfigRead :=
  [⟨.w32, .lpcBridge, 0xf0⟩, ⟨.w16, ⟨0x12, 0xff, 0xff⟩, 0x03⟩, ⟨.w8, .lpcBridge, 0x09⟩,
    ⟨.w32, .lpcBridge, 0x03⟩]

/-- A host bridge whose dwords are their own addresses, with all bits set in CONFIG_ADDRESS. -/
def HostBridge.echo : HostBridge := ⟨0xffffffff, id, none, none⟩

theorem Ports.Bridge.run_readsLanes_of_unaligned :
    HostBridge.ports.ReadsLanes HostBridge.latch HostBridge.dword .echo unaligned :=
  HostBridge.bridge.run_readsLanes .echo unaligned

example : (HostBridge.ports.run .echo unaligned).1 = [0x8000f8f0, 0x8012, 0xf8, 0x8000f800] := by
  decide

end FlashDump.Pci
