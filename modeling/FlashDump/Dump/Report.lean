import FlashDump.Chipset.Handle

/-!
# What is printed about a machine

Before it reads the flash the program prints what it finds: the identity of the
chipset, the address of the root complex, the boot straps, and then a `Survey` of the
registers that say which parts of the flash there are and how they are protected.
-/

namespace FlashDump.Dump

open FlashDump.Register

/-- A word as it is printed. -/
def wordText (w : BitVec 32) : String := "0x" ++ Text.hexUpper 8 w.toNat

def line (text : String) : String := text ++ "\n"

/-- What is printed before the privileges are asked for. -/
def acquireText : String := line "Acquiring I/O port read permissions, this may fail..."

/-- What is printed before the identity is read. -/
def identityLabel : String := "Reading chipset LPC device identification: "

def identityText (id : HardwareId) : String := line s!"  {id.text} ({id.revision.toNat})"

/-- What is printed before the root complex is mapped. -/
def mappingText (rcba : Rcba) : String :=
  line (s!"Mapping 16KiB chipset configuration space at RCBA = {wordText rcba.baseAddress}, " ++
    "this may fail...")

def strapsText (gcs : Gcs) : String :=
  line s!"Boot BIOS Straps (BBS): {gcs.bootBiosStraps.text}"

/-- The registers about regions and protection. -/
structure Survey where
  bfpr : Bfpr
  frap : Frap
  regions : List (Freg × ProtectedRange)
  hsfs : Hsfs
  biosCntl : BiosCntl

namespace Survey

variable {σ : Type}

/-- Read the region and the protected range of each index of a list. -/
def readRegions (l : Layout) (m : Mmio σ) :
    List (Fin regionCount) → σ → List (Freg × ProtectedRange) × σ
  | [], s => ([], s)
  | index :: rest, s =>
      let (freg, s) := l.readFreg m index s
      let (pr, s) := l.readPr m index s
      let (regions, s) := readRegions l m rest s
      ((freg, pr) :: regions, s)

def read (c : Chipset) (p : Platform σ) (x : Context σ) : Survey × Context σ :=
  let l := c.layout
  let (bfpr, hardware) := l.readBfpr p.window x.hardware
  let (frap, hardware) := l.readFrap p.window hardware
  let (regions, hardware) := readRegions l p.window (List.finRange regionCount) hardware
  let (hsfs, hardware) := l.readHsfs p.window hardware
  let (biosCntl, x) := c.readBiosCntl p { x with hardware }
  (⟨bfpr, frap, regions, hsfs, biosCntl⟩, x)

def regionText (index : Nat) (r : Freg) : String :=
  line s!"FREG{index}  Base: {wordText r.regionBase}  Limit: {wordText r.regionLimit}"

def rangeText (index : Nat) (r : ProtectedRange) : String :=
  line s!"    PR{index} Write Protection Enable: {Text.bitDigit r.writeProtectionEnable}" ++
    line s!"        Read Protection Enable:  {Text.bitDigit r.readProtectionEnable}" ++
    line s!"        Protected Range Base:    {wordText r.base}  Limit: {wordText r.limit}"

/-- The survey as it is printed. -/
def text (s : Survey) : String :=
  line s!"PRB: {wordText s.bfpr.base}  PRL: {wordText s.bfpr.limit}" ++
    line s!"FRAP: {wordText s.frap.encode}" ++
    String.join (s.regions.mapIdx fun index region => regionText index region.1) ++
    line "BIOS protection mechanisms:" ++
    line ("  HSFS Flash Configuration Lock-Down (FLOCKDN): " ++
      toString (Text.bitDigit s.hsfs.flashConfigurationLockdown)) ++
    line "  BIOS Control Register (BIOS_CNTL):" ++
    line ("    SMM BIOS Write Protect Disable (SMM_BWP):   " ++
      toString (Text.bitDigit s.biosCntl.smmBiosWriteProtectDisable)) ++
    line ("    BIOS Lock Enable (BLE):                     " ++
      toString (Text.bitDigit s.biosCntl.biosLockEnable)) ++
    line ("    BIOS Write Enable (BIOSWE):                 " ++
      toString (Text.bitDigit s.biosCntl.biosWriteEnable)) ++
    line "  Protected Range Registers:" ++
    String.join (s.regions.mapIdx fun index region => rangeText index region.2) ++
    line ("Flash Descriptor Valid (FDV): " ++ toString (Text.bitDigit s.hsfs.flashDescriptorValid))

end Survey

end FlashDump.Dump
