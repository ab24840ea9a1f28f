import FlashDump.Memory.LittleEndian
import FlashDump.OsError

/-!
# Where the dump goes

A `FileSystem` is what a system has before any file is made: its directories, the files
and the devices in them, and the directories in which only the system makes files.
Devices keep nothing, and may refuse data.  A `Disk` is a file system with the files that
hold bytes.  The working directory has no directories in it.

`Disk.locate` follows a path as a program does that wants to write it.  A path that
ends in a directory is refused as such, and so is one that ends in a slash.  The way
there must lead through directories that exist.  The first thing wrong on the way is
what is reported.

`FileSystem.common` is a file system that is like those of common systems.
-/

namespace FlashDump

inductive Directory where
  /-- A directory of the system, with the names that lead to it from the root. -/
  | standard (names : List String)
  | working
deriving DecidableEq, Repr

def Directory.root : Directory := standard []

/-- Where a file is. -/
structure Place where
  directory : Directory
  name : String
deriving DecidableEq, Repr

/-- What can be written. -/
inductive Target where
  | file (place : Place)
  /-- A device, which keeps nothing.  It may refuse data. -/
  | device (refusal : Option OsError)
deriving DecidableEq, Repr

/-- What a name in a directory stands for.  Every name that is not taken is a file
that may be written. -/
inductive Entry where
  | directory (d : Directory)
  | target (t : Target)

/-! ## File systems -/

/-- What a system has in its directories. -/
structure FileSystem where
  /-- The directory that holds the working directory. -/
  above : Directory
  /-- The names of the directories in a directory of the system. -/
  subdirectories : Directory → List String
  /-- The names of the files in a directory. -/
  files : Directory → List String
  /-- The device with a name in a directory of the system. -/
  device? : Directory → (name : String) → Option Target
  /-- Why no file can be made in a directory. -/
  refusal? : Directory → Option OsError

namespace FileSystem

/-- The directory that holds a directory.  The root holds itself. -/
def parent (fs : FileSystem) : Directory → Directory
  | .standard names => .standard names.dropLast
  | .working => fs.above

/-- The entry of a directory under a name. -/
def entry (fs : FileSystem) (directory : Directory) (name : String) : Entry :=
  if name = "." then .directory directory
  else if name = ".." then .directory (fs.parent directory)
  else
    match directory with
    | .working => .target (.file ⟨directory, name⟩)
    | .standard names =>
        if name ∈ fs.subdirectories directory then .directory (.standard (names ++ [name]))
        else .target ((fs.device? directory name).getD (.file ⟨directory, name⟩))

namespace Common

/-- The names of the directories in a directory.  They are those of the common
hierarchy of file systems. -/
def subdirectories : Directory → List String
  | .standard [] =>
      ["bin", "boot", "dev", "etc", "home", "lib", "lib64", "media", "mnt", "opt", "proc", "root",
        "run", "sbin", "srv", "sys", "tmp", "usr", "var"]
  | .standard ["dev"] => ["fd", "mqueue", "pts", "shm"]
  | .standard ["etc"] => ["alternatives", "apt", "cron.d", "cron.daily", "default", "dpkg", "init.d",
      "ld.so.conf.d", "logrotate.d", "opt", "pam.d", "profile.d", "security", "skel", "ssl",
      "systemd"]
  | .standard ["proc"] => ["1", "bus", "driver", "fs", "irq", "net", "self", "sys", "sysvipc", "tty"]
  | .standard ["run"] => ["lock"]
  | .standard ["sys"] => ["block", "bus", "class", "dev", "devices", "firmware", "fs", "kernel",
      "module", "power"]
  | .standard ["usr"] =>
      ["bin", "games", "include", "lib", "lib64", "libexec", "local", "sbin", "share", "src"]
  | .standard ["usr", "local"] =>
      ["bin", "etc", "games", "include", "lib", "man", "sbin", "share", "src"]
  | .standard ["usr", "share"] => ["doc", "man", "zoneinfo"]
  | .standard ["var"] =>
      ["backups", "cache", "lib", "local", "lock", "log", "mail", "opt", "run", "spool", "tmp"]
  | .standard ["var", "cache"] | .standard ["var", "log"] => ["apt"]
  | .standard ["var", "lib"] => ["apt", "dpkg", "misc"]
  | .standard ["var", "spool"] => ["cron", "mail"]
  | .standard _ | .working => []

/-- The names of the files that are in a directory from the beginning. -/
def files : Directory → List String
  | .standard ["bin"] | .standard ["usr", "bin"] =>
      ["bash", "cat", "env", "false", "ls", "sh", "true"]
  | .standard ["etc"] =>
      ["fstab", "group", "hostname", "hosts", "nsswitch.conf", "os-release", "passwd", "profile",
        "resolv.conf", "shadow"]
  | .standard _ | .working => []

/-- The names of the reports that the system makes up when they are read. -/
def reports : Directory → List String
  | .standard ["proc"] => ["cmdline", "cpuinfo", "iomem", "meminfo", "stat", "uptime", "version"]
  | .standard _ | .working => []

/-- One device takes everything, another has no space. -/
def device? (directory : Directory) (name : String) : Option Target :=
  if directory = .standard ["dev"] ∧ name ∈ ["null", "random", "urandom", "zero"] then
    some (.device none)
  else if directory = .standard ["dev"] ∧ name = "full" then some (.device (some .noSpace))
  else if name ∈ reports directory then some (.device (some .inputOutput))
  else none

/-- What shows the processes does not know of other names, and what shows the hardware is
closed to everyone. -/
def refusal? : Directory → Option OsError
  | .standard ("proc" :: _) | .standard ["dev", "fd"] => some .noEntry
  | .standard ("sys" :: _) | .standard ["dev", "pts"] => some .accessDenied
  | .standard _ | .working => none

end Common

/-- A file system like those of common systems. -/
def common : FileSystem where
  above := .standard ["tmp"]
  subdirectories := Common.subdirectories
  files := Common.files
  device? := Common.device?
  refusal? := Common.refusal?

end FileSystem

/-! ## Disks -/

/-- A file system with the files that hold bytes. -/
structure Disk where
  system : FileSystem
  /-- The content of a file, if it exists. -/
  content : Place → Option (Array Byte)

namespace Disk

/-- There are no files. -/
def empty : Disk := ⟨.common, fun _ => none⟩

def store (d : Disk) (place : Place) (data : Array Byte) : Disk :=
  { d with content := fun p => if p = place then some data else d.content p }

theorem content_store (d : Disk) (place p : Place) (data : Array Byte) :
    (d.store place data).content p = if p = place then some data else d.content p := rfl

/-! ## Paths -/

def maxName : Nat := 255

def maxPath : Nat := 4095

/-- Whether there is something to write to. -/
def exist (d : Disk) : Target → Bool
  | .file place => (d.content place).isSome || decide (place.name ∈ d.system.files place.directory)
  | .device _ => true

/-- Why a target cannot be opened.  What exists can be. -/
def openRefusal? (d : Disk) (target : Target) : Option OsError :=
  match target with
  | .file place => if d.exist target then none else d.system.refusal? place.directory
  | .device _ => none

/-- Follow the names of a path from a directory on. -/
def follow (d : Disk) (slash : Bool) (directory : Directory) : List String → Except OsError Target
  | [] => .error .isDirectory
  | name :: rest =>
      match d.system.entry directory name with
      | .directory inner => d.follow slash inner rest
      | .target target =>
          if rest.isEmpty && slash then .error .isDirectory
          else if maxName < name.utf8ByteSize then .error .nameTooLong
          else if rest.isEmpty then
            match d.openRefusal? target with
            | some cause => .error cause
            | none => .ok target
          else if d.exist target then .error .notDirectory
          else .error .noEntry

def locate (d : Disk) (path : String) : Except OsError Target :=
  if path.isEmpty then .error .noEntry
  else if path.toList.contains '\x00' then .error .nulInPath
  else if maxPath < path.utf8ByteSize then .error .nameTooLong
  else
    let names := (path.toList.splitOn '/').map String.ofList
    let start := if names.head? = some "" then Directory.root else .working
    d.follow (names.getLast? == some "") start (names.filter (· ≠ ""))

/-- The content of the file with a path, if there is one.  A device that takes
everything is empty. -/
def read? (d : Disk) (path : String) : Option (Array Byte) :=
  match d.locate path with
  | .ok (.file place) => d.content place
  | .ok (.device none) => some #[]
  | .ok (.device (some _)) | .error _ => none

/-- Make the file with a path, or empty it. -/
def create (d : Disk) (path : String) : Except OsError (Target × Disk) :=
  match d.locate path with
  | .error e => .error e
  | .ok (.file place) => .ok (.file place, d.store place #[])
  | .ok target => .ok (target, d)

end Disk

def isAbsolute (path : String) : Bool := path.toList.head? == some '/'

end FlashDump
