import Segwire.Foundation.HashMap
import Segwire.Foundation.Text

/-!
# Paths, times and what file-system calls answer

A `FileSystem` is the behaviour of the file-system calls during one piece of code:
any call may fail, and nothing relates one answer to another. A `Disk` is a set of
files and directories; `Disk.fileSystem` is the behaviour of a disk without faults.

## Main definitions

* `PathBuf` — an absolute path as its components, with Rust's `extension` and `join`
* `SystemTime`, `unixSeconds` — points in time and their whole-second stamps
* `FileSystem` — answers of the file-system calls
* `Disk` — files and directories, and the fault-free calls on them
* `Disk.createDirAll`, `Disk.write` — the calls that change a disk
-/

namespace Foundation

/-- An absolute path, given by its components. Rust compares paths component-wise. -/
structure PathBuf where
  components : List String
  deriving DecidableEq, Repr

namespace PathBuf

/-- `path.join(name)` -/
def join (dir : PathBuf) (name : String) : PathBuf := ⟨dir.components ++ [name]⟩

/-- `path.display().to_string()` -/
def display (path : PathBuf) : String := "/" ++ String.intercalate "/" path.components

/-- `path.file_name()` -/
def fileName (path : PathBuf) : Option String := path.components.getLast?

/-- `path.parent()` -/
def parent (path : PathBuf) : PathBuf := ⟨path.components.dropLast⟩

/-- The part of a file name after its last dot. A name whose only dot is the first
character has no extension. -/
def nameExtension (name : String) : Option String :=
  match (name.toList.splitOn '.').reverse with
  | [] | [_] | [_, []] => none
  | last :: _ => some (String.ofList last)

/-- `path.extension()` -/
def extension (path : PathBuf) : Option String := path.fileName.bind nameExtension

/-- Paths are ordered by their components. -/
instance : LinearOrder PathBuf :=
  LinearOrder.lift' components fun a b h => by
    cases a
    cases b
    exact congrArg PathBuf.mk h

end PathBuf

/-- `std::time::SystemTime`, in nanoseconds since the Unix epoch. -/
abbrev SystemTime := Int

/-- `std::time::Duration`, in nanoseconds. -/
abbrev Duration := Nat

/-- `Duration::from_secs` -/
def Duration.fromSecs (seconds : Nat) : Duration := seconds * 10 ^ 9

/-- `time.duration_since(UNIX_EPOCH).unwrap_or_default().as_secs()` -/
def unixSeconds (time : SystemTime) : Nat := time.toNat / 10 ^ 9

/-- `std::io::Error` -/
structure IoError where
  message : String
  deriving DecidableEq, Repr

/-- `std::fs::Metadata`, as far as it is read: the modification time, the length in
bytes and the permission bits. -/
structure Metadata where
  modified : Except IoError SystemTime
  len : Nat
  mode : Nat

/-- What the file-system calls answer. -/
structure FileSystem where
  pathExists : PathBuf → Bool
  isFile : PathBuf → Bool
  metadata : PathBuf → Except IoError Metadata
  readToString : PathBuf → Except IoError String
  readDir : PathBuf → Except IoError (List (Except IoError PathBuf))

/-- A file: its contents and its modification time. -/
structure DiskFile where
  content : String
  modified : SystemTime
  deriving DecidableEq, Repr

/-- Files and directories. -/
structure Disk where
  files : HashMap PathBuf DiskFile
  dirs : Finset PathBuf

namespace Disk

/-- The entries of `dir`. -/
def children (disk : Disk) (dir : PathBuf) : Finset PathBuf :=
  (disk.files.keys ∪ disk.dirs).filter fun path => path.parent = dir ∧ path ≠ dir

/-- The calls on a disk that never fail for another reason than a missing file,
listing directories in the order `o`. -/
def fileSystem (disk : Disk) (o : IterOrder PathBuf) : FileSystem where
  pathExists path := decide (path ∈ disk.files) || decide (path ∈ disk.dirs)
  isFile path := decide (path ∈ disk.files)
  metadata path :=
    match disk.files.lookup path with
    | some file => .ok ⟨.ok file.modified, file.content.utf8ByteSize, 0o644⟩
    | none =>
      if path ∈ disk.dirs then .ok ⟨.ok 0, 4096, 0o755⟩ else .error ⟨"No such file or directory"⟩
  readToString path :=
    match disk.files.lookup path with
    | some file => .ok file.content
    | none => .error ⟨"No such file or directory"⟩
  readDir dir :=
    if dir ∈ disk.dirs then .ok ((o.order (disk.children dir)).map .ok)
    else .error ⟨"No such file or directory"⟩

/-- `std::fs::create_dir_all(dir)` -/
def createDirAll (disk : Disk) (dir : PathBuf) : Except IoError Disk :=
  let ancestors := dir.components.inits.map PathBuf.mk
  if dir ∈ disk.files then .error ⟨"File exists"⟩
  else if ancestors.any (· ∈ disk.files) then .error ⟨"Not a directory"⟩
  else .ok { disk with dirs := disk.dirs ∪ ancestors.toFinset }

/-- `std::fs::write(path, content)` at the time `now` -/
def write (disk : Disk) (path : PathBuf) (content : String) (now : SystemTime) :
    Except IoError Disk :=
  if path ∈ disk.dirs then .error ⟨"Is a directory"⟩
  else if path.parent ∉ disk.dirs then .error ⟨"No such file or directory"⟩
  else .ok { disk with files := disk.files.insert path ⟨content, now⟩ }

/-- A file is read back as it was written. -/
theorem readToString_write {disk disk' : Disk} {path : PathBuf} {content : String}
    {now : SystemTime} (h : disk.write path content now = .ok disk') (o : IterOrder PathBuf) :
    (disk'.fileSystem o).readToString path = .ok content := by
  unfold write at h
  split_ifs at h
  obtain rfl := Except.ok.inj h
  unfold fileSystem
  dsimp only
  rw [Finmap.lookup_insert]

end Disk

end Foundation
