import ShallowTransfer.Build.Directory

/-!
The files a command works with. Commands are written over an interface, so that they run on the
files of a machine as well as on a disk that is a value. On a disk, a path is followed part by part:
every part but the last has to lead into a directory, also one that the next part leaves again.
`read_write` says that what is written is read back.
-/

namespace ShallowTransfer.CommandLine

/-- Access to files by their paths. -/
class Files (m : Type → Type) where
  read : String → m (Except FileError Bytes)
  write : String → Bytes → m (Except FileError Unit)
  makeDirectory : String → m (Except FileError Unit)

/-- A place in the tree of directories: the names on the way to it, the last one first. -/
abbrev Location := List String

/-- A disk: its files, its directories other than the root, and the working directory. -/
structure Disk where
  files : OrderedMap Location Bytes
  directories : List Location
  home : Location

/-- How many bytes the name of a file may have. -/
def longestName : Nat := 255

/-- How many bytes a path may have. -/
def longestPath : Nat := 4095

/-- The parts of a path, which stand between its slashes. -/
def partsOf (path : String) : Except FileError (List String) :=
  if path = "" then .error .notFound
  else if longestPath < path.utf8ByteSize then .error .invalidName
  else .ok ((Build.splitAt '/' path.toList).map String.ofList)

/-- Whether a part stays in the directory it is met in. -/
def stays (part : String) : Bool :=
  part = "" || part = "."

/-- The parts of a path that name the directories to make. A dot at the end asks for a directory
that is there, so the name in front of it is not among them. -/
def partsToMake (parts : List String) : List String :=
  let names := parts.filter fun part => !stays part
  if (parts.filter fun part => part ≠ "").getLast? = some "." then names.dropLast else names

namespace Disk

/-- Whether there is a directory at a place. -/
def isDirectory (d : Disk) (l : Location) : Bool :=
  l.isEmpty || d.directories.contains l

/-- One more directory. -/
def addDirectory (d : Disk) (l : Location) : Disk :=
  { d with directories := l :: d.directories }

/-- Where a part of a path leads from a directory, if that is a directory again. -/
def step (d : Disk) (here : Location) (part : String) : Except FileError Location :=
  if stays part then .ok here
  else if part = ".." then .ok here.tail
  else if longestName < part.utf8ByteSize then .error .invalidName
  else if d.isDirectory (part :: here) then .ok (part :: here)
  else if (d.files.get? (part :: here)).isSome then .error .notADirectory
  else .error .notFound

/-- Where parts of a path lead from a directory, through directories only. -/
def walk (d : Disk) : Location → List String → Except FileError Location
  | here, [] => .ok here
  | here, part :: rest =>
    match d.step here part with
    | .ok there => walk d there rest
    | .error e => .error e

/-- Where a path begins: at the root, if it has a slash in front, or in the working directory. -/
def start (d : Disk) (parts : List String) : Location :=
  if parts.head? = some "" then [] else d.home

/-- The place of the file that a path names. -/
def place (d : Disk) (path : String) : Except FileError Location :=
  match partsOf path with
  | .error e => .error e
  | .ok parts =>
    match d.walk (d.start parts) parts.dropLast with
    | .error e => .error e
    | .ok here =>
      let name := parts.getLast?.getD ""
      if stays name || name = ".." then .error .isADirectory
      else if longestName < name.utf8ByteSize then .error .invalidName
      else if d.isDirectory (name :: here) then .error .isADirectory
      else .ok (name :: here)

/-- Reads a file. -/
def read (d : Disk) (path : String) : Except FileError Bytes :=
  match d.place path with
  | .error e => .error e
  | .ok l =>
    match d.files.get? l with
    | some bytes => .ok bytes
    | none => .error .notFound

/-- Writes a file into a directory that is there. -/
def write (d : Disk) (path : String) (bytes : Bytes) : Except FileError Disk :=
  match d.place path with
  | .error e => .error e
  | .ok l => .ok { d with files := d.files.insert l bytes }

/-- Makes the directories on a way that are missing. What is made before a part that cannot be
followed stays. -/
def makeWay (d : Disk) (here : Location) : List String → Except FileError Unit × Disk
  | [] => (.ok (), d)
  | part :: rest =>
    match d.step here part with
    | .ok there => makeWay d there rest
    | .error .notFound => makeWay (d.addDirectory (part :: here)) (part :: here) rest
    | .error e => (.error e, d)

/-- Makes a directory and those on the way to it. For the empty path there is nothing to make. -/
def makeDirectory (d : Disk) (path : String) : Except FileError Unit × Disk :=
  if path = "" then (.ok (), d)
  else
    match partsOf path with
    | .error e => (.error e, d)
    | .ok parts =>
      match d.makeWay (d.start parts) (partsToMake parts) with
      | (.error e, d') => (.error e, d')
      | (.ok (), d') => ((d'.walk (d.start parts) parts).map fun _ => (), d')

/-- A step into a directory does not depend on the files. -/
theorem step_of_files {d : Disk} {here there : Location} {part : String}
    (h : d.step here part = .ok there) (files : OrderedMap Location Bytes) :
    { d with files := files }.step here part = .ok there := by
  simp only [step, isDirectory] at h ⊢
  grind

/-- A walk through directories does not depend on the files. -/
theorem walk_of_files {d : Disk} (files : OrderedMap Location Bytes) :
    ∀ (parts : List String) {here there : Location}, d.walk here parts = .ok there →
      { d with files := files }.walk here parts = .ok there
  | [], _, _, h => h
  | part :: rest, here, there, h => by
    unfold walk at h ⊢
    split at h
    · next next hs =>
      rw [step_of_files hs files]
      exact walk_of_files files rest h
    · contradiction

/-- The place that a path names does not depend on the files. -/
theorem place_of_files {d : Disk} {path : String} {l : Location} (h : d.place path = .ok l)
    (files : OrderedMap Location Bytes) : { d with files := files }.place path = .ok l := by
  simp only [place] at h ⊢
  split at h
  · contradiction
  · next parts _ =>
    split at h
    · contradiction
    · next here hw =>
      rw [show Disk.start { d with files := files } parts = d.start parts from rfl,
        walk_of_files files _ hw]
      exact h

/-- What is written is read back. -/
theorem read_write {d d' : Disk} {path : String} {bytes : Bytes}
    (h : d.write path bytes = .ok d') : d'.read path = .ok bytes := by
  simp only [write] at h
  split at h
  · contradiction
  · next l hl =>
    obtain rfl := Except.ok.inj h
    simp [read, place_of_files hl, OrderedMap.get?_insert]

/-- Keeps the disk as it is if a change to it fails. -/
def change (f : Disk → Except FileError Disk) : StateM Disk (Except FileError Unit) := do
  match f (← get) with
  | .ok d =>
    set d
    return .ok ()
  | .error e => return .error e

end Disk

instance : Files (StateM Disk) where
  read path := do return (← get).read path
  write path bytes := Disk.change fun d => d.write path bytes
  makeDirectory path := modifyGet fun d => d.makeDirectory path

end ShallowTransfer.CommandLine
