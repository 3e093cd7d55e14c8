import ChunkArena.Log.LogError

/-!
The file system as far as log files need it: folders, regular files with their whole text, and the
two devices that swallow and refuse all output. Paths are resolved one name at a time, relative to
the working folder unless they start with a slash, and every name before the last has to be a
folder. There are no links and no permissions.
-/

namespace ChunkArena

abbrev Path := List String

inductive Node
  | folder
  | file (text : String)
  | sink
  | full
  deriving DecidableEq

structure Disk where
  folders : List Path
  files : List (Path × String)

namespace Disk

/-- The folder that relative paths start from. Its own name holds a slash, so no path can spell it:
the files in it are reached by relative paths only. -/
def workingFolder : Path := ["tmp", "/"]

def empty : Disk := ⟨[[], ["dev"], ["tmp"], workingFolder], []⟩

def sinks : List Path := [["dev", "null"], ["dev", "zero"], ["dev", "random"], ["dev", "urandom"]]

def node? (disk : Disk) (path : Path) : Option Node :=
  if path ∈ disk.folders then some .folder
  else if path ∈ sinks then some .sink
  else if path = ["dev", "full"] then some .full
  else (disk.files.lookup path).map .file

/-- The longest name and the shortest path that is too long, in bytes. -/
def nameLimit : Nat := 255
def pathLimit : Nat := 4096

/-- The names of a path; empty between two slashes, before a first and after a last one. -/
def names : List Char → List (List Char)
  | [] => [[]]
  | c :: rest =>
      match c, names rest with
      | '/', later => [] :: later
      | c, [] => [[c]]
      | c, first :: later => (c :: first) :: later

def descend (disk : Disk) (here : Path) (name : String) : Except FileFault Path :=
  if name = "" ∨ name = "." then .ok here
  else if name = ".." then .ok here.dropLast
  else if nameLimit < name.utf8ByteSize then .error .nameTooLong
  else match disk.node? (here ++ [name]) with
    | some .folder => .ok (here ++ [name])
    | some _ => .error .notDirectory
    | none => .error .notFound

def descendAll (disk : Disk) (here : Path) : List String → Except FileFault Path
  | [] => .ok here
  | name :: rest =>
      match disk.descend here name with
      | .ok next => disk.descendAll next rest
      | .error fault => .error fault

def origin (text : String) : Path := if text.startsWith "/" then [] else workingFolder

def parts (text : String) : List String := (names text.toList).map String.ofList

def spellingFault (text : String) : Option FileFault :=
  if '\x00' ∈ text.toList then some .zeroByte
  else if pathLimit ≤ text.utf8ByteSize then some .nameTooLong
  else none

def locate (disk : Disk) (text : String) : Except FileFault Path :=
  match spellingFault text with
  | some fault => .error fault
  | none =>
    if text = "" then .error .notFound else
    -- After a closing slash the last name is the one before the slashes, and must be a folder.
    let (last, front) := match (parts text).reverse.dropWhile (· = "") with
      | [] => ("", [])
      | last :: front => (last, front.reverse)
    match disk.descendAll (origin text) front with
    | .error fault => .error fault
    | .ok here =>
        if text.endsWith "/" ∨ last = "." ∨ last = ".." then .error .isDirectory
        else if nameLimit < last.utf8ByteSize then .error .nameTooLong
        else match disk.node? (here ++ [last]) with
          | some .folder => .error .isDirectory
          | _ => .ok (here ++ [last])

def write (files : List (Path × String)) (path : Path) (text : String) : List (Path × String) :=
  match files with
  | [] => [(path, text)]
  | (other, old) :: rest =>
      if other = path then (path, text) :: rest else (other, old) :: write rest path text

def append (disk : Disk) (name line : String) : Except LogError Disk :=
  match disk.locate name with
  | .error fault => .error (.couldNotOpen name fault)
  | .ok path =>
      match disk.node? path with
      | some .sink => .ok disk
      | some .full => .error (.couldNotWrite name .noSpace)
      | some (.file old) => .ok ⟨disk.folders, write disk.files path (old ++ line)⟩
      | _ => .ok ⟨disk.folders, write disk.files path line⟩

/-- Follows names from a folder on, and creates the folders that are not there. The answer ends with
the folder that is reached. -/
def createAlong (disk : Disk) (here : Path) : List String → Except FileFault (Disk × Path)
  | [] => .ok (disk, here)
  | name :: rest =>
      match disk.descend here name with
      | .ok next => disk.createAlong next rest
      | .error .notFound =>
          createAlong ⟨disk.folders ++ [here ++ [name]], disk.files⟩ (here ++ [name]) rest
      | .error fault => .error fault

/-- The names of a folder to be created: those that are created if they are not there, and those
that have to be there. A closing dot asks for the folder before it, so that name is not created. -/
def folderNames (text : String) : List String × List String :=
  let steps := (parts text).filter (· ≠ "")
  let names := steps.filter (· ≠ ".")
  if steps.getLast? = some "." then (names.dropLast, names.getLast?.toList) else (names, [])

def createFolder (disk : Disk) (text : String) : Except FileFault Disk :=
  match spellingFault text with
  | some fault => .error fault
  | none =>
      let (created, expected) := folderNames text
      match disk.createAlong (origin text) created with
      | .error fault => .error fault
      | .ok (grown, here) =>
          match grown.descendAll here expected with
          | .error fault => .error fault
          | .ok _ => .ok grown

def workingFiles (disk : Disk) : List (String × String) :=
  disk.files.filterMap fun (path, text) =>
    if workingFolder.isPrefixOf path then
      some ("/".intercalate (path.drop workingFolder.length), text)
    else none

theorem lookup_write_same (files : List (Path × String)) (path : Path) (text : String) :
    (write files path text).lookup path = some text := by
  induction files with
  | nil => simp [write]
  | cons entry rest ih =>
    obtain ⟨other, old⟩ := entry
    simp only [write]
    split
    · simp
    · next different =>
      have apart : (path == other) = false := by simpa using Ne.symm different
      rw [List.lookup_cons, apart]
      exact ih

theorem lookup_write_other (files : List (Path × String)) {path other : Path} (text : String)
    (different : other ≠ path) :
    (write files path text).lookup other = files.lookup other := by
  have apart : (other == path) = false := by simpa using different
  induction files with
  | nil => simp [write, List.lookup_cons, apart]
  | cons entry rest ih =>
    obtain ⟨first, old⟩ := entry
    simp only [write]
    split
    · next same => simp [List.lookup_cons, same, apart]
    · simp [List.lookup_cons, ih]

end Disk

end ChunkArena
