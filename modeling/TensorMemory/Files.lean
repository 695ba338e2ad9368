import TensorMemory.Environment.NativeText
import TensorMemory.Table

/-!
Files that are only ever appended to. A path is walked name by name through a tree that holds a few
directories, among them a scratch directory and the working directory, and two devices: one takes
everything and keeps nothing, the other is always full. Whatever else is in the tree is a file.
-/

namespace TensorMemory

inductive FileError where
  | notFound
  | notADirectory
  | isADirectory
  | nameTooLong
  | storageFull
  | nullCharacter
  deriving DecidableEq, Repr

namespace FileError

def name : FileError → String
  | notFound => "NotFound"
  | notADirectory => "NotADirectory"
  | isADirectory => "IsADirectory"
  | nameTooLong => "InvalidFilename"
  | storageFull => "StorageFull"
  | nullCharacter => "InvalidInput"

def message : FileError → String
  | notFound => "No such file or directory (os error 2)"
  | notADirectory => "Not a directory (os error 20)"
  | isADirectory => "Is a directory (os error 21)"
  | nameTooLong => "File name too long (os error 36)"
  | storageFull => "No space left on device (os error 28)"
  | nullCharacter => "file name contained an unexpected NUL byte"

end FileError

/-- The name of something in a directory. -/
abbrev FileName := Bytes

def FileName.ofString (s : String) : FileName := s.toUTF8.toList

/-- A place in the tree: the names that lead there from the root, the last of them first. -/
abbrev Location := List FileName

/-- The devices that behave as files do. -/
inductive SpecialFile where
  /-- Takes everything and keeps nothing. -/
  | null
  /-- Has no room for anything. -/
  | full
  deriving DecidableEq, Repr

/-- What an opened path writes to. -/
inductive Sink where
  | file (location : Location)
  | special (device : SpecialFile)
  deriving DecidableEq, Repr

/-- What there is at a place. -/
inductive Node where
  | directory
  | special (device : SpecialFile)
  | file (text : String)
  deriving DecidableEq, Repr

/-- The contents of every file there is, by location. -/
structure Files where
  contents : Table Location String

namespace Files

def empty : Files := ⟨.empty⟩

/-- The scratch directory, as paths write it. -/
def scratchName : String := "$TMP"

def scratch : Location := [.ofString scratchName, .ofString "tmp"]

/-- The directory that relative paths start from. -/
def working : Location := [.ofString "work"]

def directories : List Location :=
  [[], scratch, working] ++
    ["dev", "etc", "home", "root", "tmp", "usr", "var"].map fun name => [.ofString name]

def specials : List (Location × SpecialFile) :=
  [([.ofString "null", .ofString "dev"], .null), ([.ofString "full", .ofString "dev"], .full)]

/-- What is at a place, if anything. -/
def node? (files : Files) (location : Location) : Option Node :=
  if location ∈ directories then some .directory
  else
    match specials.find? (·.1 = location) with
    | some (_, device) => some (.special device)
    | none => (files.contents.get? location).map .file

/-- A place that can be looked into: only a directory can. -/
def lookInto (files : Files) (location : Location) : Except FileError Location :=
  match files.node? location with
  | some .directory => .ok location
  | some _ => .error .notADirectory
  | none => .error .notFound

/-- The most bytes that a name in a directory can have. -/
def longestName : Nat := 255

/-- The place that a name leads to from another one. There need not be anything. -/
def step (files : Files) (location : Location) (name : FileName) : Except FileError Location := do
  let directory ← files.lookInto location
  if name = .ofString "." then .ok directory
  else if name = .ofString ".." then .ok directory.tail
  else if longestName < name.length then .error .nameTooLong
  else .ok (name :: directory)

def walk (files : Files) (start : Location) (names : List FileName) : Except FileError Location :=
  names.foldlM files.step start

def separator : UInt8 := 0x2F

/-- The names in a path, in order. Separators in a row count as one. -/
def names (path : Bytes) : List FileName :=
  let pieces := path.foldr (fun b pieces =>
    if b = separator then [] :: pieces else pieces.modifyHead (b :: ·)) [[]]
  pieces.filter (· ≠ [])

/-- The place that a path starts from, and the names to walk from there. -/
def route (path : Bytes) : Location × List FileName :=
  if path.head? = some separator then ([], names path)
  else
    match names path with
    | first :: rest =>
      if first = .ofString scratchName then (scratch, rest) else (working, first :: rest)
    | [] => (working, [])

/-- A separator at the end demands a directory. -/
def demandsDirectory (path : Bytes) : Bool := path.getLast? = some separator

/-- A path has fewer bytes than this. -/
def pathLimit : Nat := 4096

/-- The bytes of a path, unless no path can be like that. -/
def checked (path : NativeText) : Except FileError Bytes :=
  let bytes := path.toBytes
  if path.hasNull then .error .nullCharacter
  else if pathLimit ≤ bytes.length then .error .nameTooLong
  else if bytes = [] then .error .notFound
  else .ok bytes

/-- The place that a path names for writing. There need not be anything, but no directory comes into
being by being written to. -/
def target (files : Files) (path : Bytes) : Except FileError Location :=
  let (start, names) := route path
  match names.getLast? with
  | none => .ok start
  | some last => do
    let parent ← files.walk start names.dropLast
    if demandsDirectory path then
      let _ ← files.lookInto parent
      .error .isADirectory
    else files.step parent last

/-- Opens a path for appending and creates the file if there is none. -/
def openAppend (files : Files) (path : NativeText) : Except FileError (Sink × Files) := do
  let location ← files.target (← checked path)
  match files.node? location with
  | some .directory => .error .isADirectory
  | some (.special device) => .ok (.special device, files)
  | some (.file _) => .ok (.file location, files)
  | none => .ok (.file location, ⟨files.contents.insert location ""⟩)

def append (files : Files) (sink : Sink) (text : String) : Except FileError Files :=
  match sink with
  | .special .full => .error .storageFull
  | .special .null => .ok files
  | .file location =>
    .ok ⟨files.contents.insert location ((files.contents.get? location).getD "" ++ text)⟩

/-- The text of a file. A device has none. -/
def read (files : Files) (path : NativeText) : Except FileError String := do
  let path ← checked path
  let (start, names) := route path
  match files.node? (← files.walk start names) with
  | none => .error .notFound
  | some .directory => .error .isADirectory
  | some (.special _) => if demandsDirectory path then .error .notADirectory else .ok ""
  | some (.file text) => if demandsDirectory path then .error .notADirectory else .ok text

/-- The path of a name in the scratch directory. A name that starts at the root is a path itself. -/
def inScratch (name : String) : NativeText :=
  .text (if name.startsWith "/" then name else scratchName ++ "/" ++ name)

end Files
end TensorMemory
