import ActivityMatrix.Path
import ActivityMatrix.Table

/-!
# File trees

Files with their texts and directories, each at its place: the parts that lead to it from the root
or from the working directory, none of which steps up. A path is followed part by part, and every
part but the last one has to lead to a directory. Files are written into directories that are there,
and directories can be made with all directories above them; what stands in the way is reported, and
directories that were made before that stay.

A file is emptied before its new text is encoded. So a text that the encoding of the file cannot take
is refused at the price of the old one.
-/

namespace ActivityMatrix

/-- How the texts of files are encoded: only some characters may have codes. -/
structure Encoding where
  covers : Char → Bool

namespace Encoding

/-- UTF-8 has codes for all characters. It has none for the halves of surrogate pairs, which are no
characters by themselves. -/
def utf8 : Encoding := ⟨fun _ => true⟩

def encodes (encoding : Encoding) (text : String) : Bool :=
  text.toList.all encoding.covers

end Encoding

/-- What a path leads to. -/
inductive FileEntry where
  | file (text : String)
  | directory
  deriving DecidableEq, Repr, Inhabited

/-- Files and directories by their places. -/
structure FileTree where
  /-- The entries in the order in which they were made. -/
  entries : Table Path FileEntry := .empty

/-- Why a file tree refuses a request. -/
inductive FileError where
  | notFound
  /-- There is a file where a directory is to be made. -/
  | alreadyExists
  /-- There is a file where a directory is needed. -/
  | notADirectory
  /-- There is a directory where a file is needed. -/
  | isADirectory
  /-- The path holds the null character. -/
  | nullCharacter
  /-- The text holds a character without a code. -/
  | noCode
  deriving DecidableEq, Repr, Inhabited

namespace FileError

def message : FileError → String
  | notFound => "There is no such file or directory"
  | alreadyExists => "There is a file where a directory is to be made"
  | notADirectory => "There is a file where a directory is needed"
  | isADirectory => "There is a directory where a file is needed"
  | nullCharacter => "embedded null byte"
  | noCode => "The encoding has no code for a character of the text"

/-- Whether it is the files that stand in the way. Otherwise the request itself is at fault. -/
def isObstacle : FileError → Bool
  | nullCharacter | noCode => false
  | _ => true

end FileError

namespace FileTree

/-- What is found at a place. The root, the working directory and what is above it are
directories. -/
def find? (tree : FileTree) (place : Path) : Option FileEntry :=
  if place.parts.all (· == Path.up) then some .directory else tree.entries.find? place

/-- The place that parts lead to from a directory at a place. -/
def follow (tree : FileTree) (place : Path) : List String → Except FileError Path
  | [] => .ok place
  | part :: rest =>
      match tree.find? place with
      | some .directory => tree.follow (place.step part) rest
      | some (.file _) => .error .notADirectory
      | none => .error .notFound

/-- The place that a path leads to. -/
def locate (tree : FileTree) (path : Path) : Except FileError Path :=
  if path.holdsNull then .error .nullCharacter else tree.follow path.origin path.parts

/-- What a path leads to. -/
def entry (tree : FileTree) (path : Path) : Except FileError FileEntry := do
  match tree.find? (← tree.locate path) with
  | some entry => return entry
  | none => throw .notFound

def pathExists (tree : FileTree) (path : Path) : Bool :=
  (tree.entry path).isOk

def isDirectory (tree : FileTree) (path : Path) : Bool :=
  match tree.entry path with
  | .ok .directory => true
  | _ => false

/-- The text of the file that a path leads to. -/
def read (tree : FileTree) (path : Path) : Except FileError String := do
  match ← tree.entry path with
  | .file text => return text
  | .directory => throw .isADirectory

/-- The tree with something at a place. -/
def place (tree : FileTree) (place : Path) (entry : FileEntry) : FileTree :=
  ⟨tree.entries.insert place entry⟩

/-! ## Steps -/

/-- Steps that change a file tree or stop with an error. What was changed before an error stays
changed. -/
abbrev Filing := EStateM FileError FileTree

namespace Filing

/-- The place that a path leads to, or a stop. -/
def locate (path : Path) : Filing Path := do
  match (← get).locate path with
  | .ok place => return place
  | .error error => throw error

/-- Makes a directory at a path, unless there is one. The directory above it has to be there. -/
def makeDirectory (path : Path) : Filing Unit := do
  let place ← locate path
  match (← get).find? place with
  | some .directory => pure ()
  | some (.file _) => throw .alreadyExists
  | none => modify (·.place place .directory)

/-- Makes a directory at the first parts of a path. If something above it is missing, the directory
above it is made first, in the same way. -/
def makeStage (path : Path) : Nat → Filing Unit
  | 0 => makeDirectory (path.first 0)
  | n + 1 => tryCatch (makeDirectory (path.first (n + 1))) fun
      -- only what is missing is made; any other error is the answer
      | .notFound => do
          makeStage path n
          makeDirectory (path.first (n + 1))
      | error => throw error

/-- Makes a directory at a path and at all paths above it. -/
def makeDirectories (path : Path) : Filing Unit :=
  makeStage path path.parts.length

/-- Writes a text at a path, in a directory that has to be there. -/
def write (encoding : Encoding) (path : Path) (text : String) : Filing Unit := do
  let place ← locate path
  match (← get).find? place with
  | some .directory => throw .isADirectory
  | _ =>
      if encoding.encodes text then modify (·.place place (.file text))
      else
        -- the file was opened and emptied before that came out
        modify (·.place place (.file ""))
        throw .noCode

/-- Writes a text at a path, the directories above it being made. -/
def writeWithParents (encoding : Encoding) (path : Path) (text : String) : Filing Unit := do
  makeDirectories path.parent
  write encoding path text

end Filing

/-- The tree that a step leaves, whether it stops or not. -/
def after {α : Type} (tree : FileTree) (step : Filing α) : FileTree :=
  match step.run tree with
  | .ok _ changed => changed
  | .error _ changed => changed

def files (tree : FileTree) : List (Path × String) :=
  tree.entries.entries.filterMap fun (place, entry) =>
    match entry with
    | .file text =>
        if place.isAbsolute || place.parts.head? == some Path.up then none else some (place, text)
    | .directory => none

/-- The tree with the given files in the working directory. -/
def ofFiles (files : List (String × String)) : FileTree :=
  files.foldl (fun tree (name, text) => tree.after (.writeWithParents .utf8 (.ofText name) text)) {}

end FileTree

end ActivityMatrix
