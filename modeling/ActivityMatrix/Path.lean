import ActivityMatrix.Text.Blank

/-!
# Paths

Paths in a file tree: a list of parts below the root or below the working directory. Empty parts
and parts that stand for the directory itself are left out; parts that stand for the directory above
are kept as they are written. A path from the root starts with a slash, or with exactly two, which
are kept; more than two are one.
-/

namespace ActivityMatrix

/-- Where a path starts. -/
inductive PathStart where
  | here
  | root
  /-- At the root, written with two slashes. -/
  | doubleRoot
  deriving DecidableEq, Repr, Inhabited

namespace PathStart

/-- The start that the slashes in front of a path stand for, by their number. -/
def ofSlashes : Nat → PathStart
  | 0 => here
  | 2 => doubleRoot
  | _ => root

def text : PathStart → String
  | here => ""
  | root => "/"
  | doubleRoot => "//"

end PathStart

/-- The way to a file or a directory. -/
structure Path where
  start : PathStart := .here
  /-- The parts from the outermost one to the last one. -/
  parts : List String := []
  deriving DecidableEq, Repr, Inhabited

namespace Path

def isAbsolute (path : Path) : Bool :=
  path.start != .here

/-- The path that a text describes. -/
def ofText (text : String) : Path where
  start := .ofSlashes (text.toList.takeWhile (· == '/')).length
  parts := (Text.splitOn '/' text).filter fun part => part != "" && part != "."

def text (path : Path) : String :=
  let written := path.start.text ++ "/".intercalate path.parts
  if written.isEmpty then "." else written

/-- The directory that a path starts at. -/
def origin (path : Path) : Path where
  start := if path.isAbsolute then .root else .here

/-- The path below a path. -/
def below (path : Path) (parts : List String) : Path :=
  { path with parts := path.parts ++ parts }

/-- The directory that holds what the path leads to. -/
def parent (path : Path) : Path :=
  { path with parts := path.parts.dropLast }

/-- The last part, empty for a path without parts. -/
def name (path : Path) : String :=
  path.parts.getLast?.getD ""

/-- The last part in two pieces, the second from the last point on. A point at the start or at the
end of the name does not divide it. -/
def nameParts (path : Path) : List Char × List Char :=
  let reversed := path.name.toList.reverse
  let ending := reversed.takeWhile (· != '.')
  match reversed.dropWhile (· != '.') with
  | '.' :: stem =>
      if ending.isEmpty || stem.isEmpty then (path.name.toList, [])
      else (stem.reverse, '.' :: ending.reverse)
  | _ => (path.name.toList, [])

/-- The last part up to its last point. -/
def stem (path : Path) : String :=
  String.ofList path.nameParts.1

/-- The last part from its last point on, or nothing. -/
def suffix (path : Path) : String :=
  String.ofList path.nameParts.2

def up : String := ".."

/-- The path one part further on, where a step up takes back the step before it. Above the root is
the root. -/
def step (path : Path) (part : String) : Path :=
  if part = up then
    match path.parts.getLast? with
    | some last => if last = up then path.below [part] else path.parent
    | none => if path.isAbsolute then path else path.below [part]
  else path.below [part]

/-- Whether a part holds the null character. Names of files and directories end before it, so that no
system takes such a path. -/
def holdsNull (path : Path) : Bool :=
  path.parts.any (·.toList.contains '\x00')

/-- The path up to so many parts. -/
def first (path : Path) (n : Nat) : Path :=
  { path with parts := path.parts.take n }

/-- The paths that lead to the path, from its first part on, the path itself being the last one. -/
def stages (path : Path) : List Path :=
  (List.range path.parts.length).map fun n => path.first (n + 1)

end Path

end ActivityMatrix
