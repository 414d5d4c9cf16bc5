import ActivityMatrix.CommandLine

/-!
The program: runs its command line on the files that it names, prints what is to be printed, and
writes what has changed.
-/

namespace ActivityMatrix.CommandLine

/-- The variables of the environment that the settings are read from. -/
def readEnvironment : IO (List (String × String)) := do
  let names := (({} : Settings).entries).map fun (name, _) =>
    (Settings.variableStart ++ name).toUpper
  names.filterMapM fun name => do
    return (← IO.getEnv name).map fun value => (name, value)

/-- What a path leads to. A directory is known by its not being readable as a file. -/
def probe (path : Path) : IO (Option FileEntry) := do
  try
    return some (.file (← IO.FS.readFile path.text))
  catch
  | .inappropriateType .. => return some .directory
  | _ => return none

/-- The tree with what is found at a path, if all above it is in the tree. -/
def observe (tree : FileTree) (path : Path) : IO FileTree := do
  match tree.locate path with
  | .error _ => return tree
  | .ok place =>
      match tree.find? place with
      | some _ => return tree
      | none => return ((← probe path).map (tree.place place)).getD tree

/-- The files and directories at some paths and above them. -/
def observeAll (paths : List Path) : IO FileTree :=
  (paths.flatMap Path.stages).foldlM observe {}

/-- The paths that a command line names. -/
def pathsOf (environment : List (String × String)) (arguments : List String) : List Path :=
  match Invocation.ofArguments? arguments with
  | .ok (some invocation) =>
      match Command.ofArguments {} invocation.name invocation.arguments with
      | .ok command => command.paths ((Settings.ofEnvironment? environment).getD {})
      | .error _ => []
  | _ => []

/-- Makes a directory or writes a file. -/
def store (place : Path) : FileEntry → IO Unit
  | .directory => IO.FS.createDirAll place.text
  | .file text => IO.FS.writeFile place.text text

/-- Reports how a run ended, and answers its exit code. -/
def conclude (ending : Ending) : IO UInt32 := do
  match ending with
  | .misused error => IO.eprintln s!"{error.message}\n{Report.usage}"
  | .stopped (.fault fault) => IO.eprintln fault.message
  | _ => pure ()
  return ending.exitCode.toUInt32

end ActivityMatrix.CommandLine

open ActivityMatrix CommandLine in
/-- Runs the command line. -/
def main (arguments : List String) : IO UInt32 := do
  let environment ← readEnvironment
  let before ← observeAll (pathsOf environment arguments)
  let (ending, after) := run { environment } before arguments
  for printed in after.printed do
    IO.println printed.asText
  for (place, entry) in after.tree.entries.entries do
    if before.entries.find? place != some entry then store place entry
  conclude ending
