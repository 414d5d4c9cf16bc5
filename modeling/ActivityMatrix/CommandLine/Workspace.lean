import ActivityMatrix.Artifacts
import ActivityMatrix.Console.Output
import ActivityMatrix.Declare.Publication
import ActivityMatrix.Declare.Store
import ActivityMatrix.Matrix.File

/-!
# The workspace of a command

A command prints to a console and reads and writes files. What it printed and wrote before it stops
stays. It stops after it reported a failure, or by a fault that it does not report: then whoever
runs it has to.
-/

namespace ActivityMatrix.CommandLine

open Console

/-- The console and the files. -/
structure Workspace where
  printed : List Printed := []
  tree : FileTree := {}

/-- What the world around a command provides. -/
structure Surroundings where
  environment : List (String × String) := []
  /-- Sends a request to a server. -/
  post : Declare.PublishRequest → Declare.PublishReply := fun _ => .noAnswer

/-- What a command does not report itself. -/
inductive Fault where
  | badSettings
  | unknownLogLevel (name : String)
  | loading (error : Matrix.LoadError)
  | artifacts (error : ArtifactError)
  | writing (error : FileError)
  | markup (error : MarkupError)
  | publishing (error : Declare.PublishError)
  deriving Repr, Inhabited

def Fault.message : Fault → String
  | badSettings => "An environment variable has a value that is refused"
  | unknownLogLevel name => "Unknown level: " ++ Text.quoted name
  | loading error => error.message
  | artifacts error => error.message
  | writing error => error.message
  | markup error => error.message
  | publishing error => error.message

/-- Why a command stops. -/
inductive Stop where
  /-- A failure was reported. -/
  | failed
  /-- A fault was not reported. -/
  | fault (fault : Fault)
  deriving Repr, Inhabited

/-- What a command does. -/
abbrev Action := EStateM Stop Workspace

namespace Action

/-- A value, or a stop for the fault that an error is. -/
def orFault {ε α : Type} (fault : ε → Fault) : Except ε α → Action α
  | .ok value => pure value
  | .error error => throw (.fault (fault error))

/-- Takes a step on the files. What was changed before an error stays changed. -/
def onFiles {α : Type} (step : FileTree.Filing α) : Action α := do
  let workspace ← get
  set { workspace with tree := workspace.tree.after step }
  match step.run workspace.tree with
  | .ok answer _ => return answer
  | .error error _ => throw (.fault (.writing error))

def print (content : Printed) : Action Unit :=
  modify fun workspace => { workspace with printed := workspace.printed ++ [content] }

def printPlain (text : String) : Action Unit :=
  print (.text (shown text))

/-- Prints a marked-up text. -/
def printMarkup (markup : String) : Action Unit := do
  print (.text (← orFault .markup (shownMarkup markup)))

/-- Prints a table with marked-up cells. -/
def printSheet (sheet : Sheet) : Action Unit := do
  print (.sheet (← orFault .markup (shownSheet sheet)))

def settings (around : Surroundings) : Action Settings :=
  match Settings.ofEnvironment? around.environment with
  | some settings => pure settings
  | none => throw (.fault .badSettings)

/-- Starts the log at the level of the settings. -/
def startLog (around : Surroundings) : Action Unit := do
  let settings ← settings around
  if !settings.hasKnownLogLevel then throw (.fault (.unknownLogLevel settings.logLevel))

/-- Reports a failure and stops. -/
def fail {α : Type} (report : List String) : Action α := do
  report.forM printMarkup
  throw .failed

end Action

end ActivityMatrix.CommandLine
