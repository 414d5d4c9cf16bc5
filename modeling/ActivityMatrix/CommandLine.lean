import ActivityMatrix.CommandLine.Command
import ActivityMatrix.CommandLine.Report

/-!
# The command line

What the commands do, and how a command line is run: it is read up to the name of its command, then
the log is started at the level of the settings unless more log output is asked for, then the rest
is read, and then the command does its work.
-/

namespace ActivityMatrix.CommandLine

/-! ## What the commands do -/

namespace Action

/-- The matrix of a file. That there is none is reported when the file is missing or holds nothing
of the right kind. -/
def loadMatrix (path : Path) : Action Matrix := do
  match Matrix.load (← get).tree path with
  | .ok m => return m
  | .error error =>
      match error with
      | .notFound _ | .badJson | .vacant _ | .badMatrix (.notAMapping _)
      | .badMatrix (.rowNotAMapping _) => fail (Report.loadFailure error)
      | _ => throw (.fault (.loading error))

/-- A value that is made from a matrix; a violation is reported. -/
def orReport {α : Type} : Except ArtifactError α → Action α
  | .ok value => pure value
  | .error (.invalid v) => fail (Report.violation v.notice)
  | .error (.synthesis (.cyclic path)) => fail (Report.violation (Violation.cycle path).notice)
  | .error error => throw (.fault (.artifacts error))

/-- Writes a text into a file, with the directories above it, and says so. -/
def write (path : Path) (text : String) : Action Unit := do
  onFiles (.writeWithParents .utf8 path text)
  printMarkup (Report.wrote path)

/-- Writes a text into a file if there is one, and else prints it. -/
def deliver (output : Option Path) (text : String) : Action Unit :=
  match output with
  | some path => write path text
  | none => printPlain text

/-- The activities of a list between commas, without the empty ones; an empty text restricts
nothing. -/
def allowedActivities (listed : Option String) : Option (List String) :=
  match listed with
  | some text =>
      if text.isEmpty then none
      else some (((Text.splitOn ',' text).map Text.strip).filter (· != ""))
  | none => none

/-- Checks a matrix. -/
def validate (path : Path) (activities : Option String) : Action Unit := do
  printMarkup (Report.checking path)
  let m ← loadMatrix path
  let order ← orReport (m.validOrder (allowedActivities activities))
  (Report.valid order).forM printMarkup

/-- Shows the levels of a matrix. -/
def layers (around : Surroundings) (path : Path) : Action Unit := do
  let m ← loadMatrix path
  let relations := RelationSets.ofMatrixWithOrder m (← orReport (m.validOrder none))
  let strategy ← orReport
    ((LevelStrategy.ofName (← settings around).levelStrategy).mapError .badOption)
  let levels ← orReport ((Levels.compute strategy relations.activities relations.chains).mapError
    fun path => .synthesis (.cyclic path))
  printSheet (Report.layers strategy relations levels)

/-- Translates a matrix into a process diagram. -/
def bpmn (around : Surroundings) (path : Path) (output : Option Path) : Action Unit := do
  let settings ← settings around
  let m ← loadMatrix path
  let options ← orReport (settings.synthesisOptions.mapError .badOption)
  let (xml, result) ← orReport (m.toBpmn none options settings.prettyXml)
  deliver output xml
  (Report.diagnostics result.diagnostics).forM printMarkup

/-- Hands a model on to the store and to the server. -/
def handOn (around : Surroundings) (settings : Settings) (model : Declare.Model Document) :
    Action Unit := do
  let store : Declare.Store := ⟨settings.declareStoreDir⟩
  let wasSaved ← onFiles (store.save .utf8 model)
  printMarkup (Report.saved store.path wasSaved)
  let url := settings.declareStoreUrl
  if !url.isEmpty then
    let request ← orFault .publishing (Declare.PublishRequest.ofModel model url)
    let isAccepted ← orFault .publishing (request.isAccepted (around.post request))
    printMarkup (Report.published url isAccepted)

/-- Translates a matrix into a Declare model. -/
def declare (around : Surroundings) (path : Path) (output : Option Path) (save : Bool) :
    Action Unit := do
  let settings ← settings around
  let m ← loadMatrix path
  let model := (← orReport (m.toDeclare none)).ofNames
  deliver output (model.toJson Json.fileLayout)
  if save then handOn around settings model

/-- Writes both artifacts of a matrix, named after its file. -/
def translate (around : Surroundings) (path : Path) (directory : Option Path) : Action Unit := do
  let settings ← settings around
  let m ← loadMatrix path
  let t ← orReport (Artifacts.ofMatrix m none settings none none)
  let (diagram, model) := artifactPaths path (directory.getD settings.outputDir)
  write diagram t.xml
  write model (t.declared.model.ofNames.toJson Json.fileLayout)
  printSheet (Report.summary t)
  (Report.diagnostics t.synthesis.diagnostics).forM printMarkup

/-- Says how the commands are called. -/
def help : Action Unit :=
  printPlain Report.usage

/-- What a command does. -/
def perform (around : Surroundings) : Command → Action Unit
  | .validate path activities => validate path activities
  | .layers path => layers around path
  | .bpmn path output => bpmn around path output
  | .declare path output save => declare around path output save
  | .translate path directory => translate around path directory
  | .showSettings => do printSheet (Report.configuration (← settings around))
  | .help => help

end Action

/-! ## Running a command line -/

/-- How a run ends. -/
inductive Ending where
  | finished
  | misused (error : UsageError)
  | stopped (stop : Stop)
  deriving Repr, Inhabited

namespace Ending

/-- The exit code of a run. -/
def exitCode : Ending → Nat
  | finished => 0
  | misused _ => 2
  | stopped _ => 1

end Ending

/-- Runs a command line up to its end. -/
def runArguments (around : Surroundings) (arguments : List String) :
    EStateM Ending Workspace Unit := do
  let orMisused {α : Type} : Except UsageError α → EStateM Ending Workspace α
    | .ok value => pure value
    | .error error => throw (.misused error)
  match ← orMisused (Invocation.ofArguments? arguments) with
  | none => (Action.help).adaptExcept .stopped
  | some invocation =>
      if !invocation.isVerbose then (Action.startLog around).adaptExcept .stopped
      let command ← orMisused
        (Command.ofArguments (← get).tree invocation.name invocation.arguments)
      (Action.perform around command).adaptExcept .stopped

/-- Runs a command line on files: how it ends, what was printed, and the files afterwards. -/
def run (around : Surroundings) (tree : FileTree) (arguments : List String) :
    Ending × Workspace :=
  match (runArguments around arguments).run { tree } with
  | .ok _ workspace => (.finished, workspace)
  | .error ending workspace => (ending, workspace)

end ActivityMatrix.CommandLine
