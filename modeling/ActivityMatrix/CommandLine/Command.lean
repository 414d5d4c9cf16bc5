import ActivityMatrix.CommandLine.Arguments
import ActivityMatrix.FileTree
import ActivityMatrix.Settings

/-!
# Commands

What a user can ask for: to check a matrix, to show its levels, to translate it into a process
diagram, a Declare model or both, and to show the settings. A command line first names the command,
possibly after options for all commands; what follows is read by the rules of that command.
-/

namespace ActivityMatrix.CommandLine

/-- The commands by name. -/
inductive CommandName where
  | validate
  | layers
  | bpmn
  | declare
  | translate
  | config
  deriving DecidableEq, Repr, Inhabited

namespace CommandName

def all : List CommandName := [validate, layers, bpmn, declare, translate, config]

def word : CommandName → String
  | validate => "validate"
  | layers => "layers"
  | bpmn => "bpmn"
  | declare => "declare"
  | translate => "translate"
  | config => "config"

def ofWord? (word : String) : Option CommandName :=
  all.find? (·.word == word)

end CommandName

/-- The files for the process diagram and the Declare model of a matrix, named after its file. -/
def artifactPaths (matrix directory : Path) : Path × Path :=
  (directory.below [matrix.stem ++ ".bpmn"], directory.below [matrix.stem ++ ".declare.json"])

/-- A command with all that it needs. -/
inductive Command where
  /-- Check the matrix of a file, possibly against a list of allowed activities. -/
  | validate (path : Path) (activities : Option String)
  | layers (path : Path)
  | bpmn (path : Path) (output : Option Path)
  /-- Translate a matrix into a Declare model, and possibly hand it on to the store. -/
  | declare (path : Path) (output : Option Path) (save : Bool)
  | translate (path : Path) (directory : Option Path)
  | showSettings
  | help
  deriving DecidableEq, Repr, Inhabited

namespace Command

/-- The files that a command looks at or writes, under settings. -/
def paths (settings : Settings) : Command → List Path
  | validate path _ => [path]
  | layers path => [path]
  | bpmn path output => path :: output.toList
  | declare path output save =>
      path :: output.toList ++ if save then [settings.declareStorePath] else []
  | translate path directory =>
      let (diagram, model) := artifactPaths path (directory.getD settings.outputDir)
      [path, diagram, model]
  | showSettings => []
  | help => []

end Command

/-! ## Options -/

def helpOption : OptionRule := { word := "help" }

def verboseOption : OptionRule := { word := "verbose", letter := some 'v' }

def activitiesOption : OptionRule :=
  { word := "activities", letter := some 'a', hasValue := true }

def outputOption : OptionRule := { word := "output", letter := some 'o', hasValue := true }

def saveOption : OptionRule := { word := "save" }

def directoryOption : OptionRule :=
  { word := "output-dir", letter := some 'd', hasValue := true }

/-- The options that go before every command. -/
def generalOptions : List OptionRule := [verboseOption, helpOption]

/-! ## Reading a command line -/

/-- A command line up to the name of the command. -/
structure Invocation where
  isVerbose : Bool
  name : CommandName
  arguments : List String
  deriving DecidableEq, Repr, Inhabited

namespace Invocation

/-- Reads a command line up to the name of the command; nothing if it asks how commands are
called. -/
def ofArguments? (arguments : List String) : Except UsageError (Option Invocation) := do
  let given ← Arguments.read generalOptions false arguments
  if given.has helpOption.word then return none
  match given.operands with
  | [] => throw .missingCommand
  | word :: rest =>
      match CommandName.ofWord? word with
      | some name => return some ⟨given.has verboseOption.word, name, rest⟩
      | none => throw (.unknownCommand word)

end Invocation

namespace Command

def matrixPath (tree : FileTree) : List String → Except UsageError Path
  | [] => .error .missingOperand
  | [text] =>
      if tree.isDirectory (.ofText text) then .error (.directoryGiven text)
      else .ok (.ofText text)
  | _ :: extra :: _ => .error (.needlessOperand extra)

def showWord : String := "show"

/-- What is asked for about the settings. -/
def ofConfigArguments (arguments : List String) : Except UsageError Command := do
  let given ← Arguments.read [helpOption] false arguments
  if given.has helpOption.word then return .help
  match given.operands with
  | [] => throw .missingCommand
  | word :: rest =>
      if word != showWord then throw (.unknownCommand word)
      let given ← Arguments.read [helpOption] true rest
      if given.has helpOption.word then return .help
      match given.operands with
      | [] => return .showSettings
      | extra :: _ => throw (.needlessOperand extra)

/-- A command on the matrix of a file, read by its options. -/
def ofMatrixArguments (tree : FileTree) (options : List OptionRule) (arguments : List String)
    (build : Arguments → Path → Command) : Except UsageError Command := do
  let given ← Arguments.read (helpOption :: options) true arguments
  if given.has helpOption.word then return .help
  return build given (← matrixPath tree given.operands)

/-- The path that is given last to an option. -/
def givenPath (given : Arguments) (rule : OptionRule) : Option Path :=
  (given.value? rule.word).map Path.ofText

/-- The command of a name, read from its arguments. -/
def ofArguments (tree : FileTree) (name : CommandName) (arguments : List String) :
    Except UsageError Command :=
  match name with
  | .validate => ofMatrixArguments tree [activitiesOption] arguments fun given path =>
      .validate path (given.value? activitiesOption.word)
  | .layers => ofMatrixArguments tree [] arguments fun _ path => .layers path
  | .bpmn => ofMatrixArguments tree [outputOption] arguments fun given path =>
      .bpmn path (givenPath given outputOption)
  | .declare => ofMatrixArguments tree [outputOption, saveOption] arguments fun given path =>
      .declare path (givenPath given outputOption) (given.has saveOption.word)
  | .translate => ofMatrixArguments tree [directoryOption] arguments fun given path =>
      .translate path (givenPath given directoryOption)
  | .config => ofConfigArguments arguments

end Command

end ActivityMatrix.CommandLine
