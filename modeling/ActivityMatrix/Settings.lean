import ActivityMatrix.Document
import ActivityMatrix.Number.Reading
import ActivityMatrix.Path
import ActivityMatrix.Synthesis.Draft
import ActivityMatrix.Table
import ActivityMatrix.Text.LetterCase

/-!
# Settings

What an application is set to, read from environment variables that start with `ARMFLOW_`. A
variable that is not set leaves its default. Truth values are a few words in any case, and a timeout
is a number; anything else is refused. A log level may be any text, but only a few name a level.
-/

namespace ActivityMatrix

/-- What an application is set to. -/
structure Settings where
  outputDir : Path := .ofText "outputs"
  declareStoreDir : Path := .ofText "declareModels"
  /-- The server that Declare models are published to; empty for none. -/
  declareStoreUrl : String := ""
  /-- How many seconds to wait for the server. -/
  httpTimeout : Float64 := .ofDecimal false 10 0
  gatewayGrouping : String := "pairwise"
  levelStrategy : String := "longest_path"
  allowFallbackJoin : Bool := true
  prettyXml : Bool := true
  logLevel : String := "INFO"
  deriving DecidableEq, Repr, Inhabited

namespace Settings

/-- What the names of all variables start with, in lower case. -/
def variableStart : String := "armflow_"

def trueWords : List String := ["1", "true", "t", "yes", "y", "on"]

def falseWords : List String := ["0", "false", "f", "no", "n", "off"]

/-- The truth value of a word, in any case. -/
def truth? (word : String) : Option Bool :=
  let lower := word.toLower
  if trueWords.contains lower then some true
  else if falseWords.contains lower then some false
  else none

/-- The truth value that a scalar stands for: itself, a zero or a one, or a word. -/
def truthOf? : Scalar → Option Bool
  | .text word => truth? word
  | value =>
      if value.same (.integer 0) then some false
      else if value.same (.integer 1) then some true
      else none

/-- The number that a scalar stands for. -/
def numberOf? : Scalar → Option Float64
  | .text word => Float64.ofText? word
  | .float value => some value
  | value => value.whole?.map fun n => .ofDecimal (n < 0) n.natAbs 0

def textOf? : Scalar → Option String
  | .text value => some value
  | _ => none

/-- The settings with a value for the setting of the given name; nothing if the value is refused. A
name that is no setting changes nothing. -/
def set? (settings : Settings) (name : String) (value : Scalar) : Option Settings :=
  match name with
  | "output_dir" => (textOf? value).map ({ settings with outputDir := .ofText · })
  | "declare_store_dir" => (textOf? value).map ({ settings with declareStoreDir := .ofText · })
  | "declare_store_url" => (textOf? value).map ({ settings with declareStoreUrl := · })
  | "http_timeout" => (numberOf? value).map ({ settings with httpTimeout := · })
  | "gateway_grouping" => (textOf? value).map ({ settings with gatewayGrouping := · })
  | "level_strategy" => (textOf? value).map ({ settings with levelStrategy := · })
  | "allow_fallback_join" => (truthOf? value).map ({ settings with allowFallbackJoin := · })
  | "pretty_xml" => (truthOf? value).map ({ settings with prettyXml := · })
  | "log_level" => (textOf? value).map ({ settings with logLevel := · })
  | _ => some settings

/-- The settings with the given values; nothing if a value is refused. -/
def ofEntries? (entries : List (String × Scalar)) : Option Settings :=
  entries.foldlM (fun settings (name, value) => settings.set? name value) {}

/-- The name of the setting that a variable is for, whose name is in lower case. -/
def settingName? (name : String) : Option String :=
  if variableStart.toList.isPrefixOf name.toList then
    some (String.ofList (name.toList.drop variableStart.length))
  else none

/-- The settings of an environment; nothing if a value is refused. Variables whose names differ in
case only are the same, and the last one of them counts. -/
def ofEnvironment? (environment : List (String × String)) : Option Settings :=
  let values := Table.ofList (environment.map fun (name, value) => (Text.lower name, value))
  ofEntries? (values.entries.filterMap fun (name, value) =>
    (settingName? name).map fun setting => (setting, .text value))

def logLevels : List String :=
  ["CRITICAL", "FATAL", "ERROR", "WARN", "WARNING", "INFO", "DEBUG", "NOTSET"]

def hasKnownLogLevel (settings : Settings) : Bool :=
  logLevels.contains settings.logLevel

/-- Where a Declare model is stored below a directory. -/
def storePlace : List String := ["temp", "declareModel.json"]

def declareStorePath (settings : Settings) : Path :=
  settings.declareStoreDir.below storePlace

/-- The options of a synthesis, or what is wrong with a name. -/
def synthesisOptions (settings : Settings) : Except String SynthesisOptions :=
  SynthesisOptions.ofNames settings.gatewayGrouping settings.levelStrategy
    settings.allowFallbackJoin

/-- The settings with their values in words, in the order in which they are shown. -/
def entries (settings : Settings) : List (String × String) :=
  [("gateway_grouping", settings.gatewayGrouping),
   ("level_strategy", settings.levelStrategy),
   ("allow_fallback_join", Scalar.booleanText settings.allowFallbackJoin),
   ("pretty_xml", Scalar.booleanText settings.prettyXml),
   ("output_dir", settings.outputDir.text),
   ("declare_store_dir", settings.declareStoreDir.text),
   ("declare_store_url", settings.declareStoreUrl),
   ("http_timeout", settings.httpTimeout.text),
   ("log_level", settings.logLevel)]

end Settings

end ActivityMatrix
