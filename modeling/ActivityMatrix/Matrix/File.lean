import ActivityMatrix.FileTree
import ActivityMatrix.Json.Reader
import ActivityMatrix.Matrix.Reading
import ActivityMatrix.Yaml.Reader

/-!
# Matrices in files

A matrix is described by a JSON file, known by the end of its name, or else by a YAML file. A file
that holds nothing describes no matrix.
-/

namespace ActivityMatrix.Matrix

/-- Why no matrix could be loaded. -/
inductive LoadError where
  | notFound (path : Path)
  | unreadable (error : FileError)
  | badJson
  | badYaml
  | vacant (path : Path)
  | badMatrix (error : ReadError)
  deriving Repr, Inhabited

namespace LoadError

def message : LoadError → String
  | notFound path => s!"ARM file not found: {path.text}"
  | unreadable error => error.message
  | badJson => "ARM file is not valid JSON"
  | badYaml => "ARM file is not valid YAML"
  | vacant path => s!"Empty ARM file: {path.text}"
  | badMatrix error => error.message

end LoadError

def jsonSuffix : String := ".json"

/-- The document that a file holds, by the end of its name. -/
def readDocument (path : Path) (text : String) : Except LoadError Document :=
  if path.suffix.toLower == jsonSuffix then
    match Json.read? text with
    | some document => .ok document
    | none => .error .badJson
  else
    match Yaml.read? text with
    | some document => .ok document
    | none => .error .badYaml

def load (tree : FileTree) (path : Path) : Except LoadError Matrix := do
  if !tree.pathExists path then throw (.notFound path)
  let text ← (tree.read path).mapError .unreadable
  let document ← readDocument path (Text.unifyLineEnds text)
  if document.isVacant then throw (.vacant path)
  (ofDocument document).mapError .badMatrix

end ActivityMatrix.Matrix
