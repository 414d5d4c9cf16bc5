import ActivityMatrix.Declare.Model
import ActivityMatrix.FileTree
import ActivityMatrix.Settings

/-!
# The store of Declare models

A place for one model in a file tree: saving puts a model in the place of the one before it, and
loading gives back the last one. When files or directories are in the way of a save, it says so and
leaves the stored model as it was. A path that no system takes, and a model that its encoding cannot
take, are no such obstacles: then the save fails loudly.
-/

namespace ActivityMatrix.Declare

/-- A place for one model below a directory. -/
structure Store where
  base : Path
  deriving DecidableEq, Repr, Inhabited

namespace Store

def path (store : Store) : Path :=
  store.base.below Settings.storePlace

/-- Saves a model in an encoding. The answer says whether it was saved; directories that were made on
the way are kept. -/
def save (store : Store) (encoding : Encoding) (model : Model Document) : FileTree.Filing Bool :=
  tryCatch (do
    .makeDirectories store.path.parent
    .write encoding store.path (model.toJson Json.fileLayout)
    return true) fun error => if error.isObstacle then return false else throw error

/-- Why no model could be loaded. -/
inductive LoadError where
  | unreadable (error : FileError)
  | badText (error : Model.TextError)
  deriving DecidableEq, Repr, Inhabited

/-- The model that was saved last, or nothing when none was. -/
def load (store : Store) (tree : FileTree) : Except LoadError (Option (Model Document)) := do
  if !tree.pathExists store.path then return none
  let text ← (tree.read store.path).mapError .unreadable
  return some (← (Model.ofJson (Text.unifyLineEnds text)).mapError .badText)

end Store

end ActivityMatrix.Declare
