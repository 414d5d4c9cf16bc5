import ActivityMatrix.Document
import ActivityMatrix.Text.Quoted

/-!
# Diagnostics of a synthesis

A synthesis never refuses a matrix. Where the diagram gets less structure than was asked for, or a
flow is lost, it says so: one constructor for each way in which that happens.
-/

namespace ActivityMatrix

/-- Something that a synthesis could not do. -/
inductive Diagnostic where
  /-- A split was not opened, since its source has an outgoing flow. -/
  | blockedSplit (source gateway : String)
  /-- The end of a branch lies behind the point where it would be joined. -/
  | behindPoint (exit point : String)
  | cannotFeed (source gateway : String)
  /-- Activities that are left over have no predecessor in common. -/
  | noCommonPredecessor (members : List String)
  /-- Activities could not be put behind an anchor, which is followed by no open gateway. -/
  | noOpenGateway (anchor : String) (members : List String)
  /-- A flow was dropped, since its source has an outgoing flow. -/
  | sourceTaken (source target : String)
  /-- A flow was dropped, since its target leads to its source. -/
  | leadsBack (source target : String)
  /-- A task without an incoming flow was attached to the start event. -/
  | detached (task : String)
  | lostFlow (source target gateway : String)
  deriving DecidableEq, Repr, Inhabited

namespace Diagnostic

def code : Diagnostic → String
  | blockedSplit .. => "BLOCKED_SPLIT"
  | behindPoint .. | cannotFeed .. | lostFlow .. => "BLOCKED_FLOW"
  | noCommonPredecessor .. | noOpenGateway .. => "NO_ANCHOR"
  | sourceTaken .. | leadsBack .. => "UNRESOLVED_FLOW"
  | detached .. => "DETACHED"

def message : Diagnostic → String
  | blockedSplit source gateway =>
      s!"'{source}' already has an outgoing flow; {gateway} not created"
  | behindPoint exit point => s!"'{exit}' lies behind '{point}' and cannot feed its join"
  | cannotFeed source gateway => s!"'{source}' cannot feed {gateway}"
  | noCommonPredecessor members =>
      let shown := Text.quotedList members
      s!"No common predecessor for {shown}; group skipped"
  | noOpenGateway anchor members =>
      let shown := Text.quotedList members
      s!"'{anchor}' is taken and flows into no single-output gateway; {shown} skipped"
  | sourceTaken source target =>
      s!"'{source}' -> '{target}' dropped: '{source}' already has an outgoing flow"
  | leadsBack source target =>
      s!"'{source}' -> '{target}' dropped: '{target}' already leads to '{source}'"
  | detached task => s!"'{task}' had no incoming flow; attached to the start"
  | lostFlow source target gateway => s!"'{source}' -> '{target}' lost while removing {gateway}"

/-- The node that a diagnostic is about. -/
def location : Diagnostic → Option String
  | blockedSplit source _ | cannotFeed source _ | sourceTaken source _ | leadsBack source _ =>
      some source
  | behindPoint exit _ => some exit
  | noCommonPredecessor _ => none
  | noOpenGateway anchor _ => some anchor
  | detached task => some task
  | lostFlow _ _ gateway => some gateway

def toDocument (d : Diagnostic) : Document :=
  .object [("code", .text d.code), ("message", .text d.message),
    ("location", (d.location.map Document.text).getD .null)]

end Diagnostic

end ActivityMatrix
