import ActivityMatrix.RelationSets
import ActivityMatrix.Text.LetterCase

/-!
# Gateways

The kinds of gateways of a process diagram and the rule by which a kind is inferred from what is
stated of every two branches: exclusive if all pairs exclude each other, inclusive if some pair is
inclusive and none exclusive, and parallel in every other case.
-/

namespace ActivityMatrix

/-- The kinds of gateways. -/
inductive GatewayKind where
  | exclusive
  | parallel
  | inclusive
  deriving DecidableEq, Repr, Inhabited

namespace GatewayKind

/-- The name of the element that a gateway is written as. -/
def tag : GatewayKind → String
  | exclusive => "exclusiveGateway"
  | parallel => "parallelGateway"
  | inclusive => "inclusiveGateway"

def all : List GatewayKind := [exclusive, parallel, inclusive]

def ofTag? (tag : String) : Option GatewayKind :=
  all.find? (·.tag == tag)

def connective : GatewayKind → String
  | exclusive => "XOR"
  | parallel => "AND"
  | inclusive => "OR"

/-- The label of a gateway that plays a role. -/
def label (kind : GatewayKind) (role : String) : String :=
  kind.connective ++ " " ++ Text.capitalized role

/-- The kind of gateway over branches of which every two are related as listed. -/
def infer (pairs : List (Option PairKind)) : GatewayKind :=
  if pairs.isEmpty then .parallel
  else if pairs.all (· == some .exclusive) then .exclusive
  else if pairs.any (· == some .inclusive) && !pairs.any (· == some .exclusive) then .inclusive
  else .parallel

end GatewayKind

/-- The kind of gateway over the given activities. -/
def RelationSets.gatewayKind (r : RelationSets) (targets : List String) : GatewayKind :=
  .infer (r.pairKinds targets)

end ActivityMatrix
