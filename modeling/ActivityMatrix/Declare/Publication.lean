import ActivityMatrix.Address
import ActivityMatrix.Declare.Model

/-!
# Publication of Declare models

A model is published by posting it to the address of a server with a fixed path behind it. If that
address does not say how and where to find the server, the request goes to its path alone, and an
answer to it cannot be used.
-/

namespace ActivityMatrix.Declare

/-- A request that posts a model. -/
structure PublishRequest where
  address : Address
  body : Document
  deriving Repr, Inhabited

/-- What comes of a request. -/
inductive PublishReply where
  | status (code : Nat)
  | noAnswer
  deriving DecidableEq, Repr, Inhabited

/-- Why a model cannot be published. -/
inductive PublishError where
  | badAddress (error : AddressError)
  /-- There is an answer from an address that does not say its server. -/
  | unknownServer (address : Address)
  deriving DecidableEq, Repr, Inhabited

def PublishError.message : PublishError → String
  | badAddress error => error.message
  | unknownServer address => "unknown url type: " ++ Text.quoted address.text

namespace PublishRequest

/-- The path of the service that takes models. -/
def endpoint : String := "/api/save-declare-model"

/-- The request that posts a model to a server. -/
def ofModel (model : Model Document) (server : String) : Except PublishError PublishRequest := do
  let address ← (Address.ofText? (Text.dropEndWhile (· == '/') server ++ endpoint)).mapError
    .badAddress
  return {
    address := if address.isComplete then address else address.fromRoot
    body := model.toDocument }

/-- Whether the server accepted the model. -/
def isAccepted (request : PublishRequest) : PublishReply → Except PublishError Bool
  | .noAnswer => .ok false
  | .status code =>
      if request.address.isComplete then .ok (200 ≤ code && code < 300)
      else .error (.unknownServer request.address)

end PublishRequest

end ActivityMatrix.Declare
