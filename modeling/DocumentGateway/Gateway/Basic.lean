import DocumentGateway.Access.RateLimit
import DocumentGateway.Gateway.Error
import DocumentGateway.Gateway.Settings
import DocumentGateway.Service.Basic

/-!
# The gateway

A gateway has settings that do not change, counts the requests of every key, and owns
a service. It knows its callers by their keys and lets them act on a collection only if
one of their scopes covers the action.
-/
namespace DocumentGateway

/-- A gateway in a state between two requests. -/
structure Gateway where
  settings : GatewaySettings
  limiter : RateLimiter
  service : Service

/-- Opens a gateway with its service. -/
def GatewaySettings.open (settings : GatewaySettings) (file? : String → Option (FlatTable Stored))
    (ids : IdSupply) : Except GatewayError Gateway :=
  match settings.service.open file? ids with
  | .ok service => .ok { settings, limiter := .empty, service }
  | .error error => .error (.internal ("service setup failed: " ++ error.message))

namespace Gateway

/-- The short name of a key: its first six characters. -/
def keyId (key : String) : String :=
  String.ofList (key.toList.take 6) ++ "…"

/-- The principal that a key belongs to, if the key is known. -/
def principalFor? (settings : GatewaySettings) (key : String) : Option Principal :=
  (settings.scopesFor? key).map fun scopes => ⟨keyId key, scopes⟩

/-- Lets a principal act on a collection. A dot in the name of a database is refused,
since it would make scopes ambiguous. -/
def authorize (settings : GatewaySettings) (principal : Principal) (database collection : String)
    (permission : Permission) : Except GatewayError Unit :=
  if database.toList.contains '.' then
    .error (.badRequest ("database name '" ++ database ++ "' must not contain '.'"))
  else
    let scope := settings.scopeRoot.scope database collection permission
    if principal.hasScope scope then .ok () else .error (.forbidden scope)

end Gateway

end DocumentGateway
