import DocumentGateway.Gateway.Basic
import DocumentGateway.Gateway.Loading

/-!
# Starting the gateway

A gateway is started from variables and files: its settings are loaded, its service is
opened, and only then is the address looked at, so that of several faults the one that
is met first is told. What the gateway announces when it starts are the settings that
it answers requests under.
-/
namespace DocumentGateway

/-- Why a gateway cannot start. -/
inductive StartError where
  | settings (cause : LoadError)
  | gateway (cause : GatewayError)
  | address
  deriving DecidableEq, Repr

/-- The wording of a refusal. -/
def StartError.message : StartError → String
  | settings cause => cause.message
  | gateway cause => cause.message
  | address => "invalid socket address syntax"

namespace Gateway

/-- Starts a gateway, with the address that it listens at. -/
def start (environment : Config.Variables) (file? : String → Option String)
    (table? : String → Option (FlatTable Stored)) (ids : IdSupply) :
    Except StartError (Gateway × Network.SocketAddress) := do
  let settings ← (GatewaySettings.load environment file?).mapError .settings
  let gateway ← (settings.open table? ids).mapError .gateway
  match settings.socketAddress? with
  | some address => .ok (gateway, address)
  | none => .error .address

/-- A truth value in words. -/
def truthText (flag : Bool) : String :=
  if flag then "true" else "false"

/-- What is announced when a gateway starts, line by line. -/
def announcement (gateway : Gateway) (address : Network.SocketAddress) : List String :=
  let settings := gateway.settings
  ["Starting objgate server on " ++ address.toText ++ " with "
      ++ toString settings.apiKeys.keys.length ++ " API keys",
    "Timeout: " ++ toString settings.timeoutSeconds ++ "s, Max body: "
      ++ toString settings.maxBodyMegabytes ++ "MB",
    "Rate limit: " ++ toString settings.rateLimit ++ " requests/minute",
    "Scopes: " ++ settings.systemName ++ "." ++ settings.serviceName
      ++ ".<db>.<collection>.<action>, CORS: " ++ truthText settings.enableCors
      ++ ", Metrics: " ++ truthText settings.metricsEnabled]

end Gateway

end DocumentGateway
