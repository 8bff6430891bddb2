import DocumentGateway.Access.Scope
import DocumentGateway.Network.Address
import DocumentGateway.Service.Settings
import DocumentGateway.SortedMap
import DocumentGateway.Text.Blank

/-!
# Settings of the gateway

The gateway listens at an address, limits the size and the number of requests, and
knows a set of API keys, each with the scopes it is granted. Its settings hold those of
the service behind it. When no key is given, a development key takes their place, which
is granted every action on every collection.
-/
namespace DocumentGateway

open Config

/-- Settings of the gateway. -/
structure GatewaySettings where
  bindAddress : String := "0.0.0.0"
  port : Nat := 8080
  timeoutSeconds : Nat := 30
  maxBodyMegabytes : Nat := 10
  rateLimit : Nat := 100
  apiKeys : SortedMap String := .empty
  systemName : String := "objgate"
  serviceName : String := "objects"
  enableCors : Bool := true
  logLevel : String := "info"
  metricsEnabled : Bool := true
  service : ServiceSettings := {}

/-- Why settings of the gateway are refused. -/
inductive GatewaySettingsError where
  | improperName (field : String)
  | service (cause : ConfigError)
  deriving DecidableEq, Repr

/-- The wording of a refusal. -/
def GatewaySettingsError.message : GatewaySettingsError → String
  | .improperName field => field ++ " must be non-empty and match [a-zA-Z0-9_.]"
  | .service cause => cause.message

/-- Whether a character may stand in the name of a system or a service. -/
def isScopeNameCharacter (c : Char) : Bool :=
  ('a' ≤ c && c ≤ 'z') || ('A' ≤ c && c ≤ 'Z') || ('0' ≤ c && c ≤ '9') || c = '_' || c = '.'

/-- Whether a text is the name of a system or a service. -/
def isScopeName (name : String) : Bool :=
  !name.isEmpty && name.toList.all isScopeNameCharacter

namespace GatewaySettings

/-- Refuses names that cannot stand in scopes, and settings that the service refuses. -/
def validate (settings : GatewaySettings) : Except GatewaySettingsError Unit :=
  if !isScopeName settings.systemName then .error (.improperName "system_name")
  else if !isScopeName settings.serviceName then .error (.improperName "service_name")
  else settings.service.validate.mapError .service

/-- The names in front of every scope. -/
def scopeRoot (settings : GatewaySettings) : ScopeRoot :=
  ⟨settings.systemName, settings.serviceName⟩

/-- The address to listen at, if the settings make up one. -/
def socketAddress? (settings : GatewaySettings) : Option Network.SocketAddress :=
  Network.SocketAddress.ofText? (settings.bindAddress ++ ":" ++ toString settings.port)

/-- The largest number of bytes in a body. It is counted in 64 bits. -/
def maxBodySize (settings : GatewaySettings) : Nat :=
  settings.maxBodyMegabytes * 1024 * 1024 % Nat.pow 2 64

/-- The words of a text in increasing order, each once. -/
def scopesOfText (text : String) : List String :=
  ((Text.words text.toList).foldl (fun (scopes : SortedMap Unit) word =>
    scopes.insert (String.ofList word) ()) .empty).keys

/-- The scopes granted to a key, in increasing order, if the key is known. -/
def scopesFor? (settings : GatewaySettings) (key : String) : Option (List String) :=
  (settings.apiKeys.get? key).map scopesOfText

/-- The key that is known when no other key is. -/
def developmentKey : String := "objgate-dev-key"

/-- The scopes of the development key: every action, with a star for the database and
one for the collection. -/
def developmentScopes (settings : GatewaySettings) : String :=
  Text.join " " (Permission.all.map (settings.scopeRoot.scope "*" "*"))

/-- The settings with the development key, if they hold no key. -/
def withDevelopmentKey (settings : GatewaySettings) : GatewaySettings :=
  if settings.apiKeys.isEmpty then
    { settings with apiKeys := settings.apiKeys.insert developmentKey settings.developmentScopes }
  else settings

/-! ## Reading and showing -/

/-- The keys with their scopes. Of two entries with one key the last one counts. -/
def readKeys (setting : Setting) : Option (SortedMap String) :=
  setting.namedTexts?.map fun entries =>
    entries.foldl (fun (keys : SortedMap String) entry => keys.insert entry.1 entry.2) .empty

/-- The names of the entries. -/
def entryNames : List String :=
  ["bind_addr", "port", "timeout_secs", "max_body_size_mb", "rate_limit_per_minute", "api_keys",
    "system_name", "service_name", "enable_cors", "log_level", "metrics_enabled", "service"]

/-- The settings of the gateway. Every number has the range of its width in bits. -/
def ofSetting? (setting : Setting) : Option GatewaySettings := do
  let standard : GatewaySettings := {}
  let entries ← setting.entries? entryNames
  let bindAddress ← Entries.read? entries "bind_addr" standard.bindAddress Setting.text?
  let port ← Entries.read? entries "port" standard.port (Setting.natural? (Nat.pow 2 16))
  let timeoutSeconds ←
    Entries.read? entries "timeout_secs" standard.timeoutSeconds (Setting.natural? (Nat.pow 2 64))
  let maxBodyMegabytes ←
    Entries.read? entries "max_body_size_mb" standard.maxBodyMegabytes (Setting.natural? (Nat.pow 2 64))
  let rateLimit ←
    Entries.read? entries "rate_limit_per_minute" standard.rateLimit (Setting.natural? (Nat.pow 2 32))
  let apiKeys ← Entries.read? entries "api_keys" standard.apiKeys readKeys
  let systemName ← Entries.read? entries "system_name" standard.systemName Setting.text?
  let serviceName ← Entries.read? entries "service_name" standard.serviceName Setting.text?
  let enableCors ← Entries.read? entries "enable_cors" standard.enableCors Setting.truth?
  let logLevel ← Entries.read? entries "log_level" standard.logLevel Setting.text?
  let metricsEnabled ←
    Entries.read? entries "metrics_enabled" standard.metricsEnabled Setting.truth?
  let service ← Entries.read? entries "service" standard.service ServiceSettings.ofSetting?
  some { bindAddress, port, timeoutSeconds, maxBodyMegabytes, rateLimit, apiKeys, systemName,
         serviceName, enableCors, logLevel, metricsEnabled, service }

/-- The settings of the gateway as they are shown. -/
def toJson (settings : GatewaySettings) : Json :=
  .object [("bind_addr", .string settings.bindAddress), ("port", Json.ofNat settings.port),
    ("timeout_secs", Json.ofNat settings.timeoutSeconds),
    ("max_body_size_mb", Json.ofNat settings.maxBodyMegabytes),
    ("rate_limit_per_minute", Json.ofNat settings.rateLimit),
    ("api_keys", .object (settings.apiKeys.entries.map fun (key, scopes) => (key, .string scopes))),
    ("system_name", .string settings.systemName), ("service_name", .string settings.serviceName),
    ("enable_cors", .bool settings.enableCors), ("log_level", .string settings.logLevel),
    ("metrics_enabled", .bool settings.metricsEnabled), ("service", settings.service.toJson)]

end GatewaySettings

end DocumentGateway
