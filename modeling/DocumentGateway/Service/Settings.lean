import DocumentGateway.Config.Sections
import DocumentGateway.Store.Name

/-!
# Settings of the object service

One tree of settings describes where documents are kept and how, which collections are
immutable, how search strings are compiled, and how the health of the store is probed.
Settings that can be read may still be refused: the checks below are made in a fixed
order, and the first one that fails gives the error.
-/
namespace DocumentGateway

open Config

/-- Where a store keeps its documents. -/
inductive Location where
  | memory
  | file (path : String)
  deriving DecidableEq, Repr

/-- Settings of the store. -/
structure StoreSettings where
  location : Location := .memory
  compression : Compression := {}
  immutable : ImmutableSet := .empty

/-- Settings of the health probe. A probe that takes longer than one of the limits, in
milliseconds, tells of a slow or a failing store. -/
structure HealthSettings where
  database : String := "_healthcheckdatabase_"
  collection : String := "_healthcheckcollection_"
  degradedAfter : Nat := 1000
  timeout : Nat := 2000
  deriving DecidableEq, Repr

/-- Settings of the service. -/
structure ServiceSettings where
  version : String := "1.0"
  name : Option String := none
  store : StoreSettings := {}
  compiler : Search.Settings := {}
  health : HealthSettings := {}

/-- Why settings are refused. -/
inductive ConfigError where
  | unreadableFile
  | notYaml
  | invalid (reason : String)
  | unsupportedVersion (version : String)
  deriving DecidableEq, Repr

/-- The wording of a refusal. -/
def ConfigError.message : ConfigError → String
  | .unreadableFile => "failed to read config file"
  | .notYaml => "failed to parse YAML"
  | .invalid reason => "validation error: " ++ reason
  | .unsupportedVersion version => "unsupported config version: " ++ version

/-- Refuses a health collection without proper names, and limits out of order. -/
def HealthSettings.validate (settings : HealthSettings) : Except ConfigError Unit :=
  match checkedAddress settings.database settings.collection with
  | .error error => .error (.invalid ("health: " ++ error.message))
  | .ok _ =>
    if settings.degradedAfter < settings.timeout then .ok ()
    else .error (.invalid "health.degraded_after_ms must be below health.timeout_ms")

/-- The versions of the format that are understood. -/
def ServiceSettings.versions : List String :=
  ["1.0", "1"]

/-- Refuses settings that no service can be built from. -/
def ServiceSettings.validate (settings : ServiceSettings) : Except ConfigError Unit := do
  if settings.version ∉ versions then .error (.unsupportedVersion settings.version)
  settings.compiler.validate.mapError fun error => .invalid ("compiler: " ++ error.message)
  settings.store.compression.validate.mapError fun error =>
    .invalid ("store.compression: " ++ error.message)
  settings.health.validate

/-! ## Reading and showing -/

/-- The section that says where documents are kept. Its kind decides whether it has a
path. -/
def Location.ofSetting? (setting : Setting) : Option Location := do
  let (kind, rest) ← setting.kind? "kind"
  match kind with
  | "in_memory" => if rest.isKindOnly then some .memory else none
  | "redb" => do
    let entries ← rest.keptEntries? ["path"]
    (Entries.require? entries "path" Setting.ownText?).map .file
  | _ => none

/-- The location's section as it is shown. -/
def Location.toJson : Location → Json
  | .memory => .object [("kind", .string "in_memory")]
  | .file path => .object [("kind", .string "redb"), ("path", .string path)]

/-- The section of the store. -/
def StoreSettings.ofSetting? (setting : Setting) : Option StoreSettings := do
  let entries ← setting.entries? ["backend", "compression", "immutable_collections"]
  let location ← Entries.read? entries "backend" .memory Location.ofSetting?
  let compression ← Entries.read? entries "compression" {} Compression.ofSetting?
  let immutable ← Entries.read? entries "immutable_collections" .empty ImmutableSet.ofSetting?
  some { location, compression, immutable }

/-- The store's section as it is shown. -/
def StoreSettings.toJson (settings : StoreSettings) : Json :=
  .object [("backend", settings.location.toJson), ("compression", settings.compression.toJson),
    ("immutable_collections", settings.immutable.toJson)]

/-- The section of the health probe. Its limits are natural numbers of 64 bits. -/
def HealthSettings.ofSetting? (setting : Setting) : Option HealthSettings := do
  let entries ← setting.entries? ["database", "collection", "degraded_after_ms", "timeout_ms"]
  let standard : HealthSettings := {}
  let database ← Entries.read? entries "database" standard.database Setting.text?
  let collection ← Entries.read? entries "collection" standard.collection Setting.text?
  let degradedAfter ←
    Entries.read? entries "degraded_after_ms" standard.degradedAfter (Setting.natural? (Nat.pow 2 64))
  let timeout ← Entries.read? entries "timeout_ms" standard.timeout (Setting.natural? (Nat.pow 2 64))
  some { database, collection, degradedAfter, timeout }

/-- The health probe's section as it is shown. -/
def HealthSettings.toJson (settings : HealthSettings) : Json :=
  .object [("database", .string settings.database), ("collection", .string settings.collection),
    ("degraded_after_ms", Json.ofNat settings.degradedAfter),
    ("timeout_ms", Json.ofNat settings.timeout)]

/-- The settings of the service. -/
def ServiceSettings.ofSetting? (setting : Setting) : Option ServiceSettings := do
  let entries ← setting.entries? ["version", "name", "store", "compiler", "health"]
  let version ← Entries.read? entries "version" "1.0" Setting.text?
  let name ← Entries.read? entries "name" none Setting.optionalText?
  let store ← Entries.read? entries "store" {} StoreSettings.ofSetting?
  let compiler ← Entries.read? entries "compiler" {} Search.Settings.ofSetting?
  let health ← Entries.read? entries "health" {} HealthSettings.ofSetting?
  some { version, name, store, compiler, health }

/-- The settings of the service as they are shown. -/
def ServiceSettings.toJson (settings : ServiceSettings) : Json :=
  .object [("version", .string settings.version),
    ("name", match settings.name with
      | some name => .string name
      | none => .null),
    ("store", settings.store.toJson), ("compiler", settings.compiler.toJson),
    ("health", settings.health.toJson)]

end DocumentGateway
