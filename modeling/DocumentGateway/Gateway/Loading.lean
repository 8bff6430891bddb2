import DocumentGateway.Config.Layers
import DocumentGateway.Gateway.Settings

/-!
# Loading the settings of the gateway

The settings come from a file in the working directory and, over it, from environment
variables whose names start with the gateway's prefix. An environment file may set
further variables before they are looked at. When the settings hold no key they get the
development key, and then they are checked.
-/
namespace DocumentGateway

open Config

/-- Why settings cannot be loaded. -/
inductive LoadError where
  | unreadable
  | invalid (cause : GatewaySettingsError)
  deriving DecidableEq, Repr

/-- The wording of a refusal. -/
def LoadError.message : LoadError → String
  | .unreadable => "the settings cannot be read"
  | .invalid cause => cause.message

namespace GatewaySettings

/-- The start of the names of variables that hold settings, in lower case. -/
def variablePrefix : String := "objgate_server__"

/-- The settings files in the order in which they are looked for. The first one that is
there counts. -/
def fileNames : List (String × FileFormat) :=
  [("server.json", .json), ("server.yaml", .yaml), ("server.yml", .yaml)]

/-- The name of a settings file without the ending that tells its format. A file of this
very name has no format: it is passed over, and no other file is looked for. -/
def bareFileName : String := "server"

/-- The name of the environment file. -/
def environmentFileName : String := ".env"

/-- The layer of the settings file, which is empty if there is no such file. The texts
of files are found by their names. -/
def fileLayer (file? : String → Option String) : Option (List (String × Json)) :=
  if (file? bareFileName).isSome then some []
  else
    match fileNames.findSome? fun (name, format) => (file? name).map fun text => (format, text) with
    | some (format, text) => format.read? text
    | none => some []

/-- The variables with those of the environment file. -/
def allVariables (environment : Variables) (file? : String → Option String) : Variables :=
  match file? environmentFileName with
  | some text => environment.withFile text
  | none => environment

/-- The settings that the file and the variables make up, if they can be read. -/
def readLayers? (environment : Variables) (file? : String → Option String) :
    Option GatewaySettings := do
  let layer ← fileLayer file?
  let tree := addLayer (addLayer (.object []) layer)
    (variableLayer variablePrefix (allVariables environment file?))
  ofSetting? (.ofLayers tree)

/-- Loads the settings from variables and files. -/
def load (environment : Variables) (file? : String → Option String) :
    Except LoadError GatewaySettings :=
  match readLayers? environment file? with
  | none => .error .unreadable
  | some settings =>
    let settings := settings.withDevelopmentKey
    match settings.validate with
    | .ok _ => .ok settings
    | .error cause => .error (.invalid cause)

end GatewaySettings

end DocumentGateway
