import DocumentGateway.Service.Settings
import DocumentGateway.Yaml.Node
import DocumentGateway.Yaml.Scalar

/-!
# Settings written in YAML

Every scalar passes for its text, whatever it stands for by itself: a plain `1.0` is the
text `1.0` where text is wanted. A quoted scalar passes for text alone. An empty place
stands for a section without entries, and so does an empty document. A key may be of any
form as long as nothing asks for its name. What is nested deeper than the greatest number
of levels can be passed over and nothing else.
-/
namespace DocumentGateway

open Config

/-- What a scalar passes for. -/
def Yaml.written (isPlain : Bool) (text : String) : Written :=
  if isPlain then
    { ownText := if isOwnText text then some text else none
      text := some text
      integer := integer? text
      natural := (integer? text).bind fun n => if 0 ≤ n then some n.toNat else none
      truth := truth? text
      saysNothing := saysNothing text
      isEmpty := text.isEmpty }
  else { ownText := some text, text := some text }

/-- The greatest number of levels of lists and sections. -/
def Yaml.maxLevels : Nat := 128

namespace Config.Setting

mutual

/-- The settings of a document, where a number of levels may still be opened. -/
def ofNode (levels : Nat) : Yaml.Node → Setting
  | .scalar isPlain text => .value (Yaml.written isPlain text)
  | .list items =>
    if levels = 0 then .value { isTooDeep := true } else .list .never (ofNodes (levels - 1) items)
  | .section entries =>
    if levels = 0 then .value { isTooDeep := true }
    else .section false (ofEntries (levels - 1) entries)

/-- The settings of the items of a list. -/
def ofNodes (levels : Nat) : List Yaml.Node → List Setting
  | [] => []
  | item :: rest => ofNode levels item :: ofNodes levels rest

/-- The settings of the entries of a section. -/
def ofEntries (levels : Nat) : List (Yaml.Node × Yaml.Node) → List (Setting × Setting)
  | [] => []
  | (key, item) :: rest => (ofNode levels key, ofNode levels item) :: ofEntries levels rest

end

/-- The settings of a YAML text. -/
def ofYaml? (text : String) : Option Setting :=
  match Yaml.Node.ofText? text with
  | some (some node) => some (ofNode Yaml.maxLevels node)
  | some none => some (.section false [])
  | none => none

end Config.Setting

/-- Reads and checks the settings of the service from a YAML text. -/
def ServiceSettings.ofYaml (text : String) : Except ConfigError ServiceSettings :=
  match (Setting.ofYaml? text).bind ServiceSettings.ofSetting? with
  | some settings => settings.validate.map fun _ => settings
  | none => .error .notYaml

/-- Reads and checks the settings of the service from the text of a file, which is absent
when there is no such file. -/
def ServiceSettings.ofFile (text : Option String) : Except ConfigError ServiceSettings :=
  match text with
  | some text => ofYaml text
  | none => .error .unreadableFile

end DocumentGateway
