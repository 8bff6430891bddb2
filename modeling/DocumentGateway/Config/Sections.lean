import DocumentGateway.Config.Setting
import DocumentGateway.Filter.Selection
import DocumentGateway.Search.Compiler
import DocumentGateway.Store.Codec
import DocumentGateway.Store.Immutable

/-!
# Sections of a configuration

Each part of the program that can be adjusted has a section of its own. Its entries may
be left out, and then the defaults hold; an entry that is there has to be readable. A
section is shown with all its entries, in the order in which it lists them.
-/
namespace DocumentGateway

open Config

/-- The names of the two ways of matching. -/
def Search.Matching.name : Matching → String
  | .anywhere => "unanchored"
  | .whole => "anchored"

/-- The way of matching with the given name. -/
def Search.Matching.ofName? (name : String) : Option Matching :=
  match name with
  | "unanchored" => some .anywhere
  | "anchored" => some .whole
  | _ => none

/-- The section of the search compiler. -/
def Search.Settings.ofSetting? (setting : Setting) : Option Settings := do
  let entries ← setting.entries? ["operator_prefix", "matching"]
  let operatorMark ← Entries.read? entries "operator_prefix" storeMark Setting.text?
  let matching ← Entries.read? entries "matching" .anywhere fun value =>
    value.choice?.bind Matching.ofName?
  some { operatorMark, matching }

/-- The search compiler's section as it is shown. -/
def Search.Settings.toJson (settings : Settings) : Json :=
  .object [("operator_prefix", .string settings.operatorMark),
    ("matching", .string settings.matching.name)]

/-- The names of the codecs. -/
def Codec.name : Codec → String
  | .none => "none"
  | .zstd => "zstd"

/-- The codec with the given name. -/
def Codec.ofName? (name : String) : Option Codec :=
  match name with
  | "none" => some .none
  | "zstd" => some .zstd
  | _ => Option.none

/-- The section of the codec. Its level is an integer of 32 bits. -/
def Compression.ofSetting? (setting : Setting) : Option Compression := do
  let entries ← setting.entries? ["codec", "level"]
  let codec ← Entries.read? entries "codec" .zstd fun value => value.choice?.bind Codec.ofName?
  let level ← Entries.read? entries "level" 3 (Setting.integer? (-(Nat.pow 2 31)) (Nat.pow 2 31 - 1))
  some { codec, level }

/-- The codec's section as it is shown. -/
def Compression.toJson (compression : Compression) : Json :=
  .object [("codec", .string compression.codec.name), ("level", .number (.integer compression.level))]

/-- The immutable collections, written as a list of entries or in the compact form. -/
def ImmutableSet.ofSetting? (setting : Setting) : Option ImmutableSet :=
  match setting.texts? with
  | some entries => (ofList entries).toOption
  | none => setting.ownText?.bind fun text => (ofText text).toOption

/-- The immutable collections as they are shown. -/
def ImmutableSet.toJson (set : ImmutableSet) : Json :=
  .array (set.toList.map .string)

/-- The direction of a sort, by its exact name. -/
def Direction.ofSetting? (setting : Setting) : Option Direction :=
  setting.choice?.bind ofName?

/-- A sort key with its field and, if it is not ascending, its direction. -/
def SortKey.ofSetting? (setting : Setting) : Option SortKey := do
  let entries ← setting.entries? ["field", "direction"]
  let field ← Entries.require? entries "field" Setting.text?
  let direction ← Entries.read? entries "direction" .ascending Direction.ofSetting?
  some { field, direction }

end DocumentGateway
