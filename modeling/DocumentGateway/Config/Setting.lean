import DocumentGateway.Json.Basic

/-!
# Settings

A configuration is a tree of settings, wherever it was written. What differs between
sources is only what a written value passes for: an unquoted number of one source may
stand where text is wanted, and the text of another may stand where a number is wanted.
Each value therefore carries everything it passes for, and the readers below ask for
one of these. A reader answers nothing when the setting is of another kind.
-/
namespace DocumentGateway.Config

/-- What one written value passes for. `ownText` is its text when the value is text by
itself, and `text` its text when text is asked for. A number may pass for an integer and
for a natural number. A value may say that there is no value, and an empty value may
stand for a section without entries. Where a source limits how deep lists and sections
are nested, those below the limit are values that pass for nothing. -/
structure Written where
  ownText : Option String := none
  text : Option String := none
  integer : Option Int := none
  natural : Option Nat := none
  truth : Option Bool := none
  saysNothing : Bool := false
  isEmpty : Bool := false
  isTooDeep : Bool := false

/-- Whether a value is text or, if it is an integer, one of 64 bits. -/
def Written.isNarrow (written : Written) : Bool :=
  written.ownText.isSome || written.integer.all fun n => -(Nat.pow 2 63 : Int) ≤ n ∧ n < Nat.pow 2 64

/-- Whether a list may stand for a section, whose entries it then gives in their order.
More items than there are entries are refused by `exactly` and passed over by `atLeast`. -/
inductive ListUse where
  | never
  | exactly
  | atLeast
  deriving DecidableEq, Repr

/-- Whether a list of some items may stand for a section with some number of entries. -/
def ListUse.allows (use : ListUse) (items entries : Nat) : Bool :=
  match use with
  | .never => false
  | .exactly => items ≤ entries
  | .atLeast => true

/-- A setting: one value, a list, or a section. The keys of a section are settings too,
since a source may allow more than text there. In some sources a section with a single
entry may stand for the name of that entry. -/
inductive Setting where
  | value (written : Written)
  | list (use : ListUse) (items : List Setting)
  | section (standsForName : Bool) (entries : List (Setting × Setting))

/-- The entries of a section by name. -/
abbrev Entries := List (String × Setting)

namespace Setting

/-- The setting that is a name. -/
def ofName (name : String) : Setting :=
  .value { ownText := some name, text := some name }

/-- The text of a setting. -/
def text? : Setting → Option String
  | .value written => written.text
  | _ => none

/-- The text of a setting that is text by itself. -/
def ownText? : Setting → Option String
  | .value written => written.ownText
  | _ => none

/-- The integer of a setting, if it lies within bounds. -/
def integer? (lowest highest : Int) : Setting → Option Int
  | .value written => written.integer.filter fun n => lowest ≤ n ∧ n ≤ highest
  | _ => none

/-- The natural number of a setting, if it is below a limit. -/
def natural? (limit : Nat) : Setting → Option Nat
  | .value written => written.natural.filter (· < limit)
  | _ => none

/-- The truth value of a setting. -/
def truth? : Setting → Option Bool
  | .value written => written.truth
  | _ => none

/-- The text of a setting that may also say that there is none. -/
def optionalText? : Setting → Option (Option String)
  | .value written => if written.saysNothing then some none else written.text.map some
  | _ => none

/-- The integer of a setting that may also say that there is none. -/
def optionalInteger? (lowest highest : Int) (setting : Setting) : Option (Option Int) :=
  match setting with
  | .value written =>
    if written.saysNothing then some none else (setting.integer? lowest highest).map some
  | _ => none

/-- The name that a setting chooses among several. -/
def choice? : Setting → Option String
  | .value written => written.ownText
  | .section true [(key, _)] => key.text?
  | _ => none

/-- The entries of a section by name, if every key is the text of a name. -/
def named? (entries : List (Setting × Setting)) : Option Entries :=
  entries.mapM fun (key, entry) => key.text?.map fun name => (name, entry)

/-- The texts of a section, each with its name. -/
def namedTexts? : Setting → Option (List (String × String))
  | .section _ entries => do
    let entries ← named? entries
    entries.mapM fun (name, entry) => entry.text?.map fun text => (name, text)
  | _ => none

/-- The texts of a list. -/
def texts? : Setting → Option (List String)
  | .list _ items => items.mapM ownText?
  | _ => none

/-- Whether a name occurs twice among some names. -/
def repeats (names : List String) (entries : Entries) : Bool :=
  names.any fun name => 1 < entries.countP fun entry => entry.1 = name

/-- The entries of a section with the given entry names, of which none may occur twice.
Entries with other names are passed over. -/
def entries? (names : List String) : Setting → Option Entries
  | .value written => if written.isEmpty then some [] else none
  | .list use items =>
    if use.allows items.length names.length then some (names.zip items) else none
  | .section _ entries => (named? entries).filter fun entries => !repeats names entries

/-! ## Sections of several kinds

A section of this form says by one of its entries of which kind it is, and the kind
decides which other entries it has. It is therefore kept as it is until the kind is
known, whatever its source, and three rules hold for what is kept: integers have 64 bits,
nothing is nested too deep, and a list may stand for the section whose first item is the
kind.
-/

mutual

/-- Whether a setting can be kept until the kind of its section is known. -/
def isKept : Setting → Bool
  | .value written => written.isNarrow && !written.isTooDeep
  | .list _ items => areKept items
  | .section _ entries => entriesAreKept entries

/-- Whether all items of a list can be kept. -/
def areKept : List Setting → Bool
  | [] => true
  | item :: rest => item.isKept && areKept rest

/-- Whether all entries of a section can be kept. -/
def entriesAreKept : List (Setting × Setting) → Bool
  | [] => true
  | (key, entry) :: rest => key.isKept && entry.isKept && entriesAreKept rest

end

/-- The kind of a section, which the entry with the given name says, and what the section
holds besides. -/
def kind? (name : String) : Setting → Option (String × Setting)
  | .list _ (kind :: items) => kind.ownText?.map fun kind => (kind, .list .exactly items)
  | .section _ entries =>
    let (kinds, others) := entries.partition fun entry => entry.1.ownText? = some name
    match kinds with
    | [(_, kind)] =>
      if entriesAreKept others then kind.ownText?.map fun kind => (kind, .section false others)
      else none
    | _ => none
  | _ => none

/-- The name that a kept key stands for, when the section has the given entry names. A
natural number stands for the entry at its place. -/
def keptName? (names : List String) : Setting → Option String
  | .value { ownText := some name, .. } => some name
  | .value { natural := some place, .. } => some (names[place]?.getD "")
  | _ => none

/-- The entries of a section whose kind was found, with the given entry names. -/
def keptEntries? (names : List String) : Setting → Option Entries
  | .section _ entries => do
    let entries ← entries.mapM fun (key, entry) => (keptName? names key).map fun name => (name, entry)
    if repeats names entries then none else some entries
  | setting => setting.entries? names

/-- Whether a section whose kind was found has no entries that count. -/
def isKindOnly : Setting → Bool
  | .list _ items => items.isEmpty
  | _ => true

end Setting

/-- An entry that may be left out. A present entry has to be readable. -/
def Entries.read? {α : Type} (entries : Entries) (name : String) (default : α)
    (reader : Setting → Option α) : Option α :=
  match Keyed.get? name entries with
  | some setting => reader setting
  | none => some default

/-- An entry that must be there. -/
def Entries.require? {α : Type} (entries : Entries) (name : String)
    (reader : Setting → Option α) : Option α :=
  (Keyed.get? name entries).bind reader

/-- Whether the only member of an object is a null. -/
def Setting.holdsOnlyNull : List (String × Json) → Bool
  | [(_, .null)] => true
  | _ => false

mutual

/-- The settings of a JSON value, where every value passes only for what it is. An
object whose only member is null may stand for the name of that member. -/
def Setting.ofJson : Json → Setting
  | .null => .value { saysNothing := true }
  | .bool flag => .value { truth := some flag }
  | .number (.integer n) =>
    .value { integer := some n, natural := if 0 ≤ n then some n.toNat else none }
  | .number (.real _) => .value {}
  | .string text => .value { ownText := some text, text := some text }
  | .array items => .list .exactly (Setting.ofItems items)
  | .object members => .section (holdsOnlyNull members) (Setting.ofMembers members)

/-- The settings of the items of an array. -/
def Setting.ofItems : List Json → List Setting
  | [] => []
  | item :: rest => Setting.ofJson item :: Setting.ofItems rest

/-- The settings of the members of an object. -/
def Setting.ofMembers : List (String × Json) → List (Setting × Setting)
  | [] => []
  | (name, item) :: rest => (.ofName name, Setting.ofJson item) :: Setting.ofMembers rest

end

end DocumentGateway.Config
