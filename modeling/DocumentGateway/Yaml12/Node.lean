import DocumentGateway.Yaml12.Token
import DocumentGateway.Yaml12.Value

/-!
# Documents of YAML 1.2

A document is a scalar, a list, or a section of keys with values. Both blocks and
brackets give the same lists and sections, and where a node is left out there is nothing.
A node may be given a name by an anchor, and an alias later stands for the same value.
A text holds at most one document.
-/
namespace DocumentGateway.Yaml12

/-- The named nodes: the number that each name stands for, with the latest first, and the
values of the nodes that are complete. -/
structure Anchors where
  numbers : List (String × Nat) := []
  values : List (Nat × Value) := []

/-- Gives a name to a node that is about to be read. Answers its number. -/
def Anchors.register (anchors : Anchors) (name : String) : Nat × Anchors :=
  let number := anchors.numbers.length
  (number, { anchors with numbers := (name, number) :: anchors.numbers })

/-- Notes the value of a named node. -/
def Anchors.complete (anchors : Anchors) (number : Option Nat) (value : Value) : Anchors :=
  match number with
  | some number => { anchors with values := (number, value) :: anchors.values }
  | none => anchors

/-- The value of the node with a name. A node that is not complete has none yet. -/
def Anchors.value? (anchors : Anchors) (name : String) : Option Value :=
  (anchors.numbers.lookup name).map fun number => (anchors.values.lookup number).getD .outOfKind

/-- The handles of tags that a directive has declared, with what they stand for. -/
abbrev Handles := List (String × String)

/-- The tag that a written tag stands for. A named handle has to be declared. -/
def Handles.resolve? (handles : Handles) (tag : WrittenTag) : Option Tag :=
  match handles.lookup tag.handle with
  | some space => some ⟨space, tag.suffix⟩
  | none =>
    if tag.handle = "!!" then some ⟨Tag.coreSpace, tag.suffix⟩
    else if isNamedHandle tag.handle.toList then none
    else some ⟨tag.handle, tag.suffix⟩

/-- What stands in front of a node: its tag and the number of its name. -/
structure Properties where
  tag : Option Tag := none
  number : Option Nat := none

/-- Whether anything stands in front of the node. -/
def Properties.isPresent (properties : Properties) : Bool :=
  properties.tag.isSome || properties.number.isSome

/-- Reads what stands in front of a node: an anchor, a tag, or both in any order. -/
def readProperties (handles : Handles) (anchors : Anchors) (tokens : List Token) :
    Option (Properties × Anchors × List Token) :=
  match tokens with
  | .anchor name :: .tag tag :: rest => do
    let (number, anchors) := anchors.register name
    some (⟨some (← handles.resolve? tag), some number⟩, anchors, rest)
  | .anchor name :: rest =>
    let (number, anchors) := anchors.register name
    some (⟨none, some number⟩, anchors, rest)
  | .tag tag :: .anchor name :: rest => do
    let (number, anchors) := anchors.register name
    some (⟨some (← handles.resolve? tag), some number⟩, anchors, rest)
  | .tag tag :: rest => do some (⟨some (← handles.resolve? tag), none⟩, anchors, rest)
  | tokens => some ({}, anchors, tokens)

/-- Whether a token ends the place of a key or a value within a block. -/
def endsBlockValue : List Token → Bool
  | .key :: _ => true
  | .value :: _ => true
  | .blockEnd :: _ => true
  | _ => false

/-- Whether a token ends the place of an item of a list within a block. -/
def endsBlockItem : List Token → Bool
  | .blockEntry :: _ => true
  | .blockEnd :: _ => true
  | _ => false

/-- Whether a token ends the place of an item of a list whose dashes stand in the column
of the section around it. -/
def endsBareItem : List Token → Bool
  | .blockEntry :: _ => true
  | tokens => endsBlockValue tokens

/-- Whether a token ends the place of a key in a section in brackets. -/
def endsFlowKey : List Token → Bool
  | .value :: _ => true
  | .flowEntry :: _ => true
  | .flowSectionEnd :: _ => true
  | _ => false

/-- Whether a token ends the place of a value in a section in brackets. -/
def endsFlowValue : List Token → Bool
  | .flowEntry :: _ => true
  | .flowSectionEnd :: _ => true
  | _ => false

/-- Whether a token ends the place of a key of an entry in a list in brackets. -/
def endsItemKey : List Token → Bool
  | .value :: _ => true
  | .flowEntry :: _ => true
  | .flowListEnd :: _ => true
  | _ => false

/-- Whether a token ends the place of a value of an entry in a list in brackets. -/
def endsItemValue : List Token → Bool
  | .flowEntry :: _ => true
  | .flowListEnd :: _ => true
  | _ => false

/-- The separator that must stand before every entry within brackets but the first. -/
def readSeparator (first : Bool) : List Token → Option (List Token)
  | .flowEntry :: rest => if first then some (.flowEntry :: rest) else some rest
  | tokens => if first then some tokens else none

mutual

/-- Reads a node and answers the tokens after it. `inBlock` allows the lists and sections
of blocks, and `bareList` a list whose dashes are not indented. -/
def readNode (handles : Handles) :
    Nat → Bool → Bool → Anchors → List Token → Option (Value × Anchors × List Token)
  | 0, _, _, _, _ => none
  | _, _, _, anchors, .alias name :: rest => (anchors.value? name).map fun value => (value, anchors, rest)
  | fuel + 1, inBlock, bareList, anchors, tokens => do
    let (properties, anchors, tokens) ← readProperties handles anchors tokens
    let (value, anchors, rest) ←
      match tokens with
      | .scalar isPlain text :: rest => some (Value.ofScalar isPlain properties.tag text, anchors, rest)
      | .flowListStart :: rest => do
        let (items, anchors, rest) ← readFlowItems handles fuel true anchors rest
        some (.list items, anchors, rest)
      | .flowSectionStart :: rest => do
        let (parts, anchors, rest) ← readFlowEntries handles fuel true anchors rest
        some (.section (← pairUp none [] parts), anchors, rest)
      | .listStart :: rest =>
        if inBlock then do
          let (items, anchors, rest) ← readItems handles fuel anchors rest
          some (.list items, anchors, rest)
        else readAbsent properties anchors (.listStart :: rest)
      | .sectionStart :: rest =>
        if inBlock then do
          let (parts, anchors, rest) ← readEntries handles fuel anchors rest
          some (.section (← pairUp none [] parts), anchors, rest)
        else readAbsent properties anchors (.sectionStart :: rest)
      | .blockEntry :: rest =>
        if bareList then do
          let (items, anchors, rest) ← readBareItems handles fuel anchors (.blockEntry :: rest)
          some (.list items, anchors, rest)
        else readAbsent properties anchors (.blockEntry :: rest)
      | tokens => readAbsent properties anchors tokens
    some (value, anchors.complete properties.number value, rest)
where
  /-- A node that is left out behind its tag or anchor. -/
  readAbsent (properties : Properties) (anchors : Anchors) (tokens : List Token) :
      Option (Value × Anchors × List Token) :=
    if properties.isPresent then some (Value.ofScalar true properties.tag "", anchors, tokens) else none

/-- The items of a list in a block. -/
def readItems (handles : Handles) : Nat → Anchors → List Token → Option (List Value × Anchors × List Token)
  | 0, _, _ => none
  | fuel + 1, anchors, tokens =>
    match tokens with
    | .blockEnd :: rest => some ([], anchors, rest)
    | .blockEntry :: rest => do
      let (item, anchors, rest) ←
        if endsBlockItem rest then some (Value.nothing, anchors, rest)
        else readNode handles fuel true false anchors rest
      let (items, anchors, rest) ← readItems handles fuel anchors rest
      some (item :: items, anchors, rest)
    | _ => none

/-- The items of a list whose dashes are not indented. -/
def readBareItems (handles : Handles) :
    Nat → Anchors → List Token → Option (List Value × Anchors × List Token)
  | 0, _, _ => none
  | fuel + 1, anchors, tokens =>
    match tokens with
    | .blockEntry :: rest => do
      let (item, anchors, rest) ←
        if endsBareItem rest then some (Value.nothing, anchors, rest)
        else readNode handles fuel true false anchors rest
      let (items, anchors, rest) ← readBareItems handles fuel anchors rest
      some (item :: items, anchors, rest)
    | rest => some ([], anchors, rest)

/-- The keys and values of a section in a block, in turn. A value may stand without a
key. -/
def readEntries (handles : Handles) :
    Nat → Anchors → List Token → Option (List Value × Anchors × List Token)
  | 0, _, _ => none
  | fuel + 1, anchors, tokens =>
    match tokens with
    | .blockEnd :: rest => some ([], anchors, rest)
    | .key :: rest => do
      let (key, anchors, rest) ←
        if endsBlockValue rest then some (Value.nothing, anchors, rest)
        else readNode handles fuel true true anchors rest
      readEntryValue fuel key anchors rest
    | .value :: rest => readEntryValue fuel .nothing anchors (.value :: rest)
    | _ => none
where
  /-- The value behind a key, and the entries after it. -/
  readEntryValue (fuel : Nat) (key : Value) (anchors : Anchors) (tokens : List Token) :
      Option (List Value × Anchors × List Token) := do
    let (value, anchors, rest) ←
      match tokens with
      | .value :: rest =>
        if endsBlockValue rest then some (Value.nothing, anchors, rest)
        else readNode handles fuel true true anchors rest
      | rest => some (Value.nothing, anchors, rest)
    let (parts, anchors, rest) ← readEntries handles fuel anchors rest
    some (key :: value :: parts, anchors, rest)

/-- The items of a list in brackets. An item may be a single entry of a section. -/
def readFlowItems (handles : Handles) :
    Nat → Bool → Anchors → List Token → Option (List Value × Anchors × List Token)
  | 0, _, _, _ => none
  | fuel + 1, first, anchors, tokens =>
    match tokens with
    | .flowListEnd :: rest => some ([], anchors, rest)
    | tokens => do
      let tokens ← readSeparator first tokens
      match tokens with
      | .flowListEnd :: rest => some ([], anchors, rest)
      | .key :: rest => do
        let (key, anchors, rest) ←
          if endsItemKey rest then some (Value.nothing, anchors, rest.drop 1)
          else readNode handles fuel false false anchors rest
        let (value, anchors, rest) ←
          match rest with
          | .value :: rest =>
            if endsItemValue rest then some (Value.nothing, anchors, rest)
            else readNode handles fuel false false anchors rest
          | rest => some (Value.nothing, anchors, rest)
        let (items, anchors, rest) ← readFlowItems handles fuel false anchors rest
        some (.section (← pairUp none [] [key, value]) :: items, anchors, rest)
      | tokens => do
        let (item, anchors, rest) ← readNode handles fuel false false anchors tokens
        let (items, anchors, rest) ← readFlowItems handles fuel false anchors rest
        some (item :: items, anchors, rest)

/-- The keys and values of a section in brackets, in turn. -/
def readFlowEntries (handles : Handles) :
    Nat → Bool → Anchors → List Token → Option (List Value × Anchors × List Token)
  | 0, _, _, _ => none
  | fuel + 1, first, anchors, tokens =>
    match tokens with
    | .flowSectionEnd :: rest => some ([], anchors, rest)
    | tokens => do
      let tokens ← readSeparator first tokens
      match tokens with
      | .flowSectionEnd :: rest => some ([], anchors, rest)
      | .key :: rest => do
        let (key, anchors, rest) ←
          if endsFlowKey rest then some (Value.nothing, anchors, rest)
          else readNode handles fuel false false anchors rest
        readFlowValue fuel key anchors rest
      | .value :: rest => readFlowValue fuel .nothing anchors (.value :: rest)
      | tokens => do
        let (key, anchors, rest) ← readNode handles fuel false false anchors tokens
        let (parts, anchors, rest) ← readFlowEntries handles fuel false anchors rest
        some (key :: .nothing :: parts, anchors, rest)
where
  /-- The value behind a key, and the entries after it. -/
  readFlowValue (fuel : Nat) (key : Value) (anchors : Anchors) (tokens : List Token) :
      Option (List Value × Anchors × List Token) := do
    let (value, anchors, rest) ←
      match tokens with
      | .value :: rest =>
        if endsFlowValue rest then some (Value.nothing, anchors, rest)
        else readNode handles fuel false false anchors rest
      | rest => some (Value.nothing, anchors, rest)
    let (parts, anchors, rest) ← readFlowEntries handles fuel false anchors rest
    some (key :: value :: parts, anchors, rest)

end

/-- Whether a document without content ends here. -/
def endsDocument : List Token → Bool
  | [] => true
  | .directive _ :: _ => true
  | .documentStart :: _ => true
  | .documentEnd :: _ => true
  | _ => false

/-- Leaves out the marks at the end of a document. -/
def skipDocumentEnds (tokens : List Token) : List Token :=
  tokens.dropWhile fun token => token = .documentEnd

/-- Reads the directives before a document. Only one of them may be a version, and only
the last one has an effect. -/
def readDirectives (hasVersion : Bool) (handles : Handles) :
    List Token → Option (Handles × List Token)
  | .directive .version :: rest => if hasVersion then none else readDirectives true [] rest
  | .directive (.tag handle leading) :: rest => readDirectives hasVersion [(handle, leading)] rest
  | .directive .other :: rest => readDirectives hasVersion [] rest
  | tokens => some (handles, tokens)

/-- Reads a document that begins with its mark or with directives. -/
def readMarkedDocument (fuel : Nat) (tokens : List Token) : Option (Value × List Token) := do
  let (handles, rest) ← readDirectives false [] tokens
  match rest with
  | .documentStart :: rest =>
    if endsDocument rest then some (.nothing, rest)
    else do
      let (value, _, rest) ← readNode handles fuel true false {} rest
      some (value, rest)
  | _ => none

/-- The documents of a text: none, or a single one. -/
def documentOfTokens? (tokens : List Token) : Option (Option Value) := do
  let fuel := 2 * tokens.length + 2
  let tokens := skipDocumentEnds tokens
  let (value, rest) ←
    match tokens with
    | [] => some (none, [])
    | .directive _ :: _ => (readMarkedDocument fuel tokens).map fun (value, rest) => (some value, rest)
    | .documentStart :: _ =>
      (readMarkedDocument fuel tokens).map fun (value, rest) => (some value, rest)
    | tokens => do
      let (value, _, rest) ← readNode [] fuel true false {} tokens
      some (some value, rest)
  if (skipDocumentEnds rest).isEmpty then some value else none

/-- The only document of a text. The inner answer is empty when the text has none. -/
def document? (text : String) : Option (Option Value) :=
  (tokens? text.toList).bind documentOfTokens?

end DocumentGateway.Yaml12
