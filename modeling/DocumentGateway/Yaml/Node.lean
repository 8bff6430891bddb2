import DocumentGateway.Yaml.Token

/-!
# YAML documents

A document is a scalar, a list, or a section of keys with values. Both blocks and
brackets give the same lists and sections. Where a value is left out, an empty plain
scalar stands for it. A text holds at most one document; anchors, tags and directives
are not part of the format read here.
-/
namespace DocumentGateway.Yaml

/-- A document or a part of it. -/
inductive Node where
  | scalar (isPlain : Bool) (text : String)
  | list (items : List Node)
  | section (entries : List (Node × Node))

/-- The node that stands for one that is left out. -/
def Node.absent : Node :=
  .scalar true ""

/-- Whether a token ends the place of a value within a block. -/
def endsBlockValue : List Token → Bool
  | .key :: _ => true
  | .value :: _ => true
  | .blockEnd :: _ => true
  | _ => false

/-- Whether a token ends the place of an item of a list within a block. -/
def endsBlockItem : List Token → Bool
  | .blockEntry :: _ => true
  | .blockEnd :: _ => true
  | _ => false

/-- Whether a token ends the place of an item of a list whose dashes stand in the column
of the section around it. -/
def endsBareItem : List Token → Bool
  | .blockEntry :: _ => true
  | tokens => endsBlockValue tokens

/-- Whether a token ends the place of a key within brackets. -/
def endsFlowKey : List Token → Bool
  | .value :: _ => true
  | .flowEntry :: _ => true
  | .flowSectionEnd :: _ => true
  | .flowListEnd :: _ => true
  | _ => false

/-- Whether a token ends the place of the key of an item that is a single entry. A key
left out in this place takes the token with it. -/
def endsFlowKeyOfItem : List Token → Bool
  | .value :: _ => true
  | .flowEntry :: _ => true
  | .flowListEnd :: _ => true
  | _ => false

/-- Whether a token ends the place of a value within brackets. -/
def endsFlowValue : List Token → Bool
  | .flowEntry :: _ => true
  | .flowSectionEnd :: _ => true
  | .flowListEnd :: _ => true
  | _ => false

/-- The separator that must stand before every entry within brackets but the first. -/
def readSeparator (first : Bool) : List Token → Option (List Token)
  | .flowEntry :: rest => if first then none else some rest
  | tokens => if first then some tokens else none

mutual

/-- Reads a node and answers the tokens after it. `inBlock` allows the lists and sections
of blocks, and `bareList` a list whose dashes are not indented. -/
def readNode : Nat → Bool → Bool → List Token → Option (Node × List Token)
  | 0, _, _, _ => none
  | fuel + 1, inBlock, bareList, tokens =>
    match tokens with
    | .scalar isPlain text :: rest => some (.scalar isPlain (String.ofList text), rest)
    | .flowListStart :: rest =>
      (readFlowItems fuel true rest).map fun (items, rest) => (.list items, rest)
    | .flowSectionStart :: rest =>
      (readFlowEntries fuel true rest).map fun (entries, rest) => (.section entries, rest)
    | .listStart :: rest =>
      if inBlock then (readItems fuel rest).map fun (items, rest) => (.list items, rest) else none
    | .sectionStart :: rest =>
      if inBlock then
        (readEntries fuel rest).map fun (entries, rest) => (.section entries, rest)
      else none
    | .blockEntry :: rest =>
      if bareList then
        (readBareItems fuel (.blockEntry :: rest)).map fun (items, rest) => (.list items, rest)
      else none
    | _ => none

/-- The items of a list in a block. -/
def readItems : Nat → List Token → Option (List Node × List Token)
  | 0, _ => none
  | fuel + 1, tokens =>
    match tokens with
    | .blockEnd :: rest => some ([], rest)
    | .blockEntry :: rest => do
      let (item, rest) ←
        if endsBlockItem rest then some (Node.absent, rest) else readNode fuel true false rest
      let (items, rest) ← readItems fuel rest
      some (item :: items, rest)
    | _ => none

/-- The items of a list whose dashes are not indented. -/
def readBareItems : Nat → List Token → Option (List Node × List Token)
  | 0, _ => none
  | fuel + 1, tokens =>
    match tokens with
    | .blockEntry :: rest => do
      let (item, rest) ←
        if endsBareItem rest then some (Node.absent, rest) else readNode fuel true false rest
      let (items, rest) ← readBareItems fuel rest
      some (item :: items, rest)
    | rest => some ([], rest)

/-- The entries of a section in a block. -/
def readEntries : Nat → List Token → Option (List (Node × Node) × List Token)
  | 0, _ => none
  | fuel + 1, tokens =>
    match tokens with
    | .blockEnd :: rest => some ([], rest)
    | .key :: rest => do
      let (key, rest) ←
        if endsBlockValue rest then some (Node.absent, rest) else readNode fuel true true rest
      let (value, rest) ← readEntryValue fuel rest
      let (entries, rest) ← readEntries fuel rest
      some ((key, value) :: entries, rest)
    | _ => none

/-- The value of an entry in a block. -/
def readEntryValue : Nat → List Token → Option (Node × List Token)
  | 0, _ => none
  | fuel + 1, tokens =>
    match tokens with
    | .value :: rest =>
      if endsBlockValue rest then some (.absent, rest) else readNode fuel true true rest
    | rest => some (.absent, rest)

/-- The items of a list in brackets. An item may be a single entry of a section. -/
def readFlowItems : Nat → Bool → List Token → Option (List Node × List Token)
  | 0, _, _ => none
  | fuel + 1, first, tokens =>
    match tokens with
    | .flowListEnd :: rest => some ([], rest)
    | tokens => do
      let tokens ← readSeparator first tokens
      match tokens with
      | .flowListEnd :: rest => some ([], rest)
      | .key :: rest => do
        let (entry, rest) ←
          if endsFlowKeyOfItem rest then readFlowValue fuel .absent (rest.drop 1)
          else readFlowEntry fuel rest
        let (items, rest) ← readFlowItems fuel false rest
        some (.section [entry] :: items, rest)
      | tokens => do
        let (item, rest) ← readNode fuel false false tokens
        let (items, rest) ← readFlowItems fuel false rest
        some (item :: items, rest)

/-- The entries of a section in brackets. -/
def readFlowEntries : Nat → Bool → List Token → Option (List (Node × Node) × List Token)
  | 0, _, _ => none
  | fuel + 1, first, tokens =>
    match tokens with
    | .flowSectionEnd :: rest => some ([], rest)
    | tokens => do
      let tokens ← readSeparator first tokens
      match tokens with
      | .flowSectionEnd :: rest => some ([], rest)
      | .key :: rest => do
        let (entry, rest) ← readFlowEntry fuel rest
        let (entries, rest) ← readFlowEntries fuel false rest
        some (entry :: entries, rest)
      | tokens => do
        let (key, rest) ← readNode fuel false false tokens
        let (entries, rest) ← readFlowEntries fuel false rest
        some ((key, .absent) :: entries, rest)

/-- A key and its value in brackets, where the token of the key has been read. -/
def readFlowEntry : Nat → List Token → Option ((Node × Node) × List Token)
  | 0, _ => none
  | fuel + 1, tokens => do
    let (key, rest) ←
      if endsFlowKey tokens then some (Node.absent, tokens) else readNode fuel false false tokens
    readFlowValue fuel key rest

/-- The entry of a key in brackets, with its value if it has one. -/
def readFlowValue : Nat → Node → List Token → Option ((Node × Node) × List Token)
  | 0, _, _ => none
  | fuel + 1, key, tokens =>
    match tokens with
    | .value :: rest =>
      if endsFlowValue rest then some ((key, .absent), rest)
      else do
        let (value, rest) ← readNode fuel false false rest
        some ((key, value), rest)
    | rest => some ((key, .absent), rest)

end

/-- Whether a document without content ends here. -/
def endsDocument : List Token → Bool
  | [] => true
  | .documentStart :: _ => true
  | .documentEnd :: _ => true
  | _ => false

/-- Leaves out the marks at the end of a document. -/
def skipDocumentEnds (tokens : List Token) : List Token :=
  tokens.dropWhile fun token => token = .documentEnd

/-- The only document of some tokens. Without any tokens there is none. -/
def Node.ofTokens? (tokens : List Token) : Option (Option Node) :=
  let fuel := 6 * tokens.length + 6
  let read := match tokens with
    | [] => some (none, [])
    | .documentStart :: rest =>
      if endsDocument rest then some (some Node.absent, rest)
      else (readNode fuel true false rest).map fun (node, rest) => (some node, rest)
    | tokens => (readNode fuel true false tokens).map fun (node, rest) => (some node, rest)
  read.bind fun (node, rest) => if (skipDocumentEnds rest).isEmpty then some node else none

/-- The only document of a text. The inner answer is empty when the text has none. -/
def Node.ofText? (text : String) : Option (Option Node) :=
  (tokens? text.toList).bind Node.ofTokens?

end DocumentGateway.Yaml
