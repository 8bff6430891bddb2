import DocumentGateway.Text.Cut

/-!
# Media types

A media type names a type and a subtype with a slash between them, and may have
parameters behind semicolons. Names are tokens and count in lower case. What follows the
last plus sign of a subtype is a suffix, which tells the syntax and is not part of the
name. The value of a parameter is a token or stands between quotes, and only there it
may hold further characters.
-/
namespace DocumentGateway.Http

/-- A media type with its parameters. -/
structure MediaType where
  type : String
  subtype : String
  parameters : List (String × String)
  deriving DecidableEq, Repr

/-- Whether a character may stand in a token. -/
def isTokenCharacter (c : Char) : Bool :=
  c.isAlphanum || "!#$%&'*+-.^_|~".toList.contains c || c = Char.ofNat 0x60

/-- Whether a character may stand between quotes. -/
def isQuotable (c : Char) : Bool :=
  0x20 ≤ c.toNat && c.toNat ≠ 0x7F

/-- The leading token of a text and the rest. -/
def readToken (text : List Char) : List Char × List Char :=
  (text.takeWhile isTokenCharacter, text.dropWhile isTokenCharacter)

/-- A name in lower case. -/
def lowerToken (token : List Char) : String :=
  String.ofList (token.map Char.toLower)

/-- The text behind the blanks that may follow a quoted value: behind a semicolon, or
empty at the end. -/
def skipToParameter (text : List Char) : Option (List Char) :=
  match text.dropWhile (· = ' ') with
  | [] => some []
  | ';' :: rest => some rest
  | _ => none

/-- The value of a parameter, and the text behind the semicolon that follows it. A value
between quotes has at least one character, which may itself be a quote. -/
def readParameterValue (text : List Char) : Option (String × List Char) :=
  match text with
  | '"' :: first :: rest =>
    let value := first :: rest.takeWhile fun c => isQuotable c && c ≠ '"'
    match rest.dropWhile fun c => isQuotable c && c ≠ '"' with
    | '"' :: rest =>
      if isQuotable first then
        (skipToParameter rest).map fun rest => (String.ofList value, rest)
      else none
    | _ => none
  | _ =>
    match readToken text with
    | (value, []) => some (String.ofList value, [])
    | (value, ';' :: rest) => if value.isEmpty then none else some (String.ofList value, rest)
    | _ => none

/-- The parameters behind a semicolon. The number bounds how many there are. -/
def readParameters : Nat → List Char → Option (List (String × String))
  | 0, _ => some []
  | count + 1, text =>
    match text.dropWhile (· = ' ') with
    | [] => some []
    | text =>
      match readToken text with
      | ([], _) => none
      | (name, '=' :: rest) => do
        let (value, rest) ← readParameterValue rest
        let others ← readParameters count rest
        some ((lowerToken name, value) :: others)
      | _ => none

/-- A subtype without its suffix. A plus sign at the start begins none. -/
def withoutSuffix (subtype : List Char) : List Char :=
  match subtype with
  | [] => []
  | first :: rest =>
    if rest.contains '+' then first :: ((rest.reverse.dropWhile (· ≠ '+')).drop 1).reverse
    else subtype

/-- The media type of a text. -/
def MediaType.ofText? (text : String) : Option MediaType :=
  match readToken text.toList with
  | ([], _) => none
  | (type, '/' :: rest) =>
    match readToken rest with
    | ([], _) => none
    | (subtype, []) => some ⟨lowerToken type, lowerToken (withoutSuffix subtype), []⟩
    | (subtype, ';' :: rest) =>
      (readParameters (rest.length + 1) rest).map fun parameters =>
        ⟨lowerToken type, lowerToken (withoutSuffix subtype), parameters⟩
    | _ => none
  | _ => none

/-- The value of the first parameter with a name. -/
def MediaType.parameter? (mediaType : MediaType) (name : String) : Option String :=
  (mediaType.parameters.find? fun parameter => parameter.1 = name).map Prod.snd

end DocumentGateway.Http
