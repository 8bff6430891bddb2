import DocumentGateway.Json.Basic
import DocumentGateway.Text.Utf8

/-!
# Requests and responses

A request has a method, a target, headers and a body. Methods are told apart by their
exact letters, header names are not. A response has a status and may have a location
and a content, which is either a JSON value or plain words.
-/
namespace DocumentGateway.Http

/-- A request. Its target is a path and perhaps a query, which may stand behind a scheme
and an authority. -/
structure Request where
  method : String
  target : String
  headers : List (String × Bytes)
  body : Bytes

/-- What a response says. -/
inductive Content where
  | empty
  | json (value : Json)
  | words (text : String)

/-- A response. `sendsContent` is false when the content is only described and not sent. -/
structure Response where
  status : Nat
  location : Option String := none
  content : Content := .empty
  sendsContent : Bool := true
  requestId : Option String := none
  allowedOrigin : Option String := none

namespace Request

/-- A header name in lower case. -/
def lowerName (name : String) : String :=
  String.ofList (name.toList.map Char.toLower)

/-- The value of the first header with a name, which is given in lower case. -/
def header? (request : Request) (name : String) : Option Bytes :=
  (request.headers.find? fun header => lowerName header.1 = name).map Prod.snd

/-- Whether a byte is a tab or a visible ASCII character. -/
def isPlainByte (byte : UInt8) : Bool :=
  byte = 0x09 || (0x20 ≤ byte && byte < 0x7F)

/-- The text of a header value of tabs and visible ASCII characters. -/
def plainText? (value : Bytes) : Option String :=
  if value.all isPlainByte then Utf8.decode? value else none

/-- The target up to a fragment, which is not part of a request. -/
def ownTarget (request : Request) : List Char :=
  request.target.toList.takeWhile (· ≠ '#')

/-- Whether a character may stand in a scheme. -/
def isSchemeCharacter (c : Char) : Bool :=
  c.isAlphanum || c = '+' || c = '-' || c = '.'

/-- What stands behind a scheme and an authority, if a target begins with both. -/
def behindAuthority? (target : List Char) : Option (List Char) :=
  match target.dropWhile isSchemeCharacter with
  | ':' :: '/' :: '/' :: rest => some (rest.dropWhile fun c => c ≠ '/' && c ≠ '?')
  | _ => none

/-- The part of the target that is path and query. Behind a scheme and an authority the
path may be left out and is then a slash. An authority alone has neither path nor
query. -/
def resource (request : Request) : List Char :=
  match request.ownTarget with
  | '/' :: rest => '/' :: rest
  | ['*'] => ['*']
  | target =>
    match behindAuthority? target with
    | some ('/' :: rest) => '/' :: rest
    | some rest => '/' :: rest
    | none => []

/-- The path of the target. -/
def path (request : Request) : List Char :=
  request.resource.takeWhile (· ≠ '?')

/-- The query of the target, which is empty if there is none. -/
def query (request : Request) : List Char :=
  (request.resource.dropWhile (· ≠ '?')).drop 1

end Request

/-- A response with a JSON value. -/
def Response.ofJson (status : Nat) (value : Json) : Response :=
  { status, content := .json value }

/-- A response with plain words. -/
def Response.ofWords (status : Nat) (text : String) : Response :=
  { status, content := .words text }

/-- Whether a text may stand in a header of a response: it has no control characters
except tabs. -/
def isHeaderText (text : String) : Bool :=
  text.toList.all fun c => c = '\t' || (0x20 ≤ c.toNat && c.toNat ≠ 0x7F)

end DocumentGateway.Http
