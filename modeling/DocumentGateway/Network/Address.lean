import DocumentGateway.Text.Cut
import DocumentGateway.Decimal.Reading
import DocumentGateway.Json.Reader

/-!
# Socket addresses

A socket address is an IPv4 address with a port, or an IPv6 address in brackets with a
port and perhaps a zone. The parts of an IPv4 address have no leading zeros. The groups
of an IPv6 address may be left out once where they are zero, and its last two groups
may be written as an IPv4 address. In shown addresses the longest run of at least two
zero groups is left out, the first one if there are several.
-/
namespace DocumentGateway.Network

/-- An address with a port. IPv6 addresses have eight groups of sixteen bits. -/
inductive SocketAddress where
  | v4 (octets : List Nat) (port : Nat)
  | v6 (groups : List Nat) (zone : Nat) (port : Nat)
  deriving DecidableEq, Repr

/-- The value of a digit to a base of at most sixteen. -/
def digitBelow? (base : Nat) (c : Char) : Option Nat :=
  (Json.hexValue? c).filter (· < base)

/-- The leading digits of a text as a number, and the rest. There is at least one digit. -/
def readNumber (base : Nat) (text : List Char) : Option (List Char × Nat × List Char) :=
  let digits := text.takeWhile fun c => (digitBelow? base c).isSome
  if digits.isEmpty then none
  else some (digits, digits.foldl (fun total c => total * base + (digitBelow? base c).getD 0) 0,
    text.dropWhile fun c => (digitBelow? base c).isSome)

/-- A decimal number below a limit, however many digits it has. -/
def readBelow (limit : Nat) (text : List Char) : Option (Nat × List Char) :=
  match readNumber 10 text with
  | some (_, value, rest) => if value < limit then some (value, rest) else none
  | none => none

/-- One part of an IPv4 address: at most three digits without a leading zero. -/
def readOctet (text : List Char) : Option (Nat × List Char) :=
  match readNumber 10 text with
  | some (digits, value, rest) =>
    if digits.length ≤ 3 ∧ value < 256 ∧ ¬(digits.head? = some '0' ∧ 1 < digits.length) then
      some (value, rest)
    else none
  | none => none

/-- A number of octets with dots between them. -/
def readOctets : Nat → List Char → Option (List Nat × List Char)
  | 0, text => some ([], text)
  | 1, text => (readOctet text).map fun (octet, rest) => ([octet], rest)
  | count + 2, text => do
    let (octet, rest) ← readOctet text
    match rest with
    | '.' :: rest => do
      let (others, rest) ← readOctets (count + 1) rest
      some (octet :: others, rest)
    | _ => none

/-- One group of an IPv6 address: at most four hexadecimal digits. -/
def readGroup (text : List Char) : Option (Nat × List Char) :=
  match readNumber 16 text with
  | some (digits, value, rest) => if digits.length ≤ 4 then some (value, rest) else none
  | none => none

/-- The text after the colon in front of a group that is not the first one. -/
def skipColon (first : Bool) (text : List Char) : Option (List Char) :=
  if first then some text
  else match text with
    | ':' :: rest => some rest
    | _ => none

/-- The groups that four octets stand for. -/
def groupsOfOctets : List Nat → List Nat
  | [a, b, c, d] => [a * 256 + b, c * 256 + d]
  | _ => []

/-- As many groups as there are, up to a number, with whether they end with an IPv4
address, which takes the room of two groups. -/
def readGroups : Nat → Bool → List Char → List Nat × Bool × List Char
  | 0, _, text => ([], false, text)
  | room + 1, first, text =>
    let embedded := if 0 < room then (skipColon first text).bind (readOctets 4) else none
    match embedded with
    | some (octets, rest) => (groupsOfOctets octets, true, rest)
    | none =>
      match (skipColon first text).bind readGroup with
      | some (group, rest) =>
        let (others, dotted, rest) := readGroups room false rest
        (group :: others, dotted, rest)
      | none => ([], false, text)

/-- The eight groups of an IPv6 address. Two colons stand for one or more zero groups. -/
def readV6 (text : List Char) : Option (List Nat × List Char) :=
  let (head, dotted, rest) := readGroups 8 true text
  if head.length = 8 then some (head, rest)
  else if dotted then none
  else match rest with
    | ':' :: ':' :: rest =>
      let (tail, _, rest) := readGroups (7 - head.length) true rest
      some (head ++ List.replicate (8 - head.length - tail.length) 0 ++ tail, rest)
    | _ => none

/-- The port at the end of an address. -/
def readPort (text : List Char) : Option Nat :=
  match text with
  | ':' :: rest =>
    match readBelow (Nat.pow 2 16) rest with
    | some (port, []) => some port
    | _ => none
  | _ => none

/-- The zone of an IPv6 address, which is zero if none is named. -/
def readZone (text : List Char) : Nat × List Char :=
  match text with
  | '%' :: rest => (readBelow (Nat.pow 2 32) rest).getD (0, text)
  | _ => (0, text)

/-- Reads an IPv6 address in brackets with its port. -/
def socketV6? (text : List Char) : Option SocketAddress :=
  match text with
  | '[' :: rest => do
    let (groups, rest) ← readV6 rest
    let (zone, rest) := readZone rest
    match rest with
    | ']' :: rest => (readPort rest).map (.v6 groups zone)
    | _ => none
  | _ => none

/-- Reads the text of a socket address. -/
def SocketAddress.ofText? (text : String) : Option SocketAddress :=
  match readOctets 4 text.toList with
  | some (octets, rest) => (readPort rest).map (.v4 octets)
  | none => socketV6? text.toList

/-- A group in hexadecimal digits without leading zeros. -/
def groupText (group : Nat) : String :=
  String.ofList (Nat.toDigits 16 group)

/-- Groups with colons between them. -/
def groupsText (groups : List Nat) : String :=
  Text.join ":" (groups.map groupText)

/-- Octets with dots between them. -/
def octetsText (octets : List Nat) : String :=
  Text.join "." (octets.map toString)

/-- The number of zero groups in front. -/
def zerosInFront (groups : List Nat) : Nat :=
  (groups.takeWhile (· = 0)).length

/-- The longest run of zero groups: how many groups stand before it, and its length. Of
runs with equal length the first one counts. -/
def longestZeros : List Nat → Nat × Nat
  | [] => (0, 0)
  | group :: rest =>
    let (before, length) := longestZeros rest
    let here := zerosInFront (group :: rest)
    if length ≤ here then (0, here) else (before + 1, length)

/-- The text of an IPv6 address. An IPv4 address inside one is shown as such. -/
def v6Text (groups : List Nat) : String :=
  match groups with
  | [0, 0, 0, 0, 0, 0xFFFF, high, low] =>
    "::ffff:" ++ octetsText [high / 256, high % 256, low / 256, low % 256]
  | _ =>
    let (before, length) := longestZeros groups
    if 1 < length then
      groupsText (groups.take before) ++ "::" ++ groupsText (groups.drop (before + length))
    else groupsText groups

/-- The text of a socket address. A zone of zero is not shown. -/
def SocketAddress.toText : SocketAddress → String
  | .v4 octets port => octetsText octets ++ ":" ++ toString port
  | .v6 groups zone port =>
    let zoneText := if zone = 0 then "" else "%" ++ toString zone
    "[" ++ v6Text groups ++ zoneText ++ "]:" ++ toString port

end DocumentGateway.Network
