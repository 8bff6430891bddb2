import DocumentGateway.Json.Basic

/-!
# Equality and order of values

`same` is equality of meaning: numbers by their place on the real line, arrays item by
item, and objects as finite maps whatever the order of their members. `compare` is the
total order used for sorting, which ranks kinds first and puts missing values with
null. `compareSameKind` is the partial order of comparisons and relates only two
numbers, two strings or two booleans.
-/
namespace DocumentGateway.Json

/-- The rank of a kind in the total order. -/
def kindRank : Json → Nat
  | .null => 0
  | .number _ => 1
  | .string _ => 2
  | .object _ => 3
  | .array _ => 4
  | .bool _ => 5

mutual

/-- Whether two values mean the same. -/
def same : Json → Json → Bool
  | .null, .null => true
  | .bool a, .bool b => a == b
  | .number a, .number b => a.position == b.position
  | .string a, .string b => a == b
  | .array as, .array bs => sameItems as bs
  | .object as, .object bs => as.length == bs.length && sameMembers as bs
  | _, _ => false

/-- Whether two lists of values mean the same, place by place. -/
def sameItems : List Json → List Json → Bool
  | [], [] => true
  | a :: as, b :: bs => same a b && sameItems as bs
  | _, _ => false

/-- Whether every member of the first object has a counterpart in the second. -/
def sameMembers : List (String × Json) → List (String × Json) → Bool
  | [], _ => true
  | (key, value) :: rest, others =>
    (match Keyed.get? key others with
      | some other => same value other
      | none => false) && sameMembers rest others

end

mutual

/-- The total order on present values. -/
def compare : Json → Json → Ordering
  | .null, .null => .eq
  | .number a, .number b => Ord.compare a.rank b.rank
  | .string a, .string b => Ord.compare a b
  | .bool a, .bool b => Ord.compare a b
  | .array as, .array bs => compareItems as bs
  | .object as, .object bs => compareMembers as bs
  | a, b => Ord.compare a.kindRank b.kindRank

/-- Lists compare by their first difference, and a list comes after its beginnings. -/
def compareItems : List Json → List Json → Ordering
  | [], [] => .eq
  | [], _ :: _ => .lt
  | _ :: _, [] => .gt
  | a :: as, b :: bs => (compare a b).then (compareItems as bs)

/-- Objects compare member by member in their own order, the key before the value. -/
def compareMembers : List (String × Json) → List (String × Json) → Ordering
  | [], [] => .eq
  | [], _ :: _ => .lt
  | _ :: _, [] => .gt
  | (key, value) :: rest, (otherKey, otherValue) :: others =>
    ((Ord.compare key otherKey).then (compare value otherValue)).then (compareMembers rest others)

end

/-- The total order on values that may be missing. A missing value ties with null. -/
def compareOptional : Option Json → Option Json → Ordering
  | some a, some b => compare a b
  | some a, none => Ord.compare a.kindRank 0
  | none, some b => Ord.compare 0 b.kindRank
  | none, none => .eq

/-- The order between two values of one ordered kind. -/
def compareSameKind : Json → Json → Option Ordering
  | .number a, .number b => some (Ord.compare a.position b.position)
  | .string a, .string b => some (Ord.compare a b)
  | .bool a, .bool b => some (Ord.compare a b)
  | _, _ => none

end DocumentGateway.Json
