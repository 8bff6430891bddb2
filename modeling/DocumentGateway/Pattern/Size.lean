import DocumentGateway.Pattern.Basic
import DocumentGateway.Pattern.ClassAutomaton
import DocumentGateway.Text.Utf8

/-!
# The size of a pattern

A pattern is accepted only if the automaton that recognises it is small enough. The
automaton is the one of Thompson's construction on bytes: repetitions are written out,
a state takes up 32 bytes, a link to one of several alternatives 4 more, and a link for
a range of bytes 8 more where a state has several of them. It is measured in both
directions, and the backward one leaves out the marks at the ends of groups. A choice
between literals becomes a tree in which literals share what they begin with.
-/
namespace DocumentGateway.Pattern

open Text

/-- The direction in which an automaton reads. -/
inductive Heading where
  | forward
  | backward
  deriving DecidableEq, Repr

/-- The largest number of bytes of an automaton. -/
def maxBytes : Nat := 10 * 1024 * 1024

/-- The number of bytes of an automaton. -/
def AutomatonSize.bytes (size : AutomatonSize) : Nat :=
  32 * size.states + size.linkBytes

/-- The size when it is within the limit. -/
def AutomatonSize.within? (size : AutomatonSize) : Option AutomatonSize :=
  if size.bytes ≤ maxBytes then some size else none

/-- The size after some states have been added and their links. -/
def AutomatonSize.add? (size : AutomatonSize) (states linkBytes : Nat) : Option AutomatonSize :=
  AutomatonSize.within? ⟨size.states + states, size.linkBytes + linkBytes⟩

/-- A step in the construction of an automaton. It takes the size before it to the size
after it, unless that is beyond the limit. -/
structure Growth where
  after? : AutomatonSize → Option AutomatonSize

namespace Growth

/-- No growth. -/
def none : Growth :=
  ⟨some⟩

/-- Growth by states and the bytes of their links. -/
def add (states linkBytes : Nat) : Growth :=
  ⟨fun size => size.add? states linkBytes⟩

/-- Two steps in turn. -/
def andThen (first second : Growth) : Growth :=
  ⟨fun size => (first.after? size).bind second.after?⟩

/-- A step taken a number of times. -/
def repeatFrom (step : Growth) : Nat → AutomatonSize → Option AutomatonSize
  | 0, size => some size
  | count + 1, size =>
    match step.after? size with
    | some size => repeatFrom step count size
    | .none => .none

/-- A step taken a number of times. -/
def times (step : Growth) (count : Nat) : Growth :=
  ⟨step.repeatFrom count⟩

end Growth

/-- Cuts the texts of a node of the tree of literals into runs. A text that ends at the
node closes a run, unless the node has no links yet and a run has been closed before.
The texts of the open run come last first. -/
def runs (linked closed : Bool) (current : List Bytes) : List Bytes → List (List Bytes)
  | [] => [current.reverse]
  | [] :: rest =>
    if closed && !linked then runs linked closed current rest
    else current.reverse :: runs linked true [] rest
  | text :: rest => runs true closed (text :: current) rest

/-- What follows a byte in the texts that begin with it. -/
def restsAfter (byte : UInt8) (texts : List Bytes) : List Bytes :=
  texts.filterMap fun text => match text with
    | [] => none
    | first :: rest => if first = byte then some rest else none

/-- The different bytes that the texts begin with. -/
def firstBytes (texts : List Bytes) : List UInt8 :=
  (texts.filterMap List.head?).eraseDups

/-- The states and link bytes of the tree of texts of bounded length. A node without
links needs no state. Every other node has a state for each run of links and one that
leads to these and, after each run but the last, to the end. -/
def treeSize : Nat → List Bytes → Nat × Nat
  | 0, _ => (0, 0)
  | length + 1, texts =>
    if texts.all List.isEmpty then (0, 0)
    else
      let runs := runs false false [] texts
      runs.foldl (fun total run =>
        let bytes := firstBytes run
        let total := match bytes.length with
          | 0 => total
          | 1 => (total.1 + 1, total.2 + 4)
          | links => (total.1 + 1, total.2 + 4 + 8 * links)
        bytes.foldl (fun total byte =>
          let below := treeSize length (restsAfter byte run)
          (total.1 + below.1, total.2 + below.2)) total) (1, 4 * (runs.length - 1))

/-- The bytes of a pattern that is a literal, as they are read. -/
def literalBytes? (heading : Heading) : Pattern → Option Bytes
  | .literal characters =>
    let bytes := characters.flatMap String.utf8EncodeChar
    some (if heading = .forward then bytes else bytes.reverse)
  | _ => none

/-- The growth by the tree of literals, with the state in which it ends. -/
def treeGrowth (literals : List Bytes) : Growth :=
  let length := (literals.map List.length).foldl max 0
  let tree := treeSize (length + 1) literals
  .add (tree.1 + 1) tree.2

/-- The growth by the automaton of a set. -/
def setGrowth (heading : Heading) (set : CharSet) : Growth :=
  if set.isAscii then .add 2 (8 * set.ranges.size)
  else
    let rows := set.byteRows
    match heading with
    | .forward => ⟨fun size => AutomatonSize.within? (addForward rows size)⟩
    | .backward => ⟨fun size => AutomatonSize.within? (addBackward rows size)⟩

/-- The growth by a repetition, given the growth by its body. When the body may take up
nothing, more states are needed to repeat it any number of times. -/
def repetitionGrowth (body : Growth) (takesUp : Bool) (least : Nat) (most : Option Nat) : Growth :=
  match least, most with
  | 0, some 1 => (Growth.add 1 8).andThen (body.andThen (.add 1 0))
  | 0, none => if takesUp then (Growth.add 1 8).andThen body else body.andThen (.add 3 16)
  | least, none => (body.times least).andThen (.add 1 8)
  | least, some most =>
    let required := if least = 0 then .add 1 0 else body.times least
    if least = most then required
    else required.andThen
      ((Growth.add 1 0).andThen (((Growth.add 1 8).andThen body).times (most - least)))

mutual

/-- The growth by the automaton of a pattern. -/
def growth (heading : Heading) : Pattern → Growth
  | .empty => .add 1 0
  | .literal characters => .add (byteLength characters) 0
  | .oneOf set _ => setGrowth heading set
  | .holds _ => .add 1 0
  | .repetition body least most _ =>
    repetitionGrowth (growth heading body) ((leastBytes body).any (0 < ·)) least most
  | .group _ body =>
    match heading with
    | .forward => (Growth.add 1 0).andThen ((growth heading body).andThen (.add 1 0))
    | .backward => growth heading body
  | .sequence parts => growthInTurn heading parts
  | .choice branches =>
    match branches.mapM (literalBytes? heading) with
    | some literals => treeGrowth literals
    | none => growthByBranches heading 2 branches

/-- The growth by parts that follow each other, in the order they are read. -/
def growthInTurn (heading : Heading) : List Pattern → Growth
  | [] => .none
  | pattern :: rest =>
    match heading with
    | .forward => (growth heading pattern).andThen (growthInTurn heading rest)
    | .backward => (growthInTurn heading rest).andThen (growth heading pattern)

/-- The growth by branches. The states in which they start and end together are made
after the given number of branches. -/
def growthByBranches (heading : Heading) (before : Nat) : List Pattern → Growth
  | [] => .none
  | pattern :: rest =>
    let joint := if before = 1 then Growth.add 2 4 else .add 0 4
    (growth heading pattern).andThen (joint.andThen (growthByBranches heading (before - 1) rest))

end

/-- The assertion that binds a match to the end of the text where reading begins. -/
def Heading.bound : Heading → Assertion
  | .forward => .textStart
  | .backward => .textEnd

mutual

/-- Whether every match is seen to be bound to the end of the text where reading
begins. -/
def isBound (heading : Heading) : Pattern → Bool
  | .holds assertion => assertion = heading.bound
  | .repetition body least _ _ => 0 < least && isBound heading body
  | .group _ body => isBound heading body
  | .sequence parts => (isBoundInTurn heading parts).1
  | .choice branches => isEachBound heading branches
  | _ => false

/-- Whether a sequence is bound, and whether none of its parts takes up characters. -/
def isBoundInTurn (heading : Heading) : List Pattern → Bool × Bool
  | [] => (false, true)
  | pattern :: rest =>
    let (restBound, restEmpty) := isBoundInTurn heading rest
    let isEmpty := mostBytes pattern = some 0
    let isBound := match heading with
      | .forward => isBound heading pattern || (isEmpty && restBound)
      | .backward => restBound || (restEmpty && isBound heading pattern)
    (isBound, isEmpty && restEmpty)

/-- Whether every pattern of a list is bound. -/
def isEachBound (heading : Heading) : List Pattern → Bool
  | [] => true
  | pattern :: rest => isBound heading pattern && isEachBound heading rest

end

/-- The size of the whole automaton of a pattern. A pattern that may match anywhere begins
with a loop over all bytes, unless the match is bound to where reading begins. The
forward automaton marks the ends of the match. -/
def automatonSize? (heading : Heading) (pattern : Pattern) : Option AutomatonSize :=
  let loop : Growth := if isBound heading pattern then .add 1 0 else .add 3 16
  let whole := match heading with
    | .forward => (Growth.add 1 0).andThen ((growth heading pattern).andThen (.add 2 0))
    | .backward => (growth heading pattern).andThen (.add 1 0)
  (loop.andThen whole).after? ⟨0, 0⟩

/-- Whether the automata of a pattern in both directions are small enough. -/
def isSmall (pattern : Pattern) : Bool :=
  (automatonSize? .forward pattern).isSome && (automatonSize? .backward pattern).isSome

end DocumentGateway.Pattern
