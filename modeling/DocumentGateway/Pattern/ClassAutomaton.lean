import DocumentGateway.Text.ByteRanges
import Std.Data.HashMap

/-!
# Automata of character sets

An automaton on bytes recognises the UTF-8 forms of the characters of a set. Only its
size matters here: how many states it has and how many bytes its links take up. States
are numbered in the order in which they are made.

Forward, the rows of byte ranges arrive in order, so the states for the bytes that two
neighbouring rows share at the front are made once, and a state is finished when no
further row can change it. A finished state with the same links as an earlier one is
replaced by that one, as long as the earlier one is still remembered. Backward, a row is
read from its end, and a state for a range of bytes that leads on to the same state is
used again, as long as it is remembered. What is remembered lies in a fixed number of
slots, chosen by a hash of the links, and a newer state takes the slot of an older one.
-/
namespace DocumentGateway.Pattern

open Text

/-- The size of an automaton under construction. -/
structure AutomatonSize where
  states : Nat
  linkBytes : Nat
  deriving DecidableEq, Repr

/-- A link of an automaton: a range of bytes and the number of the state it leads to. -/
structure Link where
  first : Nat
  last : Nat
  target : Nat
  deriving DecidableEq, Repr

/-- Takes a number into a hash, by the rule of Fowler, Noll and Vo. -/
def hashStep (hash : UInt64) (number : Nat) : UInt64 :=
  (hash ^^^ UInt64.ofNat number) * 1099511628211

/-- The slot of a row of numbers among a number of slots. -/
def slotOf (slots : UInt64) (numbers : List Nat) : Nat :=
  (numbers.foldl hashStep 14695981039346656037 % slots).toNat

/-- States that are remembered by their links, one to a slot. -/
abbrev Memory := Std.HashMap Nat (List Link × Nat)

/-- A state that may still get further links: its links so far, with the newest first,
and the range of bytes of a link whose target is not finished. -/
structure OpenState where
  links : List Link
  pending : Option (Nat × Nat)
  deriving DecidableEq, Repr

/-- The state after its open link has been given a target. -/
def OpenState.close (state : OpenState) (target : Nat) : OpenState :=
  match state.pending with
  | some (first, last) => ⟨⟨first, last, target⟩ :: state.links, none⟩
  | none => state

/-- A forward automaton under construction. The states that are still open lie on the
path of the newest row, the first state of the automaton in front. -/
structure Forward where
  size : AutomatonSize
  memory : Memory
  path : List OpenState

/-- The number of slots of the forward memory. -/
def forwardSlots : UInt64 := 10000

/-- The state with the given links that lies in a slot of the memory. -/
def remembered? (memory : Memory) (slot : Nat) (links : List Link) : Option Nat :=
  match memory[slot]? with
  | some (known, number) => if known = links then some number else none
  | none => none

/-- Makes a finished state, or finds the same one in the memory. -/
def finishState (links : List Link) (size : AutomatonSize) (memory : Memory) :
    Nat × AutomatonSize × Memory :=
  let slot := slotOf forwardSlots (links.flatMap fun link => [link.first, link.last, link.target])
  match remembered? memory slot links with
  | some number => (number, size, memory)
  | none =>
    (size.states, ⟨size.states + 1, size.linkBytes + 8 * links.length⟩,
      memory.insert slot (links, size.states))

/-- Finishes all states of a path, from its end, where the last one leads to the given
target. Answers the number of the first of them. -/
def finishPath (target : Nat) : List OpenState → AutomatonSize → Memory → Nat × AutomatonSize × Memory
  | [], size, memory => (target, size, memory)
  | state :: rest, size, memory =>
    let (next, size, memory) := finishPath target rest size memory
    finishState (state.close next).links.reverse size memory

/-- The number of bytes a row shares with the open states of a path. -/
def sharedBytes : List (Nat × Nat) → List OpenState → Nat
  | range :: row, state :: path => if state.pending = some range then sharedBytes row path + 1 else 0
  | _, _ => 0

/-- The path after a shared part whose last state is given. -/
def continuePath (state : OpenState) : List (Nat × Nat) → List OpenState
  | [] => [state]
  | range :: row => ⟨state.links, some range⟩ :: row.map fun range => ⟨[], some range⟩

/-- Adds a row to the automaton, whose last state has the given number. -/
def Forward.add (target : Nat) (automaton : Forward) (row : List (Nat × Nat)) : Forward :=
  let shared := sharedBytes row automaton.path
  match automaton.path.drop shared with
  | [] => automaton
  | state :: rest =>
    let (next, size, memory) := finishPath target rest automaton.size automaton.memory
    ⟨size, memory, automaton.path.take shared ++ continuePath (state.close next) (row.drop shared)⟩

/-- The size after the forward automaton of a set has been added. -/
def addForward (rows : List (List (Nat × Nat))) (size : AutomatonSize) : AutomatonSize :=
  let target := size.states
  let start : Forward := ⟨⟨size.states + 1, size.linkBytes⟩, ∅, [⟨[], none⟩]⟩
  let automaton := rows.foldl (Forward.add target) start
  (finishPath target automaton.path automaton.size automaton.memory).2.1

/-- The number of slots of the backward memory. -/
def backwardSlots : UInt64 := 1000

/-- Adds the state for a range of bytes in front of a state, unless it is remembered. -/
def addBackwardState (current : Nat × AutomatonSize × Memory) (range : Nat × Nat) :
    Nat × AutomatonSize × Memory :=
  let (target, size, memory) := current
  let links : List Link := [⟨range.1, range.2, target⟩]
  let slot := slotOf backwardSlots [target, range.1, range.2]
  match remembered? memory slot links with
  | some number => (number, size, memory)
  | none => (size.states, ⟨size.states + 1, size.linkBytes⟩, memory.insert slot (links, size.states))

/-- Adds the states of a row, and a link to the first of them. -/
def addBackwardRow (target : Nat) (current : AutomatonSize × Memory) (row : List (Nat × Nat)) :
    AutomatonSize × Memory :=
  let (_, size, memory) := row.foldl addBackwardState (target, current.1, current.2)
  (⟨size.states, size.linkBytes + 4⟩, memory)

/-- The size after the backward automaton of a set has been added. -/
def addBackward (rows : List (List (Nat × Nat))) (size : AutomatonSize) : AutomatonSize :=
  (rows.foldl (addBackwardRow (size.states + 1)) (⟨size.states + 2, size.linkBytes⟩, ∅)).1

end DocumentGateway.Pattern
