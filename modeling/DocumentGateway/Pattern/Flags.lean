import DocumentGateway.Pattern.Basic
import DocumentGateway.Text.Blank

/-!
# Flags of patterns

Flags change what the following parts of a pattern mean, up to the end of the group they
stand in: whether case matters, what `.`, `^` and `$` stand for, whether blanks and
comments are skipped, whether sets are drawn from all characters or from ASCII alone,
and which kind of repetition a plain operator denotes.
-/
namespace DocumentGateway.Pattern

open Text

/-- The flags in force at a point of the text. -/
structure Flags where
  anyCase : Bool := false
  lines : Bool := false
  dotAll : Bool := false
  spaced : Bool := false
  crlf : Bool := false
  swapGreed : Bool := false
  alphabet : Alphabet := .unicode

/-- The text after blanks and comments. A comment ends with its line. -/
def skipComments : Bool → List Char → List Char
  | _, [] => []
  | true, c :: rest => skipComments (c ≠ '\n') rest
  | false, c :: rest =>
    if isBlank c then skipComments false rest
    else if c = '#' then skipComments true rest
    else c :: rest

namespace Flags

/-- Turns one flag on or off. -/
def set? (flags : Flags) (on : Bool) : Char → Option Flags
  | 'i' => some { flags with anyCase := on }
  | 'm' => some { flags with lines := on }
  | 's' => some { flags with dotAll := on }
  | 'x' => some { flags with spaced := on }
  | 'R' => some { flags with crlf := on }
  | 'u' => some { flags with alphabet := if on then .unicode else .ascii }
  | 'U' => some { flags with swapGreed := on }
  | _ => none

/-- The text after what the flags allow to be skipped. -/
def skip (flags : Flags) (text : List Char) : List Char :=
  if flags.spaced then skipComments false text else text

/-- The next character that counts, as far as it is looked for: past blanks and the mark
of one comment. -/
def peek (flags : Flags) (text : List Char) : Option Char :=
  if flags.spaced then
    let rest := match text.dropWhile isBlank with
      | '#' :: more => more.dropWhile isBlank
      | rest => rest
    rest.head? <|> text.head?
  else text.head?

/-- Widens a set to all case variants when the flags ask for it. -/
def widen (flags : Flags) (set : CharSet) : CharSet :=
  if flags.anyCase then
    match flags.alphabet with
    | .unicode => set.foldCase
    | .ascii => set.foldCase.intersection (CharSet.between '\x00' '\x7f')
  else set

/-- The complement of a set when it is asked for. It is always drawn from all characters,
so there is none where sets are drawn from ASCII. -/
def negate? (flags : Flags) (negated : Bool) (set : CharSet) : Option CharSet :=
  if negated then
    match flags.alphabet with
    | .unicode => some set.complement
    | .ascii => none
  else some set

/-- The characters of `\d`. -/
def digits (flags : Flags) : CharSet :=
  match flags.alphabet with
  | .unicode => decimalDigits
  | .ascii => CharSet.between '0' '9'

/-- The characters of `\s`. -/
def blanks (flags : Flags) : CharSet :=
  match flags.alphabet with
  | .unicode => CharSet.ofPairs blankRanges
  | .ascii => CharSet.ofPairs [(0x09, 0x0D), (0x20, 0x20)]

/-- The ASCII characters of words. -/
def asciiWord : CharSet :=
  CharSet.ofPairs [(0x30, 0x39), (0x41, 0x5A), (0x5F, 0x5F), (0x61, 0x7A)]

/-- The characters of `\w`. -/
def word (flags : Flags) : CharSet :=
  match flags.alphabet with
  | .unicode => wordCharacters
  | .ascii => asciiWord

/-- Whether a character may be a member of a set. -/
def admits (flags : Flags) (c : Char) : Bool :=
  flags.alphabet = .unicode || c.toNat < 0x80

/-- The pattern of a literal character. When case does not matter it is the set of its
variants, if it has any. -/
def literal (flags : Flags) (c : Char) : Pattern :=
  if flags.anyCase && flags.admits c && (caseVariants? c).isSome then
    ofSet (flags.widen (CharSet.single c)) flags.alphabet
  else .literal [c]

/-- The pattern of `.`, which exists only among all characters. -/
def dot? (flags : Flags) : Option Pattern :=
  match flags.alphabet with
  | .ascii => none
  | .unicode =>
    let excluded := if flags.dotAll then [] else if flags.crlf then ['\n', '\r'] else ['\n']
    some (ofSet (CharSet.ofChars excluded).complement .unicode)

/-- The assertion of `^`. -/
def start (flags : Flags) : Assertion :=
  if flags.lines then if flags.crlf then .lineStartCrlf else .lineStart else .textStart

/-- The assertion of `$`. -/
def finish (flags : Flags) : Assertion :=
  if flags.lines then if flags.crlf then .lineEndCrlf else .lineEnd else .textEnd

end Flags

/-- The flags of a group and whether a closing parenthesis follows them. Every flag may
be named once, and a minus sign must be followed by a flag. -/
def readFlags (flags : Flags) (seen : List Char) (negated dangling : Bool) :
    List Char → Option (Flags × Bool × List Char)
  | [] => none
  | ':' :: rest => if dangling then none else some (flags, false, rest)
  | ')' :: rest => if dangling || seen.isEmpty then none else some (flags, true, rest)
  | '-' :: rest => if negated then none else readFlags flags seen true true rest
  | c :: rest =>
    if seen.contains c then none
    else match flags.set? (!negated) c with
      | some flags => readFlags flags (c :: seen) negated false rest
      | none => none

end DocumentGateway.Pattern
