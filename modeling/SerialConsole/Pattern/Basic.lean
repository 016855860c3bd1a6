import SerialConsole.Failure
import SerialConsole.Pattern.Program
import SerialConsole.Pattern.Reader

/-!
# Patterns

A pattern is read from its notation once and then searched for in texts. `find` gives the first
match, `split` the text before it, the match, and the text after it, and `spans` several matches
that do not overlap.
-/

namespace SerialConsole

/-- A pattern. -/
structure Pattern where
  source : String
  program : Pattern.Program
  deriving Inhabited

namespace Pattern

def ofString (source : String) : Except Failure Pattern :=
  match read source.toList with
  | .ok e => .ok ⟨source, .ofExpr e⟩
  | .error reason => .error (.invalidPattern source reason)

def find (p : Pattern) (text : List Char) : Option Span := p.program.search none 0 text

/-- A text cut at the first match of a pattern. -/
structure Found where
  before : List Char
  matched : List Char
  deriving DecidableEq, Repr

/-- The text up to the first match, the match, and the text after it. -/
def split (p : Pattern) (text : List Char) : Option (Found × List Char) :=
  (p.find text).map fun span =>
    (⟨text.take span.skipped, (text.drop span.skipped).take span.length⟩,
      text.drop (span.skipped + span.length))

/-- Up to `count` matches from a place on, given the character before it, the end of the match
before it and the text after it. No match is empty that touches the one before it: the search then
begins again one character later. -/
def matchesFrom (p : Pattern) (before : Option Char) (place : Nat) (lastEnd : Option Nat)
    (text : List Char) : Nat → List Span
  | 0 => []
  | count + 1 =>
    let first := p.program.search before place text
    let (found, before, place, text) :=
      match first, text with
      | some span, c :: rest =>
        if span.length = 0 ∧ lastEnd = some span.skipped then
          (p.program.search (some c) (place + 1) rest, some c, place + 1, rest)
        else (first, before, place, text)
      | some span, [] =>
        if lastEnd = some span.skipped then (none, before, place, text)
        else (first, before, place, text)
      | none, _ => (none, before, place, text)
    match found with
    | none => []
    | some span =>
      let stop := span.skipped + span.length
      let passed := text.take (stop - place)
      span :: matchesFrom p (passed.getLast? <|> before) stop (some stop)
        (text.drop (stop - place)) count

def spans (p : Pattern) (text : List Char) (count : Nat) : List Span :=
  p.matchesFrom none 0 none text count

end Pattern

end SerialConsole
