import SerialConsole.Markup.Character

/-!
# Cursors

A cursor is a place in a text of markup: what is left of it, and where that begins.
-/

namespace SerialConsole.Markup

structure Position where
  index : Nat := 0
  line : Nat := 0
  column : Nat := 0
  deriving DecidableEq, Repr, Inhabited

/-- The place after a character. -/
def Position.after (p : Position) (c : Char) : Position :=
  let index := p.index + c.utf8Size
  if isBreak c then ⟨index, p.line + 1, 0⟩ else ⟨index, p.line, p.column + 1⟩

/-- A place in a text, and what is left of the text there. -/
structure Cursor where
  rest : List Char
  position : Position := {}
  deriving DecidableEq, Repr, Inhabited

namespace Cursor

def head? (c : Cursor) : Option Char := c.rest.head?

def isAt (c : Cursor) (char : Char) : Bool := c.rest.head? == some char

def column (c : Cursor) : Nat := c.position.column

def next (c : Cursor) : Cursor :=
  match c.rest with
  | [] => c
  | char :: rest => ⟨rest, c.position.after char⟩

def skip : Nat → Cursor → Cursor
  | 0, c => c
  | count + 1, c => skip count c.next

def takeWhile (test : Char → Bool) (c : Cursor) : List Char × Cursor :=
  let taken := c.rest.takeWhile test
  (taken, c.skip taken.length)

def skipWhile (test : Char → Bool) (c : Cursor) : Cursor := (c.takeWhile test).2

def finishLine (c : Cursor) : Except String Cursor :=
  let c := c.skipWhile isBlank
  let c := if c.isAt '#' then c.skipWhile (!isBreak ·) else c
  if atBreak c.rest then .ok c.next else .error "expected a comment or a line end"

end Cursor

end SerialConsole.Markup
