import SerialConsole.Markup.Cursor
import SerialConsole.Text.CharSet

/-!
# Scalars

The ways of writing a text: plain, between single or double quotes, and as a block of lines. In the
first three a text may run over several lines, whose ends are folded: one line end reads as a space,
and of several the first is dropped.
-/

namespace SerialConsole.Markup

inductive Style where
  | plain
  | singleQuoted
  | doubleQuoted
  | literal
  | folded
  deriving DecidableEq, Repr

/-! ## Folding -/

/-- What lies between two words of a scalar. -/
structure Gap where
  blanks : List Char := []
  broken : Bool := false
  /-- The first line end, unless it was escaped. -/
  first : Option Char := none
  further : List Char := []
  deriving DecidableEq, Repr

namespace Gap

def isEmpty (g : Gap) : Bool := g.blanks.isEmpty && !g.broken

/-- Adds a blank or a line end. Blanks at the start of a line do not count. -/
def add (g : Gap) (c : Char) : Gap :=
  if isBlank c then if g.broken then g else { g with blanks := c :: g.blanks }
  else if g.broken then { g with further := c :: g.further }
  else { broken := true, first := some c }

def text (g : Gap) : List Char :=
  if g.broken then
    match g.first, g.further with
    | some '\n', [] => [' ']
    | some '\n', further => further.reverse
    | some c, further => c :: further.reverse
    | none, further => further.reverse
  else g.blanks.reverse

end Gap

structure Scalar where
  reversed : List Char := []
  gap : Gap := {}
  fresh : Bool := true
  deriving DecidableEq, Repr

namespace Scalar

def text (s : Scalar) : List Char := s.reversed.reverse

def widen (s : Scalar) (c : Char) : Scalar := { s with gap := s.gap.add c, fresh := true }

def join (s : Scalar) : Scalar :=
  { s with reversed := s.gap.text.reverse ++ s.reversed, gap := {} }

def push (s : Scalar) (c : Char) : Scalar :=
  let s := s.join
  { s with reversed := c :: s.reversed, fresh := false }

end Scalar

/-! ## Plain scalars -/

def isFlowMark (c : Char) : Bool := c == ',' || c == '[' || c == ']' || c == '{' || c == '}'

/-- Reads a plain scalar; `indent` is the least column of its further lines, and `flow` tells
whether it lies within brackets. -/
def plainScalar (flow : Bool) (indent : Int) :
    List Char → Position → Scalar → Except String (Scalar × Cursor)
  | [], p, s => .ok (s, ⟨[], p⟩)
  | c :: rest, p, s =>
    if isBlank c || isBreak c then
      if s.gap.broken && c == '\t' && decide (p.column < indent) then
        .error "a tab among the spaces of an indentation"
      else plainScalar flow indent rest (p.after c) (s.widen c)
    else if !flow && !s.gap.isEmpty && decide (p.column < indent) then .ok (s, ⟨c :: rest, p⟩)
    else if s.fresh && (c == '#' || p.column == 0 && atDocumentMark (c :: rest)) then
      .ok (s, ⟨c :: rest, p⟩)
    else if flow && c == ':' && rest.head?.any (fun d => isFlowMark d || d == '?') then
      .error "a colon without a blank after it"
    else if c == ':' && atBlank rest || flow && isFlowMark c then .ok (s, ⟨c :: rest, p⟩)
    else plainScalar flow indent rest (p.after c) (s.push c)

/-! ## Quoted scalars -/

/-- Reads the rest of a scalar between single quotes; within it, a quote is written twice. -/
def singleQuotedScalar : List Char → Position → Scalar → Except String (Scalar × Cursor)
  | [], _, _ => .error "a quoted scalar without an end"
  | '\'' :: '\'' :: rest, p, s => singleQuotedScalar rest ((p.after '\'').after '\'') (s.push '\'')
  | '\'' :: rest, p, s => .ok (s.join, ⟨rest, p.after '\''⟩)
  | c :: rest, p, s =>
    if isBlank c || isBreak c then singleQuotedScalar rest (p.after c) (s.widen c)
    else if s.fresh && p.column == 0 && atDocumentMark (c :: rest) then
      .error "a mark between documents within quotes"
    else singleQuotedScalar rest (p.after c) (s.push c)

/-- What a double-quoted scalar expects next. -/
inductive Expected where
  | text
  | escape
  /-- Hexadecimal digits of a code point, so many, with the value so far. -/
  | code (digits value : Nat)
  deriving DecidableEq, Repr

def escaped (c : Char) : Option Char :=
  match c with
  | '0' => some '\x00'
  | 'a' => some '\x07'
  | 'b' => some '\x08'
  | 't' => some '\t'
  | '\t' => some '\t'
  | 'n' => some '\n'
  | 'v' => some '\x0b'
  | 'f' => some '\x0c'
  | 'r' => some '\r'
  | 'e' => some '\x1b'
  | ' ' => some ' '
  | '"' => some '"'
  | '/' => some '/'
  | '\\' => some '\\'
  | 'N' => some '\u0085'
  | '_' => some '\u00A0'
  | 'L' => some '\u2028'
  | 'P' => some '\u2029'
  | _ => none

def codeLength (c : Char) : Option Nat :=
  match c with
  | 'x' => some 2
  | 'u' => some 4
  | 'U' => some 8
  | _ => none

/-- Reads the rest of a scalar between double quotes. A backslash begins an escape sequence; at the
end of a line it takes the line end away. -/
def doubleQuotedScalar :
    List Char → Position → Expected → Scalar → Except String (Scalar × Cursor)
  | [], _, _, _ => .error "a quoted scalar without an end"
  | c :: rest, p, .text, s =>
    if isBlank c || isBreak c then doubleQuotedScalar rest (p.after c) .text (s.widen c)
    else if s.fresh && p.column == 0 && atDocumentMark (c :: rest) then
      .error "a mark between documents within quotes"
    else if c == '"' then .ok (s.join, ⟨rest, p.after c⟩)
    else if c == '\\' then
      doubleQuotedScalar rest (p.after c) .escape { s.join with fresh := false }
    else doubleQuotedScalar rest (p.after c) .text (s.push c)
  | c :: rest, p, .escape, s =>
    if isBreak c then
      doubleQuotedScalar rest (p.after c) .text { s with gap := { broken := true }, fresh := true }
    else match escaped c, codeLength c with
      | some char, _ => doubleQuotedScalar rest (p.after c) .text (s.push char)
      | none, some digits => doubleQuotedScalar rest (p.after c) (.code digits 0) s
      | none, none => .error "an unknown escape sequence"
  | c :: rest, p, .code digits value, s =>
    match Text.CharSet.hexValue c with
    | none => .error "a code point without its digits"
    | some digit =>
      let value := value * 16 + digit
      if 1 < digits then doubleQuotedScalar rest (p.after c) (.code (digits - 1) value) s
      else if value.isValidChar then
        doubleQuotedScalar rest (p.after c) .text (s.push (Char.ofNat value))
      else .error "a code point that is no character"

/-! ## Blocks -/

/-- What becomes of the line ends after the last line of a block. -/
inductive Chomping where
  | strip
  | clip
  | keep
  deriving DecidableEq, Repr

/-- What has been seen before a line of a block. -/
structure Margin where
  breaks : List Char := []
  deepest : Nat := 0
  deriving DecidableEq, Repr

/-- Reads the empty lines before a line of a block and its indentation, up to `limit` if that is
known. -/
def blockMargin (limit : Option Nat) :
    List Char → Position → Margin → Except String (Margin × Cursor)
  | [], p, m => .ok ({ m with deepest := max m.deepest p.column }, ⟨[], p⟩)
  | c :: rest, p, m =>
    let indenting := limit.all (p.column < ·)
    if c == ' ' && indenting then blockMargin limit rest (p.after c) m
    else
      let m := { m with deepest := max m.deepest p.column }
      if c == '\t' && indenting then .error "a tab among the spaces of an indentation"
      else if isBreak c then blockMargin limit rest (p.after c) { m with breaks := c :: m.breaks }
      else .ok (m, ⟨c :: rest, p⟩)

structure Block where
  reversed : List Char := []
  lineEnd : List Char := []
  emptyLines : List Char := []
  blankLine : Bool := false
  deriving DecidableEq, Repr

def Block.join (b : Block) (style : Style) (blankNext : Bool) : Block :=
  let lineEnd :=
    if style = .folded ∧ b.lineEnd = ['\n'] ∧ !b.blankLine ∧ !blankNext then
      if b.emptyLines.isEmpty then [' '] else []
    else b.lineEnd
  { b with reversed := b.emptyLines ++ lineEnd ++ b.reversed, lineEnd := [], emptyLines := [] }

def blockLines (style : Style) (indent : Nat) :
    Nat → Cursor → Block → Except String (Block × Cursor)
  | 0, c, b => .ok (b, c)
  | fuel + 1, c, b =>
    if c.column = indent ∧ !c.rest.isEmpty then do
      let blankNext := c.rest.head?.any isBlank
      let b := b.join style blankNext
      let (line, c) := c.takeWhile (!isBreak ·)
      let lineEnd := c.rest.take 1
      let c := c.next
      let (margin, c) ← blockMargin (some indent) c.rest c.position {}
      blockLines style indent fuel c
        { reversed := line.reverse ++ b.reversed
          lineEnd
          emptyLines := margin.breaks
          blankLine := blankNext }
    else .ok (b, c)

/-- What stands after the mark of a block: how its end is chomped, and its indentation. -/
def blockHeader (c : Cursor) : Except String (Chomping × Option Nat × Cursor) :=
  let chomping (c : Cursor) : Option Chomping :=
    if c.isAt '+' then some .keep else if c.isAt '-' then some .strip else none
  let digit (c : Cursor) : Option Nat :=
    (c.head?.filter Char.isDigit).map fun d => d.toNat - '0'.toNat
  let checked (depth : Option Nat) (chomping : Chomping) (c : Cursor) :=
    if depth = some 0 then .error "an indentation of nothing" else .ok (chomping, depth, c)
  match chomping c with
  | some ch =>
    let c := c.next
    match digit c with
    | some d => checked (some d) ch c.next
    | none => checked none ch c
  | none =>
    match digit c with
    | some d =>
      let c := c.next
      match chomping c with
      | some ch => checked (some d) ch c.next
      | none => checked (some d) .clip c
    | none => checked none .clip c

def blockScalar (style : Style) (indent : Int) (c : Cursor) :
    Except String (List Char × Cursor) := do
  let (chomping, depth, c) ← blockHeader c
  let c ← c.finishLine
  let limit := depth.map fun d => (max indent 0).toNat + d
  let (margin, c) ← blockMargin limit c.rest c.position {}
  let limit := limit.getD (max margin.deepest (max (indent + 1) 1).toNat)
  let (b, c) ← blockLines style limit c.rest.length c { emptyLines := margin.breaks }
  let tail := match chomping with
    | .strip => []
    | .clip => b.lineEnd
    | .keep => b.emptyLines ++ b.lineEnd
  return ((tail ++ b.reversed).reverse, c)

end SerialConsole.Markup
