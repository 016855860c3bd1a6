import SerialConsole.Markup.Scalar
import SerialConsole.Markup.Tag

/-!
# Tokens

The marks and words of markup. `Token.ofText` finds them in a text. Most of its work is to tell
where the nested lists and tables begin and end that are marked by indentation alone, and which
words turn out to be keys once the colon after them has been seen.
-/

namespace SerialConsole.Markup

inductive Token where
  | version (major minor : Nat)
  | handle (name : List Char) (beginning : Bytes)
  | documentStart
  | documentEnd
  | blockListStart
  | blockTableStart
  | blockEnd
  | listStart
  | listEnd
  | tableStart
  | tableEnd
  | entry
  | comma
  | key
  | value
  | alias (name : List Char)
  | anchor (name : List Char)
  | tag (tag : Tag)
  | scalar (style : Style) (text : List Char)
  deriving DecidableEq, Repr

/-- A word that will be a key if a colon follows it. -/
structure Candidate where
  required : Bool
  place : Nat
  position : Position
  deriving DecidableEq, Repr

/-- How many octets a colon may be from the start of its key. -/
def keyLimit : Nat := 1024

/-- A text of which some tokens have been found. -/
structure Tokenizer where
  cursor : Cursor
  tokens : Array Token := #[]
  flow : Nat := 0
  indent : Int := -1
  /-- The columns of those around it, the innermost first. -/
  outer : List Int := []
  keyAllowed : Bool := true
  /-- The candidates for keys, for each open bracket and for what is around all of them; the
  innermost first. -/
  candidates : List (Option Candidate) := [none]
  deriving Repr

namespace Tokenizer

def add (t : Tokenizer) (token : Token) : Tokenizer := { t with tokens := t.tokens.push token }

def column (t : Tokenizer) : Nat := t.cursor.column

/-! ## Blank space -/

/-- Passes over blank space, comments and line ends, and over the mark of the encoding at the start,
which takes a column like any other character. A key may begin on a new line. -/
def passBlanks (flow : Bool) : List Char → Position → Bool → Bool → Cursor × Bool
  | [], p, _, keyAllowed => (⟨[], p⟩, keyAllowed)
  | c :: rest, p, comment, keyAllowed =>
    if isBreak c then passBlanks flow rest (p.after c) false (keyAllowed || !flow)
    else if comment || c == ' ' || c == '\t' && (flow || !keyAllowed) ||
        c == byteOrderMark && p.index == 0 then
      passBlanks flow rest (p.after c) comment keyAllowed
    else if c == '#' then passBlanks flow rest (p.after c) true keyAllowed
    else (⟨c :: rest, p⟩, keyAllowed)

/-! ## Indentation -/

/-- Begins an indented list or table at a column, unless one has begun there, or a bracket is open.
The token is added at `place`. -/
def openBlock (t : Tokenizer) (column place : Nat) (token : Token) : Tokenizer :=
  if t.flow = 0 ∧ t.indent < column then
    { t with
      indent := column
      outer := t.indent :: t.outer
      tokens := t.tokens.insertIdxIfInBounds place token }
  else t

def closeBlocks (column : Int) (t : Tokenizer) : List Int → Tokenizer
  | [] => t
  | around :: outer =>
    if t.flow = 0 ∧ column < t.indent then
      closeBlocks column { t.add .blockEnd with indent := around, outer } outer
    else t

/-! ## Keys -/

def dropCandidate (t : Tokenizer) : Except String Tokenizer :=
  match t.candidates with
  | [] => .ok t
  | first :: rest =>
    if first.any (·.required) then .error "a key without its colon"
    else .ok { t with candidates := none :: rest }

/-- Makes the next token a candidate, if a key may begin here. -/
def noteCandidate (t : Tokenizer) : Except String Tokenizer :=
  if t.keyAllowed then do
    let candidate : Candidate :=
      { required := t.flow = 0 ∧ t.indent = t.column
        place := t.tokens.size
        position := t.cursor.position }
    let t ← t.dropCandidate
    return { t with candidates := some candidate :: t.candidates.drop 1 }
  else .ok t

def isStale (t : Tokenizer) (c : Candidate) : Bool :=
  c.position.line < t.cursor.position.line ||
    c.position.index + keyLimit < t.cursor.position.index

def dropStale (t : Tokenizer) : Except String Tokenizer :=
  if t.candidates.any fun c => c.any fun c => t.isStale c && c.required then
    .error "a key without its colon"
  else .ok { t with candidates := t.candidates.map fun c => c.filter fun c => !t.isStale c }

/-! ## Tokens -/

def mark (t : Tokenizer) (length : Nat) (token : Token) : Tokenizer :=
  { t.add token with cursor := t.cursor.skip length }

def versionNumber (c : Cursor) : Except String (Nat × Cursor) :=
  let (digits, c) := c.takeWhile Char.isDigit
  if digits.isEmpty || 9 < digits.length then .error "a version that is no number"
  else .ok (digits.foldl (fun n d => n * 10 + (d.toNat - '0'.toNat)) 0, c)

def directive (t : Tokenizer) : Except String Tokenizer := do
  let t ← (closeBlocks (-1) t t.outer).dropCandidate
  let (name, c) := t.cursor.next.takeWhile isNameChar
  unless !name.isEmpty && atBlank c.rest do throw "a directive without a name"
  let c := c.skipWhile isBlank
  let (token, c) ←
    match String.ofList name with
    | "YAML" => do
      let (major, c) ← versionNumber c
      unless c.isAt '.' do throw "a version without a point"
      let (minor, c) ← versionNumber c.next
      pure (Token.version major minor, c)
    | "TAG" => do
      let (handle, c) ← tagHandle c
      unless handle.getLast? = some '!' do throw "a handle without its mark"
      unless c.head?.any isBlank do throw "a handle without a blank after it"
      let (beginning, c) ← tagRest true [] (c.skipWhile isBlank)
      unless atBlank c.rest do throw "a tag without a blank after it"
      pure (Token.handle handle beginning, c)
    | _ => throw "an unknown directive"
  return { t.add token with cursor := ← c.finishLine, keyAllowed := false }

def documentMark (t : Tokenizer) (token : Token) : Except String Tokenizer := do
  let t ← (closeBlocks (-1) t t.outer).dropCandidate
  return { t.mark 3 token with keyAllowed := false }

def openBracket (t : Tokenizer) (token : Token) : Except String Tokenizer := do
  let t ← t.noteCandidate
  return { t.mark 1 token with
    flow := t.flow + 1
    candidates := none :: t.candidates
    keyAllowed := true }

def closeBracket (t : Tokenizer) (token : Token) : Except String Tokenizer := do
  let t ← t.dropCandidate
  let candidates := if t.flow = 0 then t.candidates else t.candidates.drop 1
  return { t.mark 1 token with flow := t.flow - 1, candidates, keyAllowed := false }

def entryMark (t : Tokenizer) : Except String Tokenizer := do
  if t.flow = 0 ∧ !t.keyAllowed then throw "an entry of a list where none may begin"
  let t ← (t.openBlock t.column t.tokens.size .blockListStart).dropCandidate
  return { t.mark 1 .entry with keyAllowed := true }

def keyMark (t : Tokenizer) : Except String Tokenizer := do
  if t.flow = 0 ∧ !t.keyAllowed then throw "a key where none may begin"
  let t ← (t.openBlock t.column t.tokens.size .blockTableStart).dropCandidate
  return { t.mark 1 .key with keyAllowed := t.flow = 0 }

/-- Reads the mark of a value. It makes the candidate before it a key. -/
def valueMark (t : Tokenizer) : Except String Tokenizer := do
  match t.candidates with
  | some candidate :: rest =>
    let t := { t with
      tokens := t.tokens.insertIdxIfInBounds candidate.place .key
      candidates := none :: rest }
    let t := t.openBlock candidate.position.column candidate.place .blockTableStart
    return { t.mark 1 .value with keyAllowed := false }
  | _ =>
    if t.flow = 0 ∧ !t.keyAllowed then throw "a value where none may begin"
    let t := t.openBlock t.column t.tokens.size .blockTableStart
    return { t.mark 1 .value with keyAllowed := t.flow = 0 }

def mayFollowName (c : Char) : Bool := "?:,]\x7d%@\x60".contains c

def nameMark (t : Tokenizer) (token : List Char → Token) : Except String Tokenizer := do
  let t ← t.noteCandidate
  let (name, c) := t.cursor.next.takeWhile isNameChar
  unless !name.isEmpty && (atBlank c.rest || c.head?.any mayFollowName) do
    throw "an anchor without a name"
  return { t.add (token name) with cursor := c, keyAllowed := false }

def tagMark (t : Tokenizer) : Except String Tokenizer := do
  let t ← t.noteCandidate
  let (tag, cursor) ← Tag.read (t.flow ≠ 0) t.cursor
  return { t.add (.tag tag) with cursor, keyAllowed := false }

def block (t : Tokenizer) (style : Style) : Except String Tokenizer := do
  let t ← t.dropCandidate
  let (text, cursor) ← blockScalar style t.indent t.cursor.next
  return { t.add (.scalar style text) with cursor, keyAllowed := true }

def quoted (t : Tokenizer) (style : Style) : Except String Tokenizer := do
  let t ← t.noteCandidate
  let start := t.cursor.next
  let (s, cursor) ←
    if style = .singleQuoted then singleQuotedScalar start.rest start.position {}
    else doubleQuotedScalar start.rest start.position .text {}
  return { t.add (.scalar style s.text) with cursor, keyAllowed := false }

/-- Reads a plain scalar. A key may begin after it if it ends before a new line. -/
def plain (t : Tokenizer) : Except String Tokenizer := do
  let t ← t.noteCandidate
  let (s, cursor) ← plainScalar (t.flow ≠ 0) (t.indent + 1) t.cursor.rest t.cursor.position {}
  return { t.add (.scalar .plain s.text) with cursor, keyAllowed := s.gap.broken }

def token (t : Tokenizer) : Except String Tokenizer :=
  let flow : Bool := t.flow ≠ 0
  match t.cursor.rest with
  | [] => .ok t
  | c :: rest =>
    if t.column = 0 ∧ c = '%' then t.directive
    else if t.column = 0 ∧ atDocumentMark (c :: rest) then
      t.documentMark (if c = '-' then .documentStart else .documentEnd)
    else if (c == '-' && atBlank rest) then t.entryMark
    else if c == '?' && (flow || atBlank rest) then t.keyMark
    else if c == ':' && (flow || atBlank rest) then t.valueMark
    else match c with
      | '[' => t.openBracket .listStart
      | '{' => t.openBracket .tableStart
      | ']' => t.closeBracket .listEnd
      | '}' => t.closeBracket .tableEnd
      | ',' => do return { (← t.dropCandidate).mark 1 .comma with keyAllowed := true }
      | '*' => t.nameMark .alias
      | '&' => t.nameMark .anchor
      | '!' => t.tagMark
      | '|' => if flow then .error "a block between brackets" else t.block .literal
      | '>' => if flow then .error "a block between brackets" else t.block .folded
      | '\'' => t.quoted .singleQuoted
      | '"' => t.quoted .doubleQuoted
      | '\t' | '#' | '%' | '@' | '\x60' => .error "a character that begins nothing"
      | _ => t.plain

def next (t : Tokenizer) : Except String (Bool × Tokenizer) := do
  let (cursor, keyAllowed) :=
    passBlanks (t.flow ≠ 0) t.cursor.rest t.cursor.position false t.keyAllowed
  let t ← { t with cursor, keyAllowed }.dropStale
  let t := closeBlocks t.column t t.outer
  if t.cursor.rest.isEmpty then
    return (false, ← (closeBlocks (-1) t t.outer).dropCandidate)
  else return (true, ← t.token)

def all : Nat → Tokenizer → Except String (Array Token)
  | 0, t => .ok t.tokens
  | fuel + 1, t => do
    match ← t.next with
    | (true, t) => all fuel t
    | (false, t) => return t.tokens

end Tokenizer

/-- The tokens of a text. -/
def Token.ofText (text : List Char) : Except String (List Token) := do
  unless text.all isAllowed do throw "a character that may not occur"
  let text := unifyBreaks text
  let tokens ← Tokenizer.all (text.length + 1) { cursor := ⟨text, {}⟩ }
  return tokens.toList

end SerialConsole.Markup
