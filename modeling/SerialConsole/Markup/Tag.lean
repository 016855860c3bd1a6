import SerialConsole.Markup.Cursor
import SerialConsole.Text.CharSet
import SerialConsole.Text.Utf8

/-!
# Tags

A tag tells of what kind a value is. It is written as a handle, which stands for the beginning of
the tag, and the rest of it; or between angle brackets as a whole. Octets of a tag may be written
in hexadecimal, after a percent sign.
-/

namespace SerialConsole.Markup

/-- Whether a character may occur in a tag; those with a meaning within brackets may only between
angle brackets. -/
def isTagChar (verbatim : Bool) (c : Char) : Bool :=
  isNameChar c || ";/?:@&=+$.%!~*'()".contains c || verbatim && ",[]".contains c

def escapedOctet : List Char → Option UInt8
  | '%' :: a :: b :: _ => do
    return UInt8.ofNat ((← Text.CharSet.hexValue a) * 16 + (← Text.CharSet.hexValue b))
  | _ => none

def octetCount (first : UInt8) : Option Nat :=
  if first < 0x80 then some 1
  else if 0xC0 ≤ first && first < 0xE0 then some 2
  else if 0xE0 ≤ first && first < 0xF0 then some 3
  else if 0xF0 ≤ first && first < 0xF8 then some 4
  else none

def furtherOctets : Nat → Cursor → Except String (Bytes × Cursor)
  | 0, c => .ok ([], c)
  | count + 1, c =>
    match escapedOctet c.rest with
    | none => .error "a percent sign without an octet"
    | some octet => do
      if octet &&& 0xC0 ≠ 0x80 then throw "a wrong octet within a character"
      let (octets, c) ← furtherOctets count (c.skip 3)
      return (octet :: octets, c)

def escapedChar (c : Cursor) : Except String (Bytes × Cursor) :=
  match escapedOctet c.rest with
  | none => .error "a percent sign without an octet"
  | some octet => do
    match octetCount octet with
    | none => throw "a wrong octet at the start of a character"
    | some count =>
      let (octets, c) ← furtherOctets (count - 1) (c.skip 3)
      return (octet :: octets, c)

def tagChars (verbatim : Bool) : Nat → Cursor → Bytes → Except String (Bytes × Cursor)
  | 0, c, read => .ok (read, c)
  | fuel + 1, c, read =>
    match c.head? with
    | some char =>
      if char = '%' then do
        let (octets, c) ← escapedChar c
        tagChars verbatim fuel c (read ++ octets)
      else if isTagChar verbatim char then
        tagChars verbatim fuel c.next (read ++ [char.toUInt8])
      else .ok (read, c)
    | none => .ok (read, c)

/-- Reads the rest of a tag that begins with `head`. A tag is not empty, but the exclamation mark
that begins it is enough. -/
def tagRest (verbatim : Bool) (head : List Char) (c : Cursor) : Except String (Bytes × Cursor) := do
  let (rest, after) ← tagChars verbatim c.rest.length c []
  if head.isEmpty && after.rest.length = c.rest.length then throw "a tag without characters"
  return (Text.encode (head.drop 1) ++ rest, after)

/-- Reads a handle: an exclamation mark, or a name between two of them. What turns out to be none
is given as it is. -/
def tagHandle (c : Cursor) : Except String (List Char × Cursor) :=
  if c.isAt '!' then
    let (name, c) := c.next.takeWhile isNameChar
    if c.isAt '!' then .ok ('!' :: name ++ ['!'], c.next) else .ok ('!' :: name, c)
  else .error "a handle without its mark"

structure Tag where
  handle : List Char
  suffix : Bytes
  deriving DecidableEq, Repr

def Tag.read (flow : Bool) (c : Cursor) : Except String (Tag × Cursor) := do
  let (tag, c) ←
    if c.next.isAt '<' then do
      let (suffix, c) ← tagRest true [] (c.skip 2)
      unless c.isAt '>' do throw "a tag without its closing bracket"
      pure (⟨[], suffix⟩, c.next)
    else do
      let (handle, c) ← tagHandle c
      if 1 < handle.length ∧ handle.getLast? = some '!' then
        let (suffix, c) ← tagRest false [] c
        pure (⟨handle, suffix⟩, c)
      else
        let (suffix, c) ← tagRest false handle c
        pure (if suffix.isEmpty then ⟨[], Text.encode ['!']⟩ else ⟨['!'], suffix⟩, c)
  unless atBlank c.rest || flow && c.isAt ',' do throw "a tag without a blank after it"
  return (tag, c)

/-- The handles of a document, with the beginnings of tags for which they stand. -/
abbrev TagHandles := List (List Char × Bytes)

def standardTag : Bytes := Text.bytesOf "tag:yaml.org,2002:"

def defaultHandles : TagHandles := [(['!'], Text.bytesOf "!"), (['!', '!'], standardTag)]

/-- The tag in full. A lone exclamation mark is no tag. -/
def Tag.resolve (tag : Tag) (handles : TagHandles) : Except String (Option Bytes) :=
  if tag.handle.isEmpty then
    .ok (if tag.suffix = Text.bytesOf "!" then none else some tag.suffix)
  else match handles.lookup tag.handle with
    | some beginning => .ok (some (beginning ++ tag.suffix))
    | none => .error "an unknown handle"

end SerialConsole.Markup
