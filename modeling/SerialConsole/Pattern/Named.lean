import SerialConsole.Text.Age
import SerialConsole.Text.Blank
import SerialConsole.Text.CaseFold
import SerialConsole.Text.Segmentation

/-!
# Named character sets

The sets that patterns ask for by name: the short classes of digits, blanks and word characters,
the classes of bracketed names, and general categories, scripts, ages, classes for segmentation and
other properties. Case, blanks, hyphens and underscores in the names of the latter do not matter,
nor does a leading `is`.
-/

namespace SerialConsole.Pattern

open Text

def wordChars : CharSet :=
  .unions [Property.alphabetic, Category.mark, decimalDigits, Category.connectorPunctuation,
    Property.joinControl]

def asciiWordChars : CharSet := ⟨[(0x30, 0x39), (0x41, 0x5A), (0x5F, 0x5F), (0x61, 0x7A)]⟩

def asciiDigits : CharSet := ⟨[(0x30, 0x39)]⟩

def asciiBlanks : CharSet := ⟨[(0x9, 0xD), (0x20, 0x20)]⟩

def bracketed? (name : String) : Option CharSet :=
  match name with
  | "alnum" => some ⟨[(0x30, 0x39), (0x41, 0x5A), (0x61, 0x7A)]⟩
  | "alpha" => some ⟨[(0x41, 0x5A), (0x61, 0x7A)]⟩
  | "ascii" => some ⟨[(0x0, 0x7F)]⟩
  | "blank" => some ⟨[(0x9, 0x9), (0x20, 0x20)]⟩
  | "cntrl" => some ⟨[(0x0, 0x1F), (0x7F, 0x7F)]⟩
  | "digit" => some asciiDigits
  | "graph" => some ⟨[(0x21, 0x7E)]⟩
  | "lower" => some ⟨[(0x61, 0x7A)]⟩
  | "print" => some ⟨[(0x20, 0x7E)]⟩
  | "punct" => some ⟨[(0x21, 0x2F), (0x3A, 0x40), (0x5B, 0x60), (0x7B, 0x7E)]⟩
  | "space" => some asciiBlanks
  | "upper" => some ⟨[(0x41, 0x5A)]⟩
  | "word" => some asciiWordChars
  | "xdigit" => some ⟨[(0x30, 0x39), (0x41, 0x46), (0x61, 0x66)]⟩
  | _ => none

def closeAsciiCase (s : CharSet) : CharSet :=
  let letters := s.inter ⟨[(0x41, 0x5A), (0x61, 0x7A)]⟩
  let other := letters.ranges.map fun r =>
    if r.1 < 0x61 then (r.1 + 32, r.2 + 32) else (r.1 - 32, r.2 - 32)
  .ofRanges (s.ranges ++ other)

/-! ## Names -/

def plainName (name : String) : String :=
  let cs := name.toList.map Char.toLower
  let announced := cs.take 2 == ['i', 's']
  let cs := if announced then cs.drop 2 else cs
  let cs := cs.filter fun c => c.toNat < 0x80 && c != ' ' && c != '_' && c != '-'
  if announced && cs == ['c'] then "isc" else String.ofList cs

def lookUp {β : Type} (name : String) (table : List (List String × β)) : Option β :=
  (table.find? fun entry => entry.1.contains name).map Prod.snd

def category? (name : String) : Option CharSet := lookUp name Category.named

def script? (name : String) : Option Script := Script.known.find? fun s => s.names.contains name

def property? (name : String) : Option CharSet :=
  (lookUp name Property.named).map fun members => members ()

def class? (name : String) (classes : Segmentation.Classes) : Option CharSet :=
  (lookUp name classes).map fun members => members ()

/-- The set under a single name: a property, a general category or a script. Three short names
belong to general categories although properties have them too. -/
def named? (name : String) : Option CharSet :=
  let name := plainName name
  let isCategory := name == "cf" || name == "sc" || name == "lc"
  (if isCategory then none else property? name)
    <|> category? name
    <|> (script? name).map Script.members

def valued? (property value : String) : Option CharSet :=
  let value := plainName value
  match plainName property with
  | "gc" | "generalcategory" => category? value
  | "sc" | "script" => (script? value).map Script.members
  | "scx" | "scriptextensions" => (script? value).map Script.usedWith
  | "age" => Edition.knownIn? value
  | "gcb" | "graphemeclusterbreak" => class? value Segmentation.graphemeBreaks
  | "wb" | "wordbreak" => class? value Segmentation.wordBreaks
  | "sb" | "sentencebreak" => class? value Segmentation.sentenceBreaks
  | _ => none

end SerialConsole.Pattern
