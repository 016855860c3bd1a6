/-!
# Text in bytes

The UTF-8 form of a text, and the reading of bytes that need not be one. `decode?` accepts exactly
the UTF-8 forms; `decodeLossy` accepts any bytes and puts a replacement character for each longest
run that begins no character.
-/

namespace SerialConsole

abbrev Bytes := List UInt8

namespace Text

def encode (text : List Char) : Bytes := text.flatMap String.utf8EncodeChar

def bytesOf (text : String) : Bytes := encode text.toList

def replacement : Char := '\uFFFD'

/-- How the rest of a character's UTF-8 form continues after its first byte: the number of further
bytes, and the range of the first of them. -/
structure Continuation where
  count : Nat
  low : UInt8 := 0x80
  high : UInt8 := 0xBF
  deriving DecidableEq, Repr

/-- Which bytes may follow the first byte of a longer form, and the value bits of that byte. -/
def continuationOf (first : UInt8) : Option (Continuation × Nat) :=
  if 0xC2 ≤ first && first ≤ 0xDF then some (⟨1, 0x80, 0xBF⟩, first.toNat % 32)
  else if first = 0xE0 then some (⟨2, 0xA0, 0xBF⟩, first.toNat % 16)
  else if first = 0xED then some (⟨2, 0x80, 0x9F⟩, first.toNat % 16)
  else if 0xE1 ≤ first && first ≤ 0xEF then some (⟨2, 0x80, 0xBF⟩, first.toNat % 16)
  else if first = 0xF0 then some (⟨3, 0x90, 0xBF⟩, first.toNat % 8)
  else if 0xF1 ≤ first && first ≤ 0xF3 then some (⟨3, 0x80, 0xBF⟩, first.toNat % 8)
  else if first = 0xF4 then some (⟨3, 0x80, 0x8F⟩, first.toNat % 8)
  else none

/-- A place between two bytes: outside a character, or inside one whose value so far is known. -/
inductive Place where
  | outside
  | inside (expected : Continuation) (value : Nat)
  deriving DecidableEq, Repr

/-- What one byte yields: characters, and the place after it. `none` marks an ill-formed spot. -/
def Place.next (place : Place) (byte : UInt8) : List (Option Char) × Place :=
  match place with
  | .outside => start byte
  | .inside expected value =>
    if expected.low ≤ byte && byte ≤ expected.high then
      let value := value * 64 + byte.toNat % 64
      if expected.count ≤ 1 then ([some (Char.ofNat value)], .outside)
      else ([], .inside ⟨expected.count - 1, 0x80, 0xBF⟩ value)
    else
      let (produced, place) := start byte
      (none :: produced, place)
where
  start (byte : UInt8) : List (Option Char) × Place :=
    if byte < 0x80 then ([some (Char.ofNat byte.toNat)], .outside)
    else match continuationOf byte with
      | some (expected, value) => ([], .inside expected value)
      | none => ([none], .outside)

/-- What has been read of a byte sequence: the place after it, and its characters, the last one
first, with `none` for each ill-formed run. -/
abbrev Progress := Place × List (Option Char)

def Progress.step (p : Progress) (byte : UInt8) : Progress :=
  let (produced, place) := p.1.next byte
  (place, produced.reverse ++ p.2)

def characters (bytes : Bytes) : List (Option Char) :=
  let (place, seen) := bytes.foldl Progress.step (.outside, [])
  match place with
  | .outside => seen.reverse
  | .inside .. => (none :: seen).reverse

/-- The text of any bytes, with the replacement character for each ill-formed run. -/
def decodeLossy (bytes : Bytes) : List Char := (characters bytes).map (·.getD replacement)

def decode? (bytes : Bytes) : Option (List Char) := (characters bytes).mapM id

/-! ## Hexadecimal -/

def hexDigit (n : Nat) : Char := Nat.digitChar n

def hex (bytes : Bytes) : String :=
  String.ofList (bytes.flatMap fun b => [hexDigit (b.toNat / 16), hexDigit (b.toNat % 16)])

end Text

end SerialConsole
