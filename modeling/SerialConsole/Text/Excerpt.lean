import SerialConsole.Text.Utf8

/-!
# Excerpts

Reports carry only the end of a long text. It is cut in the UTF-8 form of the text, at the first
place between two characters from which on at most `excerptLimit` bytes are left.
-/

namespace SerialConsole.Text

def excerptLimit : Nat := 2048

def utf8Length (text : List Char) : Nat := (encode text).length

def continues (byte : UInt8) : Bool := 0x80 ≤ byte && byte < 0xC0

/-- Whether a place in the UTF-8 form of a text is an end of it or lies between two characters. -/
def isBoundary (bytes : Bytes) (i : Nat) : Bool :=
  match bytes[i]? with
  | some byte => i == 0 || !continues byte
  | none => i == bytes.length

def boundaryFrom (bytes : Bytes) (i : Nat) : Option Nat :=
  if isBoundary bytes i then some i
  else if i < bytes.length then boundaryFrom bytes (i + 1)
  else none
termination_by bytes.length - i

def withoutBytes : Nat → List Char → Option (List Char)
  | 0, text => some text
  | _ + 1, [] => none
  | n + 1, c :: rest =>
    if c.utf8Size ≤ n + 1 then withoutBytes (n + 1 - c.utf8Size) rest else none

/-- The end of a text that is left by a cut in its UTF-8 form; none if there is no such cut. -/
def cut (limit : Nat) (text : List Char) : Option (List Char) := do
  withoutBytes (← boundaryFrom (encode text) (utf8Length text - limit)) text

def excerpt (text : List Char) : List Char :=
  if utf8Length text ≤ excerptLimit then text else (cut excerptLimit text).getD []

end SerialConsole.Text
