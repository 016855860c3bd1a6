import SerialConsole.Text.Blank

/-!
# Marks

Each operation on the console ends its output with a line that nothing else would print: a mark. A
mark consists of `=` signs, a random token in hexadecimal, and `=` signs, so no shell changes it.
-/

namespace SerialConsole

def Text.occursIn (part : List Char) : List Char → Bool
  | [] => part.isEmpty
  | c :: rest => part.isPrefixOf (c :: rest) || occursIn part rest

/-- A mark, known by its random token. -/
structure Mark where
  token : BitVec 128
  deriving DecidableEq, Repr, Inhabited

namespace Mark

def fence : List Char := List.replicate 16 '='

def digitCount : Nat := 32

/-- The `count` lowest hexadecimal digits of a number, the most significant first. -/
def hexDigits : Nat → Nat → List Char
  | 0, _ => []
  | count + 1, n => hexDigits count (n / 16) ++ [Nat.digitChar (n % 16)]

def digits (m : Mark) : List Char := hexDigits digitCount m.token.toNat

def text (m : Mark) : List Char := fence ++ m.digits ++ fence

instance : ToString Mark := ⟨fun m => String.ofList m.text⟩

/-- Whether a line is the mark, but for blanks around it. -/
def terminates (m : Mark) (line : List Char) : Bool := Text.trim line == m.text

def echoedIn (m : Mark) (line : List Char) : Bool :=
  Text.occursIn m.text line && !m.terminates line

def ofText? (text : List Char) : Option Mark :=
  let digits := (text.drop fence.length).take digitCount
  let value := digits.foldl (fun n c => n * 16 + (Text.CharSet.hexValue c).getD 0) 0
  let m : Mark := ⟨BitVec.ofNat 128 value⟩
  if m.text = text then some m else none

def find? : List Char → Option Mark
  | [] => none
  | c :: rest =>
    let found :=
      if fence.isPrefixOf (c :: rest) then
        ofText? ((c :: rest).take (fence.length + digitCount + fence.length))
      else none
    found <|> find? rest

/-- What a line of the console means to the operation that waits for a mark. -/
inductive LineKind where
  | terminator
  /-- The mark inside other text: the console shows what was typed. -/
  | echo
  | content
  deriving DecidableEq, Repr

def classify (m : Mark) (line : List Char) : LineKind :=
  if m.terminates line then .terminator
  else if m.echoedIn line then .echo
  else .content

end Mark

end SerialConsole
