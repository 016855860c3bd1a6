import SerialConsole.Text.Digit

/-!
# Output of commands

The lines that a command printed end with one that holds its exit status alone. `parse` separates
the two: the output is the shortest text, empty or ending with a newline, after which only line
ends, the digits of the status and blanks are left.
-/

namespace SerialConsole.Command

def isLineEnd (c : Char) : Bool := c == '\n' || c == '\r'

def isPadding (c : Char) : Bool := c == ' ' || c == '\t' || isLineEnd c

def join (lines : List (List Char)) : List Char := lines.flatMap (· ++ ['\n'])

/-- The digits of a text that holds nothing else but line ends before and blanks after them. -/
def statusDigits? (text : List Char) : Option (List Char) :=
  let (digits, rest) := (text.dropWhile isLineEnd).span Text.isDigit
  if !digits.isEmpty && rest.all isPadding then some digits else none

/-- Splits a text after the shortest output that is followed by a status alone; `seen` is the text
already passed, the last character first. -/
def splitAfter (seen : List Char) : List Char → Option (List Char × List Char)
  | [] => none
  | c :: rest =>
    let seen := c :: seen
    if c = '\n' then
      match statusDigits? rest with
      | some digits => some (digits, seen.reverse)
      | none => splitAfter seen rest
    else splitAfter seen rest

/-- The digits of the exit status and the output before it. -/
def split (text : List Char) : Option (List Char × List Char) :=
  match statusDigits? text with
  | some digits => some (digits, [])
  | none => splitAfter [] text

/-- The largest exit status that is understood. -/
def statusLimit : Nat := 2147483647

/-- The exit status and the output before it. -/
def parse (text : List Char) : Option (Nat × List Char) :=
  match split text with
  | none => none
  | some (digits, output) =>
    if digits.all Text.isAsciiDigit && Text.decimalValue digits ≤ statusLimit then
      some (Text.decimalValue digits, output)
    else none

/-- What became of a command. -/
structure Outcome where
  status : Nat
  output : List Char
  raw : List UInt8
  deriving DecidableEq, Repr

def Outcome.success (o : Outcome) : Bool := o.status == 0

/-- The exit status, the output and the error output. A console shows both streams as one, so the
last is always empty. -/
def Outcome.triple (o : Outcome) : Nat × List Char × List Char := (o.status, o.output, [])

end SerialConsole.Command
