import SerialConsole.Mark
import SerialConsole.Target
import SerialConsole.Text.Utf8

/-!
# Scripted consoles

A scripted console stands in for a machine: it waits for what its script says it should receive, and
answers what its script says. It is infinitely fast, so it has always run until it waits for more.

While it still reads the lines with which it begins, its terminal shows what is typed.
-/

namespace SerialConsole.Rehearsal

/-- A step of a script. -/
inductive Step where
  | receive (stop : Bytes)
  | say (text : String)
  | sayBytes (bytes : Bytes)
  | exit
  deriving DecidableEq, Repr

structure Script where
  cooked : Nat := 0
  steps : List Step := []
  deriving DecidableEq, Repr

structure Console where
  launch : Launch
  script : Script
  input : Bytes := []
  output : Bytes := []
  line : List Char := []
  marks : List Mark := []
  received : List (List Char) := []
  ended : Bool := false
  deriving Repr

/-- Cuts bytes after the first occurrence of `stop`; `passed` is what lies before, the last byte
first. -/
def cutAfter (stop : Bytes) (passed : Bytes) : Bytes → Option (Bytes × Bytes)
  | [] => if stop.isEmpty then some (passed.reverse, []) else none
  | byte :: rest =>
    if stop.isPrefixOf (byte :: rest) then
      some (passed.reverse, (byte :: rest).drop stop.length)
    else cutAfter stop (byte :: passed) rest

/-- What a terminal shows of a byte that is typed: a line end as return and line feed, other control
characters but the tab as a caret and a letter. -/
def shown (byte : UInt8) : Bytes :=
  if byte = 10 then [13, 10]
  else if byte = 9 then [9]
  else if byte < 32 then [94, byte + 64]
  else if byte = 127 then [94, 63]
  else [byte]

namespace Console

/-- The text with its placeholders filled in: those for the text read last, for each mark by its
number, and for the last mark. -/
def fill (c : Console) (text : String) : String :=
  let text := text.replace "{LINE}" (String.ofList c.line)
  let number := fun (text, n) (m : Mark) =>
    (String.replace text s!"\x7bMARK{n}\x7d" (toString m), n + 1)
  let (text, _) := c.marks.reverse.foldl number (text, (1 : Nat))
  match c.marks with
  | [] => text
  | last :: _ => text.replace "{MARK}" (toString last)

/-- Reads up to the end of the next occurrence of `stop`, if it is there. A mark in what is read is
remembered, unless it is the last one again. -/
def readPast (stop : Bytes) (c : Console) : Option Console :=
  (cutAfter stop [] c.input).map fun (before, rest) =>
    let text := Text.decodeLossy (before ++ stop)
    let marks := match Mark.find? text with
      | some m => if c.marks.head? = some m then c.marks else m :: c.marks
      | none => c.marks
    { c with
      input := rest
      line := Text.decodeLossy before
      marks
      received := text :: c.received }

/-- Reads the lines at the start, as far as they are there; tells whether that is all of them. -/
def readCooked : Nat → Console → Bool × Console
  | 0, c => (true, { c with script := { c.script with cooked := 0 } })
  | count + 1, c =>
    match c.readPast [10] with
    | some c => readCooked count c
    | none => (false, { c with script := { c.script with cooked := count + 1 } })

/-- Takes steps until one has to wait. -/
def perform : List Step → Console → Console
  | [], c => { c with input := [], script := { c.script with steps := [] } }
  | .exit :: _, c => { c with input := [], ended := true, script := {} }
  | .say text :: rest, c =>
    perform rest { c with output := c.output ++ Text.bytesOf (c.fill text) }
  | .sayBytes bytes :: rest, c => perform rest { c with output := c.output ++ bytes }
  | .receive stop :: rest, c =>
    match c.readPast stop with
    | some c => perform rest c
    | none => { c with script := { c.script with steps := .receive stop :: rest } }

def advance (c : Console) : Console :=
  match readCooked c.script.cooked c with
  | (true, c) => perform c.script.steps c
  | (false, c) => c

def start (launch : Launch) (script : Script) : Console := advance { launch, script }

/-- Types on the terminal. Once the console has ended that does nothing. -/
def type (bytes : Bytes) (c : Console) : Console :=
  if c.ended then c
  else
    let echo := if c.script.cooked = 0 then [] else bytes.flatMap shown
    advance { c with input := c.input ++ bytes, output := c.output ++ echo }

end Console

end SerialConsole.Rehearsal
