import SerialConsole.Text.Utf8

/-!
# Escape sequences

A console sends text mixed with control characters and escape sequences. The machine of this module
goes through its bytes and keeps what shows: the characters, the line ends and tabs among the
controls, and the erasure of a character. Colours, titles and cursor movements leave no trace. The
machine stops anywhere and goes on from there, so it does not matter how the bytes are cut up.
-/

namespace SerialConsole.Output

open Text (Continuation continuationOf replacement)

inductive Edit where
  | put (c : Char)
  | erase
  deriving DecidableEq, Repr

/-- A place in the stream of bytes. -/
inductive State where
  | ground
  | character (expected : Continuation) (value : Nat)
  | escape
  | escapeIntermediate
  | controlEntry
  | controlParameters
  | controlIntermediate
  | controlIgnored
  | systemCommand
  | deviceEntry
  | deviceParameters
  | deviceIntermediate
  | deviceIgnored
  | deviceData
  | otherString
  deriving DecidableEq, Repr, Inhabited

def controlEdit (byte : UInt8) : Option Edit :=
  if byte = 0x0A then some (.put '\n')
  else if byte = 0x09 then some (.put '\t')
  else if byte = 0x08 then some .erase
  else none

def isControl (byte : UInt8) : Bool := byte ≤ 0x17 || byte = 0x19 || (0x1C ≤ byte && byte ≤ 0x1F)

def between (low high byte : UInt8) : Bool := low ≤ byte && byte ≤ high

namespace State

def onGround (byte : UInt8) : State × Option Edit :=
  if isControl byte then (.ground, controlEdit byte)
  else if between 0x20 0x7F byte then (.ground, some (.put (Char.ofNat byte.toNat)))
  else match continuationOf byte with
    | some (expected, value) => (.character expected value, none)
    | none => (.ground, none)

/-- A byte inside a character. One that does not continue the character is swallowed. -/
def inCharacter (expected : Continuation) (value : Nat) (byte : UInt8) : State × Option Edit :=
  if between expected.low expected.high byte then
    let value := value * 64 + byte.toNat % 64
    if expected.count ≤ 1 then (.ground, some (.put (Char.ofNat value)))
    else (.character ⟨expected.count - 1, 0x80, 0xBF⟩ value, none)
  else (.ground, some (.put replacement))

def afterByte (state : State) (byte : UInt8) : State :=
  match state with
  | .escape =>
    if between 0x20 0x2F byte then .escapeIntermediate
    else if byte = 0x5B then .controlEntry
    else if byte = 0x5D then .systemCommand
    else if byte = 0x50 then .deviceEntry
    else if byte = 0x58 || byte = 0x5E || byte = 0x5F then .otherString
    else if between 0x30 0x7E byte then .ground
    else state
  | .escapeIntermediate => if between 0x30 0x7E byte then .ground else state
  | .controlEntry =>
    if between 0x20 0x2F byte then .controlIntermediate
    else if between 0x30 0x3F byte then .controlParameters
    else if between 0x40 0x7E byte then .ground
    else state
  | .controlParameters =>
    if between 0x3C 0x3F byte then .controlIgnored
    else if between 0x20 0x2F byte then .controlIntermediate
    else if between 0x40 0x7E byte then .ground
    else state
  | .controlIntermediate =>
    if between 0x30 0x3F byte then .controlIgnored
    else if between 0x40 0x7E byte then .ground
    else state
  | .controlIgnored => if between 0x40 0x7E byte then .ground else state
  | .systemCommand => if byte = 0x07 then .ground else state
  | .deviceEntry =>
    if between 0x20 0x2F byte then .deviceIntermediate
    else if between 0x30 0x3F byte then .deviceParameters
    else if between 0x40 0x7E byte then .deviceData
    else state
  | .deviceParameters =>
    if between 0x3C 0x3F byte then .deviceIgnored
    else if between 0x20 0x2F byte then .deviceIntermediate
    else if between 0x40 0x7E byte then .deviceData
    else state
  | .deviceIntermediate =>
    if between 0x30 0x3F byte then .deviceIgnored
    else if between 0x40 0x7E byte then .deviceData
    else state
  | .deviceIgnored | .deviceData | .otherString => if byte = 0x9C then .ground else state
  | .ground | .character .. => state

def obeysControls : State → Bool
  | .escape | .escapeIntermediate | .controlEntry | .controlParameters | .controlIntermediate
  | .controlIgnored => true
  | _ => false

/-- Goes over one byte: the state after it, and what it does to the text. Outside characters the
escape character always begins a sequence, and two control characters always end one. -/
def next (state : State) (byte : UInt8) : State × Option Edit :=
  match state with
  | .character expected value => inCharacter expected value byte
  | _ =>
    if byte = 0x1B then (.escape, none)
    else if byte = 0x18 || byte = 0x1A then (.ground, none)
    else if state = .ground then onGround byte
    else if state.obeysControls && isControl byte then (state, controlEdit byte)
    else (state.afterByte byte, none)

end State

/-- Changes a text whose last character comes first. A line end cannot be erased. -/
def Edit.apply (reversed : List Char) : Edit → List Char
  | .put c => c :: reversed
  | .erase => match reversed with
    | [] => []
    | c :: rest => if c = '\n' then c :: rest else rest

/-- What has been seen of a stream of bytes: the place in it, and the text that shows, its last
character first. -/
structure Tape where
  state : State := .ground
  reversed : List Char := []
  deriving DecidableEq, Repr, Inhabited

namespace Tape

def feed (t : Tape) (byte : UInt8) : Tape :=
  let (state, edit) := t.state.next byte
  ⟨state, edit.elim t.reversed (Edit.apply t.reversed)⟩

def feedAll (t : Tape) (bytes : Bytes) : Tape := bytes.foldl feed t

/-- The bytes may be cut up anywhere. -/
theorem feedAll_append (t : Tape) (a b : Bytes) :
    t.feedAll (a ++ b) = (t.feedAll a).feedAll b := List.foldl_append

end Tape

end SerialConsole.Output
