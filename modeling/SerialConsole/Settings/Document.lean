import SerialConsole.Markup.Document
import SerialConsole.Markup.Number
import SerialConsole.Settings.Check

/-!
# Settings in documents

Settings are written as a table of sections, each a table of its own. What is not written keeps its
default, and what is not known is passed over; but no known key may be written twice, and each value
must be of the kind that its setting wants.
-/

namespace SerialConsole

namespace Markup.Document

/-- The text of a value. Every scalar has one, whatever its tag. -/
def readText (d : Document) (n : Node) : Except String String :=
  match d.resolve n with
  | .scalar _ _ text => .ok (String.ofList text)
  | _ => .error "a text is expected"

/-- The items of a list. Where nothing is written there are none. -/
def readItems (d : Document) (n : Node) : Except String (List Node) :=
  match d.resolve n with
  | .list items => .ok items
  | .scalar .plain _ [] => .ok []
  | _ => .error "a list is expected"

/-- The entries of a table. Where nothing is written there are none. -/
def readEntries (d : Document) (n : Node) : Except String (List (Node × Node)) :=
  match d.resolve n with
  | .table entries => .ok entries
  | .scalar .plain _ [] => .ok []
  | _ => .error "a table is expected"

def numberTag : Bytes := standardTag ++ Text.bytesOf "int"

/-- Whether a scalar may be read as a number: a plain one, whatever its tag, or a block with the tag
of whole numbers. -/
def mayBeNumber (style : Style) (tag : Option Bytes) : Bool :=
  match style with
  | .plain => true
  | .literal => tag = some numberTag
  | _ => false

def readNumber (limit : Nat) (d : Document) (n : Node) : Except String Nat :=
  match d.resolve n with
  | .scalar style tag text =>
    match (Markup.number? text).filter fun value => mayBeNumber style tag && value ≤ limit with
    | some value => .ok value
    | none => .error "a whole number is expected"
  | _ => .error "a whole number is expected"

abbrev Fields (α : Type) := List (String × (α → Node → Except String α))

def readField {α : Type} (d : Document) (fields : Fields α) (state : List String × α)
    (entry : Node × Node) : Except String (List String × α) := do
  let (seen, value) := state
  let key ← d.readText entry.1
  match fields.lookup key with
  | none => return state
  | some read =>
    if seen.contains key then throw "a key is written twice"
    return (key :: seen, ← read value entry.2)

def readFields {α : Type} (d : Document) (fields : Fields α) (init : α) (n : Node) :
    Except String α := do
  let (_, value) ← (← d.readEntries n).foldlM (d.readField fields) ([], init)
  return value

end Markup.Document

open Markup (Document Node)

def shortLimit : Nat := 65535

def longLimit : Nat := 18446744073709551615

namespace ConsoleSettings

def fields (d : Document) : Document.Fields ConsoleSettings :=
  [("command", fun s n => do return { s with command := ← d.readText n }),
    ("args", fun s n => do return { s with args := ← (← d.readItems n).mapM d.readText }),
    ("namespace_flag", fun s n => do return { s with namespaceFlag := ← d.readText n }),
    ("rows", fun s n => do return { s with rows := ← d.readNumber shortLimit n }),
    ("cols", fun s n => do return { s with cols := ← d.readNumber shortLimit n })]

end ConsoleSettings

def Credentials.fields (d : Document) : Document.Fields Credentials :=
  [("username", fun s n => do return { s with username := ← d.readText n }),
    ("password", fun s n => do return { s with password := ← d.readText n })]

def Prompts.fields (d : Document) : Document.Fields Prompts :=
  [("login", fun s n => do return { s with login := ← d.readText n }),
    ("password", fun s n => do return { s with password := ← d.readText n }),
    ("shell", fun s n => do return { s with shell := ← d.readText n })]

def Timeouts.fields (d : Document) : Document.Fields Timeouts :=
  [("login_ms", fun s n => do return { s with login := ← d.readNumber longLimit n }),
    ("command_ms", fun s n => do return { s with command := ← d.readNumber longLimit n }),
    ("transfer_ms", fun s n => do return { s with transfer := ← d.readNumber longLimit n }),
    ("close_ms", fun s n => do return { s with close := ← d.readNumber longLimit n }),
    ("poll_interval_ms", fun s n => do
      return { s with pollInterval := ← d.readNumber longLimit n })]

def TransferSettings.fields (d : Document) : Document.Fields TransferSettings :=
  [("chunk_size", fun s n => do return { s with chunkSize := ← d.readNumber longLimit n })]

def LoggingSettings.fields (d : Document) : Document.Fields LoggingSettings :=
  [("level", fun s n => do return { s with level := ← d.readText n })]

namespace Settings

def fields (d : Document) : Document.Fields Settings :=
  [("console", fun s n => do
      return { s with console := ← d.readFields (ConsoleSettings.fields d) {} n }),
    ("credentials", fun s n => do
      return { s with credentials := ← d.readFields (Credentials.fields d) {} n }),
    ("prompts", fun s n => do
      return { s with prompts := ← d.readFields (Prompts.fields d) {} n }),
    ("timeouts", fun s n => do
      return { s with timeouts := ← d.readFields (Timeouts.fields d) {} n }),
    ("transfer", fun s n => do
      return { s with transfer := ← d.readFields (TransferSettings.fields d) {} n }),
    ("logging", fun s n => do
      return { s with logging := ← d.readFields (LoggingSettings.fields d) {} n })]

def ofDocument (d : Document) : Except String Settings :=
  match d.root with
  | none => .ok {}
  | some root => d.readFields (fields d) {} root

/-- The settings that a text denotes, if they can be used. -/
def ofText (text : List Char) : Except Failure Settings := do
  let settings ← (Document.ofText text >>= ofDocument).mapError .malformedConfig
  settings.check
  return settings

end Settings

end SerialConsole
