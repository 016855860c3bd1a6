import SerialConsole.Output.Escape
import SerialConsole.Pattern.Basic

/-!
# Output buffers

What a console has sent, kept twice: as bytes, until somebody takes them, and as the text that
shows, from which lines and matches of patterns are taken. Taking from one does not change the
other.
-/

namespace SerialConsole.Output

/-- The output of a console that has not been taken. -/
structure Buffer where
  raw : Bytes := []
  state : State := .ground
  pending : List Char := []
  deriving DecidableEq, Repr, Inhabited

namespace Buffer

def append (b : Buffer) (bytes : Bytes) : Buffer :=
  let tape := Tape.feedAll ⟨b.state, b.pending.reverse⟩ bytes
  { raw := b.raw ++ bytes, state := tape.state, pending := tape.reversed.reverse }

/-- Takes the first line, if it is complete, with its line end, which is not given. -/
def takeLine (b : Buffer) : Option (List Char × Buffer) :=
  match b.pending.dropWhile (· ≠ '\n') with
  | [] => none
  | _ :: rest => some (b.pending.takeWhile (· ≠ '\n'), { b with pending := rest })

def takeMatch (b : Buffer) (p : Pattern) : Option (Pattern.Found × Buffer) :=
  (p.split b.pending).map fun (found, rest) => (found, { b with pending := rest })

def takeRaw (b : Buffer) : Bytes × Buffer := (b.raw, { b with raw := [] })

def size (b : Buffer) : Nat := b.raw.length

def describe (b : Buffer) : String :=
  s!"OutputBuffer \x7b raw_len: {b.size}, pending: {Text.quoted (String.ofList b.pending)}, .. \x7d"

end Buffer

end SerialConsole.Output
