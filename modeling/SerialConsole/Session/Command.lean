import SerialConsole.Command.Line
import SerialConsole.Command.Output
import SerialConsole.Session.Lines

/-!
# Commands in a session

A command is typed at the shell prompt, and its output read up to the mark. When the console shows
the typed line again, all lines up to it are dropped, so that only output is left.
-/

namespace SerialConsole.Session

variable {σ : Type} [Host σ]

def gather (m : Mark) (seen : List (List Char)) (line : List Char) : Progress (List (List Char)) :=
  match m.classify line with
  | .terminator => .done seen
  | .echo => .more []
  | .content => .more (line :: seen)

def runCommand (shell : Pattern) (command : List Char) (m : Mark) (deadline : Deadline) :
    Op σ Session Command.Outcome := do
  send (Command.run command m)
  let seen ← foldLines true (fun seen line => pure (.ok (gather m seen line))) deadline []
  discard (expect shell deadline)
  let text := Command.join seen.reverse
  match Command.parse text with
  | none => throw (.unparsedOutput m (String.ofList (Text.excerpt text)))
  | some (status, output) => return ⟨status, output, ← takeRaw⟩

end SerialConsole.Session
