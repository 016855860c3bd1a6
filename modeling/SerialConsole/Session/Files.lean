import SerialConsole.Command.Line
import SerialConsole.Session.Lines

/-!
# Files in a session

A file is typed, or printed, as lines of base64. `upload` types the lines of a source to a command
that decodes them; `download` decodes the lines that a command prints, as they come.
-/

namespace SerialConsole.Session

variable {σ : Type} [Host σ]

/-! ## Sending -/

/-- Types the lines of a source, up to the first that cannot be read. -/
def sendChunks : List (Except String (List Char)) → Op σ Session Unit
  | [] => pure ()
  | .error reason :: _ => throw (.io reason)
  | .ok line :: rest => do
    sendLine line
    sendChunks rest

def passOver (m : Mark) (line : List Char) : Progress Unit :=
  if m.classify line = .terminator then .done () else .more ()

/-- Sends a source to a file of the machine and waits for the shell prompt after it. -/
def upload (shell : Pattern) (source : Chunker) (path : List Char) (m : Mark)
    (deadline : Deadline) : Op σ Session Unit := do
  sendLine (Command.receive path m)
  sendChunks source.lines
  sendLine []
  sendControl 'd'
  foldLines false (fun _ line => pure (.ok (passOver m line))) deadline ()
  discard (expect shell deadline)

/-! ## Receiving -/

/-- What has been received of a file. Lines that came before the console showed the typed command
again are noise; but a console need not show it, so they are kept until the mark. -/
structure Intake where
  echoed : Bool := false
  early : List (List Char) := []
  written : Nat := 0
  deriving DecidableEq, Repr

def appendLine (file : String) (line : List Char) : StateM σ (Except Failure Nat) :=
  match Base64.decodeLine line with
  | .error fault =>
    pure (.error (.other
      s!"invalid base64 line {Text.quoted (String.ofList line)}: {fault.message}"))
  | .ok bytes => do
    match ← Host.appendFile file bytes with
    | .ok () => return .ok bytes.length
    | .error reason => return .error (.io reason)

/-- Takes a line in: blank ones are passed over, others decoded once the typed command has been
shown. -/
def takeIn (file : String) (m : Mark) (d : Intake) (line : List Char) :
    StateM σ (Except Failure (Progress Intake)) :=
  match m.classify line with
  | .terminator => pure (.ok (.done d))
  | .echo => pure (.ok (.more { d with echoed := true, early := [] }))
  | .content =>
    if (Text.trim line).isEmpty then pure (.ok (.more d))
    else if d.echoed then do
      let written ← appendLine file line
      return written.map fun n => .more { d with written := d.written + n }
    else pure (.ok (.more { d with early := line :: d.early }))

/-- Adds the bytes of lines to a file, up to the first that does not decode, and counts them. -/
def appendLines (file : String) (written : Nat) : List (List Char) → Op σ Session Nat
  | [] => return written
  | line :: rest => do
    let n ← Op.conclude (← Op.host (appendLine file line))
    appendLines file (written + n) rest

/-- Receives a file of the machine into a local one, which is there and empty, and waits for the
shell prompt after it. Tells the number of bytes. -/
def download (shell : Pattern) (file : String) (path : List Char) (m : Mark)
    (deadline : Deadline) : Op σ Session Nat := do
  sendLine (Command.print path m)
  let intake ← foldLines false (takeIn file m) deadline {}
  let written ← appendLines file intake.written intake.early.reverse
  Op.demand (Host.flushFile file) .io
  discard (expect shell deadline)
  return written

end SerialConsole.Session
