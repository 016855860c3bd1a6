import SerialConsole.Session.Command
import SerialConsole.Session.Files
import SerialConsole.Transport.Basic

/-!
# Operations of a transport

Commands are run, and files sent and received, by a transport that is connected. Whatever goes wrong
with a file once the console has been asked for it is a failure of the transfer.
-/

namespace SerialConsole.Transport

variable {σ α : Type} [Host σ]

def exec (command : String) : Op σ Transport Command.Outcome := do
  requireReady
  let t ← Op.subject
  let mark ← Op.host Host.freshMark
  let deadline ← Op.deadline (.ofMillis t.settings.timeouts.command)
  finish (← during .executing
    (Session.runCommand t.prompts.shell command.toList mark deadline))

def finishTransfer (path : String) (mark : Mark) (result : Except Failure α) : Op σ Transport α :=
  finish (result.mapError fun e => .transfer path mark e.message)

def put (file remote : String) : Op σ Transport Unit := do
  unless ← Op.host (Host.isFile file) do throw (.localFileNotFound file)
  requireReady
  let t ← Op.subject
  let mark ← Op.host Host.freshMark
  let source ← Op.demand (Host.openFile file) (.transfer remote mark)
  let chunks := Chunker.ofSource source t.settings.transfer.chunkSize
  let deadline ← Op.deadline (.ofMillis t.settings.timeouts.transfer)
  finishTransfer remote mark (← during .uploading
    (Session.upload t.prompts.shell chunks remote.toList mark deadline))

/-- Receives a file of the machine into a local file, which is made anew. Tells the number of
bytes. -/
def fetch (remote file : String) : Op σ Transport Nat := do
  requireReady
  let t ← Op.subject
  let mark ← Op.host Host.freshMark
  Op.demand (Host.createFile file) (.transfer file mark)
  let deadline ← Op.deadline (.ofMillis t.settings.timeouts.transfer)
  finishTransfer remote mark (← during .downloading
    (Session.download t.prompts.shell file remote.toList mark deadline))

end SerialConsole.Transport
