import SerialConsole.Session.Host

/-!
# Terminals

A process on a terminal of its own. Its output can be listened to by one reader.
-/

namespace SerialConsole

/-- The terminal of a process. -/
structure Terminal where
  process : ProcessId
  streaming : Bool := false
  deriving DecidableEq, Repr

namespace Terminal

variable {σ τ : Type} [Host σ]

def spawn (launch : Launch) : Op σ τ Terminal := do
  let process ← Op.demand (Host.spawn launch) (.spawn launch.line)
  return { process }

def stream : Op σ Terminal Unit := do
  let t ← Op.subject
  if t.streaming then throw (.terminal "PTY reader already taken")
  else Op.setSubject { t with streaming := true }

def write (t : Terminal) (bytes : Bytes) : Op σ τ Unit :=
  Op.demand (Host.write t.process bytes) .io

def isAlive (t : Terminal) : Op σ τ Bool := Op.host (Host.isAlive t.process)

/-- Ends the process, unless it has ended by itself. -/
def kill (t : Terminal) : Op σ τ Unit := do
  if ← t.isAlive then
    Op.demand (Host.kill t.process) fun reason => .terminal s!"Kill failed: {reason}"

def describe (process : String) : String :=
  s!"PtyHandle \x7b pid: Some({process}), .. \x7d"

end Terminal

end SerialConsole
