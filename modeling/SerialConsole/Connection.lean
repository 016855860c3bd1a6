import SerialConsole.Transport.Connect
import SerialConsole.Transport.Operation

/-!
# Connections

A connection is a transport that connects by itself: each operation logs in first if that is needed,
so a connection that was lost is made anew by the next operation.
-/

namespace SerialConsole

/-- A connection to a machine. -/
structure Connection where
  transport : Transport
  waitFor : Option Duration := none

namespace Connection

variable {σ α : Type} [Host σ]

def ofSettings (target : Target) (settings : Settings) (waitFor : Option Duration := none) :
    Except Failure Connection := do
  return { transport := ← Transport.ofSettings target settings, waitFor }

def onTransport (act : Op σ Transport α) : Op σ Connection α := do
  let (result, transport) ← Op.on (← Op.subject).transport act
  Op.modifySubject ({ · with transport })
  Op.conclude result

def connect : Op σ Connection Unit := do
  match (← Op.subject).waitFor with
  | some timeout => onTransport (Transport.connectWhenAvailable timeout)
  | none => onTransport Transport.connect

/-- Runs a command. There is no way to give it input. -/
def exec (command : String) (input : Option Bytes := none) : Op σ Connection Command.Outcome := do
  if input.isSome then
    throw (.unsupported "piping data into commands over a serial console")
  connect
  onTransport (Transport.exec command)

def put (file remote : String) : Op σ Connection Unit := do
  unless ← Op.host (Host.isFile file) do throw (.localFileNotFound file)
  connect
  onTransport (Transport.put file remote)

def fetch (remote file : String) : Op σ Connection Nat := do
  connect
  onTransport (Transport.fetch remote file)

def close : Op σ Connection Unit := onTransport Transport.close

end Connection

end SerialConsole
