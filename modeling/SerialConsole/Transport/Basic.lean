import SerialConsole.Session.Basic
import SerialConsole.Settings.Check

/-!
# Transports

A transport runs one operation after the other on the console of a machine. Between operations it is
either logged in or disconnected. `during` hands its session to an operation; `finish` tells whether
the console can be used again, and gives it up if not.
-/

namespace SerialConsole

inductive Phase where
  | disconnected
  | authenticating
  | ready
  | executing
  | uploading
  | downloading
  deriving DecidableEq, Repr

def Phase.name : Phase → String
  | .disconnected => "disconnected"
  | .authenticating => "authenticating"
  | .ready => "ready"
  | .executing => "executing"
  | .uploading => "uploading"
  | .downloading => "downloading"

/-- A way to the console of a machine. -/
structure Transport where
  target : Target
  settings : Settings
  prompts : PromptPatterns
  session : Option Session := none
  phase : Phase := .disconnected

namespace Transport

variable {σ α : Type} [Host σ]

def ofSettings (target : Target) (settings : Settings) : Except Failure Transport := do
  settings.check
  return { target, settings, prompts := ← settings.prompts.patterns }

def isConnected (t : Transport) : Bool := t.phase = .ready && t.session.isSome

def enter (phase : Phase) : Op σ Transport Unit := Op.modifySubject ({ · with phase })

def requireReady : Op σ Transport Unit := do
  unless (← Op.subject).isConnected do throw .notConnected

def forceClose : Op σ Transport Unit := do
  let t ← Op.subject
  Op.setSubject { t with session := none, phase := .disconnected }
  if let some session := t.session then
    let _ ← Op.on session Session.close

/-- Carries out an operation on the session, which must be logged in and idle. The bytes that are
left from earlier operations are forgotten. -/
def during (phase : Phase) (act : Op σ Session α) : Op σ Transport (Except Failure α) := do
  let t ← Op.subject
  match t.phase, t.session with
  | .ready, some session =>
    enter phase
    let (result, session) ← Op.on { session with buffer := session.buffer.takeRaw.2 } act
    Op.modifySubject ({ · with session := some session })
    return result
  | _, _ => throw .notConnected

/-- Ends an operation: the transport is ready for the next one, unless the failure was such that the
console cannot be trusted. -/
def finish (result : Except Failure α) : Op σ Transport α := do
  match result with
  | .ok _ => enter .ready
  | .error e => if e.isFatal then forceClose else enter .ready
  Op.conclude result

end Transport

end SerialConsole
