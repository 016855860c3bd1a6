import SerialConsole.Poll
import SerialConsole.Session.Login
import SerialConsole.Transport.Basic

/-!
# Connecting and disconnecting

`connect` attaches to the console and logs in, `connectWhenAvailable` waits for the console first.
`close` logs out; it ends the session in any case.
-/

namespace SerialConsole.Transport

variable {σ : Type} [Host σ]

def login (session : Session) : Op σ Transport Unit := do
  enter .authenticating
  let t ← Op.subject
  let timeout := Duration.ofMillis t.settings.timeouts.login
  match ← Op.on session (Session.login t.settings.credentials t.prompts timeout) with
  | (.ok (), session) => Op.setSubject { t with session := some session, phase := .ready }
  | (.error e, session) =>
    let _ ← Op.on session Session.close
    Op.setSubject { t with phase := .disconnected }
    throw e

def connect : Op σ Transport Unit := do
  let t ← Op.subject
  unless t.isConnected do
    enter .authenticating
    match ← Op.observe (Session.attach t.target t.settings.console) with
    | .ok session => login session
    | .error e =>
      enter .disconnected
      throw e

def retries : Failure → Bool
  | .endOfStream _ | .io _ => true
  | _ => false

def probePlan (timeout interval : Duration) : PollPlan Failure Session :=
  { timeout, interval, retries, describe := Failure.message, render := fun s => s.launch.line }

def probe (t : Transport) (world : World σ) : Call Failure Session × World σ :=
  let settle := Duration.ofMillis t.settings.timeouts.pollInterval
  match Session.probe t.target t.settings.console settle ⟨(), world⟩ with
  | .ok session s => ((.ok session, s.world.clock - world.clock), s.world)
  | .error e s => ((.error e, s.world.clock - world.clock), s.world)

/-- Waits for the console to become available, and gives the session that found it so. -/
def await (timeout : Duration) : Op σ Transport Session := fun s =>
  let plan := probePlan timeout (.ofMillis s.subject.settings.timeouts.pollInterval)
  let (outcome, poll, world) := Poll.waitFor plan s.subject.probe (fun _ => true) {} s.world
  let s := { s with world := { world with clock := s.world.clock + poll.clock } }
  match outcome with
  | .ok session => .ok session s
  | .error e => .error e.toFailure s

/-- Waits for the console to become available and logs in, unless that has been done. -/
def connectWhenAvailable (timeout : Duration) : Op σ Transport Unit := do
  unless (← Op.subject).isConnected do
    login (← await timeout)

/-- Logs out and ends the session. A logout that does not succeed in time changes nothing. -/
def close : Op σ Transport Unit := do
  let t ← Op.subject
  Op.setSubject { t with session := none, phase := .disconnected }
  if let some session := t.session then
    let timeout := Duration.ofMillis t.settings.timeouts.close
    let (_, session) ← match t.phase with
      | .ready => Op.on session (Session.logout t.prompts.login timeout)
      | _ => pure (.ok (), session)
    let (result, _) ← Op.on session Session.close
    Op.conclude result

end SerialConsole.Transport
