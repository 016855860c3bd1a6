import SerialConsole.Session.Basic
import SerialConsole.Settings.Check

/-!
# Logging in and out

The exchange with the login prompts of a console. Each step waits for its own prompt; a wait that
fails is reported as a failure of its step.
-/

namespace SerialConsole

/-- A failure as one of a step of logging in, if it is one of a wait. -/
def Failure.atStage (stage : LoginStage) : Failure → Failure
  | .timedOut _ _ buffer => .authentication stage buffer
  | .endOfStream buffer => .authentication stage buffer
  | e => e

namespace Session

variable {σ τ : Type} [Host σ]

/-- Waits a limited time for a match of a pattern, and takes the output up to its end. -/
def expectWithin (timeout : Duration) (p : Pattern) : Op σ Session Pattern.Found := do
  expect p (← Op.deadline timeout)

def readLineWithin (timeout : Duration) : Op σ Session (List Char) := do
  readLine (← Op.deadline timeout)

def expectPrompt (stage : LoginStage) (timeout : Duration) (p : Pattern) : Op σ Session Unit :=
  Op.rephrase (Failure.atStage stage) (discard (expectWithin timeout p))

/-- Logs in. Two empty lines wake the console; the first line that it then shows, and whatever was
before it, are not waited on. -/
def login (credentials : Credentials) (prompts : PromptPatterns) (timeout : Duration) :
    Op σ Session Unit := do
  sendLine []
  sendLine []
  Op.rephrase (Failure.atStage .loginPrompt) (discard (readLineWithin timeout))
  expectPrompt .loginPrompt timeout prompts.login
  sendLine credentials.username.toList
  expectPrompt .passwordPrompt timeout prompts.password
  sendLine credentials.password.toList
  expectPrompt .shellPrompt timeout prompts.shell

def logout (prompt : Pattern) (timeout : Duration) : Op σ Session Unit := do
  sendLine []
  sendControl 'd'
  discard (expectWithin timeout prompt)

/-- Attaches to the console of a machine and sees whether it stays: an empty line is typed, and the
process must not end while its output is listened to for a while. The output is left where it is. -/
def probe (target : Target) (settings : ConsoleSettings) (settle : Duration) : Op σ τ Session := do
  let session ← attach target settings
  let (result, session) ← Op.on session do
    sendLine []
    watch settle
    let s ← Op.subject
    if s.ended || !(← isAlive) then throw (.endOfStream s.excerpt)
  match result with
  | .ok () => return session
  | .error e =>
    let _ ← Op.on session close
    throw e

end Session

end SerialConsole
