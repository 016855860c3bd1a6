import SerialConsole.Mark
import SerialConsole.Text.Quoted

/-!
# Failures

Everything that can go wrong with a console, as causes. `message` words them; `isFatal` tells the
ones after which the console must be attached anew.
-/

namespace SerialConsole

inductive LoginStage where
  | loginPrompt
  | passwordPrompt
  | shellPrompt
  deriving DecidableEq, Repr

def LoginStage.name : LoginStage → String
  | .loginPrompt => "login prompt"
  | .passwordPrompt => "password prompt"
  | .shellPrompt => "shell prompt"

/-- The ways in which an operation can fail. -/
inductive Failure where
  | spawn (command reason : String)
  | authentication (stage : LoginStage) (buffer : String)
  | timedOut (awaited : String) (limitMillis : Nat) (buffer : String)
  | endOfStream (buffer : String)
  | sessionClosed
  | notConnected
  | conditionExpired (limitMillis attempts : Nat) (lastState : String)
  | localFileNotFound (path : String)
  | transfer (path : String) (mark : Mark) (reason : String)
  | unparsedOutput (mark : Mark) (output : String)
  | terminal (reason : String)
  | invalidPattern (pattern reason : String)
  | unsupported (feature : String)
  | malformedConfig (reason : String)
  | config (reason : String)
  | io (reason : String)
  | other (reason : String)
  deriving DecidableEq, Repr

namespace Failure

def message : Failure → String
  | .spawn command reason => s!"Failed to spawn '{command}': {reason}"
  | .authentication stage buffer =>
    s!"Authentication failed waiting for {stage.name}; last output: {Text.quoted buffer}"
  | .timedOut awaited limitMillis buffer =>
    s!"Timed out after {limitMillis}ms waiting for {Text.quoted awaited}; " ++
      s!"buffer: {Text.quoted buffer}"
  | .endOfStream buffer => s!"Console closed the stream; buffer: {Text.quoted buffer}"
  | .sessionClosed => "Session already closed"
  | .notConnected => "Console is not connected"
  | .conditionExpired limitMillis attempts lastState =>
    s!"Timed out after {limitMillis}ms ({attempts} attempts); last state: {lastState}"
  | .localFileNotFound path => s!"Local file not found: {path}"
  | .transfer path mark reason => s!"File transfer of {path} failed (mark {mark}): {reason}"
  | .unparsedOutput mark output =>
    s!"Could not parse command output (mark {mark}): {Text.quoted output}"
  | .terminal reason => s!"PTY error: {reason}"
  | .invalidPattern pattern reason => s!"Invalid pattern '{pattern}': {reason}"
  | .unsupported feature => s!"Unsupported: {feature}"
  | .malformedConfig reason | .config reason => s!"Configuration error: {reason}"
  | .io reason => s!"IO error: {reason}"
  | .other reason => reason

/-- Whether the console can no longer be trusted after the failure. -/
def isFatal : Failure → Bool
  | .spawn .. | .authentication .. | .timedOut .. | .endOfStream .. | .sessionClosed
  | .transfer .. | .terminal .. => true
  | _ => false

end Failure

end SerialConsole
