import SerialConsole.Pattern.Basic
import SerialConsole.Settings.Basic
import SerialConsole.Text.Blank

/-!
# Usable settings

Settings are checked before they are used, in a fixed order: the first unusable value is reported.
-/

namespace SerialConsole

/-- The patterns of the prompts, ready to be searched for. -/
structure PromptPatterns where
  login : Pattern
  password : Pattern
  shell : Pattern
  deriving Inhabited

def Prompts.patterns (p : Prompts) : Except Failure PromptPatterns := do
  return {
    login := ← Pattern.ofString p.login
    password := ← Pattern.ofString p.password
    shell := ← Pattern.ofString p.shell }

/-- The most bytes of a line of a file. Encoded they still fit into a line of a terminal. -/
def TransferSettings.maxChunkSize : Nat := 3000

def Timeouts.named (t : Timeouts) : List (String × Nat) :=
  [("login_ms", t.login), ("command_ms", t.command), ("transfer_ms", t.transfer),
    ("close_ms", t.close), ("poll_interval_ms", t.pollInterval)]

namespace Settings

/-- Fails with the first unusable setting. -/
def check (s : Settings) : Except Failure Unit := do
  if (Text.trim s.console.command.toList).isEmpty then
    throw (.config "console.command cannot be empty")
  if s.console.rows = 0 ∨ s.console.cols = 0 then
    throw (.config "console dimensions must be > 0")
  let _ ← s.prompts.patterns
  for (name, millis) in s.timeouts.named do
    if millis = 0 then throw (.config s!"timeouts.{name} must be > 0")
  if s.transfer.chunkSize = 0 ∨ TransferSettings.maxChunkSize < s.transfer.chunkSize then
    throw (.config s!"transfer.chunk_size must be in 1..={TransferSettings.maxChunkSize}")

end Settings

end SerialConsole
