import SerialConsole.Duration
import SerialConsole.Text.Quoted

/-!
# Settings

How a console is attached, how one logs in to it, how long its answers are waited for, and how
files are cut up. Every setting has a default.
-/

namespace SerialConsole

/-- The size of a terminal, in characters. -/
structure TerminalSize where
  rows : Nat
  cols : Nat
  deriving DecidableEq, Repr

/-- How the process that attaches to a console is started. -/
structure ConsoleSettings where
  command : String := "virtctl"
  args : List String := ["console"]
  namespaceFlag : String := "-n"
  rows : Nat := 24
  /-- The columns of its terminal; many, so that what is typed stays on one line. -/
  cols : Nat := 1024
  deriving DecidableEq, Repr

def ConsoleSettings.size (s : ConsoleSettings) : TerminalSize := ⟨s.rows, s.cols⟩

structure Credentials where
  username : String := "root"
  password : String := ""
  deriving DecidableEq

def Credentials.redacted (c : Credentials) : String :=
  s!"Credentials \x7b username: {Text.quoted c.username}, password: \"<redacted>\" \x7d"

/-- The patterns by which the prompts of a console are known. -/
structure Prompts where
  login : String := "login:"
  password : String := "Password:"
  shell : String := "(\\[[^\\]]+\\])?[#$] "
  deriving DecidableEq, Repr

/-- How long is waited, in milliseconds. -/
structure Timeouts where
  login : Nat := 60000
  command : Nat := 60000
  transfer : Nat := 300000
  close : Nat := 10000
  pollInterval : Nat := 1000
  deriving DecidableEq, Repr

structure TransferSettings where
  chunkSize : Nat := 512
  deriving DecidableEq, Repr

structure LoggingSettings where
  level : String := "info"
  deriving DecidableEq, Repr

structure Settings where
  console : ConsoleSettings := {}
  credentials : Credentials := {}
  prompts : Prompts := {}
  timeouts : Timeouts := {}
  transfer : TransferSettings := {}
  logging : LoggingSettings := {}
  deriving DecidableEq

end SerialConsole
