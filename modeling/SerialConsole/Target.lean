import SerialConsole.Settings.Basic
import SerialConsole.Text.Blank

/-!
# Targets

The machine whose console is attached, and the command line that attaches to it.
-/

namespace SerialConsole

/-- A machine, known by its name and perhaps a namespace. -/
structure Target where
  name : String
  space : Option String := none
  deriving DecidableEq, Repr

/-- A program to be started on a terminal. -/
structure Launch where
  program : String
  args : List String
  size : TerminalSize
  deriving DecidableEq, Repr

/-- The words of a command line with a space between any two, without blanks at its end. -/
def Launch.line (l : Launch) : String :=
  String.ofList (Text.trimEnd (l.program ++ " " ++ " ".intercalate l.args).toList)

namespace Target

def label (t : Target) : String :=
  match t.space with
  | some space => s!"{space}/{t.name}"
  | none => t.name

def namespaceArgs (t : Target) (flag : String) : List String :=
  match t.space with
  | none => []
  | some space => if flag.isEmpty then [space] else [flag, space]

def launch (t : Target) (s : ConsoleSettings) : Launch :=
  { program := s.command
    args := s.args ++ [t.name] ++ t.namespaceArgs s.namespaceFlag
    size := s.size }

end Target

end SerialConsole
