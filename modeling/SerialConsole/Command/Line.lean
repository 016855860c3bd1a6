import SerialConsole.Command.Word
import SerialConsole.Mark

/-!
# Command lines

What is typed at the shell prompt for each kind of operation. Every line has the shell print the
mark of the operation when it has ended.
-/

namespace SerialConsole.Command

/-- What is typed to run a command and to have its exit status and the mark printed after it. The
newline in front ends whatever was typed before. -/
def run (command : List Char) (m : Mark) : List Char :=
  '\n' :: command ++ " ; echo $? && echo ".toList ++ m.text ++ ['\n']

def printMark (m : Mark) : List Char := " && printf \"".toList ++ m.text ++ "\\n\"".toList

def receive (path : List Char) (m : Mark) : List Char :=
  "base64 -d > ".toList ++ quote path ++ printMark m

def print (path : List Char) (m : Mark) : List Char :=
  "base64 ".toList ++ quote path ++ printMark m

end SerialConsole.Command
