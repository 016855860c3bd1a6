/-!
# Words of the shell

`quote` writes any text as one word of the shell: between single quotes, where all characters stand
for themselves, with every single quote of the text written outside, after a backslash.
-/

namespace SerialConsole.Command

def quoteChar (c : Char) : List Char := if c = '\'' then ['\'', '\\', '\'', '\''] else [c]

def quote (text : List Char) : List Char := '\'' :: text.flatMap quoteChar ++ ['\'']

end SerialConsole.Command
