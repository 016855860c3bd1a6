import SerialConsole.Text.CharSet

/-!
# Blank characters

The white space of all scripts, line ends included, and the text that is left when it is taken
off both ends.
-/

namespace SerialConsole.Text

/-- The blank characters: tab to carriage return, space, next line, no-break space, the spaces of
various widths, and the line and paragraph separators. -/
def blanks : CharSet :=
  ⟨[(0x9, 0xD), (0x20, 0x20), (0x85, 0x85), (0xA0, 0xA0), (0x1680, 0x1680), (0x2000, 0x200A),
    (0x2028, 0x2029), (0x202F, 0x202F), (0x205F, 0x205F), (0x3000, 0x3000)]⟩

def isBlank (c : Char) : Bool := blanks.contains c

def trimEnd (text : List Char) : List Char := (text.reverse.dropWhile isBlank).reverse

def trim (text : List Char) : List Char := trimEnd (text.dropWhile isBlank)

end SerialConsole.Text
