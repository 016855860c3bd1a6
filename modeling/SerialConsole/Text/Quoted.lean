import SerialConsole.Text.Recent

/-!
# Quoted text

Text inside a message stands between double quotes, and every character in it that would not be
seen as itself is escaped: quotes and backslashes by a backslash, the usual control characters by
their letters, and other unprintable characters, and those that attach to the one before them, by
their code point.
-/

namespace SerialConsole.Text

def fillers : CharSet := .read
  "115F-1160 3164 FFA0"

/-- The characters that have no glyph of their own: controls, formats, private and unassigned
ones, fillers, and every separator but the space. -/
def unprintable : CharSet :=
  .unions [Category.control, Category.format, Category.privateUse,
    Category.unassigned.diff Recent.assigned, Category.lineSeparator,
    Category.paragraphSeparator, Category.spaceSeparator.diff (.single ' '), fillers]

def attaching : CharSet :=
  (Property.graphemeExtend.inter Category.mark).union Recent.graphemeExtend

def escapedByCode : CharSet := unprintable.union attaching

def escapeChar (c : Char) : List Char :=
  match c with
  | '"' => ['\\', '"']
  | '\\' => ['\\', '\\']
  | '\n' => ['\\', 'n']
  | '\r' => ['\\', 'r']
  | '\t' => ['\\', 't']
  | '\x00' => ['\\', '0']
  | c =>
    if escapedByCode.contains c then
      '\\' :: 'u' :: '\x7b' :: Nat.toDigits 16 c.toNat ++ ['\x7d']
    else [c]

def quote (text : List Char) : List Char := '"' :: text.flatMap escapeChar ++ ['"']

def quoted (text : String) : String := String.ofList (quote text.toList)

end SerialConsole.Text
