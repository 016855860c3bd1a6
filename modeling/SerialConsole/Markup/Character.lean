/-!
# Characters of markup

Settings are kept in YAML, a notation in which line ends and indentation carry meaning. Its texts
consist of printable characters; the kinds of line end that systems write are all read as line
feeds, while the line and paragraph separators stay themselves.
-/

namespace SerialConsole.Markup

def isAllowed (c : Char) : Bool :=
  c == '\t' || c == '\n' || c == '\r' || c == '\u0085' || (' ' ≤ c && c ≤ '~') ||
    ('\u00A0' ≤ c && c ≤ '\uFFFD') || 0x10000 ≤ c.toNat

def byteOrderMark : Char := '\uFEFF'

/-- Reads every line end that is not a separator as a line feed. -/
def unifyBreaks : List Char → List Char
  | [] => []
  | '\r' :: '\n' :: rest => '\n' :: unifyBreaks rest
  | c :: rest => (if c = '\r' ∨ c = '\u0085' then '\n' else c) :: unifyBreaks rest

def isBreak (c : Char) : Bool := c == '\n' || c == '\u2028' || c == '\u2029'

def isBlank (c : Char) : Bool := c == ' ' || c == '\t'

def isNameChar (c : Char) : Bool := c.isAlphanum || c == '_' || c == '-'

def atBreak : List Char → Bool
  | [] => true
  | c :: _ => isBreak c

def atBlank : List Char → Bool
  | [] => true
  | c :: _ => isBlank c || isBreak c

def atDocumentMark : List Char → Bool
  | '-' :: '-' :: '-' :: rest => atBlank rest
  | '.' :: '.' :: '.' :: rest => atBlank rest
  | _ => false

end SerialConsole.Markup
