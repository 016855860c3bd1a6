import SerialConsole.Text.CharSet

/-!
# Numbers of markup

Whole numbers are written in decimal without leading zeros, or after `0x`, `0o` or `0b` in
hexadecimal, octal or binary. A plus sign may stand in front.
-/

namespace SerialConsole.Markup

/-- The number with some digits in a base, if they are digits of that base and there are any. -/
def ofDigits? (base : Nat) (digits : List Char) : Option Nat :=
  if digits.isEmpty then none
  else digits.foldlM (fun n c => do
    let d ← Text.CharSet.hexValue c
    if d < base then some (n * base + d) else none) 0

def unsignedNumber? : List Char → Option Nat
  | '0' :: 'x' :: digits => ofDigits? 16 digits
  | '0' :: 'o' :: digits => ofDigits? 8 digits
  | '0' :: 'b' :: digits => ofDigits? 2 digits
  | ['0'] => some 0
  | '0' :: _ => none
  | digits => ofDigits? 10 digits

def number? : List Char → Option Nat
  | '+' :: rest => unsignedNumber? rest
  | text => unsignedNumber? text

end SerialConsole.Markup
