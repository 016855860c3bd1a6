/-!
# Control characters

A terminal has a control character for each letter, for the signs around the letters, and for the
question mark.
-/

namespace SerialConsole.Terminal

def controlByte (key : Char) : Option UInt8 :=
  let n := key.toUpper.toNat
  if 0x40 ≤ n ∧ n ≤ 0x5F then some (UInt8.ofNat (n % 0x20))
  else if n = 0x3F then some 0x7F
  else none

end SerialConsole.Terminal
