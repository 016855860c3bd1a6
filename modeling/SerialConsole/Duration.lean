/-!
# Durations

Spans of time, counted in nanoseconds. Settings give them in milliseconds, reports show them
either in milliseconds or with the unit that suits their size.
-/

namespace SerialConsole

/-- A span of time in nanoseconds. -/
abbrev Duration := Nat

namespace Duration

def perMilli : Nat := 1000000

def perSecond : Nat := 1000000000

def ofMillis (millis : Nat) : Duration := millis * perMilli

def wordSize : Nat := 18446744073709551616

/-- The whole milliseconds of a span, as a 64-bit word holds them. -/
def millis (d : Duration) : Nat := d / perMilli % wordSize

/-- The digits after the decimal point: `part` out of `unit`, a power of ten, without the zeros at
the end. -/
def fraction (part unit : Nat) : List Char :=
  let digits := (Nat.toDigits 10 (unit + part)).drop 1
  (digits.reverse.dropWhile (· == '0')).reverse

def decimal (d unit : Nat) (name : String) : String :=
  match fraction (d % unit) unit with
  | [] => toString (d / unit) ++ name
  | digits => toString (d / unit) ++ "." ++ String.ofList digits ++ name

/-- A span in the largest of the units seconds, milliseconds, microseconds and nanoseconds of which
it holds at least one. -/
def render (d : Duration) : String :=
  if perSecond ≤ d then decimal d perSecond "s"
  else if perMilli ≤ d then decimal d perMilli "ms"
  else if 1000 ≤ d then decimal d 1000 "µs"
  else decimal d 1 "ns"

end Duration

end SerialConsole
