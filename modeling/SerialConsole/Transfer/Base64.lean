import SerialConsole.Text.Utf8

/-!
# Base64

Three bytes make four symbols; a shorter group at the end is filled up with `=`. Reading is strict:
it accepts exactly what writing produces, and says where and why any other text fails.
-/

namespace SerialConsole.Base64

def symbol (n : Nat) : Char :=
  if n < 26 then Char.ofNat ('A'.toNat + n)
  else if n < 52 then Char.ofNat ('a'.toNat + (n - 26))
  else if n < 62 then Char.ofNat ('0'.toNat + (n - 52))
  else if n = 62 then '+' else '/'

def padding : Char := '='

def encodeGroup (a b c : UInt8) : List Char :=
  let n := a.toNat * 65536 + b.toNat * 256 + c.toNat
  [symbol (n / 262144), symbol (n / 4096 % 64), symbol (n / 64 % 64), symbol (n % 64)]

def encode : Bytes → List Char
  | a :: b :: c :: rest => encodeGroup a b c ++ encode rest
  | [a, b] => (encodeGroup a b 0).take 3 ++ [padding]
  | [a] => (encodeGroup a 0 0).take 2 ++ [padding, padding]
  | [] => []

/-- Why a text is not the base64 form of any bytes. -/
inductive Fault where
  | badSymbol (byte : UInt8) (offset : Nat)
  | badLength (length : Nat)
  | badLastSymbol (byte : UInt8) (offset : Nat)
  | badPadding
  deriving DecidableEq, Repr

def Fault.message : Fault → String
  | .badSymbol byte offset => s!"Invalid symbol {byte.toNat}, offset {offset}."
  | .badLength length => s!"Invalid input length: {length}"
  | .badLastSymbol byte offset => s!"Invalid last symbol {byte.toNat}, offset {offset}."
  | .badPadding => "Invalid padding"

def paddingByte : UInt8 := 61

def value (byte : UInt8) : Option Nat :=
  let n := byte.toNat
  if 65 ≤ n ∧ n ≤ 90 then some (n - 65)
  else if 97 ≤ n ∧ n ≤ 122 then some (n - 97 + 26)
  else if 48 ≤ n ∧ n ≤ 57 then some (n - 48 + 52)
  else if n = 43 then some 62
  else if n = 47 then some 63
  else none

/-- The number of a symbol that is not the last of its text. -/
def valueAt (byte : UInt8) (offset : Nat) : Except Fault Nat :=
  match value byte with
  | some v => .ok v
  | none => .error (.badSymbol byte offset)

def bytesOfGroup (n : Nat) : Bytes :=
  [UInt8.ofNat (n / 65536), UInt8.ofNat (n / 256 % 256), UInt8.ofNat (n % 256)]

/-- The last group of a text, split into its symbols' numbers and its padding. -/
structure Tail where
  values : List Nat := []
  lastSymbol : UInt8 := 0
  padded : Nat := 0
  deriving DecidableEq, Repr

/-- Reads the last group from its place `index` on: symbols first, then padding, of which none may
stand in the first two places. -/
def Tail.read (offset index : Nat) (tail : Tail) : Bytes → Except Fault Tail
  | [] => .ok tail
  | byte :: rest =>
    if byte = paddingByte then
      if index < 2 then .error (.badSymbol byte (offset + index))
      else Tail.read offset (index + 1) { tail with padded := tail.padded + 1 } rest
    else if tail.padded ≠ 0 then
      .error (.badSymbol paddingByte (offset + index - tail.padded))
    else match value byte with
      | none => .error (.badSymbol byte (offset + index))
      | some v =>
        Tail.read offset (index + 1) ⟨tail.values ++ [v], byte, tail.padded⟩ rest

def Tail.bytes (offset : Nat) (tail : Tail) : Except Fault Bytes :=
  match tail.values with
  | [a, b] =>
    if tail.padded ≠ 2 then .error .badPadding
    else if b % 16 ≠ 0 then .error (.badLastSymbol tail.lastSymbol (offset + 1))
    else .ok ((bytesOfGroup (a * 262144 + b * 4096)).take 1)
  | [a, b, c] =>
    if tail.padded ≠ 1 then .error .badPadding
    else if c % 4 ≠ 0 then .error (.badLastSymbol tail.lastSymbol (offset + 2))
    else .ok ((bytesOfGroup (a * 262144 + b * 4096 + c * 64)).take 2)
  | [a, b, c, d] => .ok (bytesOfGroup (a * 262144 + b * 4096 + c * 64 + d))
  | values => .error (.badLength (offset + values.length))

/-- Reads the group that ends a text at `offset`. -/
def decodeLast (offset : Nat) (group : Bytes) : Except Fault Bytes := do
  (← Tail.read offset 0 {} group).bytes offset

/-- Reads the groups of a text from `offset` on. -/
def decodeFrom (offset : Nat) : Bytes → Except Fault Bytes
  | [] => .ok []
  | a :: b :: c :: d :: e :: rest => do
    let a ← valueAt a offset
    let b ← valueAt b (offset + 1)
    let c ← valueAt c (offset + 2)
    let d ← valueAt d (offset + 3)
    let others ← decodeFrom (offset + 4) (e :: rest)
    pure (bytesOfGroup (a * 262144 + b * 4096 + c * 64 + d) ++ others)
  | group => decodeLast offset group

/-- The bytes whose base64 form a text is. A byte left over at the end is reported first. -/
def decode (text : Bytes) : Except Fault Bytes :=
  match text.getLast? with
  | some last =>
    if text.length % 4 = 1 ∧ last ≠ paddingByte ∧ value last = none then
      .error (.badSymbol last (text.length - 1))
    else decodeFrom 0 text
  | none => .ok []

end SerialConsole.Base64
