import SerialConsole.Text.CharSet

/-!
# Byte runs

The UTF-8 forms of the characters in a range, as few sequences of byte ranges: a text of one
character from the range is one byte from each byte range of one sequence.
-/

namespace SerialConsole.Text

/-- A run of byte sequences of one length: for each byte its smallest and largest value. -/
abbrev ByteRun := List (Nat × Nat)

/-- The bytes of a code point that takes `count` bytes more after the first, which has `lead`
added. -/
def utf8Bytes (lead count code : Nat) : List Nat :=
  (lead + code >>> (6 * count)) ::
    (List.range count).map fun i => 128 + code >>> (6 * (count - 1 - i)) % 64

/-- Splits the code points from `low` to `high`, whose last `tail` bytes may be chosen freely in the
middle, into ranges with that property as a whole. -/
def splitRange (low high : Nat) : Nat → List (Nat × Nat)
  | 0 => [(low, high)]
  | tail + 1 =>
    let block := 1 <<< (6 * (tail + 1))
    if low / block = high / block then splitRange low high tail
    else
      let start := if low % block = 0 then low else (low / block + 1) * block
      let stop := if high % block = block - 1 then high + 1 else high / block * block
      (if low < start then splitRange low (start - 1) tail else []) ++
        (if start < stop then [(start, stop - 1)] else []) ++
        (if stop ≤ high then splitRange stop high tail else [])

/-- The byte runs of the code points from `low` to `high`, all of which take `count` bytes after a
first byte to which `lead` is added. -/
def byteRunsOf (lead count low high : Nat) : List ByteRun :=
  if high < low then []
  else (splitRange low high count).map fun r =>
    (utf8Bytes lead count r.1).zip (utf8Bytes lead count r.2)

def byteRuns (r : Nat × Nat) : List ByteRun :=
  byteRunsOf 0 0 r.1 (min r.2 0x7F) ++
  byteRunsOf 0xC0 1 (max r.1 0x80) (min r.2 0x7FF) ++
  byteRunsOf 0xE0 2 (max r.1 0x800) (min r.2 0xD7FF) ++
  byteRunsOf 0xE0 2 (max r.1 0xE000) (min r.2 0xFFFF) ++
  byteRunsOf 0xF0 3 (max r.1 0x10000) r.2

def CharSet.byteRuns (s : CharSet) : List ByteRun := s.ranges.flatMap Text.byteRuns

end SerialConsole.Text
