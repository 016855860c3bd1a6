/-!
# Sets of characters

A set of characters is a list of code-point ranges. `ofRanges` brings any list of ranges into
increasing order with no two ranges touching, and the set operations are stated on that form.
Published character tables are written as text, one range after another, and read by `read`.
-/

namespace SerialConsole.Text

/-- A set of characters, as the ranges of code points that it covers, both ends included. -/
structure CharSet where
  ranges : List (Nat × Nat)
  deriving Repr, DecidableEq, Inhabited

namespace CharSet

def lastCodePoint : Nat := 0x10FFFF

def empty : CharSet := ⟨[]⟩

def all : CharSet := ⟨[(0, lastCodePoint)]⟩

def range (low high : Nat) : CharSet := if low ≤ high then ⟨[(low, high)]⟩ else empty

def single (c : Char) : CharSet := ⟨[(c.toNat, c.toNat)]⟩

def covers (s : CharSet) (code : Nat) : Bool :=
  s.ranges.any fun r => r.1 ≤ code && code ≤ r.2

def contains (s : CharSet) (c : Char) : Bool := s.covers c.toNat

/-- Joins ranges that touch, in a list ordered by lower ends; `low` to `high` is still open. -/
def joinFrom (low high : Nat) : List (Nat × Nat) → List (Nat × Nat)
  | [] => [(low, high)]
  | r :: rest =>
    if r.1 ≤ high + 1 then joinFrom low (max high r.2) rest
    else (low, high) :: joinFrom r.1 r.2 rest

def join : List (Nat × Nat) → List (Nat × Nat)
  | [] => []
  | r :: rest => joinFrom r.1 r.2 rest

def ofRanges (ranges : List (Nat × Nat)) : CharSet :=
  ⟨join ((ranges.filter fun r => r.1 ≤ r.2).mergeSort fun a b => a.1 ≤ b.1)⟩

def gaps (start : Nat) : List (Nat × Nat) → List (Nat × Nat)
  | [] => if start ≤ lastCodePoint then [(start, lastCodePoint)] else []
  | r :: rest =>
    if start < r.1 then (start, r.1 - 1) :: gaps (r.2 + 1) rest else gaps (r.2 + 1) rest

def union (a b : CharSet) : CharSet := ofRanges (a.ranges ++ b.ranges)

def compl (a : CharSet) : CharSet := ⟨gaps 0 (ofRanges a.ranges).ranges⟩

def inter (a b : CharSet) : CharSet := (a.compl.union b.compl).compl

def diff (a b : CharSet) : CharSet := a.inter b.compl

def symmDiff (a b : CharSet) : CharSet := (a.union b).diff (a.inter b)

def unions (sets : List CharSet) : CharSet := ofRanges (sets.flatMap ranges)

/-- The set without the code points that are no characters, its ranges ordered and joined. -/
def scalars (s : CharSet) : CharSet :=
  .ofRanges (s.ranges.flatMap fun r => [(r.1, min r.2 0xD7FF), (max r.1 0xE000, r.2)])

def isEmpty (s : CharSet) : Bool := s.ranges.all fun r => r.2 < r.1

/-! ## Tables -/

def hexValue (c : Char) : Option Nat :=
  if '0' ≤ c ∧ c ≤ '9' then some (c.toNat - '0'.toNat)
  else if 'a' ≤ c ∧ c ≤ 'f' then some (c.toNat - 'a'.toNat + 10)
  else if 'A' ≤ c ∧ c ≤ 'F' then some (c.toNat - 'A'.toNat + 10)
  else none

/-- A place in a table: the entry begun there, if any, as its lower end and the number so far. -/
structure TablePlace where
  finished : List (Nat × Nat) := []
  /-- The lower end of the entry, once its dash has been seen. -/
  low : Option Nat := none
  number : Option Nat := none

def TablePlace.endEntry (p : TablePlace) : TablePlace :=
  match p.number with
  | none => ⟨p.finished, none, none⟩
  | some n => ⟨(p.low.getD n, n) :: p.finished, none, none⟩

def TablePlace.next (p : TablePlace) (c : Char) : TablePlace :=
  match hexValue c with
  | some d => { p with number := some (p.number.getD 0 * 16 + d) }
  | none => if c = '-' then { p with low := p.number, number := none } else p.endEntry

/-- Reads a table: hexadecimal code points and ranges `low-high`, separated by blanks. -/
def read (table : String) : CharSet :=
  ⟨(table.foldl TablePlace.next {}).endEntry.finished.reverse⟩

end CharSet

end SerialConsole.Text
