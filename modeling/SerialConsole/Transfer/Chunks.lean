import SerialConsole.Transfer.Base64
import SerialConsole.Text.Blank

/-!
# Chunked sources

A file is sent as lines, each the base64 form of one chunk. The source hands out its bytes in
portions of its own choosing; `Chunker.next` gathers them into chunks of one size, of which only the
last may be shorter.
-/

namespace SerialConsole

/-- What one read of a source yields. -/
inductive ReadEvent where
  /-- Some bytes; no bytes mean the end of the source. -/
  | data (bytes : Bytes)
  | interrupted
  | failed (reason : String)
  deriving DecidableEq, Repr

/-- A source of bytes, as the reads that it will answer. After the last it is at its end. -/
abbrev Source := List ReadEvent

namespace Source

def ofBytes (bytes : Bytes) : Source := [.data bytes]

/-- A bound on the reads and bytes that a source has left. -/
def weight : Source → Nat
  | [] => 0
  | .data bytes :: rest => bytes.length + 1 + weight rest
  | _ :: rest => 1 + weight rest

/-- Reads until `need` bytes are there, or the source ends. Bytes read before a failure are lost. -/
def fill (need : Nat) : Source → Except String Bytes × Source
  | [] => (.ok [], [])
  | .interrupted :: rest => if need = 0 then (.ok [], .interrupted :: rest) else fill need rest
  | .failed reason :: rest =>
    if need = 0 then (.ok [], .failed reason :: rest) else (.error reason, rest)
  | .data bytes :: rest =>
    if need = 0 then (.ok [], .data bytes :: rest)
    else if bytes = [] then (.ok [], rest)
    else match bytes.drop need with
      | [] =>
        let (more, rest) := fill (need - bytes.length) rest
        (more.map (bytes ++ ·), rest)
      | left => (.ok (bytes.take need), .data left :: rest)

end Source

/-- A source that is being read in chunks. -/
structure Chunker where
  source : Source
  size : Nat
  done : Bool := false
  deriving DecidableEq, Repr

namespace Chunker

/-- Reads a source in chunks of `size` bytes, at least one. -/
def ofSource (source : Source) (size : Nat) : Chunker := { source, size := max size 1 }

/-- The next line, or the failure that ends the lines. A chunk that is not full is the last. -/
def next (c : Chunker) : Option (Except String (List Char)) × Chunker :=
  if c.done then (none, c)
  else match c.source.fill c.size with
    | (.error reason, source) => (some (.error reason), { c with source, done := true })
    | (.ok [], source) => (none, { c with source, done := true })
    | (.ok chunk, source) =>
      (some (.ok (Base64.encode chunk)), { c with source, done := chunk.length < c.size })

/-- The lines that are left, up to `count`. -/
def take : Nat → Chunker → List (Except String (List Char))
  | 0, _ => []
  | count + 1, c => match c.next with
    | (none, _) => []
    | (some line, c) => line :: take count c

/-- All lines that are left: each takes at least one byte or read of the source. -/
def lines (c : Chunker) : List (Except String (List Char)) := c.take (c.source.weight + 1)

end Chunker

/-- The bytes of one line; blanks around it do not matter. -/
def Base64.decodeLine (line : List Char) : Except Base64.Fault Bytes :=
  Base64.decode (Text.encode (Text.trim line))

end SerialConsole
