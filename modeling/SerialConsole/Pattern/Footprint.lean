import Std.Data.HashMap
import SerialConsole.Pattern.Expr
import SerialConsole.Text.ByteRuns
import SerialConsole.Text.Utf8

/-!
# The footprint of a pattern

A search works on the bytes of a text by two plans, one that reads it forwards and one that reads
it backwards. A plan is a graph of nodes, and the memory for them is limited: `fits` says whether
both plans of an expression stay within the limit. Nodes are only counted here, not built. Sets of
characters are planned byte by byte, where characters share nodes for equal bytes; the shared nodes
are remembered in a table with a fixed number of places, so that some of them are forgotten.
-/

namespace SerialConsole.Pattern

open Text

def memoryLimit : Nat := 10485760

def nodeMemory : Nat := 32

def linkMemory : Nat := 4

def byteLinkMemory : Nat := 8

structure Footprint where
  nodes : Nat := 0
  links : Nat := 0

def Footprint.memory (f : Footprint) : Nat := nodeMemory * f.nodes + f.links

/-- A part of a plan: what the plan takes with it, if that is within the limit, and a result. -/
abbrev Planning := StateT Footprint Option

def nodes (count : Nat) : Planning Unit := fun f =>
  let f := { f with nodes := f.nodes + count }
  if memoryLimit < f.memory then none else some ((), f)

def node (links : Nat) : Planning Nat := fun f =>
  let added : Footprint := ⟨f.nodes + 1, f.links + links⟩
  if memoryLimit < added.memory then none else some (f.nodes, added)

def copies (part : Planning Unit) : Nat → Planning Unit
  | 0 => pure ()
  | count + 1 => do
    part
    copies part count

/-! ## Tables of nodes -/

/-- A table of nodes with a fixed number of places. What a node is made of determines its place, and
a later node takes the place of an earlier one. -/
structure NodeTable where
  size : Nat
  /-- For each place that is taken, what its node is made of, and its number. -/
  places : Std.HashMap Nat (List Nat × Nat) := {}

def NodeTable.place (t : NodeTable) (content : List Nat) : Nat :=
  let mixed := content.foldl (fun (h : UInt64) n => (h ^^^ n.toUInt64) * 1099511628211)
    14695981039346656037
  mixed.toNat % t.size

/-- The number of the node with some content: the one in the table, or else a new one. -/
def NodeTable.share (t : NodeTable) (content : List Nat) (links : Nat) :
    Planning (Nat × NodeTable) := do
  let place := t.place content
  let known := match t.places[place]? with
    | some (other, number) => if other == content then some number else none
    | none => none
  match known with
  | some number => return (number, t)
  | none =>
    let number ← node links
    return (number, { t with places := t.places.insert place (content, number) })

/-! ## Characters of a set -/

/-- Plans byte runs forwards: a node for the first bytes, with a link for each group of runs that
begin alike to a node for their other bytes. `next` is the number of the node after the last byte.
The first argument is a bound on the number of bytes. -/
def planRuns (next : Nat) : Nat → NodeTable → List ByteRun → Planning (Nat × NodeTable)
  | 0, table, _ => pure (next, table)
  | length + 1, table, runs => do
    if runs.all List.isEmpty then return (next, table)
    let groups := runs.splitBy fun a b => a.head? == b.head?
    let (content, table) ← groups.foldlM (fun (content, table) group => do
      let (number, table) ← planRuns next length table (group.map List.tail)
      let first := (group.head? >>= List.head?).getD (0, 0)
      return (number :: first.2 :: first.1 :: content, table)) ([], table)
    table.share content.reverse (byteLinkMemory * groups.length)

def planBackwards (next : Nat) (table : NodeTable) : ByteRun → Planning NodeTable
  | [] => pure table
  | (low, high) :: rest => do
    let (number, table) ← table.share [next, low, high] 0
    planBackwards number table rest

def planSet (backwards : Bool) (set : CharSet) : Planning Unit := do
  if set.ranges.all fun r => r.2 < 0x80 then
    nodes 1
    let _ ← node (byteLinkMemory * set.ranges.length)
  else
    let runs := set.byteRuns
    if backwards then
      let _ ← node (linkMemory * runs.length)
      let last ← node 0
      let _ ← runs.foldlM (planBackwards last) { size := 1000 }
    else
      let last ← node 0
      let _ ← planRuns last 4 { size := 10000 } runs

/-! ## Choices between texts -/

/-- Cuts a list of texts at the empty ones. Of several empty texts at the front one counts. -/
def cutAtEmpty (texts : List Bytes) : List (List Bytes) :=
  let texts := if texts.head? == some [] then [] :: texts.dropWhile List.isEmpty else texts
  texts.foldr (fun text pieces => match text, pieces with
    | [], pieces => [] :: pieces
    | text, piece :: pieces => (text :: piece) :: pieces
    | text, [] => [[text]]) [[]]

def gatherByFirst (texts : List Bytes) : List (List Bytes) :=
  let firsts := (texts.filterMap List.head?).eraseDups
  firsts.map fun byte => (texts.filter fun t => t.head? == some byte).map List.tail

/-- Plans a choice between texts, where texts that begin alike share nodes unless a shorter text
between them is preferred. The first argument is a bound on the length of the texts. -/
def planTexts : Nat → List Bytes → Planning Unit
  | 0, _ => pure ()
  | length + 1, texts => do
    let pieces := (cutAtEmpty texts).map gatherByFirst
    let planned := pieces.filter fun piece => !piece.isEmpty
    planned.forM fun piece => do
      (piece.filter fun rests => rests.any fun t => !t.isEmpty).forM (planTexts length)
      let _ ← node (if piece.length = 1 then 0 else byteLinkMemory * piece.length)
    let _ ← node (linkMemory * (planned.length + (pieces.length - 1)))

/-! ## Expressions -/

def Expr.text? : Expr → Option (List Char)
  | .text chars => some chars
  | _ => none

mutual

def Expr.hasEmptySet : Expr → Bool
  | .empty | .text _ | .position _ => false
  | .one set => set.isEmpty
  | .seq parts => anyHasEmptySet parts
  | .choice options => anyHasEmptySet options
  | .repeated body _ _ _ => body.hasEmptySet
  | .group body => body.hasEmptySet

def anyHasEmptySet : List Expr → Bool
  | [] => false
  | e :: rest => e.hasEmptySet || anyHasEmptySet rest

end

def planRepeated (part : Planning Unit) (isNullable : Bool) (least : Nat) (most : Option Nat) :
    Planning Unit := do
  let fork : Planning Unit := do
    let _ ← node (2 * linkMemory)
  match least, most with
  | 0, some 1 =>
    fork
    part
    nodes 1
  | 0, none =>
    if isNullable then
      part
      fork
      fork
      nodes 1
    else
      fork
      part
  | least, none =>
    copies part least
    fork
  | least, some most =>
    if least = 0 then nodes 1 else copies part least
    if least < most then
      nodes 1
      copies (do fork; part) (most - least)

mutual

def Expr.plan (backwards : Bool) : Expr → Planning Unit
  | .empty | .position _ => nodes 1
  | .text chars => nodes (encode chars).length
  | .one set => planSet backwards set
  | .seq parts => planSeq backwards parts
  | .choice options => do
    match options.mapM Expr.text? with
    | some texts =>
      let texts := texts.map encode
      nodes 1
      planTexts ((texts.map List.length).foldl max 0 + 1)
        (if backwards then texts.map List.reverse else texts)
    | none => planChoice backwards 0 options
  | .repeated body least most _ =>
    planRepeated (body.plan backwards) (body.nullable || body.hasEmptySet) least most
  | .group body =>
    if backwards then body.plan backwards
    else do
      nodes 1
      body.plan backwards
      nodes 1

def planSeq (backwards : Bool) : List Expr → Planning Unit
  | [] => pure ()
  | e :: rest =>
    if backwards then do
      planSeq backwards rest
      e.plan backwards
    else do
      e.plan backwards
      planSeq backwards rest

/-- Plans several expressions beside each other, after `before` others. The node before them is
made when there are two. -/
def planChoice (backwards : Bool) (before : Nat) : List Expr → Planning Unit
  | [] => pure ()
  | e :: rest => do
    e.plan backwards
    if before = 1 then
      let _ ← node (linkMemory * (rest.length + 2))
      nodes 1
    planChoice backwards (before + 1) rest

end

/-! ## Whole patterns -/

mutual

def Expr.isHeldBy (place : Position) (backwards : Bool) : Expr → Bool
  | .empty | .text _ | .one _ => false
  | .position p => p == place
  | .seq parts => anyHeldBy place backwards parts
  | .choice options => allHeldBy place backwards options
  | .repeated body least _ _ => 0 < least && body.isHeldBy place backwards
  | .group body => body.isHeldBy place backwards

/-- Whether a position begins every match of a sequence, or ends it if `backwards`: it does so for
some part before which all match only the empty text. -/
def anyHeldBy (place : Position) (backwards : Bool) : List Expr → Bool
  | [] => false
  | e :: rest =>
    if backwards then
      anyHeldBy place backwards rest ||
        (Expr.allOnlyEmpty rest && e.isHeldBy place backwards)
    else
      e.isHeldBy place backwards || (e.onlyEmpty && anyHeldBy place backwards rest)

/-- Whether a position begins every match of all expressions, or ends it if `backwards`. -/
def allHeldBy (place : Position) (backwards : Bool) : List Expr → Bool
  | [] => true
  | e :: rest => e.isHeldBy place backwards && allHeldBy place backwards rest

end

/-- Plans a search for an expression. It may begin anywhere unless a position holds it at the end of
the text where reading begins. -/
def Expr.planSearch (e : Expr) (backwards : Bool) : Planning Unit := do
  if e.isHeldBy (if backwards then .textEnd else .textStart) backwards then nodes 1
  else
    let _ ← node (2 * linkMemory)
    nodes 1
    let _ ← node byteLinkMemory
  (if backwards then e else .group e).plan backwards
  nodes 1

/-- The number of texts from which on a choice between them is searched for in another way, which
has no limit. -/
def manyTexts : Nat := 3000

def Expr.hasManyTexts : Expr → Bool
  | .choice options => manyTexts ≤ options.length && options.all fun e => e.text?.isSome
  | _ => false

def Expr.fits (e : Expr) : Bool :=
  e.hasManyTexts || [false, true].all fun backwards => ((e.planSearch backwards).run {}).isSome

end SerialConsole.Pattern
