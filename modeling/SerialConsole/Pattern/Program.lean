import SerialConsole.Pattern.Expr
import SerialConsole.Pattern.Named

/-!
# Pattern programs

An expression is turned into a graph of nodes. A search follows all paths through the graph at once,
in order of preference, while it passes over the text a single time: of all matches it finds the one
that begins first, and of those the preferred one.
-/

namespace SerialConsole.Pattern

open Text

inductive Node where
  | one (set : CharSet) (next : Nat)
  | position (place : Position) (next : Nat)
  | fork (first second : Nat)
  | accept
  deriving Repr, Inhabited

abbrev Graph := Array Node

def addNode (node : Node) : StateM Graph Nat := modifyGet fun g => (g.size, g.push node)

def Node.forkOf (greedy : Bool) (more done : Nat) : Node :=
  if greedy then .fork more done else .fork done more

def addCopies (part : Nat → StateM Graph Nat) : Nat → Nat → StateM Graph Nat
  | 0, next => pure next
  | count + 1, next => do addCopies part count (← part next)

/-- Adds up to `count` copies of a part in front of a node, each of which may be left out together
with those after it. -/
def addOptional (part : Nat → StateM Graph Nat) (greedy : Bool) (done : Nat) :
    Nat → Nat → StateM Graph Nat
  | 0, next => pure next
  | count + 1, next => do
    let inner ← part next
    addOptional part greedy done count (← addNode (.forkOf greedy inner done))

/-- Adds a part that is passed at least once in front of a node. Gives the numbers of the part's
first node and of the fork after it. -/
def addLoop (part : Nat → StateM Graph Nat) (greedy : Bool) (next : Nat) :
    StateM Graph (Nat × Nat) := do
  let fork ← addNode .accept
  let inner ← part fork
  modify fun g => g.set! fork (.forkOf greedy inner next)
  pure (inner, fork)

def addText (chars : List Char) (next : Nat) : StateM Graph Nat :=
  chars.reverse.foldlM (fun next c => addNode (.one (.single c) next)) next

mutual

/-- Adds the nodes of an expression in front of a node, and gives the number of the first one. -/
def addExpr : Expr → Nat → StateM Graph Nat
  | .empty, next => pure next
  | .text chars, next => addText chars next
  | .one set, next => addNode (.one set next)
  | .position p, next => addNode (.position p next)
  | .seq parts, next => addSeq parts next
  | .choice options, next => addChoice options next
  | .repeated body least (some most) greedy, next => do
    let rest ← addOptional (addExpr body) greedy next (most - least) next
    addCopies (addExpr body) least rest
  | .repeated body least none greedy, next => do
    let (inner, fork) ← addLoop (addExpr body) greedy next
    if 0 < least then addCopies (addExpr body) (least - 1) inner
    else if body.nullable then addNode (.forkOf greedy inner next)
    else pure fork
  | .group body, next => addExpr body next

/-- Adds the nodes of several expressions one after the other in front of a node. -/
def addSeq : List Expr → Nat → StateM Graph Nat
  | [], next => pure next
  | e :: rest, next => do addExpr e (← addSeq rest next)

def addChoice : List Expr → Nat → StateM Graph Nat
  | [], next => addNode (.one .empty next)
  | [e], next => addExpr e next
  | e :: rest, next => do
    let others ← addChoice rest next
    let first ← addExpr e next
    addNode (.fork first others)

end

/-- A pattern ready to be searched for. -/
structure Program where
  graph : Graph
  entry : Nat
  deriving Repr, Inhabited

def Program.ofExpr (e : Expr) : Program :=
  let (entry, graph) := ((do addExpr e (← addNode .accept)) : StateM Graph Nat).run #[]
  { graph, entry }

/-! ## Positions -/

/-- The characters on both sides of a place in a text. -/
structure Around where
  before : Option Char
  after : Option Char

def isWordChar (kind : WordKind) (c : Option Char) : Bool :=
  c.any fun c => match kind with
    | .unicode => wordChars.contains c
    | .ascii => asciiWordChars.contains c

def Position.holds (p : Position) (a : Around) : Bool :=
  match p with
  | .textStart => a.before.isNone
  | .textEnd => a.after.isNone
  | .lineStart => a.before.all (· == '\n')
  | .lineEnd => a.after.all (· == '\n')
  | .returnLineStart =>
    a.before.all fun c => c == '\n' || (c == '\r' && a.after != some '\n')
  | .returnLineEnd =>
    a.after.all fun c => c == '\r' || (c == '\n' && a.before != some '\r')
  | .wordEdge kind => isWordChar kind a.before != isWordChar kind a.after
  | .noWordEdge kind => isWordChar kind a.before == isWordChar kind a.after
  | .wordStart kind => !isWordChar kind a.before && isWordChar kind a.after
  | .wordEnd kind => isWordChar kind a.before && !isWordChar kind a.after
  | .noWordBefore kind => !isWordChar kind a.before
  | .noWordAfter kind => !isWordChar kind a.after

/-! ## Searching -/

/-- A path through the graph: the node that it has come to, and where in the text it began. -/
structure Path where
  node : Nat
  start : Nat
  deriving DecidableEq, Repr

/-- What is known at one place of the text. -/
structure Front where
  /-- For each node the last place where a path came to it, counted from one. -/
  visited : Array Nat
  /-- The paths that wait for a character, the least preferred first. -/
  waiting : List Path := []
  found : Option Nat := none

/-- Follows paths until they wait for a character. A path that ends a match makes all less
preferred ones pointless, and so does one that came to a node before another. The fuel is a bound
on the paths followed. -/
def follow (graph : Graph) (around : Around) (place : Nat) :
    Nat → List Path → Front → Front
  | 0, _, front => front
  | _ + 1, [], front => front
  | fuel + 1, path :: rest, front =>
    if front.visited.getD path.node 0 = place + 1 then
      follow graph around place fuel rest front
    else
      let visited := front.visited.setIfInBounds path.node (place + 1)
      match graph[path.node]? with
      | none => follow graph around place fuel rest { front with visited }
      | some .accept => { front with visited, found := some path.start }
      | some (.one ..) =>
        follow graph around place fuel rest
          { front with visited, waiting := path :: front.waiting }
      | some (.position p next) =>
        if p.holds around then
          follow graph around place fuel (⟨next, path.start⟩ :: rest) { front with visited }
        else follow graph around place fuel rest { front with visited }
      | some (.fork first second) =>
        follow graph around place fuel
          (⟨first, path.start⟩ :: ⟨second, path.start⟩ :: rest) { front with visited }

def Path.pass (graph : Graph) (c : Char) (path : Path) : Option Path :=
  match graph[path.node]? with
  | some (.one set next) => if set.contains c then some ⟨next, path.start⟩ else none
  | _ => none

/-- The numbers of characters before a match and inside it. -/
structure Span where
  skipped : Nat
  length : Nat
  deriving DecidableEq, Repr

/-- Searches from a place in a text, given the character before it and the text after it. -/
def searchFrom (p : Program) (before : Option Char) (place : Nat) (visited : Array Nat)
    (paths : List Path) (best : Option Span) (text : List Char) : Option Span :=
  let paths := if best.isNone then paths ++ [⟨p.entry, place⟩] else paths
  if paths.isEmpty then best
  else
    let front := follow p.graph ⟨before, text.head?⟩ place (paths.length + 2 * p.graph.size + 1)
      paths { visited }
    let best := match front.found with
      | some start => some ⟨start, place - start⟩
      | none => best
    match text with
    | [] => best
    | c :: rest =>
      let paths := front.waiting.reverse.filterMap (Path.pass p.graph c)
      searchFrom p (some c) (place + 1) front.visited paths best rest

/-- The first match after the first `place` characters of a text, given the last of them and the
text after them. -/
def Program.search (p : Program) (before : Option Char) (place : Nat) (text : List Char) :
    Option Span :=
  searchFrom p before place (Array.replicate p.graph.size 0) [] none text

end SerialConsole.Pattern
