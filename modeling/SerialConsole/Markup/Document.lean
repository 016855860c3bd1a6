import SerialConsole.Markup.Token

/-!
# Documents

The value that a text of markup denotes: a tree of texts, lists and tables. A value may have an
anchor, by which other places of the tree refer to it.
-/

namespace SerialConsole.Markup

inductive Node where
  | scalar (style : Style) (tag : Option Bytes) (text : List Char)
  | list (items : List Node)
  | table (entries : List (Node × Node))
  | alias (number : Nat)
  deriving Repr, Inhabited

def Node.empty : Node := .scalar .plain none []

structure Anchored where
  number : Nat
  /-- The number of anchored values that begin before it. -/
  order : Nat
  node : Node
  deriving Repr

structure Builder where
  tokens : List Token
  handles : TagHandles := []
  anchors : List (List Char × Nat) := []
  begun : Nat := 0
  complete : List Anchored := []

namespace Builder

def peek : StateT Builder (Except String) (Option Token) := do return (← get).tokens.head?

def skip : StateT Builder (Except String) Unit :=
  modify fun b => { b with tokens := b.tokens.drop 1 }

def properties : StateT Builder (Except String) (Option (List Char) × Option Tag) := do
  match ← peek with
  | some (.anchor name) =>
    skip
    match ← peek with
    | some (.tag tag) =>
      skip
      return (some name, some tag)
    | _ => return (some name, none)
  | some (.tag tag) =>
    skip
    match ← peek with
    | some (.anchor name) =>
      skip
      return (some name, some tag)
    | _ => return (none, some tag)
  | _ => return (none, none)

/-- Begins a value with an anchor. An anchor is numbered by the different names that were given
before it. -/
def begin (name : List Char) : StateT Builder (Except String) (Nat × Nat) := do
  let b ← get
  let number := (b.anchors.map (·.1)).eraseDups.length
  set { b with anchors := (name, number) :: b.anchors, begun := b.begun + 1 }
  return (number, b.begun)

def isOneOf (token : Option Token) (ends : List Token) : Bool := token.any ends.contains

mutual

/-- Reads a value. Indented lists and tables are values only where `block` is set, and lists without
an indentation of their own only where `indentless` is set. -/
def node : Nat → Bool → Bool → StateT Builder (Except String) Node
  | 0, _, _ => throw "too deep"
  | fuel + 1, block, indentless => do
    if let some (.alias name) := ← peek then
      skip
      match (← get).anchors.lookup name with
      | some number => return .alias number
      | none => throw "an unknown anchor"
    let (anchor, tag) ← properties
    let resolved ← match tag with
      | some tag => tag.resolve (← get).handles
      | none => pure none
    let begun ← anchor.mapM begin
    let node ← content fuel block indentless (anchor.isSome || tag.isSome) resolved
    if let some (number, order) := begun then
      modify fun b => { b with complete := ⟨number, order, node⟩ :: b.complete }
    return node

/-- Reads a value after its anchor and tag. If it has one it may be empty. -/
def content : Nat → Bool → Bool → Bool → Option Bytes → StateT Builder (Except String) Node
  | 0, _, _, _, _ => throw "too deep"
  | fuel + 1, block, indentless, hasProperties, tag => do
    match ← peek, block, indentless with
    | some .entry, _, true => return .list (← indentlessItems fuel)
    | some (.scalar style text), _, _ =>
      skip
      return .scalar style tag text
    | some .listStart, _, _ =>
      skip
      return .list (← listItems fuel true)
    | some .tableStart, _, _ =>
      skip
      return .table (← tableEntries fuel true)
    | some .blockListStart, true, _ =>
      skip
      return .list (← blockItems fuel)
    | some .blockTableStart, true, _ =>
      skip
      return .table (← blockEntries fuel)
    | _, _, _ =>
      if hasProperties then return .scalar .plain tag [] else throw "a value is missing"

def nodeUnless : Nat → Bool → Bool → List Token → StateT Builder (Except String) Node
  | 0, _, _, _ => throw "too deep"
  | fuel + 1, block, indentless, ends => do
    if isOneOf (← peek) ends then return .empty else node fuel block indentless

def valueUnless : Nat → Bool → List Token → StateT Builder (Except String) Node
  | 0, _, _ => throw "too deep"
  | fuel + 1, block, ends => do
    if (← peek) = some .value then
      skip
      nodeUnless fuel block block ends
    else return .empty

def blockItems : Nat → StateT Builder (Except String) (List Node)
  | 0 => throw "too deep"
  | fuel + 1 => do
    match ← peek with
    | some .entry =>
      skip
      let item ← nodeUnless fuel true false [.entry, .blockEnd]
      return item :: (← blockItems fuel)
    | some .blockEnd =>
      skip
      return []
    | _ => throw "an entry of a list is missing"

/-- Reads the items of a list that is indented no further than the table around it. -/
def indentlessItems : Nat → StateT Builder (Except String) (List Node)
  | 0 => throw "too deep"
  | fuel + 1 => do
    if (← peek) = some .entry then
      skip
      let item ← nodeUnless fuel true false [.entry, .key, .value, .blockEnd]
      return item :: (← indentlessItems fuel)
    else return []

def blockEntries : Nat → StateT Builder (Except String) (List (Node × Node))
  | 0 => throw "too deep"
  | fuel + 1 => do
    match ← peek with
    | some .key =>
      skip
      let key ← nodeUnless fuel true true [.key, .value, .blockEnd]
      let value ← valueUnless fuel true [.key, .value, .blockEnd]
      return (key, value) :: (← blockEntries fuel)
    | some .blockEnd =>
      skip
      return []
    | _ => throw "a key is missing"

/-- Reads the items of a bracketed list. A key makes an item a table of one entry. -/
def listItems : Nat → Bool → StateT Builder (Except String) (List Node)
  | 0, _ => throw "too deep"
  | fuel + 1, first => do
    if !first && (← peek) != some .listEnd then
      unless (← peek) = some .comma do throw "a comma is missing"
      skip
    match ← peek with
    | some .listEnd =>
      skip
      return []
    | some .key =>
      skip
      let key ← pairKey fuel
      let value ← valueUnless fuel false [.comma, .listEnd]
      return .table [(key, value)] :: (← listItems fuel false)
    | _ =>
      let item ← node fuel false false
      return item :: (← listItems fuel false)

/-- Reads the key of a table of one entry. A key that is empty takes the token after it along. -/
def pairKey : Nat → StateT Builder (Except String) Node
  | 0 => throw "too deep"
  | fuel + 1 => do
    if isOneOf (← peek) [.value, .comma, .listEnd] then
      skip
      return .empty
    else node fuel false false

/-- Reads the entries of a bracketed table. A key without a value has an empty one. -/
def tableEntries : Nat → Bool → StateT Builder (Except String) (List (Node × Node))
  | 0, _ => throw "too deep"
  | fuel + 1, first => do
    if !first && (← peek) != some .tableEnd then
      unless (← peek) = some .comma do throw "a comma is missing"
      skip
    match ← peek with
    | some .tableEnd =>
      skip
      return []
    | some .key =>
      skip
      let key ← nodeUnless fuel false false [.value, .comma, .tableEnd]
      let value ← valueUnless fuel false [.comma, .tableEnd]
      return (key, value) :: (← tableEntries fuel false)
    | _ =>
      let key ← node fuel false false
      return (key, .empty) :: (← tableEntries fuel false)

end

/-- Reads the directives of a document; `version` tells whether one was about the version. -/
def directives (version : Bool) (handles : TagHandles) :
    List Token → Except String (TagHandles × List Token)
  | .version major minor :: rest =>
    if version then .error "a second version"
    else if major = 1 ∧ (minor = 1 ∨ minor = 2) then directives true handles rest
    else .error "an unknown version"
  | .handle name beginning :: rest =>
    if (handles.lookup name).isSome then .error "a second meaning of a handle"
    else directives version ((name, beginning) :: handles) rest
  | tokens => .ok (handles, tokens)

end Builder

structure Document where
  root : Option Node
  anchored : List Anchored
  deriving Repr

namespace Document

/-- The value of an anchor: of several with one number, the last that begins. -/
def target (d : Document) (number : Nat) : Option Node :=
  let latest := (d.anchored.filter (·.number = number)).foldl
    (fun best a => if best.all (·.order < a.order) then some a else best) none
  latest.map (·.node)

/-- The value itself in place of a reference to it. -/
def resolve (d : Document) : Node → Node
  | .alias number => (d.target number).getD .empty
  | node => node

def hasMore (tokens : List Token) : Bool := tokens.any (· != .documentEnd)

/-- The document that tokens form. There must be no other after it. -/
def ofTokens (tokens : List Token) : Except String Document := do
  if tokens.isEmpty then return ⟨none, []⟩
  let (handles, body) ← Builder.directives false [] tokens
  let explicit := body.head? = some .documentStart
  if !explicit && body.length < tokens.length then throw "a document without its start"
  let start : Builder :=
    { tokens := if explicit then body.drop 1 else body
      handles := handles ++ defaultHandles }
  let fuel := 4 * tokens.length + 8
  let ends : Token → Bool
    | .version .. | .handle .. | .documentStart | .documentEnd => true
    | _ => false
  let (root, b) ←
    if explicit && start.tokens.head?.all ends then pure (Node.empty, start)
    else (Builder.node fuel true false).run start
  if hasMore b.tokens then throw "more than one document"
  return ⟨some root, b.complete⟩

/-- The document that a text denotes. -/
def ofText (text : List Char) : Except String Document := do ofTokens (← Token.ofText text)

end Document

end SerialConsole.Markup
