import SerialConsole.Pattern.Footprint
import SerialConsole.Pattern.Named
import SerialConsole.Text.Recent

/-!
# The notation of patterns

A notation consists of literal characters and escapes, sets in brackets with operations on them,
groups, flags and repetitions. `read` turns it into an expression or says what is wrong with it.
-/

namespace SerialConsole.Pattern

open Text

/-- The switches that change how a notation is read. -/
structure Flags where
  ignoreCase : Bool := false
  multiLine : Bool := false
  dotAll : Bool := false
  swapGreed : Bool := false
  unicode : Bool := true
  returns : Bool := false
  verbose : Bool := false
  deriving DecidableEq, Repr

def Flags.set (f : Flags) (letter : Char) (value : Bool) : Except String Flags :=
  match letter with
  | 'i' => .ok { f with ignoreCase := value }
  | 'm' => .ok { f with multiLine := value }
  | 's' => .ok { f with dotAll := value }
  | 'U' => .ok { f with swapGreed := value }
  | 'u' => .ok { f with unicode := value }
  | 'R' => .ok { f with returns := value }
  | 'x' => .ok { f with verbose := value }
  | _ => .error "unrecognized flag"

/-! ## Blanks and comments -/

def skipComment : List Char → List Char
  | [] => []
  | c :: rest => if c = '\n' then rest else skipComment rest

/-- Skipping a comment leaves no more than there was. -/
theorem length_skipComment_le (cs : List Char) : (skipComment cs).length ≤ cs.length := by
  induction cs with
  | nil => exact Nat.le_refl _
  | cons c rest ih =>
    simp only [skipComment]
    split
    · simp
    · simp only [List.length_cons]; omega

def skipBlanks : List Char → List Char
  | [] => []
  | c :: rest =>
    if isBlank c then skipBlanks rest
    else if c = '#' then skipBlanks (skipComment rest)
    else c :: rest
termination_by cs => cs.length
decreasing_by
  · simp
  · have := length_skipComment_le rest
    simp only [List.length_cons]
    omega

def Flags.skip (f : Flags) (cs : List Char) : List Char := if f.verbose then skipBlanks cs else cs

/-! ## Numbers -/

def countLimit : Nat := 4294967295

def readCount (f : Flags) (cs : List Char) : Except String (Nat × List Char) := do
  let cs := cs.dropWhile isBlank
  let (digits, rest) := digitsOf (cs.length + 1) cs
  let rest := f.skip (rest.dropWhile isBlank)
  if digits.isEmpty then .error "number expected"
  else if countLimit < decimalValue digits then .error "number too large"
  else .ok (decimalValue digits, rest)
where
  digitsOf : Nat → List Char → List Char × List Char
    | 0, cs => ([], cs)
    | fuel + 1, cs => match cs with
      | c :: rest =>
        if isAsciiDigit c then
          let (more, rest) := digitsOf fuel (f.skip rest)
          (c :: more, rest)
        else ([], cs)
      | [] => ([], cs)

def charOfCode (code : Nat) : Except String Char :=
  if code.isValidChar then .ok (Char.ofNat code) else .error "no such character"

def readBracedHex (f : Flags) (value : Option Nat) : List Char → Except String (Char × List Char)
  | [] => .error "unclosed escape"
  | c :: rest =>
    if c = '\x7d' then do
      let some code := value | .error "empty escape"
      let c ← charOfCode code
      .ok (c, rest)
    else if f.verbose && isBlank c then readBracedHex f value rest
    else match CharSet.hexValue c with
      | some d => readBracedHex f (some (value.getD 0 * 16 + d)) rest
      | none => .error "hexadecimal digit expected"

def readHexDigits (f : Flags) : Nat → Nat → List Char → Except String (Char × List Char)
  | 0, code, cs => do
    let c ← charOfCode code
    .ok (c, cs)
  | count + 1, code, cs => match cs with
    | [] => .error "unfinished escape"
    | c :: rest => match CharSet.hexValue c with
      | some d => readHexDigits f count (code * 16 + d) (f.skip rest)
      | none => .error "hexadecimal digit expected"

/-! ## Escapes -/

/-- What stands for one place in a pattern: a character, a set, or a position. A character knows
whether it was written as two hexadecimal digits. -/
inductive Atom where
  | char (c : Char) (twoDigits : Bool)
  | set (s : CharSet)
  | position (p : Position)
  deriving Repr

def Flags.close (f : Flags) (s : CharSet) : CharSet :=
  if !f.ignoreCase then s else if f.unicode then s.closeCase else closeAsciiCase s

/-- The complement of a set. Without the characters of all scripts it would contain bytes that are
no characters. -/
def Flags.complement (f : Flags) (s : CharSet) : Except String CharSet :=
  if f.unicode then .ok s.compl else .error "pattern can match invalid text"

def readNamed (f : Flags) (negated : Bool) (cs : List Char) :
    Except String (CharSet × List Char) := do
  if !f.unicode then .error "named class not allowed here"
  let (set, unequal, rest) ← match cs with
    | [] => .error "unfinished escape"
    | '\x7b' :: rest => do
      let (name, rest) := rest.span (· ≠ '\x7d')
      let name := if f.verbose then name.filter (fun c => !isBlank c) else name
      if rest.isEmpty then .error "unclosed class name"
      let (set, unequal) := ofName name
      pure (set, unequal, rest.drop 1)
    | c :: rest =>
      if c = '\\' then .error "class name expected"
      else pure (named? (String.singleton c), false, rest)
  let some set := set | .error "unknown class name"
  let set := f.close set
  .ok (if negated != unequal then set.compl else set, rest)
where
  ofName (name : List Char) : Option CharSet × Bool :=
    match splitAt? ['!', '='] name with
    | some (property, value) => (valued? (String.ofList property) (String.ofList value), true)
    | none => match splitAt? [':'] name <|> splitAt? ['='] name with
      | some (property, value) => (valued? (String.ofList property) (String.ofList value), false)
      | none => (named? (String.ofList name), false)
  splitAt? (sign : List Char) : List Char → Option (List Char × List Char)
    | [] => none
    | c :: rest =>
      if sign.isPrefixOf (c :: rest) then some ([], (c :: rest).drop sign.length)
      else (splitAt? sign rest).map fun (a, b) => (c :: a, b)

def shortClass (f : Flags) (letter : Char) : Except String CharSet := do
  let set := match letter.toLower with
    | 'd' => if f.unicode then decimalDigits else asciiDigits
    | 's' => if f.unicode then blanks else asciiBlanks
    | _ => if f.unicode then wordChars else asciiWordChars
  if letter.isUpper then f.complement set else .ok set

def Flags.words (f : Flags) : WordKind := if f.unicode then .unicode else .ascii

/-- Whether a character has a meaning of its own in patterns, so that it may be escaped. -/
def isMeta (c : Char) : Bool := "\\.+*?()|[]\x7b\x7d^$#&-~".toList.contains c

def isEscapable (c : Char) : Bool :=
  isMeta c || (c.toNat < 0x80 && !c.isAlphanum && c != '<' && c != '>')

/-- Reads the kind of a word position after `\b`, if there is one: its name in braces. What begins
otherwise in braces is a repetition. -/
def readWordPosition (f : Flags) (cs : List Char) : Except String (Position × List Char) := do
  match cs with
  | '\x7b' :: rest =>
    let rest := f.skip rest
    match rest with
    | [] => .error "unclosed escape"
    | c :: _ =>
      if !isNameChar c then .ok (.wordEdge f.words, cs)
      else
        let (name, rest) := nameOf (rest.length + 1) rest
        let position ← match String.ofList name with
          | "start" => .ok (.wordStart f.words)
          | "end" => .ok (.wordEnd f.words)
          | "start-half" => .ok (.noWordBefore f.words)
          | "end-half" => .ok (.noWordAfter f.words)
          | _ => .error "unknown word position"
        match rest with
        | '\x7d' :: rest => .ok (position, rest)
        | _ => .error "unclosed escape"
  | _ => .ok (.wordEdge f.words, cs)
where
  isNameChar (c : Char) : Bool := c.isAlpha || c == '-'
  nameOf : Nat → List Char → List Char × List Char
    | 0, cs => ([], cs)
    | fuel + 1, cs => match cs with
      | c :: rest =>
        if isNameChar c then
          let (more, rest) := nameOf fuel (f.skip rest)
          (c :: more, rest)
        else ([], cs)
      | [] => ([], cs)

def readEscape (f : Flags) (cs : List Char) : Except String (Atom × List Char) := do
  match cs with
  | [] => .error "unfinished escape"
  | c :: rest =>
    match c with
    | 'x' | 'u' | 'U' =>
      let rest := f.skip rest
      match rest with
      | [] => .error "unfinished escape"
      | '\x7b' :: rest =>
        let (c, rest) ← readBracedHex f none rest
        .ok (.char c false, f.skip rest)
      | _ =>
        let count := if c = 'x' then 2 else if c = 'u' then 4 else 8
        let (d, rest) ← readHexDigits f count 0 rest
        .ok (.char d (c = 'x'), rest)
    | 'p' | 'P' =>
      let (set, rest) ← readNamed f (c = 'P') (f.skip rest)
      .ok (.set set, rest)
    | 'd' | 's' | 'w' | 'D' | 'S' | 'W' =>
      let set ← shortClass f c
      .ok (.set set, rest)
    | 'a' => .ok (.char '\x07' false, rest)
    | 'f' => .ok (.char '\x0c' false, rest)
    | 't' => .ok (.char '\t' false, rest)
    | 'n' => .ok (.char '\n' false, rest)
    | 'r' => .ok (.char '\r' false, rest)
    | 'v' => .ok (.char '\x0b' false, rest)
    | 'A' => .ok (.position .textStart, rest)
    | 'z' => .ok (.position .textEnd, rest)
    | 'b' =>
      let (position, rest) ← readWordPosition f rest
      .ok (.position position, rest)
    | 'B' => .ok (.position (.noWordEdge f.words), rest)
    | '<' => .ok (.position (.wordStart f.words), rest)
    | '>' => .ok (.position (.wordEnd f.words), rest)
    | _ => if isEscapable c then .ok (.char c false, rest) else .error "unrecognized escape"

/-- Refuses a character that is meant as a byte outside ASCII. -/
def Flags.checkByte (f : Flags) (c : Char) (twoDigits : Bool) : Except String Unit :=
  if !f.unicode && twoDigits && 0x7F < c.toNat then .error "pattern can match invalid text"
  else .ok ()

/-! ## Sets in brackets -/

/-- The operations on sets inside brackets. -/
inductive SetOp where
  | inter
  | diff
  | symmDiff
  deriving DecidableEq, Repr

/-- Applies an operation; under the flags both sets have both cases of their members. -/
def SetOp.apply (f : Flags) (op : SetOp) (a b : CharSet) : CharSet :=
  let a := f.close a
  let b := f.close b
  match op with
  | .inter => a.inter b
  | .diff => a.diff b
  | .symmDiff => a.symmDiff b

/-- A bracket that has been opened. -/
structure OpenSet where
  negated : Bool
  /-- The operation begun, with its first set and how deep that is. -/
  begun : Option (CharSet × SetOp × Nat) := none
  /-- The members so far, or those of the second set of the operation. -/
  members : CharSet := .empty
  count : Nat := 0
  deepest : Nat := 0

def OpenSet.value (f : Flags) (s : OpenSet) : CharSet :=
  match s.begun with
  | none => s.members
  | some (first, op, _) => op.apply f first s.members

/-- How deep the contents of a bracket are: several members are one deeper than the deepest of them,
and so are the two sets of an operation. -/
def OpenSet.depth (s : OpenSet) : Nat :=
  let depth := if s.count ≤ 1 then s.deepest else s.deepest + 1
  match s.begun with
  | none => depth
  | some (_, _, firstDepth) => max firstDepth depth + 1

def OpenSet.add (s : OpenSet) (members : CharSet) (depth : Nat := 0) : OpenSet :=
  { s with
    members := s.members.union members
    count := s.count + 1
    deepest := max s.deepest depth }

def OpenSet.begin (f : Flags) (s : OpenSet) (op : SetOp) : OpenSet :=
  { negated := s.negated, begun := some (s.value f, op, s.depth) }

def OpenSet.close (f : Flags) (s : OpenSet) : Except String CharSet :=
  let set := f.close (s.value f)
  if s.negated then f.complement set else .ok set

/-- Reads the start of a bracket after `[`: the sign of the complement, and hyphens or a closing
bracket that stand for themselves. -/
def openSet (f : Flags) (cs : List Char) : Except String (OpenSet × List Char) := do
  let cs := f.skip cs
  let (negated, cs) := match cs with
    | '^' :: rest => (true, f.skip rest)
    | _ => (false, cs)
  let (hyphens, cs) := hyphensOf (cs.length + 1) cs
  let s : OpenSet := { negated }
  let s := if hyphens = 0 then s else { s with members := .single '-', count := hyphens }
  match cs with
  | [] => .error "unclosed class"
  | ']' :: rest =>
    if hyphens ≠ 0 then .ok (s, cs)
    else
      let rest := f.skip rest
      if rest.isEmpty then .error "unclosed class" else .ok (s.add (.single ']'), rest)
  | _ => .ok (s, cs)
where
  hyphensOf : Nat → List Char → Nat × List Char
    | 0, cs => (0, cs)
    | fuel + 1, cs => match cs with
      | '-' :: rest =>
        let (count, rest) := hyphensOf fuel (f.skip rest)
        (count + 1, rest)
      | _ => (0, cs)

def bracketedName? (f : Flags) (cs : List Char) : Option (CharSet × Bool × List Char) := do
  let (':' :: cs) := cs | none
  let (negated, cs) := match cs with
    | '^' :: rest => (true, rest)
    | _ => (false, cs)
  let (name, rest) := cs.span (· ≠ ':')
  let (':' :: ']' :: rest) := rest | none
  let set ← bracketed? (String.ofList name)
  some (f.close set, negated, rest)

def readMember (f : Flags) (cs : List Char) : Except String (Atom × List Char) :=
  match cs with
  | [] => .error "unclosed class"
  | '\\' :: rest => readEscape f rest
  | c :: rest => .ok (.char c false, rest)

def Atom.endpoint (f : Flags) : Atom → Except String Char
  | .char c twoDigits => do
    f.checkByte c twoDigits
    if !f.unicode && 0x7F < c.toNat then .error "character not allowed here"
    .ok c
  | _ => .error "range of classes"

def Atom.members (f : Flags) (a : Atom) : Except String CharSet :=
  match a with
  | .char .. => return .single (← a.endpoint f)
  | .set s => .ok s
  | .position _ => .error "position inside a class"

def Flags.peek (f : Flags) (cs : List Char) : Option Char := (f.skip cs).head?

def readMembers (f : Flags) (cs : List Char) : Except String (CharSet × List Char) := do
  let (first, rest) ← readMember f cs
  let rest := f.skip rest
  match rest with
  | [] => .error "unclosed class"
  | '-' :: after =>
    if f.peek after = some ']' || f.peek after = some '-' then return (← first.members f, rest)
    else
      let (last, rest) ← readMember f (f.skip after)
      let low ← first.endpoint f
      let high ← last.endpoint f
      if high < low then .error "reversed range"
      else .ok (.range low.toNat high.toNat, rest)
  | _ => return (← first.members f, rest)

/-- Reads a set after its opening bracket; `outer` are the brackets around the innermost one. Gives
the set and its depth. The fuel is a bound on the characters. -/
def readSet (f : Flags) (s : OpenSet) (outer : List OpenSet) :
    Nat → List Char → Except String ((CharSet × Nat) × List Char)
  | 0, _ => .error "unclosed class"
  | fuel + 1, cs =>
    let cs := f.skip cs
    match cs with
    | [] => .error "unclosed class"
    | '[' :: rest =>
      match bracketedName? f rest with
      | some (set, negated, rest) => do
        let set ← if negated then f.complement set else pure set
        readSet f (s.add set) outer fuel rest
      | none => do
        let (inner, rest) ← openSet f rest
        readSet f inner (s :: outer) fuel rest
    | ']' :: rest => do
      let set ← s.close f
      match outer with
      | [] => .ok ((set, s.depth + 1), rest)
      | parent :: outer => readSet f (parent.add set (s.depth + 1)) outer fuel rest
    | '&' :: '&' :: rest => readSet f (s.begin f .inter) outer fuel rest
    | '-' :: '-' :: rest => readSet f (s.begin f .diff) outer fuel rest
    | '~' :: '~' :: rest => readSet f (s.begin f .symmDiff) outer fuel rest
    | _ => do
      let (members, rest) ← readMembers f cs
      readSet f (s.add members) outer fuel rest

/-! ## Groups and flags -/

/-- Reads flags up to the `:` or `)` after them: the flags changed, the sign that ends them, and
whether there were any. `seen` are the letters so far, and `negated` whether a minus was among
them. -/
def readFlags (f : Flags) (seen : List Char) (negated : Bool) :
    List Char → Except String ((Flags × Char × Bool) × List Char)
  | [] => .error "unclosed flags"
  | c :: rest =>
    if c = ':' ∨ c = ')' then
      if seen.head? = some '-' then .error "dangling negation"
      else .ok ((f, c, !seen.isEmpty), rest)
    else if seen.contains c then .error "repeated flag"
    else if c = '-' then readFlags f ('-' :: seen) true rest
    else do
      let f ← f.set c (!negated)
      readFlags f (c :: seen) negated rest

def isGroupNameChar (first : Bool) (c : Char) : Bool :=
  c == '_' || letters.contains c ||
    (!first && (c == '.' || c == '[' || c == ']' || lettersAndNumbers.contains c))

def readGroupName (names : List (List Char)) (cs : List Char) :
    Except String (List Char × List Char) :=
  let (name, rest) := cs.span (· ≠ '>')
  match rest with
  | [] => .error "unclosed group name"
  | _ :: rest =>
    match name with
    | [] => .error "empty group name"
    | c :: more =>
      if !isGroupNameChar true c || !more.all (isGroupNameChar false) then .error "bad group name"
      else if names.contains name then .error "repeated group name"
      else .ok (name, rest)

/-! ## Whole patterns -/

/-- A part of a pattern, with the number of groups, repetitions, sequences and choices that its
deepest part is inside of. -/
structure Part where
  expr : Expr
  depth : Nat := 0
  /-- Whether the part only changes flags, so that it cannot be repeated. -/
  isFlags : Bool := false

def Part.ofSeq (parts : List Part) : Part :=
  match parts with
  | [p] => p
  | _ =>
    let depth := (parts.map Part.depth).foldl max 0
    ⟨.ofList (parts.map Part.expr), if parts.isEmpty then 0 else depth + 1, false⟩

def Part.ofChoices (parts : List Part) : Part :=
  match parts with
  | [p] => p
  | _ => ⟨.ofChoices (parts.map Part.expr), (parts.map Part.depth).foldl max 0 + 1, false⟩

/-- A group that has been opened, or the whole pattern. -/
structure OpenGroup where
  outside : Flags := {}
  captures : Bool := false
  choices : List Part := []
  parts : List Part := []

def OpenGroup.add (g : OpenGroup) (p : Part) : OpenGroup := { g with parts := p :: g.parts }

def OpenGroup.nextChoice (g : OpenGroup) : OpenGroup :=
  { g with choices := .ofSeq g.parts.reverse :: g.choices, parts := [] }

def OpenGroup.body (g : OpenGroup) : Part :=
  .ofChoices (Part.ofSeq g.parts.reverse :: g.choices).reverse

def OpenGroup.repeatLast (g : OpenGroup) (f : Flags) (least : Nat) (most : Option Nat)
    (lazy : Bool) : Except String OpenGroup :=
  match g.parts with
  | [] => .error "nothing to repeat"
  | p :: parts =>
    if p.isFlags then .error "nothing to repeat"
    else
      let greedy := lazy == f.swapGreed
      .ok { g with parts := ⟨p.expr.times least most greedy, p.depth + 1, false⟩ :: parts }

def Flags.literal (f : Flags) (c : Char) : Expr := .ofSet (f.close (.single c))

def Flags.dot (f : Flags) : Except String Expr :=
  if !f.unicode then .error "pattern can match invalid text"
  else if f.dotAll then .ok (.ofSet .all)
  else if f.returns then .ok (.ofSet (CharSet.union (.single '\n') (.single '\r')).compl)
  else .ok (.ofSet (CharSet.single '\n').compl)

def Flags.start (f : Flags) : Position :=
  if !f.multiLine then .textStart else if f.returns then .returnLineStart else .lineStart

def Flags.stop (f : Flags) : Position :=
  if !f.multiLine then .textEnd else if f.returns then .returnLineEnd else .lineEnd

/-- Reads a repetition in braces after `{`: how often at least and at most, and whether few times
are preferred. -/
def readCounts (f : Flags) (cs : List Char) :
    Except String ((Nat × Option Nat × Bool) × List Char) := do
  let (least, rest) ← readCount f (f.skip cs)
  let (most, rest) ← match rest with
    | ',' :: rest => match f.skip rest with
      | '\x7d' :: rest => pure (none, '\x7d' :: rest)
      | rest => do
        let (most, rest) ← readCount f rest
        pure (some most, rest)
    | _ => pure (some least, rest)
  let ('\x7d' :: rest) := rest | .error "unclosed repetition"
  let (lazy, rest) := match f.skip rest with
    | '?' :: rest => (true, rest)
    | rest => (false, rest)
  if most.any (· < least) then .error "reversed repetition"
  else .ok ((least, most, lazy), rest)

/-- Reads whether a repetition prefers few times. -/
def readLazy (cs : List Char) : Bool × List Char :=
  match cs with
  | '?' :: rest => (true, rest)
  | _ => (false, cs)

inductive GroupStart where
  | capture (name : Option (List Char))
  | plain (flags : Flags)
  | flags (flags : Flags)

def readGroupStart (f : Flags) (names : List (List Char)) (cs : List Char) :
    Except String (GroupStart × List Char) := do
  let cs := f.skip cs
  match cs with
  | '?' :: '=' :: _ | '?' :: '!' :: _ | '?' :: '<' :: '=' :: _ | '?' :: '<' :: '!' :: _ =>
    .error "look-around is not supported"
  | '?' :: 'P' :: '<' :: rest | '?' :: '<' :: rest =>
    let (name, rest) ← readGroupName names rest
    .ok (.capture (some name), rest)
  | '?' :: rest =>
    let ((flags, sign, any), rest) ← readFlags f [] false rest
    if sign = ':' then .ok (.plain flags, rest)
    else if any then .ok (.flags flags, rest)
    else .error "nothing to repeat"
  | _ => .ok (.capture none, cs)

def depthLimit : Nat := 250

/-- Reads a pattern: `group` is the innermost group, `outer` are those around it, and `names` are
taken. The fuel is a bound on the characters. -/
def readParts (f : Flags) (names : List (List Char)) (group : OpenGroup) (outer : List OpenGroup) :
    Nat → List Char → Except String Part
  | 0, _ => .error "unclosed group"
  | fuel + 1, cs =>
    let cs := f.skip cs
    match cs with
    | [] => if outer.isEmpty then .ok group.body else .error "unclosed group"
    | '(' :: rest => do
      let (start, rest) ← readGroupStart f names rest
      match start with
      | .capture name =>
        readParts f (name.toList ++ names) { outside := f, captures := true } (group :: outer) fuel
          rest
      | .plain flags => readParts flags names { outside := f } (group :: outer) fuel rest
      | .flags flags => readParts flags names (group.add ⟨.empty, 0, true⟩) outer fuel rest
    | ')' :: rest =>
      match outer with
      | [] => .error "group was not opened"
      | parent :: outer =>
        let body := group.body
        let expr := if group.captures then .group body.expr else body.expr
        readParts group.outside names (parent.add ⟨expr, body.depth + 1, false⟩) outer fuel rest
    | '|' :: rest => readParts f names group.nextChoice outer fuel rest
    | '[' :: rest => do
      let (s, rest) ← openSet f rest
      let ((set, depth), rest) ← readSet f s [] (rest.length + 1) rest
      readParts f names (group.add ⟨.ofSet set, depth, false⟩) outer fuel rest
    | '?' :: rest => do
      let (lazy, rest) := readLazy rest
      readParts f names (← group.repeatLast f 0 (some 1) lazy) outer fuel rest
    | '*' :: rest => do
      let (lazy, rest) := readLazy rest
      readParts f names (← group.repeatLast f 0 none lazy) outer fuel rest
    | '+' :: rest => do
      let (lazy, rest) := readLazy rest
      readParts f names (← group.repeatLast f 1 none lazy) outer fuel rest
    | '\x7b' :: rest => do
      let ((least, most, lazy), rest) ← readCounts f rest
      readParts f names (← group.repeatLast f least most lazy) outer fuel rest
    | '\\' :: rest => do
      let (atom, rest) ← readEscape f rest
      let expr ← match atom with
        | .char c twoDigits => do
          f.checkByte c twoDigits
          pure (f.literal c)
        | .set s => pure (.ofSet s)
        | .position p => pure (.position p)
      readParts f names (group.add ⟨expr, 0, false⟩) outer fuel rest
    | '.' :: rest => do
      readParts f names (group.add ⟨← f.dot, 0, false⟩) outer fuel rest
    | '^' :: rest => readParts f names (group.add ⟨.position f.start, 0, false⟩) outer fuel rest
    | '$' :: rest => readParts f names (group.add ⟨.position f.stop, 0, false⟩) outer fuel rest
    | c :: rest => readParts f names (group.add ⟨f.literal c, 0, false⟩) outer fuel rest

/-- The expression that a notation stands for. -/
def parse (text : List Char) : Except String Expr := do
  let part ← readParts {} [] {} [] (text.length + 1) text
  if depthLimit < part.depth then .error "nested too deeply" else .ok part.expr

/-- The expression that a notation stands for, if a search for it does not take too much memory. -/
def read (text : List Char) : Except String Expr := do
  let e ← parse text
  if e.fits then .ok e else .error "too large"

end SerialConsole.Pattern
