import SerialConsole.Text.CharSet

/-!
# Pattern expressions

What a pattern means, apart from how it is written: texts, characters from sets, positions,
sequences, ordered choices and repetitions. `ofSet`, `ofList`, `ofChoices` and `times` build
expressions in a simple form: no sequence directly inside a sequence and no choice inside a choice,
texts as long as possible, and no choice where a set or a shorter choice does.
-/

namespace SerialConsole.Pattern

open Text (CharSet)

/-- Which characters make up words. -/
inductive WordKind where
  | unicode
  | ascii
  deriving DecidableEq, Repr

/-- A condition on the place between two characters. -/
inductive Position where
  | textStart
  | textEnd
  | lineStart
  | lineEnd
  | returnLineStart
  | returnLineEnd
  | wordEdge (kind : WordKind)
  | noWordEdge (kind : WordKind)
  | wordStart (kind : WordKind)
  | wordEnd (kind : WordKind)
  | noWordBefore (kind : WordKind)
  | noWordAfter (kind : WordKind)
  deriving DecidableEq, Repr

def Position.asksForWords : Position → Bool
  | .wordEdge kind | .noWordEdge kind | .wordStart kind | .wordEnd kind | .noWordBefore kind
  | .noWordAfter kind => kind == .unicode
  | _ => false

/-- A pattern expression. Where several texts match, earlier choices are preferred. -/
inductive Expr where
  | empty
  | text (chars : List Char)
  | one (set : CharSet)
  | position (place : Position)
  | seq (parts : List Expr)
  | choice (options : List Expr)
  | repeated (body : Expr) (least : Nat) (most : Option Nat) (greedy : Bool)
  | group (body : Expr)
  deriving Inhabited

namespace Expr

/-! ## What an expression can match -/

mutual

def onlyEmpty : Expr → Bool
  | .empty | .position _ => true
  | .text _ | .one _ => false
  | .seq parts => allOnlyEmpty parts
  | .choice options => allOnlyEmpty options
  | .repeated body _ _ _ => body.onlyEmpty
  | .group body => body.onlyEmpty

def allOnlyEmpty : List Expr → Bool
  | [] => true
  | e :: rest => e.onlyEmpty && allOnlyEmpty rest

end

mutual

def nullable : Expr → Bool
  | .empty | .position _ => true
  | .text _ | .one _ => false
  | .seq parts => allNullable parts
  | .choice options => anyNullable options
  | .repeated body least _ _ => least == 0 || body.nullable
  | .group body => body.nullable

def allNullable : List Expr → Bool
  | [] => true
  | e :: rest => e.nullable && allNullable rest

def anyNullable : List Expr → Bool
  | [] => false
  | e :: rest => e.nullable || anyNullable rest

end

/-! ## Expressions that are the same -/

mutual

/-- Whether two expressions are the same. Groups never are, as each is remembered on its own. -/
def same : Expr → Expr → Bool
  | .empty, .empty => true
  | .text a, .text b => a == b
  | .one a, .one b => a == b
  | .position a, .position b => a == b
  | .seq a, .seq b => allSame a b
  | .choice a, .choice b => allSame a b
  | .repeated a least most greedy, .repeated b least' most' greedy' =>
    least == least' && most == most' && greedy == greedy' && same a b
  | _, _ => false

def allSame : List Expr → List Expr → Bool
  | [], [] => true
  | a :: as, b :: bs => same a b && allSame as bs
  | _, _ => false

end

def sharedCount : List Expr → List Expr → Nat
  | a :: as, b :: bs => if same a b then sharedCount as bs + 1 else 0
  | _, _ => 0

/-! ## Building expressions -/

def ofSet (set : CharSet) : Expr :=
  let set := set.scalars
  match set.ranges with
  | [(low, high)] => if low = high then .text [Char.ofNat low] else .one set
  | _ => .one set

def parts : Expr → List Expr
  | .empty => []
  | .seq parts => parts
  | e => [e]

def addBefore (first : Expr) (rest : List Expr) : List Expr :=
  match first, rest with
  | .text a, .text b :: rest => .text (a ++ b) :: rest
  | _, _ => first :: rest

def ofList (es : List Expr) : Expr :=
  match (es.flatMap parts).foldr addBefore [] with
  | [] => .empty
  | [e] => e
  | es => .seq es

def options : Expr → List Expr
  | .choice options => options
  | e => [e]

def single? : Expr → Option (Nat × Nat)
  | .text [c] => some (c.toNat, c.toNat)
  | _ => none

def set? : Expr → Option CharSet
  | .one set => some set
  | _ => none

def seq? : Expr → Option (List Expr)
  | .seq parts => some parts
  | _ => none

/-- A choice between several expressions, the first ones preferred. Single characters make up a
set, and so do sets. -/
def ofOptions (es : List Expr) : Expr :=
  match es.flatMap options with
  | [] => .one .empty
  | [e] => e
  | es =>
    match es.mapM single? with
    | some ranges => ofSet (.ofRanges ranges)
    | none => match es.mapM set? with
      | some sets => ofSet (.unions sets)
      | none => .choice es

/-- A choice between several expressions. What all of them begin with comes before the choice. -/
def ofChoices (es : List Expr) : Expr :=
  match ofOptions es with
  | .choice es => match es.mapM seq? with
    | some (first :: others) =>
      let count := others.foldl (fun n other => min n (sharedCount first other)) first.length
      if count = 0 then .choice es
      else
        let rests := (first :: others).map fun parts => ofList (parts.drop count)
        ofList (first.take count ++ [ofOptions rests])
    | _ => .choice es
  | e => e

/-- The repetition of an expression. What matches only the empty text need not be repeated, and no
repetition at all is the empty text. -/
def times (body : Expr) (least : Nat) (most : Option Nat) (greedy : Bool) : Expr :=
  let (least, most) :=
    if body.onlyEmpty then (min least 1, some (min (most.getD 1) 1)) else (least, most)
  if most = some 0 then .empty
  else if least = 1 ∧ most = some 1 then body
  else .repeated body least most greedy

/-! ## Positions -/

mutual

def usesPosition (condition : Position → Bool) : Expr → Bool
  | .empty | .text _ | .one _ => false
  | .position place => condition place
  | .seq parts => anyUsesPosition condition parts
  | .choice options => anyUsesPosition condition options
  | .repeated body _ _ _ => body.usesPosition condition
  | .group body => body.usesPosition condition

/-- Whether a search for one of several expressions uses a position that satisfies a condition. -/
def anyUsesPosition (condition : Position → Bool) : List Expr → Bool
  | [] => false
  | e :: rest => e.usesPosition condition || anyUsesPosition condition rest

end

end Expr

end SerialConsole.Pattern
