import SerialConsole.Pattern.Reader

/-!
# Log filters

Which messages are logged is told by directives, separated by commas: a level, a target, a target
with a level, and perhaps a span with fields in brackets. Of the directives whose target begins that
of a message, the most demanding one decides. `Filter.choose` prefers the directives of the
environment to those of the settings.
-/

namespace SerialConsole.Logging

open Text

/-- The levels of messages, the most important first. -/
inductive Level where
  | error
  | warn
  | info
  | debug
  | trace
  deriving DecidableEq, Repr

namespace Level

def all : List Level := [.error, .warn, .info, .debug, .trace]

def name : Level → String
  | .error => "error"
  | .warn => "warn"
  | .info => "info"
  | .debug => "debug"
  | .trace => "trace"

def rank : Level → Nat
  | .error => 1
  | .warn => 2
  | .info => 3
  | .debug => 4
  | .trace => 5

end Level

abbrev Threshold := Nat

def everything : Threshold := 5

def number? (text : List Char) : Option Nat :=
  let digits := match text with
    | '+' :: rest => rest
    | _ => text
  if !digits.isEmpty && digits.all isAsciiDigit then some (decimalValue digits) else none

/-- The threshold with a name, in any case, or a number. The empty name is the one for errors. -/
def threshold? (text : List Char) : Option Threshold :=
  match number? text with
  | some n => if n ≤ everything then some n else none
  | none => match String.ofList (text.map Char.toLower) with
    | "" | "error" => some 1
    | "warn" => some 2
    | "info" => some 3
    | "debug" => some 4
    | "trace" => some 5
    | "off" => some 0
    | _ => none

structure Directive where
  /-- How the targets begin that it is about; none for all targets. -/
  target : Option (List Char) := none
  inSpan : Bool := false
  fields : List (List Char) := []
  threshold : Threshold := everything
  deriving DecidableEq, Repr

/-- What has been read of a directive. -/
inductive Stage where
  | start
  | levelOrTarget
  | span (start : Nat)
  | field (start : Nat)
  | fields
  /-- All but the level. -/
  | target
  | level (start : Nat)
  deriving DecidableEq, Repr

def beginsDirective (c : Char) : Bool :=
  c == '-' || c == ':' || c == '_' || lettersAndNumbers.contains c

/-- The characters of a text that begin between two places, which are counted in octets. -/
def slice (start stop : Nat) : List Char → List Char
  | [] => []
  | c :: rest =>
    let more := slice (start - c.utf8Size) (stop - c.utf8Size) rest
    if start = 0 ∧ 0 < stop then c :: more else more

/-! ## Fields -/

/-- Whether a text writes a number with digits, perhaps with a point among them and an exponent
after them. -/
def isDecimal (text : List Char) : Bool :=
  let (whole, rest) := text.span isAsciiDigit
  let (fraction, rest) := match rest with
    | '.' :: rest => rest.span isAsciiDigit
    | _ => ([], rest)
  !(whole ++ fraction).isEmpty && match rest with
    | [] => true
    | mark :: rest =>
      let digits := match rest with
        | '+' :: digits | '-' :: digits => digits
        | _ => rest
      (mark == 'e' || mark == 'E') && !digits.isEmpty && digits.all isAsciiDigit

/-- Whether a text writes a number, or names one that is not finite; a sign may stand in front. -/
def isNumeric (text : List Char) : Bool :=
  let text := match text with
    | '+' :: rest | '-' :: rest => rest
    | _ => text
  isDecimal text || ["inf", "infinity", "nan"].contains (String.ofList (text.map Char.toLower))

/-- Whether a text may be the value of a field: a number, or a pattern for values, which must not
ask for words of all scripts. -/
def isFieldValue (text : List Char) : Bool :=
  isNumeric text || match Pattern.parse text with
    | .ok e => !e.usesPosition Pattern.Position.asksForWords
    | .error _ => false

/-- Adds a field, a name and perhaps a value after it, to a directive. A field with a value is only
looked for in spans. -/
def Directive.addField (d : Directive) (field : List Char) : Option Directive :=
  let (name, rest) := field.span (· ≠ '=')
  if field.isEmpty then none
  else match rest with
    | [] => some { d with fields := d.fields ++ [name] }
    | _ :: rest =>
      if isFieldValue (rest.takeWhile (· ≠ '=')) then
        some { d with inSpan := true, fields := d.fields ++ [name] }
      else none

/-! ## Directives -/

/-- Reads a character of a directive. The places that it remembers are taken in `whole`, the
directive with the blanks around it, as they were counted in octets without the blanks in front. -/
def readChar (whole : List Char) (place : Nat) (c : Char) (stage : Stage) (d : Directive) :
    Option (Stage × Directive) :=
  match stage with
  | .start =>
    if c = '[' then some (.span (place + 1), d)
    else if beginsDirective c then some (.levelOrTarget, d)
    else none
  | .levelOrTarget =>
    if c = '=' then some (.level (place + 1), { d with target := some (slice 0 place whole) })
    else if c = '[' then some (.span (place + 1), { d with target := some (slice 0 place whole) })
    else some (stage, d)
  | .span start =>
    if c = ']' then some (.target, { d with inSpan := true })
    else if c = '\x7b' then
      some (.field (place + 1), { d with inSpan := !(slice start place whole).isEmpty })
    else some (stage, d)
  | .field start =>
    if c = '\x7d' then (d.addField (slice start place whole)).map fun d => (.fields, d)
    else some (stage, d)
  | .fields => if c = ']' then some (.target, d) else none
  | .target => if c = '=' then some (.level (place + 1), d) else none
  | .level _ => some (stage, d)

def readChars (whole : List Char) (place : Nat) (stage : Stage) (d : Directive) :
    List Char → Option Directive
  | [] => match stage with
    | .levelOrTarget => match threshold? whole with
      | some threshold => some { d with threshold }
      | none => some { d with target := some whole }
    | .level start => match slice start (encode whole).length whole with
      | [] => some d
      | name => (threshold? name).map fun threshold => { d with threshold }
    | .target => some d
    | _ => none
  | c :: rest => match readChar whole place c stage d with
    | some (stage, d) => readChars whole (place + c.utf8Size) stage d rest
    | none => none

def Directive.ofText? (text : List Char) : Option Directive :=
  readChars text 0 .start {} (trim text)

def splitCommas (text : List Char) : List (List Char) :=
  let (last, parts) := text.foldr
    (fun c (part, parts) => if c = ',' then ([], part :: parts) else (c :: part, parts)) ([], [])
  last :: parts

def Directive.isStatic (d : Directive) : Bool := !d.inSpan

def Directive.concerns (d : Directive) (target : List Char) : Bool :=
  d.target.all (·.isPrefixOf target)

/-- Compares how much two directives demand: the length of the target, if there is one, then the
number of fields. Where those are equal the texts decide. -/
def Directive.compare (a b : Directive) : Ordering :=
  let targetLength (d : Directive) := (d.target.map fun t => (encode t).length + 1).getD 0
  (Ord.compare (targetLength a) (targetLength b)).then <|
    (Ord.compare a.fields.length b.fields.length).then <|
      (Ord.compare (a.target.getD []) (b.target.getD [])).then <|
        Ord.compare a.fields b.fields

structure Filter where
  directives : List Directive
  deriving DecidableEq, Repr

namespace Filter

def parts (text : String) : List (List Char) :=
  (splitCommas text.toList).filter fun part => !part.isEmpty

def strict? (text : String) : Option Filter := ((parts text).mapM Directive.ofText?).map Filter.mk

/-- The filter that the well-formed directives of a text write. Without any, errors are logged. -/
def lenient (text : String) : Filter :=
  match (parts text).filterMap Directive.ofText? with
  | [] => ⟨[{ threshold := Level.error.rank }]⟩
  | directives => ⟨directives⟩

/-- The filter that is used: the one of the environment if it is set and well-formed, and else the
one of the settings. -/
def choose (environment : Option String) (level : String) : Filter :=
  (environment.bind strict?).getD (lenient level)

/-- The directive that decides about a target: the most demanding one, and of several the last. -/
def deciding? (f : Filter) (target : String) : Option Directive :=
  (f.directives.filter fun d => d.isStatic && d.concerns target.toList).foldl
    (fun best d => match best with
      | some b => if (d.compare b).isGE then some d else best
      | none => some d) none

def enables (f : Filter) (target : String) (level : Level) : Bool :=
  (f.deciding? target).any fun d => level.rank ≤ d.threshold

end Filter

end SerialConsole.Logging
