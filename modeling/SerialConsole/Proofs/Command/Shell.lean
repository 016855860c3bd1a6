import SerialConsole.Command.Line
import SerialConsole.Proofs.Mark

/-!
# Command lines as the shell reads them

`tokens` splits a line the way a shell does before it does anything else: into words and operators,
where quotes take the meaning from characters. What the shell makes of a character that keeps its
meaning is not told. A quoted text is read as one word, in which every character of the text stands
for itself (`readWord_quote`). So whatever path a transfer is given, its command consists of the
same words and operators, but for the one word that is the path (`tokens_of_path`).
-/

namespace SerialConsole.Shell

open Command (quote quoteChar printMark)

/-! ## Words -/

/-- A character of a word. -/
inductive Piece where
  /-- It was quoted, and stands for itself. -/
  | literal (c : Char)
  /-- It was not, and has whatever meaning it has to the shell. -/
  | live (c : Char)
  deriving DecidableEq, Repr

abbrev Word := List Piece

/-- What the characters before a place have left open. -/
inductive Quoting where
  | plain
  | escaped
  | single
  | double
  | doubleEscaped
  deriving DecidableEq, Repr

def isBlank (c : Char) : Bool := c == ' ' || c == '\t'

def startsOperator (c : Char) : Bool := ['\n', '&', '|', ';', '<', '>', '(', ')'].contains c

def endsWord (c : Char) : Bool := isBlank c || startsOperator c

def staysSpecial (c : Char) : Bool := ['$', '`', '"', '\\'].contains c

/-- What a character of a word opens or closes, and what it adds to the word; nothing if the word
ends before it. -/
def step : Quoting → Char → Option (Quoting × Word)
  | .plain, c =>
    if endsWord c then none
    else if c = '\'' then some (.single, [])
    else if c = '"' then some (.double, [])
    else if c = '\\' then some (.escaped, [])
    else some (.plain, [.live c])
  -- a line that ends with a backslash goes on in the next one
  | .escaped, c => some (.plain, if c = '\n' then [] else [.literal c])
  | .single, c => if c = '\'' then some (.plain, []) else some (.single, [.literal c])
  | .double, c =>
    if c = '"' then some (.plain, [])
    else if c = '\\' then some (.doubleEscaped, [])
    else some (.double, [if staysSpecial c then .live c else .literal c])
  | .doubleEscaped, c =>
    some (.double,
      if c = '\n' then []
      else if staysSpecial c then [.literal c]
      else [.literal '\\', .literal c])

/-- Reads the rest of a word, up to what ends it, if all that is opened in it is closed. -/
def readWord : Quoting → List Char → Option (Word × List Char)
  | q, [] => if q = .plain then some ([], []) else none
  | q, c :: rest => match step q c with
    | none => some ([], c :: rest)
    | some (q, pieces) => (readWord q rest).map fun (word, rest) => (pieces ++ word, rest)

theorem readWord_of_step {q q' : Quoting} {c : Char} {pieces : Word} {rest : List Char}
    (h : step q c = some (q', pieces)) :
    readWord q (c :: rest) = (readWord q' rest).map fun (word, rest) => (pieces ++ word, rest) := by
  rw [readWord, h]

theorem length_readWord_le {q : Quoting} {text : List Char} {word : Word} {rest : List Char}
    (h : readWord q text = some (word, rest)) : rest.length ≤ text.length := by
  induction text generalizing q word with
  | nil =>
    rw [readWord] at h
    split at h
    · cases h
      exact Nat.le_refl _
    · cases h
  | cons c text ih =>
    rw [readWord] at h
    split at h
    · cases h
      exact Nat.le_refl _
    · obtain ⟨⟨word', rest'⟩, inner, same⟩ := Option.map_eq_some_iff.mp h
      cases same
      exact Nat.le_succ_of_le (ih inner)

theorem step_plain_eq_none {c : Char} : step .plain c = none ↔ endsWord c = true := by
  simp only [step]
  split_ifs with ends <;> simp [ends]

/-- A word that begins with a character which ends none takes that at least. -/
theorem length_readWord_lt {c : Char} {text : List Char} {word : Word} {rest : List Char}
    (inside : endsWord c = false) (h : readWord .plain (c :: text) = some (word, rest)) :
    rest.length < (c :: text).length := by
  have going : step .plain c ≠ none := by rw [ne_eq, step_plain_eq_none, inside]; decide
  obtain ⟨⟨q, pieces⟩, taken⟩ := Option.ne_none_iff_exists'.mp going
  rw [readWord_of_step taken] at h
  obtain ⟨⟨word', rest'⟩, inner, same⟩ := Option.map_eq_some_iff.mp h
  cases same
  exact Nat.lt_succ_of_le (length_readWord_le inner)

/-! ## Lines -/

/-- A part of a line. -/
inductive Token where
  | word (word : Word)
  | operator (text : List Char)
  deriving DecidableEq, Repr

def operators : List (List Char) :=
  [['<', '<', '-'], ['&', '&'], ['|', '|'], [';', ';'], ['<', '<'], ['>', '>'], ['<', '&'],
    ['>', '&'], ['<', '>'], ['>', '|'], ['&'], ['|'], [';'], ['<'], ['>'], ['('], [')'], ['\n']]

def firstOperator (text : List Char) : List Char :=
  (operators.find? (·.isPrefixOf text)).getD (text.take 1)

/-- The words and operators of a line, if all that is opened in it is closed. -/
def tokens : List Char → Option (List Token)
  | [] => some []
  | c :: rest =>
    if isBlank c then tokens rest
    else if startsOperator c then
      let operator := firstOperator (c :: rest)
      (tokens (rest.drop (operator.length - 1))).map (.operator operator :: ·)
    else match _h : readWord .plain (c :: rest) with
      | none => none
      | some (word, rest) => (tokens rest).map (.word word :: ·)
termination_by text => text.length
decreasing_by
  · simp
  · simp only [List.length_drop, List.length_cons]
    omega
  · next noBlank noOperator =>
    exact length_readWord_lt (by simp [endsWord, noBlank, noOperator]) ‹_›

/-- Quotes may begin and end within a word. -/
example : tokens "a'b c'\\ \"$d\">>e".toList =
    some [.word [.live 'a', .literal 'b', .literal ' ', .literal 'c', .literal ' ', .live '$',
      .literal 'd'], .operator ['>', '>'], .word [.live 'e']] := by
  decide +kernel

theorem tokens_blank {c : Char} {rest : List Char} (blank : isBlank c = true) :
    tokens (c :: rest) = tokens rest := by
  rw [tokens, if_pos blank]

theorem tokens_operator {c : Char} {rest operator : List Char} (solid : isBlank c = false)
    (begins : startsOperator c = true) (longest : firstOperator (c :: rest) = operator) :
    tokens (c :: rest) =
      (tokens (rest.drop (operator.length - 1))).map (.operator operator :: ·) := by
  rw [tokens, if_neg (by simp [solid]), if_pos begins, longest]

theorem tokens_word {c : Char} {text rest : List Char} {word : Word}
    (inside : endsWord c = false) (read : readWord .plain (c :: text) = some (word, rest)) :
    tokens (c :: text) = (tokens rest).map (.word word :: ·) := by
  obtain ⟨solid, word⟩ : isBlank c = false ∧ startsOperator c = false := by
    simpa [endsWord] using inside
  rw [tokens, if_neg (by simp [solid]), if_neg (by simp [word])]
  split
  · next failed =>
    rw [read] at failed
    cases failed
  · next found =>
    rw [read] at found
    cases found
    rfl

/-! ## Words of one kind -/

/-- Nothing follows, or a character that ends a word. -/
def Ends (rest : List Char) : Prop := ∀ c ∈ rest.head?, endsWord c = true

theorem readWord_ended {rest : List Char} (ends : Ends rest) :
    readWord .plain rest = some ([], rest) := by
  cases rest with
  | nil => rfl
  | cons c rest => rw [readWord, step_plain_eq_none.mpr (ends c rfl)]

/-- Whether a character of a word is not quoted and quotes nothing. -/
def isBare (c : Char) : Bool := !endsWord c && !(['\'', '"', '\\'].contains c)

theorem step_bare {c : Char} (bare : isBare c = true) :
    step .plain c = some (.plain, [.live c]) := by
  simp [isBare] at bare
  simp [step, bare]

theorem readWord_bare {text rest : List Char} (bare : ∀ c ∈ text, isBare c = true)
    (ends : Ends rest) : readWord .plain (text ++ rest) = some (text.map .live, rest) := by
  induction text with
  | nil => exact readWord_ended ends
  | cons c text ih =>
    have first := step_bare (bare c List.mem_cons_self)
    have others := ih fun d hd => bare d (List.mem_cons_of_mem c hd)
    rw [List.cons_append, readWord_of_step first, others]
    rfl

/-- A quoted text is read as a word in which every character stands for itself. -/
theorem readWord_quote {rest : List Char} (text : List Char) (ends : Ends rest) :
    readWord .plain (quote text ++ rest) = some (text.map .literal, rest) := by
  -- what comes behind the quote that opens the word
  have inside : readWord .single (text.flatMap quoteChar ++ '\'' :: rest) =
      some (text.map .literal, rest) := by
    induction text with
    | nil =>
      have closes : step .single '\'' = some (.plain, []) := rfl
      rw [List.flatMap_nil, List.nil_append, readWord_of_step closes, readWord_ended ends]
      rfl
    | cons c text ih =>
      rw [List.flatMap_cons, List.append_assoc]
      by_cases same : c = '\''
      · -- the quote is closed, a quote that is escaped follows, and it is opened again
        have closes : step .single '\'' = some (.plain, []) := rfl
        have escapes : step .plain '\\' = some (.escaped, []) := by decide
        have stands : step .escaped '\'' = some (.plain, [.literal '\'']) := rfl
        have opens : step .plain '\'' = some (.single, []) := by decide
        have written : quoteChar c = ['\'', '\\', '\'', '\''] := if_pos same
        rw [written, List.cons_append, readWord_of_step closes, List.cons_append,
          readWord_of_step escapes, List.cons_append, readWord_of_step stands, List.cons_append,
          readWord_of_step opens, List.nil_append, ih, same]
        rfl
      · have stands : step .single c = some (.single, [.literal c]) := if_neg same
        have written : quoteChar c = [c] := if_neg same
        rw [written, List.cons_append, readWord_of_step stands, List.nil_append, ih]
        rfl
  have opens : step .plain '\'' = some (.single, []) := by decide
  have whole : quote text ++ rest = '\'' :: (text.flatMap quoteChar ++ '\'' :: rest) := by
    simp [quote]
  rw [whole, readWord_of_step opens, inside]
  rfl

def isQuiet (c : Char) : Bool := !staysSpecial c

theorem step_quiet {c : Char} (quiet : isQuiet c = true) :
    step .double c = some (.double, [.literal c]) := by
  simp [isQuiet, staysSpecial] at quiet
  simp [step, staysSpecial, quiet]

theorem readWord_quiet {text : List Char} (quiet : ∀ c ∈ text, isQuiet c = true)
    (rest : List Char) : readWord .double (text ++ rest) =
      (readWord .double rest).map fun (word, rest) => (text.map .literal ++ word, rest) := by
  induction text with
  | nil => simp
  | cons c text ih =>
    have first := step_quiet (quiet c List.mem_cons_self)
    have others := ih fun d hd => quiet d (List.mem_cons_of_mem c hd)
    rw [List.cons_append, readWord_of_step first, others, Option.map_map]
    rfl

/-! ## Commands of transfers -/

section Commands

variable {m : Mark} {path rest : List Char}

theorem quiet_of_mem_mark {c : Char} (h : c ∈ m.text) : isQuiet c = true := by
  have digits : ∀ d < 16, isQuiet (Nat.digitChar d) = true := by decide
  rcases Mark.mem_text h with rfl | ⟨d, hd, rfl⟩
  · rfl
  · exact digits d hd

/-- A word that is not quoted. -/
def bare (text : String) : Token := .word (text.toList.map .live)

/-- A word that is quoted as a whole. -/
def quoted (text : List Char) : Token := .word (text.map .literal)

theorem readWord_mark (m : Mark) (ends : Ends rest) :
    readWord .plain ('"' :: (m.text ++ '\\' :: 'n' :: '"' :: rest)) =
      some ((m.text ++ "\\n".toList).map .literal, rest) := by
  have opens : step .plain '"' = some (.double, []) := by decide
  have escapes : step .double '\\' = some (.doubleEscaped, []) := by decide
  have stands : step .doubleEscaped 'n' = some (.double, [.literal '\\', .literal 'n']) := by decide
  have closes : step .double '"' = some (.plain, []) := by decide
  rw [readWord_of_step opens, readWord_quiet (fun _ => quiet_of_mem_mark), readWord_of_step escapes,
    readWord_of_step stands, readWord_of_step closes, readWord_ended ends]
  simp

theorem tokens_bare {text : List Char} (solid : text ≠ []) (plain : text.all isBare = true)
    (ends : Ends rest) :
    tokens (text ++ rest) = (tokens rest).map (.word (text.map .live) :: ·) := by
  rw [List.all_eq_true] at plain
  cases text with
  | nil => exact absurd rfl solid
  | cons c text =>
    have first : endsWord c = false := by
      have here := plain c List.mem_cons_self
      simp only [isBare, Bool.and_eq_true, Bool.not_eq_true'] at here
      exact here.1
    exact tokens_word first (readWord_bare plain ends)

theorem ends_cons {c : Char} (h : endsWord c = true) (text : List Char) : Ends (c :: text) := by
  simpa [Ends] using h

theorem tokens_and (text : List Char) :
    tokens ('&' :: '&' :: text) = (tokens text).map (.operator ['&', '&'] :: ·) := by
  have longest : firstOperator ('&' :: '&' :: text) = ['&', '&'] := by
    simp [firstOperator, operators]
  exact tokens_operator (by decide) (by decide) longest

theorem tokens_into (text : List Char) :
    tokens ('>' :: ' ' :: text) = (tokens (' ' :: text)).map (.operator ['>'] :: ·) := by
  have longest : firstOperator ('>' :: ' ' :: text) = ['>'] := by
    simp [firstOperator, operators]
  exact tokens_operator (by decide) (by decide) longest

theorem tokens_printMark (m : Mark) (ends : Ends rest) :
    tokens (printMark m ++ rest) = (tokens rest).map
      ([.operator ['&', '&'], bare "printf", quoted (m.text ++ "\\n".toList)] ++ ·) := by
  have written : printMark m ++ rest = ' ' :: '&' :: '&' :: ' ' ::
      ("printf".toList ++ ' ' :: '"' :: (m.text ++ '\\' :: 'n' :: '"' :: rest)) := by
    unfold printMark
    simp only [List.append_assoc]
    rfl
  have space : isBlank ' ' = true := by decide
  rw [written, tokens_blank space, tokens_and, tokens_blank space,
    tokens_bare (by decide) (by decide) (ends_cons (by decide) _), tokens_blank space,
    tokens_word (by decide) (readWord_mark m ends), Option.map_map, Option.map_map]
  rfl

theorem tokens_quote (path : List Char) (ends : Ends rest) :
    tokens (quote path ++ rest) = (tokens rest).map (quoted path :: ·) :=
  tokens_word (by decide) (readWord_quote path ends)

/-- A word that is not quoted, the path, and what comes behind it. -/
theorem tokens_argument (path : List Char) (m : Mark) (ends : Ends rest) :
    tokens (' ' :: (quote path ++ (printMark m ++ rest))) = (tokens rest).map
      ([quoted path, .operator ['&', '&'], bare "printf", quoted (m.text ++ "\\n".toList)] ++ ·)
      := by
  have behind : Ends (printMark m ++ rest) := ends_cons (by decide) _
  rw [tokens_blank (by decide), tokens_quote path behind, tokens_printMark m ends, Option.map_map]
  rfl

theorem tokens_receive (path : List Char) (m : Mark) (ends : Ends rest) :
    tokens (Command.receive path m ++ rest) = (tokens rest).map
      ([bare "base64", bare "-d", .operator ['>'], quoted path, .operator ['&', '&'],
        bare "printf", quoted (m.text ++ "\\n".toList)] ++ ·) := by
  have written : Command.receive path m ++ rest = "base64".toList ++ ' ' ::
      ("-d".toList ++ ' ' :: '>' :: ' ' :: (quote path ++ (printMark m ++ rest))) := by
    unfold Command.receive
    simp only [List.append_assoc]
    rfl
  have space : isBlank ' ' = true := by decide
  rw [written, tokens_bare (by decide) (by decide) (ends_cons (by decide) _), tokens_blank space,
    tokens_bare (by decide) (by decide) (ends_cons (by decide) _), tokens_blank space,
    tokens_into, tokens_argument path m ends]
  simp only [Option.map_map]
  rfl

theorem tokens_print (path : List Char) (m : Mark) (ends : Ends rest) :
    tokens (Command.print path m ++ rest) = (tokens rest).map
      ([bare "base64", quoted path, .operator ['&', '&'], bare "printf",
        quoted (m.text ++ "\\n".toList)] ++ ·) := by
  have written : Command.print path m ++ rest = "base64".toList ++
      ' ' :: (quote path ++ (printMark m ++ rest)) := by
    unfold Command.print
    simp only [List.append_assoc]
    rfl
  rw [written, tokens_bare (by decide) (by decide) (ends_cons (by decide) _),
    tokens_argument path m ends, Option.map_map]
  rfl

theorem quoted_injective {path other : List Char} (same : quoted path = quoted other) :
    path = other :=
  List.map_injective_iff.mpr (fun _ _ => Piece.literal.inj) (Token.word.inj same)

theorem tokens_nil : tokens [] = some [] := by rw [tokens]

/-- A quoted path is read as one word, up to what ends a word behind it. In the commands of
transfers a path, whatever characters it has, is one word of its own, none of whose characters has a
meaning to the shell, and all else is always the same; so the command tells the path. -/
theorem tokens_of_path (path : List Char) (m : Mark) (ends : Ends rest) :
    readWord .plain (quote path ++ rest) = some (path.map .literal, rest) ∧
      tokens (Command.receive path m) = some
        [bare "base64", bare "-d", .operator ['>'], quoted path, .operator ['&', '&'],
          bare "printf", quoted (m.text ++ "\\n".toList)] ∧
      tokens (Command.print path m) = some
        [bare "base64", quoted path, .operator ['&', '&'], bare "printf",
          quoted (m.text ++ "\\n".toList)] ∧
      ∀ other, path ≠ other → Command.receive path m ≠ Command.receive other m ∧
        Command.print path m ≠ Command.print other m := by
  have nothing : Ends [] := by simp [Ends]
  have receives (path : List Char) := tokens_receive path m nothing
  have prints (path : List Char) := tokens_print path m nothing
  simp only [List.append_nil, tokens_nil, Option.map_some] at receives prints
  refine ⟨readWord_quote path ends, receives path, prints path, fun other differ => ⟨?_, ?_⟩⟩
  · intro same
    have read := receives path
    rw [same, receives other] at read
    simp only [Option.some.injEq, List.cons.injEq, true_and] at read
    exact differ (quoted_injective read.1.symm)
  · intro same
    have read := prints path
    rw [same, prints other] at read
    simp only [Option.some.injEq, List.cons.injEq, true_and] at read
    exact differ (quoted_injective read.1.symm)

theorem tokens_of_path_reboot :
    Ends " && true".toList ∧
      readWord .plain (quote "it's; $(reboot)\n\\'".toList ++ " && true".toList) =
        some ("it's; $(reboot)\n\\'".toList.map .literal, " && true".toList) := by
  have ends : Ends " && true".toList := ends_cons (by decide) _
  exact ⟨ends, (tokens_of_path _ default ends).1⟩

end Commands

end SerialConsole.Shell
