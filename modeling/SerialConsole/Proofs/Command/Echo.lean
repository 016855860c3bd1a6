import SerialConsole.Command.Line
import SerialConsole.Proofs.Mark
import SerialConsole.Proofs.Text.Lines
import SerialConsole.Text.Utf8

/-!
# Echoes of commands

A console may show what is typed. `Shown` says that of the lines of a typed command the last, and
only that, is taken for the echo of the command, and none for its end. It is so for every command
and path that does not hold the mark, however many lines they have: the mark is put behind them, in
a line with other signs, and quoting a path makes no mark appear in it.
-/

namespace SerialConsole.Command

open Text (Lines)

variable {m : Mark} {line : List Char}

/-! ## Signs that are not in a mark -/

theorem not_mem_mark {c : Char} (h : c ∈ ['&', '\'', '\\', ' ', '\n']) : c ∉ m.text := by
  intro inMark
  have digits : ∀ d < 16, (Nat.digitChar d).isAlphanum = true := by decide
  obtain ⟨fence, other⟩ : c ≠ '=' ∧ c.isAlphanum = false := by
    simp only [List.mem_cons, List.not_mem_nil, or_false] at h
    obtain rfl | rfl | rfl | rfl | rfl := h <;> decide
  obtain sign | ⟨d, hd, rfl⟩ := Mark.mem_text inMark
  · exact fence sign
  · rw [digits d hd] at other
    cases other

/-- A line that holds the mark and a sign that is not in it is no end. -/
theorem classify_of_joined (holds : m.text <:+: line) (joined : '&' ∈ line) :
    m.classify line = .echo := by
  refine Mark.classify_eq_echo.mpr ⟨holds, Bool.eq_false_iff.mpr fun ends => ?_⟩
  have same : Text.trim line = m.text := by simpa [Mark.terminates] using ends
  have kept := Text.mem_trim joined (by decide)
  rw [same] at kept
  exact not_mem_mark (by simp) kept

/-! ## Quoted paths -/

theorem quoteChar_of_ne {c : Char} (h : c ≠ '\'') : quoteChar c = [c] := if_neg h

theorem quoted_of_plain {text : List Char} (plain : '\'' ∉ text) :
    text.flatMap quoteChar = text := by
  induction text with
  | nil => rfl
  | cons c rest ih =>
      have first : c ≠ '\'' := fun same => plain (same ▸ List.mem_cons_self)
      have others : '\'' ∉ rest := fun later => plain (List.mem_cons_of_mem c later)
      rw [List.flatMap_cons, quoteChar_of_ne first, ih others]
      rfl

/-- Quoting a path puts nothing into it but signs that are not in a mark. -/
theorem infix_of_infix_quoted {path : List Char}
    (found : m.text <:+: path.flatMap quoteChar) : m.text <:+: path := by
  have quote : '\'' ∉ m.text := not_mem_mark (by simp)
  have slash : '\\' ∉ m.text := not_mem_mark (by simp)
  have some : ¬ m.text <:+: [] := fun h => m.text_ne_nil (List.eq_nil_of_infix_nil h)
  induction hn : path.length using Nat.strong_induction_on generalizing path with
  | _ n ih =>
    by_cases plain : '\'' ∈ path
    · obtain ⟨front, rest, rfl, first⟩ := List.eq_append_cons_of_mem plain
      have shorter : rest.length < n := by
        simp at hn
        omega
      -- the quote is written as one that closes, an escaped one, and one that opens
      have written : (front ++ '\'' :: rest).flatMap quoteChar =
          front ++ '\'' :: ([] ++ '\\' :: ([] ++ '\'' :: ([] ++ '\'' ::
            rest.flatMap quoteChar))) := by
        rw [List.flatMap_append, quoted_of_plain first]
        rfl
      rw [written] at found
      have later : m.text <:+: rest.flatMap quoteChar → m.text <:+: front ++ '\'' :: rest :=
        fun h => (ih _ shorter h rfl).trans
          ((List.suffix_cons _ _).trans (List.suffix_append _ _)).isInfix
      obtain here | found := Text.infix_of_infix_around quote found
      · exact here.trans (List.prefix_append _ _).isInfix
      have found := (Text.infix_of_infix_around slash found).resolve_left some
      have found := (Text.infix_of_infix_around quote found).resolve_left some
      exact later ((Text.infix_of_infix_around quote found).resolve_left some)
    · rwa [quoted_of_plain plain] at found

/-! ## Lines of a typed command -/

/-- A typed command: of its lines the last is an echo of the mark and the others are content. -/
inductive Shown (m : Mark) : List Char → Prop
  | intro {before : List (List Char)} {echo : List Char}
      (unbroken : ∀ line ∈ before ++ [echo], '\n' ∉ line) (shown : m.classify echo = .echo)
      (others : ∀ line ∈ before, m.classify line = .content) :
      Shown m (join (before ++ [echo]))

/-- The mark is typed behind a text that does not hold it and ends with other signs. -/
theorem shown_of_words {fore last : List Char} (absent : ¬ m.text <:+: fore ++ last)
    (joined : '&' ∈ last) (unbroken : '\n' ∉ last) {back : List Char} (ended : '\n' ∉ back) :
    Shown m (fore ++ last ++ m.text ++ back ++ ['\n']) := by
  obtain ⟨before, rest, split⟩ := Text.exists_lines fore
  have whole : fore ++ last ++ m.text ++ back ++ ['\n'] =
      join (before ++ [rest ++ last ++ m.text ++ back]) := by
    rw [← split.text_eq]
    simp
  have newline := Mark.newline_not_mem_text m
  rw [whole]
  refine .intro ?_ (classify_of_joined ⟨rest ++ last, back, rfl⟩ (by simp [joined])) ?_
  · intro line hline
    obtain inFront | rfl := by simpa using hline
    · exact split.lines_mem line inFront
    · simp [split.rest_mem, unbroken, ended, newline]
  · intro line inFront
    have part : line <:+: fore ++ last := by
      rw [← split.text_eq, List.append_assoc]
      exact (Text.infix_join_of_mem inFront).trans (List.prefix_append _ _).isInfix
    exact Mark.classify_eq_content.mpr fun holds => absent (holds.trans part)

/-- A text with few signs that ends a command line is no place for a mark. -/
theorem absent_of_tail {front tail : List Char} (sign : Char)
    (foreign : sign ∈ ['&', '\'', '\\', ' ', '\n']) (few : tail.count '=' < 16)
    (absent : ¬ m.text <:+: front) : ¬ m.text <:+: front ++ sign :: tail := by
  intro found
  obtain inFront | inTail := Text.infix_of_infix_around (not_mem_mark foreign) found
  · exact absent inFront
  · exact Mark.not_infix_of_count few inTail

theorem absent_of_head (head : List Char) {rest : List Char} (sign : Char)
    (foreign : sign ∈ ['&', '\'', '\\', ' ', '\n']) (few : head.count '=' < 16)
    (absent : ¬ m.text <:+: rest) : ¬ m.text <:+: head ++ sign :: rest := by
  intro found
  obtain inHead | inRest := Text.infix_of_infix_around (not_mem_mark foreign) found
  · exact Mark.not_infix_of_count few inHead
  · exact absent inRest

theorem shown_run {command : List Char} (absent : ¬ m.text <:+: command) :
    Shown m (run command m) := by
  have front : ¬ m.text <:+: ('\n' :: command) ++ " ; echo $? && echo ".toList := by
    refine absent_of_tail ' ' (by simp) (by decide) ?_
    exact absent_of_head [] '\n' (by simp) (by decide) absent
  have shown := shown_of_words front (by decide) (by decide) (List.not_mem_nil (a := '\n'))
  simpa [run] using shown

/-- A transfer has the mark printed after a command with a quoted path. -/
theorem shown_transfer {head path : List Char} (few : head.count '=' < 16)
    (absent : ¬ m.text <:+: path) : Shown m (head ++ quote path ++ printMark m ++ ['\n']) := by
  have front : ¬ m.text <:+: (head ++ quote path) ++ " && printf \"".toList := by
    refine absent_of_tail ' ' (by simp) (by decide) ?_
    have quoted : head ++ quote path = head ++ '\'' :: (path.flatMap quoteChar ++ '\'' :: []) := by
      simp [quote]
    rw [quoted]
    refine absent_of_head _ '\'' (by simp) few (absent_of_tail '\'' (by simp) (by decide) ?_)
    exact fun found => absent (infix_of_infix_quoted found)
  unfold printMark
  rw [← List.append_assoc, ← List.append_assoc]
  exact shown_of_words front (by decide) (by decide) (by decide)

theorem shown_receive {path : List Char} (absent : ¬ m.text <:+: path) :
    Shown m (receive path m ++ ['\n']) :=
  shown_transfer (by decide) absent

theorem shown_print {path : List Char} (absent : ¬ m.text <:+: path) :
    Shown m (print path m ++ ['\n']) :=
  shown_transfer (by decide) absent

/-! ## All that is typed -/

/-- All that is typed with a command: the line that ends the command is an echo of the mark, and all
other lines are content, as is what comes after them. -/
inductive Echoed (m : Mark) (command : List Char) : Bytes → Prop
  | intro {text rest : List Char} {before after : List (List Char)} {echo : List Char}
      (lines : Lines text (before ++ echo :: after) rest)
      (ends : join (before ++ [echo]) = command) (shown : m.classify echo = .echo)
      (others : ∀ line ∈ before ++ after, m.classify line = .content)
      (unended : m.classify rest = .content) : Echoed m command (Text.encode text)

theorem echoed_of_shown {command rest : List Char} {after : List (List Char)}
    (shown : Shown m command) (unbroken : ∀ line ∈ after, '\n' ∉ line)
    (content : ∀ line ∈ after, m.classify line = .content) (ended : '\n' ∉ rest)
    (unended : m.classify rest = .content) :
    Echoed m command (Text.encode (command ++ join after ++ rest)) := by
  cases shown with
  | @intro before echo whole shown others =>
      have lines : Lines (join (before ++ [echo]) ++ join after ++ rest)
          (before ++ echo :: after) rest := by
        refine ⟨by simp, fun line hline => ?_, ended⟩
        rw [List.append_cons, List.mem_append] at hline
        exact hline.elim (whole line) (unbroken line)
      refine .intro lines rfl shown (fun line hline => ?_) unended
      exact (List.mem_append.mp hline).elim (others line) (content line)

end SerialConsole.Command
