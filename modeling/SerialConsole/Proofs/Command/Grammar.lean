import SerialConsole.Proofs.Command.Status

/-!
# Which texts report a status

`parse` searches a text from its start, for the shortest output that only a status comes after. The
same is told from the end of the text: take off the blanks, then the digits, then the line ends.
`parse_grammar` says for every text what `parse` gives in terms of these three runs, each of them as
long as it can be.
-/

namespace SerialConsole.Command

open Text (isDigit isAsciiDigit decimalValue)

/-- A text without the blanks at its end. -/
def unpadded (text : List Char) : List Char := text.rdropWhile isPadding

/-- What stands before the digits that a text ends with, but for blanks. -/
def beforeStatus (text : List Char) : List Char := (unpadded text).rdropWhile isDigit

def lastEnds (text : List Char) : List Char := text.rtakeWhile isLineEnd

/-- A text ends with a status: a number that is not too large, on a line of its own. -/
structure HasStatus (text : List Char) : Prop where
  some : lastDigits (unpadded text) ≠ []
  ascii : ∀ c ∈ lastDigits (unpadded text), isAsciiDigit c = true
  small : decimalValue (lastDigits (unpadded text)) ≤ statusLimit
  alone : (∀ c ∈ beforeStatus text, isLineEnd c = true) ∨ '\n' ∈ lastEnds (beforeStatus text)

/-- The output in what stands before a status: nothing if these are line ends only, and otherwise
all up to the first newline of the line ends at the end. -/
def outputOf (before : List Char) : List Char :=
  if before.all isLineEnd then []
  else before.rdropWhile isLineEnd ++ (lastEnds before).takeWhile (· ≠ '\n') ++ ['\n']

/-! ## The runs at the end -/

theorem runs_append (text : List Char) :
    beforeStatus text ++ lastDigits (unpadded text) ++ text.rtakeWhile isPadding = text := by
  rw [beforeStatus, lastDigits, List.rdropWhile_append_rtakeWhile, unpadded,
    List.rdropWhile_append_rtakeWhile]

theorem runs_of_append {before digits pad : List Char} (noDigits : lastDigits before = [])
    (some : digits ≠ []) (hdigits : ∀ c ∈ digits, isDigit c = true)
    (hpad : ∀ c ∈ pad, isPadding c = true) :
    lastDigits (unpadded (before ++ digits ++ pad)) = digits ∧
      beforeStatus (before ++ digits ++ pad) = before := by
  have shorter : unpadded (before ++ digits ++ pad) = before ++ digits :=
    dropPadding_append some hdigits hpad before
  have last : lastDigits (before ++ digits) = digits := by
    rw [lastDigits_append hdigits, noDigits, List.nil_append]
  have whole : (before ++ digits).rdropWhile isDigit ++ lastDigits (before ++ digits) =
      before ++ digits := List.rdropWhile_append_rtakeWhile
  rw [last] at whole
  exact ⟨by rw [shorter, last], by rw [beforeStatus, shorter, List.append_cancel_right whole]⟩

theorem mem_lastEnds {text ends : List Char} (h : ∀ c ∈ ends, isLineEnd c = true) :
    '\n' ∈ lastEnds (text ++ '\n' :: ends) := by
  have run : ∀ c ∈ '\n' :: ends, isLineEnd c = true := List.forall_mem_cons.mpr ⟨rfl, h⟩
  rw [lastEnds, List.rtakeWhile, List.reverse_append, List.takeWhile_append_of_pos]
  · simp
  · simpa [or_comm] using run

theorem rdropWhile_append_lastEnds (text : List Char) :
    text.rdropWhile isLineEnd ++ lastEnds text = text := List.rdropWhile_append_rtakeWhile

theorem exists_before_lastEnds {text : List Char} (h : ¬ ∀ c ∈ text, isLineEnd c = true) :
    ∃ body c, isLineEnd c = false ∧ text.rdropWhile isLineEnd = body ++ [c] := by
  have some : text.rdropWhile isLineEnd ≠ [] := mt List.rdropWhile_eq_nil_iff.mp h
  have notEnd := List.rdropWhile_last_not isLineEnd text some
  exact ⟨_, _, Bool.not_eq_true _ ▸ notEnd, (List.dropLast_append_getLast some).symm⟩

/-! ## Both ways of reading -/

theorem hasStatus_of_parse {text output : List Char} {status : Nat}
    (h : parse text = some (status, output)) : HasStatus text := by
  unfold parse at h
  cases cut : split text with
  | none =>
    rw [cut] at h
    cases h
  | some found =>
    obtain ⟨ds, out⟩ := found
    rw [cut] at h
    simp only [Option.ite_none_right_eq_some, Bool.and_eq_true, List.all_eq_true,
      decide_eq_true_eq] at h
    obtain ⟨⟨ascii, small⟩, -⟩ := h
    obtain ⟨tail, rfl, complete, status⟩ := split_eq_some cut
    obtain ⟨ends, pad, rfl, hends, some, hds, hpad⟩ := statusDigits?_eq_some.mp status
    obtain ⟨digits, before⟩ := runs_of_append (lastDigits_of_ends complete hends) some hds hpad
    rw [← List.append_assoc, ← List.append_assoc]
    refine ⟨by rwa [digits], by rwa [digits], by rwa [digits], ?_⟩
    rw [before]
    obtain rfl | newline := complete
    · exact .inl hends
    · obtain ⟨front, rfl⟩ := List.getLast?_eq_some_iff.mp newline
      rw [List.append_assoc]
      exact .inr (mem_lastEnds hends)

theorem split_of_hasStatus {text : List Char} (h : HasStatus text) :
    split text = some (lastDigits (unpadded text), outputOf (beforeStatus text)) := by
  have digits : ∀ c ∈ lastDigits (unpadded text), isDigit c = true :=
    fun c hc => isDigit_of_isAsciiDigit (h.ascii c hc)
  have pad : ∀ c ∈ text.rtakeWhile isPadding, isPadding c = true :=
    fun c => List.mem_rtakeWhile_imp
  conv_lhs => rw [← runs_append text]
  by_cases ends : ∀ c ∈ beforeStatus text, isLineEnd c = true
  · rw [outputOf, if_pos (List.all_eq_true.mpr ends)]
    exact split_of_ends ends h.some digits pad
  · rw [outputOf, if_neg (mt List.all_eq_true.mp ends)]
    obtain ⟨body, c, notEnd, shape⟩ := exists_before_lastEnds ends
    obtain ⟨returns, more, run, inner⟩ := List.eq_append_cons_of_mem (h.alone.resolve_left ends)
    have left : ∀ x ∈ more, isLineEnd x = true := by
      intro x hx
      have held : x ∈ lastEnds (beforeStatus text) := by simp [run, hx]
      exact List.mem_rtakeWhile_imp held
    have whole : beforeStatus text = body ++ c :: returns ++ '\n' :: more := by
      rw [← rdropWhile_append_lastEnds (beforeStatus text), shape, run]
      simp
    have found : split (body ++ c :: returns ++
        '\n' :: (more ++ lastDigits (unpadded text) ++ text.rtakeWhile isPadding)) =
          some (lastDigits (unpadded text), body ++ c :: returns ++ ['\n']) :=
      split_of_line left h.some digits pad notEnd inner
    have text_eq : beforeStatus text ++ lastDigits (unpadded text) ++ text.rtakeWhile isPadding =
        body ++ c :: returns ++
          '\n' :: (more ++ lastDigits (unpadded text) ++ text.rtakeWhile isPadding) := by
      rw [whole]
      simp
    rw [text_eq, found, run, Text.takeWhile_line inner, shape]
    simp

theorem parse_of_hasStatus {text : List Char} (h : HasStatus text) :
    parse text =
      some (decimalValue (lastDigits (unpadded text)), outputOf (beforeStatus text)) := by
  rw [parse, split_of_hasStatus h]
  simp only
  rw [if_pos]
  simpa using ⟨h.ascii, h.small⟩

/-- Every text that ends with a status is read as that status and the output before it, and no other
text is read as anything. -/
theorem parse_grammar (text : List Char) :
    (∀ status output, parse text = some (status, output) ↔
      HasStatus text ∧ status = decimalValue (lastDigits (unpadded text)) ∧
        output = outputOf (beforeStatus text)) ∧
      (parse text = none ↔ ¬ HasStatus text) := by
  constructor
  · intro status output
    constructor
    · intro h
      have has := hasStatus_of_parse h
      rw [parse_of_hasStatus has] at h
      obtain ⟨rfl, rfl⟩ := Prod.mk.inj (Option.some.inj h)
      exact ⟨has, rfl, rfl⟩
    · rintro ⟨has, rfl, rfl⟩
      exact parse_of_hasStatus has
  · constructor
    · intro none has
      rw [parse_of_hasStatus has] at none
      cases none
    · intro without
      cases h : parse text with
      | none => rfl
      | some found => exact absurd (hasStatus_of_parse h) without

/-- Only the first of the newlines before a status belongs to the output. -/
example : parse "a\nb\r\n\n\r07 \t\r\n".toList = some (7, "a\nb\r\n".toList) := by
  decide +kernel

end SerialConsole.Command
