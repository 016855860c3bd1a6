import SerialConsole.Command.Output
import Mathlib.Data.List.Induction
import Mathlib.Data.List.TakeWhile

/-!
# Lines of a text

`Lines text lines rest` says that `lines` are the complete lines of a text and `rest` what comes
after them. Every text is cut in one way only, and `Command.join` puts lines together again.
-/

namespace SerialConsole.Text

open Command (join)

@[simp] theorem join_nil : join [] = [] := rfl

@[simp] theorem join_cons (line : List Char) (lines : List (List Char)) :
    join (line :: lines) = line ++ '\n' :: join lines := by
  simp [join]

@[simp] theorem join_append (lines more : List (List Char)) :
    join (lines ++ more) = join lines ++ join more := by
  simp [join]

/-- A text of complete lines: it is empty or ends with a line end. -/
def Complete (text : List Char) : Prop := text = [] ∨ text.getLast? = some '\n'

theorem complete_join (lines : List (List Char)) : Complete (join lines) := by
  induction lines using List.reverseRecOn with
  | nil => exact .inl rfl
  | append_singleton lines line => exact .inr (by simp)

theorem infix_of_infix_around {part a b : List Char} {sign : Char} (h : sign ∉ part)
    (found : part <:+: a ++ sign :: b) : part <:+: a ∨ part <:+: b := by
  obtain ⟨before, after, split⟩ := found
  obtain ⟨left, hleft, -⟩ | ⟨left, hleft, hright⟩ := List.append_eq_append_iff.mp split
  · exact .inl (hleft ▸ List.infix_append before part left)
  · cases left with
    | nil =>
      rw [List.append_nil] at hleft
      exact .inl (hleft ▸ (List.suffix_append before part).isInfix)
    | cons c left =>
      rw [List.cons_append] at hright
      injection hright with hc hb
      subst hc
      obtain ⟨inner, -, hinner⟩ | ⟨inner, -, hinner⟩ := List.append_eq_append_iff.mp hleft
      · exact absurd (hinner ▸ by simp) h
      · cases inner with
        | nil =>
          rw [List.nil_append] at hinner
          exact absurd (hinner ▸ by simp) h
        | cons d inner =>
          injection hinner with hd hleft
          exact .inr (hb ▸ hleft ▸ List.infix_append inner part after)

theorem infix_join_of_mem {lines : List (List Char)} {line : List Char} (h : line ∈ lines) :
    line <:+: join lines := by
  obtain ⟨before, after, rfl⟩ := List.append_of_mem h
  exact ⟨join before, '\n' :: join after, by simp⟩

theorem infix_of_infix_join {part : List Char} {lines : List (List Char)} (h : '\n' ∉ part)
    (some : part ≠ []) (found : part <:+: join lines) : ∃ line ∈ lines, part <:+: line := by
  induction lines with
  | nil => exact absurd (List.eq_nil_of_infix_nil found) some
  | cons line more ih =>
      rw [join_cons] at found
      obtain here | there := infix_of_infix_around h found
      · exact ⟨line, by simp, here⟩
      · obtain ⟨other, hother, found⟩ := ih there
        exact ⟨other, by simp [hother], found⟩

/-- The complete lines of a text, and what comes after them. -/
structure Lines (text : List Char) (lines : List (List Char)) (rest : List Char) : Prop where
  text_eq : join lines ++ rest = text
  lines_mem : ∀ line ∈ lines, '\n' ∉ line
  rest_mem : '\n' ∉ rest

private theorem isInner {line : List Char} (h : '\n' ∉ line) :
    ∀ c ∈ line, decide (c ≠ '\n') = true := by
  intro c hc
  have : c ≠ '\n' := fun same => h (same ▸ hc)
  simpa using this

theorem takeWhile_line {line : List Char} (h : '\n' ∉ line) (rest : List Char) :
    (line ++ '\n' :: rest).takeWhile (· ≠ '\n') = line := by
  rw [List.takeWhile_append_of_pos (isInner h)]
  simp

theorem dropWhile_line {line : List Char} (h : '\n' ∉ line) (rest : List Char) :
    (line ++ '\n' :: rest).dropWhile (· ≠ '\n') = '\n' :: rest := by
  rw [List.dropWhile_append_of_pos (isInner h)]
  simp

theorem dropWhile_unended {text : List Char} (h : '\n' ∉ text) :
    text.dropWhile (· ≠ '\n') = [] :=
  List.dropWhile_eq_nil_iff.mpr (isInner h)

theorem exists_line (text : List Char) :
    '\n' ∉ text ∨ ∃ line rest, text = line ++ '\n' :: rest ∧ '\n' ∉ line := by
  by_cases h : '\n' ∈ text
  · obtain ⟨line, rest, rfl, first⟩ := List.eq_append_cons_of_mem h
    exact .inr ⟨line, rest, rfl, first⟩
  · exact .inl h

theorem exists_lines (text : List Char) : ∃ lines rest, Lines text lines rest := by
  induction hn : text.length using Nat.strong_induction_on generalizing text with
  | _ n ih =>
    obtain unended | ⟨line, others, rfl, first⟩ := exists_line text
    · exact ⟨[], text, rfl, by simp, unended⟩
    · have shorter : others.length < n := by
        simp at hn
        omega
      obtain ⟨lines, rest, split⟩ := ih _ shorter others rfl
      refine ⟨line :: lines, rest, ?_, ?_, split.rest_mem⟩
      · rw [← split.text_eq]
        simp
      · simpa using ⟨first, split.lines_mem⟩

theorem Lines.cons {text line rest : List Char} {lines : List (List Char)}
    (h : Lines text (line :: lines) rest) :
    line ++ '\n' :: (join lines ++ rest) = text ∧ '\n' ∉ line ∧
      Lines (join lines ++ rest) lines rest := by
  refine ⟨?_, h.lines_mem line (by simp), rfl, fun l hl => h.lines_mem l (by simp [hl]), h.rest_mem⟩
  rw [← h.text_eq]
  simp

end SerialConsole.Text
