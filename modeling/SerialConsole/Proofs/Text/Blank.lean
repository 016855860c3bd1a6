import SerialConsole.Text.Blank
import Mathlib.Data.List.Infix
import Mathlib.Data.List.TakeWhile

/-!
# Blanks around a text

What `trim` gives is part of the text, and nothing but blanks is lost. A text without blanks at its
ends is found again whatever blanks are put around it (`trim_around`).
-/

namespace SerialConsole.Text

def Blank (text : List Char) : Prop := ∀ c ∈ text, isBlank c = true

def Solid (text : List Char) : Prop := ∀ c ∈ text, isBlank c = false

theorem trimEnd_isPrefix (text : List Char) : trimEnd text <+: text := by
  rw [← List.reverse_suffix, trimEnd, List.reverse_reverse]
  exact List.dropWhile_suffix _

theorem trim_infix (text : List Char) : trim text <:+: text :=
  (trimEnd_isPrefix _).isInfix.trans (List.dropWhile_suffix _).isInfix

private theorem mem_dropWhile {text : List Char} {c : Char} (h : c ∈ text)
    (solid : isBlank c = false) : c ∈ text.dropWhile isBlank := by
  rw [← List.takeWhile_append_dropWhile (p := isBlank) (l := text), List.mem_append] at h
  refine h.resolve_left fun front => ?_
  rw [List.mem_takeWhile_imp front] at solid
  cases solid

theorem mem_trim {text : List Char} {c : Char} (h : c ∈ text) (solid : isBlank c = false) :
    c ∈ trim text := by
  have front := mem_dropWhile h solid
  rw [trim, trimEnd, List.mem_reverse]
  exact mem_dropWhile (List.mem_reverse.mpr front) solid

private theorem dropWhile_blank {before : List Char} (h : Blank before) (text : List Char) :
    (before ++ text).dropWhile isBlank = text.dropWhile isBlank :=
  List.dropWhile_append_of_pos h

private theorem dropWhile_solid {text : List Char} (h : Solid text) :
    text.dropWhile isBlank = text := by
  cases text with
  | nil => rfl
  | cons c rest =>
      have hc : isBlank c = false := h c (by simp)
      rw [List.dropWhile_cons, if_neg (by simp [hc])]

theorem trimEnd_append_blank {after : List Char} (h : Blank after) (text : List Char) :
    trimEnd (text ++ after) = trimEnd text := by
  have reversed : Blank after.reverse := fun c hc => h c (List.mem_reverse.mp hc)
  rw [trimEnd, trimEnd, List.reverse_append, dropWhile_blank reversed]

theorem trimEnd_solid {text : List Char} (h : Solid text) : trimEnd text = text := by
  have reversed : Solid text.reverse := fun c hc => h c (List.mem_reverse.mp hc)
  rw [trimEnd, dropWhile_solid reversed, List.reverse_reverse]

theorem trim_around {before text after : List Char} (hbefore : Blank before) (htext : Solid text)
    (hafter : Blank after) : trim (before ++ text ++ after) = text := by
  rw [trim, List.append_assoc, dropWhile_blank hbefore]
  cases text with
  | nil =>
      have none : (after.dropWhile isBlank) = [] := List.dropWhile_eq_nil_iff.mpr hafter
      rw [List.nil_append, none]
      rfl
  | cons c rest =>
      have hc : isBlank c = false := htext c (by simp)
      rw [List.cons_append, List.dropWhile_cons, if_neg (by simp [hc]), ← List.cons_append,
        trimEnd_append_blank hafter, trimEnd_solid htext]

theorem trim_eq_nil_iff {text : List Char} : trim text = [] ↔ Blank text := by
  constructor
  · intro h
    by_contra notBlank
    have rest : text.dropWhile isBlank ≠ [] := fun none =>
      notBlank (List.dropWhile_eq_nil_iff.mp none)
    have first := List.head_dropWhile_not isBlank rest
    have all : ∀ c ∈ text.dropWhile isBlank, isBlank c = true := by
      rw [trim, trimEnd, List.reverse_eq_nil_iff, List.dropWhile_eq_nil_iff] at h
      exact fun c hc => h c (List.mem_reverse.mpr hc)
    rw [all _ (List.head_mem rest)] at first
    cases first
  · intro h
    have solid : Solid [] := List.forall_mem_nil _
    have found := trim_around h solid (List.forall_mem_nil _ : Blank [])
    simpa using found

end SerialConsole.Text
