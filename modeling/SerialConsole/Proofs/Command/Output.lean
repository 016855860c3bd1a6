import SerialConsole.Proofs.Text.Lines
import Mathlib.Data.List.DropRight
import Mathlib.Data.List.TakeDrop

/-!
# Output of commands

What the exit status is told by (`statusDigits?_eq_some`), and what is made of the output before it:
the lines up to the last one that is not empty (`parse_join`). In any case the output is a part of
the text and consists of complete lines (`parse_eq_some`).
-/

namespace SerialConsole.Command

open Text (isDigit Complete)

/-! ## Characters -/

theorem isPadding_iff {c : Char} :
    isPadding c = true ↔ c = ' ' ∨ c = '\t' ∨ c = '\n' ∨ c = '\r' := by
  simp [isPadding, isLineEnd, or_assoc]

theorem isPadding_of_isDigit {c : Char} (h : isDigit c = true) : isPadding c = false := by
  by_contra padding
  rw [Bool.not_eq_false, isPadding_iff] at padding
  obtain rfl | rfl | rfl | rfl := padding <;> revert h <;> decide

theorem isPadding_of_isLineEnd {c : Char} (h : isLineEnd c = true) : isPadding c = true := by
  simp [isPadding, h]

theorem isLineEnd_of_isDigit {c : Char} (h : isDigit c = true) : isLineEnd c = false := by
  by_contra ends
  rw [Bool.not_eq_false] at ends
  have padding := isPadding_of_isLineEnd ends
  rw [isPadding_of_isDigit h] at padding
  cases padding

/-- The digits that numbers are written with are digits of some script. -/
theorem isDigit_of_isAsciiDigit {c : Char} (h : Text.isAsciiDigit c = true) :
    isDigit c = true := by
  have between : 48 ≤ c.toNat ∧ c.toNat ≤ 57 := by
    simpa [Text.isAsciiDigit, Char.le_def, UInt32.le_iff_toNat_le] using h
  simp [isDigit, Text.CharSet.contains, Text.CharSet.covers, Text.decimalDigits,
    Text.decimalZeros, between]

/-- The decimal form of a number. -/
def decimal (n : Nat) : List Char := Nat.toDigits 10 n

theorem isAsciiDigit_of_mem_decimal {n : Nat} {c : Char} (h : c ∈ decimal n) :
    Text.isAsciiDigit c = true := by
  have digit := Nat.isDigit_of_mem_toDigits (by decide) (by decide) h
  simpa [Char.isDigit, Text.isAsciiDigit, Char.le_def] using digit

theorem decimalValue_decimal (n : Nat) : Text.decimalValue (decimal n) = n := by
  have value := Nat.ofDigitChars_toDigits (b := 10) (n := n) (by decide) (by decide)
  rw [Nat.ofDigitChars_eq_foldl] at value
  simp only [Text.decimalValue, Text.digitValue, decimal]
  simpa only [Nat.mul_comm] using value

def Plain (line : List Char) : Prop := ∀ c ∈ line, isLineEnd c = false

/-! ## The exit status -/

private theorem takeWhile_digits {ds pad : List Char} (hds : ∀ c ∈ ds, isDigit c = true)
    (hpad : ∀ c ∈ pad, isPadding c = true) :
    (ds ++ pad).takeWhile isDigit = ds ∧ (ds ++ pad).dropWhile isDigit = pad := by
  rw [List.takeWhile_append_of_pos hds, List.dropWhile_append_of_pos hds]
  cases pad with
  | nil => simp
  | cons c rest =>
      have stop : ¬ isDigit c = true := by
        intro digit
        have padding := hpad c (by simp)
        rw [isPadding_of_isDigit digit] at padding
        cases padding
      rw [List.takeWhile_cons_of_neg stop, List.dropWhile_cons_of_neg stop]
      exact ⟨List.append_nil ds, rfl⟩

theorem statusDigits?_eq_some {text ds : List Char} :
    statusDigits? text = some ds ↔
      ∃ ends pad, text = ends ++ ds ++ pad ∧ (∀ c ∈ ends, isLineEnd c = true) ∧ ds ≠ [] ∧
        (∀ c ∈ ds, isDigit c = true) ∧ ∀ c ∈ pad, isPadding c = true := by
  simp only [statusDigits?, List.span_eq_takeWhile_dropWhile]
  constructor
  · intro h
    split at h
    · next found =>
      obtain rfl := Option.some.inj h
      simp only [Bool.and_eq_true, Bool.not_eq_true', List.isEmpty_eq_false_iff,
        List.all_eq_true] at found
      refine ⟨text.takeWhile isLineEnd, _, ?_, fun c => List.mem_takeWhile_imp, found.1,
        fun c => List.mem_takeWhile_imp, found.2⟩
      rw [List.append_assoc, List.takeWhile_append_dropWhile, List.takeWhile_append_dropWhile]
    · cases h
  · rintro ⟨ends, pad, rfl, hends, notNil, hds, hpad⟩
    have front : (ends ++ ds ++ pad).dropWhile isLineEnd = ds ++ pad := by
      rw [List.append_assoc, List.dropWhile_append_of_pos hends]
      cases ds with
      | nil => exact absurd rfl notNil
      | cons d ds =>
          have digit := isLineEnd_of_isDigit (hds d (by simp))
          rw [List.cons_append, List.dropWhile_cons_of_neg (by simp [digit])]
    obtain ⟨digits, rest⟩ := takeWhile_digits hds hpad
    rw [front, digits, rest, if_pos]
    simpa using ⟨notNil, hpad⟩

/-- There is no status if something stands before a line end that does not belong to it, and
something after it as well. -/
theorem statusDigits?_eq_none {x y : List Char} {c d : Char} (hc : c ∈ x)
    (notEnd : isLineEnd c = false) (hd : d ∈ y) (notPadding : isPadding d = false) :
    statusDigits? (x ++ '\n' :: y) = none := by
  cases h : statusDigits? (x ++ '\n' :: y) with
  | none => rfl
  | some ds =>
    obtain ⟨ends, pad, split, hends, -, hds, hpad⟩ := statusDigits?_eq_some.mp h
    have inPad (a : List Char) (h : pad = a ++ '\n' :: y) : False := by
      have := hpad d (by simp [h, hd])
      rw [notPadding] at this
      cases this
    rw [List.append_assoc] at split
    obtain ⟨a, rfl, -⟩ | ⟨a, rfl, later⟩ := List.append_eq_append_iff.mp split
    · have := hends c (by simp [hc])
      rw [notEnd] at this
      cases this
    · obtain ⟨b, -, behind⟩ | ⟨b, rfl, behind⟩ := List.append_eq_append_iff.mp later
      · exact (inPad b behind).elim
      · cases b with
        | nil => exact (inPad [] behind.symm).elim
        | cons e b =>
          injection behind with newline
          have := hds '\n' (by simp [← newline])
          exact absurd this (by decide)

/-! ## The output -/

/-- The output ends at the first newline that only a status comes after. -/
theorem splitAfter_first {inner tail ds : List Char} (status : statusDigits? tail = some ds)
    (earlier : ∀ a b, inner = a ++ '\n' :: b → statusDigits? (b ++ '\n' :: tail) = none)
    (seen : List Char) :
    splitAfter seen (inner ++ '\n' :: tail) = some (ds, seen.reverse ++ inner ++ ['\n']) := by
  induction inner generalizing seen with
  | nil =>
    rw [List.nil_append, splitAfter, if_pos rfl, status]
    simp
  | cons c inner ih =>
    have later := ih (fun a b cut => earlier (c :: a) b (by rw [cut]; rfl)) (c :: seen)
    rw [List.reverse_cons, List.append_assoc, List.append_assoc] at later
    rw [List.cons_append, splitAfter]
    by_cases newline : c = '\n'
    · rw [if_pos newline, earlier [] inner (by rw [newline]; rfl), later]
      simp
    · rw [if_neg newline, later]
      simp

section Split

variable {ends ds pad : List Char} (hends : ∀ c ∈ ends, isLineEnd c = true) (some : ds ≠ [])
  (hds : ∀ c ∈ ds, isDigit c = true) (hpad : ∀ c ∈ pad, isPadding c = true)
include hends some hds hpad

theorem split_of_ends : split (ends ++ ds ++ pad) = .some (ds, []) := by
  rw [split, statusDigits?_eq_some.mpr ⟨ends, pad, rfl, hends, some, hds, hpad⟩]

/-- The output ends at the first newline after the last character that is no line end: before that
character there is no newline that only a status comes after. -/
theorem split_of_line {body returns : List Char} {c : Char} (hc : isLineEnd c = false)
    (inner : '\n' ∉ returns) :
    split (body ++ c :: returns ++ '\n' :: (ends ++ ds ++ pad)) =
      .some (ds, body ++ c :: returns ++ ['\n']) := by
  have status : statusDigits? (ends ++ ds ++ pad) = .some ds :=
    statusDigits?_eq_some.mpr ⟨ends, pad, rfl, hends, some, hds, hpad⟩
  obtain ⟨d, hd⟩ := List.exists_mem_of_ne_nil ds some
  have behind : d ∈ ends ++ ds ++ pad := by simp [hd]
  have digit : isPadding d = false := isPadding_of_isDigit (hds d hd)
  have first : statusDigits? (body ++ c :: returns ++ '\n' :: (ends ++ ds ++ pad)) = none :=
    statusDigits?_eq_none (by simp) hc behind digit
  have earlier : ∀ a b, body ++ c :: returns = a ++ '\n' :: b →
      statusDigits? (b ++ '\n' :: (ends ++ ds ++ pad)) = none := by
    intro a b cut
    have held : c ∈ b := by
      have whole : c :: returns <:+ a ++ '\n' :: b := cut ▸ List.suffix_append _ _
      obtain later | sooner := List.suffix_or_suffix_of_suffix whole (List.suffix_append a _)
      · obtain same | within := List.suffix_cons_iff.mp later
        · obtain ⟨rfl, -⟩ := List.cons.inj same
          cases hc
        · exact within.subset List.mem_cons_self
      · obtain rfl | found := List.mem_cons.mp (sooner.subset List.mem_cons_self)
        · cases hc
        · exact absurd found inner
    exact statusDigits?_eq_none held hc behind digit
  rw [split, first]
  exact splitAfter_first status earlier []

end Split

def trimLines (out : List (List Char)) : List (List Char) := out.rdropWhile List.isEmpty

private theorem trimLines_append (out : List (List Char)) :
    ∃ dropped, out = trimLines out ++ dropped ∧ ∀ c ∈ join dropped, isLineEnd c = true := by
  refine ⟨out.rtakeWhile List.isEmpty, List.rdropWhile_append_rtakeWhile.symm, ?_⟩
  intro c hc
  obtain ⟨line, hline, hc⟩ := List.mem_flatMap.mp hc
  have empty : line = [] := by simpa using List.mem_rtakeWhile_imp hline
  subst empty
  obtain rfl : c = '\n' := by simpa using hc
  rfl

private theorem join_trimLines {out : List (List Char)} (plain : ∀ line ∈ out, Plain line)
    (some : trimLines out ≠ []) :
    ∃ body c, isLineEnd c = false ∧ join (trimLines out) = body ++ [c] ++ ['\n'] := by
  obtain ⟨lines, line, shape⟩ := (List.eq_nil_or_concat (trimLines out)).resolve_left some
  have last : line ≠ [] := by
    have := List.rdropWhile_last_not List.isEmpty out some
    simp only [show out.rdropWhile List.isEmpty = lines.concat line from shape] at this
    simpa using this
  obtain ⟨front, c, rfl⟩ := (List.eq_nil_or_concat line).resolve_left last
  have held : front ++ [c] ∈ out := by
    have part : trimLines out <+: out := List.rdropWhile_prefix _ _
    exact part.subset (by simp [shape])
  exact ⟨join lines ++ front, c, plain _ held c (by simp), by rw [shape]; simp⟩

/-- Lines that are followed by their exit status: the empty ones at the end are not output. -/
theorem parse_join {out : List (List Char)} (plain : ∀ line ∈ out, Plain line) {status : Nat}
    (small : status ≤ statusLimit) :
    parse (join (out ++ [decimal status])) = some (status, join (trimLines out)) := by
  obtain ⟨dropped, split_out, ends⟩ := trimLines_append out
  have digits : ∀ c ∈ decimal status, isDigit c = true :=
    fun c hc => isDigit_of_isAsciiDigit (isAsciiDigit_of_mem_decimal hc)
  have newline : ∀ c ∈ ['\n'], isPadding c = true := List.forall_mem_singleton.mpr (by decide)
  have text : join (out ++ [decimal status]) =
      join (trimLines out) ++ (join dropped ++ decimal status ++ ['\n']) := by
    conv_lhs => rw [split_out]
    simp
  have cut : split (join (trimLines out) ++ (join dropped ++ decimal status ++ ['\n'])) =
      some (decimal status, join (trimLines out)) := by
    by_cases blank : trimLines out = []
    · rw [blank]
      exact split_of_ends ends Nat.toDigits_ne_nil digits newline
    · obtain ⟨body, c, notEnd, shape⟩ := join_trimLines plain blank
      rw [shape, List.append_assoc _ ['\n'], List.singleton_append]
      exact split_of_line ends Nat.toDigits_ne_nil digits newline notEnd List.not_mem_nil
  rw [text, parse, cut]
  simp only [decimalValue_decimal]
  rw [if_pos]
  simpa using ⟨fun c hc => isAsciiDigit_of_mem_decimal hc, small⟩

/-- What `splitAfter` finds: a line end, and only a status after it. -/
theorem splitAfter_eq_some {seen text ds out : List Char}
    (h : splitAfter seen text = some (ds, out)) :
    ∃ inner tail, text = inner ++ '\n' :: tail ∧ out = seen.reverse ++ inner ++ ['\n'] ∧
      statusDigits? tail = some ds := by
  induction text generalizing seen with
  | nil => cases h
  | cons c rest ih =>
      have later (h : splitAfter (c :: seen) rest = some (ds, out)) :
          ∃ inner tail, c :: rest = inner ++ '\n' :: tail ∧
            out = seen.reverse ++ inner ++ ['\n'] ∧ statusDigits? tail = some ds := by
        obtain ⟨inner, tail, rfl, rfl, status⟩ := ih h
        exact ⟨c :: inner, tail, rfl, by simp, status⟩
      rw [splitAfter] at h
      by_cases newline : c = '\n'
      · rw [if_pos newline] at h
        cases status : statusDigits? rest with
        | none =>
            rw [status] at h
            exact later h
        | some found =>
            rw [status] at h
            cases h
            exact ⟨[], rest, by rw [newline]; rfl, by simp [newline], status⟩
      · rw [if_neg newline] at h
        exact later h

/-- The output is a part of the text, which ends with a line end if it is not empty. -/
theorem parse_eq_some {text output : List Char} {status : Nat}
    (h : parse text = some (status, output)) : output <+: text ∧ Complete output := by
  unfold parse at h
  cases cut : split text with
  | none =>
    rw [cut] at h
    cases h
  | some found =>
    obtain ⟨ds, out⟩ := found
    rw [cut] at h
    simp only [Option.ite_none_right_eq_some, Option.some.injEq, Prod.mk.injEq] at h
    obtain ⟨-, -, rfl⟩ := h
    unfold split at cut
    cases first : statusDigits? text with
    | some ds' =>
      rw [first] at cut
      cases cut
      exact ⟨List.nil_prefix, .inl rfl⟩
    | none =>
      rw [first] at cut
      obtain ⟨inner, tail, rfl, rfl, -⟩ := splitAfter_eq_some cut
      refine ⟨?_, .inr (by simp)⟩
      exact ⟨tail, by simp⟩

end SerialConsole.Command
