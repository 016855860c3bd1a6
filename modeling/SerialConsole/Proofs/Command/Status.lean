import SerialConsole.Proofs.Command.Output
import Mathlib.Tactic.Ring

/-!
# Which status is reported

The status is read from the last digits of what the console printed, and these need not all belong
to it: an output that does not end its last line runs into them. `status_of_parse` says what is
reported, and that this is the exit status just in case the output ends with no digit but zeros.
-/

namespace SerialConsole.Command

open Text (isDigit isAsciiDigit decimalValue digitValue Complete)

/-- The digits at the end of a text, of whatever script. -/
def lastDigits (text : List Char) : List Char := text.rtakeWhile isDigit

/-! ## Digits at the end -/

theorem lastDigits_append {digits : List Char} (h : ∀ c ∈ digits, isDigit c = true)
    (text : List Char) : lastDigits (text ++ digits) = lastDigits text ++ digits := by
  induction digits using List.reverseRecOn with
  | nil => rw [List.append_nil, List.append_nil]
  | append_singleton digits d ih =>
      have last : isDigit d = true := h d (by simp)
      have front : ∀ c ∈ digits, isDigit c = true := fun c hc => h c (by simp [hc])
      rw [← List.append_assoc, lastDigits, List.rtakeWhile_concat_pos _ _ _ last,
        ← lastDigits, ih front, List.append_assoc]

theorem lastDigits_of_ends {text ends : List Char} (complete : Complete text)
    (h : ∀ c ∈ ends, isLineEnd c = true) : lastDigits (text ++ ends) = [] := by
  rw [lastDigits, List.rtakeWhile_eq_nil_iff]
  intro notNil digit
  have ended : isLineEnd ((text ++ ends).getLast notNil) = true := by
    by_cases none : ends = []
    · subst none
      simp only [List.append_nil] at notNil ⊢
      have newline := complete.resolve_left notNil
      rw [List.getLast?_eq_getLast_of_ne_nil notNil] at newline
      rw [Option.some.inj newline]
      rfl
    · rw [List.getLast_append_of_ne_nil _ none]
      exact h _ (List.getLast_mem none)
  rw [isLineEnd_of_isDigit digit] at ended
  cases ended

theorem dropPadding_append {digits pad : List Char} (some : digits ≠ [])
    (hdigits : ∀ c ∈ digits, isDigit c = true) (hpad : ∀ c ∈ pad, isPadding c = true)
    (text : List Char) :
    (text ++ digits ++ pad).rdropWhile isPadding = text ++ digits := by
  induction pad using List.reverseRecOn with
  | nil =>
      rw [List.append_nil, List.rdropWhile_eq_self_iff]
      intro notNil padding
      have digit : isDigit ((text ++ digits).getLast notNil) = true := by
        rw [List.getLast_append_of_ne_nil _ some]
        exact hdigits _ (List.getLast_mem some)
      rw [isPadding_of_isDigit digit] at padding
      cases padding
  | append_singleton pad c ih =>
      have last : isPadding c = true := hpad c (by simp)
      have front : ∀ c ∈ pad, isPadding c = true := fun c hc => hpad c (by simp [hc])
      rw [← List.append_assoc, List.rdropWhile_concat_pos _ _ _ last, ih front]

/-! ## What is split off -/

/-- The output consists of complete lines, and only a status comes after it. -/
theorem split_eq_some {text ds out : List Char} (h : split text = some (ds, out)) :
    ∃ tail, text = out ++ tail ∧ Complete out ∧ statusDigits? tail = some ds := by
  unfold split at h
  cases first : statusDigits? text with
  | some found =>
      rw [first] at h
      cases h
      exact ⟨text, rfl, .inl rfl, first⟩
  | none =>
      rw [first] at h
      obtain ⟨inner, tail, rfl, rfl, status⟩ := splitAfter_eq_some h
      exact ⟨tail, by simp, .inr (by simp), status⟩

/-- The status is written by all the digits at the end, but for the blanks after them. -/
theorem digits_of_split {text ds out : List Char} (h : split text = some (ds, out)) :
    ds = lastDigits (text.rdropWhile isPadding) := by
  obtain ⟨tail, rfl, complete, status⟩ := split_eq_some h
  obtain ⟨ends, pad, rfl, hends, some, hds, hpad⟩ := statusDigits?_eq_some.mp status
  have parts : out ++ (ends ++ ds ++ pad) = (out ++ ends) ++ ds ++ pad := by simp
  have front : lastDigits (out ++ ends) = [] := lastDigits_of_ends complete hends
  rw [parts, dropPadding_append some hds hpad, lastDigits_append hds, front, List.nil_append]

theorem parse_value {text out : List Char} {status : Nat} (h : parse text = some (status, out)) :
    (∀ c ∈ lastDigits (text.rdropWhile isPadding), isAsciiDigit c = true) ∧
      status = decimalValue (lastDigits (text.rdropWhile isPadding)) := by
  unfold parse at h
  cases cut : split text with
  | none =>
      rw [cut] at h
      cases h
  | some found =>
      obtain ⟨ds, before⟩ := found
      rw [cut] at h
      simp only [Option.ite_none_right_eq_some, Option.some.injEq, Prod.mk.injEq,
        Bool.and_eq_true, List.all_eq_true] at h
      obtain ⟨⟨ascii, -⟩, value, -⟩ := h
      rw [← digits_of_split cut]
      exact ⟨ascii, value.symm⟩

/-! ## Values -/

theorem foldl_digits (digits : List Char) (n : Nat) :
    digits.foldl (fun n c => n * 10 + digitValue c) n =
      n * 10 ^ digits.length + decimalValue digits := by
  induction digits generalizing n with
  | nil => simp [decimalValue]
  | cons d digits ih =>
      have value : decimalValue (d :: digits) =
          digitValue d * 10 ^ digits.length + decimalValue digits := by
        have start : decimalValue (d :: digits) =
            digits.foldl (fun n c => n * 10 + digitValue c) (digitValue d) := by
          simp [decimalValue]
        rw [start, ih]
      calc (d :: digits).foldl (fun n c => n * 10 + digitValue c) n
          = (n * 10 + digitValue d) * 10 ^ digits.length + decimalValue digits := ih _
        _ = n * 10 ^ (d :: digits).length +
              (digitValue d * 10 ^ digits.length + decimalValue digits) := by
            rw [List.length_cons]
            ring
        _ = n * 10 ^ (d :: digits).length + decimalValue (d :: digits) := by rw [value]

theorem decimalValue_append (front back : List Char) :
    decimalValue (front ++ back) = decimalValue front * 10 ^ back.length + decimalValue back := by
  rw [decimalValue, List.foldl_append, foldl_digits, ← decimalValue]

theorem digitValue_eq_zero {c : Char} (digit : isAsciiDigit c = true) :
    digitValue c = 0 ↔ c = '0' := by
  constructor
  · intro zero
    have least : '0' ≤ c := by
      simp only [isAsciiDigit, Bool.and_eq_true, decide_eq_true_eq] at digit
      exact digit.1
    have most : c ≤ '0' := by
      rw [Char.le_def, UInt32.le_iff_toNat_le]
      have := Nat.sub_eq_zero_iff_le.mp zero
      exact this
    exact Char.le_antisymm most least
  · rintro rfl
    rfl

theorem decimalValue_eq_zero {digits : List Char} (h : ∀ c ∈ digits, isAsciiDigit c = true) :
    decimalValue digits = 0 ↔ ∀ c ∈ digits, c = '0' := by
  induction digits with
  | nil => simp [decimalValue]
  | cons d digits ih =>
      have first := digitValue_eq_zero (h d (by simp))
      have others := ih fun c hc => h c (by simp [hc])
      have scale : 10 ^ digits.length ≠ 0 := by simp
      have value := decimalValue_append [d] digits
      have alone : decimalValue [d] = digitValue d := by simp [decimalValue]
      rw [List.singleton_append, alone] at value
      rw [value, Nat.add_eq_zero_iff, Nat.mul_eq_zero, or_iff_left scale, first, others,
        List.forall_mem_cons]

/-! ## The exit status -/

/-- What is reported for a command that has printed an output and then its exit status is the number
that the last digits of the output make together with those of the status. It is the exit status
exactly if the output ends with no digits, or with zeros only. -/
theorem status_of_parse {output out : List Char} {exit status : Nat}
    (h : parse (output ++ decimal exit ++ ['\n']) = some (status, out)) :
    status = decimalValue (lastDigits output ++ decimal exit) ∧
      (status = exit ↔ ∀ c ∈ lastDigits output, c = '0') := by
  have digits : ∀ c ∈ decimal exit, isDigit c = true :=
    fun c hc => isDigit_of_isAsciiDigit (isAsciiDigit_of_mem_decimal hc)
  have newline : ∀ c ∈ ['\n'], isPadding c = true := List.forall_mem_singleton.mpr rfl
  have last : lastDigits ((output ++ decimal exit ++ ['\n']).rdropWhile isPadding) =
      lastDigits output ++ decimal exit := by
    have some : decimal exit ≠ [] := Nat.toDigits_ne_nil
    rw [dropPadding_append some digits newline, lastDigits_append digits]
  -- the digits of the output come first, so they count by a power of ten
  obtain ⟨ascii, value⟩ := parse_value h
  rw [last] at ascii value
  refine ⟨value, ?_⟩
  have own : ∀ c ∈ lastDigits output, isAsciiDigit c = true :=
    fun c hc => ascii c (List.mem_append_left _ hc)
  have scale : 0 < 10 ^ (decimal exit).length := Nat.pow_pos (by decide)
  rw [value, decimalValue_append, decimalValue_decimal, ← decimalValue_eq_zero own]
  constructor
  · intro same
    have product : decimalValue (lastDigits output) * 10 ^ (decimal exit).length = 0 := by omega
    exact (Nat.mul_eq_zero.mp product).resolve_right (by omega)
  · intro zero
    rw [zero, Nat.zero_mul, Nat.zero_add]

private theorem parse_unfinished :
    parse ("200".toList ++ decimal 0 ++ ['\n']) = some (2000, []) := by
  decide +kernel

theorem status_of_parse_unfinished :
    parse ("200".toList ++ decimal 0 ++ ['\n']) = some (2000, []) ∧
      2000 = decimalValue (lastDigits "200".toList ++ decimal 0) ∧
        (2000 = 0 ↔ ∀ c ∈ lastDigits "200".toList, c = '0') :=
  ⟨parse_unfinished, status_of_parse parse_unfinished⟩

/-- A command that succeeds, having printed `200` and no newline, is taken to fail. -/
theorem status_not_of_unfinished :
    ¬ ∀ (output : List Char) (exit : Nat), exit ≤ 255 →
      parse (output ++ decimal exit ++ ['\n']) = none ∨
        ∃ out, parse (output ++ decimal exit ++ ['\n']) = some (exit, out) := by
  intro always
  obtain none | ⟨out, own⟩ := always "200".toList 0 (by decide)
  · rw [parse_unfinished] at none
    cases none
  · rw [parse_unfinished] at own
    cases own

end SerialConsole.Command
