import SerialConsole.Mark
import SerialConsole.Proofs.Text.Blank

/-!
# Marks

What a mark is made of, and how a line is classified by whether it holds the mark: a line that ends
an operation holds it, so the lines that are neither ends nor echoes are exactly those without it.
-/

namespace SerialConsole

theorem Text.occursIn_iff {part text : List Char} :
    Text.occursIn part text = true ↔ part <:+: text := by
  induction text with
  | nil => simp [Text.occursIn]
  | cons c rest ih => simp [Text.occursIn, List.infix_cons_iff, ih]

namespace Mark

variable {m : Mark} {line : List Char}

private theorem mem_hexDigits {count n : Nat} {c : Char} (h : c ∈ hexDigits count n) :
    ∃ d < 16, c = Nat.digitChar d := by
  induction count generalizing n with
  | zero => simp [hexDigits] at h
  | succ count ih =>
      rw [hexDigits, List.mem_append, List.mem_singleton] at h
      obtain front | last := h
      · exact ih front
      · exact ⟨n % 16, Nat.mod_lt _ (by decide), last⟩

private theorem length_hexDigits (count n : Nat) : (hexDigits count n).length = count := by
  induction count generalizing n with
  | zero => rfl
  | succ count ih => simp [hexDigits, ih]

theorem mem_text {c : Char} (h : c ∈ m.text) : c = '=' ∨ ∃ d < 16, c = Nat.digitChar d := by
  simp only [text, fence, List.mem_append, List.mem_replicate] at h
  obtain (⟨-, sign⟩ | digit) | ⟨-, sign⟩ := h
  · exact .inl sign
  · exact .inr (mem_hexDigits digit)
  · exact .inl sign

theorem length_text (m : Mark) : m.text.length = 64 := by
  simp [text, fence, digits, digitCount, length_hexDigits]

theorem text_ne_nil (m : Mark) : m.text ≠ [] := by
  intro h
  have := m.length_text
  simp [h] at this

theorem count_text (m : Mark) : 16 ≤ m.text.count '=' := by
  have front : fence <+: m.text := by
    rw [text, List.append_assoc]
    exact List.prefix_append _ _
  exact front.sublist.count_le '='

theorem not_infix_of_count (h : line.count '=' < 16) : ¬ m.text <:+: line := by
  intro found
  have more := m.count_text.trans (found.sublist.count_le '=')
  omega

theorem newline_not_mem_text (m : Mark) : '\n' ∉ m.text := by
  intro h
  obtain sign | ⟨d, hd, digit⟩ := mem_text h
  · simp at sign
  · have none : ∀ d < 16, '\n' ≠ Nat.digitChar d := by decide
    exact none d hd digit

theorem solid_text (m : Mark) : Text.Solid m.text := by
  intro c h
  obtain rfl | ⟨d, hd, rfl⟩ := mem_text h
  · decide
  · have none : ∀ d < 16, Text.isBlank (Nat.digitChar d) = false := by decide
    exact none d hd

theorem terminates_around {before after : List Char} (hbefore : Text.Blank before)
    (hafter : Text.Blank after) : m.terminates (before ++ m.text ++ after) = true := by
  rw [terminates, Text.trim_around hbefore m.solid_text hafter]
  exact beq_self_eq_true _

theorem terminates_text (m : Mark) : m.terminates m.text = true := by
  simpa using terminates_around (List.forall_mem_nil _) (List.forall_mem_nil _)

theorem infix_of_terminates (h : m.terminates line = true) : m.text <:+: line := by
  have same : Text.trim line = m.text := by simpa [terminates] using h
  exact same ▸ Text.trim_infix line

def absentFrom (m : Mark) (line : List Char) : Bool := !Text.occursIn m.text line

theorem absentFrom_iff : m.absentFrom line = true ↔ ¬ m.text <:+: line := by
  rw [absentFrom, Bool.not_eq_true', ← Text.occursIn_iff, Bool.not_eq_true]

/-! ## Classes of lines -/

theorem classify_eq_terminator : m.classify line = .terminator ↔ m.terminates line = true := by
  unfold classify
  by_cases h : m.terminates line = true
  · simp [h]
  · by_cases echo : m.echoedIn line = true <;> simp [h, echo]

theorem classify_eq_echo :
    m.classify line = .echo ↔ m.text <:+: line ∧ m.terminates line = false := by
  unfold classify
  cases h : m.terminates line with
  | true => simp
  | false =>
    have echo : m.echoedIn line = true ↔ m.text <:+: line := by
      simp [echoedIn, h, Text.occursIn_iff]
    by_cases found : m.echoedIn line = true
    · simp [found, echo.mp found]
    · simp [found, mt echo.mpr found]

theorem classify_eq_content : m.classify line = .content ↔ ¬ m.text <:+: line := by
  cases h : m.classify line with
  | terminator => simp [infix_of_terminates (classify_eq_terminator.mp h)]
  | echo => simp [(classify_eq_echo.mp h).1]
  | content =>
    have notEcho : m.classify line ≠ .echo := by simp [h]
    have notLast : m.classify line ≠ .terminator := by simp [h]
    rw [ne_eq, classify_eq_terminator] at notLast
    rw [ne_eq, classify_eq_echo] at notEcho
    simp only [true_iff]
    exact fun found => notEcho ⟨found, by simpa using notLast⟩

end Mark

end SerialConsole
