import SerialConsole.Output.Buffer
import SerialConsole.Proofs.Output.Escape
import SerialConsole.Proofs.Text.Lines

/-!
# Output buffers

Bytes may come in any portions (`append_append`), and complete lines in front of the pending text
are out of reach of whatever comes after them (`append_below`): no byte changes a line that has been
ended. So it makes no difference whether lines have been taken before or are still there.
-/

namespace SerialConsole.Output

open Text (Complete)

namespace Buffer

/-! ## Appending -/

theorem append_append (b : Buffer) (first second : Bytes) :
    (b.append first).append second = b.append (first ++ second) := by
  simp [append, Tape.feedAll_append]

theorem append_nil (b : Buffer) : b.append [] = b := by
  simp [append, Tape.feedAll]

theorem foldl_append (b : Buffer) (portions : List Bytes) :
    portions.foldl append b = b.append portions.flatten := by
  induction portions generalizing b with
  | nil => exact (append_nil b).symm
  | cons bytes rest ih => rw [List.foldl_cons, ih, append_append, List.flatten_cons]

theorem append_spared {b c : Buffer} {below : List Char} {bytes : Bytes}
    (spared : ∀ byte ∈ bytes, ∀ (state : State) e, (state.next byte).2 = some e →
      e.Spares below.reverse)
    (state : c.state = b.state) (pending : c.pending = below ++ b.pending) :
    (c.append bytes).state = (b.append bytes).state ∧
      (c.append bytes).pending = below ++ (b.append bytes).pending := by
  have fed := Tape.feedAll_append_below spared ⟨b.state, b.pending.reverse⟩
  simp only [append, state, pending, List.reverse_append, fed]
  simp

theorem append_below {b c : Buffer} {below : List Char} (complete : Complete below)
    (state : c.state = b.state) (pending : c.pending = below ++ b.pending) (bytes : Bytes) :
    (c.append bytes).state = (b.append bytes).state ∧
      (c.append bytes).pending = below ++ (b.append bytes).pending := by
  have bottom : below.reverse = [] ∨ below.reverse.head? = some '\n' := by
    rw [List.head?_reverse, List.reverse_eq_nil_iff]
    exact complete
  exact append_spared (fun _ _ _ e _ => Edit.spares_of_ended bottom e) state pending

/-! ## Taking lines -/

theorem takeLine_of_line {b : Buffer} {line rest : List Char}
    (h : b.pending = line ++ '\n' :: rest) (first : '\n' ∉ line) :
    b.takeLine = some (line, { b with pending := rest }) := by
  rw [takeLine, h, Text.dropWhile_line first, Text.takeWhile_line first]

theorem takeLine_of_unended {b : Buffer} (h : '\n' ∉ b.pending) : b.takeLine = none := by
  rw [takeLine, Text.dropWhile_unended h]

theorem takeLine_eq_some {b b' : Buffer} {line : List Char}
    (h : b.takeLine = some (line, b')) :
    b.pending = line ++ '\n' :: b'.pending ∧ '\n' ∉ line ∧
      b' = { b with pending := b'.pending } := by
  obtain unended | ⟨line', rest, split, first⟩ := Text.exists_line b.pending
  · rw [takeLine_of_unended unended] at h
    cases h
  · rw [takeLine_of_line split first] at h
    cases h
    exact ⟨split, first, rfl⟩

theorem takeLine_eq_none {b : Buffer} : b.takeLine = none ↔ '\n' ∉ b.pending := by
  refine ⟨fun h => ?_, takeLine_of_unended⟩
  obtain unended | ⟨line, rest, split, first⟩ := Text.exists_line b.pending
  · exact unended
  · rw [takeLine_of_line split first] at h
    cases h

/-! ## Taking matches -/

theorem takeMatch_eq_some {b b' : Buffer} {p : Pattern} {found : Pattern.Found}
    (h : b.takeMatch p = some (found, b')) :
    b.pending = found.before ++ found.matched ++ b'.pending ∧
      b' = { b with pending := b'.pending } := by
  simp only [takeMatch, Pattern.split, Option.map_map, Option.map_eq_some_iff] at h
  obtain ⟨span, -, h⟩ := h
  cases h
  refine ⟨?_, rfl⟩
  change b.pending = b.pending.take span.skipped ++
    (b.pending.drop span.skipped).take span.length ++ b.pending.drop (span.skipped + span.length)
  rw [List.append_assoc, ← List.drop_drop, List.take_append_drop, List.take_append_drop]

theorem takeMatch_ne_none {b : Buffer} {p : Pattern} :
    b.takeMatch p ≠ none ↔ p.find b.pending ≠ none := by
  simp [takeMatch, Pattern.split]

end Buffer

end SerialConsole.Output
