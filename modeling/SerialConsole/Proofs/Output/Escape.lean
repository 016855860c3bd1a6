import SerialConsole.Output.Escape

/-!
# Bytes of a stream

What a single byte can do in each place of a stream (`State.next_step`), and that what it does to
the text is done at its end: no edit reaches below a line end, and only the erasure of a character
reaches below anything (`Tape.feedAll_append_below`).
-/

namespace SerialConsole.Output

open Text (Continuation continuationOf)

/-! ## Ranges of bytes -/

theorem between_iff {low high byte : UInt8} :
    between low high byte = true ↔ low.toNat ≤ byte.toNat ∧ byte.toNat ≤ high.toNat := by
  simp only [between, Bool.and_eq_true, decide_eq_true_eq, UInt8.le_iff_toNat_le]

theorem isControl_of_le {byte : UInt8} (h : 0x20 ≤ byte.toNat) : isControl byte = false := by
  simp only [isControl, Bool.or_eq_false_iff, Bool.and_eq_false_iff, decide_eq_false_iff_not,
    UInt8.le_iff_toNat_le, ← UInt8.toNat_inj]
  have : (0x17 : UInt8).toNat = 0x17 := rfl
  have : (0x19 : UInt8).toNat = 0x19 := rfl
  have : (0x1F : UInt8).toNat = 0x1F := rfl
  omega

/-! ## The ways a byte can go -/

/-- What one byte does in a place of the stream: the place after it, and the edit. -/
inductive State.Step (byte : UInt8) : State → State × Option Edit → Prop
  | inside (expected : Continuation) (value : Nat) :
      Step byte (.character expected value) (inCharacter expected value byte)
  | printable (range : between 0x20 0x7F byte = true) :
      Step byte .ground (.ground, some (.put (Char.ofNat byte.toNat)))
  | first {expected : Continuation} {value : Nat}
      (continues : continuationOf byte = some (expected, value)) :
      Step byte .ground (.character expected value, none)
  | other {state state' : State} {edit : Option Edit}
      (whole : ∀ expected value, state' ≠ .character expected value)
      (control : edit = none ∨ edit = controlEdit byte) : Step byte state (state', edit)

namespace State

variable {state : State} {byte : UInt8}

theorem afterByte_whole (whole : ∀ expected value, state ≠ .character expected value)
    (expected : Continuation) (value : Nat) :
    state.afterByte byte ≠ .character expected value := by
  cases state with
  | character expected value => exact absurd rfl (whole expected value)
  | _ => grind [afterByte]

theorem onGround_step (byte : UInt8) : Step byte .ground (onGround byte) := by
  unfold onGround
  split
  · exact .other nofun (.inr rfl)
  split
  · exact .printable ‹_›
  split
  · exact .first ‹_›
  · exact .other nofun (.inl rfl)

theorem next_step (state : State) (byte : UInt8) : Step byte state (state.next byte) := by
  unfold next
  split
  · exact .inside _ _
  have whole : ∀ expected value, state ≠ .character expected value := ‹_›
  split
  · exact .other nofun (.inl rfl)
  split
  · exact .other nofun (.inl rfl)
  split
  · subst state
    exact onGround_step byte
  split
  · exact .other whole (.inr rfl)
  · exact .other (afterByte_whole whole) (.inl rfl)

theorem next_erase (h : (state.next byte).2 = some .erase) : byte = 0x08 := by
  have step := next_step state byte
  generalize state.next byte = result at h step
  cases step with
  | inside expected value =>
    unfold inCharacter at h
    grind
  | printable range => cases h
  | first continues => cases h
  | other whole control =>
    change _ = some Edit.erase at h
    unfold controlEdit at control
    grind

end State

/-! ## Edits and bytes -/

def Edit.Spares (below : List Char) (e : Edit) : Prop :=
  ∀ reversed, e.apply (reversed ++ below) = e.apply reversed ++ below

theorem Edit.spares_put (below : List Char) (c : Char) : (Edit.put c).Spares below := fun _ => rfl

theorem Edit.spares_of_ended {below : List Char} (h : below = [] ∨ below.head? = some '\n')
    (e : Edit) : e.Spares below := by
  intro reversed
  cases e with
  | put c => rfl
  | erase =>
    cases reversed with
    | cons c rest =>
      by_cases hc : c = '\n' <;> simp [Edit.apply, hc]
    | nil =>
      cases below with
      | nil => rfl
      | cons c rest =>
        have hc : c = '\n' := by simpa using h
        simp [Edit.apply, hc]

theorem Tape.feed_eq (t : Tape) (byte : UInt8) :
    t.feed byte =
      ⟨(t.state.next byte).1, (t.state.next byte).2.elim t.reversed (Edit.apply t.reversed)⟩ := rfl

theorem Tape.feed_append {below : List Char} {t : Tape} {byte : UInt8}
    (h : ∀ e, (t.state.next byte).2 = some e → e.Spares below) :
    Tape.feed ⟨t.state, t.reversed ++ below⟩ byte =
      ⟨(t.feed byte).state, (t.feed byte).reversed ++ below⟩ := by
  rw [feed_eq, feed_eq]
  cases edit : (t.state.next byte).2 with
  | none => rfl
  | some e => rw [Option.elim_some, Option.elim_some, h e edit t.reversed]

theorem Tape.feedAll_append_below {below : List Char} {bytes : Bytes}
    (h : ∀ byte ∈ bytes, ∀ (state : State) e, (state.next byte).2 = some e → e.Spares below)
    (t : Tape) :
    Tape.feedAll ⟨t.state, t.reversed ++ below⟩ bytes =
      ⟨(t.feedAll bytes).state, (t.feedAll bytes).reversed ++ below⟩ := by
  induction bytes generalizing t with
  | nil => rfl
  | cons byte rest ih =>
    have first := Tape.feed_append fun e => h byte (by simp) t.state e
    have others := ih (fun b hb => h b (by simp [hb])) (t.feed byte)
    rw [feedAll, List.foldl_cons, first]
    exact others

end SerialConsole.Output
