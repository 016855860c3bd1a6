import Mathlib.Tactic.Ring
import SerialConsole.Proofs.Output.Calls
import SerialConsole.Proofs.Output.Character

/-!
# What a buffer never shows

Whatever a console sends, broken sequences and broken characters included, the only control
characters below the space that come to show are line ends and tabs (`visible_performAll`). A
character that takes more than one byte is never one of them: this is an invariant of the place in
the stream, as its value is known only in part while its bytes come in.
-/

namespace SerialConsole.Output

open Text (Continuation continuationOf)

/-- Not a control character below the space, unless it shapes the text. -/
def Visible (c : Char) : Prop := c = '\n' ∨ c = '\t' ∨ 0x20 ≤ c.toNat

theorem visible_ofNat {n : Nat} (valid : n.isValidChar) (low : 0x20 ≤ n) :
    Visible (Char.ofNat n) := by
  refine .inr (.inr ?_)
  rw [Char.ofNat, dif_pos valid]
  exact low

/-! ## Characters of several bytes -/

def Wide (least bound : Nat) : Prop :=
  0x80 ≤ least ∧ bound ≤ 0xD800 ∨ 0xE000 ≤ least ∧ bound ≤ 0x110000

theorem Wide.mono {least bound least' bound' : Nat} (h : Wide least bound) (low : least ≤ least')
    (high : bound' ≤ bound) : Wide least' bound' := by
  unfold Wide at *
  omega

theorem Wide.visible {n : Nat} (h : Wide n (n + 1)) : Visible (Char.ofNat n) := by
  unfold Wide at h
  have valid : n.isValidChar := by
    unfold Nat.isValidChar
    omega
  exact visible_ofNat valid (by omega)

/-- Whatever bytes are still accepted for a character, they make it a wide one. -/
structure Promising (expected : Continuation) (value : Nat) : Prop where
  low : 0x80 ≤ expected.low.toNat
  high : expected.high.toNat ≤ 0xBF
  wide : Wide ((value * 64 + expected.low.toNat % 64) * 64 ^ (expected.count - 1))
    ((value * 64 + expected.high.toNat % 64 + 1) * 64 ^ (expected.count - 1))

section Promising

variable {byte : UInt8} {expected : Continuation} {value : Nat}

/-- No first byte allows a form that is too long, a surrogate, or a value that is too large. -/
theorem promising_of_continuationOf (h : continuationOf byte = some (expected, value)) :
    Promising expected value := by
  simp only [continuationOf, Bool.and_eq_true, decide_eq_true_eq, UInt8.le_iff_toNat_le,
    ← UInt8.toNat_inj, UInt8.reduceToNat] at h
  -- one case for each kind of first byte; the last has nothing to show
  repeat' split at h
  all_goals cases h
  all_goals
    refine ⟨by decide, by decide, ?_⟩
    simp only [Wide, UInt8.reduceToNat, Nat.reduceSub, Nat.reducePow]
    omega

theorem Promising.last (h : Promising expected value) (last : expected.count ≤ 1)
    (range : between expected.low expected.high byte = true) :
    Visible (Char.ofNat (value * 64 + byte.toNat % 64)) := by
  obtain ⟨above, below⟩ := between_iff.mp range
  have least := h.low
  have greatest := h.high
  have wide := h.wide
  rw [Nat.sub_eq_zero_of_le last, pow_zero, mul_one, mul_one] at wide
  exact (wide.mono (by omega) (by omega)).visible

theorem Promising.further {count : Nat} {low high : UInt8}
    (h : Promising ⟨count + 2, low, high⟩ value) (range : between low high byte = true) :
    Promising ⟨count + 1, 0x80, 0xBF⟩ (value * 64 + byte.toNat % 64) := by
  obtain ⟨above, below⟩ := between_iff.mp range
  have least : 0x80 ≤ low.toNat := h.low
  have greatest : high.toNat ≤ 0xBF := h.high
  have zero : (0x80 : UInt8).toNat % 64 = 0 := rfl
  have most : (0xBF : UInt8).toNat % 64 = 63 := rfl
  have smaller : (value * 64 + low.toNat % 64) * 64 ^ (count + 1) ≤
      ((value * 64 + byte.toNat % 64) * 64 + (0x80 : UInt8).toNat % 64) * 64 ^ count := calc
    _ = (value * 64 + low.toNat % 64) * 64 * 64 ^ count := by ring
    _ ≤ _ := Nat.mul_le_mul_right _ (by omega)
  have larger : ((value * 64 + byte.toNat % 64) * 64 + (0xBF : UInt8).toNat % 64 + 1) * 64 ^ count ≤
      (value * 64 + high.toNat % 64 + 1) * 64 ^ (count + 1) := calc
    _ ≤ (value * 64 + high.toNat % 64 + 1) * 64 * 64 ^ count := Nat.mul_le_mul_right _ (by omega)
    _ = _ := by ring
  exact ⟨le_rfl, le_rfl, h.wide.mono smaller larger⟩

end Promising

/-! ## The invariant -/

/-- A character that has begun is a wide one. -/
def State.Sound : State → Prop
  | .character expected value => Promising expected value
  | _ => True

theorem State.sound_of_whole {state : State}
    (whole : ∀ expected value, state ≠ .character expected value) : state.Sound := by
  cases state with
  | character expected value => exact absurd rfl (whole expected value)
  | _ => trivial

theorem visible_controlEdit {byte : UInt8} {c : Char} (h : controlEdit byte = some (.put c)) :
    Visible c := by
  unfold controlEdit at h
  split at h
  · cases h
    exact .inl rfl
  split at h
  · cases h
    exact .inr (.inl rfl)
  split at h <;> cases h

theorem State.Sound.inCharacter {expected : Continuation} {value : Nat}
    (h : Promising expected value) (byte : UInt8) :
    (State.inCharacter expected value byte).1.Sound ∧
      ∀ c, (State.inCharacter expected value byte).2 = some (.put c) → Visible c := by
  obtain ⟨count, low, high⟩ := expected
  unfold State.inCharacter
  split
  · rename_i range
    match count with
    | 0 =>
      refine ⟨trivial, ?_⟩
      rintro c ⟨⟩
      exact h.last (Nat.zero_le 1) range
    | 1 =>
      refine ⟨trivial, ?_⟩
      rintro c ⟨⟩
      exact h.last le_rfl range
    | count + 2 => exact ⟨h.further range, nofun⟩
  · refine ⟨trivial, ?_⟩
    rintro c ⟨⟩
    exact .inr (.inr (by decide))

theorem State.Sound.next {state : State} (h : state.Sound) (byte : UInt8) :
    (state.next byte).1.Sound ∧ ∀ c, (state.next byte).2 = some (.put c) → Visible c := by
  have step := state.next_step byte
  generalize state.next byte = result at step
  cases step with
  | inside expected value => exact State.Sound.inCharacter h byte
  | printable range =>
    refine ⟨trivial, ?_⟩
    rintro c ⟨⟩
    obtain ⟨low, high⟩ := between_iff.mp range
    exact visible_ofNat (.inl (high.trans_lt (by decide))) low
  | first continues => exact ⟨promising_of_continuationOf continues, nofun⟩
  | other whole control =>
    refine ⟨State.sound_of_whole whole, fun c put => ?_⟩
    obtain rfl | rfl := control
    · cases put
    · exact visible_controlEdit put

theorem Edit.visible_apply {reversed : List Char} {edit : Edit} (h : ∀ c ∈ reversed, Visible c)
    (put : ∀ c, edit = .put c → Visible c) : ∀ c ∈ edit.apply reversed, Visible c := by
  cases edit with
  | put c => exact List.forall_mem_cons.mpr ⟨put c rfl, h⟩
  | erase =>
    cases reversed with
    | nil => exact h
    | cons d rest =>
      simp only [Edit.apply]
      split
      · exact h
      · exact (List.forall_mem_cons.mp h).2

structure Tape.Sound (t : Tape) : Prop where
  state : t.state.Sound
  visible : ∀ c ∈ t.reversed, Visible c

theorem Tape.Sound.feed {t : Tape} (h : t.Sound) (byte : UInt8) : (t.feed byte).Sound := by
  obtain ⟨state, put⟩ := h.state.next byte
  rw [Tape.feed_eq]
  refine ⟨state, ?_⟩
  cases edit : (t.state.next byte).2 with
  | none => exact h.visible
  | some e =>
    rw [edit] at put
    exact Edit.visible_apply h.visible fun c same => put c (congrArg some same)

theorem Tape.Sound.feedAll {t : Tape} (h : t.Sound) (bytes : Bytes) : (t.feedAll bytes).Sound := by
  induction bytes generalizing t with
  | nil => exact h
  | cons byte rest ih => exact ih (h.feed byte)

/-! ## Calls -/

structure Buffer.Sound (b : Buffer) : Prop where
  state : b.state.Sound
  visible : ∀ c ∈ b.pending, Visible c

/-- An answer gives visible text only, and a line no line end. -/
def Answer.Clean : Answer → Prop
  | .line text => (∀ c ∈ text, Visible c) ∧ '\n' ∉ text
  | .matched found => ∀ c ∈ found.before ++ found.matched, Visible c
  | .nothing | .raw _ => True

namespace Buffer

variable {b : Buffer}

theorem Sound.append (h : b.Sound) (bytes : Bytes) : (b.append bytes).Sound := by
  have tape : Tape.Sound ⟨b.state, b.pending.reverse⟩ :=
    ⟨h.state, fun c mem => h.visible c (List.mem_reverse.mp mem)⟩
  have after := tape.feedAll bytes
  exact ⟨after.state, fun c mem => after.visible c (List.mem_reverse.mp mem)⟩

theorem Sound.perform (h : b.Sound) (call : Call) :
    (b.perform call).2.Sound ∧ (b.perform call).1.Clean := by
  have step := b.performs call
  generalize b.perform call = result at step
  cases step with
  | append bytes => exact ⟨h.append bytes, trivial⟩
  | line pending first =>
    have visible := h.visible
    rw [pending] at visible
    refine ⟨⟨h.state, fun c mem => visible c ?_⟩, fun c mem => visible c ?_, first⟩
    · exact List.mem_append_right _ (List.mem_cons_of_mem _ mem)
    · exact List.mem_append_left _ mem
  | matched p pending =>
    have visible := h.visible
    rw [pending] at visible
    refine ⟨⟨h.state, fun c mem => visible c ?_⟩, fun c mem => visible c ?_⟩
    · exact List.mem_append_right _ mem
    · exact List.mem_append_left _ mem
  | raw => exact ⟨⟨h.state, h.visible⟩, trivial⟩
  | nothing none => exact ⟨h, trivial⟩

theorem Sound.performAll (h : b.Sound) (calls : List Call) :
    (b.performAll calls).2.Sound ∧ ∀ answer ∈ (b.performAll calls).1, answer.Clean := by
  induction calls generalizing b with
  | nil => exact ⟨h, nofun⟩
  | cons call rest ih =>
    obtain ⟨sound, clean⟩ := h.perform call
    obtain ⟨sound', others⟩ := ih sound
    rw [performAll_cons]
    exact ⟨sound', List.forall_mem_cons.mpr ⟨clean, others⟩⟩

end Buffer

/-- Whatever bytes come and in whatever order they are taken, the pending text, the lines and the
matches hold no control characters below the space but line ends and tabs, and the lines hold no
line ends. -/
theorem visible_performAll (calls : List Call) :
    (∀ c ∈ (Buffer.performAll {} calls).2.pending, Visible c) ∧
      ∀ answer ∈ (Buffer.performAll {} calls).1, answer.Clean := by
  have new : Buffer.Sound {} := ⟨trivial, nofun⟩
  obtain ⟨sound, clean⟩ := new.performAll calls
  exact ⟨sound.visible, clean⟩

/-- A return in the middle of a character, a surrogate, and a bell in a sequence. -/
example : (Buffer.append {} [0xE2, 0x0D, 0x61, 0xED, 0xA0, 0x80, 0x1B, 0x5B, 0x07, 0x0A, 0x6D,
    0x62]).pending = "\uFFFDa\uFFFD\nb".toList := by
  decide +kernel

end SerialConsole.Output
