import SerialConsole.Proofs.Output.Escape

/-!
# Characters in a stream

Outside all sequences, the UTF-8 form of a character is one character of the text (`feedAll_utf8`).
The form may have up to four bytes: the first tells how many follow, and which values the second may
have, so that every character has one form only.
-/

namespace SerialConsole.Output

open Text (Continuation continuationOf)

theorem toNat_ofNat_byte {n : Nat} (h : n < 256) : (UInt8.ofNat n).toNat = n :=
  UInt8.toNat_ofNat_of_lt' h

/-! ## First bytes -/

section First

variable (byte : UInt8)

theorem continuationOf_two (low : 0xC2 ≤ byte.toNat) (high : byte.toNat ≤ 0xDF) :
    continuationOf byte = some (⟨1, 0x80, 0xBF⟩, byte.toNat % 32) := by
  have range : (0xC2 ≤ byte && byte ≤ 0xDF) = true := by
    simp only [Bool.and_eq_true, decide_eq_true_eq, UInt8.le_iff_toNat_le]
    exact ⟨low, high⟩
  rw [continuationOf, if_pos range]

/-- The second byte must not continue a form that could be shorter, nor one of a surrogate. -/
theorem continuationOf_three (low : 0xE0 ≤ byte.toNat) (high : byte.toNat ≤ 0xEF) :
    continuationOf byte = some (⟨2, if byte.toNat = 0xE0 then 0xA0 else 0x80,
      if byte.toNat = 0xED then 0x9F else 0xBF⟩, byte.toNat % 16) := by
  simp only [continuationOf, Bool.and_eq_true, decide_eq_true_eq, UInt8.le_iff_toNat_le,
    ← UInt8.toNat_inj]
  grind

theorem continuationOf_four (low : 0xF0 ≤ byte.toNat) (high : byte.toNat ≤ 0xF4) :
    continuationOf byte = some (⟨3, if byte.toNat = 0xF0 then 0x90 else 0x80,
      if byte.toNat = 0xF4 then 0x8F else 0xBF⟩, byte.toNat % 8) := by
  simp only [continuationOf, Bool.and_eq_true, decide_eq_true_eq, UInt8.le_iff_toNat_le,
    ← UInt8.toNat_inj]
  grind

end First

namespace State

variable {byte : UInt8} {expected : Continuation} {value : Nat}

/-- Outside all sequences, only three bytes do not go the way of all others. -/
theorem next_ground (h : byte.toNat ≠ 0x1B) (h' : byte.toNat ≠ 0x18) (h'' : byte.toNat ≠ 0x1A) :
    State.ground.next byte = onGround byte := by
  have escape : byte ≠ 0x1B := fun same => h (by rw [same]; rfl)
  have cancel : byte ≠ 0x18 := fun same => h' (by rw [same]; rfl)
  have substitute : byte ≠ 0x1A := fun same => h'' (by rw [same]; rfl)
  simp [next, escape, cancel, substitute]

theorem next_printable (low : 0x20 ≤ byte.toNat) (high : byte.toNat ≤ 0x7F) :
    State.ground.next byte = (.ground, some (.put (Char.ofNat byte.toNat))) := by
  have range : between 0x20 0x7F byte = true := between_iff.mpr ⟨low, high⟩
  rw [next_ground (by omega) (by omega) (by omega), onGround, isControl_of_le low,
    if_neg Bool.false_ne_true, if_pos range]

theorem next_first (high : 0x80 ≤ byte.toNat)
    (continues : continuationOf byte = some (expected, value)) :
    State.ground.next byte = (.character expected value, none) := by
  have above : ¬ between 0x20 0x7F byte = true := by
    rw [between_iff]
    have : (0x7F : UInt8).toNat = 0x7F := rfl
    omega
  rw [next_ground (by omega) (by omega) (by omega), onGround, isControl_of_le (by omega),
    if_neg Bool.false_ne_true, if_neg above, continues]

theorem next_further {count : Nat} (range : between expected.low expected.high byte = true)
    (more : expected.count = count + 2) :
    (State.character expected value).next byte =
      (.character ⟨count + 1, 0x80, 0xBF⟩ (value * 64 + byte.toNat % 64), none) := by
  rw [next, inCharacter, if_pos range, more, if_neg (by omega)]
  rfl

theorem next_last (range : between expected.low expected.high byte = true)
    (last : expected.count = 1) :
    (State.character expected value).next byte =
      (.ground, some (.put (Char.ofNat (value * 64 + byte.toNat % 64)))) := by
  rw [next, inCharacter, if_pos range, last]
  rfl

end State

/-- A byte that carries six bits of a number may come anywhere but after the first byte. -/
theorem tail_range (bits : Nat) :
    (0x80 : UInt8).toNat ≤ bits % 64 + 128 ∧ bits % 64 + 128 ≤ (0xBF : UInt8).toNat := by
  change 0x80 ≤ _ ∧ _ ≤ 0xBF
  omega

/-! ## Whole characters -/

namespace Tape

variable {reversed : List Char}

theorem feed_of_next {state state' : State} {byte : UInt8} {edit : Option Edit}
    (h : state.next byte = (state', edit)) :
    feed ⟨state, reversed⟩ byte = ⟨state', edit.elim reversed (Edit.apply reversed)⟩ := by
  rw [feed_eq, h]

section Tail

variable {low high : UInt8} {value bits : Nat}
  (range : low.toNat ≤ bits % 64 + 128 ∧ bits % 64 + 128 ≤ high.toNat)

include range

theorem feed_further (count : Nat) :
    feed ⟨.character ⟨count + 2, low, high⟩ value, reversed⟩ (UInt8.ofNat (bits % 64 + 128)) =
      ⟨.character ⟨count + 1, 0x80, 0xBF⟩ (value * 64 + bits % 64), reversed⟩ := by
  have number : (UInt8.ofNat (bits % 64 + 128)).toNat = bits % 64 + 128 :=
    toNat_ofNat_byte (by omega)
  have within : between low high (UInt8.ofNat (bits % 64 + 128)) = true := by
    rw [between_iff, number]
    exact range
  have step : (State.character ⟨count + 2, low, high⟩ value).next _ = _ :=
    State.next_further within rfl
  rw [feed_of_next step, number]
  congr 2
  omega

theorem feed_last :
    feed ⟨.character ⟨1, low, high⟩ value, reversed⟩ (UInt8.ofNat (bits % 64 + 128)) =
      ⟨.ground, Char.ofNat (value * 64 + bits % 64) :: reversed⟩ := by
  have number : (UInt8.ofNat (bits % 64 + 128)).toNat = bits % 64 + 128 :=
    toNat_ofNat_byte (by omega)
  have within : between low high (UInt8.ofNat (bits % 64 + 128)) = true := by
    rw [between_iff, number]
    exact range
  have step : (State.character ⟨1, low, high⟩ value).next _ = _ := State.next_last within rfl
  have sum : value * 64 + (bits % 64 + 128) % 64 = value * 64 + bits % 64 := by omega
  rw [feed_of_next step, number, sum]
  rfl

end Tail

theorem feed_first {first : Nat} {expected : Continuation} {value : Nat} (low : 0x80 ≤ first)
    (high : first < 256)
    (continues : continuationOf (UInt8.ofNat first) = some (expected, value)) :
    feed ⟨.ground, reversed⟩ (UInt8.ofNat first) = ⟨.character expected value, reversed⟩ := by
  have number := toNat_ofNat_byte high
  exact feed_of_next (State.next_first (by omega) continues)

theorem feedAll_two {n : Nat} (low : 0x80 ≤ n) (high : n ≤ 0x7FF) :
    feedAll ⟨.ground, reversed⟩ [UInt8.ofNat (n / 64 % 32 + 192), UInt8.ofNat (n % 64 + 128)] =
      ⟨.ground, Char.ofNat n :: reversed⟩ := by
  have number := toNat_ofNat_byte (n := n / 64 % 32 + 192) (by omega)
  have first := continuationOf_two (UInt8.ofNat (n / 64 % 32 + 192)) (by omega) (by omega)
  have range := tail_range n
  have whole : (n / 64 % 32 + 192) % 32 * 64 + n % 64 = n := by omega
  rw [number] at first
  rw [feedAll, List.foldl_cons, feed_first (by omega) (by omega) first, List.foldl_cons,
    feed_last range, whole]
  rfl

theorem feedAll_three {n : Nat} (low : 0x800 ≤ n) (high : n ≤ 0xFFFF)
    (scalar : n < 0xD800 ∨ 0xDFFF < n) :
    feedAll ⟨.ground, reversed⟩ [UInt8.ofNat (n / 4096 % 16 + 224),
        UInt8.ofNat (n / 64 % 64 + 128), UInt8.ofNat (n % 64 + 128)] =
      ⟨.ground, Char.ofNat n :: reversed⟩ := by
  have number := toNat_ofNat_byte (n := n / 4096 % 16 + 224) (by omega)
  have first := continuationOf_three (UInt8.ofNat (n / 4096 % 16 + 224)) (by omega)
    (by omega)
  rw [number] at first
  have second : (if n / 4096 % 16 + 224 = 0xE0 then (0xA0 : UInt8) else 0x80).toNat ≤
        n / 64 % 64 + 128 ∧
      n / 64 % 64 + 128 ≤ (if n / 4096 % 16 + 224 = 0xED then (0x9F : UInt8) else 0xBF).toNat := by
    constructor
    · split
      · change 0xA0 ≤ _
        omega
      · change 0x80 ≤ _
        omega
    · split
      · change _ ≤ 0x9F
        omega
      · change _ ≤ 0xBF
        omega
  have last := tail_range n
  have whole : ((n / 4096 % 16 + 224) % 16 * 64 + n / 64 % 64) * 64 + n % 64 = n := by omega
  rw [feedAll, List.foldl_cons, feed_first (by omega) (by omega) first, List.foldl_cons,
    feed_further second, List.foldl_cons, feed_last last, whole]
  rfl

theorem feedAll_four {n : Nat} (low : 0x10000 ≤ n) (high : n < 0x110000) :
    feedAll ⟨.ground, reversed⟩ [UInt8.ofNat (n / 262144 % 8 + 240),
        UInt8.ofNat (n / 4096 % 64 + 128), UInt8.ofNat (n / 64 % 64 + 128),
        UInt8.ofNat (n % 64 + 128)] =
      ⟨.ground, Char.ofNat n :: reversed⟩ := by
  have number := toNat_ofNat_byte (n := n / 262144 % 8 + 240) (by omega)
  have first := continuationOf_four (UInt8.ofNat (n / 262144 % 8 + 240)) (by omega)
    (by omega)
  rw [number] at first
  have second : (if n / 262144 % 8 + 240 = 0xF0 then (0x90 : UInt8) else 0x80).toNat ≤
        n / 4096 % 64 + 128 ∧
      n / 4096 % 64 + 128 ≤
        (if n / 262144 % 8 + 240 = 0xF4 then (0x8F : UInt8) else 0xBF).toNat := by
    constructor
    · split
      · change 0x90 ≤ _
        omega
      · change 0x80 ≤ _
        omega
    · split
      · change _ ≤ 0x8F
        omega
      · change _ ≤ 0xBF
        omega
  have third := tail_range (n / 64)
  have last := tail_range n
  have whole :
      (((n / 262144 % 8 + 240) % 8 * 64 + n / 4096 % 64) * 64 + n / 64 % 64) * 64 + n % 64 =
      n := by omega
  rw [feedAll, List.foldl_cons, feed_first (by omega) (by omega) first, List.foldl_cons,
    feed_further second, List.foldl_cons, feed_further third, List.foldl_cons, feed_last last,
    whole]
  rfl

/-- Every character that takes more than one byte is read from them. -/
theorem feedAll_utf8 {c : Char} (long : 0x80 ≤ c.toNat) :
    feedAll ⟨.ground, reversed⟩ (String.utf8EncodeChar c) = ⟨.ground, c :: reversed⟩ := by
  have scalar : c.toNat < 0xD800 ∨ 0xDFFF < c.toNat ∧ c.toNat < 0x110000 := c.valid
  have same : Tape.mk .ground (Char.ofNat c.toNat :: reversed) = ⟨.ground, c :: reversed⟩ := by
    rw [Char.ofNat_toNat]
  have one : ¬ c.toNat ≤ 0x7F := by omega
  unfold String.utf8EncodeChar
  rw [if_neg (show ¬ c.val.toNat ≤ 0x7F from one)]
  by_cases two : c.toNat ≤ 0x7FF
  · rw [if_pos (show c.val.toNat ≤ 0x7FF from two)]
    exact (feedAll_two long two).trans same
  rw [if_neg (show ¬ c.val.toNat ≤ 0x7FF from two)]
  by_cases three : c.toNat ≤ 0xFFFF
  · rw [if_pos (show c.val.toNat ≤ 0xFFFF from three)]
    exact (feedAll_three (by omega) three (by omega)).trans same
  rw [if_neg (show ¬ c.val.toNat ≤ 0xFFFF from three)]
  exact (feedAll_four (n := c.toNat) (by omega) (by omega)).trans same

end Tape

end SerialConsole.Output
