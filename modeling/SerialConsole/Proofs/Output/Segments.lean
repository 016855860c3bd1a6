import SerialConsole.Proofs.Output.Buffer
import SerialConsole.Proofs.Output.Character

/-!
# What shows of a stream

A console sends text with control sequences and commands for the terminal between. Of all that only
the text shows, without its carriage returns, however the stream is cut into portions
(`pending_of_segments`).
-/

namespace SerialConsole.Output

/-! ## Well-formed streams -/

/-- A character of plain text: none of the controls but line ends, tabs and carriage returns. -/
def Plain (c : Char) : Prop :=
  c = '\n' ∨ c = '\t' ∨ c = '\r' ∨ 0x20 ≤ c.toNat ∧ c.toNat ≠ 0x7F

def Inert (byte : UInt8) : Prop := byte ≠ 0x07 ∧ byte ≠ 0x18 ∧ byte ≠ 0x1A ∧ byte ≠ 0x1B

instance : DecidablePred Inert := fun byte =>
  inferInstanceAs (Decidable (byte ≠ 0x07 ∧ byte ≠ 0x18 ∧ byte ≠ 0x1A ∧ byte ≠ 0x1B))

/-- The end of a command for the terminal. -/
inductive Ending where
  | bell
  | escape
  deriving DecidableEq, Repr

def Ending.bytes : Ending → Bytes
  | .bell => [0x07]
  | .escape => [0x1B, 0x5C]

/-- A piece of a well-formed stream. -/
inductive Segment where
  | text (chars : List Char) (plain : ∀ c ∈ chars, Plain c)
  | control (parameters : Bytes) (last : UInt8)
      (inner : ∀ byte ∈ parameters, between 0x20 0x3F byte = true)
      (final : between 0x40 0x7E last = true)
  | command (data : Bytes) (ending : Ending) (inert : ∀ byte ∈ data, Inert byte)

/-- What a console sends for a piece. -/
def Segment.bytes : Segment → Bytes
  | .text chars _ => Text.encode chars
  | .control parameters last _ _ => 0x1B :: 0x5B :: (parameters ++ [last])
  | .command data ending _ => 0x1B :: 0x5D :: (data ++ ending.bytes)

/-- What shows of a piece. -/
def Segment.shown : Segment → List Char
  | .text chars _ => chars.filter (· ≠ '\r')
  | .control .. | .command .. => []

/-! ## Bytes that begin and end outside all sequences -/

/-- From outside all sequences these bytes add this to the text and lead outside again. -/
def Shows (bytes : Bytes) (text : List Char) : Prop :=
  ∀ reversed, Tape.feedAll ⟨.ground, reversed⟩ bytes = ⟨.ground, text.reverse ++ reversed⟩

theorem shows_nil : Shows [] [] := fun _ => rfl

theorem Shows.append {a b : Bytes} {s t : List Char} (first : Shows a s) (second : Shows b t) :
    Shows (a ++ b) (s ++ t) := by
  intro reversed
  rw [Tape.feedAll_append, first, second, List.reverse_append, List.append_assoc]

/-! ### Text -/

theorem shows_char {c : Char} (plain : Plain c) :
    Shows (String.utf8EncodeChar c) ([c].filter (· ≠ '\r')) := by
  intro reversed
  obtain rfl | rfl | rfl | ⟨low, notDelete⟩ := plain
  · rfl
  · rfl
  · rfl
  have kept : [c].filter (· ≠ '\r') = [c] := by
    have visible : c ≠ '\r' := by
      rintro rfl
      exact absurd low (by decide)
    simp [visible]
  rw [kept]
  by_cases short : c.toNat ≤ 0x7F
  · have number := toNat_ofNat_byte (n := c.toNat) (by omega)
    have step := State.next_printable (by omega) (number.trans_le short)
    rw [number, Char.ofNat_toNat] at step
    have alone : String.utf8EncodeChar c = [UInt8.ofNat c.toNat] := by
      unfold String.utf8EncodeChar
      exact if_pos short
    rw [alone]
    exact Tape.feed_of_next step
  · exact Tape.feedAll_utf8 (by omega)

theorem shows_text {chars : List Char} (plain : ∀ c ∈ chars, Plain c) :
    Shows (Text.encode chars) (chars.filter (· ≠ '\r')) := by
  induction chars with
  | nil => exact shows_nil
  | cons c rest ih =>
    have first := shows_char (plain c (by simp))
    have others := ih fun d hd => plain d (by simp [hd])
    have encoded : Text.encode (c :: rest) = String.utf8EncodeChar c ++ Text.encode rest :=
      List.flatMap_cons
    rw [encoded, ← List.singleton_append, List.filter_append]
    exact first.append others

/-! ### Control sequences -/

namespace State

variable {state : State} {byte : UInt8}

theorem next_inside (outside : state ≠ .ground) (whole : ∀ e v, state ≠ .character e v)
    (low : 0x20 ≤ byte.toNat) : state.next byte = (state.afterByte byte, none) := by
  have escape : byte ≠ 0x1B := fun same => absurd low (by rw [same]; decide)
  have cancel : (byte = 0x18 || byte = 0x1A) = false := by
    have first : byte ≠ 0x18 := fun same => absurd low (by rw [same]; decide)
    have second : byte ≠ 0x1A := fun same => absurd low (by rw [same]; decide)
    simp [first, second]
  unfold next
  split
  · exact absurd rfl (whole _ _)
  · rw [if_neg escape, cancel, if_neg Bool.false_ne_true, if_neg outside, isControl_of_le low,
      Bool.and_false, if_neg Bool.false_ne_true]

/-- Inside a control sequence. -/
inductive InControl : State → Prop
  | entry : InControl .controlEntry
  | parameters : InControl .controlParameters
  | intermediate : InControl .controlIntermediate
  | ignored : InControl .controlIgnored

theorem InControl.next_eq (h : InControl state) (low : 0x20 ≤ byte.toNat) :
    state.next byte = (state.afterByte byte, none) := by
  cases h <;> exact next_inside nofun nofun low

/-- Parameters and intermediate bytes stay inside, in whatever order they come. -/
theorem InControl.afterByte (h : InControl state) (range : between 0x20 0x3F byte = true) :
    InControl (state.afterByte byte) := by
  obtain ⟨low, high⟩ := between_iff.mp range
  have below : between 0x40 0x7E byte = false := by
    rw [← Bool.not_eq_true, between_iff]
    exact fun above => absurd (above.1.trans high) (by decide)
  have parameter (h : ¬ between 0x20 0x2F byte = true) : between 0x30 0x3F byte = true := by
    rw [between_iff] at h ⊢
    change ¬ (0x20 ≤ byte.toNat ∧ byte.toNat ≤ 0x2F) at h
    exact ⟨by change 0x20 ≤ byte.toNat at low; change 0x30 ≤ byte.toNat; omega, high⟩
  cases h with
  | entry =>
    rw [State.afterByte]
    by_cases first : between 0x20 0x2F byte = true
    · rw [if_pos first]
      exact .intermediate
    · rw [if_neg first, if_pos (parameter first)]
      exact .parameters
  | parameters =>
    rw [State.afterByte, below]
    split
    · exact .ignored
    · split
      · exact .intermediate
      · exact .parameters
  | intermediate =>
    rw [State.afterByte, below]
    split
    · exact .ignored
    · exact .intermediate
  | ignored =>
    rw [State.afterByte, below]
    exact .ignored

theorem InControl.afterLast (h : InControl state) (final : between 0x40 0x7E byte = true) :
    state.afterByte byte = .ground := by
  obtain ⟨low, high⟩ := between_iff.mp final
  have none {least greatest : UInt8} (h : greatest.toNat < 0x40) :
      between least greatest byte = false := by
    rw [← Bool.not_eq_true, between_iff]
    exact fun below => absurd (low.trans below.2) (by change ¬ 0x40 ≤ _; omega)
  cases h <;> simp [State.afterByte, final, none]

end State

theorem feedAll_parameters {state : State} {parameters : Bytes} (inside : state.InControl)
    (inner : ∀ byte ∈ parameters, between 0x20 0x3F byte = true) (reversed : List Char) :
    ∃ state' : State, state'.InControl ∧
      Tape.feedAll ⟨state, reversed⟩ parameters = ⟨state', reversed⟩ := by
  induction parameters generalizing state with
  | nil => exact ⟨state, inside, rfl⟩
  | cons byte rest ih =>
    have range := inner byte (by simp)
    obtain ⟨state', inside', fed⟩ := ih (inside.afterByte range) fun b hb => inner b (by simp [hb])
    refine ⟨state', inside', ?_⟩
    rw [Tape.feedAll, List.foldl_cons,
      Tape.feed_of_next (inside.next_eq (between_iff.mp range).1)]
    exact fed

theorem shows_control {parameters : Bytes} {last : UInt8}
    (inner : ∀ byte ∈ parameters, between 0x20 0x3F byte = true)
    (final : between 0x40 0x7E last = true) :
    Shows (0x1B :: 0x5B :: (parameters ++ [last])) [] := by
  intro reversed
  obtain ⟨state, inside, fed⟩ := feedAll_parameters .entry inner reversed
  have low : 0x20 ≤ last.toNat := le_trans (by decide) (between_iff.mp final).1
  have ended : Tape.feed ⟨state, reversed⟩ last = ⟨.ground, reversed⟩ := by
    rw [Tape.feed_of_next (inside.next_eq low), inside.afterLast final]
    rfl
  change Tape.feedAll ⟨.controlEntry, reversed⟩ (parameters ++ [last]) = _
  rw [Tape.feedAll_append, fed]
  exact ended

/-! ### Commands for the terminal -/

theorem feed_inert {byte : UInt8} (inert : Inert byte) (reversed : List Char) :
    Tape.feed ⟨.systemCommand, reversed⟩ byte = ⟨.systemCommand, reversed⟩ := by
  obtain ⟨bell, cancel, substitute, escape⟩ := inert
  have step : State.systemCommand.next byte = (.systemCommand, none) := by
    simp [State.next, State.obeysControls, State.afterByte, bell, cancel, substitute, escape]
  exact Tape.feed_of_next step

theorem feedAll_inert {data : Bytes} (inert : ∀ byte ∈ data, Inert byte) (reversed : List Char) :
    Tape.feedAll ⟨.systemCommand, reversed⟩ data = ⟨.systemCommand, reversed⟩ := by
  induction data with
  | nil => rfl
  | cons byte rest ih =>
    rw [Tape.feedAll, List.foldl_cons, feed_inert (inert byte (by simp))]
    exact ih fun b hb => inert b (by simp [hb])

theorem shows_command {data : Bytes} (inert : ∀ byte ∈ data, Inert byte) (ending : Ending) :
    Shows (0x1B :: 0x5D :: (data ++ ending.bytes)) [] := by
  intro reversed
  change Tape.feedAll ⟨.systemCommand, reversed⟩ (data ++ ending.bytes) = _
  rw [Tape.feedAll_append, feedAll_inert inert]
  cases ending <;> rfl

/-! ## Whole streams -/

theorem Segment.shows (s : Segment) : Shows s.bytes s.shown := by
  cases s with
  | text chars plain => exact shows_text plain
  | control parameters last inner final => exact shows_control inner final
  | command data ending inert => exact shows_command inert ending

theorem shows_segments (segments : List Segment) :
    Shows (segments.flatMap Segment.bytes) (segments.flatMap Segment.shown) := by
  induction segments with
  | nil => exact shows_nil
  | cons s rest ih => exact s.shows.append ih

/-- Of a stream of text, control sequences and commands for the terminal, a new buffer shows the
text without its carriage returns, and all has been gone through, however the stream is cut. -/
theorem pending_of_segments {segments : List Segment} {portions : List Bytes}
    (cut : portions.flatten = segments.flatMap Segment.bytes) :
    (portions.foldl Buffer.append {}).pending = segments.flatMap Segment.shown ∧
      (portions.foldl Buffer.append {}).state = .ground := by
  have fed : Tape.feedAll ⟨.ground, []⟩ portions.flatten =
      ⟨.ground, (segments.flatMap Segment.shown).reverse ++ []⟩ := by
    rw [cut]
    exact shows_segments segments []
  rw [Buffer.foldl_append]
  refine ⟨?_, congrArg Tape.state fed⟩
  change (Tape.feedAll ⟨.ground, []⟩ portions.flatten).reversed.reverse = _
  rw [fed, List.append_nil, List.reverse_reverse]

def promptSegments : List Segment :=
  [.text "é\r\n".toList (by simp [Plain]),
    .control (Text.bytesOf "1;31") 0x6D (by decide +kernel) (by decide),
    .command (Text.bytesOf "0;ü") .escape (by decide +kernel),
    .text "\u0085# ".toList (by simp [Plain])]

/-- The cuts are inside a character, inside both sequences and inside the end of the second. -/
theorem pending_of_segments_prompt :
    let portions : List Bytes := [[0xC3], [0xA9, 0x0D, 0x0A, 0x1B, 0x5B, 0x31], [],
      [0x3B, 0x33, 0x31, 0x6D, 0x1B], [0x5D, 0x30, 0x3B, 0xC3, 0xBC, 0x1B], [0x5C, 0xC2],
      [0x85, 0x23, 0x20]]
    portions.flatten = promptSegments.flatMap Segment.bytes ∧
      (portions.foldl Buffer.append {}).pending = "é\n\u0085# ".toList := by
  intro portions
  have cut : portions.flatten = promptSegments.flatMap Segment.bytes := by decide +kernel
  have shown : promptSegments.flatMap Segment.shown = "é\n\u0085# ".toList := by decide +kernel
  exact ⟨cut, (pending_of_segments cut).1.trans shown⟩

end SerialConsole.Output
