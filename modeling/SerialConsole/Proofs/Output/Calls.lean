import SerialConsole.Proofs.Output.Buffer

/-!
# Sequences of calls

Bytes are appended to a buffer, and lines, matches and bytes are taken from it, in any order.
Nothing is lost and nothing is given twice (`taken_performAll`): the bytes that have been taken and
those still there are the bytes that came, and the same holds of the text, as long as the console
erases nothing.
-/

namespace SerialConsole.Output

/-- What is asked of a buffer. -/
inductive Call where
  | append (bytes : Bytes)
  | takeLine
  | takeMatch (p : Pattern)
  | takeRaw

/-- What a buffer gives. -/
inductive Answer where
  | nothing
  | line (text : List Char)
  | matched (found : Pattern.Found)
  | raw (bytes : Bytes)

/-- The text that an answer has taken away. -/
def Answer.text : Answer → List Char
  | .line text => text ++ ['\n']
  | .matched found => found.before ++ found.matched
  | .nothing | .raw _ => []

/-- The bytes that an answer has taken away. -/
def Answer.bytes : Answer → Bytes
  | .raw bytes => bytes
  | .nothing | .line _ | .matched _ => []

def Call.appended : Call → Bytes
  | .append bytes => bytes
  | .takeLine | .takeMatch _ | .takeRaw => []

namespace Buffer

variable {b : Buffer}

/-- A take that fails leaves the buffer as it is. -/
def perform (b : Buffer) : Call → Answer × Buffer
  | .append bytes => (.nothing, b.append bytes)
  | .takeLine =>
    match b.takeLine with
    | some (text, b) => (.line text, b)
    | none => (.nothing, b)
  | .takeMatch p =>
    match b.takeMatch p with
    | some (found, b) => (.matched found, b)
    | none => (.nothing, b)
  | .takeRaw => (.raw b.takeRaw.1, b.takeRaw.2)

def performAll (b : Buffer) : List Call → List Answer × Buffer
  | [] => ([], b)
  | call :: rest =>
    let (answer, b) := b.perform call
    let (answers, b) := b.performAll rest
    (answer :: answers, b)

theorem performAll_cons (b : Buffer) (call : Call) (rest : List Call) :
    b.performAll (call :: rest) =
      ((b.perform call).1 :: ((b.perform call).2.performAll rest).1,
        ((b.perform call).2.performAll rest).2) := rfl

/-- What one call does to the three parts of a buffer. -/
inductive Performs (b : Buffer) : Call → Answer × Buffer → Prop
  | append (bytes : Bytes) : Performs b (.append bytes) (.nothing, b.append bytes)
  | line {text rest : List Char} (pending : b.pending = text ++ '\n' :: rest)
      (first : '\n' ∉ text) :
      Performs b .takeLine (.line text, { b with pending := rest })
  | matched (p : Pattern) {found : Pattern.Found} {rest : List Char}
      (pending : b.pending = found.before ++ found.matched ++ rest) :
      Performs b (.takeMatch p) (.matched found, { b with pending := rest })
  | raw : Performs b .takeRaw (.raw b.raw, { b with raw := [] })
  | nothing {call : Call} (none : call.appended = []) : Performs b call (.nothing, b)

theorem performs (b : Buffer) (call : Call) : b.Performs call (b.perform call) := by
  cases call with
  | append bytes => exact .append bytes
  | takeRaw => exact .raw
  | takeLine =>
    simp only [perform]
    split
    · obtain ⟨pending, first, same⟩ := takeLine_eq_some ‹_›
      rw [same]
      exact .line pending first
    · exact .nothing rfl
  | takeMatch p =>
    simp only [perform]
    split
    · obtain ⟨pending, same⟩ := takeMatch_eq_some ‹_›
      rw [same]
      exact .matched p pending
    · exact .nothing rfl

/-! ## Bytes -/

theorem raw_perform (b : Buffer) (call : Call) :
    (b.perform call).1.bytes ++ (b.perform call).2.raw = b.raw ++ call.appended := by
  have step := b.performs call
  generalize b.perform call = result at step
  cases step with
  | append bytes => rfl
  | line | matched p | raw => simp [Answer.bytes, Call.appended]
  | nothing none => rw [none, List.append_nil]; rfl

theorem raw_performAll (b : Buffer) (calls : List Call) :
    (b.performAll calls).1.flatMap Answer.bytes ++ (b.performAll calls).2.raw =
      b.raw ++ calls.flatMap Call.appended := by
  induction calls generalizing b with
  | nil => simp [performAll]
  | cons call rest ih =>
    rw [performAll_cons, List.flatMap_cons, List.append_assoc, ih, ← List.append_assoc, raw_perform,
      List.append_assoc, List.flatMap_cons]

/-! ## Text -/

/-- One buffer is another from which some text has been taken. -/
structure Taken (text : List Char) (whole b : Buffer) : Prop where
  state : whole.state = b.state
  pending : whole.pending = text ++ b.pending

variable {text : List Char} {whole : Buffer}

theorem Taken.append {bytes : Bytes} (h : Taken text whole b) (kept : 0x08 ∉ bytes) :
    Taken text (whole.append bytes) (b.append bytes) := by
  have spared : ∀ byte ∈ bytes, ∀ (state : State) e, (state.next byte).2 = some e →
      e.Spares text.reverse := by
    intro byte mem state e edit
    cases e with
    | put c => exact Edit.spares_put _ c
    | erase => exact absurd (State.next_erase edit ▸ mem) kept
  have after := append_spared spared h.state h.pending
  exact ⟨after.1, after.2⟩

theorem Taken.perform {call : Call} (h : Taken text whole b) (kept : 0x08 ∉ call.appended) :
    Taken (text ++ (b.perform call).1.text) (whole.append call.appended) (b.perform call).2 := by
  have step := b.performs call
  generalize b.perform call = result at step
  cases step with
  | append bytes =>
    rw [Answer.text, List.append_nil]
    exact h.append kept
  | line pending first =>
    rw [Call.appended, append_nil]
    exact ⟨h.state, by simp [h.pending, pending, Answer.text]⟩
  | matched p pending =>
    rw [Call.appended, append_nil]
    exact ⟨h.state, by simp [h.pending, pending, Answer.text]⟩
  | raw =>
    rw [Call.appended, append_nil]
    exact ⟨h.state, by simp [h.pending, Answer.text]⟩
  | nothing none =>
    rw [none, append_nil, Answer.text, List.append_nil]
    exact h

theorem Taken.performAll {calls : List Call} (h : Taken text whole b)
    (kept : 0x08 ∉ calls.flatMap Call.appended) :
    Taken (text ++ (b.performAll calls).1.flatMap Answer.text)
      (whole.append (calls.flatMap Call.appended)) (b.performAll calls).2 := by
  induction calls generalizing b text whole with
  | nil => simpa [Buffer.performAll, append_nil] using h
  | cons call rest ih =>
    rw [List.flatMap_cons, List.mem_append, not_or] at kept
    have after := ih (h.perform kept.1) kept.2
    rw [performAll_cons, List.flatMap_cons, List.flatMap_cons, ← append_append, ← List.append_assoc]
    exact after

end Buffer

/-! ## Nothing is lost -/

/-- Whatever is asked of a new buffer, the bytes taken from it and those it still holds are the
bytes that were appended. If nothing was to be erased, the text taken from it and its pending text
are what a new buffer shows of all these bytes at once. -/
theorem taken_performAll (calls : List Call) :
    let appended := calls.flatMap Call.appended
    let answers := (Buffer.performAll {} calls).1
    let b := (Buffer.performAll {} calls).2
    answers.flatMap Answer.bytes ++ b.raw = appended ∧
      (0x08 ∉ appended →
        answers.flatMap Answer.text ++ b.pending = (Buffer.append {} appended).pending) := by
  intro appended answers b
  refine ⟨Buffer.raw_performAll {} calls, fun kept => ?_⟩
  have new : Buffer.Taken [] {} {} := ⟨rfl, rfl⟩
  exact (new.performAll kept).pending.symm

/-- Takes that fail, takes in the middle of a character and of a sequence, and an empty match. -/
def promptCalls : List Call :=
  [.takeLine, .append [0x68, 0xC3], .takeRaw, .append [0xA9, 0x0D, 0x0A, 0x23, 0x20, 0x1B],
    .takeLine, .takeMatch ⟨"# ", ⟨#[.accept, .one (.single ' ') 0, .one (.single '#') 1], 2⟩⟩,
    .takeLine, .append [0x5B, 0x6D, 0x78], .takeMatch ⟨"", ⟨#[.accept], 0⟩⟩]

theorem taken_performAll_prompt :
    0x08 ∉ promptCalls.flatMap Call.appended ∧
      (Buffer.performAll {} promptCalls).1.flatMap Answer.text ++
        (Buffer.performAll {} promptCalls).2.pending = "hé\n# x".toList := by
  have kept : 0x08 ∉ promptCalls.flatMap Call.appended := by decide
  have shown : (Buffer.append {} (promptCalls.flatMap Call.appended)).pending =
      "hé\n# x".toList := by decide +kernel
  exact ⟨kept, ((taken_performAll promptCalls).2 kept).trans shown⟩

end SerialConsole.Output
