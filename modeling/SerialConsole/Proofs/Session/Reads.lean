import SerialConsole.Proofs.Mark
import SerialConsole.Proofs.Output.Buffer
import SerialConsole.Proofs.Session.Waits
import SerialConsole.Session.Command

/-!
# Reading line after line

`Reads` says which lines a session yields when lines are read from it one after the other. A loop
that only looks at the lines is determined by them: it ends with the first line that it takes for
the last one (`foldLines_of_reads`), and when it ends it has read such lines (`foldLines_eq_ok`).
-/

namespace SerialConsole.Session

variable {σ β : Type} [Host σ]

/-- Lines are read from a session one after the other. -/
inductive Reads (deadline : Deadline) : On σ Session → List (List Char) → On σ Session → Prop
  | nil (s : On σ Session) : Reads deadline s [] s
  | cons {s s₁ s' : On σ Session} {line : List Char} {lines : List (List Char)}
      (read : readLine deadline s = .ok line s₁) (rest : Reads deadline s₁ lines s') :
      Reads deadline s (line :: lines) s'

theorem newline_not_mem_readLine {deadline : Deadline} {s s' : On σ Session} {line : List Char}
    (h : readLine deadline s = .ok line s') : '\n' ∉ line := by
  have waited := await_end Output.Buffer.takeLine deadline "end of line" s
  rw [readLine] at h
  rw [h] at waited
  cases waited with
  | taken listened found => exact (Output.Buffer.takeLine_eq_some found).2.1

theorem Reads.of_append {deadline : Deadline} {s s' : On σ Session} {lines more : List (List Char)}
    (h : Reads deadline s (lines ++ more) s') :
    ∃ s₁, Reads deadline s lines s₁ ∧ Reads deadline s₁ more s' := by
  induction lines generalizing s with
  | nil => exact ⟨s, .nil s, h⟩
  | cons line lines ih =>
    cases h with
    | cons read rest =>
      obtain ⟨s₁, front, back⟩ := ih rest
      exact ⟨s₁, .cons read front, back⟩

theorem Reads.newline_not_mem {deadline : Deadline} {s s' : On σ Session}
    {lines : List (List Char)} (h : Reads deadline s lines s') : ∀ line ∈ lines, '\n' ∉ line := by
  induction h with
  | nil => simp
  | cons read _ ih => simpa using ⟨newline_not_mem_readLine read, ih⟩

def withText (s : On σ Session) (rest : List Char) : On σ Session :=
  { s with subject := { s.subject with buffer := { s.subject.buffer with pending := rest } } }

theorem reads_of_pending {terminal : Terminal} {lines : List (List Char)} {rest : List Char}
    {deadline : Deadline} {s : On σ Session} (isOpen : s.subject.terminal = some terminal)
    (arrived : s.subject.pending = Command.join lines ++ rest)
    (inner : ∀ line ∈ lines, '\n' ∉ line) : Reads deadline s lines (withText s rest) := by
  induction lines generalizing s with
  | nil =>
    have same : withText s rest = s := by
      rw [withText, ← show s.subject.pending = rest from arrived]
      rfl
    rw [same]
    exact .nil s
  | cons line lines ih =>
    rw [Text.join_cons, List.append_assoc, List.cons_append] at arrived
    have found := Output.Buffer.takeLine_of_line arrived (inner line (by simp))
    exact .cons (await_of_found isOpen found)
      (ih (s := withText s _) isOpen rfl fun l hl => inner l (by simp [hl]))

/-! ## Answers -/

/-- What a session prints in answer to something that is typed: some lines, the mark, and then the
prompt of the shell. -/
def Answer (typed : List Char) (shell : Pattern) (m : Mark) (deadline : Deadline) (s : On σ Session)
    (lines : List (List Char)) (after : On σ Session) : Prop :=
  ∃ begun last read found, send typed s = .ok () begun ∧
    Reads deadline begun (lines ++ [last]) read ∧ m.terminates last = true ∧
    expect shell deadline read = .ok found after

theorem Answer.newline_not_mem {typed : List Char} {shell : Pattern} {m : Mark}
    {deadline : Deadline} {s after : On σ Session} {lines : List (List Char)}
    (h : Answer typed shell m deadline s lines after) : ∀ line ∈ lines, '\n' ∉ line := by
  obtain ⟨begun, last, read, found, -, reads, -⟩ := h
  exact fun line hl => reads.newline_not_mem line (List.mem_append_left _ hl)

theorem answer_of_pending {typed : List Char} {shell : Pattern} {m : Mark} (deadline : Deadline)
    {s begun : On σ Session} {terminal : Terminal} {lines : List (List Char)}
    {last rest : List Char}
    {found : Pattern.Found} {buffer : Output.Buffer} (sent : send typed s = .ok () begun)
    (isOpen : begun.subject.terminal = some terminal)
    (arrived : begun.subject.pending = Command.join (lines ++ [last]) ++ rest)
    (inner : ∀ line ∈ lines ++ [last], '\n' ∉ line) (ends : m.terminates last = true)
    (prompt : (withText begun rest).subject.buffer.takeMatch shell = some (found, buffer)) :
    ∃ after, Answer typed shell m deadline s lines after :=
  ⟨_, begun, last, withText begun rest, found, sent, reads_of_pending isOpen arrived inner, ends,
    await_of_found isOpen prompt⟩

/-! ## Loops over lines -/

/-- What a reader of lines has made of lines of which none was the last. -/
def advance (f : β → List Char → Progress β) : β → List (List Char) → Option β
  | state, [] => some state
  | state, line :: rest =>
    match f state line with
    | .more state => advance f state rest
    | .done _ => none

/-- The reader as an action on the host, of which it makes no use. -/
def looking (f : β → List Char → Progress β) (state : β) (line : List Char) :
    StateM σ (Except Failure (Progress β)) := pure (.ok (f state line))

omit [Host σ] in
private theorem looking_run {f : β → List Char → Progress β} {state : β} {line : List Char}
    {progress : Progress β} {before after : σ}
    (h : (looking f state line).run before = (.ok progress, after)) :
    f state line = progress ∧ before = after := by
  obtain ⟨made, same⟩ := Prod.mk.inj h
  exact ⟨Except.ok.inj made, same⟩

section Loop

variable {f : β → List Char → Progress β} {deadline : Deadline} {state : β} {s s' : On σ Session}

def continued (keepRaw : Bool) (handle : β → List Char → StateM σ (Except Failure (Progress β)))
    (deadline : Deadline) (s : On σ Session) :
    Except Failure (Progress β) → EStateM.Result Failure (On σ Session) β
  | .error e => .error e s
  | .ok (.done state) => .ok state s
  | .ok (.more state) => foldLines keepRaw handle deadline state s

theorem foldLines_of_readLine {keepRaw : Bool}
    {handle : β → List Char → StateM σ (Except Failure (Progress β))} {s₁ : On σ Session}
    {line : List Char} (read : readLine deadline s = .ok line s₁) :
    foldLines keepRaw handle deadline state s =
      continued keepRaw handle deadline
        ⟨if keepRaw then s₁.subject else s₁.subject.dropRaw,
          { s₁.world with host := ((handle state line).run s₁.world.host).2 }⟩
        ((handle state line).run s₁.world.host).1 := by
  rw [foldLines]
  split
  · next e s₂ failed =>
    rw [read] at failed
    cases failed
  · next line' s₂ again =>
    rw [read] at again
    cases again
    cases (handle state line).run s₁.world.host with
    | mk progress host =>
      obtain e | state | state := progress <;> rfl

theorem foldLines_looking {s₁ : On σ Session} {line : List Char}
    (read : readLine deadline s = .ok line s₁) :
    foldLines true (looking f) deadline state s =
      continued true (looking f) deadline s₁ (.ok (f state line)) :=
  foldLines_of_readLine read

theorem foldLines_of_reads {lines : List (List Char)} {last : List Char} {state₁ state' : β}
    (reads : Reads deadline s (lines ++ [last]) s')
    (advanced : advance f state lines = some state₁) (done : f state₁ last = .done state') :
    foldLines true (looking f) deadline state s = .ok state' s' := by
  induction lines generalizing state s with
  | nil =>
    cases advanced
    cases reads with
    | cons read rest =>
      cases rest
      rw [foldLines_looking read, done]
      rfl
  | cons line lines ih =>
    cases reads with
    | cons read rest =>
      rw [foldLines_looking read]
      rw [advance] at advanced
      cases progress : f state line with
      | done state =>
        rw [progress] at advanced
        cases advanced
      | more state =>
        rw [progress] at advanced
        exact ih rest advanced

theorem foldLines_eq_ok {state' : β}
    (h : foldLines true (looking f) deadline state s = .ok state' s') :
    ∃ lines last state₁, Reads deadline s (lines ++ [last]) s' ∧
      advance f state lines = some state₁ ∧ f state₁ last = .done state' := by
  fun_induction foldLines true (looking f) deadline state s with
  | case1 state s e s₁ failed => cases h
  | case2 state s line s₁ read subject host next e ran => cases h
  | case3 state s line s₁ read subject host next ended ran =>
    obtain ⟨done, rfl⟩ := looking_run ran
    injection h with same left
    obtain rfl : s₁ = s' := left
    rw [same] at done
    exact ⟨[], line, state, .cons read (.nil s₁), rfl, done⟩
  | case4 state s line s₁ read subject host next going ran ih =>
    obtain ⟨more, rfl⟩ := looking_run ran
    obtain ⟨lines, last, state₁, reads, advanced, done⟩ := ih h
    refine ⟨line :: lines, last, state₁, .cons read reads, ?_, done⟩
    rw [advance, more]
    exact advanced

end Loop

end SerialConsole.Session
