import SerialConsole.Proofs.Output.Buffer
import SerialConsole.Proofs.Session.Waits

/-!
# Output as it arrives

`Arrives` says what a session has been given of the output by some time before a deadline, when it
is only listened to. A wait takes what it is looking for as soon as that has arrived
(`await_of_arrives`, `arrives_of_await`), and after a line has been read there arrives what would
have arrived behind it (`readLine_of_arrives`, `arrives_of_readLine`).
-/

namespace SerialConsole.Session

variable {σ α : Type} [Host σ] {deadline : Deadline}

/-- Output comes in, one portion after the other, before the deadline. -/
def Arrives (deadline : Deadline) : On σ Session → On σ Session → Prop :=
  Relation.ReflTransGen fun s s' => look deadline s = (.more, s')

theorem Arrives.terminal_eq {s s' : On σ Session} (h : Arrives deadline s s') :
    s'.subject.terminal = s.subject.terminal := by
  induction h with
  | refl => rfl
  | @tail s₁ s₂ _ step ih =>
    obtain ⟨s', looked, listens⟩ | ⟨s', looked, -⟩ | ⟨s', looked, -⟩ := look_cases deadline s₁
    · rw [step] at looked
      obtain rfl : s₂ = s' := congrArg Prod.snd looked
      exact listens.terminal_eq.trans ih
    · simp [step] at looked
    · simp [step] at looked

/-! ## Waits -/

section Take

variable {take : Output.Buffer → Option (α × Output.Buffer)} {awaited : String}
  {s s' : On σ Session}

def withBuffer (s : On σ Session) (buffer : Output.Buffer) : On σ Session :=
  { s with subject := { s.subject with buffer } }

theorem arrives_of_collect {value : α} (h : collect take deadline s = (.taken value, s')) :
    ∃ s₁ buffer, Arrives deadline s s₁ ∧ take s₁.subject.buffer = some (value, buffer) ∧
      s' = withBuffer s₁ buffer := by
  fun_induction collect take deadline s with
  | case1 s found buffer there =>
    obtain ⟨same, rfl⟩ := Prod.mk.inj h
    cases same
    exact ⟨s, buffer, .refl, there, rfl⟩
  | case2 s missing s₁ looked ih =>
    obtain ⟨s₂, buffer, arrives, there, same⟩ := ih h
    exact ⟨s₂, buffer, .head looked arrives, there, same⟩
  | case3 => cases h
  | case4 => cases h

theorem collect_of_arrives (h : Arrives deadline s s') (there : take s'.subject.buffer ≠ none) :
    ∃ s₁ value buffer, Arrives deadline s s₁ ∧ Arrives deadline s₁ s' ∧
      take s₁.subject.buffer = some (value, buffer) ∧
      collect take deadline s = (.taken value, withBuffer s₁ buffer) := by
  induction h using Relation.ReflTransGen.head_induction_on with
  | refl =>
    obtain ⟨⟨value, buffer⟩, found⟩ := Option.ne_none_iff_exists'.mp there
    refine ⟨s', value, buffer, .refl, .refl, found, ?_⟩
    rw [collect, found]
    rfl
  | @head s s₂ looked later ih =>
    cases found : take s.subject.buffer with
    | some result =>
      refine ⟨s, result.1, result.2, .refl, .head looked later, found, ?_⟩
      rw [collect, found]
      rfl
    | none =>
      obtain ⟨s₁, value, buffer, before, after, taken, collected⟩ := ih
      refine ⟨s₁, value, buffer, .head looked before, after, taken, ?_⟩
      rw [collect_of_look found looked]
      exact collected

theorem arrives_of_await {value : α} (h : await take awaited deadline s = .ok value s') :
    ∃ s₁ buffer, Arrives deadline s s₁ ∧ take s₁.subject.buffer = some (value, buffer) ∧
      s' = withBuffer s₁ buffer := by
  unfold await at h
  split at h
  · cases h
  split at h
  · next collected =>
    cases h
    exact arrives_of_collect collected
  · cases h
  · cases h

variable (take awaited) in
theorem await_of_arrives {terminal : Terminal} (isOpen : s.subject.terminal = some terminal)
    (h : Arrives deadline s s') (there : take s'.subject.buffer ≠ none) :
    ∃ s₁ value buffer, Arrives deadline s s₁ ∧ Arrives deadline s₁ s' ∧
      take s₁.subject.buffer = some (value, buffer) ∧
      await take awaited deadline s = .ok value (withBuffer s₁ buffer) := by
  obtain ⟨s₁, value, buffer, before, after, taken, collected⟩ := collect_of_arrives h there
  have going : s.subject.isClosed = false := by simp [isClosed, isOpen]
  refine ⟨s₁, value, buffer, before, after, taken, ?_⟩
  rw [await, going, if_neg Bool.false_ne_true, collected]

end Take

/-! ## Sessions from which lines have been taken -/

/-- The second session is the first without the front of its text, and perhaps with other bytes. -/
structure Behind (front : List Char) (whole s : On σ Session) : Prop where
  world_eq : s.world = whole.world
  terminal_eq : s.subject.terminal = whole.subject.terminal
  ended_eq : s.subject.ended = whole.subject.ended
  state_eq : whole.subject.buffer.state = s.subject.buffer.state
  pending_eq : whole.subject.pending = front ++ s.subject.pending

namespace Behind

variable {front : List Char} {whole s : On σ Session}

theorem listen (h : Behind front whole s) (complete : Text.Complete front) (terminal : Terminal)
    (limit : Duration) :
    (listen terminal limit s).1 = (listen terminal limit whole).1 ∧
      Behind front (listen terminal limit whole).2 (listen terminal limit s).2 := by
  unfold Session.listen
  rw [h.world_eq]
  obtain ⟨arrival, host⟩ := (Host.await terminal.process limit).run whole.world.host
  cases arrival with
  | output bytes after =>
    have fed := Output.Buffer.append_below complete h.state_eq h.pending_eq bytes
    exact ⟨rfl, rfl, h.terminal_eq, h.ended_eq, fed.1, fed.2⟩
  | hangUp after => exact ⟨rfl, rfl, h.terminal_eq, rfl, h.state_eq, h.pending_eq⟩
  | silence => exact ⟨rfl, rfl, h.terminal_eq, h.ended_eq, h.state_eq, h.pending_eq⟩

theorem look (h : Behind front whole s) (complete : Text.Complete front) (deadline : Deadline) :
    (look deadline s).1 = (look deadline whole).1 ∧
      Behind front (look deadline whole).2 (look deadline s).2 := by
  unfold Session.look
  rw [h.ended_eq, h.terminal_eq, h.world_eq]
  cases whole.subject.ended with
  | true => exact ⟨rfl, h⟩
  | false =>
    cases whole.subject.terminal with
    | none => exact ⟨rfl, h⟩
    | some terminal =>
      by_cases past : deadline.remaining whole.world.clock = 0
      · simp only [if_pos past]
        exact ⟨trivial, h⟩
      · simp only [if_neg past]
        exact h.listen complete terminal _

theorem arrives (h : Behind front whole s) (complete : Text.Complete front) {s' : On σ Session}
    (later : Arrives deadline s s') :
    ∃ whole', Arrives deadline whole whole' ∧ Behind front whole' s' := by
  induction later with
  | refl => exact ⟨whole, .refl, h⟩
  | @tail s₁ s₂ _ step ih =>
    obtain ⟨whole₁, before, behind⟩ := ih
    obtain ⟨same, behind'⟩ := behind.look complete deadline
    rw [step] at same behind'
    have looked : Session.look deadline whole₁ = (.more, (Session.look deadline whole₁).2) :=
      Prod.ext same.symm rfl
    exact ⟨_, before.tail looked, behind'⟩

theorem arrives_whole (h : Behind front whole s) (complete : Text.Complete front)
    {whole' : On σ Session} (later : Arrives deadline whole whole') :
    ∃ s', Arrives deadline s s' ∧ Behind front whole' s' := by
  induction later with
  | refl => exact ⟨s, .refl, h⟩
  | @tail s₁ s₂ _ step ih =>
    obtain ⟨s', before, behind⟩ := ih
    obtain ⟨same, behind'⟩ := behind.look complete deadline
    rw [step] at same behind'
    have looked : Session.look deadline s' = (.more, (Session.look deadline s').2) :=
      Prod.ext same rfl
    exact ⟨_, before.tail looked, behind'⟩

end Behind

/-! ## Lines -/

/-- A session whose bytes are forgotten, as a loop over lines leaves it that keeps none. -/
def forgetful (s : On σ Session) : On σ Session := { s with subject := s.subject.dropRaw }

section Lines

variable {s s' : On σ Session} {line rest : List Char}

omit [Host σ] in
theorem behind_withBuffer {buffer : Output.Buffer}
    (found : s.subject.buffer.takeLine = some (line, buffer)) :
    Behind (line ++ ['\n']) s (forgetful (withBuffer s buffer)) := by
  obtain ⟨split, -, same⟩ := Output.Buffer.takeLine_eq_some found
  refine ⟨rfl, rfl, rfl, ?_, ?_⟩
  · rw [same]
    rfl
  · rw [List.append_assoc]
    exact split

theorem complete_line (line : List Char) : Text.Complete (line ++ ['\n']) := .inr (by simp)

theorem arrives_of_readLine (read : readLine deadline s = .ok line s')
    {later : On σ Session} (arrives : Arrives deadline (forgetful s') later) :
    '\n' ∉ line ∧ ∃ whole, Arrives deadline s whole ∧
      whole.subject.pending = line ++ '\n' :: later.subject.pending := by
  obtain ⟨s₁, buffer, before, found, rfl⟩ := arrives_of_await read
  obtain ⟨whole, after, behind⟩ := (behind_withBuffer found).arrives (complete_line line) arrives
  refine ⟨(Output.Buffer.takeLine_eq_some found).2.1, whole, before.trans after, ?_⟩
  rw [behind.pending_eq, List.append_assoc]
  rfl

theorem readLine_of_arrives {terminal : Terminal} (isOpen : s.subject.terminal = some terminal)
    {whole : On σ Session} (arrives : Arrives deadline s whole)
    (text : whole.subject.pending = line ++ '\n' :: rest) (first : '\n' ∉ line) :
    ∃ s' later, readLine deadline s = .ok line s' ∧ s'.subject.terminal = some terminal ∧
      Arrives deadline (forgetful s') later ∧ later.subject.pending = rest := by
  have taken := Output.Buffer.takeLine_of_line text first
  obtain ⟨s₁, line', buffer, before, after, found, read⟩ :=
    await_of_arrives Output.Buffer.takeLine "end of line" isOpen arrives (by simp [taken])
  obtain ⟨later, afterwards, behind⟩ :=
    (behind_withBuffer found).arrives_whole (complete_line line') after
  -- the line that is taken as soon as it has arrived is the first one of all that arrives
  have first' := (Output.Buffer.takeLine_eq_some found).2.1
  have pending : whole.subject.pending = line' ++ '\n' :: later.subject.pending := by
    rw [behind.pending_eq, List.append_assoc]
    rfl
  have again := Output.Buffer.takeLine_of_line pending first'
  rw [taken] at again
  cases again
  exact ⟨_, later, read, before.terminal_eq.trans isOpen, afterwards, rfl⟩

end Lines

end SerialConsole.Session
