import SerialConsole.Proofs.Command.Output
import SerialConsole.Proofs.Session.Open
import SerialConsole.Proofs.Session.Reads

/-!
# Commands in a session

What a command comes to is decided by the lines after the last one that holds its mark, the body of
what has been read (`runCommand_of_answer`), and a command that succeeds has read such lines
(`answer_of_runCommand`).
-/

namespace SerialConsole.Session

open Command (join)

variable {σ : Type} [Host σ] {m : Mark}

/-! ## The body -/

/-- The lines after the last one that holds the mark; all lines if none does. -/
def body (m : Mark) (lines : List (List Char)) : List (List Char) :=
  (lines.reverse.takeWhile m.absentFrom).reverse

theorem not_infix_of_mem_body {lines : List (List Char)} {line : List Char}
    (h : line ∈ body m lines) : ¬ m.text <:+: line :=
  Mark.absentFrom_iff.mp (List.mem_takeWhile_imp (List.mem_reverse.mp h))

/-- What comes before a line with the mark does not belong to the body. -/
theorem body_append {before after : List (List Char)} {echo : List Char}
    (held : m.text <:+: echo) (free : ∀ line ∈ after, ¬ m.text <:+: line) :
    body m (before ++ echo :: after) = after := by
  have stop : ¬ m.absentFrom echo = true := by
    rw [Mark.absentFrom_iff, not_not]
    exact held
  have all : ∀ line ∈ after.reverse, m.absentFrom line = true :=
    fun line h => Mark.absentFrom_iff.mpr (free line (List.mem_reverse.mp h))
  rw [body, List.reverse_append, List.reverse_cons, List.append_assoc,
    List.takeWhile_append_of_pos all, List.singleton_append, List.takeWhile_cons_of_neg stop,
    List.append_nil, List.reverse_reverse]

theorem body_of_free {lines : List (List Char)} (free : ∀ line ∈ lines, ¬ m.text <:+: line) :
    body m lines = lines := by
  have all : ∀ line ∈ lines.reverse, m.absentFrom line = true :=
    fun line h => Mark.absentFrom_iff.mpr (free line (List.mem_reverse.mp h))
  rw [body, List.takeWhile_eq_self_iff.mpr all, List.reverse_reverse]

/-- The body holds no mark, and it is all of the lines or comes right after one with the mark. -/
theorem body_eq_iff {lines after : List (List Char)} : body m lines = after ↔
    (∀ line ∈ after, ¬ m.text <:+: line) ∧
      (lines = after ∨ ∃ before echo, m.text <:+: echo ∧ lines = before ++ echo :: after) := by
  constructor
  · rintro rfl
    refine ⟨fun _ => not_infix_of_mem_body, ?_⟩
    have split : (lines.reverse.dropWhile m.absentFrom).reverse ++ body m lines = lines := by
      have whole := congrArg List.reverse
        (List.takeWhile_append_dropWhile (p := m.absentFrom) (l := lines.reverse))
      rwa [List.reverse_append, List.reverse_reverse] at whole
    cases rest : lines.reverse.dropWhile m.absentFrom with
    | nil =>
      rw [rest] at split
      exact .inl split.symm
    | cons echo before =>
      have stop : m.absentFrom echo = false := by
        have here := List.head?_dropWhile_not m.absentFrom lines.reverse
        rw [rest] at here
        exact here
      rw [rest, List.reverse_cons, List.append_assoc] at split
      refine .inr ⟨before.reverse, echo, ?_, split.symm⟩
      rw [← not_not (a := m.text <:+: echo), ← Mark.absentFrom_iff, stop]
      decide
  · rintro ⟨free, rfl | ⟨before, echo, held, rfl⟩⟩
    · exact body_of_free free
    · exact body_append held free

/-! ## Gathering -/

theorem advance_gather {lines seen : List (List Char)}
    (going : ∀ line ∈ lines, m.terminates line = false)
    (free : ∀ line ∈ seen, m.absentFrom line = true) :
    advance (gather m) seen lines = some ((lines.reverse ++ seen).takeWhile m.absentFrom) := by
  induction lines generalizing seen with
  | nil =>
      rw [List.reverse_nil, List.nil_append, List.takeWhile_eq_self_iff.mpr free]
      rfl
  | cons line rest ih =>
      have later : ∀ l ∈ rest, m.terminates l = false :=
        fun l hl => going l (List.mem_cons_of_mem _ hl)
      have here := going line List.mem_cons_self
      rw [List.reverse_cons, List.append_assoc, List.singleton_append, advance, gather]
      cases kind : m.classify line with
      | terminator =>
          rw [Mark.classify_eq_terminator, here] at kind
          cases kind
      | echo =>
          have stop : ¬ m.absentFrom line = true := by
            rw [Mark.absentFrom_iff, not_not]
            exact (Mark.classify_eq_echo.mp kind).1
          simp only
          rw [ih later (by simp), List.append_nil, List.takeWhile_append,
            List.takeWhile_cons_of_neg stop, List.append_nil, ite_eq_right_iff.mpr]
          intro all
          have front := List.takeWhile_prefix m.absentFrom (l := rest.reverse)
          exact (front.eq_of_length all).symm
      | content =>
          have none := Mark.absentFrom_iff.mpr (Mark.classify_eq_content.mp kind)
          exact ih later (by simpa using ⟨none, free⟩)

/-- Gathering goes on only after lines that are not the mark alone. -/
theorem going_of_advance {lines seen seen' : List (List Char)}
    (h : advance (gather m) seen lines = some seen') :
    ∀ line ∈ lines, m.terminates line = false := by
  induction lines generalizing seen with
  | nil => simp
  | cons line rest ih =>
      rw [advance, gather] at h
      cases kind : m.classify line with
      | terminator =>
          rw [kind] at h
          cases h
      | echo =>
          rw [kind] at h
          simpa using ⟨(Mark.classify_eq_echo.mp kind).2, ih h⟩
      | content =>
          rw [kind] at h
          have notLast : m.terminates line ≠ true := by
            rw [ne_eq, ← Mark.classify_eq_terminator, kind]
            decide
          simpa using ⟨by simpa using notLast, ih h⟩

/-! ## Commands -/

/-- How a command ends whose body is given, with the session as it is then. -/
def concluded (m : Mark) (lines : List (List Char)) (after : On σ Session) :
    EStateM.Result Failure (On σ Session) Command.Outcome :=
  match Command.parse (join lines) with
  | some (status, output) =>
    .ok ⟨status, output, after.subject.buffer.raw⟩ { after with subject := after.subject.dropRaw }
  | none => .error (.unparsedOutput m (String.ofList (Text.excerpt (join lines)))) after

variable {shell : Pattern} {command : List Char} {deadline : Deadline} {s after : On σ Session}

theorem runCommand_of_answer {lines : List (List Char)}
    (h : Answer (Command.run command m) shell m deadline s lines after)
    (going : ∀ line ∈ lines, m.terminates line = false) :
    runCommand shell command m deadline s = concluded m (body m lines) after := by
  obtain ⟨begun, last, read, found, sent, reads, ends, prompted⟩ := h
  have gathered := advance_gather going (List.forall_mem_nil _)
  have done : gather m ((lines.reverse ++ []).takeWhile m.absentFrom) last =
      .done ((lines.reverse ++ []).takeWhile m.absentFrom) := by
    rw [gather, Mark.classify_eq_terminator.mpr ends]
  have folded := foldLines_of_reads reads gathered done
  rw [List.append_nil] at folded
  refine (Op.bind_of_ok sent).trans ?_
  refine (Op.bind_of_ok folded).trans ?_
  refine (Op.bind_of_ok (Op.discard_of_ok prompted)).trans ?_
  unfold concluded body
  cases Command.parse (join (lines.reverse.takeWhile m.absentFrom).reverse) with
  | none => rfl
  | some parsed => rfl

/-- A command whose prompt has been shown has been answered, and the body has been gathered. -/
theorem answer_of_prompt {begun read : On σ Session} {seen : List (List Char)} {done : Unit}
    {found : Pattern.Found} (sent : send (Command.run command m) s = .ok done begun)
    (folded : foldLines true (fun seen line => pure (.ok (gather m seen line))) deadline [] begun =
      .ok seen read)
    (prompted : expect shell deadline read = .ok found after) :
    ∃ lines, Answer (Command.run command m) shell m deadline s lines after ∧
      (∀ line ∈ lines, m.terminates line = false) ∧ seen.reverse = body m lines := by
  obtain ⟨lines, last, gathered, reads, advanced, ended⟩ := foldLines_eq_ok folded
  have going := going_of_advance advanced
  have terminated : m.classify last = .terminator ∧ gathered = seen := by
    rw [gather] at ended
    cases kind : m.classify last <;> rw [kind] at ended <;> cases ended
    exact ⟨rfl, rfl⟩
  obtain ⟨ends, rfl⟩ := terminated
  rw [advance_gather going (List.forall_mem_nil _), List.append_nil] at advanced
  refine ⟨lines, ⟨begun, last, read, found, sent, reads, ?_, prompted⟩, going, ?_⟩
  · rwa [← Mark.classify_eq_terminator]
  · rw [body, Option.some.inj advanced]

theorem answer_of_runCommand {outcome : Command.Outcome} {s' : On σ Session}
    (h : runCommand shell command m deadline s = .ok outcome s') :
    ∃ lines after, Answer (Command.run command m) shell m deadline s lines after ∧
      ∀ line ∈ lines, m.terminates line = false := by
  obtain ⟨done, begun, sent, h⟩ := Op.bind_eq_ok h
  obtain ⟨seen, read, folded, h⟩ := Op.bind_eq_ok h
  obtain ⟨done, after, prompted, h⟩ := Op.bind_eq_ok h
  obtain ⟨found, prompted⟩ := Op.discard_eq_ok prompted
  obtain ⟨lines, answer, going, -⟩ := answer_of_prompt sent folded prompted
  exact ⟨lines, after, answer, going⟩

/-- A command fails because the console refuses what is typed, because of a wait, or because no
exit status is found. -/
theorem runCommand_eq_error {e : Failure} {s' : On σ Session} {terminal : Terminal}
    (isOpen : s.subject.terminal = some terminal)
    (h : runCommand shell command m deadline s = .error e s') :
    (∃ reason, e = .io reason ∧ ((Host.write terminal.process
        (Text.encode (Command.run command m))).run s.world.host).1 = .error reason) ∨
      e.OfWait ∨ ∃ output, e = .unparsedOutput m output := by
  let Late (e : Failure) : Prop := e.OfWait ∨ ∃ output, e = .unparsedOutput m output
  have last := lasting_open (σ := σ) terminal (E := Late) fun _ h => .inl h
  obtain ⟨answer, host, written⟩ : ∃ a h, (Host.write terminal.process
    (Text.encode (Command.run command m))).run s.world.host = (a, h) := ⟨_, _, rfl⟩
  have sent := sendBytes_of_open isOpen (Text.encode (Command.run command m))
  cases answer with
  | error reason =>
      have refused : terminal.write (Text.encode (Command.run command m)) s =
          .error (.io reason) { s with world := { s.world with host } } :=
        Op.demand_of_refusal written
      have failed := (Op.bind_of_error (sent.trans refused)).symm.trans h
      cases failed
      exact .inl ⟨reason, rfl, by rw [written]⟩
  | ok taken =>
      have typed : terminal.write (Text.encode (Command.run command m)) s =
          .ok taken { s with world := { s.world with host } } :=
        Op.demand_of_run written
      have failed := (Op.bind_of_ok (sent.trans typed)).symm.trans h
      -- nothing is typed any more, so every later failure is late
      refine .inr (Op.Keeps.error (P := fun s => s.subject.terminal = some terminal) (E := Late)
        ?_ isOpen failed).2
      refine .bind (last.foldLines _ _ _ _ fun _ _ _ hs => ⟨hs, fun e ended => ?_⟩) fun seen => ?_
      · cases ended
      refine .bind (last.expect shell deadline).discard fun _ => ?_
      simp only
      cases Command.parse (join seen.reverse) with
      | none => exact .throw (.inr ⟨_, rfl⟩)
      | some found => exact .bind last.takeRaw fun _ => .pure _

end SerialConsole.Session
