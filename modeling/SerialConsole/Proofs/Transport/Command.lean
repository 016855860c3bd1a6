import SerialConsole.Proofs.Session.Command
import SerialConsole.Proofs.Transport.Answered
import SerialConsole.Rehearsal.Basic

/-!
# Commands of a transport

`exec_outcome` says what a command comes to when the console answers it, and what holds of the
output of every command that succeeds.
-/

namespace SerialConsole.Transport

open Command (join Plain decimal statusLimit trimLines)
open Session (Answer body concluded)
open Text (Complete)

variable {σ : Type} [Host σ]

theorem exec_of_ready {s : On σ Transport} {session : Session} (ready : s.subject.phase = .ready)
    (held : s.subject.session = some session) (command : String) :
    ∃ act : Op σ Session Command.Outcome,
      act = Session.runCommand s.subject.prompts.shell command.toList (nextMark s)
        (.after s.world.clock (.ofMillis s.subject.settings.timeouts.command)) ∧
      exec command s = finish (act.outcome (handed session s))
        ⟨{ s.subject with
            phase := .executing, session := some (act.final (handed session s)).subject },
          (act.final (handed session s)).world⟩ := by
  refine ⟨_, rfl, ?_⟩
  have connected : s.subject.isConnected = true := isConnected_iff.mpr ⟨ready, session, held⟩
  let marked : On σ Transport :=
    { s with world := { s.world with
        host := ((Host.freshMark : StateM σ Mark).run s.world.host).2 } }
  have begun := fun act : Op σ Session Command.Outcome =>
    during_of_ready (s := marked) ready held .executing act
  unfold exec
  rw [Op.bind_of_ok (requireReady_of_connected connected), Op.bind_of_ok (Op.subject_apply s),
    Op.bind_of_ok (Op.host_apply _ s), Op.bind_of_ok (Op.deadline_apply _ _)]
  exact Op.bind_of_ok (begun _)

/-- A command that is answered ends as in the session, and the transport is ready again. -/
theorem exec_of_answered {command : String} {s : On σ Transport} {lines : List (List Char)}
    {after : On σ Session}
    (h : Answered (Command.run command.toList) s.subject.settings.timeouts.command s lines after)
    (going : ∀ line ∈ lines, (nextMark s).terminates line = false) :
    exec command s = match concluded (nextMark s) (body (nextMark s) lines) after with
      | .ok outcome after => .ok outcome (resumed s.subject after)
      | .error e after => .error e (resumed s.subject after) := by
  obtain ⟨session, held, answer⟩ := h.held
  obtain ⟨act, same, ran⟩ := exec_of_ready h.ready held command
  have ended := Session.runCommand_of_answer answer going
  rw [← same] at ended
  rw [ran, Op.outcome, Op.final, ended]
  unfold concluded
  cases Command.parse (join (body (nextMark s) lines)) with
  | some parsed => rfl
  | none => exact finish_error rfl _

theorem answered_of_exec {command : String} {s s' : On σ Transport} {outcome : Command.Outcome}
    (h : exec command s = .ok outcome s') : ∃ lines after,
      Answered (Command.run command.toList) s.subject.settings.timeouts.command s lines after ∧
        ∀ line ∈ lines, (nextMark s).terminates line = false := by
  obtain ⟨u, s₁, required, -⟩ := Op.bind_eq_ok h
  obtain ⟨ready, session, held⟩ := isConnected_iff.mp (connected_of_requireReady required).1
  obtain ⟨act, same, ran⟩ := exec_of_ready ready held command
  rw [ran] at h
  have ended := Op.outcome_eq_ok (finish_eq_ok h)
  rw [same] at ended
  obtain ⟨lines, after, answer, going⟩ := Session.answer_of_runCommand ended
  exact ⟨lines, after, ⟨ready, session, held, answer⟩, going⟩

/-- The lines before the mark that the console prints in answer to a command decide what the command
comes to, and of them only those after the last that holds the mark: if these are lines and an exit
status, then the lines without the empty ones at the end are the output. If no status is found, that
is reported, and the transport is ready again all the same. However a command came to succeed, the
mark does not occur in its output, which consists of complete lines. -/
theorem exec_outcome (command : String) (s : On σ Transport) :
    (∀ lines after,
      Answered (Command.run command.toList) s.subject.settings.timeouts.command s lines after →
        (∀ line ∈ lines, (nextMark s).terminates line = false) →
        exec command s = (match Command.parse (join (body (nextMark s) lines)) with
          | some (status, output) => .ok ⟨status, output, after.subject.buffer.raw⟩
              (resumed s.subject { after with subject := after.subject.dropRaw })
          | none => .error (.unparsedOutput (nextMark s)
                (String.ofList (Text.excerpt (join (body (nextMark s) lines)))))
              (resumed s.subject after)) ∧
        ∀ out status, body (nextMark s) lines = out ++ [decimal status] → status ≤ statusLimit →
          (∀ line ∈ out, Plain line) → ∃ outcome s', exec command s = .ok outcome s' ∧
            s'.subject.phase = .ready ∧ outcome.triple = (status, join (trimLines out), [])) ∧
    ∀ outcome s', exec command s = .ok outcome s' →
      ¬ (nextMark s).text <:+: outcome.output ∧ Complete outcome.output := by
  constructor
  · intro lines after answered going
    have ran := exec_of_answered answered going
    unfold concluded at ran
    constructor
    · rw [ran]
      cases Command.parse (join (body (nextMark s) lines)) <;> rfl
    · intro out status shape small plain
      rw [shape, Command.parse_join plain small] at ran
      exact ⟨_, _, ran, rfl, rfl⟩
  · intro outcome s' succeeded
    obtain ⟨lines, after, answered, going⟩ := answered_of_exec succeeded
    have ran := exec_of_answered answered going
    unfold concluded at ran
    cases parsed : Command.parse (join (body (nextMark s) lines)) with
    | none =>
      rw [parsed, succeeded] at ran
      cases ran
    | some found =>
      obtain ⟨status, output⟩ := found
      rw [parsed, succeeded] at ran
      injection ran with same
      obtain rfl : output = outcome.output := by rw [same]
      obtain ⟨front, complete⟩ := Command.parse_eq_some parsed
      refine ⟨fun occurs => ?_, complete⟩
      obtain ⟨line, hline, holds⟩ := Text.infix_of_infix_join (nextMark s).newline_not_mem_text
        (nextMark s).text_ne_nil (occurs.trans front.isInfix)
      exact Session.not_infix_of_mem_body hline holds

/-- What a console prints in answer to a greeting: the typed line, the greeting, the status and the
mark. -/
def greetingLines (m : Mark) : List (List Char) :=
  ["# echo hi ; echo $? && echo ".toList ++ m.text, "hi".toList, "0".toList]

/-- A transport whose console has printed its answer already. -/
def greeted : On Rehearsal Transport :=
  ⟨printed (join (greetingLines (Rehearsal.nthMark 0) ++ [(Rehearsal.nthMark 0).text])),
    { host := {} }⟩

theorem exec_outcome_greeted : ∃ outcome s', exec "echo hi" greeted = .ok outcome s' ∧
    s'.subject.phase = .ready ∧ outcome.triple = (0, "hi\n".toList, []) := by
  obtain ⟨after, answered⟩ : ∃ after, Answered (Command.run "echo hi".toList) 60000 greeted
      (greetingLines (Rehearsal.nthMark 0)) after := by
    have inner : ∀ line ∈ greetingLines (Rehearsal.nthMark 0), '\n' ∉ line := by decide +kernel
    exact answered_of_printed (fun _ _ _ => rfl) _ _ ({ host := {} } : World Rehearsal) rfl inner
  have going : ∀ line ∈ greetingLines (nextMark greeted),
      (nextMark greeted).terminates line = false := by decide +kernel
  have spoken : body (nextMark greeted) (greetingLines (nextMark greeted)) =
      ["hi".toList] ++ [decimal 0] := by
    decide +kernel
  have plain : ∀ line ∈ ["hi".toList], Plain line := by simp [Plain, Command.isLineEnd]
  exact ((exec_outcome "echo hi" greeted).1 _ after answered going).2 ["hi".toList] 0 spoken
    (by decide) plain

end SerialConsole.Transport
