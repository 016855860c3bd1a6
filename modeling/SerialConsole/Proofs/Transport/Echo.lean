import SerialConsole.Proofs.Transport.Refusals
import SerialConsole.Proofs.Transport.Upload
import SerialConsole.Rehearsal.Basic

/-!
# Echoes of operations

A console that shows what is typed must not be taken to have carried it out. `echoed_perform` says
that it never is: of all that an operation of a transport types, only the line that ends its command
holds the mark, and that line is told from the mark itself.
-/

namespace SerialConsole.Transport

open Command (Echoed)
open Host (Obliging)
open Session (EchoedSince Enters)

variable {σ α β : Type} [Host σ]

/-- The operations that type a command: with the mark that they are given, the text that is put into
the command, and the command. -/
inductive Commands (s : On σ Transport) : Step → Mark → List Char → List Char → Prop
  | exec (command : String) :
      Commands s (.exec command) (nextMark s) command.toList
        (Command.run command.toList (nextMark s))
  | put {file : String} (remote : String) {answer : Bool} {looked marked : σ} {m : Mark}
      (looks : (Host.isFile file).run s.world.host = (answer, looked))
      (marks : Host.freshMark.run looked = (m, marked)) :
      Commands s (.put file remote) m remote.toList (Command.receive remote.toList m ++ ['\n'])
  | fetch (remote file : String) :
      Commands s (.fetch remote file) (nextMark s) remote.toList
        (Command.print remote.toList (nextMark s) ++ ['\n'])

theorem ready_of_taken {s : On σ Transport} {step : Step} (taken : ∀ e, ¬ Refused s step e)
    (refuses : s.subject.isConnected = false → Refused s step .notConnected) :
    ∃ session, s.subject.phase = .ready ∧ s.subject.session = some session := by
  have connected : s.subject.isConnected = true := by
    by_contra free
    exact taken _ (refuses (by simpa using free))
  obtain ⟨ready, session, held⟩ := isConnected_iff.mp connected
  exact ⟨session, ready, held⟩

section Taken

variable {s : On (Recorded σ) Transport}

/-- What an operation types that is carried out on the session. -/
structure Entered (m : Mark) (command : List Char) (s s' : On (Recorded σ) Transport) : Prop where
  echoed : EchoedSince m command s s'
  begun : Obliging σ → s.subject.Settled → s'.world.host.typed ≠ s.world.host.typed

theorem entered_of_ready {act : Op (Recorded σ) Session α} {m : Mark} {command : List Char}
    (enters : Enters m command act) {session : Session} (held : s.subject.session = some session)
    {begun : On (Recorded σ) Session} (handed : begun.subject = session.dropRaw)
    (quiet : begun.world.host.typed = s.world.host.typed) {op : Op (Recorded σ) Transport β}
    {t : Transport} {result : Except Failure β}
    (ran : op s = finish result ⟨t, (act.final begun).world⟩) :
    Entered m command s (op.final s) := by
  have typed := typed_of_finish ran
  refine ⟨?_, fun obliging settled => ?_⟩
  · rw [EchoedSince, typed, ← quiet]
    exact enters.echoed begun
  · cases isOpen : session.terminal with
    | none =>
        have closed := settled.isOpen session held
        simp [Session.isClosed, isOpen] at closed
    | some terminal =>
        rw [typed, ← quiet]
        exact enters.begun obliging begun terminal (by rw [handed]; exact isOpen)

theorem entered_exec (command : String) (taken : ∀ e, ¬ Refused s (.exec command) e)
    (absent : ¬ (nextMark s).text <:+: command.toList) :
    Entered (nextMark s) (Command.run command.toList (nextMark s)) s ((exec command).final s) := by
  obtain ⟨session, ready, held⟩ := ready_of_taken taken .exec
  obtain ⟨act, rfl, ran⟩ := exec_of_ready ready held command
  exact entered_of_ready (Session.enters_runCommand _ _ absent) held rfl rfl ran

theorem entered_put {file : String} (remote : String)
    (taken : ∀ e, ¬ Refused s (.put file remote) e) {answer : Bool}
    {looked marked : Recorded σ} {m : Mark}
    (looks : (Host.isFile file).run s.world.host = (answer, looked))
    (marks : Host.freshMark.run looked = (m, marked)) (absent : ¬ m.text <:+: remote.toList) :
    Entered m (Command.receive remote.toList m ++ ['\n']) s ((put file remote).final s) := by
  cases answer with
  | false => exact absurd (.missing looks) (taken _)
  | true =>
      obtain ⟨session, ready, held⟩ := ready_of_taken taken fun free => .put free looks
      obtain ⟨answer, opened, opens⟩ : ∃ a h, (Host.openFile file).run marked = (a, h) :=
        ⟨_, _, rfl⟩
      have quiet : opened.typed = s.world.host.typed := Recorded.typed_of_consulted
        (.openFile (.freshMark (.isFile .unasked looks) marks) opens)
      cases answer with
      | error reason =>
          have connected := isConnected_iff.mpr ⟨ready, session, held⟩
          exact absurd (.file connected (.opening looks marks opens)) (taken _)
      | ok source =>
          obtain ⟨act, begun, rfl, rfl, ran⟩ :=
            put_of_ready remote ready held ⟨looked, marked, looks, marks, opens⟩
          exact entered_of_ready (Session.enters_upload _ _ _ absent) held rfl quiet ran

theorem entered_fetch (remote file : String) (taken : ∀ e, ¬ Refused s (.fetch remote file) e)
    (absent : ¬ (nextMark s).text <:+: remote.toList) :
    Entered (nextMark s) (Command.print remote.toList (nextMark s) ++ ['\n']) s
      ((fetch remote file).final s) := by
  obtain ⟨session, ready, held⟩ := ready_of_taken taken .fetch
  obtain ⟨marked, marks⟩ : ∃ h, Host.freshMark.run s.world.host = (nextMark s, h) := ⟨_, rfl⟩
  obtain ⟨answer, created, makes⟩ : ∃ a h, (Host.createFile file).run marked = (a, h) :=
    ⟨_, _, rfl⟩
  have quiet : created.typed = s.world.host.typed :=
    Recorded.typed_of_consulted (.createFile (.freshMark .unasked marks) makes)
  cases answer with
  | error reason =>
      have connected := isConnected_iff.mpr ⟨ready, session, held⟩
      exact absurd (.file connected (.creating marks makes)) (taken _)
  | ok made =>
      obtain ⟨act, begun, rfl, rfl, ran⟩ := fetch_of_ready remote ready held marks makes
      exact entered_of_ready (Session.enters_download _ _ _ absent) held rfl quiet ran

end Taken

/-- Of the lines that a command or a transfer types, however it ends and for every text and path
that do not hold its mark, the last line of its command is an echo of the mark, and no other line is
an echo or an end. Something is typed by every operation that is not refused at once, if the host
takes it. -/
theorem echoed_perform {s : On (Recorded σ) Transport} {step : Step} {m : Mark}
    {text command : List Char} (commands : Commands s step m text command)
    (absent : ¬ m.text <:+: text) : EchoedSince m command s (step.perform.final s) ∧
      (Obliging σ → s.subject.Settled → (∀ e, ¬ Refused s step e) →
        (step.perform.final s).world.host.typed ≠ s.world.host.typed) := by
  by_cases taken : ∀ e, ¬ Refused s step e
  · have entered : Entered m command s (step.perform.final s) := by
      cases commands with
      | exec command =>
          rw [Step.perform, Op.final_map]
          exact entered_exec command taken absent
      | put remote looks marks =>
          rw [Step.perform, Op.final_map]
          exact entered_put remote taken looks marks absent
      | fetch remote file =>
          rw [Step.perform, Op.final_map]
          exact entered_fetch remote file taken absent
    exact ⟨entered.echoed, fun obliging settled _ => entered.begun obliging settled⟩
  · obtain ⟨e, refused⟩ := not_forall_not.mp taken
    obtain ⟨host, ended, consulted, -⟩ := perform_of_refused refused
    refine ⟨⟨[], ?_, fun some => absurd rfl some⟩, fun _ _ taken => absurd refused (taken e)⟩
    rw [Op.final_of_error ended, List.append_nil]
    exact Recorded.typed_of_consulted consulted

/-- A transport whose console prints nothing but the prompt. -/
def idle : On (Recorded Rehearsal) Transport := ⟨printed [], { host := { host := {} } }⟩

theorem echoed_perform_idle : ∃ portions,
    ((Step.exec "true\nfalse").perform.final idle).world.host.typed = portions ∧
      Echoed (nextMark idle) (Command.run "true\nfalse".toList (nextMark idle))
        portions.flatten := by
  have absent : ¬ (nextMark idle).text <:+: "true\nfalse".toList :=
    Mark.not_infix_of_count (by decide)
  obtain ⟨⟨portions, typed, echoed⟩, begun⟩ := echoed_perform (.exec "true\nfalse") absent
  have held : idle.subject.session = some (printedSession []) := rfl
  have isOpen : (printedSession []).terminal = some { process := 0 } := rfl
  have taken : ∀ e, ¬ Refused idle (.exec "true\nfalse") e := by
    intro e refused
    cases refused with
    | exec free => cases free
    | file connected refused => cases refused
  refine ⟨portions, typed, echoed fun none => ?_⟩
  refine begun (fun _ _ _ => rfl) (settled_ready rfl held isOpen) taken ?_
  rw [typed, none, List.append_nil]

end SerialConsole.Transport
