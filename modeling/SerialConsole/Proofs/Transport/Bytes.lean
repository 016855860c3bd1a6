import SerialConsole.Proofs.Frame
import SerialConsole.Proofs.Session.Bytes
import SerialConsole.Proofs.Transport.Command

/-!
# The bytes of commands in a run

Operations are carried out one after the other, and `turns` keeps account of each. What a command
gives as its bytes is what has been heard in its own turn, whatever was heard in those before it and
however they ended (`bytes_of_turns`).
-/

namespace SerialConsole.Transport

variable {σ : Type} [Host σ]

/-- What an operation of a run found, what it came to, and what happened meanwhile. -/
structure Turn where
  step : Step
  before : Transport
  result : Except Failure Reply
  events : List Event

/-- A transport on a host all of whose events so far are on account. -/
def logged (t : Transport) (log : List Event) (world : World σ) : On (Transcript σ) Transport :=
  ⟨t, { host := { host := world.host, events := log }, clock := world.clock }⟩

/-- Carries out operations one after the other, and gives the transport and the account of all
events in the end. The world may change in any way between two operations. -/
def turns (t : Transport) (log : List Event) :
    List (Step × World σ) → List Turn × Transport × List Event
  | [] => ([], t, log)
  | (step, world) :: rest =>
    let s := logged t log world
    let s' := step.perform.final s
    let (later, t', log') := turns s'.subject s'.world.host.events rest
    ({ step, before := t, result := step.perform.outcome s,
       events := s'.world.host.events.drop log.length } :: later, t', log')

/-- The bytes that a command gives are those that have been heard since it began, and all of them;
nothing else has been heard but the process of its session. -/
structure Gives (before : Transport) (events : List Event) (outcome : Command.Outcome) : Prop where
  bytes : outcome.raw = events.flatMap Event.printed
  only : ∃ session terminal, before.session = some session ∧ session.terminal = some terminal ∧
    ∀ process arrival, .heard process arrival ∈ events → process = terminal.process

theorem events_handed (session : Session) (s : On (Transcript σ) Transport) :
    (handed session s).world.host.events = s.world.host.events :=
  List.append_nil _

theorem gives_of_exec {command : String} {s s' : On (Transcript σ) Transport}
    {outcome : Command.Outcome} (ran : exec command s = .ok outcome s') :
    ∃ events, s'.world.host.events = s.world.host.events ++ events ∧
      Gives s.subject events outcome := by
  obtain ⟨done, s₁, required, -⟩ := Op.bind_eq_ok ran
  obtain ⟨ready, session, held⟩ := isConnected_iff.mp (connected_of_requireReady required).1
  obtain ⟨act, rfl, executed⟩ := exec_of_ready ready held command
  rw [executed] at ran
  have ended := finish_eq_ok ran
  rw [ended, finish_ok] at ran
  cases ran
  -- the session is handed out without bytes
  obtain ⟨terminal, events, isOpen, log, bytes, only⟩ :=
    Session.bytes_of_runCommand rfl (Op.outcome_eq_ok ended)
  rw [events_handed] at log
  exact ⟨events, log, bytes, session, terminal, held, isOpen, only⟩

theorem exec_of_ran {step : Step} {s : On σ Transport} {outcome : Command.Outcome}
    (ran : step.perform.outcome s = .ok (.ran outcome)) :
    ∃ command, step = .exec command ∧ (exec command).outcome s = .ok outcome := by
  cases step with
  | exec command =>
    rw [Step.perform, Op.outcome_map] at ran
    cases ended : (exec command).outcome s with
    | error e =>
      rw [ended] at ran
      cases ran
    | ok given =>
      rw [ended] at ran
      cases ran
      exact ⟨command, rfl, ended⟩
  | _ =>
    rw [Step.perform, Op.outcome_map] at ran
    generalize Op.outcome _ s = ended at ran
    cases ended <;> cases ran

theorem gives_of_perform {step : Step} {s : On (Transcript σ) Transport}
    {outcome : Command.Outcome} (ran : step.perform.outcome s = .ok (.ran outcome)) :
    ∃ command events, step = .exec command ∧
      (step.perform.final s).world.host.events = s.world.host.events ++ events ∧
      Gives s.subject events outcome := by
  obtain ⟨command, rfl, ended⟩ := exec_of_ran ran
  obtain ⟨events, log, gives⟩ := gives_of_exec (Op.outcome_eq_ok ended)
  refine ⟨command, events, rfl, ?_, gives⟩
  rw [Step.perform, Op.final_map]
  exact log

/-! ## Runs -/

theorem events_perform (step : Step) (t : Transport) (log : List Event) (world : World σ) :
    ∃ events, (step.perform.final (logged t log world)).world.host.events = log ++ events := by
  obtain ⟨events, whole⟩ :=
    (confined_perform step).prefix_events (s := logged t log world) (List.prefix_refl log)
  exact ⟨events, whole.symm⟩

/-- In every run the turns share the account of all events without a gap and without an overlap, and
every command that succeeds gives as its bytes what is heard in its own turn. -/
theorem bytes_of_turns (t : Transport) (log : List Event) (steps : List (Step × World σ)) :
    ∃ done t' log', turns t log steps = (done, t', log') ∧
      done.map Turn.step = steps.map Prod.fst ∧ log' = log ++ done.flatMap Turn.events ∧
      ∀ turn ∈ done, ∀ outcome, turn.result = .ok (.ran outcome) →
        (∃ command, turn.step = .exec command) ∧ Gives turn.before turn.events outcome := by
  induction steps generalizing t log with
  | nil => exact ⟨[], t, log, rfl, rfl, (List.append_nil log).symm, by simp⟩
  | cons first rest ih =>
    obtain ⟨step, world⟩ := first
    obtain ⟨events, whole⟩ := events_perform step t log world
    obtain ⟨later, t', log', ran, same, account, given⟩ :=
      ih (step.perform.final (logged t log world)).subject (log ++ events)
    have own : (step.perform.final (logged t log world)).world.host.events.drop log.length =
        events := by
      rw [whole, List.drop_left]
    rw [← whole] at ran
    refine ⟨{ step, before := t, result := step.perform.outcome (logged t log world), events } ::
      later, t', log', ?_, ?_, ?_, ?_⟩
    · simp only [turns, ran, own]
    · rw [List.map_cons, List.map_cons, same]
    · rw [account, List.flatMap_cons, List.append_assoc]
    · intro turn member outcome succeeded
      rcases List.mem_cons.mp member with rfl | member
      · obtain ⟨command, events', rfl, account', gives⟩ := gives_of_perform succeeded
        obtain rfl : events = events' := List.append_cancel_left (whole.symm.trans account')
        exact ⟨⟨command, rfl⟩, gives⟩
      · exact given turn member outcome succeeded

end SerialConsole.Transport
