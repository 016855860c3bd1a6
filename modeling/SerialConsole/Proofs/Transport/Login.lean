import SerialConsole.Proofs.Session.Exchange
import SerialConsole.Proofs.Transport.Runs

/-!
# Logging in

`connect_exchange` tells how `connect` ends, whatever the console prints and whenever it falls
silent or hangs up: there is no program to attach with, or the exchange with the prompts of the
console is complete, or it got stuck in a step and the process has been ended.
-/

namespace SerialConsole.Transport

open Host (Obliging)
open Session (Exchange LoginStep Stands Stuck loginLines typedBefore)

variable {σ τ : Type} [Host σ]

/-- A process is ended, unless it has ended by itself. -/
inductive EndsProcess (process : ProcessId) : List Event → Prop
  | gone : EndsProcess process [.asked process false]
  | killed (answer : Except String Unit) :
      EndsProcess process [.asked process true, .killed process answer]

theorem endsProcess_close {s : On (Transcript σ) Session} {terminal : Terminal}
    (isOpen : s.subject.terminal = some terminal) : ∃ closing,
      EndsProcess terminal.process closing ∧
      (Session.close.final s).world.host.events = s.world.host.events ++ closing := by
  obtain ⟨alive, host, asked⟩ :
      ∃ a h, (Host.isAlive terminal.process).run s.world.host = (a, h) := ⟨_, _, rfl⟩
  have log := Transcript.events_of_isAlive asked
  have asks : terminal.isAlive { s with subject := { s.subject with terminal := none } } =
      .ok alive ⟨{ s.subject with terminal := none }, { s.world with host }⟩ := Op.host_of_run asked
  unfold Session.close
  rw [Op.final_bind (Op.subject_apply s), isOpen]
  simp only
  rw [Op.final_bind (Op.setSubject_apply _ s), Terminal.kill, Op.final_bind asks]
  cases alive with
  | false => exact ⟨_, .gone, log⟩
  | true =>
      obtain ⟨answer, host', killed⟩ : ∃ a h, (Host.kill terminal.process).run host = (a, h) :=
        ⟨_, _, rfl⟩
      have log' := Transcript.events_of_kill killed
      rw [log, List.append_assoc] at log'
      refine ⟨_, .killed answer, ?_⟩
      cases answer with
      | ok done =>
          rw [if_pos rfl, Op.final_of_ok (Op.demand_of_run killed)]
          exact log'
      | error reason =>
          rw [if_pos rfl, Op.final_of_error (Op.demand_of_refusal killed)]
          exact log'

/-- How logging in on a new process can end, given the account up to then. -/
inductive LoginEnd (t : Transport) (process : ProcessId) (before : List Event) :
    EStateM.Result Failure (On (Transcript σ) Transport) Unit → Prop
  | ready {log : List Event} {session : Session} {world : World (Transcript σ)}
      (exchange : Exchange process t.settings.credentials t.prompts .done log session.buffer)
      (isOpen : session.terminal.map Terminal.process = some process)
      (events : world.host.events = before ++ log)
      (written : log.flatMap Event.written = loginLines t.settings.credentials) :
      LoginEnd t process before
        (.ok () ⟨{ t with session := some session, phase := .ready }, world⟩)
  | stuck {log closing : List Event} {step : LoginStep} {stage : LoginStage} {b : Output.Buffer}
      {world : World (Transcript σ)}
      (exchange : Exchange process t.settings.credentials t.prompts step log b)
      (reports : step.stage? = some stage) (ends : EndsProcess process closing)
      (events : world.host.events = before ++ log ++ closing)
      (written : log.flatMap Event.written =
        (loginLines t.settings.credentials).take (typedBefore stage)) :
      LoginEnd t process before
        (.error (.authentication stage (String.ofList (Text.excerpt b.pending)))
          ⟨t.withoutSession, world⟩)

theorem login_end (obliging : Obliging σ) {session : Session} {terminal : Terminal}
    (isOpen : session.terminal = some terminal) (fresh : session.buffer = {}) {t : Transport}
    (free : t.session = none) (phase : Phase) (world : World (Transcript σ)) :
    LoginEnd t terminal.process world.host.events (login session ⟨{ t with phase }, world⟩) := by
  have advances := Session.advances_login t.settings.credentials t.prompts world.host.events
    terminal obliging (.ofMillis t.settings.timeouts.login) ⟨session, world⟩
    ⟨isOpen, [], (List.append_nil _).symm, rfl, fresh⟩
  unfold login
  rw [Op.bind_of_ok (enter_apply .authenticating _), Op.bind_of_ok (Op.subject_apply _)]
  simp only
  rw [Op.bind_of_ok (Op.on_apply session _ _)]
  simp only [Op.outcome, Op.final]
  cases ended : Session.login t.settings.credentials t.prompts (.ofMillis t.settings.timeouts.login)
      ⟨session, world⟩ with
  | ok done s' =>
      rw [ended] at advances
      obtain ⟨log, events, exchange⟩ := advances.account
      exact .ready exchange (by rw [advances.isOpen]; rfl) events exchange.written_eq
  | error e s' =>
      rw [ended] at advances
      obtain ⟨step, stage, stands, reports, rfl⟩ := advances
      obtain ⟨log, events, exchange⟩ := stands.account
      obtain ⟨closing, ends, closed⟩ := endsProcess_close stands.isOpen
      have written := exchange.written_eq
      rw [LoginStep.typed_of_stage reports] at written
      rw [events] at closed
      simp only
      rw [Op.bind_of_ok (Op.on_apply s'.subject Session.close _)]
      -- the session that is given up was never the transport's own
      have stuck := LoginEnd.stuck (t := t) exchange reports ends closed written
      rw [withoutSession, ← free] at stuck
      exact stuck

theorem connect_of_connected {s : On σ Transport} (connected : s.subject.isConnected = true) :
    connect s = .ok () s := by
  unfold connect
  rw [Op.bind_of_ok (Op.subject_apply s), if_pos connected]
  rfl

theorem attach_of_refused {target : Target} {settings : ConsoleSettings} {s : On σ τ}
    {reason : String} {host : σ}
    (ran : (Host.spawn (target.launch settings)).run s.world.host = (.error reason, host)) :
    Session.attach target settings s = .error (.spawn (target.launch settings).line reason)
      { s with world := { s.world with host } } :=
  Op.bind_of_error (Op.bind_of_error (Op.bind_of_error (Op.demand_of_refusal ran)))

theorem attach_of_started {target : Target} {settings : ConsoleSettings} {s : On σ τ}
    {process : ProcessId} {host : σ}
    (ran : (Host.spawn (target.launch settings)).run s.world.host = (.ok process, host)) :
    Session.attach target settings s =
      .ok { target := some target, launch := target.launch settings,
            terminal := some { process, streaming := true } }
        { s with world := { s.world with host } } := by
  have started : Terminal.spawn (target.launch settings) s =
      .ok { process } { s with world := { s.world with host } } :=
    Op.bind_of_ok (Op.demand_of_run ran)
  have spawned : Session.spawn (target.launch settings) s =
      .ok { launch := target.launch settings, terminal := some { process, streaming := true } }
        { s with world := { s.world with host } } :=
    Op.bind_of_ok started
  exact Op.bind_of_ok spawned

/-- How connecting ends, as long as the console takes what is typed. It does nothing if the
transport is connected. Otherwise it attaches to the console, unless that is refused, and logs in.
What is typed is an empty line twice, the user name and the password, as far as it gets: the user
name once a line has been shown and the login prompt after it, the password once the prompt for it
has been shown after that. Only if the prompt of the shell has been shown after that as well, the
transport is ready. In all other cases the step that did not succeed is reported, which the number
of lines typed tells, the process is ended and the transport disconnected. -/
theorem connect_exchange (obliging : Obliging σ) {t : Transport}
    (reached : Reachable (Transcript σ) t) (world : World (Transcript σ)) :
    (t.isConnected = true → connect ⟨t, world⟩ = .ok () ⟨t, world⟩) ∧
      (t.isConnected = false →
        let launch := t.target.launch t.settings.console
        (∃ reason s', connect ⟨t, world⟩ = .error (.spawn launch.line reason) s' ∧
          s'.subject = t.withoutSession ∧
          s'.world.host.events = world.host.events ++ [.started launch (.error reason)]) ∨
        ∃ process, LoginEnd t process (world.host.events ++ [.started launch (.ok process)])
          (connect ⟨t, world⟩)) := by
  refine ⟨fun connected => connect_of_connected (s := ⟨t, world⟩) connected, fun free => ?_⟩
  obtain ⟨session, -, phase, held, -⟩ | ⟨phase, none⟩ := reached.settled.ready_or_disconnected
  · rw [isConnected_iff.mpr ⟨phase, session, held⟩] at free
    cases free
  let begun : On (Transcript σ) Transport := ⟨{ t with phase := .authenticating }, world⟩
  obtain ⟨answer, host, ran⟩ : ∃ a h,
      (Host.spawn (t.target.launch t.settings.console)).run world.host = (a, h) := ⟨_, _, rfl⟩
  have log := Transcript.events_of_spawn ran
  unfold connect
  rw [Op.bind_of_ok (Op.subject_apply _), if_neg (by simp [free]),
    Op.bind_of_ok (enter_apply .authenticating _), Op.bind_of_ok (Op.observe_apply _ _)]
  simp only [Op.outcome, Op.final]
  cases answer with
  | error reason =>
      rw [attach_of_refused (s := begun) ran]
      refine .inl ⟨reason, _, rfl, ?_, log⟩
      rw [withoutSession, ← none]
  | ok process =>
      rw [attach_of_started (s := begun) ran]
      refine .inr ⟨process, ?_⟩
      let session : Session :=
        { target := some t.target
          launch := t.target.launch t.settings.console
          terminal := some { process, streaming := true } }
      have isOpen : session.terminal = some { process, streaming := true } := rfl
      rw [← log]
      exact login_end obliging isOpen rfl none .authenticating { world with host }

/-- A transport to a scripted console. -/
def guest : Transport :=
  { greeter with settings := { console := { command := Rehearsal.program } } }

/-- A console that is woken by two lines and asks for the user name and the password. -/
def asking : World (Transcript Rehearsal) where
  host.host.scripts :=
    [{ cooked := 2
       steps := [.sayBytes (Text.encode "login: ".toList), .receive [10],
        .sayBytes (Text.encode "Password: ".toList), .receive [10],
        .sayBytes (Text.encode "# ".toList)] }]

theorem connect_exchange_asking : ∃ process log session,
    Exchange process guest.settings.credentials guest.prompts .done log session.buffer ∧
      log.flatMap Event.written = loginLines guest.settings.credentials ∧
      (connect.final ⟨guest, asking⟩).subject.phase = .ready ∧
      (connect.final ⟨guest, asking⟩).subject.session = some session := by
  have obliging : Obliging Rehearsal := fun _ _ _ => rfl
  have reached : Reachable (Transcript Rehearsal) guest := .new rfl rfl
  have ended : connect.outcome ⟨guest, asking⟩ = .ok () := by decide +kernel
  have connected := Op.outcome_eq_ok ended
  obtain ⟨reason, s', refused, -⟩ | ⟨process, ends⟩ :=
    (connect_exchange obliging reached asking).2 rfl
  · rw [connected] at refused
    cases refused
  · rw [connected] at ends
    generalize connect.final ⟨guest, asking⟩ = s' at ends
    cases ends with
    | ready exchange isOpen events written => exact ⟨process, _, _, exchange, written, rfl, rfl⟩

end SerialConsole.Transport
