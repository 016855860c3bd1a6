import SerialConsole.Proofs.Frame
import SerialConsole.Proofs.Transport.Failures

/-!
# Connections that are lost

A command that gets no answer in time, or whose console ends, costs the transport its session, and
whatever a connection is asked for next begins with attaching to the console anew
(`attaches_after_failure`). But when the console does not even take what is typed, the transport
stays ready with a session that is of no use.
-/

namespace SerialConsole

variable {σ τ υ α β : Type} [Host σ]

/-! ## Attaching -/

namespace Op

/-- Before anything else is asked of a process, a program is started. -/
def Starts (launch : Launch) (act : Op (Transcript σ) τ α) (s : On (Transcript σ) τ) : Prop :=
  ∃ answer, s.world.host.events ++ [.started launch answer] <+: (act.final s).world.host.events

variable {launch : Launch} {s s' : On (Transcript σ) τ}

theorem Starts.bind {x : Op (Transcript σ) τ α} {f : α → Op (Transcript σ) τ β}
    (h : Starts launch x s) (hf : ∀ a, Confined True True (f a)) : Starts launch (x >>= f) s := by
  obtain ⟨answer, log⟩ := h
  refine ⟨answer, ?_⟩
  cases ended : x s with
  | ok a s' =>
      rw [final_of_ok ended] at log
      rw [final_bind ended]
      exact (hf a).prefix_events log
  | error e s' =>
      rw [final_of_error ended] at log
      rw [final_bind_error ended]
      exact log

omit [Host σ] in
theorem Starts.after {x : Op (Transcript σ) τ α} {f : α → Op (Transcript σ) τ β} {a : α}
    (first : x s = .ok a s') (quiet : s'.world.host.events = s.world.host.events)
    (h : Starts launch (f a) s') : Starts launch (x >>= f) s := by
  obtain ⟨answer, log⟩ := h
  refine ⟨answer, ?_⟩
  rw [final_bind first, ← quiet]
  exact log

omit [Host σ] in
theorem Starts.map {act : Op (Transcript σ) τ α} (h : Starts launch act s) (f : α → β) :
    Starts launch (f <$> act) s := by
  obtain ⟨answer, log⟩ := h
  refine ⟨answer, ?_⟩
  rw [final_map]
  exact log

omit [Host σ] in
theorem Starts.observe {act : Op (Transcript σ) τ α} (h : Starts launch act s) :
    Starts launch (observe act) s := by
  obtain ⟨answer, log⟩ := h
  refine ⟨answer, ?_⟩
  rw [final_of_ok (observe_apply act s)]
  exact log

omit [Host σ] in
theorem Starts.on {other : υ} {act : Op (Transcript σ) υ α}
    (h : Starts launch act ⟨other, s.world⟩) : Starts launch (on other act) s := by
  obtain ⟨answer, log⟩ := h
  refine ⟨answer, ?_⟩
  rw [final_of_ok (on_apply other act s)]
  exact log

end Op

open Op

theorem Session.starts_attach (target : Target) (settings : ConsoleSettings)
    (s : On (Transcript σ) τ) :
    Starts (target.launch settings) (attach target settings : Op (Transcript σ) τ Session) s := by
  have spawned : Starts (target.launch settings)
      (demand (Host.spawn (target.launch settings)) (.spawn (target.launch settings).line) :
        Op (Transcript σ) τ ProcessId) s := by
    obtain ⟨answer, host, ran⟩ :
        ∃ a h, (Host.spawn (target.launch settings)).run s.world.host = (a, h) := ⟨_, _, rfl⟩
    have log : host.events = s.world.host.events ++ [.started (target.launch settings) answer] :=
      Transcript.events_of_spawn ran
    refine ⟨answer, ?_⟩
    cases answer with
    | ok process => rw [final_of_ok (demand_of_run ran), log]
    | error reason => rw [final_of_error (demand_of_refusal ran), log]
  exact .bind (.bind (.bind spawned fun _ => .pure _) fun _ => .pure _) fun _ => .pure _

theorem Session.starts_probe (target : Target) (settings : ConsoleSettings) (settle : Duration)
    (s : On (Transcript σ) τ) : Starts (target.launch settings)
      (probe target settings settle : Op (Transcript σ) τ Session) s :=
  .bind (starts_attach target settings s) (confined_staying settle)

namespace Transport

theorem starts_connect {s : On (Transcript σ) Transport} (free : s.subject.isConnected = false) :
    Starts (s.subject.target.launch s.subject.settings.console) connect s := by
  refine .after (subject_apply s) rfl ?_
  rw [if_neg (by simp [free])]
  refine .after (enter_apply .authenticating s) rfl ?_
  refine .bind (Session.starts_attach _ _ _).observe fun ended => ?_
  cases ended with
  | ok session => exact confined_login session
  | error e => exact .bind (confined_enter _) fun _ => .throw _

theorem starts_await (timeout : Duration) (s : On (Transcript σ) Transport) :
    Starts (s.subject.target.launch s.subject.settings.console) (await timeout) s := by
  obtain ⟨answer, log⟩ := Session.starts_probe s.subject.target s.subject.settings.console
    (.ofMillis s.subject.settings.timeouts.pollInterval) (⟨(), s.world⟩ : On (Transcript σ) Unit)
  rw [← world_probe] at log
  refine ⟨answer, ?_⟩
  rw [host_await]
  exact Poll.waitFor_first (P := fun world : World (Transcript σ) => _ <+: world.host.events)
    (fun _ hw => steady_probe (Transcript.steady _) s.subject hw) _ log

theorem starts_connectWhenAvailable (timeout : Duration) {s : On (Transcript σ) Transport}
    (free : s.subject.isConnected = false) :
    Starts (s.subject.target.launch s.subject.settings.console)
      (connectWhenAvailable timeout) s := by
  refine .after (subject_apply s) rfl ?_
  rw [if_neg (by simp [free])]
  exact .bind (starts_await timeout s) confined_login

end Transport

/-! ## Requests -/

namespace Connection

/-- What a connection can be asked for. -/
inductive Request where
  | connect
  | exec (command : String)
  | put (file remote : String)
  | fetch (remote file : String)

/-- Carries out a request. -/
def Request.perform : Request → Op σ Connection Transport.Reply
  | .connect => (fun _ => .done) <$> Connection.connect
  | .exec command => .ran <$> Connection.exec command
  | .put file remote => (fun _ => .done) <$> Connection.put file remote
  | .fetch remote file => .received <$> Connection.fetch remote file

/-- Only a file that is there can be sent. -/
def Request.Sound (request : Request) (host : σ) : Prop :=
  ∀ file remote, request = .put file remote → ((Host.isFile file).run host).1 = true

omit [Host σ] in
theorem onTransport_of_ok {act : Op σ Transport α} {s : On σ Connection} {a : α}
    {s' : On σ Transport} (h : act ⟨s.subject.transport, s.world⟩ = .ok a s') :
    onTransport act s = .ok a ⟨{ s.subject with transport := s'.subject }, s'.world⟩ := by
  unfold onTransport
  rw [bind_of_ok (subject_apply s), bind_of_ok (on_apply _ act s), outcome, final, h]
  rfl

omit [Host σ] in
theorem onTransport_of_error {act : Op σ Transport α} {s : On σ Connection} {e : Failure}
    {s' : On σ Transport} (h : act ⟨s.subject.transport, s.world⟩ = .error e s') :
    onTransport act s = .error e ⟨{ s.subject with transport := s'.subject }, s'.world⟩ := by
  unfold onTransport
  rw [bind_of_ok (subject_apply s), bind_of_ok (on_apply _ act s), outcome, final, h]
  rfl

theorem starts_onTransport {launch : Launch} {act : Op (Transcript σ) Transport α}
    {s : On (Transcript σ) Connection} (h : Starts launch act ⟨s.subject.transport, s.world⟩) :
    Starts launch (onTransport act) s :=
  .after (subject_apply s) rfl <|
    .bind (.on h) fun _ => .bind (.modifySubject _) fun _ => .conclude _

theorem starts_connect {s : On (Transcript σ) Connection}
    (free : s.subject.transport.isConnected = false) :
    Starts (s.subject.transport.target.launch s.subject.transport.settings.console) connect s := by
  refine .after (subject_apply s) rfl ?_
  cases s.subject.waitFor with
  | none => exact starts_onTransport (Transport.starts_connect free)
  | some timeout => exact starts_onTransport (Transport.starts_connectWhenAvailable timeout free)

/-- Whatever a connection that has no session is asked for begins with attaching to the console. -/
theorem starts_perform {request : Request} {s : On (Transcript σ) Connection}
    (free : s.subject.transport.isConnected = false) (sound : request.Sound s.world.host) :
    Starts (s.subject.transport.target.launch s.subject.transport.settings.console)
      request.perform s := by
  have connecting := starts_connect free
  cases request with
  | connect => exact connecting.map _
  | exec command =>
      refine Starts.map ?_ _
      exact connecting.bind fun _ => confined_onTransport (Transport.confined_exec command)
  | put file remote =>
      refine Starts.map ?_ _
      obtain ⟨isFile, host, found⟩ : ∃ a h, (Host.isFile file).run s.world.host = (a, h) :=
        ⟨_, _, rfl⟩
      obtain rfl : true = isFile := by
        have there := sound file remote rfl
        rw [found] at there
        exact there.symm
      -- looking for the file is no business of any process, so the account has not changed
      refine .after (host_of_run found) (Transcript.events_of_pass found) ?_
      rw [if_pos rfl]
      exact (starts_connect (s := { s with world := { s.world with host } }) free).bind fun _ =>
        confined_onTransport (Transport.confined_put file remote)
  | fetch remote file =>
      refine Starts.map ?_ _
      exact connecting.bind fun _ => confined_onTransport (Transport.confined_fetch remote file)

/-! ## Commands that fail -/

open Transport (LeftBy Reachable loggedIn nextMark handed)

/-- The console refuses the line that runs a command. -/
def Refuses (command reason : String) (s : On σ Transport) : Prop :=
  ∃ session terminal, s.subject.session = some session ∧ session.terminal = some terminal ∧
    ((Host.write terminal.process (Text.encode (Command.run command.toList (nextMark s)))).run
      (handed session s).world.host).1 = .error reason

theorem exec_eq_error {t : Transport} (reached : Reachable σ t) (ready : t.phase = .ready)
    {command : String} {world : World σ} {e : Failure} {s' : On σ Transport}
    (failed : Transport.exec command ⟨t, world⟩ = .error e s') :
    LeftBy e t s'.subject ∧ ((∃ reason, e = .io reason ∧ Refuses command reason ⟨t, world⟩) ∨
      e.OfWait ∨ ∃ m output, e = .unparsedOutput m output) := by
  obtain ⟨session, terminal, held, isOpen⟩ := reached.session_of_ready ready
  refine ⟨Transport.exec_leftBy (s := ⟨t, world⟩) ready held isOpen failed, ?_⟩
  obtain ⟨act, rfl, ran⟩ := Transport.exec_of_ready (s := ⟨t, world⟩) ready held command
  rw [ran] at failed
  have ended := outcome_eq_error (Transport.finish_eq_error failed).1
  obtain ⟨reason, rfl, refused⟩ | ofWait | ⟨output, rfl⟩ :=
    Session.runCommand_eq_error (s := handed session ⟨t, world⟩) isOpen ended
  · exact .inl ⟨reason, rfl, session, terminal, held, isOpen, refused⟩
  · exact .inr (.inl ofWait)
  · exact .inr (.inr ⟨_, output, rfl⟩)

theorem connected_of_leftBy {e : Failure} {before after : Transport} (mild : e.isFatal = false)
    (left : LeftBy e before after) : after.isConnected = true := by
  obtain ⟨session, session', -, -, rfl⟩ := left.mild mild
  exact Transport.isConnected_iff.mpr ⟨rfl, session', rfl⟩

/-- What becomes of a connection whose command fails. If it was waited for in vain, the transport
has no session afterwards, and whatever is asked for next begins with attaching to the console anew.
But the transport is still connected if no exit status was found, and also if the console refused
what was typed. -/
theorem attaches_after_failure {t : Transport} (reached : Reachable (Transcript σ) t)
    (ready : t.phase = .ready) {command : String} {world : World (Transcript σ)} {e : Failure}
    {s' : On (Transcript σ) Transport}
    (failed : Transport.exec command ⟨t, world⟩ = .error e s') :
    (∃ reason, e = .io reason ∧ Refuses command reason ⟨t, world⟩ ∧
        s'.subject.isConnected = true) ∨
      (∃ m output, e = .unparsedOutput m output ∧ s'.subject.isConnected = true) ∨
      (e.OfWait ∧ s'.subject = t.withoutSession ∧
        ∀ (c : Connection) (request : Request) (later : World (Transcript σ)),
          c.transport = s'.subject → request.Sound later.host →
            Starts (t.target.launch t.settings.console) request.perform ⟨c, later⟩) := by
  obtain ⟨left, ⟨reason, rfl, refused⟩ | ofWait | ⟨m, output, rfl⟩⟩ :=
    exec_eq_error reached ready failed
  · exact .inl ⟨reason, rfl, refused, connected_of_leftBy rfl left⟩
  · have gone := left.fatal ofWait.isFatal
    refine .inr (.inr ⟨ofWait, gone, fun c request later same sound => ?_⟩)
    rw [gone] at same
    have starts := starts_perform (s := ⟨c, later⟩) (by rw [same]; rfl) sound
    rw [same] at starts
    exact starts
  · exact .inr (.inl ⟨m, output, rfl, connected_of_leftBy rfl left⟩)

/-- A transcript of a host that plays back. -/
def recording (world : World Playback) : World (Transcript Playback) where
  host.host := world.host

theorem attaches_after_failure_typing : ∃ t s', Reachable (Transcript Playback) t ∧
    Transport.exec "true" ⟨t, recording Transport.refusing⟩ =
      .error (.io "Input/output error (os error 5)") s' ∧ s'.subject.isConnected = true := by
  let t : Transport := (Transport.Step.connect.perform.final
    ⟨Transport.greeter, recording Transport.prompting⟩).subject
  have reached : Reachable (Transcript Playback) t :=
    .step (.new rfl rfl) .connect (recording Transport.prompting)
  have ready : t.phase = .ready := by decide +kernel
  have ended : (Transport.exec "true").outcome ⟨t, recording Transport.refusing⟩ =
      .error (.io "Input/output error (os error 5)") := by
    decide +kernel
  have failed := outcome_eq_error ended
  obtain ⟨reason, -, -, connected⟩ | ⟨m, output, other, -⟩ | ⟨ofWait, -⟩ :=
    attaches_after_failure reached ready failed
  · exact ⟨t, _, reached, failed, connected⟩
  · cases other
  · cases ofWait

/-- A console that takes nothing any more is kept: the transport stays ready. -/
theorem connected_after_refused_typing :
    ¬ ∀ (σ : Type) [Host σ] (t : Transport) (command : String) (world : World σ) (e : Failure)
        (s' : On σ Transport), Reachable σ t → t.phase = .ready →
      Transport.exec command ⟨t, world⟩ = .error e s' →
      (∀ m output, e ≠ .unparsedOutput m output) →
      s'.subject.phase = .disconnected ∧ s'.subject.session = none := by
  intro gone
  have ended : (Transport.exec "true").outcome ⟨loggedIn, Transport.refusing⟩ =
      .error (.io "Input/output error (os error 5)") := by
    decide +kernel
  have disconnected := (gone Playback loggedIn "true" Transport.refusing _ _
    Transport.reachable_loggedIn Transport.phase_loggedIn (outcome_eq_error ended) nofun).1
  have ready : ((Transport.exec "true").final ⟨loggedIn, Transport.refusing⟩).subject.phase =
      .ready := by
    decide +kernel
  rw [disconnected] at ready
  cases ready

end Connection

end SerialConsole
