import SerialConsole.Proofs.Session.Deeds
import SerialConsole.Proofs.Transport.Failures

/-!
# Failures of a transport

A transport does not wait for output itself: a failure of one of its operations that shows some is
the one that something done with a session ended with. `Uses` says what that is, and
`shown_of_failure` sums up what failures show of the output.
-/

namespace SerialConsole.Transport

open Op (Keeps)
open Session (Deed Quiet Reported quiet_spawn)

variable {σ τ α : Type} [Host σ]

/-- Logging in with the credentials and the settings of a transport. -/
def entry (t : Transport) : Deed :=
  .login t.settings.credentials t.prompts (.ofMillis t.settings.timeouts.login)

/-- What an operation does with a session, and the state in which it begins to. -/
inductive Uses (s : On σ Transport) : Step → Deed → On σ Session → Prop
  | exec {command : String} {session : Session} (ready : s.subject.phase = .ready)
      (held : s.subject.session = some session) :
      Uses s (.exec command)
        (.run s.subject.prompts.shell command.toList (nextMark s)
          (.after s.world.clock (.ofMillis s.subject.settings.timeouts.command)))
        (handed session s)
  | connect {session : Session} {r : On σ Transport} (free : s.subject.isConnected = false)
      (attached : Session.attach s.subject.target s.subject.settings.console
        { s with subject := { s.subject with phase := .authenticating } } = .ok session r) :
      Uses s .connect (entry s.subject) ⟨session, r.world⟩
  | connectWhenAvailable {timeout : Duration} {session : Session} {r : On σ Transport}
      (free : s.subject.isConnected = false) (found : await timeout s = .ok session r) :
      Uses s (.connectWhenAvailable timeout) (entry s.subject) ⟨session, r.world⟩

/-- The failure shows no output, or something that the operation does with a session ended so. -/
def Passes (s : On σ Transport) (step : Step) (e : Failure) : Prop :=
  e.carried? = none ∨ ∃ deed start r, Uses s step deed start ∧ deed.perform start = .error e r

variable {s s' : On σ Transport} {e : Failure}

/-! ## Commands -/

theorem exec_passes {command : String} (failed : exec command s = .error e s') :
    Passes s (.exec command) e := by
  cases connected : s.subject.isConnected with
  | false =>
    unfold exec at failed
    rw [Op.bind_of_error (requireReady_of_free connected)] at failed
    cases failed
    exact .inl rfl
  | true =>
    obtain ⟨ready, session, held⟩ := isConnected_iff.mp connected
    obtain ⟨act, rfl, ran⟩ := exec_of_ready ready held command
    rw [ran] at failed
    have ended := Op.outcome_eq_error (finish_eq_error failed).1
    exact .inr ⟨_, _, _, .exec ready held, Op.map_of_error ended⟩

/-! ## Logging in -/

theorem login_eq_error {session : Session} (failed : login session s = .error e s') :
    ∃ r, (entry s.subject).perform ⟨session, s.world⟩ = .error e r := by
  unfold login at failed
  rw [Op.bind_of_ok (enter_apply .authenticating s), Op.bind_of_ok (Op.subject_apply _)] at failed
  dsimp only at failed
  rw [Op.bind_of_ok (Op.on_apply session _ _), Op.outcome, Op.final] at failed
  cases ended : Session.login s.subject.settings.credentials s.subject.prompts
      (.ofMillis s.subject.settings.timeouts.login) ⟨session, s.world⟩ with
  | ok done r =>
    rw [ended] at failed
    cases failed
  | error cause r =>
    rw [ended] at failed
    dsimp only at failed
    rw [Op.bind_of_ok (Op.on_apply r.subject Session.close _)] at failed
    cases failed
    exact ⟨r, ended⟩

theorem quiet_attach (target : Target) (settings : ConsoleSettings) :
    Quiet (Session.attach target settings : Op σ τ Session) :=
  Keeps.bind (quiet_spawn _) fun _ => Keeps.pure _

theorem connect_passes (failed : connect s = .error e s') : Passes s .connect e := by
  unfold connect at failed
  rw [Op.bind_of_ok (Op.subject_apply s)] at failed
  cases free : s.subject.isConnected with
  | true =>
    rw [if_pos free] at failed
    cases failed
  | false =>
    rw [if_neg (by simp [free]), Op.bind_of_ok (enter_apply .authenticating s),
      Op.bind_of_ok (Op.observe_apply _ _), Op.outcome, Op.final] at failed
    cases attached : Session.attach s.subject.target s.subject.settings.console
        { s with subject := { s.subject with phase := .authenticating } } with
    | ok session r =>
      rw [attached] at failed
      obtain ⟨q, ended⟩ := login_eq_error (s := r) failed
      rw [(untouched_attach _ _ _).ok rfl attached] at ended
      exact .inr ⟨_, _, q, .connect free attached, ended⟩
    | error cause r =>
      rw [attached] at failed
      cases failed
      exact .inl ((quiet_attach _ _).error trivial attached).2

/-- A probe of the console that shows output is worth another try. -/
theorem probe_eq_error {target : Target} {settings : ConsoleSettings} {settle : Duration}
    {s s' : On σ τ} (failed : Session.probe target settings settle s = .error e s')
    (definite : retries e = false) : e.carried? = none := by
  rw [Session.probe_eq] at failed
  obtain attaching | ⟨session, r, attached, rest⟩ := Op.bind_eq_error failed
  · exact ((quiet_attach _ _).error trivial attaching).2
  cases settled : Session.settles settle (⟨session, r.world⟩ : On σ Session) with
  | ok done q =>
    rw [Session.staying_of_ok settled] at rest
    cases rest
  | error cause q =>
    rw [Session.staying_of_error settled] at rest
    cases rest
    obtain silent | ⟨⟨buffer, rfl⟩, -⟩ := Session.settles_eq_error settled
    · exact silent
    · cases definite

theorem await_eq_error {timeout : Duration} (failed : await timeout s = .error e s') :
    e.carried? = none := by
  obtain ⟨item, p, world, waited, ended⟩ := Poll.waitFor_any_end
    (probePlan timeout (.ofMillis s.subject.settings.timeouts.pollInterval)) s.subject.probe
    (p := {}) rfl s.world
  unfold await at failed
  simp only [waited] at failed
  cases ended with
  | ready => cases failed
  | expired =>
    cases failed
    rfl
  | @aborted _ _ last _ _ cause _ tried early called definite =>
    -- the probes that show output are the ones after which the console is tried again
    cases failed
    unfold probe at called
    cases probed : Session.probe s.subject.target s.subject.settings.console
        (.ofMillis s.subject.settings.timeouts.pollInterval) (⟨(), last⟩ : On σ Unit) with
    | ok session r => simp [probed] at called
    | error e r =>
      simp only [probed, Prod.mk.injEq, Except.error.injEq] at called
      obtain ⟨⟨rfl, -⟩, -⟩ := called
      exact probe_eq_error probed definite

theorem connectWhenAvailable_passes {timeout : Duration}
    (failed : connectWhenAvailable timeout s = .error e s') :
    Passes s (.connectWhenAvailable timeout) e := by
  unfold connectWhenAvailable at failed
  rw [Op.bind_of_ok (Op.subject_apply s)] at failed
  cases free : s.subject.isConnected with
  | true =>
    rw [if_pos free] at failed
    cases failed
  | false =>
    rw [if_neg (by simp [free])] at failed
    obtain awaiting | ⟨session, r, found, entering⟩ := Op.bind_eq_error failed
    · exact .inl (await_eq_error awaiting)
    · obtain ⟨q, ended⟩ := login_eq_error entering
      have same := (await_end timeout s).2
      rw [Op.final_of_ok found] at same
      rw [same] at ended
      exact .inr ⟨_, _, q, .connectWhenAvailable free found, ended⟩

/-! ## Transfers -/

omit [Host σ] in
theorem quiet_requireReady : Quiet (requireReady : Op σ Transport Unit) := by
  refine Keeps.bind Keeps.subject fun t => ?_
  split
  · exact Keeps.pure _
  · exact Keeps.throw rfl

omit [Host σ] in
theorem quiet_during (phase : Phase) (act : Op σ Session α) : Quiet (during phase act) := by
  refine Keeps.bind Keeps.subject fun t => ?_
  split
  · refine Keeps.bind (fun _ _ => trivial) fun _ => ?_
    refine Keeps.bind (fun s _ => ?_) fun _ => Keeps.bind (fun _ _ => trivial) fun _ => Keeps.pure _
    rw [Op.on_apply]
    trivial
  · exact Keeps.throw rfl

theorem quiet_finishTransfer (path : String) (m : Mark) (result : Except Failure α) :
    Quiet (finishTransfer path m result : Op σ Transport α) := by
  intro s _
  cases ended : finishTransfer path m result s with
  | ok a s' => trivial
  | error e s' =>
    obtain ⟨cause, rfl⟩ := finishTransfer_eq_error ended
    exact ⟨trivial, rfl⟩

theorem quiet_put (file remote : String) : Quiet (put file remote : Op σ Transport Unit) := by
  refine Keeps.bind (Keeps.host fun _ _ => trivial) fun isFile => ?_
  cases isFile with
  | false => exact fun _ _ => ⟨trivial, rfl⟩
  | true =>
    refine Keeps.bind quiet_requireReady fun _ => Keeps.bind Keeps.subject fun t => ?_
    refine Keeps.bind (Keeps.host fun _ _ => trivial) fun mark => ?_
    refine Keeps.bind (Keeps.demand (fun _ _ => trivial) fun _ => rfl) fun source => ?_
    refine Keeps.bind (Keeps.deadline _) fun deadline => ?_
    exact Keeps.bind (quiet_during _ _) fun result => quiet_finishTransfer remote mark result

theorem quiet_fetch (remote file : String) : Quiet (fetch remote file : Op σ Transport Nat) := by
  refine Keeps.bind quiet_requireReady fun _ => Keeps.bind Keeps.subject fun t => ?_
  refine Keeps.bind (Keeps.host fun _ _ => trivial) fun mark => ?_
  refine Keeps.bind (Keeps.demand (fun _ _ => trivial) fun _ => rfl) fun _ => ?_
  refine Keeps.bind (Keeps.deadline _) fun deadline => ?_
  exact Keeps.bind (quiet_during _ _) fun result => quiet_finishTransfer remote mark result

/-! ## All operations -/

theorem passes_of_perform {step : Step} (failed : step.perform s = .error e s') :
    Passes s step e := by
  cases step with
  | connect => exact connect_passes (Op.map_eq_error failed)
  | connectWhenAvailable timeout => exact connectWhenAvailable_passes (Op.map_eq_error failed)
  | exec command => exact exec_passes (Op.map_eq_error failed)
  | put file remote => exact .inl ((quiet_put file remote).error trivial (Op.map_eq_error failed)).2
  | fetch remote file =>
    exact .inl ((quiet_fetch remote file).error trivial (Op.map_eq_error failed)).2
  | close =>
    obtain ⟨result, world, closed, fails⟩ := close_apply s
    have ended := closed.symm.trans (Op.map_eq_error failed)
    cases result with
    | ok done => cases ended
    | error cause =>
      obtain ⟨reason, rfl⟩ := fails cause rfl
      cases ended
      exact .inl rfl
  | forceClose =>
    obtain ⟨world, closed⟩ := forceClose_apply s
    cases closed.symm.trans (Op.map_eq_error failed)

/-- Whatever the console does, a failure shows of the output what `Reported` says: a failure of
something that is done with a session, and one of an operation of a transport, since that is one of
something it does with a session unless it shows nothing. What is shown is an excerpt, which is the
longest end of a text that takes at most `Text.excerptLimit` bytes: the whole text if that fits, and
otherwise more than 2044 bytes, cut at a place between two characters. -/
theorem shown_of_failure :
    (∀ text, Text.Excerpted text (Text.excerpt text) ∧
      Text.LongestEnd Text.excerptLimit text (Text.excerpt text)) ∧
    (∀ (deed : Deed) (s s' : On (Recorded σ) Session) (e : Failure),
      deed.perform s = .error e s' → Reported deed s e s') ∧
    ∀ (step : Step) (s s' : On (Recorded σ) Transport) (e : Failure),
      step.perform s = .error e s' → e.carried? = none ∨ ∃ deed start r,
        Uses s step deed start ∧ deed.perform start = .error e r ∧ Reported deed start e r := by
  refine ⟨Text.excerpted, fun _ _ _ _ => Session.reported_of_perform, fun step s s' e failed => ?_⟩
  obtain silent | ⟨deed, start, r, uses, ended⟩ := passes_of_perform failed
  · exact .inl silent
  · exact .inr ⟨deed, start, r, uses, ended, Session.reported_of_perform ended⟩

/-- A transport to a console that prints 700 characters of three bytes each, and no line. -/
def flooded : On (Recorded Playback) Transport where
  subject := greeter
  world.host.host.portions := List.replicate 35 (Text.encode (List.replicate 20 '€'))

theorem shown_of_failure_flooded : ∃ e s' buffer, Step.connect.perform flooded = .error e s' ∧
    e.carried? = some buffer ∧ ∃ deed start r, Uses flooded .connect deed start ∧
      deed.perform start = .error e r ∧ Reported deed start e r := by
  have shows : (Step.connect.perform.outcome flooded).casesOn (fun e => e.carried?.isSome)
      (fun _ => false) = true := by
    decide +kernel
  cases ended : Step.connect.perform flooded with
  | ok reply s' =>
    rw [Op.outcome, ended] at shows
    cases shows
  | error e s' =>
    rw [Op.outcome, ended] at shows
    obtain ⟨buffer, carried⟩ := Option.isSome_iff_exists.mp shows
    refine ⟨e, s', buffer, rfl, carried, ?_⟩
    refine (shown_of_failure.2.2 .connect flooded s' e ended).resolve_left fun silent => ?_
    rw [silent] at carried
    cases carried

end SerialConsole.Transport
