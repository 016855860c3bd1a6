import SerialConsole.Proofs.Transport.Availability

/-!
# New sessions

`ConnectEnd` says what connecting can come to for a transport that is disconnected, with or without
waiting for the console: it stays what it is, or it is ready with a session whose process has been
started meanwhile.
-/

namespace SerialConsole

/-- A failure that connecting can end with. -/
inductive Failure.OfConnecting : Failure → Prop
  | spawn (line reason : String) : OfConnecting (.spawn line reason)
  | expired (timeoutMillis attempts : Nat) (lastState : String) :
      OfConnecting (.conditionExpired timeoutMillis attempts lastState)
  | login {e : Failure} (h : e.OfLogin) : OfConnecting e

theorem Failure.OfConnecting.ne {e : Failure} (h : e.OfConnecting) :
    e ≠ .notConnected ∧ e ≠ .sessionClosed ∧ ∀ file, e ≠ .localFileNotFound file := by
  cases h with
  | spawn => simp
  | expired => simp
  | login h => cases h <;> simp

namespace Transport

variable {σ : Type} [Host σ]

theorem phase_eta {t : Transport} {phase : Phase} (h : t.phase = phase) :
    { t with phase } = t := by
  rw [← h]

theorem login_cases {session : Session} {terminal : Terminal}
    (isOpen : session.terminal = some terminal) (t : Transport) (world : World σ) :
    (∃ session' world', login session ⟨t, world⟩ =
        .ok () ⟨{ t with session := some session', phase := .ready }, world'⟩ ∧
      session'.terminal = some terminal) ∨
    ∃ e world', login session ⟨t, world⟩ =
      .error e ⟨{ t with phase := .disconnected }, world'⟩ ∧ e.OfLogin := by
  have kept := Session.keepsOpen_login (σ := σ) t.settings.credentials t.prompts
    (.ofMillis t.settings.timeouts.login) terminal
  unfold login
  rw [Op.bind_of_ok (enter_apply .authenticating _), Op.bind_of_ok (Op.subject_apply _)]
  simp only
  rw [Op.bind_of_ok (Op.on_apply session _ _)]
  simp only [Op.outcome, Op.final]
  cases ended : Session.login t.settings.credentials t.prompts (.ofMillis t.settings.timeouts.login)
      ⟨session, world⟩ with
  | ok done s' =>
      exact .inl ⟨s'.subject, s'.world, rfl, kept.ok (s := ⟨session, world⟩) isOpen ended⟩
  | error e s' =>
      simp only
      rw [Op.bind_of_ok (Op.on_apply s'.subject Session.close _)]
      exact .inr ⟨e, _, rfl, (kept.error (s := ⟨session, world⟩) isOpen ended).2⟩

/-- What connecting comes to, given the account before it. -/
inductive ConnectEnd (t : Transport) (before : List Event) :
    EStateM.Result Failure (On (Transcript σ) Transport) Unit → Prop
  | failed {e : Failure} {world : World (Transcript σ)} (connecting : e.OfConnecting) :
      ConnectEnd t before (.error e ⟨t, world⟩)
  | ready {terminal : Terminal} {session : Session} {log : List Event}
      {world : World (Transcript σ)} (isOpen : session.terminal = some terminal)
      (started : .started t.attachment (.ok terminal.process) ∈ log)
      (events : world.host.events = before ++ log) :
      ConnectEnd t before (.ok () ⟨{ t with session := some session, phase := .ready }, world⟩)

/-- Logging in on a session with a process that has just been started. -/
theorem connectEnd_login {session : Session} {terminal : Terminal}
    (isOpen : session.terminal = some terminal) {t : Transport}
    (disconnected : t.phase = .disconnected) (phase : Phase) {before log : List Event}
    {world : World (Transcript σ)}
    (started : .started t.attachment (.ok terminal.process) ∈ log)
    (events : world.host.events = before ++ log) :
    ConnectEnd t before (login session ⟨{ t with phase }, world⟩) := by
  obtain ⟨session', world', ended, still⟩ | ⟨e, world', ended, failure⟩ :=
    login_cases isOpen { t with phase } world
  · have confined : Op.Confined False True (login session : Op (Transcript σ) Transport Unit) :=
      confined_login session
    obtain ⟨rest, longer⟩ :=
      confined.prefix_events (s := ⟨{ t with phase }, world⟩) (List.prefix_refl _)
    rw [Op.final_of_ok ended, events, List.append_assoc] at longer
    rw [ended]
    exact .ready still (List.mem_append_left rest started) longer.symm
  · rw [ended]
    show ConnectEnd t before (.error e ⟨{ t with phase := .disconnected }, world'⟩)
    rw [phase_eta disconnected]
    exact .failed (.login failure)

theorem connect_of_disconnected {t : Transport} (disconnected : t.phase = .disconnected)
    (world : World (Transcript σ)) :
    ConnectEnd t world.host.events (connect ⟨t, world⟩) := by
  obtain ⟨answer, host, ran⟩ : ∃ a h, (Host.spawn t.attachment).run world.host = (a, h) :=
    ⟨_, _, rfl⟩
  let begun : On (Transcript σ) Transport := ⟨{ t with phase := .authenticating }, world⟩
  unfold connect
  rw [Op.bind_of_ok (Op.subject_apply _), if_neg (by simp [isConnected, disconnected]),
    Op.bind_of_ok (enter_apply .authenticating _), Op.bind_of_ok (Op.observe_apply _ _)]
  simp only [Op.outcome, Op.final]
  cases answer with
  | error reason =>
      rw [attach_of_refused (s := begun) ran]
      show ConnectEnd t _ (.error _ ⟨{ t with phase := .disconnected }, { world with host }⟩)
      rw [phase_eta disconnected]
      exact .failed (.spawn _ reason)
  | ok process =>
      rw [attach_of_started (s := begun) ran]
      exact connectEnd_login rfl disconnected .authenticating (List.mem_singleton_self _)
        (Transcript.events_of_spawn ran)

theorem connectWhenAvailable_of_disconnected {t : Transport}
    (disconnected : t.phase = .disconnected) (timeout : Duration) (world : World (Transcript σ)) :
    ConnectEnd t world.host.events (connectWhenAvailable timeout ⟨t, world⟩) := by
  have ends := connectWhenAvailable_of_free (t := t) (by simp [isConnected, disconnected]) timeout
    world
  generalize connectWhenAvailable timeout ⟨t, world⟩ = result at ends
  cases ends with
  | expired => exact .failed (.expired _ _ _)
  | refused => exact .failed (.spawn _ _)
  | found each early settling events =>
      rw [List.append_assoc] at events
      exact connectEnd_login rfl disconnected t.phase
        (List.mem_append_right _ List.mem_cons_self) events

end Transport

end SerialConsole
