import SerialConsole.Proofs.Poll
import SerialConsole.Proofs.Transport.Settled

/-!
# Connecting

Both ways to connect a transport are orderly: a session is only kept once it is logged in.
-/

namespace SerialConsole.Transport

open Op (Keeps)
open Session (StaysOpen)

variable {σ τ : Type} [Host σ]

theorem untouched_attach (target : Target) (settings : ConsoleSettings) :
    Untouched (Session.attach target settings : Op σ τ Session) := by
  intro t
  refine Keeps.bind (Keeps.bind (Keeps.bind ?_ fun _ => Keeps.pure _) fun _ => Keeps.pure _)
    fun _ => Keeps.pure _
  exact untouched_demand _ (by simp) t

theorem isOpen_of_attach {target : Target} {settings : ConsoleSettings} {s s' : On σ τ}
    {session : Session} (h : Session.attach target settings s = .ok session s') :
    ∃ terminal, session.terminal = some terminal := by
  obtain ⟨started, s₁, hstarted, hattached⟩ := Op.bind_eq_ok h
  obtain ⟨terminal, s₂, -, hspawned⟩ := Op.bind_eq_ok hstarted
  cases hspawned
  cases hattached
  exact ⟨_, rfl⟩

/-- Logging in to an open session makes a transport that has none ready, or leaves it
disconnected. -/
theorem login_endsOrderly {session : Session} {terminal : Terminal}
    (isOpen : session.terminal = some terminal) {s : On σ Transport}
    (free : s.subject.session = none) : EndsOrderly (login session s) := by
  unfold login
  rw [Op.bind_of_ok (enter_apply .authenticating s), Op.bind_of_ok (Op.subject_apply _)]
  simp only
  rw [Op.bind_of_ok (Op.on_apply session _ _)]
  have kept := Session.staysOpen_login (σ := σ) s.subject.settings.credentials s.subject.prompts
    (.ofMillis s.subject.settings.timeouts.login) terminal
  have still := kept.final (s := ⟨session, s.world⟩) isOpen
  have fails := fun e => kept.outcome (s := ⟨session, s.world⟩) (e := e) isOpen
  revert fails
  cases Op.outcome _ (⟨session, s.world⟩ : On σ Session) with
  | ok done =>
    intro _
    exact ⟨settled_ready rfl rfl still, rfl⟩
  | error e =>
    intro fails
    simp only
    rw [Op.bind_of_ok (Op.on_apply _ Session.close _), Op.bind_of_ok (Op.setSubject_apply _ _)]
    exact ⟨settled_disconnected rfl free, fails e rfl⟩

theorem connect_orderly : Orderly (connect : Op σ Transport Unit) := by
  intro s hs
  unfold connect
  rw [Op.bind_of_ok (Op.subject_apply s)]
  obtain ⟨session, terminal, phase, held, isOpen⟩ | ⟨phase, free⟩ := hs.ready_or_disconnected
  · rw [if_pos (by simp [isConnected, phase, held])]
    exact ⟨hs, phase⟩
  · rw [if_neg (by simp [isConnected, phase]), Op.bind_of_ok (enter_apply .authenticating s),
      Op.bind_of_ok (Op.observe_apply _ _)]
    let begun : On σ Transport := { s with subject := { s.subject with phase := .authenticating } }
    have attached := untouched_attach (σ := σ) s.subject.target s.subject.settings.console
      begun.subject
    have same := attached.final (s := begun) rfl
    cases ended : (Session.attach s.subject.target s.subject.settings.console).outcome begun with
    | ok session =>
      simp only
      obtain ⟨terminal, isOpen⟩ := isOpen_of_attach (Op.outcome_eq_ok ended)
      exact login_endsOrderly isOpen (by rw [same]; exact free)
    | error e =>
      simp only
      rw [Op.bind_of_ok (enter_apply .disconnected _)]
      refine ⟨settled_disconnected rfl ?_, attached.outcome rfl ended⟩
      simp only
      rw [same]
      exact free

/-- An open session, or a failure that is not about a closed one. -/
def GivesOpen : Except Failure Session → Prop
  | .ok session => ∃ terminal, session.terminal = some terminal
  | .error e => e ≠ .sessionClosed

theorem probe_end (target : Target) (settings : ConsoleSettings) (settle : Duration)
    (s : On σ τ) : GivesOpen ((Session.probe target settings settle).outcome s) := by
  have attached := untouched_attach (σ := σ) target settings s.subject
  unfold Op.outcome
  rw [Session.probe_eq]
  cases ended : Session.attach target settings s with
  | error e s' =>
    rw [Op.bind_of_error ended]
    exact (attached.error rfl ended).2
  | ok session s' =>
    rw [Op.bind_of_ok ended]
    obtain ⟨terminal, isOpen⟩ := isOpen_of_attach ended
    have watched := Session.staysOpen_settles (σ := σ) settle terminal
    cases settled : Session.settles settle (⟨session, s'.world⟩ : On σ Session) with
    | ok done r =>
      rw [Session.staying_of_ok settled]
      exact ⟨terminal, watched.ok (s := ⟨session, s'.world⟩) isOpen settled⟩
    | error e r =>
      rw [Session.staying_of_error settled]
      exact (watched.error (s := ⟨session, s'.world⟩) isOpen settled).2

theorem await_end (timeout : Duration) (s : On σ Transport) :
    GivesOpen ((await timeout).outcome s) ∧ ((await timeout).final s).subject = s.subject := by
  have probed (world : World σ) : GivesOpen (s.subject.probe world).1.1 := by
    have outcome := probe_end s.subject.target s.subject.settings.console
      (.ofMillis s.subject.settings.timeouts.pollInterval) (⟨(), world⟩ : On σ Unit)
    unfold probe
    unfold Op.outcome at outcome
    cases ended : Session.probe s.subject.target s.subject.settings.console
      (.ofMillis s.subject.settings.timeouts.pollInterval) (⟨(), world⟩ : On σ Unit) <;>
      simpa [ended] using outcome
  have sampled := Poll.waitFor_sampled
    (probePlan timeout (.ofMillis s.subject.settings.timeouts.pollInterval)) s.subject.probe
    (fun _ => true) {} s.world
  unfold Op.outcome Op.final await
  dsimp only
  generalize Poll.waitFor _ _ _ _ _ = ended at sampled ⊢
  obtain ⟨waited, poll, world⟩ := ended
  cases waited with
  | ok session =>
    obtain ⟨world', found⟩ := sampled
    have available := probed world'
    rw [found] at available
    exact ⟨available, rfl⟩
  | error e =>
    cases e with
    | expired timeout attempt => exact ⟨Failure.noConfusion, rfl⟩
    | aborted cause =>
      obtain ⟨world', failed⟩ := sampled
      have refused := probed world'
      rw [failed] at refused
      exact ⟨refused, rfl⟩

theorem connectWhenAvailable_orderly (timeout : Duration) :
    Orderly (connectWhenAvailable timeout : Op σ Transport Unit) := by
  intro s hs
  unfold connectWhenAvailable
  rw [Op.bind_of_ok (Op.subject_apply s)]
  obtain ⟨session, terminal, phase, held, isOpen⟩ | ⟨phase, free⟩ := hs.ready_or_disconnected
  · rw [if_pos (by simp [isConnected, phase, held])]
    exact ⟨hs, phase⟩
  · rw [if_neg (by simp [isConnected, phase])]
    obtain ⟨outcome, same⟩ := await_end timeout s
    cases ended : (await timeout).outcome s with
    | ok session =>
      rw [ended] at outcome
      obtain ⟨terminal, isOpen⟩ := outcome
      rw [Op.bind_of_ok (Op.outcome_eq_ok ended)]
      exact login_endsOrderly isOpen (by rw [same]; exact free)
    | error e =>
      rw [ended] at outcome
      rw [Op.bind_of_error (Op.outcome_eq_error ended)]
      exact ⟨by rw [same]; exact hs, outcome⟩

end SerialConsole.Transport
