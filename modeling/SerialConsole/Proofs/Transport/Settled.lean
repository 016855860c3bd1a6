import SerialConsole.Proofs.Session.Open
import SerialConsole.Transport.Connect

/-!
# Settled transports

A transport keeps what it is doing and its session in two places. `Settled` says how the two belong
together between operations: the transport is ready and holds an open session, or it is disconnected
and holds none. An operation is `Orderly` if it keeps transports settled, succeeds only with one
that is ready and never complains that the session has been closed.
-/

namespace SerialConsole.Transport

open Op (Keeps)

variable {σ τ α β : Type}

/-- What a transport is like between operations. -/
structure Settled (t : Transport) : Prop where
  phase : t.phase = .ready ∨ t.phase = .disconnected
  held : t.phase = .ready ↔ t.session.isSome
  isOpen : ∀ session, t.session = some session → session.isClosed = false

theorem settled_ready {t : Transport} {session : Session} {terminal : Terminal}
    (phase : t.phase = .ready) (held : t.session = some session)
    (isOpen : session.terminal = some terminal) : t.Settled where
  phase := .inl phase
  held := by simp [phase, held]
  isOpen other h := by
    rw [held] at h
    cases h
    simp [Session.isClosed, isOpen]

theorem settled_disconnected {t : Transport} (phase : t.phase = .disconnected)
    (held : t.session = none) : t.Settled where
  phase := .inr phase
  held := by simp [phase, held]
  isOpen session h := by
    rw [held] at h
    cases h

/-- A transport after it has given up its session. -/
def withoutSession (t : Transport) : Transport :=
  { t with session := none, phase := .disconnected }

theorem settled_withoutSession (t : Transport) : t.withoutSession.Settled :=
  settled_disconnected rfl rfl

theorem Settled.ready_or_disconnected {t : Transport} (h : t.Settled) :
    (∃ session terminal, t.phase = .ready ∧ t.session = some session ∧
        session.terminal = some terminal) ∨
      (t.phase = .disconnected ∧ t.session = none) := by
  cases hsession : t.session with
  | none =>
    right
    have notReady : t.phase ≠ .ready := by
      rw [ne_eq, h.held, hsession]
      simp
    exact ⟨h.phase.resolve_left notReady, rfl⟩
  | some session =>
    left
    have ready : t.phase = .ready := by
      rw [h.held, hsession]
      rfl
    have isOpen := h.isOpen session hsession
    cases hterm : session.terminal with
    | none => simp [Session.isClosed, hterm] at isOpen
    | some terminal => exact ⟨session, terminal, ready, rfl, hterm⟩

/-- How an orderly operation ends: with success it leaves the transport ready, and without, it
leaves it settled and does not complain about a closed session. -/
def EndsOrderly : EStateM.Result Failure (On σ Transport) α → Prop
  | .ok _ s => s.subject.Settled ∧ s.subject.phase = .ready
  | .error e s => s.subject.Settled ∧ e ≠ .sessionClosed

/-- An operation that, begun on a settled transport, ends in an orderly way. -/
def Orderly (act : Op σ Transport α) : Prop := ∀ s, s.subject.Settled → EndsOrderly (act s)

/-- The operation does not touch its subject, and does not find a session closed. -/
def Untouched (act : Op σ τ α) : Prop :=
  ∀ t, Keeps (fun s => s.subject = t) (· ≠ .sessionClosed) act

/-- What does not touch the transport may come before an orderly operation. -/
theorem Orderly.after {x : Op σ Transport α} {f : α → Op σ Transport β} (hx : Untouched x)
    (hf : ∀ a, Orderly (f a)) : Orderly (x >>= f) := by
  intro s hs
  have first := hx s.subject s rfl
  rw [Op.bind_apply]
  cases ended : x s with
  | ok a s' =>
    rw [ended] at first
    exact hf a s' (by rw [first]; exact hs)
  | error e s' =>
    rw [ended] at first
    exact ⟨by rw [first.1]; exact hs, first.2⟩

theorem untouched_subject : Untouched (Op.subject : Op σ τ τ) := fun _ => Keeps.subject

theorem untouched_host (act : StateM σ α) : Untouched (Op.host act : Op σ τ α) :=
  fun _ => Keeps.host fun _ hs => hs

theorem untouched_deadline (timeout : Duration) :
    Untouched (Op.deadline timeout : Op σ τ Deadline) := fun _ => Keeps.deadline timeout

theorem untouched_demand (act : StateM σ (Except String α)) {fail : String → Failure}
    (hfail : ∀ reason, fail reason ≠ .sessionClosed) :
    Untouched (Op.demand act fail : Op σ τ α) :=
  fun _ => Keeps.demand (fun _ hs => hs) hfail

theorem untouched_requireReady : Untouched (requireReady : Op σ Transport Unit) := by
  intro t
  refine Keeps.bind Keeps.subject fun t' => ?_
  split
  · exact Keeps.pure _
  · exact Keeps.throw (by simp)

/-! ## Being ready -/

theorem isConnected_iff {t : Transport} :
    t.isConnected = true ↔ t.phase = .ready ∧ ∃ session, t.session = some session := by
  simp [isConnected, Option.isSome_iff_exists]

theorem requireReady_of_connected {s : On σ Transport} (h : s.subject.isConnected = true) :
    requireReady s = .ok () s := by
  unfold requireReady
  rw [Op.bind_of_ok (Op.subject_apply s), if_pos h]
  rfl

theorem requireReady_of_free {s : On σ Transport} (free : s.subject.isConnected = false) :
    requireReady s = .error .notConnected s := by
  unfold requireReady
  rw [Op.bind_of_ok (Op.subject_apply s), if_neg (by simp [free])]
  rfl

theorem connected_of_requireReady {s s' : On σ Transport} {u : Unit}
    (h : requireReady s = .ok u s') : s.subject.isConnected = true ∧ s' = s := by
  unfold requireReady at h
  rw [Op.bind_of_ok (Op.subject_apply s)] at h
  by_cases connected : s.subject.isConnected = true
  · rw [if_pos connected] at h
    cases h
    exact ⟨connected, rfl⟩
  · rw [if_neg connected] at h
    cases h

theorem enter_apply (phase : Phase) (s : On σ Transport) :
    enter phase s = .ok () { s with subject := { s.subject with phase } } := rfl

/-! ## Closing -/

variable [Host σ]

theorem session_close_fails {s : On σ Session} {e : Failure}
    (h : Session.close.outcome s = .error e) : ∃ reason, e = .terminal reason := by
  have keeps : Keeps (fun _ : On σ Session => True) (fun e => ∃ reason, e = .terminal reason)
      Session.close := by
    refine Keeps.bind Keeps.subject fun session => ?_
    cases session.terminal with
    | none => exact Keeps.pure _
    | some terminal =>
      refine Keeps.bind (fun _ _ => trivial) fun _ => ?_
      refine Keeps.bind (Keeps.host fun _ _ => trivial) fun alive => ?_
      split
      · exact Keeps.demand (fun _ _ => trivial) fun _ => ⟨_, rfl⟩
      · exact Keeps.pure _
  exact keeps.outcome trivial h

theorem forceClose_apply (s : On σ Transport) :
    ∃ world, forceClose s = .ok () ⟨s.subject.withoutSession, world⟩ := by
  unfold forceClose
  rw [Op.bind_of_ok (Op.subject_apply s), Op.bind_of_ok (Op.setSubject_apply _ s)]
  cases s.subject.session with
  | none => exact ⟨s.world, rfl⟩
  | some session =>
    simp only
    rw [Op.bind_of_ok (Op.on_apply session Session.close _)]
    exact ⟨_, rfl⟩

/-- Closing reports how the session was ended, and in any case the transport has none afterwards. -/
theorem close_apply (s : On σ Transport) :
    ∃ result world, close s = Op.conclude result ⟨s.subject.withoutSession, world⟩ ∧
      ∀ e, result = .error e → ∃ reason, e = .terminal reason := by
  unfold close
  rw [Op.bind_of_ok (Op.subject_apply s), Op.bind_of_ok (Op.setSubject_apply _ s)]
  cases s.subject.session with
  | none => exact ⟨.ok (), s.world, rfl, by simp⟩
  | some session =>
    cases s.subject.phase
    case ready =>
      simp only
      rw [Op.bind_of_ok (Op.on_apply session (Session.logout _ _) _)]
      simp only
      rw [Op.bind_of_ok (Op.on_apply _ Session.close _)]
      exact ⟨_, _, rfl, fun e failed => session_close_fails failed⟩
    all_goals
      simp only
      rw [Op.bind_of_ok (Op.pure_apply _ _)]
      simp only
      rw [Op.bind_of_ok (Op.on_apply _ Session.close _)]
      exact ⟨_, _, rfl, fun e failed => session_close_fails failed⟩

end SerialConsole.Transport
