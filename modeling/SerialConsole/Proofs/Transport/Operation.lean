import SerialConsole.Proofs.Transport.Settled
import SerialConsole.Transport.Operation

/-!
# Operations on a session

What `during` and `finish` do, and that commands and transfers are orderly.
-/

namespace SerialConsole.Transport

open Session (StaysOpen)

variable {σ α β : Type} [Host σ]

omit [Host σ] in
/-- A transport that is ready hands out its session without the bytes of earlier operations, and
takes it back in whatever state it is then. -/
theorem during_of_ready {s : On σ Transport} {session : Session} (ready : s.subject.phase = .ready)
    (held : s.subject.session = some session) (phase : Phase) (act : Op σ Session α) :
    during phase act s = .ok (act.outcome ⟨session.dropRaw, s.world⟩)
      ⟨{ s.subject with
          phase, session := some (act.final ⟨session.dropRaw, s.world⟩).subject },
        (act.final ⟨session.dropRaw, s.world⟩).world⟩ := by
  unfold during
  rw [Op.bind_of_ok (Op.subject_apply s), ready, held]
  simp only
  rw [Op.bind_of_ok (enter_apply phase s), Op.bind_of_ok (Op.on_apply _ act _)]
  rfl

omit [Host σ] in
theorem during_of_not_ready {s : On σ Transport} (notReady : s.subject.phase ≠ .ready)
    (phase : Phase) (act : Op σ Session α) : during phase act s = .error .notConnected s := by
  unfold during
  rw [Op.bind_of_ok (Op.subject_apply s)]
  cases h : s.subject.phase
  case ready => exact absurd h notReady
  all_goals rfl

theorem finish_ok (a : α) (s : On σ Transport) :
    finish (.ok a) s = .ok a { s with subject := { s.subject with phase := .ready } } := rfl

theorem finish_of_error (e : Failure) :
    (finish (.error e) : Op σ Transport α) =
      if e.isFatal then (do forceClose; throw e) else (do enter .ready; throw e) := rfl

theorem finish_error {e : Failure} (mild : e.isFatal = false) (s : On σ Transport) :
    finish (.error e : Except Failure α) s =
      .error e { s with subject := { s.subject with phase := .ready } } := by
  rw [finish_of_error, if_neg (by simp [mild]), Op.bind_of_ok (enter_apply .ready s)]
  rfl

theorem finish_fatal {e : Failure} (fatal : e.isFatal = true) (s : On σ Transport) :
    ∃ world, finish (.error e : Except Failure α) s =
      .error e ⟨s.subject.withoutSession, world⟩ := by
  obtain ⟨world, closed⟩ := forceClose_apply s
  refine ⟨world, ?_⟩
  rw [finish_of_error, if_pos fatal, Op.bind_of_ok closed]
  rfl

theorem finish_eq_ok {result : Except Failure α} {s s' : On σ Transport} {a : α}
    (h : finish result s = .ok a s') : result = .ok a := by
  cases result with
  | ok b =>
    rw [finish_ok] at h
    injection h with same
    rw [same]
  | error e =>
    cases fatal : e.isFatal with
    | true =>
      obtain ⟨world, finished⟩ := finish_fatal (α := α) fatal s
      rw [finished] at h
      cases h
    | false =>
      rw [finish_error fatal] at h
      cases h

/-- An operation that keeps its session open is orderly, if what is made of its failures does not
speak of a closed session. -/
theorem orderly_during {phase : Phase} {act : Op σ Session α} (open_ : StaysOpen act)
    (report : Except Failure α → Except Failure β)
    (reported : ∀ result, (∀ e, result = .error e → e ≠ .sessionClosed) →
      ∀ e, report result = .error e → e ≠ .sessionClosed) :
    Orderly (do finish (report (← during phase act)) : Op σ Transport β) := by
  intro s hs
  obtain ⟨session, terminal, ready, held, isOpen⟩ | ⟨disconnected, free⟩ :=
    hs.ready_or_disconnected
  · have still := (open_ terminal).final (s := ⟨session.dropRaw, s.world⟩) isOpen
    have fails := reported _ fun e => (open_ terminal).outcome (e := e)
      (s := ⟨session.dropRaw, s.world⟩) isOpen
    rw [Op.bind_of_ok (during_of_ready ready held phase act)]
    revert fails
    cases report (act.outcome ⟨session.dropRaw, s.world⟩) with
    | ok b =>
      intro _
      exact ⟨settled_ready rfl rfl still, rfl⟩
    | error e =>
      intro fails
      cases fatal : e.isFatal with
      | true =>
        obtain ⟨world, finished⟩ := finish_fatal (σ := σ) (α := β) fatal _
        rw [finished]
        exact ⟨settled_withoutSession _, fails e rfl⟩
      | false =>
        rw [finish_error fatal]
        exact ⟨settled_ready rfl rfl still, fails e rfl⟩
  · have notReady : s.subject.phase ≠ .ready := by simp [disconnected]
    rw [Op.bind_of_error (during_of_not_ready notReady phase act)]
    exact ⟨hs, by simp⟩

theorem exec_orderly (command : String) : Orderly (exec command : Op σ Transport _) := by
  refine Orderly.after untouched_requireReady fun _ => ?_
  refine Orderly.after untouched_subject fun t => ?_
  refine Orderly.after (untouched_host _) fun mark => ?_
  refine Orderly.after (untouched_deadline _) fun deadline => ?_
  exact orderly_during (Session.staysOpen_runCommand _ _ _ _) id fun _ h => h

theorem mapError_eq_ok {f : Failure → Failure} {result : Except Failure α} {a : α}
    (h : result.mapError f = .ok a) : result = .ok a := by
  cases result with
  | ok b => exact h
  | error e => cases h

theorem mapError_transfer_ne_sessionClosed (path : String) (mark : Mark)
    (result : Except Failure α) (e : Failure)
    (h : result.mapError (fun e => .transfer path mark e.message) = .error e) :
    e ≠ .sessionClosed := by
  cases result with
  | ok a => cases h
  | error cause =>
    cases h
    simp

theorem put_orderly (file remote : String) : Orderly (put file remote : Op σ Transport _) := by
  refine Orderly.after (untouched_host _) fun isFile => ?_
  cases isFile with
  | false => exact fun s hs => ⟨hs, by simp⟩
  | true =>
    refine Orderly.after untouched_requireReady fun _ => ?_
    refine Orderly.after untouched_subject fun t => ?_
    refine Orderly.after (untouched_host _) fun mark => ?_
    refine Orderly.after (untouched_demand _ (by simp)) fun source => ?_
    refine Orderly.after (untouched_deadline _) fun deadline => ?_
    exact orderly_during (Session.staysOpen_upload _ _ _ _ _) _ fun result _ =>
      mapError_transfer_ne_sessionClosed remote mark result

theorem fetch_orderly (remote file : String) : Orderly (fetch remote file : Op σ Transport _) := by
  refine Orderly.after untouched_requireReady fun _ => ?_
  refine Orderly.after untouched_subject fun t => ?_
  refine Orderly.after (untouched_host _) fun mark => ?_
  refine Orderly.after (untouched_demand _ (by simp)) fun _ => ?_
  refine Orderly.after (untouched_deadline _) fun deadline => ?_
  exact orderly_during (Session.staysOpen_download _ _ _ _ _) _ fun result _ =>
    mapError_transfer_ne_sessionClosed remote mark result

end SerialConsole.Transport
