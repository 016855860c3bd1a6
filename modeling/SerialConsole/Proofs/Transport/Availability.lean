import SerialConsole.Proofs.Frame
import SerialConsole.Proofs.Poll
import SerialConsole.Proofs.Session.Settling
import SerialConsole.Proofs.Transport.Login

/-!
# Waiting for a console

`connectWhenAvailable` starts one process after the other for the console. Each is given time to
settle, and one that does not stay is ended before the next is started. `AwaitEnd` lists the ways in
which this stops: the time is up, a process cannot be started, or one stays, and then the transport
logs in on it, once.
-/

namespace SerialConsole

open Op (Keeps)

theorem Session.clock_close {σ : Type} [Host σ] (s : On σ Session) :
    (Session.close.final s).world.clock = s.world.clock := by
  have kept : Keeps (fun r : On σ Session => r.world.clock = s.world.clock) (fun _ => True)
      Session.close := by
    refine Keeps.bind Keeps.subject fun session => ?_
    cases session.terminal with
    | none => exact Keeps.pure _
    | some terminal =>
        refine Keeps.bind (fun _ hr => hr) fun _ => Keeps.bind (Keeps.host fun _ hr => hr) ?_
        intro alive
        cases alive with
        | false => exact Keeps.pure _
        | true => exact Keeps.demand (fun _ hr => hr) fun _ => trivial
  exact kept.final rfl

namespace Transport

open Session (Settling settles settles_end overheard)

variable {σ α : Type} [Host σ]

/-- A process that was started for a console and did not stay: what happened to it, and how long
that took. -/
structure Try where
  log : List Event
  spent : Duration

/-- The process is given time to settle and does not stay, and it is ended. -/
inductive Lost (launch : Launch) (settle : Duration) : Try → Prop
  | intro {process : ProcessId} {log closing : List Event} {spent : Duration}
      (settling : Settling process settle log spent false) (ends : EndsProcess process closing) :
      Lost launch settle ⟨.started launch (.ok process) :: (log ++ closing), spent⟩

/-- How a process is started for the console of a transport. -/
abbrev attachment (t : Transport) : Launch := t.target.launch t.settings.console

/-- How long a process is given to settle, and the pause after one that did not stay. -/
abbrev interval (t : Transport) : Duration := .ofMillis t.settings.timeouts.pollInterval

/-- The session with a process that has stayed. All that it printed is pending. -/
def found (t : Transport) (process : ProcessId) (log : List Event) : Session where
  target := some t.target
  launch := t.attachment
  terminal := some { process, streaming := true }
  buffer := Output.Buffer.append {} (log.flatMap Event.printed)

/-! ## One probe -/

/-- How a probe of the console can end. -/
inductive ProbeEnd (t : Transport) (settle : Duration) (world : World (Transcript σ)) :
    Call Failure Session × World (Transcript σ) → Prop
  | refused {reason : String} {spent : Duration} {world' : World (Transcript σ)}
      (events : world'.host.events =
        world.host.events ++ [.started t.attachment (.error reason)]) :
      ProbeEnd t settle world
        ((.error (.spawn t.attachment.line reason), spent), world')
  | lost {attempt : Try} {cause : Failure} {world' : World (Transcript σ)}
      (lost : Lost t.attachment settle attempt)
      (again : retries cause = true)
      (events : world'.host.events = world.host.events ++ attempt.log) :
      ProbeEnd t settle world ((.error cause, attempt.spent), world')
  | stays {process : ProcessId} {log : List Event} {spent : Duration}
      {world' : World (Transcript σ)} (settling : Settling process settle log spent true)
      (events : world'.host.events = world.host.events ++
        .started t.attachment (.ok process) :: log) :
      ProbeEnd t settle world ((.ok (found t process log), spent), world')

theorem probe_of_ok {t : Transport} {world : World σ} {session : Session} {s : On σ Unit}
    (h : Session.probe t.target t.settings.console t.interval
      ⟨(), world⟩ = .ok session s) :
    t.probe world = ((.ok session, s.world.clock - world.clock), s.world) := by
  simp only [probe, h]

theorem probe_of_error {t : Transport} {world : World σ} {e : Failure} {s : On σ Unit}
    (h : Session.probe t.target t.settings.console t.interval
      ⟨(), world⟩ = .error e s) :
    t.probe world = ((.error e, s.world.clock - world.clock), s.world) := by
  simp only [probe, h]

theorem probe_ends (t : Transport) (world : World (Transcript σ)) :
    ProbeEnd t t.interval world (t.probe world) := by
  obtain ⟨answer, host, ran⟩ : ∃ a h,
      (Host.spawn t.attachment).run world.host = (a, h) := ⟨_, _, rfl⟩
  have started := Transcript.events_of_spawn ran
  let idle : On (Transcript σ) Unit := ⟨(), world⟩
  cases answer with
  | error reason =>
      rw [probe_of_error (Op.bind_of_error (attach_of_refused (s := idle) ran))]
      exact .refused started
  | ok process =>
      let session : Session :=
        { target := some t.target
          launch := t.attachment
          terminal := some { process, streaming := true } }
      let settle : Duration := t.interval
      have attached := Op.bind_of_ok (f := Session.staying settle)
        (attach_of_started (s := idle) ran)
      have settled := settles_end (s := ⟨session, { world with host }⟩) rfl rfl settle
      generalize ended :
        settles settle (⟨session, { world with host }⟩ : On (Transcript σ) Session) = result
          at settled
      have elapsed (spent : Duration) : world.clock + spent - world.clock = spent :=
        Nat.add_sub_cancel_left _ _
      cases settled with
      | @stays log spent host' settling events =>
          rw [probe_of_ok (attached.trans (Session.staying_of_ok ended))]
          refine .stays ?_ ?_
          · show Settling process settle log (world.clock + spent - world.clock) true
            rw [elapsed]
            exact settling
          · rw [List.append_cons, ← started]
            exact events
      | @goes log spent closed host' e settling events mild =>
          rw [probe_of_error (attached.trans (Session.staying_of_error ended))]
          let gone := overheard (⟨session, { world with host }⟩ : On (Transcript σ) Session)
            log spent closed host'
          obtain ⟨closing, ends, log'⟩ := endsProcess_close (s := gone) rfl
          have lasted : (Session.close.final gone).world.clock - world.clock = spent := by
            rw [Session.clock_close]
            exact elapsed spent
          rw [lasted]
          refine .lost (.intro settling ends) ?_ ?_
          · obtain ⟨reason, rfl⟩ | ⟨buffer, rfl⟩ := mild <;> rfl
          · rw [log', List.append_cons, ← started, ← List.append_assoc]
            exact congrArg (· ++ closing) events

/-! ## Waiting -/

theorem lost_of_retried {t : Transport} {timeout : Duration} {p p' : Poll}
    {world world' : World (Transcript σ)} {tries : List (Failure × Duration)}
    (h : Poll.Retried (probePlan timeout t.interval) t.probe
      p world tries p' world') : ∃ lost : List Try,
      (∀ attempt ∈ lost, Lost t.attachment
        t.interval attempt) ∧
      lost.map Try.spent = tries.map Prod.snd ∧
      world'.host.events = world.host.events ++ lost.flatMap Try.log := by
  induction h with
  | nil => exact ⟨[], by simp, rfl, (List.append_nil _).symm⟩
  | @cons _ _ _ world _ _ _ _ _ early called again rest ih =>
      obtain ⟨lost, each, spent, events⟩ := ih
      have probed := probe_ends t world
      rw [called] at probed
      cases probed with
      | refused => cases again
      | @lost attempt _ _ gone _ log =>
          refine ⟨attempt :: lost, ?_, congrArg (attempt.spent :: ·) spent, ?_⟩
          · rintro other (_ | ⟨_, member⟩)
            · exact gone
            · exact each other member
          · rw [events, log, List.append_assoc]
            rfl

/-- How it can end when a console is waited for. The processes that were started and did not stay
are told in their order; `next` is what is done with the session of one that stays. -/
inductive AwaitEnd (t : Transport) (timeout : Duration) (world : World (Transcript σ))
    (next : Session → On (Transcript σ) Transport →
      EStateM.Result Failure (On (Transcript σ) Transport) α) :
    EStateM.Result Failure (On (Transcript σ) Transport) α → Prop
  | expired {lost : List Try} {lastState : String} {world' : World (Transcript σ)}
      (each : ∀ attempt ∈ lost, Lost t.attachment t.interval attempt)
      (early : Poll.InTime (probePlan timeout t.interval) (lost.dropLast.map Try.spent))
      (late : ¬ Poll.InTime (probePlan timeout t.interval) (lost.map Try.spent))
      (events : world'.host.events = world.host.events ++ lost.flatMap Try.log) :
      AwaitEnd t timeout world next
        (.error (.conditionExpired timeout.millis (lost.length % UInt32.size) lastState)
          ⟨t, world'⟩)
  | refused {lost : List Try} {reason : String} {world' : World (Transcript σ)}
      (each : ∀ attempt ∈ lost, Lost t.attachment t.interval attempt)
      (early : Poll.InTime (probePlan timeout t.interval) (lost.map Try.spent))
      (events : world'.host.events = world.host.events ++ lost.flatMap Try.log ++
        [.started t.attachment (.error reason)]) :
      AwaitEnd t timeout world next (.error (.spawn t.attachment.line reason) ⟨t, world'⟩)
  | found {lost : List Try} {process : ProcessId} {log : List Event} {spent : Duration}
      {world' : World (Transcript σ)}
      (each : ∀ attempt ∈ lost, Lost t.attachment t.interval attempt)
      (early : Poll.InTime (probePlan timeout t.interval) (lost.map Try.spent))
      (settling : Settling process t.interval log spent true)
      (events : world'.host.events = world.host.events ++ lost.flatMap Try.log ++
        .started t.attachment (.ok process) :: log) :
      AwaitEnd t timeout world next (next (found t process log) ⟨t, world'⟩)

theorem await_ends (t : Transport) (timeout : Duration) (world : World (Transcript σ)) :
    AwaitEnd t timeout world EStateM.Result.ok (await timeout ⟨t, world⟩) := by
  obtain ⟨item, p, world', waited, ended⟩ :=
    Poll.waitFor_any_end (probePlan timeout t.interval) t.probe (p := {}) rfl world
  unfold await
  simp only [waited]
  cases ended with
  | @expired p _ tries tried late =>
      obtain ⟨lost, each, spent, events⟩ := lost_of_retried tried
      have number : (p.attempt.number : Nat) = lost.length % UInt32.size := by
        have counted := tried.counts (n := 0) rfl
        rw [counted.number_eq, Nat.zero_add, ← List.length_map Try.spent, spent, List.length_map]
      have front : lost.dropLast.map Try.spent = tries.dropLast.map Prod.snd := by
        rw [List.map_dropLast, spent, List.map_dropLast]
      simp only [PollError.toFailure, number]
      refine .expired each ?_ ?_ events
      · rw [front]
        exact tried.inTime_dropLast
      · rw [spent]
        exact tried.atNextSample_eq_none.mp late
  | @aborted _ _ last _ _ _ _ tried early called definite =>
      obtain ⟨lost, each, spent, events⟩ := lost_of_retried tried
      have inTime := tried.inTime_of_some early
      rw [← spent] at inTime
      have probed := probe_ends t last
      rw [called] at probed
      cases probed with
      | refused started => exact .refused each inTime (by rw [started, events])
      | lost gone again => exact absurd (again.symm.trans definite) (by decide)
  | @ready _ _ last _ _ _ _ tried early called =>
      obtain ⟨lost, each, spent, events⟩ := lost_of_retried tried
      have inTime := tried.inTime_of_some early
      rw [← spent] at inTime
      have probed := probe_ends t last
      rw [called] at probed
      cases probed with
      | stays settling started => exact .found each inTime settling (by rw [started, events])

omit [Host σ] in
theorem AwaitEnd.bind {t : Transport} {timeout : Duration}
    {world : World (Transcript σ)} {x : Op (Transcript σ) Transport Session}
    {f : Session → Op (Transcript σ) Transport α}
    (h : AwaitEnd t timeout world EStateM.Result.ok (x ⟨t, world⟩)) :
    AwaitEnd t timeout world f ((x >>= f) ⟨t, world⟩) := by
  generalize ended : x ⟨t, world⟩ = result at h
  cases h with
  | expired each early late events =>
      rw [Op.bind_of_error ended]
      exact .expired each early late events
  | refused each early events =>
      rw [Op.bind_of_error ended]
      exact .refused each early events
  | found each early settling events =>
      rw [Op.bind_of_ok ended]
      exact .found each early settling events

theorem connectWhenAvailable_of_free {t : Transport} (free : t.isConnected = false)
    (timeout : Duration) (world : World (Transcript σ)) :
    AwaitEnd t timeout world login (connectWhenAvailable timeout ⟨t, world⟩) := by
  unfold connectWhenAvailable
  rw [Op.bind_of_ok (Op.subject_apply _), if_neg (by simp [free])]
  exact (await_ends t timeout world).bind

/-- How connecting ends for a transport that waits for its console. Processes are started one after
the other, and those that do not stay are ended. If there is no time for another, the number of them
is reported as a word of 32 bits holds it; if one cannot be started, that is; and the transport is
what it was. The first that stays is logged in on, with all that it has printed pending, and logging
in starts no other. -/
theorem connectWhenAvailable_end {t : Transport} (disconnected : t.phase = .disconnected)
    (timeout : Duration) (world : World (Transcript σ)) :
    AwaitEnd t timeout world login (connectWhenAvailable timeout ⟨t, world⟩) ∧
      ∀ (session : Session) (s : On (Transcript σ) Transport),
        ((login session).final s).world.host.starts = s.world.host.starts := by
  have free : t.isConnected = false := by simp [isConnected, disconnected]
  exact ⟨connectWhenAvailable_of_free free timeout world,
    fun session s => (confined_login session).starts_eq s⟩

/-- The time for which a console is waited for. -/
def patience : Duration := .ofMillis 60000

/-- A console that is there at the second attempt. -/
def tardy : World (Transcript Rehearsal) where
  host.host.scripts :=
    { steps := [.exit] } :: asking.host.host.scripts.map ({ · with cooked := 3 })

theorem connectWhenAvailable_end_tardy : ∃ (lost : List Try) (process : ProcessId)
    (log : List Event) (spent : Duration),
    (∀ attempt ∈ lost, Lost guest.attachment guest.interval attempt) ∧
      Settling process guest.interval log spent true ∧
      ((connectWhenAvailable patience).final ⟨guest, tardy⟩).subject.phase = .ready := by
  have ended : (connectWhenAvailable patience).outcome ⟨guest, tardy⟩ = .ok () := by
    decide +kernel
  have ready : ((connectWhenAvailable patience).final ⟨guest, tardy⟩).subject.phase = .ready := by
    decide +kernel
  obtain ⟨ends, -⟩ := connectWhenAvailable_end (t := guest) rfl patience tardy
  generalize result : connectWhenAvailable patience ⟨guest, tardy⟩ = r at ends
  rw [Op.outcome_eq_ok ended] at result
  cases ends with
  | expired => cases result
  | refused => cases result
  | found each early settling events => exact ⟨_, _, _, _, each, settling, ready⟩

end Transport

end SerialConsole
