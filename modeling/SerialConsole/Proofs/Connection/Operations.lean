import SerialConsole.Proofs.Connection.Refusals
import SerialConsole.Proofs.Transport.NewSession

/-!
# Operations on connections

A connection need not be made before it is used: `operated_perform` says what becomes of commands
and transfers in every state that a connection can get into. They never fail for want of a session.
-/

namespace SerialConsole.Connection

open Op (Keeps Confined)
open Transport (Reply ConnectEnd)

variable {σ α β : Type} [Host σ]

/-! ## Reachable connections -/

/-- The connections that can come of one that has not been made, whatever is asked of it and of its
transport. The world may change in any way between two steps. -/
inductive Reachable (σ : Type) [Host σ] : Connection → Prop
  | new {c : Connection} (phase : c.transport.phase = .disconnected)
      (free : c.transport.session = none) : Reachable σ c
  | step {c : Connection} (reached : Reachable σ c) (step : Step) (world : World σ) :
      Reachable σ (step.perform.final ⟨c, world⟩).subject

/-- The transport of the connection is settled. -/
abbrev Sound (s : On σ Connection) : Prop := s.subject.transport.Settled

omit [Host σ] in
theorem sound_onTransport {act : Op σ Transport α}
    (h : ∀ s, s.subject.Settled → (act.final s).subject.Settled) :
    Keeps Sound (fun _ => True) (onTransport act) := by
  intro s hs
  have kept := h ⟨s.subject.transport, s.world⟩ hs
  cases ended : act ⟨s.subject.transport, s.world⟩ with
  | ok a s' =>
      rw [Op.final_of_ok ended] at kept
      rw [onTransport_of_ok ended]
      exact kept
  | error e s' =>
      rw [Op.final_of_error ended] at kept
      rw [onTransport_of_error ended]
      exact ⟨kept, trivial⟩

theorem sound_of_perform (step : Transport.Step) {act : Op σ Transport α} {f : α → Reply}
    (performs : step.perform = f <$> act) : Keeps Sound (fun _ => True) (onTransport act) := by
  refine sound_onTransport fun s hs => ?_
  have settled := Transport.settled_final step hs
  rwa [performs, Op.final_map] at settled

theorem sound_connect : Keeps Sound (fun _ => True) (connect : Op σ Connection Unit) := by
  refine Keeps.bind Keeps.subject fun c => ?_
  cases c.waitFor with
  | none => exact sound_of_perform .connect rfl
  | some timeout => exact sound_of_perform (.connectWhenAvailable timeout) rfl

theorem sound_exec (command : String) (input : Option Bytes) :
    Keeps Sound (fun _ => True) (exec command input : Op σ Connection _) := by
  cases input with
  | some input => exact Keeps.throw trivial
  | none =>
      exact Keeps.bind sound_connect fun _ => sound_of_perform (.exec command) rfl

theorem sound_put (file remote : String) :
    Keeps Sound (fun _ => True) (put file remote : Op σ Connection _) := by
  refine Keeps.bind (Keeps.host fun _ hs => hs) fun isFile => ?_
  cases isFile with
  | false => exact Keeps.throw trivial
  | true => exact Keeps.bind sound_connect fun _ => sound_of_perform (.put file remote) rfl

theorem sound_fetch (remote file : String) :
    Keeps Sound (fun _ => True) (fetch remote file : Op σ Connection _) :=
  Keeps.bind sound_connect fun _ => sound_of_perform (.fetch remote file) rfl

theorem sound_perform (step : Step) :
    Keeps Sound (fun _ => True) (step.perform : Op σ Connection Reply) := by
  cases step with
  | ask request =>
      cases request with
      | connect => exact sound_connect.map _
      | exec command => exact (sound_exec command none).map _
      | put file remote => exact (sound_put file remote).map _
      | fetch remote file => exact (sound_fetch remote file).map _
  | pipe command input => exact (sound_exec command (some input)).map _
  | close => exact (sound_of_perform .close rfl).map _
  | direct step => exact sound_onTransport fun _ => Transport.settled_final step

/-- Whatever has been asked of a connection, its transport is settled. -/
theorem Reachable.settled {c : Connection} (h : Reachable σ c) : c.transport.Settled := by
  induction h with
  | new phase free => exact Transport.settled_disconnected phase free
  | step reached step world ih => exact (sound_perform step).final (s := ⟨_, world⟩) ih

/-! ## Connecting first -/

/-- The operation of the transport that a step is for, if it is for one. -/
def Step.operation? : Step → Option Transport.Step
  | .ask (.exec command) | .pipe command _ => some (.exec command)
  | .ask (.put file remote) => some (.put file remote)
  | .ask (.fetch remote file) => some (.fetch remote file)
  | _ => none

/-- The world after the file that a step is to send, if it is to send one, has been looked for. -/
def Step.checked (step : Step) (world : World σ) : World σ :=
  match step with
  | .ask (.put file _) => { world with host := ((Host.isFile file).run world.host).2 }
  | _ => world

def connecting (c : Connection) : Op σ Transport Unit :=
  match c.waitFor with
  | some timeout => Transport.connectWhenAvailable timeout
  | none => Transport.connect

theorem connect_apply (s : On σ Connection) : connect s = onTransport s.subject.connecting s := by
  unfold connect
  rw [Op.bind_of_ok (Op.subject_apply s), connecting]
  cases s.subject.waitFor <;> rfl

omit [Host σ] in
theorem map_onTransport (f : α → β) (act : Op σ Transport α) :
    f <$> onTransport act = onTransport (f <$> act) := by
  funext s
  cases ended : act ⟨s.subject.transport, s.world⟩ with
  | ok a s' =>
      rw [Op.map_of_ok (onTransport_of_ok ended), onTransport_of_ok (Op.map_of_ok ended)]
  | error e s' =>
      rw [Op.map_of_error (onTransport_of_error ended),
        onTransport_of_error (Op.map_of_error ended)]

theorem map_connect (f : α → β) (act : Op σ Transport α) :
    f <$> (do connect; onTransport act) = (do connect; onTransport (f <$> act)) := by
  rw [map_bind, map_onTransport]

/-- A step that is not refused connects and then does on the transport what it is for. -/
theorem perform_of_taken {step : Step} {operation : Transport.Step}
    (operates : step.operation? = some operation) {c : Connection} {world : World σ}
    (taken : ∀ e, ¬ Refused ⟨c, world⟩ step e) :
    step.perform ⟨c, world⟩ =
      (do connect; onTransport operation.perform) ⟨c, step.checked world⟩ := by
  cases step with
  | ask request =>
      cases request with
      | connect => cases operates
      | exec command =>
          cases operates
          have connects : (exec command : Op σ Connection _) =
              (do connect; onTransport (Transport.exec command)) := rfl
          rw [Step.perform, Request.perform, connects, map_connect]
          rfl
      | put file remote =>
          cases operates
          obtain ⟨isFile, host, found⟩ : ∃ a h, (Host.isFile file).run world.host = (a, h) :=
            ⟨_, _, rfl⟩
          cases isFile with
          | false => exact absurd (.missing found) (taken _)
          | true =>
              have connects : put file remote ⟨c, world⟩ =
                  (do connect; onTransport (Transport.put file remote))
                    ⟨c, { world with host }⟩ := by
                unfold put
                rw [Op.bind_of_ok (Op.host_of_run found)]
                rfl
              have mapped := congrFun (map_connect (fun _ => Reply.done)
                (Transport.put file remote : Op σ Transport Unit)) ⟨c, { world with host }⟩
              rw [Op.map_apply, ← connects, ← Op.map_apply] at mapped
              rw [Step.checked, found]
              exact mapped
      | fetch remote file =>
          cases operates
          have connects : (fetch remote file : Op σ Connection _) =
              (do connect; onTransport (Transport.fetch remote file)) := rfl
          rw [Step.perform, Request.perform, connects, map_connect]
          rfl
  | pipe command input => exact absurd (.pipe command input) (taken _)
  | close => cases operates
  | direct step => cases operates

theorem events_checked (step : Step) (world : World (Transcript σ)) :
    (step.checked world).host.events = world.host.events := by
  unfold Step.checked
  split
  · exact Transcript.events_of_pass rfl
  · rfl

theorem connecting_of_connected {c : Connection} (connected : c.transport.isConnected = true)
    (world : World σ) : c.connecting ⟨c.transport, world⟩ = .ok () ⟨c.transport, world⟩ := by
  unfold connecting
  cases c.waitFor with
  | none => exact Transport.connect_of_connected (s := ⟨c.transport, world⟩) connected
  | some timeout =>
      simp only [Transport.connectWhenAvailable]
      rw [Op.bind_of_ok (Op.subject_apply _), if_pos connected]
      rfl

theorem connecting_of_disconnected {c : Connection}
    (disconnected : c.transport.phase = .disconnected) (world : World (Transcript σ)) :
    ConnectEnd c.transport world.host.events (c.connecting ⟨c.transport, world⟩) := by
  unfold connecting
  cases c.waitFor with
  | none => exact Transport.connect_of_disconnected disconnected world
  | some timeout => exact Transport.connectWhenAvailable_of_disconnected disconnected timeout world

/-! ## Operations -/

/-- What becomes of a step that is for an operation of the transport. -/
inductive Operated (c : Connection) (world : World (Transcript σ)) (step : Step)
    (operation : Transport.Step) :
    EStateM.Result Failure (On (Transcript σ) Connection) Reply → Prop
  | refused {e : Failure} {s' : On (Transcript σ) Connection}
      (refused : Refused ⟨c, world⟩ step e) : Operated c world step operation (.error e s')
  | unconnected {e : Failure} {world' : World (Transcript σ)}
      (disconnected : c.transport.phase = .disconnected)
      (connects : c.connecting ⟨c.transport, step.checked world⟩ = .error e ⟨c.transport, world'⟩) :
      Operated c world step operation (.error e ⟨c, world'⟩)
  | connected {session : Session} {terminal : Terminal} {t : Transport} {log : List Event}
      {world' : World (Transcript σ)} (disconnected : c.transport.phase = .disconnected)
      (connects : c.connecting ⟨c.transport, step.checked world⟩ = .ok () ⟨t, world'⟩)
      (ready : t = { c.transport with session := some session, phase := .ready })
      (isOpen : session.terminal = some terminal)
      (started : .started c.transport.attachment (.ok terminal.process) ∈ log)
      (events : world'.host.events = world.host.events ++ log) :
      Operated c world step operation
        (onTransport operation.perform ⟨{ c with transport := t }, world'⟩)
  | ready (ready : c.transport.phase = .ready)
      (quiet : ((onTransport operation.perform).final
        ⟨c, step.checked world⟩).world.host.starts = world.host.starts) :
      Operated c world step operation
        (onTransport operation.perform ⟨c, step.checked world⟩)

theorem confined_operation {step : Step} {operation : Transport.Step}
    (operates : step.operation? = some operation) :
    Confined False True (operation.perform : Op σ Transport Reply) := by
  cases step with
  | ask request =>
      cases request with
      | connect => cases operates
      | exec command =>
          cases operates
          exact .map _ (Transport.confined_exec command)
      | put file remote =>
          cases operates
          exact .map _ (Transport.confined_put file remote)
      | fetch remote file =>
          cases operates
          exact .map _ (Transport.confined_fetch remote file)
  | pipe command input =>
      cases operates
      exact .map _ (Transport.confined_exec command)
  | close => cases operates
  | direct step => cases operates

theorem operated_of_taken {c : Connection} (settled : c.transport.Settled) {step : Step}
    {operation : Transport.Step} (operates : step.operation? = some operation)
    {world : World (Transcript σ)} (taken : ∀ e, ¬ Refused ⟨c, world⟩ step e) :
    Operated c world step operation (step.perform ⟨c, world⟩) := by
  have events := events_checked step world
  rw [perform_of_taken operates taken]
  obtain ⟨session, terminal, ready, held, isOpen⟩ | ⟨disconnected, -⟩ :=
    settled.ready_or_disconnected
  · have connected := connecting_of_connected
      (Transport.isConnected_iff.mpr ⟨ready, session, held⟩) (step.checked world)
    have connects := (connect_apply ⟨c, step.checked world⟩).trans (onTransport_of_ok connected)
    rw [Op.bind_of_ok connects]
    refine .ready ready ?_
    rw [(confined_onTransport (confined_operation operates)).starts_eq, Transcript.starts, events]
    rfl
  · have ends := connecting_of_disconnected disconnected (step.checked world)
    generalize connected : c.connecting ⟨c.transport, step.checked world⟩ = result at ends
    cases ends with
    | failed failure =>
        have connects := (connect_apply ⟨c, step.checked world⟩).trans
          (onTransport_of_error connected)
        rw [Op.bind_of_error connects]
        exact .unconnected disconnected connected
    | ready isOpen started log =>
        have connects := (connect_apply ⟨c, step.checked world⟩).trans
          (onTransport_of_ok connected)
        rw [Op.bind_of_ok connects]
        exact .connected disconnected connected rfl isOpen started (log.trans (by rw [events]))

/-! ## Failures -/

theorem later_checked (step : Step) (world : World σ) :
    Host.Later world.host (step.checked world).host := by
  intro Q steady hs
  unfold Step.checked
  split
  · exact steady.isFile _ hs
  · exact hs

theorem confined_connecting (c : Connection) :
    Confined True True (c.connecting : Op σ Transport Unit) := by
  unfold connecting
  cases c.waitFor with
  | none => exact Transport.confined_connect
  | some timeout => exact Transport.confined_connectWhenAvailable timeout

/-- The ways in which a step that is for an operation of the transport can fail. -/
inductive Fails (c : Connection) (world : World σ) (step : Step) : Failure → Prop
  | unsupported (feature : String) (refused : Refused ⟨c, world⟩ step (.unsupported feature)) :
      Fails c world step (.unsupported feature)
  | missing (file : String) (refused : Refused ⟨c, world⟩ step (.localFileNotFound file)) :
      Fails c world step (.localFileNotFound file)
  | connecting {e : Failure} (h : e.OfConnecting) : Fails c world step e
  | operation {e : Failure} (h : e.OfOperation) : Fails c world step e
  | vanished {file remote : String} {host : σ} (sends : step = .ask (.put file remote))
      (later : Host.Later world.host host) (gone : ((Host.isFile file).run host).1 = false) :
      Fails c world step (.localFileNotFound file)

theorem fails_of_refused {c : Connection} {world : World σ} {step : Step}
    {operation : Transport.Step} (operates : step.operation? = some operation) {e : Failure}
    (refused : Refused ⟨c, world⟩ step e) :
    (∃ s', step.perform ⟨c, world⟩ = .error e s') ∧ Fails c world step e := by
  cases refused with
  | pipe command input => exact ⟨⟨_, rfl⟩, .unsupported _ (.pipe command input)⟩
  | @missing file remote found missing =>
      have ended := Op.map_of_error (f := fun _ => Reply.done)
        (put_of_missing remote (s := ⟨c, world⟩) missing)
      exact ⟨⟨_, ended⟩, .missing file (.missing missing)⟩
  | direct => cases operates

theorem fails_of_operation {c : Connection} {world : World σ} {step : Step}
    {operation : Transport.Step} (operates : step.operation? = some operation)
    {s s' : On σ Transport} (later : Host.Later world.host s.world.host) {session : Session}
    {terminal : Terminal} (ready : s.subject.phase = .ready)
    (held : s.subject.session = some session) (isOpen : session.terminal = some terminal)
    {e : Failure} (failed : operation.perform s = .error e s') : Fails c world step e := by
  cases step with
  | ask request =>
      cases request with
      | connect => cases operates
      | exec command =>
          cases operates
          exact .operation (Transport.exec_fails ready held isOpen (Op.map_eq_error failed))
      | put file remote =>
          cases operates
          obtain failure | ⟨rfl, gone⟩ := Transport.put_fails ready held (Op.map_eq_error failed)
          · exact .operation failure
          · exact .vanished rfl later gone
      | fetch remote file =>
          cases operates
          exact .operation (Transport.fetch_fails ready held (Op.map_eq_error failed))
  | pipe command input =>
      cases operates
      exact .operation (Transport.exec_fails ready held isOpen (Op.map_eq_error failed))
  | close => cases operates
  | direct step => cases operates

omit [Host σ] in
theorem onTransport_eq_error {act : Op σ Transport α} {s s' : On σ Connection} {e : Failure}
    (h : onTransport act s = .error e s') :
    ∃ r, act ⟨s.subject.transport, s.world⟩ = .error e r := by
  cases ended : act ⟨s.subject.transport, s.world⟩ with
  | ok a r =>
      rw [onTransport_of_ok ended] at h
      cases h
  | error cause r =>
      rw [onTransport_of_error ended] at h
      cases h
      exact ⟨r, rfl⟩

theorem fails_of_operated {c : Connection} (settled : c.transport.Settled) {step : Step}
    {operation : Transport.Step} (operates : step.operation? = some operation)
    {world : World (Transcript σ)} {e : Failure} {s' : On (Transcript σ) Connection}
    (h : Operated c world step operation (.error e s')) : Fails c world step e := by
  generalize result : EStateM.Result.error e s' = r at h
  cases h with
  | refused refused =>
      cases result
      exact (fails_of_refused operates refused).2
  | unconnected disconnected connects =>
      cases result
      have ends := connecting_of_disconnected disconnected (step.checked world)
      rw [connects] at ends
      cases ends with
      | failed failure => exact .connecting failure
  | connected disconnected connects ready isOpen started events =>
      obtain ⟨r, failed⟩ := onTransport_eq_error result.symm
      have later := (later_checked step world).trans ((confined_connecting c).later connects)
      exact fails_of_operation operates later (by rw [ready]) (by rw [ready]) isOpen failed
  | ready ready quiet =>
      obtain ⟨session, terminal, -, held, isOpen⟩ | ⟨disconnected, -⟩ :=
        settled.ready_or_disconnected
      · obtain ⟨r, failed⟩ := onTransport_eq_error result.symm
        exact fails_of_operation operates (later_checked step world) ready held isOpen failed
      · rw [ready] at disconnected
        cases disconnected

/-- What becomes of commands and transfers, in every state that a connection can get into. One that
is not refused at once connects if there is no session, whereupon either the connection is not made
and that is reported, or the operation uses the session with the process that was started for it. If
there is a session, that is used, and nothing is started. So an operation never fails because there
is no connection or because the session has been closed. And unless a file disappears while it is
to be sent, it is only ever missed at once. -/
theorem operated_perform {c : Connection} (reached : Reachable (Transcript σ) c) {step : Step}
    {operation : Transport.Step} (operates : step.operation? = some operation)
    (world : World (Transcript σ)) :
    Operated c world step operation (step.perform ⟨c, world⟩) ∧
      ∀ e s', step.perform ⟨c, world⟩ = .error e s' → e ≠ .notConnected ∧ e ≠ .sessionClosed ∧
        ∀ file, e = .localFileNotFound file →
          Host.Steady True True
              (fun host : Transcript σ => ((Host.isFile file).run host).1 = true) →
            Refused ⟨c, world⟩ step e := by
  have operated : Operated c world step operation (step.perform ⟨c, world⟩) := by
    by_cases taken : ∀ e, ¬ Refused ⟨c, world⟩ step e
    · exact operated_of_taken reached.settled operates taken
    · obtain ⟨e, refused⟩ := not_forall_not.mp taken
      obtain ⟨⟨s', ended⟩, -⟩ := fails_of_refused operates refused
      rw [ended]
      exact .refused refused
  refine ⟨operated, fun e s' failed => ?_⟩
  rw [failed] at operated
  cases fails_of_operated reached.settled operates operated with
  | unsupported feature refused => exact ⟨nofun, nofun, nofun⟩
  | missing file refused => exact ⟨nofun, nofun, fun _ _ _ => refused⟩
  | connecting failure =>
      obtain ⟨notConnected, notClosed, notMissing⟩ := failure.ne
      exact ⟨notConnected, notClosed, fun file missing => absurd missing (notMissing file)⟩
  | operation failure =>
      obtain ⟨notConnected, notClosed, notMissing⟩ := failure.ne
      exact ⟨notConnected, notClosed, fun file missing => absurd missing (notMissing file)⟩
  | @vanished file remote host sends later gone =>
      refine ⟨nofun, nofun, fun _ same steady => ?_⟩
      cases same
      obtain ⟨isFile, found, looked⟩ : ∃ a h, (Host.isFile file).run world.host = (a, h) :=
        ⟨_, _, rfl⟩
      cases isFile with
      | false =>
          rw [sends]
          exact .missing looked
      | true =>
          have there := later steady (by rw [looked])
          rw [gone] at there
          cases there

theorem operated_perform_typing : ∃ c e s', Reachable (Transcript Playback) c ∧
    (Step.ask (.exec "true")).perform ⟨c, recording Transport.refusing⟩ = .error e s' ∧
      Operated c (recording Transport.refusing) (.ask (.exec "true")) (.exec "true")
        (.error e s') ∧
      e ≠ .notConnected ∧ e ≠ .sessionClosed := by
  let caller : Connection := { transport := Transport.greeter }
  have reached : Reachable (Transcript Playback)
      ((Step.ask .connect).perform.final ⟨caller, recording Transport.prompting⟩).subject :=
    .step (.new rfl rfl) (.ask .connect) (recording Transport.prompting)
  have ended : (Step.ask (.exec "true")).perform.outcome
      ⟨((Step.ask .connect).perform.final ⟨caller, recording Transport.prompting⟩).subject,
        recording Transport.refusing⟩ = .error (.io "Input/output error (os error 5)") := by
    decide +kernel
  have failed := Op.outcome_eq_error ended
  have operates : (Step.ask (.exec "true")).operation? = some (.exec "true") := rfl
  obtain ⟨operated, fails⟩ := operated_perform reached operates (recording Transport.refusing)
  rw [failed] at operated
  obtain ⟨notConnected, notClosed, -⟩ := fails _ _ failed
  exact ⟨_, _, _, reached, failed, operated, notConnected, notClosed⟩

end SerialConsole.Connection
