import SerialConsole.Proofs.Transport.Command
import SerialConsole.Proofs.Transport.Runs
import SerialConsole.Proofs.Transport.Transfers

/-!
# What failures leave behind

A fatal failure says that the console cannot be trusted any more, so it should cost the transport
its session, and no other failure should. That is so for all failures but those of the local file of
a transfer: they are fatal, as all failures of transfers are, but come before the console is used.
-/

namespace SerialConsole

/-- A failure that a command or a transfer can end with on a session that is logged in. -/
inductive Failure.OfOperation : Failure → Prop
  | io (reason : String) : OfOperation (.io reason)
  | wait {e : Failure} (h : e.OfWait) : OfOperation e
  | unparsedOutput (m : Mark) (output : String) : OfOperation (.unparsedOutput m output)
  | transfer (path : String) (m : Mark) (reason : String) : OfOperation (.transfer path m reason)

theorem Failure.OfOperation.ne {e : Failure} (h : e.OfOperation) :
    e ≠ .notConnected ∧ e ≠ .sessionClosed ∧ ∀ file, e ≠ .localFileNotFound file := by
  cases h with
  | io => simp
  | wait h => cases h <;> simp
  | unparsedOutput => simp
  | transfer => simp

namespace Transport

open Session (StaysOpen)

variable {σ α β : Type} [Host σ]

/-- What a failure should leave of a transport that was ready: nothing of its session if it is
fatal, and otherwise its session, on the same terminal and ready. -/
structure LeftBy (e : Failure) (before after : Transport) : Prop where
  fatal : e.isFatal = true → after = before.withoutSession
  mild : e.isFatal = false → ∃ session session', before.session = some session ∧
    session'.terminal = session.terminal ∧
    after = { before with session := some session', phase := .ready }

theorem LeftBy.unchanged {e : Failure} {t : Transport} {session : Session}
    (mild : e.isFatal = false) (ready : t.phase = .ready) (held : t.session = some session) :
    LeftBy e t t where
  fatal fatal := by
    rw [mild] at fatal
    cases fatal
  mild _ := by
    refine ⟨session, session, held, rfl, ?_⟩
    rw [← ready, ← held]

/-! ## The end of an operation -/

theorem finish_eq_error {result : Except Failure α} {s s' : On σ Transport} {e : Failure}
    (h : finish result s = .error e s') : result = .error e ∧
      (e.isFatal = true → s'.subject = s.subject.withoutSession) ∧
      (e.isFatal = false → s'.subject = { s.subject with phase := .ready }) := by
  cases result with
  | ok a =>
      rw [finish_ok] at h
      cases h
  | error cause =>
      cases fatal : cause.isFatal with
      | true =>
          obtain ⟨world, finished⟩ := finish_fatal (α := α) fatal s
          rw [finished] at h
          cases h
          refine ⟨rfl, fun _ => rfl, fun mild => ?_⟩
          rw [fatal] at mild
          cases mild
      | false =>
          rw [finish_error fatal] at h
          cases h
          refine ⟨rfl, fun isFatal => ?_, fun _ => rfl⟩
          rw [fatal] at isFatal
          cases isFatal

theorem finishTransfer_eq_error {path : String} {m : Mark} {result : Except Failure α}
    {s s' : On σ Transport} {e : Failure} (h : finishTransfer path m result s = .error e s') :
    ∃ cause : Failure, e = .transfer path m cause.message := by
  obtain ⟨mapped, -⟩ := finish_eq_error h
  cases result with
  | ok a => cases mapped
  | error cause =>
      cases mapped
      exact ⟨cause, rfl⟩

/-- Once the session is in use, what a failure leaves is decided by `finish` alone. -/
theorem leftBy_of_finish {act : Op σ Session α} (open_ : StaysOpen act) {t : Transport}
    {session : Session} {terminal : Terminal} (held : t.session = some session)
    (isOpen : session.terminal = some terminal) {world : World σ} {phase : Phase}
    (report : Except Failure α → Except Failure β) {e : Failure} {s' : On σ Transport}
    (failed : finish (report (act.outcome ⟨session.dropRaw, world⟩))
      ⟨{ t with phase, session := some (act.final ⟨session.dropRaw, world⟩).subject },
        (act.final ⟨session.dropRaw, world⟩).world⟩ = .error e s') :
    LeftBy e t s'.subject := by
  obtain ⟨-, fatal, mild⟩ := finish_eq_error failed
  have still := (open_ terminal).final (s := ⟨session.dropRaw, world⟩) isOpen
  exact ⟨fatal, fun h => ⟨session, _, held, still.trans isOpen.symm, mild h⟩⟩

/-! ## Transfers -/

/-- The local file of a transfer cannot be opened, or cannot be made. -/
inductive FileRefused (s : On σ Transport) : Step → Failure → Prop
  | opening {file remote : String} {found marked opened : σ} {m : Mark} {reason : String}
      (isFile : (Host.isFile file).run s.world.host = (true, found))
      (marks : Host.freshMark.run found = (m, marked))
      (refused : (Host.openFile file).run marked = (.error reason, opened)) :
      FileRefused s (.put file remote) (.transfer remote m reason)
  | creating {file remote : String} {marked created : σ} {m : Mark} {reason : String}
      (marks : Host.freshMark.run s.world.host = (m, marked))
      (refused : (Host.createFile file).run marked = (.error reason, created)) :
      FileRefused s (.fetch remote file) (.transfer file m reason)

theorem FileRefused.isFatal {s : On σ Transport} {step : Step} {e : Failure}
    (h : FileRefused s step e) : e.isFatal = true := by
  cases h <;> rfl

/-! ## Operations -/

/-- Whether an operation uses a session that is logged in. -/
def Step.uses : Step → Bool
  | .exec _ | .put .. | .fetch .. => true
  | _ => false

/-- What an operation that fails leaves: all of the transport if the local file is refused, and
otherwise what its failure should leave. -/
def FailsOn (s : On σ Transport) (step : Step) (e : Failure) (after : Transport) : Prop :=
  (FileRefused s step e ∧ after = s.subject) ∨ LeftBy e s.subject after

section Failed

variable {s s' : On σ Transport} {e : Failure} {session : Session} {terminal : Terminal}
  (ready : s.subject.phase = .ready) (held : s.subject.session = some session)
  (isOpen : session.terminal = some terminal)

include ready held isOpen

theorem exec_leftBy {command : String} (failed : exec command s = .error e s') :
    LeftBy e s.subject s'.subject := by
  obtain ⟨act, rfl, ran⟩ := exec_of_ready ready held command
  rw [ran] at failed
  exact leftBy_of_finish (Session.staysOpen_runCommand _ _ _ _) held isOpen id failed

theorem put_failsOn {file remote : String} (failed : put file remote s = .error e s') :
    FailsOn s (.put file remote) e s'.subject := by
  have connected := isConnected_iff.mpr ⟨ready, session, held⟩
  obtain ⟨isFile, host, found⟩ : ∃ a h, (Host.isFile file).run s.world.host = (a, h) :=
    ⟨_, _, rfl⟩
  cases isFile with
  | false =>
      rw [put_of_missing remote found] at failed
      cases failed
      exact .inr (.unchanged rfl ready held)
  | true =>
      obtain ⟨m, marked, marks⟩ : ∃ m h, Host.freshMark.run host = (m, h) := ⟨_, _, rfl⟩
      obtain ⟨answer, opened, opens⟩ : ∃ a h, (Host.openFile file).run marked = (a, h) :=
        ⟨_, _, rfl⟩
      cases answer with
      | error reason =>
          rw [put_of_refused remote connected found marks opens] at failed
          cases failed
          exact .inl ⟨.opening found marks opens, rfl⟩
      | ok source =>
          obtain ⟨act, begun, rfl, rfl, ran⟩ :=
            put_of_ready remote ready held ⟨_, _, found, marks, opens⟩
          rw [ran] at failed
          exact .inr (leftBy_of_finish (Session.staysOpen_upload _ _ _ _ _) held isOpen _ failed)

theorem fetch_failsOn {remote file : String} (failed : fetch remote file s = .error e s') :
    FailsOn s (.fetch remote file) e s'.subject := by
  have connected := isConnected_iff.mpr ⟨ready, session, held⟩
  obtain ⟨m, marked, marks⟩ : ∃ m h, Host.freshMark.run s.world.host = (m, h) := ⟨_, _, rfl⟩
  obtain ⟨answer, created, creates⟩ : ∃ a h, (Host.createFile file).run marked = (a, h) :=
    ⟨_, _, rfl⟩
  cases answer with
  | error reason =>
      rw [fetch_of_refused remote connected marks creates] at failed
      cases failed
      exact .inl ⟨.creating marks creates, rfl⟩
  | ok done =>
      obtain ⟨act, begun, rfl, rfl, ran⟩ := fetch_of_ready remote ready held marks creates
      rw [ran] at failed
      exact .inr (leftBy_of_finish (Session.staysOpen_download _ _ _ _ _) held isOpen _ failed)

theorem failsOn_of_perform {step : Step} (uses : step.uses = true)
    (failed : step.perform s = .error e s') : FailsOn s step e s'.subject := by
  cases step with
  | exec command => exact .inr (exec_leftBy ready held isOpen (Op.map_eq_error failed))
  | put file remote => exact put_failsOn ready held isOpen (Op.map_eq_error failed)
  | fetch remote file => exact fetch_failsOn ready held isOpen (Op.map_eq_error failed)
  | connect => cases uses
  | connectWhenAvailable timeout => cases uses
  | close => cases uses
  | forceClose => cases uses

theorem exec_fails {command : String} (failed : exec command s = .error e s') :
    e.OfOperation := by
  obtain ⟨act, rfl, ran⟩ := exec_of_ready ready held command
  rw [ran] at failed
  have ended := Op.outcome_eq_error (finish_eq_error failed).1
  obtain ⟨reason, rfl, -⟩ | wait | ⟨output, rfl⟩ :=
    Session.runCommand_eq_error (s := handed session s) isOpen ended
  · exact .io reason
  · exact .wait wait
  · exact .unparsedOutput _ output

omit isOpen in
theorem put_fails {file remote : String} (failed : put file remote s = .error e s') :
    e.OfOperation ∨ (e = .localFileNotFound file ∧
      ((Host.isFile file).run s.world.host).1 = false) := by
  have connected := isConnected_iff.mpr ⟨ready, session, held⟩
  obtain ⟨isFile, host, found⟩ : ∃ a h, (Host.isFile file).run s.world.host = (a, h) :=
    ⟨_, _, rfl⟩
  cases isFile with
  | false =>
      rw [put_of_missing remote found] at failed
      cases failed
      exact .inr ⟨rfl, by rw [found]⟩
  | true =>
      obtain ⟨m, marked, marks⟩ : ∃ m h, Host.freshMark.run host = (m, h) := ⟨_, _, rfl⟩
      obtain ⟨answer, opened, opens⟩ : ∃ a h, (Host.openFile file).run marked = (a, h) :=
        ⟨_, _, rfl⟩
      cases answer with
      | error reason =>
          rw [put_of_refused remote connected found marks opens] at failed
          cases failed
          exact .inl (.transfer _ _ _)
      | ok source =>
          obtain ⟨act, begun, -, -, ran⟩ :=
            put_of_ready remote ready held ⟨_, _, found, marks, opens⟩
          rw [ran] at failed
          obtain ⟨cause, rfl⟩ := finishTransfer_eq_error failed
          exact .inl (.transfer _ _ _)

omit isOpen in
theorem fetch_fails {remote file : String} (failed : fetch remote file s = .error e s') :
    e.OfOperation := by
  have connected := isConnected_iff.mpr ⟨ready, session, held⟩
  obtain ⟨m, marked, marks⟩ : ∃ m h, Host.freshMark.run s.world.host = (m, h) := ⟨_, _, rfl⟩
  obtain ⟨answer, created, creates⟩ : ∃ a h, (Host.createFile file).run marked = (a, h) :=
    ⟨_, _, rfl⟩
  cases answer with
  | error reason =>
      rw [fetch_of_refused remote connected marks creates] at failed
      cases failed
      exact .transfer _ _ _
  | ok done =>
      obtain ⟨act, begun, -, -, ran⟩ := fetch_of_ready remote ready held marks creates
      rw [ran] at failed
      obtain ⟨cause, rfl⟩ := finishTransfer_eq_error failed
      exact .transfer _ _ _

end Failed

theorem subject_of_refused {s s' : On σ Transport} {step : Step} {e e' : Failure}
    (connected : s.subject.isConnected = true) (refused : FileRefused s step e)
    (failed : step.perform s = .error e' s') : s'.subject = s.subject := by
  cases refused with
  | @opening _ remote _ _ _ _ _ isFile marks opened =>
      have ended := Op.map_eq_error failed
      rw [put_of_refused remote connected isFile marks opened] at ended
      cases ended
      rfl
  | @creating _ remote _ _ _ _ marks made =>
      have ended := Op.map_eq_error failed
      rw [fetch_of_refused remote connected marks made] at ended
      cases ended
      rfl

/-- A command or transfer that fails on a transport that is ready costs it the session if the
failure is fatal, and leaves it ready with its session if not, whatever the console and the local
files do. The failure of a transfer whose local file cannot be opened or made is the exception: it
is fatal, but the transport is ready with its session as before. -/
theorem leftBy_of_failure {t : Transport} (reached : Reachable σ t) (ready : t.phase = .ready)
    {step : Step} (uses : step.uses = true) {world : World σ} {e : Failure} {s' : On σ Transport}
    (failed : step.perform ⟨t, world⟩ = .error e s') :
    (¬ FileRefused ⟨t, world⟩ step e → LeftBy e t s'.subject) ∧
      (FileRefused ⟨t, world⟩ step e → e.isFatal = true ∧ s'.subject = t) := by
  obtain ⟨session, terminal, held, isOpen⟩ := reached.session_of_ready ready
  constructor
  · intro notFile
    obtain ⟨refused, -⟩ | left :=
      failsOn_of_perform (s := ⟨t, world⟩) ready held isOpen uses failed
    · exact absurd refused notFile
    · exact left
  · intro refused
    have connected := isConnected_iff.mpr ⟨ready, session, held⟩
    exact ⟨refused.isFatal, subject_of_refused (s := ⟨t, world⟩) connected refused failed⟩

/-- What is typed is refused: the failure is not fatal, and the transport is ready. -/
theorem leftBy_of_failure_typing : ∃ e s',
    (Step.exec "true").perform ⟨loggedIn, refusing⟩ = .error e s' ∧
      ¬ FileRefused ⟨loggedIn, refusing⟩ (.exec "true") e ∧ LeftBy e loggedIn s'.subject := by
  have ended : (Step.exec "true").perform.outcome ⟨loggedIn, refusing⟩ =
      .error (.io "Input/output error (os error 5)") := by
    decide +kernel
  have failed := Op.outcome_eq_error ended
  have notFile : ¬ FileRefused ⟨loggedIn, refusing⟩ (.exec "true")
      (.io "Input/output error (os error 5)") := nofun
  refine ⟨_, _, failed, notFile, ?_⟩
  exact (leftBy_of_failure reachable_loggedIn phase_loggedIn rfl failed).1 notFile

/-- The local file is refused: the failure is fatal, but the transport is ready all the same. -/
theorem not_leftBy_of_refused_file :
    ¬ ∀ (σ : Type) [Host σ] (t : Transport) (step : Step) (world : World σ) (e : Failure)
        (s' : On σ Transport), Reachable σ t → t.phase = .ready → step.uses = true →
      step.perform ⟨t, world⟩ = .error e s' → LeftBy e t s'.subject := by
  intro agree
  have ended : (Step.fetch "/r" "out").perform.outcome ⟨loggedIn, refusing⟩ =
      .error (.transfer "out" ⟨0⟩ "Input/output error (os error 5)") := by
    decide +kernel
  have failed := Op.outcome_eq_error ended
  have left := agree Playback loggedIn _ refusing _ _ reachable_loggedIn phase_loggedIn rfl failed
  have same : ((Step.fetch "/r" "out").perform.final ⟨loggedIn, refusing⟩).subject.phase =
      .ready := by
    decide +kernel
  rw [left.fatal rfl] at same
  cases same

end Transport

end SerialConsole
