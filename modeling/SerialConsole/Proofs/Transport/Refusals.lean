import SerialConsole.Proofs.Transcript
import SerialConsole.Proofs.Transport.Failures

/-!
# Operations that are refused

A transport refuses an operation before it uses the console if the local file is missing or cannot
be opened or made, and if it is not connected. `spared_of_refused` says that nothing happens then:
the transport is what it was, and no process has been started, typed to or ended.
-/

namespace SerialConsole

/-- The host has only been asked for marks and about files. -/
inductive Host.Consulted {σ : Type} [Host σ] (h : σ) : σ → Prop
  | unasked : Host.Consulted h h
  | isFile {before after : σ} {file : String} {answer : Bool} (earlier : Host.Consulted h before)
      (ran : (Host.isFile file).run before = (answer, after)) : Host.Consulted h after
  | freshMark {before after : σ} {m : Mark} (earlier : Host.Consulted h before)
      (ran : Host.freshMark.run before = (m, after)) : Host.Consulted h after
  | openFile {before after : σ} {file : String} {answer : Except String Source}
      (earlier : Host.Consulted h before)
      (ran : (Host.openFile file).run before = (answer, after)) : Host.Consulted h after
  | createFile {before after : σ} {file : String} {answer : Except String Unit}
      (earlier : Host.Consulted h before)
      (ran : (Host.createFile file).run before = (answer, after)) : Host.Consulted h after

theorem Transcript.events_of_consulted {σ : Type} [Host σ] {t t' : Transcript σ}
    (h : Host.Consulted t t') : t'.events = t.events := by
  induction h with
  | unasked => rfl
  | isFile earlier ran ih => exact (events_of_pass ran).trans ih
  | freshMark earlier ran ih => exact (events_of_pass ran).trans ih
  | openFile earlier ran ih => exact (events_of_pass ran).trans ih
  | createFile earlier ran ih => exact (events_of_pass ran).trans ih

theorem Recorded.typed_of_consulted {σ : Type} [Host σ] {r r' : Recorded σ}
    (h : Host.Consulted r r') : r'.typed = r.typed := by
  induction h with
  | unasked => rfl
  | isFile earlier ran ih => exact (typed_pass ran).trans ih
  | freshMark earlier ran ih => exact (typed_pass ran).trans ih
  | openFile earlier ran ih => exact (typed_pass ran).trans ih
  | createFile earlier ran ih => exact (typed_pass ran).trans ih

/-- The subject is what it was, and nothing has been asked of any process. -/
structure Spared {σ τ : Type} (before after : On (Transcript σ) τ) : Prop where
  subject : after.subject = before.subject
  events : after.world.host.events = before.world.host.events

namespace Transport

variable {σ τ : Type} [Host σ]

theorem exec_of_free (command : String) {s : On σ Transport}
    (free : s.subject.isConnected = false) : exec command s = .error .notConnected s :=
  Op.bind_of_error (requireReady_of_free free)

theorem fetch_of_free (remote file : String) {s : On σ Transport}
    (free : s.subject.isConnected = false) : fetch remote file s = .error .notConnected s :=
  Op.bind_of_error (requireReady_of_free free)

theorem put_of_free {file : String} (remote : String) {s : On σ Transport} {found : σ}
    (free : s.subject.isConnected = false)
    (isFile : (Host.isFile file).run s.world.host = (true, found)) :
    put file remote s =
      .error .notConnected { s with world := { s.world with host := found } } := by
  unfold put
  rw [Op.bind_of_ok (Op.host_of_run isFile), if_pos rfl]
  exact Op.bind_of_error
    (requireReady_of_free (s := { s with world := { s.world with host := found } }) free)

/-- The operations that are refused at once, each with the failure that says so. -/
inductive Refused (s : On σ Transport) : Step → Failure → Prop
  | missing {file remote : String} {found : σ}
      (missing : (Host.isFile file).run s.world.host = (false, found)) :
      Refused s (.put file remote) (.localFileNotFound file)
  | exec {command : String} (free : s.subject.isConnected = false) :
      Refused s (.exec command) .notConnected
  | put {file remote : String} {found : σ} (free : s.subject.isConnected = false)
      (isFile : (Host.isFile file).run s.world.host = (true, found)) :
      Refused s (.put file remote) .notConnected
  | fetch {remote file : String} (free : s.subject.isConnected = false) :
      Refused s (.fetch remote file) .notConnected
  | file {step : Step} {e : Failure} (connected : s.subject.isConnected = true)
      (refused : FileRefused s step e) : Refused s step e

/-- An operation that is refused ends at once, after it has asked about its files. If it is refused
because there is no connection, the host is only asked whether there is a file to send. -/
theorem perform_of_refused {s : On σ Transport} {step : Step} {e : Failure}
    (h : Refused s step e) : ∃ host,
      step.perform s = .error e { s with world := { s.world with host } } ∧
      Host.Consulted s.world.host host ∧
      (e = .notConnected → (∀ file remote, step ≠ .put file remote) → host = s.world.host) := by
  cases h with
  | @missing file remote found missing =>
      have ended := Op.map_of_error (f := fun _ => Reply.done) (put_of_missing remote missing)
      exact ⟨_, ended, .isFile .unasked missing, nofun⟩
  | @exec command free =>
      have ended := Op.map_of_error (f := Reply.ran) (exec_of_free command free)
      exact ⟨_, ended, .unasked, fun _ _ => rfl⟩
  | @put file remote found free isFile =>
      have ended := Op.map_of_error (f := fun _ => Reply.done) (put_of_free remote free isFile)
      exact ⟨_, ended, .isFile .unasked isFile, fun _ other => absurd rfl (other file remote)⟩
  | @fetch remote file free =>
      have ended := Op.map_of_error (f := Reply.received) (fetch_of_free remote file free)
      exact ⟨_, ended, .unasked, fun _ _ => rfl⟩
  | file connected refused =>
      cases refused with
      | @opening file remote found marked opened m reason isFile marks refused =>
          have ended := Op.map_of_error (f := fun _ => Reply.done)
            (put_of_refused remote connected isFile marks refused)
          exact ⟨_, ended, .openFile (.freshMark (.isFile .unasked isFile) marks) refused, nofun⟩
      | @creating file remote marked created m reason marks refused =>
          have ended := Op.map_of_error (f := Reply.received)
            (fetch_of_refused remote connected marks refused)
          exact ⟨_, ended, .createFile (.freshMark .unasked marks) refused, nofun⟩

theorem spared_of_refused {s : On (Transcript σ) Transport} {step : Step} {e : Failure}
    (h : Refused s step e) : ∃ s', step.perform s = .error e s' ∧ Spared s s' ∧
      (e = .notConnected → (∀ file remote, step ≠ .put file remote) → s' = s) := by
  obtain ⟨host, ended, consulted, quiet⟩ := perform_of_refused h
  refine ⟨_, ended, ⟨rfl, Transcript.events_of_consulted consulted⟩, fun free other => ?_⟩
  rw [quiet free other]

end Transport

end SerialConsole
