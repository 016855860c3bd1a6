import SerialConsole.Proofs.Connection
import SerialConsole.Proofs.Transport.Login
import SerialConsole.Proofs.Transport.Refusals

/-!
# Requests that are refused

All that can be asked of a connection or, past it, of its transport, and what is refused at once. A
request that is refused is not worth a connection: none is made for it, and one that there is stays
as it was (`spared_perform`).
-/

namespace SerialConsole.Connection

open Transport (Reply)

variable {σ α : Type} [Host σ]

/-- Something asked of a connection, or of its transport. -/
inductive Step where
  | ask (request : Request)
  | pipe (command : String) (input : Bytes)
  | close
  | direct (step : Transport.Step)

/-- Carries out a step. -/
def Step.perform : Step → Op σ Connection Reply
  | .ask request => request.perform
  | .pipe command input => .ran <$> Connection.exec command (some input)
  | .close => (fun _ => .done) <$> Connection.close
  | .direct step => onTransport step.perform

/-- The steps that are refused at once, each with the failure that says so. -/
inductive Refused (s : On σ Connection) : Step → Failure → Prop
  | pipe (command : String) (input : Bytes) :
      Refused s (.pipe command input)
        (.unsupported "piping data into commands over a serial console")
  | missing {file remote : String} {found : σ}
      (missing : (Host.isFile file).run s.world.host = (false, found)) :
      Refused s (.ask (.put file remote)) (.localFileNotFound file)
  | direct {step : Transport.Step} {e : Failure}
      (refused : Transport.Refused ⟨s.subject.transport, s.world⟩ step e) :
      Refused s (.direct step) e

theorem put_of_missing {file : String} (remote : String) {s : On σ Connection} {found : σ}
    (missing : (Host.isFile file).run s.world.host = (false, found)) :
    put file remote s =
      .error (.localFileNotFound file) { s with world := { s.world with host := found } } := by
  unfold put
  rw [Op.bind_of_ok (Op.host_of_run missing)]
  rfl

/-- A step that is refused changes nothing: the transport is in the same state, with the same
session and the same output in it, and nothing is started, typed or ended. A file that was to be
received, but without a connection, is not touched either. -/
theorem spared_perform {s : On (Transcript σ) Connection} {step : Step} {e : Failure}
    (refused : Refused s step e) : ∃ s', step.perform s = .error e s' ∧ Spared s s' ∧
      ((∃ remote file, step = .direct (.fetch remote file)) → e = .notConnected → s' = s) := by
  cases refused with
  | pipe command input =>
      exact ⟨s, rfl, ⟨rfl, rfl⟩, fun _ _ => rfl⟩
  | @missing file remote found missing =>
      have ended := Op.map_of_error (f := fun _ => Reply.done) (put_of_missing remote missing)
      exact ⟨_, ended, ⟨rfl, Transcript.events_of_pass missing⟩, nofun⟩
  | @direct step e refused =>
      obtain ⟨s', ended, spared, quiet⟩ := Transport.spared_of_refused refused
      refine ⟨_, onTransport_of_error ended, ⟨?_, spared.events⟩, ?_⟩
      · rw [spared.subject]
      · rintro ⟨remote, file, same⟩ notConnected
        cases same
        rw [quiet notConnected nofun]

/-- A connection to a scripted console, not made yet. -/
def visitor : Connection where
  transport := Transport.guest

theorem spared_perform_fetch : ∃ s',
    (Step.direct (.fetch "/r" "out")).perform ⟨visitor, Transport.asking⟩ =
      .error .notConnected s' ∧ s' = ⟨visitor, Transport.asking⟩ := by
  have refused : Refused ⟨visitor, Transport.asking⟩ (.direct (.fetch "/r" "out")) .notConnected :=
    .direct (.fetch rfl)
  obtain ⟨s', ended, -, quiet⟩ := spared_perform refused
  exact ⟨s', ended, quiet ⟨_, _, rfl⟩ rfl⟩

end SerialConsole.Connection
