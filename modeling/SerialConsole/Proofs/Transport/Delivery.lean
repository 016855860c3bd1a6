import SerialConsole.Proofs.Session.Delivery
import SerialConsole.Proofs.Transport.Answered
import SerialConsole.Proofs.Transport.Upload
import SerialConsole.Rehearsal.Basic

/-!
# Files that are sent

What a transport types to send a file depends on the file alone. Whether it reports success depends
on the file being read to its end and on the console confirming that it has been received
(`put_outcome`).
-/

namespace SerialConsole.Transport

open Host (Takes)
open Session (Delivers lineBytes sourceBytes)

variable {σ α : Type} [Host σ]

theorem finishTransfer_error (path : String) (m : Mark) (e : Failure) (s : On σ Transport) :
    ∃ world, finishTransfer path m (.error e : Except Failure α) s =
      .error (.transfer path m e.message) ⟨s.subject.withoutSession, world⟩ :=
  finish_fatal rfl s

/-- With a host that takes what is typed, a transport that is ready types the command that receives
a file, the lines of the chunks that can be read, and the end of input if and only if these are all.
It succeeds, and is ready, exactly if they are and the console confirms the file in time: with the
mark on a line of its own, after any other lines, and the prompt of the shell. Otherwise the failure
names the path and the mark, and there is no session any more. -/
theorem put_outcome {file remote : String} {s : On (Recorded σ) Transport} {session : Session}
    {terminal : Terminal} {m : Mark} {source : Source} {opened typed : Recorded σ}
    (ready : s.subject.phase = .ready) (held : s.subject.session = some session)
    (isOpen : session.terminal = some terminal) (offered : Offers file s m source opened)
    (taken : Takes terminal.process
      (sourceBytes source s.subject.settings.transfer.chunkSize remote.toList m) opened typed) :
    let begun : On (Recorded σ) Session := ⟨session.dropRaw, { s.world with host := typed }⟩
    let deadline : Deadline :=
      .after s.world.clock (.ofMillis s.subject.settings.timeouts.transfer)
    let received := source.failure? = none ∧ Delivers s.subject.prompts.shell m deadline begun
    ((put file remote).final s).world.host.typed = s.world.host.typed ++
        sourceBytes source s.subject.settings.transfer.chunkSize remote.toList m ∧
      (received → ∃ s', put file remote s = .ok () s' ∧ s'.subject.phase = .ready ∧
        s'.subject.session ≠ none) ∧
      (¬ received → ∃ reason s', put file remote s = .error (.transfer remote m reason) s' ∧
        s'.subject.phase = .disconnected ∧ s'.subject.session = none) := by
  intro begun deadline received
  obtain ⟨act, before, hact, hbefore, ran⟩ := put_of_ready remote ready held offered
  obtain ⟨found, marked, hfound, hmarked, hopened⟩ := offered
  have quiet : before.world.host.typed = s.world.host.typed := by
    rw [hbefore]
    exact (Recorded.typed_pass hopened).trans
      ((Recorded.typed_pass hmarked).trans (Recorded.typed_pass hfound))
  have succeeds : act.outcome before = .ok () ↔ received := by
    rw [hact, hbefore]
    exact Session.outcome_upload_eq_ok isOpen taken
  refine ⟨?_, fun h => ?_, fun h => ?_⟩
  · rw [typed_of_finish ran, ← quiet, hact, hbefore]
    exact Session.typed_upload_source isOpen taken
  · rw [ran, succeeds.mpr h]
    exact ⟨_, finish_ok _ _, rfl, Option.some_ne_none _⟩
  · rw [ran]
    cases ended : act.outcome before with
    | ok done => exact absurd (succeeds.mp ended) h
    | error e =>
      obtain ⟨world, finished⟩ := finishTransfer_error (α := Unit) remote m e
        ⟨{ s.subject with phase := .uploading, session := some (act.final before).subject },
          (act.final before).world⟩
      exact ⟨_, _, finished, rfl, rfl⟩

/-- What a console prints when it has received a file: the line that was typed, the mark in the
command and then alone, and the prompt. -/
def confirmation (m : Mark) : List Char :=
  "aGVsbG8=".toList ++ '\n' ::
    ("> printf ".toList ++ m.text ++ '\n' :: (" ".toList ++ m.text ++ '\n' :: "# ".toList))

def quietSession : Session := { printedSession [] with buffer := {} }

/-- A host whose console waits for the end of input and then confirms. -/
def confirming (issued : Nat) : World (Recorded (Desk Rehearsal)) :=
  { host := { host := {
      files := fun _ => some (Text.bytesOf "hello")
      console := {
        issued
        consoles := #[{
          launch := quietSession.launch
          script := { steps := [.receive [4],
            .sayBytes (Text.encode (confirmation (Rehearsal.nthMark 0)))] } }] } } } }

/-- A transport that sends a file to such a console. -/
def uploader : On (Recorded (Desk Rehearsal)) Transport :=
  ⟨{ printed [] with session := some quietSession }, confirming 0⟩

theorem put_outcome_confirmed :
    ((put "f" "g").final uploader).world.host.typed =
        [lineBytes (Command.receive "g".toList (Rehearsal.nthMark 0)), lineBytes "aGVsbG8=".toList,
          lineBytes [], [4]] ∧
      ∃ s', put "f" "g" uploader = .ok () s' ∧ s'.subject.phase = .ready ∧
        s'.subject.session ≠ none := by
  let m := Rehearsal.nthMark 0
  let portions := sourceBytes (Source.ofBytes (Text.bytesOf "hello"))
    uploader.subject.settings.transfer.chunkSize "g".toList m
  let h := Host.afterTyping 0 portions (confirming 1).host
  have cut : portions = [lineBytes (Command.receive "g".toList m), lineBytes "aGVsbG8=".toList,
      lineBytes [], [4]] := by decide +kernel
  have offered : Offers "f" uploader m (Source.ofBytes (Text.bytesOf "hello"))
      (confirming 1).host := ⟨_, _, rfl, rfl, rfl⟩
  have taken : Takes 0 portions (confirming 1).host h :=
    (Recorded.obliging fun _ _ _ => rfl).takes 0 portions _
  have isOpen : quietSession.terminal = some { process := 0 } := rfl
  obtain ⟨typed, received, -⟩ := put_outcome rfl rfl isOpen offered taken
  have confirms : Session.Confirms uploader.subject.prompts.shell m (confirmation m) :=
    .other (by decide +kernel) (by decide +kernel) (.other (by decide +kernel) (by decide +kernel)
      (.last (by decide +kernel) (by decide +kernel) (by decide +kernel)))
  obtain ⟨s', looked, shown⟩ : ∃ s', Session.look
      (.after 0 (.ofMillis uploader.subject.settings.timeouts.transfer))
      ⟨quietSession.dropRaw, { host := h }⟩ = (.more, s') ∧
        s'.subject.pending = confirmation m :=
    ⟨_, Prod.ext (by decide +kernel) rfl, by decide +kernel⟩
  refine ⟨typed.trans cut, received ⟨rfl, s', .single looked, ?_⟩⟩
  rw [shown]
  exact confirms

end SerialConsole.Transport
