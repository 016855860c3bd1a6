import SerialConsole.Proofs.Session.Typing
import SerialConsole.Proofs.Transport.Transfers

/-!
# What a transport types to send a file
-/

namespace SerialConsole.Transport

open Host (Obliging)
open Session (uploadBytes)

variable {σ α : Type} [Host σ]

/-- An operation has typed what has been typed on its session: to give that back adds nothing. -/
theorem typed_of_finish {op : Op (Recorded σ) Transport α} {result : Except Failure α}
    {s s' : On (Recorded σ) Transport} (ran : op s = finish result s') :
    (op.final s).world.host.typed = s'.world.host.typed := by
  have same : op.final s = (finish result).final s' := by
    unfold Op.final
    rw [ran]
  rw [same]
  exact (confined_finish result).typed_final s'

/-- A file that can be read to its end is typed completely if the host takes what is typed, or if
the operation succeeds, whatever the console prints. -/
theorem typed_put {file remote : String} {s : On (Recorded σ) Transport} {session : Session}
    {terminal : Terminal} {m : Mark} {source : Source} {opened : Recorded σ}
    (taken : Obliging σ ∨ ∃ s', put file remote s = .ok () s') (ready : s.subject.phase = .ready)
    (held : s.subject.session = some session) (isOpen : session.terminal = some terminal)
    (offered : Offers file s m source opened) (sound : source.failure? = none) :
    ((put file remote).final s).world.host.typed = s.world.host.typed ++
      uploadBytes remote.toList m
        (Chunker.dataLines s.subject.settings.transfer.chunkSize source.delivered) := by
  obtain ⟨act, begun, hact, hbegun, ran⟩ := put_of_ready remote ready held offered
  obtain ⟨found, marked, hfound, hmarked, hopened⟩ := offered
  have quiet : begun.world.host.typed = s.world.host.typed := by
    rw [hbegun]
    exact (Recorded.typed_pass hopened).trans
      ((Recorded.typed_pass hmarked).trans (Recorded.typed_pass hfound))
  have whole := Chunker.lines_ofSource sound s.subject.settings.transfer.chunkSize
  -- the source is typed either because nothing is refused or because the upload went well
  obtain ⟨s₁, typed⟩ : ∃ s₁, Session.typeSource (.ofSource source
      s.subject.settings.transfer.chunkSize) remote.toList m begun = .ok () s₁ := by
    obtain obliging | ⟨s', succeeded⟩ := taken
    · have begunOpen : begun.subject.terminal = some terminal := by
        rw [hbegun]
        exact isOpen
      exact ⟨_, Session.justTypes_typeSource whole remote.toList m begun terminal _ begunOpen
        ((Recorded.obliging obliging).takes _ _ _)⟩
    · rw [ran] at succeeded
      have ended := Op.outcome_eq_ok (mapError_eq_ok (finish_eq_ok succeeded))
      rw [hact] at ended
      exact Session.typeSource_of_upload ended
  rw [typed_of_finish ran, hact, Session.typed_upload whole typed, quiet]

end SerialConsole.Transport
