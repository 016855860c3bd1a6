import SerialConsole.Proofs.Transport.Operation

/-!
# Transfers and local files

What a transfer does before it uses the console: it looks for the local file, is given a mark, and
opens or makes the file. Each of these may end it; otherwise the session is handed to the transfer.
-/

namespace SerialConsole.Transport

variable {σ : Type} [Host σ]

/-! ## Sending -/

/-- The host has a file, gives the operation that sends it a mark, and opens the file, after which
it is as `opened`. -/
def Offers (file : String) (s : On σ Transport) (m : Mark) (source : Source) (opened : σ) : Prop :=
  ∃ found marked : σ, (Host.isFile file).run s.world.host = (true, found) ∧
    Host.freshMark.run found = (m, marked) ∧
    (Host.openFile file).run marked = (.ok source, opened)

theorem put_of_ready {file : String} (remote : String) {s : On σ Transport} {session : Session}
    {m : Mark} {source : Source} {opened : σ} (ready : s.subject.phase = .ready)
    (held : s.subject.session = some session) (offered : Offers file s m source opened) :
    ∃ (act : Op σ Session Unit) (begun : On σ Session),
      act = Session.upload s.subject.prompts.shell
        (.ofSource source s.subject.settings.transfer.chunkSize) remote.toList m
        (.after s.world.clock (.ofMillis s.subject.settings.timeouts.transfer)) ∧
      begun = ⟨session.dropRaw, { s.world with host := opened }⟩ ∧
      put file remote s = finishTransfer remote m (act.outcome begun)
        ⟨{ s.subject with phase := .uploading, session := some (act.final begun).subject },
          (act.final begun).world⟩ := by
  refine ⟨_, _, rfl, rfl, ?_⟩
  obtain ⟨found, marked, hfound, hmarked, hopened⟩ := offered
  have required := requireReady_of_connected
    (s := { s with world := { s.world with host := found } })
    (isConnected_iff.mpr ⟨ready, session, held⟩)
  unfold put
  rw [Op.bind_of_ok (Op.host_of_run hfound), if_pos rfl]
  refine (Op.bind_of_ok required).trans ?_
  refine (Op.bind_of_ok (Op.subject_apply _)).trans ?_
  refine (Op.bind_of_ok (Op.host_of_run hmarked)).trans ?_
  refine (Op.bind_of_ok (Op.demand_of_run hopened)).trans ?_
  refine (Op.bind_of_ok (Op.deadline_apply _ _)).trans ?_
  exact Op.bind_of_ok (during_of_ready (s := ⟨s.subject, { s.world with host := opened }⟩) ready
    held .uploading _)

theorem put_of_missing {file : String} (remote : String) {s : On σ Transport} {found : σ}
    (missing : (Host.isFile file).run s.world.host = (false, found)) :
    put file remote s =
      .error (.localFileNotFound file) { s with world := { s.world with host := found } } := by
  unfold put
  rw [Op.bind_of_ok (Op.host_of_run missing)]
  rfl

theorem put_of_refused {file : String} (remote : String) {s : On σ Transport}
    {found marked opened : σ} {m : Mark} {reason : String}
    (connected : s.subject.isConnected = true)
    (isFile : (Host.isFile file).run s.world.host = (true, found))
    (marks : Host.freshMark.run found = (m, marked))
    (refused : (Host.openFile file).run marked = (.error reason, opened)) :
    put file remote s =
      .error (.transfer remote m reason) { s with world := { s.world with host := opened } } := by
  have required := requireReady_of_connected
    (s := { s with world := { s.world with host := found } }) connected
  unfold put
  rw [Op.bind_of_ok (Op.host_of_run isFile), if_pos rfl]
  refine (Op.bind_of_ok required).trans ?_
  refine (Op.bind_of_ok (Op.subject_apply _)).trans ?_
  refine (Op.bind_of_ok (Op.host_of_run marks)).trans ?_
  exact Op.bind_of_error (Op.demand_of_refusal refused)

/-! ## Receiving -/

theorem fetch_of_ready {file : String} (remote : String) {s : On σ Transport} {session : Session}
    {marked created : σ} {m : Mark} (ready : s.subject.phase = .ready)
    (held : s.subject.session = some session)
    (marks : Host.freshMark.run s.world.host = (m, marked))
    (made : (Host.createFile file).run marked = (.ok (), created)) :
    ∃ (act : Op σ Session Nat) (begun : On σ Session),
      act = Session.download s.subject.prompts.shell file remote.toList m
        (.after s.world.clock (.ofMillis s.subject.settings.timeouts.transfer)) ∧
      begun = ⟨session.dropRaw, { s.world with host := created }⟩ ∧
      fetch remote file s = finishTransfer remote m (act.outcome begun)
        ⟨{ s.subject with phase := .downloading, session := some (act.final begun).subject },
          (act.final begun).world⟩ := by
  refine ⟨_, _, rfl, rfl, ?_⟩
  have connected := isConnected_iff.mpr ⟨ready, session, held⟩
  unfold fetch
  rw [Op.bind_of_ok (requireReady_of_connected connected)]
  refine (Op.bind_of_ok (Op.subject_apply _)).trans ?_
  refine (Op.bind_of_ok (Op.host_of_run marks)).trans ?_
  refine (Op.bind_of_ok (Op.demand_of_run made)).trans ?_
  refine (Op.bind_of_ok (Op.deadline_apply _ _)).trans ?_
  exact Op.bind_of_ok (during_of_ready (s := ⟨s.subject, { s.world with host := created }⟩) ready
    held .downloading _)

theorem fetch_of_refused {file : String} (remote : String) {s : On σ Transport}
    {marked created : σ} {m : Mark} {reason : String} (connected : s.subject.isConnected = true)
    (marks : Host.freshMark.run s.world.host = (m, marked))
    (refused : (Host.createFile file).run marked = (.error reason, created)) :
    fetch remote file s =
      .error (.transfer file m reason) { s with world := { s.world with host := created } } := by
  unfold fetch
  rw [Op.bind_of_ok (requireReady_of_connected connected)]
  refine (Op.bind_of_ok (Op.subject_apply _)).trans ?_
  refine (Op.bind_of_ok (Op.host_of_run marks)).trans ?_
  exact Op.bind_of_error (Op.demand_of_refusal refused)

end SerialConsole.Transport
