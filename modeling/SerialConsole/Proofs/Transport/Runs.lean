import SerialConsole.Proofs.Transport.Connect
import SerialConsole.Proofs.Transport.Operation
import SerialConsole.Rehearsal.Basic

/-!
# Runs of operations

The operations of a transport as data, and the transports that they can lead to. Main statement:
`settled_perform`, which tells how every operation of every run ends, whatever the console does.
-/

namespace SerialConsole

namespace Transport

open Op (Keeps)

/-- An operation with its arguments. -/
inductive Step where
  | connect
  | connectWhenAvailable (timeout : Duration)
  | exec (command : String)
  | put (file remote : String)
  | fetch (remote file : String)
  | close
  | forceClose
  deriving DecidableEq, Repr

/-- Whether an operation is to end the session. -/
def Step.closes : Step → Bool
  | .close | .forceClose => true
  | _ => false

/-- What an operation gives when it succeeds. -/
inductive Reply where
  | done
  | ran (outcome : Command.Outcome)
  | received (bytes : Nat)
  deriving DecidableEq, Repr

variable {σ α β : Type} [Host σ]

/-- Carries out an operation. -/
def Step.perform : Step → Op σ Transport Reply
  | .connect => (fun _ => .done) <$> Transport.connect
  | .connectWhenAvailable timeout => (fun _ => .done) <$> Transport.connectWhenAvailable timeout
  | .exec command => .ran <$> Transport.exec command
  | .put file remote => (fun _ => .done) <$> Transport.put file remote
  | .fetch remote file => .received <$> Transport.fetch remote file
  | .close => (fun _ => .done) <$> Transport.close
  | .forceClose => (fun _ => .done) <$> Transport.forceClose

/-- The transports that runs of operations lead to, from one that is disconnected and has no
session. The world may change in any way between two operations. -/
inductive Reachable (σ : Type) [Host σ] : Transport → Prop
  | new {t : Transport} (phase : t.phase = .disconnected) (free : t.session = none) :
      Reachable σ t
  | step {t : Transport} (reached : Reachable σ t) (step : Step) (world : World σ) :
      Reachable σ (step.perform.final ⟨t, world⟩).subject

theorem reachable_ofSettings {target : Target} {settings : Settings} {t : Transport}
    (h : ofSettings target settings = .ok t) : Reachable σ t := by
  unfold ofSettings at h
  cases hcheck : settings.check with
  | error e =>
    rw [hcheck] at h
    cases h
  | ok checked =>
    rw [hcheck] at h
    cases hpatterns : settings.prompts.patterns with
    | error e =>
      rw [hpatterns] at h
      cases h
    | ok prompts =>
      rw [hpatterns] at h
      cases h
      exact .new rfl rfl

/-! ## Single operations -/

omit [Host σ] in
theorem EndsOrderly.map {act : Op σ Transport α} {s : On σ Transport} (h : EndsOrderly (act s))
    (f : α → β) : EndsOrderly ((f <$> act) s) := by
  rw [Op.map_apply]
  cases ended : act s <;> rwa [ended] at h

theorem perform_orderly {step : Step} (opens : step.closes = false) :
    Orderly (step.perform : Op σ Transport Reply) := by
  intro s hs
  cases step with
  | connect => exact (connect_orderly s hs).map _
  | connectWhenAvailable timeout => exact (connectWhenAvailable_orderly timeout s hs).map _
  | exec command => exact (exec_orderly command s hs).map _
  | put file remote => exact (put_orderly file remote s hs).map _
  | fetch remote file => exact (fetch_orderly remote file s hs).map _
  | close => cases opens
  | forceClose => cases opens

/-- An operation that is to end the session does so, whatever it reports. -/
theorem perform_closes {step : Step} (closes : step.closes = true) (s : On σ Transport) :
    ∃ result world, step.perform s = Op.conclude result ⟨s.subject.withoutSession, world⟩ ∧
      ∀ e, result = .error e → e ≠ .sessionClosed := by
  cases step with
  | close =>
    obtain ⟨result, world, closed, fails⟩ := close_apply s
    rw [Step.perform, Op.map_apply, closed]
    cases result with
    | ok done => exact ⟨.ok .done, world, rfl, by simp⟩
    | error e =>
      obtain ⟨reason, rfl⟩ := fails e rfl
      exact ⟨.error (.terminal reason), world, rfl, fun e' h => by cases h; simp⟩
  | forceClose =>
    obtain ⟨world, closed⟩ := forceClose_apply s
    rw [Step.perform, Op.map_apply, closed]
    exact ⟨.ok .done, world, rfl, by simp⟩
  | connect => cases closes
  | connectWhenAvailable timeout => cases closes
  | exec command => cases closes
  | put file remote => cases closes
  | fetch remote file => cases closes

theorem final_of_closes {step : Step} (closes : step.closes = true) (s : On σ Transport) :
    (step.perform.final s).subject = s.subject.withoutSession := by
  obtain ⟨result, world, ended, -⟩ := perform_closes closes s
  rw [Op.final, ended]
  cases result <;> rfl

theorem settled_final (step : Step) {s : On σ Transport} (hs : s.subject.Settled) :
    (step.perform.final s).subject.Settled := by
  cases hcloses : step.closes with
  | true =>
    rw [final_of_closes hcloses s]
    exact settled_withoutSession _
  | false =>
    have ended := perform_orderly hcloses s hs
    unfold Op.final
    cases h : step.perform s <;> rw [h] at ended <;> exact ended.1

/-! ## Runs -/

theorem Reachable.settled {t : Transport} (h : Reachable σ t) : t.Settled := by
  induction h with
  | new phase free => exact settled_disconnected phase free
  | step _ step world ih => exact settled_final step ih

theorem Reachable.session_of_ready {t : Transport} (h : Reachable σ t) (ready : t.phase = .ready) :
    ∃ session terminal, t.session = some session ∧ session.terminal = some terminal := by
  obtain ⟨session, terminal, -, held, isOpen⟩ | ⟨disconnected, -⟩ := h.settled.ready_or_disconnected
  · exact ⟨session, terminal, held, isOpen⟩
  · rw [ready] at disconnected
    cases disconnected

/-- After any operation of any run the transport is settled: it is ready and holds an open session,
or it is disconnected and holds none. Operations that succeed leave it ready, except for those that
end the session, after which it is disconnected in any case; and none ever complains that the
session has been closed. -/
theorem settled_perform {t : Transport} (reached : Reachable σ t) (step : Step)
    (world : World σ) :
    (step.perform.final ⟨t, world⟩).subject.Settled ∧
      (step.closes = false → ∀ reply s', step.perform ⟨t, world⟩ = .ok reply s' →
        s'.subject.phase = .ready) ∧
      (step.closes = true → (step.perform.final ⟨t, world⟩).subject.phase = .disconnected ∧
        (step.perform.final ⟨t, world⟩).subject.session = none) ∧
      ∀ s', step.perform ⟨t, world⟩ ≠ .error .sessionClosed s' := by
  have settled := reached.settled
  refine ⟨settled_final step settled, ?_, ?_, ?_⟩
  · intro opens reply s' succeeded
    have ended := perform_orderly opens ⟨t, world⟩ settled
    rw [succeeded] at ended
    exact ended.2
  · intro closes
    rw [final_of_closes closes ⟨t, world⟩]
    exact ⟨rfl, rfl⟩
  · intro s' failed
    cases hcloses : step.closes with
    | true =>
      obtain ⟨result, world', ended, fails⟩ := perform_closes hcloses ⟨t, world⟩
      rw [ended] at failed
      cases result with
      | ok reply => cases failed
      | error e =>
        cases failed
        exact fails _ rfl rfl
    | false =>
      have ended := perform_orderly hcloses ⟨t, world⟩ settled
      rw [failed] at ended
      exact ended.2 rfl

/-- A transport to a machine for which no console can be started. -/
def unreachable : Transport :=
  { target := { name := "vm" }, settings := {}, prompts := default }

theorem settled_perform_unreachable :
    Reachable Rehearsal unreachable ∧
      (Step.connect.perform.final ⟨unreachable, { host := ({} : Rehearsal) }⟩).subject.Settled ∧
      ∀ s', Step.connect.perform ⟨unreachable, { host := ({} : Rehearsal) }⟩ ≠
        .error .sessionClosed s' := by
  have reached : Reachable Rehearsal unreachable := .new rfl rfl
  have ends := settled_perform reached .connect { host := ({} : Rehearsal) }
  exact ⟨reached, ends.1, ends.2.2.2⟩

end Transport

/-! ## A console that plays back -/

/-- A host with one console, which plays back what has been recorded, whatever is typed. -/
structure Playback where
  portions : List Bytes := []
  /-- Why nothing is taken any more, neither by the console nor by a file. -/
  refusal : Option String := none

namespace Playback

/-- Takes something, or tells why not. -/
def take (h : Playback) : Except String Unit := h.refusal.elim (.ok ()) .error

instance : Host Playback where
  spawn _ := fun h => (.ok 0, h)
  write _ _ := fun h => (h.take, h)
  await _ _ := fun h => match h.portions with
    | [] => (.silence, h)
    | portion :: portions => (.output portion 0, { h with portions })
  isAlive _ := fun h => (h.refusal.isNone, h)
  kill _ := fun h => (.ok (), h)
  freshMark := fun h => (⟨0⟩, h)
  isFile _ := fun h => (true, h)
  openFile _ := fun h => (h.take.map fun _ => Source.ofBytes [], h)
  createFile _ := fun h => (h.take, h)
  appendFile _ _ := fun h => (h.take, h)
  flushFile _ := fun h => (h.take, h)

end Playback

/-- A pattern that only one text matches. -/
def Pattern.literal (text : List Char) : Pattern where
  source := String.ofList text
  program :=
    ⟨(Pattern.Node.accept :: text.reverse.mapIdx fun i c => .one (.single c) i).toArray,
      text.length⟩

namespace Transport

def greeter : Transport where
  target := { name := "vm" }
  settings := {}
  prompts :=
    { login := .literal "login: ".toList
      password := .literal "Password: ".toList
      shell := .literal "# ".toList }

def prompting : World Playback where
  host.portions := [Text.encode "\nlogin: ".toList, Text.encode "Password: # ".toList]

/-- A host that takes nothing. -/
def refusing : World Playback where
  host.refusal := some "Input/output error (os error 5)"

/-- The transport when it has logged in. -/
def loggedIn : Transport := (Step.connect.perform.final ⟨greeter, prompting⟩).subject

theorem reachable_loggedIn : Reachable Playback loggedIn :=
  .step (.new rfl rfl) .connect prompting

theorem phase_loggedIn : loggedIn.phase = .ready := by decide +kernel

end Transport

end SerialConsole
