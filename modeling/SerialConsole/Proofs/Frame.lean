import SerialConsole.Connection
import SerialConsole.Proofs.Poll
import SerialConsole.Proofs.Session.Upload
import SerialConsole.Proofs.Transcript
import SerialConsole.Proofs.Transport.Runs

/-!
# What operations can do to a host

Operations reach their host by its actions alone. So what none of the actions changes is the same
after every operation, however it ends (`confined_perform`). On a transcript this says that an
operation only adds to the account (`Confined.prefix_events`), and that one which does not attach to
a console starts no program (`Confined.starts_eq`).
-/

namespace SerialConsole

variable {σ τ υ α β : Type} [Host σ] {starting typing : Prop}

namespace Host

/-- A property of a host that its actions do not change, where those that start programs or type
only count if `starting` or `typing` is true. -/
structure Steady (starting typing : Prop) (Q : σ → Prop) : Prop where
  spawn : starting → ∀ (launch : Launch) {h : σ}, Q h → Q ((Host.spawn launch).run h).2
  write : typing → ∀ (process : ProcessId) (bytes : Bytes) {h : σ},
    Q h → Q ((Host.write process bytes).run h).2
  await : ∀ (process : ProcessId) (limit : Duration) {h : σ},
    Q h → Q ((Host.await process limit).run h).2
  isAlive : ∀ (process : ProcessId) {h : σ}, Q h → Q ((Host.isAlive process).run h).2
  kill : ∀ (process : ProcessId) {h : σ}, Q h → Q ((Host.kill process).run h).2
  freshMark : ∀ {h : σ}, Q h → Q (Host.freshMark.run h).2
  isFile : ∀ (path : String) {h : σ}, Q h → Q ((Host.isFile path).run h).2
  openFile : ∀ (path : String) {h : σ}, Q h → Q ((Host.openFile path).run h).2
  createFile : ∀ (path : String) {h : σ}, Q h → Q ((Host.createFile path).run h).2
  appendFile : ∀ (path : String) (bytes : Bytes) {h : σ},
    Q h → Q ((Host.appendFile path bytes).run h).2
  flushFile : ∀ (path : String) {h : σ}, Q h → Q ((Host.flushFile path).run h).2

/-- A state of a host after another: whatever its actions do not change is the same. -/
def Later (before after : σ) : Prop :=
  ∀ ⦃Q : σ → Prop⦄, Host.Steady True True Q → Q before → Q after

theorem Later.trans {first second third : σ} (h : Later first second) (h' : Later second third) :
    Later first third :=
  fun _ steady hs => h' steady (h steady hs)

end Host

theorem Transcript.steady (log : List Event) :
    Host.Steady starting typing fun t : Transcript σ => log <+: t.events where
  spawn _ _ _ h := prefix_ask h _ _
  write _ _ _ _ h := prefix_ask h _ _
  await _ _ _ h := prefix_ask h _ _
  isAlive _ _ h := prefix_ask h _ _
  kill _ _ h := prefix_ask h _ _
  freshMark h := prefix_ask h _ _
  isFile _ _ h := prefix_ask h _ _
  openFile _ _ h := prefix_ask h _ _
  createFile _ _ h := prefix_ask h _ _
  appendFile _ _ _ h := prefix_ask h _ _
  flushFile _ _ h := prefix_ask h _ _

theorem Transcript.steady_starts (log : List Event) :
    Host.Steady False True fun t : Transcript σ => t.starts = log where
  spawn starting := starting.elim
  write _ _ _ _ h := (starts_ask _ _ fun _ => rfl).trans h
  await _ _ _ h := (starts_ask _ _ fun _ => rfl).trans h
  isAlive _ _ h := (starts_ask _ _ fun _ => rfl).trans h
  kill _ _ h := (starts_ask _ _ fun _ => rfl).trans h
  freshMark h := (starts_ask _ _ fun _ => rfl).trans h
  isFile _ _ h := (starts_ask _ _ fun _ => rfl).trans h
  openFile _ _ h := (starts_ask _ _ fun _ => rfl).trans h
  createFile _ _ h := (starts_ask _ _ fun _ => rfl).trans h
  appendFile _ _ _ h := (starts_ask _ _ fun _ => rfl).trans h
  flushFile _ _ h := (starts_ask _ _ fun _ => rfl).trans h

namespace Op

/-- An operation keeps whatever the actions of the host keep. It starts no program unless `starting`
is true, and types nothing unless `typing` is. -/
def Confined (starting typing : Prop) (act : Op σ τ α) : Prop :=
  ∀ ⦃Q : σ → Prop⦄, Host.Steady starting typing Q →
    Keeps (fun s => Q s.world.host) (fun _ => True) act

namespace Confined

theorem pure (a : α) : Confined starting typing (Pure.pure a : Op σ τ α) := fun _ _ => Keeps.pure a

theorem throw (e : Failure) :
    Confined starting typing (throw e : Op σ τ α) := fun _ _ => Keeps.throw trivial

theorem bind {x : Op σ τ α} {f : α → Op σ τ β} (hx :
    Confined starting typing x) (hf : ∀ a, Confined starting typing (f a)) :
    Confined starting typing (x >>= f) :=
  fun _ steady => Keeps.bind (hx steady) fun a => hf a steady

theorem map {x : Op σ τ α} (f : α → β) (hx : Confined starting typing x) :
    Confined starting typing (f <$> x) :=
  fun _ steady => Keeps.map f (hx steady)

theorem discard {x : Op σ τ α} (hx :
    Confined starting typing x) : Confined starting typing (discard x : Op σ τ Unit) :=
  fun _ steady => Keeps.discard (hx steady)

theorem subject : Confined starting typing (subject : Op σ τ τ) := fun _ _ => Keeps.subject

theorem setSubject (t : τ) : Confined starting typing (setSubject t : Op σ τ Unit) :=
  fun _ _ _ hs => hs

theorem modifySubject (f : τ → τ) : Confined starting typing (modifySubject f : Op σ τ Unit) :=
  fun _ _ _ hs => hs

theorem deadline (timeout : Duration) :
    Confined starting typing (deadline timeout : Op σ τ Deadline) :=
  fun _ _ => Keeps.deadline timeout

theorem conclude (result : Except Failure α) :
    Confined starting typing (conclude result : Op σ τ α) :=
  fun _ _ => Keeps.conclude fun _ _ => trivial

theorem host {act : StateM σ α}
    (h : ∀ ⦃Q : σ → Prop⦄, Host.Steady starting typing Q → ∀ {h : σ}, Q h → Q (act.run h).2) :
    Confined starting typing (host act : Op σ τ α) :=
  fun _ steady => Keeps.host fun _ hs => h steady hs

theorem demand {act : StateM σ (Except String α)} (fail : String → Failure)
    (h : ∀ ⦃Q : σ → Prop⦄, Host.Steady starting typing Q → ∀ {h : σ}, Q h → Q (act.run h).2) :
    Confined starting typing (demand act fail : Op σ τ α) :=
  fun _ steady => Keeps.demand (fun _ hs => h steady hs) fun _ => trivial

theorem rephrase (f : Failure → Failure) {act : Op σ τ α} (h : Confined starting typing act) :
    Confined starting typing (rephrase f act) :=
  fun _ steady => Keeps.rephrase (h steady) fun _ _ => trivial

theorem of_final {act : Op σ τ α}
    (h : ∀ ⦃Q : σ → Prop⦄, Host.Steady starting typing Q → ∀ s : On σ τ,
      Q s.world.host → Q (act.final s).world.host) : Confined starting typing act := by
  intro Q steady s hs
  have kept := h steady s hs
  cases ended : act s with
  | ok a s' => rwa [final_of_ok ended] at kept
  | error e s' =>
      rw [final_of_error ended] at kept
      exact ⟨kept, trivial⟩

theorem observe {act : Op σ τ α} (h : Confined starting typing act) :
    Confined starting typing (observe act) := by
  intro Q steady s hs
  rw [observe_apply]
  exact (h steady).final hs

theorem on (other : υ) {act : Op σ υ α} (h : Confined starting typing act) :
    Confined starting typing (on other act : Op σ τ _) :=
  fun Q steady => Keeps.on (Q := fun world => Q world.host) (h steady)

theorem later {act : Op σ τ α} (h : Confined True True act) {s s' : On σ τ} {a : α}
    (ended : act s = .ok a s') : Host.Later s.world.host s'.world.host :=
  fun _ steady hs => (h steady).ok hs ended

theorem prefix_events {act : Op (Transcript σ) τ α} (h : Confined starting typing act)
    {log : List Event} {s : On (Transcript σ) τ} (hs : log <+: s.world.host.events) :
    log <+: (act.final s).world.host.events :=
  (h (Transcript.steady log)).final hs

theorem starts_eq {act : Op (Transcript σ) τ α} (h : Confined False True act)
    (s : On (Transcript σ) τ) : (act.final s).world.host.starts = s.world.host.starts :=
  (h (Transcript.steady_starts s.world.host.starts)).final rfl

end Confined

end Op

/-! ## Sessions -/

namespace Terminal

open Op

theorem confined_spawn (launch : Launch) : Confined True typing (spawn launch : Op σ τ Terminal) :=
  .bind (.demand _ fun _ steady => steady.spawn trivial launch) fun _ => .pure _

theorem confined_write (t : Terminal) (bytes : Bytes) :
    Confined starting True (t.write bytes : Op σ τ Unit) :=
  .demand _ fun _ steady => steady.write trivial t.process bytes

theorem confined_isAlive (t : Terminal) : Confined starting typing (t.isAlive : Op σ τ Bool) :=
  .host fun _ steady => steady.isAlive t.process

theorem confined_kill (t : Terminal) : Confined starting typing (t.kill : Op σ τ Unit) := by
  refine .bind t.confined_isAlive fun alive => ?_
  split
  · exact .demand _ fun _ steady => steady.kill t.process
  · exact .pure _

end Terminal

namespace Session

open Op

theorem Listens.host_eq {s s' : On σ Session} (h : Listens s s') : ∃ process limit,
    s'.world.host = ((Host.await process limit).run s.world.host).2 := by
  cases h with
  | @output terminal limit _ _ _ _ _ heard => exact ⟨terminal.process, limit, by rw [heard]⟩
  | @hangUp terminal limit _ _ _ _ heard => exact ⟨terminal.process, limit, by rw [heard]⟩
  | @silence terminal limit _ _ _ heard => exact ⟨terminal.process, limit, by rw [heard]⟩

theorem confined_attach (target : Target) (settings : ConsoleSettings) :
    Confined True typing (attach target settings : Op σ τ Session) :=
  .bind (.bind (Terminal.confined_spawn _) fun _ => .pure _) fun _ => .pure _

theorem confined_close : Confined starting typing (close : Op σ Session Unit) := by
  refine .bind .subject fun s => ?_
  cases s.terminal with
  | none => exact .pure _
  | some terminal => exact .bind (.setSubject _) fun _ => terminal.confined_kill

theorem confined_isAlive : Confined starting typing (isAlive : Op σ Session Bool) := by
  refine .bind .subject fun s => ?_
  cases s.terminal with
  | none => exact .pure _
  | some terminal => exact terminal.confined_isAlive

theorem confined_sendBytes (bytes : Bytes) :
    Confined starting True (sendBytes bytes : Op σ Session Unit) := by
  refine .bind .subject fun s => ?_
  cases s.terminal with
  | none => exact .throw _
  | some terminal => exact terminal.confined_write bytes

theorem confined_sendLine (line : List Char) :
    Confined starting True (sendLine line : Op σ Session Unit) :=
  confined_sendBytes _

theorem confined_sendControl (key : Char) :
    Confined starting True (sendControl key : Op σ Session Unit) := by
  unfold sendControl
  cases Terminal.controlByte key with
  | none => exact .throw _
  | some byte => exact confined_sendBytes _

theorem lasting_of_steady {Q : σ → Prop} (steady : Host.Steady starting typing Q) :
    Lasting (fun s => Q s.world.host) (fun _ => True) where
  listens hs step := by
    obtain ⟨process, limit, asked⟩ := step.host_eq
    have kept := steady.await process limit hs
    rwa [← asked] at kept
  takes _ hs := hs
  closed _ _ := trivial
  timedOut _ _ _ := trivial
  endOfStream _ := trivial

theorem confined_expect (p : Pattern) (deadline : Deadline) :
    Confined starting typing (expect p deadline : Op σ Session _) :=
  fun _ steady => (lasting_of_steady steady).expect p deadline

theorem confined_expectWithin (timeout : Duration) (p : Pattern) :
    Confined starting typing (expectWithin timeout p : Op σ Session _) :=
  fun _ steady => (lasting_of_steady steady).expectWithin timeout p

theorem confined_expectPrompt (stage : LoginStage) (timeout : Duration) (p : Pattern) :
    Confined starting typing (expectPrompt stage timeout p : Op σ Session Unit) :=
  .rephrase _ (.discard (confined_expectWithin timeout p))

theorem confined_foldLines (keepRaw : Bool)
    (handle : β → List Char → StateM σ (Except Failure (Progress β))) (deadline : Deadline)
    (state : β)
    (handled : ∀ state line ⦃Q : σ → Prop⦄, Host.Steady starting typing Q →
      ∀ {h : σ}, Q h → Q ((handle state line).run h).2) :
    Confined starting typing (foldLines keepRaw handle deadline state : Op σ Session β) :=
  fun _ steady => (lasting_of_steady steady).foldLines keepRaw handle deadline state
    fun state line _ hs => ⟨handled state line steady hs, fun _ _ => trivial⟩

theorem confined_login (credentials : Credentials) (prompts : PromptPatterns)
    (timeout : Duration) :
    Confined starting True (login credentials prompts timeout : Op σ Session Unit) := by
  refine .bind (confined_sendLine _) fun _ => .bind (confined_sendLine _) fun _ => ?_
  refine .bind (.rephrase _ (.discard fun _ steady =>
    (lasting_of_steady steady).readLineWithin timeout)) fun _ => ?_
  refine .bind (confined_expectPrompt _ _ _) fun _ => .bind (confined_sendLine _) fun _ => ?_
  refine .bind (confined_expectPrompt _ _ _) fun _ => .bind (confined_sendLine _) fun _ => ?_
  exact confined_expectPrompt _ _ _

theorem confined_logout (prompt : Pattern) (timeout : Duration) :
    Confined starting True (logout prompt timeout : Op σ Session Unit) :=
  .bind (confined_sendLine _) fun _ => .bind (confined_sendControl _) fun _ =>
    .discard (confined_expectWithin timeout prompt)

theorem confined_settles (settle : Duration) :
    Confined starting True (settles settle : Op σ Session Unit) := by
  refine .bind (confined_sendLine _) fun _ => ?_
  refine .bind (fun _ steady => (lasting_of_steady steady).watch settle) fun _ => ?_
  refine .bind .subject fun _ => .bind confined_isAlive fun _ => ?_
  split
  · exact .throw _
  · exact .pure _

theorem confined_staying (settle : Duration) (session : Session) :
    Confined starting True (staying settle session : Op σ τ Session) := by
  refine .bind (.on _ (confined_settles settle)) fun ended => ?_
  obtain ⟨result, session⟩ := ended
  cases result with
  | ok done => exact .pure _
  | error e => exact .bind (.on _ confined_close) fun _ => .throw _

theorem confined_probe (target : Target) (settings : ConsoleSettings) (settle : Duration) :
    Confined True True (probe target settings settle : Op σ τ Session) :=
  .bind (confined_attach target settings) (confined_staying settle)

def awaitOutcome (shell : Pattern) (m : Mark) (deadline : Deadline) :
    Op σ Session Command.Outcome := do
  let seen ← foldLines true (fun seen line => pure (.ok (gather m seen line))) deadline []
  discard (expect shell deadline)
  let text := Command.join seen.reverse
  match Command.parse text with
  | none => throw (.unparsedOutput m (String.ofList (Text.excerpt text)))
  | some (status, output) => return ⟨status, output, ← takeRaw⟩

theorem confined_awaitOutcome (shell : Pattern) (m : Mark) (deadline : Deadline) :
    Confined starting typing (awaitOutcome shell m deadline : Op σ Session _) := by
  refine .bind (confined_foldLines _ _ _ _ fun _ _ _ _ _ hs => hs) fun seen => ?_
  refine .bind (.discard (confined_expect shell deadline)) fun _ => ?_
  simp only
  cases Command.parse (Command.join seen.reverse) with
  | none => exact .throw _
  | some found => exact .bind (fun _ steady => (lasting_of_steady steady).takeRaw) fun _ => .pure _

theorem confined_runCommand (shell : Pattern) (command : List Char) (m : Mark)
    (deadline : Deadline) :
    Confined starting True (runCommand shell command m deadline : Op σ Session _) :=
  .bind (confined_sendBytes _) fun _ => confined_awaitOutcome shell m deadline

theorem confined_awaitMark (shell : Pattern) (m : Mark) (deadline : Deadline) :
    Confined starting typing (awaitMark shell m deadline : Op σ Session Unit) :=
  .bind (confined_foldLines _ _ _ _ fun _ _ _ _ _ hs => hs) fun _ =>
    .discard (confined_expect shell deadline)

theorem confined_sendChunks (lines : List (Except String (List Char))) :
    Confined starting True (sendChunks lines : Op σ Session Unit) := by
  induction lines with
  | nil => exact .pure _
  | cons line rest ih =>
      cases line with
      | error reason => exact .throw _
      | ok line => exact .bind (confined_sendLine _) fun _ => ih

theorem confined_upload (shell : Pattern) (source : Chunker) (path : List Char) (m : Mark)
    (deadline : Deadline) :
    Confined starting True (upload shell source path m deadline : Op σ Session Unit) :=
  .bind (confined_sendLine _) fun _ => .bind (confined_sendChunks _) fun _ =>
    .bind (confined_sendLine _) fun _ => .bind (confined_sendControl _) fun _ =>
      confined_awaitMark shell m deadline

theorem steady_appendLine {Q : σ → Prop} (steady : Host.Steady starting typing Q) (file : String)
    (line : List Char) {h : σ} (hs : Q h) : Q ((appendLine file line).run h).2 := by
  unfold appendLine
  cases Base64.decodeLine line with
  | error fault => exact hs
  | ok bytes =>
      have appended := steady.appendFile file bytes hs
      rw [StateT.run_bind]
      generalize (Host.appendFile file bytes).run h = answer at appended ⊢
      obtain ⟨accepted | reason, after⟩ := answer <;> exact appended

theorem steady_takeIn {Q : σ → Prop} (steady : Host.Steady starting typing Q) (file : String)
    (m : Mark) (d : Intake) (line : List Char) {h : σ} (hs : Q h) :
    Q ((takeIn file m d line).run h).2 := by
  have appended := steady_appendLine steady file line hs
  unfold takeIn
  cases m.classify line with
  | terminator => exact hs
  | echo => exact hs
  | content =>
      simp only
      split
      · exact hs
      · split
        · exact appended
        · exact hs

theorem confined_appendLines (file : String) (written : Nat) (lines : List (List Char)) :
    Confined starting typing (appendLines file written lines : Op σ Session Nat) := by
  induction lines generalizing written with
  | nil => exact .pure _
  | cons line rest ih =>
      refine .bind (.host fun _ steady _ hs => steady_appendLine steady file line hs) fun _ => ?_
      exact .bind (.conclude _) fun n => ih (written + n)

def awaitFile (shell : Pattern) (file : String) (m : Mark) (deadline : Deadline) :
    Op σ Session Nat := do
  let intake ← foldLines false (takeIn file m) deadline {}
  let written ← appendLines file intake.written intake.early.reverse
  Op.demand (Host.flushFile file) .io
  discard (expect shell deadline)
  return written

theorem confined_awaitFile (shell : Pattern) (file : String) (m : Mark) (deadline : Deadline) :
    Confined starting typing (awaitFile shell file m deadline : Op σ Session Nat) := by
  refine .bind (confined_foldLines _ _ _ _ fun state line _ steady _ hs =>
    steady_takeIn steady file m state line hs) fun intake => ?_
  refine .bind (confined_appendLines _ _ _) fun written => ?_
  refine .bind (.demand _ fun _ steady => steady.flushFile file) fun _ => ?_
  exact .bind (.discard (confined_expect shell deadline)) fun _ => .pure _

theorem confined_download (shell : Pattern) (file : String) (path : List Char) (m : Mark)
    (deadline : Deadline) :
    Confined starting True (download shell file path m deadline : Op σ Session Nat) :=
  .bind (confined_sendLine _) fun _ => confined_awaitFile shell file m deadline

end Session

/-! ## Transports -/

namespace Transport

open Op

theorem confined_enter (phase : Phase) :
    Confined starting typing (enter phase : Op σ Transport Unit) := .modifySubject _

theorem confined_requireReady : Confined starting typing (requireReady : Op σ Transport Unit) := by
  refine .bind .subject fun t => ?_
  split
  · exact .pure _
  · exact .throw _

theorem confined_forceClose : Confined starting typing (forceClose : Op σ Transport Unit) := by
  refine .bind .subject fun t => .bind (.setSubject _) fun _ => ?_
  cases t.session with
  | none => exact .pure _
  | some session => exact .bind (.on _ Session.confined_close) fun _ => .pure _

theorem confined_during (phase : Phase) {act : Op σ Session α} (h : Confined starting typing act) :
    Confined starting typing (during phase act : Op σ Transport _) := by
  refine .bind .subject fun t => ?_
  split
  · exact .bind (confined_enter phase) fun _ => .bind (.on _ h) fun _ =>
      .bind (.modifySubject _) fun _ => .pure _
  · exact .throw _

theorem confined_finish (result : Except Failure α) :
    Confined starting typing (finish result : Op σ Transport α) := by
  cases result with
  | ok a => exact .bind (confined_enter .ready) fun _ => .pure _
  | error e =>
      rw [finish_of_error]
      split
      · exact .bind confined_forceClose fun _ => .throw _
      · exact .bind (confined_enter .ready) fun _ => .throw _

theorem confined_login (session : Session) :
    Confined starting True (login session : Op σ Transport Unit) := by
  refine .bind (confined_enter _) fun _ => .bind .subject fun t => ?_
  refine .bind (.on _ (Session.confined_login _ _ _)) fun ended => ?_
  obtain ⟨result, session⟩ := ended
  cases result with
  | ok done => exact .setSubject _
  | error e =>
      exact .bind (.on _ Session.confined_close) fun _ => .bind (.setSubject _) fun _ => .throw _

theorem confined_connect : Confined True True (connect : Op σ Transport Unit) := by
  refine .bind .subject fun t => ?_
  split
  · exact .pure _
  · refine .bind (confined_enter _) fun _ => ?_
    refine .bind (.observe (Session.confined_attach _ _)) fun ended => ?_
    cases ended with
    | ok session => exact confined_login session
    | error e => exact .bind (confined_enter _) fun _ => .throw _

theorem world_probe (t : Transport) (world : World σ) : (t.probe world).2 =
    ((Session.probe t.target t.settings.console (.ofMillis t.settings.timeouts.pollInterval)).final
      (⟨(), world⟩ : On σ Unit)).world := by
  unfold probe Op.final
  dsimp only
  cases Session.probe t.target t.settings.console
    (.ofMillis t.settings.timeouts.pollInterval) (⟨(), world⟩ : On σ Unit) <;> rfl

theorem host_await (timeout : Duration) (s : On σ Transport) :
    ((await timeout).final s).world.host =
    (Poll.waitFor (probePlan timeout (.ofMillis s.subject.settings.timeouts.pollInterval))
      s.subject.probe (fun _ => true) {} s.world).2.2.host := by
  unfold await Op.final
  dsimp only
  generalize Poll.waitFor _ _ _ _ _ = ended
  obtain ⟨session | e, poll, world⟩ := ended <;> rfl

theorem steady_probe {Q : σ → Prop} (steady : Host.Steady True True Q) (t : Transport)
    {world : World σ} (hw : Q world.host) : Q (t.probe world).2.host := by
  rw [world_probe]
  exact (Session.confined_probe _ _ _ steady).final (s := ⟨(), world⟩) hw

theorem confined_await (timeout : Duration) :
    Confined True True (await timeout : Op σ Transport _) := by
  refine .of_final fun Q steady s hs => ?_
  rw [host_await]
  exact Poll.waitFor_keeps (P := fun world : World σ => Q world.host)
    (fun _ hw => steady_probe steady s.subject hw) _ hs

theorem confined_connectWhenAvailable (timeout : Duration) :
    Confined True True (connectWhenAvailable timeout : Op σ Transport Unit) := by
  refine .bind .subject fun t => ?_
  split
  · exact .pure _
  · exact .bind (confined_await timeout) confined_login

theorem confined_close : Confined starting True (close : Op σ Transport Unit) := by
  refine .bind .subject fun t => .bind (.setSubject _) fun _ => ?_
  cases t.session with
  | none => exact .pure _
  | some session =>
      -- a session that is logged in is logged out first
      cases t.phase
      case ready =>
        refine .bind (.on session (Session.confined_logout _ _)) fun _ => ?_
        exact .bind (.on _ Session.confined_close) fun _ => .conclude _
      all_goals
        refine .bind (.pure session) fun _ => ?_
        exact .bind (.on _ Session.confined_close) fun _ => .conclude _

theorem confined_exec (command : String) :
    Confined starting True (exec command : Op σ Transport _) := by
  refine .bind confined_requireReady fun _ => .bind .subject fun t => ?_
  refine .bind (.host fun _ steady _ hs => steady.freshMark hs) fun mark => ?_
  refine .bind (.deadline _) fun deadline => ?_
  exact .bind (confined_during _ (Session.confined_runCommand _ _ _ _)) confined_finish

theorem confined_put (file remote : String) :
    Confined starting True (put file remote : Op σ Transport _) := by
  refine .bind (.host fun _ steady => steady.isFile file) fun isFile => ?_
  cases isFile with
  | false => exact .throw _
  | true =>
      refine .bind confined_requireReady fun _ => .bind .subject fun t => ?_
      refine .bind (.host fun _ steady _ hs => steady.freshMark hs) fun mark => ?_
      refine .bind (.demand _ fun _ steady => steady.openFile file) fun source => ?_
      refine .bind (.deadline _) fun deadline => ?_
      exact .bind (confined_during _ (Session.confined_upload _ _ _ _ _)) fun _ =>
        confined_finish _

theorem confined_fetch (remote file : String) :
    Confined starting True (fetch remote file : Op σ Transport _) := by
  refine .bind confined_requireReady fun _ => .bind .subject fun t => ?_
  refine .bind (.host fun _ steady _ hs => steady.freshMark hs) fun mark => ?_
  refine .bind (.demand _ fun _ steady => steady.createFile file) fun _ => ?_
  refine .bind (.deadline _) fun deadline => ?_
  exact .bind (confined_during _ (Session.confined_download _ _ _ _ _)) fun _ =>
    confined_finish _

theorem confined_perform (step : Step) :
    Confined True True (step.perform : Op σ Transport Reply) := by
  cases step with
  | connect => exact .map _ confined_connect
  | connectWhenAvailable timeout => exact .map _ (confined_connectWhenAvailable timeout)
  | exec command => exact .map _ (confined_exec command)
  | put file remote => exact .map _ (confined_put file remote)
  | fetch remote file => exact .map _ (confined_fetch remote file)
  | close => exact .map _ confined_close
  | forceClose => exact .map _ confined_forceClose

end Transport

/-! ## Connections -/

namespace Connection

open Op

theorem confined_onTransport {act : Op σ Transport α} (h : Confined starting typing act) :
    Confined starting typing (onTransport act : Op σ Connection α) :=
  .bind .subject fun _ => .bind (.on _ h) fun _ => .bind (.modifySubject _) fun _ => .conclude _

theorem confined_connect : Confined True True (connect : Op σ Connection Unit) := by
  refine .bind .subject fun c => ?_
  cases c.waitFor with
  | none => exact confined_onTransport Transport.confined_connect
  | some timeout => exact confined_onTransport (Transport.confined_connectWhenAvailable timeout)

end Connection

end SerialConsole
