import SerialConsole.Proofs.Session.Waits
import SerialConsole.Session.Command
import SerialConsole.Session.Files
import SerialConsole.Session.Login

/-!
# Open sessions stay open

Nothing but `close` takes the terminal away from a session. So an operation on an open session
leaves it open, whatever the console does, and never finds it closed. The rules for waits are stated
for any property that a wait cannot change.
-/

namespace SerialConsole

/-- A failure that can come of a line of a file that is received. -/
inductive Failure.OfReceipt : Failure → Prop
  | io (reason : String) : OfReceipt (.io reason)
  | other (reason : String) : OfReceipt (.other reason)

/-- A failure that logging in on an open session can end with. -/
inductive Failure.OfLogin : Failure → Prop
  | io (reason : String) : OfLogin (.io reason)
  | authentication (stage : LoginStage) (buffer : String) : OfLogin (.authentication stage buffer)

namespace Session

open Op (Keeps)

variable {σ τ α β : Type} [Host σ]

/-! ## What waits cannot change -/

/-- A property of sessions that nothing in a wait can change, and one of failures that those of the
wait have. -/
structure Lasting (P : On σ Session → Prop) (E : Failure → Prop) : Prop where
  listens : ∀ {s s'}, P s → Listens s s' → P s'
  takes : ∀ {s} (buffer : Output.Buffer), P s →
    P { s with subject := { s.subject with buffer } }
  closed : ∀ {s}, P s → s.subject.terminal = none → E .sessionClosed
  timedOut : ∀ awaited limit buffer, E (.timedOut awaited limit buffer)
  endOfStream : ∀ buffer, E (.endOfStream buffer)

namespace Lasting

variable {P : On σ Session → Prop} {E : Failure → Prop}

theorem listened (h : Lasting P E) {s s' : On σ Session} (heard : Listened s s') (hs : P s) :
    P s' :=
  heard.keeps (fun _ _ hr step => h.listens hr step) hs

theorem await (h : Lasting P E) (take : Output.Buffer → Option (α × Output.Buffer))
    (awaited : String) (deadline : Deadline) : Keeps P E (await take awaited deadline) := by
  intro s hs
  have outcome := await_end take deadline awaited s
  generalize Session.await take awaited deadline s = r at outcome
  cases outcome with
  | closed isClosed => exact ⟨hs, h.closed hs isClosed⟩
  | taken listened found => exact h.takes _ (h.listened listened hs)
  | timedOut listened missing going => exact ⟨h.listened listened hs, h.timedOut _ _ _⟩
  | ended listened missing past => exact ⟨h.listened listened hs, h.endOfStream _⟩

theorem expect (h : Lasting P E) (p : Pattern) (deadline : Deadline) :
    Keeps P E (expect p deadline) := h.await _ _ _

theorem readLine (h : Lasting P E) (deadline : Deadline) : Keeps P E (readLine deadline) :=
  h.await _ _ _

theorem expectWithin (h : Lasting P E) (timeout : Duration) (p : Pattern) :
    Keeps P E (expectWithin timeout p) :=
  Keeps.bind (Keeps.deadline timeout) fun deadline => h.expect p deadline

theorem readLineWithin (h : Lasting P E) (timeout : Duration) :
    Keeps P E (readLineWithin timeout) :=
  Keeps.bind (Keeps.deadline timeout) fun deadline => h.readLine deadline

theorem watch (h : Lasting P E) (duration : Duration) : Keeps P E (watch duration) := by
  intro s hs
  unfold Session.watch
  cases hterm : s.subject.terminal with
  | none => simpa [isClosed, hterm] using ⟨hs, h.closed hs hterm⟩
  | some terminal =>
    rw [if_neg (by simp [isClosed, hterm])]
    have outcome := collect_end (fun _ => (none : Option (Empty × Output.Buffer)))
      (.after s.world.clock duration) s
    generalize collect _ _ s = r at outcome
    cases outcome with
    | taken listened found => cases found
    | timedOut listened missing going => exact h.listened listened hs
    | ended listened missing past => exact ⟨h.listened listened hs, h.endOfStream _⟩

theorem takeRaw (h : Lasting P E) : Keeps P E (takeRaw : Op σ Session Bytes) :=
  fun _ hs => h.takes _ hs

/-- Reading lines keeps what waits cannot change if what is done with a line keeps it too. -/
theorem foldLines (h : Lasting P E) (keepRaw : Bool)
    (handle : β → List Char → StateM σ (Except Failure (Progress β))) (deadline : Deadline)
    (state : β)
    (handled : ∀ state line s, P s →
      P { s with world := { s.world with host := ((handle state line).run s.world.host).2 } } ∧
        ∀ e, ((handle state line).run s.world.host).1 = .error e → E e) :
    Keeps P E (foldLines keepRaw handle deadline state) := by
  intro s hs
  have dropped (s : On σ Session) (hs : P s) :
      P ⟨if keepRaw then s.subject else s.subject.dropRaw, s.world⟩ := by
    split
    · exact hs
    · exact h.takes _ hs
  fun_induction Session.foldLines keepRaw handle deadline state s with
  | case1 state s e s' read => exact (h.readLine deadline).error hs read
  | case2 state s line s' read subject host next e ran =>
    have kept := handled state line _ (dropped _ ((h.readLine deadline).ok hs read))
    rw [ran] at kept
    exact ⟨kept.1, kept.2 e rfl⟩
  | case3 state s line s' read subject host next state' ran =>
    have kept := handled state line _ (dropped _ ((h.readLine deadline).ok hs read))
    rw [ran] at kept
    exact kept.1
  | case4 state s line s' read subject host next state' ran ih =>
    have kept := handled state line _ (dropped _ ((h.readLine deadline).ok hs read))
    rw [ran] at kept
    exact ih kept.1

end Lasting

/-! ## Staying open -/

/-- The operation leaves an open session open, and does not find it closed. -/
def StaysOpen (act : Op σ Session α) : Prop :=
  ∀ terminal, Keeps (fun s => s.subject.terminal = some terminal) (· ≠ .sessionClosed) act

theorem lasting_open (terminal : Terminal) {E : Failure → Prop} (waits : ∀ e, e.OfWait → E e) :
    Lasting (σ := σ) (fun s => s.subject.terminal = some terminal) E where
  listens hs step := step.terminal_eq.trans hs
  takes _ hs := hs
  closed hs isClosed := by simp [isClosed] at hs
  timedOut _ _ _ := waits _ (.timedOut _ _ _)
  endOfStream _ := waits _ (.endOfStream _)

theorem ne_sessionClosed_of_wait (e : Failure) (h : e.OfWait) : e ≠ .sessionClosed := by
  cases h <;> simp

theorem lasting_terminal (terminal : Terminal) :
    Lasting (σ := σ) (fun s => s.subject.terminal = some terminal) (· ≠ .sessionClosed) :=
  lasting_open terminal ne_sessionClosed_of_wait

/-- To type on a session that is open is to type on its terminal. -/
theorem sendBytes_of_open {s : On σ Session} {terminal : Terminal}
    (isOpen : s.subject.terminal = some terminal) (bytes : Bytes) :
    sendBytes bytes s = terminal.write bytes s := by
  unfold sendBytes
  rw [Op.bind_of_ok (Op.subject_apply s), isOpen]

theorem keepsOpen_sendBytes (terminal : Terminal) {E : Failure → Prop}
    (io : ∀ reason, E (.io reason)) (bytes : Bytes) :
    Keeps (fun s : On σ Session => s.subject.terminal = some terminal) E (sendBytes bytes) := by
  intro s hs
  rw [sendBytes_of_open hs]
  exact Keeps.demand (P := fun s : On σ Session => s.subject.terminal = some terminal)
    (fun _ hs => hs) io s hs

theorem staysOpen_sendBytes (bytes : Bytes) : StaysOpen (σ := σ) (sendBytes bytes) :=
  fun terminal => keepsOpen_sendBytes terminal (by simp) bytes

theorem staysOpen_send (text : List Char) : StaysOpen (σ := σ) (send text) :=
  staysOpen_sendBytes _

theorem staysOpen_sendLine (line : List Char) : StaysOpen (σ := σ) (sendLine line) :=
  staysOpen_send _

theorem staysOpen_sendControl (key : Char) : StaysOpen (σ := σ) (sendControl key) := by
  intro terminal
  unfold sendControl
  cases Terminal.controlByte key with
  | none => exact Keeps.throw (by simp)
  | some byte => exact staysOpen_sendBytes _ terminal

theorem ofLogin_atStage (stage : LoginStage) (e : Failure) (h : e.OfWait) :
    (e.atStage stage).OfLogin := by
  cases h <;> exact .authentication stage _

theorem keepsOpen_login (credentials : Credentials) (prompts : PromptPatterns) (timeout : Duration)
    (terminal : Terminal) :
    Keeps (fun s : On σ Session => s.subject.terminal = some terminal) Failure.OfLogin
      (login credentials prompts timeout) := by
  have last := lasting_open (σ := σ) terminal (E := Failure.OfWait) fun _ h => h
  have types (line : List Char) := keepsOpen_sendBytes (σ := σ) terminal Failure.OfLogin.io
    (Text.encode (line ++ ['\n']))
  have shows (stage : LoginStage) (p : Pattern) :
      Keeps (fun s : On σ Session => s.subject.terminal = some terminal) Failure.OfLogin
        (expectPrompt stage timeout p) :=
    Keeps.rephrase (last.expectWithin timeout p).discard (ofLogin_atStage stage)
  refine Keeps.bind (types _) fun _ => Keeps.bind (types _) fun _ => ?_
  refine Keeps.bind
    (Keeps.rephrase (last.readLineWithin timeout).discard (ofLogin_atStage _)) fun _ => ?_
  refine Keeps.bind (shows _ _) fun _ => Keeps.bind (types _) fun _ => ?_
  exact Keeps.bind (shows _ _) fun _ => Keeps.bind (types _) fun _ => shows _ _

theorem staysOpen_login (credentials : Credentials) (prompts : PromptPatterns)
    (timeout : Duration) : StaysOpen (σ := σ) (login credentials prompts timeout) :=
  fun terminal => (keepsOpen_login credentials prompts timeout terminal).weaken fun e h => by
    cases h <;> simp

theorem staysOpen_runCommand (shell : Pattern) (command : List Char) (m : Mark)
    (deadline : Deadline) : StaysOpen (σ := σ) (runCommand shell command m deadline) := by
  intro terminal
  have last := lasting_terminal (σ := σ) terminal
  refine Keeps.bind (staysOpen_send _ terminal) fun _ => ?_
  refine Keeps.bind (last.foldLines _ _ _ _ fun _ _ _ hs => ⟨hs, ?_⟩) fun seen => ?_
  · intro e failed
    cases failed
  refine Keeps.bind (last.expect shell deadline).discard fun _ => ?_
  simp only
  cases Command.parse (Command.join seen.reverse) with
  | none => exact Keeps.throw (by simp)
  | some found => exact Keeps.bind last.takeRaw fun _ => Keeps.pure _

theorem staysOpen_sendChunks (lines : List (Except String (List Char))) :
    StaysOpen (σ := σ) (sendChunks lines) := by
  intro terminal
  induction lines with
  | nil => exact Keeps.pure _
  | cons line rest ih =>
    cases line with
    | error reason => exact Keeps.throw (by simp)
    | ok line => exact Keeps.bind (staysOpen_sendLine _ terminal) fun _ => ih

theorem staysOpen_upload (shell : Pattern) (source : Chunker) (path : List Char) (m : Mark)
    (deadline : Deadline) : StaysOpen (σ := σ) (upload shell source path m deadline) := by
  intro terminal
  have last := lasting_terminal (σ := σ) terminal
  refine Keeps.bind (staysOpen_sendLine _ terminal) fun _ => ?_
  refine Keeps.bind (staysOpen_sendChunks _ terminal) fun _ => ?_
  refine Keeps.bind (staysOpen_sendLine _ terminal) fun _ => ?_
  refine Keeps.bind (staysOpen_sendControl _ terminal) fun _ => ?_
  refine Keeps.bind (last.foldLines _ _ _ _ fun _ _ _ hs => ⟨hs, ?_⟩) fun _ => ?_
  · intro e failed
    cases failed
  exact (last.expect shell deadline).discard

/-- A line cannot be added to a file because it does not decode or the file takes nothing. -/
theorem appendLine_fails {file : String} {line : List Char} {host : σ} {e : Failure}
    (failed : ((appendLine file line).run host).1 = .error e) : e.OfReceipt := by
  unfold appendLine at failed
  cases decoded : Base64.decodeLine line with
  | error fault =>
    rw [decoded] at failed
    cases failed
    exact .other _
  | ok bytes =>
    obtain ⟨answer, host', ran⟩ : ∃ a h, (Host.appendFile file bytes).run host = (a, h) :=
      ⟨_, _, rfl⟩
    rw [decoded] at failed
    simp only [StateT.run_bind, ran] at failed
    cases answer with
    | ok done => cases failed
    | error reason =>
      cases failed
      exact .io reason

theorem takeIn_fails {file : String} {m : Mark} {d : Intake} {line : List Char} {host : σ}
    {e : Failure} (failed : ((takeIn file m d line).run host).1 = .error e) : e.OfReceipt := by
  unfold takeIn at failed
  cases kind : m.classify line with
  | terminator =>
    rw [kind] at failed
    cases failed
  | echo =>
    rw [kind] at failed
    cases failed
  | content =>
    rw [kind] at failed
    simp only at failed
    split at failed
    · cases failed
    · split at failed
      · obtain ⟨answer, host', ran⟩ : ∃ a h, (appendLine file line).run host = (a, h) :=
          ⟨_, _, rfl⟩
        simp only [StateT.run_bind, ran] at failed
        cases answer with
        | error cause =>
          cases failed
          exact appendLine_fails (congrArg Prod.fst ran)
        | ok n => cases failed
      · cases failed

theorem ne_sessionClosed_of_receipt {e : Failure} (h : e.OfReceipt) : e ≠ .sessionClosed := by
  cases h <;> simp

theorem staysOpen_appendLines (file : String) (written : Nat) (lines : List (List Char)) :
    StaysOpen (σ := σ) (appendLines file written lines) := by
  intro terminal
  induction lines generalizing written with
  | nil => exact Keeps.pure _
  | cons line rest ih =>
    intro s hs
    rw [appendLines, Op.bind_of_ok (Op.host_apply _ _)]
    cases answer : ((appendLine file line).run s.world.host).1 with
    | error e => exact ⟨hs, ne_sessionClosed_of_receipt (appendLine_fails answer)⟩
    | ok n => exact ih (written + n) _ hs

theorem staysOpen_download (shell : Pattern) (file : String) (path : List Char) (m : Mark)
    (deadline : Deadline) : StaysOpen (σ := σ) (download shell file path m deadline) := by
  intro terminal
  have last := lasting_terminal (σ := σ) terminal
  refine Keeps.bind (staysOpen_sendLine _ terminal) fun _ => ?_
  refine Keeps.bind (last.foldLines _ _ _ _ fun state line s hs => ⟨hs, fun e failed => ?_⟩)
    fun intake => ?_
  · exact ne_sessionClosed_of_receipt (takeIn_fails failed)
  refine Keeps.bind (staysOpen_appendLines _ _ _ terminal) fun written => ?_
  refine Keeps.bind (Keeps.demand (fun _ hs => hs) (by simp)) fun _ => ?_
  exact Keeps.bind (last.expect shell deadline).discard fun _ => Keeps.pure _

/-! ## Sessions that have just begun -/

def settles (settle : Duration) : Op σ Session Unit := do
  sendLine []
  watch settle
  let s ← Op.subject
  if s.ended || !(← isAlive) then throw (.endOfStream s.excerpt)

def staying (settle : Duration) (session : Session) : Op σ τ Session := do
  let (result, session) ← Op.on session (settles settle)
  match result with
  | .ok () => return session
  | .error e =>
    let _ ← Op.on session close
    throw e

theorem probe_eq (target : Target) (settings : ConsoleSettings) (settle : Duration) :
    (probe target settings settle : Op σ τ Session) =
      attach target settings >>= staying settle := rfl

theorem staying_of_ok {settle : Duration} {session : Session} {s : On σ τ} {s' : On σ Session}
    (h : settles settle ⟨session, s.world⟩ = .ok () s') :
    staying settle session s = .ok s'.subject ⟨s.subject, s'.world⟩ := by
  unfold staying
  rw [Op.bind_of_ok (Op.on_apply session _ s), Op.outcome, Op.final, h]
  rfl

theorem staying_of_error {settle : Duration} {session : Session} {s : On σ τ}
    {s' : On σ Session} {e : Failure} (h : settles settle ⟨session, s.world⟩ = .error e s') :
    staying settle session s = .error e ⟨s.subject, (close.final s').world⟩ := by
  unfold staying
  rw [Op.bind_of_ok (Op.on_apply session _ s), Op.outcome, Op.final, h]
  simp only
  rw [Op.bind_of_ok (Op.on_apply s'.subject close _)]
  rfl

theorem staysOpen_settles (settle : Duration) : StaysOpen (σ := σ) (settles settle) := by
  intro terminal
  refine Keeps.bind (staysOpen_sendLine _ terminal) fun _ => ?_
  refine Keeps.bind ((lasting_terminal terminal).watch settle) fun _ => ?_
  refine Keeps.bind Keeps.subject fun _ => ?_
  refine Keeps.bind (Keeps.bind Keeps.subject fun session => ?_) fun _ => ?_
  · cases session.terminal with
    | none => exact Keeps.pure _
    | some terminal => exact Keeps.host fun _ hs => hs
  · split
    · exact Keeps.throw (by simp)
    · exact Keeps.pure _

end Session

end SerialConsole
