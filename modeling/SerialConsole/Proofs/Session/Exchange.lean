import SerialConsole.Proofs.Session.Upload
import SerialConsole.Proofs.Transcript

/-!
# The exchange with the login prompts

`Exchange` lists everything that can happen on the process of a console while a session logs in:
output is heard at any time, but what is typed next is typed when the prompt before it has been
taken from the output, and only then. So the lines that have been typed tell how far the exchange
has got (`Exchange.written_eq`). Logging in is such an exchange, which ends at the shell prompt or
with a failure of the step that it got stuck in (`advances_login`).
-/

namespace SerialConsole

/-- The bytes that have been typed according to an account. -/
def Event.written : Event → List Bytes
  | .typed _ bytes (.ok ()) => [bytes]
  | _ => []

namespace Session

/-- What the exchange with the login prompts waits for next. -/
inductive LoginStep where
  | line
  | login
  | password
  | shell
  | done
  deriving DecidableEq, Repr

def LoginStep.stage? : LoginStep → Option LoginStage
  | .line | .login => some .loginPrompt
  | .password => some .passwordPrompt
  | .shell => some .shellPrompt
  | .done => none

def typedBefore : LoginStage → Nat
  | .loginPrompt => 2
  | .passwordPrompt => 3
  | .shellPrompt => 4

/-- The lines that are typed to log in. -/
def loginLines (credentials : Credentials) : List Bytes :=
  [lineBytes [], lineBytes [], lineBytes credentials.username.toList,
    lineBytes credentials.password.toList]

def afterArrival (b : Output.Buffer) (arrival : Arrival) : Output.Buffer :=
  arrival.portions.foldl Output.Buffer.append b

/-- The accounts of a session that logs in, each with the step that is next and the output that has
not been taken. -/
inductive Exchange (process : ProcessId) (credentials : Credentials) (prompts : PromptPatterns) :
    LoginStep → List Event → Output.Buffer → Prop
  | woken : Exchange process credentials prompts .line
      [.typed process (lineBytes []) (.ok ()), .typed process (lineBytes []) (.ok ())] {}
  | heard {log : List Event} {step : LoginStep} {b : Output.Buffer} (arrival : Arrival)
      (exchange : Exchange process credentials prompts step log b) (going : step ≠ .done) :
      Exchange process credentials prompts step (log ++ [.heard process arrival])
        (afterArrival b arrival)
  | line {log : List Event} {b b' : Output.Buffer} {line : List Char}
      (exchange : Exchange process credentials prompts .line log b)
      (taken : b.takeLine = some (line, b')) :
      Exchange process credentials prompts .login log b'
  | login {log : List Event} {b b' : Output.Buffer} {found : Pattern.Found}
      (exchange : Exchange process credentials prompts .login log b)
      (matched : b.takeMatch prompts.login = some (found, b')) :
      Exchange process credentials prompts .password
        (log ++ [.typed process (lineBytes credentials.username.toList) (.ok ())]) b'
  | password {log : List Event} {b b' : Output.Buffer} {found : Pattern.Found}
      (exchange : Exchange process credentials prompts .password log b)
      (matched : b.takeMatch prompts.password = some (found, b')) :
      Exchange process credentials prompts .shell
        (log ++ [.typed process (lineBytes credentials.password.toList) (.ok ())]) b'
  | shell {log : List Event} {b b' : Output.Buffer} {found : Pattern.Found}
      (exchange : Exchange process credentials prompts .shell log b)
      (matched : b.takeMatch prompts.shell = some (found, b')) :
      Exchange process credentials prompts .done log b'

variable {process : ProcessId} {credentials : Credentials} {prompts : PromptPatterns}

/-- How many lines have been typed before a step. -/
def LoginStep.typed : LoginStep → Nat
  | .line | .login => 2
  | .password => 3
  | .shell | .done => 4

theorem Exchange.written_eq {log : List Event} {step : LoginStep} {b : Output.Buffer}
    (h : Exchange process credentials prompts step log b) :
    log.flatMap Event.written = (loginLines credentials).take step.typed := by
  induction h with
  | woken => rfl
  | heard arrival exchange going ih => simpa [Event.written] using ih
  | line exchange taken ih => exact ih
  | login exchange matched ih =>
      rw [List.flatMap_append, ih]
      rfl
  | password exchange matched ih =>
      rw [List.flatMap_append, ih]
      rfl
  | shell exchange matched ih => exact ih

theorem LoginStep.typed_of_stage {step : LoginStep} {stage : LoginStage}
    (h : step.stage? = some stage) : step.typed = typedBefore stage := by
  cases step <;> cases h <;> rfl

/-! ## Logging in -/

open Host (Obliging)

variable {σ α β : Type} [Host σ]

/-- A session stands where something is true of its account since some moment and of the output that
has not been taken. -/
structure Stands (before : List Event) (terminal : Terminal)
    (R : List Event → Output.Buffer → Prop) (s : On (Transcript σ) Session) : Prop where
  isOpen : s.subject.terminal = some terminal
  account : ∃ log, s.world.host.events = before ++ log ∧ R log s.subject.buffer

/-- A login that is stuck in a step, and the failure that tells so. -/
def Stuck (before : List Event) (terminal : Terminal) (credentials : Credentials)
    (prompts : PromptPatterns) (e : Failure) (s : On (Transcript σ) Session) : Prop :=
  ∃ step stage, Stands before terminal (Exchange terminal.process credentials prompts step) s ∧
    LoginStep.stage? step = some stage ∧ e = .authentication stage s.subject.excerpt

section Steps

variable {before : List Event} {terminal : Terminal} {R S T : List Event → Output.Buffer → Prop}

theorem events_listens {s s' : On (Transcript σ) Session}
    (isOpen : s.subject.terminal = some terminal) (h : Listens s s') : ∃ arrival,
      s'.world.host.events = s.world.host.events ++ [.heard terminal.process arrival] ∧
        s'.subject.buffer = afterArrival s.subject.buffer arrival := by
  cases h with
  | output isOpen' going heard =>
      obtain rfl : terminal = _ := Option.some.inj (isOpen.symm.trans isOpen')
      exact ⟨_, Transcript.events_of_await heard, rfl⟩
  | hangUp isOpen' going heard =>
      obtain rfl : terminal = _ := Option.some.inj (isOpen.symm.trans isOpen')
      exact ⟨_, Transcript.events_of_await heard, rfl⟩
  | silence isOpen' going heard =>
      obtain rfl : terminal = _ := Option.some.inj (isOpen.symm.trans isOpen')
      exact ⟨_, Transcript.events_of_await heard, rfl⟩

variable (credentials prompts) in
/-- From where it stands a session gets to another place, or it is stuck in some step. -/
def Advances (before : List Event) (terminal : Terminal) (R S : List Event → Output.Buffer → Prop)
    (act : Op (Transcript σ) Session α) : Prop :=
  ∀ s, Stands before terminal R s → match act s with
    | .ok _ s' => Stands before terminal S s'
    | .error e s' => Stuck before terminal credentials prompts e s'

omit [Host σ] in
theorem Advances.bind {x : Op (Transcript σ) Session α} {f : α → Op (Transcript σ) Session β}
    (hx : Advances credentials prompts before terminal R S x)
    (hf : ∀ a, Advances credentials prompts before terminal S T (f a)) :
    Advances credentials prompts before terminal R T (x >>= f) := by
  intro s hs
  have first := hx s hs
  rw [Op.bind_apply]
  cases ended : x s with
  | ok a s' =>
      rw [ended] at first
      exact hf a s' first
  | error e s' =>
      rw [ended] at first
      exact first

theorem advances_sendLine (obliging : Obliging σ) (line : List Char)
    (typed : ∀ log b, R log b →
      S (log ++ [.typed terminal.process (lineBytes line) (.ok ())]) b) :
    Advances credentials prompts before terminal R S
      (sendLine line : Op (Transcript σ) Session Unit) := by
  intro s hs
  obtain ⟨log, events, stands⟩ := hs.account
  obtain ⟨answer, host, written⟩ : ∃ a h,
      (Host.write terminal.process (lineBytes line)).run s.world.host = (a, h) := ⟨_, _, rfl⟩
  obtain rfl : answer = .ok () := by
    have taken := Transcript.obliging obliging terminal.process (lineBytes line) s.world.host
    rwa [written] at taken
  have sent : sendLine line s = .ok () { s with world := { s.world with host } } :=
    (sendBytes_of_open hs.isOpen _).trans (Op.demand_of_run written)
  rw [sent]
  refine ⟨hs.isOpen, _, ?_, typed log _ stands⟩
  rw [Transcript.events_of_write written, events, List.append_assoc]

theorem Stands.hears {s s' : On (Transcript σ) Session} (hs : Stands before terminal R s)
    (h : Listened s s')
    (heard : ∀ log b arrival, R log b →
      R (log ++ [.heard terminal.process arrival]) (afterArrival b arrival)) :
    Stands before terminal R s' := by
  refine h.keeps (P := Stands before terminal R) ?_ hs
  intro r r' hr listens
  obtain ⟨log, events, account⟩ := hr.account
  obtain ⟨arrival, later, buffer⟩ := events_listens hr.isOpen listens
  refine ⟨listens.terminal_eq.trans hr.isOpen, log ++ [.heard terminal.process arrival], ?_, ?_⟩
  · rw [later, events, List.append_assoc]
  · rw [buffer]
    exact heard log _ arrival account

/-- Whatever is heard while a step is waited for, the exchange stays in that step. -/
theorem Stands.listened {step : LoginStep} (going : step ≠ .done)
    {s s' : On (Transcript σ) Session}
    (hs : Stands before terminal (Exchange terminal.process credentials prompts step) s)
    (h : Listened s s') :
    Stands before terminal (Exchange terminal.process credentials prompts step) s' :=
  hs.hears h fun _ _ arrival exchange => exchange.heard arrival going

theorem advances_wait {take : Output.Buffer → Option (α × Output.Buffer)} {awaited : String}
    {act : Op (Transcript σ) Session α} {step : LoginStep} {stage : LoginStage}
    (waits : ∀ s, ∃ deadline, act s = await take awaited deadline s)
    (reports : step.stage? = some stage)
    (takes : ∀ log b value b', Exchange terminal.process credentials prompts step log b →
      take b = some (value, b') → S log b') :
    Advances credentials prompts before terminal
      (Exchange terminal.process credentials prompts step) S
      (Op.rephrase (Failure.atStage stage) (discard act)) := by
  intro s hs
  have going : step ≠ .done := by
    rintro rfl
    cases reports
  obtain ⟨deadline, same⟩ := waits s
  have outcome := await_end take deadline awaited s
  rw [← same] at outcome
  have mapped : (discard act : Op (Transcript σ) Session Unit) s = ((fun _ => ()) <$> act) s := rfl
  unfold Op.rephrase
  rw [mapped, Op.map_apply]
  generalize act s = r at outcome
  cases outcome with
  | closed isClosed =>
      rw [hs.isOpen] at isClosed
      cases isClosed
  | taken listened found =>
      have there := hs.listened going listened
      obtain ⟨log, events, exchange⟩ := there.account
      exact ⟨there.isOpen, log, events, takes log _ _ _ exchange found⟩
  | timedOut listened missing ongoing =>
      exact ⟨step, stage, hs.listened going listened, reports, rfl⟩
  | ended listened missing past =>
      exact ⟨step, stage, hs.listened going listened, reports, rfl⟩

theorem advances_expectPrompt {p : Pattern} {step : LoginStep} {stage : LoginStage}
    (timeout : Duration) (reports : step.stage? = some stage) :
    Advances credentials prompts before terminal
      (Exchange terminal.process credentials prompts step)
      (fun log b' => ∃ b found, Exchange terminal.process credentials prompts step log b ∧
        b.takeMatch p = some (found, b'))
      (expectPrompt stage timeout p : Op (Transcript σ) Session Unit) :=
  advances_wait (fun s => ⟨.after s.world.clock timeout, rfl⟩) reports
    fun _ b found _ exchange matched => ⟨b, found, exchange, matched⟩

variable (credentials prompts before terminal) in
theorem advances_login (obliging : Obliging σ) (timeout : Duration) :
    Advances credentials prompts before terminal (fun log b => log = [] ∧ b = {})
      (Exchange terminal.process credentials prompts .done)
      (login credentials prompts timeout : Op (Transcript σ) Session Unit) := by
  -- after the first line nothing has been heard yet, so the exchange begins with the second
  refine .bind (advances_sendLine
    (S := fun log b => log = [.typed terminal.process (lineBytes []) (.ok ())] ∧ b = {})
    obliging [] ?_) fun _ => ?_
  · rintro log b ⟨rfl, rfl⟩
    exact ⟨rfl, rfl⟩
  refine .bind (advances_sendLine (S := Exchange terminal.process credentials prompts .line)
    obliging [] ?_) fun _ => ?_
  · rintro log b ⟨rfl, rfl⟩
    exact .woken
  refine .bind (advances_wait (S := Exchange terminal.process credentials prompts .login)
    (fun s => ⟨.after s.world.clock timeout, rfl⟩) rfl ?_) fun _ => ?_
  · exact fun log b line b' exchange taken => exchange.line taken
  -- a prompt and what is typed in answer to it are one step of the exchange
  refine .bind (advances_expectPrompt timeout rfl) fun _ => ?_
  refine .bind (advances_sendLine (S := Exchange terminal.process credentials prompts .password)
    obliging _ ?_) fun _ => ?_
  · rintro log b' ⟨b, found, exchange, matched⟩
    exact exchange.login matched
  refine .bind (advances_expectPrompt timeout rfl) fun _ => ?_
  refine .bind (advances_sendLine (S := Exchange terminal.process credentials prompts .shell)
    obliging _ ?_) fun _ => ?_
  · rintro log b' ⟨b, found, exchange, matched⟩
    exact exchange.password matched
  refine advances_wait (fun s => ⟨.after s.world.clock timeout, rfl⟩) rfl ?_
  exact fun log b found b' exchange matched => exchange.shell matched

end Steps

end Session

end SerialConsole
