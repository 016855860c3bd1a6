import SerialConsole.Output.Buffer
import SerialConsole.Terminal.Basic
import SerialConsole.Terminal.Control
import SerialConsole.Text.Excerpt

/-!
# Sessions

A session is a process that attaches to a console, together with its output that nobody has taken
yet. One types into it and waits for its output: for a line, or for a match of a pattern. A wait
that fails takes nothing and reports the end of the output that is there.
-/

namespace SerialConsole

/-- A session with a console. -/
structure Session where
  target : Option Target := none
  launch : Launch
  terminal : Option Terminal
  buffer : Output.Buffer := {}
  ended : Bool := false
  deriving DecidableEq, Repr

namespace Session

variable {σ τ α : Type} [Host σ]

def isClosed (s : Session) : Bool := s.terminal.isNone

def pending (s : Session) : List Char := s.buffer.pending

def excerpt (s : Session) : String := String.ofList (Text.excerpt s.pending)

/-! ## Starting and ending -/

def spawn (launch : Launch) : Op σ τ Session := do
  let terminal ← Terminal.spawn launch
  return { launch, terminal := some { terminal with streaming := true } }

def attach (target : Target) (settings : ConsoleSettings) : Op σ τ Session := do
  let session ← spawn (target.launch settings)
  return { session with target := some target }

/-- Ends the process. Nothing happens to a session that is closed. -/
def close : Op σ Session Unit := do
  let s ← Op.subject
  match s.terminal with
  | none => pure ()
  | some terminal =>
    Op.setSubject { s with terminal := none }
    terminal.kill

def isAlive : Op σ Session Bool := do
  match (← Op.subject).terminal with
  | none => pure false
  | some terminal => terminal.isAlive

/-! ## Typing -/

def sendBytes (bytes : Bytes) : Op σ Session Unit := do
  match (← Op.subject).terminal with
  | none => throw .sessionClosed
  | some terminal => terminal.write bytes

def send (text : List Char) : Op σ Session Unit := sendBytes (Text.encode text)

def sendLine (line : List Char) : Op σ Session Unit := send (line ++ ['\n'])

def sendControl (key : Char) : Op σ Session Unit :=
  match Terminal.controlByte key with
  | some byte => sendBytes [byte]
  | none => throw (.other s!"'{key}' has no control-character equivalent")

/-! ## Waiting -/

/-- What a look for more output came to. -/
inductive Look where
  | more
  | timedOut
  | ended
  deriving DecidableEq, Repr

/-- Listens to the output of a process for a limited time. Time passes whenever there is some, and
what there is goes into the buffer. -/
def listen (terminal : Terminal) (limit : Duration) (s : On σ Session) : Look × On σ Session :=
  match (Host.await terminal.process limit).run s.world.host with
  | (.output bytes after, host) =>
    (.more,
      { subject := { s.subject with buffer := s.subject.buffer.append bytes }
        world := { host, clock := s.world.clock + max after 1 } })
  | (.hangUp after, host) =>
    (.ended,
      { subject := { s.subject with ended := true }
        world := { host, clock := s.world.clock + after } })
  | (.silence, host) => (.timedOut, { s with world := { host, clock := s.world.clock + limit } })

/-- Looks for more output until a deadline. Once the process has closed its output, or when there is
no time left, the host is not asked. -/
def look (deadline : Deadline) (s : On σ Session) : Look × On σ Session :=
  match s.subject.ended, s.subject.terminal with
  | true, _ | false, none => (.ended, s)
  | false, some terminal =>
    if deadline.remaining s.world.clock = 0 then (.timedOut, s)
    else listen terminal (deadline.remaining s.world.clock) s

/-- Listening with success takes time. -/
theorem clock_listen_lt {terminal : Terminal} {limit : Duration} {s s' : On σ Session}
    (h : listen terminal limit s = (.more, s')) : s.world.clock < s'.world.clock := by
  unfold listen at h
  split at h <;> simp only [Prod.mk.injEq, reduceCtorEq, false_and, true_and] at h
  subst h
  exact Nat.lt_add_of_pos_right (Nat.le_max_right _ 1)

/-- A look that finds more output leaves less time. -/
theorem finish_sub_clock_look_lt {deadline : Deadline} {s s' : On σ Session}
    (h : look deadline s = (.more, s')) :
    deadline.finish - s'.world.clock < deadline.finish - s.world.clock := by
  unfold look at h
  split at h
  · simp at h
  · simp at h
  · split at h
    · simp at h
    · next left => exact Deadline.finish_sub_lt (clock_listen_lt h) left

inductive Waited (α : Type) where
  | taken (value : α)
  | timedOut
  | ended
  deriving DecidableEq, Repr

/-- Waits until `take` finds in the output what it is looking for, and takes it. -/
def collect (take : Output.Buffer → Option (α × Output.Buffer)) (deadline : Deadline)
    (s : On σ Session) : Waited α × On σ Session :=
  match take s.subject.buffer with
  | some (value, buffer) => (.taken value, { s with subject := { s.subject with buffer } })
  | none => match _h : look deadline s with
    | (.more, s) => collect take deadline s
    | (.timedOut, s) => (.timedOut, s)
    | (.ended, s) => (.ended, s)
termination_by deadline.finish - s.world.clock
decreasing_by exact finish_sub_clock_look_lt ‹_›

/-- Waits for something in the output of a session that is open; `awaited` says what. -/
def await (take : Output.Buffer → Option (α × Output.Buffer)) (awaited : String)
    (deadline : Deadline) : Op σ Session α := fun s =>
  if s.subject.isClosed then .error .sessionClosed s
  else match collect take deadline s with
    | (.taken value, s) => .ok value s
    | (.timedOut, s) => .error (.timedOut awaited deadline.timeout.millis s.subject.excerpt) s
    | (.ended, s) => .error (.endOfStream s.subject.excerpt) s

def expect (p : Pattern) (deadline : Deadline) : Op σ Session Pattern.Found :=
  await (·.takeMatch p) p.source deadline

def readLine (deadline : Deadline) : Op σ Session (List Char) :=
  await Output.Buffer.takeLine "end of line" deadline

/-- Listens to the output for a while and takes nothing. Fails if the process closes its output. -/
def watch (duration : Duration) : Op σ Session Unit := fun s =>
  if s.subject.isClosed then .error .sessionClosed s
  else
    match collect (fun _ => (none : Option (Empty × Output.Buffer)))
      (.after s.world.clock duration) s with
    | (.ended, s) => .error (.endOfStream s.subject.excerpt) s
    | (_, s) => .ok () s

def takeRaw : Op σ Session Bytes := do
  let s ← Op.subject
  let (raw, buffer) := s.buffer.takeRaw
  Op.setSubject { s with buffer }
  return raw

end Session

end SerialConsole
