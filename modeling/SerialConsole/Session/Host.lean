import SerialConsole.Failure
import SerialConsole.Session.Deadline
import SerialConsole.Target
import SerialConsole.Transfer.Chunks

/-!
# Hosts

A host is whatever processes run on: it starts them on terminals, passes on what is typed and what
they print, and keeps files. Nothing is assumed about a host's answers, so everything that holds of
operations on an abstract host holds however its processes behave. Only once a program has been
started its terminal can be had: that one end of it cannot be opened, or that no reader can be set
up for it, is left out.

Operations act on a subject, such as a session, that lives on a host, and either succeed or fail; in
both cases subject and host are left in some state.
-/

namespace SerialConsole

abbrev ProcessId := Nat

/-- What a wait for the output of a process came to. -/
inductive Arrival where
  | output (bytes : Bytes) (after : Duration)
  | hangUp (after : Duration)
  | silence
  deriving DecidableEq, Repr

/-- What operations need of a host with states `σ`. -/
class Host (σ : Type) where
  /-- Starts a program on a new terminal, or tells why it cannot be started. -/
  spawn : Launch → StateM σ (Except String ProcessId)
  write : ProcessId → Bytes → StateM σ (Except String Unit)
  await : ProcessId → Duration → StateM σ Arrival
  isAlive : ProcessId → StateM σ Bool
  kill : ProcessId → StateM σ (Except String Unit)
  freshMark : StateM σ Mark
  isFile : String → StateM σ Bool
  openFile : String → StateM σ (Except String Source)
  createFile : String → StateM σ (Except String Unit)
  appendFile : String → Bytes → StateM σ (Except String Unit)
  flushFile : String → StateM σ (Except String Unit)

/-- A host and the time on it. -/
structure World (σ : Type) where
  host : σ
  clock : Instant := 0

/-- A subject on a host. -/
structure On (σ τ : Type) where
  subject : τ
  world : World σ

abbrev Op (σ τ α : Type) := EStateM Failure (On σ τ) α

namespace Op

variable {σ τ υ α : Type}

def subject : Op σ τ τ := fun s => .ok s.subject s

def setSubject (t : τ) : Op σ τ Unit := fun s => .ok () { s with subject := t }

def modifySubject (f : τ → τ) : Op σ τ Unit := fun s => .ok () { s with subject := f s.subject }

def now : Op σ τ Instant := fun s => .ok s.world.clock s

def host (act : StateM σ α) : Op σ τ α := fun s =>
  let (a, host) := act.run s.world.host
  .ok a { s with world := { s.world with host } }

/-- Asks the host for something that it may refuse. -/
def demand (act : StateM σ (Except String α)) (fail : String → Failure) : Op σ τ α := do
  match ← host act with
  | .ok a => pure a
  | .error reason => throw (fail reason)

def deadline (timeout : Duration) : Op σ τ Deadline := do return Deadline.after (← now) timeout

/-- Carries out an operation and tells how it ended. -/
def observe (act : Op σ τ α) : Op σ τ (Except Failure α) := fun s =>
  match act s with
  | .ok a s => .ok (.ok a) s
  | .error e s => .ok (.error e) s

/-- Ends as observed. -/
def conclude : Except Failure α → Op σ τ α
  | .ok a => pure a
  | .error e => throw e

/-- Carries out an operation and words its failures anew. -/
def rephrase (f : Failure → Failure) (act : Op σ τ α) : Op σ τ α := fun s =>
  match act s with
  | .ok a s => .ok a s
  | .error e s => .error (f e) s

/-- Carries out an operation on another subject of the same host: tells how it ended, and what
became of the subject. -/
def on (other : υ) (act : Op σ υ α) : Op σ τ (Except Failure α × υ) := fun s =>
  match act ⟨other, s.world⟩ with
  | .ok a s' => .ok (.ok a, s'.subject) ⟨s.subject, s'.world⟩
  | .error e s' => .ok (.error e, s'.subject) ⟨s.subject, s'.world⟩

end Op

end SerialConsole
