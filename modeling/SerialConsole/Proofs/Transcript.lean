import SerialConsole.Proofs.Recorded

/-!
# Transcripts

A host together with an account of everything that has been asked of its processes, each time with
the answer, in order. The account changes none of the answers, so what an operation does on such a
host it does on the host itself. Processes that print or end at any moment are hosts as well, so
what holds of the accounts of all hosts holds however consoles behave.
-/

namespace SerialConsole

/-- Something asked of the processes of a host, and the answer. -/
inductive Event where
  | started (launch : Launch) (answer : Except String ProcessId)
  | typed (process : ProcessId) (bytes : Bytes) (answer : Except String Unit)
  | heard (process : ProcessId) (arrival : Arrival)
  | asked (process : ProcessId) (alive : Bool)
  | killed (process : ProcessId) (answer : Except String Unit)

def Event.isStart : Event → Bool
  | .started .. => true
  | _ => false

/-- A host and the account of its processes. -/
structure Transcript (σ : Type) where
  host : σ
  events : List Event := []

namespace Transcript

variable {σ α : Type}

/-- Asks the host and notes what has happened. -/
def ask (act : StateM σ α) (note : α → List Event) : StateM (Transcript σ) α := fun t =>
  let (a, host) := act.run t.host
  (a, { host, events := t.events ++ note a })

def pass (act : StateM σ α) : StateM (Transcript σ) α := ask act fun _ => []

instance [Host σ] : Host (Transcript σ) where
  spawn launch := ask (Host.spawn launch) fun answer => [.started launch answer]
  write process bytes := ask (Host.write process bytes) fun answer => [.typed process bytes answer]
  await process limit := ask (Host.await process limit) fun arrival => [.heard process arrival]
  isAlive process := ask (Host.isAlive process) fun alive => [.asked process alive]
  kill process := ask (Host.kill process) fun answer => [.killed process answer]
  freshMark := pass Host.freshMark
  isFile path := pass (Host.isFile path)
  openFile path := pass (Host.openFile path)
  createFile path := pass (Host.createFile path)
  appendFile path bytes := pass (Host.appendFile path bytes)
  flushFile path := pass (Host.flushFile path)

theorem prefix_ask {log : List Event} {t : Transcript σ} (h : log <+: t.events)
    (act : StateM σ α) (note : α → List Event) : log <+: ((ask act note).run t).2.events :=
  h.trans (List.prefix_append _ _)

/-- The programs that were to be started, each with the answer. -/
def starts (t : Transcript σ) : List Event := t.events.filter Event.isStart

/-- Whatever starts no program leaves the account of those that were started. -/
theorem starts_ask {t : Transcript σ} (act : StateM σ α) (note : α → List Event)
    (quiet : ∀ a, (note a).filter Event.isStart = []) :
    ((ask act note).run t).2.starts = t.starts := by
  have log : ((ask act note).run t).2.events = t.events ++ note (act.run t.host).1 := rfl
  rw [starts, log, List.filter_append, quiet, List.append_nil, starts]

theorem events_of_pass {act : StateM σ α} {t t' : Transcript σ} {a : α}
    (h : (pass act).run t = (a, t')) : t'.events = t.events := by
  cases h
  exact List.append_nil _

variable [Host σ]

theorem events_of_spawn {launch : Launch} {answer : Except String ProcessId} {t t' : Transcript σ}
    (h : (Host.spawn launch).run t = (answer, t')) :
    t'.events = t.events ++ [.started launch answer] := by
  cases h
  rfl

theorem events_of_write {process : ProcessId} {bytes : Bytes} {answer : Except String Unit}
    {t t' : Transcript σ} (h : (Host.write process bytes).run t = (answer, t')) :
    t'.events = t.events ++ [.typed process bytes answer] := by
  cases h
  rfl

theorem events_of_await {process : ProcessId} {limit : Duration} {arrival : Arrival}
    {t t' : Transcript σ} (h : (Host.await process limit).run t = (arrival, t')) :
    t'.events = t.events ++ [.heard process arrival] := by
  cases h
  rfl

theorem events_of_isAlive {process : ProcessId} {alive : Bool} {t t' : Transcript σ}
    (h : (Host.isAlive process).run t = (alive, t')) :
    t'.events = t.events ++ [.asked process alive] := by
  cases h
  rfl

theorem events_of_kill {process : ProcessId} {answer : Except String Unit} {t t' : Transcript σ}
    (h : (Host.kill process).run t = (answer, t')) :
    t'.events = t.events ++ [.killed process answer] := by
  cases h
  rfl

theorem obliging (h : Host.Obliging σ) : Host.Obliging (Transcript σ) :=
  fun process bytes t => h process bytes t.host

end Transcript

end SerialConsole
