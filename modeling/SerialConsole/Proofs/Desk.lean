import SerialConsole.Proofs.Session.Waits
import Mathlib.Logic.Function.Basic

/-!
# Consoles beside a disk

A desk is a host whose processes are those of another host, and whose files are on a disk of its own
that never fails. What a session waits for and finds there depends neither on the disk nor on the
bytes that the session keeps (`readLine_onDesk`, `expect_onDesk`).
-/

namespace SerialConsole

/-- The processes of a host, and files that are kept apart from it. -/
structure Desk (σ : Type) where
  console : σ
  files : String → Option Bytes := fun _ => none

namespace Desk

variable {σ α : Type}

/-- Asks the host of the processes. -/
def ask (act : StateM σ α) : StateM (Desk σ) α := fun d =>
  let (a, console) := act.run d.console
  (a, { d with console })

/-- Gives a file other contents. -/
def put (path : String) (bytes : Bytes) (d : Desk σ) : Desk σ :=
  { d with files := fun other => if other = path then some bytes else d.files other }

instance [Host σ] : Host (Desk σ) where
  spawn launch := ask (Host.spawn launch)
  write process bytes := ask (Host.write process bytes)
  await process limit := ask (Host.await process limit)
  isAlive process := ask (Host.isAlive process)
  kill process := ask (Host.kill process)
  freshMark := ask Host.freshMark
  isFile path := fun d => ((d.files path).isSome, d)
  openFile path := fun d =>
    (match d.files path with
      | some bytes => .ok (Source.ofBytes bytes)
      | none => .error "No such file or directory", d)
  createFile path := fun d => (.ok (), d.put path [])
  appendFile path bytes := fun d => (.ok (), d.put path ((d.files path).getD [] ++ bytes))
  flushFile _ := fun d => (.ok (), d)

theorem files_put (path : String) (bytes : Bytes) (d : Desk σ) :
    (d.put path bytes).files path = some bytes := by
  simp [put]

/-- Files of which one has certain contents. -/
def holding (path : String) (bytes : Bytes) (files : String → Option Bytes) :
    String → Option Bytes := Function.update files path (some bytes)

theorem put_holding (path : String) (bytes more : Bytes) (files : String → Option Bytes)
    (console : σ) :
    (Desk.mk console (holding path bytes files)).put path more =
      Desk.mk console (holding path more files) := by
  simp only [put, holding]
  congr 1
  funext other
  by_cases same : other = path
  · rw [if_pos same, same, Function.update_self]
  · rw [if_neg same, Function.update_of_ne same, Function.update_of_ne same]

theorem holding_self {path : String} {bytes : Bytes} {files : String → Option Bytes}
    (held : files path = some bytes) : holding path bytes files = files := by
  rw [holding, ← held, Function.update_eq_self]

theorem holding_path (path : String) (bytes : Bytes) (files : String → Option Bytes) :
    holding path bytes files path = some bytes :=
  Function.update_self _ _ _

end Desk

namespace Session

variable {σ α : Type}

def onDesk (raw : Bytes) (files : String → Option Bytes) (s : On (Desk σ) Session) :
    On (Desk σ) Session :=
  { subject := { s.subject with buffer := { s.subject.buffer with raw } }
    world := { s.world with host := { s.world.host with files } } }

@[simp] theorem ended_onDesk (raw : Bytes) (files : String → Option Bytes)
    (s : On (Desk σ) Session) :
    (onDesk raw files s).subject.ended = s.subject.ended := rfl

@[simp] theorem terminal_onDesk (raw : Bytes) (files : String → Option Bytes)
    (s : On (Desk σ) Session) :
    (onDesk raw files s).subject.terminal = s.subject.terminal := rfl

@[simp] theorem clock_onDesk (raw : Bytes) (files : String → Option Bytes)
    (s : On (Desk σ) Session) :
    (onDesk raw files s).world.clock = s.world.clock := rfl

@[simp] theorem console_onDesk (raw : Bytes) (files : String → Option Bytes)
    (s : On (Desk σ) Session) :
    (onDesk raw files s).world.host.console = s.world.host.console := rfl

def Textual (take : Output.Buffer → Option (α × Output.Buffer)) : Prop :=
  ∀ (b : Output.Buffer) (raw : Bytes),
    take { b with raw } = (take b).map fun found => (found.1, { found.2 with raw })

theorem textual_takeLine : Textual Output.Buffer.takeLine := by
  intro b raw
  unfold Output.Buffer.takeLine
  cases b.pending.dropWhile (· ≠ '\n') <;> rfl

theorem textual_takeMatch (p : Pattern) : Textual (·.takeMatch p) := by
  intro b raw
  simp only [Output.Buffer.takeMatch]
  cases p.split b.pending <;> rfl

variable [Host σ] (raw : Bytes) (files : String → Option Bytes) {deadline : Deadline}

theorem listen_onDesk (terminal : Terminal) (limit : Duration) (s : On (Desk σ) Session) :
    ∃ raw', listen terminal limit (onDesk raw files s) =
      ((listen terminal limit s).1, onDesk raw' files (listen terminal limit s).2) := by
  have asked (d : Desk σ) : (Host.await terminal.process limit).run d =
      (((Host.await terminal.process limit).run d.console).1,
        { d with console := ((Host.await terminal.process limit).run d.console).2 }) := rfl
  unfold listen
  rw [asked, asked, console_onDesk]
  cases ((Host.await terminal.process limit).run s.world.host.console).1 with
  | output bytes after => exact ⟨raw ++ bytes, rfl⟩
  | hangUp after => exact ⟨raw, rfl⟩
  | silence => exact ⟨raw, rfl⟩

theorem look_onDesk (deadline : Deadline) (s : On (Desk σ) Session) :
    ∃ raw', look deadline (onDesk raw files s) =
      ((look deadline s).1, onDesk raw' files (look deadline s).2) := by
  unfold look
  rw [ended_onDesk, terminal_onDesk, clock_onDesk]
  cases s.subject.ended with
  | true => exact ⟨raw, rfl⟩
  | false =>
    cases s.subject.terminal with
    | none => exact ⟨raw, rfl⟩
    | some terminal =>
      by_cases past : deadline.remaining s.world.clock = 0
      · simp only [if_pos past]
        exact ⟨raw, rfl⟩
      · simp only [if_neg past]
        exact listen_onDesk raw files terminal _ s

theorem collect_onDesk {take : Output.Buffer → Option (α × Output.Buffer)} (h : Textual take)
    (s : On (Desk σ) Session) :
    ∃ raw', collect take deadline (onDesk raw files s) =
      ((collect take deadline s).1, onDesk raw' files (collect take deadline s).2) := by
  have same (raw : Bytes) (s : On (Desk σ) Session) :
      take (onDesk raw files s).subject.buffer =
        (take s.subject.buffer).map fun found => (found.1, { found.2 with raw }) := h _ raw
  fun_induction collect take deadline s generalizing raw with
  | case1 s value buffer found =>
    rw [collect, same, found]
    exact ⟨raw, rfl⟩
  | case2 s missing s₁ looked ih =>
    obtain ⟨raw₁, there⟩ := look_onDesk raw files deadline s
    rw [looked] at there
    obtain ⟨raw₂, later⟩ := ih raw₁
    have none : take (onDesk raw files s).subject.buffer = none := by rw [same, missing]; rfl
    exact ⟨raw₂, (collect_of_look none there).trans later⟩
  | case3 s missing s₁ looked =>
    obtain ⟨raw₁, there⟩ := look_onDesk raw files deadline s
    rw [looked] at there
    have none : take (onDesk raw files s).subject.buffer = none := by rw [same, missing]; rfl
    exact ⟨raw₁, collect_of_look none there⟩
  | case4 s missing s₁ looked =>
    obtain ⟨raw₁, there⟩ := look_onDesk raw files deadline s
    rw [looked] at there
    have none : take (onDesk raw files s).subject.buffer = none := by rw [same, missing]; rfl
    exact ⟨raw₁, collect_of_look none there⟩

def endsOnDesk (raw : Bytes) (files : String → Option Bytes) :
    EStateM.Result Failure (On (Desk σ) Session) α → EStateM.Result Failure (On (Desk σ) Session) α
  | .ok value s => .ok value (onDesk raw files s)
  | .error e s => .error e (onDesk raw files s)

omit [Host σ] in
theorem outcome_of_endsOnDesk {act other : Op (Desk σ) Session α} {s s₁ : On (Desk σ) Session}
    {raw : Bytes} {files : String → Option Bytes}
    (same : act s = endsOnDesk raw files (other s₁)) :
    act.outcome s = other.outcome s₁ ∧ (act.final s).world.host.files = files := by
  unfold Op.outcome Op.final
  rw [same]
  cases other s₁ <;> exact ⟨rfl, rfl⟩

/-- A wait ends beside other files as it does without them, and leaves them as they are. -/
theorem await_onDesk {take : Output.Buffer → Option (α × Output.Buffer)} (h : Textual take)
    (awaited : String) (s : On (Desk σ) Session) :
    ∃ raw', await take awaited deadline (onDesk raw files s) =
      endsOnDesk raw' files (await take awaited deadline s) := by
  obtain ⟨raw', collected⟩ : ∃ raw', collect take deadline (onDesk raw files s) =
      ((collect take deadline s).1, onDesk raw' files (collect take deadline s).2) :=
    collect_onDesk raw files h s
  have closed : (onDesk raw files s).subject.isClosed = s.subject.isClosed := rfl
  unfold await
  rw [closed]
  by_cases isClosed : s.subject.isClosed = true
  · rw [if_pos isClosed, if_pos isClosed]
    exact ⟨raw, rfl⟩
  · rw [if_neg isClosed, if_neg isClosed, collected]
    refine ⟨raw', ?_⟩
    cases collect take deadline s with
    | mk waited s₁ => cases waited <;> rfl

theorem readLine_onDesk {s s' : On (Desk σ) Session} {line : List Char}
    (read : readLine deadline s = .ok line s') :
    ∃ raw', readLine deadline (onDesk raw files s) = .ok line (onDesk raw' files s') := by
  obtain ⟨raw', same⟩ : ∃ raw', readLine deadline (onDesk raw files s) =
      endsOnDesk raw' files (readLine deadline s) :=
    await_onDesk raw files textual_takeLine "end of line" s
  exact ⟨raw', same.trans (congrArg (endsOnDesk raw' files) read)⟩

theorem expect_onDesk (p : Pattern) (s : On (Desk σ) Session) :
    ∃ raw', expect p deadline (onDesk raw files s) =
      endsOnDesk raw' files (expect p deadline s) :=
  await_onDesk raw files (textual_takeMatch p) p.source s

theorem send_onDesk {text : List Char} {s s' : On (Desk σ) Session}
    (sent : send text s = .ok () s') :
    send text (onDesk raw files s) = .ok () (onDesk raw files s') := by
  unfold send sendBytes at sent ⊢
  rw [Op.bind_of_ok (Op.subject_apply _)] at sent ⊢
  rw [terminal_onDesk]
  cases isOpen : s.subject.terminal with
  | none =>
    rw [isOpen] at sent
    cases sent
  | some terminal =>
    rw [isOpen] at sent
    obtain ⟨taken, rfl⟩ := Op.demand_eq_ok sent
    exact Op.demand_of_ok taken

end Session

end SerialConsole
