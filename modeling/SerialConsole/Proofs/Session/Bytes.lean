import SerialConsole.Proofs.Desk
import SerialConsole.Proofs.Session.Command
import SerialConsole.Proofs.Session.Exchange
import SerialConsole.Proofs.Session.Settling

/-!
# The bytes that a command gives

While lines and matches are taken from the text, a session keeps all bytes that come from its
process (`Heard`). So what a command gives as its bytes is what has been heard since its session had
none, in order and without a gap (`bytes_of_runCommand`).
-/

namespace SerialConsole.Session

variable {σ α : Type}

/-- An account in which nothing is heard but one process, and all that it has printed is kept. -/
structure Heard (process : ProcessId) (log : List Event) (b : Output.Buffer) : Prop where
  bytes : b.raw = log.flatMap Event.printed
  only : ∀ other arrival, .heard other arrival ∈ log → other = process

theorem raw_afterArrival (b : Output.Buffer) (arrival : Arrival) :
    (afterArrival b arrival).raw = b.raw ++ arrival.portions.flatten := by
  rw [afterArrival, Output.Buffer.foldl_append]
  rfl

namespace Heard

variable {process : ProcessId} {log : List Event} {b b' : Output.Buffer}

theorem nil (empty : b.raw = []) : Heard process [] b :=
  ⟨empty, fun _ _ none => absurd none List.not_mem_nil⟩

theorem typed (h : Heard process log b) (bytes : Bytes) (answer : Except String Unit) :
    Heard process (log ++ [.typed process bytes answer]) b := by
  refine ⟨?_, fun other arrival member => ?_⟩
  · rw [List.flatMap_append, h.bytes]
    exact (List.append_nil _).symm
  · rcases List.mem_append.mp member with before | last
    · exact h.only other arrival before
    · cases List.mem_singleton.mp last

theorem heard (h : Heard process log b) (arrival : Arrival) :
    Heard process (log ++ [.heard process arrival]) (afterArrival b arrival) := by
  refine ⟨?_, fun other arrival' member => ?_⟩
  · rw [raw_afterArrival, h.bytes, List.flatMap_append, List.flatMap_singleton]
    rfl
  · rcases List.mem_append.mp member with before | last
    · exact h.only other arrival' before
    · cases List.mem_singleton.mp last
      rfl

end Heard

theorem Textual.raw_eq {take : Output.Buffer → Option (α × Output.Buffer)} (h : Textual take)
    {b b' : Output.Buffer} {value : α} (taken : take b = some (value, b')) : b'.raw = b.raw := by
  have same := h b b.raw
  rw [show { b with raw := b.raw } = b from rfl, taken] at same
  have left : b' = { b' with raw := b.raw } := congrArg Prod.snd (Option.some.inj same)
  rw [left]

section Steps

variable [Host σ] {before : List Event} {terminal : Terminal} {deadline : Deadline}
  {s s' : On (Transcript σ) Session}

theorem open_of_send {text : List Char} {r r' : On σ Session} (sent : send text r = .ok () r') :
    ∃ terminal, r.subject.terminal = some terminal := by
  unfold send sendBytes at sent
  rw [Op.bind_of_ok (Op.subject_apply _)] at sent
  cases isOpen : r.subject.terminal with
  | none =>
    rw [isOpen] at sent
    cases sent
  | some terminal => exact ⟨terminal, rfl⟩

theorem Stands.sent {text : List Char} {R S : List Event → Output.Buffer → Prop}
    (hs : Stands before terminal R s) (sent : send text s = .ok () s')
    (typed : ∀ log b, R log b →
      S (log ++ [.typed terminal.process (Text.encode text) (.ok ())]) b) :
    Stands before terminal S s' := by
  obtain ⟨log, events, stands⟩ := hs.account
  obtain ⟨taken, rfl⟩ := Op.demand_eq_ok ((sendBytes_of_open hs.isOpen _).symm.trans sent)
  refine ⟨hs.isOpen, _, ?_, typed log _ stands⟩
  rw [Transcript.events_of_write (Prod.ext taken rfl), events, List.append_assoc]

theorem Stands.awaited {take : Output.Buffer → Option (α × Output.Buffer)} (textual : Textual take)
    {awaited : String} {value : α} (hs : Stands before terminal (Heard terminal.process) s)
    (ended : await take awaited deadline s = .ok value s') :
    Stands before terminal (Heard terminal.process) s' := by
  have waited := await_end take deadline awaited s
  rw [ended] at waited
  cases waited with
  | taken listened found =>
    have there := hs.hears listened fun _ _ arrival heard => heard.heard arrival
    obtain ⟨log, events, heard⟩ := there.account
    exact ⟨there.isOpen, log, events, (textual.raw_eq found).trans heard.bytes, heard.only⟩

theorem Stands.reads {lines : List (List Char)}
    (hs : Stands before terminal (Heard terminal.process) s) (reads : Reads deadline s lines s') :
    Stands before terminal (Heard terminal.process) s' := by
  induction reads with
  | nil => exact hs
  | cons read rest ih => exact ih (hs.awaited textual_takeLine read)

theorem Stands.answered {typed : List Char} {shell : Pattern} {m : Mark} {lines : List (List Char)}
    (hs : Stands before terminal (Heard terminal.process) s)
    (answer : Answer typed shell m deadline s lines s') :
    Stands before terminal (Heard terminal.process) s' := by
  obtain ⟨begun, last, read, found, sent, reads, -, prompted⟩ := answer
  have there := hs.sent sent fun _ _ heard => heard.typed _ _
  exact (there.reads reads).awaited (textual_takeMatch shell) prompted

end Steps

/-- A command that succeeds gives all bytes that have been heard since it began, if its session had
none then. -/
theorem bytes_of_runCommand [Host σ] {shell : Pattern} {command : List Char} {m : Mark}
    {deadline : Deadline} {s s' : On (Transcript σ) Session} {outcome : Command.Outcome}
    (empty : s.subject.buffer.raw = [])
    (ran : runCommand shell command m deadline s = .ok outcome s') :
    ∃ terminal log, s.subject.terminal = some terminal ∧
      s'.world.host.events = s.world.host.events ++ log ∧
      outcome.raw = log.flatMap Event.printed ∧
      ∀ other arrival, .heard other arrival ∈ log → other = terminal.process := by
  obtain ⟨lines, after, answer, going⟩ := answer_of_runCommand ran
  obtain ⟨terminal, isOpen⟩ : ∃ terminal, s.subject.terminal = some terminal := by
    obtain ⟨begun, last, read, found, sent, -⟩ := answer
    exact open_of_send sent
  have begun : Stands s.world.host.events terminal (Heard terminal.process) s :=
    ⟨isOpen, [], (List.append_nil _).symm, .nil empty⟩
  obtain ⟨log, events, heard⟩ := (begun.answered answer).account
  have ended := runCommand_of_answer answer going
  rw [ran] at ended
  unfold concluded at ended
  cases parsed : Command.parse (Command.join (body m lines)) with
  | none =>
    rw [parsed] at ended
    cases ended
  | some found =>
    rw [parsed] at ended
    cases ended
    exact ⟨terminal, log, isOpen, events, heard.bytes, heard.only⟩

end SerialConsole.Session
