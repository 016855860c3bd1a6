import SerialConsole.Proofs.Session.Reads
import SerialConsole.Proofs.Session.Upload
import SerialConsole.Proofs.Transport.Operation

/-!
# Operations that the console answers

Every operation types something that has the console print a mark at the end. `Answered` says that a
console does so, and which lines it prints before.
-/

namespace SerialConsole.Transport

open Command (join)
open Host (Obliging)
open Session (Answer)

variable {σ : Type} [Host σ]

/-- The mark that the next operation is given. -/
def nextMark (s : On σ Transport) : Mark := ((Host.freshMark : StateM σ Mark).run s.world.host).1

/-- A session as the next operation finds it, which has been given a mark: the bytes of earlier
operations are forgotten, but not the text. -/
def handed (session : Session) (s : On σ Transport) : On σ Session :=
  ⟨session.dropRaw,
    { s.world with host := ((Host.freshMark : StateM σ Mark).run s.world.host).2 }⟩

/-- A transport that is ready again, with its session as an operation has left it. -/
def resumed (t : Transport) (s : On σ Session) : On σ Transport :=
  ⟨{ t with session := some s.subject, phase := .ready }, s.world⟩

/-- The console answers what an operation types that the transport is ready for. -/
structure Answered (typed : Mark → List Char) (timeout : Nat) (s : On σ Transport)
    (lines : List (List Char)) (after : On σ Session) : Prop where
  ready : s.subject.phase = .ready
  held : ∃ session, s.subject.session = some session ∧
    Answer (typed (nextMark s)) s.subject.prompts.shell (nextMark s)
      (.after s.world.clock (.ofMillis timeout)) (handed session s) lines after

/-! ## An answer that is there -/

/-- A session whose console has printed some text and then the prompt of the shell. -/
def printedSession (text : List Char) : Session where
  launch := ⟨"virtctl", ["console", "vm"], ⟨24, 80⟩⟩
  terminal := some { process := 0 }
  buffer := { pending := text ++ "# ".toList }

def printed (text : List Char) : Transport where
  target := { name := "vm" }
  settings := {}
  prompts := { (default : PromptPatterns) with
    shell := ⟨"# ", ⟨#[.accept, .one (.single ' ') 0, .one (.single '#') 1], 2⟩⟩ }
  session := some (printedSession text)
  phase := .ready

theorem answered_of_printed (obliging : Obliging σ) (typed : Mark → List Char) (timeout : Nat)
    (world : World σ) {m : Mark} (mark : (Host.freshMark.run world.host).1 = m)
    {lines : List (List Char)} (inner : ∀ line ∈ lines, '\n' ∉ line) :
    ∃ after, Answered typed timeout ⟨printed (join (lines ++ [m.text])), world⟩ lines after := by
  subst mark
  let s : On σ Transport :=
    ⟨printed (join (lines ++ [(Host.freshMark.run world.host).1.text])), world⟩
  let session := printedSession (join (lines ++ [(nextMark s).text]))
  have taken := obliging.takes 0 [Text.encode (typed (nextMark s))] (handed session s).world.host
  obtain ⟨begun, sent, same⟩ : ∃ begun, Session.send (typed (nextMark s)) (handed session s) =
      .ok () begun ∧ begun.subject = (handed session s).subject :=
    ⟨_, Session.justTypes_sendBytes _ _ { process := 0 } _ rfl taken, rfl⟩
  have shown : Output.Buffer.takeMatch { pending := "# ".toList } (printed []).prompts.shell =
      some (⟨[], "# ".toList⟩, {}) := by decide +kernel
  have prompt : (Session.withText begun "# ".toList).subject.buffer.takeMatch
      s.subject.prompts.shell = some (⟨[], "# ".toList⟩, {}) := by
    rw [Session.withText, same]
    exact shown
  have isOpen : begun.subject.terminal = some { process := 0 } := by rw [same]; rfl
  have arrived : begun.subject.pending = join (lines ++ [(nextMark s).text]) ++ "# ".toList := by
    rw [same]
    rfl
  have ended : ∀ line ∈ lines ++ [(nextMark s).text], '\n' ∉ line := by
    intro line h
    obtain h | h := List.mem_append.mp h
    · exact inner line h
    · rw [List.mem_singleton.mp h]
      exact (nextMark s).newline_not_mem_text
  obtain ⟨after, answer⟩ := Session.answer_of_pending
    (.after s.world.clock (.ofMillis timeout)) sent isOpen arrived ended
    (nextMark s).terminates_text prompt
  exact ⟨after, rfl, _, rfl, answer⟩

end SerialConsole.Transport
