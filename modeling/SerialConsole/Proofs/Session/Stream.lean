import SerialConsole.Proofs.Output.Buffer
import SerialConsole.Proofs.Recorded
import SerialConsole.Proofs.Session.Waits

/-!
# Sessions and the stream of their process

A process prints a stream of bytes. However the stream is cut into portions, and whatever is done
with the session between them, the lines that have been read and the text that is left are those of
the whole stream (`lines_of_stream`). So the lines that are read after the process has closed its
output are the ones that are still missing, and then nothing but the end of the stream is reported.
-/

namespace SerialConsole.Session

open Command (join)
open Text (Lines)

variable {σ : Type}

/-! ## Lines and text together -/

/-- A session that has just been opened, on a host whose record begins. -/
def opened (target : Option Target) (launch : Launch) (terminal : Terminal) (world : World σ) :
    On (Recorded σ) Session :=
  ⟨{ target, launch, terminal := some terminal }, ⟨{ host := world.host }, world.clock⟩⟩

/-- The text that a process has shown: all it has printed, in one portion. -/
def shown (r : Recorded σ) : Output.Buffer := Output.Buffer.append {} r.output

/-- Two states in which the output that has come is the same, the bytes that are kept apart. -/
structure SameOutput (s s' : On (Recorded σ) Session) : Prop where
  terminal_eq : s'.subject.terminal = s.subject.terminal
  ended_eq : s'.subject.ended = s.subject.ended
  state_eq : s'.subject.buffer.state = s.subject.buffer.state
  pending_eq : s'.subject.pending = s.subject.pending
  heard_eq : s'.world.host.heard = s.world.host.heard

theorem SameOutput.refl (s : On (Recorded σ) Session) : SameOutput s s :=
  ⟨rfl, rfl, rfl, rfl, rfl⟩

/-- The lines that have been read and the text that is left are those of all that the process has
printed. -/
structure Tracks (lines : List (List Char)) (s : On (Recorded σ) Session) : Prop where
  state_eq : (shown s.world.host).state = s.subject.buffer.state
  text_eq : (shown s.world.host).pending = join lines ++ s.subject.pending
  lines_mem : ∀ line ∈ lines, '\n' ∉ line

theorem tracks_opened (target : Option Target) (launch : Launch) (terminal : Terminal)
    (world : World σ) : Tracks [] (opened target launch terminal world) :=
  ⟨rfl, rfl, by simp⟩

namespace Tracks

variable {lines : List (List Char)} {s s' : On (Recorded σ) Session}

private theorem shown_append {r r' : Recorded σ} {bytes : Bytes}
    (heard : r'.heard = r.heard ++ [bytes]) : shown r' = (shown r).append bytes := by
  rw [shown, shown, Output.Buffer.append_append, Recorded.output, heard, List.flatten_append]
  simp [Recorded.output]

private theorem shown_of_heard {r r' : Recorded σ} (heard : r'.heard = r.heard) :
    shown r' = shown r := by
  rw [shown, shown, Recorded.output, Recorded.output, heard]

theorem sameOutput (h : Tracks lines s) (same : SameOutput s s') : Tracks lines s' := by
  have still := shown_of_heard same.heard_eq
  refine ⟨?_, ?_, h.lines_mem⟩
  · rw [still, h.state_eq, same.state_eq]
  · rw [still, h.text_eq, same.pending_eq]

theorem takeLine (h : Tracks lines s) {line : List Char} {buffer : Output.Buffer}
    (found : s.subject.buffer.takeLine = some (line, buffer)) :
    Tracks (lines ++ [line]) { s with subject := { s.subject with buffer } } := by
  obtain ⟨split, first, rest⟩ := Output.Buffer.takeLine_eq_some found
  refine ⟨?_, ?_, ?_⟩
  · rw [rest]
    exact h.state_eq
  · rw [h.text_eq, pending, split]
    simp [pending]
  · intro l hl
    obtain old | new := List.mem_append.mp hl
    · exact h.lines_mem l old
    · rwa [List.mem_singleton.mp new]

/-- When no line is left, the lines that have been read are all the complete ones. -/
theorem lines_of_unended (h : Tracks lines s) (unended : '\n' ∉ s.subject.pending) :
    Lines (shown s.world.host).pending lines s.subject.pending :=
  ⟨h.text_eq.symm, h.lines_mem, unended⟩

end Tracks

variable [Host σ]

/-! ## Uses of a session -/

/-- What may be done with the output of a session. -/
inductive Use where
  | line (deadline : Deadline)
  | watch (duration : Duration)
  | raw
  | type (bytes : Bytes)
  deriving DecidableEq, Repr

/-- Makes use of a session: the lines that this yields, at most one. -/
def use : Use → Op σ Session (List (List Char))
  | .line deadline => do return [← readLine deadline]
  | .watch duration => do watch duration; return []
  | .raw => do let _ ← takeRaw; return []
  | .type bytes => do sendBytes bytes; return []

/-- Makes use of a session again and again, whatever becomes of each: the lines that this yields. -/
def useAll : List Use → On σ Session → List (List Char) × On σ Session
  | [], s => ([], s)
  | u :: rest, s =>
    let (lines, last) := useAll rest ((use u).final s)
    (((use u).outcome s).toOption.getD [] ++ lines, last)

def lineCount : List Use → Nat
  | [] => 0
  | .line _ :: rest => lineCount rest + 1
  | _ :: rest => lineCount rest

theorem lineCount_cons (u : Use) (rest : List Use) :
    lineCount (u :: rest) = lineCount [u] + lineCount rest := by
  cases u <;> simp [lineCount, Nat.add_comm]

/-! ## What a use comes to -/

/-- The ways in which a use of a session can end: after some listening a line is taken, or nothing
is taken from the text. -/
inductive UseEnd (s : On (Recorded σ) Session) :
    Use → List (List Char) → On (Recorded σ) Session → Prop
  | line {deadline : Deadline} {s' : On (Recorded σ) Session} {line : List Char}
      {buffer : Output.Buffer} (listened : Listened s s')
      (found : s'.subject.buffer.takeLine = some (line, buffer)) :
      UseEnd s (.line deadline) [line] { s' with subject := { s'.subject with buffer } }
  | nothing {u : Use} {s' s'' : On (Recorded σ) Session} (listened : Listened s s')
      (same : SameOutput s' s'') : UseEnd s u [] s''

def gained (u : Use) (s : On σ Session) : List (List Char) :=
  ((use u).outcome s).toOption.getD []

theorem useAll_cons (u : Use) (rest : List Use) (s : On σ Session) :
    useAll (u :: rest) s =
      (gained u s ++ (useAll rest ((use u).final s)).1, (useAll rest ((use u).final s)).2) := rfl

/-- Whether a use yields anything, and where it leaves the session, is told by how it ends. -/
private theorem use_of_ok {u : Use} {s s' : On σ Session} {lines : List (List Char)}
    (h : use u s = .ok lines s') : gained u s = lines ∧ (use u).final s = s' := by
  simp only [gained, Op.outcome, Op.final, h]
  exact ⟨rfl, trivial⟩

private theorem use_of_error {u : Use} {s s' : On σ Session} {e : Failure}
    (h : use u s = .error e s') : gained u s = [] ∧ (use u).final s = s' := by
  simp only [gained, Op.outcome, Op.final, h]
  exact ⟨rfl, trivial⟩

theorem useLine_end (deadline : Deadline) (s : On (Recorded σ) Session) :
    UseEnd s (.line deadline) (gained (.line deadline) s) ((use (.line deadline)).final s) := by
  have waited := await_end Output.Buffer.takeLine deadline "end of line" s
  cases read : readLine deadline s with
  | ok line s' =>
      have used : use (.line deadline) s = .ok [line] s' := Op.bind_of_ok read
      rw [readLine] at read
      rw [read] at waited
      rw [(use_of_ok used).1, (use_of_ok used).2]
      cases waited with
      | taken listened found => exact .line listened found
  | error e s' =>
      have used : use (.line deadline) s = .error e s' := Op.bind_of_error read
      rw [readLine] at read
      rw [read] at waited
      rw [(use_of_error used).1, (use_of_error used).2]
      cases waited with
      | closed => exact .nothing .refl (.refl s)
      | timedOut listened => exact .nothing listened (.refl _)
      | ended listened => exact .nothing listened (.refl _)

theorem watch_listened (duration : Duration) (s : On σ Session) :
    Listened s ((watch duration).final s) := by
  unfold Op.final watch
  by_cases closed : s.subject.isClosed = true
  · rw [if_pos closed]
    exact .refl
  · rw [if_neg closed]
    have waited := collect_end (fun _ => (none : Option (Empty × Output.Buffer)))
      (.after s.world.clock duration) s
    generalize collect (fun _ => (none : Option (Empty × Output.Buffer)))
      (.after s.world.clock duration) s = r at waited
    cases waited with
    | taken _ found => cases found
    | timedOut listened => exact listened
    | ended listened => exact listened

theorem keeps_sendBytes (s : On (Recorded σ) Session) (bytes : Bytes) :
    Op.Keeps (SameOutput s) (fun _ => True) (sendBytes bytes) := by
  unfold sendBytes
  refine .bind .subject fun t => ?_
  cases t.terminal with
  | none => exact .throw trivial
  | some terminal =>
    refine .demand (fun r hr => ?_) fun _ => trivial
    exact { hr with heard_eq := (Recorded.heard_write _ _ _).trans hr.heard_eq }

theorem use_end (u : Use) (s : On (Recorded σ) Session) :
    UseEnd s u (gained u s) ((use u).final s) := by
  cases u with
  | line deadline => exact useLine_end deadline s
  | watch duration =>
    have listened := watch_listened duration s
    cases watched : watch duration s with
    | ok _ s' =>
        have used : use (.watch duration) s = .ok [] s' := Op.bind_of_ok watched
        rw [Op.final_of_ok watched] at listened
        rw [(use_of_ok used).1, (use_of_ok used).2]
        exact .nothing listened (.refl s')
    | error e s' =>
        have used : use (.watch duration) s = .error e s' := Op.bind_of_error watched
        rw [Op.final_of_error watched] at listened
        rw [(use_of_error used).1, (use_of_error used).2]
        exact .nothing listened (.refl s')
  | raw => exact .nothing (Relation.ReflTransGen.refl : Listened s s) ⟨rfl, rfl, rfl, rfl, rfl⟩
  | type bytes =>
    have same := (keeps_sendBytes s bytes).final (.refl s)
    cases sent : sendBytes bytes s with
    | ok _ s' =>
        have used : use (.type bytes) s = .ok [] s' := Op.bind_of_ok sent
        rw [Op.final_of_ok sent] at same
        rw [(use_of_ok used).1, (use_of_ok used).2]
        exact .nothing .refl same
    | error e s' =>
        have used : use (.type bytes) s = .error e s' := Op.bind_of_error sent
        rw [Op.final_of_error sent] at same
        rw [(use_of_error used).1, (use_of_error used).2]
        exact .nothing .refl same

/-! ## What a run comes to -/

namespace Tracks

variable {lines : List (List Char)} {s s' : On (Recorded σ) Session}

/-- Listening: the process may print on a line that is not complete, but never on one that is. -/
theorem listens (h : Tracks lines s) (step : Listens s s') : Tracks lines s' := by
  cases step with
  | @output terminal limit after bytes host isOpen going heard =>
    have noted := Recorded.heard_of_await heard
    have fed := Output.Buffer.append_below (Text.complete_join lines) h.state_eq h.text_eq bytes
    have grown := shown_append noted
    refine ⟨?_, ?_, h.lines_mem⟩
    · rw [grown]
      exact fed.1
    · rw [grown]
      exact fed.2
  | @hangUp terminal limit after host isOpen going heard =>
    have noted := Recorded.heard_of_await heard
    rw [Arrival.portions, List.append_nil] at noted
    have still := shown_of_heard noted
    exact ⟨still ▸ h.state_eq, still ▸ h.text_eq, h.lines_mem⟩
  | @silence terminal limit host isOpen going heard =>
    have noted := Recorded.heard_of_await heard
    rw [Arrival.portions, List.append_nil] at noted
    have still := shown_of_heard noted
    exact ⟨still ▸ h.state_eq, still ▸ h.text_eq, h.lines_mem⟩

theorem listened (h : Tracks lines s) (steps : Listened s s') : Tracks lines s' :=
  steps.keeps (fun _ _ => listens) h

theorem use (h : Tracks lines s) (u : Use) :
    Tracks (lines ++ gained u s) ((Session.use u).final s) := by
  have ended := use_end u s
  generalize gained u s = more at ended
  generalize (Session.use u).final s = last at ended
  cases ended with
  | line listened found => exact (h.listened listened).takeLine found
  | nothing listened same =>
    rw [List.append_nil]
    exact (h.listened listened).sameOutput same

theorem useAll (h : Tracks lines s) (uses : List Use) :
    Tracks (lines ++ (Session.useAll uses s).1) (Session.useAll uses s).2 := by
  induction uses generalizing lines s with
  | nil => simpa [Session.useAll] using h
  | cons u rest ih =>
      have first := h.use u
      rw [useAll_cons, ← List.append_assoc]
      exact ih first

end Tracks

theorem terminal_use (u : Use) (s : On (Recorded σ) Session) :
    ((use u).final s).subject.terminal = s.subject.terminal := by
  have ended := use_end u s
  generalize gained u s = lines at ended
  generalize (use u).final s = last at ended
  cases ended with
  | line listened found => exact listened.terminal_eq
  | nothing listened same => exact same.terminal_eq.trans listened.terminal_eq

theorem terminal_useAll (uses : List Use) (s : On (Recorded σ) Session) :
    (useAll uses s).2.subject.terminal = s.subject.terminal := by
  induction uses generalizing s with
  | nil => rfl
  | cons u rest ih =>
      rw [useAll_cons]
      exact (ih _).trans (terminal_use u s)

/-! ## After the end of the stream -/

/-- The lines `more` are read one after the other, whatever else is done meanwhile, and from then on
every attempt reports the end of the stream, with the end of `rest`. -/
def Drains (more : List (List Char)) (rest : List Char) (s : On σ Session) : Prop :=
  ∀ later, (useAll later s).1 = more.take (lineCount later) ∧
    (more.length ≤ lineCount later → ∀ deadline,
      readLine deadline (useAll later s).2 =
        .error (.endOfStream (String.ofList (Text.excerpt rest))) (useAll later s).2)

/-- The process of an open session has closed its output; of the text, `more` are the complete lines
and `rest` is what comes after them. -/
structure Closing (more : List (List Char)) (rest : List Char) (s : On (Recorded σ) Session) :
    Prop where
  isOpen : s.subject.terminal ≠ none
  ended : s.subject.ended = true
  lines : Lines s.subject.pending more rest

namespace Closing

variable {more : List (List Char)} {rest : List Char} {s s' : On (Recorded σ) Session}

theorem readLine_cons {line : List Char} (h : Closing (line :: more) rest s) (deadline : Deadline) :
    ∃ s', readLine deadline s = .ok line s' ∧ Closing more rest s' := by
  obtain ⟨terminal, isOpen⟩ := Option.ne_none_iff_exists'.mp h.isOpen
  obtain ⟨split, first, others⟩ := h.lines.cons
  have found := Output.Buffer.takeLine_of_line split.symm first
  exact ⟨_, await_of_found isOpen found, h.isOpen, h.ended, others⟩

theorem readLine_nil (h : Closing [] rest s) (deadline : Deadline) :
    readLine deadline s = .error (.endOfStream (String.ofList (Text.excerpt rest))) s := by
  have whole : rest = s.subject.pending := h.lines.text_eq
  have unended : '\n' ∉ s.subject.pending := whole ▸ h.lines.rest_mem
  have missing := Output.Buffer.takeLine_of_unended unended
  have waited := await_end Output.Buffer.takeLine deadline "end of line" s
  rw [readLine]
  generalize await Output.Buffer.takeLine "end of line" deadline s = r at waited
  cases waited with
  | closed closed => exact absurd closed h.isOpen
  | taken listened found =>
    rw [listened.eq_of_ended h.ended, missing] at found
    cases found
  | timedOut listened _ going =>
    rw [listened.eq_of_ended h.ended, h.ended] at going
    cases going
  | ended listened =>
    rw [listened.eq_of_ended h.ended, whole]
    rfl

omit [Host σ] in
theorem sameOutput (h : Closing more rest s) (same : SameOutput s s') : Closing more rest s' :=
  ⟨same.terminal_eq ▸ h.isOpen, same.ended_eq.trans h.ended, same.pending_eq ▸ h.lines⟩

theorem use (h : Closing more rest s) (u : Use) :
    gained u s = more.take (lineCount [u]) ∧
      Closing (more.drop (lineCount [u])) rest ((Session.use u).final s) := by
  have ended := use_end u s
  cases u with
  | line deadline =>
    cases more with
    | nil =>
        have used : Session.use (.line deadline) s = .error _ s :=
          Op.bind_of_error (h.readLine_nil deadline)
        rw [(use_of_error used).1, (use_of_error used).2]
        exact ⟨rfl, h⟩
    | cons line more =>
        obtain ⟨s', read, left⟩ := h.readLine_cons deadline
        have used : Session.use (.line deadline) s = .ok [line] s' := Op.bind_of_ok read
        rw [(use_of_ok used).1, (use_of_ok used).2]
        exact ⟨rfl, left⟩
  | watch | raw | type =>
    generalize gained _ s = got at ended
    generalize (Session.use _).final s = last at ended
    cases ended with
    | nothing listened same =>
      rw [listened.eq_of_ended h.ended] at same
      exact ⟨rfl, h.sameOutput same⟩

theorem useAll (h : Closing more rest s) (uses : List Use) :
    (Session.useAll uses s).1 = more.take (lineCount uses) ∧
      Closing (more.drop (lineCount uses)) rest (Session.useAll uses s).2 := by
  induction uses generalizing more s with
  | nil => exact ⟨rfl, h⟩
  | cons u later ih =>
      obtain ⟨first, left⟩ := h.use u
      obtain ⟨others, last⟩ := ih left
      have count := lineCount_cons u later
      rw [useAll_cons, first, others, count, List.take_add, ← List.drop_drop]
      exact ⟨rfl, last⟩

theorem drains (h : Closing more rest s) : Drains more rest s := by
  intro later
  obtain ⟨lines, left⟩ := h.useAll later
  refine ⟨lines, fun all deadline => ?_⟩
  rw [List.drop_eq_nil_of_le all] at left
  exact left.readLine_nil deadline

end Closing

/-! ## The stream as a whole -/

theorem opened_of_attach {τ : Type} {t : τ} {world : World σ} {target : Target}
    {settings : ConsoleSettings} {session : Session} {s' : On (Recorded σ) τ}
    (h : attach target settings ⟨t, ⟨{ host := world.host }, world.clock⟩⟩ = .ok session s') :
    ∃ terminal host, (⟨session, s'.world⟩ : On (Recorded σ) Session) =
      opened (some target) (target.launch settings) terminal ⟨host, world.clock⟩ := by
  obtain ⟨spawned, s₁, hspawn, hattach⟩ := Op.bind_eq_ok h
  obtain ⟨terminal, s₂, hterm, hsession⟩ := Op.bind_eq_ok hspawn
  obtain ⟨process, s₃, hdemand, hprocess⟩ := Op.bind_eq_ok hterm
  obtain ⟨-, rfl⟩ := Op.demand_eq_ok hdemand
  cases hattach
  cases hsession
  cases hprocess
  exact ⟨_, _, rfl⟩

/-- Whatever is done with a session, and however its process cuts up what it prints: the lines that
have been read and the text that is left are those of all that has been printed, in one portion. If
an attempt to read a line reports the end of the stream, all complete lines have been read, and it
is reported ever after. Once the process has closed its output, the lines that have not been read
are read in order, and then the end of the stream is reported ever after. -/
theorem lines_of_stream (target : Option Target) (launch : Launch) (terminal : Terminal)
    (world : World σ) (uses : List Use) :
    let lines := (useAll uses (opened target launch terminal world)).1
    let s := (useAll uses (opened target launch terminal world)).2
    join lines ++ s.subject.pending =
        (Output.Buffer.append {} s.world.host.heard.flatten).pending ∧
      (∀ deadline buffer s', readLine deadline s = .error (.endOfStream buffer) s' →
        ∃ rest, buffer = String.ofList (Text.excerpt rest) ∧
          Lines (Output.Buffer.append {} s'.world.host.heard.flatten).pending lines rest ∧
          Drains [] rest s') ∧
      (s.subject.ended = true → ∃ more rest,
        Lines (Output.Buffer.append {} s.world.host.heard.flatten).pending (lines ++ more) rest ∧
          Drains more rest s) := by
  intro lines s
  have tracks : Tracks lines s := (tracks_opened target launch terminal world).useAll uses
  have isOpen : s.subject.terminal ≠ none := by
    rw [terminal_useAll]
    exact Option.some_ne_none terminal
  refine ⟨tracks.text_eq.symm, fun deadline buffer s' read => ?_, fun ended => ?_⟩
  · have waited := await_end Output.Buffer.takeLine deadline "end of line" s
    rw [readLine] at read
    rw [read] at waited
    cases waited with
    | ended listened missing past =>
      have unended := Output.Buffer.takeLine_eq_none.mp missing
      have closing : Closing [] s'.subject.pending s' :=
        ⟨listened.terminal_eq ▸ isOpen, past, rfl, by simp, unended⟩
      exact ⟨_, rfl, (tracks.listened listened).lines_of_unended unended, closing.drains⟩
  · obtain ⟨more, rest, left⟩ := Text.exists_lines s.subject.pending
    refine ⟨more, rest, ⟨?_, ?_, left.rest_mem⟩, Closing.drains ⟨isOpen, ended, left⟩⟩
    · rw [Text.join_append, List.append_assoc, left.text_eq]
      exact tracks.text_eq.symm
    · intro line hl
      exact (List.mem_append.mp hl).elim (tracks.lines_mem line) (left.lines_mem line)

end SerialConsole.Session
