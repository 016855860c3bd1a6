import SerialConsole.Proofs.Session.Arrivals
import SerialConsole.Proofs.Session.Reads
import SerialConsole.Proofs.Session.Typing

/-!
# Files that are confirmed

When it has received a file, the machine prints the mark on a line of its own and then the prompt of
the shell. An upload types the lines of its source, and the end of input only if the source has come
to its end; it succeeds exactly if the source does and that confirmation arrives in time
(`outcome_upload_eq_ok`).
-/

namespace SerialConsole.Session

open Host (Takes)

variable {σ : Type} [Host σ] {shell : Pattern} {m : Mark} {deadline : Deadline}

/-! ## Confirmation -/

/-- A text in which a line is the mark but for blanks around it, and is followed by text that
matches the pattern. The lines before it are others. -/
inductive Confirms (shell : Pattern) (m : Mark) : List Char → Prop
  | last {line rest : List Char} (first : '\n' ∉ line) (ends : Text.trim line = m.text)
      (prompt : shell.find rest ≠ none) : Confirms shell m (line ++ '\n' :: rest)
  | other {line rest : List Char} (first : '\n' ∉ line) (going : Text.trim line ≠ m.text)
      (later : Confirms shell m rest) : Confirms shell m (line ++ '\n' :: rest)

def Delivers (shell : Pattern) (m : Mark) (deadline : Deadline) (s : On σ Session) : Prop :=
  ∃ s', Arrives deadline s s' ∧ Confirms shell m s'.subject.pending

/-! ## The line with the mark -/

def skipToMark (m : Mark) (deadline : Deadline) : Op σ Session Unit :=
  foldLines false (looking fun _ line => passOver m line) deadline ()

theorem awaitMark_eq : (awaitMark shell m deadline : Op σ Session Unit) =
    skipToMark m deadline >>= fun _ => discard (expect shell deadline) := rfl

theorem passOver_eq (m : Mark) (line : List Char) :
    passOver m line = if Text.trim line = m.text then .done () else .more () := by
  simp only [passOver, Mark.classify_eq_terminator, Mark.terminates, beq_iff_eq]

section Lines

variable {s s' ended later : On σ Session} {line : List Char}

theorem skipToMark_of_readLine (read : readLine deadline s = .ok line s') :
    skipToMark m deadline s = if Text.trim line = m.text then .ok () (forgetful s')
      else skipToMark m deadline (forgetful s') := by
  unfold skipToMark
  rw [foldLines_of_readLine read]
  change continued false _ deadline (forgetful s') (.ok (passOver m line)) = _
  rw [passOver_eq]
  split <;> rfl

theorem skipToMark_of_confirms {terminal : Terminal} {whole : On σ Session} {text : List Char}
    (confirms : Confirms shell m text) (pending : whole.subject.pending = text)
    (arrives : Arrives deadline s whole) (isOpen : s.subject.terminal = some terminal) :
    ∃ ended later, skipToMark m deadline s = .ok () ended ∧
      ended.subject.terminal = some terminal ∧ Arrives deadline ended later ∧
      shell.find later.subject.pending ≠ none := by
  -- each line of the text is read in turn, and what has arrived behind it arrives after that
  induction confirms generalizing s whole with
  | last first ends prompt =>
    obtain ⟨s₁, later, read, open₁, arrives₁, pending₁⟩ :=
      readLine_of_arrives isOpen arrives pending first
    refine ⟨forgetful s₁, later, ?_, open₁, arrives₁, ?_⟩
    · rw [skipToMark_of_readLine read, if_pos ends]
    · rw [pending₁]
      exact prompt
  | other first going _ ih =>
    obtain ⟨s₁, later, read, open₁, arrives₁, pending₁⟩ :=
      readLine_of_arrives isOpen arrives pending first
    rw [skipToMark_of_readLine read, if_neg going]
    exact ih pending₁ arrives₁ open₁

/-- The line that has been read came before all that has arrived since. -/
theorem delivers_of_skipToMark (skipped : skipToMark m deadline s = .ok () ended)
    (arrives : Arrives deadline ended later) (prompt : shell.find later.subject.pending ≠ none) :
    Delivers shell m deadline s := by
  -- along the loop: what arrives after a line was read arrives behind that line if it was not
  unfold skipToMark at skipped
  fun_induction foldLines false (looking fun _ line => passOver m line) deadline () s with
  | case1 state s e s₁ failed => cases skipped
  | case2 state s line s₁ read subject host next e ran => cases skipped
  | case3 state s line s₁ read subject host next done ran =>
    obtain ⟨passed, rfl⟩ := Prod.mk.inj ran
    have ends : passOver m line = .done done := Except.ok.inj passed
    injection skipped with _ left
    obtain rfl : forgetful s₁ = ended := left
    obtain ⟨first, whole, arrives₁, pending⟩ := arrives_of_readLine read arrives
    refine ⟨whole, arrives₁, ?_⟩
    rw [pending]
    refine .last first ?_ prompt
    by_contra going
    rw [passOver_eq, if_neg going] at ends
    cases ends
  | case4 state s line s₁ read subject host next more ran ih =>
    obtain ⟨passed, rfl⟩ := Prod.mk.inj ran
    have going : passOver m line = .more more := Except.ok.inj passed
    obtain ⟨later', arrives', confirms⟩ := ih skipped
    obtain ⟨first, whole, arrives₁, pending⟩ := arrives_of_readLine read arrives'
    refine ⟨whole, arrives₁, ?_⟩
    rw [pending]
    refine .other first (fun ends => ?_) confirms
    rw [passOver_eq, if_pos ends] at going
    cases going

end Lines

/-! ## The prompt after it -/

section Prompt

variable {s s' : On σ Session} {terminal : Terminal}

theorem awaitMark_of_delivers (h : Delivers shell m deadline s)
    (isOpen : s.subject.terminal = some terminal) :
    ∃ s', awaitMark shell m deadline s = .ok () s' := by
  obtain ⟨whole, arrives, confirms⟩ := h
  obtain ⟨ended, later, skipped, open₁, arrives₁, prompt⟩ :=
    skipToMark_of_confirms confirms rfl arrives isOpen
  obtain ⟨s₁, found, buffer, -, -, -, expected⟩ :=
    await_of_arrives (·.takeMatch shell) shell.source open₁ arrives₁
      (Output.Buffer.takeMatch_ne_none.mpr prompt)
  rw [awaitMark_eq, Op.bind_of_ok skipped]
  exact ⟨_, Op.discard_of_ok expected⟩

theorem delivers_of_awaitMark (h : awaitMark shell m deadline s = .ok () s') :
    Delivers shell m deadline s := by
  rw [awaitMark_eq] at h
  obtain ⟨_, ended, skipped, rest⟩ := Op.bind_eq_ok h
  obtain ⟨found, expected⟩ := Op.discard_eq_ok rest
  obtain ⟨later, buffer, arrives, taken, -⟩ := arrives_of_await expected
  have prompt : shell.find later.subject.pending ≠ none :=
    Output.Buffer.takeMatch_ne_none.mp (Option.ne_none_iff_exists'.mpr ⟨_, taken⟩)
  exact delivers_of_skipToMark skipped arrives prompt

end Prompt

/-! ## Sources -/

/-- What is typed to send a source: the command, the lines of its chunks, and if it comes to its end
an empty line and the end of input. -/
def sourceBytes (source : Source) (size : Nat) (path : List Char) (m : Mark) : List Bytes :=
  lineBytes (Command.receive path m) ::
    (chunks (max size 1) (source.sent (max size 1))).map (fun chunk =>
      lineBytes (Base64.encode chunk)) ++
    if source.failure? = none then [lineBytes [], [4]] else []

section Source

variable {source : Source} {size : Nat} {path : List Char} {s s' : On σ Session}
  {terminal : Terminal} {h : σ}

theorem sourceBytes_of_sound (sound : source.failure? = none) :
    sourceBytes source size path m =
      uploadBytes path m (Chunker.dataLines size source.delivered) := by
  rw [sourceBytes, if_pos sound, uploadBytes, Chunker.dataLines, List.map_map,
    Source.sent_of_sound sound]
  rfl

theorem typeSource_of_sound (sound : source.failure? = none)
    (isOpen : s.subject.terminal = some terminal)
    (taken : Takes terminal.process (sourceBytes source size path m) s.world.host h) :
    typeSource (.ofSource source size) path m s =
      .ok () { s with world := { s.world with host := h } } := by
  have whole := Chunker.lines_ofSource sound size
  rw [sourceBytes_of_sound sound] at taken
  exact justTypes_typeSource whole path m s terminal h isOpen taken

theorem sendChunks_append (lines : List (List Char)) (more : List (Except String (List Char))) :
    (sendChunks (lines.map .ok ++ more) : Op σ Session Unit) =
      sendChunks (lines.map .ok) >>= fun _ => sendChunks more := by
  induction lines with
  | nil => rfl
  | cons line rest ih =>
    simp only [List.map_cons, List.cons_append, sendChunks, ih, bind_assoc]

theorem typeSource_of_failure {reason : String} (failure : source.failure? = some reason)
    (isOpen : s.subject.terminal = some terminal)
    (taken : Takes terminal.process (sourceBytes source size path m) s.world.host h) :
    typeSource (.ofSource source size) path m s =
      .error (.io reason) { s with world := { s.world with host := h } } := by
  let lines := (chunks (max size 1) (source.sent (max size 1))).map Base64.encode
  have answers : (Chunker.ofSource source size).lines = lines.map .ok ++ [.error reason] := by
    rw [Chunker.lines_eq, Chunker.answers, failure, List.map_map]
    rfl
  have portions : sourceBytes source size path m =
      [lineBytes (Command.receive path m)] ++ lines.map lineBytes := by
    rw [sourceBytes, failure, if_neg (Option.some_ne_none reason), List.append_nil, List.map_map]
    rfl
  rw [portions] at taken
  have typed := (justTypes_sendBytes (σ := σ) (lineBytes (Command.receive path m))).bind
    (justTypes_sendChunks lines) s terminal h isOpen taken
  have parts : typeSource (.ofSource source size) path m =
      (do sendBytes (σ := σ) (lineBytes (Command.receive path m)); sendChunks (lines.map .ok)) >>=
        fun _ => sendChunks [.error reason] >>= fun _ => (do sendLine []; sendControl 'd') := by
    unfold typeSource
    rw [answers, sendChunks_append]
    simp only [bind_assoc]
    rfl
  rw [parts, Op.bind_of_ok typed]
  exact Op.bind_of_error rfl

/-! ## Sending -/

theorem outcome_upload_of_failure {reason : String} (failure : source.failure? = some reason)
    (isOpen : s.subject.terminal = some terminal)
    (taken : Takes terminal.process (sourceBytes source size path m) s.world.host h) :
    (upload shell (.ofSource source size) path m deadline).outcome s = .error (.io reason) := by
  have failed := typeSource_of_failure failure isOpen taken
  rw [upload_eq, Op.outcome, Op.bind_of_error failed]

/-- An upload succeeds exactly if its source comes to its end and the file is then confirmed. -/
theorem outcome_upload_eq_ok (isOpen : s.subject.terminal = some terminal)
    (taken : Takes terminal.process (sourceBytes source size path m) s.world.host h) :
    (upload shell (.ofSource source size) path m deadline).outcome s = .ok () ↔
      source.failure? = none ∧
        Delivers shell m deadline { s with world := { s.world with host := h } } := by
  cases failure : source.failure? with
  | some reason =>
    rw [outcome_upload_of_failure failure isOpen taken]
    exact ⟨nofun, nofun⟩
  | none =>
    have typed := typeSource_of_sound failure isOpen taken
    rw [upload_eq, Op.outcome, Op.bind_of_ok typed]
    constructor
    · intro ended
      exact ⟨rfl, delivers_of_awaitMark (Op.outcome_eq_ok ended)⟩
    · rintro ⟨-, delivers⟩
      obtain ⟨s', awaited⟩ := awaitMark_of_delivers delivers isOpen
      rw [awaited]

theorem typed_upload_source {s : On (Recorded σ) Session} {h : Recorded σ}
    (isOpen : s.subject.terminal = some terminal)
    (taken : Takes terminal.process (sourceBytes source size path m) s.world.host h) :
    ((upload shell (.ofSource source size) path m deadline).final s).world.host.typed =
      s.world.host.typed ++ sourceBytes source size path m := by
  rw [upload_eq, ← Recorded.typed_takes taken]
  cases failure : source.failure? with
  | some reason => rw [Op.final_bind_error (typeSource_of_failure failure isOpen taken)]
  | none =>
    rw [Op.final_bind (typeSource_of_sound failure isOpen taken)]
    exact (confined_awaitMark shell m deadline).typed_final _

end Source

end SerialConsole.Session
