import SerialConsole.Proofs.Command.Echo
import SerialConsole.Proofs.Frame
import SerialConsole.Proofs.Session.Download
import SerialConsole.Proofs.Session.Upload

/-!
# What operations type

However it ends, an operation of a session has typed the beginning of what it has typed when it
succeeds: a command, and for an upload also lines of base64, an empty line and the end of input. So
all that is typed is `Echoed`, which is what `Enters` says of an operation.
-/

namespace SerialConsole

open Op (Confined)

theorem Recorded.steady_typed {σ : Type} [Host σ] (typed : List Bytes) :
    Host.Steady True False fun r : Recorded σ => r.typed = typed where
  spawn _ _ _ h := h
  write typing := typing.elim
  await _ _ _ h := h
  isAlive _ _ h := h
  kill _ _ h := h
  freshMark h := h
  isFile _ _ h := h
  openFile _ _ h := h
  createFile _ _ h := h
  appendFile _ _ _ h := h
  flushFile _ _ h := h

/-- What starts no program and types nothing leaves what has been typed. -/
theorem Op.Confined.typed_final {σ τ α : Type} [Host σ] {act : Op (Recorded σ) τ α}
    (h : Confined True False act) (s : On (Recorded σ) τ) :
    (act.final s).world.host.typed = s.world.host.typed :=
  (h (Recorded.steady_typed s.world.host.typed)).final rfl

namespace Session

open Command (Echoed Shown)
open Host (Obliging)

variable {σ τ α : Type} [Host σ]

/-! ## Portions -/

theorem Typing.of_confined {act : Op (Recorded σ) τ α} (h : Confined True False act) :
    Typing [] act := by
  intro s
  have kept := h (Recorded.steady_typed s.world.host.typed) s rfl
  cases ended : act s with
  | ok a s' =>
      rw [ended] at kept
      exact kept.trans (List.append_nil _).symm
  | error e s' =>
      rw [ended] at kept
      exact ⟨[], List.prefix_refl [], kept.1.trans (List.append_nil _).symm⟩

/-- Once all of a source is typed, the wait for the mark adds nothing to it. -/
theorem typed_upload {source : Chunker} {lines : List (List Char)}
    (whole : source.lines = lines.map .ok) {shell : Pattern} {path : List Char} {m : Mark}
    {deadline : Deadline} {s s₁ : On (Recorded σ) Session}
    (typed : typeSource source path m s = .ok () s₁) :
    ((upload shell source path m deadline).final s).world.host.typed =
      s.world.host.typed ++ uploadBytes path m lines := by
  rw [upload_eq, Op.final_bind typed, (confined_awaitMark shell m deadline).typed_final]
  exact types_typeSource whole path m s s₁ typed

/-! ## Commands that are echoed -/

variable {m : Mark} (shell : Pattern) (deadline : Deadline)

omit [Host σ] in
theorem Typing.final {portions : List Bytes} {act : Op (Recorded σ) τ α} (h : Typing portions act)
    (s : On (Recorded σ) τ) : ∃ front, front <+: portions ∧
      (act.final s).world.host.typed = s.world.host.typed ++ front := by
  have ended := h s
  unfold Op.final
  cases ran : act s with
  | ok a s' =>
      rw [ran] at ended
      exact ⟨portions, List.prefix_refl _, ended⟩
  | error e s' =>
      rw [ran] at ended
      exact ended

/-- A host that takes whatever is typed has been given a command at least. -/
theorem typed_ne_of_open {bytes : Bytes} {after : List Bytes}
    {f : Unit → Op (Recorded σ) Session α} (later : ∀ done, Typing after (f done))
    (obliging : Obliging σ) {s : On (Recorded σ) Session} {terminal : Terminal}
    (isOpen : s.subject.terminal = some terminal) :
    ((sendBytes bytes >>= f).final s).world.host.typed ≠ s.world.host.typed := by
  have taken := (Recorded.obliging obliging).takes terminal.process [bytes] s.world.host
  have sent := justTypes_sendBytes bytes s terminal _ isOpen taken
  obtain ⟨front, -, typed⟩ := (later ()).final ⟨s.subject, { s.world with host := _ }⟩
  rw [Op.final_bind sent, typed, Recorded.typed_takes taken, List.append_assoc]
  exact fun same => by simpa using congrArg List.length same

/-- What has been typed between two states: nothing, or a command and perhaps more that is no end
and no other echo. -/
def EchoedSince (m : Mark) (command : List Char) (s s' : On (Recorded σ) τ) : Prop :=
  ∃ portions, s'.world.host.typed = s.world.host.typed ++ portions ∧
    (portions ≠ [] → Echoed m command portions.flatten)

/-- An operation that types a command. If it has typed nothing, its session was closed or the host
has refused what was typed. -/
structure Enters (m : Mark) (command : List Char) (act : Op (Recorded σ) Session α) : Prop where
  echoed : ∀ s, EchoedSince m command s (act.final s)
  begun : Obliging σ → ∀ s terminal, s.subject.terminal = some terminal →
    (act.final s).world.host.typed ≠ s.world.host.typed

theorem Enters.of_typing {command : List Char} {bytes : Bytes} {after : List Bytes}
    {f : Unit → Op (Recorded σ) Session α} (later : ∀ done, Typing after (f done))
    (echoed : ∀ front, front <+: bytes :: after → front ≠ [] → Echoed m command front.flatten) :
    Enters m command (sendBytes bytes >>= f) where
  echoed s := by
    obtain ⟨front, part, typed⟩ := ((typing_sendBytes bytes).bind later).final s
    exact ⟨front, typed, echoed front part⟩
  begun obliging _ _ := typed_ne_of_open later obliging

omit [Host σ] in
theorem echoed_command {command : List Char} (shown : Shown m command) (front : List Bytes)
    (part : front <+: [Text.encode command]) (some : front ≠ []) :
    Echoed m command front.flatten := by
  obtain rfl : front = [Text.encode command] := by
    obtain none | ⟨rest, rfl, last⟩ := List.prefix_cons_iff.mp part
    · exact absurd none some
    · rw [List.prefix_nil.mp last]
  have echoed := Command.echoed_of_shown shown (List.forall_mem_nil _) (List.forall_mem_nil _)
    List.not_mem_nil (classify_blank (List.forall_mem_nil _))
  simpa using echoed

theorem flatten_lineBytes (lines : List (List Char)) :
    (lines.map lineBytes).flatten = Text.encode (Command.join lines) := by
  induction lines with
  | nil => rfl
  | cons line rest ih =>
      rw [List.map_cons, List.flatten_cons, ih, lineBytes, ← Text.encode_append]
      simp

omit [Host σ] in
/-- The lines of a file are base64, and so is the empty line after them. -/
theorem content_of_mem {lines : List (List Char)}
    (written : ∀ line ∈ lines, ∃ bytes, line = Base64.encode bytes) {line : List Char}
    (h : line ∈ lines ++ [[]]) : '\n' ∉ line ∧ m.classify line = .content := by
  obtain ⟨bytes, rfl⟩ : ∃ bytes, line = Base64.encode bytes := by
    obtain data | rfl := by simpa using h
    · exact written line data
    · exact ⟨[], rfl⟩
  have kind := classify_encode (m := m) (List.forall_mem_nil _) (List.forall_mem_nil _) bytes
  refine ⟨fun newline => ?_, by simpa using kind⟩
  have solid := Base64.solid_encode bytes '\n' newline
  revert solid
  decide

omit [Host σ] in
theorem echoed_receive {path : List Char} (absent : ¬ m.text <:+: path)
    {sent : List (List Char)} (inner : ∀ line ∈ sent, '\n' ∉ line ∧ m.classify line = .content)
    (rest : List Char) (ended : '\n' ∉ rest) (few : rest.count '=' < 16) :
    Echoed m (Command.receive path m ++ ['\n'])
      (lineBytes (Command.receive path m) ++
        ((sent.map lineBytes).flatten ++ Text.encode rest)) := by
  rw [flatten_lineBytes, lineBytes, ← Text.encode_append, ← Text.encode_append,
    ← List.append_assoc]
  exact Command.echoed_of_shown (Command.shown_receive absent) (fun line h => (inner line h).1)
    (fun line h => (inner line h).2) ended
    (Mark.classify_eq_content.mpr (Mark.not_infix_of_count few))

omit [Host σ] in
/-- Wherever the typing of a file stops, no mark has been typed after the command. -/
theorem echoed_upload {path : List Char} (absent : ¬ m.text <:+: path)
    {lines : List (List Char)} (written : ∀ line ∈ lines, ∃ bytes, line = Base64.encode bytes)
    (front : List Bytes) (part : front <+: uploadBytes path m lines) (some : front ≠ []) :
    Echoed m (Command.receive path m ++ ['\n']) front.flatten := by
  have portions : uploadBytes path m lines =
      lineBytes (Command.receive path m) :: ((lines ++ [[]]).map lineBytes ++ [[4]]) := by
    simp [uploadBytes]
  rw [portions] at part
  obtain none | ⟨later, rfl, begun⟩ := List.prefix_cons_iff.mp part
  · exact absurd none some
  rw [List.flatten_cons]
  obtain rfl | begun := List.prefix_concat_iff.mp begun
  · -- all has been typed, down to the end of input
    have all := echoed_receive absent (fun _ h => content_of_mem written h) ['\x04']
      (by decide) (by decide)
    rw [List.flatten_append]
    exact all
  · obtain ⟨others, split⟩ := begun
    obtain ⟨sent, unsent, whole, rfl, -⟩ := List.append_eq_map_iff.mp split
    have taken : sent ⊆ lines ++ [[]] := whole ▸ List.subset_append_left sent unsent
    have beginning := echoed_receive absent (fun _ h => content_of_mem written (taken h)) []
      (by simp) (by decide)
    rwa [show Text.encode [] = [] from rfl, List.append_nil] at beginning

theorem enters_runCommand {command : List Char} (absent : ¬ m.text <:+: command) :
    Enters (σ := σ) m (Command.run command m) (runCommand shell command m deadline) :=
  .of_typing (fun _ => .of_confined (confined_awaitOutcome shell m deadline))
    (echoed_command (Command.shown_run absent))

theorem enters_download (file : String) {path : List Char} (absent : ¬ m.text <:+: path) :
    Enters (σ := σ) m (Command.print path m ++ ['\n'])
      (download shell file path m deadline) :=
  .of_typing (fun _ => .of_confined (confined_awaitFile shell file m deadline))
    (echoed_command (Command.shown_print absent))

/-- Whatever becomes of the source, what is typed of it are lines of base64. -/
theorem encode_of_mem_readable {source : Chunker} {line : List Char}
    (h : line ∈ readable source.lines) : ∃ bytes, line = Base64.encode bytes := by
  obtain ⟨given, among, read⟩ := List.mem_filterMap.mp h
  cases given with
  | error reason => cases read
  | ok other =>
      cases read
      exact Chunker.encode_of_mem_take among

theorem enters_upload (source : Chunker) {path : List Char} (absent : ¬ m.text <:+: path) :
    Enters (σ := σ) m (Command.receive path m ++ ['\n'])
      (upload shell source path m deadline) := by
  have waits : Typing [] (awaitMark (σ := Recorded σ) shell m deadline) :=
    .of_confined (confined_awaitMark shell m deadline)
  have ends :=
    (typing_sendLine (σ := σ) []).bind fun _ => (typing_sendBytes [4]).bind fun _ => waits
  have later := (typing_sendChunks (σ := σ) source.lines).bind fun _ => ends
  exact .of_typing (fun _ => later)
    (echoed_upload absent fun _ => encode_of_mem_readable)

end Session

end SerialConsole
