import SerialConsole.Proofs.Recorded
import SerialConsole.Proofs.Session.Open
import SerialConsole.Proofs.Transfer.Chunks

/-!
# What is typed to send a file

An upload types the command, the lines of the file, an empty line and the end of input, and then
waits. If all of this is taken, it is what the host has been given, and otherwise the beginning of
it (`typing_typeSource`).
-/

namespace SerialConsole.Session

open Host (Takes)

variable {σ τ α β : Type} [Host σ]

/-- The bytes of a line that is typed. -/
def lineBytes (line : List Char) : Bytes := Text.encode (line ++ ['\n'])

/-- The portions of bytes that are typed to send the lines of a file. -/
def uploadBytes (path : List Char) (m : Mark) (lines : List (List Char)) : List Bytes :=
  lineBytes (Command.receive path m) :: lines.map lineBytes ++ [lineBytes [], [4]]

/-! ## Typing -/

/-- When the operation succeeds, it has typed some portions of bytes, one after the other. -/
def Types (portions : List Bytes) (act : Op (Recorded σ) Session Unit) : Prop :=
  ∀ s s', act s = .ok () s' → s'.world.host.typed = s.world.host.typed ++ portions

/-- An operation that succeeds has typed these portions, and one that fails the first of them. -/
def Typing (portions : List Bytes) (act : Op (Recorded σ) τ α) : Prop :=
  ∀ s, match act s with
    | .ok _ s' => s'.world.host.typed = s.world.host.typed ++ portions
    | .error _ s' => ∃ front, front <+: portions ∧
        s'.world.host.typed = s.world.host.typed ++ front

omit [Host σ] in
theorem Typing.bind {before after : List Bytes} {x : Op (Recorded σ) τ α}
    {f : α → Op (Recorded σ) τ β} (hx : Typing before x) (hf : ∀ a, Typing after (f a)) :
    Typing (before ++ after) (x >>= f) := by
  intro s
  have first := hx s
  rw [Op.bind_apply]
  cases ended : x s with
  | error e s' =>
      rw [ended] at first
      obtain ⟨front, part, typed⟩ := first
      exact ⟨front, part.trans (List.prefix_append _ _), typed⟩
  | ok a s' =>
      rw [ended] at first
      have second := hf a s'
      simp only
      cases later : f a s' with
      | ok b s'' =>
          rw [later] at second
          show s''.world.host.typed = _
          rw [second, first, List.append_assoc]
      | error e s'' =>
          rw [later] at second
          obtain ⟨front, part, typed⟩ := second
          refine ⟨before ++ front, (List.prefix_append_right_inj before).mpr part, ?_⟩
          rw [typed, first, List.append_assoc]

omit [Host σ] in
theorem Typing.types {portions : List Bytes} {act : Op (Recorded σ) Session Unit}
    (h : Typing portions act) : Types portions act := by
  intro s s' ended
  have typed := h s
  rwa [ended] at typed

theorem types_sendBytes (bytes : Bytes) : Types (σ := σ) [bytes] (sendBytes bytes) := by
  intro s s' sent
  unfold sendBytes at sent
  rw [Op.bind_of_ok (Op.subject_apply s)] at sent
  cases isOpen : s.subject.terminal with
  | none =>
    rw [isOpen] at sent
    cases sent
  | some terminal =>
    rw [isOpen] at sent
    obtain ⟨taken, rfl⟩ := Op.demand_eq_ok sent
    exact Recorded.typed_write taken

theorem typing_sendBytes (bytes : Bytes) : Typing (σ := σ) [bytes] (sendBytes bytes) := by
  intro s
  cases sent : sendBytes bytes s with
  | ok done s' => exact types_sendBytes bytes s s' sent
  | error e s' =>
      refine ⟨[], List.nil_prefix, ?_⟩
      rw [List.append_nil]
      cases isOpen : s.subject.terminal with
      | none =>
          have closed : sendBytes bytes s = .error .sessionClosed s := by
            unfold sendBytes
            rw [Op.bind_of_ok (Op.subject_apply s), isOpen]
            rfl
          rw [closed] at sent
          cases sent
          rfl
      | some terminal =>
          obtain ⟨answer, host, ran⟩ : ∃ a h,
              (Host.write terminal.process bytes).run s.world.host = (a, h) := ⟨_, _, rfl⟩
          rw [sendBytes_of_open isOpen] at sent
          cases answer with
          | ok done => cases (Op.demand_of_run ran).symm.trans sent
          | error reason =>
              cases (Op.demand_of_refusal ran).symm.trans sent
              exact Recorded.typed_of_refused ran

theorem typing_sendLine (line : List Char) : Typing (σ := σ) [lineBytes line] (sendLine line) :=
  typing_sendBytes _

def readable (lines : List (Except String (List Char))) : List (List Char) :=
  lines.filterMap Except.toOption

theorem readable_ok (lines : List (List Char)) : readable (lines.map .ok) = lines := by
  induction lines with
  | nil => rfl
  | cons line rest ih => exact congrArg (line :: ·) ih

theorem typing_sendChunks (lines : List (Except String (List Char))) :
    Typing (σ := σ) ((readable lines).map lineBytes) (sendChunks lines) := by
  induction lines with
  | nil => exact fun s => (List.append_nil _).symm
  | cons line rest ih =>
      cases line with
      | error reason => exact fun s => ⟨[], List.nil_prefix, (List.append_nil _).symm⟩
      | ok line => exact (typing_sendLine line).bind fun _ => ih

def typeSource (source : Chunker) (path : List Char) (m : Mark) : Op σ Session Unit := do
  sendLine (Command.receive path m)
  sendChunks source.lines
  sendLine []
  sendControl 'd'

theorem typing_typeSource (source : Chunker) (path : List Char) (m : Mark) :
    Typing (σ := σ) (uploadBytes path m (readable source.lines)) (typeSource source path m) := by
  have ends := (typing_sendLine (σ := σ) []).bind fun _ => typing_sendBytes [4]
  have chunks := (typing_sendChunks (σ := σ) source.lines).bind fun _ => ends
  exact (typing_sendLine _).bind fun _ => chunks

theorem types_typeSource {source : Chunker} {lines : List (List Char)}
    (whole : source.lines = lines.map .ok) (path : List Char) (m : Mark) :
    Types (σ := σ) (uploadBytes path m lines) (typeSource source path m) := by
  have typing := typing_typeSource (σ := σ) source path m
  rw [whole, readable_ok] at typing
  exact typing.types

/-! ## Being taken -/

/-- On a host that takes these portions, all that the operation does is to type them. -/
def JustTypes (portions : List Bytes) (act : Op σ Session Unit) : Prop :=
  ∀ s terminal h, s.subject.terminal = some terminal →
    Takes terminal.process portions s.world.host h →
    act s = .ok () { s with world := { s.world with host := h } }

theorem JustTypes.bind {before after : List Bytes} {first next : Op σ Session Unit}
    (hfirst : JustTypes before first) (hnext : JustTypes after next) :
    JustTypes (before ++ after) (do first; next) := by
  intro s terminal h isOpen taken
  obtain ⟨h₁, front, back⟩ := taken.of_append
  rw [Op.bind_of_ok (hfirst s terminal h₁ isOpen front)]
  exact hnext _ terminal h isOpen back

theorem justTypes_sendBytes (bytes : Bytes) : JustTypes (σ := σ) [bytes] (sendBytes bytes) := by
  intro s terminal h isOpen taken
  cases taken with
  | cons now later =>
    cases later
    rw [sendBytes_of_open isOpen]
    exact Op.demand_of_run now

theorem justTypes_sendChunks (lines : List (List Char)) :
    JustTypes (σ := σ) (lines.map lineBytes) (sendChunks (lines.map .ok)) := by
  induction lines with
  | nil =>
    intro s terminal h isOpen taken
    cases taken
    rfl
  | cons line rest ih => exact (justTypes_sendBytes _).bind ih

theorem justTypes_typeSource {source : Chunker} {lines : List (List Char)}
    (whole : source.lines = lines.map .ok) (path : List Char) (m : Mark) :
    JustTypes (σ := σ) (uploadBytes path m lines) (typeSource source path m) := by
  have ends := (justTypes_sendBytes (σ := σ) (lineBytes [])).bind (justTypes_sendBytes [4])
  have chunks := (justTypes_sendChunks (σ := σ) lines).bind ends
  unfold typeSource
  rw [whole]
  exact (justTypes_sendBytes _).bind chunks

/-! ## Waiting -/

def awaitMark (shell : Pattern) (m : Mark) (deadline : Deadline) : Op σ Session Unit := do
  foldLines false (fun _ line => pure (.ok (passOver m line))) deadline ()
  discard (expect shell deadline)

/-! ## Sending a file -/

variable {shell : Pattern} {source : Chunker} {path : List Char} {m : Mark} {deadline : Deadline}

theorem upload_eq : (upload shell source path m deadline : Op σ Session Unit) =
    typeSource source path m >>= fun _ => awaitMark shell m deadline := by
  simp only [upload, typeSource, awaitMark, bind_assoc]

theorem typeSource_of_upload {s s' : On σ Session}
    (h : upload shell source path m deadline s = .ok () s') :
    ∃ s₁, typeSource source path m s = .ok () s₁ := by
  rw [upload_eq] at h
  obtain ⟨_, s₁, typed, -⟩ := Op.bind_eq_ok h
  exact ⟨s₁, typed⟩

end SerialConsole.Session
