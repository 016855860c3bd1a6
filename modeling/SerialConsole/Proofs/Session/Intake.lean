import SerialConsole.Proofs.Desk
import SerialConsole.Proofs.Session.Reads
import SerialConsole.Rehearsal.Basic
import SerialConsole.Session.Files

/-!
# What is received

Whether a console shows the typed command is known only once it has done so. So lines are kept until
then, and decoded at the end if it never does. `chosen` says which lines that comes to, and
`download_chosen` that a file is received from them and from no others.
-/

namespace SerialConsole.Session

variable {σ α : Type} {m : Mark} {file : String} {line : List Char}

/-! ## The lines that count -/

def carries (m : Mark) (line : List Char) : Bool :=
  m.classify line = .content && !(Text.trim line).isEmpty

/-- Of the lines before the mark, those that hold the file: they come after the first one that shows
the typed command, or anywhere if none does. -/
def chosen (m : Mark) (lines : List (List Char)) : List (List Char) :=
  match lines.dropWhile (m.classify · ≠ .echo) with
  | [] => lines.filter (carries m)
  | _ :: after => after.filter (carries m)

theorem chosen_of_plain {lines : List (List Char)}
    (plain : ∀ line ∈ lines, m.classify line = .content) :
    chosen m lines = lines.filter (carries m) := by
  have none : lines.dropWhile (m.classify · ≠ .echo) = [] :=
    List.dropWhile_eq_nil_iff.mpr fun line hl => by simp [plain line hl]
  rw [chosen, none]

theorem chosen_of_echo {before after : List (List Char)} {echo : List Char}
    (plain : ∀ line ∈ before, m.classify line = .content) (echoes : m.classify echo = .echo) :
    chosen m (before ++ echo :: after) = after.filter (carries m) := by
  have first : (before ++ echo :: after).dropWhile (m.classify · ≠ .echo) = echo :: after := by
    rw [List.dropWhile_append_of_pos fun line hl => by simp [plain line hl],
      List.dropWhile_cons_of_neg (by simpa using echoes)]
  rw [chosen, first]

/-- Lines of which none is the last either do not show the typed command, or do so for a first
time. -/
theorem plain_or_echo {lines : List (List Char)}
    (going : ∀ line ∈ lines, m.classify line ≠ .terminator) :
    (∀ line ∈ lines, m.classify line = .content) ∨
      ∃ before echo after, lines = before ++ echo :: after ∧
        (∀ line ∈ before, m.classify line = .content) ∧ m.classify echo = .echo ∧
          ∀ line ∈ after, m.classify line ≠ .terminator := by
  have content (line : List Char) (hl : line ∈ lines) (silent : m.classify line ≠ .echo) :
      m.classify line = .content := by
    cases kind : m.classify line with
    | terminator => exact absurd kind (going line hl)
    | echo => exact absurd kind silent
    | content => rfl
  cases found : lines.find? (m.classify · = .echo) with
  | none =>
    have silent := List.find?_eq_none.mp found
    exact .inl fun line hl => content line hl (by simpa using silent line hl)
  | some echo =>
    obtain ⟨echoes, before, after, rfl, silent⟩ := List.find?_eq_some_iff_append.mp found
    refine .inr ⟨before, echo, after, rfl, fun line hl => ?_, by simpa using echoes,
      fun line hl => going line (by simp [hl])⟩
    exact content line (by simp [hl]) (by simpa using silent line hl)

/-! ## Decoding lines -/

def unreadable (line : List Char) (fault : Base64.Fault) : Failure :=
  .other s!"invalid base64 line {Text.quoted (String.ofList line)}: {fault.message}"

/-- The bytes of some lines up to the first that cannot be decoded, and the failure at that one. -/
structure Decoded where
  bytes : Bytes
  failure? : Option Failure
  deriving DecidableEq, Repr

def decodeAll : List (List Char) → Decoded
  | [] => ⟨[], none⟩
  | line :: rest =>
    match Base64.decodeLine line with
    | .ok bytes => ⟨bytes ++ (decodeAll rest).bytes, (decodeAll rest).failure?⟩
    | .error fault => ⟨[], some (unreadable line fault)⟩

/-- The end of an operation that would come to a value if every line could be decoded. -/
def Decoded.result (decoded : Decoded) (value : α) : Except Failure α :=
  match decoded.failure? with
  | none => .ok value
  | some e => .error e

theorem Decoded.result_of_none {decoded : Decoded} (h : decoded.failure? = none) (value : α) :
    decoded.result value = .ok value := by
  rw [result, h]

theorem Decoded.result_of_some {decoded : Decoded} {e : Failure} (h : decoded.failure? = some e)
    (value : α) : decoded.result value = .error e := by
  rw [result, h]

/-- What the lines before the mark hold of a file. -/
def received (m : Mark) (lines : List (List Char)) : Decoded := decodeAll (chosen m lines)

theorem decodeAll_of_ok {rest : List (List Char)} {bytes : Bytes}
    (h : Base64.decodeLine line = .ok bytes) :
    decodeAll (line :: rest) = ⟨bytes ++ (decodeAll rest).bytes, (decodeAll rest).failure?⟩ := by
  rw [decodeAll, h]

theorem decodeAll_of_error {rest : List (List Char)} {fault : Base64.Fault}
    (h : Base64.decodeLine line = .error fault) :
    decodeAll (line :: rest) = ⟨[], some (unreadable line fault)⟩ := by
  rw [decodeAll, h]

/-! ## Taking a line in -/

section Line

variable [Host σ] {d : Intake}

theorem takeIn_terminator (h : m.classify line = .terminator) :
    (takeIn file m d line : StateM σ _) = pure (.ok (.done d)) := by
  rw [takeIn, h]

theorem takeIn_echo (h : m.classify line = .echo) :
    (takeIn file m d line : StateM σ _) =
      pure (.ok (.more { d with echoed := true, early := [] })) := by
  rw [takeIn, h]

theorem takeIn_blank (h : m.classify line = .content) (blank : carries m line = false) :
    (takeIn file m d line : StateM σ _) = pure (.ok (.more d)) := by
  have empty : (Text.trim line).isEmpty = true := by simpa [carries, h] using blank
  simp only [takeIn, h]
  rw [if_pos empty]

theorem takeIn_pass (going : m.classify line ≠ .terminator) (passed : carries m line = false)
    (written : Nat) :
    (takeIn file m { echoed := true, written := written } line : StateM σ _) =
      pure (.ok (.more { echoed := true, written := written })) := by
  cases kind : m.classify line with
  | terminator => exact absurd kind going
  -- the command shows again: there are no lines left to drop
  | echo => exact takeIn_echo kind
  | content => exact takeIn_blank kind passed

theorem takeIn_early (carried : carries m line = true) (early : d.echoed = false) :
    (takeIn file m d line : StateM σ _) =
      pure (.ok (.more { d with early := line :: d.early })) := by
  obtain ⟨content, some⟩ : m.classify line = .content ∧ Text.trim line ≠ [] := by
    simpa [carries] using carried
  simp only [takeIn, content]
  rw [if_neg (by simpa using some), if_neg (by simp [early])]

theorem takeIn_echoed (carried : carries m line = true) (echoed : d.echoed = true) :
    (takeIn file m d line : StateM σ _) =
      (fun written => written.map fun n => .more { d with written := d.written + n }) <$>
        appendLine file line := by
  obtain ⟨content, some⟩ : m.classify line = .content ∧ Text.trim line ≠ [] := by
    simpa [carries] using carried
  simp only [takeIn, content]
  rw [if_neg (by simpa using some), if_pos echoed]
  rfl

theorem appendLine_of_ok (file : String) {bytes : Bytes} (h : Base64.decodeLine line = .ok bytes)
    (content : Bytes) (files : String → Option Bytes) (console : σ) :
    (appendLine file line).run (Desk.mk console (Desk.holding file content files)) =
      (.ok bytes.length, Desk.mk console (Desk.holding file (content ++ bytes) files)) := by
  have added := Desk.put_holding file content (content ++ bytes) files console
  unfold appendLine
  rw [h]
  refine Prod.ext rfl (Eq.trans ?_ added)
  show Desk.put file ((Desk.holding file content files file).getD [] ++ bytes) _ = _
  rw [Desk.holding_path]
  rfl

theorem appendLine_of_error {fault : Base64.Fault} (h : Base64.decodeLine line = .error fault) :
    (appendLine file line : StateM σ _) = pure (.error (unreadable line fault)) := by
  rw [appendLine, h]
  rfl

end Line

/-! ## Taking lines in -/

section Loop

variable [Host σ] {deadline : Deadline} {s s' : On (Desk σ) Session}
  {files : String → Option Bytes} {lines : List (List Char)}

theorem foldLines_onDesk {s₁ : On (Desk σ) Session} {d : Intake} {taken : Except Failure _}
    {after : String → Option Bytes} (read : readLine deadline s = .ok line s₁)
    (ran : ∀ console : σ, (takeIn file m d line).run (Desk.mk console files) =
      (taken, Desk.mk console after)) (raw : Bytes) :
    foldLines false (takeIn file m) deadline d (onDesk raw files s) =
      continued false (takeIn file m) deadline (onDesk [] after s₁) taken := by
  obtain ⟨raw', read'⟩ := readLine_onDesk raw files read
  have there : (takeIn file m d line).run (onDesk raw' files s₁).world.host = _ :=
    ran s₁.world.host.console
  rw [foldLines_of_readLine read', there]
  rfl

theorem foldLines_more {s₁ : On (Desk σ) Session} {d d' : Intake}
    {after : String → Option Bytes} (read : readLine deadline s = .ok line s₁)
    (ran : ∀ console : σ, (takeIn file m d line).run (Desk.mk console files) =
      (.ok (.more d'), Desk.mk console after)) (raw : Bytes) :
    foldLines false (takeIn file m) deadline d (onDesk raw files s) =
      foldLines false (takeIn file m) deadline d' (onDesk [] after s₁) :=
  foldLines_onDesk read ran raw

variable (file files)

theorem foldLines_early (reads : Reads deadline s lines s')
    (plain : ∀ line ∈ lines, m.classify line = .content) (early : List (List Char)) (raw : Bytes) :
    ∃ raw', foldLines false (takeIn file m) deadline { early := early } (onDesk raw files s) =
      foldLines false (takeIn file m) deadline
        { early := (lines.filter (carries m)).reverse ++ early } (onDesk raw' files s') := by
  induction reads generalizing early raw with
  | nil => exact ⟨raw, rfl⟩
  | @cons _ s₁ _ line lines read rest ih =>
    have content : m.classify line = .content := plain line List.mem_cons_self
    have others : ∀ line ∈ lines, m.classify line = .content :=
      fun l hl => plain l (List.mem_cons_of_mem _ hl)
    cases carried : carries m line with
    | false =>
      obtain ⟨raw', later⟩ := ih others early []
      rw [List.filter_cons_of_neg (by simp [carried])]
      refine ⟨raw', (foldLines_more read (fun _ => ?_) raw).trans later⟩
      rw [takeIn_blank content carried]
      rfl
    | true =>
      obtain ⟨raw', later⟩ := ih others (line :: early) []
      rw [List.filter_cons_of_pos carried, List.reverse_cons, List.append_assoc]
      refine ⟨raw', (foldLines_more read (fun _ => ?_) raw).trans later⟩
      rw [takeIn_early carried rfl]
      rfl

/-- Once it has shown, they are decoded as they come, up to the first that cannot be decoded. -/
theorem foldLines_echoed {out : Decoded} (reads : Reads deadline s lines s')
    (going : ∀ line ∈ lines, m.classify line ≠ .terminator)
    (decodes : decodeAll (lines.filter (carries m)) = out) (written : Nat) (content raw : Bytes) :
    ∃ raw' s₁, (out.failure? = none → s₁ = s') ∧
      foldLines false (takeIn file m) deadline { echoed := true, written := written }
          (onDesk raw (Desk.holding file content files) s) =
        continued false (takeIn file m) deadline
          (onDesk raw' (Desk.holding file (content ++ out.bytes) files) s₁)
          (out.result (.more { echoed := true, written := written + out.bytes.length })) := by
  subst decodes
  -- on what is read; the file holds what the lines so far decode to
  induction reads generalizing written content raw with
  | nil s =>
    refine ⟨raw, s, fun _ => rfl, ?_⟩
    simp only [List.filter_nil, decodeAll, Decoded.result, List.append_nil, List.length_nil]
    rfl
  | @cons _ s₁ _ line lines read rest ih =>
    have others : ∀ line ∈ lines, m.classify line ≠ .terminator :=
      fun l hl => going l (List.mem_cons_of_mem _ hl)
    cases carried : carries m line with
    | false =>
      obtain ⟨raw', s₂, found, later⟩ := ih others written content []
      rw [List.filter_cons_of_neg (by simp [carried])]
      refine ⟨raw', s₂, found, (foldLines_more read (fun _ => ?_) raw).trans later⟩
      rw [takeIn_pass (going line List.mem_cons_self) carried]
      rfl
    | true =>
      rw [List.filter_cons_of_pos carried]
      cases decoded : Base64.decodeLine line with
      | error fault =>
        rw [decodeAll_of_error decoded, List.append_nil]
        refine ⟨[], s₁, nofun, foldLines_onDesk read (fun _ => ?_) raw⟩
        rw [takeIn_echoed carried rfl, appendLine_of_error decoded]
        rfl
      | ok bytes =>
        rw [decodeAll_of_ok decoded]
        obtain ⟨raw', s₂, found, later⟩ := ih others (written + bytes.length) (content ++ bytes) []
        rw [List.append_assoc, Nat.add_assoc] at later
        refine ⟨raw', s₂, found, ?_⟩
        rw [List.length_append]
        refine (foldLines_more read (fun console => ?_) raw).trans later
        have appended := appendLine_of_ok file decoded content files console
        rw [takeIn_echoed carried rfl, StateT.run_map, appended]
        rfl

theorem foldLines_shown {before after : List (List Char)} {echo : List Char} {out : Decoded}
    (reads : Reads deadline s (before ++ echo :: after) s')
    (plain : ∀ line ∈ before, m.classify line = .content) (echoes : m.classify echo = .echo)
    (going : ∀ line ∈ after, m.classify line ≠ .terminator)
    (decodes : decodeAll (after.filter (carries m)) = out) (content raw : Bytes) :
    ∃ raw' s₁, (out.failure? = none → s₁ = s') ∧
      foldLines false (takeIn file m) deadline {}
          (onDesk raw (Desk.holding file content files) s) =
        continued false (takeIn file m) deadline
          (onDesk raw' (Desk.holding file (content ++ out.bytes) files) s₁)
          (out.result (.more { echoed := true, written := out.bytes.length })) := by
  subst decodes
  obtain ⟨s₂, kept, rest⟩ := reads.of_append
  cases rest with
  | @cons _ s₃ _ _ _ read rest =>
    obtain ⟨raw₂, early⟩ :=
      foldLines_early file (Desk.holding file content files) kept plain [] raw
    have shown : foldLines false (takeIn file m) deadline
        { early := (before.filter (carries m)).reverse ++ [] }
        (onDesk raw₂ (Desk.holding file content files) s₂) =
          foldLines false (takeIn file m) deadline { echoed := true }
            (onDesk [] (Desk.holding file content files) s₃) :=
      foldLines_more read (fun _ => by rw [takeIn_echo echoes]; rfl) raw₂
    obtain ⟨raw', s₁, found, later⟩ := foldLines_echoed file files rest going rfl 0 content []
    rw [Nat.zero_add] at later
    exact ⟨raw', s₁, found, early.trans (shown.trans later)⟩

end Loop

/-! ## The whole file -/

section Whole

variable [Host σ] (shell : Pattern) (file : String) (path : List Char) (m : Mark)
  {deadline : Deadline} (files : String → Option Bytes)

theorem appendLines_onDesk (lines : List (List Char)) (written : Nat) (content raw : Bytes)
    (s : On (Desk σ) Session) :
    appendLines file written lines (onDesk raw (Desk.holding file content files) s) =
      Op.conclude ((decodeAll lines).result (written + (decodeAll lines).bytes.length))
        (onDesk raw (Desk.holding file (content ++ (decodeAll lines).bytes) files) s) := by
  induction lines generalizing written content with
  | nil =>
    rw [decodeAll, List.append_nil]
    rfl
  | cons line rest ih =>
    rw [appendLines]
    cases decoded : Base64.decodeLine line with
    | error fault =>
      rw [appendLine_of_error decoded, decodeAll_of_error decoded, List.append_nil]
      rfl
    | ok bytes =>
      have appended := appendLine_of_ok file decoded content files s.world.host.console
      have step : Op.host (appendLine file line)
          (onDesk raw (Desk.holding file content files) s) =
            .ok (.ok bytes.length) (onDesk raw (Desk.holding file (content ++ bytes) files) s) :=
        Op.host_of_run appended
      rw [decodeAll_of_ok decoded, List.length_append, ← List.append_assoc, ← Nat.add_assoc]
      exact (Op.bind_of_ok step).trans (ih (written + bytes.length) (content ++ bytes))

def wrapUp (shell : Pattern) (file : String) (deadline : Deadline) (d : Intake) :
    Op σ Session Nat := do
  let written ← appendLines file d.written d.early.reverse
  Op.demand (Host.flushFile file) .io
  discard (expect shell deadline)
  return written

/-- How receiving ends: the prompt is waited for if every line could be decoded. -/
def ending (shell : Pattern) (deadline : Deadline) (result : Except Failure Nat) :
    Op σ Session Nat := do
  let written ← Op.conclude result
  discard (expect shell deadline)
  return written

theorem ending_ok (written : Nat) (s : On σ Session) :
    ending shell deadline (.ok written) s = ((fun _ => written) <$> expect shell deadline) s := by
  have begun : ending shell deadline (.ok written) s =
      (((fun _ => ()) <$> expect shell deadline) >>= fun _ => pure written) s := rfl
  rw [begun, Op.bind_apply, Op.map_apply, Op.map_apply]
  cases expect shell deadline s <;> rfl

variable (deadline) in
theorem ending_onDesk (result : Except Failure Nat) (raw : Bytes) (s : On (Desk σ) Session) :
    ∃ raw', ending shell deadline result (onDesk raw files s) =
      endsOnDesk raw' files (ending shell deadline result s) := by
  cases result with
  | error e => exact ⟨raw, rfl⟩
  | ok written =>
    obtain ⟨raw', prompted⟩ : ∃ raw', expect shell deadline (onDesk raw files s) =
        endsOnDesk raw' files (expect shell deadline s) := expect_onDesk raw files shell s
    refine ⟨raw', ?_⟩
    rw [ending_ok, ending_ok, Op.map_apply, Op.map_apply, prompted]
    cases expect shell deadline s <;> rfl

theorem wrapUp_onDesk (d : Intake) {out : Decoded} (decodes : decodeAll d.early.reverse = out)
    (content raw : Bytes) (s : On (Desk σ) Session) :
    ∃ raw', wrapUp shell file deadline d (onDesk raw (Desk.holding file content files) s) =
      endsOnDesk raw' (Desk.holding file (content ++ out.bytes) files)
        (ending shell deadline (out.result (d.written + out.bytes.length)) s) := by
  have appended := appendLines_onDesk file files d.early.reverse d.written content raw s
  obtain ⟨raw', ended⟩ := ending_onDesk shell deadline
    (Desk.holding file (content ++ out.bytes) files) (out.result (d.written + out.bytes.length))
    raw s
  refine ⟨raw', Eq.trans ?_ ended⟩
  unfold wrapUp
  rw [Op.bind_apply, appended, decodes]
  cases failed : out.failure? with
  | none =>
    rw [out.result_of_none failed]
    exact Op.bind_of_ok (Op.demand_of_ok rfl)
  | some e =>
    rw [out.result_of_some failed]
    rfl

theorem download_steps (deadline : Deadline) : download shell file path m deadline =
      (do
        sendLine (Command.print path m)
        let d ← foldLines false (takeIn file m) deadline {}
        wrapUp shell file deadline d : Op σ Session Nat) := rfl

/-- Once the typed command shows, a line that cannot be decoded ends it all. -/
theorem download_of_unreadable {s begun read : On (Desk σ) Session}
    {before after : List (List Char)} {echo : List Char} {e : Failure} {out : Decoded}
    (sent : sendLine (Command.print path m) s = .ok () begun)
    (reads : Reads deadline begun (before ++ echo :: after) read)
    (plain : ∀ line ∈ before, m.classify line = .content) (echoes : m.classify echo = .echo)
    (going : ∀ line ∈ after, m.classify line ≠ .terminator)
    (decodes : decodeAll (after.filter (carries m)) = out) (failed : out.failure? = some e)
    (content raw : Bytes) :
    ∃ raw' s₁, download shell file path m deadline
        (onDesk raw (Desk.holding file content files) s) =
      .error e (onDesk raw' (Desk.holding file (content ++ out.bytes) files) s₁) := by
  have typed := send_onDesk raw (Desk.holding file content files) sent
  obtain ⟨raw', s₁, -, folded⟩ :=
    foldLines_shown file files reads plain echoes going decodes content raw
  rw [out.result_of_some failed] at folded
  rw [download_steps]
  exact ⟨raw', s₁, (Op.bind_of_ok typed).trans (Op.bind_of_error folded)⟩

/-- Whether the typed command shows or not, what the chosen lines hold is what is received. -/
theorem download_of_reads {s begun read after : On (Desk σ) Session} {lines : List (List Char)}
    {last : List Char} {out : Decoded}
    (sent : sendLine (Command.print path m) s = .ok () begun)
    (reads : Reads deadline begun lines read)
    (going : ∀ line ∈ lines, m.classify line ≠ .terminator)
    (ended : readLine deadline read = .ok last after) (ends : m.classify last = .terminator)
    (decodes : received m lines = out) (content raw : Bytes) :
    ∃ raw' s₁, (out.failure? = none → s₁ = after) ∧
      download shell file path m deadline (onDesk raw (Desk.holding file content files) s) =
        endsOnDesk raw' (Desk.holding file (content ++ out.bytes) files)
          (ending shell deadline (out.result out.bytes.length) s₁) := by
  have typed := send_onDesk raw (Desk.holding file content files) sent
  have closed {d : Intake} (raw : Bytes) (files : String → Option Bytes) :
      foldLines false (takeIn file m) deadline d (onDesk raw files read) =
        .ok d (onDesk [] files after) := by
    have done (console : σ) : (takeIn file m d last).run (Desk.mk console files) =
        (.ok (.done d), Desk.mk console files) := by
      rw [takeIn_terminator ends]
      rfl
    exact foldLines_onDesk ended done raw
  obtain plain | ⟨before, echo, later, rfl, plain, echoes, rest⟩ := plain_or_echo going
  · -- the typed command does not show, so every line is kept until the mark
    rw [received, chosen_of_plain plain] at decodes
    obtain ⟨raw₁, kept⟩ :=
      foldLines_early file (Desk.holding file content files) reads plain [] raw
    rw [List.append_nil] at kept
    have stored : decodeAll (lines.filter (carries m)).reverse.reverse = out := by
      rw [List.reverse_reverse, decodes]
    obtain ⟨raw', ended⟩ := wrapUp_onDesk shell file files
      { early := (lines.filter (carries m)).reverse } stored content [] after
    rw [Nat.zero_add] at ended
    refine ⟨raw', after, fun _ => rfl, ?_⟩
    rw [download_steps]
    exact (Op.bind_of_ok typed).trans ((Op.bind_of_ok (kept.trans (closed raw₁ _))).trans ended)
  · rw [received, chosen_of_echo plain echoes] at decodes
    cases failed : out.failure? with
    | some e =>
      obtain ⟨raw', s₁, broken⟩ := download_of_unreadable shell file path m files sent reads plain
        echoes rest decodes failed content raw
      rw [out.result_of_some failed]
      exact ⟨raw', s₁, nofun, broken⟩
    | none =>
      -- nothing is kept any more when the mark comes
      obtain ⟨raw₁, s₁, found, folded⟩ :=
        foldLines_shown file files reads plain echoes rest decodes content raw
      obtain rfl := found failed
      rw [out.result_of_none failed] at folded
      have nothing : decodeAll [] = ⟨[], none⟩ := rfl
      obtain ⟨raw', ended⟩ := wrapUp_onDesk shell file files
        { echoed := true, written := out.bytes.length } nothing (content ++ out.bytes) [] after
      rw [List.append_nil, Decoded.result_of_none rfl, List.length_nil, Nat.add_zero] at ended
      refine ⟨raw', after, fun _ => rfl, ?_⟩
      rw [download_steps, out.result_of_none failed]
      exact (Op.bind_of_ok typed).trans
        ((Op.bind_of_ok (folded.trans (closed raw₁ _))).trans ended)

end Whole

/-- A file is received from the chosen lines before the mark: it gets their bytes up to the first
that cannot be decoded, with which receiving fails, or all of them, which are counted when the
prompt has come. If the typed command shows, such a line ends it all at once, whatever follows. -/
theorem download_chosen [Host σ] (shell : Pattern) {path : List Char} {deadline : Deadline}
    {s begun read : On (Desk σ) Session} {lines : List (List Char)} {content : Bytes}
    (sent : sendLine (Command.print path m) s = .ok () begun)
    (held : s.world.host.files file = some content) (reads : Reads deadline begun lines read)
    (going : ∀ line ∈ lines, m.terminates line = false) :
    (∀ last after, readLine deadline read = .ok last after → m.terminates last = true →
      (download shell file path m deadline).outcome s =
          (match (received m lines).failure? with
            | none => ((expect shell deadline).outcome after).map fun _ =>
                (received m lines).bytes.length
            | some e => .error e) ∧
        ((download shell file path m deadline).final s).world.host.files =
          Desk.holding file (content ++ (received m lines).bytes) s.world.host.files) ∧
    ∀ e, (∃ echo ∈ lines, m.classify echo = .echo) → (received m lines).failure? = some e →
      (download shell file path m deadline).outcome s = .error e ∧
        ((download shell file path m deadline).final s).world.host.files =
          Desk.holding file (content ++ (received m lines).bytes) s.world.host.files := by
  have going' : ∀ line ∈ lines, m.classify line ≠ .terminator := fun line hl => by
    rw [ne_eq, Mark.classify_eq_terminator, going line hl]
    exact Bool.false_ne_true
  have here : onDesk s.subject.buffer.raw (Desk.holding file content s.world.host.files) s = s := by
    rw [Desk.holding_self held]
    rfl
  constructor
  · intro last after ended ends
    obtain ⟨raw', s₁, found, ran⟩ := download_of_reads shell file path m s.world.host.files sent
      reads going' ended (Mark.classify_eq_terminator.mpr ends) rfl content s.subject.buffer.raw
    rw [here] at ran
    obtain ⟨outcome, files⟩ := outcome_of_endsOnDesk ran
    refine ⟨outcome.trans ?_, files⟩
    cases failed : (received m lines).failure? with
    | some e =>
      rw [Decoded.result_of_some failed]
      rfl
    | none =>
      rw [Decoded.result_of_none failed, found failed, ← Op.outcome_map]
      simp only [Op.outcome, ending_ok]
  · rintro e ⟨echo, shows, echoes⟩ failed
    obtain plain | ⟨before, echo, later, rfl, plain, first, rest⟩ := plain_or_echo going'
    · exact absurd ((plain echo shows).symm.trans echoes) nofun
    · have chosen :
          decodeAll (later.filter (carries m)) = received m (before ++ echo :: later) := by
        rw [received, chosen_of_echo plain first]
      obtain ⟨raw', s₁, broken⟩ := download_of_unreadable shell file path m s.world.host.files sent
        reads plain first rest chosen failed content s.subject.buffer.raw
      rw [here] at broken
      rw [Op.outcome, Op.final, broken]
      exact ⟨rfl, rfl⟩

/-- A console that has printed some text, and an empty file beside it. -/
def showing (text : List Char) : On (Desk Rehearsal) Session where
  subject :=
    { launch := ⟨"virtctl", ["console", "vm"], ⟨24, 80⟩⟩
      terminal := some { process := 0 }
      buffer := { pending := text } }
  world := { host := { console := {}, files := fun _ => some [] } }

/-- Noise, the typed command, and a greeting in two lines with the command again between them. -/
def greetingLines (m : Mark) : List (List Char) :=
  ["login: ok".toList, "printf ".toList ++ m.text, " aGk=".toList, [], "printf ".toList ++ m.text,
    "IQ==\t".toList]

theorem download_greeting :
    let m := Rehearsal.nthMark 0
    let shell : Pattern := ⟨"# ", ⟨#[.accept, .one (.single ' ') 0, .one (.single '#') 1], 2⟩⟩
    let act : Op (Desk Rehearsal) Session Nat :=
      download shell "copy" "f".toList m (.after 0 (.ofMillis 1000))
    let s := showing (Command.join (greetingLines m) ++ (m.text ++ "\n# ".toList))
    act.outcome s = .ok 3 ∧ (act.final s).world.host.files "copy" = some [104, 105, 33] := by
  intro m shell act s
  have whole : received m (greetingLines m) = ⟨[104, 105, 33], none⟩ := by decide +kernel
  have sent : sendLine (Command.print "f".toList m) s = .ok () s := rfl
  have reads : Reads (.after 0 (.ofMillis 1000)) s (greetingLines m)
      (withText s (m.text ++ "\n# ".toList)) := reads_of_pending rfl rfl (by decide +kernel)
  have ended : readLine (.after 0 (.ofMillis 1000)) (withText s (m.text ++ "\n# ".toList)) =
      .ok m.text (withText s "# ".toList) :=
    await_of_found rfl (Output.Buffer.takeLine_of_line rfl m.newline_not_mem_text)
  have prompt : (withText s "# ".toList).subject.buffer.takeMatch shell =
      some (⟨[], "# ".toList⟩, {}) := by decide +kernel
  have prompted : expect shell (.after 0 (.ofMillis 1000)) (withText s "# ".toList) =
      .ok ⟨[], "# ".toList⟩ (withText s []) := await_of_found rfl prompt
  have seen : (expect shell (.after 0 (.ofMillis 1000))).outcome (withText s "# ".toList) =
      .ok ⟨[], "# ".toList⟩ := by rw [Op.outcome, prompted]
  have held : s.world.host.files "copy" = some [] := rfl
  obtain ⟨received, -⟩ := download_chosen shell sent held reads (by decide +kernel)
  obtain ⟨outcome, files⟩ := received _ _ ended m.terminates_text
  rw [whole] at outcome files
  rw [seen] at outcome
  exact ⟨outcome, (congrFun files "copy").trans (Desk.holding_path _ _ _)⟩

end SerialConsole.Session
