import SerialConsole.Proofs.Session.Intake
import SerialConsole.Proofs.Transfer.Base64

/-!
# Receiving a file

A console that prints the typed command, the base64 forms of consecutive pieces of a file and the
mark gives the file back, whatever it prints before the command and whatever blanks it puts around
the pieces and between them (`download_spaced`).
-/

namespace SerialConsole.Session

open Text (Blank)

/-- Lines that hold some texts in order, with blanks around them and blank lines between them. -/
inductive Spaced : List (List Char) → List (List Char) → Prop
  | nil : Spaced [] []
  | blank {line : List Char} {texts lines : List (List Char)} (blank : Blank line)
      (rest : Spaced texts lines) : Spaced texts (line :: lines)
  | text {before text after : List Char} {texts lines : List (List Char)}
      (blankBefore : Blank before) (blankAfter : Blank after) (rest : Spaced texts lines) :
      Spaced (text :: texts) ((before ++ text ++ after) :: lines)

variable {σ : Type} {m : Mark} {file : String} {line : List Char}

/-! ## Lines that hold pieces -/

theorem count_blank (h : Blank line) : line.count '=' = 0 := by
  rw [List.count_eq_zero]
  intro found
  have blank := h '=' found
  revert blank
  decide

theorem classify_encode {before after : List Char} (hbefore : Blank before) (hafter : Blank after)
    (bytes : Bytes) : m.classify (before ++ Base64.encode bytes ++ after) = .content := by
  refine Mark.classify_eq_content.mpr (Mark.not_infix_of_count ?_)
  have few : (Base64.encode bytes).count '=' ≤ 2 := Base64.count_padding_encode bytes
  rw [List.count_append, List.count_append, count_blank hbefore, count_blank hafter]
  omega

theorem classify_blank (h : Blank line) : m.classify line = .content := by
  refine Mark.classify_eq_content.mpr (Mark.not_infix_of_count ?_)
  rw [count_blank h]
  decide

theorem carries_blank (h : Blank line) : carries m line = false := by
  rw [carries, Text.trim_eq_nil_iff.mpr h]
  exact Bool.and_false _

theorem carries_encode {before after : List Char} (hbefore : Blank before) (hafter : Blank after)
    {bytes : Bytes} (some : bytes ≠ []) :
    carries m (before ++ Base64.encode bytes ++ after) = true := by
  rw [carries, classify_encode hbefore hafter,
    Text.trim_around hbefore (Base64.solid_encode bytes) hafter]
  simpa using Base64.encode_ne_nil some

theorem Spaced.classify_eq_content {chunks : List Bytes} {texts lines : List (List Char)}
    (spaced : Spaced texts lines) (pieces : texts = chunks.map Base64.encode) :
    ∀ line ∈ lines, m.classify line = .content := by
  induction spaced generalizing chunks with
  | nil => simp
  | blank blank rest ih =>
    exact List.forall_mem_cons.mpr ⟨classify_blank blank, ih pieces⟩
  | text blankBefore blankAfter rest ih =>
    cases chunks with
    | nil => cases pieces
    | cons bytes chunks =>
      obtain ⟨rfl, others⟩ := List.cons.inj pieces
      exact List.forall_mem_cons.mpr ⟨classify_encode blankBefore blankAfter bytes, ih others⟩

theorem Spaced.decodeAll_eq {chunks : List Bytes} {texts lines : List (List Char)}
    (spaced : Spaced texts lines) (pieces : texts = chunks.map Base64.encode) :
    decodeAll (lines.filter (carries m)) = ⟨chunks.flatten, none⟩ := by
  induction spaced generalizing chunks with
  | nil =>
    obtain rfl := List.map_eq_nil_iff.mp pieces.symm
    rfl
  | blank blank rest ih =>
    rw [List.filter_cons_of_neg (by rw [carries_blank blank]; exact Bool.false_ne_true)]
    exact ih pieces
  | @text before _ after _ _ blankBefore blankAfter rest ih =>
    cases chunks with
    | nil => cases pieces
    | cons bytes chunks =>
      obtain ⟨rfl, others⟩ := List.cons.inj pieces
      by_cases none : bytes = []
      · -- an empty piece is a blank line
        subst none
        have blank : Blank (before ++ Base64.encode [] ++ after) := by
          intro c hc
          simp only [Base64.encode, List.append_nil, List.mem_append] at hc
          exact hc.elim (blankBefore c) (blankAfter c)
        rw [List.filter_cons_of_neg (by rw [carries_blank blank]; exact Bool.false_ne_true),
          List.flatten_cons, List.nil_append]
        exact ih others
      · have decoded := Base64.decodeLine_around blankBefore blankAfter bytes
        rw [List.filter_cons_of_pos (carries_encode blankBefore blankAfter none),
          decodeAll_of_ok decoded, ih others]
        rfl

/-! ## The whole file -/

/-- A file whose pieces are printed after the typed command is received, whatever noise there is. -/
theorem download_spaced [Host σ] {shell : Pattern} {path : List Char} {deadline : Deadline}
    {s after : On (Desk σ) Session} {noise answer texts : List (List Char)} {echo : List Char}
    {chunks : List Bytes} {files : String → Option Bytes}
    (answered : Answer (Command.print path m ++ ['\n']) shell m deadline s
      (noise ++ echo :: answer) after)
    (free : ∀ line ∈ noise, ¬ m.text <:+: line) (echoes : m.classify echo = .echo)
    (spaced : Spaced texts answer) (pieces : texts = chunks.map Base64.encode)
    (created : files file = some []) (raw : Bytes) :
    ∃ raw' files', download shell file path m deadline (onDesk raw files s) =
        .ok chunks.flatten.length (onDesk raw' files' after) ∧
      files' file = some chunks.flatten := by
  obtain ⟨begun, last, read, found, sent, reads, ends, prompted⟩ := answered
  obtain ⟨before, reads, ended⟩ := reads.of_append
  cases ended with
  | cons ended rest =>
    cases rest
    have plain : ∀ line ∈ noise, m.classify line = .content := fun line hl =>
      Mark.classify_eq_content.mpr (free line hl)
    have going : ∀ line ∈ noise ++ echo :: answer, m.classify line ≠ .terminator := by
      intro line hl
      obtain noisy | rfl | piece : line ∈ noise ∨ line = echo ∨ line ∈ answer := by simpa using hl
      · simp [plain line noisy]
      · simp [echoes]
      · simp [spaced.classify_eq_content pieces line piece]
    have whole : received m (noise ++ echo :: answer) = ⟨chunks.flatten, none⟩ := by
      rw [received, chosen_of_echo plain echoes]
      exact spaced.decodeAll_eq pieces
    obtain ⟨raw', s₁, there, ran⟩ := download_of_reads shell file path m files sent reads going
      ended (Mark.classify_eq_terminator.mpr ends) whole [] raw
    rw [there rfl, Desk.holding_self created, List.nil_append, Decoded.result_of_none rfl,
      ending_ok, Op.map_of_ok prompted] at ran
    exact ⟨raw', _, ran, Desk.holding_path file chunks.flatten files⟩

end SerialConsole.Session
