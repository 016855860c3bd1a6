import SerialConsole.Proofs.Transfer.Chunks
import SerialConsole.Settings.Check

/-!
# What a chunked source answers

A source is sent in consecutive chunks that are all full but for the last, and a failure comes
after the full ones (`answers_ofSource`). Encoded, a chunk of a size that the settings may have fits
into a line of a terminal.
-/

namespace SerialConsole

/-- Bytes cut into consecutive parts of one size, of which the last may be shorter. -/
structure Cut (size : Nat) (bytes : Bytes) (parts : List Bytes) : Prop where
  whole : parts.flatten = bytes
  full : ∀ part ∈ parts.dropLast, part.length = size
  some : ∀ part ∈ parts, part ≠ []
  bounded : ∀ part ∈ parts, part.length ≤ size

theorem full_of_mem_dropLast {size : Nat} {bytes part : Bytes}
    (h : part ∈ (chunks size bytes).dropLast) : part.length = size := by
  fun_induction chunks size bytes with
  | case1 bytes none => cases h
  | case2 bytes some ih =>
    by_cases last : chunks size (bytes.drop size) = []
    · rw [last] at h
      cases h
    · rw [List.dropLast_cons_of_ne_nil last] at h
      obtain rfl | later := List.mem_cons.mp h
      · have more : bytes.drop size ≠ [] := fun none => last (by rw [none, chunks_nil])
        have := List.length_pos_iff.mpr more
        rw [List.length_drop] at this
        rw [List.length_take]
        omega
      · exact ih later

section Chunks

variable {size : Nat} (positive : 0 < size) (bytes : Bytes)
include positive

theorem length_chunks : (chunks size bytes).length = (bytes.length + size - 1) / size := by
  fun_induction chunks size bytes with
  | case1 bytes none =>
    obtain rfl | zero := none
    · exact (Nat.div_eq_of_lt (by simp; omega)).symm
    · omega
  | case2 bytes some ih =>
    have : bytes.length ≠ 0 := fun none => some (.inl (List.length_eq_zero_iff.mp none))
    rw [List.length_cons, ih, List.length_drop]
    by_cases more : size ≤ bytes.length
    · have shape : bytes.length + size - 1 = (bytes.length - size + size - 1) + size := by omega
      rw [shape, Nat.add_div_right _ positive]
    · have one : bytes.length + size - 1 = (bytes.length - 1) + size := by omega
      have none : bytes.length - size + size - 1 = size - 1 := by omega
      rw [one, none, Nat.add_div_right _ positive, Nat.div_eq_of_lt (by omega),
        Nat.div_eq_of_lt (by omega)]

theorem bounded_of_mem {part : Bytes} (h : part ∈ chunks size bytes) :
    part ≠ [] ∧ part.length ≤ size := by
  fun_induction chunks size bytes with
  | case1 bytes none => cases h
  | case2 bytes some ih =>
    obtain rfl | later := List.mem_cons.mp h
    · refine ⟨fun none => ?_, List.length_take_le size bytes⟩
      obtain zero | none := List.take_eq_nil_iff.mp none
      · omega
      · exact some (.inl none)
    · exact ih later

theorem cut_chunks : Cut size bytes (chunks size bytes) :=
  ⟨flatten_chunks positive bytes, fun _ => full_of_mem_dropLast,
    fun _ h => (bounded_of_mem positive bytes h).1, fun _ h => (bounded_of_mem positive bytes h).2⟩

/-- A failure comes after the full chunks, of which there are as many as there can be. -/
theorem length_chunks_sent (source : Source) :
    (chunks size (source.sent size)).length = match source.failure? with
      | none => (source.delivered.length + size - 1) / size
      | some _ => source.delivered.length / size := by
  rw [length_chunks positive, Source.sent]
  cases source.failure? with
  | none => rfl
  | some reason =>
    have part : source.delivered.length / size * size ≤ source.delivered.length :=
      Nat.div_mul_le_self _ _
    have shape : source.delivered.length / size * size + size - 1 =
        (size - 1) + source.delivered.length / size * size := by omega
    simp only [List.length_take, Nat.min_eq_left part]
    rw [shape, Nat.add_mul_div_right _ _ positive, Nat.div_eq_of_lt (by omega), Nat.zero_add]

end Chunks

/-- Only sizes of chunks between one byte and the largest are usable. -/
theorem Settings.chunkSize_of_check {s : Settings} (h : s.check = .ok ()) :
    0 < s.transfer.chunkSize ∧ s.transfer.chunkSize ≤ TransferSettings.maxChunkSize := by
  unfold Settings.check at h
  dsimp only at h
  by_cases command : (Text.trim s.console.command.toList).isEmpty = true
  · rw [if_pos command] at h
    cases h
  by_cases size : s.console.rows = 0 ∨ s.console.cols = 0
  · rw [if_neg command, if_pos size] at h
    cases h
  rw [if_neg command, if_neg size] at h
  obtain ⟨patterns, -, h⟩ := Base64.bind_eq_ok h
  obtain ⟨timeouts, -, h⟩ := Base64.bind_eq_ok h
  by_cases bad : s.transfer.chunkSize = 0 ∨ TransferSettings.maxChunkSize < s.transfer.chunkSize
  · rw [if_pos bad] at h
    cases h
  · omega

namespace Chunker

theorem exists_chunk_of_answer {size : Nat} {source : Source} {line : List Char}
    (h : .ok line ∈ answers size source) :
    ∃ chunk ∈ chunks size (source.sent size), line = Base64.encode chunk := by
  rw [answers, List.mem_append] at h
  obtain sent | failed := h
  · obtain ⟨chunk, held, same⟩ := List.mem_map.mp sent
    exact ⟨chunk, held, (Except.ok.inj same).symm⟩
  · cases failure : source.failure? <;> simp [failure] at failed

/-- The bytes that a line of the largest chunk takes on the terminal. -/
theorem length_line_lt {chunk : Bytes} (h : chunk.length ≤ TransferSettings.maxChunkSize) :
    (Text.encode (Base64.encode chunk ++ ['\n'])).length < 4096 := by
  have newline : (Text.encode ['\n']).length = 1 := rfl
  rw [TransferSettings.maxChunkSize] at h
  rw [Text.encode_append, List.length_append, newline, Base64.length_utf8_encode,
    Base64.length_encode]
  omega

/-- A source is answered by the lines of its chunks and the failure that it comes to, and then by
nothing, without being read any more. The chunks are full, and only if the source comes to its end
there may be one after them that is not. How the source hands out its bytes does not matter, and
with settings that are usable each line fits into one of a terminal. -/
theorem answers_ofSource (source : Source) (size : Nat) :
    let chunker := ofSource source size
    let full := max size 1
    let parts := chunks full (source.sent full)
    let answers := parts.map (fun part => .ok (Base64.encode part)) ++
      (source.failure?.map Except.error).toList
    Cut full (source.sent full) parts ∧
      (parts.length = match source.failure? with
        | none => (source.delivered.length + full - 1) / full
        | some _ => source.delivered.length / full) ∧
      chunker.lines = answers ∧
      (∀ count, (chunker.after count).next.1 = answers[count]?) ∧
      (∀ count later, (∀ line, (chunker.after count).next.1 ≠ some (.ok line)) → count < later →
        chunker.after later = { source := source.remains, size := full, done := true }) ∧
      (∀ other : Source, other.delivered = source.delivered → other.failure? = source.failure? →
        ∀ count, ((ofSource other size).after count).next.1 = (chunker.after count).next.1) ∧
      ∀ settings : Settings, settings.check = .ok () → settings.transfer.chunkSize = size →
        ∀ line, .ok line ∈ answers → (Text.encode (line ++ ['\n'])).length < 4096 := by
  intro chunker full parts answers
  have positive : 0 < full := by omega
  refine ⟨cut_chunks positive _, length_chunks_sent positive source, lines_eq source size,
    answer_eq positive source, fun count later => after_end positive source, ?_, ?_⟩
  · intro other delivered failure count
    have same : Chunker.answers full other = Chunker.answers full source := by
      rw [Chunker.answers, Source.sent, delivered, failure, Chunker.answers, Source.sent]
    exact (answer_eq positive other count).trans
      ((congrArg (·[count]?) same).trans (answer_eq positive source count).symm)
  · intro settings usable size_eq line held
    obtain ⟨chunk, sent, rfl⟩ := exists_chunk_of_answer held
    have bounds := settings.chunkSize_of_check usable
    have short : chunk.length ≤ full := (bounded_of_mem positive _ sent).2
    exact length_line_lt (by omega)

/-- The third byte belongs to no full chunk, so the failure takes it along. -/
example : (ofSource [.data [1], .interrupted, .data [2, 3], .failed "gone", .data [4]] 2).lines =
    [.ok "AQI=".toList, .error "gone"] := by
  decide +kernel

end Chunker

end SerialConsole
