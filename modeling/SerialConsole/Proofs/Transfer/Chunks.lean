import SerialConsole.Proofs.Transfer.Base64

/-!
# Chunked sources

However a source hands out its bytes, it is read in chunks of one size: `fill_full` and `fill_short`
say what one attempt to read a chunk comes to, `next_of_full` and `next_of_short` what is answered
after it. So the answers are determined by the bytes before the end or the failure of the source
(`answer_eq`), and so are the lines that it is sent as (`lines_eq`).
-/

namespace SerialConsole

namespace Source

def delivered : Source → Bytes
  | [] => []
  | .interrupted :: rest => delivered rest
  | .failed _ :: _ => []
  | .data bytes :: rest => if bytes = [] then [] else bytes ++ delivered rest

/-- The failure that a source comes to, if it does not come to its end. -/
def failure? : Source → Option String
  | [] => none
  | .interrupted :: rest => failure? rest
  | .failed reason :: _ => some reason
  | .data bytes :: rest => if bytes = [] then none else failure? rest

def remains : Source → Source
  | [] => []
  | .interrupted :: rest => remains rest
  | .failed _ :: rest => rest
  | .data bytes :: rest => if bytes = [] then rest else remains rest

/-- What is left of a source after some of its bytes have been read. -/
structure ReadOff (count : Nat) (source left : Source) : Prop where
  delivered_eq : left.delivered = source.delivered.drop count
  failure_eq : left.failure? = source.failure?
  remains_eq : left.remains = source.remains

theorem length_delivered_le (source : Source) : source.delivered.length ≤ source.weight := by
  induction source with
  | nil => simp [delivered]
  | cons event rest ih =>
    cases event with
    | interrupted =>
        rw [delivered, weight]
        · omega
        · simp
    | failed reason => simp [delivered]
    | data bytes =>
        rw [delivered, weight]
        by_cases none : bytes = []
        · simp [none]
        · rw [if_neg none, List.length_append]
          omega

theorem fill_zero (source : Source) : source.fill 0 = (.ok [], source) := by
  cases source with
  | nil => rfl
  | cons event rest => cases event <;> rfl

theorem fill_full {source : Source} (need : Nat) (enough : need ≤ source.delivered.length) :
    ∃ left, source.fill need = (.ok (source.delivered.take need), left) ∧
      ReadOff need source left := by
  induction source generalizing need with
  | nil =>
    rw [delivered, List.length_nil, Nat.le_zero] at enough
    exact ⟨[], by rw [enough]; rfl, by simp [delivered], rfl, rfl⟩
  | cons event rest ih =>
    by_cases zero : need = 0
    · subst zero
      exact ⟨event :: rest, fill_zero _, rfl, rfl, rfl⟩
    · cases event with
      | interrupted =>
        obtain ⟨left, filled, off⟩ := ih need enough
        refine ⟨left, ?_, off.delivered_eq, off.failure_eq, off.remains_eq⟩
        rw [fill, if_neg zero, filled, delivered]
      | failed reason => exact absurd (Nat.le_zero.mp enough) zero
      | data bytes =>
        by_cases none : bytes = []
        · rw [delivered, if_pos none] at enough
          exact absurd (Nat.le_zero.mp enough) zero
        · rw [delivered, if_neg none, List.length_append] at enough
          rw [fill, if_neg zero, if_neg none, delivered, if_neg none]
          cases beyond : bytes.drop need with
          | nil =>
            have short := List.drop_eq_nil_iff.mp beyond
            obtain ⟨left, filled, off⟩ := ih (need - bytes.length) (by omega)
            refine ⟨left, ?_, ?_, ?_, ?_⟩
            · simp only [filled]
              rw [List.take_append, List.take_of_length_le short]
              rfl
            · rw [off.delivered_eq, delivered, if_neg none, List.drop_append, beyond]
              rfl
            · rw [off.failure_eq, failure?, if_neg none]
            · rw [off.remains_eq, remains, if_neg none]
          | cons byte others =>
            have long : need ≤ bytes.length := by
              by_contra short
              rw [List.drop_eq_nil_of_le (by omega)] at beyond
              cases beyond
            refine ⟨.data (byte :: others) :: rest, ?_, ?_, ?_, ?_⟩
            · rw [List.take_append_of_le_length long]
            · rw [delivered, if_neg (by simp), delivered, if_neg none,
                List.drop_append_of_le_length long, beyond]
            · rw [failure?, if_neg (by simp), failure?, if_neg none]
            · rw [remains, if_neg (by simp), remains, if_neg none]

/-- Otherwise the attempt ends as the source does: bytes before a failure are lost. -/
theorem fill_short {source : Source} (need : Nat) (short : source.delivered.length < need) :
    source.fill need =
      (match source.failure? with
        | none => .ok source.delivered
        | some reason => .error reason, source.remains) := by
  induction source generalizing need with
  | nil => rfl
  | cons event rest ih =>
    have zero : need ≠ 0 := by omega
    cases event with
    | interrupted =>
      rw [fill, if_neg zero]
      exact ih need short
    | failed reason =>
      rw [fill, if_neg zero]
      rfl
    | data bytes =>
      rw [fill, if_neg zero]
      by_cases none : bytes = []
      · simp [delivered, failure?, remains, none]
      · rw [delivered, if_neg none, List.length_append] at short
        rw [if_neg none, delivered, if_neg none, failure?, if_neg none, remains, if_neg none,
          List.drop_eq_nil_of_le (by omega)]
        have later := ih (need - bytes.length) (by omega)
        simp only [later]
        cases failure? rest <;> rfl

/-- The bytes of a source that are sent in chunks: all, or those in full chunks before a failure. -/
def sent (size : Nat) (source : Source) : Bytes :=
  match source.failure? with
  | none => source.delivered
  | some _ => source.delivered.take (source.delivered.length / size * size)

theorem sent_of_sound {source : Source} (sound : source.failure? = none) (size : Nat) :
    source.sent size = source.delivered := by
  rw [sent, sound]

theorem length_sent_le (size : Nat) (source : Source) :
    (source.sent size).length ≤ source.delivered.length := by
  unfold sent
  cases source.failure? with
  | none => exact le_rfl
  | some reason => exact List.length_take_le' _ _

/-- A full chunk is sent first, and then what is sent of the rest. -/
theorem ReadOff.sent_eq {size : Nat} {source left : Source} (off : ReadOff size source left)
    (positive : 0 < size) (full : size ≤ source.delivered.length) :
    (source.sent size).take size = source.delivered.take size ∧
      (source.sent size).drop size = left.sent size := by
  unfold sent
  rw [off.failure_eq, off.delivered_eq]
  cases source.failure? with
  | none => exact ⟨rfl, rfl⟩
  | some reason =>
    have count : source.delivered.length / size * size =
        (source.delivered.length - size) / size * size + size := by
      rw [Nat.div_eq_sub_div positive full, Nat.add_mul, Nat.one_mul]
    simp only [count, List.take_take, List.drop_take, List.length_drop]
    exact ⟨by rw [Nat.min_eq_left (by omega)], by rw [Nat.add_sub_cancel]⟩

theorem sent_of_short {size : Nat} {source : Source} (short : source.delivered.length < size) :
    source.sent size = if source.failure? = none then source.delivered else [] := by
  unfold sent
  cases source.failure? with
  | none => rfl
  | some reason => simp [Nat.div_eq_of_lt short]

end Source

/-- Bytes in consecutive chunks, of which only the last may be shorter. -/
def chunks (size : Nat) (bytes : Bytes) : List Bytes :=
  if bytes = [] ∨ size = 0 then [] else bytes.take size :: chunks size (bytes.drop size)
termination_by bytes.length
decreasing_by
  have : bytes.length ≠ 0 := by
    rw [ne_eq, List.length_eq_zero_iff]
    exact fun none => absurd (Or.inl none) ‹_›
  rw [List.length_drop]
  omega

theorem chunks_nil (size : Nat) : chunks size [] = [] := by
  rw [chunks, if_pos (.inl rfl)]

theorem chunks_of_ne_nil {size : Nat} (positive : 0 < size) {bytes : Bytes} (h : bytes ≠ []) :
    chunks size bytes = bytes.take size :: chunks size (bytes.drop size) := by
  rw [chunks, if_neg (by simp [h]; omega)]

theorem flatten_chunks {size : Nat} (positive : 0 < size) (bytes : Bytes) :
    (chunks size bytes).flatten = bytes := by
  fun_induction chunks size bytes with
  | case1 bytes none => simpa [Nat.ne_of_gt positive] using none.symm
  | case2 bytes some ih => rw [List.flatten_cons, ih, List.take_append_drop]

theorem length_chunks_le (size : Nat) (bytes : Bytes) :
    (chunks size bytes).length ≤ bytes.length := by
  fun_induction chunks size bytes with
  | case1 bytes none => exact Nat.zero_le _
  | case2 bytes some ih =>
    have : bytes.length ≠ 0 := fun none => some (.inl (List.length_eq_zero_iff.mp none))
    rw [List.length_drop] at ih
    rw [List.length_cons]
    omega

namespace Chunker

/-- What reading a source in chunks of some size answers before it answers nothing any more. -/
def answers (size : Nat) (source : Source) : List (Except String (List Char)) :=
  (chunks size (source.sent size)).map (fun chunk => .ok (Base64.encode chunk)) ++
    (source.failure?.map Except.error).toList

/-- The chunker that is there after some answers. -/
def after (c : Chunker) : Nat → Chunker
  | 0 => c
  | count + 1 => c.next.2.after count

theorem answers_of_full {size : Nat} {source left : Source} (positive : 0 < size)
    (full : size ≤ source.delivered.length) (off : source.ReadOff size left) :
    answers size source =
      .ok (Base64.encode (source.delivered.take size)) :: answers size left := by
  obtain ⟨first, others⟩ := off.sent_eq positive full
  have some : source.sent size ≠ [] := by
    intro none
    rw [none, List.take_nil] at first
    have size_eq := congrArg List.length first
    rw [List.length_nil, List.length_take] at size_eq
    omega
  rw [answers, chunks_of_ne_nil positive some, first, others, answers, off.failure_eq]
  rfl

theorem answers_of_short {size : Nat} {source : Source} (short : source.delivered.length < size) :
    answers size source = match source.failure? with
      | none => if source.delivered = [] then [] else [.ok (Base64.encode source.delivered)]
      | some reason => [.error reason] := by
  rw [answers, Source.sent_of_short short]
  cases source.failure? with
  | some reason => rw [if_neg (by simp), chunks_nil]; rfl
  | none =>
    rw [if_pos rfl]
    by_cases empty : source.delivered = []
    · rw [if_pos empty, empty, chunks_nil]
      rfl
    · rw [if_neg empty, chunks_of_ne_nil (by omega) empty, List.take_of_length_le (by omega),
        List.drop_eq_nil_of_le (by omega), chunks_nil]
      rfl

/-- A full chunk leaves the rest of the bytes to the next answers. -/
theorem next_of_full {size : Nat} {source : Source} (positive : 0 < size)
    (full : size ≤ source.delivered.length) :
    ∃ left : Source, next { source, size } =
        (some (.ok (Base64.encode (source.delivered.take size))), { source := left, size }) ∧
      source.ReadOff size left := by
  obtain ⟨left, filled, off⟩ := Source.fill_full size full
  refine ⟨left, ?_, off⟩
  have length : (source.delivered.take size).length = size := by
    rw [List.length_take]
    omega
  rw [next, if_neg (by simp), filled]
  cases chunk : source.delivered.take size with
  | nil =>
    rw [chunk, List.length_nil] at length
    omega
  | cons byte rest =>
    rw [chunk] at length
    simp [length]

/-- Otherwise there is one answer at most, and nothing is read any more. -/
theorem next_of_short {size : Nat} {source : Source} (short : source.delivered.length < size) :
    next { source, size } =
      ((answers size source).head?, { source := source.remains, size, done := true }) := by
  rw [next, if_neg (by simp), Source.fill_short size short, answers_of_short short]
  cases source.failure? with
  | some reason => rfl
  | none =>
    cases chunk : source.delivered with
    | nil => rfl
    | cons byte rest =>
      rw [chunk] at short
      simpa using short

theorem next_done {c : Chunker} (h : c.done = true) : c.next = (none, c) := by
  rw [next, if_pos h]

theorem after_done {c : Chunker} (h : c.done = true) (count : Nat) : c.after count = c := by
  induction count with
  | zero => rfl
  | succ count ih => rw [after, next_done h, ih]

theorem length_answers_of_short {size : Nat} {source : Source}
    (short : source.delivered.length < size) : (answers size source).length ≤ 1 := by
  rw [answers_of_short short]
  cases source.failure? with
  | some reason => simp
  | none => by_cases empty : source.delivered = [] <;> simp [empty]

/-- Every answer is determined by the bytes that the source yields and by how it ends. -/
theorem answer_eq {size : Nat} (positive : 0 < size) (source : Source) (count : Nat) :
    (after { source, size } count).next.1 = (answers size source)[count]? := by
  induction count generalizing source with
  | zero =>
    by_cases full : size ≤ source.delivered.length
    · obtain ⟨left, step, off⟩ := next_of_full positive full
      rw [after, step, answers_of_full positive full off]
      rfl
    · rw [after, next_of_short (by omega), List.head?_eq_getElem?]
  | succ count ih =>
    by_cases full : size ≤ source.delivered.length
    · obtain ⟨left, step, off⟩ := next_of_full positive full
      rw [after, step, answers_of_full positive full off, List.getElem?_cons_succ]
      exact ih left
    · have short : source.delivered.length < size := by omega
      have few := length_answers_of_short short
      rw [after, next_of_short short, after_done rfl, next_done rfl,
        List.getElem?_eq_none (by omega)]

/-- Once something else than a line has been answered, the source is not read any more. -/
theorem after_end {size : Nat} (positive : 0 < size) (source : Source) {count later : Nat}
    (ended : ∀ line, (after { source, size } count).next.1 ≠ some (.ok line))
    (beyond : count < later) :
    after { source, size } later = { source := source.remains, size, done := true } := by
  induction later generalizing source count with
  | zero => omega
  | succ later ih =>
    by_cases full : size ≤ source.delivered.length
    · obtain ⟨left, step, off⟩ := next_of_full positive full
      cases count with
      | zero => exact absurd (by rw [after, step]) (ended _)
      | succ count =>
        rw [after, step] at ended
        rw [after, step, ← off.remains_eq]
        exact ih left ended (by omega)
    · rw [after, next_of_short (by omega), after_done rfl]

theorem take_done (count : Nat) {c : Chunker} (h : c.done = true) : c.take count = [] := by
  cases count with
  | zero => rfl
  | succ count => rw [take, next_done h]

theorem take_eq {size : Nat} (positive : 0 < size) (source : Source) (count : Nat) :
    Chunker.take count { source, size } = (answers size source).take count := by
  induction count generalizing source with
  | zero => rfl
  | succ count ih =>
    by_cases full : size ≤ source.delivered.length
    · obtain ⟨left, step, off⟩ := next_of_full positive full
      rw [take, step, answers_of_full positive full off, List.take_succ_cons]
      simp only [ih left]
    · have short : source.delivered.length < size := by omega
      have few := length_answers_of_short short
      rw [take, next_of_short short]
      cases all : answers size source with
      | nil => rfl
      | cons answer others =>
        rw [all] at few
        obtain rfl : others = [] := by simpa using few
        simp only [List.head?_cons]
        rw [take_done count rfl]
        simp

/-- The lines that bytes are sent as. -/
def dataLines (size : Nat) (bytes : Bytes) : List (List Char) :=
  (chunks (max size 1) bytes).map Base64.encode

theorem length_answers_le {size : Nat} (source : Source) :
    (answers size source).length ≤ source.weight + 1 := by
  have few := length_chunks_le size (source.sent size)
  have bytes := (source.length_sent_le size).trans source.length_delivered_le
  rw [answers, List.length_append, List.length_map]
  cases source.failure? <;> simp <;> omega

theorem lines_eq (source : Source) (size : Nat) :
    (ofSource source size).lines = answers (max size 1) source := by
  rw [lines, ofSource, take_eq (by omega), List.take_of_length_le (length_answers_le source)]

/-- What a source that comes to its end is sent as does not depend on how it hands out its bytes. -/
theorem lines_ofSource {source : Source} (sound : source.failure? = none) (size : Nat) :
    (ofSource source size).lines = (dataLines size source.delivered).map .ok := by
  rw [lines_eq, answers, Source.sent_of_sound sound, sound, dataLines, List.map_map]
  exact List.append_nil _

theorem encode_of_next {c c' : Chunker} {line : List Char} (h : c.next = (some (.ok line), c')) :
    ∃ bytes, line = Base64.encode bytes := by
  unfold next at h
  split at h
  · cases h
  · split at h
    · cases h
    · cases h
    · next chunk source some filled =>
      cases h
      exact ⟨chunk, rfl⟩

theorem encode_of_mem_take {count : Nat} {c : Chunker} {line : List Char}
    (h : .ok line ∈ c.take count) : ∃ bytes, line = Base64.encode bytes := by
  induction count generalizing c with
  | zero => cases h
  | succ count ih =>
      unfold take at h
      split at h
      · cases h
      · next found c' step =>
        obtain rfl | later := List.mem_cons.mp h
        · exact encode_of_next step
        · exact ih later

end Chunker

end SerialConsole
