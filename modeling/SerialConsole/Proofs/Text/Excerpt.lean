import SerialConsole.Proofs.Text.Utf8
import SerialConsole.Text.Excerpt
import Mathlib.Data.List.Infix

/-!
# The end of a long text

The first byte of a character continues none and the others do, so the boundaries that `isBoundary`
finds in the UTF-8 form of a text are the places between its characters (`isBoundary_iff`). Hence
the search for one ends within four bytes, and what `excerpt` keeps is a `LongestEnd`: a part of the
text at its end, as long as the limit allows.
-/

namespace SerialConsole.Text

/-! ## Lengths -/

@[simp] theorem utf8Length_nil : utf8Length [] = 0 := rfl

@[simp] theorem utf8Length_cons (c : Char) (rest : List Char) :
    utf8Length (c :: rest) = c.utf8Size + utf8Length rest := by
  rw [utf8Length, encode_cons, List.length_append, String.length_utf8EncodeChar, utf8Length]

@[simp] theorem utf8Length_append (front back : List Char) :
    utf8Length (front ++ back) = utf8Length front + utf8Length back := by
  rw [utf8Length, encode_append, List.length_append, utf8Length, utf8Length]

theorem utf8Length_pos {text : List Char} (h : text ≠ []) : 0 < utf8Length text :=
  List.length_pos_of_ne_nil (encode_ne_nil h)

/-! ## Boundaries -/

theorem continues_ofNat {n : Nat} (byte : n < 256) :
    continues (UInt8.ofNat n) = (decide (128 ≤ n) && decide (n < 192)) := by
  have value : (UInt8.ofNat n).toNat = n := Nat.mod_eq_of_lt byte
  simp [continues, UInt8.le_iff_toNat_le, UInt8.lt_iff_toNat_lt, value]

theorem utf8EncodeChar_shape (c : Char) :
    ∃ first rest, String.utf8EncodeChar c = first :: rest ∧ continues first = false ∧
      ∀ byte ∈ rest, continues byte = true := by
  have head (n : Nat) (byte : n < 256) (outside : n < 128 ∨ 192 ≤ n) :
      continues (UInt8.ofNat n) = false := by
    rw [continues_ofNat byte]
    simp
    omega
  have tail (n : Nat) : continues (UInt8.ofNat (n % 64 + 128)) = true := by
    rw [continues_ofNat (by omega)]
    simp
    omega
  unfold String.utf8EncodeChar
  simp only
  split
  · next one => exact ⟨_, _, rfl, head _ (by omega) (by omega), List.forall_mem_nil _⟩
  split
  · next two =>
    exact ⟨_, _, rfl, head _ (by omega) (by omega), List.forall_mem_singleton.mpr (tail _)⟩
  split
  · next three =>
    refine ⟨_, _, rfl, head _ (by omega) (by omega), List.forall_mem_cons.mpr ⟨tail _, ?_⟩⟩
    exact List.forall_mem_singleton.mpr (tail _)
  · refine ⟨_, _, rfl, head _ (by omega) (by omega), List.forall_mem_cons.mpr ⟨tail _, ?_⟩⟩
    exact List.forall_mem_cons.mpr ⟨tail _, List.forall_mem_singleton.mpr (tail _)⟩

theorem isBoundary_length (front back : List Char) :
    isBoundary (encode (front ++ back)) (utf8Length front) = true := by
  rw [encode_append, isBoundary, utf8Length, List.getElem?_append_right (Nat.le_refl _),
    Nat.sub_self]
  cases back with
  | nil => simp [encode]
  | cons c back =>
    obtain ⟨first, rest, bytes, begins, -⟩ := utf8EncodeChar_shape c
    rw [encode_cons, bytes, List.cons_append, List.getElem?_cons_zero]
    simp [begins]

theorem isBoundary_within {c : Char} {rest : List Char} {i : Nat} (begun : 0 < i)
    (within : i < c.utf8Size) : isBoundary (encode (c :: rest)) i = false := by
  obtain ⟨first, others, bytes, -, continued⟩ := utf8EncodeChar_shape c
  have size : (String.utf8EncodeChar c).length = c.utf8Size := String.length_utf8EncodeChar c
  obtain ⟨k, rfl⟩ : ∃ k, i = k + 1 := ⟨i - 1, by omega⟩
  rw [bytes, List.length_cons] at size
  have inside : k < others.length := by omega
  have byte : (encode (c :: rest))[k + 1]? = some others[k] := by
    rw [encode_cons, bytes, List.cons_append, List.getElem?_cons_succ,
      List.getElem?_append_left inside, List.getElem?_eq_getElem inside]
  rw [isBoundary, byte]
  simp [continued _ (List.getElem_mem inside)]

theorem isBoundary_of_cons {c : Char} {rest : List Char} {i : Nat} (after : c.utf8Size ≤ i)
    (h : isBoundary (encode (c :: rest)) i = true) :
    isBoundary (encode rest) (i - c.utf8Size) = true := by
  have size : (String.utf8EncodeChar c).length = c.utf8Size := String.length_utf8EncodeChar c
  have begun : i ≠ 0 := by
    have := c.utf8Size_pos
    omega
  rw [isBoundary, encode_cons, List.getElem?_append_right (size ▸ after), size,
    List.length_append, size] at h
  unfold isBoundary
  split at h
  · next byte found =>
    rw [beq_false_of_ne begun, Bool.false_or] at h
    rw [found]
    simp only [h, Bool.or_true]
  · next past =>
    rw [beq_iff_eq] at h
    rw [past]
    simp only [beq_iff_eq]
    omega

/-- The boundaries of a text are the places between its characters and its ends. -/
theorem isBoundary_iff {text : List Char} {i : Nat} :
    isBoundary (encode text) i = true ↔
      ∃ front back, text = front ++ back ∧ utf8Length front = i := by
  constructor
  · intro h
    induction text generalizing i with
    | nil =>
      have last : i = 0 := by simpa [isBoundary, encode] using h
      exact ⟨[], [], rfl, last.symm⟩
    | cons c rest ih =>
      rcases Nat.eq_zero_or_pos i with rfl | begun
      · exact ⟨[], c :: rest, rfl, rfl⟩
      · have after : c.utf8Size ≤ i := by
          refine Nat.le_of_not_lt fun within => ?_
          rw [isBoundary_within begun within] at h
          cases h
        obtain ⟨front, back, rfl, length⟩ := ih (isBoundary_of_cons after h)
        refine ⟨c :: front, back, rfl, ?_⟩
        rw [utf8Length_cons, length]
        omega
  · rintro ⟨front, back, rfl, rfl⟩
    exact isBoundary_length front back

/-! ## The search -/

/-- The first boundary from a place on. -/
structure FirstFrom (bytes : Bytes) (i j : Nat) : Prop where
  later : i ≤ j
  inside : j ≤ bytes.length
  found : isBoundary bytes j = true
  first : ∀ k, i ≤ k → k < j → isBoundary bytes k = false

theorem FirstFrom.le {bytes : Bytes} {i j k : Nat} (h : FirstFrom bytes i j)
    (boundary : isBoundary bytes k = true) (behind : i ≤ k) : j ≤ k := by
  refine Nat.le_of_not_lt fun before => ?_
  rw [h.first k behind before] at boundary
  cases boundary

/-- The search finds the first boundary, and stays within the text. -/
theorem boundaryFrom_first {bytes : Bytes} {i : Nat} (within : i ≤ bytes.length) :
    ∃ j, boundaryFrom bytes i = some j ∧ FirstFrom bytes i j := by
  have last : isBoundary bytes bytes.length = true := by simp [isBoundary]
  fun_induction boundaryFrom bytes i with
  | case1 i found => exact ⟨i, rfl, Nat.le_refl i, within, found, fun k _ _ => by omega⟩
  | case2 i missed more ih =>
    obtain ⟨j, ran, h⟩ := ih more
    have later := h.later
    refine ⟨j, ran, by omega, h.inside, h.found, fun k behind before => ?_⟩
    rcases Nat.eq_or_lt_of_le behind with rfl | after
    · exact Bool.eq_false_iff.mpr missed
    · exact h.first k after before
  | case3 i missed past =>
    obtain rfl : i = bytes.length := by omega
    exact absurd last missed

theorem withoutBytes_length (front back : List Char) :
    withoutBytes (utf8Length front) (front ++ back) = some back := by
  induction front with
  | nil => cases back <;> rfl
  | cons c front ih =>
    have size := c.utf8Size_pos
    have length : utf8Length (c :: front) = c.utf8Size + utf8Length front := utf8Length_cons c front
    obtain ⟨n, some⟩ : ∃ n, utf8Length (c :: front) = n + 1 :=
      ⟨c.utf8Size + utf8Length front - 1, by omega⟩
    have rest : n + 1 - c.utf8Size = utf8Length front := by omega
    rw [some, List.cons_append, withoutBytes, if_pos (by omega), rest, ih]

/-! ## The end that is kept -/

/-- A part of a text at its end that takes at most `limit` bytes, and no longer one does. -/
structure LongestEnd (limit : Nat) (text part : List Char) : Prop where
  suffix : part <:+ text
  fits : utf8Length part ≤ limit
  longest : ∀ other, other <:+ text → utf8Length other ≤ limit → other <:+ part

theorem longestEnd_whole {limit : Nat} {text : List Char} (fits : utf8Length text ≤ limit) :
    LongestEnd limit text text := ⟨List.suffix_refl text, fits, fun _ suffix _ => suffix⟩

/-- An end that takes no more bytes than another is an end of it. -/
theorem suffix_of_utf8Length_le {text part other : List Char} (hpart : part <:+ text)
    (hother : other <:+ text) (h : utf8Length other ≤ utf8Length part) : other <:+ part := by
  rcases List.suffix_or_suffix_of_suffix hother hpart with shorter | ⟨more, rfl⟩
  · exact shorter
  · rw [utf8Length_append] at h
    have none_more : more = [] := by
      by_contra some_more
      have := utf8Length_pos some_more
      omega
    rw [none_more, List.nil_append]

section Cut

variable {limit : Nat} {front part : List Char}
  (h : FirstFrom (encode (front ++ part)) (utf8Length (front ++ part) - limit) (utf8Length front))

include h

/-- What comes after the first boundary that leaves few enough bytes is the longest end. -/
theorem longestEnd_of_first : LongestEnd limit (front ++ part) part := by
  have later := h.later
  have whole := utf8Length_append front part
  refine ⟨List.suffix_append front part, by omega, fun other hother fits => ?_⟩
  refine suffix_of_utf8Length_le (List.suffix_append front part) hother ?_
  obtain ⟨before, split⟩ := hother
  have here : isBoundary (encode (front ++ part)) (utf8Length before) = true :=
    isBoundary_iff.mpr ⟨before, other, split.symm, rfl⟩
  have lengths := congrArg utf8Length split
  simp only [utf8Length_append] at lengths
  have := h.le here (by omega)
  omega

theorem limit_lt_of_first (long : limit < utf8Length (front ++ part)) :
    limit < utf8Length part + 4 := by
  have later := h.later
  have whole := utf8Length_append front part
  obtain rfl | ⟨front, c, rfl⟩ := front.eq_nil_or_concat'
  · have none_before : utf8Length [] = 0 := rfl
    omega
  have here : isBoundary (encode (front ++ [c] ++ part)) (utf8Length front) = true := by
    rw [List.append_assoc]
    exact isBoundary_length front ([c] ++ part)
  have one : utf8Length (front ++ [c]) = utf8Length front + c.utf8Size := by
    rw [utf8Length_append, utf8Length_cons]
    rfl
  have size : 0 < c.utf8Size ∧ c.utf8Size ≤ 4 := ⟨c.utf8Size_pos, c.utf8Size_le_four⟩
  by_contra short
  have := h.le here (by omega)
  omega

end Cut

/-- How an excerpt is made. -/
inductive Excerpted (text : List Char) : List Char → Prop
  | whole (fits : utf8Length text ≤ excerptLimit) : Excerpted text text
  /-- A text that is too long is cut: the search for the place ends within the text, what comes
  before the place are whole characters, and what comes after it falls short of the limit by less
  than a character. -/
  | cut {start : Nat} {part : List Char} (long : excerptLimit < utf8Length text)
      (found : boundaryFrom (encode text) (utf8Length text - excerptLimit) = some start)
      (inside : start ≤ utf8Length text) (dropped : withoutBytes start text = some part)
      (enough : 2044 < utf8Length part) : Excerpted text part

theorem excerpted (text : List Char) :
    Excerpted text (excerpt text) ∧ LongestEnd excerptLimit text (excerpt text) := by
  rcases Nat.lt_or_ge excerptLimit (utf8Length text) with long | fits
  · obtain ⟨start, found, h⟩ := boundaryFrom_first (Nat.sub_le (utf8Length text) excerptLimit)
    obtain ⟨front, part, rfl, rfl⟩ := isBoundary_iff.mp h.found
    have dropped := withoutBytes_length front part
    have kept : excerpt (front ++ part) = part := by
      rw [excerpt, if_neg (Nat.not_le_of_lt long), Text.cut, found]
      simp only [Option.bind_eq_bind, Option.bind_some, dropped, Option.getD_some]
    have enough : 2044 < utf8Length part :=
      Nat.lt_of_add_lt_add_right (n := 4) (limit_lt_of_first h long)
    rw [kept]
    exact ⟨.cut long found h.inside dropped enough, longestEnd_of_first h⟩
  · rw [excerpt, if_pos fits]
    exact ⟨.whole fits, longestEnd_whole fits⟩

-- a character of three bytes lies across the limit
example : (excerpt (List.replicate 700 '€')).length = 682 := by decide +kernel

end SerialConsole.Text
