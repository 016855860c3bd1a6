import SerialConsole.Proofs.Transfer.Base64
import Mathlib.Data.Nat.Digits.Lemmas

/-!
# One written form

Base64 writes bytes as the six-bit numbers of the number that they make (`written_encode`), and
reads nothing but what it writes (`eq_encode_of_decode`): whole groups of symbols, the last filled
up with as much padding as the bytes leave room for, and no bits in use that belong to no byte.
-/

namespace SerialConsole.Base64

/-- Six-bit numbers and padding as a text. -/
def form (values : List Nat) (filled : Nat) : List Char :=
  values.map symbol ++ List.replicate filled padding

/-- Six-bit numbers that make up groups of four together with some padding, the last of them without
the bits that the padding stands for. -/
structure Grouped (values : List Nat) (filled : Nat) : Prop where
  small : ∀ v ∈ values, v < 64
  few : filled ≤ 2
  groups : 4 ∣ values.length + filled
  unused : ∀ v ∈ values.getLast?, v % 4 ^ filled = 0

/-- The six-bit numbers of some bytes: both make the same number, but for the bits that the padding
stands for. -/
structure Written (bytes : Bytes) (values : List Nat) (filled : Nat) : Prop
    extends Grouped values filled where
  length_eq : 3 * values.length = 4 * bytes.length + filled
  number_eq : Nat.ofDigits 64 values.reverse =
    Nat.ofDigits 256 (bytes.map UInt8.toNat).reverse * 4 ^ filled

/-- A text that consists of groups. -/
def Canonical (text : List Char) : Prop :=
  ∃ values filled, Grouped values filled ∧ text = form values filled

/-! ## Groups as numbers -/

theorem sextets_of_values {a b c d : Nat} (hb : b < 64) (hc : c < 64) (hd : d < 64) :
    sextets (a * 262144 + b * 4096 + c * 64 + d) = [a, b, c, d] := by
  simp only [sextets, List.cons.injEq, and_true]
  omega

/-- The bytes of a number of 24 bits are written as its four six-bit numbers. -/
theorem exists_group {n : Nat} (h : n < 64 * 262144) :
    ∃ x y z, bytesOfGroup n = [x, y, z] ∧ groupValue x y z = n := by
  refine ⟨_, _, _, rfl, ?_⟩
  have first : n / 65536 < 256 := by omega
  have second : n / 256 % 256 < 256 := Nat.mod_lt _ (by decide)
  have third : n % 256 < 256 := Nat.mod_lt _ (by decide)
  rw [groupValue, UInt8.toNat_ofNat_of_lt' first, UInt8.toNat_ofNat_of_lt' second,
    UInt8.toNat_ofNat_of_lt' third]
  omega

section Values

variable {a b c d : Nat} (ha : a < 64) (hb : b < 64) (hc : c < 64) (hd : d < 64)
include ha hb

theorem encode_four (hc : c < 64) (hd : d < 64) (rest : Bytes) :
    encode (bytesOfGroup (a * 262144 + b * 4096 + c * 64 + d) ++ rest) =
      [a, b, c, d].map symbol ++ encode rest := by
  obtain ⟨x, y, z, bytes, value⟩ :=
    exists_group (n := a * 262144 + b * 4096 + c * 64 + d) (by omega)
  rw [bytes, List.cons_append, List.cons_append, List.cons_append, List.nil_append, encode_cons₃,
    encodeGroup_eq, value, sextets_of_values hb hc hd]

theorem encode_three (hc : c < 64) (unused : c % 4 = 0) :
    encode ((bytesOfGroup (a * 262144 + b * 4096 + c * 64)).take 2) =
      form [a, b, c] 1 := by
  obtain ⟨x, y, z, bytes, value⟩ := exists_group (n := a * 262144 + b * 4096 + c * 64) (by omega)
  have last : z.toNat = 0 := by
    have := z.toNat_lt
    unfold groupValue at value
    omega
  obtain rfl : z = 0 := UInt8.toNat_inj.mp last
  have values := sextets_of_values (a := a) hb hc (Nat.zero_lt_succ 63)
  rw [Nat.add_zero] at values
  rw [bytes]
  show (encodeGroup x y 0).take 3 ++ [padding] = _
  rw [encodeGroup_eq, value, values]
  rfl

theorem encode_two (unused : b % 16 = 0) :
    encode ((bytesOfGroup (a * 262144 + b * 4096)).take 1) = form [a, b] 2 := by
  obtain ⟨x, y, z, bytes, value⟩ := exists_group (n := a * 262144 + b * 4096) (by omega)
  have last : y.toNat = 0 ∧ z.toNat = 0 := by
    have := y.toNat_lt
    have := z.toNat_lt
    unfold groupValue at value
    omega
  obtain rfl : y = 0 := UInt8.toNat_inj.mp last.1
  obtain rfl : z = 0 := UInt8.toNat_inj.mp last.2
  have values := sextets_of_values (a := a) hb (Nat.zero_lt_succ 63) (Nat.zero_lt_succ 63)
  rw [Nat.zero_mul, Nat.add_zero] at values
  rw [bytes]
  show (encodeGroup x 0 0).take 2 ++ [padding, padding] = _
  rw [encodeGroup_eq, value, values]
  rfl

end Values

/-! ## Reading -/

theorem symbolByte_of_value {byte : UInt8} {v : Nat} (h : value byte = some v) :
    v < 64 ∧ byte = symbolByte v := by
  have table : ∀ n < 256, ∀ v ∈ value (UInt8.ofNat n),
      v < 64 ∧ UInt8.ofNat n = symbolByte v := by decide +kernel
  have found := table byte.toNat byte.toNat_lt v
  rw [UInt8.ofNat_toNat] at found
  exact found h

theorem symbolByte_of_valueAt {byte : UInt8} {offset v : Nat} (h : valueAt byte offset = .ok v) :
    v < 64 ∧ byte = symbolByte v := by
  unfold valueAt at h
  split at h
  · next found =>
    cases h
    exact symbolByte_of_value found
  · cases h

/-- What has been read of the last group are symbols, and padding after them. -/
theorem Tail.read_eq_ok {offset index : Nat} {tail read : Tail} {group : Bytes}
    (h : Tail.read offset index tail group = .ok read) :
    ∃ values filled, read.values = tail.values ++ values ∧ read.padded = tail.padded + filled ∧
      group = values.map symbolByte ++ List.replicate filled paddingByte ∧
      (∀ v ∈ values, v < 64) ∧ (tail.padded ≠ 0 → values = []) := by
  induction group generalizing index tail with
  | nil =>
    cases h
    exact ⟨[], 0, by simp, rfl, rfl, by simp, fun _ => rfl⟩
  | cons byte rest ih =>
    rw [Tail.read] at h
    by_cases sign : byte = paddingByte
    · rw [if_pos sign] at h
      by_cases early : index < 2
      · rw [if_pos early] at h
        cases h
      · rw [if_neg early] at h
        obtain ⟨values, filled, read_values, read_padded, rfl, -, padded⟩ := ih h
        obtain rfl : values = [] := padded (Nat.succ_ne_zero _)
        refine ⟨[], filled + 1, read_values, read_padded.trans (Nat.succ_add_eq_add_succ _ _), ?_,
          by simp, fun _ => rfl⟩
        rw [sign]
        rfl
    · rw [if_neg sign] at h
      by_cases padded : tail.padded ≠ 0
      · rw [if_pos padded] at h
        cases h
      · rw [if_neg padded] at h
        cases found : value byte with
        | none =>
          rw [found] at h
          cases h
        | some v =>
          rw [found] at h
          obtain ⟨small, same⟩ := symbolByte_of_value found
          obtain ⟨values, filled, read_values, read_padded, rfl, others, -⟩ := ih h
          refine ⟨v :: values, filled, by rw [read_values]; simp, read_padded, ?_,
            by simpa using ⟨small, others⟩, fun some => absurd some padded⟩
          rw [same]
          rfl

theorem utf8_form {values : List Nat} (small : ∀ v ∈ values, v < 64) (filled : Nat) :
    Text.encode (form values filled) =
      values.map symbolByte ++ List.replicate filled paddingByte := by
  have fill : Text.encode (List.replicate filled padding) = List.replicate filled paddingByte := by
    induction filled with
    | zero => rfl
    | succ filled ih => exact congrArg (paddingByte :: ·) ih
  rw [form, Text.encode_append, utf8_symbols small, fill]

theorem eq_encode_of_decodeLast {offset : Nat} {group bytes : Bytes} (short : group.length ≤ 4)
    (h : decodeLast offset group = .ok bytes) : group = Text.encode (encode bytes) := by
  obtain ⟨read, parsed, result⟩ := bind_eq_ok h
  obtain ⟨values, filled, read_values, read_padded, rfl, small, -⟩ := Tail.read_eq_ok parsed
  rw [List.nil_append] at read_values
  rw [Nat.zero_add] at read_padded
  rw [List.length_append, List.length_map, List.length_replicate] at short
  rw [← utf8_form small]
  unfold Tail.bytes at result
  rw [read_values, read_padded] at result
  split at result
  · next _ a b =>
    split at result
    · cases result
    · next padded =>
      split at result
      · cases result
      · next unused =>
        cases result
        have ⟨ha, hb⟩ : a < 64 ∧ b < 64 := by simpa using small
        rw [encode_two ha hb (not_not.mp unused), not_not.mp padded]
  · next _ a b c =>
    split at result
    · cases result
    · next padded =>
      split at result
      · cases result
      · next unused =>
        cases result
        have ⟨ha, hb, hc⟩ : a < 64 ∧ b < 64 ∧ c < 64 := by simpa using small
        rw [encode_three ha hb hc (not_not.mp unused), not_not.mp padded]
  · next _ a b c d =>
    obtain rfl : filled = 0 := by
      simp only [List.length_cons, List.length_nil] at short
      omega
    cases result
    have ⟨ha, hb, hc, hd⟩ : a < 64 ∧ b < 64 ∧ c < 64 ∧ d < 64 := by simpa using small
    have whole := encode_four ha hb hc hd []
    rw [List.append_nil] at whole
    rw [whole]
    rfl
  · cases result

theorem eq_encode_of_decodeFrom {offset : Nat} {text bytes : Bytes}
    (h : decodeFrom offset text = .ok bytes) : text = Text.encode (encode bytes) := by
  fun_induction decodeFrom offset text generalizing bytes with
  | case1 =>
    cases h
    rfl
  | case2 offset a b c d e rest ih =>
    obtain ⟨p, first, h⟩ := bind_eq_ok h
    obtain ⟨q, second, h⟩ := bind_eq_ok h
    obtain ⟨r, third, h⟩ := bind_eq_ok h
    obtain ⟨t, fourth, h⟩ := bind_eq_ok h
    obtain ⟨others, later, h⟩ := bind_eq_ok h
    cases h
    obtain ⟨hp, rfl⟩ := symbolByte_of_valueAt first
    obtain ⟨hq, rfl⟩ := symbolByte_of_valueAt second
    obtain ⟨hr, rfl⟩ := symbolByte_of_valueAt third
    obtain ⟨ht, rfl⟩ := symbolByte_of_valueAt fourth
    have small : ∀ v ∈ [p, q, r, t], v < 64 := by simpa using ⟨hp, hq, hr, ht⟩
    rw [encode_four hp hq hr ht, Text.encode_append, utf8_symbols small, ← ih later]
    rfl
  | case3 offset group some short =>
    refine eq_encode_of_decodeLast ?_ h
    match group with
    | [] | [_] | [_, _] | [_, _, _] | [_, _, _, _] => simp
    | a :: b :: c :: d :: e :: rest => exact (short a b c d e rest rfl).elim

theorem eq_encode_of_decode {text bytes : Bytes} (h : decode text = .ok bytes) :
    text = Text.encode (encode bytes) := by
  unfold decode at h
  split at h
  · split at h
    · cases h
    · exact eq_encode_of_decodeFrom h
  · next none =>
    cases h
    exact List.getLast?_eq_none_iff.mp none

/-! ## Writing -/

/-- The number of symbols tells how much padding there is; one symbol alone is never left over. -/
theorem Grouped.filled_eq {values : List Nat} {filled : Nat} (h : Grouped values filled) :
    filled = (4 - values.length % 4) % 4 ∧ values.length % 4 ≠ 1 := by
  have groups := h.groups
  have few := h.few
  omega

theorem Grouped.of_append {group values : List Nat} {filled : Nat} (h : Grouped values filled)
    (four : group.length = 4) (small : ∀ v ∈ group, v < 64) :
    Grouped (group ++ values) filled where
  small v hv := (List.mem_append.mp hv).elim (small v) (h.small v)
  few := h.few
  groups := by
    rw [List.length_append, four, Nat.add_assoc]
    exact (Nat.dvd_add_right (Nat.dvd_refl 4)).mpr h.groups
  unused v hv := by
    by_cases last : values = []
    · -- no padding without symbols
      obtain rfl : filled = 0 := by rw [h.filled_eq.1, last]; rfl
      exact Nat.mod_one v
    · rw [List.getLast?_append_of_ne_nil _ last] at hv
      exact h.unused v hv

/-- The numbers of the leading symbols of a group are those of the leading bits. -/
theorem ofDigits_sextets (n : Nat) :
    Nat.ofDigits 64 (sextets n).reverse = n ∧
      Nat.ofDigits 64 ((sextets n).take 3).reverse = n / 64 ∧
      Nat.ofDigits 64 ((sextets n).take 2).reverse = n / 4096 := by
  simp only [sextets, List.take_succ_cons, List.take_zero, List.reverse_cons, List.reverse_nil,
    List.nil_append, List.cons_append, Nat.ofDigits_cons, Nat.ofDigits_nil]
  omega

theorem ofDigits_bytes (a b c : UInt8) :
    Nat.ofDigits 256 [c.toNat, b.toNat, a.toNat] = groupValue a b c := by
  simp only [Nat.ofDigits_cons, Nat.ofDigits_nil, groupValue]
  omega

theorem grouped_take {n : Nat} (h : n < 64 * 262144) :
    (n % 256 = 0 → Grouped ((sextets n).take 3) 1) ∧
      (n % 65536 = 0 → Grouped ((sextets n).take 2) 2) := by
  have small {count : Nat} : ∀ v ∈ (sextets n).take count, v < 64 :=
    fun v hv => sextets_lt h v (List.mem_of_mem_take hv)
  refine ⟨fun unused => ⟨small, by decide, ⟨1, rfl⟩, fun v hv => ?_⟩,
    fun unused => ⟨small, by decide, ⟨1, rfl⟩, fun v hv => ?_⟩⟩
  · obtain rfl : n / 64 % 64 = v := Option.some.inj hv
    omega
  · obtain rfl : n / 4096 % 64 = v := Option.some.inj hv
    omega

theorem Written.of_append {rest : Bytes} {values : List Nat} {filled : Nat}
    (h : Written rest values filled) (a b c : UInt8) :
    Written (a :: b :: c :: rest) (sextets (groupValue a b c) ++ values) filled where
  toGrouped := h.toGrouped.of_append rfl (sextets_lt (groupValue_lt a b c))
  length_eq := by
    have := h.length_eq
    have four : (sextets (groupValue a b c)).length = 4 := rfl
    rw [List.length_append, four]
    simp only [List.length_cons]
    omega
  number_eq := by
    have bits : 64 ^ values.length = 256 ^ rest.length * 4 ^ filled := by
      rw [show 64 = 4 ^ 3 from rfl, show 256 = 4 ^ 4 from rfl, ← Nat.pow_mul, ← Nat.pow_mul,
        ← Nat.pow_add, h.length_eq]
    have split : ((a :: b :: c :: rest).map UInt8.toNat).reverse =
        (rest.map UInt8.toNat).reverse ++ [c.toNat, b.toNat, a.toNat] := by simp
    rw [List.reverse_append, Nat.ofDigits_append, h.number_eq, List.length_reverse, bits,
      (ofDigits_sextets _).1, split, Nat.ofDigits_append, ofDigits_bytes, List.length_reverse,
      List.length_map]
    ring

theorem written_two (a b : UInt8) : Written [a, b] ((sextets (groupValue a b 0)).take 3) 1 := by
  have value : groupValue a b 0 = a.toNat * 65536 + b.toNat * 256 := by
    rw [groupValue, UInt8.toNat_zero, Nat.add_zero]
  have number : Nat.ofDigits 256 [b.toNat, a.toNat] = b.toNat + 256 * a.toNat := by
    rw [Nat.ofDigits_cons, Nat.ofDigits_singleton]
  have grouped := (grouped_take (groupValue_lt a b 0)).1 (by omega)
  refine ⟨grouped, rfl, (ofDigits_sextets _).2.1.trans ?_⟩
  show _ = Nat.ofDigits 256 [b.toNat, a.toNat] * 4 ^ 1
  omega

theorem written_one (a : UInt8) : Written [a] ((sextets (groupValue a 0 0)).take 2) 2 := by
  have value : groupValue a 0 0 = a.toNat * 65536 := by
    rw [groupValue, UInt8.toNat_zero, Nat.zero_mul, Nat.add_zero]
  have number : Nat.ofDigits 256 [a.toNat] = a.toNat := Nat.ofDigits_singleton
  have grouped := (grouped_take (groupValue_lt a 0 0)).2 (by omega)
  refine ⟨grouped, rfl, (ofDigits_sextets _).2.2.trans ?_⟩
  show _ = Nat.ofDigits 256 [a.toNat] * 4 ^ 2
  omega

theorem written_encode (bytes : Bytes) :
    ∃ values filled, Written bytes values filled ∧ encode bytes = form values filled := by
  fun_induction encode bytes with
  | case1 a b c rest ih =>
    obtain ⟨values, filled, written, same⟩ := ih
    refine ⟨_, filled, written.of_append a b c, ?_⟩
    rw [same, encodeGroup_eq, form, form, List.map_append, List.append_assoc]
  | case2 a b => exact ⟨_, 1, written_two a b, rfl⟩
  | case3 a => exact ⟨_, 2, written_one a, rfl⟩
  | case4 => exact ⟨[], 0, ⟨⟨by simp, by decide, by decide, by simp⟩, rfl, rfl⟩, rfl⟩

theorem Grouped.exists_bytes : ∀ {values : List Nat} {filled : Nat}, Grouped values filled →
    ∃ bytes, encode bytes = form values filled
  | [], filled, h => by
    obtain rfl : filled = 0 := h.filled_eq.1
    exact ⟨[], rfl⟩
  | [a], filled, h => absurd rfl h.filled_eq.2
  | [a, b], filled, h => by
    obtain rfl : filled = 2 := h.filled_eq.1
    have unused : b % 16 = 0 := h.unused b rfl
    exact ⟨_, encode_two (h.small a (by simp)) (h.small b (by simp)) unused⟩
  | [a, b, c], filled, h => by
    obtain rfl : filled = 1 := h.filled_eq.1
    have unused : c % 4 = 0 := h.unused c rfl
    exact ⟨_, encode_three (h.small a (by simp)) (h.small b (by simp)) (h.small c (by simp)) unused⟩
  | a :: b :: c :: d :: rest, filled, h => by
    have later : Grouped rest filled := by
      refine ⟨fun v hv => h.small v (by simp [hv]), h.few, ?_, fun v hv => h.unused v ?_⟩
      · have groups := h.groups
        simp only [List.length_cons] at groups
        omega
      · cases rest with
        | nil => cases hv
        | cons e rest => exact hv
    obtain ⟨bytes, same⟩ := later.exists_bytes
    have group := encode_four (h.small a (by simp)) (h.small b (by simp)) (h.small c (by simp))
      (h.small d (by simp)) bytes
    refine ⟨_, group.trans ?_⟩
    rw [same]
    rfl

theorem canonical_iff {text : List Char} : Canonical text ↔ ∃ bytes, text = encode bytes := by
  constructor
  · rintro ⟨values, filled, grouped, rfl⟩
    obtain ⟨bytes, same⟩ := grouped.exists_bytes
    exact ⟨bytes, same.symm⟩
  · rintro ⟨bytes, rfl⟩
    obtain ⟨values, filled, written, same⟩ := written_encode bytes
    exact ⟨values, filled, written.toGrouped, same⟩

/-! ## Lines -/

theorem eq_encode_of_decodeLine {line : List Char} {bytes : Bytes}
    (h : decodeLine line = .ok bytes) : Text.trim line = encode bytes :=
  Text.encode_injective (eq_encode_of_decode h)

theorem decodeLine_of_trim {line : List Char} {bytes : Bytes} (h : Text.trim line = encode bytes) :
    decodeLine line = .ok bytes := by
  rw [decodeLine, h, decode_encode]

theorem decodeLine_eq_error_iff {line : List Char} :
    (∃ fault, decodeLine line = .error fault) ↔ ¬ Canonical (Text.trim line) := by
  constructor
  · rintro ⟨fault, failed⟩ canonical
    obtain ⟨bytes, same⟩ := canonical_iff.mp canonical
    rw [decodeLine_of_trim same] at failed
    cases failed
  · intro malformed
    cases read : decodeLine line with
    | error fault => exact ⟨fault, rfl⟩
    | ok bytes => exact absurd (canonical_iff.mpr ⟨bytes, eq_encode_of_decodeLine read⟩) malformed

theorem not_canonical_of_length {text : List Char} (h : ¬ 4 ∣ text.length) : ¬ Canonical text := by
  intro canonical
  obtain ⟨bytes, rfl⟩ := canonical_iff.mp canonical
  rw [length_encode] at h
  exact h (Nat.dvd_mul_left 4 _)

/-- A line is read as the bytes whose written form it is, but for blanks around it, and that form
consists of the six-bit numbers of the number that the bytes make. No other line is read: neither
one that does not consist of groups, nor a part of a written form that ends or begins within one. -/
theorem decodeLine_eq_ok_iff (line : List Char) :
    (∀ bytes, decodeLine line = .ok bytes ↔ Text.trim line = encode bytes) ∧
      (∀ bytes, decodeLine line = .ok bytes → ∃ values filled,
        Written bytes values filled ∧ Text.trim line = form values filled) ∧
      ((∃ fault, decodeLine line = .error fault) ↔ ¬ Canonical (Text.trim line)) ∧
      (∀ bytes count, ¬ 4 ∣ count → count ≤ (encode bytes).length →
        Text.trim line = (encode bytes).take count ∨ Text.trim line = (encode bytes).drop count →
          ∃ fault, decodeLine line = .error fault) ∧
      ∀ bytes, decodeLine (encode bytes) = .ok bytes := by
  refine ⟨fun bytes => ⟨eq_encode_of_decodeLine, decodeLine_of_trim⟩, ?_, decodeLine_eq_error_iff,
    ?_, ?_⟩
  · intro bytes read
    obtain ⟨values, filled, written, same⟩ := written_encode bytes
    exact ⟨values, filled, written, (eq_encode_of_decodeLine read).trans same⟩
  · intro bytes count within inside cut
    refine decodeLine_eq_error_iff.mpr (not_canonical_of_length ?_)
    have groups : (encode bytes).length % 4 = 0 := by
      rw [length_encode]
      exact Nat.mul_mod_left _ 4
    obtain same | same := cut
    · rw [same, List.length_take]
      omega
    · rw [same, List.length_drop]
      omega
  · intro bytes
    have read := decodeLine_around (List.forall_mem_nil _) (List.forall_mem_nil _) bytes
    simpa using read

/-- Neither the padding nor the bits that it stands for can be left out or set. -/
example : ["aGk".toList, "aG=k".toList, "aGl=".toList, "aGk=aGk=".toList].all
    fun line => (decodeLine line).toOption.isNone := by
  decide +kernel

end SerialConsole.Base64
