import SerialConsole.Proofs.Text.Blank
import SerialConsole.Proofs.Text.Utf8
import SerialConsole.Transfer.Chunks
import Mathlib.Data.List.Infix

/-!
# Base64

Reading undoes writing (`decode_encode`), bytes whose number is a multiple of three are written
apart from what comes after them (`encode_append`), and so a text that is cut between two groups
consists of the written forms of consecutive bytes (`exists_cut`).
-/

namespace SerialConsole.Base64

theorem bind_eq_ok {ε α β : Type} {x : Except ε α} {f : α → Except ε β} {b : β}
    (h : (x >>= f) = .ok b) : ∃ a, x = .ok a ∧ f a = .ok b := by
  cases x with
  | error e => cases h
  | ok a => exact ⟨a, rfl, h⟩

/-! ## Symbols -/

def symbolByte (n : Nat) : UInt8 := UInt8.ofNat (symbol n).toNat

theorem utf8_symbol : ∀ n < 64, String.utf8EncodeChar (symbol n) = [symbolByte n] := by
  decide +kernel

theorem value_symbolByte : ∀ n < 64, value (symbolByte n) = some n := by
  decide +kernel

theorem symbolByte_ne_padding : ∀ n < 64, symbolByte n ≠ paddingByte := by
  decide +kernel

theorem symbol_ne_padding : ∀ n < 64, symbol n ≠ padding := by
  decide +kernel

/-! ## Groups -/

def groupValue (a b c : UInt8) : Nat := a.toNat * 65536 + b.toNat * 256 + c.toNat

theorem groupValue_lt (a b c : UInt8) : groupValue a b c < 64 * 262144 := by
  have ha := a.toNat_lt
  have hb := b.toNat_lt
  have hc := c.toNat_lt
  unfold groupValue
  omega

def sextets (n : Nat) : List Nat := [n / 262144, n / 4096 % 64, n / 64 % 64, n % 64]

theorem sextets_lt {n : Nat} (h : n < 64 * 262144) : ∀ v ∈ sextets n, v < 64 := by
  intro v hv
  simp only [sextets, List.mem_cons, List.not_mem_nil, or_false] at hv
  omega

theorem sextets_eq (n : Nat) :
    n / 262144 * 262144 + n / 4096 % 64 * 4096 + n / 64 % 64 * 64 + n % 64 = n := by
  omega

theorem encodeGroup_eq (a b c : UInt8) :
    encodeGroup a b c = (sextets (groupValue a b c)).map symbol := rfl

theorem bytesOfGroup_groupValue (a b c : UInt8) : bytesOfGroup (groupValue a b c) = [a, b, c] := by
  have ha := a.toNat_lt
  have hb := b.toNat_lt
  have hc := c.toNat_lt
  have first : groupValue a b c / 65536 = a.toNat := by unfold groupValue; omega
  have second : groupValue a b c / 256 % 256 = b.toNat := by unfold groupValue; omega
  have third : groupValue a b c % 256 = c.toNat := by unfold groupValue; omega
  rw [bytesOfGroup, first, second, third]
  simp

/-! ## The last group -/

theorem Tail.read_symbol {offset index n : Nat} (h : n < 64) (values : List Nat) (last : UInt8)
    (rest : Bytes) :
    Tail.read offset index ⟨values, last, 0⟩ (symbolByte n :: rest) =
      Tail.read offset (index + 1) ⟨values ++ [n], symbolByte n, 0⟩ rest := by
  rw [Tail.read, if_neg (symbolByte_ne_padding n h), if_neg (by simp), value_symbolByte n h]

theorem Tail.read_padding {offset index : Nat} (h : 2 ≤ index) (tail : Tail) (rest : Bytes) :
    Tail.read offset index tail (paddingByte :: rest) =
      Tail.read offset (index + 1) { tail with padded := tail.padded + 1 } rest := by
  rw [Tail.read, if_pos rfl, if_neg (by omega)]

theorem decodeLast_four {offset p q r t : Nat} (hp : p < 64) (hq : q < 64) (hr : r < 64)
    (ht : t < 64) :
    decodeLast offset [symbolByte p, symbolByte q, symbolByte r, symbolByte t] =
      .ok (bytesOfGroup (p * 262144 + q * 4096 + r * 64 + t)) := by
  unfold decodeLast
  rw [Tail.read_symbol hp, Tail.read_symbol hq, Tail.read_symbol hr, Tail.read_symbol ht]
  rfl

theorem decodeLast_three {offset p q r : Nat} (hp : p < 64) (hq : q < 64) (hr : r < 64)
    (unused : r % 4 = 0) :
    decodeLast offset [symbolByte p, symbolByte q, symbolByte r, paddingByte] =
      .ok ((bytesOfGroup (p * 262144 + q * 4096 + r * 64)).take 2) := by
  unfold decodeLast
  rw [Tail.read_symbol hp, Tail.read_symbol hq, Tail.read_symbol hr,
    Tail.read_padding (by decide)]
  show Tail.bytes offset ⟨[p, q, r], symbolByte r, 1⟩ = _
  simp [Tail.bytes, unused]

theorem decodeLast_two {offset p q : Nat} (hp : p < 64) (hq : q < 64) (unused : q % 16 = 0) :
    decodeLast offset [symbolByte p, symbolByte q, paddingByte, paddingByte] =
      .ok ((bytesOfGroup (p * 262144 + q * 4096)).take 1) := by
  unfold decodeLast
  rw [Tail.read_symbol hp, Tail.read_symbol hq, Tail.read_padding (by decide),
    Tail.read_padding (by decide)]
  show Tail.bytes offset ⟨[p, q], symbolByte q, 2⟩ = _
  simp [Tail.bytes, unused]

/-! ## Whole texts -/

theorem encode_cons₃ (a b c : UInt8) (rest : Bytes) :
    encode (a :: b :: c :: rest) = encodeGroup a b c ++ encode rest := by
  rw [encode]

theorem encode_ne_nil : ∀ {bytes : Bytes}, bytes ≠ [] → encode bytes ≠ []
  | [], h => absurd rfl h
  | [_], _ => by simp [encode]
  | [_, _], _ => by simp [encode]
  | _ :: _ :: _ :: _, _ => by simp [encode, encodeGroup]

theorem utf8_symbols {ns : List Nat} (h : ∀ n ∈ ns, n < 64) :
    Text.encode (ns.map symbol) = ns.map symbolByte := by
  induction ns with
  | nil => rfl
  | cons n rest ih =>
      have first := utf8_symbol n (h n (by simp))
      have others := ih fun v hv => h v (by simp [hv])
      rw [Text.encode] at others ⊢
      rw [List.map_cons, List.flatMap_cons, first, others]
      rfl

theorem decodeFrom_group (offset : Nat) (a b c : UInt8) {rest : Bytes} (h : rest ≠ []) :
    decodeFrom offset (Text.encode (encodeGroup a b c) ++ rest) =
      (decodeFrom (offset + 4) rest).map ([a, b, c] ++ ·) := by
  have small := groupValue_lt a b c
  have at' {n : Nat} (hn : n < 64) (place : Nat) : valueAt (symbolByte n) place = .ok n := by
    rw [valueAt, value_symbolByte n hn]
  cases rest with
  | nil => exact absurd rfl h
  | cons e rest =>
      rw [encodeGroup_eq, utf8_symbols (sextets_lt small)]
      simp only [sextets, List.map_cons, List.map_nil, List.cons_append, List.nil_append]
      rw [decodeFrom, at' (by omega), at' (by omega), at' (by omega), at' (by omega)]
      simp only [bind, Except.bind, pure, Except.pure, sextets_eq, bytesOfGroup_groupValue]
      cases decodeFrom (offset + 4) (e :: rest) <;> rfl

theorem decodeFrom_encode (offset : Nat) (bytes : Bytes) :
    decodeFrom offset (Text.encode (encode bytes)) = .ok bytes := by
  fun_induction encode bytes generalizing offset with
  | case1 a b c rest ih =>
    rw [Text.encode_append]
    by_cases last : rest = []
    · subst last
      have small := groupValue_lt a b c
      rw [encodeGroup_eq, utf8_symbols (sextets_lt small)]
      show decodeLast offset [_, _, _, _] = _
      rw [decodeLast_four (by omega) (by omega) (by omega) (by omega), sextets_eq,
        bytesOfGroup_groupValue]
    · rw [decodeFrom_group offset a b c (Text.encode_ne_nil (encode_ne_nil last)), ih]
      rfl
  | case2 a b =>
    have small := groupValue_lt a b 0
    have shape : (encodeGroup a b 0).take 3 =
        ((sextets (groupValue a b 0)).take 3).map symbol := rfl
    have unused : groupValue a b 0 / 64 % 64 % 4 = 0 := by
      simp only [groupValue, UInt8.toNat_zero]
      omega
    have whole := sextets_eq (groupValue a b 0)
    have none : groupValue a b 0 % 64 = 0 := by simp only [groupValue, UInt8.toNat_zero]; omega
    rw [none, Nat.add_zero] at whole
    rw [Text.encode_append, shape,
      utf8_symbols fun v hv => sextets_lt small v (List.mem_of_mem_take hv)]
    show decodeLast offset [_, _, _, paddingByte] = _
    rw [decodeLast_three (by omega) (by omega) (by omega) unused, whole, bytesOfGroup_groupValue]
    rfl
  | case3 a =>
    have small := groupValue_lt a 0 0
    have shape : (encodeGroup a 0 0).take 2 =
        ((sextets (groupValue a 0 0)).take 2).map symbol := rfl
    have unused : groupValue a 0 0 / 4096 % 64 % 16 = 0 := by
      simp only [groupValue, UInt8.toNat_zero]
      omega
    have whole : groupValue a 0 0 / 262144 * 262144 + groupValue a 0 0 / 4096 % 64 * 4096 =
        groupValue a 0 0 := by simp only [groupValue, UInt8.toNat_zero]; omega
    rw [Text.encode_append, shape,
      utf8_symbols fun v hv => sextets_lt small v (List.mem_of_mem_take hv)]
    show decodeLast offset [_, _, paddingByte, paddingByte] = _
    rw [decodeLast_two (by omega) (by omega) unused, whole, bytesOfGroup_groupValue]
    rfl
  | case4 => rfl

theorem mem_encode {bytes : Bytes} {c : Char} (h : c ∈ encode bytes) :
    c = padding ∨ ∃ n < 64, c = symbol n := by
  have ofGroup {x y z : UInt8} (hc : c ∈ encodeGroup x y z) : ∃ n < 64, c = symbol n := by
    obtain ⟨n, hn, rfl⟩ := List.mem_map.mp (encodeGroup_eq x y z ▸ hc)
    exact ⟨n, sextets_lt (groupValue_lt x y z) n hn, rfl⟩
  fun_induction encode bytes with
  | case1 x y z rest ih => exact (List.mem_append.mp h).elim (fun hc => .inr (ofGroup hc)) ih
  | case2 x y =>
    obtain hc | hc := List.mem_append.mp h
    · exact .inr (ofGroup (List.mem_of_mem_take hc))
    · exact .inl (by simpa using hc)
  | case3 x =>
    obtain hc | hc := List.mem_append.mp h
    · exact .inr (ofGroup (List.mem_of_mem_take hc))
    · exact .inl (by simpa using hc)
  | case4 => simp at h

theorem length_encode (bytes : Bytes) :
    (encode bytes).length = (bytes.length + 2) / 3 * 4 := by
  fun_induction encode bytes with
  | case1 x y z rest ih =>
    have group : (encodeGroup x y z).length = 4 := rfl
    rw [List.length_append, group, ih]
    simp only [List.length_cons]
    omega
  | case2 x y => simp [encodeGroup]
  | case3 x => simp [encodeGroup]
  | case4 => rfl

theorem length_utf8_encode (bytes : Bytes) :
    (Text.encode (encode bytes)).length = (encode bytes).length := by
  have single : ∀ c ∈ encode bytes, (String.utf8EncodeChar c).length = 1 := by
    intro c hc
    obtain rfl | ⟨n, hn, rfl⟩ := mem_encode hc
    · rfl
    · rw [utf8_symbol n hn]
      rfl
  rw [Text.encode, List.length_flatMap, List.map_congr_left single]
  simp

theorem solid_encode (bytes : Bytes) : Text.Solid (encode bytes) := by
  intro c hc
  have none : ∀ n < 64, Text.isBlank (symbol n) = false := by decide +kernel
  obtain rfl | ⟨n, hn, rfl⟩ := mem_encode hc
  · decide
  · exact none n hn

theorem count_padding_encode (bytes : Bytes) : (encode bytes).count padding ≤ 2 := by
  have ofGroup (x y z : UInt8) : (encodeGroup x y z).count padding = 0 := by
    rw [List.count_eq_zero]
    intro hc
    obtain ⟨n, hn, same⟩ := List.mem_map.mp (encodeGroup_eq x y z ▸ hc)
    exact symbol_ne_padding n (sextets_lt (groupValue_lt x y z) n hn) same
  fun_induction encode bytes with
  | case1 x y z rest ih => rwa [List.count_append, ofGroup, Nat.zero_add]
  | case2 x y =>
    have part := (List.take_sublist 3 (encodeGroup x y 0)).count_le padding
    have fill : [padding].count padding = 1 := rfl
    rw [ofGroup] at part
    rw [List.count_append]
    omega
  | case3 x =>
    have part := (List.take_sublist 2 (encodeGroup x 0 0)).count_le padding
    have fill : [padding, padding].count padding = 2 := rfl
    rw [ofGroup] at part
    rw [List.count_append]
    omega
  | case4 => simp

theorem decode_encode (bytes : Bytes) : decode (Text.encode (encode bytes)) = .ok bytes := by
  have groups := length_encode bytes
  rw [← length_utf8_encode] at groups
  have read := decodeFrom_encode 0 bytes
  unfold decode
  cases last : (Text.encode (encode bytes)).getLast? with
  | none =>
    rw [List.getLast?_eq_none_iff] at last
    rw [last] at read
    exact read
  | some byte =>
    simp only
    rw [if_neg (by omega), read]

/-- A line with any blanks around it is read as what it was written from. -/
theorem decodeLine_around {before after : List Char} (hbefore : Text.Blank before)
    (hafter : Text.Blank after) (bytes : Bytes) :
    decodeLine (before ++ encode bytes ++ after) = .ok bytes := by
  rw [decodeLine, Text.trim_around hbefore (solid_encode bytes) hafter, decode_encode]

/-! ## Cutting -/

/-- Bytes whose number is a multiple of three are written apart from those after them. -/
theorem encode_append {front : Bytes} (h : front.length % 3 = 0) (back : Bytes) :
    encode (front ++ back) = encode front ++ encode back := by
  fun_induction encode front with
  | case1 a b c rest ih =>
    have shorter : rest.length % 3 = 0 := by
      simp only [List.length_cons] at h
      omega
    rw [List.cons_append, List.cons_append, List.cons_append, encode_cons₃, ih shorter,
      List.append_assoc]
  | case2 a b => simp at h
  | case3 a => simp at h
  | case4 => rfl

theorem encode_split (groups : Nat) (bytes : Bytes) :
    (encode bytes).take (4 * groups) = encode (bytes.take (3 * groups)) ∧
      (encode bytes).drop (4 * groups) = encode (bytes.drop (3 * groups)) := by
  induction groups generalizing bytes with
  | zero => exact ⟨rfl, rfl⟩
  | succ groups ih =>
      have four : 4 * (groups + 1) = 4 * groups + 1 + 1 + 1 + 1 := by omega
      have three : 3 * (groups + 1) = 3 * groups + 1 + 1 + 1 := by omega
      rw [four, three]
      match bytes with
      | a :: b :: c :: rest =>
          rw [encode_cons₃]
          have later := ih rest
          simp only [encodeGroup, List.cons_append, List.nil_append, List.take_succ_cons,
            List.drop_succ_cons, encode_cons₃, later, and_self]
      | [a, b] => simp [encode, encodeGroup]
      | [a] => simp [encode, encodeGroup]
      | [] => simp [encode]

/-- The pieces of a written form that is cut between groups are written forms themselves. -/
theorem exists_cut {pieces : List (List Char)} {bytes : Bytes}
    (whole : pieces.flatten = encode bytes) (groups : ∀ piece ∈ pieces, 4 ∣ piece.length) :
    ∃ chunks : List Bytes, chunks.flatten = bytes ∧ pieces = chunks.map encode := by
  induction pieces generalizing bytes with
  | nil =>
    by_cases none : bytes = []
    · exact ⟨[], none.symm, rfl⟩
    · exact absurd whole.symm (encode_ne_nil none)
  | cons piece rest ih =>
    obtain ⟨count, hcount⟩ := groups piece (by simp)
    rw [List.flatten_cons] at whole
    obtain ⟨front, back⟩ := encode_split count bytes
    rw [← whole, List.take_left' hcount] at front
    rw [← whole, List.drop_left' hcount] at back
    obtain ⟨chunks, flat, rfl⟩ := ih back fun p hp => groups p (by simp [hp])
    refine ⟨bytes.take (3 * count) :: chunks, ?_, ?_⟩
    · rw [List.flatten_cons, flat, List.take_append_drop]
    · rw [List.map_cons, front]

end SerialConsole.Base64
