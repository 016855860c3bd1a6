import SerialConsole.Text.Utf8

/-!
# The UTF-8 form of a text

Characters are encoded one by one, and no other text has the same form.
-/

namespace SerialConsole.Text

theorem encode_cons (c : Char) (rest : List Char) :
    encode (c :: rest) = String.utf8EncodeChar c ++ encode rest := List.flatMap_cons

theorem encode_append (s t : List Char) : encode (s ++ t) = encode s ++ encode t :=
  List.flatMap_append

theorem encode_ne_nil {text : List Char} (h : text ≠ []) : encode text ≠ [] := by
  cases text with
  | nil => exact absurd rfl h
  | cons c rest =>
      intro none
      have first := (List.flatMap_eq_nil_iff.mp none) c List.mem_cons_self
      have size := congrArg List.length first
      rw [String.length_utf8EncodeChar] at size
      exact absurd size (Nat.ne_of_gt c.utf8Size_pos)

theorem encode_injective {s t : List Char} (h : encode s = encode t) : s = t := by
  have same : String.ofList s = String.ofList t :=
    String.toByteArray_inj.mp (congrArg List.toByteArray h)
  exact String.ofList_inj.mp same

end SerialConsole.Text
