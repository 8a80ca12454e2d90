import RecordFilter.Json.Reader
import RecordFilter.Json.Basic

/-!
# JSON strings read back

Every character between the quotes, escaped or not, is read as its code, and the codes of a
text hold no surrogates, so they join to the same text (`string?_renderText`).
-/

namespace RecordFilter.Json.Reader

/-! ## Codes -/

/-- The codes of a text are not surrogates, so they join one by one. -/
theorem joinCodes_toNat (text : List Char) : joinCodes (text.map Char.toNat) = some text := by
  have plain : ∀ c : Char, ¬(0xD800 ≤ c.toNat ∧ c.toNat < 0xE000) := fun c range => by
    rcases c.valid with low | ⟨high, -⟩
    · exact absurd low (Nat.not_lt.mpr range.1)
    · exact absurd range.2 (Nat.not_lt.mpr high)
  induction text with
  | nil => rfl
  | cons c rest ih =>
    have code := plain c
    cases rest with
    | nil =>
      rw [List.map_cons, List.map_nil, joinCodes, if_neg code, Char.ofNat_toNat]
    | cons d rest =>
      rw [List.map_cons, List.map_cons] at *
      rw [joinCodes, if_neg (by omega), if_neg code, ih, Char.ofNat_toNat]
      rfl

/-! ## Escapes -/

theorem hexCode?_control {code : Nat} (small : code < 0x20) :
    hexCode? ['0', '0', Nat.digitChar (code / 16), Nat.digitChar (code % 16)] = some code := by
  have each : ∀ code < 0x20,
      hexCode? ['0', '0', Nat.digitChar (code / 16), Nat.digitChar (code % 16)] = some code := by
    decide
  exact each code small

/-- What stands for a character between quotes is read as its code. -/
theorem readString_escape (codes : List Nat) (c : Char) (rest : List Char) :
    readString codes (escape c ++ rest) = readString (c.toNat :: codes) rest := by
  unfold escape
  split
  · rfl
  · rfl
  · rfl
  · rfl
  · rfl
  · rfl
  · rfl
  · rename_i quote backslash _ _ _ _ _
    split
    · rename_i control
      show readString codes ('\\' :: 'u' :: '0' :: '0' :: Nat.digitChar (c.toNat / 16) ::
        Nat.digitChar (c.toNat % 16) :: rest) = _
      rw [readString, hexCode?_control control, Option.bind_some]
    · rename_i visible
      rw [List.singleton_append, readString.eq_def]
      split
      · rename_i same
        exact absurd (List.cons.inj same).1 quote
      · rename_i same
        exact absurd (List.cons.inj same).1 backslash
      · rename_i same
        exact absurd (List.cons.inj same).1 backslash
      · rename_i same
        cases same
        exact if_neg (not_or.mpr ⟨visible, backslash⟩)
      · rename_i same
        cases same

theorem readString_text (codes : List Nat) (text rest : List Char) :
    readString codes (text.flatMap escape ++ '"' :: rest) =
      some ((text.map Char.toNat).reverse ++ codes, rest) := by
  induction text generalizing codes with
  | nil => rw [List.flatMap_nil, List.nil_append, readString]; rfl
  | cons c text ih =>
    rw [List.flatMap_cons, List.append_assoc, readString_escape, ih]
    simp

/-- A text between quotes is read as the text. -/
theorem string?_renderText (text : String) (tail : List Char) :
    ∃ rest, renderText text ++ tail = '"' :: rest ∧ string? rest = some (some text, tail) := by
  refine ⟨text.toList.flatMap escape ++ '"' :: tail, by simp [renderText], ?_⟩
  rw [string?, readString_text, Option.map_some, List.append_nil]
  simp only [List.reverse_reverse, joinCodes_toNat, Option.map_some, String.ofList_toList]

end RecordFilter.Json.Reader
