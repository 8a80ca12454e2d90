import RecordFilter.Uuid

/-!
# Identifiers read back from their text

The text has the 32 digits of the number in five groups, and the reader that takes the groups
apart gets the same digits (`Uuid.ofText?_toText`).  None of the reader's other forms takes a
text of this length with a digit in front.
-/

namespace RecordFilter.Uuid

/-! ## Digits -/

/-- The number that hexadecimal digits stand for. -/
def worth (values : List Nat) : Nat := values.foldl (fun n v => n * 16 + v) 0

theorem hexValue?_digitChar {digit : Nat} (small : digit < 16) :
    hexValue? digit.digitChar = some digit := by
  have each : ∀ digit < 16, hexValue? digit.digitChar = some digit := by decide
  exact each digit small

theorem mapM_hexValue? {values : List Nat} (small : ∀ value ∈ values, value < 16) :
    (values.map Nat.digitChar).mapM hexValue? = some values := by
  induction values with
  | nil => rfl
  | cons value values ih =>
    rw [List.map_cons, List.mapM_cons, hexValue?_digitChar (small value List.mem_cons_self),
      ih fun value member => small value (List.mem_cons_of_mem _ member)]
    rfl

/-- The digits of a number stand for the number. -/
theorem exists_values_toDigits (n : Nat) :
    ∃ values, Nat.toDigits 16 n = values.map Nat.digitChar ∧ (∀ value ∈ values, value < 16) ∧
      worth values = n := by
  induction n using Nat.strongRecOn with
  | ind n ih =>
    rw [Nat.toDigits_eq_if (by decide)]
    split
    · rename_i small
      exact ⟨[n], rfl, by simpa using small, by simp [worth]⟩
    · obtain ⟨values, written, small, same⟩ := ih (n / 16) (by omega)
      have last := Nat.mod_lt n (by decide : 0 < 16)
      refine ⟨values ++ [n % 16], by rw [written, List.map_append]; rfl, ?_, ?_⟩
      · intro value member
        rcases List.mem_append.mp member with front | back
        · exact small value front
        · rw [List.mem_singleton.mp back]
          exact last
      · rw [worth, List.foldl_append, ← worth, same, List.foldl_cons, List.foldl_nil]
        omega

/-- The digits of an identifier, with zeros in front. -/
def digits (u : Uuid) : List Char :=
  List.replicate (32 - (Nat.toDigits 16 u.bits.val).length) '0' ++ Nat.toDigits 16 u.bits.val

theorem length_digits (u : Uuid) : u.digits.length = 32 := by
  have short : (Nat.toDigits 16 u.bits.val).length ≤ 32 :=
    (Nat.length_toDigits_le_iff (by decide) (by decide)).mpr u.bits.isLt
  rw [digits, List.length_append, List.length_replicate, Nat.sub_add_cancel short]

/-- Zeros in front of a number do not count. -/
theorem exists_values_digits (u : Uuid) :
    ∃ values, u.digits = values.map Nat.digitChar ∧ (∀ value ∈ values, value < 16) ∧
      worth values = u.bits.val := by
  unfold digits
  generalize 32 - (Nat.toDigits 16 u.bits.val).length = zeros
  induction zeros with
  | zero => exact exists_values_toDigits u.bits.val
  | succ zeros ih =>
    obtain ⟨values, written, small, same⟩ := ih
    refine ⟨0 :: values, ?_, ?_, by simpa [worth] using same⟩
    · rw [List.replicate_succ, List.cons_append, written]
      rfl
    · rintro value (_ | ⟨_, member⟩)
      · decide
      · exact small value member

theorem ofDigits?_digits (u : Uuid) : ofDigits? u.digits = some u := by
  obtain ⟨values, written, small, same⟩ := u.exists_values_digits
  rw [ofDigits?, if_pos u.length_digits, written, mapM_hexValue? small, Option.map_some]
  unfold worth at same
  rw [same]
  simp

/-- No digit is a letter of the scheme. -/
theorem toLower_ne_of_mem_digits {u : Uuid} {c : Char} (member : c ∈ u.digits) :
    c.toLower ≠ 'u' := by
  obtain ⟨values, written, small, -⟩ := u.exists_values_digits
  rw [written] at member
  obtain ⟨value, among, rfl⟩ := List.mem_map.mp member
  have each : ∀ value < 16, (Nat.digitChar value).toLower ≠ 'u' := by decide
  exact each value (small value among)

/-! ## Groups -/

/-- Five groups joined by hyphens are read for their digits. -/
theorem ofGroups?_join {a b c d e : List Char} (lengthA : a.length = 8) (lengthB : b.length = 4)
    (lengthC : c.length = 4) (lengthD : d.length = 4) (lengthE : e.length = 12) :
    ofGroups? (a ++ '-' :: b ++ '-' :: c ++ '-' :: d ++ '-' :: e) =
      ofDigits? (a ++ b ++ c ++ d ++ e) := by
  simp [ofGroups?, lengthA, lengthB, lengthC, lengthD, lengthE, List.getElem?_append,
    List.drop_append, List.drop_of_length_le, List.take_of_length_le]

/-- The text of an identifier reads back as the identifier. -/
theorem ofText?_toText (u : Uuid) : ofText? u.toText = some u := by
  have length := u.length_digits
  have joined : u.digits.take 8 ++ (u.digits.drop 8).take 4 ++ (u.digits.drop 12).take 4 ++
      (u.digits.drop 16).take 4 ++ (u.digits.drop 20).take 12 = u.digits := by
    rw [← List.take_add, ← List.take_add, ← List.take_add, ← List.take_add]
    exact List.take_of_length_le (by omega)
  have groups := @ofGroups?_join (u.digits.take 8) ((u.digits.drop 8).take 4)
    ((u.digits.drop 12).take 4) ((u.digits.drop 16).take 4) ((u.digits.drop 20).take 12)
    (by simp [length]) (by simp [length]) (by simp [length]) (by simp [length]) (by simp [length])
  rw [joined, ofDigits?_digits] at groups
  have text : u.toText.toList = u.digits.take 8 ++ '-' :: (u.digits.drop 8).take 4 ++
      '-' :: (u.digits.drop 12).take 4 ++ '-' :: (u.digits.drop 16).take 4 ++
      '-' :: (u.digits.drop 20).take 12 := by
    rw [toText, String.toList_ofList]
    rfl
  have size : u.toText.toList.length = 36 := by
    rw [text]
    simp [length]
  have plain : "urn:uuid:".toList.isPrefixOf (u.toText.toList.map Char.toLower) = false := by
    obtain ⟨first, rest, same⟩ := List.exists_cons_of_length_pos (by omega : 0 < u.digits.length)
    have other := toLower_ne_of_mem_digits (same ▸ List.mem_cons_self : first ∈ u.digits)
    have scheme : "urn:uuid:".toList = 'u' :: "rn:uuid:".toList := rfl
    rw [text, same, scheme]
    simp [List.isPrefixOf, Ne.symm other]
  unfold ofText?
  simp only
  rw [if_neg (by omega), if_neg (by omega), if_neg (Bool.eq_false_iff.mp plain), text]
  exact groups

end RecordFilter.Uuid
