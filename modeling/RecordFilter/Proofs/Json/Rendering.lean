import RecordFilter.Proofs.Json.Strings
import RecordFilter.Proofs.Number.Digits

/-!
# Rendered JSON reads back

A value can be written when its strings have text and each number is read whole where a value
may stand.  Rendering separates the parts of such a value by characters that no part goes on
with, so the reader finds the same parts again, and the length of the text is fuel enough
(`Json.parse?_toText`).
-/

namespace RecordFilter.Json

/-- Whether a character ends a value in front of it. -/
def Delimits (c : Char) : Prop := c = ',' ∨ c = ']' ∨ c = '\x7d'

/-- Nothing goes on with a value in front of this text. -/
def Follows (tail : List Char) : Prop := ∀ c ∈ tail.head?, Delimits c

/-- The text of a number is read whole wherever it stands. -/
def IsLiteral (literal : List Char) : Prop :=
  ∀ tail, Follows tail → Reader.number? (literal ++ tail) = some (literal, tail)

mutual

/-- Whether every string of a value has text and every number is read whole. -/
def IsWritable : Json → Prop
  | .number literal => IsLiteral literal
  | .string text => text.isSome = true
  | .array items => AreWritable items
  | .object members => MembersAreWritable members
  | _ => True

def AreWritable : List Json → Prop
  | [] => True
  | item :: rest => IsWritable item ∧ AreWritable rest

def MembersAreWritable : List (Option String × Json) → Prop
  | [] => True
  | (key, value) :: rest => key.isSome = true ∧ IsWritable value ∧ MembersAreWritable rest

end

theorem follows_cons {c : Char} {rest : List Char} (delimits : Delimits c) : Follows (c :: rest) := by
  rintro c ⟨⟩
  exact delimits

theorem renderItems_cons (item next : Json) (rest : List Json) :
    renderItems (item :: next :: rest) = item.render ++ ',' :: renderItems (next :: rest) := by
  rw [renderItems]
  exact List.cons_ne_nil next rest

theorem renderMembers_cons (key : Option String) (value : Json) (next : Option String × Json)
    (rest : List (Option String × Json)) :
    renderMembers ((key, value) :: next :: rest) =
      renderText (key.getD "") ++ ':' :: value.render ++ ',' :: renderMembers (next :: rest) := by
  rw [renderMembers]
  exact List.cons_ne_nil next rest

end RecordFilter.Json

namespace RecordFilter.Json.Reader

/-! ## Where a value begins -/

theorem skipGap_cons {c : Char} {rest : List Char} (shown : isGap c = false) :
    skipGap (c :: rest) = c :: rest :=
  List.dropWhile_cons_of_neg (by simp [shown])

theorem isGap_of_isDigit {c : Char} (digit : c.isDigit = true) : isGap c = false := by
  simp only [isGap, Bool.or_eq_false_iff, beq_eq_false_iff_ne]
  refine ⟨⟨⟨?_, ?_⟩, ?_⟩, ?_⟩ <;> rintro rfl <;> cases digit

/-- A number begins with a digit or a minus sign. -/
theorem head_of_isLiteral {literal : List Char} (valid : IsLiteral literal) :
    ∃ c rest, literal = c :: rest ∧ (c = '-' ∨ c.isDigit = true) := by
  have read := valid [] (by rintro c ⟨⟩)
  rw [List.append_nil] at read
  cases literal with
  | nil => cases read
  | cons c rest =>
    refine ⟨c, rest, rfl, ?_⟩
    by_cases minus : c = '-'
    · exact .inl minus
    · by_cases digit : c.isDigit = true
      · exact .inr digit
      · simp [Reader.number?, minus, unsigned?, digits?, digit] at read

/-- The first character of a value is no gap and closes nothing. -/
theorem head_render {json : Json} (writable : json.IsWritable) :
    ∃ c rest, json.render = c :: rest ∧ isGap c = false ∧ c ≠ ']' := by
  cases json with
  | null => exact ⟨'n', _, rfl, by decide, by decide⟩
  | bool value => cases value <;> exact ⟨_, _, rfl, by decide, by decide⟩
  | number literal =>
    rw [IsWritable] at writable
    obtain ⟨c, rest, same, first⟩ := head_of_isLiteral writable
    refine ⟨c, rest, by rw [render, same], ?_⟩
    rcases first with rfl | digit
    · decide
    · refine ⟨isGap_of_isDigit digit, ?_⟩
      rintro rfl
      cases digit
  | string text => exact ⟨'"', _, rfl, by decide, by decide⟩
  | array items => exact ⟨'[', _, by rw [render]; rfl, by decide, by decide⟩
  | object members => exact ⟨'\x7b', _, by rw [render]; rfl, by decide, by decide⟩

theorem head_renderItems {items : List Json} (some : items ≠ []) (writable : AreWritable items) :
    ∃ c rest, renderItems items = c :: rest ∧ isGap c = false ∧ c ≠ ']' := by
  match items, some, writable with
  | [item], _, writable =>
    rw [renderItems]
    exact head_render writable.1
  | item :: next :: rest, _, writable =>
    obtain ⟨c, others, same, shown, opens⟩ := head_render writable.1
    exact ⟨c, _, by rw [renderItems_cons, same]; rfl, shown, opens⟩

theorem head_renderMembers {members : List (Option String × Json)} (some : members ≠ []) :
    ∃ rest, renderMembers members = '"' :: rest := by
  match members, some with
  | [(key, value)], _ => exact ⟨_, by rw [renderMembers]; rfl⟩
  | (key, value) :: next :: rest, _ => exact ⟨_, by rw [renderMembers_cons]; rfl⟩

/-! ## Reading what was rendered -/

/-- A digit or a minus sign begins no value but a number. -/
theorem value?_number {literal tail : List Char} (valid : IsLiteral literal) (follows : Follows tail)
    (fuel : Nat) : value? (fuel + 1) (literal ++ tail) = some (.number literal, tail) := by
  have read := valid tail follows
  obtain ⟨c, rest, rfl, first⟩ := head_of_isLiteral valid
  have plain : isGap c = false ∧ c ≠ '"' ∧ c ≠ '[' ∧ c ≠ '\x7b' ∧ c ≠ 'n' ∧ c ≠ 't' ∧ c ≠ 'f' := by
    rcases first with rfl | digit
    · decide
    · refine ⟨isGap_of_isDigit digit, ?_, ?_, ?_, ?_, ?_, ?_⟩ <;> rintro rfl <;> cases digit
  obtain ⟨shown, quote, bracket, brace, n, t, f⟩ := plain
  rw [List.cons_append] at read ⊢
  rw [value?, skipGap_cons shown]
  simp [quote, bracket, brace, n, t, f, read]

theorem value?_string (text : String) (tail : List Char) (fuel : Nat) :
    value? (fuel + 1) (renderText text ++ tail) = some (.string (some text), tail) := by
  obtain ⟨rest, same, read⟩ := string?_renderText text tail
  rw [same, value?, skipGap_cons (by decide)]
  simp only [read, Option.map_some]

/-- Items are read behind an opening bracket that is not closed at once. -/
theorem value?_array {c : Char} (shown : isGap c = false) (opens : c ≠ ']') (rest : List Char)
    (fuel : Nat) : value? (fuel + 1) ('[' :: c :: rest) =
      (items? fuel (c :: rest)).map fun (items, rest) => (.array items, rest) := by
  rw [value?, skipGap_cons (by decide)]
  simp only [skipGap_cons shown]
  simp [opens]

/-- Members are read behind an opening brace that is not closed at once. -/
theorem value?_object (rest : List Char) (fuel : Nat) :
    value? (fuel + 1) ('\x7b' :: '"' :: rest) =
      (members? fuel ('"' :: rest)).map fun (members, rest) => (.object members, rest) := by
  rw [value?, skipGap_cons (by decide)]
  simp only [skipGap_cons (c := '"') (by decide)]
  rfl

/-- An item is followed by a comma and items, or by the closing bracket. -/
theorem items?_of_value {text : List Char} {item : Json} {c : Char} {rest : List Char} {fuel : Nat}
    (read : value? fuel text = some (item, c :: rest)) :
    (c = ',' → items? (fuel + 1) text =
      (items? fuel rest).map fun (items, rest) => (item :: items, rest)) ∧
    (c = ']' → items? (fuel + 1) text = some ([item], rest)) := by
  refine ⟨?_, ?_⟩
  · rintro rfl
    rw [items?, read, Option.bind_some]
    simp only [skipGap_cons (c := ',') (by decide)]
  · rintro rfl
    rw [items?, read, Option.bind_some]
    simp only [skipGap_cons (c := ']') (by decide)]

/-- A member is followed by a comma and members, or by the closing brace. -/
theorem members?_of_value {key : String} {text : List Char} {value : Json} {c : Char}
    {rest : List Char} {fuel : Nat} (read : value? fuel text = some (value, c :: rest)) :
    (c = ',' → members? (fuel + 1) (renderText key ++ ':' :: text) =
      (members? fuel rest).map fun (members, rest) => ((some key, value) :: members, rest)) ∧
    (c = '\x7d' → members? (fuel + 1) (renderText key ++ ':' :: text) =
      some ([(some key, value)], rest)) := by
  obtain ⟨behind, same, keyRead⟩ := string?_renderText key (':' :: text)
  rw [same]
  refine ⟨?_, ?_⟩
  · rintro rfl
    rw [members?, skipGap_cons (by decide)]
    simp only [keyRead, Option.bind_some, skipGap_cons (c := ':') (by decide), read,
      skipGap_cons (c := ',') (by decide)]
  · rintro rfl
    rw [members?, skipGap_cons (by decide)]
    simp only [keyRead, Option.bind_some, skipGap_cons (c := ':') (by decide), read,
      skipGap_cons (c := '\x7d') (by decide)]

mutual

/-- A rendered value is read back with the text behind it, on as much fuel as it has
    characters. -/
theorem value?_render : (json : Json) → json.IsWritable → ∀ {fuel : Nat} {tail : List Char},
    json.render.length ≤ fuel + 1 → Follows tail →
      value? (fuel + 1) (json.render ++ tail) = some (json, tail)
  | .null, _, _, _, _, _ => rfl
  | .bool false, _, _, _, _, _ => rfl
  | .bool true, _, _, _, _, _ => rfl
  | .number literal, writable, fuel, tail, _, follows => by
    rw [IsWritable] at writable
    rw [render]
    exact value?_number writable follows fuel
  | .string text, writable, fuel, tail, _, _ => by
    rw [IsWritable, Option.isSome_iff_exists] at writable
    obtain ⟨text, rfl⟩ := writable
    rw [render]
    exact value?_string text tail fuel
  | .array [], _, _, _, _, _ => rfl
  | .array (item :: rest), writable, fuel, tail, enough, _ => by
    rw [IsWritable] at writable
    have filled := List.cons_ne_nil item rest
    obtain ⟨c, others, same, shown, opens⟩ := head_renderItems filled writable
    rw [render, List.length_append, List.length_cons, List.length_singleton] at enough
    obtain ⟨less, rfl⟩ : ∃ less, fuel = less + 1 := ⟨fuel - 1, by omega⟩
    have read : items? (less + 1) (renderItems (item :: rest) ++ ']' :: tail) =
        some (item :: rest, tail) := items?_render (item :: rest) filled writable (by omega)
    rw [render, List.append_assoc, List.cons_append, List.singleton_append]
    rw [same, List.cons_append] at read ⊢
    rw [value?_array shown opens, read]
    rfl
  | .object [], _, _, _, _, _ => rfl
  | .object (member :: rest), writable, fuel, tail, enough, _ => by
    rw [IsWritable] at writable
    have filled := List.cons_ne_nil member rest
    obtain ⟨others, same⟩ := head_renderMembers filled
    rw [render, List.length_append, List.length_cons, List.length_singleton] at enough
    obtain ⟨less, rfl⟩ : ∃ less, fuel = less + 1 := ⟨fuel - 1, by omega⟩
    have read : members? (less + 1) (renderMembers (member :: rest) ++ '\x7d' :: tail) =
        some (member :: rest, tail) := members?_render (member :: rest) filled writable (by omega)
    rw [render, List.append_assoc, List.cons_append, List.singleton_append]
    rw [same, List.cons_append] at read ⊢
    rw [value?_object, read]
    rfl

theorem items?_render : (items : List Json) → items ≠ [] → AreWritable items →
    ∀ {fuel : Nat} {tail : List Char}, (renderItems items).length ≤ fuel →
      items? (fuel + 1) (renderItems items ++ ']' :: tail) = some (items, tail)
  | [], absent, _, _, _, _ => absurd rfl absent
  | [item], _, ⟨writable, _⟩, fuel, tail, enough => by
    obtain ⟨c, others, same, -, -⟩ := head_render writable
    rw [renderItems] at enough ⊢
    have positive : 0 < item.render.length := by simp [same]
    obtain ⟨less, rfl⟩ : ∃ less, fuel = less + 1 := ⟨fuel - 1, by omega⟩
    exact (items?_of_value (value?_render item writable enough (follows_cons (.inr (.inl rfl))))).2 rfl
  | item :: next :: rest, _, ⟨writable, more⟩, fuel, tail, enough => by
    rw [renderItems_cons, List.length_append, List.length_cons] at enough
    obtain ⟨less, rfl⟩ : ∃ less, fuel = less + 1 := ⟨fuel - 1, by omega⟩
    have read : items? (less + 1) (renderItems (next :: rest) ++ ']' :: tail) =
        some (next :: rest, tail) :=
      items?_render (next :: rest) (List.cons_ne_nil next rest) more (by omega)
    rw [renderItems_cons, List.append_assoc, List.cons_append,
      (items?_of_value (value?_render item writable (by omega) (follows_cons (.inl rfl)))).1 rfl, read]
    rfl

theorem members?_render : (members : List (Option String × Json)) → members ≠ [] →
    MembersAreWritable members → ∀ {fuel : Nat} {tail : List Char},
      (renderMembers members).length ≤ fuel →
        members? (fuel + 1) (renderMembers members ++ '\x7d' :: tail) = some (members, tail)
  | [], absent, _, _, _, _ => absurd rfl absent
  | [(some key, value)], _, ⟨_, writable, _⟩, fuel, tail, enough => by
    rw [renderMembers, Option.getD_some] at enough ⊢
    rw [List.length_append, List.length_cons] at enough
    obtain ⟨less, rfl⟩ : ∃ less, fuel = less + 1 := ⟨fuel - 1, by omega⟩
    rw [List.append_assoc, List.cons_append]
    exact (members?_of_value (value?_render value writable (by omega)
      (follows_cons (.inr (.inr rfl))))).2 rfl
  | (some key, value) :: next :: rest, _, ⟨_, writable, more⟩, fuel, tail, enough => by
    rw [renderMembers_cons, Option.getD_some] at enough ⊢
    simp only [List.length_append, List.length_cons] at enough
    obtain ⟨less, rfl⟩ : ∃ less, fuel = less + 1 := ⟨fuel - 1, by omega⟩
    have read : members? (less + 1) (renderMembers (next :: rest) ++ '\x7d' :: tail) =
        some (next :: rest, tail) :=
      members?_render (next :: rest) (List.cons_ne_nil next rest) more (by omega)
    simp only [List.append_assoc, List.cons_append]
    rw [(members?_of_value (value?_render value writable (by omega) (follows_cons (.inl rfl)))).1 rfl,
      read]
    rfl

end

end RecordFilter.Json.Reader

namespace RecordFilter.Json

/-- A value that can be written is read back from its text. -/
theorem parse?_toText {json : Json} (writable : json.IsWritable) : parse? json.toText = some json := by
  have read : Reader.value? (json.render.length + 1) (json.render ++ []) = some (json, []) :=
    Reader.value?_render json writable (Nat.le_succ _) (by rintro c ⟨⟩)
  rw [List.append_nil] at read
  unfold parse? toText
  simp only [String.toList_ofList, read, Option.bind_some]
  rfl

end RecordFilter.Json
