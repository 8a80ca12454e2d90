import Mathlib.Data.List.Forall2
import RecordFilter.Proofs.Json.Numbers
import RecordFilter.Proofs.Number.DecimalText
import RecordFilter.Proofs.Number.Reading
import RecordFilter.Proofs.Text.Uuid
import RecordFilter.Proofs.Time.Text
import RecordFilter.Value.Tagged

/-!
# Tagged values read back

Five variants are carried as strings and the absent value has no content, so only the tag
tells them apart.  Reading goes by the tag alone, and the texts of the leaves read back, so a
value reads back as itself from its JSON.  The one thing that is lost is the minus sign of a
decimal zero.

The JSON itself survives as text, whatever characters its strings hold, but the reader of text
refuses what is nested too deeply.  A list takes two levels, one for its object and one for its
items, so of lists inside each other 63 read back and no more (`Value.reads_back`).  Doubles are
carried as text here; a value that holds none is written alike in both forms.
-/

namespace RecordFilter.Value

/-! ## What reads back -/

/-- Two values with the same variant at every position, lists of the same length in the same
    order, decimals of the same worth and the same scale, and otherwise the same leaves. -/
inductive Agrees : Value → Value → Prop where
  | null : Agrees .null .null
  | bool (b : Bool) : Agrees (.bool b) (.bool b)
  | int (n : Int64) : Agrees (.int n) (.int n)
  | float (x : Binary64) : Agrees (.float x) (.float x)
  | decimal {d back : Decimal} (units : back.units = d.units) (scale : back.scale = d.scale) :
      Agrees (.decimal d) (.decimal back)
  | text (s : String) : Agrees (.text s) (.text s)
  | dateTime (d : DateTime) : Agrees (.dateTime d) (.dateTime d)
  | uuid (u : Uuid) : Agrees (.uuid u) (.uuid u)
  | list {items back : List Value} (each : List.Forall₂ Agrees items back) :
      Agrees (.list items) (.list back)

mutual

/-- Whether a decimal zero somewhere in the value has a minus sign. -/
def hasNegativeZero : Value → Bool
  | .decimal d => d.negative && d.magnitude == 0
  | .list items => anyNegativeZero items
  | _ => false

def anyNegativeZero : List Value → Bool
  | [] => false
  | item :: rest => hasNegativeZero item || anyNegativeZero rest

end

mutual

/-- Whether a double stands somewhere in the value. -/
def hasDouble : Value → Bool
  | .float _ => true
  | .list items => anyDouble items
  | _ => false

def anyDouble : List Value → Bool
  | [] => false
  | item :: rest => hasDouble item || anyDouble rest

end

/-- The doubles of a value are carried as text, as they are when there are none. -/
def CarriesText (form : FloatForm) (value : Value) : Prop :=
  form = .text ∨ value.hasDouble = false

mutual

/-- The value without the signs of decimal zeros. -/
def withoutZeroSigns : Value → Value
  | .decimal d => .decimal d.withoutZeroSign
  | .list items => .list (allWithoutZeroSigns items)
  | value => value

def allWithoutZeroSigns : List Value → List Value
  | [] => []
  | item :: rest => withoutZeroSigns item :: allWithoutZeroSigns rest

end

mutual

theorem agrees_withoutZeroSigns : (value : Value) → Agrees value value.withoutZeroSigns
  | .null => .null
  | .bool b => .bool b
  | .int n => .int n
  | .float x => .float x
  | .decimal d => .decimal d.units_withoutZeroSign rfl
  | .text s => .text s
  | .dateTime d => .dateTime d
  | .uuid u => .uuid u
  | .list items => .list (forall₂_withoutZeroSigns items)

theorem forall₂_withoutZeroSigns : (items : List Value) →
    List.Forall₂ Agrees items (allWithoutZeroSigns items)
  | [] => .nil
  | item :: rest => .cons (agrees_withoutZeroSigns item) (forall₂_withoutZeroSigns rest)

end

mutual

theorem withoutZeroSigns_eq_self_iff : (value : Value) →
    (value.withoutZeroSigns = value ↔ value.hasNegativeZero = false)
  | .decimal d => by
    rw [withoutZeroSigns, hasNegativeZero, decimal.injEq, d.withoutZeroSign_eq_self_iff]
    simp
  | .list items => by
    rw [withoutZeroSigns, hasNegativeZero, list.injEq]
    exact allWithoutZeroSigns_eq_self_iff items
  | .null | .bool _ | .int _ | .float _ | .text _ | .dateTime _ | .uuid _ => iff_of_true rfl rfl

theorem allWithoutZeroSigns_eq_self_iff : (items : List Value) →
    (allWithoutZeroSigns items = items ↔ anyNegativeZero items = false)
  | [] => iff_of_true rfl rfl
  | item :: rest => by
    rw [allWithoutZeroSigns, anyNegativeZero, List.cons.injEq, Bool.or_eq_false_iff,
      withoutZeroSigns_eq_self_iff item, allWithoutZeroSigns_eq_self_iff rest]

end

/-! ## Tags -/

theorem ofTag?_name (heldBack : Bool) (tag : Tag) :
    ofTag? heldBack (.ofText tag.name) = some tag := by
  cases tag <;> rfl

theorem shape?_tagged (tag content : Json) :
    shape? [(some tagKey, tag), (some contentKey, content)] = some ⟨tag, true, false⟩ := by
  simp [shape?, tagKey, contentKey]

/-- A tag in front of its content decides how the content is read. -/
theorem ofJson?_tagged (form : FloatForm) (tag : Tag) (content : Json) :
    ofJson? form false (tagged tag content) = contentAs? form false tag content := by
  have other : ¬some tagKey = some contentKey := by decide
  rw [tagged, Json.ofMembers]
  simp only [List.map_cons, List.map_nil]
  rw [ofJson?, shape?_tagged, Option.bind_some, ofTag?_name, Option.bind_some, if_pos rfl,
    contentOf?, if_neg other, contentOf?, if_pos rfl]
  rfl

/-- Content in a string is never taken for a list. -/
theorem ofJson?_taggedText (form : FloatForm) (tag : Tag) (text : String) :
    ofJson? form false (tagged tag (.ofText text)) = ofContent? form tag (.string (some text)) := by
  rw [ofJson?_tagged, Json.ofText, contentAs?]
  rintro items ⟨⟩

theorem int64?_toInt (n : Int64) : int64? n.toInt = some n := by
  rw [int64?, if_pos ⟨n.le_toInt, n.toInt_lt⟩, Int64.ofInt_toInt]

theorem ofJson?_taggedInt (form : FloatForm) (n : Int64) :
    ofJson? form false (tagged .int (.ofInt n.toInt)) = some (.int n) := by
  rw [ofJson?_tagged, Json.ofInt, contentAs?, ofContent?, number?,
    JsonNumber.ofLiteral?_toString n.le_toInt n.toInt_lt]
  · simp only [int64?_toInt, Option.map_some]
  · rintro items ⟨⟩

/-! ## Reading what was written -/

mutual

/-- Reading a written value gives the value without the signs of decimal zeros. -/
theorem ofJson?_toJson (form : FloatForm) : (value : Value) → CarriesText form value →
    ofJson? form false (value.toJson form) = some value.withoutZeroSigns
  | .null, _ => rfl
  | .bool b, _ => by
    rw [toJson, ofJson?_tagged]
    rfl
  | .int n, _ => ofJson?_taggedInt form n
  | .float x, carried => by
    obtain rfl := carried.resolve_right nofun
    rw [toJson, ofJson?_taggedText, ofContent?, Option.bind_some, Binary64.ofText?_toText]
    rfl
  | .decimal d, _ => by
    rw [toJson, ofJson?_taggedText, ofContent?, Option.bind_some, Decimal.ofText?_toText]
    rfl
  | .text s, _ => by
    rw [toJson, ofJson?_taggedText]
    rfl
  | .dateTime d, _ => by
    rw [toJson, ofJson?_taggedText, ofContent?, Option.bind_some, DateTime.ofText?_toText]
    rfl
  | .uuid u, _ => by
    rw [toJson, ofJson?_taggedText, ofContent?, Option.bind_some, Uuid.ofText?_toText]
    rfl
  | .list items, carried => by
    rw [toJson, ofJson?_tagged, contentAs?, if_pos rfl, ofJsonList?_toJsonList form items carried]
    rfl

theorem ofJsonList?_toJsonList (form : FloatForm) : (items : List Value) →
    (form = .text ∨ anyDouble items = false) →
      ofJsonList? form false (toJsonList form items) = some (allWithoutZeroSigns items)
  | [], _ => rfl
  | item :: rest, carried => by
    simp only [anyDouble, Bool.or_eq_false_iff, or_and_left] at carried
    rw [toJsonList, ofJsonList?, ofJson?_toJson form item carried.1, Option.bind_some,
      ofJsonList?_toJsonList form rest carried.2]
    rfl

end

/-! ## Text -/

theorem isWritable_tagged {tag : Tag} {content : Json} (writable : content.IsWritable) :
    (tagged tag content).IsWritable := by
  rw [tagged, Json.ofMembers]
  simp only [List.map_cons, List.map_nil]
  rw [Json.IsWritable]
  exact ⟨rfl, rfl, rfl, writable, trivial⟩

mutual

/-- The tagged form of a value can be written. -/
theorem isWritable_toJson (form : FloatForm) : (value : Value) → CarriesText form value →
    (value.toJson form).IsWritable
  | .null, _ => ⟨rfl, rfl, trivial⟩
  | .bool _, _ => isWritable_tagged trivial
  | .int n, _ => isWritable_tagged (Json.isLiteral_toString n.toInt)
  | .float _, carried => by
    obtain rfl := carried.resolve_right nofun
    exact isWritable_tagged rfl
  | .decimal _, _ | .text _, _ | .dateTime _, _ | .uuid _, _ => isWritable_tagged rfl
  | .list items, carried => isWritable_tagged (areWritable_toJsonList form items carried)

theorem areWritable_toJsonList (form : FloatForm) : (items : List Value) →
    (form = .text ∨ anyDouble items = false) → Json.AreWritable (toJsonList form items)
  | [], _ => trivial
  | item :: rest, carried => by
    simp only [anyDouble, Bool.or_eq_false_iff, or_and_left] at carried
    exact ⟨isWritable_toJson form item carried.1, areWritable_toJsonList form rest carried.2⟩

end

/-! ## Depth -/

mutual

/-- How many lists stand inside each other. -/
def nesting : Value → Nat
  | .list items => 1 + nestingOf items
  | _ => 0

def nestingOf : List Value → Nat
  | [] => 0
  | item :: rest => max (nesting item) (nestingOf rest)

end

/-- The object with a tag adds one level to the content. -/
theorem depth_tagged (tag : Tag) (content : Json) :
    depth false (tagged tag content) = 1 + depth false content := by
  have other : (some tagKey == some contentKey) = false := by decide
  rw [tagged, Json.ofMembers]
  simp only [List.map_cons, List.map_nil]
  rw [depth, shape?_tagged, depthOfMembers, depthOfMembers, depthOfMembers]
  simp [other, Json.ofText, depth]

theorem depth_ofBinary64 (x : Binary64) : depth false (.ofBinary64 x) = 0 := by
  rw [Json.ofBinary64]
  split <;> rfl

mutual

/-- Each list takes two levels, and a value that is no list takes one. -/
theorem depth_toJson (form : FloatForm) : (value : Value) →
    2 * value.nesting ≤ depth false (value.toJson form) ∧
      depth false (value.toJson form) ≤ 2 * value.nesting + 1
  | .null => ⟨Nat.zero_le _, Nat.le_refl 1⟩
  | .bool _ | .int _ | .decimal _ | .text _ | .dateTime _ | .uuid _ => by
    simp [nesting, toJson, depth_tagged, depth, Json.ofText, Json.ofInt]
  | .float x => by
    cases form with
    | number => simp [nesting, toJson, depth_tagged, depth_ofBinary64]
    | text => simp [nesting, toJson, depth_tagged, depth, Json.ofText]
  | .list items => by
    have below := depthOfItems_toJsonList form items
    rw [nesting, toJson, depth_tagged, depth]
    omega

theorem depthOfItems_toJsonList (form : FloatForm) : (items : List Value) →
    2 * nestingOf items ≤ depthOfItems false (toJsonList form items) ∧
      depthOfItems false (toJsonList form items) ≤ 2 * nestingOf items + 1
  | [] => ⟨Nat.le_refl 0, Nat.zero_le 1⟩
  | item :: rest => by
    have here := depth_toJson form item
    have later := depthOfItems_toJsonList form rest
    rw [nestingOf, toJsonList, depthOfItems]
    omega

end

/-- A value of at most 63 lists inside each other is read back from its text, without the signs
    of decimal zeros; a deeper one is refused. -/
theorem ofJsonText?_toText {form : FloatForm} {value : Value} (carried : CarriesText form value) :
    ofJsonText? form (value.toJson form).toText =
      if value.nesting ≤ 63 then some value.withoutZeroSigns else none := by
  have levels := depth_toJson form value
  have within : depth false (value.toJson form) ≤ depthLimit ↔ value.nesting ≤ 63 := by
    rw [depthLimit]
    omega
  rw [ofJsonText?, Json.parse?_toText (isWritable_toJson form value carried), Option.bind_some,
    ofJson?_toJson form value carried]
  simp only [within]

/-- A value of at most 63 lists inside each other reads back as itself from the text of its tagged
    form, with every variant in its place; only a decimal zero with a minus sign comes back
    without it.  A deeper value is refused. -/
theorem reads_back (form : FloatForm) (value : Value) (carried : CarriesText form value) :
    (value.nesting ≤ 63 →
      ∃ back, ofJsonText? form (value.toJson form).toText = some back ∧ Agrees value back ∧
        (back = value ↔ value.hasNegativeZero = false)) ∧
    (63 < value.nesting → ofJsonText? form (value.toJson form).toText = none) := by
  rw [ofJsonText?_toText carried]
  refine ⟨fun within => ?_, fun beyond => if_neg (by omega)⟩
  exact ⟨value.withoutZeroSigns, if_pos within, agrees_withoutZeroSigns value,
    withoutZeroSigns_eq_self_iff value⟩

/-- Variants with the look of others, inside 63 lists. -/
theorem reads_back_mixed :
    let mixed : Value := .list [.null, .text "42", .int 42, .decimal ⟨false, 4200, 2, by decide⟩,
      .float (Binary64.zero true), .uuid Uuid.nil, .text Uuid.nil.toText,
      .dateTime DateTime.epoch, .list []]
    let value := Nat.repeat (fun value => .list [value]) 61 mixed
    value.nesting = 63 ∧ ofJsonText? .text (value.toJson .text).toText = some value := by
  have reads : ∀ value : Value, value.nesting = 63 → value.hasNegativeZero = false →
      ofJsonText? .text (value.toJson .text).toText = some value := by
    intro value within signed
    obtain ⟨back, read, -, same⟩ := (reads_back .text value (.inl rfl)).1 within.le
    rwa [same.mpr signed] at read
  exact ⟨by decide +kernel, reads _ (by decide +kernel) (by decide +kernel)⟩

/-- Of 64 lists inside each other nothing is read back. -/
theorem ofJsonText?_of_deep :
    let deep : Value := Nat.repeat (fun value => .list [value]) 63 (.list [])
    ∀ form, ofJsonText? form (deep.toJson form).toText = none := by
  intro deep form
  have carried : CarriesText form deep := .inr (by decide +kernel)
  rw [ofJsonText?_toText carried]
  exact if_neg (by decide +kernel)

end RecordFilter.Value
