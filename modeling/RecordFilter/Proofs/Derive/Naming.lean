import RecordFilter.Proofs.Derive.Acceptance
import RecordFilter.Proofs.Text.Words

/-!
# Names of constants

A constant is named for the words of its field in upper case, whatever name an entry gives the
property.  The names of properties are checked for repetition, those of constants are not: two
constants have one name when the words of their fields are the same up to case
(`Declaration.constants_distinct_unless_renamed`).  The name of a constant is made before the
entries of its field are read, and where it is no identifier nothing is derived
(`Declaration.unnamable_iff`).
-/

namespace RecordFilter.Derive

open Text (Ascii Convention)

namespace Field

/-- Whether an entry gives the property of the field a name. -/
def isRenamed (field : Field) : Bool := !(field.entries.filterMap Entry.renaming?).isEmpty

/-- The words of the name of the field, in upper case. -/
def capitals (field : Field) : List (List Char) :=
  (Text.words (plainName field.name).toList).map Text.uppercase

variable {field other : Field}

theorem property_of_not_renamed (kept : field.isRenamed = false) (convention : Convention) :
    field.property convention = convention.apply (plainName field.name) := by
  have unnamed : field.entries.filterMap Entry.renaming? = [] := by simpa [isRenamed] using kept
  rw [property, unnamed, List.getLast?_nil, Option.getD_none]

theorem ascii_plainName {name : String} (ascii : Ascii name.toList) :
    Ascii (plainName name).toList := by
  unfold plainName
  split
  · rename_i rest raw
    rw [raw] at ascii
    rw [String.toList_ofList]
    exact ascii.of_cons.2.of_cons.2
  · exact ascii

/-- Fields with ASCII names are given one constant when their words are the same up to case. -/
theorem constantText_eq_iff (ascii : Ascii field.name.toList) (ascii' : Ascii other.name.toList) :
    field.constantText = other.constantText ↔ field.capitals = other.capitals := by
  rw [constantText, constantText, Convention.apply, Convention.apply, String.ofList_inj,
    Text.uppercase_words_inj (ascii_plainName ascii) (ascii_plainName ascii'), capitals, capitals]

/-- Fields that keep their names and are given one constant are given one property. -/
theorem property_eq_of_constantText (ascii : Ascii field.name.toList)
    (ascii' : Ascii other.name.toList) (kept : field.isRenamed = false)
    (kept' : other.isRenamed = false) (same : field.constantText = other.constantText)
    (convention : Convention) : field.property convention = other.property convention := by
  rw [property_of_not_renamed kept, property_of_not_renamed kept']
  exact Convention.apply_eq_of_upperSnake (ascii_plainName ascii) (ascii_plainName ascii') same
    convention

end Field

namespace Declaration

/-- The constants are named for the described fields, in order.  Two fields with ASCII names are
    given one constant when their words are the same up to case and not otherwise, and then one
    of the two is renamed: with the names they have they would be given one property, too.  So
    without renamed fields the constants are distinct. -/
theorem constants_distinct_unless_renamed {declaration : Declaration} {derivation : Derivation}
    (derived : declaration.derive = .ok derivation) :
    derivation.constants.map Constant.name = declaration.described.map Field.constantText ∧
    declaration.described.Pairwise (fun field other =>
      Ascii field.name.toList → Ascii other.name.toList →
        (field.constantText = other.constantText ↔ field.capitals = other.capitals) ∧
        (field.capitals = other.capitals → field.isRenamed = true ∨ other.isRenamed = true)) ∧
    ((∀ field ∈ declaration.described, Ascii field.name.toList ∧ field.isRenamed = false) →
      (derivation.constants.map Constant.name).Nodup) := by
  obtain ⟨accepted, rfl⟩ := derive_eq_ok.mp derived
  obtain ⟨supported, -⟩ := failure?_eq_none.mp accepted
  have apart := List.pairwise_map.mp supported.distinct
  have names : declaration.derivation.constants.map Constant.name =
      declaration.described.map Field.constantText := List.map_map
  refine ⟨names, apart.imp ?_, ?_⟩
  · intro field other distinct ascii ascii'
    have shared := Field.constantText_eq_iff ascii ascii'
    refine ⟨shared, ?_⟩
    intro same
    by_contra kept
    rw [not_or, Bool.not_eq_true, Bool.not_eq_true] at kept
    exact distinct (Field.property_eq_of_constantText ascii ascii' kept.1 kept.2
      (shared.mpr same) declaration.convention)
  · intro plain
    rw [names, List.Nodup, List.pairwise_map]
    refine apart.imp_of_mem ?_
    intro field other member member' distinct same
    obtain ⟨ascii, kept⟩ := plain field member
    obtain ⟨ascii', kept'⟩ := plain other member'
    exact distinct (Field.property_eq_of_constantText ascii ascii' kept kept' same
      declaration.convention)

/-- Two spellings of the same words; only the second property has a name of its own. -/
theorem constants_distinct_unless_renamed_user :
    let id : Field := ⟨"userId", [.word "i64".toList], []⟩
    let login : Field :=
      ⟨"user_id", [.word "String".toList], [.named "rename" (some (.text "Login"))]⟩
    let user : Declaration := ⟨"User", .namedFields, [], [], [id, login]⟩
    user.derive = .ok ⟨"User", Options.default.library,
      [⟨"USER_ID", "userId", "UserId", .property [.word "i64".toList]⟩,
        ⟨"USER_ID", "user_id", "Login", .property [.word "String".toList]⟩]⟩ ∧
      id.capitals = login.capitals := by
  intro id login user
  have derived : user.derive = .ok ⟨"User", Options.default.library,
      [⟨"USER_ID", "userId", "UserId", .property [.word "i64".toList]⟩,
        ⟨"USER_ID", "user_id", "Login", .property [.word "String".toList]⟩]⟩ :=
    derive_eq_ok.mpr ⟨by decide +kernel, by decide +kernel⟩
  have ascii : Ascii id.name.toList ∧ Ascii login.name.toList := by decide +kernel
  have same : id.constantText = login.constantText := by decide +kernel
  obtain ⟨-, pairs, -⟩ := constants_distinct_unless_renamed derived
  obtain ⟨shared, -⟩ := List.pairwise_pair.mp pairs ascii.1 ascii.2
  exact ⟨derived, shared.mp same⟩

/-- A name for the second property hides that the two fields are given one constant. -/
theorem constants_of_shared_words :
    let user : Declaration := ⟨"User", .namedFields, [], [],
      [⟨"foo1", [.word "i64".toList], []⟩,
        ⟨"foo_1", [.word "i64".toList], [.named "rename" (some (.text "B"))]⟩]⟩
    ∃ derivation, user.derive = .ok derivation ∧
      derivation.constants.map Constant.name = ["FOO_1", "FOO_1"] ∧
      ¬(derivation.constants.map Constant.name).Nodup := by
  intro user
  refine ⟨⟨"User", Options.default.library,
    [⟨"FOO_1", "foo1", "Foo1", .property [.word "i64".toList]⟩,
      ⟨"FOO_1", "foo_1", "B", .property [.word "i64".toList]⟩]⟩, ?_, rfl, by decide⟩
  exact derive_eq_ok.mpr ⟨by decide +kernel, by decide +kernel⟩

/-- Only a field makes a declaration unnamable, and only when nothing else failed before. -/
theorem failure?_eq_unnamable {declaration : Declaration} :
    declaration.failure? = some .unnamable ↔
      failureOf declaration.checkShape = none ∧
      declaration.entries.findSome? Options.failure? = none ∧
      declaration.fields.findSome? Field.failure? = some .unnamable := by
  have shapeNamable := declaration.failureOf_checkShape_ne
  have entriesNamable : declaration.entries.findSome? Options.failure? ≠ some .unnamable := by
    intro refused
    obtain ⟨entry, -, failed⟩ := List.exists_of_findSome?_eq_some refused
    exact Options.failure?_ne_unnamable entry failed
  have namesNamable :
      (repeated? [] declaration.properties).map Failure.duplicateProperty ≠ some .unnamable := by
    simp
  simp only [failure?, Option.or_eq_some_iff, shapeNamable, entriesNamable, namesNamable,
    false_or, and_false, or_false]

/-- Nothing is derived for want of a name when the type and its entries are in order and, after
    fields that can be described, the constant of one, skipped or not, cannot be named.  An ASCII
    name gives its constant none when a digit, or nothing, follows the underscores it starts
    with. -/
theorem unnamable_iff (declaration : Declaration) :
    (declaration.derive = .error .unnamable ↔
      declaration.isGeneric = false ∧ declaration.shape = .namedFields ∧
      (∀ entry ∈ declaration.entries, Options.Admits entry) ∧
      ∃ before field after, declaration.fields = before ++ field :: after ∧
        (∀ earlier ∈ before, earlier.Describable) ∧
        Text.isIdentifier field.constantText.toList = false) ∧
    ∀ field : Field, Ascii field.name.toList →
      Text.isIdentifier (plainName field.name).toList = true →
        (Text.isIdentifier field.constantText.toList = false ↔
          ((plainName field.name).toList.find? (· != '_')).all Char.isDigit = true) := by
  refine ⟨?_, ?_⟩
  · rw [derive_eq, outcome_eq_error, failure?_eq_unnamable, failureOf_checkShape, and_assoc,
      List.findSome?_eq_none_iff, List.findSome?_eq_some_iff]
    simp only [Options.failure?_eq_none, Field.failure?_eq_unnamable, Field.failure?_eq_none]
    constructor
    · rintro ⟨plain, named, entries, before, field, after, fields, unnamable, describable⟩
      exact ⟨plain, named, entries, before, field, after, fields, describable, unnamable⟩
    · rintro ⟨plain, named, entries, before, field, after, fields, describable, unnamable⟩
      exact ⟨plain, named, entries, before, field, after, fields, unnamable, describable⟩
  · intro field ascii legal
    rw [Field.constantText, Convention.apply, String.toList_ofList]
    exact Text.isIdentifier_upperSnake (Field.ascii_plainName ascii) legal

/-- The name of a field that is skipped is not spared. -/
theorem unnamable_of_skipped :
    let user : Declaration := ⟨"User", .namedFields, [], [],
      [⟨"id", [.word "i64".toList], []⟩,
        ⟨"_2fa", [.word "String".toList], [.named "skip" none]⟩]⟩
    (∀ field ∈ user.fields, Text.isIdentifier (plainName field.name).toList = true) ∧
      user.described.map Field.name = ["id"] ∧ user.derive = .error .unnamable := by
  intro user
  exact ⟨by decide +kernel, by decide, rfl⟩

end Declaration

end RecordFilter.Derive
