import Mathlib.Data.List.Forall2
import RecordFilter.Proofs.Derive.Options
import RecordFilter.Record

/-!
# Which declarations are accepted

A declaration is `Supported` when its type has named fields and no parameters, its entries
can be carried out, fields that are collections hold lists, and no two fields give their
property one name.  These are accepted and no others, as long as constants can be named
(`Declaration.derives_iff_supported`); what is derived describes each field in order.
-/

namespace RecordFilter.Derive

open Text (Convention)

/-! ## Fields -/

namespace Field

/-- Whether the field is skipped. -/
def isSkipped (field : Field) : Bool := field.entries.contains (.named "skip" none)

/-- Whether the field is a collection, unless it is skipped. -/
def isCollection (field : Field) : Bool := field.entries.contains (.named "collection" none)

/-- The name of the field's property: the last that an entry gives it, or else its own name in
    the convention. -/
def property (convention : Convention) (field : Field) : String :=
  (field.entries.filterMap Entry.renaming?).getLast?.getD (convention.apply (plainName field.name))

/-- The type of the field as it is written out. -/
def typeTokens (field : Field) : List Token :=
  (TypeExpr.ofTokens? field.type).elim field.type TypeExpr.tokens

/-- The field holds a list: its type is a path whose last name is that of the list type, with
    the type of the elements as its first argument. -/
def Lists (field : Field) (element : List Token) : Prop :=
  ∃ type path before comma rest, TypeExpr.ofTokens? field.type = some type ∧
    type.path = some path ∧
    path.segments = before ++ [⟨vectorName, some (⟨.type, element, comma⟩ :: rest)⟩]

/-- A constant describes a field: it reads the field under the name of the property, as a
    collection of what the field lists or as a property of the field's type. -/
structure Describes (convention : Convention) (field : Field) (constant : Constant) : Prop where
  name : constant.name = field.constantText
  reads : constant.field = field.name
  property : constant.property = field.property convention
  collection : field.isCollection = true →
    ∃ element, field.Lists element ∧ constant.role = .collection element
  scalar : field.isCollection = false → constant.role = .property field.typeTokens

/-- A constant can be derived for the field, or none is wanted. -/
structure Describable (field : Field) : Prop where
  legal : Text.isIdentifier field.constantText.toList = true
  entries : ∀ entry ∈ field.entries, FieldOptions.Admits entry
  lists : field.isSkipped = false → field.isCollection = true → ∃ element, field.Lists element

/-- The type of the elements, when the field holds a list. -/
def element? (field : Field) : Option (List Token) :=
  (TypeExpr.ofTokens? field.type).bind TypeExpr.vectorElement?

theorem vectorElement?_eq_some {type : TypeExpr} {element : List Token} :
    type.vectorElement? = some element ↔ ∃ path before comma rest, type.path = some path ∧
      path.segments = before ++ [⟨vectorName, some (⟨.type, element, comma⟩ :: rest)⟩] := by
  constructor
  · intro found
    unfold TypeExpr.vectorElement? at found
    split at found
    · rename_i name tokens comma rest last
      split at found
      · rename_i named
        cases found
        obtain ⟨path, isPath, ends⟩ := Option.bind_eq_some_iff.mp last
        obtain ⟨before, split⟩ := List.getLast?_eq_some_iff.mp ends
        exact ⟨path, before, comma, rest, isPath, named ▸ split⟩
      · cases found
    · cases found
  · rintro ⟨path, before, comma, rest, isPath, split⟩
    have last : type.path.bind (·.segments.getLast?) =
        some ⟨vectorName, some (⟨.type, element, comma⟩ :: rest)⟩ := by
      simp [isPath, split]
    simp [TypeExpr.vectorElement?, last]

theorem element?_eq_some {field : Field} {element : List Token} :
    field.element? = some element ↔ field.Lists element := by
  rw [element?, Option.bind_eq_some_iff]
  constructor
  · rintro ⟨type, parsed, found⟩
    obtain ⟨path, before, comma, rest, isPath, split⟩ := vectorElement?_eq_some.mp found
    exact ⟨type, path, before, comma, rest, parsed, isPath, split⟩
  · rintro ⟨type, path, before, comma, rest, parsed, isPath, split⟩
    exact ⟨type, parsed, vectorElement?_eq_some.mpr ⟨path, before, comma, rest, isPath, split⟩⟩

/-- The constant of a field that is not skipped. -/
def constant (convention : Convention) (field : Field) : Constant where
  name := field.constantText
  field := field.name
  property := field.property convention
  role := if field.isCollection then .collection (field.element?.getD [])
    else .property field.typeTokens

/-- Why a field cannot be described. -/
def failure? (field : Field) : Option Failure :=
  if Text.isIdentifier field.constantText.toList then
    (field.entries.findSome? FieldOptions.failure?).or
      (if field.isSkipped = false ∧ field.isCollection = true ∧ field.element? = none then
        some .vectorExpected else none)
  else some .unnamable

/-- The options of the field. -/
def options (convention : Convention) (field : Field) : FieldOptions :=
  ⟨field.isSkipped, field.isCollection, field.property convention⟩

theorem role_eq (convention : Convention) (field : Field) :
    role field (field.options convention) =
      outcome (if field.isCollection = true ∧ field.element? = none then
          some .vectorExpected else none)
        (field.constant convention).role := by
  have element : (TypeExpr.ofTokens? field.type).bind TypeExpr.vectorElement? = field.element? :=
    rfl
  simp only [role, options, constant, element]
  cases field.isCollection with
  | false => rfl
  | true => cases field.element? <;> simp

/-- The constant of a field, or the first reason why it has none: the name of the constant
    counts first, then the entries, then the type. -/
theorem constant?_eq (convention : Convention) (field : Field) :
    field.constant? convention = outcome field.failure?
      (if field.isSkipped then none else some (field.constant convention)) := by
  have read : FieldOptions.ofEntries (convention.apply (plainName field.name)) field.entries =
      outcome (field.entries.findSome? FieldOptions.failure?) (field.options convention) :=
    FieldOptions.ofEntries_eq _ _
  unfold constant? constantName failure?
  split
  · rw [read]
    refine bind_outcome ?_
    show (if field.isSkipped = true then _ else (role field (field.options convention)).bind _) = _
    cases field.isSkipped with
    | true => rfl
    | false =>
      rw [role_eq]
      simp only [Bool.false_eq_true, if_false, true_and]
      split <;> rfl
  · rfl

theorem failure?_eq_none {field : Field} : field.failure? = none ↔ field.Describable := by
  have lists : field.element? ≠ none ↔ ∃ element, field.Lists element := by
    simp only [← element?_eq_some, ← Option.isSome_iff_exists, Option.isSome_iff_ne_none]
  rw [failure?]
  split
  · rename_i legal
    rw [Option.or_eq_none_iff, List.findSome?_eq_none_iff]
    simp only [FieldOptions.failure?_eq_none, ite_eq_right_iff, reduceCtorEq, imp_false, not_and]
    constructor
    · rintro ⟨entries, listed⟩
      exact ⟨legal, entries, fun kept collection => lists.mp (listed kept collection)⟩
    · rintro ⟨-, entries, listed⟩
      exact ⟨entries, fun kept collection => lists.mpr (listed kept collection)⟩
  · rename_i illegal
    exact iff_of_false nofun fun describable => illegal describable.legal

/-- A field is unnamable when no constant can be named for it, and for no other reason. -/
theorem failure?_eq_unnamable {field : Field} :
    field.failure? = some .unnamable ↔ Text.isIdentifier field.constantText.toList = false := by
  rw [failure?]
  split
  · rename_i legal
    simp only [legal, Bool.true_eq_false, iff_false, Option.or_eq_some_iff, not_or, not_and]
    refine ⟨?_, ?_⟩
    · intro refused
      obtain ⟨entry, -, failed⟩ := List.exists_of_findSome?_eq_some refused
      exact FieldOptions.failure?_ne_unnamable entry failed
    · intro _
      split <;> simp
  · rename_i illegal
    simpa using illegal

theorem describes_constant (convention : Convention) {field : Field}
    (lists : field.isCollection = true → ∃ element, field.Lists element) :
    field.Describes convention (field.constant convention) where
  name := rfl
  reads := rfl
  property := rfl
  collection isCollection := by
    obtain ⟨element, listed⟩ := lists isCollection
    refine ⟨element, listed, ?_⟩
    rw [constant, if_pos isCollection, element?_eq_some.mpr listed, Option.getD_some]
  scalar isScalar := by
    simp [constant, isScalar]

end Field

/-! ## Declarations -/

theorem repeated?_eq_none {seen names : List String} :
    repeated? seen names = none ↔ names.Nodup ∧ ∀ name ∈ names, name ∉ seen := by
  induction names generalizing seen with
  | nil => simp [repeated?]
  | cons name rest ih =>
    rw [repeated?]
    by_cases again : name ∈ seen
    · simp [again]
    · have fresh : ¬seen.contains name = true := by simpa using again
      rw [if_neg fresh, ih, List.nodup_cons]
      simp only [List.mem_cons, not_or, forall_eq_or_imp]
      constructor
      · rintro ⟨distinct, apart⟩
        exact ⟨⟨fun member => (apart name member).1 rfl, distinct⟩, again,
          fun other member => (apart other member).2⟩
      · rintro ⟨⟨new, distinct⟩, -, apart⟩
        exact ⟨distinct, fun other member => ⟨fun same => new (same ▸ member), apart other member⟩⟩

namespace Declaration

/-- The naming convention of a declaration. -/
def convention (declaration : Declaration) : Convention :=
  (declaration.entries.filterMap Entry.convention?).getLast?.getD Options.default.convention

/-- The path of the library that a declaration names. -/
def library (declaration : Declaration) : List Token :=
  (declaration.entries.filterMap Entry.library?).getLast?.getD Options.default.library

/-- The fields that are described: those that are not skipped. -/
def described (declaration : Declaration) : List Field :=
  declaration.fields.filter (!·.isSkipped)

/-- The names of the properties and collections that are described. -/
def properties (declaration : Declaration) : List String :=
  declaration.described.map (Field.property declaration.convention)

/-- A declaration of a type that can be described. -/
structure Supported (declaration : Declaration) : Prop where
  named : declaration.shape = .namedFields
  plain : declaration.isGeneric = false
  entries : ∀ entry ∈ declaration.entries, Options.Admits entry
  fieldEntries : ∀ field ∈ declaration.fields, ∀ entry ∈ field.entries, FieldOptions.Admits entry
  lists : ∀ field ∈ declaration.described, field.isCollection = true →
    ∃ element, field.Lists element
  distinct : declaration.properties.Nodup

/-- What is derived when nothing fails. -/
def derivation (declaration : Declaration) : Derivation :=
  ⟨declaration.name, declaration.library,
    declaration.described.map (Field.constant declaration.convention)⟩

/-- Why nothing can be derived: the type itself, then its entries, then its fields in order,
    then a name that two of them have. -/
def failure? (declaration : Declaration) : Option Failure :=
  (failureOf declaration.checkShape).or <|
    (declaration.entries.findSome? Options.failure?).or <|
      (declaration.fields.findSome? Field.failure?).or <|
        (repeated? [] declaration.properties).map .duplicateProperty

theorem checkShape_eq (declaration : Declaration) :
    declaration.checkShape = outcome (failureOf declaration.checkShape) () := by
  cases declaration.checkShape <;> rfl

theorem failureOf_checkShape {declaration : Declaration} :
    failureOf declaration.checkShape = none ↔
      declaration.isGeneric = false ∧ declaration.shape = .namedFields := by
  rw [checkShape]
  cases declaration.isGeneric with
  | true => simp
  | false => cases declaration.shape <;> simp

theorem failureOf_checkShape_ne (declaration : Declaration) :
    failureOf declaration.checkShape ≠ some .unnamable := by
  rw [checkShape]
  split
  · simp
  · cases declaration.shape <;> simp

theorem checkNames_eq (constants : List Constant) : checkNames constants =
    outcome ((repeated? [] (constants.map Constant.property)).map .duplicateProperty) () := by
  rw [checkNames]
  cases repeated? [] (constants.map Constant.property) <;> rfl

theorem filterMap_constants (convention : Convention) (fields : List Field) :
    (fields.map fun field => if field.isSkipped then none else some (field.constant convention)
      ).filterMap id = (fields.filter (!·.isSkipped)).map (Field.constant convention) := by
  induction fields with
  | nil => rfl
  | cons field rest ih =>
    rw [List.map_cons, List.filter_cons]
    cases field.isSkipped with
    | true => simpa using ih
    | false => simpa using ih

/-- What is derived, or the first failure. -/
theorem derive_eq (declaration : Declaration) :
    declaration.derive = outcome declaration.failure? declaration.derivation := by
  unfold derive failure?
  show declaration.checkShape.bind _ = _
  refine (congrArg (Except.bind · _) declaration.checkShape_eq).trans (bind_outcome ?_)
  show (Options.ofEntries declaration.entries).bind _ = _
  rw [Options.ofEntries_eq]
  refine bind_outcome ?_
  show (declaration.fields.mapM (Field.constant? declaration.convention)).bind _ = _
  rw [mapM_outcome _ fun field _ => field.constant?_eq declaration.convention]
  refine bind_outcome ?_
  have names : (declaration.described.map (Field.constant declaration.convention)).map
      Constant.property = declaration.properties := List.map_map
  simp only [filterMap_constants]
  show (checkNames (declaration.described.map _)).bind _ = _
  rw [checkNames_eq, names]
  cases repeated? [] declaration.properties <;> rfl

theorem derive_eq_ok {declaration : Declaration} {derivation : Derivation} :
    declaration.derive = .ok derivation ↔
      declaration.failure? = none ∧ declaration.derivation = derivation := by
  rw [derive_eq, outcome_eq_ok]

theorem failure?_eq_none {declaration : Declaration} : declaration.failure? = none ↔
    declaration.Supported ∧
      ∀ field ∈ declaration.fields, Text.isIdentifier field.constantText.toList = true := by
  simp only [failure?, Option.or_eq_none_iff, failureOf_checkShape, List.findSome?_eq_none_iff,
    Options.failure?_eq_none, Field.failure?_eq_none, Option.map_eq_none_iff, repeated?_eq_none]
  constructor
  · rintro ⟨⟨plain, named⟩, entries, fields, distinct, -⟩
    refine ⟨⟨named, plain, entries, fun field member => (fields field member).entries, ?_,
      distinct⟩, fun field member => (fields field member).legal⟩
    intro field described
    obtain ⟨member, kept⟩ := List.mem_filter.mp described
    exact (fields field member).lists (by simpa using kept)
  · rintro ⟨supported, legal⟩
    refine ⟨⟨supported.plain, supported.named⟩, supported.entries, ?_, supported.distinct, by simp⟩
    intro field member
    refine ⟨legal field member, supported.fieldEntries field member, ?_⟩
    intro kept
    exact supported.lists field (List.mem_filter.mpr ⟨member, by simpa using kept⟩)

/-- What is derived describes the fields in order. -/
theorem Supported.describes {declaration : Declaration} (supported : declaration.Supported) :
    List.Forall₂ (Field.Describes declaration.convention) declaration.described
      declaration.derivation.constants := by
  rw [derivation, List.forall₂_map_right_iff, List.forall₂_same]
  exact fun field member => field.describes_constant declaration.convention
    (supported.lists field member)

end Declaration

/-! ## The properties that are listed -/

/-- The descriptor that a constant of a property stands for, given the kind of what a type holds
    and what is read from a field. -/
def Constant.descriptor? (owner : String) (kindOf : List Token → Kind)
    (value : String → Record → Value) (constant : Constant) : Option Property :=
  match constant.role with
  | .property type => some ⟨owner, constant.property, kindOf type, value constant.field⟩
  | .collection _ => none

theorem Field.name_constant (field : Field) (convention : Convention) :
    (field.constant convention).name = field.constantText := rfl

/-- The constant of a scalar field stands for the field's property. -/
theorem Field.descriptor?_constant (field : Field) (scalar : field.isCollection = false)
    (convention : Convention) (owner : String) (kindOf : List Token → Kind)
    (value : String → Record → Value) :
    (field.constant convention).descriptor? owner kindOf value =
      some ⟨owner, field.property convention, kindOf field.typeTokens, value field.name⟩ := by
  rw [Constant.descriptor?, constant, scalar]
  rfl

namespace Derivation

variable (derivation : Derivation)

/-- The constant that a path names: the only one of that name. -/
def named? (path : String) : Option Constant :=
  match derivation.constants.filter (derivation.owner ++ "::" ++ ·.name == path) with
  | [constant] => some constant
  | _ => none

/-- The descriptors that the listed paths name.  There are none when a path names no constant of
    a property, or several constants. -/
def properties? (kindOf : List Token → Kind) (value : String → Record → Value) :
    Option (List Property) :=
  derivation.listed.mapM fun path =>
    (derivation.named? path).bind (Constant.descriptor? derivation.owner kindOf value)

variable {derivation}

theorem named?_of_nodup (distinct : (derivation.constants.map Constant.name).Nodup)
    {constant : Constant} (member : constant ∈ derivation.constants) :
    derivation.named? (derivation.owner ++ "::" ++ constant.name) = some constant := by
  have paths : (derivation.constants.map (derivation.owner ++ "::" ++ ·.name)).Nodup := by
    have mapped := distinct.map fun _ _ => (String.append_right_inj (derivation.owner ++ "::")).mp
    rwa [List.map_map] at mapped
  rw [named?, filter_of_nodup paths member]

end Derivation

namespace Declaration

variable {declaration : Declaration}

/-- The fields that are described as properties. -/
def scalars (declaration : Declaration) : List Field :=
  declaration.described.filter (!·.isCollection)

theorem owner_derivation : declaration.derivation.owner = declaration.name := rfl

theorem listed_derivation : declaration.derivation.listed =
    declaration.scalars.map fun field => declaration.name ++ "::" ++ field.constantText := by
  have isProperty : (fun constant : Constant => constant.role.isProperty) ∘
      Field.constant declaration.convention = (!·.isCollection) := by
    funext field
    simp only [Function.comp_apply, Field.constant]
    cases field.isCollection <;> rfl
  rw [Derivation.listed, derivation, List.filter_map, isProperty, List.map_map]
  rfl

/-- Where no two constants have one name, the listed paths name the properties in order. -/
theorem properties?_derivation
    (distinct : (declaration.derivation.constants.map Constant.name).Nodup)
    (kindOf : List Token → Kind) (value : String → Record → Value) :
    declaration.derivation.properties? kindOf value =
      some (declaration.scalars.map fun field => ⟨declaration.name,
        field.property declaration.convention, kindOf field.typeTokens, value field.name⟩) := by
  have each : ∀ field ∈ declaration.scalars,
      (declaration.derivation.named? (declaration.name ++ "::" ++ field.constantText)).bind
        (Constant.descriptor? declaration.name kindOf value) =
      some ⟨declaration.name, field.property declaration.convention, kindOf field.typeTokens,
        value field.name⟩ := by
    intro field member
    obtain ⟨described, scalar⟩ := List.mem_filter.mp member
    have member : field.constant declaration.convention ∈ declaration.derivation.constants :=
      List.mem_map_of_mem described
    have named := Derivation.named?_of_nodup distinct member
    rw [Field.name_constant, owner_derivation] at named
    rw [named, Option.bind_some]
    exact field.descriptor?_constant (by simpa using scalar) declaration.convention _ _ _
  rw [Derivation.properties?, listed_derivation, List.mapM_map]
  exact mapM_eq_some_map each

/-- Of the declarations whose fields can be given constants those are accepted that can be
    described.  Each field that is not skipped gets one constant, in order, and the constants of
    the properties among them are listed in order.  Where no two constants have one name, the
    paths that are listed name these properties, and each is found by the name it has. -/
theorem derives_iff_supported (declaration : Declaration)
    (legal : ∀ field ∈ declaration.fields,
      Text.isIdentifier field.constantText.toList = true) :
    ((∃ derivation, declaration.derive = .ok derivation) ↔ declaration.Supported) ∧
    ∀ derivation, declaration.derive = .ok derivation →
      derivation.owner = declaration.name ∧ derivation.library = declaration.library ∧
      List.Forall₂ (Field.Describes declaration.convention) declaration.described
        derivation.constants ∧
      derivation.listed =
        declaration.scalars.map (fun field => declaration.name ++ "::" ++ field.constantText) ∧
      ((derivation.constants.map Constant.name).Nodup →
        ∀ (kindOf : List Token → Kind) (value : String → Record → Value),
          ∃ properties, derivation.properties? kindOf value = some properties ∧
            properties = declaration.scalars.map (fun field => ⟨declaration.name,
              field.property declaration.convention, kindOf field.typeTokens, value field.name⟩) ∧
            ∀ schema : Schema, schema.properties = properties →
              ∀ property ∈ properties, schema.property? property.name = some property) := by
  have accepts : ∀ derivation, declaration.derive = .ok derivation ↔
      declaration.Supported ∧ declaration.derivation = derivation := by
    intro derivation
    rw [derive_eq_ok, failure?_eq_none, and_iff_left legal]
  refine ⟨by simp [accepts], ?_⟩
  intro derivation derived
  obtain ⟨supported, rfl⟩ := (accepts derivation).mp derived
  refine ⟨rfl, rfl, supported.describes, listed_derivation, ?_⟩
  intro distinct kindOf value
  refine ⟨_, properties?_derivation distinct kindOf value, rfl, ?_⟩
  rintro schema listed property member
  have names : schema.properties.map Property.name =
      declaration.scalars.map (Field.property declaration.convention) := by
    rw [listed, List.map_map]
    rfl
  have unlike : (schema.properties.map Property.name).Nodup :=
    names ▸ supported.distinct.sublist (List.filter_sublist.map _)
  exact find?_of_nodup unlike (listed ▸ member)

/-- A raw name, a renamed field, a skipped one and a list; the renamed field is found by its new
    name. -/
theorem derives_iff_supported_user :
    let user : Declaration := {
      name := "User", shape := .namedFields, generics := []
      entries := [.named "rename_all" (some (.text "snake_case"))]
      fields := [
        ⟨"r#type", [.word "i64".toList], []⟩,
        ⟨"display_name", [.word "String".toList], [.named "rename" (some (.text "Name"))]⟩,
        ⟨"hash", [.word "u8".toList], [.named "skip" none, .named "collection" none]⟩,
        ⟨"logins", [.word "Vec".toList, .less, .word "Login".toList, .greater],
          [.named "collection" none]⟩] }
    let derivation : Derivation := ⟨"User", Options.default.library,
      [⟨"TYPE", "r#type", "type", .property [.word "i64".toList]⟩,
        ⟨"DISPLAY_NAME", "display_name", "Name", .property [.word "String".toList]⟩,
        ⟨"LOGINS", "logins", "logins", .collection [.word "Login".toList]⟩]⟩
    (∀ field ∈ user.fields, Text.isIdentifier field.constantText.toList = true) ∧
      user.Supported ∧ user.properties = ["type", "Name", "logins"] ∧
      user.derive = .ok derivation ∧ derivation.listed = ["User::TYPE", "User::DISPLAY_NAME"] ∧
      (derivation.constants.map Constant.name).Nodup ∧
      ∀ kindOf value, ∃ properties, derivation.properties? kindOf value = some properties ∧
        Schema.property? ⟨"User", properties, []⟩ "Name" =
          some ⟨"User", "Name", kindOf [.word "String".toList], value "display_name"⟩ := by
  intro user derivation
  have derived : user.derive = .ok derivation :=
    derive_eq_ok.mpr ⟨by decide +kernel, by decide +kernel⟩
  obtain ⟨-, legal⟩ := failure?_eq_none.mp (derive_eq_ok.mp derived).1
  have distinct : (derivation.constants.map Constant.name).Nodup := by decide
  obtain ⟨accepted, lists⟩ := user.derives_iff_supported legal
  obtain ⟨-, -, -, listed, looksUp⟩ := lists derivation derived
  refine ⟨legal, accepted.mp ⟨_, derived⟩, by decide +kernel, derived, rfl, distinct, ?_⟩
  intro kindOf value
  obtain ⟨properties, named, found, finds⟩ := looksUp distinct kindOf value
  have member : ⟨"User", "Name", kindOf [.word "String".toList], value "display_name"⟩ ∈
      properties := found ▸ List.mem_cons_of_mem _ List.mem_cons_self
  exact ⟨properties, named, finds ⟨"User", properties, []⟩ rfl _ member⟩

/-- A name for the second property lets it pass, and then both listed paths name two constants:
    neither property is found. -/
theorem properties?_of_shared_constant :
    let user : Declaration := ⟨"User", .namedFields, [], [],
      [⟨"foo1", [.word "i64".toList], []⟩,
        ⟨"foo_1", [.word "i64".toList], [.named "rename" (some (.text "B"))]⟩]⟩
    (∀ field ∈ user.fields, Text.isIdentifier field.constantText.toList = true) ∧
      user.Supported ∧ user.properties = ["Foo1", "B"] ∧
      ∃ derivation, user.derive = .ok derivation ∧
        derivation.listed = ["User::FOO_1", "User::FOO_1"] ∧
        ∀ kindOf value, derivation.properties? kindOf value = none := by
  intro user
  let derivation : Derivation := ⟨"User", Options.default.library,
    [⟨"FOO_1", "foo1", "Foo1", .property [.word "i64".toList]⟩,
      ⟨"FOO_1", "foo_1", "B", .property [.word "i64".toList]⟩]⟩
  have derived : user.derive = .ok derivation :=
    derive_eq_ok.mpr ⟨by decide +kernel, by decide +kernel⟩
  obtain ⟨supported, legal⟩ := failure?_eq_none.mp (derive_eq_ok.mp derived).1
  exact ⟨legal, supported, by decide +kernel, derivation, derived, rfl, fun _ _ => rfl⟩

end Declaration

end RecordFilter.Derive
