import RecordFilter.Demo
import RecordFilter.Proofs.Blanking
import RecordFilter.Proofs.Sql.Comparison
import RecordFilter.Proofs.Sql.Layout

/-!
# Token streams of trees

The text of a built tree reads as the tokens that are laid out from the tree
(`lex_compile`).  Strings that a tree compares with stay inside their own tokens: two
trees that are equal but for such strings read as streams that are equal but for the
contents of those tokens.
-/

namespace RecordFilter

/-- Every name that a tree is written with has a property.  A blank name of a parameter
    is not written. -/
structure Tree.Named (tree : Tree) (P : String → Prop) (parameter : String) : Prop where
  parameter : Text.isBlankText parameter = true ∨ P parameter
  property : ∀ group ∈ tree.groups, ∀ criterion ∈ group.recorded, P criterion.property.name
  collection : ∀ group ∈ tree.groups, ∀ entry ∈ group.collections,
    Text.isBlankText entry.collection.name = true ∨ P entry.collection.name

namespace Tree.Named

variable {tree : Tree} {P Q : String → Prop} {parameter : String}

theorem imp (named : tree.Named P parameter) (implies : ∀ name, P name → Q name) :
    tree.Named Q parameter where
  parameter := named.parameter.imp_right (implies _)
  property := fun group member criterion own =>
    implies _ (named.property group member criterion own)
  collection := fun group member entry present =>
    (named.collection group member entry present).imp_right (implies _)

theorem of_forall (all : ∀ name, P name) : tree.Named P parameter where
  parameter := .inr (all _)
  property := fun _ _ _ _ => all _
  collection := fun _ _ _ _ => .inr (all _)

instance [DecidablePred P] : Decidable (tree.Named P parameter) :=
  decidable_of_iff
    ((Text.isBlankText parameter = true ∨ P parameter) ∧
      (∀ group ∈ tree.groups, ∀ criterion ∈ group.recorded, P criterion.property.name) ∧
      ∀ group ∈ tree.groups, ∀ entry ∈ group.collections,
        Text.isBlankText entry.collection.name = true ∨ P entry.collection.name)
    ⟨fun ⟨outer, properties, collections⟩ => ⟨outer, properties, collections⟩,
      fun ⟨outer, properties, collections⟩ => ⟨outer, properties, collections⟩⟩

/-- The names of a tree are those of the blanked tree. -/
theorem blank_iff : tree.blank.Named P parameter ↔ tree.Named P parameter := by
  have property : (∀ group ∈ tree.blank.groups, ∀ criterion ∈ group.recorded,
      P criterion.property.name) ↔ ∀ group ∈ tree.groups,
      ∀ criterion ∈ group.recorded, P criterion.property.name := by
    simp [Tree.blank, Group.recorded_blank, Criterion.blank]
  have collection : (∀ group ∈ tree.blank.groups, ∀ entry ∈ group.collections,
      Text.isBlankText entry.collection.name = true ∨ P entry.collection.name) ↔
      ∀ group ∈ tree.groups, ∀ entry ∈ group.collections,
        Text.isBlankText entry.collection.name = true ∨ P entry.collection.name := by
    simp [Tree.blank, Group.blank, CollectionCriteria.blank]
  constructor
  · rintro ⟨outer, properties, collections⟩
    exact ⟨outer, property.mp properties, collection.mp collections⟩
  · rintro ⟨outer, properties, collections⟩
    exact ⟨outer, property.mpr properties, collection.mpr collections⟩

/-- The names of each comparison of a tree have the property. -/
theorem of_mem_asks (named : tree.Named P parameter) (wellFormed : tree.WellFormed) {root : Node}
    (unfolds : tree.Unfolds 0 root) {config : Sql.Config} :
    ∀ ask ∈ config.backend.asks parameter root,
      (Text.isBlankText ask.2 = true ∨ P ask.2) ∧ P ask.1.property.name := by
  intro ask asked
  obtain ⟨recorded, inner⟩ := config.backend.mem_asks ask asked
  obtain ⟨group, member, own⟩ := (wellFormed.mem_recorded unfolds ask.1).mp recorded
  refine ⟨?_, named.property group member ask.1 own⟩
  rcases inner with same | ⟨below, belowMember, entry, present, same⟩
  · rw [same]
    exact named.parameter
  · rw [same]
    exact named.collection below
      ((wellFormed.mem_groups_of_unfolds unfolds below).mp belowMember) entry present

end Tree.Named

namespace Sql

/-- The parts between the members of a group. -/
def connectiveParts (operator : GroupOperator) : List Part := [.fixed (.word (connective operator))]

theorem separates_connective (operator : GroupOperator) :
    Separates (spaced operator) (connectiveParts operator) := by
  cases operator with
  | and => exact separates_token (@lex_plain "AND" (by decide))
  | or => exact separates_token (@lex_plain "OR" (by decide))

/-- The parts of a group below those of its members. -/
def groupParts (group : Group) (members : List (List Part)) : List Part :=
  laidOut connectiveParts [.fixed (.symbol "(")] [.fixed (.symbol ")")] group members

/-- Members that read as parts are laid out as parts. -/
theorem readsAs_groupParts (group : Group) {texts : List (List Char)} {parts : List (List Part)}
    (each : List.Forall₂ ReadsAs texts parts) :
    ReadsAs (laidOut spaced ['('] [')'] group texts) (groupParts group parts) := by
  have content := readsAs_intercalate (separates_connective group.operator) each
  rw [groupParts, laidOut, laidOut, each.length_eq]
  split
  · exact content
  · exact readsAs_parenthesized content

namespace Config

/-- The parts of a node: those of its comparisons, laid out. -/
def parts (config : Config) (whenFalse : List Token) (parameter : String) (node : Node) :
    List Part :=
  config.backend.gather (config.comparisonParts whenFalse) groupParts parameter node

/-- The parts of a whole condition; a tree without criteria is the condition that always
    holds, whose tokens are given. -/
def statementParts (config : Config) (whenTrue whenFalse : List Token) (parameter : String)
    (root : Node) : List Part :=
  if root.isVacuous then whenTrue.map .fixed else config.parts whenFalse parameter root

variable {config : Config}

/-- The comparisons of a compiled tree read as their parts. -/
theorem readsAs_settled (quoteFree : config.QuoteFree) {whenFalse : List Token}
    (never : lex config.alwaysFalse.toList = some whenFalse) {tree : Tree}
    (wellFormed : tree.WellFormed) {root : Node} (unfolds : tree.Unfolds 0 root)
    {name : String} (named : tree.Named config.Names name)
    (answered : config.backend.Answers name root) :
    ∀ ask ∈ config.backend.asks name root,
      ReadsAs (config.backend.settled ask.1 ask.2).toList
        (config.comparisonParts whenFalse ask.1 ask.2) := by
  intro ask asked
  obtain ⟨outer, inner⟩ := named.of_mem_asks wellFormed unfolds ask asked
  exact readsAs_comparison quoteFree never outer inner
    (config.backend.failure?_eq_none.mp (answered ask asked))

/-- A compiled tree reads as its parts. -/
theorem readsAs_compile (valid : config.validate = .ok ()) (quoteFree : config.QuoteFree)
    {whenTrue whenFalse : List Token} (always : lex config.alwaysTrue.toList = some whenTrue)
    (never : lex config.alwaysFalse.toList = some whenFalse) {tree : Tree}
    (wellFormed : tree.WellFormed) {root : Node} (unfolds : tree.Unfolds 0 root)
    {source name text : String} (named : tree.Named config.Names name)
    (compiled : config.backend.compile tree source name = .ok text) :
    ReadsAs text.toList (config.statementParts whenTrue whenFalse name root) := by
  have proper := unfolds.proper wellFormed
  obtain ⟨answered, finished⟩ : config.backend.Answers name root ∧
      (if (config.backend.assemble name root).isEmpty then config.alwaysTrue
        else config.backend.assemble name root) = text :=
    config.backend.compile_eq_ok (wellFormed.node?_eq unfolds) proper compiled
  have empty : (config.backend.assemble name root).isEmpty = root.isVacuous :=
    (solid_backend valid).isIdentity_assemble proper answered
  rw [← finished, empty, statementParts]
  cases vacuous : root.isVacuous with
  | true => exact readsAs_fixed always
  | false =>
    have written := toList_assemble valid proper answered
    rw [if_neg (by simp), if_neg (by simp), written]
    exact Backend.gather_related vacuous
      (readsAs_settled quoteFree never wellFormed unfolds named answered)
      fun group _ _ _ _ each => readsAs_groupParts group each

/-! ## Strings stay inside their tokens -/

/-- Two lists of parts differ in the contents of strings only. -/
def Alike (left right : List Part) : Prop := left.map Part.blank = right.map Part.blank

theorem alike_append {left right left' right' : List Part} (first : Alike left left')
    (second : Alike right right') : Alike (left ++ right) (left' ++ right') := by
  rw [Alike, List.map_append, List.map_append, first, second]

theorem alike_intercalate {between : List Part} {left right : List (List Part)}
    (each : List.Forall₂ Alike left right) :
    Alike (between.intercalate left) (between.intercalate right) := by
  induction each with
  | nil => rfl
  | cons first others ih =>
    cases others with
    | nil => simpa using first
    | cons second others =>
      rw [List.intercalate_cons_cons, List.intercalate_cons_cons]
      exact alike_append (alike_append first rfl) ih

theorem alike_parenthesized {left right : List Part} (inner : Alike left right) :
    Alike (parenthesized left) (parenthesized right) :=
  alike_append (@alike_append [_] left [_] right rfl inner) rfl

theorem alike_groupParts (group : Group) {left right : List (List Part)}
    (each : List.Forall₂ Alike left right) :
    Alike (groupParts group left) (groupParts group right) := by
  rw [groupParts, groupParts, laidOut, laidOut, each.length_eq]
  split
  · exact alike_intercalate each
  · exact alike_append (alike_append rfl (alike_intercalate each)) rfl

theorem alike_literalParts (value : Value) :
    Alike (config.literalParts value) (config.literalParts value.blank) := by
  cases value <;> rfl

/-- Blanking a criterion changes the contents of its comparison's strings only. -/
theorem alike_comparisonParts (whenFalse : List Token) (criterion : Criterion)
    (parameter : String) :
    Alike (config.comparisonParts whenFalse criterion parameter)
      (config.comparisonParts whenFalse criterion.blank parameter) := by
  obtain ⟨property, value, operator⟩ := criterion
  cases operator with
  | contains | startsWith =>
    cases value with
    | text text => exact alike_append rfl rfl
    | _ => rfl
  | among =>
    cases value with
    | list items =>
      cases items with
      | nil => rfl
      | cons first rest =>
        have each : List.Forall₂ Alike ((first :: rest).map config.literalParts)
            (((first :: rest).map Value.blank).map config.literalParts) := by
          rw [List.map_map]
          exact forall₂_map_map fun item _ => alike_literalParts item
        exact alike_append rfl (alike_parenthesized (alike_intercalate each))
    | _ => rfl
  | _ =>
    cases value with
    | list items => rfl
    | _ => exact alike_append rfl (alike_literalParts _)

/-- Blanking a tree changes the contents of its strings' tokens only. -/
theorem alike_statementParts (whenTrue whenFalse : List Token) (parameter : String)
    (root : Node) :
    Alike (config.statementParts whenTrue whenFalse parameter root)
      (config.statementParts whenTrue whenFalse parameter root.blank) := by
  rw [statementParts, statementParts, Node.isVacuous_blank]
  cases vacuous : root.isVacuous with
  | true => rfl
  | false =>
    rw [if_neg (by simp), if_neg (by simp), parts, parts, Backend.gather_blank]
    exact Backend.gather_related vacuous
      (fun ask _ => alike_comparisonParts whenFalse ask.1 ask.2)
      fun group _ _ _ _ each => alike_groupParts group each

/-- The text of a built tree reads as the parts of the tree, and any other tree that is
    equal but for the contents of strings reads as parts that are equal but for the
    contents of those strings' tokens. -/
theorem lex_compile (config : Config) (valid : config.validate = .ok ())
    (quoteFree : config.QuoteFree) (whenTrue whenFalse : List Token)
    (always : lex config.alwaysTrue.toList = some whenTrue)
    (never : lex config.alwaysFalse.toList = some whenFalse)
    (setting : Setting) (steps : List Step) (source name text : String)
    (named : (setting.built steps).Named config.Names name)
    (compiled : config.backend.compile (setting.built steps) source name = .ok text) :
    ∃ root, (setting.built steps).Unfolds 0 root ∧
      let parts := config.statementParts whenTrue whenFalse name root
      lex text.toList = some (parts.map Part.toToken) ∧
      ∀ (setting' : Setting) (steps' : List Step) (text' : String),
        (setting'.built steps').blank = (setting.built steps).blank →
        config.backend.compile (setting'.built steps') source name = .ok text' →
        ∃ root', (setting'.built steps').Unfolds 0 root' ∧
          let parts' := config.statementParts whenTrue whenFalse name root'
          lex text'.toList = some (parts'.map Part.toToken) ∧
            Alike parts' parts := by
  obtain ⟨root, -, unfolds, -⟩ := Tree.exists_root setting steps
  refine ⟨root, unfolds, readsAs_compile valid quoteFree always never
    (setting.wellFormed_built steps) unfolds named compiled, ?_⟩
  intro setting' steps' text' alike compiled'
  obtain ⟨root', -, unfolds', -⟩ := Tree.exists_root setting' steps'
  -- names survive blanking, so the second tree is named as the first
  have named' : (setting'.built steps').Named config.Names name := by
    rw [← Tree.Named.blank_iff, alike, Tree.Named.blank_iff]
    exact named
  refine ⟨root', unfolds', readsAs_compile valid quoteFree always never
    (setting'.wellFormed_built steps') unfolds' named' compiled', ?_⟩
  have first := @alike_statementParts config whenTrue whenFalse name root'
  have second := @alike_statementParts config whenTrue whenFalse name root
  rw [Tree.blank_eq_of_unfolds alike unfolds' unfolds] at first
  exact first.trans second.symm

/-- Quotes in strings and in the name of the parameter, in a child group. -/
theorem lex_compile_quotes :
    let config := { Config.default with quoteIdentifiers := true }
    let tree := Demo.setting.built
      [.openGroup .or, .add (.named "Email") (.given (.text "x' OR 1 = 1")) .equal,
        .add (.named "LastName") (.given (.text "O'Brien")) .contains]
    let text := "(\"a\"\"b\".Email = 'x'' OR 1 = 1' OR \"a\"\"b\".LastName LIKE '%O''Brien%')"
    config.backend.compile tree "User" "a\"b" = .ok text ∧
      ∃ root whenTrue whenFalse, tree.Unfolds 0 root ∧
        lex text.toList =
          some ((config.statementParts whenTrue whenFalse "a\"b" root).map Part.toToken) := by
  intro config tree text
  have compiled : config.backend.compile tree "User" "a\"b" = .ok text := by
    dsimp only [config, tree, text]
    decide +kernel
  have always : lex config.alwaysTrue.toList =
      some [.number "1", .symbol "=", .number "1"] := by decide +kernel
  have never : lex config.alwaysFalse.toList =
      some [.number "1", .symbol "=", .number "0"] := by decide +kernel
  obtain ⟨root, unfolds, read, -⟩ := lex_compile config (by decide +kernel)
    (quoteFree_of_notMem (by decide +kernel)) _ _ always never Demo.setting _ "User" "a\"b" text
    (.of_forall fun _ => .inl rfl) compiled
  exact ⟨compiled, root, _, _, unfolds, read⟩

end Config

end Sql

end RecordFilter
