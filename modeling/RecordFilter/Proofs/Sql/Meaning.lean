import RecordFilter.Proofs.Sql.Derivation

/-!
# Meaning of SQL conditions

`Node.truth` is what a tree says, given the values of its comparisons in the order of
compilation.  The text of a built tree stands for exactly one clause, which has a pair of
parentheses for every group below the root with two members or more
(`parses_compile`), and the clause has the value of the tree whatever the comparisons say.
-/

namespace RecordFilter

namespace Node

mutual

/-- The value of a node that is not vacuous, given the values of its comparisons. -/
def truth (values : Nat → Bool) : Node → Bool
  | mk group children =>
    let nested := group.criteria.length
    let related := nested + (recordedOf children).length
    group.operator.holds
      ((List.range nested).map values ++ truthEach (fun i => values (nested + i)) children ++
        (List.range group.elementCount).map fun i => values (related + i))

/-- The values of those nodes that are not vacuous. -/
def truthEach (values : Nat → Bool) : List Node → List Bool
  | [] => []
  | node :: rest =>
    if node.isVacuous then truthEach values rest
    else truth values node :: truthEach (fun i => values (node.recorded.length + i)) rest

end

end Node

namespace Sql

namespace Clause

/-- The comparisons of clauses that stand one after the other. -/
def comparisonsOf (clauses : List Clause) : List (List Token) := clauses.flatMap comparisons

/-- The values of clauses that stand one after the other. -/
def truths (values : Nat → Bool) : List Clause → List Bool
  | [] => []
  | clause :: rest =>
    clause.truth values :: truths (fun i => values (clause.comparisons.length + i)) rest

end Clause

namespace Config

/-- The clause of a node. -/
def clause (config : Config) (whenFalse : List Token) (parameter : String) (node : Node) : Clause :=
  config.backend.gather
    (fun criterion p => .comparison (config.comparisonTokens whenFalse criterion p))
    Clause.ofGroup parameter node

/-- The clause of a whole condition. -/
def statement (config : Config) (whenTrue whenFalse : List Token) (parameter : String)
    (root : Node) : Clause :=
  if root.isVacuous then .comparison whenTrue else config.clause whenFalse parameter root

end Config

/-! ## Values -/

namespace Clause

theorem holds_cons_cons (operator : GroupOperator) (first second : Bool) (rest : List Bool) :
    operator.holds (operator.holds [first, second] :: rest) =
      operator.holds (first :: second :: rest) := by
  cases operator <;> simp [GroupOperator.holds, Bool.and_assoc, Bool.or_assoc]

/-- The value of joined clauses combines their values. -/
theorem truth_join (operator : GroupOperator) {clauses : List Clause} (nonempty : clauses ≠ [])
    (values : Nat → Bool) :
    (join operator clauses).truth values = operator.holds (truths values clauses) := by
  cases clauses with
  | nil => contradiction
  | cons first rest =>
    clear nonempty
    simp only [join, truths]
    induction rest generalizing first with
    | nil => cases operator <;> simp [GroupOperator.holds, truths]
    | cons second rest ih =>
      rw [List.foldl_cons, ih, truth, holds_cons_cons, truths]
      simp only [comparisons, List.length_append, Nat.add_assoc]

/-- Joining keeps the comparisons and their order. -/
theorem comparisons_join (operator : GroupOperator) {clauses : List Clause}
    (nonempty : clauses ≠ []) : (join operator clauses).comparisons = comparisonsOf clauses := by
  cases clauses with
  | nil => contradiction
  | cons first rest =>
    clear nonempty
    simp only [join, comparisonsOf]
    induction rest generalizing first with
    | nil => simp
    | cons second rest ih =>
      rw [List.foldl_cons, ih]
      simp [comparisons]

/-- Parentheses change neither value nor comparisons. -/
theorem truth_ofGroup (group : Group) (clauses : List Clause) (values : Nat → Bool) :
    (ofGroup group clauses).truth values = (join group.operator clauses).truth values := by
  unfold ofGroup
  split <;> rfl

theorem comparisons_ofGroup (group : Group) (clauses : List Clause) :
    (ofGroup group clauses).comparisons = (join group.operator clauses).comparisons := by
  unfold ofGroup
  split <;> rfl

theorem comparisonsOf_append (left right : List Clause) :
    comparisonsOf (left ++ right) = comparisonsOf left ++ comparisonsOf right := by
  simp [comparisonsOf]

theorem truths_append (values : Nat → Bool) (left right : List Clause) :
    truths values (left ++ right) =
      truths values left ++ truths (fun i => values ((comparisonsOf left).length + i)) right := by
  induction left generalizing values with
  | nil => simp [truths, comparisonsOf]
  | cons clause rest ih =>
    rw [List.cons_append, truths, truths, ih]
    simp [comparisonsOf, Nat.add_assoc]

variable {α : Type} (tokens : α → List Token) (items : List α)

/-- Comparisons have their values one by one. -/
theorem truths_comparisons (values : Nat → Bool) :
    truths values (items.map fun item => comparison (tokens item)) =
      (List.range items.length).map values := by
  induction items generalizing values with
  | nil => rfl
  | cons item rest ih =>
    rw [List.map_cons, truths, ih, List.length_cons, List.range_succ_eq_map]
    simp [truth, comparisons, Function.comp_def, Nat.add_comm]

theorem comparisonsOf_comparisons :
    comparisonsOf (items.map fun item => comparison (tokens item)) = items.map tokens := by
  rw [comparisonsOf, List.flatMap_map]
  exact List.flatMap_pure_eq_map tokens items

end Clause

namespace Config

variable {config : Config} {whenFalse : List Token}

/-- A group's criteria on elements, each with the parameter that it is compiled with. -/
def elementAsks (config : Config) (group : Group) : List (Criterion × String) :=
  group.collections.flatMap fun entry =>
    entry.criteria.map (·, config.backend.elementParameter entry.collection)

theorem length_elementAsks (group : Group) :
    (config.elementAsks group).length = group.elementCount := by
  simp [elementAsks, Group.elementCount, List.length_flatMap]

/-- The parts of the members of a group, in order. -/
def memberParts (config : Config) (whenFalse : List Token) (parameter : String) (group : Group)
    (children : List Node) : List (List Part) :=
  config.backend.gathered (config.comparisonParts whenFalse) groupParts parameter group children

/-- The clauses of the members of a group, in order. -/
def memberClauses (config : Config) (whenFalse : List Token) (parameter : String) (group : Group)
    (children : List Node) : List Clause :=
  (group.criteria.map fun criterion =>
      .comparison (config.comparisonTokens whenFalse criterion parameter)) ++
    (Node.live children).map (config.clause whenFalse parameter) ++
    (config.elementAsks group).map fun ask =>
      .comparison (config.comparisonTokens whenFalse ask.1 ask.2)

theorem gathered_clauses (parameter : String) (group : Group) (children : List Node) :
    config.backend.gathered
        (fun criterion p => .comparison (config.comparisonTokens whenFalse criterion p))
        Clause.ofGroup parameter group children =
      config.memberClauses whenFalse parameter group children := by
  rw [Backend.gathered, memberClauses, elementAsks, List.map_flatMap]
  simp only [List.map_map, Function.comp_def]
  rfl

/-- The clause of a node joins those of its members. -/
theorem clause_mk (parameter : String) (group : Group) (children : List Node) :
    config.clause whenFalse parameter (.mk group children) =
      Clause.ofGroup group (config.memberClauses whenFalse parameter group children) := by
  rw [← gathered_clauses]
  exact Backend.gather_mk ..

theorem memberClauses_ne_nil {parameter : String} {group : Group} {children : List Node}
    (fruitful : (Node.mk group children).isVacuous = false) :
    config.memberClauses whenFalse parameter group children ≠ [] := by
  rw [ne_eq, ← gathered_clauses, Backend.gathered_eq_nil, fruitful]
  simp

theorem comparisonsOf_live {parameter : String} {children : List Node}
    (each : ∀ child ∈ children, child.isVacuous = false →
      (config.clause whenFalse parameter child).comparisons =
        (config.backend.asks parameter child).map fun ask =>
          config.comparisonTokens whenFalse ask.1 ask.2) :
    Clause.comparisonsOf ((Node.live children).map (config.clause whenFalse parameter)) =
      (config.backend.asksOf parameter children).map fun ask =>
        config.comparisonTokens whenFalse ask.1 ask.2 := by
  rw [config.backend.asksOf_live, List.map_flatMap, Clause.comparisonsOf, List.flatMap_map]
  refine List.flatMap_congr ?_
  intro child member
  obtain ⟨present, fruitful⟩ := List.mem_filter.mp member
  exact each child present (by simpa using fruitful)

/-- The comparisons of a node's clause are those that the node asks for, in order. -/
theorem comparisons_clause {parameter : String} {node : Node} :
    node.isVacuous = false → (config.clause whenFalse parameter node).comparisons =
      (config.backend.asks parameter node).map fun ask =>
        config.comparisonTokens whenFalse ask.1 ask.2 := by
  induction node using Node.inductionOn with
  | mk group children ih =>
    intro fruitful
    have nonempty := @memberClauses_ne_nil config whenFalse parameter group children fruitful
    rw [clause_mk, Clause.comparisons_ofGroup, Clause.comparisons_join _ nonempty, memberClauses,
      Clause.comparisonsOf_append, Clause.comparisonsOf_append, Clause.comparisonsOf_comparisons,
      Clause.comparisonsOf_comparisons, comparisonsOf_live ih]
    simp [Backend.asks, elementAsks]

theorem length_comparisons_clause {parameter : String} {node : Node}
    (fruitful : node.isVacuous = false) :
    (config.clause whenFalse parameter node).comparisons.length = node.recorded.length := by
  rw [comparisons_clause fruitful, ← config.backend.map_fst_asks parameter node, List.length_map,
    List.length_map]

/-- The clauses of the children that count have the values of those children. -/
theorem truths_live {parameter : String} {children : List Node}
    (each : ∀ child ∈ children, child.isVacuous = false →
      ∀ values, (config.clause whenFalse parameter child).truth values = child.truth values) :
    ∀ values, Clause.truths values ((Node.live children).map (config.clause whenFalse parameter)) =
      Node.truthEach values children := by
  induction children with
  | nil => exact fun _ => rfl
  | cons child rest ih =>
    have truths := ih fun other member => each other (List.mem_cons_of_mem _ member)
    intro values
    cases vacuous : child.isVacuous with
    | true =>
      have skipped : Node.live (child :: rest) = Node.live rest := by simp [Node.live, vacuous]
      rw [skipped, truths, Node.truthEach, if_pos vacuous]
    | false =>
      have kept : Node.live (child :: rest) = child :: Node.live rest := by
        simp [Node.live, vacuous]
      rw [kept, List.map_cons, Clause.truths, each child List.mem_cons_self vacuous,
        length_comparisons_clause vacuous, truths, Node.truthEach, if_neg (by simp [vacuous])]

/-- The clause of a node has the value of the node. -/
theorem truth_clause {parameter : String} {node : Node} :
    node.isVacuous = false →
      ∀ values, (config.clause whenFalse parameter node).truth values = node.truth values := by
  induction node using Node.inductionOn with
  | mk group children ih =>
    intro fruitful values
    have nonempty := @memberClauses_ne_nil config whenFalse parameter group children fruitful
    have nested : (Clause.comparisonsOf
        ((Node.live children).map (config.clause whenFalse parameter))).length =
        (Node.recordedOf children).length := by
      rw [comparisonsOf_live fun child _ => comparisons_clause, List.length_map,
        ← config.backend.map_fst_asksOf parameter children, List.length_map]
    -- the children's comparisons stand after the group's own, those on elements last
    rw [clause_mk, Clause.truth_ofGroup, Clause.truth_join _ nonempty, memberClauses,
      Clause.truths_append, Clause.truths_append, Clause.comparisonsOf_append, List.length_append,
      Clause.truths_comparisons, Clause.truths_comparisons, Clause.comparisonsOf_comparisons,
      List.length_map, nested, truths_live ih, length_elementAsks, Node.truth]

/-! ## The clause of a built tree -/

/-- The comparisons of a compiled tree stand for themselves. -/
theorem standsFor_settled {whenFalse : List Token} (never : IsComparison whenFalse) {tree : Tree}
    (wellFormed : tree.WellFormed) {root : Node} (unfolds : tree.Unfolds 0 root) {name : String}
    (named : tree.Named config.NamesApart name) (answered : config.backend.Answers name root) :
    ∀ ask ∈ config.backend.asks name root,
      StandsFor (config.comparisonParts whenFalse ask.1 ask.2)
        (.comparison (config.comparisonTokens whenFalse ask.1 ask.2)) := by
  intro ask asked
  obtain ⟨outer, inner⟩ := named.of_mem_asks wellFormed unfolds ask asked
  have written := config.backend.failure?_eq_none.mp (answered ask asked)
  exact .comparison (isComparison_of_written never outer inner written)

/-- The tokens of a compiled tree stand for the tree's clause. -/
theorem parses_statement {whenTrue whenFalse : List Token} (always : IsComparison whenTrue)
    (never : IsComparison whenFalse) {tree : Tree} (wellFormed : tree.WellFormed) {root : Node}
    (unfolds : tree.Unfolds 0 root) {name : String}
    (named : tree.Named config.NamesApart name) (answered : config.backend.Answers name root) :
    Parses .disjunction ((config.statementParts whenTrue whenFalse name root).map Part.toToken)
      (config.statement whenTrue whenFalse name root) := by
  rw [statementParts, statement]
  cases vacuous : root.isVacuous with
  | true =>
    have tokens : (whenTrue.map Part.fixed).map Part.toToken = whenTrue := by
      simp [Function.comp_def, Part.toToken]
    simp only [if_true, tokens]
    exact .conjunction (.atom (.comparison always))
  | false =>
    have leaves := standsFor_settled never wellFormed unfolds named answered
    have proper := unfolds.proper wellFormed
    cases root with
    | mk group children =>
      have nonempty : config.memberParts whenFalse name group children ≠ [] := by
        rw [memberParts, ne_eq, Backend.gathered_eq_nil, vacuous]
        simp
      have members : List.Forall₂ StandsFor (config.memberParts whenFalse name group children)
          (config.memberClauses whenFalse name group children) := by
        rw [← gathered_clauses]
        exact Backend.gathered_related leaves
          fun inner member _ _ nonempty each =>
            standsFor_groupParts nonempty each (proper.2.2.isRoot_groupsOf inner member)
      rw [if_neg (by simp), if_neg (by simp), parts, Backend.gather_mk, clause_mk]
      exact parses_groupParts nonempty members

/-- The text of a built tree is read as one clause and no other.  The clause groups the
    members of every group that is not the root and has two or more, and whatever the
    comparisons say, it has the value of the tree. -/
theorem parses_compile (config : Config) (valid : config.validate = .ok ())
    (quoteFree : config.QuoteFree) (whenTrue whenFalse : List Token)
    (always : lex config.alwaysTrue.toList = some whenTrue) (trueAlone : IsComparison whenTrue)
    (never : lex config.alwaysFalse.toList = some whenFalse) (falseAlone : IsComparison whenFalse)
    (setting : Setting) (steps : List Step) (source name text : String)
    (named : (setting.built steps).Named config.NamesApart name)
    (compiled : config.backend.compile (setting.built steps) source name = .ok text) :
    ∃ root tokens, (setting.built steps).Unfolds 0 root ∧ lex text.toList = some tokens ∧
      (∀ clause, Parses .disjunction tokens clause ↔
        clause = config.statement whenTrue whenFalse name root) ∧
      (config.statement whenTrue whenFalse name root).comparisons =
        (if root.isVacuous then [whenTrue] else
          (config.backend.asks name root).map fun ask =>
            config.comparisonTokens whenFalse ask.1 ask.2) ∧
      ∀ values, (config.statement whenTrue whenFalse name root).truth values =
        if root.isVacuous then values 0 else root.truth values := by
  obtain ⟨root, node, unfolds, proper⟩ := Tree.exists_root setting steps
  have wellFormed := setting.wellFormed_built steps
  have read := readsAs_compile valid quoteFree always never wellFormed unfolds
    (named.imp fun _ apart => apart.names) compiled
  have answered := (config.backend.compile_eq_ok node proper compiled).1
  have parses := parses_statement trueAlone falseAlone wellFormed unfolds named answered
  refine ⟨root, _, unfolds, read, ?_, ?_, ?_⟩
  · intro clause
    constructor
    · intro other
      exact other.unique parses
    · rintro rfl
      exact parses
  · rw [statement]
    cases vacuous : root.isVacuous with
    | true => rfl
    | false => exact comparisons_clause vacuous
  · intro values
    rw [statement]
    cases vacuous : root.isVacuous with
    | true => rfl
    | false => exact truth_clause vacuous values

/-- A child group of two comparisons below a conjunction. -/
theorem parses_compile_child :
    let tree := Demo.setting.built
      [.add (.named "Id") (.given (.int 7)) .greaterThan, .openGroup .or,
        .add (.named "Email") (.given (.text "x")) .equal,
        .add (.named "LastName") (.given (.text "a) OR (b")) .startsWith]
    let text := "u.Id > 7 AND (u.Email = 'x' OR u.LastName LIKE 'a) OR (b%')"
    Config.default.backend.compile tree "User" "u" = .ok text ∧
      ∃ root tokens whenTrue whenFalse, tree.Unfolds 0 root ∧ lex text.toList = some tokens ∧
        ∀ clause, Parses .disjunction tokens clause ↔
          clause = Config.default.statement whenTrue whenFalse "u" root := by
  intro tree text
  have compiled : Config.default.backend.compile tree "User" "u" = .ok text := by
    dsimp only [tree, text]
    decide +kernel
  have always : lex Config.default.alwaysTrue.toList =
      some [.number "1", .symbol "=", .number "1"] := by decide +kernel
  have never : lex Config.default.alwaysFalse.toList =
      some [.number "1", .symbol "=", .number "0"] := by decide +kernel
  have single : ∀ digits, IsOperand [.number digits] := fun _ => ⟨by simp, by simp [Token.isSimple]⟩
  obtain ⟨root, tokens, unfolds, read, parses, -⟩ := parses_compile Config.default
    (by decide +kernel) (quoteFree_of_notMem (by decide +kernel)) _ _
    always (.compare (single "1") (by decide) (single "1"))
    never (.compare (single "1") (by decide) (single "0"))
    Demo.setting _ "User" "u" text (by decide +kernel) compiled
  exact ⟨compiled, root, tokens, _, _, unfolds, read, parses⟩

end Config

end Sql

end RecordFilter
