import Mathlib.Algebra.BigOperators.Group.List.Basic
import Mathlib.Algebra.Order.Ring.Nat
import RecordFilter.Backend
import RecordFilter.LogSettings
import RecordFilter.Proofs.Atomicity
import RecordFilter.Proofs.History

/-!
# The log accounts for the tree

Three kinds of events tell of criteria that were added, and one of groups that were opened.
A list of events `Accounts` for what became of a tree when the two totals say by how much it
grew.  The events of one step do (`Step.accounts`), hence those of a run, and a compilation
that follows carries the totals of the log (`Session.accounts_for_tree`).
-/

namespace RecordFilter

namespace Event

/-- How many events bear a message. -/
def occurrences (message : String) (events : List Event) : Nat :=
  events.countP (·.message = message)

/-- The field `added` of an event; nothing in events without it. -/
def added : Event → Nat
  | wired _ _ _ added => added
  | _ => 0

/-- The criteria that an event tells of. -/
def recorded : Event → Nat
  | criterionAdded .. | elementCriterionAdded .. => 1
  | wired _ _ _ added => added
  | _ => 0

/-- The groups that an event tells of. -/
def opened : Event → Nat
  | groupOpened .. => 1
  | _ => 0

theorem sum_recorded (events : List Event) : (events.map recorded).sum =
    occurrences "criterion added" events + occurrences "collection criterion added" events +
      (events.map added).sum := by
  induction events with
  | nil => rfl
  | cons event rest ih =>
    rw [List.map_cons, List.sum_cons, ih]
    cases event <;> simp [occurrences, recorded, added, message]
    all_goals omega

theorem sum_opened (events : List Event) :
    (events.map opened).sum = occurrences "group opened" events := by
  induction events with
  | nil => rfl
  | cons event rest ih =>
    rw [List.map_cons, List.sum_cons, ih]
    cases event <;> simp [occurrences, opened, message]
    omega

/-- What is told only when debugging is on does not change a total. -/
theorem sum_reported {amount : Event → Nat}
    (quiet : ∀ event, event.isGated = true → amount event = 0) (debugging : Bool)
    (events : List Event) :
    ((reported debugging events).map amount).sum = (events.map amount).sum := by
  induction events with
  | nil => rfl
  | cons event rest ih =>
    rw [reported] at ih ⊢
    rw [List.filter_cons, List.map_cons, List.sum_cons]
    split
    · rw [List.map_cons, List.sum_cons, ih]
    · rename_i silent
      have gated : event.isGated = true := by
        cases gated : event.isGated with
        | true => rfl
        | false => simp [gated] at silent
      rw [quiet event gated, Nat.zero_add, ih]

theorem recorded_of_isGated {event : Event} (gated : event.isGated = true) :
    event.recorded = 0 := by
  cases event <;> first | rfl | cases gated

theorem opened_of_isGated {event : Event} (gated : event.isGated = true) : event.opened = 0 := by
  cases event <;> first | rfl | cases gated

end Event

/-! ## Counting -/

/-- A list of which one item grows. -/
theorem sum_map_modify {α : Type} {size : α → Nat} {change : α → α} {growth : Nat}
    (grows : ∀ item, size (change item) = size item + growth) {items : List α} {i : Nat}
    (bound : i < items.length) :
    ((items.modify i change).map size).sum = (items.map size).sum + growth := by
  induction items generalizing i with
  | nil => cases bound
  | cons item rest ih =>
    cases i with
    | zero =>
      simp only [List.modify_zero_cons, List.map_cons, List.sum_cons, grows]
      omega
    | succ i =>
      have later := ih (Nat.lt_of_succ_lt_succ bound)
      simp only [List.modify_succ_cons, List.map_cons, List.sum_cons, later]
      omega

/-- The number of criteria that are added. -/
def Additions.size (additions : Additions) : Nat :=
  additions.own.length + additions.elements.length

theorem CollectionCriteria.length_criteria_insert (collection : Collection)
    (criterion : Criterion) (entries : List CollectionCriteria) :
    ((insert collection criterion entries).flatMap (·.criteria)).length =
      (entries.flatMap (·.criteria)).length + 1 := by
  induction entries with
  | nil => rfl
  | cons entry rest ih =>
    rw [insert]
    split
    · simp only [List.flatMap_cons, List.length_append, List.length_singleton]
      omega
    · simp only [List.flatMap_cons, List.length_append, ih]
      omega

namespace Group

/-- The number of criteria in a group, those on elements included. -/
def size (group : Group) : Nat := group.criteria.length + group.elementCount

theorem size_extend (additions : Additions) (group : Group) :
    (group.extend additions).size = group.size + additions.size := by
  have elements : (group.extend additions).elementCount =
      group.elementCount + additions.elements.length := by
    simp only [elementCount, extend]
    induction additions.elements generalizing group with
    | nil => rfl
    | cons added rest ih =>
      have inserted := ih (group.addElementCriterion added.1 added.2)
      rw [List.foldl_cons, List.length_cons]
      simp only [addElementCriterion, CollectionCriteria.length_criteria_insert] at inserted
      rw [inserted]
      omega
  rw [size, elements]
  simp only [size, Additions.size, extend, List.length_append]
  omega

end Group

namespace Tree

theorem criterionCount_eq_sum (tree : Tree) :
    tree.criterionCount = (tree.groups.map Group.size).sum := by
  rw [criterionCount, List.sum_eq_foldr, List.foldr_map]
  rfl

theorem criterionCount_extend {tree : Tree} {id : Nat} (bound : id < tree.groups.length)
    (additions : Additions) : (tree.modify id (Group.extend additions)).criterionCount =
      tree.criterionCount + additions.size := by
  rw [criterionCount_eq_sum, criterionCount_eq_sum]
  exact sum_map_modify (Group.size_extend additions) bound

/-- A group that is opened records nothing. -/
theorem criterionCount_addGroup {tree : Tree} {parent : Nat}
    (bound : parent < tree.groups.length) (operator : GroupOperator) :
    (tree.addGroup parent operator).criterionCount = tree.criterionCount := by
  rw [criterionCount_eq_sum, criterionCount_eq_sum, addGroup, List.map_append, List.sum_append]
  have linked := @sum_map_modify Group Group.size (Group.addChild tree.groups.length) 0
    (fun _ => rfl) tree.groups parent bound
  rw [linked]
  rfl

end Tree

/-! ## Events of a step -/

/-- What a step that adds a criterion says: that it was added, or that it was skipped. -/
def Adding.messages (adding : Adding) : List String :=
  match adding.collection? with
  | none => ["criterion added", "skipping criterion with absent value"]
  | some _ => ["collection criterion added", "skipping collection criterion with absent value"]

/-- Events account for what became of a tree. -/
structure Accounts (events : List Event) (before after : Tree) : Prop where
  criteria : after.criterionCount = before.criterionCount + (events.map Event.recorded).sum
  groups : after.groups.length = before.groups.length + (events.map Event.opened).sum

theorem Accounts.append {first second : List Event} {before between after : Tree}
    (earlier : Accounts first before between) (later : Accounts second between after) :
    Accounts (first ++ second) before after := by
  constructor
  · rw [later.criteria, earlier.criteria, List.map_append, List.sum_append, Nat.add_assoc]
  · rw [later.groups, earlier.groups, List.map_append, List.sum_append, Nat.add_assoc]

theorem Accounts.reported {events : List Event} {before after : Tree}
    (accounts : Accounts events before after) (debugging : Bool) :
    Accounts (Event.reported debugging events) before after := by
  constructor
  · rw [Event.sum_reported (fun _ => Event.recorded_of_isGated)]
    exact accounts.criteria
  · rw [Event.sum_reported (fun _ => Event.opened_of_isGated)]
    exact accounts.groups

/-- What wiring refuses is told by events of one kind. -/
theorem Setting.exists_of_mem_refusals {setting : Setting} {properties : List Property}
    {event : Event} (member : event ∈ setting.refusals properties) :
    ∃ property operator error, event = .wiringRefused property operator error := by
  rw [refusals, List.mem_filterMap] at member
  obtain ⟨outcome, made, told⟩ := member
  obtain ⟨property, -, outcome_eq⟩ := List.mem_filterMap.mp made
  cases outcome with
  | ok criterion => cases told
  | error refusal =>
    cases told
    rw [wireOne] at outcome_eq
    split at outcome_eq
    · cases outcome_eq
    · simp only at outcome_eq
      split at outcome_eq
      · rename_i criterion? _
        cases criterion? <;> cases outcome_eq
      · cases outcome_eq
        exact ⟨_, _, _, rfl⟩

/-- Refusals tell of nothing that was added. -/
theorem Setting.sum_refusals {setting : Setting} {amount : Event → Nat}
    (quiet : ∀ property operator error, amount (.wiringRefused property operator error) = 0)
    (properties : List Property) : ((setting.refusals properties).map amount).sum = 0 := by
  refine List.sum_eq_zero fun n member => ?_
  obtain ⟨event, told, rfl⟩ := List.mem_map.mp member
  obtain ⟨property, operator, error, rfl⟩ := exists_of_mem_refusals told
  exact quiet property operator error

namespace Step

variable {setting : Setting}

theorem sum_wire (b : Building) (properties : List Property)
    {amount : Event → Nat}
    (quiet : ∀ property operator error, amount (.wiringRefused property operator error) = 0) :
    ((setting.wire b properties).2.map amount).sum =
      amount (.wired b.cursor setting.source.name setting.filterType.name
        (setting.wired properties).length) := by
  rw [Setting.wire_eq, List.map_append, List.sum_append, Setting.sum_refusals quiet]
  simp

/-- The events of a step tell of as many criteria as it adds, and of the group that it opens. -/
theorem sums_events (step : Step) (b : Building) :
    ((step.events setting b).map Event.recorded).sum = (step.additions setting b.tree).size ∧
      ((step.events setting b).map Event.opened).sum = if step.opens then 1 else 0 := by
  have wires : ∀ properties,
      ((setting.wire b properties).2.map Event.recorded).sum =
        Additions.size ⟨setting.wired properties, []⟩ ∧
      ((setting.wire b properties).2.map Event.opened).sum = 0 := fun properties =>
    ⟨sum_wire b properties fun _ _ _ => rfl, sum_wire b properties fun _ _ _ => rfl⟩
  cases step with
  | add property value operator =>
    simp only [events, apply, additions, Setting.chosen, Building.addCriterion]
    cases property.resolve setting.source with
    | error e => exact ⟨rfl, rfl⟩
    | ok property =>
      simp only [Except.bind]
      cases Criterion.make property (value.value setting.filter) operator with
      | error e => exact ⟨rfl, rfl⟩
      | ok criterion? => cases criterion? <;> exact ⟨rfl, rfl⟩
  | addElement collection element property value operator =>
    simp only [events, apply, additions, Setting.chosen, Building.addElementCriterion]
    cases property.resolve element with
    | error e => exact ⟨rfl, rfl⟩
    | ok property =>
      simp only [Except.bind]
      cases Criterion.make property (value.value setting.filter) operator with
      | error e => exact ⟨rfl, rfl⟩
      | ok criterion? => cases criterion? <;> exact ⟨rfl, rfl⟩
  | wire properties => exact wires _
  | wireAll => exact wires _
  | wireUnused => exact wires _
  | wireNames names =>
    simp only [events, apply, additions]
    cases names.mapM fun name => (PropertyChoice.named name).resolve setting.source with
    | error e => exact ⟨rfl, rfl⟩
    | ok properties => exact wires properties
  | _ => exact ⟨rfl, rfl⟩

/-- A step tells what it adds. -/
theorem accounts (step : Step) {b : Building} (wellFormed : b.WellFormed) :
    Accounts (step.events setting b) b.tree (step.after setting b).tree := by
  constructor
  · rw [(sums_events step b).1]
    cases opened : step.opened? with
    | some operator =>
      rw [after_of_opened opened, additions_of_opened opened,
        Tree.criterionCount_addGroup (step.target_lt wellFormed)]
      rfl
    | none =>
      rw [tree_after step b (opened?_eq_none.mp opened),
        Tree.criterionCount_extend wellFormed.cursor]
  · rw [(sums_events step b).2, length_after]

/-- A criterion that is made is told by one event, and so is one that is skipped. -/
theorem exists_event_of_made {made : Except FilterError (Option Criterion)}
    {finish : Option Criterion → Building × List Event} {added skipped : Event}
    (adds : ∀ criterion, (finish (some criterion)).2 = [added])
    (skips : (finish none).2 = [skipped]) {b' : Building} {new : List Event}
    (succeeded : made.map finish = .ok (b', new)) : ∃ event ∈ [added, skipped], new = [event] := by
  obtain ⟨criterion?, -, outcome⟩ := Except.map_eq_ok.mp succeeded
  have told : new = (finish criterion?).2 := congrArg Prod.snd outcome.symm
  cases criterion? with
  | none => exact ⟨skipped, by simp, told.trans skips⟩
  | some criterion => exact ⟨added, by simp, told.trans (adds criterion)⟩

/-- A step that adds a criterion has one event when it succeeds, which says that the criterion
    was added or that it was skipped. -/
theorem exists_event_of_adding {step : Step} {adding : Adding}
    (adds : step.adding? setting = some adding) {b b' : Building} {new : List Event}
    (succeeded : step.apply setting b = .ok (b', new)) :
    ∃ event, new = [event] ∧ event.message ∈ adding.messages := by
  cases step with
  | add choice value operator =>
    cases adds
    obtain ⟨property, -, made⟩ := Except.bind_eq_ok.mp succeeded
    obtain ⟨event, told, only⟩ := exists_event_of_made (fun _ => rfl) rfl made
    exact ⟨event, only, List.mem_map_of_mem told⟩
  | addElement collection element choice value operator =>
    cases adds
    obtain ⟨property, -, made⟩ := Except.bind_eq_ok.mp succeeded
    obtain ⟨event, told, only⟩ := exists_event_of_made (fun _ => rfl) rfl made
    exact ⟨event, only, List.mem_map_of_mem told⟩
  | _ => cases adds

end Step

/-! ## Events of a run -/

namespace Session

/-- A session before the first step. -/
def start : Session := ⟨.start, []⟩

/-- The session after a step; what was done and reported before an error stays. -/
def carryOut (setting : Setting) (session : Session) (step : Step) : Session :=
  match (step.perform setting).run session with
  | .ok _ session => session
  | .error _ session => session

/-- The session after steps. -/
def run (setting : Setting) (steps : List Step) : Session :=
  steps.foldl (carryOut setting) start

theorem carryOut_eq {setting : Setting} {session : Session}
    (wellFormed : session.building.WellFormed) (step : Step) :
    session.carryOut setting step =
      ⟨step.after setting session.building,
        session.events ++ step.events setting session.building⟩ := by
  rw [carryOut, run_perform step wellFormed, Step.after, Step.events]
  cases step.apply setting session.building with
  | ok done => rfl
  | error e => simp [commit]

/-- A run comes to the building of its steps, and its events account for the tree. -/
theorem run_spec (setting : Setting) (steps : List Step) :
    (run setting steps).building = Step.run setting steps .start ∧
      Accounts (run setting steps).events .empty (run setting steps).building.tree := by
  induction steps using List.reverseRecOn with
  | nil => exact ⟨rfl, rfl, rfl⟩
  | append_singleton steps step ih =>
    obtain ⟨built, accounts⟩ := ih
    have wellFormed : (run setting steps).building.WellFormed :=
      built ▸ Step.wellFormed_run Building.wellFormed_start steps
    have next : run setting (steps ++ [step]) = (run setting steps).carryOut setting step := by
      simp [run]
    rw [next, carryOut_eq wellFormed, Step.run_concat, ← built]
    exact ⟨rfl, accounts.append (step.accounts wellFormed)⟩

/-- At any point of a run the log tells the size of the tree, whether debugging is on or not:
    the criteria are those that were added one by one or wired, and the groups are the root and
    those that were opened.  With debugging on a step that adds a criterion is told by one event
    when it succeeds and by none when it fails.  A compilation at that point reports the totals
    of the log. -/
theorem accounts_for_tree (setting : Setting) (steps : List Step)
    (environment : LogSettings.Environment) :
    let session := run setting steps
    let tree := session.building.tree
    let debugging := LogSettings.isDebugging environment
    let emitted := Event.reported debugging session.events
    let criteria := Event.occurrences "criterion added" emitted +
      Event.occurrences "collection criterion added" emitted + (emitted.map Event.added).sum
    let groups := 1 + Event.occurrences "group opened" emitted
    tree.criterionCount = criteria ∧ tree.groups.length = groups ∧
    (debugging = true → ∀ (step : Step) (adding : Adding), step.adding? setting = some adding →
      (∀ after, (step.perform setting).run session = .ok () after →
        ∃ event, Event.reported debugging after.events = emitted ++ [event] ∧
          event.message ∈ adding.messages) ∧
      ∀ e after, (step.perform setting).run session = .error e after →
        Event.reported debugging after.events = emitted) ∧
    ∀ {Condition Parameter Result : Type} (backend : Backend Condition Parameter Result)
      (source name : String), ∃ later,
      Event.reported debugging (backend.compileEvents tree source name) =
        .compiling source groups criteria name :: later ∧
      ∀ event ∈ later, event.message = "compiling criteria" →
        ∃ condition parameter, event ∈ backend.announce condition parameter := by
  intro session tree debugging emitted criteria groups
  obtain ⟨built, accounts⟩ := run_spec setting steps
  have wellFormed : session.building.WellFormed :=
    built ▸ Step.wellFormed_run Building.wellFormed_start steps
  have totals := accounts.reported debugging
  have criteriaTotal : tree.criterionCount = criteria :=
    totals.criteria.trans ((Nat.zero_add _).trans (Event.sum_recorded emitted))
  have groupTotal : tree.groups.length = groups :=
    totals.groups.trans (congrArg (1 + ·) (Event.sum_opened emitted))
  refine ⟨criteriaTotal, groupTotal, ?_, ?_⟩
  · intro debugs step adding adds
    have everything : ∀ events, Event.reported debugging events = events := by
      simp [Event.reported, debugs]
    simp only [emitted, everything]
    rw [run_perform step wellFormed]
    cases outcome : step.apply setting session.building with
    | ok done =>
      obtain ⟨event, only, told⟩ := Step.exists_event_of_adding adds outcome
      refine ⟨?_, fun e after failed => (nomatch failed)⟩
      rintro after ⟨⟩
      exact ⟨event, congrArg (session.events ++ ·) only, told⟩
    | error e =>
      refine ⟨fun after succeeded => (nomatch succeeded), ?_⟩
      rintro e after ⟨⟩
      rfl
  · intro Condition Parameter Result backend source name
    rw [← criteriaTotal, ← groupTotal]
    refine ⟨_, List.filter_cons_of_pos (by simp [Event.isGated]), ?_⟩
    intro event told compiles
    have raised := List.mem_of_mem_filter told
    revert raised
    cases backend.compileRoot tree (backend.parameter source name) with
    | error e => exact fun raised => absurd raised List.not_mem_nil
    | ok condition =>
      intro raised
      rcases List.mem_cons.mp raised with rfl | announced
      · simp [Event.message] at compiles
      · exact ⟨_, _, announced⟩

end Session

end RecordFilter
