import RecordFilter.Demo
import RecordFilter.Proofs.Additions
import RecordFilter.Proofs.Unfolding.Links

/-!
# The cursor as a stack

No stack of open groups is kept: to close a group is to follow its parent link.  A run that
does not jump moves the cursor as if there were one, which begins with the groups above the
starting group (`Step.cursor_follows_stack`).  What connects the two is that the stack is at
any time the way from the root to the cursor in the tree as it is then.
-/

namespace RecordFilter

/-! ## Stacks of open groups -/

namespace Step

/-- Whether a step moves the cursor to a group that does not depend on where it stands. -/
def jumps : Step → Bool
  | toRoot | goTo _ | openAtRoot _ => true
  | _ => false

/-- Whether a step closes a group. -/
def closes : Step → Bool
  | closeGroup => true
  | _ => false

/-- Whether a step neither opens nor closes a group nor jumps. -/
def stays (step : Step) : Bool := !(step.opens || step.closes || step.jumps)

/-- Every group that is opened is closed, and none is closed that was not opened. -/
structure Balanced (steps : List Step) : Prop where
  opened : ∀ done, done <+: steps → done.countP closes ≤ done.countP opens
  closed : steps.countP closes = steps.countP opens

/-- Steps that do not jump open a group, close one or stay. -/
theorem cases_jumps {step : Step} (walks : step.jumps = false) :
    (∃ operator, step = openGroup operator) ∨ step = closeGroup ∨ step.stays = true := by
  cases step <;> simp [jumps, stays, opens, closes] at walks ⊢

end Step

/-- A stack without its topmost group; the root is never taken off. -/
def popGroup : List Nat → List Nat
  | _ :: parent :: rest => parent :: rest
  | stack => stack

/-- The groups that are open, the innermost first and the root last, and the position that the
    next group will have. -/
structure Nesting where
  stack : List Nat
  next : Nat

namespace Nesting

/-- Opening a group puts it on the stack, closing one takes it off. -/
def after (nesting : Nesting) : Step → Nesting
  | .openGroup _ => ⟨nesting.next :: nesting.stack, nesting.next + 1⟩
  | .closeGroup => { nesting with stack := popGroup nesting.stack }
  | _ => nesting

/-- The nesting after steps. -/
def run (nesting : Nesting) (steps : List Step) : Nesting := steps.foldl after nesting

theorem after_of_stays {step : Step} (stays : step.stays = true) (nesting : Nesting) :
    nesting.after step = nesting := by
  cases step with
  | openGroup operator => cases stays
  | closeGroup => cases stays
  | _ => rfl

theorem popGroup_append {pushed base : List Nat} (based : base ≠ []) {top : Nat} :
    popGroup (top :: pushed ++ base) = pushed ++ base := by
  cases pushed with
  | cons parent rest => rfl
  | nil =>
    cases base with
    | nil => contradiction
    | cons parent rest => rfl

/-- As long as no more groups are closed than were opened on it, what lies below on the stack
    stays there. -/
theorem exists_run_eq {steps : List Step} {base : List Nat} (based : base ≠ []) :
    ∀ {nesting : Nesting} {pushed : List Nat}, nesting.stack = pushed ++ base →
      (∀ step ∈ steps, step.jumps = false) →
      (∀ done, done <+: steps →
        done.countP Step.closes ≤ pushed.length + done.countP Step.opens) →
      ∃ pushed', (nesting.run steps).stack = pushed' ++ base ∧
        pushed'.length + steps.countP Step.closes =
          pushed.length + steps.countP Step.opens := by
  induction steps with
  | nil => exact fun split _ _ => ⟨_, split, rfl⟩
  | cons step rest ih =>
    intro nesting pushed split walks within
    have walksLater := fun other member => walks other (List.mem_cons_of_mem step member)
    have withinLater : ∀ done, done <+: rest →
        (step :: done).countP Step.closes ≤ pushed.length + (step :: done).countP Step.opens :=
      fun done start => within _ (List.cons_prefix_cons.mpr ⟨rfl, start⟩)
    simp only [List.countP_cons] at withinLater ⊢
    rcases Step.cases_jumps (walks step List.mem_cons_self) with ⟨operator, rfl⟩ | rfl | stays
    · have pushes : (nesting.after (.openGroup operator)).stack =
          (nesting.next :: pushed) ++ base := congrArg (nesting.next :: ·) split
      have withinPushed : ∀ done, done <+: rest → done.countP Step.closes ≤
          (nesting.next :: pushed).length + done.countP Step.opens := by
        intro done start
        have within : done.countP Step.closes ≤ pushed.length + (done.countP Step.opens + 1) :=
          withinLater done start
        rw [List.length_cons]
        omega
      obtain ⟨pushed', split', count⟩ := ih pushes walksLater withinPushed
      refine ⟨pushed', split', ?_⟩
      show pushed'.length + rest.countP Step.closes =
        pushed.length + (rest.countP Step.opens + 1)
      rw [List.length_cons] at count
      omega
    · -- the group that is closed was opened on the base
      have opened : 1 ≤ pushed.length := withinLater [] List.nil_prefix
      cases pushed with
      | nil => cases opened
      | cons top pushed =>
        have pops : (nesting.after .closeGroup).stack = pushed ++ base := by
          show popGroup nesting.stack = pushed ++ base
          rw [split, popGroup_append based]
        have withinPopped : ∀ done, done <+: rest →
            done.countP Step.closes ≤ pushed.length + done.countP Step.opens := by
          intro done start
          have within : done.countP Step.closes + 1 ≤
              (top :: pushed).length + done.countP Step.opens := withinLater done start
          rw [List.length_cons] at within
          omega
        obtain ⟨pushed', split', count⟩ := ih pops walksLater withinPopped
        refine ⟨pushed', split', ?_⟩
        show pushed'.length + (rest.countP Step.closes + 1) =
          (top :: pushed).length + rest.countP Step.opens
        rw [List.length_cons]
        omega
    · have quiet : step.opens = false ∧ step.closes = false := by
        simpa [Step.stays, walks step List.mem_cons_self] using stays
      simp only [quiet] at withinLater ⊢
      obtain ⟨pushed', split', count⟩ := ih split walksLater withinLater
      refine ⟨pushed', ?_, count⟩
      rwa [run, List.foldl_cons, after_of_stays stays]

/-- Closing goes down the stack as far as the root. -/
theorem stack_closings (n : Nat) {nesting : Nesting} (nonempty : nesting.stack ≠ []) :
    (nesting.run (List.replicate n .closeGroup)).stack =
      nesting.stack.drop (min n (nesting.stack.length - 1)) := by
  induction n generalizing nesting with
  | zero => simp [run]
  | succ n ih =>
    rw [List.replicate_succ, run, List.foldl_cons]
    show ((nesting.after .closeGroup).run _).stack = _
    cases split : nesting.stack with
    | nil => contradiction
    | cons top rest =>
      have popped : (nesting.after .closeGroup).stack = popGroup (top :: rest) := by
        rw [after, split]
      cases rest with
      | nil =>
        rw [ih (by rw [popped]; exact List.cons_ne_nil _ _), popped]
        simp [popGroup]
      | cons parent rest =>
        rw [ih (by rw [popped]; exact List.cons_ne_nil _ _), popped]
        have depth : min (n + 1) ((top :: parent :: rest).length - 1) =
            min n ((parent :: rest).length - 1) + 1 := by
          simp only [List.length_cons]
          omega
        rw [depth, List.drop_succ_cons, popGroup]

end Nesting

/-! ## Links that stay -/

/-- A path stays one when links are added. -/
theorem Tree.IsPath.mono {tree tree' : Tree} {path : List Nat} {id : Nat}
    (isPath : tree.IsPath path id)
    (keeps : ∀ parent child, tree.Lists parent child → tree'.Lists parent child) :
    tree'.IsPath path id :=
  ⟨isPath.start, isPath.linked.imp keeps, isPath.stop⟩

namespace Step

variable {setting : Setting}

/-- No step takes a child from a group. -/
theorem lists_after (step : Step) (b : Building) {parent child : Nat}
    (link : b.tree.Lists parent child) : (step.after setting b).tree.Lists parent child := by
  obtain ⟨group, found, member⟩ := link
  cases opened : step.opened? with
  | some operator =>
    rw [after_of_opened opened]
    refine ⟨_, Tree.group?_addGroup_of_found found, ?_⟩
    split
    · exact List.mem_append_left _ member
    · exact member
  | none =>
    rw [tree_after step b (opened?_eq_none.mp opened)]
    refine ⟨_, by rw [Tree.group?_modify, found]; rfl, ?_⟩
    split <;> exact member

/-- What succeeds without opening or closing a group and without a jump keeps the cursor. -/
theorem cursor_apply {step : Step} (stays : step.stays = true) {b b' : Building}
    {events : List Event} (applied : step.apply setting b = .ok (b', events)) :
    b'.cursor = b.cursor := by
  cases step with
  | openGroup | closeGroup | toRoot | goTo | openAtRoot => cases stays
  | wire | wireAll | wireUnused =>
    cases applied
    rfl
  | add choice value operator =>
    obtain ⟨property, -, added⟩ := Except.bind_eq_ok.mp applied
    obtain ⟨criterion?, -, same⟩ := Except.map_eq_ok.mp added
    cases criterion? <;> (cases same; rfl)
  | addElement collection element choice value operator =>
    obtain ⟨property, -, added⟩ := Except.bind_eq_ok.mp applied
    obtain ⟨criterion?, -, same⟩ := Except.map_eq_ok.mp added
    cases criterion? <;> (cases same; rfl)
  | wireNames names =>
    obtain ⟨properties, -, wired⟩ := Except.map_eq_ok.mp applied
    cases wired
    rfl

/-- A step that neither opens nor closes a group nor jumps leaves the cursor where it is,
    whether it adds, skips, wires or fails. -/
theorem cursor_after {step : Step} (stays : step.stays = true) (b : Building) :
    (step.after setting b).cursor = b.cursor := by
  rw [after]
  split
  · rename_i applied
    exact cursor_apply stays applied
  · rfl

end Step

/-! ## The cursor of a run -/

/-- The stack is the way from the root to the cursor. -/
structure Building.Follows (nesting : Nesting) (b : Building) : Prop where
  wellFormed : b.WellFormed
  next : nesting.next = b.tree.groups.length
  path : b.tree.IsPath nesting.stack.reverse b.cursor

namespace Building.Follows

variable {setting : Setting} {nesting : Nesting} {b : Building}

theorem head (follows : b.Follows nesting) : nesting.stack.head? = some b.cursor := by
  rw [← List.getLast?_reverse]
  exact follows.path.stop

theorem occupied (follows : b.Follows nesting) : nesting.stack ≠ [] := by
  intro empty
  have top := follows.head
  rw [empty] at top
  cases top

/-- To close a group is to leave it for the one below it on the stack. -/
theorem close (follows : b.Follows nesting) :
    b.tree.IsPath (popGroup nesting.stack).reverse b.closeGroup.1.cursor := by
  have path := follows.path
  cases split : nesting.stack with
  | nil => exact absurd split follows.occupied
  | cons top rest =>
    rw [split] at path
    cases rest with
    | nil =>
      have atRoot : top = 0 := Option.some.inj path.start
      have atCursor : top = b.cursor := Option.some.inj path.stop
      obtain ⟨group, found⟩ := Tree.exists_group follows.wellFormed.cursor
      have parentless : group.parent = none :=
        (follows.wellFormed.tree.parent_none found).mpr (atCursor.symm.trans atRoot)
      have remains : b.closeGroup.1.cursor = b.cursor := by
        simp [Building.closeGroup, Building.current?, found, parentless]
      rwa [remains]
    | cons below rest =>
      rw [List.reverse_cons, Tree.isPath_concat (by simp)] at path
      obtain ⟨-, parent, above, link⟩ := path
      obtain ⟨group, found, parentEq⟩ := follows.wellFormed.tree.lists_iff.mp link
      have leaves : b.closeGroup.1.cursor = parent := by
        simp [Building.closeGroup, Building.current?, found, parentEq]
      rwa [leaves]

/-- A step that does not jump moves the cursor as it changes the stack. -/
theorem after (follows : b.Follows nesting) {step : Step} (walks : step.jumps = false) :
    (step.after setting b).Follows (nesting.after step) := by
  refine ⟨Step.wellFormed_after follows.wellFormed step, ?next, ?path⟩
  case next =>
    rw [Step.length_after, ← follows.next]
    rcases Step.cases_jumps walks with ⟨operator, rfl⟩ | rfl | stays
    · rfl
    · rfl
    · have quiet : step.opens = false := by
        simp only [Step.stays, Bool.not_eq_true', Bool.or_eq_false_iff] at stays
        exact stays.1.1
      rw [Nesting.after_of_stays stays, quiet]
      rfl
  case path =>
    have kept : (step.after setting b).tree.IsPath nesting.stack.reverse b.cursor :=
      follows.path.mono fun _ _ => step.lists_after b
    rcases Step.cases_jumps walks with ⟨operator, rfl⟩ | rfl | stays
    · obtain ⟨group, found⟩ := Tree.exists_group follows.wellFormed.cursor
      have link : (b.tree.addGroup b.cursor operator).Lists b.cursor b.tree.groups.length := by
        refine ⟨_, Tree.group?_addGroup_of_found found, ?_⟩
        rw [if_pos rfl]
        exact List.mem_append_right _ List.mem_cons_self
      show Tree.IsPath _ (nesting.next :: nesting.stack).reverse b.tree.groups.length
      rw [List.reverse_cons, follows.next]
      have occupied : nesting.stack.reverse ≠ [] := by simpa using follows.occupied
      exact (Tree.isPath_concat occupied).mpr ⟨rfl, b.cursor, kept, link⟩
    · exact follows.close
    · rwa [Nesting.after_of_stays stays, Step.cursor_after stays]

/-- A run that does not jump keeps to the stack. -/
theorem run {steps : List Step} (follows : b.Follows nesting)
    (walks : ∀ step ∈ steps, step.jumps = false) :
    (Step.run setting steps b).Follows (nesting.run steps) := by
  induction steps generalizing b nesting with
  | nil => exact follows
  | cons step rest ih =>
    exact ih (follows.after (walks step List.mem_cons_self))
      fun other member => walks other (List.mem_cons_of_mem _ member)

end Building.Follows

namespace Step

/-- From any group of any built tree, steps that do not jump move the cursor like the top of a
    stack.  It begins with the groups from the starting group up to the root; opening a group
    puts it on, closing one takes one off unless only the root is left, and all other steps
    leave it, and the cursor, alone.  At any time it lists the groups from the cursor up to the
    root.  So balanced steps come back to where they started, and further closings walk down
    the stack and end on the root. -/
theorem cursor_follows_stack (setting : Setting) (history : List Step) {id : Nat}
    (present : id < (setting.built history).groups.length) :
    (∀ {step : Step}, step.stays = true → ∀ b, (step.after setting b).cursor = b.cursor) ∧
    ∃ above : List Nat,
      (∀ path, (setting.built history).IsPath path id ↔ path = above.reverse) ∧
      ∀ steps : List Step, (∀ step ∈ steps, step.jumps = false) →
        let b := run setting steps ⟨setting.built history, id⟩
        let stack := (Nesting.run ⟨above, (setting.built history).groups.length⟩ steps).stack
        stack.head? = some b.cursor ∧
        b.tree.IsPath stack.reverse b.cursor ∧
        (Balanced steps → b.cursor = id) ∧
        ∀ n, let closed := run setting (List.replicate n .closeGroup) b
          (n < stack.length → stack[n]? = some closed.cursor) ∧
          (stack.length ≤ n + 1 → closed.cursor = 0) := by
  refine ⟨fun stays b => cursor_after stays b, ?_⟩
  have wellFormed := setting.wellFormed_built history
  obtain ⟨path, isPath, unique⟩ := wellFormed.existsUnique_path present
  refine ⟨path.reverse, ?_, ?_⟩
  · intro other
    rw [List.reverse_reverse]
    exact ⟨unique other, fun same => same ▸ isPath⟩
  intro steps walks b stack
  have begins : Building.Follows ⟨path.reverse, (setting.built history).groups.length⟩
      ⟨setting.built history, id⟩ :=
    ⟨⟨wellFormed, present⟩, rfl, by rwa [List.reverse_reverse]⟩
  have follows : b.Follows _ := begins.run walks
  refine ⟨follows.head, follows.path, ?balanced, ?closings⟩
  case balanced =>
    intro balanced
    obtain ⟨pushed, split, count⟩ :=
      Nesting.exists_run_eq begins.occupied (List.nil_append _).symm walks
        (by simpa using balanced.opened)
    have none : pushed = [] := by
      rw [balanced.closed, List.length_nil] at count
      exact List.length_eq_zero_iff.mp (by omega)
    have top := follows.head
    rw [split, none, List.nil_append, begins.head] at top
    exact (Option.some.inj top).symm
  case closings =>
    intro n closed
    have closes : closed.Follows _ := follows.run fun step member => by
      rw [List.eq_of_mem_replicate member]
      rfl
    have top := closes.head
    rw [Nesting.stack_closings n follows.occupied, List.head?_drop] at top
    constructor
    · intro above
      rwa [Nat.min_eq_left (Nat.le_sub_one_of_lt above)] at top
    · intro deep
      have bottom : stack.getLast? = some 0 := by
        rw [← List.head?_reverse]
        exact follows.path.start
      rw [Nat.min_eq_right (Nat.sub_le_iff_le_add.mpr deep)] at top
      rw [List.getLast?_eq_getElem?, top] at bottom
      exact Option.some.inj bottom

/-- From a group two levels below the root, beside another child of the root: balanced steps come
    back to it, and closing leads to its parent and in the end to the root. -/
theorem cursor_follows_stack_nested :
    let tree := Demo.setting.built [.openGroup .or, .closeGroup, .openGroup .and, .openGroup .or]
    3 < tree.groups.length ∧
      (run Demo.setting [.openGroup .and, .wireAll, .closeGroup] ⟨tree, 3⟩).cursor = 3 ∧
      (run Demo.setting [.closeGroup] ⟨tree, 3⟩).cursor = 2 ∧
      ∀ n, (run Demo.setting (List.replicate (n + 2) .closeGroup) ⟨tree, 3⟩).cursor = 0 := by
  intro tree
  have present : 3 < tree.groups.length := by decide
  obtain ⟨-, above, paths, moves⟩ := cursor_follows_stack Demo.setting
    [.openGroup .or, .closeGroup, .openGroup .and, .openGroup .or] present
  have path : tree.IsPath [0, 2, 3] 3 := by
    refine ⟨rfl, ?_, rfl⟩
    have first : tree.Lists 0 2 := ⟨_, rfl, by decide⟩
    have second : tree.Lists 2 3 := ⟨_, rfl, by decide⟩
    simp [first, second]
  obtain rfl : above = [3, 2, 0] := List.reverse_injective ((paths [0, 2, 3]).mp path).symm
  have balanced : Balanced [.openGroup .and, .wireAll, .closeGroup] := by
    refine ⟨?_, rfl⟩
    intro done start
    simp only [List.prefix_cons_iff, List.prefix_nil] at start
    rcases start with rfl | ⟨_, rfl, rfl | ⟨_, rfl, rfl | ⟨_, rfl, rfl⟩⟩⟩ <;> decide
  obtain ⟨-, -, returns, -⟩ := moves [.openGroup .and, .wireAll, .closeGroup] (by simp [jumps])
  obtain ⟨-, -, -, closes⟩ := moves [] (by simp)
  refine ⟨present, returns balanced, ?_, fun n => (closes (n + 2)).2 (Nat.le_add_left 3 n)⟩
  exact (Option.some.inj ((closes 1).1 (by decide))).symm

end Step

end RecordFilter
