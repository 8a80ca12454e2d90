import Mathlib.Data.List.Forall2
import RecordFilter.Proofs.Outcome

/-!
# Computations that record their calls

A `Recorded` computation keeps the calls it made, also when it fails.  One that plays a
script makes the calls of the script up to the first that fails (`Recorded.play`).
Scripts are played one after the other when computations are chained (`play_bind`), and
a loop plays the scripts of its rounds (`foldlM_eq_play`).
-/

namespace RecordFilter

/-- The items up to the first that fails, that one included. -/
def upToFailure {α ε : Type} (fails : α → Option ε) : List α → List α
  | [] => []
  | item :: rest => if (fails item).isSome then [item] else item :: upToFailure fails rest

section UpToFailure

variable {α β ε ε' : Type} {fails : α → Option ε}

theorem upToFailure_append_of_none {items : List α} (rest : List α)
    (none : items.findSome? fails = none) :
    upToFailure fails (items ++ rest) = items ++ upToFailure fails rest := by
  induction items with
  | nil => rfl
  | cons item items ih =>
    rw [List.findSome?_cons] at none
    cases here : fails item with
    | some e => simp [here] at none
    | none =>
      rw [here] at none
      simp [upToFailure, here, ih none]

theorem upToFailure_append_of_some {items : List α} (rest : List α) {e : ε}
    (some : items.findSome? fails = some e) :
    upToFailure fails (items ++ rest) = upToFailure fails items := by
  induction items with
  | nil => cases some
  | cons item items ih =>
    rw [List.findSome?_cons] at some
    cases here : fails item with
    | some e => simp [upToFailure, here]
    | none =>
      rw [here] at some
      simp [upToFailure, here, ih some]

theorem upToFailure_of_none {items : List α} (none : items.findSome? fails = none) :
    upToFailure fails items = items := by
  simpa [upToFailure] using upToFailure_append_of_none [] none

theorem isPrefix_upToFailure (fails : α → Option ε) (items : List α) :
    upToFailure fails items <+: items := by
  induction items with
  | nil => exact List.prefix_rfl
  | cons item items ih =>
    simp only [upToFailure]
    split
    · exact ⟨items, rfl⟩
    · exact List.cons_prefix_cons.mpr ⟨rfl, ih⟩

/-- An item that is met in two lists one after the other is met in the first, or it is
    met in the second and nothing fails before. -/
theorem mem_upToFailure_append {item : α} {first second : List α}
    (met : item ∈ upToFailure fails (first ++ second)) :
    item ∈ upToFailure fails first ∨
      first.findSome? fails = none ∧ item ∈ upToFailure fails second := by
  cases failure : first.findSome? fails with
  | some e =>
    rw [upToFailure_append_of_some second failure] at met
    exact .inl met
  | none =>
    rw [upToFailure_append_of_none second failure, List.mem_append] at met
    rw [upToFailure_of_none failure]
    exact met.imp id fun later => ⟨rfl, later⟩

/-- A view that shows every item that can fail shows the items up to the first that
    does. -/
theorem filterMap_upToFailure {view : α → Option β} {fails' : β → Option ε'}
    (hidden : ∀ item, view item = none → fails item = none)
    (shown : ∀ item seen, view item = some seen → (fails item).isSome = (fails' seen).isSome)
    (items : List α) :
    (upToFailure fails items).filterMap view = upToFailure fails' (items.filterMap view) := by
  induction items with
  | nil => rfl
  | cons item items ih =>
    cases seen : view item with
    | none => simp [upToFailure, hidden item seen, seen, ih]
    | some seen' =>
      simp only [upToFailure, shown item seen' seen, List.filterMap_cons, seen]
      split
      · simp [seen]
      · simp [seen, ih]

end UpToFailure

/-- A computation with the calls it makes, which it keeps when it fails. -/
structure Recorded (Call ε α : Type) where
  calls : List Call
  result : Except ε α

namespace Recorded

variable {Call ε α β : Type}

/-- Goes on with the value of a computation; one that failed makes no more calls. -/
def bind (first : Recorded Call ε α) (next : α → Recorded Call ε β) : Recorded Call ε β :=
  match first.result with
  | .ok value => ⟨first.calls ++ (next value).calls, (next value).result⟩
  | .error e => ⟨first.calls, .error e⟩

instance : Monad (Recorded Call ε) where
  pure value := ⟨[], .ok value⟩
  bind := Recorded.bind

/-- Makes the calls of a script up to the first that fails, and has the value when
    none does. -/
def play (fails : Call → Option ε) (script : List Call) (value : α) : Recorded Call ε α :=
  ⟨upToFailure fails script, outcome (script.findSome? fails) value⟩

variable {ι κ : Type} {fails : Call → Option ε}

@[simp]
theorem bind_eq (first : Recorded Call ε α) (next : α → Recorded Call ε β) :
    first >>= next = first.bind next := rfl

/-- Two scripts are played one after the other. -/
theorem play_bind (script : List Call) {later : List Call} {value : α} {final : β}
    {next : α → Recorded Call ε β} (continues : next value = play fails later final) :
    (play fails script value).bind next = play fails (script ++ later) final := by
  simp only [play, bind, List.findSome?_append]
  cases failure : script.findSome? fails with
  | some e => simp [upToFailure_append_of_some later failure]
  | none =>
    simp only [outcome_none, Option.none_or, continues, play]
    rw [upToFailure_append_of_none later failure, upToFailure_of_none failure]

/-- The script of a loop, whose rounds depend on what has been folded so far. -/
def loopScript (script : β → κ → List Call) (next : β → κ → β) : β → List κ → List Call
  | _, [] => []
  | folded, item :: rest => script folded item ++ loopScript script next (next folded item) rest

/-- A loop plays its rounds one after the other. -/
theorem foldlM_eq_play {round : β → ι → Recorded Call ε β} {script : β → κ → List Call}
    {next : β → κ → β} {items : List ι} {seen : List κ}
    (rounds : List.Forall₂ (fun item view => ∀ folded,
      round folded item = play fails (script folded view) (next folded view)) items seen)
    (start : β) :
    items.foldlM round start =
      play fails (loopScript script next start seen) (seen.foldl next start) := by
  induction rounds generalizing start with
  | nil => rfl
  | cons here _ ih =>
    rw [List.foldlM_cons, here, bind_eq]
    exact play_bind _ (ih _)

/-- A view of a loop's script, when no round's view depends on what was folded. -/
theorem filterMap_loopScript {γ : Type} {script : β → κ → List Call} {next : β → κ → β}
    {view : Call → Option γ} {views : κ → List γ}
    (each : ∀ folded item, (script folded item).filterMap view = views item) (start : β)
    (items : List κ) :
    (loopScript script next start items).filterMap view = items.flatMap views := by
  induction items generalizing start with
  | nil => rfl
  | cons item rest ih => simp [loopScript, each, ih]

theorem forall_mem_loopScript {script : β → κ → List Call} {next : β → κ → β}
    {holds : Call → Prop} {items : List κ}
    (each : ∀ item ∈ items, ∀ folded, ∀ call ∈ script folded item, holds call) (start : β) :
    ∀ call ∈ loopScript script next start items, holds call := by
  induction items generalizing start with
  | nil => simp [loopScript]
  | cons item rest ih =>
    intro call member
    simp only [loopScript, List.mem_append] at member
    rcases member with here | later
    · exact each item List.mem_cons_self start call here
    · exact ih (fun other present => each other (List.mem_cons_of_mem _ present)) _ call later

/-- A call that a round makes whatever was folded is in the loop's script. -/
theorem mem_loopScript {script : β → κ → List Call} {next : β → κ → β} {call : Call} {item : κ}
    {items : List κ} (member : item ∈ items) (made : ∀ folded, call ∈ script folded item)
    (start : β) : call ∈ loopScript script next start items := by
  induction items generalizing start with
  | nil => cases member
  | cons first rest ih =>
    rw [loopScript, List.mem_append]
    rcases List.mem_cons.mp member with rfl | later
    · exact .inl (made start)
    · exact .inr (ih later _)

/-- What a loop meets before anything fails, one of its rounds meets. -/
theorem mem_upToFailure_loopScript {script : β → κ → List Call} {next : β → κ → β} {call : Call}
    {start : β} {items : List κ}
    (met : call ∈ upToFailure fails (loopScript script next start items)) :
    ∃ item ∈ items, ∃ folded, call ∈ upToFailure fails (script folded item) := by
  induction items generalizing start with
  | nil => cases met
  | cons item rest ih =>
    rcases mem_upToFailure_append met with here | ⟨-, later⟩
    · exact ⟨item, List.mem_cons_self, start, here⟩
    · obtain ⟨other, present, folded, found⟩ := ih later
      exact ⟨other, List.mem_cons_of_mem _ present, folded, found⟩

end Recorded

end RecordFilter
