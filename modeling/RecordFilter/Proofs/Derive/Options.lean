import RecordFilter.Derive
import RecordFilter.Proofs.Outcome

/-!
# Entries that can be carried out

Entries are carried out one after the other.  Whether one can be depends on the entry alone
(`Options.Admits`, `FieldOptions.Admits`), and of several that set one option the last counts
(`Options.ofEntries_eq`, `FieldOptions.ofEntries_eq`).
-/

namespace RecordFilter.Derive

open Text (Convention)

/-- The last of the values that are read from items, or else a value that was there before. -/
theorem foldl_latest {α β : Type} (read : α → Option β) (items : List α) (start : β) :
    items.foldl (fun current item => (read item).getD current) start =
      (items.filterMap read).getLast?.getD start := by
  induction items generalizing start with
  | nil => rfl
  | cons item rest ih =>
    rw [List.foldl_cons, ih]
    cases found : read item with
    | none => simp [found]
    | some value =>
      rw [List.filterMap_cons_some found, List.getLast?_cons, Option.getD_some, Option.getD_some]

/-! ## Declarations -/

/-- The naming conventions with their names. -/
def conventions : List (String × Convention) :=
  [("PascalCase", .pascal), ("camelCase", .camel), ("snake_case", .snake),
    ("SCREAMING_SNAKE_CASE", .upperSnake)]

/-- A text writes a path that has these tokens. -/
def WritesPath (text : String) (tokens : List Token) : Prop :=
  ∃ written path, Token.ofText? text = some written ∧
    PathExpr.ofTokens? written = some path ∧ path.tokens = tokens

namespace Entry

/-- The naming convention that an entry of a declaration sets. -/
def convention? : Entry → Option Convention
  | .named "rename_all" (some value) => value.content?.bind Options.convention?
  | _ => none

/-- The path of the library that an entry of a declaration sets. -/
def library? : Entry → Option (List Token)
  | .named "crate" (some (.text path)) => (Options.readLibrary path).toOption
  | _ => none

/-- The name of the property that an entry of a field sets. -/
def renaming? : Entry → Option String
  | .named "rename" (some value) => value.content?
  | _ => none

end Entry

namespace Options

/-- The entries that a declaration may have: a convention that is known, and a path of the
    library. -/
inductive Admits : Entry → Prop
  | convention {value : EntryValue} {name : String} {convention : Convention} :
    value.content? = some name → (name, convention) ∈ conventions →
      Admits (.named "rename_all" (some value))
  | library {text : String} {tokens : List Token} :
    WritesPath text tokens → Admits (.named "crate" (some (.text text)))

theorem convention?_eq_some {name : String} {convention : Convention} :
    convention? name = some convention ↔ (name, convention) ∈ conventions := by
  unfold convention? conventions
  split <;> simp_all [eq_comm]

theorem readLibrary_eq_ok {text : String} {tokens : List Token} :
    readLibrary text = .ok tokens ↔ WritesPath text tokens := by
  have read : readLibrary text = .ok tokens ↔ ∃ path,
      (Token.ofText? text).bind PathExpr.ofTokens? = some path ∧ path.tokens = tokens := by
    rw [readLibrary]
    cases (Token.ofText? text).bind PathExpr.ofTokens? <;> simp
  rw [read, WritesPath]
  simp only [Option.bind_eq_some_iff]
  constructor
  · rintro ⟨path, ⟨written, scanned, parsed⟩, same⟩
    exact ⟨written, path, scanned, parsed, same⟩
  · rintro ⟨written, path, scanned, parsed, same⟩
    exact ⟨path, ⟨written, scanned, parsed⟩, same⟩

/-- Why an entry cannot be carried out. -/
def failure? (entry : Entry) : Option Failure := failureOf (apply .default entry)

/-- The options after an entry. -/
def after (options : Options) (entry : Entry) : Options where
  convention := entry.convention?.getD options.convention
  library := entry.library?.getD options.library

/-- The options that were set before do not decide whether an entry can be carried out. -/
theorem apply_eq (options : Options) (entry : Entry) :
    options.apply entry = outcome (failure? entry) (options.after entry) := by
  unfold failure? apply
  split
  · rename_i value
    cases content : value.content? with
    | none => rfl
    | some name =>
      cases known : convention? name with
      | none => simp [known]
      | some convention => simp [known, content, after, Entry.convention?, Entry.library?]
  · rename_i path
    cases read : readLibrary path with
    | error e => rfl
    | ok tokens =>
      simp [Except.map, after, Entry.convention?, Entry.library?, read, Except.toOption]
  all_goals rfl

theorem failure?_eq_none {entry : Entry} : failure? entry = none ↔ Admits entry := by
  constructor
  · intro carriedOut
    unfold failure? apply at carriedOut
    split at carriedOut
    · rename_i value
      cases content : value.content? with
      | none => simp [content] at carriedOut
      | some name =>
        cases known : convention? name with
        | none => simp [content, known] at carriedOut
        | some convention => exact .convention content (convention?_eq_some.mp known)
    · rename_i path
      cases read : readLibrary path with
      | error e => simp [read] at carriedOut
      | ok tokens => exact .library (readLibrary_eq_ok.mp read)
    all_goals cases carriedOut
  · rintro (⟨content, known⟩ | written)
    · simp [failure?, apply, content, convention?_eq_some.mpr known]
    · simp [failure?, apply, readLibrary_eq_ok.mpr written]

/-- No entry of a declaration makes a field unnamable. -/
theorem failure?_ne_unnamable (entry : Entry) : failure? entry ≠ some .unnamable := by
  unfold failure? apply
  split
  · split <;> simp
  · rename_i path
    rw [failureOf_map, readLibrary]
    split <;> simp
  all_goals simp

theorem foldl_after (entries : List Entry) (options : Options) : entries.foldl after options =
    ⟨entries.foldl (fun current entry => entry.convention?.getD current) options.convention,
      entries.foldl (fun current entry => entry.library?.getD current) options.library⟩ := by
  induction entries generalizing options with
  | nil => rfl
  | cons entry rest ih => exact ih (options.after entry)

/-- Entries are carried out up to the first that cannot be; the last convention and the last
    path count. -/
theorem ofEntries_eq (entries : List Entry) :
    ofEntries entries = outcome (entries.findSome? failure?)
      ⟨(entries.filterMap Entry.convention?).getLast?.getD default.convention,
        (entries.filterMap Entry.library?).getLast?.getD default.library⟩ := by
  rw [ofEntries, foldlM_outcome apply_eq, foldl_after, foldl_latest, foldl_latest]

end Options

/-! ## Fields -/

namespace FieldOptions

/-- The entries that a field may have. -/
inductive Admits : Entry → Prop
  | skip : Admits (.named "skip" none)
  | collection : Admits (.named "collection" none)
  | rename {value : EntryValue} {name : String} :
    value.content? = some name → Admits (.named "rename" (some value))

/-- Why an entry cannot be carried out. -/
def failure? (entry : Entry) : Option Failure := failureOf (apply ⟨false, false, ""⟩ entry)

/-- The options after an entry. -/
def after (options : FieldOptions) (entry : Entry) : FieldOptions where
  skip := options.skip || entry == .named "skip" none
  collection := options.collection || entry == .named "collection" none
  property := entry.renaming?.getD options.property

/-- The options that were set before do not decide whether an entry can be carried out. -/
theorem apply_eq (options : FieldOptions) (entry : Entry) :
    options.apply entry = outcome (failure? entry) (options.after entry) := by
  unfold failure? apply
  split
  · simp [after, Entry.renaming?]
  · simp [after, Entry.renaming?]
  · rename_i value
    cases content : value.content? with
    | none => rfl
    | some name => simp [after, Entry.renaming?, content]
  all_goals rfl

theorem failure?_eq_none {entry : Entry} : failure? entry = none ↔ Admits entry := by
  constructor
  · intro carriedOut
    unfold failure? apply at carriedOut
    split at carriedOut
    · exact .skip
    · exact .collection
    · rename_i value
      cases content : value.content? with
      | none => simp [content] at carriedOut
      | some name => exact .rename content
    all_goals cases carriedOut
  · rintro (_ | _ | content)
    · rfl
    · rfl
    · simp [failure?, apply, content]

/-- No entry makes a field unnamable. -/
theorem failure?_ne_unnamable (entry : Entry) : failure? entry ≠ some .unnamable := by
  unfold failure? apply
  split
  case h_3 value => cases value.content? <;> simp
  all_goals simp

theorem foldl_after (entries : List Entry) (options : FieldOptions) :
    entries.foldl after options =
      ⟨options.skip || entries.contains (.named "skip" none),
        options.collection || entries.contains (.named "collection" none),
        entries.foldl (fun current entry => entry.renaming?.getD current) options.property⟩ := by
  induction entries generalizing options with
  | nil => simp
  | cons entry rest ih =>
    rw [List.foldl_cons, ih, List.contains_cons, List.contains_cons, ← Bool.or_assoc,
      ← Bool.or_assoc]
    simp only [after, BEq.comm]
    rfl

/-- Entries are carried out up to the first that cannot be; one entry is enough to skip a field
    or to make it a collection, and the last name counts. -/
theorem ofEntries_eq (property : String) (entries : List Entry) :
    ofEntries property entries = outcome (entries.findSome? failure?)
      ⟨entries.contains (.named "skip" none), entries.contains (.named "collection" none),
        (entries.filterMap Entry.renaming?).getLast?.getD property⟩ := by
  rw [ofEntries, foldlM_outcome apply_eq, foldl_after, foldl_latest, Bool.false_or, Bool.false_or]

end FieldOptions

end RecordFilter.Derive
