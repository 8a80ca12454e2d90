import Mathlib
import RecordFilter.Text.Identifier
import RecordFilter.Text.Words

/-!
# The words of ASCII names

A character of ASCII joins no other and has one character as its form in either case.  So the
words of an ASCII name are its characters but for the separators (`flatten_words_ascii`), and
they are known up to their case from the name in upper case (`uppercase_words_inj`): names that
are written alike in upper case are written alike in every convention
(`Convention.apply_eq_of_upperSnake`).
-/

namespace RecordFilter.Text

/-- All characters of the text are in ASCII. -/
def Ascii (text : List Char) : Prop := ∀ c ∈ text, c.toNat < 128

instance (text : List Char) : Decidable (Ascii text) :=
  decidable_of_iff (text.all (·.toNat < 128) = true) (by simp [Ascii])

/-! ## Joined lists -/

section

variable {α : Type} {separator : α} {lists others : List (List α)}

theorem mem_intercalate {item : α} (member : item ∈ [separator].intercalate lists) :
    item = separator ∨ item ∈ lists.flatten := by
  induction lists with
  | nil => simp at member
  | cons first rest ih =>
    cases rest with
    | nil => exact .inr (by simpa using member)
    | cons second rest =>
      rw [List.intercalate_cons_cons, List.append_assoc, List.mem_append] at member
      rcases member with here | later
      · exact .inr (List.mem_flatten_of_mem List.mem_cons_self here)
      · rcases List.mem_cons.mp later with between | after
        · exact .inl between
        · exact (ih after).imp_right (List.mem_append_right first)

theorem head?_intercalate (filled : ∀ list ∈ lists, list ≠ []) :
    ([separator].intercalate lists).head? = lists.flatten.head? := by
  cases lists with
  | nil => rfl
  | cons first rest =>
    obtain ⟨item, first, rfl⟩ := List.exists_cons_of_ne_nil (filled first List.mem_cons_self)
    rw [List.intercalate_cons_cons_left]
    rfl

theorem intercalate_eq_nil (filled : ∀ list ∈ lists, list ≠ []) :
    [separator].intercalate lists = [] ↔ lists = [] := by
  rw [← List.head?_eq_none_iff, head?_intercalate filled, List.head?_eq_none_iff,
    List.flatten_eq_nil_iff]
  cases lists with
  | nil => simp
  | cons first rest => simpa using fun blank => absurd blank (filled first List.mem_cons_self)

/-- Lists that are not empty and do not hold the separator are known from what joins them. -/
theorem intercalate_inj [BEq α] [LawfulBEq α]
    (filled : ∀ list ∈ lists, list ≠ [] ∧ separator ∉ list)
    (filled' : ∀ list ∈ others, list ≠ [] ∧ separator ∉ list)
    (same : [separator].intercalate lists = [separator].intercalate others) : lists = others := by
  have empty : lists = [] ↔ others = [] := by
    rw [← intercalate_eq_nil fun list member => (filled list member).1, same,
      intercalate_eq_nil fun list member => (filled' list member).1]
  by_cases nothing : lists = []
  · rw [nothing, empty.mp nothing]
  · have something : others ≠ [] := mt empty.mpr nothing
    rw [← List.splitOn_intercalate separator (fun list member => (filled list member).2) nothing,
      same, List.splitOn_intercalate separator (fun list member => (filled' list member).2)
        something]

end

/-! ## Characters -/

theorem inRanges_of_lt {first code : Nat} {rest : List Nat} (before : code < first) :
    inRanges (first :: rest) code = false := by
  have beyond : ¬first ≤ code := Nat.not_le.mpr before
  simp [inRanges, beyond]

theorem isTrailing_ascii {c : Char} (ascii : c.toNat < 128) : isTrailing c = false :=
  inRanges_of_lt (ascii.trans (by decide : 128 < 768))

theorem isLeading_ascii {c : Char} (ascii : c.toNat < 128) : isLeading c = false :=
  inRanges_of_lt (ascii.trans (by decide : 128 < 1536))

/-- Where all other runs and all special cases lie beyond a character, only the first run
    counts for it. -/
theorem mapCase_of_lt {run : CaseRun} {runs : List CaseRun} {special : List (Nat × List Nat)}
    {bound : Nat} (runsBeyond : ∀ later ∈ runs, bound ≤ later.first)
    (specialBeyond : ∀ entry ∈ special, bound ≤ entry.1) {c : Char} (below : c.toNat < bound) :
    mapCase (run :: runs) special c =
      if run.covers c.toNat then [Char.ofNat (c.toNat + run.offset).toNat] else [c] := by
  have ordinary : special.lookup c.toNat = none := by
    rw [List.lookup_eq_none_iff]
    intro entry member
    have beyond := specialBeyond entry member
    rw [bne_iff_ne]
    omega
  have alone : runs.find? (·.covers c.toNat) = none := by
    rw [List.find?_eq_none]
    intro later member
    have beyond := runsBeyond later member
    have short : ¬later.first ≤ c.toNat := by omega
    simp [CaseRun.covers, short]
  rw [mapCase, ordinary]
  simp only [List.find?_cons, alone]
  cases run.covers c.toNat <;> rfl

theorem covers_each {first last code : Nat} {offset : Int} :
    (⟨first, last, 1, offset⟩ : CaseRun).covers code = true ↔ first ≤ code ∧ code ≤ last := by
  simp [CaseRun.covers, Nat.mod_one]

theorem isLower_iff {c : Char} : c.isLower = true ↔ 97 ≤ c.toNat ∧ c.toNat ≤ 122 := by
  simp [Char.isLower, UInt32.le_iff_toNat_le]

theorem isUpper_iff {c : Char} : c.isUpper = true ↔ 65 ≤ c.toNat ∧ c.toNat ≤ 90 := by
  simp [Char.isUpper, UInt32.le_iff_toNat_le]

theorem upper_ascii {c : Char} (ascii : c.toNat < 128) : upper c = [c.toUpper] := by
  -- the first run of the table is the one of the letters of ASCII
  have beyond : ∀ later ∈ upperRuns.tail, 128 ≤ later.first := by decide +kernel
  refine (mapCase_of_lt beyond (by decide) ascii).trans ?_
  simp only [covers_each, ← isLower_iff]
  split
  · rename_i small
    obtain ⟨least, -⟩ := isLower_iff.mp small
    rw [Char.toUpper_eq_of_isLower small]
    congr 2
    omega
  · rename_i other
    rw [Char.toUpper_eq_of_not_isLower other]

theorem lower_ascii {c : Char} (ascii : c.toNat < 128) : lower c = [c.toLower] := by
  have beyond : ∀ later ∈ lowerRuns.tail, 128 ≤ later.first := by decide +kernel
  refine (mapCase_of_lt beyond (by decide) ascii).trans ?_
  simp only [covers_each, ← isUpper_iff]
  split
  · rename_i capital
    rw [Char.toLower_eq_of_isUpper capital]
    rfl
  · rename_i other
    rw [Char.toLower_eq_of_not_isUpper other]

theorem isUpper_toUpper {c : Char} (small : c.isLower = true) : c.toUpper.isUpper = true := by
  rw [Char.isUpper_toUpper_eq_isAlpha, Char.isAlpha, small, Bool.or_true]

theorem toUpper_lt {c : Char} (ascii : c.toNat < 128) : c.toUpper.toNat < 128 := by
  by_cases small : c.isLower
  · obtain ⟨-, most⟩ := isUpper_iff.mp (isUpper_toUpper small)
    omega
  · rwa [Char.toUpper_eq_of_not_isLower small]

theorem toUpper_eq_underscore {c : Char} : c.toUpper = '_' ↔ c = '_' := by
  by_cases small : c.isLower
  · have capital := isUpper_toUpper small
    refine iff_of_false ?_ ?_
    · intro same
      rw [same] at capital
      exact absurd capital (by decide)
    · rintro rfl
      exact absurd small (by decide)
  · rw [Char.toUpper_eq_of_not_isLower small]

/-! ## Texts in either case -/

namespace Ascii

variable {text : List Char}

theorem of_cons {c : Char} {rest : List Char} (ascii : Ascii (c :: rest)) :
    c.toNat < 128 ∧ Ascii rest :=
  List.forall_mem_cons.mp ascii

theorem uppercase_eq (ascii : Ascii text) : uppercase text = text.map Char.toUpper := by
  rw [uppercase, List.flatMap_congr fun c member => upper_ascii (ascii c member),
    List.map_eq_flatMap]

theorem lowerAfter_eq (ascii : Ascii text) (before : List Char) :
    lowerAfter before text = text.map Char.toLower := by
  induction text generalizing before with
  | nil => rfl
  | cons c rest ih =>
    obtain ⟨single, later⟩ := ascii.of_cons
    have ordinary : c ≠ 'Σ' := by
      rintro rfl
      exact absurd single (by decide)
    rw [lowerAfter, if_neg ordinary, lower_ascii single, ih later, List.map_cons,
      List.singleton_append]

theorem lowercase_eq (ascii : Ascii text) : lowercase text = text.map Char.toLower :=
  ascii.lowerAfter_eq []

theorem uppercase (ascii : Ascii text) : Ascii (uppercase text) := by
  rw [ascii.uppercase_eq]
  intro c member
  obtain ⟨original, present, rfl⟩ := List.mem_map.mp member
  exact toUpper_lt (ascii original present)

theorem uppercase_uppercase (ascii : Ascii text) :
    Text.uppercase (Text.uppercase text) = Text.uppercase text := by
  rw [ascii.uppercase.uppercase_eq, ascii.uppercase_eq, List.map_map]
  exact List.map_congr_left fun c _ => Char.toUpper_toUpper_eq_toUpper c

theorem lowercase_uppercase (ascii : Ascii text) :
    lowercase (Text.uppercase text) = lowercase text := by
  rw [ascii.uppercase.lowercase_eq, ascii.uppercase_eq, ascii.lowercase_eq, List.map_map]
  exact List.map_congr_left fun c _ => Char.toLower_toUpper_eq_toLower c

theorem capitalize_uppercase (ascii : Ascii text) :
    capitalize (Text.uppercase text) = capitalize text := by
  cases text with
  | nil => rfl
  | cons c rest =>
    obtain ⟨single, later⟩ := ascii.of_cons
    have first : Ascii [c] := by simpa [Ascii] using single
    have split : Text.uppercase (c :: rest) = c.toUpper :: Text.uppercase rest := by
      rw [ascii.uppercase_eq, later.uppercase_eq, List.map_cons]
    have head : Text.uppercase [c] = [c.toUpper] := first.uppercase_eq
    rw [split, capitalize, capitalize, later.lowercase_uppercase, ← head,
      first.uppercase_uppercase]

/-- Every character is a cluster. -/
theorem clusters_eq (ascii : Ascii text) : clusters text = text.map ([·]) := by
  induction text with
  | nil => rfl
  | cons c rest ih =>
    obtain ⟨single, later⟩ := ascii.of_cons
    have unfolded : clusters (c :: rest) = consCluster c (clusters rest) := rfl
    rw [unfolded, ih later]
    cases rest with
    | nil => rfl
    | cons d rest =>
      have next : isTrailing d = false := isTrailing_ascii later.of_cons.1
      simp [consCluster, isLeading_ascii single, next]

end Ascii

/-! ## Words -/

/-- Splitting loses the separators and nothing else. -/
theorem flatten_splitWords (word : List Char) (clusters : List Cluster) :
    (splitWords word clusters).flatten = word ++ (clusters.filter (!·.isSeparator)).flatten := by
  induction clusters generalizing word with
  | nil => simp [splitWords]
  | cons c rest ih =>
    rw [splitWords]
    split
    · rename_i separates
      simp [ih, separates]
    · rename_i kept
      split <;> simp [ih, kept]

theorem flatten_words (text : List Char) :
    (words text).flatten = ((clusters text).filter (!·.isSeparator)).flatten := by
  rw [words, List.flatten_filter_not_isEmpty, flatten_splitWords, List.nil_append]

theorem ne_nil_of_mem_words {text word : List Char} (member : word ∈ words text) : word ≠ [] := by
  have kept := List.of_mem_filter member
  simpa using kept

section

variable {text other : List Char}

theorem flatten_words_ascii (ascii : Ascii text) :
    (words text).flatten = text.filter fun c => !Cluster.isSeparator [c] := by
  rw [flatten_words, ascii.clusters_eq, List.filter_map, ← List.flatMap_def]
  exact List.flatMap_singleton' _

theorem mem_of_mem_words (ascii : Ascii text) {word : List Char} (member : word ∈ words text)
    {c : Char} (present : c ∈ word) : c ∈ text ∧ Cluster.isSeparator [c] = false := by
  have kept : c ∈ text.filter fun c => !Cluster.isSeparator [c] := by
    rw [← flatten_words_ascii ascii]
    exact List.mem_flatten_of_mem member present
  simpa using kept

theorem Ascii.words (ascii : Ascii text) : ∀ word ∈ words text, Ascii word :=
  fun _ member c present => ascii c (mem_of_mem_words ascii member present).1

theorem uppercase_words (ascii : Ascii text) :
    (words text).map uppercase = (words text).map (List.map Char.toUpper) :=
  List.map_congr_left fun word member => (ascii.words word member).uppercase_eq

/-- What is written in a convention does not depend on the case of the words. -/
theorem Convention.join_map_uppercase {words : List (List Char)}
    (ascii : ∀ word ∈ words, Ascii word) (convention : Convention) :
    convention.join (words.map uppercase) = convention.join words := by
  have forms : ∀ form : List Char → List Char,
      (∀ word, Ascii word → form (uppercase word) = form word) →
        (words.map uppercase).map form = words.map form := by
    intro form same
    rw [List.map_map]
    exact List.map_congr_left fun word member => same word (ascii word member)
  have capitals := forms capitalize fun _ plain => plain.capitalize_uppercase
  cases convention with
  | pascal => rw [join, capitals, join]
  | camel =>
    cases words with
    | nil => rfl
    | cons first rest =>
      obtain ⟨-, tail⟩ := List.cons.inj capitals
      rw [List.map_cons, join, join, tail, (ascii first List.mem_cons_self).lowercase_uppercase]
  | snake => rw [join, forms lowercase fun _ plain => plain.lowercase_uppercase, join]
  | upperSnake => rw [join, forms uppercase fun _ plain => plain.uppercase_uppercase, join]

/-- Joining the words in upper case with underscores loses no boundary between them. -/
theorem filled_uppercase_words (ascii : Ascii text) :
    ∀ word ∈ (words text).map uppercase, word ≠ [] ∧ '_' ∉ word := by
  rw [uppercase_words ascii, List.forall_mem_map]
  intro word member
  refine ⟨by simpa using ne_nil_of_mem_words member, ?_⟩
  intro holds
  obtain ⟨c, present, same⟩ := List.mem_map.mp holds
  have separates := (mem_of_mem_words ascii member present).2
  rw [toUpper_eq_underscore.mp same] at separates
  exact absurd separates (by decide)

/-- The words of an ASCII name are known up to their case from the name in upper case. -/
theorem uppercase_words_inj (ascii : Ascii text) (ascii' : Ascii other) :
    Convention.upperSnake.join (words text) = Convention.upperSnake.join (words other) ↔
      (words text).map uppercase = (words other).map uppercase := by
  constructor
  · exact intercalate_inj (filled_uppercase_words ascii) (filled_uppercase_words ascii')
  · intro same
    rw [Convention.join, Convention.join, same]

/-- Two ASCII names that are alike in upper case are alike in every convention. -/
theorem Convention.apply_eq_of_upperSnake {name other : String} (ascii : Ascii name.toList)
    (ascii' : Ascii other.toList)
    (same : Convention.upperSnake.apply name = Convention.upperSnake.apply other)
    (convention : Convention) : convention.apply name = convention.apply other := by
  have capitals := (uppercase_words_inj ascii ascii').mp (String.ofList_injective same)
  -- both names are written from the same words in upper case
  rw [apply, apply, ← join_map_uppercase ascii.words, capitals, join_map_uppercase ascii'.words]

/-- The name in upper case starts with the first character that separates no words. -/
theorem head?_upperSnake (ascii : Ascii text) :
    (Convention.upperSnake.join (words text)).head? =
      (text.find? fun c => !Cluster.isSeparator [c]).map Char.toUpper := by
  rw [Convention.join,
    head?_intercalate fun word member => (filled_uppercase_words ascii word member).1,
    uppercase_words ascii, ← List.map_flatten, flatten_words_ascii ascii, List.head?_map,
    List.head?_filter]

theorem mem_upperSnake (ascii : Ascii text) {c : Char}
    (member : c ∈ Convention.upperSnake.join (words text)) :
    c = '_' ∨ ∃ original ∈ text, c = original.toUpper := by
  refine (mem_intercalate member).imp_right ?_
  rw [uppercase_words ascii, ← List.map_flatten, flatten_words_ascii ascii]
  intro written
  obtain ⟨original, present, rfl⟩ := List.mem_map.mp written
  exact ⟨original, List.mem_of_mem_filter present, rfl⟩

/-! ## Identifiers -/

theorem isIdentifierChar_ascii {c : Char} (ascii : c.toNat < 128) :
    isIdentifierChar c = (c.isAlphanum || c == '_') := by
  have table : ∀ code < 128, isIdentifierChar (Char.ofNat code) =
      ((Char.ofNat code).isAlphanum || Char.ofNat code == '_') := by decide +kernel
  have entry := table c.toNat ascii
  rwa [Char.ofNat_toNat] at entry

theorem isIdentifierStart_ascii {c : Char} (ascii : c.toNat < 128) :
    isIdentifierStart c = (c.isAlpha || c == '_') := by
  have table : ∀ code < 128, isIdentifierStart (Char.ofNat code) =
      ((Char.ofNat code).isAlpha || Char.ofNat code == '_') := by decide +kernel
  have entry := table c.toNat ascii
  rwa [Char.ofNat_toNat] at entry

theorem isAlpha_eq_false_iff {c : Char} (either : c.isAlphanum = true) :
    c.isAlpha = false ↔ c.isDigit = true := by
  have letters : c.isAlpha = true ↔
      65 ≤ c.toNat ∧ c.toNat ≤ 90 ∨ 97 ≤ c.toNat ∧ c.toNat ≤ 122 := by
    rw [Char.isAlpha, Bool.or_eq_true, isUpper_iff, isLower_iff]
  have digits : c.isDigit = true ↔ 48 ≤ c.toNat ∧ c.toNat ≤ 57 := by
    simp [Char.isDigit, UInt32.le_iff_toNat_le]
  rw [Char.isAlphanum, Bool.or_eq_true, letters, digits] at either
  rw [← Bool.not_eq_true, letters, digits]
  omega

theorem isIdentifierChar_toUpper {c : Char} (ascii : c.toNat < 128)
    (inside : isIdentifierChar c = true) : isIdentifierChar c.toUpper = true := by
  by_cases small : c.isLower
  · rw [isIdentifierChar_ascii (toUpper_lt ascii), Char.isAlphanum, Char.isAlpha,
      isUpper_toUpper small]
    rfl
  · rwa [Char.toUpper_eq_of_not_isLower small]

theorem isIdentifierChar_of_mem (ascii : Ascii text) (legal : isIdentifier text = true) {c : Char}
    (member : c ∈ text) : isIdentifierChar c = true := by
  cases text with
  | nil => cases member
  | cons first rest =>
    rw [isIdentifier, Bool.and_eq_true, List.all_eq_true] at legal
    obtain ⟨starts, goesOn⟩ := legal
    rcases List.mem_cons.mp member with rfl | later
    · have single := ascii.of_cons.1
      rw [isIdentifierStart_ascii single] at starts
      rw [isIdentifierChar_ascii single, Char.isAlphanum, Bool.or_right_comm, starts, Bool.true_or]
    · exact goesOn c later

/-- Of the separators only the underscore stands in identifiers. -/
theorem isSeparator_of_isIdentifierChar {c : Char} (inside : isIdentifierChar c = true) :
    Cluster.isSeparator [c] = (c == '_') := by
  have apart : ∀ separator : Char, isIdentifierChar separator = false → c ≠ separator := by
    rintro separator outside rfl
    rw [inside] at outside
    cases outside
  have noHyphen : (c == '-') = false := beq_eq_false_iff_ne.mpr (apart '-' (by decide))
  have noBlank : (c == ' ') = false := beq_eq_false_iff_ne.mpr (apart ' ' (by decide))
  simp [Cluster.isSeparator, noHyphen, noBlank]

theorem isIdentifier_of_head {first : Char} (head : text.head? = some first)
    (inside : ∀ c ∈ text, isIdentifierChar c = true) :
    isIdentifier text = isIdentifierStart first := by
  obtain ⟨rest, rfl⟩ := List.head?_eq_some_iff.mp head
  rw [isIdentifier, List.all_eq_true.mpr fun c later => inside c (List.mem_cons_of_mem first later),
    Bool.and_true]

/-- An ASCII identifier in upper case is none when a digit comes first after the underscores
    that it starts with, or nothing at all. -/
theorem isIdentifier_upperSnake (ascii : Ascii text) (legal : isIdentifier text = true) :
    isIdentifier (Convention.upperSnake.join (words text)) = false ↔
      (text.find? (· != '_')).all Char.isDigit = true := by
  have inside : ∀ c ∈ Convention.upperSnake.join (words text), isIdentifierChar c = true := by
    intro c member
    rcases mem_upperSnake ascii member with rfl | ⟨original, present, rfl⟩
    · decide
    · exact isIdentifierChar_toUpper (ascii original present)
        (isIdentifierChar_of_mem ascii legal present)
  have head : (Convention.upperSnake.join (words text)).head? =
      (text.find? (· != '_')).map Char.toUpper := by
    have separators : ∀ c ∈ text, (!Cluster.isSeparator [c]) = (c != '_') := by
      intro c member
      rw [isSeparator_of_isIdentifierChar (isIdentifierChar_of_mem ascii legal member)]
      rfl
    rw [head?_upperSnake ascii, List.find?_congr separators]
  cases found : text.find? (· != '_') with
  | none =>
    rw [found, Option.map_none, List.head?_eq_none_iff] at head
    rw [head]
    decide
  | some first =>
    rw [found, Option.map_some] at head
    have present := List.mem_of_find?_eq_some found
    have letter : first ≠ '_' := by simpa using List.find?_some found
    have single := ascii first present
    have alphanumeric : first.isAlphanum = true := by
      have legalChar := isIdentifierChar_of_mem ascii legal present
      rw [isIdentifierChar_ascii single] at legalChar
      simpa [letter] using legalChar
    rw [isIdentifier_of_head head inside, isIdentifierStart_ascii (toUpper_lt single),
      Char.isAlpha_toUpper_eq_isAlpha, Option.all_some, ← isAlpha_eq_false_iff alphanumeric]
    simp [toUpper_eq_underscore, letter]

end

end RecordFilter.Text
