import RecordFilter.Time.Pattern

/-!
# What patterns write

Whether a pattern can be written depends on its items alone, never on the date-time
(`isSome_format?`).  Apart from its literal text a pattern writes no quotes: one
without a quote never emits one (`quote_notMem_format?`).
-/

namespace RecordFilter.Pattern

/-! ## Patterns that can be written -/

/-- Whether an item can be written. -/
def Item.isWritable : Item → Bool
  | offset | unknown => false
  | _ => true

theorem isSome_item_format? (d : DateTime) (item : Item) :
    (item.format? d).isSome = item.isWritable := by
  cases item <;> rfl

/-- A pattern can be written when all its items can, whatever the date-time. -/
theorem isSome_format? (pattern : String) (d : DateTime) :
    (format? pattern d).isSome = (parse pattern.toList).all Item.isWritable := by
  rw [format?, Option.isSome_map]
  induction parse pattern.toList with
  | nil => rfl
  | cons item rest ih =>
    rw [List.mapM_cons, List.all_cons, ← ih, ← isSome_item_format? d item]
    cases item.format? d with
    | none => rfl
    | some text =>
      cases rest.mapM (Item.format? d) with
      | none => rfl
      | some texts => rfl

/-! ## Patterns without quotes -/

/-- Whether an item is anything but literal text with a quote. -/
def Item.isQuoteFree : Item → Bool
  | literal text => !text.contains '\''
  | _ => true

theorem quoteFree_ofLetter {c : Char} {items : List Item} (read : ofLetter c = some items) :
    items.all Item.isQuoteFree = true := by
  unfold ofLetter at read
  split at read
  all_goals
    cases read
    try rfl

theorem quoteFree_withPadding (padding : Padding) (items : List Item) :
    (withPadding padding items).all Item.isQuoteFree = true := by
  unfold withPadding
  split <;> rfl

theorem quoteFree_readField (text : List Char) :
    (readField text).1.all Item.isQuoteFree = true := by
  unfold readField
  split
  all_goals try rfl
  rename_i c rest _ _ _ _ _ _ _ _ _ _
  cases letter : ofLetter c with
  | none => rfl
  | some items => exact quoteFree_ofLetter letter

theorem quoteFree_readSpecifier (text : List Char) :
    (readSpecifier text).1.all Item.isQuoteFree = true := by
  unfold readSpecifier
  split
  · exact quoteFree_withPadding _ _
  · exact quoteFree_withPadding _ _
  · exact quoteFree_withPadding _ _
  · rfl
  · rfl
  · exact quoteFree_readField _

/-- What reading a specifier leaves is the end of the text. -/
theorem readField_suffix (text : List Char) : (readField text).2 <:+ text := by
  unfold readField
  split <;> simp [List.suffix_cons_iff]

theorem readSpecifier_suffix (text : List Char) : (readSpecifier text).2 <:+ text := by
  unfold readSpecifier
  split
  · exact (readField_suffix _).trans (List.suffix_cons _ _)
  · exact (readField_suffix _).trans (List.suffix_cons _ _)
  · exact (readField_suffix _).trans (List.suffix_cons _ _)
  · exact (List.suffix_cons _ _).trans (List.suffix_cons _ _)
  · exact List.suffix_cons _ _
  · exact readField_suffix _

/-- A text without quotes is read into items without quotes. -/
theorem quoteFree_parse (text : List Char) (quoteFree : '\'' ∉ text) :
    (parse text).all Item.isQuoteFree = true := by
  induction text using parse.induct with
  | case1 => simp [parse]
  | case2 rest ih =>
    have later : '\'' ∉ (readSpecifier rest).2 := fun member =>
      quoteFree (List.mem_cons_of_mem _ ((readSpecifier_suffix rest).subset member))
    rw [parse, List.all_append, quoteFree_readSpecifier, ih later]
    rfl
  | case3 c rest other ih =>
    have here : c ≠ '\'' := fun equal => quoteFree (equal ▸ List.mem_cons_self)
    have later := ih fun member => quoteFree (List.mem_cons_of_mem _ member)
    rw [parse, List.all_cons, later]
    · simp [Item.isQuoteFree, Ne.symm here]
    · exact other

/-! ## Fields without quotes -/

theorem quote_notMem_toDigitsCore {base fuel n : Nat} {digits : List Char}
    (quoteFree : '\'' ∉ digits) : '\'' ∉ Nat.toDigitsCore base fuel n digits := by
  induction fuel generalizing n digits with
  | zero => exact quoteFree
  | succ fuel ih =>
    have here := Ne.symm (@Nat.digitChar_ne (n % base) '\'' (by decide))
    simp only [Nat.toDigitsCore]
    split
    · simp [here, quoteFree]
    · exact ih (by simp [here, quoteFree])

/-- No digit is a quote, in any base. -/
theorem quote_notMem_toDigits (base n : Nat) : '\'' ∉ Nat.toDigits base n :=
  quote_notMem_toDigitsCore (by simp)

theorem toNat_ofNat {n : Nat} (valid : n.isValidChar) : (Char.ofNat n).toNat = n := by
  rw [Char.ofNat, dif_pos valid]
  rfl

/-- A digit, and a character that stands in for one past `9`, is no quote. -/
theorem ofNat_ne_quote (n : Nat) : Char.ofNat ('0'.toNat + n) ≠ '\'' := by
  intro equal
  by_cases valid : ('0'.toNat + n).isValidChar
  · have code : '0'.toNat + n = '\''.toNat := by
      rw [← toNat_ofNat valid, equal]
    have apart : '\''.toNat < '0'.toNat := by decide
    omega
  · rw [Char.ofNat, dif_neg valid] at equal
    exact absurd equal (by decide)

theorem quote_notMem_twoDigits (padding : Padding) (n : Nat) :
    '\'' ∉ twoDigits padding n := by
  have ones := (ofNat_ne_quote (n % 10)).symm
  have tens := (ofNat_ne_quote (n / 10)).symm
  simp only [twoDigits]
  split <;> simp only [List.mem_cons, List.not_mem_nil, or_false, not_or]
  · exact ones
  · exact ⟨by decide, ones⟩
  · exact ⟨tens, ones⟩

theorem quote_notMem_filled (padding : Padding) (width : Nat) (n : Int) :
    '\'' ∉ filled padding width n := by
  have digits := quote_notMem_toDigits 10 n.natAbs
  unfold filled
  cases padding <;> by_cases negative : n < 0 <;> simp [negative, digits]

theorem quote_notMem_filledSigned (padding : Padding) (width : Nat) (n : Int) :
    '\'' ∉ filledSigned padding width n := by
  have digits := quote_notMem_toDigits 10 n.natAbs
  unfold filledSigned
  cases padding <;> by_cases negative : n < 0 <;> simp [negative, digits]

theorem quote_notMem_yearText (padding : Padding) (year : Int) :
    '\'' ∉ yearText padding year := by
  unfold yearText
  split
  · exact quote_notMem_filled _ _ _
  · exact quote_notMem_filledSigned _ _ _

theorem quote_notMem_numeric (field : NumericField) (padding : Padding) (d : DateTime) :
    '\'' ∉ field.format padding d := by
  cases field with
  | year | weekYear => exact quote_notMem_yearText _ _
  | dayOfYear | nanosecond | timestamp => exact quote_notMem_filled _ _ _
  | _ => exact quote_notMem_twoDigits _ _

theorem quote_notMem_nameAt {names : List String} (plain : ∀ name ∈ names, '\'' ∉ name.toList)
    (position : Nat) : '\'' ∉ nameAt names position := by
  unfold nameAt
  cases found : names[position]? with
  | none => simp
  | some name => exact plain name (List.mem_of_getElem? found)

theorem quote_notMem_padded (width n : Nat) : '\'' ∉ DateTime.padded '0' width n := by
  simp [DateTime.padded, quote_notMem_toDigits]

theorem quote_notMem_fixed (field : FixedField) (d : DateTime) : '\'' ∉ field.format d := by
  have months : ∀ name ∈ monthNames, '\'' ∉ name.toList := by decide
  have weekdays : ∀ name ∈ weekdayNames, '\'' ∉ name.toList := by decide
  cases field with
  | shortMonth => exact fun member => quote_notMem_nameAt months _ (List.mem_of_mem_take member)
  | longMonth => exact quote_notMem_nameAt months _
  | shortWeekday =>
    exact fun member => quote_notMem_nameAt weekdays _ (List.mem_of_mem_take member)
  | longWeekday => exact quote_notMem_nameAt weekdays _
  | lowerHalf | upperHalf =>
    simp only [FixedField.format]
    split <;> decide
  | fraction =>
    simp only [FixedField.format, DateTime.fractionText]
    split
    · simp
    · split
      · simp [quote_notMem_padded]
      · split <;> simp [quote_notMem_padded]
  | fractionOf places => simp [FixedField.format, leadingFraction, quote_notMem_padded]
  | fractionDigits places => exact quote_notMem_padded _ _

/-- What a list of items writes is written by its items. -/
theorem exists_of_mem_mapM {d : DateTime} {items : List Item} {texts : List (List Char)}
    (written : items.mapM (Item.format? d) = some texts) {piece : List Char}
    (member : piece ∈ texts) : ∃ item ∈ items, item.format? d = some piece := by
  induction items generalizing texts with
  | nil =>
    cases written
    cases member
  | cons item rest ih =>
    rw [List.mapM_cons] at written
    obtain ⟨first, firstWritten, later⟩ := Option.bind_eq_some_iff.mp written
    obtain ⟨others, othersWritten, same⟩ := Option.bind_eq_some_iff.mp later
    cases same
    rcases List.mem_cons.mp member with rfl | among
    · exact ⟨item, List.mem_cons_self, firstWritten⟩
    · obtain ⟨source, sourceMember, sourceWritten⟩ := ih othersWritten among
      exact ⟨source, List.mem_cons_of_mem _ sourceMember, sourceWritten⟩

theorem quote_notMem_item_format? {item : Item} (quoteFree : item.isQuoteFree = true)
    {d : DateTime} {text : List Char} (written : item.format? d = some text) :
    '\'' ∉ text := by
  cases item with
  | literal text =>
    cases written
    simpa [Item.isQuoteFree] using quoteFree
  | numeric field padding =>
    cases written
    exact quote_notMem_numeric field padding d
  | fixed field =>
    cases written
    exact quote_notMem_fixed field d
  | offset | unknown => cases written

/-- A pattern without a quote never writes one. -/
theorem quote_notMem_format? {pattern : String} (quoteFree : '\'' ∉ pattern.toList)
    {d : DateTime} {text : List Char} (written : format? pattern d = some text) :
    '\'' ∉ text := by
  have items := quoteFree_parse pattern.toList quoteFree
  obtain ⟨texts, each, rfl⟩ := Option.map_eq_some_iff.mp written
  clear written
  rw [List.mem_flatten]
  rintro ⟨piece, member, quote⟩
  obtain ⟨item, itemMember, itemWritten⟩ := exists_of_mem_mapM each member
  exact quote_notMem_item_format? (List.all_eq_true.mp items item itemMember) itemWritten quote

end RecordFilter.Pattern
