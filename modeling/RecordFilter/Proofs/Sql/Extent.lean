import RecordFilter.Proofs.Sql.Literal

/-!
# Where literals end

A literal is one token, a word, a signed number or a string, from its first character to
its last.  The text of a date-time stands between quotes as the pattern writes it, so this
holds of a date-time exactly when the quotes in that text come in pairs
(`exists_isToken_literal`).  Every pattern without quotes is of this kind.
-/

namespace RecordFilter.Sql

/-- A text between quotes is one token exactly when its own quotes come in pairs. -/
theorem exists_isToken_betweenQuotes {text : List Char} :
    (∃ token, token.IsLiteral ∧ IsToken (betweenQuotes text) token) ↔
      ∃ content, text = doubled '\'' content := by
  constructor
  · rintro ⟨token, -, whole⟩
    have read := whole.token?_eq
    rw [betweenQuotes, String.toList_ofList, List.cons_append, token?_cons (by decide), readToken,
      if_pos rfl] at read
    obtain ⟨found, foundRead, same⟩ := Option.map_eq_some_iff.mp read
    obtain ⟨-, rest⟩ := Prod.mk.inj same
    obtain ⟨written, -⟩ := eq_of_readQuoted foundRead
    rw [rest] at written
    exact ⟨found.1, List.append_cancel_right written⟩
  · rintro ⟨content, rfl⟩
    rw [betweenQuotes_doubled]
    exact ⟨_, .text _, isToken_quoteString _⟩

namespace Config

variable {config : Config}

/-- The literal of anything but a date-time does not depend on the pattern. -/
theorem literal_of_not_dateTime {value : Value} (other : ∀ d, value ≠ .dateTime d)
    (pattern : String) :
    { config with datetimeFormat := pattern }.literal value = config.literal value := by
  cases value with
  | dateTime d => exact absurd rfl (other d)
  | _ => rfl

/-- A literal is one token, from its first character to its last, unless it is a date-time
    whose text has a quote that is not doubled.  No pattern without quotes writes such a
    text, and then it is the token of the value. -/
theorem exists_isToken_literal {value : Value} {text : String}
    (written : config.literal value = .ok text) :
    ((∃ token, token.IsLiteral ∧ IsToken text token) ↔
      ∀ d moment, value = .dateTime d →
        Pattern.format? config.datetimeFormat d = some moment →
          ∃ content, moment = doubled '\'' content) ∧
    ('\'' ∉ config.datetimeFormat.toList →
      ∃ token, (config.literalParts value).map Part.toToken = [token] ∧ token.IsLiteral ∧
        IsToken text token) := by
  refine ⟨?_, fun quoteFree => isToken_literal (quoteFree_of_notMem quoteFree) written⟩
  by_cases dated : ∃ d, value = .dateTime d
  · obtain ⟨d, rfl⟩ := dated
    obtain ⟨moment, formatted, rfl⟩ := literal_dateTime_eq_ok.mp written
    rw [exists_isToken_betweenQuotes]
    constructor
    · rintro paired _ _ ⟨⟩ again
      rw [formatted] at again
      cases again
      exact paired
    · intro paired
      exact paired d moment rfl formatted
  · rw [not_exists] at dated
    refine iff_of_true ?_ fun d _ same => absurd same (dated d)
    -- the pattern plays no part, so one without quotes may stand for it
    rw [← literal_of_not_dateTime dated ""] at written
    have quoteFree : QuoteFree { config with datetimeFormat := "" } :=
      quoteFree_of_notMem (by simp)
    obtain ⟨token, -, isLiteral, whole⟩ := isToken_literal quoteFree written
    exact ⟨token, isLiteral, whole⟩

/-- A quote that the pattern doubles. -/
theorem exists_isToken_literal_doubled :
    let config : Config := { default with datetimeFormat := "%H o''clock" }
    let d : DateTime := ⟨2024, 3, 9, 7, 5, 0, 0, by decide⟩
    config.literal (.dateTime d) = .ok "'07 o''clock'" ∧
      ∃ token, token.IsLiteral ∧ IsToken "'07 o''clock'" token := by
  intro config d
  have formatted : Pattern.format? config.datetimeFormat d =
      some (doubled '\'' "07 o'clock".toList) := by decide +kernel
  have written : config.literal (.dateTime d) = .ok "'07 o''clock'" :=
    literal_dateTime_eq_ok.mpr ⟨_, formatted, rfl⟩
  refine ⟨written, (exists_isToken_literal written).1.mpr ?_⟩
  intro other moment same again
  rw [← Value.dateTime.inj same, formatted] at again
  exact ⟨_, (Option.some.inj again).symm⟩

/-- A valid pattern with one quote: the string that the literal opens ends in the middle of
    the date-time. -/
theorem literal_of_single_quote :
    let config : Config := { default with datetimeFormat := "%H o'clock" }
    let d : DateTime := ⟨2024, 3, 9, 7, 5, 0, 0, by decide⟩
    config.validate = .ok () ∧
      config.literal (.dateTime d) = .ok "'07 o'clock'" ∧
      token? "'07 o'clock'".toList = some (.text "07 o", "clock'".toList) ∧
      ¬∃ token, token.IsLiteral ∧ IsToken "'07 o'clock'" token := by
  intro config d
  have formatted : Pattern.format? config.datetimeFormat d = some "07 o'clock".toList := by
    decide +kernel
  have early := @token?_quoteString "07 o" "clock'".toList (by decide)
  have chars : (quoteString "07 o").toList ++ "clock'".toList = "'07 o'clock'".toList := by
    decide
  rw [chars] at early
  refine ⟨by decide +kernel, literal_dateTime_eq_ok.mpr ⟨_, formatted, rfl⟩, early, ?_⟩
  rintro ⟨token, -, whole⟩
  have read := early.symm.trans whole.token?_eq
  cases read

end Config

end RecordFilter.Sql
