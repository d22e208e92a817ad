import MessageCatalog.Segment.Reading

/-!
# Well-formed specifiers

A specifier may say a position and a number of decimals, and both are either
missing or numerals.  Reading reports a problem for exactly the other
specifiers.
-/

namespace MessageCatalog

/-- A decimal numeral that fits into a machine word: digits, at least one, with
an optional plus sign in front. -/
def IsNumeral (text : Text) : Prop :=
  ∃ digits, (text = digits ∨ text = '+' :: digits) ∧ digits ≠ [] ∧
    (∀ c ∈ digits, c.isDigit = true) ∧ Nat.ofDigitChars 10 digits 0 < Numeral.bound

namespace Numeral

theorem ofDigitChars_cons_eq (value : Nat) (c : Char) (rest : Text) :
    Nat.ofDigitChars 10 (c :: rest) value =
      Nat.ofDigitChars 10 rest (value * 10 + digitValue c) := by
  rw [Nat.ofDigitChars_cons, Nat.mul_comm]
  rfl

theorem le_ofDigitChars (digits : Text) (value : Nat) :
    value ≤ Nat.ofDigitChars 10 digits value := by
  induction digits generalizing value with
  | nil => exact Nat.le_refl value
  | cons c rest ih =>
      rw [ofDigitChars_cons_eq]
      have hrest := ih (value * 10 + digitValue c)
      omega

theorem readDigits_isOk_iff (text : Text) {value : Nat} (hvalue : value < bound) :
    (readDigits value text).isOk = true ↔
      (∀ c ∈ text, c.isDigit = true) ∧ Nat.ofDigitChars 10 text value < bound := by
  induction text generalizing value with
  | nil => simpa [readDigits, Except.isOk, Except.toBool] using hvalue
  | cons c rest ih =>
      have hle := le_ofDigitChars rest (value * 10 + digitValue c)
      rw [readDigits, ofDigitChars_cons_eq]
      by_cases hdigit : c.isDigit = true
      · by_cases hbound : value * 10 + digitValue c < bound
        · simp [hdigit, hbound, ih hbound]
        · have hlarge : ¬ Nat.ofDigitChars 10 rest (value * 10 + digitValue c) < bound := by
            omega
          simp [hdigit, hbound, hlarge, Except.isOk, Except.toBool]
      · simp [hdigit, Except.isOk, Except.toBool]

theorem read_isOk_iff (text : Text) : (read text).isOk = true ↔ IsNumeral text := by
  have hzero : 0 < bound := by decide
  unfold IsNumeral
  cases text with
  | nil => simp [read, Except.isOk, Except.toBool]
  | cons c rest =>
      rw [read]
      by_cases hplus : c = '+'
      · subst hplus
        rw [if_pos rfl]
        cases rest with
        | nil => simp [Except.isOk, Except.toBool]
        | cons d rest =>
            rw [List.isEmpty_cons, if_neg (by decide), readDigits_isOk_iff _ hzero]
            constructor
            · rintro ⟨hdigits, hbound⟩
              exact ⟨d :: rest, Or.inr rfl, by simp, hdigits, hbound⟩
            · rintro ⟨digits, rfl | hdigits, -, hall, hbound⟩
              · exact absurd (hall '+' (by simp)) (by decide)
              · obtain ⟨-, rfl⟩ := List.cons.inj hdigits
                exact ⟨hall, hbound⟩
      · rw [if_neg hplus, readDigits_isOk_iff _ hzero]
        constructor
        · rintro ⟨hdigits, hbound⟩
          exact ⟨c :: rest, Or.inl rfl, by simp, hdigits, hbound⟩
        · rintro ⟨digits, rfl | hdigits, -, hall, hbound⟩
          · exact ⟨hall, hbound⟩
          · exact absurd (List.cons.inj hdigits).1 hplus

end Numeral

namespace Specifier

/-- The position as it is written: what stands in front of the first colon. -/
def orderText? (body : Text) : Option Text :=
  (Text.splitFirst? ':' (stripBraces body)).map Prod.fst

/-- The type character and what follows it: what stands behind the first colon,
or everything if there is none. -/
def typeText (body : Text) : Text :=
  ((Text.splitFirst? ':' (stripBraces body)).map Prod.snd).getD (stripBraces body)

/-- The number of decimals as it is written: what stands behind the first point,
if the type is that of floating-point data. -/
def decimalText? (type : Text) : Option Text :=
  match type with
  | [] => none
  | c :: rest =>
      if DataType.ofChar c = .float then (Text.splitFirst? '.' rest).map Prod.snd else none

/-- A specifier whose numbers are numerals or missing. -/
structure WellFormed (body : Text) : Prop where
  order : ∀ order ∈ orderText? body, order = [] ∨ IsNumeral order
  decimals : ∀ digits ∈ decimalText? (typeText body), digits = [] ∨ IsNumeral digits

theorem readNumber_eq_nil_iff (part : SpecifierPart) (text : Text) :
    (readNumber part text).2 = [] ↔ IsNumeral text := by
  rw [← Numeral.read_isOk_iff]
  unfold readNumber
  cases Numeral.read text <;> simp [Except.isOk, Except.toBool]

theorem readOrder_eq_nil_iff (text : Text) :
    (readOrder text).2 = [] ↔ text = [] ∨ IsNumeral text := by
  unfold readOrder
  cases text with
  | nil => simp
  | cons c rest => simp [readNumber_eq_nil_iff]

theorem readDecimals_eq_nil_iff (text : Text) :
    (readDecimals text).2 = [] ↔
      ∀ digits ∈ (Text.splitFirst? '.' text).map Prod.snd,
        digits = [] ∨ IsNumeral digits := by
  unfold readDecimals
  cases hsplit : Text.splitFirst? '.' text with
  | none => simp
  | some parts =>
      obtain ⟨before, digits⟩ := parts
      cases digits with
      | nil => simp
      | cons c rest => simp [readNumber_eq_nil_iff]

theorem readType_eq_nil_iff (order : Option Nat) (text : Text) :
    (readType order text).2 = [] ↔
      ∀ digits ∈ decimalText? text, digits = [] ∨ IsNumeral digits := by
  unfold readType decimalText?
  cases text with
  | nil => simp
  | cons c rest =>
      cases htype : DataType.ofChar c with
      | float => simpa [htype] using readDecimals_eq_nil_iff rest
      | object => simp [htype]
      | integer => simp [htype]
      | string => simp [htype]

theorem read_eq_nil_iff (body : Text) : (read body).2 = [] ↔ WellFormed body := by
  have hparts : WellFormed body ↔
      (∀ order ∈ orderText? body, order = [] ∨ IsNumeral order) ∧
        ∀ digits ∈ decimalText? (typeText body), digits = [] ∨ IsNumeral digits :=
    ⟨fun h => ⟨h.order, h.decimals⟩, fun h => ⟨h.1, h.2⟩⟩
  rw [hparts]
  unfold read orderText? typeText
  cases hsplit : Text.splitFirst? ':' (stripBraces body) with
  | none => simp [readType_eq_nil_iff]
  | some parts =>
      simp [readOrder_eq_nil_iff, readType_eq_nil_iff]

end Specifier

namespace Segment

theorem problemsOf_eq_nil_iff (raw : Text) :
    problemsOf raw = [] ↔
      ∀ body, Mark.specifier body ∈ Mark.ofText raw → Specifier.WellFormed body := by
  unfold problemsOf
  rw [List.flatMap_eq_nil_iff]
  constructor
  · intro hnone body hmem
    exact (Specifier.read_eq_nil_iff body).mp (hnone _ hmem)
  · intro hall mark hmem
    cases mark with
    | literal c => rfl
    | specifier body => exact (Specifier.read_eq_nil_iff body).mpr (hall body hmem)

end Segment

end MessageCatalog
