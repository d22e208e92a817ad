import MessageCatalog.Output.WindowsResources
import MessageCatalog.Proofs.Text.DecimalDigit

/-!
# Names of Windows resources

Code is generated from the names of Windows resources, so each of them has to
be an identifier: letters, digits and underscores, and no digit in front.  The
name of a key holds no other characters, a key that is an identifier is its own
name, and so is every name.  A digit in front, however, is only noticed if it
is one of the usual ten: names begin with a digit of another script if their
keys do.
-/

namespace MessageCatalog

namespace WindowsResources

/-- What may be the name of a resource. -/
structure IsIdentifier (name : Text) : Prop where
  ne_nil : name ≠ []
  characters : ∀ c ∈ name, isAlphanumeric c = true ∨ c = '_'
  no_digit : ∀ c ∈ name.head?, isDecimalDigit c = false

/-- A character as it stands in a name. -/
def nameChar (c : Char) : Char := if isNameChar c then c else '_'

/-- A name with an underscore in front if it begins with a usual digit. -/
def guardDigit : Text → Text
  | [] => []
  | c :: rest => if c.isDigit then '_' :: c :: rest else c :: rest

theorem sanitizeKey_eq (key : Text) : sanitizeKey key = guardDigit (key.map nameChar) := by
  unfold sanitizeKey guardDigit
  rfl

theorem isNameChar_iff {c : Char} : isNameChar c = true ↔ isAlphanumeric c = true ∨ c = '_' := by
  simp [isNameChar]

/-! ## Characters -/

theorem nameChar_eq_self_iff {c : Char} : nameChar c = c ↔ isNameChar c = true := by
  unfold nameChar
  split
  · next hc => exact iff_of_true rfl hc
  · next hc =>
      refine iff_of_false ?_ hc
      rintro rfl
      exact hc rfl

theorem isNameChar_nameChar (c : Char) : isNameChar (nameChar c) = true := by
  unfold nameChar
  split
  · next hc => exact hc
  · rfl

/-- Characters that may stand in a name, other than the underscore, stand in it
where they stand in the key. -/
theorem apply_nameChar {p : Char → Bool} (hname : ∀ c, p c = true → isNameChar c = true)
    (hunderscore : p '_' = false) (c : Char) : p (nameChar c) = p c := by
  by_cases hc : isNameChar c = true
  · rw [nameChar_eq_self_iff.mpr hc]
  · have hnot : p c = false := Bool.eq_false_iff.mpr fun hp => hc (hname c hp)
    rw [nameChar, if_neg hc, hunderscore, hnot]

theorem isNameChar_of_isDecimalDigit {c : Char} (hc : isDecimalDigit c = true) :
    isNameChar c = true :=
  isNameChar_iff.mpr (.inl (isAlphanumeric_of_isDecimalDigit hc))

theorem isDecimalDigit_nameChar (c : Char) : isDecimalDigit (nameChar c) = isDecimalDigit c :=
  apply_nameChar (fun _ hd => isNameChar_of_isDecimalDigit hd) (by decide +kernel) c

theorem isDigit_nameChar (c : Char) : (nameChar c).isDigit = c.isDigit :=
  apply_nameChar (fun _ hd => isNameChar_of_isDecimalDigit (isDecimalDigit_of_isDigit hd)) rfl c

theorem map_nameChar_eq_self_iff {key : Text} :
    key.map nameChar = key ↔ ∀ c ∈ key, isNameChar c = true := by
  induction key with
  | nil => simp
  | cons c key ih =>
      rw [List.map_cons, List.cons.injEq, nameChar_eq_self_iff, ih, List.forall_mem_cons]

/-! ## Names -/

theorem guardDigit_eq_self_iff {text : Text} :
    guardDigit text = text ↔ ∀ c ∈ text.head?, c.isDigit = false := by
  cases text with
  | nil => simp [guardDigit]
  | cons c rest =>
      rw [guardDigit]
      split
      · next hc => simp [hc]
      · next hc => simpa using hc

theorem isDigit_head?_guardDigit (text : Text) :
    ∀ c ∈ (guardDigit text).head?, c.isDigit = false := by
  cases text with
  | nil => simp [guardDigit]
  | cons c rest =>
      rw [guardDigit]
      split
      · simp
      · next hc => simpa using hc

theorem mem_guardDigit {text : Text} {c : Char} (hc : c ∈ guardDigit text) :
    c ∈ text ∨ c = '_' := by
  cases text with
  | nil => exact .inl hc
  | cons d rest =>
      rw [guardDigit] at hc
      split at hc
      · rcases List.mem_cons.mp hc with rfl | hrest
        · exact .inr rfl
        · exact .inl hrest
      · exact .inl hc

theorem sanitizeKey_eq_nil_iff {key : Text} : sanitizeKey key = [] ↔ key = [] := by
  cases key with
  | nil => exact iff_of_true rfl rfl
  | cons c key =>
      rw [sanitizeKey_eq, List.map_cons, guardDigit]
      split <;> simp

theorem isNameChar_of_mem_sanitizeKey {key : Text} {c : Char} (hc : c ∈ sanitizeKey key) :
    isNameChar c = true := by
  rw [sanitizeKey_eq] at hc
  rcases mem_guardDigit hc with hmem | rfl
  · obtain ⟨d, -, rfl⟩ := List.mem_map.mp hmem
    exact isNameChar_nameChar d
  · rfl

theorem sanitizeKey_eq_self_iff {key : Text} :
    sanitizeKey key = key ↔
      (∀ c ∈ key, isNameChar c = true) ∧ ∀ c ∈ key.head?, c.isDigit = false := by
  constructor
  · intro heq
    constructor
    · intro c hc
      exact isNameChar_of_mem_sanitizeKey (heq.symm ▸ hc)
    · rw [← heq, sanitizeKey_eq]
      exact isDigit_head?_guardDigit _
  · rintro ⟨hchars, hhead⟩
    rw [sanitizeKey_eq, map_nameChar_eq_self_iff.mpr hchars, guardDigit_eq_self_iff.mpr hhead]

theorem sanitizeKey_sanitizeKey (key : Text) : sanitizeKey (sanitizeKey key) = sanitizeKey key := by
  rw [sanitizeKey_eq_self_iff]
  refine ⟨fun c hc => isNameChar_of_mem_sanitizeKey hc, ?_⟩
  rw [sanitizeKey_eq]
  exact isDigit_head?_guardDigit _

/-- A name begins with a decimal digit exactly if its key begins with one that
is not among the usual ten. -/
theorem isDecimalDigit_head?_sanitizeKey_iff {key : Text} :
    (∀ c ∈ (sanitizeKey key).head?, isDecimalDigit c = false) ↔
      ∀ c ∈ key.head?, isDecimalDigit c = true → c.isDigit = true := by
  cases key with
  | nil => simp [sanitizeKey]
  | cons c key =>
      rw [sanitizeKey_eq, List.map_cons, guardDigit, isDigit_nameChar]
      split
      · next hc =>
          have hunderscore : isDecimalDigit '_' = false := by decide +kernel
          simp [hc, hunderscore]
      · next hc => simp [hc, isDecimalDigit_nameChar]

/-- The name of a key holds nothing but letters, digits and underscores, and it
is an identifier if and only if the key is not empty and does not begin with a
decimal digit other than the usual ten.  Identifiers are their own names, and
names are the names of themselves. -/
theorem isIdentifier_sanitizeKey_iff (key : Text) :
    (IsIdentifier (sanitizeKey key) ↔
        key ≠ [] ∧ ∀ c ∈ key.head?, isDecimalDigit c = true → c.isDigit = true) ∧
      (sanitizeKey key = [] ↔ key = []) ∧
      (∀ c ∈ sanitizeKey key, isAlphanumeric c = true ∨ c = '_') ∧
      (IsIdentifier key → sanitizeKey key = key) ∧
      sanitizeKey (sanitizeKey key) = sanitizeKey key := by
  have hchars : ∀ c ∈ sanitizeKey key, isAlphanumeric c = true ∨ c = '_' := fun c hc =>
    isNameChar_iff.mp (isNameChar_of_mem_sanitizeKey hc)
  refine ⟨?_, sanitizeKey_eq_nil_iff, hchars, ?_, sanitizeKey_sanitizeKey key⟩
  · rw [← isDecimalDigit_head?_sanitizeKey_iff]
    constructor
    · intro hname
      exact ⟨fun hnil => hname.ne_nil (sanitizeKey_eq_nil_iff.mpr hnil), hname.no_digit⟩
    · rintro ⟨hne, hdigit⟩
      exact ⟨fun hnil => hne (sanitizeKey_eq_nil_iff.mp hnil), hchars, hdigit⟩
  · intro hkey
    rw [sanitizeKey_eq_self_iff]
    constructor
    · intro c hc
      exact isNameChar_iff.mpr (hkey.characters c hc)
    · intro c hc
      have hnot := hkey.no_digit c hc
      rw [Bool.eq_false_iff] at hnot ⊢
      exact fun hdigit => hnot (isDecimalDigit_of_isDigit hdigit)

/-- A key in another alphabet, with digits behind its first letter. -/
theorem isIdentifier_sanitizeKey_cyrillic :
    IsIdentifier "Цена_٣²".toList ∧ sanitizeKey "Цена_٣²".toList = "Цена_٣²".toList ∧
      IsIdentifier (sanitizeKey "1-Цена".toList) := by
  have hkey : IsIdentifier "Цена_٣²".toList := by
    have hchars : "Цена_٣²".toList.all isNameChar = true := by decide +kernel
    refine ⟨by decide, fun c hc => isNameChar_iff.mp (List.all_eq_true.mp hchars c hc), ?_⟩
    intro c hc
    obtain rfl : 'Ц' = c := Option.some.inj hc
    decide +kernel
  refine ⟨hkey, (isIdentifier_sanitizeKey_iff _).2.2.2.1 hkey, ?_⟩
  refine (isIdentifier_sanitizeKey_iff "1-Цена".toList).1.mpr ⟨by decide, ?_⟩
  intro c hc _
  obtain rfl : '1' = c := Option.some.inj hc
  rfl

/-- An Arabic digit in front stays where it is. -/
theorem not_forall_isIdentifier_sanitizeKey :
    sanitizeKey ['١'] = ['١'] ∧ isDecimalDigit '١' = true ∧
      ¬ ∀ key, key ≠ [] → IsIdentifier (sanitizeKey key) := by
  have hname : sanitizeKey ['١'] = ['١'] := by decide +kernel
  have hdigit : isDecimalDigit '١' = true := by decide +kernel
  refine ⟨hname, hdigit, ?_⟩
  intro hall
  have hidentifier := hall ['١'] (by simp)
  rw [hname] at hidentifier
  exact absurd hdigit (by simp [hidentifier.no_digit '١' rfl])

end WindowsResources

end MessageCatalog
