import MessageCatalog.Output.Printf
import MessageCatalog.Proofs.Segment.Gathering
import MessageCatalog.Proofs.Text.Decimal
import MessageCatalog.Proofs.Text.Letter
import MessageCatalog.Proofs.Text.Reader

/-!
# Reading printf formats

In a printf format two percent signs are a literal one.  Any other percent sign
begins a specifier, which has a position with a dollar sign behind it, a number
of decimals with a point in front of it, both of them optional, and a conversion.
A specifier ends with its conversion, so nothing of the text behind it is ever
taken into it, and nothing of the text before it either, since a percent sign
there is doubled.
-/

namespace MessageCatalog

namespace Printf

/-- What a stretch of a printf format stands for. -/
inductive Mark
  | literal (c : Char)
  | specifier (position decimals : Option Nat) (conversion : Char)
  deriving DecidableEq

inductive Part
  | text (content : Text)
  | specifier (position decimals : Option Nat) (conversion : Char)
  deriving DecidableEq

/-! ## The reader -/

/-- Reads a number up to a dollar sign, if there is one. -/
def readPosition (text : Text) : Option Nat × Text :=
  match text.dropWhile Char.isDigit with
  | '$' :: rest =>
      match Text.decimal? (text.takeWhile Char.isDigit) with
      | some position => (some position, rest)
      | none => (none, text)
  | _ => (none, text)

/-- Reads a number behind a point, if there is one. -/
def readDecimals : Text → Option Nat × Text
  | '.' :: rest =>
      match Text.decimal? (rest.takeWhile Char.isDigit) with
      | some decimals => (some decimals, rest.dropWhile Char.isDigit)
      | none => (none, '.' :: rest)
  | text => (none, text)

def isConversion (c : Char) : Bool := c.isAlpha || c = '@'

/-- Reads a specifier behind its percent sign. -/
def readSpecifier? (text : Text) : Option (Mark × Text) :=
  let position := readPosition text
  let decimals := readDecimals position.2
  match decimals.2 with
  | [] => none
  | c :: rest =>
      if isConversion c then some (.specifier position.1 decimals.1 c, rest) else none

def readMark? : Text → Option (Mark × Text)
  | [] => none
  | '%' :: '%' :: rest => some (.literal '%', rest)
  | '%' :: rest => readSpecifier? rest
  | c :: rest => some (.literal c, rest)

def marks? (format : Text) : Option (List Mark) := Text.readAll readMark? format

namespace Part

def consLiteral (c : Char) : List Part → List Part
  | text content :: rest => text (c :: content) :: rest
  | parts => text [c] :: parts

def ofMarks : List Mark → List Part
  | [] => []
  | .literal c :: rest => consLiteral c (ofMarks rest)
  | .specifier position decimals conversion :: rest =>
      specifier position decimals conversion :: ofMarks rest

/-- What a segment is meant to be read as, given the conversion of objects. -/
def ofSegment (object : Char) : Segment → Part
  | .text t => text t
  | .placeholder ⟨.integer, position, _⟩ => specifier position none 'd'
  | .placeholder ⟨.float, position, decimals⟩ => specifier position decimals 'f'
  | .placeholder ⟨.string, position, _⟩ => specifier position none object
  | .placeholder ⟨.object, position, _⟩ => specifier position none object

end Part

/-- The parts of a printf format. -/
def read? (format : Text) : Option (List Part) := (marks? format).map Part.ofMarks

/-! ## Reading what was written -/

theorem span_ofNat_append (n : Nat) {c : Char} (hc : c.isDigit = false) (rest : Text) :
    (Text.ofNat n ++ c :: rest).takeWhile Char.isDigit = Text.ofNat n ∧
      (Text.ofNat n ++ c :: rest).dropWhile Char.isDigit = c :: rest := by
  apply Text.span_digits_append fun d => Text.isDigit_of_mem_ofNat
  rintro d ⟨⟩
  exact hc

theorem readPosition_some (position : Nat) (rest : Text) :
    readPosition (Text.ofNat position ++ '$' :: rest) = (some position, rest) := by
  obtain ⟨htake, hdrop⟩ := span_ofNat_append position (c := '$') (by decide) rest
  simp only [readPosition, hdrop, htake, Text.decimal?_ofNat]

theorem readPosition_none {c : Char} (hdigit : c.isDigit = false) (hdollar : c ≠ '$')
    (rest : Text) : readPosition (c :: rest) = (none, c :: rest) := by
  have hdrop : (c :: rest).dropWhile Char.isDigit = c :: rest :=
    List.dropWhile_cons_of_neg (by simp [hdigit])
  unfold readPosition
  rw [hdrop]
  split
  · next heq => exact absurd (List.cons.inj heq).1 hdollar
  · rfl

theorem readDecimals_some (decimals : Nat) {c : Char} (hc : c.isDigit = false) (rest : Text) :
    readDecimals ('.' :: (Text.ofNat decimals ++ c :: rest)) = (some decimals, c :: rest) := by
  obtain ⟨htake, hdrop⟩ := span_ofNat_append decimals hc rest
  simp only [readDecimals, hdrop, htake, Text.decimal?_ofNat]

theorem readDecimals_none {c : Char} (hpoint : c ≠ '.') (rest : Text) :
    readDecimals (c :: rest) = (none, c :: rest) := by
  unfold readDecimals
  split
  · next heq => exact absurd (List.cons.inj heq).1 hpoint
  · rfl

def positionText : Option Nat → Text
  | some position => Text.ofNat position ++ ['$']
  | none => []

def decimalsText : Option Nat → Text
  | some decimals => '.' :: Text.ofNat decimals
  | none => []

theorem specifier_eq (object : Char) (p : Placeholder) :
    specifier object p =
      '%' :: (positionText p.orderIndex ++ decimalsText p.floatDecimals
        ++ [conversion object p.dataType]) := by
  unfold specifier positionText decimalsText
  cases p.orderIndex <;> cases p.floatDecimals <;> rfl

theorem readDecimals_append (decimals : Option Nat) {c : Char} (hdigit : c.isDigit = false)
    (hpoint : c ≠ '.') (rest : Text) :
    readDecimals (decimalsText decimals ++ c :: rest) = (decimals, c :: rest) := by
  cases decimals with
  | none => exact readDecimals_none hpoint rest
  | some count => exact readDecimals_some count hdigit rest

theorem readPosition_append (position decimals : Option Nat) {c : Char}
    (hdigit : c.isDigit = false) (hdollar : c ≠ '$') (rest : Text) :
    readPosition (positionText position ++ (decimalsText decimals ++ c :: rest)) =
      (position, decimalsText decimals ++ c :: rest) := by
  cases position with
  | none =>
      cases decimals with
      | none => exact readPosition_none hdigit hdollar rest
      | some count =>
          exact readPosition_none (c := '.') (by decide) (by decide)
            (Text.ofNat count ++ c :: rest)
  | some order =>
      have htext : positionText (some order) ++ (decimalsText decimals ++ c :: rest) =
          Text.ofNat order ++ '$' :: (decimalsText decimals ++ c :: rest) := by
        simp [positionText]
      rw [htext]
      exact readPosition_some order (decimalsText decimals ++ c :: rest)

/-- What a conversion is not, being a letter or an at sign. -/
theorem isConversion_spec {c : Char} (hc : isConversion c = true) :
    c.isDigit = false ∧ c ≠ '.' ∧ c ≠ '$' ∧ c ≠ '%' := by
  have hne : ∀ d : Char, isConversion d = false → c ≠ d := by
    rintro d hd rfl
    rw [hc] at hd
    exact absurd hd (by decide)
  have hdigit : c.isDigit = false := by
    rcases Bool.or_eq_true_iff.mp hc with hletter | hobject
    · exact Text.isDigit_eq_false_of_isAlpha hletter
    · rw [of_decide_eq_true hobject]
      rfl
  exact ⟨hdigit, hne '.' (by decide), hne '$' (by decide), hne '%' (by decide)⟩

theorem readSpecifier?_append (position decimals : Option Nat) {c : Char}
    (hc : isConversion c = true) (rest : Text) :
    readSpecifier? (positionText position ++ (decimalsText decimals ++ c :: rest)) =
      some (.specifier position decimals c, rest) := by
  obtain ⟨hdigit, hpoint, hdollar, -⟩ := isConversion_spec hc
  simp only [readSpecifier?, readPosition_append position decimals hdigit hdollar,
    readDecimals_append decimals hdigit hpoint, if_pos hc]

theorem readMark?_percent {body : Text} (hbody : body.head? ≠ some '%') :
    readMark? ('%' :: body) = readSpecifier? body := by
  rw [readMark?]
  rintro rest rfl
  exact hbody rfl

theorem head?_specifierBody (position decimals : Option Nat) {c : Char}
    (hc : isConversion c = true) (rest : Text) :
    (positionText position ++ (decimalsText decimals ++ c :: rest)).head? ≠ some '%' := by
  obtain ⟨-, -, -, hpercent⟩ := isConversion_spec hc
  cases position with
  | none =>
      cases decimals with
      | none => simpa [positionText, decimalsText] using hpercent
      | some count => simp [positionText, decimalsText]
  | some order =>
      obtain ⟨d, digits, hdigits⟩ := List.exists_cons_of_ne_nil (Text.ofNat_ne_nil order)
      have hd : d ≠ '%' := by
        rintro rfl
        exact Text.not_mem_ofNat (c := '%') (by decide) order (by simp [hdigits])
      simpa [positionText, hdigits] using hd

theorem isConversion_conversion {object : Char} (hobject : isConversion object = true)
    (type : DataType) : isConversion (conversion object type) = true := by
  cases type with
  | integer => rfl
  | float => rfl
  | string => exact hobject
  | object => exact hobject

theorem marks?_specifier_append {object : Char} (hobject : isConversion object = true)
    (p : Placeholder) (rest : Text) :
    marks? (specifier object p ++ rest) =
      (marks? rest).map
        (.specifier p.orderIndex p.floatDecimals (conversion object p.dataType) :: ·) := by
  have hconversion := isConversion_conversion hobject p.dataType
  have htext : specifier object p ++ rest =
      '%' :: (positionText p.orderIndex ++
        (decimalsText p.floatDecimals ++ conversion object p.dataType :: rest)) := by
    rw [specifier_eq]
    simp
  have hstep : readMark? (specifier object p ++ rest) =
      some (.specifier p.orderIndex p.floatDecimals (conversion object p.dataType), rest) := by
    rw [htext, readMark?_percent (head?_specifierBody _ _ hconversion rest),
      readSpecifier?_append _ _ hconversion]
  have hless : rest.length < (specifier object p ++ rest).length := by
    rw [htext]
    simp
    omega
  exact Text.readAll_eq_of_step hstep hless

theorem marks?_escapeChar_append (c : Char) (rest : Text) :
    marks? (escapeChar c ++ rest) = (marks? rest).map (.literal c :: ·) := by
  unfold escapeChar
  by_cases hc : c = '%'
  · subst hc
    have hless : rest.length < ('%' :: '%' :: rest).length := by
      rw [List.length_cons, List.length_cons]
      omega
    exact Text.readAll_eq_of_step rfl hless
  · have hstep : readMark? (c :: rest) = some (.literal c, rest) := by
      rw [readMark?]
      · rintro rest' rfl
        exact absurd rfl hc
      · exact hc
    rw [if_neg hc]
    exact Text.readAll_eq_of_step hstep (by simp)

/-- The marks that a segment is written with. -/
def marks (object : Char) : Segment → List Mark
  | .text t => t.map .literal
  | .placeholder p =>
      [.specifier p.orderIndex p.floatDecimals (conversion object p.dataType)]

theorem marks?_ofSegment_append {object : Char} (hobject : isConversion object = true)
    (segment : Segment) (rest : Text) :
    marks? (ofSegment object segment ++ rest) =
      (marks? rest).map (marks object segment ++ ·) := by
  cases segment with
  | placeholder p => exact marks?_specifier_append hobject p rest
  | text t =>
      change marks? (escape t ++ rest) = (marks? rest).map (t.map .literal ++ ·)
      unfold escape
      induction t with
      | nil => simp
      | cons c t ih =>
          rw [Text.escapeWith_cons, List.append_assoc, marks?_escapeChar_append, ih,
            Option.map_map]
          rfl

theorem marks?_ofSegments {object : Char} (hobject : isConversion object = true)
    (segments : List Segment) :
    marks? (ofSegments object segments) = some (segments.flatMap (marks object)) := by
  unfold ofSegments
  induction segments with
  | nil => exact Text.readAll_nil readMark?
  | cons segment rest ih =>
      rw [List.flatMap_cons, marks?_ofSegment_append hobject, ih, List.flatMap_cons]
      rfl

/-! ## Gathering the marks -/

theorem map_ofSegment_consLiteral (object c : Char) (segments : List Segment) :
    (Segment.consLiteral c segments).map (Part.ofSegment object) =
      Part.consLiteral c (segments.map (Part.ofSegment object)) := by
  cases segments with
  | nil => rfl
  | cons segment rest =>
      cases segment with
      | text t => rfl
      | placeholder p =>
          obtain ⟨type, position, decimals⟩ := p
          cases type <;> rfl

theorem ofMarks_flatMap_marks (object : Char) (segments : List Segment) :
    Part.ofMarks (segments.flatMap (marks object)) =
      (Segment.gather segments).map (Part.ofSegment object) := by
  induction segments with
  | nil => rfl
  | cons segment rest ih =>
      rw [List.flatMap_cons]
      cases segment with
      | placeholder p =>
          obtain ⟨type, position, decimals⟩ := p
          rw [Segment.gather, List.map_cons, ← ih]
          cases type <;> rfl
      | text t =>
          rw [Segment.gather, marks]
          induction t with
          | nil => exact ih
          | cons c t iht =>
              rw [List.map_cons, List.cons_append, Part.ofMarks, iht, List.foldr_cons,
                map_ofSegment_consLiteral]

/-- A value written as a printf format is read as its gathered segments. -/
theorem read?_ofSegments {object : Char} (hobject : isConversion object = true)
    (segments : List Segment) :
    read? (ofSegments object segments) =
      some ((Segment.gather segments).map (Part.ofSegment object)) := by
  rw [read?, marks?_ofSegments hobject, Option.map_some, ofMarks_flatMap_marks]

end Printf

end MessageCatalog
