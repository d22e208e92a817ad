import MessageCatalog.Json.Printer
import MessageCatalog.Proofs.Text.Decimal
import MessageCatalog.Proofs.Text.Reader
import MessageCatalog.Text.Utf16
import Mathlib.Algebra.Ring.Int.Defs
import Mathlib.Tactic.SplitIfs

/-!
# Reading JSON

A JSON text is cut into tokens, between which there may be any white space.  The
tokens are put together with a stack of the arrays and objects that are still
open: a value that is complete becomes an item or a member of the innermost of
them.

Every value is read back from either of its two layouts.  The induction is over
the value, for any frames around it and any text behind it.  That text must not
continue a number, which is the only token without an end of its own.
-/

namespace MessageCatalog

namespace Json

/-! ## Tokens -/

inductive Token
  | beginArray
  | endArray
  | beginObject
  | endObject
  | colon
  | comma
  | string (text : Text)
  | scalar (value : Json)

def isSpace (c : Char) : Bool := c = ' ' || c = '\t' || c = '\n' || c = '\r'

def hexValue? (c : Char) : Option Nat :=
  if c.isDigit then some (c.toNat - '0'.toNat)
  else if 'a' ≤ c ∧ c ≤ 'f' then some (c.toNat - 'a'.toNat + 10)
  else if 'A' ≤ c ∧ c ≤ 'F' then some (c.toNat - 'A'.toNat + 10)
  else none

/-- Reads the four digits of a character given by number. -/
def readUnit? : Text → Option (Nat × Text)
  | a :: b :: c :: d :: rest =>
      ([a, b, c, d].mapM hexValue?).map fun digits =>
        (digits.foldl (fun unit digit => 16 * unit + digit) 0, rest)
  | _ => none

/-- Reads the second half of a pair of surrogates. -/
def readLow? (high : Nat) : Text → Option (Char × Text)
  | '\\' :: 'u' :: rest =>
      (readUnit? rest).bind fun low =>
        if Utf16.isLow low.1 then some (Utf16.pair high low.1, low.2) else none
  | _ => none

/-- Reads what follows a backslash. -/
def readEscape? : Text → Option (Char × Text)
  | '"' :: rest => some ('"', rest)
  | '\\' :: rest => some ('\\', rest)
  | '/' :: rest => some ('/', rest)
  | 'b' :: rest => some ('\x08', rest)
  | 'f' :: rest => some ('\x0c', rest)
  | 'n' :: rest => some ('\n', rest)
  | 'r' :: rest => some ('\r', rest)
  | 't' :: rest => some ('\t', rest)
  | 'u' :: rest =>
      (readUnit? rest).bind fun unit =>
        if Utf16.isHigh unit.1 then readLow? unit.1 unit.2
        else if Utf16.isLow unit.1 then none
        else some (Char.ofNat unit.1, unit.2)
  | _ => none

/-- Reads a character of a string.  Control characters have to be escaped. -/
def readCharacter? : Text → Option (Char × Text)
  | [] => none
  | c :: rest =>
      if c = '\\' then readEscape? rest
      else if c.toNat < 0x20 then none
      else some (c, rest)

def atQuote (text : Text) : Bool := text.head? = some '"'

/-- Reads a string behind its opening quote. -/
def readString? (text : Text) : Option (Text × Text) :=
  (Text.readUntil atQuote readCharacter? text).map fun parts => (parts.1, parts.2.drop 1)

/-- Reads the digits in front of the point.  Only the number zero begins with a
zero. -/
def readWhole? (text : Text) : Option (Text × Text) :=
  let digits := text.takeWhile Char.isDigit
  if digits.isEmpty || (digits.head? = some '0' && digits ≠ ['0']) then none
  else some (digits, text.dropWhile Char.isDigit)

/-- Reads the digits behind the point, if there is one. -/
def readFraction? (text : Text) : Option (Text × Text) :=
  match text with
  | '.' :: rest =>
      let digits := rest.takeWhile Char.isDigit
      if digits.isEmpty then none else some (digits, rest.dropWhile Char.isDigit)
  | _ => some ([], text)

def readMagnitude? (text : Text) : Option (Nat × Text) :=
  (Text.decimal? (text.takeWhile Char.isDigit)).map fun n =>
    (n, text.dropWhile Char.isDigit)

def readExponent? (text : Text) : Option (Int × Text) :=
  match text with
  | [] => some (0, [])
  | c :: rest =>
      if c = 'e' || c = 'E' then
        match rest with
        | '-' :: digits => (readMagnitude? digits).map fun parts => (-(parts.1 : Int), parts.2)
        | '+' :: digits => (readMagnitude? digits).map fun parts => ((parts.1 : Int), parts.2)
        | digits => (readMagnitude? digits).map fun parts => ((parts.1 : Int), parts.2)
      else some (0, c :: rest)

/-- A number with its point moved to the right, or to the left if the exponent is
negative. -/
def scaled (numerator : Int) (places : Nat) (exponent : Int) : Json :=
  .number (numerator * 10 ^ (exponent - places).toNat) ((places : Int) - exponent).toNat

def readUnsigned? (sign : Int) (text : Text) : Option (Json × Text) :=
  (readWhole? text).bind fun whole =>
    (readFraction? whole.2).bind fun fraction =>
      (readExponent? fraction.2).map fun exponent =>
        (scaled (sign * (Nat.ofDigitChars 10 (whole.1 ++ fraction.1) 0 : Nat))
          fraction.1.length exponent.1, exponent.2)

def readNumber? : Text → Option (Json × Text)
  | '-' :: rest => readUnsigned? (-1) rest
  | text => readUnsigned? 1 text

def readToken? : Text → Option (Token × Text)
  | '[' :: rest => some (.beginArray, rest)
  | ']' :: rest => some (.endArray, rest)
  | '\x7b' :: rest => some (.beginObject, rest)
  | '\x7d' :: rest => some (.endObject, rest)
  | ':' :: rest => some (.colon, rest)
  | ',' :: rest => some (.comma, rest)
  | '"' :: rest => (readString? rest).map fun parts => (.string parts.1, parts.2)
  | 'n' :: 'u' :: 'l' :: 'l' :: rest => some (.scalar .null, rest)
  | 't' :: 'r' :: 'u' :: 'e' :: rest => some (.scalar (.bool true), rest)
  | 'f' :: 'a' :: 'l' :: 's' :: 'e' :: rest => some (.scalar (.bool false), rest)
  | text => (readNumber? text).map fun parts => (.scalar parts.1, parts.2)

/-- The tokens of a text, without the white space around them. -/
def tokens? (text : Text) : Option (List Token) :=
  Text.readAll
    (fun rest => (readToken? rest).map fun parts => (parts.1, parts.2.dropWhile isSpace))
    (text.dropWhile isSpace)

/-! ## Values -/

/-- An array or object that is still open, with what is complete of it.  In an
object the name of the next member has been read. -/
inductive Frame
  | array (items : List Json)
  | object (members : List (Text × Json)) (name : Text)

mutual

/-- Reads on where a value may stand. -/
def readValue (frames : List Frame) : List Token → Option Json
  | .scalar value :: rest => readRest frames value rest
  | .string text :: rest => readRest frames (.string text) rest
  | .beginArray :: rest => readValue (.array [] :: frames) rest
  | .endArray :: rest =>
      match frames with
      | .array [] :: outer => readRest outer (.array []) rest
      | _ => none
  | .beginObject :: rest => readName frames [] rest
  | _ => none

/-- Reads on where a member of an object may stand. -/
def readName (outer : List Frame) (members : List (Text × Json)) : List Token → Option Json
  | .string name :: .colon :: rest => readValue (.object members name :: outer) rest
  | .endObject :: rest => if members.isEmpty then readRest outer (.object []) rest else none
  | _ => none

/-- Reads on behind a value. -/
def readRest (frames : List Frame) (value : Json) : List Token → Option Json
  | [] => if frames.isEmpty then some value else none
  | .comma :: rest =>
      match frames with
      | .array items :: outer => readValue (.array (items ++ [value]) :: outer) rest
      | .object members name :: outer => readName outer (members ++ [(name, value)]) rest
      | [] => none
  | .endArray :: rest =>
      match frames with
      | .array items :: outer => readRest outer (.array (items ++ [value])) rest
      | _ => none
  | .endObject :: rest =>
      match frames with
      | .object members name :: outer =>
          readRest outer (.object (members ++ [(name, value)])) rest
      | _ => none
  | _ => none

end

/-- The value of a text that holds nothing else but white space. -/
def read? (text : Text) : Option Json := (tokens? text).bind (readValue [])

/-! ## Strings -/

theorem hexValue?_hexDigit (n : Nat) : hexValue? (hexDigit n) = some (n % 16) := by
  have hall : ∀ m < 16, hexValue? (Nat.digitChar m) = some m := by decide
  exact hall (n % 16) (Nat.mod_lt n (by decide))

theorem readUnit?_hexDigits {n : Nat} (hn : n < 256) (rest : Text) :
    readUnit? ('0' :: '0' :: hexDigit (n / 16) :: hexDigit n :: rest) = some (n, rest) := by
  have hzero : hexValue? '0' = some 0 := by decide
  have hvalue : 16 * (n / 16 % 16) + n % 16 = n := by omega
  simp [readUnit?, hzero, hexValue?_hexDigit, hvalue]

theorem readCharacter?_escapeChar_append (c : Char) (rest : Text) :
    readCharacter? (escapeChar c ++ rest) = some (c, rest) := by
  unfold escapeChar
  split_ifs with hquote hbackslash hfeed hreturn htab hback hform hcontrol
  · subst hquote; rfl
  · subst hbackslash; rfl
  · subst hfeed; rfl
  · subst hreturn; rfl
  · subst htab; rfl
  · subst hback; rfl
  · subst hform; rfl
  · have hunit := readUnit?_hexDigits (n := c.toNat) (by omega) rest
    have htext : "\\u00".toList ++ [hexDigit (c.toNat / 16), hexDigit c.toNat] ++ rest =
        '\\' :: 'u' :: '0' :: '0' :: hexDigit (c.toNat / 16) :: hexDigit c.toNat :: rest := rfl
    have hhigh : Utf16.isHigh c.toNat = false := by
      simp [Utf16.isHigh]
      omega
    have hlow : Utf16.isLow c.toNat = false := by
      simp [Utf16.isLow]
      omega
    rw [htext, readCharacter?, if_pos rfl, readEscape?, hunit]
    simp [hhigh, hlow]
  · simp [readCharacter?, hbackslash, hcontrol]

theorem atQuote_escapeChar_append (c : Char) (rest : Text) :
    atQuote (escapeChar c ++ rest) = false := by
  unfold escapeChar
  split_ifs with hquote
  all_goals first | rfl | simp [atQuote, hquote]

theorem escapeChar_ne_nil (c : Char) : escapeChar c ≠ [] := by
  unfold escapeChar
  split_ifs
  all_goals simp

theorem readString?_append (text rest : Text) :
    readString? (Text.escapeWith escapeChar text ++ '"' :: rest) = some (text, rest) := by
  have hread : Text.readUntil atQuote readCharacter?
      (Text.escapeWith escapeChar text ++ '"' :: rest) = some (text, '"' :: rest) := by
    induction text with
    | nil => exact Text.readUntil_of_stop rfl
    | cons c text ih =>
        have hstep := readCharacter?_escapeChar_append c
          (Text.escapeWith escapeChar text ++ '"' :: rest)
        have hlength := List.length_pos_of_ne_nil (escapeChar_ne_nil c)
        have hless : (Text.escapeWith escapeChar text ++ '"' :: rest).length <
            (escapeChar c ++ (Text.escapeWith escapeChar text ++ '"' :: rest)).length := by
          simp only [List.length_append]
          omega
        rw [Text.escapeWith_cons, List.append_assoc,
          Text.readUntil_eq_of_step (atQuote_escapeChar_append c _) hstep hless, ih]
        rfl
  rw [readString?, hread]
  rfl

/-! ## Numbers -/

/-- The text does not continue a number that stands in front of it. -/
def EndsNumber (text : Text) : Prop :=
  ∀ c ∈ text.head?, c.isDigit = false ∧ c ≠ '.' ∧ c ≠ 'e' ∧ c ≠ 'E'

theorem endsNumber_cons {c : Char} (hc : c.isDigit = false ∧ c ≠ '.' ∧ c ≠ 'e' ∧ c ≠ 'E')
    (rest : Text) : EndsNumber (c :: rest) := by
  intro d hd
  obtain rfl : c = d := by simpa using hd
  exact hc

/-- The digits of a number, with zeros in front if it has more places than digits. -/
def paddedDigits (n places : Nat) : Text :=
  List.replicate (places + 1 - (Text.ofNat n).length) '0' ++ Text.ofNat n

def wholeDigits (n places : Nat) : Text :=
  (paddedDigits n places).take ((paddedDigits n places).length - places)

def placeDigits (n places : Nat) : Text :=
  (paddedDigits n places).drop ((paddedDigits n places).length - places)

def writePlaces (n places : Nat) : Text :=
  if places = 0 then [] else '.' :: placeDigits n places

theorem writeNumber_eq (numerator : Int) (places : Nat) :
    writeNumber numerator places =
      (if numerator < 0 then ['-'] else [])
        ++ (wholeDigits numerator.natAbs places ++ writePlaces numerator.natAbs places) := by
  unfold writePlaces
  by_cases hplaces : places = 0
  · simp [writeNumber, wholeDigits, paddedDigits, hplaces]
  · simp [writeNumber, wholeDigits, placeDigits, paddedDigits, hplaces]

theorem wholeDigits_append_placeDigits (n places : Nat) :
    wholeDigits n places ++ placeDigits n places = paddedDigits n places :=
  List.take_append_drop _ _

theorem isDigit_of_mem_paddedDigits {n places : Nat} {c : Char}
    (hc : c ∈ paddedDigits n places) : c.isDigit = true := by
  rcases List.mem_append.mp hc with hc | hc
  · rw [List.eq_of_mem_replicate hc]
    rfl
  · exact Text.isDigit_of_mem_ofNat hc

theorem ofDigitChars_paddedDigits (n places : Nat) :
    Nat.ofDigitChars 10 (paddedDigits n places) 0 = n := by
  rw [paddedDigits, Nat.ofDigitChars_append, Nat.ofDigitChars_replicate_zero, Nat.mul_zero,
    Text.ofDigitChars_ofNat]

theorem length_placeDigits (n places : Nat) : (placeDigits n places).length = places := by
  unfold placeDigits paddedDigits
  simp only [List.length_drop, List.length_append, List.length_replicate]
  omega

theorem head?_ofNat {n : Nat} (hn : n ≠ 0) : (Text.ofNat n).head? ≠ some '0' := by
  induction n using Nat.strongRecOn with
  | ind n ih =>
      unfold Text.ofNat at ih ⊢
      by_cases hlt : n < 10
      · have hall : ∀ m < 10, m ≠ 0 → Nat.digitChar m ≠ '0' := by decide
        rw [Nat.toDigits_of_lt_base hlt]
        simpa using hall n hlt hn
      · have hrest := ih (n / 10) (by omega) (by omega)
        rw [Nat.toDigits_of_base_le (by decide) (by omega), List.head?_append]
        cases hhead : (Nat.toDigits 10 (n / 10)).head? with
        | none => exact absurd (List.head?_eq_none_iff.mp hhead) Nat.toDigits_ne_nil
        | some c => simpa [hhead] using hrest

theorem wholeDigits_ne_nil (n places : Nat) : wholeDigits n places ≠ [] := by
  have hlength : places < (paddedDigits n places).length := by
    unfold paddedDigits
    simp only [List.length_append, List.length_replicate]
    omega
  intro hnil
  have hzero := congrArg List.length hnil
  unfold wholeDigits at hzero
  simp only [List.length_take, List.length_nil] at hzero
  omega

theorem exists_wholeDigits_eq_cons (n places : Nat) :
    ∃ c rest, wholeDigits n places = c :: rest ∧ c.isDigit = true := by
  obtain ⟨c, rest, hwhole⟩ := List.exists_cons_of_ne_nil (wholeDigits_ne_nil n places)
  have hmem : c ∈ wholeDigits n places := by
    rw [hwhole]
    exact List.mem_cons_self
  exact ⟨c, rest, hwhole, isDigit_of_mem_paddedDigits (List.mem_of_mem_take hmem)⟩

/-- The digits in front of the point begin with a zero only if there are no others. -/
theorem wholeDigits_eq_of_head? {n places : Nat} (hhead : (wholeDigits n places).head? = some '0') :
    wholeDigits n places = ['0'] := by
  by_cases hpadded : (Text.ofNat n).length ≤ places
  · have hdigits : paddedDigits n places =
        '0' :: (List.replicate (places - (Text.ofNat n).length) '0' ++ Text.ofNat n) := by
      have hsucc : places + 1 - (Text.ofNat n).length = places - (Text.ofNat n).length + 1 := by
        omega
      rw [paddedDigits, hsucc, List.replicate_succ, List.cons_append]
    have hlength : (paddedDigits n places).length - places = 1 := by
      rw [hdigits]
      simp only [List.length_cons, List.length_append, List.length_replicate]
      omega
    rw [wholeDigits, hlength, hdigits]
    rfl
  · have hdigits : paddedDigits n places = Text.ofNat n := by
      have hnone : places + 1 - (Text.ofNat n).length = 0 := by omega
      rw [paddedDigits, hnone]
      rfl
    unfold wholeDigits at hhead ⊢
    rw [hdigits] at hhead ⊢
    rw [List.head?_take, if_neg (by omega)] at hhead
    by_cases hn : n = 0
    · subst hn
      have hone : (Text.ofNat 0).length = 1 := rfl
      have hplaces : places = 0 := by omega
      rw [hplaces]
      rfl
    · exact absurd hhead (head?_ofNat hn)

theorem readWhole?_append (n places : Nat) {rest : Text}
    (hrest : ∀ c ∈ rest.head?, c.isDigit = false) :
    readWhole? (wholeDigits n places ++ rest) = some (wholeDigits n places, rest) := by
  have hdigits : ∀ c ∈ wholeDigits n places, c.isDigit = true := fun c hc =>
    isDigit_of_mem_paddedDigits (List.mem_of_mem_take hc)
  obtain ⟨htake, hdrop⟩ := Text.span_digits_append hdigits hrest
  have hempty : (wholeDigits n places).isEmpty = false := by
    simpa using wholeDigits_ne_nil n places
  unfold readWhole?
  rw [htake, hdrop]
  by_cases hhead : (wholeDigits n places).head? = some '0'
  · simp [wholeDigits_eq_of_head? hhead]
  · simp [hempty, hhead]

theorem readFraction?_append (n places : Nat) {rest : Text} (hrest : EndsNumber rest) :
    readFraction? (writePlaces n places ++ rest) = some (placeDigits n places, rest) := by
  unfold writePlaces
  have hlength := length_placeDigits n places
  by_cases hplaces : places = 0
  · have hnone : placeDigits n places = [] := by
      rwa [hplaces, List.length_eq_zero_iff, ← hplaces] at hlength
    rw [if_pos hplaces, hnone, List.nil_append, readFraction?]
    intro tail htail
    exact (hrest '.' (by simp [htail])).2.1 rfl
  · have hdigits : ∀ c ∈ placeDigits n places, c.isDigit = true := fun c hc =>
      isDigit_of_mem_paddedDigits (List.mem_of_mem_drop hc)
    obtain ⟨htake, hdrop⟩ := Text.span_digits_append hdigits fun c hc => (hrest c hc).1
    have hempty : (placeDigits n places).isEmpty = false := by
      rw [List.isEmpty_eq_false_iff]
      intro hnil
      rw [hnil] at hlength
      exact hplaces hlength.symm
    rw [if_neg hplaces, List.cons_append, readFraction?, htake, hdrop, hempty]
    rfl

theorem readExponent?_of_endsNumber {rest : Text} (hrest : EndsNumber rest) :
    readExponent? rest = some (0, rest) := by
  cases rest with
  | nil => rfl
  | cons c rest =>
      obtain ⟨-, -, hlower, hupper⟩ := hrest c rfl
      simp [readExponent?, hlower, hupper]

theorem readUnsigned?_append (sign : Int) (n places : Nat) {rest : Text}
    (hrest : EndsNumber rest) :
    readUnsigned? sign (wholeDigits n places ++ writePlaces n places ++ rest) =
      some (.number (sign * n) places, rest) := by
  have hpoint : ∀ c ∈ (writePlaces n places ++ rest).head?, c.isDigit = false := by
    unfold writePlaces
    split_ifs
    · exact fun c hc => (hrest c hc).1
    · rintro c ⟨⟩
      rfl
  rw [List.append_assoc, readUnsigned?, readWhole?_append n places hpoint, Option.bind_some,
    readFraction?_append n places hrest, Option.bind_some, readExponent?_of_endsNumber hrest,
    wholeDigits_append_placeDigits, ofDigitChars_paddedDigits, length_placeDigits]
  simp [scaled]

theorem readNumber?_append (numerator : Int) (places : Nat) {rest : Text}
    (hrest : EndsNumber rest) :
    readNumber? (writeNumber numerator places ++ rest) =
      some (.number numerator places, rest) := by
  rw [writeNumber_eq]
  by_cases hnegative : numerator < 0
  · have hvalue : -1 * (numerator.natAbs : Int) = numerator := by omega
    rw [if_pos hnegative, List.append_assoc, List.singleton_append, readNumber?,
      readUnsigned?_append (-1) _ places hrest, hvalue]
  · have hvalue : 1 * (numerator.natAbs : Int) = numerator := by omega
    rw [if_neg hnegative, List.nil_append, readNumber?, readUnsigned?_append 1 _ places hrest,
      hvalue]
    intro tail htail
    obtain ⟨c, digits, hwhole, hc⟩ := exists_wholeDigits_eq_cons numerator.natAbs places
    rw [hwhole, List.cons_append, List.cons_append] at htail
    rw [(List.cons.inj htail).1] at hc
    exact absurd hc (by decide)

theorem exists_writeNumber_eq_cons (numerator : Int) (places : Nat) :
    ∃ c rest, writeNumber numerator places = c :: rest ∧ (c = '-' ∨ c.isDigit = true) := by
  obtain ⟨c, digits, hwhole, hc⟩ := exists_wholeDigits_eq_cons numerator.natAbs places
  rw [writeNumber_eq, hwhole]
  by_cases hnegative : numerator < 0
  · exact ⟨'-', _, by rw [if_pos hnegative]; rfl, Or.inl rfl⟩
  · exact ⟨c, _, by rw [if_neg hnegative]; rfl, Or.inr hc⟩

/-- No other token begins with a minus sign or a digit. -/
theorem readToken?_number_append (numerator : Int) (places : Nat) {rest : Text}
    (hrest : EndsNumber rest) :
    readToken? (writeNumber numerator places ++ rest) =
      some (.scalar (.number numerator places), rest) := by
  have hnumber := readNumber?_append numerator places hrest
  obtain ⟨c, tail, htext, hc⟩ := exists_writeNumber_eq_cons numerator places
  rw [htext, List.cons_append] at hnumber ⊢
  rw [readToken?, hnumber]
  · rfl
  all_goals
    intro other hother
    rw [(List.cons.inj hother).1] at hc
    exact absurd hc (by decide)

/-! ## Texts as tokens -/

theorem tokens?_append_of_blank {blanks : Text} (hblanks : ∀ c ∈ blanks, isSpace c = true)
    (rest : Text) : tokens? (blanks ++ rest) = tokens? rest := by
  rw [tokens?, List.dropWhile_append_of_pos hblanks]
  rfl

theorem tokens?_append_of_token (text : Text) {rest : Text} {token : Token}
    (htext : ∃ c ∈ text.head?, isSpace c = false)
    (hread : readToken? (text ++ rest) = some (token, rest)) :
    tokens? (text ++ rest) = (tokens? rest).map (token :: ·) := by
  obtain ⟨c, hhead, hc⟩ := htext
  obtain ⟨tail, rfl⟩ := List.head?_eq_some_iff.mp hhead
  have hstart : (c :: tail ++ rest).dropWhile isSpace = c :: tail ++ rest := by
    rw [List.cons_append, List.dropWhile_cons_of_neg (by simp [hc])]
  have hless : (rest.dropWhile isSpace).length < (c :: tail ++ rest).length := by
    have hle := (List.dropWhile_suffix (l := rest) isSpace).length_le
    simp only [List.length_append, List.length_cons]
    omega
  unfold tokens?
  rw [hstart]
  exact Text.readAll_eq_of_step (by rw [hread]; rfl) hless

theorem tokens?_mark (c : Char) (token : Token) (hc : isSpace c = false) (rest : Text)
    (hread : readToken? (c :: rest) = some (token, rest)) :
    tokens? (c :: rest) = (tokens? rest).map (token :: ·) :=
  tokens?_append_of_token [c] ⟨c, rfl, hc⟩ hread

theorem tokens?_quote_append (text rest : Text) :
    tokens? (quote text ++ rest) = (tokens? rest).map (.string text :: ·) := by
  have hread : readToken? (quote text ++ rest) = some (.string text, rest) := by
    have htext : quote text ++ rest =
        '"' :: (Text.escapeWith escapeChar text ++ '"' :: rest) := by
      simp [quote]
    rw [htext, readToken?, readString?_append]
    rfl
  exact tokens?_append_of_token (quote text) ⟨'"', rfl, by decide⟩ hread

/-- White space does not continue a number. -/
theorem endsNumber_of_isSpace {c : Char} (hspace : isSpace c = true) :
    c.isDigit = false ∧ c ≠ '.' ∧ c ≠ 'e' ∧ c ≠ 'E' := by
  have hcases : ((c = ' ' ∨ c = '\t') ∨ c = '\n') ∨ c = '\r' := by
    simpa only [isSpace, Bool.or_eq_true, decide_eq_true_eq] using hspace
  rcases hcases with ((rfl | rfl) | rfl) | rfl <;> decide

theorem tokens?_writeNumber_append (numerator : Int) (places : Nat) {rest : Text}
    (hrest : EndsNumber rest) :
    tokens? (writeNumber numerator places ++ rest) =
      (tokens? rest).map (.scalar (.number numerator places) :: ·) := by
  refine tokens?_append_of_token _ ?_ (readToken?_number_append numerator places hrest)
  obtain ⟨c, tail, htext, hc⟩ := exists_writeNumber_eq_cons numerator places
  refine ⟨c, by rw [htext]; rfl, ?_⟩
  rcases hc with rfl | hc
  · rfl
  · rw [Bool.eq_false_iff]
    intro hspace
    rw [(endsNumber_of_isSpace hspace).1] at hc
    cases hc

/-! ## Layouts -/

theorem isSpace_of_mem_newline (layout : Layout) :
    ∀ c ∈ layout.newline, isSpace c = true := by
  intro c hc
  cases layout with
  | compact => cases hc
  | indented level =>
      rcases List.mem_cons.mp hc with rfl | hc
      · rfl
      · rw [List.eq_of_mem_replicate hc]
        rfl

theorem endsNumber_blanks_append {blanks rest : Text}
    (hblanks : ∀ c ∈ blanks, isSpace c = true) (hrest : EndsNumber rest) :
    EndsNumber (blanks ++ rest) := by
  cases blanks with
  | nil => exact hrest
  | cons c blanks =>
      exact endsNumber_cons (endsNumber_of_isSpace (hblanks c List.mem_cons_self)) _

theorem tokens?_colon_append (layout : Layout) (rest : Text) :
    tokens? (layout.colon ++ rest) = (tokens? rest).map (.colon :: ·) := by
  cases layout with
  | compact => exact tokens?_mark ':' .colon (by decide) rest rfl
  | indented level =>
      have hblank : tokens? ([' '] ++ rest) = tokens? rest :=
        tokens?_append_of_blank (by simp [isSpace]) rest
      rw [← hblank]
      exact tokens?_mark ':' .colon (by decide) _ rfl

theorem writeItems_eq_map (layout : Layout) (items : List Json) :
    writeItems layout items = items.map (write layout) := by
  induction items with
  | nil => rfl
  | cons item items ih => rw [writeItems, ih, List.map_cons]

def writeMember (layout : Layout) (member : Text × Json) : Text :=
  quote member.1 ++ layout.colon ++ write layout member.2

theorem writeMembers_eq_map (layout : Layout) (members : List (Text × Json)) :
    writeMembers layout members = members.map (writeMember layout) := by
  induction members with
  | nil => rfl
  | cons member members ih => rw [writeMembers, ih, List.map_cons]; rfl

/-! ## Values -/

/-- Wherever it stands, the value is read as what it is. -/
def ReadsBack (value : Json) : Prop :=
  ∀ (layout : Layout) (frames : List Frame) (rest : Text), EndsNumber rest →
    (tokens? (value.write layout ++ rest)).bind (readValue frames) =
      (tokens? rest).bind (readRest frames value)

theorem readsBack_of_token {value : Json} (token : Token)
    (htokens : ∀ layout rest, EndsNumber rest →
      tokens? (value.write layout ++ rest) = (tokens? rest).map (token :: ·))
    (hread : ∀ frames rest, readValue frames (token :: rest) = readRest frames value rest) :
    value.ReadsBack := by
  intro layout frames rest hrest
  rw [htokens layout rest hrest, Option.bind_map]
  exact congrArg _ (funext (hread frames))

theorem readItems_append {items : List Json} (hitems : ∀ item ∈ items, item.ReadsBack)
    (hne : items ≠ []) (layout : Layout) {blanks : Text}
    (hblanks : ∀ c ∈ blanks, isSpace c = true) (done : List Json) (frames : List Frame)
    (rest : Text) :
    (tokens? (Text.join (',' :: layout.newline) (items.map (write layout))
        ++ (blanks ++ ']' :: rest))).bind (readValue (.array done :: frames)) =
      (tokens? rest).bind (readRest frames (.array (done ++ items))) := by
  induction items generalizing done with
  | nil => exact absurd rfl hne
  | cons item items ih =>
      have hitem := hitems item List.mem_cons_self layout (.array done :: frames)
      cases items with
      | nil =>
          have hends : EndsNumber (blanks ++ ']' :: rest) :=
            endsNumber_blanks_append hblanks (endsNumber_cons (by decide) rest)
          rw [List.map_singleton, Text.join_singleton, hitem _ hends,
            tokens?_append_of_blank hblanks, tokens?_mark ']' .endArray (by decide) rest rfl,
            Option.bind_map]
          rfl
      | cons next items =>
          have hrest := ih (fun other hother => hitems other (List.mem_cons_of_mem item hother))
            (List.cons_ne_nil next items) (done ++ [item])
          rw [List.append_assoc, List.cons_append] at hrest
          rw [List.map_cons, List.map_cons, Text.join_cons_cons, List.append_assoc,
            List.append_assoc, List.cons_append,
            hitem _ (endsNumber_cons (c := ',') (by decide) _),
            tokens?_mark ',' .comma (by decide) _ rfl,
            tokens?_append_of_blank (isSpace_of_mem_newline _), Option.bind_map]
          exact hrest

theorem readMembers_append {members : List (Text × Json)}
    (hmembers : ∀ member ∈ members, member.2.ReadsBack) (hne : members ≠ []) (layout : Layout)
    {blanks : Text} (hblanks : ∀ c ∈ blanks, isSpace c = true) (done : List (Text × Json))
    (frames : List Frame) (rest : Text) :
    (tokens? (Text.join (',' :: layout.newline) (members.map (writeMember layout))
        ++ (blanks ++ '\x7d' :: rest))).bind (readName frames done) =
      (tokens? rest).bind (readRest frames (.object (done ++ members))) := by
  have hmember : ∀ member ∈ members, ∀ done rest, EndsNumber rest →
      (tokens? (writeMember layout member ++ rest)).bind (readName frames done) =
        (tokens? rest).bind (readRest (.object done member.1 :: frames) member.2) := by
    intro member hmem done rest hrest
    have hvalue := hmembers member hmem layout (.object done member.1 :: frames) rest hrest
    rw [writeMember, List.append_assoc, List.append_assoc, tokens?_quote_append,
      tokens?_colon_append, Option.bind_map, Option.bind_map, ← hvalue]
    rfl
  induction members generalizing done with
  | nil => exact absurd rfl hne
  | cons member members ih =>
      have hfirst := hmember member List.mem_cons_self done
      cases members with
      | nil =>
          have hends : EndsNumber (blanks ++ '\x7d' :: rest) :=
            endsNumber_blanks_append hblanks (endsNumber_cons (by decide) rest)
          rw [List.map_singleton, Text.join_singleton, hfirst _ hends,
            tokens?_append_of_blank hblanks,
            tokens?_mark '\x7d' .endObject (by decide) rest rfl, Option.bind_map]
          rfl
      | cons next members =>
          have hrest := ih
            (fun other hother => hmembers other (List.mem_cons_of_mem member hother))
            (List.cons_ne_nil next members) (done ++ [member])
            (fun other hother => hmember other (List.mem_cons_of_mem member hother))
          rw [List.append_assoc, List.singleton_append] at hrest
          rw [List.map_cons, List.map_cons, Text.join_cons_cons, List.append_assoc,
            List.append_assoc, List.cons_append,
            hfirst _ (endsNumber_cons (c := ',') (by decide) _),
            tokens?_mark ',' .comma (by decide) _ rfl,
            tokens?_append_of_blank (isSpace_of_mem_newline _), Option.bind_map]
          exact hrest

theorem bracketed_append (layout : Layout) (opening closing : Char) {items : List Text}
    (hitems : items ≠ []) (rest : Text) :
    layout.bracketed opening closing items ++ rest =
      opening :: (layout.inner.newline ++
        (Text.join (',' :: layout.inner.newline) items ++
          (layout.newline ++ closing :: rest))) := by
  obtain ⟨first, others, rfl⟩ := List.exists_cons_of_ne_nil hitems
  simp [Layout.bracketed]

theorem readsBack_array {items : List Json} (hitems : ∀ item ∈ items, item.ReadsBack) :
    (array items).ReadsBack := by
  intro layout frames rest _
  rw [write, writeItems_eq_map]
  by_cases hempty : items = []
  · subst hempty
    have htext : layout.bracketed '[' ']' [] ++ rest = '[' :: ']' :: rest := rfl
    rw [List.map_nil, htext, tokens?_mark '[' .beginArray (by decide) _ rfl,
      tokens?_mark ']' .endArray (by decide) rest rfl,
      Option.bind_map, Option.bind_map]
    rfl
  · have hread := readItems_append hitems hempty layout.inner
      (isSpace_of_mem_newline layout) [] frames rest
    rw [bracketed_append layout _ _ (by simpa using hempty),
      tokens?_mark '[' .beginArray (by decide) _ rfl,
      tokens?_append_of_blank (isSpace_of_mem_newline _), Option.bind_map]
    exact hread

theorem readsBack_object {members : List (Text × Json)}
    (hmembers : ∀ member ∈ members, member.2.ReadsBack) : (object members).ReadsBack := by
  intro layout frames rest _
  rw [write, writeMembers_eq_map]
  by_cases hempty : members = []
  · subst hempty
    have htext : layout.bracketed '\x7b' '\x7d' [] ++ rest = '\x7b' :: '\x7d' :: rest := rfl
    rw [List.map_nil, htext, tokens?_mark '\x7b' .beginObject (by decide) _ rfl,
      tokens?_mark '\x7d' .endObject (by decide) rest rfl,
      Option.bind_map, Option.bind_map]
    rfl
  · have hread := readMembers_append hmembers hempty layout.inner
      (isSpace_of_mem_newline layout) [] frames rest
    rw [bracketed_append layout _ _ (by simpa using hempty),
      tokens?_mark '\x7b' .beginObject (by decide) _ rfl,
      tokens?_append_of_blank (isSpace_of_mem_newline _), Option.bind_map]
    exact hread

theorem readsBack (value : Json) : value.ReadsBack := by
  cases value with
  | null =>
      exact readsBack_of_token (.scalar .null)
        (fun _ rest _ => tokens?_append_of_token _ ⟨'n', rfl, by decide⟩ rfl) fun _ _ => rfl
  | bool b =>
      cases b with
      | true =>
          exact readsBack_of_token (.scalar (.bool true))
            (fun _ rest _ => tokens?_append_of_token _ ⟨'t', rfl, by decide⟩ rfl) fun _ _ => rfl
      | false =>
          exact readsBack_of_token (.scalar (.bool false))
            (fun _ rest _ => tokens?_append_of_token _ ⟨'f', rfl, by decide⟩ rfl) fun _ _ => rfl
  | number numerator places =>
      exact readsBack_of_token (.scalar (.number numerator places))
        (fun _ _ hrest => tokens?_writeNumber_append numerator places hrest) fun _ _ => rfl
  | string text =>
      exact readsBack_of_token (.string text)
        (fun _ rest _ => tokens?_quote_append text rest) fun _ _ => rfl
  | array items => exact readsBack_array fun item _ => readsBack item
  | object members => exact readsBack_object fun member _ => readsBack member.2
termination_by sizeOf value
decreasing_by
  · have hitem : item ∈ items := by assumption
    have hless := List.sizeOf_lt_of_mem hitem
    simp only [array.sizeOf_spec]
    omega
  · have hmember : member ∈ members := by assumption
    have hless := List.sizeOf_lt_of_mem hmember
    have hvalue : sizeOf member = 1 + sizeOf member.1 + sizeOf member.2 := rfl
    simp only [object.sizeOf_spec]
    omega

/-- Every value is read back from what is written of it, in either layout and with
any white space behind it. -/
theorem read?_write_append (value : Json) (layout : Layout) {blanks : Text}
    (hblanks : ∀ c ∈ blanks, isSpace c = true) :
    read? (value.write layout ++ blanks) = some value := by
  have hends : EndsNumber blanks := by
    rw [← List.append_nil blanks]
    exact endsNumber_blanks_append hblanks (by simp [EndsNumber])
  have htokens : tokens? blanks = some [] := by
    rw [← List.append_nil blanks, tokens?_append_of_blank hblanks]
    exact Text.readAll_nil _
  rw [read?, readsBack value layout [] blanks hends, htokens]
  rfl

end Json

end MessageCatalog
