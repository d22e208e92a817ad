import MessageCatalog.Output.Format
import MessageCatalog.Proofs.List.PartialMap
import MessageCatalog.Proofs.Text.Decimal

/-!
# Values in files, segment by segment

The text of a value in a file can be put together segment by segment: of a literal text
everything is escaped that has a meaning in the format of values or in the file, and
what is written for a placeholder stays as it is.  A file in which the text of a whole
value is escaped holds the same, since there is nothing to escape in a number, a
conversion or a pair of braces.

A key of an Apple file can be escaped in one pass or by three replacements in a row.
-/

namespace MessageCatalog

namespace Text

/-- Escaping changes no character of the text. -/
def IsKept (escape : Char → Text) (text : Text) : Prop := ∀ c ∈ text, escape c = [c]

variable {escape : Char → Text}

instance (text : Text) : Decidable (IsKept escape text) :=
  decidable_of_iff (text.all fun c => escape c = [c]) (by simp [IsKept])

theorem IsKept.append {left right : Text} (hleft : IsKept escape left)
    (hright : IsKept escape right) : IsKept escape (left ++ right) :=
  List.forall_mem_append.mpr ⟨hleft, hright⟩

theorem IsKept.cons {c : Char} {text : Text} (hc : escape c = [c]) (htext : IsKept escape text) :
    IsKept escape (c :: text) :=
  List.forall_mem_cons.mpr ⟨hc, htext⟩

theorem IsKept.escapeWith_eq_self {text : Text} (htext : IsKept escape text) :
    escapeWith escape text = text := by
  induction text with
  | nil => rfl
  | cons c text ih =>
      rw [IsKept, List.forall_mem_cons] at htext
      rw [escapeWith_cons, htext.1, ih htext.2]
      rfl

theorem isKept_ofNat (hdigits : ∀ c : Char, c.isDigit = true → escape c = [c]) (n : Nat) :
    IsKept escape (ofNat n) :=
  fun c hc => hdigits c (isDigit_of_mem_ofNat hc)

theorem escapeWith_flatMap {α : Type} (items : List α) (write : α → Text) :
    escapeWith escape (items.flatMap write) =
      items.flatMap fun item => escapeWith escape (write item) :=
  List.flatMap_assoc

theorem escapeWith_flatten (texts : List Text) :
    escapeWith escape texts.flatten = (texts.map (escapeWith escape)).flatten := by
  rw [← List.flatMap_id, escapeWith_flatMap, List.flatMap_def]
  rfl

/-- The text with each occurrence of a character replaced. -/
def replaced (old : Char) (new : Text) (text : Text) : Text :=
  escapeWith (fun c => if c = old then new else [c]) text

end Text

open Text (IsKept)

/-! ## printf formats -/

namespace Printf

variable {escape : Char → Text} {object : Char}

theorem isKept_specifier (hdigits : ∀ c : Char, c.isDigit = true → escape c = [c])
    (hmarks : IsKept escape ['%', '$', '.', 'd', 'f', object]) (p : Placeholder) :
    IsKept escape (specifier object p) := by
  simp only [IsKept, List.forall_mem_cons] at hmarks
  obtain ⟨hpercent, hdollar, hpoint, hinteger, hfloat, hobject, -⟩ := hmarks
  have hnil : IsKept escape [] := List.forall_mem_nil _
  unfold specifier
  refine ((IsKept.cons hpercent ?_).append ?_).append (IsKept.cons ?_ hnil)
  · cases p.orderIndex with
    | none => exact hnil
    | some order => exact (Text.isKept_ofNat hdigits order).append (IsKept.cons hdollar hnil)
  · cases p.floatDecimals with
    | none => exact hnil
    | some count => exact IsKept.cons hpoint (Text.isKept_ofNat hdigits count)
  · cases p.dataType <;> assumption

end Printf

namespace AppleStrings

def ofSegment : Segment → Text
  | .text t => escapeValue t
  | .placeholder p => specifier p

theorem quoteChar_of_isDigit {c : Char} (hc : c.isDigit = true) : quoteChar c = [c] := by
  unfold quoteChar
  split_ifs with hquote hbackslash hline
  · simp [hquote] at hc
  · simp [hbackslash] at hc
  · simp [hline] at hc
  · rfl

/-- A value is quoted segment by segment. -/
theorem quote_format (value : Value) :
    quote (format value) = value.segments.flatMap ofSegment := by
  rw [quote, format, Printf.ofSegments, Text.escapeWith_flatMap]
  apply List.flatMap_congr
  intro segment _
  cases segment with
  | text t => rfl
  | placeholder p =>
      exact (Printf.isKept_specifier (fun _ => quoteChar_of_isDigit) (by decide)
        p).escapeWith_eq_self

/-- First the backslashes are replaced, for the other replacements bring in more of them. -/
theorem escapeKey_eq_replaced (key : Text) :
    escapeKey key =
      Text.replaced '\n' "\\n".toList
        (Text.replaced '"' "\\\"".toList (Text.replaced '\\' "\\\\".toList key)) := by
  unfold Text.replaced
  rw [Text.escapeWith, Text.escapeWith, Text.escapeWith, List.flatMap_assoc, List.flatMap_assoc,
    escapeKey, quote, Text.escapeWith]
  apply List.flatMap_congr
  intro c _
  unfold quoteChar
  by_cases hbackslash : c = '\\'
  · subst hbackslash
    rfl
  · by_cases hquote : c = '"'
    · subst hquote
      rfl
    · by_cases hline : c = '\n'
      · subst hline
        rfl
      · simp [hbackslash, hquote, hline]

end AppleStrings

/-! ## Formats in XML -/

theorem Xml.escapeChar_of_isDigit {c : Char} (hc : c.isDigit = true) : escapeChar c = [c] := by
  unfold escapeChar
  split_ifs with hless hgreater hand hapostrophe hquote
  · simp [hless] at hc
  · simp [hgreater] at hc
  · simp [hand] at hc
  · simp [hapostrophe] at hc
  · simp [hquote] at hc
  · rfl

theorem Xml.isKept_ofNat (n : Nat) : IsKept Xml.escapeChar (Text.ofNat n) :=
  Text.isKept_ofNat (fun _ => escapeChar_of_isDigit) n

namespace AndroidStrings

def ofSegment : Segment → Text
  | .text t => escapeValue t
  | .placeholder p => specifier p

theorem escape_format (value : Value) :
    Xml.escape (format value) = value.segments.flatMap ofSegment := by
  rw [Xml.escape, format, Printf.ofSegments, Text.escapeWith_flatMap]
  apply List.flatMap_congr
  intro segment _
  cases segment with
  | text t => rfl
  | placeholder p =>
      exact (Printf.isKept_specifier (fun _ => Xml.escapeChar_of_isDigit) (by decide)
        p).escapeWith_eq_self

end AndroidStrings

namespace WindowsResources

def writtenPiece : Piece → Text
  | .text t => escapeValue t
  | .placeholder rank p => argument rank p

theorem isKept_argument (rank : Nat) (p : Placeholder) :
    IsKept Xml.escapeChar (argument rank p) := by
  have hnil : IsKept Xml.escapeChar [] := List.forall_mem_nil _
  unfold argument
  refine ((IsKept.cons rfl (Xml.isKept_ofNat _)).append ?_).append (IsKept.cons rfl hnil)
  cases p.floatDecimals with
  | none => exact hnil
  | some count => exact IsKept.append (by decide) (Xml.isKept_ofNat count)

theorem escape_format (value : Value) :
    Xml.escape (format value) = value.pieces.flatMap writtenPiece := by
  rw [Xml.escape, format, Text.escapeWith_flatMap]
  apply List.flatMap_congr
  intro piece _
  cases piece with
  | text t => rfl
  | placeholder rank p => exact (isKept_argument rank p).escapeWith_eq_self

end WindowsResources

namespace JavaProperties

def writtenPiece? : Piece → Option Text
  | .text t => some (escapeValue t)
  | .placeholder rank p => MessageFormat.argument? rank p

theorem isKept_style? {p : Placeholder} {style : Text}
    (hstyle : MessageFormat.style? p = some style) : IsKept Xml.escapeChar style := by
  obtain ⟨type, order, decimals⟩ := p
  cases type with
  | object =>
      obtain rfl := Option.some.inj hstyle
      exact List.forall_mem_nil _
  | string =>
      obtain rfl := Option.some.inj hstyle
      exact List.forall_mem_nil _
  | integer =>
      obtain rfl := Option.some.inj hstyle
      decide
  | float =>
      rcases decimals with _ | _ | count
      · obtain rfl := Option.some.inj hstyle
        decide
      · obtain rfl := Option.some.inj hstyle
        decide
      · obtain ⟨hashes, hhashes, rfl⟩ := Option.map_eq_some_iff.mp hstyle
        obtain ⟨-, rfl⟩ := Text.repeat?_eq_some_iff.mp hhashes
        apply IsKept.append (by decide)
        intro c hc
        rw [List.eq_of_mem_replicate hc]
        rfl

theorem isKept_argument? {rank : Nat} {p : Placeholder} {written : Text}
    (hwritten : MessageFormat.argument? rank p = some written) :
    IsKept Xml.escapeChar written := by
  obtain ⟨style, hstyle, rfl⟩ := Option.map_eq_some_iff.mp hwritten
  exact ((IsKept.cons rfl (Xml.isKept_ofNat _)).append (isKept_style? hstyle)).append (by decide)

theorem writtenPiece?_eq (piece : Piece) :
    writtenPiece? piece = (MessageFormat.ofPiece? piece).map Xml.escape := by
  cases piece with
  | text t => rfl
  | placeholder rank p =>
      rw [writtenPiece?, MessageFormat.ofPiece?]
      cases hwritten : MessageFormat.argument? rank p with
      | none => rfl
      | some written =>
          exact congrArg some (isKept_argument? hwritten).escapeWith_eq_self.symm

/-- There is a text of the value if and only if each of its pieces has one. -/
theorem escape_format? (value : Value) :
    (format? value).map Xml.escape = (value.pieces.mapM writtenPiece?).map List.flatten := by
  have hpieces : value.pieces.mapM writtenPiece? =
      (value.pieces.mapM MessageFormat.ofPiece?).map (List.map Xml.escape) := by
    rw [← mapM_map_result]
    exact congrArg (List.mapM · value.pieces) (funext writtenPiece?_eq)
  rw [hpieces, format?, MessageFormat.ofSegments?, Option.map_map, Option.map_map]
  exact congrArg (Option.map · _) (funext Text.escapeWith_flatten)

end JavaProperties

end MessageCatalog
