import MessageCatalog.Output.WindowsResources
import MessageCatalog.Proofs.Segment.Gathering
import MessageCatalog.Proofs.Text.Decimal
import MessageCatalog.Proofs.Text.Splitting
import MessageCatalog.Proofs.Xml.Entity
import Mathlib.Algebra.GroupWithZero.Nat

/-!
# Reading composite formats

In a composite format a doubled brace is a literal one, an item stands between
single braces, and any other brace is an error.  Windows resources write
literal text into such a format as it is, so a value is read back as what it
was written from exactly if none of its texts contains a brace.

That braces always do harm is a matter of counting: a reader takes two braces
for every literal brace and two for every item, but a literal brace is written
only once.
-/

namespace MessageCatalog

namespace CompositeFormat

/-- What a stretch of a composite format stands for.  An item may ask for a
number of decimals. -/
inductive Part
  | text (content : Text)
  | item (index : Nat) (decimals : Option Nat)
  deriving DecidableEq

namespace Part

/-- What a piece of a value is meant to be read as. -/
def ofPiece : Piece → Part
  | .text t => text t
  | .placeholder rank p => item (p.effectiveIndex rank) p.floatDecimals

def consLiteral (c : Char) : List Part → List Part
  | text content :: rest => text (c :: content) :: rest
  | parts => text [c] :: parts

end Part

/-- The item between two braces: an index, possibly with a number of decimals
behind `:F`. -/
def readItem? (body : Text) : Option Part :=
  match Text.splitFirst? ':' body with
  | none => (Text.decimal? body).map fun index => .item index none
  | some (index, 'F' :: decimals) =>
      (Text.decimal? index).bind fun index =>
        (Text.decimal? decimals).map fun decimals => .item index (some decimals)
  | some _ => none

/-- Reads on from literal text, or from inside an item whose body so far is held
in reverse order. -/
def readFrom : Option Text → Text → Option (List Part)
  | none, [] => some []
  | some _, [] => none
  | some body, c :: rest =>
      if c = '}' then
        (readItem? body.reverse).bind fun item => (readFrom none rest).map (item :: ·)
      else readFrom (some (c :: body)) rest
  | none, '{' :: '{' :: rest => (readFrom none rest).map (Part.consLiteral '{')
  | none, '}' :: '}' :: rest => (readFrom none rest).map (Part.consLiteral '}')
  | none, c :: rest =>
      if c = '{' then readFrom (some []) rest
      else if c = '}' then none
      else (readFrom none rest).map (Part.consLiteral c)

def read? (format : Text) : Option (List Part) := readFrom none format

/-! ## Counting braces -/

def braces (text : Text) : Nat := text.count '{' + text.count '}'

theorem braces_cons (c : Char) (text : Text) :
    braces (c :: text) = (if c = '{' ∨ c = '}' then 1 else 0) + braces text := by
  by_cases hopen : c = '{'
  · subst hopen
    simp [braces]
    omega
  · by_cases hclose : c = '}'
    · subst hclose
      simp [braces]
      omega
    · simp [braces, hopen, hclose]

theorem braces_append (left right : Text) :
    braces (left ++ right) = braces left + braces right := by
  simp only [braces, List.count_append]
  omega

theorem braces_eq_zero_iff (text : Text) : braces text = 0 ↔ '{' ∉ text ∧ '}' ∉ text := by
  simp [braces, List.count_eq_zero]

/-- The braces that a reader takes for a part. -/
def Part.weight : Part → Nat
  | text content => 2 * braces content
  | item _ _ => 2

theorem sum_weight_consLiteral (c : Char) (parts : List Part) :
    ((Part.consLiteral c parts).map Part.weight).sum =
      2 * (if c = '{' ∨ c = '}' then 1 else 0) + (parts.map Part.weight).sum := by
  have hsingle : 2 * braces [c] = 2 * (if c = '{' ∨ c = '}' then 1 else 0) := by
    rw [braces_cons]
    rfl
  cases parts with
  | nil => simpa [Part.consLiteral, Part.weight] using hsingle
  | cons part rest =>
      cases part with
      | text content =>
          simp only [Part.consLiteral, List.map_cons, List.sum_cons, Part.weight, braces_cons]
          omega
      | item index decimals =>
          simp only [Part.consLiteral, List.map_cons, List.sum_cons, Part.weight, hsingle]

theorem braces_eq_zero_of_decimal?_eq_some {text : Text} {n : Nat}
    (htext : Text.decimal? text = some n) : braces text = 0 := by
  have hdigits := Text.isDigit_of_decimal?_eq_some htext
  rw [braces_eq_zero_iff]
  exact ⟨fun hopen => absurd (hdigits _ hopen) (by decide),
    fun hclose => absurd (hdigits _ hclose) (by decide)⟩

theorem braces_eq_zero_of_readItem?_eq_some {body : Text} {item : Part}
    (hitem : readItem? body = some item) : braces body = 0 ∧ item.weight = 2 := by
  unfold readItem? at hitem
  split at hitem
  · obtain ⟨n, hindex, rfl⟩ := Option.map_eq_some_iff.mp hitem
    exact ⟨braces_eq_zero_of_decimal?_eq_some hindex, rfl⟩
  · next index decimals hsplit =>
      obtain ⟨n, hindex, hrest⟩ := Option.bind_eq_some_iff.mp hitem
      obtain ⟨count, hdecimals, rfl⟩ := Option.map_eq_some_iff.mp hrest
      have hbody := Text.append_eq_of_splitFirst?_eq_some hsplit
      rw [← hbody, braces_append, braces_cons, braces_cons,
        braces_eq_zero_of_decimal?_eq_some hindex,
        braces_eq_zero_of_decimal?_eq_some hdecimals]
      exact ⟨rfl, rfl⟩
  · simp at hitem

/-- The braces that were read before a state was reached and belong to no part
yet. -/
def pending : Option Text → Nat
  | none => 0
  | some body => braces body + 1

/-- A reader takes two braces for every literal brace and for every item. -/
theorem sum_weight_of_readFrom_eq_some (state : Option Text) (text : Text) {parts : List Part}
    (hread : readFrom state text = some parts) :
    (parts.map Part.weight).sum = pending state + braces text := by
  have hliteral : ∀ (c : Char) {rest : Text} {parts : List Part},
      (readFrom none rest).map (Part.consLiteral c) = some parts →
      (∀ {others : List Part}, readFrom none rest = some others →
        (others.map Part.weight).sum = pending none + braces rest) →
      (parts.map Part.weight).sum = 2 * (if c = '{' ∨ c = '}' then 1 else 0) + braces rest := by
    intro c rest parts hmap hrest
    obtain ⟨others, hothers, rfl⟩ := Option.map_eq_some_iff.mp hmap
    rw [sum_weight_consLiteral, hrest hothers, pending, Nat.zero_add]
  -- What a step takes from the text goes into the part it completes, or is pending.
  fun_induction readFrom state text generalizing parts with
  | case1 =>
      obtain rfl := Option.some.inj hread
      rfl
  | case2 => simp at hread
  | case3 body rest ih =>
      obtain ⟨item, hitem, hrest⟩ := Option.bind_eq_some_iff.mp hread
      obtain ⟨others, hothers, rfl⟩ := Option.map_eq_some_iff.mp hrest
      obtain ⟨hbody, hweight⟩ := braces_eq_zero_of_readItem?_eq_some hitem
      have hreverse : braces body = 0 := by simpa [braces] using hbody
      rw [List.map_cons, List.sum_cons, ih hothers, hweight, braces_cons]
      simp [pending, hreverse]
      omega
  | case4 body c rest hc ih =>
      rw [ih hread]
      simp only [pending, braces_cons]
      omega
  | case5 rest ih =>
      rw [hliteral _ hread ih, braces_cons, braces_cons, pending]
      simp
      omega
  | case6 rest ih =>
      rw [hliteral _ hread ih, braces_cons, braces_cons, pending]
      simp
      omega
  | case7 rest _ _ ih =>
      rw [ih hread, braces_cons]
      simp [pending, braces]
  | case8 => simp at hread
  | case9 c rest _ _ hopen hclose ih =>
      rw [hliteral _ hread ih, braces_cons, pending]
      simp [hopen, hclose]

/-! ## Reading a value -/

theorem readFrom_literal {c : Char} (hopen : c ≠ '{') (hclose : c ≠ '}') (rest : Text) :
    readFrom none (c :: rest) = (readFrom none rest).map (Part.consLiteral c) := by
  rw [readFrom]
  · simp [hopen, hclose]
  · rintro rest' rfl
    exact absurd rfl hopen
  · rintro rest' rfl
    exact absurd rfl hclose

/-- A text without braces, in front of what does not begin with text. -/
theorem readFrom_text_append {t : Text} (ht : t ≠ []) (hplain : '{' ∉ t ∧ '}' ∉ t)
    {rest : Text} {parts : List Part} (hrest : readFrom none rest = some parts)
    (hparts : ∀ content, parts.head? ≠ some (.text content)) :
    readFrom none (t ++ rest) = some (.text t :: parts) := by
  induction t with
  | nil => exact absurd rfl ht
  | cons c t ih =>
      obtain ⟨hopen, hclose⟩ := hplain
      rw [List.mem_cons, not_or] at hopen hclose
      rw [List.cons_append, readFrom_literal (Ne.symm hopen.1) (Ne.symm hclose.1)]
      by_cases htail : t = []
      · subst htail
        rw [List.nil_append, hrest, Option.map_some]
        cases parts with
        | nil => rfl
        | cons part parts =>
            cases part with
            | text content => exact absurd rfl (hparts content)
            | item index decimals => rfl
      · rw [ih htail ⟨hopen.2, hclose.2⟩, Option.map_some, Part.consLiteral]

theorem readFrom_some_append {body : Text} (hbody : '}' ∉ body) (before rest : Text) :
    readFrom (some before) (body ++ '}' :: rest) =
      (readItem? (before.reverse ++ body)).bind fun item =>
        (readFrom none rest).map (item :: ·) := by
  induction body generalizing before with
  | nil => simp [readFrom]
  | cons c body ih =>
      obtain ⟨hc, htail⟩ := not_or.mp (List.mem_cons.not.mp hbody)
      rw [List.cons_append, readFrom, if_neg (Ne.symm hc), ih htail]
      simp

theorem readFrom_item_append {body : Text} (hbody : '{' ∉ body ∧ '}' ∉ body) (rest : Text) :
    readFrom none ('{' :: body ++ '}' :: rest) =
      (readItem? body).bind fun item => (readFrom none rest).map (item :: ·) := by
  have hsome := readFrom_some_append hbody.2 [] rest
  rw [List.reverse_nil, List.nil_append] at hsome
  rw [← hsome, List.cons_append, readFrom]
  · simp
  · rintro rest' - heq
    cases body with
    | nil => simp at heq
    | cons c body =>
        rw [List.cons_append, List.cons.injEq] at heq
        exact hbody.1 (by simp [heq.1])
  · intro rest' hbrace
    exact absurd hbrace (by decide)

end CompositeFormat

namespace WindowsResources

open CompositeFormat (Part readItem? readFrom braces)

def argumentBody (rank : Nat) (p : Placeholder) : Text :=
  Text.ofNat (p.effectiveIndex rank)
    ++ (match p.floatDecimals with
        | some count => ":F".toList ++ Text.ofNat count
        | none => [])

theorem argument_eq (rank : Nat) (p : Placeholder) :
    argument rank p = '{' :: argumentBody rank p ++ ['}'] := rfl

theorem braces_argumentBody (rank : Nat) (p : Placeholder) : braces (argumentBody rank p) = 0 := by
  have hnumber : ∀ n, braces (Text.ofNat n) = 0 := fun n =>
    CompositeFormat.braces_eq_zero_of_decimal?_eq_some (Text.decimal?_ofNat n)
  unfold argumentBody
  rw [CompositeFormat.braces_append, hnumber]
  cases p.floatDecimals with
  | none => rfl
  | some count =>
      simp only [CompositeFormat.braces_append, hnumber]
      rfl

theorem readItem?_argumentBody (rank : Nat) (p : Placeholder) :
    readItem? (argumentBody rank p) = some (Part.ofPiece (.placeholder rank p)) := by
  have hcolon : ':' ∉ Text.ofNat (p.effectiveIndex rank) := Text.not_mem_ofNat (by decide) _
  unfold readItem? argumentBody Part.ofPiece
  cases hdecimals : p.floatDecimals with
  | none =>
      simp only [hdecimals, List.append_nil, Text.splitFirst?_eq_none_iff.mpr hcolon,
        Text.decimal?_ofNat, Option.map_some]
  | some count =>
      have hbody : ":F".toList ++ Text.ofNat count = ':' :: 'F' :: Text.ofNat count := rfl
      simp only [hdecimals, hbody, Text.splitFirst?_append hcolon, Text.decimal?_ofNat,
        Option.bind_some, Option.map_some]

theorem readFrom_argument_append (rank : Nat) (p : Placeholder) (rest : Text) :
    readFrom none (argument rank p ++ rest) =
      (readFrom none rest).map (Part.ofPiece (.placeholder rank p) :: ·) := by
  have hbody := (CompositeFormat.braces_eq_zero_iff _).mp (braces_argumentBody rank p)
  have hread := CompositeFormat.readFrom_item_append hbody rest
  rw [argument_eq, List.append_assoc, List.singleton_append, hread, readItem?_argumentBody,
    Option.bind_some]

theorem readFrom_flatMap_ofPiece {segments : List Segment} (hsegments : Segment.Gathered segments)
    (hplain : ∀ t, Segment.text t ∈ segments → '{' ∉ t ∧ '}' ∉ t) (rank : Nat) :
    readFrom none ((Piece.ofSegments rank segments).flatMap ofPiece) =
      some ((Piece.ofSegments rank segments).map Part.ofPiece) := by
  induction segments generalizing rank with
  | nil => rfl
  | cons segment rest ih =>
      have hrest : ∀ t, Segment.text t ∈ rest → '{' ∉ t ∧ '}' ∉ t := fun t ht =>
        hplain t (List.mem_cons_of_mem _ ht)
      cases segment with
      | text t =>
          obtain ⟨ht, hnext, htail⟩ := (Segment.gathered_text_cons_iff t rest).mp hsegments
          rw [Piece.ofSegments_text, List.flatMap_cons, List.map_cons]
          refine CompositeFormat.readFrom_text_append ht (hplain t (by simp)) (ih htail hrest rank) ?_
          intro content
          cases rest with
          | nil => simp
          | cons next rest =>
              cases next with
              | text u => simp [Segment.isText] at hnext
              | placeholder p => simp [Part.ofPiece]
      | placeholder p =>
          have htail := (Segment.gathered_placeholder_cons_iff p rest).mp hsegments
          rw [Piece.ofSegments_placeholder, List.flatMap_cons, List.map_cons, ofPiece,
            readFrom_argument_append, ih htail hrest, Option.map_some]

def literalBraces : Piece → Nat
  | .text t => braces t
  | .placeholder _ _ => 0

theorem weight_ofPiece (piece : Piece) :
    (Part.ofPiece piece).weight = braces (ofPiece piece) + literalBraces piece := by
  cases piece with
  | text t =>
      simp only [Part.ofPiece, Part.weight, ofPiece, literalBraces]
      omega
  | placeholder rank p =>
      simp [Part.ofPiece, Part.weight, ofPiece, literalBraces, argument_eq,
        CompositeFormat.braces_cons, CompositeFormat.braces_append, braces_argumentBody]
      rfl

theorem sum_weight_ofPiece (pieces : List Piece) :
    ((pieces.map Part.ofPiece).map Part.weight).sum =
      braces (pieces.flatMap ofPiece) + (pieces.map literalBraces).sum := by
  induction pieces with
  | nil => rfl
  | cons piece rest ih =>
      simp only [List.map_cons, List.sum_cons, List.flatMap_cons, weight_ofPiece,
        CompositeFormat.braces_append, ih]
      omega

theorem text_mem_ofSegments {segments : List Segment} {t : Text}
    (ht : Segment.text t ∈ segments) (rank : Nat) :
    Piece.text t ∈ Piece.ofSegments rank segments := by
  induction segments generalizing rank with
  | nil => simp at ht
  | cons segment rest ih =>
      rcases List.mem_cons.mp ht with rfl | hrest
      · simp
      · cases segment with
        | text u => exact List.mem_cons_of_mem _ (ih hrest rank)
        | placeholder p => exact List.mem_cons_of_mem _ (ih hrest (rank + 1))

/-- The value text of a Windows resource, read as a composite format, means the
value if and only if no text of the value contains a brace. -/
theorem read?_format_eq_some_iff {value : Value} (hvalue : Segment.Gathered value.segments) :
    (Xml.unescape? (Xml.escape (format value))).bind CompositeFormat.read? =
        some (value.pieces.map Part.ofPiece) ↔
      ∀ t, Segment.text t ∈ value.segments → '{' ∉ t ∧ '}' ∉ t := by
  rw [Xml.unescape?_escape, Option.bind_some]
  constructor
  · -- The parts weigh as much as the format has braces, and once more the literal ones.
    intro hread t ht
    have hweight := CompositeFormat.sum_weight_of_readFrom_eq_some none _ hread
    have hpieces : ((value.pieces.map Part.ofPiece).map Part.weight).sum =
        braces (format value) + (value.pieces.map literalBraces).sum :=
      sum_weight_ofPiece value.pieces
    have hsum : (value.pieces.map literalBraces).sum = 0 := by
      rw [hpieces, CompositeFormat.pending] at hweight
      omega
    have hmem : braces t ∈ value.pieces.map literalBraces :=
      List.mem_map_of_mem (text_mem_ofSegments ht 0)
    exact (CompositeFormat.braces_eq_zero_iff t).mp (List.sum_eq_zero_iff_forall_eq_nat.mp hsum _ hmem)
  · intro hplain
    exact readFrom_flatMap_ofPiece hvalue hplain 0

def priceValue : Value where
  language := "en".toList
  segments := [.text "from <".toList, .placeholder ⟨.float, some 3, some 2⟩,
    .placeholder ⟨.string, none, none⟩, .text "> & 'more'".toList]

theorem read?_format_priceValue :
    Segment.Gathered priceValue.segments ∧
      (∀ t, Segment.text t ∈ priceValue.segments → '{' ∉ t ∧ '}' ∉ t) ∧
      (Xml.unescape? (Xml.escape (format priceValue))).bind CompositeFormat.read? =
        some [.text "from <".toList, .item 2 (some 2), .item 1 none,
          .text "> & 'more'".toList] := by
  have hgathered : Segment.Gathered priceValue.segments :=
    (Segment.gathered_text_cons_iff _ _).mpr ⟨by decide, by decide,
      (Segment.gathered_placeholder_cons_iff _ _).mpr
        ((Segment.gathered_placeholder_cons_iff _ _).mpr
          ((Segment.gathered_text_cons_iff _ _).mpr
            ⟨by decide, by simp, Segment.gathered_nil⟩))⟩
  have hplain : ∀ t, Segment.text t ∈ priceValue.segments → '{' ∉ t ∧ '}' ∉ t := by
    intro t ht
    have hcases : t = "from <".toList ∨ t = "> & 'more'".toList := by
      simpa [priceValue] using ht
    rcases hcases with rfl | rfl <;> decide
  exact ⟨hgathered, hplain, (read?_format_eq_some_iff hgathered).mpr hplain⟩

/-- A literal `{0}` is taken for an item. -/
theorem not_forall_read?_format :
    (Xml.unescape? (Xml.escape (format ⟨"en".toList, [.text "\x7b0\x7d".toList]⟩))).bind
        CompositeFormat.read? = some [.item 0 none] ∧
      ¬ ∀ value : Value, Segment.Gathered value.segments →
        (Xml.unescape? (Xml.escape (format value))).bind CompositeFormat.read? =
          some (value.pieces.map Part.ofPiece) := by
  have hread : (Xml.unescape? (Xml.escape (format ⟨"en".toList, [.text "\x7b0\x7d".toList]⟩))).bind
      CompositeFormat.read? = some [.item 0 none] := by decide
  refine ⟨hread, ?_⟩
  intro hall
  have hgathered : Segment.Gathered [.text "\x7b0\x7d".toList] :=
    (Segment.gathered_text_cons_iff _ _).mpr ⟨by decide, by simp, Segment.gathered_nil⟩
  have hsame := hall ⟨"en".toList, [.text "\x7b0\x7d".toList]⟩ hgathered
  rw [hread] at hsame
  exact absurd hsame (by decide)

end WindowsResources

end MessageCatalog
