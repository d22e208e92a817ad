import MessageCatalog.Proofs.List.PartialMap
import MessageCatalog.Proofs.MessageFormat.Argument
import MessageCatalog.Proofs.MessageFormat.Quoting
import MessageCatalog.Proofs.Segment.Gathering
import MessageCatalog.Segment.Reading

/-!
# Values of Java properties as message formats

A value is read back with one argument for each of its placeholders, in order,
and with its own text before, between and behind them, apostrophes apart.  This
holds for any segments that have a pattern: texts may be empty or neighbours of
one another, and only a number with more decimals than a text has room for is too
much.  The induction over the segments carries the quoted texts that have been
passed since the last argument, since the reader cannot tell where one of them
ends.
-/

namespace MessageCatalog

namespace Segment

/-- The text before, between and behind the placeholders. -/
def stretches : List Segment → List Text
  | [] => [[]]
  | .text t :: rest => t.foldr Text.consHead (stretches rest)
  | .placeholder _ :: rest => [] :: stretches rest

end Segment

namespace Text

theorem foldr_consHead_cons (text first : Text) (pieces : List Text) :
    text.foldr consHead (first :: pieces) = (text ++ first) :: pieces := by
  induction text with
  | nil => rfl
  | cons c text ih => rw [List.foldr_cons, ih, consHead, List.cons_append]

theorem foldr_consHead_ne_nil {pieces : List Text} (hpieces : pieces ≠ []) (text : Text) :
    text.foldr consHead pieces ≠ [] := by
  obtain ⟨first, others, rfl⟩ := List.exists_cons_of_ne_nil hpieces
  rw [foldr_consHead_cons]
  simp

end Text

theorem Segment.stretches_ne_nil (segments : List Segment) : stretches segments ≠ [] := by
  induction segments with
  | nil => simp [stretches]
  | cons segment rest ih =>
      cases segment with
      | text t => exact Text.foldr_consHead_ne_nil ih t
      | placeholder p => simp [stretches]

namespace MessageFormat

def PatternPart.body? : PatternPart → Option Text
  | literal _ => none
  | argument body => some body

/-- The arguments of a pattern, if each of them can be read. -/
def arguments? (parts : List PatternPart) : Option (List Argument) :=
  (parts.filterMap PatternPart.body?).mapM Argument.read?

/-- The literal text before, between and behind the arguments. -/
def stretches : List PatternPart → List Text
  | [] => [[]]
  | .literal c :: rest => Text.consHead c (stretches rest)
  | .argument _ :: rest => [] :: stretches rest

theorem arguments?_literals_append (shown : Text) (parts : List PatternPart) :
    arguments? (shown.map .literal ++ parts) = arguments? parts := by
  have hliterals : (shown.map PatternPart.literal).filterMap PatternPart.body? = [] := by
    simp [List.filterMap_eq_nil_iff, PatternPart.body?]
  rw [arguments?, List.filterMap_append, hliterals]
  rfl

theorem arguments?_argument_cons {body : Text} {argument : Argument}
    (hbody : Argument.read? body = some argument) {parts : List PatternPart}
    {arguments : List Argument} (hparts : arguments? parts = some arguments) :
    arguments? (.argument body :: parts) = some (argument :: arguments) := by
  unfold arguments? at hparts ⊢
  rw [List.filterMap_cons, PatternPart.body?]
  dsimp only
  rw [List.mapM_cons, hbody, hparts]
  rfl

theorem stretches_literals_append (shown : Text) (parts : List PatternPart) :
    stretches (shown.map .literal ++ parts) = shown.foldr Text.consHead (stretches parts) := by
  induction shown with
  | nil => rfl
  | cons c shown ih => rw [List.map_cons, List.cons_append, stretches, ih, List.foldr_cons]

theorem stretches_ne_nil (parts : List PatternPart) : stretches parts ≠ [] := by
  induction parts with
  | nil => simp [stretches]
  | cons part parts ih =>
      cases part with
      | literal c => exact Text.foldr_consHead_ne_nil ih [c]
      | argument body => simp [stretches]

theorem map_withoutApostrophes_foldr {pieces : List Text} (hpieces : pieces ≠ []) (text : Text) :
    (text.foldr Text.consHead pieces).map withoutApostrophes =
      (withoutApostrophes text).foldr Text.consHead (pieces.map withoutApostrophes) := by
  obtain ⟨first, others, rfl⟩ := List.exists_cons_of_ne_nil hpieces
  simp only [Text.foldr_consHead_cons, List.map_cons, withoutApostrophes_append]

theorem mapM_ofPiece?_text_cons {rank : Nat} {t : Text} {rest : List Segment}
    {written : List Text} (hwritten :
      (Piece.ofSegments rank (.text t :: rest)).mapM ofPiece? = some written) :
    ∃ others, written = quote t :: others ∧
      (Piece.ofSegments rank rest).mapM ofPiece? = some others := by
  rw [Piece.ofSegments_text, mapM_eq_some_iff, List.forall₂_cons_left_iff] at hwritten
  obtain ⟨first, others, hfirst, hothers, rfl⟩ := hwritten
  exact ⟨others, by rw [← Option.some.inj hfirst], mapM_eq_some_iff.mpr hothers⟩

theorem mapM_ofPiece?_placeholder_cons {rank : Nat} {p : Placeholder} {rest : List Segment}
    {written : List Text} (hwritten :
      (Piece.ofSegments rank (.placeholder p :: rest)).mapM ofPiece? = some written) :
    ∃ first others, written = first :: others ∧ argument? rank p = some first ∧
      (Piece.ofSegments (rank + 1) rest).mapM ofPiece? = some others := by
  rw [Piece.ofSegments_placeholder, mapM_eq_some_iff, List.forall₂_cons_left_iff] at hwritten
  obtain ⟨first, others, hfirst, hothers, rfl⟩ := hwritten
  exact ⟨first, others, rfl, hfirst, mapM_eq_some_iff.mpr hothers⟩

/-- Reading goes on from quoted texts that have been passed already. -/
theorem exists_readFrom_of_mapM_ofPiece? (segments : List Segment) (rank : Nat) {before : Text}
    (hbefore : quotedAfter? false before = some false) {written : List Text}
    (hwritten : (Piece.ofSegments rank segments).mapM ofPiece? = some written) :
    ∃ parts,
      readFrom (.text false) (before ++ written.flatten) = some parts ∧
        arguments? parts =
          some ((Segment.placeholders segments).mapIdx fun k p =>
            Argument.ofPlaceholder (rank + k) p) ∧
        (stretches parts).map withoutApostrophes =
          (withoutApostrophes before).foldr Text.consHead
            ((Segment.stretches segments).map withoutApostrophes) := by
  induction segments generalizing rank before written with
  | nil =>
      obtain rfl : [] = written := Option.some.inj hwritten
      obtain ⟨shown, hshown, hread⟩ := readsLiterally_of_quotedAfter? before false hbefore
      refine ⟨shown.map .literal, ?_, ?_, ?_⟩
      · have hend := hread [] (by simp)
        simpa [readFrom] using hend
      · have hnone := arguments?_literals_append shown []
        rwa [List.append_nil] at hnone
      · have hstretches := stretches_literals_append shown []
        rw [List.append_nil] at hstretches
        rw [hstretches, map_withoutApostrophes_foldr (stretches_ne_nil []), hshown]
        rfl
  | cons segment rest ih =>
      cases segment with
      | text t =>
          obtain ⟨others, rfl, hothers⟩ := mapM_ofPiece?_text_cons hwritten
          have hmore : quotedAfter? false (before ++ quote t) = some false := by
            rw [quotedAfter?_append, hbefore]
            exact quotedAfter?_quote t
          obtain ⟨parts, hread, harguments, hstretches⟩ := ih rank hmore hothers
          refine ⟨parts, ?_, harguments, ?_⟩
          · rwa [List.flatten_cons, ← List.append_assoc]
          · rw [hstretches, Segment.stretches,
              map_withoutApostrophes_foldr (Segment.stretches_ne_nil rest),
              withoutApostrophes_append, withoutApostrophes_quote, List.foldr_append]
      | placeholder p =>
          obtain ⟨first, others, rfl, hfirst, hothers⟩ := mapM_ofPiece?_placeholder_cons hwritten
          obtain ⟨body, rfl, hbrace, hbody⟩ := exists_body_of_argument?_eq_some hfirst
          obtain ⟨shown, hshown, hliteral⟩ := readsLiterally_of_quotedAfter? before false hbefore
          obtain ⟨parts, hread, harguments, hstretches⟩ := ih (rank + 1) quotedAfter?_nil hothers
          refine ⟨shown.map .literal ++ .argument body :: parts, ?_, ?_, ?_⟩
          · have hhead : ('\x7b' :: (body ++ ['\x7d']) ++ others.flatten).head? ≠ some '\'' := by
              simp
            rw [List.nil_append] at hread
            rw [List.flatten_cons, hliteral _ hhead, readFrom_argument_append hbrace, hread]
            rfl
          · rw [arguments?_literals_append, arguments?_argument_cons hbody harguments,
              Segment.placeholders_placeholder, List.mapIdx_cons]
            simp only [Nat.add_zero, Nat.add_assoc, Nat.add_comm 1]
          · rw [stretches_literals_append, map_withoutApostrophes_foldr (stretches_ne_nil _),
              hshown, stretches, Segment.stretches, List.map_cons, List.map_cons, hstretches]
            rfl

/-- A value has no pattern if and only if one of its placeholders asks for too much. -/
theorem ofSegments?_eq_none_iff {segments : List Segment} :
    ofSegments? segments = none ↔ ∃ p ∈ Segment.placeholders segments, TooLong p := by
  have hpieces : ∀ rank, (∃ piece ∈ Piece.ofSegments rank segments, ofPiece? piece = none) ↔
      ∃ p ∈ Segment.placeholders segments, TooLong p := by
    induction segments with
    | nil => simp [Segment.placeholders]
    | cons segment rest ih =>
        intro rank
        cases segment with
        | text t =>
            rw [Piece.ofSegments_text, List.exists_mem_cons_iff, ih]
            exact or_iff_right (Option.some_ne_none _)
        | placeholder p =>
            rw [Piece.ofSegments_placeholder, List.exists_mem_cons_iff, ih,
              Segment.placeholders_placeholder, List.exists_mem_cons_iff, ofPiece?,
              argument?_eq_none_iff]
  rw [ofSegments?, Option.map_eq_none_iff, mapM_eq_none_iff, hpieces]

end MessageFormat

namespace JavaProperties

open MessageFormat (Argument withoutApostrophes)

/-- A text from which the argument structure of a value can be read: to its end, with
quoting off and no argument open.  The arguments are those of the placeholders, in order,
and the text around them is that of the value, apostrophes apart. -/
def ReadsAs (written : Text) (value : Value) : Prop :=
  ∃ parts, (Xml.unescape? written).bind MessageFormat.read? = some parts ∧
    MessageFormat.arguments? parts =
      some ((Segment.placeholders value.segments).mapIdx Argument.ofPlaceholder) ∧
    (MessageFormat.stretches parts).map withoutApostrophes =
      (Segment.stretches value.segments).map withoutApostrophes

theorem readsAs_of_format?_eq_some {value : Value} {pattern : Text}
    (hpattern : format? value = some pattern) : ReadsAs (Xml.escape pattern) value := by
  obtain ⟨written, hwritten, rfl⟩ := Option.map_eq_some_iff.mp hpattern
  obtain ⟨parts, hread, harguments, hstretches⟩ :=
    MessageFormat.exists_readFrom_of_mapM_ofPiece? value.segments 0
      MessageFormat.quotedAfter?_nil hwritten
  refine ⟨parts, ?_, ?_, hstretches⟩
  · rw [Xml.unescape?_escape, Option.bind_some]
    exact hread
  · simpa using harguments

/-- A value has a pattern, unless one of its placeholders asks for more decimals than a
text has room for, and from every pattern its argument structure can be read. -/
theorem readsAs_format? (value : Value) :
    (format? value = none ↔
      ∃ p ∈ Segment.placeholders value.segments, MessageFormat.TooLong p) ∧
    ∀ pattern, format? value = some pattern → ReadsAs (Xml.escape pattern) value :=
  ⟨MessageFormat.ofSegments?_eq_none_iff, fun _ => readsAs_of_format?_eq_some⟩

/-- A number with all the decimals that a document can ask for. -/
def endlessPlaceholder : Placeholder := ⟨.float, none, some 18446744073709551615⟩

theorem not_forall_readsAs_format? :
    Segment.ofText "\x7bf.18446744073709551615\x7d".toList =
        [.placeholder endlessPlaceholder] ∧
      format? ⟨"en".toList, [.placeholder endlessPlaceholder]⟩ = none ∧
      ¬ ∀ value, ∃ pattern, format? value = some pattern ∧ ReadsAs (Xml.escape pattern) value := by
  have hread : Segment.ofText "\x7bf.18446744073709551615\x7d".toList =
      [.placeholder endlessPlaceholder] := by decide +kernel
  have hnone : format? ⟨"en".toList, [.placeholder endlessPlaceholder]⟩ = none := by
    decide +kernel
  refine ⟨hread, hnone, ?_⟩
  intro hall
  obtain ⟨pattern, hpattern, -⟩ := hall ⟨"en".toList, [.placeholder endlessPlaceholder]⟩
  exact Option.some_ne_none pattern (hpattern.symm.trans hnone)

end JavaProperties

end MessageCatalog
