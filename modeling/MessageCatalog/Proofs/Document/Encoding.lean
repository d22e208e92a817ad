import MessageCatalog.Document.Encoding
import MessageCatalog.Proofs.Document.Composition
import MessageCatalog.Proofs.Text.Joining
import MessageCatalog.Proofs.Text.Utf16
import MessageCatalog.Proofs.Text.Utf8

/-!
# Documents in files

The same document may be stored in several ways: in UTF-8 with or without a byte
order mark, in UTF-16 in either byte order, and with a carriage return in front of
every line feed or without.  A text that does not begin with the mark comes back
from each of these files, whatever decodes them by their marks, and the carriage
returns disappear where the text is cut into lines.  So all these files are read as
the document.
-/

namespace MessageCatalog

/-- How a text is stored in a file.  In UTF-16 there is always a byte order mark. -/
inductive Encoding
  | utf8
  | markedUtf8
  | utf16 (order : Utf16.ByteOrder)
  deriving DecidableEq, Repr

namespace Encoding

def encode : Encoding → Text → Bytes
  | utf8, text => Utf8.encode text
  | markedUtf8, text => Utf8.encode ('\uFEFF' :: text)
  | utf16 order, text => Utf16.encode order ('\uFEFF' :: text)

end Encoding

namespace Document

/-! ## Decoding -/

@[simp] theorem repair_map_some (text : Text) : repair (text.map some) = text := by
  unfold repair
  rw [List.map_map]
  exact List.map_id text

def utf8Mark : Bytes := [0xEF, 0xBB, 0xBF]

/-- The bytes behind which a file in UTF-16 begins. -/
def utf16Mark : Utf16.ByteOrder → Bytes
  | .little => [0xFF, 0xFE]
  | .big => [0xFE, 0xFF]

/-- The mark in front of a file says how the file is decoded.  A file of two bytes is not
searched for a mark. -/
structure SelectsByMark (decoder : Bytes → Option Text) : Prop where
  utf8 : ∀ rest, decoder (utf8Mark ++ rest) = some (repair (Utf8.decode rest))
  utf16 : ∀ order {rest}, rest ≠ [] →
    decoder (utf16Mark order ++ rest) = some (repair (Utf16.decode order rest))
  unmarked : ∀ {bytes}, ¬ utf8Mark <+: bytes → (∀ order, ¬ utf16Mark order <+: bytes) →
    decoder bytes = Utf8.decode? bytes

theorem selectsByMark_decode? : SelectsByMark decode? where
  utf8 := by
    intro rest
    have hlong : ¬ (utf8Mark ++ rest).length < 3 := by
      simp only [utf8Mark, List.length_append, List.length_cons]
      omega
    unfold decode?
    rw [if_neg hlong]
    rfl
  utf16 := by
    intro order rest hrest
    have hlong : ¬ (utf16Mark order ++ rest).length < 3 := by
      have hlength := List.length_pos_of_ne_nil hrest
      cases order <;> simp only [utf16Mark, List.length_append, List.length_cons] <;> omega
    unfold decode?
    rw [if_neg hlong]
    cases order <;> rfl
  unmarked := by
    intro bytes hutf8 hutf16
    unfold decode?
    split
    · rfl
    · split
      · exact absurd ⟨_, rfl⟩ hutf8
      · exact absurd ⟨_, rfl⟩ (hutf16 .little)
      · exact absurd ⟨_, rfl⟩ (hutf16 .big)
      · rfl

/-! ## Encoded texts -/

theorem not_utf8Mark_prefix_encode {text : Text} (hmark : text.head? ≠ some '\uFEFF') :
    ¬ utf8Mark <+: Utf8.encode text := by
  rintro ⟨rest, hbytes⟩
  have hdecode := Utf8.decode_encode text
  rw [← hbytes] at hdecode
  cases text with
  | nil => cases hbytes
  | cons c text =>
      have hhead := congrArg List.head? hdecode
      have hc : '\uFEFF' = c := Option.some.inj (Option.some.inj hhead)
      exact hmark (congrArg some hc.symm)

/-- The marks of UTF-16 are malformed in UTF-8. -/
theorem not_utf16Mark_prefix_encode (order : Utf16.ByteOrder) (text : Text) :
    ¬ utf16Mark order <+: Utf8.encode text := by
  rintro ⟨rest, hbytes⟩
  have hdecode := Utf8.decode_encode text
  rw [← hbytes] at hdecode
  cases text with
  | nil => cases order <;> cases hbytes
  | cons c text => cases order <;> cases congrArg List.head? hdecode

theorem utf16_encode_ne_nil (order : Utf16.ByteOrder) {text : Text} (hnil : text ≠ []) :
    Utf16.encode order text ≠ [] := by
  obtain ⟨c, rest, rfl⟩ := List.exists_cons_of_ne_nil hnil
  intro hencode
  have hdecode := Utf16.decode_encode order (c :: rest)
  rw [hencode] at hdecode
  cases hdecode

theorem SelectsByMark.decoder_encode {decoder : Bytes → Option Text}
    (hdecoder : SelectsByMark decoder) (encoding : Encoding) {text : Text} (hnil : text ≠ [])
    (hmark : text.head? ≠ some '\uFEFF') : decoder (encoding.encode text) = some text := by
  cases encoding with
  | utf8 =>
      have hbytes := hdecoder.unmarked (not_utf8Mark_prefix_encode hmark)
        fun order => not_utf16Mark_prefix_encode order text
      exact hbytes.trans (Utf8.decode?_encode text)
  | markedUtf8 =>
      have hbytes : Encoding.encode .markedUtf8 text = utf8Mark ++ Utf8.encode text := rfl
      rw [hbytes, hdecoder.utf8, Utf8.decode_encode, repair_map_some]
  | utf16 order =>
      have hbytes : Encoding.encode (.utf16 order) text =
          utf16Mark order ++ Utf16.encode order text := by
        cases order <;> rfl
      rw [hbytes, hdecoder.utf16 order (utf16_encode_ne_nil order hnil), Utf16.decode_encode,
        repair_map_some]

/-! ## Ends of lines -/

/-- The text with a carriage return in front of every line feed. -/
def withReturns (text : Text) : Text :=
  text.flatMap fun c => if c = '\n' then ['\r', '\n'] else [c]

theorem withReturns_cons (c : Char) (text : Text) :
    withReturns (c :: text) =
      (if c = '\n' then ['\r', '\n'] else [c]) ++ withReturns text :=
  List.flatMap_cons

theorem head?_withReturns_ne {text : Text} (hmark : text.head? ≠ some '\uFEFF') :
    (withReturns text).head? ≠ some '\uFEFF' := by
  cases text with
  | nil => exact hmark
  | cons c text =>
      rw [withReturns_cons]
      split
      · intro hhead
        cases hhead
      · exact hmark

theorem withReturns_ne_nil {text : Text} (hnil : text ≠ []) : withReturns text ≠ [] := by
  obtain ⟨c, rest, rfl⟩ := List.exists_cons_of_ne_nil hnil
  rw [withReturns_cons]
  split <;> simp

theorem lines_append_return {line : Text} (hline : '\n' ∉ line) (rest : Text) :
    lines (line ++ '\r' :: '\n' :: rest) = line :: lines rest := by
  have hend : '\n' ∉ line ++ ['\r'] := by simpa using hline
  have hsplit : line ++ '\r' :: '\n' :: rest = (line ++ ['\r']) ++ '\n' :: rest := by simp
  rw [hsplit, lines_append_cons, Text.splitOn_of_not_mem hend, List.map_singleton, dropReturn,
    if_pos List.getLast?_concat, List.dropLast_concat]
  rfl

/-- The induction moves the characters of a line to `front`, up to its line feed. -/
theorem lines_append_withReturns {front text : Text} (hfront : '\n' ∉ front)
    (hreturn : '\r' ∉ front ++ text) :
    lines (front ++ withReturns text) = lines (front ++ text) := by
  induction text generalizing front with
  | nil => rfl
  | cons c text ih =>
      rw [withReturns_cons]
      by_cases hc : c = '\n'
      · have hlast : front.getLast? ≠ some '\r' := by
          intro hlast
          exact hreturn (List.mem_append_left _ (List.mem_of_getLast? hlast))
        have hrest : '\r' ∉ text := by
          intro hmem
          exact hreturn (List.mem_append_right front (List.mem_cons_of_mem c hmem))
        have hsame : lines (withReturns text) = lines text := ih List.not_mem_nil hrest
        rw [if_pos hc, hc, lines_append_lineFeed hfront hlast, ← hsame]
        exact lines_append_return hfront _
      · have hnext : '\n' ∉ front ++ [c] := by
          simpa using ⟨hfront, Ne.symm hc⟩
        have hsplit : front ++ c :: text = (front ++ [c]) ++ text := by simp
        rw [if_neg hc, ← List.append_assoc, hsplit]
        rw [hsplit] at hreturn
        exact ih hnext hreturn

theorem lines_withReturns {text : Text} (hreturn : '\r' ∉ text) :
    lines (withReturns text) = lines text := by
  have hfront : '\n' ∉ ([] : Text) := List.not_mem_nil
  exact lines_append_withReturns hfront hreturn

/-! ## Whole documents -/

variable {options : ReadOptions} {preprocessor : Preprocessor}

/-- Nothing but the lines of a document is read. -/
theorem read_eq_of_lines_eq {text other : Text}
    (hlines : lines (dropByteOrderMark text) = lines (dropByteOrderMark other)) :
    read options preprocessor text = read options preprocessor other := by
  unfold read
  rw [hlines]

theorem read_withReturns {text : Text} (hreturn : '\r' ∉ text)
    (hmark : text.head? ≠ some '\uFEFF') :
    read options preprocessor (withReturns text) = read options preprocessor text := by
  apply read_eq_of_lines_eq
  rw [dropByteOrderMark_eq_self hmark, dropByteOrderMark_eq_self (head?_withReturns_ne hmark),
    lines_withReturns hreturn]

theorem read_mark_cons {text : Text} (hmark : text.head? ≠ some '\uFEFF') :
    read options preprocessor ('\uFEFF' :: text) = read options preprocessor text := by
  apply read_eq_of_lines_eq
  rw [dropByteOrderMark_eq_self hmark]
  rfl

theorem read_of_written {text written : Text} (hreturn : '\r' ∉ text)
    (hmark : text.head? ≠ some '\uFEFF')
    (hwritten : written = text ∨ written = withReturns text) :
    read options preprocessor written = read options preprocessor text := by
  rcases hwritten with rfl | rfl
  · rfl
  · exact read_withReturns hreturn hmark

theorem head?_ne_of_written {text written : Text} (hmark : text.head? ≠ some '\uFEFF')
    (hwritten : written = text ∨ written = withReturns text) :
    written.head? ≠ some '\uFEFF' := by
  rcases hwritten with rfl | rfl
  · exact hmark
  · exact head?_withReturns_ne hmark

/-- Whatever decodes files by their marks, a document is the same in every encoding. -/
theorem SelectsByMark.map_read_encode {decoder : Bytes → Option Text}
    (hdecoder : SelectsByMark decoder) {text written : Text} (hnil : text ≠ [])
    (hreturn : '\r' ∉ text) (hmark : text.head? ≠ some '\uFEFF')
    (hwritten : written = text ∨ written = withReturns text) (encoding : Encoding) :
    (decoder (encoding.encode written)).map (read options preprocessor) =
      some (read options preprocessor text) := by
  have hwrittenNil : written ≠ [] := by
    rcases hwritten with rfl | rfl
    · exact hnil
    · exact withReturns_ne_nil hnil
  rw [hdecoder.decoder_encode encoding hwrittenNil (head?_ne_of_written hmark hwritten),
    Option.map_some, read_of_written hreturn hmark hwritten]

/-- A document is the same in every encoding and with either end of lines. -/
theorem readEncoded_encode {text written : Text} (hnil : text ≠ []) (hreturn : '\r' ∉ text)
    (hmark : text.head? ≠ some '\uFEFF')
    (hwritten : written = text ∨ written = withReturns text) :
    (∀ encoding : Encoding,
        readEncoded options preprocessor (encoding.encode written) =
          some (read options preprocessor text)) ∧
      ∀ encoding ∈ [Encoding.utf8, Encoding.markedUtf8],
        (readUtf8 options preprocessor (encoding.encode written)).map Outcome.toExcept =
          some (read options preprocessor text).toExcept := by
  have hread : read options preprocessor written = read options preprocessor text :=
    read_of_written hreturn hmark hwritten
  constructor
  · exact selectsByMark_decode?.map_read_encode hnil hreturn hmark hwritten
  · intro encoding hencoding
    rw [List.mem_cons, List.mem_singleton] at hencoding
    rcases hencoding with rfl | rfl
    · rw [readUtf8, Encoding.encode, Utf8.decode?_encode, Option.map_some, hread,
        Option.map_some]
    · rw [readUtf8, Encoding.encode, Utf8.decode?_encode, Option.map_some,
        read_mark_cons (head?_ne_of_written hmark hwritten), hread, Option.map_some]

/-- Lines of all kinds that are reported, and characters of one to four bytes. -/
def foreignText : Text :=
  "=== Käse ===\n  Ключ\n    fi = Moi {x:@} 😀\n\tß\n  空\n   ü\n".toList

theorem readEncoded_encode_foreignText :
    (foreignText ≠ [] ∧ '\r' ∉ foreignText ∧ foreignText.head? ≠ some '\uFEFF' ∧
      (read .standard .identity foreignText).reports.length = 4) ∧
      (∀ encoding : Encoding,
        readEncoded .standard .identity (encoding.encode (withReturns foreignText)) =
          some (read .standard .identity foreignText)) ∧
      ∀ encoding ∈ [Encoding.utf8, Encoding.markedUtf8],
        (readUtf8 .standard .identity
            (encoding.encode (withReturns foreignText))).map Outcome.toExcept =
          some (read .standard .identity foreignText).toExcept := by
  have hnil : foreignText ≠ [] := by decide
  have hreturn : '\r' ∉ foreignText := by decide
  have hmark : foreignText.head? ≠ some '\uFEFF' := by decide
  have hreports : (read .standard .identity foreignText).reports.length = 4 := by
    decide +kernel
  exact ⟨⟨hnil, hreturn, hmark, hreports⟩,
    readEncoded_encode hnil hreturn hmark (Or.inr rfl)⟩

end Document

end MessageCatalog
