import MessageCatalog.Proofs.Text.Reader
import MessageCatalog.Proofs.Text.Splitting
import MessageCatalog.Proofs.Xml.Comment
import MessageCatalog.Proofs.Xml.Entity

/-!
# Reading XML documents

An XML document is read as a list of tokens, told apart by the characters they
begin with.  Only the five predefined entities are known, a comment ends at its
first two hyphens in a row, and nothing is normalised.  Reading a document that
was written from tokens gives these tokens again, except that comments are read
as they were made safe and that neighbouring character data comes back in one
piece.
-/

namespace MessageCatalog

namespace Xml

/-! ## The reader -/

def isSpace (c : Char) : Bool := c = ' ' || c = '\t' || c = '\n' || c = '\r'

def isNameChar (c : Char) : Bool := c.isAlphanum || c = ':' || c = '_' || c = '-' || c = '.'

def IsName (name : Text) : Prop := name ≠ [] ∧ ∀ c ∈ name, isNameChar c = true

def readName? (text : Text) : Option (Text × Text) :=
  let name := text.takeWhile isNameChar
  if name.isEmpty then none else some (name, text.dropWhile isNameChar)

/-- An attribute with the blanks in front of it. -/
def readAttribute? (text : Text) : Option ((Text × Text) × Text) :=
  if text.head?.all isSpace then
    (readName? (text.dropWhile isSpace)).bind fun name =>
      (name.2.dropPrefix? "=\"".toList).bind fun rest =>
        (Text.splitFirst? '"' rest).bind fun value =>
          if '<' ∈ value.1 then none
          else (unescape? value.1).map fun content => ((name.1, content), value.2)
  else none

def atTagEnd (text : Text) : Bool := text.head? = some '>'

def readDeclaration? (text : Text) : Option (Token × Text) :=
  (text.dropPrefix? "xml ".toList).bind fun rest =>
    (Text.splitAtMark? "?>".toList rest).map fun parts => (.declaration, parts.2)

def readDoctype? (text : Text) : Option (Token × Text) :=
  (text.dropPrefix? "DOCTYPE ".toList).bind fun rest =>
    (Text.splitFirst? '>' rest).map fun parts => (.doctype parts.1, parts.2)

/-- The first two hyphens in a row end the comment, so a bracket has to follow
them. -/
def readComment? (text : Text) : Option (Token × Text) :=
  (Text.splitAtMark? "--".toList text).bind fun parts =>
    (parts.2.dropPrefix? ">".toList).map fun rest => (.comment parts.1, rest)

def readEndTag? (text : Text) : Option (Token × Text) :=
  (readName? text).bind fun name =>
    (name.2.dropPrefix? ">".toList).map fun rest => (.endTag name.1, rest)

def readStartTag? (text : Text) : Option (Token × Text) :=
  (readName? text).bind fun name =>
    (Text.readUntil atTagEnd readAttribute? name.2).map fun parts =>
      (.startTag name.1 parts.1, parts.2.drop 1)

/-- Character data, up to where a tag or a comment begins. -/
def readCharacters? (text : Text) : Option (Token × Text) :=
  (unescape? (text.takeWhile (· ≠ '<'))).map fun content =>
    (.text content, text.dropWhile (· ≠ '<'))

def readToken? : Text → Option (Token × Text)
  | '<' :: '?' :: rest => readDeclaration? rest
  | '<' :: '!' :: '-' :: '-' :: rest => readComment? rest
  | '<' :: '!' :: rest => readDoctype? rest
  | '<' :: '/' :: rest => readEndTag? rest
  | '<' :: rest => readStartTag? rest
  | text => readCharacters? text

def tokens? (text : Text) : Option (List Token) := Text.readAll readToken? text

/-! ## What was written, as it is read -/

def consCharacter (c : Char) : List Token → List Token
  | .text content :: rest => .text (c :: content) :: rest
  | tokens => .text [c] :: tokens

def consToken : Token → List Token → List Token
  | .text content, tokens => content.foldr consCharacter tokens
  | .comment content, tokens => .comment (commentSafe content) :: tokens
  | token, tokens => token :: tokens

/-- The tokens as a reader of the written document sees them: comments as they
were made safe, and neighbouring character data in one piece. -/
def asRead (tokens : List Token) : List Token := tokens.foldr consToken []

@[simp] theorem asRead_nil : asRead [] = [] := rfl

@[simp] theorem asRead_cons (token : Token) (rest : List Token) :
    asRead (token :: rest) = consToken token (asRead rest) := rfl

/-- Nothing in a token can be mistaken for its end. -/
def Token.WellFormed : Token → Prop
  | .doctype content => '>' ∉ content
  | .startTag name attributes => IsName name ∧ ∀ pair ∈ attributes, IsName pair.1
  | .endTag name => IsName name
  | _ => True

/-! ## Names and attributes -/

theorem dropPrefix?_append (before rest : Text) :
    (before ++ rest).dropPrefix? before = some rest :=
  List.dropPrefix?_eq_some_iff.mpr ⟨before, rfl, beq_self_eq_true before⟩

theorem readName?_append {name : Text} (hname : IsName name) {c : Char}
    (hc : isNameChar c = false) (rest : Text) :
    readName? (name ++ c :: rest) = some (name, c :: rest) := by
  have hempty : name.isEmpty = false := by simpa using hname.1
  unfold readName?
  rw [List.takeWhile_append_of_pos hname.2, List.dropWhile_append_of_pos hname.2,
    List.takeWhile_cons_of_neg (by simp [hc]), List.dropWhile_cons_of_neg (by simp [hc]),
    List.append_nil]
  simp [hempty]

theorem isSpace_eq_false_of_isNameChar {c : Char} (hc : isNameChar c = true) :
    isSpace c = false := by
  rw [Bool.eq_false_iff]
  intro hspace
  have hcases : ((c = ' ' ∨ c = '\t') ∨ c = '\n') ∨ c = '\r' := by
    simpa only [isSpace, Bool.or_eq_true, decide_eq_true_eq] using hspace
  rcases hcases with ((rfl | rfl) | rfl) | rfl <;> exact absurd hc (by decide)

theorem not_mem_escapeChar {c : Char} (hc : c = '<' ∨ c = '"') (d : Char) :
    c ∉ escapeChar d := by
  unfold escapeChar
  rcases hc with rfl | rfl <;> split_ifs <;> simp_all [eq_comm]

theorem not_mem_escape {c : Char} (hc : c = '<' ∨ c = '"') (text : Text) : c ∉ escape text := by
  simp only [escape, Text.escapeWith, List.mem_flatMap, not_exists, not_and]
  intro d _
  exact not_mem_escapeChar hc d

theorem readAttribute?_append {name : Text} (hname : IsName name) (value rest : Text) :
    readAttribute? (writeAttribute (name, value) ++ rest) = some ((name, value), rest) := by
  have htext : writeAttribute (name, value) ++ rest =
      ' ' :: (name ++ ("=\"".toList ++ (escape value ++ '"' :: rest))) := by
    simp [writeAttribute]
  have hstart : (' ' :: (name ++ ("=\"".toList ++ (escape value ++ '"' :: rest)))).dropWhile
      isSpace = name ++ ("=\"".toList ++ (escape value ++ '"' :: rest)) := by
    obtain ⟨c, tail, rfl⟩ := List.exists_cons_of_ne_nil hname.1
    have hc := isSpace_eq_false_of_isNameChar (hname.2 c List.mem_cons_self)
    rw [List.dropWhile_cons_of_pos (by decide), List.cons_append,
      List.dropWhile_cons_of_neg (by simp [hc])]
  have hread : readName? (name ++ ("=\"".toList ++ (escape value ++ '"' :: rest))) =
      some (name, "=\"".toList ++ (escape value ++ '"' :: rest)) :=
    readName?_append hname (by decide) _
  have hvalue : Text.splitFirst? '"' (escape value ++ '"' :: rest) = some (escape value, rest) :=
    Text.splitFirst?_append (not_mem_escape (by simp) value) rest
  have hmarkup : '<' ∉ escape value := not_mem_escape (by simp) value
  have hblank : isSpace ' ' = true := by decide
  rw [htext, readAttribute?, hstart, hread]
  simp only [List.head?_cons, Option.all_some, hblank, if_true, Option.bind_some,
    dropPrefix?_append, hvalue, if_neg hmarkup, unescape?_escape, Option.map_some]

theorem readAttributes_append {attributes : List (Text × Text)}
    (hattributes : ∀ pair ∈ attributes, IsName pair.1) (rest : Text) :
    Text.readUntil atTagEnd readAttribute? (attributes.flatMap writeAttribute ++ '>' :: rest) =
      some (attributes, '>' :: rest) := by
  induction attributes with
  | nil => exact Text.readUntil_of_stop rfl
  | cons pair attributes ih =>
      have hpair : IsName pair.1 := hattributes pair List.mem_cons_self
      have hothers : ∀ other ∈ attributes, IsName other.1 := by
        intro other hother
        exact hattributes other (List.mem_cons_of_mem pair hother)
      have hstep := readAttribute?_append hpair pair.2
        (attributes.flatMap writeAttribute ++ '>' :: rest)
      rw [List.flatMap_cons, List.append_assoc,
        Text.readUntil_eq_of_step rfl hstep (by simp [writeAttribute]; omega), ih hothers]
      rfl

/-! ## Single tokens -/

theorem readToken?_tag {c : Char} (hc : isNameChar c = true) (rest : Text) :
    readToken? ('<' :: c :: rest) = readStartTag? (c :: rest) := by
  have hother : c ≠ '?' ∧ c ≠ '!' ∧ c ≠ '/' := by
    refine ⟨?_, ?_, ?_⟩ <;>
    · rintro rfl
      exact absurd hc (by decide)
  rw [readToken?] <;> simp_all

theorem readToken?_startTag_append {name : Text} (hname : IsName name)
    {attributes : List (Text × Text)} (hattributes : ∀ pair ∈ attributes, IsName pair.1)
    (rest : Text) :
    readToken? ((Token.startTag name attributes).write ++ rest) =
      some (.startTag name attributes, rest) := by
  have htext : (Token.startTag name attributes).write ++ rest =
      '<' :: (name ++ (attributes.flatMap writeAttribute ++ '>' :: rest)) := by
    unfold Token.write
    simp
  have hread : readName? (name ++ (attributes.flatMap writeAttribute ++ '>' :: rest)) =
      some (name, attributes.flatMap writeAttribute ++ '>' :: rest) := by
    cases attributes with
    | nil => exact readName?_append hname (by decide) rest
    | cons pair attributes => exact readName?_append hname (by decide : isNameChar ' ' = false) _
  have htag : readToken? ('<' :: (name ++ (attributes.flatMap writeAttribute ++ '>' :: rest))) =
      readStartTag? (name ++ (attributes.flatMap writeAttribute ++ '>' :: rest)) := by
    obtain ⟨c, tail, rfl⟩ := List.exists_cons_of_ne_nil hname.1
    exact readToken?_tag (hname.2 c List.mem_cons_self) _
  rw [htext, htag, readStartTag?, hread, Option.bind_some, readAttributes_append hattributes]
  rfl

theorem readToken?_endTag_append {name : Text} (hname : IsName name) (rest : Text) :
    readToken? ((Token.endTag name).write ++ rest) = some (.endTag name, rest) := by
  have htext : (Token.endTag name).write ++ rest =
      '<' :: '/' :: (name ++ (">".toList ++ rest)) := by
    unfold Token.write
    simp
  have hread : readName? (name ++ (">".toList ++ rest)) = some (name, ">".toList ++ rest) :=
    readName?_append hname (by decide) rest
  rw [htext, readToken?, readEndTag?, hread, Option.bind_some, dropPrefix?_append]
  rfl

theorem readToken?_comment_append (content rest : Text) :
    readToken? ((Token.comment content).write ++ rest) =
      some (.comment (commentSafe content), rest) := by
  have htext : (Token.comment content).write ++ rest =
      '<' :: '!' :: '-' :: '-' :: (commentSafe content ++ "--".toList ++ (">".toList ++ rest)) := by
    unfold Token.write
    simp
  have hsplit : Text.splitAtMark? "--".toList
      (commentSafe content ++ "--".toList ++ (">".toList ++ rest)) =
        some (commentSafe content, ">".toList ++ rest) :=
    Text.splitAtMark?_append (by decide) (not_infix_commentSafe_append content) _
  rw [htext, readToken?, readComment?, hsplit, Option.bind_some, dropPrefix?_append]
  rfl

theorem readToken?_doctype_append {content : Text} (hcontent : '>' ∉ content) (rest : Text) :
    readToken? ((Token.doctype content).write ++ rest) = some (.doctype content, rest) := by
  have htext : (Token.doctype content).write ++ rest =
      '<' :: '!' :: ("DOCTYPE ".toList ++ (content ++ '>' :: rest)) := by
    unfold Token.write
    simp
  have hdoctype : readToken? ('<' :: '!' :: ("DOCTYPE ".toList ++ (content ++ '>' :: rest))) =
      readDoctype? ("DOCTYPE ".toList ++ (content ++ '>' :: rest)) := rfl
  rw [htext, hdoctype, readDoctype?, dropPrefix?_append, Option.bind_some,
    Text.splitFirst?_append hcontent]
  rfl

theorem readToken?_declaration_append (rest : Text) :
    readToken? (Token.declaration.write ++ rest) = some (.declaration, rest) := by
  have htext : Token.declaration.write ++ rest =
      '<' :: '?' :: ("xml ".toList ++ ("version=\"1.0\" encoding=\"utf-8\"".toList
        ++ "?>".toList ++ rest)) := by
    unfold Token.write
    simp
  have hsplit : Text.splitAtMark? "?>".toList
      ("version=\"1.0\" encoding=\"utf-8\"".toList ++ "?>".toList ++ rest) =
        some ("version=\"1.0\" encoding=\"utf-8\"".toList, rest) := by
    refine Text.splitAtMark?_append (by decide) ?_ rest
    simp [Text.pair_infix_cons_iff]
  rw [htext, readToken?, readDeclaration?, dropPrefix?_append, Option.bind_some, hsplit]
  rfl

theorem length_lt_length_write_append {token : Token} (hmarkup : ∀ content, token ≠ .text content)
    (rest : Text) : rest.length < (token.write ++ rest).length := by
  cases token with
  | text content => exact absurd rfl (hmarkup content)
  | _ =>
      unfold Token.write
      simp
      try omega

theorem tokens?_write_append {token : Token} (htoken : token.WellFormed)
    (hmarkup : ∀ content, token ≠ .text content) {rest : Text} {tokens : List Token}
    (hrest : tokens? rest = some tokens) :
    tokens? (token.write ++ rest) = some (consToken token tokens) := by
  have hstep : ∃ item, readToken? (token.write ++ rest) = some (item, rest) ∧
      consToken token tokens = item :: tokens := by
    cases token with
    | declaration => exact ⟨_, readToken?_declaration_append rest, rfl⟩
    | doctype content => exact ⟨_, readToken?_doctype_append htoken rest, rfl⟩
    | comment content => exact ⟨_, readToken?_comment_append content rest, rfl⟩
    | startTag name attributes =>
        exact ⟨_, readToken?_startTag_append htoken.1 htoken.2 rest, rfl⟩
    | endTag name => exact ⟨_, readToken?_endTag_append htoken rest, rfl⟩
    | text content => exact absurd rfl (hmarkup content)
  obtain ⟨item, hread, hcons⟩ := hstep
  unfold tokens? at hrest ⊢
  rw [Text.readAll_eq_of_step hread (length_lt_length_write_append hmarkup rest), hrest, hcons]
  rfl

/-! ## Character data -/

theorem readToken?_characters {c : Char} (hc : c ≠ '<') (rest : Text) :
    readToken? (c :: rest) = readCharacters? (c :: rest) := by
  rw [readToken?] <;> simp_all

theorem readCharacters?_escapeChar_append (c : Char) (rest : Text) :
    readCharacters? (escapeChar c ++ rest) =
      (unescape? (rest.takeWhile (· ≠ '<'))).map fun content =>
        (.text (c :: content), rest.dropWhile (· ≠ '<')) := by
  have hplain : ∀ d ∈ escapeChar c, decide (d ≠ '<') = true := by
    intro d hd
    refine decide_eq_true ?_
    rintro rfl
    exact not_mem_escapeChar (Or.inl rfl) c hd
  rw [readCharacters?, List.takeWhile_append_of_pos hplain, List.dropWhile_append_of_pos hplain,
    unescape?_escapeChar_append, Option.map_map]
  rfl

theorem readToken?_escapeChar_append (c : Char) (rest : Text) :
    readToken? (escapeChar c ++ rest) = readCharacters? (escapeChar c ++ rest) := by
  have hne : escapeChar c ≠ [] := by
    unfold escapeChar
    split_ifs <;> simp
  obtain ⟨d, tail, hescape⟩ := List.exists_cons_of_ne_nil hne
  have hd : d ≠ '<' := by
    rintro rfl
    exact not_mem_escapeChar (Or.inl rfl) c (hescape ▸ List.mem_cons_self)
  rw [hescape, List.cons_append, readToken?_characters hd]

theorem ne_text_of_readToken?_eq_some {text rest : Text} {token : Token}
    (hread : readToken? ('<' :: text) = some (token, rest)) (content : Text) :
    token ≠ .text content := by
  rintro rfl
  unfold readToken? at hread
  split at hread
  case h_6 hother => exact hother text rfl
  -- Every other reader names the kind of its token last.
  all_goals
    obtain ⟨_, -, hmap⟩ := Option.bind_eq_some_iff.mp hread
    obtain ⟨_, -, heq⟩ := Option.map_eq_some_iff.mp hmap
    cases heq

theorem consCharacter_of_tokens?_eq_some {text : Text} {tokens : List Token}
    (htext : tokens? text = some tokens) (hhead : ∀ c ∈ text.head?, c = '<') (c : Char) :
    consCharacter c tokens = .text [c] :: tokens := by
  cases text with
  | nil =>
      obtain rfl : [] = tokens := Option.some.inj ((Text.readAll_nil readToken?).symm.trans htext)
      rfl
  | cons d rest =>
      obtain rfl := hhead d rfl
      obtain ⟨token, behind, others, hstep, -, rfl⟩ :=
        Text.exists_of_readAll_eq_some (List.cons_ne_nil '<' rest) htext
      have hmarkup := ne_text_of_readToken?_eq_some hstep
      cases token with
      | text content => exact absurd rfl (hmarkup content)
      | _ => rfl

theorem tokens?_escapeChar_append {text : Text} {tokens : List Token}
    (htext : tokens? text = some tokens) (c : Char) :
    tokens? (escapeChar c ++ text) = some (consCharacter c tokens) := by
  have hread := (readToken?_escapeChar_append c text).trans
    (readCharacters?_escapeChar_append c text)
  have hless : (text.dropWhile (· ≠ '<')).length < (escapeChar c ++ text).length := by
    have hle := (List.dropWhile_sublist (fun d => decide (d ≠ '<')) (l := text)).length_le
    have hpos : 0 < (escapeChar c).length := by
      unfold escapeChar
      split_ifs <;> simp
    rw [List.length_append]
    omega
  by_cases hhead : ∀ d ∈ text.head?, d = '<'
  · -- Markup follows or nothing, and the character stands alone.
    have hstop : text.takeWhile (· ≠ '<') = [] ∧ text.dropWhile (· ≠ '<') = text := by
      cases text with
      | nil => exact ⟨rfl, rfl⟩
      | cons d rest => simp [hhead d rfl]
    rw [hstop.1, hstop.2] at hread
    rw [hstop.2] at hless
    rw [consCharacter_of_tokens?_eq_some htext hhead]
    unfold tokens? at htext ⊢
    rw [Text.readAll_eq_of_step hread hless, htext]
    rfl
  · -- Character data follows, and the character is read as its first one.
    push Not at hhead
    obtain ⟨d, hd, hmarkup⟩ := hhead
    obtain ⟨rest, rfl⟩ := List.head?_eq_some_iff.mp hd
    obtain ⟨token, behind, others, hstep, hothers, rfl⟩ :=
      Text.exists_of_readAll_eq_some (List.cons_ne_nil d rest) htext
    rw [readToken?_characters hmarkup, readCharacters?, Option.map_eq_some_iff] at hstep
    obtain ⟨content, hcontent, heq⟩ := hstep
    obtain ⟨rfl, rfl⟩ := Prod.mk.inj heq
    rw [hcontent] at hread
    unfold tokens?
    rw [Text.readAll_eq_of_step hread hless, hothers]
    rfl

theorem tokens?_escape_append {text : Text} {tokens : List Token}
    (htext : tokens? text = some tokens) (content : Text) :
    tokens? (escape content ++ text) = some (content.foldr consCharacter tokens) := by
  unfold escape
  induction content with
  | nil => exact htext
  | cons c content ih =>
      rw [Text.escapeWith_cons, List.append_assoc, tokens?_escapeChar_append ih, List.foldr_cons]

/-- A written document is read to its end, and as the tokens it was written
from. -/
theorem tokens?_write {tokens : List Token} (htokens : ∀ token ∈ tokens, token.WellFormed) :
    tokens? (write tokens) = some (asRead tokens) := by
  induction tokens with
  | nil => exact Text.readAll_nil readToken?
  | cons token rest ih =>
      have hrest := ih fun other hother => htokens other (List.mem_cons_of_mem token hother)
      rw [write_cons, asRead_cons]
      by_cases hmarkup : ∀ content, token ≠ .text content
      · exact tokens?_write_append (htokens token List.mem_cons_self) hmarkup hrest
      · push Not at hmarkup
        obtain ⟨content, rfl⟩ := hmarkup
        exact tokens?_escape_append hrest content

end Xml

end MessageCatalog
