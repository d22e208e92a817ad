import MessageCatalog.Output.AppleStrings
import MessageCatalog.Proofs.Output.Listed
import MessageCatalog.Proofs.Text.Neighbours
import MessageCatalog.Proofs.Text.Reader
import MessageCatalog.Proofs.Text.Trimming

/-!
# Reading `.strings` files

A `.strings` file is read as comments and pairs of a key and a value, blanks
between them not counting.  A comment runs to the first `*/`; a quoted string
runs to the first quotation mark that has no backslash in front.  What a
rendered file is read as is its listed entries, each with its value as a printf
format, and its comments, none of them cut short.
-/

namespace MessageCatalog

namespace AppleStrings

inductive Part
  | comment (content : Text)
  | pair (key value : Text)
  deriving DecidableEq

namespace Part

def comment? : Part → Option Text
  | comment content => some content
  | pair _ _ => none

def pair? : Part → Option (Text × Text)
  | comment _ => none
  | pair key value => some (key, value)

end Part

/-! ## The reader -/

def unescaped? (c : Char) : Option Char :=
  if c = '"' then some '"'
  else if c = '\\' then some '\\'
  else if c = 'n' then some '\n'
  else none

/-- A quoted string behind its opening quotation mark, and what follows it. -/
def readQuoted? : Text → Option (Text × Text)
  | [] => none
  | '"' :: rest => some ([], rest)
  | '\\' :: c :: rest =>
      (unescaped? c).bind fun d => (readQuoted? rest).map fun parts => (d :: parts.1, parts.2)
  | c :: rest =>
      if c = '\\' then none
      else (readQuoted? rest).map fun parts => (c :: parts.1, parts.2)

/-- What follows a character that has to come next, blanks not counting. -/
def expect? (c : Char) (text : Text) : Option Text :=
  match Text.trimStart text with
  | [] => none
  | d :: rest => if d = c then some rest else none

/-- A key and a value behind the opening quotation mark of the key. -/
def readPair? (text : Text) : Option (Part × Text) :=
  (readQuoted? text).bind fun key =>
    (expect? '=' key.2).bind fun rest =>
      (expect? '"' rest).bind fun rest =>
        (readQuoted? rest).bind fun value =>
          (expect? ';' value.2).map fun rest => (.pair key.1 value.1, rest)

/-- A part, and what follows it and the blanks behind it. -/
def readPart? : Text → Option (Part × Text)
  | '/' :: '*' :: rest =>
      (Text.splitAtMark? "*/".toList rest).map fun parts =>
        (.comment parts.1, Text.trimStart parts.2)
  | '"' :: rest => (readPair? rest).map fun parts => (parts.1, Text.trimStart parts.2)
  | _ => none

def parts? (text : Text) : Option (List Part) :=
  Text.readAll readPart? (Text.trimStart text)

/-! ## Reading what was written -/

theorem trimStart_cons_of_isBlank {c : Char} (hc : isBlank c = true) (text : Text) :
    Text.trimStart (c :: text) = Text.trimStart text :=
  List.dropWhile_cons_of_pos hc

theorem parts?_blank_cons {c : Char} (hc : isBlank c = true) (text : Text) :
    parts? (c :: text) = parts? text := by
  unfold parts?
  rw [trimStart_cons_of_isBlank hc]

theorem length_trimStart_le (text : Text) : (Text.trimStart text).length ≤ text.length :=
  (List.dropWhile_sublist isBlank).length_le

theorem parts?_nil : parts? [] = some [] := Text.readAll_nil readPart?

theorem readQuoted?_quoteChar_append (c : Char) (rest : Text) :
    readQuoted? (quoteChar c ++ rest) =
      (readQuoted? rest).map fun parts => (c :: parts.1, parts.2) := by
  unfold quoteChar
  by_cases hquote : c = '"'
  · subst hquote; rfl
  · by_cases hbackslash : c = '\\'
    · subst hbackslash; rfl
    · by_cases hline : c = '\n'
      · subst hline; rfl
      · rw [if_neg hquote, if_neg hbackslash, if_neg hline, List.singleton_append, readQuoted?]
        · simp [hbackslash]
        · exact hquote
        · rintro d rest' rfl
          exact absurd rfl hbackslash

theorem readQuoted?_quote_append (text rest : Text) :
    readQuoted? (quote text ++ '"' :: rest) = some (text, rest) := by
  unfold quote
  induction text with
  | nil => rfl
  | cons c text ih =>
      rw [Text.escapeWith_cons, List.append_assoc, readQuoted?_quoteChar_append, ih]
      rfl

theorem readPair?_append (key value rest : Text) :
    readPair? (quote key ++ "\" = \"".toList ++ quote value ++ "\";".toList ++ rest) =
      some (.pair key value, rest) := by
  have htext : quote key ++ "\" = \"".toList ++ quote value ++ "\";".toList ++ rest =
      quote key ++ '"' :: ' ' :: '=' :: ' ' :: '"' :: (quote value ++ '"' :: ';' :: rest) := by
    simp
  have hequals : ∀ more, expect? '=' (' ' :: '=' :: more) = some more := fun more => rfl
  have hopen : ∀ more, expect? '"' (' ' :: '"' :: more) = some more := fun more => rfl
  have hsemicolon : expect? ';' (';' :: rest) = some rest := rfl
  rw [htext, readPair?, readQuoted?_quote_append]
  simp only [Option.bind_some, hequals, hopen, readQuoted?_quote_append, hsemicolon,
    Option.map_some]

theorem parts?_eq_of_readPart? {text rest : Text} {part : Part}
    (hhead : ∀ c ∈ text.head?, isBlank c = false)
    (hpart : readPart? text = some (part, Text.trimStart rest))
    (hless : rest.length < text.length) :
    parts? text = (parts? rest).map (part :: ·) := by
  have hstart : Text.trimStart text = text := Text.dropWhile_eq_self hhead
  have hrest : (Text.trimStart rest).length < text.length :=
    Nat.lt_of_le_of_lt (length_trimStart_le rest) hless
  unfold parts?
  rw [hstart, Text.readAll_eq_of_step hpart hrest]

theorem parts?_pair_append (key value rest : Text) :
    parts? ("\"".toList ++ quote key ++ "\" = \"".toList ++ quote value ++ "\";".toList ++ rest) =
      (parts? rest).map (.pair key value :: ·) := by
  have htext : "\"".toList ++ quote key ++ "\" = \"".toList ++ quote value ++ "\";".toList ++ rest =
      '"' :: (quote key ++ "\" = \"".toList ++ quote value ++ "\";".toList ++ rest) := by
    simp
  rw [htext]
  apply parts?_eq_of_readPart?
  · rintro c hc
    obtain rfl := Option.some.inj hc
    rfl
  · rw [readPart?, readPair?_append]
    rfl
  · simp
    omega

theorem parts?_comment_append {content : Text}
    (hcontent : ¬ ['*', '/'] <:+: content ++ ['*']) (rest : Text) :
    parts? ("/*".toList ++ content ++ "*/".toList ++ rest) =
      (parts? rest).map (.comment content :: ·) := by
  have htext : "/*".toList ++ content ++ "*/".toList ++ rest =
      '/' :: '*' :: (content ++ "*/".toList ++ rest) := by
    simp
  have hsplit : Text.splitAtMark? "*/".toList (content ++ "*/".toList ++ rest) =
      some (content, rest) :=
    Text.splitAtMark?_append (by decide) hcontent rest
  rw [htext]
  apply parts?_eq_of_readPart?
  · rintro c hc
    obtain rfl := Option.some.inj hc
    rfl
  · rw [readPart?, hsplit]
    rfl
  · simp
    omega

/-! ## Comments -/

theorem head?_commentSafe (text : Text) : (commentSafe text).head? = text.head? := by
  fun_cases commentSafe text <;> simp_all

/-- What would end a comment does not occur in its text, and not with the star
behind it either. -/
theorem not_infix_commentSafe_append (text : Text) :
    ¬ ['*', '/'] <:+: commentSafe text ++ ['*'] := by
  fun_induction commentSafe text with
  | case1 => decide
  | case2 c => simp [Text.pair_infix_cons_iff]
  | case3 c d rest hcd ih =>
      simp only [List.cons_append, Text.pair_infix_cons_iff]
      simp [ih]
  | case4 c d rest hcd ih =>
      rw [List.cons_append, Text.pair_infix_cons_iff, List.head?_append, head?_commentSafe]
      simpa [ih] using hcd

/-- The lines around the text of a comment do not end it either, if they neither
hold a closing mark nor complete one. -/
theorem not_infix_comment {left right : Text} (hleft : ¬ ['*', '/'] <:+: left)
    (hlast : left.getLast? ≠ some '*') (hright : ¬ ['*', '/'] <:+: right ++ ['*'])
    (hhead : right.head? ≠ some '/') (text : Text) :
    ¬ ['*', '/'] <:+: left ++ commentSafe text ++ right ++ ['*'] := by
  have hsafe := not_infix_commentSafe_append text
  rw [Text.pair_infix_append_iff, not_or] at hsafe
  rw [List.append_assoc, Text.pair_infix_append_iff, Text.pair_infix_append_iff]
  rintro ((hmem | hmem | ⟨hend, -⟩) | hmem | ⟨-, hend⟩)
  · exact hleft hmem
  · exact hsafe.1 hmem
  · exact hlast hend
  · exact hright hmem
  · cases right with
    | nil => simp at hend
    | cons c right => exact hhead hend

def preambleComment (language : Text) : Text :=
  "*\n * Generated by `Sanat`\n * Language: ".toList ++ commentSafe language ++ "\n ".toList

def headingComment (name : Text) : Text :=
  "********* ".toList ++ commentSafe name ++ " *********".toList

def noteComment (note : Text) : Text := " ".toList ++ commentSafe note ++ " ".toList

def itemParts : Item → List Part
  | .heading name => [.comment (headingComment name)]
  | .entry entry value =>
      entry.note?.toList.map (fun note => .comment (noteComment note))
        ++ [.pair entry.key (format value)]

theorem parts?_preamble_append (language rest : Text) :
    parts? (preamble language ++ rest) =
      (parts? rest).map (.comment (preambleComment language) :: ·) := by
  have htext : preamble language ++ rest =
      "/*".toList ++ preambleComment language ++ "*/".toList ++ ('\n' :: '\n' :: rest) := by
    unfold preamble preambleComment
    simp
  have hcomment : ¬ ['*', '/'] <:+: preambleComment language ++ ['*'] :=
    not_infix_comment (by simp [Text.pair_infix_cons_iff]) (by simp)
      (by simp [Text.pair_infix_cons_iff]) (by simp) language
  rw [htext, parts?_comment_append hcomment, parts?_blank_cons (by decide),
    parts?_blank_cons (by decide)]

theorem parts?_heading_append (name rest : Text) :
    parts? (ofItem (.heading name) ++ rest) =
      (parts? rest).map (.comment (headingComment name) :: ·) := by
  have htext : ofItem (.heading name) ++ rest =
      '\n' :: ("/*".toList ++ headingComment name ++ "*/".toList ++ ('\n' :: '\n' :: rest)) := by
    unfold ofItem headingComment
    simp
  have hcomment : ¬ ['*', '/'] <:+: headingComment name ++ ['*'] :=
    not_infix_comment (by simp [Text.pair_infix_cons_iff]) (by simp)
      (by simp [Text.pair_infix_cons_iff]) (by simp) name
  rw [htext, parts?_blank_cons (by decide), parts?_comment_append hcomment,
    parts?_blank_cons (by decide), parts?_blank_cons (by decide)]

theorem parts?_comment_of_entry_append (entry : Entry) (rest : Text) :
    parts? (comment entry ++ rest) =
      (parts? rest).map
        (entry.note?.toList.map (fun note => .comment (noteComment note)) ++ ·) := by
  unfold comment
  cases entry.note? with
  | none => simp
  | some note =>
      have htext : "/* ".toList ++ commentSafe note ++ " */\n".toList ++ rest =
          "/*".toList ++ noteComment note ++ "*/".toList ++ ('\n' :: rest) := by
        unfold noteComment
        simp
      have hcomment : ¬ ['*', '/'] <:+: noteComment note ++ ['*'] :=
        not_infix_comment (by simp [Text.pair_infix_cons_iff]) (by simp)
          (by simp [Text.pair_infix_cons_iff]) (by simp) note
      dsimp only
      rw [htext, parts?_comment_append hcomment, parts?_blank_cons (by decide)]
      rfl

theorem parts?_ofItem_append (item : Item) (rest : Text) :
    parts? (ofItem item ++ rest) = (parts? rest).map (itemParts item ++ ·) := by
  cases item with
  | heading name => exact parts?_heading_append name rest
  | entry entry value =>
      have htext : ofItem (.entry entry value) ++ rest =
          comment entry ++ ("\"".toList ++ quote entry.key ++ "\" = \"".toList
            ++ quote (format value) ++ "\";".toList ++ ('\n' :: rest)) := by
        unfold ofItem escapeKey
        simp
      rw [htext, parts?_comment_of_entry_append, parts?_pair_append,
        parts?_blank_cons (by decide), Option.map_map]
      simp [itemParts, Function.comp_def]

theorem parts?_render (catalog : Catalog) (language : Text) :
    parts? (render catalog language) =
      some (.comment (preambleComment language) ::
        (catalog.items .apple language).flatMap itemParts) := by
  have hitems : ∀ items : List Item,
      parts? (items.flatMap ofItem) = some (items.flatMap itemParts) := by
    intro items
    induction items with
    | nil => exact parts?_nil
    | cons item items ih =>
        rw [List.flatMap_cons, parts?_ofItem_append, ih, List.flatMap_cons]
        rfl
  rw [render, parts?_preamble_append, hitems]
  rfl

/-! ## What a rendered file says -/

theorem filterMap_pair?_itemParts (item : Item) :
    (itemParts item).filterMap Part.pair? =
      (item.entry?.map fun listed => (listed.1.key, format listed.2)).toList := by
  cases item with
  | heading name => rfl
  | entry entry value =>
      have hcomments : (entry.note?.toList.map fun note => Part.comment (noteComment note)).filterMap
          Part.pair? = [] := by
        cases entry.note? <;> rfl
      rw [itemParts, List.filterMap_append, hcomments]
      rfl

def itemComments : Item → List Text
  | .heading name => [headingComment name]
  | .entry entry _ => entry.note?.toList.map noteComment

theorem filterMap_comment?_itemParts (item : Item) :
    (itemParts item).filterMap Part.comment? = itemComments item := by
  cases item with
  | heading name => rfl
  | entry entry value =>
      have hcomments : (entry.note?.toList.map fun note => Part.comment (noteComment note)).filterMap
          Part.comment? = entry.note?.toList.map noteComment := by
        cases entry.note? <;> rfl
      rw [itemParts, List.filterMap_append, hcomments]
      exact List.append_nil _

/-- A rendered file is read to its end.  Its pairs are the listed entries with
their values as printf formats, and its comments are read as they were written,
none of them ended by what it holds. -/
theorem parts?_render_pairs_comments (catalog : Catalog) (language : Text) :
    ∃ parts shown groups, parts? (render catalog language) = some parts ∧
      catalog.Lists .apple language shown ∧
      List.Forall₂ (Section.Lists .apple language) catalog.sections groups ∧
      parts.filterMap Part.pair? =
        shown.map (fun shown => (shown.1.key, Printf.ofSegments '@' shown.2.segments)) ∧
      parts.filterMap Part.comment? =
        preambleComment language :: groups.flatten.flatMap itemComments := by
  refine ⟨_, _, _, parts?_render catalog language, catalog.lists_listed .apple language,
    catalog.forall₂_lists_items .apple language, ?_, ?_⟩
  · rw [List.filterMap_cons, Part.pair?, List.filterMap_flatMap]
    exact Catalog.flatMap_items filterMap_pair?_itemParts catalog .apple language
  · rw [List.filterMap_cons, Part.comment?, List.filterMap_flatMap, ← List.flatMap_def]
    simp only [filterMap_comment?_itemParts]
    rfl

end AppleStrings

end MessageCatalog
