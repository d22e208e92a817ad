import MessageCatalog.Proofs.Xml.Reading

/-!
# The elements of a document

The tokens of a document are put together to elements, with a stack of the
elements that are still open: every end tag has to name the innermost of them.
Comments count for nothing, and whether character data comes in one piece does
not matter either, so that a written document is read as the element its tokens
make up.
-/

namespace MessageCatalog

namespace Xml

/-- An element with its own character data, in one piece, and the elements
directly inside it. -/
structure Element where
  name : Text
  attributes : List (Text × Text)
  text : Text
  children : List Element

namespace Element

def add (element : Element) (text : Text) (children : List Element) : Element :=
  { element with text := element.text ++ text, children := element.children ++ children }

@[simp] theorem add_nil (element : Element) : element.add [] [] = element := by
  cases element
  simp [add]

@[simp] theorem add_add (element : Element) (text more : Text) (children others : List Element) :
    (element.add text children).add more others =
      element.add (text ++ more) (children ++ others) := by
  simp [add]

end Element

/-- Reads the rest of an element and of the elements it stands in, innermost
first.  The result is the outermost one, and what follows its end tag. -/
def readContent (current : Element) (outer : List Element) :
    List Token → Option (Element × List Token)
  | [] => none
  | .text content :: rest => readContent (current.add content []) outer rest
  | .comment _ :: rest => readContent current outer rest
  | .startTag name attributes :: rest =>
      readContent ⟨name, attributes, [], []⟩ (current :: outer) rest
  | .endTag name :: rest =>
      if name = current.name then
        match outer with
        | [] => some (current, rest)
        | parent :: outer => readContent (parent.add [] [current]) outer rest
      else none
  | .declaration :: _ => none
  | .doctype _ :: _ => none

def Token.isMisc : Token → Bool
  | .comment _ => true
  | .text content => content.all isSpace
  | _ => false

/-- Reads the root element, with at most one document type in front of it. -/
def readRoot (doctype : Bool) : List Token → Option Element
  | [] => none
  | .text content :: rest => if content.all isSpace then readRoot doctype rest else none
  | .comment _ :: rest => readRoot doctype rest
  | .doctype _ :: rest => if doctype then readRoot false rest else none
  | .startTag name attributes :: rest =>
      (readContent ⟨name, attributes, [], []⟩ [] rest).bind fun parts =>
        if parts.2.all Token.isMisc then some parts.1 else none
  | .endTag _ :: _ => none
  | .declaration :: _ => none

def root? : List Token → Option Element
  | .declaration :: rest => readRoot true rest
  | _ => none

def read? (text : Text) : Option Element := (tokens? text).bind root?

/-! ## Character data in pieces -/

theorem readContent_consCharacter (c : Char) (tokens : List Token) (current : Element)
    (outer : List Element) :
    readContent current outer (consCharacter c tokens) =
      readContent (current.add [c] []) outer tokens := by
  cases tokens with
  | nil => rfl
  | cons token rest => cases token <;> simp [consCharacter, readContent]

theorem readContent_foldr_consCharacter (content : Text) (tokens : List Token)
    (current : Element) (outer : List Element) :
    readContent current outer (content.foldr consCharacter tokens) =
      readContent (current.add content []) outer tokens := by
  induction content generalizing current with
  | nil => simp
  | cons c content ih => simp [readContent_consCharacter, ih]

theorem readContent_asRead (tokens : List Token) (current : Element) (outer : List Element) :
    readContent current outer (asRead tokens) =
      (readContent current outer tokens).map fun parts => (parts.1, asRead parts.2) := by
  -- A tag changes which elements are open, so the induction is over all of them.
  induction tokens generalizing current outer with
  | nil => rfl
  | cons token rest ih =>
      cases token with
      | text content =>
          rw [asRead_cons, consToken, readContent_foldr_consCharacter, ih, readContent]
      | comment content => exact ih current outer
      | startTag name attributes => exact ih _ _
      | endTag name =>
          by_cases hname : name = current.name
          · cases outer with
            | nil => simp [consToken, readContent, hname]
            | cons parent outer => simp [consToken, readContent, hname, ih]
          · simp [consToken, readContent, hname]
      | declaration => rfl
      | doctype content => rfl

theorem all_isMisc_consCharacter (c : Char) (tokens : List Token) :
    (consCharacter c tokens).all Token.isMisc = (isSpace c && tokens.all Token.isMisc) := by
  cases tokens with
  | nil => simp [consCharacter, Token.isMisc]
  | cons token rest => cases token <;> simp [consCharacter, Token.isMisc, Bool.and_assoc]

theorem all_isMisc_asRead (tokens : List Token) :
    (asRead tokens).all Token.isMisc = tokens.all Token.isMisc := by
  induction tokens with
  | nil => rfl
  | cons token rest ih =>
      cases token with
      | text content =>
          rw [asRead_cons, consToken, List.all_cons, ← ih, Token.isMisc]
          induction content with
          | nil => simp
          | cons c content ih => simp [all_isMisc_consCharacter, ih, Bool.and_assoc]
      | _ => simp [consToken, ih, Token.isMisc]

theorem readRoot_consCharacter (doctype : Bool) (c : Char) (tokens : List Token) :
    readRoot doctype (consCharacter c tokens) =
      if isSpace c then readRoot doctype tokens else none := by
  cases tokens with
  | nil => simp [consCharacter, readRoot]
  | cons token rest =>
      cases token with
      | text content => by_cases hc : isSpace c <;> simp [consCharacter, readRoot, hc]
      | _ => simp [consCharacter, readRoot]

theorem readRoot_asRead (doctype : Bool) (tokens : List Token) :
    readRoot doctype (asRead tokens) = readRoot doctype tokens := by
  induction tokens generalizing doctype with
  | nil => rfl
  | cons token rest ih =>
      cases token with
      | text content =>
          rw [asRead_cons, consToken, readRoot, ← ih]
          induction content with
          | nil => simp
          | cons c content ih => by_cases hc : isSpace c <;> simp [readRoot_consCharacter, ih, hc]
      | comment content => exact ih doctype
      | doctype content => simp [consToken, readRoot, ih]
      | startTag name attributes =>
          simp only [asRead_cons, consToken, readRoot, readContent_asRead, all_isMisc_asRead,
            Option.bind_map, Function.comp_def]
      | endTag name => rfl
      | declaration => rfl

/-- A written document is read as the element that its tokens make up. -/
theorem read?_write_declaration {tokens : List Token}
    (htokens : ∀ token ∈ tokens, token.WellFormed) :
    read? (write (.declaration :: tokens)) = readRoot true tokens := by
  have hall : ∀ token ∈ Token.declaration :: tokens, token.WellFormed := by
    simpa [Token.WellFormed] using htokens
  rw [read?, tokens?_write hall, Option.bind_some]
  exact readRoot_asRead true tokens

/-! ## Elements inside elements -/

/-- Tokens that add a text and some elements to whatever element is open. -/
structure Content (tokens : List Token) (text : Text) (children : List Element) : Prop where
  wellFormed : ∀ token ∈ tokens, token.WellFormed
  readContent_append : ∀ (current : Element) (outer : List Element) (rest : List Token),
    readContent current outer (tokens ++ rest) =
      readContent (current.add text children) outer rest

namespace Content

variable {left right inner : List Token} {text more : Text} {children others : List Element}

theorem nil : Content [] [] [] where
  wellFormed := by simp
  readContent_append := by simp

theorem characters (content : Text) : Content [.text content] content [] where
  wellFormed := by simp [Token.WellFormed]
  readContent_append := by simp [readContent]

theorem comment (content : Text) : Content [.comment content] [] [] where
  wellFormed := by simp [Token.WellFormed]
  readContent_append := by simp [readContent]

theorem append (hleft : Content left text children) (hright : Content right more others) :
    Content (left ++ right) (text ++ more) (children ++ others) where
  wellFormed := by
    intro token htoken
    rcases List.mem_append.mp htoken with hmem | hmem
    · exact hleft.wellFormed token hmem
    · exact hright.wellFormed token hmem
  readContent_append := by
    intro current outer rest
    rw [List.append_assoc, hleft.readContent_append, hright.readContent_append, Element.add_add]

theorem element {name : Text} (hname : IsName name) {attributes : List (Text × Text)}
    (hattributes : ∀ pair ∈ attributes, IsName pair.1) (hinner : Content inner text children) :
    Content (.startTag name attributes :: inner ++ [.endTag name]) []
      [⟨name, attributes, text, children⟩] where
  wellFormed := by
    intro token htoken
    simp only [List.cons_append, List.mem_cons, List.mem_append, List.not_mem_nil,
      or_false] at htoken
    rcases htoken with rfl | hmem | rfl
    · exact ⟨hname, hattributes⟩
    · exact hinner.wellFormed token hmem
    · exact hname
  readContent_append := by
    intro current outer rest
    rw [List.cons_append, List.cons_append, readContent, List.append_assoc,
      hinner.readContent_append]
    simp [readContent, Element.add]

theorem leaf {name : Text} (hname : IsName name) {attributes : List (Text × Text)}
    (hattributes : ∀ pair ∈ attributes, IsName pair.1) (content : Text) :
    Content (Token.element name attributes content) [] [⟨name, attributes, content, []⟩] :=
  element hname hattributes (characters content)

end Content

/-- Tokens that add some elements to whatever element is open, and besides them
nothing but blanks and comments. -/
def Layout (tokens : List Token) (children : List Element) : Prop :=
  ∃ blanks : Text, blanks.all isSpace = true ∧ Content tokens blanks children

namespace Layout

variable {left right : List Token} {children others : List Element}

theorem of_content (hcontent : Content left [] children) : Layout left children :=
  ⟨[], rfl, hcontent⟩

theorem blanks {content : Text} (hblank : content.all isSpace = true) :
    Layout [.text content] [] :=
  ⟨content, hblank, Content.characters content⟩

theorem append (hleft : Layout left children) (hright : Layout right others) :
    Layout (left ++ right) (children ++ others) := by
  obtain ⟨before, hbefore, hleft⟩ := hleft
  obtain ⟨after, hafter, hright⟩ := hright
  exact ⟨before ++ after, by simp [hbefore, hafter], hleft.append hright⟩

theorem flatMap {α : Type} {ofItem : α → List Token} {elements : α → List Element}
    (hitem : ∀ item, Layout (ofItem item) (elements item)) (items : List α) :
    Layout (items.flatMap ofItem) (items.flatMap elements) := by
  induction items with
  | nil => exact of_content Content.nil
  | cons item items ih => exact (hitem item).append ih

theorem comment_line {before after : Text} (hbefore : before.all isSpace = true)
    (hafter : after.all isSpace = true) (content : Text) :
    Layout [.text before, .comment content, .text after] [] :=
  (blanks hbefore).append ((of_content (Content.comment content)).append (blanks hafter))

end Layout

/-! ## Documents -/

/-- A document: what stands in front of its root element, and the content of
that element. -/
def page (prolog : List Token) (rootName : Text) (inner : List Token) : List Token :=
  .declaration :: (prolog ++ (.startTag rootName [] :: inner ++ [.endTag rootName, .space "\n"]))

/-- What a reader passes over in front of the root element. -/
structure Prolog (tokens : List Token) : Prop where
  wellFormed : ∀ token ∈ tokens, token.WellFormed
  readRoot_append : ∃ doctype, ∀ rest, readRoot true (tokens ++ rest) = readRoot doctype rest

namespace Prolog

theorem comment (content : Text) : Prolog [.space "\n", .comment content, .space "\n"] where
  wellFormed := by simp [Token.WellFormed, Token.space]
  readRoot_append := ⟨true, by simp [readRoot, Token.space, isSpace]⟩

theorem doctype {name : Text} (hname : '>' ∉ name) (content : Text) :
    Prolog [.space "\n", .doctype name, .space "\n", .comment content, .space "\n"] where
  wellFormed := by simp [Token.WellFormed, Token.space, hname]
  readRoot_append := ⟨false, by simp [readRoot, Token.space, isSpace]⟩

end Prolog

/-- Tokens that make up a document with these elements in its root element, and
besides them nothing but blanks and comments. -/
def IsPage (tokens : List Token) (rootName : Text) (children : List Element) : Prop :=
  ∃ prolog inner, tokens = page prolog rootName inner ∧ Prolog prolog ∧ IsName rootName ∧
    Layout inner children

/-- The elements of a document whose root element has the given name and holds
nothing besides them but blanks and comments. -/
def elements? (rootName : Text) (text : Text) : Option (List Element) :=
  (read? text).bind fun root =>
    if root.name = rootName ∧ root.attributes = [] ∧ root.text.all isSpace = true then
      some root.children
    else none

namespace IsPage

variable {tokens : List Token} {rootName : Text} {children : List Element}

theorem wellFormed (hpage : IsPage tokens rootName children) :
    ∀ token ∈ tokens, token.WellFormed := by
  obtain ⟨prolog, inner, rfl, hprolog, hname, blanks, -, hinner⟩ := hpage
  intro token htoken
  simp only [page, List.cons_append, List.mem_cons, List.mem_append, List.not_mem_nil,
    or_false] at htoken
  rcases htoken with rfl | hmem | rfl | hmem | rfl | rfl
  · trivial
  · exact hprolog.wellFormed token hmem
  · exact ⟨hname, by simp⟩
  · exact hinner.wellFormed token hmem
  · exact hname
  · trivial

theorem elements?_write (hpage : IsPage tokens rootName children) :
    elements? rootName (write tokens) = some children := by
  have hformed := hpage.wellFormed
  obtain ⟨prolog, inner, rfl, hprolog, hname, blanks, hblanks, hinner⟩ := hpage
  obtain ⟨doctype, hpassed⟩ := hprolog.readRoot_append
  have hmisc : (Token.space "\n").isMisc = true := by
    simp [Token.space, Token.isMisc, isSpace]
  have hroot : read? (write (page prolog rootName inner)) =
      some ⟨rootName, [], blanks, children⟩ := by
    rw [page, read?_write_declaration fun token hmem => hformed token (List.mem_cons_of_mem _ hmem),
      hpassed, List.cons_append, readRoot, hinner.readContent_append]
    simp [readContent, Element.add, hmisc]
  rw [elements?, hroot]
  exact if_pos ⟨rfl, rfl, hblanks⟩

end IsPage

end Xml

end MessageCatalog
