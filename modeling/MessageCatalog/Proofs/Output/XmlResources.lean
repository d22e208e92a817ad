import MessageCatalog.Document.Reading
import MessageCatalog.Output.AndroidStrings
import MessageCatalog.Output.WindowsResources
import MessageCatalog.Proofs.JavaProperties.Value
import MessageCatalog.Proofs.List.PartialMap
import MessageCatalog.Proofs.Output.Listed
import MessageCatalog.Proofs.Xml.Comment
import MessageCatalog.Proofs.Xml.Element

/-!
# Reading resource files in XML

The three resource formats in XML are read as elements inside a root element.
What a rendered file is read as is its listed entries, in order, each with its
key, its value as a text of the target's format and, for Windows, its comment.
Nothing that a catalog holds is taken for markup: the tokens of a rendered file
are the ones it was written from.
-/

namespace MessageCatalog

open Xml (Content Element IsName IsPage Layout Token)

/-- What the items of a file add to its root element, if an entry adds one
element and a heading none. -/
theorem Catalog.layout_items {ofItem : Item → List Token} {view : Entry × Value → Element}
    (hitem : ∀ item, Layout (ofItem item) (item.entry?.map view).toList)
    (catalog : Catalog) (platform : Platform) (language : Text) :
    Layout ((catalog.items platform language).flatMap ofItem)
      ((catalog.listed platform language).map view) := by
  have hitems := Layout.flatMap hitem (catalog.items platform language)
  rwa [Catalog.flatMap_items fun _ => rfl] at hitems

theorem layout_line : Layout [.space "\n"] [] := Layout.blanks (by simp [Xml.isSpace])

/-! ## Texts under keys -/

/-- An element as a key with a text: the key stands in an attribute, and the text
is all that stands inside. -/
def keyedText? (name keyName : Text) (element : Element) : Option (Text × Text) :=
  if element.name = name ∧ element.children.isEmpty = true then
    (element.attributes.lookup keyName).map fun key => (key, element.text)
  else none

/-- The texts under keys in a file whose root element holds one element for each
of them. -/
def keyedTexts? (rootName name keyName file : Text) : Option (List (Text × Text)) :=
  (Xml.elements? rootName file).bind fun elements => elements.mapM (keyedText? name keyName)

def keyedElement (name keyName : Text) (format : Value → Text) (listed : Entry × Value) :
    Element :=
  ⟨name, [(keyName, listed.1.key)], format listed.2, []⟩

theorem keyedTexts?_write {tokens : List Token} {rootName name keyName : Text}
    {format : Value → Text} {listed : List (Entry × Value)}
    (hpage : IsPage tokens rootName (listed.map (keyedElement name keyName format))) :
    keyedTexts? rootName name keyName (Xml.write tokens) =
      some (listed.map fun listed => (listed.1.key, format listed.2)) := by
  have hread : ∀ listed, keyedText? name keyName (keyedElement name keyName format listed) =
      some (listed.1.key, format listed.2) := by
    intro listed
    simp [keyedText?, keyedElement]
  rw [keyedTexts?, hpage.elements?_write]
  exact mapM_map_eq_some hread listed

def noteLine (indent : Text) : Option Text → List Token
  | some note => [.text indent, .comment (" ".toList ++ note ++ " ".toList), .space "\n"]
  | none => []

/-- How both formats with keys in an attribute write an item. -/
def keyedItem (indent name keyName : Text) (format : Value → Text) : Item → List Token
  | .heading heading =>
      [.text ('\n' :: indent),
        .comment (" ********** ".toList ++ heading ++ " ********** ".toList),
        .space "\n\n"]
  | .entry entry value =>
      noteLine indent entry.note?
        ++ .text indent :: Token.element name [(keyName, entry.key)] (format value)
        ++ [.space "\n"]

theorem layout_noteLine {indent : Text} (hindent : indent.all Xml.isSpace = true)
    (note? : Option Text) : Layout (noteLine indent note?) [] := by
  cases note? with
  | none => exact Layout.of_content Content.nil
  | some note => exact Layout.comment_line hindent (by simp [Xml.isSpace]) _

theorem layout_keyedItem {indent name keyName : Text} (hindent : indent.all Xml.isSpace = true)
    (hname : IsName name) (hkeyName : IsName keyName) (format : Value → Text) (item : Item) :
    Layout (keyedItem indent name keyName format item)
      (item.entry?.map (keyedElement name keyName format)).toList := by
  cases item with
  | heading heading =>
      have hbefore : List.all ('\n' :: indent) Xml.isSpace = true := by
        rw [List.all_cons, hindent]
        decide
      exact Layout.comment_line hbefore (by simp [Xml.isSpace]) _
  | entry entry value =>
      have helement : Layout (Token.element name [(keyName, entry.key)] (format value))
          [keyedElement name keyName format (entry, value)] :=
        Layout.of_content (Content.leaf hname (by simpa using hkeyName) (format value))
      have hline := (Layout.blanks hindent).append helement
      exact ((layout_noteLine hindent entry.note?).append hline).append layout_line

namespace AndroidStrings

def prolog (language : Text) : List Token :=
  [.space "\n",
    .comment (" Generated by Sanat. Language: ".toList ++ language ++ " ".toList),
    .space "\n"]

theorem layout_ofItem (item : Item) :
    Layout (ofItem item)
      (item.entry?.map (keyedElement "string".toList "name".toList format)).toList := by
  have hitem : ofItem item = keyedItem "    ".toList "string".toList "name".toList format item := by
    cases item <;> rfl
  rw [hitem]
  exact layout_keyedItem (by simp [Xml.isSpace]) (by simp [IsName, Xml.isNameChar])
    (by simp [IsName, Xml.isNameChar]) format item

theorem document_isPage (catalog : Catalog) (language : Text) :
    IsPage (document catalog language) "resources".toList
      ((catalog.listed .android language).map
        (keyedElement "string".toList "name".toList format)) := by
  have hitems := Catalog.layout_items layout_ofItem catalog .android language
  refine ⟨prolog language, .space "\n" :: (catalog.items .android language).flatMap ofItem, ?_,
    Xml.Prolog.comment _, by simp [IsName, Xml.isNameChar], layout_line.append hitems⟩
  unfold document prolog Xml.page
  simp

/-- The comment at the beginning of a file tells which language it was made for. -/
theorem language_eq_of_render_eq {catalog : Catalog} {left right : Text} (hleft : ' ' ∉ left)
    (hright : ' ' ∉ right) (hrender : render catalog left = render catalog right) :
    left = right := by
  have htokens : ∀ language, Xml.tokens? (render catalog language) =
      some (Xml.asRead (document catalog language)) := by
    intro language
    exact Xml.tokens?_write (document_isPage catalog language).wellFormed
  have hread : Xml.asRead (document catalog left) = Xml.asRead (document catalog right) := by
    rw [← Option.some.injEq, ← htokens, ← htokens, hrender]
  have hthird : ∀ language, (Xml.asRead (document catalog language))[2]? =
      some (.comment (Xml.commentSafe
        (" Generated by Sanat. Language: ".toList ++ language ++ " ".toList))) := by
    intro language
    rfl
  have hcomment : Xml.commentSafe
        (" Generated by Sanat. Language: ".toList ++ left ++ " ".toList) =
      Xml.commentSafe (" Generated by Sanat. Language: ".toList ++ right ++ " ".toList) := by
    have hsame := hthird left
    rw [hread, hthird right, Option.some.injEq, Token.comment.injEq] at hsame
    exact hsame.symm
  have hletters := congrArg Xml.withoutSpaces hcomment
  simp only [Xml.withoutSpaces_commentSafe, Xml.withoutSpaces_append,
    Xml.withoutSpaces_eq_self hleft, Xml.withoutSpaces_eq_self hright] at hletters
  exact List.append_cancel_left (List.append_cancel_right hletters)

def read? (file : Text) : Option (List (Text × Text)) :=
  keyedTexts? "resources".toList "string".toList "name".toList file

end AndroidStrings

namespace JavaProperties

def prolog (language : Text) : List Token :=
  [.space "\n",
    .doctype "properties SYSTEM \"http://java.sun.com/dtd/properties.dtd\"".toList,
    .space "\n",
    .comment ("\nJava XML Properties File\nGenerated by Sanat\nLanguage: ".toList
      ++ language ++ "\n".toList),
    .space "\n"]

/-- The pattern of a value that has one. -/
def patternOf (value : Value) : Text := (format? value).getD []

theorem ofItem?_eq_some {item : Item} (hitem : ofItem? item ≠ none) :
    ofItem? item = some (keyedItem "  ".toList "entry".toList "key".toList patternOf item) := by
  cases item with
  | heading name => rfl
  | entry entry value =>
      have hentry : ofItem? (.entry entry value) =
          (format? value).map fun pattern =>
            keyedItem "  ".toList "entry".toList "key".toList (fun _ => pattern)
              (.entry entry value) := rfl
      rw [hentry] at hitem ⊢
      cases hpattern : format? value with
      | none =>
          rw [hpattern] at hitem
          exact absurd rfl hitem
      | some pattern =>
          rw [Option.map_some, keyedItem, keyedItem, patternOf, hpattern, Option.getD_some]

theorem document?_eq_none_iff {catalog : Catalog} {language : Text} :
    document? catalog language = none ↔
      ∃ shown ∈ catalog.listed .java language, format? shown.2 = none := by
  rw [document?, Option.map_eq_none_iff, mapM_eq_none_iff, ← Catalog.filterMap_entry?_items]
  constructor
  · rintro ⟨item, hitem, hnone⟩
    cases item with
    | heading name => exact absurd hnone (Option.some_ne_none _)
    | entry entry value =>
        exact ⟨(entry, value), List.mem_filterMap.mpr ⟨_, hitem, rfl⟩,
          Option.map_eq_none_iff.mp hnone⟩
  · rintro ⟨shown, hshown, hnone⟩
    obtain ⟨item, hitem, hentry⟩ := List.mem_filterMap.mp hshown
    cases item with
    | heading name => exact absurd hentry.symm (Option.some_ne_none _)
    | entry entry value =>
        obtain rfl := Option.some.inj hentry
        exact ⟨.entry entry value, hitem, Option.map_eq_none_iff.mpr hnone⟩

theorem eq_page_of_document?_eq_some {catalog : Catalog} {language : Text} {tokens : List Token}
    (hdocument : document? catalog language = some tokens) :
    tokens = page language ((catalog.items .java language).flatMap
      (keyedItem "  ".toList "entry".toList "key".toList patternOf)) := by
  have hitems : ∀ item ∈ catalog.items .java language, ofItem? item =
      some (keyedItem "  ".toList "entry".toList "key".toList patternOf item) := by
    intro item hitem
    apply ofItem?_eq_some
    intro hnone
    rw [document?, mapM_eq_none_iff.mpr ⟨item, hitem, hnone⟩] at hdocument
    exact Option.some_ne_none tokens hdocument.symm
  rw [document?, mapM_eq_some_map_iff.mpr hitems, Option.map_some, ← List.flatMap_def] at hdocument
  exact (Option.some.inj hdocument).symm

theorem document?_isPage {catalog : Catalog} {language : Text} {tokens : List Token}
    (hdocument : document? catalog language = some tokens) :
    IsPage tokens "properties".toList
      ((catalog.listed .java language).map
        (keyedElement "entry".toList "key".toList patternOf)) := by
  have hitem : ∀ item, Layout (keyedItem "  ".toList "entry".toList "key".toList patternOf item)
      (item.entry?.map (keyedElement "entry".toList "key".toList patternOf)).toList :=
    layout_keyedItem (by simp [Xml.isSpace]) (by simp [IsName, Xml.isNameChar])
      (by simp [IsName, Xml.isNameChar]) patternOf
  have hitems := Catalog.layout_items hitem catalog .java language
  refine ⟨prolog language, .space "\n" :: (catalog.items .java language).flatMap
    (keyedItem "  ".toList "entry".toList "key".toList patternOf), ?_,
    Xml.Prolog.doctype (by simp) _, by simp [IsName, Xml.isNameChar], layout_line.append hitems⟩
  rw [eq_page_of_document?_eq_some hdocument]
  unfold page prolog Xml.page
  simp

def read? (file : Text) : Option (List (Text × Text)) :=
  keyedTexts? "properties".toList "entry".toList "key".toList file

theorem exists_read?_of_render? {catalog : Catalog} {language file : Text}
    (hfile : render? catalog language = some file) :
    ∃ found, read? file = some found ∧
      (catalog.listed .java language).mapM (fun shown =>
        (format? shown.2).map fun pattern => (shown.1.key, pattern)) = some found := by
  obtain ⟨tokens, hdocument, rfl⟩ := Option.map_eq_some_iff.mp hfile
  refine ⟨_, keyedTexts?_write (document?_isPage hdocument), ?_⟩
  rw [mapM_eq_some_map_iff]
  intro shown hshown
  cases hpattern : format? shown.2 with
  | none =>
      rw [document?_eq_none_iff.mpr ⟨shown, hshown, hpattern⟩] at hdocument
      exact absurd hdocument.symm (Option.some_ne_none tokens)
  | some pattern => rw [Option.map_some, patternOf, hpattern, Option.getD_some]

/-- There is no file if and only if some listed value asks for too many decimals. -/
theorem render?_eq_none_iff {catalog : Catalog} {language : Text} :
    render? catalog language = none ↔
      ∃ shown ∈ catalog.listed .java language,
        ∃ p ∈ Segment.placeholders shown.2.segments, MessageFormat.TooLong p := by
  rw [render?, Option.map_eq_none_iff, document?_eq_none_iff]
  simp only [format?, MessageFormat.ofSegments?_eq_none_iff]

/-- A number with all the decimals that a document can ask for. -/
def endlessCatalog : Catalog :=
  ⟨.ofList ["en".toList], [⟨"S".toList,
    [⟨"K".toList, .empty, [], none, [⟨"en".toList, [.placeholder endlessPlaceholder]⟩]⟩]⟩]⟩

end JavaProperties

namespace WindowsResources

/-! ## Resources with comments -/

structure Resource where
  name : Text
  value : Text
  comment? : Option Text
  deriving DecidableEq

/-- The text of an element with the given name that holds nothing else. -/
def leafText? (name : Text) (element : Element) : Option Text :=
  if element.name = name ∧ element.attributes = [] ∧ element.children.isEmpty = true then
    some element.text
  else none

/-- The value of a resource, and the comment behind it, if there is one. -/
def readBody? : List Element → Option (Text × Option Text)
  | [value] => (leafText? "value".toList value).map fun value => (value, none)
  | [value, comment] =>
      (leafText? "value".toList value).bind fun value =>
        (leafText? "comment".toList comment).map fun comment => (value, some comment)
  | _ => none

def resource? (element : Element) : Option Resource :=
  if element.name = "data".toList ∧ element.text.all Xml.isSpace = true then
    (element.attributes.lookup "name".toList).bind fun name =>
      (readBody? element.children).map fun body => ⟨name, body.1, body.2⟩
  else none

/-- The resources of a file, the elements of its header not counting. -/
def read? (file : Text) : Option (List Resource) :=
  (Xml.elements? "root".toList file).bind fun elements =>
    (elements.filter fun element => element.name ≠ "resheader".toList).mapM resource?

def prolog (flavor : Flavor) (language : Text) : List Token :=
  [.space "\n",
    .comment ("\n".toList ++ flavor.description ++ "\nGenerated by Sanat\nLanguage: ".toList
      ++ language ++ "\n".toList),
    .space "\n"]

def headerElement (header : Text × Text) : Element :=
  ⟨"resheader".toList, [("name".toList, header.1)], "\n    \n  ".toList,
    [⟨"value".toList, [], header.2, []⟩]⟩

def commentElement (note : Text) : Element := ⟨"comment".toList, [], note, []⟩

def commentIndent : Option Text → Text
  | some _ => "\n    ".toList
  | none => []

def dataElement (listed : Entry × Value) : Element :=
  ⟨"data".toList,
    [("name".toList, sanitizeKey listed.1.key), ("xml:space".toList, "preserve".toList)],
    "\n    ".toList ++ commentIndent listed.1.note? ++ "\n  ".toList,
    ⟨"value".toList, [], format listed.2, []⟩ :: (listed.1.note?.map commentElement).toList⟩

theorem content_comment (entry : Entry) :
    Content (comment entry) (commentIndent entry.note?)
      (entry.note?.map commentElement).toList := by
  unfold comment
  cases entry.note? with
  | none => exact Content.nil
  | some note =>
      exact (Content.characters "\n    ".toList).append
        (Content.leaf (by simp [IsName, Xml.isNameChar]) (by simp) note)

theorem content_value (content : Text) :
    Content (Token.element "value".toList [] content) []
      [⟨"value".toList, [], content, []⟩] :=
  Content.leaf (by simp [IsName, Xml.isNameChar]) (by simp) content

theorem layout_element (name : Text) (attributes : List (Text × Text)) {inner : List Token}
    {text : Text} {children : List Element} (hname : IsName name)
    (hattributes : ∀ pair ∈ attributes, IsName pair.1) (hinner : Content inner text children) :
    Layout (.space "  " :: .startTag name attributes :: inner ++ [.endTag name, .space "\n"])
      [⟨name, attributes, text, children⟩] := by
  have hindent : Layout [.space "  "] [] := Layout.blanks (by simp [Xml.isSpace])
  have helement := Layout.of_content (Content.element hname hattributes hinner)
  simpa using (hindent.append helement).append layout_line

theorem layout_ofHeader (header : Text × Text) :
    Layout (ofHeader header) [headerElement header] := by
  have hinner := ((Content.characters "\n    ".toList).append (content_value header.2)).append
    (Content.characters "\n  ".toList)
  have helement := layout_element "resheader".toList [("name".toList, header.1)]
    (by simp [IsName, Xml.isNameChar]) (by simp [IsName, Xml.isNameChar]) hinner
  unfold ofHeader
  simpa [headerElement, Token.space] using helement

theorem layout_ofItem (item : Item) :
    Layout (ofItem item) (item.entry?.map dataElement).toList := by
  cases item with
  | heading name =>
      unfold ofItem
      exact Layout.comment_line (by simp [Xml.isSpace]) (by simp [Xml.isSpace]) _
  | entry entry value =>
      have hinner := ((Content.characters "\n    ".toList).append
        ((content_value (format value)).append (content_comment entry))).append
          (Content.characters "\n  ".toList)
      have helement := layout_element "data".toList
        [("name".toList, sanitizeKey entry.key), ("xml:space".toList, "preserve".toList)]
        (by simp [IsName, Xml.isNameChar]) (by simp [IsName, Xml.isNameChar]) hinner
      unfold ofItem
      simpa [dataElement, Item.entry?, Token.space] using helement

theorem document_isPage (flavor : Flavor) (catalog : Catalog) (language : Text) :
    IsPage (document flavor catalog language) "root".toList
      (headers.map headerElement ++ (catalog.listed .windows language).map dataElement) := by
  have hheaders : Layout (headers.flatMap ofHeader) (headers.map headerElement) := by
    rw [List.map_eq_flatMap]
    exact Layout.flatMap layout_ofHeader headers
  refine ⟨prolog flavor language,
    .space "\n" :: (headers.flatMap ofHeader ++ (catalog.items .windows language).flatMap ofItem),
    ?_, Xml.Prolog.comment _, by simp [IsName, Xml.isNameChar],
    layout_line.append (hheaders.append
      (Catalog.layout_items layout_ofItem catalog .windows language))⟩
  unfold document prolog Xml.page
  simp

def resource (listed : Entry × Value) : Resource :=
  ⟨sanitizeKey listed.1.key, format listed.2, listed.1.note?⟩

theorem resource?_dataElement (listed : Entry × Value) :
    resource? (dataElement listed) = some (resource listed) := by
  have hblank : (dataElement listed).text.all Xml.isSpace = true := by
    unfold dataElement
    cases listed.1.note? <;> simp [commentIndent, Xml.isSpace]
  have hbody : readBody? (dataElement listed).children =
      some (format listed.2, listed.1.note?) := by
    unfold dataElement
    cases listed.1.note? <;> simp [readBody?, leafText?, commentElement]
  rw [resource?, hbody, if_pos ⟨rfl, hblank⟩]
  rfl

theorem filter_elements (listed : List (Entry × Value)) :
    (headers.map headerElement ++ listed.map dataElement).filter
      (fun element => element.name ≠ "resheader".toList) = listed.map dataElement := by
  have hheaders : (headers.map headerElement).filter
      (fun element => element.name ≠ "resheader".toList) = [] := by
    rw [List.filter_eq_nil_iff]
    intro element helement
    obtain ⟨header, -, rfl⟩ := List.mem_map.mp helement
    simp [headerElement]
  have hdata : (listed.map dataElement).filter
      (fun element => element.name ≠ "resheader".toList) = listed.map dataElement := by
    rw [List.filter_eq_self]
    intro element helement
    obtain ⟨entry, -, rfl⟩ := List.mem_map.mp helement
    simp [dataElement]
  rw [List.filter_append, hheaders, hdata, List.nil_append]

theorem read?_write {tokens : List Token} {listed : List (Entry × Value)}
    (hpage : IsPage tokens "root".toList (headers.map headerElement ++ listed.map dataElement)) :
    read? (Xml.write tokens) = some (listed.map resource) := by
  rw [read?, hpage.elements?_write, Option.bind_some, filter_elements]
  exact mapM_map_eq_some resource?_dataElement listed

end WindowsResources

/-! ## All resource files in XML -/

/-- The tokens of the resource files in XML that a catalog gives in a language. -/
def Catalog.xmlDocuments (catalog : Catalog) (language : Text) : List (List Token) :=
  [AndroidStrings.document catalog language, WindowsResources.document .resx catalog language,
    WindowsResources.document .resw catalog language]
    ++ (JavaProperties.document? catalog language).toList

/-- Every file that there is is read as its listed entries, each with its key, its value
as a text of the target's format and, for Windows, its comment.  No text of the catalog
adds markup or changes it: the tokens of the file are the ones it was written from.  There
is each of these files, except that a Java file is missing if a listed value asks for more
decimals than a text has room for. -/
theorem Catalog.read?_xmlDocuments (catalog : Catalog) (language : Text) :
    (∃ shown, catalog.Lists .android language shown ∧
      AndroidStrings.read? (AndroidStrings.render catalog language) =
        some (shown.map fun shown =>
          (shown.1.key, Printf.ofSegments 's' shown.2.segments))) ∧
    (∃ shown, catalog.Lists .java language shown ∧
      (JavaProperties.render? catalog language = none ↔
        ∃ long ∈ shown, ∃ p ∈ Segment.placeholders long.2.segments, MessageFormat.TooLong p) ∧
      ∀ file, JavaProperties.render? catalog language = some file →
        ∃ found, JavaProperties.read? file = some found ∧
          shown.mapM (fun shown => (MessageFormat.ofSegments? shown.2.segments).map
            fun pattern => (shown.1.key, pattern)) = some found) ∧
    (∃ shown, catalog.Lists .windows language shown ∧ ∀ flavor,
      WindowsResources.read? (WindowsResources.render flavor catalog language) =
        some (shown.map fun shown =>
          ⟨WindowsResources.sanitizeKey shown.1.key, WindowsResources.format shown.2,
            shown.1.comment.filter fun note => !note.isEmpty⟩)) ∧
    ∀ tokens ∈ catalog.xmlDocuments language,
      Xml.tokens? (Xml.write tokens) = some (Xml.asRead tokens) := by
  have handroid := AndroidStrings.document_isPage catalog language
  have hwindows := fun flavor => WindowsResources.document_isPage flavor catalog language
  refine ⟨⟨_, catalog.lists_listed .android language, keyedTexts?_write handroid⟩,
    ⟨_, catalog.lists_listed .java language, JavaProperties.render?_eq_none_iff,
      fun file => JavaProperties.exists_read?_of_render?⟩,
    ⟨_, catalog.lists_listed .windows language, fun flavor =>
      WindowsResources.read?_write (hwindows flavor)⟩, ?_⟩
  intro tokens htokens
  simp only [xmlDocuments, List.mem_append, List.mem_cons, List.not_mem_nil, or_false,
    Option.mem_toList] at htokens
  rcases htokens with (rfl | rfl | rfl) | hjava
  · exact Xml.tokens?_write handroid.wellFormed
  · exact Xml.tokens?_write (hwindows .resx).wellFormed
  · exact Xml.tokens?_write (hwindows .resw).wellFormed
  · exact Xml.tokens?_write (JavaProperties.document?_isPage hjava).wellFormed

/-- One entry is enough: no Java file can be made of it, although it is read without
problems. -/
theorem Catalog.not_forall_exists_javaFile :
    Document.read .standard .identity
        "=== S ===\n  K\n    en = \x7bf.18446744073709551615\x7d\n".toList =
        ⟨JavaProperties.endlessCatalog, []⟩ ∧
      ¬ ∀ (catalog : Catalog) (language : Text),
        ∃ file found, JavaProperties.render? catalog language = some file ∧
          JavaProperties.read? file = some found := by
  refine ⟨by decide +kernel, ?_⟩
  intro hall
  obtain ⟨file, found, hfile, -⟩ := hall JavaProperties.endlessCatalog "en".toList
  have hnone : JavaProperties.render? JavaProperties.endlessCatalog "en".toList = none := by
    decide +kernel
  exact Option.some_ne_none file (hfile.symm.trans hnone)

end MessageCatalog
