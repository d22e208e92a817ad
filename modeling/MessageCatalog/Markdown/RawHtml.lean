import MessageCatalog.Text.Basic

/-!
# Raw HTML

HTML inside Markdown is passed on as it stands.  What counts as HTML is
recognised here: tags, comments, processing instructions, declarations and
character data sections.  Every recogniser takes the text behind an opening
angle bracket and gives what follows the piece of HTML.
-/

namespace MessageCatalog

namespace Markdown

def isLineSpace (c : Char) : Bool := c = ' ' || c = '\t' || c = '\x0b' || c = '\x0c'

def isAsciiSpace (c : Char) : Bool := isLineSpace c || c = '\n' || c = '\r'

namespace RawHtml

inductive TagState
  /-- Inside the name of an opening tag. -/
  | name
  /-- Behind white space, where an attribute may begin. -/
  | gap
  /-- Inside the name of an attribute. -/
  | attributeName
  /-- Behind white space that follows the name of an attribute. -/
  | afterAttribute
  /-- Behind an equals sign. -/
  | beforeValue
  /-- Inside a value without quotes. -/
  | bareValue
  /-- Inside a value in the given quotes. -/
  | quotedValue (quote : Char)
  /-- Behind a value in quotes. -/
  | afterValue
  /-- Behind the slash of an empty element. -/
  | slash
  /-- Inside the name of a closing tag. -/
  | closingName
  /-- Behind white space in a closing tag. -/
  | closingGap
  deriving DecidableEq, Repr

namespace TagState

def isNameChar (c : Char) : Bool := c.isAlphanum || c = '-'

def isAttributeStart (c : Char) : Bool := c.isAlpha || c = '_' || c = ':'

def isAttributeChar (c : Char) : Bool :=
  c.isAlphanum || c = '_' || c = ':' || c = '.' || c = '-'

def isBareChar (c : Char) : Bool :=
  !(c = '\'' || c = '"' || c = ' ' || c = '=' || c = '>' || c = '<' || c = '`'
    || c = '\n' || c = '\r')

/-- Where an attribute may begin or the tag may end. -/
def between (c : Char) : Option TagState :=
  if isAsciiSpace c then some gap
  else if c = '/' then some slash
  else if isAttributeStart c then some attributeName
  else none

/-- The state behind one more character, other than the bracket that ends the
tag. -/
def step (state : TagState) (c : Char) : Option TagState :=
  match state with
  | name =>
      if isNameChar c then some name
      else if isAsciiSpace c then some gap
      else if c = '/' then some slash
      else none
  | gap => between c
  | attributeName =>
      if isAttributeChar c then some attributeName
      else if isAsciiSpace c then some afterAttribute
      else if c = '=' then some beforeValue
      else if c = '/' then some slash
      else none
  | afterAttribute =>
      if isAsciiSpace c then some afterAttribute
      else if c = '=' then some beforeValue
      else between c
  | beforeValue =>
      if isAsciiSpace c then some beforeValue
      else if c = '"' || c = '\'' then some (quotedValue c)
      else if isBareChar c then some bareValue
      else none
  | bareValue =>
      if isBareChar c then some bareValue
      else if isAsciiSpace c then some gap
      else none
  | quotedValue quote => if c = quote then some afterValue else some (quotedValue quote)
  | afterValue =>
      if isAsciiSpace c then some gap
      else if c = '/' then some slash
      else none
  | slash => none
  | closingName =>
      if isNameChar c then some closingName
      else if isAsciiSpace c then some closingGap
      else none
  | closingGap => if isAsciiSpace c then some closingGap else none

def mayEnd : TagState → Bool
  | beforeValue => false
  | quotedValue _ => false
  | _ => true

def finish? (state : TagState) : Text → Option Text
  | [] => none
  | c :: rest =>
      if c = '>' ∧ state.mayEnd then some rest
      else (state.step c).bind fun next => finish? next rest

end TagState

def afterTag? (text : Text) : Option Text :=
  match text with
  | [] => none
  | c :: rest =>
      if c = '/' then
        if rest.head?.any Char.isAlpha then TagState.closingName.finish? rest else none
      else if c.isAlpha then TagState.name.finish? rest
      else none

/-- What follows the first occurrence of a mark. -/
def afterMark? (mark : Text) : Text → Option Text
  | [] => none
  | c :: rest =>
      if mark.isPrefixOf (c :: rest) then some ((c :: rest).drop mark.length)
      else afterMark? mark rest

def afterCommentBody? (text : Text) : Option Text :=
  if ">".toList.isPrefixOf text then some (text.drop 1)
  else if "->".toList.isPrefixOf text then some (text.drop 2)
  else afterMark? "-->".toList text

/-- What follows a declaration, whose name has been read up to here. -/
def afterDeclaration? (text : Text) : Option Text :=
  let body := text.dropWhile Char.isAlpha
  if body.head?.any isAsciiSpace then afterMark? ">".toList body else none

def after? (text : Text) : Option Text :=
  if "!--".toList.isPrefixOf text then afterCommentBody? (text.drop 3)
  else if "?".toList.isPrefixOf text then afterMark? "?>".toList (text.drop 1)
  else if "![CDATA[".toList.isPrefixOf text then afterMark? "]]>".toList (text.drop 8)
  else if "!".toList.isPrefixOf text then
    if (text.drop 1).head?.any Char.isAlpha then afterDeclaration? (text.drop 1) else none
  else afterTag? text

inductive BlockEnd
  /-- At the end of the line with this mark. -/
  | mark (mark : Text)
  /-- In front of a blank line. -/
  | blankLine
  deriving DecidableEq, Repr

/-- Elements whose content need not be HTML. -/
def verbatimElements : List String := ["pre", "style", "script", "textarea"]

/-- Elements that are blocks of their own. -/
def blockElements : List String :=
  ["address", "article", "aside", "base", "basefont", "blockquote", "body", "caption",
    "center", "col", "colgroup", "dd", "details", "dialog", "dir", "div", "dl", "dt",
    "fieldset", "figcaption", "figure", "footer", "form", "frame", "frameset", "h1", "h2",
    "h3", "h4", "h5", "h6", "head", "header", "hr", "html", "iframe", "legend", "li",
    "link", "main", "menu", "menuitem", "nav", "noframes", "ol", "optgroup", "option",
    "p", "param", "search", "section", "source", "summary", "table", "tbody", "td",
    "tfoot", "th", "thead", "title", "tr", "track", "ul"]

/-- Whether a name is in a list, in any mixture of capitals. -/
def isListed (names : List String) (name : Text) : Bool :=
  names.any fun listed => listed.toList = Text.asciiLower name

def leadingName (text : Text) : Text := text.takeWhile Char.isAlphanum

/-- Whether the tag of an element whose content need not be HTML begins here. -/
def startsVerbatim (text : Text) : Bool :=
  let rest := text.drop (leadingName text).length
  isListed verbatimElements (leadingName text)
    && (rest.isEmpty || rest.head?.any fun c => isAsciiSpace c || c = '>')

/-- Whether the tag of a block element begins here. -/
def startsBlockElement (text : Text) : Bool :=
  let tag := if text.head? = some '/' then text.tail else text
  let rest := tag.drop (leadingName tag).length
  isListed blockElements (leadingName tag)
    && (rest.isEmpty || (rest.head?.any fun c => c = ' ' || c = '\t' || c = '>')
      || "/>".toList.isPrefixOf rest)

/-- The end of a block that begins in the middle of a paragraph too. -/
def interruptingBlock? (text : Text) : Option BlockEnd :=
  if startsVerbatim text then
    some (.mark ("</".toList ++ Text.asciiLower (leadingName text) ++ ">".toList))
  else if "!--".toList.isPrefixOf text then some (.mark "-->".toList)
  else if "?".toList.isPrefixOf text then some (.mark "?>".toList)
  else if "![CDATA[".toList.isPrefixOf text then some (.mark "]]>".toList)
  else if text.head? = some '!' ∧ (text.drop 1).head?.any Char.isAlpha then
    some (.mark ">".toList)
  else if startsBlockElement text then some .blankLine
  else none

/-- The end of a block, given its first line behind the bracket.  Besides the
blocks above, one may begin with any tag alone on its line. -/
def block? (text : Text) : Option BlockEnd :=
  match interruptingBlock? text with
  | some blockEnd => some blockEnd
  | none =>
      match afterTag? text with
      | some rest => if rest.all isLineSpace then some .blankLine else none
      | none => none

end RawHtml

end Markdown

end MessageCatalog
