import MessageCatalog.Markdown.Block.Reading
import MessageCatalog.Markdown.Inline.Reading
import MessageCatalog.Text.Utf8

/-!
# Writing HTML

Every block begins on a line of its own, except for the text of a tight list
item, which follows its tag directly.  Text is escaped where it is written:
quotes only within attributes, and in addresses everything that may not stand
in a URI.
-/

namespace MessageCatalog

namespace Markdown

namespace Html

def escapeTextChar (c : Char) : Text :=
  if c = '&' then "&amp;".toList
  else if c = '<' then "&lt;".toList
  else if c = '>' then "&gt;".toList
  else [c]

def escapeText (text : Text) : Text := Text.escapeWith escapeTextChar text

def escapeValueChar (c : Char) : Text :=
  if c = '"' then "&quot;".toList
  else if c = '\'' then "&#39;".toList
  else escapeTextChar c

def escapeValue (text : Text) : Text := Text.escapeWith escapeValueChar text

/-- Whether a character of an address is written as it stands. -/
def isAddressChar (c : Char) : Bool :=
  c.isAlphanum || "!#$%()*+,-./:;=?@_~".toList.contains c

def percentEncode (byte : UInt8) : Text :=
  ['%', (Nat.digitChar (byte.toNat / 16)).toUpper, (Nat.digitChar (byte.toNat % 16)).toUpper]

def escapeAddressChar (c : Char) : Text :=
  if isAddressChar c then [c]
  else if c = '&' then "&amp;".toList
  else if c = '\'' then "&#x27;".toList
  else (Utf8.encodeChar c).flatMap percentEncode

def escapeAddress (text : Text) : Text := Text.escapeWith escapeAddressChar text

/-- The title attribute of a link or an image, if it has a title. -/
def titleAttribute (title : Text) : Text :=
  if title.isEmpty then [] else " title=\"".toList ++ escapeValue title ++ ['"']

def openingTag : Span → Text
  | .emphasis => "<em>".toList
  | .strong => "<strong>".toList
  | .strikethrough => "<del>".toList
  | .link destination title =>
      "<a href=\"".toList ++ escapeAddress destination ++ ['"'] ++ titleAttribute title ++ ['>']

def closingTag : Span → Text
  | .emphasis => "</em>".toList
  | .strong => "</strong>".toList
  | .strikethrough => "</del>".toList
  | .link _ _ => "</a>".toList

def ofInline : Inline → Text
  | .text t => escapeText t
  | .code t => "<code>".toList ++ escapeText t ++ "</code>".toList
  | .html t => t
  | .softBreak => ['\n']
  | .hardBreak => "<br />\n".toList
  | .opening span => openingTag span
  | .closing span => closingTag span
  | .image destination title description =>
      "<img src=\"".toList ++ escapeAddress destination ++ "\" alt=\"".toList
        ++ escapeValue description ++ ['"'] ++ titleAttribute title ++ " />".toList

def ofText (definitions : List Definition) (text : Text) : Text :=
  (Inline.ofText definitions text).flatMap ofInline

/-- Puts a text on a line of its own.  The flag says whether a line begins
here anyway. -/
def onNewLine (atLineStart : Bool) (text : Text) : Text :=
  if atLineStart then text else '\n' :: text

/-- Whether a line begins behind a text. -/
def endsLine (atLineStart : Bool) (text : Text) : Bool :=
  match text.getLast? with
  | none => atLineStart
  | some c => c = '\n'

def ofCode (language text : Text) : Text :=
  (if language.isEmpty then "<pre><code>".toList
    else "<pre><code class=\"language-".toList ++ escapeValue language ++ "\">".toList)
    ++ escapeText text ++ "</code></pre>\n".toList

def ofHeading (level : Nat) (content : Text) : Text :=
  "<h".toList ++ Text.ofNat level ++ ['>'] ++ content
    ++ "</h".toList ++ Text.ofNat level ++ ">\n".toList

def listTags : Option Nat → Text × Text
  | none => ("<ul>\n".toList, "</ul>\n".toList)
  | some 1 => ("<ol>\n".toList, "</ol>\n".toList)
  | some start =>
      ("<ol start=\"".toList ++ Text.ofNat start ++ "\">\n".toList, "</ol>\n".toList)

mutual

/-- A block.  Paragraphs of a tight list are not set apart. -/
def ofBlock (definitions : List Definition) (isTight atLineStart : Bool) : Block → Text
  | .paragraph text =>
      if isTight then ofText definitions text
      else
        onNewLine atLineStart
          ("<p>".toList ++ ofText definitions text ++ "</p>\n".toList)
  | .heading level text => onNewLine atLineStart (ofHeading level (ofText definitions text))
  | .rule => onNewLine atLineStart "<hr />\n".toList
  | .code language text => onNewLine atLineStart (ofCode language text)
  | .html text => text
  | .quote blocks =>
      onNewLine atLineStart
        ("<blockquote>\n".toList ++ ofBlocks definitions false true blocks
          ++ "</blockquote>\n".toList)
  | .list start isTight items =>
      onNewLine atLineStart
        ((listTags start).1 ++ ofItems definitions isTight items ++ (listTags start).2)

def ofBlocks (definitions : List Definition) (isTight atLineStart : Bool) :
    List Block → Text
  | [] => []
  | block :: rest =>
      ofBlock definitions isTight atLineStart block
        ++ ofBlocks definitions isTight
          (endsLine atLineStart (ofBlock definitions isTight atLineStart block)) rest

def ofItems (definitions : List Definition) (isTight : Bool) : List (List Block) → Text
  | [] => []
  | item :: rest =>
      "<li>".toList ++ ofBlocks definitions isTight false item ++ "</li>\n".toList
        ++ ofItems definitions isTight rest

end

def ofContent (content : Content) : Text :=
  ofBlocks content.definitions false true content.blocks

end Html

def toHtml (text : Text) : Text := Html.ofContent (Content.ofText text)

end Markdown

end MessageCatalog
