import MessageCatalog.Markdown.Html
import MessageCatalog.Text.Blank

/-!
# Markdown in values

A value is written in Markdown and becomes a fragment of HTML.  The blanks
around it are kept as they are, and the tags of a single paragraph are left
out.  The escapes of the document format have to survive: while Markdown is
read, a character of the private use area stands for each of them.
-/

namespace MessageCatalog

namespace MarkdownValue

/-- The characters that a backslash escapes in a value, and what stands for
the escape. -/
def standIn? (c : Char) : Option Char :=
  if c = '\\' then some '\uE000'
  else if c = '\x7b' then some '\uE001'
  else if c = '\x7d' then some '\uE002'
  else none

/-- The character whose escape something stands for. -/
def escaped? (c : Char) : Option Char :=
  if c = '\uE000' then some '\\'
  else if c = '\uE001' then some '\x7b'
  else if c = '\uE002' then some '\x7d'
  else none

def protect : Text → Text
  | [] => []
  | [c] => [c]
  | c :: d :: rest =>
      match if c = '\\' then standIn? d else none with
      | some standIn => standIn :: protect rest
      | none => c :: protect (d :: rest)

/-- What a character stands for. -/
def restoreChar (c : Char) : Text :=
  match escaped? c with
  | some escaped => ['\\', escaped]
  | none => [c]

def restore (text : Text) : Text := text.flatMap restoreChar

/-- The text between the tags of a paragraph, if it begins and ends with
them. -/
def dropParagraphTags (html : Text) : Text :=
  let opening := "<p>".toList
  let closing := "</p>".toList
  let inner := html.drop opening.length
  if opening.isPrefixOf html ∧ closing.isSuffixOf inner then
    inner.take (inner.length - closing.length)
  else html

/-- What is made of a value between its blanks by something that turns Markdown into
HTML. -/
def renderContentWith (toHtml : Text → Text) (content : Text) : Text :=
  restore (dropParagraphTags (Text.trim (toHtml (protect content))))

def renderWith (toHtml : Text → Text) (value : Text) : Text :=
  if (Text.trim value).isEmpty then value
  else
    Text.leadingBlanks value ++ renderContentWith toHtml (Text.trim value)
      ++ Text.trailingBlanks value

def render (value : Text) : Text := renderWith Markdown.toHtml value

end MarkdownValue

end MessageCatalog
