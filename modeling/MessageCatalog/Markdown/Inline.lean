import MessageCatalog.Text.Basic

/-!
# Inline elements

Running text is a flat list of inline elements.  Emphasis and links are not
nested lists but pairs of tags around the elements they apply to, as they are
in the HTML that the list is written as.
-/

namespace MessageCatalog

namespace Markdown

/-- What a pair of tags does with the elements between them. -/
inductive Span
  | emphasis
  | strong
  | strikethrough
  | link (destination title : Text)
  deriving DecidableEq, Repr

inductive Inline
  | text (text : Text)
  | code (text : Text)
  /-- HTML that is passed on as it stands. -/
  | html (text : Text)
  | softBreak
  | hardBreak
  | opening (span : Span)
  | closing (span : Span)
  /-- An image with the text that stands in for it. -/
  | image (destination title description : Text)
  deriving DecidableEq, Repr

namespace Inline

def plainText : Inline → Text
  | text t => t
  | code t => t
  | html t => t
  | softBreak => [' ']
  | hardBreak => [' ']
  | opening _ => []
  | closing _ => []
  | image _ _ description => description

end Inline

end Markdown

end MessageCatalog
