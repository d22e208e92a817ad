import MessageCatalog.Markdown.Link

/-!
# Blocks

A Markdown document is a list of blocks.  Leaves hold running text, which is
not taken apart here, or literal text; quotes and lists hold further blocks.
-/

namespace MessageCatalog

namespace Markdown

inductive Block
  | paragraph (text : Text)
  | heading (level : Nat) (text : Text)
  | rule
  /-- Literal text with the name of its language, if it has one. -/
  | code (language : Text) (text : Text)
  /-- HTML that is passed on as it stands. -/
  | html (text : Text)
  | quote (blocks : List Block)
  /-- A list, with the number of its first item if the items are numbered.
  The paragraphs of a tight list are not set apart. -/
  | list (start : Option Nat) (isTight : Bool) (items : List (List Block))

/-- What a document says: its blocks, and what its labels stand for. -/
structure Content where
  blocks : List Block
  definitions : List Definition

end Markdown

end MessageCatalog
