import MessageCatalog.Markdown.RawHtml

/-!
# Lines and columns

Block structure is read line by line.  A line ends with a line feed, a
carriage return, or both.  Indentation is counted in columns: a tab reaches
to the next multiple of four, and what an outer block leaves of a tab belongs
to the inner one.
-/

namespace MessageCatalog

namespace Markdown

/-- A line and the line break that it ends with in literal blocks; the last
line may have none. -/
structure Line where
  content : Text
  ending : Text
  deriving DecidableEq, Repr

namespace Line

def consHead (c : Char) : List Line → List Line
  | [] => [⟨[c], []⟩]
  | line :: rest => { line with content := c :: line.content } :: rest

/-- The lines of a text.  A carriage return in front of a line feed belongs to
it. -/
def ofText : Text → List Line
  | [] => []
  | c :: rest =>
      if c = '\n' then ⟨[], ['\n']⟩ :: ofText rest
      else if c = '\r' then
        match ofText rest with
        | ⟨[], ['\n']⟩ :: lines => ⟨[], ['\n']⟩ :: lines
        | lines => ⟨[], ['\r']⟩ :: lines
      else consHead c (ofText rest)

end Line

/-- A place in a line: the rest of the line, the column, and the columns of a
tab in front of the rest that have not been passed yet. -/
structure Cursor where
  pending : Nat
  column : Nat
  rest : Text
  deriving DecidableEq, Repr

namespace Cursor

def ofContent (content : Text) : Cursor := ⟨0, 0, content⟩

/-- Passes one column of white space. -/
def passColumn? (cursor : Cursor) : Option Cursor :=
  match cursor.pending with
  | pending + 1 => some { cursor with pending := pending }
  | 0 =>
      match cursor.rest with
      | [] => none
      | c :: rest =>
          if c = ' ' then some ⟨0, cursor.column + 1, rest⟩
          else if c = '\t' then
            let width := 4 - cursor.column % 4
            some ⟨width - 1, cursor.column + width, rest⟩
          else none

/-- Passes up to `n` columns of white space and counts them. -/
def passUpTo : Nat → Cursor → Nat × Cursor
  | 0, cursor => (0, cursor)
  | n + 1, cursor =>
      match cursor.passColumn? with
      | none => (0, cursor)
      | some next => ((passUpTo n next).1 + 1, (passUpTo n next).2)

def passChar (cursor : Cursor) : Cursor := ⟨0, cursor.column + 1, cursor.rest.tail⟩

def isBlank (cursor : Cursor) : Bool := cursor.rest.all isLineSpace

/-- The rest with spaces for the columns of the tab in front of it. -/
def literal (cursor : Cursor) : Text := List.replicate cursor.pending ' ' ++ cursor.rest

def text (cursor : Cursor) : Text := cursor.rest.dropWhile fun c => c = ' ' || c = '\t'

end Cursor

end Markdown

end MessageCatalog
