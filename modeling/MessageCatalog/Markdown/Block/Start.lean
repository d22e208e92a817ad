import MessageCatalog.Markdown.Line

/-!
# How blocks begin

The kind of a block is settled by the first characters of its first line,
behind the indentation.
-/

namespace MessageCatalog

namespace Markdown

/-- What an item of a list begins with: a bullet, or a number and a
delimiter. -/
structure ListMarker where
  /-- The bullet or the delimiter.  Neighbouring items of one list share it. -/
  delimiter : Char
  start : Option Nat
  deriving DecidableEq, Repr

/-- The first line of a literal block between fences. -/
structure Fence where
  char : Char
  length : Nat
  info : Text
  deriving DecidableEq, Repr

namespace BlockStart

def dropTrailingSpace (text : Text) : Text := Text.dropTrailing isAsciiSpace text

def runLength (c : Char) (text : Text) : Nat := (text.takeWhile (· = c)).length

/-- Whether a line is a thematic break: three or more asterisks, hyphens or
underscores with white space between them. -/
def isRule (text : Text) : Bool :=
  match text with
  | [] => false
  | c :: _ =>
      (c = '*' || c = '-' || c = '_')
        && text.all (fun d => d = c || d = ' ' || d = '\t')
        && 3 ≤ text.count c

/-- The level of the heading that a line is the underline of. -/
def underline? (text : Text) : Option Nat :=
  match text with
  | [] => none
  | c :: _ =>
      if (text.drop (runLength c text)).all isLineSpace then
        if c = '=' then some 1 else if c = '-' then some 2 else none
      else none

/-- The text of a heading without the closing number signs. -/
def dropClosing (text : Text) : Text :=
  let trimmed := Text.dropTrailing (· = ' ') text
  let bare := Text.dropTrailing (· = '#') trimmed
  if bare.isEmpty then []
  else if bare.getLast? = some ' ' then Text.dropTrailing (· = ' ') bare
  else trimmed

def heading? (text : Text) : Option (Nat × Text) :=
  let level := runLength '#' text
  let rest := text.drop level
  if 1 ≤ level ∧ level ≤ 6 ∧ (rest.isEmpty ∨ rest.head?.any isLineSpace) then
    some (level, dropClosing (rest.dropWhile isLineSpace))
  else none

/-- A fence of at least three backticks or tildes.  There are no backticks
behind one of backticks. -/
def fence? (text : Text) : Option Fence :=
  match text with
  | [] => none
  | c :: _ =>
      let length := runLength c text
      let info := text.drop length
      if (c = '`' ∨ c = '~') ∧ 3 ≤ length ∧ ¬(c = '`' ∧ info.contains '`') then
        some ⟨c, length, dropTrailingSpace (info.dropWhile isLineSpace)⟩
      else none

/-- Whether a line is the end of a fenced block. -/
def closesFence (fence : Fence) (text : Text) : Bool :=
  fence.length ≤ runLength fence.char text
    && (text.drop (runLength fence.char text)).all (· = ' ')

/-- The end of the block of HTML that begins with a line. -/
def html? (text : Text) : Option RawHtml.BlockEnd :=
  if text.head? = some '<' then RawHtml.block? text.tail else none

/-- The marker at the start of a text, and how many characters it has.  A number
has at most nine digits. -/
def marker? (text : Text) : Option (ListMarker × Nat) :=
  match text with
  | [] => none
  | c :: rest =>
      if c = '-' ∨ c = '+' ∨ c = '*' then
        if isRule text then none else some (⟨c, none⟩, 1)
      else
        let digits := (c :: rest).takeWhile Char.isDigit
        match (c :: rest).drop digits.length with
        | [] => none
        | d :: _ =>
            if 1 ≤ digits.length ∧ digits.length ≤ 9 ∧ (d = '.' ∨ d = ')') then
              some (⟨d, some (digits.foldl (fun n c => n * 10 + (c.toNat - '0'.toNat)) 0)⟩,
                digits.length + 1)
            else none

/-- The marker of an item, behind which there is white space or nothing, and the
place behind it and one column of white space. -/
def item? (cursor : Cursor) : Option (ListMarker × Nat × Cursor) :=
  match marker? cursor.rest with
  | none => none
  | some (marker, length) =>
      let behind : Cursor := ⟨0, cursor.column + length, cursor.rest.drop length⟩
      match behind.passColumn? with
      | some next => some (marker, length, next)
      | none => if behind.rest.isEmpty then some (marker, length, behind) else none

/-- Whether a line ends a paragraph in front of it.  Inside the same block an
empty item does not, nor does one with a number other than one. -/
def interrupts (sameBlock : Bool) (text : Text) : Bool :=
  isRule text || (heading? text).isSome || (fence? text).isSome
    || text.head? = some '>'
    || (match item? (.ofContent text) with
        | none => false
        | some (marker, _, behind) =>
            !sameBlock || ((marker.start = none || marker.start = some 1) && !behind.isBlank))
    || (text.head? = some '<' && (RawHtml.interruptingBlock? text.tail).isSome)

end BlockStart

end Markdown

end MessageCatalog
