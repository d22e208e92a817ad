import MessageCatalog.Text.Blank

/-!
# Rows of a document

A document is read line by line, and the kind of a line is settled by its
indentation: headings stand at the margin, keys behind two spaces, and
fields, `name = value`, behind four.  Blank lines and comments may stand
anywhere at any indentation.
-/

namespace MessageCatalog

namespace Document

/-- The line without one carriage return at its end. -/
def dropReturn (line : Text) : Text :=
  if line.getLast? = some '\r' then line.dropLast else line

/-- The lines among the pieces between line feeds.  What follows the last line
feed is a line only if it is not empty, and a carriage return belongs to the
line feed behind it. -/
def linesOfPieces : List Text → List Text
  | [] => []
  | [last] => if last.isEmpty then [] else [last]
  | line :: next :: rest => dropReturn line :: linesOfPieces (next :: rest)

def lines (text : Text) : List Text := linesOfPieces (Text.splitOn '\n' text)

/-- A byte order mark may stand in front of a document. -/
def dropByteOrderMark : Text → Text
  | [] => []
  | c :: rest => if c = '\uFEFF' then rest else c :: rest

end Document

inductive Row
  | skipped
  | mixedIndentation
  | unexpectedIndentation (width : Nat)
  | unindented
  | heading (name : Text)
  | key (key : Text)
  | noSeparator
  | field (name value : Text)
  deriving DecidableEq, Repr

namespace Row

/-- Whether a line is blank or a comment. -/
def isSkipped (line : Text) : Bool :=
  match Text.trim line with
  | [] => true
  | c :: _ => c = '#'

/-- The number of spaces in front of a line, if no other white space is. -/
def indentation? (line : Text) : Option Nat :=
  if (Text.leadingBlanks line).all (· = ' ') then some (Text.leadingBlanks line).length
  else none

/-- The text between one pair of double quotes around it. -/
def unquote (text : Text) : Text :=
  match text with
  | [] => []
  | c :: rest =>
      if c = '"' ∧ rest.getLast? = some '"' then rest.dropLast else c :: rest

/-- The name in a heading: the equals signs and spaces around it do not
belong to it. -/
def headingName (line : Text) : Text :=
  Text.dropAround (fun c => c = '=' || c = ' ') (Text.trim line)

def ofUnindented (line : Text) : Row :=
  if "===".toList.isPrefixOf line then .heading (headingName line) else .unindented

def ofFieldLine (line : Text) : Row :=
  match Text.splitFirst? '=' (Text.trim line) with
  | none => .noSeparator
  | some (name, value) => .field (Text.trim name) (unquote (Text.trim value))

def ofLine (line : Text) : Row :=
  if isSkipped line then .skipped
  else
    match indentation? line with
    | none => .mixedIndentation
    | some 0 => ofUnindented line
    | some 2 => .key (Text.trim line)
    | some 4 => ofFieldLine line
    | some width => .unexpectedIndentation width

end Row

inductive FieldKind
  | platforms
  | tags
  | comment
  | value
  deriving DecidableEq, Repr

namespace FieldKind

/-- The lower-case form of a character, as far as letters of ASCII appear in
it: besides the capitals of ASCII only the dotted capital I, which becomes two
characters, and the Kelvin sign have such a form. -/
def lowerForm (c : Char) : Text :=
  if c = '\u0130' then ['i', '\u0307']
  else if c = '\u212A' then ['k']
  else [c.toLower]

/-- Three names are reserved, in any mixture of capitals; every other name is
that of a language. -/
def ofName (name : Text) : FieldKind :=
  let lower := Text.escapeWith lowerForm name
  if lower = "platforms".toList then .platforms
  else if lower = "tags".toList then .tags
  else if lower = "comment".toList then .comment
  else .value

end FieldKind

end MessageCatalog
