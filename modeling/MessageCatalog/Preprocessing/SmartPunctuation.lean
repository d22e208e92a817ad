import MessageCatalog.Text.Blank

/-!
# Typographic punctuation

Straight quotes become curly ones and three dots become an ellipsis.  A
quote opens if it stands at the start of the text or behind white space, an
opening bracket or a dash, and in front of something that is not white
space; every other quote closes, apostrophes among them.
-/

namespace MessageCatalog

namespace SmartPunctuation

/-- Three dots in a row become an ellipsis, from left to right. -/
def ellipses : Text → Text
  | a :: b :: c :: rest =>
      if a = '.' ∧ b = '.' ∧ c = '.' then '…' :: ellipses rest
      else a :: ellipses (b :: c :: rest)
  | short => short

/-- Whether a quote may open behind this character. -/
def isBoundary (c : Char) : Bool :=
  isBlank c || c = '(' || c = '[' || c = '\x7b' || c = '<' || c = '—' || c = '–' || c = '-'

/-- Whether a quote opens between the two characters, either of which may be
missing. -/
def opens (before after : Option Char) : Bool :=
  (match before with
    | none => true
    | some c => isBoundary c)
  && (match after with
    | none => false
    | some c => !isBlank c)

/-- A character as it is written between the two. -/
def curlChar (before after : Option Char) (c : Char) : Char :=
  if c = '\'' then (if opens before after then '‘' else '’')
  else if c = '"' then (if opens before after then '“' else '”')
  else c

/-- Curls the quotes of a text behind the given character. -/
def curl (before : Option Char) : Text → Text
  | [] => []
  | c :: rest => curlChar before rest.head? c :: curl (some c) rest

def smarten (text : Text) : Text := curl none (ellipses text)

end SmartPunctuation

end MessageCatalog
