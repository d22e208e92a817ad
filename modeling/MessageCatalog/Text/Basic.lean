/-!
# Text

Every piece of text in a catalog is the list of its characters.  This file
holds the cutting and joining that the document format, the output formats
and the command line share: splitting at a separator, dropping characters
from the two ends, and lower-casing of the ASCII letters.
-/

namespace MessageCatalog

/-- A piece of text: its characters, in order. -/
abbrev Text := List Char

namespace Text

def dropTrailing (drop : Char → Bool) (text : Text) : Text :=
  (text.reverse.dropWhile drop).reverse

def dropAround (drop : Char → Bool) (text : Text) : Text :=
  dropTrailing drop (text.dropWhile drop)

@[simp] theorem dropTrailing_nil (drop : Char → Bool) :
    dropTrailing drop [] = [] := rfl

@[simp] theorem dropAround_nil (drop : Char → Bool) :
    dropAround drop [] = [] := rfl

def consHead (c : Char) : List Text → List Text
  | [] => [[c]]
  | piece :: pieces => (c :: piece) :: pieces

/-- The pieces between the separators; a text with `n` separators has `n + 1`
pieces, some of them possibly empty. -/
def splitOn (separator : Char) : Text → List Text
  | [] => [[]]
  | c :: rest =>
      if c = separator then [] :: splitOn separator rest
      else consHead c (splitOn separator rest)

@[simp] theorem splitOn_nil (separator : Char) :
    splitOn separator [] = [[]] := rfl

/-- What stands before and after the first separator, if there is one. -/
def splitFirst? (separator : Char) : Text → Option (Text × Text)
  | [] => none
  | c :: rest =>
      if c = separator then some ([], rest)
      else (splitFirst? separator rest).map fun parts => (c :: parts.1, parts.2)

@[simp] theorem splitFirst?_nil (separator : Char) :
    splitFirst? separator [] = none := rfl

/-- The pieces with `separator` between each two neighbours. -/
def join (separator : Text) : List Text → Text
  | [] => []
  | [piece] => piece
  | piece :: next :: rest => piece ++ separator ++ join separator (next :: rest)

@[simp] theorem join_nil (separator : Text) : join separator [] = [] := rfl

@[simp] theorem join_singleton (separator piece : Text) :
    join separator [piece] = piece := rfl

@[simp] theorem join_cons_cons (separator piece next : Text) (rest : List Text) :
    join separator (piece :: next :: rest) =
      piece ++ separator ++ join separator (next :: rest) := rfl

def asciiLower (text : Text) : Text := text.map Char.toLower

/-- The decimal digits of a number, without leading zeros. -/
def ofNat (n : Nat) : Text := Nat.toDigits 10 n

/-- Every character replaced by the text that `escape` gives for it. -/
def escapeWith (escape : Char → Text) (text : Text) : Text := text.flatMap escape

@[simp] theorem escapeWith_nil (escape : Char → Text) : escapeWith escape [] = [] := rfl

@[simp] theorem escapeWith_cons (escape : Char → Text) (c : Char) (rest : Text) :
    escapeWith escape (c :: rest) = escape c ++ escapeWith escape rest := by
  simp [escapeWith]

@[simp] theorem escapeWith_append (escape : Char → Text) (left right : Text) :
    escapeWith escape (left ++ right) =
      escapeWith escape left ++ escapeWith escape right := by
  simp [escapeWith]

/-- The most bytes that one text can take, one less than the 63rd power of two. -/
def maxLength : Nat := 9223372036854775807

/-- An ASCII character a number of times.  To ask for more than a text can take ends
the program. -/
def repeat? (c : Char) (count : Nat) : Option Text :=
  if count ≤ maxLength then some (List.replicate count c) else none

theorem repeat?_eq_none_iff {c : Char} {count : Nat} :
    repeat? c count = none ↔ maxLength < count := by
  simp [repeat?]

theorem repeat?_eq_some_iff {c : Char} {count : Nat} {text : Text} :
    repeat? c count = some text ↔ count ≤ maxLength ∧ text = List.replicate count c := by
  simp [repeat?, eq_comm]

end Text

end MessageCatalog
