import MessageCatalog.Segment.Basic

/-!
# Message format patterns

A message format pattern writes an argument as an index between braces,
possibly with a format behind the index.  Between two apostrophes braces are
literal, and two apostrophes in a row are a literal one.  A literal run of
braces is therefore put between apostrophes, and a literal apostrophe is
doubled, except that between two quoted runs, or in front of one that
follows an apostrophe, the quotes themselves already make up the pair.

The format of a number with decimals spells each of them out.  A pattern of more
decimals than a text has room for cannot be written at all: the program ends when
it comes to such a placeholder, and there is no pattern of the value.
-/

namespace MessageCatalog

namespace MessageFormat

/-- Whether a character has to be quoted. -/
def isBrace (c : Char) : Bool := c = '\x7b' || c = '\x7d'

/-- Puts every run of braces between apostrophes.  The flag says whether the
text before ended inside a run. -/
def quoteRuns : Bool → Text → Text
  | true, [] => ['\'']
  | false, [] => []
  | inside, c :: rest =>
      if isBrace c = inside then c :: quoteRuns inside rest
      else '\'' :: c :: quoteRuns (!inside) rest

/-- Appends the next part of a text that was cut at its apostrophes.  The
apostrophe between the parts is doubled, unless the quotes on its two sides
stand for it. -/
def appendPart (written part : Text) : Text :=
  if written.getLast? = some '\'' ∧ part.head? = some '\'' then written ++ part
  else written ++ ['\'', '\''] ++ part

def quote (text : Text) : Text :=
  match (Text.splitOn '\'' text).map (quoteRuns false) with
  | [] => []
  | first :: parts => parts.foldl appendPart first

/-- The format of an argument, with the commas in front. -/
def style? (placeholder : Placeholder) : Option Text :=
  match placeholder.dataType with
  | .integer => some ",number,integer".toList
  | .float =>
      match placeholder.decimalCount with
      | none => some ",number".toList
      | some 0 => some ",number,#".toList
      | some count => (Text.repeat? '#' count).map fun hashes => ",number,#.".toList ++ hashes
  | .object => some []
  | .string => some []

def argument? (rank : Nat) (placeholder : Placeholder) : Option Text :=
  (style? placeholder).map fun style =>
    '\x7b' :: Text.ofNat (placeholder.effectiveIndex rank) ++ style ++ ['\x7d']

def ofPiece? : Piece → Option Text
  | .text t => some (quote t)
  | .placeholder rank p => argument? rank p

def ofSegments? (segments : List Segment) : Option Text :=
  ((Piece.ofSegments 0 segments).mapM ofPiece?).map List.flatten

end MessageFormat

end MessageCatalog
