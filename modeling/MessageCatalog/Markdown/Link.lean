import MessageCatalog.Markdown.CharacterReference
import MessageCatalog.Markdown.RawHtml

/-!
# Links

A link leads to a destination and may have a title.  Both stand in
parentheses behind the text of the link, or in a definition elsewhere in the
document, to which the link refers by a label.  Labels are compared without
regard to capitals of ASCII and to the amount of white space.

Every reader below gives what it read together with the text that follows.
-/

namespace MessageCatalog

namespace Markdown

structure Target where
  destination : Text
  title : Text
  deriving DecidableEq, Repr

/-- A label and what it stands for. -/
structure Definition where
  label : Text
  target : Target
  deriving DecidableEq, Repr

namespace Link

/-- Whether a backslash in front of this text makes the next character
literal. -/
def escapes (c : Char) (rest : Text) : Bool := c = '\\' && startsWith isAsciiPunctuation rest

def consRead (c : Char) : Option (Text × Text) → Option (Text × Text) :=
  Option.map fun read => (c :: read.1, read.2)

/-- The rest of a destination in angle brackets.  The flag says whether the
next character is literal. -/
def pointed? : Bool → Text → Option (Text × Text)
  | _, [] => none
  | true, c :: rest => consRead c (pointed? false rest)
  | false, c :: rest =>
      if c = '>' then some ([], rest)
      else if c = '<' ∨ c = '\n' ∨ c = '\r' then none
      else consRead c (pointed? (escapes c rest) rest)

/-- The deepest nesting of parentheses in a destination. -/
def maxNesting : Nat := 6

/-- The rest of a destination without brackets, inside the given number of
parentheses.  It ends at white space, at a control character or at the
parenthesis that closes the link. -/
def plain? : Nat → Bool → Text → Option (Text × Text)
  | nesting, _, [] => if nesting = 0 then some ([], []) else none
  | nesting, true, c :: rest => consRead c (plain? nesting false rest)
  | nesting, false, c :: rest =>
      if c.toNat ≤ 0x20 then if nesting = 0 then some ([], c :: rest) else none
      else if c = '(' then
        if nesting < maxNesting then consRead c (plain? (nesting + 1) false rest) else none
      else if c = ')' then
        match nesting with
        | 0 => some ([], c :: rest)
        | outer + 1 => consRead c (plain? outer false rest)
      else consRead c (plain? nesting (escapes c rest) rest)

/-- A destination as it is written. -/
def destination? (text : Text) : Option (Text × Text) :=
  if text.head? = some '<' then pointed? false text.tail else plain? 0 false text

/-- The rest of a title that ends with the given mark.  The flag says whether
the next character is literal. -/
def titleBody? (opening closing : Char) : Bool → Text → Option (Text × Text)
  | _, [] => none
  | true, c :: rest => consRead c (titleBody? opening closing false rest)
  | false, c :: rest =>
      if c = closing then some ([], rest)
      else if c = opening then none
      else consRead c (titleBody? opening closing (escapes c rest) rest)

/-- A title as it is written: between double quotes, single quotes or
parentheses. -/
def title? (text : Text) : Option (Text × Text) :=
  match text with
  | [] => none
  | c :: rest =>
      if c = '"' ∨ c = '\'' then titleBody? c c false rest
      else if c = '(' then titleBody? '(' ')' false rest
      else none

/-- What follows white space with at most one line break in it, and whether
there was one. -/
def skipSpace (text : Text) : Text × Bool :=
  let rest := text.dropWhile isLineSpace
  if rest.head? = some '\n' then (rest.tail.dropWhile isLineSpace, true) else (rest, false)

/-- The end of a link: white space and the closing parenthesis. -/
def close? (target : Target) (text : Text) : Option (Target × Text) :=
  let rest := (skipSpace text).1
  if rest.head? = some ')' then some (target, rest.tail) else none

/-- The target in parentheses behind the text of a link. -/
def target? (text : Text) : Option (Target × Text) :=
  if text.head? = some '(' then
    match destination? (skipSpace text.tail).1 with
    | none => none
    | some (destination, rest) =>
        match title? (skipSpace rest).1 with
        | some (title, rest) => close? ⟨unescape destination, unescape title⟩ rest
        | none => close? ⟨unescape destination, []⟩ rest
  else none

/-- The rest of a label behind its opening bracket, as it is written.  The
flag says whether the next character is literal. -/
def labelBody? : Bool → Text → Option (Text × Text)
  | _, [] => none
  | true, c :: rest => consRead c (labelBody? false rest)
  | false, c :: rest =>
      if c = ']' then some ([], rest)
      else if c = '[' then none
      else consRead c (labelBody? (c = '\\') rest)

/-- One space for each stretch of white space.  The flag says whether the text
before ended in white space. -/
def collapseSpace : Bool → Text → Text
  | _, [] => []
  | afterSpace, c :: rest =>
      if isAsciiSpace c then
        if afterSpace then collapseSpace true rest else ' ' :: collapseSpace true rest
      else c :: collapseSpace false rest

/-- The form in which labels are compared. -/
def normalLabel (label : Text) : Text :=
  Text.asciiLower (collapseSpace false (Text.dropAround isAsciiSpace label))

def maxLabelLength : Nat := 999

/-- A label behind its opening bracket.  It must not be blank. -/
def label? (text : Text) : Option (Text × Text) :=
  match labelBody? false text with
  | some (label, rest) =>
      if label.all isAsciiSpace ∨ maxLabelLength < label.length then none
      else some (normalLabel label, rest)
  | none => none

end Link

namespace Definition

/-- What follows the rest of a line, if the line is blank from here. -/
def endLine? (text : Text) : Option Text :=
  match text.dropWhile isLineSpace with
  | [] => some []
  | c :: rest => if c = '\n' then some rest else none

/-- The title of a definition, which ends its line.  Without one the
destination has to end the line. -/
def withTitle? (label destination text : Text) : Option (Definition × Text) :=
  let untitled := (endLine? text).map fun rest =>
    (⟨label, ⟨unescape destination, []⟩⟩, rest)
  if (Link.skipSpace text).1.length < text.length then
    match Link.title? (Link.skipSpace text).1 with
    | none => untitled
    | some (title, rest) =>
        match endLine? rest with
        | some rest => some (⟨label, ⟨unescape destination, unescape title⟩⟩, rest)
        | none => untitled
  else untitled

/-- A definition at the start of a paragraph. -/
def ofText? (text : Text) : Option (Definition × Text) :=
  if text.head? = some '[' then
    match Link.label? text.tail with
    | none => none
    | some (label, rest) =>
        if rest.head? = some ':' then
          let behind := (Link.skipSpace rest.tail).1
          match Link.destination? behind with
          | none => none
          | some (destination, rest) =>
              if rest.length < behind.length then withTitle? label destination rest else none
        else none
  else none

/-- All definitions at the start of a paragraph, and the rest of it. -/
def takeAll : Nat → Text → List Definition × Text
  | 0, text => ([], text)
  | fuel + 1, text =>
      match ofText? text with
      | none => ([], text)
      | some (definition, rest) =>
          (definition :: (takeAll fuel rest).1, (takeAll fuel rest).2)

/-- All definitions at the start of a paragraph, and the rest of it.  There
are fewer of them than characters. -/
def ofParagraph (text : Text) : List Definition × Text := takeAll text.length text

/-- The target of a label; the first definition of a label counts. -/
def lookup? (definitions : List Definition) (label : Text) : Option Target :=
  (definitions.find? fun definition => definition.label = label).map Definition.target

end Definition

end Markdown

end MessageCatalog
