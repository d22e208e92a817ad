import MessageCatalog.Segment.Basic
import MessageCatalog.Placeholder.Specifier

/-!
# Reading the segments of a value

In a raw value a backslash makes the next character literal, and an open
brace starts a specifier that runs to the next closing brace or, failing
that, to the end.  Reading goes in two steps: the raw text becomes a list of
*marks*, one for each literal character and one for each specifier, and
neighbouring literal characters are then gathered into text segments, so
that no text segment is empty and no two of them are neighbours.
-/

namespace MessageCatalog

/-- What one stretch of a raw value stands for. -/
inductive Mark
  | literal (c : Char)
  | specifier (body : Text)
  deriving DecidableEq, Repr

namespace Mark

/-- The marks of a raw text.  The first argument holds, in reverse order, the
body of a specifier that is still open.  A backslash at the very end is
dropped. -/
def scan : Option Text → Text → List Mark
  | none, [] => []
  | some body, [] => [.specifier body.reverse]
  | some body, c :: rest =>
      if c = '}' then .specifier body.reverse :: scan none rest
      else scan (some (c :: body)) rest
  | none, c :: rest =>
      if c = '\\' then
        match rest with
        | [] => []
        | escaped :: rest => .literal escaped :: scan none rest
      else if c = '{' then scan (some []) rest
      else .literal c :: scan none rest

def ofText (raw : Text) : List Mark := scan none raw

def problems : Mark → List SpecifierProblem
  | .literal _ => []
  | .specifier body => (Specifier.read body).2

end Mark

namespace Segment

/-- Puts a literal character in front, joining it to a text that follows. -/
def consLiteral (c : Char) : List Segment → List Segment
  | .text t :: rest => .text (c :: t) :: rest
  | segments => .text [c] :: segments

/-- Gathers the literal characters between the specifiers. -/
def ofMarks : List Mark → List Segment
  | [] => []
  | .literal c :: rest => consLiteral c (ofMarks rest)
  | .specifier body :: rest => .placeholder (Specifier.read body).1 :: ofMarks rest

def ofText (raw : Text) : List Segment := ofMarks (Mark.ofText raw)

/-- The numbers in a raw value's specifiers that could not be read, in order. -/
def problemsOf (raw : Text) : List SpecifierProblem :=
  (Mark.ofText raw).flatMap Mark.problems

end Segment

end MessageCatalog
