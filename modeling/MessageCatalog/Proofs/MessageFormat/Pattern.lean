import MessageCatalog.Output.MessageFormat

/-!
# Reading message format patterns

The reader of a pattern goes from left to right and remembers whether quoting
is on.  Two apostrophes in a row are a literal one wherever they stand, a lone
apostrophe switches quoting, and an open brace outside quotes begins an
argument that runs to the next closing brace.  A pattern that ends inside
quotes or inside an argument is refused.
-/

namespace MessageCatalog

namespace MessageFormat

/-- What a stretch of a pattern stands for. -/
inductive PatternPart
  | literal (c : Char)
  | argument (body : Text)
  deriving DecidableEq, Repr

/-- Where the reader of a pattern stands: in literal text, or in an argument
whose body so far is held in reverse order. -/
inductive ReaderState
  | text (quoted : Bool)
  | argument (body : Text)

def readFrom : ReaderState → Text → Option (List PatternPart)
  | .text quoted, [] => if quoted then none else some []
  | .argument _, [] => none
  | .argument body, c :: rest =>
      if c = '\x7d' then (readFrom (.text false) rest).map (.argument body.reverse :: ·)
      else readFrom (.argument (c :: body)) rest
  | .text quoted, '\'' :: '\'' :: rest =>
      (readFrom (.text quoted) rest).map (.literal '\'' :: ·)
  | .text quoted, c :: rest =>
      if c = '\'' then readFrom (.text !quoted) rest
      else if c = '\x7b' ∧ quoted = false then readFrom (.argument []) rest
      else (readFrom (.text quoted) rest).map (.literal c :: ·)

/-- The parts of a pattern. -/
def read? (pattern : Text) : Option (List PatternPart) := readFrom (.text false) pattern

@[simp] theorem readFrom_pair (quoted : Bool) (rest : Text) :
    readFrom (.text quoted) ('\'' :: '\'' :: rest) =
      (readFrom (.text quoted) rest).map (.literal '\'' :: ·) := by
  simp [readFrom]

theorem readFrom_toggle (quoted : Bool) {rest : Text}
    (hrest : rest.head? ≠ some '\'') :
    readFrom (.text quoted) ('\'' :: rest) = readFrom (.text !quoted) rest := by
  rw [readFrom]
  · simp
  · rintro rest' - rfl
    simp at hrest

/-- A character that is no apostrophe stands for itself, an open brace only
inside quotes. -/
theorem readFrom_literal (quoted : Bool) {c : Char} (rest : Text)
    (hc : c ≠ '\'') (hquoted : quoted = false → isBrace c = false) :
    readFrom (.text quoted) (c :: rest) =
      (readFrom (.text quoted) rest).map (.literal c :: ·) := by
  have hopen : ¬ (c = '\x7b' ∧ quoted = false) := by
    rintro ⟨rfl, hq⟩
    exact absurd (hquoted hq) (by decide)
  rw [readFrom]
  · simp [hc, hopen]
  · rintro rest' rfl
    exact absurd rfl hc

end MessageFormat

end MessageCatalog
