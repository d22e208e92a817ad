import MessageCatalog.Placeholder.Basic

/-!
# Segments of a value

A localized value is a list of segments, each of them literal text or a
placeholder.  Output formats walk over the *pieces* of a value: its segments
with every placeholder numbered by its rank, text not counting.
-/

namespace MessageCatalog

inductive Segment
  | text (text : Text)
  | placeholder (placeholder : Placeholder)
  deriving DecidableEq, Repr

/-- A segment as an output format sees it. -/
inductive Piece
  | text (text : Text)
  | placeholder (rank : Nat) (placeholder : Placeholder)
  deriving DecidableEq, Repr

namespace Piece

/-- The pieces of a list of segments, the placeholders numbered from `rank`. -/
def ofSegments (rank : Nat) : List Segment → List Piece
  | [] => []
  | .text t :: rest => .text t :: ofSegments rank rest
  | .placeholder p :: rest => .placeholder rank p :: ofSegments (rank + 1) rest

@[simp] theorem ofSegments_nil (rank : Nat) : ofSegments rank [] = [] := rfl

@[simp] theorem ofSegments_text (rank : Nat) (t : Text) (rest : List Segment) :
    ofSegments rank (.text t :: rest) = .text t :: ofSegments rank rest := rfl

@[simp] theorem ofSegments_placeholder
    (rank : Nat) (p : Placeholder) (rest : List Segment) :
    ofSegments rank (.placeholder p :: rest) =
      .placeholder rank p :: ofSegments (rank + 1) rest := rfl

/-- A placeholder with its rank; literal text has none. -/
def numbered? : Piece → Option (Nat × Placeholder)
  | .text _ => none
  | .placeholder rank p => some (rank, p)

end Piece

end MessageCatalog
