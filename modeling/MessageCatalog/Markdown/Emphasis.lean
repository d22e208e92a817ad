import MessageCatalog.Markdown.Token

/-!
# Pairing of delimiters

Quotes are paired first, each kind on its own: a closing quote belongs to the
last one of its kind that opened.  Delimiter runs are paired from left to
right: a run that may close looks for the nearest open run of its mark that
fits, and the two become as many pairs of tags as both have marks for, two
marks making a strong pair.  Marks that find no partner stay literal.
-/

namespace MessageCatalog

namespace Markdown

namespace Token

/-- Whether the next single quote that may do anything may close. -/
def nextSingleCloses : List Token → Bool
  | [] => false
  | .quote .single flanking :: rest =>
      flanking.closes || (!flanking.opens && nextSingleCloses rest)
  | _ :: rest => nextSingleCloses rest

/-- Curls the quotes.  The flags say whether a single and a double quote are
open.  A single quote that is never closed is an apostrophe. -/
def curlQuotes : Bool → Bool → List Token → List Token
  | _, _, [] => []
  | single, double, .quote .single flanking :: rest =>
      if single && flanking.closes then text ['’'] :: curlQuotes false double rest
      else if flanking.opens then
        text [if nextSingleCloses rest then '‘' else '’'] :: curlQuotes true double rest
      else text ['’'] :: curlQuotes single double rest
  | single, double, .quote .double flanking :: rest =>
      if double && flanking.closes then text ['”'] :: curlQuotes single false rest
      else text ['“'] :: curlQuotes single (double || flanking.opens) rest
  | single, double, token :: rest => token :: curlQuotes single double rest

end Token

/-- A run that may still be closed. -/
structure OpenRun where
  mark : Mark
  /-- The number of marks that the run had at first. -/
  length : Nat
  /-- The number of marks that are still open. -/
  left : Nat
  /-- Whether the run could have closed something as well. -/
  both : Bool
  /-- Whether tildes have been met that should have closed the run and did
  not fit. -/
  isAbandoned : Bool
  /-- The elements behind the run, the last one first. -/
  content : List Inline
  deriving DecidableEq, Repr

namespace OpenRun

def literal (mark : Mark) (length : Nat) : Inline := .text (List.replicate length mark.char)

/-- Whether a closing run of a mark fits to an open one.  Tildes fit if there
are equally many.  If one of two runs can both open and close, the lengths
that they had at first must not add up to a multiple of three, unless both are
such multiples. -/
def fits (mark : Mark) (length : Nat) (both : Bool) (candidate : OpenRun) : Bool :=
  candidate.mark = mark && !candidate.isAbandoned
    && (mark != .tilde || candidate.length = length)
    && ((!both && !candidate.both) || (length + candidate.length) % 3 != 0 || length % 3 = 0)

def abandonTildes (run : OpenRun) : OpenRun :=
  if run.mark = .tilde then { run with isAbandoned := true } else run

/-- The spans of a pair that shares a number of marks, the outermost first. -/
def spans (mark : Mark) (shared : Nat) : List Span :=
  match mark with
  | .tilde => [.strikethrough]
  | _ => List.replicate (shared % 2) .emphasis ++ List.replicate (shared / 2) .strong

/-- The content of a run between its tags, the last element first. -/
def enclose (mark : Mark) (shared : Nat) (content : List Inline) : List Inline :=
  (spans mark shared).map .closing ++ content ++ ((spans mark shared).map .opening).reverse

end OpenRun

/-- A stretch of running text during pairing: the elements before the first
open run, the last one first, and the open runs, the last one first. -/
structure Pairing where
  before : List Inline
  runs : List OpenRun
  deriving DecidableEq, Repr

namespace Pairing

def append (elements : List Inline) : Pairing → Pairing
  | ⟨before, []⟩ => ⟨elements ++ before, []⟩
  | ⟨before, last :: rest⟩ =>
      ⟨before, { last with content := elements ++ last.content } :: rest⟩

def giveUpLast : Pairing → Pairing
  | ⟨before, []⟩ => ⟨before, []⟩
  | ⟨before, last :: rest⟩ =>
      append (last.content ++ [OpenRun.literal last.mark last.left]) ⟨before, rest⟩

def giveUp : Nat → Pairing → Pairing
  | 0, pairing => pairing
  | n + 1, pairing => giveUp n pairing.giveUpLast

/-- Pairs the last open run with the marks that are left of a closing one. -/
def pairLast (left : Nat) : Pairing → Pairing
  | ⟨before, []⟩ => ⟨before, []⟩
  | ⟨before, last :: rest⟩ =>
      let shared := min left last.left
      let enclosed := OpenRun.enclose last.mark shared last.content
      if shared < last.left then
        ⟨before, { last with left := last.left - shared, content := enclosed } :: rest⟩
      else append enclosed ⟨before, rest⟩

/-- Pairs a closing run as often as possible and gives the number of its marks
that are left.  Every pair uses up at least one of them. -/
def close (mark : Mark) (length : Nat) (both : Bool) :
    Nat → Nat → Pairing → Nat × Pairing
  | 0, left, pairing => (left, pairing)
  | fuel + 1, left, pairing =>
      match pairing.runs.findIdx? (OpenRun.fits mark length both) with
      | none => (left, pairing)
      | some index =>
          let nearest := pairing.giveUp index
          match nearest.runs with
          | [] => (left, nearest)
          | last :: _ =>
              if left ≤ last.left then (0, nearest.pairLast left)
              else close mark length both fuel (left - last.left) (nearest.pairLast left)

/-- Abandons the tildes in front of a run of tildes that closes nothing. -/
def abandonTildes (pairing : Pairing) : Pairing :=
  { pairing with runs := pairing.runs.map OpenRun.abandonTildes }

/-- The closing part of a run. -/
def closeRun (mark : Mark) (length : Nat) (flanking : Flanking) (pairing : Pairing) :
    Nat × Pairing :=
  if flanking.closes then
    let closed := close mark length flanking.both length length pairing
    if mark = .tilde ∧ closed.1 ≠ 0 then (closed.1, closed.2.abandonTildes) else closed
  else (length, pairing)

/-- The opening part of a run, of which marks may be left. -/
def openRun (mark : Mark) (length : Nat) (flanking : Flanking) (left : Nat)
    (pairing : Pairing) : Pairing :=
  if left = 0 then pairing
  else if flanking.opens then
    { pairing with runs := ⟨mark, length, left, flanking.both, false, []⟩ :: pairing.runs }
  else pairing.append [OpenRun.literal mark left]

def step (pairing : Pairing) : Token → Pairing
  | .inline element => pairing.append [element]
  | .run mark length flanking =>
      let closed := closeRun mark length flanking pairing
      openRun mark length flanking closed.1 closed.2
  | .quote .single _ => pairing.append [.text ['\'']]
  | .quote .double _ => pairing.append [.text ['"']]

/-- The elements, after the runs that are still open have been given up. -/
def finish (pairing : Pairing) : List Inline :=
  (pairing.giveUp pairing.runs.length).before.reverse

end Pairing

namespace Inline

def ofTokens (tokens : List Token) : List Inline :=
  ((Token.curlQuotes false false tokens).foldl Pairing.step ⟨[], []⟩).finish

end Inline

end Markdown

end MessageCatalog
