import MessageCatalog.Markdown.Inline
import MessageCatalog.Text.Blank
import MessageCatalog.Text.Punctuation

/-!
# Delimiters

Runs of asterisks, underscores and tildes and the straight quotes are
delimiters: whether they open something, close something or neither depends
on the characters beside them and on the other delimiters of the text.  The
first of these is settled here, character by character.
-/

namespace MessageCatalog

namespace Markdown

inductive Mark
  | asterisk
  | underscore
  | tilde
  deriving DecidableEq, Repr

namespace Mark

def ofChar? (c : Char) : Option Mark :=
  if c = '*' then some asterisk
  else if c = '_' then some underscore
  else if c = '~' then some tilde
  else none

def char : Mark → Char
  | asterisk => '*'
  | underscore => '_'
  | tilde => '~'

end Mark

inductive Quote
  | single
  | double
  deriving DecidableEq, Repr

structure Flanking where
  opens : Bool
  closes : Bool
  deriving DecidableEq, Repr

namespace Flanking

def both (flanking : Flanking) : Bool := flanking.opens && flanking.closes

/-- Whether a run may open between two characters, either of which may be
missing.  Asterisks and double tildes open inside words. -/
def runOpens (mark : Mark) (length : Nat) (before after : Option Char) : Bool :=
  match after with
  | none => false
  | some next =>
      if isBlank next then false
      else
        match before with
        | none => true
        | some previous =>
            (mark = .asterisk && !isPunctuation next)
              || (mark = .tilde && length > 1)
              || isBlank previous || isPunctuation previous

/-- Whether a run may close between two characters.  A single tilde behind a
literal one closes inside words too. -/
def runCloses (mark : Mark) (length : Nat) (before after : Option Char) : Bool :=
  match before with
  | none => false
  | some previous =>
      if isBlank previous then false
      else
        match after with
        | none => true
        | some next =>
            ((mark = .asterisk || (mark = .tilde && length > 1)) && !isPunctuation previous)
              || (mark = .tilde && previous = '~')
              || isBlank next || isPunctuation next

/-- What a run may do between two characters. -/
def ofRun (mark : Mark) (length : Nat) (before after : Option Char) : Flanking :=
  ⟨runOpens mark length before after, runCloses mark length before after⟩

/-- Whether a quote may open between two characters.  A single quote behind a
closing bracket is an apostrophe. -/
def quoteOpens (quote : Quote) (before after : Option Char) : Bool :=
  match after with
  | none => false
  | some next =>
      if isBlank next then false
      else
        match before with
        | none => true
        | some previous =>
            isBlank previous
              || (isPunctuation previous
                && (quote = .double || !(previous = ']' || previous = ')')))

/-- Whether a quote may close between two characters. -/
def quoteCloses (before after : Option Char) : Bool :=
  match before with
  | none => false
  | some previous =>
      if isBlank previous then false
      else
        match after with
        | none => true
        | some next => isBlank next || isPunctuation next

/-- What a quote may do between two characters. -/
def ofQuote (quote : Quote) (before after : Option Char) : Flanking :=
  ⟨quoteOpens quote before after, quoteCloses before after⟩

end Flanking

inductive Token
  | inline (element : Inline)
  | run (mark : Mark) (length : Nat) (flanking : Flanking)
  | quote (quote : Quote) (flanking : Flanking)
  deriving DecidableEq, Repr

namespace Token

def text (t : Text) : Token := .inline (.text t)

end Token

end Markdown

end MessageCatalog
