import MessageCatalog.Markdown.Autolink
import MessageCatalog.Markdown.Emphasis
import MessageCatalog.Markdown.Link

/-!
# Reading running text

Running text is read from left to right.  Code, autolinks, HTML, escapes and
references are recognised at once; delimiters become tokens that are paired
later; and brackets are kept open until the closing bracket shows whether
they belong to a link or an image.  The text of a link is a stretch of its
own, whose delimiters are paired when the link is complete.
-/

namespace MessageCatalog

namespace Markdown

/-- An opening bracket that may belong to a link or an image. -/
structure Bracket where
  isImage : Bool
  /-- A link cannot contain another one, so a bracket in front of a link
  begins none. -/
  isActive : Bool
  /-- The tokens before the bracket, the last one first. -/
  before : List Token
  /-- The text behind the bracket. -/
  behind : Text
  deriving DecidableEq, Repr

namespace Bracket

def literal (bracket : Bracket) : Token :=
  .text (if bracket.isImage then "![".toList else "[".toList)

/-- The bracket once a link has been completed behind it. -/
def behindLink (bracket : Bracket) : Bracket :=
  if bracket.isImage then bracket else { bracket with isActive := false }

end Bracket

structure InlineReader where
  /-- The tokens behind the last open bracket, the last one first. -/
  tokens : List Token
  /-- The open brackets, the last one first. -/
  brackets : List Bracket
  deriving DecidableEq, Repr

namespace InlineReader

def start : InlineReader := ⟨[], []⟩

def token (reader : InlineReader) (token : Token) : InlineReader :=
  { reader with tokens := token :: reader.tokens }

def text (reader : InlineReader) (t : Text) : InlineReader := reader.token (.text t)

def openBracket (reader : InlineReader) (isImage : Bool) (behind : Text) : InlineReader :=
  ⟨[], ⟨isImage, true, reader.tokens, behind⟩ :: reader.brackets⟩

def giveUpBracket (reader : InlineReader) : InlineReader :=
  match reader.brackets with
  | [] => reader
  | bracket :: outer => ⟨reader.tokens ++ bracket.literal :: bracket.before, outer⟩

def complete (reader : InlineReader) (bracket : Bracket) (outer : List Bracket)
    (target : Target) : InlineReader :=
  let content := Inline.ofTokens reader.tokens.reverse
  if bracket.isImage then
    ⟨.inline (.image target.destination target.title (content.flatMap Inline.plainText))
      :: bracket.before, outer⟩
  else
    let span := Span.link target.destination target.title
    ⟨(.inline (.closing span) :: (content.map Token.inline).reverse)
      ++ .inline (.opening span) :: bracket.before, outer.map Bracket.behindLink⟩

/-- All tokens, once the open brackets have been made literal. -/
def finish (reader : InlineReader) : List Token :=
  (reader.brackets.foldl (fun reader _ => reader.giveUpBracket) reader).tokens.reverse

end InlineReader

namespace Inline

/-- The target of a label that is written as the text of the link. -/
def shortcut? (definitions : List Definition) (label : Text) : Option Target :=
  match Link.label? (label ++ [']']) with
  | some (label, []) => Definition.lookup? definitions label
  | _ => none

/-- The target of a link with the given text, and what follows the link, given
what follows the closing bracket. -/
def target? (definitions : List Definition) (label rest : Text) : Option (Target × Text) :=
  match Link.target? rest with
  | some read => some read
  | none =>
      if "[]".toList.isPrefixOf rest then
        (shortcut? definitions label).map fun target => (target, rest.drop 2)
      else
        let reference := if rest.head? = some '[' then Link.label? rest.tail else none
        match reference with
        | some (label, after) =>
            (Definition.lookup? definitions label).map fun target => (target, after)
        | none => (shortcut? definitions label).map fun target => (target, rest)

/-- Reads a closing bracket.  What follows it may belong to it; the number says
how many characters do. -/
def closeBracket (definitions : List Definition) (reader : InlineReader) (rest : Text) :
    InlineReader × Nat :=
  match reader.brackets with
  | [] => (reader.text [']'], 0)
  | bracket :: outer =>
      let label := bracket.behind.take (consumed bracket.behind rest - 1)
      let found := if bracket.isActive then target? definitions label rest else none
      match found with
      | some (target, after) => (reader.complete bracket outer target, consumed rest after)
      | none => (reader.giveUpBracket.text [']'], 0)

/-- The content of a code span and its end, which is a run of exactly `length`
backticks, and what follows.  The second number is the length of the run of
backticks right before the text. -/
def codeSpan? (length : Nat) : Nat → Text → Option (Text × Text)
  | run, [] => if run = length then some ([], []) else none
  | run, c :: rest =>
      if c = '`' then Link.consRead c (codeSpan? length (run + 1) rest)
      else if run = length then some ([], c :: rest)
      else Link.consRead c (codeSpan? length 0 rest)

/-- The content of a code span: line breaks become spaces, and one space is
taken from each end if there is something between them. -/
def codeContent (raw : Text) : Text :=
  let spaced := raw.map fun c => if c = '\n' then ' ' else c
  if raw.all (· = ' ') then raw
  else if spaced.head? = some ' ' ∧ spaced.getLast? = some ' ' then spaced.tail.dropLast
  else spaced

/-- A run of hyphens as dashes: as many em dashes as possible if the length is
a multiple of three, en dashes if it is even, and em dashes with one or two en
dashes behind them otherwise. -/
def dashes (length : Nat) : Text :=
  if length = 1 then ['-']
  else if length % 3 = 0 then List.replicate (length / 3) '—'
  else if length % 2 = 0 then List.replicate (length / 2) '–'
  else if length % 3 = 1 then List.replicate (length / 3 - 1) '—' ++ ['–', '–']
  else List.replicate (length / 3) '—' ++ ['–']

/-- Reads a stretch of white space.  In front of a line break it belongs to the
break, and two characters of it make the break hard. -/
def space (reader : InlineReader) (c : Char) (rest : Text) : InlineReader × Nat :=
  let more := rest.takeWhile isLineSpace
  if (rest.drop more.length).head? = some '\n' then
    (reader.token (.inline (if more.isEmpty then .softBreak else .hardBreak)), more.length + 1)
  else (reader.text [c], 0)

def backslash (reader : InlineReader) (rest : Text) : InlineReader × Nat :=
  if rest.head? = some '\n' then (reader.token (.inline .hardBreak), 1)
  else if startsWith isAsciiPunctuation rest then (reader.text (rest.take 1), 1)
  else (reader.text ['\\'], 0)

def backticks (reader : InlineReader) (rest : Text) : InlineReader × Nat :=
  let more := (rest.takeWhile (· = '`')).length
  match codeSpan? (more + 1) 0 (rest.drop more) with
  | some (raw, after) =>
      (reader.token (.inline (.code (codeContent (raw.take (raw.length - (more + 1)))))),
        consumed rest after)
  | none => (reader.text (List.replicate (more + 1) '`'), more)

def angle (reader : InlineReader) (rest : Text) : InlineReader × Nat :=
  match Autolink.read? rest with
  | some (destination, t, after) =>
      let span := Span.link destination []
      (((reader.token (.inline (.opening span))).text t).token (.inline (.closing span)),
        consumed rest after)
  | none =>
      match RawHtml.after? rest with
      | some after =>
          (reader.token (.inline (.html ('<' :: rest.take (consumed rest after)))),
            consumed rest after)
      | none => (reader.text ['<'], 0)

def ampersand (reader : InlineReader) (rest : Text) : InlineReader × Nat :=
  match characterReference? rest with
  | some (value, after) => (reader.text value, consumed rest after)
  | none => (reader.text ['&'], 0)

/-- Reads a delimiter run.  Three tildes and more delimit nothing. -/
def run (reader : InlineReader) (before : Option Char) (mark : Mark) (rest : Text) :
    InlineReader × Nat :=
  let more := (rest.takeWhile (· = mark.char)).length
  let after := (rest.drop more).head?
  if mark = .tilde ∧ 1 < more then (reader.token (.inline (OpenRun.literal mark (more + 1))), more)
  else (reader.token (.run mark (more + 1) (.ofRun mark (more + 1) before after)), more)

/-- Reads one character that is neither a bracket nor part of a delimiter
run. -/
def other (reader : InlineReader) (before : Option Char) (c : Char) (rest : Text) :
    InlineReader × Nat :=
  if c = '\n' then (reader.token (.inline .softBreak), 0)
  else if isLineSpace c then space reader c rest
  else if c = '\\' then backslash reader rest
  else if c = '`' then backticks reader rest
  else if c = '<' then angle reader rest
  else if c = '&' then ampersand reader rest
  else if c = '.' ∧ "..".toList.isPrefixOf rest then (reader.text ['…'], 2)
  else if c = '-' then
    let more := (rest.takeWhile (· = '-')).length
    (reader.text (dashes (more + 1)), more)
  else if c = '\'' then (reader.token (.quote .single (.ofQuote .single before rest.head?)), 0)
  else if c = '"' then (reader.token (.quote .double (.ofQuote .double before rest.head?)), 0)
  else (reader.text [c], 0)

/-- Reads one character and gives the number of those behind it that have been
read too. -/
def step (definitions : List Definition) (reader : InlineReader) (before : Option Char)
    (c : Char) (rest : Text) : InlineReader × Nat :=
  if c = '[' then (reader.openBracket false rest, 0)
  else if c = '!' ∧ rest.head? = some '[' then (reader.openBracket true rest.tail, 1)
  else if c = ']' then closeBracket definitions reader rest
  else
    match Mark.ofChar? c with
    | some mark => run reader before mark rest
    | none => other reader before c rest

/-- Reads running text behind a character.  The number says how many
characters have been read already. -/
def readFrom (definitions : List Definition) :
    Nat → Option Char → InlineReader → Text → InlineReader
  | _, _, reader, [] => reader
  | skip + 1, _, reader, c :: rest => readFrom definitions skip (some c) reader rest
  | 0, before, reader, c :: rest =>
      let read := step definitions reader before c rest
      readFrom definitions read.2 (some c) read.1 rest

def ofText (definitions : List Definition) (text : Text) : List Inline :=
  ofTokens (readFrom definitions 0 none .start text).finish

end Inline

end Markdown

end MessageCatalog
