import MessageCatalog.Markdown.Block
import MessageCatalog.Markdown.Block.Start

/-!
# Reading blocks

A document is read line by line.  The open quotes and list items each claim
the start of a line; what is left continues the open leaf or begins new
blocks.  A line may continue a paragraph although it lacks the marks of the
blocks around the paragraph, as long as it could begin nothing else.
-/

namespace MessageCatalog

namespace Markdown

/-- A block that may still get further blocks.  The last of its blocks comes
first. -/
inductive Frame
  | quote (blocks : List Block)
  | list (marker : ListMarker) (isTight : Bool) (items : List (List Block))
  /-- An item, whose lines are indented by some columns. -/
  | item (indent : Nat) (blocks : List Block)

namespace Frame

/-- The place behind the part of a line that a frame claims, if the line
belongs to the frame.  Blank lines belong to items. -/
def claim? (frame : Frame) (cursor : Cursor) : Option Cursor :=
  match frame with
  | quote _ =>
      let behind := (cursor.passUpTo 3).2
      if behind.rest.head? = some '>' then some (behind.passChar.passUpTo 1).2 else none
  | list _ _ _ => some cursor
  | item indent _ =>
      let passed := cursor.passUpTo indent
      if passed.1 = indent ∨ passed.2.rest.isEmpty then some passed.2 else none

/-- How many of the frames, from the outermost on, a line belongs to, and the
place behind what they claim. -/
def claimAll : List Frame → Cursor → Nat × Cursor
  | [], cursor => (0, cursor)
  | frame :: rest, cursor =>
      match frame.claim? cursor with
      | none => (0, cursor)
      | some behind => ((claimAll rest behind).1 + 1, (claimAll rest behind).2)

def add (block : Block) : Frame → Frame
  | quote blocks => quote (block :: blocks)
  | list marker isTight items => list marker isTight ([block] :: items)
  | item indent blocks => item indent (block :: blocks)

def loosen : Frame → Frame
  | list marker _ items => list marker false items
  | other => other

end Frame

/-- A block of text that may still get further lines.  The last of its lines
comes first. -/
inductive Leaf
  | paragraph (lines : List Text)
  /-- Literal text between fences, which are indented by some columns. -/
  | fenced (fence : Fence) (indent : Nat) (lines : List Text)
  | indented (lines : List Text)
  | html (blockEnd : RawHtml.BlockEnd) (lines : List Text)

namespace Leaf

/-- The lines of literal text. -/
def literal (lines : List Text) : Text := lines.reverse.flatten

/-- The definitions at the start of a paragraph and the rest of it. -/
def paragraphContent (lines : List Text) : List Definition × Text :=
  Definition.ofParagraph
    (Text.dropTrailing isLineSpace (Text.join ['\n'] lines.reverse))

/-- Whether a line of literal text is blank. -/
def isBlank (line : Text) : Bool := line.all isAsciiSpace

/-- What a leaf amounts to. -/
def content : Leaf → List Definition × Option Block
  | paragraph lines =>
      let content := paragraphContent lines
      (content.1, if content.2.isEmpty then none else some (.paragraph content.2))
  | fenced fence _ lines =>
      ([], some (.code ((unescape fence.info).takeWhile (· ≠ ' ')) (literal lines)))
  | indented lines => ([], some (.code [] (literal (lines.dropWhile isBlank))))
  | html _ lines => ([], some (.html (literal lines)))

end Leaf

structure BlockReader where
  /-- The closed blocks outside all frames, the last one first. -/
  blocks : List Block
  /-- The open frames, the innermost first. -/
  frames : List Frame
  leaf : Option Leaf
  definitions : List Definition
  /-- Whether a blank line came before that may make a list loose. -/
  afterBlank : Bool
  /-- Whether the line before began an item and said nothing else. -/
  inEmptyItem : Bool

namespace BlockReader

def start : BlockReader := ⟨[], [], none, [], false, false⟩

def add (reader : BlockReader) (block : Block) : BlockReader :=
  match reader.frames with
  | [] => { reader with blocks := block :: reader.blocks }
  | frame :: outer => { reader with frames := frame.add block :: outer }

def closeLeaf (reader : BlockReader) : BlockReader :=
  match reader.leaf with
  | none => reader
  | some leaf =>
      let closed := { reader with
        leaf := none
        definitions := reader.definitions ++ leaf.content.1 }
      match leaf.content.2 with
      | none => closed
      | some block => closed.add block

def closeFrame (reader : BlockReader) : BlockReader :=
  match reader.frames with
  | [] => reader
  | .quote blocks :: outer => { reader with frames := outer }.add (.quote blocks.reverse)
  | .list marker isTight items :: outer =>
      { reader with frames := outer }.add (.list marker.start isTight items.reverse)
  | .item _ blocks :: .list marker isTight items :: outer =>
      { reader with frames := .list marker isTight (blocks.reverse :: items) :: outer }
  | .item _ _ :: outer => { reader with frames := outer }

def closeFrames : Nat → BlockReader → BlockReader
  | 0, reader => reader
  | n + 1, reader => closeFrames n reader.closeFrame

def openFrame (reader : BlockReader) (frame : Frame) : BlockReader :=
  { reader with frames := frame :: reader.frames }

/-- Closes a list whose items are all closed.  A blank line in front of a
further block of an item makes the list of the item loose. -/
def finishList (reader : BlockReader) : BlockReader :=
  let finished :=
    match reader.frames with
    | .list _ _ _ :: _ => reader.closeFrame
    | _ => reader
  if finished.afterBlank then
    match finished.frames with
    | inner :: parent :: outer =>
        { finished with frames := inner :: parent.loosen :: outer, afterBlank := false }
    | _ => { finished with afterBlank := false }
  else finished

def newList (reader : BlockReader) (marker : ListMarker) : BlockReader :=
  { reader.finishList.openFrame (.list marker true []) with afterBlank := false }

/-- Continues a list with an item, or begins one.  A blank line between two items
makes their list loose. -/
def continueList (reader : BlockReader) (marker : ListMarker) : BlockReader :=
  match reader.frames with
  | .list first isTight items :: outer =>
      if first.delimiter = marker.delimiter then
        { reader with
          frames := .list first (isTight && !reader.afterBlank) items :: outer
          afterBlank := false }
      else reader.newList marker
  | _ => reader.newList marker

/-- Opens the item of a marker, given the columns up to the place behind the
marker.  Up to four columns of white space behind it belong to the indentation
of the item; more of them make its first line literal. -/
def openItem (reader : BlockReader) (marker : ListMarker) (indent : Nat) (behind : Cursor) :
    BlockReader × Cursor :=
  let more := behind.passUpTo 4
  if behind.isBlank ∨ more.1 = 4 then
    ((reader.continueList marker).openFrame (.item indent []), behind)
  else ((reader.continueList marker).openFrame (.item (indent + more.1) []), more.2)

/-- Opens the quotes and items that begin on a line.  Each of them takes at
least one character of it.  The flag says whether the line ends with an empty
item. -/
def openFrames : Nat → BlockReader → Cursor → BlockReader × Cursor × Bool
  | 0, reader, cursor => (reader, cursor, false)
  | fuel + 1, reader, cursor =>
      let outer := cursor.passUpTo 4
      if outer.1 = 4 then (reader, cursor, false)
      else
        match BlockStart.item? outer.2 with
        | some (marker, length, behind) =>
            let opened := reader.openItem marker (outer.1 + length + 1) behind
            if behind.isBlank then (opened.1, opened.2, true)
            else openFrames fuel opened.1 opened.2
        | none =>
            if outer.2.rest.head? = some '>' then
              openFrames fuel (reader.finishList.openFrame (.quote []))
                (outer.2.passChar.passUpTo 1).2
            else (reader, cursor, false)

/-- Takes up a blank line outside leaves.  An item that began with a blank line
ends with a second one. -/
def blankLine (reader : BlockReader) : BlockReader :=
  match reader.frames with
  | .quote _ :: _ => { reader with inEmptyItem := false }
  | .item _ _ :: _ =>
      let closed := if reader.inEmptyItem then reader.closeFrame else reader
      { closed with afterBlank := true, inEmptyItem := false }
  | _ => { reader with afterBlank := true, inEmptyItem := false }

def contains (mark line : Text) : Bool := (RawHtml.afterMark? mark line).isSome

/-- Appends a line of HTML, which may be the last one. -/
def htmlLine (reader : BlockReader) (blockEnd : RawHtml.BlockEnd) (lines : List Text)
    (line : Text) : BlockReader :=
  let extended := { reader with leaf := some (.html blockEnd (line :: lines)) }
  match blockEnd with
  | .mark mark => if contains mark line then extended.closeLeaf else extended
  | .blankLine => extended

/-- Begins a leaf. -/
def openLeaf (reader : BlockReader) (cursor : Cursor) (ending : Text) : BlockReader :=
  let ready := { reader.finishList with inEmptyItem := false }
  let indented := cursor.passUpTo 4
  let text := indented.2.rest
  if indented.1 = 4 then
    { ready with leaf := some (.indented [indented.2.literal ++ ending]) }
  else
    match BlockStart.html? text with
    | some blockEnd =>
        ready.htmlLine blockEnd []
          (List.replicate (max cursor.pending indented.1) ' ' ++ text ++ ending)
    | none =>
        if BlockStart.isRule text then ready.add .rule
        else
          match BlockStart.heading? text with
          | some (level, title) => ready.add (.heading level title)
          | none =>
              match BlockStart.fence? text with
              | some fence => { ready with leaf := some (.fenced fence indented.1 []) }
              | none => { ready with leaf := some (.paragraph [text]) }

/-- Takes up a line that does not continue the leaf, and that belongs to the
outermost `depth` frames. -/
def newLine (reader : BlockReader) (depth : Nat) (cursor : Cursor) (ending : Text) :
    BlockReader :=
  let closed := reader.closeLeaf
  let kept := closed.closeFrames (closed.frames.length - depth)
  match openFrames (cursor.rest.length + 1) kept cursor with
  | (opened, _, true) => { opened with inEmptyItem := true }
  | (opened, behind, false) =>
      if behind.isBlank then opened.blankLine else opened.openLeaf behind ending

/-- Makes a paragraph a heading, if it consists of more than definitions. -/
def paragraphToHeading? (reader : BlockReader) (lines : List Text) (level : Nat) :
    Option BlockReader :=
  let content := Leaf.paragraphContent lines
  if content.2.isEmpty then none
  else
    some ({ reader with
      leaf := none
      definitions := reader.definitions ++ content.1 }.add (.heading level content.2))

/-- Takes up a line behind a paragraph. -/
def paragraphLine (reader : BlockReader) (lines : List Text) (depth : Nat) (cursor : Cursor)
    (ending : Text) : BlockReader :=
  let isInside := depth = reader.frames.length
  let indented := cursor.passUpTo 4
  let continued := { reader with leaf := some (.paragraph (cursor.text :: lines)) }
  if cursor.isBlank then reader.newLine depth cursor ending
  else if indented.1 = 4 then continued
  else
    let heading :=
      if isInside then
        (BlockStart.underline? indented.2.rest).bind (reader.paragraphToHeading? lines)
      else none
    match heading with
    | some reader => reader
    | none =>
        if BlockStart.interrupts isInside indented.2.rest
            ∨ (isInside ∧ (BlockStart.underline? indented.2.rest).isSome) then
          reader.newLine depth cursor ending
        else continued

/-- Takes up a line behind the opening fence of a literal block. -/
def fencedLine (reader : BlockReader) (fence : Fence) (indent : Nat) (lines : List Text)
    (cursor : Cursor) (ending : Text) : BlockReader :=
  let behind := (cursor.passUpTo indent).2
  let indented := behind.passUpTo 4
  if indented.1 < 4 ∧ BlockStart.closesFence fence indented.2.rest then reader.closeLeaf
  else
    { reader with leaf := some (.fenced fence indent ((behind.literal ++ ending) :: lines)) }

def step (reader : BlockReader) (line : Line) : BlockReader :=
  let claimed := Frame.claimAll reader.frames.reverse (.ofContent line.content)
  let depth := claimed.1
  let cursor := claimed.2
  let isInside := depth = reader.frames.length
  match reader.leaf with
  | none => reader.newLine depth cursor line.ending
  | some (.paragraph lines) => reader.paragraphLine lines depth cursor line.ending
  | some (.fenced fence indent lines) =>
      if isInside then reader.fencedLine fence indent lines cursor line.ending
      else reader.newLine depth cursor line.ending
  | some (.indented lines) =>
      let indented := cursor.passUpTo 4
      if isInside ∧ (indented.1 = 4 ∨ indented.2.rest.isEmpty) then
        { reader with
          leaf := some (.indented ((indented.2.literal ++ line.ending) :: lines))
          afterBlank := indented.2.isBlank }
      else reader.newLine depth cursor line.ending
  | some (.html blockEnd lines) =>
      if isInside ∧ ¬(blockEnd = .blankLine ∧ cursor.isBlank) then
        reader.htmlLine blockEnd lines (cursor.literal ++ line.ending)
      else reader.newLine depth cursor line.ending

def finish (reader : BlockReader) : Content :=
  let closed := reader.closeLeaf
  let closed := closed.closeFrames closed.frames.length
  ⟨closed.blocks.reverse, closed.definitions⟩

end BlockReader

namespace Content

def ofText (text : Text) : Content :=
  ((Line.ofText text).foldl BlockReader.step .start).finish

end Content

end Markdown

end MessageCatalog
