import MessageCatalog.Text.Basic

/-!
# Settings files

Settings are written in TOML: a name, an equals sign and a value to a line,
comments behind a number sign, and blank lines anywhere.  Of the values of
the format, strings, booleans and arrays of strings are understood; a file
that uses anything else is refused as a whole.

Every reader below takes the text that is left and gives back what it read
together with what is left then.
-/

namespace MessageCatalog

namespace Toml

inductive Value
  | string (text : Text)
  | boolean (b : Bool)
  | array (items : List Text)
  deriving DecidableEq, Repr

/-- Control characters other than the tab may stand nowhere. -/
def isAllowed (c : Char) : Bool := c = '\t' || (0x20 ≤ c.toNat && c.toNat ≠ 0x7F)

def isSpace (c : Char) : Bool := c = ' ' || c = '\t'

def skipSpaces (text : Text) : Text := text.dropWhile isSpace

/-- The text behind a line break, if one stands here. -/
def newline? : Text → Option Text
  | [] => none
  | [c] => if c = '\n' then some [] else none
  | c :: d :: rest =>
      if c = '\n' then some (d :: rest)
      else if c = '\r' ∧ d = '\n' then some rest
      else none

/-- The text behind a comment.  A comment runs to the end of the line. -/
def skipComment (text : Text) : Text :=
  if text.head? = some '#' then text.dropWhile isAllowed else text

/-- The text at the end of a line: behind white space and a comment there is a
line break or nothing. -/
def endLine? (text : Text) : Option Text :=
  let rest := skipComment (skipSpaces text)
  if rest.isEmpty then some [] else newline? rest

/-- The text behind white space, comments and line breaks. -/
def skipLines : Nat → Text → Text
  | 0, text => text
  | fuel + 1, text =>
      let rest := skipSpaces text
      match newline? (skipComment rest) with
      | some next => skipLines fuel next
      | none => rest

/-- The text behind white space and line breaks. -/
def skipBreaks : Nat → Text → Text
  | 0, text => text
  | fuel + 1, text =>
      match newline? (skipSpaces text) with
      | some next => skipBreaks fuel next
      | none => skipSpaces text

def hexValue? (c : Char) : Option Nat :=
  if c.isDigit then some (c.toNat - '0'.toNat)
  else if 'a' ≤ c ∧ c ≤ 'f' then some (c.toNat - 'a'.toNat + 10)
  else if 'A' ≤ c ∧ c ≤ 'F' then some (c.toNat - 'A'.toNat + 10)
  else none

def charOfHex? (digits : Text) : Option Char :=
  (digits.mapM hexValue?).bind fun values =>
    let n := values.foldl (fun n value => 16 * n + value) 0
    if n.isValidChar then some (Char.ofNat n) else none

/-- The character of an escape sequence, the backslash being read. -/
def escape? : Text → Option (Char × Text)
  | [] => none
  | c :: rest =>
      match c with
      | 'b' => some ('\x08', rest)
      | 't' => some ('\t', rest)
      | 'n' => some ('\n', rest)
      | 'f' => some ('\x0c', rest)
      | 'r' => some ('\r', rest)
      | '"' => some ('"', rest)
      | '\\' => some ('\\', rest)
      | 'u' =>
          if (rest.take 4).length = 4 then
            (charOfHex? (rest.take 4)).map fun c => (c, rest.drop 4)
          else none
      | 'U' =>
          if (rest.take 8).length = 8 then
            (charOfHex? (rest.take 8)).map fun c => (c, rest.drop 8)
          else none
      | _ => none

/-- The rest of a basic string on one line. -/
def basicString? : Nat → Text → Option (Text × Text)
  | 0, _ => none
  | _, [] => none
  | fuel + 1, c :: rest =>
      if c = '"' then some ([], rest)
      else if c = '\\' then do
        let (escaped, rest) ← escape? rest
        let (tail, rest) ← basicString? fuel rest
        return (escaped :: tail, rest)
      else if isAllowed c then do
        let (tail, rest) ← basicString? fuel rest
        return (c :: tail, rest)
      else none

/-- The rest of a literal string on one line. -/
def literalString? : Text → Option (Text × Text)
  | [] => none
  | c :: rest =>
      if c = '\'' then some ([], rest)
      else if isAllowed c then do
        let (tail, rest) ← literalString? rest
        return (c :: tail, rest)
      else none

/-- The number of quotes at the start, counted up to five. -/
def quotes (quote : Char) (text : Text) : Nat := ((text.take 5).takeWhile (· = quote)).length

/-- The rest of a string of several lines.  It ends at three quotes, of which
up to two more may stand in front.  In a basic string a backslash at the end
of a line joins the line to what follows the white space behind it. -/
def longString? (quote : Char) : Nat → Text → Option (Text × Text)
  | 0, _ => none
  | fuel + 1, text =>
      if 3 ≤ quotes quote text then
        some (List.replicate (quotes quote text - 3) quote, text.drop (quotes quote text))
      else
        match newline? text with
        | some rest => do
            let (tail, rest) ← longString? quote fuel rest
            return ('\n' :: tail, rest)
        | none =>
            match text with
            | [] => none
            | c :: rest =>
                if c = '\\' ∧ quote = '"' then
                  match newline? (skipSpaces rest) with
                  | some next => longString? quote fuel (skipBreaks next.length next)
                  | none => do
                      let (escaped, rest) ← escape? rest
                      let (tail, rest) ← longString? quote fuel rest
                      return (escaped :: tail, rest)
                else if isAllowed c then do
                  let (tail, rest) ← longString? quote fuel rest
                  return (c :: tail, rest)
                else none

/-- A string of any kind.  A line break right behind three opening quotes does
not belong to the string. -/
def string? (text : Text) : Option (Text × Text) :=
  match text with
  | [] => none
  | c :: rest =>
      if c = '"' ∨ c = '\'' then
        if 3 ≤ quotes c text then
          let body := text.drop 3
          longString? c (text.length + 1) ((newline? body).getD body)
        else if c = '"' then basicString? (text.length + 1) rest
        else literalString? rest
      else none

/-- The items of an array of strings and its closing bracket. -/
def items? : Nat → Text → Option (List Text × Text)
  | 0, _ => none
  | fuel + 1, text =>
      let start := skipLines text.length text
      if start.head? = some ']' then some ([], start.tail)
      else do
        let (item, rest) ← string? start
        let rest := skipLines rest.length rest
        if rest.head? = some ',' then
          let (items, rest) ← items? fuel rest.tail
          return (item :: items, rest)
        else if rest.head? = some ']' then some ([item], rest.tail)
        else none

def value? (text : Text) : Option (Value × Text) :=
  if "true".toList.isPrefixOf text then some (.boolean true, text.drop 4)
  else if "false".toList.isPrefixOf text then some (.boolean false, text.drop 5)
  else if text.head? = some '[' then
    (items? (text.length + 1) text.tail).map fun (items, rest) => (.array items, rest)
  else (string? text).map fun (content, rest) => (.string content, rest)

def isNameChar (c : Char) : Bool := c.isAlphanum || c = '_' || c = '-'

/-- A name: a string on one line, or letters, digits, underscores and
hyphens. -/
def name? (text : Text) : Option (Text × Text) :=
  match text with
  | [] => none
  | c :: rest =>
      if c = '"' then basicString? (text.length + 1) rest
      else if c = '\'' then literalString? rest
      else if isNameChar c then some (text.takeWhile isNameChar, text.dropWhile isNameChar)
      else none

def setting? (text : Text) : Option ((Text × Value) × Text) := do
  let (name, rest) ← name? text
  let rest := skipSpaces rest
  if rest.head? = some '=' then
    let (value, rest) ← value? (skipSpaces rest.tail)
    let rest ← endLine? rest
    return ((name, value), rest)
  else none

def settings? : Nat → Text → Option (List (Text × Value))
  | 0, _ => none
  | fuel + 1, text =>
      let start := skipLines text.length text
      if (skipComment start).isEmpty then some []
      else do
        let (setting, rest) ← setting? start
        let settings ← settings? fuel rest
        return setting :: settings

/-- The settings of a file.  A byte order mark may stand in front. -/
def read? (text : Text) : Option (List (Text × Value)) :=
  settings? (text.length + 1) (if text.head? = some '\uFEFF' then text.tail else text)

end Toml

end MessageCatalog
