import MessageCatalog.Markdown.NamedCharacter
import MessageCatalog.Text.Punctuation

/-!
# Character references and escapes

A character reference, such as `&amp;` or `&#38;`, stands for the character
it names, and a backslash in front of ASCII punctuation makes the punctuation
literal.  Both are also understood inside link destinations, link titles and
the info strings of code blocks.
-/

namespace MessageCatalog

namespace Markdown

/-- How many characters of a text come before a rest of it. -/
def consumed (text rest : Text) : Nat := text.length - rest.length

/-- The character with a number.  Zero stands for the replacement character,
and surrogates and numbers beyond the code points for none. -/
def numberedCharacter? (n : Nat) : Option Char :=
  if n = 0 then some '\uFFFD'
  else if n.isValidChar then some (Char.ofNat n)
  else none

def isHexDigit (c : Char) : Bool :=
  c.isDigit || ('a' ≤ c && c ≤ 'f') || ('A' ≤ c && c ≤ 'F')

def digitValue (c : Char) : Nat :=
  if c.isDigit then c.toNat - '0'.toNat else c.toLower.toNat - 'a'.toNat + 10

def ofDigits (base : Nat) (digits : Text) : Nat :=
  digits.foldl (fun n c => n * base + digitValue c) 0

/-- A reference that ends here with a semicolon. -/
def endReference? (value : Option Text) (rest : Text) : Option (Text × Text) :=
  if rest.head? = some ';' then value.map fun text => (text, rest.tail) else none

/-- A reference by number: at most `limit` digits and a semicolon. -/
def numbered? (base limit : Nat) (isBaseDigit : Char → Bool) (text : Text) :
    Option (Text × Text) :=
  let digits := (text.take limit).takeWhile isBaseDigit
  if digits.isEmpty then none
  else
    endReference? ((numberedCharacter? (ofDigits base digits)).map fun c => [c])
      (text.drop digits.length)

/-- The text that a reference stands for and what follows the reference, given
the text behind the ampersand. -/
def characterReference? (text : Text) : Option (Text × Text) :=
  match text with
  | [] => none
  | c :: rest =>
      if c = '#' then
        if rest.head? = some 'x' ∨ rest.head? = some 'X' then
          numbered? 16 6 isHexDigit rest.tail
        else numbered? 10 7 Char.isDigit rest
      else
        let name := (c :: rest).takeWhile Char.isAlphanum
        endReference? (namedCharacter? name) ((c :: rest).drop name.length)

/-- Whether a text begins with a character of a class. -/
def startsWith (isMember : Char → Bool) (text : Text) : Bool := text.head?.any isMember

/-- The text with its escapes and references replaced.  The first argument
counts the characters that belong to what was replaced last. -/
def unescapeFrom : Nat → Text → Text
  | _, [] => []
  | skip + 1, _ :: rest => unescapeFrom skip rest
  | 0, c :: rest =>
      if c = '\\' ∧ startsWith isAsciiPunctuation rest then
        rest.take 1 ++ unescapeFrom 1 rest
      else if c = '&' then
        match characterReference? rest with
        | some (value, after) => value ++ unescapeFrom (consumed rest after) rest
        | none => c :: unescapeFrom 0 rest
      else c :: unescapeFrom 0 rest

def unescape (text : Text) : Text := unescapeFrom 0 text

end Markdown

end MessageCatalog
