import MessageCatalog.Markdown.RawHtml

/-!
# Autolinks

An address between angle brackets links to itself.  It is an absolute URI or
an e-mail address.  Both readers take the text behind the opening bracket and
give the address and what follows the closing one.
-/

namespace MessageCatalog

namespace Markdown

namespace Autolink

def isSchemeChar (c : Char) : Bool := c.isAlphanum || c = '.' || c = '-' || c = '+'

def isUriChar (c : Char) : Bool := 0x20 < c.toNat && c != '<' && c != '>'

/-- Whether a character may stand in front of the at sign of an address. -/
def isLocalChar (c : Char) : Bool :=
  c.isAlphanum || ".!#$%&'*+/=?^_`\x7b|\x7d~-".toList.contains c

def isDomainLabel (label : Text) : Bool :=
  !label.isEmpty && label.length ≤ 63 && label.head? != some '-' && label.getLast? != some '-'

/-- An absolute URI.  Its scheme has 2 to 32 characters. -/
def uri? (text : Text) : Option (Text × Text) :=
  let scheme := text.takeWhile isSchemeChar
  let rest := text.drop scheme.length
  if scheme.head?.any Char.isAlpha ∧ 2 ≤ scheme.length ∧ scheme.length ≤ 32
      ∧ rest.head? = some ':' then
    let path := rest.takeWhile isUriChar
    match rest.drop path.length with
    | [] => none
    | c :: after => if c = '>' then some (scheme ++ path, after) else none
  else none

/-- An e-mail address. -/
def email? (text : Text) : Option (Text × Text) :=
  let name := text.takeWhile isLocalChar
  match text.drop name.length with
  | [] => none
  | c :: rest =>
      let domain := rest.takeWhile fun c => c.isAlphanum || c = '-' || c = '.'
      match rest.drop domain.length with
      | [] => none
      | d :: after =>
          if c = '@' ∧ d = '>' ∧ !name.isEmpty
              ∧ (Text.splitOn '.' domain).all isDomainLabel then
            some (name ++ '@' :: domain, after)
          else none

/-- The destination and the text of an autolink, and what follows it. -/
def read? (text : Text) : Option (Text × Text × Text) :=
  match uri? text with
  | some (uri, after) => some (uri, uri, after)
  | none => (email? text).map fun read => ("mailto:".toList ++ read.1, read.1, read.2)

end Autolink

end Markdown

end MessageCatalog
