import MessageCatalog.Xml.Comment

/-!
# XML documents

The generated XML files are written token by token: declaration, document
type, comments, tags and character data.  Character data and attribute
values are given as they are meant and escaped when they are written;
comments are made safe.
-/

namespace MessageCatalog

namespace Xml

/-- A character of text or of an attribute value: the five characters with a
predefined entity are written as that entity. -/
def escapeChar (c : Char) : Text :=
  if c = '<' then "&lt;".toList
  else if c = '>' then "&gt;".toList
  else if c = '&' then "&amp;".toList
  else if c = '\'' then "&apos;".toList
  else if c = '"' then "&quot;".toList
  else [c]

def escape (text : Text) : Text := Text.escapeWith escapeChar text

inductive Token
  | declaration
  | doctype (content : Text)
  | comment (content : Text)
  | startTag (name : Text) (attributes : List (Text × Text))
  | endTag (name : Text)
  | text (content : Text)
  deriving DecidableEq, Repr

/-- An attribute with the space in front of it. -/
def writeAttribute (pair : Text × Text) : Text :=
  " ".toList ++ pair.1 ++ "=\"".toList ++ escape pair.2 ++ "\"".toList

namespace Token

def write : Token → Text
  | declaration => "<?xml version=\"1.0\" encoding=\"utf-8\"?>".toList
  | doctype content => "<!DOCTYPE ".toList ++ content ++ ">".toList
  | comment content => "<!--".toList ++ commentSafe content ++ "-->".toList
  | startTag name attributes =>
      "<".toList ++ name ++ attributes.flatMap writeAttribute ++ ">".toList
  | endTag name => "</".toList ++ name ++ ">".toList
  | text content => escape content

def space (content : String) : Token := text content.toList

/-- An element that holds nothing but text. -/
def element (name : Text) (attributes : List (Text × Text)) (content : Text) : List Token :=
  [startTag name attributes, text content, endTag name]

end Token

def write (tokens : List Token) : Text := tokens.flatMap Token.write

@[simp] theorem write_nil : write [] = [] := rfl

@[simp] theorem write_cons (token : Token) (rest : List Token) :
    write (token :: rest) = token.write ++ write rest := by
  simp [write]

@[simp] theorem write_append (left right : List Token) :
    write (left ++ right) = write left ++ write right := by
  simp [write]

end Xml

end MessageCatalog
