import MessageCatalog.Output.Item
import MessageCatalog.Text.Alphanumeric
import MessageCatalog.Xml.Token

/-!
# Windows resources

The two kinds of Windows resource files, `.resx` and `.resw`, share one
schema.  Values are composite format strings, in which a placeholder is an
index between braces with an optional format, and keys have to be
identifiers.
-/

namespace MessageCatalog

namespace WindowsResources

open Xml (Token)

inductive Flavor
  | resx
  | resw
  deriving DecidableEq, Repr

/-- How a file of a kind introduces itself. -/
def Flavor.description : Flavor → Text
  | .resx => ".NET ResX resource file".toList
  | .resw => "UWP ResW resource file".toList

/-- The item of a placeholder: floating-point data with a decimal count asks
for that many decimals. -/
def argument (rank : Nat) (placeholder : Placeholder) : Text :=
  '\x7b' :: Text.ofNat (placeholder.effectiveIndex rank)
    ++ (match placeholder.floatDecimals with
        | some count => ":F".toList ++ Text.ofNat count
        | none => [])
    ++ ['\x7d']

def ofPiece : Piece → Text
  | .text t => t
  | .placeholder rank p => argument rank p

def format (value : Value) : Text := value.pieces.flatMap ofPiece

/-- Literal text of a value, as it stands in the file. -/
def escapeValue (text : Text) : Text := Xml.escape text

/-- Whether a character may stand in a resource name. -/
def isNameChar (c : Char) : Bool := isAlphanumeric c || c = '_'

/-- The resource name of a key: what may not stand in one becomes an
underscore, and one more is put in front of a digit. -/
def sanitizeKey (key : Text) : Text :=
  match key.map fun c => if isNameChar c then c else '_' with
  | [] => []
  | c :: rest => if c.isDigit then '_' :: c :: rest else c :: rest

/-- The reader and the writer named in the header of every file. -/
def assembly (className : String) : Text :=
  ("System.Resources." ++ className ++ ", System.Windows.Forms, Version=4.0.0.0, "
    ++ "Culture=neutral, PublicKeyToken=b77a5c561934e089").toList

def headers : List (Text × Text) :=
  [("resmimetype".toList, "text/microsoft-resx".toList),
    ("version".toList, "2.0".toList),
    ("reader".toList, assembly "ResXResourceReader"),
    ("writer".toList, assembly "ResXResourceWriter")]

def ofHeader (header : Text × Text) : List Token :=
  [.space "  ", .startTag "resheader".toList [("name".toList, header.1)], .space "\n    "]
    ++ Token.element "value".toList [] header.2
    ++ [.space "\n  ", .endTag "resheader".toList, .space "\n"]

def comment (entry : Entry) : List Token :=
  match entry.note? with
  | some note => .space "\n    " :: Token.element "comment".toList [] note
  | none => []

def ofItem : Item → List Token
  | .heading name =>
      [.space "\n  ",
        .comment (" ********** ".toList ++ name ++ " ********** ".toList),
        .space "\n\n"]
  | .entry entry value =>
      [.space "  ",
        .startTag "data".toList
          [("name".toList, sanitizeKey entry.key), ("xml:space".toList, "preserve".toList)],
        .space "\n    "]
        ++ Token.element "value".toList [] (format value)
        ++ comment entry
        ++ [.space "\n  ", .endTag "data".toList, .space "\n"]

def document (flavor : Flavor) (catalog : Catalog) (language : Text) : List Token :=
  [.declaration, .space "\n",
    .comment ("\n".toList ++ flavor.description ++ "\nGenerated by Sanat\nLanguage: ".toList
      ++ language ++ "\n".toList),
    .space "\n", .startTag "root".toList [], .space "\n"]
    ++ headers.flatMap ofHeader
    ++ (catalog.items .windows language).flatMap ofItem
    ++ [.endTag "root".toList, .space "\n"]

def render (flavor : Flavor) (catalog : Catalog) (language : Text) : Text :=
  Xml.write (document flavor catalog language)

end WindowsResources

end MessageCatalog
