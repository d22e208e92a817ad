import MessageCatalog.Catalog.Platform
import MessageCatalog.Placeholder.Specifier

/-!
# Problems in documents

Reading a document never stops at a problem.  Each one is recorded with the
number of the line it belongs to, and reading goes on with the next line.
-/

namespace MessageCatalog

/-- What may be wrong with a document. -/
inductive Problem
  /-- White space other than spaces in front of a line. -/
  | mixedIndentation (line : Text)
  /-- A line indented by another number of spaces than 0, 2 or 4. -/
  | unexpectedIndentation (width : Nat) (line : Text)
  /-- A line without indentation that is no heading. -/
  | unindented (line : Text)
  /-- A field that belongs to no key. -/
  | looseLine (line : Text)
  /-- A field without an equals sign. -/
  | noSeparator (line : Text)
  /-- A name in a list of platforms that is none. -/
  | unknownPlatform (name : Text)
  /-- A number in a value's specifier that cannot be read. -/
  | badSpecifier (problem : SpecifierProblem)
  /-- A key that no value follows. -/
  | noValues (key : Text)
  deriving DecidableEq, Repr

namespace Problem

def message : Problem → Text
  | mixedIndentation line =>
      "Indentation must use spaces only: '".toList ++ line ++ "'".toList
  | unexpectedIndentation width line =>
      "Unexpected indentation of ".toList ++ Text.ofNat width
        ++ " spaces (expected 0, 2 or 4): '".toList ++ line ++ "'".toList
  | unindented line =>
      "Unknown un-indented line '".toList ++ line
        ++ "'; prepend with === if section, indent if translation key.".toList
  | looseLine line => "Loose line not in a translation block: ".toList ++ line
  | noSeparator line => "Cannot find separator '=' on line: ".toList ++ line
  | unknownPlatform name => Platform.unknownMessage name
  | badSpecifier problem => problem.message
  | noValues key => "Translation '".toList ++ key ++ "' has no values".toList

end Problem

/-- A problem and the number of its line, the first line being line 1. -/
structure Report where
  line : Nat
  problem : Problem
  deriving DecidableEq, Repr

namespace Report

def describe (report : Report) : Text :=
  "line ".toList ++ Text.ofNat report.line ++ ": ".toList ++ report.problem.message

def summary (reports : List Report) : Text :=
  Text.ofNat reports.length ++ " error(s) while parsing".toList
    ++ reports.flatMap fun report => "\n  ".toList ++ report.describe

end Report

end MessageCatalog
