import MessageCatalog.Text.Basic

/-!
# Language tags

A language code is a sequence of subtags between hyphens or underscores: a
language, then possibly a script, a region and any number of variants, in
this order.  Tags are recognised in any mixture of capitals and kept in the
usual one.
-/

namespace MessageCatalog

/-- A language code taken apart. -/
structure LanguageTag where
  language : Text
  script : Option Text
  region : Option Text
  variants : List Text
  deriving DecidableEq, Repr

namespace LanguageTag

def isAscii (c : Char) : Bool := 0 < c.toNat && c.toNat < 0x80

def asciiUpper (text : Text) : Text := text.map Char.toUpper

/-- Upper-cases the first letter and lower-cases the others. -/
def asciiTitle : Text → Text
  | [] => []
  | c :: rest => c.toUpper :: Text.asciiLower rest

/-- A language has two, three or five to eight letters. -/
def language? (subtag : Text) : Option Text :=
  if 2 ≤ subtag.length ∧ subtag.length ≤ 8 ∧ subtag.length ≠ 4 ∧ subtag.all Char.isAlpha then
    some (Text.asciiLower subtag)
  else none

/-- A script has four letters. -/
def script? (subtag : Text) : Option Text :=
  if subtag.length = 4 ∧ subtag.all Char.isAlpha then some (asciiTitle subtag) else none

/-- A region has two letters or three digits. -/
def region? (subtag : Text) : Option Text :=
  if subtag.length = 2 ∧ subtag.all Char.isAlpha then some (asciiUpper subtag)
  else if subtag.length = 3 ∧ subtag.all Char.isDigit then some subtag
  else none

/-- A variant has five to eight letters and digits.  One of four characters
begins with a digit, or its other three characters are letters and digits. -/
def variant? (subtag : Text) : Option Text :=
  if subtag.all isAscii
      ∧ (5 ≤ subtag.length ∧ subtag.length ≤ 8 ∧ subtag.all Char.isAlphanum
        ∨ subtag.length = 4
          ∧ ((subtag.take 1).all Char.isDigit ∨ (subtag.drop 1).all Char.isAlphanum)) then
    some (Text.asciiLower subtag)
  else none

def subtags (code : Text) : List Text :=
  (Text.splitOn '-' code).flatMap (Text.splitOn '_')

/-- The subtags behind the region. -/
def ofVariants (language : Text) (script region : Option Text) (rest : List Text) :
    Option LanguageTag :=
  (rest.mapM variant?).map fun variants => ⟨language, script, region, variants⟩

/-- The subtags behind the script. -/
def ofRegion (language : Text) (script : Option Text) : List Text → Option LanguageTag
  | [] => some ⟨language, script, none, []⟩
  | subtag :: rest =>
      match region? subtag with
      | some region => ofVariants language script (some region) rest
      | none => ofVariants language script none (subtag :: rest)

/-- The subtags behind the language. -/
def ofScript (language : Text) : List Text → Option LanguageTag
  | [] => some ⟨language, none, none, []⟩
  | subtag :: rest =>
      match script? subtag with
      | some script => ofRegion language (some script) rest
      | none => ofRegion language none (subtag :: rest)

def ofText? (code : Text) : Option LanguageTag :=
  match subtags code with
  | [] => none
  | subtag :: rest => (language? subtag).bind fun language => ofScript language rest

/-- The directory of string resources for a tag: a region follows the language
behind an `r`, but in the presence of a script all parts are joined with plus
signs. -/
def resourceDirectory (tag : LanguageTag) : Text :=
  match tag.script, tag.region with
  | some script, some region =>
      "values-b+".toList ++ tag.language ++ "+".toList ++ script ++ "+".toList ++ region
  | some script, none => "values-b+".toList ++ tag.language ++ "+".toList ++ script
  | none, some region => "values-".toList ++ tag.language ++ "-r".toList ++ region
  | none, none => "values-".toList ++ tag.language

end LanguageTag

inductive LanguageCodeError
  | empty
  | invalid (code : Text)
  deriving DecidableEq, Repr

namespace LanguageCodeError

def message : LanguageCodeError → Text
  | empty => "Language code cannot be empty".toList
  | invalid code =>
      "Invalid language code format: ".toList ++ code
        ++ ". Expected valid BCP 47 language identifier".toList

end LanguageCodeError

namespace Language

/-- What is wrong with a language code, if anything is.  A code is taken apart by
`tag?`. -/
def checkWith (tag? : Text → Option LanguageTag) (code : Text) : Option LanguageCodeError :=
  if code.isEmpty then some .empty
  else if (tag? code).isNone then some (.invalid code)
  else none

/-- The directory of string resources for a code.  What is no tag is used as
it stands. -/
def resourceDirectoryWith (tag? : Text → Option LanguageTag) (code : Text) : Text :=
  match tag? code with
  | some tag => tag.resourceDirectory
  | none => "values-".toList ++ code

def check : Text → Option LanguageCodeError := checkWith LanguageTag.ofText?

end Language

end MessageCatalog
