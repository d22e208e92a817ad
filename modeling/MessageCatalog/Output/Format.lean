import MessageCatalog.Catalog.Json
import MessageCatalog.Output.AndroidStrings
import MessageCatalog.Output.AppleStrings
import MessageCatalog.Output.JavaProperties
import MessageCatalog.Output.Listing
import MessageCatalog.Output.WindowsResources
import MessageCatalog.Text.UnknownName

/-!
# Output formats

A catalog can be written in seven formats.  Five of them give one file for
each language, with the entries of one platform; the other two describe the
whole catalog and take no notice of the language.  The file of a format may be
impossible to make, and then making it ends the program.
-/

namespace MessageCatalog

inductive Format
  | apple
  | android
  | java
  | windowsResx
  | windowsResw
  | json
  | dump
  deriving DecidableEq, Repr

namespace Format

def all : List Format := [apple, android, java, windowsResx, windowsResw, json, dump]

def name : Format → Text
  | apple => "apple".toList
  | android => "android".toList
  | java => "java".toList
  | windowsResx => "windows-resx".toList
  | windowsResw => "windows-resw".toList
  | json => "json".toList
  | dump => "dump".toList

/-- The platform whose entries a format writes. -/
def platform? : Format → Option Platform
  | apple => some .apple
  | android => some .android
  | java => some .java
  | windowsResx => some .windows
  | windowsResw => some .windows
  | json => none
  | dump => none

/-- Whether there is one file for each language. -/
def isPerLanguage (format : Format) : Bool := format.platform?.isSome

/-- The format a user means: capitals and surrounding blanks do not matter. -/
def ofText (text : Text) : Except UnknownName Format :=
  match all.find? fun format => format.name = Text.asciiLower (Text.trim text) with
  | some format => .ok format
  | none => .error ⟨text, all.map name⟩

def render? (format : Format) (catalog : Catalog) (language : Text) : Option Text :=
  match format with
  | apple => some (AppleStrings.render catalog language)
  | android => some (AndroidStrings.render catalog language)
  | java => JavaProperties.render? catalog language
  | windowsResx => some (WindowsResources.render .resx catalog language)
  | windowsResw => some (WindowsResources.render .resw catalog language)
  | json => some (catalog.toJson.pretty ++ ['\n'])
  | dump => some (Listing.render catalog)

/-- The name of a format is understood as that format. -/
theorem ofText_name (format : Format) : ofText format.name = .ok format := by
  cases format <;> rfl

end Format

end MessageCatalog
