import MessageCatalog.Language.Tag
import MessageCatalog.Output.Format

/-!
# Locations of generated files

Every format has its own place for the file of a language inside the output
directory.
-/

namespace MessageCatalog

namespace Location

/-- A path taken relative to a directory.  An absolute path stays as it is. -/
def join (directory path : Text) : Text :=
  if path.head? = some '/' then path
  else if directory.isEmpty ∨ directory.getLast? = some '/' then directory ++ path
  else directory ++ '/' :: path

end Location

namespace Format

/-- The parts of the path of a file below the output directory. -/
def locationWith (tag? : Text → Option LanguageTag) (format : Format) (language : Text) :
    List Text :=
  match format with
  | apple => [language ++ ".lproj".toList, "Localizable.strings".toList]
  | android => [Language.resourceDirectoryWith tag? language, "strings.xml".toList]
  | java => ["Properties_".toList ++ language ++ ".xml".toList]
  | windowsResx => ["Resources.".toList ++ language ++ ".resx".toList]
  | windowsResw => [language, "Resources.resw".toList]
  | json => ["translations.json".toList]
  | dump => ["dump.txt".toList]

def location : Format → Text → List Text := locationWith LanguageTag.ofText?

/-- The path of the file for a language. -/
def outputPath (format : Format) (directory language : Text) : Text :=
  (format.location language).foldl Location.join directory

end Format

end MessageCatalog
