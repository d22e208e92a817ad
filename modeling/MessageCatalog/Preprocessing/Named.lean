import MessageCatalog.Preprocessing.Basic
import MessageCatalog.Preprocessing.Markdown
import MessageCatalog.Preprocessing.SmartPunctuation
import MessageCatalog.Text.UnknownName

/-!
# Preprocessors by name

Users choose preprocessors by name, several of them in a list between
commas.
-/

namespace MessageCatalog

inductive NamedPreprocessor
  | markdown
  | smartPunctuation
  deriving DecidableEq, Repr

namespace NamedPreprocessor

def all : List NamedPreprocessor := [markdown, smartPunctuation]

def name : NamedPreprocessor → Text
  | markdown => "markdown".toList
  | smartPunctuation => "smartypants".toList

def preprocessor : NamedPreprocessor → Preprocessor
  | markdown => .ofRaw MarkdownValue.render
  | smartPunctuation => .ofRaw SmartPunctuation.smarten

/-- The preprocessor a user means: capitals and surrounding blanks do not
matter. -/
def ofText (text : Text) : Except UnknownName NamedPreprocessor :=
  match all.find? fun named => named.name = Text.asciiLower (Text.trim text) with
  | some named => .ok named
  | none => .error ⟨text, all.map name⟩

/-- The preprocessors of a list of names. -/
def ofList (names : Text) : Except UnknownName (List NamedPreprocessor) :=
  (Text.listEntries names).mapM ofText

/-- The name of a preprocessor is understood as that preprocessor. -/
theorem ofText_name (named : NamedPreprocessor) : ofText named.name = .ok named := by
  cases named <;> rfl

end NamedPreprocessor

namespace Preprocessor

def ofNames (names : Text) : Except UnknownName Preprocessor :=
  (NamedPreprocessor.ofList names).map fun named =>
    pipeline (named.map NamedPreprocessor.preprocessor)

end Preprocessor

end MessageCatalog
