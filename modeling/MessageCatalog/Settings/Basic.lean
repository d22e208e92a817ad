import MessageCatalog.Settings.Toml

/-!
# Settings of the command line

A settings file may name the preprocessors, the languages and the treatment
of indentation to use where the command line says nothing.  Each may be set
once, and nothing else may be set.
-/

namespace MessageCatalog

structure Settings where
  processors : Option Text
  languages : List Text
  lenientIndentation : Bool
  deriving DecidableEq, Repr

namespace Settings

def standard : Settings := ⟨none, [], false⟩

/-- Applies one setting, if it is known and of the right kind. -/
def set? (settings : Settings) (name : Text) (value : Toml.Value) : Option Settings :=
  if name = "processors".toList then
    match value with
    | .string names => some { settings with processors := some names }
    | _ => none
  else if name = "languages".toList then
    match value with
    | .array languages => some { settings with languages := languages }
    | _ => none
  else if name = "lenient_indentation".toList then
    match value with
    | .boolean lenient => some { settings with lenientIndentation := lenient }
    | _ => none
  else none

def ofText? (text : Text) : Option Settings := do
  let entries ← Toml.read? text
  if (entries.map Prod.fst).Nodup then
    entries.foldlM (fun settings entry => settings.set? entry.1 entry.2) standard
  else none

end Settings

end MessageCatalog
