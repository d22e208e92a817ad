import MessageCatalog.Text.Basic

/-!
# Unknown names

Output formats, preprocessors and renderers are chosen by name.  A name that
is not known is refused together with a list of those that are.
-/

namespace MessageCatalog

structure UnknownName where
  name : Text
  known : List Text
  deriving DecidableEq, Repr

namespace UnknownName

/-- The complaint about an unknown name of something, which has a word for one
and a word for several of it. -/
def message (one several : String) (unknown : UnknownName) : Text :=
  "unknown ".toList ++ one.toList ++ " `".toList ++ unknown.name ++ "`; known ".toList
    ++ several.toList ++ ": ".toList ++ Text.join ", ".toList unknown.known

def formatMessage (unknown : UnknownName) : Text :=
  unknown.message "output format" "formats"

def preprocessorMessage (unknown : UnknownName) : Text :=
  unknown.message "preprocessor" "preprocessors"

end UnknownName

end MessageCatalog
