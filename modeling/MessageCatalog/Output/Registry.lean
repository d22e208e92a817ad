import MessageCatalog.Output.Format

/-!
# Registries of renderers

A registry gives names to renderers, functions from a catalog and a language
to the text of a file, if they come to one.  It starts out empty or with the output
formats under their own names; registering a name again replaces its renderer.
-/

namespace MessageCatalog

abbrev Renderer := Catalog → Text → Option Text

/-- Renderers by name, in increasing order of the names. -/
structure Registry where
  renderers : List (Text × Renderer)

namespace Registry

def empty : Registry := ⟨[]⟩

def names (registry : Registry) : List Text := registry.renderers.map Prod.fst

/-- Puts a renderer at the place of its name. -/
def insertRenderer (name : Text) (renderer : Renderer) :
    List (Text × Renderer) → List (Text × Renderer)
  | [] => [(name, renderer)]
  | head :: rest =>
      if name < head.1 then (name, renderer) :: head :: rest
      else if name = head.1 then (name, renderer) :: rest
      else head :: insertRenderer name renderer rest

def register (registry : Registry) (name : Text) (renderer : Renderer) : Registry :=
  ⟨insertRenderer name renderer registry.renderers⟩

def builtin : Registry :=
  Format.all.foldl (fun registry format => registry.register format.name format.render?) empty

/-- The renderer of a name, which has to be spelled exactly. -/
def get (registry : Registry) (name : Text) : Except UnknownName Renderer :=
  match registry.renderers.find? fun entry => entry.1 = name with
  | some entry => .ok entry.2
  | none => .error ⟨name, registry.names⟩

def render? (registry : Registry) (name : Text) (catalog : Catalog) (language : Text) :
    Except UnknownName (Option Text) :=
  (registry.get name).map fun renderer => renderer catalog language

end Registry

end MessageCatalog
