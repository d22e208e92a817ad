import MessageCatalog.Segment.Basic

/-!
# Preprocessors

While a document is read, every value passes through a preprocessor twice:
as raw text before its specifiers are read, and as segments afterwards.  A
pipeline applies several preprocessors in order.
-/

namespace MessageCatalog

/-- A change of values on their way into the catalog. -/
structure Preprocessor where
  /-- Applied to the raw text. -/
  raw : Text → Text
  /-- Applied to the segments. -/
  segments : List Segment → List Segment

namespace Preprocessor

def identity : Preprocessor := ⟨id, id⟩

def ofRaw (raw : Text → Text) : Preprocessor := ⟨raw, id⟩

/-- What comes out of one preprocessor goes into the next. -/
def pipeline (stages : List Preprocessor) : Preprocessor where
  raw := fun text => stages.foldl (fun text stage => stage.raw text) text
  segments := fun segments =>
    stages.foldl (fun segments stage => stage.segments segments) segments

@[simp] theorem pipeline_nil_raw (text : Text) : (pipeline []).raw text = text := rfl

@[simp] theorem pipeline_nil_segments (segments : List Segment) :
    (pipeline []).segments segments = segments := rfl

@[simp] theorem pipeline_cons_raw (stage : Preprocessor) (stages : List Preprocessor)
    (text : Text) :
    (pipeline (stage :: stages)).raw text = (pipeline stages).raw (stage.raw text) := rfl

@[simp] theorem pipeline_cons_segments (stage : Preprocessor) (stages : List Preprocessor)
    (segments : List Segment) :
    (pipeline (stage :: stages)).segments segments =
      (pipeline stages).segments (stage.segments segments) := rfl

end Preprocessor

end MessageCatalog
