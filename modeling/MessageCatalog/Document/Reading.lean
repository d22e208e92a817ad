import MessageCatalog.Catalog.Basic
import MessageCatalog.Document.Problem
import MessageCatalog.Document.Row
import MessageCatalog.Preprocessing.Basic
import MessageCatalog.Segment.Reading

/-!
# Reading documents

A document is read in one pass over its rows.  A heading begins a section, a
key begins an entry in the last section, and fields belong to the key that
is open.  A key stays open until the next heading or key; one that received
no value is reported when it is closed, at the line where it stands.
-/

namespace MessageCatalog

structure ReadOptions where
  /-- Lines with unexpected indentation are skipped and not reported. -/
  lenientIndentation : Bool
  /-- The last key of the document needs a value too. -/
  requireValuesAtEnd : Bool
  deriving DecidableEq, Repr

namespace ReadOptions

def standard : ReadOptions := ⟨false, true⟩

end ReadOptions

structure OpenKey where
  line : Nat
  key : Text
  hasValues : Bool
  deriving DecidableEq, Repr

structure Reading where
  catalog : Catalog
  reports : List Report
  openKey : Option OpenKey
  deriving DecidableEq

namespace Reading

def start : Reading := ⟨.empty, [], none⟩

def report (reading : Reading) (line : Nat) (problems : List Problem) : Reading :=
  { reading with reports := reading.reports ++ problems.map (Report.mk line) }

/-- Records a problem, unless indentation is treated leniently. -/
def reportIndentation (options : ReadOptions) (reading : Reading) (line : Nat)
    (problem : Problem) : Reading :=
  if options.lenientIndentation then reading else reading.report line [problem]

def closeKey (reading : Reading) : Reading :=
  match reading.openKey with
  | none => reading
  | some key =>
      let closed := { reading with openKey := none }
      if key.hasValues then closed else closed.report key.line [.noValues key.key]

def heading (reading : Reading) (name : Text) : Reading :=
  let closed := reading.closeKey
  { closed with catalog := closed.catalog.addSection name }

/-- Begins an entry, in a section without a name if there is none yet. -/
def key (reading : Reading) (line : Nat) (key : Text) : Reading :=
  let closed := reading.closeKey
  let catalog :=
    if closed.catalog.sections.isEmpty then closed.catalog.addSection []
    else closed.catalog
  { closed with
    catalog := catalog.addEntry (.new key)
    openKey := some ⟨line, key, false⟩ }

def mapEntry (reading : Reading) (change : Entry → Entry) : Reading :=
  { reading with catalog := reading.catalog.mapLastEntry change }

/-- The names in a list of platforms that are none. -/
def unknownPlatforms (names : List Text) : List Problem :=
  (names.filter fun name => (Platform.ofText? name).isNone).map .unknownPlatform

/-- Gives the entry a value and the catalog its language. -/
def value (preprocessor : Preprocessor) (reading : Reading) (line : Nat)
    (language text : Text) : Reading :=
  let raw := preprocessor.raw text
  let segments := preprocessor.segments (Segment.ofText raw)
  let reported := reading.report line ((Segment.problemsOf raw).map .badSpecifier)
  let extended := reported.mapEntry (·.addValue ⟨language, segments⟩)
  { extended with
    catalog := extended.catalog.addLanguage language
    openKey := extended.openKey.map fun key => { key with hasValues := true } }

def field (preprocessor : Preprocessor) (reading : Reading) (line : Nat)
    (name text : Text) : Reading :=
  match FieldKind.ofName name with
  | .platforms =>
      let names := Text.listEntries text
      (reading.report line (unknownPlatforms names)).mapEntry fun entry =>
        { entry with platforms := .ofList (names.filterMap Platform.ofText?) }
  | .tags => reading.mapEntry fun entry => { entry with tags := Text.listEntries text }
  | .comment => reading.mapEntry fun entry => { entry with comment := some text }
  | .value => value preprocessor reading line name text

/-- Reads one line.  A row behind four spaces needs an open key, whatever it
contains. -/
def step (options : ReadOptions) (preprocessor : Preprocessor) (reading : Reading)
    (number : Nat) (line : Text) : Reading :=
  match Row.ofLine line with
  | .skipped => reading
  | .mixedIndentation =>
      reading.reportIndentation options number (.mixedIndentation line)
  | .unexpectedIndentation width =>
      reading.reportIndentation options number (.unexpectedIndentation width line)
  | .unindented => reading.report number [.unindented line]
  | .heading name => reading.heading name
  | .key key => reading.key number key
  | .noSeparator =>
      if reading.openKey.isNone then reading.report number [.looseLine line]
      else reading.report number [.noSeparator line]
  | .field name text =>
      if reading.openKey.isNone then reading.report number [.looseLine line]
      else reading.field preprocessor number name text

/-- Reads lines, the first of which has the given number. -/
def steps (options : ReadOptions) (preprocessor : Preprocessor) (reading : Reading)
    (number : Nat) : List Text → Reading
  | [] => reading
  | line :: rest =>
      steps options preprocessor (step options preprocessor reading number line)
        (number + 1) rest

def finish (options : ReadOptions) (reading : Reading) : Reading :=
  if options.requireValuesAtEnd then reading.closeKey else reading

end Reading

/-- What reading a document gives: all that could be made of it, and every
problem found on the way. -/
structure Outcome where
  catalog : Catalog
  reports : List Report
  deriving DecidableEq

namespace Outcome

/-- The catalog, or the reports if there are any. -/
def toExcept (outcome : Outcome) : Except (List Report) Catalog :=
  if outcome.reports.isEmpty then .ok outcome.catalog else .error outcome.reports

end Outcome

namespace Document

def read (options : ReadOptions) (preprocessor : Preprocessor) (text : Text) : Outcome :=
  let reading :=
    (Reading.start.steps options preprocessor 1 (lines (dropByteOrderMark text))).finish options
  ⟨reading.catalog, reading.reports⟩

end Document

end MessageCatalog
