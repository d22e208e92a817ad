import MessageCatalog.Document.Encoding
import MessageCatalog.Output.Format
import MessageCatalog.Text.Utf8

/-!
# What is logged

A command logs what it comes across: the problems of a document as warnings, what has
been read and generated as information, and every single step on the way as a detail.
The events are kept in their order and as data.  Which of them are shown, and how, is
decided outside of the program.
-/

namespace MessageCatalog

inductive LogLevel
  | warnings
  | information
  | details
  deriving DecidableEq, Repr

namespace LogLevel

/-- The level for a number of requests to be more verbose. -/
def ofVerbosity : Nat → LogLevel
  | 0 => warnings
  | 1 => information
  | _ => details

def name : LogLevel → Text
  | warnings => "WARN".toList
  | information => "INFO".toList
  | details => "DEBUG".toList

/-- Whether a log that is kept at this level has the events of another one. -/
def includes : LogLevel → LogLevel → Bool
  | _, warnings => true
  | warnings, _ => false
  | _, information => true
  | information, details => false
  | details, details => true

end LogLevel

inductive LogEvent
  | settingsRead (path : Text)
  | documentRead (path : Text) (size : Nat)
  | headingRead (line : Nat) (name : Text)
  | keyRead (line : Nat) (key : Text)
  | problemFound (report : Report)
  | documentParsed (sections languages problems : Nat)
  /-- A document without problems, as a command works with it. -/
  | inputParsed (path : Text) (sections languages : Nat)
  | fileWritten (path language : Text)
  | filesGenerated (format : Format) (count : Nat)
  deriving DecidableEq, Repr

namespace LogEvent

def level : LogEvent → LogLevel
  | settingsRead _ => .details
  | documentRead _ _ => .details
  | headingRead _ _ => .details
  | keyRead _ _ => .details
  | problemFound _ => .warnings
  | documentParsed _ _ _ => .details
  | inputParsed _ _ _ => .information
  | fileWritten _ _ => .details
  | filesGenerated _ _ => .information

def message : LogEvent → Text
  | settingsRead _ => "loaded config".toList
  | documentRead _ _ => "read translation document".toList
  | headingRead _ _ => "section".toList
  | keyRead _ _ => "translation key".toList
  | problemFound _ => "parse error".toList
  | documentParsed _ _ _ => "parsed translation document".toList
  | inputParsed _ _ _ => "parsed input".toList
  | fileWritten _ _ => "wrote".toList
  | filesGenerated _ _ => "generated".toList

/-- What is said of an event besides its message. -/
def fields : LogEvent → List (Text × Text)
  | settingsRead path => [("path".toList, path)]
  | documentRead path size => [("path".toList, path), ("bytes".toList, Text.ofNat size)]
  | headingRead line name => [("line".toList, Text.ofNat line), ("section".toList, name)]
  | keyRead line key => [("line".toList, Text.ofNat line), ("key".toList, key)]
  | problemFound report =>
      [("line".toList, Text.ofNat report.line), ("message".toList, report.problem.message)]
  | documentParsed sections languages problems =>
      [("sections".toList, Text.ofNat sections), ("languages".toList, Text.ofNat languages),
        ("errors".toList, Text.ofNat problems)]
  | inputParsed path sections languages =>
      [("input".toList, path), ("sections".toList, Text.ofNat sections),
        ("languages".toList, Text.ofNat languages)]
  | fileWritten path language => [("path".toList, path), ("language".toList, language)]
  | filesGenerated format count =>
      [("format".toList, format.name), ("files".toList, Text.ofNat count)]

end LogEvent

/-! ## The log of a document -/

namespace Reading

/-- The problems that have become known between two states of a reading. -/
def logOfProblems (before after : Reading) : List LogEvent :=
  (after.reports.drop before.reports.length).map .problemFound

/-- A heading and a key are logged once they have closed the key before them. -/
def logOfRow (number : Nat) : Row → List LogEvent
  | .heading name => [.headingRead number name]
  | .key key => [.keyRead number key]
  | _ => []

def logOfSteps (options : ReadOptions) (preprocessor : Preprocessor) (reading : Reading)
    (number : Nat) : List Text → List LogEvent
  | [] => []
  | line :: rest =>
      let next := step options preprocessor reading number line
      logOfProblems reading next ++ logOfRow number (Row.ofLine line)
        ++ logOfSteps options preprocessor next (number + 1) rest

end Reading

namespace Document

/-- What is logged while a document is read. -/
def log (options : ReadOptions) (preprocessor : Preprocessor) (text : Text) : List LogEvent :=
  let rows := lines (dropByteOrderMark text)
  let last := Reading.start.steps options preprocessor 1 rows
  let finished := last.finish options
  Reading.start.logOfSteps options preprocessor 1 rows ++ last.logOfProblems finished
    ++ [.documentParsed finished.catalog.sections.length
      finished.catalog.languages.codes.length finished.reports.length]

end Document

/-! ## Parts of commands -/

/-- What a part of a command comes to, with all that it has logged until then. -/
structure Logged (ε α : Type) where
  log : List LogEvent
  result : Except ε α

namespace Logged

def ofExcept {ε α : Type} (result : Except ε α) : Logged ε α := ⟨[], result⟩

/-- What follows a failure is not done, and so it logs nothing. -/
def bind {ε α β : Type} (x : Logged ε α) (f : α → Logged ε β) : Logged ε β where
  log := x.log ++ match x.result with
    | .ok a => (f a).log
    | .error _ => []
  result := x.result.bind fun a => (f a).result

instance {ε : Type} : Monad (Logged ε) where
  pure a := ⟨[], .ok a⟩
  bind := bind

end Logged

end MessageCatalog
