import MessageCatalog.CommandLine.Arguments
import MessageCatalog.CommandLine.Effects

/-!
# Running commands on a file tree

Files are written in order, each after the directories around it; the first
one that cannot be written ends the command.  Where several files are written at the
same time, others may be there as well when a command has ended in this way.  What a
command has to say about how it ends comes last in its error output, behind those events
of its log that are shown.
-/

namespace MessageCatalog

namespace Location

/-- Drops what does not count at the end of the path of a directory: slashes,
and single points between slashes.  The argument is the path from its end. -/
def dropEmptyNames : Text → Text
  | [] => []
  | [c] => [c]
  | [c, d] => if c = '/' then [d] else [c, d]
  | c :: d :: e :: rest =>
      if c = '/' then dropEmptyNames (d :: e :: rest)
      else if c = '.' ∧ d = '/' then dropEmptyNames (e :: rest)
      else c :: d :: e :: rest

def parent (path : Text) : Text :=
  (dropEmptyNames (path.reverse.dropWhile (· ≠ '/'))).reverse

end Location

/-- How a command ends: with a text that it prints, with a failure that it reports, or
in the middle of a file that cannot be made. -/
inductive Ending
  | done (output : Text)
  | failed (failure : Failure)
  | crashed
  deriving DecidableEq, Repr

namespace Ending

def exitCode : Ending → Nat
  | done _ => 0
  | failed _ => 1
  | crashed => 101

def output : Ending → Text
  | done output => output
  | failed _ => []
  | crashed => []

/-- What the command itself says of its failure. -/
def error (wording : Wording) : Ending → Text
  | done _ => []
  | failed failure => failure.message wording
  | crashed => []

end Ending

/-- What a command has logged, how it has ended, and the files it has left. -/
structure CommandResult where
  log : List LogEvent
  ending : Ending
  tree : FileTree
  deriving DecidableEq, Repr

namespace CommandResult

def exitCode (result : CommandResult) : Nat := result.ending.exitCode

def output (result : CommandResult) : Text := result.ending.output

def error (wording : Wording) (result : CommandResult) : Text := result.ending.error wording

end CommandResult

/-- What surrounds a command and shows in its error output. -/
structure Console where
  wording : Wording
  /-- Whether an event is to be shown, if the environment says so itself. -/
  directive? : LogEvent → Option Bool
  /-- The line of an event.  The time that stands in it is known by the number of
  events that have been shown before. -/
  line : Nat → LogEvent → Text
  /-- What is said when the program ends in the middle of something. -/
  ofCrash : Text

namespace Console

def shows (console : Console) (level : LogLevel) (event : LogEvent) : Bool :=
  (console.directive? event).getD (level.includes event.level)

def linesOf (console : Console) (level : LogLevel) (log : List LogEvent) : Text :=
  ((log.filter (console.shows level)).mapIdx console.line).flatten

def lastWords (console : Console) : Ending → Text
  | .done _ => []
  | .failed failure => failure.message console.wording ++ ['\n']
  | .crashed => console.ofCrash

/-- All that a command writes to its error output. -/
def errorOutput (console : Console) (level : LogLevel) (result : CommandResult) : Text :=
  console.linesOf level result.log ++ console.lastWords result.ending

end Console

namespace FileTree

def put (tree : FileTree) (file : OutputFile) : FileTree × Option Failure :=
  let directory := Location.parent file.path
  let made :=
    tree.makeDirectories (.ofStart directory) (Text.splitOn '/' directory)
  if made.2 then
    match made.1.write? file.path (Utf8.encode file.contents) with
    | some written => (written, none)
    | none => (made.1, some (.fileNotWritten file.path))
  else (made.1, some (.directoryNotCreated directory))

/-- Writes files up to the first that cannot be written. -/
def putAll (tree : FileTree) : List OutputFile → FileTree × Option Failure
  | [] => (tree, none)
  | file :: rest =>
      match tree.put file with
      | (written, none) => putAll written rest
      | (written, some failure) => (written, some failure)

/-- What is logged of files that are written: each one, up to the first that cannot be
written. -/
def logOfFiles (tree : FileTree) : List OutputFile → List LogEvent
  | [] => []
  | file :: rest =>
      match tree.put file with
      | (written, none) => .fileWritten file.path file.language :: logOfFiles written rest
      | (_, some _) => []

def perform (tree : FileTree) (log : List LogEvent) (effects : Effects) : CommandResult :=
  let logged := log ++ tree.logOfFiles effects.files
  match tree.putAll effects.files with
  | (written, some failure) => ⟨logged, .failed failure, written⟩
  | (written, none) =>
      match effects.output with
      | some output => ⟨logged ++ effects.closing, .done output, written⟩
      | none => ⟨logged, .crashed, written⟩

def carryOut (tree : FileTree) (invocation : Invocation) : CommandResult :=
  let plan := invocation.plan tree.lookup?
  match plan.result with
  | .error failure => ⟨plan.log, .failed failure, tree⟩
  | .ok effects => tree.perform plan.log effects

/-- The error output of an invocation, which is as verbose as it asks for. -/
def errorOutput (tree : FileTree) (console : Console) (invocation : Invocation) : Text :=
  console.errorOutput (.ofVerbosity invocation.verbosity) (tree.carryOut invocation)

def run (tree : FileTree) (arguments : List Text) : Except Usage CommandResult :=
  (Arguments.read arguments).map tree.carryOut

end FileTree

end MessageCatalog
