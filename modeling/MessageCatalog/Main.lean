import MessageCatalog.CommandLine.Run

/-!
# The program

The program reads its arguments, looks at the files that the command consults,
and carries out what follows from them.
-/

namespace MessageCatalog

namespace Program

def nodeAt (path : Text) : IO (Option Node) := do
  try
    let resolved ← IO.FS.realPath (String.ofList path)
    if ← resolved.isDir then return some .directory
    let contents ← IO.FS.readBinFile resolved
    return some (.file contents.toList)
  catch _ => return none

def viewOf (paths : List Text) : IO View := do
  let nodes ← paths.mapM nodeAt
  return fun path => ((paths.zip nodes).lookup path).join

/-- A failure, with the words of the system about it. -/
abbrev Refusal := Failure × Text

def put (file : OutputFile) : IO (Option Refusal) := do
  let directory := Location.parent file.path
  try IO.FS.createDirAll (String.ofList directory)
  catch reason => return some (.directoryNotCreated directory, reason.toString.toList)
  try IO.FS.writeFile (String.ofList file.path) (String.ofList file.contents)
  catch reason => return some (.fileNotWritten file.path, reason.toString.toList)
  return none

/-- Writes files up to the first that cannot be written, and logs them. -/
def putAll : List OutputFile → IO (List LogEvent × Option Refusal)
  | [] => return ([], none)
  | file :: rest => do
      match ← put file with
      | some refusal => return ([], some refusal)
      | none =>
          let (log, refusal) ← putAll rest
          return (.fileWritten file.path file.language :: log, refusal)

def lineOf (event : LogEvent) : Text :=
  event.level.name ++ ' ' :: event.message
    ++ event.fields.flatMap (fun field => ' ' :: field.1 ++ '=' :: field.2) ++ ['\n']

/-- The console of a terminal.  The lines of its log have no time in them. -/
def console (words : Text) : Console where
  wording := ⟨fun _ => words, fun _ => words, fun _ => words, fun _ => words⟩
  directive? := fun _ => none
  line := fun _ => lineOf
  ofCrash := "a file cannot be made: capacity overflow\n".toList

def close (invocation : Invocation) (log : List LogEvent) (ending : Ending) (words : Text) :
    IO UInt32 := do
  let shown := (console words).linesOf (.ofVerbosity invocation.verbosity) log
  IO.eprint (String.ofList (shown ++ (console words).lastWords ending))
  IO.print (String.ofList ending.output)
  return UInt32.ofNat ending.exitCode

def carryOut (invocation : Invocation) : IO UInt32 := do
  let plan := invocation.plan (← viewOf invocation.consulted)
  match plan.result with
  | .error failure => close invocation plan.log (.failed failure) "not accepted".toList
  | .ok effects =>
      let (written, refusal) ← putAll effects.files
      match refusal, effects.output with
      | some (failure, words), _ =>
          close invocation (plan.log ++ written) (.failed failure) words
      | none, some output =>
          close invocation (plan.log ++ written ++ effects.closing) (.done output) []
      | none, none => close invocation (plan.log ++ written) .crashed []

def usageText : String :=
  "Usage: sanat [OPTIONS] <COMMAND>\n\n"
    ++ "Commands:\n"
    ++ "  generate <INPUT> <FORMAT> <OUTDIR>  write the files of a format\n"
    ++ "  validate <INPUT>                    check a document\n"
    ++ "  formats                             list formats and preprocessors\n"
    ++ "  completions <SHELL>                 accepted for every known shell\n"
    ++ "  help [COMMAND]                      print this text\n\n"
    ++ "Options:\n"
    ++ "  -v, --verbose             log more\n"
    ++ "      --config <FILE>       read settings from a file\n"
    ++ "  -p, --processors <NAMES>  preprocess values\n"
    ++ "  -l, --lang <LANGUAGE>     write one language (repeatable)\n"

def explain (usage : Usage) : IO UInt32 := do
  match usage with
  | .shown => IO.print usageText
  | .refused => IO.eprint usageText
  return UInt32.ofNat usage.exitCode

end Program

end MessageCatalog

open MessageCatalog in
def main (arguments : List String) : IO UInt32 :=
  match Arguments.read (arguments.map String.toList) with
  | .error usage => Program.explain usage
  | .ok invocation => Program.carryOut invocation
