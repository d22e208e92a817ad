import MessageCatalog.CommandLine.Command
import MessageCatalog.CommandLine.Failure
import MessageCatalog.CommandLine.Log
import MessageCatalog.FileTree.Basic
import MessageCatalog.Output.Location
import MessageCatalog.Preprocessing.Named
import MessageCatalog.Settings.Basic

/-!
# What commands do

A command is decided before anything is changed: from the files that it
consults it follows whether it fails, and otherwise which files it writes and
what it prints.  Checks come in a fixed order: settings, format,
preprocessors, output directory, languages asked for, document, languages of
the document.  A file that cannot be made is none of the failures: it ends the
program, after the files before it have been written.
-/

namespace MessageCatalog

/-- What is found at a path. -/
abbrev View := Text → Option Node

/-- A file that is to be written for a language. -/
structure OutputFile where
  language : Text
  path : Text
  contents : Text
  deriving DecidableEq, Repr

/-- What a command does when its checks are passed.  It writes the files and then, if
they are all that it was to write, logs the closing events and prints the output. -/
structure Effects where
  files : List OutputFile
  closing : List LogEvent
  output : Option Text
  deriving DecidableEq, Repr

namespace Settings

def standardPath : Text := "sanat.toml".toList

def ofFile (path : Text) (contents : Bytes) : Except Failure Settings :=
  match Utf8.decode? contents with
  | none => .error (.settingsNotText path)
  | some text =>
      match ofText? text with
      | none => .error (.invalidSettings text)
      | some settings => .ok settings

/-- The settings of an invocation.  A file that is asked for has to exist. -/
def load (view : View) (path : Option Text) : Except Failure Settings :=
  match path with
  | some path =>
      match view path with
      | some (.file contents) => ofFile path contents
      | _ => .error (.unreadableSettings path)
  | none =>
      match view standardPath with
      | some (.file contents) => ofFile standardPath contents
      | _ => .ok standard

/-- What is logged of the settings: that there is a text of them, even if it is refused. -/
def log (view : View) (path : Option Text) : List LogEvent :=
  match view (path.getD standardPath) with
  | some (.file contents) =>
      if (Utf8.decode? contents).isSome then [.settingsRead (path.getD standardPath)] else []
  | _ => []

def logged (view : View) (path : Option Text) : Logged Failure Settings :=
  ⟨log view path, load view path⟩

def readOptions (settings : Settings) : ReadOptions :=
  { ReadOptions.standard with lenientIndentation := settings.lenientIndentation }

/-- The preprocessor for the names on the command line or, if there are none,
in the settings. -/
def preprocessor (settings : Settings) (names : Option Text) :
    Except Failure Preprocessor :=
  match names.or settings.processors with
  | none => .ok (.pipeline [])
  | some names => (Preprocessor.ofNames names).mapError .unknownPreprocessor

end Settings

namespace Document

/-- Reads the document at a path.  All problems together are one failure. -/
def load (view : View) (options : ReadOptions) (preprocessor : Preprocessor) (path : Text) :
    Except Failure Catalog :=
  match view path with
  | none => .error (.noInput path)
  | some .directory => .error (.inputNotFile path)
  | some (.file contents) =>
      match readEncoded options preprocessor contents with
      | none => .error (.inputNotText path)
      | some outcome => outcome.toExcept.mapError .problems

def logOfLoad (view : View) (options : ReadOptions) (preprocessor : Preprocessor)
    (path : Text) : List LogEvent :=
  match view path with
  | some (.file contents) =>
      match decode? contents with
      | some text =>
          .documentRead path (Utf8.encode text).length :: log options preprocessor text
      | none => []
  | _ => []

/-- A document without problems is logged as such. -/
def logged (view : View) (options : ReadOptions) (preprocessor : Preprocessor) (path : Text) :
    Logged Failure Catalog :=
  let loaded := load view options preprocessor path
  let accepted := match loaded with
    | .ok catalog =>
        [.inputParsed path catalog.sections.length catalog.languages.codes.length]
    | .error _ => []
  ⟨logOfLoad view options preprocessor path ++ accepted, loaded⟩

end Document

namespace Generation

/-- Refuses an output directory that is something else. -/
def checkDirectory (view : View) (path : Text) : Except Failure Unit :=
  match view path with
  | some (.file _) => .error (.outputNotDirectory path)
  | _ => .ok ()

/-- Refuses the first code that is no language code. -/
def checkCodes (failure : LanguageCodeError → Failure) :
    List Text → Except Failure Unit
  | [] => .ok ()
  | code :: rest =>
      match Language.check code with
      | some reason => .error (failure reason)
      | none => checkCodes failure rest

/-- The languages to write, given those that are asked for. -/
def languagesOf (format : Format) (input : Text) (asked : List Text) (catalog : Catalog) :
    Except Failure (List Text) :=
  if !format.isPerLanguage then .ok [[]]
  else if asked.isEmpty then
    (checkCodes (.badDocumentLanguage · input) catalog.languages.codes).map fun _ =>
      catalog.languages.codes
  else
    match asked.find? fun language => !catalog.languages.contains language with
    | some missing => .error (.missingLanguage missing input)
    | none => .ok asked

/-- The file for a language, if it can be made. -/
def fileFor? (format : Format) (directory : Text) (catalog : Catalog) (language : Text) :
    Option OutputFile :=
  (format.render? catalog language).map fun contents =>
    ⟨language, format.outputPath directory language, contents⟩

/-- The files for languages, up to the first one that cannot be made. -/
def filesFor (format : Format) (directory : Text) (catalog : Catalog) :
    List Text → List OutputFile
  | [] => []
  | language :: rest =>
      match fileFor? format directory catalog language with
      | some file => file :: filesFor format directory catalog rest
      | none => []

def effectsFor (generation : Generation) (format : Format) (catalog : Catalog)
    (languages : List Text) : Effects :=
  let files := filesFor format generation.directory catalog languages
  { files := files
    closing := [.filesGenerated format files.length]
    output :=
      if files.length = languages.length then
        some (files.flatMap fun file => file.path ++ ['\n'])
      else none }

def plan (view : View) (settings : Settings) (generation : Generation) :
    Logged Failure Effects := do
  let format ← .ofExcept ((Format.ofText generation.format).mapError .unknownFormat)
  let preprocessor ← .ofExcept (settings.preprocessor generation.processors)
  .ofExcept (checkDirectory view generation.directory)
  let asked :=
    if generation.languages.isEmpty then settings.languages else generation.languages
  .ofExcept (checkCodes .badLanguage asked)
  let catalog ← Document.logged view settings.readOptions preprocessor generation.input
  let languages ← .ofExcept (languagesOf format generation.input asked catalog)
  return generation.effectsFor format catalog languages

end Generation

namespace Command

def validMessage (input : Text) (catalog : Catalog) : Text :=
  "✅ ".toList ++ input ++ " is valid: ".toList ++ Text.ofNat catalog.entries.length
    ++ " translations in ".toList ++ Text.ofNat catalog.sections.length
    ++ " sections, languages: ".toList
    ++ Text.join ", ".toList catalog.languages.codes ++ ['\n']

/-- A command that changes nothing and prints a text. -/
def printing (output : Text) : Effects := ⟨[], [], some output⟩

def validation (view : View) (settings : Settings) (input : Text)
    (processors : Option Text) : Logged Failure Effects := do
  let preprocessor ← .ofExcept (settings.preprocessor processors)
  let catalog ← Document.logged view settings.readOptions preprocessor input
  return printing (validMessage input catalog)

/-- A text with spaces behind it up to a width. -/
def padded (width : Nat) (text : Text) : Text :=
  text ++ List.replicate (width - text.length) ' '

def formatLine (format : Format) : Text :=
  "  ".toList ++ padded 14 format.name
    ++ (if format.isPerLanguage then " one file per language\n".toList
      else " one file for all languages\n".toList)

def preprocessorLine (named : NamedPreprocessor) : Text :=
  "  ".toList ++ named.name ++ ['\n']

def formatsListing : Text :=
  "Output formats:\n".toList ++ Format.all.flatMap formatLine
    ++ "Preprocessors:\n".toList ++ NamedPreprocessor.all.flatMap preprocessorLine

end Command

namespace Invocation

/-- What an invocation does.  Only commands that read a document look at the
settings, and no completions are printed. -/
def plan (view : View) (invocation : Invocation) : Logged Failure Effects :=
  match invocation.command with
  | .generate generation =>
      (Settings.logged view invocation.settings).bind fun settings =>
        generation.plan view settings
  | .validate input processors =>
      (Settings.logged view invocation.settings).bind fun settings =>
        Command.validation view settings input processors
  | .formats => pure (Command.printing Command.formatsListing)
  | .completions _ => pure (Command.printing [])

def effects (view : View) (invocation : Invocation) : Except Failure Effects :=
  (invocation.plan view).result

/-- The paths that an invocation looks at before it does anything. -/
def consulted (invocation : Invocation) : List Text :=
  invocation.settings.getD Settings.standardPath
    :: match invocation.command with
      | .generate generation => [generation.directory, generation.input]
      | .validate input _ => [input]
      | .formats => []
      | .completions _ => []

end Invocation

end MessageCatalog
