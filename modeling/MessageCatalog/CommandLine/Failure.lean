import MessageCatalog.Document.Encoding
import MessageCatalog.Language.Tag
import MessageCatalog.Text.UnknownName

/-!
# Failures of commands

A command that fails says why in one message.  Where it is the file system that
refuses something, or where settings cannot be read as such, the message ends with
what has been said about it elsewhere.
-/

namespace MessageCatalog

inductive Failure
  | unreadableSettings (path : Text)
  | settingsNotText (path : Text)
  | invalidSettings (text : Text)
  | unknownFormat (unknown : UnknownName)
  | unknownPreprocessor (unknown : UnknownName)
  | outputNotDirectory (path : Text)
  | badLanguage (reason : LanguageCodeError)
  | noInput (path : Text)
  | inputNotFile (path : Text)
  | inputNotText (path : Text)
  | problems (reports : List Report)
  | badDocumentLanguage (reason : LanguageCodeError) (path : Text)
  | missingLanguage (language path : Text)
  | directoryNotCreated (path : Text)
  | fileNotWritten (path : Text)
  deriving DecidableEq, Repr

/-- The words of others that stand in messages. -/
structure Wording where
  /-- What is wrong with a text that does not hold settings. -/
  ofSettings : Text → Text
  /-- Why the file at a path cannot be read. -/
  ofReading : Text → Text
  /-- Why there cannot be a directory at a path. -/
  ofCreating : Text → Text
  /-- Why the file at a path cannot be written. -/
  ofWriting : Text → Text

namespace Failure

def reportLine (report : Report) : Text :=
  "ERROR on line ".toList ++ Text.ofNat report.line ++ ": ".toList ++ report.problem.message

def message (wording : Wording) : Failure → Text
  | unreadableSettings path =>
      "Cannot read config file ".toList ++ path ++ ": ".toList ++ wording.ofReading path
  | settingsNotText path =>
      "Cannot read config file ".toList ++ path
        ++ ": stream did not contain valid UTF-8".toList
  | invalidSettings text => "Invalid configuration: ".toList ++ wording.ofSettings text
  | unknownFormat unknown => unknown.formatMessage
  | unknownPreprocessor unknown => unknown.preprocessorMessage
  | outputNotDirectory path => "Output path is not a directory: ".toList ++ path
  | badLanguage reason => reason.message
  | noInput path => "File does not exist: ".toList ++ path
  | inputNotFile path => "Path is not a file: ".toList ++ path
  | inputNotText path =>
      "Cannot read ".toList ++ path ++ ": ".toList ++ Document.malformedMessage
  | problems reports => Text.join ['\n'] (reports.map reportLine)
  | badDocumentLanguage reason path =>
      reason.message ++ " (in ".toList ++ path ++ [')']
  | missingLanguage language path =>
      "Language '".toList ++ language ++ "' does not appear in ".toList ++ path
  | directoryNotCreated path =>
      "Cannot create directory ".toList ++ path ++ ": ".toList ++ wording.ofCreating path
  | fileNotWritten path =>
      "Cannot write ".toList ++ path ++ ": ".toList ++ wording.ofWriting path

end Failure

end MessageCatalog
