import MessageCatalog.Text.Basic

/-!
# Commands

What the command line can be asked to do.
-/

namespace MessageCatalog

inductive Shell
  | bash
  | elvish
  | fish
  | powershell
  | zsh
  deriving DecidableEq, Repr

namespace Shell

def all : List Shell := [bash, elvish, fish, powershell, zsh]

def name : Shell → Text
  | bash => "bash".toList
  | elvish => "elvish".toList
  | fish => "fish".toList
  | powershell => "powershell".toList
  | zsh => "zsh".toList

def ofName? (text : Text) : Option Shell := all.find? fun shell => shell.name = text

end Shell

structure Generation where
  input : Text
  format : Text
  directory : Text
  processors : Option Text
  /-- The languages to write; none at all stands for all languages of the
  document. -/
  languages : List Text
  deriving DecidableEq, Repr

inductive Command
  | generate (generation : Generation)
  | validate (input : Text) (processors : Option Text)
  | formats
  | completions (shell : Shell)
  deriving DecidableEq, Repr

/-- A command with the options that every command takes. -/
structure Invocation where
  verbosity : Nat
  settings : Option Text
  command : Command
  deriving DecidableEq, Repr

end MessageCatalog
