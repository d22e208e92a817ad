import MessageCatalog.CommandLine.Command

/-!
# Arguments

Arguments are read from left to right.  Options that every command takes may
stand in front of the name of the command or behind it; the ones behind it
win.  Short options may share a hyphen, the value of an option may be part of
the same argument or the next one, and behind two hyphens no argument is an
option.  Reading stops at the first argument that asks for help or cannot be
understood.
-/

namespace MessageCatalog

inductive Usage
  | shown
  | refused
  deriving DecidableEq, Repr

namespace Usage

def exitCode : Usage → Nat
  | shown => 0
  | refused => 2

end Usage

namespace Arguments

inductive Scope
  | outermost
  | generate
  | validate
  | formats
  | completions
  /-- Behind `help`, where the name of a command may follow. -/
  | help
  /-- Behind the name of a command that help is asked for. -/
  | helpTopic
  deriving DecidableEq, Repr

inductive Switch
  | verbose
  | settings
  | processors
  | language
  | help
  | version
  deriving DecidableEq, Repr

namespace Scope

def commands : List (String × Scope) :=
  [("generate", generate), ("validate", validate), ("formats", formats),
    ("completions", completions), ("help", help)]

def ofName? (name : Text) : Option Scope :=
  (commands.find? fun entry => entry.1.toList = name).map Prod.snd

/-- The options that a command has besides the general ones. -/
def switches : Scope → List Switch
  | outermost => [.version]
  | generate => [.processors, .language]
  | validate => [.processors]
  | _ => []

/-- Whether an option is understood. -/
def allows (scope : Scope) (switch : Switch) : Bool :=
  switch = .verbose || switch = .settings || switch = .help || scope.switches.contains switch

def arity : Scope → Nat
  | generate => 3
  | validate => 1
  | completions => 1
  | _ => 0

/-- Whether the value at a position is acceptable: paths are not empty, and
shells are known. -/
def accepts (scope : Scope) (position : Nat) (value : Text) : Bool :=
  match scope with
  | generate => position = 1 || !value.isEmpty
  | validate => !value.isEmpty
  | completions => (Shell.ofName? value).isSome
  | _ => true

end Scope

namespace Switch

def ofLetter? (c : Char) : Option Switch :=
  if c = 'v' then some verbose
  else if c = 'p' then some processors
  else if c = 'l' then some language
  else if c = 'h' then some help
  else if c = 'V' then some version
  else none

def ofWord? (word : Text) : Option Switch :=
  if word = "verbose".toList then some verbose
  else if word = "config".toList then some settings
  else if word = "processors".toList then some processors
  else if word = "lang".toList then some language
  else if word = "help".toList then some help
  else if word = "version".toList then some version
  else none

def hasValue : Switch → Bool
  | settings => true
  | processors => true
  | language => true
  | _ => false

end Switch

structure Given where
  verbosity : Nat
  settings : Option Text
  processors : Option Text
  languages : List Text
  values : List Text
  deriving DecidableEq, Repr

namespace Given

def nothing : Given := ⟨0, none, none, [], []⟩

/-- Takes the value of an option.  Only languages may be given repeatedly, and
the path of the settings is not empty. -/
def take (given : Given) (switch : Switch) (value : Text) : Except Usage Given :=
  match switch with
  | .settings =>
      if given.settings.isSome ∨ value.isEmpty then .error .refused
      else .ok { given with settings := some value }
  | .processors =>
      if given.processors.isSome then .error .refused
      else .ok { given with processors := some value }
  | .language => .ok { given with languages := given.languages ++ [value] }
  | _ => .error .refused

def follow (given : Given) (switch : Switch) : Except Usage Given :=
  match switch with
  | .verbose => .ok { given with verbosity := given.verbosity + 1 }
  | .help => .error .shown
  | .version => .error .shown
  | _ => .error .refused

end Given

structure Reader where
  scope : Scope
  /-- What was given in front of the name of the command. -/
  outer : Given
  given : Given
  /-- The option that waits for its value. -/
  pending : Option Switch
  /-- Whether two hyphens have been read. -/
  onlyValues : Bool
  deriving DecidableEq, Repr

namespace Reader

def start : Reader := ⟨.outermost, .nothing, .nothing, none, false⟩

def value (reader : Reader) (text : Text) : Except Usage Reader :=
  match reader.scope with
  | .outermost =>
      if reader.onlyValues then .error .refused
      else
        match Scope.ofName? text with
        | some scope => .ok ⟨scope, reader.given, .nothing, none, false⟩
        | none => .error .refused
  | .help =>
      match Scope.ofName? text with
      | some _ => .ok { reader with scope := .helpTopic }
      | none => .error .refused
  | .helpTopic => .error .refused
  | scope =>
      let position := reader.given.values.length
      if position < scope.arity ∧ scope.accepts position text then
        .ok { reader with given := { reader.given with values := reader.given.values ++ [text] } }
      else .error .refused

def follow (reader : Reader) (switch : Switch) : Except Usage Reader :=
  (reader.given.follow switch).map fun given => { reader with given := given }

def take (reader : Reader) (switch : Switch) (value : Text) : Except Usage Reader :=
  (reader.given.take switch value).map fun given =>
    { reader with given := given, pending := none }

/-- An option that is understood here. -/
def allowed (reader : Reader) (switch : Option Switch) : Except Usage Switch :=
  match switch with
  | some switch => if reader.scope.allows switch then .ok switch else .error .refused
  | none => .error .refused

/-- Takes a word behind two hyphens, with the value behind an equals sign. -/
def word (reader : Reader) (text : Text) : Except Usage Reader :=
  let parts := (Text.splitFirst? '=' text).getD (text, [])
  let isAttached := text.contains '='
  (reader.allowed (Switch.ofWord? parts.1)).bind fun switch =>
    if switch.hasValue then
      if isAttached then reader.take switch parts.2
      else .ok { reader with pending := some switch }
    else if isAttached then .error .refused
    else reader.follow switch

/-- Takes the letters behind a hyphen.  What follows the letter of an option
with a value is the value, with or without an equals sign in front. -/
def letters (reader : Reader) : Text → Except Usage Reader
  | [] => .ok reader
  | c :: rest =>
      match reader.allowed (Switch.ofLetter? c) with
      | .error usage => .error usage
      | .ok switch =>
          if switch.hasValue then
            if rest.isEmpty then .ok { reader with pending := some switch }
            else if rest.head? = some '=' then reader.take switch rest.tail
            else reader.take switch rest
          else
            match reader.follow switch with
            | .error usage => .error usage
            | .ok reader => letters reader rest

/-- Takes one argument. -/
def step (reader : Reader) (argument : Text) : Except Usage Reader :=
  let isValue := argument.head? ≠ some '-' ∨ argument = ['-']
  if reader.onlyValues ∨ reader.scope = .help ∨ reader.scope = .helpTopic then
    reader.value argument
  else
    match reader.pending with
    | some switch => if isValue then reader.take switch argument else .error .refused
    | none =>
        if isValue then reader.value argument
        else if argument = "--".toList then .ok { reader with onlyValues := true }
        else if "--".toList.isPrefixOf argument then reader.word (argument.drop 2)
        else reader.letters (argument.drop 1)

def command (scope : Scope) (given : Given) : Except Usage Command :=
  match scope, given.values with
  | .generate, [input, format, directory] =>
      .ok (.generate ⟨input, format, directory, given.processors, given.languages⟩)
  | .validate, [input] => .ok (.validate input given.processors)
  | .formats, [] => .ok .formats
  | .completions, [shell] =>
      match Shell.ofName? shell with
      | some shell => .ok (.completions shell)
      | none => .error .refused
  | .help, _ => .error .shown
  | .helpTopic, _ => .error .shown
  | _, _ => .error .refused

def finish (reader : Reader) : Except Usage Invocation :=
  if reader.pending.isSome then .error .refused
  else
    (command reader.scope reader.given).map fun command =>
      let inner := reader.given
      { verbosity := if inner.verbosity = 0 then reader.outer.verbosity else inner.verbosity
        settings := inner.settings.or reader.outer.settings
        command }

end Reader

def read (arguments : List Text) : Except Usage Invocation :=
  (arguments.foldlM Reader.step .start).bind Reader.finish

end Arguments

end MessageCatalog
