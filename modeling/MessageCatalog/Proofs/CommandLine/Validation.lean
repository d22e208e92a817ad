import MessageCatalog.Proofs.CommandLine.Generation
import MessageCatalog.Proofs.CommandLine.Rejection

/-!
# Validations foretell generations

A validation reads the settings, the preprocessors and the document, in this order.  A
generation reads them in the same order, and what it checks in between does not depend
on them.  So if these checks are passed, both commands fail for the same cause, or both
come to have the same catalog.  From there on a generation fails only for its languages
or because a file cannot be written.  There is one more way to end, which no validation
foretells: it crashes at a Java file that cannot be made.
-/

namespace MessageCatalog

namespace Generation

variable {view : View} {path : Option Text} {generation : Generation}

def validation (verbosity : Nat) (path : Option Text) (generation : Generation) : Invocation :=
  ⟨verbosity, path, .validate generation.input generation.processors⟩

/-- What a generation and its validation have in common: the settings and the catalog
that they come to have, and what they log on the way. -/
def read (view : View) (path : Option Text) (generation : Generation) :
    Logged Failure (Settings × Catalog) :=
  (Settings.logged view path).bind fun settings =>
    (Logged.ofExcept (settings.preprocessor generation.processors)).bind fun preprocessor =>
      (Document.logged view settings.readOptions preprocessor generation.input).bind
        fun catalog => pure (settings, catalog)

theorem plan_validation (verbosity : Nat) :
    (generation.validation verbosity path).plan view =
      (generation.read view path).bind fun found =>
        pure (Command.printing (Command.validMessage generation.input found.2)) := by
  simp only [read, Logged.bind_assoc]
  rfl

/-- A generation that passes the checks in between is decided by what it reads. -/
theorem plan_generate {format : Format} (verbosity : Nat)
    (hformat : Format.ofText generation.format = .ok format)
    (hdirectory : ∀ contents, view generation.directory ≠ some (.file contents))
    (hlanguages : ∀ settings, Settings.load view path = .ok settings →
      ∀ code ∈ generation.asked settings, Language.check code = none) :
    Invocation.plan view ⟨verbosity, path, .generate generation⟩ =
      (generation.read view path).bind fun found => .ofExcept
        ((languagesOf format generation.input (generation.asked found.1) found.2).map
          (generation.effectsFor format found.2)) := by
  rw [Invocation.plan_of_generate rfl, read, Logged.bind_assoc]
  apply Logged.bind_congr
  intro settings hsettings
  cases hpreprocessor : settings.preprocessor generation.processors with
  | error failure =>
      unfold plan
      rw [hformat, hpreprocessor]
      rfl
  | ok preprocessor =>
      rw [plan_of_checked ⟨hformat, hpreprocessor, hdirectory, hlanguages settings hsettings⟩,
        Logged.ofExcept_ok_bind, Logged.bind_assoc]
      rfl

theorem exists_run_of_read {format : Format} {settings : Settings} {catalog : Catalog}
    (hformat : Format.ofText generation.format = .ok format)
    (hread : (generation.read view path).result = .ok (settings, catalog)) :
    ∃ run : Run, run.generation = generation ∧ run.Loaded view path ∧
      run.format = format ∧ run.settings = settings ∧ run.catalog = catalog := by
  obtain ⟨found, hsettings, hread⟩ := Except.exists_of_bind_eq_ok hread
  obtain ⟨preprocessor, hpreprocessor, hread⟩ := Except.exists_of_bind_eq_ok hread
  obtain ⟨document, hdocument, hread⟩ := Except.exists_of_bind_eq_ok hread
  cases hread
  exact ⟨⟨generation, settings, format, preprocessor, catalog⟩, rfl,
    ⟨hsettings, hformat, hpreprocessor, hdocument⟩, rfl, rfl, rfl⟩

namespace Run

/-- The languages of a run are at fault: one that it is asked for is not in the document
or, if it is asked for none, the document has one that is no language code. -/
inductive LanguageFails (run : Run) : Failure → Prop
  | missing {language : Text} (hasked : language ∈ run.asked)
      (hmissing : run.catalog.languages.contains language = false) :
      LanguageFails run (.missingLanguage language run.generation.input)
  | invalid {code : Text} {reason : LanguageCodeError} (hasked : run.asked = [])
      (hcode : code ∈ run.catalog.languages.codes)
      (hreason : Language.check code = some reason) :
      LanguageFails run (.badDocumentLanguage reason run.generation.input)

/-- One file of a run cannot be written, or its directory cannot be made, after the files
before it have been written. -/
def WritingFails (run : Run) (before after : FileTree) (failure : Failure) : Prop :=
  ∃ written file rest between, run.files = written ++ file :: rest ∧
    before.putAll written = (between, none) ∧ between.put file = (after, some failure) ∧
    (failure = .directoryNotCreated (Location.parent file.path) ∨
      failure = .fileNotWritten file.path)

/-- A run comes to a language for which no file can be made, since a value asks for more
decimals than there is room for in a text.  The files of the languages before it have
been written. -/
def Crashes (run : Run) (before after : FileTree) : Prop :=
  before.putAll run.files = (after, none) ∧ run.format = .java ∧ ∃ language rest,
    run.languages = run.files.map OutputFile.language ++ language :: rest ∧
    ∃ shown, run.catalog.Lists .java language shown ∧
      ∃ long ∈ shown, ∃ p ∈ Segment.placeholders long.2.segments, MessageFormat.TooLong p

theorem rendered?_eq_none_iff {run : Run} {language : Text} :
    run.rendered? language = none ↔ run.format = .java ∧
      ∃ shown, run.catalog.Lists .java language shown ∧
        ∃ long ∈ shown, ∃ p ∈ Segment.placeholders long.2.segments,
          MessageFormat.TooLong p := by
  simp only [Catalog.lists_iff, exists_eq_left, ← JavaProperties.render?_eq_none_iff]
  unfold rendered? Format.render?
  cases run.format <;> simp

end Run

end Generation

namespace FileTree

variable {tree : FileTree} {path : Option Text} {generation : Generation}

/-- Whatever was to follow, a command ends where its reading fails. -/
theorem carryOut_of_read_eq_error {invocation : Invocation} {failure : Failure}
    {next : Settings × Catalog → Logged Failure Effects}
    (hplan : invocation.plan tree.lookup? = (generation.read tree.lookup? path).bind next)
    (hread : (generation.read tree.lookup? path).result = .error failure) :
    tree.carryOut invocation =
      ⟨(generation.read tree.lookup? path).log, .failed failure, tree⟩ := by
  unfold carryOut
  rw [hplan, Logged.bind_of_result_eq_error hread]

theorem carryOut_validation_of_read_eq_ok (verbosity : Nat) {found : Settings × Catalog}
    (hread : (generation.read tree.lookup? path).result = .ok found) :
    tree.carryOut (generation.validation verbosity path) =
      ⟨(generation.read tree.lookup? path).log,
        .done (Command.validMessage generation.input found.2), tree⟩ := by
  unfold carryOut
  rw [Generation.plan_validation, Logged.bind_of_result_eq_ok hread]
  dsimp only [pure]
  rw [perform_printing, List.append_nil]

theorem writingFails_of_putAll {run : Generation.Run} {after : FileTree} {failure : Failure}
    (hput : tree.putAll run.files = (after, some failure)) :
    run.WritingFails tree after failure := by
  obtain ⟨written, file, rest, between, hsplit, hwritten, hlast⟩ := exists_of_putAll_eq_some hput
  exact ⟨written, file, rest, between, hsplit, hwritten, hlast, failure_of_put hlast⟩

/-- Once the languages are known, what is left to fail is the writing and the making of
files. -/
theorem carryOut_of_run {run : Generation.Run} {invocation : Invocation}
    (heffects : invocation.effects tree.lookup? = .ok run.effects) :
    (tree.carryOut invocation).exitCode = 0 ∨
      (∃ failure, (tree.carryOut invocation).ending = .failed failure ∧
        run.WritingFails tree (tree.carryOut invocation).tree failure) ∨
      (tree.carryOut invocation).ending = .crashed ∧
        run.Crashes tree (tree.carryOut invocation).tree := by
  rw [carryOut_of_effects_eq_ok heffects]
  rcases perform_cases tree (invocation.plan tree.lookup?).log run.effects with
    ⟨after, failure, hput, hresult⟩ | ⟨after, hput, ⟨output, -, hresult⟩ | ⟨hnone, hresult⟩⟩
  · right
    left
    rw [hresult]
    exact ⟨failure, rfl, writingFails_of_putAll hput⟩
  · left
    rw [hresult]
    rfl
  · right
    right
    rcases run.output_effects_cases with ⟨⟨output, houtput⟩, -⟩ |
      ⟨-, language, rest, hsplit, hbroken⟩
    · rw [hnone] at houtput
      contradiction
    · obtain ⟨hjava, hlong⟩ := Generation.Run.rendered?_eq_none_iff.mp hbroken
      rw [hresult]
      exact ⟨rfl, hput, hjava, language, rest, hsplit, hlong⟩

theorem carryOut_of_languagesOf_eq_error {run : Generation.Run} {invocation : Invocation}
    {failure : Failure} (hperLanguage : run.format.isPerLanguage = true)
    (hfails : run.LanguageFails failure)
    (heffects : invocation.effects tree.lookup? = .error failure) :
    ∃ failure, (tree.carryOut invocation).ending = .failed failure ∧
      (run.format.isPerLanguage = true ∧ run.LanguageFails failure ∧
          (tree.carryOut invocation).tree = tree ∨
        run.WritingFails tree (tree.carryOut invocation).tree failure) := by
  rw [carryOut_of_effects_eq_error heffects]
  exact ⟨failure, rfl, Or.inl ⟨hperLanguage, hfails, rfl⟩⟩

/-- Once the document has been read, the languages may fail as well. -/
theorem carryOut_of_languagesOf {run : Generation.Run} {invocation : Invocation}
    (hasked : ∀ code ∈ run.asked, Language.check code = none)
    (heffects : invocation.effects tree.lookup? =
      (Generation.languagesOf run.format run.generation.input run.asked run.catalog).map
        (run.generation.effectsFor run.format run.catalog)) :
    (tree.carryOut invocation).exitCode = 0 ∨
      (∃ failure, (tree.carryOut invocation).ending = .failed failure ∧
        (run.format.isPerLanguage = true ∧ run.LanguageFails failure ∧
            (tree.carryOut invocation).tree = tree ∨
          run.WritingFails tree (tree.carryOut invocation).tree failure)) ∨
      (tree.carryOut invocation).ending = .crashed ∧
        run.Crashes tree (tree.carryOut invocation).tree := by
  rcases Generation.languagesOf_cases run.format run.generation.input run.asked run.catalog with
    ⟨languages, hfound⟩ | ⟨hperLanguage, hlanguages⟩
  · rw [hfound, (Generation.languages_of_languagesOf run hasked hfound).1] at heffects
    have hrun : invocation.effects tree.lookup? = .ok run.effects := heffects
    rcases carryOut_of_run hrun with hdone | ⟨failure, hfailed, hwriting⟩ | hcrash
    · exact Or.inl hdone
    · exact Or.inr (Or.inl ⟨failure, hfailed, Or.inr hwriting⟩)
    · exact Or.inr (Or.inr hcrash)
  · right
    left
    rcases hlanguages with ⟨language, hlanguage, hmissing, hfound⟩ |
      ⟨hnone, code, hcode, reason, hreason, hfound⟩
    · rw [hfound] at heffects
      exact carryOut_of_languagesOf_eq_error hperLanguage (.missing hlanguage hmissing) heffects
    · rw [hfound] at heffects
      exact carryOut_of_languagesOf_eq_error hperLanguage (.invalid hnone hcode hreason) heffects

/-- Whatever makes a validation fail makes the generation fail in the same way: with the
same log and message, whatever is shown of them.  And when the validation succeeds, the
generation fails at most for its languages, without having changed anything, or at a file
that cannot be written.  But it crashes where a Java file cannot be made. -/
theorem carryOut_generate_of_validation (verbosity other : Nat)
    (hformat : ∃ format, Format.ofText generation.format = .ok format)
    (hdirectory : ∀ contents, tree.lookup? generation.directory ≠ some (.file contents))
    (hlanguages : ∀ settings, Settings.load tree.lookup? path = .ok settings →
      ∀ code ∈ generation.asked settings, Language.check code = none) :
    let validated := tree.carryOut (generation.validation verbosity path)
    let generated := tree.carryOut ⟨other, path, .generate generation⟩
    (validated.exitCode = 1 → generated.exitCode = 1 ∧ generated = validated ∧
        ∀ console, tree.errorOutput console ⟨verbosity, path, .generate generation⟩ =
          tree.errorOutput console (generation.validation verbosity path)) ∧
      (validated.exitCode = 0 →
        ∃ run : Generation.Run, run.generation = generation ∧ run.Loaded tree.lookup? path ∧
          (generated.exitCode = 0 ∨
            (∃ failure, generated.ending = .failed failure ∧
              (run.format.isPerLanguage = true ∧ run.LanguageFails failure ∧
                  generated.tree = tree ∨
                run.WritingFails tree generated.tree failure)) ∨
            generated.ending = .crashed ∧ run.Crashes tree generated.tree)) := by
  obtain ⟨format, hformat⟩ := hformat
  have hplan := fun verbosity =>
    Generation.plan_generate verbosity hformat hdirectory hlanguages
  dsimp only
  cases hread : (generation.read tree.lookup? path).result with
  | error failure =>
      have hgenerated := fun verbosity => carryOut_of_read_eq_error (hplan verbosity) hread
      rw [carryOut_of_read_eq_error (Generation.plan_validation verbosity) hread, hgenerated]
      refine ⟨fun _ => ⟨rfl, rfl, ?_⟩, fun hexit => absurd hexit Nat.one_ne_zero⟩
      intro console
      rw [errorOutput, errorOutput, hgenerated,
        carryOut_of_read_eq_error (Generation.plan_validation verbosity) hread]
      rfl
  | ok found =>
      obtain ⟨settings, catalog⟩ := found
      rw [carryOut_validation_of_read_eq_ok verbosity hread]
      refine ⟨fun hexit => absurd hexit Nat.zero_ne_one, fun _ => ?_⟩
      obtain ⟨run, rfl, hloaded, rfl, rfl, rfl⟩ := Generation.exists_run_of_read hformat hread
      have hasked : ∀ code ∈ run.asked, Language.check code = none :=
        hlanguages run.settings hloaded.settings
      have heffects : Invocation.effects tree.lookup? ⟨other, path, .generate run.generation⟩ =
          (Generation.languagesOf run.format run.generation.input run.asked run.catalog).map
            (run.generation.effectsFor run.format run.catalog) := by
        rw [Invocation.effects, hplan, Logged.bind_of_result_eq_ok hread]
        rfl
      exact ⟨run, rfl, hloaded, carryOut_of_languagesOf hasked heffects⟩

theorem not_file_of_lookup?_eq_none {path : Text} (hnone : tree.lookup? path = none)
    (contents : Bytes) : tree.lookup? path ≠ some (.file contents) := by
  rw [hnone]
  exact (Option.some_ne_none _).symm

def germanGeneration : Generation :=
  ⟨"in".toList, "apple".toList, "out".toList, none, ["de".toList]⟩

/-- The faulty document fails both commands.  The Catalan one is valid, and so it is the
language that its generation fails for. -/
theorem carryOut_generate_of_validation_faultyFiles :
    (faultyFiles.carryOut ⟨0, none, .generate faultyGeneration⟩).exitCode = 1 ∧
      faultyFiles.carryOut ⟨0, none, .generate faultyGeneration⟩ =
        faultyFiles.carryOut (faultyGeneration.validation 0 none) ∧
      (Generation.catalanFiles.carryOut (germanGeneration.validation 0 none)).exitCode = 0 ∧
      ∃ run : Generation.Run, run.generation = germanGeneration ∧ ∃ failure,
        (Generation.catalanFiles.carryOut ⟨0, none, .generate germanGeneration⟩).ending =
          .failed failure := by
  have hfree : faultyFiles.lookup? faultyGeneration.directory = none := by decide +kernel
  have henglish : ∀ code ∈ ["en".toList], Language.check code = none := by decide
  obtain ⟨hfails, -⟩ := carryOut_generate_of_validation 0 0 ⟨.apple, rfl⟩
    (not_file_of_lookup?_eq_none hfree) (fun _ _ => henglish)
  have hempty : Generation.catalanFiles.lookup? germanGeneration.directory = none := by
    decide +kernel
  have hgerman : ∀ code ∈ ["de".toList], Language.check code = none := by decide
  obtain ⟨-, hsucceeds⟩ := carryOut_generate_of_validation 0 0 ⟨.apple, rfl⟩
    (not_file_of_lookup?_eq_none hempty) (fun _ _ => hgerman)
  have hfaulty : (faultyFiles.carryOut (faultyGeneration.validation 0 none)).exitCode = 1 := by
    decide +kernel
  have hvalid : (Generation.catalanFiles.carryOut
      (germanGeneration.validation 0 none)).exitCode = 0 := by decide +kernel
  have hmissing : (Generation.catalanFiles.carryOut
      ⟨0, none, .generate germanGeneration⟩).exitCode = 1 := by decide +kernel
  obtain ⟨hexit, hsame, -⟩ := hfails hfaulty
  obtain ⟨run, hgeneration, -, hending⟩ := hsucceeds hvalid
  refine ⟨hexit, hsame, hvalid, run, hgeneration, ?_⟩
  rcases hending with hdone | ⟨failure, hfailure, -⟩ | ⟨hcrash, -⟩
  · exact absurd (hmissing.symm.trans hdone) Nat.one_ne_zero
  · exact ⟨failure, hfailure⟩
  · rw [CommandResult.exitCode, hcrash] at hmissing
    exact absurd hmissing (by decide)

def endlessFiles : FileTree :=
  ⟨[(["in".toList], .file (Utf8.encode
    "=== S ===\n  K\n    en = \x7bf.18446744073709551615\x7d\n".toList))]⟩

def endlessGeneration : Generation := ⟨"in".toList, "java".toList, "out".toList, none, []⟩

/-- A document may be valid although no Java file can be made of it. -/
theorem not_forall_generate_of_validation :
    (endlessFiles.carryOut (endlessGeneration.validation 0 none)).exitCode = 0 ∧
      (endlessFiles.carryOut ⟨0, none, .generate endlessGeneration⟩).exitCode = 101 ∧
      ¬ ∀ (tree : FileTree) (path : Option Text) (generation : Generation),
        (∃ format, Format.ofText generation.format = .ok format) →
          (∀ contents, tree.lookup? generation.directory ≠ some (.file contents)) →
            (∀ settings, Settings.load tree.lookup? path = .ok settings →
              ∀ code ∈ generation.asked settings, Language.check code = none) →
              (tree.carryOut (generation.validation 0 path)).exitCode = 0 →
                (tree.carryOut ⟨0, path, .generate generation⟩).exitCode = 0 ∨
                  (tree.carryOut ⟨0, path, .generate generation⟩).exitCode = 1 := by
  have hvalid : (endlessFiles.carryOut (endlessGeneration.validation 0 none)).exitCode = 0 := by
    decide +kernel
  have hcrash : (endlessFiles.carryOut ⟨0, none, .generate endlessGeneration⟩).exitCode = 101 := by
    decide +kernel
  have hfree : endlessFiles.lookup? endlessGeneration.directory = none := by decide +kernel
  have hnone : ∀ settings, Settings.load endlessFiles.lookup? none = .ok settings →
      ∀ code ∈ endlessGeneration.asked settings, Language.check code = none := by
    intro settings hsettings code hcode
    have hstandard : Settings.load endlessFiles.lookup? none = .ok Settings.standard := rfl
    obtain rfl := Except.ok.inj (hstandard.symm.trans hsettings)
    exact absurd hcode List.not_mem_nil
  refine ⟨hvalid, hcrash, ?_⟩
  intro hall
  have hends := hall endlessFiles none endlessGeneration ⟨.java, rfl⟩
    (not_file_of_lookup?_eq_none hfree) hnone hvalid
  rw [hcrash] at hends
  exact absurd hends (by decide)

end FileTree

end MessageCatalog
