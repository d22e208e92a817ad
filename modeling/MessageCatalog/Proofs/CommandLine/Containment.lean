import MessageCatalog.Proofs.CommandLine.Generation
import MessageCatalog.Proofs.CommandLine.Rejection

/-!
# Files stay in the output directory

The languages of a generation come from the command line, from the settings or from the
document, and they become parts of paths.  A code is checked wherever it comes from.
So files are written below the output directory only, even for the odd codes that are
accepted, and a plain code adds no more than one or two names to the directory.
-/

namespace MessageCatalog

/-- One or two names, as they follow the output directory in the path of a file. -/
structure Location.IsShort (names : List Text) : Prop where
  nonempty : names ≠ []
  length_le : names.length ≤ 2
  names : ∀ name ∈ names, Place.IsName name

/-- A file has been written to a place that was not there before, or not with these
contents. -/
def FileTree.HasWritten (before after : FileTree) (place : Place) : Prop :=
  ∃ contents, after.node? place = some (.file contents) ∧
    before.node? place ≠ some (.file contents)

theorem Format.isShort_location {format : Format} {code : Text}
    (hcode : format.isPerLanguage = true → Language.check code = none)
    (hplain : Language.IsPlain code) : Location.IsShort (format.location code) := by
  refine ⟨?_, ?_, isName_of_mem_location hcode hplain⟩
  · cases format <;> exact List.cons_ne_nil _ _
  · cases format <;> simp [location, locationWith]

namespace Generation

variable {view : View} {path : Option Text}

inductive Mentions (view : View) (path : Option Text) (generation : Generation) (code : Text) :
    Prop
  | argument (hcode : code ∈ generation.languages)
  | settings {settings : Settings} (hsettings : Settings.load view path = .ok settings)
      (hcode : code ∈ settings.languages)
  | document {settings : Settings} {preprocessor : Preprocessor} {catalog : Catalog}
      (hsettings : Settings.load view path = .ok settings)
      (hpreprocessor : settings.preprocessor generation.processors = .ok preprocessor)
      (hcatalog : Document.load view settings.readOptions preprocessor generation.input =
        .ok catalog)
      (hcode : code ∈ catalog.languages.codes)

namespace Run

variable {run : Run} {language : Text}

theorem mentions_of_mem_asked (hloaded : run.Loaded view path) (hlanguage : language ∈ run.asked) :
    run.generation.Mentions view path language := by
  unfold asked at hlanguage
  split at hlanguage
  · exact .settings hloaded.settings hlanguage
  · exact .argument hlanguage

theorem mentions_of_mem_languages (hloaded : run.Loaded view path)
    (hperLanguage : run.format.isPerLanguage = true) (hlanguage : language ∈ run.languages) :
    run.generation.Mentions view path language := by
  unfold languages at hlanguage
  rw [hperLanguage, if_neg (by simp)] at hlanguage
  split at hlanguage
  · exact .document hloaded.settings hloaded.preprocessor hloaded.catalog hlanguage
  · exact mentions_of_mem_asked hloaded hlanguage

theorem isPlain_of_mem_languages (hloaded : run.Loaded view path) (hvalid : run.ValidLanguages)
    (hplain : ∀ code, run.generation.Mentions view path code →
      Language.check code = none → Language.IsPlain code)
    (hlanguage : language ∈ run.languages) : Language.IsPlain language := by
  cases hperLanguage : run.format.isPerLanguage with
  | false =>
      -- The one file for all languages has no code in its path.
      rw [languages, hperLanguage] at hlanguage
      rw [List.mem_singleton.mp hlanguage]
      exact fun c hc => absurd hc List.not_mem_nil
  | true =>
      apply hplain language (mentions_of_mem_languages hloaded hperLanguage hlanguage)
      exact hvalid hperLanguage language hlanguage

theorem isShort_location (hloaded : run.Loaded view path) (hvalid : run.ValidLanguages)
    (hplain : ∀ code, run.generation.Mentions view path code →
      Language.check code = none → Language.IsPlain code)
    (hlanguage : language ∈ run.languages) :
    Location.IsShort (run.format.location language) := by
  apply Format.isShort_location
  · intro hperLanguage
    exact hvalid hperLanguage language hlanguage
  · exact isPlain_of_mem_languages hloaded hvalid hplain hlanguage

end Run

end Generation

namespace FileTree

variable {tree after : FileTree} {invocation : Invocation} {generation : Generation}
  {place : Place}

theorem not_hasWritten_self (tree : FileTree) (place : Place) : ¬ tree.HasWritten tree place := by
  rintro ⟨contents, hafter, hbefore⟩
  exact hbefore hafter

/-- However the generation ends, what it has written is the file of one of its
languages. -/
theorem exists_run_of_hasWritten (hcommand : invocation.command = .generate generation)
    (hafter : (tree.carryOut invocation).tree = after) (hwritten : tree.HasWritten after place) :
    ∃ run : Generation.Run, run.generation = generation ∧
      run.Loaded tree.lookup? invocation.settings ∧ run.ValidLanguages ∧
      ∃ language ∈ run.languages, after.place? (run.path language) = some place := by
  cases heffects : invocation.effects tree.lookup? with
  | error failure =>
      rw [carryOut_of_effects_eq_error heffects] at hafter
      rw [← hafter] at hwritten
      exact absurd hwritten (not_hasWritten_self tree place)
  | ok effects =>
      obtain ⟨failure, hput⟩ := exists_putAll_of_effects_eq_ok heffects
      obtain ⟨run, hgeneration, hloaded, hvalid, rfl⟩ :=
        Generation.exists_run_of_effects hcommand heffects
      rw [hafter] at hput
      obtain ⟨contents, hnode, hbefore⟩ := hwritten
      obtain ⟨file, hfile, hplace, -⟩ :=
        (writesSome_of_putAll_eq hput).changed place contents hnode hbefore
      obtain ⟨hlanguage, hpath, -⟩ := Generation.Run.exists_of_mem_files hfile
      rw [hpath] at hplace
      exact ⟨run, hgeneration, hloaded, hvalid, file.language, hlanguage, hplace⟩

/-- A generation writes files below its output directory only.  If no code that it finds
and accepts has other characters than letters, digits, hyphens and underscores, each path
is the directory with one or two names behind it. -/
theorem carryOut_contained (hcommand : invocation.command = .generate generation)
    (hafter : (tree.carryOut invocation).tree = after) :
    (∀ place, tree.HasWritten after place →
      ∃ base, after.place? generation.directory = some base ∧ base.IsBelow place) ∧
    ((∀ code, generation.Mentions tree.lookup? invocation.settings code →
        Language.check code = none → Language.IsPlain code) →
      (∀ effects, invocation.effects tree.lookup? = .ok effects → ∀ file ∈ effects.files,
        ∃ names, Location.IsShort names ∧
          file.path = names.foldl Location.join generation.directory) ∧
      ∀ place, tree.HasWritten after place →
        ∃ base names, after.place? generation.directory = some base ∧
          Location.IsShort names ∧ place = base ++ names) := by
  constructor
  · intro place hwritten
    obtain ⟨run, rfl, -, hvalid, language, hlanguage, hplace⟩ :=
      exists_run_of_hasWritten hcommand hafter hwritten
    apply Format.exists_of_place?_outputPath _ hplace
    intro hperLanguage
    exact hvalid hperLanguage language hlanguage
  · intro hplain
    constructor
    · intro effects heffects file hfile
      obtain ⟨run, rfl, hloaded, hvalid, rfl⟩ :=
        Generation.exists_run_of_effects hcommand heffects
      obtain ⟨hlanguage, hpath, -⟩ := Generation.Run.exists_of_mem_files hfile
      refine ⟨run.format.location file.language, ?_, hpath⟩
      exact Generation.Run.isShort_location hloaded hvalid hplain hlanguage
    · intro place hwritten
      obtain ⟨run, rfl, hloaded, hvalid, language, hlanguage, hplace⟩ :=
        exists_run_of_hasWritten hcommand hafter hwritten
      have hshort := Generation.Run.isShort_location hloaded hvalid hplain hlanguage
      obtain ⟨base, hbase, hbelow⟩ := exists_of_place?_foldl_join hshort.names hplace
      exact ⟨base, run.format.location language, hbase, hshort, hbelow⟩

def climbingFiles : FileTree :=
  ⟨[(["in".toList], .file (Utf8.encode "=== S ===\n  K\n    en-1/.. = Hi\n".toList))]⟩

theorem isPlain_of_mentions_catalan {format : Format} :
    ∀ code, (Generation.catalanGeneration format).Mentions Generation.catalanFiles.lookup? none
      code → Language.check code = none → Language.IsPlain code := by
  intro code hmentions hcode
  have hstandard : Settings.load Generation.catalanFiles.lookup? none =
      .ok Settings.standard := rfl
  cases hmentions with
  | argument hcode => exact absurd hcode List.not_mem_nil
  | settings hsettings hcode =>
      obtain rfl := Except.ok.inj (hstandard.symm.trans hsettings)
      exact absurd hcode List.not_mem_nil
  | document hsettings hpreprocessor hcatalog hcode =>
      obtain rfl := Except.ok.inj (hstandard.symm.trans hsettings)
      obtain rfl := Except.ok.inj hpreprocessor
      have hread : (Document.load Generation.catalanFiles.lookup?
            Settings.standard.readOptions (.pipeline []) "in".toList).map
            (fun catalog => catalog.languages.codes) =
          .ok ["ca-ES".toList, "ca-ES-valencia".toList] := by decide +kernel
      have hinput : (Generation.catalanGeneration format).input = "in".toList := rfl
      rw [hinput] at hcatalog
      rw [hcatalog, Except.map, Except.ok.injEq] at hread
      rw [hread] at hcode
      exact Generation.isPlain_catalan code hcode

theorem hasWritten_of_node? (hbefore : tree.node? place = none)
    (hnone : after.node? place ≠ none) (hdirectory : after.node? place ≠ some .directory) :
    tree.HasWritten after place := by
  cases hnode : after.node? place with
  | none => exact absurd hnode hnone
  | some node =>
      cases node with
      | directory => exact absurd hnode hdirectory
      | file contents =>
          refine ⟨contents, hnode, ?_⟩
          rw [hbefore]
          exact (Option.some_ne_none _).symm

/-- The Catalan file lies two names below the directory.  The step upwards of the other
document is taken inside of it. -/
theorem carryOut_contained_climbingFiles :
    (∃ base names, (Generation.catalanFiles.carryOut
        (Generation.catalanInvocation .windowsResw)).tree.place? "out".toList = some base ∧
      Location.IsShort names ∧
      ["out".toList, "ca-ES".toList, "Resources.resw".toList] = base ++ names) ∧
    ∃ base, (climbingFiles.carryOut
        (Generation.catalanInvocation .windowsResw)).tree.place? "out".toList = some base ∧
      base.IsBelow ["out".toList, "Resources.resw".toList] := by
  have hcommand : (Generation.catalanInvocation .windowsResw).command =
      .generate (Generation.catalanGeneration .windowsResw) := rfl
  constructor
  · have hafter : (Generation.catalanFiles.carryOut
        (Generation.catalanInvocation .windowsResw)).tree = _ := rfl
    obtain ⟨-, hplain⟩ := carryOut_contained hcommand hafter
    obtain ⟨-, hplaces⟩ := hplain isPlain_of_mentions_catalan
    apply hplaces
    apply hasWritten_of_node?
    all_goals decide +kernel
  · have hafter : (climbingFiles.carryOut
        (Generation.catalanInvocation .windowsResw)).tree = _ := rfl
    obtain ⟨hplaces, -⟩ := carryOut_contained hcommand hafter
    apply hplaces
    apply hasWritten_of_node?
    all_goals decide +kernel

end FileTree

end MessageCatalog
