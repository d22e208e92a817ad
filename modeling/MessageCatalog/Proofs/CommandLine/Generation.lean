import MessageCatalog.Proofs.CommandLine.Checks
import MessageCatalog.Proofs.FileTree.Writing
import MessageCatalog.Proofs.Output.Location
import MessageCatalog.Proofs.Output.XmlResources
import MessageCatalog.Proofs.Text.Utf8

/-!
# Generated files

A generation that succeeds has read a document and has then written a file for
each of its languages.  Files of different languages can meet at one place, and
then only one of them is left.
-/

namespace MessageCatalog

namespace Generation

/-! ## Files up to one that cannot be made -/

section Files

variable (format : Format) (directory : Text) (catalog : Catalog) (languages : List Text)

theorem map_language_filesFor :
    (filesFor format directory catalog languages).map OutputFile.language = languages ∨
      ∃ language rest,
        languages = (filesFor format directory catalog languages).map OutputFile.language ++
          language :: rest ∧
        format.render? catalog language = none := by
  induction languages with
  | nil => exact Or.inl rfl
  | cons language languages ih =>
      rw [filesFor]
      cases hfile : fileFor? format directory catalog language with
      | none => exact Or.inr ⟨language, languages, rfl, Option.map_eq_none_iff.mp hfile⟩
      | some file =>
          obtain ⟨contents, -, rfl⟩ := Option.map_eq_some_iff.mp hfile
          rcases ih with hall | ⟨broken, rest, hsplit, hbroken⟩
          · exact Or.inl (congrArg (language :: ·) hall)
          · exact Or.inr ⟨broken, rest, congrArg (language :: ·) hsplit, hbroken⟩

theorem exists_of_mem_filesFor {file : OutputFile}
    (hfile : file ∈ filesFor format directory catalog languages) :
    file.language ∈ languages ∧ fileFor? format directory catalog file.language = some file := by
  induction languages with
  | nil => cases hfile
  | cons language languages ih =>
      rw [filesFor] at hfile
      cases hfound : fileFor? format directory catalog language with
      | none =>
          rw [hfound] at hfile
          cases hfile
      | some found =>
          rw [hfound] at hfile
          rcases List.mem_cons.mp hfile with rfl | hlater
          · obtain ⟨contents, hcontents, rfl⟩ := Option.map_eq_some_iff.mp hfound
            exact ⟨List.mem_cons_self, hfound⟩
          · obtain ⟨hlanguage, hsame⟩ := ih hlater
            exact ⟨List.mem_cons_of_mem language hlanguage, hsame⟩

end Files

/-- A generation and everything that it works with. -/
structure Run where
  generation : Generation
  settings : Settings
  format : Format
  preprocessor : Preprocessor
  catalog : Catalog

namespace Run

/-- The languages that are asked for, on the command line or else in the
settings. -/
def asked (run : Run) : List Text :=
  if run.generation.languages.isEmpty then run.settings.languages else run.generation.languages

/-- The languages that are written.  A format for whole catalogs has one file. -/
def languages (run : Run) : List Text :=
  if !run.format.isPerLanguage then [[]]
  else if run.asked.isEmpty then run.catalog.languages.codes
  else run.asked

def path (run : Run) (language : Text) : Text :=
  run.format.outputPath run.generation.directory language

def rendered? (run : Run) (language : Text) : Option Text :=
  run.format.render? run.catalog language

def effects (run : Run) : Effects :=
  run.generation.effectsFor run.format run.catalog run.languages

def files (run : Run) : List OutputFile := run.effects.files

/-- What a run works with is what its invocation finds in the files. -/
structure Loaded (run : Run) (view : View) (settings : Option Text) : Prop where
  settings : Settings.load view settings = .ok run.settings
  format : Format.ofText run.generation.format = .ok run.format
  preprocessor : run.settings.preprocessor run.generation.processors = .ok run.preprocessor
  catalog : Document.load view run.settings.readOptions run.preprocessor run.generation.input =
    .ok run.catalog

def ValidLanguages (run : Run) : Prop :=
  run.format.isPerLanguage = true → ∀ language ∈ run.languages, Language.check language = none

/-- Every language has a file to be written. -/
def IsComplete (run : Run) : Prop :=
  ∀ language ∈ run.languages, ∃ contents, run.rendered? language = some contents ∧
    ⟨language, run.path language, contents⟩ ∈ run.files

/-- At the path of every language there is what was rendered for this language. -/
def KeepsApart (run : Run) (after : FileTree) : Prop :=
  ∀ language ∈ run.languages, ∃ contents, run.rendered? language = some contents ∧
    after.lookup? (run.path language) = some (.file (Utf8.encode contents))

variable {run : Run}

theorem exists_of_mem_files {file : OutputFile} (hfile : file ∈ run.files) :
    file.language ∈ run.languages ∧ file.path = run.path file.language ∧
      run.rendered? file.language = some file.contents := by
  obtain ⟨hlanguage, hsame⟩ := exists_of_mem_filesFor _ _ _ _ hfile
  obtain ⟨contents, hcontents, hfound⟩ := Option.map_eq_some_iff.mp hsame
  refine ⟨hlanguage, ?_, ?_⟩
  · exact (congrArg OutputFile.path hfound).symm
  · exact hcontents.trans (congrArg some (congrArg OutputFile.contents hfound))

/-- A run has an output if and only if there is no language that it ends at. -/
theorem output_effects_cases (run : Run) :
    (∃ output, run.effects.output = some output) ∧ run.IsComplete ∨
      run.effects.output = none ∧ ∃ language rest,
        run.languages = run.files.map OutputFile.language ++ language :: rest ∧
          run.rendered? language = none := by
  have houtput : run.effects.output =
      if run.files.length = run.languages.length then
        some (run.files.flatMap fun file => file.path ++ ['\n'])
      else none := rfl
  rcases map_language_filesFor run.format run.generation.directory run.catalog run.languages with
    hall | ⟨language, rest, hsplit, hbroken⟩
  · have hlanguages : run.files.map OutputFile.language = run.languages := hall
    have hlength : run.files.length = run.languages.length := by
      rw [← hlanguages, List.length_map]
    rw [if_pos hlength] at houtput
    refine Or.inl ⟨⟨_, houtput⟩, ?_⟩
    intro language hlanguage
    rw [← hlanguages] at hlanguage
    obtain ⟨file, hfile, rfl⟩ := List.mem_map.mp hlanguage
    obtain ⟨-, hpath, hrendered⟩ := exists_of_mem_files hfile
    refine ⟨file.contents, hrendered, ?_⟩
    rw [← hpath]
    exact hfile
  · have hlength : ¬ run.files.length = run.languages.length := by
      have hsum := congrArg List.length hsplit
      rw [List.length_append, List.length_map, List.length_cons] at hsum
      change run.languages.length = run.files.length + _ at hsum
      omega
    rw [if_neg hlength] at houtput
    exact Or.inr ⟨houtput, language, rest, hsplit, hbroken⟩

end Run

/-! ## What a successful run has done -/

theorem languages_of_languagesOf (run : Run) {input : Text} {languages : List Text}
    (hasked : ∀ code ∈ run.asked, Language.check code = none)
    (hlanguages : languagesOf run.format input run.asked run.catalog = .ok languages) :
    languages = run.languages ∧ run.ValidLanguages := by
  obtain ⟨hsame, hdocument⟩ := languagesOf_eq_ok_iff.mp hlanguages
  refine ⟨hsame.symm, ?_⟩
  intro hperLanguage language hlanguage
  unfold Run.languages at hlanguage
  rw [hperLanguage, if_neg (by simp)] at hlanguage
  split at hlanguage
  · next hempty =>
      exact (hdocument hperLanguage).2 (List.isEmpty_iff.mp hempty) language hlanguage
  · exact hasked language hlanguage

theorem exists_run_of_effects {generation : Generation} {view : View} {invocation : Invocation}
    {effects : Effects} (hcommand : invocation.command = .generate generation)
    (heffects : invocation.effects view = .ok effects) :
    ∃ run : Run, run.generation = generation ∧ run.Loaded view invocation.settings ∧
      run.ValidLanguages ∧ effects = run.effects := by
  rw [Invocation.effects_of_generate hcommand] at heffects
  obtain ⟨settings, hsettings, heffects⟩ := Except.exists_of_bind_eq_ok heffects
  obtain ⟨format, preprocessor, hchecked⟩ := exists_checked_of_effects heffects
  rw [effects_of_checked hchecked] at heffects
  obtain ⟨catalog, hcatalog, heffects⟩ := Except.exists_of_bind_eq_ok heffects
  obtain ⟨languages, hlanguages, rfl⟩ := Except.exists_of_map_eq_ok heffects
  obtain ⟨hsame, hvalid⟩ := languages_of_languagesOf
    ⟨generation, settings, format, preprocessor, catalog⟩ hchecked.languages hlanguages
  refine ⟨⟨generation, settings, format, preprocessor, catalog⟩, rfl,
    ⟨hsettings, hchecked.format, hchecked.preprocessor, hcatalog⟩, hvalid, ?_⟩
  rw [hsame]
  rfl

theorem exists_run_of_exitCode {tree : FileTree} {invocation : Invocation}
    {generation : Generation} (hcommand : invocation.command = .generate generation)
    (hexit : (tree.carryOut invocation).exitCode = 0) :
    ∃ run : Run, run.generation = generation ∧ run.Loaded tree.lookup? invocation.settings ∧
      run.ValidLanguages ∧ run.IsComplete ∧
      tree.WritesAll (tree.carryOut invocation).tree run.files := by
  obtain ⟨effects, output, heffects, houtput, hput⟩ := FileTree.exists_effects_of_exitCode hexit
  obtain ⟨run, hgeneration, hloaded, hvalid, rfl⟩ := exists_run_of_effects hcommand heffects
  refine ⟨run, hgeneration, hloaded, hvalid, ?_, FileTree.writesAll_of_putAll_eq hput⟩
  rcases run.output_effects_cases with ⟨-, hcomplete⟩ | ⟨hnone, -⟩
  · exact hcomplete
  · rw [houtput] at hnone
    contradiction

/-! ## Which files are left -/

namespace Run

theorem exists_written {run : Run} {before after : FileTree} (hcomplete : run.IsComplete)
    (hwrites : before.WritesAll after run.files) {language : Text}
    (hlanguage : language ∈ run.languages) :
    ∃ place, after.place? (run.path language) = some place ∧
      ∃ written ∈ run.languages, after.place? (run.path written) = some place ∧
        ∃ contents, run.rendered? written = some contents ∧
          after.node? place = some (.file (Utf8.encode contents)) := by
  obtain ⟨contents, -, hfile⟩ := hcomplete language hlanguage
  obtain ⟨place, hplace, last, hlast, hlastPlace, hnode⟩ := hwrites.found _ hfile
  obtain ⟨hwritten, hpath, hrendered⟩ := exists_of_mem_files hlast
  rw [hpath] at hlastPlace
  exact ⟨place, hplace, last.language, hwritten, hlastPlace, last.contents, hrendered, hnode⟩

theorem file_iff_of_not_written {run : Run} {before after : FileTree}
    (hwrites : before.WritesAll after run.files) {place : Place}
    (hplace : ∀ language ∈ run.languages, after.place? (run.path language) ≠ some place)
    (contents : Bytes) :
    after.node? place = some (.file contents) ↔ before.node? place = some (.file contents) := by
  apply hwrites.others
  intro file hfile
  obtain ⟨hlanguage, hpath, -⟩ := exists_of_mem_files hfile
  rw [hpath]
  exact hplace file.language hlanguage

theorem keepsApart_iff_rendered {run : Run} {before after : FileTree}
    (hcomplete : run.IsComplete) (hwrites : before.WritesAll after run.files) :
    run.KeepsApart after ↔
      ∀ left ∈ run.languages, ∀ right ∈ run.languages,
        after.place? (run.path left) = after.place? (run.path right) →
          run.rendered? left = run.rendered? right := by
  constructor
  · intro hkeeps left hleft right hright hplace
    obtain ⟨leftContents, hleftRendered, hleftFile⟩ := hkeeps left hleft
    obtain ⟨rightContents, hrightRendered, hrightFile⟩ := hkeeps right hright
    rw [FileTree.lookup?, hplace, ← FileTree.lookup?, hrightFile, Option.some.injEq,
      Node.file.injEq] at hleftFile
    rw [hleftRendered, hrightRendered, Utf8.encode_inj hleftFile]
  · intro hsame language hlanguage
    obtain ⟨place, hplace, written, hwritten, hwrittenPlace, contents, hrendered, hnode⟩ :=
      exists_written hcomplete hwrites hlanguage
    have hplaces : after.place? (run.path language) = after.place? (run.path written) := by
      rw [hplace, hwrittenPlace]
    refine ⟨contents, ?_, ?_⟩
    · rw [hsame language hlanguage written hwritten hplaces, hrendered]
    · rw [FileTree.lookup?, hplace, Option.bind_some, hnode]

theorem location_eq_of_place?_eq {run : Run} {before after : FileTree}
    (hcomplete : run.IsComplete) (hwrites : before.WritesAll after run.files)
    (hvalid : run.ValidLanguages)
    (hplain : ∀ language ∈ run.languages, Language.IsPlain language) {left right : Text}
    (hleft : left ∈ run.languages) (hright : right ∈ run.languages)
    (hplace : after.place? (run.path left) = after.place? (run.path right)) :
    run.format.location left = run.format.location right := by
  obtain ⟨place, hleftPlace, -⟩ := exists_written hcomplete hwrites hleft
  have hnames : ∀ language ∈ run.languages,
      ∀ name ∈ run.format.location language, Place.IsName name := by
    intro language hlanguage
    apply Format.isName_of_mem_location
    · intro hperLanguage
      exact hvalid hperLanguage language hlanguage
    · exact hplain language hlanguage
  apply FileTree.location_eq_of_place?_eq (hnames left hleft) (hnames right hright) hleftPlace
  rw [← hleftPlace, hplace]
  rfl

/-- Languages of one location are the same, if Android tells them apart. -/
theorem eq_of_location_eq {run : Run} (hvalid : run.ValidLanguages)
    (hapart : run.format = .android → ∀ left ∈ run.languages, ∀ right ∈ run.languages,
      Language.qualifiers? left = Language.qualifiers? right → left = right)
    {left right : Text} (hleft : left ∈ run.languages) (hright : right ∈ run.languages)
    (hlocation : run.format.location left = run.format.location right) : left = right := by
  cases hperLanguage : run.format.isPerLanguage with
  | false =>
      -- There is one file, which is for no language in particular.
      rw [languages, hperLanguage] at hleft hright
      rw [List.mem_singleton.mp hleft, List.mem_singleton.mp hright]
  | true =>
      by_cases handroid : run.format = .android
      · rw [handroid, Format.location_android_eq_iff (hvalid hperLanguage left hleft)
          (hvalid hperLanguage right hright)] at hlocation
        exact hapart handroid left hleft right hright hlocation
      · exact Format.eq_of_locationWith_eq hperLanguage handroid hlocation

/-- A run whose codes are plain keeps its languages apart, except that an Android
run must not have two of them that agree on language, script and region. -/
theorem keepsApart_iff {run : Run} {before after : FileTree} (hcomplete : run.IsComplete)
    (hwrites : before.WritesAll after run.files) (hvalid : run.ValidLanguages)
    (hplain : ∀ language ∈ run.languages, Language.IsPlain language) :
    run.KeepsApart after ↔
      (run.format = .android → ∀ left ∈ run.languages, ∀ right ∈ run.languages,
        Language.qualifiers? left = Language.qualifiers? right → left = right) := by
  rw [keepsApart_iff_rendered hcomplete hwrites]
  constructor
  · intro hsame handroid left hleft right hright hqualifiers
    have hperLanguage : run.format.isPerLanguage = true := by rw [handroid]; rfl
    have hlocation : Format.android.location left = Format.android.location right :=
      (Format.location_android_eq_iff (hvalid hperLanguage left hleft)
        (hvalid hperLanguage right hright)).mpr hqualifiers
    have hpath : run.path left = run.path right := by
      rw [path, path, handroid, Format.outputPath, Format.outputPath, hlocation]
    have hrendered := hsame left hleft right hright (by rw [hpath])
    rw [rendered?, rendered?, handroid] at hrendered
    have hspace : ∀ language ∈ run.languages, ' ' ∉ language := by
      intro language hlanguage
      exact (hplain language hlanguage).not_mem (by decide) (by decide) (by decide)
    exact AndroidStrings.language_eq_of_render_eq (hspace left hleft) (hspace right hright)
      (Option.some.inj hrendered)
  · intro hapart left hleft right hright hplace
    have hlocation := location_eq_of_place?_eq hcomplete hwrites hvalid hplain hleft
      hright hplace
    rw [eq_of_location_eq hvalid hapart hleft hright hlocation]

end Run

end Generation

/-- A successful generation leaves at the path of each of its languages the file of
one of them, and all other files as they were.  Which languages share a place
decides whether each of them has kept its own file. -/
theorem FileTree.carryOut_generation {tree : FileTree} {invocation : Invocation}
    {generation : Generation} (hcommand : invocation.command = .generate generation)
    (hexit : (tree.carryOut invocation).exitCode = 0) {after : FileTree}
    (hafter : (tree.carryOut invocation).tree = after) :
    ∃ run : Generation.Run, run.generation = generation ∧
      run.Loaded tree.lookup? invocation.settings ∧
      (∀ language ∈ run.languages, ∃ place, after.place? (run.path language) = some place ∧
        ∃ written ∈ run.languages, after.place? (run.path written) = some place ∧
          ∃ contents, run.rendered? written = some contents ∧
            after.node? place = some (.file (Utf8.encode contents))) ∧
      (run.KeepsApart after ↔
        ∀ left ∈ run.languages, ∀ right ∈ run.languages,
          after.place? (run.path left) = after.place? (run.path right) →
            run.rendered? left = run.rendered? right) ∧
      ((∀ language ∈ run.languages, Language.IsPlain language) →
        (run.KeepsApart after ↔
          (run.format = .android → ∀ left ∈ run.languages, ∀ right ∈ run.languages,
            Language.qualifiers? left = Language.qualifiers? right → left = right))) ∧
      ∀ place, (∀ language ∈ run.languages, after.place? (run.path language) ≠ some place) →
        ∀ contents, after.node? place = some (.file contents) ↔
          tree.node? place = some (.file contents) := by
  obtain ⟨run, hgeneration, hloaded, hvalid, hcomplete, hwrites⟩ :=
    Generation.exists_run_of_exitCode hcommand hexit
  rw [hafter] at hwrites
  refine ⟨run, hgeneration, hloaded, ?_, ?_, ?_, ?_⟩
  · intro language hlanguage
    exact Generation.Run.exists_written hcomplete hwrites hlanguage
  · exact Generation.Run.keepsApart_iff_rendered hcomplete hwrites
  · intro hplain
    exact Generation.Run.keepsApart_iff hcomplete hwrites hvalid hplain
  · intro place hplace
    exact Generation.Run.file_iff_of_not_written hwrites hplace

/-! ## Two kinds of Catalan -/

namespace Generation

def catalanFiles : FileTree :=
  ⟨[(["in".toList], .file (Utf8.encode
    "=== S ===\n  K\n    ca-ES = Hola\n    ca-ES-valencia = Bon dia\n".toList))]⟩

def catalanGeneration (format : Format) : Generation :=
  ⟨"in".toList, format.name, "out".toList, none, []⟩

def catalanInvocation (format : Format) : Invocation :=
  ⟨0, none, .generate (catalanGeneration format)⟩

theorem languages_catalan {format : Format} (hperLanguage : format.isPerLanguage = true)
    {run : Run} (hgeneration : run.generation = catalanGeneration format)
    (hloaded : run.Loaded catalanFiles.lookup? none) :
    run.format = format ∧ run.languages = ["ca-ES".toList, "ca-ES-valencia".toList] := by
  have hformat : run.format = format := by
    have hname := hloaded.format
    rw [hgeneration, catalanGeneration, Format.ofText_name, Except.ok.injEq] at hname
    exact hname.symm
  have hsettings : run.settings = Settings.standard := by
    have hstandard : Settings.load catalanFiles.lookup? none = .ok Settings.standard := rfl
    rw [← Except.ok.injEq, ← hloaded.settings, hstandard]
  have hpreprocessor : run.preprocessor = .pipeline [] := by
    have hnone : Settings.standard.preprocessor (catalanGeneration format).processors =
        .ok (.pipeline []) := rfl
    rw [← Except.ok.injEq, ← hloaded.preprocessor, hsettings, hgeneration, hnone]
  have hcodes : run.catalog.languages.codes = ["ca-ES".toList, "ca-ES-valencia".toList] := by
    have hinput : (catalanGeneration format).input = "in".toList := rfl
    have hread : (Document.load catalanFiles.lookup? Settings.standard.readOptions (.pipeline [])
          "in".toList).map (fun catalog => catalog.languages.codes) =
        .ok ["ca-ES".toList, "ca-ES-valencia".toList] := by decide +kernel
    have hcatalog := hloaded.catalog
    rw [hsettings, hpreprocessor, hgeneration, hinput] at hcatalog
    rw [hcatalog, Except.map, Except.ok.injEq] at hread
    exact hread
  have hasked : run.asked = [] := by
    rw [Run.asked, hgeneration, hsettings]
    rfl
  refine ⟨hformat, ?_⟩
  rw [Run.languages, hformat, hperLanguage, hasked, hcodes]
  rfl

theorem isPlain_catalan :
    ∀ language ∈ ["ca-ES".toList, "ca-ES-valencia".toList], Language.IsPlain language := by
  decide +kernel

end Generation

/-- Apple's format gives Catalan and Valencian a file each. -/
theorem FileTree.carryOut_generation_apple :
    ∃ run : Generation.Run, run.generation = Generation.catalanGeneration .apple ∧
      run.languages = ["ca-ES".toList, "ca-ES-valencia".toList] ∧
      run.KeepsApart
        (Generation.catalanFiles.carryOut (Generation.catalanInvocation .apple)).tree := by
  have hexit : (Generation.catalanFiles.carryOut
      (Generation.catalanInvocation .apple)).exitCode = 0 := by decide +kernel
  have hcommand : (Generation.catalanInvocation .apple).command =
      .generate (Generation.catalanGeneration .apple) := rfl
  have hperLanguage : Format.apple.isPerLanguage = true := rfl
  obtain ⟨run, hgeneration, hloaded, -, -, hplain, -⟩ :=
    FileTree.carryOut_generation hcommand hexit rfl
  obtain ⟨hformat, hlanguages⟩ := Generation.languages_catalan hperLanguage hgeneration hloaded
  refine ⟨run, hgeneration, hlanguages, ?_⟩
  rw [hlanguages] at hplain
  apply (hplain Generation.isPlain_catalan).mpr
  intro handroid
  rw [hformat] at handroid
  exact absurd handroid (by decide)

/-- In Android's format the file of one of them is lost, and nothing tells so. -/
theorem Generation.Run.not_forall_keepsApart :
    ¬ ∀ (tree : FileTree) (invocation : Invocation) (run : Generation.Run),
      invocation.command = .generate run.generation →
        (tree.carryOut invocation).exitCode = 0 →
          run.Loaded tree.lookup? invocation.settings → run.format.isPerLanguage = true →
            run.KeepsApart (tree.carryOut invocation).tree := by
  intro hall
  have hexit : (Generation.catalanFiles.carryOut
      (Generation.catalanInvocation .android)).exitCode = 0 := by decide +kernel
  have hcommand : (Generation.catalanInvocation .android).command =
      .generate (Generation.catalanGeneration .android) := rfl
  obtain ⟨run, hgeneration, hloaded, hvalid, hcomplete, hwrites⟩ :=
    Generation.exists_run_of_exitCode hcommand hexit
  have hperLanguage : Format.android.isPerLanguage = true := rfl
  obtain ⟨hformat, hlanguages⟩ := Generation.languages_catalan hperLanguage hgeneration hloaded
  rw [← hgeneration] at hcommand
  rw [← hformat] at hperLanguage
  have hkeeps := hall Generation.catalanFiles (Generation.catalanInvocation .android) run
    hcommand hexit hloaded hperLanguage
  have hplain : ∀ language ∈ run.languages, Language.IsPlain language := by
    rw [hlanguages]
    exact Generation.isPlain_catalan
  rw [Generation.Run.keepsApart_iff hcomplete hwrites hvalid hplain, hlanguages] at hkeeps
  have hsame : "ca-ES".toList = "ca-ES-valencia".toList := by
    apply hkeeps hformat
    · exact List.mem_cons_self
    · exact List.mem_cons_of_mem _ List.mem_cons_self
    · decide +kernel
  exact absurd hsame (by decide)

end MessageCatalog
