import MessageCatalog.Proofs.CommandLine.Checks

/-!
# Rejected generations

What is wrong with a generation is found out before the first directory is made.  So a
generation that is rejected, for whichever of its causes, leaves the file tree as it
was.
-/

namespace MessageCatalog

namespace Generation

/-- What may be wrong with a generation, as far as it can be told from the command line
and the files that are there. -/
inductive Rejected (view : View) (path : Option Text) (generation : Generation) : Prop
  | settings {failure : Failure} (hsettings : Settings.load view path = .error failure)
  | format {unknown : UnknownName} (hformat : Format.ofText generation.format = .error unknown)
  | preprocessor {settings : Settings} {failure : Failure}
      (hsettings : Settings.load view path = .ok settings)
      (hpreprocessor : settings.preprocessor generation.processors = .error failure)
  | directory {contents : Bytes}
      (hdirectory : view generation.directory = some (.file contents))
  | askedCode {settings : Settings} {code : Text}
      (hsettings : Settings.load view path = .ok settings)
      (hasked : code ∈ generation.asked settings) (hcode : Language.check code ≠ none)
  | unreadable (htext : Document.text? view generation.input = none)
  | problems {settings : Settings} {preprocessor : Preprocessor} {text : Text}
      (hsettings : Settings.load view path = .ok settings)
      (hpreprocessor : settings.preprocessor generation.processors = .ok preprocessor)
      (htext : Document.text? view generation.input = some text)
      (hreports : (Document.read settings.readOptions preprocessor text).reports ≠ [])
  | missingLanguage {settings : Settings} {preprocessor : Preprocessor} {text : Text}
      {format : Format} {language : Text}
      (hsettings : Settings.load view path = .ok settings)
      (hpreprocessor : settings.preprocessor generation.processors = .ok preprocessor)
      (htext : Document.text? view generation.input = some text)
      (hformat : Format.ofText generation.format = .ok format)
      (hperLanguage : format.isPerLanguage = true)
      (hasked : language ∈ generation.asked settings)
      (hmissing : (Document.read settings.readOptions preprocessor
        text).catalog.languages.contains language = false)
  | documentCode {settings : Settings} {preprocessor : Preprocessor} {text : Text}
      {format : Format} {code : Text}
      (hsettings : Settings.load view path = .ok settings)
      (hpreprocessor : settings.preprocessor generation.processors = .ok preprocessor)
      (htext : Document.text? view generation.input = some text)
      (hformat : Format.ofText generation.format = .ok format)
      (hperLanguage : format.isPerLanguage = true)
      (hasked : generation.asked settings = [])
      (hlanguage : code ∈
        (Document.read settings.readOptions preprocessor text).catalog.languages.codes)
      (hcode : Language.check code ≠ none)

/-- Nothing is wrong with a generation but, perhaps, its document, which is read with
this outcome. -/
def Reads (view : View) (path : Option Text) (generation : Generation) (outcome : Outcome) :
    Prop :=
  ∃ settings format preprocessor text, Settings.load view path = .ok settings ∧
    generation.Checked view settings format preprocessor ∧
    Document.text? view generation.input = some text ∧
    outcome = Document.read settings.readOptions preprocessor text

variable {view : View} {path : Option Text} {generation : Generation}

theorem not_rejected_of_effects {settings : Settings} {effects : Effects}
    (hload : Settings.load view path = .ok settings)
    (heffects : generation.effects view settings = .ok effects) :
    ¬ generation.Rejected view path := by
  obtain ⟨format, preprocessor, hchecked⟩ := exists_checked_of_effects heffects
  rw [effects_of_checked hchecked] at heffects
  obtain ⟨catalog, hcatalog, heffects⟩ := Except.exists_of_bind_eq_ok heffects
  obtain ⟨text, hread, hnone, rfl⟩ := Document.exists_of_load_eq_ok _ _ hcatalog
  obtain ⟨languages, hlanguages, -⟩ := Except.exists_of_map_eq_ok heffects
  obtain ⟨-, hdocument⟩ := languagesOf_eq_ok_iff.mp hlanguages
  -- What a cause of rejection speaks of is what the generation has been made with.
  intro hrejected
  cases hrejected with
  | settings hsettings =>
      rw [hload] at hsettings
      contradiction
  | format hformat =>
      rw [hchecked.format] at hformat
      contradiction
  | preprocessor hsettings hpreprocessor =>
      obtain rfl := Except.ok.inj (hload.symm.trans hsettings)
      rw [hchecked.preprocessor] at hpreprocessor
      contradiction
  | directory hdirectory => exact hchecked.directory _ hdirectory
  | askedCode hsettings hasked hcode =>
      obtain rfl := Except.ok.inj (hload.symm.trans hsettings)
      exact hcode (hchecked.languages _ hasked)
  | unreadable htext =>
      rw [hread] at htext
      contradiction
  | problems hsettings hpreprocessor htext hreports =>
      obtain rfl := Except.ok.inj (hload.symm.trans hsettings)
      obtain rfl := Except.ok.inj (hchecked.preprocessor.symm.trans hpreprocessor)
      obtain rfl := Option.some.inj (hread.symm.trans htext)
      exact hreports hnone
  | missingLanguage hsettings hpreprocessor htext hformat hperLanguage hasked hmissing =>
      obtain rfl := Except.ok.inj (hload.symm.trans hsettings)
      obtain rfl := Except.ok.inj (hchecked.preprocessor.symm.trans hpreprocessor)
      obtain rfl := Option.some.inj (hread.symm.trans htext)
      obtain rfl := Except.ok.inj (hchecked.format.symm.trans hformat)
      rw [(hdocument hperLanguage).1 _ hasked] at hmissing
      contradiction
  | documentCode hsettings hpreprocessor htext hformat hperLanguage hasked hlanguage hcode =>
      obtain rfl := Except.ok.inj (hload.symm.trans hsettings)
      obtain rfl := Except.ok.inj (hchecked.preprocessor.symm.trans hpreprocessor)
      obtain rfl := Option.some.inj (hread.symm.trans htext)
      obtain rfl := Except.ok.inj (hchecked.format.symm.trans hformat)
      exact hcode ((hdocument hperLanguage).2 hasked _ hlanguage)

theorem checked_or_rejected {settings : Settings}
    (hsettings : Settings.load view path = .ok settings) :
    (∃ format preprocessor, generation.Checked view settings format preprocessor) ∨
      generation.Rejected view path := by
  cases hformat : Format.ofText generation.format with
  | error unknown => exact Or.inr (.format hformat)
  | ok format =>
      cases hpreprocessor : settings.preprocessor generation.processors with
      | error failure => exact Or.inr (.preprocessor hsettings hpreprocessor)
      | ok preprocessor =>
          by_cases hdirectory : ∃ contents, view generation.directory = some (.file contents)
          · obtain ⟨contents, hfile⟩ := hdirectory
            exact Or.inr (.directory hfile)
          · by_cases hasked : ∃ code ∈ generation.asked settings, Language.check code ≠ none
            · obtain ⟨code, hcode, hcheck⟩ := hasked
              exact Or.inr (.askedCode hsettings hcode hcheck)
            · refine Or.inl ⟨format, preprocessor, hformat, hpreprocessor, ?_, ?_⟩
              · exact not_exists.mp hdirectory
              · intro code hcode
                apply Decidable.of_not_not
                intro hcheck
                exact hasked ⟨code, hcode, hcheck⟩

theorem rejected_of_effects_eq_error {settings : Settings} {failure : Failure}
    (hsettings : Settings.load view path = .ok settings)
    (heffects : generation.effects view settings = .error failure) :
    generation.Rejected view path := by
  rcases checked_or_rejected hsettings with ⟨format, preprocessor, hchecked⟩ | hrejected
  · rw [effects_of_checked hchecked] at heffects
    cases htext : Document.text? view generation.input with
    | none => exact .unreadable htext
    | some text =>
        by_cases hreports : (Document.read settings.readOptions preprocessor text).reports = []
        · rw [Document.load_of_reports_eq_nil _ _ htext hreports] at heffects
          dsimp only [Except.bind] at heffects
          rcases languagesOf_cases format generation.input (generation.asked settings)
              (Document.read settings.readOptions preprocessor text).catalog with
            ⟨languages, hlanguages⟩ | ⟨hperLanguage, ⟨language, hasked, hmissing, -⟩ |
              ⟨hasked, code, hlanguage, reason, hcode, -⟩⟩
          · rw [hlanguages] at heffects
            contradiction
          · exact .missingLanguage hsettings hchecked.preprocessor htext hchecked.format
              hperLanguage hasked hmissing
          · have hinvalid : Language.check code ≠ none := by
              rw [hcode]
              exact Option.some_ne_none reason
            exact .documentCode hsettings hchecked.preprocessor htext hchecked.format
              hperLanguage hasked hlanguage hinvalid
        · exact .problems hsettings hchecked.preprocessor htext hreports
  · exact hrejected

theorem exists_effects_eq_error_iff {invocation : Invocation}
    (hcommand : invocation.command = .generate generation) :
    (∃ failure, invocation.effects view = .error failure) ↔
      generation.Rejected view invocation.settings := by
  rw [Invocation.effects_of_generate hcommand]
  cases hsettings : Settings.load view invocation.settings with
  | error failure =>
      constructor
      · intro _
        exact .settings hsettings
      · intro _
        exact ⟨failure, rfl⟩
  | ok settings =>
      change (∃ failure, generation.effects view settings = .error failure) ↔ _
      constructor
      · rintro ⟨failure, heffects⟩
        exact rejected_of_effects_eq_error hsettings heffects
      · intro hrejected
        cases heffects : generation.effects view settings with
        | error failure => exact ⟨failure, rfl⟩
        | ok effects => exact absurd hrejected (not_rejected_of_effects hsettings heffects)

end Generation

/-! ## What a rejection tells -/

theorem Settings.filter_log (view : View) (path : Option Text) :
    (log view path).filter LogEvent.isWarning = [] := by
  unfold log
  split
  · split <;> rfl
  · rfl

theorem Document.filter_logOfLoad {view : View} {path text : Text} (options : ReadOptions)
    (preprocessor : Preprocessor) (htext : text? view path = some text) :
    (logOfLoad view options preprocessor path).filter LogEvent.isWarning =
      (read options preprocessor text).reports.map .problemFound := by
  unfold text? at htext
  split at htext
  · next contents hview =>
      rw [logOfLoad, hview]
      dsimp only
      rw [htext, List.filter_cons_of_neg Bool.false_ne_true, filter_log]
  · contradiction

/-- The warnings are for the same problems as the failure. -/
theorem Generation.plan_of_reads {view : View} {generation : Generation} {invocation : Invocation}
    {outcome : Outcome} (hcommand : invocation.command = .generate generation)
    (hreads : generation.Reads view invocation.settings outcome) (hreports : outcome.reports ≠ []) :
    invocation.effects view = .error (.problems outcome.reports) ∧
      (invocation.plan view).log.filter LogEvent.isWarning =
        outcome.reports.map .problemFound := by
  obtain ⟨settings, format, preprocessor, text, hsettings, hchecked, htext, rfl⟩ := hreads
  have hload := Document.load_of_reports _ _ htext hreports
  have hlogged : (Document.logged view settings.readOptions preprocessor generation.input).log =
      Document.logOfLoad view settings.readOptions preprocessor generation.input := by
    rw [Document.logged, hload]
    exact List.append_nil _
  have hplan : invocation.plan view =
      ⟨Settings.log view invocation.settings ++
        Document.logOfLoad view settings.readOptions preprocessor generation.input,
        .error (.problems (Document.read settings.readOptions preprocessor text).reports)⟩ := by
    rw [Invocation.plan_of_generate hcommand, Logged.bind_of_result_eq_ok hsettings,
      plan_of_checked hchecked, Logged.bind_of_result_eq_error hload, hlogged]
    rfl
  rw [Invocation.effects, hplan]
  refine ⟨rfl, ?_⟩
  rw [List.filter_append, Settings.filter_log, Document.filter_logOfLoad _ _ htext]
  rfl

namespace FileTree

theorem files_of_effects {view : View} {invocation : Invocation} {effects : Effects}
    (hcommand : ∀ generation, invocation.command ≠ .generate generation)
    (heffects : invocation.effects view = .ok effects) : effects.files = [] := by
  unfold Invocation.effects Invocation.plan at heffects
  cases hkind : invocation.command with
  | generate generation => exact absurd hkind (hcommand generation)
  | validate input processors =>
      rw [hkind] at heffects
      obtain ⟨settings, -, heffects⟩ := Except.exists_of_bind_eq_ok heffects
      obtain ⟨preprocessor, -, heffects⟩ := Except.exists_of_bind_eq_ok heffects
      obtain ⟨catalog, -, heffects⟩ := Except.exists_of_bind_eq_ok heffects
      cases heffects
      rfl
  | formats =>
      rw [hkind] at heffects
      cases heffects
      rfl
  | completions shell =>
      rw [hkind] at heffects
      cases heffects
      rfl

/-- A generation that is rejected changes nothing and fails.  If it is for the problems
of its document, its message lists these in the order in which reading reports them, and
so does the log, whose warnings they are.  The message is the last thing in the error
output.  No other command changes anything, whether it fails or not. -/
theorem carryOut_rejected (tree : FileTree) (invocation : Invocation) :
    (∀ generation, invocation.command = .generate generation →
      ((∃ failure, invocation.effects tree.lookup? = .error failure) ↔
        generation.Rejected tree.lookup? invocation.settings) ∧
      (generation.Rejected tree.lookup? invocation.settings →
        (tree.carryOut invocation).exitCode = 1 ∧ (tree.carryOut invocation).tree = tree) ∧
      ∀ outcome, generation.Reads tree.lookup? invocation.settings outcome →
        outcome.reports ≠ [] →
          let message := Text.join ['\n'] (outcome.reports.map fun report =>
            "ERROR on line ".toList ++ Text.ofNat report.line ++ ": ".toList ++
              report.problem.message)
          ∃ log, tree.carryOut invocation = ⟨log, .failed (.problems outcome.reports), tree⟩ ∧
            log.filter LogEvent.isWarning = outcome.reports.map .problemFound ∧
            (∀ wording, (tree.carryOut invocation).error wording = message) ∧
            ∀ console, tree.errorOutput console invocation =
              console.linesOf (.ofVerbosity invocation.verbosity) log ++ (message ++ ['\n'])) ∧
      ((∀ generation, invocation.command ≠ .generate generation) →
        (tree.carryOut invocation).tree = tree) := by
  constructor
  · intro generation hcommand
    have hcauses : (∃ failure, invocation.effects tree.lookup? = .error failure) ↔
        generation.Rejected tree.lookup? invocation.settings :=
      Generation.exists_effects_eq_error_iff hcommand
    refine ⟨hcauses, ?_, ?_⟩
    · intro hrejected
      obtain ⟨failure, heffects⟩ := hcauses.mpr hrejected
      rw [carryOut_of_effects_eq_error heffects]
      exact ⟨rfl, rfl⟩
    · intro outcome hreads hreports
      obtain ⟨heffects, hwarnings⟩ := Generation.plan_of_reads hcommand hreads hreports
      have hresult := carryOut_of_effects_eq_error heffects
      refine ⟨_, hresult, hwarnings, ?_, ?_⟩
      · intro wording
        rw [hresult]
        rfl
      · intro console
        rw [errorOutput, hresult]
        rfl
  · intro hcommand
    cases heffects : invocation.effects tree.lookup? with
    | error failure => rw [carryOut_of_effects_eq_error heffects]
    | ok effects =>
        obtain ⟨failure, hput⟩ := exists_putAll_of_effects_eq_ok heffects
        rw [files_of_effects hcommand heffects] at hput
        exact (Prod.mk.inj hput).1.symm

/-- The settings are lenient, and so only two of the three lines in question are
reported. -/
def faultyFiles : FileTree :=
  ⟨[(["sanat.toml".toList], .file (Utf8.encode "lenient_indentation = true\n".toList)),
    (["in".toList], .file (Utf8.encode "=== S ===\n  A\n   x\n    y\n".toList))]⟩

def faultyGeneration : Generation :=
  ⟨"in".toList, "apple".toList, "out".toList, none, ["en".toList]⟩

/-- A console that shows what there is of an event, but no time. -/
def plainConsole : Console where
  wording := ⟨fun _ => [], fun _ => [], fun _ => [], fun _ => []⟩
  directive? _ := none
  line _ event :=
    event.level.name ++ [' '] ++ event.message
      ++ event.fields.flatMap (fun field => [' '] ++ field.1 ++ ['='] ++ field.2) ++ ['\n']
  ofCrash := []

theorem shows_plainConsole : plainConsole.shows .warnings = LogEvent.isWarning := by
  funext event
  cases event <;> rfl

theorem carryOut_rejected_faultyFiles :
    (∃ outcome, faultyGeneration.Reads faultyFiles.lookup? none outcome ∧
      outcome.reports ≠ []) ∧
      (faultyFiles.carryOut ⟨0, none, .generate faultyGeneration⟩).exitCode = 1 ∧
      (faultyFiles.carryOut ⟨0, none, .generate faultyGeneration⟩).output = [] ∧
      (faultyFiles.carryOut ⟨0, none, .generate faultyGeneration⟩).tree = faultyFiles ∧
      faultyFiles.errorOutput plainConsole ⟨0, none, .generate faultyGeneration⟩ =
        "WARN parse error line=4 message=Cannot find separator '=' on line:     y\n".toList ++
          "WARN parse error line=2 message=Translation 'A' has no values\n".toList ++
          "ERROR on line 4: Cannot find separator '=' on line:     y\n".toList ++
          "ERROR on line 2: Translation 'A' has no values\n".toList ∧
      (faultyFiles.carryOut ⟨0, none, .validate "in".toList none⟩).tree = faultyFiles := by
  have hsettings : Settings.load faultyFiles.lookup? none = .ok ⟨none, [], true⟩ := rfl
  have hchecked : faultyGeneration.Checked faultyFiles.lookup? ⟨none, [], true⟩ .apple
      (.pipeline []) := by
    refine ⟨rfl, rfl, ?_, ?_⟩
    · intro contents hfile
      have hnone : faultyFiles.lookup? faultyGeneration.directory = none := by decide +kernel
      rw [hnone] at hfile
      contradiction
    · decide
  have htext : Document.text? faultyFiles.lookup? faultyGeneration.input =
      some "=== S ===\n  A\n   x\n    y\n".toList := by decide +kernel
  have hreads : faultyGeneration.Reads faultyFiles.lookup? none
      (Document.read ⟨true, true⟩ (.pipeline []) "=== S ===\n  A\n   x\n    y\n".toList) :=
    ⟨⟨none, [], true⟩, .apple, .pipeline [], _, hsettings, hchecked, htext, rfl⟩
  have hreports : (Document.read ⟨true, true⟩ (.pipeline [])
      "=== S ===\n  A\n   x\n    y\n".toList).reports =
      [⟨4, .noSeparator "    y".toList⟩, ⟨2, .noValues "A".toList⟩] := by decide +kernel
  have hnonempty : (Document.read ⟨true, true⟩ (.pipeline [])
      "=== S ===\n  A\n   x\n    y\n".toList).reports ≠ [] := by
    rw [hreports]
    exact List.cons_ne_nil _ _
  obtain ⟨hgenerate, -⟩ :=
    carryOut_rejected faultyFiles ⟨0, none, .generate faultyGeneration⟩
  obtain ⟨log, hresult, hwarnings, -, hconsole⟩ :=
    (hgenerate faultyGeneration rfl).2.2 _ hreads hnonempty
  obtain ⟨-, hother⟩ := carryOut_rejected faultyFiles ⟨0, none, .validate "in".toList none⟩
  refine ⟨⟨_, hreads, hnonempty⟩, ?_, ?_, ?_, ?_, hother fun _ => by simp⟩
  · rw [hresult]
    rfl
  · rw [hresult]
    rfl
  · rw [hresult]
  · have hlevel : LogLevel.ofVerbosity 0 = .warnings := rfl
    rw [hconsole, hlevel, Console.linesOf, shows_plainConsole, hwarnings, hreports]
    decide +kernel

end FileTree

end MessageCatalog
