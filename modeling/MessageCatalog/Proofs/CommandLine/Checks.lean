import MessageCatalog.Proofs.CommandLine.Effects
import MessageCatalog.Proofs.CommandLine.Log

/-!
# Checks before a generation

A generation is checked in a fixed order.  Some checks are passed before the document
is read, on the format, the preprocessors, the output directory and the languages that
are asked for.  From there on the document decides alone: whether it can be read, what
is wrong with it, and which languages it has.
-/

namespace MessageCatalog

namespace Document

/-- The text of the document at a path, if there is a file and it has one. -/
def text? (view : View) (path : Text) : Option Text :=
  match view path with
  | some (.file contents) => decode? contents
  | _ => none

variable {view : View} {path : Text} (options : ReadOptions) (preprocessor : Preprocessor)

theorem exists_load_eq_error (htext : text? view path = none) :
    ∃ failure, load view options preprocessor path = .error failure := by
  unfold text? at htext
  unfold load
  split at htext
  · next contents hview =>
      rw [hview]
      dsimp only
      rw [readEncoded, htext]
      exact ⟨_, rfl⟩
  · next hview =>
      cases hnode : view path with
      | none => exact ⟨_, rfl⟩
      | some node =>
          cases node with
          | file contents => exact absurd hnode (hview contents)
          | directory => exact ⟨_, rfl⟩

theorem load_of_text? {text : Text} (htext : text? view path = some text) :
    load view options preprocessor path =
      (read options preprocessor text).toExcept.mapError .problems := by
  unfold text? at htext
  split at htext
  · next contents hview =>
      rw [load, hview]
      dsimp only
      rw [readEncoded, htext]
      rfl
  · contradiction

theorem load_of_reports {text : Text} (htext : text? view path = some text)
    (hreports : (read options preprocessor text).reports ≠ []) :
    load view options preprocessor path =
      .error (.problems (read options preprocessor text).reports) := by
  rw [load_of_text? options preprocessor htext, Outcome.toExcept,
    if_neg (by rwa [List.isEmpty_iff])]
  rfl

theorem load_of_reports_eq_nil {text : Text} (htext : text? view path = some text)
    (hreports : (read options preprocessor text).reports = []) :
    load view options preprocessor path = .ok (read options preprocessor text).catalog := by
  rw [load_of_text? options preprocessor htext, Outcome.toExcept,
    if_pos (by rw [hreports]; rfl)]
  rfl

theorem exists_of_load_eq_ok {catalog : Catalog}
    (hload : load view options preprocessor path = .ok catalog) :
    ∃ text, text? view path = some text ∧ (read options preprocessor text).reports = [] ∧
      catalog = (read options preprocessor text).catalog := by
  cases htext : text? view path with
  | none =>
      obtain ⟨failure, herror⟩ := exists_load_eq_error options preprocessor htext
      rw [herror] at hload
      contradiction
  | some text =>
      by_cases hreports : (read options preprocessor text).reports = []
      · rw [load_of_reports_eq_nil options preprocessor htext hreports] at hload
        exact ⟨text, rfl, hreports, (Except.ok.inj hload).symm⟩
      · rw [load_of_reports options preprocessor htext hreports] at hload
        contradiction

end Document

namespace Generation

def asked (settings : Settings) (generation : Generation) : List Text :=
  if generation.languages.isEmpty then settings.languages else generation.languages

/-- What a generation with certain settings has passed before it reads the document. -/
structure Checked (view : View) (settings : Settings) (generation : Generation)
    (format : Format) (preprocessor : Preprocessor) : Prop where
  format : Format.ofText generation.format = .ok format
  preprocessor : settings.preprocessor generation.processors = .ok preprocessor
  directory : ∀ contents, view generation.directory ≠ some (.file contents)
  languages : ∀ code ∈ generation.asked settings, Language.check code = none

variable {view : View} {settings : Settings} {generation : Generation} {format : Format}
  {preprocessor : Preprocessor}

theorem checkDirectory_eq_ok_iff {path : Text} :
    checkDirectory view path = .ok () ↔ ∀ contents, view path ≠ some (.file contents) := by
  unfold checkDirectory
  split
  · next contents hview => simp [hview]
  · next hview => simpa using hview

/-- A format for single languages needs languages that the document has or, if none are
asked for, a document without invalid codes. -/
theorem languagesOf_cases (format : Format) (input : Text) (asked : List Text)
    (catalog : Catalog) :
    (∃ languages, languagesOf format input asked catalog = .ok languages) ∨
      format.isPerLanguage = true ∧
        ((∃ language ∈ asked, catalog.languages.contains language = false ∧
            languagesOf format input asked catalog = .error (.missingLanguage language input)) ∨
          asked = [] ∧ ∃ code ∈ catalog.languages.codes, ∃ reason,
            Language.check code = some reason ∧
              languagesOf format input asked catalog =
                .error (.badDocumentLanguage reason input)) := by
  unfold languagesOf
  cases hperLanguage : format.isPerLanguage with
  | false => exact Or.inl ⟨[[]], rfl⟩
  | true =>
      simp only [Bool.not_true, Bool.false_eq_true, if_false]
      by_cases hempty : asked.isEmpty
      · rw [if_pos hempty]
        cases hcodes : checkCodes (.badDocumentLanguage · input) catalog.languages.codes with
        | ok _ => exact Or.inl ⟨_, rfl⟩
        | error refusal =>
            obtain ⟨code, hcode, reason, hreason, rfl⟩ := exists_of_checkCodes_eq_error hcodes
            right
            exact ⟨trivial, Or.inr ⟨List.isEmpty_iff.mp hempty, code, hcode, reason, hreason, rfl⟩⟩
      · rw [if_neg hempty]
        cases hfind : asked.find? fun language => !catalog.languages.contains language with
        | none => exact Or.inl ⟨asked, rfl⟩
        | some missing =>
            have hmissing := List.find?_some hfind
            have hmem := List.mem_of_find?_eq_some hfind
            right
            exact ⟨trivial, Or.inl ⟨missing, hmem, by simpa using hmissing, rfl⟩⟩

theorem languagesOf_eq_ok_iff {format : Format} {input : Text} {asked languages : List Text}
    {catalog : Catalog} :
    languagesOf format input asked catalog = .ok languages ↔
      (if !format.isPerLanguage then [[]]
        else if asked.isEmpty then catalog.languages.codes
        else asked) = languages ∧
      (format.isPerLanguage = true →
        (∀ language ∈ asked, catalog.languages.contains language = true) ∧
          (asked = [] → ∀ code ∈ catalog.languages.codes, Language.check code = none)) := by
  unfold languagesOf
  cases hperLanguage : format.isPerLanguage with
  | false => simp
  | true =>
      simp only [Bool.not_true, Bool.false_eq_true, if_false, forall_const]
      cases asked with
      | nil =>
          rw [if_pos List.isEmpty_nil, if_pos List.isEmpty_nil]
          have hiff : checkCodes (.badDocumentLanguage · input) catalog.languages.codes = .ok () ↔
              ∀ code ∈ catalog.languages.codes, Language.check code = none := checkCodes_eq_ok_iff
          cases hcodes : checkCodes (.badDocumentLanguage · input) catalog.languages.codes with
          | error failure =>
              rw [hcodes] at hiff
              simp [Except.map, ← hiff]
          | ok _ => simp [Except.map, ← hiff, hcodes]
      | cons language more =>
          have hne : ¬ (language :: more).isEmpty = true := Bool.false_ne_true
          rw [if_neg hne, if_neg hne]
          cases hfind : (language :: more).find?
              fun language => !catalog.languages.contains language with
          | none =>
              have hfound : ∀ other ∈ language :: more,
                  catalog.languages.contains other = true := by
                simpa using List.find?_eq_none.mp hfind
              have hnil : language :: more = [] → ∀ code ∈ catalog.languages.codes,
                  Language.check code = none :=
                fun hnil => absurd hnil (List.cons_ne_nil language more)
              rw [Except.ok.injEq, and_iff_left ⟨hfound, hnil⟩]
          | some missing =>
              have hmissing := List.find?_some hfind
              have hmem := List.mem_of_find?_eq_some hfind
              constructor
              · intro herror
                contradiction
              · rintro ⟨-, hfound, -⟩
                rw [hfound missing hmem] at hmissing
                contradiction

/-- Behind the first checks, which log nothing, only the document can make a generation
fail. -/
theorem plan_of_checked
    (hchecked : generation.Checked view settings format preprocessor) :
    generation.plan view settings =
      (Document.logged view settings.readOptions preprocessor generation.input).bind
        fun catalog => .ofExcept
          ((languagesOf format generation.input (generation.asked settings) catalog).map
            (generation.effectsFor format catalog)) := by
  have hdirectory := checkDirectory_eq_ok_iff.mpr hchecked.directory
  have hlanguages : checkCodes .badLanguage (generation.asked settings) = .ok () :=
    checkCodes_eq_ok_iff.mpr hchecked.languages
  unfold asked at hlanguages ⊢
  unfold plan
  rw [hchecked.format, hchecked.preprocessor, hdirectory]
  dsimp only [Except.mapError, bind]
  rw [Logged.ofExcept_ok_bind, Logged.ofExcept_ok_bind, Logged.ofExcept_ok_bind, hlanguages,
    Logged.ofExcept_ok_bind]
  congr 1
  funext catalog
  exact Logged.ofExcept_bind_pure _ _

/-- What a generation with certain settings comes to. -/
def effects (view : View) (settings : Settings) (generation : Generation) :
    Except Failure Effects :=
  (generation.plan view settings).result

theorem effects_of_checked
    (hchecked : generation.Checked view settings format preprocessor) :
    generation.effects view settings =
      (Document.load view settings.readOptions preprocessor generation.input).bind
        fun catalog =>
          (languagesOf format generation.input (generation.asked settings) catalog).map
            (generation.effectsFor format catalog) := by
  rw [effects, plan_of_checked hchecked]
  rfl

theorem exists_checked_of_effects {effects : Effects}
    (heffects : generation.effects view settings = .ok effects) :
    ∃ format preprocessor, generation.Checked view settings format preprocessor := by
  obtain ⟨format, hformat, heffects⟩ := Except.exists_of_bind_eq_ok heffects
  obtain ⟨preprocessor, hpreprocessor, heffects⟩ := Except.exists_of_bind_eq_ok heffects
  obtain ⟨_, hdirectory, heffects⟩ := Except.exists_of_bind_eq_ok heffects
  obtain ⟨_, hasked, -⟩ := Except.exists_of_bind_eq_ok heffects
  exact ⟨format, preprocessor, Except.mapError_eq_ok_iff.mp hformat, hpreprocessor,
    checkDirectory_eq_ok_iff.mp hdirectory, checkCodes_eq_ok_iff.mp hasked⟩

end Generation

namespace Invocation

variable {view : View} {invocation : Invocation} {generation : Generation}

theorem plan_of_generate (hcommand : invocation.command = .generate generation) :
    invocation.plan view =
      (Settings.logged view invocation.settings).bind fun settings =>
        generation.plan view settings := by
  rw [plan, hcommand]

theorem effects_of_generate (hcommand : invocation.command = .generate generation) :
    invocation.effects view =
      (Settings.load view invocation.settings).bind fun settings =>
        generation.effects view settings := by
  rw [effects, plan_of_generate hcommand]
  rfl

end Invocation

end MessageCatalog
