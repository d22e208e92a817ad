import MessageCatalog.Language.Tag
import MessageCatalog.Proofs.Text.Letter
import MessageCatalog.Proofs.Text.Splitting

/-!
# Directories of string resources

The directory for a language code says which language, script and region the
code stands for, and nothing more.  These three can be read off the directory
again, while codes that differ in their variants, their separators or their
capitals may share it.
-/

namespace MessageCatalog

namespace LanguageTag

/-- The subtags that a directory is named after. -/
def qualifiers (tag : LanguageTag) : Text × Option Text × Option Text :=
  (tag.language, tag.script, tag.region)

/-! ## Letters and digits -/

def IsSubtag (text : Text) : Prop := ∀ c ∈ text, c.isAlphanum = true

theorem IsSubtag.not_mem {text : Text} (htext : IsSubtag text) {c : Char}
    (hc : c.isAlphanum = false) : c ∉ text := by
  intro hmem
  rw [htext c hmem] at hc
  contradiction

theorem isSubtag_map {change : Char → Char} {text : Text}
    (hchange : ∀ c, c.isAlpha = true → (change c).isAlphanum = true)
    (htext : text.all Char.isAlpha = true) : IsSubtag (text.map change) := by
  rw [List.all_eq_true] at htext
  intro c hc
  obtain ⟨original, horiginal, rfl⟩ := List.mem_map.mp hc
  exact hchange original (htext original horiginal)

theorem isSubtag_asciiLower {text : Text} (htext : text.all Char.isAlpha = true) :
    IsSubtag (Text.asciiLower text) :=
  isSubtag_map (fun _ => Text.isAlphanum_toLower) htext

theorem isSubtag_asciiUpper {text : Text} (htext : text.all Char.isAlpha = true) :
    IsSubtag (asciiUpper text) :=
  isSubtag_map (fun _ => Text.isAlphanum_toUpper) htext

theorem isSubtag_asciiTitle {text : Text} (htext : text.all Char.isAlpha = true) :
    IsSubtag (asciiTitle text) := by
  cases text with
  | nil => simp [IsSubtag, asciiTitle]
  | cons c rest =>
      rw [List.all_cons, Bool.and_eq_true] at htext
      rw [asciiTitle, IsSubtag, List.forall_mem_cons]
      exact ⟨Text.isAlphanum_toUpper htext.1, isSubtag_asciiLower htext.2⟩

theorem isSubtag_language? {subtag language : Text}
    (hlanguage : language? subtag = some language) : IsSubtag language := by
  unfold language? at hlanguage
  split at hlanguage
  · next hsubtag =>
      rw [Option.some.injEq] at hlanguage
      rw [← hlanguage]
      exact isSubtag_asciiLower hsubtag.2.2.2
  · contradiction

theorem isSubtag_script? {subtag script : Text} (hscript : script? subtag = some script) :
    IsSubtag script := by
  unfold script? at hscript
  split at hscript
  · next hsubtag =>
      rw [Option.some.injEq] at hscript
      rw [← hscript]
      exact isSubtag_asciiTitle hsubtag.2
  · contradiction

theorem isSubtag_region? {subtag region : Text} (hregion : region? subtag = some region) :
    IsSubtag region := by
  unfold region? at hregion
  split at hregion
  · next hletters =>
      rw [Option.some.injEq] at hregion
      rw [← hregion]
      exact isSubtag_asciiUpper hletters.2
  · split at hregion
    · next hdigits =>
        rw [Option.some.injEq] at hregion
        rw [← hregion]
        intro c hc
        have hdigit := List.all_eq_true.mp hdigits.2 c hc
        simp [Char.isAlphanum, hdigit]
    · contradiction

/-! ## Tags -/

/-- The qualifiers of a tag consist of letters and digits. -/
structure Plain (tag : LanguageTag) : Prop where
  language : IsSubtag tag.language
  script : ∀ script ∈ tag.script, IsSubtag script
  region : ∀ region ∈ tag.region, IsSubtag region

theorem plain_of_ofVariants {language : Text} {script region : Option Text} {rest : List Text}
    {tag : LanguageTag} (htag : ofVariants language script region rest = some tag)
    (hlanguage : IsSubtag language) (hscript : ∀ subtag ∈ script, IsSubtag subtag)
    (hregion : ∀ subtag ∈ region, IsSubtag subtag) : tag.Plain := by
  rw [ofVariants, Option.map_eq_some_iff] at htag
  obtain ⟨variants, -, rfl⟩ := htag
  exact ⟨hlanguage, hscript, hregion⟩

theorem plain_of_ofRegion {language : Text} {script : Option Text} {subtags : List Text}
    {tag : LanguageTag} (htag : ofRegion language script subtags = some tag)
    (hlanguage : IsSubtag language) (hscript : ∀ subtag ∈ script, IsSubtag subtag) :
    tag.Plain := by
  cases subtags with
  | nil =>
      rw [ofRegion, Option.some.injEq] at htag
      subst htag
      exact ⟨hlanguage, hscript, by simp⟩
  | cons subtag rest =>
      rw [ofRegion] at htag
      cases hregion : region? subtag with
      | none =>
          rw [hregion] at htag
          exact plain_of_ofVariants htag hlanguage hscript (by simp)
      | some region =>
          rw [hregion] at htag
          have hsubtag := isSubtag_region? hregion
          exact plain_of_ofVariants htag hlanguage hscript (by simpa using hsubtag)

theorem plain_of_ofScript {language : Text} {subtags : List Text} {tag : LanguageTag}
    (htag : ofScript language subtags = some tag) (hlanguage : IsSubtag language) :
    tag.Plain := by
  cases subtags with
  | nil =>
      rw [ofScript, Option.some.injEq] at htag
      subst htag
      exact ⟨hlanguage, by simp, by simp⟩
  | cons subtag rest =>
      rw [ofScript] at htag
      cases hscript : script? subtag with
      | none =>
          rw [hscript] at htag
          exact plain_of_ofRegion htag hlanguage (by simp)
      | some script =>
          rw [hscript] at htag
          have hsubtag := isSubtag_script? hscript
          exact plain_of_ofRegion htag hlanguage (by simpa using hsubtag)

theorem plain_of_ofText? {code : Text} {tag : LanguageTag} (htag : ofText? code = some tag) :
    tag.Plain := by
  unfold ofText? at htag
  split at htag
  · contradiction
  · rw [Option.bind_eq_some_iff] at htag
    obtain ⟨language, hlanguage, hrest⟩ := htag
    exact plain_of_ofScript hrest (isSubtag_language? hlanguage)

/-! ## Reading a directory -/

/-- The qualifiers in the name of a directory, behind `values-`. -/
def readQualifiers (name : Text) : Text × Option Text × Option Text :=
  match Text.splitOn '+' name with
  | [_, language, script] => (language, some script, none)
  | [_, language, script, region] => (language, some script, some region)
  | _ =>
      match Text.splitFirst? '-' name with
      | none => (name, none, none)
      | some (language, region) => (language, none, some (region.drop 1))

theorem readQualifiers_resourceDirectory {tag : LanguageTag} (htag : tag.Plain) :
    readQualifiers (tag.resourceDirectory.drop "values-".toList.length) = tag.qualifiers := by
  obtain ⟨language, script, region, variants⟩ := tag
  have hlanguage : '+' ∉ language := htag.language.not_mem (by decide)
  have hhyphen : '-' ∉ language := htag.language.not_mem (by decide)
  have hb : '+' ∉ ['b'] := by decide
  cases script with
  | some script =>
      have hscript : '+' ∉ script := (htag.script script rfl).not_mem (by decide)
      cases region with
      | some region =>
          have hregion : '+' ∉ region := (htag.region region rfl).not_mem (by decide)
          have hname : (LanguageTag.resourceDirectory
                ⟨language, some script, some region, variants⟩).drop "values-".toList.length =
              ['b'] ++ '+' :: (language ++ '+' :: (script ++ '+' :: region)) := by
            simp [resourceDirectory]
          rw [hname, readQualifiers, Text.splitOn_append_separator hb,
            Text.splitOn_append_separator hlanguage, Text.splitOn_append_separator hscript,
            Text.splitOn_of_not_mem hregion]
          rfl
      | none =>
          have hname : (LanguageTag.resourceDirectory
                ⟨language, some script, none, variants⟩).drop "values-".toList.length =
              ['b'] ++ '+' :: (language ++ '+' :: script) := by
            simp [resourceDirectory]
          rw [hname, readQualifiers, Text.splitOn_append_separator hb,
            Text.splitOn_append_separator hlanguage, Text.splitOn_of_not_mem hscript]
          rfl
  | none =>
      cases region with
      | some region =>
          have hregion : '+' ∉ region := (htag.region region rfl).not_mem (by decide)
          have hname : (LanguageTag.resourceDirectory
                ⟨language, none, some region, variants⟩).drop "values-".toList.length =
              language ++ '-' :: 'r' :: region := by
            simp [resourceDirectory]
          have hplus : '+' ∉ language ++ '-' :: 'r' :: region := by simp [hlanguage, hregion]
          rw [hname, readQualifiers, Text.splitOn_of_not_mem hplus,
            Text.splitFirst?_append hhyphen]
          rfl
      | none =>
          have hname : (LanguageTag.resourceDirectory
                ⟨language, none, none, variants⟩).drop "values-".toList.length = language := by
            simp [resourceDirectory]
          rw [hname, readQualifiers, Text.splitOn_of_not_mem hlanguage,
            Text.splitFirst?_eq_none_iff.mpr hhyphen]
          rfl

theorem resourceDirectory_eq_iff {left right : LanguageTag} (hleft : left.Plain)
    (hright : right.Plain) :
    left.resourceDirectory = right.resourceDirectory ↔ left.qualifiers = right.qualifiers := by
  constructor
  · intro hdirectory
    rw [← readQualifiers_resourceDirectory hleft, hdirectory,
      readQualifiers_resourceDirectory hright]
  · intro hqualifiers
    obtain ⟨language, script, region, variants⟩ := left
    obtain ⟨otherLanguage, otherScript, otherRegion, otherVariants⟩ := right
    simp only [qualifiers, Prod.mk.injEq] at hqualifiers
    obtain ⟨rfl, rfl, rfl⟩ := hqualifiers
    rfl

theorem head?_resourceDirectory (tag : LanguageTag) : tag.resourceDirectory.head? = some 'v' := by
  obtain ⟨language, script, region, variants⟩ := tag
  cases script <;> cases region <;> rfl

theorem slash_not_mem_resourceDirectory {tag : LanguageTag} (htag : tag.Plain) :
    '/' ∉ tag.resourceDirectory := by
  obtain ⟨language, script, region, variants⟩ := tag
  have hlanguage : '/' ∉ language := htag.language.not_mem (by decide)
  cases script with
  | some script =>
      have hscript : '/' ∉ script := (htag.script script rfl).not_mem (by decide)
      cases region with
      | some region =>
          have hregion : '/' ∉ region := (htag.region region rfl).not_mem (by decide)
          simp [resourceDirectory, hlanguage, hscript, hregion]
      | none => simp [resourceDirectory, hlanguage, hscript]
  | none =>
      cases region with
      | some region =>
          have hregion : '/' ∉ region := (htag.region region rfl).not_mem (by decide)
          simp [resourceDirectory, hlanguage, hregion]
      | none => simp [resourceDirectory, hlanguage]

end LanguageTag

namespace Language

def qualifiers? (code : Text) : Option (Text × Option Text × Option Text) :=
  (LanguageTag.ofText? code).map LanguageTag.qualifiers

section

variable {tag? : Text → Option LanguageTag}

theorem exists_of_checkWith_eq_none {code : Text} (hcode : checkWith tag? code = none) :
    code ≠ [] ∧ ∃ tag, tag? code = some tag := by
  unfold checkWith at hcode
  split at hcode
  · contradiction
  · next hempty =>
      split at hcode
      · contradiction
      · next hnone =>
          constructor
          · rintro rfl
            exact hempty rfl
          · exact Option.isSome_iff_exists.mp (by simpa [Option.isSome_iff_ne_none] using hnone)

/-- Two codes have the same directory if and only if they agree on language,
script and region, provided that these consist of letters and digits. -/
theorem resourceDirectoryWith_eq_iff (hplain : ∀ code tag, tag? code = some tag → tag.Plain)
    {left right : Text} (hleft : checkWith tag? left = none)
    (hright : checkWith tag? right = none) :
    resourceDirectoryWith tag? left = resourceDirectoryWith tag? right ↔
      (tag? left).map LanguageTag.qualifiers = (tag? right).map LanguageTag.qualifiers := by
  obtain ⟨-, leftTag, hleftTag⟩ := exists_of_checkWith_eq_none hleft
  obtain ⟨-, rightTag, hrightTag⟩ := exists_of_checkWith_eq_none hright
  rw [resourceDirectoryWith, resourceDirectoryWith, hleftTag, hrightTag, Option.map_some,
    Option.map_some, Option.some.injEq]
  exact LanguageTag.resourceDirectory_eq_iff (hplain left leftTag hleftTag)
    (hplain right rightTag hrightTag)

end

theorem exists_of_check_eq_none {code : Text} (hcode : check code = none) :
    code ≠ [] ∧ ∃ tag, LanguageTag.ofText? code = some tag :=
  exists_of_checkWith_eq_none hcode

end Language

end MessageCatalog
