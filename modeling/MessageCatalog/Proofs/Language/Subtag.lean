import MessageCatalog.Proofs.FileTree.Below
import MessageCatalog.Proofs.Language.Directory

/-!
# What accepted codes are made of

The subtags of an accepted code are letters and digits, except that a variant of four
characters is held to less.  It may have slashes and points, and so the parts of a code
between its slashes need not be names.  But no variant has room for a step upwards
between two slashes, so that only the last part of a code can be one.
-/

namespace MessageCatalog

namespace LanguageTag

inductive IsPart (subtag : Text) : Prop
  | plain (hplain : IsSubtag subtag)
  | variant (hlength : subtag.length = 4)
      (hpartly : (subtag.take 1).all Char.isDigit = true ∨
        (subtag.drop 1).all Char.isAlphanum = true)

theorem isSubtag_of_all_isAlpha {subtag : Text} (hsubtag : subtag.all Char.isAlpha = true) :
    IsSubtag subtag := by
  rw [List.all_eq_true] at hsubtag
  intro c hc
  rw [Char.isAlphanum, hsubtag c hc, Bool.true_or]

theorem all_isAlpha_of_language? {subtag language : Text}
    (hlanguage : language? subtag = some language) :
    2 ≤ subtag.length ∧ subtag.all Char.isAlpha = true := by
  unfold language? at hlanguage
  split at hlanguage
  · next hsubtag => exact ⟨hsubtag.1, hsubtag.2.2.2⟩
  · contradiction

theorem isPart_of_script? {subtag script : Text} (hscript : script? subtag = some script) :
    IsPart subtag := by
  unfold script? at hscript
  split at hscript
  · next hsubtag => exact .plain (isSubtag_of_all_isAlpha hsubtag.2)
  · contradiction

theorem isPart_of_region? {subtag region : Text} (hregion : region? subtag = some region) :
    IsPart subtag := by
  apply IsPart.plain
  unfold region? at hregion
  split at hregion
  · next hletters => exact isSubtag_of_all_isAlpha hletters.2
  · split at hregion
    · next hdigits =>
        intro c hc
        rw [Char.isAlphanum, List.all_eq_true.mp hdigits.2 c hc, Bool.or_true]
    · contradiction

theorem isPart_of_variant? {subtag variant : Text} (hvariant : variant? subtag = some variant) :
    IsPart subtag := by
  unfold variant? at hvariant
  split at hvariant
  · next hsubtag =>
      rcases hsubtag.2 with ⟨-, -, hplain⟩ | ⟨hlength, hpartly⟩
      · exact .plain (List.all_eq_true.mp hplain)
      · exact .variant hlength hpartly
  · contradiction

theorem isPart_of_mapM_variant? {subtags variants : List Text}
    (hvariants : subtags.mapM variant? = some variants) : ∀ subtag ∈ subtags, IsPart subtag := by
  induction subtags generalizing variants with
  | nil => exact List.forall_mem_nil IsPart
  | cons subtag subtags ih =>
      rw [List.mapM_cons, Option.bind_eq_bind, Option.bind_eq_some_iff] at hvariants
      obtain ⟨variant, hvariant, hrest⟩ := hvariants
      rw [Option.bind_eq_bind, Option.bind_eq_some_iff] at hrest
      obtain ⟨others, hothers, -⟩ := hrest
      rw [List.forall_mem_cons]
      exact ⟨isPart_of_variant? hvariant, ih hothers⟩

theorem isPart_of_ofRegion {language : Text} {script : Option Text} {subtags : List Text}
    {tag : LanguageTag} (htag : ofRegion language script subtags = some tag) :
    ∀ subtag ∈ subtags, IsPart subtag := by
  cases subtags with
  | nil => exact List.forall_mem_nil IsPart
  | cons subtag rest =>
      rw [ofRegion] at htag
      cases hregion : region? subtag with
      | none =>
          rw [hregion] at htag
          obtain ⟨variants, hvariants, -⟩ := Option.map_eq_some_iff.mp htag
          exact isPart_of_mapM_variant? hvariants
      | some region =>
          rw [hregion] at htag
          obtain ⟨variants, hvariants, -⟩ := Option.map_eq_some_iff.mp htag
          rw [List.forall_mem_cons]
          exact ⟨isPart_of_region? hregion, isPart_of_mapM_variant? hvariants⟩

theorem isPart_of_ofScript {language : Text} {subtags : List Text} {tag : LanguageTag}
    (htag : ofScript language subtags = some tag) : ∀ subtag ∈ subtags, IsPart subtag := by
  cases subtags with
  | nil => exact List.forall_mem_nil IsPart
  | cons subtag rest =>
      rw [ofScript] at htag
      cases hscript : script? subtag with
      | none =>
          rw [hscript] at htag
          exact isPart_of_ofRegion htag
      | some script =>
          rw [hscript] at htag
          rw [List.forall_mem_cons]
          exact ⟨isPart_of_script? hscript, isPart_of_ofRegion htag⟩

/-- The first subtag is the language, and so it has letters only. -/
theorem exists_subtags_of_ofText? {code : Text} {tag : LanguageTag}
    (htag : ofText? code = some tag) :
    ∃ first rest, subtags code = first :: rest ∧ 2 ≤ first.length ∧
      first.all Char.isAlpha = true ∧ ∀ subtag ∈ rest, IsPart subtag := by
  unfold ofText? at htag
  split at htag
  · contradiction
  · next first rest hsubtags =>
      obtain ⟨language, hlanguage, hrest⟩ := Option.bind_eq_some_iff.mp htag
      obtain ⟨hlength, hletters⟩ := all_isAlpha_of_language? hlanguage
      exact ⟨first, rest, hsubtags, hlength, hletters, isPart_of_ofScript hrest⟩

theorem IsPart.not_climb {subtag : Text} (hsubtag : IsPart subtag) :
    ¬ Location.climb <:+: subtag := by
  intro hclimb
  cases hsubtag with
  | plain hplain =>
      apply hplain.not_mem (show Char.isAlphanum '/' = false by decide)
      apply hclimb.subset
      decide
  | variant hlength hpartly =>
      -- There is no room for anything else.
      obtain rfl : Location.climb = subtag := hclimb.eq_of_length hlength.symm
      revert hpartly
      decide

end LanguageTag

namespace Language

theorem exists_head?_of_check {code : Text} (hcode : check code = none) :
    ∃ c, code.head? = some c ∧ c.isAlpha = true := by
  obtain ⟨-, tag, htag⟩ := exists_of_check_eq_none hcode
  obtain ⟨first, rest, hsubtags, hlength, hletters, -⟩ :=
    LanguageTag.exists_subtags_of_ofText? htag
  cases first with
  | nil => contradiction
  | cons c letters =>
      refine ⟨c, ?_, List.all_eq_true.mp hletters c List.mem_cons_self⟩
      unfold LanguageTag.subtags at hsubtags
      cases hhyphens : Text.splitOn '-' code with
      | nil => exact absurd hhyphens (Text.splitOn_ne_nil '-' code)
      | cons part parts =>
          rw [hhyphens, List.flatMap_cons] at hsubtags
          apply Text.head?_of_splitOn hhyphens
          cases hunderscores : Text.splitOn '_' part with
          | nil => exact absurd hunderscores (Text.splitOn_ne_nil '_' part)
          | cons subtag more =>
              rw [hunderscores, List.cons_append, List.cons.injEq] at hsubtags
              apply Text.head?_of_splitOn hunderscores
              rw [hsubtags.1]
              rfl

theorem not_climb_of_check {code : Text} (hcode : check code = none) :
    ¬ Location.climb <:+: code := by
  intro hclimb
  obtain ⟨-, tag, htag⟩ := exists_of_check_eq_none hcode
  obtain ⟨first, rest, hsubtags, -, hletters, hrest⟩ :=
    LanguageTag.exists_subtags_of_ofText? htag
  have hparts : ∀ subtag ∈ LanguageTag.subtags code, LanguageTag.IsPart subtag := by
    rw [hsubtags, List.forall_mem_cons]
    exact ⟨.plain (LanguageTag.isSubtag_of_all_isAlpha hletters), hrest⟩
  have hhyphen : '-' ∉ Location.climb := by decide
  have hunderscore : '_' ∉ Location.climb := by decide
  obtain ⟨part, hpart, hclimbPart⟩ := Text.exists_mem_splitOn_of_infix hhyphen hclimb
  obtain ⟨subtag, hsubtag, hclimbSubtag⟩ :=
    Text.exists_mem_splitOn_of_infix hunderscore hclimbPart
  apply LanguageTag.IsPart.not_climb _ hclimbSubtag
  apply hparts
  exact List.mem_flatMap.mpr ⟨part, hpart, hsubtag⟩

theorem staysInside_of_check {code : Text} (hcode : check code = none) :
    Location.StaysInside code where
  head := by
    obtain ⟨c, hhead, hletter⟩ := exists_head?_of_check hcode
    refine ⟨c, hhead, ?_, ?_⟩
    all_goals
      rintro rfl
      contradiction
  climb := not_climb_of_check hcode

end Language

end MessageCatalog
