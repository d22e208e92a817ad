import MessageCatalog.Proofs.FileTree.Path
import MessageCatalog.Proofs.Language.Directory
import MessageCatalog.Proofs.Language.Subtag

/-!
# Where the files of different languages go

Whatever is accepted as a code leads below the output directory, and codes of letters,
digits, hyphens and underscores lead to names of their own there.  All formats but one
put the code itself into the names and so keep different codes apart.  Android
directories are named after language, script and region alone.  Most of this does not
depend on how codes are taken apart, as long as the parts are letters and digits.
-/

namespace MessageCatalog

/-- A code as people write it.  Some variants of four characters, such as `1/..`,
are accepted as well. -/
def Language.IsPlain (code : Text) : Prop :=
  ∀ c ∈ code, c.isAlphanum = true ∨ c = '-' ∨ c = '_'

instance : DecidablePred Language.IsPlain := fun code =>
  decidable_of_iff (code.all fun c => c.isAlphanum || c = '-' || c = '_')
    (by simp [Language.IsPlain, or_assoc])

theorem Language.IsPlain.not_mem {code : Text} (hcode : IsPlain code) {c : Char}
    (hc : c.isAlphanum = false) (hhyphen : c ≠ '-') (hunderscore : c ≠ '_') : c ∉ code := by
  intro hmem
  rcases hcode c hmem with hletter | heq | heq
  · rw [hc] at hletter
    contradiction
  · exact hhyphen heq
  · exact hunderscore heq

namespace Format

section

variable {tag? : Text → Option LanguageTag}
  (htags : ∀ code tag, tag? code = some tag → tag.Plain)

include htags in
theorem isName_of_mem_locationWith_android {code : Text}
    (hcode : Language.checkWith tag? code = none) :
    ∀ name ∈ android.locationWith tag? code, Place.IsName name := by
  obtain ⟨-, tag, htag⟩ := Language.exists_of_checkWith_eq_none hcode
  have hdirectory : Language.resourceDirectoryWith tag? code = tag.resourceDirectory := by
    rw [Language.resourceDirectoryWith, htag]
  simp only [locationWith, List.forall_mem_cons, hdirectory]
  refine ⟨?_, ?_, by simp⟩
  · exact Place.IsName.of_head (LanguageTag.slash_not_mem_resourceDirectory (htags code tag htag))
      tag.head?_resourceDirectory (by decide)
  · exact Place.IsName.of_long (by decide) (by decide)

include htags in
/-- Below the output directory, every part of a location is a name, however codes are
taken apart into letters and digits. -/
theorem isName_of_mem_locationWith {format : Format} {code : Text}
    (hcode : format.isPerLanguage = true → Language.checkWith tag? code = none)
    (hplain : Language.IsPlain code) :
    ∀ name ∈ format.locationWith tag? code, Place.IsName name := by
  have hslash : '/' ∉ code := hplain.not_mem (by decide) (by decide) (by decide)
  have hpoint : '.' ∉ code := hplain.not_mem (by decide) (by decide) (by decide)
  cases format with
  | apple =>
      simp only [locationWith, List.forall_mem_cons]
      refine ⟨?_, ?_, by simp⟩
      · exact Place.IsName.of_long (by simp [hslash]) (by simp)
      · exact Place.IsName.of_long (by decide) (by decide)
  | android => exact isName_of_mem_locationWith_android htags (hcode rfl)
  | java =>
      simp only [locationWith, List.forall_mem_cons]
      exact ⟨Place.IsName.of_long (by simp [hslash]) (by simp), by simp⟩
  | windowsResx =>
      simp only [locationWith, List.forall_mem_cons]
      exact ⟨Place.IsName.of_long (by simp [hslash]) (by simp), by simp⟩
  | windowsResw =>
      obtain ⟨hempty, -⟩ := Language.exists_of_checkWith_eq_none (hcode rfl)
      obtain ⟨c, rest, rfl⟩ := List.exists_cons_of_ne_nil hempty
      simp only [locationWith, List.forall_mem_cons]
      refine ⟨?_, ?_, by simp⟩
      · apply Place.IsName.of_head hslash List.head?_cons
        rintro rfl
        exact hpoint List.mem_cons_self
      · exact Place.IsName.of_long (by decide) (by decide)
  | json =>
      simp only [locationWith, List.forall_mem_cons]
      exact ⟨Place.IsName.of_long (by decide) (by decide), by simp⟩
  | dump =>
      simp only [locationWith, List.forall_mem_cons]
      exact ⟨Place.IsName.of_long (by decide) (by decide), by simp⟩

/-- Every format but Android's keeps different codes apart. -/
theorem eq_of_locationWith_eq {format : Format} (hperLanguage : format.isPerLanguage = true)
    (hformat : format ≠ android) {left right : Text}
    (hlocation : format.locationWith tag? left = format.locationWith tag? right) :
    left = right := by
  cases format with
  | apple => simpa [locationWith] using hlocation
  | android => contradiction
  | java => simpa [locationWith] using hlocation
  | windowsResx => simpa [locationWith] using hlocation
  | windowsResw => simpa [locationWith] using hlocation
  | json => contradiction
  | dump => contradiction

include htags in
theorem locationWith_android_eq_iff {left right : Text}
    (hleft : Language.checkWith tag? left = none)
    (hright : Language.checkWith tag? right = none) :
    android.locationWith tag? left = android.locationWith tag? right ↔
      (tag? left).map LanguageTag.qualifiers = (tag? right).map LanguageTag.qualifiers := by
  rw [← Language.resourceDirectoryWith_eq_iff htags hleft hright]
  simp [locationWith]

end

theorem isName_of_mem_location_android {code : Text} (hcode : Language.check code = none) :
    ∀ name ∈ android.location code, Place.IsName name :=
  isName_of_mem_locationWith_android (fun _ _ => LanguageTag.plain_of_ofText?) hcode

/-- Below the output directory, every part of a location is a name. -/
theorem isName_of_mem_location {format : Format} {code : Text}
    (hcode : format.isPerLanguage = true → Language.check code = none)
    (hplain : Language.IsPlain code) :
    ∀ name ∈ format.location code, Place.IsName name :=
  isName_of_mem_locationWith (fun _ _ => LanguageTag.plain_of_ofText?) hcode hplain

/-- Whatever is accepted as a code, the path for it leads below the output directory. -/
theorem exists_of_place?_outputPath {tree : FileTree} {format : Format} {directory code : Text}
    {place : Place} (hcode : format.isPerLanguage = true → Language.check code = none)
    (hplace : tree.place? (format.outputPath directory code) = some place) :
    ∃ base, tree.place? directory = some base ∧ base.IsBelow place := by
  unfold outputPath location at hplace
  cases format with
  | apple =>
      have hcode := Language.staysInside_of_check (hcode rfl)
      rw [locationWith, List.foldl_cons, List.foldl_cons, List.foldl_nil] at hplace
      apply FileTree.exists_of_place?_join_join _ _ hplace
      · exact hcode.append (by decide)
      · exact Place.IsName.of_long (by decide) (by decide)
  | android =>
      apply FileTree.exists_isBelow_of_place?_foldl_join _ _ hplace
      · exact List.cons_ne_nil _ _
      · exact isName_of_mem_location_android (hcode rfl)
  | java =>
      have hcode := Language.staysInside_of_check (hcode rfl)
      have hfront : '/' ∉ "Properties_".toList := by decide
      have hinside := (Location.StaysInside.of_not_mem hfront rfl (by decide)).behind hfront hcode
      have hsuffix : '/' ∉ ".xml".toList := by decide
      obtain ⟨base, hbase, -, hbelow⟩ :=
        FileTree.exists_of_place?_join (hinside.append hsuffix) hplace
      exact ⟨base, hbase, hbelow (Location.not_endsUpwards_append _ rfl (by decide))⟩
  | windowsResx =>
      have hcode := Language.staysInside_of_check (hcode rfl)
      have hfront : '/' ∉ "Resources.".toList := by decide
      have hinside := (Location.StaysInside.of_not_mem hfront rfl (by decide)).behind hfront hcode
      have hsuffix : '/' ∉ ".resx".toList := by decide
      obtain ⟨base, hbase, -, hbelow⟩ :=
        FileTree.exists_of_place?_join (hinside.append hsuffix) hplace
      exact ⟨base, hbase, hbelow (Location.not_endsUpwards_append _ rfl (by decide))⟩
  | windowsResw =>
      -- The code stands alone and may end with a step upwards, but a name follows.
      have hcode := Language.staysInside_of_check (hcode rfl)
      rw [locationWith, List.foldl_cons, List.foldl_cons, List.foldl_nil] at hplace
      apply FileTree.exists_of_place?_join_join hcode _ hplace
      exact Place.IsName.of_long (by decide) (by decide)
  | json =>
      apply FileTree.exists_isBelow_of_place?_foldl_join _ _ hplace
      · exact List.cons_ne_nil _ _
      · rw [locationWith, List.forall_mem_singleton]
        exact Place.IsName.of_long (by decide) (by decide)
  | dump =>
      apply FileTree.exists_isBelow_of_place?_foldl_join _ _ hplace
      · exact List.cons_ne_nil _ _
      · rw [locationWith, List.forall_mem_singleton]
        exact Place.IsName.of_long (by decide) (by decide)

theorem location_android_eq_iff {left right : Text} (hleft : Language.check left = none)
    (hright : Language.check right = none) :
    android.location left = android.location right ↔
      Language.qualifiers? left = Language.qualifiers? right :=
  locationWith_android_eq_iff (fun _ _ => LanguageTag.plain_of_ofText?) hleft hright

end Format

namespace FileTree

/-- Files of one run are at the same place only if they have the same location. -/
theorem location_eq_of_place?_eq {tree : FileTree} {format : Format} {directory : Text}
    {left right : Text} {place : Place}
    (hleftNames : ∀ name ∈ format.location left, Place.IsName name)
    (hrightNames : ∀ name ∈ format.location right, Place.IsName name)
    (hleft : tree.place? (format.outputPath directory left) = some place)
    (hright : tree.place? (format.outputPath directory right) = some place) :
    format.location left = format.location right := by
  obtain ⟨base, hbase, hplace⟩ := exists_of_place?_foldl_join hleftNames hleft
  obtain ⟨otherBase, hotherBase, hotherPlace⟩ := exists_of_place?_foldl_join hrightNames hright
  have hsame : base = otherBase := by
    rw [hbase, Option.some.injEq] at hotherBase
    exact hotherBase
  rw [hsame, hotherPlace] at hplace
  exact (List.append_cancel_left hplace).symm

end FileTree

end MessageCatalog
