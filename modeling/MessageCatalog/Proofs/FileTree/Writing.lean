import MessageCatalog.CommandLine.Run

/-!
# What writing files leaves behind

Nothing that is written replaces a directory.  So a path that leads somewhere
leads to the same place afterwards, and a file that was written can still be
found by its path when the last of all files has been written.  What it then
holds is what was written to its place at the end, perhaps under another path.

Writing may fail at some file.  The files before it have been written then, and it
may have left directories, but nothing else has changed.
-/

namespace MessageCatalog

namespace FileTree

/-! ## Directories -/

def KeepsDirectories (before after : FileTree) : Prop :=
  ∀ place, before.node? place = some .directory → after.node? place = some .directory

theorem KeepsDirectories.refl (tree : FileTree) : tree.KeepsDirectories tree :=
  fun _ hdirectory => hdirectory

theorem KeepsDirectories.trans {first second third : FileTree}
    (hfirst : first.KeepsDirectories second) (hsecond : second.KeepsDirectories third) :
    first.KeepsDirectories third :=
  fun place hdirectory => hsecond place (hfirst place hdirectory)

theorem KeepsDirectories.follow? {before after : FileTree}
    (hkeeps : before.KeepsDirectories after) {place next : Place} {name : Text}
    (hfollow : before.follow? place name = some next) :
    after.follow? place name = some next := by
  unfold FileTree.follow? at hfollow ⊢
  by_cases hdirectory : before.node? place = some .directory
  · rw [if_pos hdirectory] at hfollow
    rw [if_pos (hkeeps place hdirectory), hfollow]
  · rw [if_neg hdirectory] at hfollow
    contradiction

theorem KeepsDirectories.foldlM_follow? {before after : FileTree}
    (hkeeps : before.KeepsDirectories after) {names : List Text} {start place : Place}
    (hplace : names.foldlM before.follow? start = some place) :
    names.foldlM after.follow? start = some place := by
  induction names generalizing start with
  | nil => exact hplace
  | cons name names ih =>
      rw [List.foldlM_cons, Option.bind_eq_bind, Option.bind_eq_some_iff] at hplace
      obtain ⟨next, hnext, hrest⟩ := hplace
      rw [List.foldlM_cons, hkeeps.follow? hnext]
      exact ih hrest

/-- A path keeps the place that it leads to. -/
theorem KeepsDirectories.place? {before after : FileTree}
    (hkeeps : before.KeepsDirectories after) {path : Text} {place : Place}
    (hplace : before.place? path = some place) : after.place? path = some place :=
  hkeeps.foldlM_follow? hplace

/-- A place is as it was, unless nothing was there and a directory has been made. -/
def IsKept (before after : FileTree) (place : Place) : Prop :=
  after.node? place = before.node? place ∨
    before.node? place = none ∧ after.node? place = some .directory

theorem IsKept.refl (tree : FileTree) (place : Place) : tree.IsKept tree place := Or.inl rfl

theorem IsKept.directory {before after : FileTree} {place : Place}
    (hkept : before.IsKept after place) (hdirectory : before.node? place = some .directory) :
    after.node? place = some .directory := by
  rcases hkept with hsame | ⟨-, hmade⟩
  · rw [hsame, hdirectory]
  · exact hmade

theorem IsKept.trans {first second third : FileTree} {place : Place}
    (hfirst : first.IsKept second place) (hsecond : second.IsKept third place) :
    first.IsKept third place := by
  rcases hfirst with hsame | ⟨hnone, hmade⟩
  · unfold IsKept
    rw [← hsame]
    exact hsecond
  · exact Or.inr ⟨hnone, hsecond.directory hmade⟩

theorem IsKept.file_iff {before after : FileTree} {place : Place}
    (hkept : before.IsKept after place) (contents : Bytes) :
    after.node? place = some (.file contents) ↔ before.node? place = some (.file contents) := by
  rcases hkept with hsame | ⟨hnone, hmade⟩
  · rw [hsame]
  · rw [hnone, hmade]
    simp

theorem isAround_eq_false_of_node? {tree : FileTree} {place : Place}
    (hnode : tree.node? place ≠ some .directory) : place.isAround = false := by
  rw [Bool.eq_false_iff]
  intro haround
  apply hnode
  rw [node?, if_pos haround]

theorem isKept_addDirectory (tree : FileTree) (place other : Place) :
    tree.IsKept (tree.addDirectory place) other := by
  unfold addDirectory
  by_cases hnone : (tree.node? place).isNone
  · rw [if_pos hnone]
    rw [Option.isNone_iff_eq_none] at hnone
    by_cases hother : place = other
    · subst hother
      right
      refine ⟨hnone, node?_insert_self tree .directory ?_⟩
      apply isAround_eq_false_of_node?
      rw [hnone]
      simp
    · left
      exact node?_insert_of_ne tree .directory hother
  · rw [if_neg hnone]
    exact IsKept.refl tree other

theorem isKept_makeDirectories (names : List Text) (tree : FileTree) (place other : Place) :
    tree.IsKept (tree.makeDirectories place names).1 other := by
  induction names generalizing tree place with
  | nil => exact IsKept.refl tree other
  | cons name names ih =>
      rw [makeDirectories]
      cases tree.follow? place name with
      | none => exact IsKept.refl tree other
      | some next => exact (isKept_addDirectory tree next other).trans (ih _ next)

/-! ## One file -/

/-- A file has been written to a place, possibly after directories have been
made. -/
structure Writes (before after : FileTree) (place : Place) (contents : Bytes) : Prop where
  node : after.node? place = some (.file contents)
  free : before.node? place ≠ some .directory
  others : ∀ other ≠ place, before.IsKept after other

theorem Writes.keepsDirectories {before after : FileTree} {place : Place} {contents : Bytes}
    (hwrites : before.Writes after place contents) : before.KeepsDirectories after := by
  intro other hdirectory
  have hother : other ≠ place := by
    rintro rfl
    exact hwrites.free hdirectory
  exact (hwrites.others other hother).directory hdirectory

theorem Writes.of_isKept {before between after : FileTree} {place : Place} {contents : Bytes}
    (hkept : ∀ other, before.IsKept between other)
    (hwrites : between.Writes after place contents) : before.Writes after place contents where
  node := hwrites.node
  free := by
    intro hdirectory
    exact hwrites.free ((hkept place).directory hdirectory)
  others := by
    intro other hother
    exact (hkept other).trans (hwrites.others other hother)

theorem exists_of_write?_eq_some {before after : FileTree} {path : Text} {contents : Bytes}
    (hwrite : before.write? path contents = some after) :
    ∃ place, before.place? path = some place ∧ before.Writes after place contents := by
  unfold write? at hwrite
  cases hplace : before.place? path with
  | none =>
      rw [hplace] at hwrite
      contradiction
  | some place =>
      rw [hplace] at hwrite
      dsimp only at hwrite
      by_cases hdirectory : before.node? place = some .directory
      · rw [if_pos hdirectory] at hwrite
        contradiction
      · rw [if_neg hdirectory, Option.some.injEq] at hwrite
        subst hwrite
        refine ⟨place, rfl, ?_, hdirectory, ?_⟩
        · exact node?_insert_self before _ (isAround_eq_false_of_node? hdirectory)
        · intro other hother
          exact Or.inl (node?_insert_of_ne before _ hother.symm)

theorem exists_of_put_eq {before after : FileTree} {file : OutputFile}
    (hput : before.put file = (after, none)) :
    ∃ place, after.place? file.path = some place ∧
      before.Writes after place (Utf8.encode file.contents) := by
  unfold put at hput
  dsimp only at hput
  have hkept := isKept_makeDirectories (Text.splitOn '/' (Location.parent file.path)) before
    (.ofStart (Location.parent file.path))
  revert hput hkept
  generalize before.makeDirectories _ _ = made
  intro hput hkept
  split at hput
  · cases hwrite : made.1.write? file.path (Utf8.encode file.contents) with
    | none => simp [hwrite] at hput
    | some written =>
        have hafter : written = after := by simpa [hwrite] using hput
        subst hafter
        obtain ⟨place, hplace, hwrites⟩ := exists_of_write?_eq_some hwrite
        exact ⟨place, hwrites.keepsDirectories.place? hplace, hwrites.of_isKept hkept⟩
  · simp at hput

/-! ## All files -/

/-- Files have been written.  At the place of each there is one of those that
have this place, and other files are as they were. -/
structure WritesAll (before after : FileTree) (files : List OutputFile) : Prop where
  keepsDirectories : before.KeepsDirectories after
  found : ∀ file ∈ files, ∃ place, after.place? file.path = some place ∧
    ∃ last ∈ files, after.place? last.path = some place ∧
      after.node? place = some (.file (Utf8.encode last.contents))
  others : ∀ place, (∀ file ∈ files, after.place? file.path ≠ some place) →
    ∀ contents, after.node? place = some (.file contents) ↔
      before.node? place = some (.file contents)

theorem WritesAll.nil (tree : FileTree) : tree.WritesAll tree [] where
  keepsDirectories := KeepsDirectories.refl tree
  found := by simp
  others := fun _ _ _ => Iff.rfl

theorem WritesAll.cons {before between after : FileTree} {file : OutputFile}
    {files : List OutputFile} {place : Place} (hplace : between.place? file.path = some place)
    (hwrites : before.Writes between place (Utf8.encode file.contents))
    (hrest : between.WritesAll after files) : before.WritesAll after (file :: files) := by
  have hafter : after.place? file.path = some place := hrest.keepsDirectories.place? hplace
  refine ⟨hwrites.keepsDirectories.trans hrest.keepsDirectories, ?_, ?_⟩
  · intro other hother
    rcases List.mem_cons.mp hother with rfl | hmem
    · refine ⟨place, hafter, ?_⟩
      by_cases hagain : ∃ later ∈ files, after.place? later.path = some place
      · -- A later file has replaced this one.
        obtain ⟨later, hlater, hsame⟩ := hagain
        obtain ⟨found, hfound, last, hlast, hlastPlace, hnode⟩ := hrest.found later hlater
        have heq : found = place := by
          rw [hsame, Option.some.injEq] at hfound
          exact hfound.symm
        subst heq
        exact ⟨last, List.mem_cons_of_mem other hlast, hlastPlace, hnode⟩
      · have hlast : ∀ later ∈ files, after.place? later.path ≠ some place := by
          intro later hlater hsame
          exact hagain ⟨later, hlater, hsame⟩
        refine ⟨other, List.mem_cons_self, hafter, ?_⟩
        rw [hrest.others place hlast]
        exact hwrites.node
    · obtain ⟨found, hfound, last, hlast, hlastPlace, hnode⟩ := hrest.found other hmem
      exact ⟨found, hfound, last, List.mem_cons_of_mem file hlast, hlastPlace, hnode⟩
  · intro other hother contents
    have hne : other ≠ place := by
      rintro rfl
      exact hother file List.mem_cons_self hafter
    have hlater : ∀ later ∈ files, after.place? later.path ≠ some other := by
      intro later hmem
      exact hother later (List.mem_cons_of_mem file hmem)
    rw [hrest.others other hlater, (hwrites.others other hne).file_iff]

theorem writesAll_of_putAll_eq {before after : FileTree} {files : List OutputFile}
    (hput : before.putAll files = (after, none)) : before.WritesAll after files := by
  induction files generalizing before with
  | nil =>
      have hsame : before = after := by simpa [putAll] using hput
      subst hsame
      exact WritesAll.nil before
  | cons file files ih =>
      rw [putAll] at hput
      rcases hfirst : before.put file with ⟨between, failure⟩
      rw [hfirst] at hput
      cases failure with
      | some failure => simp at hput
      | none =>
          obtain ⟨place, hplace, hwrites⟩ := exists_of_put_eq hfirst
          exact WritesAll.cons hplace hwrites (ih hput)

/-! ## Writing that fails -/

theorem failure_of_put {before after : FileTree} {file : OutputFile} {failure : Failure}
    (hput : before.put file = (after, some failure)) :
    failure = .directoryNotCreated (Location.parent file.path) ∨
      failure = .fileNotWritten file.path := by
  unfold put at hput
  dsimp only at hput
  split at hput
  · split at hput
    · cases hput
    · exact Or.inr (Option.some.inj (Prod.mk.inj hput).2).symm
  · exact Or.inl (Option.some.inj (Prod.mk.inj hput).2).symm

/-- Writing files ends at the first that cannot be written. -/
theorem exists_of_putAll_eq_some {before after : FileTree} {files : List OutputFile}
    {failure : Failure} (hput : before.putAll files = (after, some failure)) :
    ∃ written file rest between, files = written ++ file :: rest ∧
      before.putAll written = (between, none) ∧ between.put file = (after, some failure) := by
  induction files generalizing before with
  | nil => cases hput
  | cons file files ih =>
      rw [putAll] at hput
      rcases hfirst : before.put file with ⟨between, refusal⟩
      rw [hfirst] at hput
      cases refusal with
      | some refusal =>
          dsimp only at hput
          exact ⟨[], file, files, before, rfl, rfl, by rw [hfirst, hput]⟩
      | none =>
          obtain ⟨written, other, rest, last, rfl, hwritten, hother⟩ := ih hput
          refine ⟨file :: written, other, rest, last, rfl, ?_, hother⟩
          rw [putAll, hfirst]
          exact hwritten

/-- Files are the only thing that writing changes, apart from directories that it
makes, and that it does even when it fails. -/
structure WritesSome (before after : FileTree) (files : List OutputFile) : Prop where
  keepsDirectories : before.KeepsDirectories after
  changed : ∀ place contents, after.node? place = some (.file contents) →
    before.node? place ≠ some (.file contents) →
      ∃ file ∈ files, after.place? file.path = some place ∧ contents = Utf8.encode file.contents

theorem WritesSome.of_isKept {before after : FileTree}
    (hkept : ∀ place, before.IsKept after place) (files : List OutputFile) :
    before.WritesSome after files where
  keepsDirectories := fun place hdirectory => (hkept place).directory hdirectory
  changed := by
    intro place contents hafter hbefore
    exact absurd (((hkept place).file_iff contents).mp hafter) hbefore

theorem WritesSome.cons {before between after : FileTree} {file : OutputFile}
    {files : List OutputFile} {place : Place} (hplace : between.place? file.path = some place)
    (hwrites : before.Writes between place (Utf8.encode file.contents))
    (hrest : between.WritesSome after files) : before.WritesSome after (file :: files) where
  keepsDirectories := hwrites.keepsDirectories.trans hrest.keepsDirectories
  changed := by
    intro other contents hafter hbefore
    by_cases hbetween : between.node? other = some (.file contents)
    · -- Only the first file can have made the difference.
      have hother : other = place := by
        apply Decidable.of_not_not
        intro hne
        exact hbefore (((hwrites.others other hne).file_iff contents).mp hbetween)
      subst hother
      rw [hwrites.node, Option.some.injEq, Node.file.injEq] at hbetween
      exact ⟨file, List.mem_cons_self, hrest.keepsDirectories.place? hplace, hbetween.symm⟩
    · obtain ⟨later, hlater, hfound⟩ := hrest.changed other contents hafter hbetween
      exact ⟨later, List.mem_cons_of_mem file hlater, hfound⟩

theorem isKept_of_put_eq_some {before after : FileTree} {file : OutputFile} {failure : Failure}
    (hput : before.put file = (after, some failure)) (place : Place) :
    before.IsKept after place := by
  unfold put at hput
  dsimp only at hput
  have hkept := isKept_makeDirectories (Text.splitOn '/' (Location.parent file.path)) before
    (.ofStart (Location.parent file.path)) place
  split at hput
  · split at hput
    · cases hput
    · rwa [(Prod.mk.inj hput).1] at hkept
  · rwa [(Prod.mk.inj hput).1] at hkept

theorem writesSome_of_putAll_eq {before after : FileTree} {files : List OutputFile}
    {failure : Option Failure} (hput : before.putAll files = (after, failure)) :
    before.WritesSome after files := by
  induction files generalizing before with
  | nil =>
      have hsame : before = after := (Prod.mk.inj hput).1
      subst hsame
      exact WritesSome.of_isKept (IsKept.refl before) []
  | cons file files ih =>
      rw [putAll] at hput
      rcases hfirst : before.put file with ⟨between, refusal⟩
      rw [hfirst] at hput
      cases refusal with
      | some refusal =>
          obtain rfl : between = after := (Prod.mk.inj hput).1
          exact WritesSome.of_isKept (isKept_of_put_eq_some hfirst) (file :: files)
      | none =>
          obtain ⟨place, hplace, hwrites⟩ := exists_of_put_eq hfirst
          exact WritesSome.cons hplace hwrites (ih hput)

end FileTree

end MessageCatalog
