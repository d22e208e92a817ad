import MessageCatalog.FileTree.Basic
import MessageCatalog.Output.Location
import MessageCatalog.Proofs.Text.Splitting

/-!
# Places below a directory

A path that is put together from a directory and names leads to the place of
the directory with the names behind it, whatever the directory is called.
-/

namespace MessageCatalog

/-- A name that leads neither nowhere nor to a directory that exists anyway. -/
structure Place.IsName (name : Text) : Prop where
  slash : '/' ∉ name
  empty : name ≠ []
  same : name ≠ ".".toList
  parent : name ≠ "..".toList

theorem Place.IsName.of_long {name : Text} (hslash : '/' ∉ name) (hlong : 2 < name.length) :
    IsName name := by
  refine ⟨hslash, ?_, ?_, ?_⟩
  all_goals
    rintro rfl
    simp at hlong

theorem Place.IsName.of_head {name : Text} (hslash : '/' ∉ name) {c : Char}
    (hhead : name.head? = some c) (hc : c ≠ '.') : IsName name := by
  refine ⟨hslash, ?_, ?_, ?_⟩
  all_goals
    rintro rfl
    simp at hhead
  · exact hc hhead.symm
  · exact hc hhead.symm

namespace FileTree

/-- The place that a path leads to from a given one. -/
def walk? (tree : FileTree) (start : Place) (path : Text) : Option Place :=
  (Text.splitOn '/' path).foldlM tree.follow? start

theorem place?_eq_walk? (tree : FileTree) (path : Text) :
    tree.place? path = tree.walk? (.ofStart path) path := rfl

theorem walk?_of_not_mem (tree : FileTree) (start : Place) {name : Text} (hname : '/' ∉ name) :
    tree.walk? start name = tree.follow? start name := by
  rw [walk?, Text.splitOn_of_not_mem hname, List.foldlM_cons]
  cases tree.follow? start name <;> rfl

theorem walk?_append_slash (tree : FileTree) (start : Place) (path rest : Text) :
    tree.walk? start (path ++ '/' :: rest) =
      (tree.walk? start path).bind fun place => tree.walk? place rest := by
  rw [walk?, Text.splitOn_append_cons, List.foldlM_append]
  rfl

theorem walk?_of_ne_directory {tree : FileTree} {place : Place}
    (hplace : tree.node? place ≠ some .directory) (path : Text) :
    tree.walk? place path = none := by
  have hnone : ∀ name, tree.follow? place name = none := fun name => if_neg hplace
  rw [walk?]
  cases hsplit : Text.splitOn '/' path with
  | nil => exact absurd hsplit (Text.splitOn_ne_nil '/' path)
  | cons name names =>
      rw [List.foldlM_cons, hnone]
      rfl

/-- A slash at the end of a path only asks for a directory. -/
theorem bind_walk?_slash (tree : FileTree) (start : Place) (path rest : Text) :
    (tree.walk? start (path ++ ['/'])).bind (tree.walk? · rest) =
      (tree.walk? start path).bind (tree.walk? · rest) := by
  have hagain : ∀ place, (tree.walk? place []).bind (tree.walk? · rest) =
      tree.walk? place rest := by
    intro place
    by_cases hdirectory : tree.node? place = some .directory
    · have hsame : tree.walk? place [] = some place := by
        rw [walk?_of_not_mem tree place List.not_mem_nil]
        simp [follow?, hdirectory]
      rw [hsame, Option.bind_some]
    · rw [walk?_of_ne_directory hdirectory, walk?_of_ne_directory hdirectory, Option.bind_none]
  rw [walk?_append_slash, Option.bind_assoc]
  simp only [hagain]

theorem head?_ne_slash {name : Text} (hname : '/' ∉ name) : name.head? ≠ some '/' := by
  intro hhead
  exact hname (List.mem_of_head? hhead)

theorem ofStart_append {path : Text} (hpath : path ≠ []) (rest : Text) :
    Place.ofStart (path ++ rest) = Place.ofStart path := by
  obtain ⟨c, more, rfl⟩ := List.exists_cons_of_ne_nil hpath
  rfl

theorem place?_join (tree : FileTree) (directory : Text) {path : Text}
    (hpath : path.head? ≠ some '/') :
    tree.place? (Location.join directory path) =
      (tree.place? directory).bind (tree.walk? · path) := by
  rw [Location.join, if_neg hpath]
  by_cases hempty : directory = []
  · have hstart : Place.ofStart path = [] := if_neg hpath
    rw [if_pos (Or.inl (by simp [hempty])), hempty, List.nil_append, place?_eq_walk?, hstart]
    rfl
  · have hisEmpty : directory.isEmpty = false := by simpa using hempty
    by_cases hslash : directory.getLast? = some '/'
    · obtain ⟨front, rfl⟩ := List.getLast?_eq_some_iff.mp hslash
      rw [if_pos (Or.inr hslash), place?_eq_walk?, place?_eq_walk?, ofStart_append hempty,
        bind_walk?_slash, List.append_assoc, List.singleton_append, walk?_append_slash]
    · rw [if_neg (by simp [hisEmpty, hslash]), place?_eq_walk?, ofStart_append hempty,
        walk?_append_slash]
      rfl

theorem place?_join_of_not_mem (tree : FileTree) (directory : Text) {name : Text}
    (hname : '/' ∉ name) :
    tree.place? (Location.join directory name) =
      (tree.place? directory).bind (tree.follow? · name) := by
  rw [place?_join tree directory (head?_ne_slash hname)]
  simp only [tree.walk?_of_not_mem _ hname]

theorem eq_of_follow?_eq_some {tree : FileTree} {place next : Place} {name : Text}
    (hfollow : tree.follow? place name = some next) :
    next =
      if name.isEmpty ∨ name = ".".toList then place
      else if name = "..".toList then place.parent
      else place ++ [name] := by
  unfold follow? at hfollow
  by_cases hdirectory : tree.node? place = some .directory
  · rw [if_pos hdirectory, ← apply_ite some, ← apply_ite some, Option.some.injEq] at hfollow
    exact hfollow.symm
  · rw [if_neg hdirectory] at hfollow
    contradiction

theorem follow?_of_isName {tree : FileTree} {place next : Place} {name : Text}
    (hname : Place.IsName name) (hfollow : tree.follow? place name = some next) :
    next = place ++ [name] := by
  have hkept : ¬ (name.isEmpty = true ∨ name = ".".toList) := by
    rw [List.isEmpty_iff]
    exact not_or.mpr ⟨hname.empty, hname.same⟩
  rw [eq_of_follow?_eq_some hfollow, if_neg hkept, if_neg hname.parent]

/-- The place of a path below a directory. -/
theorem exists_of_place?_foldl_join {tree : FileTree} {names : List Text}
    (hnames : ∀ name ∈ names, Place.IsName name) {directory : Text} {place : Place}
    (hplace : tree.place? (names.foldl Location.join directory) = some place) :
    ∃ base, tree.place? directory = some base ∧ place = base ++ names := by
  induction names generalizing directory with
  | nil => exact ⟨place, hplace, by simp⟩
  | cons name names ih =>
      have hname := hnames name List.mem_cons_self
      have hrest : ∀ other ∈ names, Place.IsName other := by
        intro other hother
        exact hnames other (List.mem_cons_of_mem name hother)
      rw [List.foldl_cons] at hplace
      obtain ⟨below, hbelow, hbehind⟩ := ih hrest hplace
      rw [place?_join_of_not_mem tree directory hname.slash, Option.bind_eq_some_iff] at hbelow
      obtain ⟨base, hbase, hfollow⟩ := hbelow
      refine ⟨base, hbase, ?_⟩
      rw [hbehind, follow?_of_isName hname hfollow, List.append_assoc, List.singleton_append]

end FileTree

end MessageCatalog
