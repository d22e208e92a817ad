import MessageCatalog.Proofs.FileTree.Path
import MessageCatalog.Proofs.Text.Joining
import MessageCatalog.Proofs.Text.Neighbours

/-!
# Paths that stay inside a directory

A path that begins with a name and has no step upwards in its middle leads to a place
below the one where it started, and at most a step upwards at its end leads back to it.
Empty parts and single points do not count.
-/

namespace MessageCatalog

namespace Place

def IsWithin (base place : Place) : Prop :=
  ∃ names, (∀ name ∈ names, IsName name) ∧ place = base ++ names

/-- A place inside another one that is not this place itself. -/
def IsBelow (base place : Place) : Prop :=
  ∃ around name, base.IsWithin around ∧ IsName name ∧ place = around ++ [name]

variable {base place : Place} {name : Text}

theorem IsWithin.refl (base : Place) : base.IsWithin base :=
  ⟨[], List.forall_mem_nil IsName, (List.append_nil base).symm⟩

theorem IsWithin.append (hwithin : base.IsWithin place) (hname : IsName name) :
    base.IsBelow (place ++ [name]) :=
  ⟨place, name, hwithin, hname, rfl⟩

theorem IsBelow.isWithin (hbelow : base.IsBelow place) : base.IsWithin place := by
  obtain ⟨_, name, ⟨names, hnames, rfl⟩, hname, rfl⟩ := hbelow
  refine ⟨names ++ [name], ?_, List.append_assoc base names [name]⟩
  rw [List.forall_mem_append, List.forall_mem_singleton]
  exact ⟨hnames, hname⟩

theorem isBelow_append {names : List Text} (hne : names ≠ [])
    (hnames : ∀ name ∈ names, IsName name) (base : Place) : base.IsBelow (base ++ names) := by
  obtain ⟨front, last, rfl⟩ := List.eq_nil_or_concat names |>.resolve_left hne
  rw [List.concat_eq_append, List.forall_mem_append, List.forall_mem_singleton] at hnames
  rw [List.concat_eq_append, ← List.append_assoc]
  exact IsWithin.append ⟨front, hnames.1, rfl⟩ hnames.2

theorem isName_of_ne (hslash : '/' ∉ name) (hparent : name ≠ "..".toList)
    (hkept : ¬ (name.isEmpty = true ∨ name = ".".toList)) : IsName name := by
  rw [List.isEmpty_iff, not_or] at hkept
  exact ⟨hslash, hkept.1, hkept.2, hparent⟩

theorem parent_append (hname : IsName name) (place : Place) :
    Place.parent (place ++ [name]) = place := by
  have hascent : isAscent name = false := by
    rw [isAscent, Bool.or_eq_false_iff, decide_eq_false_iff_not, decide_eq_false_iff_not]
    refine ⟨hname.parent, ?_⟩
    rintro rfl
    exact hname.slash (by decide)
  have haround : isAround (place ++ [name]) = false := by
    rw [isAround, List.all_append, List.all_cons, hascent, Bool.false_and, Bool.and_false]
  rw [parent, haround]
  exact List.dropLast_concat

end Place

namespace Location

def climb : Text := "/../".toList

/-- A path that begins with a name and has no step upwards in its middle. -/
structure StaysInside (path : Text) : Prop where
  head : ∃ c, path.head? = some c ∧ c ≠ '/' ∧ c ≠ '.'
  climb : ¬ Location.climb <:+: path

theorem not_climb_of_not_mem {path : Text} (hpath : '/' ∉ path) :
    ¬ Location.climb <:+: path := by
  intro hclimb
  apply hpath
  apply hclimb.subset
  decide

theorem StaysInside.of_not_mem {path : Text} (hslash : '/' ∉ path) {c : Char}
    (hhead : path.head? = some c) (hpoint : c ≠ '.') : StaysInside path := by
  refine ⟨⟨c, hhead, ?_, hpoint⟩, not_climb_of_not_mem hslash⟩
  rintro rfl
  exact hslash (List.mem_of_head? hhead)

theorem not_climb_append {path rest : Text} (hpath : ¬ Location.climb <:+: path)
    (hrest : '/' ∉ rest) : ¬ Location.climb <:+: path ++ rest := by
  intro hclimb
  apply hpath
  have hsplit : Location.climb = "/..".toList ++ ['/'] := rfl
  rw [hsplit] at hclimb ⊢
  exact Text.infix_of_infix_append hrest hclimb

theorem append_not_climb {front path : Text} (hfront : '/' ∉ front)
    (hpath : ¬ Location.climb <:+: path) : ¬ Location.climb <:+: front ++ path := by
  intro hclimb
  apply hpath
  have hsplit : Location.climb = '/' :: "../".toList := rfl
  rw [hsplit] at hclimb ⊢
  exact Text.infix_of_append_infix hfront hclimb

theorem StaysInside.append {path rest : Text} (hpath : StaysInside path) (hrest : '/' ∉ rest) :
    StaysInside (path ++ rest) := by
  obtain ⟨c, hhead, hc⟩ := hpath.head
  refine ⟨⟨c, ?_, hc⟩, not_climb_append hpath.climb hrest⟩
  rw [List.head?_append, hhead, Option.some_or]

theorem StaysInside.behind {front path : Text} (hfront : StaysInside front)
    (hslash : '/' ∉ front) (hpath : StaysInside path) : StaysInside (front ++ path) := by
  obtain ⟨c, hhead, hc⟩ := hfront.head
  refine ⟨⟨c, ?_, hc⟩, append_not_climb hslash hpath.climb⟩
  rw [List.head?_append, hhead, Option.some_or]

theorem not_endsUpwards_append (path : Text) {rest : Text} {c : Char}
    (hlast : rest.getLast? = some c) (hc : c ≠ '.') : ¬ "/..".toList <:+ path ++ rest := by
  rintro ⟨before, heq⟩
  have hlasts := congrArg List.getLast? heq
  rw [List.getLast?_append, List.getLast?_append, hlast, Option.some_or] at hlasts
  exact hc (Option.some.inj hlasts).symm

end Location

namespace FileTree

variable {tree : FileTree} {base place next : Place} {name : Text} {names : List Text}

theorem isBelow_of_follow?_of_isWithin (hwithin : base.IsWithin place)
    (hname : Place.IsName name) (hfollow : tree.follow? place name = some next) :
    base.IsBelow next := by
  rw [follow?_of_isName hname hfollow]
  exact hwithin.append hname

theorem isBelow_of_follow? (hbelow : base.IsBelow place) (hslash : '/' ∉ name)
    (hparent : name ≠ "..".toList) (hfollow : tree.follow? place name = some next) :
    base.IsBelow next := by
  by_cases hkept : name.isEmpty = true ∨ name = ".".toList
  · rwa [eq_of_follow?_eq_some hfollow, if_pos hkept]
  · apply isBelow_of_follow?_of_isWithin hbelow.isWithin _ hfollow
    exact Place.isName_of_ne hslash hparent hkept

theorem isWithin_of_follow?_parent (hbelow : base.IsBelow place)
    (hfollow : tree.follow? place "..".toList = some next) : base.IsWithin next := by
  obtain ⟨around, last, hwithin, hlast, rfl⟩ := hbelow
  rw [eq_of_follow?_eq_some hfollow, if_neg (by decide), if_pos rfl, Place.parent_append hlast]
  exact hwithin

theorem exists_isBelow_of_place?_foldl_join {directory : Text} (hne : names ≠ [])
    (hnames : ∀ name ∈ names, Place.IsName name)
    (hplace : tree.place? (names.foldl Location.join directory) = some place) :
    ∃ base, tree.place? directory = some base ∧ base.IsBelow place := by
  obtain ⟨base, hbase, rfl⟩ := exists_of_place?_foldl_join hnames hplace
  exact ⟨base, hbase, Place.isBelow_append hne hnames base⟩

theorem isBelow_of_foldlM_follow? (hbelow : base.IsBelow place)
    (hslash : ∀ name ∈ names, '/' ∉ name) (hparent : "..".toList ∉ names)
    (hplace : names.foldlM tree.follow? place = some next) : base.IsBelow next := by
  induction names generalizing place with
  | nil =>
      rw [List.foldlM_nil] at hplace
      cases hplace
      exact hbelow
  | cons name names ih =>
      rw [List.foldlM_cons, Option.bind_eq_bind, Option.bind_eq_some_iff] at hplace
      obtain ⟨between, hfollow, hrest⟩ := hplace
      rw [List.mem_cons, not_or] at hparent
      rw [List.forall_mem_cons] at hslash
      apply ih _ hslash.2 hparent.2 hrest
      exact isBelow_of_follow? hbelow hslash.1 (Ne.symm hparent.1) hfollow

theorem not_mem_of_staysInside {path first last : Text} {middle : List Text}
    (hpath : Location.StaysInside path)
    (hsplit : Text.splitOn '/' path = first :: (middle ++ [last])) : "..".toList ∉ middle := by
  intro hmem
  obtain ⟨before, after, rfl⟩ := List.append_of_mem hmem
  have hpieces : Text.splitOn '/' path =
      (first :: before) ++ "..".toList :: (after ++ [last]) := by
    rw [hsplit, List.append_assoc]
    rfl
  apply hpath.climb
  apply Text.infix_of_splitOn hpieces
  · exact List.cons_ne_nil first before
  · exact List.append_ne_nil_of_right_ne_nil after (List.cons_ne_nil last [])

theorem isName_of_staysInside {path first : Text} {rest : List Text}
    (hpath : Location.StaysInside path) (hsplit : Text.splitOn '/' path = first :: rest) :
    Place.IsName first := by
  obtain ⟨c, hhead, hslash, hpoint⟩ := hpath.head
  have hmem : first ∈ Text.splitOn '/' path := by
    rw [hsplit]
    exact List.mem_cons_self
  rw [← Text.join_splitOn '/' path, hsplit] at hhead
  exact Place.IsName.of_head (Text.not_mem_of_mem_splitOn hmem)
    (Text.head?_of_head?_join hslash hhead) hpoint

/-- Such a path leads back to the place where it starts only if it ends with a step
upwards. -/
theorem isWithin_of_walk? {start : Place} {path : Text} (hpath : Location.StaysInside path)
    (hplace : tree.walk? start path = some place) :
    start.IsWithin place ∧ (¬ "/..".toList <:+ path → start.IsBelow place) := by
  have hpieces : ∀ piece ∈ Text.splitOn '/' path, '/' ∉ piece :=
    fun piece => Text.not_mem_of_mem_splitOn
  rw [walk?] at hplace
  cases hsplit : Text.splitOn '/' path with
  | nil => exact absurd hsplit (Text.splitOn_ne_nil '/' path)
  | cons first rest =>
      rw [hsplit, List.foldlM_cons, Option.bind_eq_bind, Option.bind_eq_some_iff] at hplace
      obtain ⟨between, hfollow, hplace⟩ := hplace
      have hfirst : start.IsBelow between :=
        isBelow_of_follow?_of_isWithin (Place.IsWithin.refl start)
          (isName_of_staysInside hpath hsplit) hfollow
      rw [hsplit, List.forall_mem_cons] at hpieces
      rcases List.eq_nil_or_concat rest with rfl | ⟨middle, last, rfl⟩
      · cases hplace
        exact ⟨hfirst.isWithin, fun _ => hfirst⟩
      · rw [List.concat_eq_append] at hplace hpieces hsplit
        rw [List.foldlM_append, Option.bind_eq_bind, Option.bind_eq_some_iff] at hplace
        obtain ⟨around, haround, hplace⟩ := hplace
        rw [List.forall_mem_append, List.forall_mem_singleton] at hpieces
        have hmiddle : start.IsBelow around :=
          isBelow_of_foldlM_follow? hfirst hpieces.2.1 (not_mem_of_staysInside hpath hsplit)
            haround
        rw [List.foldlM_cons, Option.bind_eq_bind, Option.bind_eq_some_iff] at hplace
        obtain ⟨found, hlast, hplace⟩ := hplace
        cases hplace
        -- Only the last step may lead upwards.
        by_cases hparent : last = "..".toList
        · subst hparent
          refine ⟨isWithin_of_follow?_parent hmiddle hlast, ?_⟩
          intro hend
          apply absurd _ hend
          have hpath : Text.splitOn '/' path = (first :: middle) ++ ["..".toList] := hsplit
          exact Text.suffix_of_splitOn hpath (List.cons_ne_nil first middle)
        · have hbelow : start.IsBelow place :=
            isBelow_of_follow? hmiddle hpieces.2.2 hparent hlast
          exact ⟨hbelow.isWithin, fun _ => hbelow⟩

theorem exists_of_place?_join {directory path : Text} (hpath : Location.StaysInside path)
    (hplace : tree.place? (Location.join directory path) = some place) :
    ∃ base, tree.place? directory = some base ∧ base.IsWithin place ∧
      (¬ "/..".toList <:+ path → base.IsBelow place) := by
  have hhead : path.head? ≠ some '/' := by
    obtain ⟨c, hhead, hslash, -⟩ := hpath.head
    rw [hhead]
    intro hc
    exact hslash (Option.some.inj hc)
  rw [place?_join tree directory hhead, Option.bind_eq_some_iff] at hplace
  obtain ⟨base, hbase, hwalk⟩ := hplace
  exact ⟨base, hbase, isWithin_of_walk? hpath hwalk⟩

theorem exists_of_place?_join_join {directory path : Text} (hpath : Location.StaysInside path)
    (hname : Place.IsName name)
    (hplace : tree.place? (Location.join (Location.join directory path) name) = some place) :
    ∃ base, tree.place? directory = some base ∧ base.IsBelow place := by
  rw [place?_join_of_not_mem tree _ hname.slash, Option.bind_eq_some_iff] at hplace
  obtain ⟨around, haround, hfollow⟩ := hplace
  obtain ⟨base, hbase, hwithin, -⟩ := exists_of_place?_join hpath haround
  exact ⟨base, hbase, isBelow_of_follow?_of_isWithin hwithin hname hfollow⟩

end FileTree

end MessageCatalog
