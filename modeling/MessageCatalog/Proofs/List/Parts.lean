import MessageCatalog.Proofs.List.Blocks

/-!
# Parts of a list

The heads of a list cut it into parts.  The first part is what stands in front
of all heads, and may be empty; every other one is a block.  Taken together the
parts are the whole list, so that what holds between any two of its elements
holds between the elements of two parts.
-/

namespace MessageCatalog

variable {α β : Type}

structure Part (α : Type) where
  /-- The head, except for the part in front of all heads. -/
  head : Option α
  body : List α

namespace Part

def ofBlock (block : α × List α) : Part α := ⟨some block.1, block.2⟩

def toList (part : Part α) : List α := part.head.toList ++ part.body

def grow (x : α) (part : Part α) : Part α := ⟨part.head, part.body ++ [x]⟩

theorem mem_toList_of_mem_body {part : Part α} {x : α} (hx : x ∈ part.body) :
    x ∈ part.toList :=
  List.mem_append_right _ hx

theorem mem_toList_of_mem_head {part : Part α} {x : α} (hx : x ∈ part.head) :
    x ∈ part.toList := by
  apply List.mem_append_left
  simpa using hx

end Part

theorem flatMap_ite_singleton (chosen : α → Prop) [DecidablePred chosen]
    (f : α → β) (list : List α) :
    (list.flatMap fun x => if chosen x then [f x] else []) =
      (list.filter fun x => chosen x).map f := by
  induction list with
  | nil => rfl
  | cons x list ih => by_cases hx : chosen x <;> simp [hx, ih]

variable {isHead : α → Prop} [DecidablePred isHead]

def parts (isHead : α → Prop) [DecidablePred isHead] (list : List α) : List (Part α) :=
  ⟨none, list.takeWhile fun x => ¬ isHead x⟩ ::
    (blocks isHead list).map Part.ofBlock

theorem parts_concat_of_head (list : List α) {x : α} (hx : isHead x) :
    parts isHead (list ++ [x]) = parts isHead list ++ [⟨some x, []⟩] := by
  unfold parts
  rw [takeWhile_not_concat_of_head list hx, blocks_concat_of_head list hx, List.map_append]
  rfl

theorem parts_concat_of_not_head (list : List α) {x : α} (hx : ¬ isHead x) :
    parts isHead (list ++ [x]) = mapLast (Part.grow x) (parts isHead list) := by
  have hgrow : (blocks isHead (list ++ [x])).map Part.ofBlock =
      mapLast (Part.grow x) ((blocks isHead list).map Part.ofBlock) := by
    have hview : ∀ block : α × List α,
        Part.ofBlock (block.1, block.2 ++ [x]) = (Part.ofBlock block).grow x :=
      fun block => rfl
    rw [blocks_concat_of_not_head list hx]
    exact map_mapLast (Part.grow x) hview (blocks isHead list)
  unfold parts
  rw [hgrow]
  by_cases hlist : ∃ y ∈ list, isHead y
  · have hblocks : (blocks isHead list).map Part.ofBlock ≠ [] := by
      rw [Ne, List.map_eq_nil_iff, blocks_eq_nil_iff]
      push Not
      exact hlist
    rw [takeWhile_not_concat_of_exists x hlist]
    exact (mapLast_append [_] hblocks).symm
  · have hnone : ∀ y ∈ list, ¬ isHead y := by
      push Not at hlist
      exact hlist
    have hmore : ∀ y ∈ list ++ [x], ¬ isHead y := by
      intro y hy
      rcases List.mem_append.mp hy with hy | hy
      · exact hnone y hy
      · rwa [List.mem_singleton.mp hy]
    rw [takeWhile_not_eq_self hnone, takeWhile_not_eq_self hmore,
      (blocks_eq_nil_iff list).mpr hnone]
    rfl

/-- The last part is the last block, if there are heads at all. -/
theorem getLast?_parts (list : List α) :
    (parts isHead list).getLast? =
      some (((blocks isHead list).getLast?.map Part.ofBlock).getD
        ⟨none, list.takeWhile fun x => ¬ isHead x⟩) := by
  unfold parts
  rw [List.getLast?_cons, List.getLast?_map]

/-- Nothing of a list is lost between its parts. -/
theorem flatMap_toList_parts (isHead : α → Prop) [DecidablePred isHead] (list : List α) :
    (parts isHead list).flatMap Part.toList = list := by
  induction list using List.reverseRecOn with
  | nil => rfl
  | append_singleton list x ih =>
      by_cases hx : isHead x
      · rw [parts_concat_of_head list hx, List.flatMap_append, ih]
        rfl
      · rw [parts_concat_of_not_head list hx]
        rcases List.eq_nil_or_concat' (parts isHead list) with hnil | ⟨init, last, hparts⟩
        · cases hnil
        · rw [hparts, List.flatMap_append] at ih
          rw [hparts, mapLast_append_singleton, List.flatMap_append, ← ih]
          simp [Part.toList, Part.grow]

/-- A list in whose order the elements increase has parts that follow one
another in that order. -/
theorem pairwise_parts (isHead : α → Prop) [DecidablePred isHead] {order : α → α → Prop}
    {list : List α} (hlist : list.Pairwise order) :
    (∀ part ∈ parts isHead list, part.toList.Pairwise order) ∧
      (parts isHead list).Pairwise fun left right =>
        ∀ x ∈ left.toList, ∀ y ∈ right.toList, order x y := by
  rw [← flatMap_toList_parts isHead list] at hlist
  exact List.pairwise_flatMap.mp hlist

/-! ## Blocks of an image, and heads of two kinds -/

theorem blocks_map (isHead : α → Prop) [DecidablePred isHead] (f : β → α) (list : List β) :
    blocks isHead (list.map f) =
      (blocks (fun y => isHead (f y)) list).map fun block =>
        (f block.1, block.2.map f) := by
  induction list with
  | nil => rfl
  | cons y list ih =>
      rw [List.map_cons, blocks, blocks, ih]
      by_cases hy : isHead (f y)
      · rw [if_pos hy, if_pos hy, List.map_cons, List.takeWhile_map]
        rfl
      · rw [if_neg hy, if_neg hy]

theorem not_isHead_of_mem_blocks {list : List α} {block : α × List α}
    (hblock : block ∈ blocks isHead list) : ∀ x ∈ block.2, ¬ isHead x := by
  induction list with
  | nil => cases hblock
  | cons y list ih =>
      rw [blocks] at hblock
      by_cases hy : isHead y
      · rw [if_pos hy] at hblock
        rcases List.mem_cons.mp hblock with rfl | hblock
        · intro x hx
          simpa using List.mem_takeWhile_imp hx
        · exact ih hblock
      · rw [if_neg hy] at hblock
        exact ih hblock

theorem map_fst_blocks (isHead : α → Prop) [DecidablePred isHead] (list : List α) :
    (blocks isHead list).map Prod.fst = list.filter fun x => isHead x := by
  induction list with
  | nil => rfl
  | cons x list ih =>
      rw [blocks]
      by_cases hx : isHead x <;> simp [hx, ih]

/-- With heads of two kinds, blocks can be formed in two steps: first at the outer
heads, and inside the blocks at the inner ones. -/
theorem filter_blocks_or (outer inner : α → Prop) [DecidablePred outer]
    [DecidablePred inner] (hdisjoint : ∀ x, outer x → ¬ inner x) (list : List α) :
    ((blocks (fun x => outer x ∨ inner x) list).filter fun block => inner block.1) =
      blocks inner (list.takeWhile fun x => ¬ outer x) ++
        (blocks outer list).flatMap fun block => blocks inner block.2 := by
  induction list with
  | nil => rfl
  | cons x list ih =>
      rw [blocks, blocks, List.takeWhile_cons]
      by_cases houter : outer x
      · have hinner : ¬ inner x := hdisjoint x houter
        simp [houter, hinner, ih, blocks]
      · by_cases hinner : inner x
        · simp [houter, hinner, ih, blocks, List.takeWhile_takeWhile, and_comm]
        · simp [houter, hinner, ih, blocks]

end MessageCatalog
