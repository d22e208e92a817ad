import MessageCatalog.Catalog.Basic
import MessageCatalog.Proofs.List.Position
import Mathlib.Data.List.Basic
import Mathlib.Data.List.Induction
import Mathlib.Data.List.TakeWhile

/-!
# Blocks of a list

A list is cut into blocks at its heads, the elements with a given property.
Each block is a head with everything up to the next one.  A list that grows at
its end grows its last block or begins a new one.
-/

namespace MessageCatalog

variable {α β : Type}

theorem mapLast_eq_self {change : α → α} {list : List α}
    (hlast : ∀ x ∈ list.getLast?, change x = x) : mapLast change list = list := by
  rcases List.eq_nil_or_concat' list with rfl | ⟨front, last, rfl⟩
  · rfl
  · rw [mapLast_append_singleton, hlast last (by simp)]

theorem mapLast_append {change : α → α} (front : List α) {list : List α}
    (hlist : list ≠ []) : mapLast change (front ++ list) = front ++ mapLast change list := by
  rcases List.eq_nil_or_concat' list with rfl | ⟨init, last, rfl⟩
  · exact absurd rfl hlist
  · rw [← List.append_assoc, mapLast_append_singleton, mapLast_append_singleton,
      List.append_assoc]

theorem map_mapLast {change : α → α} (other : β → β) {view : α → β}
    (hview : ∀ x, view (change x) = other (view x)) (list : List α) :
    (mapLast change list).map view = mapLast other (list.map view) := by
  rcases List.eq_nil_or_concat' list with rfl | ⟨front, last, rfl⟩
  · rfl
  · rw [mapLast_append_singleton, List.map_append, List.map_append, List.map_singleton,
      List.map_singleton, mapLast_append_singleton, hview]

theorem getLast?_mapLast (change : α → α) (list : List α) :
    (mapLast change list).getLast? = list.getLast?.map change := by
  rcases List.eq_nil_or_concat' list with rfl | ⟨front, last, rfl⟩
  · rfl
  · simp

theorem dropLast_mapLast (change : α → α) (list : List α) :
    (mapLast change list).dropLast = list.dropLast := by
  rcases List.eq_nil_or_concat' list with rfl | ⟨front, last, rfl⟩
  · rfl
  · simp

theorem mapLast_ne_nil {change : α → α} {list : List α} (hlist : list ≠ []) :
    mapLast change list ≠ [] := by
  rcases List.eq_nil_or_concat' list with rfl | ⟨front, last, rfl⟩
  · exact absurd rfl hlist
  · simp

variable {isHead : α → Prop} [DecidablePred isHead]

/-- Each head with what stands between it and the next one. -/
def blocks (isHead : α → Prop) [DecidablePred isHead] : List α → List (α × List α)
  | [] => []
  | x :: rest =>
      if isHead x then (x, rest.takeWhile fun y => ¬ isHead y) :: blocks isHead rest
      else blocks isHead rest

theorem blocks_eq_nil_iff (list : List α) :
    blocks isHead list = [] ↔ ∀ x ∈ list, ¬ isHead x := by
  induction list with
  | nil => simp [blocks]
  | cons x rest ih =>
      rw [blocks]
      by_cases hx : isHead x <;> simp [hx, ih]

theorem takeWhile_not_eq_self {list : List α} (hlist : ∀ x ∈ list, ¬ isHead x) :
    (list.takeWhile fun y => ¬ isHead y) = list := by
  rw [List.takeWhile_eq_self_iff]
  intro x hx
  simpa using hlist x hx

theorem takeWhile_not_concat_of_head (list : List α) {x : α} (hx : isHead x) :
    ((list ++ [x]).takeWhile fun y => ¬ isHead y) =
      list.takeWhile fun y => ¬ isHead y := by
  induction list with
  | nil => simp [hx]
  | cons y list ih =>
      rw [List.cons_append, List.takeWhile_cons, List.takeWhile_cons, ih]

theorem takeWhile_not_concat_of_exists {list : List α} (x : α)
    (hlist : ∃ y ∈ list, isHead y) :
    ((list ++ [x]).takeWhile fun y => ¬ isHead y) =
      list.takeWhile fun y => ¬ isHead y := by
  induction list with
  | nil => simp at hlist
  | cons y list ih =>
      rw [List.cons_append, List.takeWhile_cons, List.takeWhile_cons]
      by_cases hy : isHead y
      · simp [hy]
      · have hrest : ∃ z ∈ list, isHead z := by
          obtain ⟨z, hz, hhead⟩ := hlist
          rcases List.mem_cons.mp hz with rfl | hz
          · exact absurd hhead hy
          · exact ⟨z, hz, hhead⟩
        rw [ih hrest]

theorem blocks_concat_of_head (list : List α) {x : α} (hx : isHead x) :
    blocks isHead (list ++ [x]) = blocks isHead list ++ [(x, [])] := by
  induction list with
  | nil => simp [blocks, hx]
  | cons y list ih =>
      rw [List.cons_append, blocks, blocks, ih, takeWhile_not_concat_of_head list hx]
      by_cases hy : isHead y <;> simp [hy]

theorem blocks_concat_of_not_head (list : List α) {x : α} (hx : ¬ isHead x) :
    blocks isHead (list ++ [x]) =
      mapLast (fun block => (block.1, block.2 ++ [x])) (blocks isHead list) := by
  induction list with
  | nil => simp [blocks, hx, mapLast]
  | cons y list ih =>
      rw [List.cons_append, blocks, blocks, ih]
      by_cases hy : isHead y
      · rw [if_pos hy, if_pos hy]
        by_cases hlist : ∀ z ∈ list, ¬ isHead z
        · have hwhole : ∀ z ∈ list ++ [x], ¬ isHead z := by
            intro z hz
            rcases List.mem_append.mp hz with hz | hz
            · exact hlist z hz
            · rwa [List.mem_singleton.mp hz]
          rw [takeWhile_not_eq_self hwhole, takeWhile_not_eq_self hlist,
            (blocks_eq_nil_iff list).mpr hlist]
          rfl
        · have hexists : ∃ z ∈ list, isHead z := by simpa using hlist
          rw [takeWhile_not_concat_of_exists x hexists]
          cases hblocks : blocks isHead list with
          | nil => exact absurd ((blocks_eq_nil_iff list).mp hblocks) hlist
          | cons block more => rfl
      · rw [if_neg hy, if_neg hy]

/-- The last block begins at the last head. -/
theorem getLast?_blocks_eq_some_iff (list : List α) (x : α) (rest : List α) :
    (blocks isHead list).getLast? = some (x, rest) ↔
      ∃ front, list = front ++ x :: rest ∧ isHead x ∧ ∀ y ∈ rest, ¬ isHead y := by
  induction list using List.reverseRecOn generalizing rest with
  | nil => simp [blocks]
  | append_singleton list z ih =>
      by_cases hz : isHead z
      · rw [blocks_concat_of_head list hz, List.getLast?_concat]
        constructor
        · intro heq
          obtain ⟨rfl, rfl⟩ := Prod.mk.inj (Option.some.inj heq)
          exact ⟨list, rfl, hz, by simp⟩
        · rintro ⟨front, heq, -, hrest⟩
          rcases concat_eq_append_cons_iff.mp heq with ⟨-, rfl, rfl⟩ | ⟨init, -, rfl⟩
          · rfl
          · exact absurd hz (hrest z (by simp))
      · rw [blocks_concat_of_not_head list hz, getLast?_mapLast]
        constructor
        · intro heq
          obtain ⟨⟨w, init⟩, hlast, heq⟩ := Option.map_eq_some_iff.mp heq
          obtain ⟨rfl, rfl⟩ := Prod.mk.inj heq
          obtain ⟨front, rfl, hw, hinit⟩ := (ih init).mp hlast
          refine ⟨front, by simp, hw, ?_⟩
          intro y hy
          rcases List.mem_append.mp hy with hy | hy
          · exact hinit y hy
          · rwa [List.mem_singleton.mp hy]
        · rintro ⟨front, heq, hx, hrest⟩
          rcases concat_eq_append_cons_iff.mp heq with ⟨-, rfl, -⟩ | ⟨init, hlist, rfl⟩
          · exact absurd hx hz
          · have hinit : ∀ y ∈ init, ¬ isHead y :=
              fun y hy => hrest y (List.mem_append_left [z] hy)
            rw [(ih init).mpr ⟨front, hlist, hx, hinit⟩]
            rfl

theorem exists_mem_takeWhile_not_iff (list : List α) {chosen : α → Prop}
    (hchosen : ∀ x, chosen x → ¬ isHead x) :
    (∃ x ∈ list.takeWhile fun y => ¬ isHead y, chosen x) ↔
      ∃ front x rest, list = front ++ x :: rest ∧ (∀ y ∈ front, ¬ isHead y) ∧
        chosen x := by
  constructor
  · rintro ⟨x, hmem, hx⟩
    obtain ⟨front, rest, hsplit⟩ := List.append_of_mem hmem
    refine ⟨front, x, rest ++ list.dropWhile fun y => ¬ isHead y, ?_, ?_, hx⟩
    · rw [← List.cons_append, ← List.append_assoc, ← hsplit,
        List.takeWhile_append_dropWhile]
    · intro y hy
      have htaken : y ∈ list.takeWhile fun y => ¬ isHead y := by
        rw [hsplit]
        exact List.mem_append_left (x :: rest) hy
      simpa using List.mem_takeWhile_imp htaken
  · rintro ⟨front, x, rest, rfl, hfront, hx⟩
    have htaken : ∀ y ∈ front, decide (¬ isHead y) = true := by simpa using hfront
    refine ⟨x, ?_, hx⟩
    rw [List.takeWhile_append_of_pos htaken,
      List.takeWhile_cons_of_pos (by simpa using hchosen x hx)]
    simp

/-- A demand on some of the blocks, that they contain a certain element, in terms
of positions. -/
theorem forall_blocks_iff (list : List α) {demanding chosen : α → Prop}
    (hdemanding : ∀ x, demanding x → isHead x) (hchosen : ∀ x, chosen x → ¬ isHead x) :
    (∀ block ∈ blocks isHead list, demanding block.1 → ∃ x ∈ block.2, chosen x) ↔
      ∀ before head after, list = before ++ head :: after → demanding head →
        ∃ front x rest, after = front ++ x :: rest ∧ (∀ y ∈ front, ¬ isHead y) ∧
          chosen x := by
  induction list with
  | nil => simp [blocks]
  | cons first list ih =>
      rw [forall_position_cons, ← ih, blocks]
      by_cases hfirst : isHead first
      · rw [if_pos hfirst, List.forall_mem_cons, exists_mem_takeWhile_not_iff list hchosen]
      · have hnot : ¬ demanding first := fun h => hfirst (hdemanding first h)
        rw [if_neg hfirst]
        simp [hnot]

theorem takeWhile_not_append_flatMap {γ : Type} {front : List α} {list : List γ}
    {head : γ → α} {rest : γ → List α} (hfront : ∀ y ∈ front, ¬ isHead y)
    (hhead : ∀ z ∈ list, isHead (head z)) :
    ((front ++ list.flatMap fun z => head z :: rest z).takeWhile fun y => ¬ isHead y) =
      front := by
  have hkept : ∀ y ∈ front, decide (¬ isHead y) = true := by simpa using hfront
  rw [List.takeWhile_append_of_pos hkept]
  cases list with
  | nil => simp
  | cons z list => simp [hhead z]

theorem blocks_append_of_not_head {front : List α} (hfront : ∀ y ∈ front, ¬ isHead y)
    (list : List α) : blocks isHead (front ++ list) = blocks isHead list := by
  induction front with
  | nil => rfl
  | cons y front ih =>
      have hrest : ∀ z ∈ front, ¬ isHead z :=
        fun z hz => hfront z (List.mem_cons_of_mem y hz)
      rw [List.cons_append, blocks, if_neg (hfront y (by simp)), ih hrest]

/-- A list that was put together from blocks. -/
theorem blocks_flatMap {γ : Type} {list : List γ} {head : γ → α} {rest : γ → List α}
    (hhead : ∀ z ∈ list, isHead (head z)) (hrest : ∀ z ∈ list, ∀ y ∈ rest z, ¬ isHead y) :
    blocks isHead (list.flatMap fun z => head z :: rest z) =
      list.map fun z => (head z, rest z) := by
  induction list with
  | nil => rfl
  | cons z list ih =>
      have hhead' : ∀ w ∈ list, isHead (head w) :=
        fun w hw => hhead w (List.mem_cons_of_mem z hw)
      have hrest' : ∀ w ∈ list, ∀ y ∈ rest w, ¬ isHead y :=
        fun w hw => hrest w (List.mem_cons_of_mem z hw)
      rw [List.flatMap_cons, List.cons_append, blocks, if_pos (hhead z (by simp)),
        takeWhile_not_append_flatMap (hrest z (by simp)) hhead',
        blocks_append_of_not_head (hrest z (by simp)), ih hhead' hrest', List.map_cons]

end MessageCatalog
