import MessageCatalog.Text.Basic

/-!
# Splitting at separators

A text is cut at all its separators or at the first one.  Both cuts are
described by what they do to a piece without separators and the rest behind
it, so that texts which were joined from such pieces come apart again.
-/

namespace MessageCatalog

namespace Text

theorem splitOn_ne_nil (separator : Char) (text : Text) :
    splitOn separator text ≠ [] := by
  cases text with
  | nil => simp
  | cons c rest =>
      rw [splitOn]
      by_cases hc : c = separator
      · simp [hc]
      · cases hrest : splitOn separator rest <;> simp [hc, consHead]

theorem splitOn_append_separator {separator : Char} {piece : Text}
    (hpiece : separator ∉ piece) (rest : Text) :
    splitOn separator (piece ++ separator :: rest) =
      piece :: splitOn separator rest := by
  induction piece with
  | nil => simp [splitOn]
  | cons c piece ih =>
      have hc : c ≠ separator := by
        rintro rfl
        simp at hpiece
      have htail : separator ∉ piece := by
        intro hmem
        exact hpiece (List.mem_cons_of_mem c hmem)
      rw [List.cons_append, splitOn, if_neg hc, ih htail, consHead]

theorem splitOn_append_cons (separator : Char) (left right : Text) :
    splitOn separator (left ++ separator :: right) =
      splitOn separator left ++ splitOn separator right := by
  induction left with
  | nil => simp [splitOn]
  | cons c left ih =>
      rw [List.cons_append, splitOn, splitOn]
      by_cases hc : c = separator
      · rw [if_pos hc, if_pos hc, ih, List.cons_append]
      · rw [if_neg hc, if_neg hc, ih]
        cases hleft : splitOn separator left with
        | nil => exact absurd hleft (splitOn_ne_nil separator left)
        | cons piece pieces => rfl

theorem splitOn_of_not_mem {separator : Char} {text : Text}
    (htext : separator ∉ text) : splitOn separator text = [text] := by
  induction text with
  | nil => rfl
  | cons c rest ih =>
      have hc : c ≠ separator := by
        rintro rfl
        simp at htext
      have htail : separator ∉ rest := by
        intro hmem
        exact htext (List.mem_cons_of_mem c hmem)
      rw [splitOn, if_neg hc, ih htail, consHead]

theorem splitOn_append_words {separator : Char} {first : Text} (hfirst : separator ∉ first)
    {words : List Text} (hwords : ∀ word ∈ words, separator ∉ word) :
    splitOn separator (first ++ words.flatMap (separator :: ·)) = first :: words := by
  induction words generalizing first with
  | nil => rw [List.flatMap_nil, List.append_nil, splitOn_of_not_mem hfirst]
  | cons word words ih =>
      rw [List.forall_mem_cons] at hwords
      rw [List.flatMap_cons, List.cons_append, splitOn_append_separator hfirst,
        ih hwords.1 hwords.2]

theorem splitOn_append_of_not_mem {separator : Char} {front text piece : Text}
    {pieces : List Text} (hfront : separator ∉ front)
    (hsplit : splitOn separator text = piece :: pieces) :
    splitOn separator (front ++ text) = (front ++ piece) :: pieces := by
  induction front with
  | nil => exact hsplit
  | cons c front ih =>
      rw [List.mem_cons, not_or] at hfront
      rw [List.cons_append, splitOn, if_neg (Ne.symm hfront.1), ih hfront.2, consHead]
      rfl

/-- What holds no separator is not cut. -/
theorem exists_mem_splitOn_of_infix {separator : Char} {part text : Text}
    (hpart : separator ∉ part) (hwithin : part <:+: text) :
    ∃ piece ∈ splitOn separator text, part <:+: piece := by
  obtain ⟨before, after, rfl⟩ := hwithin
  rw [List.append_assoc]
  cases hafter : splitOn separator after with
  | nil => exact absurd hafter (splitOn_ne_nil separator after)
  | cons piece pieces =>
      have hsplit := splitOn_append_of_not_mem hpart hafter
      induction before with
      | nil =>
          refine ⟨part ++ piece, ?_, List.infix_append' [] part piece⟩
          rw [List.nil_append, hsplit]
          exact List.mem_cons_self
      | cons c before ih =>
          obtain ⟨found, hfound, hwithin⟩ := ih
          rw [List.cons_append, splitOn]
          by_cases hc : c = separator
          · rw [if_pos hc]
            exact ⟨found, List.mem_cons_of_mem [] hfound, hwithin⟩
          · rw [if_neg hc]
            cases hrest : splitOn separator (before ++ (part ++ after)) with
            | nil => exact absurd hrest (splitOn_ne_nil separator _)
            | cons first more =>
                rw [hrest] at hfound
                rw [consHead]
                rcases List.mem_cons.mp hfound with rfl | hfound
                · exact ⟨c :: found, List.mem_cons_self, hwithin.trans (List.suffix_cons c found).isInfix⟩
                · exact ⟨found, List.mem_cons_of_mem _ hfound, hwithin⟩

theorem splitFirst?_eq_none_iff {separator : Char} {text : Text} :
    splitFirst? separator text = none ↔ separator ∉ text := by
  induction text with
  | nil => simp
  | cons c rest ih =>
      rw [splitFirst?]
      by_cases hc : c = separator
      · simp [hc]
      · simp [hc, ih, Ne.symm hc]

theorem splitFirst?_append {separator : Char} {before : Text}
    (hbefore : separator ∉ before) (after : Text) :
    splitFirst? separator (before ++ separator :: after) = some (before, after) := by
  induction before with
  | nil => simp [splitFirst?]
  | cons c before ih =>
      have hc : c ≠ separator := by
        rintro rfl
        simp at hbefore
      have htail : separator ∉ before := by
        intro hmem
        exact hbefore (List.mem_cons_of_mem c hmem)
      rw [List.cons_append, splitFirst?, if_neg hc, ih htail]
      rfl

theorem append_eq_of_splitFirst?_eq_some {separator : Char} {text before after : Text}
    (hsplit : splitFirst? separator text = some (before, after)) :
    before ++ separator :: after = text := by
  induction text generalizing before with
  | nil => simp at hsplit
  | cons c rest ih =>
      rw [splitFirst?] at hsplit
      by_cases hc : c = separator
      · simp only [hc, if_true, Option.some.injEq, Prod.mk.injEq] at hsplit
        obtain ⟨rfl, rfl⟩ := hsplit
        simp [hc]
      · rw [if_neg hc, Option.map_eq_some_iff] at hsplit
        obtain ⟨⟨front, back⟩, hrest, heq⟩ := hsplit
        obtain ⟨rfl, rfl⟩ := Prod.mk.inj heq
        rw [List.cons_append, ih hrest]

theorem length_lt_of_splitFirst?_eq_some {separator : Char} {text before after : Text}
    (hsplit : splitFirst? separator text = some (before, after)) : after.length < text.length := by
  rw [← append_eq_of_splitFirst?_eq_some hsplit, List.length_append, List.length_cons]
  omega

theorem not_mem_of_mem_splitOn {separator : Char} {text piece : Text}
    (hpiece : piece ∈ splitOn separator text) : separator ∉ piece := by
  induction text generalizing piece with
  | nil =>
      rw [splitOn_nil, List.mem_singleton] at hpiece
      rw [hpiece]
      exact List.not_mem_nil
  | cons c rest ih =>
      rw [splitOn] at hpiece
      by_cases hc : c = separator
      · rw [if_pos hc] at hpiece
        rcases List.mem_cons.mp hpiece with rfl | hpiece
        · exact List.not_mem_nil
        · exact ih hpiece
      · rw [if_neg hc] at hpiece
        cases hrest : splitOn separator rest with
        | nil => exact absurd hrest (splitOn_ne_nil separator rest)
        | cons first pieces =>
            rw [hrest, consHead] at hpiece
            rcases List.mem_cons.mp hpiece with rfl | hpiece
            · rw [List.mem_cons, not_or]
              exact ⟨Ne.symm hc, ih (by simp [hrest])⟩
            · exact ih (by simp [hrest, hpiece])

theorem mem_of_mem_splitOn {separator c : Char} {text piece : Text}
    (hpiece : piece ∈ splitOn separator text) (hc : c ∈ piece) : c ∈ text := by
  induction text generalizing piece with
  | nil =>
      rw [splitOn_nil, List.mem_singleton] at hpiece
      rw [hpiece] at hc
      exact hc
  | cons d rest ih =>
      rw [splitOn] at hpiece
      by_cases hd : d = separator
      · rw [if_pos hd] at hpiece
        rcases List.mem_cons.mp hpiece with rfl | hpiece
        · cases hc
        · exact List.mem_cons_of_mem d (ih hpiece hc)
      · rw [if_neg hd] at hpiece
        cases hrest : splitOn separator rest with
        | nil => exact absurd hrest (splitOn_ne_nil separator rest)
        | cons first pieces =>
            rw [hrest, consHead] at hpiece
            rcases List.mem_cons.mp hpiece with rfl | hpiece
            · rcases List.mem_cons.mp hc with rfl | hc
              · exact List.mem_cons_self
              · exact List.mem_cons_of_mem d (ih (by simp [hrest]) hc)
            · exact List.mem_cons_of_mem d (ih (by simp [hrest, hpiece]) hc)

theorem not_mem_of_splitFirst?_eq_some {separator : Char} {text before after : Text}
    (hsplit : splitFirst? separator text = some (before, after)) : separator ∉ before := by
  induction text generalizing before with
  | nil => cases hsplit
  | cons c rest ih =>
      rw [splitFirst?] at hsplit
      by_cases hc : c = separator
      · rw [if_pos hc] at hsplit
        obtain ⟨rfl, -⟩ := Prod.mk.inj (Option.some.inj hsplit)
        exact List.not_mem_nil
      · rw [if_neg hc] at hsplit
        obtain ⟨⟨front, back⟩, hrest, heq⟩ := Option.map_eq_some_iff.mp hsplit
        obtain ⟨rfl, rfl⟩ := Prod.mk.inj heq
        rw [List.mem_cons, not_or]
        exact ⟨Ne.symm hc, ih hrest⟩

theorem head?_of_splitOn {separator : Char} {text piece : Text} {pieces : List Text}
    (hsplit : splitOn separator text = piece :: pieces) {c : Char}
    (hpiece : piece.head? = some c) : text.head? = some c := by
  cases text with
  | nil =>
      rw [splitOn_nil, List.cons.injEq] at hsplit
      rw [← hsplit.1] at hpiece
      cases hpiece
  | cons d rest =>
      rw [splitOn] at hsplit
      by_cases hd : d = separator
      · rw [if_pos hd, List.cons.injEq] at hsplit
        rw [← hsplit.1] at hpiece
        cases hpiece
      · rw [if_neg hd] at hsplit
        cases hrest : splitOn separator rest with
        | nil => exact absurd hrest (splitOn_ne_nil separator rest)
        | cons first more =>
            rw [hrest, consHead, List.cons.injEq] at hsplit
            rw [← hsplit.1] at hpiece
            exact hpiece

end Text

end MessageCatalog
