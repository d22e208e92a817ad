import MessageCatalog.Text.Basic
import Mathlib.Data.List.Infix

/-!
# Paragraph tags

Paragraph tags are counted in every part of a text.  Counts of neighbouring
texts add up as long as no tag runs from one into the other, that is, as long
as the first of them is whole.  So it is enough to know for each piece of a
page how many paragraphs are open before it and how many behind it.
-/

namespace MessageCatalog

namespace Text

/-- How often a mark stands in a text. -/
def occurrences (mark : Text) : Text → Nat
  | [] => 0
  | c :: rest => (if mark <+: c :: rest then 1 else 0) + occurrences mark rest

@[simp] theorem occurrences_nil (mark : Text) : occurrences mark [] = 0 := rfl

theorem occurrences_le_of_prefix (mark : Text) {front text : Text} (hfront : front <+: text) :
    occurrences mark front ≤ occurrences mark text := by
  induction front generalizing text with
  | nil => exact Nat.zero_le _
  | cons c front ih =>
      obtain ⟨rest, rfl⟩ := hfront
      have hrest := ih (List.prefix_append front rest)
      have hhere : mark <+: c :: front → mark <+: c :: (front ++ rest) := fun hmark =>
        hmark.trans (List.prefix_append (c :: front) rest)
      rw [List.cons_append, occurrences, occurrences]
      split_ifs with hshort hlong
      · omega
      · exact absurd (hhere hshort) hlong
      · omega
      · omega

theorem occurrences_cons_of_ne {mark : Text} {c : Char} (hc : mark.head? ≠ some c)
    (hmark : mark ≠ []) (rest : Text) : occurrences mark (c :: rest) = occurrences mark rest := by
  obtain ⟨first, more, rfl⟩ := List.exists_cons_of_ne_nil hmark
  have hnot : ¬ first :: more <+: c :: rest := by
    intro hprefix
    exact hc (congrArg some (List.cons_prefix_cons.mp hprefix).1)
  rw [occurrences, if_neg hnot, Nat.zero_add]

theorem occurrences_concat {mark : Text} {c : Char} (hc : c ∉ mark) (hmark : mark ≠ [])
    (text : Text) : occurrences mark (text ++ [c]) = occurrences mark text := by
  induction text with
  | nil =>
      have hhead : mark.head? ≠ some c := fun hhead => hc (List.mem_of_head? hhead)
      exact occurrences_cons_of_ne hhead hmark []
  | cons d text ih =>
      have hhere : mark <+: d :: (text ++ [c]) ↔ mark <+: d :: text := by
        rw [← List.cons_append, List.prefix_concat_iff, or_iff_right]
        rintro rfl
        exact hc (List.mem_append_right _ List.mem_cons_self)
      rw [List.cons_append, occurrences, occurrences, ih, if_congr hhere rfl rfl]

end Text

namespace Markdown

namespace Html

open Text

def tag (name : Text) : Text := '<' :: (name ++ ['>'])

/-- Every tag that begins in the text ends in it. -/
def Whole : Text → Prop
  | [] => True
  | c :: rest => (c = '<' → '>' ∈ rest) ∧ Whole rest

instance Whole.decidable : (text : Text) → Decidable (Whole text)
  | [] => .isTrue trivial
  | c :: rest =>
      have := Whole.decidable rest
      inferInstanceAs (Decidable ((c = '<' → '>' ∈ rest) ∧ Whole rest))

theorem Whole.append {left right : Text} (hleft : Whole left) (hright : Whole right) :
    Whole (left ++ right) := by
  induction left with
  | nil => exact hright
  | cons c left ih =>
      exact ⟨fun hc => List.mem_append_left right (hleft.1 hc), ih hleft.2⟩

theorem whole_of_not_mem {text : Text} (htext : '<' ∉ text) : Whole text := by
  induction text with
  | nil => trivial
  | cons c text ih =>
      rw [List.mem_cons, not_or] at htext
      exact ⟨fun hc => absurd hc.symm htext.1, ih htext.2⟩

theorem whole_tag {name : Text} (hname : '<' ∉ name) : Whole (tag name) := by
  have hrest : '<' ∉ name ++ ['>'] := by simp [hname]
  exact ⟨fun _ => by simp, whole_of_not_mem hrest⟩

/-- A tag that ends with the first `>` of a text is not changed by what follows
the text. -/
theorem prefix_append_iff_of_mem {name left : Text} (hname : '>' ∉ name) (hleft : '>' ∈ left)
    (right : Text) : name ++ ['>'] <+: left ++ right ↔ name ++ ['>'] <+: left := by
  constructor
  · intro hprefix
    obtain ⟨front, back, rfl, hfront⟩ := List.eq_append_cons_of_mem hleft
    have hshort : front ++ ['>'] <+: front ++ '>' :: back := ⟨back, by simp⟩
    rcases List.prefix_or_prefix_of_prefix hprefix (hshort.trans (List.prefix_append _ right))
      with hless | hmore
    · exact hless.trans hshort
    · rcases List.prefix_concat_iff.mp hmore with heq | hinside
      · rw [← heq]
        exact hshort
      · exact absurd (hinside.subset (List.mem_append_right front List.mem_cons_self)) hname
  · intro hprefix
    exact hprefix.trans (List.prefix_append left right)

theorem occurrences_append {name left : Text} (hname : '>' ∉ name) (hleft : Whole left)
    (right : Text) : occurrences (tag name) (left ++ right) =
      occurrences (tag name) left + occurrences (tag name) right := by
  induction left with
  | nil => simp
  | cons c left ih =>
      have hhere : tag name <+: c :: (left ++ right) ↔ tag name <+: c :: left := by
        rw [tag, List.cons_prefix_cons, List.cons_prefix_cons]
        apply and_congr_right
        rintro rfl
        exact prefix_append_iff_of_mem hname (hleft.1 rfl) right
      rw [List.cons_append, occurrences, occurrences, ih hleft.2, if_congr hhere rfl rfl]
      omega

theorem occurrences_eq_zero_of_not_mem {name text : Text} (htext : '<' ∉ text) :
    occurrences (tag name) text = 0 := by
  induction text with
  | nil => rfl
  | cons c text ih =>
      rw [List.mem_cons, not_or] at htext
      have hc : (tag name).head? ≠ some c := fun heq => htext.1 (Option.some.inj heq)
      rw [occurrences_cons_of_ne hc (List.cons_ne_nil _ _), ih htext.2]

theorem occurrences_tag {name other : Text} (hother : '<' ∉ other)
    (hne : ¬ tag name <+: tag other) : occurrences (tag name) (tag other) = 0 := by
  have hrest : occurrences (tag name) (other ++ ['>']) = 0 :=
    occurrences_eq_zero_of_not_mem (by simp [hother])
  change (if tag name <+: tag other then 1 else 0) + occurrences (tag name) (other ++ ['>']) = 0
  rw [if_neg hne, hrest]

/-! ## Open paragraphs -/

def openingParagraph : Text := tag ['p']

def closingParagraph : Text := tag ['/', 'p']

@[simp] theorem occurrences_openingParagraph_self :
    occurrences openingParagraph openingParagraph = 1 := by decide

@[simp] theorem occurrences_closingParagraph_self :
    occurrences closingParagraph closingParagraph = 1 := by decide

@[simp] theorem occurrences_openingParagraph_closingParagraph :
    occurrences openingParagraph closingParagraph = 0 := by decide

@[simp] theorem occurrences_closingParagraph_openingParagraph :
    occurrences closingParagraph openingParagraph = 0 := by decide

/-- No paragraph is closed that is not open, and none is left open. -/
def BalancedParagraphs (html : Text) : Prop :=
  (∀ front, front <+: html →
      occurrences closingParagraph front ≤ occurrences openingParagraph front) ∧
    occurrences closingParagraph html = occurrences openingParagraph html

/-- With some paragraphs open before it, a whole text closes none that is not
open and leaves some open behind it. -/
structure Leads (before after : Nat) (html : Text) : Prop where
  whole : Whole html
  closed_le : ∀ front, front <+: html →
    occurrences closingParagraph front ≤ before + occurrences openingParagraph front
  total : after + occurrences closingParagraph html = before + occurrences openingParagraph html

theorem Leads.balancedParagraphs {html : Text} (hhtml : Leads 0 0 html) :
    BalancedParagraphs html := by
  have htotal := hhtml.total
  rw [Nat.zero_add, Nat.zero_add] at htotal
  refine ⟨?_, htotal⟩
  intro front hfront
  have hclosed := hhtml.closed_le front hfront
  rwa [Nat.zero_add] at hclosed

theorem prefix_append_cases {front left right : Text} (hfront : front <+: left ++ right) :
    front <+: left ∨ ∃ more, more <+: right ∧ front = left ++ more := by
  rcases List.prefix_or_prefix_of_prefix hfront (List.prefix_append left right) with h | ⟨more, rfl⟩
  · exact .inl h
  · exact .inr ⟨more, (List.prefix_append_right_inj left).mp hfront, rfl⟩

theorem occurrences_openingParagraph_append {left : Text} (hleft : Whole left) (right : Text) :
    occurrences openingParagraph (left ++ right) =
      occurrences openingParagraph left + occurrences openingParagraph right :=
  occurrences_append (by decide) hleft right

theorem occurrences_closingParagraph_append {left : Text} (hleft : Whole left) (right : Text) :
    occurrences closingParagraph (left ++ right) =
      occurrences closingParagraph left + occurrences closingParagraph right :=
  occurrences_append (by decide) hleft right

theorem Leads.append {before between after : Nat} {left right : Text}
    (hleft : Leads before between left) (hright : Leads between after right) :
    Leads before after (left ++ right) where
  whole := hleft.whole.append hright.whole
  closed_le := by
    intro front hfront
    rcases prefix_append_cases hfront with hfront | ⟨more, hmore, rfl⟩
    · exact hleft.closed_le front hfront
    · have hclosed := hright.closed_le more hmore
      have htotal := hleft.total
      rw [occurrences_openingParagraph_append hleft.whole,
        occurrences_closingParagraph_append hleft.whole]
      omega
  total := by
    have hfirst := hleft.total
    have hsecond := hright.total
    rw [occurrences_openingParagraph_append hleft.whole,
      occurrences_closingParagraph_append hleft.whole]
    omega

/-- A whole text without any paragraph tag. -/
def IsNeutral (html : Text) : Prop :=
  Whole html ∧ occurrences openingParagraph html = 0 ∧ occurrences closingParagraph html = 0

instance (html : Text) : Decidable (IsNeutral html) :=
  inferInstanceAs (Decidable (Whole html ∧ occurrences openingParagraph html = 0 ∧
    occurrences closingParagraph html = 0))

theorem leads_of_isNeutral (html : Text) (hhtml : IsNeutral html) (n : Nat) : Leads n n html where
  whole := hhtml.1
  closed_le := by
    intro front hfront
    have hle := occurrences_le_of_prefix closingParagraph hfront
    rw [hhtml.2.2] at hle
    omega
  total := by rw [hhtml.2.1, hhtml.2.2]

theorem leads_of_not_mem {html : Text} (hhtml : '<' ∉ html) (n : Nat) : Leads n n html :=
  leads_of_isNeutral html ⟨whole_of_not_mem hhtml, occurrences_eq_zero_of_not_mem hhtml,
    occurrences_eq_zero_of_not_mem hhtml⟩ n

/-- A tag that neither opens nor closes a paragraph. -/
theorem leads_tag {name : Text} (hname : '<' ∉ name) (hopening : ¬ ['p', '>'] <+: name ++ ['>'])
    (hclosing : ¬ ['/', 'p', '>'] <+: name ++ ['>']) (n : Nat) : Leads n n (tag name) := by
  have hneither : IsNeutral (tag name) := by
    refine ⟨whole_tag hname, occurrences_tag hname ?_, occurrences_tag hname ?_⟩
    · exact fun hprefix => hopening (List.cons_prefix_cons.mp hprefix).2
    · exact fun hprefix => hclosing (List.cons_prefix_cons.mp hprefix).2
  exact leads_of_isNeutral (tag name) hneither n

theorem leads_tag_of_head? {name : Text} {c : Char} (hhead : name.head? = some c) (hp : c ≠ 'p')
    (hslash : c ≠ '/') (hname : '<' ∉ name) (n : Nat) : Leads n n (tag name) := by
  cases name with
  | nil => cases hhead
  | cons d rest =>
      obtain rfl : d = c := Option.some.inj hhead
      apply leads_tag hname
      · exact fun hprefix => hp (List.cons_prefix_cons.mp hprefix).1.symm
      · exact fun hprefix => hslash (List.cons_prefix_cons.mp hprefix).1.symm

theorem leads_openingParagraph (n : Nat) : Leads n (n + 1) openingParagraph where
  whole := whole_tag (by decide)
  closed_le := by
    intro front hfront
    have hle := occurrences_le_of_prefix closingParagraph hfront
    rw [occurrences_closingParagraph_openingParagraph] at hle
    omega
  total := by simp

theorem leads_closingParagraph (n : Nat) : Leads (n + 1) n closingParagraph where
  whole := whole_tag (by decide)
  closed_le := by
    intro front hfront
    have hle := occurrences_le_of_prefix closingParagraph hfront
    rw [occurrences_closingParagraph_self] at hle
    omega
  total := by simp

theorem whole_of_append {left right : Text} (hright : '>' ∉ right)
    (hwhole : Whole (left ++ right)) : Whole left := by
  induction left with
  | nil => trivial
  | cons c left ih =>
      refine ⟨fun hc => ?_, ih hwhole.2⟩
      exact (List.mem_append.mp (hwhole.1 hc)).resolve_right hright

/-- What holds no bracket can be cut off. -/
theorem Leads.of_append {before after : Nat} {left right : Text} (hless : '<' ∉ right)
    (hgreater : '>' ∉ right) (hhtml : Leads before after (left ++ right)) :
    Leads before after left := by
  have hwhole := whole_of_append hgreater hhtml.whole
  refine ⟨hwhole, ?_, ?_⟩
  · intro front hfront
    exact hhtml.closed_le front (hfront.trans (List.prefix_append left right))
  · have htotal := hhtml.total
    rw [occurrences_openingParagraph_append hwhole, occurrences_closingParagraph_append hwhole]
      at htotal
    have hopening : occurrences openingParagraph right = 0 := occurrences_eq_zero_of_not_mem hless
    have hclosing : occurrences closingParagraph right = 0 := occurrences_eq_zero_of_not_mem hless
    omega

/-- A paragraph that is closed behind a balanced text was never open. -/
theorem Leads.not_balancedParagraphs {front : Text} (hfront : Leads 0 0 front) (rest : Text) :
    ¬ BalancedParagraphs (front ++ closingParagraph ++ rest) := by
  rintro ⟨hclosed, -⟩
  have hle := hclosed (front ++ closingParagraph) (List.prefix_append _ rest)
  have htotal := hfront.total
  rw [occurrences_openingParagraph_append hfront.whole,
    occurrences_closingParagraph_append hfront.whole,
    occurrences_openingParagraph_closingParagraph, occurrences_closingParagraph_self] at hle
  omega

end Html

end Markdown

end MessageCatalog
