import MessageCatalog.Proofs.Segment.Respelling
import MessageCatalog.Proofs.Text.Splitting

/-!
# Values without escapes

A raw value without backslashes is cut at its braces.  Every open brace that is
not inside a specifier begins one, and every specifier runs to the next closing
brace or, if there is none, to the end.  The value is read as the specifiers and
the stretches between them, as far as these are not empty.  The stretches hold
no open brace, so that nothing but text is left of a value when its specifiers
are deleted.
-/

namespace MessageCatalog

namespace Fragment

/-- The stretches between the specifiers of a text and the bodies of the
specifiers, in order. -/
def cut (text : Text) : List Fragment :=
  match _hopen : Text.splitFirst? '{' text with
  | none => [.text text]
  | some (before, behind) =>
      match _hclose : Text.splitFirst? '}' behind with
      | none => [.text before, .specifier behind]
      | some (body, rest) => .text before :: .specifier body :: cut rest
termination_by text.length
decreasing_by
  exact Nat.lt_trans (Text.length_lt_of_splitFirst?_eq_some _hclose)
    (Text.length_lt_of_splitFirst?_eq_some _hopen)

theorem cut_of_not_mem {text : Text} (htext : '{' ∉ text) : cut text = [.text text] := by
  rw [cut]
  split
  · rfl
  · next hopen =>
      rw [Text.splitFirst?_eq_none_iff.mpr htext] at hopen
      cases hopen

theorem cut_append_of_not_mem {before body : Text} (hbefore : '{' ∉ before) (hbody : '}' ∉ body) :
    cut (before ++ '{' :: body) = [.text before, .specifier body] := by
  rw [cut, Text.splitFirst?_append hbefore]
  simp only
  rw [Text.splitFirst?_eq_none_iff.mpr hbody]

theorem cut_append {before body : Text} (hbefore : '{' ∉ before) (hbody : '}' ∉ body)
    (rest : Text) :
    cut (before ++ '{' :: (body ++ '}' :: rest)) =
      .text before :: .specifier body :: cut rest := by
  rw [cut, Text.splitFirst?_append hbefore]
  simp only
  rw [Text.splitFirst?_append hbody]

/-- A text holds no open brace, or its first specifier runs to the end, or to a
closing brace with the rest behind it. -/
theorem cut_induction {motive : Text → Prop} (plain : ∀ text, '{' ∉ text → motive text)
    (unclosed : ∀ before body, '{' ∉ before → '}' ∉ body → motive (before ++ '{' :: body))
    (closed : ∀ before body rest, '{' ∉ before → '}' ∉ body → motive rest →
      motive (before ++ '{' :: (body ++ '}' :: rest))) (text : Text) : motive text := by
  fun_induction cut text with
  | case1 text hopen => exact plain text (Text.splitFirst?_eq_none_iff.mp hopen)
  | case2 text before behind hopen hclose =>
      rw [← Text.append_eq_of_splitFirst?_eq_some hopen]
      exact unclosed before behind (Text.not_mem_of_splitFirst?_eq_some hopen)
        (Text.splitFirst?_eq_none_iff.mp hclose)
  | case3 text before behind hopen body rest hclose ih =>
      rw [← Text.append_eq_of_splitFirst?_eq_some hopen,
        ← Text.append_eq_of_splitFirst?_eq_some hclose]
      exact closed before body rest (Text.not_mem_of_splitFirst?_eq_some hopen)
        (Text.not_mem_of_splitFirst?_eq_some hclose) ih

theorem of_text_mem_cut {t text : Text} (ht : Fragment.text t ∈ cut text) :
    '{' ∉ t ∧ ∀ c ∈ t, c ∈ text := by
  induction text using cut_induction with
  | plain text htext =>
      rw [cut_of_not_mem htext, List.mem_singleton] at ht
      obtain rfl := Fragment.text.inj ht
      exact ⟨htext, fun c hc => hc⟩
  | unclosed before body hbefore hbody =>
      rw [cut_append_of_not_mem hbefore hbody] at ht
      obtain rfl : t = before := by simpa using ht
      exact ⟨hbefore, fun c hc => List.mem_append_left _ hc⟩
  | closed before body rest hbefore hbody ih =>
      rw [cut_append hbefore hbody] at ht
      have hcases : t = before ∨ Fragment.text t ∈ cut rest := by simpa using ht
      rcases hcases with rfl | hrest
      · exact ⟨hbefore, fun c hc => List.mem_append_left _ hc⟩
      · obtain ⟨hplain, hmem⟩ := ih hrest
        refine ⟨hplain, fun c hc => ?_⟩
        simp [hmem c hc]

def isNotEmpty : Fragment → Bool
  | .text t => !t.isEmpty
  | .specifier _ => true

def body? : Fragment → Option Text
  | .text _ => none
  | .specifier body => some body

end Fragment

namespace Segment

open Fragment (cut isNotEmpty body? segment)
open SmartPunctuation (scan_none_append scan_some_append_of_not_mem)

/-! ## Reading what is cut -/

theorem scan_append_openBrace {before : Text} (hbackslash : '\\' ∉ before) (hopen : '{' ∉ before)
    (behind : Text) :
    Mark.scan none (before ++ '{' :: behind) =
      before.map .literal ++ Mark.scan (some []) behind := by
  have hplain : ∀ c ∈ before, c ≠ '\\' ∧ c ≠ '{' := fun c hc =>
    ⟨ne_of_mem_of_not_mem hc hbackslash, ne_of_mem_of_not_mem hc hopen⟩
  rw [scan_none_append hplain, scan_openBrace]

theorem ofText_of_not_mem {t : Text} (hbackslash : '\\' ∉ t) (hopen : '{' ∉ t) :
    ofText t = if t = [] then [] else [.text t] := by
  have hplain : ∀ c ∈ t, c ≠ '\\' ∧ c ≠ '{' := fun c hc =>
    ⟨ne_of_mem_of_not_mem hc hbackslash, ne_of_mem_of_not_mem hc hopen⟩
  have hmarks : Mark.ofText t = t.map .literal := by
    have hscan := scan_none_append hplain []
    rwa [List.append_nil, Mark.scan, List.append_nil] at hscan
  rw [ofText, hmarks]
  split
  · next hnil =>
      rw [hnil]
      rfl
  · next hne =>
      have hnone : ∀ next ∈ (ofMarks []).head?, next.isText = false := by simp [ofMarks]
      have hgather := ofMarks_literals_append hne hnone
      rwa [List.append_nil] at hgather

/-- A stretch before a specifier is dropped only if it is empty. -/
theorem ofMarks_literals_specifier (t body : Text) (marks : List Mark) :
    ofMarks (t.map .literal ++ .specifier body :: marks) =
      ([Fragment.text t, .specifier body].filter isNotEmpty).map segment ++ ofMarks marks := by
  cases t with
  | nil => rfl
  | cons c t =>
      rw [ofMarks_literals_append (List.cons_ne_nil c t) (by simp [ofMarks, isText])]
      rfl

theorem ofText_eq_map_cut {raw : Text} (hraw : '\\' ∉ raw) :
    ofText raw = ((cut raw).filter isNotEmpty).map segment := by
  induction raw using Fragment.cut_induction with
  | plain text hopen =>
      rw [ofText_of_not_mem hraw hopen, Fragment.cut_of_not_mem hopen]
      cases text <;> rfl
  | unclosed before body hopen hclose =>
      rw [List.mem_append, List.mem_cons, not_or, not_or] at hraw
      obtain ⟨hbefore, -, hbody⟩ := hraw
      have hscan := scan_some_append_of_not_mem hclose [] []
      rw [List.append_nil, List.append_nil, Mark.scan, List.reverse_reverse] at hscan
      rw [ofText, Mark.ofText, scan_append_openBrace hbefore hopen, hscan,
        ofMarks_literals_specifier, Fragment.cut_append_of_not_mem hopen hclose, ofMarks,
        List.append_nil]
  | closed before body rest hopen hclose ih =>
      simp only [List.mem_append, List.mem_cons, not_or] at hraw
      obtain ⟨hbefore, -, hbody, -, hrest⟩ := hraw
      have hscan := scan_some_append hclose [] rest
      rw [List.reverse_nil, List.nil_append] at hscan
      have hcut : cut (before ++ '{' :: (body ++ '}' :: rest)) =
          [.text before, .specifier body] ++ cut rest := Fragment.cut_append hopen hclose rest
      rw [ofText, Mark.ofText, scan_append_openBrace hbefore hopen, hscan,
        ofMarks_literals_specifier, hcut, List.filter_append, List.map_append, ← ih hrest]
      rfl

/-! ## Deleting the specifiers -/

def text? : Segment → Option Text
  | .text t => some t
  | .placeholder _ => none

/-- What is left of a value without its placeholders. -/
def literalText (segments : List Segment) : Text := (segments.filterMap text?).flatten

theorem mem_literalText {segments : List Segment} {c : Char} (hc : c ∈ literalText segments) :
    ∃ t, Segment.text t ∈ segments ∧ c ∈ t := by
  obtain ⟨t, ht, hct⟩ := List.mem_flatten.mp hc
  obtain ⟨segment, hsegment, heq⟩ := List.mem_filterMap.mp ht
  cases segment with
  | text u =>
      obtain rfl := Option.some.inj heq
      exact ⟨u, hsegment, hct⟩
  | placeholder p => cases heq

theorem text_mem_ofText {raw t : Text} (hraw : '\\' ∉ raw) (ht : Segment.text t ∈ ofText raw) :
    Fragment.text t ∈ cut raw := by
  rw [ofText_eq_map_cut hraw] at ht
  obtain ⟨fragment, hfragment, heq⟩ := List.mem_map.mp ht
  cases fragment with
  | text u =>
      obtain rfl := Segment.text.inj heq
      exact List.mem_of_mem_filter hfragment
  | specifier body => cases heq

theorem placeholders_map_segment (fragments : List Fragment) :
    placeholders ((fragments.filter isNotEmpty).map segment) =
      (fragments.filterMap body?).map fun body => (Specifier.read body).1 := by
  induction fragments with
  | nil => rfl
  | cons fragment fragments ih =>
      cases fragment with
      | text t =>
          rw [List.filterMap_cons_none rfl, ← ih, List.filter_cons]
          split <;> rfl
      | specifier body =>
          have hstep : (.specifier body :: fragments).filterMap body? =
              body :: fragments.filterMap body? := rfl
          rw [hstep, List.map_cons, ← ih]
          rfl

/-- A value without backslashes is read as its specifiers and the stretches
between them, one placeholder for each specifier and one text for each stretch
that is not empty.  What is left without the placeholders holds no specifier: it
is read as one text, or as nothing if it is empty. -/
theorem ofText_of_backslash_not_mem {raw : Text} (hraw : '\\' ∉ raw) :
    ofText raw = ((cut raw).filter isNotEmpty).map segment ∧
      placeholders (ofText raw) =
        ((cut raw).filterMap body?).map (fun body => (Specifier.read body).1) ∧
      ofText (literalText (ofText raw)) =
        if literalText (ofText raw) = [] then [] else [.text (literalText (ofText raw))] := by
  have hcut := ofText_eq_map_cut hraw
  refine ⟨hcut, ?_, ?_⟩
  · rw [hcut, placeholders_map_segment]
  · apply ofText_of_not_mem
    · intro hmem
      obtain ⟨t, ht, hbackslash⟩ := mem_literalText hmem
      exact hraw ((Fragment.of_text_mem_cut (text_mem_ofText hraw ht)).2 _ hbackslash)
    · intro hmem
      obtain ⟨t, ht, hopen⟩ := mem_literalText hmem
      exact (Fragment.of_text_mem_cut (text_mem_ofText hraw ht)).1 hopen

/-- Braces within braces, and one that stays open. -/
theorem ofText_of_backslash_not_mem_braces :
    '\\' ∉ ['a', '{', '2', '{', '}', 'b', '}', '{', 'd'] ∧
      cut ['a', '{', '2', '{', '}', 'b', '}', '{', 'd'] =
        [.text ['a'], .specifier ['2', '{'], .text ['b', '}'], .specifier ['d']] ∧
      ofText (literalText (ofText ['a', '{', '2', '{', '}', 'b', '}', '{', 'd'])) =
        [.text ['a', 'b', '}']] := by
  have hraw : '\\' ∉ ['a', '{', '2', '{', '}', 'b', '}', '{', 'd'] := by decide
  have hopen : '{' ∉ ['a'] ∧ '{' ∉ ['b', '}'] := by decide
  have hclose : '}' ∉ ['2', '{'] ∧ '}' ∉ ['d'] := by decide
  have hcut : cut ['a', '{', '2', '{', '}', 'b', '}', '{', 'd'] =
      [.text ['a'], .specifier ['2', '{'], .text ['b', '}'], .specifier ['d']] :=
    calc
      cut ['a', '{', '2', '{', '}', 'b', '}', '{', 'd'] =
          .text ['a'] :: .specifier ['2', '{'] :: cut ['b', '}', '{', 'd'] :=
        Fragment.cut_append hopen.1 hclose.1 ['b', '}', '{', 'd']
      _ = _ := congrArg (fun rest => .text ['a'] :: .specifier ['2', '{'] :: rest)
        (Fragment.cut_append_of_not_mem hopen.2 hclose.2)
  have hleft : literalText (ofText ['a', '{', '2', '{', '}', 'b', '}', '{', 'd']) =
      ['a', 'b', '}'] := by
    rw [(ofText_of_backslash_not_mem hraw).1, hcut]
    rfl
  refine ⟨hraw, hcut, ?_⟩
  rw [(ofText_of_backslash_not_mem hraw).2.2, hleft]
  rfl

end Segment

end MessageCatalog
