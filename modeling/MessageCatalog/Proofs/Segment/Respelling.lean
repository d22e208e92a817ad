import MessageCatalog.Proofs.Preprocessing.SmartPunctuation
import MessageCatalog.Proofs.Segment.Writing

/-!
# Respelled values

Typographic punctuation knows nothing of specifiers and escapes.  It only
spells some characters of a value in another way, and none of these, old or
new, is a backslash or a brace: every escape, every specifier and every stretch
of literal text stays where it is.
-/

namespace MessageCatalog

/-- A stretch of a raw value: literal text, or the body of a specifier. -/
inductive Fragment
  | text (text : Text)
  | specifier (body : Text)
  deriving DecidableEq, Repr

namespace Fragment

def consLiteral (c : Char) : List Fragment → List Fragment
  | .text t :: rest => .text (c :: t) :: rest
  | fragments => .text [c] :: fragments

def ofMarks : List Mark → List Fragment
  | [] => []
  | .literal c :: rest => consLiteral c (ofMarks rest)
  | .specifier body :: rest => .specifier body :: ofMarks rest

def ofText (raw : Text) : List Fragment := ofMarks (Mark.ofText raw)

def segment : Fragment → Segment
  | .text t => .text t
  | .specifier body => .placeholder (Specifier.read body).1

theorem ofMarks_literals_append (t : Text) (marks : List Mark) :
    ofMarks (t.map .literal ++ marks) = t.foldr consLiteral (ofMarks marks) := by
  induction t with
  | nil => rfl
  | cons c t ih => rw [List.map_cons, List.cons_append, ofMarks, ih, List.foldr_cons]

theorem foldr_consLiteral_text (t u : Text) (rest : List Fragment) :
    t.foldr consLiteral (.text u :: rest) = .text (t ++ u) :: rest := by
  induction t with
  | nil => rfl
  | cons c t ih => rw [List.foldr_cons, ih, consLiteral, List.cons_append]

theorem foldr_consLiteral_of_ne_nil {fragments : List Fragment}
    (hfragments : ∀ c, consLiteral c fragments = .text [c] :: fragments) {t : Text}
    (ht : t ≠ []) : t.foldr consLiteral fragments = .text t :: fragments := by
  obtain ⟨front, c, rfl⟩ := (List.eq_nil_or_concat t).resolve_left ht
  rw [List.concat_eq_append, List.foldr_append, List.foldr_cons, List.foldr_nil, hfragments,
    foldr_consLiteral_text]

theorem map_segment_consLiteral (c : Char) (fragments : List Fragment) :
    (consLiteral c fragments).map segment = Segment.consLiteral c (fragments.map segment) := by
  cases fragments with
  | nil => rfl
  | cons first rest => cases first <;> rfl

/-- The segments of a value are its fragments, with the specifiers read. -/
theorem map_segment_ofMarks (marks : List Mark) :
    (ofMarks marks).map segment = Segment.ofMarks marks := by
  induction marks with
  | nil => rfl
  | cons mark rest ih =>
      cases mark with
      | literal c => rw [ofMarks, Segment.ofMarks, map_segment_consLiteral, ih]
      | specifier body => rw [ofMarks, Segment.ofMarks, List.map_cons, ih, segment]

end Fragment

namespace SmartPunctuation

/-! ## Respelling -/

/-- The second text is the first one with some quotes curled and some triples
of dots made ellipses. -/
inductive Respelled : Text → Text → Prop
  | nil : Respelled [] []
  | keep (c : Char) {text spelled : Text} :
      Respelled text spelled → Respelled (c :: text) (c :: spelled)
  | respell (c : Char) {text spelled : Text} :
      Respelled text spelled → Respelled (straightenChar c ++ text) (c :: spelled)

theorem Respelled.append {left left' right right' : Text} (hleft : Respelled left left')
    (hright : Respelled right right') : Respelled (left ++ right) (left' ++ right') := by
  induction hleft with
  | nil => exact hright
  | keep c _ ih => exact .keep c ih
  | respell c _ ih =>
      rw [List.append_assoc]
      exact .respell c ih

theorem straightenChar_curlChar_of_quote {c : Char} (hc : c = '\'' ∨ c = '"')
    (before after : Option Char) : straightenChar (curlChar before after c) = [c] := by
  rw [straightenChar_curlChar]
  rcases hc with rfl | rfl <;> rfl

theorem respelled_curl_ellipses (before : Option Char) (text : Text) :
    Respelled text (curl before (ellipses text)) := by
  induction text using ellipses_induction generalizing before with
  | nil => exact .nil
  | append rest ih =>
      rw [ellipses_dots_append, curl, curlChar_of_ne (by decide) (by decide)]
      exact .respell '…' (ih (some '…'))
  | cons c rest hfront ih =>
      rw [ellipses_cons_of_not_dots hfront, curl]
      by_cases hc : c = '\'' ∨ c = '"'
      · have hrespelled := Respelled.respell
          (curlChar before (ellipses rest).head? c) (ih (some c))
        rwa [straightenChar_curlChar_of_quote hc] at hrespelled
      · obtain ⟨hsingle, hdouble⟩ := not_or.mp hc
        rw [curlChar_of_ne hsingle hdouble]
        exact .keep c (ih (some c))

theorem respelled_smarten (text : Text) : Respelled text (smarten text) :=
  respelled_curl_ellipses none text

theorem straightenChar_eq_or (c : Char) :
    straightenChar c = [c] ∨ straightenChar c = ['\''] ∨ straightenChar c = ['"'] ∨
      straightenChar c = dots := by
  unfold straightenChar
  split_ifs <;> simp

theorem straighten_straightenChar (c : Char) :
    straighten (straightenChar c) = straightenChar c := by
  rcases straightenChar_eq_or c with hc | hc | hc | hc
  · rw [hc, straighten_cons, hc]
    rfl
  · rw [hc]; rfl
  · rw [hc]; rfl
  · rw [hc]; rfl

theorem straightenChar_ne_nil (c : Char) : straightenChar c ≠ [] := by
  rcases straightenChar_eq_or c with hc | hc | hc | hc <;> simp [hc, dots]

theorem Settled.eq_of_respelled {text spelled : Text} (htext : Settled text)
    (hspelled : Respelled text spelled) : spelled = text := by
  induction hspelled with
  | nil => rfl
  | keep c _ ih => rw [ih (settled_of_cons htext)]
  | respell c _ ih =>
      rcases straightenChar_eq_or c with hc | hc | hc | hc <;> rw [hc] at htext ⊢
      · rw [ih (settled_of_cons htext)]
        rfl
      · exact absurd List.mem_cons_self htext.no_single
      · exact absurd List.mem_cons_self htext.no_double
      · exact absurd (List.prefix_append dots _).isInfix htext.no_dots

/-! ## Reading respelled values -/

/-- What a fragment may be read as after respelling. -/
inductive Kept : Fragment → Segment → Prop
  | text {t t' : Text} (heq : straighten t' = straighten t) : Kept (.text t) (.text t')
  | placeholder {body : Text} {p : Placeholder}
      (heq : Settled body → p = (Specifier.read body).1) : Kept (.specifier body) (.placeholder p)

def KeptMarks (marks marks' : List Mark) : Prop :=
  List.Forall₂ Kept (Fragment.ofMarks marks) (Segment.ofMarks marks')

theorem keptMarks_literals {c : Char} {t : Text} (ht : straighten t = straightenChar c)
    (hne : t ≠ []) {marks marks' : List Mark} (hmarks : KeptMarks marks marks') :
    KeptMarks (t.map .literal ++ marks) (.literal c :: marks') := by
  have hc : straighten [c] = straighten t := by
    rw [straighten_cons, straighten_nil, List.append_nil, ht]
  unfold KeptMarks at hmarks ⊢
  rw [Fragment.ofMarks_literals_append, Segment.ofMarks]
  generalize Fragment.ofMarks marks = fragments at hmarks ⊢
  generalize Segment.ofMarks marks' = segments at hmarks ⊢
  cases hmarks with
  | nil =>
      rw [Fragment.foldr_consLiteral_of_ne_nil (fun _ => rfl) hne]
      exact .cons (.text hc) .nil
  | cons hfirst hrest =>
      cases hfirst with
      | @text u u' heq =>
          rw [Fragment.foldr_consLiteral_text]
          refine .cons (.text ?_) hrest
          rw [straighten_cons, straighten_append, ht, heq]
      | placeholder heq =>
          rw [Fragment.foldr_consLiteral_of_ne_nil (fun _ => rfl) hne]
          exact .cons (.text hc) (.cons (.placeholder heq) hrest)

theorem keptMarks_specifier {body body' : Text} (hbody : Respelled body body')
    {marks marks' : List Mark} (hmarks : KeptMarks marks marks') :
    KeptMarks (.specifier body :: marks) (.specifier body' :: marks') := by
  refine .cons (.placeholder ?_) hmarks
  intro hsettled
  rw [hsettled.eq_of_respelled hbody]

/-- Two values are read alike wherever reading may stand in front of them:
outside a specifier, behind a backslash, and inside a specifier. -/
structure ReadAlike (text spelled : Text) : Prop where
  outside : KeptMarks (Mark.scan none text) (Mark.scan none spelled)
  escaped : KeptMarks (Mark.scan none ('\\' :: text)) (Mark.scan none ('\\' :: spelled))
  inside : ∀ body body', Respelled body.reverse body'.reverse →
    KeptMarks (Mark.scan (some body) text) (Mark.scan (some body') spelled)

theorem readAlike_nil : ReadAlike [] [] where
  outside := .nil
  escaped := .nil
  inside := fun _ _ hbody => keptMarks_specifier hbody .nil

theorem ReadAlike.keep {text spelled : Text} (halike : ReadAlike text spelled) (c : Char) :
    ReadAlike (c :: text) (c :: spelled) := by
  have hliteral : KeptMarks (.literal c :: Mark.scan none text)
      (.literal c :: Mark.scan none spelled) :=
    keptMarks_literals (t := [c]) (List.append_nil _) (List.cons_ne_nil c []) halike.outside
  refine ⟨?_, hliteral, ?_⟩
  · by_cases hbackslash : c = '\\'
    · subst hbackslash
      exact halike.escaped
    · by_cases hbrace : c = '{'
      · subst hbrace
        rw [Segment.scan_openBrace, Segment.scan_openBrace]
        exact halike.inside [] [] .nil
      · rw [Segment.scan_plain hbackslash hbrace, Segment.scan_plain hbackslash hbrace]
        exact hliteral
  · intro body body' hbody
    rw [Mark.scan, Mark.scan]
    by_cases hclose : c = '}'
    · rw [if_pos hclose, if_pos hclose]
      exact keptMarks_specifier hbody halike.outside
    · rw [if_neg hclose, if_neg hclose]
      apply halike.inside
      rw [List.reverse_cons, List.reverse_cons]
      exact hbody.append (.keep c .nil)

theorem scan_none_append {t : Text} (ht : ∀ c ∈ t, c ≠ '\\' ∧ c ≠ '{') (rest : Text) :
    Mark.scan none (t ++ rest) = t.map .literal ++ Mark.scan none rest := by
  induction t with
  | nil => rfl
  | cons c t ih =>
      obtain ⟨hbackslash, hbrace⟩ := ht c List.mem_cons_self
      rw [List.cons_append, Segment.scan_plain hbackslash hbrace,
        ih fun d hd => ht d (List.mem_cons_of_mem c hd)]
      rfl

theorem scan_backslash_append {t : Text} (ht : ∀ c ∈ t, c ≠ '\\' ∧ c ≠ '{') (hne : t ≠ [])
    (rest : Text) :
    Mark.scan none ('\\' :: (t ++ rest)) = t.map .literal ++ Mark.scan none rest := by
  obtain ⟨c, t, rfl⟩ := List.exists_cons_of_ne_nil hne
  have hscan : Mark.scan none ('\\' :: (c :: t ++ rest)) =
      .literal c :: Mark.scan none (t ++ rest) := rfl
  rw [hscan, scan_none_append fun d hd => ht d (List.mem_cons_of_mem c hd)]
  rfl

theorem scan_some_append_of_not_mem {t : Text} (ht : '}' ∉ t) (body rest : Text) :
    Mark.scan (some body) (t ++ rest) = Mark.scan (some (t.reverse ++ body)) rest := by
  induction t generalizing body with
  | nil => rfl
  | cons c t ih =>
      rw [List.mem_cons, not_or] at ht
      rw [List.cons_append, Mark.scan, if_neg (Ne.symm ht.1), ih ht.2, List.reverse_cons,
        List.append_assoc]
      rfl

/-- What is spelled in another way is no backslash and no brace. -/
theorem plain_of_straightenChar_ne {c : Char} (hc : straightenChar c ≠ [c]) :
    ∀ d ∈ c :: straightenChar c, d ≠ '\\' ∧ d ≠ '{' ∧ d ≠ '}' := by
  have hspelled : c = '‘' ∨ c = '’' ∨ c = '“' ∨ c = '”' ∨ c = '…' := by
    by_contra hnot
    apply hc
    simp only [not_or] at hnot
    simp [straightenChar, hnot]
  rcases hspelled with rfl | rfl | rfl | rfl | rfl <;> simp [straightenChar, dots]

theorem ReadAlike.respell {text spelled : Text} (halike : ReadAlike text spelled) (c : Char) :
    ReadAlike (straightenChar c ++ text) (c :: spelled) := by
  by_cases hc : straightenChar c = [c]
  · rw [hc]
    exact halike.keep c
  · have hplain := plain_of_straightenChar_ne hc
    obtain ⟨hbackslash, hbrace, hclose⟩ := hplain c List.mem_cons_self
    have hsource : ∀ d ∈ straightenChar c, d ≠ '\\' ∧ d ≠ '{' := fun d hd =>
      ⟨(hplain d (List.mem_cons_of_mem c hd)).1, (hplain d (List.mem_cons_of_mem c hd)).2.1⟩
    have hsourceClose : '}' ∉ straightenChar c := fun hmem =>
      (hplain '}' (List.mem_cons_of_mem c hmem)).2.2 rfl
    have hliteral : KeptMarks ((straightenChar c).map .literal ++ Mark.scan none text)
        (.literal c :: Mark.scan none spelled) :=
      keptMarks_literals (straighten_straightenChar c) (straightenChar_ne_nil c) halike.outside
    refine ⟨?_, ?_, ?_⟩
    · rw [scan_none_append hsource, Segment.scan_plain hbackslash hbrace]
      exact hliteral
    · rw [scan_backslash_append hsource (straightenChar_ne_nil c)]
      exact hliteral
    · intro body body' hbody
      rw [scan_some_append_of_not_mem hsourceClose, Mark.scan, if_neg hclose]
      apply halike.inside
      rw [List.reverse_append, List.reverse_reverse, List.reverse_cons]
      apply hbody.append
      rw [← List.append_nil (straightenChar c)]
      exact .respell c .nil

theorem readAlike_of_respelled {text spelled : Text} (hspelled : Respelled text spelled) :
    ReadAlike text spelled := by
  induction hspelled with
  | nil => exact readAlike_nil
  | keep c _ ih => exact ih.keep c
  | respell c _ ih => exact ih.respell c

/-- Typographic punctuation keeps the segments of a value: texts only change
their spelling, and a specifier that was settled before is the same
placeholder afterwards. -/
theorem kept_smarten (text : Text) :
    (Fragment.ofText text).map Fragment.segment = Segment.ofText text ∧
      List.Forall₂ Kept (Fragment.ofText text) (Segment.ofText (smarten text)) := by
  constructor
  · exact Fragment.map_segment_ofMarks (Mark.ofText text)
  · exact (readAlike_of_respelled (respelled_smarten text)).outside

end SmartPunctuation

end MessageCatalog
