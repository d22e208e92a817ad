import MessageCatalog.Proofs.Placeholder.Writing
import MessageCatalog.Proofs.Segment.Gathering

/-!
# Writing segments

Segments are written as a raw value: a backslash stands before every literal
backslash and open brace, and a placeholder is its specifier between braces.
The main statement is that reading undoes writing for exactly the canonical
segments, without reporting anything, and that every reading is canonical, so
that it can be written down again.
-/

namespace MessageCatalog

namespace Segment

/-- Segments that some raw value is read as: gathered, with placeholders that a
specifier can express. -/
structure Canonical (segments : List Segment) : Prop where
  gathered : Gathered segments
  expressible : ∀ p, Segment.placeholder p ∈ segments → p.Expressible

def escapeChar (c : Char) : Text := if c = '\\' ∨ c = '{' then ['\\', c] else [c]

def writeOne : Segment → Text
  | .text t => Text.escapeWith escapeChar t
  | .placeholder p => '{' :: Specifier.write p ++ ['}']

def write (segments : List Segment) : Text := segments.flatMap writeOne

def marks : Segment → List Mark
  | .text t => t.map .literal
  | .placeholder p => [.specifier (Specifier.write p)]

/-! ## Scanning what was written -/

theorem scan_openBrace (rest : Text) :
    Mark.scan none ('{' :: rest) = Mark.scan (some []) rest := by
  cases rest <;> rfl

theorem scan_plain {c : Char} (hbackslash : c ≠ '\\') (hbrace : c ≠ '{') (rest : Text) :
    Mark.scan none (c :: rest) = .literal c :: Mark.scan none rest := by
  cases rest <;> simp [Mark.scan, hbackslash, hbrace]

theorem scan_escapeChar_append (c : Char) (rest : Text) :
    Mark.scan none (escapeChar c ++ rest) = .literal c :: Mark.scan none rest := by
  unfold escapeChar
  by_cases hescaped : c = '\\' ∨ c = '{'
  · rw [if_pos hescaped]
    rfl
  · rw [if_neg hescaped]
    obtain ⟨hbackslash, hbrace⟩ := not_or.mp hescaped
    exact scan_plain hbackslash hbrace rest

theorem scan_escapeWith_append (t rest : Text) :
    Mark.scan none (Text.escapeWith escapeChar t ++ rest) =
      t.map .literal ++ Mark.scan none rest := by
  induction t with
  | nil => rfl
  | cons c t ih =>
      rw [Text.escapeWith_cons, List.append_assoc, scan_escapeChar_append, ih]
      rfl

theorem scan_some_append {body : Text} (hbody : '}' ∉ body) (before rest : Text) :
    Mark.scan (some before) (body ++ '}' :: rest) =
      .specifier (before.reverse ++ body) :: Mark.scan none rest := by
  induction body generalizing before with
  | nil => simp [Mark.scan]
  | cons c body ih =>
      obtain ⟨hc, htail⟩ := not_or.mp (List.mem_cons.not.mp hbody)
      rw [List.cons_append, Mark.scan, if_neg (Ne.symm hc), ih htail]
      simp

theorem scan_writeOne_append (segment : Segment) (rest : Text) :
    Mark.scan none (segment.writeOne ++ rest) = segment.marks ++ Mark.scan none rest := by
  cases segment with
  | text t => exact scan_escapeWith_append t rest
  | placeholder p =>
      have hbody := scan_some_append (Specifier.closeBrace_not_mem_write p) [] rest
      simpa [writeOne, scan_openBrace, marks] using hbody

theorem ofText_marks_write (segments : List Segment) :
    Mark.ofText (write segments) = segments.flatMap marks := by
  unfold Mark.ofText write
  induction segments with
  | nil => rfl
  | cons segment rest ih =>
      rw [List.flatMap_cons, scan_writeOne_append, ih, List.flatMap_cons]

/-! ## Gathering the marks -/

theorem ofMarks_flatMap_marks {segments : List Segment} (hsegments : Canonical segments) :
    ofMarks (segments.flatMap marks) = segments := by
  obtain ⟨hgathered, hexpressible⟩ := hsegments
  induction segments with
  | nil => rfl
  | cons segment rest ih =>
      have hrest : ∀ p, Segment.placeholder p ∈ rest → p.Expressible := fun p hp =>
        hexpressible p (List.mem_cons_of_mem _ hp)
      rw [List.flatMap_cons]
      cases segment with
      | text t =>
          -- No text follows, so nothing else is gathered into this one.
          obtain ⟨ht, hnext, htail⟩ := (gathered_text_cons_iff t rest).mp hgathered
          have hmarks := ih htail hrest
          rw [marks, ofMarks_literals_append ht (by rwa [hmarks]), hmarks]
      | placeholder p =>
          have hmarks := ih ((gathered_placeholder_cons_iff p rest).mp hgathered) hrest
          rw [marks, List.singleton_append, ofMarks, hmarks,
            Specifier.read_write_of_expressible (hexpressible p (by simp))]

theorem problemsOf_write {segments : List Segment} (hsegments : Canonical segments) :
    problemsOf (write segments) = [] := by
  unfold problemsOf
  rw [ofText_marks_write, List.flatMap_assoc, List.flatMap_eq_nil_iff]
  intro segment hsegment
  cases segment with
  | text t => simp [marks, Mark.problems]
  | placeholder p =>
      simp [marks, Mark.problems,
        Specifier.read_write_of_expressible (hsegments.expressible p hsegment)]

theorem canonical_ofText (raw : Text) : Canonical (ofText raw) where
  gathered := gathered_ofMarks (Mark.ofText raw)
  expressible p hp := by
    obtain ⟨body, rfl⟩ := exists_of_placeholder_mem_ofMarks hp
    exact Specifier.expressible_read body

theorem ofText_write_of_canonical {segments : List Segment} (hsegments : Canonical segments) :
    ofText (write segments) = segments := by
  rw [ofText, ofText_marks_write, ofMarks_flatMap_marks hsegments]

/-- Written segments are read back without a problem if and only if they are
canonical.  Whatever a raw value is read as is canonical, and so survives being
written and read again. -/
theorem ofText_write :
    (∀ segments, Canonical segments ↔
        ofText (write segments) = segments ∧ problemsOf (write segments) = []) ∧
      ∀ raw, Canonical (ofText raw) ∧ ofText (write (ofText raw)) = ofText raw := by
  constructor
  · intro segments
    constructor
    · intro hsegments
      exact ⟨ofText_write_of_canonical hsegments, problemsOf_write hsegments⟩
    · rintro ⟨hread, -⟩
      exact hread ▸ canonical_ofText (write segments)
  · intro raw
    exact ⟨canonical_ofText raw, ofText_write_of_canonical (canonical_ofText raw)⟩

end Segment

end MessageCatalog
