import MessageCatalog.Proofs.MessageFormat.Literal

/-!
# Quoting across adjoining texts

The texts of a value may follow one another without an argument between them,
and then the last apostrophe of one and the first of the next are read as a pair
that neither of them wrote.  What survives is the parity: whether quoting is on
at a place depends on the number of apostrophes before it alone, however they
are paired.  Every quoted text has all its braces at places where quoting is on
and leaves it off at its end, and so has every row of quoted texts.
-/

namespace MessageCatalog

namespace MessageFormat

def withoutApostrophes (text : Text) : Text := text.filter (· ≠ '\'')

@[simp] theorem withoutApostrophes_nil : withoutApostrophes [] = [] := rfl

@[simp] theorem withoutApostrophes_append (left right : Text) :
    withoutApostrophes (left ++ right) = withoutApostrophes left ++ withoutApostrophes right :=
  List.filter_append left right

@[simp] theorem withoutApostrophes_apostrophe (text : Text) :
    withoutApostrophes ('\'' :: text) = withoutApostrophes text := by
  simp [withoutApostrophes]

theorem withoutApostrophes_cons_of_ne {c : Char} (hc : c ≠ '\'') (text : Text) :
    withoutApostrophes (c :: text) = c :: withoutApostrophes text := by
  simp [withoutApostrophes, hc]

/-! ## Where quoting is on -/

/-- Whether quoting is on behind a text, given whether it was on before.  There
is no answer for a text with a brace outside quotes. -/
def quotedAfter? (quoted : Bool) : Text → Option Bool
  | [] => some quoted
  | c :: rest =>
      if c = '\'' then quotedAfter? (!quoted) rest
      else if isBrace c = true ∧ quoted = false then none
      else quotedAfter? quoted rest

theorem quotedAfter?_nil : quotedAfter? false [] = some false := rfl

theorem quotedAfter?_append (quoted : Bool) (left right : Text) :
    quotedAfter? quoted (left ++ right) =
      (quotedAfter? quoted left).bind fun between => quotedAfter? between right := by
  induction left generalizing quoted with
  | nil => rfl
  | cons c left ih =>
      rw [List.cons_append, quotedAfter?, quotedAfter?]
      split_ifs
      · exact ih (!quoted)
      · rfl
      · exact ih quoted

theorem quotedAfter?_cons_of_ne {quoted : Bool} {c : Char} {rest : Text} {after : Bool}
    (hc : c ≠ '\'') (hafter : quotedAfter? quoted (c :: rest) = some after) :
    (quoted = false → isBrace c = false) ∧ quotedAfter? quoted rest = some after := by
  rw [quotedAfter?, if_neg hc] at hafter
  split_ifs at hafter with hopen
  constructor
  · intro hquoted
    by_contra hbrace
    exact hopen ⟨by simpa using hbrace, hquoted⟩
  · exact hafter

namespace Context

/-- Whether quoting is on behind what the pass has written. -/
def inQuotes : Context → Bool
  | brace => true
  | _ => false

theorem quotedAfter?_emit (context : Context) (c : Char) :
    quotedAfter? context.inQuotes (context.emit c) = some (context.next c).inQuotes := by
  by_cases hc : c = '\''
  · subst hc
    cases context <;> rfl
  · by_cases hbrace : isBrace c = true
    · rw [emit_of_isBrace _ hbrace, next_of_isBrace _ hbrace]
      cases context <;> simp [inQuotes, beforeBrace, quotedAfter?, hc]
    · have hplain : isBrace c = false := by simpa using hbrace
      rw [emit_of_plain _ hc hplain, next_of_plain _ hc hplain]
      cases context <;> simp [inQuotes, close, quotedAfter?, hc, hplain]

theorem withoutApostrophes_emit (context : Context) (c : Char) :
    withoutApostrophes (context.emit c) = withoutApostrophes [c] := by
  have hclose : withoutApostrophes context.close = [] := by
    cases context <;> rfl
  have hbefore : withoutApostrophes context.beforeBrace = [] := by
    cases context <;> rfl
  unfold emit
  split_ifs with hc
  · subst hc
    exact hclose
  · rw [withoutApostrophes_append, hbefore, List.nil_append]
  · rw [withoutApostrophes_append, hclose, List.nil_append]

end Context

theorem quotedAfter?_quote (text : Text) : quotedAfter? false (quote text) = some false := by
  have hfrom : ∀ context : Context,
      quotedAfter? context.inQuotes (quoteFrom context text) = some false := by
    induction text with
    | nil =>
        intro context
        cases context <;> rfl
    | cons c text ih =>
        intro context
        rw [quoteFrom, quotedAfter?_append, context.quotedAfter?_emit]
        exact ih (context.next c)
  rw [quote_eq_quoteFrom]
  exact hfrom .plain

/-- Quoting adds nothing but apostrophes. -/
theorem withoutApostrophes_quote (text : Text) :
    withoutApostrophes (quote text) = withoutApostrophes text := by
  have hfrom : ∀ context : Context,
      withoutApostrophes (quoteFrom context text) = withoutApostrophes text := by
    induction text with
    | nil =>
        intro context
        cases context <;> rfl
    | cons c text ih =>
        intro context
        rw [quoteFrom, withoutApostrophes_append, context.withoutApostrophes_emit, ih,
          ← withoutApostrophes_append, List.singleton_append]
  rw [quote_eq_quoteFrom]
  exact hfrom .plain

/-! ## Reading by parity -/

/-- A text that the reader takes for literal characters, whatever follows it
except for an apostrophe.  They are its own characters up to apostrophes. -/
def ReadsLiterally (quoted : Bool) (text : Text) : Prop :=
  ∃ shown : Text, withoutApostrophes shown = withoutApostrophes text ∧
    ∀ rest : Text, rest.head? ≠ some '\'' →
      readFrom (.text quoted) (text ++ rest) =
        (readFrom (.text false) rest).map (shown.map .literal ++ ·)

theorem readsLiterally_nil : ReadsLiterally false [] := by
  refine ⟨[], rfl, ?_⟩
  intro rest _
  simp

theorem ReadsLiterally.literal {quoted : Bool} {text : Text} (htext : ReadsLiterally quoted text)
    {c : Char} (hc : c ≠ '\'') (hquoted : quoted = false → isBrace c = false) :
    ReadsLiterally quoted (c :: text) := by
  obtain ⟨shown, hshown, hread⟩ := htext
  refine ⟨c :: shown, ?_, ?_⟩
  · rw [withoutApostrophes_cons_of_ne hc, withoutApostrophes_cons_of_ne hc, hshown]
  · intro rest hrest
    rw [List.cons_append, readFrom_literal quoted (text ++ rest) hc hquoted, hread rest hrest,
      Option.map_map]
    rfl

theorem ReadsLiterally.pair {quoted : Bool} {text : Text} (htext : ReadsLiterally quoted text) :
    ReadsLiterally quoted ('\'' :: '\'' :: text) := by
  obtain ⟨shown, hshown, hread⟩ := htext
  refine ⟨'\'' :: shown, by simpa using hshown, ?_⟩
  intro rest hrest
  rw [List.cons_append, List.cons_append, readFrom_pair, hread rest hrest, Option.map_map]
  rfl

theorem ReadsLiterally.toggle {quoted : Bool} {text : Text}
    (htext : ReadsLiterally (!quoted) text) (hhead : text.head? ≠ some '\'') :
    ReadsLiterally quoted ('\'' :: text) := by
  obtain ⟨shown, hshown, hread⟩ := htext
  refine ⟨shown, by simpa using hshown, ?_⟩
  intro rest hrest
  have hnext : (text ++ rest).head? ≠ some '\'' := by
    cases text with
    | nil => exact hrest
    | cons c text => simpa using hhead
  rw [List.cons_append, readFrom_toggle quoted hnext, hread rest hrest]

theorem readsLiterally_of_quotedAfter? (text : Text) :
    ∀ quoted, quotedAfter? quoted text = some false → ReadsLiterally quoted text := by
  -- An apostrophe is read together with the next character, so the induction
  -- carries the text behind one along with the text itself.
  have hboth : ∀ quoted,
      (quotedAfter? quoted text = some false → ReadsLiterally quoted text) ∧
        (quotedAfter? (!quoted) text = some false →
          ReadsLiterally quoted ('\'' :: text)) := by
    induction text with
    | nil =>
        intro quoted
        constructor
        · intro hafter
          obtain rfl : quoted = false := by simpa [quotedAfter?] using hafter
          exact readsLiterally_nil
        · intro hafter
          have hoff : (!quoted) = false := by simpa [quotedAfter?] using hafter
          apply ReadsLiterally.toggle
          · rw [hoff]
            exact readsLiterally_nil
          · simp
    | cons c text ih =>
        intro quoted
        by_cases hc : c = '\''
        · subst hc
          constructor
          · intro hafter
            exact (ih quoted).2 (by simpa [quotedAfter?] using hafter)
          · intro hafter
            exact ((ih quoted).1 (by simpa [quotedAfter?] using hafter)).pair
        · constructor
          · intro hafter
            obtain ⟨hbrace, hrest⟩ := quotedAfter?_cons_of_ne hc hafter
            exact ((ih quoted).1 hrest).literal hc hbrace
          · intro hafter
            obtain ⟨hbrace, hrest⟩ := quotedAfter?_cons_of_ne hc hafter
            exact (((ih !quoted).1 hrest).literal hc hbrace).toggle (by simpa using hc)
  intro quoted
  exact (hboth quoted).1

end MessageFormat

end MessageCatalog
