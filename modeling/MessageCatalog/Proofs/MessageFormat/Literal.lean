import MessageCatalog.Output.JavaProperties
import MessageCatalog.Proofs.List.Position
import MessageCatalog.Proofs.MessageFormat.Pattern
import MessageCatalog.Proofs.Text.Splitting
import MessageCatalog.Proofs.Xml.Entity
import Mathlib.Data.List.Induction

/-!
# Literal text in message formats

Literal text is quoted part by part: it is cut at its apostrophes, the brace
runs of each part are put between quotes, and the parts are joined again.
The same pattern comes out of one pass over the text which knows no more than
what stands right before the next character, and that pass is what the reader
is compared with, character by character.

The comparison shows when quoting is faithful.  Where two or more apostrophes
that do not follow a brace stand right before a brace, one of them is lost;
every other text is read back as it was.
-/

namespace MessageCatalog

namespace MessageFormat

/-- What stands right before a place in a text. -/
inductive Context
  /-- The start of the text, or a character that needs no quoting. -/
  | plain
  | brace
  /-- One apostrophe, not behind a brace. -/
  | apostrophe
  /-- Two or more apostrophes, not behind a brace. -/
  | apostrophes
  /-- Apostrophes behind a brace. -/
  | braceApostrophes
  deriving DecidableEq

namespace Context

def afterApostrophe : Context → Context
  | plain => apostrophe
  | apostrophe => apostrophes
  | apostrophes => apostrophes
  | brace => braceApostrophes
  | braceApostrophes => braceApostrophes

def next (context : Context) (c : Char) : Context :=
  if c = '\'' then context.afterApostrophe
  else if isBrace c then brace
  else plain

/-- What is written before a character that needs no quoting, and at the
end. -/
def close : Context → Text
  | plain => []
  | brace => ['\'']
  | apostrophe => ['\'', '\'']
  | apostrophes => ['\'', '\'']
  | braceApostrophes => ['\'', '\'']

def beforeBrace : Context → Text
  | plain => ['\'']
  | brace => []
  | apostrophe => ['\'', '\'', '\'']
  | apostrophes => ['\'']
  | braceApostrophes => ['\'']

/-- What the pass writes when it comes to a character. -/
def emit (context : Context) (c : Char) : Text :=
  if c = '\'' then context.close
  else if isBrace c then context.beforeBrace ++ [c]
  else context.close ++ [c]

theorem next_apostrophe (context : Context) :
    context.next '\'' = context.afterApostrophe := rfl

theorem next_of_isBrace (context : Context) {c : Char} (hc : isBrace c = true) :
    context.next c = brace := by
  have hne : c ≠ '\'' := by rintro rfl; exact absurd hc (by decide)
  simp [next, hne, hc]

theorem next_of_plain (context : Context) {c : Char} (hc : c ≠ '\'')
    (hbrace : isBrace c = false) : context.next c = plain := by
  simp [next, hc, hbrace]

theorem emit_apostrophe (context : Context) : context.emit '\'' = context.close := rfl

theorem emit_of_isBrace (context : Context) {c : Char} (hc : isBrace c = true) :
    context.emit c = context.beforeBrace ++ [c] := by
  have hne : c ≠ '\'' := by rintro rfl; exact absurd hc (by decide)
  simp [emit, hne, hc]

theorem emit_of_plain (context : Context) {c : Char} (hc : c ≠ '\'')
    (hbrace : isBrace c = false) : context.emit c = context.close ++ [c] := by
  simp [emit, hc, hbrace]

end Context

theorem isBrace_apostrophe : isBrace '\'' = false := by decide

def quoteFrom (context : Context) : Text → Text
  | [] => context.close
  | c :: rest => context.emit c ++ quoteFrom (context.next c) rest

/-! ## One pass over the text -/

/-- Whether the text written so far ends with an apostrophe, given whether it
did before `part` was added. -/
def endsQuoted (before : Bool) (part : Text) : Bool :=
  match part.getLast? with
  | none => before
  | some c => c = '\''

theorem endsQuoted_nil (before : Bool) : endsQuoted before [] = before := rfl

theorem endsQuoted_append (before : Bool) (left right : Text) :
    endsQuoted before (left ++ right) = endsQuoted (endsQuoted before left) right := by
  unfold endsQuoted
  rw [List.getLast?_append]
  cases right.getLast? <;> simp

theorem endsQuoted_cons (before : Bool) (c : Char) (part : Text) :
    endsQuoted before (c :: part) = endsQuoted (decide (c = '\'')) part := by
  rw [← List.singleton_append, endsQuoted_append]
  rfl

theorem endsQuoted_false_iff (written : Text) :
    endsQuoted false written = true ↔ written.getLast? = some '\'' := by
  unfold endsQuoted
  cases written.getLast? <;> simp

/-- The parts behind what is already written. -/
def appendParts : Bool → List Text → Text
  | _, [] => []
  | ended, part :: parts =>
      if ended = true ∧ part.head? = some '\'' then
        part ++ appendParts (endsQuoted ended part) parts
      else '\'' :: '\'' :: (part ++ appendParts (endsQuoted true part) parts)

theorem appendParts_nil_cons (ended : Bool) (parts : List Text) :
    appendParts ended ([] :: parts) = '\'' :: '\'' :: appendParts true parts := by
  simp [appendParts, endsQuoted_nil]

theorem foldl_appendPart (parts : List Text) (written : Text) :
    parts.foldl appendPart written =
      written ++ appendParts (endsQuoted false written) parts := by
  induction parts generalizing written with
  | nil => simp [appendParts]
  | cons part parts ih =>
      rw [List.foldl_cons, ih, appendParts]
      by_cases hmerge : written.getLast? = some '\'' ∧ part.head? = some '\''
      · have hended := (endsQuoted_false_iff written).mpr hmerge.1
        simp [appendPart, hmerge, hended, endsQuoted_append]
      · have hnot : ¬ (endsQuoted false written = true ∧ part.head? = some '\'') := by
          rwa [endsQuoted_false_iff]
        simp [appendPart, hmerge, hnot, endsQuoted_append, endsQuoted_cons]

/-- Behind apostrophes it does not matter for the pass what stands before
them. -/
theorem quoteFrom_braceApostrophes (text : Text) :
    quoteFrom .braceApostrophes text = quoteFrom .apostrophes text := by
  induction text with
  | nil => rfl
  | cons c rest ih =>
      by_cases hc : c = '\''
      · subst hc
        simp only [quoteFrom, Context.emit_apostrophe, Context.next_apostrophe,
          Context.afterApostrophe, Context.close, ih]
      · by_cases hbrace : isBrace c = true
        · simp only [quoteFrom, Context.emit_of_isBrace _ hbrace,
            Context.next_of_isBrace _ hbrace, Context.beforeBrace]
        · have hplain : isBrace c = false := by simpa using hbrace
          simp only [quoteFrom, Context.emit_of_plain _ hc hplain,
            Context.next_of_plain _ hc hplain, Context.close]

theorem quoteRuns_cons (inside : Bool) (c : Char) (rest : Text) :
    quoteRuns inside (c :: rest) =
      (if isBrace c = inside then [] else ['\'']) ++ c :: quoteRuns (isBrace c) rest := by
  rw [quoteRuns]
  by_cases hbrace : isBrace c = inside
  · simp [hbrace]
  · have hother : (!inside) = isBrace c := by
      cases inside <;> simpa using hbrace
    simp [hbrace, hother]

theorem endsQuoted_quoteRuns_cons (before inside : Bool) {c : Char} (rest : Text)
    (hc : c ≠ '\'') :
    endsQuoted before (quoteRuns inside (c :: rest)) =
      endsQuoted false (quoteRuns (isBrace c) rest) := by
  rw [quoteRuns_cons, endsQuoted_append, endsQuoted_cons]
  simp [hc]

/-- The parts of a text, written in the middle of a part outside or inside a
brace run, and written behind a separating apostrophe. -/
private theorem parts_eq_quoteFrom (text : Text) :
    ∀ part parts, Text.splitOn '\'' text = part :: parts →
      (∀ inside : Bool,
        quoteRuns inside part ++
            appendParts (endsQuoted false (quoteRuns inside part))
              (parts.map (quoteRuns false)) =
          quoteFrom (if inside then .brace else .plain) text) ∧
      (∀ ended : Bool,
        appendParts ended ((part :: parts).map (quoteRuns false)) =
          quoteFrom (if ended then .apostrophes else .apostrophe) text) := by
  induction text with
  | nil =>
      intro part parts hsplit
      simp only [Text.splitOn_nil, List.cons.injEq] at hsplit
      obtain ⟨rfl, rfl⟩ := hsplit
      constructor
      · intro inside
        cases inside <;> rfl
      · intro ended
        cases ended <;> rfl
  | cons c rest ih =>
      intro part parts hsplit
      obtain ⟨first, others, hrest⟩ := List.exists_cons_of_ne_nil
        (Text.splitOn_ne_nil '\'' rest)
      obtain ⟨hpart, hbehind⟩ := ih first others hrest
      rw [Text.splitOn, hrest] at hsplit
      by_cases hc : c = '\''
      · subst hc
        simp only [if_true, List.cons.injEq] at hsplit
        obtain ⟨rfl, rfl⟩ := hsplit
        constructor
        · intro inside
          cases inside with
          | false => exact hbehind false
          | true =>
              have htrue := hbehind true
              rw [if_pos rfl, ← quoteFrom_braceApostrophes] at htrue
              exact congrArg ('\'' :: ·) htrue
        · intro ended
          have hwritten := hbehind true
          rw [if_pos rfl] at hwritten
          rw [List.map_cons, quoteRuns, appendParts_nil_cons, hwritten]
          cases ended <;> rfl
      · simp only [hc, if_false, Text.consHead, List.cons.injEq] at hsplit
        obtain ⟨rfl, rfl⟩ := hsplit
        have htail := hpart (isBrace c)
        constructor
        · intro inside
          rw [endsQuoted_quoteRuns_cons false inside first hc, quoteRuns_cons,
            List.append_assoc, List.cons_append, htail]
          by_cases hbrace : isBrace c = true
          · rw [quoteFrom, Context.emit_of_isBrace _ hbrace,
              Context.next_of_isBrace _ hbrace]
            cases inside <;> simp [hbrace, Context.beforeBrace]
          · have hplain : isBrace c = false := by simpa using hbrace
            rw [quoteFrom, Context.emit_of_plain _ hc hplain,
              Context.next_of_plain _ hc hplain]
            cases inside <;> simp [hplain, Context.close]
        · intro ended
          rw [List.map_cons, appendParts, endsQuoted_quoteRuns_cons _ _ first hc,
            endsQuoted_quoteRuns_cons _ _ first hc, quoteRuns_cons,
            List.append_assoc, List.cons_append, htail]
          by_cases hbrace : isBrace c = true
          · rw [quoteFrom, Context.emit_of_isBrace _ hbrace,
              Context.next_of_isBrace _ hbrace]
            cases ended <;> simp [hbrace, Context.beforeBrace]
          · have hplain : isBrace c = false := by simpa using hbrace
            rw [quoteFrom, Context.emit_of_plain _ hc hplain,
              Context.next_of_plain _ hc hplain]
            cases ended <;> simp [hplain, hc, Context.close]

/-- Quoting a text part by part is the same as one pass over it. -/
theorem quote_eq_quoteFrom (text : Text) : quote text = quoteFrom .plain text := by
  obtain ⟨part, parts, hsplit⟩ := List.exists_cons_of_ne_nil
    (Text.splitOn_ne_nil '\'' text)
  have hpart := (parts_eq_quoteFrom text part parts hsplit).1 false
  unfold quote
  rw [hsplit, List.map_cons]
  simp only
  rw [foldl_appendPart]
  exact hpart

/-! ## Reading the pass back -/

namespace Context

/-- Whether the reader of what the pass has written is inside quotes. -/
def quoted : Context → Bool
  | plain => false
  | brace => true
  | apostrophe => false
  | apostrophes => false
  | braceApostrophes => true

/-- The quote that the reader cannot take yet, since it may be the first half
of a pair. -/
def carry : Context → Text
  | plain => []
  | brace => []
  | apostrophe => []
  | apostrophes => []
  | braceApostrophes => ['\'']

/-- The apostrophe of the text for which nothing has been read yet. -/
def owed : Context → Text
  | plain => []
  | brace => []
  | apostrophe => ['\'']
  | apostrophes => ['\'']
  | braceApostrophes => ['\'']

/-- The one place where the apostrophe owed is never paid. -/
def Loses (context : Context) (c : Char) : Prop :=
  context = apostrophes ∧ isBrace c = true

instance (context : Context) (c : Char) : Decidable (context.Loses c) :=
  inferInstanceAs (Decidable (_ ∧ _))

/-- What the reader takes from the writing of one character. -/
def gives (context : Context) (c : Char) : Text :=
  (if context.Loses c then [] else context.owed) ++ (if c = '\'' then [] else [c])

end Context

theorem readFrom_emit (context : Context) (c : Char) (more : Text) :
    readFrom (.text context.quoted) (context.carry ++ (context.emit c ++ more)) =
      (readFrom (.text (context.next c).quoted) ((context.next c).carry ++ more)).map
        ((context.gives c).map .literal ++ ·) := by
  by_cases hc : c = '\''
  · subst hc
    rw [Context.emit_apostrophe, Context.next_apostrophe]
    cases context <;>
      simp [Context.quoted, Context.carry, Context.close, Context.afterApostrophe,
        Context.gives, Context.Loses, Context.owed, isBrace_apostrophe]
  · have htoggle : ∀ quoted, readFrom (.text quoted) ('\'' :: c :: more) =
        readFrom (.text !quoted) (c :: more) := by
      intro quoted
      exact readFrom_toggle quoted (by simpa using hc)
    have hinside : readFrom (.text true) (c :: more) =
        (readFrom (.text true) more).map (.literal c :: ·) :=
      readFrom_literal true more hc (by simp)
    by_cases hbrace : isBrace c = true
    · rw [Context.emit_of_isBrace _ hbrace, Context.next_of_isBrace _ hbrace]
      cases context <;>
        simp [Context.quoted, Context.carry, Context.beforeBrace, Context.gives,
          Context.Loses, Context.owed, hc, hbrace, htoggle, hinside,
          Function.comp_def]
    · have hplain : isBrace c = false := by simpa using hbrace
      have houtside : readFrom (.text false) (c :: more) =
          (readFrom (.text false) more).map (.literal c :: ·) :=
        readFrom_literal false more hc (by simp [hplain])
      rw [Context.emit_of_plain _ hc hplain, Context.next_of_plain _ hc hplain]
      cases context <;>
        simp [Context.quoted, Context.carry, Context.close, Context.gives,
          Context.Loses, Context.owed, hc, hplain, htoggle, houtside,
          Function.comp_def]

theorem readFrom_close (context : Context) {rest : Text}
    (hrest : rest.head? ≠ some '\'') :
    readFrom (.text context.quoted) (context.carry ++ (context.close ++ rest)) =
      (readFrom (.text false) rest).map (context.owed.map .literal ++ ·) := by
  cases context <;>
    simp [Context.quoted, Context.carry, Context.close, Context.owed,
      readFrom_toggle _ hrest]

/-- What the reader takes from a quoted text that stands in a context. -/
def shownFrom (context : Context) : Text → Text
  | [] => context.owed
  | c :: rest => context.gives c ++ shownFrom (context.next c) rest

theorem readFrom_quoteFrom (text : Text) (context : Context) {rest : Text}
    (hrest : rest.head? ≠ some '\'') :
    readFrom (.text context.quoted) (context.carry ++ (quoteFrom context text ++ rest)) =
      (readFrom (.text false) rest).map
        ((shownFrom context text).map .literal ++ ·) := by
  induction text generalizing context with
  | nil => exact readFrom_close context hrest
  | cons c text ih =>
      rw [quoteFrom, List.append_assoc, readFrom_emit, ih, Option.map_map, shownFrom]
      simp [Function.comp_def]

theorem readFrom_quote (text : Text) {rest : Text} (hrest : rest.head? ≠ some '\'') :
    readFrom (.text false) (quote text ++ rest) =
      (readFrom (.text false) rest).map ((shownFrom .plain text).map .literal ++ ·) := by
  rw [quote_eq_quoteFrom]
  exact readFrom_quoteFrom text .plain hrest

theorem read?_quote (text : Text) :
    read? (quote text) = some ((shownFrom .plain text).map .literal) := by
  have hend : ([] : Text).head? ≠ some '\'' := by simp
  simpa [read?, readFrom] using readFrom_quote text hend

/-! ## Where an apostrophe is lost -/

theorem gives_append_owed {context : Context} {c : Char} (hkeeps : ¬ context.Loses c) :
    context.gives c ++ (context.next c).owed = context.owed ++ [c] := by
  by_cases hc : c = '\''
  · subst hc
    cases context <;> rfl
  · have howed : (context.next c).owed = [] := by
      unfold Context.next
      by_cases hbrace : isBrace c = true <;> simp [hc, hbrace, Context.owed]
    simp [Context.gives, hkeeps, hc, howed]

/-- Nothing is lost between two places of a text exactly if no place between
them loses its apostrophe. -/
theorem shownFrom_eq_iff (text : Text) (context : Context) :
    shownFrom context text = context.owed ++ text ↔
      ∀ before c after, text = before ++ c :: after →
        ¬ (before.foldl Context.next context).Loses c := by
  induction text generalizing context with
  | nil => simp [shownFrom]
  | cons c text ih =>
      rw [shownFrom]
      by_cases hloses : context.Loses c
      · obtain ⟨rfl, hbrace⟩ := id hloses
        have hc : c ≠ '\'' := by
          rintro rfl
          simp [isBrace_apostrophe] at hbrace
        constructor
        · intro heq
          simp [Context.gives, hloses, hc, Context.owed] at heq
        · intro hnone
          exact absurd hloses (hnone [] c text rfl)
      · have hkept : context.owed ++ c :: text =
            context.gives c ++ ((context.next c).owed ++ text) := by
          rw [← List.append_assoc, gives_append_owed hloses, List.append_assoc,
            List.singleton_append]
        rw [hkept, List.append_cancel_left_eq, ih, forall_position_cons]
        constructor
        · intro hnone
          exact ⟨hloses, hnone⟩
        · intro hall
          exact hall.2

namespace Context

theorem next_eq_plain_iff (context : Context) (c : Char) :
    context.next c = plain ↔ c ≠ '\'' ∧ isBrace c = false := by
  unfold next
  by_cases hc : c = '\''
  · cases context <;> simp [hc, afterApostrophe]
  · by_cases hbrace : isBrace c = true <;> simp [hc, hbrace]

theorem next_eq_apostrophe_iff (context : Context) (c : Char) :
    context.next c = apostrophe ↔ c = '\'' ∧ context = plain := by
  unfold next
  by_cases hc : c = '\''
  · cases context <;> simp [hc, afterApostrophe]
  · by_cases hbrace : isBrace c = true <;> simp [hc, hbrace]

theorem next_eq_apostrophes_iff (context : Context) (c : Char) :
    context.next c = apostrophes ↔
      c = '\'' ∧ (context = apostrophe ∨ context = apostrophes) := by
  unfold next
  by_cases hc : c = '\''
  · cases context <;> simp [hc, afterApostrophe]
  · by_cases hbrace : isBrace c = true <;> simp [hc, hbrace]

end Context

/-- Neither a brace nor an apostrophe ends the text. -/
def EndsPlain (text : Text) : Prop :=
  ∀ c ∈ text.getLast?, c ≠ '\'' ∧ isBrace c = false

/-- Two or more apostrophes that do not follow a brace stand right before a
brace. -/
def LosesApostrophe (text : Text) : Prop :=
  ∃ before n brace after,
    text = before ++ List.replicate (n + 2) '\'' ++ brace :: after ∧
      EndsPlain before ∧ isBrace brace = true

theorem foldl_next_eq_plain_iff (before : Text) :
    before.foldl Context.next .plain = .plain ↔ EndsPlain before := by
  induction before using List.reverseRecOn with
  | nil => simp [EndsPlain]
  | append_singleton before c _ =>
      rw [List.foldl_append, List.foldl_cons, List.foldl_nil, Context.next_eq_plain_iff]
      simp [EndsPlain]

theorem foldl_next_apostrophes (n : Nat) :
    (List.replicate n '\'').foldl Context.next .apostrophes = .apostrophes := by
  induction n with
  | zero => rfl
  | succ n ih => exact ih

theorem exists_of_foldl_next_eq_apostrophe {before : Text}
    (hcontext : before.foldl Context.next .plain = .apostrophe) :
    ∃ front, before = front ++ ['\''] ∧ EndsPlain front := by
  induction before using List.reverseRecOn with
  | nil => simp at hcontext
  | append_singleton before c _ =>
      rw [List.foldl_append, List.foldl_cons, List.foldl_nil,
        Context.next_eq_apostrophe_iff] at hcontext
      obtain ⟨rfl, hplain⟩ := hcontext
      exact ⟨before, rfl, (foldl_next_eq_plain_iff before).mp hplain⟩

theorem foldl_next_eq_apostrophes_iff (before : Text) :
    before.foldl Context.next .plain = .apostrophes ↔
      ∃ front n, before = front ++ List.replicate (n + 2) '\'' ∧ EndsPlain front := by
  constructor
  · intro hcontext
    induction before using List.reverseRecOn with
    | nil => simp at hcontext
    | append_singleton before c ih =>
        rw [List.foldl_append, List.foldl_cons, List.foldl_nil,
          Context.next_eq_apostrophes_iff] at hcontext
        obtain ⟨rfl, hone | hmore⟩ := hcontext
        · obtain ⟨front, rfl, hfront⟩ := exists_of_foldl_next_eq_apostrophe hone
          exact ⟨front, 0, by simp, hfront⟩
        · obtain ⟨front, n, rfl, hfront⟩ := ih hmore
          exact ⟨front, n + 1, by simp [List.replicate_succ' (n := n + 2)], hfront⟩
  · rintro ⟨front, n, rfl, hfront⟩
    rw [List.foldl_append, (foldl_next_eq_plain_iff front).mpr hfront]
    exact foldl_next_apostrophes n

theorem losesApostrophe_iff (text : Text) :
    LosesApostrophe text ↔
      ∃ before c after, text = before ++ c :: after ∧
        (before.foldl Context.next .plain).Loses c := by
  constructor
  · rintro ⟨front, n, brace, after, rfl, hfront, hbrace⟩
    refine ⟨front ++ List.replicate (n + 2) '\'', brace, after, rfl, ?_, hbrace⟩
    exact (foldl_next_eq_apostrophes_iff _).mpr ⟨front, n, rfl, hfront⟩
  · rintro ⟨before, c, after, rfl, hcontext, hbrace⟩
    obtain ⟨front, n, rfl, hfront⟩ := (foldl_next_eq_apostrophes_iff before).mp hcontext
    exact ⟨front, n, c, after, rfl, hfront, hbrace⟩

theorem shownFrom_plain_eq_iff (text : Text) :
    shownFrom .plain text = text ↔ ¬ LosesApostrophe text := by
  rw [losesApostrophe_iff]
  have hiff := shownFrom_eq_iff text .plain
  rw [Context.owed, List.nil_append] at hiff
  rw [hiff]
  simp only [not_exists, not_and]

theorem Context.filter_gives (context : Context) (c : Char) :
    (context.gives c).filter (· ≠ '\'') = [c].filter (· ≠ '\'') := by
  unfold gives
  have howed : context.owed.filter (· ≠ '\'') = [] := by
    cases context <;> rfl
  rw [List.filter_append]
  by_cases hloses : context.Loses c
  · rw [if_pos hloses]
    by_cases hc : c = '\'' <;> simp [hc]
  · rw [if_neg hloses, howed]
    by_cases hc : c = '\'' <;> simp [hc]

/-- Nothing but apostrophes is ever lost. -/
theorem filter_shownFrom (text : Text) (context : Context) :
    (shownFrom context text).filter (· ≠ '\'') = text.filter (· ≠ '\'') := by
  induction text generalizing context with
  | nil => cases context <;> rfl
  | cons c text ih =>
      rw [shownFrom, List.filter_append, context.filter_gives, ih, ← List.filter_append,
        List.singleton_append]

end MessageFormat

namespace JavaProperties

open MessageFormat (PatternPart LosesApostrophe)

/-- Escaped literal text is read back as literal text, without an argument and
with quoting off at the end.  It is the text that was escaped unless an
apostrophe is lost, and it never differs from it in any other character. -/
theorem read?_escapeValue (text : Text) :
    ((Xml.unescape? (escapeValue text)).bind MessageFormat.read? =
        some (text.map PatternPart.literal) ↔ ¬ LosesApostrophe text) ∧
      ∃ shown : Text,
        (Xml.unescape? (escapeValue text)).bind MessageFormat.read? =
            some (shown.map PatternPart.literal) ∧
          shown.filter (· ≠ '\'') = text.filter (· ≠ '\'') := by
  have hread : (Xml.unescape? (escapeValue text)).bind MessageFormat.read? =
      some ((MessageFormat.shownFrom .plain text).map PatternPart.literal) := by
    rw [escapeValue, Xml.unescape?_escape, Option.bind_some, MessageFormat.read?_quote]
  constructor
  · rw [hread, ← MessageFormat.shownFrom_plain_eq_iff, Option.some.injEq]
    exact List.map_inj_right fun c d heq => PatternPart.literal.inj heq
  · exact ⟨_, hread, MessageFormat.filter_shownFrom text .plain⟩

/-- Of two apostrophes before a brace one is lost. -/
theorem not_forall_read?_escapeValue :
    (Xml.unescape? (escapeValue "''\x7b".toList)).bind MessageFormat.read? =
        some ("'\x7b".toList.map PatternPart.literal) ∧
      ¬ ∀ text, (Xml.unescape? (escapeValue text)).bind MessageFormat.read? =
        some (text.map PatternPart.literal) := by
  constructor
  · decide
  · intro hall
    exact absurd (hall "''\x7b".toList) (by decide)

end JavaProperties

end MessageCatalog
