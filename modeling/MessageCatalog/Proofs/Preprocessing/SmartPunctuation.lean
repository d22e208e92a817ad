import MessageCatalog.Preprocessing.SmartPunctuation
import Mathlib.Data.List.Infix

/-!
# Settled punctuation

A text is settled if it holds no straight quote and no three dots in a row.
Settled texts are the ones that typographic punctuation leaves as they are,
and it makes every text settled at once.  Nothing else changes: both texts
become the same when curly quotes are made straight and ellipses are spelled
out.
-/

namespace MessageCatalog

namespace SmartPunctuation

def dots : Text := ['.', '.', '.']

/-- There is nothing left to curl or to shorten. -/
structure Settled (text : Text) : Prop where
  no_single : '\'' ∉ text
  no_double : '"' ∉ text
  no_dots : ¬ dots <:+: text

/-- A character with curly quotes made straight and ellipses spelled out. -/
def straightenChar (c : Char) : Text :=
  if c = '‘' ∨ c = '’' then ['\'']
  else if c = '“' ∨ c = '”' then ['"']
  else if c = '…' then dots
  else [c]

def straighten (text : Text) : Text := text.flatMap straightenChar

@[simp] theorem straighten_nil : straighten [] = [] := rfl

@[simp] theorem straighten_cons (c : Char) (text : Text) :
    straighten (c :: text) = straightenChar c ++ straighten text := rfl

@[simp] theorem straighten_append (left right : Text) :
    straighten (left ++ right) = straighten left ++ straighten right :=
  List.flatMap_append

theorem settled_of_cons {c : Char} {text : Text} (htext : Settled (c :: text)) : Settled text where
  no_single := fun hmem => htext.no_single (List.mem_cons_of_mem c hmem)
  no_double := fun hmem => htext.no_double (List.mem_cons_of_mem c hmem)
  no_dots := fun hinside => htext.no_dots (hinside.trans (List.suffix_cons c text).isInfix)

/-! ## Ellipses -/

theorem ellipses_dots_append (rest : Text) : ellipses (dots ++ rest) = '…' :: ellipses rest := by
  have hdots : dots ++ rest = '.' :: '.' :: '.' :: rest := rfl
  rw [hdots, ellipses, if_pos ⟨rfl, rfl, rfl⟩]

theorem ellipses_cons_of_not_dots {c : Char} {rest : Text} (hdots : ¬ dots <+: c :: rest) :
    ellipses (c :: rest) = c :: ellipses rest := by
  match rest, hdots with
  | [], _ => rfl
  | [_], _ => rfl
  | a :: b :: rest, hdots =>
      have hne : ¬ (c = '.' ∧ a = '.' ∧ b = '.') := by
        rintro ⟨rfl, rfl, rfl⟩
        exact hdots ⟨rest, rfl⟩
      rw [ellipses, if_neg hne]

theorem ellipses_cons_of_ne {c : Char} (hc : c ≠ '.') (rest : Text) :
    ellipses (c :: rest) = c :: ellipses rest := by
  apply ellipses_cons_of_not_dots
  exact fun hfront => hc (List.cons_prefix_cons.mp hfront).1.symm

/-- A text is empty, or it begins with an ellipsis, or its first character
stays. -/
theorem ellipses_induction {motive : Text → Prop} (nil : motive [])
    (append : ∀ rest, motive rest → motive (dots ++ rest))
    (cons : ∀ c rest, ¬ dots <+: c :: rest → motive rest → motive (c :: rest)) (text : Text) :
    motive text := by
  induction hlength : text.length using Nat.strong_induction_on generalizing text with
  | _ n ih =>
      by_cases hfront : dots <+: text
      · obtain ⟨rest, rfl⟩ := hfront
        have hless : rest.length < n := by
          rw [← hlength, List.length_append]
          exact Nat.lt_add_of_pos_left (by decide)
        exact append rest (ih rest.length hless rest rfl)
      · cases text with
        | nil => exact nil
        | cons c rest =>
            have hless : rest.length < n := by
              rw [← hlength]
              exact Nat.lt_succ_self _
            exact cons c rest hfront (ih rest.length hless rest rfl)

theorem straighten_ellipses (text : Text) : straighten (ellipses text) = straighten text := by
  induction text using ellipses_induction with
  | nil => rfl
  | append rest ih =>
      have hellipsis : straightenChar '…' = straighten dots := by decide
      rw [ellipses_dots_append, straighten_cons, straighten_append, ih, hellipsis]
  | cons c rest hfront ih =>
      rw [ellipses_cons_of_not_dots hfront, straighten_cons, straighten_cons, ih]

theorem replicate_prefix_of_ellipses {n : Nat} {text : Text}
    (hfront : List.replicate n '.' <+: ellipses text) : List.replicate n '.' <+: text := by
  induction text using ellipses_induction generalizing n with
  | nil => exact hfront
  | append rest ih =>
      rw [ellipses_dots_append] at hfront
      cases n with
      | zero => exact List.nil_prefix
      | succ n =>
          rw [List.replicate_succ, List.cons_prefix_cons] at hfront
          exact absurd hfront.1 (by decide)
  | cons c rest hdots ih =>
      rw [ellipses_cons_of_not_dots hdots] at hfront
      cases n with
      | zero => exact List.nil_prefix
      | succ n =>
          rw [List.replicate_succ, List.cons_prefix_cons] at hfront ⊢
          exact ⟨hfront.1, ih hfront.2⟩

theorem not_dots_infix_ellipses (text : Text) : ¬ dots <:+: ellipses text := by
  induction text using ellipses_induction with
  | nil => decide
  | append rest ih =>
      rw [ellipses_dots_append, List.infix_cons_iff, not_or]
      refine ⟨?_, ih⟩
      intro hfront
      exact absurd (List.cons_prefix_cons.mp hfront).1 (by decide)
  | cons c rest hdots ih =>
      rw [ellipses_cons_of_not_dots hdots, List.infix_cons_iff, not_or]
      refine ⟨?_, ih⟩
      intro hfront
      apply hdots
      rw [dots, List.cons_prefix_cons] at hfront ⊢
      exact ⟨hfront.1, replicate_prefix_of_ellipses (n := 2) hfront.2⟩

theorem ellipses_eq_self {text : Text} (hdots : ¬ dots <:+: text) : ellipses text = text := by
  induction text with
  | nil => rfl
  | cons c text ih =>
      rw [List.infix_cons_iff, not_or] at hdots
      rw [ellipses_cons_of_not_dots hdots.1, ih hdots.2]

/-! ## Quotes -/

theorem curlChar_of_ne {c : Char} (hsingle : c ≠ '\'') (hdouble : c ≠ '"')
    (before after : Option Char) : curlChar before after c = c := by
  rw [curlChar, if_neg hsingle, if_neg hdouble]

theorem straightenChar_curlChar (before after : Option Char) (c : Char) :
    straightenChar (curlChar before after c) = straightenChar c := by
  by_cases hsingle : c = '\''
  · subst hsingle
    rw [curlChar, if_pos rfl]
    split <;> rfl
  · by_cases hdouble : c = '"'
    · subst hdouble
      rw [curlChar, if_neg hsingle, if_pos rfl]
      split <;> rfl
    · rw [curlChar_of_ne hsingle hdouble]

theorem curlChar_ne_quote (before after : Option Char) (c : Char) :
    curlChar before after c ≠ '\'' ∧ curlChar before after c ≠ '"' := by
  by_cases hsingle : c = '\''
  · subst hsingle
    rw [curlChar, if_pos rfl]
    split <;> decide
  · by_cases hdouble : c = '"'
    · subst hdouble
      rw [curlChar, if_neg hsingle, if_pos rfl]
      split <;> decide
    · rw [curlChar_of_ne hsingle hdouble]
      exact ⟨hsingle, hdouble⟩

theorem eq_of_curlChar_eq {before after : Option Char} {c d : Char}
    (hd : straightenChar d = [d]) (heq : curlChar before after c = d) : c = d := by
  by_cases hquote : c = '\'' ∨ c = '"'
  · have hstraight : straightenChar c = [c] := by rcases hquote with rfl | rfl <;> rfl
    have hsame : straightenChar d = straightenChar c := by rw [← heq, straightenChar_curlChar]
    rw [hstraight, hd] at hsame
    exact (List.singleton_inj.mp hsame).symm
  · rw [not_or] at hquote
    rwa [curlChar_of_ne hquote.1 hquote.2] at heq

/-- The quotes of a text curled as they are between two characters, either of
which may be missing. -/
def curlBetween (before after : Option Char) : Text → Text
  | [] => []
  | c :: rest => curlChar before (rest.head?.or after) c :: curlBetween (some c) after rest

theorem curl_eq_curlBetween (before : Option Char) (text : Text) :
    curl before text = curlBetween before none text := by
  induction text generalizing before with
  | nil => rfl
  | cons c text ih => rw [curl, curlBetween, Option.or_none, ih]

theorem straighten_curlBetween (before after : Option Char) (text : Text) :
    straighten (curlBetween before after text) = straighten text := by
  induction text generalizing before with
  | nil => rfl
  | cons c text ih =>
      rw [curlBetween, straighten_cons, straighten_cons, straightenChar_curlChar, ih]

theorem straighten_curl (before : Option Char) (text : Text) :
    straighten (curl before text) = straighten text := by
  rw [curl_eq_curlBetween, straighten_curlBetween]

theorem ne_quote_of_mem_curl {before : Option Char} {text : Text} {c : Char}
    (hc : c ∈ curl before text) : c ≠ '\'' ∧ c ≠ '"' := by
  induction text generalizing before with
  | nil => cases hc
  | cons d text ih =>
      rw [curl, List.mem_cons] at hc
      rcases hc with rfl | hc
      · exact curlChar_ne_quote before text.head? d
      · exact ih hc

theorem replicate_prefix_of_curl {before : Option Char} {n : Nat} {text : Text}
    (hfront : List.replicate n '.' <+: curl before text) : List.replicate n '.' <+: text := by
  induction text generalizing before n with
  | nil => exact hfront
  | cons c text ih =>
      cases n with
      | zero => exact List.nil_prefix
      | succ n =>
          rw [curl, List.replicate_succ, List.cons_prefix_cons] at hfront
          rw [List.replicate_succ, List.cons_prefix_cons]
          exact ⟨(eq_of_curlChar_eq rfl hfront.1.symm).symm, ih hfront.2⟩

theorem dots_infix_of_curl {before : Option Char} {text : Text}
    (hdots : dots <:+: curl before text) : dots <:+: text := by
  induction text generalizing before with
  | nil => exact hdots
  | cons c text ih =>
      rw [curl, List.infix_cons_iff] at hdots
      rw [List.infix_cons_iff]
      rcases hdots with hfront | hinside
      · left
        exact replicate_prefix_of_curl (n := 3) hfront
      · exact .inr (ih hinside)

/-! ## Texts among others -/

theorem dots_prefix_of_append {left right : Text} (hne : left ≠ [])
    (hseam : left.getLast? ≠ some '.' ∨ right.head? ≠ some '.')
    (hfront : dots <+: left ++ right) : dots <+: left := by
  have hdot : ∀ d ∈ dots, d = '.' := by simp [dots]
  rcases List.prefix_or_prefix_of_prefix hfront (List.prefix_append left right) with h | h
  · exact h
  · obtain ⟨more, hmore⟩ := h
    cases more with
    | nil =>
        rw [List.append_nil] at hmore
        rw [hmore]
    | cons d more =>
        -- The dots run over the seam, so there is one on either side of it.
        rw [← hmore, List.prefix_append_right_inj] at hfront
        have hleft : left.getLast? = some '.' := by
          rw [List.getLast?_eq_some_getLast hne, hdot (left.getLast hne)]
          exact hmore ▸ List.mem_append_left _ (List.getLast_mem hne)
        have hright : right.head? = some '.' := by
          obtain ⟨rest, rfl⟩ := hfront
          rw [hdot d (hmore ▸ List.mem_append_right left List.mem_cons_self)]
          rfl
        exact hseam.elim (absurd hleft) (absurd hright)

theorem getLast?_ne_of_append (front : Text) {rest : Text} {c : Char}
    (hlast : (front ++ rest).getLast? ≠ some c) : rest.getLast? ≠ some c := by
  intro hrest
  rw [List.getLast?_append, hrest] at hlast
  exact hlast rfl

/-- Texts that do not meet in dots can be shortened one by one. -/
theorem ellipses_append {left right : Text}
    (hseam : left.getLast? ≠ some '.' ∨ right.head? ≠ some '.') :
    ellipses (left ++ right) = ellipses left ++ ellipses right := by
  induction left using ellipses_induction with
  | nil => rfl
  | append rest ih =>
      rw [List.append_assoc, ellipses_dots_append, ellipses_dots_append, List.cons_append,
        ih (hseam.imp_left (getLast?_ne_of_append dots))]
  | cons c rest hfront ih =>
      have hwhole : ¬ dots <+: c :: (rest ++ right) := fun hdots =>
        hfront (dots_prefix_of_append (List.cons_ne_nil c rest) hseam hdots)
      rw [List.cons_append, ellipses_cons_of_not_dots hwhole, ellipses_cons_of_not_dots hfront,
        List.cons_append, ih (hseam.imp_left (getLast?_ne_of_append [c]))]

theorem curlBetween_append (before after : Option Char) (left right : Text) :
    curlBetween before after (left ++ right) =
      curlBetween before (right.head?.or after) left
        ++ curlBetween (left.getLast?.or before) after right := by
  induction left generalizing before with
  | nil => rfl
  | cons c left ih =>
      have hlast : (c :: left).getLast?.or before = left.getLast?.or (some c) := by
        rw [List.getLast?_cons]
        cases left.getLast? <;> rfl
      rw [List.cons_append, curlBetween, curlBetween, ih, hlast, List.head?_append,
        Option.or_assoc, List.cons_append]

theorem curlBetween_cons_of_ne {c : Char} (hsingle : c ≠ '\'') (hdouble : c ≠ '"')
    (before after : Option Char) (rest : Text) :
    curlBetween before after (c :: rest) = c :: curlBetween (some c) after rest := by
  rw [curlBetween, curlChar_of_ne hsingle hdouble]

theorem curlBetween_eq_self {text : Text} (hsingle : '\'' ∉ text) (hdouble : '"' ∉ text)
    (before after : Option Char) : curlBetween before after text = text := by
  induction text generalizing before with
  | nil => rfl
  | cons c text ih =>
      rw [List.mem_cons, not_or] at hsingle hdouble
      rw [curlBetween_cons_of_ne (Ne.symm hsingle.1) (Ne.symm hdouble.1),
        ih hsingle.2 hdouble.2]

theorem curl_eq_self {text : Text} (hsingle : '\'' ∉ text) (hdouble : '"' ∉ text)
    (before : Option Char) : curl before text = text := by
  rw [curl_eq_curlBetween, curlBetween_eq_self hsingle hdouble]

/-! ## Settled texts -/

theorem settled_smarten (text : Text) : Settled (smarten text) where
  no_single := fun hmem => (ne_quote_of_mem_curl hmem).1 rfl
  no_double := fun hmem => (ne_quote_of_mem_curl hmem).2 rfl
  no_dots := fun hdots => not_dots_infix_ellipses text (dots_infix_of_curl hdots)

theorem straighten_smarten (text : Text) : straighten (smarten text) = straighten text := by
  rw [smarten, straighten_curl, straighten_ellipses]

theorem smarten_eq_self_iff (text : Text) : smarten text = text ↔ Settled text := by
  constructor
  · intro heq
    rw [← heq]
    exact settled_smarten text
  · intro htext
    rw [smarten, ellipses_eq_self htext.no_dots, curl_eq_self htext.no_single htext.no_double]

/-- Typographic punctuation leaves nothing to do, changes nothing but quotes
and dots, and does not change its own results. -/
theorem smarten_smarten (text : Text) :
    ('\'' ∉ smarten text ∧ '"' ∉ smarten text ∧ ¬ ['.', '.', '.'] <:+: smarten text) ∧
      straighten (smarten text) = straighten text ∧ smarten (smarten text) = smarten text := by
  have hsettled := settled_smarten text
  exact ⟨⟨hsettled.no_single, hsettled.no_double, hsettled.no_dots⟩, straighten_smarten text,
    (smarten_eq_self_iff (smarten text)).mpr hsettled⟩

end SmartPunctuation

end MessageCatalog
