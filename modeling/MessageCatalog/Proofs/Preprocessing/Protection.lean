import MessageCatalog.Preprocessing.Markdown
import MessageCatalog.Proofs.Text.Neighbours

/-!
# Escapes while Markdown is read

A value is cut into escapes and single characters from left to right, as it is
when its segments are read.  Protection puts a stand-in in the place of each
escape and leaves everything else alone, so that no escape is left for
Markdown to take away.  Restoring the escapes gives the value back unless it
holds a stand-in of its own: that one comes back as an escape which nobody
wrote.
-/

namespace MessageCatalog

namespace MarkdownValue

theorem escaped?_of_standIn?_eq_some {c standIn : Char} (hstandIn : standIn? c = some standIn) :
    escaped? standIn = some c ∧ escaped? c = none := by
  unfold standIn? at hstandIn
  split at hstandIn
  · next hc => cases hstandIn; subst hc; exact ⟨rfl, rfl⟩
  · split at hstandIn
    · next hc => cases hstandIn; subst hc; exact ⟨rfl, rfl⟩
    · split at hstandIn
      · next hc => cases hstandIn; subst hc; exact ⟨rfl, rfl⟩
      · cases hstandIn

@[simp] theorem restore_nil : restore [] = [] := rfl

@[simp] theorem restore_cons (c : Char) (text : Text) :
    restore (c :: text) = restoreChar c ++ restore text := rfl

@[simp] theorem restore_append (left right : Text) :
    restore (left ++ right) = restore left ++ restore right :=
  List.flatMap_append

theorem restoreChar_of_escaped?_eq_none {c : Char} (hc : escaped? c = none) :
    restoreChar c = [c] := by
  rw [restoreChar, hc]

theorem length_restoreChar (c : Char) :
    (restoreChar c).length = 1 + if (escaped? c).isSome then 1 else 0 := by
  unfold restoreChar
  cases escaped? c <;> rfl

theorem length_restore (text : Text) :
    (restore text).length = text.length + text.countP fun c => (escaped? c).isSome := by
  induction text with
  | nil => rfl
  | cons c text ih =>
      rw [restore_cons, List.length_append, length_restoreChar, ih, List.countP_cons,
        List.length_cons]
      omega

theorem restore_eq_self_iff (text : Text) :
    restore text = text ↔ ∀ c ∈ text, escaped? c = none := by
  constructor
  · intro hrestore c hc
    have hlength := length_restore text
    rw [hrestore] at hlength
    have hcount : text.countP (fun c => (escaped? c).isSome) = 0 := by omega
    simpa using List.countP_eq_zero.mp hcount c hc
  · intro htext
    induction text with
    | nil => rfl
    | cons c text ih =>
        rw [restore_cons, restoreChar_of_escaped?_eq_none (htext c List.mem_cons_self),
          ih fun d hd => htext d (List.mem_cons_of_mem c hd)]
        rfl

/-! ## Escapes -/

/-- The escapes of a text, each a backslash with the character behind it, and
the characters between them. -/
def units : Text → List Text
  | [] => []
  | [c] => [[c]]
  | c :: d :: rest =>
      if c = '\\' then [c, d] :: units rest else [c] :: units (d :: rest)

/-- What stands for an escape or a character while Markdown is read. -/
def protectUnit : Text → Text
  | [c, d] =>
      match standIn? d with
      | some standIn => [standIn]
      | none => [c, d]
  | unit => unit

theorem units_cons_of_ne {c : Char} (hc : c ≠ '\\') (rest : Text) :
    units (c :: rest) = [c] :: units rest := by
  cases rest with
  | nil => rfl
  | cons d rest => rw [units, if_neg hc]

theorem units_escape (d : Char) (rest : Text) :
    units ('\\' :: d :: rest) = ['\\', d] :: units rest := by
  rw [units, if_pos rfl]

theorem flatten_units (text : Text) : (units text).flatten = text := by
  fun_induction units text with
  | case1 => rfl
  | case2 c => rfl
  | case3 d rest ih => rw [List.flatten_cons, ih]; rfl
  | case4 c d rest hc ih => rw [List.flatten_cons, ih]; rfl

theorem ne_backslash_of_standIn?_eq_none {c : Char} (hc : standIn? c = none) : c ≠ '\\' := by
  rintro rfl
  cases hc

theorem protect_eq_flatMap_units (text : Text) :
    protect text = (units text).flatMap protectUnit := by
  fun_induction protect text with
  | case1 => rfl
  | case2 c =>
      by_cases hc : c = '\\'
      · subst hc; rfl
      · rw [units_cons_of_ne hc]; rfl
  | case3 c d rest standIn hstandIn ih =>
      split at hstandIn
      · next hc =>
          subst hc
          rw [units_escape, List.flatMap_cons, protectUnit, hstandIn, ih]
          rfl
      · cases hstandIn
  | case4 c d rest hnone ih =>
      by_cases hc : c = '\\'
      · -- A backslash in front of anything else stays, and so does what it escapes.
        subst hc
        rw [if_pos rfl] at hnone
        rw [ih, units_escape, units_cons_of_ne (ne_backslash_of_standIn?_eq_none hnone),
          List.flatMap_cons, List.flatMap_cons, protectUnit, protectUnit, hnone]
        · rfl
        · simp
      · rw [ih, units_cons_of_ne hc]
        rfl

theorem head?_protect_cons {c : Char} (hc : c ≠ '\\') (rest : Text) :
    (protect (c :: rest)).head? = some c := by
  cases rest with
  | nil => rfl
  | cons d rest =>
      rw [protect, if_neg hc]
      rfl

theorem not_escape_infix_protect {d : Char} (hd : standIn? d ≠ none) (text : Text) :
    ¬ ['\\', d] <:+: protect text := by
  fun_induction protect text with
  | case1 => simp
  | case2 c => simp [Text.pair_infix_cons_iff]
  | case3 c e rest standIn hstandIn ih =>
      have hescaped : escaped? standIn = some e := by
        split at hstandIn
        · exact (escaped?_of_standIn?_eq_some hstandIn).1
        · cases hstandIn
      rw [Text.pair_infix_cons_iff, not_or]
      refine ⟨?_, ih⟩
      rintro ⟨rfl, -⟩
      cases hescaped
  | case4 c e rest hnone ih =>
      rw [Text.pair_infix_cons_iff, not_or]
      refine ⟨?_, ih⟩
      rintro ⟨rfl, hhead⟩
      rw [if_pos rfl] at hnone
      rw [head?_protect_cons (ne_backslash_of_standIn?_eq_none hnone)] at hhead
      exact hd (Option.some.inj hhead ▸ hnone)

theorem restore_protect (text : Text) : restore (protect text) = restore text := by
  fun_induction protect text with
  | case1 => rfl
  | case2 c => rfl
  | case3 c d rest standIn hstandIn ih =>
      split at hstandIn
      · next hc =>
          subst hc
          obtain ⟨hback, hplain⟩ := escaped?_of_standIn?_eq_some hstandIn
          have hstandInText : restoreChar standIn = ['\\', d] := by rw [restoreChar, hback]
          have hbackslash : restoreChar '\\' = ['\\'] := rfl
          rw [restore_cons, restore_cons, restore_cons, ih, hstandInText, hbackslash,
            restoreChar_of_escaped?_eq_none hplain]
          rfl
      · cases hstandIn
  | case4 c d rest hnone ih => rw [restore_cons, restore_cons, ih]

/-- Protection puts a stand-in for each escape, leaves no escape and changes
nothing else.  Restoring gives the text back if and only if no stand-in is
among its characters; each of those comes back as the escape it stands for. -/
theorem restore_protect_eq_self_iff (text : Text) :
    (restore (protect text) = text ↔ ∀ c ∈ text, escaped? c = none) ∧
      restore (protect text) = text.flatMap restoreChar ∧
      (units text).flatten = text ∧ protect text = (units text).flatMap protectUnit ∧
      ¬ ['\\', '\\'] <:+: protect text ∧ ¬ ['\\', '{'] <:+: protect text ∧
      ¬ ['\\', '}'] <:+: protect text := by
  refine ⟨?_, restore_protect text, flatten_units text, protect_eq_flatMap_units text, ?_, ?_, ?_⟩
  · rw [restore_protect]
    exact restore_eq_self_iff text
  · exact not_escape_infix_protect (by decide) text
  · exact not_escape_infix_protect (by decide) text
  · exact not_escape_infix_protect (by decide) text

/-- A stand-in by itself comes back as an escaped backslash. -/
theorem not_forall_restore_protect :
    restore (protect ['\uE000']) = ['\\', '\\'] ∧
      ¬ ∀ text, restore (protect text) = text := by
  refine ⟨by decide, ?_⟩
  intro hall
  exact absurd (hall ['\uE000']) (by decide)

end MarkdownValue

end MessageCatalog
