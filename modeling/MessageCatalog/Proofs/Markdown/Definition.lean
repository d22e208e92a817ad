import MessageCatalog.Markdown.Link
import Mathlib.Data.List.Infix

/-!
# What follows definitions

Every reader of links gives a rest of the text that it was given.  So what
follows the definitions at the start of a paragraph is an end of the
paragraph.
-/

namespace MessageCatalog

namespace Markdown

namespace Link

variable {text part rest : Text}

theorem suffix_of_consRead {c : Char} {read : Option (Text × Text)}
    (hread : ∀ {part rest}, read = some (part, rest) → rest <:+ text)
    (hcons : consRead c read = some (part, rest)) : rest <:+ c :: text := by
  obtain ⟨⟨before, behind⟩, hbehind, heq⟩ := Option.map_eq_some_iff.mp hcons
  obtain ⟨-, rfl⟩ := Prod.mk.inj heq
  exact (hread hbehind).trans (List.suffix_cons c text)

theorem suffix_of_pointed? {isLiteral : Bool}
    (hread : pointed? isLiteral text = some (part, rest)) : rest <:+ text := by
  fun_induction pointed? isLiteral text generalizing part rest with
  | case1 => cases hread
  | case2 c text ih => exact suffix_of_consRead ih hread
  | case3 text => cases hread; exact List.suffix_cons '>' text
  | case4 => cases hread
  | case5 c text _ _ ih => exact suffix_of_consRead ih hread

theorem suffix_of_plain? {nesting : Nat} {isLiteral : Bool}
    (hread : plain? nesting isLiteral text = some (part, rest)) : rest <:+ text := by
  fun_induction plain? nesting isLiteral text generalizing part rest with
  | case1 => cases hread; exact List.suffix_rfl
  | case2 => cases hread
  | case3 nesting c text ih => exact suffix_of_consRead ih hread
  | case4 => cases hread; exact List.suffix_rfl
  | case5 => cases hread
  | case6 nesting text _ _ ih => exact suffix_of_consRead ih hread
  | case7 => cases hread
  | case8 => cases hread; exact List.suffix_rfl
  | case9 text _ _ outer ih => exact suffix_of_consRead ih hread
  | case10 nesting c text _ _ _ ih => exact suffix_of_consRead ih hread

theorem suffix_of_destination? (hread : destination? text = some (part, rest)) :
    rest <:+ text := by
  unfold destination? at hread
  split at hread
  · exact (suffix_of_pointed? hread).trans (List.tail_suffix text)
  · exact suffix_of_plain? hread

theorem suffix_of_titleBody? {opening closing : Char} {isLiteral : Bool}
    (hread : titleBody? opening closing isLiteral text = some (part, rest)) : rest <:+ text := by
  fun_induction titleBody? opening closing isLiteral text generalizing part rest with
  | case1 => cases hread
  | case2 c text ih => exact suffix_of_consRead ih hread
  | case3 text => cases hread; exact List.suffix_cons closing text
  | case4 => cases hread
  | case5 c text _ _ ih => exact suffix_of_consRead ih hread

theorem suffix_of_title? (hread : title? text = some (part, rest)) : rest <:+ text := by
  cases text with
  | nil => cases hread
  | cons c text =>
      have htail := List.suffix_cons c text
      unfold title? at hread
      dsimp only at hread
      split_ifs at hread
      · exact (suffix_of_titleBody? hread).trans htail
      · exact (suffix_of_titleBody? hread).trans htail

theorem suffix_of_labelBody? {isLiteral : Bool}
    (hread : labelBody? isLiteral text = some (part, rest)) : rest <:+ text := by
  fun_induction labelBody? isLiteral text generalizing part rest with
  | case1 => cases hread
  | case2 c text ih => exact suffix_of_consRead ih hread
  | case3 text => cases hread; exact List.suffix_cons ']' text
  | case4 => cases hread
  | case5 c text _ _ ih => exact suffix_of_consRead ih hread

theorem suffix_of_label? (hread : label? text = some (part, rest)) : rest <:+ text := by
  unfold label? at hread
  split at hread
  · next label behind hbody =>
      split_ifs at hread
      cases hread
      exact suffix_of_labelBody? hbody
  · cases hread

theorem skipSpace_suffix (text : Text) : (skipSpace text).1 <:+ text := by
  have hblank := List.dropWhile_suffix (l := text) isLineSpace
  unfold skipSpace
  dsimp only
  split
  · exact (List.dropWhile_suffix _).trans ((List.tail_suffix _).trans hblank)
  · exact hblank

end Link

namespace Definition

variable {text rest : Text}

theorem suffix_of_endLine? (hread : endLine? text = some rest) : rest <:+ text := by
  have hblank := List.dropWhile_suffix (l := text) isLineSpace
  unfold endLine? at hread
  split at hread
  · cases hread
    exact List.nil_suffix
  · next c behind hbehind =>
      split_ifs at hread
      cases hread
      rw [hbehind] at hblank
      exact (List.suffix_cons c rest).trans hblank

theorem suffix_of_withTitle? {label destination : Text} {definition : Definition}
    (hread : withTitle? label destination text = some (definition, rest)) : rest <:+ text := by
  have huntitled : ∀ {target}, (endLine? text).map (fun rest => (target, rest)) =
      some (definition, rest) → rest <:+ text := by
    intro target heq
    obtain ⟨behind, hbehind, hpair⟩ := Option.map_eq_some_iff.mp heq
    obtain ⟨-, rfl⟩ := Prod.mk.inj hpair
    exact suffix_of_endLine? hbehind
  unfold withTitle? at hread
  dsimp only at hread
  split at hread
  · split at hread
    · exact huntitled hread
    · next title behind htitle =>
        split at hread
        · next after hafter =>
            cases hread
            exact (suffix_of_endLine? hafter).trans
              ((Link.suffix_of_title? htitle).trans (Link.skipSpace_suffix text))
        · exact huntitled hread
  · exact huntitled hread

theorem suffix_of_ofText? {definition : Definition}
    (hread : ofText? text = some (definition, rest)) : rest <:+ text := by
  unfold ofText? at hread
  split_ifs at hread
  split at hread
  · cases hread
  · next label behindLabel hlabel =>
      split_ifs at hread
      dsimp only at hread
      split at hread
      · cases hread
      · next destination behind hdestination =>
          split_ifs at hread
          have hspace := (Link.skipSpace_suffix behindLabel.tail).trans
            (List.tail_suffix behindLabel)
          exact (suffix_of_withTitle? hread).trans ((Link.suffix_of_destination? hdestination).trans
            (hspace.trans ((Link.suffix_of_label? hlabel).trans (List.tail_suffix text))))

theorem takeAll_suffix (fuel : Nat) (text : Text) : (takeAll fuel text).2 <:+ text := by
  fun_induction takeAll fuel text with
  | case1 => exact List.suffix_rfl
  | case2 => exact List.suffix_rfl
  | case3 fuel text definition rest hread ih => exact ih.trans (suffix_of_ofText? hread)

theorem ofParagraph_suffix (text : Text) : (ofParagraph text).2 <:+ text :=
  takeAll_suffix text.length text

end Definition

end Markdown

end MessageCatalog
