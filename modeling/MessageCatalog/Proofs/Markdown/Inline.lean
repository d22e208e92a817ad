import MessageCatalog.Markdown.Inline.Reading
import Mathlib.Data.List.Infix

/-!
# Running text without HTML

HTML in running text begins with an angle bracket.  Where there is none, all
elements are plain, and every step of reading keeps them so: the pairing of
delimiters only adds literal marks and tags of its own, and brackets only
become links and images.
-/

namespace MessageCatalog

namespace Markdown

namespace Inline

/-- Any element but HTML that is passed on as it stands. -/
def Plain : Inline → Prop
  | .html _ => False
  | _ => True

end Inline

namespace Token

def Plain : Token → Prop
  | .inline element => element.Plain
  | _ => True

theorem plain_curlQuotes {tokens : List Token} (htokens : ∀ token ∈ tokens, token.Plain)
    (single double : Bool) : ∀ token ∈ curlQuotes single double tokens, token.Plain := by
  fun_induction curlQuotes single double tokens with
  | case1 => exact htokens
  | case2 _ _ _ _ _ ih | case5 _ _ _ _ _ ih | case6 _ _ _ _ _ ih =>
      exact List.forall_mem_cons.mpr ⟨trivial, ih (List.forall_mem_cons.mp htokens).2⟩
  | case3 _ _ _ _ _ _ ih | case4 _ _ _ _ _ _ ih =>
      exact List.forall_mem_cons.mpr ⟨trivial, ih (List.forall_mem_cons.mp htokens).2⟩
  | case7 _ _ token rest _ _ ih =>
      obtain ⟨htoken, hrest⟩ := List.forall_mem_cons.mp htokens
      exact List.forall_mem_cons.mpr ⟨htoken, ih hrest⟩

end Token

namespace OpenRun

theorem plain_enclose (mark : Mark) (shared : Nat) {content : List Inline}
    (hcontent : ∀ element ∈ content, element.Plain) :
    ∀ element ∈ enclose mark shared content, element.Plain := by
  intro element helement
  simp only [enclose, List.mem_append, List.mem_map, List.mem_reverse] at helement
  rcases helement with (⟨span, -, rfl⟩ | helement) | ⟨span, -, rfl⟩
  · trivial
  · exact hcontent element helement
  · trivial

end OpenRun

namespace Pairing

structure Plain (pairing : Pairing) : Prop where
  before : ∀ element ∈ pairing.before, element.Plain
  runs : ∀ run ∈ pairing.runs, ∀ element ∈ run.content, element.Plain

variable {pairing : Pairing}

theorem Plain.append (hpairing : pairing.Plain) {elements : List Inline}
    (helements : ∀ element ∈ elements, element.Plain) : (pairing.append elements).Plain := by
  obtain ⟨before, runs⟩ := pairing
  cases runs with
  | nil => exact ⟨List.forall_mem_append.mpr ⟨helements, hpairing.before⟩, hpairing.runs⟩
  | cons last rest =>
      obtain ⟨hlast, hrest⟩ := List.forall_mem_cons.mp hpairing.runs
      exact ⟨hpairing.before, List.forall_mem_cons.mpr
        ⟨List.forall_mem_append.mpr ⟨helements, hlast⟩, hrest⟩⟩

theorem Plain.giveUpLast (hpairing : pairing.Plain) : pairing.giveUpLast.Plain := by
  obtain ⟨before, runs⟩ := pairing
  cases runs with
  | nil => exact hpairing
  | cons last rest =>
      obtain ⟨hlast, hrest⟩ := List.forall_mem_cons.mp hpairing.runs
      have houter : Plain ⟨before, rest⟩ := ⟨hpairing.before, hrest⟩
      exact houter.append
        (List.forall_mem_append.mpr ⟨hlast, List.forall_mem_singleton.mpr trivial⟩)

theorem Plain.giveUp (hpairing : pairing.Plain) (n : Nat) : (pairing.giveUp n).Plain := by
  induction n generalizing pairing with
  | zero => exact hpairing
  | succ n ih => exact ih hpairing.giveUpLast

theorem Plain.pairLast (hpairing : pairing.Plain) (left : Nat) :
    (pairing.pairLast left).Plain := by
  obtain ⟨before, runs⟩ := pairing
  cases runs with
  | nil => exact hpairing
  | cons last rest =>
      obtain ⟨hlast, hrest⟩ := List.forall_mem_cons.mp hpairing.runs
      have henclosed := OpenRun.plain_enclose last.mark (min left last.left) hlast
      rw [Pairing.pairLast]
      split
      · exact ⟨hpairing.before, List.forall_mem_cons.mpr ⟨henclosed, hrest⟩⟩
      · have houter : Plain ⟨before, rest⟩ := ⟨hpairing.before, hrest⟩
        exact houter.append henclosed

theorem Plain.close (hpairing : pairing.Plain) (mark : Mark) (length : Nat) (both : Bool)
    (fuel left : Nat) : (close mark length both fuel left pairing).2.Plain := by
  fun_induction Pairing.close mark length both fuel left pairing with
  | case1 => exact hpairing
  | case2 => exact hpairing
  | case3 => exact hpairing.giveUp _
  | case4 => exact (hpairing.giveUp _).pairLast _
  | case5 _ _ _ _ _ _ _ _ _ _ ih => exact ih ((hpairing.giveUp _).pairLast _)

theorem Plain.abandonTildes (hpairing : pairing.Plain) : pairing.abandonTildes.Plain where
  before := hpairing.before
  runs := by
    intro run hrun
    obtain ⟨original, horiginal, rfl⟩ := List.mem_map.mp hrun
    have hcontent : original.abandonTildes.content = original.content := by
      unfold OpenRun.abandonTildes
      split <;> rfl
    rw [hcontent]
    exact hpairing.runs original horiginal

theorem Plain.closeRun (hpairing : pairing.Plain) (mark : Mark) (length : Nat)
    (flanking : Flanking) : (closeRun mark length flanking pairing).2.Plain := by
  have hclosed := hpairing.close mark length flanking.both length length
  unfold Pairing.closeRun
  split
  · dsimp only
    split
    · exact hclosed.abandonTildes
    · exact hclosed
  · exact hpairing

theorem Plain.openRun (hpairing : pairing.Plain) (mark : Mark) (length : Nat)
    (flanking : Flanking) (left : Nat) : (openRun mark length flanking left pairing).Plain := by
  unfold Pairing.openRun
  split
  · exact hpairing
  · split
    · exact ⟨hpairing.before, List.forall_mem_cons.mpr ⟨by simp, hpairing.runs⟩⟩
    · exact hpairing.append (List.forall_mem_singleton.mpr trivial)

theorem Plain.step (hpairing : pairing.Plain) {token : Token} (htoken : token.Plain) :
    (pairing.step token).Plain := by
  cases token with
  | inline element => exact hpairing.append (List.forall_mem_singleton.mpr htoken)
  | run mark length flanking => exact (hpairing.closeRun mark length flanking).openRun _ _ _ _
  | quote quote flanking =>
      cases quote <;> exact hpairing.append (List.forall_mem_singleton.mpr trivial)

theorem Plain.steps (hpairing : pairing.Plain) {tokens : List Token}
    (htokens : ∀ token ∈ tokens, token.Plain) : (tokens.foldl Pairing.step pairing).Plain := by
  induction tokens generalizing pairing with
  | nil => exact hpairing
  | cons token tokens ih =>
      obtain ⟨htoken, hrest⟩ := List.forall_mem_cons.mp htokens
      exact ih (hpairing.step htoken) hrest

theorem Plain.finish (hpairing : pairing.Plain) :
    ∀ element ∈ pairing.finish, element.Plain := by
  intro element helement
  exact (hpairing.giveUp pairing.runs.length).before element (List.mem_reverse.mp helement)

end Pairing

theorem Inline.plain_ofTokens {tokens : List Token} (htokens : ∀ token ∈ tokens, token.Plain) :
    ∀ element ∈ ofTokens tokens, element.Plain := by
  have hstart : Pairing.Plain ⟨[], []⟩ := ⟨by simp, by simp⟩
  exact (hstart.steps (Token.plain_curlQuotes htokens false false)).finish

namespace InlineReader

structure Plain (reader : InlineReader) : Prop where
  tokens : ∀ token ∈ reader.tokens, token.Plain
  brackets : ∀ bracket ∈ reader.brackets, ∀ token ∈ bracket.before, token.Plain

theorem plain_start : start.Plain := ⟨by simp [start], by simp [start]⟩

variable {reader : InlineReader}

theorem Plain.token (hreader : reader.Plain) {token : Token} (htoken : token.Plain) :
    (reader.token token).Plain :=
  ⟨List.forall_mem_cons.mpr ⟨htoken, hreader.tokens⟩, hreader.brackets⟩

theorem Plain.text (hreader : reader.Plain) (t : Text) : (reader.text t).Plain :=
  hreader.token trivial

theorem Plain.openBracket (hreader : reader.Plain) (isImage : Bool) (behind : Text) :
    (reader.openBracket isImage behind).Plain :=
  ⟨List.forall_mem_nil _, List.forall_mem_cons.mpr ⟨hreader.tokens, hreader.brackets⟩⟩

theorem Plain.giveUpBracket (hreader : reader.Plain) : reader.giveUpBracket.Plain := by
  obtain ⟨tokens, brackets⟩ := reader
  cases brackets with
  | nil => exact hreader
  | cons bracket outer =>
      obtain ⟨hbracket, houter⟩ := List.forall_mem_cons.mp hreader.brackets
      refine ⟨?_, houter⟩
      exact List.forall_mem_append.mpr
        ⟨hreader.tokens, List.forall_mem_cons.mpr ⟨trivial, hbracket⟩⟩

theorem Plain.complete (hreader : reader.Plain) {bracket : Bracket} {outer : List Bracket}
    (hbrackets : reader.brackets = bracket :: outer) (target : Target) :
    (reader.complete bracket outer target).Plain := by
  have hall := hreader.brackets
  rw [hbrackets] at hall
  obtain ⟨hbracket, houter⟩ := List.forall_mem_cons.mp hall
  have hcontent : ∀ element ∈ Inline.ofTokens reader.tokens.reverse, element.Plain :=
    Inline.plain_ofTokens fun token htoken => hreader.tokens token (List.mem_reverse.mp htoken)
  unfold InlineReader.complete
  dsimp only
  split
  · exact ⟨List.forall_mem_cons.mpr ⟨trivial, hbracket⟩, houter⟩
  · constructor
    · rw [List.cons_append, List.forall_mem_cons, List.forall_mem_append, List.forall_mem_cons]
      refine ⟨trivial, ?_, trivial, hbracket⟩
      intro token htoken
      obtain ⟨element, helement, rfl⟩ := List.mem_map.mp (List.mem_reverse.mp htoken)
      exact hcontent element helement
    · intro behind hbehind
      obtain ⟨original, horiginal, rfl⟩ := List.mem_map.mp hbehind
      have hbefore : original.behindLink.before = original.before := by
        unfold Bracket.behindLink
        split <;> rfl
      rw [hbefore]
      exact houter original horiginal

theorem Plain.finish (hreader : reader.Plain) : ∀ token ∈ reader.finish, token.Plain := by
  have hgiveUp : ∀ (brackets : List Bracket) {reader : InlineReader}, reader.Plain →
      (brackets.foldl (fun reader _ => reader.giveUpBracket) reader).Plain := by
    intro brackets
    induction brackets with
    | nil => exact fun hreader => hreader
    | cons _ _ ih => exact fun hreader => ih hreader.giveUpBracket
  intro token htoken
  exact (hgiveUp reader.brackets hreader).tokens token (List.mem_reverse.mp htoken)

end InlineReader

namespace Inline

variable {reader : InlineReader}

theorem plain_closeBracket (hreader : reader.Plain) (definitions : List Definition)
    (rest : Text) : (closeBracket definitions reader rest).1.Plain := by
  unfold closeBracket
  split
  · exact hreader.text _
  · next bracket outer hbrackets =>
      dsimp only
      split
      · exact hreader.complete hbrackets _
      · exact hreader.giveUpBracket.text _

theorem plain_space (hreader : reader.Plain) (c : Char) (rest : Text) :
    (space reader c rest).1.Plain := by
  unfold space
  dsimp only
  split
  · refine hreader.token ?_
    split <;> trivial
  · exact hreader.text _

theorem plain_backslash (hreader : reader.Plain) (rest : Text) :
    (backslash reader rest).1.Plain := by
  unfold backslash
  split
  · exact hreader.token trivial
  · split <;> exact hreader.text _

theorem plain_backticks (hreader : reader.Plain) (rest : Text) :
    (backticks reader rest).1.Plain := by
  unfold backticks
  dsimp only
  split
  · exact hreader.token trivial
  · exact hreader.text _

theorem plain_ampersand (hreader : reader.Plain) (rest : Text) :
    (ampersand reader rest).1.Plain := by
  unfold ampersand
  split <;> exact hreader.text _

theorem plain_run (hreader : reader.Plain) (before : Option Char) (mark : Mark) (rest : Text) :
    (run reader before mark rest).1.Plain := by
  unfold run
  dsimp only
  split <;> exact hreader.token trivial

theorem plain_ite {p : Prop} [Decidable p] {yes no : InlineReader × Nat}
    (hyes : p → yes.1.Plain) (hno : ¬ p → no.1.Plain) : (if p then yes else no).1.Plain := by
  split
  · next hp => exact hyes hp
  · next hp => exact hno hp

theorem plain_other (hreader : reader.Plain) (before : Option Char) {c : Char} (hc : c ≠ '<')
    (rest : Text) : (other reader before c rest).1.Plain := by
  unfold other
  -- Splitting all conditions at once is slow, so they are taken one by one.
  refine plain_ite (fun _ => hreader.token trivial) fun _ => ?_
  refine plain_ite (fun _ => plain_space hreader c rest) fun _ => ?_
  refine plain_ite (fun _ => plain_backslash hreader rest) fun _ => ?_
  refine plain_ite (fun _ => plain_backticks hreader rest) fun _ => ?_
  refine plain_ite (fun hangle => absurd hangle hc) fun _ => ?_
  refine plain_ite (fun _ => plain_ampersand hreader rest) fun _ => ?_
  refine plain_ite (fun _ => hreader.text _) fun _ => ?_
  refine plain_ite (fun _ => hreader.text _) fun _ => ?_
  refine plain_ite (fun _ => hreader.token trivial) fun _ => ?_
  exact plain_ite (fun _ => hreader.token trivial) fun _ => hreader.text _

/-- Only an angle bracket begins HTML. -/
theorem plain_step (hreader : reader.Plain) (definitions : List Definition)
    (before : Option Char) {c : Char} (hc : c ≠ '<') (rest : Text) :
    (step definitions reader before c rest).1.Plain := by
  unfold step
  split_ifs
  · exact hreader.openBracket _ _
  · exact hreader.openBracket _ _
  · exact plain_closeBracket hreader definitions rest
  · split
    · exact plain_run hreader before _ rest
    · exact plain_other hreader before hc rest

theorem plain_readFrom (definitions : List Definition) {text : Text} (htext : '<' ∉ text)
    (hreader : reader.Plain) (skip : Nat) (before : Option Char) :
    (readFrom definitions skip before reader text).Plain := by
  induction text generalizing reader skip before with
  | nil => cases skip <;> exact hreader
  | cons c rest ih =>
      rw [List.mem_cons, not_or] at htext
      cases skip with
      | zero =>
          exact ih htext.2 (plain_step hreader definitions before (Ne.symm htext.1) rest) _ _
      | succ skip => exact ih htext.2 hreader skip (some c)

/-- Running text without an angle bracket holds no HTML. -/
theorem plain_ofText (definitions : List Definition) {text : Text} (htext : '<' ∉ text) :
    ∀ element ∈ ofText definitions text, element.Plain :=
  plain_ofTokens (plain_readFrom definitions htext InlineReader.plain_start 0 none).finish

end Inline

end Markdown

end MessageCatalog
