import MessageCatalog.Proofs.CompositeFormat.Reading
import MessageCatalog.Proofs.JavaProperties.Value
import MessageCatalog.Proofs.Output.PrintfValues
import MessageCatalog.Proofs.Segment.Writing

/-!
# The arguments that placeholders are bound to

A placeholder without a position is bound differently by the targets.  Message
formats and composite formats write an index for every placeholder, and one
without a position gets its rank among all placeholders of the value.  A printf
format leaves the choice to its reader, which takes the next argument in order,
specifiers with a position not counting.  The targets therefore agree on a
placeholder if it has a position, or if no placeholder before it has one, and on
no other.
-/

namespace MessageCatalog

namespace Printf

def Part.position? : Part → Option (Option Nat)
  | text _ => none
  | specifier position _ _ => some position

/-- The arguments of specifiers with these positions, after a number of arguments
has been taken in order: the one at the position, or else the next one. -/
def takeArguments (taken : Nat) : List (Option Nat) → List Nat
  | [] => []
  | some position :: rest => position :: takeArguments taken rest
  | none :: rest => (taken + 1) :: takeArguments (taken + 1) rest

def boundArguments (parts : List Part) : List Nat :=
  takeArguments 0 (parts.filterMap Part.position?)

end Printf

namespace AndroidStrings

/-- The arguments that a value text refers to, counted from one. -/
def boundArguments? (value : Value) : Option (List Nat) :=
  ((Xml.unescape? (Xml.escape (format value))).bind Printf.read?).map Printf.boundArguments

end AndroidStrings

namespace JavaProperties

/-- The arguments that a text refers to, counted from one. -/
def argumentsIn? (written : Text) : Option (List Nat) :=
  ((Xml.unescape? (Xml.escape written)).bind MessageFormat.read?).bind fun parts =>
    (MessageFormat.arguments? parts).map fun arguments =>
      arguments.map fun argument => argument.index + 1

def boundArguments? (value : Value) : Option (List Nat) := (format? value).bind argumentsIn?

end JavaProperties

def CompositeFormat.Part.argument? : CompositeFormat.Part → Option Nat
  | text _ => none
  | item index _ => some (index + 1)

namespace WindowsResources

/-- The arguments that a text refers to, counted from one. -/
def argumentsIn? (written : Text) : Option (List Nat) :=
  ((Xml.unescape? (Xml.escape written)).bind CompositeFormat.read?).map
    (List.filterMap CompositeFormat.Part.argument?)

def boundArguments? (value : Value) : Option (List Nat) := argumentsIn? (format value)

/-- The arguments that the placeholders of a value are written with, read one by
one, since braces in the text around them may spoil the format as a whole. -/
def writtenArguments? (value : Value) : Option (List Nat) :=
  (value.placeholders.mapM fun numbered =>
    argumentsIn? (argument numbered.1 numbered.2)).map List.flatten

end WindowsResources

/-! ## The rules of the targets -/

theorem Printf.getElem?_takeArguments (before after : List (Option Nat)) (position : Option Nat)
    (taken : Nat) :
    (takeArguments taken (before ++ position :: after))[before.length]? =
      some (position.getD (taken + before.count none + 1)) := by
  induction before generalizing taken with
  | nil => cases position <;> rfl
  | cons first before ih =>
      cases first with
      | some earlier =>
          rw [List.cons_append, takeArguments, List.length_cons, List.getElem?_cons_succ, ih]
          simp
      | none =>
          rw [List.cons_append, takeArguments, List.length_cons, List.getElem?_cons_succ, ih,
            List.count_cons_self]
          have hcount : taken + 1 + before.count none = taken + (before.count none + 1) := by
            omega
          rw [hcount]

theorem Printf.length_takeArguments (positions : List (Option Nat)) (taken : Nat) :
    (takeArguments taken positions).length = positions.length := by
  induction positions generalizing taken with
  | nil => rfl
  | cons position positions ih =>
      cases position with
      | some earlier => rw [takeArguments, List.length_cons, ih, List.length_cons]
      | none => rw [takeArguments, List.length_cons, ih, List.length_cons]

theorem Printf.filterMap_position?_ofSegment (object : Char) (segments : List Segment) :
    (segments.map (Part.ofSegment object)).filterMap Part.position? =
      (Segment.placeholders segments).map Placeholder.orderIndex := by
  induction segments with
  | nil => rfl
  | cons segment rest ih =>
      cases segment with
      | text t =>
          rw [List.map_cons, Segment.placeholders_text, ← ih]
          rfl
      | placeholder p =>
          obtain ⟨type, position, decimals⟩ := p
          rw [List.map_cons, Segment.placeholders_placeholder, List.map_cons, ← ih]
          cases type <;> rfl

theorem AndroidStrings.boundArguments?_eq (value : Value) :
    boundArguments? value =
      some (Printf.takeArguments 0
        ((Segment.placeholders value.segments).map Placeholder.orderIndex)) := by
  have hobject : Printf.isConversion 's' = true := by decide
  have hread := Printf.read?_ofSegments hobject value.segments
  rw [boundArguments?, Xml.unescape?_escape, Option.bind_some, format, hread, Option.map_some,
    Printf.boundArguments, Printf.filterMap_position?_ofSegment, Segment.placeholders_gather]

/-- The argument of a placeholder that has `rank` others before it, in the formats
that write an index. -/
def Placeholder.indexedArgument (rank : Nat) (p : Placeholder) : Nat := p.effectiveIndex rank + 1

theorem Placeholder.indexedArgument_eq {p : Placeholder} (hp : p.Expressible) (rank : Nat) :
    p.indexedArgument rank = p.orderIndex.getD (rank + 1) := by
  unfold indexedArgument effectiveIndex
  cases horder : p.orderIndex with
  | none => rfl
  | some order =>
      have hpos := (hp.orderIndex order horder).1
      simp only [Option.getD_some]
      omega

theorem Piece.filterMap_numbered?_ofSegments (segments : List Segment) (rank : Nat) :
    (Piece.ofSegments rank segments).filterMap Piece.numbered? =
      (Segment.placeholders segments).mapIdx fun k p => (rank + k, p) := by
  induction segments generalizing rank with
  | nil => rfl
  | cons segment rest ih =>
      cases segment with
      | text t => exact ih rank
      | placeholder p =>
          have hrest := ih (rank + 1)
          simp only [Nat.add_assoc, Nat.add_comm 1] at hrest
          rw [Piece.ofSegments_placeholder, List.filterMap_cons, Segment.placeholders_placeholder,
            List.mapIdx_cons, ← hrest]
          rfl

theorem Value.map_indexedArgument_placeholders (value : Value) :
    (value.placeholders.map fun numbered => numbered.2.indexedArgument numbered.1) =
      (Segment.placeholders value.segments).mapIdx Placeholder.indexedArgument := by
  rw [Value.placeholders, Value.pieces, Piece.filterMap_numbered?_ofSegments]
  apply List.ext_getElem?
  intro k
  rw [List.getElem?_map, List.getElem?_mapIdx, List.getElem?_mapIdx, Option.map_map]
  simp only [Function.comp_def, Nat.zero_add]

theorem JavaProperties.argumentsIn?_of_format? {value : Value} {pattern : Text}
    (hpattern : format? value = some pattern) :
    argumentsIn? pattern =
      some ((Segment.placeholders value.segments).mapIdx Placeholder.indexedArgument) := by
  obtain ⟨parts, hread, harguments, -⟩ := readsAs_of_format?_eq_some hpattern
  have hindices : ((Segment.placeholders value.segments).mapIdx
        MessageFormat.Argument.ofPlaceholder).map (fun argument => argument.index + 1) =
      (Segment.placeholders value.segments).mapIdx Placeholder.indexedArgument := by
    apply List.ext_getElem?
    intro k
    rw [List.getElem?_map, List.getElem?_mapIdx, List.getElem?_mapIdx, Option.map_map]
    rfl
  rw [argumentsIn?, hread, Option.bind_some, harguments, Option.map_some, hindices]

namespace WindowsResources

theorem argumentsIn?_argument (rank : Nat) (p : Placeholder) :
    argumentsIn? (argument rank p) = some [p.indexedArgument rank] := by
  have hread := readFrom_argument_append rank p []
  rw [List.append_nil] at hread
  have hitem : CompositeFormat.read? (argument rank p) =
      some [CompositeFormat.Part.ofPiece (.placeholder rank p)] := hread
  rw [argumentsIn?, Xml.unescape?_escape, Option.bind_some, hitem]
  rfl

theorem writtenArguments?_eq (value : Value) :
    writtenArguments? value =
      some ((Segment.placeholders value.segments).mapIdx Placeholder.indexedArgument) := by
  have hread : (fun numbered : Nat × Placeholder => argumentsIn? (argument numbered.1 numbered.2)) =
      fun numbered => pure [numbered.2.indexedArgument numbered.1] := by
    funext numbered
    exact argumentsIn?_argument numbered.1 numbered.2
  have hsingle : (value.placeholders.map fun numbered =>
        [numbered.2.indexedArgument numbered.1]).flatten =
      value.placeholders.map fun numbered => numbered.2.indexedArgument numbered.1 := by
    rw [← List.flatMap_def, ← List.map_eq_flatMap]
  rw [writtenArguments?, hread, List.mapM_pure, ← Value.map_indexedArgument_placeholders,
    ← hsingle]
  rfl

/-- As long as no text holds a brace, the format as a whole refers to the same
arguments. -/
theorem boundArguments?_eq {value : Value} (hvalue : Segment.Gathered value.segments)
    (hplain : ∀ t, Segment.text t ∈ value.segments → '\x7b' ∉ t ∧ '\x7d' ∉ t) :
    boundArguments? value =
      some ((Segment.placeholders value.segments).mapIdx Placeholder.indexedArgument) := by
  have hread : CompositeFormat.read? (format value) =
      some (value.pieces.map CompositeFormat.Part.ofPiece) :=
    readFrom_flatMap_ofPiece hvalue hplain 0
  have hpiece : ∀ piece : Piece, (CompositeFormat.Part.ofPiece piece).argument? =
      piece.numbered?.map fun numbered => numbered.2.indexedArgument numbered.1 := by
    intro piece
    cases piece <;> rfl
  have harguments : (value.pieces.map CompositeFormat.Part.ofPiece).filterMap
        CompositeFormat.Part.argument? =
      value.placeholders.map fun numbered => numbered.2.indexedArgument numbered.1 := by
    rw [List.filterMap_map, Value.placeholders, List.map_filterMap]
    exact List.filterMap_congr fun piece _ => hpiece piece
  rw [boundArguments?, argumentsIn?, Xml.unescape?_escape, Option.bind_some, hread,
    Option.map_some, harguments, Value.map_indexedArgument_placeholders]

end WindowsResources

/-! ## Where the targets agree -/

namespace Value

/-- The values of all targets refer to an argument for each placeholder.  Java, which
has no text for a value with too many decimals, and Windows always agree on it.  Android
agrees with them on a placeholder if and only if the placeholder has a position or none
before it has one. -/
theorem boundArguments_agree_iff (language raw : Text) :
    ∃ android indexed,
      AndroidStrings.boundArguments? ⟨language, Segment.ofText raw⟩ = some android ∧
        (∀ pattern, JavaProperties.format? ⟨language, Segment.ofText raw⟩ = some pattern →
          JavaProperties.argumentsIn? pattern = some indexed) ∧
        (JavaProperties.format? ⟨language, Segment.ofText raw⟩ = none ↔
          ∃ p ∈ Segment.placeholders (Segment.ofText raw), MessageFormat.TooLong p) ∧
        WindowsResources.writtenArguments? ⟨language, Segment.ofText raw⟩ = some indexed ∧
        ((∀ t, Segment.text t ∈ Segment.ofText raw → '\x7b' ∉ t ∧ '\x7d' ∉ t) →
          WindowsResources.boundArguments? ⟨language, Segment.ofText raw⟩ = some indexed) ∧
        android.length = (Segment.placeholders (Segment.ofText raw)).length ∧
        indexed.length = (Segment.placeholders (Segment.ofText raw)).length ∧
        ∀ before p after,
          Segment.placeholders (Segment.ofText raw) = before ++ p :: after →
            (android[before.length]? = indexed[before.length]? ↔
              p.orderIndex.isSome = true ∨ ∀ earlier ∈ before, earlier.orderIndex = none) := by
  have hgathered : Segment.Gathered (⟨language, Segment.ofText raw⟩ : Value).segments :=
    (Segment.canonical_ofText raw).gathered
  refine ⟨_, _, AndroidStrings.boundArguments?_eq _,
    fun pattern => JavaProperties.argumentsIn?_of_format?, MessageFormat.ofSegments?_eq_none_iff,
    WindowsResources.writtenArguments?_eq _, WindowsResources.boundArguments?_eq hgathered,
    ?_, ?_, ?_⟩
  · rw [Printf.length_takeArguments, List.length_map]
  · rw [List.length_mapIdx]
  · intro before p after hplaceholders
    have hmem : p ∈ Segment.placeholders (Segment.ofText raw) := by
      rw [hplaceholders]
      simp
    have hexpressible : p.Expressible :=
      (Segment.canonical_ofText raw).expressible p (Segment.mem_placeholders_iff.mp hmem)
    have handroid := Printf.getElem?_takeArguments (before.map Placeholder.orderIndex)
      (after.map Placeholder.orderIndex) p.orderIndex 0
    rw [List.length_map, Nat.zero_add] at handroid
    have hindexed : ((before ++ p :: after).mapIdx Placeholder.indexedArgument)[before.length]? =
        some (p.orderIndex.getD (before.length + 1)) := by
      rw [List.getElem?_mapIdx, List.getElem?_append_right (Nat.le_refl _), Nat.sub_self,
        List.getElem?_cons_zero, Option.map_some, Placeholder.indexedArgument_eq hexpressible]
    have hcount : (before.map Placeholder.orderIndex).count none = before.length ↔
        ∀ earlier ∈ before, earlier.orderIndex = none := by
      have hall := List.count_eq_length (a := none) (l := before.map Placeholder.orderIndex)
      rw [List.length_map, List.forall_mem_map] at hall
      simpa only [eq_comm] using hall
    rw [hplaceholders, List.map_append, List.map_cons, handroid, hindexed, Option.some.injEq]
    cases hposition : p.orderIndex with
    | some position => simp
    | none => simpa using hcount

/-- In `{2:@}{@}` the second placeholder is the first argument for Android and the
second one for Java. -/
theorem not_forall_boundArguments_agree :
    AndroidStrings.boundArguments?
          ⟨"en".toList, Segment.ofText "\x7b2:@\x7d\x7b@\x7d".toList⟩ = some [2, 1] ∧
      JavaProperties.boundArguments?
          ⟨"en".toList, Segment.ofText "\x7b2:@\x7d\x7b@\x7d".toList⟩ = some [2, 2] ∧
      ¬ ∀ language raw,
        AndroidStrings.boundArguments? ⟨language, Segment.ofText raw⟩ =
          JavaProperties.boundArguments? ⟨language, Segment.ofText raw⟩ := by
  have handroid : AndroidStrings.boundArguments?
      ⟨"en".toList, Segment.ofText "\x7b2:@\x7d\x7b@\x7d".toList⟩ = some [2, 1] := by
    rw [AndroidStrings.boundArguments?_eq]
    decide +kernel
  have hpattern : JavaProperties.format?
      ⟨"en".toList, Segment.ofText "\x7b2:@\x7d\x7b@\x7d".toList⟩ =
        some "\x7b1\x7d\x7b1\x7d".toList := by decide +kernel
  have hjava : JavaProperties.boundArguments?
      ⟨"en".toList, Segment.ofText "\x7b2:@\x7d\x7b@\x7d".toList⟩ = some [2, 2] := by
    rw [JavaProperties.boundArguments?, hpattern, Option.bind_some,
      JavaProperties.argumentsIn?_of_format? hpattern]
    decide +kernel
  refine ⟨handroid, hjava, ?_⟩
  intro hall
  have hsame := hall "en".toList "\x7b2:@\x7d\x7b@\x7d".toList
  rw [handroid, hjava] at hsame
  exact absurd hsame (by decide)

end Value

end MessageCatalog
