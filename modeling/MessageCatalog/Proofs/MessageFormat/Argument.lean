import MessageCatalog.Proofs.MessageFormat.Pattern
import MessageCatalog.Proofs.Text.Decimal
import MessageCatalog.Proofs.Text.Splitting

/-!
# Arguments of message formats

Between its braces an argument has an index and possibly a format: a number, a
whole number, or a number by a pattern of decimals.  The argument that is
written for a placeholder is read back with the index and the format that the
placeholder asks for, whatever stands behind it.  Only for a placeholder with more
decimals than fit into a text, no argument is written.
-/

namespace MessageCatalog

namespace MessageFormat

inductive ArgumentStyle
  | plain
  | number
  | integer
  | pattern (decimals : Nat)
  deriving DecidableEq

structure Argument where
  index : Nat
  style : ArgumentStyle
  deriving DecidableEq

namespace Argument

/-- The number of decimals that a pattern such as `#.##` asks for. -/
def readPattern? : Text → Option Nat
  | ['#'] => some 0
  | '#' :: '.' :: '#' :: hashes =>
      if hashes.all (· = '#') then some (hashes.length + 1) else none
  | _ => none

def readStyle? : List Text → Option ArgumentStyle
  | [] => some .plain
  | [kind] => if kind = "number".toList then some .number else none
  | [kind, style] =>
      if kind ≠ "number".toList then none
      else if style = "integer".toList then some .integer
      else (readPattern? style).map .pattern
  | _ => none

/-- Reads what stands between the braces of an argument. -/
def read? (body : Text) : Option Argument :=
  match Text.splitOn ',' body with
  | [] => none
  | index :: style =>
      (Text.decimal? index).bind fun index => (readStyle? style).map fun style => ⟨index, style⟩

/-- The argument that a placeholder asks for, given the number of placeholders
before it. -/
def ofPlaceholder (rank : Nat) (p : Placeholder) : Argument where
  index :=
    match p.orderIndex with
    | some order => order - 1
    | none => rank
  style :=
    match p.dataType, p.decimalCount with
    | .object, _ => .plain
    | .string, _ => .plain
    | .integer, _ => .integer
    | .float, none => .number
    | .float, some count => .pattern count

end Argument

/-! ## Which arguments can be written -/

/-- More decimals are asked for than a pattern can spell out. -/
def TooLong (p : Placeholder) : Prop :=
  ∃ count, p.floatDecimals = some count ∧ Text.maxLength < count

theorem style?_eq_none_iff {p : Placeholder} : style? p = none ↔ TooLong p := by
  obtain ⟨type, order, decimals⟩ := p
  unfold TooLong style? Placeholder.floatDecimals
  cases type with
  | object => simp
  | string => simp
  | integer => simp
  | float =>
      rcases decimals with _ | _ | count
      · simp
      · simp
      · simp [Text.repeat?_eq_none_iff]

theorem argument?_eq_none_iff {rank : Nat} {p : Placeholder} :
    argument? rank p = none ↔ TooLong p := by
  rw [argument?, Option.map_eq_none_iff, style?_eq_none_iff]

/-! ## Reading written arguments -/

theorem readPattern?_hashes (count : Nat) :
    Argument.readPattern? ("#.".toList ++ List.replicate (count + 1) '#') = some (count + 1) := by
  have hall : (List.replicate count '#').all (· = '#') = true := by simp
  change (if (List.replicate count '#').all (· = '#') then
    some ((List.replicate count '#').length + 1) else none) = _
  rw [if_pos hall, List.length_replicate]

/-- The format of an argument consists of words, each of them behind a comma. -/
theorem exists_words_of_style?_eq_some {p : Placeholder} {style : Text}
    (hstyle : style? p = some style) (rank : Nat) :
    ∃ words : List Text, style = words.flatMap (',' :: ·) ∧
      (∀ word ∈ words, ',' ∉ word ∧ '\x7d' ∉ word) ∧
      Argument.readStyle? words = some (Argument.ofPlaceholder rank p).style := by
  obtain ⟨type, order, decimals⟩ := p
  cases type with
  | object =>
      obtain rfl := Option.some.inj hstyle
      exact ⟨[], rfl, by simp, rfl⟩
  | string =>
      obtain rfl := Option.some.inj hstyle
      exact ⟨[], rfl, by simp, rfl⟩
  | integer =>
      obtain rfl := Option.some.inj hstyle
      exact ⟨["number".toList, "integer".toList], rfl, by decide, rfl⟩
  | float =>
      rcases decimals with _ | _ | count
      · obtain rfl := Option.some.inj hstyle
        exact ⟨["number".toList], rfl, by decide, rfl⟩
      · obtain rfl := Option.some.inj hstyle
        exact ⟨["number".toList, ['#']], rfl, by decide, rfl⟩
      · obtain ⟨hashes, hhashes, rfl⟩ := Option.map_eq_some_iff.mp hstyle
        obtain ⟨-, rfl⟩ := Text.repeat?_eq_some_iff.mp hhashes
        refine ⟨["number".toList, "#.".toList ++ List.replicate (count + 1) '#'], ?_, ?_, ?_⟩
        · simp
        · simp [List.mem_replicate]
        · have hinteger : "#.".toList ++ List.replicate (count + 1) '#' ≠ "integer".toList := by
            intro heq
            exact absurd (congrArg List.head? heq) (by simp)
          rw [Argument.readStyle?, if_neg (by simp), if_neg hinteger, readPattern?_hashes]
          rfl

/-- What stands between the braces of an argument is read as the argument. -/
theorem exists_body_of_argument?_eq_some {rank : Nat} {p : Placeholder} {written : Text}
    (hwritten : argument? rank p = some written) :
    ∃ body, written = '\x7b' :: (body ++ ['\x7d']) ∧ '\x7d' ∉ body ∧
      Argument.read? body = some (Argument.ofPlaceholder rank p) := by
  obtain ⟨style, hstyle, rfl⟩ := Option.map_eq_some_iff.mp hwritten
  obtain ⟨words, rfl, hplain, hread⟩ := exists_words_of_style?_eq_some hstyle rank
  have hcomma : ',' ∉ Text.ofNat (p.effectiveIndex rank) := Text.not_mem_ofNat (by decide) _
  have hbrace : '\x7d' ∉ Text.ofNat (p.effectiveIndex rank) := Text.not_mem_ofNat (by decide) _
  refine ⟨Text.ofNat (p.effectiveIndex rank) ++ words.flatMap (',' :: ·), rfl, ?_, ?_⟩
  · simp only [List.mem_append, List.mem_flatMap, List.mem_cons, not_or, not_exists, not_and]
    exact ⟨hbrace, fun word hword => ⟨by decide, (hplain word hword).2⟩⟩
  · unfold Argument.read?
    rw [Text.splitOn_append_words hcomma fun word hword => (hplain word hword).1]
    dsimp only
    rw [Text.decimal?_ofNat, hread]
    rfl

theorem readFrom_argument_body {body : Text} (hbody : '\x7d' ∉ body) (before rest : Text) :
    readFrom (.argument before) (body ++ '\x7d' :: rest) =
      (readFrom (.text false) rest).map (.argument (before.reverse ++ body) :: ·) := by
  induction body generalizing before with
  | nil => simp [readFrom]
  | cons c body ih =>
      rw [List.mem_cons, not_or] at hbody
      rw [List.cons_append, readFrom, if_neg (Ne.symm hbody.1), ih hbody.2]
      simp

theorem readFrom_argument_append {body : Text} (hbody : '\x7d' ∉ body) (rest : Text) :
    readFrom (.text false) ('\x7b' :: (body ++ ['\x7d']) ++ rest) =
      (readFrom (.text false) rest).map (.argument body :: ·) := by
  have hread := readFrom_argument_body hbody [] rest
  have hopen : readFrom (.text false) ('\x7b' :: (body ++ '\x7d' :: rest)) =
      readFrom (.argument []) (body ++ '\x7d' :: rest) := by
    rw [readFrom]
    · simp
    · intro rest' hbrace
      exact absurd hbrace (by decide)
  rw [List.cons_append, List.append_assoc, List.singleton_append, hopen, hread]
  rfl

end MessageFormat

end MessageCatalog
