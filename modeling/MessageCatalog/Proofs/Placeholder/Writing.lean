import MessageCatalog.Proofs.Text.Decimal
import MessageCatalog.Proofs.Text.Splitting
import MessageCatalog.Proofs.Text.Trimming

/-!
# Writing specifiers

A placeholder is written as a specifier with its numbers in decimal.  The
placeholders that a specifier can express are those with a position from 1 on,
with decimals for floating-point data only, and with both numbers below the
bound.  Written, these are read back without a problem, and reading gives no
others, however malformed the specifier is.
-/

namespace MessageCatalog

namespace DataType

/-- The character by which a specifier names a data type. -/
def char : DataType → Char
  | .object => '@'
  | .integer => 'd'
  | .string => 's'
  | .float => 'f'

end DataType

/-- A placeholder that some specifier stands for. -/
structure Placeholder.Expressible (p : Placeholder) : Prop where
  orderIndex : ∀ order ∈ p.orderIndex, 0 < order ∧ order < Numeral.bound
  decimalCount : ∀ count ∈ p.decimalCount, p.dataType = .float ∧ count < Numeral.bound

namespace Specifier

def writeOrder : Option Nat → Text
  | some order => Text.ofNat order ++ [':']
  | none => []

def writeDecimals : Option Nat → Text
  | some count => '.' :: Text.ofNat count
  | none => []

/-- The specifier of a placeholder, without the braces around it. -/
def write (p : Placeholder) : Text :=
  writeOrder p.orderIndex ++ p.dataType.char :: writeDecimals p.decimalCount

theorem not_mem_writeDecimals {c : Char} (hdigit : c.isDigit = false) (hpoint : c ≠ '.')
    (count : Option Nat) : c ∉ writeDecimals count := by
  cases count with
  | none => simp [writeDecimals]
  | some count => simp [writeDecimals, hpoint, Text.not_mem_ofNat hdigit count]

theorem not_mem_write {c : Char} (hdigit : c.isDigit = false) (hcolon : c ≠ ':')
    (hpoint : c ≠ '.') (htype : ∀ type : DataType, c ≠ type.char) (p : Placeholder) :
    c ∉ write p := by
  have horder : c ∉ writeOrder p.orderIndex := by
    cases p.orderIndex with
    | none => simp [writeOrder]
    | some order => simp [writeOrder, hcolon, Text.not_mem_ofNat hdigit order]
  simp [write, horder, htype, not_mem_writeDecimals hdigit hpoint]

theorem closeBrace_not_mem_write (p : Placeholder) : '}' ∉ write p :=
  not_mem_write (by decide) (by decide) (by decide) (by intro type; cases type <;> decide) p

theorem stripBraces_write (p : Placeholder) : stripBraces (write p) = write p := by
  have hopen : '{' ∉ write p :=
    not_mem_write (by decide) (by decide) (by decide) (by intro type; cases type <;> decide) p
  have hhead : ∀ c ∈ (write p).head?, decide (c = '{') = false := by
    intro c hc
    have hne : c ≠ '{' := fun heq => hopen (heq ▸ List.mem_of_mem_head? hc)
    simpa using hne
  have hlast : ∀ c ∈ (write p).getLast?, decide (c = '}') = false := by
    intro c hc
    have hne : c ≠ '}' := fun heq => closeBrace_not_mem_write p (heq ▸ List.mem_of_getLast? hc)
    simpa using hne
  unfold stripBraces
  rw [Text.dropWhile_eq_self hhead, Text.dropTrailing_eq_self hlast]

/-! ## Reading written specifiers -/

theorem readNumber_ofNat (part : SpecifierPart) {n : Nat} (hn : n < Numeral.bound) :
    readNumber part (Text.ofNat n) = (n, []) := by
  rw [readNumber, Numeral.read_ofNat hn]

theorem readOrder_ofNat {order : Nat} (hpos : 0 < order) (hbound : order < Numeral.bound) :
    readOrder (Text.ofNat order) = (some order, []) := by
  have hnil : (Text.ofNat order).isEmpty = false := by
    simpa using Text.ofNat_ne_nil order
  simp [readOrder, hnil, readNumber_ofNat _ hbound, orderOf, Nat.ne_of_gt hpos]

theorem readDecimals_writeDecimals {count : Option Nat}
    (hcount : ∀ n ∈ count, n < Numeral.bound) :
    readDecimals (writeDecimals count) = (count, []) := by
  cases count with
  | none => rfl
  | some n =>
      have hnil : (Text.ofNat n).isEmpty = false := by
        simpa using Text.ofNat_ne_nil n
      simp [writeDecimals, readDecimals, Text.splitFirst?, hnil,
        readNumber_ofNat _ (hcount n rfl)]

theorem readType_write {p : Placeholder} (hp : p.Expressible) :
    readType p.orderIndex (p.dataType.char :: writeDecimals p.decimalCount) = (p, []) := by
  obtain ⟨type, order, count⟩ := p
  have hdecimals := readDecimals_writeDecimals fun n hn => (hp.decimalCount n hn).2
  have hnone : type ≠ .float → count = none := by
    intro htype
    cases count with
    | none => rfl
    | some n => exact absurd (hp.decimalCount n rfl).1 htype
  cases type with
  | float =>
      change (Placeholder.mk .float order (readDecimals (writeDecimals count)).1,
        (readDecimals (writeDecimals count)).2) = _
      rw [hdecimals]
  | object => rw [hnone (by decide)]; rfl
  | integer => rw [hnone (by decide)]; rfl
  | string => rw [hnone (by decide)]; rfl

theorem read_write_of_expressible {p : Placeholder} (hp : p.Expressible) :
    read (write p) = (p, []) := by
  have htype := readType_write hp
  unfold read
  rw [stripBraces_write]
  cases horder : p.orderIndex with
  | none =>
      have hwrite : write p = p.dataType.char :: writeDecimals p.decimalCount := by
        rw [write, horder]
        rfl
      have hcolon : ':' ∉ p.dataType.char :: writeDecimals p.decimalCount := by
        rw [List.mem_cons, not_or]
        exact ⟨by cases p.dataType <;> decide, not_mem_writeDecimals (by decide) (by decide) _⟩
      rw [horder] at htype
      rw [hwrite, Text.splitFirst?_eq_none_iff.mpr hcolon]
      exact htype
  | some order =>
      obtain ⟨hpos, hbound⟩ := hp.orderIndex order horder
      have hwrite : write p =
          Text.ofNat order ++ ':' :: p.dataType.char :: writeDecimals p.decimalCount := by
        simp [write, horder, writeOrder]
      rw [horder] at htype
      rw [hwrite, Text.splitFirst?_append (Text.not_mem_ofNat (by decide) order)]
      simp only [readOrder_ofNat hpos hbound, htype, List.nil_append]

/-! ## What reading gives -/

theorem readNumber_lt (part : SpecifierPart) (text : Text) :
    (readNumber part text).1 < Numeral.bound := by
  unfold readNumber
  cases hread : Numeral.read text with
  | ok n => exact Numeral.lt_of_read_eq_ok hread
  | error cause => exact show 0 < Numeral.bound by decide

theorem readOrder_bounds (text : Text) :
    ∀ order ∈ (readOrder text).1, 0 < order ∧ order < Numeral.bound := by
  intro order horder
  unfold readOrder at horder
  split at horder
  · simp at horder
  · simp only [orderOf, Option.mem_def, Option.ite_none_left_eq_some, Option.some.injEq] at horder
    obtain ⟨hpos, rfl⟩ := horder
    exact ⟨Nat.pos_of_ne_zero hpos, readNumber_lt _ _⟩

theorem readDecimals_lt (text : Text) :
    ∀ count ∈ (readDecimals text).1, count < Numeral.bound := by
  intro count hcount
  unfold readDecimals at hcount
  split at hcount
  · simp at hcount
  · split at hcount
    · simp at hcount
    · simp only [Option.mem_def, Option.some.injEq] at hcount
      exact hcount ▸ readNumber_lt _ _

theorem expressible_readType {order : Option Nat}
    (horder : ∀ n ∈ order, 0 < n ∧ n < Numeral.bound) (text : Text) :
    (readType order text).1.Expressible := by
  unfold readType
  split
  · exact ⟨horder, by simp⟩
  · split
    · exact ⟨horder, fun count hcount => ⟨rfl, readDecimals_lt _ count hcount⟩⟩
    · exact ⟨horder, by simp⟩

theorem expressible_read (body : Text) : (read body).1.Expressible := by
  unfold read
  split
  · exact expressible_readType (by simp) _
  · exact expressible_readType (readOrder_bounds _) _

end Specifier

end MessageCatalog
