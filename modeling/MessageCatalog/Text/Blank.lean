import MessageCatalog.Text.Basic

/-!
# White space

Lines, names and values are trimmed of the characters that Unicode gives the
`White_Space` property: the ASCII blanks, the two Latin-1 ones, and the
spaces and separators of the General Punctuation block and of the Ogham and
CJK scripts.  Zero-width characters are not among them.
-/

namespace MessageCatalog

/-- Whether a character has the Unicode property `White_Space`. -/
def isBlank (c : Char) : Bool :=
  let n := c.toNat
  (0x09 ≤ n && n ≤ 0x0D) || n = 0x20 || n = 0x85 || n = 0xA0 || n = 0x1680
    || (0x2000 ≤ n && n ≤ 0x200A) || n = 0x2028 || n = 0x2029 || n = 0x202F
    || n = 0x205F || n = 0x3000

namespace Text

def trimStart (text : Text) : Text := text.dropWhile isBlank

def trim (text : Text) : Text := dropAround isBlank text

def leadingBlanks (text : Text) : Text := text.takeWhile isBlank

/-- The blanks at the end that are not also blanks at the start. -/
def trailingBlanks (text : Text) : Text :=
  ((trimStart text).reverse.takeWhile isBlank).reverse

/-- The entries of a comma-separated list, trimmed, without the empty ones. -/
def listEntries (list : Text) : List Text :=
  ((splitOn ',' list).map trim).filter fun entry => !entry.isEmpty

/-- Cutting the blanks off both ends loses nothing. -/
theorem leadingBlanks_append_trim_append_trailingBlanks (text : Text) :
    leadingBlanks text ++ trim text ++ trailingBlanks text = text := by
  have tail : trim text ++ trailingBlanks text = trimStart text := by
    simp only [trim, dropAround, dropTrailing, trailingBlanks, trimStart]
    rw [← List.reverse_append, List.takeWhile_append_dropWhile, List.reverse_reverse]
  rw [List.append_assoc, tail, leadingBlanks, trimStart, List.takeWhile_append_dropWhile]

end Text

end MessageCatalog
