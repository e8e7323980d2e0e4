import CiClient.Text.Unicode.Category
/-!
# Character classes

The classes of the Unicode Character Database that names, trimming and quoting depend on:
control characters (general category Cc), the White_Space property, and the characters a
quoted rendering writes as an escape (grapheme extenders and characters without a glyph).

`trim` removes White_Space from both ends, the Unicode notion of blank that a name check uses.
-/

namespace CiClient.Text.Unicode

/-- General category Cc: U+0000 to U+001F and U+007F to U+009F. -/
def isControl (c : Char) : Bool :=
  c.toNat < 0x20 || (0x7F ≤ c.toNat && c.toNat ≤ 0x9F)

/-- The White_Space property. -/
def isWhiteSpace (c : Char) : Bool :=
  let n := c.toNat
  (0x09 ≤ n && n ≤ 0x0D) || n == 0x20 || n == 0x85 || n == 0xA0 || n == 0x1680 ||
    (0x2000 ≤ n && n ≤ 0x200A) || n == 0x2028 || n == 0x2029 || n == 0x202F ||
    n == 0x205F || n == 0x3000

/-- A text without White_Space at either end. -/
def trim (s : String) : String :=
  String.ofList ((s.toList.dropWhile isWhiteSpace).reverse.dropWhile isWhiteSpace).reverse

/-- A character that a quoted rendering writes as a `\u{..}` escape: one that extends the
grapheme before it, or one without a glyph of its own. -/
def needsEscape (c : Char) : Bool :=
  isGraphemeExtend c || isUnprintable c

end CiClient.Text.Unicode
