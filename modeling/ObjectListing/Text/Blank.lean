import ObjectListing.Text.Basic

/-!
Blanks: the characters with the property White_Space, which size and age clauses ignore anywhere and
URIs ignore at both ends.
-/

namespace ObjectListing

/-- The characters with the property White_Space. -/
def isBlank (c : Char) : Bool :=
  let n := c.toNat
  (9 ≤ n && n ≤ 13) || n == 0x20 || n == 0x85 || n == 0xa0 || n == 0x1680 ||
    (0x2000 ≤ n && n ≤ 0x200a) || n == 0x2028 || n == 0x2029 || n == 0x202f || n == 0x205f ||
    n == 0x3000

namespace Text

/-- A text without its blanks. -/
def stripped (t : Text) : Text := t.filter fun c => !isBlank c

/-- A text without the blanks at its end. -/
def trimmedEnd (t : Text) : Text := (t.reverse.dropWhile isBlank).reverse

/-- A text without the blanks at either end. -/
def trimmed (t : Text) : Text := trimmedEnd (t.dropWhile isBlank)

end Text

end ObjectListing
