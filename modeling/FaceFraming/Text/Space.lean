/-!
# White space

The characters Unicode counts as white space (the `White_Space` property): the ASCII tab, line
feed, vertical tab, form feed, carriage return and space, the next-line and no-break spaces, the
Ogham space mark, the typographic spaces U+2000 to U+200A, the line and paragraph separators, the
narrow no-break space, the medium mathematical space and the ideographic space. `trimSpace` removes
them from both ends of a text.
-/

namespace FaceFraming.Text

/-- Whether a character is white space. -/
def isSpace (c : Char) : Bool :=
  let n := c.toNat
  (9 ≤ n ∧ n ≤ 13) || n = 32 || n = 0x85 || n = 0xA0 || n = 0x1680 ||
    (0x2000 ≤ n ∧ n ≤ 0x200A) || n = 0x2028 || n = 0x2029 || n = 0x202F || n = 0x205F ||
    n = 0x3000

/-- The text without white space at either end. -/
def trimSpace (s : String) : String :=
  String.ofList ((s.toList.dropWhile isSpace).reverse.dropWhile isSpace).reverse

end FaceFraming.Text
