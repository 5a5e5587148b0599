/-! # Blanks at the ends of a text -/

namespace Inlay.Text

/-- Blanks and line ends, as they are cut off at the ends of a text. -/
def isBlankEdge (c : Char) : Bool :=
  let n := c.toNat
  (9 ≤ n && n ≤ 13) || n == 0x20 || n == 0x85 || n == 0xa0 || n == 0x1680
    || (0x2000 ≤ n && n ≤ 0x200a) || n == 0x2028 || n == 0x2029 || n == 0x202f || n == 0x205f
    || n == 0x3000

def trimmed (s : String) : String :=
  String.ofList (((s.toList.dropWhile isBlankEdge).reverse.dropWhile isBlankEdge).reverse)

end Inlay.Text
