import Inlay.Text.Property

/-! # Characters of identifiers

    Which characters may start a name and which may continue it: the letters, `$` and `_`, and the
    characters that the Unicode identifier properties add beyond the first 128. -/

namespace Inlay.Text

/-- Characters that have the identifier properties only in later versions of Unicode. -/
def newWordChars : Ranges := .ofText
  "exNsHdtaL+CbgA+CevN+QC+bOE+EO+JhxER+VbvhLbJrjC+FkC+cJbIbpX+bPdbqEtzB+xXnzV+gfF"

def wordStarts : Ranges := ((property? "ID_Start" none).getD .empty).minus newWordChars

def wordParts : Ranges := ((property? "ID_Continue" none).getD .empty).minus newWordChars

def isWordStart (c : Char) : Bool :=
  c.isAlpha || c == '$' || c == '_' || (c.toNat > 127 && wordStarts.contains c.toNat)

def isWordPart (c : Char) : Bool :=
  c.isAlphanum || c == '$' || c == '_' || (c.toNat > 127 && wordParts.contains c.toNat)

/-- Line terminators: line feed, carriage return, line separator, paragraph separator. -/
def isLineEnd (c : Char) : Bool :=
  c == '\n' || c == '\r' || c.toNat == 0x2028 || c.toNat == 0x2029

def isBlank (c : Char) : Bool :=
  let n := c.toNat
  n == 9 || n == 11 || n == 12 || n == 32 || n == 0xa0 || n == 0x1680 ||
    (0x2000 ≤ n && n ≤ 0x200a) || n == 0x202f || n == 0x205f || n == 0x3000 || n == 0xfeff

def isDigit (c : Char) : Bool := '0' ≤ c && c ≤ '9'

def isHex (c : Char) : Bool := (hexDigit? c).isSome

end Inlay.Text
