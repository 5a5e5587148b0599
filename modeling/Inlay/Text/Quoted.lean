import Inlay.Text.Width

/-! # Quoted text

    Text between double quotes with what cannot be seen written as an escape. -/

namespace Inlay.Text

def hexText (n : Nat) : String := String.ofList (Nat.toDigits 16 n)

/-- Blanks other than the space, separators, and characters without a meaning of their own. -/
def isBlankMark (n : Nat) : Bool :=
  n == 0xa0 || n == 0xad || n == 0x1680 || (0x2000 ≤ n && n ≤ 0x200f) || (0x2028 ≤ n && n ≤ 0x202f)
    || (0x205f ≤ n && n ≤ 0x206f) || n == 0x3000 || (0xe000 ≤ n && n ≤ 0xf8ff)
    || (0xfff0 ≤ n && n ≤ 0xfffb) || n == 0xfffe || n == 0xffff || 0xe0000 ≤ n

/-- Whether a character is written as itself. -/
def isShown (n : Nat) : Bool :=
  if n < 127 then 32 ≤ n
  else !(isBlankMark n || (unseen.contains n && !(0x1160 ≤ n && n ≤ 0x11ff)
    && !(0xd7b0 ≤ n && n ≤ 0xd7ff)))

def quotedChar (c : Char) : String :=
  if c == '"' then "\\\""
  else if c == '\\' then "\\\\"
  else if c == '\n' then "\\n"
  else if c == '\r' then "\\r"
  else if c == '\t' then "\\t"
  else if c.toNat == 0 then "\\0"
  else if isShown c.toNat then c.toString
  else "\\u\x7b" ++ hexText c.toNat ++ "\x7d"

def quoted (s : String) : String := "\"" ++ String.join (s.toList.map quotedChar) ++ "\""

end Inlay.Text
