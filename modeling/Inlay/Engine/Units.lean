/-! # Text in 16-bit units

    Text of the engine is a sequence of 16-bit units.  A character of the basic plane is one unit,
    any other is a pair of surrogates; a surrogate may also stand alone. -/

namespace Inlay.Engine

/-- A sequence of 16-bit units. -/
structure Units where
  data : Array UInt16
  deriving DecidableEq, Inhabited

namespace Units

def empty : Units := ⟨#[]⟩

def size (s : Units) : Nat := s.data.size

def isEmpty (s : Units) : Bool := s.data.isEmpty

def pushChar (out : Array UInt16) (c : Char) : Array UInt16 :=
  let n := c.toNat
  if n < 0x10000 then out.push n.toUInt16
  else
    let n := n - 0x10000
    (out.push (0xd800 + n / 0x400).toUInt16).push (0xdc00 + n % 0x400).toUInt16

def ofChars (cs : List Char) : Units := ⟨cs.foldl pushChar #[]⟩

def ofString (s : String) : Units := ofChars s.toList

instance : Coe String Units := ⟨ofString⟩

def isHigh (u : UInt16) : Bool := 0xd800 ≤ u && u ≤ 0xdbff

def isLow (u : UInt16) : Bool := 0xdc00 ≤ u && u ≤ 0xdfff

def pair (high low : UInt16) : Nat :=
  (high.toNat - 0xd800) * 0x400 + (low.toNat - 0xdc00) + 0x10000

/-- The code points of a text; a surrogate that stands alone is one. -/
def codePoints (s : Units) : List Nat := go s.data.toList
where
  go : List UInt16 → List Nat
  | h :: l :: rest => if isHigh h && isLow l then pair h l :: go rest else h.toNat :: go (l :: rest)
  | [u] => [u.toNat]
  | [] => []

def ofCodePoint (n : Nat) : Units :=
  if n < 0x10000 then ⟨#[n.toUInt16]⟩
  else ⟨#[(0xd800 + (n - 0x10000) / 0x400).toUInt16, (0xdc00 + (n - 0x10000) % 0x400).toUInt16]⟩

def isSurrogate (n : Nat) : Bool := 0xd800 ≤ n && n ≤ 0xdfff

def hex4 (n : Nat) : String :=
  let ds := Nat.toDigits 16 n
  String.ofList (List.replicate (4 - ds.length) '0' ++ ds)

/-- The text as a string of characters; a surrogate that stands alone is written as an escape. -/
def text (s : Units) : String :=
  s.codePoints.foldl (fun out n =>
    if isSurrogate n then out ++ "\\u" ++ (hex4 n).toUpper else out.push (Char.ofNat n)) ""

def append (a b : Units) : Units := ⟨a.data ++ b.data⟩

instance : Append Units := ⟨append⟩

def join (parts : List Units) (sep : Units := empty) : Units :=
  match parts with
  | [] => empty
  | p :: ps => ⟨ps.foldl (fun out q => out ++ sep.data ++ q.data) p.data⟩

def get? (s : Units) (i : Nat) : Option UInt16 := s.data[i]?

/-- The units from `start` up to `stop`. -/
def extract (s : Units) (start stop : Nat) : Units := ⟨s.data.extract start stop⟩

def drop (s : Units) (n : Nat) : Units := s.extract n s.size

/-- Whether `pat` stands in `s` at `i`. -/
def matchesAt (s pat : Units) (i : Nat) : Bool :=
  i + pat.size ≤ s.size && (List.range pat.size).all fun k => s.data[i + k]? == pat.data[k]?

/-- The first place from `start` on at which `pat` stands. -/
def find? (s pat : Units) (start : Nat) : Option Nat :=
  if start + pat.size > s.size then none
  else (List.range' start (s.size - pat.size - start + 1)).find? (s.matchesAt pat ·)

/-- The last place up to `start` at which `pat` stands. -/
def findLast? (s pat : Units) (start : Nat) : Option Nat :=
  if pat.size > s.size then none
  else
    let top := min start (s.size - pat.size)
    (List.range (top + 1)).reverse.find? (s.matchesAt pat ·)

def compareFrom (a b : Units) : Nat → Nat → Ordering
  | 0, _ => .eq
  | fuel + 1, i =>
      match a.data[i]?, b.data[i]? with
      | none, none => .eq
      | none, some _ => .lt
      | some _, none => .gt
      | some x, some y => if x < y then .lt else if y < x then .gt else compareFrom a b fuel (i + 1)

def compare (a b : Units) : Ordering := compareFrom a b (min a.size b.size + 1) 0

def isBlank (u : UInt16) : Bool :=
  (9 ≤ u && u ≤ 13) || u == 0x20 || u == 0xa0 || u == 0x1680 || (0x2000 ≤ u && u ≤ 0x200a)
    || u == 0x2028 || u == 0x2029 || u == 0x202f || u == 0x205f || u == 0x3000 || u == 0xfeff

def trimStart (s : Units) : Units := ⟨(s.data.toList.dropWhile isBlank).toArray⟩

def trimEnd (s : Units) : Units := ⟨(s.data.toList.reverse.dropWhile isBlank).reverse.toArray⟩

def trim (s : Units) : Units := s.trimStart.trimEnd

def replicate (s : Units) (n : Nat) : Units := ⟨(List.replicate n s.data).foldl (· ++ ·) #[]⟩

/-- The number a text stands for as an index: digits without a leading zero. -/
def index? (s : Units) : Option Nat :=
  match s.data.toList with
  | [] => none
  | [u] => if 48 ≤ u && u ≤ 57 then some (u.toNat - 48) else none
  | u :: us =>
      if 49 ≤ u && u ≤ 57 && us.all (fun u => 48 ≤ u && u ≤ 57) && us.length < 16 then
        some (us.foldl (fun n u => 10 * n + (u.toNat - 48)) (u.toNat - 48))
      else none

def ofNat (n : Nat) : Units := ofString (toString n)

end Units

end Inlay.Engine
