import Inlay.Engine.Units
import Inlay.Number.Shortest

/-! # Numbers of the engine

    Text of numbers in any base, numbers read from text, and the integer views of a number. -/

namespace Inlay.Engine

open Inlay.Number

/-- Numbers are written in full up to twenty-one places, with an exponent beyond. -/
def numberLayout : Layout := { maxPlaces := 21, maxZeros := 5, whole := "", plus := "+" }

def numberText (x : Float) : String :=
  match classify x with
  | .nan => "NaN"
  | .infinite n => if n then "-Infinity" else "Infinity"
  | .finite b =>
      if b.m == 0 then "0"
      else (if b.isNegative then "-" else "") ++ numberLayout.write (shortest b)

def numberUnits (x : Float) : Units := .ofString (numberText x)

def nan : Float := 0.0 / 0.0

def infinity : Float := 1.0 / 0.0

def isNegative (x : Float) : Bool := x.toBits ≥ 0x8000000000000000

def ofInt (n : Int) : Float :=
  let size := n.natAbs.log2
  if size > 1100 then (if n < 0 then -infinity else infinity)
  else if n < 0 then -(Float.ofNat n.natAbs) else Float.ofNat n.natAbs

/-- The integer part of a finite number, towards zero. -/
def truncated (x : Float) : Int :=
  match classify x with
  | .finite b =>
      let n : Int := if b.q ≥ 0 then b.m * Nat.pow 2 b.q.toNat else b.m / Nat.pow 2 (-b.q).toNat
      if b.isNegative then -n else n
  | _ => 0

def isWhole (x : Float) : Bool := x.isFinite && x.floor == x

/-- The integer part, modulo a power of two, as a natural number. -/
def wrapped (x : Float) (bits : Nat) : Nat := (truncated x % (Nat.pow 2 bits : Int)).toNat

/-- The number without its fraction; not a number becomes zero. -/
def toInteger (x : Float) : Float :=
  if x.isNaN then 0
  else if x.isInf then x
  else
    let t := if x < 0 then x.ceil else x.floor
    if t == 0 then 0 else t

def remainder (x y : Float) : Float :=
  match classify x, classify y with
  | .finite a, .finite b =>
      if b.m == 0 then nan
      else if a.m == 0 then x
      else
        let q := min a.q b.q
        let r := (a.m * Nat.pow 2 (a.q - q).toNat) % (b.m * Nat.pow 2 (b.q - q).toNat)
        let v := if q ≥ 0 then Float.ofNat (r * Nat.pow 2 q.toNat) else (Float.ofNat r).scaleB q
        if a.isNegative then -v else v
  | .finite _, .infinite _ => x
  | _, _ => nan

/-- Powers; a base of absolute value one has none to an infinite exponent. -/
def power (x y : Float) : Float := if x.abs == 1 && y.isInf then nan else Float.pow x y

/-! ## Exact and inexact numbers

    Whole numbers of thirty-two bits are kept as integers, on which the operations are exact; all
    other numbers are binary floating point numbers.  A whole number may have either form: a result
    of integers that overflows, and every result of a function on floating point numbers, has the
    second. -/

/-- A number. -/
inductive Num where
  /-- A whole number of thirty-two bits; zero is positive. -/
  | int (i : Int)
  | real (x : Float)
  deriving Inhabited

namespace Num

/-- Whether an integer has thirty-two bits with its sign. -/
def fits (i : Int) : Bool := -(Nat.pow 2 31) ≤ i && i < Nat.pow 2 31

def toFloat : Num → Float
  | int i => if i < 0 then -(Float.ofNat i.natAbs) else Float.ofNat i.natAbs
  | real x => x

/-- An integer as a number, rounded to the nearest if it is large. -/
def ofInt (i : Int) : Num := if fits i then int i else real (Engine.ofInt i)

def ofNat (n : Nat) : Num := ofInt n

def nan : Num := real Engine.nan

instance : Coe Nat Num := ⟨ofNat⟩

def zero : Num := int 0

def isNaN : Num → Bool
  | int _ => false
  | real x => x.isNaN

def isFinite : Num → Bool
  | int _ => true
  | real x => x.isFinite

def isZero : Num → Bool
  | int i => i == 0
  | real x => x == 0

def inexact (n : Num) : Num := real n.toFloat

def ofLiteral (x : Float) : Num :=
  if x.abs < 2147483648.0 && x.floor == x && !(x == 0 && isNegative x) then
    int (if x < 0 then -(Int.ofNat (-x).toUInt64.toNat) else Int.ofNat x.toUInt64.toNat)
  else real x

def eq : Num → Num → Bool
  | int a, int b => a == b
  | a, b => a.toFloat == b.toFloat

def lt : Num → Num → Bool
  | int a, int b => a < b
  | a, b => a.toFloat < b.toFloat

def isMinusZero : Num → Bool
  | int _ => false
  | real x => x == 0 && isNegative x

/-- Equality that tells the zeros apart and takes all that are not numbers for one. -/
def same (a b : Num) : Bool :=
  (a.isNaN && b.isNaN) || (a.eq b && a.isMinusZero == b.isMinusZero)

/-- Equality that takes all that are not numbers for one. -/
def sameZero (a b : Num) : Bool := (a.isNaN && b.isNaN) || a.eq b

/-- The opposite of a number that is written out: an integer stays one. -/
def negLiteral : Num → Num
  | int i => if i == 0 then real (-0.0) else ofInt (-i)
  | real x => real (-x)

def neg (n : Num) : Num := real (-n.toFloat)

def add : Num → Num → Num
  | int a, int b => ofInt (a + b)
  | a, b => real (a.toFloat + b.toFloat)

def sub : Num → Num → Num
  | int a, int b => ofInt (a - b)
  | a, b => real (a.toFloat - b.toFloat)

/-- Products; a product of integers that is zero has no sign. -/
def mul : Num → Num → Num
  | int a, int b =>
      let p := a * b
      if fits p then int p else real ((int a).toFloat * (int b).toFloat)
  | a, b => real (a.toFloat * b.toFloat)

/-- Quotients; a quotient of integers that is zero has no sign. -/
def div : Num → Num → Num
  | int a, int b =>
      if b != 0 && a % b == 0 && fits (a / b) then int (a / b)
      else real ((int a).toFloat / (int b).toFloat)
  | a, b => real (a.toFloat / b.toFloat)

def rem : Num → Num → Num
  | int a, int b =>
      if b == 0 then nan
      else
        let r := a.tmod b
        if r == 0 && a < 0 then real (-0.0) else int r
  | a, b => real (remainder a.toFloat b.toFloat)

/-- A power by repeated squaring; `r` holds what has been multiplied. -/
def squaring (r a : Float) : Nat → Nat → Float
  | 0, _ => r
  | fuel + 1, b =>
      let r := if b % 2 == 1 then r * a else r
      if b / 2 == 0 then r else squaring r (a * a) fuel (b / 2)

/-- A power to an integer, rounded at each multiplication. -/
def wholePower (x : Float) (n : Int) : Float :=
  let r := squaring 1.0 x 32 n.natAbs
  if n < 0 then 1.0 / r else r

def exactPower? (a b : Int) : Option Int :=
  if b < 0 then none
  else if b == 0 then some 1
  else if a.natAbs ≤ 1 then some (if b % 2 == 0 then a * a else a)
  else if b ≤ 31 && fits (Int.pow a b.toNat) then some (Int.pow a b.toNat)
  else none

def pow : Num → Num → Num
  | int a, int b => match exactPower? a b with
      | some p => int p
      | none => real (wholePower (int a).toFloat b)
  | real x, int b => real (wholePower x b)
  | a, real y => real (power a.toFloat y)

/-- The integer part modulo a power of two. -/
def wrapped (n : Num) (bits : Nat) : Nat :=
  match n with
  | int i => (i % (Nat.pow 2 bits : Int)).toNat
  | real x => Engine.wrapped x bits

def toSigned (n : Num) (bits : Nat) : Int :=
  let w := n.wrapped bits
  if w ≥ Nat.pow 2 (bits - 1) then (w : Int) - Nat.pow 2 bits else w

def toInt32 (n : Num) : Int := n.toSigned 32

def toUInt32 (n : Num) : Nat := n.wrapped 32

/-- The number without its fraction; not a number becomes zero, zero is positive. -/
def toInteger : Num → Num
  | int i => int i
  | real x => real (Engine.toInteger x)

/-- A size that stands for infinity where integers are compared. -/
def huge : Int := Nat.pow 10 30

/-- The integer part, with infinities replaced by huge integers. -/
def clamped : Num → Int
  | int i => i
  | real x =>
      if x.isNaN then 0
      else if x.isInf then (if x < 0 then -huge else huge)
      else truncated x

def toInt? : Num → Option Int
  | int i => some i
  | real x => if isWhole x then some (truncated x) else none

def text : Num → String
  | int i => toString i
  | real x => numberText x

def toUnits (n : Num) : Units := .ofString n.text

end Num

/-! ## Numbers in other bases -/

def digitChar (d : Nat) : Char := if d < 10 then Char.ofNat (48 + d) else Char.ofNat (87 + d)

def digitsIn (base : Nat) : Nat → Nat → List Char → List Char
  | 0, _, out => out
  | fuel + 1, n, out =>
      let out := digitChar (n % base) :: out
      if n / base == 0 then out else digitsIn base fuel (n / base) out

def natText (base n : Nat) : String := String.ofList (digitsIn base (n.log2 + 1) n [])

/-- The whole number of a float below `2^53`. -/
def floorNat (x : Float) : Nat := x.toUInt64.toNat

/-- Adds one to the last of some digits, the last one first.  Digits that overflow vanish; nothing
    left means that the one is carried out of the fraction. -/
def roundUp (base : Nat) : List Nat → List Nat
  | [] => []
  | d :: ds => if d + 1 < base then (d + 1) :: ds else roundUp base ds

/-- The digits of a fraction in a base, the last one first: as many as tell it from its neighbours,
    which are `delta` apart.  The flag tells that a one is carried out of the fraction. -/
def fractionIn (base : Nat) : Nat → Float → Float → List Nat → List Nat × Bool
  | 0, _, _, out => (out, false)
  | fuel + 1, fraction, delta, out =>
      let fraction := fraction * Float.ofNat base
      let delta := delta * Float.ofNat base
      let d := floorNat fraction
      let fraction := fraction - Float.ofNat d
      let out := d :: out
      let isUpper := fraction > 0.5 || ((fraction - 0.5).abs < 2.220446049250313e-16 && d % 2 == 1)
      if fraction + delta > 1 && isUpper then
        let up := roundUp base out
        (up, up.isEmpty)
      else if fraction < delta then (out, false)
      else fractionIn base fuel fraction delta out

/-- The digits of a whole number in a base; places beyond its precision are zeros. -/
def wholeIn (base : Nat) : Nat → Float → List Char → List Char
  | 0, _, out => out
  | fuel + 1, x, out =>
      let b := Float.ofNat base
      if x / b ≥ 9007199254740992.0 then wholeIn base fuel (x / b) ('0' :: out)
      else
        let r := remainder x b
        let out := digitChar (floorNat r) :: out
        let x := (x - r) / b
        if x > 0 then wholeIn base fuel x out else out

def nextUp (x : Float) : Float := Float.ofBits (x.toBits + 1)

def radixText (x : Float) (base : Nat) : String :=
  if x.isNaN then "NaN"
  else if x.isInf then if x < 0 then "-Infinity" else "Infinity"
  else if x == 0 then "0"
  else
    let sign := if x < 0 then "-" else ""
    let v := x.abs
    let whole := v.floor
    let fraction := v - whole
    let gap := 0.5 * (nextUp v - v)
    let delta := if gap > 0 then gap else nextUp 0
    let (ds, isCarried) :=
      if fraction ≥ delta then fractionIn base 1100 fraction delta [] else ([], false)
    let whole := if isCarried then whole + 1 else whole
    let text := sign ++ String.ofList (wholeIn base 1100 whole [])
    if ds.isEmpty then text else text ++ "." ++ String.ofList (ds.reverse.map digitChar)

/-! ## Fixed numbers of digits -/

/-- The quotient rounded to nearest, halves to the even neighbour. -/
def roundDiv (n d : Nat) : Nat :=
  let q := n / d
  let r := n % d
  if 2 * r > d || (2 * r == d && q % 2 == 1) then q + 1 else q

/-- `b · 10^places` rounded to nearest. -/
def scaledDigits (b : Binary) (places : Int) : Nat :=
  let n := b.m * Nat.pow 2 b.q.toNat * Nat.pow 10 places.toNat
  let d := Nat.pow 2 (-b.q).toNat * Nat.pow 10 (-places).toNat
  roundDiv n d

def padLeft (s : String) (n : Nat) : String := "".pushn '0' (n - s.length) ++ s

/-- Puts a point in front of the last `places` digits. -/
def withPoint (n places : Nat) : String :=
  if places == 0 then toString n
  else
    let s := padLeft (toString n) (places + 1)
    let k := s.length - places
    (s.take k).toString ++ "." ++ (s.drop k).toString

def fixedText (x : Float) (places : Nat) : String :=
  match classify x with
  | .finite b =>
      let body := withPoint (scaledDigits b places) places
      if b.isNegative && b.m != 0 then "-" ++ body else body
  | _ => numberText x

/-- The position of the leading digit: `10^e ≤ value < 10^(e+1)`. -/
def leadingExponent (b : Binary) : Int :=
  let d := shortest b
  -- the shortest decimal may round up to the next power of ten
  let e := d.point - 1
  let reaches (e : Int) : Bool :=
    b.m * Nat.pow 2 b.q.toNat * Nat.pow 10 (-e).toNat ≥ Nat.pow 2 (-b.q).toNat * Nat.pow 10 e.toNat
  if reaches e then e else e - 1

/-- `digits` leading digits and the exponent of the first. -/
def leadingDigits (b : Binary) (digits : Nat) : String × Int :=
  let e := leadingExponent b
  let n := scaledDigits b ((digits : Int) - 1 - e)
  let s := toString n
  if s.length > digits then ((s.take digits).toString, e + 1) else (s, e)

def exponentText (e : Int) : String := if e < 0 then "e-" ++ toString (-e) else "e+" ++ toString e

def mantissaText (ds : String) : String :=
  if ds.length ≤ 1 then ds else (ds.take 1).toString ++ "." ++ (ds.drop 1).toString

/-- The number with an exponent and `places` digits behind the point, or as many as needed. -/
def exponentialText (x : Float) (places : Option Nat) : String :=
  match classify x with
  | .finite b =>
      let sign := if b.isNegative && b.m != 0 then "-" else ""
      let (ds, e) :=
        if b.m == 0 then ("".pushn '0' (places.getD 0 + 1), (0 : Int))
        else match places with
          | some p => leadingDigits b (p + 1)
          | none =>
              let d := shortest b
              (digitText d.digits, d.point - 1)
      sign ++ mantissaText ds ++ exponentText e
  | _ => numberText x

/-- The power of ten of the first digit of a positive decimal that is written out; for nothing but
    zeros, that of the character in front. -/
def writtenExponent (s : List Char) : Int :=
  let whole := s.takeWhile (· != '.')
  if whole.any (· != '0') then (whole.length : Int) - 1
  else
    let zeros := (s.drop (whole.length + 1)).takeWhile (· == '0')
    if whole.length + 1 + zeros.length ≥ s.length then (s.length : Int) - 1
    else -(zeros.length : Int) - 1

/-- Cuts digits at a length, a five upwards; the flag tells that the result has one place more. -/
def roundDigits (ds : List Nat) (n : Nat) : List Nat × Bool :=
  if ds.length ≤ n then (ds ++ List.replicate (n - ds.length) 0, false)
  else
    let kept := ds.take n
    if (ds[n]?).getD 0 < 5 then (kept, false)
    else
      let up := (roundUp 10 kept.reverse).reverse
      if up.isEmpty then (1 :: List.replicate (n - 1) 0, true)
      else (up ++ List.replicate (n - up.length) 0, false)

/-- The number with `digits` significant digits, taken from its hundred places. -/
def precisionText (x : Float) (digits : Nat) : String :=
  let sign := if x < 0 then "-" else ""
  let (ds, e) : List Nat × Int :=
    if x == 0 then (List.replicate digits 0, 0)
    else
      let written := (fixedText x.abs 100).toList
      let e := writtenExponent written
      let digitsOf := if e < 0 then written.drop (1 - e).toNat else written.filter (· != '.')
      let (ds, isLonger) := roundDigits (digitsOf.map fun c => c.toNat - 48) digits
      (ds, if isLonger then e + 1 else e)
  let text := String.ofList (ds.map digitChar)
  if x != 0 && (e < -6 || e ≥ (digits : Int)) then
    sign ++ mantissaText text ++ (if e ≥ (digits : Int) then "e+" else "e") ++ toString e
  else if e + 1 == (digits : Int) then sign ++ text
  else if e ≥ 0 then
    let k := e.toNat + 1
    sign ++ (text.take k).toString ++ "." ++ (text.drop k).toString
  else sign ++ "0." ++ "".pushn '0' (-(e + 1)).toNat ++ text

/-- Decimals without an exponent, however long. -/
def plainLayout : Layout := { maxPlaces := 400, maxZeros := 400, whole := "", plus := "" }

/-- The text of a number without an exponent; zero keeps its sign. -/
def plainText (x : Float) : String :=
  match classify x with
  | .nan => "NaN"
  | .infinite n => if n then "-inf" else "inf"
  | .finite b =>
      (if b.isNegative then "-" else "")
        ++ (if b.m == 0 then "0" else plainLayout.write (shortest b))

/-! ## Numbers from text -/

def unitDigit? (base : Nat) (u : UInt16) : Option Nat :=
  let n := u.toNat
  let d :=
    if 48 ≤ n && n ≤ 57 then n - 48
    else if 97 ≤ n && n ≤ 122 then n - 87
    else if 65 ≤ n && n ≤ 90 then n - 55
    else 99
  if d < base then some d else none

/-- Digits at the front in a base: their number, how many there are, and what follows. -/
def takeDigits (base : Nat) : List UInt16 → Nat → Nat → Nat × Nat × List UInt16
  | u :: us, n, count =>
      match unitDigit? base u with
      | some d => takeDigits base us (base * n + d) (count + 1)
      | none => (n, count, u :: us)
  | [], n, count => (n, count, [])

/-- A decimal number at the front of a text without sign, and what follows it. -/
def takeDecimal (us : List UInt16) : Option (Float × List UInt16) :=
  let inf := "Infinity".toList.map (·.toNat.toUInt16)
  if us.take 8 == inf then some (infinity, us.drop 8)
  else
    let (whole, wholeCount, rest) := takeDigits 10 us 0 0
    let (m, fractionCount, rest) := match rest with
      | 46 :: after =>
          let (m, n, r) := takeDigits 10 after whole 0
          if wholeCount + n == 0 then (whole, 0, rest) else (m, n, r)
      | _ => (whole, 0, rest)
    if wholeCount + fractionCount == 0 then none
    else
      let (e, rest) : Int × List UInt16 := match rest with
        | mark :: after =>
            if mark == 101 || mark == 69 then
              let (isNeg, after') := match after with
                | 45 :: r => (true, r)
                | 43 :: r => (false, r)
                | r => (false, r)
              let (e, n, r) := takeDigits 10 after' 0 0
              if n == 0 then (0, rest)
              else
                let e : Int := min e 100000
                (if isNeg then -e else e, r)
            else (0, rest)
        | [] => (0, rest)
      some (scaled m (e - fractionCount), rest)

def roundedDigits (base : Nat) (ds : List UInt16) : Float :=
  ds.foldl (fun x u => match unitDigit? base u with
    | some d => Float.ofNat ((truncated x).toNat * base + d)
    | none => x) 0

/-- Digits behind a mark of their base; small numbers may have a plus. -/
def parseRadix (base : Nat) (ds : List UInt16) : Float :=
  let small := match ds with
    | 43 :: r => r
    | r => r
  let (n, count, rest) := takeDigits base small 0 0
  if count > 0 && rest.isEmpty && n < Nat.pow 2 32 then Float.ofNat n
  else if ds.isEmpty || ds.any (fun u => (unitDigit? base u).isNone) then nan
  else roundedDigits base ds

/-- The number a whole text stands for; not a number if it stands for none. -/
def parseNumber (s : Units) : Float :=
  let us := s.trim.data.toList
  let isWord (us : List UInt16) : Bool :=
    let lower := us.map fun u => if 65 ≤ u && u ≤ 90 then u + 32 else u
    lower == "inf".toList.map (·.toNat.toUInt16)
      || lower == "infinity".toList.map (·.toNat.toUInt16)
  let signed (us : List UInt16) : Float :=
    match takeDecimal us with
    | some (x, []) => x
    | _ => nan
  match us with
  | [] => 0
  | 48 :: x :: ds =>
      if x == 120 || x == 88 then parseRadix 16 ds
      else if x == 111 || x == 79 then parseRadix 8 ds
      else if x == 98 || x == 66 then parseRadix 2 ds
      else signed us
  | 45 :: rest => if isWord rest then -infinity else -(signed rest)
  | 43 :: rest => if isWord rest then infinity else signed rest
  | us => signed us

def parseBigInt (s : Units) : Option Int :=
  let us := s.trim.data.toList
  let all (base : Nat) (ds : List UInt16) : Option Nat :=
    let (n, count, rest) := takeDigits base ds 0 0
    if count == 0 || !rest.isEmpty then none else some n
  match us with
  | [] => some 0
  | 48 :: x :: ds =>
      if x == 120 || x == 88 then (all 16 ds).map Int.ofNat
      else if x == 111 || x == 79 then (all 8 ds).map Int.ofNat
      else if x == 98 || x == 66 then (all 2 ds).map Int.ofNat
      else (all 10 us).map Int.ofNat
  | 45 :: rest => (all 10 rest).map fun n => -(n : Int)
  | 43 :: rest => (all 10 rest).map Int.ofNat
  | us => (all 10 us).map Int.ofNat

end Inlay.Engine
