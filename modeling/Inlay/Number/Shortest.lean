/-! # The shortest decimal of a binary number

    A finite binary number is `m · 2^q`.  The reals that round to it form an interval around it;
    among the decimals in that interval with the fewest digits the nearest one is its text.  The
    digits are produced one by one from exact fractions, so nothing is rounded on the way. -/

namespace Inlay.Number

/-- The value `±m · 2^q`. -/
structure Binary where
  isNegative : Bool
  m : Nat
  q : Int

/-- What the bits of a number mean. -/
inductive Class where
  | nan
  | infinite (isNegative : Bool)
  | finite (value : Binary)

def classify (x : Float) : Class :=
  let bits := x.toBits.toNat
  let isNegative := bits / Nat.pow 2 63 == 1
  let exponent : Nat := bits / Nat.pow 2 52 % Nat.pow 2 11
  let fraction : Nat := bits % Nat.pow 2 52
  if exponent == 2047 then if fraction == 0 then .infinite isNegative else .nan
  else if exponent == 0 then .finite ⟨isNegative, fraction, -1074⟩
  else .finite ⟨isNegative, fraction + Nat.pow 2 52, (exponent : Int) - 1075⟩

/-- A decimal `0.d₁d₂… · 10^point`. -/
structure Decimal where
  digits : List Nat
  point : Int

def digitCount (n : Nat) : Nat := (Nat.toDigits 10 n).length

/-- The nearest number to `m · 10^e`. -/
def scaled (m : Nat) (e : Int) : Float :=
  let size : Int := digitCount m
  if m == 0 then 0
  else if e + size > 310 then 1.0 / 0.0
  else if e + size < -330 then 0
  else if e ≥ 0 then Float.ofScientific m false e.toNat
  else Float.ofScientific m true (-e).toNat

/-- A fraction `r / s` with the distances to the ends of the interval around it, all over `s`. -/
structure Window where
  r : Nat
  s : Nat
  above : Nat
  below : Nat
  /-- Whether the ends belong to the interval. -/
  closed : Bool

namespace Window

def reachesOne (w : Window) : Bool :=
  if w.closed then w.r + w.above ≥ w.s else w.r + w.above > w.s

def shift (w : Window) : Window :=
  { w with r := w.r * 10, above := w.above * 10, below := w.below * 10 }

/-- Brings the upper end of the interval between a tenth and one, counting the places moved. -/
def normalize : Nat → Window → Int → Window × Int
  | 0, w, point => (w, point)
  | fuel + 1, w, point =>
      if w.reachesOne then normalize fuel { w with s := w.s * 10 } (point + 1)
      else if w.shift.reachesOne then (w, point)
      else normalize fuel w.shift (point - 1)

/-- The digits of a value below one, as few as stay inside the interval. -/
def digits : Nat → Window → List Nat
  | 0, _ => []
  | fuel + 1, w =>
      let w := w.shift
      let d := w.r / w.s
      let w := { w with r := w.r % w.s }
      let low := if w.closed then w.r ≤ w.below else w.r < w.below
      let high := w.reachesOne
      if low && high then if 2 * w.r < w.s then [d] else [d + 1]
      else if low then [d]
      else if high then [d + 1]
      else d :: digits fuel w

end Window

/-- The interval of reals that round to `m · 2^q`. -/
def window (m : Nat) (q : Int) : Window :=
  let closed := m % 2 == 0
  -- at a power of two the gap below is half as wide
  let wide := if m == Nat.pow 2 52 && q > -1074 then 2 else 1
  let up := Nat.pow 2 q.toNat
  let down := Nat.pow 2 (-q).toNat
  { r := 2 * wide * m * up, s := 2 * wide * down, above := wide * up, below := up, closed }

def shortest (b : Binary) : Decimal :=
  let w := window b.m b.q
  let guess : Int := if w.r ≥ w.s then digitCount (w.r / w.s)
    else 1 - (digitCount (w.s / w.r) : Int)
  let w := { w with
    s := w.s * Nat.pow 10 guess.toNat
    r := w.r * Nat.pow 10 (-guess).toNat
    above := w.above * Nat.pow 10 (-guess).toNat
    below := w.below * Nat.pow 10 (-guess).toNat }
  let (w, point) := w.normalize 4 guess
  ⟨w.digits 20, point⟩

/-- How a decimal is laid out. -/
structure Layout where
  /-- The largest number of places in front of the point without an exponent. -/
  maxPlaces : Int
  /-- The largest number of zeros right behind the point without an exponent. -/
  maxZeros : Int
  /-- What is written behind a whole number. -/
  whole : String
  /-- What stands in front of an exponent that is not negative. -/
  plus : String

def digitText (ds : List Nat) : String := String.ofList (ds.map Nat.digitChar)

def zeros (n : Int) : String := "".pushn '0' n.toNat

def Layout.write (l : Layout) (d : Decimal) : String :=
  let k : Int := d.digits.length
  let n := d.point
  if k ≤ n && n ≤ l.maxPlaces then digitText d.digits ++ zeros (n - k) ++ l.whole
  else if 0 < n && n ≤ l.maxPlaces then
    digitText (d.digits.take n.toNat) ++ "." ++ digitText (d.digits.drop n.toNat)
  else if -l.maxZeros ≤ n && n ≤ 0 then "0." ++ zeros (-n) ++ digitText d.digits
  else
    let e := n - 1
    let exponent := if e < 0 then "e-" ++ toString (-e) else "e" ++ l.plus ++ toString e
    match d.digits with
    | [d] => digitText [d] ++ exponent
    | d :: ds => digitText [d] ++ "." ++ digitText ds ++ exponent
    | [] => exponent

end Inlay.Number
