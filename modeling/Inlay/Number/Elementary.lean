/-! # Elementary functions near their zeros

    The exponential less one, the logarithm of one more, the length of a vector, and the inverse
    hyperbolic tangent.  Each keeps its relative precision where the plain formula
    would cancel or overflow: arguments are reduced by multiples of `ln 2` held in two parts, and a
    short polynomial covers the rest. -/

namespace Inlay.Number

def highWord (x : Float) : UInt32 := (x.toBits >>> 32).toUInt32

/-- The number with its upper half of bits replaced. -/
def withHighWord (x : Float) (w : UInt32) : Float :=
  Float.ofBits ((w.toUInt64 <<< 32) ||| (x.toBits &&& 0xffffffff))

/-- `ln 2` in two parts; the first has so few digits that its multiples are exact. -/
def ln2High : Float := Float.ofBits 0x3fe62e42fee00000
def ln2Low : Float := Float.ofBits 0x3dea39ef35793c76

/-- `1 / ln 2`. -/
def perLn2 : Float := Float.ofBits 0x3ff71547652b82fe

/-! ## The exponential less one -/

/-- `r` of the reduced argument, a polynomial in half its square. -/
def expm1Poly (hxs : Float) : Float :=
  let r1 := 1.0 + hxs * Float.ofBits 0xbfa11111111110f4
  let h2 := hxs * hxs
  let r2 := Float.ofBits 0x3f5a01a019fe5585 + hxs * Float.ofBits 0xbf14ce199eaadbb7
  let h4 := h2 * h2
  let r3 := Float.ofBits 0x3ed0cfca86e65239 + hxs * Float.ofBits 0xbe8afdb76e09c32d
  r1 + h2 * r2 + h4 * r3

/-- The argument less `k · ln 2`, the part lost in that difference, and `k`. -/
def reduceExp (x : Float) : Float × Float × Int :=
  let size := highWord x.abs
  let reduced (high low : Float) (k : Int) : Float × Float × Int :=
    let y := high - low
    (y, (high - y) - low, k)
  if size ≤ 0x3fd62e42 then (x, 0, 0)
  else if size < 0x3ff0a2b2 then
    if x > 0 then reduced (x - ln2High) ln2Low 1 else reduced (x + ln2High) (-ln2Low) (-1)
  else
    let t := perLn2 * x + (if x > 0 then 0.5 else -0.5)
    let t := if t < 0 then t.ceil else t.floor
    reduced (x - t * ln2High) (t * ln2Low) t.toInt32.toInt

/-- The number with `k` added to its exponent. -/
def addExponent (y : Float) (k : Int) : Float :=
  withHighWord y (highWord y + (UInt32.ofInt k <<< 20))

/-- `e^x - 1`. -/
def expm1 (x : Float) : Float :=
  if x.isNaN then x
  else if x > 7.09782712893383973096e+02 then 1.0 / 0.0
  else if x < 0 && highWord x.abs ≥ 0x4043687a then -1.0
  else if highWord x.abs < 0x3c900000 then x
  else
    let (x, c, k) := reduceExp x
    let hfx := 0.5 * x
    let hxs := x * hfx
    let r1 := expm1Poly hxs
    let t := 3.0 - r1 * hfx
    let e := hxs * ((r1 - t) / (6.0 - x * t))
    if k == 0 then x - (x * e - hxs)
    else
      let e := (x * (e - c) - c) - hxs
      if k == -1 then 0.5 * (x - e) - 0.5
      else if k == 1 then
        if x < -0.25 then -2.0 * (e - (x + 0.5)) else 1.0 + 2.0 * (x - e)
      else if k ≤ -2 || k > 56 then addExponent (1.0 - (e - x)) k - 1.0
      else if k < 20 then
        let t := withHighWord 1.0 (0x3ff00000 - ((0x200000 : UInt32) >>> k.toNat.toUInt32))
        addExponent (t - (e - x)) k
      else
        let t := withHighWord 1.0 ((0x3ff - k.toNat.toUInt32) <<< 20)
        addExponent (x - (e + t) + 1.0) k

/-! ## The logarithm of one more -/

/-- The series of the logarithm in the square of `f / (2 + f)`. -/
def log1pPoly (z : Float) : Float :=
  let r1 := z * Float.ofBits 0x3fe5555555555593
  let z2 := z * z
  let r2 := Float.ofBits 0x3fd999999997fa04 + z * Float.ofBits 0x3fd2492494229359
  let z4 := z2 * z2
  let r3 := Float.ofBits 0x3fcc71c51d8e78af + z * Float.ofBits 0x3fc7466496cb03de
  let z6 := z4 * z2
  let r4 := Float.ofBits 0x3fc39a09d078c69f + z * Float.ofBits 0x3fc2f112df3e5244
  r1 + z2 * r2 + z4 * r3 + z6 * r4

/-- `1 + x = 2^k · (1 + f)` with what the sum lost; nothing is moved for small arguments.  The last
    part tells whether `f` is tiny. -/
def reduceLog (x : Float) : Float × Float × Int × Bool :=
  if (x > 0 && highWord x < 0x3fda827a) || (x < 0 && highWord x ≤ 0xbfd2bec3) then
    (x, 0, 0, false)
  else
    let isLarge := x ≥ 9007199254740992.0
    let u := if isLarge then x else 1.0 + x
    let k : Int := ((highWord u >>> 20).toNat : Int) - 1023
    let c := if isLarge then 0.0
      else (if k > 0 then 1.0 - (u - x) else x - (u - 1.0)) / u
    let hu := highWord u &&& 0xfffff
    if hu < 0x6a09e then (withHighWord u (hu ||| 0x3ff00000) - 1.0, c, k, hu == 0)
    else
      (withHighWord u (hu ||| 0x3fe00000) - 1.0, c, k + 1, ((0x100000 : UInt32) - hu) >>> 2 == 0)

/-- `ln (1 + x)`. -/
def log1p (x : Float) : Float :=
  if x.isNaN || x < -1.0 then 0.0 / 0.0
  else if x == -1.0 then -1.0 / 0.0
  else if x.isInf then x
  else if highWord x.abs < 0x3c900000 then x
  else if highWord x.abs < 0x3e200000 then x - x * x * 0.5
  else
    let (f, c, k, isTiny) := reduceLog x
    let kf : Float := Float.ofInt k
    let hfsq := 0.5 * f * f
    if isTiny then
      if f == 0 then (if k == 0 then 0 else kf * ln2High + (c + kf * ln2Low))
      else
        let r := hfsq * (1.0 - 0.66666666666666666 * f)
        if k == 0 then f - r else kf * ln2High - ((r - (kf * ln2Low + c)) - f)
    else
      let s := f / (2.0 + f)
      let r := log1pPoly (s * s)
      if k == 0 then f - (hfsq - s * (hfsq + r))
      else kf * ln2High - ((hfsq - (s * (hfsq + r) + (kf * ln2Low + c))) - f)

/-! ## The length of a vector -/

/-- The length for sides whose squares neither overflow nor vanish, the longer side first. -/
def hypotMiddle (a b : Float) : Float :=
  let h := (a * a + b * b).sqrt
  let (t1, t2) :=
    if h ≤ 2.0 * b then
      let delta := h - b
      (a * (2.0 * delta - a), (delta - 2.0 * (a - b)) * delta)
    else
      let delta := h - a
      (2.0 * delta * (a - 2.0 * b), (4.0 * delta - b) * b + delta * delta)
  h - (t1 + t2) / (2.0 * h)

/-- `√(x² + y²)`. -/
def hypot (x y : Float) : Float :=
  if x.isInf || y.isInf then 1.0 / 0.0
  else if x.isNaN || y.isNaN then 0.0 / 0.0
  else
    let a := if x.abs < y.abs then y.abs else x.abs
    let b := if x.abs < y.abs then x.abs else y.abs
    let scale := Float.scaleB 1.0 (-600)
    let tiny := Float.scaleB 1.0 (-54)
    if a > Float.scaleB 1.0 511 then
      if b ≤ a * tiny then a + b else hypotMiddle (a * scale) (b * scale) / scale
    else if b < Float.scaleB 1.0 (-459) then
      if a ≥ b / tiny then a + b else hypotMiddle (a / scale) (b / scale) * scale
    else if b ≤ a * tiny then a + b
    else hypotMiddle a b

def atanh (x : Float) : Float := 0.5 * log1p ((2.0 * x) / (1.0 - x))

end Inlay.Number
