import Inlay.Engine.Builtins.Basic
import Inlay.Number.Elementary

/-! # Built-in functions on numbers, truth values, integers and symbols -/

namespace Inlay.Engine

open Exec

namespace Builtins.Numbers

def numThis (v : Value) : Exec Num := do
  match v with
  | .num n => return n
  | .obj r =>
      match ← kind r with
      | .num n => return n
      | _ => typeError "'this' is not a number"
  | _ => typeError "'this' is not a number"

def boolThis (v : Value) : Exec Bool := do
  match v with
  | .bool b => return b
  | .obj r =>
      match ← kind r with
      | .bool b => return b
      | _ => typeError "'this' is not a boolean"
  | _ => typeError "'this' is not a boolean"

def bigThis (v : Value) : Exec Int := do
  match v with
  | .big n => return n
  | .obj r =>
      match ← kind r with
      | .big n => return n
      | _ => typeError "'this' is not a BigInt"
  | _ => typeError "'this' is not a BigInt"

def make (c : Call) : Exec Value := do
  let n ← match c.args.size with
    | 0 => pure Num.zero
    | _ => do
        match ← toNumeric (c.arg 0) with
        | .num n => pure n.inexact
        | .big i => pure (.real (ofInt i))
  if !c.isConstruct then return .num n
  let proto ← protoFor c.newTarget Intrinsic.numberProto
  return .obj (← alloc { proto := some proto, kind := .num n })

def makeBoolean (c : Call) : Exec Value := do
  let b := (c.arg 0).truthy
  if !c.isConstruct then return .bool b
  let proto ← protoFor c.newTarget Intrinsic.booleanProto
  return .obj (← alloc { proto := some proto, kind := .bool b })

def makeBigInt (c : Call) : Exec Value := do
  if c.isConstruct then typeError "BigInt is not a constructor"
  match ← toPrimitive (c.arg 0) .number with
  | .num n =>
      match n.toInt? with
      | some i => return .big i
      | none => rangeError s!"cannot convert {plainText n.toFloat} to a BigInt"
  | v => return .big (← toBigInt v)

def radix (v : Value) : Exec Nat := do
  if v.isUndefined then return 10
  let n ← toIntegerClamped v
  if n < 2 || n > 36 then
    rangeError "radix must be an integer at least 2 and no greater than 36"
  return n.toNat

def textOf (c : Call) : Exec Value := do
  let n ← numThis c.this
  let base ← radix (c.arg 0)
  if base == 10 then return .str n.toUnits
  return .text (radixText n.toFloat base)

def bigText (c : Call) : Exec Value := do
  let n ← bigThis c.this
  let base ← radix (c.arg 0)
  let digits := natText base n.natAbs
  return .text (if n < 0 then "-" ++ digits else digits)

def fixed (c : Call) : Exec Value := do
  let n ← numThis c.this
  let places ← toIntegerClamped (c.arg 0)
  if places < 0 || places > 100 then
    rangeError "toFixed() digits argument must be between 0 and 100"
  let x := n.toFloat
  if !x.isFinite || x ≥ 1e21 then return .str n.toUnits
  return .text (fixedText x places.toNat)

def exponential (c : Call) : Exec Value := do
  let n ← numThis c.this
  let places ← toIntegerClamped (c.arg 0)
  let x := n.toFloat
  if !x.isFinite then return .str n.toUnits
  if places < 0 || places > 100 then
    rangeError "toExponential() argument must be between 0 and 100"
  return .text (exponentialText x (if (c.arg 0).isUndefined then none else some places.toNat))

def precision (c : Call) : Exec Value := do
  let n ← numThis c.this
  if (c.arg 0).isUndefined then return .str n.toUnits
  let digits ← toIntegerClamped (c.arg 0)
  let x := n.toFloat
  if !x.isFinite then return .str n.toUnits
  if digits < 1 || digits > 100 then
    rangeError "precision must be an integer at least 1 and no greater than 100"
  return .text (precisionText x digits.toNat)

def asIntN (c : Call) (isSigned : Bool) : Exec Value := do
  let bits := min (← toIndex (c.arg 0)) (Nat.pow 2 32 - 1)
  let n ← toBigInt (c.arg 1)
  if 2 * bits + 1 > maxBits then tooLarge
  if bits == 0 then return .big 0
  -- an integer that fits already is not changed
  if n.natAbs.log2 + 2 < bits && (isSigned || n ≥ 0) then return .big n
  let w := bitsOf n bits
  return .big (if isSigned then ofBits w bits else w)

def wholeNumber? (v : Value) : Option Int :=
  match v with
  | .num n => n.toInt?
  | _ => none

def run (f : NumberFn) (c : Call) : Exec Value := do
  match f with
  | .make => make c
  | .isFinite =>
      return .bool (match c.arg 0 with
        | .num n => n.isFinite
        | _ => false)
  | .isInteger => return .bool (wholeNumber? (c.arg 0)).isSome
  | .isNaN =>
      return .bool (match c.arg 0 with
        | .num n => n.isNaN
        | _ => false)
  | .isSafeInteger =>
      return .bool (match wholeNumber? (c.arg 0) with
        | some i => i.natAbs < Nat.pow 2 53
        | none => false)
  | .toExponential => exponential c
  | .toFixed => fixed c
  | .toLocaleString => return .text (plainText (← numThis c.this).toFloat)
  | .toPrecision => precision c
  | .toText => textOf c
  | .valueOf => return .num (← numThis c.this)
  | .makeBoolean => makeBoolean c
  | .booleanText => return .text (if ← boolThis c.this then "true" else "false")
  | .booleanValue => return .bool (← boolThis c.this)
  | .makeBigInt => makeBigInt c
  | .asIntN => asIntN c true
  | .asUintN => asIntN c false
  | .bigIntText => bigText c
  | .bigIntValue => return .big (← bigThis c.this)

end Builtins.Numbers

namespace Builtins.Symbols

def symbolThis (v : Value) : Exec SymbolId := do
  match v with
  | .sym i => return i
  | .obj r =>
      match ← kind r with
      | .sym i => return i
      | _ => typeError "'this' is not a Symbol"
  | _ => typeError "'this' is not a Symbol"

def run (f : SymbolFn) (c : Call) : Exec Value := do
  match f with
  | .make =>
      if c.isConstruct then typeError "Symbol is not a constructor"
      let d ← if (c.arg 0).isUndefined then pure none else some <$> toText (c.arg 0)
      return .sym (← newSymbol d)
  | .for_ =>
      let s ← toText (c.arg 0)
      match (← get).registry.lookup s with
      | some i => return .sym i
      | none =>
          let i ← newSymbol (some s)
          modify fun m => { m with registry := (s, i) :: m.registry }
          return .sym i
  | .keyFor =>
      match c.arg 0 with
      | .sym i =>
          match (← get).registry.find? (·.2 == i) with
          | some (s, _) => return .str s
          | none => return .undefined
      | _ => typeError "Symbol.keyFor: sym is not a symbol"
  | .toText => return .str (← symbolText (← symbolThis c.this))
  | .valueOf | .toPrimitive => return .sym (← symbolThis c.this)
  | .description =>
      match ((← get).symbols[← symbolThis c.this]?).join with
      | some d => return .str d
      | none => return .undefined

end Builtins.Symbols

namespace Builtins.Maths

def fraction (x : Float) : Float := x - (if x < 0 then x.ceil else x.floor)

def round (x : Float) : Float :=
  if !x.isFinite then x
  else if (fraction x + 0.5).abs < 2.220446049250313e-16 then x.ceil
  else x.round

def trunc (x : Float) : Float :=
  if !x.isFinite || x == 0 then x
  else if x < 0 then (if x > -1 then -0.0 else x.ceil)
  else x.floor

def leadingZeros (n : Nat) : Nat := if n == 0 then 32 else 31 - n.log2

def larger (a b : Num) : Num :=
  if a.isNaN || b.isNaN then .nan
  else if a.lt b || (a.eq b && a.isMinusZero) then b else a

def smaller (a b : Num) : Num :=
  if a.isNaN || b.isNaN then .nan
  else if b.lt a || (a.eq b && b.isMinusZero) then b else a

def fold (f : Num → Num → Num) (init : Num) (args : Array Value) : Exec Value := do
  let mut xs := #[]
  for v in args do
    xs := xs.push (← toNumber v)
  return .num (xs.foldl f init).inexact

def hypot (args : Array Value) : Exec Value := do
  let mut r : Float := 0
  for v in args do
    r := Inlay.Number.hypot r (← toNumber v).toFloat
  return .float r

def unary (f : Float → Float) (c : Call) : Exec Value := do
  return .float (f (← toNumber (c.arg 0)).toFloat)

def run (f : MathFn) (c : Call) : Exec Value := do
  match f with
  | .abs => unary Float.abs c
  | .acos => unary Float.acos c
  | .acosh => unary Float.acosh c
  | .asin => unary Float.asin c
  | .asinh => unary Float.asinh c
  | .atan => unary Float.atan c
  | .atanh => unary Inlay.Number.atanh c
  | .atan2 =>
      let y ← toNumber (c.arg 0)
      let x ← toNumber (c.arg 1)
      return .float (Float.atan2 y.toFloat x.toFloat)
  | .cbrt => unary Float.cbrt c
  | .ceil => unary Float.ceil c
  | .clz32 => return .nat (leadingZeros (← toNumber (c.arg 0)).toUInt32)
  | .cos => unary Float.cos c
  | .cosh => unary Float.cosh c
  | .exp => unary Float.exp c
  | .expm1 => unary Inlay.Number.expm1 c
  | .floor => unary Float.floor c
  | .fround => unary (fun x => x.toFloat32.toFloat) c
  | .hypot => hypot c.args
  | .imul =>
      let a := (← toNumber (c.arg 0)).toUInt32
      let b := (← toNumber (c.arg 1)).toUInt32
      return .int (ofBits (a * b % Nat.pow 2 32) 32)
  | .log => unary Float.log c
  | .log1p => unary Inlay.Number.log1p c
  | .log10 => unary Float.log10 c
  | .log2 => unary Float.log2 c
  | .max => fold larger (.real (-infinity)) c.args
  | .min => fold smaller (.real infinity) c.args
  | .pow =>
      let x ← toNumber (c.arg 0)
      let y ← toNumber (c.arg 1)
      return .float (power x.toFloat y.toFloat)
  | .random => return .float 0.5
  | .round => unary round c
  | .sign =>
      let n ← toNumber (c.arg 0)
      if n.isNaN || n.isZero then return .num n.inexact
      return .float (if n.lt (.int 0) then -1 else 1)
  | .sin => unary Float.sin c
  | .sinh => unary Float.sinh c
  | .sqrt => unary Float.sqrt c
  | .tan => unary Float.tan c
  | .tanh => unary Float.tanh c
  | .trunc => unary trunc c

end Builtins.Maths

end Inlay.Engine
