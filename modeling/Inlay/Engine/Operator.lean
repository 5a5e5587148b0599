import Inlay.Engine.Object.Access

/-! # Operators -/

namespace Inlay.Engine

open Exec

def mixed {α : Type} : Exec α :=
  typeError "cannot mix BigInt and other types, use explicit conversions"

/-! ## Integers of any size -/

/-- The bits of an integer, up to a width, as a natural number. -/
def bitsOf (n : Int) (width : Nat) : Nat := (n % (Nat.pow 2 width : Int)).toNat

def ofBits (n width : Nat) : Int :=
  if n ≥ Nat.pow 2 (width - 1) then (n : Int) - Nat.pow 2 width else n

/-- A bitwise operation on integers, which have as many sign bits as needed. -/
def bitwise (f : Nat → Nat → Nat) (a b : Int) : Int :=
  let width := max a.natAbs.log2 b.natAbs.log2 + 2
  ofBits (f (bitsOf a width) (bitsOf b width)) width

def shiftLeft (a b : Int) : Int :=
  if b ≥ 0 then a * Nat.pow 2 b.toNat
  else if (-b).toNat > a.natAbs.log2 + 1 then (if a < 0 then -1 else 0)
  else a / Nat.pow 2 (-b).toNat

def tooLarge {α : Type} : Exec α := rangeError "Maximum BigInt size exceeded"

def bitCount (n : Int) : Nat := if n == 0 then 0 else n.natAbs.log2 + 1

def maxBits : Nat := 1000000000

/-- A power that is not too large; its size is judged by that of its base. -/
def bigPower (a b : Int) : Exec Int := do
  if b < 0 then rangeError "BigInt negative exponent"
  if bitCount a * b.toNat + 1 > maxBits then tooLarge
  return if a == 0 then (if b == 0 then 1 else 0) else Int.pow a b.toNat

/-- A shift to the left, or to the right if `isRight`; the amount has thirty-two bits. -/
def bigShift (a b : Int) (isRight : Bool) : Exec Int := do
  if !Num.fits b then tooLarge
  return if a == 0 then 0 else shiftLeft a (if isRight then -b else b)

def bigOperation (op : BinaryOp) (a b : Int) : Exec Int := do
  match op with
  | .add => return a + b
  | .sub => return a - b
  | .mul => return a * b
  | .div =>
      if b == 0 then rangeError "BigInt division by zero"
      return a.tdiv b
  | .rem =>
      if b == 0 then rangeError "BigInt division by zero"
      return a.tmod b
  | .exp => bigPower a b
  | .shl => bigShift a b false
  | .shr => bigShift a b true
  | .ushr => typeError "BigInts have no unsigned right shift, use >> instead"
  | .bitAnd => return bitwise (· &&& ·) a b
  | .bitOr => return bitwise (· ||| ·) a b
  | .bitXor => return bitwise (· ^^^ ·) a b
  | _ => return 0

/-! ## Numbers -/

def int32Operation (f : Nat → Nat → Nat) (a b : Num) : Num :=
  .int (ofBits (f a.toUInt32 b.toUInt32) 32)

def numOperation (op : BinaryOp) (a b : Num) : Num :=
  match op with
  | .add => a.add b
  | .sub => a.sub b
  | .mul => a.mul b
  | .div => a.div b
  | .rem => a.rem b
  | .exp => a.pow b
  | .shl => .int (ofBits (a.toUInt32 * Nat.pow 2 (b.toUInt32 % 32) % Nat.pow 2 32) 32)
  | .shr => .int (a.toInt32 / Nat.pow 2 (b.toUInt32 % 32))
  | .ushr => .ofNat (a.toUInt32 / Nat.pow 2 (b.toUInt32 % 32))
  | .bitAnd => int32Operation (· &&& ·) a b
  | .bitOr => int32Operation (· ||| ·) a b
  | .bitXor => int32Operation (· ^^^ ·) a b
  | _ => .nan

def arithmetic (op : BinaryOp) (a b : Value) : Exec Value := do
  match a, b with
  | .num x, .num y => return .num (numOperation op x y)
  | _, _ =>
      match ← toNumeric a, ← toNumeric b with
      | .num x, .num y => return .num (numOperation op x.inexact y.inexact)
      | .big x, .big y => return .big (← bigOperation op x y)
      | _, _ => mixed

def addition (a b : Value) : Exec Value := do
  match a, b with
  | .num x, .num y => return .num (x.add y)
  | .str x, .str y => return .str (x ++ y)
  | _, _ =>
      let a ← toPrimitive a
      let b ← toPrimitive b
      match a, b with
      | .str x, b => return .str (x ++ (← primitiveText b))
      | a, .str y => return .str ((← primitiveText a) ++ y)
      | .big x, .big y => return .big (x + y)
      | .big _, _ | _, .big _ =>
          match a, b with
          | .sym _, _ | _, .sym _ => typeError "argument must not be a symbol"
          | _, _ => mixed
      | a, b => return .num ((← primitiveNumber a).inexact.add (← primitiveNumber b).inexact)

/-! ## Comparison -/

def compareBig (a : Int) (b : Num) : Option Ordering :=
  match b with
  | .int b => some (compare a b)
  | .real x =>
      if x.isNaN then none
      else if x.isInf then some (if x < 0 then .gt else .lt)
      else
        let f := truncated x.floor
        if a < f || (a == f && x.floor < x) then some .lt
        else if a == f then some .eq
        else some .gt

def compareNums (a b : Num) : Option Ordering :=
  if a.isNaN || b.isNaN then none
  else if a.lt b then some .lt
  else if b.lt a then some .gt
  else some .eq

/-- How two primitive values compare; nothing if one is not a number. -/
def comparePrimitives (a b : Value) : Exec (Option Ordering) := do
  match a, b with
  | .str x, .str y => return some (x.compare y)
  | .big x, .str y =>
      match parseBigInt y with
      | some y => return some (compare x y)
      | none => return none
  | .str x, .big y =>
      match parseBigInt x with
      | some x => return some (compare x y)
      | none => return none
  | .big x, .big y => return some (compare x y)
  | .big x, b => return compareBig x (← primitiveNumber b)
  | a, .big y =>
      match compareBig y (← primitiveNumber a) with
      | some o => return some o.swap
      | none => return none
  | a, b => return compareNums (← primitiveNumber a) (← primitiveNumber b)

def comparison (op : BinaryOp) (a b : Value) : Exec Bool := do
  let a ← toPrimitive a .number
  let b ← toPrimitive b .number
  let o ← comparePrimitives a b
  return match op, o with
    | .lt, some .lt | .gt, some .gt => true
    | .le, some o => o != .gt
    | .ge, some o => o != .lt
    | _, _ => false

/-- Equality with conversions, of values that are not both objects. -/
def looseEq (a b : Value) : Exec Bool := do
  match a, b with
  | .undefined, .null | .null, .undefined => return true
  | .obj _, .obj _ => return a.strictEq b
  | .undefined, _ | .null, _ | _, .undefined | _, .null => return a.strictEq b
  | _, _ =>
      let a ← toPrimitive a
      let b ← toPrimitive b
      return primitivesEq a b
where
  toNum : Value → Num
  | .bool b => .int (if b then 1 else 0)
  | .num n => n
  | .str s => .real (parseNumber s)
  | _ => .nan
  primitivesEq (a b : Value) : Bool :=
    match a, b with
    | .str x, .str y => x == y
    | .big x, .str y | .str y, .big x => match parseBigInt y with
        | some y => x == y
        | none => false
    | .big x, .big y => x == y
    | .big x, .num y | .num y, .big x => compareBig x y == some .eq
    | .big x, .bool y | .bool y, .big x => x == (if y then 1 else 0)
    | .sym x, .sym y => x == y
    | .sym _, _ | _, .sym _ => false
    | .undefined, _ | .null, _ | _, .undefined | _, .null => a.strictEq b
    | a, b => (toNum a).eq (toNum b)

/-! ## Objects -/

/-- Whether an object is found among the prototypes of another. -/
def protoContains (target : Ref) : Nat → Ref → Exec Bool
  | 0, _ => return false
  | n + 1, r => do
      match ← Object.getProto r with
      | none => return false
      | some p => if p == target then return true else protoContains target n p

/-- The rule for `instanceof` where a function does not supply its own. -/
def ordinaryInstance (f v : Value) : Nat → Exec Bool
  | 0 => return false
  | n + 1 => do
      match f with
      | .obj r =>
          if !(← obj r).isCallable then return false
          match ← kind r with
          | .bound target _ _ => ordinaryInstance (.obj target) v n
          | _ =>
              match v with
              | .obj o =>
                  match ← Object.get r (Key.text "prototype") with
                  | .obj p => protoContains p Object.protoDepth o
                  | _ => typeError "function has non-object prototype in instanceof check"
              | _ => return false
      | _ => return false

def instanceOf (v f : Value) : Exec Bool := do
  if !f.isObject then
    typeError s!"right-hand side of 'instanceof' should be an object, got `{← typeOf f}`"
  match ← getMethod f (.sym WellKnown.hasInstance) with
  | some m => return (← Object.call m f #[v]).truthy
  | none =>
      if !(← Object.isCallable f) then typeError "right-hand side of 'instanceof' is not callable"
      ordinaryInstance f v 1000

def isIn (k o : Value) : Exec Bool := do
  match o with
  | .obj r => Object.has r (← toKey k)
  | _ =>
      typeError s!"right-hand side of 'in' should be an object, got `{← typeOf o}`"

def binary (op : BinaryOp) (a b : Value) : Exec Value := do
  match op with
  | .add => addition a b
  | .eq =>
      if let .obj _ := a then
        if let .obj _ := b then return .bool (a.strictEq b)
      return .bool (← looseEq a b)
  | .ne => return .bool !(← looseEq a b)
  | .same => return .bool (a.strictEq b)
  | .differ => return .bool !(a.strictEq b)
  | .lt | .le | .gt | .ge =>
      match a, b with
      | .num (.int x), .num (.int y) =>
          return .bool (match op with
            | .lt => x < y
            | .le => x ≤ y
            | .gt => x > y
            | _ => x ≥ y)
      | _, _ => return .bool (← comparison op a b)
  | .isIn => return .bool (← isIn a b)
  | .instanceOf => return .bool (← instanceOf a b)
  | op => arithmetic op a b

def unary (op : UnaryOp) (v : Value) : Exec Value := do
  match op with
  | .minus =>
      match ← toNumeric v with
      | .num n => return .num n.neg
      | .big n => return .big (-n)
  | .plus => return .num (← toNumber v).inexact
  | .not => return .bool !v.truthy
  | .bitNot =>
      match ← toNumeric v with
      | .num n => return .num (.int (-1 - n.toInt32))
      | .big n => return .big (-1 - n)
  | .typeof => return .text (← typeOf v)
  | .void => return .undefined
  | .delete => return .bool true

def stepped (isIncrement : Bool) : Numeric → Value
  | .num n => .num (if isIncrement then n.add (.int 1) else n.sub (.int 1))
  | .big n => .big (if isIncrement then n + 1 else n - 1)

def Numeric.toValue : Numeric → Value
  | num n => .num n
  | big n => .big n

end Inlay.Engine
