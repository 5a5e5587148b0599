import Inlay.Engine.Builtins.Buffer

/-! # Operations on elements that nothing interrupts

    Elements of typed arrays of whole numbers are read and replaced in one step. -/

namespace Inlay.Engine

open Exec

namespace Builtins.Atomics

def isSupported : ElementSort → Bool
  | .float32 | .float64 | .uint8Clamped => false
  | _ => true

def isWaitable : ElementSort → Bool
  | .int32 | .bigInt64 => true
  | _ => false

def integers (v : Value) (waits : Bool) : Exec Buffers.Typed := do
  let t ← Buffers.typedThis v
  if waits && !isWaitable t.sort then
    typeError "can only atomically wait using Int32 or BigInt64 arrays"
  if !isSupported t.sort then
    typeError "platform doesn't support atomic operations on the provided `TypedArray`"
  return t

def placeOf (t : Buffers.Typed) (v : Value) : Exec Nat := do
  let i ← toIndex v
  if i ≥ t.length then rangeError "index for typed array outside of bounds"
  return i

def toWhole (s : ElementSort) (v : Value) : Exec Value := do
  if s.isBig then return .big (← toBigInt v)
  return .num (← toNumber v).toInteger

def wholeOf (v : Value) : Int :=
  match v with
  | .num n => n.clamped
  | .big n => n
  | _ => 0

/-- Replaces an element by what a function makes of it and an operand; its old value. -/
def replace (c : Call) (f : Int → Int → Int) : Exec Value := do
  let t ← integers (c.arg 0) false
  let i ← placeOf t (c.arg 1)
  let operand ← toWhole t.sort (c.arg 2)
  let old ← Buffers.elementAt t i
  let new := f (wholeOf old) (wholeOf operand)
  Object.setElement t.ref (.ofNat i) (if t.sort.isBig then .big new else .int new)
  return old

def stored (s : ElementSort) (v : Value) : Value :=
  let content : Num ⊕ Int := match v with
    | .num n => .inl n
    | v => .inr (wholeOf v)
  s.decode (s.encode content)

def compareExchange (c : Call) : Exec Value := do
  let t ← integers (c.arg 0) false
  let i ← placeOf t (c.arg 1)
  let expected ← toWhole t.sort (c.arg 2)
  let new ← toWhole t.sort (c.arg 3)
  let old ← Buffers.elementAt t i
  if old.strictEq (stored t.sort expected) then Object.setElement t.ref (.ofNat i) new
  return old

def isShared (t : Buffers.Typed) : Exec Bool := do
  match ← kind t.buffer with
  | .buffer _ _ shared => return shared
  | _ => return false

def run (f : AtomicFn) (c : Call) : Exec Value := do
  match f with
  | .add => replace c (· + ·)
  | .sub => replace c (· - ·)
  | .and => replace c (bitwise (· &&& ·))
  | .or => replace c (bitwise (· ||| ·))
  | .xor => replace c (bitwise (· ^^^ ·))
  | .exchange => replace c fun _ b => b
  | .compareExchange => compareExchange c
  | .load =>
      let t ← integers (c.arg 0) false
      Buffers.elementAt t (← placeOf t (c.arg 1))
  | .store =>
      let t ← integers (c.arg 0) false
      let i ← placeOf t (c.arg 1)
      let v ← toWhole t.sort (c.arg 2)
      Object.setElement t.ref (.ofNat i) v
      return v
  | .isLockFree =>
      let n ← toIntegerClamped (c.arg 0)
      return .bool (n == 1 || n == 2 || n == 4 || n == 8)
  | .notify =>
      let t ← integers (c.arg 0) true
      let _ ← placeOf t (c.arg 1)
      if !(c.arg 2).isUndefined then
        let _ ← toNumber (c.arg 2)
      return .nat 0
  | .wait =>
      let t ← integers (c.arg 0) true
      if !(← isShared t) then typeError "cannot use `ArrayBuffer` for an atomic wait"
      let _ ← placeOf t (c.arg 1)
      let _ ← toWhole t.sort (c.arg 2)
      let _ ← toNumber (c.arg 3)
      typeError "agent cannot be suspended"

end Builtins.Atomics

end Inlay.Engine
