import Inlay.Engine.Object.Own

/-! # Reading members, and conversions

    Reading a member may run a getter, and converting an object to a primitive value may run its
    methods; both go through `Again`. -/

namespace Inlay.Engine

open Exec

namespace Object

def isProxy (r : Ref) : Exec Bool := do
  match ← kind r with
  | .proxy _ _ _ _ => return true
  | _ => return false

def call (f this : Value) (args : Array Value := #[]) : Exec Value := do (← read).call f this args

def construct (f : Ref) (args : Array Value) (newTarget : Ref := f) : Exec Value := do
  (← read).construct f args newTarget

def isCallable (v : Value) : Exec Bool := do
  match v with
  | .obj r => return (← obj r).isCallable
  | _ => return false

def isConstructor (v : Value) : Exec Bool := do
  match v with
  | .obj r => return (← obj r).isConstructor
  | _ => return false

def protoDepth : Nat := 1000000

def getOwn (r : Ref) (k : Key) : Exec (Option Property) := do
  if ← isProxy r then (← read).getOwn r k else ownProperty r k

def getProto (r : Ref) : Exec (Option Ref) := do
  if ← isProxy r then (← read).getProto r else return (← obj r).proto

/-- Whether a key of a typed array is an index, so that its prototypes are not asked. -/
def isElementKey (r : Ref) (k : Key) : Exec Bool := do
  match ← kind r with
  | .typed _ _ _ _ => return (canonicalIndex? k).isSome
  | _ => return false

def getFrom (k : Key) (receiver : Value) : Nat → Ref → Exec Value
  | 0, _ => return .undefined
  | n + 1, r => do
      if ← isProxy r then (← read).get r k receiver
      else match ← ownProperty r k with
        | some p =>
            match p.content with
            | .data v _ => return v
            | .accessor (some g) _ => call (.obj g) receiver
            | .accessor none _ => return .undefined
        | none =>
            if ← isElementKey r k then return .undefined
            match (← obj r).proto with
            | some p => getFrom k receiver n p
            | none => return .undefined

def getAs (r : Ref) (k : Key) (receiver : Value) : Exec Value := getFrom k receiver protoDepth r

def get (r : Ref) (k : Key) : Exec Value := getAs r k (.obj r)

def hasFrom (k : Key) : Nat → Ref → Exec Bool
  | 0, _ => return false
  | n + 1, r => do
      if ← isProxy r then (← read).has r k
      else if (← ownProperty r k).isSome then return true
      else if ← isElementKey r k then return false
      else match (← obj r).proto with
        | some p => hasFrom k n p
        | none => return false

def has (r : Ref) (k : Key) : Exec Bool := hasFrom k protoDepth r

def delete (r : Ref) (k : Key) : Exec Bool := do
  if ← isProxy r then (← read).delete r k else ordinaryDelete r k

def ownKeys (r : Ref) : Exec (List Key) := do
  if ← isProxy r then (← read).ownKeys r else ordinaryKeys r

def isExtensible (r : Ref) : Exec Bool := do
  if ← isProxy r then (← read).isExtensible r else return (← obj r).isExtensible

def preventExtensions (r : Ref) : Exec Bool := do
  if ← isProxy r then (← read).preventExtensions r
  else
    modifyObj r fun o => { o with isExtensible := false }
    return true

/-- Whether following prototypes from an object meets another one; proxies end the search. -/
def protoMeets (target : Ref) : Nat → Option Ref → Exec Bool
  | 0, _ => return false
  | _ + 1, none => return false
  | n + 1, some r => do
      if r == target then return true
      if ← isProxy r then return false
      protoMeets target n (← obj r).proto

def setProto (r : Ref) (p : Option Ref) : Exec Bool := do
  if ← isProxy r then (← read).setProto r p
  else
    let o ← obj r
    if o.proto == p then return true
    if !o.isExtensible || r == Intrinsic.objectProto then return false
    if ← protoMeets r protoDepth p then return false
    modifyObj r fun o => { o with proto := p }
    return true

end Object

/-! ## Texts for messages -/

def symbolText (id : SymbolId) : Exec Units := do
  let d := ((← get).symbols[id]?).join.getD .empty
  return .ofString "Symbol(" ++ d ++ .ofString ")"

def keyText (k : Key) : Exec String := do
  match k with
  | .str s => return s.text
  | .sym i => return (← symbolText i).text

/-- What `typeof` says of a value. -/
def typeOf (v : Value) : Exec String := do
  match v with
  | .undefined => return "undefined"
  | .null => return "object"
  | .bool _ => return "boolean"
  | .num _ => return "number"
  | .str _ => return "string"
  | .sym _ => return "symbol"
  | .big _ => return "bigint"
  | .obj _ => return if ← Object.isCallable v then "function" else "object"

/-! ## Conversions -/

def primitiveProto? : Value → Option Ref
  | .bool _ => some Intrinsic.booleanProto
  | .num _ => some Intrinsic.numberProto
  | .str _ => some Intrinsic.stringProto
  | .sym _ => some Intrinsic.symbolProto
  | .big _ => some Intrinsic.bigIntProto
  | _ => none

def noObject {α : Type} : Exec α := typeError "cannot convert 'null' or 'undefined' to object"

def getMember (v : Value) (k : Key) : Exec Value := do
  match v with
  | .obj r => Object.get r k
  | .str s =>
      match k.index? with
      | some i =>
          match s.get? i with
          | some u => return .str ⟨#[u]⟩
          | none => Object.getAs Intrinsic.stringProto k v
      | none =>
          if k == Key.text "length" then return .nat s.size
          Object.getAs Intrinsic.stringProto k v
  | v =>
      match primitiveProto? v with
      | some p => Object.getAs p k v
      | none => noObject

def getMethod (v : Value) (k : Key) : Exec (Option Value) := do
  let f ← getMember v k
  if f.isNullish then return none
  if !(← Object.isCallable f) then
    typeError "value returned for property of object is not a function"
  return some f

def invoke (v : Value) (k : Key) (args : Array Value := #[]) : Exec Value := do
  let f ← getMember v k
  Object.call f v args

inductive Hint where
  | default | number | string
  deriving DecidableEq

def Hint.text : Hint → String
  | default => "default"
  | number => "number"
  | string => "string"

/-- Tries the methods that make a primitive value of an object. -/
def tryMethods (r : Ref) : List String → Exec Value
  | [] => typeError "cannot convert object to primitive value"
  | name :: rest => do
      let f ← Object.get r (Key.text name)
      if ← Object.isCallable f then
        let v ← Object.call f (.obj r)
        if v.isObject then tryMethods r rest else return v
      else tryMethods r rest

def toPrimitive (v : Value) (hint : Hint := .default) : Exec Value := do
  match v with
  | .obj r =>
      match ← getMethod v (.sym WellKnown.toPrimitive) with
      | some f =>
          let p ← Object.call f v #[.text hint.text]
          if p.isObject then typeError "Symbol.toPrimitive cannot return an object"
          return p
      | none =>
          tryMethods r
            (if hint == .string then ["toString", "valueOf"] else ["valueOf", "toString"])
  | v => return v

def primitiveText (v : Value) : Exec Units := do
  match v with
  | .undefined => return .ofString "undefined"
  | .null => return .ofString "null"
  | .bool b => return .ofString (if b then "true" else "false")
  | .num n => return n.toUnits
  | .str s => return s
  | .sym _ => typeError "can't convert symbol to string"
  | .big n => return .ofString (toString n)
  | .obj _ => typeError "cannot convert object to primitive value"

def toText (v : Value) : Exec Units := do
  match v with
  | .str s => return s
  | v => primitiveText (← toPrimitive v .string)

def primitiveNumber (v : Value) : Exec Num := do
  match v with
  | .undefined => return .nan
  | .null => return .zero
  | .bool b => return .real (if b then 1 else 0)
  | .num n => return n
  | .str s => return .real (parseNumber s)
  | .sym _ => typeError "argument must not be a symbol"
  | .big _ => typeError "argument must not be a bigint"
  | .obj _ => return .nan

def toNumber (v : Value) : Exec Num := do
  match v with
  | .num n => return n
  | v => primitiveNumber (← toPrimitive v .number)

/-- A number or an integer. -/
inductive Numeric where
  | num (n : Num)
  | big (n : Int)

def toNumeric (v : Value) : Exec Numeric := do
  match ← toPrimitive v .number with
  | .big n => return .big n
  | v => return .num (← primitiveNumber v)

def toBigInt (v : Value) : Exec Int := do
  match ← toPrimitive v .number with
  | .undefined => typeError "cannot convert undefined to a BigInt"
  | .null => typeError "cannot convert null to a BigInt"
  | .bool b => return if b then 1 else 0
  | .num _ => typeError "cannot convert Number to a BigInt"
  | .sym _ => typeError "cannot convert Symbol to a BigInt"
  | .str s =>
      match parseBigInt s with
      | some n => return n
      | none => fail .source s!"cannot convert string '{s.text}' to bigint primitive"
  | .big n => return n
  | .obj _ => return 0

/-- The integer part of a number; infinities become huge integers. -/
def toIntegerClamped (v : Value) : Exec Int := do return (← toNumber v).clamped

def toKey (v : Value) : Exec Key := do
  match v with
  | .str s => return .str s
  | .sym i => return .sym i
  | .num (.int (.ofNat n)) => return .index n
  | v =>
      match ← toPrimitive v .string with
      | .sym i => return .sym i
      | p => return .str (← primitiveText p)

def toObject (v : Value) : Exec Ref := do
  match v with
  | .obj r => return r
  | .undefined | .null => noObject
  | .bool b => alloc { proto := some Intrinsic.booleanProto, kind := .bool b }
  | .num n => alloc { proto := some Intrinsic.numberProto, kind := .num n }
  | .str s => alloc { proto := some Intrinsic.stringProto, kind := .str s }
  | .sym i => alloc { proto := some Intrinsic.symbolProto, kind := .sym i }
  | .big n => alloc { proto := some Intrinsic.bigIntProto, kind := .big n }

def maxLength : Nat := Nat.pow 2 53 - 1

def toLength (v : Value) : Exec Nat := do
  return min (← toIntegerClamped v).toNat maxLength

def lengthOf (r : Ref) : Exec Nat := do
  match ← kind r with
  | .array _ n _ => return n
  | _ => toLength (← Object.get r (Key.text "length"))

def toIndex (v : Value) : Exec Nat := do
  if v.isUndefined then return 0
  let n ← toIntegerClamped v
  if n < 0 || n > maxLength then rangeError "Index must be between 0 and  2^53 - 1"
  return n.toNat

/-- A position relative to the end where it is negative, within a length. -/
def relative (v : Value) (length : Nat) (default : Nat) : Exec Nat := do
  if v.isUndefined then return default
  let n ← toIntegerClamped v
  return if n < 0 then (n + length).toNat else min n.toNat length

end Inlay.Engine
