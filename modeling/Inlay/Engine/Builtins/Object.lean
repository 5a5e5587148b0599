import Inlay.Engine.Builtins.Basic
import Inlay.Engine.Display

/-! # Built-in functions on objects -/

namespace Inlay.Engine

open Exec

namespace Builtins.Objects

/-- How objects can be fixed. -/
inductive Level where
  | sealed | frozen
  deriving DecidableEq

/-- Makes all properties unchangeable, as far as a level says. -/
def fixAll (r : Ref) (l : Level) : Exec Bool := do
  if !(← Object.preventExtensions r) then return false
  for k in ← Object.ownKeys r do
    match l with
    | .sealed => Object.defineOrThrow r k { isConfigurable := some false }
    | .frozen =>
        match ← Object.getOwn r k with
        | some p =>
            if p.isAccessor then Object.defineOrThrow r k { isConfigurable := some false }
            else Object.defineOrThrow r k { isConfigurable := some false, isWritable := some false }
        | none => pure ()
  return true

def isFixed (r : Ref) (l : Level) : Exec Bool := do
  if ← Object.isExtensible r then return false
  for k in ← Object.ownKeys r do
    match ← Object.getOwn r k with
    | some p =>
        if p.isConfigurable then return false
        match l, p.content with
        | .frozen, .data _ true => return false
        | _, _ => pure ()
    | none => pure ()
  return true

/-- The word for an object in the text of objects without one of their own. -/
def builtinTag (v : Value) : Exec String := do
  match v with
  | .undefined => return "Undefined"
  | .null => return "Null"
  | .bool _ => return "Boolean"
  | .num _ => return "Number"
  | .str _ => return "String"
  | .sym _ | .big _ => return "Object"
  | .obj r =>
      if ← isArray v then return "Array"
      if (← obj r).isCallable then return "Function"
      match ← kind r with
      | .arguments _ _ => return "Arguments"
      | .error _ => return "Error"
      | .bool _ => return "Boolean"
      | .num _ => return "Number"
      | .str _ => return "String"
      | .date _ => return "Date"
      | .regex _ _ => return "RegExp"
      | _ => return "Object"

def textOf (v : Value) : Exec Value := do
  match v with
  | .undefined => return .text "[object Undefined]"
  | .null => return .text "[object Null]"
  | v =>
      let r ← toObject v
      let tag ← builtinTag (.obj r)
      match ← Object.get r (.sym WellKnown.toStringTag) with
      | .str s => return .str (.ofString "[object " ++ s ++ .ofString "]")
      | _ => return .text s!"[object {tag}]"

def defineAll (r : Ref) (v : Value) : Exec Unit := do
  let source ← toObject v
  let mut ds : List (Key × Descriptor) := []
  for k in ← Object.ownKeys source do
    match ← Object.getOwn source k with
    | some p =>
        if p.isEnumerable then ds := ds ++ [(k, ← toDescriptor (← Object.get source k))]
    | none => pure ()
  for (k, d) in ds do
    Object.defineOrThrow r k d

def assignAll (r : Ref) (sources : List Value) : Exec Unit := do
  for v in sources do
    if !v.isNullish then
      let s ← toObject v
      for k in ← Object.ownKeys s do
        match ← Object.getOwn s k with
        | some p => if p.isEnumerable then Object.set r k (← Object.get s k)
        | none => pure ()

def findProperty (k : Key) : Nat → Ref → Exec (Option Property)
  | 0, _ => return none
  | n + 1, r => do
      match ← Object.getOwn r k with
      | some p => return some p
      | none =>
          match ← Object.getProto r with
          | some p => findProperty k n p
          | none => return none

def fromEntries (c : Call) : Exec Value := do
  let v := c.arg 0
  if v.isNullish then typeError "cannot convert null or undefined to Object"
  let r ← newObject
  let i ← iterate v
  Iter.forEach i fun e => do
    if !e.isObject then typeError "cannot get key and value from primitive item of `iterable`"
    let k ← getMember e (.index 0)
    let x ← getMember e (.index 1)
    Object.createDataOrThrow r (← toKey k) x
  return .obj r

def setProtoOf (c : Call) : Exec Value := do
  if c.args.size < 2 then
    typeError
      s!"Object.setPrototypeOf: At least 2 arguments required, but only {c.args.size} passed"
  let o := c.arg 0
  if o.isNullish then typeError "cannot convert null or undefined to Object"
  let p ← match c.arg 1 with
    | .obj p => pure (some p)
    | .null => pure none
    | v => typeError s!"expected an object or null, got `{← typeOf v}`"
  match o with
  | .obj r =>
      if !(← Object.setProto r p) then typeError "can't set prototype of this object"
      return o
  | _ => return o

def make (c : Call) (constructor : Value) : Exec Value := do
  let isOther := match c.newTarget, constructor with
    | .obj a, .obj b => a != b
    | _, _ => false
  if isOther then return .obj (← newObject (← protoFor c.newTarget Intrinsic.objectProto))
  if (c.arg 0).isNullish then return .obj (← newObject)
  return .obj (← toObject (c.arg 0))

def static (f : ObjectFn) (c : Call) : Exec Value := do
  match f with
  | .assign =>
      let r ← toObject (c.arg 0)
      assignAll r (c.args.toList.drop 1)
      return .obj r
  | .create =>
      let proto ← match c.arg 0 with
        | .obj p => pure (some p)
        | .null => pure none
        | v => typeError s!"Object prototype may only be an Object or null: {← Display.ofValue v}"
      let r ← alloc { proto }
      if !(c.arg 1).isUndefined then defineAll r (c.arg 1)
      return .obj r
  | .defineProperties =>
      match c.arg 0 with
      | .obj r =>
          defineAll r (c.arg 1)
          return .obj r
      | _ => typeError "Expected an object"
  | .defineProperty =>
      match c.arg 0 with
      | .obj r =>
          let k ← toKey (c.arg 1)
          let d ← toDescriptor (c.arg 2)
          Object.defineOrThrow r k d
          return .obj r
      | _ => typeError "Object.defineProperty called on non-object"
  | .entries =>
      let r ← toObject (c.arg 0)
      let mut out := #[]
      for (k, v) in ← enumerableOwn r do
        out := out.push (← arrayOf #[k.toValue, v])
      arrayOf out
  | .values =>
      let r ← toObject (c.arg 0)
      arrayOf ((← enumerableOwn r).map Prod.snd).toArray
  | .keys =>
      let r ← toObject (c.arg 0)
      let mut out := #[]
      for k in ← Object.ownKeys r do
        if k.isString then
          match ← Object.getOwn r k with
          | some p => if p.isEnumerable then out := out.push k.toValue
          | none => pure ()
      arrayOf out
  | .freeze =>
      match c.arg 0 with
      | .obj r =>
          if !(← fixAll r .frozen) then typeError "cannot freeze object"
      | _ => pure ()
      return c.arg 0
  | .seal =>
      match c.arg 0 with
      | .obj r =>
          if !(← fixAll r .sealed) then typeError "cannot seal object"
      | _ => pure ()
      return c.arg 0
  | .preventExtensions =>
      match c.arg 0 with
      | .obj r =>
          if !(← Object.preventExtensions r) then typeError "cannot prevent extensions"
      | _ => pure ()
      return c.arg 0
  | .isFrozen =>
      match c.arg 0 with
      | .obj r => return .bool (← isFixed r .frozen)
      | _ => return .bool true
  | .isSealed =>
      match c.arg 0 with
      | .obj r => return .bool (← isFixed r .sealed)
      | _ => return .bool true
  | .isExtensible =>
      match c.arg 0 with
      | .obj r => return .bool (← Object.isExtensible r)
      | _ => return .bool false
  | .fromEntries => fromEntries c
  | .getOwnPropertyDescriptor =>
      let r ← toObject (c.arg 0)
      match ← Object.getOwn r (← toKey (c.arg 1)) with
      | some p => fromProperty p
      | none => return .undefined
  | .getOwnPropertyDescriptors =>
      let r ← toObject (c.arg 0)
      let out ← newObject
      for k in ← Object.ownKeys r do
        match ← Object.getOwn r k with
        | some p => Object.createDataOrThrow out k (← fromProperty p)
        | none => pure ()
      return .obj out
  | .getOwnPropertyNames =>
      let r ← toObject (c.arg 0)
      arrayOf (((← Object.ownKeys r).filter Key.isString).map Key.toValue).toArray
  | .getOwnPropertySymbols =>
      let r ← toObject (c.arg 0)
      arrayOf (((← Object.ownKeys r).filter (!·.isString)).map Key.toValue).toArray
  | .getPrototypeOf =>
      if c.args.isEmpty then
        typeError "Object.getPrototypeOf: At least 1 argument required, but only 0 passed"
      match ← Object.getProto (← toObject (c.arg 0)) with
      | some p => return .obj p
      | none => return .null
  | .setPrototypeOf => setProtoOf c
  | .groupBy =>
      let groups ← groupItems c toKey (· == ·)
      let r ← alloc { proto := none }
      for (k, vs) in groups do
        Object.createDataOrThrow r k (← arrayOf vs)
      return .obj r
  | .hasOwn =>
      let r ← toObject (c.arg 0)
      return .bool (← Object.getOwn r (← toKey (c.arg 1))).isSome
  | .is => return .bool ((c.arg 0).same (c.arg 1))
  | _ => return .undefined

def method (f : ObjectFn) (c : Call) : Exec Value := do
  match f with
  | .hasOwnProperty =>
      let k ← toKey (c.arg 0)
      let r ← toObject c.this
      return .bool (← Object.getOwn r k).isSome
  | .isPrototypeOf =>
      match c.arg 0 with
      | .obj v =>
          let r ← toObject c.this
          return .bool (← protoContains r Object.protoDepth v)
      | _ => return .bool false
  | .propertyIsEnumerable =>
      let k ← toKey (c.arg 0)
      let r ← toObject c.this
      match ← Object.getOwn r k with
      | some p => return .bool p.isEnumerable
      | none => return .bool false
  | .toLocaleString => invoke c.this (Key.text "toString")
  | .toText => textOf c.this
  | .valueOf => return .obj (← toObject c.this)
  | .getProto =>
      match ← Object.getProto (← toObject c.this) with
      | some p => return .obj p
      | none => return .null
  | .setProto =>
      requireCoercible c.this
      match c.this, c.arg 0 with
      | .obj r, .obj p =>
          if !(← Object.setProto r (some p)) then typeError "__proto__ called on null or undefined"
      | .obj r, .null =>
          if !(← Object.setProto r none) then typeError "__proto__ called on null or undefined"
      | _, _ => pure ()
      return .undefined
  | .defineGetter =>
      let r ← toObject c.this
      requireCallable (c.arg 1) "Object.prototype.__defineGetter__: Expecting function"
      Object.defineOrThrow r (← toKey (c.arg 0)) {
        getter := some (c.arg 1).toRef?, isEnumerable := some true, isConfigurable := some true }
      return .undefined
  | .defineSetter =>
      let r ← toObject c.this
      requireCallable (c.arg 1) "Object.prototype.__defineSetter__: Expecting function"
      Object.defineOrThrow r (← toKey (c.arg 0)) {
        setter := some (c.arg 1).toRef?, isEnumerable := some true, isConfigurable := some true }
      return .undefined
  | .lookupGetter =>
      let r ← toObject c.this
      match ← findProperty (← toKey (c.arg 0)) Object.protoDepth r with
      | some ⟨.accessor g _, _, _⟩ => return .ofOption g
      | _ => return .undefined
  | .lookupSetter =>
      let r ← toObject c.this
      match ← findProperty (← toKey (c.arg 0)) Object.protoDepth r with
      | some ⟨.accessor _ s, _, _⟩ => return .ofOption s
      | _ => return .undefined
  | _ => return .undefined

def run (f : ObjectFn) (c : Call) (callee : Ref) : Exec Value :=
  match f with
  | .make => make c (.obj callee)
  | .hasOwnProperty | .isPrototypeOf | .propertyIsEnumerable | .toLocaleString | .toText | .valueOf
  | .getProto | .setProto | .defineGetter | .defineSetter | .lookupGetter | .lookupSetter =>
      method f c
  | f => static f c

end Builtins.Objects

end Inlay.Engine
