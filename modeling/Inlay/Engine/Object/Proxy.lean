import Inlay.Engine.Object.Access

/-! # Proxies

    What a proxy does is said by the methods of its handler, as far as that agrees with what its
    target cannot change. -/

namespace Inlay.Engine

open Exec

namespace Proxy

/-- The target and the handler of a proxy that has not been revoked. -/
def parts (r : Ref) : Exec (Ref × Ref) := do
  match ← kind r with
  | .proxy (some t) (some h) _ _ => return (t, h)
  | _ => typeError "Proxy object has empty handler and target"

def trap (h : Ref) (name : String) : Exec (Option Value) := getMethod (.obj h) (Key.text name)

def getProto (r : Ref) : Exec (Option Ref) := do
  let (t, h) ← parts r
  match ← trap h "getPrototypeOf" with
  | none => Object.getProto t
  | some f =>
      let p ← match ← Object.call f (.obj h) #[.obj t] with
        | .obj p => pure (some p)
        | .null => pure none
        | _ => typeError "Proxy trap result is neither object nor null"
      if ← Object.isExtensible t then return p
      if (← Object.getProto t) != p then typeError "Proxy trap returned unexpected prototype"
      return p

def setProto (r : Ref) (p : Option Ref) : Exec Bool := do
  let (t, h) ← parts r
  match ← trap h "setPrototypeOf" with
  | none => Object.setProto t p
  | some f =>
      let v := match p with
        | some p => Value.obj p
        | none => .null
      if !(← Object.call f (.obj h) #[.obj t, v]).truthy then return false
      if ← Object.isExtensible t then return true
      if (← Object.getProto t) != p then typeError "Proxy trap failed to set prototype"
      return true

def isExtensible (r : Ref) : Exec Bool := do
  let (t, h) ← parts r
  match ← trap h "isExtensible" with
  | none => Object.isExtensible t
  | some f =>
      let b := (← Object.call f (.obj h) #[.obj t]).truthy
      if b != (← Object.isExtensible t) then
        typeError "Proxy trap returned unexpected extensible value"
      return b

def preventExtensions (r : Ref) : Exec Bool := do
  let (t, h) ← parts r
  match ← trap h "preventExtensions" with
  | none => Object.preventExtensions t
  | some f =>
      let b := (← Object.call f (.obj h) #[.obj t]).truthy
      if b && (← Object.isExtensible t) then typeError "Proxy trap failed to set extensible"
      return b

def getOwn (r : Ref) (k : Key) : Exec (Option Property) := do
  let (t, h) ← parts r
  match ← trap h "getOwnPropertyDescriptor" with
  | none => Object.getOwn t k
  | some f =>
      let v ← Object.call f (.obj h) #[.obj t, k.toValue]
      let old ← Object.getOwn t k
      match v with
      | .undefined =>
          match old with
          | none => return none
          | some p =>
              if !p.isConfigurable then
                typeError "Proxy trap result is undefined adn target result is not configurable"
              if !(← Object.isExtensible t) then
                typeError "Proxy trap result is undefined and target is not extensible"
              return none
      | .obj _ =>
          let extensible ← Object.isExtensible t
          let new := (← toDescriptor v).toProperty
          let fits := match old with
            | some p => (Descriptor.ofProperty new).allowedBy p
            | none => extensible
          if !fits then typeError "Proxy trap returned unexpected property"
          if !new.isConfigurable then
            match old with
            | some p =>
                if p.isConfigurable then
                  typeError
                    "Proxy trap result is not configurable and target result is configurable"
            | none =>
                typeError "Proxy trap result is not configurable and target result is undefined"
          return some new
      | _ => typeError "Proxy trap result is neither object nor undefined"

def define (r : Ref) (k : Key) (d : Descriptor) : Exec Bool := do
  let (t, h) ← parts r
  match ← trap h "defineProperty" with
  | none => Object.define t k d
  | some f =>
      let v ← fromDescriptor d
      if !(← Object.call f (.obj h) #[.obj t, k.toValue, v]).truthy then return false
      let old ← Object.getOwn t k
      let fixes := d.isConfigurable == some false
      match old with
      | none =>
          if !(← Object.isExtensible t) then
            typeError "Proxy trap failed to set property"
          if fixes then typeError "Proxy trap failed to set property"
      | some p =>
          if !d.allowedBy p then typeError "Proxy trap set property to unexpected value"
          if fixes && p.isConfigurable then
            typeError "Proxy trap set property with unexpected configurable field"
      return true

def has (r : Ref) (k : Key) : Exec Bool := do
  let (t, h) ← parts r
  match ← trap h "has" with
  | none => Object.has t k
  | some f =>
      let b := (← Object.call f (.obj h) #[.obj t, k.toValue]).truthy
      if !b then
        match ← Object.getOwn t k with
        | some p =>
            if !p.isConfigurable then typeError "Proxy trap returned unexpected property"
            if !(← Object.isExtensible t) then typeError "Proxy trap returned unexpected property"
        | none => pure ()
      return b

def get (r : Ref) (k : Key) (receiver : Value) : Exec Value := do
  let (t, h) ← parts r
  match ← trap h "get" with
  | none => Object.getAs t k receiver
  | some f =>
      let v ← Object.call f (.obj h) #[.obj t, k.toValue, receiver]
      match ← Object.getOwn t k with
      | some p =>
          if !p.isConfigurable then
            match p.content with
            | .data u false =>
                if !v.same u then
                  typeError "Proxy trap returned unexpected data descriptor"
            | .accessor none _ =>
                if !v.isUndefined then
                  typeError "Proxy trap returned unexpected accessor descriptor"
            | _ => pure ()
      | none => pure ()
      return v

def set (r : Ref) (k : Key) (v receiver : Value) : Exec Bool := do
  let (t, h) ← parts r
  match ← trap h "set" with
  | none => Object.setAs t k v receiver
  | some f =>
      if !(← Object.call f (.obj h) #[.obj t, k.toValue, v, receiver]).truthy then return false
      match ← Object.getOwn t k with
      | some p =>
          if !p.isConfigurable then
            match p.content with
            | .data u false =>
                if !v.same u then typeError "Proxy trap set unexpected data descriptor"
            | .accessor _ none => typeError "Proxy trap set unexpected accessor descriptor"
            | _ => pure ()
      | none => pure ()
      return true

def delete (r : Ref) (k : Key) : Exec Bool := do
  let (t, h) ← parts r
  match ← trap h "deleteProperty" with
  | none => Object.delete t k
  | some f =>
      if !(← Object.call f (.obj h) #[.obj t, k.toValue]).truthy then return false
      match ← Object.getOwn t k with
      | some p =>
          if !p.isConfigurable then typeError "Proxy trap failed to delete property"
          if !(← Object.isExtensible t) then typeError "Proxy trap failed to delete property"
      | none => pure ()
      return true

/-- The keys that a trap lists: texts and symbols, none twice. -/
def listedKeys (v : Value) : Exec (List Key) := do
  match v with
  | .obj l =>
      let keys ← (← listItems l).mapM fun x => match x with
        | .str s => pure (Key.str s)
        | .sym i => pure (.sym i)
        | _ => typeError "bad type"
      let mut out : List Key := []
      for k in keys do
        if out.contains k then
          let sort := if k.isString then "string" else "symbol"
          typeError s!"Proxy trap result contains duplicate {sort} property keys"
        out := k :: out
      return out.reverse
  | _ => typeError "cannot create list from a primitive"

def ownKeys (r : Ref) : Exec (List Key) := do
  let (t, h) ← parts r
  match ← trap h "ownKeys" with
  | none => Object.ownKeys t
  | some f =>
      let ks ← listedKeys (← Object.call f (.obj h) #[.obj t])
      let extensible ← Object.isExtensible t
      let old ← Object.ownKeys t
      let mut fixed : List Key := []
      for k in old do
        match ← Object.getOwn t k with
        | some p => if !p.isConfigurable then fixed := k :: fixed
        | none => pure ()
      if fixed.any (!ks.contains ·) then
        typeError "Proxy trap failed to return all non-configurable property keys"
      if !extensible && (old.any (!ks.contains ·) || ks.any (!old.contains ·)) then
        typeError "Proxy trap failed to return all configurable property keys"
      return ks

def call (r : Ref) (this : Value) (args : Array Value) : Exec Value := do
  let (t, h) ← parts r
  match ← trap h "apply" with
  | none => Object.call (.obj t) this args
  | some f =>
      let list ← newArray args
      Object.call f (.obj h) #[.obj t, this, .obj list]

def construct (r : Ref) (args : Array Value) (newTarget : Ref) : Exec Value := do
  let (t, h) ← parts r
  match ← trap h "construct" with
  | none => Object.construct t args newTarget
  | some f =>
      let list ← newArray args
      let v ← Object.call f (.obj h) #[.obj t, .obj list, .obj newTarget]
      if !v.isObject then typeError "Proxy trap constructor returned non-object value"
      return v

end Proxy

end Inlay.Engine
