import Inlay.Engine.Builtins.Basic
import Inlay.Engine.Builtins.Function

/-! # Reflection and the making of proxies -/

namespace Inlay.Engine

open Exec

namespace Builtins.Reflection

def target (c : Call) : Exec Ref := do
  match c.arg 0 with
  | .obj r => return r
  | _ => typeError "target must be an object"

def newProxy (t h : Value) : Exec Ref := do
  match t, h with
  | .obj t, .obj h =>
      let o ← obj t
      alloc { proto := none, kind := .proxy (some t) (some h) o.isCallable o.isConstructor }
  | .obj _, _ => typeError "Proxy constructor called with non-object handler"
  | _, _ => typeError "Proxy constructor called with non-object target"

def construct (c : Call) : Exec Value := do
  match c.arg 0 with
  | .obj t =>
      if !(← obj t).isConstructor then typeError "target must be a constructor"
      let newTarget ← if c.args.size > 2 then
          match c.arg 2 with
          | .obj n =>
              if (← obj n).isConstructor then pure n
              else typeError "newTarget must be a constructor"
          | _ => typeError "newTarget must be a constructor"
        else pure t
      let args ← Functions.listArguments (c.arg 1)
      Object.construct t args newTarget
  | _ => typeError "target must be a constructor"

def run (f : ReflectFn) (c : Call) : Exec Value := do
  match f with
  | .apply =>
      requireCallable (c.arg 0) "target must be a function"
      let args ← Functions.listArguments (c.arg 2)
      Object.call (c.arg 0) (c.arg 1) args
  | .construct => construct c
  | .defineProperty =>
      let t ← target c
      let k ← toKey (c.arg 1)
      if !(c.arg 2).isObject then typeError "property descriptor must be an object"
      return .bool (← Object.define t k (← toDescriptor (c.arg 2)))
  | .deleteProperty =>
      let t ← target c
      return .bool (← Object.delete t (← toKey (c.arg 1)))
  | .get =>
      let t ← target c
      let k ← toKey (c.arg 1)
      Object.getAs t k (if c.args.size > 2 then c.arg 2 else .obj t)
  | .getOwnPropertyDescriptor =>
      let t ← target c
      match ← Object.getOwn t (← toKey (c.arg 1)) with
      | some p => fromProperty p
      | none => return .undefined
  | .getPrototypeOf =>
      match ← Object.getProto (← target c) with
      | some p => return .obj p
      | none => return .null
  | .has =>
      let t ← target c
      return .bool (← Object.has t (← toKey (c.arg 1)))
  | .isExtensible => return .bool (← Object.isExtensible (← target c))
  | .ownKeys => arrayOf ((← Object.ownKeys (← target c)).map Key.toValue).toArray
  | .preventExtensions => return .bool (← Object.preventExtensions (← target c))
  | .set =>
      let t ← target c
      let k ← toKey (c.arg 1)
      return .bool (← Object.setAs t k (c.arg 2) (if c.args.size > 3 then c.arg 3 else .obj t))
  | .setPrototypeOf =>
      let t ← target c
      match c.arg 1 with
      | .obj p => return .bool (← Object.setProto t (some p))
      | .null => return .bool (← Object.setProto t none)
      | _ => typeError "proto must be an object or null"
  | .makeProxy =>
      if !c.isConstruct then typeError "Proxy constructor called on undefined new target"
      return .obj (← newProxy (c.arg 0) (c.arg 1))
  | .revocable =>
      let p ← newProxy (c.arg 0) (c.arg 1)
      let f ← newNative (.reflect .revoke) "" 0 [.obj p]
      record [("proxy", .obj p), ("revoke", .obj f)]
  | .revoke =>
      match c.datum 0 with
      | .obj p =>
          modifyObj p fun o =>
            match o.kind with
            | .proxy _ _ isCallable isCtor => { o with kind := .proxy none none isCallable isCtor }
            | _ => o
          return .undefined
      | _ => return .undefined

end Builtins.Reflection

end Inlay.Engine
