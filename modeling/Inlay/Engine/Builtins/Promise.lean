import Inlay.Engine.Builtins.Basic

/-! # Built-in functions on promises

    Functions that wait for a promise are accepted and kept waiting, as `Promise` says; so a promise
    made of others is settled only when there are none. -/

namespace Inlay.Engine

open Exec

namespace Builtins.Promises

/-- A promise with the functions that settle it. -/
structure Capability where
  promise : Value
  resolve : Value
  reject : Value

def settlers (p : Ref) : Exec (Value × Value) := do
  let f ← newNative (.promise .resolver) "" 1 [.obj p]
  let g ← newNative (.promise .rejecter) "" 1 [.obj p]
  return (.obj f, .obj g)

def capability (ctor : Value) : Exec Capability := do
  match ctor with
  | .obj c =>
      if !(← obj c).isConstructor then typeError "PromiseCapability: expected constructor"
      if c == Intrinsic.promiseCtor then
        let p ← Promise.new
        let (f, g) ← settlers p
        return ⟨.obj p, f, g⟩
      let holder ← newObject
      let executor ← newNative (.promise .executor) "" 2 [.obj holder]
      let p ← Object.construct c #[.obj executor]
      let f ← Object.get holder (Key.text "resolve")
      let g ← Object.get holder (Key.text "reject")
      requireCallable f "promiseCapability.[[Resolve]] is not callable"
      requireCallable g "promiseCapability.[[Reject]] is not callable"
      return ⟨p, f, g⟩
  | _ => typeError "PromiseCapability: expected constructor"

/-- Runs a program; what it throws rejects the promise. -/
def rejecting (cap : Capability) (p : Exec Unit) : Exec Value := do
  tryCatch p fun a =>
    match a with
    | .throw e => do
        let _ ← Object.call cap.reject .undefined #[e]
    | a => throw a
  return cap.promise

def make (c : Call) : Exec Value := do
  if !c.isConstruct then typeError "Promise NewTarget cannot be undefined"
  requireCallable (c.arg 0) "Promise executor is not callable"
  let p ← Promise.new (← protoFor c.newTarget Intrinsic.promiseProto)
  let (f, g) ← settlers p
  rejecting ⟨.obj p, f, g⟩ do
    let _ ← Object.call (c.arg 0) .undefined #[f, g]

def isPromise (v : Value) : Exec Bool := do
  match v with
  | .obj r =>
      match ← kind r with
      | .promise _ _ => return true
      | _ => return false
  | _ => return false

/-- A promise of a constructor for a value: the value itself if it is one. -/
def resolved (ctor v : Value) : Exec Value := do
  if ← isPromise v then
    let c ← getMember v (Key.text "constructor")
    if c.strictEq ctor then return v
  let cap ← capability ctor
  let _ ← Object.call cap.resolve .undefined #[v]
  return cap.promise

/-- Refuses to call a function of the constructor on what is no object. -/
def requireObject (c : Call) (name : String) : Exec Unit := do
  if !c.this.isObject then typeError s!"Promise.{name}() called on a non-object"

/-- Waits for all promises of an iterable; `whenEmpty` settles the promise if there are none. -/
def combine (c : Call) (name : String) (whenEmpty : Capability → Exec Unit) : Exec Value := do
  requireObject c name
  let cap ← capability c.this
  rejecting cap do
    let f ← getMember c.this (Key.text "resolve")
    requireCallable f "retrieving a non-callable promise resolver"
    let i ← iterate (c.arg 0)
    let n ← Iter.fold i 0 fun n v => do
      let next ← Object.call f c.this #[v]
      let g ← newNative (.promise .elementDone) "" 1
      let _ ← invoke next (Key.text "then") #[.obj g, cap.reject]
      return n + 1
    if n == 0 then whenEmpty cap

def settleOnce (v : Value) (settle : Ref → Exec Unit) : Exec Value := do
  match v with
  | .obj p =>
      match ← kind p with
      | .promise _ false => settle p
      | _ => pure ()
  | _ => pure ()
  return .undefined

def speciesFor (v : Value) : Exec Value := do
  match v with
  | .obj r => return .obj (← speciesOf r Intrinsic.promiseCtor)
  | _ => typeError "finally called with a non-object promise"

def run (f : PromiseFn) (c : Call) : Exec Value := do
  match f with
  | .make => make c
  | .resolve =>
      requireObject c "resolve"
      resolved c.this (c.arg 0)
  | .reject =>
      requireObject c "reject"
      let cap ← capability c.this
      let _ ← Object.call cap.reject .undefined #[c.arg 0]
      return cap.promise
  | .all | .allSettled =>
      combine c (if f == .all then "all" else "allSettled") fun cap => do
        let _ ← Object.call cap.resolve .undefined #[← arrayOf #[]]
  | .any =>
      combine c "any" fun cap => do
        let e ← newError .aggregate "no promise in Promise.any was fulfilled."
        let errors ← arrayOf #[]
        modifyObj e (·.put (Key.text "errors") (.hidden errors))
        let _ ← Object.call cap.reject .undefined #[.obj e]
  | .race => combine c "race" fun _ => return
  | .attempt =>
      requireObject c "try"
      let cap ← capability c.this
      rejecting cap do
        let v ← Object.call (c.arg 0) .undefined (c.args.extract 1 c.args.size)
        let _ ← Object.call cap.resolve .undefined #[v]
  | .withResolvers =>
      requireObject c "withResolvers"
      let cap ← capability c.this
      record [("promise", cap.promise), ("resolve", cap.resolve), ("reject", cap.reject)]
  | .then_ =>
      if !(← isPromise c.this) then typeError "Promise.prototype.then: this is not a promise"
      return (← capability (← speciesFor c.this)).promise
  | .catch_ => invoke c.this (Key.text "then") #[.undefined, c.arg 0]
  | .finally_ =>
      let ctor ← speciesFor c.this
      if !(← Object.isCallable (c.arg 0)) then
        invoke c.this (Key.text "then") #[c.arg 0, c.arg 0]
      else
        let f ← newNative (.promise .thenFinally) "" 1 [ctor, c.arg 0]
        let g ← newNative (.promise .catchFinally) "" 1 [ctor, c.arg 0]
        invoke c.this (Key.text "then") #[.obj f, .obj g]
  | .species => return c.this
  | .resolver => settleOnce (c.datum 0) fun p => Promise.resolve p (c.arg 0)
  | .rejecter => settleOnce (c.datum 0) fun p => Promise.reject p (c.arg 0)
  | .executor =>
      match c.datum 0 with
      | .obj holder =>
          if !(← Object.get holder (Key.text "resolve")).isUndefined then
            typeError "promiseCapability.[[Resolve]] is not undefined"
          if !(← Object.get holder (Key.text "reject")).isUndefined then
            typeError "promiseCapability.[[Reject]] is not undefined"
          let _ ← Object.createData holder (Key.text "resolve") (c.arg 0)
          let _ ← Object.createData holder (Key.text "reject") (c.arg 1)
          return .undefined
      | _ => return .undefined
  | .thenFinally =>
      let v ← Object.call (c.datum 1) .undefined
      let p ← resolved (c.datum 0) v
      invoke p (Key.text "then") #[]
  | .catchFinally =>
      let v ← Object.call (c.datum 1) .undefined
      let p ← resolved (c.datum 0) v
      invoke p (Key.text "then") #[]
  | .elementDone => return .undefined

end Builtins.Promises

end Inlay.Engine
