import Inlay.Engine.Builtins.Basic
import Inlay.Engine.Display

/-! # Maps, sets and their weak forms

    Entries keep the order in which they were added; a removed entry leaves a gap, so that iterators
    in progress keep their place. -/

namespace Inlay.Engine

open Exec

namespace Builtins.Collections

/-- A key as collections keep it: zero without its sign. -/
def keyOf (v : Value) : Value :=
  match v with
  | .num n => if n.isMinusZero then .nat 0 else v
  | v => v

def findEntry (entries : Array (Option (Value × Value))) (k : Value) : Option Nat :=
  entries.findIdx? fun e => match e with
    | some (k', _) => k'.sameZero k
    | none => false

def findItem (items : Array (Option Value)) (k : Value) : Option Nat :=
  items.findIdx? fun e => match e with
    | some k' => k'.sameZero k
    | none => false

def mapThis (c : Call) (message : String := "'this' is not a Map") :
    Exec (Ref × Array (Option (Value × Value))) := do
  match c.this with
  | .obj r =>
      match ← kind r with
      | .map es => return (r, es)
      | _ => typeError message
  | _ => typeError message

def setThis (c : Call) (name : String) : Exec (Ref × Array (Option Value)) := do
  let message := s!"Method {name} called on incompatible receiver"
  match c.this with
  | .obj r =>
      match ← kind r with
      | .set es => return (r, es)
      | _ => typeError message
  | _ => typeError message

def mapPut (r : Ref) (k v : Value) : Exec Unit :=
  modifyObj r fun o =>
    match o with
    | { kind := .map es, .. } =>
        match findEntry es k with
        | some i => { o with kind := .map (es.set! i (some (keyOf k, v))) }
        | none => { o with kind := .map (es.push (some (keyOf k, v))) }
    | o => o

def setPut (r : Ref) (k : Value) : Exec Unit :=
  modifyObj r fun o =>
    match o with
    | { kind := .set es, .. } =>
        match findItem es k with
        | some _ => o
        | none => { o with kind := .set (es.push (some (keyOf k))) }
    | o => o

/-- Adds the pairs of an iterable through a method of the new object. -/
def addPairs (r : Ref) (v : Value) : Exec Unit := do
  if v.isNullish then return
  let f ← Object.get r (Key.text "set")
  requireCallable f "property `set` of `NewTarget` is not callable"
  let i ← iterate v
  Iter.forEach i fun e => do
    if !e.isObject then typeError "cannot get key and value from primitive item of `iterable`"
    let k ← getMember e (.index 0)
    let x ← getMember e (.index 1)
    let _ ← Object.call f (.obj r) #[k, x]

def addItems (r : Ref) (v : Value) (message : String) : Exec Unit := do
  if v.isNullish then return
  let f ← Object.get r (Key.text "add")
  requireCallable f message
  let i ← iterate v
  Iter.forEach i fun e => do
    let _ ← Object.call f (.obj r) #[e]

/-- A new collection for a constructor, which must be called with `new`. -/
def construct (c : Call) (default : Ref) (k : Kind) (message : String) : Exec Ref := do
  if !c.isConstruct then typeError message
  alloc { proto := some (← protoFor c.newTarget default), kind := k }

def mapFn (f : CollectionFn) (c : Call) : Exec Value := do
  match f with
  | .makeMap =>
      let r ← construct c Intrinsic.mapProto (.map #[])
        "calling a builtin Map constructor without new is forbidden"
      addPairs r (c.arg 0)
      return .obj r
  | .mapGroupBy =>
      let groups ← groupItems c (fun v => return keyOf v) Value.sameZero
      let mut es := #[]
      for (k, vs) in groups do
        es := es.push (some (k, ← arrayOf vs))
      return .obj (← alloc { proto := some Intrinsic.mapProto, kind := .map es })
  | .mapClear =>
      let (r, es) ← mapThis c
      setKind r (.map (es.map fun _ => none))
      return .undefined
  | .mapDelete =>
      let (r, es) ← mapThis c
      match findEntry es (c.arg 0) with
      | some i =>
          setKind r (.map (es.set! i none))
          return .bool true
      | none => return .bool false
  | .mapEntries =>
      let (r, _) ← mapThis c "`this` is not a Map"
      return .obj (← alloc {
        proto := some Intrinsic.mapIteratorProto, kind := .mapIter (some r) 0 .entries })
  | .mapKeys =>
      let (r, _) ← mapThis c "`this` is not a Map"
      return .obj (← alloc {
        proto := some Intrinsic.mapIteratorProto, kind := .mapIter (some r) 0 .keys })
  | .mapValues =>
      let (r, _) ← mapThis c "`this` is not a Map"
      return .obj (← alloc {
        proto := some Intrinsic.mapIteratorProto, kind := .mapIter (some r) 0 .values })
  | .mapForEach =>
      let (r, _) ← mapThis c
      if !(← Object.isCallable (c.arg 0)) then
        typeError s!"{← Display.ofValue (c.arg 0)} is not a function"
      visit r 0 iterLimit
      return .undefined
  | .mapGet =>
      let (_, es) ← mapThis c
      match (findEntry es (c.arg 0)).bind fun i => (es[i]?).join with
      | some (_, v) => return v
      | none => return .undefined
  | .mapHas =>
      let (_, es) ← mapThis c
      return .bool (findEntry es (c.arg 0)).isSome
  | .mapSet =>
      let (r, _) ← mapThis c
      mapPut r (c.arg 0) (c.arg 1)
      return c.this
  | .mapSize =>
      let (_, es) ← mapThis c
      return .nat (es.filter Option.isSome).size
  | _ => return .undefined
where
  /-- Visits entries, also those that are added meanwhile. -/
  visit (r : Ref) (i : Nat) : Nat → Exec Unit
    | 0 => return
    | n + 1 => do
        match ← kind r with
        | .map es =>
            match es[i]? with
            | none => return
            | some none => visit r (i + 1) n
            | some (some (k, v)) =>
                let _ ← Object.call (c.arg 0) (c.arg 1) #[v, k, .obj r]
                visit r (i + 1) n
        | _ => return

def setFn (f : CollectionFn) (c : Call) : Exec Value := do
  match f with
  | .makeSet =>
      let r ← construct c Intrinsic.setProto (.set #[])
        "calling a builtin Set constructor without new is forbidden"
      addItems r (c.arg 0) "'add' of 'newTarget' is not a function"
      return .obj r
  | .setAdd =>
      let (r, _) ← setThis c "Set.prototype.add"
      setPut r (c.arg 0)
      return c.this
  | .setClear =>
      let (r, es) ← setThis c "Set.prototype.clear"
      setKind r (.set (es.map fun _ => none))
      return .undefined
  | .setDelete =>
      let (r, es) ← setThis c "Set.prototype.delete"
      match findItem es (c.arg 0) with
      | some i =>
          setKind r (.set (es.set! i none))
          return .bool true
      | none => return .bool false
  | .setEntries =>
      let (r, _) ← setThis c "Set.prototype.entries"
      return .obj (← alloc {
        proto := some Intrinsic.setIteratorProto, kind := .setIter (some r) 0 .entries })
  | .setValues =>
      let (r, _) ← setThis c "Set.prototype.values"
      return .obj (← alloc {
        proto := some Intrinsic.setIteratorProto, kind := .setIter (some r) 0 .values })
  | .setForEach =>
      let (r, _) ← setThis c "Set.prototype.forEach"
      requireCallable (c.arg 0)
        "Method Set.prototype.forEach called with non-callable callback function"
      visit r 0 iterLimit
      return .undefined
  | .setHas =>
      let (_, es) ← setThis c "Set.prototype.has"
      return .bool (findItem es (c.arg 0)).isSome
  | .setSize =>
      let (_, es) ← setThis c "get Set.prototype.size"
      return .nat (es.filter Option.isSome).size
  | _ => return .undefined
where
  visit (r : Ref) (i : Nat) : Nat → Exec Unit
    | 0 => return
    | n + 1 => do
        match ← kind r with
        | .set es =>
            match es[i]? with
            | none => return
            | some none => visit r (i + 1) n
            | some (some v) =>
                let _ ← Object.call (c.arg 0) (c.arg 1) #[v, v, .obj r]
                visit r (i + 1) n
        | _ => return

/-- The object of a method, and what it is; nothing of interest if it is none. -/
def weakThis (c : Call) : Exec (Ref × Kind) := do
  match c.this with
  | .obj r => return (r, ← kind r)
  | _ => return (0, .ordinary)

def weakFn (f : CollectionFn) (c : Call) : Exec Value := do
  match f with
  | .makeWeakMap =>
      let r ← construct c Intrinsic.weakMapProto (.weakMap #[])
        "WeakMap: cannot call constructor without `new`"
      addPairs r (c.arg 0)
      return .obj r
  | .makeWeakSet =>
      let r ← construct c Intrinsic.weakSetProto (.weakSet #[])
        "WeakSet: cannot call constructor without `new`"
      addItems r (c.arg 0) "WeakSet: 'add' is not a function"
      return .obj r
  | .makeWeakRef =>
      let message := "WeakRef: cannot call constructor without `new`"
      if !c.isConstruct then typeError message
      if !(c.arg 0).isObject then
        typeError (s!"WeakRef: expected target argument of type `object`, "
          ++ s!"got target of type `{← typeOf (c.arg 0)}`")
      return .obj (← construct c Intrinsic.weakRefProto (.weakRef (c.arg 0)) message)
  | .weakRefDeref =>
      match ← weakThis c with
      | (_, .weakRef v) => return v
      | _ => typeError "WeakRef.prototype.deref: expected `this` to be a `WeakRef` object"
  | .weakMapDelete =>
      match ← weakThis c with
      | (r, .weakMap es) =>
          let kept := es.filter fun e => !e.1.strictEq (c.arg 0)
          setKind r (.weakMap kept)
          return .bool (kept.size != es.size)
      | _ => typeError "WeakMap.delete: called with non-object value"
  | .weakMapGet =>
      match ← weakThis c with
      | (_, .weakMap es) =>
          match es.find? fun e => e.1.strictEq (c.arg 0) with
          | some (_, v) => return v
          | none => return .undefined
      | _ => typeError "WeakMap.get: called with non-object value"
  | .weakMapHas =>
      match ← weakThis c with
      | (_, .weakMap es) => return .bool (es.any fun e => e.1.strictEq (c.arg 0))
      | _ => typeError "WeakMap.has: called with non-object value"
  | .weakMapSet =>
      match ← weakThis c with
      | (r, .weakMap es) =>
          if !(c.arg 0).isObject then
            typeError (s!"WeakMap.set: expected target argument of type `object`, "
              ++ s!"got target of type `{← typeOf (c.arg 0)}`")
          setKind r
            (.weakMap ((es.filter fun e => !e.1.strictEq (c.arg 0)).push (c.arg 0, c.arg 1)))
          return c.this
      | _ => typeError "WeakMap.set: called with non-object value"
  | .weakSetAdd =>
      match ← weakThis c with
      | (r, .weakSet es) =>
          if !(c.arg 0).isObject then
            typeError (s!"WeakSet.add: expected target argument of type `object`, "
              ++ s!"got target of type `{← typeOf (c.arg 0)}`")
          if !es.any (·.strictEq (c.arg 0)) then setKind r (.weakSet (es.push (c.arg 0)))
          return c.this
      | _ => typeError "WeakSet.add: called with non-object value"
  | .weakSetDelete =>
      match ← weakThis c with
      | (r, .weakSet es) =>
          let kept := es.filter fun e => !e.strictEq (c.arg 0)
          setKind r (.weakSet kept)
          return .bool (kept.size != es.size)
      | _ => typeError "WeakSet.delete: called with non-object value"
  | .weakSetHas =>
      match ← weakThis c with
      | (_, .weakSet es) => return .bool (es.any (·.strictEq (c.arg 0)))
      | _ => typeError "WeakSet.has: called with non-object value"
  | _ => return .undefined

def run (f : CollectionFn) (c : Call) : Exec Value :=
  match f with
  | .makeMap | .mapGroupBy | .mapClear | .mapDelete | .mapEntries | .mapForEach | .mapGet | .mapHas
  | .mapKeys | .mapSet | .mapSize | .mapValues => mapFn f c
  | .makeSet | .setAdd | .setClear | .setDelete | .setEntries | .setForEach | .setHas | .setSize
  | .setValues => setFn f c
  | .species => return c.this
  | f => weakFn f c

end Builtins.Collections

end Inlay.Engine
