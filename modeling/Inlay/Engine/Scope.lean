import Inlay.Engine.Object.Access

/-! # Names

    Names are looked up from the innermost scope outwards.  The outermost scope is that of the
    whole machine: names declared there by `let`, `const` and classes, then the properties of the
    global object. -/

namespace Inlay.Engine

open Exec

/-- Where a name was found. -/
inductive Found where
  | slot (s : ScopeId) (index : Nat)
  | member (r : Ref)
  | global
  deriving Inhabited

/-- Whether an object with properties as names lets a name be seen. -/
def seesName (r : Ref) (x : Name) : Exec Bool := do
  if !(← Object.has r (.str x)) then return false
  match ← Object.get r (.sym WellKnown.unscopables) with
  | .obj u => return !(← Object.get u (.str x)).truthy
  | _ => return true

def findBinding (names : Array Binding) (x : Name) : Option Nat := names.findIdx? (·.name == x)

def lookup (x : Name) : Nat → ScopeId → Exec Found
  | 0, _ => return .global
  | n + 1, s => do
      let sc ← scope s
      match findBinding sc.names x with
      | some i => return .slot s i
      | none =>
          match sc.sort with
          | .object r =>
              if ← seesName r x then return .member r
          | _ => pure ()
          match sc.parent with
          | some p => lookup x n p
          | none => return .global

def scopeDepth : Nat := 1000000

def resolve (x : Name) : Exec Found := do lookup x scopeDepth (← frame).scope

def uninitialized {α : Type} : Exec α := referenceError "access to uninitialized binding"

def readBinding (s : ScopeId) (i : Nat) : Exec Value := do
  match (← scope s).names[i]? with
  | some b =>
      match b.value with
      | some v => return v
      | none => uninitialized
  | none => uninitialized

def getName (x : Name) : Exec Value := do
  match ← resolve x with
  | .slot s i => readBinding s i
  | .member r => Object.get r (.str x)
  | .global =>
      if ← Object.has Intrinsic.global (.str x) then Object.get Intrinsic.global (.str x)
      else referenceError s!"{x.text} is not defined"

/-- What `typeof` says of a name, which need not exist. -/
def typeofName (x : Name) : Exec Value := do
  let v ← match ← resolve x with
    | .slot s i => readBinding s i
    | .member r => Object.get r (.str x)
    | .global => Object.get Intrinsic.global (.str x)
  return .text (← typeOf v)

def writeSlot (s : ScopeId) (i : Nat) (v : Value) : Exec Unit :=
  modifyScope s fun sc =>
    { sc with names := sc.names.modify i fun b => { b with value := some v } }

def setName (x : Name) (v : Value) : Exec Unit := do
  let isStrict := (← frame).strict
  match ← resolve x with
  | .slot s i =>
      match (← scope s).names[i]? with
      | some b =>
          if b.value.isNone then uninitialized
          if b.isConst then
            if isStrict || !b.isLenient then
              typeError s!"cannot mutate an immutable binding '{x.text}'"
            return
          writeSlot s i v
      | none => return
  | .member r => setMember (.obj r) (.str x) v isStrict
  | .global =>
      if isStrict && !(← Object.has Intrinsic.global (.str x)) then
        referenceError s!"cannot assign to uninitialized global property `{x.text}`"
      setMember (.obj Intrinsic.global) (.str x) v isStrict

def initName (x : Name) (v : Value) : Exec Unit := do
  match ← resolve x with
  | .slot s i => writeSlot s i v
  | .member r => setMember (.obj r) (.str x) v false
  | .global => setMember (.obj Intrinsic.global) (.str x) v false

def deleteName (x : Name) : Exec Bool := do
  match ← resolve x with
  | .slot _ _ => return false
  | .member r => Object.delete r (.str x)
  | .global => Object.delete Intrinsic.global (.str x)

/-! ## What functions see -/

/-- The scope of the function whose `this` is seen, arrow functions apart. -/
def functionScope : Nat → ScopeId → Exec (Option (ScopeId × FnScope))
  | 0, _ => return none
  | n + 1, s => do
      let sc ← scope s
      match sc.sort with
      | .function f => return some (s, f)
      | _ =>
          match sc.parent with
          | some p => functionScope n p
          | none => return none

def currentFunction : Exec (Option (ScopeId × FnScope)) := do
  functionScope scopeDepth (← frame).scope

def getThis : Exec Value := do
  match ← currentFunction with
  | none => return .obj Intrinsic.global
  | some (_, f) =>
      match f.this with
      | some v => return v
      | none =>
          referenceError
            ("Must call super constructor in derived class before accessing 'this' or returning "
              ++ "from derived constructor")

def bindThis (v : Value) : Exec Unit := do
  match ← currentFunction with
  | none => return
  | some (s, f) =>
      if f.this.isSome then referenceError "cannot reinitialize `this` binding"
      modifyScope s fun sc => { sc with sort := .function { f with this := some v } }

def getNewTarget : Exec Value := do
  match ← currentFunction with
  | none => return .undefined
  | some (_, f) => return f.newTarget

/-- The object on whose prototype `super` looks. -/
def superBase : Exec Value := do
  match ← currentFunction with
  | some (_, { home := some h, .. }) =>
      match ← Object.getProto h with
      | some p => return .obj p
      | none => return .null
  | _ => return .undefined

/-! ## Hidden names -/

def hiddenFrom (x : Name) : Nat → ScopeId → Exec (Option HiddenId)
  | 0, _ => return none
  | n + 1, s => do
      let sc ← scope s
      let here := match sc.sort with
        | .hidden names => names.lookup x
        | _ => none
      match here, sc.parent with
      | some id, _ => return some id
      | none, some p => hiddenFrom x n p
      | none, none => return none

def hiddenId (x : Name) : Exec HiddenId := do
  match ← hiddenFrom x scopeDepth (← frame).scope with
  | some id => return id
  | none => fail .source s!"undeclared private name {x.text}"

def hiddenMember? (v : Value) (id : HiddenId) : Exec (Option HiddenMember) := do
  match v with
  | .obj r => return (← obj r).hidden.lookup id
  | _ => return none

def getHidden (v : Value) (x : Name) : Exec Value := do
  if v.isNullish then noObject
  match ← hiddenMember? v (← hiddenId x) with
  | some (.field u) => return u
  | some (.method f) => return .obj f
  | some (.accessor (some g) _) => Object.call (.obj g) v
  | some (.accessor none _) => typeError "Private property was defined without a getter"
  | none => typeError "Private element does not exist on object"

def setHidden (v : Value) (x : Name) (u : Value) : Exec Unit := do
  if v.isNullish then noObject
  let id ← hiddenId x
  match v, ← hiddenMember? v id with
  | .obj r, some (.field _) =>
      modifyObj r fun o => { o with
        hidden := o.hidden.map fun (i, m) => if i == id then (i, .field u) else (i, m) }
  | _, some (.accessor _ (some s)) =>
      let _ ← Object.call (.obj s) v #[u]
  | _, some (.accessor _ none) => typeError "Private property was defined without a setter"
  | _, some (.method _) => typeError "private method is not writable"
  | _, _ => typeError "Private element does not exist on object"

def addHidden (r : Ref) (id : HiddenId) (m : HiddenMember) (sort : String) : Exec Unit := do
  match (← obj r).hidden.lookup id with
  | some _ => typeError s!"Private {sort} already exists on prototype"
  | none => modifyObj r fun o => { o with hidden := o.hidden ++ [(id, m)] }

/-- Adds the hidden methods of a class to an object; halves of one accessor come together. -/
def addHiddenMethods (r : Ref) (ms : List HiddenMethod) : Exec Unit := do
  for m in ms do
    match m.sort with
    | .method => addHidden r m.id (.method m.fn) "method"
    | .getter | .setter =>
        let old := (← obj r).hidden.lookup m.id
        let (g, s) : Option Ref × Option Ref := match old with
          | some (.accessor g s) => (g, s)
          | _ => (none, none)
        if (if m.sort == .getter then g else s).isSome then
          typeError "Private method already exists on prototype"
        let new := if m.sort == .getter then HiddenMember.accessor (some m.fn) s
          else .accessor g (some m.fn)
        modifyObj r fun o => { o with hidden := (o.hidden.filter (·.1 != m.id)) ++ [(m.id, new)] }

end Inlay.Engine
