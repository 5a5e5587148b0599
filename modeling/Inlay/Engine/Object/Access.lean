import Inlay.Engine.Object.Convert

/-! # Defining and assigning members -/

namespace Inlay.Engine

open Exec

namespace Object

/-! ## Elements of typed arrays -/

/-- Stores an element; the value is converted first, and an index outside is passed over. -/
def setElement (r : Ref) (i : Num) (v : Value) : Exec Unit := do
  match ← kind r with
  | .typed s buffer offset _ =>
      let content : Num ⊕ Int ← if s.isBig then pure (.inr (← toBigInt v))
        else pure (.inl (← toNumber v))
      match i.toInt?, i.isMinusZero with
      | some (.ofNat n), false =>
          if n < (← elementCount r) then setBytes buffer (offset + n * s.size) (s.encode content)
      | _, _ => pure ()
  | _ => pure ()

/-! ## Definitions -/

def checkLength (v : Value) : Exec Nat := do
  let x ← toNumber v
  let n := x.toUInt32
  if !x.eq n then rangeError "bad length for array"
  return n

def define (r : Ref) (k : Key) (d : Descriptor) : Exec Bool := do
  match ← kind r with
  | .proxy _ _ _ _ => (← read).define r k d
  | .array _ length isGrowable =>
      match k.index? with
      | some i =>
          if i ≥ length && !isGrowable then return false
          ordinaryDefine r k d
      | none =>
          if k == Key.text "length" then
            match d.value with
            | some v =>
                let n ← checkLength v
                defineLength r n d
            | none => defineLength r length d
          else ordinaryDefine r k d
  | .arguments mapped s => defineArgument r mapped s k d
  | .typed _ _ _ _ =>
      match canonicalIndex? k with
      | some n =>
          let length ← elementCount r
          let inside := match n.toInt? with
            | some i => 0 ≤ i && i < length && !n.isMinusZero
            | none => false
          if !inside || d.isConfigurable == some false || d.isEnumerable == some false
              || d.isAccessor || d.isWritable == some false then return false
          match d.value with
          | some v => setElement r n v
          | none => pure ()
          return true
      | none => ordinaryDefine r k d
  | _ => ordinaryDefine r k d

def defineOrThrow (r : Ref) (k : Key) (d : Descriptor) : Exec Unit := do
  if !(← define r k d) then typeError s!"cannot redefine property: {← keyText k}"

def createData (r : Ref) (k : Key) (v : Value) : Exec Bool := define r k (.plain v)

def createDataOrThrow (r : Ref) (k : Key) (v : Value) : Exec Unit := defineOrThrow r k (.plain v)

/-! ## Assignment -/

/-- Assigns to a property that the receiver itself has or gets. -/
def setOnReceiver (k : Key) (v receiver : Value) : Exec Bool := do
  match receiver with
  | .obj r =>
      match ← getOwn r k with
      | some p =>
          match p.content with
          | .accessor _ _ => return false
          | .data _ w => if w then define r k (.ofValue v) else return false
      | none => createData r k v
  | _ => return false

def setFrom (k : Key) (v receiver : Value) : Nat → Ref → Exec Bool
  | 0, _ => return false
  | n + 1, r => do
      if ← isProxy r then (← read).set r k v receiver
      else match ← ownProperty r k with
        | some p =>
            match p.content with
            | .data _ w => if w then setOnReceiver k v receiver else return false
            | .accessor _ (some s) =>
                let _ ← call (.obj s) receiver #[v]
                return true
            | .accessor _ none => return false
        | none =>
            match (← obj r).proto with
            | some p => setFrom k v receiver n p
            | none => setOnReceiver k v receiver

def setAs (r : Ref) (k : Key) (v receiver : Value) : Exec Bool := do
  match ← kind r, receiver with
  | .array items _ _, .obj q =>
      match k.index? with
      | some i =>
          match items[i]?, q == r with
          | some (some _), true =>
              modifyObj r (putItem · i v)
              return true
          | _, _ => setFrom k v receiver protoDepth r
      | none => setFrom k v receiver protoDepth r
  | .typed _ _ _ _, .obj q =>
      match canonicalIndex? k with
      | some n =>
          if q == r then
            setElement r n v
            return true
          setFrom k v receiver protoDepth r
      | none => setFrom k v receiver protoDepth r
  | _, _ => setFrom k v receiver protoDepth r

/-- Assigns to a member and fails if that is not possible. -/
def set (r : Ref) (k : Key) (v : Value) : Exec Unit := do
  if !(← setAs r k v (.obj r)) then typeError s!"cannot set non-writable property: {← keyText k}"

def setLengthOf (r : Ref) (n : Nat) : Exec Unit := set r (Key.text "length") (.nat n)

def deleteOrThrow (r : Ref) (k : Key) : Exec Unit := do
  if !(← delete r k) then typeError s!"cannot delete non-configurable property: {← keyText k}"

end Object

def setMember (v : Value) (k : Key) (x : Value) (isStrict : Bool) : Exec Unit := do
  match v with
  | .obj r =>
      let done ← Object.setAs r k x v
      if !done && isStrict then typeError s!"cannot set non-writable property: {← keyText k}"
  | v =>
      match primitiveProto? v with
      | some p =>
          let done ← match v, k.index? with
            | .str s, some i =>
                if i < s.size then pure false else Object.setAs p k x v
            | .str _, none =>
                if k == Key.text "length" then pure false else Object.setAs p k x v
            | _, _ => Object.setAs p k x v
          if !done && isStrict then typeError s!"cannot set non-writable property: {← keyText k}"
      | none => noObject

/-! ## Lists -/

def listItems (r : Ref) : Exec (Array Value) := do
  match ← kind r with
  | .array items length _ =>
      if items.size == length && items.all Option.isSome then return items.filterMap id
      slow length
  | _ => slow (← lengthOf r)
where
  slow (n : Nat) : Exec (Array Value) := do
    let mut out := #[]
    for i in [0:n] do
      out := out.push (← Object.get r (.index i))
    return out

def isArray (v : Value) : Exec Bool :=
  match v with
  | .obj r => go 1000 r
  | _ => return false
where
  go : Nat → Ref → Exec Bool
  | 0, _ => return false
  | n + 1, r => do
      match ← kind r with
      | .array _ _ _ => return true
      | .proxy (some t) _ _ _ => go n t
      | .proxy none _ _ _ => typeError "Proxy object has been revoked"
      | _ => return false

/-! ## Iteration -/

def iterateWith (v method : Value) : Exec IterId := do
  let it ← Object.call method v
  if !it.isObject then typeError "returned iterator is not an object"
  let next ← getMember it (Key.text "next")
  newIter { iterator := it, next }

def iterate (v : Value) : Exec IterId := do
  match v with
  | .undefined | .null => typeError s!"value with type `{← typeOfPlain v}` is not iterable"
  | v =>
      match ← getMethod v (.sym WellKnown.iterator) with
      | some m => iterateWith v m
      | none => typeError s!"value with type `{← typeOfPlain v}` is not iterable"
where
  typeOfPlain (v : Value) : Exec String := do
    match v with
    | .null => return "null"
    | v => typeOf v

def Iter.step (i : IterId) : Exec (Option Value) := do
  let it ← iter i
  if it.isDone then return none
  -- an iteration that fails is over
  modifyIter i fun it => { it with isDone := true }
  if !(← Object.isCallable it.next) then
    typeError s!"value with type `{← typeOf it.next}` is not callable"
  let r ← Object.call it.next it.iterator
  match r with
  | .obj r =>
      if (← Object.get r (Key.text "done")).truthy then return none
      let v ← Object.get r (Key.text "value")
      modifyIter i fun it => { it with isDone := false }
      return some v
  | _ => typeError "next value should be an object"

def Iter.close (i : IterId) : Exec Unit := do
  let it ← iter i
  if it.isDone then return
  modifyIter i fun it => { it with isDone := true }
  match ← getMethod it.iterator (Key.text "return") with
  | some f =>
      let r ← Object.call f it.iterator
      if !r.isObject then typeError "inner result was not an object"
  | none => pure ()

/-- Ends an iteration because of a failure, whose place any other failure would take. -/
def Iter.abandon (i : IterId) : Exec Unit := do
  let it ← iter i
  if it.isDone then return
  modifyIter i fun it => { it with isDone := true }
  try
    match ← getMethod it.iterator (Key.text "return") with
    | some f =>
        let _ ← Object.call f it.iterator
    | none => pure ()
  catch
    | .throw _ => pure ()
    | a => throw a

def iterLimit : Nat := 10000000

/-- Folds the items of an iteration; a failure of the program ends the iteration. -/
def Iter.fold {σ : Type} (i : IterId) (init : σ) (f : σ → Value → Exec σ) : Exec σ :=
  go iterLimit init
where
  go : Nat → σ → Exec σ
  | 0, _ => halt "exceeded maximum number of iterations"
  | n + 1, s => do
      match ← Iter.step i with
      | none => return s
      | some v =>
          let s ← tryCatch (f s v) fun a =>
            match a with
            | .throw e => do
                Iter.abandon i
                raise e
            | a => throw a
          go n s

def Iter.forEach (i : IterId) (f : Value → Exec Unit) : Exec Unit :=
  Iter.fold i () fun _ v => f v

def Iter.collect (i : IterId) : Exec (Array Value) := go iterLimit #[]
where
  go : Nat → Array Value → Exec (Array Value)
  | 0, _ => halt "exceeded maximum number of iterations"
  | n + 1, out => do
      match ← Iter.step i with
      | none => return out
      | some v => go n (out.push v)

/-- Whether an array is iterated in the ordinary way, so that its items can be taken directly. -/
def isPlainIterable (v : Value) : Exec Bool := do
  match v with
  | .obj r =>
      match ← kind r with
      | .array items length _ =>
          if items.size != length || !items.all Option.isSome then return false
          let m ← get
          let own := (m.heap[r]!).listed? (.sym WellKnown.iterator)
          let proto := (m.heap[r]!).proto
          let base := (m.heap[Intrinsic.arrayProto]!).listed? (.sym WellKnown.iterator)
          let step := (m.heap[Intrinsic.arrayIteratorProto]!).listed? (Key.text "next")
          let isBase := match base.map Property.value with
            | some (.obj f) => f == Intrinsic.arrayValues
            | _ => false
          let isStep := match step.map Property.value with
            | some (.obj f) => match m.heap[f]!.kind with
                | .native (.iterator .arrayNext) _ _ => true
                | _ => false
            | _ => false
          return own.isNone && proto == some Intrinsic.arrayProto && isBase && isStep
      | _ => return false
  | _ => return false

def iterableItems (v : Value) : Exec (Array Value) := do
  if ← isPlainIterable v then
    match v with
    | .obj r => return ← listItems r
    | _ => pure ()
  Iter.collect (← iterate v)

def iterResult (v : Value) (isDone : Bool) : Exec Value := do
  let r ← alloc {
    proto := some Intrinsic.objectProto
    props := #[(Key.text "value", .plain v), (Key.text "done", .plain (.bool isDone))] }
  return .obj r

/-! ## Descriptors as objects -/

def fromProperty (p : Property) : Exec Value := do
  let content : Array (Key × Property) := match p.content with
    | .data v w => #[(Key.text "value", .plain v), (Key.text "writable", .plain (.bool w))]
    | .accessor g s =>
        #[(Key.text "get", .plain (.ofOption g)), (Key.text "set", .plain (.ofOption s))]
  let props := content ++
    #[(Key.text "enumerable", .plain (.bool p.isEnumerable)),
      (Key.text "configurable", .plain (.bool p.isConfigurable))]
  return .obj (← alloc { proto := some Intrinsic.objectProto, props })

def fromDescriptor (d : Descriptor) : Exec Value := do
  let item (name : String) (v : Option Value) : List (Key × Property) :=
    match v with
    | some v => [(Key.text name, .plain v)]
    | none => []
  let props := item "value" d.value ++ item "writable" (d.isWritable.map .bool)
    ++ item "get" (d.getter.map .ofOption) ++ item "set" (d.setter.map .ofOption)
    ++ item "enumerable" (d.isEnumerable.map .bool)
    ++ item "configurable" (d.isConfigurable.map .bool)
  return .obj (← alloc { proto := some Intrinsic.objectProto, props := props.toArray })

def toDescriptor (v : Value) : Exec Descriptor := do
  match v with
  | .obj r =>
      let field (name : String) : Exec (Option Value) := do
        if ← Object.has r (Key.text name) then return some (← Object.get r (Key.text name))
        return none
      let fn (name message : String) : Exec (Option (Option Ref)) := do
        match ← field name with
        | none => return none
        | some .undefined => return some none
        | some f =>
            if !(← Object.isCallable f) then typeError message
            return some f.toRef?
      let isEnumerable := (← field "enumerable").map Value.truthy
      let isConfigurable := (← field "configurable").map Value.truthy
      let value ← field "value"
      let isWritable := (← field "writable").map Value.truthy
      let getter ← fn "get" "Property descriptor getter must be callable"
      let setter ← fn "set" "Property descriptor setter must be callable"
      let d : Descriptor := { value, isWritable, getter, setter, isEnumerable, isConfigurable }
      if d.isAccessor && d.isData then
        typeError ("Invalid property descriptor.Cannot both specify accessors and a value or "
          ++ "writable attribute")
      return d
  | _ => typeError "Cannot construct a property descriptor from a non-object"

/-! ## Constructors -/

/-- The prototype for an object made on behalf of a constructor. -/
def protoFor (newTarget : Value) (default : Ref) : Exec Ref := do
  match newTarget with
  | .obj r =>
      match ← Object.get r (Key.text "prototype") with
      | .obj p => return p
      | _ => return default
  | _ => return default

/-- The constructor by which new objects of the same sort are made. -/
def speciesOf (r : Ref) (default : Ref) : Exec Ref := do
  match ← Object.get r (Key.text "constructor") with
  | .undefined => return default
  | .obj c =>
      match ← Object.get c (.sym WellKnown.species) with
      | .undefined | .null => return default
      | .obj s =>
          if (← obj s).isConstructor then return s
          typeError "property 'constructor' is not a constructor"
      | _ => typeError "property 'constructor' is not a constructor"
  | _ => typeError "property 'constructor' is not an object"

end Inlay.Engine
