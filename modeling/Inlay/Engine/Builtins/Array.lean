import Inlay.Engine.Builtins.Basic

/-! # Built-in functions on arrays

    Methods work on any object with a length; an array is only made where a new one is needed. -/

namespace Inlay.Engine

open Exec

namespace Builtins.Arrays

def listThis (c : Call) : Exec (Ref × Nat) := do
  let r ← toObject c.this
  return (r, ← lengthOf r)

def newOfLength (n : Nat) (proto : Ref := Intrinsic.arrayProto) : Exec Ref := do
  if n > 4294967295 then rangeError "array exceeded max size"
  alloc { proto := some proto, kind := .array #[] n true }

/-- A new list like an existing one: an array, or what the constructor of the list asks for. -/
def speciesList (r : Ref) (n : Nat) : Exec Ref := do
  if !(← isArray (.obj r)) then return ← newOfLength n
  let ctor ← Object.get r (Key.text "constructor")
  let ctor ← match ctor with
    | .obj c =>
        match ← Object.get c (.sym WellKnown.species) with
        | .null => pure .undefined
        | s => pure s
    | v => pure v
  match ctor with
  | .undefined => newOfLength n
  | .obj c =>
      if c == Intrinsic.arrayCtor then return ← newOfLength n
      if !(← obj c).isConstructor then typeError "Symbol.species must be a constructor"
      match ← Object.construct c #[.nat n] with
      | .obj r => return r
      | _ => newOfLength n
  | _ => typeError "Symbol.species must be a constructor"

def item? (r : Ref) (i : Nat) : Exec (Option Value) := do
  match ← kind r with
  | .array items _ _ =>
      match items[i]? with
      | some (some v) => return some v
      | _ => slow
  | _ => slow
where
  slow : Exec (Option Value) := do
    if ← Object.has r (.index i) then return some (← Object.get r (.index i))
    return none

def make (c : Call) (callee : Ref) : Exec Value := do
  let newTarget := if c.isConstruct then c.newTarget else .obj callee
  let proto ← protoFor newTarget Intrinsic.arrayProto
  match c.args.size, c.arg 0 with
  | 1, .num n =>
      let k := n.toUInt32
      if !n.eq k then rangeError "invalid array length"
      return .obj (← newOfLength k proto)
  | _, _ =>
      return .obj (← alloc {
        proto := some proto, kind := .array (c.args.map some) c.args.size true })

/-- A list made by a constructor, or an array where there is none. -/
def startList (ctor : Value) (args : Array Value) : Exec Ref := do
  if ← Object.isConstructor ctor then
    match ctor with
    | .obj r =>
        match ← Object.construct r args with
        | .obj l => return l
        | _ => newOfLength 0
    | _ => newOfLength 0
  else newOfLength 0

def source (c : Call) : Exec Value := do
  let items := c.arg 0
  let f := c.arg 1
  if !f.isUndefined then
    requireCallable f s!"`{← typeOf f}` is not callable"
  let mapped (v : Value) (i : Nat) : Exec Value := do
    if f.isUndefined then return v else Object.call f (c.arg 2) #[v, .nat i]
  match ← getMethod items (.sym WellKnown.iterator) with
  | some m =>
      let r ← startList c.this #[]
      let id ← iterateWith items m
      let n ← Iter.fold id 0 fun i v => do
        Object.createDataOrThrow r (.index i) (← mapped v i)
        return i + 1
      Object.setLengthOf r n
      return .obj r
  | none =>
      let s ← toObject items
      let n ← lengthOf s
      let r ← startList c.this #[.nat n]
      for i in [0:n] do
        Object.createDataOrThrow r (.index i) (← mapped (← Object.get s (.index i)) i)
      Object.setLengthOf r n
      return .obj r

def of (c : Call) : Exec Value := do
  let r ← startList c.this #[.nat c.args.size]
  for i in [0:c.args.size] do
    Object.createDataOrThrow r (.index i) (c.arg i)
  Object.setLengthOf r c.args.size
  return .obj r

/-! ## Visiting items -/

def visit (r : Ref) (n : Nat) (f : Value) (this : Value) (skipsHoles : Bool)
    (stop : Nat → Value → Value → Option Value) : Exec (Option Value) := do
  for i in [0:n] do
    let v? ← if skipsHoles then item? r i else some <$> Object.get r (.index i)
    match v? with
    | some v =>
        let answer ← Object.call f this #[v, .nat i, .obj r]
        match stop i v answer with
        | some result => return some result
        | none => pure ()
    | none => pure ()
  return none

def visitBack (r : Ref) (n : Nat) (f : Value) (this : Value)
    (stop : Nat → Value → Value → Option Value) : Exec (Option Value) := do
  for j in [0:n] do
    let i := n - 1 - j
    let v ← Object.get r (.index i)
    let answer ← Object.call f this #[v, .nat i, .obj r]
    match stop i v answer with
    | some result => return some result
    | none => pure ()
  return none

def finder (c : Call) (name : String) (isBack : Bool)
    (result : Nat → Value → Value) (default : Value) : Exec Value := do
  let (r, n) ← listThis c
  requireCallable (c.arg 0) s!"Array.prototype.{name}: predicate is not callable"
  let stop (i : Nat) (v answer : Value) : Option Value :=
    if answer.truthy then some (result i v) else none
  let found ← if isBack then visitBack r n (c.arg 0) (c.arg 1) stop
    else visit r n (c.arg 0) (c.arg 1) false stop
  return found.getD default

/-- Methods that hand each item to a function. -/
def visiting (f : ArrayFn) (c : Call) : Exec Value := do
  match f with
  | .every =>
      let (r, n) ← listThis c
      requireCallable (c.arg 0) "Array.prototype.every: callback is not callable"
      let found ← visit r n (c.arg 0) (c.arg 1) true fun _ _ a =>
        if a.truthy then none else some (.bool false)
      return found.getD (.bool true)
  | .some =>
      let (r, n) ← listThis c
      requireCallable (c.arg 0) "Array.prototype.some: callback is not callable"
      let found ← visit r n (c.arg 0) (c.arg 1) true fun _ _ a =>
        if a.truthy then some (.bool true) else none
      return found.getD (.bool false)
  | .forEach =>
      let (r, n) ← listThis c
      requireCallable (c.arg 0) "Array.prototype.forEach: invalid callback function"
      let _ ← visit r n (c.arg 0) (c.arg 1) true fun _ _ _ => none
      return .undefined
  | .map =>
      let (r, n) ← listThis c
      requireCallable (c.arg 0) "Array.prototype.map: Callbackfn is not callable"
      let out ← speciesList r n
      for i in [0:n] do
        match ← item? r i with
        | some v =>
            let u ← Object.call (c.arg 0) (c.arg 1) #[v, .nat i, .obj r]
            Object.createDataOrThrow out (.index i) u
        | none => pure ()
      return .obj out
  | .filter =>
      let (r, n) ← listThis c
      requireCallable (c.arg 0) "Array.prototype.filter: `callback` must be callable"
      let out ← speciesList r 0
      let mut k := 0
      for i in [0:n] do
        match ← item? r i with
        | some v =>
            if (← Object.call (c.arg 0) (c.arg 1) #[v, .nat i, .obj r]).truthy then
              Object.createDataOrThrow out (.index k) v
              k := k + 1
        | none => pure ()
      return .obj out
  | .find => finder c "find" false (fun _ v => v) .undefined
  | .findIndex => finder c "findIndex" false (fun i _ => .nat i) (.int (-1))
  | .findLast => finder c "findLast" true (fun _ v => v) .undefined
  | .findLastIndex => finder c "findLastIndex" true (fun i _ => .nat i) (.int (-1))
  | _ => return .undefined

/-- Folds the items, from the first or from the last on. -/
def reduce (c : Call) (isBack : Bool) : Exec Value := do
  let name := if isBack then "reduceRight" else "reduce"
  let (r, n) ← listThis c
  requireCallable (c.arg 0) s!"Array.prototype.{name}: callback function is not callable"
  let mut acc : Option Value := if c.args.size > 1 then some (c.arg 1) else none
  for j in [0:n] do
    let i := if isBack then n - 1 - j else j
    match ← item? r i with
    | some v =>
        match acc with
        | none => acc := some v
        | some a => acc := some (← Object.call (c.arg 0) .undefined #[a, v, .nat i, .obj r])
    | none => pure ()
  match acc with
  | some v => return v
  | none =>
      typeError s!"Array.prototype.{name}: called on an empty array and with no initial value"

/-! ## Searching -/

def indexOf (c : Call) : Exec Value := do
  let (r, n) ← listThis c
  if n == 0 then return .int (-1)
  let start ← relative (c.arg 1) n 0
  for i in [start:n] do
    match ← item? r i with
    | some v => if v.strictEq (c.arg 0) then return .nat i
    | none => pure ()
  return .int (-1)

def lastIndexOf (c : Call) : Exec Value := do
  let (r, n) ← listThis c
  if n == 0 then return .int (-1)
  let from_ ← if c.args.size > 1 then toIntegerClamped (c.arg 1) else pure ((n : Int) - 1)
  let last := if from_ < 0 then from_ + n else min from_ (n - 1)
  let count := (last + 1).toNat
  for j in [0:count] do
    let i := count - 1 - j
    match ← item? r i with
    | some v => if v.strictEq (c.arg 0) then return .nat i
    | none => pure ()
  return .int (-1)

def includes (c : Call) : Exec Value := do
  let (r, n) ← listThis c
  if n == 0 then return .bool false
  let start ← relative (c.arg 1) n 0
  for i in [start:n] do
    if (← Object.get r (.index i)).sameZero (c.arg 0) then return .bool true
  return .bool false

def itemAt (c : Call) : Exec Value := do
  let (r, n) ← listThis c
  let i ← toIntegerClamped (c.arg 0)
  let i := if i < 0 then i + n else i
  if i < 0 || i ≥ n then return .undefined
  Object.get r (.index i.toNat)

/-! ## Changing -/

def push (c : Call) : Exec Value := do
  let (r, n) ← listThis c
  if n + c.args.size > maxLength then
    typeError "the length + the number of arguments exceed the maximum safe integer limit"
  for i in [0:c.args.size] do
    Object.set r (.index (n + i)) (c.arg i)
  Object.setLengthOf r (n + c.args.size)
  return .nat (n + c.args.size)

def pop (c : Call) : Exec Value := do
  let (r, n) ← listThis c
  if n == 0 then
    Object.setLengthOf r 0
    return .undefined
  let v ← Object.get r (.index (n - 1))
  Object.deleteOrThrow r (.index (n - 1))
  Object.setLengthOf r (n - 1)
  return v

/-- Moves an item, or removes the target where there is none. -/
def move (r : Ref) (source target : Nat) : Exec Unit := do
  match ← item? r source with
  | some v => Object.set r (.index target) v
  | none => Object.deleteOrThrow r (.index target)

def shift (c : Call) : Exec Value := do
  let (r, n) ← listThis c
  if n == 0 then
    Object.setLengthOf r 0
    return .undefined
  let v ← Object.get r (.index 0)
  for i in [1:n] do
    move r i (i - 1)
  Object.deleteOrThrow r (.index (n - 1))
  Object.setLengthOf r (n - 1)
  return v

def unshift (c : Call) : Exec Value := do
  let (r, n) ← listThis c
  let k := c.args.size
  if k > 0 then
    if n + k > maxLength then
      typeError "length + number of arguments exceeds the max safe integer limit"
    for j in [0:n] do
      let i := n - 1 - j
      move r i (i + k)
    for i in [0:k] do
      Object.set r (.index i) (c.arg i)
  Object.setLengthOf r (n + k)
  return .nat (n + k)

def reverse (c : Call) : Exec Value := do
  let (r, n) ← listThis c
  for i in [0:n / 2] do
    let j := n - 1 - i
    let a ← item? r i
    let b ← item? r j
    match b with
    | some v => Object.set r (.index i) v
    | none => if a.isSome then Object.deleteOrThrow r (.index i)
    match a with
    | some v => Object.set r (.index j) v
    | none => if b.isSome then Object.deleteOrThrow r (.index j)
  return .obj r

def fill (c : Call) : Exec Value := do
  let (r, n) ← listThis c
  let start ← relative (c.arg 1) n 0
  let stop ← relative (c.arg 2) n n
  for i in [start:stop] do
    Object.set r (.index i) (c.arg 0)
  return .obj r

def copyWithin (c : Call) : Exec Value := do
  let (r, n) ← listThis c
  let target ← relative (c.arg 0) n 0
  let start ← relative (c.arg 1) n 0
  let stop ← relative (c.arg 2) n n
  let count := min (stop - start) (n - target)
  for j in [0:count] do
    let i := if start < target && target < start + count then count - 1 - j else j
    move r (start + i) (target + i)
  return .obj r

/-- The part of a list that a splice removes: its start and its length. -/
def spliceRange (c : Call) (n : Nat) : Exec (Nat × Nat) := do
  let start ← relative (c.arg 0) n 0
  let count ← match c.args.size with
    | 0 => pure 0
    | 1 => pure (n - start)
    | _ => do pure (min (← toIntegerClamped (c.arg 1)).toNat (n - start))
  return (start, count)

def splice (c : Call) : Exec Value := do
  let (r, n) ← listThis c
  let (start, count) ← spliceRange c n
  let items := c.args.extract 2 c.args.size
  let k := items.size
  if n + k - count > maxLength then typeError "Target splice exceeded max safe integer value"
  let out ← speciesList r count
  for i in [0:count] do
    match ← item? r (start + i) with
    | some v => Object.createDataOrThrow out (.index i) v
    | none => pure ()
  Object.setLengthOf out count
  if k < count then
    for i in [start:n - count] do
      move r (i + count) (i + k)
    for j in [0:count - k] do
      Object.deleteOrThrow r (.index (n - 1 - j))
  else if k > count then
    for j in [0:n - count - start] do
      let i := n - count - 1 - j
      move r (i + count) (i + k)
  for i in [0:k] do
    Object.set r (.index (start + i)) (items.getD i .undefined)
  Object.setLengthOf r (n - count + k)
  return .obj out

def checkComparator (v : Value) : Exec Unit := do
  if !v.isUndefined then
    requireCallable v "The comparison function must be either a function or undefined"

def sort (c : Call) : Exec Value := do
  checkComparator (c.arg 0)
  let (r, n) ← listThis c
  let mut items := #[]
  for i in [0:n] do
    match ← item? r i with
    | some v => items := items.push v
    | none => pure ()
  let vs ← sorted (c.arg 0) items
  for i in [0:vs.size] do
    Object.set r (.index i) (vs.getD i .undefined)
  for i in [vs.size:n] do
    if ← Object.has r (.index i) then Object.deleteOrThrow r (.index i)
  return .obj r

/-! ## New lists -/

def slice (c : Call) : Exec Value := do
  let (r, n) ← listThis c
  let start ← relative (c.arg 0) n 0
  let stop ← relative (c.arg 1) n n
  let out ← speciesList r (stop - start)
  for i in [start:stop] do
    match ← item? r i with
    | some v => Object.createDataOrThrow out (.index (i - start)) v
    | none => pure ()
  Object.setLengthOf out (stop - start)
  return .obj out

/-- Whether a value is spread when lists are put together. -/
def spreads (v : Value) : Exec Bool := do
  match v with
  | .obj r =>
      match ← Object.get r (.sym WellKnown.isConcatSpreadable) with
      | .undefined => isArray v
      | s => return s.truthy
  | _ => return false

def concat (c : Call) : Exec Value := do
  let r ← toObject c.this
  let out ← speciesList r 0
  let mut n := 0
  for v in (#[.obj r] ++ c.args : Array Value) do
    if ← spreads v then
      match v with
      | .obj l =>
          let k ← lengthOf l
          for i in [0:k] do
            match ← item? l i with
            | some u => Object.createDataOrThrow out (.index (n + i)) u
            | none => pure ()
          n := n + k
      | _ => pure ()
    else
      Object.createDataOrThrow out (.index n) v
      n := n + 1
  Object.setLengthOf out n
  return .obj out

/-- Adds the items of a list to another, lists among them opened up to a depth: the list and its
    length, what each item is turned into, and the place behind the items so far. -/
def flattenInto (out : Ref) : Nat → Ref → Nat → (Nat → Value → Exec Value) → Nat → Exec Nat
  | depth, r, n, change, start => do
      let mut k := start
      for i in [0:n] do
        match ← item? r i with
        | none => pure ()
        | some v =>
            let v ← change i v
            let opened ← match depth, v with
              | _ + 1, .obj l => if ← isArray v then pure (some l) else pure none
              | _, _ => pure none
            match opened, depth with
            | some l, d + 1 =>
                k ← flattenInto out d l (← lengthOf l) (fun _ v => pure v) k
            | _, _ =>
                if k > maxLength then typeError "Invalid array length"
                Object.createDataOrThrow out (.index k) v
                k := k + 1
      return k

def flat (c : Call) : Exec Value := do
  let (r, n) ← listThis c
  let depth ← if (c.arg 0).isUndefined then pure 1 else do pure (← toIntegerClamped (c.arg 0))
  let out ← speciesList r 0
  let _ ← flattenInto out (min depth.toNat 1000) r n (fun _ v => pure v) 0
  return .obj out

def flatMap (c : Call) : Exec Value := do
  let (r, n) ← listThis c
  requireCallable (c.arg 0) "flatMap mapper function is not callable"
  let out ← speciesList r 0
  let change (i : Nat) (v : Value) : Exec Value :=
    Object.call (c.arg 0) (c.arg 1) #[v, .nat i, .obj r]
  let _ ← flattenInto out 1 r n change 0
  return .obj out

/-- The items from a place up to another, holes read as undefined. -/
def itemsOf (r : Ref) (start stop : Nat) : Exec (Array Value) := do
  let mut out := #[]
  for i in [start:stop] do
    out := out.push (← Object.get r (.index i))
  return out

def toSpliced (c : Call) : Exec Value := do
  let (r, n) ← listThis c
  let (start, count) ← spliceRange c n
  let items := c.args.extract 2 c.args.size
  if n + items.size - count > maxLength then
    typeError "Target splice exceeded max safe integer value"
  arrayOf ((← itemsOf r 0 start) ++ items ++ (← itemsOf r (start + count) n))

def withItem (c : Call) : Exec Value := do
  let (r, n) ← listThis c
  let i ← toIntegerClamped (c.arg 0)
  let i := if i < 0 then i + n else i
  if i < 0 || i ≥ n then rangeError "invalid integer index for TypedArray operation"
  let mut out := #[]
  for j in [0:n] do
    out := out.push (← if j == i.toNat then pure (c.arg 1) else Object.get r (.index j))
  arrayOf out

/-! ## Texts -/

def joinWith (r : Ref) (n : Nat) (sep : Units) (part : Value → Exec Units) : Exec Units := do
  let mut out : Units := .empty
  for i in [0:n] do
    if i > 0 then out := out ++ sep
    let v ← Object.get r (.index i)
    if !v.isNullish then out := out ++ (← part v)
  return out

def join (c : Call) : Exec Value := do
  let (r, n) ← listThis c
  let sep ← if (c.arg 0).isUndefined then pure (Units.ofString ",") else toText (c.arg 0)
  return .str (← joinWith r n sep toText)

def textOf (c : Call) : Exec Value := do
  let r ← toObject c.this
  let f ← Object.get r (Key.text "join")
  if ← Object.isCallable f then Object.call f (.obj r)
  else
    match ← Object.get r (.sym WellKnown.toStringTag) with
    | .str s => return .str (.ofString "[object " ++ s ++ .ofString "]")
    | _ => return .text "[object Array]"

def localeText (c : Call) : Exec Value := do
  let (r, n) ← listThis c
  return .str (← joinWith r n (.ofString ", ") fun v => do
    toText (← invoke v (Key.text "toLocaleString")))

/-! ## Iterators -/

def iterator (c : Call) (sort : IterSort) : Exec Value := do
  let r ← toObject c.this
  return .obj (← alloc {
    proto := some Intrinsic.arrayIteratorProto, kind := .arrayIter (some r) 0 sort })

def run (f : ArrayFn) (c : Call) (callee : Ref) : Exec Value := do
  match f with
  | .make => make c callee
  | .source => source c
  | .isArray => return .bool (← isArray (c.arg 0))
  | .of => of c
  | .species => return c.this
  | .at_ => itemAt c
  | .concat => concat c
  | .copyWithin => copyWithin c
  | .entries => iterator c .entries
  | .fill => fill c
  | .flat => flat c
  | .flatMap => flatMap c
  | .includes => includes c
  | .indexOf => indexOf c
  | .join => join c
  | .keys => iterator c .keys
  | .lastIndexOf => lastIndexOf c
  | .pop => pop c
  | .push => push c
  | .reduce => reduce c false
  | .reduceRight => reduce c true
  | .reverse => reverse c
  | .shift => shift c
  | .slice => slice c
  | .sort => sort c
  | .splice => splice c
  | .toLocaleString => localeText c
  | .toReversed =>
      let (r, n) ← listThis c
      let mut out := #[]
      for i in [0:n] do
        out := out.push (← Object.get r (.index (n - 1 - i)))
      arrayOf out
  | .toSorted =>
      checkComparator (c.arg 0)
      let (r, n) ← listThis c
      arrayOf (← sorted (c.arg 0) (← itemsOf r 0 n))
  | .toSpliced => toSpliced c
  | .toText => textOf c
  | .unshift => unshift c
  | .values => iterator c .values
  | .with_ => withItem c
  | f => visiting f c

end Builtins.Arrays

end Inlay.Engine
