import Inlay.Engine.Function
import Inlay.Engine.Operator
import Inlay.Engine.Promise

/-! # Calls of built-in functions -/

namespace Inlay.Engine

open Exec

/-- A call of a built-in function. -/
structure Call where
  this : Value
  args : Array Value
  /-- What is constructed; nothing in a plain call. -/
  newTarget : Value := .undefined
  /-- The values that the function keeps. -/
  data : List Value := []

namespace Call

/-- An argument; one that is missing is undefined. -/
def arg (c : Call) (i : Nat) : Value := c.args.getD i .undefined

def isConstruct (c : Call) : Bool := !c.newTarget.isUndefined

def datum (c : Call) (i : Nat) : Value := (c.data[i]?).getD .undefined

end Call

/-- Refuses `undefined` and `null` as the object of a method. -/
def requireCoercible (v : Value) : Exec Unit := do
  if v.isNullish then typeError "cannot convert null or undefined to Object"

def requireCallable (v : Value) (message : String) : Exec Unit := do
  if !(← Object.isCallable v) then typeError message

def record (members : List (String × Value)) : Exec Value := do
  let props := members.map fun (n, v) => (Key.text n, Property.plain v)
  return .obj (← alloc { proto := some Intrinsic.objectProto, props := props.toArray })

def arrayOf (items : Array Value) : Exec Value := do return .obj (← newArray items)

def enumerableOwn (r : Ref) : Exec (List (Key × Value)) := do
  let mut out := []
  for k in ← Object.ownKeys r do
    if k.isString then
      match ← Object.getOwn r k with
      | some p => if p.isEnumerable then out := (k, ← Object.get r k) :: out
      | none => pure ()
  return out.reverse

/-- Groups the items of an iterable by what a function says of them. -/
def groupItems {κ : Type} (c : Call) (toGroup : Value → Exec κ) (same : κ → κ → Bool) :
    Exec (List (κ × Array Value)) := do
  requireCoercible (c.arg 0)
  requireCallable (c.arg 1) "callback must be a callable object"
  let items ← iterableItems (c.arg 0)
  let mut groups : List (κ × Array Value) := []
  for i in [0:items.size] do
    let v := items.getD i .undefined
    let k ← toGroup (← Object.call (c.arg 1) .undefined #[v, .nat i])
    if groups.any fun g => same g.1 k then
      groups := groups.map fun (k', vs) => if same k' k then (k', vs.push v) else (k', vs)
    else groups := groups ++ [(k, #[v])]
  return groups

/-! ## Sorting -/

/-- Puts an item into a sorted list, given from its end: behind all that it is not less than. -/
def insertBack (less : Value → Value → Exec Bool) (x : Value) : List Value → Exec (List Value)
  | [] => return [x]
  | y :: ys => do
      if ← less x y then return y :: (← insertBack less x ys) else return x :: y :: ys

def insertionSort (less : Value → Value → Exec Bool) (vs : List Value) : Exec (List Value) := do
  let back ← vs.foldlM (fun out x => insertBack less x out) []
  return back.reverse

/-- Merges two sorted lists; of equal items those of the first come first. -/
def merge (less : Value → Value → Exec Bool) : Nat → List Value → List Value → Exec (List Value)
  | _, [], bs => return bs
  | _, as, [] => return as
  | 0, as, bs => return as ++ bs
  | n + 1, a :: as, b :: bs => do
      if ← less b a then return b :: (← merge less n (a :: as) bs)
      else return a :: (← merge less n as (b :: bs))

/-- How many items are sorted by insertion. -/
def shortList : Nat := 20

def sortItems (less : Value → Value → Exec Bool) : Nat → List Value → Exec (List Value)
  | 0, vs => return vs
  | n + 1, vs => do
      if vs.length ≤ shortList then return ← insertionSort less vs
      let half := vs.length / 2
      let as ← sortItems less n (vs.take half)
      let bs ← sortItems less n (vs.drop half)
      merge less vs.length as bs

/-- Whether a comparison by a function puts an item first. -/
def comparesLess (f a b : Value) : Exec Bool := do
  return (← toNumber (← Object.call f .undefined #[a, b])).lt (.int 0)

/-- The order of items by a function, or by their texts; undefined ones come last. -/
def sortsBefore (f a b : Value) : Exec Bool := do
  match a, b with
  | .undefined, _ => return false
  | _, .undefined => return true
  | a, b =>
      if f.isUndefined then return (← toText a).compare (← toText b) == .lt
      comparesLess f a b

def sorted (f : Value) (vs : Array Value) : Exec (Array Value) := do
  return (← sortItems (sortsBefore f) (vs.size + 1) vs.toList).toArray

end Inlay.Engine
