import Inlay.Engine.Machine

/-! # Own properties

    The properties that an object itself has.  Arrays, texts, argument lists and typed arrays keep
    some of theirs outside the general list; what is read and written here hides that. -/

namespace Inlay.Engine

namespace Obj

def findFrom (props : Array (Key × Property)) (k : Key) : Nat → Nat → Option Nat
  | 0, _ => none
  | fuel + 1, i =>
      match props[i]? with
      | some (k', _) => if k' == k then some i else findFrom props k fuel (i + 1)
      | none => none

def find? (o : Obj) (k : Key) : Option Nat := findFrom o.props k o.props.size 0

def listed? (o : Obj) (k : Key) : Option Property :=
  match o.find? k with
  | some i => (o.props[i]?).map Prod.snd
  | none => none

/-- Adds a property to the general list, or replaces it there. -/
def put (o : Obj) (k : Key) (p : Property) : Obj :=
  match o.find? k with
  | some i => { o with props := o.props.set! i (k, p) }
  | none => { o with props := o.props.push (k, p) }

def erase (o : Obj) (k : Key) : Obj :=
  match o.find? k with
  | some i => { o with props := o.props.eraseIdxIfInBounds i }
  | none => o

def isCallable (o : Obj) : Bool :=
  match o.kind with
  | .closure _ | .native _ _ _ | .bound _ _ _ => true
  | .proxy _ _ c _ => c
  | _ => false

def isConstructor (o : Obj) : Bool :=
  match o.kind with
  | .closure c =>
      let i := c.node.fnInfo
      match i.sort with
      | .plain => !i.isAsync && !i.isGenerator
      | .ctor | .derived => true
      | _ => c.isClass
  | .native _ c _ => c
  | .bound _ _ _ => true
  | .proxy _ _ _ c => c
  | _ => false

end Obj

/-! ## Keys in order -/

def mergeNats : List Nat → List Nat → List Nat
  | [], bs => bs
  | as, [] => as
  | a :: as, b :: bs => if a ≤ b then a :: mergeNats as (b :: bs) else b :: mergeNats (a :: as) bs

/-- Keys in their order: indices ascending, then other texts, then symbols. -/
def orderKeys (indices : List Nat) (ks : List Key) : List Key :=
  let more := (ks.filterMap Key.index?).mergeSort (· ≤ ·)
  let texts := ks.filter fun k => k.isString && k.index?.isNone
  let symbols := ks.filter (!·.isString)
  (mergeNats indices more).map Key.index ++ texts ++ symbols

/-! ## Elements of typed arrays -/

namespace ElementSort

def size : ElementSort → Nat
  | int8 | uint8 | uint8Clamped => 1
  | int16 | uint16 => 2
  | int32 | uint32 | float32 => 4
  | bigInt64 | bigUint64 | float64 => 8

def arrayName : ElementSort → String
  | int8 => "Int8Array"
  | uint8 => "Uint8Array"
  | uint8Clamped => "Uint8ClampedArray"
  | int16 => "Int16Array"
  | uint16 => "Uint16Array"
  | int32 => "Int32Array"
  | uint32 => "Uint32Array"
  | bigInt64 => "BigInt64Array"
  | bigUint64 => "BigUint64Array"
  | float32 => "Float32Array"
  | float64 => "Float64Array"

def isBig : ElementSort → Bool
  | bigInt64 | bigUint64 => true
  | _ => false

/-- The value of some bytes, the least significant first. -/
def decode (s : ElementSort) (bytes : List UInt8) : Value :=
  let n : Nat := bytes.foldr (fun b n => 256 * n + b.toNat) 0
  let signed (bits : Nat) : Int :=
    if n ≥ Nat.pow 2 (bits - 1) then (n : Int) - Nat.pow 2 bits else n
  match s with
  | int8 => .int (signed 8)
  | uint8 | uint8Clamped | uint16 | uint32 => .nat n
  | int16 => .int (signed 16)
  | int32 => .int (signed 32)
  | bigInt64 => .big (signed 64)
  | bigUint64 => .big n
  | float32 => .float (Float32.ofBits n.toUInt32).toFloat
  | float64 => .float (Float.ofBits n.toUInt64)

def bytesOf (count : Nat) (n : Nat) : List UInt8 :=
  (List.range count).map fun i => (n / Nat.pow 256 i % 256).toUInt8

/-- A number rounded to the nearest whole number between 0 and 255, ties to the even one. -/
def clamp (x : Num) : Nat :=
  let f := x.toFloat
  if f.isNaN || f ≤ 0 then 0
  else if f ≥ 255 then 255
  else
    let low := f.floor
    let d := f - low
    let n := (truncated low).toNat
    if d < 0.5 then n else if d > 0.5 then n + 1 else if n % 2 == 0 then n else n + 1

def encode (s : ElementSort) (v : Num ⊕ Int) : List UInt8 :=
  match s, v with
  | uint8Clamped, .inl x => bytesOf 1 (clamp x)
  | float32, .inl x => bytesOf 4 x.toFloat.toFloat32.toBits.toNat
  | float64, .inl x => bytesOf 8 x.toFloat.toBits.toNat
  | s, .inl x => bytesOf s.size (x.wrapped (8 * s.size))
  | s, .inr n => bytesOf s.size (n % (Nat.pow 2 (8 * s.size) : Int)).toNat

end ElementSort

/-- The number a text stands for if it is the text of that number: such keys of typed arrays never
    reach their prototypes. -/
def canonicalIndex? (k : Key) : Option Num :=
  match k with
  | .sym _ => none
  | .str s =>
      match s.index? with
      | some n => some n
      | none =>
          if s == .ofString "-0" then some (.real (-0.0))
          else match s.get? 0 with
            | some u =>
                -- only texts that start like a number can be one
                if (48 ≤ u && u ≤ 57) || u == 45 || u == 73 || u == 78 then
                  let x := parseNumber s
                  if numberUnits x == s then some (.real x) else none
                else none
            | none => none

namespace Object

open Exec

def elementBytes (buffer : Ref) (start count : Nat) : Exec (List UInt8) := do
  match ← kind buffer with
  | .buffer bytes _ _ => return (bytes.extract start (start + count)).toList
  | _ => return []

def setBytes (buffer : Ref) (start : Nat) (bs : List UInt8) : Exec Unit := do
  modifyObj buffer fun o =>
    match o with
    | { kind := .buffer bytes limit isShared, .. } =>
        let bytes := (bs.zipIdx).foldl (fun a (b, i) => a.setIfInBounds (start + i) b) bytes
        { o with kind := .buffer bytes limit isShared }
    | o => o

/-- How many units of some bytes a part of a buffer has now; nothing if it reaches beyond the
    buffer. -/
def partLength? (buffer : Ref) (offset : Nat) (length : Option Nat) (unit : Nat) :
    Exec (Option Nat) := do
  let size ← match ← kind buffer with
    | .buffer bytes _ _ => pure bytes.size
    | _ => pure 0
  match length with
  | some n => return if offset + n * unit > size then none else some n
  | none => return if offset > size then none else some ((size - offset) / unit)

/-- How many elements a typed array has now. -/
def elementCount (r : Ref) : Exec Nat := do
  match ← kind r with
  | .typed s buffer offset length => return (← partLength? buffer offset length s.size).getD 0
  | _ => return 0

def element? (r : Ref) (i : Num) : Exec (Option Value) := do
  match ← kind r with
  | .typed s buffer offset _ =>
      match i.toInt?, i.isMinusZero with
      | some (.ofNat n), false =>
          if n < (← elementCount r) then
            return some (s.decode (← elementBytes buffer (offset + n * s.size) s.size))
          return none
      | _, _ => return none
  | _ => return none

def sharedValue (s : ScopeId) (x : Name) : Exec (Option Value) := do
  match (← scope s).names.find? (·.name == x) with
  | some b => return b.value
  | none => return none

def setShared (s : ScopeId) (x : Name) (v : Value) : Exec Unit :=
  modifyScope s fun sc =>
    { sc with names := sc.names.map fun b => if b.name == x then { b with value := some v } else b }

def ownProperty (r : Ref) (k : Key) : Exec (Option Property) := do
  let o ← obj r
  match o.kind with
  | .array items length isGrowable =>
      match k.index? with
      | some i =>
          match items[i]? with
          | some (some v) => return some (.plain v)
          | _ => return o.listed? k
      | none =>
          if k == Key.text "length" then
            return some ⟨.data (.nat length) isGrowable, false, false⟩
          return o.listed? k
  | .str s =>
      match k.index? with
      | some i =>
          match s.get? i with
          | some u => return some ⟨.data (.str ⟨#[u]⟩) false, true, false⟩
          | none => return o.listed? k
      | none =>
          if k == Key.text "length" then return some (.fixed (.nat s.size))
          return o.listed? k
  | .arguments mapped s =>
      match o.listed? k, k.index? with
      | some p, some i =>
          match (mapped[i]?).join with
          | some x =>
              match ← sharedValue s x, p.content with
              | some v, .data _ w => return some { p with content := .data v w }
              | _, _ => return some p
          | none => return some p
      | p, _ => return p
  | .typed _ _ _ _ =>
      match canonicalIndex? k with
      | some n =>
          match ← element? r n with
          | some v => return some (.plain v)
          | none => return none
      | none => return o.listed? k
  | _ => return o.listed? k

/-! ## Arrays -/

/-- How far behind the end of the plain items a new one may be for holes to be filled in. -/
def maxGap : Nat := 64

/-- Puts a plain item into an array whose length already covers it. -/
def putItem (o : Obj) (i : Nat) (v : Value) : Obj :=
  match o with
  | { kind := .array items length g, .. } =>
      if i < items.size then { o with kind := .array (items.set! i (some v)) length g }
      else if i ≤ items.size + maxGap then
        let filled := (List.range (i - items.size)).foldl (fun a _ => a.push none) items
        { o with kind := .array (filled.push (some v)) length g }
      else o.put (.index i) (.plain v)
  | o => o

/-- Moves an item of an array to the general list, where it can have attributes. -/
def unpackItem (o : Obj) (i : Nat) (p : Property) : Obj :=
  match o with
  | { kind := .array items length g, .. } =>
      let o := if i < items.size then { o with kind := .array (items.set! i none) length g } else o
      o.put (.index i) p
  | o => o

def isPlain (p : Property) : Bool :=
  p.isEnumerable && p.isConfigurable && match p.content with
    | .data _ w => w
    | .accessor _ _ => false

def putIndex (o : Obj) (i : Nat) (p : Property) : Obj :=
  let grow (o : Obj) : Obj := match o with
    | { kind := .array items length g, .. } =>
        { o with kind := .array items (max length (i + 1)) g }
    | o => o
  if isPlain p && (o.listed? (.index i)).isNone then grow (putItem o i p.value)
  else grow (unpackItem o i p)

/-- Shortens or lengthens an array.  Items from the new length on go away, the last first, until one
    that cannot; whether all went away comes beside the array. -/
def setLength (o : Obj) (n : Nat) : Obj × Bool :=
  match o with
  | { kind := .array items length g, .. } =>
      if n ≥ length then ({ o with kind := .array items n g }, true)
      else
        let stuck := o.props.foldl (fun (m : Nat) (k, p) =>
          match k.index? with
          | some i => if i ≥ n && !p.isConfigurable then max m (i + 1) else m
          | none => m) n
        let props := o.props.filter fun (k, _) => match k.index? with
          | some i => i < stuck
          | none => true
        ({ o with kind := .array (items.extract 0 stuck) stuck g, props }, stuck == n)
  | o => (o, true)

/-! ## Definitions -/

def store (r : Ref) (k : Key) (p : Property) : Exec Unit := do
  match ← kind r, k.index? with
  | .array _ _ _, some i => modifyObj r (putIndex · i p)
  | _, _ => modifyObj r (·.put k p)

/-- Defines a property as the rules for ordinary objects say. -/
def ordinaryDefine (r : Ref) (k : Key) (d : Descriptor) : Exec Bool := do
  match ← ownProperty r k with
  | none =>
      if !(← obj r).isExtensible then return false
      store r k d.toProperty
      return true
  | some p =>
      if !d.allowedBy p then return false
      store r k (d.update p)
      return true

/-- Defines the length of an array, given as a number that has been checked. -/
def defineLength (r : Ref) (n : Nat) (d : Descriptor) : Exec Bool := do
  match ← kind r with
  | .array _ length isGrowable =>
      let old : Property := ⟨.data (.nat length) isGrowable, false, false⟩
      let d := { d with value := d.value.map fun _ => .nat n }
      if !d.allowedBy old then return false
      let o ← obj r
      let (o, done) := if d.value.isSome then setLength o n else (o, true)
      let o := if d.isWritable == some false then
          match o with
          | { kind := .array items length _, .. } => { o with kind := .array items length false }
          | o => o
        else o
      modifyObj r fun _ => o
      return done
  | _ => return false

/-- Defines a property of an argument list; a name that shares its value follows or lets go. -/
def defineArgument (r : Ref) (mapped : Array (Option Name)) (s : ScopeId) (k : Key)
    (d : Descriptor) : Exec Bool := do
  match k.index? with
  | none => ordinaryDefine r k d
  | some i =>
      match (mapped[i]?).join with
      | none => ordinaryDefine r k d
      | some x =>
          let shared ← sharedValue s x
          let d' := if d.isWritable == some false && d.value.isNone then { d with value := shared }
            else d
          if !(← ordinaryDefine r k d') then return false
          match d.value with
          | some v => setShared s x v
          | none => pure ()
          if d.isAccessor || d.isWritable == some false then
            setKind r (.arguments (mapped.set! i none) s)
          return true

/-! ## Deletion and keys -/

def ordinaryDelete (r : Ref) (k : Key) : Exec Bool := do
  match ← ownProperty r k with
  | none => return true
  | some p =>
      if !p.isConfigurable then return false
      match ← kind r, k.index? with
      | .array items length g, some i =>
          if i < items.size then setKind r (.array (items.set! i none) length g)
      | .arguments mapped s, some i =>
          if i < mapped.size then setKind r (.arguments (mapped.set! i none) s)
      | _, _ => pure ()
      match ← kind r with
      | .typed _ _ _ _ =>
          -- an element that exists stays
          return (canonicalIndex? k).isNone
      | _ =>
          modifyObj r (·.erase k)
          return true

def ordinaryKeys (r : Ref) : Exec (List Key) := do
  let o ← obj r
  let listed := (o.props.map Prod.fst).toList
  match o.kind with
  | .array items _ _ =>
      let indices := (List.range items.size).filter fun i => match items[i]? with
        | some (some _) => true
        | _ => false
      let ks := orderKeys indices listed
      let (before, after) := ks.partition fun k => k.index?.isSome
      return before ++ [Key.text "length"] ++ after
  | .str s =>
      let ks := orderKeys (List.range s.size) listed
      let (before, after) := ks.partition fun k => k.index?.isSome
      return before ++ [Key.text "length"] ++ after
  | .typed _ _ _ _ => return orderKeys (List.range (← elementCount r)) listed
  | _ => return orderKeys [] listed

end Object

end Inlay.Engine
