import Inlay.Engine.Builtins.Array

/-! # Built-in functions on buffers of bytes

    A buffer holds bytes; typed arrays and views read and write them as numbers.  A buffer with a
    limit can change its size, and what has no length of its own follows it. -/

namespace Inlay.Engine

open Exec

namespace Builtins.Buffers

/-! ## Buffers -/

def maxBytes : Nat := 1610612736

def newBuffer (size : Nat) (limit : Option Nat := none) (isShared : Bool := false)
    (proto : Ref := Intrinsic.bufferProto) : Exec Ref := do
  if limit.getD size > maxBytes then
    rangeError "cannot allocate a buffer that exceeds the maximum buffer size"
  alloc { proto := some proto, kind := .buffer (Array.replicate size 0) limit isShared }

/-- A buffer with its contents. -/
structure Buffer where
  ref : Ref
  bytes : Array UInt8
  limit : Option Nat

def bufferThis (c : Call) (isShared : Bool) (message : String) : Exec Buffer := do
  match c.this with
  | .obj r =>
      match ← kind r with
      | .buffer bytes limit shared =>
          if shared != isShared then typeError message
          return ⟨r, bytes, limit⟩
      | _ => typeError message
  | _ => typeError message

def limitOption (v : Value) : Exec (Option Nat) := do
  match v with
  | .obj r =>
      match ← Object.get r (Key.text "maxByteLength") with
      | .undefined => return none
      | v => return some (← toIndex v)
  | _ => return none

def makeBuffer (c : Call) (isShared : Bool) : Exec Value := do
  let name := if isShared then "SharedArrayBuffer" else "ArrayBuffer"
  if !c.isConstruct then typeError s!"{name}.constructor called with undefined new target"
  let size ← toIndex (c.arg 0)
  let limit ← limitOption (c.arg 1)
  match limit with
  | some n => if size > n then rangeError "`length` cannot be bigger than `maxByteLength`"
  | none => pure ()
  let proto ← protoFor c.newTarget
    (if isShared then Intrinsic.sharedProto else Intrinsic.bufferProto)
  return .obj (← newBuffer size limit isShared proto)

/-- A copy of a part of a buffer, made by the constructor of the buffer. -/
def sliceBuffer (c : Call) (isShared : Bool) : Exec Value := do
  let name := if isShared then "SharedArrayBuffer" else "ArrayBuffer"
  let b ← bufferThis c isShared s!"{name}.slice called with invalid `this` value"
  let start ← relative (c.arg 0) b.bytes.size 0
  let stop ← relative (c.arg 1) b.bytes.size b.bytes.size
  let ctor ← speciesOf b.ref (if isShared then Intrinsic.sharedCtor else Intrinsic.bufferCtor)
  let count := stop - start
  match ← Object.construct ctor #[.nat count] with
  | .obj r =>
      match ← kind r with
      | .buffer bytes _ shared =>
          if shared != isShared then typeError s!"{name} constructor returned invalid object"
          if r == b.ref then typeError s!"new {name} is the same as this {name}"
          if bytes.size < count then typeError s!"new {name} length too small"
          Object.setBytes r 0 (b.bytes.extract start stop).toList
          return .obj r
      | _ => typeError s!"{name} constructor returned invalid object"
  | _ => typeError s!"{name} constructor returned invalid object"

/-- Changes the size of a buffer; new bytes are zero. -/
def setSize (b : Buffer) (isShared : Bool) (n : Nat) : Exec Unit :=
  let bytes := if n ≤ b.bytes.size then b.bytes.extract 0 n
    else b.bytes ++ Array.replicate (n - b.bytes.size) 0
  setKind b.ref (.buffer bytes b.limit isShared)

def resize (c : Call) : Exec Value := do
  let b ← bufferThis c false "ArrayBuffer.resize called with invalid `this` value"
  match b.limit with
  | none => typeError "ArrayBuffer.resize: cannot resize a fixed-length buffer"
  | some limit =>
      let n ← toIndex (c.arg 0)
      if n > limit then
        rangeError "ArrayBuffer.resize: new byte length exceeds buffer's maximum byte length"
      setSize b false n
      return .undefined

def grow (c : Call) : Exec Value := do
  let b ← bufferThis c true "SharedArrayBuffer.grow called with invalid `this` value"
  match b.limit with
  | none => typeError "SharedArrayBuffer.grow: cannot grow a fixed-length buffer"
  | some limit =>
      let n ← toIndex (c.arg 0)
      if n > limit || n < b.bytes.size then
        rangeError "SharedArrayBuffer.grow: new length of the buffer is bigger than its maximum"
      setSize b true n
      return .undefined

def ofBuffers (f : BufferFn) (c : Call) : Exec Value := do
  let own (name : String) : Exec Buffer :=
    bufferThis c false s!"get ArrayBuffer.prototype.{name} called with invalid `this`"
  let shared (name : String) : Exec Buffer :=
    bufferThis c true s!"get SharedArrayBuffer.prototype.{name} called with invalid `this`"
  match f with
  | .makeBuffer => makeBuffer c false
  | .byteLength => return .nat (← own "byteLength").bytes.size
  | .maxByteLength =>
      let b ← own "maxByteLength"
      return .nat (b.limit.getD b.bytes.size)
  | .resizable => return .bool (← own "resizable").limit.isSome
  | .resize => resize c
  | .sliceBuffer => sliceBuffer c false
  | .makeShared => makeBuffer c true
  | .sharedByteLength => return .nat (← shared "byteLength").bytes.size
  | .sharedMaxByteLength =>
      let b ← shared "maxByteLength"
      return .nat (b.limit.getD b.bytes.size)
  | .growable => return .bool (← shared "growable").limit.isSome
  | .grow => grow c
  | .sharedSlice => sliceBuffer c true
  | .isView =>
      match c.arg 0 with
      | .obj r =>
          match ← kind r with
          | .typed _ _ _ _ | .view _ _ _ => return .bool true
          | _ => return .bool false
      | _ => return .bool false
  | _ => return .undefined

/-! ## Typed arrays -/

/-- A typed array: its type of elements, its buffer, where it starts there, and its length. -/
structure Typed where
  ref : Ref
  sort : ElementSort
  buffer : Ref
  offset : Nat
  length : Nat
  /-- Whether the length follows the size of the buffer. -/
  follows : Bool

def notTyped : String := "`this` is not a typed array object"

/-- A typed array, also one that reaches beyond its buffer: that has no length. -/
def typedOf? (v : Value) (message : String) : Exec (Typed × Bool) := do
  match v with
  | .obj r =>
      match ← kind r with
      | .typed sort buffer offset length =>
          let n ← Object.partLength? buffer offset length sort.size
          return (⟨r, sort, buffer, offset, n.getD 0, length.isNone⟩, n.isNone)
      | _ => typeError message
  | _ => typeError message

def typedThis (v : Value) (message : String := notTyped) : Exec Typed := do
  let (t, isOutside) ← typedOf? v message
  if isOutside then typeError "typed array is outside the bounds of its inner buffer"
  return t

def newTyped (sort : ElementSort) (length : Nat) (proto : Ref := Intrinsic.elementProto sort) :
    Exec Ref := do
  let b ← newBuffer (length * sort.size)
  alloc { proto := some proto, kind := .typed sort b 0 (some length) }

def elementAt (t : Typed) (i : Nat) : Exec Value := do
  return (← Object.element? t.ref (.ofNat i)).getD .undefined

def elements (t : Typed) : Exec (Array Value) := do
  let mut out := #[]
  for i in [0:t.length] do
    out := out.push (← elementAt t i)
  return out

def fillWith (r : Ref) (vs : Array Value) : Exec Unit := do
  for h : i in [0:vs.size] do
    Object.setElement r (.ofNat i) vs[i]

def typedWith (sort : ElementSort) (vs : Array Value) : Exec Value := do
  let r ← newTyped sort vs.size
  fillWith r vs
  return .obj r

def overBuffer (sort : ElementSort) (c : Call) (buffer proto : Ref) : Exec Ref := do
  let offset ← toIndex (c.arg 1)
  if offset % sort.size != 0 then rangeError "byte offset of typed array must be aligned"
  let place (length : Option Nat) : Exec Ref :=
    alloc { proto := some proto, kind := .typed sort buffer offset length }
  let newLength ← if (c.arg 2).isUndefined then pure none else do pure (some (← toIndex (c.arg 2)))
  let (size, isFixed) ← match ← kind buffer with
    | .buffer bytes limit _ => pure (bytes.size, limit.isNone)
    | _ => pure (0, true)
  match newLength with
  | none =>
      if !isFixed then
        if offset > size then rangeError "offset of typed array exceeds buffer size"
        return ← place none
      if size % sort.size != 0 then
        rangeError "cannot construct a typed array with an unaligned buffer"
      if offset > size then rangeError "offset of typed array exceeds buffer size"
      place (some ((size - offset) / sort.size))
  | some n =>
      if offset + n * sort.size > size then
        rangeError "cannot create a typed array spanning a byte range outside of its buffer"
      place (some n)

def sortName (s : ElementSort) : String :=
  String.ofList (s.arrayName.toList.take (s.arrayName.length - "Array".length))

def makeTyped (sort : ElementSort) (c : Call) : Exec Value := do
  if !c.isConstruct then
    typeError s!"new target was undefined when constructing an {sortName sort}"
  let proto ← protoFor c.newTarget (Intrinsic.elementProto sort)
  match c.arg 0 with
  | .obj r =>
      match ← kind r with
      | .buffer _ _ _ => return .obj (← overBuffer sort c r proto)
      | .typed old _ _ _ =>
          let t ← typedThis (.obj r)
          let vs ← elements t
          if old.isBig != sort.isBig then
            typeError "Cannot initialize typed array from different content type"
          let t ← newTyped sort vs.size proto
          fillWith t vs
          return .obj t
      | _ =>
          let vs ← match ← getMethod (.obj r) (.sym WellKnown.iterator) with
            | some m => do
                if ← isPlainIterable (.obj r) then listItems r
                else Iter.collect (← iterateWith (.obj r) m)
            | none => listItems r
          let t ← newTyped sort vs.size proto
          fillWith t vs
          return .obj t
  | v => return .obj (← newTyped sort (← toIndex v) proto)

/-- A typed array made by a constructor; it has room for as many elements as are asked for. -/
def construct (ctor : Ref) (args : Array Value) : Exec Typed := do
  let t ← typedThis (← Object.construct ctor args)
  match args.toList with
  | [.num n] =>
      if (Num.ofNat t.length).lt n then typeError "new typed array length is smaller than expected"
  | _ => pure ()
  return t

/-- A typed array like an existing one, made by its constructor. -/
def speciesTyped (t : Typed) (args : Array Value) : Exec Typed := do
  let ctor ← speciesOf t.ref (Intrinsic.elementCtor t.sort)
  let new ← construct ctor args
  if new.sort.isBig != t.sort.isBig then
    typeError "Cannot initialize typed array from different content type"
  return new

def requireConstructor (v : Value) (name : String) : Exec Ref := do
  let message := s!"TypedArray.{name} called on non-constructable value"
  match v with
  | .obj r =>
      if !(← obj r).isConstructor then typeError message
      return r
  | _ => typeError message

def source (c : Call) : Exec Value := do
  let ctor ← requireConstructor c.this "from"
  let isMapping := !(c.arg 1).isUndefined
  if isMapping then requireCallable (c.arg 1) "TypedArray.from called with non-callable mapfn"
  let vs ← match ← getMethod (c.arg 0) (.sym WellKnown.iterator) with
    | some m => do Iter.collect (← iterateWith (c.arg 0) m)
    | none => do listItems (← toObject (c.arg 0))
  let t ← construct ctor #[.nat vs.size]
  for h : i in [0:vs.size] do
    let v ← if isMapping then Object.call (c.arg 1) (c.arg 2) #[vs[i], .nat i] else pure vs[i]
    Object.set t.ref (.index i) v
  return .obj t.ref

def of (c : Call) : Exec Value := do
  let ctor ← requireConstructor c.this "of"
  let t ← construct ctor #[.nat c.args.size]
  for i in [0:c.args.size] do
    Object.set t.ref (.index i) (c.arg i)
  return .obj t.ref

def toElement (s : ElementSort) (v : Value) : Exec Value := do
  if s.isBig then return .big (← toBigInt v) else return .num (← toNumber v)

/-! ## Methods of typed arrays -/

/-- Less for numbers as arrays sort them: the negative zero first, what is no number last. -/
def numberBefore (a b : Value) : Bool :=
  match a, b with
  | .num x, .num y =>
      if x.isNaN then false else if y.isNaN then true
      else if x.isZero && y.isZero then x.isMinusZero && !y.isMinusZero
      else x.lt y
  | .big x, .big y => x < y
  | _, _ => false

def sortedElements (f : Value) (vs : Array Value) : Exec (Array Value) := do
  let less (a b : Value) : Exec Bool :=
    if f.isUndefined then pure (numberBefore a b) else comparesLess f a b
  return (← sortItems less (vs.size + 1) vs.toList).toArray

def checkComparator (v : Value) (name : String) : Exec Unit := do
  if !v.isUndefined then
    requireCallable v s!"TypedArray.{name} called with non-callable comparefn"

/-- Copies the elements of a list to a place of a typed array. -/
def setFrom (c : Call) : Exec Value := do
  let (t, _) ← typedOf? c.this "TypedArray.set must be called on typed array object"
  let n := (← toNumber (c.arg 1)).toInteger
  if n.lt (.int 0) then rangeError "TypedArray.set called with negative offset"
  let checkEnd (count : Nat) (sort : String) : Exec Nat := do
    if !n.isFinite then rangeError "Target offset cannot be positive infinity"
    let k := n.clamped.toNat
    if k + count > t.length then
      rangeError s!"Source {sort} and target offset longer than target typed array"
    return k
  let isTyped ← match c.arg 0 with
    | .obj r =>
        match ← kind r with
        | .typed _ _ _ _ => pure true
        | _ => pure false
    | _ => pure false
  if isTyped then
    let s ← typedThis (c.arg 0)
    if s.sort.isBig != t.sort.isBig then
      typeError "Source typed array and target typed array have different content types"
    let k ← checkEnd s.length "typed array"
    let vs ← elements s
    for h : i in [0:vs.size] do
      Object.setElement t.ref (.ofNat (k + i)) vs[i]
  else
    let s ← toObject (c.arg 0)
    let count ← lengthOf s
    let k ← checkEnd count "object"
    for i in [0:count] do
      Object.setElement t.ref (.ofNat (k + i)) (← Object.get s (.index i))
  return .undefined

def fill (c : Call) : Exec Value := do
  let t ← typedThis c.this
  let v ← toElement t.sort (c.arg 0)
  let start ← relative (c.arg 1) t.length 0
  let stop ← relative (c.arg 2) t.length t.length
  for i in [start:stop] do
    Object.setElement t.ref (.ofNat i) v
  return c.this

def checkCallback (c : Call) (name : String) : Exec Unit :=
  requireCallable (c.arg 0)
    s!"TypedArray.prototype.{name} called with non-callable callback function"

def mapped (c : Call) : Exec Value := do
  let t ← typedThis c.this
  checkCallback c "map"
  let out ← speciesTyped t #[.nat t.length]
  for i in [0:t.length] do
    let v ← Object.call (c.arg 0) (c.arg 1) #[← elementAt t i, .nat i, c.this]
    Object.set out.ref (.index i) v
  return .obj out.ref

def filtered (c : Call) : Exec Value := do
  let t ← typedThis c.this
  checkCallback c "filter"
  let mut kept := #[]
  for i in [0:t.length] do
    let v ← elementAt t i
    if (← Object.call (c.arg 0) (c.arg 1) #[v, .nat i, c.this]).truthy then kept := kept.push v
  let out ← speciesTyped t #[.nat kept.size]
  fillWith out.ref kept
  return .obj out.ref

def slice (c : Call) : Exec Value := do
  let t ← typedThis c.this
  let start ← relative (c.arg 0) t.length 0
  let stop ← relative (c.arg 1) t.length t.length
  let out ← speciesTyped t #[.nat (stop - start)]
  for i in [start:stop] do
    Object.set out.ref (.index (i - start)) (← elementAt t i)
  return .obj out.ref

def subarray (c : Call) : Exec Value := do
  let (t, _) ← typedOf? c.this notTyped
  let start ← relative (c.arg 0) t.length 0
  let stop ← relative (c.arg 1) t.length t.length
  let offset : Value := .nat (t.offset + start * t.sort.size)
  let args := if t.follows && (c.arg 1).isUndefined then #[.obj t.buffer, offset]
    else #[.obj t.buffer, offset, .nat (stop - start)]
  return .obj (← speciesTyped t args).ref

def replaced (c : Call) : Exec Value := do
  let t ← typedThis c.this
  let n ← toIntegerClamped (c.arg 0)
  let i := if n < 0 then n + t.length else n
  let v ← toElement t.sort (c.arg 1)
  if i < 0 || i ≥ t.length then rangeError "invalid integer index for TypedArray operation"
  typedWith t.sort ((← elements t).set! i.toNat v)

def callbackName? : ArrayFn → Option String
  | .every => some "every"
  | .some => some "some"
  | .forEach => some "foreach"
  | .reduce => some "reduce"
  | .reduceRight => some "reduceright"
  | _ => none

/-- How faults name a method that takes a test. -/
def predicateName? : ArrayFn → Option String
  | .find => some "find"
  | .findIndex => some "findIndex"
  | .findLast => some "findLast"
  | .findLastIndex => some "findLastIndex"
  | _ => none

/-- Methods that work as those of arrays do, once it is clear that the list is a typed array. -/
def likeArray (f : ArrayFn) (c : Call) : Exec Value := do
  let t ← typedThis c.this
  match callbackName? f with
  | some name => checkCallback c name
  | none => pure ()
  match predicateName? f with
  | some name =>
      requireCallable (c.arg 0) s!"TypedArray.prototype.{name}: predicate is not callable"
  | none => pure ()
  if (f == .reduce || f == .reduceRight) && t.length == 0 && c.args.size < 2 then
    typeError "Typed array length is 0 and initial value is not present"
  Arrays.run f c t.ref

def ofTyped (f : BufferFn) (c : Call) : Exec Value := do
  match f with
  | .makeTyped s => makeTyped s c
  | .makeAbstract => typeError "the TypedArray constructor should never be called directly"
  | .source => source c
  | .of => of c
  | .typedBuffer => return .obj (← typedOf? c.this notTyped).1.buffer
  | .typedByteLength =>
      let (t, _) ← typedOf? c.this notTyped
      return .nat (t.length * t.sort.size)
  | .typedByteOffset =>
      let (t, isOutside) ← typedOf? c.this notTyped
      return .nat (if isOutside then 0 else t.offset)
  | .typedLength => return .nat (← typedOf? c.this notTyped).1.length
  | .typedTag =>
      match c.this with
      | .obj r =>
          match ← kind r with
          | .typed s _ _ _ => return .text s.arrayName
          | _ => return .undefined
      | _ => return .undefined
  | .set => setFrom c
  | .subarray => subarray c
  | .slice => slice c
  | .map => mapped c
  | .filter => filtered c
  | .fill => fill c
  | .sort =>
      checkComparator (c.arg 0) "sort"
      let t ← typedThis c.this
      fillWith t.ref (← sortedElements (c.arg 0) (← elements t))
      return c.this
  | .reverse =>
      let t ← typedThis c.this
      fillWith t.ref (← elements t).reverse
      return c.this
  | .toReversed =>
      let t ← typedThis c.this
      typedWith t.sort (← elements t).reverse
  | .toSorted =>
      checkComparator (c.arg 0) "toSorted"
      let t ← typedThis c.this
      typedWith t.sort (← sortedElements (c.arg 0) (← elements t))
  | .with_ => replaced c
  | .list f => likeArray f c
  | _ => return .undefined

/-! ## Views -/

structure View where
  buffer : Ref
  offset : Nat
  /-- The length; none if the view reaches beyond its buffer. -/
  length : Option Nat

def viewThis (c : Call) : Exec View := do
  match c.this with
  | .obj r =>
      match ← kind r with
      | .view buffer offset length =>
          return ⟨buffer, offset, ← Object.partLength? buffer offset length 1⟩
      | _ => typeError "`this` is not a DataView"
  | _ => typeError "`this` is not a DataView"

def View.size (v : View) : Exec Nat := do
  match v.length with
  | some n => return n
  | none => typeError "view out of bounds for its inner buffer"

def makeView (c : Call) : Exec Value := do
  if !c.isConstruct then typeError "cannot call `DataView` constructor without `new`"
  match c.arg 0 with
  | .obj b =>
      match ← kind b with
      | .buffer bytes limit _ =>
          let offset ← toIndex (c.arg 1)
          if offset > bytes.size then rangeError "Start offset is outside the bounds of the buffer"
          let length ← if !(c.arg 2).isUndefined then some <$> toIndex (c.arg 2)
            else pure (if limit.isSome then none else some (bytes.size - offset))
          if offset + length.getD 0 > bytes.size then rangeError "Invalid data-view length"
          return .obj (← alloc {
            proto := some (← protoFor c.newTarget Intrinsic.viewProto)
            kind := .view b offset length })
      | _ => typeError "buffer must be an ArrayBuffer"
  | _ => typeError "buffer must be an ArrayBuffer"

def viewGet (c : Call) (s : ElementSort) : Exec Value := do
  let v ← viewThis c
  let i ← toIndex (c.arg 0)
  let isLittle := (c.arg 1).truthy
  if i + s.size > (← v.size) then rangeError "Offset is outside the bounds of the DataView"
  let bytes ← Object.elementBytes v.buffer (v.offset + i) s.size
  return s.decode (if isLittle then bytes else bytes.reverse)

def viewPut (c : Call) (s : ElementSort) : Exec Value := do
  let v ← viewThis c
  let i ← toIndex (c.arg 0)
  let content : Num ⊕ Int ← if s.isBig then pure (.inr (← toBigInt (c.arg 1)))
    else pure (.inl (← toNumber (c.arg 1)))
  let isLittle := (c.arg 2).truthy
  if i + s.size > (← v.size) then rangeError "Offset is outside the bounds of DataView"
  let bytes := s.encode content
  Object.setBytes v.buffer (v.offset + i) (if isLittle then bytes else bytes.reverse)
  return .undefined

def run (f : BufferFn) (c : Call) : Exec Value := do
  match f with
  | .species => return c.this
  | .makeBuffer | .isView | .byteLength | .maxByteLength | .resizable | .resize | .sliceBuffer
  | .makeShared | .sharedByteLength | .sharedMaxByteLength | .growable | .grow | .sharedSlice =>
      ofBuffers f c
  | .makeView => makeView c
  | .viewBuffer => return .obj (← viewThis c).buffer
  | .viewByteLength => return .nat (← (← viewThis c).size)
  | .viewByteOffset =>
      let v ← viewThis c
      let _ ← v.size
      return .nat v.offset
  | .get s => viewGet c s
  | .put s => viewPut c s
  | f => ofTyped f c

end Builtins.Buffers

end Inlay.Engine
