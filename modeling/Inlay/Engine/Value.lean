import Inlay.Engine.Number

/-! # Values

    Values of scripts, keys of properties and properties themselves.  Objects and symbols are
    numbers: the machine keeps what they stand for. -/

namespace Inlay.Engine

abbrev Ref := Nat

abbrev SymbolId := Nat

inductive Value where
  | undefined
  | null
  | bool (b : Bool)
  | num (n : Num)
  | str (s : Units)
  | sym (id : SymbolId)
  | big (n : Int)
  | obj (r : Ref)
  deriving Inhabited

/-- The key of a property. -/
inductive Key where
  | str (s : Units)
  | sym (id : SymbolId)
  deriving DecidableEq, Inhabited

namespace Value

def int (i : Int) : Value := num (.ofInt i)

def nat (n : Nat) : Value := num (.ofNat n)

def float (x : Float) : Value := num (.real x)

def text (s : String) : Value := str (.ofString s)

def nan : Value := num .nan

instance : Coe Bool Value := ⟨bool⟩

instance : Coe Units Value := ⟨str⟩

def isUndefined : Value → Bool
  | undefined => true
  | _ => false

/-- Whether the value is `undefined` or `null`. -/
def isNullish : Value → Bool
  | undefined | null => true
  | _ => false

def isObject : Value → Bool
  | obj _ => true
  | _ => false

def strictEq : Value → Value → Bool
  | undefined, undefined | null, null => true
  | bool a, bool b => a == b
  | num a, num b => a.eq b
  | str a, str b => a == b
  | sym a, sym b => a == b
  | big a, big b => a == b
  | obj a, obj b => a == b
  | _, _ => false

def same : Value → Value → Bool
  | num a, num b => a.same b
  | a, b => a.strictEq b

def sameZero : Value → Value → Bool
  | num a, num b => a.sameZero b
  | a, b => a.strictEq b

def truthy : Value → Bool
  | undefined | null => false
  | bool b => b
  | num n => !(n.isZero || n.isNaN)
  | str s => !s.isEmpty
  | big n => n != 0
  | sym _ | obj _ => true

def ofOption : Option Ref → Value
  | some r => obj r
  | none => undefined

def toRef? : Value → Option Ref
  | obj r => some r
  | _ => none

end Value

namespace Key

def text (s : String) : Key := str (.ofString s)

instance : Coe String Key := ⟨text⟩

def index (n : Nat) : Key := str (.ofNat n)

def toValue : Key → Value
  | str s => .str s
  | sym i => .sym i

def maxIndex : Nat := Nat.pow 2 32 - 2

def index? : Key → Option Nat
  | str s => match s.index? with
      | some n => if n ≤ maxIndex then some n else none
      | none => none
  | sym _ => none

def isString : Key → Bool
  | str _ => true
  | sym _ => false

end Key

/-! ## Properties -/

/-- What a property holds. -/
inductive Content where
  | data (v : Value) (isWritable : Bool)
  | accessor (getter setter : Option Ref)
  deriving Inhabited

structure Property where
  content : Content
  isEnumerable : Bool
  isConfigurable : Bool
  deriving Inhabited

namespace Property

def plain (v : Value) : Property := ⟨.data v true, true, true⟩

def hidden (v : Value) : Property := ⟨.data v true, false, true⟩

def fixed (v : Value) : Property := ⟨.data v false, false, false⟩

def readOnly (v : Value) : Property := ⟨.data v false, false, true⟩

def value (p : Property) : Value :=
  match p.content with
  | .data v _ => v
  | .accessor _ _ => .undefined

def isAccessor (p : Property) : Bool :=
  match p.content with
  | .accessor _ _ => true
  | .data _ _ => false

end Property

/-- What a definition says of a property; what is left out stays as it is. -/
structure Descriptor where
  value : Option Value := none
  isWritable : Option Bool := none
  getter : Option (Option Ref) := none
  setter : Option (Option Ref) := none
  isEnumerable : Option Bool := none
  isConfigurable : Option Bool := none

namespace Descriptor

def ofProperty (p : Property) : Descriptor :=
  match p.content with
  | .data v w => { value := some v, isWritable := some w, isEnumerable := some p.isEnumerable
                   isConfigurable := some p.isConfigurable }
  | .accessor g s => { getter := some g, setter := some s, isEnumerable := some p.isEnumerable
                       isConfigurable := some p.isConfigurable }

def plain (v : Value) : Descriptor := ofProperty (.plain v)

def ofValue (v : Value) : Descriptor := { value := some v }

def isAccessor (d : Descriptor) : Bool := d.getter.isSome || d.setter.isSome

def isData (d : Descriptor) : Bool := d.value.isSome || d.isWritable.isSome

/-- The property that a definition makes where there is none. -/
def toProperty (d : Descriptor) : Property :=
  let content := if d.isAccessor then Content.accessor (d.getter.getD none) (d.setter.getD none)
    else .data (d.value.getD .undefined) (d.isWritable.getD false)
  ⟨content, d.isEnumerable.getD false, d.isConfigurable.getD false⟩

/-- Whether a definition may change a property: a property that is not configurable only lets its
    value be replaced while it is writable, and lets nothing else differ. -/
def allowedBy (d : Descriptor) (p : Property) : Bool :=
  p.isConfigurable ||
    (d.isConfigurable != some true
      && (d.isEnumerable.isNone || d.isEnumerable == some p.isEnumerable)
      && match p.content with
        | .data v w =>
            !d.isAccessor && (w || (d.isWritable != some true
              && match d.value with
                | some u => u.same v
                | none => true))
        | .accessor g s =>
            !d.isData && (d.getter.isNone || d.getter == some g)
              && (d.setter.isNone || d.setter == some s))

def update (d : Descriptor) (p : Property) : Property :=
  let content := match p.content with
    | .data v w =>
        if d.isAccessor then Content.accessor (d.getter.getD none) (d.setter.getD none)
        else .data (d.value.getD v) (d.isWritable.getD w)
    | .accessor g s =>
        if d.isData then .data (d.value.getD .undefined) (d.isWritable.getD false)
        else .accessor (d.getter.getD g) (d.setter.getD s)
  ⟨content, d.isEnumerable.getD p.isEnumerable, d.isConfigurable.getD p.isConfigurable⟩

end Descriptor

/-! ## Well-known symbols -/

namespace WellKnown

def asyncIterator : SymbolId := 0
def hasInstance : SymbolId := 1
def isConcatSpreadable : SymbolId := 2
def iterator : SymbolId := 3
def matching : SymbolId := 4
def matchAll : SymbolId := 5
def replace : SymbolId := 6
def search : SymbolId := 7
def species : SymbolId := 8
def split : SymbolId := 9
def toPrimitive : SymbolId := 10
def toStringTag : SymbolId := 11
def unscopables : SymbolId := 12

/-- The names of the well-known symbols, in order of their numbers. -/
def names : List String :=
  ["asyncIterator", "hasInstance", "isConcatSpreadable", "iterator", "match", "matchAll", "replace",
    "search", "species", "split", "toPrimitive", "toStringTag", "unscopables"]

end WellKnown

end Inlay.Engine
