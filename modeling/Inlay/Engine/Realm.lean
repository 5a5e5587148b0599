import Inlay.Engine.Run

/-! # The objects that a machine starts with

    Objects with fixed numbers come first; all other built-in functions are added behind them. -/

namespace Inlay.Engine

namespace Realm

abbrev Build := StateM (Array Obj)

def alloc (o : Obj) : Build Ref := modifyGet fun h => (h.size, h.push o)

def put (r : Ref) (k : Key) (p : Property) : Build Unit := modify fun h => h.modify r (·.put k p)

def place (r : Ref) (o : Obj) : Build Unit := modify fun h => h.modify r fun old =>
  { o with props := o.props ++ old.props }

/-! ## Functions -/

def functionObject (f : Native) (name : String) (length : Nat) : Obj where
  proto := some Intrinsic.functionProto
  kind := .native f false []
  props := #[(Key.text "length", .readOnly (.nat length)),
    (Key.text "name", .readOnly (.text name))]

def method (owner : Ref) (name : String) (length : Nat) (f : Native) : Build Unit := do
  let r ← alloc (functionObject f name length)
  put owner (Key.text name) (.hidden (.obj r))

def methods {α : Type} (owner : Ref) (wrap : α → Native) (list : List (String × Nat × α)) :
    Build Unit :=
  list.forM fun (name, length, f) => method owner name length (wrap f)

def symbolName (s : SymbolId) : String := "[Symbol." ++ (WellKnown.names[s]?).getD "" ++ "]"

def symbolMethod (owner : Ref) (s : SymbolId) (length : Nat) (f : Native) : Build Unit := do
  let r ← alloc (functionObject f (symbolName s) length)
  put owner (.sym s) (.hidden (.obj r))

def accessor (owner : Ref) (k : Key) (name : String) (f : Native) : Build Unit := do
  let r ← alloc (functionObject f ("get " ++ name) 0)
  put owner k ⟨.accessor (some r) none, false, true⟩

def getter (owner : Ref) (name : String) (f : Native) : Build Unit :=
  accessor owner (Key.text name) name f

/-- The accessor by which a constructor names the one for derived objects. -/
def species (owner : Ref) (f : Native) : Build Unit :=
  accessor owner (.sym WellKnown.species) (symbolName WellKnown.species) f

def constants (owner : Ref) (list : List (String × Value)) : Build Unit :=
  list.forM fun (name, v) => put owner (Key.text name) (.fixed v)

def tag (owner : Ref) (name : String) : Build Unit :=
  put owner (.sym WellKnown.toStringTag) (.readOnly (.text name))

def global (name : String) (v : Value) : Build Unit :=
  put Intrinsic.global (Key.text name) (.hidden v)

/-- A constructor: its call, what it holds itself, and what its objects share. -/
structure Constructor where
  name : String
  length : Nat
  make : Native
  /-- What its objects inherit from. -/
  proto : Ref
  /-- What the constructor itself inherits from. -/
  parent : Ref := Intrinsic.functionProto
  statics : Ref → Build Unit := fun _ => pure ()
  members : Ref → Build Unit := fun _ => pure ()

namespace Constructor

/-- Makes the constructor with a fixed number.  Its own members come first, then its length, its
    name and its prototype; the prototype names the constructor last. -/
def placeAt (k : Constructor) (r : Ref) : Build Unit := do
  place r { proto := some k.parent, kind := .native k.make true [] }
  k.statics r
  put r (Key.text "length") (.readOnly (.nat k.length))
  put r (Key.text "name") (.readOnly (.text k.name))
  put r (Key.text "prototype") (.fixed (.obj k.proto))
  k.members k.proto
  put k.proto (Key.text "constructor") (.hidden (.obj r))
  global k.name (.obj r)

def add (k : Constructor) : Build Ref := do
  let r ← alloc default
  k.placeAt r
  return r

end Constructor

def collection (name : String) (members : Ref → Build Unit) : Build Unit := do
  let r ← alloc { proto := some Intrinsic.objectProto }
  members r
  tag r name
  global name (.obj r)

def plainProto (r : Ref) : Build Unit := place r { proto := some Intrinsic.objectProto }

/-! ## Groups -/

def objects : Build Unit := do
  place Intrinsic.objectProto { proto := none }
  let _ ← Constructor.add {
    name := "Object", length := 1, make := .object .make, proto := Intrinsic.objectProto
    statics := fun c => methods c .object [
      ("create", 2, .create), ("setPrototypeOf", 2, .setPrototypeOf),
      ("getPrototypeOf", 1, .getPrototypeOf), ("defineProperty", 3, .defineProperty),
      ("defineProperties", 2, .defineProperties), ("assign", 2, .assign), ("is", 2, .is),
      ("keys", 1, .keys), ("values", 1, .values), ("entries", 1, .entries), ("seal", 1, .seal),
      ("isSealed", 1, .isSealed), ("freeze", 1, .freeze), ("isFrozen", 1, .isFrozen),
      ("preventExtensions", 1, .preventExtensions), ("isExtensible", 1, .isExtensible),
      ("getOwnPropertyDescriptor", 2, .getOwnPropertyDescriptor),
      ("getOwnPropertyDescriptors", 1, .getOwnPropertyDescriptors),
      ("getOwnPropertyNames", 1, .getOwnPropertyNames),
      ("getOwnPropertySymbols", 1, .getOwnPropertySymbols), ("hasOwn", 2, .hasOwn),
      ("fromEntries", 1, .fromEntries), ("groupBy", 2, .groupBy)]
    members := fun p => do
      let g ← alloc (functionObject (.object .getProto) "get __proto__" 0)
      let s ← alloc (functionObject (.object .setProto) "set __proto__" 1)
      put p (Key.text "__proto__") ⟨.accessor (some g) (some s), false, true⟩
      methods p .object [
        ("hasOwnProperty", 1, .hasOwnProperty), ("propertyIsEnumerable", 1, .propertyIsEnumerable),
        ("toString", 0, .toText), ("toLocaleString", 0, .toLocaleString), ("valueOf", 0, .valueOf),
        ("isPrototypeOf", 1, .isPrototypeOf), ("__defineGetter__", 2, .defineGetter),
        ("__defineSetter__", 2, .defineSetter), ("__lookupGetter__", 1, .lookupGetter),
        ("__lookupSetter__", 1, .lookupSetter)] }

/-- Functions of one sort: their prototype and the constructor that reads them from texts. -/
def functionSort (proto : Ref) (made : Ref) (name : String) (f : FunctionFn) (parent : Ref) :
    Build Unit := do
  place proto { proto := some Intrinsic.functionProto }
  let c ← alloc {
    functionObject (.function f) name 1 with
    kind := .native (.function f) true []
    proto := some parent }
  put c (Key.text "prototype") (.fixed (.obj proto))
  if made != proto then
    put proto (Key.text "prototype") (.readOnly (.obj made))
    put made (Key.text "constructor") (.readOnly (.obj proto))
  put proto (Key.text "constructor") (.readOnly (.obj c))
  tag proto name

def functions : Build Unit := do
  let p := Intrinsic.functionProto
  place p { proto := some Intrinsic.objectProto, kind := .native (.function .protoCall) false [] }
  place Intrinsic.throwTypeError {
    proto := some p, kind := .native (.function .throwTypeError) false [], isExtensible := false
    props := #[(Key.text "length", .fixed (.nat 0)), (Key.text "name", .fixed (.text ""))] }
  let c ← Constructor.add {
    name := "Function", length := 1, make := .function .make, proto := p
    members := fun p => do
      methods p .function [("apply", 2, .apply), ("bind", 1, .bind), ("call", 1, .call),
        ("toString", 0, .toText)]
      let h ← alloc (functionObject (.function .hasInstance) (symbolName WellKnown.hasInstance) 1)
      put p (.sym WellKnown.hasInstance) (.fixed (.obj h))
      let thrower : Property :=
        ⟨.accessor (some Intrinsic.throwTypeError) (some Intrinsic.throwTypeError), false, true⟩
      put p (Key.text "caller") thrower
      put p (Key.text "arguments") thrower }
  put p (Key.text "length") (.readOnly (.nat 0))
  put p (Key.text "name") (.readOnly (.text ""))
  functionSort Intrinsic.generatorFunctionProto Intrinsic.generatorProto "GeneratorFunction"
    .makeGenerator c
  functionSort Intrinsic.asyncFunctionProto Intrinsic.asyncFunctionProto "AsyncFunction"
    .makeAsync c
  functionSort Intrinsic.asyncGeneratorFunctionProto Intrinsic.asyncGeneratorProto
    "AsyncGeneratorFunction" .makeAsyncGenerator c

/-- The names that arrays hide from the scopes that they make. -/
def unscopableNames : List String :=
  ["at", "copyWithin", "entries", "fill", "find", "findIndex", "findLast", "findLastIndex", "flat",
    "flatMap", "includes", "keys", "toReversed", "toSorted", "toSpliced", "values"]

def arrays : Build Unit := do
  place Intrinsic.arrayProto { proto := some Intrinsic.objectProto, kind := .array #[] 0 true }
  place Intrinsic.arrayValues (functionObject (.array .values) "values" 0)
  place Intrinsic.arrayText (functionObject (.array .toText) "toString" 0)
  Constructor.placeAt {
    name := "Array", length := 1, make := .array .make, proto := Intrinsic.arrayProto
    statics := fun c => do
      methods c .array [("from", 1, .source), ("isArray", 1, .isArray), ("of", 0, .of)]
      species c (.array .species)
    members := fun p => do
      put p (Key.text "values") (.hidden (.obj Intrinsic.arrayValues))
      put p (.sym WellKnown.iterator) (.hidden (.obj Intrinsic.arrayValues))
      let unscopables ← alloc {
        proto := none
        props := (unscopableNames.map fun n => (Key.text n, Property.plain (.bool true))).toArray }
      put p (.sym WellKnown.unscopables) (.readOnly (.obj unscopables))
      methods p .array [
        ("at", 1, .at_), ("concat", 1, .concat), ("copyWithin", 2, .copyWithin),
        ("entries", 0, .entries), ("every", 1, .every), ("fill", 1, .fill), ("filter", 1, .filter),
        ("find", 1, .find), ("findIndex", 1, .findIndex), ("findLast", 1, .findLast),
        ("findLastIndex", 1, .findLastIndex), ("flat", 0, .flat), ("flatMap", 1, .flatMap),
        ("forEach", 1, .forEach), ("includes", 1, .includes), ("indexOf", 1, .indexOf),
        ("join", 1, .join), ("keys", 0, .keys), ("lastIndexOf", 1, .lastIndexOf), ("map", 1, .map),
        ("pop", 0, .pop), ("push", 1, .push), ("reduce", 1, .reduce),
        ("reduceRight", 1, .reduceRight), ("reverse", 0, .reverse), ("shift", 0, .shift),
        ("slice", 2, .slice), ("some", 1, .some), ("sort", 1, .sort), ("splice", 2, .splice),
        ("toLocaleString", 0, .toLocaleString), ("toReversed", 0, .toReversed),
        ("toSorted", 1, .toSorted), ("toSpliced", 2, .toSpliced)]
      put p (Key.text "toString") (.hidden (.obj Intrinsic.arrayText))
      methods p .array [("unshift", 1, .unshift), ("with", 2, .with_)]
  } Intrinsic.arrayCtor

def texts : Build Unit := do
  place Intrinsic.stringProto { proto := some Intrinsic.objectProto, kind := .str .empty }
  let _ ← Constructor.add {
    name := "String", length := 1, make := .string .make, proto := Intrinsic.stringProto
    statics := fun c => methods c .string [("raw", 1, .raw), ("fromCharCode", 1, .fromCharCode),
      ("fromCodePoint", 1, .fromCodePoint)]
    members := fun p => do
      methods p .string [
        ("trimStart", 0, .trimStart), ("trimEnd", 0, .trimEnd), ("charAt", 1, .charAt),
        ("charCodeAt", 1, .charCodeAt), ("codePointAt", 1, .codePointAt), ("toString", 0, .toText),
        ("concat", 1, .concat), ("repeat", 1, .repeat_), ("slice", 2, .slice),
        ("startsWith", 1, .startsWith), ("endsWith", 1, .endsWith), ("includes", 1, .includes),
        ("indexOf", 1, .indexOf), ("lastIndexOf", 1, .lastIndexOf),
        ("localeCompare", 1, .localeCompare), ("match", 1, .match_), ("normalize", 0, .normalize),
        ("padEnd", 1, .padEnd), ("padStart", 1, .padStart), ("trim", 0, .trim),
        ("toLowerCase", 0, .toLowerCase), ("toUpperCase", 0, .toUpperCase),
        ("toWellFormed", 0, .toWellFormed), ("isWellFormed", 0, .isWellFormed),
        ("toLocaleLowerCase", 0, .toLowerCase), ("toLocaleUpperCase", 0, .toUpperCase),
        ("substring", 2, .substring), ("split", 2, .split), ("valueOf", 0, .valueOf),
        ("matchAll", 1, .matchAll), ("replace", 2, .replace), ("replaceAll", 2, .replaceAll)]
      symbolMethod p WellKnown.iterator 0 (.string .iterator)
      methods p .string [("search", 1, .search), ("at", 1, .at_)] }

def numbers : Build Unit := do
  place Intrinsic.numberProto { proto := some Intrinsic.objectProto, kind := .num .zero }
  let _ ← Constructor.add {
    name := "Number", length := 1, make := .number .make, proto := Intrinsic.numberProto
    statics := fun c => do
      constants c [("EPSILON", .float (Float.ofBits 0x3cb0000000000000)),
        ("MAX_SAFE_INTEGER", .int (Nat.pow 2 53 - 1)),
        ("MIN_SAFE_INTEGER", .int (-(Nat.pow 2 53 - 1))),
        ("MAX_VALUE", .float (Float.ofBits 0x7fefffffffffffff)),
        ("MIN_VALUE", .float (Float.ofBits 1)), ("NEGATIVE_INFINITY", .float (-infinity)),
        ("POSITIVE_INFINITY", .float infinity), ("NaN", .nan)]
      put c (Key.text "parseInt") (.hidden (.obj Intrinsic.parseInt))
      put c (Key.text "parseFloat") (.hidden (.obj Intrinsic.parseFloat))
      methods c .number [("isFinite", 1, .isFinite), ("isNaN", 1, .isNaN),
        ("isSafeInteger", 1, .isSafeInteger), ("isInteger", 1, .isInteger)]
    members := fun p => methods p .number [
      ("toExponential", 1, .toExponential), ("toFixed", 1, .toFixed),
      ("toLocaleString", 0, .toLocaleString), ("toPrecision", 1, .toPrecision),
      ("toString", 1, .toText), ("valueOf", 0, .valueOf)] }
  place Intrinsic.booleanProto { proto := some Intrinsic.objectProto, kind := .bool false }
  let _ ← Constructor.add {
    name := "Boolean", length := 1, make := .number .makeBoolean, proto := Intrinsic.booleanProto
    members := fun p => methods p .number [("toString", 0, .booleanText),
      ("valueOf", 0, .booleanValue)] }
  plainProto Intrinsic.bigIntProto
  let _ ← Constructor.add {
    name := "BigInt", length := 1, make := .number .makeBigInt, proto := Intrinsic.bigIntProto
    statics := fun c => methods c .number [("asIntN", 2, .asIntN), ("asUintN", 2, .asUintN)]
    members := fun p => do
      methods p .number [("toString", 0, .bigIntText), ("valueOf", 0, .bigIntValue)]
      tag p "BigInt" }

def symbols : Build Unit := do
  plainProto Intrinsic.symbolProto
  let _ ← Constructor.add {
    name := "Symbol", length := 0, make := .symbol .make, proto := Intrinsic.symbolProto
    statics := fun c => do
      methods c .symbol [("for", 1, .for_), ("keyFor", 1, .keyFor)]
      constants c (WellKnown.names.zipIdx.map fun (n, i) => (n, Value.sym i))
    members := fun p => do
      methods p .symbol [("toString", 0, .toText), ("valueOf", 0, .valueOf)]
      getter p "description" (.symbol .description)
      tag p "Symbol"
      let f ← alloc (functionObject (.symbol .toPrimitive) (symbolName WellKnown.toPrimitive) 1)
      put p (.sym WellKnown.toPrimitive) (.readOnly (.obj f)) }

def mathematics : Build Unit := do
  collection "Math" fun m => do
    constants m [("E", .float (Float.ofBits 0x4005bf0a8b145769)),
      ("LN10", .float (Float.ofBits 0x40026bb1bbb55516)),
      ("LN2", .float (Float.ofBits 0x3fe62e42fefa39ef)),
      ("LOG10E", .float (Float.ofBits 0x3fdbcb7b1526e50e)),
      ("LOG2E", .float (Float.ofBits 0x3ff71547652b82fe)),
      ("PI", .float (Float.ofBits 0x400921fb54442d18)),
      ("SQRT1_2", .float (Float.ofBits 0x3fe6a09e667f3bcd)),
      ("SQRT2", .float (Float.ofBits 0x3ff6a09e667f3bcd))]
    methods m .math [("abs", 1, .abs), ("acos", 1, .acos), ("acosh", 1, .acosh), ("asin", 1, .asin),
      ("asinh", 1, .asinh), ("atan", 1, .atan), ("atanh", 1, .atanh), ("atan2", 2, .atan2),
      ("cbrt", 1, .cbrt), ("ceil", 1, .ceil), ("clz32", 1, .clz32), ("cos", 1, .cos),
      ("cosh", 1, .cosh), ("exp", 1, .exp), ("expm1", 1, .expm1), ("floor", 1, .floor),
      ("fround", 1, .fround), ("hypot", 2, .hypot), ("imul", 2, .imul), ("log", 1, .log),
      ("log1p", 1, .log1p), ("log10", 1, .log10), ("log2", 1, .log2), ("max", 2, .max),
      ("min", 2, .min), ("pow", 2, .pow), ("random", 0, .random), ("round", 1, .round),
      ("sign", 1, .sign), ("sin", 1, .sin), ("sinh", 1, .sinh), ("sqrt", 1, .sqrt),
      ("tan", 1, .tan), ("tanh", 1, .tanh), ("trunc", 1, .trunc)]
  collection "JSON" fun j =>
    methods j .json [("parse", 2, .parse), ("stringify", 3, .stringify)]

def reflection : Build Unit := do
  collection "Reflect" fun r => methods r .reflect [
    ("apply", 3, .apply), ("construct", 2, .construct), ("defineProperty", 3, .defineProperty),
    ("deleteProperty", 2, .deleteProperty), ("get", 2, .get),
    ("getOwnPropertyDescriptor", 2, .getOwnPropertyDescriptor),
    ("getPrototypeOf", 1, .getPrototypeOf), ("has", 2, .has), ("isExtensible", 1, .isExtensible),
    ("ownKeys", 1, .ownKeys), ("preventExtensions", 1, .preventExtensions), ("set", 3, .set),
    ("setPrototypeOf", 2, .setPrototypeOf)]
  let p ← alloc {
    proto := some Intrinsic.functionProto, kind := .native (.reflect .makeProxy) true [] }
  method p "revocable" 2 (.reflect .revocable)
  put p (Key.text "length") (.readOnly (.nat 2))
  put p (Key.text "name") (.readOnly (.text "Proxy"))
  global "Proxy" (.obj p)

def errorName : ErrorSort → String
  | .error => "Error"
  | .aggregate => "AggregateError"
  | .eval => "EvalError"
  | .range => "RangeError"
  | .reference => "ReferenceError"
  | .source => "SyntaxError"
  | .type => "TypeError"
  | .uri => "URIError"

def errorSort (s : ErrorSort) (parent base : Ref) : Build Ref := do
  place (Intrinsic.errorProto s) { proto := some base }
  Constructor.add {
    name := errorName s, length := if s == .aggregate then 2 else 1, make := .error (.make s)
    proto := Intrinsic.errorProto s, parent
    members := fun p => do
      put p (Key.text "name") (.hidden (.text (errorName s)))
      put p (Key.text "message") (.hidden (.text ""))
      if s == .error then method p "toString" 0 (.error .toText) }

def errors : Build Unit := do
  let c ← errorSort .error Intrinsic.functionProto Intrinsic.objectProto
  for s in [ErrorSort.range, .reference, .type, .source, .eval, .uri, .aggregate] do
    let _ ← errorSort s c (Intrinsic.errorProto .error)

def collections : Build Unit := do
  plainProto Intrinsic.mapProto
  let _ ← Constructor.add {
    name := "Map", length := 0, make := .collection .makeMap, proto := Intrinsic.mapProto
    statics := fun c => do
      method c "groupBy" 2 (.collection .mapGroupBy)
      species c (.collection .species)
    members := fun p => do
      let entries ← alloc (functionObject (.collection .mapEntries) "entries" 0)
      put p (Key.text "entries") (.hidden (.obj entries))
      put p (.sym WellKnown.iterator) (.hidden (.obj entries))
      tag p "Map"
      methods p .collection [("clear", 0, .mapClear), ("delete", 1, .mapDelete),
        ("forEach", 1, .mapForEach), ("get", 1, .mapGet), ("has", 1, .mapHas),
        ("keys", 0, .mapKeys), ("set", 2, .mapSet), ("values", 0, .mapValues)]
      getter p "size" (.collection .mapSize) }
  plainProto Intrinsic.setProto
  let _ ← Constructor.add {
    name := "Set", length := 0, make := .collection .makeSet, proto := Intrinsic.setProto
    statics := fun c => species c (.collection .species)
    members := fun p => do
      let values ← alloc (functionObject (.collection .setValues) "values" 0)
      methods p .collection [("add", 1, .setAdd), ("clear", 0, .setClear),
        ("delete", 1, .setDelete),
        ("entries", 0, .setEntries), ("forEach", 1, .setForEach), ("has", 1, .setHas)]
      put p (Key.text "keys") (.hidden (.obj values))
      getter p "size" (.collection .setSize)
      put p (Key.text "values") (.hidden (.obj values))
      put p (.sym WellKnown.iterator) (.hidden (.obj values))
      tag p "Set" }
  plainProto Intrinsic.weakMapProto
  let _ ← Constructor.add {
    name := "WeakMap", length := 0, make := .collection .makeWeakMap,
    proto := Intrinsic.weakMapProto
    members := fun p => do
      tag p "WeakMap"
      methods p .collection [("delete", 1, .weakMapDelete), ("get", 1, .weakMapGet),
        ("has", 1, .weakMapHas), ("set", 2, .weakMapSet)] }
  plainProto Intrinsic.weakSetProto
  let _ ← Constructor.add {
    name := "WeakSet", length := 0, make := .collection .makeWeakSet,
    proto := Intrinsic.weakSetProto
    members := fun p => do
      tag p "WeakSet"
      methods p .collection [("add", 1, .weakSetAdd), ("delete", 1, .weakSetDelete),
        ("has", 1, .weakSetHas)] }
  plainProto Intrinsic.weakRefProto
  let _ ← Constructor.add {
    name := "WeakRef", length := 1, make := .collection .makeWeakRef,
    proto := Intrinsic.weakRefProto
    members := fun p => do
      tag p "WeakRef"
      method p "deref" 0 (.collection .weakRefDeref) }

def promises : Build Unit := do
  plainProto Intrinsic.promiseProto
  Constructor.placeAt {
    name := "Promise", length := 1, make := .promise .make, proto := Intrinsic.promiseProto
    statics := fun c => do
      methods c .promise [("all", 1, .all), ("allSettled", 1, .allSettled), ("any", 1, .any),
        ("race", 1, .race), ("reject", 1, .reject), ("resolve", 1, .resolve), ("try", 1, .attempt),
        ("withResolvers", 0, .withResolvers)]
      species c (.promise .species)
    members := fun p => do
      methods p .promise [("then", 2, .then_), ("catch", 1, .catch_), ("finally", 1, .finally_)]
      tag p "Promise"
  } Intrinsic.promiseCtor

def iteratorSort (r : Ref) (name : String) (next : Native) : Build Unit := do
  place r { proto := some Intrinsic.iteratorProto }
  method r "next" 0 next
  tag r name

def iterators : Build Unit := do
  plainProto Intrinsic.iteratorProto
  symbolMethod Intrinsic.iteratorProto WellKnown.iterator 0 (.iterator .self)
  plainProto Intrinsic.asyncIteratorProto
  symbolMethod Intrinsic.asyncIteratorProto WellKnown.asyncIterator 0 (.iterator .self)
  iteratorSort Intrinsic.arrayIteratorProto "Array Iterator" (.iterator .arrayNext)
  iteratorSort Intrinsic.mapIteratorProto "Map Iterator" (.iterator .mapNext)
  iteratorSort Intrinsic.setIteratorProto "Set Iterator" (.iterator .setNext)
  iteratorSort Intrinsic.stringIteratorProto "String Iterator" (.iterator .stringNext)
  iteratorSort Intrinsic.matchIteratorProto "RegExp String Iterator" (.regex .matchNext)
  let g := Intrinsic.generatorProto
  place g { proto := some Intrinsic.iteratorProto }
  methods g .iterator [("next", 1, .generatorNext), ("return", 1, .generatorReturn),
    ("throw", 1, .generatorThrow)]
  tag g "Generator"
  let a := Intrinsic.asyncGeneratorProto
  place a { proto := some Intrinsic.asyncIteratorProto }
  methods a .iterator [("next", 1, .asyncNext), ("return", 1, .asyncReturn),
    ("throw", 1, .asyncThrow)]
  tag a "AsyncGenerator"

def regexes : Build Unit := do
  plainProto Intrinsic.regexProto
  Constructor.placeAt {
    name := "RegExp", length := 2, make := .regex .make, proto := Intrinsic.regexProto
    statics := fun c => species c (.regex .species)
    members := fun p => do
      put p (Key.text "lastIndex") (.plain (.nat 0))
      methods p .regex [("test", 1, .test), ("exec", 1, .exec), ("toString", 0, .toText)]
      symbolMethod p WellKnown.matching 1 (.regex .match_)
      symbolMethod p WellKnown.matchAll 1 (.regex .matchAll)
      symbolMethod p WellKnown.replace 2 (.regex .replace)
      symbolMethod p WellKnown.search 1 (.regex .search)
      symbolMethod p WellKnown.split 2 (.regex .split)
      for (c, name) in Builtins.Regexes.flagNames do
        getter p name (.regex (.flag c))
      getter p "flags" (.regex .flags)
      getter p "source" (.regex .source)
  } Intrinsic.regexCtor

def dateFields : List (String × DateField) :=
  [("Date", .date), ("Day", .day), ("FullYear", .fullYear), ("Hours", .hours),
    ("Milliseconds", .milliseconds), ("Minutes", .minutes), ("Month", .month),
    ("Seconds", .seconds)]

def dates : Build Unit := do
  plainProto Intrinsic.dateProto
  let getters (p : Ref) (zone : String) : Build Unit := do
    for (name, f) in dateFields do
      method p ("get" ++ zone ++ name) 0 (.date (.get f))
  let setters (p : Ref) (zone : String) : Build Unit := do
    for (name, f) in dateFields do
      if f != .day then
        method p ("set" ++ zone ++ name) (Builtins.Dates.fieldCount f) (.date (.set f))
  let _ ← Constructor.add {
    name := "Date", length := 7, make := .date .make, proto := Intrinsic.dateProto
    statics := fun c => methods c .date [("now", 0, .now), ("parse", 1, .parse), ("UTC", 7, .utc)]
    members := fun p => do
      getters p ""
      methods p .date [("getTime", 0, .getTime), ("getTimezoneOffset", 0, .getTimezoneOffset)]
      getters p "UTC"
      method p "getYear" 0 (.date .getYear)
      setters p ""
      method p "setTime" 1 (.date .setTime)
      setters p "UTC"
      methods p .date [("setYear", 1, .setYear), ("toDateString", 0, .toDateString),
        ("toISOString", 0, .toIsoString), ("toJSON", 1, .toJson),
        ("toLocaleDateString", 0, .toLocale),
        ("toLocaleString", 0, .toLocale), ("toLocaleTimeString", 0, .toLocale),
        ("toString", 0, .toText), ("toTimeString", 0, .toTimeString), ("valueOf", 0, .valueOf)]
      let text ← alloc (functionObject (.date .toUtcString) "toUTCString" 0)
      put p (Key.text "toGMTString") (.hidden (.obj text))
      put p (Key.text "toUTCString") (.hidden (.obj text))
      let f ← alloc (functionObject (.date .toPrimitive) (symbolName WellKnown.toPrimitive) 1)
      put p (.sym WellKnown.toPrimitive) (.readOnly (.obj f)) }

def elementSorts : List ElementSort :=
  [.int8, .uint8, .uint8Clamped, .int16, .uint16, .int32, .uint32, .bigInt64, .bigUint64, .float32,
    .float64]

def viewSorts : List ElementSort :=
  [.bigInt64, .bigUint64, .float32, .float64, .int8, .int16, .int32, .uint8, .uint16, .uint32]

def buffers : Build Unit := do
  plainProto Intrinsic.bufferProto
  Constructor.placeAt {
    name := "ArrayBuffer", length := 1, make := .buffer .makeBuffer, proto := Intrinsic.bufferProto
    statics := fun c => do
      species c (.buffer .species)
      method c "isView" 1 (.buffer .isView)
    members := fun p => do
      getter p "byteLength" (.buffer .byteLength)
      getter p "maxByteLength" (.buffer .maxByteLength)
      getter p "resizable" (.buffer .resizable)
      methods p .buffer [("resize", 1, .resize), ("slice", 2, .sliceBuffer)]
      tag p "ArrayBuffer"
  } Intrinsic.bufferCtor
  plainProto Intrinsic.sharedProto
  Constructor.placeAt {
    name := "SharedArrayBuffer", length := 1, make := .buffer .makeShared
    proto := Intrinsic.sharedProto
    statics := fun c => species c (.buffer .species)
    members := fun p => do
      getter p "byteLength" (.buffer .sharedByteLength)
      getter p "growable" (.buffer .growable)
      getter p "maxByteLength" (.buffer .sharedMaxByteLength)
      methods p .buffer [("slice", 2, .sharedSlice), ("grow", 1, .grow)]
      tag p "SharedArrayBuffer"
  } Intrinsic.sharedCtor
  plainProto Intrinsic.viewProto
  let _ ← Constructor.add {
    name := "DataView", length := 1, make := .buffer .makeView, proto := Intrinsic.viewProto
    members := fun p => do
      getter p "buffer" (.buffer .viewBuffer)
      getter p "byteLength" (.buffer .viewByteLength)
      getter p "byteOffset" (.buffer .viewByteOffset)
      for s in viewSorts do
        method p ("get" ++ Builtins.Buffers.sortName s) 1 (.buffer (.get s))
      for s in viewSorts do
        method p ("set" ++ Builtins.Buffers.sortName s) 2 (.buffer (.put s))
      tag p "DataView" }

/-- Typed arrays: what they share, and a constructor for every type of elements. -/
def typedArrays : Build Unit := do
  plainProto Intrinsic.typedProto
  Constructor.placeAt {
    name := "TypedArray", length := 0, make := .buffer .makeAbstract, proto := Intrinsic.typedProto
    statics := fun c => do
      species c (.buffer .species)
      methods c .buffer [("from", 1, .source), ("of", 0, .of)]
    members := fun p => do
      let values ← alloc (functionObject (.buffer (.list .values)) "values" 0)
      put p (.sym WellKnown.iterator) (.hidden (.obj values))
      getter p "buffer" (.buffer .typedBuffer)
      getter p "byteLength" (.buffer .typedByteLength)
      getter p "byteOffset" (.buffer .typedByteOffset)
      getter p "length" (.buffer .typedLength)
      accessor p (.sym WellKnown.toStringTag) (symbolName WellKnown.toStringTag) (.buffer .typedTag)
      methods p .buffer [
        ("at", 1, .list .at_), ("copyWithin", 2, .list .copyWithin), ("entries", 0, .list .entries),
        ("every", 1, .list .every), ("fill", 1, .fill), ("filter", 1, .filter),
        ("find", 1, .list .find), ("findIndex", 1, .list .findIndex),
        ("findLast", 1, .list .findLast), ("findLastIndex", 1, .list .findLastIndex),
        ("forEach", 1, .list .forEach), ("includes", 1, .list .includes),
        ("indexOf", 1, .list .indexOf), ("join", 1, .list .join), ("keys", 0, .list .keys),
        ("lastIndexOf", 1, .list .lastIndexOf), ("map", 1, .map), ("reduce", 1, .list .reduce),
        ("reduceRight", 1, .list .reduceRight), ("reverse", 0, .reverse), ("set", 1, .set),
        ("slice", 2, .slice), ("some", 1, .list .some), ("sort", 1, .sort),
        ("subarray", 2, .subarray), ("toLocaleString", 0, .list .toLocaleString),
        ("toReversed", 0, .toReversed), ("toSorted", 1, .toSorted), ("with", 2, .with_)]
      put p (Key.text "toString") (.hidden (.obj Intrinsic.arrayText))
      put p (Key.text "values") (.hidden (.obj values))
  } Intrinsic.typedCtor
  for s in elementSorts do
    place (Intrinsic.elementProto s) { proto := some Intrinsic.typedProto }
    let size (r : Ref) : Build Unit := constants r [("BYTES_PER_ELEMENT", .nat s.size)]
    Constructor.placeAt {
      name := s.arrayName, length := 3, make := .buffer (.makeTyped s)
      proto := Intrinsic.elementProto s, parent := Intrinsic.typedCtor
      statics := fun c => do
        species c (.buffer .species)
        size c
      members := size
    } (Intrinsic.elementCtor s)

def atomics : Build Unit :=
  collection "Atomics" fun r => methods r .atomic [
    ("add", 3, .add), ("and", 3, .and), ("compareExchange", 4, .compareExchange),
    ("exchange", 3, .exchange), ("isLockFree", 1, .isLockFree), ("load", 2, .load), ("or", 3, .or),
    ("store", 3, .store), ("sub", 3, .sub), ("wait", 4, .wait), ("notify", 3, .notify),
    ("xor", 3, .xor)]

/-- The names of constructors and of collections of functions, in the order in which they are
    listed. -/
def listedNames : List String :=
  ["Function", "Object", "Math", "JSON", "Array", "Proxy", "ArrayBuffer", "SharedArrayBuffer",
    "BigInt", "Boolean", "Date", "DataView", "Map", "Number", "eval", "Set", "String", "RegExp",
    "TypedArray"] ++ elementSorts.map ElementSort.arrayName ++
  ["Symbol", "Error", "RangeError", "ReferenceError", "TypeError", "SyntaxError", "EvalError",
    "URIError", "AggregateError", "Reflect", "Promise"]

def globals : Build Unit := do
  plainProto Intrinsic.global
  global "globalThis" (.obj Intrinsic.global)
  constants Intrinsic.global [("Infinity", .float infinity), ("NaN", .nan),
    ("undefined", .undefined)]
  place Intrinsic.parseInt (functionObject (.global .parseInt) "parseInt" 2)
  place Intrinsic.parseFloat (functionObject (.global .parseFloat) "parseFloat" 1)
  place Intrinsic.evaluate (functionObject (.global .evaluate) "eval" 1)
  global "parseInt" (.obj Intrinsic.parseInt)
  global "parseFloat" (.obj Intrinsic.parseFloat)
  methods Intrinsic.global .global [("isFinite", 1, .isFinite), ("isNaN", 1, .isNaN)]
  listedNames.forM fun n => global n .undefined
  global "eval" (.obj Intrinsic.evaluate)
  methods Intrinsic.global .global [("encodeURI", 1, .encodeUri),
    ("encodeURIComponent", 1, .encodeUriComponent), ("decodeURI", 1, .decodeUri),
    ("decodeURIComponent", 1, .decodeUriComponent)]
  ["WeakRef", "WeakMap", "WeakSet", "Atomics"].forM fun n => global n .undefined

def all : Build Unit := do
  globals
  objects
  functions
  arrays
  texts
  numbers
  symbols
  mathematics
  reflection
  errors
  collections
  promises
  iterators
  regexes
  dates
  buffers
  typedArrays
  atomics

def heap : Array Obj := (all.run (Array.replicate Intrinsic.count default)).2

end Realm

def Machine.initial : Machine where
  heap := Realm.heap
  scopes := #[{ parent := none, sort := .global }]
  symbols := (WellKnown.names.map fun n => some (Units.ofString ("Symbol." ++ n))).toArray

end Inlay.Engine
