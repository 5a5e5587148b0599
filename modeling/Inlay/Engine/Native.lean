/-! # Built-in functions

    The names of all functions that the engine itself supplies, in groups.  What they do is said by
    the modules of `Builtins`; where they are found is said by the realm. -/

namespace Inlay.Engine

inductive GlobalFn where
  | evaluate | isFinite | isNaN | parseFloat | parseInt
  | decodeUri | decodeUriComponent | encodeUri | encodeUriComponent
  deriving DecidableEq

inductive ObjectFn where
  | make
  | assign | create | defineProperties | defineProperty | entries | freeze | fromEntries
  | getOwnPropertyDescriptor | getOwnPropertyDescriptors | getOwnPropertyNames
  | getOwnPropertySymbols | getPrototypeOf | groupBy | hasOwn | is | isExtensible | isFrozen
  | isSealed | keys | preventExtensions | seal | setPrototypeOf | values
  | hasOwnProperty | isPrototypeOf | propertyIsEnumerable | toLocaleString | toText | valueOf
  | getProto | setProto | defineGetter | defineSetter | lookupGetter | lookupSetter
  deriving DecidableEq

inductive FunctionFn where
  | make | makeGenerator | makeAsync | makeAsyncGenerator
  | protoCall | apply | bind | call | toText | hasInstance | throwTypeError
  deriving DecidableEq

inductive ArrayFn where
  | make | source | isArray | of | species
  | at_ | concat | copyWithin | entries | every | fill | filter | find | findIndex | findLast
  | findLastIndex | flat | flatMap | forEach | includes | indexOf | join | keys | lastIndexOf | map
  | pop | push | reduce | reduceRight | reverse | shift | slice | some | sort | splice
  | toLocaleString | toReversed | toSorted | toSpliced | toText | unshift | values | with_
  deriving DecidableEq

inductive StringFn where
  | make | fromCharCode | fromCodePoint | raw
  | at_ | charAt | charCodeAt | codePointAt | concat | endsWith | includes | indexOf
  | isWellFormed | lastIndexOf | localeCompare | match_ | matchAll | normalize | padEnd | padStart
  | repeat_ | replace | replaceAll | search | slice | split | startsWith | substring
  | toLowerCase | toText | toUpperCase | toWellFormed | trim | trimEnd | trimStart
  | valueOf | iterator
  deriving DecidableEq

inductive NumberFn where
  | make | isFinite | isInteger | isNaN | isSafeInteger
  | toExponential | toFixed | toLocaleString | toPrecision | toText | valueOf
  | makeBoolean | booleanText | booleanValue
  | makeBigInt | asIntN | asUintN | bigIntText | bigIntValue
  deriving DecidableEq

inductive SymbolFn where
  | make | for_ | keyFor | toText | valueOf | description | toPrimitive
  deriving DecidableEq

inductive MathFn where
  | abs | acos | acosh | asin | asinh | atan | atanh | atan2 | cbrt | ceil | clz32 | cos
  | cosh | exp
  | expm1 | floor | fround | hypot | imul | log | log1p | log10 | log2 | max | min | pow | random
  | round | sign | sin | sinh | sqrt | tan | tanh | trunc
  deriving DecidableEq

inductive JsonFn where
  | parse | stringify
  deriving DecidableEq

inductive ReflectFn where
  | apply | construct | defineProperty | deleteProperty | get | getOwnPropertyDescriptor
  | getPrototypeOf | has | isExtensible | ownKeys | preventExtensions | set | setPrototypeOf
  | makeProxy | revocable | revoke
  deriving DecidableEq

/-- The sorts of errors. -/
inductive ErrorSort where
  | error | aggregate | eval | range | reference | source | type | uri
  deriving DecidableEq, Inhabited

inductive ErrorFn where
  | make (sort : ErrorSort)
  | toText
  deriving DecidableEq

inductive CollectionFn where
  | makeMap | mapGroupBy | mapClear | mapDelete | mapEntries | mapForEach | mapGet
  | mapHas | mapKeys
  | mapSet | mapSize | mapValues
  | makeSet | setAdd | setClear | setDelete | setEntries | setForEach | setHas | setSize | setValues
  | makeWeakMap | weakMapDelete | weakMapGet | weakMapHas | weakMapSet
  | makeWeakSet | weakSetAdd | weakSetDelete | weakSetHas
  | makeWeakRef | weakRefDeref
  | species
  deriving DecidableEq

inductive PromiseFn where
  | make | resolve | reject | all | allSettled | any | race | withResolvers
  | then_ | catch_ | finally_ | species | attempt
  | resolver | rejecter | executor | thenFinally | catchFinally | elementDone
  deriving DecidableEq

inductive IteratorFn where
  | self | arrayNext | mapNext | setNext | stringNext
  | generatorNext | generatorReturn | generatorThrow
  | asyncNext | asyncReturn | asyncThrow
  deriving DecidableEq

inductive RegexFn where
  | make | exec | test | toText | species
  | flags | source | flag (letter : Char)
  | match_ | matchAll | replace | search | split | matchNext
  deriving DecidableEq

/-- Fields of a date. -/
inductive DateField where
  | date | day | fullYear | hours | milliseconds | minutes | month | seconds
  deriving DecidableEq

inductive DateFn where
  | make | now | parse | utc
  | get (f : DateField)
  | set (f : DateField)
  | getTime | setTime | getTimezoneOffset | valueOf | getYear | setYear
  | toDateString | toIsoString | toJson | toText | toTimeString | toUtcString | toLocale
  | toPrimitive
  deriving DecidableEq

/-- Element types of typed arrays. -/
inductive ElementSort where
  | int8 | uint8 | uint8Clamped | int16 | uint16 | int32 | uint32 | bigInt64 | bigUint64
  | float32 | float64
  deriving DecidableEq, Inhabited

inductive BufferFn where
  | makeBuffer | isView | byteLength | maxByteLength | resizable | resize | sliceBuffer | species
  | makeShared | sharedByteLength | sharedMaxByteLength | growable | grow | sharedSlice
  | makeTyped (sort : ElementSort) | makeAbstract | source | of
  | typedBuffer | typedByteLength | typedByteOffset | typedLength | typedTag
  | set | subarray | slice | map | filter | fill | sort | reverse | toReversed | toSorted | with_
  /-- A method that typed arrays share with arrays. -/
  | list (f : ArrayFn)
  | makeView | viewBuffer | viewByteLength | viewByteOffset
  | get (sort : ElementSort) | put (sort : ElementSort)
  deriving DecidableEq

/-- Operations on elements that nothing interrupts. -/
inductive AtomicFn where
  | add | and | compareExchange | exchange | isLockFree | load | or | store | sub | wait
  | notify | xor
  deriving DecidableEq

/-- A built-in function. -/
inductive Native where
  | global (f : GlobalFn)
  | object (f : ObjectFn)
  | function (f : FunctionFn)
  | array (f : ArrayFn)
  | string (f : StringFn)
  | number (f : NumberFn)
  | symbol (f : SymbolFn)
  | math (f : MathFn)
  | json (f : JsonFn)
  | reflect (f : ReflectFn)
  | error (f : ErrorFn)
  | collection (f : CollectionFn)
  | promise (f : PromiseFn)
  | iterator (f : IteratorFn)
  | regex (f : RegexFn)
  | date (f : DateFn)
  | buffer (f : BufferFn)
  | atomic (f : AtomicFn)
  deriving DecidableEq

/-! ## Objects that exist from the start -/

namespace Intrinsic

def objectProto : Nat := 0
def functionProto : Nat := 1
def arrayProto : Nat := 2
def stringProto : Nat := 3
def numberProto : Nat := 4
def booleanProto : Nat := 5
def symbolProto : Nat := 6
def bigIntProto : Nat := 7
def dateProto : Nat := 8
def regexProto : Nat := 9
def mapProto : Nat := 10
def setProto : Nat := 11
def weakMapProto : Nat := 12
def weakSetProto : Nat := 13
def weakRefProto : Nat := 14
def promiseProto : Nat := 15
def iteratorProto : Nat := 16
def asyncIteratorProto : Nat := 17
def arrayIteratorProto : Nat := 18
def mapIteratorProto : Nat := 19
def setIteratorProto : Nat := 20
def stringIteratorProto : Nat := 21
def matchIteratorProto : Nat := 22
def generatorProto : Nat := 23
def asyncGeneratorProto : Nat := 24
def generatorFunctionProto : Nat := 25
def asyncFunctionProto : Nat := 26
def asyncGeneratorFunctionProto : Nat := 27
def bufferProto : Nat := 28
def viewProto : Nat := 29
def typedProto : Nat := 30
def global : Nat := 31
def throwTypeError : Nat := 32
def promiseCtor : Nat := 33
def arrayCtor : Nat := 34
def regexCtor : Nat := 35
def typedCtor : Nat := 36
def bufferCtor : Nat := 37
def evaluate : Nat := 38
def arrayValues : Nat := 39
def arrayText : Nat := 40

def errorProto : ErrorSort → Nat
  | .error => 41
  | .aggregate => 42
  | .eval => 43
  | .range => 44
  | .reference => 45
  | .source => 46
  | .type => 47
  | .uri => 48

def elementProto : ElementSort → Nat
  | .int8 => 49
  | .uint8 => 50
  | .uint8Clamped => 51
  | .int16 => 52
  | .uint16 => 53
  | .int32 => 54
  | .uint32 => 55
  | .bigInt64 => 56
  | .bigUint64 => 57
  | .float32 => 58
  | .float64 => 59

def sharedProto : Nat := 60
def sharedCtor : Nat := 61

def elementCtor : ElementSort → Nat
  | .int8 => 62
  | .uint8 => 63
  | .uint8Clamped => 64
  | .int16 => 65
  | .uint16 => 66
  | .int32 => 67
  | .uint32 => 68
  | .bigInt64 => 69
  | .bigUint64 => 70
  | .float32 => 71
  | .float64 => 72

def parseInt : Nat := 73
def parseFloat : Nat := 74

def count : Nat := 75

end Intrinsic

end Inlay.Engine
