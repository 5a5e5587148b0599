import Inlay.Engine.Native
import Inlay.Engine.Regex.Pattern
import Inlay.Engine.Syntax.Node
import Inlay.Engine.Value

/-! # The machine

    A machine holds a heap of objects, scopes, and one activation per running function.  An
    activation is a list of instructions that are still to be carried out and a stack of operands;
    expressions and statements are instructions too, and are replaced by simpler ones when their
    turn comes.  Nothing is ever taken out of the heap. -/

namespace Inlay.Engine

abbrev ScopeId := Nat

abbrev HiddenId := Nat

/-! ## Iteration -/

abbrev IterId := Nat

structure Iter where
  iterator : Value
  next : Value
  isDone : Bool := false
  deriving Inhabited

/-! ## Instructions -/

/-- How a statement or an activation goes on. -/
inductive Completion where
  /-- It ends normally after all. -/
  | normal (v : Value)
  | thrown (v : Value)
  | returned (v : Value)
  | broken (label : Option Name)
  | continued (label : Option Name)
  deriving Inhabited

/-- How a pattern binds names. -/
inductive BindMode where
  /-- Assigns to names and members that exist. -/
  | assign
  /-- Gives a declared name its first value. -/
  | init
  deriving DecidableEq

/-- The key of a field of a class. -/
inductive FieldKey where
  | open_ (k : Key)
  | hidden (id : HiddenId)

/-- A field of a class: its key, the function that makes its value, and whether a function without a
    name gets the name of the field. -/
structure Field where
  key : FieldKey
  init : Option Ref

/-- A hidden method or accessor of a class. -/
structure HiddenMethod where
  id : HiddenId
  sort : MethodSort
  fn : Ref

/-- What a static part of a class does once the class exists. -/
inductive StaticPart where
  | field (f : Field)
  | block (fn : Ref)

/-- A class under construction. -/
structure ClassDraft where
  ctor : Ref
  proto : Ref
  fields : List Field := []
  hidden : List HiddenMethod := []
  statics : List StaticPart := []
  staticHidden : List HiddenMethod := []

/-- What stands on the stack of operands. -/
inductive Slot where
  | val (v : Value)
  | list (vs : Array (Option Value))
  | key (k : Key)
  | iter (i : IterId)
  /-- The keys already taken from an object by a pattern. -/
  | keys (ks : List Key)
  | draft (d : ClassDraft)

instance : Inhabited Slot := ⟨.val .undefined⟩

inductive Instr where
  /-- Evaluates an expression, or carries out a statement. -/
  | eval (n : Node)
  /-- Evaluates an expression; a function without a name gets this one. -/
  | evalNamed (n : Node) (name : Key)
  /-- The same with the key on top of the stack as the name. -/
  | evalKeyed (n : Node)
  /-- Carries out a statement that has labels. -/
  | evalLabelled (n : Node) (labels : List Name)
  | push (v : Value)
  | pop
  | dup
  /-- Drops the operand below the top. -/
  | nip
  | getName (x : Name)
  | typeofName (x : Name)
  | setName (x : Name)
  | initName (x : Name)
  | updateName (x : Name) (isIncrement isFirst : Bool)
  | deleteName (x : Name)
  | getThis
  | getNewTarget
  | getNamed (x : Name)
  | getIndexed
  | getHidden (x : Name)
  | getSuper
  /-- Reads a member and keeps the object. -/
  | keepNamed (x : Name)
  | keepIndexed
  | keepHidden (x : Name)
  | setNamed (x : Name)
  | setIndexed
  | setHidden (x : Name)
  | setSuper
  /-- Stores the value below an object, or below an object and a key, in a member. -/
  | putNamed (x : Name)
  | putIndexed
  | putHidden (x : Name)
  | putSuper
  | updateNamed (x : Name) (isIncrement isFirst : Bool)
  | updateIndexed (isIncrement isFirst : Bool)
  | updateHidden (x : Name) (isIncrement isFirst : Bool)
  | updateSuper (isIncrement isFirst : Bool)
  | deleteNamed (x : Name)
  | deleteIndexed
  | deleteSuper
  | hasHidden (x : Name)
  | unary (op : UnaryOp)
  | binary (op : BinaryOp)
  | toKey
  | toText
  /-- Takes the top of the stack as a condition. -/
  | branch (yes no : List Instr)
  /-- Looks at the top of the stack: keeps it, or drops it and goes on. -/
  | decide (op : LogicalOp) (kept dropped : List Instr)
  | orDefault (n : Node) (name : Option Key)
  /- calls -/
  | startList
  | addItem
  | addHole
  | addSpread
  | getMethod (x : Name)
  | getMethodIndexed
  | getMethodHidden (x : Name)
  | getMethodSuper
  | call
  | callEval
  | construct
  | superCall
  | checkLink
  | chainEnd (stack : List Slot)
  | importModule
  /- literals -/
  | makeArray
  | joinTemplate (texts : List Units)
  | templateObject (site : Nat) (cooked : List (Option Units)) (raw : List Units)
  | makeObject
  | initProp
  | initNamedProp (x : Name)
  | initProto
  | initSpread
  | initMethod (sort : MethodSort) (fn : Node)
  | makeRegex (pattern flags : Units)
  | makeFunction (fn : Node)
  /- classes -/
  | startClass (n : Node) (name : Name)
  | makeClass (ctor : Node) (name : Name) (hasParent : Bool)
  | classMethod (isStatic : Bool) (sort : MethodSort) (fn : Node)
  | classHiddenMethod (isStatic : Bool) (sort : MethodSort) (x : Name) (fn : Node)
  | classField (isStatic : Bool) (init : Node)
  | classHiddenField (isStatic : Bool) (x : Name) (init : Node)
  | classBlock (fn : Node)
  | finishClass (bindName : Option Name)
  /- patterns -/
  | bind (mode : BindMode) (pattern : Node)
  | requireObject
  | patternKey
  | patternRest
  | bindItems (mode : BindMode) (items : List Node)
  | iterStep
  | iterRest
  /- statements -/
  | complete
  | clearCompletion
  | leave (scope : ScopeId)
  | enterBlock (lexical : List (Name × Bool)) (functions : List Node)
  | enterWith
  | whileTest (test body : Node) (labels : List Name)
  | doTest (test body : Node) (labels : List Name)
  | forTest (names : List (Name × Bool)) (test update body : Node) (labels : List Name)
  | copyScope (names : List (Name × Bool))
  | startForIn (sort : Option VarSort) (names : List Name) (target body : Node) (labels : List Name)
  | nextKey (object : Ref) (keys : List Key) (sort : Option VarSort) (names : List Name)
      (target body : Node) (labels : List Name)
  | startForOf (isAwait : Bool) (sort : Option VarSort) (names : List Name) (target body : Node)
      (labels : List Name)
  | nextItem (i : IterId) (sort : Option VarSort) (names : List Name) (target body : Node)
      (labels : List Name)
  | closing (i : IterId)
  | breakMark (labels : List Name) (isLoop : Bool) (stack : List Slot)
  | continueMark (labels : List Name) (stack : List Slot)
  | catchMark (handler : Node) (scope : ScopeId) (stack : List Slot)
  | finallyMark (body : Node) (scope : ScopeId) (stack : List Slot)
  | resume (c : Completion)
  | jump (c : Completion)
  | doReturn
  | doThrow
  | switchTest (todo all : List Node)
  | switchMatch (rest all : List Node)
  /- functions that can be left and entered again -/
  | startGenerator
  | yield
  | startDelegate
  | delegate (i : IterId)
  | await

instance : Inhabited Instr := ⟨.pop⟩

/-! ## Activations -/

/-- What becomes of the result of an activation. -/
inductive FrameSort where
  | call
  /-- Construction: the object made so far, if the constructor makes it itself. -/
  | construct (isDerived : Bool)
  | generator (g : Ref)
  | async (promise : Ref)
  | asyncGenerator (g : Ref)
  | script
  deriving Inhabited

structure Frame where
  code : List Instr
  stack : List Slot := []
  scope : ScopeId
  sort : FrameSort := .call
  strict : Bool := false
  completion : Value := .undefined
  /-- The function that runs. -/
  fn : Option Ref := none
  /-- Whether the result goes to the program that started the activation, not to another one. -/
  isEntry : Bool := false
  deriving Inhabited

/-! ## Scopes -/

/-- A name with its value; a name without a value must not be used yet. -/
structure Binding where
  name : Name
  value : Option Value
  isConst : Bool := false
  /-- Whether assignments to a constant fail silently in sloppy code. -/
  isLenient : Bool := false

/-- What the body of a function sees apart from names. -/
structure FnScope where
  this : Option Value
  fn : Ref
  newTarget : Value
  home : Option Ref

inductive ScopeSort where
  | block
  | function (f : FnScope)
  | object (r : Ref)
  | global
  | hidden (names : List (Name × HiddenId))

structure Scope where
  parent : Option ScopeId
  sort : ScopeSort
  names : Array Binding := #[]

instance : Inhabited Scope := ⟨{ parent := none, sort := .block }⟩

/-! ## Objects -/

structure Closure where
  node : Node
  scope : ScopeId
  home : Option Ref := none
  /-- The name that a function without one gets inside an initializer of a field. -/
  fieldName : Option Key := none
  isClass : Bool := false
  fields : List Field := []
  hidden : List HiddenMethod := []

inductive PromiseState where
  | pending
  | fulfilled (v : Value)
  | rejected (v : Value)

inductive GeneratorState where
  | start (f : Frame)
  | suspended (f : Frame)
  | running
  | finished

/-- Which halves of entries an iterator over a collection yields. -/
inductive IterSort where
  | keys | values | entries
  deriving DecidableEq

/-- What an object is, apart from its properties. -/
inductive Kind where
  | ordinary
  /-- Items that are plain properties, the length, and whether the length may change. -/
  | array (items : Array (Option Value)) (length : Nat) (isGrowable : Bool)
  /-- Arguments; those with a name share its value. -/
  | arguments (mapped : Array (Option Name)) (scope : ScopeId)
  | closure (c : Closure)
  | native (f : Native) (isCtor : Bool) (data : List Value)
  | bound (target : Ref) (this : Value) (args : List Value)
  | error (sort : ErrorSort)
  | bool (b : Bool)
  | num (n : Num)
  | str (s : Units)
  | sym (id : SymbolId)
  | big (n : Int)
  | date (t : Num)
  | regex (r : Regex.Expression) (source : Units)
  | map (entries : Array (Option (Value × Value)))
  | set (items : Array (Option Value))
  | weakMap (entries : Array (Value × Value))
  | weakSet (items : Array Value)
  | weakRef (v : Value)
  | promise (s : PromiseState) (isResolved : Bool)
  | proxy (target handler : Option Ref) (isCallable isCtor : Bool)
  | generator (s : GeneratorState)
  | asyncGenerator (s : GeneratorState)
  | arrayIter (target : Option Ref) (index : Nat) (sort : IterSort)
  | mapIter (target : Option Ref) (index : Nat) (sort : IterSort)
  | setIter (target : Option Ref) (index : Nat) (sort : IterSort)
  | stringIter (text : Units) (index : Nat)
  | matchIter (regex : Ref) (text : Units) (isGlobal isUnicode isDone : Bool)
  /-- Bytes; a buffer with a limit can change its size up to it. -/
  | buffer (bytes : Array UInt8) (limit : Option Nat) (isShared : Bool)
  /-- Elements in a buffer; without a length they follow its size. -/
  | typed (sort : ElementSort) (buffer : Ref) (offset : Nat) (length : Option Nat)
  | view (buffer : Ref) (offset : Nat) (length : Option Nat)

/-- A hidden member of an object. -/
inductive HiddenMember where
  | field (v : Value)
  | method (fn : Ref)
  | accessor (getter setter : Option Ref)

structure Obj where
  proto : Option Ref
  kind : Kind := .ordinary
  isExtensible : Bool := true
  props : Array (Key × Property) := #[]
  hidden : List (HiddenId × HiddenMember) := []

instance : Inhabited Obj := ⟨{ proto := none }⟩

/-! ## The machine and its programs -/

structure Machine where
  heap : Array Obj
  scopes : Array Scope
  iters : Array Iter := #[]
  /-- Descriptions of symbols. -/
  symbols : Array (Option Units)
  /-- Symbols by the text they are registered under. -/
  registry : List (Units × SymbolId) := []
  hiddenCount : Nat := 0
  frame : Frame := { code := [], scope := 0 }
  callers : List Frame := []
  depth : Nat := 0
  /-- Objects for the texts of tagged templates, by the number of the template. -/
  templates : List (Nat × Ref) := []
  /-- How many tagged templates have been read. -/
  sites : Nat := 0
  deriving Inhabited

/-- Why a program stops early. -/
inductive Abrupt where
  | throw (v : Value)
  /-- A limit of the machine was reached; scripts cannot catch this. -/
  | halt (message : String)

/-- What programs of the machine may ask of it again: the operations that can run scripts. -/
structure Again where
  call : Value → Value → Array Value → EStateM Abrupt Machine Value
  construct : Ref → Array Value → Ref → EStateM Abrupt Machine Value
  /-- Runs a saved activation until it yields or ends; whether it ended comes beside the value. -/
  resume : Frame → Completion → EStateM Abrupt Machine (Bool × Value)
  getOwn : Ref → Key → EStateM Abrupt Machine (Option Property)
  define : Ref → Key → Descriptor → EStateM Abrupt Machine Bool
  has : Ref → Key → EStateM Abrupt Machine Bool
  get : Ref → Key → Value → EStateM Abrupt Machine Value
  set : Ref → Key → Value → Value → EStateM Abrupt Machine Bool
  delete : Ref → Key → EStateM Abrupt Machine Bool
  ownKeys : Ref → EStateM Abrupt Machine (List Key)
  getProto : Ref → EStateM Abrupt Machine (Option Ref)
  setProto : Ref → Option Ref → EStateM Abrupt Machine Bool
  isExtensible : Ref → EStateM Abrupt Machine Bool
  preventExtensions : Ref → EStateM Abrupt Machine Bool
  /-- Runs a script text in a scope. -/
  evaluate : Units → Option ScopeId → Bool → EStateM Abrupt Machine Value

abbrev Exec := ReaderT Again (EStateM Abrupt Machine)

namespace Exec

def obj (r : Ref) : Exec Obj := do return (← get).heap[r]!

def modifyObj (r : Ref) (f : Obj → Obj) : Exec Unit :=
  modify fun m => { m with heap := m.heap.modify r f }

def kind (r : Ref) : Exec Kind := do return (← obj r).kind

def setKind (r : Ref) (k : Kind) : Exec Unit := modifyObj r fun o => { o with kind := k }

def alloc (o : Obj) : Exec Ref := do
  modifyGet fun m => (m.heap.size, { m with heap := m.heap.push o })

def newScope (s : Scope) : Exec ScopeId :=
  modifyGet fun m => (m.scopes.size, { m with scopes := m.scopes.push s })

def scope (s : ScopeId) : Exec Scope := do return (← get).scopes[s]!

def modifyScope (s : ScopeId) (f : Scope → Scope) : Exec Unit :=
  modify fun m => { m with scopes := m.scopes.modify s f }

def newSymbol (description : Option Units) : Exec SymbolId :=
  modifyGet fun m => (m.symbols.size, { m with symbols := m.symbols.push description })

def newHidden : Exec HiddenId :=
  modifyGet fun m => (m.hiddenCount, { m with hiddenCount := m.hiddenCount + 1 })

def newIter (i : Iter) : Exec IterId :=
  modifyGet fun m => (m.iters.size, { m with iters := m.iters.push i })

def modifyIter (i : IterId) (f : Iter → Iter) : Exec Unit :=
  modify fun m => { m with iters := m.iters.modify i f }

def iter (i : IterId) : Exec Iter := do return (← get).iters[i]!

def modifyFrame (f : Frame → Frame) : Exec Unit :=
  modify fun m => { m with frame := f m.frame }

def frame : Exec Frame := do return (← get).frame

def halt {α : Type} (message : String) : Exec α := throw (.halt message)

def raise {α : Type} (v : Value) : Exec α := throw (.throw v)

/-! ## Objects -/

def newObject (proto : Ref := Intrinsic.objectProto) : Exec Ref := alloc { proto := some proto }

def newArray (items : Array Value) : Exec Ref :=
  alloc { proto := some Intrinsic.arrayProto, kind := .array (items.map some) items.size true }

def newError (sort : ErrorSort) (message : String) : Exec Ref :=
  alloc {
    proto := some (Intrinsic.errorProto sort)
    kind := .error sort
    props := #[(Key.text "message", .hidden (.text message))] }

def fail {α : Type} (sort : ErrorSort) (message : String) : Exec α := do
  raise (.obj (← newError sort message))

def typeError {α : Type} (message : String) : Exec α := fail .type message

def rangeError {α : Type} (message : String) : Exec α := fail .range message

def referenceError {α : Type} (message : String) : Exec α := fail .reference message

/-- A built-in function that keeps some values. -/
def newNative (f : Native) (name : String) (length : Nat) (data : List Value := []) : Exec Ref :=
  alloc {
    proto := some Intrinsic.functionProto
    kind := .native f false data
    props := #[(Key.text "length", .readOnly (.nat length)),
      (Key.text "name", .readOnly (.text name))] }

end Exec

end Inlay.Engine
