import Inlay.Engine.Scope

/-! # Functions and their activations -/

namespace Inlay.Engine

open Exec

/-! ## Making functions -/

def keyName (k : Key) : Exec Units := do
  match k with
  | .str s => return s
  | .sym i =>
      match ((← get).symbols[i]?).join with
      | some d => return if d.isEmpty then .empty else .ofString "[" ++ d ++ .ofString "]"
      | none => return .empty

def functionProto (i : FnInfo) : Ref :=
  match i.isAsync, i.isGenerator with
  | false, false => Intrinsic.functionProto
  | false, true => Intrinsic.generatorFunctionProto
  | true, false => Intrinsic.asyncFunctionProto
  | true, true => Intrinsic.asyncGeneratorFunctionProto

def newClosure (c : Closure) (name : Units) (proto : Option Ref := none) : Exec Ref := do
  let i := c.node.fnInfo
  let f ← alloc {
    proto := some (proto.getD (functionProto i))
    kind := .closure c
    props := #[(Key.text "length", .readOnly (.nat i.length)),
      (Key.text "name", .readOnly (.str name))] }
  if i.isGenerator then
    let p ← newObject
      (if i.isAsync then Intrinsic.asyncGeneratorProto else Intrinsic.generatorProto)
    modifyObj f (·.put (Key.text "prototype") ⟨.data (.obj p) true, false, false⟩)
  else if i.sort == .plain && !i.isAsync then
    let p ← newObject
    modifyObj p (·.put (Key.text "constructor") (.hidden (.obj f)))
    modifyObj f (·.put (Key.text "prototype") ⟨.data (.obj p) true, false, false⟩)
  return f

/-- A function for a definition in the current scope.  A function expression with a name sees itself
    under that name. -/
def makeFunction (n : Node) (name : Option Units := none) : Exec Ref := do
  let i := n.fnInfo
  let s := (← frame).scope
  if i.isNamedExpr then
    let inner ← newScope {
      parent := some s, sort := .block
      names := #[{ name := i.name, value := none, isConst := true, isLenient := true }] }
    let f ← newClosure { node := n, scope := inner } i.name
    writeSlot inner 0 (.obj f)
    return f
  newClosure { node := n, scope := s } (if i.name.isEmpty then name.getD .empty else i.name)

/-- A method: a function that knows the object it belongs to. -/
def makeMethod (n : Node) (home : Ref) (name : Units) : Exec Ref := do
  newClosure { node := n, scope := (← frame).scope, home := some home } name

/-- The name of a method with the word for accessors in front. -/
def methodName (sort : MethodSort) (k : Key) : Exec Units := do
  let n ← keyName k
  return match sort with
    | .method => n
    | .getter => .ofString "get " ++ n
    | .setter => .ofString "set " ++ n

/-! ## Parts of functions -/

def paramsOf (n : Node) : List Node := (n.part 0).parts

def functionsOf (n : Node) : List Node := (n.part 1).parts

def bodyOf (n : Node) : List Node := (n.part 2).parts

/-! ## Activations -/

/-- The values of plain parameters, the last of repeated ones. -/
def parameterBindings (params : List Name) (args : Array Value) : Array Binding :=
  (params.zipIdx).foldl (fun (out : Array Binding) (x, i) =>
    let v := args.getD i .undefined
    match findBinding out x with
    | some j => out.modify j fun b => { b with value := some v }
    | none => out.push { name := x, value := some v }) #[]

/-- Names of variables that are not there yet. -/
def addVars (out : Array Binding) (vars : List Name) : Array Binding :=
  vars.foldl (fun out x =>
    if (findBinding out x).isSome then out
    else out.push { name := x, value := some .undefined }) out

def addLexical (out : Array Binding) (names : List (Name × Bool)) : Array Binding :=
  names.foldl (fun out (x, c) => out.push { name := x, value := none, isConst := c }) out

/-- The object with the arguments of a call.  In sloppy code with plain parameters they share the
    values of the parameters. -/
def newArguments (i : FnInfo) (s : ScopeId) (f : Ref) (args : Array Value) : Exec Ref := do
  let items := (args.zipIdx).map fun (v, j) => (Key.index j, Property.plain v)
  let common : Array (Key × Property) :=
    #[(Key.text "length", .hidden (.nat args.size)),
      (.sym WellKnown.iterator, .hidden (.obj Intrinsic.arrayValues))]
  let isMapped := !i.strict && i.simple
  let callee : Key × Property := if isMapped then (Key.text "callee", .hidden (.obj f))
    else (Key.text "callee",
      ⟨.accessor (some Intrinsic.throwTypeError) (some Intrinsic.throwTypeError), false, false⟩)
  let mapped : Array (Option Name) := if isMapped then
      (List.range args.size).toArray.map fun j =>
        match i.params[j]? with
        | some x => if (i.params.drop (j + 1)).contains x then none else some x
        | none => none
    else #[]
  alloc {
    proto := some Intrinsic.objectProto
    kind := .arguments mapped s
    props := items ++ common.push callee }

/-- The value of `this` in a function called with a given one. -/
def thisFor (i : FnInfo) (this : Value) : Exec Value := do
  if i.strict then return this
  match this with
  | .undefined | .null => return .obj Intrinsic.global
  | .obj _ => return this
  | v => return .obj (← toObject v)

def instantiateFunctions (s : ScopeId) (fs : List Node) : Exec Unit := do
  for n in fs do
    let i := n.fnInfo
    let f ← newClosure { node := n, scope := s } i.name
    modifyScope s fun sc =>
      match findBinding sc.names i.name with
      | some j => { sc with names := sc.names.modify j fun b => { b with value := some (.obj f) } }
      | none => { sc with names := sc.names.push { name := i.name, value := some (.obj f) } }

/-- Instructions that bind parameters with patterns, defaults or a rest to arguments. -/
def bindParameters (params : List Node) (args : Array Value) (rest : Array Value → Exec Ref) :
    Exec (List Instr) := do
  let mut out : List Instr := []
  for (p, i) in params.zipIdx do
    match p with
    | .mk .rest [t] =>
        let r ← rest (args.extract i args.size)
        out := out ++ [.push (.obj r), .bind .init t]
    | .mk .withDefault [t, d] =>
        let name := match t.form with
          | .ident x => some (Key.str x)
          | _ => none
        out := out ++ [.push (args.getD i .undefined), .orDefault d name, .bind .init t]
    | t => out := out ++ [.push (args.getD i .undefined), .bind .init t]
  return out

/-- A call: the value of `this` (missing until a parent constructor makes it), the arguments and
    what was constructed. -/
structure Entry where
  this : Option Value
  args : Array Value
  newTarget : Value := .undefined
  sort : FrameSort := .call
  isEntry : Bool := false

def activate (f : Ref) (c : Closure) (e : Entry) : Exec Frame := do
  let n := c.node
  let i := n.fnInfo
  let isArrow := i.sort == .arrow
  let sort ← do
    if isArrow then pure ScopeSort.block
    else pure (.function { this := e.this, fn := f, newTarget := e.newTarget, home := c.home })
  let isPlain := i.simple
  let params := if isPlain then parameterBindings i.params e.args
    else (distinctNames i.params).foldl (fun out x => out.push { name := x, value := none }) #[]
  let s ← newScope { parent := some c.scope, sort, names := params }
  let argumentsName : Name := .ofString "arguments"
  if i.usesArguments && !isArrow && i.sort != .initializer && !i.params.contains argumentsName then
    let r ← newArguments i s f e.args
    modifyScope s fun sc =>
      { sc with names := sc.names.push { name := argumentsName, value := some (.obj r) } }
  modifyScope s fun sc => { sc with names := addLexical (addVars sc.names i.vars) i.lexical }
  let binding ← do
    if isPlain then pure [] else bindParameters (paramsOf n) e.args newArray
  instantiateFunctions s (functionsOf n)
  let start := if i.isGenerator then [Instr.startGenerator] else []
  let body := match i.sort, c.fieldName, bodyOf n with
    | .initializer, some name, [.mk .ret [v]] => [Instr.evalNamed v name, .doReturn]
    | _, _, ss => ss.map .eval
  return {
    code := binding ++ start ++ body
    scope := s, sort := e.sort, strict := i.strict, fn := some f, isEntry := e.isEntry }
where
  distinctNames (xs : List Name) : List Name :=
    xs.foldl (fun out x => if out.contains x then out else out ++ [x]) []

def maxDepth : Nat := 512

/-- Starts an activation; the running one waits for it. -/
def pushFrame (f : Frame) : Exec Unit := do
  let m ← get
  if m.depth ≥ maxDepth then halt "RuntimeLimit: exceeded maximum number of recursive calls"
  modify fun m => { m with frame := f, callers := m.frame :: m.callers, depth := m.depth + 1 }

def popFrame : Exec Unit :=
  modify fun m =>
    match m.callers with
    | f :: fs => { m with frame := f, callers := fs, depth := m.depth - 1 }
    | [] => m

/-! ## Fields -/

/-- Adds the hidden methods and the fields that a class gives to each of its objects. -/
def initializeFields (r : Ref) (ctor : Ref) : Exec Unit := do
  match ← kind ctor with
  | .closure c =>
      addHiddenMethods r c.hidden
      for f in c.fields do
        defineField r f
  | _ => return
where
  defineField (r : Ref) (f : Field) : Exec Unit := do
    let v ← match f.init with
      | some g => Object.call (.obj g) (.obj r)
      | none => pure .undefined
    match f.key with
    | .open_ k => Object.createDataOrThrow r k v
    | .hidden id => addHidden r id (.field v) "field"

end Inlay.Engine
