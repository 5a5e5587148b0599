import Inlay.Engine.Code
import Inlay.Engine.Function
import Inlay.Engine.Operator
import Inlay.Engine.Promise
import Inlay.Engine.Regex.Match
import Inlay.Engine.Regex.Reader

/-! # Carrying out instructions

    One instruction at a time is taken off the running activation and carried out.  Calls of
    functions of a script start an activation; all other calls go through `Again`. -/

namespace Inlay.Engine

open Exec

/-- Whether the machine goes on, or a result goes to the program that started the activation. -/
inductive Signal where
  | next
  | done (v : Value)

namespace Step

/-! ## The stack of operands -/

def pushSlot (s : Slot) : Exec Unit := modifyFrame fun f => { f with stack := s :: f.stack }

def push (v : Value) : Exec Unit := pushSlot (.val v)

def popSlot : Exec Slot :=
  modifyGet fun m =>
    match m.frame.stack with
    | s :: rest => (s, { m with frame := { m.frame with stack := rest } })
    | [] => (.val .undefined, m)

def pop : Exec Value := do
  match ← popSlot with
  | .val v => return v
  | _ => return .undefined

def popKey : Exec Key := do
  match ← popSlot with
  | .key k => return k
  | .val v => toKey v
  | _ => return default

def popList : Exec (Array (Option Value)) := do
  match ← popSlot with
  | .list vs => return vs
  | _ => return #[]

def popArguments : Exec (Array Value) := do return (← popList).map (·.getD .undefined)

def top : Exec Value := do
  match (← frame).stack.head? with
  | some (.val v) => return v
  | _ => return .undefined

def schedule (is : List Instr) : Exec Unit := modifyFrame fun f => { f with code := is ++ f.code }

def setCode (is : List Instr) : Exec Unit := modifyFrame fun f => { f with code := is }

def setScope (s : ScopeId) : Exec Unit := modifyFrame fun f => { f with scope := s }

def addItems (vs : Array (Option Value)) : Exec Unit :=
  modifyFrame fun f =>
    match f.stack with
    | .list old :: rest => { f with stack := .list (old ++ vs) :: rest }
    | _ => f

def addItem (v : Option Value) : Exec Unit :=
  modifyFrame fun f =>
    match f with
    | { stack := .list old :: rest, .. } => { f with stack := .list (old.push v) :: rest }
    | f => f

/-! ## Ends of activations -/

/-- Hands a value to whoever waits for the activation that has just been taken off. -/
def deliver (isEntry : Bool) (v : Value) : Exec Signal := do
  if isEntry then return .done v
  push v
  return .next

def constructed (isDerived : Bool) (v : Value) : Exec Value := do
  match v with
  | .obj _ => return v
  | v =>
      if isDerived && !v.isUndefined then
        typeError "derived constructor can only return an Object or undefined"
      getThis

/-- Ends the running activation with a value. -/
def finish (v : Value) : Exec Signal := do
  let f ← frame
  match f.sort with
  | .call | .script =>
      popFrame
      deliver f.isEntry v
  | .construct isDerived =>
      let r ← constructed isDerived v
      popFrame
      deliver f.isEntry r
  | .generator g =>
      setKind g (.generator .finished)
      popFrame
      deliver f.isEntry v
  | .asyncGenerator g =>
      setKind g (.asyncGenerator .finished)
      popFrame
      deliver f.isEntry v
  | .async p =>
      popFrame
      Promise.resolve p v
      deliver f.isEntry (.obj p)

def matchesLabel (labels : List Name) (isDefault : Bool) : Option Name → Bool
  | none => isDefault
  | some l => labels.contains l

/-- Goes through the instructions that are left up to the place where a completion is taken up; says
    whether there is one. -/
def unwind (c : Completion) : List Instr → Exec Bool
  | [] => do
      setCode []
      return false
  | i :: rest => do
      match i, c with
      | .leave s, _ =>
          setScope s
          unwind c rest
      | .closing it, .thrown _ =>
          setCode rest
          Iter.abandon it
          unwind c rest
      | .closing it, _ =>
          setCode rest
          Iter.close it
          unwind c rest
      | .catchMark handler s stack, .thrown v =>
          modifyFrame fun f => { f with scope := s, stack, code := rest }
          let f ← frame
          match handler with
          | .mk (.handler names) [p, b] =>
              let binding := if p.isAbsent then [] else
                [Instr.enterBlock (names.map (·, false)) [], .push v, .bind .init p]
              schedule (binding ++ [.eval b, .leave f.scope])
          | _ => pure ()
          return true
      | .finallyMark b s stack, c =>
          modifyFrame fun f =>
            { f with scope := s, stack, code := .eval b :: .resume c :: rest }
          return true
      | .breakMark labels isLoop stack, .broken l =>
          if matchesLabel labels isLoop l then
            modifyFrame fun f => { f with stack, code := rest }
            return true
          else unwind c rest
      | .continueMark labels stack, .continued l =>
          if matchesLabel labels true l then
            modifyFrame fun f => { f with stack, code := rest }
            return true
          else unwind c rest
      | _, _ => unwind c rest

def leaveWith (c : Completion) : Exec Signal := do
  if ← unwind c (← frame).code then return .next
  match c with
  | .returned v => finish v
  | .thrown v => raise v
  | _ => return .next

/-! ## Calls -/

/-- Starts the activation of a function of a script. -/
def enterCall (r : Ref) (c : Closure) (this : Value) (args : Array Value) (isEntry : Bool) :
    Exec Unit := do
  let i := c.node.fnInfo
  if c.isClass then typeError "class constructor cannot be invoked without 'new'"
  let this ← thisFor i this
  let sort ← do
    if i.isAsync && !i.isGenerator then pure (FrameSort.async (← Promise.new)) else pure .call
  pushFrame (← activate r c { this := some this, args, sort, isEntry })

def enterConstruct (r : Ref) (c : Closure) (args : Array Value) (newTarget : Ref)
    (isEntry : Bool) : Exec Unit := do
  let isDerived := c.node.fnInfo.sort == .derived
  let this ← do
    if isDerived then pure none
    else
      let p ← protoFor (.obj newTarget) Intrinsic.objectProto
      let o ← newObject p
      initializeFields o r
      pure (some (.obj o))
  pushFrame (← activate r c
    { this, args, newTarget := .obj newTarget, sort := .construct isDerived, isEntry })

/-- Calls a function; a function of a script becomes the running one. -/
def callValue (f this : Value) (args : Array Value) : Exec Unit := do
  match f with
  | .obj r =>
      match ← kind r with
      | .closure c => enterCall r c this args false
      | _ => push (← Object.call f this args)
  | _ => typeError "not a callable function"

def constructValue (f : Value) (args : Array Value) : Exec Unit := do
  if !(← Object.isConstructor f) then typeError "not a constructor"
  match f with
  | .obj r =>
      match ← kind r with
      | .closure c => enterConstruct r c args r false
      | _ => push (← Object.construct r args)
  | _ => typeError "not a constructor"

def superCall (args : Array Value) : Exec Unit := do
  match ← currentFunction with
  | none => fail .source "unexpected super call"
  | some (_, f) =>
      let parent ← Object.getProto f.fn
      match parent, f.newTarget with
      | some p, .obj newTarget =>
          if !(← obj p).isConstructor then typeError "super constructor object must be constructor"
          let v ← Object.construct p args newTarget
          bindThis v
          match v with
          | .obj r => initializeFields r f.fn
          | _ => pure ()
          push v
      | _, _ => typeError "super constructor object must be constructor"

/-! ## Literals -/

/-- The array of the texts of a tagged template, which is made once. -/
def templateObject (site : Nat) (cooked : List (Option Units)) (raw : List Units) : Exec Ref := do
  match (← get).templates.lookup site with
  | some r => return r
  | none =>
      let frozen (vs : List Value) (more : Array (Key × Property)) : Exec Ref := do
        let items := (vs.zipIdx).map fun (v, i) =>
          (Key.index i, (⟨.data v false, true, false⟩ : Property))
        alloc {
          proto := some Intrinsic.arrayProto
          kind := .array #[] vs.length false
          isExtensible := false
          props := items.toArray ++ more }
      let rawArray ← frozen (raw.map .str) #[]
      let value (c : Option Units) : Value := match c with
        | some s => .str s
        | none => .undefined
      let r ← frozen (cooked.map value) #[(Key.text "raw", .fixed (.obj rawArray))]
      modify fun m => { m with templates := (site, r) :: m.templates }
      return r

def joinTemplate (texts : List Units) (vs : Array Value) : Units :=
  let parts := vs.toList.map fun v => match v with
    | .str s => s
    | _ => .empty
  .join (interleave texts parts)
where
  interleave : List Units → List Units → List Units
  | t :: ts, p :: ps => t :: p :: interleave ts ps
  | ts, _ => ts

/-- Copies the enumerable properties of a value to an object, apart from some. -/
def copyProperties (r : Ref) (v : Value) (except : List Key) : Exec Unit := do
  if v.isNullish then return
  let source ← toObject v
  for k in ← Object.ownKeys source do
    if !except.contains k then
      match ← Object.getOwn source k with
      | some p =>
          if p.isEnumerable then
            let x ← Object.get source k
            let _ ← Object.createData r k x
      | none => pure ()

def defineMethod (r : Ref) (sort : MethodSort) (k : Key) (f : Ref) (isEnumerable : Bool) :
    Exec Unit :=
  Object.defineOrThrow r k (match sort with
    | .method => { value := some (.obj f), isWritable := some true
                   isEnumerable := some isEnumerable, isConfigurable := some true }
    | .getter => { getter := some (some f)
                   isEnumerable := some isEnumerable, isConfigurable := some true }
    | .setter => { setter := some (some f)
                   isEnumerable := some isEnumerable, isConfigurable := some true })

def newRegex (pattern flags : Units) (proto : Ref := Intrinsic.regexProto) : Exec Ref := do
  match Regex.Flags.read flags.text.toList with
  | .error e => fail .source e
  | .ok fl =>
      match Regex.read pattern fl with
      | .error e => fail .source s!"failed to create matcher: {e}"
      | .ok r =>
          alloc {
            proto := some proto
            kind := .regex r pattern
            props := #[(Key.text "lastIndex", ⟨.data (.nat 0) true, false, false⟩)] }

/-! ## Classes -/

def modifyDraft (f : ClassDraft → ClassDraft) : Exec Unit :=
  modifyFrame fun fr =>
    match fr.stack with
    | .draft d :: rest => { fr with stack := .draft (f d) :: rest }
    | _ => fr

def draft : Exec ClassDraft := do
  match (← frame).stack.head? with
  | some (.draft d) => return d
  | _ => return { ctor := 0, proto := 0 }

def hiddenNames (es : List Node) : List Name :=
  es.foldl (fun out e =>
    match (e.part 0).form with
    | .hiddenName x => if out.contains x then out else out ++ [x]
    | _ => out) []

/-- Makes the scopes of a class: one for its name, one for its hidden names. -/
def startClass (n : Node) (name : Name) : Exec Unit := do
  let f ← frame
  let (own, isNamed) : Name × Bool := match n.form with
    | .cls own isNamed => (own, isNamed)
    | _ => (.empty, false)
  let names : Array Binding :=
    if isNamed then #[{ name := own, value := none, isConst := true }] else #[]
  let s ← newScope { parent := some f.scope, sort := .block, names }
  let mut hidden : List (Name × HiddenId) := []
  for x in hiddenNames (n.part 2).parts do
    hidden := hidden ++ [(x, ← newHidden)]
  let s ← newScope { parent := some s, sort := .hidden hidden }
  setScope s
  schedule (classCode f n name)

/-- The constructor of a class that does not write one: it passes its arguments on. -/
def defaultConstructor (name : Name) (isDerived : Bool) : Node :=
  let args : Name := .ofString "args"
  if isDerived then
    .mk (.fn { name, sort := .derived, strict := true, simple := false, params := [args] })
      [.list [.mk .rest [.mk (.ident args) []]], .list [],
        .list [.mk .exprStmt [.mk .superCall [.list [.mk .spread [.mk (.ident args) []]]]]]]
  else .mk (.fn { name, sort := .ctor, strict := true }) [.list [], .list [], .list []]

/-- What a class inherits: the prototype of its objects and that of itself. -/
def heritage (hasParent : Bool) : Exec (Option Ref × Ref) := do
  if !hasParent then return (some Intrinsic.objectProto, Intrinsic.functionProto)
  match ← pop with
  | .null => return (none, Intrinsic.functionProto)
  | .obj p =>
      if !(← obj p).isConstructor then typeError "superclass must be a constructor"
      match ← Object.get p (Key.text "prototype") with
      | .obj q => return (some q, p)
      | .null => return (none, p)
      | _ => typeError "superclass prototype must be an object or null"
  | _ => typeError "superclass must be a constructor"

def makeClass (ctor : Node) (name : Name) (hasParent : Bool) : Exec Unit := do
  let (protoParent, ctorParent) ← heritage hasParent
  let proto ← alloc { proto := protoParent }
  let n := if ctor.isAbsent then defaultConstructor name hasParent else ctor
  let f ← newClosure
    { node := n, scope := (← frame).scope, home := some proto, isClass := true } name
    (some ctorParent)
  modifyObj f (·.put (Key.text "prototype") (.fixed (.obj proto)))
  modifyObj proto (·.put (Key.text "constructor") (.hidden (.obj f)))
  pushSlot (.draft { ctor := f, proto })

def homeOf (d : ClassDraft) (isStatic : Bool) : Ref := if isStatic then d.ctor else d.proto

def initializerFor (d : ClassDraft) (isStatic : Bool) (n : Node) (name : Key) :
    Exec (Option Ref) := do
  if n.isAbsent then return none
  let needsName := match bodyOf n with
    | [.mk .ret [v]] => isAnonymous v
    | _ => false
  let c : Closure := {
    node := n, scope := (← frame).scope, home := some (homeOf d isStatic)
    fieldName := if needsName then some name else none }
  return some (← newClosure c .empty)

def addField (isStatic : Bool) (f : Field) : Exec Unit :=
  modifyDraft fun d =>
    if isStatic then { d with statics := d.statics ++ [.field f] }
    else { d with fields := d.fields ++ [f] }

def finishClass (bindName : Option Name) : Exec Unit := do
  match ← popSlot with
  | .draft d =>
      modifyObj d.ctor fun o =>
        match o.kind with
        | .closure c =>
            { o with kind := .closure { c with fields := d.fields, hidden := d.hidden } }
        | _ => o
      match bindName with
      | some x => initName x (.obj d.ctor)
      | none => pure ()
      addHiddenMethods d.ctor d.staticHidden
      for s in d.statics do
        match s with
        | .field f => initializeFields.defineField d.ctor f
        | .block f =>
            let _ ← Object.call (.obj f) (.obj d.ctor)
      push (.obj d.ctor)
  | _ => push .undefined

/-! ## Loops -/

/-- The keys that a loop over the keys of an object visits. -/
def enumerableKeys : Nat → Ref → List Key → List Key → Exec (List Key)
  | 0, _, _, out => return out
  | n + 1, r, seen, out => do
      let mut seen := seen
      let mut out := out
      for k in ← Object.ownKeys r do
        if k.isString && !seen.contains k then
          match ← Object.getOwn r k with
          | some p =>
              seen := k :: seen
              if p.isEnumerable then out := k :: out
          | none => pure ()
      match ← Object.getProto r with
      | some p => enumerableKeys n p seen out
      | none => return out

def headMode (sort : Option VarSort) : BindMode :=
  match sort with
  | some .letVar | some .const => .init
  | _ => .assign

def round (v : Value) (sort : Option VarSort) (names : List Name) (target body : Node)
    (labels : List Name) (again : Instr) : Exec Unit := do
  let f ← frame
  let isConst := sort == some .const
  let enter := if names.isEmpty then [] else [Instr.enterBlock (names.map (·, isConst)) []]
  schedule (enter ++ [.push v, .bind (headMode sort) target, .eval body, .leave f.scope,
    .continueMark labels f.stack, again])

def enterBlock (lexical : List (Name × Bool)) (functions : List Node) : Exec Unit := do
  let f ← frame
  let s ← newScope { parent := some f.scope, sort := .block, names := addLexical #[] lexical }
  setScope s
  instantiateFunctions s functions

/-- Gives the next round of a loop names of its own. -/
def copyScope (names : List (Name × Bool)) : Exec Unit := do
  if names.isEmpty || names.all Prod.snd then return
  let sc ← scope (← frame).scope
  setScope (← newScope sc)

/-! ## Functions that can be left and entered again -/

def startGenerator : Exec Signal := do
  let f ← frame
  let (isAsync, fn) ← match f.fn with
    | some r => do
        match ← kind r with
        | .closure c => pure (c.node.fnInfo.isAsync, r)
        | _ => pure (false, r)
    | none => pure (false, Intrinsic.objectProto)
  let default := if isAsync then Intrinsic.asyncGeneratorProto else Intrinsic.generatorProto
  let proto ← protoFor (.obj fn) default
  let g ← alloc { proto := some proto }
  if isAsync then
    setKind g (.asyncGenerator (.start { f with sort := .asyncGenerator g, isEntry := true }))
  else setKind g (.generator (.start { f with sort := .generator g, isEntry := true }))
  popFrame
  deliver f.isEntry (.obj g)

def yieldValue (v : Value) : Exec Signal := do
  let f ← frame
  match f.sort with
  | .generator g =>
      setKind g (.generator (.suspended f))
      popFrame
      return .done v
  | .asyncGenerator g =>
      let _ ← Promise.ofValue v
      setKind g (.asyncGenerator .running)
      popFrame
      return .done v
  | _ => return .next

/-- Waits for a value; whoever called the function goes on without it. -/
def awaitValue (v : Value) : Exec Signal := do
  let f ← frame
  let _ ← Promise.ofValue v
  match f.sort with
  | .async p =>
      popFrame
      deliver f.isEntry (.obj p)
  | .asyncGenerator g =>
      setKind g (.asyncGenerator .running)
      popFrame
      return .done .undefined
  | _ => return .next

def delegated (i : IterId) (r : Value) : Exec Signal := do
  match r with
  | .obj o =>
      let v ← Object.get o (Key.text "value")
      if (← Object.get o (Key.text "done")).truthy then
        push v
        return .next
      schedule [.delegate i]
      yieldValue v
  | _ => typeError "iterator result is not an object"

/-- Passes a value that a generator was entered with on to an inner iterator. -/
def delegate (i : IterId) (c : Completion) : Exec Signal := do
  let it ← iter i
  match c with
  | .thrown v =>
      match ← getMethod it.iterator (Key.text "throw") with
      | some f => delegated i (← Object.call f it.iterator #[v])
      | none =>
          Iter.close i
          typeError "iterator does not have a throw method"
  | .returned v =>
      match ← getMethod it.iterator (Key.text "return") with
      | some f =>
          match ← Object.call f it.iterator #[v] with
          | .obj o =>
              let u ← Object.get o (Key.text "value")
              if (← Object.get o (Key.text "done")).truthy then leaveWith (.returned u)
              else
                schedule [.delegate i]
                yieldValue u
          | _ => typeError "iterator result is not an object"
      | none => leaveWith (.returned v)
  | .normal v => delegated i (← Object.call it.next it.iterator #[v])
  | _ => return .next

/-- Starts a loop that waits for each item: it never gets past the first. -/
def startAwaitLoop (v : Value) : Exec Signal := do
  match ← getMethod v (.sym WellKnown.asyncIterator) with
  | some m =>
      let i ← iterateWith v m
      let it ← iter i
      awaitValue (← Object.call it.next it.iterator)
  | none =>
      let i ← iterate v
      match ← Iter.step i with
      | some u =>
          let _ ← Promise.ofValue u
          awaitValue .undefined
      | none => awaitValue .undefined

/-! ## Members -/

def updateMember (o : Value) (k : Key) (isIncrement isFirst : Bool) : Exec Unit := do
  let old ← toNumeric (← getMember o k)
  let new := stepped isIncrement old
  setMember o k new (← frame).strict
  push (if isFirst then new else old.toValue)

def deleteMember (o : Value) (k : Key) : Exec Unit := do
  let r ← toObject o
  let done ← Object.delete r k
  if !done && (← frame).strict then typeError "Cannot delete property"
  push (.bool done)

def destructuring {α : Type} (v : Value) : Exec α :=
  let name := if v.isUndefined then "undefined" else "null"
  typeError s!"Cannot destructure '{name}' value"

end Step

end Inlay.Engine
