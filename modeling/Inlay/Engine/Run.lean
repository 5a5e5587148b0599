import Inlay.Engine.Builtins.Array
import Inlay.Engine.Builtins.Atomic
import Inlay.Engine.Builtins.Buffer
import Inlay.Engine.Builtins.Collection
import Inlay.Engine.Builtins.Date
import Inlay.Engine.Builtins.Function
import Inlay.Engine.Builtins.Iterator
import Inlay.Engine.Builtins.Json
import Inlay.Engine.Builtins.Number
import Inlay.Engine.Builtins.Object
import Inlay.Engine.Builtins.Promise
import Inlay.Engine.Builtins.Reflect
import Inlay.Engine.Builtins.Regex
import Inlay.Engine.Builtins.String
import Inlay.Engine.Object.Proxy
import Inlay.Engine.Tick

/-! # Running scripts

    Operations that run scripts again from inside a built-in function are tied together here, level
    by level: what a program of one level asks for is done by a program of the level below. -/

namespace Inlay.Engine

open Exec

def Native.run (f : Native) (callee : Ref) (c : Call) : Exec Value :=
  match f with
  | .global f => Builtins.Globals.run f c
  | .object f => Builtins.Objects.run f c callee
  | .function f => Builtins.Functions.run f c
  | .array f => Builtins.Arrays.run f c callee
  | .string f => Builtins.Texts.run f c
  | .number f => Builtins.Numbers.run f c
  | .symbol f => Builtins.Symbols.run f c
  | .math f => Builtins.Maths.run f c
  | .json f => Builtins.Jsons.run f c
  | .reflect f => Builtins.Reflection.run f c
  | .error f => Builtins.Errors.run f c callee
  | .collection f => Builtins.Collections.run f c
  | .promise f => Builtins.Promises.run f c
  | .iterator f => Builtins.Iterators.run f c
  | .regex f => Builtins.Regexes.run f c callee
  | .date f => Builtins.Dates.run f c
  | .buffer f => Builtins.Buffers.run f c
  | .atomic f => Builtins.Atomics.run f c

namespace Run

/-- How many instructions one call may take. -/
def maxSteps : Nat := 1000000000000

def notCallable {α : Type} : Exec α := typeError "not a callable function"

def call (f this : Value) (args : Array Value) : Exec Value := do
  match f with
  | .obj r =>
      match ← kind r with
      | .closure c =>
          Step.enterCall r c this args true
          Step.loop maxSteps
      | .native f _ data => f.run r { this, args, data }
      | .bound t boundThis front => Object.call (.obj t) boundThis (front.toArray ++ args)
      | .proxy _ _ true _ => Proxy.call r this args
      | _ => notCallable
  | _ => notCallable

def construct (r : Ref) (args : Array Value) (newTarget : Ref) : Exec Value := do
  match ← kind r with
  | .closure c =>
      Step.enterConstruct r c args newTarget true
      Step.loop maxSteps
  | .native f _ data => f.run r { this := .undefined, args, newTarget := .obj newTarget, data }
  | .bound t _ front =>
      Object.construct t (front.toArray ++ args) (if newTarget == r then t else newTarget)
  | .proxy _ _ _ _ => Proxy.construct r args newTarget
  | _ => typeError "not a constructor"

/-- Hands a completion to the activation that has just been entered again. -/
def enterWith (how : Completion) : Exec Signal := do
  match (← frame).code, how with
  | .delegate i :: rest, how =>
      Step.setCode rest
      Step.delegate i how
  | _, .normal v =>
      Step.push v
      return .next
  | _, .thrown v => raise v
  | _, .returned v => Step.leaveWith (.returned v)
  | _, _ => return .next

/-- Whether the function of a saved activation has ended. -/
def hasEnded (f : Frame) : Exec Bool := do
  match f.sort with
  | .generator g | .asyncGenerator g =>
      match ← kind g with
      | .generator .finished | .asyncGenerator .finished => return true
      | _ => return false
  | _ => return true

def resume (f : Frame) (how : Completion) : Exec (Bool × Value) := do
  pushFrame { f with isEntry := true }
  let s ← tryCatch (enterWith how) fun a =>
    match a with
    | .throw v => do Step.handle v ((← get).depth + 1)
    | a => throw a
  let v ← match s with
    | .done v => pure v
    | .next => Step.loop maxSteps
  return (← hasEnded f, v)

/-! ## Script texts -/

/-- Adds names to the global object; those of a script cannot be deleted again. -/
def declareGlobals (s : Script) (canDelete : Bool) : Exec Unit := do
  for n in s.functions do
    let i := n.fnInfo
    let f ← newClosure { node := n, scope := 0 } i.name
    let _ ← Object.define Intrinsic.global (.str i.name) {
      value := some (.obj f), isWritable := some true, isEnumerable := some true
      isConfigurable := some canDelete }
  for x in s.vars do
    if (← Object.getOwn Intrinsic.global (.str x)).isNone then
      let _ ← Object.define Intrinsic.global (.str x) {
        value := some .undefined, isWritable := some true, isEnumerable := some true
        isConfigurable := some canDelete }

/-- The scope that takes the variables of a text evaluated in another scope. -/
def varScope : Nat → ScopeId → Exec ScopeId
  | 0, s => return s
  | n + 1, s => do
      let sc ← scope s
      match sc.sort, sc.parent with
      | .function _, _ => return s
      | _, some p => varScope n p
      | _, none => return s

def body (s : Script) (at_ : ScopeId) (strict : Bool) : Exec Value := do
  pushFrame {
    code := s.body.map .eval, scope := at_, sort := .script, strict
    fn := (← frame).fn, isEntry := true }
  Step.loop maxSteps

/-- Reads a script; what is wrong with its text is thrown. -/
def readText (cs : List Char) (ctx : Syntax.Ctx) : Exec Script := do
  match Syntax.readScript Regex.literals ctx (← get).sites cs with
  | .error f => fail .source f.message
  | .ok s =>
      modify fun m => { m with sites := s.sites }
      return s

def scriptOf (cs : List Char) : Exec Value := do
  let s ← readText cs { folds := true }
  for (x, _) in s.lexical do
    if (findBinding (← scope 0).names x).isSome then
      fail .source "duplicate lexical declaration"
  declareGlobals s false
  modifyScope 0 fun sc => { sc with names := addLexical sc.names s.lexical }
  body s 0 s.strict

def script (text : Units) : Exec Value := scriptOf text.text.toList

/-- What a text that is evaluated in a scope may contain depends on the function around it. -/
def checkEvaluated (s : Script) (at_ : ScopeId) : Exec Unit := do
  let all := s.functions ++ s.body
  let around ← functionScope scopeDepth at_
  let closure? ← match around with
    | some (_, f) => do
        match (← obj f.fn).kind with
        | .closure c => pure (some c)
        | _ => pure none
    | none => pure none
  let isDerived := (closure?.map (·.node.fnInfo.sort == .derived)).getD false
  let isField := match closure?.map fun c => (c.node.fnInfo.sort, bodyOf c.node) with
    | some (.initializer, [.mk .ret _]) => true
    | _ => false
  let hasHome := (around.bind (·.2.home)).isSome
  if around.isNone && Syntax.anyContains Syntax.Form.isNewTarget true all then
    fail .source "invalid `new.target` expression inside eval"
  if !hasHome && Syntax.anyContains Syntax.Form.isSuperMember true all then
    fail .source "invalid `super` reference inside eval"
  if !isDerived && Syntax.anyContains Syntax.Form.isSuperCall true all then
    fail .source "invalid `super` call inside eval"
  if isField && Syntax.anyContains Syntax.Form.isArguments true all then
    fail .source "invalid `arguments` reference inside eval"

/-- Runs a text from inside a script: in a scope, or at the outermost level. -/
def evaluate (text : Units) (at_ : Option ScopeId) (strict : Bool) : Exec Value := do
  let s ← readText text.text.toList { strict, isEvaluated := at_.isSome }
  match at_ with
  | some p => checkEvaluated s p
  | none => pure ()
  let outer := at_.getD 0
  let inner ← newScope {
    parent := some outer, sort := .block
    names := addLexical (if s.strict then addVars #[] s.vars else #[]) s.lexical }
  if s.strict then
    instantiateFunctions inner s.functions
  else
    let v ← varScope scopeDepth outer
    if v == 0 then declareGlobals s true
    else
      modifyScope v fun sc => { sc with names := addVars sc.names s.vars }
      for n in s.functions do
        let i := n.fnInfo
        let f ← newClosure { node := n, scope := inner } i.name
        modifyScope v fun sc =>
          match findBinding sc.names i.name with
          | some j =>
              { sc with names := sc.names.modify j fun b => { b with value := some (.obj f) } }
          | none => { sc with names := sc.names.push { name := i.name, value := some (.obj f) } }
  body s inner s.strict

/-! ## Levels -/

/-- A machine that can do nothing again: too many operations are waiting for each other. -/
def exhausted : Again :=
  let stop {α : Type} : EStateM Abrupt Machine α :=
    throw (.halt "RuntimeLimit: exceeded maximum number of recursive calls")
  { call := fun _ _ _ => stop
    construct := fun _ _ _ => stop
    resume := fun _ _ => stop
    getOwn := fun _ _ => stop
    define := fun _ _ _ => stop
    has := fun _ _ => stop
    get := fun _ _ _ => stop
    set := fun _ _ _ _ => stop
    delete := fun _ _ => stop
    ownKeys := fun _ => stop
    getProto := fun _ => stop
    setProto := fun _ _ => stop
    isExtensible := fun _ => stop
    preventExtensions := fun _ => stop
    evaluate := fun _ _ _ => stop }

def level (below : Again) : Again where
  call f this args := (call f this args).run below
  construct r args newTarget := (construct r args newTarget).run below
  resume f how := (resume f how).run below
  getOwn r k := (Proxy.getOwn r k).run below
  define r k d := (Proxy.define r k d).run below
  has r k := (Proxy.has r k).run below
  get r k receiver := (Proxy.get r k receiver).run below
  set r k v receiver := (Proxy.set r k v receiver).run below
  delete r k := (Proxy.delete r k).run below
  ownKeys r := (Proxy.ownKeys r).run below
  getProto r := (Proxy.getProto r).run below
  setProto r p := (Proxy.setProto r p).run below
  isExtensible r := (Proxy.isExtensible r).run below
  preventExtensions r := (Proxy.preventExtensions r).run below
  evaluate text s strict := (evaluate text s strict).run below

def maxLevels : Nat := 1500

def levels : Nat → Again
  | 0 => exhausted
  | n + 1 => level (levels n)

/-- Runs a program from outside; the activations it leaves behind when it stops early are
    dropped. -/
def outside {α : Type} (p : Exec α) (m : Machine) : Except Abrupt α × Machine :=
  let restored (m' : Machine) : Machine :=
    { m' with frame := m.frame, callers := m.callers, depth := m.depth }
  match (p.run (levels maxLevels)).run m with
  | .ok v m' => (.ok v, restored m')
  | .error e m' => (.error e, restored m')

end Run

end Inlay.Engine
