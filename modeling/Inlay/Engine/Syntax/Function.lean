import Inlay.Engine.Syntax.Contains
import Inlay.Engine.Syntax.Reader

/-! # Reading functions and classes

    Patterns, parameter lists, bodies and the members of classes and object literals. -/

namespace Inlay.Engine.Syntax

open S

namespace S

/-! ## Expressions that turn out to be patterns -/

/-- Whether strict code keeps a name from being assigned to. -/
def isGuarded (strict : Bool) (x : Name) : Bool :=
  strict && (x == .ofString "eval" || x == .ofString "arguments")

def isMember (n : Node) : Bool :=
  match n.form with
  | .member _ | .index | .privateMember _ | .superMember _ | .superIndex => true
  | _ => false

mutual

/-- The pattern that an item of a list or a property stands for, without parentheses. -/
def toPattern (strict : Bool) : Node → Option Node
  | .mk form parts =>
      match form, parts with
      | .ident x, _ => if isGuarded strict x then none else some (.mk form parts)
      | .member _, _ | .index, _ | .privateMember _, _ | .superMember _, _ | .superIndex, _ =>
          some (.mk form parts)
      | .array true, _ => none
      | .array false, items => (toItems strict items).map (.mk .patArray)
      | .object, members => (toProperties strict members).map (.mk .patObject)
      | .assign .set, [t, v] => some (.mk .withDefault [t, v])
      | _, _ => none

/-- The items of a list as patterns; what takes the rest comes last and has no default. -/
def toItems (strict : Bool) : List Node → Option (List Node)
  | [] => some []
  | .mk .hole ps :: rest => (toItems strict rest).map (.mk .hole ps :: ·)
  | .mk .spread [.mk (.assign _) _] :: _ => none
  | [.mk .spread [v]] => (toPattern strict v).map fun p => [.mk .rest [p]]
  | n :: rest => do
      let p ← toPattern strict n
      let ps ← toItems strict rest
      return p :: ps

def toProperties (strict : Bool) : List Node → Option (List Node)
  | [] => some []
  | [.mk .spread [v]] =>
      match v.form with
      | .ident _ => some [.mk .rest [v]]
      | _ => if isMember v then some [.mk .rest [v]] else none
  | .mk .init [k, .mk .withDefault [.mk (.ident x) [], e]] :: rest => do
      if isGuarded strict x then none
      let ps ← toProperties strict rest
      return .mk .patProp [k, .mk .withDefault [.mk (.ident x) [], e]] :: ps
  | .mk .init [k, v] :: rest => do
      let p ← toPattern strict v
      let ps ← toProperties strict rest
      return .mk .patProp [k, p] :: ps
  | .mk .proto [v] :: rest => do
      let p ← toPattern strict v
      let ps ← toProperties strict rest
      return .mk .patProp [.mk (.plainName (.ofString "__proto__")) [], p] :: ps
  | _ => none

end

/-- A name or a member that can be assigned to, in any number of parentheses. -/
def simpleTarget? (strict : Bool) : Node → Option Node
  | .mk .paren [n] => simpleTarget? strict n
  | n =>
      match n.form with
      | .ident x => if isGuarded strict x then none else some n
      | _ => if isMember n then some n else none

/-- What an expression stands for in front of `=`. -/
def target? (strict : Bool) (n : Node) : Option Node :=
  match n.form with
  | .array _ | .object => toPattern strict n
  | _ => simpleTarget? strict n

/-! ## Binding patterns -/

def nameNode (n : Name) : Node := .mk (.plainName n) []

def propertyName : S Node := do
  match ← token with
  | .name w _ =>
      advance
      return nameNode (.ofString w)
  | .str s _ =>
      advance
      return nameNode s
  | .num x _ =>
      advance
      return nameNode x.toUnits
  | .bigint n =>
      advance
      return nameNode (.ofString (toString n))
  | .punct "[" =>
      advance
      let e ← withCtx ({ · with allowIn := true }) (again .assign)
      expect "]" "expected token ']'"
      return .mk .computedName [e]
  | _ => expected ["property name"] "property name"

def elementName : S Node := do
  match ← token with
  | .hidden w =>
      advance
      return .mk (.hiddenName (.ofString w)) []
  | _ => propertyName

def withDefault (p : Node) : S Node := do
  if ← eat "=" then
    let e ← withCtx ({ · with allowIn := true }) (again .assign)
    return .mk .withDefault [p, e]
  return p

/-- Items of a list pattern up to its end; a comma without an item leaves a hole. -/
def bindingItems (item : S Node) : Nat → List Node → S (List Node)
  | 0, out => return out.reverse
  | n + 1, out => do
      let context := "array binding pattern"
      if ← eat "]" then return out.reverse
      if ← eat "," then bindingItems item n (.mk .hole [] :: out)
      else if ← isPunct "..." then
        let i ← item
        expect "]" context
        return (i :: out).reverse
      else
        let i ← item
        if ← eat "]" then return (i :: out).reverse
        if !(← eat ",") then expected [",", "]"] context
        bindingItems item n (i :: out)

def bindingProperties (property : S Node) : Nat → List Node → S (List Node)
  | 0, out => return out.reverse
  | n + 1, out => do
      let context := "object binding pattern"
      if ← eat "\x7d" then return out.reverse
      let isRest ← isPunct "..."
      let i ← property
      if isRest then
        expect "\x7d" context
        return (i :: out).reverse
      if ← eat "\x7d" then return (i :: out).reverse
      expect "," context
      bindingProperties property n (i :: out)

/-- An item of a list pattern. -/
def bindingItem (target : S Node) : S Node := do
  if ← eat "..." then return .mk .rest [← target]
  withDefault (← target)

def bindingProperty (target : S Node) : S Node := do
  if ← eat "..." then return .mk .rest [.mk (.ident (← bindingName)) []]
  let isKey ← match ← token with
    | .punct "[" | .str _ _ | .num _ _ | .bigint _ => pure true
    | .name _ _ => pure (match (← peekNext).token with
        | .punct ":" => true
        | _ => false)
    | _ => pure false
  if isKey then
    let k ← propertyName
    expect ":" "object binding pattern"
    return .mk .patProp [k, ← withDefault (← target)]
  let x ← bindingName
  return .mk .patProp [nameNode x, ← withDefault (.mk (.ident x) [])]

/-- A binding pattern: a name, a list or an object of patterns. -/
def bindingTarget : Nat → S Node
  | 0 => unexpected "pattern"
  | n + 1 => do
      match ← token with
      | .punct "[" =>
          advance
          return .mk .patArray (← bindingItems (bindingItem (bindingTarget n)) (← fuel) [])
      | .punct "\x7b" =>
          advance
          let property := bindingProperty (bindingTarget n)
          return .mk .patObject (← bindingProperties property (← fuel) [])
      | _ => return .mk (.ident (← bindingName)) []

/-! ## Parameters -/

def parameterNames (ps : List Node) : List Name := ps.flatMap (bound patternDepth)

/-- How many parameters stand before the first with a default or the rest. -/
def expectedArguments (ps : List Node) : Nat :=
  (ps.takeWhile fun p => match p.form with
    | .withDefault | .rest => false
    | _ => true).length

def isSimpleList (ps : List Node) : Bool :=
  ps.all fun p => match p.form with
    | .ident _ => true
    | _ => false

def hasRepeat : List Name → Bool
  | [] => false
  | n :: ns => ns.contains n || hasRepeat ns

/-- What most functions say of a parameter that occurs twice. -/
def repeatMessage : String := "Duplicate parameter name not allowed in this context"

/-- Parameters up to the closing parenthesis or the end of the text. -/
def parametersAfter (start : Spot) : Nat → List Node → S (List Node)
  | 0, out => return out.reverse
  | n + 1, out => do
      let isRest ← eat "..."
      let p ← withDefault (← bindingTarget patternDepth)
      let hasDefault := match p.form with
        | .withDefault => true
        | _ => false
      if isRest && hasDefault then
        generalAt "Rest parameter may not have a default initializer" start
      let out := (if isRest then .mk .rest [p] else p) :: out
      match ← token with
      | .eof | .punct ")" => return out.reverse
      | _ => pure ()
      if isRest then unexpected "rest parameter must be the last formal parameter"
      expect "," "parameter list"
      match ← token with
      | .eof => throw .abruptEnd
      | .punct ")" => return out.reverse
      | _ => parametersAfter start n out

def parameters : S (List Node) := do
  match ← token with
  | .eof | .punct ")" => return []
  | _ =>
      let start ← spot
      let ps ← parametersAfter start (← fuel) []
      if !isSimpleList ps && hasRepeat (parameterNames ps) then generalAt repeatMessage start
      return ps

/-- Parameters in their parentheses, all of them different. -/
def uniqueParameters : S (List Node) := do
  let context := "unique formal parameters"
  let start := (← lexeme).stop
  expect "(" context
  let ps ← parameters
  expect ")" context
  if hasRepeat (parameterNames ps) then
    generalAt "duplicate parameter name not allowed in unique formal parameters" start
  return ps

/-! ## Bodies -/

/-- Whether the current token is a directive: a string that is a whole statement. -/
def atDirective : S Bool := do
  match ← token with
  | .str _ _ =>
      let next ← peekNext
      match next.token with
      | .punct ";" | .punct "\x7d" | .eof => return true
      | .punct p => return next.lineBreak && (p == "\x7b" || p == "!" || p == "~")
      | .template _ _ _ => return false
      | .name w _ => return next.lineBreak && w != "in" && w != "instanceof"
      | _ => return next.lineBreak
  | _ => return false

/-- Whether the current token is the directive that makes code strict. -/
def atUseStrict : S Bool := do
  let text := String.ofList ((← lexeme).before.rest.take 12)
  return text == "'use strict'" || text == "\"use strict\""

def setStrict (b : Bool) : S Unit := modify fun s => { s with ctx := { s.ctx with strict := b } }

/-- Statements up to the closing brace or the end of the text, and whether a directive among the
    first of them makes the code strict. -/
def statements (fuel : Nat) (isPrologue isStrict : Bool) (out : List Node) :
    S (List Node × Bool) :=
  match fuel with
  | 0 => return (out.reverse, isStrict)
  | n + 1 => do
      match ← token with
      | .eof | .punct "\x7d" => return (out.reverse, isStrict)
      | _ => pure ()
      let directive ← do
        if isPrologue then atDirective else pure false
      let makesStrict ← do
        if directive then atUseStrict else pure false
      if makesStrict then setStrict true
      let i ← again .item
      statements n directive (isStrict || makesStrict) (i :: out)

/-- Labels lead somewhere, and defaults stand in patterns only. -/
def checkBody (place : String) (body : List Node) : S Unit := do
  match labelFaultIn? {} body with
  | some f => generalAt f.message ⟨1, 1⟩
  | none => pure ()
  if anyStrayDefault body then
    generalAt s!"invalid object literal in {place} statement list" ⟨1, 1⟩

/-- The body of a function up to its closing brace, and whether a directive makes it strict. -/
def functionBody (context : String) : S (List Node × Bool) := do
  let outer ← strict
  let (body, isDirected) ← statements (← fuel) true false []
  setStrict outer
  checkBody "function" body
  expect "\x7d" context
  return (body, isDirected)

/-! ## Functions -/

/-- What a function is called and which sort it is. -/
structure FnHead where
  name : Name := .empty
  sort : FnSort := .plain
  isAsync : Bool := false
  isGenerator : Bool := false
  isNamedExpr : Bool := false
  /-- Whether `return` may stand in the body. -/
  returns : Bool := true
  /-- What faults call the function. -/
  context : String := "function expression"

/-- A function that has been read but not been checked. -/
structure FnParts where
  params : List Node
  body : List Node
  /-- Whether a directive makes the body strict. -/
  isDirected : Bool := false
  /-- Where most faults of the function are reported. -/
  start : Spot
  decls : Decls := {}
  usesArguments : Bool := false
  strict : Bool := false

def FnParts.node (f : FnParts) (h : FnHead) : Node :=
  let info : FnInfo :=
    { name := h.name, sort := h.sort, isAsync := h.isAsync, isGenerator := h.isGenerator
      strict := f.strict || f.isDirected, length := expectedArguments f.params
      simple := isSimpleList f.params
      params := parameterNames f.params, vars := distinct f.decls.vars.reverse
      lexical := Decls.lexicalNames f.decls
      usesArguments := f.usesArguments, isNamedExpr := h.isNamedExpr }
  .mk (.fn info) [.list f.params, .list f.decls.functions.reverse, .list f.body]

/-- Runs a reader of a function: what it declares is its own. -/
def inFunction (h : FnHead) (r : S FnParts) : S FnParts := do
  let outer ← get
  let c := outer.ctx
  modify fun s => { s with
    decls := {}
    usesArguments := false
    ctx := { c with
      inFunction := h.returns, inGenerator := h.isGenerator, inAsync := h.isAsync
      allowIn := true, atTop := true } }
  let f ← r
  let s ← get
  set { s with
    decls := outer.decls
    usesArguments := outer.usesArguments || (h.sort == FnSort.arrow && s.usesArguments)
    ctx := c }
  return { f with decls := s.decls, usesArguments := s.usesArguments, strict := c.strict }

namespace FnParts

def checkRepeat (f : FnParts) : S Unit := do
  if hasRepeat (parameterNames f.params) then generalAt repeatMessage f.start

def checkStrictRepeat (f : FnParts) : S Unit := do
  if f.strict || f.isDirected then f.checkRepeat

/-- A directive in the body needs parameters that are plain names. -/
def checkDirective (f : FnParts) : S Unit := do
  if f.isDirected && !isSimpleList f.params then
    generalAt "Illegal 'use strict' directive in function with non-simple parameter list" f.start

/-- No parameter is declared again at the top level of the body. -/
def checkClash (f : FnParts) : S Unit := do
  let names := (Decls.lexicalNames f.decls).map Prod.fst
  match (parameterNames f.params).find? names.contains with
  | some x => generalAt s!"formal parameter `{x.text}` declared in lexically declared names" f.start
  | none => return

/-- Only methods use `super`, or only constructors call it. -/
def checkSuper (f : FnParts) (hit : Form → Bool) (message : String) : S Unit := do
  if anyContains hit true (f.params ++ f.decls.functions ++ f.body) then generalAt message f.start

end FnParts

/-- A function from its parameter list on, in front of its checks. -/
def functionParts (h : FnHead) : S FnParts := do
  let start := (← lexeme).stop
  inFunction h do
    expect "(" h.context
    let params ← parameters
    expect ")" h.context
    expect "\x7b" h.context
    let (body, isDirected) ← functionBody h.context
    return { params, body, isDirected, start }

def checkWaiting (h : FnHead) (f : FnParts) : S Unit := do
  if h.isGenerator && anyContains Form.isYield false f.params then
    let message := if h.isAsync then s!"yield expression not allowed in {h.context} parameters"
      else s!"{h.context} cannot contain yield expression in parameters"
    generalAt message f.start
  if h.isGenerator && h.isAsync && anyContains Form.isAwait false f.params then
    generalAt s!"await expression not allowed in {h.context} parameters" f.start

/-- A function that is no method, from its parameter list on. -/
def functionRest (h : FnHead) : S Node := do
  let f ← functionParts h
  f.checkStrictRepeat
  f.checkDirective
  f.checkClash
  checkWaiting h f
  f.checkSuper Form.isSuper "invalid super usage"
  return f.node h

def functionContext (isAsync isGenerator : Bool) (kind : String) : String :=
  let sort := match isAsync, isGenerator with
    | false, false => "function "
    | false, true => "generator "
    | true, false => "async function "
    | true, true => "async generator "
  sort ++ kind

def checkOwnName (name : Name) (p : Spot) (f : Node) : S Unit := do
  if isGuarded f.fnInfo.strict name then
    generalAt s!"unexpected identifier '{name.text}' in strict mode" p

/-- A function expression behind `function`. -/
def functionExpr (isAsync : Bool) : S Node := do
  let isGenerator ← eat "*"
  let context := functionContext isAsync isGenerator "expression"
  if isNameToken (← token) then
    let p ← spot
    let name ← withCtx ({ · with inGenerator := isGenerator, inAsync := isAsync }) bindingName
    let f ← functionRest { name, isAsync, isGenerator, isNamedExpr := true, context }
    checkOwnName name p f
    return f
  functionRest { isAsync, isGenerator, context }

/-- The body of an arrow function behind its arrow; a lone expression is returned. -/
def arrowBody (isAsync : Bool) (params : List Node) (start : Spot) : S FnParts := do
  let allowIn := (← ctx).allowIn
  inFunction { sort := .arrow, isAsync } do
    if ← eat "\x7b" then
      let (body, isDirected) ← functionBody "arrow function"
      return { params, body, isDirected, start }
    let e ← withCtx ({ · with allowIn }) (again .assign)
    return { params, body := [.mk .ret [e]], start }

def arrowRest (params : List Node) (start : Spot) : S Node := do
  sameLine "arrow function"
  expect "=>" "arrow function"
  let f ← arrowBody false params start
  f.checkRepeat
  f.checkDirective
  f.checkClash
  return f.node { sort := .arrow }

def asyncArrow : S Node := do
  let context := "async arrow function"
  advance
  sameLine context
  let h : FnHead := { sort := .arrow, isAsync := true, context }
  let f ← inFunction h do
    let (params, start) ← do
      let start ← lexeme
      if ← eat "(" then
        let ps ← parameters
        expect ")" context
        pure (ps, start.stop)
      else pure ([.mk (.ident (← bindingName)) []], start.start)
    return { params, body := [], start }
  sameLine context
  expect "=>" context
  let g ← arrowBody true f.params f.start
  g.checkRepeat
  if anyContains Form.isYield false g.params then
    generalAt "Yield expression not allowed in this context" g.start
  if anyContains Form.isAwait false g.params then
    generalAt "Await expression not allowed in this context" g.start
  g.checkDirective
  g.checkClash
  let g := { g with usesArguments := f.usesArguments || g.usesArguments }
  return g.node h

/-! ## Methods -/

def markedMethod (isAsync isGenerator : Bool) : S Node := do
  let context := match isAsync, isGenerator with
    | true, true => "async generator method definition"
    | true, false => "async method definition"
    | _, _ => "generator method definition"
  let h : FnHead := { sort := .method, isAsync, isGenerator, context }
  let f ← inFunction h do
    let params ← uniqueParameters
    let start := (← lexeme).stop
    expect "\x7b" context
    let (body, isDirected) ← functionBody context
    return { params, body, isDirected, start }
  f.checkDirective
  f.checkClash
  if isAsync then checkWaiting h f
  f.checkSuper Form.isSuperCall "invalid super call usage"
  return f.node h

def objectGetter : S Node := do
  let context := "get method definition"
  let h : FnHead := { sort := .getter, context }
  let f ← inFunction h do
    expect "(" context
    let start := (← lexeme).stop
    expect ")" context
    expect "\x7b" context
    let (body, isDirected) ← functionBody context
    return { params := [], body, isDirected, start }
  f.checkSuper Form.isSuperCall "invalid super usage"
  return f.node h

def objectSetter : S Node := do
  let context := "set method definition"
  let h : FnHead := { sort := .setter, context }
  let f ← inFunction h do
    let start := (← lexeme).stop
    expect "(" context
    let p ← withDefault (← bindingTarget patternDepth)
    expect ")" context
    expect "\x7b" context
    let (body, isDirected) ← functionBody context
    return { params := [p], body, isDirected, start }
  f.checkRepeat
  f.checkDirective
  f.checkClash
  f.checkSuper Form.isSuperCall "invalid super usage"
  return f.node h

def objectMethod : S Node := do
  let h : FnHead := { sort := .method, context := "method definition" }
  let f ← functionParts h
  f.checkRepeat
  f.checkDirective
  f.checkClash
  f.checkSuper Form.isSuperCall "invalid super usage"
  return f.node h

def classMethod (sort : MethodSort) : S Node := do
  let context := "method definition"
  let h : FnHead :=
    { context
      sort := match sort with
        | .method => .method
        | .getter => .getter
        | .setter => .setter }
  let f ← inFunction h do
    let params ← uniqueParameters
    let start := (← lexeme).stop
    expect "\x7b" context
    let (body, isDirected) ← functionBody context
    return { params, body, isDirected, start }
  f.checkDirective
  f.checkClash
  return f.node h

/-! ## Object literals -/

/-- A marked method of an object literal; its name cannot be private. -/
def objectMarked (isAsync isGenerator : Bool) (p : Spot) : S Node := do
  let k ← elementName
  let f ← markedMethod isAsync isGenerator
  match k.form with
  | .hiddenName _ => generalAt "private identifier not allowed in object literal" p
  | _ => return .mk (.method .method) [k, f]

/-- A member of an object literal that has a name and perhaps words in front of it. -/
def namedMember : S Node := do
  let isNamedPlainly := match ← token with
    | .name _ _ | .str _ _ => true
    | _ => false
  let k ← propertyName
  let isNamed (w : String) : Bool := match k.form with
    | .plainName n => n == .ofString w
    | _ => false
  if ← eat ":" then
    let v ← again .assign
    return if isNamedPlainly && isNamed "__proto__" then .mk .proto [v] else .mk .init [k, v]
  let isPlain ← isPunct "("
  if isNamed "get" && !isPlain then
    let k ← propertyName
    return .mk (.method .getter) [k, ← objectGetter]
  if isNamed "set" && !isPlain then
    let k ← propertyName
    return .mk (.method .setter) [k, ← objectSetter]
  return .mk (.method .method) [k, ← objectMethod]

def objectMember : S Node := do
  let next ← peekNext
  match next.token with
  | .punct "\x7d" | .punct "," =>
      let x ← reference
      return .mk .init [nameNode x, .mk (.ident x) []]
  | .punct "=" =>
      let x ← reference
      expect "=" "CoverInitializedName"
      let e ← again .assign
      return .mk .init [nameNode x, .mk .withDefault [.mk (.ident x) [], e]]
  | _ => pure ()
  if ← eat "..." then return .mk .spread [← again .assign]
  let p ← spot
  let isMarked := match next.token with
    | .punct "(" | .punct ":" => false
    | _ => true
  if isMarked && (← isWord "async") then
    advance
    sameLine "Async object methods"
    let q ← spot
    let isGenerator ← eat "*"
    return ← objectMarked true isGenerator q
  if ← eat "*" then return ← objectMarked false true p
  namedMember

/-- Members of an object literal up to its closing brace, and where a second prototype is set. -/
def objectMembers : Nat → Option Spot → List Node → S (List Node × Option Spot)
  | 0, second, out => return (out.reverse, second)
  | n + 1, second, out => do
      if ← eat "\x7d" then return (out.reverse, second)
      let p ← spot
      let m ← objectMember
      let sets (m : Node) : Bool := match m.form with
        | .proto => true
        | _ => false
      let second := if sets m && out.any sets then second <|> some p else second
      let out := m :: out
      if ← eat "\x7d" then return (out.reverse, second)
      if !(← eat ",") then expected [",", "\x7d"] "object literal"
      objectMembers n second out

def objectLiteral : S Node := do
  let (ms, second) ← objectMembers (← fuel) none []
  match second with
  | some p =>
      if !(← isPunct "=") then
        generalAt "Duplicate __proto__ fields are not allowed in object literals." p
  | none => pure ()
  return .mk .object ms

/-! ## Classes -/

def initializer : S Node := do
  let h : FnHead := { sort := .initializer }
  let start ← spot
  let f ← inFunction h do
    let e ← again .assign
    return { params := [], body := [.mk .ret [e]], start }
  return f.node h

def staticBlock : S Node := do
  let h : FnHead := { sort := .initializer, isAsync := true, returns := false }
  let start ← spot
  let f ← inFunction h do
    let (body, _) ← statements (← fuel) false false []
    checkBody "class static block" body
    expect "\x7d" "class definition"
    return { params := [], body, start }
  if repeated true f.decls.lexical then generalAt "lexical name declared multiple times" start
  if Decls.clash f.decls then generalAt "lexical name declared in var names" start
  if anyContains Form.isArguments true (f.decls.functions ++ f.body) then
    generalAt "'arguments' not allowed in class static block" start
  f.checkSuper Form.isSuperCall "invalid super usage"
  return f.node { h with isAsync := false }

/-- Whether an element has a given plain name. -/
def isNamedNode (k : Node) (w : String) : Bool :=
  match k.form with
  | .plainName n => n == .ofString w
  | _ => false

def checkMethodName (isStatic : Bool) (k : Node) (p : Spot) : S Unit := do
  if isStatic && isNamedNode k "prototype" then
    generalAt "class may not have static method definitions named 'prototype'" p
  match k.form with
  | .hiddenName x =>
      if x == .ofString "constructor" then
        generalAt "class constructor may not be a private method" p
  | _ => return

def checkFieldName (isStatic : Bool) (k : Node) (p : Spot) : S Unit := do
  if isStatic && (isNamedNode k "prototype" || isNamedNode k "constructor") then
    generalAt "class may not have static field definitions named 'constructor' or 'prototype'" p
  if !isStatic && isNamedNode k "constructor" then
    generalAt "class may not have field definitions named 'constructor'" p
  match k.form with
  | .hiddenName x =>
      if x == .ofString "constructor" then
        generalAt "class constructor may not be a private method" p
  | _ => return

/-- The name of a marked method or an accessor; it cannot be the constructor. -/
def markedName (isStatic : Bool) (sort : String) : S Node := do
  let p ← spot
  match ← token with
  | .name "constructor" _ =>
      if !isStatic then generalAt s!"class constructor may not be {sort} method" p
  | _ => pure ()
  let k ← elementName
  checkMethodName isStatic k p
  return k

def endsName (t : Token) : Bool :=
  match t with
  | .punct p => p == "(" || p == "\x7d" || p == "=" || p == ";"
  | .eof => true
  | _ => false

def startsName (t : Token) : Bool :=
  match t with
  | .name _ _ | .str _ _ | .num _ _ | .bigint _ | .hidden _ | .punct "[" => true
  | _ => false

def plainElement (isStatic : Bool) : S Node := do
  let p ← spot
  if !startsName (← token) then
    match ← token with
    | .eof => throw .abruptEnd
    | _ => generalAt "unexpected token" p
  let k ← elementName
  if ← isPunct "(" then
    checkMethodName isStatic k p
    return .mk (.methodElement isStatic .method) [k, ← classMethod .method]
  checkFieldName isStatic k p
  if ← eat "=" then
    let f ← initializer
    semicolon "expected semicolon"
    if anyContains Form.isArguments true f.parts then
      generalAt "'arguments' not allowed in class field definition" p
    return .mk (.fieldElement isStatic) [k, f]
  semicolon "expected semicolon"
  return .mk (.fieldElement isStatic) [k, .absent]

/-- The constructor of a class, from its parameter list on. -/
def constructorMethod : S Node := do
  let h : FnHead := { sort := .method, context := "class constructor" }
  let f ← functionParts h
  f.checkRepeat
  f.checkDirective
  f.checkClash
  return f.node h

def classElement : S Node := do
  let isStatic ← match ← token with
    | .name "static" _ =>
        match (← peekNext).token with
        | .punct "*" | .punct "\x7b" => pure true
        | t => pure (startsName t)
    | _ => pure false
  if isStatic then advance
  let isWordFor ← do pure !(endsName (← peekNext).token)
  let method (sort : MethodSort) (k f : Node) : Node :=
    .mk (.methodElement isStatic sort) [k, f]
  match ← token with
  | .name "constructor" _ =>
      if isStatic then plainElement true
      else
        let k ← propertyName
        return method .method k (← constructorMethod)
  | .punct "\x7b" =>
      if isStatic then
        advance
        return .mk .blockElement [← staticBlock]
      plainElement isStatic
  | .punct "*" =>
      advance
      let k ← markedName isStatic "a generator"
      return method .method k (← markedMethod false true)
  | .name "async" false =>
      if isWordFor && !(← peekNext).lineBreak then
        advance
        let isGenerator ← eat "*"
        let k ← markedName isStatic (if isGenerator then "a generator" else "an async")
        return method .method k (← markedMethod true isGenerator)
      plainElement isStatic
  | .name "get" false =>
      if isWordFor && startsName (← peekNext).token then
        advance
        let k ← markedName isStatic "a getter"
        return method .getter k (← classMethod .getter)
      plainElement isStatic
  | .name "set" false =>
      if isWordFor && startsName (← peekNext).token then
        advance
        let k ← markedName isStatic "a setter"
        return method .setter k (← classMethod .setter)
      plainElement isStatic
  | _ => plainElement isStatic

def isConstructor (e : Node) : Bool :=
  match e.form, (e.part 0).form with
  | .methodElement false .method, .plainName n => n == .ofString "constructor"
  | _, _ => false

def classElements : Nat → List Node → S (List Node)
  | 0, out => return out.reverse
  | n + 1, out => do
      if ← eat "\x7d" then return out.reverse
      if ← eat ";" then classElements n out
      else
        let p ← spot
        let e ← classElement
        if isConstructor e && out.any isConstructor then
          generalAt "a class may only have one constructor" p
        if !isConstructor e && e.parts.any callsSuper then generalAt "invalid super usage" p
        if repeatsHidden out e then generalAt "private identifier has already been declared" p
        classElements n (e :: out)

/-- A constructor is read as a method and told apart afterwards. -/
def asConstructor (isDerived : Bool) (name : Name) (e : Node) : Node :=
  match e.part 1 with
  | .mk (.fn i) ps => .mk (.fn { i with name, sort := if isDerived then .derived else .ctor }) ps
  | n => n

def classRest (name : Name) (isNamed : Bool) : S Node := do
  let outer ← strict
  setStrict true
  let parent ← do
    if ← eatWord "extends" then again .operand else pure .absent
  expect "\x7b" "class tail"
  let p ← spot
  let es ← classElements (← fuel) []
  setStrict outer
  if parent.isAbsent && es.any fun e => isConstructor e && callsSuper (e.part 1) then
    generalAt "invalid super usage" p
  let ctor := match es.find? isConstructor with
    | some e => asConstructor (!parent.isAbsent) name e
    | none => .absent
  return .mk (.cls name isNamed) [parent, ctor, .list (es.filter (!isConstructor ·))]

def namesClass : Token → Bool
  | .name w e => isPlainWord (.name w e) || w == "yield" || w == "await"
  | _ => false

/-- A class expression behind `class`. -/
def classExpr : S Node := do
  if namesClass (← token) then
    let name ← withCtx ({ · with strict := true }) bindingName
    classRest name true
  else classRest .empty false

end S

end Inlay.Engine.Syntax
