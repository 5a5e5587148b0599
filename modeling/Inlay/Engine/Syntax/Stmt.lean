import Inlay.Engine.Syntax.Expr

/-! # Reading statements and scripts -/

namespace Inlay.Engine.Syntax

open S

namespace S

/-! ## Declarations -/

def declarePattern (sort : VarSort) (p : Node) : S Unit := do
  for n in bound patternDepth p do
    match sort with
    | .var => declareVar n
    | .letVar => declareLexical n false
    | .const => declareLexical n true

/-- Declarators separated by commas.  A constant must have a value, and a line that ends behind a
    declarator of `let` or `const` ends the declaration. -/
def declarators (sort : VarSort) (inHead : Bool) : Nat → List Node → S (List Node)
  | 0, out => return out.reverse
  | n + 1, out => do
      let p ← spot
      let target ← bindingTarget patternDepth
      if sort != .var && (bound patternDepth target).contains (.ofString "let") then
        generalAt "'let' is disallowed as a lexically bound name" p
      declarePattern sort target
      let value ← do
        if ← eat "=" then again .assign else pure .absent
      if !inHead && value.isAbsent && sort == .const then
        match ← token with
        | .eof => throw .abruptEnd
        | _ => generalAt "Expected initializer for const declaration" (← spot)
      let out := .mk .declarator [target, value] :: out
      if sort == .var then
        if ← eat "," then return ← declarators sort inHead n out
        return out.reverse
      if ← atStatementEnd then return out.reverse
      match ← token with
      | .name "of" false | .name "in" false => return out.reverse
      | .punct "," =>
          advance
          declarators sort inHead n out
      | _ => expected [";", "line terminator"] "lexical declaration binding list"

def checkNames (sort : VarSort) (ds : List Node) (p : Spot) : S Unit := do
  if sort != .var then
    let names := ds.flatMap fun d => bound patternDepth (d.part 0)
    if hasRepeat names then generalAt "lexical name declared multiple times" p

/-- Whether `let` starts a declaration here. -/
def atLet : S Bool := do
  if ← isWord "let" then
    match (← peekNext).token with
    | .punct "[" | .punct "\x7b" => return true
    | t => return isNameToken t
  return false

/-- A function declaration behind `function`. -/
def functionDeclaration (isAsync : Bool) : S Node := do
  let isGenerator ← eat "*"
  let context := functionContext isAsync isGenerator "declaration"
  let p ← spot
  if ← isPunct "(" then unexpected context
  let name ← bindingName
  let isTop := (← ctx).atTop
  if isTop then declareVar name else declareLexical name false true
  let f ← functionRest { name, isAsync, isGenerator, context }
  checkOwnName name p f
  modify fun s => { s with decls := { s.decls with functions := f :: s.decls.functions } }
  return .mk (.fnDecl name) []

/-- A class declaration behind `class`. -/
def classDeclaration : S Node := do
  if !namesClass (← token) then unexpected "expected class identifier"
  let name ← withCtx ({ · with strict := true }) bindingName
  declareLexical name false
  return .mk (.classDecl name) [← classRest name true]

/-! ## Blocks -/

/-- Statements between braces; their faults are reported at the first of them. -/
def braced : S Node := do
  expect "\x7b" "block"
  let p ← spot
  let (body, lexical, functions) ← block "lexical name declared in var names" p do
    let (ss, _) ← statements (← fuel) false false []
    expect "\x7d" "block"
    return ss
  return .mk (.block lexical) [.list functions, .list body]

/-- The body of a statement; what it declares by `let`, if a loop declares it, is its own. -/
def body : S Node := withCtx ({ · with atTop := false }) (again .stmt)

def misplacedFunction {α : Type} (p : Spot) : S α := do
  let mode := if ← strict then "in strict mode code, " else ""
  generalAt s!"{mode}functions can only be declared at the top level or inside a block." p

/-- The branch of an `if` behind a token that ends at a place. -/
def branch (p : Spot) : S Node := do
  if ← isWord "function" then misplacedFunction p
  body

/-! ## Loops -/

def headNames (sort : VarSort) (ds : List Node) : List (Name × Bool) :=
  if sort == .var then []
  else (ds.flatMap fun d => bound patternDepth (d.part 0)).map (·, sort == .const)

def loopBody : S (Node × Spot) := do
  let p ← spot
  return (← body, p)

/-- The rest of a `for` loop behind its first part, and where its body starts. -/
def plainFor (names : List (Name × Bool)) (init : Node) : S (Node × Spot) := do
  expect ";" "for statement"
  let test ← do
    if ← isPunct ";" then pure .absent else wholeExpression
  expect ";" "for statement"
  let update ← do
    if ← isPunct ")" then pure .absent else wholeExpression
  expect ")" "for statement"
  let (b, p) ← loopBody
  return (.mk (.forLoop names) [init, test, update, b], p)

/-- The word that makes a loop one over the keys or the items of an object, if it comes now. -/
def overWord? : S (Option Bool) := do
  if ← isWord "in" then return some true
  if ← isWord "of" then return some false
  return none

/-- The rest of a loop over the keys or the items of an object, from `in` or `of` on, and where its
    body starts. -/
def overFor (isIn isAwait : Bool) (sort : Option VarSort) (names : List Name) (target : Node) :
    S (Node × Spot) := do
  advance
  let e ← if isIn then wholeExpression else wholeAssignment
  expect ")" (if isIn then "for in statement" else "for of statement")
  let (b, p) ← loopBody
  return (.mk (if isIn then .forIn sort names else .forOf isAwait sort names) [target, e, b], p)

def checkAwait (isAwait : Bool) (isIn? : Option Bool) : S Unit := do
  if isAwait && isIn? != some false then
    generalAt "`await` can only be used in a `for await .. of` loop" (← spot)

/-- What the head of a loop over an object declares: one name or pattern, without a value. -/
def headDeclarator (isIn : Bool) (ds : List Node) : S Node := do
  let loop := if isIn then "for-in" else "for-of"
  match ds with
  | [d] =>
      if !(d.part 1).isAbsent then
        generalAt s!"a declaration in the head of a {loop} loop can't have an initializer" (← spot)
      return d.part 0
  | _ => generalAt s!"only one variable can be declared in the head of a {loop} loop" (← spot)

def declaringFor (isAwait : Bool) (sort : VarSort) : S Node := do
  let p ← spot
  advance
  let outer := (← get).decls
  modify fun s => { s with decls := {} }
  let atTop := (← ctx).atTop
  modify fun s => { s with ctx := { s.ctx with atTop := false } }
  let ds ← withCtx ({ · with allowIn := false }) (do declarators sort true (← fuel) [])
  checkNames sort ds p
  let names := headNames sort ds
  let isIn? ← overWord?
  checkAwait isAwait isIn?
  let (loop, q) ← match isIn? with
    | some isIn =>
        let target ← headDeclarator isIn ds
        overFor isIn isAwait (some sort) (names.map Prod.fst) target
    | none => plainFor names (.mk (.varStmt sort) ds)
  let inner := (← get).decls
  if Decls.clash inner then generalAt "For loop initializer declared in loop body" q
  modify fun s => { s with
    decls := { outer with vars := inner.vars ++ outer.vars }
    ctx := { s.ctx with atTop } }
  return loop

/-- What an expression in the head of a loop over an object stands for. -/
def headTarget (e : Node) : S Node := do
  let isStrict ← strict
  let found : Except String Node := match bare e with
    | .mk (.ident x) ps =>
        if isGuarded isStrict x then
          .error "cannot use `eval` or `arguments` as iterable loop variable in strict code"
        else .ok (.mk (.ident x) ps)
    | e =>
        let pattern (sort : String) : Except String Node := match toPattern isStrict e with
          | some t => .ok t
          | none => .error s!"invalid {sort} destructuring pattern in iterable loop initializer"
        match e.form with
        | .array _ => pattern "array"
        | .object => pattern "object"
        | _ => if isMember e then .ok e else .error "invalid variable for iterable loop"
  match found with
  | .ok t => return t
  | .error message => generalAt message (← spot)

/-- Whether a loop waits for each of its items. -/
def forAwait : S Bool := do
  if ← isWord "await" then
    if !(← ctx).inAsync then
      unexpected "for await...of is only valid in async functions or async generators"
    advance
    expect "(" "for await...of"
    return true
  if !(← eat "(") then unexpected "for statement"
  return false

def forStatement : S Node := do
  advance
  let isAwait ← forAwait
  if ← isWord "var" then return ← declaringFor isAwait .var
  if ← isWord "const" then return ← declaringFor isAwait .const
  if ← atLet then return ← declaringFor isAwait .letVar
  if ← isPunct ";" then
    checkAwait isAwait none
    return (← plainFor [] .absent).1
  let e ← withCtx ({ · with allowIn := false }) expression
  let isIn? ← overWord?
  checkAwait isAwait isIn?
  match isIn? with
  | some isIn => return (← overFor isIn isAwait none [] (← headTarget e)).1
  | none => return (← plainFor [] (.mk .exprStmt [e])).1

/-! ## Other statements -/

/-- A label behind `break` or `continue`. -/
def jumpLabel (context : String) : S (Option Name) := do
  let ends ← atStatementEnd
  let label ← do
    if ends then pure none else pure (some (← reference))
  semicolon context
  return label

def switchCases : Nat → List Node → S (List Node)
  | 0, out => return out.reverse
  | n + 1, out => do
      let context := "switch case block"
      if ← eat "\x7d" then return out.reverse
      let test ← do
        if ← eatWord "case" then wholeExpression
        else if ← isWord "default" then
          if out.any fun c => (c.part 0).isAbsent then unexpected "more than one switch default"
          advance
          pure .absent
        else expected ["case", "default", "\x7d"] context
      expect ":" context
      let ss ← caseBody (← fuel) []
      switchCases n (.mk .case [test, .list ss] :: out)
where
  caseBody : Nat → List Node → S (List Node)
  | 0, out => return out.reverse
  | n + 1, out => do
      match ← token with
      | .punct "\x7d" | .name "case" false | .name "default" false => return out.reverse
      | _ =>
          let i ← again .item
          caseBody n (i :: out)

def switchStatement : S Node := do
  advance
  expect "(" "switch statement"
  let e ← wholeExpression
  expect ")" "switch statement"
  let p ← spot
  expect "\x7b" "switch case block"
  let (cases, lexical, functions) ←
    block "lexical name declared in var declared names" p (do switchCases (← fuel) [])
  return .mk (.switch lexical) [e, .list functions, .list cases]

/-- What a block of a `catch` must not declare again. -/
def checkCatch (names : List Name) (isName : Bool) (p : Spot) (varsBefore : Nat) (b : Node) :
    S Unit := do
  let vars := (← get).decls.vars
  let vars := if isName then [] else vars.take (vars.length - varsBefore)
  let lexical := match b.form with
    | .block lexical => lexical.map Prod.fst
    | _ => []
  if (lexical ++ vars).any names.contains then
    generalAt "catch parameter identifier declared in catch body" p

def catchClause : S Node := do
  let p ← spot
  if ← eat "(" then
    let target ← bindingTarget patternDepth
    let names := bound patternDepth target
    expect ")" "catch in try statement"
    if hasRepeat names then generalAt "duplicate catch parameter identifier" p
    let q ← spot
    let count := (← get).decls.vars.length
    let b ← braced
    let isName := match target.form with
      | .ident _ => true
      | _ => false
    checkCatch names isName q count b
    return .mk (.handler names) [target, b]
  return .mk (.handler []) [.absent, ← braced]

def tryStatement : S Node := do
  advance
  let b ← braced
  let handler ← do
    if ← eatWord "catch" then catchClause else pure .absent
  let finalizer ← do
    if ← eatWord "finally" then braced else pure .absent
  if handler.isAbsent && finalizer.isAbsent then
    expected ["catch", "finally"] "try statement"
  return .mk .attempt [b, handler, finalizer]

/-- An expression as a statement; it does not start like a declaration. -/
def expressionStatement : S Node := do
  let noStatement {α : Type} (p : Spot) : S α := generalAt "expected statement" p
  match ← token with
  | .name "function" false | .name "class" false => noStatement (← spot)
  | .name "async" false =>
      let next ← peekNext
      match next.token with
      | .name "function" false => noStatement next.start
      | _ => pure ()
  | .name "let" false =>
      let next ← peekNext
      match next.token with
      | .punct "[" => noStatement next.start
      | _ => pure ()
  | _ => pure ()
  let e ← wholeExpression
  semicolon "expression statement"
  return .mk .exprStmt [e]

def varStatement (sort : VarSort) (context : String) : S Node := do
  let p ← spot
  advance
  let ds ← withCtx ({ · with allowIn := true }) (do declarators sort false (← fuel) [])
  semicolon context
  checkNames sort ds p
  return .mk (.varStmt sort) ds

def ifStatement : S Node := do
  advance
  expect "(" "if statement"
  let e ← wholeExpression
  let p := (← lexeme).stop
  expect ")" "if statement"
  let a ← branch p
  let q := (← lexeme).stop
  let b ← do
    if ← eatWord "else" then branch q else pure .absent
  return .mk .ifStmt [e, a, b]

def whileStatement : S Node := do
  advance
  expect "(" "while statement"
  let e ← wholeExpression
  expect ")" "while statement"
  let b ← body
  return .mk .whileLoop [e, b]

def doStatement : S Node := do
  advance
  let b ← body
  expectWord "while" "do while statement"
  expect "(" "do while statement"
  let e ← wholeExpression
  expect ")" "do while statement"
  let _ ← eat ";"
  return .mk .doLoop [e, b]

def withStatement : S Node := do
  let p ← spot
  if ← strict then generalAt "with statement not allowed in strict mode" p
  advance
  expect "(" "with statement"
  let e ← wholeExpression
  expect ")" "with statement"
  let b ← body
  return .mk .withObj [e, b]

def returnStatement : S Node := do
  if !(← ctx).inFunction then unexpected "statement"
  advance
  let e ← do
    if ← atStatementEnd then pure .absent else wholeExpression
  semicolon "return statement"
  return .mk .ret [e]

def throwStatement : S Node := do
  advance
  sameLine "throw statement"
  let e ← wholeExpression
  semicolon "throw statement"
  return .mk .throw [e]

/-- A statement that starts with a name: a label or an expression. -/
def namedStatement : S Node := do
  if isNameToken (← token) then
    match (← peekNext).token with
    | .punct ":" =>
        let x ← reference
        advance
        if ← isWord "function" then misplacedFunction (← spot)
        return .mk (.labelled x) [← body]
    | _ => pure ()
  expressionStatement

def statement : S Node := do
  match ← token with
  | .punct "\x7b" => braced
  | .punct ";" =>
      advance
      return .mk .emptyStmt []
  | .name w false =>
      match w with
      | "var" => varStatement .var "variable statement"
      | "if" => ifStatement
      | "for" => forStatement
      | "while" => whileStatement
      | "do" => doStatement
      | "continue" =>
          advance
          return .mk (.continueTo (← jumpLabel "continue statement")) []
      | "break" =>
          advance
          return .mk (.breakTo (← jumpLabel "break statement")) []
      | "return" => returnStatement
      | "with" => withStatement
      | "switch" => switchStatement
      | "throw" => throwStatement
      | "try" => tryStatement
      | _ => namedStatement
  | .name _ true => namedStatement
  | _ => expressionStatement

def listItem : S Node := do
  match ← token with
  | .name "function" false =>
      advance
      functionDeclaration false
  | .name "class" false =>
      advance
      classDeclaration
  | .name "const" false => varStatement .const "lexical declaration"
  | .name "let" false =>
      if ← atLet then varStatement .letVar "lexical declaration" else statement
  | .name "async" false =>
      let next ← peekNext
      match next.token, next.lineBreak with
      | .name "function" false, false =>
          advance
          advance
          functionDeclaration true
      | _, _ => statement
  | _ => statement

end S

/-! ## Scripts -/

/-- All readers together, with a bound on how deep they nest. -/
def readers (check : RegexCheck) : Nat → Env
  | 0 => { again := fun _ => throw .abruptEnd }
  | n + 1 => { again := fun g => run g (readers check n) }
where
  run : Goal → S Node
  | .assign => S.assignment
  | .unary => S.unaryOf
  | .joined afterLogical => S.joinedOf afterLogical
  | .power => S.powerOf
  | .stmt => S.statement
  | .item => S.listItem
  | .callee => S.calleeOf check
  | .operand => S.operandOf check

def depth (text : List Char) : Nat := 8 * text.length + 100

/-- Runs a reader on a whole text; tagged templates are numbered from `sites` on.  A first line that
    starts with `#!` is no part of it. -/
def runReader {α : Type} (check : RegexCheck) (ctx : Ctx) (sites : Nat) (text : List Char)
    (r : S α) : Except Fault (α × State) :=
  let start : Cursor := match text with
    | '#' :: '!' :: cs =>
        let rest := cs.dropWhile (!Text.isLineEnd ·)
        ⟨rest, ⟨1, 3 + (cs.length - rest.length)⟩⟩
    | _ => ⟨text, {}⟩
  match start.next with
  | .error f => .error f
  | .ok lexeme =>
      match r (readers check (depth text)) { lexeme, ctx, sites } with
      | .ok a s => .ok (a, s)
      | .error f _ => .error f

/-- The statements of a script up to its end, and whether a directive makes them strict. -/
def scriptBody : S (List Node × Bool) := do
  let r ← S.statements (← S.fuel) true false []
  match ← S.token with
  | .eof => return r
  | _ => S.unexpected "primary expression"

def readScript (check : RegexCheck) (ctx : Ctx) (sites : Nat) (text : List Char) :
    Except Fault Script := do
  let ((body, _), s) ← runReader check ctx sites text do
    let (body, isDirected) ← scriptBody
    let all := (← get).decls.functions ++ body
    if !(← S.ctx).isEvaluated then
      if anyContains Form.isSuper true all then S.generalAt "invalid super usage" ⟨1, 1⟩
      if anyContains Form.isNewTarget true all then S.generalAt "invalid new.target usage" ⟨1, 1⟩
      if !allNamesValid [] all then S.generalAt "invalid private identifier usage" ⟨1, 1⟩
    S.checkBody "script" body
    return (body, isDirected)
  let lexical := s.decls.lexical.reverse
  if S.repeated true lexical || S.Decls.clash s.decls then
    throw (.general "lexical name declared multiple times" ⟨1, 1⟩)
  return {
    strict := s.ctx.strict
    vars := S.distinct s.decls.vars.reverse
    lexical := lexical.map fun d => (d.name, d.isConst)
    functions := s.decls.functions.reverse
    body
    sites := s.sites }

/-! ## Functions made of texts -/

/-- Why a function cannot be made of two texts. -/
inductive FunctionFault where
  | parameters (f : Fault)
  | body (f : Fault)
  /-- The texts can be read, but do not fit together. -/
  | whole (message : String)

def FunctionFault.message : FunctionFault → String
  | parameters f => "failed to parse function parameters: " ++ f.message
  | body f => "failed to parse function body: " ++ f.message
  | whole message => message

def wholeFault? (f : S.FnParts) : Option String :=
  let names := S.parameterNames f.params
  let lexical := (S.Decls.lexicalNames f.decls).map Prod.fst
  let all := f.params ++ f.decls.functions ++ f.body
  if f.isDirected && S.hasRepeat names then some S.repeatMessage
  else if f.isDirected && names.any (S.isGuarded true) then
    some "Unexpected 'eval' or 'arguments' in strict mode"
  else if f.isDirected && !S.isSimpleList f.params then
    some "Illegal 'use strict' directive in function with non-simple parameter list"
  else if anyContains Form.isSuperCall true all then some "invalid `super` call"
  else if anyContains Form.isSuperMember true all then some "invalid `super` reference"
  else match names.find? lexical.contains with
    | some x => some s!"Redeclaration of formal parameter `{x.text}`"
    | none =>
        if allNamesValid [] all then none else some "invalid private identifier usage"

/-- Reads a function from the text of its parameters and the text of its body.  What follows a
    closing parenthesis in the first text is ignored. -/
def readFunction (check : RegexCheck) (head : S.FnHead) (sites : Nat) (params body : List Char) :
    Except FunctionFault (Node × Nat) := do
  let ctx : Ctx := { inFunction := true, inGenerator := head.isGenerator, inAsync := head.isAsync }
  let (ps, s) ← (runReader check ctx sites params S.parameters).mapError .parameters
  let ((b, isDirected), t) ← (runReader check ctx s.sites body do
    let (body, isDirected) ← scriptBody
    S.checkBody "function" body
    return (body, isDirected)).mapError .body
  let f : S.FnParts :=
    { params := ps, body := b, isDirected, start := {}, decls := t.decls
      usesArguments := s.usesArguments || t.usesArguments }
  match wholeFault? f with
  | some message => throw (.whole message)
  | none => return (f.node head, t.sites)

end Inlay.Engine.Syntax
