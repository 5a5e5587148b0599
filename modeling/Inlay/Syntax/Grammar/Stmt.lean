import Inlay.Syntax.Grammar.Function

/-! # Statements

    Statements and declarations, with the recovery that lets reading go on after a missing
    semicolon. -/

namespace Inlay.Syntax.P

/-- Whether the token after `let` makes it a declaration. -/
def followsLet : Token → Bool
  | .word n _ => n == "let" || n == "yield" || n == "await" || !Token.isKeywordName n
  | .punct .lbrace | .punct .lbrack => true
  | _ => false

/-! ## Variables -/

def declarator (forLoop : Bool) (kind : VarKind) : P Ast := do
  let lo ← curPos
  let name ← bindingPatOrIdent (kind != .var)
  let ts ← isTypeScript
  let isName := match name.shape with
    | .ident .. => true
    | _ => false
  let isDefinite ← if ts && isName then eatP .bang else pure false
  let ty ← optTypeAnn
  let name := withType name ty
  let init ← do
    if forLoop && (← isAnyW ["in", "of"]) then pure .absent
    else if ← eatP (.assign .set) then
      let e ← goal .assign
      verify e
    else
      let c ← ctx
      if !c.inDeclare then
        if kind == .const && c.strict then emit .constWithoutInit (← spanFrom lo)
        else if !isName then fail .patternWithoutInit (← spanFrom lo)
      pure .absent
  mk (.declarator isDefinite) lo [name, init]

def varStmt (forLoop : Bool) : P Ast := do
  let lo ← curPos
  let kind : VarKind ← match ← bump with
    | .word "const" _ => pure .const
    | .word "let" _ => pure .letVar
    | _ => pure .var
  let wordAt ← prevSpan
  if ← onlyIf (forLoop && (← isTypeScript)) lacksNames then
    emit .emptyDeclaration ⟨wordAt.hi, wordAt.hi⟩
    return ← mk (.varDecl kind false) lo []
  let withIn' : P Ast → P Ast := if kind != .var || !forLoop then withIn true else withIn false
  let decls ← iterate ([] : List Ast) fun out => do
    if (← isP .semi) || (← isEof) then
      let sp ← prevSpan
      emit .trailingComma (if sp == wordAt then ⟨sp.hi, sp.hi⟩ else sp)
      return .inr out.reverse
    let d ← withIn' (declarator forLoop kind)
    if ← eatP .comma then return .inl (d :: out) else return .inr (d :: out).reverse
  if ← onlyIf (!forLoop) (return !(← eatEnd)) then
    emit .expectedSemicolon (← curSpan)
    let _ ← recover (goal .expr)
    iterate () fun _ => do
      if ← eatEnd then return .inr ()
      let _ ← bump
      match ← cur with
      | .error .. => return .inr ()
      | _ => return .inl ()
  mk (.varDecl kind false) lo decls
where
  /-- Whether a loop goes on without a name for its items. -/
  lacksNames : P Bool := do
    if ← isAnyW ["in", "of"] then
      lookAhead do
        let _ ← bump
        let _ ← goal .assign
        eatP .rparen
    else return false

/-- `using` declarations; nothing if the word is only a name. -/
def usingDecl? (lo : Nat) (isAwait : Bool) : P (Option Ast) := do
  let next ← peek
  if next.lineBreak || !(← peekIsName) then return none
  let _ ← bump
  let decls ← iterate ([] : List Ast) fun out => do
    if ← isEnd then
      emit .trailingComma (← prevSpan)
      return .inr out.reverse
    let d ← declarator false .var
    if ← eatP .comma then return .inl (d :: out) else return .inr (d :: out).reverse
  let sp ← spanFrom lo
  if !(← isTypeScript) then emit .usingNotEnabled sp
  if !(← ctx).allowUsing then emit .usingNotAllowed sp
  decls.forM fun d => do
    match (d.part 0).shape with
    | .ident .. => pure ()
    | _ => emit .usingName sp
    if (d.part 1).isAbsent then emit .usingInit sp
  return some (.node (.usingDecl isAwait) sp decls)

/-! ## Functions and classes as declarations -/

/-- A function declaration; the current token is `function`. -/
def functionDecl (lo : Nat) (isAsync : Bool) (nameRequired : Bool) (ds : List Ast) : P Ast := do
  let _ ← bump
  let star ← eatP (.binary .mul)
  let name ← withCtx (fun c => { c with allowSuper := false, inClassField := false })
    (optBindingIdent nameRequired false)
  let f ← withCtx (fun c =>
    { c with allowSuper := false, inClassField := false, expectColon := false })
    (goal (.functionRest lo isAsync star ds))
  mk (.fnDecl false) lo [name, f]

def classDecl (lo : Nat) (ds : List Ast) : P Ast := do
  match ← goal (.classRest lo true ds) with
  | .node _ sp ps => return .node (.classDecl false) sp ps

/-! ## Declarations of typed text -/

/-- Marks a declaration as describing something that exists elsewhere. -/
def markDeclare (lo : Nat) : Ast → Ast
  | .node s sp ps =>
      let s' := match s with
        | .varDecl k _ => Shape.varDecl k true
        | .fnDecl _ => .fnDecl true
        | .classDecl _ => .classDecl true
        | .interfaceDecl _ => .interfaceDecl true
        | .typeAlias _ => .typeAlias true
        | .enumDecl _ c => .enumDecl true c
        | .namespaceDecl _ g n => .namespaceDecl true g n
        | s => s
      .node s' ⟨lo, sp.hi⟩ ps

def moduleBlock (item : P Ast) : P Ast := do
  let lo ← curPos
  expectP .lbrace
  let items ← collect (return !(← isP .rbrace) && !(← isEof)) item
  expectP .rbrace
  mk .moduleBlock lo items

def namespaceRest (item : P Ast) (isNamespace : Bool) : Nat → Nat → P Ast
  | 0, _ => failHere .expressionExpected
  | fuel + 1, lo => do
      let id ← toIdent <$> identName
      if ← eatP .dot then
        let innerLo ← curPos
        let inner ← namespaceRest item isNamespace fuel innerLo
        let nested := match inner with
          | .node _ sp ps => Ast.node .nestedNamespace sp ps
        mk (.namespaceDecl false false isNamespace) lo [id, nested]
      else
        let body ← moduleBlock item
        mk (.namespaceDecl false false isNamespace) lo [id, body]

def ambientModule (item : P Ast) (lo : Nat) : P Ast := do
  let (isGlobal, id) ← do
    if ← isW "global" then
      let t ← identName
      pure (true, toIdent t)
    else
      match ← need with
      | .str .. => pure (false, ← literalToken)
      | _ => unexpected "global or a string literal"
  let body ← do
    if ← isP .lbrace then moduleBlock item
    else
      expectEnd
      pure .absent
  mk (.namespaceDecl false isGlobal false) lo [id, body]

/-- A declaration that starts with a contextual word; `next` tells that the word is still the
    current token. -/
def typedDecl (item : P Ast) (lo : Nat) (ds : List Ast) (word : String) (next : Bool) :
    P (Option Ast) := do
  let skip : P Unit := do
    if next then
      let _ ← bump
  match word with
  | "abstract" =>
      if next || ((← isW "class") && !(← hadBreak)) then
        skip
        return some (markAbstract (← classDecl lo ds))
      else return none
  | "enum" =>
      if next || (← isName) then
        skip
        return some (← enumDecl lo false)
      else return none
  | "interface" =>
      if next || (← isName) then
        skip
        return some (← interfaceDecl lo)
      else return none
  | "module" =>
      if ← hadBreak then return none
      skip
      match ← cur with
      | .str .. => return some (← ambientModule item lo)
      | _ =>
          if next || (← isName) then
            return some (← namespaceRest item false (← read).size lo)
          else return none
  | "namespace" =>
      if next || (← isName) then
        skip
        return some (← namespaceRest item true (← read).size lo)
      else return none
  | "type" =>
      if next || (!(← hadBreak) && (← isName)) then
        skip
        return some (← typeAliasDecl lo)
      else return none
  | _ => return none

/-- What may follow `declare`. -/
def declareRest (item : P Ast) (lo : Nat) (ds : List Ast) : P (Option Ast) :=
  withCtx (fun c => { c with inDeclare := true }) do
    if ← isW "function" then
      return some (markDeclare lo (← functionDecl lo false true ds))
    if ← isW "class" then return some (markDeclare lo (← classDecl lo ds))
    if (← isW "const") && (← peekIsW "enum") then
      let _ ← bump
      let _ ← bump
      return some (markDeclare lo (← enumDecl lo true))
    if ← isAnyW ["const", "var", "let"] then return some (markDeclare lo (← varStmt false))
    if ← isW "global" then return some (markDeclare lo (← ambientModule item lo))
    match ← cur with
    | .word w _ => return (← typedDecl item lo ds w true).map (markDeclare lo)
    | _ => return none

/-! ## Control flow -/

def loopCtx (c : Ctx) : Ctx := { c with allowBreak := true, allowContinue := true }

/-- A statement in a place where declarations are not allowed. -/
def subStmt : P Ast := goal (.statement false false)

def parenExpr : P Ast := do
  expectP .lparen
  let e ← withIn true (goal .expr)
  expectP .rparen
  return e

def jumpStmt (lo : Nat) : P Ast := do
  let isBreak ← isW "break"
  let _ ← bump
  let label ← do
    if ← eatEnd then pure .absent
    else
      let l ← ident true true
      expectEnd
      pure l
  let sp ← spanFrom lo
  let c ← ctx
  let known := label.isAbsent || c.labels.contains (nameText label)
  if isBreak then
    if !known then emit .breakTarget sp
    else if !c.allowBreak then emit .breakOutside sp
  else if !c.allowContinue then emit .continueTarget sp
  else if !known then emit .continueLabel sp
  let label := if label.isAbsent then label else .node (.plainName (nameText label)) label.span []
  return .node (if isBreak then .breakStmt else .continueStmt) sp [label]

def ifStmt : Nat → Nat → P Ast
  | 0, _ => failHere .expressionExpected
  | fuel + 1, lo => do
      let _ ← bump
      expectP .lparen
      let test ← withIn true (goal .expr)
      expectP .rparen
      let cons ← subStmt
      let alt ← do
        if ← eatW "else" then
          if ← isW "if" then
            let at_ ← curPos
            ifStmt fuel at_
          else subStmt
        else pure .absent
      mk .ifStmt lo [test, cons, alt]

def returnStmt (lo : Nat) : P Ast := do
  let _ ← bump
  let arg ← if ← isEnd then pure .absent else withIn true (goal .expr)
  expectEnd
  let node ← mk .returnStmt lo [arg]
  if !(← ctx).inFunction then emit .returnNotAllowed node.span
  return node

def switchStmt (lo : Nat) : P Ast := do
  let _ ← bump
  let disc ← parenExpr
  expectP .lbrace
  let cases ← withCtx (fun c => { c with allowBreak := true }) do
    iterate (([], false) : List Ast × Bool) fun (out, seenDefault) => do
      let isCase ← isW "case"
      if !isCase && !(← isW "default") then return .inr out.reverse
      let start ← curPos
      let _ ← bump
      let test ← do
        if isCase then withIn true (goal .expr)
        else
          if seenDefault then failHere .multipleDefault
          pure .absent
      expectP .colon
      let body ← collect
        (return !(← isEof) && !(← isAnyW ["case", "default"]) && !(← isP .rbrace))
        (goal (.statement true false))
      let node ← mk .switchCase start [test, .node .statements .none body]
      return .inl (node :: out, seenDefault || !isCase)
  expectP .rbrace
  mk .switchStmt lo [disc, .group cases]

def catchClause : P Ast := do
  let lo ← curPos
  if ← eatW "catch" then
    let param ← do
      if ← eatP .lparen then
        let pat ← goal .bindingPat
        let ty ← optTypeAnn
        expectP .rparen
        pure (withType pat ty)
      else pure .absent
    let body ← goal (.block false)
    mk .catchClause lo [param, body]
  else return .absent

def finallyBlock : P Ast := do
  if ← eatW "finally" then goal (.block false) else return .absent

def tryStmt (lo : Nat) : P Ast := do
  let _ ← bump
  let block ← goal (.block false)
  let at_ ← curPos
  let handler ← catchClause
  let finalizer ← finallyBlock
  if handler.isAbsent && finalizer.isAbsent then emit .expectedSemicolon ⟨at_, at_⟩
  mk .tryStmt lo [block, handler, finalizer]

/-- The rest of a loop head after its first semicolon. -/
def plainForRest : P (Ast × Ast) := do
  let test ← do
    if ← eatP .semi then pure .absent
    else
      let e ← withIn true (goal .expr)
      expectP .semi
      pure e
  let update ← if ← isP .rparen then pure .absent else withIn true (goal .expr)
  return (test, update)

/-- The head of a loop without its body. -/
inductive ForHead where
  | plain (init test update : Ast)
  | each (isOf : Bool) (left right : Ast)

def forEachHead (left : Ast) : P ForHead := do
  let isOf ← isW "of"
  let _ ← bump
  if isOf then return .each true left (← withIn true (goal .assign))
  if let .usingDecl _ := left.shape then emit .usingInForIn left.span
  return .each false left (← withIn true (goal .expr))

def forHead : P ForHead := do
  let isDecl ← do
    if ← isAnyW ["const", "var"] then pure true
    else if ← isW "let" then pure (followsLet (← peek).token)
    else pure false
  if isDecl then
    let decl ← varStmt true
    if ← isAnyW ["of", "in"] then
      match decl.parts with
      | [d] =>
          let name := d.part 0
          if ((← ctx).strict || (← isW "of")) && !(d.part 1).isAbsent then
            emit .loopInitializer name.span
          if ← isTypeScript then
            let hasType := match name with
              | .node (.ident ..) _ ps => !ps.isEmpty
              | .node _ _ [_, t] => !t.isAbsent
              | _ => false
            if hasType then emit .loopTyped name.span
      | ds => (ds.drop 1).forM fun d => emit .manyLoopBindings (d.part 0).span
      return ← forEachHead decl
    expectP .semi
    let (test, update) ← plainForRest
    return .plain decl test update
  if ← eatP .semi then
    let (test, update) ← plainForRest
    return .plain .absent test update
  let lo ← curPos
  if (← isTypeScript) && (← isW "using") then
    let next ← peek
    let isUsing := match next.token with
      | .word n _ => !next.lineBreak && n != "of" && n != "in"
      | _ => false
    if isUsing then
      let _ ← bump
      let dLo ← curPos
      let name ← bindingIdent false
      if ← isAnyW ["of", "in"] then
        let d ← mk (.declarator false) dLo [name, .absent]
        return ← forEachHead (← mk (.usingDecl false) lo [d])
      let _ ← eatP (.assign .set)
      let e ← withIn true (goal .assign)
      let d ← mk (.declarator false) dLo [name, e]
      let decl ← mk (.usingDecl false) lo [d]
      expectP .semi
      let (test, update) ← plainForRest
      return .plain decl test update
  let init ← withIn false (goal .expr)
  if ← isAnyW ["of", "in"] then
    let pat ← reparse .assign init
    if (← isTypeScript) && (← isW "in") then
      match pat.shape with
      | .arrayPat _ | .objectPat _ => emit .patternLoop pat.span
      | _ => pure ()
    return ← forEachHead pat
  expectP .semi
  let init ← verify init
  let (test, update) ← plainForRest
  return .plain init test update

def forStmt (lo : Nat) : P Ast := do
  let _ ← bump
  let awaitAt ← curSpan
  let isAwait ← eatW "await"
  expectP .lparen
  let head ← withCtx (fun c =>
    { c with allowUsing := true, inLoopHead := true, inAwaitLoopHead := isAwait }) forHead
  expectP .rparen
  let body ← withCtx (fun c => { loopCtx c with allowUsing := false }) subStmt
  match head with
  | .plain init test update =>
      if isAwait then fail .awaitLoop awaitAt
      mk .forStmt lo [init, test, update, body]
  | .each false left right =>
      if isAwait then fail .awaitLoop awaitAt
      mk .forInStmt lo [left, right, body]
  | .each true left right => mk (.forOfStmt isAwait) lo [left, right, body]

def labelledStmt (label : Ast) : P Ast := do
  let name := nameText label
  let isKnown := (← ctx).labels.contains name
  withCtx (fun c =>
    { c with allowBreak := true, allowUsing := false, labels := name :: c.labels }) do
    let body ← do
      if ← isW "function" then
        let lo ← curPos
        let f ← functionDecl lo false true []
        if (← ctx).strict then emit .labelledStrict f.span
        match (f.part 1).shape with
        | .function a g => if a || g then emit .labelledAsync f.span
        | _ => pure ()
        pure f
      else subStmt
    if isKnown then emit (.duplicateLabel name) label.span
    mk .labeled label.span.lo [.node (.plainName name) label.span [], body]

/-! ## Statements in general -/

/-- An expression statement and what else may start like one. -/
def exprStmtRest (item : P Ast) (lo : Nat) (ds : List Ast) : P Ast := do
  let e ← withIn true (goal .expr)
  let c ← ctx
  let name := match e.shape with
    | .ident n _ _ => some n
    | _ => none
  match name with
  | some n =>
      if ← eatP .colon then return ← labelledStmt e
      if n == "interface" && (← hadBreak) then
        emitStrict (.strictIdent n) e.span
        let _ ← eatEnd
        return ← mk .exprStmt lo [e]
      if c.dialect.isTypeScript then
        let decl ←
          if n == "declare" then declareRest item e.span.lo ds
          else if n == "global" && (← isP .lbrace) then
            let body ← moduleBlock item
            pure (some (← mk (.namespaceDecl false true false) e.span.lo [e, body]))
          else typedDecl item e.span.lo ds n false
        if let some d := decl then return d
      if n == "enum" || n == "interface" then emitStrict (.strictIdent n) e.span
      if c.dialect.isTypeScript && ["public", "static", "abstract"].contains n then
        if ← eatW "interface" then
          emit .invalidInterfaceName e.span
          return ← interfaceDecl lo
  | none => let _ ← verify e
  if ← eatEnd then mk .exprStmt lo [e]
  else
    match ← need with
    | .punct (.binary _) =>
        emit .expectedSemicolon (← curSpan)
        let e ← binaryRest e 0
        mk .exprStmt lo [e]
    | _ => failHere .expectedStatementEnd

def stmtRest (item : P Ast) (lo : Nat) (includeDecl topLevel : Bool) (ds : List Ast) :
    P Ast := do
  let ts ← isTypeScript
  if ts && (← isW "const") && (← peekIsW "enum") then
    let _ ← bump
    let _ ← bump
    return ← enumDecl lo true
  match ← need with
  | .punct .lbrace => withCtx (fun c => { c with allowUsing := true }) (goal (.block false))
  | .punct .semi =>
      let _ ← bump
      mk .emptyStmt lo []
  | .word w esc =>
      if esc && Token.keywords.contains w then return ← exprStmtRest item lo ds
      match w with
      | "await" =>
          if includeDecl || topLevel then
            if topLevel then modify fun s => { s with foundModuleItem := true }
            if ← peekIsW "using" then
              let _ ← bump
              if let some d ← usingDecl? lo true then return d
              return ← unexpected "using declaration"
            let e ← awaitExpr
            let e ← withIn true (binaryRest e 0)
            let _ ← eatEnd
            mk .exprStmt lo [e]
          else exprStmtRest item lo ds
      | "break" | "continue" => jumpStmt lo
      | "debugger" =>
          let _ ← bump
          expectEnd
          mk .debuggerStmt lo []
      | "do" =>
          let _ ← bump
          let body ← withCtx loopCtx subStmt
          expectW "while"
          let test ← parenExpr
          let _ ← eatEnd
          mk .doWhile lo [test, body]
      | "for" => forStmt lo
      | "function" =>
          if !includeDecl then emit .declarationNotAllowed (← curSpan)
          functionDecl lo false true ds
      | "class" =>
          if !includeDecl then emit .declarationNotAllowed (← curSpan)
          classDecl lo ds
      | "if" => ifStmt (← read).size lo
      | "return" => returnStmt lo
      | "switch" => switchStmt lo
      | "throw" =>
          let _ ← bump
          if ← hadBreak then failHere .throwLineBreak
          let e ← withIn true (goal .expr)
          expectEnd
          mk .throwStmt lo [e]
      | "catch" =>
          let sp ← curSpan
          emit .expectedSemicolon sp
          let _ ← recover catchClause
          let _ ← recover finallyBlock
          return .node .exprStmt sp [.node .invalid sp []]
      | "finally" =>
          let sp ← curSpan
          emit .expectedSemicolon sp
          let _ ← recover finallyBlock
          return .node .exprStmt sp [.node .invalid sp []]
      | "try" => tryStmt lo
      | "with" =>
          if ts then emit .withTyped (← curSpan)
          emitStrict .withInStrict (← curSpan)
          let _ ← bump
          let obj ← parenExpr
          let body ← withCtx (fun c => { c with inFunction := true }) subStmt
          mk .withStmt lo [obj, body]
      | "while" =>
          let _ ← bump
          let test ← parenExpr
          let body ← withCtx loopCtx subStmt
          mk .whileStmt lo [test, body]
      | "var" => varStmt false
      | "const" => if includeDecl then varStmt false else exprStmtRest item lo ds
      | "let" =>
          if includeDecl && followsLet (← peek).token then varStmt false
          else exprStmtRest item lo ds
      | "using" =>
          if includeDecl then
            if let some d ← usingDecl? lo false then return d
          exprStmtRest item lo ds
      | "async" =>
          let next ← peek
          match next.token with
          | .word "function" _ =>
              if next.lineBreak then exprStmtRest item lo ds
              else
                if !includeDecl then emit .declarationNotAllowed (← curSpan)
                let _ ← bump
                functionDecl lo true true ds
          | _ => exprStmtRest item lo ds
      | "interface" | "type" | "enum" =>
          if ts && (← peekIsWord) && !(← peek).lineBreak then
            let _ ← bump
            if w == "interface" then interfaceDecl lo
            else if w == "type" then typeAliasDecl lo
            else enumDecl lo false
          else exprStmtRest item lo ds
      | _ => exprStmtRest item lo ds
  | _ => exprStmtRest item lo ds

/-- Whether a statement is a `use strict` directive. -/
def isUseStrict : Ast → Bool
  | .node .exprStmt _ [.node (.str _ raw) _ _] =>
      raw == "'use strict'" || raw == "\"use strict\""
  | _ => false

/-- The statements of a body up to its brace or, without one, to the end of the text. -/
def bodyItems (item : P Ast) (hasBrace directives : Bool) : P (List Ast) := do
  let items ← iterate (([], false) : List Ast × Bool) fun (out, strict) => do
    let step : P (List Ast ⊕ List Ast) := do
      if ← isEof then
        if hasBrace then emit (.expected "\x7d" "<eof>") (← curSpan)
        return .inr out.reverse
      if hasBrace && (← isP .rbrace) then return .inr out.reverse
      return .inl ((← item) :: out)
    let r ← if strict then withCtx (fun c => { c with strict := true }) step else step
    match r with
    | .inr items => return .inr items
    | .inl out' =>
        let turnsStrict := directives && out.isEmpty && (out'.head?.map isUseStrict).getD false
        if turnsStrict then
          withCtx (fun c => { c with strict := true }) reread
        return .inl (out', strict || turnsStrict)
  return items

def block (directives : Bool) : P Ast := do
  let lo ← curPos
  expectP .lbrace
  let items ← bodyItems (goal (.statement true false)) true directives
  if !(← isEof) then
    let _ ← bump
  mk .block lo items

end Inlay.Syntax.P
