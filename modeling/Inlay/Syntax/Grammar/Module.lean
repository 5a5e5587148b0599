import Inlay.Syntax.Grammar.Stmt

/-! # Imports and exports

    Module items.  The first import or export turns the text into a module, whose code is strict;
    faults that only modules have and that were met before then count from there on. -/

namespace Inlay.Syntax.P

def flushModuleFaults : P Unit :=
  modify fun s => { s with faults := s.moduleFaults ++ s.faults, moduleFaults := [] }

def sourceString : P Ast := do
  match ← need with
  | .str .. => literalToken
  | _ => unexpected "a string literal"

/-- The attributes of an import, which only typed text may have here. -/
def importAttributes : P Ast := do
  if (← isTypeScript) && !(← hadBreak) && ((← isW "assert") || (← isW "with")) then
    let _ ← bump
    goal .object
  else return .absent

/-- `from`, a module name, attributes and the end of the statement. -/
def fromClause : P (Ast × Ast) := do
  expectW "from"
  let src ← sourceString
  let attrs ← importAttributes
  expectEnd
  return (src, attrs)

def exportName : P Ast := do
  match ← need with
  | .str .. => literalToken
  | .word .. => identName
  | _ => unexpected "identifier or string"

/-! ## Imports -/

def importSpecifier (typeOnly : Bool) : P Ast := do
  let lo ← curPos
  let orig ← exportName
  match orig.shape with
  | .str v _ =>
      if ← eatW "as" then
        let local_ ← bindingIdent false
        return .node (.importNamed false) ⟨lo, local_.span.hi⟩ [local_, orig]
      else fail (.importStringBinding v) orig.span
  | _ =>
      if (← isTypeScript) && nameText orig == "type" && (← isWordToken) then
        let second ← identName
        if nameText second == "as" then
          if !(← isWordToken) then
            checkType orig
            return ← mk (.importNamed true) lo [toIdent second, .absent]
          let third ← bindingIdent false
          if nameText third == "as" then
            if ← isWordToken then
              let local_ ← bindingIdent false
              checkType orig
              mk (.importNamed true) lo [local_, second]
            else mk (.importNamed false) lo [third, orig]
          else mk (.importNamed false) lo [third, orig]
        else
          checkType orig
          finish lo second true
      else finish lo orig false
where
  /-- A name is not marked as a type where all names already are. -/
  checkType (word : Ast) : P Unit := do
    if typeOnly then emit .typeInTypeImport word.span
  finish (lo : Nat) (orig : Ast) (isType : Bool) : P Ast := do
    if ← eatW "as" then
      let local_ ← bindingIdent false
      return .node (.importNamed isType) ⟨lo, local_.span.hi⟩ [local_, orig]
    if (← ctx).isReserved (nameText orig) then fail .reservedImport orig.span
    mk (.importNamed isType) lo [toIdent orig, .absent]

def importEquals (lo : Nat) (id : Ast) (isExport typeOnly : Bool) : P Ast := do
  expectP (.assign .set)
  let ref ← do
    if (← isW "require") && (← peekIsP .lparen) then
      let rLo ← curPos
      let _ ← bump
      expectP .lparen
      let s ← match ← need with
        | .str .. => literalToken
        | _ => unexpected "a string literal"
      expectP .rparen
      mk .externalModule rLo [s]
    else entityName
  expectEnd
  mk (.importEquals isExport typeOnly) lo [id, ref]

def importDecl (lo : Nat) : P Ast := do
  expectW "import"
  if (← isTypeScript) && (← isName) && (← peekIsP (.assign .set)) then
    let id ← ident false false
    return ← importEquals lo id false false
  match ← cur with
  | .str .. =>
      let src ← literalToken
      let attrs ← importAttributes
      expectEnd
      return ← mk (.importDecl false) lo [.group [], src, attrs]
  | _ => pure ()
  let mut typeOnly := false
  let mut specs : List Ast := []
  if ← isName then
    let first ← bindingIdent false
    let mut local_ := first
    let mut isDefault := true
    if (← isTypeScript) && nameText first == "type" then
      if ← isAnyP [.binary .mul, .lbrace] then
        typeOnly := true
        isDefault := false
      else if ← isName then
        if !(← isW "from") || (← peekIsW "from") then
          typeOnly := true
          local_ ← bindingIdent false
        else if ← peekIsP (.assign .set) then
          typeOnly := true
          local_ := toIdent (← identName)
      if isDefault && (← isP (.assign .set)) then
        return ← importEquals lo local_ false typeOnly
    if isDefault then
      if !(← isW "from") then expectP .comma
      specs := [.node .importDefault local_.span [local_]]
  let sLo ← curPos
  if ← eatP (.binary .mul) then
    expectW "as"
    let local_ ← bindingIdent false
    specs := specs ++ [← mk .importStar sLo [local_]]
  else if ← eatP .lbrace then
    let isType := typeOnly
    let items ← iterate ([] : List Ast) fun out => do
      if (← isEof) || (← isP .rbrace) then return .inr out.reverse
      let s ← importSpecifier isType
      if ← isP .rbrace then return .inr (s :: out).reverse
      expectP .comma
      return .inl (s :: out)
    expectP .rbrace
    specs := specs ++ items
  let (src, attrs) ← fromClause
  mk (.importDecl typeOnly) lo [.group specs, src, attrs]

/-! ## Exports -/

def exportSpecifier (typeOnly : Bool) : P Ast := do
  let lo ← curPos
  let orig ← exportName
  let asRef (t : Ast) : Ast := match t.shape with
    | .str .. => t
    | _ => toIdent t
  let checkType : P Unit := do
    if typeOnly then emit .typeInTypeExport orig.span
  if (← isTypeScript) && nameText orig == "type" && (← isWordToken) then
    let second ← identName
    if nameText second == "as" then
      if !(← isWordToken) then
        checkType
        mk (.exportSpecifier true) lo [asRef second, .absent]
      else
        let third ← identName
        if nameText third == "as" then
          if ← isWordToken then
            let exported ← identName
            checkType
            mk (.exportSpecifier true) lo [asRef second, exported]
          else mk (.exportSpecifier false) lo [asRef orig, third]
        else mk (.exportSpecifier false) lo [asRef orig, third]
    else
      checkType
      let exported ← if ← eatW "as" then exportName else pure .absent
      mk (.exportSpecifier true) lo [asRef second, exported]
  else if ← eatW "as" then
    let exported ← exportName
    mk (.exportSpecifier false) lo [asRef orig, exported]
  else mk (.exportSpecifier false) lo [asRef orig, .absent]

/-- Decorators behind `export`, unless some stood before it. -/
def laterDecorators (ds : List Ast) : P (List Ast) := do
  if ← isP .atSign then
    let lo ← curPos
    let more ← decorators false
    unless ds.isEmpty do fail .decoratorsAfterExport (← spanFrom lo)
    return more
  else return ds

def exportDefault (lo : Nat) (ds : List Ast) : P Ast := do
  let ds ← laterDecorators ds
  let ts ← isTypeScript
  let start ← curPos
  if ts then
    let next ← peek
    if ← isW "abstract" then
      match next.token with
      | .word "class" _ =>
          if !next.lineBreak then
            let _ ← bump
            let c ← goal (.classRest start false ds)
            return ← mk .exportDefaultDecl lo [markAbstract c]
      | _ => pure ()
    if ← isW "interface" then
      let _ ← bump
      let d ← interfaceDecl start
      return ← mk .exportDefaultDecl lo [d]
  if ← isW "class" then
    let c ← goal (.classRest start false ds)
    return ← mk .exportDefaultDecl lo [c]
  let asExpr (t : Ast) : Ast := match t with
    | .node _ sp ps => .node .fnExpr sp ps
  if ← isW "async" then
    let next ← peek
    match next.token with
    | .word "function" _ =>
        if !next.lineBreak then
          let _ ← bump
          let f ← functionDecl start true false ds
          return ← mk .exportDefaultDecl lo [asExpr f]
    | _ => pure ()
  if ← isW "function" then
    let f ← functionDecl start false false ds
    return ← mk .exportDefaultDecl lo [asExpr f]
  let e ← withIn true (goal .assign)
  expectEnd
  mk .exportDefaultExpr lo [e]

def checkExported (specs : List Ast) : P Unit :=
  specs.forM fun s => do
    let orig := s.part 0
    match orig.shape with
    | .str .. => emit .exportStringBinding orig.span
    | .ident n _ _ => if Token.isKeywordName n then emit (.exportFrom n) orig.span
    | _ => pure ()

def exportList (lo : Nat) (typeOnly : Bool) : P Ast := do
  let nsLo ← curPos
  if (← isP (.binary .mul)) && !(← peekIsW "as") then
    let _ ← bump
    let (src, attrs) ← fromClause
    return ← mk (.exportAll typeOnly) lo [src, attrs]
  if ← eatP (.binary .mul) then
    expectW "as"
    let name ← exportName
    let spec ← mk .exportStarAs nsLo [name]
    let (src, attrs) ← fromClause
    return ← mk (.exportNamed typeOnly) lo [.group [spec], src, attrs]
  expectP .lbrace
  let specs ← iterate ([] : List Ast) fun out => do
    if (← isEof) || (← isP .rbrace) then return .inr out.reverse
    let s ← exportSpecifier typeOnly
    if ← isP .rbrace then return .inr (s :: out).reverse
    expectP .comma
    return .inl (s :: out)
  expectP .rbrace
  if ← isW "from" then
    let (src, attrs) ← fromClause
    mk (.exportNamed typeOnly) lo [.group specs, src, attrs]
  else
    checkExported specs
    let _ ← eatEnd
    mk (.exportNamed typeOnly) lo [.group specs, .absent, .absent]

def exportDecl (item : P Ast) (lo : Nat) (ds : List Ast) : P Ast := do
  let _ ← bump
  let _ ← need
  let after ← curPos
  let ts ← isTypeScript
  let wrap (d : Ast) : P Ast := mk .exportDecl lo [d]
  if ts && (← isW "declare") then
    let _ ← bump
    if let some d ← declareRest item after ds then return ← wrap d
  if ts then
    match ← cur with
    | .word w _ =>
        let r ← attempt (do
          if ["abstract", "enum", "interface", "module", "namespace", "type"].contains w &&
              !(w == "type" && !(← peekIsName)) then
            if w == "abstract" && !(← peekIsW "class") then return none
            typedDecl item after ds w true
          else return none)
        if let some d := r then return ← wrap d
    | _ => pure ()
    if ← isW "import" then
      let _ ← bump
      let typeOnly := (← isW "type") && (← peekIsName)
      if typeOnly then
        let _ ← bump
      let id ← toIdent <$> identName
      return ← importEquals lo id true typeOnly
    if ← eatP (.assign .set) then
      let e ← goal .expr
      expectEnd
      return ← mk .exportAssign lo [e]
    if ← eatW "as" then
      expectW "namespace"
      let id ← ident false false
      expectEnd
      return ← mk .exportNamespace lo [id]
  let typeOnly ← if ts then eatW "type" else pure false
  if !typeOnly then
    if ← eatW "default" then return ← exportDefault lo ds
    let ds ← laterDecorators ds
    let start ← curPos
    if ← isW "class" then return ← wrap (← classDecl start ds)
    if ← isW "async" then
      let next ← peek
      match next.token with
      | .word "function" _ =>
          if !next.lineBreak then
            let _ ← bump
            return ← wrap (← functionDecl start true true ds)
      | _ => pure ()
    if ← isW "function" then return ← wrap (← functionDecl start false true ds)
    if ts && (← isW "const") && (← peekIsW "enum") then
      let _ ← bump
      let _ ← bump
      return ← wrap (← enumDecl start true)
    if (← isAnyW ["var", "const"]) || ((← isW "let") && followsLet (← peek).token) then
      return ← wrap (← varStmt false)
  exportList lo typeOnly

/-! ## Items -/

def importExprStmt (lo : Nat) : P Ast := do
  let e ← goal .expr
  let _ ← eatEnd
  mk .exprStmt lo [e]

/-- Whether `import` starts an expression here. -/
def importIsExpr : P Bool := do
  if ← isW "import" then
    let next ← peek
    return next.token == .punct .lparen || next.token == .punct .dot
  else return false

mutual

def innerItem (includeDecl : Bool) : Nat → P Ast
  | 0 => failHere .expressionExpected
  | fuel + 1 => do
      let lo ← curPos
      let ds ← decorators true
      if ← isAnyW ["import", "export"] then
        if ← importIsExpr then return ← importExprStmt lo
        failHere .moduleOnly
      withCtx (fun c => { c with expectColon := false, allowUsing := true })
        (stmtRest (moduleItem false fuel) lo includeDecl false ds)

/-- A statement, import or export at the top level of a file or namespace. -/
def moduleItem (topLevel : Bool) : Nat → P Ast
  | 0 => failHere .expressionExpected
  | fuel + 1 => do
      let lo ← curPos
      let ds ← decorators true
      if ← isW "import" then
        if ← importIsExpr then return ← importExprStmt lo
        return ← withCtx (fun c => { c with isModule := true, strict := true }) do
          flushModuleFaults
          importDecl lo
      if ← isW "export" then
        return ← withCtx (fun c => { c with isModule := true, strict := true }) do
          flushModuleFaults
          exportDecl (moduleItem false fuel) lo ds
      withCtx (fun c => { c with expectColon := false, allowUsing := true })
        (stmtRest (moduleItem false fuel) lo true topLevel ds)

end

def isModuleItem (t : Ast) : Bool :=
  match t.shape with
  | .importDecl _ | .exportDecl | .exportNamed _ | .exportDefaultExpr | .exportDefaultDecl
  | .exportAll _ | .importEquals .. | .exportAssign | .exportNamespace => true
  | _ => false

/-- The items of a file; from the first module item on, the context is that of a module. -/
def fileItems : P (List Ast) := do
  let size := (← read).size
  iterate (([], false, false) : List Ast × Bool × Bool) fun (out, strict, isModule) => do
    let change (c : Ctx) : Ctx :=
      { c with strict := c.strict || strict || isModule, isModule := c.isModule || isModule }
    withCtx change do
      if ← isEof then return .inr out.reverse
      let t ← moduleItem true size
      let turnsModule := !isModule && isModuleItem t
      let turnsStrict := out.isEmpty && isUseStrict t
      if turnsModule || turnsStrict then
        withCtx (fun c =>
          { c with strict := true, isModule := c.isModule || turnsModule }) reread
      return .inl (t :: out, strict || turnsStrict, isModule || turnsModule)

end Inlay.Syntax.P
