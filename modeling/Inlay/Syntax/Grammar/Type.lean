import Inlay.Syntax.Grammar.Expr

/-! # Types

    Type expressions, type parameters and arguments, members of interfaces, and the declarations
    that only typed text has. -/

namespace Inlay.Syntax.P

/-! ## Lists -/

/-- Items separated by commas up to a terminator, which stays current. -/
def delimited (atEnd : P Bool) (item : P Ast) : P (List Ast) :=
  iterate ([] : List Ast) fun out => do
    if ← atEnd then return .inr out.reverse
    let t ← item
    if ← eatP .comma then return .inl (t :: out)
    if ← atEnd then return .inr (t :: out).reverse
    expectP .comma
    return .inl (t :: out)

/-- Arguments between angle brackets; `next` moves on from the closing one. -/
def typeArgsThen (next : P Unit) : P Ast := do
  let lo ← curPos
  let isNested := (← ctx).inType
  let items ← inType do
    expectP (.binary .lt)
    let items ← delimited (isP (.binary .gt)) (goal .type)
    unless ← isP (.binary .gt) do expectText ">"
    -- What follows the bracket is read as the surroundings read it.
    withCtx (fun c => { c with inType := isNested }) next
    return items
  let node ← mk .typeArgs lo items
  if items.isEmpty then emit .emptyTypeArgs node.span
  return node

def typeArgs : P Ast := typeArgsThen (do let _ ← bump)

/-- A modifier word, if what follows shows that it is one. -/
def tsModifier (allowed : List String) (stopAtStaticBlock : Bool) : P (Option String) := do
  if !(← isTypeScript) then return none
  match ← cur with
  | .word n _ =>
      if !allowed.contains n then return none
      let next ← peek
      if stopAtStaticBlock && n == "static" && next.token == .punct .lbrace then return none
      let follows := match next.token with
        | .punct .lbrack | .punct .lbrace | .punct (.binary .mul) | .punct .ellipsis
        | .punct .hash => true
        | .word .. | .str .. | .num _ | .bigint _ => true
        | _ => false
      if !next.lineBreak && follows then
        let _ ← bump
        return some n
      else return none
  | _ => return none

def typeParamWords : List String :=
  ["public", "private", "protected", "readonly", "abstract", "const", "override", "in", "out"]

/-- A type parameter; `allowVariance` and `allowConst` tell which modifiers may stand here. -/
def typeParam (allowVariance allowConst : Bool) : P Ast := do
  let lo ← curPos
  let (isConst, isIn, isOut) ← iterate ((false, false, false) : Bool × Bool × Bool)
    fun (isConst, isIn, isOut) => do
      match ← tsModifier typeParamWords false with
      | none => return .inr (isConst, isIn, isOut)
      | some "const" =>
          if !allowConst then emit (.constModifier "const") (← prevSpan)
          return .inl (true, isIn, isOut)
      | some "in" =>
          let sp ← prevSpan
          if !allowVariance then emit (.varianceModifier "in") sp
          else if isIn then emit (.modifierRepeated "in") sp
          else if isOut then emit (.modifierOrder "in" "out") sp
          return .inl (isConst, true, isOut)
      | some "out" =>
          let sp ← prevSpan
          if !allowVariance then emit (.varianceModifier "out") sp
          else if isOut then emit (.modifierRepeated "out") sp
          return .inl (isConst, isIn, true)
      | some w =>
          emit (.typeParamModifier w) (← prevSpan)
          return .inl (isConst, isIn, isOut)
  let name ← identName
  let constraint ← if ← eatW "extends" then goal .type else pure .absent
  let default_ ← if ← eatP (.assign .set) then goal .type else pure .absent
  mk (.typeParam isConst isIn isOut) lo [toIdent name, constraint, default_]

def typeParams (allowVariance allowConst : Bool) : P Ast := do
  let lo ← curPos
  inType do
    if !(← isP (.binary .lt)) then unexpected "< (jsx tag start)"
    let _ ← bump
    let items ← delimited (isP (.binary .gt)) (typeParam allowVariance allowConst)
    expectP (.binary .gt)
    let node ← mk .typeParams lo items
    if items.isEmpty then emit .emptyTypeParams node.span
    return node

def optTypeParams (allowVariance allowConst : Bool) : P Ast := do
  if (← isTypeScript) && (← isP (.binary .lt)) then goal (.typeParams allowVariance allowConst)
  else return .absent

/-- A type behind its introducing token, which the caller has checked. -/
def typeAnnFrom (lo : Nat) : P Ast := do
  let t ← goal .type
  mk .typeAnn lo [t]

/-- The result type of a function: a type or a statement about a parameter. -/
def returnType (isArrow : Bool) : P Ast :=
  inType do
    let lo ← curPos
    expectP (if isArrow then .arrow else .colon)
    let start ← curPos
    let asserts ← do
      if (← isW "asserts") && ((← peekIsName) || (← peekIsW "this")) && !(← peek).lineBreak then
        let _ ← bump
        pure true
      else pure false
    let hasIs ← do
      if (← isName) || (← isW "this") then
        let next ← peek
        match next.token with
        | .word "is" _ => pure (!next.lineBreak)
        | _ => pure false
      else pure false
    if !asserts && !hasIs then typeAnnFrom lo
    else
      let isThis ← isW "this"
      let name ← identName
      let param := if isThis then Ast.node .thisType name.span [] else toIdent name
      let ty ← do
        if hasIs then
          let _ ← bump
          let at_ ← curPos
          typeAnnFrom at_
        else pure .absent
      let pred ← mk (.predicateType asserts) start [param, ty]
      mk .typeAnn lo [pred]

/-! ## Signatures -/

def signatureParams : P Ast := do
  expectP .lparen
  let ps ← goal .formalParams
  ps.items.forM fun p => do
    if let .assignPat := (p.part 1).shape then
      unexpected ("an identifier, [ for an array pattern, \x7b for an object patter or ... for a "
        ++ "rest pattern")
  expectP .rparen
  return .group (ps.items.map fun p => match p with
    | .node .param _ [_, pat] => pat
    | t => t)

def fnOrConstructorType (isFn : Bool) : P Ast := do
  let lo ← curPos
  let isAbstract ← if isFn then pure false else eatW "abstract"
  if !isFn then expectW "new"
  let tps ← optTypeParams false true
  let params ← signatureParams
  let ret ← goal (.returnType true)
  mk (if isFn then .fnType else .constructorType isAbstract) lo [params, tps, ret]

/-- Whether a parenthesis opens the parameters of a function type. -/
def opensFnType : P Bool := lookAhead do
  let _ ← bump
  if (← isP .rparen) || (← isP .ellipsis) then return true
  let _ ← eatModifier
  let skipped ← do
    if ← isWordToken then
      let _ ← bump
      pure true
    else if (← isP .lbrack) || (← isP .lbrace) then
      let _ ← goal .bindingPat
      pure true
    else pure false
  if !skipped then return false
  if ← isAnyP [.colon, .comma, .question, .assign .set] then return true
  if ← eatP .rparen then isP .arrow else return false

def entityName : P Ast := do
  let lo ← curPos
  let first ← identName
  iterate (toIdent first) fun left => do
    if ← eatP .dot then
      if !(← isP .hash) && !(← isWordToken) then
        let p ← curPos
        emit .identifierExpected ⟨p, p⟩
        return .inr left
      let right ← identName
      return .inl (← mk .qualifiedName lo [left, right])
    else return .inr left

def typeRef : P Ast := do
  let lo ← curPos
  let name ← entityName
  let args ← if !(← hadBreak) && (← isP (.binary .lt)) then goal .typeArgs else pure .absent
  mk .typeRef lo [name, args]

def importType : P Ast := do
  let lo ← curPos
  expectW "import"
  expectP .lparen
  let arg ← match ← need with
    | .str .. => literalToken
    | _ =>
        let sp ← curSpan
        let _ ← bump
        emit .importTypeLiteral sp
        pure (.node .invalid sp [])
  expectP .rparen
  let qualifier ← if ← eatP .dot then entityName else pure .absent
  let args ← if ← isP (.binary .lt) then goal .typeArgs else pure .absent
  mk .importType lo [arg, qualifier, args]

def typeQuery : P Ast := do
  let lo ← curPos
  let _ ← bump
  let name ← if ← isW "import" then importType else entityName
  let args ← if !(← hadBreak) && (← isP (.binary .lt)) then goal .typeArgs else pure .absent
  mk .typeQuery lo [name, args]

def tupleElement : P Ast := do
  let lo ← curPos
  let label ← attempt do
    let start ← curPos
    let isRest ← eatP .ellipsis
    let name ← identName
    let opt ← eatP .question
    let name := Ast.node (.ident (nameText name) .unset opt) ⟨name.span.lo, (← prevSpan).hi⟩ []
    expectP .colon
    if isRest then return some (← mk .rest start [name, .absent]) else return some name
  let label := label.getD .absent
  if ← eatP .ellipsis then
    let t ← goal .type
    let r ← mk .restType lo [t]
    mk .tupleElement lo [label, r]
  else
    let t ← goal .type
    if ← eatP .question then
      let o ← mk .optionalType lo [t]
      mk .tupleElement lo [label, o]
    else mk .tupleElement lo [label, t]

def tupleType : P Ast := do
  let lo ← curPos
  expectP .lbrack
  let items ← delimited (isP .rbrack) tupleElement
  expectP .rbrack
  let node ← mk .tupleType lo items
  let late := items.foldl (fun (seen, bad) (t : Ast) =>
    match (t.part 1).shape with
    | .optionalType => (true, bad)
    | .restType => (seen, bad)
    | _ => (seen, bad || seen)) (false, false)
  if late.2 then fail .requiredAfterOptional node.span
  return node

def startsMapped : P Bool := lookAhead do
  let _ ← bump
  if (← eatP (.binary .add)) || (← eatP (.binary .sub)) then return ← isW "readonly"
  let _ ← eatW "readonly"
  if !(← eatP .lbrack) then return false
  if !(← isName) then return false
  let _ ← bump
  isW "in"

def mappedMark (word : P Bool) : P MappedMark := do
  if ← eatP (.binary .add) then
    let _ ← word
    return .plus
  else if ← eatP (.binary .sub) then
    let _ ← word
    return .minus
  else if ← word then return .present
  else return .absent

def mappedType : P Ast := do
  let lo ← curPos
  expectP .lbrace
  let ro ← mappedMark (eatW "readonly")
  expectP .lbrack
  let pLo ← curPos
  let name ← identName
  expectW "in"
  let constraint ← goal .type
  let param ← mk (.typeParam false false false) pLo [toIdent name, constraint, .absent]
  let nameType ← if ← eatW "as" then goal .type else pure .absent
  expectP .rbrack
  let opt ← mappedMark (eatP .question)
  let ty ← if ← eatP .colon then goal .type else pure .absent
  let _ ← eatEnd
  expectP .rbrace
  mk (.mappedType ro opt) lo [param, nameType, ty]

/-! ## Members -/

def memberEnd : P Unit := do
  unless ← eatP .comma do expectEnd

/-- `[name: type]: type`, which looks like a computed name. -/
def indexSignature? (lo : Nat) (mods : Modifiers) : P (Option Ast) := do
  if !(← isP .lbrack) then return none
  let isIndex ← lookAhead do
    let _ ← bump
    if !(← isWordToken) then return false
    let _ ← bump
    return (← isP .colon) || (← isP .comma)
  if !isIndex then return none
  inType do
    let _ ← bump
    let name ← identName
    let at_ ← curPos
    if ← eatP .comma then emit .indexSignatureParams name.span else expectP .colon
    let ty ← typeAnnFrom at_
    expectP .rbrack
    let param := withType (toIdent name) ty
    let ann ← optTypeAnn
    memberEnd
    return some (← mk (.indexSignature mods) lo [.group [param], ann])

/-- The key of a type member: whether it is computed, and the key. -/
def memberKey : P (Bool × Ast) := do
  match ← need with
  | .str .. | .num _ | .bigint _ => return (false, ← literalToken)
  | .word .. => return (false, ← identName)
  | .punct .lbrack =>
      let _ ← bump
      let e ← outOfType (withIn true (goal .assign))
      expectP .rbrack
      return (true, e)
  | .punct .hash =>
      let name ← privateName
      emit .privateSignature name.span
      return (false, name)
  | _ => failHere .expectedIdent

def colonReturn : P Ast := do
  if ← isP .colon then goal (.returnType false) else return .absent

def signature (shape : Shape) (lo : Nat) : P Ast := do
  let tps ← optTypeParams false true
  let params ← signatureParams
  let ret ← colonReturn
  memberEnd
  mk shape lo [params, ret, tps]

def typeMember : P Ast := do
  let lo ← curPos
  if (← isP .lparen) || (← isP (.binary .lt)) then return ← signature .callSignature lo
  if ← isW "new" then
    let next ← peek
    if next.token == .punct .lparen || next.token == .punct (.binary .lt) then
      let _ ← bump
      return ← signature .constructSignature lo
  let ro := (← tsModifier ["readonly"] false).isSome
  if let some t ← indexSignature? lo { isReadonly := ro } then return t
  let accessor ← attempt do
    let start ← curPos
    if ro then return none
    if ← eatW "get" then
      let (computed, key) ← memberKey
      expectP .lparen
      expectP .rparen
      let ann ← optTypeAnn
      memberEnd
      return some (← mk (.getterSignature computed) start [key, ann])
    else
      expectW "set"
      let (computed, key) ← memberKey
      let params ← signatureParams
      match params.items with
      | [] => return none
      | p :: _ =>
          memberEnd
          return some (← mk (.setterSignature computed) start [key, p])
  if let some t := accessor then return t
  let (computed, key) ← memberKey
  let opt ← eatP .question
  if (← isP .lparen) || (← isP (.binary .lt)) then
    if ro then failHere .readonlyMethod
    let tps ← optTypeParams false true
    let params ← signatureParams
    let ret ← colonReturn
    memberEnd
    mk (.methodSignature computed opt) lo [key, params, ret, tps]
  else
    let ann ← optTypeAnn
    memberEnd
    mk (.propertySignature ro computed opt) lo [key, ann]

def typeMembers : P (List Ast) := do
  expectP .lbrace
  let items ← collect (return !(← isP .rbrace)) typeMember
  expectP .rbrace
  return items

/-! ## Type expressions -/

def typeKeywords : List String :=
  ["any", "boolean", "bigint", "never", "number", "object", "string", "symbol", "unknown",
   "undefined", "intrinsic", "void", "null"]

def templateTypeLit : P Ast := do
  let t ← goal (.template false)
  match t with
  | .node (.template qs) sp ps =>
      return .node .literalType sp [.node (.templateType qs) sp ps]
  | t => return t

def nonArrayType : P Ast := do
  let lo ← curPos
  match ← need with
  | .str .. | .num _ | .bigint _ =>
      let l ← literalToken
      mk .literalType lo [l]
  | .punct .backquote => templateTypeLit
  | .punct (.binary .sub) =>
      let _ ← bump
      match ← need with
      | .num raw =>
          let _ ← bump
          let l ← mk (.num ("-" ++ raw)) lo []
          mk .literalType lo [l]
      | .bigint raw =>
          let _ ← bump
          let l ← mk (.bigint ("-" ++ raw)) lo []
          mk .literalType lo [l]
      | _ => unexpected "numeric literal or bigint literal"
  | .punct .lbrace =>
      if ← startsMapped then mappedType
      else
        let items ← typeMembers
        mk .typeLiteral lo items
  | .punct .lbrack => tupleType
  | .punct .lparen =>
      let _ ← bump
      let t ← goal .type
      expectP .rparen
      mk .parenType lo [t]
  | .word w _ =>
      if w == "true" || w == "false" then
        let _ ← bump
        let l ← mk (.bool (w == "true")) lo []
        mk .literalType lo [l]
      else if w == "import" then importType
      else if w == "this" then
        let _ ← bump
        let this ← mk .thisType lo []
        if !(← hadBreak) && (← isW "is") then
          let _ ← bump
          let at_ ← curPos
          let ty ← typeAnnFrom at_
          mk (.predicateType false) lo [this, ty]
        else return this
      else if w == "typeof" then typeQuery
      else if typeKeywords.contains w && !(← peekIsP .dot) then
        let _ ← bump
        mk (.keywordType w) lo []
      else if Token.isKeywordName w
          && !(["void", "yield", "null", "await", "break"].contains w) then
        wrong
      else if w == "asserts" && (← peekIsW "this") then
        let _ ← bump
        let at_ ← curPos
        let _ ← bump
        let this ← mk .thisType at_ []
        let ty ← do
          if ← eatW "is" then
            let p ← curPos
            typeAnnFrom p
          else pure .absent
        mk (.predicateType true) lo [this, ty]
      else typeRef
  | _ => wrong
where
  wrong : P Ast :=
    unexpected ("an identifier, void, yield, null, await, break, a string literal, "
      ++ "a numeric literal, true, false, `, -, import, this, typeof, \x7b, [, (")

def arrayType : P Ast := do
  let lo ← curPos
  let first ← nonArrayType
  iterate first fun t => do
    if ← onlyIf (!(← hadBreak)) (eatP .lbrack) then
      if ← eatP .rbrack then return .inl (← mk .arrayType lo [t])
      let index ← goal .type
      expectP .rbrack
      return .inl (← mk .indexedType lo [t, index])
    else return .inr t

def operatorType : Nat → P Ast
  | 0 => failHere .expressionExpected
  | fuel + 1 => do
      let lo ← curPos
      if ← isW "infer" then
        let _ ← bump
        let pLo ← curPos
        let name ← identName
        let constraint ← attempt do
          expectW "extends"
          let t ← goal .plainType
          if (← ctx).noConditionalType || !(← isP .question) then return some t else return none
        let param ← mk (.typeParam false false false) pLo
          [toIdent name, constraint.getD .absent, .absent]
        mk .inferType lo [param]
      else if (← isAnyW ["keyof", "unique", "readonly"]) && (← operatorFollows) then
        match ← bump with
        | .word w _ =>
            let t ← operatorType fuel
            mk (.operatorType w) lo [t]
        | _ => failHere .expressionExpected
      else arrayType
where
  operatorFollows : P Bool := do
    match (← peek).token with
    | .word .. | .str .. | .num _ | .bigint _ => return true
    | .punct p => return [Punct.lparen, .lbrack, .lbrace, .backquote, .binary .sub].contains p
    | _ => return false

/-- Types joined by an operator, which may also stand in front. -/
def joinedType (op : BinaryOp) (shape : Shape) (item : P Ast) : P Ast := do
  let lo ← curPos
  let _ ← eatP (.binary op)
  let first ← item
  if ← isP (.binary op) then
    let rest ← collect (eatP (.binary op)) item
    mk shape lo (first :: rest)
  else return first

def plainType : P Ast := do
  let isFn ← do
    if ← isP (.binary .lt) then pure true
    else if ← isP .lparen then opensFnType
    else pure false
  if isFn then fnOrConstructorType true
  else if (← isW "new") || ((← isW "abstract") && (← peekIsW "new")) then
    fnOrConstructorType false
  else
    joinedType .bitOr .unionType
      (joinedType .bitAnd .intersectionType (do operatorType (← read).size))

def type : P Ast := do
  let lo ← curPos
  inType do
    let allowed := !(← ctx).noConditionalType
    let t ← goal .plainType
    if (← hadBreak) || !allowed || !(← isW "extends") then return t
    let _ ← bump
    let ext ← withCtx (fun c => { c with noConditionalType := true }) (goal .plainType)
    expectP .question
    let yes ← withCtx (fun c => { c with noConditionalType := false }) (goal .type)
    expectP .colon
    let no ← withCtx (fun c => { c with noConditionalType := false }) (goal .type)
    mk .conditionalType lo [t, ext, yes, no]

/-! ## Declarations -/

/-- The types after `extends` or `implements`. -/
def heritage : P (List Ast) :=
  delimited (return (← isP .lbrace) || (← isW "implements") || (← isW "extends")) do
    let lo ← curPos
    let id ← toIdent <$> identName
    let e ← goal (.subscripts id true true)
    match e.shape with
    | .ident .. | .member | .instantiation => pure ()
    | _ => emit .heritageName (← spanFrom lo)
    match e with
    | .node .instantiation sp [x, args] => return .node .exprWithTypeArgs sp [x, args]
    | e =>
        let args ← if ← isP (.binary .lt) then goal .typeArgs else pure .absent
        mk .exprWithTypeArgs lo [e, args]

def interfaceDecl (lo : Nat) : P Ast := do
  let id ← toIdent <$> identName
  if ["string", "null", "number", "object", "any", "unknown", "boolean", "bigint", "symbol",
      "void", "never", "intrinsic"].contains (nameText id) then
    emit .invalidInterfaceName id.span
  let tps ← optTypeParams true false
  let ext ← if ← eatW "extends" then heritage else pure []
  if ← isW "extends" then
    emit .classExtendsTwice (← curSpan)
    iterate () fun _ => do
      if (← isEof) || (← isP .lbrace) then return .inr ()
      let _ ← bump
      return .inl ()
  let bLo ← curPos
  let items ← inType typeMembers
  let body ← mk .interfaceBody bLo items
  mk (.interfaceDecl false) lo [id, tps, .group ext, body]

def typeAliasDecl (lo : Nat) : P Ast := do
  let id ← toIdent <$> identName
  let tps ← optTypeParams true false
  let t ← inType do
    expectP (.assign .set)
    goal .type
  expectEnd
  mk (.typeAlias false) lo [id, tps, t]

/-- A member of an enumeration; a token that cannot follow a bare name counts as a comma. -/
def enumMember : P (Ast × Bool) := do
  let lo ← curPos
  let id ← match ← need with
    | .str .. => literalToken
    | .num _ =>
        let t ← literalToken
        emit .numericEnumName t.span
        pure t
    | .punct .lbrack =>
        let _ ← bump
        let e ← withIn true (goal .expr)
        let node ← mk .computed lo [e]
        emit .computedEnumName node.span
        expectP .rbrack
        pure node
    | _ => toIdent <$> identName
  if ← eatP (.assign .set) then
    let init ← withIn true (goal .assign)
    return (← mk .enumMember lo [id, init], false)
  let node ← mk .enumMember lo [id, .absent]
  if (← isAnyP [.comma, .rbrace]) || (← isEof) then return (node, false)
  let p ← curPos
  let _ ← bump
  emit .expectedSemicolon ⟨p, p⟩
  return (node, true)

def enumDecl (lo : Nat) (isConst : Bool) : P Ast := do
  let id ← toIdent <$> identName
  expectP .lbrace
  let items ← iterate ([] : List Ast) fun out => do
    if ← isP .rbrace then return .inr out.reverse
    let (t, hasComma) ← enumMember
    if ← (if hasComma then pure true else eatP .comma) then return .inl (t :: out)
    if ← isP .rbrace then return .inr (t :: out).reverse
    emit (.expected "," (← cur).describe) (← curSpan)
    if ← isEof then expectP .rbrace
    return .inl (t :: out)
  expectP .rbrace
  mk (.enumDecl false isConst) lo [id, .group items]

end Inlay.Syntax.P
