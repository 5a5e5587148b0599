import Inlay.Syntax.Grammar.Basic

/-! # Names and binding patterns

    Names as references and as bindings, property names, destructuring patterns, and the second
    reading of an expression as the target of an assignment or as parameters. -/

namespace Inlay.Syntax.P

/-! ## Names -/

def identName : P Ast := do
  let lo ← curPos
  match ← need with
  | .word n _ =>
      let _ ← bump
      mk (.plainName n) lo []
  | _ => failHere .expectedIdent

def strictWords : List String :=
  ["yield", "static", "implements", "interface", "let", "package", "private", "protected",
   "public"]

def ident (inclYield inclAwait : Bool) : P Ast := do
  let lo ← curPos
  match ← need with
  | .word n _ =>
      let _ ← bump
      let sp ← prevSpan
      let c ← ctx
      if n == "enum" then emit (.strictIdent n) sp
      else if strictWords.contains n then emitStrict (.strictIdent n) sp
      if n == "await" then
        if c.inDeclare then pure ()
        else if c.inStaticBlock then fail .expectedIdent sp
        else if c.isModule || c.inAsync then fail .awaitIdent sp
        else if !inclAwait then fail .expectedIdent sp
      else if n == "this" && c.dialect.isTypeScript then pure ()
      else if n == "let" then pure ()
      else if n == "yield" then
        if !inclYield then fail .expectedIdent sp
      else if Token.isKeywordName n then fail .expectedIdent sp
      else if n == "arguments" && c.inClassField then emit .argumentsInField sp
      mk (.ident n .unset false) lo []
  | _ => failHere .expectedIdent

def bindingIdent (disallowLet : Bool) : P Ast := do
  if disallowLet && (← isW "let") then
    unexpected "let is reserved in const, let, class declaration"
  let t ← ident true true
  let c ← ctx
  match t.shape with
  | .ident n _ _ =>
      if n == "eval" || n == "arguments" then emitStrict .strictBinding t.span
      if (c.inAsync || c.inStaticBlock) && n == "await" then emit .expectedIdent t.span
      if c.inGenerator && n == "yield" then emit .expectedIdent t.span
  | _ => pure ()
  return t

def optBindingIdent (required disallowLet : Bool) : P Ast := do
  if required then bindingIdent disallowLet
  else if ← isName then bindingIdent disallowLet
  else return .absent

/-- A private name with its `#`. -/
def privateName : P Ast := do
  let lo ← curPos
  let _ ← bump
  let hashEnd := (← prevSpan).hi
  if (← curPos) != hashEnd then fail .hashSpace (← spanFrom lo)
  match (← identName).shape with
  | .plainName n => mk (.privateName n) lo []
  | _ => return .absent

def nameText (t : Ast) : String :=
  match t.shape with
  | .plainName n => n
  | .ident n _ _ => n
  | .privateName n => n
  | _ => ""

def toIdent (t : Ast) : Ast := .node (.ident (nameText t) .unset false) t.span t.parts

def literalToken : P Ast := do
  let lo ← curPos
  match ← need with
  | .str v raw =>
      let _ ← bump
      mk (.str v raw) lo []
  | .num raw =>
      let _ ← bump
      mk (.num raw) lo []
  | .bigint raw =>
      let _ ← bump
      mk (.bigint raw) lo []
  | _ => unexpected "a literal"

def propName : P Ast := do
  let lo ← curPos
  match ← need with
  | .str .. | .num .. | .bigint .. => literalToken
  | .word .. => identName
  | .punct .lbrack =>
      let _ ← bump
      let inner ← curPos
      let first ← withIn true (goal .assign)
      let e ←
        if (← isTypeScript) && (← isP .comma) then do
          let rest ← collect (eatP .comma) (withIn true (goal .assign))
          emit .commaInKey (← spanFrom inner)
          mk .seq inner (first :: rest)
        else pure first
      expectP .rbrack
      mk .computed lo [e]
  | _ => unexpected "identifier, string literal, numeric literal or [ for the computed key"

/-! ## Binding patterns -/

def withType (t : Ast) (ty : Ast) : Ast :=
  if ty.isAbsent then t
  else
    match t with
    | .node (.ident n m o) sp _ => .node (.ident n m o) sp [ty]
    | .node s sp [x, _] => .node s sp [x, ty]
    | t => t

def optTypeAnn : P Ast := do
  if (← isTypeScript) && (← isP .colon) then
    let lo ← curPos
    inType do
      let _ ← bump
      let t ← goal .type
      mk .typeAnn lo [t]
  else return .absent

def bindingElement : P Ast := do
  let lo ← curPos
  let left ← goal .bindingPat
  if ← eatP (.assign .set) then
    let right ← withIn true (goal .assign)
    if (← ctx).inDeclare then emit .optionalArrow (← spanFrom lo)
    mk .assignPat lo [left, right]
  else return left

def arrayBindingPat : P Ast := do
  let lo ← curPos
  expectP .lbrack
  let elems ← iterate (([], none) : List Ast × Option Span) fun (out, restAt) => do
    if (← isEof) || (← isP .rbrack) then return .inr out.reverse
    if ← isP .comma then
      let _ ← bump
      return .inl (.node .hole (← prevSpan) [] :: out, restAt)
    if let some sp := restAt then emit .restNotLast sp
    let start ← curPos
    let isRest ← eatP .ellipsis
    let (item, restAt) ←
      if isRest then do
        let arg ← goal .bindingPat
        let t ← mk .rest start [arg, .absent]
        pure (t, some t.span)
      else pure ((← bindingElement), restAt)
    if !(← isP .rbrack) then
      expectP .comma
      if isRest && (← isP .rbrack) then emit .commaAfterRest (← prevSpan)
    return .inl (item :: out, restAt)
  expectP .rbrack
  let opt ← if (← ctx).inDeclare then eatP .question else pure false
  mk (.arrayPat opt) lo [.group elems, .absent]

def objectPatProp : P Ast := do
  let lo ← curPos
  if ← eatP .ellipsis then
    let arg ← goal .bindingPat
    mk .rest lo [arg, .absent]
  else
    let key ← propName
    if ← eatP .colon then
      let value ← bindingElement
      mk .keyValuePat lo [key, value]
    else
      match key.shape with
      | .plainName n =>
          if ← eatP (.assign .set) then
            let value ← withIn true (goal .assign)
            mk .assignPropPat lo [toIdent key, value]
          else
            if (← ctx).isReserved n then emit .reservedShorthand key.span
            mk .assignPropPat lo [toIdent key, .absent]
      | _ => unexpected "an identifier"

/-- Items between braces, and where a comma follows the last. -/
def braced (item : P Ast) : P (List Ast × Option Span) :=
  iterate (([], none) : List Ast × Option Span) fun (out, comma) => do
    if ← eatP .rbrace then return .inr (out.reverse, comma)
    let t ← item
    if ← isP .rbrace then return .inl (t :: out, none)
    expectP .comma
    if ← isP .rbrace then return .inl (t :: out, some (← prevSpan))
    return .inl (t :: out, none)

def checkObjectPat (comma : Option Span) : List Ast → P Unit
  | [] => return
  | [.node .rest sp [arg, _]] =>
      match arg.shape with
      | .ident .. =>
          match comma with
          | some c => emit .commaAfterRest c
          | none => return
      | _ => fail .dotsWithoutName sp
  | [_] => return
  | t :: ts => do
      if let .rest := t.shape then emit .restNotLast t.span
      checkObjectPat comma ts

def objectBindingPat : P Ast := do
  let lo ← curPos
  withCtx (fun c => { c with expectColon := false }) do
    expectP .lbrace
    let (props, comma) ← braced objectPatProp
    let sp ← spanFrom lo
    checkObjectPat comma props
    let opt ← if (← ctx).inDeclare then eatP .question else pure false
    return .node (.objectPat opt) sp [.group props, .absent]

def bindingPatOrIdent (disallowLet : Bool) : P Ast := do
  match ← need with
  | .word .. => bindingIdent disallowLet
  | .punct .lbrack => arrayBindingPat
  | .punct .lbrace => goal .objectPat
  | _ => unexpected "yield, an identifier, [ or \x7b"

/-! ## Expressions read again as patterns -/

/-- Whether an expression may stand left of a plain assignment. -/
def isSimpleTarget (strict : Bool) : Ast → Bool
  | .node s _ parts =>
      match s, parts with
      | .ident n _ _, _ => !(strict && (n == "eval" || n == "arguments"))
      | .member, _ => true
      | .paren, [e] => isSimpleTarget strict e
      | .nonNull, [e] => isSimpleTarget strict e
      | .asExpr, [e, _] => isSimpleTarget strict e
      | .satisfies, [e, _] => isSimpleTarget strict e
      | .typeAssertion, [e, _] => isSimpleTarget strict e
      | .instantiation, [e, _] => isSimpleTarget strict e
      | .invalid, _ => true
      | _, _ => false

/-- Whether a typed text refuses the target. -/
def isDenied (denyCall : Bool) : Ast → Bool
  | .node s _ parts =>
      match s, parts with
      | .null, _ | .bool _, _ | .num _, _ | .bigint _, _ | .str .., _ | .regex .., _ => false
      | .call, _ => denyCall
      | .binary _, _ => false
      | .paren, [e] => isDenied denyCall e
      | _, _ => true

/-- Records a fault if the expression cannot be assigned to. -/
def checkTarget (e : Ast) (denyCall : Bool) : P Unit := do
  let c ← ctx
  if c.dialect.isTypeScript then
    let isSpecial := match e.shape with
      | .ident n _ _ => n == "eval" || n == "arguments"
      | _ => false
    if isSpecial then emitStrict .strictBinding e.span
    else if !isSimpleTarget c.strict e && isDenied denyCall e then emit .invalidTarget e.span
  else if !isSimpleTarget c.strict e then emit .invalidTarget e.span

/-- What an expression is read again as. -/
inductive PatKind where
  | binding
  | assign
  | assignElement
  deriving DecidableEq

def PatKind.element : PatKind → PatKind
  | .binding => .binding
  | _ => .assignElement

def dropTrailingHoles (elems : List Ast) : List Ast :=
  (elems.reverse.dropWhile fun t => match t.shape with
    | .hole => true
    | _ => false).reverse

mutual

def reparse (k : PatKind) : Ast → P Ast
  | .node shape sp parts => do
      let e := Ast.node shape sp parts
      let isCompound := match shape with
        | .object | .array => true
        | _ => false
      let isAssign := match shape with
        | .assign .set => true
        | _ => false
      if let .invalid := shape then return e
      if k == .assign && !isCompound then
        checkTarget e true
        return e
      if k == .assignElement && !isCompound && !isAssign then
        match shape with
        | .member | .call | .new | .null | .bool _ | .num _ | .bigint _ | .str .. | .regex ..
        | .ident .. | .fnExpr | .classExpr | .paren | .template _ | .asExpr =>
            if !isSimpleTarget (← ctx).strict e then emit .cannotAssign sp
            return e
        | _ => emit .notPattern sp
      match shape, parts with
      | .paren, _ => return e
      | .assign .set, [l, r] => return .node .assignPat sp [l, r]
      | .object, props =>
          return .node (.objectPat false) sp [.group (← reparseProps k props), .absent]
      | .ident .., _ => return e
      | .array, elems =>
          let items := dropTrailingHoles (← reparseElems k elems)
          return .node (.arrayPat false) sp [.group items, .absent]
      | _, _ =>
          emit .notPattern sp
          return .node .invalid sp []

def reparseProps (k : PatKind) : List Ast → P (List Ast)
  | [] => return []
  | .node s sp parts :: rest => do
      let t ← match s, parts with
        | .ident n m o, ps =>
            pure (Ast.node .assignPropPat sp [.node (.ident n m o) sp ps, .absent])
        | .keyValue, [key, value] => do
            pure (Ast.node .keyValuePat sp [key, ← reparse k.element value])
        | .assignProp, [key, value] => pure (Ast.node .assignPropPat sp [key, value])
        | .spread, [e] => do
            if !rest.isEmpty then emit .restNotLast sp
            let arg ←
              if k.element == .binding then
                match e.shape with
                | .ident .. => pure e
                | _ =>
                    emit .dotsWithoutName sp
                    pure (.node .invalid sp [])
              else reparse k.element e
            if let .assignPat := arg.shape then emit .restInit sp
            pure (Ast.node .rest sp [arg, .absent])
        | _, _ => fail .notPattern sp
      return t :: (← reparseProps k rest)

def reparseElems (k : PatKind) : List Ast → P (List Ast)
  | [] => return []
  | .node s sp parts :: rest => do
      let t ← match s, parts with
        | .hole, _ => pure (Ast.node .hole sp [])
        | .spread, [e] => do
            if !rest.isEmpty then emit .restNotLast ⟨sp.lo, sp.lo + 3⟩
            else if let .assign _ := e.shape then emit .restInit sp
            let arg ← reparse k.element e
            pure (Ast.node .rest e.span [arg, .absent])
        | s, ps => reparse k.element (.node s sp ps)
      return t :: (← reparseElems k rest)

end

end Inlay.Syntax.P
