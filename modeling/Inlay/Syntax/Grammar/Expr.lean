import Inlay.Syntax.Grammar.Pattern

/-! # Expressions

    From sequences down to primary expressions.  Parenthesised text is first read as expressions
    and read again as parameters when an arrow follows. -/

namespace Inlay.Syntax.P

def isArrow (t : Ast) : Bool :=
  match t.shape with
  | .arrow .. => true
  | _ => false

def stripNonNull : Ast → Ast
  | .node .nonNull _ [t] => stripNonNull t
  | t => t

def isChain (t : Ast) : Bool :=
  match (stripNonNull t).shape with
  | .optMember _ | .optCall _ => true
  | _ => false

/-! ## Faults inside a finished expression -/

mutual

/-- Where an object literal holds `name = value`, outside functions. -/
def assignProps : Ast → List Span
  | .node s sp parts =>
      match s with
      | .assignProp => [sp]
      | .fnExpr | .arrow .. => []
      | _ => assignPropsAll parts

def assignPropsAll : List Ast → List Span
  | [] => []
  | t :: ts => assignProps t ++ assignPropsAll ts

end

/-- Refuses `name = value` in object literals. -/
def verify (t : Ast) : P Ast := do
  (assignProps t).forM fun sp => emit .propertyAssign sp
  return t

/-! ## Sequences and operators -/

def sequence : P Ast := do
  let first ← goal .assign
  if ← isP .comma then
    let rest ← collect (eatP .comma) (goal .assign)
    mk .seq first.span.lo (first :: rest)
  else return first

def binaryOp? (c : Ctx) : Token → Option BinaryOp
  | .punct (.binary op) => some op
  | .word "in" _ => if c.includeIn then some .isIn else none
  | .word "instanceof" _ => some .instanceof
  | _ => none

def isLogical (t : Ast) : Bool :=
  match t.shape with
  | .binary .or | .binary .and => true
  | _ => false

def typedOperand (e : Ast) (isSatisfies : Bool) : P Ast := do
  let lo := e.span.lo
  if !isSatisfies && (← peekIsW "const") then
    let _ ← bump
    let _ ← bump
    mk .asConst lo [e]
  else
    let t ← inType do
      let _ ← bump
      goal .type
    mk (if isSatisfies then .satisfies else .asExpr) lo [e, t]

/-- Continues a left operand with operators that bind tighter than `min`. -/
def binaryTail : Nat → Ast → Nat → P Ast
  | 0, left, _ => return left
  | fuel + 1, left, min => do
      let c ← ctx
      if c.dialect.isTypeScript && min < 7 && !(← hadBreak) then
        if ← isW "as" then
          return ← binaryTail fuel (← typedOperand left false) min
        if ← isW "satisfies" then
          return ← binaryTail fuel (← typedOperand left true) min
      match binaryOp? c (← cur) with
      | none => return left
      | some op =>
          if op.precedence ≤ min then return left
          let _ ← bump
          if op == .exp then
            match left.shape with
            | .unary _ | .await => failHere .unaryPower
            | _ => pure ()
          let first ← goal .unary
          let right ← binaryTail fuel first
            (if op == .exp then op.precedence - 1 else op.precedence)
          if op == .nullish then
            if isLogical left then emit .nullishMix left.span
            if isLogical right then emit .nullishMix right.span
          let node := Ast.node (.binary op) ⟨left.span.lo, right.span.hi⟩ [left, right]
          if op == .or || op == .and then
            if let .binary .nullish := left.shape then emit .nullishMix node.span
          binaryTail fuel node min

def binaryRest (left : Ast) (min : Nat) : P Ast := do
  binaryTail (← read).size left min

def binaryExpr : P Ast := do
  let left ← match ← recover (goal .unary) with
    | .ok t => pure t
    | .error f => do
        match ← need with
        | .punct (.binary _) | .word "in" _ | .word "instanceof" _ =>
            emit .expressionExpected (← curSpan)
            pure (Ast.node .invalid f.span [])
        | _ => throw f
  if isArrow left then return left
  binaryRest left 0

def condExpr : P Ast := do
  let lo ← curPos
  let test ← binaryExpr
  if isArrow test then return test
  if ← eatP .question then
    let cons ← withCtx (fun c => { c with inCond := true, expectColon := true, includeIn := true })
      (goal .assign)
    expectP .colon
    let alt ← withCtx (fun c => { c with inCond := true, expectColon := false }) (goal .assign)
    return .node .cond ⟨lo, alt.span.hi⟩ [test, cons, alt]
  else return test

/-- Whether the node can be assigned to at all. -/
def isTargetShape (t : Ast) : Bool :=
  match t.shape with
  | .ident .. | .member | .paren | .optMember _ | .optCall _ | .asExpr | .satisfies | .nonNull
  | .typeAssertion | .instantiation | .invalid | .arrayPat _ | .objectPat _ => true
  | _ => false

def finishAssign (lo : Nat) (left : Ast) : P Ast := do
  match ← cur with
  | .punct (.assign op) =>
      let target ←
        if op == .set then reparse .assign left
        else do
          let c ← ctx
          if !isSimpleTarget c.strict left then
            emit (if c.dialect.isTypeScript then .invalidTarget else .cannotAssign) left.span
          pure left
      if !isTargetShape target then fail .assignTarget target.span
      let _ ← bump
      let right ← goal .assign
      mk (.assign op) lo [target, right]
  | _ => return left

def startsExpr : Token → Bool
  | .str .. | .num _ | .bigint _ | .regex .. => true
  | .punct p =>
      match p with
      | .lparen | .lbrack | .lbrace | .bang | .tilde | .increment | .decrement | .backquote
      | .hash | .atSign | .ellipsis => true
      | .binary .add | .binary .sub | .binary .div | .assign (.update .div) | .binary .lt => true
      | _ => false
  | .word n _ =>
      !Token.keywords.contains n ||
        ["await", "class", "delete", "function", "import", "let", "new", "super", "this",
         "typeof", "void", "yield"].contains n
  | _ => false

def yieldExpr : P Ast := do
  let lo ← curPos
  let _ ← bump
  let c ← ctx
  if c.inParameters && !c.inFunction then fail .yieldParameter (← prevSpan)
  if ← isEnd then mk (.yield false) lo [.absent]
  else if !(← isP (.binary .mul)) && !startsExpr (← need) then mk (.yield false) lo [.absent]
  else
    let star ← eatP (.binary .mul)
    let arg ← goal .assign
    mk (.yield star) lo [arg]

def assignBase : P Ast := do
  let c ← ctx
  if c.inGenerator && (← isW "yield") then yieldExpr
  else
    let lo ← curPos
    let mayArrow := match ← need with
      | .word n _ => !Token.isKeywordName n || n == "yield" || n == "let" || n == "await"
      | .punct .lparen => true
      | _ => false
    modify fun s => { s with arrowStart := if mayArrow then some lo else none }
    let e ← condExpr
    match e.shape with
    | .arrow .. | .cond | .binary _ | .unary _ | .update .. => return e
    | _ => finishAssign lo e

def genericArrow : P (Option Ast) := attempt do
  let params ← goal (.typeParams false true)
  let e ← assignBase
  match e with
  | .node (.arrow a b) sp [ps, body, _, ret] =>
      return some (.node (.arrow a b) ⟨params.span.lo, sp.hi⟩ [ps, body, params, ret])
  | _ => unexpected "("

def assignExpr : P Ast := do
  let c ← ctx
  if c.dialect.isTypeScript && (← isP (.binary .lt)) then
    if c.dialect.hasMarkup then
      if let some e ← attempt (do return some (← assignBase)) then return e
    if c.dialect.hasMarkup || (← peekIsWord) then
      if let some e ← withCtx (fun c => { c with expectColon := false }) genericArrow then
        return e
    if c.dialect.hasMarkup then
      let next ← peek
      let _ ← bump
      failHere (.jsxIdentifierExpected next.token.describe)
  assignBase

/-! ## Unary expressions -/

def unaryOp? : Token → Option UnaryOp
  | .punct .bang => some .not
  | .punct .tilde => some .bitNot
  | .punct (.binary .add) => some .plus
  | .punct (.binary .sub) => some .minus
  | .word "typeof" _ => some .typeof
  | .word "void" _ => some .void
  | .word "delete" _ => some .delete
  | _ => none

def awaitExpr : P Ast := do
  let lo ← curPos
  let _ ← bump
  if ← isP (.binary .mul) then failHere .awaitStar
  let c ← ctx
  let sp ← spanFrom lo
  if (← isEnd) || (← isAnyP [.rparen, .rbrack, .comma]) then
    if c.isModule || c.inAsync then emit .awaitIdent sp
    return .node (.ident "await" .unset false) sp []
  if c.inFunction && !c.inAsync then emit .awaitInFunction (← curSpan)
  if c.inParameters && !c.inFunction then emit .awaitParameter sp
  let arg ← goal .unary
  mk .await lo [arg]

def unaryExpr : P Ast := do
  let lo ← curPos
  let c ← ctx
  if c.dialect.isTypeScript && !c.dialect.hasMarkup && (← isP (.binary .lt)) then
    if ← peekIsW "const" then
      let _ ← bump
      let _ ← bump
      inType (expectP (.binary .gt))
      let e ← goal .unary
      return ← mk .asConst lo [e]
    let t ← inType do
      let _ ← bump
      let t ← goal .type
      expectP (.binary .gt)
      return t
    let e ← goal .unary
    return ← mk .typeAssertion lo [e, t]
  if (← isP .increment) || (← isP .decrement) then
    let isIncrement ← isP .increment
    let _ ← bump
    let arg ← goal .unary
    checkTarget arg false
    return .node (.update isIncrement true) ⟨lo, arg.span.hi⟩ [arg]
  match unaryOp? (← cur) with
  | some op =>
      let _ ← bump
      let argStart := (← curPos) - 1
      let arg ← match ← recover (goal .unary) with
        | .ok t => pure t
        | .error f => do
            addFault f
            pure (Ast.node .invalid ⟨argStart, argStart⟩ [])
      if op == .delete then
        if let .ident .. := arg.shape then emitStrict .deleteIdent arg.span
        if c.dialect.isTypeScript then
          match arg.unparen.shape with
          | .member | .optMember _ | .optCall _ => pure ()
          | _ => emit .deleteOperand arg.span
      return .node (.unary op) ⟨lo, arg.span.hi⟩ [arg]
  | none =>
      if ← isW "await" then return ← awaitExpr
      let e ← goal .lhs
      if isArrow e then return e
      if ← hadBreak then return e
      if (← isP .increment) || (← isP .decrement) then
        checkTarget e false
        let isIncrement ← isP .increment
        let _ ← bump
        mk (.update isIncrement false) e.span.lo [e]
      else return e

/-! ## Arguments and subscripts -/

/-- An expression or `...` with one. -/
def exprOrSpread : P Ast := do
  let lo ← curPos
  if ← eatP .ellipsis then
    let e ← withIn true (goal .assign)
    return .node .spread ⟨lo, e.span.hi⟩ [e]
  else goal .assign

def callArgs (isImport : Bool) : P Ast := do
  let lo ← curPos
  withCtx (fun c => { c with expectColon := false }) do
    expectP .lparen
    let args ← iterate ([] : List Ast) fun out => do
      if (← isEof) || (← isP .rparen) then return .inr out.reverse
      unless out.isEmpty do
        expectP .comma
        if ← isP .rparen then
          if isImport && !(← isTypeScript) then fail .importTrailingComma (← spanFrom lo)
          return .inr out.reverse
      return .inl ((← withIn true exprOrSpread) :: out)
    expectP .rparen
    return .group args

def tagged (tag typeArgs : Ast) : P Ast := do
  let tpl ← withCtx (fun c => { c with expectColon := false }) (goal (.template true))
  let t ← mk .tagged tag.span.lo [tag, typeArgs, tpl]
  if isChain tag then emit .taggedChain t.span
  return t

/-- Type arguments that stand alone behind an expression. -/
def tryTypeArgs : P (Option Ast) := attempt do
  let args ← goal .typeArgs
  if ← isAnyP [.binary .lt, .binary .gt, .binary .add, .binary .sub, .lparen, .backquote] then
    return none
  match ← cur with
  | .punct (.binary _) => return some args
  | t => if (← hadBreak) || !startsExpr t then return some args else return none

def isSuper (t : Ast) : Bool :=
  match t.shape with
  | .superRef => true
  | _ => false

def isImportRef (t : Ast) : Bool :=
  match t.shape with
  | .importRef => true
  | _ => false

def memberName : P Ast := do
  if ← isP .hash then privateName else identName

/-- A member access, as a link of an optional chain if it is one. -/
def mkMember (obj prop : Ast) (sp : Span) (isOptional : Bool) : Ast :=
  if isOptional || isChain obj then .node (.optMember isOptional) sp [obj, prop]
  else .node .member sp [obj, prop]

def mkCall (callee args typeArgs : Ast) (sp : Span) (isOptional : Bool) : Ast :=
  if isOptional || isChain callee then .node (.optCall isOptional) sp [callee, args, typeArgs]
  else .node .call sp [callee, args, typeArgs]

def checkSuper (obj : Ast) (isOptional noCall : Bool) : P Unit := do
  if isSuper obj then
    let c ← ctx
    if !c.allowSuper && !c.dialect.isTypeScript then fail .invalidSuper obj.span
    if isOptional then
      if noCall then fail .invalidSuperCall obj.span else fail .invalidSuper obj.span

/-- A subscript that only typed text has; tells whether more may follow. -/
def typedSubscript (lo : Nat) (obj : Ast) (noCall : Bool) : P (Option (Ast × Bool)) := do
  if !(← isTypeScript) then return none
  if !(← hadBreak) && (← isP .bang) && !isSuper obj then
    let _ ← bump
    return some (← mk .nonNull lo [obj], true)
  if ← isAnyP [.binary .lt, .binary .shl] then
    attempt do
      let args ← goal .typeArgs
      if !noCall && (← isP .lparen) then
        let callArgs ← goal (.callArgs (isImportRef obj))
        return some (mkCall obj callArgs args (← spanFrom lo) false, true)
      else if ← isP .backquote then return some (← tagged obj args, true)
      else if (← isP (.assign .set)) || (← isW "as") || (← isW "satisfies") then
        return some (← mk .instantiation lo [obj, args], false)
      else return none
  else return none

/-- One subscript; tells whether more may follow. -/
def subscript (lo : Nat) (obj : Ast) (noCall noComputed : Bool) : P (Ast × Bool) := do
  if let some r ← typedSubscript lo obj noCall then return r
  let obj ← do
    if (← isTypeScript) && (← isP (.binary .lt)) then
      match ← tryTypeArgs with
      | some args => mk .instantiation lo [obj, args]
      | none => pure obj
    else pure obj
  let isOptional ← do
    if (← isP .question) && (← peekIsP .dot) then
      let _ ← bump
      pure true
    else pure false
  if !noComputed then
    let isComputed ← do
      if isOptional then
        if (← isP .dot) && (← peekIsP .lbrack) then
          let _ ← bump
          pure true
        else pure false
      else isP .lbrack
    if isComputed then
      let open_ ← curPos
      let _ ← bump
      let e ← withIn true (goal .expr)
      expectP .rbrack
      let prop ← mk .computed open_ [e]
      checkSuper obj isOptional noCall
      if isImportRef obj then unexpected "`.` or `(`"
      return (mkMember obj prop (← spanFrom obj.span.lo) isOptional, true)
  let isCall ← do
    if isOptional then
      if (← isP .dot) && ((← peekIsP .lparen)
        || ((← isTypeScript) && (← peekIsP (.binary .lt)))) then
        let _ ← bump
        pure true
      else pure false
    else pure (!noCall && (← isP .lparen))
  if isCall then
    let typeArgs ← if (← isTypeScript) && (← isP (.binary .lt)) then goal .typeArgs
      else pure .absent
    let args ← goal (.callArgs (isImportRef obj))
    if isOptional && isSuper obj then emit .optionalSuperCall (← prevSpan)
    return (mkCall obj args typeArgs (← spanFrom lo) isOptional, true)
  if ← eatP .dot then
    let prop ← memberName
    checkSuper obj isOptional noCall
    if isSuper obj then
      if let .privateName _ := prop.shape then failHere .invalidSuperCall
    return (mkMember obj prop (← spanFrom obj.span.lo) isOptional, true)
  if isSuper obj then failHere (if noCall then .invalidSuperCall else .invalidSuper)
  if isImportRef obj then unexpected "`.` or `(`"
  if ← isP .backquote then return (← tagged obj .absent, true)
  return (obj, false)

def subscripts (base : Ast) (noCall noComputed : Bool) : P Ast :=
  iterate base fun obj => do
    match ← subscript base.span.lo obj noCall noComputed with
    | (t, true) => return .inl t
    | (t, false) => return .inr t

/-! ## Left-hand sides -/

/-- What follows `import` in an expression. -/
def importExpr (lo : Nat) (noCall : Bool) : P Ast := do
  if ← eatP .dot then
    modify fun s => { s with foundModuleItem := true }
    let name ← identName
    if nameText name == "meta" then
      let e ← mk .importMeta lo []
      subscripts e noCall false
    else unexpected "meta"
  else
    let base ← mk .importRef lo []
    subscripts base noCall false

/-- `new` expressions and member accesses. -/
def memberOrNew (primary : P Ast) : Nat → P Ast
  | 0 => failHere .expressionExpected
  | fuel + 1 => do
      let lo ← curPos
      if ← isW "new" then
        let _ ← bump
        if ← eatP .dot then
          if ← eatW "target" then
            let e ← mk .newTarget lo []
            let c ← ctx
            if !c.inPlainFunction && !c.inParameters && !c.inClass then
              emit .invalidNewTarget e.span
            return ← subscripts e true false
          else return ← unexpected "target"
        let callee ← memberOrNew primary fuel
        if isArrow callee then return callee
        let chained := match callee with
          | .node (.optMember _) .. | .node (.optCall _) .. => true
          | .node .member _ [obj, _] => isChain obj
          | _ => false
        if chained then fail .chainedConstructor callee.span
        let typeArgs ← do
          if (← isTypeScript) && (← isAnyP [.binary .lt, .binary .shl]) then
            let r ← attempt do
              let args ← goal .typeArgs
              if ← isP .lparen then return some args else return none
            pure (r.getD .absent)
          else pure .absent
        if ← isP .lparen then
          let args ← goal (.callArgs false)
          let e ← mk .new lo [callee, args, typeArgs]
          subscripts e true false
        else mk .new lo [callee, .absent, typeArgs]
      else if ← isW "super" then
        let _ ← bump
        subscripts (← mk .superRef lo []) true false
      else if ← isW "import" then
        let _ ← bump
        importExpr lo true
      else
        let e ← primary
        if isArrow e then return e
        let e ← do
          if (← isTypeScript) && (← isP (.binary .lt)) then
            match ← tryTypeArgs with
            | some args => mk .instantiation lo [e, args]
            | none => pure e
          else pure e
        subscripts e true false

def lhsExpr (primary : P Ast) : P Ast := do
  let lo ← curPos
  let c ← ctx
  if c.dialect.hasMarkup && (← isP (.binary .lt)) then return ← goal (.markup false)
  if ← isW "super" then
    let _ ← bump
    return ← subscripts (← mk .superRef lo []) false false
  if ← isW "import" then
    let _ ← bump
    return ← importExpr lo false
  let callee ← memberOrNew primary (← read).size
  if isArrow callee then return callee
  let typeArgs ← do
    if c.dialect.isTypeScript && (← isAnyP [.binary .lt, .binary .shl]) then
      let r ← attempt do
        let args ← goal .typeArgs
        if ← isP .lparen then return some args else return none
      pure (r.getD .absent)
    else pure .absent
  if let .node .new _ [_, .absent, _] := callee then return callee
  if ← isP .lparen then
    let args ← goal (.callArgs false)
    let e := mkCall callee args typeArgs (← spanFrom lo) false
    subscripts e false false
  else return callee

/-! ## Primary expressions -/

def arrayLit : P Ast := do
  let lo ← curPos
  expectP .lbrack
  let elems ← iterate ([] : List Ast) fun out => do
    if (← isEof) || (← isP .rbrack) then return .inr out.reverse
    if ← isP .comma then
      let _ ← bump
      return .inl (.node .hole (← prevSpan) [] :: out)
    let e ← withIn true exprOrSpread
    if !(← isP .rbrack) then expectP .comma
    return .inl (e :: out)
  expectP .rbrack
  mk .array lo elems

/-- The text and holes of a template; the current token is its backquote. -/
def template (isTagged : Bool) : P Ast := do
  let lo ← curPos
  iterate (([], []) : List String × List Ast) fun (quasis, exprs) => do
    let s ← get
    let q := s.after.quasi
    if q.stop == .eof then
      throw ⟨.eof, ⟨q.pos, q.pos⟩⟩
    if let some f := q.failed then
      if !isTagged then throw f
    let quasis := String.ofList q.raw.reverse :: quasis
    let behind : Cursor :=
      { s.after with
        rest := q.rest, pos := q.pos, last := some (.punct .backquote), lastEnd := q.pos }
    set { s with span := ⟨s.span.lo, q.pos⟩, after := behind }
    let _ ← bump
    match q.stop with
    | .hole =>
        let e ← withIn true (outOfType (goal .expr))
        unless ← isP .rbrace do expectText "\x7d"
        return .inl (quasis, e :: exprs)
    | _ => return .inr (← mk (.template quasis.reverse) lo exprs.reverse)

def regexFlags : List Char := ['d', 'g', 'i', 'm', 's', 'u', 'v', 'y']

def repeatedFlag : List Char → Option Char
  | [] => none
  | c :: cs => if cs.contains c then some c else repeatedFlag cs

def regexLit : P Ast := do
  let s ← get
  accept s.before.regex s.before
  let lo ← curPos
  match ← need with
  | .regex p f =>
      let _ ← bump
      let e ← mk (.regex p f) lo []
      let flags := f.toList
      if flags.any (!regexFlags.contains ·) then emit .unknownRegexFlags e.span
      if let some c := repeatedFlag flags then emit (.duplicateRegexFlag c) e.span
      return e
  | _ => failHere .expressionExpected

def areSimple (params : List Ast) : Bool :=
  params.all fun t => match t with
    | .node .param _ [_, .node (.ident ..) ..] => true
    | .node (.ident ..) .. => true
    | _ => false

/-- The span of a `use strict` at the start of a block. -/
def useStrictIn : Ast → Option Span
  | .node .block _ (.node .exprStmt _ [.node (.str _ raw) sp _] :: _) =>
      if raw == "'use strict'" || raw == "\"use strict\"" then some sp else none
  | _ => none

def functionCtx (isAsync isGenerator isArrow : Bool) (c : Ctx) : Ctx :=
  { c with
    inAsync := isAsync, inGenerator := isGenerator, inFunction := true
    inPlainFunction := if isArrow then c.inPlainFunction else true
    inParameters := false, inStaticBlock := false, inClassField := false, allowBreak := false
    allowContinue := false, expectColon := false, labels := [] }

def arrowBody (isAsync : Bool) (params : List Ast) : P (Ast × Bool) :=
  withCtx (functionCtx isAsync false true) do
    if ← isP .lbrace then
      let b ← withIn true (goal (.block false))
      if !areSimple params then
        if let some sp := useStrictIn b then emit .strictDirective sp
      return (b, true)
    else return (← goal .assign, false)

def mkArrow (lo : Nat) (isAsync : Bool) (params : List Ast) (returnType : Ast) : P Ast := do
  let (body, hasBlock) ← arrowBody isAsync params
  mk (.arrow isAsync hasBlock) lo [.group params, body, .absent, returnType]

/-- Words before a parameter that typed text allows. -/
def eatModifier : P Bool := do
  if !(← isTypeScript) then return false
  if !(← isAnyW ["public", "protected", "private", "readonly", "abstract", "override"]) then
    return false
  let next ← peek
  let follows := match next.token with
    | .word .. | .punct .lbrace | .punct .lbrack => !next.lineBreak
    | _ => false
  if follows then
    let _ ← bump
    return true
  else return false

/-- An item between parentheses: an expression, a spread, or already a pattern. -/
structure ParenItem where
  tree : Ast
  isPattern : Bool

/-- The items of a parenthesised list that may turn out to be parameters. -/
def parenItem : P ParenItem := do
  let lo ← curPos
  modify fun s => { s with arrowStart := some lo }
  let hasModifier ← eatModifier
  let patStart ← curPos
  let ts ← isTypeScript
  let spreadName := (← isP .ellipsis) && (← peekIsName)
  let isSpread := ts && spreadName
  let arg ←
    if ts && ((← isName) || isSpread) then do
      let dots ← curSpan
      if isSpread then
        let _ ← bump
        let e ← binaryExpr
        pure (Ast.node .spread ⟨dots.lo, e.span.hi⟩ [e])
      else
        let e ← binaryExpr
        finishAssign lo e
    else withIn true exprOrSpread
  let spreadArg := match arg with
    | .node .spread _ [e] => some e
    | _ => none
  let (arg, isOptional) ← do
    if ts && (← isP .question) then
      let next ← peek
      let marks := match next.token with
        | .punct .comma | .punct .colon | .punct .rparen | .punct (.assign .set) => true
        | _ => false
      if marks then
        let _ ← bump
        if spreadArg.isSome then emit .restOptional (← prevSpan)
        match (spreadArg.getD arg).shape with
        | .ident .. => pure (arg, true)
        | _ => fail .optionalPattern arg.span
      else if spreadArg.isNone then
        let _ ← bump
        let cons ← withCtx (fun c =>
          { c with inCond := true, expectColon := true, includeIn := true }) (goal .assign)
        expectP .colon
        let alt ← withCtx (fun c => { c with inCond := true, expectColon := false }) (goal .assign)
        pure (Ast.node .cond ⟨lo, alt.span.hi⟩ [arg, cons, alt], false)
      else pure (arg, false)
    else pure (arg, false)
  if isOptional || (ts && (← isP .colon)) then
    let inner ← reparse .binding (spreadArg.getD arg)
    let inner := match inner with
      | .node (.ident n m _) sp ps => Ast.node (.ident n m isOptional) sp ps
      | t => t
    let pat := match spreadArg with
      | some _ => Ast.node .rest arg.span [inner, .absent]
      | none => inner
    let ty ← optTypeAnn
    let pat := withType pat ty
    let pat := match pat.shape with
      | .ident .. => pat
      | _ => if ty.isAbsent then pat else pat.withSpan ⟨patStart, ty.span.hi⟩
    let pat ← do
      if ← eatP (.assign .set) then
        let right ← goal .assign
        mk .assignPat patStart [pat, right]
      else pure pat
    if hasModifier then emit .parameterProperty (← spanFrom lo)
    return ⟨pat, true⟩
  else
    if hasModifier then emit .parameterProperty (← spanFrom lo)
    return ⟨arg, false⟩

/-- Items between parentheses, and where a comma follows the last. -/
def parenItems : P (List ParenItem × Option Span) :=
  withCtx (fun c => { c with expectColon := false }) do
    expectP .lparen
    let r ← iterate (([], none) : List ParenItem × Option Span) fun (out, comma) => do
      if (← isEof) || (← isP .rparen) then return .inr (out.reverse, comma)
      let item ← parenItem
      if ← isP .rparen then return .inl (item :: out, none)
      expectP .comma
      if ← isP .rparen then return .inl (item :: out, some (← prevSpan))
      return .inl (item :: out, none)
    expectP .rparen
    return r

def itemsAsParams (comma : Option Span) : List ParenItem → P (List Ast)
  | [] => return []
  | ⟨t, isPattern⟩ :: rest => do
      let isLast := rest.isEmpty
      match t with
      | .node .spread sp [e] =>
          if isLast then
            if let .assign _ := e.shape then emit .restInit sp
            if let some c := comma then emit .commaAfterRest c
            let arg ← reparse .binding e
            return [.node .rest sp [arg, .absent]]
          else
            emit .restLast sp
            itemsAsParams comma rest
      | .node .rest sp ps =>
          if isLast then
            if let some c := comma then emit .commaAfterRest c
            return [.node .rest sp ps]
          else
            emit .restLast sp
            itemsAsParams comma rest
      | t =>
          let p ← if isPattern then pure t else reparse .binding t
          return p :: (← itemsAsParams comma rest)

/-- A parenthesised expression, the head of an arrow function, or a call of `async`. -/
def parenOrArrow (canBeArrow : Bool) (asyncAt : Option Span) : P Ast := do
  let lo ← match asyncAt with
    | some sp => pure sp.lo
    | none => curPos
  let isAsync := asyncAt.isSome
  let (items, comma) ← withIn true parenItems
  let hasPattern := items.any (·.isPattern)
  let c ← ctx
  if c.dialect.isTypeScript && c.inCond && (← isP .colon) then
    let r ← attempt do
      let ret ← goal (.returnType false)
      expectP .arrow
      let params ← itemsAsParams none items
      let e ← mkArrow lo isAsync params ret
      if c.expectColon && !(← isP .colon) then return none
      return some e
    if let some e := r then return e
  let ret ← do
    if !c.expectColon && c.dialect.isTypeScript && (← isP .colon) then
      let r ← attempt do
        let t ← goal (.returnType false)
        if ← isP .arrow then return some t else return none
      pure (r.getD .absent)
    else pure .absent
  if hasPattern || !ret.isAbsent || (← isP .arrow) then
    if ← hadBreak then failHere .arrowLineBreak
    if !canBeArrow then failHere .arrowNotAllowed
    expectP .arrow
    let params ← itemsAsParams comma items
    let e ← mkArrow lo isAsync params ret
    if let .arrow _ true := e.shape then
      if let .punct (.binary _) := ← cur then
        emit .expectedSemicolon (← curSpan)
        return ← binaryRest e 0
    return e
  let exprs := items.map (·.tree)
  exprs.forM fun e => do
    if let .node .object _ props := e then
      props.forM fun p => do
        if let .assignProp := p.shape then emit .propertyAssign p.span
  match asyncAt with
  | some sp =>
      let callee := Ast.node (.ident "async" .unset false) sp []
      return .node .call (← spanFrom sp.lo) [callee, .group exprs, .absent]
  | none =>
      let here : Span := ⟨lo, (← prevSpan).hi⟩
      match exprs with
      | [] => fail .emptyParens here
      | first :: rest =>
          exprs.forM fun e => do
            if let .node .spread _ [x] := e then fail .spreadInParens x.span
          let inner := match rest.getLast? with
            | none => first
            | some last => Ast.node .seq ⟨first.span.lo, last.span.hi⟩ exprs
          return .node .paren here [inner]

/-! ## Object literals -/

/-- The parameters, result type and body that follow the name of a method. -/
def methodRest (lo : Nat) (isAsync isGenerator : Bool) : P Ast :=
  withCtx (fun c => { c with allowSuper := true, inClassField := false })
    (goal (.functionRest lo isAsync isGenerator []))

/-- Parameters other than a leading `this`. -/
def realParams (f : Ast) : List Ast :=
  (f.part 0).items.filter fun p => match p with
    | .node .param _ [_, .node (.ident "this" ..) ..] => false
    | _ => true

def checkGetter (keySpan : Span) (f : Ast) : P Unit := do
  unless (realParams f).isEmpty do emit .getterParameter keySpan

def checkSetter (keySpan : Span) (f : Ast) : P Unit := do
  if (realParams f).length != 1 then emit .setterParameter keySpan
  if let some (.node .param sp [_, .node .rest ..]) := (f.part 0).items.head? then
    emit .setterRest sp

def objectProp : P Ast := do
  let lo ← curPos
  if ← isP .ellipsis then
    let _ ← bump
    let e ← withIn true (goal .assign)
    return .node .spread ⟨lo, e.span.hi⟩ [e]
  if ← eatP (.binary .mul) then
    let key ← propName
    let f ← methodRest lo false true
    return ← mk .methodProp lo [key, f]
  let ts ← isTypeScript
  let hasModifier ← eatModifier
  let modifierAt ← prevSpan
  let key ← propName
  if ts then
    let goesOn ← do
      match ← cur with
      | .punct p =>
          pure ([Punct.lparen, .lbrack, .colon, .comma, .question, .assign .set, .binary .mul,
            .binary .lt].contains p ||
            (p == .rbrace && (match key.shape with
              | .plainName _ => true
              | _ => false)))
      | .word .. | .str .. | .num _ | .bigint _ => pure true
      | _ => pure false
    if !goesOn then
      emit .expectedSemicolon (← curSpan)
      return ← mk .keyValue lo [key, ← mk .invalid lo []]
  if ← eatP .colon then
    let value ← withIn true (goal .assign)
    return ← mk .keyValue lo [key, value]
  if (← isP .lparen) || (ts && (← isP (.binary .lt))) then
    let f ← methodRest lo false false
    return ← mk .methodProp lo [key, f]
  match key.shape with
  | .plainName n =>
      if ← eatP .question then emit .objectOptional (← prevSpan)
      if ← isAnyP [.assign .set, .comma, .rbrace] then
        if (← ctx).isReserved n then emit .reservedShorthand key.span
        if ← eatP (.assign .set) then
          let value ← withIn true (goal .assign)
          return ← mk .assignProp lo [toIdent key, value]
        return toIdent key
      if n == "get" || n == "set" || n == "async" then
        if hasModifier then emit .asyncHere modifierAt
        let star ← if n == "async" then eatP (.binary .mul) else pure false
        let name ← propName
        let f ← methodRest lo (n == "async") star
        if n == "get" then
          checkGetter name.span f
          mk .getter lo [name, f.part 4, f.part 2]
        else if n == "set" then
          checkSetter name.span f
          let params := (f.part 0).items
          let param := ((if params.length ≥ 2 then params.drop 1 else params).head?.map
            (·.part 1)).getD (.node .invalid ⟨0, 0⟩ [])
          mk .setter lo [name, param, f.part 2]
        else mk .methodProp lo [name, f]
      else if ts then
        unexpected
          "... , *,  (, [, :, , ?, =, an identifier, public, protected, private, readonly, <."
      else unexpected "... , *,  (, [, :, , ?, = or an identifier"
  | _ => unexpected "identifier"

def objectLit : P Ast := do
  let lo ← curPos
  withCtx (fun c => { c with expectColon := false }) do
    expectP .lbrace
    let (props, _) ← braced objectProp
    mk .object lo props

/-! ## Functions and classes as expressions -/

/-- A function after its optional `async`; the current token is `function`. -/
def functionExpr (lo : Nat) (isAsync : Bool) : P Ast := do
  let _ ← bump
  let star ← eatP (.binary .mul)
  let name ← withCtx
    (fun c => { c with allowSuper := false, inAsync := isAsync, inGenerator := star })
    (optBindingIdent false false)
  let f ← withCtx (fun c =>
    { c with allowSuper := false, inClassField := false, expectColon := false })
    (goal (.functionRest lo isAsync star []))
  if (f.part 2).isAbsent then unexpected "\x7b"
  mk .fnExpr lo [name, f]

def primaryName (lo : Nat) (canBeArrow : Bool) : P Ast := do
  let c ← ctx
  let id ← ident (!c.inGenerator) (!c.inAsync)
  if canBeArrow && nameText id == "async" && !(← hadBreak) && (← isName) then
    if c.inLoopHead && (← isW "of") && !(← peekIsP .arrow) then
      if !c.inAwaitLoopHead then emit .asyncLoop (← prevSpan)
      return id
    let arg ← bindingIdent false
    if c.dialect.isTypeScript && nameText arg == "as" && !(← isP .arrow) then
      let t ← inType (goal .type)
      return ← mk .asExpr lo [id, t]
    expectP .arrow
    return ← mkArrow lo true [arg] .absent
  if canBeArrow && !(← hadBreak) && (← isP .arrow) then
    let _ ← bump
    if nameText id == "eval" || nameText id == "arguments" then
      if c.strict then emitStrict .strictBinding id.span
    return ← mkArrow lo false [id] .absent
  return id

def primary : P Ast := do
  let s ← get
  let lo := s.span.lo
  let canBeArrow := s.arrowStart == some lo
  match ← need with
  | .str .. | .num _ | .bigint _ => literalToken
  | .punct .lbrack => withCtx (fun c => { c with expectColon := false }) arrayLit
  | .punct .lbrace => goal .object
  | .punct .lparen => parenOrArrow canBeArrow none
  | .punct .backquote => withCtx (fun c => { c with expectColon := false }) (goal (.template false))
  | .punct (.binary .div) | .punct (.assign (.update .div)) => regexLit
  | .punct .hash => privateName
  | .punct .atSign =>
      if (← ctx).dialect.hasDecorators then goal (.classRest lo false [])
      else failHere .expressionExpected
  | .word w _ =>
      if w == "this" then
        let _ ← bump
        return ← mk .thisRef lo []
      if w == "null" then
        let _ ← bump
        return ← mk .null lo []
      if w == "true" || w == "false" then
        let _ ← bump
        return ← mk (.bool (w == "true")) lo []
      if w == "function" then return ← functionExpr lo false
      if w == "class" then return ← goal (.classRest lo false [])
      if w == "async" then
        let next ← peek
        match next.token with
        | .word "function" _ =>
            if !next.lineBreak then
              let _ ← bump
              return ← functionExpr lo true
        | .punct (.binary .lt) =>
            if canBeArrow && (← isTypeScript) then
              let r ← attempt do
                let _ ← bump
                let params ← goal (.typeParams false true)
                let (items, comma) ← withIn true parenItems
                let ret ← if ← isP .colon then goal (.returnType false) else pure .absent
                expectP .arrow
                let ps ← itemsAsParams comma items
                let e ← mkArrow lo true ps ret
                match e with
                | .node sh sp [a, b, _, d] => return some (.node sh sp [a, b, params, d])
                | e => return some e
              if let some e := r then return e
        | .punct .lparen =>
            if canBeArrow && !next.lineBreak then
              let _ ← bump
              return ← parenOrArrow canBeArrow (some (← prevSpan))
        | _ => pure ()
      if w == "let" || !(← ctx).isReserved w then primaryName lo canBeArrow
      else failHere .expressionExpected
  | _ => failHere .expressionExpected

end Inlay.Syntax.P
