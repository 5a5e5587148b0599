import Inlay.Syntax.Grammar.Type

/-! # Functions and classes

    Parameters, function bodies, class heads and class members, with the modifiers that typed text
    allows on them. -/

namespace Inlay.Syntax.P

/-! ## Decorators -/

def decorator : P Ast := do
  let lo ← curPos
  let _ ← bump
  let e ← do
    if ← isP .lparen then
      let at_ ← curPos
      let _ ← bump
      let e ← goal .expr
      expectP .rparen
      mk .paren at_ [e]
    else
      let id ← ident false false
      goal (.subscripts id false true)
  let args? ← do
    if (← isTypeScript) && (← isP (.binary .lt)) then pure (some (← goal .typeArgs))
    else if ← isP .lparen then pure (some .absent)
    else pure none
  let e ← match args? with
    | some typeArgs => do
        let args ← goal (.callArgs false)
        mk .call e.span.lo [e, args, typeArgs]
    | none => pure e
  mk .decorator lo [e]

def decorators (allowExport : Bool) : P (List Ast) := do
  if !(← ctx).dialect.hasDecorators then return []
  let ds ← collect (isP .atSign) decorator
  if ds.isEmpty then return []
  let c ← ctx
  if (← isW "export") && !c.inClass && !c.inFunction && !allowExport then
    failHere .exportNotAllowed
  return ds

/-! ## Parameters -/

/-- A parameter without `...`: modifiers, pattern, type, default. -/
def paramPat : P Ast := do
  let lo ← curPos
  let hasModifier ← eatModifier
  let patStart ← curPos
  let pat ← goal .bindingPat
  let ts ← isTypeScript
  let (pat, opt) ← do
    if ← onlyIf ts (eatP .question) then
      match pat with
      | .node (.ident n m _) sp ps => pure (Ast.node (.ident n m true) sp ps, true)
      | .node (.arrayPat _) sp ps => pure (Ast.node (.arrayPat true) sp ps, true)
      | .node (.objectPat _) sp ps => pure (Ast.node (.objectPat true) sp ps, true)
      | t => pure (t, true)
    else pure (pat, false)
  let ty ← optTypeAnn
  let pat := withType pat ty
  let pat := match pat.shape with
    | .ident .. => pat
    | _ => if ty.isAbsent then pat else pat.withSpan ⟨patStart, ty.span.hi⟩
  let pat ← do
    if ← eatP (.assign .set) then
      if opt then emit .optionalWithInit pat.span
      let right ← goal .assign
      if (← ctx).inDeclare then emit .optionalArrow (← spanFrom lo)
      mk .assignPat lo [pat, right]
    else pure pat
  if hasModifier then emit .parameterProperty (← spanFrom lo)
  return pat

def restParam : P Ast := do
  let lo ← curPos
  let _ ← bump
  let pat ← goal .bindingPat
  let pat ← do
    if ← eatP (.assign .set) then
      let right ← goal .assign
      emit .restInit pat.span
      mk .assignPat lo [pat, right]
    else pure pat
  let ty ← optTypeAnn
  let node ← mk .rest lo [pat, ty]
  if ← onlyIf (← isTypeScript) (eatP .question) then emit .restOptional (← prevSpan)
  return node

/-- Parameters up to the closing parenthesis, each read by `item`. -/
def paramList (item : Nat → List Ast → P Ast) : P Ast := do
  let ps ← iterate (([], none) : List Ast × Option Span) fun (out, restAt) => do
    if (← isEof) || (← isP .rparen) then return .inr out.reverse
    if let some sp := restAt then emit .restLast sp
    let lo ← curPos
    let ds ← decorators false
    let isRest ← isP .ellipsis
    let (p, restAt) ← do
      if isRest then
        let r ← restParam
        let p ← mk .param lo [.group ds, r]
        pure (p, some r.span)
      else pure (← item lo ds, restAt)
    if !(← isP .rparen) then
      expectP .comma
      if isRest && (← isP .rparen) then emit .commaAfterRest (← prevSpan)
    return .inl (p :: out, restAt)
  return .group ps

def formalParams : P Ast :=
  paramList fun lo ds => do
    let pat ← paramPat
    mk .param lo [.group ds, pat]

def accessModifier : P (Option Access) := do
  match ← tsModifier ["public", "protected", "private", "in", "out"] false with
  | some "public" => return some .publicly
  | some "protected" => return some .protectedly
  | some "private" => return some .privately
  | some w =>
      emit (.varianceModifier w) (← prevSpan)
      return none
  | none => return none

def constructorParams : P Ast :=
  paramList fun lo ds => do
    let access ← accessModifier
    let isOverride := (← tsModifier ["override"] false).isSome
    let isReadonly := (← tsModifier ["readonly"] false).isSome
    let pat ← paramPat
    if access.isNone && !isOverride && !isReadonly then mk .param lo [.group ds, pat]
    else
      match pat.shape with
      | .ident .. | .assignPat =>
          mk (.paramProp { access, isOverride, isReadonly }) lo [.group ds, pat]
      | _ => fail .parameterPropertyPattern pat.span

/-! ## Bodies -/

/-- The body of a function; typed text may leave it out. -/
def functionBody (isAsync isGenerator : Bool) (params : List Ast) : P Ast := do
  let c ← ctx
  if c.inDeclare && c.dialect.isTypeScript && (← isP .lbrace) then
    emit .ambientImplementation (← curSpan)
  withCtx (functionCtx isAsync isGenerator false) do
    if ← onlyIf (c.dialect.isTypeScript && !(← isP .lbrace)) eatEnd then return .absent
    let b ← withIn true (goal (.block true))
    if !areSimple params then
      if let some sp := useStrictIn b then emit .strictDirective sp
    return b

def functionRest (lo : Nat) (isAsync isGenerator : Bool) (ds : List Ast) : P Ast :=
  withCtx (fun c => { c with inAsync := isAsync, inGenerator := isGenerator }) do
    let tps ← optTypeParams false true
    let params ← withCtx (fun c => { c with inParameters := true, inFunction := false }) do
      expectP .lparen
      let ps ← goal .formalParams
      expectP .rparen
      return ps
    let ret ← if (← isTypeScript) && (← isP .colon) then goal (.returnType false) else pure .absent
    let body ← functionBody isAsync isGenerator params.items
    if body.isAbsent then
      params.items.forM fun p => do
        if let .node .param _ [_, .node .assignPat sp _] := p then emit .optionalArrow sp
    mk (.function isAsync isGenerator) lo [params, .group ds, body, tps, ret]

/-! ## Class members -/

def isMethodStart : P Bool := do
  if ← isP .lparen then return true
  return (← isTypeScript) && (← isP (.binary .lt))

def isFieldEnd (asi : Bool) : P Bool := do
  if (← isTypeScript) && (← isAnyP [.bang, .colon]) then return true
  if ← isAnyP [.assign .set, .rbrace] then return true
  if asi then isEnd else isP .semi

def isConstructorKey (key : Ast) : Bool :=
  match key.shape with
  | .plainName "constructor" | .str "constructor" _ => true
  | _ => false

def classKey : P Ast := do
  if ← isP .hash then
    let t ← privateName
    if nameText t == "constructor" then emit .privateConstructor t.span
    return t
  else propName

def isPrivateKey (key : Ast) : Bool :=
  match key.shape with
  | .privateName _ => true
  | _ => false

/-- What stands before the name of a class member. -/
structure MemberHead where
  lo : Nat
  decorators : List Ast
  modifiers : Modifiers

/-- A method with a name.  Faults of the parameters of an accessor are found at its word. -/
def mkMethod (h : MemberHead) (key : Ast) (kind : MethodKind) (isAsync isGenerator : Bool)
    (word : Span) : P Ast := do
  let f ← goal (.functionRest h.lo isAsync isGenerator h.decorators)
  match kind with
  | .getter => checkGetter word f
  | .setter => checkSetter word f
  | .method => pure ()
  let node ← mk (.method kind h.modifiers) h.lo [key, f]
  if isPrivateKey key then
    if h.modifiers.access.isSome then emit .accessPrivate ⟨h.lo, key.span.hi⟩
  else if h.modifiers.isAbstract && !(f.part 2).isAbsent then emit .abstractBody node.span
  return node

def mkField (h : MemberHead) (key : Ast) (isAccessor : Bool) : P Ast := do
  if isConstructorKey key then fail .constructorField key.span
  let isPrivate := isPrivateKey key
  if isPrivate && h.modifiers.isDeclare then emit (.privateModifier "declare") key.span
  if isPrivate && h.modifiers.isAbstract then emit (.privateModifier "abstract") key.span
  let isDefinite ← do
    if (← isTypeScript) && !h.modifiers.isOptional then eatP .bang else pure false
  let ty ← optTypeAnn
  withCtx (fun c => { c with includeIn := true, inClassField := true }) do
    let value ← do
      if ← eatP (.assign .set) then goal .assign else pure .absent
    unless ← eatEnd do emit .expectedSemicolon (← curSpan)
    let mods := { h.modifiers with isDefinite }
    let node ← mk (if isAccessor then .accessor mods else .field mods) h.lo
      [key, value, ty, .group h.decorators]
    if isPrivate then
      if mods.access.isSome then emit .accessPrivate ⟨h.lo, key.span.hi⟩
    else if mods.isAbstract && !value.isAbsent then emit .abstractValue node.span
    return node

def staticBlock (lo : Nat) : P Ast := do
  let b ← withCtx (fun c =>
    { c with inStaticBlock := true, inClassField := true, allowUsing := true, inFunction := false
             inAsync := false, inGenerator := false, allowBreak := false, allowContinue := false
             labels := [] })
    (goal (.block false))
  mk .staticBlock lo [b]

/-- Modifiers that may come in any number before a member's name. -/
def memberModifiers (h : MemberHead) : P (MemberHead × Option Span) :=
  iterate ((h, none) : MemberHead × Option Span) fun (h, at_) => do
    let m := h.modifiers
    match ← tsModifier ["abstract", "readonly", "override", "static"] true with
    | none => return .inr (h, at_)
    | some w =>
        let sp ← prevSpan
        let at_ := at_.or (some sp)
        match w with
        | "abstract" =>
            if m.isAbstract then emit (.modifierRepeated w) sp
            else if m.isOverride then emit (.modifierOrder w "override") sp
            else if m.isReadonly then emit (.modifierOrder w "readonly") sp
            return .inl ({ h with modifiers := { m with isAbstract := true } }, at_)
        | "override" =>
            if m.isOverride then emit (.modifierRepeated w) sp
            else if m.isReadonly then emit (.modifierOrder w "readonly") sp
            else if m.isDeclare then emit (.modifierWith w "declare") sp
            else if !(← ctx).hasSuperClass then emit .overrideOutside sp
            return .inl ({ h with modifiers := { m with isOverride := true } }, at_)
        | "readonly" =>
            if m.isReadonly then emit (.modifierRepeated w) sp
            return .inl ({ h with modifiers := { m with isReadonly := true } }, at_)
        | _ =>
            if m.isOverride then emit (.modifierOrder w "override") sp
            return .inl ({ h with modifiers := { m with isStatic := true } }, at_)

def constructorRest (h : MemberHead) (key : Ast) : P Ast := do
  let ts ← isTypeScript
  let m := h.modifiers
  if ts && m.isOverride then emit (.constructorModifier "override") (← spanFrom h.lo)
  if ts && (← isP (.binary .lt)) then
    let tps ← goal (.typeParams false true)
    tps.parts.forM fun p => emit .constructorTypeParams p.span
  let params ← withCtx (fun c =>
    { c with inParameters := true, inFunction := false, inAsync := false, inGenerator := false }) do
    expectP .lparen
    let ps ← constructorParams
    expectP .rparen
    return ps
  if ts && (← isP .colon) then
    let t ← optTypeAnn
    emit .constructorReturn t.span
  let body ← functionBody false false params.items
  if body.isAbsent then
    params.items.forM fun p => do
      if let .paramProp _ := p.shape then emit .parameterProperty p.span
  if m.isStatic then emit (.constructorModifier "static") ⟨h.lo, h.lo⟩
  mk (.ctor m) h.lo [key, params, body]

/-- A member behind `static`, `declare` and `accessor`. -/
def memberRest (h : MemberHead) (isAccessor : Bool) : P Ast := do
  let (h, modifierAt) ← memberModifiers h
  let isAccessor ← do
    if isAccessor then pure true
    else if (← isTypeScript) && !h.modifiers.isReadonly && (← isW "accessor") then
      let next ← peek
      match next.token with
      | .word .. | .str .. | .num _ | .punct .lbrack | .punct .hash =>
          if next.lineBreak then pure false
          else
            let _ ← bump
            pure true
      | _ => pure false
    else pure false
  if h.modifiers.isStatic && (← isP .lbrace) then
    if let some sp := modifierAt then emit .modifierHere sp
    return ← staticBlock h.lo
  let m := h.modifiers
  if (← isTypeScript) && !m.isAbstract && !m.isOverride && m.access.isNone then
    if let some t ← indexSignature? h.lo m then return t
  if ← eatP (.binary .mul) then
    let key ← classKey
    if h.modifiers.isReadonly then emit .readonlyMethod (← spanFrom h.lo)
    if isConstructorKey key then emit .generatorConstructor (← spanFrom h.lo)
    return ← mkMethod h key .method false true key.span
  let key ← do
    if h.modifiers.isReadonly && (← isAnyP [.bang, .colon]) then
      pure (Ast.node (.plainName "readonly") (← prevSpan) [])
    else classKey
  let isOptional ← if ← isTypeScript then eatP .question else pure false
  let h := { h with modifiers := { h.modifiers with isOptional } }
  if ← isMethodStart then
    if h.modifiers.isDeclare then emit .declareMember ⟨h.lo, h.lo⟩
    if h.modifiers.isReadonly then emit .readonlyMethod (← spanFrom h.lo)
    if isConstructorKey key && !h.modifiers.isStatic then return ← constructorRest h key
    return ← mkMethod h key .method false false key.span
  let nextLineStar := (← hadBreak) && (← isP (.binary .mul))
  let word := match key.shape with
    | .plainName n => n
    | _ => ""
  let isGetSet := (word == "get" || word == "set") && !(← isFieldEnd false) && !nextLineStar
  if !isGetSet && (← isFieldEnd true) then return ← mkField h key isAccessor
  if word == "async" && !(← hadBreak) then
    let star ← eatP (.binary .mul)
    let name ← classKey
    if isConstructorKey name then emit .asyncConstructor name.span
    if h.modifiers.isReadonly then emit .readonlyMethod (← spanFrom h.lo)
    let opt ← if ← isTypeScript then eatP .question else pure false
    let h := { h with modifiers := { h.modifiers with isOptional := isOptional || opt } }
    return ← mkMethod h name .method true star name.span
  if isGetSet then
    let name ← classKey
    if h.modifiers.isReadonly then emit .readonlyAccessor key.span
    if isConstructorKey name then emit .constructorAccessor key.span
    return ← mkMethod h name (if word == "get" then .getter else .setter) false false key.span
  unexpected "* for generator, private key, identifier or async"

def wordNamed? (h : MemberHead) (word : String) (sp : Span) (asi : Bool) : P (Option Ast) := do
  let key := Ast.node (.plainName word) sp []
  if ← isMethodStart then return some (← mkMethod h key .method false false key.span)
  let opt := (← isTypeScript) && (← isP .question)
  if (← isFieldEnd asi) || opt then
    let isOptional ← if opt then eatP .question else pure false
    let h := { h with modifiers := { h.modifiers with isOptional } }
    if ← isMethodStart then return some (← mkMethod h key .method false false key.span)
    return some (← mkField h key false)
  return none

def classMember : P Ast := do
  let lo ← curPos
  let ds ← decorators false
  let ts ← isTypeScript
  let declareFirst ← if ts then eatW "declare" else pure false
  let access ← if ts then accessModifier else pure none
  let isDeclare ← if declareFirst then pure true else if ts then eatW "declare" else pure false
  let h : MemberHead := ⟨lo, ds, { access }⟩
  if isDeclare then
    if let some t ← wordNamed? h "declare" (← prevSpan) true then return t
  let h := { h with modifiers := { h.modifiers with isDeclare } }
  if ← isW "static" then
    let _ ← bump
    let sp ← prevSpan
    unless ← isP .lbrace do
      if let some t ← wordNamed? h "static" sp false then return t
    memberRest { h with modifiers := { h.modifiers with isStatic := true } } false
  else memberRest h false

def classMembers : P (List Ast) :=
  iterate (([], false) : List Ast × Bool) fun (out, seen) => do
    if (← isEof) || (← isP .rbrace) then return .inr out.reverse
    if ← isP .semi then
      let _ ← bump
      return .inl (.node .emptyMember (← prevSpan) [] :: out, seen)
    let m ← withCtx (fun c => { c with allowSuper := true, inClassField := false }) classMember
    let seen ← match m with
      | .node (.ctor _) sp [_, _, body] => do
          if body.isAbsent || (← ctx).inDeclare then pure seen
          else
            if seen then emit .duplicateConstructor sp
            pure true
      | _ => pure seen
    return .inl (m :: out, seen)

def superClass : P (Ast × Ast) := do
  let e ← goal .lhs
  match e with
  | .node .instantiation _ [x, args] => return (x, args)
  | e =>
      let args ← if (← isTypeScript) && (← isP (.binary .lt)) then goal .typeArgs else pure .absent
      return (e, args)

/-- A class from its word on, with the decorators read before it. -/
def classRest (lo : Nat) (nameRequired : Bool) (ds : List Ast) : P Ast := do
  let ds ← if ← isP .atSign then decorators false else pure ds
  let start ← curPos
  withCtx (fun c => { c with strict := true }) do
    expectW "class"
    let name ← optBindingIdent nameRequired true
    let ts ← isTypeScript
    if ts && ["any", "unknown", "never", "boolean", "string", "number", "bigint", "symbol",
        "object", "void", "null", "undefined"].contains (nameText name) then
      emit .invalidClassName name.span
    let tps ← optTypeParams true true
    let (sup, supArgs) ← do
      if ← eatW "extends" then
        let r ← superClass
        if ← onlyIf ts (eatP .comma) then
          let more ← heritage
          more.forM fun e => emit .manySuperclasses e.span
        pure r
      else pure (.absent, .absent)
    if ← eatW "extends" then
      emit .classExtendsTwice (← prevSpan)
      let _ ← superClass
    let impls ← if ← onlyIf ts (eatW "implements") then heritage else pure []
    if ← onlyIf ts (eatW "implements") then
      emit .implementsTwice (← prevSpan)
      let _ ← heritage
    let (sup, supArgs) ← do
      if ← onlyIf ts (eatW "extends") then
        emit .extendsAfterImplements (← prevSpan)
        let r ← superClass
        pure (if sup.isAbsent then r else (sup, supArgs))
      else pure (sup, supArgs)
    expectP .lbrace
    let members ← withCtx (fun c =>
      { c with inClass := true, hasSuperClass := !sup.isAbsent }) classMembers
    if ← isEof then emit (.expected "\x7d" "<eof>") (← curSpan) else expectP .rbrace
    let body ← mk (.classBody false) start
      [.group ds, .group members, sup, tps, supArgs, .group impls]
    mk .classExpr lo [name, body]

def markAbstract : Ast → Ast
  | .node s sp [name, .node (.classBody _) bsp ps] =>
      .node s sp [name, .node (.classBody true) bsp ps]
  | t => t

end Inlay.Syntax.P
