import Inlay.Syntax.Grammar.Type

/-! # Markup

    Elements and fragments between angle brackets.  Inside a tag and between tags the text is read
    by its own rules, so the readers here say for every step how the next token is to be read. -/

namespace Inlay.Syntax.P

def tagBump : P Unit := advance Cursor.tagToken

def contentBump : P Unit := advance Cursor.content

def jsxIdent : P Ast := do
  let lo ← curPos
  match ← need with
  | .jsxName n =>
      tagBump
      mk (.ident n .unset false) lo []
  | t => failHere (.jsxIdentifierExpected t.describe)

def jsxNamespacedName : P Ast := do
  let lo ← curPos
  let ns ← jsxIdent
  if ← isP .colon then
    tagBump
    let name ← jsxIdent
    mk .jsxNamespaced lo [ns, name]
  else return ns

def jsxElementName : P Ast := do
  let lo ← curPos
  let base ← jsxNamespacedName
  iterate base fun obj => do
    if ← isP .dot then
      tagBump
      let prop ← jsxIdent
      return .inl (← mk .jsxMember lo [obj, prop])
    else return .inr obj

def jsxNameText : Ast → String
  | .node (.ident n _ _) _ _ => n
  | .node .jsxMember _ [a, .node (.ident n _ _) _ _] => jsxNameText a ++ "." ++ n
  | .node .jsxNamespaced _ [.node (.ident a _ _) _ _, .node (.ident b _ _) _ _] => a ++ ":" ++ b
  | _ => ""

/-- An expression between braces; the brace that ends it stays current. -/
def jsxBraced : P Ast := do
  let lo ← curPos
  let _ ← bump
  if ← isP .ellipsis then
    let _ ← bump
    let e ← withIn true (goal .expr)
    unless ← isP .rbrace do expectText "\x7d"
    return .node .jsxSpreadChild ⟨lo, (← curSpan).hi⟩ [e]
  let inner ←
    if ← isP .rbrace then do
      let at_ := (← prevSpan).hi
      pure (Ast.node .jsxEmpty ⟨at_, ← curPos⟩ [])
    else withIn true (goal .expr)
  unless ← isP .rbrace do expectText "\x7d"
  return .node .jsxContainer ⟨lo, (← curSpan).hi⟩ [inner]

def jsxAttrValue : P Ast := do
  let lo ← curPos
  match ← need with
  | .punct .lbrace =>
      let e ← outOfType jsxBraced
      if let .node .jsxContainer _ [.node .jsxEmpty ..] := e then
        tagBump
        fail .emptyJsxAttr (← spanFrom lo)
      tagBump
      return e
  | .str _ raw =>
      tagBump
      mk (.jsxString raw) lo []
  | .punct (.binary .lt) => goal (.markup true)
  | _ => failHere .invalidJsxValue

def jsxAttr : P Ast := do
  let lo ← curPos
  if ← isP .lbrace then
    let _ ← bump
    expectP .ellipsis
    let e ← goal .assign
    unless ← isP .rbrace do expectText "\x7d"
    tagBump
    mk .spread lo [e]
  else
    let name ← jsxNamespacedName
    if ← isP (.assign .set) then
      tagBump
      let value ← withCtx (fun c => { c with inCond := false, expectColon := false }) jsxAttrValue
      mk .jsxAttr lo [name, value]
    else mk .jsxAttr lo [name, .absent]

/-- What an opening tag holds. -/
structure Opening where
  tree : Ast
  name : Ast
  selfClosing : Bool

/-- An opening tag; the current token is its `<`. -/
def jsxOpening : P Opening := do
  let lo ← curPos
  tagBump
  if (← cur) == .jsxEnd then
    return ⟨.absent, .absent, false⟩
  let name ← jsxElementName
  let args ←
    if (← isTypeScript) && (← isP (.binary .lt)) then
      pure ((← attempt (do return some (← typeArgsThen tagBump))).getD .absent)
    else pure .absent
  let attrs ← collect (do
    let t ← cur
    return !(t == .eof || t == .jsxEnd || t == .punct (.binary .div))) jsxAttr
  let selfClosing ← do
    if ← isP (.binary .div) then
      tagBump
      pure true
    else pure false
  if (← cur) != .jsxEnd then unexpected "> (jsx closing tag)"
  let sp : Span := ⟨lo, (← curSpan).hi⟩
  return ⟨.node (.jsxOpening selfClosing) sp [name, .group attrs, args], name, selfClosing⟩

/-- A closing tag behind `</`; its `>` stays current. -/
def jsxClosing (lo : Nat) : P Ast := do
  if (← cur) == .jsxEnd then return .absent
  let name ← jsxElementName
  if (← cur) != .jsxEnd then unexpected "> (jsx closing tag)"
  return .node .jsxClosing ⟨lo, (← curSpan).hi⟩ [name]

/-- An element with its content; the current token is its `<`, and the tag's `>` stays current. -/
def jsxElement : Nat → P Ast
  | 0 => failHere .expressionExpected
  | fuel + 1 => do
      let lo ← curPos
      let opening ← jsxOpening
      if opening.selfClosing then
        return .node .jsxElement ⟨lo, (← curSpan).hi⟩ [opening.tree, .group [], .absent]
      contentBump
      let (children, closing) ← iterate ([] : List Ast) fun out => do
        let at_ ← curPos
        match ← need with
        | .jsxStart =>
            match (← get).after.tagToken.token with
            | .punct (.binary .div) =>
                tagBump
                tagBump
                let closing ← jsxClosing at_
                return .inr (out.reverse, closing)
            | _ =>
                let child ← jsxElement fuel
                contentBump
                return .inl (child :: out)
        | .jsxText raw =>
            let sp ← curSpan
            contentBump
            return .inl (.node (.jsxText raw) sp [] :: out)
        | .punct .lbrace =>
            let e ← jsxBraced
            contentBump
            return .inl (e :: out)
        | _ => unexpected "< (jsx tag start), jsx text or \x7b"
      let sp : Span := ⟨lo, (← curSpan).hi⟩
      match opening.tree.isAbsent, closing with
      | true, .absent => return .node .jsxFragment sp [.group children]
      | true, c => fail .jsxFragmentClosing c.span
      | false, .node .jsxClosing csp [name] =>
          if jsxNameText name != jsxNameText opening.name then
            fail (.jsxClosing (jsxNameText opening.name)) csp
          return .node .jsxElement sp [opening.tree, .group children, closing]
      | false, c => fail (.jsxClosing (jsxNameText opening.name)) ⟨c.span.lo, c.span.hi⟩

/-- An element that is an expression or, with `inTag`, the value of an attribute, behind which its
    tag goes on. -/
def markup (inTag : Bool) : P Ast := do
  let t ← outOfType (do jsxElement (← read).size)
  if inTag then tagBump
  else let _ ← bump
  return t

end Inlay.Syntax.P
