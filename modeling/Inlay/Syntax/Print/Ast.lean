import Inlay.Syntax.Print.Writer

/-! # Writing trees

    Every construct has one layout: statements end their line, lists of array elements and
    properties take a line each, everything else stays on its line.  `again` writes a part, so the
    layout of a node is an ordinary function of how its parts are written. -/

namespace Inlay.Syntax

namespace W

/-- Writes items with a separator between them. -/
def joined (again : Ast → W Unit) (sep : W Unit) : List Ast → W Unit
  | [] => return
  | [t] => again t
  | t :: ts => do
      again t
      sep
      joined again sep ts

/-- Writes items with nothing between them. -/
def each (again : Ast → W Unit) (ts : List Ast) : W Unit := joined again (return) ts

def commaSpace : W Unit := put ", "

def commaList (again : Ast → W Unit) (ts : List Ast) : W Unit := joined again commaSpace ts

/-- Items on lines of their own, one level deeper. -/
def lines (again : Ast → W Unit) (sep : W Unit) (ts : List Ast) : W Unit := do
  newLine
  indented (joined again (do sep; newLine) ts)
  newLine

def opt (again : Ast → W Unit) (t : Ast) : W Unit :=
  if t.isAbsent then return else again t

def behind (s : String) (again : Ast → W Unit) (t : Ast) : W Unit := do
  put s
  again t

/-- Writes text and a part unless the part is missing. -/
def optAfter (s : String) (again : Ast → W Unit) (t : Ast) : W Unit := opt (behind s again) t

def parenthesized (again : Ast → W Unit) (t : Ast) : W Unit := do
  put "("
  again t
  put ")"

def optList (again : List Ast → W Unit) (ts : List Ast) : W Unit :=
  if ts.isEmpty then return else again ts

def commaListAfter (s : String) (again : Ast → W Unit) (ts : List Ast) : W Unit := do
  put s
  commaList again ts

def isSpread (t : Ast) : Bool :=
  match t.shape with
  | .spread => true
  | _ => false

def isBlock (t : Ast) : Bool :=
  match t.shape with
  | .block => true
  | _ => false

/-- Whether leaving the expression's left end uncovered would hide a comment behind a line end. -/
def startsWithComment : Ast → W Bool
  | .node s sp parts => do
      if ← hasLeading sp.lo then return true
      match s, parts with
      | .call, t :: _ | .member, t :: _ | .optMember _, t :: _ | .optCall _, t :: _
      | .binary _, t :: _ | .cond, t :: _ | .assign _, t :: _ | .seq, t :: _
      | .tagged, t :: _ => startsWithComment t
      | .update _ false, t :: _ => startsWithComment t
      | _, _ => return false

/-- Writes an argument behind a word, in parentheses if a comment stands before it. -/
def operand (again : Ast → W Unit) (t : Ast) : W Unit := do
  let covered ← startsWithComment t
  put (if covered then "(" else " ")
  again t
  flag covered ")"

/-- A number whose text needs a second point before a member name. -/
def needsPoint : Ast → Bool
  | .node (.num raw) _ _ =>
      raw.all (fun c => '0' ≤ c && c ≤ '9') && !(raw.length ≥ 2 && raw.startsWith "0")
  | _ => false

/-- Whether a blank must part a sign from its operand. -/
def clashes (op : UnaryOp) (arg : Ast) : Bool :=
  match op, arg.shape with
  | .plus, .unary .plus => true
  | .plus, .update true true => true
  | .minus, .unary .minus => true
  | .minus, .update false true => true
  | _, _ => false

def modifierText (m : Modifiers) : W Unit := do
  if let some a := m.access then put (a.text ++ " ")

def nameText (t : Ast) : W Unit :=
  match t.shape with
  | .ident name _ isOptional => put (if isOptional then name ++ "?" else name)
  | .plainName name => put name
  | .str _ raw | .num raw | .bigint raw => put raw
  | _ => return

/-- A name or literal where no expression stands: comments after it are not written. -/
def bare (t : Ast) : W Unit := do
  leading t.span.lo
  nameText t

def isName (t : Ast) : Bool :=
  match t.shape with
  | .ident .. | .plainName _ | .str .. | .num _ | .bigint _ => true
  | _ => false

def key (again : Ast → W Unit) (t : Ast) : W Unit := if isName t then bare t else again t

def isVarDecl (t : Ast) : Bool :=
  match t.shape with
  | .varDecl .. => true
  | _ => false

/-- A statement or item with the end of its line; a block has none. -/
def item (again : Ast → W Unit) (t : Ast) : W Unit := do
  again t
  if isBlock t then return
  flag (isVarDecl t) ";"
  trailing t.span.hi
  newLine

def items (again : Ast → W Unit) (ts : List Ast) : W Unit := joined (item again) newLine ts

/-! ## Pieces -/

def annotated (again : Ast → W Unit) (ty : Ast) : W Unit := optAfter ": " again ty

def arguments (again : Ast → W Unit) (args : Ast) : W Unit := do
  put "("
  commaList again args.items
  put ")"

def itemLines (again : Ast → W Unit) (ts : List Ast) : W Unit := do
  newLine
  indented (items again ts)

def innerLines (again : Ast → W Unit) (ts : List Ast) : W Unit := do
  itemLines again ts
  newLine

/-- The lines of a block; comments before its closing brace are on a line of their own. -/
def blockLines (again : Ast → W Unit) (sp : Span) (stmts : List Ast) : W Unit := do
  if stmts.isEmpty then
    let hasInner ← hasLeading (sp.hi - 1)
    given (!sp.isNone && hasInner) newLine
  else innerLines again stmts

def blockBody (again : Ast → W Unit) (sp : Span) (stmts : List Ast) : W Unit := do
  leading sp.lo
  put "\x7b"
  blockLines again sp stmts
  given (!sp.isNone) (leading (sp.hi - 1))
  put "\x7d"

/-- A part of a node of some kind; another node has none. -/
def partIf (isKind : Ast → Bool) (t : Ast) (i : Nat) : Ast :=
  if isKind t then t.part i else .absent

def isFunction (t : Ast) : Bool :=
  match t.shape with
  | .function .. => true
  | _ => false

abbrev functionPart (f : Ast) (i : Nat) : Ast := partIf isFunction f i

def functionTail (again : Ast → W Unit) (f : Ast) : W Unit := do
  opt again (functionPart f 3)
  arguments again (functionPart f 0)
  annotated again (functionPart f 4)
  flag (functionPart f 2).isAbsent ";"
  optAfter " " again (functionPart f 2)

def functionWords (word after : String) (f : Ast) : W Unit :=
  match f.shape with
  | .function isAsync isGenerator => do
      flag isAsync "async "
      put word
      flag isGenerator "*"
      put after
  | _ => return

def ownLine (again : Ast → W Unit) (t : Ast) : W Unit := do
  newLine
  again t
  newLine

def decoratorLines (again : Ast → W Unit) (ds : List Ast) : W Unit := each (ownLine again) ds

def isClassBody (t : Ast) : Bool :=
  match t.shape with
  | .classBody _ => true
  | _ => false

abbrev classPart (c : Ast) (i : Nat) : Ast := partIf isClassBody c i

def classTail (again : Ast → W Unit) (c : Ast) : W Unit := do
  optAfter " extends " again (classPart c 2)
  opt again (classPart c 4)
  optList (commaListAfter " implements " again) (classPart c 5).items
  put " \x7b"
  newLine
  indented (joined again newLine (classPart c 1).items)
  newLine
  put "\x7d"

def isAbstractClass (c : Ast) : Bool :=
  match c.shape with
  | .classBody a => a
  | _ => false

def classText (again : Ast → W Unit) (name c : Ast) (withDecorators : Bool) : W Unit := do
  given withDecorators (decoratorLines again (classPart c 0).items)
  flag (isAbstractClass c) "abstract "
  put "class"
  optAfter " " bare name
  opt again (classPart c 3)
  classTail again c

def memberWords (m : Modifiers) : W Unit := do
  flag m.isDeclare "declare "
  modifierText m
  flag m.isStatic "static "
  flag m.isAbstract "abstract "
  flag m.isOverride "override "
  flag m.isReadonly "readonly "

def fieldText (again : Ast → W Unit) (m : Modifiers) (word : String) (t : Ast) : W Unit := do
  decoratorLines again (t.part 3).items
  memberWords m
  put word
  key again (t.part 0)
  flag m.isOptional "?"
  flag m.isDefinite "!"
  annotated again (t.part 2)
  optAfter " = " again (t.part 1)
  put ";"

def kindWords (kind : MethodKind) (f : Ast) : W Unit :=
  match kind with
  | .method => functionWords "" "" f
  | .getter => put "get "
  | .setter => put "set "

def methodText (again : Ast → W Unit) (kind : MethodKind) (m : Modifiers) (t : Ast) : W Unit := do
  leading (t.part 0).span.lo
  decoratorLines again (functionPart (t.part 1) 1).items
  memberWords m
  kindWords kind (t.part 1)
  key again (t.part 0)
  flag m.isOptional "?"
  functionTail again (t.part 1)

def templateText (again : Ast → W Unit) : List String → List Ast → W Unit
  | [], _ => return
  | q :: qs, [] => do
      put q
      templateText again qs []
  | q :: qs, e :: es => do
      put q
      put "$\x7b"
      again e
      put "\x7d"
      templateText again qs es

def bracedNames (again : Ast → W Unit) (ts : List Ast) : W Unit := do
  put "\x7b "
  commaList again ts
  flag (!ts.isEmpty) " "
  put "\x7d"

def sourceText (again : Ast → W Unit) (src attrs : Ast) : W Unit := do
  bare src
  optAfter " with " again attrs

def isStarSpec (t : Ast) : Bool :=
  match t.shape with
  | .exportStarAs => true
  | _ => false

def isNamedImport (t : Ast) : Bool :=
  match t.shape with
  | .importNamed _ => true
  | _ => false

def importText (again : Ast → W Unit) (typeOnly : Bool) (specs : List Ast) (src attrs : Ast) :
    W Unit := do
  put "import "
  flag typeOnly "type "
  let named := specs.filter isNamedImport
  let others := specs.filter (!isNamedImport ·)
  commaList again others
  flag (!others.isEmpty && !named.isEmpty) ", "
  optList (bracedNames again) named
  flag (!specs.isEmpty) " from "
  sourceText again src attrs
  put ";"

def exportText (again : Ast → W Unit) (typeOnly : Bool) (specs : List Ast) (src attrs : Ast) :
    W Unit := do
  put "export "
  flag typeOnly "type "
  let stars := specs.filter isStarSpec
  let named := specs.filter (!isStarSpec ·)
  commaList again stars
  flag (!stars.isEmpty && !named.isEmpty) ", "
  given (stars.isEmpty && named.isEmpty) (bracedNames again [])
  optList (bracedNames again) named
  flag (!specs.isEmpty && !src.isAbsent) " "
  optAfter "from " bare src
  optAfter " with " again attrs
  put ";"

def mappedMark (m : MappedMark) (s : String) : W Unit :=
  match m with
  | .absent => return
  | .present => put s
  | .plus => put ("+" ++ s)
  | .minus => put ("-" ++ s)

def signatureText (again : Ast → W Unit) (params ret tps : Ast) (colon : String) : W Unit := do
  opt again tps
  arguments again params
  optAfter colon again ret

def computedKey (again : Ast → W Unit) (isComputed : Bool) (name : Ast) : W Unit := do
  if isComputed then
    put "["
    again name
    put "]"
  else key again name

/-! ## Nodes -/

def isTypeParam (t : Ast) : Bool :=
  match t.shape with
  | .typeParam .. => true
  | _ => false

def labelText (again : Ast → W Unit) (name : Ast) : W Unit := do
  key again name
  put ": "

def typeText (again : Ast → W Unit) (t : Ast) : W Unit := do
  match t.shape, t.parts with
  | .typeAnn, [ty] => again ty
  | .typeArgs, ts | .typeParams, ts =>
      put "<"
      commaList again ts
      put ">"
  | .typeParam isConst isIn isOut, [name, constraint, default_] =>
      flag isConst "const "
      flag isIn "in "
      flag isOut "out "
      bare name
      optAfter " extends " again constraint
      optAfter " = " again default_
  | .keywordType name, _ => put name
  | .thisType, _ => put "this"
  | .fnType, [params, tps, ret] =>
      opt again tps
      arguments again params
      put " => "
      again ret
  | .constructorType isAbstract, [params, tps, ret] =>
      flag isAbstract "abstract "
      put "new"
      opt again tps
      arguments again params
      put " => "
      again ret
  | .typeRef, [name, args] =>
      key again name
      opt again args
  | .qualifiedName, [l, r] =>
      key again l
      put "."
      bare r
  | .typeQuery, [name, args] =>
      put "typeof "
      key again name
      opt again args
  | .typeLiteral, ts | .interfaceBody, ts =>
      put "\x7b"
      newLine
      indented (joined again newLine ts)
      newLine
      put "\x7d"
  | .arrayType, [e] =>
      again e
      put "[]"
  | .tupleType, ts =>
      put "["
      commaList again ts
      put "]"
  | .tupleElement, [label, ty] =>
      opt (labelText again) label
      again ty
  | .optionalType, [e] =>
      again e
      put "?"
  | .restType, [e] =>
      put "..."
      again e
  | .unionType, ts => joined again (put " | ") ts
  | .intersectionType, ts => joined again (put " & ") ts
  | .conditionalType, [a, b, c, d] =>
      again a
      put " extends "
      again b
      put " ? "
      again c
      put " : "
      again d
  | .inferType, [p] =>
      put "infer "
      again p
  | .parenType, [e] => parenthesized again e
  | .operatorType op, [e] =>
      put (op ++ " ")
      again e
  | .indexedType, [a, b] =>
      again a
      put "["
      again b
      put "]"
  | .mappedType ro opt_, [param, nameType, ty] =>
      put "\x7b"
      newLine
      indented do
        mappedMark ro "readonly "
        put "["
        bare (partIf isTypeParam param 0)
        put " in "
        again (partIf isTypeParam param 1)
        optAfter " as " again nameType
        put "]"
        mappedMark opt_ "?"
        annotated again ty
        put ";"
        newLine
      put "\x7d"
  | .literalType, [e] => again e
  | .templateType qs, ts =>
      put "`"
      templateText again qs ts
      put "`"
  | .predicateType asserts, [name, ty] =>
      flag asserts "asserts "
      key again name
      optAfter " is " again ty
  | .importType, [arg, qualifier, args] =>
      put "import("
      bare arg
      put ")"
      optAfter "." (key again) qualifier
      opt again args
  | .exprWithTypeArgs, [e, args] =>
      again e
      opt again args
  | .callSignature, [params, ret, tps] =>
      signatureText again params ret tps " : "
      put ";"
  | .constructSignature, [params, ret, tps] =>
      put "new"
      signatureText again params ret tps ": "
      put ";"
  | .propertySignature ro isComputed isOptional, [name, ty] =>
      flag ro "readonly "
      computedKey again isComputed name
      flag isOptional "?"
      annotated again ty
      put ";"
  | .getterSignature isComputed, [name, ty] =>
      put "get "
      computedKey again isComputed name
      put "()"
      annotated again ty
      put ";"
  | .setterSignature isComputed, [name, param] =>
      put "set "
      computedKey again isComputed name
      put "("
      again param
      put ");"
  | .methodSignature isComputed isOptional, [name, params, ret, tps] =>
      computedKey again isComputed name
      flag isOptional "?"
      signatureText again params ret tps ": "
      put ";"
  | .indexSignature m, [params, ty] =>
      flag m.isStatic "static "
      flag m.isReadonly "readonly "
      put "["
      commaList again params.items
      put "]"
      annotated again ty
      put ";"
  | _, _ => return

def markupAttr (again : Ast → W Unit) (t : Ast) : W Unit := do
  flag (isSpread t) "\x7b"
  again t
  flag (isSpread t) "\x7d"

def markupAttrs (again : Ast → W Unit) (ts : List Ast) : W Unit := do
  space
  joined (markupAttr again) space ts

def markupText (again : Ast → W Unit) (t : Ast) : W Unit := do
  match t.shape, t.parts with
  | .jsxElement, [opening, children, closing] =>
      again opening
      each again children.items
      opt again closing
  | .jsxFragment, [children] =>
      put "<>"
      each again children.items
      put "</>"
  | .jsxOpening selfClosing, [name, attrs, args] =>
      put "<"
      key again name
      opt again args
      optList (markupAttrs again) attrs.items
      flag selfClosing "/"
      put ">"
  | .jsxClosing, [name] =>
      put "</"
      key again name
      put ">"
  | .jsxText raw, _ | .jsxString raw, _ => put raw
  | .jsxContainer, [e] =>
      put "\x7b"
      again e
      put "\x7d"
  | .jsxEmpty, _ => return
  | .jsxSpreadChild, [e] =>
      put "\x7b..."
      again e
      put "\x7d"
  | .jsxAttr, [name, value] =>
      key again name
      optAfter "=" again value
  | .jsxMember, [obj, prop] =>
      key again obj
      put "."
      bare prop
  | .jsxNamespaced, [ns, name] =>
      bare ns
      put ":"
      bare name
  | _, _ => return

def endsInHole (ts : List Ast) : Bool :=
  match ts.getLast? with
  | some (.node .hole ..) => true
  | _ => false

def elementLines (again : Ast → W Unit) (ts : List Ast) : W Unit := do
  put "["
  newLine
  indented do
    joined again (do put ","; newLine) ts
    flag (endsInHole ts) ", "
  newLine
  put "]"

def propertyLines (again : Ast → W Unit) (ts : List Ast) : W Unit := do
  put "\x7b"
  lines (key again) (put ",") ts
  put "\x7d"

def patternNames (again : Ast → W Unit) (ts : List Ast) : W Unit :=
  if ts.isEmpty then put "\x7b\x7d" else bracedNames again ts

def isComputed (t : Ast) : Bool :=
  match t.shape with
  | .computed => true
  | _ => false

def isPlainName (t : Ast) : Bool :=
  match t.shape with
  | .plainName _ | .privateName _ => true
  | _ => false

def memberDot (obj prop : Ast) : W Unit := do
  flag (needsPoint obj) "."
  given (isPlainName prop) (leading (prop.span.lo - 1))
  put "."

def memberName (again : Ast → W Unit) (obj prop : Ast) : W Unit := do
  given (!isComputed prop) (memberDot obj prop)
  again prop

def resultType (again : Ast → W Unit) (ty : Ast) : W Unit := do
  annotated again ty
  space

/-- What parts an optional chain's object from its member. -/
def chainDot (optional : Bool) (prop : Ast) : W Unit :=
  if optional then put "?." else flag (!isComputed prop) "."

def exprText (again : Ast → W Unit) (t : Ast) : W Unit := do
  match t.shape, t.parts with
  | .ident name _ isOptional, parts =>
      put name
      flag isOptional "?"
      each (annotated again) parts
  | .plainName name, _ => put name
  | .privateName name, _ => put ("#" ++ name)
  | .null, _ => put "null"
  | .bool b, _ => put (if b then "true" else "false")
  | .num raw, _ | .bigint raw, _ | .str _ raw, _ => put raw
  | .regex p f, _ => put ("/" ++ p ++ "/" ++ f)
  | .thisRef, _ => put "this"
  | .superRef, _ => put "super"
  | .importRef, _ => put "import"
  | .newTarget, _ => put "new.target"
  | .importMeta, _ => put "import.meta"
  | .template qs, es =>
      put "`"
      templateText again qs es
      put "`"
  | .tagged, [tag, args, tpl] =>
      again tag
      opt again args
      again tpl
  | .array, ts => if ts.isEmpty then put "[]" else elementLines again ts
  | .hole, _ => return
  | .spread, [e] =>
      put "..."
      again e
  | .object, ts => if ts.isEmpty then put "\x7b\x7d" else propertyLines again ts
  | .keyValue, [name, value] =>
      labelText again name
      again value
  | .assignProp, [name, value] =>
      bare name
      put " = "
      again value
  | .getter, [name, ty, body] =>
      put "get "
      key again name
      put " ()"
      annotated again ty
      space
      again body
  | .setter, [name, param, body] =>
      put "set "
      key again name
      put " ("
      again param
      put ")"
      again body
  | .methodProp, [name, f] =>
      functionWords "" "" f
      key again name
      space
      functionTail again f
  | .computed, [e] =>
      put "["
      again e
      put "]"
  | .fnExpr, [name, f] =>
      functionWords "function" "" f
      optAfter " " bare name
      functionTail again f
  | .arrow isAsync hasBlock, [params, body, tps, ret] =>
      flag isAsync "async "
      opt again tps
      arguments again params
      opt (resultType again) ret
      put "=>"
      if hasBlock then again body else indented (again body)
  | .classExpr, [name, c] => classText again name c true
  | .unary op, [e] =>
      put op.text
      flag (op.isWord || clashes op e) " "
      again e
  | .update isIncrement isPrefix, [e] =>
      flag isPrefix (if isIncrement then "++" else "--")
      again e
      flag (!isPrefix) (if isIncrement then "++" else "--")
  | .binary op, [l, r] =>
      again l
      put (" " ++ op.text ++ " ")
      again r
  | .assign op, [l, r] =>
      again l
      put (" " ++ op.text ++ " ")
      again r
  | .cond, [a, b, c] =>
      again a
      put " ? "
      again b
      put " : "
      again c
  | .call, [callee, args, typeArgs] =>
      again callee
      opt again typeArgs
      arguments again args
  | .new, [callee, args, typeArgs] =>
      put "new "
      again callee
      opt again typeArgs
      opt (arguments again) args
  | .member, [obj, prop] =>
      again obj
      memberName again obj prop
  | .optMember optional, [obj, prop] =>
      again obj
      chainDot optional prop
      again prop
  | .optCall optional, [callee, args, typeArgs] =>
      again callee
      flag optional "?."
      opt again typeArgs
      arguments again args
  | .seq, ts => commaList again ts
  | .yield delegate, [arg] =>
      put "yield"
      flag delegate "*"
      opt (operand again) arg
  | .await, [e] =>
      put "await "
      again e
  | .paren, [e] => parenthesized again e
  | .asExpr, [e, ty] =>
      again e
      put " as "
      again ty
  | .asConst, [e] =>
      again e
      put " as const"
  | .satisfies, [e, ty] =>
      again e
      put " satisfies "
      again ty
  | .nonNull, [e] =>
      again e
      put "!"
  | .typeAssertion, [e, ty] =>
      put "<"
      again ty
      put ">"
      again e
  | .instantiation, [e, args] =>
      again e
      again args
  | .arrayPat isOptional, [elems, ty] =>
      put "["
      commaList again elems.items
      put "]"
      flag isOptional "?"
      annotated again ty
  | .objectPat isOptional, [props, ty] =>
      patternNames again props.items
      flag isOptional "?"
      annotated again ty
  | .keyValuePat, [name, value] =>
      labelText again name
      again value
  | .assignPropPat, [name, value] =>
      bare name
      optAfter " = " again value
  | .assignPat, [l, r] =>
      again l
      put " = "
      again r
  | .rest, [arg, ty] =>
      put "..."
      again arg
      annotated again ty
  | _, _ => return

def memberText (again : Ast → W Unit) (t : Ast) : W Unit := do
  match t.shape, t.parts with
  | .param, [ds, pat] =>
      decoratorLines again ds.items
      again pat
  | .paramProp m, [ds, pat] =>
      decoratorLines again ds.items
      modifierText m
      flag m.isOverride "override "
      flag m.isReadonly "readonly "
      again pat
  | .decorator, [e] =>
      put "@"
      again e
  | .ctor m, [_, params, body] =>
      modifierText m
      put "constructor("
      commaList again params.items
      put ")"
      flag body.isAbsent ";"
      opt again body
  | .method kind m, _ => methodText again kind m t
  | .field m, _ => fieldText again m "" t
  | .accessor m, _ => fieldText again m "accessor " t
  | .staticBlock, [b] =>
      put "static"
      again b
  | .emptyMember, _ => put ";"
  | _, _ => return

def isNestedNamespace (t : Ast) : Bool :=
  match t.shape with
  | .nestedNamespace => true
  | _ => false

def namespaceBody (again : Ast → W Unit) (t : Ast) : W Unit := do
  flag (!isNestedNamespace t) " "
  again t

def declText (again : Ast → W Unit) (t : Ast) : W Unit := do
  match t.shape, t.parts with
  | .varDecl kind isDeclare, ds =>
      flag isDeclare "declare "
      put (kind.text ++ " ")
      commaList again ds
  | .usingDecl isAwait, ds =>
      flag isAwait "await "
      put "using "
      commaList again ds
  | .declarator isDefinite, [name, init] =>
      again name
      flag isDefinite "!"
      optAfter " = " again init
  | .fnDecl isDeclare, [name, f] =>
      flag isDeclare "declare "
      functionWords "function" " " f
      bare name
      functionTail again f
  | .classDecl isDeclare, [name, c] =>
      flag isDeclare "declare "
      classText again name c true
  | .interfaceDecl isDeclare, [id, tps, ext, body] =>
      flag isDeclare "declare "
      put "interface "
      bare id
      opt again tps
      optList (commaListAfter " extends " again) ext.items
      space
      again body
  | .typeAlias isDeclare, [id, tps, ty] =>
      flag isDeclare "declare "
      put "type "
      bare id
      opt again tps
      put " = "
      again ty
      put ";"
  | .enumDecl isDeclare isConst, [id, members] =>
      flag isDeclare "declare "
      flag isConst "const "
      put "enum "
      bare id
      put " \x7b"
      lines again (put ",") members.items
      put "\x7d"
  | .enumMember, [id, init] =>
      key again id
      optAfter " = " again init
  | .namespaceDecl isDeclare isGlobal isNamespace, [id, body] =>
      flag isDeclare "declare "
      flag (!isGlobal) (if isNamespace then "namespace " else "module ")
      bare id
      flag body.isAbsent ";"
      opt (namespaceBody again) body
  | .nestedNamespace, [id, body] =>
      put "."
      bare id
      namespaceBody again body
  | .moduleBlock, ts =>
      put "\x7b"
      innerLines again ts
      put "\x7d"
  | _, _ => return

def elseText (again : Ast → W Unit) (cons alt : Ast) : W Unit := do
  flag (isBlock cons) " "
  put "else "
  item again alt

/-- Writes the text of a statement, without the end of its line. -/
def stmtText (again : Ast → W Unit) (t : Ast) : W Unit := do
  match t.shape, t.parts with
  | .block, ts => blockBody again t.span ts
  | .emptyStmt, _ => put ";"
  | .debuggerStmt, _ => put "debugger;"
  | .withStmt, [obj, body] =>
      put "with ("
      again obj
      put ")"
      item again body
  | .returnStmt, [arg] =>
      put "return"
      opt (operand again) arg
      put ";"
  | .labeled, [label, body] =>
      bare label
      put ": "
      item again body
  | .breakStmt, [label] =>
      put "break"
      optAfter " " bare label
      put ";"
  | .continueStmt, [label] =>
      put "continue"
      optAfter " " bare label
      put ";"
  | .ifStmt, [test, cons, alt] =>
      put "if ("
      again test
      put ") "
      item again cons
      opt (elseText again cons) alt
  | .switchStmt, [disc, cases] =>
      put "switch("
      again disc
      put ")\x7b"
      lines again (return) cases.items
      put "\x7d"
  | .switchCase, [test, body] =>
      flag test.isAbsent "default"
      optAfter "case " again test
      put ":"
      optList (itemLines again) body.items
  | .throwStmt, [arg] =>
      put "throw"
      operand again arg
      put ";"
  | .tryStmt, [block, handler, finalizer] =>
      put "try "
      again block
      optAfter " " again handler
      optAfter " finally" again finalizer
  | .catchClause, [param, body] =>
      put "catch "
      opt (parenthesized again) param
      space
      again body
  | .whileStmt, [test, body] =>
      put "while("
      again test
      put ")"
      item again body
  | .doWhile, [test, body] =>
      put "do "
      item again body
      put "while ("
      again test
      put ")"
  | .forStmt, [init, test, update, body] =>
      put "for("
      opt again init
      put ";"
      optAfter " " again test
      put ";"
      optAfter " " again update
      put ")"
      item again body
  | .forInStmt, [l, r, body] =>
      put "for("
      again l
      put " in "
      again r
      put ")"
      item again body
  | .forOfStmt isAwait, [l, r, body] =>
      put "for "
      flag isAwait "await "
      put "("
      again l
      put " of "
      again r
      put ")"
      item again body
  | .exprStmt, [e] =>
      again e
      put ";"
  | _, _ => return

def importedName (t : Ast) : W Unit := do
  bare t
  put " as "

def isClassDecl (t : Ast) : Bool :=
  match t.shape with
  | .classDecl _ => true
  | _ => false

def isDeclaredClass (t : Ast) : Bool :=
  match t.shape with
  | .classDecl isDeclare => isDeclare
  | _ => false

/-- An exported declaration; the decorators of a class stand before the word. -/
def exportedText (again : Ast → W Unit) (decl : Ast) : W Unit := do
  if isClassDecl decl then
    decoratorLines again (classPart (decl.part 1) 0).items
    put "export "
    leading decl.span.lo
    flag (isDeclaredClass decl) "declare "
    classText again (decl.part 0) (decl.part 1) false
  else
    put "export "
    again decl
    flag (isVarDecl decl) ";"
    trailing decl.span.hi

/-- Writes the text of an import or export, without the end of its line. -/
def moduleText (again : Ast → W Unit) (t : Ast) : W Unit := do
  match t.shape, t.parts with
  | .importDecl typeOnly, [specs, src, attrs] => importText again typeOnly specs.items src attrs
  | .importNamed typeOnly, [local_, imported] =>
      flag typeOnly "type "
      opt importedName imported
      bare local_
  | .importDefault, [local_] => bare local_
  | .importStar, [local_] =>
      put "* as "
      bare local_
  | .exportDecl, [decl] => exportedText again decl
  | .exportNamed typeOnly, [specs, src, attrs] => exportText again typeOnly specs.items src attrs
  | .exportSpecifier typeOnly, [orig, exported] =>
      flag typeOnly "type "
      bare orig
      optAfter " as " bare exported
  | .exportStarAs, [name] =>
      put "* as "
      bare name
  | .exportDefaultExpr, [e] =>
      put "export default "
      again e
      put ";"
  | .exportDefaultDecl, [d] =>
      put "export default "
      again d
  | .exportAll typeOnly, [src, attrs] =>
      put "export "
      flag typeOnly "type "
      put "* from "
      sourceText again src attrs
      put ";"
  | .importEquals isExport typeOnly, [id, ref] =>
      flag isExport "export "
      put "import "
      flag typeOnly "type "
      bare id
      put " = "
      key again ref
      put ";"
  | .externalModule, [s] =>
      put "require("
      bare s
      put ")"
  | .exportAssign, [e] =>
      put "export = "
      again e
  | .exportNamespace, [id] =>
      put "export as namespace "
      bare id
  | _, _ => return

/-- The layout class of a node. -/
inductive Layout where
  | expr | pattern | stmt | block | decl | moduleDecl | member | type | markup | file | other
  deriving DecidableEq

def layoutOf : Shape → Layout
  | .absent | .group | .statements => .other
  | .ident .. | .null | .bool _ | .num _ | .bigint _ | .str .. | .regex .. | .thisRef
  | .newTarget | .importMeta | .template _ | .tagged | .array | .object
  | .fnExpr | .arrow .. | .classExpr | .unary _ | .update .. | .binary _ | .assign _ | .cond
  | .call | .new | .member | .optMember _ | .optCall _ | .seq | .yield _ | .await | .paren
  | .asExpr | .asConst | .satisfies | .nonNull | .typeAssertion | .instantiation => .expr
  | .arrayPat _ | .objectPat _ | .assignPat | .rest | .invalid => .pattern
  | .plainName _ | .privateName _ | .superRef | .importRef | .hole | .spread | .keyValue
  | .assignProp | .getter | .setter | .methodProp | .computed | .keyValuePat
  | .assignPropPat => .other
  | .param | .paramProp _ | .decorator | .ctor _ | .method .. | .field _ | .accessor _
  | .staticBlock | .emptyMember => .member
  | .function .. | .classBody _ => .other
  | .scriptRoot _ | .moduleRoot _ => .file
  | .block => .block
  | .emptyStmt | .debuggerStmt | .withStmt | .returnStmt | .labeled | .breakStmt | .continueStmt
  | .ifStmt | .switchStmt | .throwStmt | .tryStmt | .whileStmt | .doWhile
  | .forStmt | .forInStmt | .forOfStmt _ | .exprStmt => .stmt
  | .switchCase | .catchClause => .other
  | .varDecl .. | .usingDecl _ | .fnDecl _ | .classDecl _ | .interfaceDecl _ | .typeAlias _
  | .enumDecl .. | .namespaceDecl .. => .decl
  | .declarator _ | .enumMember | .nestedNamespace | .moduleBlock => .other
  | .importDecl _ | .exportDecl | .exportNamed _ | .exportDefaultExpr | .exportDefaultDecl
  | .exportAll _ | .importEquals .. | .exportAssign | .exportNamespace => .moduleDecl
  | .importNamed _ | .importDefault | .importStar | .exportSpecifier _ | .exportStarAs
  | .exportDefaultSpecifier | .externalModule => .other
  | .jsxElement | .jsxFragment => .markup
  | .jsxOpening _ | .jsxClosing | .jsxText _ | .jsxString _ | .jsxContainer | .jsxEmpty
  | .jsxSpreadChild | .jsxAttr | .jsxMember | .jsxNamespaced => .markup
  | _ => .type

def nodeText (again : Ast → W Unit) (t : Ast) : W Unit := do
  match layoutOf t.shape with
  | .expr | .pattern => exprText again t
  | .stmt | .block => stmtText again t
  | .decl => declText again t
  | .moduleDecl => moduleText again t
  | .member => memberText again t
  | .type => typeText again t
  | .markup => markupText again t
  | .file => return
  | .other =>
      exprText again t
      stmtText again t
      declText again t
      moduleText again t

/-- Whether comments behind the node belong to it. -/
def keepsTrailing (t : Ast) : Bool :=
  match t.shape, layoutOf t.shape with
  | .jsxElement, _ | .jsxFragment, _ | _, .expr | _, .pattern => true
  | _, _ => false

/-- Writes a node with the comments around it, without the end of a statement's line. -/
def node (again : Ast → W Unit) (t : Ast) : W Unit := do
  if t.isAbsent then return
  leading t.span.lo
  nodeText again t
  given (keepsTrailing t) (trailing t.span.hi)

/-- The line in front of a script that names its interpreter. -/
def interpreterLine (t : Ast) : W Unit :=
  match t.shape with
  | .scriptRoot (some s) | .moduleRoot (some s) => do
      put "#!"
      put s
      newLine
  | _ => return

def file (again : Ast → W Unit) (t : Ast) : W Unit := do
  leading t.span.lo
  interpreterLine t
  each (item again) t.parts
  trailing t.span.hi

end W

namespace Ast

/-- Writes a tree that is at most `fuel` nodes deep. -/
def write : Nat → Ast → W Unit
  | 0, _ => return
  | fuel + 1, t =>
      match W.layoutOf t.shape with
      | .file => W.file (write fuel) t
      | _ => W.node (write fuel) t

/-- Writes a whole tree.  A declaration on its own is written as a statement. -/
def writer (t : Ast) : W Unit :=
  match W.layoutOf t.shape with
  | .decl => W.item (write t.height) t
  | _ => write t.height t

/-- The text of a tree, and the comments that it did not take up. -/
def print (t : Ast) (comments : List Attached) : String × List Attached :=
  let (_, s) := t.writer.run { comments }
  (s.text, s.comments)

end Ast

end Inlay.Syntax
