import Inlay.Engine.Machine

/-! # Expressions and statements as instructions

    The instructions that an expression or a statement stands for.  Its parts are not expanded: they
    become `eval` instructions, whose turn comes later. -/

namespace Inlay.Engine

/-- Whether a node is a function or class without a name, which takes the name it is given. -/
def isAnonymous (n : Node) : Bool :=
  match n.form with
  | .fn i => i.name.isEmpty
  | .cls name _ => name.isEmpty
  | _ => false

def evalAs (n : Node) (x : Name) : Instr :=
  if isAnonymous n then .evalNamed n (.str x) else .eval n

/-- The key of a member of an object or a class, left on the stack. -/
def keyCode (n : Node) : List Instr :=
  match n with
  | .mk (.plainName x) _ => [.push (.str x), .toKey]
  | .mk .computedName [e] => [.eval e, .toKey]
  | _ => []

def itemCode (n : Node) : List Instr :=
  match n with
  | .mk .hole _ => [.addHole]
  | .mk .spread [e] => [.eval e, .addSpread]
  | n => [.eval n, .addItem]

def listCode (ns : List Node) : List Instr := .startList :: ns.flatMap itemCode

def argumentCode (n : Node) : List Instr := listCode n.parts

/-- A member of an object literal; the object is on the stack. -/
def memberCode (n : Node) : List Instr :=
  match n with
  | .mk .init [.mk (.plainName x) _, v] => [evalAs v x, .initNamedProp x]
  | .mk .init [k, v] => keyCode k ++ [if isAnonymous v then .evalKeyed v else .eval v, .initProp]
  | .mk .proto [v] => [.eval v, .initProto]
  | .mk .spread [v] => [.eval v, .initSpread]
  | .mk (.method sort) [k, f] => keyCode k ++ [.initMethod sort f]
  | _ => []

def calleeCode (n : Node) : List Instr :=
  match n with
  | .mk (.member x) [o] => [.eval o, .getMethod x]
  | .mk .index [o, k] => [.eval o, .eval k, .getMethodIndexed]
  | .mk (.privateMember x) [o] => [.eval o, .getMethodHidden x]
  | .mk (.superMember x) _ => [.push (.str x), .getMethodSuper]
  | .mk .superIndex [k] => [.eval k, .getMethodSuper]
  | n => [.push .undefined, .eval n]

/-- The callee of a call, which may be an optional link or stand in parentheses. -/
def fullCalleeCode (n : Node) : List Instr :=
  match n with
  | .mk .link [m] => calleeCode m ++ [.checkLink]
  | .mk .paren [m] => calleeCode m
  | n => calleeCode n

def patternName (p : Node) : Option Key :=
  match p with
  | .mk (.ident x) _ => some (.str x)
  | _ => none

/-- A value for a pattern: functions without a name take the name of the pattern. -/
def valueFor (p v : Node) : Instr :=
  match p with
  | .mk (.ident x) _ => evalAs v x
  | _ => .eval v

/-! ## Assignment -/

/-- Assignment of a value that is computed after the target. -/
def assignCode (p v : Node) : List Instr :=
  match p with
  | .mk (.ident x) _ => [evalAs v x, .setName x]
  | .mk (.member x) [o] => [.eval o, .eval v, .setNamed x]
  | .mk .index [o, k] => [.eval o, .eval k, .eval v, .setIndexed]
  | .mk (.privateMember x) [o] => [.eval o, .eval v, .setHidden x]
  | .mk (.superMember x) _ => [.push (.str x), .eval v, .setSuper]
  | .mk .superIndex [k] => [.eval k, .eval v, .setSuper]
  | p => [.eval v, .dup, .bind .assign p]

/-- Reads a target, combines it with something, and stores the result. -/
def changeCode (p : Node) (combine : List Instr → List Instr → List Instr) : List Instr :=
  match p with
  | .mk (.ident x) _ => .getName x :: combine [] [.setName x]
  | .mk (.member x) [o] => [.eval o, .keepNamed x] ++ combine [.nip] [.setNamed x]
  | .mk .index [o, k] => [.eval o, .eval k, .keepIndexed] ++ combine [.nip, .nip] [.setIndexed]
  | .mk (.privateMember x) [o] => [.eval o, .keepHidden x] ++ combine [.nip] [.setHidden x]
  | .mk (.superMember x) _ =>
      [.push (.str x), .push (.str x), .getSuper] ++ combine [.nip] [.setSuper]
  | .mk .superIndex [k] => [.eval k, .dup, .getSuper] ++ combine [.nip] [.setSuper]
  | _ => []

def assignmentCode (op : AssignOp) (p v : Node) : List Instr :=
  match op with
  | .set => assignCode p v
  | .update b => changeCode p fun _ put => [.eval v, .binary b] ++ put
  | .logical l => changeCode p fun drop put => [.decide l drop (valueFor p v :: put)]

/-! ## Operators on names and members -/

def updateCode (isIncrement isFirst : Bool) (p : Node) : List Instr :=
  match p with
  | .mk (.ident x) _ => [.updateName x isIncrement isFirst]
  | .mk (.member x) [o] => [.eval o, .updateNamed x isIncrement isFirst]
  | .mk .index [o, k] => [.eval o, .eval k, .updateIndexed isIncrement isFirst]
  | .mk (.privateMember x) [o] => [.eval o, .updateHidden x isIncrement isFirst]
  | .mk (.superMember x) _ => [.push (.str x), .updateSuper isIncrement isFirst]
  | .mk .superIndex [k] => [.eval k, .updateSuper isIncrement isFirst]
  | _ => [.push .nan]

def deleteCode (n : Node) : List Instr :=
  match n with
  | .mk (.ident x) _ => [.deleteName x]
  | .mk (.member x) [.mk .link [o]] => [.eval o, .checkLink, .deleteNamed x]
  | .mk .index [.mk .link [o], k] => [.eval o, .checkLink, .eval k, .deleteIndexed]
  | .mk (.member x) [o] => [.eval o, .deleteNamed x]
  | .mk .index [o, k] => [.eval o, .eval k, .deleteIndexed]
  | .mk (.superMember _) _ | .mk .superIndex _ => [.deleteSuper]
  | n => [.eval n, .pop, .push (.bool true)]

def unaryCode (op : UnaryOp) (e : Node) : List Instr :=
  match op, e with
  | .typeof, .mk (.ident x) _ => [.typeofName x]
  | .delete, .mk .paren [e] => deleteCode e
  | .delete, e => deleteCode e
  | op, e => [.eval e, .unary op]

/-! ## Patterns -/

/-- Binds the value on top of the stack to a pattern, which may have a default. -/
def bindCode (mode : BindMode) (p : Node) : List Instr :=
  match p with
  | .mk .withDefault [t, d] => [.orDefault d (patternName t), .bind mode t]
  | t => [.bind mode t]

def arrayPatternCode (mode : BindMode) (items : List Node) : List Instr :=
  items.flatMap fun i =>
    match i with
    | .mk .hole _ => [.iterStep, .pop]
    | .mk .rest [t] => .iterRest :: bindCode mode t
    | p => .iterStep :: bindCode mode p

def objectPatternCode (mode : BindMode) (items : List Node) : List Instr :=
  items.flatMap fun i =>
    match i with
    | .mk .patProp [k, p] => keyCode k ++ .patternKey :: bindCode mode p
    | .mk .rest [t] => .patternRest :: bindCode mode t
    | _ => []

/-- Binds the value on top of the stack to a pattern and drops it. -/
def patternCode (mode : BindMode) (p : Node) : List Instr :=
  match p with
  | .mk (.ident x) _ => match mode with
      | .assign => [.setName x, .pop]
      | .init => [.initName x]
  | .mk (.member x) [o] => [.eval o, .putNamed x]
  | .mk .index [o, k] => [.eval o, .eval k, .putIndexed]
  | .mk (.privateMember x) [o] => [.eval o, .putHidden x]
  | .mk (.superMember x) _ => [.push (.str x), .putSuper]
  | .mk .superIndex [k] => [.eval k, .putSuper]
  | .mk .patObject items => .requireObject :: objectPatternCode mode items ++ [.pop, .pop]
  | .mk .patArray items => [.bindItems mode items]
  | .mk .withDefault _ => bindCode mode p
  | _ => [.pop]

/-! ## Statements -/

def declaratorCode (sort : VarSort) (d : Node) : List Instr :=
  let p := d.part 0
  let v := d.part 1
  let mode := if sort == .var then BindMode.assign else .init
  if v.isAbsent then if sort == .var then [] else [.push .undefined, .bind mode p]
  else [valueFor p v, .bind mode p]

/-- A block: a scope of its own if it declares something. -/
def blockCode (f : Frame) (lexical : List (Name × Bool)) (functions body : List Node) :
    List Instr :=
  if lexical.isEmpty && functions.isEmpty then body.map .eval
  else .enterBlock lexical functions :: body.map .eval ++ [.leave f.scope]

def optional (n : Node) (code : List Instr) : List Instr := if n.isAbsent then [] else code

def forCode (f : Frame) (names : List (Name × Bool)) (init test update body : Node)
    (labels : List Name) : List Instr :=
  let enter := if names.isEmpty then [] else [Instr.enterBlock names []]
  let first := match init with
    | .mk .exprStmt [e] => [Instr.eval e, .pop]
    | n => optional n [.eval n]
  enter ++ first ++ [.copyScope names, .forTest names test update body labels,
    .breakMark labels true f.stack, .leave f.scope]

def attemptCode (f : Frame) (body handler finalizer : Node) : List Instr :=
  .eval body :: optional handler [.catchMark handler f.scope f.stack]
    ++ optional finalizer [.finallyMark finalizer f.scope f.stack]

def labelledCode (f : Frame) (n : Node) (labels : List Name) : List Instr :=
  match n with
  | .mk (.labelled l) [s] => [.evalLabelled s (l :: labels)]
  | .mk .whileLoop [t, b] =>
      [.clearCompletion, .whileTest t b labels, .breakMark labels true f.stack]
  | .mk .doLoop [t, b] =>
      [.clearCompletion, .eval b, .continueMark labels f.stack, .doTest t b labels,
        .breakMark labels true f.stack]
  | .mk (.forLoop names) [i, t, u, b] => .clearCompletion :: forCode f names i t u b labels
  | .mk (.forIn sort names) [p, o, b] =>
      [.clearCompletion, .eval o, .startForIn sort names p b labels, .breakMark labels true f.stack,
        .leave f.scope]
  | .mk (.forOf isAwait sort names) [p, o, b] =>
      [.clearCompletion, .eval o, .startForOf isAwait sort names p b labels,
        .breakMark labels true f.stack, .leave f.scope]
  | n => if labels.isEmpty then [] else [.eval n, .breakMark labels false f.stack]

/-! ## Classes -/

def elementCode (e : Node) : List Instr :=
  match e with
  | .mk (.methodElement isStatic sort) [.mk (.hiddenName x) _, f] =>
      [.classHiddenMethod isStatic sort x f]
  | .mk (.methodElement isStatic sort) [k, f] => keyCode k ++ [.classMethod isStatic sort f]
  | .mk (.fieldElement isStatic) [.mk (.hiddenName x) _, i] => [.classHiddenField isStatic x i]
  | .mk (.fieldElement isStatic) [k, i] => keyCode k ++ [.classField isStatic i]
  | .mk .blockElement [f] => [.classBlock f]
  | _ => []

/-- The instructions of a class, in the scope that has been made for it. -/
def classCode (f : Frame) (n : Node) (name : Name) : List Instr :=
  match n with
  | .mk (.cls own isNamed) [parent, ctor, .mk .list es] =>
      optional parent [.eval parent] ++ [.makeClass ctor name (!parent.isAbsent)]
        ++ es.flatMap elementCode
        ++ [.finishClass (if isNamed then some own else none), .leave f.scope]
  | _ => []

/-! ## All together -/

/-- The instructions that an expression or statement stands for in an activation. -/
def expand (f : Frame) (n : Node) : List Instr :=
  match n with
  | .mk form parts =>
      match form, parts with
      | .null, _ => [.push .null]
      | .bool b, _ => [.push (.bool b)]
      | .num x, _ => [.push (.num x)]
      | .bigint i, _ => [.push (.big i)]
      | .str s, _ => [.push (.str s)]
      | .regex p fl, _ => [.makeRegex p fl]
      | .template texts, es =>
          .startList :: es.flatMap (fun e => [.eval e, .toText, .addItem]) ++ [.joinTemplate texts]
      | .tagged site cooked raw, t :: es =>
          fullCalleeCode t ++ [.startList, .templateObject site cooked raw, .addItem]
            ++ es.flatMap itemCode ++ [.call]
      | .ident x, _ => [.getName x]
      | .this, _ => [.getThis]
      | .newTarget, _ => [.getNewTarget]
      | .array _, es => listCode es ++ [.makeArray]
      | .object, ms => .makeObject :: ms.flatMap memberCode
      | .fn _, _ => [.makeFunction n]
      | .cls name _, _ => [.startClass n name]
      | .unary op, [e] => unaryCode op e
      | .update i p, [e] => updateCode i p e
      | .binary op, [a, b] => [.eval a, .eval b, .binary op]
      | .logical op, [a, b] => [.eval a, .decide op [] [.eval b]]
      | .assign op, [p, v] => assignmentCode op p v
      | .cond, [c, a, b] => [.eval c, .branch [.eval a] [.eval b]]
      | .call, [.mk (.ident x) _, as] =>
          if x == .ofString "eval" then
            .push .undefined :: .getName x :: argumentCode as ++ [.callEval]
          else .push .undefined :: .getName x :: argumentCode as ++ [.call]
      | .call, [c, as] => fullCalleeCode c ++ argumentCode as ++ [.call]
      | .superCall, [as] => argumentCode as ++ [.superCall]
      | .new, [c, as] => .eval c :: argumentCode as ++ [.construct]
      | .member x, [.mk .link [o]] => [.eval o, .checkLink, .getNamed x]
      | .member x, [o] => [.eval o, .getNamed x]
      | .index, [.mk .link [o], k] => [.eval o, .checkLink, .eval k, .getIndexed]
      | .index, [o, k] => [.eval o, .eval k, .getIndexed]
      | .privateMember x, [.mk .link [o]] => [.eval o, .checkLink, .getHidden x]
      | .privateMember x, [o] => [.eval o, .getHidden x]
      | .superMember x, _ => [.push (.str x), .getSuper]
      | .superIndex, [k] => [.eval k, .getSuper]
      | .chain, [e] => [.eval e, .chainEnd f.stack]
      | .seq, es => (es.flatMap fun e => [Instr.pop, .eval e]).drop 1
      | .yield, [e] => if e.isAbsent then [.push .undefined, .yield] else [.eval e, .yield]
      | .yieldAll, [e] => [.eval e, .startDelegate]
      | .await, [e] => [.eval e, .await]
      | .importCall, e :: _ => [.eval e, .importModule]
      | .privateIn x, [e] => [.eval e, .hasHidden x]
      | .paren, [e] => [.eval e]
      | .emptyStmt, _ | .fnDecl _, _ => []
      | .exprStmt, [e] => [.eval e, .complete]
      | .varStmt sort, ds => ds.flatMap (declaratorCode sort)
      | .classDecl name, [c] => [.eval c, .initName name]
      | .block lexical, [.mk .list fs, .mk .list ss] => blockCode f lexical fs ss
      | .ret, [e] => if e.isAbsent then [.push .undefined, .doReturn] else [.eval e, .doReturn]
      | .ifStmt, [c, a, b] =>
          [.clearCompletion, .eval c, .branch [.eval a] (optional b [.eval b])]
      | .breakTo l, _ => [.jump (.broken l)]
      | .continueTo l, _ => [.jump (.continued l)]
      | .throw, [e] => [.eval e, .doThrow]
      | .attempt, [b, h, fin] => .clearCompletion :: attemptCode f b h fin
      | .switch lexical, [d, .mk .list fs, .mk .list cs] =>
          [.clearCompletion, .eval d, .enterBlock lexical fs, .switchTest cs cs,
            .breakMark [] true f.stack, .leave f.scope]
      | .withObj, [o, b] => [.clearCompletion, .eval o, .enterWith, .eval b, .leave f.scope]
      | _, _ => labelledCode f n []

end Inlay.Engine
