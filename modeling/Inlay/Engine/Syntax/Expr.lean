import Inlay.Engine.Syntax.Function

/-! # Reading expressions

    The levels of operators from the loosest to the tightest: commas, assignments, conditions,
    `&&`, `||` and `??`, eight levels of binary operators, `**`, operators in front of an operand,
    and operands with what stands behind them. -/

namespace Inlay.Engine.Syntax

open S

namespace S

/-! ## Literals under operators -/

def isLiteral (n : Node) : Bool :=
  match n with
  | .mk .null _ | .mk (.bool _) _ | .mk (.num _) _ | .mk (.bigint _) _ | .mk (.str _) _ => true
  | .mk (.unary .void) [.mk (.num _) []] => true
  | _ => false

def isTruthy (n : Node) : Bool :=
  match n.form with
  | .bool b => b
  | .num x => !(x.isNaN || x.eq (.int 0))
  | .bigint i => i != 0
  | .str s => !s.isEmpty
  | _ => false

/-- Whether a literal is `null` or `undefined`. -/
def isNullish (n : Node) : Bool :=
  match n.form with
  | .null | .unary .void => true
  | _ => false

/-- The literal that an operator in front of a literal stands for, where that makes a
    difference. -/
def foldUnary (op : UnaryOp) (n : Node) : Node :=
  let number (x : Num) : Node := .mk (.num x) []
  match op, n with
  | .minus, .mk (.num x) [] => number x.negLiteral
  | .minus, .mk (.bool b) [] => number (.int (if b then 1 else 0))
  | .minus, .mk .null [] => number (.int 0)
  | .minus, .mk (.bigint i) [] => .mk (.bigint (-i)) []
  | .plus, .mk (.num x) [] => number x
  | .not, n => if isLiteral n then .mk (.bool (!isTruthy n)) [] else .mk (.unary op) [n]
  | op, n => .mk (.unary op) [n]

/-- An expression and one behind it; a literal in front has no effect. -/
def foldComma (a b : Node) : Option Node := if isLiteral a then some b else none

/-- A literal in front of `&&`, `||` and `??` decides at once. -/
def foldLogical (op : LogicalOp) (a b : Node) : Node :=
  let takesRight := match op with
    | .and => isTruthy a
    | .or => !isTruthy a
    | .nullish => isNullish a
  if !isLiteral a then .mk (.logical op) [a, b] else if takesRight then b else a

/-! ## Expressions -/

/-- Whether an expression goes on behind a comma here.  It stops where a list comes to its end, or
    goes on with its rest. -/
def atNext : S Bool := do
  if ← isPunct "," then
    match (← peekNext).token with
    | .eof => throw .abruptEnd
    | .punct ")" | .punct "..." => return false
    | _ => return true
  return false

def expressionRest : Nat → List Node → S (List Node)
  | 0, out => return out.reverse
  | n + 1, out => do
      if ← atNext then
        advance
        let e ← again .assign
        expressionRest n (e :: out)
      else return out.reverse

/-- An expression: assignments separated by commas. -/
def expression : S Node := do
  let e ← again .assign
  let es ← expressionRest (← fuel) [e]
  let es := if (← ctx).folds then dropLiterals es else es
  match es with
  | [e] => return e
  | es => return .mk .seq es
where
  dropLiterals : List Node → List Node
  | a :: b :: rest =>
      match foldComma a b with
      | some _ => dropLiterals (b :: rest)
      | none => a :: b :: rest
  | es => es

/-- An expression in which `in` is an operator. -/
def wholeExpression : S Node := withCtx ({ · with allowIn := true }) expression

/-- An assignment in which `in` is an operator. -/
def wholeAssignment : S Node := withCtx ({ · with allowIn := true }) (again .assign)

/-! ## Operands -/

/-- What a template stands for needs escapes that mean something. -/
def checkCooked (isTagged : Bool) (start : Spot) (cooked : Option Units) : S Unit := do
  if !isTagged && cooked.isNone then generalAt "invalid escape in template literal" start

def templatePieces (isTagged : Bool) (start : Spot) : Nat → List (Option Units × Units) →
    List Node → S (List (Option Units × Units) × List Node)
  | 0, ps, es => return (ps.reverse, es.reverse)
  | n + 1, ps, es => do
      let e ← wholeExpression
      if !(← isPunct "\x7d") then expected ["\x7d"] "template literal"
      useLexeme (← lexeme).asTemplate
      match ← token with
      | .template raw cooked isTail =>
          checkCooked isTagged start cooked
          advance
          let ps := (cooked, raw) :: ps
          if isTail then return (ps.reverse, (e :: es).reverse)
          templatePieces isTagged start n ps (e :: es)
      | _ => unexpected "template literal"

def templateParts (isTagged : Bool) : S (List (Option Units × Units) × List Node) := do
  let start ← spot
  match ← token with
  | .template raw cooked isTail =>
      checkCooked isTagged start cooked
      advance
      if isTail then return ([(cooked, raw)], [])
      templatePieces isTagged start (← fuel) [(cooked, raw)] []
  | _ => unexpected "template literal"

def arguments : Nat → List Node → S (List Node)
  | 0, out => return out.reverse
  | n + 1, out => do
      if ← eat ")" then return out.reverse
      if ← isPunct "," then
        if out.isEmpty then expected ["expression"] "call"
        advance
        if ← eat ")" then return out.reverse
      else if !out.isEmpty then expected [",", "\x7d"] "argument list"
      let a ← do
        if ← eat "..." then pure (.mk .spread [← again .assign]) else again .assign
      arguments n (a :: out)

def argumentList : S (List Node) := do
  expect "(" "arguments"
  withCtx ({ · with allowIn := true }) (do arguments (← fuel) [])

/-- Items of an array literal; a comma without an item leaves a hole.  Whether a comma follows a
    spread that comes last is told beside them. -/
def arrayItems : Nat → List Node → S (List Node × Bool)
  | 0, out => return (out.reverse, false)
  | n + 1, out => do
      if ← eat "]" then return (out.reverse, false)
      if ← eat "," then arrayItems n (.mk .hole [] :: out)
      else
        let isSpread ← eat "..."
        let e ← again .assign
        let out := (if isSpread then .mk .spread [e] else e) :: out
        if ← eat "]" then return (out.reverse, false)
        if !(← eat ",") then unexpected "expected comma or end of array"
        let ends ← isPunct "]"
        if isSpread && ends then
          advance
          return (out.reverse, true)
        arrayItems n out

/-! ## Parentheses and arrow functions -/

/-- The parameters that an expression in front of an arrow stands for.  Faults are reported behind
    the opening parenthesis. -/
def arrowParameter (p : Spot) (n : Node) : S Node := do
  match n with
  | .mk (.ident x) _ =>
      if isGuarded (← strict) x then
        generalAt s!"parameter name '{x.text}' not allowed in strict mode" p
      return n
  | .mk (.assign .set) [t, v] =>
      if isMember t then generalAt "invalid initialization expression in formal parameter list" p
      return .mk .withDefault [t, v]
  | .mk .object _ =>
      match toPattern true n with
      | some t => return t
      | none => generalAt "invalid object binding pattern in formal parameter list" p
  | .mk (.array _) _ =>
      match toPattern true n with
      | some t => return t
      | none => generalAt "invalid array binding pattern in formal parameter list" p
  | _ => throw (.unexpected ")" p "parenthesized expression with non-binding expression")

def atArrow : S Bool := do
  let arrow ← isPunct "=>"
  return arrow && !(← lexeme).lineBreak

/-- What parentheses hold: expressions, a trailing comma, a parameter that takes the rest. -/
structure Cover where
  exprs : List Node := []
  rest : Option Node := none
  hasComma : Bool := false

/-- What stands behind an opening parenthesis, up to the closing one. -/
def cover : S Cover := do
  let context := "CoverParenthesizedExpressionAndArrowParameterList"
  let rest (exprs : List Node) : S Cover := do
    advance
    let p ← bindingTarget patternDepth
    if !(← isPunct ")") then expected [")"] context
    return { exprs, rest := some (.mk .rest [p]) }
  match ← token with
  | .punct ")" => return {}
  | .punct "..." => return ← rest []
  | _ => pure ()
  let e ← again .assign
  let es ← expressionRest (← fuel) [e]
  match ← token with
  | .punct ")" => return { exprs := es }
  | .punct "," =>
      advance
      match ← token with
      | .punct ")" => return { exprs := es, hasComma := true }
      | .punct "..." => rest es
      | _ => expected [")", "..."] context
  | _ => expected [")", ","] context

/-- An expression in parentheses, or the parameters of an arrow function. -/
def parenthesized : S Node := do
  advance
  let start ← spot
  let c ← withCtx ({ · with allowIn := true }) cover
  let close ← spot
  advance
  if ← atArrow then
    let ps ← c.exprs.mapM (arrowParameter start)
    let ps := ps ++ c.rest.toList
    if anyContains Form.isYield false ps then
      generalAt "yield expression is not allowed in formal parameter list of arrow function" start
    return .mk .params ps
  let stray {α : Type} (found message : String) : S α := throw (.unexpected found close message)
  if c.hasComma then stray "," "trailing comma in parenthesized expression"
  match c.exprs, c.rest with
  | [], none => stray ")" "empty parenthesized expression"
  | [], some _ => stray ")" "parenthesized expression with spread expressions"
  | _, some _ => stray ")" "multiple expressions in parenthesized expression"
  | [e], none => return .mk .paren [e]
  | es, none =>
      let es := if (← ctx).folds then expression.dropLiterals es else es
      match es with
      | [e] => return .mk .paren [e]
      | es => return .mk .paren [.mk .seq es]

/-! ## Primary expressions -/

/-- Checks the flags of a regular expression literal, then its pattern. -/
structure RegexCheck where
  flags : Units → Option String
  pattern : Units → Units → Option String

def regexLiteral (check : RegexCheck) : S Node := do
  let p ← spot
  useLexeme (← lexeme).asRegex
  match ← token with
  | .regex pattern flags q =>
      match check.flags flags with
      | some message => generalAt message q
      | none => pure ()
      match check.pattern pattern flags with
      | some message => generalAt s!"Invalid regular expression literal: {message}" p
      | none => pure ()
      advance
      return .mk (.regex pattern flags) []
  | _ => unexpected "regular expression literal"

def wordOperand (w : String) (escaped : Bool) : S Node := do
  let literal (f : Form) : S Node := do
    advance
    return .mk f []
  if w == "async" && !escaped then
    let next ← peekNext
    match next.token, next.lineBreak with
    | .name "function" false, false =>
        advance
        advance
        return ← functionExpr true
    | _, _ => pure ()
  match w with
  | "this" => literal .this
  | "null" => literal .null
  | "true" => literal (.bool true)
  | "false" => literal (.bool false)
  | "debugger" =>
      advance
      return .mk (.unary .void) [.mk (.num (.int 0)) []]
  | "function" =>
      advance
      functionExpr false
  | "class" =>
      advance
      classExpr
  | _ =>
      if reserved.contains w then unexpected "primary expression"
      return .mk (.ident (← reference)) []

def primary (check : RegexCheck) : S Node := do
  match ← token with
  | .num x _ =>
      advance
      return .mk (.num x) []
  | .bigint n =>
      advance
      return .mk (.bigint n) []
  | .str s _ =>
      advance
      return .mk (.str s) []
  | .template _ _ _ =>
      let (ps, es) ← templateParts false
      return .mk (.template (ps.filterMap Prod.fst)) es
  | .punct "(" => parenthesized
  | .punct "[" =>
      advance
      let (items, endsInComma) ← withCtx ({ · with allowIn := true }) (do arrayItems (← fuel) [])
      return .mk (.array endsInComma) items
  | .punct "\x7b" =>
      advance
      withCtx ({ · with allowIn := true }) objectLiteral
  | .punct "/" | .punct "/=" => regexLiteral check
  | .name w escaped => wordOperand w escaped
  | _ => unexpected "primary expression"

/-! ## Members and calls -/

def memberNode? (object : Node) : Token → Option Node
  | .name w _ => some (.mk (.member (.ofString w)) [object])
  | .hidden w => some (.mk (.privateMember (.ofString w)) [object])
  | _ => none

/-- A key in brackets behind the opening bracket. -/
def indexRest (context : String) : S Node := do
  let e ← wholeExpression
  expect "]" context
  return e

def taggedTemplate (tag : Node) : S Node := do
  let (ps, es) ← templateParts true
  let site := (← get).sites
  modify fun s => { s with sites := site + 1 }
  return .mk (.tagged site (ps.map Prod.fst) (ps.map Prod.snd)) (tag :: es)

/-- The member behind a dot.  Behind a call, a fault is reported at the dot. -/
def memberRest (afterCall : Bool) (e : Node) : S Node := do
  let dot ← lexeme
  advance
  match memberNode? e (← token) with
  | some m =>
      advance
      return m
  | none =>
      match ← token, afterCall with
      | .eof, _ => throw .abruptEnd
      | _, true => throw (.expected ["identifier"] dot.token.text dot.start "call expression")
      | _, false => expected ["identifier"] "member expression"

/-- Members and templates behind an operand, and calls behind a call. -/
def suffixes (afterCall : Bool) : Nat → Node → S Node
  | 0, e => return e
  | n + 1, e => do
      match ← token with
      | .punct "." => suffixes afterCall n (← memberRest afterCall e)
      | .punct "[" =>
          advance
          let k ← indexRest (if afterCall then "call expression" else "member expression")
          suffixes afterCall n (.mk .index [e, k])
      | .punct "(" =>
          if afterCall then
            let as ← argumentList
            suffixes afterCall n (.mk .call [e, .list as])
          else return e
      | .template _ _ _ => suffixes afterCall n (← taggedTemplate e)
      | _ => return e

/-- One link of an optional chain, behind `?.` or not. -/
def chainLink (e : Node) : S Node := do
  match ← token with
  | .punct "(" =>
      let as ← argumentList
      return .mk .call [e, .list as]
  | .punct "[" =>
      advance
      let k ← indexRest "optional chain"
      return .mk .index [e, k]
  | .template _ _ _ => generalAt "Invalid tagged template on optional chain" (← spot)
  | t =>
      match memberNode? e t with
      | some m =>
          advance
          return m
      | none => expected ["identifier"] "optional chain"

def chainLinks : Nat → Node → S Node
  | 0, e => return e
  | n + 1, e => do
      match ← token with
      | .punct "?." =>
          advance
          chainLinks n (← chainLink (.mk .link [e]))
      | .punct "." =>
          advance
          chainLinks n (← chainLink e)
      | .punct "(" | .punct "[" | .template _ _ _ => chainLinks n (← chainLink e)
      | _ => return e

/-- A member of the superclass behind `super`. -/
def superMember : S Node := do
  advance
  match ← token with
  | .punct "." =>
      advance
      match ← token with
      | .name w _ =>
          advance
          return .mk (.superMember (.ofString w)) []
      | .hidden _ => generalAt "unexpected private identifier" (← spot)
      | _ => unexpected "expected super property"
  | .punct "[" =>
      advance
      return .mk .superIndex [← indexRest "super property"]
  | _ => unexpected "expected super property"

/-- What stands in front of members: `new`, `super`, `import`, or a primary expression. -/
def headed (check : RegexCheck) : S Node := do
  match ← token with
  | .name "new" false =>
      advance
      if ← eat "." then
        expectWord "target" "new.target expression"
        return .mk .newTarget []
      let callee ← again .callee
      let as ← do
        if ← isPunct "(" then argumentList else pure []
      return .mk .new [callee, .list as]
  | .name "super" false => superMember
  | .name "import" false =>
      let p ← spot
      advance
      expect "." "import.meta"
      match ← token with
      | .name "meta" false => generalAt "invalid `import.meta` expression outside a module" p
      | _ => expected ["property `meta`"] "import.meta"
  | _ => primary check

def calleeOf (check : RegexCheck) : S Node := do
  let e ← headed check
  match e.form with
  | .params => return e
  | _ => suffixes false (← fuel) e

/-- A word that is called directly, such as `super`. -/
def calledWord? : S (Option String) := do
  match ← token with
  | .name w false =>
      if w == "super" || w == "import" then
        match (← peekNext).token with
        | .punct "(" => return some w
        | _ => return none
      return none
  | _ => return none

def operandOf (check : RegexCheck) : S Node := do
  let e ← match ← calledWord? with
    | some "super" =>
        advance
        let as ← argumentList
        suffixes true (← fuel) (.mk .superCall [.list as])
    | some _ =>
        advance
        advance
        let e ← wholeAssignment
        expect ")" "import call"
        suffixes true (← fuel) (.mk .importCall [e])
    | none =>
        let e ← calleeOf check
        if ← isPunct "(" then suffixes true (← fuel) e else pure e
  if ← isPunct "?." then return .mk .chain [← chainLinks (← fuel) e]
  return e

/-! ## Operators -/

def bare : Node → Node
  | .mk .paren [n] => bare n
  | n => n

/-- What `++` and `--` change. -/
def updateTarget (e : Node) (nameSpot faultSpot : Spot) : S Node := do
  match bare e with
  | .mk (.ident x) _ =>
      if isGuarded (← strict) x then
        generalAt s!"unexpected identifier '{x.text}' in strict mode" nameSpot
  | _ => pure ()
  match simpleTarget? false e with
  | some t => return t
  | none => generalAt "Invalid left-hand side in assignment" faultSpot

/-- The step that a token takes, if it is `++` or `--`: whether it goes up. -/
def stepUp? : Token → Option Bool
  | .punct "++" => some true
  | .punct "--" => some false
  | _ => none

/-- An operand with `++` or `--` in front of it or behind it. -/
def updateOf : S Node := do
  let p ← spot
  match stepUp? (← token) with
  | some up =>
      advance
      let e ← again .unary
      return .mk (.update up true) [← updateTarget e p p]
  | none => pure ()
  let e ← again .operand
  if (← lexeme).lineBreak then return e
  match stepUp? (← token) with
  | some up =>
      let q ← spot
      advance
      return .mk (.update up false) [← updateTarget e p q]
  | none => return e

def unaryOp? (t : Token) : Option UnaryOp :=
  match t with
  | .punct "-" => some .minus
  | .punct "+" => some .plus
  | .punct "!" => some .not
  | .punct "~" => some .bitNot
  | .name "typeof" false => some .typeof
  | .name "void" false => some .void
  | .name "delete" false => some .delete
  | _ => none

/-- Whether the current token waits for a promise. -/
def atAwait : S Bool := do
  let waits ← isWord "await"
  return waits && (← ctx).inAsync

/-- An operand with the operators in front of it. -/
def unaryOf : S Node := do
  let p ← spot
  match unaryOp? (← token) with
  | some op =>
      advance
      let q ← spot
      let e ← again .unary
      match op, bare e with
      | .delete, .mk (.ident _) _ =>
          if ← strict then generalAt "cannot delete variables in strict mode" p
      | .delete, .mk (.privateMember _) _ => generalAt "cannot delete private fields" q
      | _, _ => pure ()
      return if (← ctx).folds then foldUnary op e else .mk (.unary op) [e]
  | none => pure ()
  if ← atAwait then
    advance
    return .mk .await [← again .unary]
  updateOf

/-- An operand with the powers behind it; an operator in front of an operand excludes them. -/
def powerOf : S Node := do
  let waits ← atAwait
  if (unaryOp? (← token)).isSome || waits then return ← unaryOf
  let e ← updateOf
  if ← eat "**" then return .mk (.binary .exp) [e, ← again .power]
  return e

/-- The operators of the levels from the tightest, `*`, which is one, to the loosest, `|`, which is
    eight. -/
def binaryOp? (level : Nat) (allowIn : Bool) (t : Token) : Option BinaryOp :=
  match level, t with
  | 1, .punct "*" => some .mul
  | 1, .punct "/" => some .div
  | 1, .punct "%" => some .rem
  | 2, .punct "+" => some .add
  | 2, .punct "-" => some .sub
  | 3, .punct "<<" => some .shl
  | 3, .punct ">>" => some .shr
  | 3, .punct ">>>" => some .ushr
  | 4, .punct "<" => some .lt
  | 4, .punct ">" => some .gt
  | 4, .punct "<=" => some .le
  | 4, .punct ">=" => some .ge
  | 4, .name "instanceof" false => some .instanceOf
  | 4, .name "in" false => if allowIn then some .isIn else none
  | 5, .punct "==" => some .eq
  | 5, .punct "!=" => some .ne
  | 5, .punct "===" => some .same
  | 5, .punct "!==" => some .differ
  | 6, .punct "&" => some .bitAnd
  | 7, .punct "^" => some .bitXor
  | 8, .punct "|" => some .bitOr
  | _, _ => none

/-- Operators of one level and the operands behind them, from left to right. -/
def leftAssoc (level : Nat) (operand : S Node) : Nat → Node → S Node
  | 0, e => return e
  | n + 1, e => do
      match binaryOp? level (← ctx).allowIn (← token) with
      | none => return e
      | some op =>
          advance
          let right ← operand
          leftAssoc level operand n (.mk (.binary op) [e, right])

/-- Whether a private name in front of `in` starts here. -/
def hiddenOperand? (level : Nat) : S (Option String) := do
  match ← token with
  | .hidden w => return if level == 4 && (← ctx).allowIn then some w else none
  | _ => return none

def binaryAt : Nat → S Node
  | 0 => again .power
  | n + 1 => do
      match ← hiddenOperand? (n + 1) with
      | some w =>
          let next ← peekNext
          match next.token with
          | .name "in" false => pure ()
          | .eof => throw .abruptEnd
          | t => throw (.expected ["in"] t.text next.start "relational expression")
          advance
          advance
          return .mk (.privateIn (.ofString w)) [← binaryAt n]
      | none =>
          let e ← binaryAt n
          leftAssoc (n + 1) (binaryAt n) (← fuel) e

/-- How operands have been joined so far. -/
inductive Joint where
  | plain | logical | nullish
  deriving DecidableEq

/-- Operands joined by `&&`, `||` and `??`; the last does not mix with the others. -/
def joinedRest : Nat → Joint → Node → S Node
  | 0, _, e => return e
  | n + 1, joint, e => do
      let join (op : LogicalOp) (right : S Node) : S Node := do
        advance
        let r ← right
        return if (← ctx).folds then foldLogical op e r else .mk (.logical op) [e, r]
      let noMix : S Unit := do
        if joint == .nullish then
          expected ["??"]
            "logical expression (cannot use '??' without parentheses within either '||' or '&&')"
      match ← token with
      | .punct "&&" =>
          noMix
          joinedRest n .logical (← join .and (binaryAt 8))
      | .punct "||" =>
          noMix
          joinedRest n .logical (← join .or (again (.joined true)))
      | .punct "??" =>
          if joint == .logical then
            expected ["&&", "||"] "cannot use '??' unparenthesized within '||' or '&&'"
          joinedRest n .nullish (← join .nullish (binaryAt 8))
      | _ => return e

def joinedOf (afterLogical : Bool) : S Node := do
  let e ← binaryAt 8
  joinedRest (← fuel) (if afterLogical then .logical else .plain) e

def conditional : S Node := do
  let e ← joinedOf false
  if ← eat "?" then
    let a ← wholeAssignment
    expect ":" "conditional expression"
    let b ← again .assign
    return .mk .cond [e, a, b]
  return e

/-! ## Assignments -/

def assignOp? : Token → Option AssignOp
  | .punct "=" => some .set
  | .punct "+=" => some (.update .add)
  | .punct "-=" => some (.update .sub)
  | .punct "*=" => some (.update .mul)
  | .punct "/=" => some (.update .div)
  | .punct "%=" => some (.update .rem)
  | .punct "**=" => some (.update .exp)
  | .punct "<<=" => some (.update .shl)
  | .punct ">>=" => some (.update .shr)
  | .punct ">>>=" => some (.update .ushr)
  | .punct "&=" => some (.update .bitAnd)
  | .punct "|=" => some (.update .bitOr)
  | .punct "^=" => some (.update .bitXor)
  | .punct "&&=" => some (.logical .and)
  | .punct "||=" => some (.logical .or)
  | .punct "??=" => some (.logical .nullish)
  | _ => none

/-- `yield`, with or without a value. -/
def yieldExpr : S Node := do
  advance
  if (← lexeme).lineBreak then return .mk .yield [.absent]
  if ← eat "*" then return .mk .yieldAll [← again .assign]
  match ← token with
  | .eof | .punct ")" | .punct "]" | .punct "\x7d" | .punct "," | .punct ";" | .punct ":" =>
      return .mk .yield [.absent]
  | .name "in" false | .name "of" false => return .mk .yield [.absent]
  | _ => return .mk .yield [← again .assign]

/-- An arrow function that starts with a word, if one starts here. -/
def wordArrow? : S (Option Node) := do
  match ← token with
  | .name w escaped =>
      if reserved.contains w || valueWords.contains w then return none
      let next ← peekNext
      let startsAsync := match next.token with
        | .punct "(" => true
        | .name v _ => isPlainWord next.token || v == "yield" || v == "await"
        | _ => false
      if w == "async" && !escaped && !next.lineBreak && startsAsync then
        return some (← asyncArrow)
      match next.token with
      | .punct "=>" =>
          let start ← spot
          let x ← bindingName
          return some (← arrowRest [.mk (.ident x) []] start)
      | _ => return none
  | _ => return none

def assignment : S Node := do
  if (← ctx).inGenerator && (← isWord "yield") then return ← yieldExpr
  let start ← spot
  match ← wordArrow? with
  | some f => return f
  | none => pure ()
  let e ← conditional
  match e with
  | .mk .params ps => return ← arrowRest ps start
  | _ => pure ()
  match assignOp? (← token) with
  | none => return e
  | some op =>
      let isStrict ← strict
      let found := match op with
        | .set => target? isStrict e
        | _ => simpleTarget? isStrict e
      match found with
      | none => generalAt "Invalid left-hand side in assignment" (← spot)
      | some t =>
          advance
          return .mk (.assign op) [t, ← again .assign]

end S

end Inlay.Engine.Syntax
