import Inlay.Syntax.Lexer

/-! # Reading trees from tokens: the machinery

    A reader looks at the current token, moves on, records faults that need not stop it, and stops
    at the first fault that must.  Nonterminals that contain each other are reached through
    `again`, which the whole grammar supplies with one less unit of fuel, so every reader here is an
    ordinary total function. -/

namespace Inlay.Syntax

/-- Which language extensions a text may use. -/
structure Dialect where
  isTypeScript : Bool := false
  hasMarkup : Bool := false
  hasDecorators : Bool := false
  deriving DecidableEq

/-- What the surrounding constructs allow or change. -/
structure Ctx where
  dialect : Dialect
  isModule : Bool := false
  strict : Bool := false
  includeIn : Bool := true
  inAsync : Bool := false
  inGenerator : Bool := false
  inFunction : Bool := false
  inPlainFunction : Bool := false
  inParameters : Bool := false
  inClass : Bool := false
  inClassField : Bool := false
  inStaticBlock : Bool := false
  hasSuperClass : Bool := false
  allowSuper : Bool := false
  allowBreak : Bool := false
  allowContinue : Bool := false
  allowUsing : Bool := false
  /-- Whether the head of a loop is being read, and whether that loop waits. -/
  inLoopHead : Bool := false
  inAwaitLoopHead : Bool := false
  ignoreElse : Bool := false
  inCond : Bool := false
  expectColon : Bool := false
  inType : Bool := false
  noConditionalType : Bool := false
  inDeclare : Bool := false
  ignoreFaults : Bool := false
  labels : List String := []

namespace Ctx

def mode (c : Ctx) : LexMode :=
  { isStrict := c.strict, inType := c.inType, isTypeScript := c.dialect.isTypeScript }

/-- Whether a word is taken by the language here, so that no name can be spelled so. -/
def isReserved (c : Ctx) (w : String) : Bool :=
  if w == "let" then c.strict
  else if w == "await" then c.inAsync || c.inStaticBlock || c.isModule
  else if w == "yield" then c.inGenerator || c.strict
  else if ["implements", "package", "protected", "interface", "private", "public"].contains w then
    c.strict
  else w == "enum" || Token.isKeywordName w

end Ctx

/-- Where a reader stands. -/
structure State where
  /-- The place behind the previous token. -/
  before : Cursor
  token : Token
  span : Span
  /-- Whether a line ended between the previous token and this one. -/
  lineBreak : Bool
  after : Cursor
  prev : Span := ⟨0, 0⟩
  /-- Faults so far, newest first. -/
  faults : List Fault := []
  /-- Faults that count only in modules, newest first. -/
  moduleFaults : List Fault := []
  /-- Whether something was met that only a module may hold. -/
  foundModuleItem : Bool := false
  /-- Where an arrow function may begin. -/
  arrowStart : Option Nat := none

/-- The nonterminals that may contain one another. -/
inductive Goal where
  | expr
  | assign
  | unary
  | lhs
  | bindingPat
  | statement (includeDecl topLevel : Bool)
  | block (directives : Bool)
  | functionRest (start : Nat) (isAsync isGenerator : Bool) (decorators : List Ast)
  | classRest (start : Nat) (nameRequired : Bool) (decorators : List Ast)
  | object
  | objectPat
  | template (tagged : Bool)
  | markup (inTag : Bool)
  | type
  | plainType
  | typeArgs
  | typeParams (allowVariance allowConst : Bool)
  | returnType (arrow : Bool)
  | formalParams
  | callArgs (isImport : Bool)
  | subscripts (base : Ast) (noCall noComputed : Bool)

/-- What every reader can consult. -/
structure Env where
  ctx : Ctx
  /-- More rounds than any loop over the text can take. -/
  size : Nat
  again : Goal → Ctx → State → EStateM.Result Fault State Ast

/-- A reader of `α`. -/
abbrev P := ReaderT Env (EStateM Fault State)

namespace P

/-! ## Context -/

def ctx : P Ctx := return (← read).ctx

def withCtx {α : Type} (f : Ctx → Ctx) (p : P α) : P α :=
  fun env => p { env with ctx := f env.ctx }

/-- Reads a nonterminal of the whole grammar. -/
def goal (g : Goal) : P Ast := fun env s => env.again g env.ctx s

def isTypeScript : P Bool := return (← ctx).dialect.isTypeScript

def withIn {α : Type} (b : Bool) : P α → P α := withCtx fun c => { c with includeIn := b }

/-! ## Faults -/

def addFault (f : Fault) : P Unit := do
  if (← ctx).ignoreFaults then return
  modify fun s => { s with faults := f :: s.faults }

/-- Records a fault and goes on; a token that could not be read is reported before it. -/
def emit (p : Problem) (sp : Span) : P Unit := do
  if let .error q qs := (← get).token then addFault ⟨q, qs⟩
  addFault ⟨p, sp⟩

/-- Records a fault of strict code, which counts only in modules. -/
def emitStrict (p : Problem) (sp : Span) : P Unit := do
  let c ← ctx
  if c.ignoreFaults then return
  if c.isModule then addFault ⟨p, sp⟩
  else modify fun s => { s with moduleFaults := ⟨p, sp⟩ :: s.moduleFaults }

/-- Stops at a fault; at the end of the text it is the end that is at fault. -/
def fail {α : Type} (p : Problem) (sp : Span) : P α := do
  let s ← get
  match s.token with
  | .eof => throw ⟨.eof, s.span⟩
  | _ => throw ⟨p, sp⟩

def failHere {α : Type} (p : Problem) : P α := do fail p (← get).span

/-- Stops because something else was wanted. -/
def unexpected {α : Type} (wanted : String) : P α := do
  let s ← get
  failHere (.unexpected s.token.describe wanted)

/-! ## Tokens -/

def cur : P Token := return (← get).token
def curSpan : P Span := return (← get).span
def curPos : P Nat := return (← get).span.lo
def prevSpan : P Span := return (← get).prev
def hadBreak : P Bool := return (← get).lineBreak

/-- The current token, which must be there and be well formed. -/
def need : P Token := do
  let s ← get
  match s.token with
  | .eof => throw ⟨.eof, s.span⟩
  | .error p sp => throw ⟨p, sp⟩
  | t => return t

/-- A word that is reserved here may not be spelt with escapes. -/
def checkEscape (c : Ctx) (l : Lexed) : Lexed :=
  match l.token with
  | .word w true =>
      if c.isReserved w then { l with token := .error (.escapeInReserved w) l.span } else l
  | _ => l

/-- Makes a token that was just read the current one. -/
def accept (l : Lexed) (before : Cursor) : P Unit := do
  let c ← ctx
  let l := checkEscape c l
  let keep := !c.ignoreFaults
  modify fun s =>
    { s with
      before, token := l.token, span := l.span, lineBreak := l.lineBreak, after := l.after
      faults := if keep then l.faults.reverse ++ s.faults else s.faults
      moduleFaults := if keep then l.moduleFaults.reverse ++ s.moduleFaults else s.moduleFaults }

/-- Reads the current token once more, in the context as it is now. -/
def reread : P Unit := do
  let s ← get
  accept (s.before.next (← ctx).mode) s.before

/-- Moves to the next token as a given reader of tokens yields it. -/
def advance (read : Cursor → Lexed) : P Unit := do
  let s ← get
  set { s with prev := s.span }
  accept (read s.after) s.after

def bump : P Token := do
  let t ← cur
  advance (·.next (← ctx).mode)
  return t

def peek : P Lexed := do
  let c ← ctx
  return checkEscape c ((← get).after.next c.mode)

def isP (p : Punct) : P Bool := return (← cur) == .punct p

/-- Whether the current token is the given word. -/
def isW (w : String) : P Bool := do
  match ← cur with
  | .word n esc => return n == w && (!esc || !Token.keywords.contains w)
  | _ => return false

def isWordToken : P Bool := do
  match ← cur with
  | .word .. => return true
  | _ => return false

def isEof : P Bool := return (← cur) == .eof

def isAnyP (ps : List Punct) : P Bool := do
  match ← cur with
  | .punct p => return ps.contains p
  | _ => return false

def isAnyW (ws : List String) : P Bool := do
  match ← cur with
  | .word n _ => return ws.contains n
  | _ => return false

def isName : P Bool := do
  match ← cur with
  | .word n _ => return !(← ctx).isReserved n
  | _ => return false

def peekIsP (p : Punct) : P Bool := return (← peek).token == .punct p

def peekIsW (w : String) : P Bool := do
  match (← peek).token with
  | .word n _ => return n == w
  | _ => return false

def peekIsWord : P Bool := do
  match (← peek).token with
  | .word .. => return true
  | _ => return false

def peekIsName : P Bool := do
  match (← peek).token with
  | .word n _ => return !(← ctx).isReserved n
  | _ => return false

def onlyIf (b : Bool) (step : P Bool) : P Bool := if b then step else pure false

def eatP (p : Punct) : P Bool := do
  if ← isP p then
    let _ ← bump
    return true
  else return false

def eatW (w : String) : P Bool := do
  if ← isW w then
    let _ ← bump
    return true
  else return false

def expectText (wanted : String) : P Unit := do
  failHere (.expected wanted (← cur).describe)

def expectP (p : Punct) : P Unit := do
  unless ← eatP p do expectText p.text

def expectW (w : String) : P Unit := do
  unless ← eatW w do expectText w

def isEnd : P Bool := do
  let s ← get
  match s.token with
  | .punct .semi | .punct .rbrace | .eof => return true
  | _ => return s.lineBreak

def eatEnd : P Bool := do
  if ← eatP .semi then return true
  isEnd

def expectEnd : P Unit := do
  unless ← eatEnd do expectText ";"

/-! ## Nodes -/

/-- From a start to the end of the token before. -/
def spanFrom (lo : Nat) : P Span := return ⟨lo, (← get).prev.hi⟩

def mk (shape : Shape) (lo : Nat) (parts : List Ast) : P Ast :=
  return .node shape (← spanFrom lo) parts

/-! ## Trying -/

/-- Reads if it can; a failure leaves no trace, and a success drops the faults met. -/
def attempt {α : Type} (p : P (Option α)) : P (Option α) := fun env s =>
  match p { env with ctx := { env.ctx with ignoreFaults := true } } s with
  | .ok (some a) s' => .ok (some a) s'
  | _ => .ok none s

def lookAhead (p : P Bool) : P Bool := fun env s =>
  match p { env with ctx := { env.ctx with ignoreFaults := true } } s with
  | .ok b _ => .ok b s
  | .error .. => .ok false s

/-- Runs a reader; a failure is recorded, and the place where it stopped is kept. -/
def recover {α : Type} (p : P α) : P (Except Fault α) := fun env s =>
  match p env s with
  | .ok a s' => .ok (.ok a) s'
  | .error f s' => .ok (.error f) s'

/-! ## Loops -/

def repeatStep {α β : Type} (step : β → P (β ⊕ α)) : Nat → β → P α
  | 0, _ => do throw ⟨.eof, (← get).span⟩
  | n + 1, b => do
      match ← step b with
      | .inl b' => repeatStep step n b'
      | .inr a => return a

def iterate {α β : Type} (start : β) (step : β → P (β ⊕ α)) : P α := do
  repeatStep step (← read).size start

/-- Collects items as long as `more` holds. -/
def collect (more : P Bool) (item : P Ast) : P (List Ast) :=
  iterate ([] : List Ast) fun out => do
    if ← more then return .inl ((← item) :: out) else return .inr out.reverse

/-! ## Types in between -/

/-- Runs a reader where `<` and `>` are brackets; the token at either end is read anew. -/
def inType {α : Type} (p : P α) : P α := do
  if (← ctx).inType then p
  else
    let a ← withCtx (fun c => { c with inType := true }) do
      if ← startsAngle then reread
      p
    if ← startsAngle then reread
    return a
where
  startsAngle : P Bool := do
    match ← cur with
    | .punct (.binary .lt) | .punct (.binary .gt) | .punct (.binary .shl) | .punct (.binary .shr)
    | .punct (.binary .ushr) | .punct (.binary .le) | .punct (.binary .ge)
    | .punct (.assign (.update .shl)) | .punct (.assign (.update .shr))
    | .punct (.assign (.update .ushr)) => return true
    | _ => return false

/-- Leaves the bracket reading of `<` and `>`. -/
def outOfType {α : Type} (p : P α) : P α := withCtx (fun c => { c with inType := false }) p

end P

end Inlay.Syntax
