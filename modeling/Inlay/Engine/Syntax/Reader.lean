import Inlay.Engine.Syntax.Lexer
import Inlay.Engine.Syntax.Node

/-! # Reading scripts: the machinery

    A reader looks at the current token and moves on; the names that scopes declare are collected on
    the way.  Readers that contain each other meet in `again`, which the whole language supplies
    with one less unit of fuel. -/

namespace Inlay.Engine.Syntax

/-- A name that a block declares. -/
structure Declared where
  name : Name
  isConst : Bool
  isFunction : Bool := false

/-- What has been declared so far: names of the innermost function, newest first, and names and
    functions of the innermost block. -/
structure Decls where
  vars : List Name := []
  lexical : List Declared := []
  functions : List Node := []

/-- What the surrounding constructs allow. -/
structure Ctx where
  strict : Bool := false
  inFunction : Bool := false
  inGenerator : Bool := false
  inAsync : Bool := false
  allowIn : Bool := true
  /-- Whether declarations stand at the top level of a function or script. -/
  atTop : Bool := true
  /-- Whether a running script evaluates the text, so that more may surround it. -/
  isEvaluated : Bool := false
  /-- Whether operators on literals are worked out while reading. -/
  folds : Bool := false
  deriving Inhabited

structure State where
  lexeme : Lexeme
  ctx : Ctx := {}
  decls : Decls := {}
  usesArguments : Bool := false
  /-- How many tagged templates have been met. -/
  sites : Nat := 0

/-- Readers that contain each other. -/
inductive Goal where
  /-- An assignment expression. -/
  | assign
  /-- An operand with the operators in front of it. -/
  | unary
  /-- Operands joined by `&&`, `||` and `??`. -/
  | joined (afterLogical : Bool)
  /-- Operands joined by `**`. -/
  | power
  /-- A statement. -/
  | stmt
  /-- A statement or a declaration. -/
  | item
  /-- What stands behind `new`. -/
  | callee
  /-- An operand with the calls and members behind it. -/
  | operand

structure Env where
  again : Goal → EStateM Fault State Node

abbrev S := ReaderT Env (EStateM Fault State)

namespace S

def again (g : Goal) : S Node := do (← read).again g

def lexeme : S Lexeme := do return (← get).lexeme

def token : S Token := do return (← get).lexeme.token

def ctx : S Ctx := do return (← get).ctx

def strict : S Bool := do return (← get).ctx.strict

def spot : S Spot := do return (← get).lexeme.start

def fuel : S Nat := do return (← get).lexeme.before.rest.length + 2

def strictFault? (l : Lexeme) : Option (String × Spot) :=
  match l.token with
  | .num _ (some m) => some (m, l.start)
  | .str _ f => f
  | _ => none

/-- Makes a token the current one; strict code does not take every token. -/
def useLexeme (r : Except Fault Lexeme) : S Unit := do
  match r with
  | .error f => throw f
  | .ok l =>
      modify fun s => { s with lexeme := l }
      if ← strict then
        match strictFault? l with
        | some (m, p) => throw (.general m p)
        | none => pure ()

def advance : S Unit := do useLexeme (← lexeme).after.next

def peekNext : S Lexeme := do
  match (← lexeme).after.next with
  | .ok l => return l
  | .error f => throw f

def withCtx {α : Type} (f : Ctx → Ctx) (r : S α) : S α := do
  let old ← ctx
  modify fun s => { s with ctx := f s.ctx }
  let a ← r
  modify fun s => { s with ctx := old }
  return a

def isPunct (p : String) : S Bool := do
  match ← token with
  | .punct q => return p == q
  | _ => return false

/-- Whether the current token is a word written without escapes. -/
def isWord (w : String) : S Bool := do
  match ← token with
  | .name v false => return w == v
  | _ => return false

def eat (p : String) : S Bool := do
  if ← isPunct p then
    advance
    return true
  return false

def eatWord (w : String) : S Bool := do
  if ← isWord w then
    advance
    return true
  return false

/-- Stops at the current token, or at the end of the text. -/
def stop {α : Type} (f : String → Spot → Fault) : S α := do
  match ← token with
  | .eof => throw .abruptEnd
  | t => throw (f t.text (← spot))

def expected {α : Type} (tokens : List String) (context : String) : S α :=
  stop fun found p => .expected tokens found p context

def unexpected {α : Type} (message : String) : S α :=
  stop fun found p => .unexpected found p message

def expect (p : String) (context : String) : S Unit := do
  if !(← eat p) then expected [p] context

def expectWord (w : String) (context : String) : S Unit := do
  if !(← eatWord w) then expected [w] context

/-- Whether a statement may end in front of the current token, or with it. -/
def atStatementEnd : S Bool := do
  match ← token with
  | .eof | .punct ";" | .punct "\x7d" => return true
  | _ => return (← lexeme).lineBreak

/-- The end of a statement: the end of its line, a semicolon, or a place where one may be left
    out. -/
def semicolon (context : String) : S Unit := do
  if (← lexeme).lineBreak then return
  if ← eat ";" then return
  if !(← atStatementEnd) then expected [";"] context

/-- The current token must stand on the same line as the token before. -/
def sameLine (message : String) : S Unit := do
  match (← lexeme).breakSpot with
  | some p => throw (.unexpected "line terminator" p message)
  | none => return

def generalAt {α : Type} (message : String) (p : Spot) : S α := throw (.general message p)

/-! ## Names -/

def reserved : List String :=
  ["break", "case", "catch", "class", "const", "continue", "debugger", "default", "delete", "do",
    "else", "enum", "export", "extends", "finally", "for", "function", "if", "import", "in",
    "instanceof", "new", "return", "super", "switch", "this", "throw", "try", "typeof", "var",
    "void", "while", "with"]

def valueWords : List String := ["true", "false", "null"]

def strictReserved : List String :=
  ["implements", "interface", "let", "package", "private", "protected", "public", "static", "yield"]

/-- Whether a token is a word without a meaning of its own. -/
def isPlainWord : Token → Bool
  | .name w _ => !keywords.contains w
  | _ => false

/-- Whether a token is a word that some code uses as a name. -/
def isNameToken : Token → Bool
  | .name w _ => !reserved.contains w && !valueWords.contains w
  | _ => false

def identifier : S String := do
  match ← token with
  | .name w _ =>
      if valueWords.contains w then expected ["identifier"] "identifier parsing"
      if (← strict) && strictReserved.contains w then
        unexpected "strict reserved word cannot be an identifier"
      if reserved.contains w then unexpected "reserved word cannot be an identifier"
      advance
      return w
  | _ => expected ["identifier"] "identifier parsing"

/-- Generators have no name `yield`, and asynchronous functions none `await`. -/
def checkKeyword (w : String) (p : Spot) : S Unit := do
  let c ← ctx
  if (w == "yield" && c.inGenerator) || (w == "await" && c.inAsync) then
    generalAt s!"keyword `{w}` not allowed in this context" p

def reference : S Name := do
  let p ← spot
  let w ← identifier
  checkKeyword w p
  if w == "arguments" || w == "eval" then modify fun s => { s with usesArguments := true }
  return .ofString w

def bindingName : S Name := do
  let p ← spot
  let w ← identifier
  if (← strict) && (w == "eval" || w == "arguments") then
    generalAt s!"binding identifier `{w}` not allowed in strict mode" p
  checkKeyword w p
  return .ofString w

/-! ## Declarations -/

def declareVar (n : Name) : S Unit :=
  modify fun s => { s with decls := { s.decls with vars := n :: s.decls.vars } }

def declareLexical (n : Name) (isConst : Bool) (isFunction : Bool := false) : S Unit :=
  modify fun s =>
    { s with decls := { s.decls with lexical := ⟨n, isConst, isFunction⟩ :: s.decls.lexical } }

/-- Names without repetition, in order of first occurrence. -/
def distinct (ns : List Name) : List Name :=
  ns.foldl (fun out n => if out.contains n then out else out ++ [n]) []

def bound (fuel : Nat) (n : Node) : List Name :=
  match fuel, n with
  | fuel + 1, .mk form parts =>
      match form with
      | .ident x => [x]
      | .patArray | .patObject | .rest => parts.flatMap (bound fuel)
      | .patProp => (parts.drop 1).flatMap (bound fuel)
      | .withDefault => (parts.take 1).flatMap (bound fuel)
      | _ => []
  | 0, _ => []

def patternDepth : Nat := 1000

/-- Whether a name is declared twice, functions of sloppy code apart. -/
def repeated (isStrict : Bool) : List Declared → Bool
  | [] => false
  | d :: ds =>
      ds.any (fun e => e.name == d.name && !(d.isFunction && e.isFunction && !isStrict))
        || repeated isStrict ds

/-- Whether a name is declared both by a block and for the whole function. -/
def Decls.clash (d : Decls) : Bool := d.vars.any fun v => d.lexical.any (·.name == v)

/-- The names that `let`, `const` and classes declare, each once, with whether they are constant. -/
def Decls.lexicalNames (d : Decls) : List (Name × Bool) :=
  (d.lexical.reverse.filter (!·.isFunction)).foldl
    (fun out d => if out.any (·.1 == d.name) then out else out ++ [(d.name, d.isConst)]) []

/-- Reads a block: names it declares are its own.  The message is for a name that is also declared
    for the whole function. -/
def block {α : Type} (clashMessage : String) (p : Spot) (r : S α) :
    S (α × List (Name × Bool) × List Node) := do
  let outer := (← get).decls
  modify fun s => { s with decls := {} }
  let a ← withCtx ({ · with atTop := false }) r
  let inner := (← get).decls
  if repeated (← strict) inner.lexical then generalAt "lexical name declared multiple times" p
  if Decls.clash inner then generalAt clashMessage p
  modify fun s => { s with decls := { outer with vars := inner.vars ++ outer.vars } }
  return (a, Decls.lexicalNames inner, inner.functions.reverse)

end S

end Inlay.Engine.Syntax
