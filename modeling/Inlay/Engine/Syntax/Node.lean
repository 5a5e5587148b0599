import Inlay.Engine.Number

/-! # Scripts

    The language that the engine runs, as a uniform tree: a node has a form, which carries all that
    is not itself a node, and its parts.  What a scope declares is collected when the script is
    read, so that running a script never has to search its text. -/

namespace Inlay.Engine

abbrev Name := Units

inductive BinaryOp where
  | add | sub | mul | div | rem | exp | shl | shr | ushr | bitAnd | bitOr | bitXor
  | eq | ne | same | differ | lt | le | gt | ge | isIn | instanceOf
  deriving DecidableEq

inductive LogicalOp where
  | and | or | nullish
  deriving DecidableEq

inductive UnaryOp where
  | minus | plus | not | bitNot | typeof | void | delete
  deriving DecidableEq

/-- How an assignment combines the old value with the new one. -/
inductive AssignOp where
  | set
  | update (op : BinaryOp)
  | logical (op : LogicalOp)
  deriving DecidableEq

/-- What sort of function a definition makes. -/
inductive FnSort where
  | plain | arrow | method | getter | setter
  /-- The constructor of a class. -/
  | ctor
  /-- The constructor of a class with a superclass. -/
  | derived
  /-- The initializer of a field, or a static block. -/
  | initializer
  deriving DecidableEq, Inhabited

/-- What is known of a function apart from its parts. -/
structure FnInfo where
  name : Name := .empty
  sort : FnSort := .plain
  isAsync : Bool := false
  isGenerator : Bool := false
  strict : Bool := false
  /-- How many parameters stand before the first with a default or the rest. -/
  length : Nat := 0
  /-- Whether all parameters are plain names. -/
  simple : Bool := true
  /-- The names of the parameters. -/
  params : List Name := []
  /-- The names declared with `var` and by functions, each once. -/
  vars : List Name := []
  /-- The names declared at the top level of the body by `let`, `const` and classes, with whether
      they are constant. -/
  lexical : List (Name × Bool) := []
  /-- Whether the body may refer to `arguments`. -/
  usesArguments : Bool := false
  /-- Whether the function is an expression that can refer to itself by its name. -/
  isNamedExpr : Bool := false
  deriving Inhabited

inductive MethodSort where
  | method | getter | setter
  deriving DecidableEq

inductive VarSort where
  | var | letVar | const
  deriving DecidableEq

/-- What a node is, apart from its parts.  Parts are given behind each form; a part in parentheses
    may be `absent`, and `list` nodes hold any number of parts. -/
inductive Form where
  | absent
  | list
  /- literals -/
  | null
  | bool (b : Bool)
  | num (x : Num)
  | bigint (n : Int)
  | str (s : Units)
  | regex (pattern flags : Units)
  /-- Expressions between the texts. -/
  | template (texts : List Units)
  /-- The tag, then the expressions between the texts. -/
  | tagged (site : Nat) (cooked : List (Option Units)) (raw : List Units)
  /- expressions -/
  | ident (name : Name)
  | this
  | newTarget
  /-- Items, among them `hole` and `spread`; whether a comma follows a spread that comes last. -/
  | array (endsInComma : Bool)
  | hole
  | spread
  /-- Members: `init`, `proto`, `method`, `spread`. -/
  | object
  /-- Name and value. -/
  | init
  | proto
  /-- Name and function. -/
  | method (sort : MethodSort)
  | plainName (name : Name)
  | computedName
  | hiddenName (name : Name)
  /-- A list of parameters, a list of the functions declared at the top level, a list of
      statements. -/
  | fn (info : FnInfo)
  /-- (Parent), (constructor), a list of elements. -/
  | cls (name : Name) (isNamed : Bool)
  /-- Name and function. -/
  | methodElement (isStatic : Bool) (sort : MethodSort)
  /-- Name and (initializer). -/
  | fieldElement (isStatic : Bool)
  | blockElement
  | unary (op : UnaryOp)
  | update (isIncrement isPrefix : Bool)
  | binary (op : BinaryOp)
  | logical (op : LogicalOp)
  /-- Pattern and value. -/
  | assign (op : AssignOp)
  | cond
  /-- Callee and a list of arguments. -/
  | call
  | superCall
  | new
  | member (name : Name)
  /-- Object and key. -/
  | index
  | privateMember (name : Name)
  | superMember (name : Name)
  | superIndex
  /-- A chain with optional links; a link that finds nothing ends the whole chain. -/
  | chain
  /-- The value in front of an optional link. -/
  | link
  | seq
  | yield
  | yieldAll
  | await
  | importCall
  | privateIn (name : Name)
  | paren
  /-- The parameters of an arrow function that has not been read yet. -/
  | params
  /- patterns: `ident` and member expressions are patterns too -/
  /-- Items, among them `hole` and `rest`. -/
  | patArray
  /-- `patProp` and `rest`. -/
  | patObject
  /-- Name and pattern. -/
  | patProp
  | rest
  /-- Pattern and default. -/
  | withDefault
  /- statements -/
  | emptyStmt
  | exprStmt
  | varStmt (sort : VarSort)
  /-- Pattern and (value). -/
  | declarator
  | fnDecl (name : Name)
  | classDecl (name : Name)
  /-- A list of functions and a list of statements. -/
  | block (lexical : List (Name × Bool))
  | ret
  | ifStmt
  | whileLoop
  | doLoop
  /-- (Init), (test), (update), body; the names are made anew for each round. -/
  | forLoop (names : List (Name × Bool))
  /-- Pattern, (initial value), object, body; `sort` is absent when nothing is declared. -/
  | forIn (sort : Option VarSort) (names : List Name)
  | forOf (isAwait : Bool) (sort : Option VarSort) (names : List Name)
  | breakTo (label : Option Name)
  | continueTo (label : Option Name)
  | throw
  /-- Block, (handler), (finalizer). -/
  | attempt
  /-- (Parameter) and block. -/
  | handler (names : List Name)
  /-- Discriminant, a list of functions, a list of cases. -/
  | switch (lexical : List (Name × Bool))
  /-- (Test) and a list of statements. -/
  | case
  | labelled (label : Name)
  | withObj

/-- A node of a script. -/
inductive Node where
  | mk (form : Form) (parts : List Node)

namespace Node

def form : Node → Form
  | mk f _ => f

def parts : Node → List Node
  | mk _ ps => ps

@[match_pattern]
abbrev absent : Node := mk .absent []

instance : Inhabited Node := ⟨absent⟩

def list (ns : List Node) : Node := mk .list ns

def isAbsent : Node → Bool
  | mk .absent _ => true
  | _ => false

/-- The `i`-th part, or a missing one. -/
def part (n : Node) (i : Nat) : Node := (n.parts[i]?).getD absent

def fnInfo : Node → FnInfo
  | mk (.fn i) _ => i
  | _ => {}

end Node

/-- A script: what it declares, its functions and its statements. -/
structure Script where
  strict : Bool
  vars : List Name
  lexical : List (Name × Bool)
  functions : List Node
  body : List Node
  /-- The number of the next tagged template. -/
  sites : Nat

end Inlay.Engine
