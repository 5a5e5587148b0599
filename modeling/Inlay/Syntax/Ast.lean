/-! # Syntax trees

    A program is a uniform tree: every node has a shape, the stretch of source it covers and its
    parts in the order in which a traversal meets them.  Shapes carry what is not itself a tree
    (names, operators, flags).  One recursion over nodes therefore walks every construct of the
    language, and a statement about traversals needs one induction.

    An optional part that is missing is an `absent` node, a list of parts is a `group` node (or a
    `statements` node, for the statements of a switch case), so a shape fixes the number of its
    parts. -/

namespace Inlay.Syntax

/-- A stretch of source: positions from `lo` up to `hi`.  Position `0` belongs to no file. -/
structure Span where
  lo : Nat := 0
  hi : Nat := 0
  deriving DecidableEq, Inhabited

namespace Span

def none : Span := ⟨0, 0⟩

def isNone (s : Span) : Bool := s.lo == 0

end Span

/-- What scope analysis knows about a name: nothing yet, that no declaration binds it, or that
    one does. -/
inductive Mark where
  | unset
  | free
  | bound
  deriving DecidableEq, Inhabited

inductive UnaryOp where
  | minus | plus | not | bitNot | typeof | void | delete
  deriving DecidableEq

namespace UnaryOp

def text : UnaryOp → String
  | minus => "-"
  | plus => "+"
  | not => "!"
  | bitNot => "~"
  | typeof => "typeof"
  | void => "void"
  | delete => "delete"

/-- Operators spelled as words are set off by a blank. -/
def isWord : UnaryOp → Bool
  | typeof | void | delete => true
  | _ => false

end UnaryOp

inductive BinaryOp where
  | eq | ne | same | differ | lt | le | gt | ge | shl | shr | ushr | add | sub | mul | div | rem
  | bitOr | bitXor | bitAnd | or | and | isIn | instanceof | exp | nullish
  deriving DecidableEq

namespace BinaryOp

def text : BinaryOp → String
  | eq => "=="
  | ne => "!="
  | same => "==="
  | differ => "!=="
  | lt => "<"
  | le => "<="
  | gt => ">"
  | ge => ">="
  | shl => "<<"
  | shr => ">>"
  | ushr => ">>>"
  | add => "+"
  | sub => "-"
  | mul => "*"
  | div => "/"
  | rem => "%"
  | bitOr => "|"
  | bitXor => "^"
  | bitAnd => "&"
  | or => "||"
  | and => "&&"
  | isIn => "in"
  | instanceof => "instanceof"
  | exp => "**"
  | nullish => "??"

def precedence : BinaryOp → Nat
  | nullish => 1
  | or => 1
  | and => 2
  | bitOr => 3
  | bitXor => 4
  | bitAnd => 5
  | eq | ne | same | differ => 6
  | lt | le | gt | ge | instanceof | isIn => 7
  | shl | shr | ushr => 8
  | add | sub => 9
  | mul | div | rem => 10
  | exp => 11

end BinaryOp

inductive AssignOp where
  | set
  | update (op : BinaryOp)
  deriving DecidableEq

def AssignOp.text : AssignOp → String
  | set => "="
  | update op => op.text ++ "="

inductive VarKind where
  | var | letVar | const
  deriving DecidableEq

def VarKind.text : VarKind → String
  | var => "var"
  | letVar => "let"
  | const => "const"

inductive MethodKind where
  | method | getter | setter
  deriving DecidableEq

inductive Access where
  | publicly | privately | protectedly
  deriving DecidableEq

def Access.text : Access → String
  | publicly => "public"
  | privately => "private"
  | protectedly => "protected"

/-- Modifiers in front of a class member or a constructor parameter. -/
structure Modifiers where
  access : Option Access := .none
  isStatic : Bool := false
  isAbstract : Bool := false
  isOverride : Bool := false
  isOptional : Bool := false
  isReadonly : Bool := false
  isDefinite : Bool := false
  isDeclare : Bool := false
  deriving DecidableEq, Inhabited

/-- The `?` and `readonly` marks of a mapped type, which may be added or taken away. -/
inductive MappedMark where
  | absent | present | plus | minus
  deriving DecidableEq

/-- What a node is, apart from its parts. -/
inductive Shape where
  /- structure -/
  | absent
  | group
  | statements
  /- names and literals -/
  | ident (name : String) (mark : Mark) (isOptional : Bool)
  | plainName (name : String)
  | privateName (name : String)
  | null
  | bool (value : Bool)
  | num (raw : String)
  | bigint (raw : String)
  | str (value raw : String)
  | regex (pattern flags : String)
  /- expressions -/
  | thisRef
  | superRef
  | importRef
  | newTarget
  | importMeta
  | template (quasis : List String)
  | tagged
  | array
  | hole
  | spread
  | object
  | keyValue
  | assignProp
  | getter
  | setter
  | methodProp
  | computed
  | fnExpr
  | arrow (isAsync hasBlock : Bool)
  | classExpr
  | unary (op : UnaryOp)
  | update (isIncrement isPrefix : Bool)
  | binary (op : BinaryOp)
  | assign (op : AssignOp)
  | cond
  | call
  | new
  | member
  | optMember (optional : Bool)
  | optCall (optional : Bool)
  | seq
  | yield (delegate : Bool)
  | await
  | paren
  /- functions and classes -/
  | function (isAsync isGenerator : Bool)
  | param
  | paramProp (modifiers : Modifiers)
  | decorator
  | classBody (isAbstract : Bool)
  | ctor (modifiers : Modifiers)
  | method (kind : MethodKind) (modifiers : Modifiers)
  | field (modifiers : Modifiers)
  | accessor (modifiers : Modifiers)
  | staticBlock
  | indexSignature (modifiers : Modifiers)
  | emptyMember
  /- patterns -/
  | arrayPat (isOptional : Bool)
  | objectPat (isOptional : Bool)
  | keyValuePat
  | assignPropPat
  | assignPat
  | rest
  | invalid
  /- statements and declarations -/
  | scriptRoot (shebang : Option String)
  | moduleRoot (shebang : Option String)
  | block
  | emptyStmt
  | debuggerStmt
  | withStmt
  | returnStmt
  | labeled
  | breakStmt
  | continueStmt
  | ifStmt
  | switchStmt
  | switchCase
  | throwStmt
  | tryStmt
  | catchClause
  | whileStmt
  | doWhile
  | forStmt
  | forInStmt
  | forOfStmt (isAwait : Bool)
  | exprStmt
  | varDecl (kind : VarKind) (isDeclare : Bool)
  | usingDecl (isAwait : Bool)
  | declarator (isDefinite : Bool)
  | fnDecl (isDeclare : Bool)
  | classDecl (isDeclare : Bool)
  /- modules -/
  | importDecl (typeOnly : Bool)
  | importNamed (typeOnly : Bool)
  | importDefault
  | importStar
  | exportDecl
  | exportNamed (typeOnly : Bool)
  | exportSpecifier (typeOnly : Bool)
  | exportStarAs
  | exportDefaultSpecifier
  | exportDefaultExpr
  | exportDefaultDecl
  | exportAll (typeOnly : Bool)
  | importEquals (isExport typeOnly : Bool)
  | exportAssign
  | exportNamespace
  | externalModule
  /- types -/
  | typeAnn
  | typeArgs
  | typeParams
  | typeParam (isConst isIn isOut : Bool)
  | keywordType (name : String)
  | thisType
  | fnType
  | constructorType (isAbstract : Bool)
  | typeRef
  | typeQuery
  | typeLiteral
  | arrayType
  | tupleType
  | tupleElement
  | optionalType
  | restType
  | unionType
  | intersectionType
  | conditionalType
  | inferType
  | parenType
  | operatorType (op : String)
  | indexedType
  | mappedType (isReadonly isOptional : MappedMark)
  | literalType
  | templateType (quasis : List String)
  | predicateType (asserts : Bool)
  | importType
  | qualifiedName
  | exprWithTypeArgs
  | asExpr
  | asConst
  | satisfies
  | nonNull
  | typeAssertion
  | instantiation
  | callSignature
  | constructSignature
  | propertySignature (isReadonly isComputed isOptional : Bool)
  | getterSignature (isComputed : Bool)
  | setterSignature (isComputed : Bool)
  | methodSignature (isComputed isOptional : Bool)
  | interfaceDecl (isDeclare : Bool)
  | interfaceBody
  | typeAlias (isDeclare : Bool)
  | enumDecl (isDeclare isConst : Bool)
  | enumMember
  | namespaceDecl (isDeclare isGlobal isNamespace : Bool)
  | moduleBlock
  | nestedNamespace
  /- markup -/
  | jsxElement
  | jsxFragment
  | jsxOpening (selfClosing : Bool)
  | jsxClosing
  | jsxText (raw : String)
  | jsxString (raw : String)
  | jsxContainer
  | jsxEmpty
  | jsxSpreadChild
  | jsxAttr
  | jsxMember
  | jsxNamespaced

/-- A node of the syntax tree. -/
inductive Ast where
  | node (shape : Shape) (span : Span) (parts : List Ast)

namespace Ast

def shape : Ast → Shape
  | node s _ _ => s

def span : Ast → Span
  | node _ s _ => s

def parts : Ast → List Ast
  | node _ _ ps => ps

@[match_pattern]
abbrev absent : Ast := node .absent ⟨0, 0⟩ []

instance : Inhabited Ast := ⟨absent⟩

def group (ts : List Ast) : Ast := node .group .none ts

def withParts : Ast → List Ast → Ast
  | node s sp _, ps => node s sp ps

/-- The same node over another stretch of source. -/
def withSpan : Ast → Span → Ast
  | node s _ ps, sp => node s sp ps

def isAbsent : Ast → Bool
  | node .absent _ _ => true
  | _ => false

def items : Ast → List Ast
  | node .group _ ps | node .statements _ ps => ps
  | _ => []

def name (n : String) (sp : Span := .none) : Ast := node (.ident n .unset false) sp []

/-- The `i`-th part, or a missing one. -/
def part (t : Ast) (i : Nat) : Ast := (t.parts[i]?).getD absent

def unparen : Ast → Ast
  | node .paren _ [t] => t
  | t => t

mutual

def height : Ast → Nat
  | node _ _ ps => heights ps + 1

def heights : List Ast → Nat
  | [] => 0
  | t :: ts => max t.height (heights ts)

end

end Ast

end Inlay.Syntax
