import Inlay.Syntax.Ast

/-! # Tagging definitions

    Every function, arrow and class expression of a script, and every function and class declared
    directly in a list of statements, gets a number.  The tagged script calls the tagging function
    on each of them with its number: an expression is wrapped in the call, a declared function is
    tagged at the head of its list (behind the directives, since it exists from the start), and a
    declared class right behind its declaration.

    Numbers follow the traversal; the declarations of a list come before everything inside the
    list.  `definitions` lists the untagged definitions by number. -/

namespace Inlay.Fragment

open Syntax

/-- The name under which a running fragment finds the tagging function. -/
def tagName : String := "__precall_source"

/-- Expressions that make a function or a class. -/
def isDefinition : Shape → Bool
  | .fnExpr | .arrow .. | .classExpr => true
  | _ => false

def holdsStatements : Shape → Bool
  | .scriptRoot _ | .block | .statements => true
  | _ => false

/-- Statements that declare a function or a class. -/
def isDeclaration (t : Ast) : Bool :=
  match t.shape with
  | .fnDecl _ | .classDecl _ => true
  | _ => false

/-- Statements that are nothing but a string. -/
def isDirective : Ast → Bool
  | .node .exprStmt _ [.node (.str ..) _ []] => true
  | _ => false

def tagCall (definition : Ast) (id : Nat) : Ast :=
  .node .call .none
    [Ast.name tagName, .group [definition, .node (.num (toString id)) .none []], .absent]

/-- An identifier on its own; nothing else is a name. -/
def bareName : Ast → Ast
  | .node (.ident name mark isOptional) span _ => .node (.ident name mark isOptional) span []
  | _ => .absent

def declaredName (t : Ast) : Ast := bareName (t.part 0)

def tagStmt (name : Ast) (id : Nat) : Ast := .node .exprStmt .none [tagCall name id]

/-- Numbers the declarations of a list from `id` on: the tags that go to the head of the list, and
    the list with the tags of classes put in. -/
def tagDeclarations : List Ast → Nat → List Ast × List Ast
  | [], _ => ([], [])
  | s :: rest, id =>
      match s.shape with
      | .fnDecl _ =>
          let (head, body) := tagDeclarations rest (id + 1)
          (tagStmt (declaredName s) id :: head, s :: body)
      | .classDecl _ =>
          let (head, body) := tagDeclarations rest (id + 1)
          (head, s :: tagStmt (declaredName s) id :: body)
      | _ =>
          let (head, body) := tagDeclarations rest id
          (head, s :: body)

/-- A list of statements with its declarations tagged from `id` on. -/
def tagList (stmts : List Ast) (id : Nat) : List Ast :=
  let (head, body) := tagDeclarations stmts id
  body.takeWhile isDirective ++ head ++ body.dropWhile isDirective

mutual

/-- Tags the definitions in a tree, counting from `id`; also gives the next free number. -/
def tag : Ast → Nat → Ast × Nat
  | .node shape span parts, id =>
      if isDefinition shape then
        let (parts, next) := tagAll parts (id + 1)
        (tagCall (.node shape span parts) id, next)
      else if holdsStatements shape then
        let (parts, next) := tagAll parts (id + (parts.filter isDeclaration).length)
        (.node shape span (tagList parts id), next)
      else
        let (parts, next) := tagAll parts id
        (.node shape span parts, next)

def tagAll : List Ast → Nat → List Ast × Nat
  | [], id => ([], id)
  | t :: ts, id =>
      let (t, next) := tag t id
      let (ts, next) := tagAll ts next
      (t :: ts, next)

end

mutual

/-- The definitions of a tree, in the order of their numbers. -/
def definitions : Ast → List Ast
  | .node shape span parts =>
      if isDefinition shape then .node shape span parts :: definitionsAll parts
      else if holdsStatements shape then parts.filter isDeclaration ++ definitionsAll parts
      else definitionsAll parts

/-- The definitions of several trees, one tree after the other. -/
def definitionsAll : List Ast → List Ast
  | [] => []
  | t :: ts => definitions t ++ definitionsAll ts

end

end Inlay.Fragment
