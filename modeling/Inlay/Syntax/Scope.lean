import Inlay.Syntax.Ast

/-! # Scopes

    Marks every name as bound or free.  Names declared with `var` and functions belong to the
    enclosing function, other declarations to the enclosing block; both count in the whole of their
    scope, also in front of the declaration.  A function in a block of sloppy code also counts
    outside the block.  Enumerations and namespaces, which only typed text has, count like classes;
    names of types are no names of values and count nowhere.

    A name that already has a mark keeps it, and a declaration that already has one declares nothing
    again: only what is new in the tree is analysed. -/

namespace Inlay.Syntax

namespace Scope

/-! ## Declared names -/

mutual

/-- The names a pattern binds; with `fresh`, only those without a mark. -/
def patternNames (fresh : Bool) : Ast → List String
  | .node shape _ parts =>
      match shape with
      | .ident n m _ => if fresh && m != .unset then [] else [n]
      | .arrayPat _ | .objectPat _ | .group | .rest => namesOfAll fresh parts
      | .keyValuePat | .param | .paramProp _ => namesOfLast fresh parts
      | .assignPropPat | .assignPat | .declarator _ => namesOfFirst fresh parts
      | _ => []

def namesOfAll (fresh : Bool) : List Ast → List String
  | [] => []
  | t :: ts => patternNames fresh t ++ namesOfAll fresh ts

def namesOfLast (fresh : Bool) : List Ast → List String
  | [] => []
  | [t] => patternNames fresh t
  | _ :: ts => namesOfLast fresh ts

def namesOfFirst (fresh : Bool) : List Ast → List String
  | [] => []
  | t :: _ => patternNames fresh t

end

def freshName : Ast → List String
  | .node (.ident n .unset _) _ _ => [n]
  | _ => []

/-- How a statement is reached while names are collected for a scope. -/
structure Reach where
  strict : Bool
  /-- Whether a block lies between the scope and the statement. -/
  inBlock : Bool := false
  /-- Parameters of the handlers around the statement. -/
  caught : List String := []

mutual

/-- The names that a statement declares in the scope it belongs to. -/
def hoisted (r : Reach) : Ast → List String
  | .node shape _ parts =>
      match shape with
      | .varDecl kind _ => if r.inBlock && kind != .var then [] else namesOfAll true parts
      | .usingDecl _ => if r.inBlock then [] else namesOfAll true parts
      | .fnDecl _ =>
          let names := (parts.take 1).flatMap freshName
          if r.inBlock then names.filter (fun n => !r.strict && !r.caught.contains n) else names
      | .classDecl _ | .enumDecl _ _ | .namespaceDecl _ false _ =>
          if r.inBlock then [] else (parts.take 1).flatMap freshName
      | .exportDefaultDecl =>
          match parts with
          | [.node .fnExpr _ (id :: _)] | [.node .classExpr _ (id :: _)] => freshName id
          | _ => []
      | .importNamed _ | .importDefault | .importStar => (parts.take 1).flatMap freshName
      | .block | .switchStmt | .forStmt | .forInStmt | .forOfStmt _ =>
          hoistedAll { r with inBlock := true } parts
      | .catchClause =>
          hoistedAll { r with caught := namesOfAll false (parts.take 1) ++ r.caught } parts
      | .exportDecl | .importDecl _ | .group | .statements | .switchCase | .ifStmt | .labeled
      | .whileStmt | .doWhile | .withStmt | .tryStmt => hoistedAll r parts
      | _ => []

/-- The names that statements declare in the scope they belong to. -/
def hoistedAll (r : Reach) : List Ast → List String
  | [] => []
  | t :: ts => hoisted r t ++ hoistedAll r ts

end

/-! ## Marking -/

/-- The scopes around a place, the innermost first, and what kind of code it is. -/
structure Frame where
  scopes : List (List String) := [[]]
  strict : Bool := false
  isModule : Bool := false

/-- Steps that mark names and declare names in the innermost scope. -/
abbrev R := StateM Frame

/-- Whether names in a pattern are declared or referred to. -/
inductive Use where
  | declares | refers
  deriving DecidableEq

namespace R

def declare (names : List String) : R Unit :=
  modify fun f => match f.scopes with
    | s :: rest => { f with scopes := (names ++ s) :: rest }
    | [] => { f with scopes := [names] }

def inScope {α : Type} (step : R α) : R α := do
  modify fun f => { f with scopes := [] :: f.scopes }
  let a ← step
  modify fun f => { f with scopes := f.scopes.drop 1 }
  return a

/-- Names of the global object that no declaration of a script can take over. -/
def isFixed (name : String) : Bool := name == "undefined" || name == "NaN" || name == "Infinity"

def isBound (f : Frame) (name : String) : Bool :=
  let inner := f.scopes.dropLast
  inner.any (·.contains name)
    || (f.scopes.getLast?.any (·.contains name) && (f.isModule || !isFixed name))

def nameNode (use : Use) (t : Ast) : R Ast := do
  match t with
  | .node (.ident n .unset o) sp ps =>
      match use with
      | .declares =>
          declare [n]
          return .node (.ident n .bound o) sp ps
      | .refers =>
          return .node (.ident n (if isBound (← get) n then .bound else .free) o) sp ps
  | t => return t

/-- Whether a list of statements starts by asking for strict code. -/
def isStrictBody (stmts : List Ast) : Bool :=
  match stmts with
  | .node .exprStmt _ [.node (.str v _) _ _] :: _ => v == "use strict"
  | _ => false

/-- Statements in the current scope: first all that they declare, then one by one. -/
def statements (again : Use → Ast → R Ast) (stmts : List Ast) : R (List Ast) := do
  declare (hoistedAll { strict := (← get).strict } stmts)
  stmts.mapM (again .refers)

def bodyOf (again : Use → Ast → R Ast) (body : Ast) : R Ast := do
  match body with
  | .node .block sp stmts =>
      let outer := (← get).strict
      modify fun f => { f with strict := f.strict || isStrictBody stmts }
      let stmts ← statements again stmts
      modify fun f => { f with strict := outer }
      return .node .block sp stmts
  | t => again .refers t

def declareParams (params : List Ast) : R Unit :=
  declare ((params.filter (!isRest ·)).flatMap (patternNames false))
where
  isRest : Ast → Bool
    | .node .rest _ _ => true
    | .node .param _ [_, .node .rest _ _] => true
    | .node (.paramProp _) _ _ => true
    | _ => false

def paramGroup (again : Use → Ast → R Ast) (params : Ast) : R Ast := do
  declareParams params.items
  return params.withParts (← params.parts.mapM (again .declares))

def node (again : Use → Ast → R Ast) (use : Use) (t : Ast) : R Ast := do
  let refer : Ast → R Ast := again .refers
  match t with
  | .node (.ident n m o) sp ps => nameNode use (.node (.ident n m o) sp (← ps.mapM refer))
  /- patterns -/
  | .node (.arrayPat o) sp [elems, ty] =>
      return .node (.arrayPat o) sp [← again use elems, ← refer ty]
  | .node (.objectPat o) sp [props, ty] =>
      return .node (.objectPat o) sp [← again use props, ← refer ty]
  | .node .group sp ps => return .node .group sp (← ps.mapM (again use))
  | .node .keyValuePat sp [key, value] =>
      return .node .keyValuePat sp [← refer key, ← again use value]
  | .node .assignPropPat sp [name, value] =>
      return .node .assignPropPat sp [← again use name, ← refer value]
  | .node .assignPat sp [left, right] =>
      return .node .assignPat sp [← again use left, ← refer right]
  | .node .rest sp [arg, ty] => return .node .rest sp [← again use arg, ← refer ty]
  | .node .param sp [ds, pat] => return .node .param sp [← refer ds, ← again .declares pat]
  | .node (.paramProp m) sp [ds, pat] =>
      return .node (.paramProp m) sp [← refer ds, ← again .declares pat]
  | .node (.declarator d) sp [name, value] =>
      return .node (.declarator d) sp [← again .declares name, ← refer value]
  /- functions -/
  | .node (.function a g) sp [params, ds, body, tps, ret] =>
      inScope do
        let ds ← refer ds
        let params ← paramGroup again params
        let tps ← refer tps
        let ret ← refer ret
        return .node (.function a g) sp [params, ds, ← bodyOf again body, tps, ret]
  | .node (.arrow a b) sp [params, body, tps, ret] =>
      inScope do
        let params ← paramGroup again params
        let tps ← refer tps
        let ret ← refer ret
        return .node (.arrow a b) sp [params, ← bodyOf again body, tps, ret]
  | .node (.fnDecl d) sp [name, fn] =>
      let name := match name with
        | .node (.ident n .unset o) sp ps => Ast.node (.ident n .bound o) sp ps
        | t => t
      return .node (.fnDecl d) sp [name, ← refer fn]
  | .node .fnExpr sp [name, fn] =>
      inScope do return .node .fnExpr sp [← again .declares name, ← refer fn]
  | .node .setter sp [key, param, body] =>
      let key ← refer key
      inScope do
        let param ← again .declares param
        return .node .setter sp [key, param, ← bodyOf again body]
  | .node (.ctor m) sp [key, params, body] =>
      inScope do
        let params ← paramGroup again params
        return .node (.ctor m) sp [key, params, ← bodyOf again body]
  /- classes -/
  | .node (.classDecl d) sp [name, body] =>
      let name ← again .declares name
      inScope do return .node (.classDecl d) sp [name, ← refer body]
  | .node .classExpr sp [name, body] =>
      inScope do return .node .classExpr sp [← again .declares name, ← refer body]
  /- statements -/
  | .node .block sp stmts => inScope do return .node .block sp (← statements again stmts)
  | .node .moduleBlock sp stmts =>
      inScope do return .node .moduleBlock sp (← statements again stmts)
  | .node .statements sp stmts => return .node .statements sp (← statements again stmts)
  | .node .catchClause sp [param, body] =>
      inScope do
        let param ← again .declares param
        return .node .catchClause sp [param, ← bodyOf again body]
  | .node .switchStmt sp [disc, cases] =>
      let disc ← refer disc
      inScope do return .node .switchStmt sp [disc, ← refer cases]
  | .node (.enumDecl d c) sp [id, members] =>
      let id ← again .declares id
      inScope do
        declare (members.items.flatMap fun m => patternNames false (m.part 0))
        return .node (.enumDecl d c) sp [id, ← refer members]
  | .node (.namespaceDecl d g k) sp [id, body] =>
      let id ← again .declares id
      return .node (.namespaceDecl d g k) sp [id, ← refer body]
  | .node (.importEquals e k) sp [id, ref] =>
      return .node (.importEquals e k) sp [← again .declares id, ← refer ref]
  | .node .exportDefaultDecl sp [.node .fnExpr sp' [name, fn]] =>
      let name ← again .declares name
      return .node .exportDefaultDecl sp [.node .fnExpr sp' [name, ← refer fn]]
  | .node .exportDefaultDecl sp [.node .classExpr sp' [name, body]] =>
      let name ← again .declares name
      return .node .exportDefaultDecl sp [.node .classExpr sp' [name, ← refer body]]
  | .node shape sp ps =>
      match shape with
      | .importNamed _ | .importDefault | .importStar =>
          return .node shape sp (← ps.mapM (again .declares))
      | .forStmt | .forInStmt | .forOfStmt _ =>
          inScope do return .node shape sp (← ps.mapM refer)
      | .scriptRoot _ =>
          modify fun f => { f with strict := f.strict || isStrictBody ps }
          return .node shape sp (← statements again ps)
      | .moduleRoot _ =>
          modify fun f => { f with strict := true, isModule := true }
          return .node shape sp (← statements again ps)
      | _ => return .node shape sp (← ps.mapM refer)

end R

/-- Marks the names in a tree that is at most `fuel` nodes deep. -/
def resolveWith : Nat → Use → Ast → R Ast
  | 0, _, t => return t
  | fuel + 1, use, t => R.node (resolveWith fuel) use t

end Scope

/-- Marks every name of a program that has no mark yet. -/
def Ast.resolve (t : Ast) : Ast := ((Scope.resolveWith t.height .refers t).run {}).1

end Inlay.Syntax
