import Inlay.Fragment
import Inlay.Invocation
import Inlay.Outcome
import Inlay.Syntax.Scope

/-! # Expansion

    Replaces the invocations of a file by what their fragments export.  The file is gone through
    once, parents before their parts; what takes the place of an invocation is not gone through
    again.  At the first failure everything stays as it is from there on.

    An evaluator runs units.  It may keep a state of its own, so every run is told apart. -/

namespace Inlay

open Syntax

/-- Something that runs units. -/
structure Evaluator (σ : Type) where
  run : ScriptUnit → σ → Except Failure Outcome × σ

/-- Compiles a fragment and runs it; an empty fragment exports nothing and is not run. -/
def Evaluator.evaluate {σ : Type} (box : Evaluator σ) (literal file : String) (s : σ) :
    Except Failure Outcome × σ :=
  if literal.isEmpty then (.ok .absent, s)
  else match Fragment.compile literal file with
    | .error f => (.error f, s)
    | .ok unit => box.run unit s

/-- How far an expansion got. -/
structure Progress (σ : Type) where
  bench : Workbench
  box : σ
  expanded : Nat := 0
  failure : Option Failure := none

abbrev Expand (σ : Type) := StateM (Progress σ)

namespace Expansion

variable {σ : Type}

def describe : Ast → String
  | .node shape _ parts =>
      match shape, parts with
      | .num _, _ => "a number"
      | .bool _, _ => "a boolean"
      | .null, _ => "null"
      | .bigint _, _ | .regex .., _ | .str .., _ => "a literal"
      | .ident n _ _, _ => if n == "undefined" then "undefined" else "an identifier"
      | .object, _ => "an object"
      | .array, _ => "an array"
      | .fnExpr, _ | .arrow .., _ => "a function"
      | .paren, [e] => describe e
      | _, _ => "an expression"

/-- Puts a new source into an import declaration; it has to be a string. -/
def replaceSource (decl replacement : Ast) (file : String) (place : Option Place) :
    Except Failure Ast :=
  match replacement, decl with
  | .node (.str value raw) _ _, .node shape span (specifiers :: source :: rest) =>
      .ok (.node shape span (specifiers :: .node (.str value raw) source.span [] :: rest))
  | other, _ => .error (.specifier file (describe other) place)

def fail (f : Failure) : Expand σ Unit :=
  modify fun p => { p with failure := p.failure.or (some f) }

def expand (box : Evaluator σ) (s : Setting) (i : Invocation) : Expand σ (Except Failure Ast) :=
  fun p =>
    let place := p.bench.place i.span
    match box.evaluate i.literal s.file p.box with
    | (.error f, b) => (.error (f.at? place), { p with box := b })
    | (.ok outcome, b) =>
        match outcome.toExpr i.span s.file p.bench with
        | (.error f, w) => (.error (f.at? place), { p with box := b, bench := w })
        | (.ok e, w) => (.ok e, { p with box := b, bench := w, expanded := p.expanded + 1 })

/-- The expression for a specifier: its text is read and gone through by `visit`. -/
def expandSpecifier (visit : Ast → Expand σ Ast) (s : Setting) (spec : Specifier) :
    Expand σ (Except Failure Ast) :=
  fun p =>
    let place := p.bench.place spec.span
    match p.bench.readExpr s.file spec.text with
    | (.error f, w) => (.error (f.at? place), { p with bench := w })
    | (.ok e, w) =>
        let (e, p) := visit e { p with bench := w }
        match p.failure with
        | some f => (.error (f.at? place), { p with failure := none })
        | none => (.ok e, p)

section Visit

variable (box : Evaluator σ) (s : Setting) (inner : Ast → Expand σ Ast)

mutual

/-- Goes through a tree; texts of specifiers are gone through by `inner`. -/
def visit : Ast → Expand σ Ast
  | .node shape span parts => do
      let t := Ast.node shape span parts
      if (← get).failure.isSome then return t
      match s.invocation? t with
      | some i =>
          match ← expand box s i with
          | .ok e => return e
          | .error f => fail f; return t
      | none =>
          match s.requireSpecifier? t, s.importSpecifier? t with
          | some spec, _ =>
              match ← expandSpecifier inner s spec with
              | .error f => fail f; return t
              | .ok e => return .node shape span (← visitCall e parts)
          | none, some spec =>
              let place := (← get).bench.place spec.span
              match (← expandSpecifier inner s spec).bind
                  (replaceSource t · s.file place) with
              | .ok t => return t
              | .error f => fail f; return t
          | none, none => return .node shape span (← visitAll parts)

/-- Goes through trees one after the other. -/
def visitAll : List Ast → Expand σ (List Ast)
  | [] => return []
  | t :: ts => do
      let t ← visit t
      return t :: (← visitAll ts)

/-- Goes through the parts of a call whose first argument has been replaced by `e`: the callee, then
    the other arguments. -/
def visitCall (e : Ast) : List Ast → Expand σ (List Ast)
  | callee :: args :: rest => do
      let callee ← visit callee
      return callee :: (← visitArgs e args) :: rest
  | parts => return parts

/-- Goes through arguments of which the first has been replaced. -/
def visitArgs (e : Ast) : Ast → Expand σ Ast
  | .node shape span (_ :: args) => do return .node shape span (e :: (← visitAll args))
  | t => return t

end

end Visit

/-- Goes through a tree in which specifiers nest at most `depth` deep. -/
def visitWithin (box : Evaluator σ) (s : Setting) : Nat → Ast → Expand σ Ast
  | 0, t => return t
  | depth + 1, t => visit box s (visitWithin box s depth) t

mutual

def longest : Ast → Nat
  | .node shape _ parts =>
      match shape with
      | .str value _ => max value.length (longestOf parts)
      | _ => longestOf parts

def longestOf : List Ast → Nat
  | [] => 0
  | t :: ts => max (longest t) (longestOf ts)

end

def run (box : Evaluator σ) (s : Setting) (t : Ast) : Expand σ Ast :=
  visitWithin box s (longest t + 2) t

end Expansion

/-! ## Files -/

/-- The configured pass. -/
structure Pass where
  keywords : Keywords
  options : Options

namespace Pass

variable {σ : Type}

def of (options : Options) : Except Failure Pass := do
  return { keywords := ← Keywords.ofNames options.value.names, options }

def setting (p : Pass) (file : String) : Setting := .of p.keywords p.options file

def program (p : Pass) (box : Evaluator σ) (file : String) (t : Ast) (bench : Workbench) (b : σ) :
    Ast × Progress σ :=
  (Expansion.run box (p.setting file) t.resolve).run { bench, box := b }

def source (p : Pass) (box : Evaluator σ) (text file : String) (b : σ) :
    Except Failure String × σ :=
  match ({} : Workbench).readProgram file text (.ofFileName file) with
  | (.error f, _) => (.error f, b)
  | (.ok t, bench) =>
      let (t, r) := p.program box file t bench b
      match r.failure with
      | some f => (.error f, r.box)
      | none => (.ok (r.bench.print t).1, r.box)

end Pass

end Inlay
