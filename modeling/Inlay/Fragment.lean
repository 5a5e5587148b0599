import Inlay.Fragment.Tag
import Inlay.Workbench

/-! # Fragments

    A fragment is the text between the quotes of an invocation.  It is compiled to a unit: script
    text that leaves its result in `module.exports`, with the printed definitions of its functions
    and classes. -/

namespace Inlay

open Syntax

/-- Script text to run, and the definitions its tags refer to. -/
structure ScriptUnit where
  file : String
  code : String
  sources : List String
  deriving DecidableEq

namespace Fragment

/-- Assigns to `module.exports`. -/
def assignExports (span : Span) (value : Ast) : Ast :=
  let target := Ast.node .member span
    [Ast.name "module" span, .node (.plainName "exports") span []]
  .node .exprStmt span [.node (.assign .set) span [target, value]]

/-- Turns an item of a module into a statement.  A default export becomes an assignment; nothing
    else is exported, and nothing is imported. -/
def lowerItem (file : String) (item : Ast) : Except Failure Ast :=
  match item.shape with
  | .exportDefaultExpr => .ok (assignExports item.span (item.part 0))
  | .exportDefaultDecl =>
      match (item.part 0).shape with
      | .interfaceDecl _ =>
          .error (.compile file "interface declarations are not supported in fragments" none)
      | _ => .ok (assignExports item.span (item.part 0))
  | .importDecl _ =>
      .error (.compile file "import declarations are not supported in fragments" none)
  | .exportDecl | .exportNamed _ | .exportAll _ | .importEquals .. | .exportAssign
  | .exportNamespace =>
      .error (.compile file
        "only `export default` is supported in fragments; assign `module.exports` instead" none)
  | _ => .ok item

/-- Turns items into statements, one each, up to the first that has no place in a fragment. -/
def lowerItems (file : String) : List Ast → Except Failure (List Ast)
  | [] => .ok []
  | item :: rest => do
      let s ← lowerItem file item
      return s :: (← lowerItems file rest)

def lower (file : String) : Ast → Except Failure Ast
  | .node (.moduleRoot shebang) span items => do
      return .node (.scriptRoot shebang) span (← lowerItems file items)
  | script => .ok script

/-- A fault in a fragment is a failure to compile it; the place inside the fragment goes into the
    text. -/
def asCompileFailure : Failure → Failure
  | .parse file message (some p) => .compile file s!"{message} (fragment {p.text})" none
  | .parse file message none => .compile file message none
  | other => other

def trimmedEnd (s : String) : String :=
  String.ofList ((s.toList.reverse.dropWhile Text.isBlankEdge).reverse)

def printAll : List Ast → Workbench → List String × Workbench
  | [], w => ([], w)
  | t :: ts, w =>
      let (text, w) := w.print t
      let (texts, w) := printAll ts w
      (trimmedEnd text :: texts, w)

def script (source file : String) : Except Failure Ast × Workbench :=
  match ({} : Workbench).readProgram file source .plain with
  | (.error f, w) => (.error (asCompileFailure f), w)
  | (.ok program, w) => (lower file program, w)

def compile (source file : String) : Except Failure ScriptUnit :=
  match script source file with
  | (.error f, _) => .error f
  | (.ok script, w) =>
      let (sources, w) := printAll (definitions script) w
      let (code, _) := w.print (tag script 0).1
      .ok { file, code, sources }

end Fragment

end Inlay
