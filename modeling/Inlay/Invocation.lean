import Inlay.Keyword
import Inlay.Workbench

/-! # Invocations

    A keyword invocation is a call or a tagged template whose callee or tag is a keyword that no
    declaration binds.  A module specifier is a string in the place of an import source or of the
    first argument of `require`; it counts when its text starts with an invocation. -/

namespace Inlay

open Syntax

/-- How a file is searched. -/
structure Setting where
  keywords : Keywords
  /-- The name under which fragments run. -/
  file : String
  expandSpecifiers : Bool

def anonymous : String := "anonymous.js"

def Setting.of (keywords : Keywords) (options : Options) (file : String) : Setting :=
  let name := options.fileName.getD file
  { keywords, file := if name.isEmpty then anonymous else name
    expandSpecifiers := options.expandSpecifiers }

inductive Form where
  | call | tag
  deriving DecidableEq

def Form.text : Form → String
  | call => "call"
  | tag => "tagged template"

/-- A keyword invocation and the fragment in it. -/
structure Invocation where
  form : Form
  keyword : String
  literal : String
  span : Span

/-- A specifier that starts with an invocation. -/
structure Specifier where
  text : String
  span : Span

/-! ## The text of an argument -/

def templateText (t : Ast) : String :=
  match t.shape with
  | .template (q :: _) => q
  | _ => ""

/-- The text of an argument that is a template or a string; other arguments have none. -/
def argumentText (arg : Ast) : String :=
  match arg.shape with
  | .template _ => templateText arg
  | .str value _ => value
  | _ => ""

/-! ## Matching -/

def unboundName? (t : Ast) : Option String :=
  match t.shape with
  | .ident n m _ => if m == .bound then none else some n
  | _ => none

namespace Setting

def keyword? (s : Setting) (t : Ast) : Option String :=
  (unboundName? t).filter s.keywords.contains

def invocation? (s : Setting) : Ast → Option Invocation
  | .node .call span (callee :: args :: _) => do
      let keyword ← s.keyword? callee
      let literal := ((args.items.head?).map argumentText).getD ""
      return { form := .call, keyword, literal, span }
  | .node .tagged span [tag, _, template] => do
      let keyword ← s.keyword? tag
      return { form := .tag, keyword, literal := templateText template, span }
  | _ => none

def specifier? (s : Setting) (t : Ast) : Option Specifier :=
  match t.shape with
  | .str value _ =>
      if s.expandSpecifiers && s.keywords.isInvoked value then
        some { text := value, span := t.span }
      else none
  | _ => none

/-- The specifier of a call of `require`. -/
def requireSpecifier? (s : Setting) : Ast → Option Specifier
  | .node .call _ (callee :: args :: _) =>
      if unboundName? callee == some "require" then args.items.head?.bind s.specifier? else none
  | _ => none

def importSpecifier? (s : Setting) : Ast → Option Specifier
  | .node (.importDecl _) _ (_ :: source :: _) => s.specifier? source
  | _ => none

end Setting

/-! ## Finding without expanding -/

/-- Something that a search finds. -/
inductive Found where
  | invocation (i : Invocation)
  | require (s : Specifier)
  | source (s : Specifier)

def Setting.foundAt (s : Setting) (t : Ast) : List Found :=
  ((s.invocation? t).map Found.invocation).toList
    ++ ((s.requireSpecifier? t).map Found.require).toList
    ++ ((s.importSpecifier? t).map Found.source).toList

mutual

/-- Everything a tree holds, parents before their parts. -/
def Setting.found (s : Setting) : Ast → List Found
  | .node shape span parts => s.foundAt (.node shape span parts) ++ s.foundAll parts

def Setting.foundAll (s : Setting) : List Ast → List Found
  | [] => []
  | t :: ts => s.found t ++ s.foundAll ts

end

end Inlay
