import Inlay.Json.Reader
import Inlay.Workbench

/-! # Outcomes

    What a fragment left behind, and the expression that stands for it. -/

namespace Inlay

open Syntax

/-- What a run of a fragment exported. -/
inductive Outcome where
  /-- Nothing, or `undefined`. -/
  | absent
  /-- A function or a class, by its definition. -/
  | callable (source : String)
  /-- Anything that JSON can say, as JSON text. -/
  | structural (json : String)
  deriving DecidableEq

namespace Outcome

def ofJson (text : String) : Except Json.Fault Outcome := do
  Json.check text
  let cut (cs : List Char) : List Char := cs.dropWhile Json.Reader.isBlank
  return .structural (String.ofList (cut (cut text.toList).reverse).reverse)

def undefined (span : Span) : Ast := Ast.name "undefined" span

/-- The expression that takes the place of an invocation at `span`. -/
def toExpr (outcome : Outcome) (span : Span) (file : String) (w : Workbench) :
    Except Failure Ast × Workbench :=
  match outcome with
  | .absent => (.ok (undefined span), w)
  | .callable source =>
      match w.readExpr file source with
      | (.ok e, w) => (.ok (.node .paren span [e]), w)
      | (.error f, w) =>
          (.error (.serialization file "function" s!"source is not re-parsable: {f.message}" none),
            w)
  | .structural json =>
      match w.readExpr file json with
      | (.ok e, w) => (.ok e, w)
      | (.error f, w) =>
          (.error
            (.serialization file "value" s!"JSON text is not an expression: {f.message}" none), w)

end Outcome

end Inlay
