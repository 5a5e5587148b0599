import Inlay.Engine.Display
import Inlay.Engine.Run
import Inlay.Text.Trim

/-! # What is said of programs that stopped early

    A thrown error is described by its sort and its message; any other thrown value is displayed. -/

namespace Inlay.Engine

open Exec

/-! ## Errors -/

def ErrorSort.text : ErrorSort → String
  | error => "Error"
  | aggregate => "AggregateError"
  | eval => "EvalError"
  | range => "RangeError"
  | reference => "ReferenceError"
  | source => "SyntaxError"
  | type => "TypeError"
  | uri => "UriError"

namespace Describe

def member? (r : Ref) (name : String) : Exec (Option Value) := do
  if ← Object.has r (Key.text name) then return some (← Object.get r (Key.text name))
  return none

/-- The sort and message of an error whose members are as they should be. -/
def error? (r : Ref) (sort : ErrorSort) : Exec (Option String) := do
  let message ← match ← member? r "message" with
    | none => pure (some "")
    | some (.str s) => pure (if s.codePoints.all (!Units.isSurrogate ·) then some s.text else none)
    | some _ => pure none
  match message with
  | none => return none
  | some message =>
      let _ ← member? r "cause"
      if sort == .aggregate then
        match ← Object.get r (Key.text "errors") with
        | .obj e =>
            match ← kind e with
            | .array _ _ _ => pure ()
            | _ => return none
        | _ => return none
      match ← member? r "constructor" with
      | some c => if !(← Object.isConstructor c) then return none
      | none => return none
      let trimmed := Text.trimmed message
      return some (if trimmed.isEmpty then sort.text else sort.text ++ ": " ++ trimmed)

def thrown (v : Value) : Exec String := do
  let native ← match v with
    | .obj r => do
        match ← kind r with
        | .error sort =>
            tryCatch (error? r sort) fun a =>
              match a with
              | .throw _ => return none
              | a => throw a
        | _ => pure none
    | _ => pure none
  match native with
  | some s => return s
  | none => Display.ofValue v

end Describe

/-- What is said of a program that stopped early. -/
def Abrupt.describe (a : Abrupt) (m : Machine) : String × Machine :=
  match a with
  | .halt s => (s, m)
  | .throw v =>
      match Run.outside (Describe.thrown v) m with
      | (.ok s, m) => (s, m)
      | (.error (.halt s), m) => (s, m)
      | (.error (.throw _), m) => ("", m)

end Inlay.Engine
