import Inlay.Engine.Object.Access

/-! # Promises

    A promise is settled at once or never: jobs that wait for a promise are put off until the
    script has ended, and then no longer run.  So a promise that depends on another object stays
    pending. -/

namespace Inlay.Engine

open Exec

namespace Promise

def new (proto : Ref := Intrinsic.promiseProto) : Exec Ref :=
  alloc { proto := some proto, kind := .promise .pending false }

def settle (p : Ref) (s : PromiseState) : Exec Unit := do
  match ← kind p with
  | .promise .pending _ => setKind p (.promise s true)
  | _ => return

def reject (p : Ref) (v : Value) : Exec Unit := settle p (.rejected v)

/-- Resolves a promise with a value; an object with a `then` method leaves it pending. -/
def resolve (p : Ref) (v : Value) : Exec Unit := do
  match v with
  | .obj r =>
      if r == p then
        reject p (.obj (← newError .type "cannot resolve promise to itself"))
      else
        try
          let f ← Object.get r (Key.text "then")
          if ← Object.isCallable f then
            match ← kind p with
            | .promise s _ => setKind p (.promise s true)
            | _ => pure ()
          else settle p (.fulfilled v)
        catch
          | .throw e => reject p e
          | a => throw a
  | v => settle p (.fulfilled v)

/-- A promise for a value: the value itself if it is one. -/
def ofValue (v : Value) : Exec Ref := do
  match v with
  | .obj r =>
      match ← kind r with
      | .promise _ _ =>
          match ← Object.get r (Key.text "constructor") with
          | .obj c => if c == Intrinsic.promiseCtor then return r
          | _ => pure ()
      | _ => pure ()
  | _ => pure ()
  let p ← new
  resolve p v
  return p

end Promise

end Inlay.Engine
