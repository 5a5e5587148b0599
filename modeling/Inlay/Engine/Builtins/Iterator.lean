import Inlay.Engine.Builtins.Basic

/-! # Iterators and generators -/

namespace Inlay.Engine

open Exec

namespace Builtins.Iterators

/-- The object of a method, and what it is; nothing of interest if it is none. -/
def iterThis (c : Call) : Exec (Ref × Kind) := do
  match c.this with
  | .obj r => return (r, ← kind r)
  | _ => return (0, .ordinary)

def done : Exec Value := iterResult .undefined true

def arrayNext (c : Call) : Exec Value := do
  match ← iterThis c with
  | (r, .arrayIter target i sort) =>
      match target with
      | none => done
      | some t =>
          let n ← match ← kind t with
            | .typed _ _ _ _ => Object.elementCount t
            | _ => lengthOf t
          if i ≥ n then
            setKind r (.arrayIter none i sort)
            done
          else
            setKind r (.arrayIter target (i + 1) sort)
            match sort with
            | .keys => iterResult (.nat i) false
            | .values => iterResult (← Object.get t (.index i)) false
            | .entries =>
                iterResult (← arrayOf #[.nat i, ← Object.get t (.index i)]) false
  | _ => typeError "`this` is not an ArrayIterator"

/-- The next entry from a place on that has not been removed. -/
def nextEntry {α : Type} (es : Array (Option α)) : Nat → Nat → Option (Nat × α)
  | 0, _ => none
  | n + 1, i =>
      match es[i]? with
      | none => none
      | some none => nextEntry es n (i + 1)
      | some (some e) => some (i, e)

def mapNext (c : Call) : Exec Value := do
  match ← iterThis c with
  | (r, .mapIter (some t) i sort) =>
      match ← kind t with
      | .map es =>
          match nextEntry es (es.size + 1) i with
          | some (j, k, v) =>
              setKind r (.mapIter (some t) (j + 1) sort)
              match sort with
              | .keys => iterResult k false
              | .values => iterResult v false
              | .entries => iterResult (← arrayOf #[k, v]) false
          | none =>
              setKind r (.mapIter none i sort)
              done
      | _ => done
  | (_, .mapIter none _ _) => done
  | _ => typeError "`this` is not a MapIterator"

def setNext (c : Call) : Exec Value := do
  match ← iterThis c with
  | (r, .setIter (some t) i sort) =>
      match ← kind t with
      | .set es =>
          match nextEntry es (es.size + 1) i with
          | some (j, v) =>
              setKind r (.setIter (some t) (j + 1) sort)
              match sort with
              | .entries => iterResult (← arrayOf #[v, v]) false
              | _ => iterResult v false
          | none =>
              setKind r (.setIter none i sort)
              done
      | _ => done
  | (_, .setIter none _ _) => done
  | _ => typeError "`this` is not an SetIterator"

def stringNext (c : Call) : Exec Value := do
  match ← iterThis c with
  | (r, .stringIter s i) =>
      match (s.extract i (i + 2)).codePoints with
      | [] => done
      | n :: _ =>
          let u := Units.ofCodePoint n
          setKind r (.stringIter s (i + u.size))
          iterResult (.str u) false
  | _ => typeError "`this` is not an ArrayIterator"

/-! ## Generators -/

def generatorThis (c : Call) : Exec (Ref × GeneratorState) := do
  match c.this with
  | .obj r =>
      match ← kind r with
      | .generator s => return (r, s)
      | _ => typeError "generator resumed on non generator object"
  | _ => typeError "Generator method called on non generator"

def resume (c : Call) (how : Completion) : Exec Value := do
  let (g, s) ← generatorThis c
  let enter (f : Frame) (how : Completion) : Exec Value := do
    setKind g (.generator .running)
    let (isDone, v) ← (← read).resume f how
    iterResult v isDone
  match s, how with
  | .running, _ => typeError "Generator should not be executing"
  | .finished, .thrown v => raise v
  | .finished, .returned v => iterResult v true
  | .finished, _ => done
  | .start _, .thrown v =>
      setKind g (.generator .finished)
      raise v
  | .start _, .returned v =>
      setKind g (.generator .finished)
      iterResult v true
  | .start f, _ => enter f (.broken none)
  | .suspended f, how => enter f how

/-- Enters an async generator; the answer is a promise. -/
def resumeAsync (c : Call) (how : Completion) : Exec Value := do
  let p ← Promise.new
  match c.this with
  | .obj g =>
      match ← kind g with
      | .asyncGenerator (.start f) =>
          match how with
          | .normal _ =>
              setKind g (.asyncGenerator .running)
              try
                let (isDone, v) ← (← read).resume f (.broken none)
                if isDone then Promise.resolve p (← iterResult v true)
              catch
                | .throw e => Promise.reject p e
                | a => throw a
          | .thrown v =>
              setKind g (.asyncGenerator .finished)
              Promise.reject p v
          | _ => setKind g (.asyncGenerator .finished)
      | .asyncGenerator .finished =>
          match how with
          | .normal _ => Promise.resolve p (← done)
          | .thrown v => Promise.reject p v
          | _ => pure ()
      | .asyncGenerator _ => pure ()
      | _ => Promise.reject p (.obj (← newError .type "generator object must be an AsyncGenerator"))
  | _ => Promise.reject p (.obj (← newError .type "generator object must be an AsyncGenerator"))
  return .obj p

def run (f : IteratorFn) (c : Call) : Exec Value :=
  match f with
  | .self => return c.this
  | .arrayNext => arrayNext c
  | .mapNext => mapNext c
  | .setNext => setNext c
  | .stringNext => stringNext c
  | .generatorNext => resume c (.normal (c.arg 0))
  | .generatorReturn => resume c (.returned (c.arg 0))
  | .generatorThrow => resume c (.thrown (c.arg 0))
  | .asyncNext => resumeAsync c (.normal (c.arg 0))
  | .asyncReturn => resumeAsync c (.returned (c.arg 0))
  | .asyncThrow => resumeAsync c (.thrown (c.arg 0))

end Builtins.Iterators

end Inlay.Engine
