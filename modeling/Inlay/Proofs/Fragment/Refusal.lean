import Inlay.Proofs.Engine.FunctionText
import Inlay.Proofs.Fragment.Record
import Inlay.Proofs.Reading.NativeText

/-! # Functions without a definition

    A function that no definition of the fragment made carries no number.  What stands for it then
    is what it says of itself, and an expansion that gets the text of a built-in function is
    refused.

    Both steps are lookups that the fragment has a say in: the number may be found on a prototype,
    and the text is made by whatever `toString` is found.

    * `exportValue_native`: without a number on the way, the built-in `toString` decides;
    * `expand_refuses_native`: the expansion of such an export ends in a failure;
    * `overridden_text_spliced`: another `toString` has its text spliced. -/

namespace Inlay

open Engine Engine.Exec Syntax

namespace ModuleRecord

variable {r : ModuleRecord} {f : Ref} {name : Units}

theorem run_of_settles {α : Type} {p : Exec α} {a : α} (h : Settles p r.machine a)
    (failed : String → Failure) : r.run p failed = (.ok a, r) := by
  rw [run, h.outside]

/-- Neither the function nor a prototype of it carries a number. -/
def Untagged (r : ModuleRecord) (f : Ref) : Prop :=
  r.machine.member? f (.sym r.tagKey) = some .undefined

theorem settles_definition (hf : (r.machine.heap[f]!).isCallable) (htag : r.Untagged f)
    (h : SpeaksNatively r.machine f name) :
    Settles (r.definition f) r.machine (nativeText name).text := by
  have hsource : Looks (r.taggedSource? f) r.machine none := (Looks.member htag).bind (Looks.pure _)
  exact hsource.settles.bind ((settles_toText hf h).bind (Looks.pure _).settles)

/-- What stands for a function without a number, as long as its `toString` is the built-in one. -/
theorem exportValue_native (hf : Exports r.machine r.module f) (htag : r.Untagged f)
    (h : SpeaksNatively r.machine f name) :
    r.exportValue = (.ok (.callable (nativeText name).text), r) :=
  exportValue_of_definition hf (run_of_settles (settles_definition hf.isCallable htag h))

end ModuleRecord

/-- The text of a built-in function makes no expression. -/
theorem Outcome.toExpr_native {name : Units} (hname : NativeName name.text.toList) (span : Span)
    (file : String) (w : Workbench) :
    ∃ message w', (callable (nativeText name).text).toExpr span file w =
      (.error (.serialization file "function" message none), w') := by
  obtain ⟨message, w', hread⟩ := Workbench.readExpr_native hname w file
  rw [String.ofList_toList, ← text_nativeText] at hread
  unfold toExpr
  dsimp only
  rw [hread]
  exact ⟨_, w', rfl⟩

namespace Expansion

/-- An invocation whose fragment left a function without a definition is refused.  Whatever the
    fragment did in the record that the evaluator answers for: if its module exports a function, if
    no number is found on the function or on its prototypes, and if turning it into text comes to
    the built-in `toString` and finds a name as functions have them, then the expansion fails to
    represent a function, at the place of the invocation, and splices nothing. -/
theorem expand_refuses_native {σ : Type} {box : Evaluator σ} {s : Setting} {i : Invocation}
    {p : Progress σ} {r : ModuleRecord} {f : Ref} {name : Units} {b : σ}
    (hbox : box.evaluate i.literal s.file p.box = (r.exportValue.1, b))
    (hf : ModuleRecord.Exports r.machine r.module f) (htag : r.Untagged f)
    (hspeaks : SpeaksNatively r.machine f name) (hname : NativeName name.text.toList) :
    ∃ message w, expand box s i p =
      (.error (.serialization s.file "function" message (p.bench.place i.span)),
        { p with box := b, bench := w }) := by
  obtain ⟨message, w, hexpr⟩ := Outcome.toExpr_native hname i.span s.file p.bench
  rw [ModuleRecord.exportValue_native hf htag hspeaks] at hbox
  refine ⟨message, w, ?_⟩
  unfold expand
  dsimp only
  rw [hbox]
  dsimp only
  rw [hexpr]
  rfl

/-- A module, and of the functions that a script finds `Math.max`, the `toString` and the `bind` of
    all functions, and the `toString` of strings. -/
def functionMachine : Machine where
  heap := #[
    { proto := none },
    { proto := some 2, kind := .native (.math .max) false []
      props := #[(Key.text "name", .readOnly (.text "max"))] },
    { proto := none, props := #[(Key.text "toString", .hidden (.obj 3))] },
    { proto := none, kind := .native (.function .toText) false [] },
    { proto := none, kind := .native (.function .bind) false [] },
    { proto := none, kind := .native (.string .toText) false [] }]
  scopes := #[{ parent := none, sort := .global }]
  symbols := #[none]

/-- A record in whose machine a program has run; what it gives is exported. -/
def exportingNative (p : Exec Value) : ModuleRecord where
  file := "a.js"
  machine := (Run.outside (do Object.set 0 (Key.text "exports") (← p)) functionMachine).2
  module := 0
  tagKey := 0
  tag := .undefined
  sources := []

/-- Calls `bind` on a function. -/
def callBind (f : Ref) (args : Array Value) : Exec Value := Object.call (.obj 4) (.obj f) args

def answering (r : ModuleRecord) : Evaluator Unit := ⟨fun _ b => (r.exportValue.1, b)⟩

/-- A bound function, with the name that it is given. -/
theorem expand_refuses_native_bound :
    ∃ message w, expand (answering (exportingNative (callBind 1 #[])))
        { keywords := ⟨["precall"]⟩, file := "a.js", expandSpecifiers := true }
        { form := .tag, keyword := "precall", literal := "1", span := .none }
        { bench := {}, box := () } =
      (.error (.serialization "a.js" "function" message (({} : Workbench).place .none)),
        { bench := w, box := () }) := by
  have hcompile : (Fragment.compile "1" "a.js").toOption.isSome = true := by
    decide +kernel
  have hspeaks : SpeaksNatively (exportingNative (callBind 1 #[])).machine 6
      (.ofString "bound max") := ⟨rfl, ⟨3, false, [], rfl, rfl⟩, rfl⟩
  refine expand_refuses_native (r := exportingNative (callBind 1 #[])) ?_ ⟨rfl, rfl⟩ rfl hspeaks ?_
  · unfold Evaluator.evaluate
    cases hunit : Fragment.compile "1" "a.js" with
    | error f =>
        rw [hunit] at hcompile
        cases hcompile
    | ok unit => rfl
  · have hname : (Units.ofString "bound max").text.toList =
        "bound".toList ++ ' ' :: "max".toList := by
      decide +kernel
    rw [hname]
    refine .marked ⟨⟨'b', _, rfl, ?_⟩, ?_⟩ ?_ (.word ⟨⟨'m', _, rfl, ?_⟩, ?_⟩)
    all_goals decide

/-- A built-in function that was given another `toString`: the text which that gives is an
    expression. -/
theorem overridden_text_spliced :
    (exportingNative (do
        Object.set 1 (Key.text "toString") (← callBind 5 #[.text "1"])
        return .obj 1)).exportValue.1.toOption = some (.callable "1") ∧
      ((Outcome.callable "1").toExpr .none "a.js" {}).1.toOption.map (fun e => (e.print []).1) =
        some "(1)" := by
  constructor
  · decide +kernel
  · decide +kernel

end Expansion

end Inlay
