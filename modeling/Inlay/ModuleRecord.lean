import Inlay.Engine.Describe
import Inlay.Engine.Realm
import Inlay.Expansion
import Inlay.Fragment.Tag
import Inlay.Path

/-! # Module records

    A fragment runs as a module of its own: in a machine that nothing else uses, with a `module`
    object whose `exports` hold its result.  Definitions are tagged while they are evaluated, so
    that an exported function can be given by the text of its definition. -/

namespace Inlay

open Engine Engine.Exec Fragment

/-- A machine with the module object of a fragment. -/
structure ModuleRecord where
  file : String
  machine : Machine
  module : Ref
  /-- The symbol under which a tagged definition keeps its number. -/
  tagKey : SymbolId
  /-- The function that tags definitions. -/
  tag : Value
  /-- The texts of the definitions, by their numbers. -/
  sources : List String

namespace ModuleRecord

/-- The script of the function that stands for `require`: it always throws. -/
def requireScript : String :=
  "(function require(id) \x7b throw new Error(\"Cannot find module '\" + id + "
   ++ "\"': fragments cannot load modules\"); \x7d)"

/-- The script that makes the function that tags definitions, and the symbol it uses. -/
def tagScript : String :=
  "(function () \x7b const key = Symbol('precall.source'); "
   ++ "const tag = function (definition, id) \x7b "
   ++ "Object.defineProperty(definition, key, \x7b value: id \x7d); return definition; \x7d; "
   ++ "return \x7b key, tag \x7d; \x7d)()"

/-- The script of a function whose body is a fragment; the fragment starts on its first line. -/
def wrapper (code : String) : String :=
  "(function (exports, require, module, __filename, __dirname, " ++ tagName ++ ") \x7b " ++ code
    ++ "\n\x7d)"

/-! ## Making a record -/

def malformed {α : Type} : Exec α := typeError "source tagger is malformed"

/-- Makes the module object and the function that tags definitions. -/
def setUp : Exec (Ref × SymbolId × Value) := do
  let module ← newObject
  let exports ← newObject
  Object.set module (Key.text "exports") (.obj exports)
  match ← Run.script (.ofString tagScript) with
  | .obj tagger =>
      let tag ← Object.get tagger (Key.text "tag")
      match ← Object.get tagger (Key.text "key") with
      | .sym key => if ← Object.isCallable tag then return (module, key, tag) else malformed
      | _ => malformed
  | _ => typeError "source tagger did not evaluate to an object"

/-- The state of a machine after `setUp`; it is the same for every record. -/
def start : Except Abrupt (Ref × SymbolId × Value) × Machine := Run.outside setUp Machine.initial

/-- A record for a file of this name in a machine after `setUp`. -/
def ofStart (file : String) :
    Except Abrupt (Ref × SymbolId × Value) × Machine → Except Failure ModuleRecord
  | (.ok (module, tagKey, tag), machine) =>
      .ok { file, machine, module, tagKey, tag, sources := [] }
  | (.error a, m) => .error (.execution file (a.describe m).1 none)

def new (file : String) : Except Failure ModuleRecord := ofStart file start

/-- Runs a program in the machine of a record; `failed` makes a failure of what is thrown. -/
def run {α : Type} (r : ModuleRecord) (p : Exec α) (failed : String → Failure) :
    Except Failure α × ModuleRecord :=
  match Run.outside p r.machine with
  | (.ok v, machine) => (.ok v, { r with machine })
  | (.error a, m) =>
      let (text, machine) := a.describe m
      (.error (failed text), { r with machine })

/-! ## Running a fragment -/

/-- Calls the function of a fragment with what a module sees. -/
def call (r : ModuleRecord) (f : Value) : Exec Unit := do
  let require ← Run.script (.ofString requireScript)
  let exports ← Object.get r.module (Key.text "exports")
  let dir := (Path.parent? r.file).getD ""
  let _ ← Object.call f .undefined
    #[exports, require, .obj r.module, .text r.file, .text dir, r.tag]

def execute (r : ModuleRecord) (unit : ScriptUnit) : Except Failure Unit × ModuleRecord :=
  let r := { r with sources := unit.sources }
  let wrapped := r.run (Run.script (.ofString (wrapper unit.code))) fun m => .compile r.file m none
  match wrapped with
  | (.error f, r) => (.error f, r)
  | (.ok f, r) =>
      match r.run (Object.isCallable f) fun m => .compile r.file m none with
      | (.ok true, r) => r.run (r.call f) fun m => .execution r.file m none
      | (_, r) =>
          (.error (.compile r.file "module wrapper did not evaluate to a function" none), r)

/-! ## The result -/

def typeName (v : Value) : Exec String := do
  match v with
  | .null => return "null"
  | v => typeOf v

/-- The text of the definition that a tagged function refers to. -/
def taggedSource? (r : ModuleRecord) (f : Ref) : Exec (Option String) := do
  match ← Object.get f (.sym r.tagKey) with
  | .num n =>
      match n.toInt? with
      | some (.ofNat i) => return r.sources[i]?
      | _ => return none
  | _ => return none

/-- The text that stands for a function: its definition if it is tagged, else what the function
    itself says. -/
def definition (r : ModuleRecord) (f : Ref) : Exec String := do
  match ← r.taggedSource? f with
  | some s => return s
  | none => return (← toText (.obj f)).text

/-- The JSON text of a value, by the function that scripts see. -/
def stringify (v : Value) : Exec Value := do
  let json ← Object.get Intrinsic.global (Key.text "JSON")
  let f ← match json with
    | .obj j => Object.get j (Key.text "stringify")
    | _ => pure .undefined
  if !(← Object.isCallable f) then typeError "JSON.stringify is not available"
  Object.call f json #[v]

def exportValue (r : ModuleRecord) : Except Failure Outcome × ModuleRecord :=
  let got := r.run (Object.get r.module (Key.text "exports")) fun m => .execution r.file m none
  match got with
  | (.error f, r) => (.error f, r)
  | (.ok .undefined, r) => (.ok .absent, r)
  | (.ok v, r) =>
      let typed := r.run (do return (← typeName v, ← Object.isCallable v)) fun m =>
        .execution r.file m none
      match typed, v with
      | (.error f, r), _ => (.error f, r)
      | (.ok (type, true), r), .obj f =>
          match r.run (r.definition f) fun m => .serialization r.file type m none with
          | (.ok s, r) => (.ok (.callable s), r)
          | (.error f, r) => (.error f, r)
      | (.ok (type, _), r), v =>
          let failed (m : String) : Failure := .serialization r.file type m none
          match r.run (stringify v) failed with
          | (.error f, r) => (.error f, r)
          | (.ok (.str s), r) =>
              match Outcome.ofJson s.text with
              | .ok o => (.ok o, r)
              | .error f => (.error (failed f.message), r)
          | (.ok _, r) => (.error (failed "JSON.stringify produced no output"), r)

end ModuleRecord

def engineEvaluator : Evaluator Unit where
  run unit s :=
    let outcome : Except Failure Outcome := do
      let r ← ModuleRecord.new unit.file
      match r.execute unit with
      | (.error f, _) => throw f
      | (.ok _, r) => r.exportValue.1
    (outcome, s)

end Inlay
