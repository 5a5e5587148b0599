import Inlay.Diagnostic
import Inlay.ModuleRecord
import Inlay.System

/-! # Expanding files

    Each input is read, expanded and written before the next one is read, so what was written before
    a failure stays. -/

namespace Inlay

/-- Why a command failed. -/
inductive CommandFailure where
  | io (fault : FileFault)
  | input (message : String)
  | options (f : Failure)
  | expansion (d : Diagnostic)

def CommandFailure.message : CommandFailure → String
  | io e => s!"IO error: {e.message}"
  | input m => s!"Invalid input: {m}"
  | options f => f.message
  | expansion d => d.failure.message

/-- What is to be expanded, and where the result goes. -/
structure ExpandCommand where
  inputs : List String := []
  output : Option String := none
  outDir : Option String := none
  /-- Keywords that replace those of the options. -/
  values : List String := []
  noSpecifiers : Bool := false
  /-- The name of the text on standard input. -/
  inputName : Option String := none

namespace ExpandCommand

variable {m : Type → Type} [Monad m]

def usualInputName : String := "stdin.js"

def ofFile (e : Except FileFault α) : ExceptT CommandFailure m α :=
  match e with
  | .ok a => pure a
  | .error f => throw (.io f)

/-- Expands one text; a failure is given with the text. -/
def expandSource (p : Pass) (s : System m) (source name : String) :
    ExceptT CommandFailure m String := do
  s.log .debug s!"expanding {name}"
  match (p.source engineEvaluator source name ()).1 with
  | .ok code => return code
  | .error f => throw (.expansion (Diagnostic.of f name source))

/-- The file for the result of an input in a directory, which is made. -/
def targetIn (s : System m) (dir input : String) : ExceptT CommandFailure m String := do
  match Path.fileName? input with
  | none => throw (.input s!"{input} has no file name")
  | some name =>
      ofFile (← s.makeDirectories dir)
      return Path.join dir name

/-- Writes a result to a file, whose directory is made, or to standard output. -/
def writeResult (s : System m) (target : Option String) (content : String) :
    ExceptT CommandFailure m Unit := do
  match target with
  | none => s.writeOutput content
  | some path =>
      match Path.parent? path with
      | some dir => if !dir.isEmpty then ofFile (← s.makeDirectories dir)
      | none => pure ()
      ofFile (← s.writeFile path content)

def expandInput (c : ExpandCommand) (p : Pass) (s : System m) (input : String) :
    ExceptT CommandFailure m Unit := do
  let source ← ofFile (← s.readFile input)
  let code ← expandSource p s source input
  let target ← match c.output, c.outDir with
    | some o, _ => pure (some o)
    | none, some dir => some <$> targetIn s dir input
    | none, none => pure none
  writeResult s target code
  s.log .info s!"expanded {input}"

/-- Expands all inputs, or standard input if there are none; returns how many results were
    written. -/
def run (c : ExpandCommand) (o : Options) (s : System m) : ExceptT CommandFailure m Nat := do
  match Pass.of (o.override c.values c.noSpecifiers) with
  | .error f => throw (.options f)
  | .ok p =>
      s.log .debug "configured keywords"
      if c.output.isSome && c.inputs.length > 1 then
        throw (.input "--output takes a single input; use --out-dir for several")
      if c.inputs.isEmpty then
        let source ← ofFile (← s.readInput)
        let code ← expandSource p s source (c.inputName.getD usualInputName)
        writeResult s c.output code
        return 1
      c.inputs.forM (c.expandInput p s)
      return c.inputs.length

end ExpandCommand

end Inlay
