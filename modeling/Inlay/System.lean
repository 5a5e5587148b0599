import Inlay.Files

/-! # The system around a command

    Files, standard input and output, and messages.  Commands are written once for every system; a
    `World` is one that is a value. -/

namespace Inlay

/-- How important a message is. -/
inductive Level where
  | error | warn | info | debug | trace
  deriving DecidableEq

namespace Level

def rank : Level → Nat
  | error => 0
  | warn => 1
  | info => 2
  | debug => 3
  | trace => 4

def text : Level → String
  | error => "error"
  | warn => "warn"
  | info => "info"
  | debug => "debug"
  | trace => "trace"

def all : List Level := [error, warn, info, debug, trace]

def ofText? (s : String) : Option Level := all.find? (·.text == s)

end Level

/-- What a command asks of the system around it. -/
structure System (m : Type → Type) where
  readFile : String → m (Except FileFault String)
  isFile : String → m Bool
  makeDirectories : String → m (Except FileFault Unit)
  writeFile : String → String → m (Except FileFault Unit)
  /-- Changes the directory in which relative paths begin. -/
  enter : String → m (Except FileFault Unit)
  readInput : m (Except FileFault String)
  writeOutput : String → m Unit
  log : Level → String → m Unit
  /-- Says why a command failed. -/
  report : String → m Unit

def System.upTo {m : Type → Type} [Monad m] (s : System m) (level : Level) : System m :=
  { s with log := fun l text => if l.rank ≤ level.rank then s.log l text else pure () }

/-- A system as a value. -/
structure World where
  files : Files
  input : String := ""
  output : String := ""
  /-- What was logged or reported, the last first. -/
  messages : List String := []

namespace World

def change (f : Files → Except FileFault Files) : StateM World (Except FileFault Unit) :=
  modifyGet fun w =>
    match f w.files with
    | .ok files => (.ok (), { w with files })
    | .error e => (.error e, w)

def system : System (StateM World) where
  readFile path := return (← get).files.read path
  isFile path := return (← get).files.isFile path
  makeDirectories path := change (·.makeDirectories path)
  writeFile path content := change (·.write path content.toUTF8)
  enter path := change (·.enter path)
  readInput := return .ok (← get).input
  writeOutput s := modify fun w => { w with output := w.output ++ s }
  log l s := modify fun w => { w with messages := (l.text ++ ": " ++ s) :: w.messages }
  report s := modify fun w => { w with messages := s :: w.messages }

end World

end Inlay
