import Inlay.Options.Toml
import Inlay.System

/-! # Options from a file -/

namespace Inlay.Options

variable {m : Type → Type} [Monad m]

/-- The file that is read if none is named and it is there. -/
def defaultFile : String := "precall.toml"

def loadFrom (s : System m) (path : String) : m (Except Failure Options) := do
  match ← s.readFile path with
  | .error e => return .error (.config s!"failed to read config file {path}: {e.message}")
  | .ok text =>
      match ofToml text with
      | .error e => return .error (.config s!"failed to parse config file {path}: {e}")
      | .ok o =>
          s.log .debug s!"loaded options from {path}"
          return .ok o

/-- Reads options from a named file, or from the usual one. -/
def load (s : System m) (path : Option String) : m (Except Failure Options) := do
  match path with
  | some p => loadFrom s p
  | none =>
      if ← s.isFile defaultFile then loadFrom s defaultFile
      else
        s.log .debug s!"no {defaultFile} found, using default options"
        return .ok {}

end Inlay.Options
