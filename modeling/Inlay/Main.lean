import Inlay.CommandLine

/-! # The program

    The command line on the files and streams of the machine.  The directory in which relative paths
    begin is kept beside the run. -/

namespace Inlay.Program

/-- Runs with a directory in which relative paths begin; the empty path is the one the program was
    started in. -/
abbrev Run := StateT String IO

def fault : IO.Error → FileFault
  | .noFileOrDirectory .. => .missing
  | .alreadyExists .. => .present
  | .inappropriateType _ 21 _ => .isDirectory
  | .inappropriateType .. => .notDirectory
  | e => .other (toString e)

def attempt (act : IO α) : Run (Except FileFault α) := do
  match ← act.toBaseIO with
  | .ok a => return .ok a
  | .error e => return .error (fault e)

def resolve (path : String) : Run String := return Path.join (← get) path

def readBytes (path : String) : Run (Except FileFault ByteArray) := do
  if path.isEmpty then return .error .missing
  attempt (IO.FS.readBinFile (← resolve path))

def ofBytes (bytes : ByteArray) : Except FileFault String :=
  match String.fromUTF8? bytes with
  | some s => .ok s
  | none => .error .notText

def say (text : String) : Run Unit := do
  let stream ← IO.getStderr
  stream.putStr (text ++ "\n")

def system : System Run where
  readFile path := return (← readBytes path).bind ofBytes
  isFile path := do
    match ← readBytes path with
    | .ok _ => return true
    | .error _ => return false
  makeDirectories path := do attempt (IO.FS.createDirAll (← resolve path))
  writeFile path content := do
    if path.isEmpty then return .error .missing
    attempt (IO.FS.writeFile (← resolve path) content)
  enter path := do
    match ← readBytes path with
    | .error .isDirectory =>
        set (← resolve path)
        return .ok ()
    | .error e => return .error e
    | .ok _ => return .error .notDirectory
  readInput := do
    let stream ← IO.getStdin
    return (← attempt stream.readBinToEnd).bind ofBytes
  writeOutput text := do
    let stream ← IO.getStdout
    stream.putStr text
    stream.flush
  log level text := say (level.text ++ ": " ++ text)
  report := say

end Inlay.Program

def main (args : List String) : IO UInt32 := do
  let (exit, _) ← (Inlay.CommandLine.run args Inlay.Program.system).run ""
  return exit.code.toUInt32
