import Inlay.Path

/-! # Files

    A file system as a value: what stands under each absolute name, and the directory in which
    relative paths begin.  The root is always a directory; a path is followed piece by piece, and
    every piece but the last has to lead to a directory.

    There are no symbolic links.  An entry is a file or a directory and has one location, so `..`
    only takes the last name off, and paths are followed by their text alone. -/

namespace Inlay

/-- Why something could not be done with a file. -/
inductive FileFault where
  | missing
  | present
  | notDirectory
  | isDirectory
  | longName
  | notText
  | zeroByte
  | other (message : String)
  deriving DecidableEq

def FileFault.message : FileFault → String
  | missing => "No such file or directory (os error 2)"
  | present => "File exists (os error 17)"
  | notDirectory => "Not a directory (os error 20)"
  | isDirectory => "Is a directory (os error 21)"
  | longName => "File name too long (os error 36)"
  | notText => "stream did not contain valid UTF-8"
  | zeroByte => "file name contained an unexpected NUL byte"
  | other m => m

inductive Entry where
  | file (bytes : ByteArray)
  | directory

/-- Names of directories and a last name, from the root on. -/
abbrev Location := List String

structure Files where
  entries : List (Location × Entry)
  /-- The directory in which relative paths begin. -/
  here : Location

namespace Files

def entry? (f : Files) (l : Location) : Option Entry :=
  if l.isEmpty then some .directory else f.entries.lookup l

def isDirectoryAt (f : Files) (l : Location) : Bool :=
  match f.entry? l with
  | some .directory => true
  | _ => false

def put (f : Files) (l : Location) (e : Entry) : Files :=
  if (f.entries.lookup l).isSome then
    { f with entries := f.entries.map fun x => if x.1 == l then (l, e) else x }
  else { f with entries := f.entries ++ [(l, e)] }

def maxName : Nat := 255

def walk (f : Files) : Location → List String → Except FileFault Location
  | at_, [] => return at_
  | at_, p :: ps => do
      if !f.isDirectoryAt at_ then throw .notDirectory
      if Path.isIdle p then walk f at_ ps
      else if p == ".." then walk f at_.dropLast ps
      else if p.utf8ByteSize > maxName then throw .longName
      else match f.entry? (at_ ++ [p]) with
        | some _ => walk f (at_ ++ [p]) ps
        | none => throw .missing

def origin (f : Files) (path : String) : Location := if Path.isRooted path then [] else f.here

def check (path : String) : Except FileFault Unit := do
  if path.toList.contains (Char.ofNat 0) then throw .zeroByte
  if path.isEmpty then throw .missing

def locate (f : Files) (path : String) : Except FileFault Location := do
  check path
  f.walk (f.origin path) (Path.pieces path)

def isFile (f : Files) (path : String) : Bool :=
  match f.locate path with
  | .ok l => !f.isDirectoryAt l
  | .error _ => false

def isDirectory (f : Files) (path : String) : Bool :=
  match f.locate path with
  | .ok l => f.isDirectoryAt l
  | .error _ => false

def read (f : Files) (path : String) : Except FileFault String := do
  match f.entry? (← f.locate path) with
  | some (.file bytes) =>
      match String.fromUTF8? bytes with
      | some s => return s
      | none => throw .notText
  | some .directory => throw .isDirectory
  | none => throw .missing

/-- Makes another directory the one in which relative paths begin. -/
def enter (f : Files) (path : String) : Except FileFault Files := do
  let l ← f.locate path
  if f.isDirectoryAt l then return { f with here := l } else throw .notDirectory

def innerPieces (path : String) : List String :=
  ((Path.pieces path).reverse.dropWhile (· == "")).reverse

/-- The place for a new entry: the directory has to be there.  Nothing if the last piece is no
    name. -/
def target (f : Files) (path : String) : Except FileFault (Option Location) := do
  check path
  let ps := innerPieces path
  match ps.getLast? with
  | none => return none
  | some name =>
      if name == "." || name == ".." then
        let _ ← f.walk (f.origin path) ps
        return none
      let dir ← f.walk (f.origin path) ps.dropLast
      if !f.isDirectoryAt dir then throw .notDirectory
      if name.utf8ByteSize > maxName then throw .longName
      return some (dir ++ [name])

def makeDirectory (f : Files) (path : String) : Except FileFault Files := do
  match ← f.target path with
  | none => throw .present
  | some l =>
      match f.entry? l with
      | some _ => throw .present
      | none => return f.put l .directory

/-- Makes a directory and those above it, as far as they are missing. -/
def makeDirectoriesWithin (f : Files) : Nat → String → Except FileFault Files
  | 0, _ => throw (.other "failed to create whole tree")
  | n + 1, path =>
      if path.isEmpty then return f
      else match f.makeDirectory path with
        | .ok f => return f
        | .error .missing =>
            match Path.parent? path with
            | none => throw (.other "failed to create whole tree")
            | some parent => do
                let f ← f.makeDirectoriesWithin n parent
                match f.makeDirectory path with
                | .ok f => return f
                | .error e => if f.isDirectory path then return f else throw e
        | .error e => if f.isDirectory path then return f else throw e

def makeDirectories (f : Files) (path : String) : Except FileFault Files :=
  f.makeDirectoriesWithin (path.length + 1) path

def write (f : Files) (path : String) (bytes : ByteArray) : Except FileFault Files := do
  match ← f.target path with
  | none => throw .isDirectory
  | some l =>
      if path.endsWith "/" || f.isDirectoryAt l then throw .isDirectory
      return f.put l (.file bytes)

def writeDeep (f : Files) (path : String) (bytes : ByteArray) : Except FileFault Files := do
  let f ← f.makeDirectories ((Path.parent? path).getD "")
  f.write path bytes

/-- Files below an empty directory, in which relative paths begin. -/
def ofList (here : Location) (files : List (String × ByteArray)) : Except FileFault Files := do
  let f ← ({ entries := [], here := [] } : Files).makeDirectories ("/".intercalate here)
  files.foldlM (fun f x => f.writeDeep x.1 x.2) { f with here }

/-- The files below a directory, with their paths from there. -/
def below (f : Files) (l : Location) : List (String × ByteArray) :=
  f.entries.filterMap fun x =>
    match x.2 with
    | .file bytes =>
        if l.isPrefixOf x.1 then some ("/".intercalate (x.1.drop l.length), bytes) else none
    | .directory => none

/-- The files below the directory in which paths began that are new or other than before. -/
def changes (before after : Files) : List (String × ByteArray) :=
  let old := before.below before.here
  (after.below before.here).filter fun x =>
    match old.lookup x.1 with
    | some bytes => bytes.data != x.2.data
    | none => true

end Files

end Inlay
