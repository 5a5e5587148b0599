/-! # Paths

    A path is text: an optional root and pieces between slashes.  Empty pieces and `.` pieces say
    nothing, except that a path without root may begin with a `.` piece.  What is cut off a path
    is cut off its text, so the rest keeps its own spelling. -/

namespace Inlay.Path

def isRooted (path : String) : Bool := path.toList.head? == some '/'

def cut : List Char → List (List Char)
  | [] => [[]]
  | c :: cs =>
      if c == '/' then [] :: cut cs
      else match cut cs with
        | [] => [[c]]
        | piece :: rest => (c :: piece) :: rest

def pieces (path : String) : List String :=
  (cut (if isRooted path then path.toList.tail else path.toList)).map String.ofList

/-- Whether a piece in front of which others stand says nothing. -/
def isIdle (piece : String) : Bool := piece == "" || piece == "."

/-- Drops the pieces at the end that say nothing, apart from the `.` that a path without root begins
    with. -/
def trimEnd (rooted : Bool) (ps : List String) : List String :=
  let back := ps.reverse.dropWhile isIdle
  match back.reverse, ps with
  | [], "." :: _ => if rooted then [] else ["."]
  | qs, _ => qs

def ofPieces (rooted : Bool) (ps : List String) : String :=
  (if rooted then "/" else "") ++ "/".intercalate ps

def last? (path : String) : Option String :=
  (trimEnd (isRooted path) (pieces path)).getLast?

/-- The name of the file a path leads to; a path that ends in `..` or is only `.` leads to none. -/
def fileName? (path : String) : Option String :=
  match last? path with
  | some ".." | some "." | some "" => none
  | other => other

/-- The path without its last piece; the root and the empty path have none. -/
def parent? (path : String) : Option String :=
  let rooted := isRooted path
  match trimEnd rooted (pieces path) with
  | [] => none
  | ps => some (ofPieces rooted (trimEnd rooted ps.dropLast))

/-- Splits a file name at its last dot; a name whose only dot stands first has no extension. -/
def splitExtension (name : List Char) : List Char × Option (List Char) :=
  let back := name.reverse
  match back.dropWhile (· != '.') with
  | '.' :: stem =>
      if stem.isEmpty then (name, none)
      else (stem.reverse, some (back.takeWhile (· != '.')).reverse)
  | _ => (name, none)

/-- What stands after the last dot of the file name. -/
def extension? (path : String) : Option String := do
  let name ← fileName? path
  let ext ← (splitExtension name.toList).2
  return String.ofList ext

def join (dir file : String) : String :=
  if isRooted file || dir.isEmpty then file
  else if dir.toList.getLast? == some '/' then dir ++ file
  else dir ++ "/" ++ file

end Inlay.Path
