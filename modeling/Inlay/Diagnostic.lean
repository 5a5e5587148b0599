import Inlay.Failure

/-! # Diagnostics

    A failure with the file it happened in.  The label points at the place, as an offset in bytes;
    columns count characters here. -/

namespace Inlay

def byteLength : List Char → Nat
  | [] => 0
  | c :: cs => c.utf8Size + byteLength cs

def linesOf : List Char → List (List Char)
  | [] => []
  | c :: cs =>
      if c == '\n' then [c] :: linesOf cs
      else match linesOf cs with
        | [] => [[c]]
        | l :: ls => (c :: l) :: ls

/-- The byte offset of a place; there is none if the text has no such line.  A column behind the
    end of the line means its end. -/
def offsetOf (source : String) (p : Place) : Option Nat :=
  let lines := linesOf source.toList
  if p.line == 0 then none
  else (lines[p.line - 1]?).map fun line =>
    byteLength (lines.take (p.line - 1)).flatten + byteLength (line.take (p.column - 1))

/-- A failure in the file `name`, which holds the text `source`. -/
structure Diagnostic where
  failure : Failure
  name : String
  source : String
  /-- Where the label points, and how many bytes it covers. -/
  label : Option (Nat × Nat)

namespace Diagnostic

def of (failure : Failure) (name source : String) : Diagnostic :=
  { failure, name, source, label := (failure.place.bind (offsetOf source)).map fun o => (o, 1) }

/-- The code under which all diagnostics of this kind are documented. -/
def code : String := "precall::expand"

def labelText : String := "while expanding this"

end Diagnostic

end Inlay
