import Inlay.Syntax.Token

/-! # Writing text with indentation

    The text written so far, the indentation, and the comments that are still to be written.
    Writing a comment takes it out, so every comment is written once. -/

namespace Inlay.Syntax

/-- The text under construction. -/
structure Sheet where
  text : String := ""
  indent : Nat := 0
  /-- Whether nothing has been written on the current line. -/
  atLineStart : Bool := true
  comments : List Attached

abbrev W := StateM Sheet

namespace W

/-- Writes text, after the indentation if the line is new. -/
def put (s : String) : W Unit :=
  modify fun w =>
    if s.isEmpty then w
    else if w.atLineStart then
      { w with text := w.text ++ "".pushn ' ' (4 * w.indent) ++ s, atLineStart := false }
    else { w with text := w.text ++ s }

def newLine : W Unit :=
  modify fun w => if w.atLineStart then w
    else { w with text := w.text ++ "\n", atLineStart := true }

def space : W Unit := put " "

def given (b : Bool) (w : W Unit) : W Unit := if b then w else return

def flag (b : Bool) (s : String) : W Unit := given b (put s)

def indented (w : W Unit) : W Unit := do
  modify fun s => { s with indent := s.indent + 1 }
  w
  modify fun s => { s with indent := s.indent - 1 }

/-- Takes the comments attached before or after a position. -/
def take (isLeading : Bool) (pos : Nat) : W (List Comment) := do
  let s ← get
  let isHere (a : Attached) : Bool := a.isLeading == isLeading && a.pos == pos
  if s.comments.any isHere then
    set { s with comments := s.comments.filter (!isHere ·) }
    return (s.comments.filter isHere).map (·.comment)
  else return []

/-- Whether a comment waits before a position. -/
def hasLeading (pos : Nat) : W Bool := do
  return (← get).comments.any fun a => a.isLeading && a.pos == pos

def comment (spaced : Bool) (c : Comment) : W Unit := do
  flag spaced " "
  if c.isBlock then
    put "/*"
    put c.text
    put "*/"
    space
  else
    put "//"
    put c.text
    newLine

/-- Writes the comments at a position; those after it stand behind a blank. -/
def attached (isLeading : Bool) (pos : Nat) : W Unit := do
  if pos == 0 then return
  (← take isLeading pos).forM (comment (!isLeading))

def leading (pos : Nat) : W Unit := attached true pos

def trailing (pos : Nat) : W Unit := attached false pos

end W

end Inlay.Syntax
