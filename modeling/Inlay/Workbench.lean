import Inlay.Failure
import Inlay.Path
import Inlay.Syntax.Grammar
import Inlay.Syntax.Print.Ast
import Inlay.Text.Width
import Inlay.Text.Trim

/-! # The workbench

    Everything read while one file is expanded lies side by side on one line of positions: each
    text starts one position behind the end of the one before it, the first at position one.
    Comments of all texts are kept together, by position, until they are printed. -/

namespace Inlay

open Syntax

/-- A text that was read, and the position of its first character. -/
structure SourceText where
  start : Nat
  chars : List Char

/-- The texts read so far, the latest first, and the comments not yet printed. -/
structure Workbench where
  texts : List SourceText := []
  comments : List Attached := []

def Syntax.Dialect.ofFileName (file : String) : Dialect :=
  match ((Path.extension? file).map String.toLower).getD "" with
  | "ts" | "mts" | "cts" => { isTypeScript := true, hasMarkup := false, hasDecorators := true }
  | "tsx" => { isTypeScript := true, hasMarkup := true, hasDecorators := true }
  | _ => { isTypeScript := false, hasMarkup := true, hasDecorators := false }

def Syntax.Dialect.plain : Dialect :=
  { isTypeScript := false, hasMarkup := false, hasDecorators := false }

namespace SourceText

def stop (t : SourceText) : Nat := t.start + t.chars.length

/-- Line and column reached after `n` characters. -/
def walk : List Char → Nat → Place → Place
  | _, 0, p => p
  | [], _, p => p
  | '\r' :: '\n' :: cs, n + 1, p =>
      match n with
      | 0 => { p with column := p.column + Text.columnsOf '\r' }
      | n + 1 => walk cs n ⟨p.line + 1, 1⟩
  | c :: cs, n + 1, p =>
      if c == '\n' || c == '\r' then walk cs n ⟨p.line + 1, 1⟩
      else walk cs n { p with column := p.column + Text.columnsOf c }

/-- Line and column of a position inside the text. -/
def placeOf (t : SourceText) (pos : Nat) : Place := walk t.chars (pos - t.start) ⟨1, 1⟩

end SourceText

namespace Workbench

def next (w : Workbench) : Nat :=
  match w.texts with
  | [] => 1
  | t :: _ => t.stop + 1

def place (w : Workbench) (span : Span) : Option Place :=
  if span.isNone then none
  else (w.texts.find? (·.start ≤ span.lo)).map (·.placeOf span.lo)

/-- A byte order mark at the start of a text is not part of it. -/
def withoutMark (source : String) : String :=
  match source.toList with
  | c :: cs => if c.toNat == 0xfeff then String.ofList cs else source
  | [] => source

/-- Reads a text and puts it on the bench, with its comments. -/
def read (w : Workbench) (dialect : Dialect) (source : String) : Parsed × Workbench :=
  let source := withoutMark source
  let parsed := parse dialect source w.next
  (parsed,
    { texts := ⟨w.next, source.toList⟩ :: w.texts, comments := w.comments ++ parsed.comments })

/-- Reads a whole file; a fault the reader got over counts like any other. -/
def readProgram (w : Workbench) (file source : String) (dialect : Dialect) :
    Except Failure Ast × Workbench :=
  let (parsed, w) := w.read dialect source
  match parsed.faults, parsed.tree with
  | fault :: _, _ => (.error (.parse file fault.problem.message (w.place fault.span)), w)
  | [], some tree => (.ok tree, w)
  | [], none => (.error (.parse file "parser produced no program" none), w)

/-- Reads a text that is one expression.  It is read inside parentheses, so that functions, classes
    and objects are expressions. -/
def readExpr (w : Workbench) (file source : String) : Except Failure Ast × Workbench :=
  let (parsed, w) := w.read .plain ("(\n" ++ source ++ "\n)")
  let fail (m : String) : Except Failure Ast × Workbench :=
    (.error (.compile file s!"`{Text.trimmed source}` is not {m}" none), w)
  match parsed.faults, parsed.tree with
  | fault :: _, _ => fail s!"an expression: {fault.problem.message}"
  | [], some (.node (.scriptRoot _) _ [.node .exprStmt _ [e]]) => (.ok e.unparen, w)
  | [], some (.node (.scriptRoot _) _ _) => fail "a single expression"
  | [], _ => fail "an expression"

/-- Prints a tree, with the comments that stand at its positions. -/
def print (w : Workbench) (t : Ast) : String × Workbench :=
  let (text, rest) := t.print w.comments
  (text, { w with comments := rest })

end Workbench

end Inlay
