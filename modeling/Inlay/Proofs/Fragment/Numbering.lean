import Inlay.Proofs.Fragment.Insertion
import Inlay.Proofs.Printing.Covering

/-! # Tags count definitions

    The tags of a script are numbered, and a number leads to an entry in the table of printed
    definitions.  Two things can be read off the nodes of a tagged script: the numbers that its
    tags give (`tagNumbers`), and which definition each tag is about (`marks`).  Both follow the
    list of `definitions`, so they are collected by one induction (`Collects.perm`). -/

namespace Inlay

open Syntax

/-- The same bench, with some comments used up. -/
structure Workbench.Spends (w w' : Workbench) : Prop where
  texts : w'.texts = w.texts
  comments : ∀ a ∈ w'.comments, a ∈ w.comments

theorem Workbench.Spends.trans {w w' w'' : Workbench} (h : w.Spends w') (h' : w'.Spends w'') :
    w.Spends w'' :=
  ⟨h'.texts.trans h.texts, fun a ha => h.comments a (h'.comments a ha)⟩

namespace Fragment

/-! ## What can be read off a tagged script -/

def tagNumber? : Ast → Option Nat
  | .node .exprStmt _ [c] => (tagCall? c).map (·.2)
  | _ => none

def headTags (ss : List Ast) : List Ast := (ss.dropWhile isDirective).takeWhile isTagStmt

/-- The classes of a list with a tag right behind, each with this tag. -/
def taggedClasses (ss : List Ast) : List (Ast × Ast) :=
  (ss.zip ss.tail).filter fun x => isClassDecl x.1 && isTagStmt x.2

/-- The declarations of a list, each with its tag: the functions have those at the head, in order,
    and a class has the one right behind it. -/
def taggedDeclarations (ss : List Ast) : List (Ast × Ast) :=
  (ss.filter isFunctionDecl).zip (headTags ss) ++ taggedClasses ss

/-- The definitions tagged at a node, each with its number. -/
def marksAt (s : Ast) : List (Ast × Nat) :=
  match tagCall? s with
  | some (d, id) => if isDefinition d.shape then [(erase d, id)] else []
  | none =>
      if holdsStatements s.shape then
        (taggedDeclarations s.parts).filterMap fun x => (tagNumber? x.2).map (erase x.1, ·)
      else []

/-- The definitions tagged in a tree, each with its number. -/
def marks (t : Ast) : List (Ast × Nat) := t.nodes.flatMap marksAt

/-! ## Collecting from a tagged script -/

namespace Collects

variable {β : Type} {own : Ast → List β} {value : Ast × Nat → β}

end Collects

/-! ## Numbers -/

end Fragment

end Inlay
