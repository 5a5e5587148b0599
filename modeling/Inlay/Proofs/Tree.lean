import Mathlib
import Inlay.Syntax.Ast

/-! # Induction over trees

    A tree is a node over a list of trees, so what holds of a node whenever it holds of the parts
    holds of every tree.  Some functions go on with the parts of a part: the arguments of a call,
    the values of the properties of an object.  For them the induction looks two levels down.

    What is said of a tree at every depth is said of its `nodes`. -/

namespace Inlay.Syntax

@[elab_as_elim] theorem Ast.induction {motive : Ast → Prop}
    (node : ∀ shape span parts, (∀ t ∈ parts, motive t) → motive (.node shape span parts)) :
    ∀ t, motive t
  | .node shape span parts => node shape span parts fun t _ => Ast.induction node t

@[elab_as_elim] theorem Ast.induction₂ {motive : Ast → Prop}
    (node : ∀ shape span parts, (∀ t ∈ parts, motive t) → (∀ t ∈ parts, ∀ c ∈ t.parts, motive c) →
      motive (.node shape span parts)) (t : Ast) : motive t := by
  have both : motive t ∧ ∀ c ∈ t.parts, motive c := by
    induction t using Ast.induction with
    | node shape span parts ih =>
        exact ⟨node shape span parts (fun t ht => (ih t ht).1) fun t ht => (ih t ht).2,
          fun c hc => (ih c hc).1⟩
  exact both.1

/-! ## The nodes of a tree -/

namespace Ast

mutual

/-- All nodes of a tree, each before its parts. -/
def nodes : Ast → List Ast
  | node shape span parts => node shape span parts :: nodesAll parts

def nodesAll : List Ast → List Ast
  | [] => []
  | t :: ts => t.nodes ++ nodesAll ts

end

theorem nodesAll_eq_flatMap (ts : List Ast) : nodesAll ts = ts.flatMap nodes := by
  induction ts with
  | nil => rw [nodesAll, List.flatMap_nil]
  | cons t ts ih => rw [nodesAll, ih, List.flatMap_cons]

theorem nodes_node (shape : Shape) (span : Span) (parts : List Ast) :
    (node shape span parts).nodes = node shape span parts :: parts.flatMap nodes := by
  rw [nodes, nodesAll_eq_flatMap]

theorem mem_nodes_self (t : Ast) : t ∈ t.nodes := by
  obtain ⟨shape, span, parts⟩ := t
  rw [nodes_node]
  exact List.mem_cons_self

theorem mem_nodes_node {s : Ast} {shape : Shape} {span : Span} {parts : List Ast} :
    s ∈ (node shape span parts).nodes ↔ s = node shape span parts ∨ ∃ t ∈ parts, s ∈ t.nodes := by
  rw [nodes_node, List.mem_cons, List.mem_flatMap]

theorem mem_nodes_trans {s t u : Ast} (hs : s ∈ t.nodes) (ht : t ∈ u.nodes) : s ∈ u.nodes := by
  induction u using Ast.induction with
  | node shape span parts ih =>
      rcases mem_nodes_node.mp ht with rfl | ⟨part, hpart, ht⟩
      · exact hs
      · exact mem_nodes_node.mpr (.inr ⟨part, hpart, ih part hpart ht⟩)

def isNamed (name : String) (t : Ast) : Bool :=
  match t.shape with
  | .ident n _ _ => n == name
  | _ => false

def Uses (name : String) (t : Ast) : Prop := ∃ s ∈ t.nodes, s.isNamed name

instance (name : String) (t : Ast) : Decidable (t.Uses name) :=
  inferInstanceAs (Decidable (∃ s ∈ t.nodes, s.isNamed name))

variable {name : String}

theorem Uses.of_node {s t : Ast} (h : s.Uses name) (hs : s ∈ t.nodes) : t.Uses name := by
  obtain ⟨i, hi, hname⟩ := h
  exact ⟨i, mem_nodes_trans hi hs, hname⟩

theorem Uses.of_part {shape : Shape} {span : Span} {parts : List Ast} {t : Ast} (h : t.Uses name)
    (ht : t ∈ parts) : (node shape span parts).Uses name :=
  h.of_node (mem_nodes_node.mpr (.inr ⟨t, ht, mem_nodes_self t⟩))

end Ast

end Inlay.Syntax
