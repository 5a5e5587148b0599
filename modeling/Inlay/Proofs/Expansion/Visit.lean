import Mathlib
import Inlay.Expansion

/-! # The steps of an expansion

    What one step of the traversal does to a node, by the kind of match that the node is.  Proofs
    about expansions use these equations and do not open the traversal again. -/

namespace Inlay

open Syntax

variable {σ α β : Type}

/-- The progress at which a failure is met; an earlier failure stays. -/
def Progress.stop (p : Progress σ) (f : Failure) : Progress σ :=
  { p with failure := p.failure.or (some f) }

namespace Expansion

@[simp] theorem bind_apply (m : Expand σ α) (k : α → Expand σ β) (p : Progress σ) :
    (m >>= k) p = k (m p).1 (m p).2 := rfl

@[simp] theorem map_apply (g : α → β) (m : Expand σ α) (p : Progress σ) :
    (g <$> m) p = (g (m p).1, (m p).2) := rfl

@[simp] theorem pure_apply (a : α) (p : Progress σ) : (pure a : Expand σ α) p = (a, p) := rfl

@[simp] theorem get_apply (p : Progress σ) : (get : Expand σ (Progress σ)) p = (p, p) := rfl

@[simp] theorem fail_apply (f : Failure) (p : Progress σ) : fail f p = ((), p.stop f) := rfl

variable {box : Evaluator σ} {s : Setting} {inner : Ast → Expand σ Ast}

/-! ## Nodes -/

/-- Once a failure has been met, nothing changes any more. -/
theorem visit_of_failure {p : Progress σ} (h : p.failure.isSome) (t : Ast) :
    visit box s inner t p = (t, p) := by
  obtain ⟨shape, span, parts⟩ := t
  simp [visit, h]

section Node

variable {shape : Shape} {span : Span} {parts : List Ast} {p q : Progress σ} {e : Ast} {f : Failure}

theorem visit_invocation {i : Invocation} (hp : p.failure = none)
    (hi : s.invocation? (.node shape span parts) = some i) (he : expand box s i p = (.ok e, q)) :
    visit box s inner (.node shape span parts) p = (e, q) := by
  simp [visit, hp, hi, he]

theorem visit_invocation_failed {i : Invocation} (hp : p.failure = none)
    (hi : s.invocation? (.node shape span parts) = some i) (he : expand box s i p = (.error f, q)) :
    visit box s inner (.node shape span parts) p = (.node shape span parts, q.stop f) := by
  simp [visit, hp, hi, he]

section NoInvocation

variable {spec : Specifier} (hp : p.failure = none)
  (hi : s.invocation? (.node shape span parts) = none)

include hp hi

theorem visit_require (hr : s.requireSpecifier? (.node shape span parts) = some spec)
    (he : expandSpecifier inner s spec p = (.ok e, q)) :
    visit box s inner (.node shape span parts) p =
      (.node shape span (visitCall box s inner e parts q).1,
        (visitCall box s inner e parts q).2) := by
  simp [visit, hp, hi, hr, he]

theorem visit_require_failed (hr : s.requireSpecifier? (.node shape span parts) = some spec)
    (he : expandSpecifier inner s spec p = (.error f, q)) :
    visit box s inner (.node shape span parts) p = (.node shape span parts, q.stop f) := by
  simp [visit, hp, hi, hr, he]

variable (hr : s.requireSpecifier? (.node shape span parts) = none)

include hr

theorem visit_parts (hs : s.importSpecifier? (.node shape span parts) = none) :
    visit box s inner (.node shape span parts) p =
      (.node shape span (visitAll box s inner parts p).1, (visitAll box s inner parts p).2) := by
  simp [visit, hp, hi, hr, hs]

variable (hs : s.importSpecifier? (.node shape span parts) = some spec)

include hs

theorem visit_source {t : Ast} (he : expandSpecifier inner s spec p = (.ok e, q))
    (ht : replaceSource (.node shape span parts) e s.file (p.bench.place spec.span) = .ok t) :
    visit box s inner (.node shape span parts) p = (t, q) := by
  simp [visit, hp, hi, hr, hs, he, Except.bind, ht]

theorem visit_source_not_string (he : expandSpecifier inner s spec p = (.ok e, q))
    (ht : replaceSource (.node shape span parts) e s.file (p.bench.place spec.span) = .error f) :
    visit box s inner (.node shape span parts) p = (.node shape span parts, q.stop f) := by
  simp [visit, hp, hi, hr, hs, he, Except.bind, ht]

theorem visit_source_failed (he : expandSpecifier inner s spec p = (.error f, q)) :
    visit box s inner (.node shape span parts) p = (.node shape span parts, q.stop f) := by
  simp [visit, hp, hi, hr, hs, he, Except.bind]

end NoInvocation

end Node

/-! ## Lists of nodes and calls of `require` -/

@[simp] theorem visitAll_nil (p : Progress σ) : visitAll box s inner [] p = ([], p) := by
  simp [visitAll]

@[simp] theorem visitAll_cons (t : Ast) (ts : List Ast) (p : Progress σ) :
    visitAll box s inner (t :: ts) p =
      ((visit box s inner t p).1 :: (visitAll box s inner ts (visit box s inner t p).2).1,
        (visitAll box s inner ts (visit box s inner t p).2).2) := by
  simp [visitAll]

@[simp] theorem visitCall_apply (e callee : Ast) (shape : Shape) (span : Span) (first : Ast)
    (args rest : List Ast) (p : Progress σ) :
    visitCall box s inner e (callee :: .node shape span (first :: args) :: rest) p =
      ((visit box s inner callee p).1 ::
        .node shape span
          (e :: (visitAll box s inner args (visit box s inner callee p).2).1) :: rest,
        (visitAll box s inner args (visit box s inner callee p).2).2) := by
  simp [visitCall, visitArgs]

end Expansion

/-! ## Files -/

theorem Pass.source_of_dialect {pass : Pass} {box : Evaluator σ} {text file : String} {b : σ}
    {dialect : Dialect} (h : Dialect.ofFileName file = dialect) :
    pass.source box text file b =
      match ({} : Workbench).readProgram file text dialect with
      | (.error f, _) => (.error f, b)
      | (.ok t, bench) =>
          let (t, r) := pass.program box file t bench b
          match r.failure with
          | some f => (.error f, r.box)
          | none => (.ok (r.bench.print t).1, r.box) := by
  subst h
  rfl

end Inlay
