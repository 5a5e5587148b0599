import Inlay.Proofs.Expansion.Sites
import Inlay.Proofs.Fragment.Lowering
import Inlay.Syntax.Scope

/-! # Names of a module in its script

    A default export becomes an assignment, so a function or class that is exported with a name is
    an expression in the script, and its name is known inside it only.  Apart from that, lowering
    keeps scopes: an identifier is free in the script exactly if it was put in by the lowering, was
    free in the module, or was bound by the name of a default export and by nothing else
    (`lower_isFree`).

    * `Scope.declares t i`: the names that the scope opened by a node declares for its part `i`;
    * `Ast.isFree name t a`: the identifier at the address is free, since no node on the way to it
      declares its name;
    * `origin items a`: where a node of the script stands in the module. -/

namespace Inlay

namespace Syntax

/-! ## Free identifiers -/

/-- The names that the scope opened by a node declares for its part with number `i`.  Functions in
    blocks belong to their block. -/
def Scope.declares (t : Ast) (i : Nat) : List String :=
  match t.shape, t.parts with
  | .scriptRoot _, stmts | .moduleRoot _, stmts | .block, stmts | .moduleBlock, stmts =>
      hoistedAll { strict := true } stmts
  | .function .., params :: _ | .arrow .., params :: _ => patternNames false params
  | .fnExpr, name :: _ | .classExpr, name :: _ | .classDecl _, name :: _
  | .catchClause, name :: _ => patternNames false name
  | .setter, _ :: params :: _ | .ctor _, _ :: params :: _ =>
      if i = 0 then [] else patternNames false params
  | .switchStmt, _ :: cases :: _ => if i = 0 then [] else hoisted { strict := true } cases
  | .forStmt, head :: _ | .forInStmt, head :: _ | .forOfStmt _, head :: _ =>
      hoisted { strict := true } head
  | _, _ => []

/-- Whether an identifier of this name stands at the address and no scope around it declares the
    name. -/
def Ast.isFree (name : String) (t : Ast) : Address → Bool
  | [] => t.isNamed name
  | i :: a =>
      !(Scope.declares t i).contains name && (t.parts[i]?.any fun part => part.isFree name a)

theorem Ast.isFree_cons {name : String} {t part : Ast} {i : Nat} (hpart : t.parts[i]? = some part)
    (a : Address) :
    t.isFree name (i :: a) = true ↔
      name ∉ Scope.declares t i ∧ part.isFree name a = true := by
  rw [Ast.isFree, hpart, Option.any_some, Bool.and_eq_true, Bool.not_eq_true',
    ← Bool.not_eq_true, List.contains_iff_mem]

theorem Ast.isFree_of_no_part {name : String} {t : Ast} {i : Nat} (hpart : t.parts[i]? = none)
    (a : Address) : t.isFree name (i :: a) = false := by
  rw [Ast.isFree, hpart, Option.any_none, Bool.and_false]

theorem Ast.isFree_step {name : String} {t part : Ast} {i : Nat} (hpart : t.parts[i]? = some part)
    (hscope : Scope.declares t i = []) (a : Address) :
    t.isFree name (i :: a) = part.isFree name a := by
  rw [Ast.isFree, hscope, hpart]
  rfl

end Syntax

namespace Fragment

open Syntax

/-! ## Names of default exports -/

def exportedName : Ast → List String
  | .node .exportDefaultDecl _ [.node _ _ (name :: _)] => Scope.freshName name
  | _ => []

theorem exportedName_of_statement {item : Ast} (h : P.isModuleItem item = false) :
    exportedName item = [] := by
  unfold exportedName
  split
  · cases h
  · rfl

/-- A name that an item declares is declared by its statement, or is the name of the export. -/
theorem hoisted_of_lowers {item stmt : Ast} (h : Lowers item stmt) (r : Scope.Reach) :
    Scope.hoisted r item = Scope.hoisted r stmt ++ exportedName item := by
  cases h with
  | statement h => rw [exportedName_of_statement h, List.append_nil]
  | expr span e => rfl
  | function span span' name body => rfl
  | «class» span span' name body => rfl

theorem mem_hoistedAll_of_lowers {items stmts : List Ast} (h : List.Forall₂ Lowers items stmts)
    (r : Scope.Reach) (name : String) :
    name ∈ Scope.hoistedAll r items ↔
      name ∈ Scope.hoistedAll r stmts ∨ name ∈ items.flatMap exportedName := by
  induction h with
  | nil => simp [Scope.hoistedAll]
  | cons hitem _ ih =>
      rw [Scope.hoistedAll, Scope.hoistedAll, List.flatMap_cons, hoisted_of_lowers hitem]
      simp only [List.mem_append, ih]
      tauto

/-! ## Where nodes come from -/

/-- The address in a default export of a node of its assignment; only the value was there. -/
def originInExport : Address → Option Address
  | 0 :: 1 :: b => some (0 :: b)
  | _ => none

def originIn (item : Ast) (a : Address) : Option Address :=
  if item.shape.isDefaultExport then originInExport a else some a

/-- The address in the module of a node of the script. -/
def origin (items : List Ast) : Address → Option Address
  | [] => some []
  | i :: a => items[i]?.bind fun item => (originIn item a).map (i :: ·)

/-- The identifiers of an assignment to `module.exports`: the one put in, and those of the value. -/
theorem isFree_assignExports (span : Span) (value : Ast) (name : String) (a : Address) :
    (assignExports span value).isFree name a = true ↔
      (name = "module" ∧ a = [0, 0, 0]) ∨ ∃ b, a = 0 :: 1 :: b ∧ value.isFree name b = true := by
  match a with
  | 0 :: 1 :: b =>
      have hvalue : (assignExports span value).isFree name (0 :: 1 :: b) = value.isFree name b := by
        rw [assignExports, Ast.isFree_step rfl rfl, Ast.isFree_step rfl rfl]
      simp [hvalue]
  | [0, 0, 0] =>
      have hmodule : (assignExports span value).isFree name [0, 0, 0]
          = (Ast.name "module" span).isNamed name := by
        rw [assignExports, Ast.isFree_step rfl rfl, Ast.isFree_step rfl rfl,
          Ast.isFree_step rfl rfl, Ast.isFree]
      rw [hmodule]
      constructor
      · exact fun h => .inl ⟨(beq_iff_eq.mp h).symm, rfl⟩
      · rintro (⟨rfl, -⟩ | ⟨b, hb, -⟩)
        · rfl
        · cases hb
  | [] | [0] | [0, 0] | [0, 0, 1] =>
      refine iff_of_false Bool.false_ne_true ?_
      simp
  | (_ + 1) :: _ | 0 :: (_ + 2) :: _ | 0 :: 0 :: (_ + 2) :: _ | 0 :: 0 :: 0 :: _ :: _
  | 0 :: 0 :: 1 :: _ :: _ =>
      refine iff_of_false Bool.false_ne_true ?_
      simp

/-- An identifier of a statement was put in by the lowering, or is one of the item's. -/
theorem isFree_of_lowers {item stmt : Ast} (h : Lowers item stmt) (name : String) (a : Address) :
    stmt.isFree name a = true ↔
      (item.shape.isDefaultExport = true ∧ name = "module" ∧ a = [0, 0, 0]) ∨
      ∃ b, originIn item a = some b ∧ item.isFree name b = true := by
  have hexport (shape : Shape) (span : Span) (value : Ast) (hshape : shape.isDefaultExport = true)
      (hscope : Scope.declares (.node shape span [value]) 0 = []) :
      (assignExports span value).isFree name a = true ↔
        (shape.isDefaultExport = true ∧ name = "module" ∧ a = [0, 0, 0]) ∨
        ∃ b, originIn (.node shape span [value]) a = some b ∧
          (Ast.node shape span [value]).isFree name b = true := by
    rw [isFree_assignExports, and_iff_right hshape, originIn, Ast.shape, if_pos hshape]
    refine or_congr_right ?_
    constructor
    · rintro ⟨b, rfl, hb⟩
      exact ⟨0 :: b, rfl, by rwa [Ast.isFree_step rfl hscope]⟩
    · rintro ⟨b, hb, hfree⟩
      unfold originInExport at hb
      split at hb
      · obtain rfl := Option.some.inj hb
        exact ⟨_, rfl, by rwa [Ast.isFree_step rfl hscope] at hfree⟩
      · cases hb
  cases h with
  | statement h =>
      have hdefault := P.IsStatement.not_default h
      rw [originIn, hdefault, if_neg Bool.false_ne_true]
      simp
  | expr span e => exact hexport _ span e rfl rfl
  | function span span' name body => exact hexport _ span _ rfl rfl
  | «class» span span' name body => exact hexport _ span _ rfl rfl

/-! ## Scripts -/

/-- The name at an address of the module is bound by the name of a default export and by nothing
    else. -/
def BoundByExport (items stmts : List Ast) (name : String) (a : Address) : Prop :=
  name ∈ items.flatMap exportedName ∧ name ∉ Scope.hoistedAll { strict := true } stmts ∧
    ∃ i b item, a = i :: b ∧ items[i]? = some item ∧ item.isFree name b = true

/-- The two ways in which an identifier of the module is not bound by what the script keeps. -/
theorem isFree_or_boundByExport {items stmts : List Ast} (h : List.Forall₂ Lowers items stmts)
    (shebang : Option String) (span : Span) (name : String) {i : Nat} {item : Ast}
    (hitem : items[i]? = some item) (a : Address) :
    ((Ast.node (.moduleRoot shebang) span items).isFree name (i :: a) = true ∨
        BoundByExport items stmts name (i :: a)) ↔
      name ∉ Scope.hoistedAll { strict := true } stmts ∧ item.isFree name a = true := by
  have hmodule : (Ast.node (.moduleRoot shebang) span items).isFree name (i :: a) = true ↔
      name ∉ Scope.hoistedAll { strict := true } items ∧ item.isFree name a = true :=
    Ast.isFree_cons hitem a
  have hexport : BoundByExport items stmts name (i :: a) ↔
      name ∈ items.flatMap exportedName ∧ name ∉ Scope.hoistedAll { strict := true } stmts ∧
        item.isFree name a = true := by
    refine and_congr_right fun _ => and_congr_right fun _ => ?_
    constructor
    · rintro ⟨j, b, item', heq, hitem', hfree⟩
      obtain ⟨rfl, rfl⟩ := List.cons.inj heq
      obtain rfl := Option.some.inj (hitem.symm.trans hitem')
      exact hfree
    · exact fun hfree => ⟨i, a, item, rfl, hitem, hfree⟩
  rw [hmodule, hexport, mem_hoistedAll_of_lowers h]
  tauto

theorem getElem?_of_lowers {items stmts : List Ast}
    (h : List.Forall₂ Lowers items stmts) (i : Nat) :
    (items[i]? = none ∧ stmts[i]? = none) ∨
      ∃ item stmt, items[i]? = some item ∧ stmts[i]? = some stmt ∧ Lowers item stmt := by
  induction h generalizing i with
  | nil => exact .inl ⟨rfl, rfl⟩
  | cons hitem _ ih =>
      cases i with
      | zero => exact .inr ⟨_, _, rfl, rfl, hitem⟩
      | succ i => exact ih i

/-- An identifier is free in the script of a module exactly if it is the name `module` of an
    assignment and no statement declares that, or if it was free in the module, or if only the name
    of a default export bound it there. -/
theorem isFree_script {items stmts : List Ast} (h : List.Forall₂ Lowers items stmts)
    (shebang : Option String) (span : Span) (name : String) (a : Address) :
    (Ast.node (.scriptRoot shebang) span stmts).isFree name a = true ↔
      (name = "module" ∧ "module" ∉ Scope.hoistedAll { strict := true } stmts ∧
        ∃ i item, items[i]? = some item ∧ item.shape.isDefaultExport = true ∧ a = [i, 0, 0, 0]) ∨
      ∃ b, origin items a = some b ∧
        ((Ast.node (.moduleRoot shebang) span items).isFree name b = true ∨
          BoundByExport items stmts name b) := by
  cases a with
  | nil =>
      refine iff_of_false Bool.false_ne_true ?_
      rintro (⟨-, -, i, item, -, -, ha⟩ | ⟨b, hb, hfree | ⟨-, -, i, c, item, hc, -⟩⟩)
      · cases ha
      · obtain rfl := Option.some.inj hb
        cases hfree
      · obtain rfl := Option.some.inj hb
        cases hc
  | cons i a =>
      obtain ⟨hnone, hstmt⟩ | ⟨item, stmt, hitem, hstmt, hlowers⟩ := getElem?_of_lowers h i
      · rw [Ast.isFree_of_no_part hstmt]
        refine iff_of_false Bool.false_ne_true ?_
        rintro (⟨-, -, j, item, hitem, -, heq⟩ | ⟨b, hb, -⟩)
        · rw [List.cons.inj heq |>.1, hitem] at hnone
          cases hnone
        · rw [origin, hnone] at hb
          cases hb
      · have hscript : (Ast.node (.scriptRoot shebang) span stmts).isFree name (i :: a) = true ↔
            name ∉ Scope.hoistedAll { strict := true } stmts ∧ stmt.isFree name a = true :=
          Ast.isFree_cons hstmt a
        -- either the name that an export writes or one that comes from the item
        rw [hscript, isFree_of_lowers hlowers, and_or_left]
        refine or_congr ?_ ?_
        · constructor
          · rintro ⟨hname, hdefault, rfl, rfl⟩
            exact ⟨rfl, hname, i, item, hitem, hdefault, rfl⟩
          · rintro ⟨rfl, hname, j, item', hitem', hdefault, heq⟩
            obtain ⟨rfl, rfl⟩ := List.cons.inj heq
            obtain rfl := Option.some.inj (hitem.symm.trans hitem')
            exact ⟨hname, hdefault, rfl, rfl⟩
        · rw [origin, hitem, Option.bind_some]
          simp only [Option.map_eq_some_iff]
          constructor
          · rintro ⟨hname, b, hb, hfree⟩
            exact ⟨i :: b, ⟨b, hb, rfl⟩,
              (isFree_or_boundByExport h shebang span name hitem b).mpr ⟨hname, hfree⟩⟩
          · rintro ⟨_, ⟨b, hb, rfl⟩, hfree⟩
            obtain ⟨hname, hfree⟩ := (isFree_or_boundByExport h shebang span name hitem b).mp hfree
            exact ⟨hname, b, hb, hfree⟩

/-- The free identifiers in the script of a module.  Of those that the module has, the script frees
    exactly those that only the name of an exported function or class binds. -/
theorem lower_isFree {source file : String} {shebang : Option String} {span : Span}
    {items : List Ast} {script : Ast}
    (hparses : Parses source (.node (.moduleRoot shebang) span items))
    (hlower : lower file (.node (.moduleRoot shebang) span items) = .ok script) :
    ∃ stmts, script = .node (.scriptRoot shebang) span stmts ∧ stmts.length = items.length ∧
      ∀ name a, script.isFree name a = true ↔
        (name = "module" ∧ "module" ∉ Scope.hoistedAll { strict := true } stmts ∧
          ∃ i item, items[i]? = some item ∧ item.shape.isDefaultExport = true ∧
            a = [i, 0, 0, 0]) ∨
        ∃ b, origin items a = some b ∧
          ((Ast.node (.moduleRoot shebang) span items).isFree name b = true ∨
            BoundByExport items stmts name b) := by
  rw [lower] at hlower
  obtain ⟨-, stmts, hstmts, hlist⟩ | ⟨_, _, _, _, _, _, herror⟩ :=
    lowerItems_cases file hparses.items
  · rw [Ast.parts] at hstmts
    rw [hstmts] at hlower
    obtain rfl := Except.ok.inj hlower
    exact ⟨stmts, rfl, hlist.length_eq.symm, isFree_script hlist shebang span⟩
  · rw [Ast.parts] at herror
    rw [herror] at hlower
    cases hlower

/-- A function that is exported with its name and called by the next item. -/
def exportedAndCalled : String := "export default function f() { return 1 }\nmodule.exports = f()"

/-- Whether a program is a module whose second item refers to `f` for the value it assigns, where
    `f` is bound, while it is free there in the script. -/
def freesCall (program : Ast) : Bool :=
  match program, lower "a.js" program with
  | .node (.moduleRoot _) _ items, .ok script =>
      origin items [1, 0, 1, 0] == some [1, 0, 1, 0] && !program.isFree "f" [1, 0, 1, 0]
        && script.isFree "f" [1, 0, 1, 0]
  | _, _ => false

theorem exportedAndCalled_frees :
    ∃ shebang span items script, Parses exportedAndCalled (.node (.moduleRoot shebang) span items) ∧
      lower "a.js" (.node (.moduleRoot shebang) span items) = .ok script ∧
      origin items [1, 0, 1, 0] = some [1, 0, 1, 0] ∧
      (Ast.node (.moduleRoot shebang) span items).isFree "f" [1, 0, 1, 0] = false ∧
      script.isFree "f" [1, 0, 1, 0] = true := by
  have hfaults :
      (parse .plain (Workbench.withoutMark exportedAndCalled) 1).faults.isEmpty = true := by
    decide +kernel
  have hfrees :
      (parse .plain (Workbench.withoutMark exportedAndCalled) 1).tree.any freesCall = true := by
    decide +kernel
  obtain ⟨program, htree, hfrees⟩ := Option.any_eq_true _ _ |>.mp hfrees
  unfold freesCall at hfrees
  split at hfrees
  · rename_i shebang span items script hlower
    rw [Bool.and_eq_true, Bool.and_eq_true, beq_iff_eq, Bool.not_eq_true'] at hfrees
    exact ⟨shebang, span, items, script, ⟨List.isEmpty_iff.mp hfaults, htree⟩, hlower,
      hfrees.1.1, hfrees.1.2, hfrees.2⟩
  · cases hfrees

/-- The call behind the export of `f` refers to nothing in the script, since nothing but the export
    binds the name. -/
theorem lower_isFree_call :
    ∃ shebang span items stmts,
      Parses exportedAndCalled (.node (.moduleRoot shebang) span items) ∧
      lower "a.js" (.node (.moduleRoot shebang) span items)
        = .ok (.node (.scriptRoot shebang) span stmts) ∧
      BoundByExport items stmts "f" [1, 0, 1, 0] := by
  obtain ⟨shebang, span, items, script, hparses, hlower, horigin, hbound, hfree⟩ :=
    exportedAndCalled_frees
  obtain ⟨stmts, rfl, -, hiff⟩ := lower_isFree hparses hlower
  obtain ⟨hname, -⟩ | ⟨b, hb, h⟩ := (hiff "f" [1, 0, 1, 0]).mp hfree
  · exact absurd hname (by decide)
  · obtain rfl := Option.some.inj (horigin.symm.trans hb)
    rw [hbound] at h
    exact ⟨shebang, span, items, stmts, hparses, hlower, h.resolve_left Bool.false_ne_true⟩

/-- In the module the call refers to the exported function; in the script its name is free, though
    it is not one that the lowering put in. -/
theorem exported_name_freed :
    ∃ program script, Parses exportedAndCalled program ∧ lower "a.js" program = .ok script ∧
      origin program.parts [1, 0, 1, 0] = some [1, 0, 1, 0] ∧
      program.isFree "f" [1, 0, 1, 0] = false ∧ script.isFree "f" [1, 0, 1, 0] = true := by
  obtain ⟨shebang, span, items, script, h⟩ := exportedAndCalled_frees
  exact ⟨_, script, h⟩

end Fragment

end Inlay
