import Inlay.Proofs.Fragment.Insertion

/-! # Tags behind `new`

    A tagged script is printed without parentheses of its own, although a call now stands where a
    definition stood.  Behind `new` this shows: `new` takes the arguments of the tag for its own,
    and the arguments it had become those of a call of the new object.

    * `write_new_tagCall`: the two trees are written alike, whatever is tagged;
    * `code_of_tagged_new`: so the code of such a fragment is the code of another tree. -/

namespace Inlay

namespace Syntax

/-! ## Writing calls and constructors -/

namespace W

theorem leading_none : leading Span.none.lo = pure () := rfl

theorem trailing_none : trailing Span.none.hi = pure () := rfl

/-- What is written between two items depends on how they are written, not on what they are. -/
theorem joined_congr {again : Ast → W Unit} {sep : W Unit} {a b : Ast} (h : again a = again b)
    (xs ys : List Ast) : joined again sep (xs ++ a :: ys) = joined again sep (xs ++ b :: ys) := by
  induction xs with
  | nil =>
      cases ys with
      | nil => exact h
      | cons y ys => simp only [List.nil_append, joined, h]
  | cons x xs ih =>
      have hjoined : ∀ c : Ast, joined again sep (x :: (xs ++ c :: ys)) = (do
          again x
          sep
          joined again sep (xs ++ c :: ys)) := by
        intro c
        cases xs <;> rfl
      rw [List.cons_append, List.cons_append, hjoined, hjoined, ih]

end W

namespace Ast

theorem write_call (k : Nat) (span : Span) (callee args : Ast) :
    write (k + 1) (.node .call span [callee, args, .absent]) = (do
      W.leading span.lo
      write k callee
      W.arguments (write k) args
      W.trailing span.hi) := rfl

theorem write_new (k : Nat) (span : Span) (callee : Ast) {args : Ast} (h : args.isAbsent = false) :
    write (k + 1) (.node .new span [callee, args, .absent]) = (do
      W.leading span.lo
      W.put "new "
      write k callee
      W.arguments (write k) args
      W.trailing span.hi) := by
  have hargs : W.opt (W.arguments (write k)) args = W.arguments (write k) args := by
    rw [W.opt, h]
    rfl
  rw [← hargs]
  rfl

theorem heights_congr {a b : Ast} (h : a.height = b.height) (xs ys : List Ast) :
    heights (xs ++ a :: ys) = heights (xs ++ b :: ys) := by
  induction xs with
  | nil => simp only [List.nil_append, heights, h]
  | cons x xs ih => simp only [List.cons_append, heights, ih]

theorem height_le_heights {t : Ast} {ts : List Ast} (h : t ∈ ts) : t.height ≤ heights ts := by
  induction ts with
  | nil => cases h
  | cons u us ih =>
      rw [heights]
      rcases List.mem_cons.mp h with rfl | h
      · exact Nat.le_max_left ..
      · exact (ih h).trans (Nat.le_max_right ..)

mutual

/-- The tree without its spans and without parentheses. -/
def essence : Ast → Ast
  | .node .paren _ [t] => essence t
  | .node shape _ parts => .node shape .none (essences parts)

def essences : List Ast → List Ast
  | [] => []
  | t :: ts => essence t :: essences ts

end

theorem essences_eq_map (ts : List Ast) : essences ts = ts.map essence := by
  induction ts with
  | nil => rfl
  | cons t ts ih => rw [essences, ih, List.map_cons]

end Ast

end Syntax

namespace Fragment

open Syntax

variable {span : Span} {d args : Ast} {id : Nat}

/-! ## One text for two trees -/

/-- `new` with a tagged definition for its callee. -/
def newTagged (span : Span) (d : Ast) (id : Nat) (args : Ast) : Ast :=
  .node .new span [tagCall d id, args, .absent]

/-- A call of what `new` makes of the tagging function, the definition and its number. -/
def callConstructed (span : Span) (d : Ast) (id : Nat) (args : Ast) : Ast :=
  .node .call span
    [.node .new .none
      [Ast.name tagName, .group [d, .node (.num (toString id)) .none []], .absent], args, .absent]

/-- Both begin with the word `new`, and neither has parentheses around its callee. -/
theorem write_new_tagCall (h : args.isAbsent = false) (k : Nat) :
    (newTagged span d id args).write (k + 2) = (callConstructed span d id args).write (k + 2) := by
  rw [newTagged, callConstructed, Ast.write_new _ _ _ h, Ast.write_call, tagCall, Ast.write_call,
    Ast.write_new _ _ _ rfl, W.leading_none, W.trailing_none]
  simp only [bind_assoc, pure_bind]

theorem height_newTagged :
    (newTagged span d id args).height = (callConstructed span d id args).height := by
  simp only [newTagged, callConstructed, tagCall, Ast.name, Ast.group, Ast.absent, Ast.height,
    Ast.heights]

def assigning (span span' : Span) (op : AssignOp) (target value : Ast) : Ast :=
  .node .exprStmt span [.node (.assign op) span' [target, value]]

section

variable {stmt assign : Span} {op : AssignOp} {target : Ast}

theorem write_assigning {v v' : Ast} {k : Nat} (h : v.write k = v'.write k) :
    (assigning stmt assign op target v).write (k + 2)
      = (assigning stmt assign op target v').write (k + 2) := by
  have hwrite : ∀ v : Ast, (assigning stmt assign op target v).write (k + 2) = (do
      W.leading stmt.lo
      (do
        W.leading assign.lo
        target.write k
        W.put (" " ++ op.text ++ " ")
        v.write k
        W.trailing assign.hi)
      W.put ";") := fun _ => rfl
  rw [hwrite, hwrite, h]

end

/-- A script with a statement between others. -/
def scriptAround (shebang : Option String) (span : Span) (before after : List Ast)
    (s : Ast) : Ast :=
  .node (.scriptRoot shebang) span (before ++ s :: after)

theorem writer_scriptAround (shebang : Option String) (root : Span) (before after : List Ast)
    (s : Ast) : (scriptAround shebang root before after s).writer = (do
      W.leading root.lo
      W.interpreterLine (.node (.scriptRoot shebang) root [])
      W.each (W.item (Ast.write (Ast.heights (before ++ s :: after)))) (before ++ s :: after)
      W.trailing root.hi) := rfl

/-- Statements of one height that are written alike make scripts that are printed alike. -/
theorem print_scriptAround {s s' : Ast} (hheight : s.height = s'.height)
    (hitem : ∀ k, s.height ≤ k → W.item (Ast.write k) s = W.item (Ast.write k) s')
    (shebang : Option String) (root : Span) (before after : List Ast) (comments : List Attached) :
    (scriptAround shebang root before after s).print comments =
      (scriptAround shebang root before after s').print comments := by
  have hle : s.height ≤ Ast.heights (before ++ s :: after) :=
    Ast.height_le_heights (List.mem_append_right before List.mem_cons_self)
  unfold Ast.print
  rw [writer_scriptAround, writer_scriptAround, ← Ast.heights_congr hheight, W.each, W.each,
    W.joined_congr (hitem _ hle)]

theorem item_newTagged {stmt assign : Span} {op : AssignOp} {target : Ast}
    (h : args.isAbsent = false) {k : Nat}
    (hk : (assigning stmt assign op target (newTagged span d id args)).height ≤ k) :
    W.item (Ast.write k) (assigning stmt assign op target (newTagged span d id args)) =
      W.item (Ast.write k) (assigning stmt assign op target (callConstructed span d id args)) := by
  -- the statement is at least four nodes deep, so the fuel reaches the word `new` of both
  obtain ⟨k, rfl⟩ : ∃ j, k = j + 4 := by
    refine ⟨k - 4, (Nat.sub_add_cancel (le_trans ?_ hk)).symm⟩
    simp only [assigning, newTagged, tagCall, Ast.height, Ast.heights]
    omega
  unfold W.item
  rw [write_assigning (write_new_tagCall h k)]
  rfl

/-- Two scripts that differ in one assigned value: where the first has a `new` with a tagged callee,
    the second has the call that is written like it. -/
inductive Misread : Ast → Ast → Prop where
  | intro {shebang : Option String} {root stmt assign span : Span} {before after : List Ast}
      {op : AssignOp} {target d args : Ast} {id : Nat} (h : args.isAbsent = false) :
      Misread
        (scriptAround shebang root before after
          (assigning stmt assign op target (newTagged span d id args)))
        (scriptAround shebang root before after
          (assigning stmt assign op target (callConstructed span d id args)))

theorem Misread.print_eq {t t' : Ast} (h : Misread t t') (comments : List Attached) :
    t.print comments = t'.print comments := by
  obtain ⟨hargs⟩ := h
  refine print_scriptAround ?_ (fun k => item_newTagged hargs) _ _ _ _ comments
  simp only [assigning, Ast.height, Ast.heights, height_newTagged]

theorem Misread.essence_ne {t t' : Ast} (h : Misread t t') : t.essence ≠ t'.essence := by
  obtain ⟨-⟩ := h
  simp [scriptAround, assigning, newTagged, callConstructed, Ast.essence, Ast.essences_eq_map]

/-! ## The code of a fragment -/

theorem mem_tagAll {ts : List Ast} {t : Ast} (h : t ∈ ts) (id : Nat) :
    ∃ k, (tag t k).1 ∈ (tagAll ts id).1 := by
  induction ts generalizing id with
  | nil => cases h
  | cons u us ih =>
      rw [tagAll_cons]
      rcases List.mem_cons.mp h with rfl | h
      · exact ⟨id, List.mem_cons_self⟩
      · obtain ⟨k, hk⟩ := ih h (tag u id).2
        exact ⟨k, List.mem_cons_of_mem _ hk⟩

theorem tag_script (shebang : Option String) {stmts : List Ast} {s : Ast} (h : s ∈ stmts)
    (root : Span) (id : Nat) : ∃ before after k,
    (tag (.node (.scriptRoot shebang) root stmts) id).1
      = scriptAround shebang root before after (tag s k).1 := by
  rw [tag_statements rfl]
  obtain ⟨k, hk⟩ := mem_tagAll h (id + (stmts.filter isDeclaration).length)
  obtain ⟨before, after, hlist⟩ := List.append_of_mem
    ((tagList_perm (tagAll stmts _).1 id).mem_iff.mpr (List.mem_append_left _ hk))
  exact ⟨before, after, k, by rw [hlist, scriptAround]⟩

theorem tag_assigning (stmt assign : Span) (op : AssignOp) (target value : Ast) (id : Nat) :
    (tag (assigning stmt assign op target value) id).1 =
      assigning stmt assign op (tag target id).1 (tag value (tag target id).2).1 := by
  have hdef : ¬ isDefinition (.assign op) = true := Bool.false_ne_true
  have hlist : ¬ holdsStatements (.assign op) = true := Bool.false_ne_true
  rw [assigning, tag_exprStmt, tag_other hdef hlist, tagAll_cons, tagAll_cons, tagAll, assigning]

theorem tag_new (hd : isDefinition d.shape = true) (span : Span) (args : Ast) (id : Nat) :
    ∃ d', (tag (.node .new span [d, args, .absent]) id).1
      = newTagged span d' id (tag args (tag d id).2).1 := by
  obtain ⟨shape, sp, parts⟩ := d
  have htag : (tag (.node shape sp parts) id).1 =
      tagCall (.node shape sp (tagAll parts (id + 1)).1) id := tag_definition hd id
  refine ⟨.node shape sp (tagAll parts (id + 1)).1, ?_⟩
  rw [tag_other (by decide) (by decide), tagAll_cons, tagAll_cons, tagAll_cons, tagAll, htag,
    newTagged]
  rfl

/-- A missing part stays missing, and no other becomes so. -/
theorem isAbsent_tag {t : Ast} (h : t.isAbsent = false) (id : Nat) :
    (tag t id).1.isAbsent = false := by
  have hshape : ∀ t : Ast, t.isAbsent = (Ast.node t.shape .none []).isAbsent := by
    rintro ⟨shape, sp, parts⟩
    cases shape <;> rfl
  rw [hshape] at h ⊢
  rw [← h]
  refine shape_test_tag (fun s => (Ast.node s .none []).isAbsent) rfl (fun s hs => ?_) t id
  rcases isDefinition_cases hs with rfl | ⟨_, _, rfl⟩ | rfl <;> rfl

/-- The code of a fragment that assigns what `new` makes of a function or class expression is the
    code of another tree.  In that tree `new` is applied to the tagging function, with the
    definition and its number for arguments, and what it makes is called.  The two trees differ in
    more than spans and parentheses, so whoever reads the one back from the code does not read the
    other. -/
theorem code_of_tagged_new {source file : String} {shebang : Option String} {w : Workbench}
    {root stmt assign span : Span} {op : AssignOp} {stmts : List Ast} {target d args : Ast}
    (hscript : script source file = (.ok (.node (.scriptRoot shebang) root stmts), w))
    (hmem : assigning stmt assign op target (.node .new span [d, args, .absent]) ∈ stmts)
    (hd : isDefinition d.shape = true) (hargs : args.isAbsent = false) :
    let tagged := (tag (.node (.scriptRoot shebang) root stmts) 0).1
    ∃ (unit : ScriptUnit) (w' : Workbench) (other : Ast), compile source file = .ok unit ∧
      unit.code = (w'.print tagged).1 ∧ unit.code = (w'.print other).1 ∧
      Misread tagged other ∧ tagged.essence ≠ other.essence := by
  intro tagged
  obtain ⟨other, hmisread⟩ :
      ∃ other, Misread (tag (.node (.scriptRoot shebang) root stmts) 0).1 other := by
    obtain ⟨before, after, k, htagged⟩ := tag_script shebang hmem root 0
    obtain ⟨d', hnew⟩ := tag_new hd span args (tag target k).2
    rw [tag_assigning, hnew] at htagged
    rw [htagged]
    exact ⟨_, .intro (isAbsent_tag hargs _)⟩
  obtain ⟨sources, w', hsources⟩ : ∃ sources w',
      printAll (definitions (.node (.scriptRoot shebang) root stmts)) w = (sources, w') :=
    ⟨_, _, rfl⟩
  refine ⟨⟨file, (w'.print tagged).1, sources⟩, w', other, ?_, rfl, ?_, hmisread,
    hmisread.essence_ne⟩
  · unfold compile
    rw [hscript]
    simp only [hsources]
    rfl
  · have hprint : w'.print tagged = w'.print other := by
      unfold Workbench.print
      rw [← hmisread.print_eq]
    exact congrArg Prod.fst hprint

/-- Whether a script assigns what `new` makes of a definition and arguments. -/
def assignsNew : Except Failure Ast × Workbench → Bool
  | (.ok (.node (.scriptRoot _) _ [.node .exprStmt _ [.node (.assign _) _
      [_, .node .new _ [d, args, .node .absent ⟨0, 0⟩ []]]]]), _) =>
        isDefinition d.shape && !args.isAbsent
  | _ => false

/-- A class without a name. -/
theorem code_of_tagged_new_class :
    ∃ (t : Ast) (unit : ScriptUnit) (w' : Workbench) (other : Ast),
      (script "module.exports = new class \x7b\x7d()" "a.js").1.toOption = some t ∧
      compile "module.exports = new class \x7b\x7d()" "a.js" = .ok unit ∧
      unit.code = (w'.print (tag t 0).1).1 ∧ unit.code = (w'.print other).1 ∧
      Misread (tag t 0).1 other ∧ (tag t 0).1.essence ≠ other.essence := by
  have hread : assignsNew (script "module.exports = new class \x7b\x7d()" "a.js") = true := by
    decide +kernel
  unfold assignsNew at hread
  split at hread
  · rename_i hscript
    obtain ⟨hd, hargs⟩ := Bool.and_eq_true_iff.mp hread
    obtain ⟨unit, w', other, h⟩ := code_of_tagged_new hscript List.mem_cons_self hd
      (Bool.not_eq_eq_eq_not.mp hargs)
    exact ⟨_, unit, w', other, by rw [hscript]; rfl, h⟩
  · cases hread

def firstAssigned (t : Ast) : Ast := ((t.part 0).part 0).part 1

def isCall (t : Ast) : Bool :=
  match t.shape with
  | .call => true
  | _ => false

/-- What is read from the code of that class is a call, which the tagged script does not assign. -/
theorem new_class_read_as_call :
    (compile "module.exports = new class \x7b\x7d()" "a.js").toOption.map ScriptUnit.code =
        some "module.exports = new __precall_source(class \x7b\n\x7d, 0)();\n" ∧
      (script "module.exports = new __precall_source(class \x7b\n\x7d, 0)();\n"
          "a.js").1.toOption.map (fun t => isCall (firstAssigned t)) = some true ∧
      (script "module.exports = new class \x7b\x7d()" "a.js").1.toOption.map
          (fun t => isCall (firstAssigned (tag t 0).1)) = some false := by
  refine ⟨?_, ?_, ?_⟩
  all_goals decide +kernel

end Fragment

end Inlay
