import Inlay.Proofs.Reading.Stmt
import Inlay.Workbench

/-! # Files keep to the text

    Markup, imports, exports and the items of a file; then the grammar as a whole.  Every string in
    a tree that was read is spelled in the text it was read from (`parse_spelled`).  An expression
    is read between parentheses on lines of their own, and neither of the two can delimit a string,
    so each string in it is shorter than its text (`Quoted.length_lt`). -/

namespace Inlay.Syntax

namespace P

/-- An opening tag holds the strings of its trees. -/
instance : Spells Opening := ⟨fun src o => Spelled src o.tree ∧ Spelled src o.name⟩
instance : Faithful Opening.mk := ⟨fun _ _ ht _ hn _ _ => ⟨ht, hn⟩⟩
instance : Faithful Opening.tree := ⟨fun _ _ h => h.1⟩

/-! ## Markup -/

instance : Faithful tagBump := by
  unfold tagBump
  exact .of_steps

instance : Faithful contentBump := by
  unfold contentBump
  exact .of_steps

instance : Faithful jsxIdent := by
  unfold jsxIdent
  exact .of_steps

instance : Faithful jsxNamespacedName := by
  unfold jsxNamespacedName
  exact .of_steps

instance : Faithful jsxElementName := by
  unfold jsxElementName
  exact .of_steps

instance : Faithful jsxBraced := by
  unfold jsxBraced
  exact .of_steps

instance : Faithful jsxAttrValue := by
  unfold jsxAttrValue
  exact .of_steps

instance : Faithful jsxAttr := by
  unfold jsxAttr
  exact .of_steps

instance : Faithful jsxOpening := by
  unfold jsxOpening
  exact .of_steps

instance : Faithful jsxClosing := by
  unfold jsxClosing
  exact .of_steps

instance : Faithful jsxElement where
  spelled src fuel _ := by
    induction fuel with
    | zero =>
        unfold jsxElement
        exact .of_steps
    | succ fuel ih =>
        have := ih (spelled_of_plain fuel)
        unfold jsxElement
        exact .of_steps

instance : Faithful markup := by
  unfold markup
  exact .of_steps

/-! ## Imports -/

instance : Faithful flushModuleFaults := by
  unfold flushModuleFaults
  exact .of_steps

instance : Faithful sourceString := by
  unfold sourceString
  exact .of_steps

instance : Faithful importAttributes := by
  unfold importAttributes
  exact .of_steps

instance : Faithful fromClause := by
  unfold fromClause
  exact .of_steps

instance : Faithful exportName := by
  unfold exportName
  exact .of_steps

instance : Faithful importSpecifier.checkType := by
  unfold importSpecifier.checkType
  exact .of_steps

instance : Faithful importSpecifier.finish := by
  unfold importSpecifier.finish
  exact .of_steps

instance : Faithful importSpecifier := by
  unfold importSpecifier
  exact .of_steps

instance : Faithful importEquals := by
  unfold importEquals
  exact .of_steps

instance : Faithful importDecl := by
  unfold importDecl
  exact .of_steps

/-! ## Exports -/

instance : Faithful exportSpecifier := by
  unfold exportSpecifier
  exact .of_steps

instance : Faithful laterDecorators := by
  unfold laterDecorators
  exact .of_steps

instance : Faithful exportDefault := by
  unfold exportDefault
  exact .of_steps

instance : Faithful checkExported := by
  unfold checkExported
  exact .of_steps

instance : Faithful exportList := by
  unfold exportList
  exact .of_steps

instance : Faithful exportDecl := by
  unfold exportDecl
  exact .of_steps

/-! ## Items -/

instance : Faithful importExprStmt := by
  unfold importExprStmt
  exact .of_steps

instance : Faithful importIsExpr := by
  unfold importIsExpr
  exact .of_steps

instance : Faithful moduleItem where
  spelled src topLevel _ fuel _ := by
    induction fuel generalizing topLevel with
    | zero =>
        unfold moduleItem
        exact .of_steps
    | succ fuel ih =>
        have := ih false (spelled_of_plain false) (spelled_of_plain fuel)
        unfold moduleItem
        exact .of_steps

instance : Faithful innerItem where
  spelled src includeDecl _ fuel _ := by
    cases fuel with
    | zero =>
        unfold innerItem
        exact .of_steps
    | succ fuel =>
        unfold innerItem
        exact .of_steps

instance : Faithful fileItems := by
  unfold fileItems
  exact .of_steps

end P

/-! ## The grammar as a whole -/

instance : Faithful P.ofGoal where
  spelled src g h := by
    cases g with
    | functionRest start isAsync isGenerator ds =>
        have hds : Spelled src ds := h
        exact .app₄ (f := P.functionRest) trivial trivial trivial hds
    | classRest start nameRequired ds =>
        have hds : Spelled src ds := h
        exact .app₃ (f := P.classRest) trivial trivial hds
    | subscripts base noCall noComputed =>
        have hbase : Spelled src base := h
        exact .app₃ (f := P.subscripts) hbase trivial trivial
    | _ =>
        unfold P.ofGoal
        exact .of_steps

/-- However deep nonterminals may nest, the grammar keeps to the text. -/
instance (size : Nat) : Faithful (tie size) where
  spelled src fuel _ := by
    induction fuel with
    | zero => exact fun _ _ _ _ _ hs => hs
    | succ fuel ih =>
        intro g hg ctx _ s hs
        have hgoal : Spelled src (P.ofGoal g) := .app₁ hg
        exact hgoal { ctx, size, again := tie size fuel } (ih trivial) s hs

theorem parse_spelled {dialect : Dialect} {source : String} {base : Nat} {t : Ast}
    (h : (parse dialect source base).tree = some t) : Spelled source.toList t := by
  unfold parse at h
  extract_lets chars size whole ctx fuel at h
  split at h
  rename_i shebang start hstart
  have hstart : Spelled chars start := by
    split at hstart
    · rename_i hs
      obtain ⟨-, rfl⟩ := Prod.mk.inj hstart
      exact Cursor.shebang_within (c := whole) (List.suffix_refl chars) hs
    · obtain ⟨-, rfl⟩ := Prod.mk.inj hstart
      exact List.suffix_refl chars
  extract_lets first state at h
  have hfirst : Spelled chars first :=
    .app₂ (f := P.checkEscape) trivial (.app₂ (spelled_of_plain _) hstart)
  have hstate : Spelled chars state := ⟨hfirst.token, hstart, hfirst.after⟩
  have hitems := Faithful.spelled (a := P.fileItems) chars { ctx, size, again := tie size fuel }
    (Spelled.app₁ (f := tie size) trivial) state hstate
  split at h
  · rename_i items s heq
    rw [heq] at hitems
    obtain rfl := Option.some.inj h
    refine spelled_node.mpr ⟨?_, hitems.1⟩
    split
    · trivial
    · trivial
  · cases h

end Inlay.Syntax

/-! ## Single expressions -/

namespace Inlay.Workbench

open Syntax

/-- The text as it is read: between parentheses, each on a line of its own. -/
theorem toList_parenthesised (text : String) :
    ("(\n" ++ text ++ "\n)").toList = '(' :: '\n' :: text.toList ++ ['\n', ')'] := by
  rw [String.toList_append, String.toList_append]
  rfl

theorem withoutMark_parenthesised (text : String) :
    withoutMark ("(\n" ++ text ++ "\n)") = "(\n" ++ text ++ "\n)" := by
  unfold withoutMark
  rw [toList_parenthesised]
  rfl

/-- Every string in an expression is spelled in its text, parentheses included. -/
theorem readExpr_spelled {w w' : Workbench} {file text : String} {e : Ast}
    (h : w.readExpr file text = (.ok e, w')) :
    Spelled ('(' :: '\n' :: text.toList ++ ['\n', ')']) e := by
  unfold readExpr at h
  dsimp only at h
  split at h
  · cases h
  · rename_i inner htree
    obtain ⟨he, -⟩ := Prod.mk.inj h
    obtain rfl := Except.ok.inj he
    unfold read at htree
    rw [withoutMark_parenthesised] at htree
    have htree := parse_spelled htree
    rw [toList_parenthesised] at htree
    have hstmt := (spelled_cons.mp (spelled_node.mp htree).2).1
    exact .app₁ (spelled_cons.mp (spelled_node.mp hstmt).2).1
  · cases h
  · cases h

end Inlay.Workbench
