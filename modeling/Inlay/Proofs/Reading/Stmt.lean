import Inlay.Proofs.Reading.Function

/-! # Statements keep to the text

    Statements hold strings in their expressions and as directives, which are expressions too. -/

namespace Inlay.Syntax.P

instance : Spells VarKind := ⟨fun _ _ => True⟩
instance : Plain VarKind := ⟨fun _ _ => trivial⟩

/-- The head of a loop holds the strings of its trees. -/
instance : Spells ForHead where
  spelled
    | src, .plain init test update => Spelled src init ∧ Spelled src test ∧ Spelled src update
    | src, .each _ left right => Spelled src left ∧ Spelled src right

/-- The head of a loop with three parts. -/
@[grind =] theorem spelled_plain {src : List Char} {init test update : Ast} :
    Spelled src (ForHead.plain init test update) ↔
      Spelled src init ∧ Spelled src test ∧ Spelled src update := Iff.rfl

/-- The head of a loop over the values of an expression. -/
@[grind =] theorem spelled_each {src : List Char} {isOf : Bool} {left right : Ast} :
    Spelled src (ForHead.each isOf left right) ↔ Spelled src left ∧ Spelled src right := Iff.rfl

instance : Faithful ForHead.plain := ⟨fun _ _ hi _ ht _ hu => ⟨hi, ht, hu⟩⟩
instance : Faithful ForHead.each := ⟨fun _ _ _ _ hl _ hr => ⟨hl, hr⟩⟩

/-! ## Variables, functions and classes -/

instance : Faithful declarator := by
  unfold declarator
  exact .of_steps

instance : Faithful varStmt.lacksNames := by
  unfold varStmt.lacksNames
  exact .of_steps

/-- Declarations of variables. -/
instance : Faithful varStmt := by
  unfold varStmt
  exact .of_steps

instance : Faithful usingDecl? := by
  unfold usingDecl?
  exact .of_steps

/-- The declaration of a function. -/
instance : Faithful functionDecl := by
  unfold functionDecl
  exact .of_steps

/-- The declaration of a class. -/
instance : Faithful classDecl := by
  unfold classDecl
  exact .of_steps

instance : Faithful markDeclare := by
  unfold markDeclare
  exact .of_steps

/-! ## Typed declarations -/

instance : Faithful moduleBlock := by
  unfold moduleBlock
  exact .of_steps

/-- Namespaces nest by dots in their names; the fuel is what decreases. -/
instance : Faithful namespaceRest where
  spelled src item _ isNamespace _ fuel _ := by
    induction fuel with
    | zero =>
        intro lo _
        unfold namespaceRest
        exact .of_steps
    | succ fuel ih =>
        have := ih (spelled_of_plain fuel)
        intro lo _
        unfold namespaceRest
        exact .of_steps

instance : Faithful ambientModule := by
  unfold ambientModule
  exact .of_steps

/-- Declarations that only typed text has. -/
instance : Faithful typedDecl := by
  unfold typedDecl
  exact .of_steps

instance : Faithful declareRest := by
  unfold declareRest
  exact .of_steps

/-! ## Statements -/

instance : Faithful subStmt := by
  unfold subStmt
  exact .of_steps

instance : Faithful parenExpr := by
  unfold parenExpr
  exact .of_steps

instance : Faithful jumpStmt := by
  unfold jumpStmt
  exact .of_steps

/-- A chain of conditions, by induction on the fuel. -/
instance : Faithful ifStmt where
  spelled src fuel _ := by
    induction fuel with
    | zero =>
        intro lo _
        unfold ifStmt
        exact .of_steps
    | succ fuel ih =>
        have := ih (spelled_of_plain fuel)
        intro lo _
        unfold ifStmt
        exact .of_steps

instance : Faithful returnStmt := by
  unfold returnStmt
  exact .of_steps

/-- A choice between cases. -/
instance : Faithful switchStmt := by
  unfold switchStmt
  exact .of_steps

instance : Faithful catchClause := by
  unfold catchClause
  exact .of_steps

instance : Faithful finallyBlock := by
  unfold finallyBlock
  exact .of_steps

/-- A block with its handler and what is done in any case. -/
instance : Faithful tryStmt := by
  unfold tryStmt
  exact .of_steps

instance : Faithful plainForRest := by
  unfold plainForRest
  exact .of_steps

instance : Faithful forEachHead := by
  unfold forEachHead
  exact .of_steps

/-- The head of a loop, once it is known of which kind it is. -/
instance : Faithful forHead := by
  unfold forHead
  exact .of_steps

instance : Faithful forStmt := by
  unfold forStmt
  exact .of_steps

/-- A statement behind a label. -/
instance : Faithful labelledStmt := by
  unfold labelledStmt
  exact .of_steps

instance : Faithful exprStmtRest := by
  unfold exprStmtRest
  exact .of_steps

/-- A statement behind its decorators. -/
instance : Faithful stmtRest := by
  unfold stmtRest
  exact .of_steps

instance : Faithful bodyItems := by
  unfold bodyItems
  exact .of_steps

/-- The statements between braces. -/
instance : Faithful block := by
  unfold block
  exact .of_steps

end Inlay.Syntax.P
