import Inlay.Proofs.Reading.Pattern

/-! # Expressions keep to the text

    Strings enter a tree at the literals only; every other reader puts together what it was given.
    The readers that call themselves are taken by induction on the fuel or on the items left. -/

namespace Inlay.Syntax.P

/-- An item between parentheses holds the strings of its tree. -/
instance : Spells ParenItem := ⟨fun src item => Spelled src item.tree⟩
instance : Faithful ParenItem.mk := ⟨fun _ _ h _ _ => h⟩
instance : Faithful ParenItem.tree := ⟨fun _ _ h => h⟩

/-! ## Sequences and operators

    Operators join operands that were read; an assignment may read its left side as a pattern. -/

instance : Faithful verify := by
  unfold verify
  exact .of_steps

/-- Expressions with commas between them. -/
instance : Faithful sequence := by
  unfold sequence
  exact .of_steps

instance : Faithful typedOperand := by
  unfold typedOperand
  exact .of_steps

/-- Operands behind an operator, by induction on the fuel. -/
instance : Faithful binaryTail where
  spelled src fuel _ := by
    induction fuel with
    | zero => exact fun _ h _ _ => .app₁ (f := pure) h
    | succ fuel ih =>
        have := ih (spelled_of_plain fuel)
        intro left _ min _
        unfold binaryTail
        exact .of_steps

instance : Faithful binaryRest := by
  unfold binaryRest
  exact .of_steps

instance : Faithful binaryExpr := by
  unfold binaryExpr
  exact .of_steps

/-- A condition with its two branches. -/
instance : Faithful condExpr := by
  unfold condExpr
  exact .of_steps

instance : Faithful finishAssign := by
  unfold finishAssign
  exact .of_steps

instance : Faithful yieldExpr := by
  unfold yieldExpr
  exact .of_steps

instance : Faithful assignBase := by
  unfold assignBase
  exact .of_steps

instance : Faithful genericArrow := by
  unfold genericArrow
  exact .of_steps

/-- An assignment, an arrow function or anything that binds more tightly. -/
instance : Faithful assignExpr := by
  unfold assignExpr
  exact .of_steps

/-! ## Unary expressions, arguments and subscripts

    A chain of subscripts grows from its base, which is spelled by assumption. -/

instance : Faithful awaitExpr := by
  unfold awaitExpr
  exact .of_steps

/-- Prefix operators, `await` and type assertions. -/
instance : Faithful unaryExpr := by
  unfold unaryExpr
  exact .of_steps

instance : Faithful exprOrSpread := by
  unfold exprOrSpread
  exact .of_steps

/-- The arguments of a call. -/
instance : Faithful callArgs := by
  unfold callArgs
  exact .of_steps

instance : Faithful tagged := by
  unfold tagged
  exact .of_steps

instance : Faithful tryTypeArgs := by
  unfold tryTypeArgs
  exact .of_steps

instance : Faithful memberName := by
  unfold memberName
  exact .of_steps

instance : Faithful mkMember := by
  unfold mkMember
  exact .of_steps

instance : Faithful mkCall := by
  unfold mkCall
  exact .of_steps

instance : Faithful checkSuper := by
  unfold checkSuper
  exact .of_steps

instance : Faithful typedSubscript := by
  unfold typedSubscript
  exact .of_steps

instance : Faithful subscript := by
  unfold subscript
  exact .of_steps

/-- Members, calls and templates behind an expression. -/
instance : Faithful subscripts := by
  unfold subscripts
  exact .of_steps

/-! ## Left-hand sides -/

instance : Faithful importExpr := by
  unfold importExpr
  exact .of_steps

/-- `new` may stand in front of `new`, so the fuel is what decreases. -/
instance : Faithful memberOrNew where
  spelled src primary _ fuel _ := by
    induction fuel with
    | zero => exact .app₁ (f := failHere) (spelled_of_plain _)
    | succ fuel ih =>
        have := ih (spelled_of_plain fuel)
        unfold memberOrNew
        exact .of_steps

/-- What may stand on the left of an assignment. -/
instance : Faithful lhsExpr := by
  unfold lhsExpr
  exact .of_steps

/-! ## Primary expressions

    Literals take their strings from tokens, and items in parentheses may turn into parameters. -/

instance : Faithful arrayLit := by
  unfold arrayLit
  exact .of_steps

/-- A template with its expressions. -/
instance : Faithful template := by
  unfold template
  exact .of_steps

instance : Faithful regexLit := by
  unfold regexLit
  exact .of_steps

instance : Faithful arrowBody := by
  unfold arrowBody
  exact .of_steps

instance : Faithful mkArrow := by
  unfold mkArrow
  exact .of_steps

instance : Faithful eatModifier := by
  unfold eatModifier
  exact .of_steps

instance : Faithful parenItem := by
  unfold parenItem
  exact .of_steps

instance : Faithful parenItems := by
  unfold parenItems
  exact .of_steps

/-- Items that turn out to be parameters are read again one by one. -/
instance : Faithful itemsAsParams where
  spelled src comma _ items h := by
    induction items with
    | nil =>
        unfold itemsAsParams
        exact .of_steps
    | cons item items ih =>
        obtain ⟨t, isPattern⟩ := item
        obtain ⟨ht, hitems⟩ := spelled_cons.mp h
        have ht : Spelled src t := ht
        have := ih hitems
        unfold itemsAsParams
        exact .of_steps

/-- Parentheses hold an expression or the parameters of an arrow function. -/
instance : Faithful parenOrArrow := by
  unfold parenOrArrow
  exact .of_steps

/-! ## Object literals

    Keys may be strings too, and are taken from tokens as well. -/

instance : Faithful methodRest := by
  unfold methodRest
  exact .of_steps

instance : Faithful checkGetter := by
  unfold checkGetter
  exact .of_steps

instance : Faithful checkSetter := by
  unfold checkSetter
  exact .of_steps

/-- A property of an object literal. -/
instance : Faithful objectProp := by
  unfold objectProp
  exact .of_steps

instance : Faithful objectLit := by
  unfold objectLit
  exact .of_steps

/-! ## Functions as expressions -/

/-- A function as an expression. -/
instance : Faithful functionExpr := by
  unfold functionExpr
  exact .of_steps

instance : Faithful primaryName := by
  unfold primaryName
  exact .of_steps

/-- An expression that no operator takes apart. -/
instance : Faithful primary := by
  unfold primary
  exact .of_steps

end Inlay.Syntax.P
