import Inlay.Proofs.Reading.Expr
import Inlay.Proofs.Reading.Type

/-! # Functions and classes keep to the text

    Parameters, bodies and members are put together from expressions, patterns and types. -/

namespace Inlay.Syntax.P

instance : Spells Access := ⟨fun _ _ => True⟩
instance : Spells MethodKind := ⟨fun _ _ => True⟩
instance : Plain Access := ⟨fun _ _ => trivial⟩
instance : Plain MethodKind := ⟨fun _ _ => trivial⟩

/-- The head of a member holds the strings of its decorators. -/
instance : Spells MemberHead := ⟨fun src h => Spelled src h.decorators⟩
instance : Faithful MemberHead.mk := ⟨fun _ _ _ _ h _ _ => h⟩
instance : Faithful MemberHead.decorators := ⟨fun _ _ h => h⟩

/-! ## Decorators and parameters -/

instance : Faithful decorator := by
  unfold decorator
  exact .of_steps

/-- The decorators in front of a declaration or a member. -/
instance : Faithful decorators := by
  unfold decorators
  exact .of_steps

instance : Faithful paramPat := by
  unfold paramPat
  exact .of_steps

instance : Faithful restParam := by
  unfold restParam
  exact .of_steps

instance : Faithful paramList := by
  unfold paramList
  exact .of_steps

/-- The parameters of a function. -/
instance : Faithful formalParams := by
  unfold formalParams
  exact .of_steps

instance : Faithful accessModifier := by
  unfold accessModifier
  exact .of_steps

/-- The parameters of a constructor, which may declare fields. -/
instance : Faithful constructorParams := by
  unfold constructorParams
  exact .of_steps

/-! ## Functions -/

instance : Faithful functionBody := by
  unfold functionBody
  exact .of_steps

/-- A function behind its name. -/
instance : Faithful functionRest := by
  unfold functionRest
  exact .of_steps

/-! ## Class members

    The words in front of a member are no strings; its key and its value are trees. -/

instance : Faithful isMethodStart := by
  unfold isMethodStart
  exact .of_steps

instance : Faithful isFieldEnd := by
  unfold isFieldEnd
  exact .of_steps

/-- The key of a member. -/
instance : Faithful classKey := by
  unfold classKey
  exact .of_steps

instance : Faithful mkMethod := by
  unfold mkMethod
  exact .of_steps

instance : Faithful mkField := by
  unfold mkField
  exact .of_steps

instance : Faithful staticBlock := by
  unfold staticBlock
  exact .of_steps

instance : Faithful memberModifiers := by
  unfold memberModifiers
  exact .of_steps

instance : Faithful constructorRest := by
  unfold constructorRest
  exact .of_steps

/-- A member behind its modifiers. -/
instance : Faithful memberRest := by
  unfold memberRest
  exact .of_steps

instance : Faithful wordNamed? := by
  unfold wordNamed?
  exact .of_steps

/-- A member of a class. -/
instance : Faithful classMember := by
  unfold classMember
  exact .of_steps

instance : Faithful classMembers := by
  unfold classMembers
  exact .of_steps

/-! ## Classes -/

instance : Faithful superClass := by
  unfold superClass
  exact .of_steps

/-- A class behind its name. -/
instance : Faithful classRest := by
  unfold classRest
  exact .of_steps

instance : Faithful markAbstract := by
  unfold markAbstract
  exact .of_steps

end Inlay.Syntax.P
