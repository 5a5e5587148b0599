import Inlay.Proofs.Reading.Pattern

/-! # Types keep to the text

    A type may hold strings, as literals and as the sources of imports; they all come from
    tokens. -/

namespace Inlay.Syntax.P

instance : Spells BinaryOp := ⟨fun _ _ => True⟩
instance : Spells MappedMark := ⟨fun _ _ => True⟩
instance : Spells Modifiers := ⟨fun _ _ => True⟩
instance : Plain BinaryOp := ⟨fun _ _ => trivial⟩
instance : Plain MappedMark := ⟨fun _ _ => trivial⟩
instance : Plain Modifiers := ⟨fun _ _ => trivial⟩

/-! ## Arguments and parameters

    Lists between angle brackets, with the modifiers that may stand in front of a parameter. -/

instance : Faithful delimited := by
  unfold delimited
  exact .of_steps

/-- Type arguments, whatever reads on behind them. -/
instance : Faithful typeArgsThen := by
  unfold typeArgsThen
  exact .of_steps

instance : Faithful typeArgs := by
  unfold typeArgs
  exact .of_steps

instance : Faithful tsModifier := by
  unfold tsModifier
  exact .of_steps

instance : Faithful typeParam := by
  unfold typeParam
  exact .of_steps

/-- Type parameters with their bounds and defaults. -/
instance : Faithful typeParams := by
  unfold typeParams
  exact .of_steps

instance : Faithful optTypeParams := by
  unfold optTypeParams
  exact .of_steps

instance : Faithful typeAnnFrom := by
  unfold typeAnnFrom
  exact .of_steps

/-- The type of a result, which may be a predicate. -/
instance : Faithful returnType := by
  unfold returnType
  exact .of_steps

/-! ## Signatures -/

instance : Faithful signatureParams := by
  unfold signatureParams
  exact .of_steps

instance : Faithful fnOrConstructorType := by
  unfold fnOrConstructorType
  exact .of_steps

instance : Faithful opensFnType := by
  unfold opensFnType
  exact .of_steps

/-! ## References, tuples and mapped types -/

instance : Faithful entityName := by
  unfold entityName
  exact .of_steps

instance : Faithful typeRef := by
  unfold typeRef
  exact .of_steps

/-- An import as a type; its source is a string. -/
instance : Faithful importType := by
  unfold importType
  exact .of_steps

instance : Faithful typeQuery := by
  unfold typeQuery
  exact .of_steps

instance : Faithful tupleElement := by
  unfold tupleElement
  exact .of_steps

/-- A tuple, whose elements may have labels. -/
instance : Faithful tupleType := by
  unfold tupleType
  exact .of_steps

instance : Faithful startsMapped := by
  unfold startsMapped
  exact .of_steps

instance : Faithful mappedMark := by
  unfold mappedMark
  exact .of_steps

/-- A type for each key of another type. -/
instance : Faithful mappedType := by
  unfold mappedType
  exact .of_steps

/-! ## Members

    Keys of members are names, numbers or strings. -/

instance : Faithful memberEnd := by
  unfold memberEnd
  exact .of_steps

instance : Faithful indexSignature? := by
  unfold indexSignature?
  exact .of_steps

instance : Faithful memberKey := by
  unfold memberKey
  exact .of_steps

instance : Faithful colonReturn := by
  unfold colonReturn
  exact .of_steps

instance : Faithful signature := by
  unfold signature
  exact .of_steps

/-- A member of an interface. -/
instance : Faithful typeMember := by
  unfold typeMember
  exact .of_steps

instance : Faithful typeMembers := by
  unfold typeMembers
  exact .of_steps

/-! ## Whole types

    From literals up to conditional types, each level in terms of the one below. -/

instance : Faithful templateTypeLit := by
  unfold templateTypeLit
  exact .of_steps

instance : Faithful nonArrayType.wrong := by
  unfold nonArrayType.wrong
  exact .of_steps

/-- A type that no operator takes apart. -/
instance : Faithful nonArrayType := by
  unfold nonArrayType
  exact .of_steps

instance : Faithful arrayType := by
  unfold arrayType
  exact .of_steps

instance : Faithful operatorType.operatorFollows := by
  unfold operatorType.operatorFollows
  exact .of_steps

/-- Operators in front of a type, by induction on the fuel. -/
instance : Faithful operatorType where
  spelled src fuel _ := by
    induction fuel with
    | zero =>
        unfold operatorType
        exact .of_steps
    | succ fuel ih =>
        have := ih (spelled_of_plain fuel)
        unfold operatorType
        exact .of_steps

instance : Faithful joinedType := by
  unfold joinedType
  exact .of_steps

instance : Faithful plainType := by
  unfold plainType
  exact .of_steps

/-- A type, or a choice between types by a condition. -/
instance : Faithful type := by
  unfold type
  exact .of_steps

/-! ## Declarations -/

instance : Faithful heritage := by
  unfold heritage
  exact .of_steps

/-- An interface. -/
instance : Faithful interfaceDecl := by
  unfold interfaceDecl
  exact .of_steps

instance : Faithful typeAliasDecl := by
  unfold typeAliasDecl
  exact .of_steps

instance : Faithful enumMember := by
  unfold enumMember
  exact .of_steps

/-- An enumeration. -/
instance : Faithful enumDecl := by
  unfold enumDecl
  exact .of_steps

end Inlay.Syntax.P
