import Inlay.Proofs.Reading.Reader
import Inlay.Proofs.Tree

/-! # Names and patterns keep to the text

    No reader of names and binding patterns brings in a string of its own, and neither does the
    second reading of an expression as a pattern. -/

namespace Inlay.Syntax.P

variable {src : List Char}

instance : Spells PatKind := ⟨fun _ _ => True⟩
instance : Plain PatKind := ⟨fun _ _ => trivial⟩

/-! ## Names -/

/-- A name, reserved or not. -/
instance : Faithful identName := by
  unfold identName
  exact .of_steps

instance : Faithful ident := by
  unfold ident
  exact .of_steps

/-- A name that is declared. -/
instance : Faithful bindingIdent := by
  unfold bindingIdent
  exact .of_steps

instance : Faithful optBindingIdent := by
  unfold optBindingIdent
  exact .of_steps

instance : Faithful privateName := by
  unfold privateName
  exact .of_steps

instance : Faithful toIdent := by
  unfold toIdent
  exact .of_steps

/-- A literal in the place of a name; here strings come in. -/
instance : Faithful literalToken := by
  unfold literalToken
  exact .of_steps

/-- The key of a property. -/
instance : Faithful propName := by
  unfold propName
  exact .of_steps

/-! ## Binding patterns -/

instance : Faithful withType := by
  unfold withType
  exact .of_steps

instance : Faithful optTypeAnn := by
  unfold optTypeAnn
  exact .of_steps

/-- An element of a pattern with its default. -/
instance : Faithful bindingElement := by
  unfold bindingElement
  exact .of_steps

instance : Faithful arrayBindingPat := by
  unfold arrayBindingPat
  exact .of_steps

/-- A property of an object pattern. -/
instance : Faithful objectPatProp := by
  unfold objectPatProp
  exact .of_steps

instance : Faithful braced := by
  unfold braced
  exact .of_steps

instance : Faithful checkObjectPat where
  spelled src comma _ ts h := by
    induction ts with
    | nil =>
        unfold checkObjectPat
        exact .of_steps
    | cons t ts ih =>
        have := ih (spelled_cons.mp h).2
        unfold checkObjectPat
        exact .of_steps

instance : Faithful objectBindingPat := by
  unfold objectBindingPat
  exact .of_steps

/-- What a declaration declares. -/
instance : Faithful bindingPatOrIdent := by
  unfold bindingPatOrIdent
  exact .of_steps

/-! ## Expressions read again as patterns -/

instance : Faithful dropTrailingHoles := by
  unfold dropTrailingHoles
  exact .of_steps

/-- What an assignment may assign to. -/
instance : Faithful checkTarget := by
  unfold checkTarget
  exact .of_steps

/-- Properties read again as those of a pattern. -/
theorem spelled_reparseProps {k : PatKind} {ts : List Ast} (h : Spelled src ts)
    (ih : ∀ t ∈ ts, ∀ c ∈ t.parts, ∀ k, Spelled src c → Spelled src (reparse k c)) :
    Spelled src (reparseProps k ts) := by
  induction ts with
  | nil =>
      unfold reparseProps
      exact .of_steps
  | cons t ts ihs =>
      obtain ⟨shape, span, parts⟩ := t
      have hrest : Spelled src (reparseProps k ts) := ihs (by grind) (by grind)
      have hc : ∀ c ∈ parts, ∀ k, Spelled src (reparse k c) := by
        intro c hc k
        exact ih _ List.mem_cons_self c hc k (by grind)
      have hp : Spelled src parts := by grind
      unfold reparseProps
      exact .of_steps

/-- Elements read again as those of a pattern. -/
theorem spelled_reparseElems {k : PatKind} {ts : List Ast} (h : Spelled src ts)
    (ih : ∀ t ∈ ts, ∀ k, Spelled src t → Spelled src (reparse k t))
    (ih' : ∀ t ∈ ts, ∀ c ∈ t.parts, ∀ k, Spelled src c → Spelled src (reparse k c)) :
    Spelled src (reparseElems k ts) := by
  induction ts with
  | nil =>
      unfold reparseElems
      exact .of_steps
  | cons t ts ihs =>
      obtain ⟨shape, span, parts⟩ := t
      have hrest : Spelled src (reparseElems k ts) := ihs (by grind) (by grind) (by grind)
      have ht : ∀ k, Spelled src (reparse k (.node shape span parts)) :=
        fun k => ih _ List.mem_cons_self k (by grind)
      have hc : ∀ c ∈ parts, ∀ k, Spelled src (reparse k c) :=
        fun c hm k => ih' _ List.mem_cons_self c hm k (by grind)
      unfold reparseElems
      exact .of_steps

/-- The value of a property is read again from the object that holds the property. -/
theorem spelled_reparse (t : Ast) : ∀ k, Spelled src t → Spelled src (reparse k t) := by
  induction t using Ast.induction₂ with
  | node shape span parts ih ih' =>
      intro k h
      have hp : Spelled src parts := (spelled_node.mp h).2
      have hprops := spelled_reparseProps (k := k) hp ih'
      have helems := spelled_reparseElems (k := k) hp ih ih'
      unfold reparse
      exact .of_steps

instance : Faithful reparse := ⟨fun _ k _ t h => spelled_reparse t k h⟩

end Inlay.Syntax.P
