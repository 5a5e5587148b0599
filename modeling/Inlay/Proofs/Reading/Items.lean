import Mathlib
import Inlay.Workbench

/-! # The items of a file without types

    What a reader returns is a tree of a certain form.  The items of a file that is not typed are
    statements, imports and exports, and what `export default` exports is an expression, or a
    function or class with the parts of one (`parse_items`).

    * `Returns Q m`: whatever the reader `m` returns satisfies `Q`, in a context without types and
      with a grammar whose classes and blocks are what they should be;
    * `Reads Q m`: the same, as a class, so that readers that use others find what is known of
    them. -/

namespace Inlay.Syntax

/-! ## Forms of items -/

/-- What is known of the trees of nonterminals that are items or parts of items. -/
def Goal.Forms : Goal → Ast → Prop
  | .classRest .., t => ∃ span name body, t = .node .classExpr span [name, body]
  | .block _, t => ∃ span stmts, t = .node .block span stmts
  | _, _ => True

/-- There are no types, and the nonterminals have their forms. -/
structure Env.Untyped (env : Env) : Prop where
  untyped : env.ctx.dialect.isTypeScript = false
  forms {g : Goal} {ctx : Ctx} {s s' : State} {t : Ast} (hctx : ctx.dialect.isTypeScript = false)
    (h : env.again g ctx s = .ok t s') : g.Forms t

/-- What `export default` has behind it: one expression, or a function or class with its name and
    its body. -/
inductive DefaultExport : Ast → Prop
  | expr (span : Span) (e : Ast) : DefaultExport (.node .exportDefaultExpr span [e])
  | function (span span' : Span) (name body : Ast) :
      DefaultExport (.node .exportDefaultDecl span [.node .fnExpr span' [name, body]])
  | class (span span' : Span) (name body : Ast) :
      DefaultExport (.node .exportDefaultDecl span [.node .classExpr span' [name, body]])

def Shape.isDefaultExport : Shape → Bool
  | .exportDefaultExpr | .exportDefaultDecl => true
  | _ => false

/-- An item is well formed if it is a default export only in one of the three forms. -/
def Ast.IsItem (t : Ast) : Prop := t.shape.isDefaultExport = true → DefaultExport t

theorem Ast.IsItem.of_shape {t : Ast} (h : t.shape.isDefaultExport = false) : t.IsItem :=
  fun h' => absurd h' (by rw [h]; decide)

namespace P

variable {α β : Type} {Q : α → Prop} {R : β → Prop}

/-! ## What readers return -/

/-- Whatever the reader returns satisfies `Q`. -/
def Returns (Q : α → Prop) (m : P α) : Prop :=
  ∀ env : Env, env.Untyped → ∀ s a s', m env s = .ok a s' → Q a

theorem of_bind_eq_ok {m : P α} {k : α → P β} {env : Env} {s s' : State} {b : β}
    (h : (m >>= k) env s = .ok b s') : ∃ a s₁, m env s = .ok a s₁ ∧ k a env s₁ = .ok b s' := by
  replace h : EStateM.bind (m env) (fun a => k a env) s = .ok b s' := h
  unfold EStateM.bind at h
  split at h
  · rename_i a s₁ heq
    exact ⟨a, s₁, heq, h⟩
  · cases h

namespace Returns

protected theorem bind {m : P α} {k : α → P β} (hm : Returns Q m)
    (hk : ∀ a, Q a → Returns R (k a)) : Returns R (m >>= k) := by
  intro env henv s b s' h
  obtain ⟨a, s₁, ha, hb⟩ := of_bind_eq_ok h
  exact hk a (hm env henv s a s₁ ha) env henv s₁ b s' hb

/-- Nothing need be known of a step whose result does not decide the form. -/
theorem bind_any {m : P α} {k : α → P β} (hk : ∀ a, Returns R (k a)) : Returns R (m >>= k) :=
  .bind (fun _ _ _ _ _ _ => trivial) fun a (_ : True) => hk a

protected theorem pure {a : α} (h : Q a) : Returns Q (pure a) := by
  intro env _ s a' s' heq
  cases heq
  exact h

theorem pure_bind {a : α} {k : α → P β} (h : Returns R (k a)) : Returns R (pure a >>= k) :=
  .bind (Q := (· = a)) (.pure rfl) fun _ ha => ha ▸ h

protected theorem ite {c : Prop} [Decidable c] {m m' : P α} (h : Returns Q m)
    (h' : Returns Q m') : Returns Q (if c then m else m') := by
  split
  · exact h
  · exact h'

theorem mono {Q' : α → Prop} {m : P α} (h : Returns Q m) (hq : ∀ a, Q a → Q' a) : Returns Q' m :=
  fun env henv s a s' ha => hq a (h env henv s a s' ha)

theorem throw (f : Fault) : Returns Q (throw f : P α) := by
  intro env _ s a s' h
  cases h

theorem fail (p : Problem) (sp : Span) : Returns Q (fail p sp : P α) := by
  unfold P.fail
  refine bind_any fun s => ?_
  split
  · exact throw _
  · exact throw _

theorem failHere (p : Problem) : Returns Q (failHere p : P α) := by
  unfold P.failHere
  exact bind_any fun s => fail _ _

theorem unexpected (wanted : String) : Returns Q (unexpected wanted : P α) := by
  unfold P.unexpected
  exact bind_any fun s => failHere _

/-- A change of context leaves the language as it is. -/
theorem withCtx {f : Ctx → Ctx} {m : P α} (h : Returns Q m)
    (hf : ∀ c, (f c).dialect = c.dialect := by exact fun _ => rfl) : Returns Q (withCtx f m) :=
  fun env henv s a s' ha =>
    h { env with ctx := f env.ctx } ⟨by rw [hf]; exact henv.untyped, henv.forms⟩ s a s' ha

theorem bind_ctx {k : Ctx → P β}
    (hk : ∀ c, c.dialect.isTypeScript = false → Returns R (k c)) : Returns R (ctx >>= k) := by
  refine .bind (Q := fun c => c.dialect.isTypeScript = false) ?_ hk
  intro env henv s c s' h
  cases h
  exact henv.untyped

theorem bind_isTypeScript {k : Bool → P β} (hk : Returns R (k false)) :
    Returns R (isTypeScript >>= k) := by
  refine .bind (Q := (· = false)) ?_ fun b hb => hb ▸ hk
  unfold isTypeScript
  exact bind_ctx fun c hc => .pure hc

theorem goal (g : Goal) : Returns g.Forms (goal g) := fun _ henv _ _ _ h =>
  henv.forms henv.untyped h

theorem mk {Q : Ast → Prop} {shape : Shape} {lo : Nat} {parts : List Ast}
    (h : ∀ span, Q (.node shape span parts)) : Returns Q (mk shape lo parts) := by
  unfold P.mk
  exact bind_any fun span => .pure (h span)

theorem bind_mk {k : Ast → P β} {shape : Shape} {lo : Nat} {parts : List Ast}
    (hk : ∀ span, Returns R (k (.node shape span parts))) : Returns R (P.mk shape lo parts >>= k) :=
  .bind (mk (Q := fun t => ∃ span, t = .node shape span parts) fun span => ⟨span, rfl⟩)
    fun _ ⟨span, ht⟩ => ht ▸ hk span

/-- A loop whose state satisfies an invariant. -/
theorem repeatStep {I : β → Prop} {step : β → P (β ⊕ α)}
    (h : ∀ b, I b → Returns (Sum.elim I Q) (step b)) (n : Nat) (b : β) (hb : I b) :
    Returns Q (repeatStep step n b) := by
  induction n generalizing b with
  | zero => exact bind_any fun _ => throw _
  | succ n ih =>
      unfold P.repeatStep
      refine .bind (h b hb) fun r hr => ?_
      split
      · exact ih _ hr
      · exact .pure hr

theorem iterate {I : β → Prop} {start : β} {step : β → P (β ⊕ α)} (hstart : I start)
    (h : ∀ b, I b → Returns (Sum.elim I Q) (step b)) : Returns Q (iterate start step) := by
  unfold P.iterate
  exact bind_any fun env => repeatStep h _ _ hstart

/-- What follows a branch is looked at once. -/
theorem share {m : P β} (k : α → P β) (hk : ∀ a, Returns R (k a))
    (h : (∀ a, Returns R (k a)) → Returns R m) : Returns R m := h hk

theorem app {k : α → P β} (h : ∀ a, Returns R (k a)) (a : α) : Returns R (k a) := h a

end Returns

/-! ## Statements -/

/-- A tree that is neither an import nor an export. -/
def IsStatement (t : Ast) : Prop := isModuleItem t = false

theorem IsStatement.not_default {t : Ast} (h : IsStatement t) :
    t.shape.isDefaultExport = false := by
  unfold IsStatement isModuleItem at h
  unfold Shape.isDefaultExport
  split
  · simp_all
  · simp_all
  · rfl

theorem IsStatement.isItem {t : Ast} (h : IsStatement t) : t.IsItem := .of_shape h.not_default

/-- What is known of a reader of the grammar. -/
class Reads (Q : Ast → Prop) (m : P Ast) : Prop where
  returns : Returns Q m

theorem Returns.block (directives : Bool) : Returns IsStatement (P.goal (.block directives)) :=
  mono (goal _) fun _ ⟨_, _, h⟩ => h ▸ rfl

/-- `using` declares something or gives nothing. -/
theorem Returns.usingDecl? (lo : Nat) (isAwait : Bool) :
    Returns (fun o => ∀ t ∈ o, IsStatement t) (usingDecl? lo isAwait) := by
  have hnone : ∀ t ∈ (none : Option Ast), IsStatement t := fun _ h => nomatch h
  unfold P.usingDecl?
  refine bind_any fun next => bind_any fun isName => .ite (.pure hnone) ?_
  refine bind_any fun _ => bind_any fun decls => bind_any fun sp => bind_isTypeScript ?_
  refine .ite (bind_any fun _ => ?_) ?_
  all_goals
    refine bind_any fun c => .ite (bind_any fun _ => ?_) ?_
    all_goals
      refine bind_any fun _ => .pure fun t ht => ?_
      rw [← Option.some.inj ht]
      rfl

/-- A reader returns what it should once `needs` holds, which is about what follows its first
    step. -/
class Step (Q : α → Prop) (m : P α) (needs : outParam Prop) : Prop where
  returns : needs → Returns Q m

instance {Q : Ast → Prop} {m : P Ast} [Reads Q m] : Step Q m True := ⟨fun _ => Reads.returns⟩

instance (directives : Bool) : Step IsStatement (P.goal (.block directives)) True :=
  ⟨fun _ => .block directives⟩

instance (p : Problem) : Step Q (failHere p) True := ⟨fun _ => .failHere p⟩
instance (wanted : String) : Step Q (unexpected wanted) True := ⟨fun _ => .unexpected wanted⟩

instance {k : Bool → P β} : Step R (isTypeScript >>= k) (Returns R (k false)) :=
  ⟨.bind_isTypeScript⟩

instance {a : α} {k : α → P β} : Step R (pure a >>= k) (Returns R (k a)) := ⟨.pure_bind⟩

instance {k : Ast → P β} {shape : Shape} {lo : Nat} {parts : List Ast} :
    Step R (P.mk shape lo parts >>= k) (∀ span, Returns R (k (.node shape span parts))) :=
  ⟨.bind_mk⟩

instance {k : Option Ast → P β} {lo : Nat} {isAwait : Bool} : Step R (P.usingDecl? lo isAwait >>= k)
    (∀ o, (∀ t ∈ o, IsStatement t) → Returns R (k o)) :=
  ⟨.bind (.usingDecl? lo isAwait)⟩

instance (priority := low) {m : P α} {k : α → P β} : Step R (m >>= k) (∀ a, Returns R (k a)) :=
  ⟨.bind_any⟩

/-- The steps of a reader are taken one by one; the shape of the tree it ends with tells that it is
    a statement, or an item of another kind. -/
theorem Returns.of_steps {Q : Ast → Prop} {m : P Ast} (h : Returns Q m := by
    repeat' first
      | extract_lets -underBinder +onlyGivenNames k
        refine Returns.share k (fun _ => ?_) fun _ => ?_
        rotate_left
        clear_value k
        revert k
        intro _ _
        rotate_right
        dsimp -zeta only [k]
        clear k
      | with_reducible refine Step.returns ?_
        first
          | exact True.intro
          | intros
      | with_reducible exact Returns.app ‹_› _
      | simp -zeta only [Bool.false_and, Bool.and_false, Bool.false_eq_true, ↓reduceIte]
      | with_reducible refine Returns.ite ?_ ?_
      | with_reducible refine Returns.withCtx ?_
      | with_reducible refine Returns.mk fun _ => ?_
        first
          | exact rfl
          | exact Ast.IsItem.of_shape rfl
          | exact ⟨_, _, rfl⟩
          | exact ⟨_, _, _, rfl⟩
      | with_reducible refine Returns.pure ?_
        first
          | exact rfl
          | exact ‹∀ t ∈ some _, IsStatement t› _ rfl
      | dsimp -zeta only
      | dsimp only
      | split) : Returns Q m := h

theorem Reads.of_steps {Q : Ast → Prop} {m : P Ast} (h : Returns Q m := by exact .of_steps) :
    Reads Q m := ⟨h⟩

instance (lo : Nat) : Reads IsStatement (jumpStmt lo) := by
  unfold jumpStmt
  exact .of_steps

instance (forLoop : Bool) : Reads IsStatement (varStmt forLoop) := by
  unfold varStmt
  refine ⟨.bind_any fun lo => .bind_any fun token => ?_⟩
  extract_lets rest
  have hrest (kind : VarKind) : Returns IsStatement (rest kind) := by
    refine .bind_any fun wordAt => .bind_isTypeScript (.bind_any fun lacksNames => ?_)
    dsimp only
    exact .of_steps
  clear_value rest
  exact .of_steps

instance (lo : Nat) (isAsync nameRequired : Bool) (ds : List Ast) :
    Reads IsStatement (functionDecl lo isAsync nameRequired ds) := by
  unfold functionDecl
  exact .of_steps

instance (lo : Nat) (ds : List Ast) : Reads IsStatement (classDecl lo ds) := by
  unfold classDecl
  exact .of_steps

instance (fuel lo : Nat) : Reads IsStatement (ifStmt fuel lo) := by
  cases fuel with
  | zero => exact ⟨.failHere _⟩
  | succ fuel =>
      unfold ifStmt
      exact .of_steps

instance (lo : Nat) : Reads IsStatement (returnStmt lo) := by
  unfold returnStmt
  exact .of_steps

instance (lo : Nat) : Reads IsStatement (switchStmt lo) := by
  unfold switchStmt
  exact .of_steps

instance (lo : Nat) : Reads IsStatement (tryStmt lo) := by
  unfold tryStmt
  exact .of_steps

instance (lo : Nat) : Reads IsStatement (forStmt lo) := by
  unfold forStmt
  exact .of_steps

instance (label : Ast) : Reads IsStatement (labelledStmt label) := by
  unfold labelledStmt
  exact .of_steps

instance (lo : Nat) : Reads IsStatement (importExprStmt lo) := by
  unfold importExprStmt
  exact .of_steps

/-- A label, or an expression and the end of the statement. -/
instance (item : P Ast) (lo : Nat) (ds : List Ast) :
    Reads IsStatement (exprStmtRest item lo ds) := by
  unfold exprStmtRest
  refine ⟨.bind_any fun e => .bind_ctx fun c hc => ?_⟩
  rw [hc]
  exact .of_steps

instance (item : P Ast) (lo : Nat) (includeDecl topLevel : Bool) (ds : List Ast) :
    Reads IsStatement (stmtRest item lo includeDecl topLevel ds) := by
  unfold stmtRest
  exact .of_steps

/-! ## Imports and exports -/

theorem returns_functionDecl (lo : Nat) (isAsync nameRequired : Bool) (ds : List Ast) :
    Returns (fun t => ∃ span name body, t = .node (.fnDecl false) span [name, body])
      (functionDecl lo isAsync nameRequired ds) := by
  unfold functionDecl
  exact .bind_any fun _ => .bind_any fun star => .bind_any fun name => .bind_any fun f =>
    .mk fun span => ⟨span, name, f, rfl⟩

theorem returns_defaultFunction (lo start : Nat) (isAsync : Bool) (ds : List Ast) :
    Returns Ast.IsItem (do
      let f ← functionDecl start isAsync false ds
      mk .exportDefaultDecl lo [match f with | .node _ sp ps => .node .fnExpr sp ps]) := by
  refine .bind (returns_functionDecl start isAsync false ds) fun f ⟨span', name, body, hf⟩ => ?_
  subst hf
  exact .mk fun span _ => .function span span' name body

instance (lo : Nat) (ds : List Ast) : Reads Ast.IsItem (exportDefault lo ds) := by
  unfold exportDefault
  constructor
  refine .bind_any fun ds => .bind_isTypeScript <| .bind_any fun start => ?_
  dsimp only
  rw [if_neg Bool.false_ne_true]
  refine .bind_any fun isClass => .ite ?_ (.bind_any fun isAsync => ?_)
  · refine .bind (.goal (.classRest start false ds)) fun c ⟨span', name, body, hc⟩ => ?_
    subst hc
    exact .mk fun span _ => .class span span' name body
  -- what is not an asynchronous function is read alike
  · have hother : Returns Ast.IsItem (do
        if ← isW "function" then
          let f ← functionDecl start false false ds
          mk .exportDefaultDecl lo [match f with | .node _ sp ps => .node .fnExpr sp ps]
        else
          let e ← withIn true (goal .assign)
          expectEnd
          mk .exportDefaultExpr lo [e]) :=
      .bind_any fun _ => .ite (returns_defaultFunction lo start false ds) <|
        .bind_any fun e => .bind_any fun _ => .mk fun span _ => .expr span e
    refine .ite (.bind_any fun next => ?_) hother
    split
    · exact .ite (.bind_any fun _ => returns_defaultFunction lo start true ds) hother
    · exact hother

instance (lo : Nat) (typeOnly : Bool) : Reads Ast.IsItem (exportList lo typeOnly) := by
  unfold exportList
  exact .of_steps

instance (item : P Ast) (lo : Nat) (ds : List Ast) : Reads Ast.IsItem (exportDecl item lo ds) := by
  unfold exportDecl
  exact .of_steps

instance (lo : Nat) : Reads Ast.IsItem (importDecl lo) := by
  unfold importDecl
  exact .of_steps

/-- Every item of a file is a statement, an import or an export of a known form. -/
theorem returns_moduleItem (topLevel : Bool) (fuel : Nat) :
    Returns Ast.IsItem (moduleItem topLevel fuel) := by
  cases fuel with
  | zero => exact .failHere _
  | succ fuel =>
      unfold moduleItem
      refine .bind_any fun lo => .bind_any fun ds => .bind_any fun isImport => ?_
      have hstmt (m : P Ast) [Reads IsStatement m] : Returns Ast.IsItem m :=
        .mono Reads.returns fun _ => IsStatement.isItem
      refine .ite (.bind_any fun isExpr => .ite (hstmt _) ?_) (.bind_any fun isExport => .ite ?_ ?_)
      · exact .withCtx (.bind_any fun _ => Reads.returns)
      · exact .withCtx (.bind_any fun _ => Reads.returns)
      · exact .withCtx (hstmt _)

theorem returns_fileItems : Returns (∀ t ∈ ·, Ast.IsItem t) fileItems := by
  unfold fileItems
  refine .bind_any fun env => .iterate (I := fun b => ∀ t ∈ b.1, Ast.IsItem t)
    (fun _ h => nomatch h) fun b hb => ?_
  obtain ⟨out, strict, isModule⟩ := b
  refine .withCtx (.bind_any fun isEof => .ite ?_ ?_)
  · exact .pure fun t ht => hb t (List.mem_reverse.mp ht)
  · refine .bind (returns_moduleItem true _) fun t ht => ?_
    have hcons : ∀ u ∈ t :: out, Ast.IsItem u := List.forall_mem_cons.mpr ⟨ht, hb⟩
    dsimp only
    exact .ite (.bind_any fun _ => .pure hcons) (.pure hcons)

end P

/-! ## The grammar as a whole -/

namespace P

instance (lo : Nat) (nameRequired : Bool) (ds : List Ast) :
    Reads (Goal.classRest lo nameRequired ds).Forms (classRest lo nameRequired ds) := by
  unfold classRest Goal.Forms
  exact .of_steps

instance (directives : Bool) : Reads (Goal.block directives).Forms (block directives) := by
  unfold block Goal.Forms
  exact .of_steps

end P

/-- However deep nonterminals may nest, they have their forms. -/
theorem tie_forms (size fuel : Nat) {g : Goal} {ctx : Ctx} {s s' : State} {t : Ast}
    (hctx : ctx.dialect.isTypeScript = false) (h : tie size fuel g ctx s = .ok t s') :
    g.Forms t := by
  induction fuel generalizing g ctx s s' t with
  | zero => cases h
  | succ fuel ih =>
      have henv : Env.Untyped { ctx, size, again := tie size fuel } := ⟨hctx, ih⟩
      cases g with
      | classRest lo nameRequired ds =>
          exact (P.Reads.returns : P.Returns _ (P.classRest lo nameRequired ds)) _ henv s t s' h
      | block directives =>
          exact (P.Reads.returns : P.Returns _ (P.block directives)) _ henv s t s' h
      | _ => trivial

theorem parse_items {dialect : Dialect} {source : String} {base : Nat} {t : Ast}
    (hdialect : dialect.isTypeScript = false) (h : (parse dialect source base).tree = some t) :
    ∃ shebang span items, (∀ i ∈ items, Ast.IsItem i) ∧
      (t = .node (.moduleRoot shebang) span items ∨
        t = .node (.scriptRoot shebang) span items ∧ ∀ i ∈ items, P.IsStatement i) := by
  unfold parse at h
  extract_lets chars size whole ctx fuel at h
  split at h
  extract_lets first state at h
  split at h
  · rename_i items s heq
    have hitems := P.returns_fileItems { ctx, size, again := tie size fuel }
      ⟨hdialect, tie_forms size fuel⟩ _ _ _ heq
    obtain rfl := Option.some.inj h
    by_cases hmodule : (s.foundModuleItem || items.any P.isModuleItem) = true
    · rw [if_pos hmodule]
      exact ⟨_, _, items, hitems, .inl rfl⟩
    · rw [if_neg hmodule]
      rw [Bool.or_eq_true, not_or, List.any_eq_true] at hmodule
      refine ⟨_, _, items, hitems, .inr ⟨rfl, fun i hi => ?_⟩⟩
      rw [P.IsStatement, ← Bool.not_eq_true]
      exact fun hi' => hmodule.2 ⟨i, hi, hi'⟩
  · cases h

end Inlay.Syntax
