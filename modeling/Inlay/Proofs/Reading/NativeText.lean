import Inlay.Proofs.Json.Structural

/-! # Texts of built-in functions cannot be read

    A built-in function shows `function name() \x7b [native code] \x7d` for its text.  Reading it
    as an expression stops with a fault: at the name, if that is more than one word or a reserved
    one, and else between the two words of the body.

    A reader that stops may be asked by the reader above it to make up the operand that is missing;
    this happens in front of operators only.  So `Halts` keeps the token at which reading stopped,
    and every level of the grammar passes it on.  A name that is an operator itself stops in front
    of one, and what is read after it stops in turn (`Stuck`).

    * `functionExpr_fails`: the function stops, whichever name it shows;
    * `parse_native`: so does the whole text between parentheses;
    * `Workbench.readExpr_native`: no expression comes of it. -/

namespace Inlay.Syntax

open Json P Text

/-! ## How reading stops -/

theorem Fails.bind {α β : Type} {Q : State → Prop} {e : Env} {s : State} {m : P α}
    (h : Fails Q (m e s)) (f : α → P β) : Fails Q ((m >>= f) e s) := by
  obtain ⟨y, s', hm, hs⟩ := h
  exact ⟨y, s', by rw [bind_run, hm], hs⟩

theorem halts_at {α : Type} {r : EStateM.Result Fault State α} {f : Fault} {s : State} {t : Token}
    (hr : r = .error f s) (hs : s.token = t) (ht : t.halts = true) : Halts r :=
  ⟨f, s, hr, (congrArg Token.halts hs).trans ht⟩

section Levels

variable {size n : Nat} {c : Ctx} {e : Env} {s : State} {t : Token} {rest : List Char}

theorem tie_expr_halts (hc : c.IsPlain) (hsize : 0 < size) (h : s.At t rest) (ht : t.Heads)
    (hp : ∀ s : State, s.At t rest → Halts (primary ⟨c, size, tie size n⟩ s)) :
    Halts (tie size (n + 4) .expr c s) := by
  obtain ⟨a, ha⟩ := tie_assign_eq hc hsize h.token ht fun a => (hp _ (h.withArrow a)).rests
  have hassign : Halts (tie size (n + 3) .assign c s) := ha ▸ hp _ (h.withArrow a)
  exact Fails.bind (e := ⟨c, size, tie size (n + 3)⟩) (m := goal .assign) hassign _

theorem exprStmtRest_halts {item : P Ast} (lo : Nat) (ds : List Ast)
    (h : Halts (e.again .expr { e.ctx with includeIn := true } s)) :
    Halts (exprStmtRest item lo ds e s) :=
  Fails.bind (m := withIn true (goal .expr)) h _

theorem innerItem_halts {q : Punct} (hc : e.ctx.IsPlain) (hs : s.At (.punct q) rest)
    (hbrace : q ≠ .lbrace) (hsemi : q ≠ .semi) (k : Nat) (includeDecl : Bool)
    (h : Halts (e.again .expr e.ctx.ofStatement s)) :
    Halts (innerItem includeDecl (k + 1) e s) := by
  have hany : isAnyW ["import", "export"] e s = .ok false s := by
    simp [isAnyW, hs.token]
  have hplain : ({ e.ctx with expectColon := false, allowUsing := true } : Ctx).IsPlain :=
    ⟨hc.1, hc.2, hc.3, hc.4⟩
  simp only [innerItem, bind_run, curPos_run, decorators_run hc, hany, Bool.false_eq_true, if_false,
    ite_run, withCtx_run]
  rw [stmtRest_eq hplain hs.token hbrace hsemi]
  exact exprStmtRest_halts _ _ h

end Levels

/-! ## Names -/

def Passes {α : Type} (t : Token) (rest : List Char) (r : EStateM.Result Fault State α) : Prop :=
  ∃ a s, r = .ok a s ∧ s.At t rest

section Names

variable {α β : Type} {e : Env} {s : State} {t t' : Token} {rest rest' : List Char}

theorem Passes.bind {m : P α} {f : α → P β} (h : Passes t rest (m e s))
    (hf : ∀ a s', s'.At t rest → Passes t' rest' (f a e s')) : Passes t' rest' ((m >>= f) e s) := by
  obtain ⟨a, s', hm, hs⟩ := h
  rw [bind_run, hm]
  exact hf a s' hs

theorem Passes.pure (h : s.At t rest) (a : α) : Passes t rest ((Pure.pure a : P α) e s) :=
  ⟨a, s, rfl, h⟩

theorem Passes.note {c : Prop} [Decidable c] {m : P Unit} {k : P β} (h : s.At t rest)
    (hm : Passes t rest (m e s)) (hk : ∀ s', s'.At t rest → Passes t' rest' (k e s')) :
    Passes t' rest' ((if c then m >>= fun _ => k else k) e s) := by
  split
  · exact hm.bind fun _ s' hs' => hk s' hs'
  · exact hk s h

theorem addFault_at (h : s.At t rest) (f : Fault) : Passes t rest (addFault f e s) := by
  cases hi : e.ctx.ignoreFaults <;> simp [addFault, hi] <;> exact ⟨_, _, rfl, h.1, h.2⟩

theorem emit_at (h : s.At t rest) (p : Problem) (sp : Span) : Passes t rest (emit p sp e s) := by
  unfold emit
  refine Passes.bind ⟨s, s, rfl, h⟩ fun a s' hs' => ?_
  cases a.token with
  | error q qs => exact (addFault_at hs' _).bind fun _ _ h => addFault_at h _
  | _ => exact addFault_at hs' _

theorem emitStrict_at (h : s.At t rest) (p : Problem) (sp : Span) :
    Passes t rest (emitStrict p sp e s) := by
  cases hi : e.ctx.ignoreFaults <;> cases hm : e.ctx.isModule <;>
    simp [emitStrict, hi, hm, addFault] <;> exact ⟨_, _, rfl, h.1, h.2⟩

/-- A word that is free here is no keyword, apart from the three that only some contexts take. -/
theorem isKeywordName_of_free {c : Ctx} {w : String} (hw : c.isReserved w = false)
    (hlet : w ≠ "let")
    (hawait : w ≠ "await") (hyield : w ≠ "yield") : Token.isKeywordName w = false := by
  unfold Ctx.isReserved at hw
  simp only [beq_iff_eq, hlet, hawait, hyield, if_false] at hw
  split at hw
  next hmem =>
    have hall : ∀ w ∈ ["implements", "package", "protected", "interface", "private", "public"],
        Token.isKeywordName w = false := by decide
    exact hall w (List.contains_iff_mem.mp hmem)
  next => exact (Bool.or_eq_false_iff.mp hw).2

theorem await_of_free {c : Ctx} (hw : c.isReserved "await" = false) :
    (c.inAsync = false ∧ c.inStaticBlock = false) ∧ c.isModule = false := by
  simpa [Ctx.isReserved] using hw

def checkedName (c : Ctx) (w : String) (lo : Nat) (sp : Span) (inclYield inclAwait : Bool) :
    P Ast := do
  if w == "await" then
    if c.inDeclare then pure ()
    else if c.inStaticBlock then fail .expectedIdent sp
    else if c.isModule || c.inAsync then fail .awaitIdent sp
    else if !inclAwait then fail .expectedIdent sp
  else if w == "this" && c.dialect.isTypeScript then pure ()
  else if w == "let" then pure ()
  else if w == "yield" then
    if !inclYield then fail .expectedIdent sp
  else if Token.isKeywordName w then fail .expectedIdent sp
  else if w == "arguments" && c.inClassField then emit .argumentsInField sp
  mk (.ident w .unset false) lo []

theorem checkedName_at {w : String} (h : s.At t rest) (hw : e.ctx.isReserved w = false) (lo : Nat)
    (sp : Span) : Passes t rest (checkedName e.ctx w lo sp true true e s) := by
  have hmk : ∀ s : State, s.At t rest → Passes t rest (mk (.ident w .unset false) lo [] e s) :=
    fun s hs => ⟨_, s, rfl, hs⟩
  unfold checkedName
  by_cases hawait : w = "await"
  · subst hawait
    obtain ⟨⟨hasync, hstatic⟩, hmodule⟩ := await_of_free hw
    simpa [hasync, hstatic, hmodule] using hmk s h
  by_cases hlet : w = "let"
  · subst hlet
    simpa using hmk s h
  by_cases hyield : w = "yield"
  · subst hyield
    simpa using hmk s h
  have hkeyword := isKeywordName_of_free hw hlet hawait hyield
  have hthis : w ≠ "this" := by
    rintro rfl
    cases hkeyword
  by_cases hfield : (w == "arguments" && e.ctx.inClassField) = true
  · have hemit := (emit_at h .argumentsInField sp).bind (f := fun _ =>
      mk (.ident w .unset false) lo [])
      fun _ s hs => hmk s hs
    simpa [hawait, hthis, hlet, hyield, hkeyword, hfield] using hemit
  · simpa [hawait, hthis, hlet, hyield, hkeyword, hfield] using hmk s h

theorem ident_eq (inclYield inclAwait : Bool) : ident inclYield inclAwait = (do
    let lo ← curPos
    match ← need with
    | .word n _ =>
        let _ ← bump
        let sp ← prevSpan
        let c ← ctx
        if n == "enum" then emit (.strictIdent n) sp
        else if strictWords.contains n then emitStrict (.strictIdent n) sp
        checkedName c n lo sp inclYield inclAwait
    | _ => failHere .expectedIdent) := rfl

/-- A word that can be a name is read as one, with whatever is noted about it. -/
theorem ident_at (hc : e.ctx.IsPlain) {w : String} (h : s.At (.word w false) rest)
    (hl : Lexes rest t' rest') (ht' : ∀ w, t' ≠ .word w true) (hw : e.ctx.isReserved w = false) :
    Passes t' rest' (ident true true e s) := by
  obtain ⟨s', hbump, hs'⟩ := bump_at hc h hl ht'
  have hneed : need e s = .ok (.word w false) s := by
    simp [need, h.token]
  have hchecked : ∀ s₁ : State, s₁.At t' rest' →
      Passes t' rest' (checkedName e.ctx w s.span.lo s'.prev true true e s₁) :=
    fun s₁ hs₁ => checkedName_at hs₁ hw _ _
  rw [ident_eq, bind_run, curPos_run]
  simp only
  rw [bind_run, hneed]
  simp only
  rw [bind_run, hbump]
  simp only
  rw [bind_run, prevSpan_run]
  simp only
  rw [bind_run, ctx_run]
  simp only [ite_run]
  split
  · exact (emit_at hs' _ _).bind fun _ s₁ hs₁ => hchecked s₁ hs₁
  split
  · exact (emitStrict_at hs' _ _).bind fun _ s₁ hs₁ => hchecked s₁ hs₁
  · exact hchecked s' hs'

theorem bindingIdent_at (hc : e.ctx.IsPlain) {w : String} (h : s.At (.word w false) rest)
    (hl : Lexes rest t' rest') (ht' : ∀ w, t' ≠ .word w true) (hw : e.ctx.isReserved w = false) :
    Passes t' rest' (bindingIdent false e s) := by
  have hlet : isW "let" e s = .ok (w == "let") s := by
    simp [isW, h.token]
  have hident := ident_at hc h hl ht' hw
  unfold bindingIdent
  rw [bind_run, hlet]
  simp only [Bool.false_and, Bool.false_eq_true, if_false]
  refine hident.bind fun y s₁ h₁ => ?_
  rw [bind_run, ctx_run]
  simp only
  cases y.shape with
  | ident n mark isOptional =>
      exact Passes.note h₁ (emitStrict_at h₁ _ _) fun s₂ h₂ =>
        Passes.note h₂ (emit_at h₂ _ _) fun s₃ h₃ =>
          Passes.note h₃ (emit_at h₃ _ _) fun s₄ h₄ => Passes.pure h₄ y
  | _ => exact Passes.pure h₁ y

theorem optBindingIdent_at (hc : e.ctx.IsPlain) {w : String} (h : s.At (.word w false) rest)
    (hl : Lexes rest t' rest') (ht' : ∀ w, t' ≠ .word w true) (hw : e.ctx.isReserved w = false) :
    Passes t' rest' (optBindingIdent false false e s) := by
  have hname : isName e s = .ok true s := by
    simp [isName, h.token, hw]
  simpa [optBindingIdent, hname] using bindingIdent_at hc h hl ht' hw

theorem optBindingIdent_none (h : ∀ w y, s.token = .word w y → e.ctx.isReserved w = true) :
    optBindingIdent false false e s = .ok .absent s := by
  have hname : isName e s = .ok false s := by
    cases ht : s.token with
    | word w y => simp [isName, ht, h w y ht]
    | _ => simp [isName, ht]
  simp [optBindingIdent, hname]

end Names

/-! ## The body of a built-in function -/

section Body

variable {size n : Nat} {c : Ctx} {e : Env} {s : State} {t : Token}
variable {rest rest' r₀ r₁ r₂ r₃ : List Char}

/-- The name `native` was read, and `code` stands behind it. -/
def ReadsName (rest : List Char) (r : EStateM.Result Fault State Ast) : Prop :=
  ∃ sp s, r = .ok (.node (.ident "native" .unset false) sp []) s ∧ s.At (.word "code" false) rest

theorem heads_native : (Token.word "native" false).Heads :=
  ⟨nofun, nofun, nofun, nofun, rfl, fun n y hn => by cases hn; decide⟩

theorem primary_name (hc : e.ctx.IsPlain) (h : s.At (.word "native" false) rest)
    (hl : Lexes rest (.word "code" false) rest') : ReadsName rest' (primary e s) := by
  obtain ⟨s', hbump, h'⟩ := bump_at hc h hl (by simp)
  have hneed : need e s = .ok (.word "native" false) s := need_run h.token (nofun) (nofun)
  have hreserved : e.ctx.isReserved "native" = false := by
    simp [Ctx.isReserved, Token.isKeywordName, Token.keywords]
  have hident : ∀ a b, ident a b e s =
      .ok (.node (.ident "native" .unset false) ⟨s.span.lo, s'.prev.hi⟩ []) s' := by
    intro a b
    simp [ident, hneed, hbump, strictWords, Token.isKeywordName, Token.keywords]
  obtain ⟨b, hname⟩ : ∃ b, isName e s' = .ok b s' := isName_ok
  refine ⟨⟨s.span.lo, s'.prev.hi⟩, s', ?_, h'⟩
  simp [primary, hneed, hreserved, primaryName, hident, nameText, Ast.shape, hname, h'.token]

theorem tie_assign_name (hc : c.IsPlain) (hsize : 0 < size) (h : s.At (.word "native" false) rest)
    (hl : Lexes rest (.word "code" false) rest') :
    ReadsName rest' (tie size (n + 3) .assign c s) := by
  have hp a : ReadsName rest' (primary ⟨c, size, tie size n⟩ { s with arrowStart := a }) :=
    primary_name hc (h.withArrow a) hl
  obtain ⟨a, ha⟩ := tie_assign_eq hc hsize h.token heads_native fun a => by
    obtain ⟨sp, s', hr, hs'⟩ := hp a
    rw [hr]
    exact ⟨rfl, by rw [hs'.token]; decide⟩
  exact ha ▸ hp a

/-- No comma stands between the two words of the array. -/
theorem arrayLit_halts (hc : e.ctx.IsPlain) (hsize : 0 < e.size)
    (hagain : e.again = tie e.size (n + 3)) (h : s.At (.punct .lbrack) r₀)
    (h₀ : Lexes r₀ (.word "native" false) r₁) (h₁ : Lexes r₁ (.word "code" false) r₂) :
    Halts (arrayLit e s) := by
  obtain ⟨s₁, hbump, hs₁⟩ := bump_at hc h h₀ (by simp)
  obtain ⟨sp, s₂, hname, hs₂⟩ : ReadsName r₂ (tie e.size (n + 3) .assign
      { e.ctx with includeIn := true } s₁) := tie_assign_name (hc.withIn true) hsize hs₁ h₁
  obtain ⟨k, hk⟩ : ∃ k, e.size = k + 1 := ⟨e.size - 1, by omega⟩
  rw [hk] at hname hagain
  simp [arrayLit, expectP, eatP, h.token, hbump, iterate, hk, repeatStep, hs₁.token, exprOrSpread,
    hagain, hname, hs₂.token, expectText, failHere, P.fail]
  exact halts_at rfl hs₂.token (by decide)

theorem primary_array_halts (hc : e.ctx.IsPlain) (hsize : 0 < e.size)
    (hagain : e.again = tie e.size (n + 3)) (h : s.At (.punct .lbrack) r₀)
    (h₀ : Lexes r₀ (.word "native" false) r₁) (h₁ : Lexes r₁ (.word "code" false) r₂) :
    Halts (primary e s) := by
  have harray := arrayLit_halts (e := { e with ctx := { e.ctx with expectColon := false } })
    (hc.withColon false) hsize hagain h h₀ h₁
  simpa [primary, need_run h.token] using harray

theorem tie_statement_halts (hc : c.IsPlain) (hsize : 0 < size) (h : s.At (.punct .lbrack) r₀)
    (h₀ : Lexes r₀ (.word "native" false) r₁) (h₁ : Lexes r₁ (.word "code" false) r₂)
    (b b' : Bool) :
    Halts (tie size (n + 8) (.statement b b') c s) := by
  obtain ⟨k, rfl⟩ : ∃ k, size = k + 1 := ⟨size - 1, by omega⟩
  have hexpr : Halts (tie (k + 1) (n + 7) .expr c.ofStatement s) :=
    tie_expr_halts hc.ofStatement hsize h (heads_of_opens rfl) fun s hs =>
      primary_array_halts hc.ofStatement hsize rfl hs h₀ h₁
  exact innerItem_halts (e := ⟨c, k + 1, tie (k + 1) (n + 7)⟩) hc h (by decide)
    (by decide) k b hexpr

theorem block_halts (hc : e.ctx.IsPlain) (hsize : 0 < e.size)
    (hagain : e.again = tie e.size (n + 8)) (h : s.At (.punct .lbrace) r₀)
    (hl : Lexes r₀ (.punct .lbrack) r₁) (h₁ : Lexes r₁ (.word "native" false) r₂)
    (h₂ : Lexes r₂ (.word "code" false) r₃) (directives : Bool) :
    Halts (block directives e s) := by
  obtain ⟨s₁, hbump, hs₁⟩ := bump_at hc h hl (nofun)
  obtain ⟨f, s₂, hstmt, hs₂⟩ : Halts
      (tie e.size (n + 8) (.statement true false) e.ctx s₁) :=
    tie_statement_halts hc hsize hs₁ h₁ h₂ true false
  obtain ⟨k, hk⟩ : ∃ k, e.size = k + 1 := ⟨e.size - 1, by omega⟩
  rw [hk] at hstmt hagain
  refine ⟨f, s₂, ?_, hs₂⟩
  simp [block, expectP, eatP, h.token, hbump, bodyItems, iterate, hk, repeatStep, hs₁.token, hagain,
    hstmt]

/-- The tokens of what a built-in function shows in place of its parameters and its body. -/
structure NativeRest (cs : List Char) : Prop where
  lexes : ∃ r₀ r₁ r₂ r₃ r₄, Lexes cs (.punct .rparen) r₀ ∧ Lexes r₀ (.punct .lbrace) r₁ ∧
    Lexes r₁ (.punct .lbrack) r₂ ∧ Lexes r₂ (.word "native" false) r₃ ∧
    Lexes r₃ (.word "code" false) r₄

theorem functionBody_halts (hc : e.ctx.IsPlain) (hsize : 0 < e.size)
    (hagain : e.again = tie e.size (n + 9)) (h : s.At (.punct .lbrace) r₀)
    (hl : Lexes r₀ (.punct .lbrack) r₁) (h₁ : Lexes r₁ (.word "native" false) r₂)
    (h₂ : Lexes r₂ (.word "code" false) r₃) (params : List Ast) :
    Halts (functionBody false false params e s) := by
  have hplain : ({ functionCtx false false false e.ctx with includeIn := true } : Ctx).IsPlain :=
    ⟨hc.1, hc.2, hc.3, rfl⟩
  obtain ⟨f, s', hblock, hs'⟩ : Halts (tie e.size (n + 9) (.block true)
      { functionCtx false false false e.ctx with includeIn := true } s) :=
    block_halts (e := ⟨_, e.size, tie e.size (n + 8)⟩) hplain hsize rfl h hl h₁ h₂ true
  refine ⟨f, s', ?_, hs'⟩
  simp [functionBody, onlyIf, hc.dialect, hagain, hblock]

def paramsInParens : P Ast := do
  expectP .lparen
  let ps ← goal .formalParams
  expectP .rparen
  return ps

theorem paramsInParens_none (hc : e.ctx.IsPlain) (hsize : 0 < e.size)
    (hagain : e.again = tie e.size (n + 1)) (h : s.At (.punct .lparen) r₀)
    (h₀ : Lexes r₀ (.punct .rparen) r₁) (h₁ : Lexes r₁ t r₂) (ht : ∀ w, t ≠ .word w true) :
    ∃ s', paramsInParens e s = .ok (.group []) s' ∧ s'.At t r₂ := by
  obtain ⟨s₁, hbump₁, hs₁⟩ := bump_at hc h h₀ (nofun)
  obtain ⟨s₂, hbump₂, hs₂⟩ := bump_at hc hs₁ h₁ ht
  obtain ⟨k, hk⟩ : ∃ k, e.size = k + 1 := ⟨e.size - 1, by omega⟩
  have hnone : e.again .formalParams e.ctx s₁ = .ok (.group []) s₁ := by
    simp [hagain, hk, tie, ofGoal, formalParams, paramList, iterate, repeatStep, hs₁.token]
  refine ⟨s₂, ?_, hs₂⟩
  simp [paramsInParens, expectP, eatP, h.token, hbump₁, hnone, hs₁.token, hbump₂]

/-- A function from its parameters on, in the context of its head. -/
def functionTail (lo : Nat) (isAsync isGenerator : Bool) (ds : List Ast) : P Ast := do
  let tps ← optTypeParams false true
  let params ← withCtx (fun c =>
    { c with inParameters := true, inFunction := false }) paramsInParens
  let ret ← if (← isTypeScript) && (← isP .colon) then goal (.returnType false) else pure .absent
  let body ← functionBody isAsync isGenerator params.items
  if body.isAbsent then
    params.items.forM fun p => do
      if let .node .param _ [_, .node .assignPat sp _] := p then emit .optionalArrow sp
  mk (.function isAsync isGenerator) lo [params, .group ds, body, tps, ret]

theorem functionRest_eq (lo : Nat) (isAsync isGenerator : Bool) (ds : List Ast) :
    functionRest lo isAsync isGenerator ds =
      withCtx (fun c => { c with inAsync := isAsync, inGenerator := isGenerator })
        (functionTail lo isAsync isGenerator ds) := rfl

theorem functionTail_halts (hc : e.ctx.IsPlain) (hsize : 0 < e.size)
    (hagain : e.again = tie e.size (n + 9)) (h : s.At (.punct .lparen) rest)
    (hrest : NativeRest rest) (lo : Nat) (ds : List Ast) :
    Halts (functionTail lo false false ds e s) := by
  obtain ⟨r₀, r₁, r₂, r₃, r₄, hl₀, hl₁, hl₂, hl₃, hl₄⟩ := hrest.lexes
  have hparams : ({ e.ctx with inParameters := true, inFunction := false } : Ctx).IsPlain :=
    ⟨hc.1, hc.2, hc.3, hc.4⟩
  obtain ⟨s₁, hnone, hs₁⟩ := paramsInParens_none
    (e := { e with ctx := { e.ctx with inParameters := true, inFunction := false } })
    hparams hsize hagain h hl₀ hl₁ (nofun)
  obtain ⟨f, s₂, hbody, hs₂⟩ := functionBody_halts hc hsize hagain hs₁ hl₂ hl₃ hl₄ []
  have hitems : (Ast.group []).items = [] := rfl
  refine ⟨f, s₂, ?_, hs₂⟩
  simp [functionTail, optTypeParams, hc.isTypeScript, hnone, hitems, hbody]

theorem functionRest_halts_body (hc : e.ctx.IsPlain) (hsize : 0 < e.size)
    (hagain : e.again = tie e.size (n + 9)) (h : s.At (.punct .lparen) rest)
    (hrest : NativeRest rest) (lo : Nat) (ds : List Ast) :
    Halts (functionRest lo false false ds e s) := by
  rw [functionRest_eq, withCtx_run]
  exact functionTail_halts
    (e := { e with ctx := { e.ctx with inAsync := false, inGenerator := false } })
    ⟨hc.1, hc.2, hc.3, rfl⟩ hsize hagain h hrest lo ds

/-- Where the parentheses of a function should stand, there is something else. -/
theorem functionRest_fails_head {Q : State → Prop} (hc : e.ctx.IsPlain)
    (h : s.token ≠ .punct .lparen) (heof : s.token ≠ .eof) (hQ : Q s) (lo : Nat)
    (isAsync isGenerator : Bool) (ds : List Ast) :
    Fails Q (functionRest lo isAsync isGenerator ds e s) := by
  have hexpect : ∀ e, Fails Q (expectP .lparen e s) := by
    intro e
    simp only [expectP, eatP, bind_run, isP_run, beq_iff_eq, h, if_false, ite_run,
      pure_run, expectText, cur_run, failHere, P.fail, get_run, Bool.false_eq_true]
    cases ht : s.token with
    | eof => exact absurd ht heof
    | _ => exact ⟨_, s, rfl, hQ⟩
  obtain ⟨f, s', hparams, hs'⟩ := Fails.bind (hexpect { e with ctx := { e.ctx with
    inAsync := isAsync, inGenerator := isGenerator, inParameters := true, inFunction := false } })
    fun _ => do
      let ps ← goal .formalParams
      expectP .rparen
      return ps
  refine ⟨f, s', ?_, hs'⟩
  rw [functionRest_eq, withCtx_run]
  simp only [functionTail, bind_run, optTypeParams, isTypeScript_run, hc.isTypeScript, isP_run,
    Bool.false_and, Bool.false_eq_true, if_false, ite_run, pure_run, withCtx_run]
  rw [show paramsInParens _ s = .error f s' from hparams]

end Body

/-! ## The function -/

section Function

variable {size n : Nat} {c : Ctx} {e : Env} {s : State} {t : Token} {rest a name : List Char}

/-- A word that is read as one token.  That it does not start with a blank is said besides, so that
    the table of starts need not be searched. -/
structure IsWord (w : List Char) : Prop where
  starts : ∃ c cs, w = c :: cs ∧ isWordStart c = true ∧ isLineEnd c = false ∧ isBlank c = false
  parts : ∀ c ∈ w, isWordPart c = true

theorem lexes_isWord {w : List Char} (ha : Blank a) (hw : IsWord w) (h : WordEnds rest) :
    Lexes (a ++ (w ++ rest)) (.word (String.ofList w) false) rest := by
  obtain ⟨x, cs, rfl, hstart, hend, hblank⟩ := hw.starts
  have hmark : x ∉ ['/', '<', '-', '=', '>'] := by
    have hall : ∀ x ∈ ['/', '<', '-', '=', '>'], isWordStart x = false := by decide
    intro hx
    rw [hall x hx] at hstart
    cases hstart
  exact lexes_of_readToken ha (startsToken_cons _ hmark hend hblank) (nofun)
    fun p => ⟨_, readToken_word hstart hw.parts h p⟩

/-- The names that functions are given: none, a word, a symbol in brackets, and any of them behind
    words such as `bound` and `get`. -/
inductive NativeName : List Char → Prop
  | anonymous : NativeName []
  | word {w : List Char} : IsWord w → NativeName w
  | symbol (rest : List Char) : NativeName ('[' :: rest)
  | marked {w name : List Char} : IsWord w → String.ofList w ∉ operatorWords → NativeName name →
      NativeName (w ++ ' ' :: name)

/-- What stands behind the opening parenthesis in the text of a built-in function, up to the end of
    what is read. -/
def nativeRest : List Char := ") \x7b [native code] \x7d".toList ++ closing

theorem nativeRest_lexes : NativeRest nativeRest := by
  have hends : ∀ {x : Char} {r : List Char}, x ∈ endMarks → WordEnds (x :: r) := fun hx =>
    Ends.wordEnds ⟨_, hx, _, rfl⟩
  refine ⟨_, _, _, _, _, lexes_mark (a := []) (c := ')') .nil (by decide) _,
    lexes_mark (a := [' ']) (c := '\x7b') (by decide) (by decide) _,
    lexes_mark (a := [' ']) (c := '[') (by decide) (by decide) _,
    lexes_isWord (a := []) (w := "native".toList) .nil ?_ (hends (x := ' ') (by decide)),
    lexes_isWord (a := [' ']) (w := "code".toList) (by decide) ?_ (hends (x := ']') (by decide))⟩
  · exact ⟨⟨'n', _, rfl, by decide, by decide, by decide⟩, by decide⟩
  · exact ⟨⟨'c', _, rfl, by decide, by decide, by decide⟩, by decide⟩

/-- Reading cannot go on here: no operand is made up, or one is made up for an operator that has the
    end of the function for its other operand. -/
def Stuck (t : Token) (r : List Char) : Prop :=
  t.halts = true ∨ ∃ w y, w ∈ operatorWords ∧ t = .word w y ∧ r = '(' :: nativeRest

/-- In front of these tokens, the parameters of the function either start or cannot be read. -/
def Opens (t : Token) (r : List Char) : Prop :=
  (t = .punct .lparen ∧ r = nativeRest) ∨ (t ≠ .punct .lparen ∧ t ≠ .eof ∧ Stuck t r)

/-- What is known of the first token of a name, and of the text behind it. -/
structure Leads (t : Token) (r : List Char) : Prop where
  opens : Opens t r
  ne_escaped : ∀ w, t ≠ .word w true
  ne_star : t ≠ .punct (.binary .mul)
  next : ∀ w, t = .word w false →
    ∃ b name, Blank b ∧ NativeName name ∧ r = b ++ (name ++ '(' :: nativeRest)

theorem stuck_word {w : String} {r : List Char} (h : w ∈ operatorWords → r = '(' :: nativeRest) :
    Stuck (.word w false) r := by
  by_cases hw : w ∈ operatorWords
  · exact .inr ⟨w, false, hw, rfl, h hw⟩
  · exact .inl (by simpa [Token.halts] using hw)

theorem lexes_name (ha : Blank a) (h : NativeName name) :
    ∃ t r, Lexes (a ++ (name ++ '(' :: nativeRest)) t r ∧ Leads t r := by
  cases h with
  | anonymous =>
      exact ⟨.punct .lparen, _, lexes_mark ha (by decide) _, .inl ⟨rfl, rfl⟩, nofun, nofun, nofun⟩
  | symbol rest =>
      exact ⟨.punct .lbrack, _, lexes_mark ha (by decide) _, .inr ⟨nofun, nofun, .inl rfl⟩, nofun,
        nofun, nofun⟩
  | word hw =>
      exact ⟨_, _, lexes_isWord ha hw ⟨'(', _, rfl, by decide, by decide⟩,
        .inr ⟨nofun, nofun, stuck_word fun _ => rfl⟩, by simp, nofun,
        fun _ _ => ⟨[], [], .nil, .anonymous, rfl⟩⟩
  | @marked w name' hw hfree hname =>
      rw [List.append_assoc, List.cons_append]
      exact ⟨_, _, lexes_isWord ha hw ⟨' ', _, rfl, by decide, by decide⟩,
        .inr ⟨nofun, nofun, stuck_word fun hop => absurd hop hfree⟩, by simp, nofun,
        fun _ _ => ⟨[' '], name', by decide, hname, rfl⟩⟩

/-- A name that is read leads to what stands behind it, any other token stays where it is. -/
theorem optBindingIdent_opens (hc : e.ctx.IsPlain) (h : s.At t rest) (ht : Leads t rest) :
    ∃ y s' t' rest', optBindingIdent false false e s = .ok y s' ∧ s'.At t' rest' ∧
        Opens t' rest' := by
  have hnone : (∀ w, t = .word w false → e.ctx.isReserved w = true) →
      ∃ y s' t' rest', optBindingIdent false false e s = .ok y s' ∧ s'.At t' rest' ∧
        Opens t' rest' := by
    intro hres
    refine ⟨.absent, s, t, rest, optBindingIdent_none fun w y hw => ?_, h, ht.opens⟩
    rw [h.token] at hw
    cases y with
    | true => exact absurd hw (ht.ne_escaped w)
    | false => exact hres w hw
  cases t with
  | word w y =>
      cases y with
      | true => exact absurd rfl (ht.ne_escaped w)
      | false =>
          cases hw : e.ctx.isReserved w with
          | true => exact hnone fun w' hw' => by cases hw'; exact hw
          | false =>
              obtain ⟨b, name, hb, hname, rfl⟩ := ht.next w rfl
              obtain ⟨t', rest', hl, ht'⟩ := lexes_name hb hname
              obtain ⟨y, s', hopt, hs'⟩ := optBindingIdent_at hc h hl ht'.ne_escaped hw
              exact ⟨y, s', t', rest', hopt, hs', ht'.opens⟩
  | _ => exact hnone (nofun)

theorem functionRest_fails (hc : e.ctx.IsPlain) (hsize : 0 < e.size)
    (hagain : e.again = tie e.size (n + 9)) (h : s.At t rest) (ht : Opens t rest) (lo : Nat)
    (ds : List Ast) :
    Fails (fun s => Stuck s.token s.after.rest) (functionRest lo false false ds e s) := by
  rcases ht with ⟨rfl, rfl⟩ | ⟨hparen, heof, hstuck⟩
  · obtain ⟨f, s', hbody, hs'⟩ := functionRest_halts_body hc hsize hagain h nativeRest_lexes lo ds
    exact ⟨f, s', hbody, .inl hs'⟩
  · rw [← h.token] at hparen heof hstuck
    rw [← h.rest] at hstuck
    exact functionRest_fails_head hc hparen heof hstuck lo false false ds

/-- The text of a built-in function stops at its name or in its body. -/
theorem functionExpr_fails (hc : e.ctx.IsPlain) (hsize : 0 < e.size)
    (hagain : e.again = tie e.size (n + 10)) (hname : NativeName name)
    (h : s.At (.word "function" false) (' ' :: (name ++ '(' :: nativeRest))) (lo : Nat) :
    Fails (fun s => Stuck s.token s.after.rest) (functionExpr lo false e s) := by
  obtain ⟨t, r, hl, ht⟩ := lexes_name (a := [' ']) (by decide) hname
  obtain ⟨s₁, hbump, h₁⟩ := bump_at hc h hl ht.ne_escaped
  obtain ⟨y, s₂, t₂, r₂, hopt, h₂, hopens⟩ := optBindingIdent_opens
    (e := { e with ctx := { e.ctx with
      allowSuper := false, inAsync := false, inGenerator := false } })
    ⟨hc.1, hc.2, hc.3, rfl⟩ h₁ ht
  obtain ⟨f, s₃, hstop, hs₃⟩ : Fails (fun s => Stuck s.token s.after.rest)
      (tie e.size (n + 10) (.functionRest lo false false [])
        { e.ctx with allowSuper := false, inClassField := false, expectColon := false } s₂) :=
    functionRest_fails (e := { e with
      ctx := { e.ctx with allowSuper := false, inClassField := false, expectColon := false }
      again := tie e.size (n + 9) }) ⟨hc.1, hc.2, hc.3, hc.4⟩ hsize rfl h₂ hopens lo []
  have hstar : eatP (.binary .mul) e s₁ = .ok false s₁ := by
    simp [eatP, h₁.token, ht.ne_star]
  refine ⟨f, s₃, ?_, hs₃⟩
  rw [← hagain] at hstop
  dsimp only at hopt hstop
  simp only [functionExpr, bind_run, hbump, hstar, withCtx_run, hopt, goal_run, hstop]

theorem heads_function : (Token.word "function" false).Heads :=
  ⟨nofun, nofun, nofun, nofun, rfl, fun n y hn => by cases hn; decide⟩

theorem primary_function_fails (hc : e.ctx.IsPlain) (hsize : 0 < e.size)
    (hagain : e.again = tie e.size (n + 10)) (hname : NativeName name)
    (h : s.At (.word "function" false) (' ' :: (name ++ '(' :: nativeRest))) :
    Fails (fun s => Stuck s.token s.after.rest) (primary e s) := by
  have hfun := functionExpr_fails hc hsize hagain hname h s.span.lo
  simpa [primary, need_run h.token] using hfun

/-! ## Operands made up -/

theorem parenBody_empty (hc : e.ctx.IsPlain) (hsize : 0 < e.size)
    (h : s.At (.punct .lparen) nativeRest) :
    ∃ s' rest, parenBody e s = .ok ([], none) s' ∧ s'.At (.punct .lbrace) rest := by
  obtain ⟨r₀, r₁, r₂, r₃, r₄, hl₀, hl₁, -⟩ := nativeRest_lexes.lexes
  obtain ⟨k, hk⟩ : ∃ k, e.size = k + 1 := ⟨e.size - 1, by omega⟩
  obtain ⟨s₁, hbump₁, h₁⟩ := bump_at hc h hl₀ (nofun)
  obtain ⟨s₂, hbump₂, h₂⟩ := bump_at hc h₁ hl₁ (nofun)
  refine ⟨s₂, r₁, ?_, h₂⟩
  simp [parenBody, expectP, eatP, h.token, hbump₁, iterate, hk, repeatStep, parenStep,
    h₁.token, hbump₂]

/-- The parentheses of the function are no operand: nothing stands between them. -/
theorem primary_empty_halts (hc : e.ctx.IsPlain) (hsize : 0 < e.size)
    (h : s.At (.punct .lparen) nativeRest) : Halts (primary e s) := by
  obtain ⟨s', rest, hbody, h'⟩ := parenBody_empty (e := { e with ctx := { e.ctx with
    includeIn := true, expectColon := false } }) ((hc.withIn true).withColon false) hsize h
  have hitems : parenItems { e with ctx := { e.ctx with includeIn := true } } s =
      .ok ([], none) s' := by
    rw [parenItems_eq, withCtx_run]
    exact hbody
  have habsent : Ast.absent.isAbsent = true := rfl
  simp [primary, need_run h.token, parenOrArrow, hitems, hc.isTypeScript, habsent, h'.token,
    P.fail]
  exact halts_at rfl h'.token rfl

/-- In front of an operator word an operand is made up, and the other one is missing as well. -/
theorem condExpr_halts_of_stuck (hc : e.ctx.IsPlain) (hin : e.ctx.includeIn = true)
    (hsize : 0 < e.size) (hagain : e.again = tie e.size (n + 2))
    (hunary : Fails (fun s => Stuck s.token s.after.rest) (e.again .unary e.ctx s)) :
    Halts (condExpr e s) := by
  obtain ⟨f, s', hunary, hhalts | ⟨w, y, hw, htoken, hrest⟩⟩ := hunary
  · rw [condExpr_eq hc hsize (hunary ▸ hhalts), hunary]
    exact ⟨f, s', rfl, hhalts⟩
  · have hs' : s'.At (.word w y) ('(' :: nativeRest) := ⟨htoken, hrest⟩
    have hneed : need e s' = .ok (.word w y) s' := by
      simp [need, htoken]
    obtain ⟨_, s₁, hemit, h₁⟩ := emit_at (e := e) hs' .expressionExpected s'.span
    obtain ⟨s₂, hbump, h₂⟩ := bump_at hc h₁
      (lexes_mark (a := []) (q := .lparen) .nil (by decide) nativeRest)
      (by rintro _ ⟨⟩)
    -- behind the operator nothing but empty parentheses stands
    obtain ⟨g, s₃, hright, hs₃⟩ : Halts (e.again .unary e.ctx s₂) := by
      have hempty : Halts (primary ⟨e.ctx, e.size, tie e.size n⟩ s₂) :=
        primary_empty_halts hc hsize h₂
      rw [hagain, tie_unary_eq hc hsize h₂.token (heads_of_opens rfl) hempty.rests]
      exact hempty
    obtain ⟨k, hk⟩ : ∃ k, e.size = k + 1 := ⟨e.size - 1, by omega⟩
    have hbinary : binaryExpr e s = .error g s₃ := by
      simp only [operatorWords, List.mem_cons, List.not_mem_nil, or_false] at hw
      rcases hw with rfl | rfl
      · simp [binaryExpr, hunary, hneed, curSpan, hemit, isArrow, Ast.shape, binaryRest,
          hk, binaryTail, hc.dialect, h₁.token, binaryOp?, hin, BinaryOp.precedence, hbump, hright]
      · simp [binaryExpr, hunary, hneed, curSpan, hemit, isArrow, Ast.shape, binaryRest,
          hk, binaryTail, hc.dialect, h₁.token, binaryOp?, BinaryOp.precedence, hbump, hright]
    exact ⟨g, s₃, by simp [condExpr, hbinary], hs₃⟩

/-! ## Between parentheses -/

theorem tie_assign_function_halts (hc : c.IsPlain) (hin : c.includeIn = true) (hsize : 0 < size)
    (hname : NativeName name)
    (h : s.At (.word "function" false) (' ' :: (name ++ '(' :: nativeRest))) :
    Halts (tie size (n + 13) .assign c s) := by
  have hcond a : Halts (condExpr ⟨c, size, tie size (n + 12)⟩ { s with arrowStart := a }) := by
    have hfails : Fails (fun s => Stuck s.token s.after.rest)
        (primary ⟨c, size, tie size (n + 10)⟩ { s with arrowStart := a }) :=
      primary_function_fails hc hsize rfl hname (h.withArrow a)
    refine condExpr_halts_of_stuck hc hin hsize rfl ?_
    show Fails _ (tie size (n + 12) .unary c _)
    exact tie_unary_eq hc hsize (h.withArrow a).token heads_function hfails.rests ▸ hfails
  obtain ⟨a, ha⟩ : ∃ a, tie size (n + 13) .assign c s = condExpr ⟨c, size, tie size (n + 12)⟩
      { s with arrowStart := a } :=
    assignExpr_eq hc h.token (nofun) (nofun) (isW_of_heads h.token heads_function (by decide))
      fun a => (hcond a).rests
  exact ha ▸ hcond a

theorem parenItem_halts (hc : e.ctx.IsPlain) (hsize : 0 < e.size)
    (hagain : e.again = tie e.size (n + 13)) (hname : NativeName name)
    (h : s.At (.word "function" false) (' ' :: (name ++ '(' :: nativeRest))) :
    Halts (parenItem e s) := by
  have hne : s.token ≠ .punct .ellipsis := by
    rw [h.token]
    nofun
  obtain ⟨b, hisName⟩ : ∃ b, isName e { s with arrowStart := some s.span.lo } = .ok b _ := isName_ok
  obtain ⟨b', hpeek⟩ : ∃ b, peekIsName e { s with arrowStart := some s.span.lo } = .ok b _ :=
    peekIsName_ok
  obtain ⟨f, s', hstop, hs'⟩ : Halts (tie e.size (n + 13) .assign { e.ctx with includeIn := true }
      { s with arrowStart := some s.span.lo }) :=
    tie_assign_function_halts (hc.withIn true) rfl hsize hname (h.withArrow _)
  rw [← hagain] at hstop
  refine ⟨f, s', ?_, hs'⟩
  simp [parenItem, eatModifier, hc.isTypeScript, hpeek, hisName, exprOrSpread, eatP, hne, hstop]

/-- The text that is read for a built-in function, behind the opening parenthesis. -/
def nativeLines (name : List Char) : List Char :=
  '\n' :: ("function ".toList ++ (name ++ '(' :: nativeRest))

theorem lexes_nativeLines (name : List Char) :
    Lexes (nativeLines name) (.word "function" false) (' ' :: (name ++ '(' :: nativeRest)) :=
  lexes_isWord (a := ['\n']) (w := "function".toList) (by decide)
    ⟨⟨'f', _, rfl, by decide, by decide, by decide⟩, by decide⟩
    ⟨' ', _, rfl, by decide, by decide⟩

theorem parenBody_halts (hc : e.ctx.IsPlain) (hsize : 0 < e.size)
    (hagain : e.again = tie e.size (n + 13)) (hname : NativeName name)
    (h : s.At (.punct .lparen) (nativeLines name)) : Halts (parenBody e s) := by
  obtain ⟨s₁, hbump, h₁⟩ := bump_at hc h (lexes_nativeLines name) (by simp)
  obtain ⟨f, s₂, hitem, hs₂⟩ := parenItem_halts hc hsize hagain hname h₁
  obtain ⟨k, hk⟩ : ∃ k, e.size = k + 1 := ⟨e.size - 1, by omega⟩
  have hstep : parenStep ([], none) e s₁ = .error f s₂ := by
    simp [parenStep, h₁.token, hitem]
  refine ⟨f, s₂, ?_, hs₂⟩
  simp [parenBody, expectP, eatP, h.token, hbump, iterate, hk, repeatStep, hstep]

theorem primary_paren_halts (hc : e.ctx.IsPlain) (hsize : 0 < e.size)
    (hagain : e.again = tie e.size (n + 13)) (hname : NativeName name)
    (h : s.At (.punct .lparen) (nativeLines name)) : Halts (primary e s) := by
  obtain ⟨f, s', hbody, hs'⟩ := parenBody_halts (e := { e with ctx := { e.ctx with
    includeIn := true, expectColon := false } })
      ((hc.withIn true).withColon false) hsize hagain hname h
  have hitems : parenItems { e with ctx := { e.ctx with includeIn := true } } s = .error f s' := by
    rw [parenItems_eq, withCtx_run]
    exact hbody
  refine ⟨f, s', ?_, hs'⟩
  simp [primary, need_run h.token, parenOrArrow, hitems]

/-- A file that is the text of a built-in function between parentheses. -/
theorem fileItems_halts (hc : e.ctx.IsPlain) (hsize : 0 < e.size)
    (hagain : e.again = tie e.size (n + 17)) (hname : NativeName name)
    (h : s.At (.punct .lparen) (nativeLines name)) : Halts (fileItems e s) := by
  obtain ⟨k, hk⟩ : ∃ k, e.size = k + 1 := ⟨e.size - 1, by omega⟩
  have hexpr : Halts (e.again .expr e.ctx.ofStatement s) := by
    rw [hagain]
    exact tie_expr_halts hc.ofStatement hsize h (heads_of_opens rfl) fun s hs =>
      primary_paren_halts hc.ofStatement hsize rfl hname hs
  obtain ⟨f, s', hitem, hs'⟩ : Halts (moduleItem true (k + 1) e s) := by
    rw [moduleItem_eq hc h.token (by decide) (by decide)]
    exact exprStmtRest_halts _ _ hexpr
  have hstep : fileStep (k + 1) ([], false, false) e s = .error f s' := by
    simp [fileStep, h.token, hitem]
  refine ⟨f, s', ?_, hs'⟩
  simp [fileItems_eq, iterate, hk, repeatStep, hstep]

theorem parse_native {source : String} (hsource : source.toList = '(' :: nativeLines name)
    (hname : NativeName name) (base : Nat) :
    ∃ fault faults comments, parse .plain source base =
      { tree := none, faults := fault :: faults, comments } := by
  obtain ⟨hs, hparse, -⟩ := parse_start hsource base
  obtain ⟨n, hn⟩ : ∃ n, 100 * (source.toList.length + 2) = n + 17 :=
    ⟨100 * (source.toList.length + 2) - 17, by omega⟩
  obtain ⟨f, s', hitems, -⟩ := fileItems_halts (e := .ofText source.toList) Ctx.isPlain_plain
    (by simp) (congrArg (tie (source.toList.length + 2)) hn) hname hs.toAt
  exact ⟨f, s'.faults.reverse, s'.comments, hparse f s' hitems⟩

end Function

end Inlay.Syntax

namespace Inlay.Workbench

open Syntax

/-- The text of a built-in function is no expression. -/
theorem readExpr_native {name : List Char} (hname : NativeName name) (w : Workbench)
    (file : String) :
    ∃ message w',
      w.readExpr file ("function " ++ String.ofList name ++ "() \x7b [native code] \x7d") =
        (.error (.compile file message none), w') := by
  have hsource : ("(\n" ++ ("function " ++ String.ofList name ++ "() \x7b [native code] \x7d") ++
      "\n)").toList = '(' :: nativeLines name := by
    have hback : "() \x7b [native code] \x7d".toList =
        '(' :: ") \x7b [native code] \x7d".toList := by
      decide
    unfold nativeLines nativeRest
    rw [toList_parenthesised, String.toList_append, String.toList_append,
      String.toList_ofList, hback]
    generalize "function ".toList = front, ") \x7b [native code] \x7d".toList = back
    simp [closing]
  obtain ⟨fault, faults, comments, hparse⟩ := parse_native hsource hname w.next
  unfold readExpr read
  rw [withoutMark_parenthesised]
  dsimp only
  rw [hparse]
  exact ⟨_, _, rfl⟩

end Inlay.Workbench
