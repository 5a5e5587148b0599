import Inlay.Proofs.Json.Token
import Inlay.Syntax.Grammar

/-! # JSON texts as expressions

    A JSON text, read as an expression of the language, is a literal that mirrors the document: the
    same values in the same order, and nothing else. -/

namespace Inlay.Syntax

open Json

/-! ## The literal of a document -/

mutual

def Ast.bare : Ast → Ast
  | .node shape _ parts => .node shape .none (Ast.bareAll parts)

def Ast.bareAll : List Ast → List Ast
  | [] => []
  | t :: ts => t.bare :: Ast.bareAll ts

end

end Inlay.Syntax

namespace Inlay.Json

open Syntax

def stringTree (ps : List Piece) : Ast :=
  .node (.str (String.ofList (decoded ps)) (String.ofList (quoted ps))) .none []

def digitsTree (ds : List Char) : Ast := .node (.num (String.ofList ds)) .none []

mutual

def Doc.tree : Doc → Ast
  | .null => .node .null .none []
  | .bool b => .node (.bool b) .none []
  | .number false ds => digitsTree ds
  | .number true ds => .node (.unary .minus) .none [digitsTree ds]
  | .string ps => stringTree ps
  | .array items => .node .array .none (Doc.trees items)
  | .object ms => .node .object .none (Doc.memberTrees ms)

def Doc.trees : List Doc → List Ast
  | [] => []
  | d :: ds => d.tree :: Doc.trees ds

def Doc.memberTrees : List (List Piece × Doc) → List Ast
  | [] => []
  | (ps, d) :: ms => .node .keyValue .none [stringTree ps, d.tree] :: Doc.memberTrees ms

end

end Inlay.Json

namespace Inlay.Syntax

open Json

/-! ## Running readers -/

namespace P

variable {α β : Type} {env : Env} {s : State}

@[simp ↓] theorem bind_run (m : P α) (f : α → P β) : (m >>= f) env s =
    match m env s with
    | .ok a s' => f a env s'
    | .error e s' => .error e s' := by
  show EStateM.bind (m env) (fun a => f a env) s = _
  unfold EStateM.bind
  cases m env s <;> rfl

@[simp ↓] theorem map_run (f : α → β) (m : P α) : (f <$> m) env s =
    match m env s with
    | .ok a s' => .ok (f a) s'
    | .error e s' => .error e s' := by
  show EStateM.map f (m env) s = _
  unfold EStateM.map
  cases m env s <;> rfl

@[simp] theorem pure_run (a : α) : (pure a : P α) env s = .ok a s := rfl

@[simp] theorem get_run : (get : P State) env s = .ok s s := rfl

@[simp] theorem modify_run (f : State → State) : (modify f : P Unit) env s = .ok ⟨⟩ (f s) := rfl

@[simp] theorem set_run (s' : State) : (set s' : P Unit) env s = .ok ⟨⟩ s' := rfl

@[simp] theorem read_run : (read : P Env) env s = .ok env s := rfl

@[simp] theorem ctx_run : ctx env s = .ok env.ctx s := rfl

@[simp] theorem cur_run : cur env s = .ok s.token s := rfl

@[simp] theorem curPos_run : curPos env s = .ok s.span.lo s := rfl

@[simp] theorem prevSpan_run : prevSpan env s = .ok s.prev s := rfl

@[simp] theorem hadBreak_run : hadBreak env s = .ok s.lineBreak s := rfl

@[simp] theorem isP_run (q : Punct) : isP q env s = .ok (s.token == .punct q) s := rfl

@[simp] theorem peekIsP_run (q : Punct) : peekIsP q env s =
    .ok ((checkEscape env.ctx (s.after.next env.ctx.mode)).token == .punct q) s := rfl

@[simp] theorem isEof_run : isEof env s = .ok (s.token == .eof) s := rfl

@[simp] theorem isTypeScript_run : isTypeScript env s = .ok env.ctx.dialect.isTypeScript s := rfl

@[simp] theorem mk_run (shape : Shape) (lo : Nat) (parts : List Ast) :
    mk shape lo parts env s = .ok (.node shape ⟨lo, s.prev.hi⟩ parts) s := rfl

@[simp] theorem goal_run (g : Goal) : goal g env s = env.again g env.ctx s := rfl

@[simp] theorem withCtx_run (f : Ctx → Ctx) (p : P α) :
    withCtx f p env s = p { env with ctx := f env.ctx } s := rfl

@[simp] theorem withIn_run (b : Bool) (p : P α) :
    withIn b p env s = p { env with ctx := { env.ctx with includeIn := b } } s := rfl

@[simp] theorem recover_run (p : P α) : recover p env s =
    match p env s with
    | .ok a s' => .ok (.ok a) s'
    | .error f s' => .ok (.error f) s' := rfl

@[simp ↓] theorem ite_run {c : Prop} [Decidable c] (a b : P α) :
    (if c then a else b) env s = if c then a env s else b env s := by
  split <;> rfl

end P

/-- A context without types, markup, strict code and generators. -/
structure Ctx.IsPlain (c : Ctx) : Prop where
  dialect : c.dialect = { isTypeScript := false, hasMarkup := false, hasDecorators := false }
  strict : c.strict = false
  inType : c.inType = false
  inGenerator : c.inGenerator = false

theorem Ctx.IsPlain.isTypeScript {c : Ctx} (h : c.IsPlain) : c.dialect.isTypeScript = false := by
  rw [h.dialect]

theorem Ctx.IsPlain.withIn {c : Ctx} (h : c.IsPlain) (b : Bool) :
    ({ c with includeIn := b } : Ctx).IsPlain := ⟨h.1, h.2, h.3, h.4⟩

theorem Ctx.IsPlain.withColon {c : Ctx} (h : c.IsPlain) (b : Bool) :
    ({ c with expectColon := b } : Ctx).IsPlain := ⟨h.1, h.2, h.3, h.4⟩

/-- The state has `t` as its current token with `rest` behind it. -/
structure State.At (s : State) (t : Token) (rest : List Char) : Prop where
  token : s.token = t
  rest : s.after.rest = rest

/-- The state has `t` as its current token with `rest` behind it, and nothing is wrong so far. -/
structure State.Sees (s : State) (t : Token) (rest : List Char) :
    Prop extends State.At s t rest where
  faults : s.faults = []
  moduleFaults : s.moduleFaults = []
  foundModuleItem : s.foundModuleItem = false

theorem State.At.withArrow {s : State} {t : Token} {rest : List Char} (h : s.At t rest)
    (a : Option Nat) : ({ s with arrowStart := a } : State).At t rest := ⟨h.1, h.2⟩

theorem State.Sees.withArrow {s : State} {t : Token} {rest : List Char} (h : s.Sees t rest)
    (a : Option Nat) : ({ s with arrowStart := a } : State).Sees t rest :=
  ⟨h.toAt.withArrow a, h.2, h.3, h.4⟩

theorem Ctx.IsPlain.mode {c : Ctx} (h : c.IsPlain) : c.mode = {} := by
  simp [Ctx.mode, h.dialect, h.strict, h.inType]

namespace P

variable {env : Env} {s : State} {t t' : Token} {rest rest' : List Char}

theorem need_run (h : s.token = t) (heof : t ≠ .eof) (herror : ∀ p sp, t ≠ .error p sp) :
    need env s = .ok t s := by
  simp only [need, bind_run, get_run, h]
  cases t with
  | eof => exact absurd rfl heof
  | error p sp => exact absurd rfl (herror p sp)
  | _ => rfl

theorem isW_run (w : String) (h : s.token = t) (ht : ∀ n e, t = .word n e → n ≠ w) :
    isW w env s = .ok false s := by
  simp only [isW, bind_run, cur_run, h]
  cases t with
  | word n e => simp [pure_run, ht n e rfl]
  | _ => rfl

theorem checkEscape_of_ne (c : Ctx) {x : Lexed} (hx : ∀ w, x.token ≠ .word w true) :
    checkEscape c x = x := by
  unfold checkEscape
  split
  · exact absurd ‹_› (hx _)
  · rfl

/-- Moving on to a token that is read without a fault. -/
theorem bump_eq (hc : env.ctx.IsPlain) (h : s.At t rest) (hl : Lexes rest t' rest')
    (hw : ∀ w, t' ≠ .word w true) :
    ∃ s', bump env s = .ok t s' ∧ s'.At t' rest' ∧ (s.Sees t rest → s'.Sees t' rest') := by
  obtain ⟨htoken, hrest, hf, hm⟩ := hl s.after h.rest
  have hescape := checkEscape_of_ne env.ctx (htoken ▸ hw)
  have hbump : bump env s = .ok t
      { s with
        prev := s.span, before := s.after, token := t', span := (s.after.next {}).span
        lineBreak := (s.after.next {}).lineBreak, after := (s.after.next {}).after } := by
    simp only [bump, bind_run, cur_run, ctx_run, advance, get_run, accept, h.token,
      hc.mode, hescape, set_run, modify_run, pure_run, htoken, hf, hm]
    simp
  exact ⟨_, hbump, ⟨rfl, hrest⟩, fun h => ⟨⟨rfl, hrest⟩, h.2, h.3, h.4⟩⟩

theorem bump_at (hc : env.ctx.IsPlain) (h : s.At t rest) (hl : Lexes rest t' rest')
    (hw : ∀ w, t' ≠ .word w true) : ∃ s', bump env s = .ok t s' ∧ s'.At t' rest' := by
  obtain ⟨s', hbump, h', -⟩ := bump_eq hc h hl hw
  exact ⟨s', hbump, h'⟩

theorem bump_run (hc : env.ctx.IsPlain) (h : s.Sees t rest) (hl : Lexes rest t' rest')
    (hw : ∀ w, t' ≠ .word w true) : ∃ s', bump env s = .ok t s' ∧ s'.Sees t' rest' := by
  obtain ⟨s', hbump, -, h'⟩ := bump_eq hc h.toAt hl hw
  exact ⟨s', hbump, h' h⟩

end P

/-! ## From operands to expressions

    An operand in front of a token that does not go on with it is a whole expression: every level of
    the grammar passes it on, and so does it with a fault that no level mends. -/

/-- Shapes of expressions that do nothing but say a value. -/
def Shape.isInert : Shape → Bool
  | .null | .bool _ | .num _ | .str .. | .array | .object | .keyValue | .unary .minus => true
  | _ => false

/-- Shapes of operands: those that say a value, names, and parentheses. -/
def Shape.isOperand : Shape → Bool
  | .paren | .ident .. => true
  | shape => shape.isInert

def Token.closes : Token → Bool
  | .eof | .punct .comma | .punct .rbrack | .punct .rbrace | .punct .rparen => true
  | _ => false

/-- The tokens with which an operand starts. -/
def Token.opens : Token → Bool
  | .str .. | .num _ | .punct .lbrack | .punct .lbrace | .punct .lparen => true
  | .word w false => w == "null" || w == "true" || w == "false"
  | _ => false

def operatorWords : List String := ["in", "instanceof"]

/-- The tokens that do not go on with an operand. -/
def Token.follows : Token → Bool
  | .word w _ => !operatorWords.contains w
  | t => t.closes

/-- The tokens in front of which no operand that is missing is made up. -/
def Token.halts : Token → Bool
  | .word w _ => !operatorWords.contains w
  | .punct .lbrack | .punct .lbrace => true
  | _ => false

/-- What is known of the tokens that start an operand without an operator. -/
structure Token.Heads (t : Token) : Prop where
  ne_eof : t ≠ .eof
  ne_error : ∀ p sp, t ≠ .error p sp
  ne_increment : t ≠ .punct .increment
  ne_decrement : t ≠ .punct .decrement
  unaryOp : P.unaryOp? t = none
  word : ∀ n y, t = .word n y → n ∉ ["new", "super", "import", "await", "yield"]

/-- Reading has given an operand with the property and stands in front of `t`. -/
def Gives (Q : Ast → Prop) (t : Token) (rest : List Char)
    (r : EStateM.Result Fault State Ast) : Prop :=
  ∃ e s, r = .ok e s ∧ e.shape.isOperand = true ∧ Q e ∧ s.Sees t rest

def Fails {α : Type} (Q : State → Prop) (r : EStateM.Result Fault State α) : Prop :=
  ∃ f s, r = .error f s ∧ Q s

/-- Reading ended with a fault that no reader above mends. -/
def Halts {α : Type} (r : EStateM.Result Fault State α) : Prop :=
  Fails (fun s => s.token.halts = true) r

/-- Reading has given an operand that nothing goes on with, or has failed as said. -/
def Rests (Q : State → Prop) : EStateM.Result Fault State Ast → Prop
  | .ok e s => e.shape.isOperand = true ∧ s.token.follows = true
  | .error _ s => Q s

theorem Fails.rests {Q : State → Prop} {r : EStateM.Result Fault State Ast} (h : Fails Q r) :
    Rests Q r := by
  obtain ⟨f, s, rfl, hs⟩ := h
  exact hs

theorem follows_of_closes {t : Token} (h : t.closes = true) : t.follows = true := by
  cases t with
  | word w y => cases h
  | _ => exact h

theorem Gives.rests {Q : Ast → Prop} {t : Token} {rest : List Char}
    {r : EStateM.Result Fault State Ast} (h : Gives Q t rest r) (ht : t.closes = true) :
    Rests (fun s => s.token.halts = true) r := by
  obtain ⟨e, s, rfl, he, -, hs⟩ := h
  exact ⟨he, hs.token ▸ follows_of_closes ht⟩

namespace P

variable {env : Env} {s : State} {t : Token} {e : Ast} {Q : State → Prop}

theorem isArrow_of_operand (h : e.shape.isOperand = true) : isArrow e = false := by
  obtain ⟨shape, sp, parts⟩ := e
  cases shape <;> first | rfl | cases h

theorem isSuper_of_operand (h : e.shape.isOperand = true) : isSuper e = false := by
  obtain ⟨shape, sp, parts⟩ := e
  cases shape <;> first | rfl | cases h

theorem isImportRef_of_operand (h : e.shape.isOperand = true) : isImportRef e = false := by
  obtain ⟨shape, sp, parts⟩ := e
  cases shape <;> first | rfl | cases h

theorem ne_of_follows (h : t.follows = true) :
    (∀ q ∈ [Punct.lparen, .question, .increment, .decrement, .arrow, .colon, .dot, .lbrack, .semi,
      .backquote], t ≠ .punct q) ∧ (∀ op, t ≠ .punct (.assign op)) ∧ ∀ c, binaryOp? c t = none := by
  cases t with
  | word w y =>
      simp only [Token.follows, operatorWords, List.contains_cons, List.contains_nil, Bool.or_false,
        Bool.not_eq_true', Bool.or_eq_false_iff, beq_eq_false_iff_ne, ne_eq] at h
      refine ⟨nofun, nofun, fun c => ?_⟩
      simp [binaryOp?, h]
  | punct q =>
      have hq : q = .comma ∨ q = .rbrack ∨ q = .rbrace ∨ q = .rparen := by
        cases q <;> first | (simp; done) | cases h
      rcases hq with rfl | rfl | rfl | rfl <;> simp [binaryOp?]
  | _ => exact ⟨nofun, nofun, fun c => rfl⟩

theorem heads_of_opens (h : t.opens = true) : t.Heads := by
  unfold Token.opens at h
  split at h
  case h_6 w =>
    simp only [Bool.or_eq_true, beq_iff_eq] at h
    rcases h with (rfl | rfl) | rfl
    all_goals exact ⟨nofun, nofun, nofun, nofun, rfl, fun n y hn => by cases hn; decide⟩
  case h_7 => cases h
  all_goals exact ⟨nofun, nofun, nofun, nofun, rfl, nofun⟩

theorem isW_of_heads (h : s.token = t) (ht : t.Heads) {w : String}
    (hw : w ∈ ["new", "super", "import", "await", "yield"]) : isW w env s = .ok false s := by
  refine isW_run w h fun n e hn => ?_
  rintro rfl
  exact ht.word n e hn hw

theorem subscripts_of_follows (hc : env.ctx.IsPlain) (hsize : 0 < env.size)
    (hs : s.token.follows = true) (he : e.shape.isOperand = true) (noCall noComputed : Bool) :
    subscripts e noCall noComputed env s = .ok e s := by
  obtain ⟨n, hn⟩ : ∃ n, env.size = n + 1 := ⟨env.size - 1, by omega⟩
  have hsubscript : subscript e.span.lo e noCall noComputed env s = .ok (e, false) s := by
    simp [subscript, typedSubscript, eatP, hc.dialect, (ne_of_follows hs).1, isSuper_of_operand he,
      isImportRef_of_operand he]
  simp [subscripts, iterate, hn, repeatStep, hsubscript]

theorem lhsExpr_eq (hc : env.ctx.IsPlain) (hsize : 0 < env.size) (h : s.token = t) (ht : t.Heads)
    (hp : Rests Q (primary env s)) : lhsExpr primary env s = primary env s := by
  obtain ⟨n, hn⟩ : ∃ n, env.size = n + 1 := ⟨env.size - 1, by omega⟩
  cases hr : primary env s with
  | error f s' => simp [lhsExpr, hc.dialect, isW_of_heads h ht, hn, memberOrNew, hr]
  | ok e s' =>
      rw [hr] at hp
      obtain ⟨he, hs'⟩ := hp
      have hmember : memberOrNew primary (n + 1) env s = .ok e s' := by
        simp [memberOrNew, isW_of_heads h ht, hr, isArrow_of_operand he, hc.dialect,
          subscripts_of_follows hc hsize hs' he]
      have hnew : ∀ sp ps, e ≠ .node .new sp ps := by
        rintro sp ps rfl
        cases he
      obtain ⟨b, hany⟩ : ∃ b, isAnyP [.binary .lt, .binary .shl] env s' = .ok b s' := by
        unfold isAnyP
        simp only [bind_run, cur_run]
        cases s'.token <;> exact ⟨_, rfl⟩
      simp [lhsExpr, hc.dialect, isW_of_heads h ht, hn, hmember, isArrow_of_operand he, hany, hnew,
        (ne_of_follows hs').1]

theorem unaryExpr_eq (hc : env.ctx.IsPlain) (h : s.token = t) (ht : t.Heads)
    (hlhs : Rests Q (env.again .lhs env.ctx s)) : unaryExpr env s = env.again .lhs env.ctx s := by
  cases hr : env.again .lhs env.ctx s with
  | error f s' =>
      simp [unaryExpr, hc.dialect, h, ht.ne_increment, ht.ne_decrement, ht.unaryOp,
        isW_of_heads h ht, hr]
  | ok e s' =>
      rw [hr] at hlhs
      obtain ⟨he, hs'⟩ := hlhs
      simp [unaryExpr, hc.dialect, h, ht.ne_increment, ht.ne_decrement, ht.unaryOp,
        isW_of_heads h ht, hr, isArrow_of_operand he, (ne_of_follows hs').1]

/-- A missing operand is made up in front of an operator only. -/
theorem binaryExpr_halts {f : Fault} {s' : State} (hr : env.again .unary env.ctx s = .error f s')
    (hs' : s'.token.halts = true) : binaryExpr env s = .error f s' := by
  obtain ⟨t, ht⟩ : ∃ t, s'.token = t := ⟨_, rfl⟩
  rw [ht] at hs'
  unfold Token.halts at hs'
  split at hs'
  · simp only [operatorWords, List.contains_cons, List.contains_nil, Bool.or_false,
      Bool.not_eq_true', Bool.or_eq_false_iff, beq_eq_false_iff_ne, ne_eq] at hs'
    simp [binaryExpr, hr, need_run ht, hs']
    rfl
  · simp [binaryExpr, hr, need_run ht]
    rfl
  · simp [binaryExpr, hr, need_run ht]
    rfl
  · cases hs'

theorem condExpr_eq (hc : env.ctx.IsPlain) (hsize : 0 < env.size)
    (hunary : Rests (fun s => s.token.halts = true) (env.again .unary env.ctx s)) :
    condExpr env s = env.again .unary env.ctx s := by
  obtain ⟨n, hn⟩ : ∃ n, env.size = n + 1 := ⟨env.size - 1, by omega⟩
  cases hr : env.again .unary env.ctx s with
  | error f s' =>
      rw [hr] at hunary
      simp [condExpr, binaryExpr_halts hr hunary]
  | ok e s' =>
      rw [hr] at hunary
      obtain ⟨he, hs'⟩ := hunary
      simp [condExpr, binaryExpr, hr, isArrow_of_operand he, binaryRest, hn, binaryTail, hc.dialect,
        (ne_of_follows hs').2.2, eatP, (ne_of_follows hs').1]

theorem finishAssign_of_follows (hs : s.token.follows = true) (lo : Nat) (e : Ast) :
    finishAssign lo e env s = .ok e s := by
  unfold finishAssign
  rw [bind_run, cur_run]
  cases ht : s.token with
  | punct q =>
      cases q with
      | assign op => exact absurd ht ((ne_of_follows hs).2.1 op)
      | _ => rfl
  | _ => rfl

/-- A step that passes an operand on. -/
theorem Rests.bind {m : P Ast} {f : Ast → P Ast} (h : Rests Q (m env s))
    (hf : ∀ e s, s.token.follows = true → f e env s = .ok e s) : (m >>= f) env s = m env s := by
  rw [bind_run]
  cases hm : m env s with
  | ok e s' =>
      rw [hm] at h
      exact hf e s' h.2
  | error _ _ => rfl

theorem assignExpr_eq (hc : env.ctx.IsPlain) (h : s.token = t) (heof : t ≠ .eof)
    (herror : ∀ p sp, t ≠ .error p sp) (hyield : isW "yield" env s = .ok false s)
    (hcond : ∀ a, Rests Q (condExpr env { s with arrowStart := a })) :
    ∃ a, assignExpr env s = condExpr env { s with arrowStart := a } := by
  have hbase : assignExpr env s = assignBase env s := by
    simp [assignExpr, hc.dialect]
  rw [hbase, assignBase, bind_run, ctx_run]
  simp only
  rw [bind_run, hyield]
  simp only [Bool.and_false, Bool.false_eq_true, if_false]
  rw [bind_run, curPos_run]
  simp only
  rw [bind_run, need_run h heof herror]
  simp only
  rw [bind_run, modify_run]
  refine ⟨_, Rests.bind (hcond _) fun e s' hs' => ?_⟩
  cases e.shape
  all_goals first | rfl | exact finishAssign_of_follows hs' _ e

theorem assignExpr_unary (hc : env.ctx.IsPlain) (hsize : 0 < env.size) (h : s.token = t)
    (heof : t ≠ .eof) (herror : ∀ p sp, t ≠ .error p sp) (hyield : isW "yield" env s = .ok false s)
    (hunary : ∀ a, Rests (fun s => s.token.halts = true)
      (env.again .unary env.ctx { s with arrowStart := a })) :
    ∃ a, assignExpr env s = env.again .unary env.ctx { s with arrowStart := a } := by
  have hcond a := condExpr_eq hc hsize (hunary a)
  obtain ⟨a, ha⟩ := assignExpr_eq hc h heof herror hyield fun a => (hcond a).symm ▸ hunary a
  exact ⟨a, ha.trans (hcond a)⟩

end P

/-! ## Values -/

section Values

open P

variable {size n : Nat} {c : Ctx} {s s' : State} {t t' : Token} {rest rest' : List Char}
variable {Q : Ast → Prop}

theorem tie_unary_eq {Q : State → Prop} (hc : c.IsPlain) (hsize : 0 < size) (h : s.token = t)
    (ht : t.Heads) (hp : Rests Q (primary ⟨c, size, tie size n⟩ s)) :
    tie size (n + 2) .unary c s = primary ⟨c, size, tie size n⟩ s := by
  have hlhs : tie size (n + 1) .lhs c s = _ := lhsExpr_eq hc hsize h ht hp
  have hunary : unaryExpr ⟨c, size, tie size (n + 1)⟩ s = tie size (n + 1) .lhs c s :=
    unaryExpr_eq hc h ht (hlhs.symm ▸ hp)
  exact hunary.trans hlhs

/-- An assignment is its first operand, unless an operator stands in front of it or behind it. -/
theorem tie_assign_eq (hc : c.IsPlain) (hsize : 0 < size) (h : s.token = t) (ht : t.Heads)
    (hp : ∀ a, Rests (fun s => s.token.halts = true)
      (primary ⟨c, size, tie size n⟩ { s with arrowStart := a })) :
    ∃ a, tie size (n + 3) .assign c s
        = primary ⟨c, size, tie size n⟩ { s with arrowStart := a } := by
  have hunary a := tie_unary_eq hc hsize (s := { s with arrowStart := a }) h ht (hp a)
  obtain ⟨a, ha⟩ : ∃ a, tie size (n + 3) .assign c s =
      tie size (n + 2) .unary c { s with arrowStart := a } := by
    refine assignExpr_unary hc hsize h ht.ne_eof ht.ne_error
      (isW_of_heads h ht (by decide)) fun a => ?_
    show Rests _ (tie size (n + 2) .unary c _)
    exact (hunary a).symm ▸ hp a
  exact ⟨a, ha.trans (hunary a)⟩

theorem tie_assign_operand (hc : c.IsPlain) (hsize : 0 < size) (h : s.Sees t rest)
    (ht : t.opens = true) (ht' : t'.closes = true)
    (hp : ∀ s : State, s.Sees t rest → Gives Q t' rest' (primary ⟨c, size, tie size n⟩ s)) :
    Gives Q t' rest' (tie size (n + 3) .assign c s) := by
  obtain ⟨a, ha⟩ := tie_assign_eq hc hsize h.token (heads_of_opens ht) fun a =>
    (hp _ (h.withArrow a)).rests ht'
  exact ha ▸ hp _ (h.withArrow a)

theorem tie_assign_minus (hc : c.IsPlain) (hsize : 0 < size)
    (h : s.Sees (.punct (.binary .sub)) rest) {raw : String} {r : List Char}
    (hl : Lexes rest (.num raw) r) (ht' : t'.closes = true)
    (hp : ∀ s : State, s.Sees (.num raw) r → Gives Q t' rest' (primary ⟨c, size, tie size n⟩ s)) :
    Gives (fun e => ∃ sp arg, e = .node (.unary .minus) sp [arg] ∧ Q arg) t' rest'
      (tie size (n + 4) .assign c s) := by
  have hunary : ∀ a, Gives (fun e => ∃ sp arg, e = .node (.unary .minus) sp [arg] ∧ Q arg) t' rest'
      (tie size (n + 3) .unary c { s with arrowStart := a }) := by
    intro a
    have ha := h.withArrow a
    generalize ({ s with arrowStart := a } : State) = s at ha
    obtain ⟨s₁, hbump, h₁⟩ : ∃ s₁, bump ⟨c, size, tie size (n + 2)⟩ s = .ok _ s₁ ∧
      s₁.Sees (.num raw) r := bump_run hc ha hl (nofun)
    obtain ⟨e, s₂, harg, he, hQ, h₂⟩ := hp s₁ h₁
    have htie := tie_unary_eq hc hsize h₁.token (heads_of_opens rfl) ((hp s₁ h₁).rests ht')
    refine ⟨.node (.unary .minus) ⟨s.span.lo, e.span.hi⟩ [e], s₂, ?_, rfl, ⟨_, e, rfl, hQ⟩, h₂⟩
    show unaryExpr ⟨c, size, tie size (n + 2)⟩ s = _
    simp [unaryExpr, hc.dialect, ha.token, unaryOp?, hbump, htie, harg]
  obtain ⟨a, ha⟩ : ∃ a, tie size (n + 4) .assign c s =
      tie size (n + 3) .unary c { s with arrowStart := a } :=
    assignExpr_unary hc hsize h.token (nofun) (nofun) (isW_run _ h.token (nofun)) fun a =>
      (hunary a).rests ht'
  exact ha ▸ hunary a

def Token.leaf? : Token → Option Shape
  | .str value raw => some (.str value raw)
  | .num raw => some (.num raw)
  | .word "null" false => some .null
  | .word "true" false => some (.bool true)
  | .word "false" false => some (.bool false)
  | _ => none

theorem closes_ne_word (ht : t.closes = true) (w : String) : t ≠ .word w true := by
  rintro rfl
  cases ht

theorem primary_leaf {env : Env} {shape : Shape} (hc : env.ctx.IsPlain) (h : s.Sees t rest)
    (ht : t.leaf? = some shape) (hl : Lexes rest t' rest') (ht' : t'.closes = true) :
    Gives (fun e => e.bare = .node shape .none []) t' rest' (primary env s) := by
  obtain ⟨s', hbump, h'⟩ := bump_run hc h hl (closes_ne_word ht')
  have hgives : ∀ sp, primary env s = .ok (.node shape sp []) s' → shape.isOperand = true →
      Gives (fun e => e.bare = .node shape .none []) t' rest' (primary env s) := fun sp hp hs =>
    ⟨_, s', hp, hs, by simp [Ast.bare, Ast.bareAll], h'⟩
  unfold Token.leaf? at ht
  split at ht
  all_goals cases ht
  · refine hgives ⟨s.span.lo, s'.prev.hi⟩ ?_ rfl
    simp [primary, literalToken, need_run h.token, hbump]
  · refine hgives ⟨s.span.lo, s'.prev.hi⟩ ?_ rfl
    simp [primary, literalToken, need_run h.token, hbump]
  · refine hgives ⟨s.span.lo, s'.prev.hi⟩ ?_ rfl
    simp [primary, need_run h.token, hbump]
  · refine hgives ⟨s.span.lo, s'.prev.hi⟩ ?_ rfl
    simp [primary, need_run h.token, hbump]
  · refine hgives ⟨s.span.lo, s'.prev.hi⟩ ?_ rfl
    simp [primary, need_run h.token, hbump]

/-! ## Texts in front of a reader -/

theorem Lexes.unique {cs r r' : List Char} (h : Lexes cs t r) (h' : Lexes cs t' r') :
    t = t' ∧ r = r' := by
  obtain ⟨ht, hr, -⟩ := h ⟨cs, 0, none, 0, [], []⟩ rfl
  obtain ⟨ht', hr', -⟩ := h' ⟨cs, 0, none, 0, [], []⟩ rfl
  exact ⟨ht.symm.trans ht', hr.symm.trans hr'⟩

/-- The current token is the first of the text. -/
def State.Stands (s : State) (cs : List Char) : Prop := ∃ t r, Lexes cs t r ∧ s.Sees t r

theorem State.Stands.sees {cs r : List Char} (h : s.Stands cs) (hl : Lexes cs t r) :
    s.Sees t r := by
  obtain ⟨t', r', hl', hs⟩ := h
  obtain ⟨rfl, rfl⟩ := hl.unique hl'
  exact hs

/-- The current token neither ends a list nor takes the place of an element. -/
def State.Begun (s : State) : Prop :=
  s.token ≠ .eof ∧ ∀ q ∈ [Punct.comma, .rbrack, .rbrace, .rparen, .ellipsis], s.token ≠ .punct q

def Begins (cs : List Char) : Prop :=
  ∃ t r, Lexes cs t r ∧ (t.opens = true ∨ t = .punct (.binary .sub))

theorem bump_stands {env : Env} (hc : env.ctx.IsPlain) (h : s.Sees t rest)
    (hl : Lexes rest t' rest')
    (hw : ∀ w, t' ≠ .word w true) : ∃ s', bump env s = .ok t s' ∧ s'.Stands rest := by
  obtain ⟨s', hbump, h'⟩ := bump_run hc h hl hw
  exact ⟨s', hbump, t', rest', hl, h'⟩

theorem ends_append {b r : List Char} {x : Char} (hb : Blank b) (hx : x ∈ [',', ']', '\x7d', ')']) :
    Ends (b ++ x :: r) := by
  cases b with
  | nil => exact ⟨x, by revert x; decide, r, rfl⟩
  | cons y b =>
      have hy := mem_blanks (hb y List.mem_cons_self)
      have hall : ∀ y ∈ [' ', '\n', '\t', '\r'], y ∈ endMarks := by decide
      exact ⟨y, hall y hy, b ++ x :: r, rfl⟩

end Values

end Inlay.Syntax

namespace Inlay.Json

open Syntax

theorem numeral_head {ds : List Char} (h : Numeral ds) :
    ∃ d ds', d.isDigit = true ∧ ds = d :: ds' := by
  obtain ⟨hw, hf, he⟩ := h
  cases hw with
  | zero => exact ⟨'0', _, rfl, rfl⟩
  | other hc hz hds => exact ⟨_, _, hc, rfl⟩

theorem begins_text {d : Doc} {t a rest : List Char} (h : d.Text t) (ha : Blank a)
    (hr : Ends rest) : Begins (a ++ (t ++ rest)) := by
  cases h with
  | null | true | false => exact ⟨_, _, lexes_word ha (by decide) hr, .inl rfl⟩
  | @number isNegative ds hds =>
      cases isNegative with
      | false => exact ⟨_, _, lexes_number ha hds hr, .inl rfl⟩
      | true =>
          obtain ⟨d, ds', hd, rfl⟩ := numeral_head hds
          exact ⟨_, _, lexes_minus ha hd _, .inr rfl⟩
  | string hps => exact ⟨_, _, lexes_string ha hps rest, .inl rfl⟩
  | noItems | items => exact ⟨.punct .lbrack, _, lexes_mark ha (by decide) _, .inl rfl⟩
  | noMembers | members => exact ⟨.punct .lbrace, _, lexes_mark ha (by decide) _, .inl rfl⟩

end Inlay.Json
