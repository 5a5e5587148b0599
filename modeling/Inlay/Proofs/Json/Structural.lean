import Inlay.Invocation
import Inlay.Outcome
import Inlay.Proofs.Json.Value
import Inlay.Proofs.Reading.File
import Inlay.Proofs.Tree

/-! # Exported values

    A value that a fragment exports travels as JSON text.  The text is put between parentheses and
    read as an expression; whatever the check lets through is read without a fault, as the literal
    that mirrors the value, and that literal holds nothing that could run. -/

namespace Inlay.Syntax

open Json P

variable {size n : Nat} {env : Env} {s : State} {d : Doc} {t : List Char}

/-! ## Trees that say a value -/

mutual

/-- Whether the tree holds nothing but literals, and objects and arrays of them. -/
def Ast.isInert : Ast → Bool
  | .node shape _ parts => shape.isInert && Ast.areInert parts

def Ast.areInert : List Ast → Bool
  | [] => true
  | t :: ts => t.isInert && Ast.areInert ts

end

theorem Ast.areInert_iff {ts : List Ast} : Ast.areInert ts = true ↔ ∀ t ∈ ts, t.isInert = true := by
  induction ts with
  | nil => simp [areInert]
  | cons t ts ih => simp [areInert, ih]

theorem Ast.isInert_node {shape : Shape} {sp : Span} {parts : List Ast} :
    (Ast.node shape sp parts).isInert = true ↔
      shape.isInert = true ∧ ∀ t ∈ parts, t.isInert = true := by
  rw [isInert, Bool.and_eq_true, areInert_iff]

theorem Ast.bareAll_eq (ts : List Ast) : Ast.bareAll ts = ts.map Ast.bare := by
  induction ts with
  | nil => rfl
  | cons t ts ih => rw [bareAll, ih, List.map_cons]

theorem Ast.isInert_bare (t : Ast) : t.bare.isInert = t.isInert := by
  induction t using Ast.induction with
  | node shape sp parts ih =>
      rw [bare, bareAll_eq, Bool.eq_iff_iff, isInert_node, isInert_node]
      refine and_congr_right fun _ => ?_
      simp only [List.mem_map, forall_exists_index, and_imp, forall_apply_eq_imp_iff₂]
      exact forall₂_congr fun t ht => by rw [ih t ht]

mutual

/-- Literals of documents say a value and nothing else. -/
theorem isInert_tree : (d : Doc) → d.tree.isInert = true
  | .null => rfl
  | .bool _ => rfl
  | .number false _ => rfl
  | .number true _ => rfl
  | .string _ => rfl
  | .array items => by
      rw [Doc.tree, Ast.isInert, areInert_trees items]
      rfl
  | .object members => by
      rw [Doc.tree, Ast.isInert, areInert_memberTrees members]
      rfl

theorem areInert_trees : (ds : List Doc) → Ast.areInert (Doc.trees ds) = true
  | [] => rfl
  | d :: ds => by rw [Doc.trees, Ast.areInert, isInert_tree d, areInert_trees ds]; rfl

theorem areInert_memberTrees : (ms : List (List Piece × Doc)) →
    Ast.areInert (Doc.memberTrees ms) = true
  | [] => rfl
  | (ps, d) :: ms => by
      have hd := isInert_tree d
      have hms := areInert_memberTrees ms
      simp [Doc.memberTrees, Ast.areInert, Ast.isInert, stringTree, Shape.isInert, hd, hms]

end

theorem isInert_of_bare {e : Ast} (h : e.bare = d.tree) : e.isInert = true := by
  rw [← Ast.isInert_bare, h]
  exact isInert_tree d

/-- No shorthand with a default stands in such a tree. -/
theorem assignProps_inert {e : Ast} (h : e.isInert = true) : assignProps e = [] := by
  induction e using Ast.induction with
  | node shape sp parts ih =>
      obtain ⟨hshape, hparts⟩ := Ast.isInert_node.mp h
      have hall : assignPropsAll parts = [] := by
        clear h
        induction parts with
        | nil => rfl
        | cons t ts iht =>
            rw [assignPropsAll, ih t List.mem_cons_self (hparts t List.mem_cons_self),
              List.nil_append]
            exact iht (fun t ht => ih t (List.mem_cons_of_mem _ ht))
              fun t ht => hparts t (List.mem_cons_of_mem _ ht)
      unfold Shape.isInert at hshape
      split at hshape <;> simp_all [assignProps]

/-! ## Between parentheses -/

theorem State.Stands.withArrow {cs : List Char} (h : s.Stands cs) (a : Option Nat) :
    ({ s with arrowStart := a } : State).Stands cs := by
  obtain ⟨t, r, hl, hs⟩ := h
  exact ⟨t, r, hl, hs.withArrow a⟩

theorem isName_ok : ∃ b, isName env s = .ok b s := by
  unfold isName
  simp only [bind_run, cur_run]
  cases s.token <;> exact ⟨_, rfl⟩

theorem peek_run : peek env s = .ok (checkEscape env.ctx (s.after.next env.ctx.mode)) s := rfl

theorem peekIsName_ok : ∃ b, peekIsName env s = .ok b s := by
  unfold peekIsName
  simp only [bind_run, peek_run]
  cases (checkEscape env.ctx (s.after.next env.ctx.mode)).token <;> exact ⟨_, rfl⟩

theorem peekIsW_ok (w : String) : ∃ b, peekIsW w env s = .ok b s := by
  unfold peekIsW
  simp only [bind_run, peek_run]
  cases (checkEscape env.ctx (s.after.next env.ctx.mode)).token <;> exact ⟨_, rfl⟩

/-- One round of reading what stands between parentheses. -/
def parenStep : List ParenItem × Option Span →
    P ((List ParenItem × Option Span) ⊕ (List ParenItem × Option Span)) := fun (out, comma) => do
  if (← isEof) || (← isP .rparen) then return .inr (out.reverse, comma)
  let item ← parenItem
  if ← isP .rparen then return .inl (item :: out, none)
  expectP .comma
  if ← isP .rparen then return .inl (item :: out, some (← prevSpan))
  return .inl (item :: out, none)

/-- The parentheses with what stands between them. -/
def parenBody : P (List ParenItem × Option Span) := do
  expectP .lparen
  let r ← iterate (([], none) : List ParenItem × Option Span) parenStep
  expectP .rparen
  return r

theorem parenItems_eq : parenItems
    = withCtx (fun c => { c with expectColon := false }) parenBody := rfl

section Parentheses

variable {a b r rest : List Char} {t' : Token} (hc : env.ctx.IsPlain)
  (hagain : env.again = tie env.size n) (hn : 4 * t.length + 4 ≤ n) (hd : d.Text t) (ha : Blank a)
  (hb : Blank b)

include hc hagain hn hd ha hb

theorem parenItem_value (hsize : t.length < env.size)
    (hs : s.Stands (a ++ (t ++ (b ++ ')' :: r)))) :
    ∃ e s', parenItem env s = .ok ⟨e, false⟩ s' ∧ e.shape.isOperand = true ∧ e.bare = d.tree ∧
      s'.Sees (.punct .rparen) r := by
  have hends : Ends (b ++ ')' :: r) := ends_append hb (by decide)
  have hclose : Lexes (b ++ ')' :: r) (.punct .rparen) r := lexes_mark hb (by decide) r
  have hs' := hs.withArrow (some s.span.lo)
  obtain ⟨-, hne⟩ := ne_of_begins (begins_text hd ha hends) hs'
  obtain ⟨x, hname⟩ : ∃ x, isName env { s with arrowStart := some s.span.lo } = .ok x _ := isName_ok
  obtain ⟨y, hpeek⟩ : ∃ y, peekIsName env { s with arrowStart := some s.span.lo } = .ok y _ :=
    peekIsName_ok
  obtain ⟨e, s', htie, he, hbare, h'⟩ := reads_text env.size hsize hd n _ _ a _ _ r hn
    (hc.withIn true) ha hends hclose rfl hs'
  refine ⟨e, s', ?_, he, hbare, h'⟩
  simp [parenItem, eatModifier, hc.isTypeScript, hpeek, hname, exprOrSpread, eatP, hne,
    hagain, htie]

theorem parenBody_value (hsize : t.length + 2 ≤ env.size)
    (hs : s.Sees (.punct .lparen) (a ++ (t ++ (b ++ ')' :: r)))) (hl : Lexes r t' rest)
    (ht' : t'.closes = true) :
    ∃ e s', parenBody env s = .ok ([⟨e, false⟩], none) s' ∧ e.shape.isOperand = true ∧
      e.bare = d.tree ∧ s'.Sees t' rest := by
  have hbegins : Begins (a ++ (t ++ (b ++ ')' :: r))) :=
    begins_text hd ha (ends_append hb (by decide))
  obtain ⟨s₁, hbump₁, h₁⟩ := bump_begins hc hs hbegins
  obtain ⟨heof, hne⟩ := ne_of_begins hbegins h₁
  obtain ⟨e, s₂, hitem, he, hbare, h₂⟩ := parenItem_value hc hagain hn hd ha hb (by omega) h₁
  obtain ⟨s₃, hbump₃, h₃⟩ := bump_run hc h₂ hl (closes_ne_word ht')
  obtain ⟨k, hk⟩ : ∃ k, env.size = k + 2 := ⟨env.size - 2, by omega⟩
  have hfirst : parenStep ([], none) env s₁ = .ok (.inl ([⟨e, false⟩], none)) s₂ := by
    simp [parenStep, heof, hne, hitem, h₂.token]
  have hlast : parenStep ([⟨e, false⟩], none) env s₂ = .ok (.inr ([⟨e, false⟩], none)) s₂ := by
    simp [parenStep, h₂.token]
  refine ⟨e, s₃, ?_, he, hbare, h₃⟩
  simp [parenBody, expectP, eatP, hs.token, hbump₁, iterate, hk, repeatStep, hfirst,
    hlast, h₂.token, hbump₃]

end Parentheses

theorem forM_run {α : Type} {f : α → P PUnit} {as : List α} (h : ∀ a ∈ as, f a env s = .ok ⟨⟩ s) :
    (forM as f : P PUnit) env s = .ok ⟨⟩ s := by
  induction as with
  | nil => rfl
  | cons a as ih =>
      have hrest := ih fun b hb => h b (List.mem_cons_of_mem a hb)
      simp [h a List.mem_cons_self, hrest]

/-- The literal of a document in parentheses. -/
def Ast.IsParen (d : Doc) (e : Ast) : Prop := ∃ sp v, e = .node .paren sp [v] ∧ v.bare = d.tree

section Operands

variable {a b r rest : List Char} {t' : Token} (hd : d.Text t) (ha : Blank a) (hb : Blank b)
  (hs : s.Sees (.punct .lparen) (a ++ (t ++ (b ++ ')' :: r)))) (hl : Lexes r t' rest)
  (ht' : t'.closes = true)

include hd ha hb hs hl ht'

theorem primary_paren (hc : env.ctx.IsPlain) (hagain : env.again = tie env.size n)
    (hn : 4 * t.length + 4 ≤ n) (hsize : t.length + 2 ≤ env.size) :
    Gives (Ast.IsParen d) t' rest (primary env s) := by
  obtain ⟨e, s', hbody, he, hbare, h'⟩ : ∃ e s', parenItems
      { env with ctx := { env.ctx with includeIn := true } } s = .ok ([⟨e, false⟩], none) s' ∧
        e.shape.isOperand = true ∧ e.bare = d.tree ∧ s'.Sees t' rest := by
    rw [parenItems_eq, withCtx_run]
    exact parenBody_value ((hc.withIn true).withColon false) hagain hn hd ha hb hsize hs hl ht'
  refine ⟨.node .paren ⟨s.span.lo, s'.prev.hi⟩ [e], s', ?_, rfl, ⟨_, e, rfl, hbare⟩, h'⟩
  -- the check for a spread is passed over by means of this
  have hspread : ∀ sp x, e ≠ .node .spread sp [x] := by
    rintro sp x rfl
    cases he
  have habsent : Ast.absent.isAbsent = true := rfl
  simp [primary, need_run hs.token, parenOrArrow, hbody, hc.isTypeScript, h'.token, habsent,
    (ne_of_follows (follows_of_closes ht')).1]
  obtain ⟨shape, sp, parts⟩ := e
  obtain ⟨hshape, hparts⟩ := Ast.isInert_node.mp (isInert_of_bare hbare)
  -- only the properties of an object are looked at again
  by_cases hobject : shape = .object
  · subst hobject
    simp only
    rw [forM_run]
    rintro ⟨shape, sp, parts'⟩ hp
    have hprop := (Ast.isInert_node.mp (hparts _ hp)).1
    clear hparts hp hbody hbare hspread
    cases shape <;> first | rfl | cases hprop
  · simp [hobject]

theorem tie_assign_paren {c : Ctx} (hc : c.IsPlain) (hn : 4 * t.length + 7 ≤ n)
    (hsize : t.length + 2 ≤ size) : Gives (Ast.IsParen d) t' rest (tie size n .assign c s) := by
  obtain ⟨m, rfl⟩ : ∃ m, n = m + 3 := ⟨n - 3, by omega⟩
  exact tie_assign_operand hc (by omega) hs rfl ht' fun s hs =>
    primary_paren hd ha hb hs hl ht' hc rfl (by omega) hsize

end Operands

/-! ## Documents one behind the other

    Parentheses around a text pair up with those inside it: a list of documents with `),(` between
    them is, between parentheses, a list of documents that are in parentheses each. -/

/-- The documents of the list, with `),(` between them. -/
inductive Chained : List Doc → List Char → Prop where
  | last {d : Doc} {t : List Char} (hd : d.Text t) : Chained [d] t
  | more {d : Doc} {ds : List Doc} {t u : List Char} (hd : d.Text t) (h : Chained ds u) :
      Chained (d :: ds) (t ++ ')' :: ',' :: '(' :: u)

/-- One document in parentheses, or several with commas between them. -/
inductive Ast.IsChain : List Doc → Ast → Prop where
  | one {d : Doc} {e : Ast} (h : e.IsParen d) : IsChain [d] e
  | more {d : Doc} {ds : List Doc} {es : List Ast} {sp : Span} (hds : ds ≠ [])
      (h : List.Forall₂ Ast.IsParen (d :: ds) es) : IsChain (d :: ds) (.node .seq sp es)

/-- The text behind a text that is read as an expression. -/
def closing : List Char := ['\n', ')']

theorem Chained.length_le {ds : List Doc} {u : List Char} (h : Chained ds u) :
    ds.length ≤ u.length + 1 := by
  induction h with
  | last hd => simp
  | more hd h ih =>
      simp only [List.length_append, List.length_cons]
      omega

theorem lexes_comma (u : List Char) : Lexes (',' :: '(' :: u) (.punct .comma) ('(' :: u) :=
  lexes_mark .nil (by decide) _

/-- One round of reading expressions with commas between them. -/
def commaStep (out : List Ast) : P (List Ast ⊕ List Ast) := do
  if ← eatP .comma then return .inl ((← goal .assign) :: out) else return .inr out.reverse

theorem commaStep_paren {b r rest : List Char} {t' : Token} (hc : env.ctx.IsPlain)
    (hagain : env.again = tie env.size n) (hn : 4 * t.length + 7 ≤ n)
    (hsize : t.length + 2 ≤ env.size) (hd : d.Text t) (hb : Blank b)
    (hs : s.Sees (.punct .comma) ('(' :: (t ++ (b ++ ')' :: r)))) (hl : Lexes r t' rest)
    (ht' : t'.closes = true) (out : List Ast) :
    ∃ e s', commaStep out env s = .ok (.inl (e :: out)) s' ∧ e.IsParen d ∧ s'.Sees t' rest := by
  have hopen : Lexes ('(' :: (t ++ (b ++ ')' :: r))) (.punct .lparen) (t ++ (b ++ ')' :: r)) :=
    lexes_mark .nil (by decide) _
  obtain ⟨s₁, hbump, h₁⟩ := bump_run hc hs hopen (nofun)
  obtain ⟨e, s₂, htie, -, hparen, h₂⟩ :=
    tie_assign_paren (a := []) hd .nil hb h₁ hl ht' hc hn hsize
  refine ⟨e, s₂, ?_, hparen, h₂⟩
  simp [commaStep, eatP, hs.token, hbump, hagain, htie]

theorem commaStep_eof (hs : s.Sees .eof []) (out : List Ast) :
    commaStep out env s = .ok (.inr out.reverse) s := by
  simp [commaStep, eatP, hs.token]

/-- All documents behind the first one are read. -/
theorem commas_run {ds : List Doc} {u : List Char} (h : Chained ds u) (hc : env.ctx.IsPlain)
    (hagain : env.again = tie env.size n) (hn : 4 * u.length + 7 ≤ n)
    (hsize : u.length + 2 ≤ env.size)
    (hs : s.Sees (.punct .comma) ('(' :: (u ++ closing))) (k : Nat)
    (hk : ds.length < k) (out : List Ast) :
    ∃ es s', repeatStep commaStep k out env s = .ok (out.reverse ++ es) s' ∧
      List.Forall₂ Ast.IsParen ds es ∧ s'.Sees .eof [] := by
  induction h generalizing s k out with
  | @last d t hd =>
      obtain ⟨k, rfl⟩ := Nat.exists_eq_add_of_le' (show 2 ≤ k from hk)
      obtain ⟨e, s', hstep, hparen, h'⟩ := commaStep_paren (b := ['\n']) hc hagain hn hsize hd
        (by decide) hs (lexes_eof .nil) rfl out
      refine ⟨[e], s', ?_, .cons hparen .nil, h'⟩
      simp [repeatStep, hstep, commaStep_eof h']
  | @more d ds t u hd h ih =>
      obtain ⟨k, rfl⟩ := Nat.exists_eq_add_of_le' (Nat.one_le_of_lt hk)
      have hlen : (t ++ ')' :: ',' :: '(' :: u).length = t.length + u.length + 3 := by
        simp only [List.length_append, List.length_cons]
        omega
      rw [List.append_assoc] at hs
      obtain ⟨e, s₁, hstep, hparen, h₁⟩ := commaStep_paren (b := []) hc hagain (by omega) (by omega)
        hd .nil hs (lexes_comma _) rfl out
      obtain ⟨es, s₂, hrun, hall, h₂⟩ :=
        ih (by omega) (by omega) h₁ k (Nat.lt_of_succ_lt_succ hk) (e :: out)
      refine ⟨e :: es, s₂, ?_, .cons hparen hall, h₂⟩
      simp [repeatStep, hstep, hrun]

/-- An expression is the first document, or a sequence of all. -/
theorem tie_expr_chain {ds : List Doc} {u : List Char} {c : Ctx} (h : Chained ds u) (hc : c.IsPlain)
    (hn : 4 * u.length + 8 ≤ n) (hsize : u.length + 3 ≤ size)
    (hs : s.Sees (.punct .lparen) ('\n' :: (u ++ closing))) :
    ∃ e s', tie size n .expr c s = .ok e s' ∧ e.IsChain ds ∧ s'.Sees .eof [] := by
  obtain ⟨m, rfl⟩ : ∃ m, n = m + 1 := ⟨n - 1, by omega⟩
  have hblank : Blank ['\n'] := by decide
  show ∃ e s', P.sequence ⟨c, size, tie size m⟩ s = .ok e s' ∧ _
  cases h with
  | @last d t hd =>
      obtain ⟨e, s', htie, -, hparen, h'⟩ :
          Gives (Ast.IsParen d) .eof [] (tie size m .assign c s) :=
        tie_assign_paren hd hblank hblank hs (lexes_eof .nil) rfl hc (by omega) (by omega)
      refine ⟨e, s', ?_, .one hparen, h'⟩
      simp [P.sequence, htie, h'.token]
  | @more d ds t u hd h =>
      have hlen : (t ++ ')' :: ',' :: '(' :: u).length = t.length + u.length + 3 := by
        simp only [List.length_append, List.length_cons]
        omega
      have hcount := h.length_le
      rw [List.append_assoc] at hs
      obtain ⟨e, s₁, htie, -, hparen, h₁⟩ : Gives (Ast.IsParen d) (.punct .comma)
          ('(' :: (u ++ closing)) (tie size m .assign c s) :=
        tie_assign_paren (b := []) hd hblank .nil hs (lexes_comma _) rfl hc (by omega) (by omega)
      -- the comma behind the first document starts the loop
      obtain ⟨es, s₂, hrun, hall, h₂⟩ : ∃ es s',
          repeatStep commaStep size [] ⟨c, size, tie size m⟩ s₁ = .ok es s' ∧
            List.Forall₂ Ast.IsParen ds es ∧ s'.Sees .eof [] :=
        commas_run h hc rfl (by omega) (show u.length + 2 ≤ size by omega) h₁ size (by omega) []
      have hcollect : collect (eatP .comma) (goal .assign) = iterate [] commaStep := rfl
      refine ⟨.node .seq ⟨e.span.lo, s₂.prev.hi⟩ (e :: es), s₂, ?_,
        .more ?_ (.cons hparen hall), h₂⟩
      · simp [P.sequence, htie, h₁.token, hcollect, iterate, hrun]
      · rintro rfl
        cases h

/-! ## Whole texts -/

section Texts

variable {ds : List Doc} {u : List Char} {e : Ast} {s' : State}

theorem shape_of_isChain (he : e.IsChain ds) : e.shape = .paren ∨ e.shape = .seq := by
  cases he with
  | one h =>
      obtain ⟨sp, v, rfl, -⟩ := h
      exact .inl rfl
  | more _ _ => exact .inr rfl

/-- Nothing is wrong with an expression that says values. -/
theorem assignProps_chain (he : e.IsChain ds) : assignProps e = [] := by
  have hparen : ∀ {d e}, Ast.IsParen d e → assignProps e = [] := by
    rintro d e ⟨sp, v, rfl, hbare⟩
    simp [assignProps, assignPropsAll, assignProps_inert (isInert_of_bare hbare)]
  have hall : ∀ {ds es}, List.Forall₂ Ast.IsParen ds es → assignPropsAll es = [] := by
    intro ds es h
    induction h with
    | nil => rfl
    | cons h _ ih => rw [assignPropsAll, hparen h, ih, List.nil_append]
  cases he with
  | one h => exact hparen h
  | more _ h => exact hall h

theorem exprStmtRest_chain {item : P Ast} (lo : Nat) (decorators : List Ast)
    (hexpr : env.again .expr { env.ctx with includeIn := true } s = .ok e s') (he : e.IsChain ds)
    (h' : s'.Sees .eof []) :
    exprStmtRest item lo decorators env s = .ok (.node .exprStmt ⟨lo, s'.prev.hi⟩ [e]) s' := by
  have hend : isEnd env s' = .ok true s' := by
    simp [isEnd, h'.token]
  have hverify : verify e env s' = .ok e s' := by
    simp [verify, assignProps_chain he]
  rcases shape_of_isChain he with hshape | hshape
  all_goals simp [exprStmtRest, hexpr, hshape, hverify, eatEnd, eatP, h'.token, hend]

/-- A statement that starts with a mark, other than a block or an empty one, is an expression. -/
theorem stmtRest_eq {item : P Ast} {q : Punct} (hc : env.ctx.IsPlain) (hs : s.token = .punct q)
    (hbrace : q ≠ .lbrace) (hsemi : q ≠ .semi) (lo : Nat) (includeDecl topLevel : Bool)
    (ds : List Ast) :
    stmtRest item lo includeDecl topLevel ds env s = exprStmtRest item lo ds env s := by
  have hconst : isW "const" env s = .ok false s := isW_run _ hs (nofun)
  obtain ⟨b, hpeek⟩ : ∃ b, peekIsW "enum" env s = .ok b s := peekIsW_ok "enum"
  simp [stmtRest, hc.isTypeScript, hconst, hpeek, need_run hs, hbrace, hsemi]

theorem decorators_run (hc : env.ctx.IsPlain) (b : Bool) : decorators b env s = .ok [] s := by
  simp [decorators, hc.dialect]

/-- The context of an expression that is a statement of a file. -/
def Ctx.ofStatement (c : Ctx) : Ctx :=
  { c with expectColon := false, allowUsing := true, includeIn := true }

theorem Ctx.isPlain_plain : ({ dialect := .plain } : Ctx).IsPlain := ⟨rfl, rfl, rfl, rfl⟩

theorem Ctx.IsPlain.ofStatement {c : Ctx} (h : c.IsPlain) : c.ofStatement.IsPlain :=
  ⟨h.1, h.2, h.3, h.4⟩

theorem moduleItem_eq {q : Punct} (hc : env.ctx.IsPlain) (hs : s.token = .punct q)
    (hbrace : q ≠ .lbrace) (hsemi : q ≠ .semi) (k : Nat) :
    moduleItem true (k + 1) env s = exprStmtRest (moduleItem false k) s.span.lo []
      { env with ctx := { env.ctx with expectColon := false, allowUsing := true } } s := by
  have hword w : isW w env s = .ok false s := isW_run w hs (nofun)
  have hplain : ({ env.ctx with expectColon := false, allowUsing := true } : Ctx).IsPlain :=
    ⟨hc.1, hc.2, hc.3, hc.4⟩
  simp only [moduleItem, bind_run, curPos_run, decorators_run hc, hword, Bool.false_eq_true,
    if_false, ite_run, withCtx_run]
  exact stmtRest_eq hplain hs hbrace hsemi _ _ _ _

/-- One round of reading the items of a file. -/
def fileStep (size : Nat) : List Ast × Bool × Bool → P ((List Ast × Bool × Bool) ⊕ List Ast) :=
  fun (out, strict, isModule) => do
    let change (c : Ctx) : Ctx :=
      { c with strict := c.strict || strict || isModule, isModule := c.isModule || isModule }
    withCtx change do
      if ← isEof then return .inr out.reverse
      let t ← moduleItem true size
      let turnsModule := !isModule && isModuleItem t
      let turnsStrict := out.isEmpty && isUseStrict t
      if turnsModule || turnsStrict then
        withCtx (fun c =>
          { c with strict := true, isModule := c.isModule || turnsModule }) reread
      return .inl (t :: out, strict || turnsStrict, isModule || turnsModule)

theorem fileItems_eq : fileItems = (do
    let size := (← read).size
    iterate (([], false, false) : List Ast × Bool × Bool) (fileStep size)) := rfl

theorem fileItems_chain {rest : List Char} (hc : env.ctx.IsPlain) (hsize : 2 ≤ env.size)
    (hs : s.Sees (.punct .lparen) rest)
    (hexpr : env.again .expr env.ctx.ofStatement s = .ok e s') (he : e.IsChain ds)
    (h' : s'.Sees .eof []) :
    fileItems env s = .ok [.node .exprStmt ⟨s.span.lo, s'.prev.hi⟩ [e]] s' := by
  obtain ⟨k, hk⟩ : ∃ k, env.size = k + 2 := ⟨env.size - 2, by omega⟩
  have hitem : moduleItem true (k + 2) env s
      = .ok (.node .exprStmt ⟨s.span.lo, s'.prev.hi⟩ [e]) s' := by
    rw [moduleItem_eq hc hs.token (by decide) (by decide)]
    exact exprStmtRest_chain _ _ hexpr he h'
  have hstrict : isUseStrict (.node .exprStmt ⟨s.span.lo, s'.prev.hi⟩ [e]) = false := by
    obtain ⟨shape, sp, parts⟩ := e
    rcases shape_of_isChain he with hshape | hshape
    all_goals
      obtain rfl := hshape
      rfl
  have hfirst : fileStep (k + 2) ([], false, false) env s =
      .ok (.inl ([.node .exprStmt ⟨s.span.lo, s'.prev.hi⟩ [e]], false, false)) s' := by
    simp [fileStep, hs.token, hitem, isModuleItem, hstrict, Ast.shape]
  have hlast : ∀ out, fileStep (k + 2) (out, false, false) env s' = .ok (.inr out.reverse) s' := by
    intro out
    simp [fileStep, h'.token]
  simp [fileItems_eq, iterate, hk, repeatStep, hfirst, hlast]

abbrev State.start (base : Nat) (chars : List Char) : State :=
  let cursor : Cursor := { rest := chars, pos := base, lastEnd := base }
  let first := checkEscape { dialect := .plain } (cursor.next {})
  { before := cursor, token := first.token, span := first.span, lineBreak := first.lineBreak
    after := first.after, faults := first.faults.reverse
    moduleFaults := first.moduleFaults.reverse, prev := ⟨base, base⟩ }

theorem State.start_sees {chars r : List Char} {t : Token} (h : Lexes chars t r)
    (hw : ∀ w, t ≠ .word w true) (base : Nat) : (State.start base chars).Sees t r := by
  obtain ⟨htoken, hrest, hf, hm⟩ := h { rest := chars, pos := base, lastEnd := base } rfl
  have hescape := checkEscape_of_ne { dialect := .plain } (htoken ▸ hw)
  refine ⟨⟨?_, ?_⟩, ?_, ?_, rfl⟩
  all_goals simp [hescape, htoken, hrest, hf, hm]

/-- How far reading a text may go. -/
abbrev Env.ofText (chars : List Char) : Env :=
  ⟨{ dialect := .plain }, chars.length + 2, tie (chars.length + 2) (100 * (chars.length + 2))⟩

/-- A text that starts with a parenthesis is read from its start. -/
theorem parse_start {source : String} {r : List Char} (hsource : source.toList = '(' :: r)
    (base : Nat) :
    (State.start base source.toList).Sees (.punct .lparen) r ∧
      (∀ f s, fileItems (.ofText source.toList) (.start base source.toList) = .error f s →
        parse .plain source base =
          { tree := none, faults := f :: s.faults.reverse, comments := s.comments }) ∧
      ∀ t s, fileItems (.ofText source.toList) (.start base source.toList) = .ok [t] s →
        s.Sees .eof [] → isModuleItem t = false →
        parse .plain source base =
          { tree := some (.node (.scriptRoot none) ⟨t.span.lo, s.prev.hi⟩ [t]), faults := []
            comments := s.comments } := by
  have hlex : Lexes source.toList (.punct .lparen) r := by
    rw [hsource]
    exact lexes_mark .nil (by decide) _
  have hshebang : ({ rest := source.toList, pos := base, lastEnd := base } : Cursor).shebang?
      = none := by
    rw [hsource]
    rfl
  have hmode : ({ dialect := .plain } : Ctx).mode = {} := rfl
  refine ⟨State.start_sees hlex (nofun) base, fun f s h => ?_, fun t s h hs ht => ?_⟩
  · unfold parse
    simp only [hshebang, hmode]
    rw [h]
  · unfold parse
    simp only [hshebang, hmode]
    rw [h]
    simp [hs.foundModuleItem, hs.faults, ht]

/-- Everything between the parentheses is read as the literals of the documents. -/
theorem parse_chain (h : Chained ds u) {source : String}
    (hsource : source.toList = '(' :: '\n' :: (u ++ closing)) (base : Nat) :
    ∃ sp sp' e comments, parse .plain source base =
        { tree := some (.node (.scriptRoot none) sp [.node .exprStmt sp' [e]]), faults := []
          comments } ∧ e.IsChain ds := by
  have hlen : source.toList.length = u.length + 4 := by
    rw [hsource]
    simp [closing]
  obtain ⟨hs, -, hparse⟩ := parse_start hsource base
  obtain ⟨e, s', hexpr, he, h'⟩ : ∃ e s', (Env.ofText source.toList).again .expr
      (Ctx.ofStatement { dialect := .plain }) (.start base source.toList) = .ok e s' ∧
        e.IsChain ds ∧ s'.Sees .eof [] :=
    tie_expr_chain h Ctx.isPlain_plain.ofStatement (by omega) (by omega) hs
  have hitems := fileItems_chain Ctx.isPlain_plain (show 2 ≤ source.toList.length + 2 by omega) hs
    hexpr he h'
  exact ⟨_, _, e, _, hparse _ s' hitems h' rfl, he⟩

end Texts

end Inlay.Syntax

namespace Inlay.Json

open Syntax

variable {d : Doc} {a b t : List Char}

/-! ## Blanks at the ends -/

theorem numeral_nonblank {ds : List Char} (h : Numeral ds) :
    ∀ c ∈ ds, Reader.isBlank c = false := by
  have hdigits : ∀ {ds : List Char}, Digits ds → ∀ c ∈ ds, Reader.isBlank c = false := by
    intro ds hds c hc
    have hall : ∀ c ∈ ['0', '1', '2', '3', '4', '5', '6', '7', '8', '9'],
        Reader.isBlank c = false := by
      decide
    exact hall c (mem_digits (hds c hc))
  obtain ⟨hw, hf, he⟩ := h
  intro c hc
  rcases List.mem_append.mp hc with hc | hc
  · rcases List.mem_append.mp hc with hc | hc
    · exact hdigits (whole_digits hw) c hc
    · cases hf with
      | none => cases hc
      | some hds =>
          rcases List.mem_cons.mp hc with rfl | hc
          · decide
          · exact hdigits hds c hc
  · cases he with
    | none => cases hc
    | some hx hs hds =>
        rcases List.mem_cons.mp hc with rfl | hc
        · rcases hx with rfl | rfl <;> decide
        rcases List.mem_append.mp hc with hc | hc
        · rcases hs with rfl | rfl | rfl
          · cases hc
          · rw [List.mem_singleton.mp hc]
            decide
          · rw [List.mem_singleton.mp hc]
            decide
        · exact hdigits hds c hc

/-- A document starts and ends with something else than a blank. -/
theorem text_ends (h : d.Text t) :
    (∃ x r, t = x :: r ∧ Reader.isBlank x = false) ∧
      ∃ y r, t.reverse = y :: r ∧ Reader.isBlank y = false := by
  have hsolid : ∀ {t : List Char}, t ≠ [] → (∀ c ∈ t, Reader.isBlank c = false) →
      (∃ x r, t = x :: r ∧ Reader.isBlank x = false) ∧
        ∃ y r, t.reverse = y :: r ∧ Reader.isBlank y = false := by
    intro t hne hall
    obtain ⟨x, r, hx⟩ := List.exists_cons_of_ne_nil hne
    obtain ⟨y, r', hy⟩ := List.exists_cons_of_ne_nil (List.reverse_ne_nil_iff.mpr hne)
    refine ⟨⟨x, r, hx, hall x ?_⟩, y, r', hy, hall y ?_⟩
    · rw [hx]
      exact List.mem_cons_self
    · rw [← List.mem_reverse, hy]
      exact List.mem_cons_self
  cases h with
  | null | true | false => exact hsolid (by decide) (by decide)
  | @number isNegative ds hds =>
      obtain ⟨x, ds', -, rfl⟩ := numeral_head hds
      refine hsolid (by simp) fun c hc => ?_
      rcases List.mem_append.mp hc with hc | hc
      · cases isNegative with
        | false => cases hc
        | true =>
            rw [List.mem_singleton.mp hc]
            decide
      · exact numeral_nonblank hds c hc
  | string _ | noItems _ | items _ | noMembers _ | members _ =>
      exact ⟨⟨_, _, rfl, by decide⟩, _, _, List.reverse_append, by decide⟩

theorem dropWhile_blank (ha : Blank a) {x : Char} {r : List Char} (hx : Reader.isBlank x = false) :
    (a ++ x :: r).dropWhile Reader.isBlank = x :: r := by
  induction a with
  | nil => simp [hx]
  | cons c a ih =>
      rw [List.cons_append, List.dropWhile_cons_of_pos (ha c List.mem_cons_self)]
      exact ih fun y hy => ha y (List.mem_cons_of_mem c hy)

theorem cut_spelled (ha : Blank a) (h : d.Text t) (hb : Blank b) :
    (((a ++ t ++ b).dropWhile Reader.isBlank).reverse.dropWhile Reader.isBlank).reverse = t := by
  obtain ⟨⟨x, r, hx, hxb⟩, y, r', hy, hyb⟩ := text_ends h
  have hb' : Blank b.reverse := fun c hc => hb c (List.mem_reverse.mp hc)
  rw [List.append_assoc, hx, List.cons_append, dropWhile_blank ha hxb, ← List.cons_append, ← hx,
    List.reverse_append, hy, dropWhile_blank hb' hyb, ← hy, List.reverse_reverse]

end Inlay.Json

namespace Inlay

open Syntax Json

/-! ## Results -/

/-- A tree that says a value holds nothing that an expansion looks for. -/
theorem found_inert (s : Setting) {e : Ast} (h : e.isInert = true) : s.found e = [] := by
  induction e using Ast.induction with
  | node shape sp parts ih =>
      obtain ⟨hshape, hparts⟩ := Ast.isInert_node.mp h
      have hall : s.foundAll parts = [] := by
        clear h
        induction parts with
        | nil => rfl
        | cons t ts iht =>
            rw [Setting.foundAll, ih t List.mem_cons_self (hparts t List.mem_cons_self),
              List.nil_append]
            exact iht (fun t ht => ih t (List.mem_cons_of_mem _ ht))
              fun t ht => hparts t (List.mem_cons_of_mem _ ht)
      have hhere : s.foundAt (.node shape sp parts) = [] := by
        cases shape <;> first | rfl | cases hshape
      rw [Setting.found, hhere, hall, List.nil_append]

/-- The literal of one document, or of a sequence of them. -/
def chainTree : List Doc → Ast
  | [d] => d.tree
  | ds => .node .seq .none (ds.map fun d => .node .paren .none [d.tree])

theorem bare_of_isChain {ds : List Doc} {e : Ast} (h : e.IsChain ds) :
    e.unparen.bare = chainTree ds := by
  have hparen : ∀ {d e}, Ast.IsParen d e → e.bare = .node .paren .none [d.tree] := by
    rintro d e ⟨sp, v, rfl, hbare⟩
    simp [Ast.bare, Ast.bareAll, hbare]
  cases h with
  | one h =>
      obtain ⟨sp, v, rfl, hbare⟩ := h
      exact hbare
  | @more d ds es sp hds h =>
      obtain ⟨d', ds, rfl⟩ := List.exists_cons_of_ne_nil hds
      have hall : es.map Ast.bare = (d :: d' :: ds).map fun d => .node .paren .none [d.tree] := by
        rw [← List.forall₂_eq_eq_eq, List.forall₂_map_left_iff, List.forall₂_map_right_iff]
        exact h.flip.imp fun _ _ => hparen
      rw [chainTree, ← hall, ← Ast.bareAll_eq]
      · rfl
      · simp

/-- Documents between parentheses are read without a fault. -/
theorem readExpr_chain {ds : List Doc} {u : List Char} (h : Chained ds u) (w : Workbench)
    (file : String) :
    ∃ e w', w.readExpr file (String.ofList u) = (.ok e, w') ∧ e.bare = chainTree ds := by
  have hsource : ("(\n" ++ String.ofList u ++ "\n)").toList = '(' :: '\n' :: (u ++ closing) := by
    rw [Workbench.toList_parenthesised, String.toList_ofList]
    rfl
  obtain ⟨sp, sp', e, comments, hparse, he⟩ := parse_chain h hsource w.next
  refine ⟨e.unparen, { texts := ⟨w.next, '(' :: '\n' :: (u ++ closing)⟩ :: w.texts
                       comments := w.comments ++ comments }, ?_, bare_of_isChain he⟩
  unfold Workbench.readExpr Workbench.read
  rw [Workbench.withoutMark_parenthesised]
  dsimp only
  rw [hparse, hsource]

/-- A document between parentheses is read without a fault. -/
theorem readExpr_text {d : Doc} {t : List Char} (hd : d.Text t) (w : Workbench) (file : String) :
    ∃ e w', w.readExpr file (String.ofList t) = (.ok e, w') ∧ e.bare = d.tree :=
  readExpr_chain (.last hd) w file

namespace Outcome

/-- The blanks around a document that passes the check are cut off. -/
theorem ofJson_eq {text : String} {o : Outcome} (h : ofJson text = .ok o) :
    check text = .ok () ∧ ∀ d : Doc, d.Spelled text.toList →
      ∃ t, d.Text t ∧ o = .structural (String.ofList t) := by
  unfold ofJson at h
  cases hcheck : check text with
  | error f =>
      rw [hcheck] at h
      cases h
  | ok u =>
      refine ⟨rfl, fun d hspelled => ?_⟩
      simp only [hcheck, bind, Except.bind, pure, Except.pure, Except.ok.injEq] at h
      generalize text.toList = chars at h hspelled
      obtain ⟨ha, hd, hb⟩ := hspelled
      exact ⟨_, hd, by rw [← h, cut_spelled ha hd hb]⟩

/-- Exported values are total and inert.  A text that is accepted is one JSON document with blanks
    around it, and in every file and whatever was read before, the outcome is an expression.  It is
    the literal that mirrors the document; it holds literals and objects and arrays of them only,
    and so nothing that an expansion would look for. -/
theorem toExpr_structural {text : String} {o : Outcome} (h : ofJson text = .ok o) :
    (∃ d : Doc, d.Spelled text.toList) ∧
      ∀ d : Doc, d.Spelled text.toList → ∀ (span : Span) (file : String) (w : Workbench),
        ∃ e w', o.toExpr span file w = (.ok e, w') ∧ e.bare = d.tree ∧ e.isInert = true ∧
          ∀ s : Setting, s.found e = [] := by
  obtain ⟨hcheck, hall⟩ := ofJson_eq h
  refine ⟨check_spells hcheck, fun d hd span file w => ?_⟩
  obtain ⟨t, ht, rfl⟩ := hall d hd
  obtain ⟨e, w', hread, hbare⟩ := readExpr_text ht w file
  have hinert : e.isInert = true := isInert_of_bare hbare
  refine ⟨e, w', ?_, hbare, hinert, fun s => found_inert s hinert⟩
  unfold toExpr
  dsimp only
  rw [hread]

/-- An object with an array, a negative number and an escape, between blanks. -/
theorem toExpr_structural_object :
    ofJson " \x7b\"a\": [-1.5e3, null, \"x\\u0041\"]\x7d\n" =
        .ok (.structural "\x7b\"a\": [-1.5e3, null, \"x\\u0041\"]\x7d") ∧
      ∃ (d : Doc) (e : Ast) (w : Workbench),
        d.Spelled " \x7b\"a\": [-1.5e3, null, \"x\\u0041\"]\x7d\n".toList ∧
        (structural "\x7b\"a\": [-1.5e3, null, \"x\\u0041\"]\x7d").toExpr .none "a.js" {}
          = (.ok e, w) ∧
        e.bare = d.tree := by
  have hok : ofJson " \x7b\"a\": [-1.5e3, null, \"x\\u0041\"]\x7d\n" =
      .ok (.structural "\x7b\"a\": [-1.5e3, null, \"x\\u0041\"]\x7d") := by
    cbv
  obtain ⟨⟨d, hd⟩, hall⟩ := toExpr_structural hok
  obtain ⟨e, w, he, hbare, -⟩ := hall d hd .none "a.js" {}
  exact ⟨hok, d, e, w, hd, he, hbare⟩

end Outcome

end Inlay
