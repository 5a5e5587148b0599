import Inlay.Proofs.Json.Literal

/-! # JSON values as expressions

    Every text of a document is read as the literal of the document, whatever stands around it: by
    induction on the length of the text, with one step lemma for the items of an array and one for
    the members of an object. -/

namespace Inlay.Json

open Syntax P

/-- The text is read as the literal of the document, with enough fuel, wherever blanks stand before
    it and the end of a value behind it. -/
def ReadsAs (size : Nat) (d : Doc) (t : List Char) : Prop :=
  ∀ (n : Nat) (c : Ctx) (s : State) (a rest : List Char) (t' : Token) (rest' : List Char),
    4 * t.length + 4 ≤ n → c.IsPlain → Blank a → Ends rest → Lexes rest t' rest' →
      t'.closes = true → s.Stands (a ++ (t ++ rest)) →
        Gives (fun e => e.bare = d.tree) t' rest' (tie size n .assign c s)

variable {size n : Nat} {env : Env} {s : State}

theorem ne_of_begins {cs : List Char} (h : Begins cs) (hs : s.Stands cs) : s.Begun := by
  obtain ⟨t, r, hl, ht⟩ := h
  rw [State.Begun, (hs.sees hl).token]
  rcases ht with ht | rfl
  · unfold Token.opens at ht
    split at ht <;> simp_all
  · simp

theorem begins_ne_word {t : Token} (h : t.opens = true ∨ t = .punct (.binary .sub)) (w : String) :
    t ≠ .word w true := by
  rintro rfl
  rcases h with h | h <;> cases h

theorem bump_begins {t : Token} {rest : List Char} (hc : env.ctx.IsPlain) (h : s.Sees t rest)
    (hb : Begins rest) : ∃ s', bump env s = .ok t s' ∧ s'.Stands rest := by
  obtain ⟨t', r, hl, ht⟩ := hb
  exact bump_stands hc h hl (begins_ne_word ht)

/-! ## Elements with commas between them -/

section Elements

variable {α σ ρ : Type}

/-- The text is read as the expression by the reader of elements. -/
def ReadsElement (env : Env) (elem : P Ast) (e : Ast) (t : List Char) : Prop :=
  ∀ (s : State) (a rest : List Char) (t' : Token) (rest' : List Char), Blank a → Ends rest →
    Lexes rest t' rest' → t'.closes = true → s.Stands (a ++ (t ++ rest)) →
      ∃ e' s', elem env s = .ok e' s' ∧ e'.bare = e ∧ s'.Sees t' rest'

/-- The rounds of a loop over elements, up to the mark `q` with `r` behind it: one round takes an
    element and the comma behind it, if there is one, and the last round is in front of the mark. -/
structure Loop (env : Env) (elem : P Ast) (step : σ → P (σ ⊕ ρ)) (put : List Ast → σ)
    (ret : List Ast → ρ) (q : Punct) (r : List Char) (Done : State → Prop) : Prop where
  last : ∀ {s s' : State} {e : Ast} (out : List Ast), s.Begun → elem env s = .ok e s' →
    s'.token = .punct q → step (put out) env s = .ok (.inl (put (e :: out))) s'
  more : ∀ {s s₁ s₂ : State} {e : Ast} (out : List Ast), s.Begun → elem env s = .ok e s₁ →
    s₁.token = .punct .comma → bump env s₁ = .ok (.punct .comma) s₂ → s₂.Begun →
      step (put out) env s = .ok (.inl (put (e :: out))) s₂
  close : ∀ {s : State} (out : List Ast), s.Sees (.punct q) r →
    ∃ s', step (put out) env s = .ok (.inr (ret out.reverse)) s' ∧ Done s'

variable {Item : α → List Char → Prop} {xs : List α} {u r : List Char} {x : Char} {q : Punct}

theorem begins_separated (h : Separated Item xs u)
    (hbegins : ∀ {y a t rest}, Item y t → Blank a → Ends rest → Begins (a ++ (t ++ rest)))
    (hx : x ∈ [',', ']', '\x7d', ')']) (r : List Char) : Begins (u ++ x :: r) := by
  cases h with
  | last ha hy hb =>
      rw [List.append_assoc, List.append_assoc]
      exact hbegins hy ha (ends_append hb hx)
  | cons ha hy hb hxs =>
      rw [List.append_assoc, List.append_assoc, List.append_assoc]
      exact hbegins hy ha (ends_append hb (by decide))

/-- All elements are read, by induction on their number. -/
theorem separated_run {elem : P Ast} {step : σ → P (σ ⊕ ρ)} {put : List Ast → σ}
    {ret : List Ast → ρ} {Done : State → Prop} {tree : α → Ast} (h : Separated Item xs u)
    (hloop : Loop env elem step put ret q r Done)
    (hbegins : ∀ {y a t rest}, Item y t → Blank a → Ends rest → Begins (a ++ (t ++ rest)))
    (hread : ∀ y t, Item y t → t.length ≤ u.length → ReadsElement env elem (tree y) t)
    (hc : env.ctx.IsPlain) (hx : (x, q) ∈ marks) (hends : x ∈ [',', ']', '\x7d', ')'])
    (hq : (Token.punct q).closes = true) (hs : s.Stands (u ++ x :: r)) (k : Nat)
    (hk : xs.length < k) (out : List Ast) :
    ∃ es s', repeatStep step k (put out) env s = .ok (ret (out.reverse ++ es)) s' ∧
      Ast.bareAll es = xs.map tree ∧ Done s' := by
  induction h generalizing s k out with
  | @last y a t b ha hy hb =>
      obtain ⟨k, rfl⟩ := Nat.exists_eq_add_of_le' (show 2 ≤ k from hk)
      have hlen : t.length ≤ (a ++ t ++ b).length := by
        simp only [List.length_append]
        omega
      rw [List.append_assoc, List.append_assoc] at hs
      have hbegun := ne_of_begins (hbegins hy ha (ends_append hb hends)) hs
      obtain ⟨e, s₁, helem, hbare, h₁⟩ := hread y t hy hlen s a _ _ r ha (ends_append hb hends)
        (lexes_mark hb hx r) hq hs
      -- the round behind the last element is in front of the mark
      obtain ⟨s₂, hclose, h₂⟩ := hloop.close (e :: out) h₁
      refine ⟨[e], s₂, ?_, ?_, h₂⟩
      · simp [repeatStep, hloop.last out hbegun helem h₁.token, hclose]
      · simp [Ast.bareAll, hbare]
  | @cons y ys a t b u ha hy hb hys ih =>
      obtain ⟨k, rfl⟩ := Nat.exists_eq_add_of_le' (Nat.one_le_of_lt hk)
      have hlen : (a ++ t ++ b ++ ',' :: u).length = a.length + t.length + b.length
          + u.length + 1 := by
        simp only [List.length_append, List.length_cons]
        omega
      have hcomma : Lexes (b ++ ',' :: (u ++ x :: r)) (.punct .comma) (u ++ x :: r) :=
        lexes_mark hb (by decide) _
      have hnext := begins_separated hys hbegins hends r
      rw [List.append_assoc, List.append_assoc, List.append_assoc] at hs
      have hbegun := ne_of_begins (hbegins hy ha (ends_append hb (by decide))) hs
      obtain ⟨e, s₁, helem, hbare, h₁⟩ := hread y t hy (by omega) s a _ _ _ ha
        (ends_append hb (by decide)) hcomma rfl hs
      -- the round also takes the comma, so the next one starts in front of an element
      obtain ⟨s₂, hbump, h₂⟩ := bump_begins hc h₁ hnext
      obtain ⟨es, s₃, hrun, hall, h₃⟩ := ih (fun y t hy ht => hread y t hy (by omega)) h₂ k
        (Nat.lt_of_succ_lt_succ hk) (e :: out)
      refine ⟨e :: es, s₃, ?_, ?_, h₃⟩
      · simp [repeatStep, hloop.more out hbegun helem h₁.token hbump (ne_of_begins hnext h₂), hrun]
      · simp [Ast.bareAll, hbare, hall]

end Elements

theorem Doc.trees_eq_map (ds : List Doc) : Doc.trees ds = ds.map Doc.tree := by
  induction ds with
  | nil => rfl
  | cons d ds ih => rw [Doc.trees, ih, List.map_cons]

/-- The property of an object for a member. -/
def memberTree (m : List Piece × Doc) : Ast := .node .keyValue .none [stringTree m.1, m.2.tree]

theorem Doc.memberTrees_eq_map (ms : List (List Piece × Doc)) :
    Doc.memberTrees ms = ms.map memberTree := by
  induction ms with
  | nil => rfl
  | cons m ms ih => rw [Doc.memberTrees, ih, List.map_cons, memberTree]

/-! ## Arrays -/

/-- One round of reading the items of an array. -/
def itemStep (out : List Ast) : P (List Ast ⊕ List Ast) := do
  if (← isEof) || (← isP .rbrack) then return .inr out.reverse
  if ← isP .comma then
    let _ ← bump
    return .inl (.node .hole (← prevSpan) [] :: out)
  let e ← withIn true exprOrSpread
  if !(← isP .rbrack) then expectP .comma
  return .inl (e :: out)

theorem arrayLit_eq : arrayLit = (do
    let lo ← curPos
    expectP .lbrack
    let elems ← iterate ([] : List Ast) itemStep
    expectP .rbrack
    mk .array lo elems) := rfl

theorem itemStep_close {r : List Char} (hs : s.Sees (.punct .rbrack) r) (out : List Ast) :
    itemStep out env s = .ok (.inr out.reverse) s := by
  simp [itemStep, hs.token]

theorem items_loop (r : List Char) :
    Loop env (withIn true exprOrSpread) itemStep id id .rbrack r (·.Sees (.punct .rbrack) r) where
  last out hbegun helem h' := by
    obtain ⟨heof, hne⟩ := hbegun
    simp [itemStep, heof, hne, -withIn_run, helem, h']
  more out hbegun helem h₁ hbump _ := by
    obtain ⟨heof, hne⟩ := hbegun
    simp [itemStep, eatP, expectP, heof, hne, -withIn_run, helem, h₁, hbump]
  close out hs := ⟨_, itemStep_close hs out, hs⟩

theorem reads_item {d : Doc} {t : List Char} (hc : env.ctx.IsPlain)
    (hagain : env.again = tie env.size n) (hd : d.Text t) (hread : ReadsAs env.size d t)
    (hn : 4 * t.length + 4 ≤ n) : ReadsElement env (withIn true exprOrSpread) d.tree t := by
  intro s a rest t' rest' ha hends hl ht' hs
  obtain ⟨-, hne⟩ := ne_of_begins (begins_text hd ha hends) hs
  obtain ⟨e, s', htie, -, hbare, h'⟩ :=
    hread n _ s a _ _ _ hn (hc.withIn true) ha hends hl ht' hs
  refine ⟨e, s', ?_, hbare, h'⟩
  simp [exprOrSpread, eatP, hne, hagain, htie]

/-! ## Objects -/

/-- One round of reading the members of an object. -/
def memberStep : List Ast × Option Span →
    P ((List Ast × Option Span) ⊕ (List Ast × Option Span)) := fun (out, comma) => do
  if ← eatP .rbrace then return .inr (out.reverse, comma)
  let t ← objectProp
  if ← isP .rbrace then return .inl (t :: out, none)
  expectP .comma
  if ← isP .rbrace then return .inl (t :: out, some (← prevSpan))
  return .inl (t :: out, none)

theorem objectLit_eq : objectLit = (do
    let lo ← curPos
    withCtx (fun c => { c with expectColon := false }) do
      expectP .lbrace
      let (props, _) ← iterate (([], none) : List Ast × Option Span) memberStep
      mk .object lo props) := rfl

theorem memberStep_close {t : Token} {r rest : List Char} (hc : env.ctx.IsPlain)
    (hs : s.Sees (.punct .rbrace) r) (hl : Lexes r t rest) (ht : t.closes = true) (out : List Ast)
    (comma : Option Span) :
    ∃ s', memberStep (out, comma) env s = .ok (.inr (out.reverse, comma)) s' ∧ s'.Sees t rest := by
  obtain ⟨s', hbump, h'⟩ := bump_run hc hs hl (closes_ne_word ht)
  refine ⟨s', ?_, h'⟩
  simp [memberStep, eatP, hs.token, hbump]

theorem begins_member {m : List Piece × Doc} {a t rest : List Char} (h : Member Doc.Text m t)
    (ha : Blank a) : Begins (a ++ (t ++ rest)) := by
  obtain ⟨hps, -, -, -⟩ := h
  simp only [List.append_assoc]
  exact ⟨_, _, lexes_string ha hps _, .inl rfl⟩

section Members

variable {m : List Piece × Doc} {t : List Char} (hc : env.ctx.IsPlain)
  (hagain : env.again = tie env.size n)

include hc hagain

theorem reads_member (hm : Member Doc.Text m t)
    (hread : ∀ t', m.2.Text t' → t'.length ≤ t.length → ReadsAs env.size m.2 t')
    (hn : 4 * t.length + 4 ≤ n) : ReadsElement env objectProp (memberTree m) t := by
  intro s a rest t' rest' ha hends hl ht' hs
  obtain ⟨hps, hb, hv, hd⟩ := hm
  rename_i ps d b v t
  have hlen : t.length ≤ (quoted ps ++ b ++ ':' :: v ++ t).length := by
    simp only [List.length_append]
    omega
  simp only [List.append_assoc, List.cons_append] at hs
  have hkey := lexes_string ha hps (b ++ ':' :: (v ++ (t ++ rest)))
  have hcolon : Lexes (b ++ ':' :: (v ++ (t ++ rest))) (.punct .colon) (v ++ (t ++ rest)) :=
    lexes_mark hb (by decide) _
  obtain ⟨s₁, hbump₁, h₁⟩ := bump_run hc (hs.sees hkey) hcolon (nofun)
  obtain ⟨s₂, hbump₂, h₂⟩ := bump_begins hc h₁ (begins_text hd hv hends)
  obtain ⟨e, s₃, htie, -, hbare, h₃⟩ :=
    hread t hd hlen n _ s₂ v rest t' rest' (by omega) (hc.withIn true) hv hends hl ht' h₂
  refine ⟨.node .keyValue ⟨s.span.lo, s₃.prev.hi⟩
    [.node (.str (String.ofList (decoded ps)) (String.ofList (quoted ps)))
      ⟨s.span.lo, s₁.prev.hi⟩ [], e], s₃, ?_, ?_, h₃⟩
  · simp [objectProp, eatP, (hs.sees hkey).token, hc.isTypeScript, eatModifier, propName,
      literalToken, need_run (hs.sees hkey).token, hbump₁, h₁.token, hbump₂, hagain, htie]
  · simp [Ast.bare, Ast.bareAll, memberTree, stringTree, hbare]

end Members

theorem members_loop {t : Token} {r rest : List Char} (hc : env.ctx.IsPlain) (hl : Lexes r t rest)
    (ht : t.closes = true) :
    Loop env objectProp memberStep (·, none) (·, none) .rbrace r (·.Sees t rest) where
  last out hbegun helem h' := by
    obtain ⟨-, hne⟩ := hbegun
    simp [memberStep, eatP, hne, helem, h']
  more out hbegun helem h₁ hbump hbegun₂ := by
    obtain ⟨-, hne⟩ := hbegun
    obtain ⟨-, hne₂⟩ := hbegun₂
    simp [memberStep, eatP, expectP, hne, hne₂, helem, h₁, hbump]
  close out hs := memberStep_close hc hs hl ht out none

/-! ## Values -/

section Values

variable {c : Ctx} {t t' : Token} {u r rest rest' : List Char}

/-- An array, once its items are known to be read. -/
theorem primary_array {trees : List Ast} (hc : c.IsPlain) (hs : s.Sees (.punct .lbrack) u)
    (hu : Lexes u t r) (hw : ∀ w, t ≠ .word w true)
    (hitems : ∀ s : State, s.Stands u → ∃ es s',
      repeatStep itemStep size [] ⟨{ c with expectColon := false }, size, tie size n⟩ s
        = .ok es s' ∧
        Ast.bareAll es = trees ∧ s'.Sees (.punct .rbrack) rest)
    (hl : Lexes rest t' rest') (ht' : t'.closes = true) :
    Gives (fun e => e.bare = .node .array .none trees) t' rest'
        (primary ⟨c, size, tie size n⟩ s) := by
  have hc' := hc.withColon false
  obtain ⟨s₁, hbump₁, h₁⟩ : ∃ s₁, bump ⟨{ c with expectColon := false }, size, tie size n⟩ s =
      .ok (.punct .lbrack) s₁ ∧ s₁.Stands u := bump_stands hc' hs hu hw
  obtain ⟨es, s₂, hrun, hbare, h₂⟩ := hitems s₁ h₁
  obtain ⟨s₃, hbump₃, h₃⟩ : ∃ s₃, bump ⟨{ c with expectColon := false }, size, tie size n⟩ s₂ =
      .ok (.punct .rbrack) s₃ ∧ s₃.Sees t' rest' := bump_run hc' h₂ hl (closes_ne_word ht')
  refine ⟨.node .array ⟨s.span.lo, s₃.prev.hi⟩ es, s₃, ?_, rfl, ?_, h₃⟩
  · simp [primary, need_run hs.token, arrayLit_eq, expectP, eatP, hs.token, hbump₁, iterate,
      hrun, h₂.token, hbump₃]
  · simp [Ast.bare, hbare]

/-- An object, once its members are known to be read. -/
theorem primary_object {trees : List Ast} (hc : c.IsPlain) (hs : s.Sees (.punct .lbrace) u)
    (hu : Lexes u t r) (hw : ∀ w, t ≠ .word w true)
    (hmembers : ∀ s : State, s.Stands u → ∃ es s',
      repeatStep memberStep size ([], none) ⟨{ c with expectColon := false }, size, tie size n⟩ s =
          .ok (es, none) s' ∧ Ast.bareAll es = trees ∧ s'.Sees t' rest') :
    Gives (fun e => e.bare = .node .object .none trees) t' rest'
      (primary ⟨c, size, tie size (n + 1)⟩ s) := by
  obtain ⟨s₁, hbump₁, h₁⟩ : ∃ s₁, bump ⟨{ c with expectColon := false }, size, tie size n⟩ s =
      .ok (.punct .lbrace) s₁ ∧ s₁.Stands u := bump_stands (hc.withColon false) hs hu hw
  obtain ⟨es, s₂, hrun, hbare, h₂⟩ := hmembers s₁ h₁
  have hobject : tie size (n + 1) .object c s =
      .ok (.node .object ⟨s.span.lo, s₂.prev.hi⟩ es) s₂ := by
    show objectLit ⟨c, size, tie size n⟩ s = _
    simp [objectLit_eq, expectP, eatP, hs.token, hbump₁, iterate, hrun]
  refine ⟨.node .object ⟨s.span.lo, s₂.prev.hi⟩ es, s₂, ?_, rfl, ?_, h₂⟩
  · simp [primary, need_run hs.token, hobject]
  · simp [Ast.bare, hbare]

end Values

theorem Separated.length_le {α : Type} {Item : α → List Char → Prop} {xs : List α} {t : List Char}
    (h : Separated Item xs t) : xs.length ≤ t.length + 1 := by
  induction h with
  | last _ _ _ => simp
  | cons _ _ _ _ ih =>
      simp only [List.length_append, List.length_cons]
      omega

theorem opens_of_leaf {t : Token} {shape : Shape} (h : t.leaf? = some shape) : t.opens = true := by
  unfold Token.leaf? at h
  split at h <;> first | rfl | cases h

/-! ### One rule of the grammar each -/

section Rules

variable {ds : List Char} {b u : List Char}

theorem reads_leaf {d : Doc} {t : List Char} {tok : Token} {shape : Shape} (hsize : 0 < size)
    (htok : tok.leaf? = some shape) (hd : d.tree = .node shape .none [])
    (hlex : ∀ {a rest}, Blank a → Ends rest → Lexes (a ++ (t ++ rest)) tok rest) :
    ReadsAs size d t := by
  intro n c s a rest t' rest' hn hc ha hends hl ht' hs
  obtain ⟨n, rfl⟩ : ∃ m, n = m + 3 := ⟨n - 3, by omega⟩
  rw [hd]
  exact tie_assign_operand hc hsize (hs.sees (hlex ha hends)) (opens_of_leaf htok) ht' fun _ h =>
    primary_leaf hc h htok hl ht'

theorem reads_number (hsize : 0 < size) (hds : Numeral ds) (isNegative : Bool) :
    ReadsAs size (.number isNegative ds) ((if isNegative then ['-'] else []) ++ ds) := by
  cases isNegative with
  | false => exact reads_leaf hsize rfl rfl fun ha hends => lexes_number ha hds hends
  | true =>
      intro n c s a rest t' rest' hn hc ha hends hl ht' hs
      obtain ⟨n, rfl⟩ : ∃ m, n = m + 4 := ⟨n - 4, by omega⟩
      have hdigits := lexes_number .nil hds hends
      obtain ⟨d, ds', hd, rfl⟩ := numeral_head hds
      obtain ⟨e, s', htie, he, ⟨sp, arg, rfl, hbare⟩, h'⟩ := tie_assign_minus hc hsize
        (hs.sees (lexes_minus ha hd (ds' ++ rest))) hdigits ht'
        fun s h => primary_leaf hc h rfl hl ht'
      exact ⟨_, s', htie, he, by simp [Ast.bare, Ast.bareAll, hbare, Doc.tree, digitsTree], h'⟩

/-- What stands between brackets is left to the reader of operands. -/
theorem reads_bracketed {d : Doc} {x y : Char} {q : Punct} (hx : (x, q) ∈ marks)
    (hq : (Token.punct q).opens = true) (hsize : 0 < size)
    (hp : ∀ (n : Nat) (c : Ctx) (s : State) (rest : List Char) (t' : Token) (rest' : List Char),
      4 * u.length + 8 ≤ n → c.IsPlain → Lexes rest t' rest' → t'.closes = true →
        s.Sees (.punct q) (u ++ y :: rest) →
          Gives (fun e => e.bare = d.tree) t' rest' (primary ⟨c, size, tie size (n + 1)⟩ s)) :
    ReadsAs size d (x :: u ++ [y]) := by
  intro n c s a rest t' rest' hn hc ha hends hl ht' hs
  have hlen : (x :: u ++ [y]).length = u.length + 2 := by simp
  obtain ⟨n, rfl⟩ : ∃ m, n = m + 4 := ⟨n - 4, by omega⟩
  have htext : a ++ (x :: u ++ [y] ++ rest) = a ++ x :: (u ++ y :: rest) := by simp
  rw [htext] at hs
  exact tie_assign_operand hc hsize (hs.sees (lexes_mark ha hx _)) hq ht' fun s h =>
    hp n c s rest t' rest' (by omega) hc hl ht' h

theorem reads_noItems (hsize : 0 < size) (hb : Blank b) :
    ReadsAs size (.array []) ('[' :: b ++ [']']) := by
  refine reads_bracketed (q := .lbrack) (by decide) rfl hsize
    fun n c s rest t' rest' _ hc hl ht' h => ?_
  have hclose : Lexes (b ++ ']' :: rest) (.punct .rbrack) rest := lexes_mark hb (by decide) rest
  refine primary_array hc h hclose (nofun) (fun s hs => ⟨[], s, ?_, rfl, hs.sees hclose⟩) hl ht'
  obtain ⟨m, rfl⟩ : ∃ m, size = m + 1 := ⟨size - 1, by omega⟩
  simp [repeatStep, itemStep_close (hs.sees hclose)]

theorem reads_items {ds : List Doc} (hsize : u.length + 2 < size)
    (hds : Separated Doc.Text ds u)
    (hinner : ∀ d v, Doc.Text d v → v.length ≤ u.length → ReadsAs size d v) :
    ReadsAs size (.array ds) ('[' :: u ++ [']']) := by
  refine reads_bracketed (q := .lbrack) (by decide) rfl (by omega)
    fun n c s rest t' rest' hn hc hl ht' h => ?_
  have hcount := hds.length_le
  obtain ⟨tok, r, hfirst, htok⟩ := begins_separated hds begins_text (x := ']') (by decide) rest
  refine primary_array hc h hfirst (begins_ne_word htok) (fun s hs => ?_) hl ht'
  rw [Doc.trees_eq_map]
  exact separated_run hds (items_loop rest) begins_text
    (fun d v hd hv => reads_item (hc.withColon false) rfl hd (hinner d v hd hv) (by omega))
    (hc.withColon false) (by decide) (by decide) rfl hs size (by omega) []

theorem reads_noMembers (hsize : 0 < size) (hb : Blank b) :
    ReadsAs size (.object []) ('\x7b' :: b ++ ['\x7d']) := by
  refine reads_bracketed (q := .lbrace) (by decide) rfl hsize
    fun n c s rest t' rest' _ hc hl ht' h => ?_
  have hclose : Lexes (b ++ '\x7d' :: rest) (.punct .rbrace) rest := lexes_mark hb (by decide) rest
  refine primary_object hc h hclose (nofun) fun s hs => ?_
  obtain ⟨m, rfl⟩ : ∃ m, size = m + 1 := ⟨size - 1, by omega⟩
  obtain ⟨s', hstep, h'⟩ : ∃ s',
      memberStep ([], none) ⟨{ c with expectColon := false }, m + 1, tie (m + 1) n⟩ s =
        .ok (.inr ([], none)) s' ∧ s'.Sees t' rest' :=
    memberStep_close (hc.withColon false) (hs.sees hclose) hl ht' [] none
  refine ⟨[], s', ?_, rfl, h'⟩
  simp [repeatStep, hstep]

theorem reads_members {ms : List (List Piece × Doc)} (hsize : u.length + 2 < size)
    (hms : Separated (Member Doc.Text) ms u)
    (hinner : ∀ d v, Doc.Text d v → v.length ≤ u.length → ReadsAs size d v) :
    ReadsAs size (.object ms) ('\x7b' :: u ++ ['\x7d']) := by
  refine reads_bracketed (q := .lbrace) (by decide) rfl (by omega)
    fun n c s rest t' rest' hn hc hl ht' h => ?_
  have hcount := hms.length_le
  have hbegins : ∀ {m a t rest}, Member Doc.Text m t → Blank a → Ends rest →
      Begins (a ++ (t ++ rest)) :=
    fun hm ha _ => begins_member hm ha
  obtain ⟨tok, r, hfirst, htok⟩ := begins_separated hms hbegins (x := '\x7d') (by decide) rest
  refine primary_object hc h hfirst (begins_ne_word htok) fun s hs => ?_
  rw [Doc.memberTrees_eq_map]
  exact separated_run hms (members_loop (hc.withColon false) hl ht') hbegins (fun m v hm hv =>
    reads_member (hc.withColon false) rfl hm (fun w hd hw => hinner _ w hd (by omega)) (by omega))
    (hc.withColon false) (by decide) (by decide) rfl hs size (by omega) []

end Rules

/-- Every text of a document is read as its literal. -/
theorem reads_text (size : Nat) {d : Doc} {t : List Char} (hsize : t.length < size) (h : d.Text t) :
    ReadsAs size d t := by
  induction hk : t.length using Nat.strongRecOn generalizing d t with
  | ind k ih =>
      subst hk
      have hpos : 0 < size := by omega
      -- the values inside the text are shorter than it
      have hinner : ∀ u : List Char, u.length < t.length → ∀ d v, Doc.Text d v →
          v.length ≤ u.length → ReadsAs size d v :=
        fun u hu d v hd hv => ih v.length (by omega) (by omega) hd rfl
      cases h with
      | null | true | false =>
          exact reads_leaf hpos rfl rfl fun ha hends => lexes_word ha (by decide) hends
      | @number isNegative ds hds => exact reads_number hpos hds isNegative
      | string hps => exact reads_leaf hpos rfl rfl fun ha _ => lexes_string ha hps _
      | noItems hb => exact reads_noItems hpos hb
      | @items ds u hds =>
          have hlen : ('[' :: u ++ [']']).length = u.length + 2 := by simp
          exact reads_items (by omega) hds (hinner u (by omega))
      | noMembers hb => exact reads_noMembers hpos hb
      | @members ms u hms =>
          have hlen : ('\x7b' :: u ++ ['\x7d']).length = u.length + 2 := by simp
          exact reads_members (by omega) hms (hinner u (by omega))

end Inlay.Json
