import Inlay.Proofs.Printing.Careful

/-! # Printing an edited tree

    Two trees are compared that differ in some subtrees.  A comment that printing the first tree
    writes is written as well when the second is printed (`Ast.print_shows`), if it touches no node
    of the subtrees that differ, or a node around them takes it, or the new subtree stands in the
    same place.  At every other node both ask for the comments at the same positions: what the
    printer decides by looking at a part, say whether it is missing, concerns only the part. -/

namespace Inlay.Syntax

def Attached.Other (a b : Attached) : Prop := b ≠ a

def Attached.Any (_ : Attached) : Prop := True

instance (isLeading : Bool) (pos : Nat) : Admits Attached.Any isLeading pos :=
  ⟨fun _ _ _ _ => trivial⟩

instance inside_any (t : Ast) : Inside Attached.Any t := by
  induction t using Ast.induction with
  | node s sp ps ih => exact .node (fun _ _ => trivial) ih

instance (ts : List Ast) : InsideAll Attached.Any ts :=
  insideAll_of_forall fun t _ => inside_any t

/-- The comment touches no node of the tree. -/
abbrev Attached.Misses (a : Attached) (t : Ast) : Prop := Inside a.Other t

theorem misses_node {a : Attached} {s : Shape} {sp : Span} {ps : List Ast} :
    a.Misses (.node s sp ps) ↔ ¬ a.Touches (.node s sp ps) ∧ ∀ t ∈ ps, a.Misses t := by
  refine ⟨fun h => ⟨fun ha => h.touched ha rfl, fun t ht => h.of_mem ht⟩, fun h => ?_⟩
  exact .node (fun b hb heq => h.1 (heq ▸ hb)) h.2

instance (a : Attached) (t : Ast) : Decidable (a.Touches t) :=
  inferInstanceAs (Decidable (0 < a.pos ∧
    if a.isLeading then a.pos = t.span.lo ∨ t.inner? = some a.pos else a.pos = t.span.hi))

mutual

instance decidableMisses (a : Attached) : (t : Ast) → Decidable (a.Misses t)
  | .node _ _ ps =>
      have := decidableMissesAll a ps
      decidable_of_iff _ misses_node.symm

def decidableMissesAll (a : Attached) : (ts : List Ast) → Decidable (∀ t ∈ ts, a.Misses t)
  | [] => .isTrue fun _ h => nomatch h
  | t :: ts =>
      have := decidableMisses a t
      have := decidableMissesAll a ts
      decidable_of_iff _ List.forall_mem_cons.symm

end

/-- The comment stays although the expression `t` is replaced by `t'`: it is directly before or
    directly behind `t'`, which is an expression too.  A name may stand where comments behind it
    are not written, so there it is not behind one. -/
structure Attached.Stays (a : Attached) (t t' : Ast) : Prop where
  pos : 0 < a.pos
  here : a.isLeading = true ∧ a.pos = t'.span.lo ∨
    a.isLeading = false ∧ a.pos = t'.span.hi ∧ W.isName t' = false
  isExpr : W.layoutOf t.shape = .expr
  isExpr' : W.layoutOf t'.shape = .expr
  name : W.isName t = true → W.isName t' = true

/-- Nodes that are written as a whole: what they stand in does not look at their parts. -/
def Ast.isWhole (t : Ast) : Bool :=
  match t.shape, W.layoutOf t.shape with
  | .classDecl _, _ => false
  | .moduleBlock, _ | .switchCase, _ => true
  | _, .type | _, .markup | _, .other => false
  | _, _ => true

def Ast.ownLines (t : Ast) : List Ast :=
  match t.shape, t.parts with
  | .scriptRoot _, ts | .moduleRoot _, ts | .block, ts | .moduleBlock, ts => ts
  | .switchCase, [_, body] => body.items
  | _, _ => []

/-- The comment is behind a statement, at the end of its line. -/
structure Attached.EndsLine (a : Attached) (t : Ast) : Prop where
  pos : 0 < a.pos
  isBehind : a.isLeading = false ∧ a.pos = t.span.hi
  isBlock : W.isBlock t = false
  isExpr : W.layoutOf t.shape ≠ .expr

/-- The comment is written with the node, whatever its parts are: it stands directly before it,
    directly behind it, or behind a statement on one of its lines. -/
structure Attached.TakenBy (a : Attached) (t : Ast) : Prop where
  pos : 0 < a.pos
  whole : t.isWhole = true
  here : a.isLeading = true ∧ a.pos = t.span.lo ∨
    a.isLeading = false ∧ a.pos = t.span.hi ∧ W.keepsTrailing t = true ∨
    ∃ u ∈ t.ownLines, a.EndsLine u

instance (a : Attached) (t : Ast) : Decidable (a.EndsLine t) :=
  decidable_of_iff (0 < a.pos ∧ (a.isLeading = false ∧ a.pos = t.span.hi) ∧ W.isBlock t = false ∧
      W.layoutOf t.shape ≠ .expr)
    ⟨fun ⟨h₁, h₂, h₃, h₄⟩ => ⟨h₁, h₂, h₃, h₄⟩, fun ⟨h₁, h₂, h₃, h₄⟩ => ⟨h₁, h₂, h₃, h₄⟩⟩

instance (a : Attached) (t : Ast) : Decidable (a.TakenBy t) :=
  decidable_of_iff (0 < a.pos ∧ t.isWhole = true ∧ (a.isLeading = true ∧ a.pos = t.span.lo ∨
      a.isLeading = false ∧ a.pos = t.span.hi ∧ W.keepsTrailing t = true ∨
      ∃ u ∈ t.ownLines, a.EndsLine u))
    ⟨fun ⟨h₁, h₂, h₃⟩ => ⟨h₁, h₂, h₃⟩, fun ⟨h₁, h₂, h₃⟩ => ⟨h₁, h₂, h₃⟩⟩

mutual

/-- The second tree is the first with other subtrees in some places, where the comment has not
    been or stays, or which are inside a node that takes it. -/
inductive Kept (a : Attached) : Ast → Ast → Prop where
  | gone {t t' : Ast} (h : a.Misses t) : Kept a t t'
  | stays {t t' : Ast} (h : a.Stays t t') : Kept a t t'
  | taken {s : Shape} {sp : Span} {ps ps' : List Ast} (h : a.TakenBy (.node s sp ps')) :
      Kept a (.node s sp ps) (.node s sp ps')
  | node {s : Shape} {sp : Span} {ps ps' : List Ast} (h : KeptAll a ps ps') :
      Kept a (.node s sp ps) (.node s sp ps')

inductive KeptAll (a : Attached) : List Ast → List Ast → Prop where
  | nil : KeptAll a [] []
  | cons {t t' : Ast} {ts ts' : List Ast} (h : Kept a t t') (hs : KeptAll a ts ts') :
      KeptAll a (t :: ts) (t' :: ts')

end

/-- A comment to look out for, while trees of some depth are printed. -/
structure Watch where
  comment : Attached
  depth : Nat

variable {c : Watch}

/-- The comment does not touch the first tree, or the second comes from it and is printed
    whole. -/
class Rel (c : Watch) (t t' : Ast) : Prop where
  rel : c.comment.Misses t ∨ Kept c.comment t t' ∧ t'.height ≤ c.depth

/-- The parts of one node before and after. -/
class inductive Parts (c : Watch) : List Ast → List Ast → Prop where
  | nil : Parts c [] []
  | cons {t t' : Ast} {ts ts' : List Ast} (h : Rel c t t') (hs : Parts c ts ts') :
      Parts c (t :: ts) (t' :: ts')

/-- Trees with related parts. -/
class Under (c : Watch) (t t' : Ast) : Prop where
  part : ∀ i, Rel c (t.part i) (t'.part i)

/-- Every tree of the first list that the comment touches has its partner in the second. -/
class Lists (c : Watch) (ts ts' : List Ast) : Prop where
  partner : ∀ t ∈ ts, c.comment.Misses t ∨ ∃ t' ∈ ts', Rel c t t'

theorem heights_le {k : Nat} {ts : List Ast} :
    Ast.heights ts ≤ k ↔ ∀ t ∈ ts, t.height ≤ k := by
  induction ts with
  | nil => simp [Ast.heights]
  | cons t ts ih => simp [Ast.heights, ih]

theorem KeptAll.parts {ts ts' : List Ast} (h : KeptAll c.comment ts ts')
    (hk : Ast.heights ts' ≤ c.depth) : Parts c ts ts' := by
  induction ts generalizing ts' with
  | nil => cases h with | nil => exact .nil
  | cons t ts ih =>
      cases h with
      | cons h hs =>
          rw [heights_le] at hk
          exact .cons ⟨.inr ⟨h, hk _ List.mem_cons_self⟩⟩
            (ih hs (heights_le.mpr fun u hu => hk u (List.mem_cons_of_mem _ hu)))

theorem Kept.cases {t t' : Ast} (h : Kept c.comment t t') (hk : t'.height ≤ c.depth + 1) :
    c.comment.Misses t ∨ c.comment.Stays t t' ∨
      ∃ s sp ps ps', t = .node s sp ps ∧ t' = .node s sp ps' ∧
        (c.comment.TakenBy t' ∨ Parts c ps ps') := by
  cases h with
  | gone h => exact .inl h
  | stays h => exact .inr (.inl h)
  | @taken s sp ps ps' h => exact .inr (.inr ⟨s, sp, ps, ps', rfl, rfl, .inl h⟩)
  | @node s sp ps ps' h =>
      rw [Ast.height] at hk
      exact .inr (.inr ⟨s, sp, ps, ps', rfl, rfl, .inr (h.parts (by omega))⟩)

theorem Rel.cases {t t' : Ast} (h : Rel c t t') :
    c.comment.Misses t ∨ c.comment.Stays t t' ∨
      ∃ s sp ps ps', t = .node s sp ps ∧ t' = .node s sp ps' ∧
        (c.comment.TakenBy t' ∨ Parts c ps ps') := by
  rcases h.rel with h | ⟨h, hk⟩
  · exact .inl h
  · exact h.cases (Nat.le_succ_of_le hk)

theorem Parts.getElem? {ps ps' : List Ast} (h : Parts c ps ps') (i : Nat) :
    ps[i]? = none ∧ ps'[i]? = none ∨
      ∃ t t', ps[i]? = some t ∧ ps'[i]? = some t' ∧ Rel c t t' := by
  induction h generalizing i with
  | nil => exact .inl ⟨rfl, rfl⟩
  | @cons t t' ts ts' h hs ih =>
      cases i with
      | zero => exact .inr ⟨t, t', rfl, rfl, h⟩
      | succ i => exact ih i

instance (s : Shape) (sp : Span) (ps ps' : List Ast) [h : Parts c ps ps'] :
    Under c (.node s sp ps) (.node s sp ps') := by
  refine ⟨fun i => ?_⟩
  show Rel c (ps[i]?.getD Ast.absent) (ps'[i]?.getD Ast.absent)
  rcases h.getElem? i with ⟨hi, hi'⟩ | ⟨t, t', hi, hi', hrel⟩
  · rw [hi, hi']
    exact ⟨.inl (inferInstanceAs (Inside c.comment.Other Ast.absent))⟩
  · rw [hi, hi']
    exact hrel

instance (t t' : Ast) [h : Under c t t'] (i : Nat) : Rel c (t.part i) (t'.part i) := h.part i

instance : Lists c [] [] := ⟨fun _ ht => nomatch ht⟩

instance (ts ts' : List Ast) [h : Parts c ts ts'] : Lists c ts ts' := by
  refine ⟨fun t ht => ?_⟩
  obtain ⟨i, hi⟩ := List.getElem?_of_mem ht
  rcases h.getElem? i with ⟨hnone, _⟩ | ⟨u, u', hu, hu', hrel⟩
  · rw [hi] at hnone
    cases hnone
  · rw [hi] at hu
    cases hu
    exact .inr ⟨u', List.mem_of_getElem? hu', hrel⟩

/-! ## What the printer looks at -/

theorem isWhole_of_expr {t : Ast} (h : W.layoutOf t.shape = .expr) : t.isWhole = true := by
  obtain ⟨s, sp, ps⟩ := t
  cases s <;> first | rfl | cases h

/-- Tests of a node's shape that nodes which are written as a whole fail. -/
class ShapeTest (p : Ast → Bool) : Prop where
  node : ∀ s sp ps ps', p (.node s sp ps') = p (.node s sp ps)
  whole : ∀ t : Ast, t.isWhole = true → p t = false

theorem ShapeTest.of_cases {p : Ast → Bool}
    (h : ∀ s sp ps ps', p (.node s sp ps') = p (.node s sp ps) ∧
      ((Ast.node s sp ps).isWhole = true → p (.node s sp ps) = false) := by
        intro s sp ps ps'
        cases s <;> exact ⟨rfl, fun h => by first | rfl | cases h⟩) : ShapeTest p :=
  ⟨fun s sp ps ps' => (h s sp ps ps').1, fun ⟨s, sp, ps⟩ => (h s sp ps ps).2⟩

theorem ShapeTest.expr {p : Ast → Bool} [hp : ShapeTest p] {t : Ast}
    (h : W.layoutOf t.shape = .expr) : p t = false := hp.whole t (isWhole_of_expr h)

instance : ShapeTest Ast.isAbsent := .of_cases

instance : ShapeTest W.isFunction := .of_cases

instance : ShapeTest W.isClassBody := .of_cases

instance : ShapeTest W.isClassDecl := .of_cases

instance : ShapeTest W.isTypeParam := .of_cases

instance : ShapeTest W.isNamedImport := .of_cases

instance : ShapeTest W.isStarSpec := .of_cases

instance : ShapeTest W.isComputed := .of_cases

instance : ShapeTest W.isPlainName := .of_cases

theorem isBlock_of_expr {t : Ast} (h : W.layoutOf t.shape = .expr) : W.isBlock t = false := by
  obtain ⟨s, sp, ps⟩ := t
  cases s <;> first | rfl | cases h

theorem Rel.absent (t' : Ast) : Rel c Ast.absent t' :=
  ⟨.inl (inferInstanceAs (Inside c.comment.Other Ast.absent))⟩

instance (p : Ast → Bool) [hp : ShapeTest p] (t t' : Ast) [h : Rel c t t'] (i : Nat) :
    Rel c (W.partIf p t i) (W.partIf p t' i) := by
  rcases h.cases with hgone | hstays | ⟨s, sp, ps, ps', rfl, rfl, htaken | hparts⟩
  · exact ⟨.inl inferInstance⟩
  · unfold W.partIf
    rw [hp.expr hstays.isExpr, hp.expr hstays.isExpr']
    exact .absent _
  · unfold W.partIf
    rw [hp.node s sp ps' ps, hp.whole _ htaken.whole]
    exact .absent _
  · unfold W.partIf
    rw [hp.node s sp ps ps']
    split
    · infer_instance
    · exact .absent _

theorem items_node (s : Shape) (sp : Span) :
    (∀ ps, (Ast.node s sp ps).items = ps) ∨ ∀ ps, (Ast.node s sp ps).items = [] := by
  cases s <;> first | exact .inr fun _ => rfl | exact .inl fun _ => rfl

theorem items_of_whole {t : Ast} (h : t.isWhole = true) : t.items = [] := by
  obtain ⟨s, sp, ps⟩ := t
  cases s <;> first | rfl | cases h

instance (t t' : Ast) [h : Rel c t t'] : Lists c t.items t'.items := by
  rcases h.cases with hgone | hstays | ⟨s, sp, ps, ps', rfl, rfl, htaken | hparts⟩
  · have hitems : InsideAll c.comment.Other t.items := inferInstance
    exact ⟨fun _ hu => .inl (hitems.of_mem hu)⟩
  · rw [items_of_whole (isWhole_of_expr hstays.isExpr),
      items_of_whole (isWhole_of_expr hstays.isExpr')]
    infer_instance
  · have hwhole : (Ast.node s sp ps).isWhole = true := htaken.whole
    rw [items_of_whole hwhole, items_of_whole htaken.whole]
    infer_instance
  · rcases items_node s sp with hitems | hitems
    · rw [hitems, hitems]
      infer_instance
    · rw [hitems, hitems]
      infer_instance

/-- Related trees pass the same tests of their shape. -/
theorem ShapeTest.eq_of_rel {p : Ast → Bool} (hp : ShapeTest p) {t t' : Ast} (h : Rel c t t') :
    c.comment.Misses t ∨ p t = p t' := by
  rcases h.cases with hgone | hstays | ⟨s, sp, ps, ps', rfl, rfl, -⟩
  · exact .inl hgone
  · exact .inr ((hp.expr hstays.isExpr).trans (hp.expr hstays.isExpr').symm)
  · exact .inr (hp.node s sp ps ps').symm

theorem Lists.filter {ts ts' : List Ast} (h : Lists c ts ts') {p : Ast → Bool}
    (hp : ∀ t t', Rel c t t' → c.comment.Misses t ∨ p t = p t') :
    Lists c (ts.filter p) (ts'.filter p) := by
  refine ⟨fun t ht => ?_⟩
  obtain ⟨ht, hpt⟩ := List.mem_filter.mp ht
  rcases h.partner t ht with hgone | ⟨t', ht', hrel⟩
  · exact .inl hgone
  · rcases hp t t' hrel with hgone | hsame
    · exact .inl hgone
    · exact .inr ⟨t', List.mem_filter.mpr ⟨ht', hsame ▸ hpt⟩, hrel⟩

instance (p : Ast → Bool) [hp : ShapeTest p] (ts ts' : List Ast) [h : Lists c ts ts'] :
    Lists c (ts.filter p) (ts'.filter p) :=
  h.filter fun _ _ => hp.eq_of_rel

instance (p : Ast → Bool) [hp : ShapeTest p] (ts ts' : List Ast) [h : Lists c ts ts'] :
    Lists c (ts.filter (!p ·)) (ts'.filter (!p ·)) :=
  h.filter fun _ _ hrel => (hp.eq_of_rel hrel).imp_right fun h => by rw [h]

/-! ## Steps on two sheets -/

/-- If the comment waits after the second step, it waits after the first. -/
class Covers (c : Watch) (m m' : W α) : Prop where
  waits : ∀ s s' : Sheet, (c.comment ∈ s'.comments → c.comment ∈ s.comments) →
    c.comment ∈ (m'.after s').comments → c.comment ∈ (m.after s).comments

class CoversOn (c : Watch) (f f' : Ast → W Unit) : Prop where
  on : ∀ t t', Rel c t t' → Covers c (f t) (f' t')

class CoversOnAll (c : Watch) (f f' : List Ast → W Unit) : Prop where
  on : ∀ ts ts', Lists c ts ts' → Covers c (f ts) (f' ts')

namespace W

/-! ### Steps -/

/-- A careful step that leaves the comment alone is covered by every careful step. -/
instance (priority := low) covers_gone (m m' : W α) [hm : Careful c.comment.Other m]
    [hm' : Careful Attached.Any m'] : Covers c m m' := by
  refine ⟨fun s s' hs ha => ?_⟩
  have hwaits : c.comment ∈ s.comments := hs ((hm'.grows s').fewer _ ha)
  rcases (hm.grows s).shown _ hwaits with h | ⟨hother, _⟩
  · exact h
  · exact absurd rfl hother

theorem covers_bind {m m' : W α} {f f' : α → W β} (hm : Covers c m m')
    (hf : ∀ x x', Covers c (f x) (f' x')) : Covers c (m >>= f) (m' >>= f') :=
  ⟨fun s s' hs ha => (hf _ _).waits (m.after s) (m'.after s') (hm.waits s s' hs) ha⟩

instance (m m' : W α) (f f' : α → W β) [Covers c m m'] [∀ x x', Covers c (f x) (f' x')] :
    Covers c (m >>= f) (m' >>= f') :=
  covers_bind inferInstance inferInstance

instance (b : Bool) (w w' : W Unit) [h : Covers c w w'] : Covers c (given b w) (given b w') := by
  cases b
  · exact ⟨fun _ _ hs => hs⟩
  · exact h

theorem covers_ite {b : Bool} {w w' v v' : W Unit} (hw : Covers c w w') (hv : Covers c v v') :
    Covers c (if b = true then w else v) (if b = true then w' else v') := by
  cases b
  · exact hv
  · exact hw

instance (b : Bool) (w w' v v' : W Unit) [hw : Covers c w w'] [hv : Covers c v v'] :
    Covers c (if b = true then w else v) (if b = true then w' else v') :=
  covers_ite hw hv

theorem covers_indented {w w' : W Unit} (h : Covers c w w') :
    Covers c (indented w) (indented w') :=
  ⟨fun s s' => h.waits { s with indent := s.indent + 1 } { s' with indent := s'.indent + 1 }⟩

instance (w w' : W Unit) [h : Covers c w w'] : Covers c (indented w) (indented w') :=
  covers_indented h

instance (isLeading : Bool) (pos : Nat) :
    Covers c (attached isLeading pos) (attached isLeading pos) := by
  refine ⟨fun s s' hs ha => ?_⟩
  by_cases hpos : pos = 0
  · subst hpos
    exact hs ha
  · have hpos := Nat.pos_of_ne_zero hpos
    rw [(after_attached isLeading hpos s').2.1] at ha
    exact ((after_attached isLeading hpos s).2.1 _).mpr ⟨hs ha.1, ha.2⟩

instance (pos : Nat) : Covers c (leading pos) (leading pos) :=
  inferInstanceAs (Covers c (attached true pos) (attached true pos))

instance (pos : Nat) : Covers c (trailing pos) (trailing pos) :=
  inferInstanceAs (Covers c (attached false pos) (attached false pos))

/-! ### Taking the comment -/

/-- After the step the comment does not wait. -/
class Takes (a : Attached) (m : W α) : Prop where
  taken : ∀ s : Sheet, a ∉ (m.after s).comments

theorem covers_of_takes (m : W α) {m' : W α} (h : Takes c.comment m') : Covers c m m' :=
  ⟨fun _ s' _ ha => absurd ha (h.taken s')⟩

theorem takes_attached {a : Attached} {isLeading : Bool} {pos : Nat} (h0 : 0 < a.pos)
    (hl : a.isLeading = isLeading) (hpos : a.pos = pos) : Takes a (attached isLeading pos) :=
  ⟨fun s ha => (((after_attached isLeading (hpos ▸ h0) s).2.1 a).mp ha).2 ⟨hl, hpos⟩⟩

instance (a : Attached) (m : W α) (f : α → W β) [h : ∀ x, Takes a (f x)] : Takes a (m >>= f) :=
  ⟨fun s => (h (m.run s).1).taken (m.after s)⟩

instance (a : Attached) (m : W α) (f : α → W β) [h : Takes a m]
    [hf : ∀ x, Careful Attached.Any (f x)] : Takes a (m >>= f) :=
  ⟨fun s ha => h.taken s (((hf (m.run s).1).grows (m.after s)).fewer a ha)⟩

instance (a : Attached) (m : W Unit) [h : Takes a m] : Takes a (indented m) :=
  ⟨fun s => h.taken { s with indent := s.indent + 1 }⟩

/-! ### Pieces -/

instance (priority := low) (f f' : Ast → W Unit) [h : CoversOn c f f'] (t t' : Ast)
    [ht : Rel c t t'] : Covers c (f t) (f' t') :=
  h.on t t' ht

instance (priority := low) (f f' : List Ast → W Unit) [h : CoversOnAll c f f']
    (ts ts' : List Ast) [hts : Lists c ts ts'] : Covers c (f ts) (f' ts') :=
  h.on ts ts' hts

/-- A careful writer is left with the cases where the comment stays, and where both trees are the
    same node. -/
theorem coversOn_of_cases {f f' : Ast → W Unit} [CarefulOn c.comment.Other f]
    [CarefulOn Attached.Any f']
    (hstays : ∀ t t', Rel c t t' → c.comment.Stays t t' → Covers c (f t) (f' t'))
    (hnode : ∀ s sp ps ps', Rel c (.node s sp ps) (.node s sp ps') →
      c.comment.TakenBy (.node s sp ps') ∨ Parts c ps ps' →
      Covers c (f (.node s sp ps)) (f' (.node s sp ps'))) : CoversOn c f f' := by
  refine ⟨fun t t' hrel => ?_⟩
  rcases hrel.cases with hgone | hst | ⟨s, sp, ps, ps', rfl, rfl, hsame⟩
  · infer_instance
  · exact hstays t t' hrel hst
  · exact hnode s sp ps ps' hrel hsame

theorem careful_other (isLeading : Bool) (pos : Nat) (hl : c.comment.isLeading ≠ isLeading) :
    Careful c.comment.Other (attached isLeading pos) :=
  have : Admits c.comment.Other isLeading pos := ⟨fun _ h _ _ heq => hl (heq ▸ h)⟩
  inferInstance

instance (t t' : Ast) [h : Rel c t t'] : Covers c (leading t.span.lo) (leading t'.span.lo) := by
  rcases h.cases with hgone | hstays | ⟨s, sp, ps, ps', rfl, rfl, -⟩
  · infer_instance
  · rcases hstays.here with ⟨hl, hlo⟩ | ⟨hl, -⟩
    · exact covers_of_takes _ (takes_attached hstays.pos hl hlo)
    · have := careful_other (c := c) true t.span.lo (by simp [hl])
      exact inferInstanceAs (Covers c (attached true t.span.lo) (attached true t'.span.lo))
  · exact inferInstanceAs (Covers c (leading sp.lo) (leading sp.lo))

instance (t t' : Ast) [h : Rel c t t'] : Covers c (trailing t.span.hi) (trailing t'.span.hi) := by
  rcases h.cases with hgone | hstays | ⟨s, sp, ps, ps', rfl, rfl, -⟩
  · infer_instance
  · rcases hstays.here with ⟨hl, -⟩ | ⟨hl, hhi, -⟩
    · have := careful_other (c := c) false t.span.hi (by simp [hl])
      exact inferInstanceAs (Covers c (attached false t.span.hi) (attached false t'.span.hi))
    · exact covers_of_takes _ (takes_attached hstays.pos hl hhi)
  · exact inferInstanceAs (Covers c (trailing sp.hi) (trailing sp.hi))

instance : Parts c [] [] := .nil

instance : CoversOn c bare bare := ⟨fun t t' _ => by
  unfold bare
  infer_instance⟩

instance : CoversOn c importedName importedName := ⟨fun t t' _ => by
  unfold importedName
  infer_instance⟩

theorem insideAll_of_lists {ts : List Ast} (h : Lists c ts []) : InsideAll c.comment.Other ts := by
  refine insideAll_of_forall fun t ht => (h.partner t ht).resolve_right ?_
  rintro ⟨t', ht', _⟩
  cases ht'

/-- The steps for an empty list stand on both sides, or on the side where the comment is left
    alone. -/
instance covers_isEmpty (f f' : List Ast → W Unit) [CarefulOnAll c.comment.Other f]
    [CarefulOnAll Attached.Any f'] [hf : CoversOnAll c f f'] (w w' : W Unit)
    [Careful c.comment.Other w] [Careful Attached.Any w'] (ts ts' : List Ast)
    [h : Lists c ts ts'] :
    Covers c (if ts.isEmpty = true then w else f ts)
      (if ts'.isEmpty = true then w' else f' ts') := by
  cases ts' with
  | nil =>
      have := insideAll_of_lists h
      infer_instance
  | cons t' ts' =>
      cases ts with
      | nil => exact inferInstanceAs (Covers c w (f' (t' :: ts')))
      | cons t ts => exact hf.on _ _ h

/-- A comment that waits after a list has waited before and after each of its trees. -/
theorem waits_of_joined {again : Ast → W Unit} [CarefulOn Attached.Any again] {sep : W Unit}
    [hsep : Careful Attached.Any sep] {ts : List Ast} {s : Sheet} {a : Attached}
    (ha : a ∈ ((joined again sep ts).after s).comments) {t : Ast} (ht : t ∈ ts) :
    ∃ s₁ : Sheet, a ∈ s₁.comments ∧ a ∈ ((again t).after s₁).comments := by
  induction ts generalizing s with
  | nil => cases ht
  | cons u us ih =>
      have hcareful : Careful Attached.Any (again u) := inferInstance
      cases us with
      | nil =>
          rw [List.mem_singleton.mp ht]
          exact ⟨s, (hcareful.grows s).fewer a ha, ha⟩
      | cons v vs =>
          have hrest : Careful Attached.Any (joined again sep (v :: vs)) := inferInstance
          have hu : a ∈ ((again u).after s).comments :=
            (hsep.grows _).fewer a ((hrest.grows _).fewer a ha)
          rcases List.mem_cons.mp ht with rfl | ht
          · exact ⟨s, (hcareful.grows s).fewer a hu, hu⟩
          · exact ih ha ht

/-- A comment that no tree of the list takes waits after the list. -/
theorem waits_joined {again : Ast → W Unit} {sep : W Unit} [hsep : Careful c.comment.Other sep]
    {ts : List Ast} (hts : ∀ t ∈ ts, ∀ s : Sheet,
      c.comment ∈ s.comments → c.comment ∈ ((again t).after s).comments) {s : Sheet}
    (ha : c.comment ∈ s.comments) : c.comment ∈ ((joined again sep ts).after s).comments := by
  induction ts generalizing s with
  | nil => exact ha
  | cons u us ih =>
      have hu := hts u List.mem_cons_self s ha
      cases us with
      | nil => exact hu
      | cons v vs =>
          refine ih (fun t ht => hts t (List.mem_cons_of_mem _ ht)) ?_
          rcases (hsep.grows _).shown _ hu with h | ⟨hother, _⟩
          · exact h
          · exact absurd rfl hother

section

variable (again again' : Ast → W Unit) [CarefulOn c.comment.Other again]
  [CarefulOn Attached.Any again'] [CoversOn c again again']

instance (sep sep' : W Unit) [Careful c.comment.Other sep] [Careful Attached.Any sep'] :
    CoversOnAll c (joined again sep) (joined again' sep') := by
  refine ⟨fun ts ts' hts => ⟨fun s s' hs ha => ?_⟩⟩
  have hcareful : Careful Attached.Any (joined again' sep' ts') := inferInstance
  refine waits_joined (fun t ht s₁ ha₁ => ?_) (hs ((hcareful.grows s').fewer _ ha))
  rcases hts.partner t ht with hgone | ⟨t', ht', hrel⟩
  · have hcovers : Covers c (again t) (pure ()) := inferInstance
    exact hcovers.waits s₁ s₁ (fun _ => ha₁) ha₁
  · obtain ⟨s₁', ha₁', hafter⟩ := waits_of_joined ha ht'
    have hcovers : Covers c (again t) (again' t') := inferInstance
    exact hcovers.waits s₁ s₁' (fun _ => ha₁) hafter

instance : CoversOnAll c (each again) (each again') := ⟨fun ts ts' _ => by
  unfold each
  infer_instance⟩

instance : CoversOnAll c (commaList again) (commaList again') := ⟨fun ts ts' _ => by
  unfold commaList
  infer_instance⟩

instance (sep sep' : W Unit) [Careful c.comment.Other sep] [Careful Attached.Any sep'] :
    CoversOnAll c (lines again sep) (lines again' sep') := ⟨fun ts ts' _ => by
  unfold lines
  infer_instance⟩

instance (s : String) : CoversOnAll c (commaListAfter s again) (commaListAfter s again') :=
  ⟨fun ts ts' _ => by
    unfold commaListAfter
    infer_instance⟩

instance : CoversOnAll c (bracedNames again) (bracedNames again') := ⟨fun ts ts' _ => by
  unfold bracedNames
  infer_instance⟩

instance (f f' : List Ast → W Unit) [CarefulOnAll c.comment.Other f] [CarefulOnAll Attached.Any f']
    [CoversOnAll c f f'] : CoversOnAll c (optList f) (optList f') := ⟨fun ts ts' _ => by
  unfold optList
  infer_instance⟩

instance : CoversOnAll c (patternNames again) (patternNames again') := ⟨fun ts ts' _ => by
  unfold patternNames
  infer_instance⟩

instance : CoversOn c (opt again) (opt again') := by
  refine coversOn_of_cases (fun t t' _ h => ?_) (fun s sp ps ps' _ _ => ?_)
  · unfold opt
    rw [ShapeTest.expr (p := Ast.isAbsent) h.isExpr,
      ShapeTest.expr (p := Ast.isAbsent) h.isExpr']
    infer_instance
  · unfold opt
    rw [ShapeTest.node (p := Ast.isAbsent) s sp ps ps']
    infer_instance

instance (s : String) : CoversOn c (behind s again) (behind s again') := ⟨fun t t' _ => by
  unfold behind
  infer_instance⟩

instance (s : String) : CoversOn c (optAfter s again) (optAfter s again') := ⟨fun t t' _ => by
  unfold optAfter
  infer_instance⟩

instance : CoversOn c (annotated again) (annotated again') := ⟨fun t t' _ => by
  unfold annotated
  infer_instance⟩

instance : CoversOn c (parenthesized again) (parenthesized again') := ⟨fun t t' _ => by
  unfold parenthesized
  infer_instance⟩

instance : CoversOn c (operand again) (operand again') := ⟨fun t t' _ => by
  unfold operand
  infer_instance⟩

instance : CoversOn c (key again) (key again') := by
  refine coversOn_of_cases (fun t t' _ h => ?_) (fun s sp ps ps' _ _ => ?_)
  · unfold key
    by_cases hname' : isName t' = true
    · rw [if_pos hname']
      by_cases hname : isName t = true
      · rw [if_pos hname]
        infer_instance
      · -- the comment is before the new name, which takes it
        rw [if_neg hname]
        obtain ⟨hl, hlo⟩ := h.here.resolve_right fun hbehind => by simp [hname'] at hbehind
        have htakes : Takes c.comment (leading t'.span.lo) := takes_attached h.pos hl hlo
        refine covers_of_takes _ ?_
        unfold bare
        infer_instance
    · rw [if_neg hname', if_neg fun hname => hname' (h.name hname)]
      infer_instance
  · have hsame : isName (.node s sp ps') = isName (.node s sp ps) := rfl
    unfold key
    rw [hsame]
    infer_instance

instance : CoversOn c (item again) (item again') := by
  refine coversOn_of_cases (fun t t' _ h => ?_) (fun s sp ps ps' _ _ => ?_)
  · unfold item
    rw [isBlock_of_expr h.isExpr, isBlock_of_expr h.isExpr']
    infer_instance
  · have hsame : isBlock (.node s sp ps') = isBlock (.node s sp ps) := rfl
    unfold item
    rw [hsame]
    infer_instance

instance : CoversOn c (arguments again) (arguments again') := ⟨fun t t' _ => by
  unfold arguments
  infer_instance⟩

instance : CoversOn c (ownLine again) (ownLine again') := ⟨fun t t' _ => by
  unfold ownLine
  infer_instance⟩

instance : CoversOn c (labelText again) (labelText again') := ⟨fun t t' _ => by
  unfold labelText
  infer_instance⟩

instance : CoversOn c (markupAttr again) (markupAttr again') := ⟨fun t t' _ => by
  unfold markupAttr
  infer_instance⟩

instance : CoversOn c (resultType again) (resultType again') := ⟨fun t t' _ => by
  unfold resultType
  infer_instance⟩

instance : CoversOn c (namespaceBody again) (namespaceBody again') := ⟨fun t t' _ => by
  unfold namespaceBody
  infer_instance⟩

instance (cons cons' : Ast) : CoversOn c (elseText again cons) (elseText again' cons') :=
  ⟨fun t t' _ => by
    unfold elseText
    infer_instance⟩

instance (obj obj' : Ast) : CoversOn c (memberDot obj) (memberDot obj') := by
  refine coversOn_of_cases (fun t t' _ h => ?_) (fun s sp ps ps' _ _ => ?_)
  · unfold memberDot
    rw [ShapeTest.expr (p := isPlainName) h.isExpr]
    have : Careful c.comment.Other (given false (leading (t.span.lo - 1))) :=
      inferInstanceAs (Careful c.comment.Other (pure ()))
    infer_instance
  · unfold memberDot
    rw [ShapeTest.node (p := isPlainName) s sp ps ps']
    simp only [Ast.span]
    infer_instance

instance (obj obj' : Ast) : CoversOn c (memberName again obj) (memberName again' obj') := by
  refine coversOn_of_cases (fun t t' _ h => ?_) (fun s sp ps ps' _ _ => ?_)
  · unfold memberName
    rw [ShapeTest.expr (p := isComputed) h.isExpr, ShapeTest.expr (p := isComputed) h.isExpr']
    infer_instance
  · unfold memberName
    rw [ShapeTest.node (p := isComputed) s sp ps ps']
    infer_instance

instance (isComputed : Bool) :
    CoversOn c (computedKey again isComputed) (computedKey again' isComputed) := ⟨fun t t' _ => by
  unfold computedKey
  infer_instance⟩

instance : CoversOnAll c (elementLines again) (elementLines again') := ⟨fun ts ts' _ => by
  unfold elementLines
  repeat' with_reducible refine covers_bind ?_ fun _ _ => ?_
  all_goals infer_instance⟩

instance : CoversOnAll c (propertyLines again) (propertyLines again') := ⟨fun ts ts' _ => by
  unfold propertyLines
  infer_instance⟩

instance : CoversOnAll c (items again) (items again') := ⟨fun ts ts' _ => by
  unfold items
  infer_instance⟩

instance : CoversOnAll c (itemLines again) (itemLines again') := ⟨fun ts ts' _ => by
  unfold itemLines
  infer_instance⟩

instance : CoversOnAll c (innerLines again) (innerLines again') := ⟨fun ts ts' _ => by
  unfold innerLines
  infer_instance⟩

instance (sp : Span) : CoversOnAll c (blockLines again sp) (blockLines again' sp) :=
  ⟨fun ts ts' _ => by
    unfold blockLines
    infer_instance⟩

instance (sp : Span) : CoversOnAll c (blockBody again sp) (blockBody again' sp) :=
  ⟨fun ts ts' _ => by
    unfold blockBody
    infer_instance⟩

instance : CoversOnAll c (decoratorLines again) (decoratorLines again') := ⟨fun ts ts' _ => by
  unfold decoratorLines
  infer_instance⟩

instance : CoversOnAll c (markupAttrs again) (markupAttrs again') := ⟨fun ts ts' _ => by
  unfold markupAttrs
  infer_instance⟩

instance : CoversOn c (functionTail again) (functionTail again') := ⟨fun t t' _ => by
  unfold functionTail
  repeat' with_reducible refine covers_bind ?_ fun _ _ => ?_
  all_goals infer_instance⟩

instance : CoversOn c (classTail again) (classTail again') := ⟨fun t t' _ => by
  unfold classTail
  repeat' with_reducible refine covers_bind ?_ fun _ _ => ?_
  all_goals infer_instance⟩

instance (name name' k k' : Ast) [Rel c name name'] [Rel c k k'] (withDecorators : Bool) :
    Covers c (classText again name k withDecorators)
      (classText again' name' k' withDecorators) := by
  unfold classText
  repeat' with_reducible refine covers_bind ?_ fun _ _ => ?_
  all_goals infer_instance

instance (m : Modifiers) (word : String) (t t' : Ast) [Under c t t'] :
    Covers c (fieldText again m word t) (fieldText again' m word t') := by
  unfold fieldText
  repeat' with_reducible refine covers_bind ?_ fun _ _ => ?_
  all_goals infer_instance

instance (kind : MethodKind) (m : Modifiers) (t t' : Ast) [Under c t t'] :
    Covers c (methodText again kind m t) (methodText again' kind m t') := by
  unfold methodText
  repeat' with_reducible refine covers_bind ?_ fun _ _ => ?_
  all_goals infer_instance

instance (qs : List String) (es es' : List Ast) [h : Parts c es es'] :
    Covers c (templateText again qs es) (templateText again' qs es') := by
  induction qs generalizing es es' with
  | nil =>
      unfold templateText
      infer_instance
  | cons q qs ih =>
      cases h with
      | nil =>
          have := ih [] []
          unfold templateText
          infer_instance
      | @cons e e' es es' h hs =>
          have := ih es es'
          unfold templateText
          infer_instance

instance (src src' attrs attrs' : Ast) [Rel c src src'] [Rel c attrs attrs'] :
    Covers c (sourceText again src attrs) (sourceText again' src' attrs') := by
  unfold sourceText
  infer_instance

instance (typeOnly : Bool) (specs specs' : List Ast) (src src' attrs attrs' : Ast)
    [Lists c specs specs'] [Rel c src src'] [Rel c attrs attrs'] :
    Covers c (importText again typeOnly specs src attrs)
      (importText again' typeOnly specs' src' attrs') := by
  unfold importText
  repeat' with_reducible refine covers_bind ?_ fun _ _ => ?_
  all_goals infer_instance

instance (typeOnly : Bool) (specs specs' : List Ast) (src src' attrs attrs' : Ast)
    [Lists c specs specs'] [Rel c src src'] [Rel c attrs attrs'] :
    Covers c (exportText again typeOnly specs src attrs)
      (exportText again' typeOnly specs' src' attrs') := by
  unfold exportText
  repeat' with_reducible refine covers_bind ?_ fun _ _ => ?_
  all_goals infer_instance

instance (params params' ret ret' tps tps' : Ast) [Rel c params params'] [Rel c ret ret']
    [Rel c tps tps'] (colon : String) :
    Covers c (signatureText again params ret tps colon)
      (signatureText again' params' ret' tps' colon) := by
  unfold signatureText
  infer_instance

instance : CoversOn c (exportedText again) (exportedText again') := by
  refine coversOn_of_cases (fun t t' _ h => ?_) (fun s sp ps ps' _ hsame => ?_)
  · unfold exportedText
    rw [ShapeTest.expr (p := isClassDecl) h.isExpr, ShapeTest.expr (p := isClassDecl) h.isExpr']
    simp only [Bool.false_eq_true, if_false]
    infer_instance
  · unfold exportedText
    rw [ShapeTest.node (p := isClassDecl) s sp ps ps']
    rcases hsame with htaken | hparts
    · rw [ShapeTest.node (p := isClassDecl) s sp ps' ps,
        ShapeTest.whole (p := isClassDecl) _ htaken.whole]
      simp only [Bool.false_eq_true, if_false]
      infer_instance
    · refine covers_ite ?_ ?_
      all_goals repeat' with_reducible refine covers_bind ?_ fun _ _ => ?_
      all_goals infer_instance

/-! ### Nodes

    Two nodes of one shape are written by the same sequence of steps, which is taken apart into
    pairs of steps.  Where only the first fits a sequence, the second is careful all the same. -/

variable (s : Shape) (sp : Span) (ps ps' : List Ast) [h : Parts c ps ps']

instance : Covers c (typeText again (.node s sp ps)) (typeText again' (.node s sp ps')) := by
  have hcareful : Careful Attached.Any (typeText again' (.node s sp ps')) := inferInstance
  unfold typeText at hcareful ⊢
  simp only [Ast.shape, Ast.parts] at hcareful ⊢
  split
  all_goals
    repeat cases ‹Parts c (_ :: _) _›
    try cases ‹Parts c [] _›
    repeat' with_reducible
      first | refine covers_bind ?_ fun _ _ => ?_ | refine covers_indented ?_
    all_goals infer_instance

instance : Covers c (markupText again (.node s sp ps)) (markupText again' (.node s sp ps')) := by
  have hcareful : Careful Attached.Any (markupText again' (.node s sp ps')) := inferInstance
  unfold markupText at hcareful ⊢
  simp only [Ast.shape, Ast.parts] at hcareful ⊢
  split
  all_goals
    repeat cases ‹Parts c (_ :: _) _›
    try cases ‹Parts c [] _›
    repeat' with_reducible refine covers_bind ?_ fun _ _ => ?_
    all_goals infer_instance

instance : Covers c (exprText again (.node s sp ps)) (exprText again' (.node s sp ps')) := by
  have hcareful : Careful Attached.Any (exprText again' (.node s sp ps')) := inferInstance
  unfold exprText at hcareful ⊢
  simp only [Ast.shape, Ast.parts] at hcareful ⊢
  split
  all_goals
    repeat cases ‹Parts c (_ :: _) _›
    try cases ‹Parts c [] _›
    repeat' with_reducible refine covers_bind ?_ fun _ _ => ?_
    all_goals infer_instance

instance : Covers c (memberText again (.node s sp ps)) (memberText again' (.node s sp ps')) := by
  have hcareful : Careful Attached.Any (memberText again' (.node s sp ps')) := inferInstance
  unfold memberText at hcareful ⊢
  simp only [Ast.shape, Ast.parts] at hcareful ⊢
  split
  all_goals
    repeat cases ‹Parts c (_ :: _) _›
    try cases ‹Parts c [] _›
    repeat' with_reducible refine covers_bind ?_ fun _ _ => ?_
    all_goals infer_instance

instance : Covers c (declText again (.node s sp ps)) (declText again' (.node s sp ps')) := by
  have hcareful : Careful Attached.Any (declText again' (.node s sp ps')) := inferInstance
  unfold declText at hcareful ⊢
  simp only [Ast.shape, Ast.parts] at hcareful ⊢
  split
  all_goals
    repeat cases ‹Parts c (_ :: _) _›
    try cases ‹Parts c [] _›
    repeat' with_reducible refine covers_bind ?_ fun _ _ => ?_
    all_goals infer_instance

instance : Covers c (stmtText again (.node s sp ps)) (stmtText again' (.node s sp ps')) := by
  have hcareful : Careful Attached.Any (stmtText again' (.node s sp ps')) := inferInstance
  unfold stmtText at hcareful ⊢
  simp only [Ast.shape, Ast.span, Ast.parts] at hcareful ⊢
  split
  all_goals
    repeat cases ‹Parts c (_ :: _) _›
    try cases ‹Parts c [] _›
    repeat' with_reducible refine covers_bind ?_ fun _ _ => ?_
    all_goals infer_instance

instance : Covers c (moduleText again (.node s sp ps)) (moduleText again' (.node s sp ps')) := by
  have hcareful : Careful Attached.Any (moduleText again' (.node s sp ps')) := inferInstance
  unfold moduleText at hcareful ⊢
  simp only [Ast.shape, Ast.parts] at hcareful ⊢
  split
  all_goals
    repeat cases ‹Parts c (_ :: _) _›
    try cases ‹Parts c [] _›
    repeat' with_reducible refine covers_bind ?_ fun _ _ => ?_
    all_goals infer_instance

instance : Covers c (nodeText again (.node s sp ps)) (nodeText again' (.node s sp ps')) := by
  unfold nodeText
  simp only [Ast.shape]
  split <;> infer_instance

instance : Covers c (node again (.node s sp ps)) (node again' (.node s sp ps')) := by
  have hkeeps : keepsTrailing (.node s sp ps') = keepsTrailing (.node s sp ps) := rfl
  unfold node
  rw [ShapeTest.node (p := Ast.isAbsent) s sp ps ps', hkeeps]
  simp only [Ast.span]
  infer_instance

instance : Covers c (file again (.node s sp ps)) (file again' (.node s sp ps')) := by
  unfold file
  simp only [Ast.span, Ast.parts]
  infer_instance

end

/-! ### Whole trees -/

theorem keepsTrailing_of_expr {t : Ast} (h : layoutOf t.shape = .expr) :
    keepsTrailing t = true := by
  obtain ⟨s, sp, ps⟩ := t
  cases s <;> first | rfl | cases h

theorem takenBy_of_stays {a : Attached} {t t' : Ast} (h : a.Stays t t') : a.TakenBy t' := by
  refine ⟨h.pos, isWhole_of_expr h.isExpr', h.here.imp_right fun ⟨hl, hhi, _⟩ => .inl ?_⟩
  exact ⟨hl, hhi, keepsTrailing_of_expr h.isExpr'⟩

theorem nodeText_of_other {again : Ast → W Unit} {t : Ast} (h : layoutOf t.shape = .other) :
    nodeText again t = (do
      exprText again t
      stmtText again t
      declText again t
      moduleText again t) := by
  unfold nodeText
  rw [h]

theorem ownLines_of_file {t : Ast} (h : layoutOf t.shape = .file) : t.ownLines = t.parts := by
  obtain ⟨s, sp, ps⟩ := t
  cases s <;> first | rfl | cases h

section

variable {a : Attached} {again : Ast → W Unit} [CarefulOn Attached.Any again]

/-- A statement on a line of its own takes the comments behind it. -/
theorem takes_joined {sep : W Unit} [Careful Attached.Any sep] {ts : List Ast} {u : Ast}
    (hu : u ∈ ts) (h : a.EndsLine u) : Takes a (joined (item again) sep ts) := by
  have htrailing : Takes a (trailing u.span.hi) := takes_attached h.pos h.isBehind.1 h.isBehind.2
  have hitem : Takes a (item again u) := by
    unfold item
    rw [h.isBlock]
    simp only [Bool.false_eq_true, if_false]
    infer_instance
  refine ⟨fun s ha => ?_⟩
  obtain ⟨s₁, -, hafter⟩ := waits_of_joined ha hu
  exact hitem.taken s₁ hafter

theorem takes_itemLines {ts : List Ast} {u : Ast} (hu : u ∈ ts) (h : a.EndsLine u) :
    Takes a (itemLines again ts) := by
  have hjoined : Takes a (joined (item again) newLine ts) := takes_joined hu h
  unfold itemLines items
  infer_instance

theorem takes_nodeText {t u : Ast} (hfile : layoutOf t.shape ≠ .file) (hu : u ∈ t.ownLines)
    (h : a.EndsLine u) : Takes a (nodeText again t) := by
  obtain ⟨s, sp, ps⟩ := t
  -- blocks, module blocks and cases of a switch have such statements
  unfold Ast.ownLines at hu
  split at hu
  next hs => exact absurd (congrArg layoutOf hs) hfile
  next hs => exact absurd (congrArg layoutOf hs) hfile
  next hs =>
      cases hs
      have hlines : Takes a (itemLines again ps) := takes_itemLines hu h
      have hsome : ps.isEmpty = false := List.isEmpty_eq_false_iff_exists_mem.mpr ⟨u, hu⟩
      show Takes a (blockBody again sp ps)
      unfold blockBody blockLines innerLines
      rw [hsome]
      simp only [Bool.false_eq_true, if_false]
      infer_instance
  next hs =>
      cases hs
      have hlines : Takes a (itemLines again ps) := takes_itemLines hu h
      have hdecl : Takes a (declText again (.node .moduleBlock sp ps)) := by
        show Takes a (do put "\x7b"; innerLines again ps; put "\x7d")
        unfold innerLines
        infer_instance
      rw [nodeText_of_other rfl]
      infer_instance
  next test body hs hps =>
      cases hs
      cases hps
      have hlines : Takes a (itemLines again body.items) := takes_itemLines hu h
      have hsome : body.items.isEmpty = false := List.isEmpty_eq_false_iff_exists_mem.mpr ⟨u, hu⟩
      have hstmt : Takes a (stmtText again (.node .switchCase sp [test, body])) := by
        unfold stmtText optList
        simp only [Ast.shape, Ast.parts]
        rw [hsome]
        simp only [Bool.false_eq_true, if_false]
        infer_instance
      rw [nodeText_of_other rfl]
      infer_instance
  next => cases hu

theorem takes_node {t : Ast} (hfile : layoutOf t.shape ≠ .file) (h : a.TakenBy t) :
    Takes a (node again t) := by
  unfold node
  rw [ShapeTest.whole (p := Ast.isAbsent) t h.whole]
  simp only [Bool.false_eq_true, if_false]
  rcases h.here with ⟨hl, hlo⟩ | ⟨hl, hhi, hkeeps⟩ | ⟨u, hu, hend⟩
  · have hleading : Takes a (leading t.span.lo) := takes_attached h.pos hl hlo
    infer_instance
  · have htrailing : Takes a (trailing t.span.hi) := takes_attached h.pos hl hhi
    rw [hkeeps]
    exact inferInstanceAs (Takes a (do leading t.span.lo; nodeText again t; trailing t.span.hi))
  · have htext : Takes a (nodeText again t) := takes_nodeText hfile hu hend
    infer_instance

theorem takes_file {t : Ast} (hfile : layoutOf t.shape = .file) (h : a.TakenBy t) :
    Takes a (file again t) := by
  unfold file
  rcases h.here with ⟨hl, hlo⟩ | ⟨hl, hhi, -⟩ | ⟨u, hu, hend⟩
  · have hleading : Takes a (leading t.span.lo) := takes_attached h.pos hl hlo
    infer_instance
  · have htrailing : Takes a (trailing t.span.hi) := takes_attached h.pos hl hhi
    infer_instance
  · rw [ownLines_of_file hfile] at hu
    have hjoined : Takes a (each (item again) t.parts) := takes_joined hu hend
    infer_instance

theorem takes_write {t : Ast} (h : a.TakenBy t) (depth : Nat) :
    Takes a (Ast.write (depth + 1) t) := by
  unfold Ast.write
  split
  next hfile => exact takes_file hfile h
  next hfile => exact takes_node hfile h

end

theorem covers_write {a : Attached} (fuel depth : Nat) :
    CoversOn ⟨a, depth⟩ (Ast.write fuel) (Ast.write depth) := by
  -- The first tree may be cut off: it asks for fewer comments then.  The second is printed whole.
  induction fuel generalizing depth with
  | zero => exact ⟨fun t t' _ => inferInstanceAs (Covers ⟨a, depth⟩ (pure ()) (Ast.write depth t'))⟩
  | succ fuel ih =>
      refine ⟨fun t t' hrel => ?_⟩
      rcases hrel.rel with hgone | ⟨hkept, hheight⟩
      · infer_instance
      · cases depth with
        | zero =>
            cases t' with
            | node s sp ps => exact absurd hheight (by simp [Ast.height])
        | succ depth =>
            rcases hkept.cases (c := ⟨a, depth⟩) hheight with
              hgone | hstays | ⟨s, sp, ps, ps', rfl, rfl, htaken | hparts⟩
            · infer_instance
            · exact covers_of_takes _ (takes_write (takenBy_of_stays hstays) depth)
            · exact covers_of_takes _ (takes_write htaken depth)
            · have := ih depth
              have hcovers : Covers ⟨a, depth⟩ (Ast.write (fuel + 1) (.node s sp ps))
                  (Ast.write (depth + 1) (.node s sp ps')) := by
                unfold Ast.write
                simp only [Ast.shape]
                split <;> infer_instance
              exact ⟨hcovers.waits⟩

theorem covers_writer {a : Attached} {t t' : Ast} (h : Kept a t t') :
    Covers ⟨a, t'.height⟩ t.writer t'.writer := by
  have hwrite := covers_write (a := a) t.height t'.height
  have hrel : Rel ⟨a, t'.height⟩ t t' := ⟨.inr ⟨h, Nat.le_refl _⟩⟩
  rcases hrel.cases with hgone | hstays | ⟨s, sp, ps, ps', rfl, rfl, -⟩
  · infer_instance
  · unfold Ast.writer
    rw [hstays.isExpr, hstays.isExpr']
    exact hwrite.on t t' hrel
  · unfold Ast.writer
    simp only [Ast.shape]
    split <;> infer_instance

end W

/-- A comment that printing a tree writes is written as well when the tree is printed with other
    subtrees where it stays or has not been. -/
theorem Ast.print_shows {a : Attached} {t t' : Ast} {cs cs' : List Attached} (h : Kept a t t')
    (ha : a ∈ cs) (ha' : a ∈ cs') (hwritten : a ∉ (t.print cs).2) :
    a.comment.ShownIn (t'.print cs').1 := by
  have hcareful : Careful Attached.Any t'.writer := inferInstance
  rcases (hcareful.grows { comments := cs' }).shown a ha' with hwaits | ⟨-, hshown⟩
  · refine absurd ?_ hwritten
    exact (W.covers_writer h).waits { comments := cs } { comments := cs' } (fun _ => ha) hwaits
  · exact hshown

end Inlay.Syntax
