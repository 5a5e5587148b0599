import Inlay.Invocation
import Inlay.Proofs.Tree

/-! # Sites and edits

    An address leads from the root of a tree to one of its nodes.  The *sites* of a tree are the
    matches that a traversal meets, in the order in which it meets them, each with the address of
    the node whose place its expansion takes.  Nothing inside a match is a site.

    Edits put new trees at addresses.  Sites lie apart from each other (`sites_apart`), so editing a
    tree at its sites puts every expansion where it belongs (`at?_edit_of_mem`) and changes nothing
    else (`at?_edit_of_apart`). -/

namespace Inlay.Syntax

/-! ## Addresses -/

/-- The way from the root of a tree to a node: at each level the number of the part to go to. -/
abbrev Address := List Nat

def Address.Apart (a b : Address) : Prop := ¬ a <+: b ∧ ¬ b <+: a

namespace Address

theorem Apart.symm {a b : Address} (h : Apart a b) : Apart b a := ⟨h.2, h.1⟩

theorem not_apart_nil (a : Address) : ¬ Apart [] a := fun h => h.1 List.nil_prefix

@[simp] theorem apart_cons {i : Nat} {a b : Address} : Apart (i :: a) (i :: b) ↔ Apart a b := by
  simp [Apart, List.cons_prefix_cons]

theorem apart_of_ne {i j : Nat} (h : i ≠ j) (a b : Address) : Apart (i :: a) (j :: b) :=
  ⟨fun hp => h (List.cons_prefix_cons.mp hp).1, fun hp => h (List.cons_prefix_cons.mp hp).1.symm⟩

/-- Turns an address inside a part into one inside the whole. -/
def under {α : Type} (i : Nat) (x : Address × α) : Address × α := (i :: x.1, x.2)

end Address

def Ast.at? (t : Ast) : Address → Option Ast
  | [] => some t
  | i :: a => t.parts[i]?.bind fun c => c.at? a

/-! ## Edits -/

/-- New trees, with the addresses at which they are put. -/
abbrev Edits := List (Address × Ast)

/-- The edits inside the part with a given number. -/
def Edits.within (i : Nat) (edits : Edits) : Edits :=
  edits.filterMap fun (a, e) => match a with
    | j :: b => if j = i then some (b, e) else none
    | [] => none

mutual

/-- The tree with the given edits made.  Whatever is at no address among them stays. -/
def Ast.edit (edits : Edits) : Ast → Ast
  | .node shape span parts =>
      match edits.lookup [] with
      | some e => e
      | none => .node shape span (Ast.editFrom edits 0 parts)

/-- Parts with the given edits made, the first being number `i`. -/
def Ast.editFrom (edits : Edits) (i : Nat) : List Ast → List Ast
  | [] => []
  | t :: ts => t.edit (edits.within i) :: Ast.editFrom edits (i + 1) ts

end

namespace Edits

@[simp] theorem within_nil (i : Nat) : within i [] = [] := rfl

@[simp] theorem within_cons (i : Nat) (a : Address) (e : Ast) (l : Edits) :
    within i ((i :: a, e) :: l) = (a, e) :: within i l := by
  simp [within]

@[simp] theorem within_cons_of_ne {i j : Nat} (h : j ≠ i) (a : Address) (e : Ast) (l : Edits) :
    within i ((j :: a, e) :: l) = within i l := by
  simp [within, h]

@[simp] theorem within_append (i : Nat) (l m : Edits) :
    within i (l ++ m) = within i l ++ within i m := List.filterMap_append

@[simp] theorem within_under (i : Nat) (l : Edits) : within i (l.map (Address.under i)) = l := by
  induction l with
  | nil => rfl
  | cons x l ih => simpa [within, Address.under] using ih

@[simp] theorem within_under_of_ne {i j : Nat} (h : j ≠ i) (l : Edits) :
    within i (l.map (Address.under j)) = [] := by
  induction l with
  | nil => rfl
  | cons x l ih => simp [within, Address.under, h]

theorem mem_within {i : Nat} {a : Address} {e : Ast} {l : Edits} :
    (a, e) ∈ within i l ↔ (i :: a, e) ∈ l := by
  constructor
  · intro h
    obtain ⟨⟨b, e'⟩, hb, heq⟩ := List.mem_filterMap.mp h
    match b, heq with
    | j :: b, heq =>
        dsimp only at heq
        split at heq
        · rename_i hj
          obtain ⟨rfl, rfl⟩ := Prod.mk.inj (Option.some.inj heq)
          exact hj ▸ hb
        · cases heq
  · intro h
    exact List.mem_filterMap.mpr ⟨(i :: a, e), h, by simp⟩

/-- The edits below an address, as edits of what stands there. -/
def inside (edits : Edits) : Address → Edits
  | [] => edits
  | i :: a => inside (edits.within i) a

theorem mem_inside {edits : Edits} {a b : Address} {e : Ast} :
    (b, e) ∈ edits.inside a ↔ (a ++ b, e) ∈ edits := by
  induction a generalizing edits with
  | nil => exact Iff.rfl
  | cons i a ih =>
      rw [inside, ih, mem_within]
      exact Iff.rfl

/-- No edit is at the root, and none is in a part before number `i`. -/
def From (i : Nat) (l : Edits) : Prop := ∀ x ∈ l, ∃ j b, x.1 = j :: b ∧ i ≤ j

theorem from_under {i j : Nat} (h : i ≤ j) (l : Edits) : From i (l.map (Address.under j)) := by
  intro x hx
  obtain ⟨y, -, rfl⟩ := List.mem_map.mp hx
  exact ⟨j, y.1, rfl, h⟩

theorem From.cons {i j : Nat} {l : Edits} (hl : From i l) (h : i ≤ j) (a : Address) (e : Ast) :
    From i ((j :: a, e) :: l) := by
  intro x hx
  rcases List.mem_cons.mp hx with rfl | hx
  · exact ⟨j, a, rfl, h⟩
  · exact hl x hx

theorem From.append {i : Nat} {l m : Edits} (hl : From i l) (hm : From i m) : From i (l ++ m) := by
  intro x hx
  exact (List.mem_append.mp hx).elim (hl x) (hm x)

theorem From.mono {i j : Nat} {l : Edits} (hl : From j l) (h : i ≤ j) : From i l := by
  intro x hx
  obtain ⟨k, b, hxb, hk⟩ := hl x hx
  exact ⟨k, b, hxb, Nat.le_trans h hk⟩

theorem lookup_root {i : Nat} {l : Edits} (h : From i l) : l.lookup [] = none := by
  rw [List.lookup_eq_none_iff]
  rintro ⟨a, e⟩ hx
  obtain ⟨j, b, rfl, -⟩ := h _ hx
  rfl

theorem within_of_from {i j : Nat} {l : Edits} (h : From i l) (hj : j < i) : within j l = [] := by
  refine List.filterMap_eq_nil_iff.mpr ?_
  rintro ⟨a, e⟩ hx
  obtain ⟨k, b, rfl, hk⟩ := h _ hx
  dsimp only
  rw [if_neg (by omega)]

end Edits

namespace Ast

theorem edit_node {edits : Edits} (h : edits.From 0) (shape : Shape) (span : Span)
    (parts : List Ast) :
    (Ast.node shape span parts).edit edits = .node shape span (editFrom edits 0 parts) := by
  rw [edit, Edits.lookup_root h]

@[simp] theorem edit_root (e t : Ast) : t.edit [([], e)] = e := by
  obtain ⟨shape, span, parts⟩ := t
  rw [edit]
  rfl

theorem editFrom_eq_self {edits : Edits} {ts : List Ast}
    (h : ∀ t ∈ ts, t.edit [] = t) {i : Nat} (hi : ∀ j ≥ i, edits.within j = []) :
    editFrom edits i ts = ts := by
  induction ts generalizing i with
  | nil => rw [editFrom]
  | cons t ts ih =>
      rw [editFrom, hi i (Nat.le_refl i), h t List.mem_cons_self,
        ih (fun c hc => h c (List.mem_cons_of_mem t hc)) fun j hj => hi j (by omega)]

@[simp] theorem edit_nil (t : Ast) : t.edit [] = t := by
  induction t using Ast.induction with
  | node shape span parts ih =>
      rw [edit_node (fun _ h => absurd h List.not_mem_nil),
        editFrom_eq_self ih fun _ _ => Edits.within_nil _]

/-- Parts that no edit is in stay as they are. -/
theorem editFrom_of_within {edits : Edits} {i : Nat} (h : ∀ j ≥ i, edits.within j = [])
    (ts : List Ast) : editFrom edits i ts = ts :=
  editFrom_eq_self (fun t _ => edit_nil t) h

/-- Only the edits inside the parts at hand matter. -/
theorem editFrom_congr {edits edits' : Edits} {i : Nat}
    (h : ∀ j ≥ i, edits.within j = edits'.within j) (ts : List Ast) :
    editFrom edits i ts = editFrom edits' i ts := by
  induction ts generalizing i with
  | nil => rw [editFrom, editFrom]
  | cons t ts ih =>
      rw [editFrom, editFrom, h i (Nat.le_refl i), ih fun j hj => h j (by omega)]

/-- A call of which the first argument is replaced by `e`, with further edits in its callee and in
    its other arguments. -/
theorem edit_call {edits edits' : Edits} (h : edits'.From 1) (e callee first : Ast)
    (shape shape' : Shape) (span span' : Span) (args rest : List Ast) :
    (Ast.node shape span (callee :: .node shape' span' (first :: args) :: rest)).edit
        (([1, 0], e) :: (edits.map (Address.under 0) ++ edits'.map (Address.under 1))) =
      .node shape span
        (callee.edit edits :: .node shape' span' (e :: editFrom edits' 1 args) :: rest) := by
  have hroot : Edits.From 0
      (([1, 0], e) :: (edits.map (Address.under 0) ++ edits'.map (Address.under 1))) :=
    ((Edits.from_under (by decide) edits).append (Edits.from_under (by decide) edits')).cons
      (by decide) _ e
  have hargs : Edits.From 0 (([0], e) :: edits') := (h.mono (by decide)).cons (by decide) _ e
  have hrest : ∀ j ≥ 2, Edits.within j
      (([1, 0], e) :: (edits.map (Address.under 0) ++ edits'.map (Address.under 1))) = [] := by
    intro j hj
    rw [Edits.within_cons_of_ne (by omega), Edits.within_append,
      Edits.within_under_of_ne (by omega), Edits.within_under_of_ne (by omega), List.nil_append]
  have hlater : ∀ j ≥ 1, Edits.within j (([0], e) :: edits') = Edits.within j edits' :=
    fun j hj => Edits.within_cons_of_ne (by omega) _ _ _
  rw [edit_node hroot, editFrom, editFrom, editFrom_of_within hrest, Edits.within_cons,
    Edits.within_cons_of_ne (by decide), Edits.within_append, Edits.within_append,
    Edits.within_under, Edits.within_under, Edits.within_under_of_ne (by decide),
    Edits.within_under_of_ne (by decide), List.append_nil, List.nil_append, edit_node hargs,
    editFrom, Edits.within_cons, Edits.within_of_from h (by decide), edit_root,
    editFrom_congr hlater]

/-- An import whose source is replaced by `e`. -/
theorem edit_source (e names source : Ast) (shape : Shape) (span : Span) (rest : List Ast) :
    (Ast.node shape span (names :: source :: rest)).edit [([1], e)] =
      .node shape span (names :: e :: rest) := by
  have hroot : Edits.From 0 [([1], e)] :=
    Edits.From.cons (fun _ h => absurd h List.not_mem_nil) (by decide) _ e
  have hrest : ∀ j ≥ 2, Edits.within j [([1], e)] = [] := by
    intro j hj
    rw [Edits.within_cons_of_ne (by omega), Edits.within_nil]
  rw [edit_node hroot, editFrom, editFrom, editFrom_of_within hrest,
    Edits.within_cons_of_ne (by decide), Edits.within_nil, edit_nil, Edits.within_cons,
    Edits.within_nil, edit_root]

theorem getElem?_editFrom (edits : Edits) (i k : Nat) (ts : List Ast) :
    (editFrom edits k ts)[i]? = ts[i]?.map fun t => t.edit (edits.within (k + i)) := by
  induction ts generalizing i k with
  | nil => rw [editFrom, List.getElem?_nil, Option.map_none]
  | cons t ts ih =>
      rw [editFrom]
      cases i with
      | zero => rfl
      | succ i =>
          rw [List.getElem?_cons_succ, List.getElem?_cons_succ, ih]
          congr 2
          funext t
          congr 2
          omega

theorem at?_node (shape : Shape) (span : Span) (parts : List Ast) (i : Nat) (a : Address) :
    (Ast.node shape span parts).at? (i :: a) = parts[i]?.bind fun c => c.at? a := rfl

/-- A node that no edit replaces, nor any node around it, stays with the edits below it made. -/
theorem at?_edit_of_outside {edits : Edits} {a : Address} (t : Ast)
    (h : ∀ x ∈ edits, ¬ x.1 <+: a) :
    (t.edit edits).at? a = (t.at? a).map fun c => c.edit (edits.inside a) := by
  induction a generalizing t edits with
  | nil => rfl
  | cons i a ih =>
      obtain ⟨shape, span, parts⟩ := t
      have hfrom : edits.From 0 := by
        rintro ⟨b, e⟩ hx
        match b with
        | [] => exact absurd List.nil_prefix (h _ hx)
        | j :: b => exact ⟨j, b, rfl, Nat.zero_le j⟩
      rw [edit_node hfrom, at?_node, at?_node, getElem?_editFrom, Nat.zero_add]
      cases parts[i]? with
      | none => rfl
      | some c =>
          refine ih c ?_
          rintro ⟨b, e⟩ hb hba
          exact h _ (Edits.mem_within.mp hb) (List.cons_prefix_cons.mpr ⟨rfl, hba⟩)

/-- Where no edit is near, the tree is unchanged. -/
theorem at?_edit_of_apart {edits : Edits} {a : Address} (t : Ast)
    (h : ∀ x ∈ edits, Address.Apart x.1 a) : (t.edit edits).at? a = t.at? a := by
  have hinside : edits.inside a = [] :=
    List.eq_nil_iff_forall_not_mem.mpr fun _ hx =>
      (h _ (Edits.mem_inside.mp hx)).2 (List.prefix_append _ _)
  rw [at?_edit_of_outside t fun x hx => (h x hx).1, hinside]
  simp only [edit_nil, Option.map_id']

theorem at?_edit_of_mem {edits : Edits} {a : Address} {e : Ast} (t : Ast)
    (hapart : ∀ x ∈ edits, ∀ y ∈ edits, x = y ∨ Address.Apart x.1 y.1) (hmem : (a, e) ∈ edits)
    (ht : (t.at? a).isSome) : (t.edit edits).at? a = some e := by
  induction a generalizing t edits with
  | nil =>
      match edits, hmem with
      | x :: edits, hmem =>
          -- no edit is apart from one at the root
          obtain rfl := (hapart _ hmem x List.mem_cons_self).resolve_right
            (Address.not_apart_nil _)
          obtain ⟨shape, span, parts⟩ := t
          rw [edit]
          rfl
  | cons i a ih =>
      obtain ⟨shape, span, parts⟩ := t
      have hfrom : edits.From 0 := by
        rintro ⟨b, e'⟩ hx
        match b with
        | [] =>
            rcases hapart _ hx _ hmem with heq | h
            · cases heq
            · exact absurd h (Address.not_apart_nil _)
        | j :: b => exact ⟨j, b, rfl, Nat.zero_le j⟩
      rw [edit_node hfrom, at?_node, getElem?_editFrom, Nat.zero_add]
      rw [at?_node] at ht
      cases hi : parts[i]? with
      | none =>
          rw [hi] at ht
          cases ht
      | some c =>
          rw [hi] at ht
          refine ih c ?_ (Edits.mem_within.mpr hmem) ht
          rintro ⟨b, e₁⟩ hb ⟨b', e₂⟩ hb'
          rcases hapart _ (Edits.mem_within.mp hb) _ (Edits.mem_within.mp hb') with heq | h
          · obtain ⟨hcons, rfl⟩ := Prod.mk.inj heq
            obtain ⟨-, rfl⟩ := List.cons.inj hcons
            exact .inl rfl
          · exact .inr (Address.apart_cons.mp h)

end Ast

end Inlay.Syntax

/-! ## Sites -/

namespace Inlay

open Syntax Address

namespace Setting

mutual

/-- The matches that a traversal of the tree meets, in order. -/
def sites (s : Setting) : Ast → List (Address × Found)
  | .node shape span parts =>
      match s.invocation? (.node shape span parts) with
      | some i => [([], .invocation i)]
      | none =>
          match s.requireSpecifier? (.node shape span parts),
            s.importSpecifier? (.node shape span parts) with
          | some spec, _ => ([1, 0], .require spec) :: s.callSites parts
          | none, some spec => [([1], .source spec)]
          | none, none => s.sitesFrom 0 parts

/-- The sites of parts, the first being number `i`. -/
def sitesFrom (s : Setting) (i : Nat) : List Ast → List (Address × Found)
  | [] => []
  | t :: ts => (s.sites t).map (under i) ++ s.sitesFrom (i + 1) ts

/-- The sites of a call besides its first argument: those of the callee, then those of the other
    arguments. -/
def callSites (s : Setting) : List Ast → List (Address × Found)
  | callee :: args :: _ => (s.sites callee).map (under 0) ++ (s.argSites args).map (under 1)
  | _ => []

def argSites (s : Setting) : Ast → List (Address × Found)
  | .node _ _ (_ :: args) => s.sitesFrom 1 args
  | _ => []

end

variable {s : Setting} {spec : Specifier} {shape : Shape} {span : Span} {parts : List Ast}

theorem sites_invocation {i : Invocation} (hi : s.invocation? (.node shape span parts) = some i) :
    s.sites (.node shape span parts) = [([], .invocation i)] := by
  rw [sites, hi]

theorem sites_require (hi : s.invocation? (.node shape span parts) = none)
    (hr : s.requireSpecifier? (.node shape span parts) = some spec) :
    s.sites (.node shape span parts) = ([1, 0], .require spec) :: s.callSites parts := by
  rw [sites, hi, hr]

theorem sites_source (hi : s.invocation? (.node shape span parts) = none)
    (hr : s.requireSpecifier? (.node shape span parts) = none)
    (hs : s.importSpecifier? (.node shape span parts) = some spec) :
    s.sites (.node shape span parts) = [([1], .source spec)] := by
  rw [sites, hi, hr, hs]

theorem sites_parts (hi : s.invocation? (.node shape span parts) = none)
    (hr : s.requireSpecifier? (.node shape span parts) = none)
    (hs : s.importSpecifier? (.node shape span parts) = none) :
    s.sites (.node shape span parts) = s.sitesFrom 0 parts := by
  rw [sites, hi, hr, hs]

theorem node_of_head?_items {t first : Ast} (h : t.items.head? = some first) :
    ∃ shape span args, t = .node shape span (first :: args) := by
  have hlist : ∀ ps : List Ast, ps.head? = some first → ∃ args, ps = first :: args := by
    intro ps hps
    obtain ⟨args, rfl⟩ := List.head?_eq_some_iff.mp hps
    exact ⟨args, rfl⟩
  unfold Ast.items at h
  split at h
  · obtain ⟨args, rfl⟩ := hlist _ h
    exact ⟨_, _, args, rfl⟩
  · obtain ⟨args, rfl⟩ := hlist _ h
    exact ⟨_, _, args, rfl⟩
  · cases h

theorem requireSpecifier?_iff : s.requireSpecifier? (.node shape span parts) = some spec ↔
    shape = .call ∧ ∃ callee args rest first, parts = callee :: args :: rest ∧
      unboundName? callee = some "require" ∧ args.items.head? = some first ∧
        s.specifier? first = some spec := by
  constructor
  · intro h
    unfold requireSpecifier? at h
    split at h
    · rename_i callee args rest heq
      obtain ⟨rfl, -, rfl⟩ := Ast.node.inj heq
      split at h
      · rename_i hcallee
        obtain ⟨first, hfirst, hspec⟩ := Option.bind_eq_some_iff.mp h
        exact ⟨rfl, callee, args, rest, first, rfl, eq_of_beq hcallee, hfirst, hspec⟩
      · cases h
    · cases h
  · rintro ⟨rfl, callee, args, rest, first, rfl, hcallee, hfirst, hspec⟩
    rw [requireSpecifier?, hcallee, hfirst]
    exact hspec

theorem importSpecifier?_iff : s.importSpecifier? (.node shape span parts) = some spec ↔
    (∃ typeOnly, shape = .importDecl typeOnly) ∧ ∃ names source rest,
      parts = names :: source :: rest ∧ s.specifier? source = some spec := by
  constructor
  · intro h
    unfold importSpecifier? at h
    split at h
    · rename_i typeOnly _ names source rest heq
      obtain ⟨rfl, -, rfl⟩ := Ast.node.inj heq
      exact ⟨⟨typeOnly, rfl⟩, names, source, rest, rfl, h⟩
    · cases h
  · rintro ⟨⟨typeOnly, rfl⟩, names, source, rest, rfl, hspec⟩
    exact hspec

/-- A call of `require` with a specifier has the specifier as its first argument. -/
theorem requireSpecifier?_parts (h : s.requireSpecifier? (.node shape span parts) = some spec) :
    ∃ callee shape' span' first args rest,
      parts = callee :: .node shape' span' (first :: args) :: rest ∧
        s.specifier? first = some spec := by
  obtain ⟨-, callee, args, rest, first, rfl, -, hfirst, hspec⟩ := requireSpecifier?_iff.mp h
  obtain ⟨shape', span', args, rfl⟩ := node_of_head?_items hfirst
  exact ⟨callee, shape', span', first, args, rest, rfl, hspec⟩

theorem specifier?_span {t : Ast} (h : s.specifier? t = some spec) : spec.span = t.span := by
  unfold specifier? at h
  split at h
  · split at h
    · rw [← Option.some.inj h]
    · cases h
  · cases h

/-- The node at the address of a match is what the match says. -/
def Matches (s : Setting) (t : Ast) : Found → Prop
  | .invocation i => s.invocation? t = some i
  | .require spec | .source spec => s.specifier? t = some spec

theorem sitesFrom_at {ts : List Ast} {i : Nat} {x : Address × Found}
    (h : ∀ t ∈ ts, ∀ x ∈ s.sites t, ∃ c, t.at? x.1 = some c ∧ s.Matches c x.2)
    (hx : x ∈ s.sitesFrom i ts) :
    ∃ k a c, x.1 = (i + k) :: a ∧ (ts[k]?.bind fun t => t.at? a) = some c ∧ s.Matches c x.2 := by
  induction ts generalizing i with
  | nil =>
      rw [sitesFrom] at hx
      cases hx
  | cons t ts ih =>
      rw [sitesFrom] at hx
      rcases List.mem_append.mp hx with hx | hx
      · obtain ⟨y, hy, rfl⟩ := List.mem_map.mp hx
        obtain ⟨c, hc, hm⟩ := h t List.mem_cons_self y hy
        exact ⟨0, y.1, c, rfl, hc, hm⟩
      · obtain ⟨k, a, c, hxa, hc, hm⟩ := ih (fun t ht => h t (List.mem_cons_of_mem _ ht)) hx
        refine ⟨k + 1, a, c, ?_, hc, hm⟩
        rw [hxa, Nat.add_assoc, Nat.add_comm 1 k]

/-- Every site is a match that stands in the tree. -/
theorem sites_at {t : Ast} {x : Address × Found} (hx : x ∈ s.sites t) :
    ∃ c, t.at? x.1 = some c ∧ s.Matches c x.2 := by
  induction t using Ast.induction₂ generalizing x with
  | node shape span parts ih ih' =>
      cases hi : s.invocation? (.node shape span parts) with
      | some i =>
          rw [sites_invocation hi, List.mem_singleton] at hx
          subst hx
          exact ⟨_, rfl, hi⟩
      | none =>
          cases hr : s.requireSpecifier? (.node shape span parts) with
          | some spec =>
              obtain ⟨callee, shape', span', first, args, rest, rfl, hspec⟩ :=
                requireSpecifier?_parts hr
              rw [sites_require hi hr, callSites, argSites] at hx
              rcases List.mem_cons.mp hx with rfl | hx
              · exact ⟨first, rfl, hspec⟩
              rcases List.mem_append.mp hx with hx | hx
              · obtain ⟨y, hy, rfl⟩ := List.mem_map.mp hx
                exact ih callee List.mem_cons_self hy
              · obtain ⟨y, hy, rfl⟩ := List.mem_map.mp hx
                have hargs : Ast.node shape' span' (first :: args) ∈
                    callee :: .node shape' span' (first :: args) :: rest :=
                  List.mem_cons_of_mem _ List.mem_cons_self
                -- arguments are counted from the second one on
                obtain ⟨k, a, c, hya, hc, hm⟩ := sitesFrom_at
                  (fun t ht x hx => ih' _ hargs t (List.mem_cons_of_mem _ ht) hx) hy
                refine ⟨c, ?_, hm⟩
                show (Ast.node shape' span' (first :: args)).at? y.1 = some c
                rw [hya, Nat.add_comm]
                exact hc
          | none =>
              cases hs : s.importSpecifier? (.node shape span parts) with
              | some spec =>
                  obtain ⟨-, names, source, rest, rfl, hspec⟩ := importSpecifier?_iff.mp hs
                  rw [sites_source hi hr hs, List.mem_singleton] at hx
                  subst hx
                  exact ⟨source, rfl, hspec⟩
              | none =>
                  rw [sites_parts hi hr hs] at hx
                  obtain ⟨k, a, c, hxa, hc, hm⟩ := sitesFrom_at (fun t ht x hx => ih t ht hx) hx
                  refine ⟨c, ?_, hm⟩
                  rw [hxa, Nat.zero_add]
                  exact hc

def ApartSites (l : List (Address × Found)) : Prop := l.Pairwise fun x y => Apart x.1 y.1

theorem ApartSites.map_under {l : List (Address × Found)} (h : ApartSites l) (i : Nat) :
    ApartSites (l.map (under i)) :=
  List.pairwise_map.mpr (h.imp fun hxy => apart_cons.mpr hxy)

/-- The addresses in parts from number `i` on start with such a number. -/
theorem sitesFrom_ge {ts : List Ast} {i : Nat} {x : Address × Found} (hx : x ∈ s.sitesFrom i ts) :
    ∃ j a, x.1 = j :: a ∧ i ≤ j := by
  induction ts generalizing i with
  | nil =>
      rw [sitesFrom] at hx
      cases hx
  | cons t ts ih =>
      rw [sitesFrom] at hx
      rcases List.mem_append.mp hx with hx | hx
      · obtain ⟨y, -, rfl⟩ := List.mem_map.mp hx
        exact ⟨i, y.1, rfl, Nat.le_refl i⟩
      · obtain ⟨j, a, hxa, hj⟩ := ih hx
        exact ⟨j, a, hxa, by omega⟩

theorem sitesFrom_apart {ts : List Ast} (h : ∀ t ∈ ts, ApartSites (s.sites t)) (i : Nat) :
    ApartSites (s.sitesFrom i ts) := by
  induction ts generalizing i with
  | nil =>
      rw [sitesFrom]
      exact .nil
  | cons t ts ih =>
      rw [sitesFrom]
      refine List.pairwise_append.mpr ⟨(h t List.mem_cons_self).map_under i,
        ih (fun t ht => h t (List.mem_cons_of_mem _ ht)) (i + 1), ?_⟩
      intro x hx y hy
      obtain ⟨x, -, rfl⟩ := List.mem_map.mp hx
      obtain ⟨j, a, hya, hj⟩ := sitesFrom_ge hy
      rw [hya]
      exact apart_of_ne (by omega) _ _

/-- No site lies inside another one. -/
theorem sites_apart (t : Ast) : ApartSites (s.sites t) := by
  induction t using Ast.induction₂ with
  | node shape span parts ih ih' =>
      cases hi : s.invocation? (.node shape span parts) with
      | some i =>
          rw [sites_invocation hi]
          exact List.pairwise_singleton _ _
      | none =>
          cases hr : s.requireSpecifier? (.node shape span parts) with
          | some spec =>
              obtain ⟨callee, shape', span', first, args, rest, rfl, -⟩ :=
                requireSpecifier?_parts hr
              have hargs : Ast.node shape' span' (first :: args) ∈
                  callee :: .node shape' span' (first :: args) :: rest :=
                List.mem_cons_of_mem _ List.mem_cons_self
              have hrest := sitesFrom_apart (s := s)
                (fun t ht => ih' _ hargs t (List.mem_cons_of_mem _ ht)) 1
              rw [sites_require hi hr, callSites, argSites]
              -- the specifier, then the sites of the callee and those of the other arguments
              refine List.pairwise_cons.mpr ⟨?_, List.pairwise_append.mpr
                ⟨(ih callee List.mem_cons_self).map_under 0, hrest.map_under 1, ?_⟩⟩
              · intro y hy
                rcases List.mem_append.mp hy with hy | hy
                · obtain ⟨y, -, rfl⟩ := List.mem_map.mp hy
                  exact apart_of_ne (by decide) _ _
                · obtain ⟨z, hz, rfl⟩ := List.mem_map.mp hy
                  obtain ⟨j, a, hza, hj⟩ := sitesFrom_ge hz
                  rw [under, apart_cons, hza]
                  exact apart_of_ne (by omega) _ _
              · intro x hx y hy
                obtain ⟨x, -, rfl⟩ := List.mem_map.mp hx
                obtain ⟨y, -, rfl⟩ := List.mem_map.mp hy
                exact apart_of_ne (by decide) _ _
          | none =>
              cases hs : s.importSpecifier? (.node shape span parts) with
              | some spec =>
                  rw [sites_source hi hr hs]
                  exact List.pairwise_singleton _ _
              | none =>
                  rw [sites_parts hi hr hs]
                  exact sitesFrom_apart ih 0

end Setting

end Inlay
