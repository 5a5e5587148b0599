import Inlay.Proofs.Expansion.Places
import Inlay.Proofs.Expansion.Switch
import Inlay.Proofs.Json.Structural

/-! # What a second pass finds

    An expansion does not look into what it puts in place of a match.  So the tree that it leaves
    may hold matches again: a value may be a string that starts with an invocation and stand where a
    specifier stands, the definition of a function may hold anything, and what was overlooked is
    still there.  Nothing else remains (`program_remains`), and a tree in which nothing remains is
    left as it is by every further pass (`run_of_no_sites`). -/

namespace Inlay

open Syntax Address

/-- Editing puts another tree in place of the whole one, or keeps the node and edits its parts. -/
theorem Syntax.Ast.edit_cases (edits : Edits) (t : Ast) :
    (∃ e, ([], e) ∈ edits ∧ t.edit edits = e) ∨
      edits.From 0 ∧ t.edit edits = .node t.shape t.span (editFrom edits 0 t.parts) := by
  obtain ⟨shape, span, parts⟩ := t
  rw [edit]
  cases hroot : edits.lookup [] with
  | some e =>
      obtain ⟨before, after, rfl, -⟩ := List.lookup_eq_some_iff.mp hroot
      exact .inl ⟨e, List.mem_append_right _ List.mem_cons_self, rfl⟩
  | none =>
      refine .inr ⟨?_, rfl⟩
      rintro ⟨b, e⟩ hx
      cases b with
      | nil => exact absurd (List.lookup_eq_none_iff.mp hroot _ hx) (by simp)
      | cons j b => exact ⟨j, b, rfl, Nat.zero_le j⟩

theorem Syntax.Ast.editFrom_eq_cons {edits : Edits} {i : Nat} {ts cs : List Ast} {c : Ast} :
    editFrom edits i ts = c :: cs ↔
      ∃ t ts', ts = t :: ts' ∧ t.edit (edits.within i) = c ∧ editFrom edits (i + 1) ts' = cs := by
  cases ts with
  | nil => simp [editFrom]
  | cons t ts => simp [editFrom]

theorem Syntax.Ast.length_editFrom (edits : Edits) (i : Nat) (ts : List Ast) :
    (editFrom edits i ts).length = ts.length := by
  induction ts generalizing i with
  | nil => rw [editFrom]
  | cons t ts ih => rw [editFrom, List.length_cons, List.length_cons, ih]

theorem Syntax.Ast.head?_items {shape : Shape} {span span' : Span} {ts : List Ast} {t : Ast}
    (h : (Ast.node shape span ts).items.head? = some t) (c : Ast) (cs : List Ast) :
    (Ast.node shape span' (c :: cs)).items.head? = some c := by
  unfold items at h
  split at h
  · rename_i heq
    obtain ⟨rfl, -, -⟩ := Ast.node.inj heq
    rfl
  · rename_i heq
    obtain ⟨rfl, -, -⟩ := Ast.node.inj heq
    rfl
  · cases h

namespace Setting

variable {s : Setting} {t c : Ast} {a : Address} {i : Nat}

theorem found_of_site {x : Address × Found} (hx : x ∈ s.sites t) : x.2 ∈ s.found t := by
  induction t using Ast.induction generalizing x with
  | node shape span parts ih =>
      cases hinv : s.invocation? (.node shape span parts) with
      | some i =>
          rw [sites_invocation hinv, List.mem_singleton] at hx
          subst hx
          simp [found, foundAt, hinv]
      | none =>
          rcases (mem_sites hinv).mp hx with
            ⟨spec, ⟨hr, rfl⟩ | ⟨hs, rfl⟩⟩ | ⟨i, c, y, hc, hy, rfl, -, -⟩
          · simp [found, foundAt, hr]
          · simp [found, foundAt, hs]
          · have hmem := List.mem_of_getElem? hc
            have hfound : y.2 ∈ s.found c := ih c hmem hy
            exact Expansion.found_of_part hmem hfound

theorem invocation_of_root {m : Found} (h : ([], m) ∈ s.sites t) :
    ∃ i, s.invocation? t = some i ∧ m = .invocation i := by
  obtain ⟨shape, span, parts⟩ := t
  cases hinv : s.invocation? (.node shape span parts) with
  | some i =>
      rw [sites_invocation hinv, List.mem_singleton] at h
      exact ⟨i, rfl, (Prod.mk.inj h).2⟩
  | none =>
      rcases (mem_sites hinv).mp h with ⟨spec, ⟨-, hx⟩ | ⟨-, hx⟩⟩ | ⟨i, c, y, -, -, hx, -⟩
      · cases hx
      · cases hx
      · cases hx

/-- The sites in a part, apart from the specifier of the node. -/
theorem mem_sites_cons {m : Found} (hinv : s.invocation? t = none)
    (hspec : ¬ s.InSpecifier t (i :: a)) :
    (i :: a, m) ∈ s.sites t ↔ ¬ s.Skips t i ∧ ∃ c, t.parts[i]? = some c ∧ (a, m) ∈ s.sites c := by
  rw [mem_sites hinv]
  constructor
  · rintro (⟨spec, ⟨hr, hx⟩ | ⟨hs, hx⟩⟩ | ⟨j, c, y, hc, hy, hx, hskip, -⟩)
    · obtain ⟨ha, -⟩ := Prod.mk.inj hx
      exact absurd (.inl ⟨by rw [hr]; rfl, ha ▸ List.prefix_refl _⟩) hspec
    · obtain ⟨ha, -⟩ := Prod.mk.inj hx
      exact absurd (.inr ⟨by rw [hs]; rfl, ha ▸ List.prefix_refl _⟩) hspec
    · obtain ⟨b, n⟩ := y
      obtain ⟨ha, rfl⟩ := Prod.mk.inj hx
      obtain ⟨rfl, rfl⟩ := List.cons.inj ha
      exact ⟨hskip, c, hc, hy⟩
  · rintro ⟨hskip, c, hc, hm⟩
    exact .inr ⟨i, c, (a, m), hc, hm, rfl, hskip, hspec⟩

theorem mem_sites_part {m : Found} (hinv : s.invocation? t = none) (hskip : ¬ s.Skips t i)
    (hc : t.parts[i]? = some c) (hspec : ¬ s.InSpecifier t (i :: a)) :
    (i :: a, m) ∈ s.sites t ↔ (a, m) ∈ s.sites c := by
  rw [mem_sites_cons hinv hspec]
  constructor
  · rintro ⟨-, d, hd, hm⟩
    exact Option.some.inj (hc.symm.trans hd) ▸ hm
  · exact fun hm => ⟨hskip, c, hc, hm⟩

/-- Of the parts of a node only the first decides whether the node is an invocation. -/
theorem invocation?_head {shape : Shape} {span : Span} {parts : List Ast}
    (h : (s.invocation? (.node shape span parts)).isSome) :
    ∃ callee rest k, parts = callee :: rest ∧ s.keyword? callee = some k ∧
      ∀ callee' rest', s.keyword? callee' = some k → rest'.length = rest.length →
        (s.invocation? (.node shape span (callee' :: rest'))).isSome := by
  obtain ⟨j, hj⟩ := Option.isSome_iff_exists.mp h
  unfold invocation? at hj
  split at hj
  · rename_i callee args rest heq
    obtain ⟨rfl, -, rfl⟩ := Ast.node.inj heq
    obtain ⟨k, hk, -⟩ := Option.bind_eq_some_iff.mp hj
    refine ⟨callee, args :: rest, k, rfl, hk, fun callee' rest' hk' hlen => ?_⟩
    obtain ⟨args', rest', rfl⟩ := List.exists_cons_of_length_eq_add_one hlen
    rw [invocation?, hk']
    rfl
  · rename_i tag typeArgs template heq
    obtain ⟨rfl, -, rfl⟩ := Ast.node.inj heq
    obtain ⟨k, hk, -⟩ := Option.bind_eq_some_iff.mp hj
    refine ⟨tag, [typeArgs, template], k, rfl, hk, fun tag' rest' hk' hlen => ?_⟩
    obtain ⟨typeArgs', template', rfl⟩ := List.length_eq_two.mp hlen
    rw [invocation?, hk']
    rfl
  · cases hj

/-- With the switch for specifiers off, every part of a tree is gone through. -/
theorem not_overlooks_of_off (hoff : s.expandSpecifiers = false) (t : Ast) (a : Address) :
    ¬ s.Overlooks t a := by
  intro h
  induction h with
  | @here t i a hinv h =>
      have hno := no_specifier (c := t) (.inl hoff)
      rcases h with ⟨hr, -⟩ | ⟨hi, -⟩
      · rw [hno.1] at hr
        cases hr
      · rw [hno.2] at hi
        cases hi
  | part hinv hspec hc h ih => exact ih

end Setting

/-! ## What remains -/

/-- The values that an evaluator exports are JSON. -/
def Evaluator.IsValid {σ : Type} (box : Evaluator σ) : Prop :=
  ∀ unit b o b', box.run unit b = (.ok o, b') → o.IsValid

/-- What the engine exports as a value has been checked. -/
theorem engineEvaluator_isValid : engineEvaluator.IsValid :=
  fun _ _ _ _ h => engineEvaluator_isAnswer h

namespace Expansion

variable {σ : Type}

/-- Why the tree that an expansion leaves may have a match at an address. -/
inductive Remains (box : Evaluator σ) (s : Setting) : Ast → Address → Found → Prop where
  /-- A string was put into the place of a specifier. -/
  | spliced {t : Ast} {a : Address} {m n : Found} (hsite : (a, m) ∈ s.sites t)
      (hn : n.specifier?.isSome) : Remains box s t a n
  /-- The definition of a function was put there, in parentheses. -/
  | definition {t : Ast} {a d : Address} {i : Invocation} {n : Found} {b b' : σ} {source : String}
      (hsite : (a, .invocation i) ∈ s.sites t)
      (heval : box.evaluate i.literal s.file b = (.ok (.callable source), b')) :
      Remains box s t (a ++ 0 :: d) n
  | overlooked {t : Ast} {a : Address} {n : Found} (h : s.Overlooks t a) : Remains box s t a n
  /-- The text of a specifier was expanded, and the match remains in what was read from it. -/
  | inside {t e : Ast} {a d : Address} {spec : Specifier} {n : Found} {w w' : Workbench}
      (hsite : (a, .require spec) ∈ s.sites t) (hread : w.readExpr s.file spec.text = (.ok e, w'))
      (h : Remains box s e d n) : Remains box s t (a ++ d) n

variable {box : Evaluator σ} {s : Setting} {t c e : Ast} {a : Address} {i : Nat} {m n : Found}

theorem Remains.part (hinv : s.invocation? t = none) (hskip : ¬ s.Skips t i)
    (hc : t.parts[i]? = some c) (hspec : ¬ s.InSpecifier t (i :: a)) (h : Remains box s c a n) :
    Remains box s t (i :: a) n := by
  -- sites of the part that do not lie in the specifier are sites of the whole
  have hsite : ∀ {b m}, b <+: a → (b, m) ∈ s.sites c → (i :: b, m) ∈ s.sites t := fun hb hm =>
    (Setting.mem_sites_cons hinv fun h => hspec (h.mono (List.cons_prefix_cons.mpr ⟨rfl, hb⟩))).mpr
      ⟨hskip, c, hc, hm⟩
  cases h with
  | spliced hm hn => exact .spliced (hsite (List.prefix_refl _) hm) hn
  | definition hm heval => exact .definition (hsite (List.prefix_append _ _) hm) heval
  | overlooked h => exact .overlooked (.part hinv hspec hc h)
  | inside hm hread h => exact .inside (hsite (List.prefix_append _ _) hm) hread h

/-- What took the place of a match, and what remains in it. -/
def Leaves (box : Evaluator σ) (s : Setting) (e : Ast) : Found → Prop
  | .invocation i =>
      s.sites e = [] ∧ e.items = [] ∧ (∀ n, unboundName? e = some n → n = "undefined") ∨
        ∃ b source b' span e', box.evaluate i.literal s.file b = (.ok (.callable source), b') ∧
          e = .node .paren span [e']
  | .require spec => ∃ (w w' : Workbench) (e' : Ast),
      w.readExpr s.file spec.text = (.ok e', w') ∧ ∀ x ∈ s.sites e, Remains box s e' x.1 x.2
  | .source _ => s.sites e = []

/-- The sites of the tree have been filled in. -/
structure Fills (box : Evaluator σ) (s : Setting) (t : Ast) (edits : Edits) : Prop where
  leaves : ∀ a e, (a, e) ∈ edits → ∃ m, (a, m) ∈ s.sites t ∧ Leaves box s e m
  every : ∀ a m, (a, m) ∈ s.sites t → ∃ e, (a, e) ∈ edits

namespace Fills

variable {edits : Edits}

theorem not_root (h : Fills box s t edits) (hinv : s.invocation? t = none) : edits.From 0 := by
  rintro ⟨b, e⟩ hx
  cases b with
  | nil =>
      obtain ⟨m, hm, -⟩ := h.leaves _ _ hx
      obtain ⟨j, hj, -⟩ := Setting.invocation_of_root hm
      rw [hinv] at hj
      cases hj
  | cons j b => exact ⟨j, b, rfl, Nat.zero_le j⟩

/-- A part that is not the specifier of the node is replaced only if it is an invocation. -/
theorem part_cases (h : Fills box s t edits) (hinv : s.invocation? t = none)
    (hspec : ¬ s.InSpecifier t [i]) (c : Ast) :
    (∃ j, Leaves box s (c.edit (edits.within i)) (.invocation j)) ∨
      c.edit (edits.within i) = .node c.shape c.span (Ast.editFrom (edits.within i) 0 c.parts) := by
  rcases Ast.edit_cases (edits.within i) c with ⟨e, he, hedit⟩ | hedit
  · obtain ⟨m, hm, hleaves⟩ := h.leaves _ _ (Edits.mem_within.mp he)
    obtain ⟨-, d, hd, hroot⟩ := (Setting.mem_sites_cons hinv hspec).mp hm
    obtain ⟨j, -, rfl⟩ := Setting.invocation_of_root hroot
    exact .inl ⟨j, hedit ▸ hleaves⟩
  · exact .inr hedit.2

/-- The name of a callee that is not replaced stays, and a new one is `undefined`. -/
theorem callee_name (h : Fills box s t edits) (hinv : s.invocation? t = none)
    {k : String} (hk : unboundName? (c.edit (edits.within 0)) = some k) :
    k = "undefined" ∨ unboundName? c = some k := by
  have hspec : ¬ s.InSpecifier t [0] := by
    simp [Setting.InSpecifier]
  rcases h.part_cases hinv hspec c with ⟨j, ⟨-, -, hname⟩ | ⟨_, _, _, span, e, -, he⟩⟩ | hedit
  · exact .inl (hname k hk)
  · rw [he] at hk
    cases hk
  · rw [hedit] at hk
    exact .inr hk

section Node

variable {shape : Shape} {span : Span} {parts : List Ast} {spec : Specifier}

theorem invocation_eq_none (h : Fills box s (.node shape span parts) edits)
    (hundefined : "undefined" ∉ s.keywords.names)
    (hinv : s.invocation? (.node shape span parts) = none) :
    s.invocation? (.node shape span (Ast.editFrom edits 0 parts)) = none := by
  -- the keyword would have to be a callee that was there before
  have hkeyword : ∀ {c k}, s.keyword? (c.edit (edits.within 0)) = some k →
      s.keyword? c = some k := by
    intro c k hk
    obtain ⟨hname, hcontains⟩ := Option.filter_eq_some_iff.mp hk
    rcases h.callee_name hinv hname with rfl | hname
    · exact absurd (List.contains_iff_mem.mp hcontains) hundefined
    · exact Option.filter_eq_some_iff.mpr ⟨hname, hcontains⟩
  by_contra hsome
  obtain ⟨callee, rest, k, hparts, hk, hhead⟩ :=
    Setting.invocation?_head (Option.isSome_iff_ne_none.mpr hsome)
  obtain ⟨c, parts, rfl, rfl, rfl⟩ := Ast.editFrom_eq_cons.mp hparts
  have hwas := hhead c parts (hkeyword hk) (Ast.length_editFrom edits 1 parts).symm
  rw [hinv] at hwas
  cases hwas

/-- Where a filled-in call has a specifier, the call had a site. -/
theorem site_of_require (h : Fills box s (.node shape span parts) edits)
    (hinv : s.invocation? (.node shape span parts) = none)
    (hr : s.requireSpecifier? (.node shape span (Ast.editFrom edits 0 parts)) = some spec) :
    ∃ m, ([1, 0], m) ∈ s.sites (.node shape span parts) := by
  obtain ⟨rfl, _, _, _, _, hparts, hcallee, hfirst, hspec⟩ := Setting.requireSpecifier?_iff.mp hr
  obtain ⟨callee, _, rfl, rfl, htail⟩ := Ast.editFrom_eq_cons.mp hparts
  obtain ⟨⟨shape', span', items⟩, rest, rfl, rfl, -⟩ := Ast.editFrom_eq_cons.mp htail
  have hargs : ¬ s.InSpecifier
      (.node .call span (callee :: .node shape' span' items :: rest)) [1] := by
    simp [Setting.InSpecifier, Setting.importSpecifier?]
  -- what takes the place of an invocation has no items
  rcases h.part_cases hinv hargs (.node shape' span' items) with
    ⟨j, ⟨-, hitems, -⟩ | ⟨_, _, _, _, _, -, he⟩⟩ | hedit
  · rw [hitems] at hfirst
    cases hfirst
  · rw [he] at hfirst
    cases hfirst
  rw [hedit] at hfirst
  obtain ⟨_, _, _, hnode⟩ := Setting.node_of_head?_items hfirst
  obtain ⟨first, items, rfl, rfl, -⟩ := Ast.editFrom_eq_cons.mp (Ast.node.inj hnode).2.2
  rcases Ast.edit_cases ((edits.within 1).within 0) first with ⟨e, he, -⟩ | ⟨-, hkept⟩
  · obtain ⟨m, hm, -⟩ := h.leaves _ _ (Edits.mem_within.mp (Edits.mem_within.mp he))
    exact ⟨m, hm⟩
  · -- neither the callee nor the string is new
    have hname := (h.callee_name hinv hcallee).resolve_left (by decide)
    have hwas : s.requireSpecifier?
        (.node .call span (callee :: .node shape' span' (first :: items) :: rest)) = some spec := by
      rw [hkept] at hspec
      exact Setting.requireSpecifier?_iff.mpr
        ⟨rfl, callee, _, rest, first, rfl, hname, Ast.head?_items hfirst first items, hspec⟩
    exact ⟨_, (Setting.mem_sites hinv).mpr (.inl ⟨spec, .inl ⟨hwas, rfl⟩⟩)⟩

/-- Where a filled-in import has a specifier, the import had a site. -/
theorem site_of_source (h : Fills box s (.node shape span parts) edits)
    (hinv : s.invocation? (.node shape span parts) = none)
    (hs : s.importSpecifier? (.node shape span (Ast.editFrom edits 0 parts)) = some spec) :
    ∃ m, ([1], m) ∈ s.sites (.node shape span parts) := by
  obtain ⟨hshape, _, _, _, hparts, hspec⟩ := Setting.importSpecifier?_iff.mp hs
  obtain ⟨names, _, rfl, rfl, htail⟩ := Ast.editFrom_eq_cons.mp hparts
  obtain ⟨source, rest, rfl, rfl, -⟩ := Ast.editFrom_eq_cons.mp htail
  rcases Ast.edit_cases (edits.within 1) source with ⟨e, he, -⟩ | ⟨-, hkept⟩
  · obtain ⟨m, hm, -⟩ := h.leaves _ _ (Edits.mem_within.mp he)
    exact ⟨m, hm⟩
  · rw [hkept] at hspec
    have hwas : s.importSpecifier? (.node shape span (names :: source :: rest)) = some spec :=
      Setting.importSpecifier?_iff.mpr ⟨hshape, names, source, rest, rfl, hspec⟩
    exact ⟨_, (Setting.mem_sites hinv).mpr (.inl ⟨spec, .inr ⟨hwas, rfl⟩⟩)⟩

end Node

/-- The sites below an address have been filled in, if they are the sites of the node there. -/
theorem inside {d : Address} (h : Fills box s t edits)
    (hd : ∀ a m, (d ++ a, m) ∈ s.sites t ↔ (a, m) ∈ s.sites c) :
    Fills box s c (edits.inside d) where
  leaves a e he := by
    obtain ⟨m, hm, hleaves⟩ := h.leaves _ _ (Edits.mem_inside.mp he)
    exact ⟨m, (hd a m).mp hm, hleaves⟩
  every a m hm := by
    obtain ⟨e, he⟩ := h.every _ _ ((hd a m).mpr hm)
    exact ⟨e, Edits.mem_inside.mpr he⟩

/-- In what took the place of an invocation only a definition may hold a match. -/
theorem remains_invocation {j : Invocation} {x : Address × Found} (h : Fills box s t edits)
    (hinv : s.invocation? t = some j) (hx : x ∈ s.sites (t.edit edits)) :
    Remains box s t x.1 x.2 := by
  have hroot : ([], .invocation j) ∈ s.sites t := by
    obtain ⟨shape, span, parts⟩ := t
    rw [Setting.sites_invocation hinv]
    exact List.mem_singleton_self _
  rcases Ast.edit_cases edits t with ⟨e, he, hedit⟩ | ⟨hfrom, -⟩
  · obtain ⟨m, hm, hleaves⟩ := h.leaves _ _ he
    obtain ⟨j, -, rfl⟩ := Setting.invocation_of_root hm
    rw [hedit] at hx
    rcases hleaves with ⟨hnone, -⟩ | ⟨b, source, b', span, e', heval, rfl⟩
    · rw [hnone] at hx
      cases hx
    · rw [Setting.sites_parts rfl rfl rfl] at hx
      obtain ⟨i, c, y, hc, hy, rfl⟩ := Setting.mem_sitesFrom.mp hx
      obtain rfl : i = 0 := by
        have := (List.getElem?_eq_some_iff.mp hc).1
        simpa using this
      exact .definition hm heval
  · obtain ⟨e, he⟩ := h.every _ _ hroot
    obtain ⟨_, _, hcons, -⟩ := hfrom _ he
    cases hcons

/-- Where there is a site, something was put. -/
theorem replaced (h : Fills box s t edits) {d : Address} (hm : (d, m) ∈ s.sites t) (c : Ast) :
    ∃ n, (d, n) ∈ s.sites t ∧ Leaves box s (c.edit (edits.inside d)) n := by
  rcases Ast.edit_cases (edits.inside d) c with ⟨e, he, hedit⟩ | ⟨hfrom, -⟩
  · have hmem := Edits.mem_inside.mp he
    rw [List.append_nil] at hmem
    exact hedit ▸ h.leaves _ _ hmem
  · obtain ⟨e, he⟩ := h.every _ _ hm
    obtain ⟨_, _, hcons, -⟩ := hfrom _ (Edits.mem_inside.mpr ((List.append_nil d).symm ▸ he))
    cases hcons

/-- The new source of an import holds nothing. -/
theorem sites_source (h : Fills box s t edits) (hinv : s.invocation? t = none)
    (hs : (s.importSpecifier? t).isSome) (c : Ast) : s.sites (c.edit (edits.within 1)) = [] := by
  obtain ⟨spec, hs⟩ := Option.isSome_iff_exists.mp hs
  obtain ⟨n, hn, hleaves⟩ :=
    h.replaced ((Setting.mem_sites hinv).mpr (.inl ⟨spec, .inr ⟨hs, rfl⟩⟩)) c
  rcases (Setting.mem_sites hinv).mp hn with
    ⟨_, ⟨-, hx⟩ | ⟨-, hx⟩⟩ | ⟨_, _, y, -, -, hx, -, hspec⟩
  · cases hx
  · obtain rfl := (Prod.mk.inj hx).2
    exact hleaves
  · exact absurd (.inr ⟨by rw [hs]; rfl, List.prefix_refl _⟩) hspec

theorem remains_arguments {args : Ast} {y : Address × Found} (h : Fills box s t edits)
    (hinv : s.invocation? t = none) (hr : (s.requireSpecifier? t).isSome)
    (hargs : t.parts[1]? = some args)
    (ih : ∀ c ∈ args.parts, ∀ edits, Fills box s c edits → ∀ x ∈ s.sites (c.edit edits),
      Remains box s c x.1 x.2) (hy : y ∈ s.sites (args.edit (edits.within 1))) :
    Remains box s t (1 :: y.1) y.2 := by
  have himport := Setting.importSpecifier?_of_require hr
  have hskip : ¬ s.Skips t 1 := by
    simp [Setting.Skips, himport]
  have hnot : ∀ a, ¬ [0] <+: a → ¬ s.InSpecifier t (1 :: a) := by
    rintro a ha (⟨-, hp⟩ | ⟨hs, -⟩)
    · exact ha (List.cons_prefix_cons.mp hp).2
    · rw [himport] at hs
      cases hs
  obtain ⟨spec, hspec⟩ := Option.isSome_iff_exists.mp hr
  obtain ⟨first, hfirst⟩ : ∃ first, args.items.head? = some first := by
    obtain ⟨shape, span, parts⟩ := t
    obtain ⟨-, _, _, _, first, rfl, -, hfirst, -⟩ := Setting.requireSpecifier?_iff.mp hspec
    exact Option.some.inj hargs ▸ ⟨first, hfirst⟩
  obtain ⟨hinv', hr', hs'⟩ := Setting.not_match_of_items (s := s) hfirst
  rcases Ast.edit_cases (edits.within 1) args with ⟨e, he, -⟩ | ⟨-, hedit⟩
  · -- the list of arguments is no match and has not been replaced
    obtain ⟨m, hm, -⟩ := h.leaves _ _ (Edits.mem_within.mp he)
    have hroot := (Setting.mem_sites_part hinv hskip hargs (hnot [] (by decide))).mp hm
    obtain ⟨j, hj, -⟩ := Setting.invocation_of_root hroot
    rw [hinv'] at hj
    cases hj
  obtain ⟨shape, span, items, rfl⟩ := Setting.node_of_head?_items hfirst
  have hsites : s.sites (.node shape span (Ast.editFrom (edits.within 1) 0 (first :: items))) =
      s.sitesFrom 0 (Ast.editFrom (edits.within 1) 0 (first :: items)) := by
    rw [Ast.editFrom]
    exact Setting.sites_of_items (Ast.head?_items hfirst _ _)
  replace hy := hsites ▸ hedit ▸ hy
  obtain ⟨k, c, z, hc, hz, rfl⟩ := Setting.mem_sitesFrom.mp hy
  rw [Ast.getElem?_editFrom, Nat.zero_add] at hc
  obtain ⟨g, hg, rfl⟩ := Option.map_eq_some_iff.mp hc
  rw [Nat.zero_add]
  cases k with
  | zero =>
      -- the text of the specifier was expanded in place of the first argument
      obtain rfl := Option.some.inj hg
      obtain ⟨n, hn, hleaves⟩ :=
        h.replaced ((Setting.mem_sites hinv).mpr (.inl ⟨spec, .inl ⟨hspec, rfl⟩⟩)) first
      rcases (Setting.mem_sites hinv).mp hn with
        ⟨_, ⟨-, hx⟩ | ⟨-, hx⟩⟩ | ⟨_, _, _, -, -, hx, -, hin⟩
      · obtain rfl := (Prod.mk.inj hx).2
        obtain ⟨w, w', e, hread, hall⟩ := hleaves
        exact .inside hn hread (hall z hz)
      · cases hx
      · exact absurd (.inl ⟨hr, List.prefix_refl _⟩) hin
  | succ k =>
      -- any other argument is a part of a part
      have hnot' : ∀ a, ¬ s.InSpecifier t (1 :: (k + 1) :: a) := fun a => hnot _ (by simp)
      have hskip' : ¬ s.Skips (.node shape span (first :: items)) (k + 1) := by
        simp [Setting.Skips, hr', hs']
      have hin' : ∀ a, ¬ s.InSpecifier (.node shape span (first :: items)) a := by
        simp [Setting.InSpecifier, hr', hs']
      have hfills : Fills box s g (edits.inside [1, k + 1]) := h.inside fun a m =>
        (Setting.mem_sites_part hinv hskip hargs (hnot' a)).trans
          (Setting.mem_sites_part hinv' hskip' hg (hin' _))
      exact .part hinv hskip hargs (hnot' _) (.part hinv' hskip' hg (hin' _)
        (ih g (List.mem_of_getElem? hg) _ hfills z hz))

end Fills

/-- Whatever a tree holds after its sites have been filled in remains for a reason. -/
theorem Fills.remains {edits : Edits} {x : Address × Found}
    (hundefined : "undefined" ∉ s.keywords.names) (h : Fills box s t edits)
    (hx : x ∈ s.sites (t.edit edits)) : Remains box s t x.1 x.2 := by
  induction t using Ast.induction₂ generalizing edits x with
  | node shape span parts ih ih' =>
      cases hinv : s.invocation? (.node shape span parts) with
      | some j => exact h.remains_invocation hinv hx
      | none =>
          rw [Ast.edit_node (h.not_root hinv)] at hx
          rcases (Setting.mem_sites (h.invocation_eq_none hundefined hinv)).mp hx with
            ⟨spec, ⟨hr, rfl⟩ | ⟨hs, rfl⟩⟩ | ⟨i, c', y, hc', hy, rfl, -, -⟩
          · obtain ⟨m, hm⟩ := h.site_of_require hinv hr
            exact .spliced hm rfl
          · obtain ⟨m, hm⟩ := h.site_of_source hinv hs
            exact .spliced hm rfl
          · rw [Ast.parts, Ast.getElem?_editFrom, Nat.zero_add] at hc'
            obtain ⟨c, hc, rfl⟩ := Option.map_eq_some_iff.mp hc'
            have hmem := List.mem_of_getElem? hc
            -- the part was overlooked, holds the specifier, or was gone through
            by_cases hskip : s.Skips (.node shape span parts) i
            · exact .overlooked (.here hinv hskip)
            by_cases hspec : ∃ a, s.InSpecifier (.node shape span parts) (i :: a)
            · obtain ⟨a, ⟨hr, ha⟩ | ⟨hs, ha⟩⟩ := hspec
              · obtain ⟨rfl, -⟩ := List.cons_prefix_cons.mp ha
                exact h.remains_arguments hinv hr hc
                  (fun d hd edits h x hx => ih' c hmem d hd h hx) hy
              · obtain ⟨rfl, -⟩ := List.cons_prefix_cons.mp ha
                rw [h.sites_source hinv hs c] at hy
                cases hy
            · have hnot : ∀ a, ¬ s.InSpecifier (.node shape span parts) (i :: a) :=
                fun a ha => hspec ⟨a, ha⟩
              have hfills : Fills box s c (edits.inside [i]) :=
                h.inside fun a m => Setting.mem_sites_part hinv hskip hc (hnot a)
              exact .part hinv hskip hc (hnot _) (ih c hmem hfills hy)

/-! ## The second pass -/

theorem isValid_of_evaluate (hbox : box.IsValid) {literal file : String} {b b' : σ} {o : Outcome}
    (h : box.evaluate literal file b = (.ok o, b')) : o.IsValid := by
  unfold Evaluator.evaluate at h
  split at h
  · obtain ⟨ho, -⟩ := Prod.mk.inj h
    obtain rfl := Except.ok.inj ho
    trivial
  split at h
  · cases h
  · exact hbox _ _ _ _ h

/-- A value brings in neither matches nor names, and `undefined` no other name than itself. -/
theorem toExpr_cases {o : Outcome} {span : Span} {file : String} {w w' : Workbench} (ho : o.IsValid)
    (h : o.toExpr span file w = (.ok e, w')) :
    s.sites e = [] ∧ e.items = [] ∧ (∀ n, unboundName? e = some n → n = "undefined") ∨
      ∃ source e', o = .callable source ∧ e = .node .paren span [e'] := by
  cases o with
  | absent =>
      obtain ⟨he, -⟩ := Prod.mk.inj h
      obtain rfl := Except.ok.inj he
      exact .inl ⟨rfl, rfl, fun n hn => (Option.some.inj hn).symm⟩
  | callable source =>
      unfold Outcome.toExpr at h
      dsimp only at h
      split at h
      · obtain ⟨he, -⟩ := Prod.mk.inj h
        exact .inr ⟨source, _, rfl, (Except.ok.inj he).symm⟩
      · cases h
  | structural json =>
      obtain ⟨text, hjson⟩ := ho
      obtain ⟨hcheck, hall⟩ := Outcome.ofJson_eq hjson
      obtain ⟨d, hd⟩ := Json.check_spells hcheck
      obtain ⟨cs, hcs, hcut⟩ := hall d hd
      obtain rfl := Outcome.structural.inj hcut
      obtain ⟨v, w'', hread, hbare⟩ := readExpr_text hcs w file
      unfold Outcome.toExpr at h
      dsimp only at h
      rw [hread] at h
      obtain ⟨he, -⟩ := Prod.mk.inj h
      obtain rfl := Except.ok.inj he
      -- the literal of a document holds no match, has no items and is no name
      have hinert := isInert_of_bare hbare
      refine .inl ⟨List.eq_nil_iff_forall_not_mem.mpr fun x hx => ?_, ?_, ?_⟩
      · have hfound := Setting.found_of_site hx
        rw [found_inert s hinert] at hfound
        cases hfound
      all_goals
        obtain ⟨shape, sp, parts⟩ := v
        obtain ⟨hshape, -⟩ := Ast.isInert_node.mp hinert
        unfold Shape.isInert at hshape
        split at hshape
      all_goals first | rfl | (intro n hn; cases hn) | cases hshape

/-- The matches in a tree whose sites have been settled remain for a reason. -/
theorem SettlesAll.remains (hbox : box.IsValid) (hundefined : "undefined" ∉ s.keywords.names)
    {w w' : Workshop σ} {calls : List Invocation} {edits : Edits}
    (h : SettlesAll box s (s.sites t) w calls edits none w') {x : Address × Found}
    (hx : x ∈ s.sites (t.edit edits)) : Remains box s t x.1 x.2 := by
  induction t using specifier_induction s generalizing w w' calls edits x with
  | step t ih =>
      refine Fills.remains hundefined ⟨fun a e he => ?_, fun a m hm => ?_⟩ hx
      · obtain ⟨m, w₁, w₂, calls₁, hm, hsettled⟩ := h.settles he
        refine ⟨m, hm, ?_⟩
        cases hsettled with
        | invocation heval hexpr =>
            rcases toExpr_cases (isValid_of_evaluate hbox heval) hexpr with
              hplain | ⟨src, e', rfl, he'⟩
            · exact .inl hplain
            · exact .inr ⟨_, src, _, _, e', heval, he'⟩
        | require hreads =>
            cases hreads with
            | expanded hread hall =>
                have hspec : _ ∈ s.specifiers t :=
                  List.mem_filterMap.mpr ⟨.require _, Setting.found_of_site hm, rfl⟩
                exact ⟨_, _, _, hread, fun y hy => ih _ hspec _ _ _ hread hall hy⟩
        | source hreads => exact rfl
      · have ha : a ∈ edits.map Prod.fst := h.addresses ▸ List.mem_map_of_mem hm
        obtain ⟨⟨b, e⟩, he, rfl⟩ := List.mem_map.mp ha
        exact ⟨e, he⟩

/-- An expansion that meets no match changes nothing and evaluates nothing. -/
theorem run_of_no_sites (h : s.sites t = []) {p : Progress σ} (hp : p.failure = none) :
    run box s t p = (t, p) := by
  obtain ⟨edits, ⟨calls, hsettles, hcount⟩, hedit⟩ := run_explained box s t p hp
  rw [h] at hsettles
  generalize run box s t p = r at *
  obtain ⟨t', bench, b, expanded, failure⟩ := r
  obtain ⟨bench₀, b₀, expanded₀, failure₀⟩ := p
  dsimp only [Progress.workshop] at *
  cases hsettles
  rw [hedit, hcount rfl, hp, Ast.edit_nil]
  rfl

/-- With the switch for specifiers off, what remains was brought in by a definition that an
    invocation of the tree has given. -/
theorem Remains.callable (hoff : s.expandSpecifiers = false) {i : Invocation}
    (h : Remains box s t a (.invocation i)) :
    ∃ c j b b' source, (c, .invocation j) ∈ s.sites t ∧
      box.evaluate j.literal s.file b = (.ok (.callable source), b') := by
  cases h with
  | spliced hsite hn => cases hn
  | definition hsite heval => exact ⟨_, _, _, _, _, hsite, heval⟩
  | overlooked h => exact absurd h (Setting.not_overlooks_of_off hoff t a)
  | inside hsite hread h =>
      obtain ⟨c, hc, hspec⟩ := Setting.sites_at hsite
      exact absurd ((Setting.specifier?_eq_some hspec).1.symm.trans hoff) Bool.noConfusion

/-- A text in which no match is found is only printed again; nothing is evaluated. -/
theorem source_of_no_sites {pass : Pass} {text file : String} {u : Ast} {bench : Workbench}
    (hread : ({} : Workbench).readProgram file text (.ofFileName file) = (.ok u, bench))
    (h : (pass.setting file).sites u.resolve = []) (b : σ) :
    pass.source box text file b = (.ok (bench.print u.resolve).1, b) := by
  have hprogram : pass.program box file u bench b = (u.resolve, { bench, box := b }) :=
    run_of_no_sites h rfl
  unfold Pass.source
  rw [hread]
  dsimp only
  rw [hprogram]

/-- What an expansion that succeeds leaves for another one. Each match in the tree that it leaves is
    a specifier in the place of a site, lies in a definition that was put in, or was overlooked, in
    the tree or in the text of a specifier; with the switch off it can only lie in a definition, so
    that there is none if no invocation of the tree gives a function or class.  Where no match is
    left, another expansion changes nothing, and a text in which none is read is printed again. -/
theorem program_remains {pass : Pass} {file : String} {t t' : Ast} {bench : Workbench} {b : σ}
    {q : Progress σ} (hbox : box.IsValid) (hundefined : "undefined" ∉ pass.keywords.names)
    (h : pass.program box file t bench b = (t', q)) (hq : q.failure = none) :
    let s := pass.setting file
    (∀ x ∈ s.sites t', Remains box s t.resolve x.1 x.2) ∧
      (pass.options.expandSpecifiers = false →
        (∀ a i b b' source, (a, .invocation i) ∈ s.sites t.resolve →
          box.evaluate i.literal s.file b ≠ (.ok (.callable source), b')) →
        s.sites t' = []) ∧
      (s.sites t' = [] → ∀ {τ : Type} (box' : Evaluator τ) (p : Progress τ), p.failure = none →
        run box' s t' p = (t', p)) ∧
      (∀ text u bench',
        ({} : Workbench).readProgram file text (.ofFileName file) = (.ok u, bench') →
        s.sites u.resolve = [] → ∀ {τ : Type} (box' : Evaluator τ) (c : τ),
        pass.source box' text file c = (.ok (bench'.print u.resolve).1, c)) := by
  intro s
  obtain ⟨calls, edits, hsettles, rfl⟩ := program_settles h
  rw [hq] at hsettles
  have hremains := fun x hx => hsettles.remains hbox hundefined (x := x) hx
  refine ⟨hremains, fun hoff hcallable => ?_, fun hsites _ box' p hp => run_of_no_sites hsites hp,
    fun text u bench' hread hsites _ box' c => source_of_no_sites hread hsites c⟩
  refine List.eq_nil_iff_forall_not_mem.mpr fun x hx => ?_
  obtain ⟨c, hc, hmatch⟩ := Setting.sites_at hx
  have hx' := hremains x hx
  obtain ⟨a, n⟩ := x
  cases n with
  | invocation i =>
      obtain ⟨d, j, b, b', source, hsite, heval⟩ := hx'.callable hoff
      exact hcallable d j b b' source hsite heval
  | require spec | source spec =>
      -- a specifier is a match only while specifiers are expanded
      exact absurd ((Setting.specifier?_eq_some hmatch).1.symm.trans hoff) Bool.noConfusion

/-- The engine leaves an invocation among the type arguments of a call whose specifier it expands.
    It leaves nothing where specifiers are off and the fragments export nothing. -/
theorem program_remains_type_argument :
    (let s := usualPass.setting "a.ts"
      let t := treeOf "require<\x7b [precall`1`]: 1 \x7d>(\"precall``\");"
      let r := usualPass.program engineEvaluator "a.ts" t {} ()
      r.2.failure = none ∧ (s.sites r.1).map Prod.fst = [[0, 0, 2, 0, 0, 0]] ∧
        ∃ n, Remains engineEvaluator s t.resolve [0, 0, 2, 0, 0, 0] n) ∧
      (let pass := usualPass.switched false
        let s := pass.setting "a.ts"
        let t := treeOf "f(precall``, \"precall`1`\");"
        let r := pass.program engineEvaluator "a.ts" t {} ()
        r.2.failure = none ∧ (s.sites t.resolve).map Prod.fst = [[0, 0, 1, 0]] ∧
          s.sites r.1 = []) := by
  constructor
  · intro s t r
    have hnone : r.2.failure = none := by decide +kernel
    have hsites : (s.sites r.1).map Prod.fst = [[0, 0, 2, 0, 0, 0]] := by decide +kernel
    have hmem : [0, 0, 2, 0, 0, 0] ∈ (s.sites r.1).map Prod.fst :=
      hsites ▸ List.mem_singleton_self _
    obtain ⟨x, hx, hxa⟩ := List.mem_map.mp hmem
    obtain ⟨hremains, -⟩ :=
      program_remains engineEvaluator_isValid (by decide) (Prod.eta r).symm hnone
    exact ⟨hnone, hsites, x.2, hxa ▸ hremains x hx⟩
  · intro pass s t r
    have hnone : r.2.failure = none := by decide +kernel
    obtain ⟨-, hoff, -⟩ :=
      program_remains engineEvaluator_isValid (by decide) (Prod.eta r).symm hnone
    have hsites : (s.sites t.resolve).map Prod.fst = [[0, 0, 1, 0]] := by decide +kernel
    refine ⟨hnone, hsites, hoff rfl fun a i b b' source hi heval => ?_⟩
    obtain rfl : a = [0, 0, 1, 0] := List.mem_singleton.mp (hsites ▸ List.mem_map_of_mem hi)
    obtain ⟨c, hc, hinv⟩ := Setting.sites_at hi
    -- the one fragment is empty
    have hempty : ((t.resolve.at? [0, 0, 1, 0]).bind s.invocation?).map Invocation.literal
        = some "" := by decide +kernel
    rw [hc, Option.bind_some, hinv] at hempty
    have habsent : (engineEvaluator.evaluate "" s.file b).1.toOption = some .absent := by
      cases b
      decide +kernel
    rw [Option.some.inj hempty] at heval
    rw [heval] at habsent
    cases habsent

/-- Exports the text of an invocation for one fragment, and a number for every other. -/
def exportingInvocation : Evaluator Unit where
  run unit b := (.ok (.structural (if unit.code == "0;\n" then "\"precall`1`\"" else "1")), b)

/-- A string that a first expansion puts into the place of a specifier is expanded by a second
    one. -/
theorem spliced_specifier_expands :
    usualPass.source exportingInvocation "require(precall`0`);" "a.ts" () =
        (.ok "require(\"precall`1`\");\n", ()) ∧
      usualPass.source exportingInvocation "require(\"precall`1`\");\n" "a.ts" () =
        (.ok "require(1);\n", ()) := by
  rewrite [Pass.source_of_dialect dialect_ts, Pass.source_of_dialect dialect_ts]
  decide +kernel

end Expansion

end Inlay
