import Inlay.Proofs.Expansion.Settling

/-! # Which invocations an expansion replaces

    A file may hold invocations anywhere.  An expansion that succeeds has replaced each of them, or
    a node around it, with two exceptions: once the first argument of a call of `require` has been
    expanded, the type arguments of the call are passed over, and once the source of an import has
    been expanded, so is everything else in the import.  An invocation in there is *overlooked*.

    * `covered_iff`: an invocation is at or below a site exactly if it is not overlooked;
    * `program_replaces`: what a successful expansion makes of every invocation. -/

namespace Inlay

open Syntax Address

namespace Setting

variable {s : Setting} {t c : Ast} {a b : Address} {i : Nat}
variable {shape : Shape} {span : Span} {parts : List Ast}

/-! ## Invocations -/

/-- A call or a tagged template whose callee or tag is a keyword that no declaration binds. -/
inductive Invokes (s : Setting) : Ast → Prop where
  | call {keyword : String} {mark : Mark} {isOptional : Bool} {span span' : Span}
      {typed : List Ast} {args : Ast} {rest : List Ast} (hmark : mark ≠ .bound)
      (hkeyword : keyword ∈ s.keywords.names) :
      Invokes s (.node .call span
        (.node (.ident keyword mark isOptional) span' typed :: args :: rest))
  | tagged {keyword : String} {mark : Mark} {isOptional : Bool} {span span' : Span}
      {typed : List Ast} {typeArgs template : Ast} (hmark : mark ≠ .bound)
      (hkeyword : keyword ∈ s.keywords.names) :
      Invokes s (.node .tagged span
        [.node (.ident keyword mark isOptional) span' typed, typeArgs, template])

/-- A callee or tag counts if it is a keyword that no declaration binds. -/
theorem keyword?_eq_some {t : Ast} {k : String} (h : s.keyword? t = some k) :
    k ∈ s.keywords.names ∧
      ∃ mark o span parts, t = .node (.ident k mark o) span parts ∧ mark ≠ .bound := by
  obtain ⟨hname, hcontains⟩ := Option.filter_eq_some_iff.mp h
  refine ⟨List.contains_iff_mem.mp hcontains, ?_⟩
  obtain ⟨shape, span, parts⟩ := t
  unfold unboundName? at hname
  split at hname
  · rename_i n m o hshape
    split at hname
    · cases hname
    · rename_i hmark
      obtain rfl := Option.some.inj hname
      obtain rfl : shape = .ident n m o := hshape
      exact ⟨m, o, span, parts, rfl, fun hm => hmark (beq_iff_eq.mpr hm)⟩
  · cases hname

theorem keyword?_ident {k : String} {mark : Mark} {o : Bool} (hmark : mark ≠ .bound)
    (hk : k ∈ s.keywords.names) : s.keyword? (.node (.ident k mark o) span parts) = some k := by
  have hname : unboundName? (.node (.ident k mark o) span parts) = some k := by
    simp [unboundName?, Ast.shape, hmark]
  rw [keyword?, hname]
  exact Option.filter_eq_some_iff.mpr ⟨rfl, List.contains_iff_mem.mpr hk⟩

/-- The invocations are the nodes that the search takes for one. -/
theorem invokes_iff : s.Invokes t ↔ (s.invocation? t).isSome := by
  constructor
  · rintro (⟨hmark, hk⟩ | ⟨hmark, hk⟩)
    · rw [invocation?, keyword?_ident hmark hk]
      rfl
    · rw [invocation?, keyword?_ident hmark hk]
      rfl
  · intro h
    obtain ⟨i, hi⟩ := Option.isSome_iff_exists.mp h
    unfold invocation? at hi
    split at hi
    · obtain ⟨k, hk, -⟩ := Option.bind_eq_some_iff.mp hi
      obtain ⟨hmem, mark, o, span, parts, rfl, hmark⟩ := keyword?_eq_some hk
      exact .call hmark hmem
    · obtain ⟨k, hk, -⟩ := Option.bind_eq_some_iff.mp hi
      obtain ⟨hmem, mark, o, span, parts, rfl, hmark⟩ := keyword?_eq_some hk
      exact .tagged hmark hmem
    · cases hi

/-! ## What is passed over -/

/-- The address leads into the specifier of the node, which is expanded as a whole. -/
def InSpecifier (s : Setting) (t : Ast) (a : Address) : Prop :=
  (s.requireSpecifier? t).isSome ∧ [1, 0] <+: a ∨ (s.importSpecifier? t).isSome ∧ [1] <+: a

/-- An expansion does not look into the part with this number: it is among the type arguments of a
    call whose specifier is expanded, or belongs to an import whose source is. -/
def Skips (s : Setting) (t : Ast) (i : Nat) : Prop :=
  (s.requireSpecifier? t).isSome ∧ 2 ≤ i ∨ (s.importSpecifier? t).isSome ∧ i ≠ 1

/-- The address lies in a part that an expansion passes over, and nothing around that part is
    replaced. -/
inductive Overlooks (s : Setting) : Ast → Address → Prop where
  | here {t : Ast} {i : Nat} {a : Address} (hinv : s.invocation? t = none) (h : s.Skips t i) :
      Overlooks s t (i :: a)
  | part {t c : Ast} {i : Nat} {a : Address} (hinv : s.invocation? t = none)
      (hspec : ¬ s.InSpecifier t (i :: a)) (hc : t.parts[i]? = some c) (h : Overlooks s c a) :
      Overlooks s t (i :: a)

/-- A call of `require` is no import. -/
theorem importSpecifier?_of_require (h : (s.requireSpecifier? t).isSome) :
    s.importSpecifier? t = none := by
  obtain ⟨shape, span, parts⟩ := t
  obtain ⟨spec, hspec⟩ := Option.isSome_iff_exists.mp h
  obtain ⟨rfl, -⟩ := requireSpecifier?_iff.mp hspec
  rfl

theorem mem_sitesFrom {ts : List Ast} {x : Address × Found} :
    x ∈ s.sitesFrom i ts ↔ ∃ k c y, ts[k]? = some c ∧ y ∈ s.sites c ∧ x = under (i + k) y := by
  induction ts generalizing i with
  | nil =>
      rw [sitesFrom]
      constructor
      · intro h
        cases h
      · rintro ⟨k, c, y, hc, -⟩
        cases hc
  | cons t ts ih =>
      rw [sitesFrom, List.mem_append, List.mem_map, ih]
      constructor
      · rintro (⟨y, hy, rfl⟩ | ⟨k, c, y, hc, hy, rfl⟩)
        · exact ⟨0, t, y, rfl, hy, rfl⟩
        · exact ⟨k + 1, c, y, hc, hy, by rw [Nat.add_assoc, Nat.add_comm 1 k]⟩
      · rintro ⟨k, c, y, hc, hy, rfl⟩
        cases k with
        | zero =>
            obtain rfl := Option.some.inj hc
            exact .inl ⟨y, hy, rfl⟩
        | succ k => exact .inr ⟨k, c, y, hc, hy, by rw [Nat.add_assoc, Nat.add_comm 1 k]⟩

theorem not_match_of_items {first : Ast} (h : t.items.head? = some first) :
    s.invocation? t = none ∧ s.requireSpecifier? t = none ∧ s.importSpecifier? t = none := by
  unfold Ast.items at h
  split at h
  · exact ⟨rfl, rfl, rfl⟩
  · exact ⟨rfl, rfl, rfl⟩
  · cases h

theorem sites_of_items {t first : Ast} (h : t.items.head? = some first) :
    s.sites t = s.sitesFrom 0 t.parts := by
  obtain ⟨hi, hr, hs⟩ := not_match_of_items (s := s) h
  obtain ⟨shape, span, parts⟩ := t
  exact sites_parts hi hr hs

theorem require_parts (h : (s.requireSpecifier? t).isSome) :
    ∃ callee args rest first, t.parts = callee :: args :: rest ∧
      args.items.head? = some first := by
  obtain ⟨shape, span, parts⟩ := t
  obtain ⟨spec, hspec⟩ := Option.isSome_iff_exists.mp h
  obtain ⟨-, callee, args, rest, first, rfl, -, hfirst, -⟩ := requireSpecifier?_iff.mp hspec
  exact ⟨callee, args, rest, first, rfl, hfirst⟩

/-- The sites in the arguments of a call behind the first one. -/
theorem mem_argSites {first : Ast} (h : t.items.head? = some first) {x : Address × Found} :
    x ∈ s.argSites t ↔ x ∈ s.sites t ∧ ¬ [0] <+: x.1 := by
  rw [sites_of_items h, mem_sitesFrom]
  obtain ⟨shape, span, args, rfl⟩ := node_of_head?_items h
  rw [argSites, mem_sitesFrom]
  constructor
  · rintro ⟨k, c, y, hc, hy, rfl⟩
    refine ⟨⟨k + 1, c, y, hc, hy, by rw [Nat.zero_add, Nat.add_comm]⟩, fun hp => ?_⟩
    have := (List.cons_prefix_cons.mp hp).1
    omega
  · rintro ⟨⟨k, c, y, hc, hy, rfl⟩, hnot⟩
    cases k with
    | zero => exact absurd (List.cons_prefix_cons.mpr ⟨rfl, List.nil_prefix⟩) hnot
    | succ k => exact ⟨k, c, y, hc, hy, by rw [Nat.zero_add, Nat.add_comm]⟩

/-- The sites of a node that is no invocation: its specifier, if it has one, and the sites of the
    parts that are looked into. -/
theorem mem_sites (hinv : s.invocation? t = none) {x : Address × Found} :
    x ∈ s.sites t ↔
      (∃ spec, s.requireSpecifier? t = some spec ∧ x = ([1, 0], .require spec) ∨
        s.importSpecifier? t = some spec ∧ x = ([1], .source spec)) ∨
      ∃ i c y, t.parts[i]? = some c ∧ y ∈ s.sites c ∧ x = under i y ∧ ¬ s.Skips t i ∧
        ¬ s.InSpecifier t x.1 := by
  obtain ⟨shape, span, parts⟩ := t
  -- a call with a specifier, an import, and any other node have their own lists of sites
  cases hr : s.requireSpecifier? (.node shape span parts) with
  | some spec =>
      have hsome : (s.requireSpecifier? (.node shape span parts)).isSome := by rw [hr]; rfl
      have himport := importSpecifier?_of_require hsome
      obtain ⟨callee, args, rest, first, rfl, hfirst⟩ := require_parts hsome
      rw [sites_require hinv hr, List.mem_cons, callSites, List.mem_append, List.mem_map,
        List.mem_map]
      simp only [Skips, InSpecifier, hr, himport]
      constructor
      · rintro (rfl | ⟨y, hy, rfl⟩ | ⟨y, hy, rfl⟩)
        · exact .inl ⟨spec, .inl ⟨rfl, rfl⟩⟩
        · exact .inr ⟨0, callee, y, rfl, hy, rfl, by simp, by simp [under]⟩
        · obtain ⟨hy, hnot⟩ := (mem_argSites hfirst).mp hy
          refine .inr ⟨1, args, y, rfl, hy, rfl, by simp, ?_⟩
          rintro (⟨-, hp⟩ | ⟨hfalse, -⟩)
          · exact hnot (List.cons_prefix_cons.mp hp).2
          · cases hfalse
      · rintro (⟨spec', ⟨heq, rfl⟩ | ⟨heq, -⟩⟩ | ⟨i, c, y, hc, hy, rfl, hskip, hin⟩)
        · obtain rfl := Option.some.inj heq
          exact .inl rfl
        · cases heq
        · rcases i with _ | _ | i
          · obtain rfl := Option.some.inj hc
            exact .inr (.inl ⟨y, hy, rfl⟩)
          · obtain rfl := Option.some.inj hc
            refine .inr (.inr ⟨y, (mem_argSites hfirst).mpr ⟨hy, fun hp => ?_⟩, rfl⟩)
            exact hin (.inl ⟨rfl, List.cons_prefix_cons.mpr ⟨rfl, hp⟩⟩)
          · exact absurd (.inl ⟨rfl, by omega⟩) hskip
  | none =>
      cases hs : s.importSpecifier? (.node shape span parts) with
      | some spec =>
          rw [sites_source hinv hr hs, List.mem_singleton]
          simp only [Skips, InSpecifier, hr, hs]
          constructor
          · rintro rfl
            exact .inl ⟨spec, .inr ⟨rfl, rfl⟩⟩
          · rintro (⟨spec', ⟨heq, -⟩ | ⟨heq, rfl⟩⟩ | ⟨i, c, y, hc, hy, rfl, hskip, hin⟩)
            · cases heq
            · obtain rfl := Option.some.inj heq
              rfl
            · by_cases hi : i = 1
              · exact absurd (.inr ⟨rfl, List.cons_prefix_cons.mpr ⟨hi.symm, List.nil_prefix⟩⟩) hin
              · exact absurd (.inr ⟨rfl, hi⟩) hskip
      | none =>
          rw [sites_parts hinv hr hs, mem_sitesFrom]
          simp only [Skips, InSpecifier, hr, hs]
          constructor
          · rintro ⟨k, c, y, hc, hy, rfl⟩
            exact .inr ⟨k, c, y, hc, hy, by rw [Nat.zero_add], by simp, by simp⟩
          · rintro (⟨spec', ⟨heq, -⟩ | ⟨heq, -⟩⟩ | ⟨k, c, y, hc, hy, rfl, -, -⟩)
            · cases heq
            · cases heq
            · exact ⟨k, c, y, hc, hy, by rw [Nat.zero_add]⟩

theorem InSpecifier.mono (h : s.InSpecifier t a) (hab : a <+: b) : s.InSpecifier t b :=
  h.imp (fun h => ⟨h.1, h.2.trans hab⟩) fun h => ⟨h.1, h.2.trans hab⟩

theorem InSpecifier.covered (hinv : s.invocation? t = none) (h : s.InSpecifier t a) :
    ∃ x ∈ s.sites t, x.1 <+: a := by
  rcases h with ⟨h, ha⟩ | ⟨h, ha⟩
  · obtain ⟨spec, hspec⟩ := Option.isSome_iff_exists.mp h
    exact ⟨_, (mem_sites hinv).mpr (.inl ⟨spec, .inl ⟨hspec, rfl⟩⟩), ha⟩
  · obtain ⟨spec, hspec⟩ := Option.isSome_iff_exists.mp h
    exact ⟨_, (mem_sites hinv).mpr (.inl ⟨spec, .inr ⟨hspec, rfl⟩⟩), ha⟩

/-- An invocation is at or below a site unless it is overlooked. -/
theorem covered_or_overlooked (hc : t.at? a = some c) (h : s.Invokes c) :
    (∃ x ∈ s.sites t, x.1 <+: a) ∨ s.Overlooks t a := by
  have hroot : ∀ {t : Ast}, (s.invocation? t).isSome → ∀ a, ∃ x ∈ s.sites t, x.1 <+: a := by
    intro t ht a
    obtain ⟨shape, span, parts⟩ := t
    obtain ⟨i, hi⟩ := Option.isSome_iff_exists.mp ht
    rw [sites_invocation hi]
    exact ⟨_, List.mem_singleton_self _, List.nil_prefix⟩
  induction a generalizing t with
  | nil =>
      obtain rfl := Option.some.inj hc
      exact .inl (hroot (invokes_iff.mp h) [])
  | cons i a ih =>
      cases hinv : s.invocation? t with
      | some inv => exact .inl (hroot (by rw [hinv]; rfl) _)
      | none =>
          by_cases hskip : s.Skips t i
          · exact .inr (.here hinv hskip)
          by_cases hin : s.InSpecifier t (i :: a)
          · exact .inl (hin.covered hinv)
          obtain ⟨p, hp, hpa⟩ := Option.bind_eq_some_iff.mp hc
          rcases ih hpa with ⟨x, hx, hxa⟩ | hover
          · have hxia : i :: x.1 <+: i :: a := List.cons_prefix_cons.mpr ⟨rfl, hxa⟩
            refine .inl ⟨under i x, (mem_sites hinv).mpr (.inr ?_), hxia⟩
            exact ⟨i, p, x, hp, hx, rfl, hskip, fun h => hin (h.mono hxia)⟩
          · exact .inr (.part hinv hin hp hover)

/-- No site is at, around or inside what is overlooked. -/
theorem Overlooks.apart (h : s.Overlooks t a) {x : Address × Found} (hx : x ∈ s.sites t) :
    Apart x.1 a := by
  induction h generalizing x with
  | @here t i a hinv hskip =>
      rcases (mem_sites hinv).mp hx with
        ⟨spec, ⟨hr, rfl⟩ | ⟨hs, rfl⟩⟩ | ⟨j, c, y, hc, hy, rfl, hnot, -⟩
      · have hs := importSpecifier?_of_require (s := s) (t := t) (by rw [hr]; rfl)
        rcases hskip with ⟨-, hi⟩ | ⟨himport, -⟩
        · exact apart_of_ne (by omega) _ _
        · rw [hs] at himport
          cases himport
      · rcases hskip with ⟨hrequire, -⟩ | ⟨-, hi⟩
        · rw [importSpecifier?_of_require hrequire] at hs
          cases hs
        · exact apart_of_ne (Ne.symm hi) _ _
      · refine apart_of_ne ?_ _ _
        rintro rfl
        exact hnot hskip
  | @part t c i a hinv hspec hc hover ih =>
      -- the specifier of the node does not lie on the way to the address
      rcases (mem_sites hinv).mp hx with
        ⟨spec, ⟨hr, rfl⟩ | ⟨hs, rfl⟩⟩ | ⟨j, c', y, hc', hy, rfl, -, -⟩
      · by_cases hi : 1 = i
        · subst hi
          have hne : ∀ j a', a = j :: a' → 0 ≠ j := by
            rintro j a' rfl rfl
            refine hspec (.inl ⟨by rw [hr]; rfl, ?_⟩)
            exact List.cons_prefix_cons.mpr ⟨rfl, List.cons_prefix_cons.mpr ⟨rfl, List.nil_prefix⟩⟩
          rw [apart_cons]
          cases hover with
          | here => exact apart_of_ne (hne _ _ rfl) _ _
          | part => exact apart_of_ne (hne _ _ rfl) _ _
        · exact apart_of_ne hi _ _
      · refine apart_of_ne (fun hi => hspec (.inr ⟨by rw [hs]; rfl, ?_⟩)) _ _
        exact List.cons_prefix_cons.mpr ⟨hi, List.nil_prefix⟩
      · by_cases hj : j = i
        · subst hj
          obtain rfl := Option.some.inj (hc.symm.trans hc')
          exact apart_cons.mpr (ih hy)
        · exact apart_of_ne hj _ _

/-- An invocation is at or below a site exactly if it is not overlooked. -/
theorem covered_iff (hc : t.at? a = some c) (h : s.Invokes c) :
    (∃ x ∈ s.sites t, x.1 <+: a) ↔ ¬ s.Overlooks t a := by
  constructor
  · rintro ⟨x, hx, hxa⟩ hover
    exact (hover.apart hx).1 hxa
  · exact fun hnot => (covered_or_overlooked hc h).resolve_right hnot

end Setting

namespace Expansion

variable {σ : Type} {box : Evaluator σ}

/-- What an expansion that succeeds makes of the invocations of a program, wherever they stand.
    Each of them is replaced, or a node around it is, exactly if it is not overlooked; one that is
    overlooked is still there. -/
theorem program_replaces {pass : Pass} {file : String} {t t' : Ast} {bench : Workbench} {b : σ}
    {q : Progress σ} (h : pass.program box file t bench b = (t', q)) (hq : q.failure = none) :
    let s := pass.setting file
    ∃ calls edits, SettlesAll box s (s.sites t.resolve) ⟨bench, b⟩ calls edits none q.workshop ∧
      t' = t.resolve.edit edits ∧ (∀ x ∈ edits, t'.at? x.1 = some x.2) ∧
      ∀ a c, t.resolve.at? a = some c → s.Invokes c →
        ((∃ x ∈ edits, x.1 <+: a) ↔ ¬ s.Overlooks t.resolve a) ∧
        (s.Overlooks t.resolve a → t'.at? a = some c) := by
  intro s
  obtain ⟨calls, edits, hsettles, rfl⟩ := program_settles h
  rw [hq] at hsettles
  refine ⟨calls, edits, hsettles, rfl,
    fun x hx => at?_edit_settled hsettles (List.append_nil _).symm hx, fun a c hc hi => ⟨?_, ?_⟩⟩
  · rw [← Setting.covered_iff hc hi]
    -- sites and edits have the same addresses
    have hmem : ∀ d, d ∈ edits.map Prod.fst ↔ d ∈ (s.sites t.resolve).map Prod.fst := by
      rw [hsettles.addresses]
      exact fun _ => Iff.rfl
    constructor
    · rintro ⟨x, hx, hxa⟩
      obtain ⟨y, hy, hyx⟩ := List.mem_map.mp ((hmem _).mp (List.mem_map_of_mem hx))
      exact ⟨y, hy, hyx ▸ hxa⟩
    · rintro ⟨x, hx, hxa⟩
      obtain ⟨y, hy, hyx⟩ := List.mem_map.mp ((hmem _).mpr (List.mem_map_of_mem hx))
      exact ⟨y, hy, hyx ▸ hxa⟩
  · intro hover
    rw [at?_edit_of_sites hsettles fun x hx => hover.apart hx, hc]

/-- An evaluator for which every fragment exports the same value. -/
def exporting (json : String) : Evaluator Unit := ⟨fun _ b => (.ok (.structural json), b)⟩

/-- What a file with the extension `ts` may use. -/
theorem dialect_ts : Dialect.ofFileName "a.ts" =
    { isTypeScript := true, hasMarkup := false, hasDecorators := true } := by
  have hextension : ((Path.extension? "a.ts").map String.toLower).getD "" = "ts" := by
    cbv
  -- unfolding by the equation would have Lean split the table of extensions first
  delta Dialect.ofFileName
  rw [hextension]
  rfl

def treeOf (text : String) : Ast :=
  match ({} : Workbench).readProgram "a.ts" text
    { isTypeScript := true, hasMarkup := false, hasDecorators := true } with
  | (.ok t, _) => t
  | (.error _, _) => .absent

/-- An invocation in a decorator is replaced. -/
theorem program_replaces_decorator :
    let s := usualPass.setting "a.ts"
    let t := treeOf "@precall`1` class A \x7b\x7d"
    let r := usualPass.program (exporting "7") "a.ts" t {} ()
    r.2.failure = none ∧ ∃ a c, t.resolve.at? a = some c ∧ s.Invokes c ∧
      ¬ s.Overlooks t.resolve a ∧ ∃ edits, r.1 = t.resolve.edit edits ∧ ∃ x ∈ edits, x.1 <+: a := by
  intro s t r
  have hnone : r.2.failure = none := by decide +kernel
  have hsites : (s.sites t.resolve).map Prod.fst = [[0, 1, 0, 0, 0]] := by decide +kernel
  have hinv : ((t.resolve.at? [0, 1, 0, 0, 0]).bind s.invocation?).isSome := by decide +kernel
  obtain ⟨i, hi⟩ := Option.isSome_iff_exists.mp hinv
  obtain ⟨c, hc, hci⟩ := Option.bind_eq_some_iff.mp hi
  have hinvokes : s.Invokes c := Setting.invokes_iff.mpr (Option.isSome_iff_exists.mpr ⟨i, hci⟩)
  obtain ⟨calls, edits, hsettles, hedit, -, hall⟩ := program_replaces (Prod.eta r).symm hnone
  have hcovered : ∃ x ∈ edits, x.1 <+: [0, 1, 0, 0, 0] := by
    have hmem : [0, 1, 0, 0, 0] ∈ edits.map Prod.fst :=
      hsettles.addresses.trans hsites ▸ List.mem_singleton_self _
    obtain ⟨x, hx, hxa⟩ := List.mem_map.mp hmem
    exact ⟨x, hx, hxa ▸ List.prefix_refl _⟩
  exact ⟨hnone, _, c, hc, hinvokes, (hall _ c hc hinvokes).1.mp hcovered, edits, hedit, hcovered⟩

/-- An invocation in the attributes of an import whose source is expanded is still there after an
    expansion that succeeds. -/
theorem attribute_overlooked :
    usualPass.source (exporting "\"./a\"")
        "import x from \"precall`1`\" with \x7b type: precall`2` \x7d;" "a.ts" () =
      (.ok "import x from \"./a\" with \x7b\n    type: precall`2`\n\x7d;\n", ()) := by
  rewrite [Pass.source_of_dialect dialect_ts]
  decide +kernel

end Expansion

end Inlay
