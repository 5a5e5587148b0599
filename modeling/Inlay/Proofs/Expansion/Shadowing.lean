import Inlay.Proofs.Expansion.Coverage

/-! # Keywords that a declaration binds

    A call or a tagged template whose keyword a declaration of the file binds is *shadowed*.  It is
    no match, so it is not evaluated, and it stays where it is with its keyword; only matches inside
    its arguments are expanded (`program_keeps_shadowed`).

    The names in the text of a specifier are never resolved, and a name without a mark counts as
    unbound.  So the same does not hold there (`specifier_ignores_scope`). -/

namespace Inlay.Syntax

theorem Ast.at?_append (t : Ast) (a b : Address) :
    t.at? (a ++ b) = (t.at? a).bind fun c => c.at? b := by
  induction a generalizing t with
  | nil => rfl
  | cons i a ih =>
      rw [List.cons_append, at?, at?]
      cases t.parts[i]? with
      | none => rfl
      | some c => exact ih c

end Inlay.Syntax

namespace Inlay

open Syntax Address

namespace Setting

variable {s : Setting} {t c : Ast} {a : Address}

/-! ## Shadowed invocations -/

/-- A call or a tagged template whose callee or tag is a keyword that a declaration binds. -/
inductive Shadowed (s : Setting) : Ast → Prop where
  | call {keyword : String} {isOptional : Bool} {span span' : Span} {typed : List Ast} {args : Ast}
      {rest : List Ast} (hkeyword : keyword ∈ s.keywords.names) :
      Shadowed s (.node .call span
        (.node (.ident keyword .bound isOptional) span' typed :: args :: rest))
  | tagged {keyword : String} {isOptional : Bool} {span span' : Span} {typed : List Ast}
      {typeArgs template : Ast} (hkeyword : keyword ∈ s.keywords.names) :
      Shadowed s (.node .tagged span
        [.node (.ident keyword .bound isOptional) span' typed, typeArgs, template])

def isShadowed (s : Setting) : Ast → Bool
  | .node .call _ (.node (.ident n .bound _) _ _ :: _ :: _) => s.keywords.contains n
  | .node .tagged _ [.node (.ident n .bound _) _ _, _, _] => s.keywords.contains n
  | _ => false

theorem isShadowed_iff : s.isShadowed c = true ↔ s.Shadowed c := by
  constructor
  · intro h
    unfold isShadowed at h
    split at h
    · exact .call (List.contains_iff_mem.mp h)
    · exact .tagged (List.contains_iff_mem.mp h)
    · cases h
  · intro h
    cases h with
    | call hkeyword => exact List.contains_iff_mem.mpr hkeyword
    | tagged hkeyword => exact List.contains_iff_mem.mpr hkeyword

theorem not_invokes_of_shadowed (h : s.Shadowed c) : ¬ s.Invokes c := by
  intro hi
  cases h with
  | call _ => cases hi with | call hmark _ => exact hmark rfl
  | tagged _ => cases hi with | tagged hmark _ => exact hmark rfl

theorem not_matches_of_shadowed (h : s.Shadowed c) (m : Found) : ¬ s.Matches c m := by
  intro hm
  cases m with
  | invocation i =>
      exact not_invokes_of_shadowed h (invokes_iff.mpr (Option.isSome_iff_exists.mpr ⟨i, hm⟩))
  | require spec => cases h <;> cases hm
  | source spec => cases h <;> cases hm

theorem not_matches_ident {n : String} {mark : Mark} {o : Bool} {span : Span} {parts : List Ast}
    (m : Found) : ¬ s.Matches (.node (.ident n mark o) span parts) m := by
  intro hm
  cases m <;> cases hm

theorem sites_ne_of_shadowed (hc : t.at? a = some c) (h : s.Shadowed c) {x : Address × Found}
    (hx : x ∈ s.sites t) : x.1 ≠ a := by
  intro hxa
  obtain ⟨d, hd, hm⟩ := sites_at hx
  obtain rfl : d = c := Option.some.inj ((hxa ▸ hd).symm.trans hc)
  exact not_matches_of_shadowed h x.2 hm

theorem Shadowed.keyword (h : s.Shadowed c) :
    ∃ n o span parts, c.at? [0] = some (.node (.ident n .bound o) span parts) := by
  cases h with
  | call _ => exact ⟨_, _, _, _, rfl⟩
  | tagged _ => exact ⟨_, _, _, _, rfl⟩

/-- Edits below a shadowed invocation and not at its keyword leave it shadowed. -/
theorem Shadowed.edit {edits : Edits} (h : s.Shadowed c) (hroot : edits.From 0)
    (hkey : (edits.within 0).From 0) :
    s.Shadowed (c.edit edits) ∧ (c.edit edits).shape = c.shape ∧ (c.edit edits).span = c.span := by
  cases h with
  | call hkeyword =>
      rw [Ast.edit_node hroot, Ast.editFrom, Ast.editFrom, Ast.edit_node hkey]
      exact ⟨.call hkeyword, rfl, rfl⟩
  | tagged hkeyword =>
      rw [Ast.edit_node hroot, Ast.editFrom, Ast.editFrom, Ast.editFrom, Ast.editFrom,
        Ast.edit_node hkey]
      exact ⟨.tagged hkeyword, rfl, rfl⟩

end Setting

namespace Expansion

variable {σ : Type} {box : Evaluator σ} {s : Setting}

/-! ## What is evaluated -/

/-- An invocation was evaluated for a specifier: it stands in the text of the specifier, or in that
    of a specifier there. -/
def EvaluatedFor (box : Evaluator σ) (s : Setting) (i : Invocation) (spec : Specifier) : Prop :=
  ∃ w calls r w', Reads box s spec w calls r w' ∧ i ∈ calls

/-- An invocation that was evaluated for a match is the match, or the match is a specifier. -/
theorem Settles.mem_calls {m : Found} {w w' : Workshop σ} {calls : List Invocation}
    {r : Except Failure Ast} (h : Settles box s m w calls r w') {i : Invocation} (hi : i ∈ calls) :
    m = .invocation i ∨ ∃ spec, (m = .require spec ∨ m = .source spec) ∧
      EvaluatedFor box s i spec := by
  cases h with
  | invocation _ _ | not_evaluated _ | not_expressible _ _ =>
      exact .inl (congrArg Found.invocation (List.mem_singleton.mp hi).symm)
  | require h => exact .inr ⟨_, .inl rfl, _, _, _, _, h, hi⟩
  | source h => exact .inr ⟨_, .inr rfl, _, _, _, _, h, hi⟩
  | source_not_string h _ => exact .inr ⟨_, .inr rfl, _, _, _, _, h, hi⟩
  | source_failed h => exact .inr ⟨_, .inr rfl, _, _, _, _, h, hi⟩

/-- What was evaluated for sites was evaluated for one of them. -/
theorem SettlesAll.mem_calls {sites : List (Address × Found)} {w w' : Workshop σ}
    {calls : List Invocation} {edits : Edits} {f : Option Failure}
    (h : SettlesAll box s sites w calls edits f w') {i : Invocation} (hi : i ∈ calls) :
    ∃ x ∈ sites, x.2 = .invocation i ∨ ∃ spec, (x.2 = .require spec ∨ x.2 = .source spec) ∧
      EvaluatedFor box s i spec := by
  induction sites generalizing w calls edits with
  | nil =>
      cases h
      cases hi
  | cons x sites ih =>
      cases h with
      | next h hrest =>
          rcases List.mem_append.mp hi with hi | hi
          · exact ⟨_, List.mem_cons_self, h.mem_calls hi⟩
          · obtain ⟨y, hy, hyi⟩ := ih hrest hi
            exact ⟨y, List.mem_cons_of_mem _ hy, hyi⟩
      | stop h => exact ⟨_, List.mem_cons_self, h.mem_calls hi⟩

theorem SettlesAll.edits_at_sites {sites : List (Address × Found)} {w w' : Workshop σ}
    {calls : List Invocation} {edits : Edits} {f : Option Failure}
    (h : SettlesAll box s sites w calls edits f w') {x : Address × Ast} (hx : x ∈ edits) :
    ∃ y ∈ sites, y.1 = x.1 := by
  have hmem : ∀ {before : List (Address × Found)} {calls w w'},
      SettlesAll box s before w calls edits none w' → ∃ y ∈ before, y.1 = x.1 := fun h =>
    List.mem_map.mp (h.addresses ▸ List.mem_map_of_mem hx)
  cases f with
  | none => exact hmem h
  | some f =>
      obtain ⟨before, a, m, after, _, _, _, rfl, -, hbefore, -⟩ := h.first_failure
      obtain ⟨y, hy, hyx⟩ := hmem hbefore
      exact ⟨y, List.mem_append_left _ hy, hyx⟩

/-! ## Edits below a shadowed invocation -/

section Below

variable {t c : Ast} {a : Address} {w w' : Workshop σ} {calls : List Invocation} {edits : Edits}
variable {f : Option Failure}

/-- An edit below a node is at a site below it. -/
theorem SettlesAll.inside_at_sites {sites : List (Address × Found)}
    (h : SettlesAll box s sites w calls edits f w') {x : Address × Ast} (hx : x ∈ edits.inside a) :
    ∃ y ∈ sites, y.1 = a ++ x.1 :=
  h.edits_at_sites (Edits.mem_inside.mp hx)

/-- Neither the invocation itself nor its keyword is edited, so it stays a shadowed invocation. -/
theorem SettlesAll.shadowed_edit (h : SettlesAll box s (s.sites t) w calls edits f w')
    (hc : t.at? a = some c) (hshadow : s.Shadowed c) :
    s.Shadowed (c.edit (edits.inside a)) ∧ (c.edit (edits.inside a)).shape = c.shape ∧
      (c.edit (edits.inside a)).span = c.span := by
  refine hshadow.edit ?_ ?_
  · rintro ⟨d, e⟩ hx
    obtain ⟨y, hy, hyx⟩ := h.inside_at_sites hx
    match d with
    | [] =>
        exact absurd (hyx.trans (List.append_nil a)) (Setting.sites_ne_of_shadowed hc hshadow hy)
    | j :: d => exact ⟨j, d, rfl, Nat.zero_le j⟩
  · rintro ⟨d, e⟩ hx
    obtain ⟨y, hy, hyx⟩ := h.inside_at_sites (Edits.mem_within.mp hx)
    match d with
    | [] =>
        -- the keyword itself would be a match
        obtain ⟨k, hk, hm⟩ := Setting.sites_at hy
        obtain ⟨n, o, span, parts, hident⟩ := hshadow.keyword
        rw [hyx, Ast.at?_append, hc] at hk
        obtain rfl := Option.some.inj (hident.symm.trans hk)
        exact absurd hm (Setting.not_matches_ident y.2)
    | j :: d => exact ⟨j, d, rfl, Nat.zero_le j⟩

/-- A node that lies in no site stays where it is, with the edits below it. -/
theorem SettlesAll.at?_outside (h : SettlesAll box s (s.sites t) w calls edits f w')
    (hc : t.at? a = some c) (houter : ∀ x ∈ s.sites t, ¬ x.1 <+: a) :
    (t.edit edits).at? a = some (c.edit (edits.inside a)) := by
  rw [Ast.at?_edit_of_outside, hc]
  · rfl
  · intro x hx hxa
    obtain ⟨y, hy, hyx⟩ := h.edits_at_sites hx
    exact houter y hy (hyx ▸ hxa)

/-- Without sites below a node there are no edits below it. -/
theorem SettlesAll.inside_eq_nil {sites : List (Address × Found)}
    (h : SettlesAll box s sites w calls edits f w') (hinner : ∀ x ∈ sites, ¬ a <+: x.1) :
    edits.inside a = [] := by
  refine List.eq_nil_iff_forall_not_mem.mpr fun x hx => ?_
  obtain ⟨y, hy, hyx⟩ := h.inside_at_sites hx
  exact hinner y hy (hyx ▸ List.prefix_append a x.1)

end Below

/-! ## Scope safety -/

/-- What an expansion does to the invocations of a program whose keyword a declaration of the
    program binds, whether it succeeds or not.  Whatever is evaluated is an unbound invocation of
    the program or belongs to the text of a specifier.  A shadowed invocation is no site, and unless
    it lies inside a site it stays: with its form, its place and its keyword, and with the matches
    in its arguments expanded; if there are none it is unchanged. -/
theorem program_keeps_shadowed (box : Evaluator σ) (pass : Pass) (file : String) (t : Ast)
    (bench : Workbench) (b : σ) :
    let s := pass.setting file
    let sites := s.sites t.resolve
    let r := pass.program box file t bench b
    ∃ calls edits, SettlesAll box s sites ⟨bench, b⟩ calls edits r.2.failure r.2.workshop ∧
      r.1 = t.resolve.edit edits ∧
      (∀ i ∈ calls, (∃ a c, t.resolve.at? a = some c ∧ s.invocation? c = some i ∧ ¬ s.Shadowed c) ∨
        ∃ x ∈ sites, ∃ spec, (x.2 = .require spec ∨ x.2 = .source spec) ∧
          EvaluatedFor box s i spec) ∧
      ∀ a c, t.resolve.at? a = some c → s.Shadowed c →
        (∀ x ∈ sites, x.1 ≠ a) ∧
        ((∀ x ∈ sites, ¬ x.1 <+: a) →
          ∃ c', r.1.at? a = some c' ∧ c' = c.edit (edits.inside a) ∧ s.Shadowed c' ∧
            c'.shape = c.shape ∧ c'.span = c.span ∧
            ((∀ x ∈ sites, ¬ a <+: x.1) → c' = c)) := by
  intro s sites r
  obtain ⟨calls, edits, hsettles, hedit⟩ := program_settles (Prod.eta r).symm
  refine ⟨calls, edits, hsettles, hedit, ?_, fun a c hc hshadow => ⟨?_, ?_⟩⟩
  · intro i hi
    obtain ⟨x, hx, hxi | ⟨spec, hspec⟩⟩ := hsettles.mem_calls hi
    · obtain ⟨c, hc, hm⟩ := Setting.sites_at hx
      rw [hxi] at hm
      refine .inl ⟨x.1, c, hc, hm, fun hshadow => ?_⟩
      exact Setting.not_matches_of_shadowed hshadow (.invocation i) hm
    · exact .inr ⟨x, hx, spec, hspec⟩
  · exact fun x hx => Setting.sites_ne_of_shadowed hc hshadow hx
  · intro houter
    obtain ⟨hstill, hshape, hspan⟩ := hsettles.shadowed_edit hc hshadow
    refine ⟨c.edit (edits.inside a), ?_, rfl, hstill, hshape, hspan, fun hinner => ?_⟩
    · rw [hedit]
      exact hsettles.at?_outside hc houter
    · rw [hsettles.inside_eq_nil hinner, Ast.edit_nil]

/-- Beside an invocation that is expanded, one whose keyword is a parameter stays. -/
theorem program_keeps_shadowed_parameter :
    let s := usualPass.setting "a.ts"
    let t := treeOf "precall`1`; (precall) => precall`2`;"
    let r := usualPass.program counting "a.ts" t {} 0
    r.2.failure = none ∧ r.2.box = 1 ∧
      ∃ a c, t.resolve.at? a = some c ∧ s.Shadowed c ∧ r.1.at? a = some c := by
  intro s t r
  have hsites : (s.sites t.resolve).map Prod.fst = [[0, 0]] := by decide +kernel
  have hshadowed : (t.resolve.at? [1, 0, 1]).any s.isShadowed := by decide +kernel
  obtain ⟨c, hc, hshadow⟩ := (Option.any_eq_true _ _).mp hshadowed
  have hsite : ∀ x ∈ s.sites t.resolve, x.1 = [0, 0] := fun x hx =>
    List.mem_singleton.mp (hsites ▸ List.mem_map_of_mem hx)
  obtain ⟨calls, edits, -, -, -, hall⟩ :=
    program_keeps_shadowed counting usualPass "a.ts" t {} 0
  obtain ⟨c', hc', -, -, -, -, hsame⟩ := (hall _ c hc (Setting.isShadowed_iff.mp hshadow)).2
    fun x hx => by rw [hsite x hx]; decide
  refine ⟨by decide +kernel, by decide +kernel, _, c, hc, Setting.isShadowed_iff.mp hshadow, ?_⟩
  rw [← hsame fun x hx => by rw [hsite x hx]; decide]
  exact hc'

/-- The name in the text of the specifier is a parameter there, and its invocation is evaluated all
    the same. -/
theorem specifier_ignores_scope :
    usualPass.source counting "require(\"precall`1` || ((precall) => precall`2`)\");" "a.ts" 0 =
      (.ok "require(7 || ((precall)=>7));\n", 2) := by
  rewrite [Pass.source_of_dialect dialect_ts]
  decide +kernel

end Expansion

end Inlay
