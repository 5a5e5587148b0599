import Inlay.Proofs.Expansion.Keywords
import Inlay.Proofs.Expansion.Shadowing

/-! # The switch for specifiers

    Specifiers are expanded only if the options say so.  Two things are shown about this switch, and
    they belong together: switched off, it keeps every string in the place of a specifier as it is;
    and where no such string starts with an invocation, it cannot be told whether it is on or off
    (`switch_concerns_specifiers`).

    A program is marked before it is expanded.  Marking touches nothing but the marks of names, so
    the strings of the program are those of the marked program (`resolve_unmarked`). -/

namespace Inlay.Syntax

/-! ## Marking changes marks only -/

/-- The shape of a name without its mark; any other shape stays. -/
def Shape.unmarked : Shape → Shape
  | .ident n _ o => .ident n .unset o
  | shape => shape

mutual

def Ast.unmarked : Ast → Ast
  | .node shape span parts => .node shape.unmarked span (Ast.unmarkedAll parts)

def Ast.unmarkedAll : List Ast → List Ast
  | [] => []
  | t :: ts => t.unmarked :: Ast.unmarkedAll ts

end

theorem Ast.unmarked_node (shape : Shape) (span : Span) (parts : List Ast) :
    (Ast.node shape span parts).unmarked = .node shape.unmarked span (parts.map Ast.unmarked) := by
  have hall (ts : List Ast) : Ast.unmarkedAll ts = ts.map Ast.unmarked := by
    induction ts with
    | nil => rw [unmarkedAll, List.map_nil]
    | cons t ts ih => rw [unmarkedAll, ih, List.map_cons]
  rw [unmarked, hall]

namespace Scope.R

variable {α β : Type}

@[simp] theorem run_bind (m : R α) (k : α → R β) (f : Frame) :
    (m >>= k) f = k (m f).1 (m f).2 := rfl

@[simp] theorem run_map (g : α → β) (m : R α) (f : Frame) :
    (g <$> m) f = (g (m f).1, (m f).2) := rfl

@[simp] theorem run_pure (a : α) (f : Frame) : (pure a : R α) f = (a, f) := rfl

@[simp] theorem run_inScope (m : R α) (f : Frame) :
    (inScope m f).1 = (m { f with scopes := [] :: f.scopes }).1 := rfl

theorem nameNode_unmarked (use : Use) (t : Ast) (f : Frame) :
    (nameNode use t f).1.unmarked = t.unmarked := by
  unfold nameNode
  split
  · cases use <;> simp [Ast.unmarked_node, Shape.unmarked]
  · rfl

section

variable {again : Use → Ast → R Ast} (h : ∀ use t f, (again use t f).1.unmarked = t.unmarked)

include h

theorem mapM_unmarked (use : Use) (ts : List Ast) (f : Frame) :
    (ts.mapM (again use) f).1.map Ast.unmarked = ts.map Ast.unmarked := by
  induction ts generalizing f with
  | nil => rfl
  | cons t ts ih => simp [List.mapM_cons, h, ih]

theorem statements_unmarked (ts : List Ast) (f : Frame) :
    (statements again ts f).1.map Ast.unmarked = ts.map Ast.unmarked := by
  simp [statements, mapM_unmarked h]

theorem bodyOf_unmarked (t : Ast) (f : Frame) : (bodyOf again t f).1.unmarked = t.unmarked := by
  unfold bodyOf
  split <;> simp [h, Ast.unmarked_node, statements_unmarked h]

theorem paramGroup_unmarked (t : Ast) (f : Frame) :
    (paramGroup again t f).1.unmarked = t.unmarked := by
  obtain ⟨shape, span, parts⟩ := t
  simp [paramGroup, Ast.withParts, Ast.parts, Ast.unmarked_node, mapM_unmarked h]

/-- One step keeps the tree if the steps below it do: each part stands where it stood. -/
theorem node_unmarked (use : Use) (t : Ast) (f : Frame) :
    (R.node again use t f).1.unmarked = t.unmarked := by
  unfold R.node
  split
  case h_30 =>
    split <;> simp [Ast.unmarked_node, statements_unmarked h, mapM_unmarked h]
  all_goals
    simp [h, Ast.unmarked_node, statements_unmarked h, mapM_unmarked h, bodyOf_unmarked h,
      paramGroup_unmarked h, nameNode_unmarked]
  -- the name of a function is marked in place
  split <;> simp [Ast.unmarked_node, Shape.unmarked]

end

end Scope.R

namespace Ast

theorem resolve_unmarked (t : Ast) : t.resolve.unmarked = t.unmarked := by
  have hwith (fuel : Nat) : ∀ use u f,
      (Scope.resolveWith fuel use u f).1.unmarked = u.unmarked := by
    induction fuel with
    | zero => exact fun _ _ _ => rfl
    | succ fuel ih => exact Scope.R.node_unmarked ih
  exact hwith t.height .refers t {}

theorem at?_unmarked (t : Ast) (a : Address) : t.unmarked.at? a = (t.at? a).map unmarked := by
  induction a generalizing t with
  | nil => rfl
  | cons i a ih =>
      obtain ⟨shape, span, parts⟩ := t
      rw [unmarked_node, at?_node, at?_node, List.getElem?_map]
      cases parts[i]? with
      | none => rfl
      | some c => exact ih c

/-- A string of a program stays where it is when the program is marked. -/
theorem at?_resolve_str {t : Ast} {a : Address} {value raw : String} {span : Span}
    (h : t.at? a = some (.node (.str value raw) span [])) :
    t.resolve.at? a = some (.node (.str value raw) span []) := by
  have hunmarked : (t.resolve.at? a).map unmarked = some (.node (.str value raw) span []) := by
    rw [← at?_unmarked, resolve_unmarked, at?_unmarked, h, Option.map_some, unmarked_node]
    rfl
  obtain ⟨⟨shape, span', parts⟩, hc, hstr⟩ := Option.map_eq_some_iff.mp hunmarked
  rw [unmarked_node] at hstr
  obtain ⟨hshape, rfl, hparts⟩ := Ast.node.inj hstr
  obtain rfl := List.map_eq_nil_iff.mp hparts
  cases shape <;> cases hshape
  exact hc

end Ast

end Inlay.Syntax

namespace Inlay

open Syntax

/-! ## Places of specifiers -/

/-- The string that stands in the place of a specifier: the source of an import, or the first
    argument of a call of `require` if no declaration binds this name. -/
inductive Specifies : Ast → String → Prop where
  | source {typeOnly : Bool} {span span' : Span} {names : Ast} {value raw : String}
      {parts rest : List Ast} :
      Specifies (.node (.importDecl typeOnly) span
        (names :: .node (.str value raw) span' parts :: rest))
        value
  | argument {span span' : Span} {callee args : Ast} {value raw : String} {parts rest : List Ast}
      (hcallee : unboundName? callee = some "require")
      (hfirst : args.items.head? = some (.node (.str value raw) span' parts)) :
      Specifies (.node .call span (callee :: args :: rest)) value

/-- The string in the place of a specifier, by computation. -/
def specified? : Ast → Option String
  | .node (.importDecl _) _ (_ :: .node (.str value _) _ _ :: _) => some value
  | .node .call _ (callee :: args :: _) =>
      if unboundName? callee = some "require" then
        match args.items.head? with
        | some (.node (.str value _) _ _) => some value
        | _ => none
      else none
  | _ => none

theorem Specifies.specified?_eq {c : Ast} {value : String} (h : Specifies c value) :
    specified? c = some value := by
  cases h with
  | source => rfl
  | argument hcallee hfirst => rw [specified?, if_pos hcallee, hfirst]

/-- The pass with the switch for specifiers turned on or off. -/
def Pass.switched (pass : Pass) (on : Bool) : Pass :=
  { pass with options := { pass.options with expandSpecifiers := on } }

namespace Setting

variable {s : Setting} {c : Ast} {spec : Specifier}

theorem specifier?_eq_some (h : s.specifier? c = some spec) :
    s.expandSpecifiers = true ∧ s.keywords.isInvoked spec.text = true ∧
      ∃ raw span parts, c = .node (.str spec.text raw) span parts := by
  obtain ⟨shape, span, parts⟩ := c
  unfold specifier? at h
  split at h
  · rename_i value raw hshape
    split at h
    · rename_i hand
      obtain ⟨hon, hinvoked⟩ := Bool.and_eq_true_iff.mp hand
      obtain rfl := Option.some.inj h
      obtain rfl : shape = .str value raw := hshape
      exact ⟨hon, hinvoked, raw, span, parts, rfl⟩
    · cases h
  · cases h

/-- A node with a specifier has it in one of the two places. -/
theorem specifies_of_match
    (h : s.requireSpecifier? c = some spec ∨ s.importSpecifier? c = some spec) :
    s.expandSpecifiers = true ∧ s.keywords.isInvoked spec.text = true ∧ Specifies c spec.text := by
  obtain ⟨shape, span, parts⟩ := c
  rcases h with h | h
  · obtain ⟨rfl, _, _, _, first, rfl, hcallee, hfirst, hspec⟩ := requireSpecifier?_iff.mp h
    obtain ⟨hon, hinvoked, raw, span, parts, rfl⟩ := specifier?_eq_some hspec
    exact ⟨hon, hinvoked, .argument hcallee hfirst⟩
  · obtain ⟨⟨typeOnly, rfl⟩, _, _, _, rfl, hspec⟩ := importSpecifier?_iff.mp h
    obtain ⟨hon, hinvoked, raw, span, parts, rfl⟩ := specifier?_eq_some hspec
    exact ⟨hon, hinvoked, .source⟩

theorem no_specifier (h : s.expandSpecifiers = false ∨
      ∀ value, Specifies c value → s.keywords.isInvoked value = false) :
    s.requireSpecifier? c = none ∧ s.importSpecifier? c = none := by
  have hnone : ∀ spec,
      ¬ (s.requireSpecifier? c = some spec ∨ s.importSpecifier? c = some spec) := by
    intro spec hspec
    obtain ⟨hon, hinvoked, hplace⟩ := specifies_of_match hspec
    rcases h with hoff | hplain
    · exact absurd (hon.symm.trans hoff) Bool.noConfusion
    · exact absurd (hinvoked.symm.trans (hplain _ hplace)) Bool.noConfusion
  exact ⟨Option.eq_none_iff_forall_ne_some.mpr fun spec hr => hnone spec (.inl hr),
    Option.eq_none_iff_forall_ne_some.mpr fun spec hs => hnone spec (.inr hs)⟩

end Setting

namespace Expansion

variable {σ : Type} {box : Evaluator σ} {s s' : Setting} {inner inner' : Ast → Expand σ Ast}

/-- Where there are no specifiers, only the keywords and the name of the file matter. -/
theorem visit_of_no_specifier {t : Ast} (hkeywords : s.keywords = s'.keywords)
    (hfile : s.file = s'.file)
    (h : ∀ c ∈ t.nodes, (s.requireSpecifier? c = none ∧ s.importSpecifier? c = none) ∧
      s'.requireSpecifier? c = none ∧ s'.importSpecifier? c = none) :
    visit box s inner t = visit box s' inner' t := by
  have hexpand : expand box s = expand box s' := by
    unfold expand
    rw [hfile]
  have hinvocation : s.invocation? = s'.invocation? := by
    unfold Setting.invocation? Setting.keyword?
    rw [hkeywords]
  induction t using Ast.induction with
  | node shape span parts ih =>
      -- neither setting takes a branch of its own here, so both go on with the parts
      obtain ⟨⟨hr, hi⟩, hr', hi'⟩ := h _ (Ast.mem_nodes_self _)
      have hparts : ∀ c ∈ parts, visit box s inner c = visit box s' inner' c := fun c hc =>
        ih c hc fun d hd => h d (Ast.mem_nodes_node.mpr (.inr ⟨c, hc, hd⟩))
      rw [visit, visit, hr, hi, hr', hi', hinvocation, hexpand, visitAll_congr hparts]

/-- With the switch off, whatever is no invocation and lies in none is no site, nor in one. -/
theorem not_site_of_off {t : Ast} {a : Address} (hoff : s.expandSpecifiers = false)
    (h : ∀ b c, b <+: a → t.at? b = some c → ¬ s.Invokes c) {x : Address × Found}
    (hx : x ∈ s.sites t) : ¬ x.1 <+: a := by
  intro hxa
  obtain ⟨c, hc, hm⟩ := Setting.sites_at hx
  cases hfound : x.2 with
  | invocation i =>
      rw [hfound] at hm
      exact h _ c hxa hc (Setting.invokes_iff.mpr (Option.isSome_iff_exists.mpr ⟨i, hm⟩))
  | require spec | source spec =>
      rw [hfound] at hm
      exact absurd ((Setting.specifier?_eq_some hm).1.symm.trans hoff) Bool.noConfusion

theorem SettlesAll.at?_str {t : Ast} {a : Address} {w w' : Workshop σ} {calls : List Invocation}
    {edits : Edits} {f : Option Failure} {value raw : String} {span : Span}
    (h : SettlesAll box s (s.sites t) w calls edits f w')
    (hc : t.at? a = some (.node (.str value raw) span [])) (houter : ∀ x ∈ s.sites t, ¬ x.1 <+: a) :
    (t.edit edits).at? a = some (.node (.str value raw) span []) := by
  have hinner : ∀ x ∈ s.sites t, ¬ a <+: x.1 := by
    rintro x hx ⟨b, hb⟩
    obtain ⟨c, hxc, -⟩ := Setting.sites_at hx
    rw [← hb, Ast.at?_append, hc] at hxc
    match b, hb with
    | [], hb => exact houter x hx ⟨[], by rw [← hb, List.append_nil, List.append_nil]⟩
    | i :: b, _ => cases hxc
  rw [h.at?_outside hc houter, h.inside_eq_nil hinner, Ast.edit_nil]

end Expansion

namespace Pass

variable {σ : Type}

/-- Without a string that starts with an invocation in the place of a specifier, the switch makes no
    difference. -/
theorem program_switched (box : Evaluator σ) {pass : Pass} {t : Ast}
    (h : ∀ c ∈ t.resolve.nodes, ∀ value, Specifies c value → pass.keywords.isInvoked value = false)
    (file : String) (bench : Workbench) (b : σ) :
    (pass.switched true).program box file t bench b =
      (pass.switched false).program box file t bench b := by
  have hvisit (inner inner' : Ast → Expand σ Ast) :
      Expansion.visit box ((pass.switched true).setting file) inner t.resolve =
        Expansion.visit box ((pass.switched false).setting file) inner' t.resolve :=
    Expansion.visit_of_no_specifier rfl rfl fun c hc =>
      ⟨Setting.no_specifier (.inr (h c hc)), Setting.no_specifier (.inl rfl)⟩
  rw [program, program, Expansion.run, Expansion.run, Expansion.visitWithin, Expansion.visitWithin,
    hvisit]

/-- The switch for specifiers concerns specifiers only.  Switched off, the expansion keeps every
    string that is not part of an invocation, the sources of imports and the arguments of `require`
    among them.  And if no source of an import and no first argument of an unbound `require` starts
    with an invocation, both settings give the same tree, the same count or failure and the same
    runs, whatever evaluator is used. -/
theorem switch_concerns_specifiers (box : Evaluator σ) (pass : Pass) (file : String) (t : Ast)
    (bench : Workbench) (b : σ) :
    (∀ a value raw span, t.at? a = some (.node (.str value raw) span []) →
      (∀ d c, d <+: a → t.resolve.at? d = some c → ¬ (pass.setting file).Invokes c) →
      ((pass.switched false).program box file t bench b).1.at? a =
        some (.node (.str value raw) span [])) ∧
    ((∀ c ∈ t.resolve.nodes, ∀ value, Specifies c value → pass.keywords.isInvoked value = false) →
      (pass.switched true).program box file t bench b =
          (pass.switched false).program box file t bench b ∧
        (pass.switched true).program box.logged file t bench (b, []) =
          (pass.switched false).program box.logged file t bench (b, [])) := by
  refine ⟨fun a value raw span ha houtside => ?_, fun h =>
    ⟨program_switched box h file bench b, program_switched box.logged h file bench (b, [])⟩⟩
  let s := (pass.switched false).setting file
  have hinvokes : ∀ d c, d <+: a → t.resolve.at? d = some c → ¬ s.Invokes c := by
    intro d c hd hc hi
    have hsome := Setting.invokes_iff.mp hi
    exact houtside d c hd hc (Setting.invokes_iff.mpr hsome)
  obtain ⟨calls, edits, hsettles, hedit⟩ :=
    Expansion.program_settles (Prod.eta ((pass.switched false).program box file t bench b)).symm
  rw [hedit]
  exact hsettles.at?_str (Ast.at?_resolve_str ha) fun x hx =>
    Expansion.not_site_of_off rfl hinvokes hx

open Expansion in
/-- An invocation in the place of a specifier is kept with the switch off; beside a specifier that
    is no invocation the switch does nothing. -/
theorem switch_concerns_specifiers_require :
    (let t := requireCall "1"
      let kept := Ast.node (.str "precall`7`" "precall`7`") .none []
      t.at? [1, 0] = some kept ∧
        ((usualPass.switched false).program counting "a.ts" t {} 0).1.at? [1, 0] = some kept) ∧
      (let t := treeOf "require(\"a\", precall`1`);";
        (usualPass.switched true).program counting "a.ts" t {} 0 =
          (usualPass.switched false).program counting "a.ts" t {} 0) := by
  constructor
  · intro t kept
    have ht : t.at? [1, 0] = some kept := rfl
    refine ⟨ht, (switch_concerns_specifiers counting usualPass "a.ts" t {} 0).1 _ _ _ _ ht
      fun d c hd hc hinvokes => ?_⟩
    -- no node on the way to the string is an invocation
    have hnone : ∀ d ∈ [1, 0].inits,
        ((t.resolve.at? d).bind (usualPass.setting "a.ts").invocation?).isNone := by
      decide +kernel
    have hd := hnone d ((List.mem_inits d _).mpr hd)
    rw [hc, Option.bind_some, Option.isNone_iff_eq_none] at hd
    rw [Setting.invokes_iff, hd] at hinvokes
    cases hinvokes
  · intro t
    refine ((switch_concerns_specifiers counting usualPass "a.ts" t {} 0).2
      fun c hc value hspec => ?_).1
    have hplain : ∀ value ∈ t.resolve.nodes.filterMap specified?,
        usualPass.keywords.isInvoked value = false := by
      decide +kernel
    exact hplain value (List.mem_filterMap.mpr ⟨c, hc, hspec.specified?_eq⟩)

end Pass

end Inlay
