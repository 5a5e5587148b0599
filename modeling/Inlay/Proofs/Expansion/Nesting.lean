import Inlay.Proofs.Expansion.Sites
import Inlay.Proofs.Expansion.Visit
import Inlay.Proofs.Reading.File

/-! # Specifiers in specifiers

    The text of a specifier is read and gone through, and may hold specifiers of its own.  Each of
    them is a string in that text, so it is strictly shorter (`specifier_shorter`), and nesting ends
    after at most as many levels as the outermost text has characters (`nesting_bounded`).

    The bound that an expansion is given is therefore never used up: `run` is the one function that
    goes through specifiers by itself (`run_eq_visit`, `eq_run_of_visit`). -/

namespace Inlay

open Syntax

/-! ## Strings in a tree -/

/-- A string literal with the given value stands somewhere in the tree. -/
inductive Syntax.Ast.Holds (v : String) : Ast → Prop where
  | here (raw : String) (span : Span) (parts : List Ast) : Holds v (.node (.str v raw) span parts)
  | part {shape : Shape} {span : Span} {parts : List Ast} {t : Ast} (ht : t ∈ parts)
      (h : Holds v t) : Holds v (.node shape span parts)

namespace Expansion

variable {v : String} {t : Ast}

theorem quoted_of_holds {src : List Char} (h : t.Holds v) (hs : Spelled src t) : Quoted src v := by
  induction h with
  | here raw span parts => exact (spelled_node.mp hs).1
  | part ht _ ih => exact ih ((spelled_node.mp hs).2 _ ht)

theorem longest_le_longestOf {ts : List Ast} (ht : t ∈ ts) : longest t ≤ longestOf ts := by
  induction ts with
  | nil => cases ht
  | cons c ts ih =>
      rw [longestOf]
      rcases List.mem_cons.mp ht with rfl | ht
      · exact Nat.le_max_left _ _
      · exact Nat.le_trans (ih ht) (Nat.le_max_right _ _)

theorem length_le_longest (h : t.Holds v) : v.length ≤ longest t := by
  induction h with
  | here raw span parts =>
      rw [longest]
      exact Nat.le_max_left _ _
  | @part shape span parts c ht _ ih =>
      have hle : longestOf parts ≤ longest (.node shape span parts) := by
        unfold longest
        split
        · exact Nat.le_max_right _ _
        · exact Nat.le_refl _
      exact Nat.le_trans ih (Nat.le_trans (longest_le_longestOf ht) hle)

end Expansion

/-! ## Specifiers in a tree -/

def Found.specifier? : Found → Option Specifier
  | .invocation _ => none
  | .require spec | .source spec => some spec

def Setting.specifiers (s : Setting) (t : Ast) : List Specifier :=
  (s.found t).filterMap Found.specifier?

/-- While the first text is expanded, the second one is met. -/
def Setting.Meets (s : Setting) (text text' : String) : Prop :=
  ∃ (w w' : Workbench) (e : Ast), w.readExpr s.file text = (.ok e, w') ∧
    ∃ spec ∈ s.specifiers e, spec.text = text'

namespace Expansion

variable {s : Setting} {spec : Specifier} {t : Ast}
variable {shape : Shape} {span : Span} {parts : List Ast}

theorem found_of_part {x : Found} {c : Ast} (hc : c ∈ parts) (hx : x ∈ s.found c) :
    x ∈ s.found (.node shape span parts) := by
  have hall : ∀ ts : List Ast, c ∈ ts → x ∈ s.foundAll ts := by
    intro ts
    induction ts with
    | nil =>
        intro h
        cases h
    | cons t ts ih =>
        intro h
        rw [Setting.foundAll]
        rcases List.mem_cons.mp h with rfl | h
        · exact List.mem_append_left _ hx
        · exact List.mem_append_right _ (ih h)
  rw [Setting.found]
  exact List.mem_append_right _ (hall parts hc)

theorem specifiers_of_part {c : Ast} (hc : c ∈ parts) (h : spec ∈ s.specifiers c) :
    spec ∈ s.specifiers (.node shape span parts) := by
  obtain ⟨x, hx, hspec⟩ := List.mem_filterMap.mp h
  exact List.mem_filterMap.mpr ⟨x, found_of_part hc hx, hspec⟩

theorem specifiers_of_require (h : s.requireSpecifier? t = some spec) : spec ∈ s.specifiers t := by
  obtain ⟨shape, span, parts⟩ := t
  refine List.mem_filterMap.mpr ⟨.require spec, ?_, rfl⟩
  simp [Setting.found, Setting.foundAt, h]

theorem specifiers_of_source (h : s.importSpecifier? t = some spec) : spec ∈ s.specifiers t := by
  obtain ⟨shape, span, parts⟩ := t
  refine List.mem_filterMap.mpr ⟨.source spec, ?_, rfl⟩
  simp [Setting.found, Setting.foundAt, h]

theorem holds_of_specifier? (h : s.specifier? t = some spec) : t.Holds spec.text := by
  obtain ⟨shape, span, parts⟩ := t
  unfold Setting.specifier? at h
  split at h
  · rename_i value raw hshape
    obtain rfl : shape = .str value raw := hshape
    split at h
    · obtain rfl := Option.some.inj h
      exact .here raw span parts
    · cases h
  · cases h

theorem mem_parts_of_mem_items {c : Ast} (h : c ∈ t.items) : c ∈ t.parts := by
  unfold Ast.items at h
  split at h
  · exact h
  · exact h
  · cases h

theorem holds_of_require (h : s.requireSpecifier? t = some spec) : t.Holds spec.text := by
  obtain ⟨shape, span, parts⟩ := t
  obtain ⟨-, callee, ⟨shape', span', items⟩, rest, first, rfl, -, hfirst, hspec⟩ :=
    Setting.requireSpecifier?_iff.mp h
  exact .part (List.mem_cons_of_mem callee List.mem_cons_self)
    (.part (mem_parts_of_mem_items (List.mem_of_mem_head? hfirst)) (holds_of_specifier? hspec))

theorem holds_of_source (h : s.importSpecifier? t = some spec) : t.Holds spec.text := by
  obtain ⟨shape, span, parts⟩ := t
  obtain ⟨-, names, source, rest, rfl, hspec⟩ := Setting.importSpecifier?_iff.mp h
  exact .part (List.mem_cons_of_mem names List.mem_cons_self) (holds_of_specifier? hspec)

theorem holds_of_specifiers (h : spec ∈ s.specifiers t) : t.Holds spec.text := by
  induction t using Ast.induction with
  | node shape span parts ih =>
      obtain ⟨x, hx, hspec⟩ := List.mem_filterMap.mp h
      rw [Setting.found] at hx
      rcases List.mem_append.mp hx with hx | hx
      · simp only [Setting.foundAt, List.mem_append, Option.mem_toList,
          Option.map_eq_some_iff] at hx
        rcases hx with (⟨i, -, rfl⟩ | ⟨spec', h', rfl⟩) | ⟨spec', h', rfl⟩
        · cases hspec
        · obtain rfl := Option.some.inj hspec
          exact holds_of_require h'
        · obtain rfl := Option.some.inj hspec
          exact holds_of_source h'
      · have hpart : ∀ ts : List Ast, x ∈ s.foundAll ts → ∃ c ∈ ts, x ∈ s.found c := by
          intro ts
          induction ts with
          | nil => exact fun h => nomatch h
          | cons c ts ihs =>
              intro h
              rw [Setting.foundAll] at h
              rcases List.mem_append.mp h with h | h
              · exact ⟨c, List.mem_cons_self, h⟩
              · obtain ⟨c', hc', h⟩ := ihs h
                exact ⟨c', List.mem_cons_of_mem c hc', h⟩
        obtain ⟨c, hc, hx⟩ := hpart parts hx
        exact .part hc (ih c hc (List.mem_filterMap.mpr ⟨x, hx, hspec⟩))

theorem specifier_shorter {w w' : Workbench} {text : String} {e : Ast}
    (hread : w.readExpr s.file text = (.ok e, w')) (hspec : spec ∈ s.specifiers e) :
    spec.text.length < text.length := by
  have h := quoted_of_holds (holds_of_specifiers hspec) (Workbench.readExpr_spelled hread)
  exact String.length_toList (s := text) ▸ h.length_lt

/-! ## The bound on nesting is never used up -/

variable {σ : Type} {box : Evaluator σ}

/-- Two traversals do the same to the trees that are read for the specifiers of a tree. -/
def Agree (s : Setting) (inner inner' : Ast → Expand σ Ast) (t : Ast) : Prop :=
  ∀ spec ∈ s.specifiers t, ∀ (w w' : Workbench) (e : Ast),
    w.readExpr s.file spec.text = (.ok e, w') → inner e = inner' e

variable {inner inner' : Ast → Expand σ Ast}

theorem Agree.part (h : Agree s inner inner' (.node shape span parts)) (ht : t ∈ parts) :
    Agree s inner inner' t := fun spec hspec => h spec (specifiers_of_part ht hspec)

theorem expandSpecifier_congr (h : Agree s inner inner' t) (hspec : spec ∈ s.specifiers t) :
    expandSpecifier inner s spec = expandSpecifier inner' s spec := by
  funext p
  unfold expandSpecifier
  dsimp only
  split
  · rfl
  · rename_i e w hread
    rw [h spec hspec _ _ e hread]

theorem visitAll_congr {s' : Setting} {ts : List Ast}
    (h : ∀ t ∈ ts, visit box s inner t = visit box s' inner' t) :
    visitAll box s inner ts = visitAll box s' inner' ts := by
  induction ts with
  | nil => rw [visitAll, visitAll]
  | cons t ts ih =>
      rw [visitAll, visitAll, h t List.mem_cons_self,
        ih fun c hc => h c (List.mem_cons_of_mem t hc)]

theorem visitCall_congr {s' : Setting} {e : Ast}
    (h : ∀ t ∈ parts, visit box s inner t = visit box s' inner' t)
    (h' : ∀ t ∈ parts, ∀ c ∈ t.parts, visit box s inner c = visit box s' inner' c) :
    visitCall box s inner e parts = visitCall box s' inner' e parts := by
  rcases parts with _ | ⟨callee, _ | ⟨⟨shape, span, items⟩, rest⟩⟩
  · rfl
  · rfl
  · have hcallee := h callee List.mem_cons_self
    have hitems := h' (.node shape span items) (List.mem_cons_of_mem callee List.mem_cons_self)
    rw [visitCall, visitCall, hcallee]
    cases items with
    | nil => rfl
    | cons first items =>
        rw [visitArgs, visitArgs,
          visitAll_congr fun c hc => hitems c (List.mem_cons_of_mem first hc)]

/-- The traversal depends on what goes through specifiers only at the trees read for them. -/
theorem visit_congr (h : Agree s inner inner' t) : visit box s inner t = visit box s inner' t := by
  induction t using Ast.induction₂ with
  | node shape span parts ih ih' =>
      have hparts : ∀ t ∈ parts, visit box s inner t = visit box s inner' t :=
        fun t ht => ih t ht (h.part ht)
      have hitems : ∀ t ∈ parts, ∀ c ∈ t.parts, visit box s inner c = visit box s inner' c := by
        intro t ht c hc
        obtain ⟨shape', span', items⟩ := t
        exact ih' _ ht c hc ((h.part ht).part hc)
      have hcall : ∀ e, visitCall box s inner e parts = visitCall box s inner' e parts :=
        fun e => visitCall_congr hparts hitems
      rw [visit, visit, visitAll_congr hparts]
      simp only [hcall]
      cases hr : s.requireSpecifier? (.node shape span parts) with
      | some spec => simp only [expandSpecifier_congr h (specifiers_of_require hr)]
      | none =>
          cases hs : s.importSpecifier? (.node shape span parts) with
          | some spec => simp only [expandSpecifier_congr h (specifiers_of_source hs)]
          | none => rfl

/-- If all specifiers are shorter than `d`, any bound on nesting above `d` gives the same result. -/
theorem visitWithin_eq {d m n : Nat} (hd : ∀ spec ∈ s.specifiers t, spec.text.length < d)
    (hm : d < m) (hn : d < n) : visitWithin box s m t = visitWithin box s n t := by
  induction d generalizing t m n with
  | zero =>
      obtain ⟨m, rfl⟩ := Nat.exists_eq_succ_of_ne_zero (Nat.ne_of_gt hm)
      obtain ⟨n, rfl⟩ := Nat.exists_eq_succ_of_ne_zero (Nat.ne_of_gt hn)
      exact visit_congr fun spec hspec => absurd (hd spec hspec) (Nat.not_lt_zero _)
  | succ d ih =>
      obtain ⟨m, rfl⟩ := Nat.exists_eq_succ_of_ne_zero (Nat.ne_zero_of_lt hm)
      obtain ⟨n, rfl⟩ := Nat.exists_eq_succ_of_ne_zero (Nat.ne_zero_of_lt hn)
      refine visit_congr fun spec hspec w w' e hread => ih (fun spec' hspec' => ?_) ?_ ?_
      · have hlt := specifier_shorter hread hspec'
        have hle := hd spec hspec
        omega
      · omega
      · omega

theorem specifiers_lt (hspec : spec ∈ s.specifiers t) : spec.text.length < longest t + 1 :=
  Nat.lt_succ_of_le (length_le_longest (holds_of_specifiers hspec))

/-- What holds of a tree whenever it holds of the trees read for its specifiers holds of every
    tree. -/
@[elab_as_elim] theorem specifier_induction (s : Setting) {motive : Ast → Prop}
    (step : ∀ t, (∀ spec ∈ s.specifiers t, ∀ (w w' : Workbench) (e : Ast),
      w.readExpr s.file spec.text = (.ok e, w') → motive e) → motive t) (t : Ast) : motive t := by
  have hbelow : ∀ d t, (∀ spec ∈ s.specifiers t, spec.text.length < d) → motive t := by
    intro d
    induction d with
    | zero => exact fun t hd => step t fun spec hspec => absurd (hd spec hspec) (Nat.not_lt_zero _)
    | succ d ih =>
        intro t hd
        refine step t fun spec hspec w w' e hread => ih e fun spec' hspec' => ?_
        have hlt := specifier_shorter hread hspec'
        have hle := hd spec hspec
        omega
  exact hbelow (longest t + 1) t fun spec => specifiers_lt

/-- The bound that `run` starts with is large enough. -/
theorem visitWithin_eq_run {n : Nat} (hd : ∀ spec ∈ s.specifiers t, spec.text.length < n) :
    visitWithin box s (n + 1) t = run box s t := by
  have hboth : ∀ spec ∈ s.specifiers t, spec.text.length < min n (longest t + 1) :=
    fun spec hspec => Nat.lt_min.mpr ⟨hd spec hspec, specifiers_lt hspec⟩
  exact visitWithin_eq hboth (by omega) (by omega)

/-- Going through a tree by `run` is going through it with `run` for the specifiers. -/
theorem run_eq_visit (box : Evaluator σ) (s : Setting) (t : Ast) :
    run box s t = visit box s (run box s) t := by
  show visit box s (visitWithin box s (longest t + 1)) t = _
  refine visit_congr fun spec hspec w w' e hread => ?_
  refine visitWithin_eq_run fun spec' hspec' => ?_
  have hlt := specifier_shorter hread hspec'
  have hle := specifiers_lt hspec
  omega

/-- No other function goes through specifiers by itself. -/
theorem eq_run_of_visit {visitor : Ast → Expand σ Ast}
    (h : ∀ t, visitor t = visit box s visitor t) : visitor = run box s := by
  funext t
  induction t using specifier_induction s with
  | step t ih =>
      rw [h t, run_eq_visit]
      exact visit_congr ih

/-! ## Nesting ends -/

theorem meets_shorter {text text' : String} (h : s.Meets text text') :
    text'.length < text.length := by
  obtain ⟨w, w', e, hread, spec, hspec, rfl⟩ := h
  exact specifier_shorter hread hspec

/-- Texts that are met one inside the other are no more than the outermost has characters. -/
theorem nesting_bounded {text : String} {texts : List String}
    (h : List.IsChain s.Meets (text :: texts)) : texts.length ≤ text.length := by
  induction texts generalizing text with
  | nil => exact Nat.zero_le _
  | cons text' texts ih =>
      obtain ⟨hmeets, hrest⟩ := List.isChain_cons_cons.mp h
      have hlt := meets_shorter hmeets
      have hle := ih hrest
      rw [List.length_cons]
      omega

/-- Expanding a tree comes to an end whatever the specifiers in it say.  A text met inside another
    is strictly shorter, so texts nest no deeper than the outermost is long, and a tree read for a
    text is gone through completely within that many levels.  The traversal that goes through the
    trees of specifiers by itself therefore exists, and there is only one. -/
theorem expansion_terminates (box : Evaluator σ) (s : Setting) :
    (∀ text text', s.Meets text text' → text'.length < text.length) ∧
    (∀ text texts, List.IsChain s.Meets (text :: texts) → texts.length ≤ text.length) ∧
    (∀ (text : String) (w w' : Workbench) (e : Ast), w.readExpr s.file text = (.ok e, w') →
      visitWithin box s (text.length + 1) e = run box s e) ∧
    (∀ t, run box s t = visit box s (run box s) t) ∧
    ∀ visitor : Ast → Expand σ Ast, (∀ t, visitor t = visit box s visitor t) →
      visitor = run box s := by
  refine ⟨fun _ _ => meets_shorter, fun _ _ => nesting_bounded, ?_, run_eq_visit box s,
    fun _ => eq_run_of_visit⟩
  intro text w w' e hread
  exact visitWithin_eq_run fun spec hspec => specifier_shorter hread hspec

/-- Whether the second text is met when the first is read on an empty bench. -/
def meetsFirst (s : Setting) (text text' : String) : Bool :=
  match ({} : Workbench).readExpr s.file text with
  | (.ok e, _) => (s.specifiers e).any (·.text == text')
  | (.error _, _) => false

theorem meets_of_meetsFirst {text text' : String} (h : meetsFirst s text text' = true) :
    s.Meets text text' := by
  unfold meetsFirst at h
  split at h
  · rename_i e w hread
    obtain ⟨spec, hspec, htext⟩ := List.any_eq_true.mp h
    exact ⟨_, _, e, hread, spec, hspec, of_decide_eq_true htext⟩
  · cases h

/-- A specifier inside a specifier inside a text: lengths fall from one to the next. -/
theorem expansion_terminates_nested :
    let s : Setting := { keywords := ⟨["precall"]⟩, file := "a.js", expandSpecifiers := true }
    let texts := ["require(\"precall() + require('precall()')\")",
      "precall() + require('precall()')", "precall()"]
    List.IsChain s.Meets texts ∧ List.IsChain (fun x y => y.length < x.length) texts := by
  intro s texts
  have houter : s.Meets "require(\"precall() + require('precall()')\")"
      "precall() + require('precall()')" := meets_of_meetsFirst (by decide +kernel)
  have hinner : s.Meets "precall() + require('precall()')" "precall()" :=
    meets_of_meetsFirst (by decide +kernel)
  have hshorter := (expansion_terminates (⟨fun _ b => (.ok .absent, b)⟩ : Evaluator Unit) s).1
  exact ⟨.cons_cons houter (.cons_cons hinner (.singleton _)),
    .cons_cons (hshorter _ _ houter) (.cons_cons (hshorter _ _ hinner) (.singleton _))⟩

end Expansion

end Inlay
