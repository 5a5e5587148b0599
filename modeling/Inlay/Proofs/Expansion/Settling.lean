import Inlay.Proofs.Expansion.Nesting
import Inlay.Proofs.Expansion.Sites

/-! # What an expansion does

    The rules below say what becomes of a match, without a traversal: an invocation is evaluated and
    its outcome turned into an expression; the text of a specifier is read, and the sites of the
    tree that comes out are settled in turn.  Each rule records the invocations that were evaluated.

    An expansion settles the sites of its tree one after the other until one fails, and edits the
    tree at those before it (`run_explained`).  Two results follow: what a run that succeeds has
    done (`run_succeeds`), and what a run that fails leaves behind (`program_fails`). -/

namespace Inlay

open Syntax

variable {σ : Type}

/-- The texts read so far and the state of the evaluator. -/
structure Workshop (σ : Type) where
  bench : Workbench
  box : σ

def Progress.workshop (p : Progress σ) : Workshop σ := ⟨p.bench, p.box⟩

namespace Expansion

section Rules

variable (box : Evaluator σ) (s : Setting)

mutual

/-- A match is settled: which invocations were evaluated for it, and the tree that takes its place
    or the failure. -/
inductive Settles : Found → Workshop σ → List Invocation → Except Failure Ast → Workshop σ →
    Prop where
  | invocation {i : Invocation} {w : Workshop σ} {o : Outcome} {b : σ} {e : Ast} {bench : Workbench}
      (heval : box.evaluate i.literal s.file w.box = (.ok o, b))
      (hexpr : o.toExpr i.span s.file w.bench = (.ok e, bench)) :
      Settles (.invocation i) w [i] (.ok e) ⟨bench, b⟩
  | not_evaluated {i : Invocation} {w : Workshop σ} {f : Failure} {b : σ}
      (heval : box.evaluate i.literal s.file w.box = (.error f, b)) :
      Settles (.invocation i) w [i] (.error (f.at? (w.bench.place i.span))) ⟨w.bench, b⟩
  | not_expressible {i : Invocation} {w : Workshop σ} {o : Outcome} {b : σ} {f : Failure}
      {bench : Workbench} (heval : box.evaluate i.literal s.file w.box = (.ok o, b))
      (hexpr : o.toExpr i.span s.file w.bench = (.error f, bench)) :
      Settles (.invocation i) w [i] (.error (f.at? (w.bench.place i.span))) ⟨bench, b⟩
  | require {spec : Specifier} {w w' : Workshop σ} {calls : List Invocation}
      {r : Except Failure Ast} (h : Reads spec w calls r w') : Settles (.require spec) w calls r w'
  | source {spec : Specifier} {w w' : Workshop σ} {calls : List Invocation} {value raw : String}
      {span : Span} {parts : List Ast}
      (h : Reads spec w calls (.ok (.node (.str value raw) span parts)) w') :
      Settles (.source spec) w calls (.ok (.node (.str value raw) spec.span [])) w'
  | source_not_string {spec : Specifier} {w w' : Workshop σ} {calls : List Invocation} {e : Ast}
      (h : Reads spec w calls (.ok e) w') (he : ∀ value raw, e.shape ≠ .str value raw) :
      Settles (.source spec) w calls
        (.error (.specifier s.file (describe e) (w.bench.place spec.span))) w'
  | source_failed {spec : Specifier} {w w' : Workshop σ} {calls : List Invocation} {f : Failure}
      (h : Reads spec w calls (.error f) w') : Settles (.source spec) w calls (.error f) w'

/-- The text of a specifier is read and expanded. -/
inductive Reads : Specifier → Workshop σ → List Invocation → Except Failure Ast → Workshop σ →
    Prop where
  | unreadable {spec : Specifier} {w : Workshop σ} {f : Failure} {bench : Workbench}
      (hread : w.bench.readExpr s.file spec.text = (.error f, bench)) :
      Reads spec w [] (.error (f.at? (w.bench.place spec.span))) ⟨bench, w.box⟩
  | expanded {spec : Specifier} {w w' : Workshop σ} {e : Ast} {bench : Workbench}
      {calls : List Invocation} {edits : Edits}
      (hread : w.bench.readExpr s.file spec.text = (.ok e, bench))
      (h : SettlesAll (s.sites e) ⟨bench, w.box⟩ calls edits none w') :
      Reads spec w calls (.ok (e.edit edits)) w'
  | failed {spec : Specifier} {w w' : Workshop σ} {e : Ast} {bench : Workbench}
      {calls : List Invocation} {edits : Edits} {f : Failure}
      (hread : w.bench.readExpr s.file spec.text = (.ok e, bench))
      (h : SettlesAll (s.sites e) ⟨bench, w.box⟩ calls edits (some f) w') :
      Reads spec w calls (.error (f.at? (w.bench.place spec.span))) w'

/-- Sites are settled one after the other, up to the first that fails. -/
inductive SettlesAll : List (Address × Found) → Workshop σ → List Invocation → Edits →
    Option Failure → Workshop σ → Prop where
  | nil {w : Workshop σ} : SettlesAll [] w [] [] none w
  | next {a : Address} {m : Found} {sites : List (Address × Found)} {w w₁ w₂ : Workshop σ}
      {calls calls' : List Invocation} {e : Ast} {edits : Edits} {f : Option Failure}
      (h : Settles m w calls (.ok e) w₁) (hrest : SettlesAll sites w₁ calls' edits f w₂) :
      SettlesAll ((a, m) :: sites) w (calls ++ calls') ((a, e) :: edits) f w₂
  | stop {a : Address} {m : Found} {sites : List (Address × Found)} {w w' : Workshop σ}
      {calls : List Invocation} {f : Failure} (h : Settles m w calls (.error f) w') :
      SettlesAll ((a, m) :: sites) w calls [] (some f) w'

end

end Rules

variable {box : Evaluator σ} {s : Setting}

/-! ## Sites in sequence -/

namespace SettlesAll

variable {sites sites' : List (Address × Found)} {w w₁ w₂ : Workshop σ}
variable {calls calls' : List Invocation} {edits edits' : Edits} {f : Option Failure}

theorem map_under (h : SettlesAll box s sites w calls edits f w₁) (i : Nat) :
    SettlesAll box s (sites.map (Address.under i)) w calls (edits.map (Address.under i)) f w₁ := by
  induction sites generalizing w calls edits with
  | nil =>
      cases h
      exact .nil
  | cons x sites ih =>
      cases h with
      | next h hrest => exact .next h (ih hrest)
      | stop h => exact .stop h

theorem append (h : SettlesAll box s sites w calls edits none w₁)
    (h' : SettlesAll box s sites' w₁ calls' edits' f w₂) :
    SettlesAll box s (sites ++ sites') w (calls ++ calls') (edits ++ edits') f w₂ := by
  induction sites generalizing w calls edits with
  | nil =>
      cases h
      exact h'
  | cons x sites ih =>
      cases h with
      | next h hrest =>
          rw [List.append_assoc]
          exact .next h (ih hrest)

theorem append_failed {f : Failure} (h : SettlesAll box s sites w calls edits (some f) w₁)
    (sites' : List (Address × Found)) :
    SettlesAll box s (sites ++ sites') w calls edits (some f) w₁ := by
  induction sites generalizing w calls edits with
  | nil => cases h
  | cons x sites ih =>
      cases h with
      | next h hrest => exact .next h (ih hrest)
      | stop h => exact .stop h

theorem addresses (h : SettlesAll box s sites w calls edits none w₁) :
    edits.map Prod.fst = sites.map Prod.fst := by
  induction sites generalizing w calls edits with
  | nil =>
      cases h
      rfl
  | cons x sites ih =>
      cases h with
      | next h hrest => exact congrArg _ (ih hrest)

theorem settles (h : SettlesAll box s sites w calls edits f w₁) {x : Address × Ast}
    (hx : x ∈ edits) :
    ∃ m w w' calls, (x.1, m) ∈ sites ∧ Settles box s m w calls (.ok x.2) w' := by
  induction sites generalizing w calls edits with
  | nil =>
      cases h
      cases hx
  | cons y sites ih =>
      cases h with
      | next h hrest =>
          rcases List.mem_cons.mp hx with rfl | hx
          · exact ⟨_, _, _, _, List.mem_cons_self, h⟩
          · obtain ⟨m, w, w', calls, hm, hsettled⟩ := ih hrest hx
            exact ⟨m, w, w', calls, List.mem_cons_of_mem _ hm, hsettled⟩
      | stop h => cases hx

/-- A failure belongs to one site; those before it are settled, and those behind it are not. -/
theorem first_failure {f : Failure} (h : SettlesAll box s sites w calls edits (some f) w₂) :
    ∃ before a m after calls₁ calls₂ w₁, sites = before ++ (a, m) :: after ∧
      calls = calls₁ ++ calls₂ ∧ SettlesAll box s before w calls₁ edits none w₁ ∧
      Settles box s m w₁ calls₂ (.error f) w₂ := by
  induction sites generalizing w calls edits with
  | nil => cases h
  | cons x sites ih =>
      cases h with
      | @next a m _ _ _ _ calls _ _ _ _ h hrest =>
          obtain ⟨before, b, n, after, calls₁, calls₂, w₁, rfl, rfl, hbefore, hfail⟩ := ih hrest
          refine ⟨(a, m) :: before, b, n, after, calls ++ calls₁, calls₂, w₁, rfl, ?_,
            .next h hbefore, hfail⟩
          rw [List.append_assoc]
      | @stop a m _ _ _ calls _ h =>
          exact ⟨[], a, m, sites, [], calls, w, rfl, rfl, .nil, h⟩

end SettlesAll

/-! ## Runs of the evaluator -/

/-- The unit that is run for an invocation; none if its fragment is empty or does not compile. -/
def unit? (file : String) (i : Invocation) : Option ScriptUnit :=
  if i.literal.isEmpty then none else (Fragment.compile i.literal file).toOption

/-- The state of an evaluator after units have been run one after the other. -/
def runAll (box : Evaluator σ) (units : List ScriptUnit) (b : σ) : σ :=
  units.foldl (fun b u => (box.run u b).2) b

theorem runAll_append (box : Evaluator σ) (units units' : List ScriptUnit) (b : σ) :
    runAll box (units ++ units') b = runAll box units' (runAll box units b) := List.foldl_append

/-- Evaluating runs the unit of the invocation, if there is one, and nothing else. -/
theorem evaluate_box (box : Evaluator σ) (file : String) (i : Invocation) (b : σ) :
    (box.evaluate i.literal file b).2 = runAll box ([i].filterMap (unit? file)) b := by
  by_cases hempty : i.literal.isEmpty
  · simp [Evaluator.evaluate, unit?, runAll, hempty]
  · cases hc : Fragment.compile i.literal file with
    | error f => simp [Evaluator.evaluate, unit?, runAll, hempty, hc, Except.toOption]
    | ok u => simp [Evaluator.evaluate, unit?, runAll, hempty, hc, Except.toOption]

mutual

theorem Settles.box_eq {m : Found} {w w' : Workshop σ} {calls : List Invocation}
    {r : Except Failure Ast} : Settles box s m w calls r w' →
      w'.box = runAll box (calls.filterMap (unit? s.file)) w.box
  | .invocation heval _ => by rw [← evaluate_box, heval]
  | .not_evaluated heval => by rw [← evaluate_box, heval]
  | .not_expressible heval _ => by rw [← evaluate_box, heval]
  | .require h => h.box_eq
  | .source h => h.box_eq
  | .source_not_string h _ => h.box_eq
  | .source_failed h => h.box_eq

theorem Reads.box_eq {spec : Specifier} {w w' : Workshop σ} {calls : List Invocation}
    {r : Except Failure Ast} : Reads box s spec w calls r w' →
      w'.box = runAll box (calls.filterMap (unit? s.file)) w.box
  | .unreadable _ => rfl
  | .expanded _ h => h.box_eq
  | .failed _ h => h.box_eq

theorem SettlesAll.box_eq {sites : List (Address × Found)} {w w' : Workshop σ}
    {calls : List Invocation} {edits : Edits} {f : Option Failure} :
    SettlesAll box s sites w calls edits f w' →
      w'.box = runAll box (calls.filterMap (unit? s.file)) w.box
  | .nil => rfl
  | .next h hrest => by rw [List.filterMap_append, runAll_append, ← h.box_eq, hrest.box_eq]
  | .stop h => h.box_eq

end

/-- The fragments of the invocations, but for empty ones, compile to the units. -/
def Compiles (file : String) (calls : List Invocation) (units : List ScriptUnit) : Prop :=
  (calls.filter fun i => !i.literal.isEmpty).map (fun i => Fragment.compile i.literal file) =
    units.map .ok

theorem Compiles.append {file : String} {calls calls' : List Invocation}
    {units units' : List ScriptUnit} (h : Compiles file calls units)
    (h' : Compiles file calls' units') : Compiles file (calls ++ calls') (units ++ units') := by
  unfold Compiles at h h' ⊢
  rw [List.filter_append, List.map_append, List.map_append, h, h']

theorem compiles_of_evaluate {i : Invocation} {file : String} {b b' : σ} {o : Outcome}
    (h : box.evaluate i.literal file b = (.ok o, b')) :
    Compiles file [i] ([i].filterMap (unit? file)) := by
  by_cases hempty : i.literal.isEmpty
  · simp [Compiles, unit?, hempty]
  · cases hc : Fragment.compile i.literal file with
    | error f =>
        rw [Evaluator.evaluate, if_neg hempty, hc] at h
        cases h
    | ok u => simp [Compiles, unit?, hempty, hc, Except.toOption]

mutual

theorem Settles.compiles {m : Found} {w w' : Workshop σ} {calls : List Invocation}
    {r : Except Failure Ast} (h : Settles box s m w calls r w') {e : Ast} (hr : r = .ok e) :
    Compiles s.file calls (calls.filterMap (unit? s.file)) := by
  match h with
  | .invocation heval _ => exact compiles_of_evaluate heval
  | .require h => exact h.compiles hr
  | .source h => exact h.compiles rfl
  | .not_evaluated _ | .not_expressible _ _ | .source_not_string _ _ | .source_failed _ => cases hr

theorem Reads.compiles {spec : Specifier} {w w' : Workshop σ} {calls : List Invocation}
    {r : Except Failure Ast} (h : Reads box s spec w calls r w') {e : Ast} (hr : r = .ok e) :
    Compiles s.file calls (calls.filterMap (unit? s.file)) := by
  match h with
  | .expanded _ h => exact h.compiles rfl
  | .unreadable _ | .failed _ _ => cases hr

theorem SettlesAll.compiles {sites : List (Address × Found)} {w w' : Workshop σ}
    {calls : List Invocation} {edits : Edits} {f : Option Failure}
    (h : SettlesAll box s sites w calls edits f w') (hf : f = none) :
    Compiles s.file calls (calls.filterMap (unit? s.file)) := by
  match h with
  | .nil => rfl
  | .next h hrest =>
      rw [List.filterMap_append]
      exact (h.compiles rfl).append (hrest.compiles hf)
  | .stop _ => cases hf

end

/-! ## The traversal follows the rules -/

/-- The way from one progress to another settles the sites, with the given edits. -/
def Explained (box : Evaluator σ) (s : Setting) (sites : List (Address × Found))
    (p q : Progress σ) (edits : Edits) : Prop :=
  ∃ calls, SettlesAll box s sites p.workshop calls edits q.failure q.workshop ∧
    (q.failure = none → q.expanded = p.expanded + calls.length)

/-- A visitor settles the sites of a tree and edits the tree accordingly. -/
def Explains (box : Evaluator σ) (s : Setting) (visitor : Ast → Expand σ Ast) (t : Ast) : Prop :=
  ∀ p : Progress σ, p.failure = none →
    ∃ edits, Explained box s (s.sites t) p (visitor t p).2 edits ∧
      (visitor t p).1 = t.edit edits

namespace Explained

variable {sites sites' : List (Address × Found)} {p q r : Progress σ} {edits edits' : Edits}
variable {a : Address} {m : Found} {calls : List Invocation} {e : Ast} {f : Failure}

theorem nil (hp : p.failure = none) : Explained box s [] p p [] :=
  ⟨[], hp ▸ .nil, fun _ => rfl⟩

theorem cons (h : Settles box s m p.workshop calls (.ok e) q.workshop)
    (hcount : q.expanded = p.expanded + calls.length) (hrest : Explained box s sites q r edits) :
    Explained box s ((a, m) :: sites) p r ((a, e) :: edits) := by
  obtain ⟨calls', hrest, hcount'⟩ := hrest
  refine ⟨calls ++ calls', .next h hrest, fun hr => ?_⟩
  rw [hcount' hr, hcount, List.length_append]
  omega

theorem stop (h : Settles box s m p.workshop calls (.error f) q.workshop) (hq : q.failure = none) :
    Explained box s ((a, m) :: sites) p (q.stop f) [] := by
  have hfail : (q.stop f).failure = some f := by simp [Progress.stop, hq]
  refine ⟨calls, ?_, fun hnone => ?_⟩
  · rw [hfail]
    exact .stop h
  · rw [hfail] at hnone
    cases hnone

theorem map_under (h : Explained box s sites p q edits) (i : Nat) :
    Explained box s (sites.map (Address.under i)) p q (edits.map (Address.under i)) := by
  obtain ⟨calls, h, hcount⟩ := h
  exact ⟨calls, h.map_under i, hcount⟩

theorem append (h : Explained box s sites p q edits) (hq : q.failure = none)
    (h' : Explained box s sites' q r edits') :
    Explained box s (sites ++ sites') p r (edits ++ edits') := by
  obtain ⟨calls, h, hcount⟩ := h
  obtain ⟨calls', h', hcount'⟩ := h'
  rw [hq] at h
  refine ⟨calls ++ calls', h.append h', fun hr => ?_⟩
  rw [hcount' hr, hcount hq, List.length_append]
  omega

theorem append_failed (h : Explained box s sites p q edits) (hq : q.failure = some f)
    (sites' : List (Address × Found)) : Explained box s (sites ++ sites') p q edits := by
  obtain ⟨calls, h, hcount⟩ := h
  refine ⟨calls, ?_, hcount⟩
  rw [hq] at h ⊢
  exact h.append_failed sites'

end Explained

section Traversal

variable {inner : Ast → Expand σ Ast} {p : Progress σ}

/-- An invocation is expanded as the rules say, and no failure is recorded yet. -/
theorem expand_settles (hp : p.failure = none) (i : Invocation) :
    ∃ q : Progress σ, q.failure = none ∧
      ((∃ e, expand box s i p = (.ok e, q) ∧ q.expanded = p.expanded + 1 ∧
          Settles box s (.invocation i) p.workshop [i] (.ok e) q.workshop) ∨
        ∃ f, expand box s i p = (.error f, q) ∧
          Settles box s (.invocation i) p.workshop [i] (.error f) q.workshop) := by
  unfold expand
  dsimp only
  split
  · rename_i f b heval
    exact ⟨{ p with box := b }, hp, .inr ⟨_, rfl, .not_evaluated heval⟩⟩
  · rename_i o b heval
    split
    · rename_i f bench hexpr
      exact ⟨{ p with box := b, bench }, hp, .inr ⟨_, rfl, .not_expressible heval hexpr⟩⟩
    · rename_i e bench hexpr
      exact ⟨{ p with box := b, bench, expanded := p.expanded + 1 }, hp,
        .inl ⟨e, rfl, rfl, .invocation heval hexpr⟩⟩

/-- A specifier is expanded as the rules say if the tree read for it is gone through so; a failure
    in there is taken out again. -/
theorem expandSpecifier_reads {spec : Specifier} (hp : p.failure = none)
    (hinner : ∀ (w w' : Workbench) (e : Ast), w.readExpr s.file spec.text = (.ok e, w') →
      Explains box s inner e) :
    ∃ (q : Progress σ) (calls : List Invocation), q.failure = none ∧
      ((∃ e, expandSpecifier inner s spec p = (.ok e, q) ∧
          q.expanded = p.expanded + calls.length ∧
          Reads box s spec p.workshop calls (.ok e) q.workshop) ∨
        ∃ f, expandSpecifier inner s spec p = (.error f, q) ∧
          Reads box s spec p.workshop calls (.error f) q.workshop) := by
  unfold expandSpecifier
  dsimp only
  split
  · rename_i f bench hread
    exact ⟨{ p with bench }, [], hp, .inr ⟨_, rfl, .unreadable hread⟩⟩
  · rename_i e bench hread
    obtain ⟨edits, ⟨calls, hsettles, hcount⟩, hedit⟩ := hinner _ _ e hread { p with bench } hp
    generalize inner e { p with bench } = r at hsettles hcount hedit
    obtain ⟨e', q⟩ := r
    subst hedit
    dsimp only at hsettles hcount ⊢
    cases hf : q.failure with
    | some f =>
        rw [hf] at hsettles
        exact ⟨{ q with failure := none }, calls, rfl, .inr ⟨_, rfl, .failed hread hsettles⟩⟩
    | none =>
        rw [hf] at hsettles
        exact ⟨q, calls, hf, .inl ⟨_, rfl, hcount hf, .expanded hread hsettles⟩⟩

theorem replaceSource_of_not_string {decl e : Ast} {file : String} {place : Option Place}
    (h : ∀ value raw, e.shape ≠ .str value raw) :
    replaceSource decl e file place = .error (.specifier file (describe e) place) := by
  unfold replaceSource
  split
  · exact absurd rfl (h _ _)
  · rfl

theorem visitAll_of_failure (h : p.failure.isSome) (ts : List Ast) :
    visitAll box s inner ts p = (ts, p) := by
  induction ts with
  | nil => rw [visitAll_nil]
  | cons t ts ih => rw [visitAll_cons, visit_of_failure h, ih]

/-- Parts are settled in order.  The edits of each part are moved to its number. -/
theorem visitAll_explained {ts : List Ast} (h : ∀ t ∈ ts, Explains box s (visit box s inner) t)
    (i : Nat) (hp : p.failure = none) :
    ∃ edits : Edits, edits.From i ∧
      Explained box s (s.sitesFrom i ts) p (visitAll box s inner ts p).2 edits ∧
      (visitAll box s inner ts p).1 = Ast.editFrom edits i ts := by
  induction ts generalizing i p with
  | nil =>
      refine ⟨[], fun _ hx => absurd hx List.not_mem_nil, ?_, ?_⟩
      · rw [visitAll_nil, Setting.sitesFrom]
        exact .nil hp
      · rw [visitAll_nil, Ast.editFrom]
  | cons t ts ih =>
      obtain ⟨edits, hexp, hedit⟩ := h t List.mem_cons_self p hp
      have hfrom := Edits.from_under (Nat.le_refl i) edits
      simp only [visitAll_cons, Setting.sitesFrom, Ast.editFrom]
      cases hq : (visit box s inner t p).2.failure with
      | none =>
          obtain ⟨edits', hfrom', hexp', hedit'⟩ :=
            ih (fun c hc => h c (List.mem_cons_of_mem t hc)) (i + 1) hq
          have hlater : ∀ j ≥ i + 1,
              Edits.within j (edits.map (Address.under i) ++ edits') = edits'.within j := by
            intro j hj
            rw [Edits.within_append, Edits.within_under_of_ne (by omega), List.nil_append]
          refine ⟨edits.map (Address.under i) ++ edits', hfrom.append (hfrom'.mono (by omega)),
            (hexp.map_under i).append hq hexp', ?_⟩
          rw [Edits.within_append, Edits.within_under,
            Edits.within_of_from hfrom' (Nat.lt_succ_self i), List.append_nil, hedit, hedit',
            Ast.editFrom_congr hlater]
      | some f =>
          rw [visitAll_of_failure (by rw [hq]; rfl)]
          refine ⟨edits.map (Address.under i), hfrom, (hexp.map_under i).append_failed hq _, ?_⟩
          rw [Edits.within_under, hedit, Ast.editFrom_of_within]
          intro j hj
          exact Edits.within_under_of_ne (by omega) edits

/-- Once the first argument of a call of `require` is settled, its callee follows and then the other
    arguments. -/
theorem visitCall_explained {callee first e : Ast} {shape shape' : Shape} {span span' : Span}
    {args rest : List Ast} {spec : Specifier} {calls : List Invocation} {q : Progress σ}
    (hcallee : Explains box s (visit box s inner) callee)
    (hargs : ∀ t ∈ args, Explains box s (visit box s inner) t)
    (h : Reads box s spec p.workshop calls (.ok e) q.workshop) (hq : q.failure = none)
    (hcount : q.expanded = p.expanded + calls.length) :
    let parts := callee :: .node shape' span' (first :: args) :: rest
    ∃ edits, Explained box s (([1, 0], .require spec) :: s.callSites parts) p
        (visitCall box s inner e parts q).2 edits ∧
      .node shape span (visitCall box s inner e parts q).1 =
        (Ast.node shape span parts).edit edits := by
  intro parts
  simp only [parts, visitCall_apply, Setting.callSites, Setting.argSites]
  obtain ⟨edits, hexp, hedit⟩ := hcallee q hq
  cases hc : (visit box s inner callee q).2.failure with
  | none =>
      obtain ⟨edits', hfrom', hexp', hedit'⟩ := visitAll_explained hargs 1 hc
      refine ⟨([1, 0], e) :: (edits.map (Address.under 0) ++ edits'.map (Address.under 1)),
        .cons (.require h) hcount ((hexp.map_under 0).append hc (hexp'.map_under 1)), ?_⟩
      rw [Ast.edit_call hfrom', hedit, hedit']
  | some f =>
      have hnone : Edits.From 1 [] := fun x hx => absurd hx List.not_mem_nil
      rw [visitAll_of_failure (by rw [hc]; rfl)]
      refine ⟨([1, 0], e) :: (edits.map (Address.under 0) ++ [].map (Address.under 1)), ?_, ?_⟩
      · rw [List.map_nil, List.append_nil]
        exact .cons (.require h) hcount ((hexp.map_under 0).append_failed hc _)
      · rw [Ast.edit_call hnone, hedit, Ast.editFrom_of_within fun _ _ => Edits.within_nil _]

/-- The source of an import is settled: what its text expands to has to be a string. -/
theorem visit_source_explained {shape : Shape} {span : Span} {parts : List Ast} {spec : Specifier}
    (hp : p.failure = none) (hi : s.invocation? (.node shape span parts) = none)
    (hr : s.requireSpecifier? (.node shape span parts) = none)
    (hs : s.importSpecifier? (.node shape span parts) = some spec)
    (h : ∀ (w w' : Workbench) (e : Ast), w.readExpr s.file spec.text = (.ok e, w') →
      Explains box s inner e) :
    let t := Ast.node shape span parts
    ∃ edits, Explained box s (s.sites t) p (visit box s inner t p).2 edits ∧
      (visit box s inner t p).1 = t.edit edits := by
  intro t
  rw [Setting.sites_source hi hr hs]
  obtain ⟨q, calls, hq, ⟨e, he, hcount, hreads⟩ | ⟨f, he, hreads⟩⟩ := expandSpecifier_reads hp h
  · by_cases hstr : ∃ value raw, e.shape = .str value raw
    · obtain ⟨-, names, source, rest, rfl, hspec⟩ := Setting.importSpecifier?_iff.mp hs
      obtain ⟨eshape, espan, eparts⟩ := e
      obtain ⟨value, raw, rfl⟩ : ∃ value raw, eshape = .str value raw := hstr
      rw [visit_source hp hi hr hs he rfl]
      refine ⟨[([1], .node (.str value raw) spec.span [])],
        .cons (.source hreads) hcount (.nil hq), ?_⟩
      rw [Ast.edit_source, Setting.specifier?_span hspec]
    · have hne : ∀ value raw, e.shape ≠ .str value raw := fun value raw hshape =>
        hstr ⟨value, raw, hshape⟩
      rw [visit_source_not_string hp hi hr hs he (replaceSource_of_not_string hne)]
      exact ⟨[], .stop (.source_not_string hreads hne) hq, (Ast.edit_nil _).symm⟩
  · rw [visit_source_failed hp hi hr hs he]
    exact ⟨[], .stop (.source_failed hreads) hq, (Ast.edit_nil _).symm⟩

/-- Where the trees read for specifiers are settled, so is the tree that holds the specifiers. -/
theorem visit_explained {t : Ast}
    (h : ∀ spec ∈ s.specifiers t, ∀ (w w' : Workbench) (e : Ast),
      w.readExpr s.file spec.text = (.ok e, w') → Explains box s inner e) :
    Explains box s (visit box s inner) t := by
  induction t using Ast.induction₂ with
  | node shape span parts ih ih' =>
      have hparts : ∀ t ∈ parts, Explains box s (visit box s inner) t :=
        fun t ht => ih t ht fun spec hspec => h spec (specifiers_of_part ht hspec)
      intro p hp
      cases hi : s.invocation? (.node shape span parts) with
      | some i =>
          rw [Setting.sites_invocation hi]
          obtain ⟨q, hq, ⟨e, he, hcount, hs⟩ | ⟨f, he, hs⟩⟩ := expand_settles hp i
          · rw [visit_invocation hp hi he]
            exact ⟨[([], e)], .cons hs hcount (.nil hq), (Ast.edit_root _ _).symm⟩
          · rw [visit_invocation_failed hp hi he]
            exact ⟨[], .stop hs hq, (Ast.edit_nil _).symm⟩
      | none =>
          cases hr : s.requireSpecifier? (.node shape span parts) with
          | some spec =>
              obtain ⟨q, calls, hq, ⟨e, he, hcount, hreads⟩ | ⟨f, he, hreads⟩⟩ :=
                expandSpecifier_reads hp (h spec (specifiers_of_require hr))
              · rw [Setting.sites_require hi hr, visit_require hp hi hr he]
                obtain ⟨callee, shape', span', first, args, rest, rfl, -⟩ :=
                  Setting.requireSpecifier?_parts hr
                have hmem : Ast.node shape' span' (first :: args) ∈
                    callee :: .node shape' span' (first :: args) :: rest :=
                  List.mem_cons_of_mem _ List.mem_cons_self
                refine visitCall_explained (hparts callee List.mem_cons_self) ?_ hreads hq hcount
                -- the arguments are parts of a part, for which the second hypothesis stands
                intro t ht
                have ht' := List.mem_cons_of_mem first ht
                exact ih' _ hmem t ht' fun spec hspec =>
                  h spec (specifiers_of_part hmem (specifiers_of_part ht' hspec))
              · rw [Setting.sites_require hi hr, visit_require_failed hp hi hr he]
                exact ⟨[], .stop (.require hreads) hq, (Ast.edit_nil _).symm⟩
          | none =>
              cases hs : s.importSpecifier? (.node shape span parts) with
              | some spec =>
                  exact visit_source_explained hp hi hr hs (h spec (specifiers_of_source hs))
              | none =>
                  rw [Setting.sites_parts hi hr hs, visit_parts hp hi hr hs]
                  obtain ⟨edits, hfrom, hexp, hedit⟩ := visitAll_explained hparts 0 hp
                  exact ⟨edits, hexp, by rw [Ast.edit_node hfrom, hedit]⟩

/-- An expansion settles the sites of its tree. -/
theorem run_explained (box : Evaluator σ) (s : Setting) (t : Ast) :
    Explains box s (run box s) t := by
  induction t using specifier_induction s with
  | step t ih =>
      unfold Explains
      rw [run_eq_visit]
      exact visit_explained ih

end Traversal

/-! ## Runs -/

section Runs

variable {sites : List (Address × Found)} {w w' : Workshop σ} {calls : List Invocation}
variable {edits : Edits}

theorem at?_edit_of_sites {t : Ast} {a : Address} (h : SettlesAll box s sites w calls edits none w')
    (ha : ∀ x ∈ sites, Address.Apart x.1 a) : (t.edit edits).at? a = t.at? a := by
  refine Ast.at?_edit_of_apart t fun x hx => ?_
  have hmem : x.1 ∈ sites.map Prod.fst := h.addresses ▸ List.mem_map_of_mem hx
  obtain ⟨y, hy, hxy⟩ := List.mem_map.mp hmem
  exact hxy ▸ ha y hy

/-- Where a site was settled, its expansion stands. -/
theorem at?_edit_settled {t : Ast} {after : List (Address × Found)}
    (h : SettlesAll box s sites w calls edits none w') (ht : s.sites t = sites ++ after)
    {x : Address × Ast} (hx : x ∈ edits) : (t.edit edits).at? x.1 = some x.2 := by
  have hpair : edits.Pairwise fun x y => Address.Apart x.1 y.1 := by
    have hall : Setting.ApartSites (sites ++ after) := ht ▸ Setting.sites_apart t
    refine List.pairwise_map.mp ?_
    rw [h.addresses]
    exact List.pairwise_map.mpr (List.pairwise_append.mp hall).1
  have hapart : ∀ x ∈ edits, ∀ y ∈ edits, x = y ∨ Address.Apart x.1 y.1 := fun x hx y hy =>
    List.Pairwise.forall_of_forall_of_flip (R := fun x y => x = y ∨ Address.Apart x.1 y.1)
      (fun _ _ => .inl rfl) (hpair.imp .inr) (hpair.imp fun hxy => .inr hxy.symm) hx hy
  have hsome : (t.at? x.1).isSome := by
    have hmem : x.1 ∈ sites.map Prod.fst := h.addresses ▸ List.mem_map_of_mem hx
    obtain ⟨y, hy, hxy⟩ := List.mem_map.mp hmem
    obtain ⟨c, hc, -⟩ := Setting.sites_at (ht ▸ List.mem_append_left after hy)
    rw [← hxy, hc]
    rfl
  exact Ast.at?_edit_of_mem t hapart hx hsome

end Runs

/-- What a run that succeeds has done.  The sites of the tree were settled one after the other, and
    each of them now holds its expansion; whatever lies apart from them is unchanged.  The count is
    that of the invocations evaluated, and the evaluator has run the units that their fragments
    compile to, in this order, and nothing else. -/
theorem run_succeeds {t t' : Ast} {bench : Workbench} {b : σ} {q : Progress σ}
    (h : run box s t { bench, box := b } = (t', q)) (hq : q.failure = none) :
    ∃ calls edits units, SettlesAll box s (s.sites t) ⟨bench, b⟩ calls edits none q.workshop ∧
      t' = t.edit edits ∧ edits.map Prod.fst = (s.sites t).map Prod.fst ∧
      (∀ x ∈ edits, t'.at? x.1 = some x.2) ∧
      (∀ a, (∀ x ∈ s.sites t, Address.Apart x.1 a) → t'.at? a = t.at? a) ∧
      q.expanded = calls.length ∧ Compiles s.file calls units ∧ q.box = runAll box units b := by
  obtain ⟨edits, ⟨calls, hsettles, hcount⟩, hedit⟩ :=
    run_explained box s t { bench, box := b } rfl
  rw [h] at hsettles hcount hedit
  rw [hq] at hsettles
  subst hedit
  refine ⟨calls, edits, calls.filterMap (unit? s.file), hsettles, rfl, hsettles.addresses, ?_, ?_,
    ?_, hsettles.compiles rfl, hsettles.box_eq⟩
  · exact fun x hx => at?_edit_settled hsettles (List.append_nil _).symm hx
  · exact fun a ha => at?_edit_of_sites hsettles ha
  · rw [hcount hq, Nat.zero_add]

/-- An evaluator that counts its runs; every fragment exports `7`. -/
def counting : Evaluator Nat := ⟨fun _ runs => (.ok (.structural "7"), runs + 1)⟩

def usualPass : Pass := { keywords := ⟨[Keyword.usual]⟩, options := {} }

/-- A call of `require` with a specifier and, behind it, an invocation of the given fragment. -/
def requireCall (fragment : String) : Ast :=
  let quoted (text : String) : Ast := .node (.str text text) .none []
  .node .call .none [Ast.name "require", .group [quoted "precall`7`",
    .node .call .none [Ast.name "precall", .group [quoted fragment]]]]

/-- Two invocations are evaluated, one inside the specifier; the other is empty and not run. -/
theorem run_succeeds_require :
    let s := usualPass.setting "a.js"
    let r := run counting s (requireCall "") { bench := {}, box := 0 }
    r.2.failure = none ∧ r.2.expanded = 2 ∧ r.2.box = 1 ∧
      ∃ calls edits units, SettlesAll counting s (s.sites (requireCall "")) ⟨{}, 0⟩ calls edits none
          r.2.workshop ∧
        r.1 = (requireCall "").edit edits ∧ r.2.expanded = calls.length ∧
        Compiles s.file calls units ∧ r.2.box = runAll counting units 0 := by
  intro s r
  have hnone : r.2.failure = none := by decide +kernel
  obtain ⟨calls, edits, units, hsettles, hedit, -, -, -, hcount, hcompiles, hbox⟩ :=
    run_succeeds (Prod.eta r).symm hnone
  exact ⟨hnone, by decide +kernel, by decide +kernel, calls, edits, units, hsettles, hedit, hcount,
    hcompiles, hbox⟩

/-- The expansion of a program settles the sites of its tree. -/
theorem program_settles {pass : Pass} {file : String} {t t' : Ast} {bench : Workbench} {b : σ}
    {q : Progress σ} (h : pass.program box file t bench b = (t', q)) :
    ∃ calls edits, SettlesAll box (pass.setting file) ((pass.setting file).sites t.resolve)
      ⟨bench, b⟩ calls edits q.failure q.workshop ∧ t' = t.resolve.edit edits := by
  obtain ⟨edits, ⟨calls, hsettles, -⟩, hedit⟩ :=
    run_explained box (pass.setting file) t.resolve { bench, box := b } rfl
  replace h : run box (pass.setting file) t.resolve { bench, box := b } = (t', q) := h
  rw [h] at hsettles hedit
  exact ⟨calls, edits, hsettles, hedit⟩

/-- What a run that fails leaves behind.  There is a first match whose failure it is.  The sites
    before that match hold their expansions; the match itself, the sites behind it and whatever else
    lies apart from the sites before it are unchanged.  The evaluator has run units for the
    invocations of the sites before the match and for those that were evaluated up to the failure
    within it. -/
theorem program_fails {pass : Pass} {file : String} {t t' : Ast} {bench : Workbench} {b : σ}
    {q : Progress σ} {f : Failure} (h : pass.program box file t bench b = (t', q))
    (hq : q.failure = some f) :
    ∃ before a m after calls calls' edits w,
      (pass.setting file).sites t.resolve = before ++ (a, m) :: after ∧
      SettlesAll box (pass.setting file) before ⟨bench, b⟩ calls edits none w ∧
      Settles box (pass.setting file) m w calls' (.error f) q.workshop ∧
      t' = t.resolve.edit edits ∧ edits.map Prod.fst = before.map Prod.fst ∧
      (∀ x ∈ edits, t'.at? x.1 = some x.2) ∧
      (∀ c, (∀ x ∈ before, Address.Apart x.1 c) → t'.at? c = t.resolve.at? c) ∧
      (∀ x ∈ (a, m) :: after, t'.at? x.1 = t.resolve.at? x.1) ∧
      q.box = runAll box ((calls ++ calls').filterMap (unit? (pass.setting file).file)) b := by
  obtain ⟨calls, edits, hsettles, rfl⟩ := program_settles h
  rw [hq] at hsettles
  have hbox := hsettles.box_eq
  obtain ⟨before, a, m, after, calls₁, calls₂, w, hsites, rfl, hbefore, hfail⟩ :=
    hsettles.first_failure
  have hframe : ∀ c, (∀ x ∈ before, Address.Apart x.1 c) →
      (t.resolve.edit edits).at? c = t.resolve.at? c := fun c hc => at?_edit_of_sites hbefore hc
  refine ⟨before, a, m, after, calls₁, calls₂, edits, w, hsites, hbefore, hfail, rfl,
    hbefore.addresses, fun x hx => at?_edit_settled hbefore hsites hx, hframe, ?_, hbox⟩
  intro x hx
  -- sites lie apart, so no edit is near those behind the failure
  have hapart : Setting.ApartSites (before ++ (a, m) :: after) := hsites ▸ Setting.sites_apart _
  exact hframe x.1 fun y hy => (List.pairwise_append.mp hapart).2.2 y hy x hx

/-- The fragment behind the specifier does not compile: the specifier has been expanded, and the
    evaluator has run once. -/
theorem program_fails_behind_require :
    let s := usualPass.setting "a.js"
    let r := usualPass.program counting "a.js" (requireCall "(") {} 0
    r.2.box = 1 ∧ ∃ f before a m after edits, r.2.failure = some f ∧
      s.sites (requireCall "(").resolve = before ++ (a, m) :: after ∧
      r.1 = (requireCall "(").resolve.edit edits ∧ edits.map Prod.fst = before.map Prod.fst ∧
      ∃ w calls, Settles counting s m w calls (.error f) r.2.workshop := by
  intro s r
  have hsome : r.2.failure.isSome := by decide +kernel
  have hfailure : r.2.failure = some (r.2.failure.get hsome) := (Option.some_get hsome).symm
  obtain ⟨before, a, m, after, _, calls, edits, w, hsites, -, hfail, hedit, haddresses, -⟩ :=
    program_fails (Prod.eta r).symm hfailure
  exact ⟨by decide +kernel, _, before, a, m, after, edits, hfailure, hsites, hedit, haddresses, w,
    calls, hfail⟩

end Expansion

end Inlay
