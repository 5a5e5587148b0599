import Inlay.ModuleRecord
import Inlay.Proofs.Expansion.Coverage

/-! # Where failures are placed

    A failure is given the place of the match at which it came up.  The first place stays, so a
    failure inside the text of a specifier keeps its place in that text; it is not moved to the
    specifier.

    * `Blames`: the places a failing match can be reported at: its own, or one inside its text;
    * `program_fails_at`: every failure that can have a place has such a one.  If the match is an
      invocation of the file, the place is the one where the invocation starts in the file. -/

namespace Inlay

open Syntax

variable {σ : Type}

/-! ## Failures without a place -/

namespace Failure

def isPlaceable : Failure → Bool
  | parse .. | compile .. | execution .. | serialization .. | specifier .. => true
  | config _ | emit _ | io _ => false

/-- The first place stays. -/
theorem place_at? {f : Failure} (hf : f.isPlaceable) (p : Option Place) :
    (f.at? p).place = f.place.or p := by
  cases f with
  | parse file m q | compile file m q | execution file m q | serialization file t m q
  | specifier file found q => cases q <;> rfl
  | config m | emit m | io m => contradiction

theorem isPlaceable_at? (f : Failure) (p : Option Place) :
    (f.at? p).isPlaceable = f.isPlaceable := by
  cases f with
  | parse file m q | compile file m q | execution file m q | serialization file t m q
  | specifier file found q => cases q <;> rfl
  | config m | emit m | io m => rfl

def IsOpen (f : Failure) : Prop := f.isPlaceable ∧ f.place = none

theorem IsOpen.place_at? {f : Failure} (h : f.IsOpen) (p : Option Place) : (f.at? p).place = p := by
  rw [Failure.place_at? h.1, h.2]
  rfl

end Failure

def Evaluator.Unplaced (box : Evaluator σ) : Prop :=
  ∀ unit b f b', box.run unit b = (.error f, b') → f.place = none

/-! ## Answers of the engine -/

/-- A value is JSON text that has passed the check. -/
def Outcome.IsValid : Outcome → Prop
  | .structural json => ∃ text, Outcome.ofJson text = .ok (.structural json)
  | _ => True

theorem Outcome.isValid_of_ofJson {text : String} {o : Outcome} (h : Outcome.ofJson text = .ok o) :
    o.IsValid := by
  cases o with
  | structural json => exact ⟨text, h⟩
  | absent | callable => trivial

/-- A value that has been checked, or a failure without a place. -/
def IsAnswer : Except Failure Outcome → Prop
  | .ok o => o.IsValid
  | .error f => f.IsOpen

namespace ModuleRecord

variable {r r' : ModuleRecord} {f : Failure}

theorem run_isOpen {α : Type} {p : Engine.Exec α} {failed : String → Failure}
    (hfailed : ∀ m, (failed m).IsOpen) (h : r.run p failed = (.error f, r')) : f.IsOpen := by
  unfold run at h
  split at h
  · cases h
  · cases h
    exact hfailed _

theorem ofStart_isOpen {file : String} {o} (h : ofStart file o = .error f) : f.IsOpen := by
  obtain ⟨_ | _, _⟩ := o
  · cases h
    exact ⟨rfl, rfl⟩
  · cases h

theorem execute_isOpen {unit : ScriptUnit} (h : r.execute unit = (.error f, r')) : f.IsOpen := by
  unfold execute at h
  dsimp only at h
  split at h
  next hrun =>
    cases h
    exact run_isOpen (fun _ => ⟨rfl, rfl⟩) hrun
  next =>
    split at h
    next => exact run_isOpen (fun _ => ⟨rfl, rfl⟩) h
    next =>
      cases h
      exact ⟨rfl, rfl⟩

theorem exportValue_isAnswer (r : ModuleRecord) : IsAnswer r.exportValue.1 := by
  unfold exportValue
  dsimp only
  split
  next hrun => exact run_isOpen (fun _ => ⟨rfl, rfl⟩) hrun
  next => trivial
  next =>
    split
    next hrun => exact run_isOpen (fun _ => ⟨rfl, rfl⟩) hrun
    next =>
      split
      next => trivial
      next hrun => exact run_isOpen (fun _ => ⟨rfl, rfl⟩) hrun
    next =>
      split
      next hrun => exact run_isOpen (fun _ => ⟨rfl, rfl⟩) hrun
      next =>
        split
        next hjson => exact Outcome.isValid_of_ofJson hjson
        next => exact ⟨rfl, rfl⟩
      next => exact ⟨rfl, rfl⟩

end ModuleRecord

theorem engineEvaluator_isAnswer {unit : ScriptUnit} {b b' : Unit} {o : Except Failure Outcome}
    (h : engineEvaluator.run unit b = (o, b')) : IsAnswer o := by
  obtain ⟨rfl, -⟩ := Prod.mk.inj h
  cases hnew : ModuleRecord.new unit.file with
  | error f => exact ModuleRecord.ofStart_isOpen hnew
  | ok r =>
      simp only [bind, Except.bind]
      split
      next hexecute => exact ModuleRecord.execute_isOpen hexecute
      next r' _ => exact r'.exportValue_isAnswer

namespace Fragment

theorem lowerItem_isOpen {file : String} {item : Ast} {f : Failure}
    (h : lowerItem file item = .error f) : f.IsOpen := by
  unfold lowerItem at h
  split at h
  case h_2 =>
    split at h
    · cases h
      exact ⟨rfl, rfl⟩
    · cases h
  all_goals cases h <;> exact ⟨rfl, rfl⟩

theorem lowerItems_isOpen {file : String} {items : List Ast} {f : Failure}
    (h : lowerItems file items = .error f) : f.IsOpen := by
  induction items with
  | nil => cases h
  | cons item rest ih =>
      rw [lowerItems] at h
      cases hitem : lowerItem file item with
      | error g =>
          rw [hitem] at h
          cases h
          exact lowerItem_isOpen hitem
      | ok s =>
          rw [hitem] at h
          cases hrest : lowerItems file rest with
          | error g =>
              rw [hrest] at h
              cases h
              exact ih hrest
          | ok ss =>
              rw [hrest] at h
              cases h

theorem readProgram_error {w w' : Workbench} {file source : String} {dialect : Dialect}
    {f : Failure} (h : w.readProgram file source dialect = (.error f, w')) :
    ∃ m p, f = .parse file m p := by
  unfold Workbench.readProgram at h
  dsimp only at h
  split at h
  · cases h
    exact ⟨_, _, rfl⟩
  · cases h
  · cases h
    exact ⟨_, _, rfl⟩

/-- The place inside a fragment goes into the text of the failure. -/
theorem compile_isOpen {source file : String} {f : Failure} (h : compile source file = .error f) :
    f.IsOpen := by
  have hscript : ∀ {g w}, script source file = (.error g, w) → g.IsOpen := by
    intro g w hg
    unfold script at hg
    split at hg
    next f' w' hread =>
      obtain ⟨m, p, rfl⟩ := readProgram_error hread
      cases hg
      cases p <;> exact ⟨rfl, rfl⟩
    next program w' hread =>
      obtain ⟨hlower, -⟩ := Prod.mk.inj hg
      unfold lower at hlower
      split at hlower
      · cases hitems : lowerItems file _ with
        | error g' =>
            rw [hitems] at hlower
            cases hlower
            exact lowerItems_isOpen hitems
        | ok ss =>
            rw [hitems] at hlower
            cases hlower
      · cases hlower
  unfold compile at h
  split at h
  next hg =>
    cases h
    exact hscript hg
  next => cases h

end Fragment

theorem Evaluator.evaluate_error {box : Evaluator σ} {literal file : String} {b b' : σ}
    {f : Failure}
    (h : box.evaluate literal file b = (.error f, b')) :
    f.IsOpen ∨ ∃ unit, box.run unit b = (.error f, b') := by
  unfold Evaluator.evaluate at h
  split at h
  · cases h
  · split at h
    next hc =>
      cases h
      exact .inl (Fragment.compile_isOpen hc)
    next => exact .inr ⟨_, h⟩

theorem Evaluator.Unplaced.evaluate {box : Evaluator σ} (hbox : box.Unplaced)
    {literal file : String} {b b' : σ} {f : Failure}
    (h : box.evaluate literal file b = (.error f, b')) : f.place = none := by
  rcases Evaluator.evaluate_error h with hopen | ⟨unit, hrun⟩
  · exact hopen.2
  · exact hbox _ _ _ _ hrun

theorem Workbench.readExpr_isOpen {w w' : Workbench} {file source : String} {f : Failure}
    (h : w.readExpr file source = (.error f, w')) : f.IsOpen := by
  unfold Workbench.readExpr at h
  dsimp only at h
  split at h <;> cases h <;> exact ⟨rfl, rfl⟩

theorem Outcome.toExpr_isOpen {o : Outcome} {span : Span} {w w' : Workbench} {file : String}
    {f : Failure} (h : o.toExpr span file w = (.error f, w')) : f.IsOpen := by
  unfold Outcome.toExpr at h
  split at h
  · cases h
  all_goals
    split at h
    · cases h
    · cases h
      exact ⟨rfl, rfl⟩

/-! ## Positions on the bench -/

namespace SourceText

/-- How many lines a text has.  A line ends with `\n`, `\r` or both together. -/
def lineCount : List Char → Nat
  | [] => 1
  | '\r' :: '\n' :: cs => lineCount cs + 1
  | c :: cs => if c == '\n' || c == '\r' then lineCount cs + 1 else lineCount cs

theorem lineCount_pos (cs : List Char) : 0 < lineCount cs := by
  fun_induction lineCount cs <;> omega

/-- Going through a text leads to one of its lines. -/
theorem walk_line_lt (cs : List Char) (n : Nat) (p : Place) :
    (walk cs n p).line < p.line + lineCount cs := by
  fun_induction walk cs n p with
  | case1 cs p => exact Nat.lt_add_of_pos_right (lineCount_pos cs)
  | case2 n p => exact Nat.lt_succ_self p.line
  | case3 cs p =>
      show p.line < p.line + (lineCount cs + 1)
      omega
  | case4 cs p n ih =>
      show _ < p.line + (lineCount cs + 1)
      rw [Nat.add_comm (lineCount cs), ← Nat.add_assoc]
      exact ih
  | case5 c cs n p hpair hc ih =>
      rw [lineCount, if_pos hc, Nat.add_comm (lineCount cs), ← Nat.add_assoc]
      · exact ih
      · exact hpair
  | case6 c cs n p hpair hc ih =>
      rw [lineCount, if_neg hc]
      · exact ih
      · exact hpair

end SourceText

namespace Workbench

/-- The line of the place is one that a text on the bench has. -/
def HasLine (w : Workbench) (p : Place) : Prop :=
  ∃ x ∈ w.texts, p.line ≤ SourceText.lineCount x.chars

theorem hasLine_of_place {w : Workbench} {span : Span} {p : Place} (h : w.place span = some p) :
    w.HasLine p := by
  unfold place at h
  split at h
  · cases h
  · obtain ⟨x, hx, rfl⟩ := Option.map_eq_some_iff.mp h
    have hline : (x.placeOf span.lo).line < 1 + SourceText.lineCount x.chars :=
      SourceText.walk_line_lt x.chars (span.lo - x.start) ⟨1, 1⟩
    exact ⟨x, List.mem_of_find?_eq_some hx, by omega⟩

/-- Texts have been added, with their comments; positions of the texts before are where they
    were. -/
structure Extends (w w' : Workbench) : Prop where
  texts : ∀ x ∈ w.texts, x ∈ w'.texts
  next : w.next ≤ w'.next
  place : ∀ span : Span, span.lo < w.next → w'.place span = w.place span
  comments : ∀ a ∈ w.comments, a ∈ w'.comments

theorem Extends.refl (w : Workbench) : w.Extends w :=
  ⟨fun _ h => h, Nat.le_refl _, fun _ _ => rfl, fun _ h => h⟩

theorem Extends.trans {w w' w'' : Workbench} (h : w.Extends w') (h' : w'.Extends w'') :
    w.Extends w'' :=
  ⟨fun x hx => h'.texts x (h.texts x hx), Nat.le_trans h.next h'.next, fun span hspan =>
    (h'.place span (Nat.lt_of_lt_of_le hspan h.next)).trans (h.place span hspan),
    fun a ha => h'.comments a (h.comments a ha)⟩

theorem HasLine.extends {w w' : Workbench} {p : Place} (hp : w.HasLine p) (h : w.Extends w') :
    w'.HasLine p := by
  obtain ⟨x, hx, hline⟩ := hp
  exact ⟨x, h.texts x hx, hline⟩

theorem extends_read (w : Workbench) (dialect : Dialect) (source : String) :
    w.Extends (w.read dialect source).2 := by
  refine ⟨fun x hx => List.mem_cons_of_mem _ hx, ?_, fun span hspan => ?_,
    fun a ha => List.mem_append_left _ ha⟩
  · show w.next ≤ w.next + _ + 1
    omega
  · unfold place
    split
    · rfl
    · have hnot : ¬ w.next ≤ span.lo := Nat.not_le.mpr hspan
      show ((⟨w.next, _⟩ :: w.texts : List SourceText).find? _).map _ = _
      rw [List.find?_cons_of_neg]
      simpa using hnot

theorem extends_of_readExpr {w w' : Workbench} {file source : String} {r : Except Failure Ast}
    (h : w.readExpr file source = (r, w')) : w.Extends w' := by
  have hread := w.extends_read .plain ("(\n" ++ source ++ "\n)")
  unfold readExpr at h
  dsimp only at h
  split at h <;> exact (Prod.mk.inj h).2 ▸ hread

theorem extends_of_toExpr {w w' : Workbench} {o : Outcome} {span : Span} {file : String}
    {r : Except Failure Ast} (h : o.toExpr span file w = (r, w')) : w.Extends w' := by
  unfold Outcome.toExpr at h
  split at h
  · obtain ⟨-, rfl⟩ := Prod.mk.inj h
    exact .refl w
  all_goals
    split at h
    next hread => exact (Prod.mk.inj h).2 ▸ extends_of_readExpr hread
    next hread => exact (Prod.mk.inj h).2 ▸ extends_of_readExpr hread

end Workbench

namespace Expansion

variable {box : Evaluator σ} {s : Setting}

mutual

theorem Settles.extends {m : Found} {w w' : Workshop σ} {calls : List Invocation}
    {r : Except Failure Ast} : Settles box s m w calls r w' → w.bench.Extends w'.bench
  | .invocation _ hexpr => Workbench.extends_of_toExpr hexpr
  | .not_evaluated _ => .refl _
  | .not_expressible _ hexpr => Workbench.extends_of_toExpr hexpr
  | .require h => h.extends
  | .source h => h.extends
  | .source_not_string h _ => h.extends
  | .source_failed h => h.extends

theorem Reads.extends {spec : Specifier} {w w' : Workshop σ} {calls : List Invocation}
    {r : Except Failure Ast} : Reads box s spec w calls r w' → w.bench.Extends w'.bench
  | .unreadable hread => Workbench.extends_of_readExpr hread
  | .expanded hread h => (Workbench.extends_of_readExpr hread).trans h.extends
  | .failed hread h => (Workbench.extends_of_readExpr hread).trans h.extends

theorem SettlesAll.extends {sites : List (Address × Found)} {w w' : Workshop σ}
    {calls : List Invocation} {edits : Edits} {f : Option Failure} :
    SettlesAll box s sites w calls edits f w' → w.bench.Extends w'.bench
  | .nil => .refl _
  | .next h hrest => h.extends.trans hrest.extends
  | .stop h => h.extends

end

/-! ## Blame -/

def spanOf : Found → Span
  | .invocation i => i.span
  | .require spec | .source spec => spec.span

/-- The places at which a failure of a match can be reported: where the match starts, or, for a
    specifier, where a match inside its text starts, in that text. -/
inductive Blames (box : Evaluator σ) (s : Setting) : Found → Workshop σ → Option Place → Prop where
  | here (m : Found) (w : Workshop σ) : Blames box s m w (w.bench.place (spanOf m))
  | inside {m n : Found} {spec : Specifier} {w w' : Workshop σ} {e : Ast} {bench : Workbench}
      {before after : List (Address × Found)} {a : Address} {calls : List Invocation}
      {edits : Edits} {p : Place} (hm : m = .require spec ∨ m = .source spec)
      (hread : w.bench.readExpr s.file spec.text = (.ok e, bench))
      (hsites : s.sites e = before ++ (a, n) :: after)
      (hbefore : SettlesAll box s before ⟨bench, w.box⟩ calls edits none w')
      (h : Blames box s n w' (some p)) : Blames box s m w (some p)

/-- A place at which a failure of a match can be reported, on a line of a text that was on the bench
    when the failure came up. -/
structure Reports (box : Evaluator σ) (s : Setting) (m : Found) (w w' : Workshop σ)
    (place : Option Place) : Prop where
  blames : Blames box s m w place
  hasLine : ∀ p, place = some p → w'.bench.HasLine p

theorem Reports.here {m : Found} {w w' : Workshop σ} (h : w.bench.Extends w'.bench) :
    Reports box s m w w' (w.bench.place (spanOf m)) :=
  ⟨.here m w, fun _ hp => (Workbench.hasLine_of_place hp).extends h⟩

mutual

theorem Settles.reports (hbox : box.Unplaced) {m : Found} {w w' : Workshop σ}
    {calls : List Invocation} {r : Except Failure Ast} {f : Failure}
    (h : Settles box s m w calls r w') (hr : r = .error f) (hf : f.isPlaceable) :
    Reports box s m w w' f.place := by
  have hextends := h.extends
  match h with
  | .not_evaluated heval =>
      obtain rfl := Except.error.inj hr
      rw [Failure.isPlaceable_at?] at hf
      rw [Failure.place_at? hf, hbox.evaluate heval]
      exact .here hextends
  | .not_expressible _ hexpr =>
      obtain rfl := Except.error.inj hr
      rw [(Outcome.toExpr_isOpen hexpr).place_at?]
      exact .here hextends
  | .require h => exact h.reports hbox hr hf (.inl rfl)
  | .source_not_string _ _ =>
      obtain rfl := Except.error.inj hr
      exact .here hextends
  | .source_failed h => exact h.reports hbox hr hf (.inr rfl)
  | .invocation _ _ | .source _ => cases hr

theorem Reads.reports (hbox : box.Unplaced) {spec : Specifier} {w w' : Workshop σ}
    {calls : List Invocation} {r : Except Failure Ast} {f : Failure}
    (h : Reads box s spec w calls r w') (hr : r = .error f) (hf : f.isPlaceable) {m : Found}
    (hm : m = .require spec ∨ m = .source spec) : Reports box s m w w' f.place := by
  have hhere : Reports box s m w w' (w.bench.place spec.span) := by
    rcases hm with rfl | rfl <;> exact .here h.extends
  match h with
  | .unreadable hread =>
      obtain rfl := Except.error.inj hr
      rw [(Workbench.readExpr_isOpen hread).place_at?]
      exact hhere
  | .failed hread h =>
      obtain rfl := Except.error.inj hr
      rw [Failure.isPlaceable_at?] at hf
      rw [Failure.place_at? hf]
      obtain ⟨before, a, n, after, calls, w₁, hsites, hbefore, hreports⟩ := h.reports hbox rfl hf
      -- a failure that has a place already keeps it
      cases hp : Failure.place _ with
      | none => exact hhere
      | some p =>
          exact ⟨.inside hm hread hsites hbefore (hp ▸ hreports.blames),
            fun q hq => hreports.hasLine q (hp.trans hq)⟩
  | .expanded _ _ => cases hr

theorem SettlesAll.reports (hbox : box.Unplaced) {sites : List (Address × Found)}
    {w w' : Workshop σ} {calls : List Invocation} {edits : Edits} {g : Option Failure} {f : Failure}
    (h : SettlesAll box s sites w calls edits g w') (hg : g = some f) (hf : f.isPlaceable) :
    ∃ before a n after calls' w₁, sites = before ++ (a, n) :: after ∧
      SettlesAll box s before w calls' edits none w₁ ∧ Reports box s n w₁ w' f.place := by
  match h with
  | .nil => cases hg
  | .next (a := a) (m := m) h hrest =>
      obtain ⟨before, b, n, after, calls', w₁, rfl, hbefore, hreports⟩ := hrest.reports hbox hg hf
      exact ⟨(a, m) :: before, b, n, after, _, w₁, rfl, .next h hbefore, hreports⟩
  | .stop (a := a) (m := m) h =>
      obtain rfl := Option.some.inj hg
      exact ⟨[], a, m, _, [], w, rfl, .nil, h.reports hbox rfl hf⟩

end

/-- A failure of an expansion is reported where the failing match starts, or inside the text of that
    match if it is a specifier.  The sites before it are settled; what was read meanwhile does not
    move the places of the file.  The line is one that a text read by then has, and for an
    invocation in the file one that the file has. -/
theorem program_fails_at {pass : Pass} {file : String} {t t' : Ast} {bench : Workbench} {b : σ}
    {q : Progress σ} {f : Failure} (hbox : box.Unplaced)
    (h : pass.program box file t bench b = (t', q)) (hq : q.failure = some f) (hf : f.isPlaceable) :
    ∃ before a m after calls edits w,
      (pass.setting file).sites t.resolve = before ++ (a, m) :: after ∧
      SettlesAll box (pass.setting file) before ⟨bench, b⟩ calls edits none w ∧
      Blames box (pass.setting file) m w f.place ∧
      (∀ i, m = .invocation i → f.place = w.bench.place i.span) ∧
      ((spanOf m).lo < bench.next → w.bench.place (spanOf m) = bench.place (spanOf m)) ∧
      (∀ p, f.place = some p → q.bench.HasLine p ∧
        (∀ i, m = .invocation i → i.span.lo < bench.next → bench.HasLine p)) := by
  obtain ⟨calls, edits, hsettles, -⟩ := program_settles h
  obtain ⟨before, a, m, after, calls', w, hsites, hbefore, hblame, hline⟩ :=
    hsettles.reports hbox hq hf
  have hinvocation : ∀ i, m = .invocation i → f.place = w.bench.place i.span := by
    rintro i rfl
    generalize f.place = p at hblame
    cases hblame with
    | here => rfl
    | inside hm => rcases hm with hm | hm <;> cases hm
  refine ⟨before, a, m, after, calls', edits, w, hsites, hbefore, hblame, hinvocation,
    hbefore.extends.place (spanOf m), fun p hp => ⟨hline p hp, ?_⟩⟩
  rintro i rfl hi
  -- the bench has grown since, but not at the place of the invocation
  have hplace := hbefore.extends.place i.span hi
  rw [hinvocation i rfl, hplace] at hp
  exact Workbench.hasLine_of_place hp

/-- The texts on the bench after a file has been read. -/
def benchOf (text : String) : Workbench :=
  (({} : Workbench).readProgram "a.ts" text
    { isTypeScript := true, hasMarkup := false, hasDecorators := true }).2

/-- The second invocation does not compile, and the failure is placed there. -/
theorem program_fails_at_second :
    let text := "precall`1`;\n  precall`(`;"
    let s := usualPass.setting "a.ts"
    let r := usualPass.program counting "a.ts" (treeOf text) (benchOf text) 0
    ∃ f before a m after calls edits w, r.2.failure = some f ∧ f.place = some ⟨2, 3⟩ ∧
      s.sites (treeOf text).resolve = before ++ (a, m) :: after ∧
      SettlesAll counting s before ⟨benchOf text, 0⟩ calls edits none w ∧
      Blames counting s m w f.place := by
  intro text s r
  have hplaced : r.2.failure.any fun f => f.isPlaceable && f.place == some ⟨2, 3⟩ := by
    decide +kernel
  obtain ⟨f, hfailure, hf⟩ := (Option.any_eq_true _ _).mp hplaced
  obtain ⟨hf, hplace⟩ := Bool.and_eq_true_iff.mp hf
  obtain ⟨before, a, m, after, calls, edits, w, hsites, hbefore, hblame, -⟩ :=
    program_fails_at (fun _ _ _ _ h => by cases h) (Prod.eta r).symm hfailure hf
  exact ⟨f, before, a, m, after, calls, edits, w, hfailure, eq_of_beq hplace, hsites, hbefore,
    hblame⟩

/-- The place of a failure inside a specifier is one in the text of the specifier, which is read
    between parentheses on lines of their own: here, on a second line of a file that has one. -/
theorem failure_behind_file :
    (match usualPass.source counting "require(\"precall(`(`)\");" "a.ts" 0 with
      | (.error f, _) => f.place
      | (.ok _, _) => none) = some ⟨2, 1⟩ := by
  rewrite [Pass.source_of_dialect dialect_ts]
  decide +kernel

end Expansion

end Inlay
