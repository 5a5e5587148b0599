import Inlay.Proofs.Expansion.Places
import Inlay.Proofs.Printing.Covering

/-! # Comments around expansions

    A file is printed with the comments that stand at the positions of its nodes.  An expansion
    takes a node's place in the tree, but not always its position: the value of a fragment is read
    from a text of its own, so the comments directly before and behind an invocation are lost with
    it.  `undefined`, functions and the sources of imports stand where the invocation was, and a
    statement that starts with an invocation keeps the comments before it all the same.

    Main result: a comment that printing the file unchanged would write is in the expanded text,
    unless it is at a node that is replaced, does not stay there, and no node around takes it
    (`Pass.source_keeps_comments`). -/

namespace Inlay.Syntax

variable {a : Attached}

theorem keptAll_editFrom {edits : Edits} {ts : List Ast} {i : Nat}
    (h : ∀ k t, ts[k]? = some t → Kept a t (t.edit (edits.within (i + k)))) :
    KeptAll a ts (Ast.editFrom edits i ts) := by
  induction ts generalizing i with
  | nil =>
      rw [Ast.editFrom]
      exact .nil
  | cons t ts ih =>
      rw [Ast.editFrom]
      refine .cons (h 0 t rfl) (ih fun k u hu => ?_)
      have hnext := h (k + 1) u hu
      rwa [Nat.add_comm k 1, ← Nat.add_assoc] at hnext

/-- The nodes around an address, the outermost first. -/
def Ast.enclosing (t : Ast) : Address → List Ast
  | [] => []
  | i :: b => t :: (t.parts[i]?.elim [] fun c => c.enclosing b)

def Edits.ReplaceExprs (edits : Edits) (t : Ast) : Prop :=
  ∀ x ∈ edits, ∀ c, t.at? x.1 = some c → W.layoutOf c.shape = .expr

theorem Edits.ReplaceExprs.within {edits : Edits} {s : Shape} {sp : Span} {ps : List Ast}
    (h : edits.ReplaceExprs (.node s sp ps)) {i : Nat} {t : Ast} (hi : ps[i]? = some t) :
    Edits.ReplaceExprs (edits.within i) t := by
  rintro ⟨b, e⟩ hb c hc
  refine h (i :: b, e) (Edits.mem_within.mp hb) c ?_
  rw [Ast.at?_node, hi]
  exact hc

theorem Edits.ReplaceExprs.edit_eq {edits : Edits} {t : Ast} (h : edits.ReplaceExprs t)
    (ht : W.layoutOf t.shape ≠ .expr) :
    t.edit edits = .node t.shape t.span (Ast.editFrom edits 0 t.parts) := by
  obtain ⟨s, sp, ps⟩ := t
  rw [Ast.edit]
  cases hroot : edits.lookup [] with
  | some e =>
      obtain ⟨l₁, l₂, rfl, -⟩ := List.lookup_eq_some_iff.mp hroot
      exact absurd (h ([], e) (by simp) _ rfl) ht
  | none => rfl

theorem Edits.ReplaceExprs.mem_editFrom {edits : Edits} {s : Shape} {sp : Span} {ps : List Ast}
    (h : edits.ReplaceExprs (.node s sp ps)) {u : Ast} (hu : u ∈ ps)
    (hne : W.layoutOf u.shape ≠ .expr) :
    ∃ u' ∈ Ast.editFrom edits 0 ps, u'.shape = u.shape ∧ u'.span = u.span := by
  obtain ⟨i, hi⟩ := List.getElem?_of_mem hu
  have hi' : (Ast.editFrom edits 0 ps)[i]? = some (u.edit (edits.within i)) := by
    rw [Ast.getElem?_editFrom, hi, Nat.zero_add]
    rfl
  refine ⟨_, List.mem_of_getElem? hi', ?_⟩
  rw [(h.within hi).edit_eq hne]
  exact ⟨rfl, rfl⟩

theorem ownLines_node (s : Shape) (sp : Span) :
    (∀ ps, (Ast.node s sp ps).ownLines = ps) ∨ s = .switchCase ∨
      ∀ ps, (Ast.node s sp ps).ownLines = [] := by
  cases s <;>
    first
      | exact .inr (.inl rfl)
      | exact .inr (.inr fun _ => rfl)
      | exact .inl fun _ => rfl

theorem Edits.ReplaceExprs.mem_ownLines {edits : Edits} {s : Shape} {sp : Span} {ps : List Ast}
    (h : edits.ReplaceExprs (.node s sp ps)) {u : Ast} (hu : u ∈ (Ast.node s sp ps).ownLines)
    (hne : W.layoutOf u.shape ≠ .expr) :
    ∃ u' ∈ (Ast.node s sp (Ast.editFrom edits 0 ps)).ownLines,
      u'.shape = u.shape ∧ u'.span = u.span := by
  rcases ownLines_node s sp with hlines | rfl | hlines
  · rw [hlines] at hu ⊢
    exact h.mem_editFrom hu hne
  · match ps, hu with
    | [test, .node s' sp' body], hu =>
        -- the statements of a case are the items of its second part
        replace hu : u ∈ (Ast.node s' sp' body).items := hu
        have hbody := h.within (i := 1) rfl
        have hexpr : W.layoutOf s' ≠ .expr := fun hexpr => by
          rw [items_of_whole (isWhole_of_expr (t := .node s' sp' body) hexpr)] at hu
          cases hu
        rw [Ast.editFrom, Ast.editFrom, Ast.editFrom, hbody.edit_eq hexpr]
        rcases items_node s' sp' with hitems | hitems
        · rw [hitems] at hu
          obtain ⟨u', hu', hsame⟩ := hbody.mem_editFrom hu hne
          have hlines : u' ∈ (Ast.node s' sp' (Ast.editFrom (edits.within 1) 0 body)).items := by
            rwa [hitems]
          exact ⟨u', hlines, hsame⟩
        · rw [hitems] at hu
          cases hu
  · rw [hlines] at hu
    cases hu

theorem Edits.ReplaceExprs.takenBy {edits : Edits} {s : Shape} {sp : Span} {ps : List Ast}
    (h : edits.ReplaceExprs (.node s sp ps)) (ha : a.TakenBy (.node s sp ps)) :
    a.TakenBy (.node s sp (Ast.editFrom edits 0 ps)) := by
  refine ⟨ha.pos, ha.whole, ha.here.imp_right (Or.imp_right ?_)⟩
  rintro ⟨u, hu, hend⟩
  obtain ⟨u', hu', hshape, hspan⟩ := h.mem_ownLines hu hend.isExpr
  refine ⟨u', hu', hend.pos, hspan ▸ hend.isBehind, ?_, hshape ▸ hend.isExpr⟩
  have hblock := hend.isBlock
  unfold W.isBlock at hblock ⊢
  rwa [hshape]

/-- Edits leave the comments of the rest of the tree where they were. -/
theorem kept_edit {edits : Edits} (t : Ast) (hexpr : edits.ReplaceExprs t)
    (h : ∀ x ∈ edits, ∀ c, t.at? x.1 = some c →
      a.Misses c ∨ a.Stays c x.2 ∨ ∃ n ∈ t.enclosing x.1, a.TakenBy n) :
    Kept a t (t.edit edits) := by
  induction t using Ast.induction generalizing edits with
  | node s sp ps ih =>
      rw [Ast.edit]
      cases hroot : edits.lookup [] with
      | some e =>
          obtain ⟨l₁, l₂, rfl, -⟩ := List.lookup_eq_some_iff.mp hroot
          rcases h ([], e) (by simp) _ rfl with hmiss | hstays | ⟨n, hn, -⟩
          · exact .gone hmiss
          · exact .stays hstays
          · cases hn
      | none =>
          by_cases htaken : a.TakenBy (.node s sp ps)
          · exact .taken (hexpr.takenBy htaken)
          refine .node (keptAll_editFrom fun k t ht => ?_)
          rw [Nat.zero_add]
          refine ih t (List.mem_of_getElem? ht) (hexpr.within ht) ?_
          rintro ⟨b, e⟩ hb c hc
          have hbelow := h (k :: b, e) (Edits.mem_within.mp hb) c
            (by rw [Ast.at?_node, ht]; exact hc)
          -- a node around the edit that takes the comment is below this one
          refine hbelow.imp_right (Or.imp_right ?_)
          rintro ⟨n, hn, hnt⟩
          rw [Ast.enclosing, show (Ast.node s sp ps).parts[k]? = some t from ht] at hn
          rcases List.mem_cons.mp hn with rfl | hn
          · exact absurd hnt htaken
          · exact ⟨n, hn, hnt⟩

end Inlay.Syntax

namespace Inlay

open Syntax Expansion

variable {σ : Type} {box : Evaluator σ}

theorem Setting.span_of_invocation? {s : Setting} {c : Ast} {i : Invocation}
    (h : s.invocation? c = some i) :
    i.span = c.span ∧ W.layoutOf c.shape = .expr ∧ W.isName c = false := by
  unfold invocation? at h
  split at h
  · obtain ⟨k, -, h⟩ := Option.bind_eq_some_iff.mp h
    cases h
    exact ⟨rfl, rfl, rfl⟩
  · obtain ⟨k, -, h⟩ := Option.bind_eq_some_iff.mp h
    cases h
    exact ⟨rfl, rfl, rfl⟩
  · cases h

theorem Setting.isExpr_of_matches {s : Setting} {c : Ast} {m : Found} (h : s.Matches c m) :
    W.layoutOf c.shape = .expr := by
  cases m with
  | invocation i => exact (span_of_invocation? h).2.1
  | require spec | source spec =>
      replace h : s.specifier? c = some spec := h
      unfold specifier? at h
      split at h
      next hs =>
          rw [hs]
          rfl
      next => cases h

/-- A comment directly before an invocation stays if the fragment exports nothing or a function:
    then the expansion stands where the invocation was. -/
theorem Outcome.stays {o : Outcome} (ho : ∀ json, o ≠ .structural json) {s : Setting}
    {i : Invocation} {c e : Ast} {file : String} {w w' : Workbench} (hc : s.invocation? c = some i)
    (h : o.toExpr i.span file w = (.ok e, w')) {a : Attached} (hl : a.isLeading = true)
    (hlo : a.pos = c.span.lo) (hpos : 0 < a.pos) : a.Stays c e := by
  obtain ⟨hspan, hexpr, hname⟩ := Setting.span_of_invocation? hc
  rw [← hspan] at hlo
  cases o with
  | absent =>
      cases h
      exact ⟨hpos, .inl ⟨hl, hlo⟩, hexpr, rfl, fun _ => rfl⟩
  | callable source =>
      unfold toExpr at h
      dsimp only at h
      split at h
      next =>
          cases h
          exact ⟨hpos, .inl ⟨hl, hlo⟩, hexpr, rfl, fun h => absurd h (by simp [hname])⟩
      next => cases h
  | structural json => exact absurd rfl (ho json)

theorem Expansion.SettlesAll.replaceExprs {s : Setting} {t : Ast} {w w' : Workshop σ}
    {calls : List Invocation} {edits : Edits} {f : Option Failure}
    (h : SettlesAll box s (s.sites t) w calls edits f w') : edits.ReplaceExprs t := by
  intro x hx c hc
  obtain ⟨m, w₁, w₂, calls₁, hm, -⟩ := h.settles hx
  obtain ⟨c', hc', hmatch⟩ := Setting.sites_at hm
  obtain rfl : c' = c := Option.some.inj (hc'.symm.trans hc)
  exact Setting.isExpr_of_matches hmatch

theorem Pass.of_source_ok {pass : Pass} {text file out : String} {b b' : σ}
    (h : pass.source box text file b = (.ok out, b')) :
    ∃ t bench t' q,
      ({} : Workbench).readProgram file text (Dialect.ofFileName file) = (.ok t, bench) ∧
      pass.program box file t bench b = (t', q) ∧ q.failure = none ∧
      out = (q.bench.print t').1 := by
  rw [source_of_dialect rfl] at h
  split at h
  next => cases h
  next t bench hread =>
      dsimp only at h
      split at h
      next => cases h
      next hfailure =>
          obtain ⟨hout, -⟩ := Prod.mk.inj h
          cases hout
          exact ⟨t, bench, _, _, hread, rfl, hfailure, rfl⟩

/-- What becomes of the comments of a file whose expansion succeeds.  If printing the file
    unchanged writes a comment, it is in the expanded text, provided that at every site the comment
    touches no node that is replaced, or stays, or is taken by a node around the site. -/
theorem Pass.source_keeps_comments {pass : Pass} {text file out : String} {b b' : σ}
    (h : pass.source box text file b = (.ok out, b')) :
    let s := pass.setting file
    ∃ t bench calls edits w,
      ({} : Workbench).readProgram file text (Dialect.ofFileName file) = (.ok t, bench) ∧
      SettlesAll box s (s.sites t.resolve) ⟨bench, b⟩ calls edits none w ∧
      out = (w.bench.print (t.resolve.edit edits)).1 ∧
      ∀ a ∈ bench.comments, a ∉ (bench.print t.resolve).2.comments →
        (∀ x ∈ edits, ∀ c, t.resolve.at? x.1 = some c →
          a.Misses c ∨ a.Stays c x.2 ∨ ∃ n ∈ t.resolve.enclosing x.1, a.TakenBy n) →
        a.comment.ShownIn out := by
  intro s
  obtain ⟨t, bench, t', q, hread, hprogram, hq, rfl⟩ := of_source_ok h
  obtain ⟨calls, edits, hsettles, rfl⟩ := program_settles hprogram
  rw [hq] at hsettles
  refine ⟨t, bench, calls, edits, q.workshop, hread, hsettles, rfl, fun a ha hwritten hsites => ?_⟩
  -- the comments of the file stay on the bench while expansions are read
  exact Ast.print_shows (kept_edit t.resolve hsettles.replaceExprs hsites) ha
    (hsettles.extends.comments a ha) hwritten

def exportingNothing : Evaluator Unit := ⟨fun _ b => (.ok .absent, b)⟩

theorem evaluate_exportingNothing {literal file : String} {b b' : Unit} {o : Outcome}
    (h : exportingNothing.evaluate literal file b = (.ok o, b')) : o = .absent := by
  unfold Evaluator.evaluate at h
  split at h
  · cases h
    rfl
  · split at h
    · cases h
    · cases h
      rfl

theorem treeOf_of_readProgram {text : String} {t : Ast} {bench : Workbench}
    (h : ({} : Workbench).readProgram "a.ts" text (Dialect.ofFileName "a.ts") = (.ok t, bench)) :
    treeOf text = t ∧ benchOf text = bench := by
  rw [dialect_ts] at h
  unfold treeOf benchOf
  rw [h]
  exact ⟨rfl, rfl⟩

/-- All three comments are kept.  Before the first statement and behind it they belong to the
    statement; the other invocation is replaced by `undefined`, which stands in its place. -/
theorem source_keeps_comments_undefined :
    let text := "/* a */ precall`1` // b\nf(/* c */ precall`1`);"
    let out := "/* a */ undefined // b\n;\nf(/* c */ undefined);\n"
    usualPass.source exportingNothing text "a.ts" () = (.ok out, ()) ∧
      (benchOf text).comments.length = 3 ∧
      ∀ a ∈ (benchOf text).comments, a.comment.ShownIn out := by
  intro text out
  let s := usualPass.setting "a.ts"
  have hsource : usualPass.source exportingNothing text "a.ts" () = (.ok out, ()) := by
    rewrite [Pass.source_of_dialect dialect_ts]
    decide +kernel
  obtain ⟨t, bench, calls, edits, w, hread, hsettles, -, hall⟩ := Pass.source_keeps_comments hsource
  obtain ⟨rfl, rfl⟩ := treeOf_of_readProgram hread
  refine ⟨hsource, by decide +kernel, fun a ha => hall a ha ?_ fun x hx c hc => ?_⟩
  · have hnone : ((benchOf text).print (treeOf text).resolve).2.comments = [] :=
      List.isEmpty_iff.mp (by decide +kernel)
    rw [hnone]
    exact List.not_mem_nil
  · obtain ⟨m, w₁, w₂, calls₁, hm, hsettled⟩ := hsettles.settles hx
    obtain ⟨c', hc', hmatch⟩ := Setting.sites_at hm
    obtain rfl : c' = c := Option.some.inj (hc'.symm.trans hc)
    have hsites : ∀ y ∈ s.sites (treeOf text).resolve, ∀ c ∈ (treeOf text).resolve.at? y.1,
        (s.specifier? c).isNone = true ∧ ∀ a ∈ (benchOf text).comments,
          a.Misses c ∨ (a.isLeading = true ∧ a.pos = c.span.lo ∧ 0 < a.pos) ∨
            ∃ n ∈ (treeOf text).resolve.enclosing y.1, a.TakenBy n := by
      decide +kernel
    obtain ⟨hnone, hcomments⟩ := hsites _ hm c' hc'
    cases m with
    | invocation i =>
        refine (hcomments a ha).imp_right (Or.imp_left fun ⟨hl, hlo, hpos⟩ => ?_)
        cases hsettled with
        | invocation heval hexpr =>
            cases evaluate_exportingNothing heval
            exact Outcome.stays (fun _ h => by cases h) hmatch hexpr hl hlo hpos
    | require spec | source spec =>
        rw [show s.specifier? c' = some spec from hmatch] at hnone
        cases hnone

/-- A comment directly before an invocation is lost with it if the fragment exports a value. -/
theorem comment_lost :
    usualPass.source (exporting "1") "f(/* c */ precall`1`);" "a.ts" () = (.ok "f(1);\n", ()) := by
  rewrite [Pass.source_of_dialect dialect_ts]
  decide +kernel

end Inlay
