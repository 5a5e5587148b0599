import Inlay.Command
import Inlay.Proofs.Diagnostic.Offset
import Inlay.Proofs.Expansion.Places

/-! # Where labels point

    A failing invocation is placed by going through the text before it: a column is what a character
    takes on the screen, `\r` ends a line as well as `\n`, and a byte order mark is not part of the
    text.  The label of a diagnostic is found by going back, but with each character taken for one
    column, only `\n` taken for a line end, and the mark taken for a character.

    So a label points at the invocation if and only if the two ways of counting agree in front of
    it: every `\r` is followed by `\n`, and the characters of the line take as many columns as they
    are, the mark included (`label_at_invocation_iff`). -/

namespace Inlay

open Syntax

/-! ## Lines and columns on the screen -/

/-- Whether every `\r` is followed by `\n`, also at the end, with `rest` behind it. -/
def isPaired : List Char → List Char → Bool
  | [], _ => true
  | c :: cs, rest => (c != '\r' || (cs ++ rest).head? == some '\n') && isPaired cs rest

theorem isPaired_concat (pre rest : List Char) (c : Char) :
    isPaired (pre ++ [c]) rest =
      (isPaired pre (c :: rest) && (c != '\r' || rest.head? == some '\n')) := by
  induction pre with
  | nil => simp [isPaired]
  | cons d pre ih => simp [isPaired, ih, Bool.and_assoc]

/-- The columns that the line takes in front of a character. -/
def columnsBefore (pre : List Char) : Nat :=
  (lineBefore pre).foldr (fun c n => Text.columnsOf c + n) 0

theorem lineBefore_concat (pre : List Char) (c : Char) :
    lineBefore (pre ++ [c]) = if c = '\n' then [] else c :: lineBefore pre := by
  rw [lineBefore, List.reverse_append, List.reverse_singleton, List.singleton_append,
    List.takeWhile_cons]
  by_cases hc : c = '\n' <;> simp [hc, lineBefore]

namespace SourceText

def step (c : Char) (rest : List Char) (p : Place) : Place :=
  if c = '\n' ∨ c = '\r' ∧ rest.head? ≠ some '\n' then ⟨p.line + 1, 1⟩
  else { p with column := p.column + Text.columnsOf c }

/-- Every `\n` is a line further. -/
theorem line_step (c : Char) (rest : List Char) (p : Place) :
    p.line + [c].count '\n' ≤ (step c rest p).line := by
  unfold step
  split
  · exact Nat.add_le_add_left List.count_le_length p.line
  · rename_i hc
    rw [List.count_eq_zero_of_not_mem fun hmem => hc (.inl (List.mem_singleton.mp hmem).symm)]
    exact Nat.le_refl _

theorem walk_zero (cs : List Char) (p : Place) : walk cs 0 p = p := by
  cases cs <;> rfl

theorem walk_succ (c : Char) (cs : List Char) (n : Nat) (p : Place) :
    walk (c :: cs) (n + 1) p = walk cs n (step c cs p) := by
  by_cases hpair : c = '\r' ∧ cs.head? = some '\n'
  · obtain ⟨rfl, hhead⟩ := hpair
    obtain ⟨ds, rfl⟩ := List.head?_eq_some_iff.mp hhead
    rw [step, if_neg (by simp)]
    cases n with
    | zero => rfl
    | succ n => simp [walk]
  · rw [walk]
    · by_cases hc : c = '\n' ∨ c = '\r'
      · have hstep : c = '\n' ∨ c = '\r' ∧ cs.head? ≠ some '\n' :=
          hc.imp id fun hr => ⟨hr, fun hhead => hpair ⟨hr, hhead⟩⟩
        rw [if_pos (by simpa using hc), step, if_pos hstep]
      · rw [if_neg (by simpa using hc), step, if_neg fun h => hc (h.imp id And.left)]
    · rintro ds rfl rfl
      exact hpair ⟨rfl, rfl⟩

theorem walk_concat (pre : List Char) (c : Char) (rest : List Char) (p : Place) :
    walk (pre ++ c :: rest) (pre.length + 1) p =
      step c rest (walk (pre ++ c :: rest) pre.length p) := by
  induction pre generalizing p with
  | nil => rw [List.nil_append, List.length_nil, walk_succ, walk_zero, walk_zero]
  | cons d pre ih =>
      rw [List.cons_append, List.length_cons, walk_succ, ih, walk_succ]

/-- Where a character is placed.  If a `\r` on its own comes before it, its line is too far down. -/
theorem walk_eq (pre rest : List Char) :
    (isPaired pre rest →
      walk (pre ++ rest) pre.length ⟨1, 1⟩ = ⟨1 + pre.count '\n', 1 + columnsBefore pre⟩) ∧
    (¬ isPaired pre rest → 1 + pre.count '\n' < (walk (pre ++ rest) pre.length ⟨1, 1⟩).line) := by
  induction pre using List.reverseRecOn generalizing rest with
  | nil => exact ⟨fun _ => walk_zero _ _, fun h => absurd rfl h⟩
  | append_singleton pre c ih =>
      -- the place before the last character is known; what the character does to it is `step`
      obtain ⟨hpaired, hloose⟩ := ih (c :: rest)
      rw [List.append_assoc, List.singleton_append, List.length_append, List.length_singleton,
        walk_concat, isPaired_concat, columnsBefore, lineBefore_concat, List.count_append]
      by_cases hpre : isPaired pre (c :: rest)
      · rw [hpaired hpre, hpre, Bool.true_and, step]
        by_cases hn : c = '\n'
        · subst hn
          simp [Nat.add_assoc]
        · by_cases hlone : c = '\r' ∧ rest.head? ≠ some '\n'
          · -- a line further, which no count of `\n` sees
            simp [hlone]
          · rw [if_neg (not_or.mpr ⟨hn, hlone⟩), if_neg hn]
            refine ⟨fun _ => ?_, fun h => absurd ?_ h⟩
            · simp [hn, columnsBefore]
              omega
            · simpa [or_iff_not_imp_left] using hlone
      · -- lines that are too many stay too many
        have hline := hloose hpre
        have hstep := line_step c rest (walk (pre ++ c :: rest) pre.length ⟨1, 1⟩)
        rw [Bool.not_eq_true] at hpre
        rw [hpre, Bool.false_and]
        exact ⟨fun h => absurd h Bool.false_ne_true, fun _ => by omega⟩

end SourceText

theorem Workbench.not_mem_mark {source : String} {mark cs : List Char}
    (h : source.toList = mark ++ cs) (hcs : (withoutMark source).toList = cs) : '\n' ∉ mark := by
  intro hmem
  unfold withoutMark at hcs
  split at hcs
  next c ds hsource =>
    have hlen := congrArg List.length (hsource.symm.trans h)
    rw [List.length_cons, List.length_append] at hlen
    split at hcs
    next hc =>
      -- the mark is the first character
      rw [String.toList_ofList] at hcs
      subst hcs
      obtain ⟨d, rfl⟩ := List.length_eq_one_iff.mp (show mark.length = 1 by omega)
      obtain ⟨rfl, -⟩ := List.cons.inj (hsource.symm.trans h)
      obtain rfl := List.mem_singleton.mp hmem
      cases hc
    next =>
      rw [hcs, ← List.nil_append cs] at h
      rw [← List.append_cancel_right h] at hmem
      cases hmem
  next hsource =>
    rw [hsource] at h
    rw [(List.append_eq_nil_iff.mp h.symm).1] at hmem
    cases hmem

/-! ## Failing invocations -/

/-- What goes wrong while a unit runs is not placed by the engine. -/
theorem engineEvaluator_isOpen (unit : ScriptUnit) (b : Unit) (f : Failure) (b' : Unit)
    (h : engineEvaluator.run unit b = (.error f, b')) : f.IsOpen :=
  engineEvaluator_isAnswer h

namespace Expansion

variable {σ : Type} {box : Evaluator σ} {s : Setting} {i : Invocation} {w w' : Workshop σ}
variable {calls : List Invocation} {f : Failure}

/-- An invocation that fails is placed where it starts. -/
theorem Settles.place_eq (hbox : ∀ unit b f b', box.run unit b = (.error f, b') → f.IsOpen)
    (h : Settles box s (.invocation i) w calls (.error f) w') : f.place = w.bench.place i.span := by
  cases h with
  | not_evaluated heval =>
      have hopen := (Evaluator.evaluate_error heval).elim id fun ⟨_, hrun⟩ => hbox _ _ _ _ hrun
      exact hopen.place_at? _
  | not_expressible _ hexpr => exact (Outcome.toExpr_isOpen hexpr).place_at? _

/-- A span of the file that is expanded starts where a walk through the text leads. -/
theorem place_of_readProgram {source file : String} {dialect : Dialect} {t : Ast}
    {bench : Workbench} {w w' : Workshop σ} {sites : List (Address × Found)} {edits : Edits}
    {g : Option Failure} {span : Span} {n : Nat}
    (hread : ({} : Workbench).readProgram file source dialect = (.ok t, bench))
    (hsettles : SettlesAll box s sites w calls edits g w') (hw : w.bench = bench)
    (hspan : span.lo = 1 + n) (hn : n < (Workbench.withoutMark source).toList.length) :
    w'.bench.place span
      = some (SourceText.walk (Workbench.withoutMark source).toList n ⟨1, 1⟩) := by
  obtain rfl : (({} : Workbench).read dialect source).2 = bench := by
    unfold Workbench.readProgram at hread
    dsimp only at hread
    split at hread
    · cases hread
    · exact (Prod.mk.inj hread).2
    · cases hread
  -- texts that are read later do not move the places of this one
  rw [hsettles.extends.place span]
  · rw [hw]
    have hsome : span.isNone = false := by
      rw [Span.isNone, hspan]
      exact beq_false_of_ne (by omega)
    unfold Workbench.place
    rw [hsome, if_neg Bool.false_ne_true]
    show ((⟨1, _⟩ :: [] : List SourceText).find? _).map _ = _
    rw [List.find?_cons_of_pos (by simp [hspan]), Option.map_some, SourceText.placeOf, hspan,
      Nat.add_sub_cancel_left]
  · rw [hw, hspan]
    show 1 + n < 1 + (Workbench.withoutMark source).toList.length + 1
    omega

end Expansion

open Expansion

/-- The two ways of counting lead to the same character if and only if every `\r` before it is
    followed by `\n`, and its line has one column for each of its characters. -/
theorem offsetOf_walk_iff {source : String} {mark pre post : List Char} {c : Char}
    (hsource : source.toList = mark ++ (pre ++ c :: post))
    (htext : (Workbench.withoutMark source).toList = pre ++ c :: post) :
    offsetOf source (SourceText.walk (pre ++ c :: post) pre.length ⟨1, 1⟩) =
        some (byteLength (mark ++ pre)) ↔
      isPaired pre (c :: post) ∧ columnsBefore pre = (lineBefore (mark ++ pre)).length := by
  have hcount : 1 + (mark ++ pre).count '\n' = 1 + pre.count '\n' := by
    rw [List.count_append,
      List.count_eq_zero_of_not_mem (Workbench.not_mem_mark hsource htext), Nat.zero_add]
  rw [← List.append_assoc] at hsource
  obtain ⟨hpaired, hloose⟩ := SourceText.walk_eq pre (c :: post)
  by_cases hp : isPaired pre (c :: post)
  · rw [hpaired hp, offsetOf_eq_byteLength_iff hsource (Nat.le_of_eq hcount), hcount,
      Nat.add_sub_cancel_left]
    exact ⟨fun h => ⟨hp, h.2⟩, fun h => ⟨rfl, h.2⟩⟩
  · have hline := hloose hp
    rw [offsetOf_eq_byteLength_iff hsource (hcount ▸ Nat.le_of_lt hline), hcount]
    exact ⟨fun h => absurd h.1 (Nat.ne_of_gt hline), fun h => absurd h.1 hp⟩

/-- The label of a diagnostic.  An invocation of the file that fails is reported with the text of
    the file, and the label starts at the byte at which the invocation starts if and only if, in the
    text before it, every `\r` is followed by `\n`, and the line has one column for each of its
    characters, the mark at the start of the file included. -/
theorem label_at_invocation_iff {p : Pass} {source name : String} {t : Ast} {bench : Workbench}
    {f : Failure}
    (hread : ({} : Workbench).readProgram name source (.ofFileName name) = (.ok t, bench))
    (hfail : (p.program engineEvaluator name t bench ()).2.failure = some f) :
    (∀ {m : Type → Type} [Monad m] (sys : System m), ExpandCommand.expandSource p sys source name =
      do sys.log .debug s!"expanding {name}"; throw (.expansion (Diagnostic.of f name source))) ∧
    ∃ before a m after calls edits w calls' w',
      (p.setting name).sites t.resolve = before ++ (a, m) :: after ∧
      SettlesAll engineEvaluator (p.setting name) before ⟨bench, ()⟩ calls edits none w ∧
      Settles engineEvaluator (p.setting name) m w calls' (.error f) w' ∧
      ∀ i mark pre c post, m = .invocation i → source.toList = mark ++ (pre ++ c :: post) →
        (Workbench.withoutMark source).toList = pre ++ c :: post → i.span.lo = 1 + pre.length →
        ((Diagnostic.of f name source).label =
            some ((String.ofList (mark ++ pre)).utf8ByteSize, 1) ↔
          isPaired pre (c :: post) ∧ columnsBefore pre = (lineBefore (mark ++ pre)).length) := by
  obtain ⟨calls, edits, hsettles, -⟩ :=
    program_settles (Prod.eta (p.program engineEvaluator name t bench ())).symm
  rw [hfail] at hsettles
  -- the failure is that of the first site that fails
  obtain ⟨before, a, m, after, calls₁, calls₂, w, hsites, -, hbefore, hm⟩ := hsettles.first_failure
  refine ⟨fun sys => ?_, before, a, m, after, calls₁, edits, w, calls₂, _, hsites, hbefore, hm, ?_⟩
  · have hsource : (p.source engineEvaluator source name ()).1 = .error f := by
      unfold Pass.source
      rw [hread]
      dsimp only
      rw [hfail]
    unfold ExpandCommand.expandSource
    rw [hsource]
  · rintro i mark pre c post rfl hsource htext hspan
    have hlen : pre.length < (Workbench.withoutMark source).toList.length := by
      rw [htext, List.length_append, List.length_cons]
      omega
    have hplace := place_of_readProgram hread hbefore rfl hspan hlen
    rw [htext] at hplace
    rw [← byteLength_eq, ← offsetOf_walk_iff hsource htext, Diagnostic.of,
      hm.place_eq engineEvaluator_isOpen, hplace, Option.bind_some]
    simp

/-- A fragment that does not compile on the second line; the first ends with `\r\n`. -/
theorem label_at_invocation_second_line :
    let text := "1;\r\nprecall`(`;"
    ∃ f, (usualPass.program engineEvaluator "a.ts" (treeOf text) (benchOf text) ()).2.failure =
      some f ∧ (Diagnostic.of f "a.ts" text).label = some (4, 1) := by
  intro text
  have hfails : (usualPass.program engineEvaluator "a.ts" (treeOf text) (benchOf text)
      ()).2.failure.isSome := by
    decide +kernel
  obtain ⟨f, hf⟩ := Option.isSome_iff_exists.mp hfails
  have hread : ({} : Workbench).readProgram "a.ts" text (.ofFileName "a.ts") =
      (.ok (treeOf text), benchOf text) := by
    have hok : (({} : Workbench).readProgram "a.ts" text
      { isTypeScript := true, hasMarkup := false, hasDecorators := true }).1.toBool := by
      decide +kernel
    rw [dialect_ts]
    unfold treeOf benchOf
    generalize Workbench.readProgram _ _ _ _ = r at hok
    obtain ⟨_ | _, _⟩ := r
    · cases hok
    · rfl
  obtain ⟨-, before, a, m, after, calls, edits, w, calls', w', hsites, -, -, hlabel⟩ :=
    label_at_invocation_iff hread hf
  have hfound : ((usualPass.setting "a.ts").sites (treeOf text).resolve).all fun x =>
      match x.2 with
      | .invocation i => i.span.lo == 5
      | _ => false := by
    decide +kernel
  have hm := List.all_eq_true.mp hfound (a, m) (hsites ▸ List.mem_append_right _ List.mem_cons_self)
  cases m with
  | invocation i =>
      have hiff := hlabel i [] "1;\r\n".toList 'p' "recall`(`;".toList rfl (by decide) (by decide)
        (eq_of_beq hm)
      have hbytes : (String.ofList ([] ++ "1;\r\n".toList)).utf8ByteSize = 4 := by decide
      rw [hbytes] at hiff
      exact ⟨f, hf, hiff.mpr (by decide)⟩
  | require spec | source spec => cases hm

/-- Behind a tab the label is three bytes too far. -/
theorem label_behind_tab :
    (match usualPass.source engineEvaluator "\tprecall`(`;" "a.ts" () with
      | (.error f, _) => (Diagnostic.of f "a.ts" "\tprecall`(`;").label
      | (.ok _, _) => none) = some (4, 1) := by
  rewrite [Pass.source_of_dialect dialect_ts]
  decide +kernel

end Inlay
