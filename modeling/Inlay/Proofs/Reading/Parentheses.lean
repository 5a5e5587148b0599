import Inlay.Proofs.Json.Structural

/-! # Texts between parentheses

    A text is read as an expression by putting parentheses around it and reading a file.  What is
    accepted is a file of one statement; the answer is the expression of that statement without the
    parentheses, and every other text is refused as one that does not compile.  That is not the same
    as being an expression: the parentheses may pair up with others inside the text. -/

namespace Inlay

open Syntax Json P

/-- The text is an expression on its own: an expression that is read from its start reaches its end,
    and nothing is wrong with it.  The line end behind the text ends a comment. -/
def IsExpression (text : String) : Prop :=
  let chars := (text ++ "\n").toList
  ∃ e s, (Env.ofText chars).again .expr (Ctx.ofStatement { dialect := .plain }) (.start 0 chars) =
    .ok e s ∧ s.token = .eof ∧ s.faults = []

/-- Reading an expression from the start of a document stops behind the document. -/
theorem again_text {d : Doc} {t rest rest' : List Char} {t' : Token} (hd : d.Text t)
    (hends : Ends rest) (hl : Lexes rest t' rest') (ht' : t'.closes = true)
    (hcomma : t' ≠ .punct .comma) :
    ∃ e s, (Env.ofText (t ++ rest)).again .expr (Ctx.ofStatement { dialect := .plain })
      (.start 0 (t ++ rest)) = .ok e s ∧ s.Sees t' rest' := by
  obtain ⟨tok, r, hlex, htok⟩ : Begins (t ++ rest) := begins_text hd .nil hends
  have hs : (State.start 0 (t ++ rest)).Stands (t ++ rest) :=
    ⟨tok, r, hlex, State.start_sees hlex (begins_ne_word htok) 0⟩
  have hlen : (t ++ rest).length = t.length + rest.length := List.length_append
  obtain ⟨m, hm⟩ : ∃ m, 100 * ((t ++ rest).length + 2) = m + 1 :=
    ⟨100 * ((t ++ rest).length + 2) - 1, by omega⟩
  obtain ⟨e, s, htie, -, -, h'⟩ :=
    reads_text ((t ++ rest).length + 2) (by omega) hd m _ _ [] rest t'
    rest' (by omega) Ctx.isPlain_plain.ofStatement .nil hends hl ht' hs
  refine ⟨e, s, ?_, h'⟩
  show tie ((t ++ rest).length + 2) (100 * ((t ++ rest).length + 2)) .expr _ _ = _
  rw [hm]
  show P.sequence ⟨_, _, tie _ m⟩ _ = _
  simp [P.sequence, -List.length_append, htie, h'.token, hcomma]

theorem toList_line (u : List Char) : (String.ofList u ++ "\n").toList = u ++ ['\n'] := by
  rw [String.toList_append, String.toList_ofList]
  rfl

/-- A parenthesis behind a document is not part of an expression, whatever follows. -/
theorem not_isExpression_of_close {d : Doc} {t : List Char} (hd : d.Text t) (r : List Char) :
    ¬ IsExpression (String.ofList (t ++ ')' :: r)) := by
  have hclose : Lexes (')' :: (r ++ ['\n'])) (.punct .rparen) _ := lexes_mark .nil (by decide) _
  obtain ⟨e, s, hexpr, h'⟩ := again_text hd ⟨')', by decide, _, rfl⟩ hclose rfl (nofun)
  unfold IsExpression
  rw [toList_line, List.append_assoc]
  rintro ⟨e', s', hexpr', heof, -⟩
  obtain ⟨-, rfl⟩ := EStateM.Result.ok.inj (hexpr.symm.trans hexpr')
  cases h'.token.symm.trans heof

/-- Of documents one behind the other, only a single one is an expression on its own. -/
theorem isExpression_chain {ds : List Doc} {u : List Char} (h : Chained ds u) :
    IsExpression (String.ofList u) ↔ ds.length = 1 := by
  cases h with
  | last hd =>
      obtain ⟨e, s, hexpr, h'⟩ := again_text hd ⟨'\n', by decide, [], rfl⟩
        (lexes_eof (by decide)) rfl
        (nofun)
      refine ⟨fun _ => rfl, fun _ => ?_⟩
      unfold IsExpression
      rw [toList_line]
      exact ⟨e, s, hexpr, h'.token, h'.faults⟩
  | more hd h =>
      refine ⟨fun hexpr => absurd hexpr (not_isExpression_of_close hd _), fun hlength => ?_⟩
      cases h <;> cases hlength

/-- Between parentheses the text is a file of one statement, this expression. -/
def IsStatement (w : Workbench) (text : String) (e : Ast) : Prop :=
  let file := parse .plain ("(\n" ++ text ++ "\n)") w.next
  file.faults = [] ∧ ∃ hashbang sp sp',
    file.tree = some (.node (.scriptRoot hashbang) sp [.node .exprStmt sp' [e]])

namespace Workbench

theorem readExpr_cases (w : Workbench) (file text : String) :
    (∃ e w', w.readExpr file text = (.ok e.unparen, w') ∧ IsStatement w text e) ∨
      ∃ (reason : String) (w' : Workbench), w.readExpr file text =
          (.error (.compile file s!"`{Text.trimmed text}` is not {reason}" none), w') ∧
        ∀ e, ¬ IsStatement w text e := by
  unfold readExpr read IsStatement
  rw [withoutMark_parenthesised]
  dsimp only
  generalize parse .plain ("(\n" ++ text ++ "\n)") w.next = parsed
  obtain ⟨tree, faults, comments⟩ := parsed
  dsimp only
  -- a fault, one statement, other statements, and no script at all
  split
  · refine .inr ⟨_, _, rfl, ?_⟩
    rintro e ⟨hfaults, -⟩
    cases hfaults
  · exact .inl ⟨_, _, rfl, rfl, _, _, _, rfl⟩
  · rename_i hother
    refine .inr ⟨_, _, rfl, ?_⟩
    rintro e ⟨-, _, _, _, htree⟩
    obtain ⟨-, -, rfl⟩ := Ast.node.inj (Option.some.inj htree)
    exact hother _ _ rfl
  · rename_i hother _
    refine .inr ⟨_, _, rfl, ?_⟩
    rintro e ⟨-, _, _, _, rfl⟩
    exact hother _ _ _ _ rfl

/-- What is accepted as an expression, for every text: what is one statement between parentheses,
    and then the answer is that statement without its parentheses; every other text is refused as
    one that does not compile.  Documents with `),(` between them are accepted, however many they
    are, but only a single document is an expression on its own. -/
theorem readExpr_accepts (w : Workbench) (file : String) :
    (∀ text, (∃ e w', w.readExpr file text = (.ok e.unparen, w') ∧ IsStatement w text e) ∨
      ∃ (reason : String) (w' : Workbench), w.readExpr file text =
          (.error (.compile file s!"`{Text.trimmed text}` is not {reason}" none), w') ∧
        ∀ e, ¬ IsStatement w text e) ∧
    ∀ ds u, Chained ds u →
      (∃ e w', w.readExpr file (String.ofList u) = (.ok e, w') ∧ e.bare = chainTree ds) ∧
        (IsExpression (String.ofList u) ↔ ds.length = 1) := by
  refine ⟨readExpr_cases w file, fun ds u h => ?_⟩
  exact ⟨readExpr_chain h w file, isExpression_chain h⟩

/-- Two documents are read as a sequence. -/
theorem readExpr_accepts_two :
    ¬ IsExpression "null),([]" ∧ ∃ e w',
      ({} : Workbench).readExpr "a.js" "null),([]" = (.ok e, w') ∧
      e.bare = .node .seq .none [.node .paren .none [.node .null .none []],
        .node .paren .none [.node .array .none []]] := by
  have hchain : Chained [.null, .array []] "null),([]".toList :=
    .more .null (.last (.noItems (a := []) .nil))
  obtain ⟨haccepts, halone⟩ := (readExpr_accepts {} "a.js").2 _ _ hchain
  rw [String.ofList_toList] at haccepts halone
  exact ⟨fun h => absurd (halone.mp h) (by decide), haccepts⟩

/-- A sum is read from a text whose parentheses are the wrong way round. -/
theorem readExpr_pairs_parentheses :
    ¬ IsExpression "1) + (2" ∧
      (match ({} : Workbench).readExpr "input.js" "1) + (2" with
        | (.ok (.node (.binary .add) _ [.node .paren _ [.node (.num "1") _ []],
            .node .paren _ [.node (.num "2") _ []]]), _) => true
        | _ => false) = true := by
  have hwhole : Whole ['1'] := .other rfl (by decide) (nofun)
  have hone : Doc.Text (.number false ['1']) ['1'] :=
    .number (.mk (w := ['1']) (f := []) hwhole .none .none)
  have hchars : "1) + (2" = String.ofList (['1'] ++ ')' :: " + (2".toList) := by decide
  refine ⟨?_, by decide +kernel⟩
  rw [hchars]
  exact not_isExpression_of_close hone _

end Workbench

end Inlay
