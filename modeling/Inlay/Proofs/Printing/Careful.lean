import Inlay.Syntax.Print.Ast
import Inlay.Proofs.Tree

/-! # What writing does with comments

    Printing keeps the comments that it has not written yet on the sheet.  A step is careful
    within `S` if it only appends text, brings up no comment, and takes a comment from the sheet
    only to write it, and only one that `S` admits.

    Every construct asks for comments at the ends of its own nodes, so writing a tree is careful
    within every `S` that admits what touches one of its nodes (`careful_write`). -/

namespace Inlay.Syntax

/-- A comment as it is printed. -/
def Comment.written (c : Comment) : String :=
  if c.isBlock then "/*" ++ c.text ++ "*/" else "//" ++ c.text

/-- The comment stands in the text. -/
def Comment.ShownIn (c : Comment) (text : String) : Prop := ∃ l r, text = l ++ c.written ++ r

/-- Where else than at its start a node has comments before it: a block before its closing brace,
    a name before the dot in front of it. -/
def Ast.inner? (t : Ast) : Option Nat :=
  match t.shape with
  | .block => some (t.span.hi - 1)
  | .plainName _ | .privateName _ => some (t.span.lo - 1)
  | _ => none

/-- A comment touches a node if printing the node asks for it. -/
def Attached.Touches (a : Attached) (t : Ast) : Prop :=
  0 < a.pos ∧
    if a.isLeading then a.pos = t.span.lo ∨ t.inner? = some a.pos else a.pos = t.span.hi

/-- Whatever touches a node of the tree is admitted. -/
class inductive Inside (S : Attached → Prop) : Ast → Prop where
  | node {s : Shape} {sp : Span} {ps : List Ast}
      (here : ∀ a : Attached, a.Touches (.node s sp ps) → S a) (parts : ∀ t ∈ ps, Inside S t) :
      Inside S (.node s sp ps)

/-- Whatever touches a node of one of the trees is admitted. -/
class inductive InsideAll (S : Attached → Prop) : List Ast → Prop where
  | nil : InsideAll S []
  | cons {t : Ast} {ts : List Ast} (h : Inside S t) (hs : InsideAll S ts) : InsideAll S (t :: ts)

/-- Comments before (or after) the position are admitted. -/
class Admits (S : Attached → Prop) (isLeading : Bool) (pos : Nat) : Prop where
  admits : ∀ a : Attached, a.isLeading = isLeading → a.pos = pos → 0 < pos → S a

section

variable {S : Attached → Prop}

/-- What touches the root is admitted. -/
theorem Inside.touched {t : Ast} (h : Inside S t) {a : Attached} (ha : a.Touches t) : S a := by
  cases h with
  | node here _ => exact here a ha

/-- What is admitted for a tree is admitted for its parts. -/
theorem Inside.of_mem {t c : Ast} (h : Inside S t) (hc : c ∈ t.parts) : Inside S c := by
  cases h with
  | node _ parts => exact parts c hc

/-- The condition on a list, from its trees. -/
theorem insideAll_of_forall : {ts : List Ast} → (∀ t ∈ ts, Inside S t) → InsideAll S ts
  | [], _ => .nil
  | _ :: _, h => .cons (h _ List.mem_cons_self)
      (insideAll_of_forall fun t ht => h t (List.mem_cons_of_mem _ ht))

/-- The condition on a list, for one of its trees. -/
theorem InsideAll.of_mem {ts : List Ast} (h : InsideAll S ts) {t : Ast} (ht : t ∈ ts) :
    Inside S t := by
  induction h with
  | nil => cases ht
  | cons h _ ih =>
      rcases List.mem_cons.mp ht with rfl | ht
      · exact h
      · exact ih ht

instance : Inside S Ast.absent := by
  refine .node ?_ (by simp)
  rintro a ⟨hpos, ha⟩
  split at ha <;> simp [Ast.span, Ast.inner?, Ast.shape] at ha <;> omega

instance (t : Ast) [h : Inside S t] (i : Nat) : Inside S (t.part i) := by
  unfold Ast.part
  cases hi : t.parts[i]? with
  | none => exact inferInstanceAs (Inside S Ast.absent)
  | some u => exact h.of_mem (List.mem_of_getElem? hi)

instance (isKind : Ast → Bool) (t : Ast) [Inside S t] (i : Nat) :
    Inside S (W.partIf isKind t i) := by
  unfold W.partIf
  split <;> infer_instance

instance (t : Ast) [h : Inside S t] : InsideAll S t.parts :=
  insideAll_of_forall fun _ hu => h.of_mem hu

instance (t : Ast) [h : Inside S t] : InsideAll S t.items := by
  refine insideAll_of_forall fun u hu => ?_
  unfold Ast.items at hu
  split at hu
  · exact h.of_mem hu
  · exact h.of_mem hu
  · cases hu

instance : InsideAll S [] := .nil

instance (ts : List Ast) [h : InsideAll S ts] (p : Ast → Bool) : InsideAll S (ts.filter p) :=
  insideAll_of_forall fun _ hc => h.of_mem (List.mem_filter.mp hc).1

instance (t : Ast) [h : Inside S t] : Admits S true t.span.lo :=
  ⟨fun _ hl hp h0 => h.touched ⟨hp ▸ h0, by rw [if_pos hl]; exact .inl hp⟩⟩

instance (t : Ast) [h : Inside S t] : Admits S false t.span.hi :=
  ⟨fun _ hl hp h0 => h.touched ⟨hp ▸ h0, by rw [if_neg (by simp [hl])]; exact hp⟩⟩

instance (sp : Span) (ps : List Ast) [h : Inside S (.node .block sp ps)] :
    Admits S true ((Ast.node .block sp ps).span.hi - 1) :=
  ⟨fun _ hl hp h0 => h.touched ⟨hp ▸ h0, by rw [if_pos hl, hp]; exact .inr rfl⟩⟩

end

/-! ## Sheets -/

/-- More text does not take a comment away. -/
theorem Comment.ShownIn.append {c : Comment} {text : String} (h : c.ShownIn text) (s : String) :
    c.ShownIn (text ++ s) := by
  obtain ⟨l, r, rfl⟩ := h
  exact ⟨l, r ++ s, by simp only [String.append_assoc]⟩

/-- The sheet `s'` comes from `s` by careful steps. -/
structure Sheet.Grows (S : Attached → Prop) (s s' : Sheet) : Prop where
  text : ∃ r, s'.text = s.text ++ r
  fewer : ∀ a ∈ s'.comments, a ∈ s.comments
  shown : ∀ a ∈ s.comments, a ∈ s'.comments ∨ S a ∧ a.comment.ShownIn s'.text

/-- The sheet after a step. -/
def W.after (m : W α) (s : Sheet) : Sheet := (m.run s).2

/-- Steps that are careful within `S`. -/
class Careful (S : Attached → Prop) (m : W α) : Prop where
  grows : ∀ s : Sheet, s.Grows S (m.after s)

/-- Writers of trees that are careful at the trees inside `S`. -/
class CarefulOn (S : Attached → Prop) (f : Ast → W Unit) : Prop where
  on : ∀ t, Inside S t → Careful S (f t)

/-- Writers of lists of trees that are careful at the lists inside `S`. -/
class CarefulOnAll (S : Attached → Prop) (f : List Ast → W Unit) : Prop where
  on : ∀ ts, InsideAll S ts → Careful S (f ts)

section

variable {S : Attached → Prop}

/-- Text alone may be added by any step. -/
theorem Sheet.Grows.of_text {s s' : Sheet} (ht : ∃ r, s'.text = s.text ++ r)
    (hc : s'.comments = s.comments) : s.Grows S s' :=
  ⟨ht, fun _ h => hc ▸ h, fun _ h => .inl (hc ▸ h)⟩

theorem Sheet.Grows.refl (s : Sheet) : s.Grows S s := .of_text ⟨"", by simp⟩ rfl

/-- Careful steps in a row: a comment that the first has written stays written. -/
theorem Sheet.Grows.trans {s s' s'' : Sheet} (h : s.Grows S s') (h' : s'.Grows S s'') :
    s.Grows S s'' := by
  obtain ⟨r, hr⟩ := h.text
  obtain ⟨r', hr'⟩ := h'.text
  refine ⟨⟨r ++ r', by rw [hr', hr, String.append_assoc]⟩,
    fun a ha => h.fewer a (h'.fewer a ha), fun a ha => ?_⟩
  rcases h.shown a ha with hin | ⟨hS, hshown⟩
  · exact h'.shown a hin
  · exact .inr ⟨hS, hr' ▸ hshown.append r'⟩

end

namespace W

variable {S : Attached → Prop}

/-- The second step starts from the sheet of the first. -/
theorem after_bind (m : W α) (k : α → W β) (s : Sheet) :
    (m >>= k).after s = (k (m.run s).1).after (m.after s) := rfl

instance (x : α) : Careful S (pure x : W α) := ⟨fun s => .refl s⟩

/-- A sequence is careful if its steps are. -/
theorem careful_bind {m : W α} {k : α → W β} (hm : Careful S m) (hk : ∀ x, Careful S (k x)) :
    Careful S (m >>= k) :=
  ⟨fun s => (hm.grows s).trans ((hk _).grows _)⟩

instance (m : W α) (k : α → W β) [Careful S m] [∀ x, Careful S (k x)] : Careful S (m >>= k) :=
  careful_bind inferInstance inferInstance

instance (c : Prop) [Decidable c] (m m' : W α) [Careful S m] [Careful S m'] :
    Careful S (if c then m else m') := by
  split <;> infer_instance

instance (s : String) : Careful S (put s) := by
  refine ⟨fun w => ?_⟩
  show Sheet.Grows S w (if s.isEmpty then w else if w.atLineStart then _ else _)
  split
  · exact .refl w
  · split
    · exact .of_text ⟨_, String.append_assoc ..⟩ rfl
    · exact .of_text ⟨s, rfl⟩ rfl

instance : Careful S newLine := by
  refine ⟨fun w => ?_⟩
  show Sheet.Grows S w (if w.atLineStart then w else _)
  split
  · exact .refl w
  · exact .of_text ⟨_, rfl⟩ rfl

instance : Careful S space := inferInstanceAs (Careful S (put " "))

instance : Careful S commaSpace := inferInstanceAs (Careful S (put ", "))

instance (b : Bool) (w : W Unit) [Careful S w] : Careful S (given b w) := by
  unfold given
  infer_instance

instance (b : Bool) (s : String) : Careful S (flag b s) :=
  inferInstanceAs (Careful S (given b (put s)))

/-- Indenting concerns the text only. -/
theorem careful_indented {w : W Unit} (hw : Careful S w) : Careful S (indented w) := by
  refine ⟨fun s => ?_⟩
  have h := hw.grows { s with indent := s.indent + 1 }
  exact ⟨h.text, h.fewer, h.shown⟩

instance (w : W Unit) [hw : Careful S w] : Careful S (indented w) := careful_indented hw

instance (pos : Nat) : Careful S (hasLeading pos) := ⟨fun s => .refl s⟩

/-! ### Comments -/

/-- Inside a line, text is added as it is. -/
theorem after_put_inline {w : Sheet} (h : w.atLineStart = false) (s : String) :
    (put s).after w = { w with text := w.text ++ s } := by
  show (if s.isEmpty then w else if w.atLineStart then _ else _) = _
  by_cases hs : s.isEmpty = true
  · rw [if_pos hs, String.isEmpty_iff.mp hs, String.append_empty]
  · rw [if_neg hs, if_neg (by simp [h])]

/-- At the start of a line, text is indented first. -/
theorem after_put {s : String} (hs : s.isEmpty = false) (w : Sheet) :
    ∃ pad, (put s).after w = { w with text := w.text ++ pad ++ s, atLineStart := false } := by
  show ∃ pad, (if s.isEmpty then w else if w.atLineStart then _ else _) = _
  rw [if_neg (by simp [hs])]
  cases h : w.atLineStart with
  | true => exact ⟨"".pushn ' ' (4 * w.indent), rfl⟩
  | false =>
      obtain ⟨text, indent, _, comments⟩ := w
      cases h
      exact ⟨"", by simp⟩

instance (spaced : Bool) (c : Comment) : Careful S (comment spaced c) := by
  unfold comment
  infer_instance

/-- A comment that is written stands in the text. -/
theorem shown_comment (spaced : Bool) (c : Comment) (s : Sheet) :
    c.ShownIn ((comment spaced c).after s).text := by
  unfold comment
  rw [after_bind]
  generalize (flag spaced " ").after s = w
  by_cases hblock : c.isBlock = true
  · rw [if_pos hblock]
    obtain ⟨pad, hput⟩ := after_put (s := "/*") (by decide) w
    rw [after_bind, hput, after_bind, after_put_inline rfl, after_bind, after_put_inline rfl]
    refine ⟨w.text ++ pad, " ", ?_⟩
    show ((put " ").after _).text = _
    rw [after_put_inline rfl, Comment.written, if_pos hblock]
    simp only [String.append_assoc]
  · rw [if_neg hblock]
    obtain ⟨pad, hput⟩ := after_put (s := "//") (by decide) w
    rw [after_bind, hput, after_bind, after_put_inline rfl]
    refine ⟨w.text ++ pad, "\n", ?_⟩
    show w.text ++ pad ++ "//" ++ c.text ++ "\n" = _
    rw [Comment.written, if_neg hblock]
    simp only [String.append_assoc]

/-- Comments that are written one after the other all stand in the text. -/
theorem after_comments (spaced : Bool) (cs : List Comment) (s : Sheet) :
    s.Grows (fun _ => False) ((cs.forM (comment spaced)).after s) ∧
      ∀ c ∈ cs, c.ShownIn ((cs.forM (comment spaced)).after s).text := by
  induction cs generalizing s with
  | nil => exact ⟨.refl s, by simp⟩
  | cons c cs ih =>
      have hcons : ((c :: cs).forM (comment spaced)).after s =
          (cs.forM (comment spaced)).after ((comment spaced c).after s) := rfl
      rw [hcons]
      obtain ⟨hgrows, hshown⟩ := ih ((comment spaced c).after s)
      refine ⟨(Careful.grows (m := comment spaced c) s).trans hgrows, fun d hd => ?_⟩
      rcases List.mem_cons.mp hd with rfl | hd
      · obtain ⟨r, hr⟩ := hgrows.text
        exact hr ▸ (shown_comment spaced d s).append r
      · exact hshown d hd

/-- The comments that are taken are those at the position. -/
theorem run_take (isLeading : Bool) (pos : Nat) (s : Sheet) :
    ((take isLeading pos).after s).text = s.text ∧
      (∀ a, a ∈ ((take isLeading pos).after s).comments ↔
        a ∈ s.comments ∧ ¬ (a.isLeading = isLeading ∧ a.pos = pos)) ∧
      ∀ a ∈ s.comments, a.isLeading = isLeading → a.pos = pos →
        a.comment ∈ ((take isLeading pos).run s).1 := by
  let isHere (a : Attached) : Bool := a.isLeading == isLeading && a.pos == pos
  have hhere (a : Attached) : isHere a = true ↔ a.isLeading = isLeading ∧ a.pos = pos := by
    simp [isHere]
  have hrun : (take isLeading pos).run s = if s.comments.any isHere = true then
      ((s.comments.filter isHere).map (·.comment),
        { s with comments := s.comments.filter (!isHere ·) })
      else ([], s) := by
    show StateT.run (if s.comments.any isHere = true then _ else _) s = _
    split <;> rfl
  rw [W.after, hrun]
  by_cases hany : s.comments.any isHere = true
  · rw [if_pos hany]
    refine ⟨rfl, fun a => ?_, fun a ha hl hp => ?_⟩
    · simp [List.mem_filter, ← hhere]
    · exact List.mem_map_of_mem (List.mem_filter.mpr ⟨ha, (hhere a).mpr ⟨hl, hp⟩⟩)
  · rw [if_neg hany]
    have hnone : ∀ a ∈ s.comments, ¬ (a.isLeading = isLeading ∧ a.pos = pos) := fun a ha h =>
      hany (List.any_eq_true.mpr ⟨a, ha, (hhere a).mpr h⟩)
    exact ⟨rfl, fun a => ⟨fun ha => ⟨ha, hnone a ha⟩, And.left⟩,
      fun a ha hl hp => absurd ⟨hl, hp⟩ (hnone a ha)⟩

/-- The comments at a position are written, the others stay on the sheet. -/
theorem after_attached (isLeading : Bool) {pos : Nat} (hpos : 0 < pos) (s : Sheet) :
    (∃ r, ((attached isLeading pos).after s).text = s.text ++ r) ∧
      (∀ a, a ∈ ((attached isLeading pos).after s).comments ↔
        a ∈ s.comments ∧ ¬ (a.isLeading = isLeading ∧ a.pos = pos)) ∧
      ∀ a ∈ s.comments, a.isLeading = isLeading → a.pos = pos →
        a.comment.ShownIn ((attached isLeading pos).after s).text := by
  have hafter : (attached isLeading pos).after s =
      (((take isLeading pos).run s).1.forM (comment (!isLeading))).after
        ((take isLeading pos).after s) := by
    unfold attached
    rw [if_neg (by simp; omega)]
    rfl
  obtain ⟨htext, hleft, htaken⟩ := run_take isLeading pos s
  obtain ⟨hgrows, hshown⟩ := after_comments (!isLeading) ((take isLeading pos).run s).1
    ((take isLeading pos).after s)
  rw [← hafter] at hgrows hshown
  refine ⟨htext ▸ hgrows.text, fun a => ?_, fun a ha hl hp => hshown _ (htaken a ha hl hp)⟩
  rw [← hleft a]
  exact ⟨hgrows.fewer a, fun ha => (hgrows.shown a ha).resolve_right (·.1)⟩

/-- The comments at a position may be written where they are admitted. -/
instance (isLeading : Bool) (pos : Nat) [h : Admits S isLeading pos] :
    Careful S (attached isLeading pos) := by
  refine ⟨fun s => ?_⟩
  by_cases hpos : pos = 0
  · unfold attached
    rw [if_pos (by simp [hpos])]
    exact .refl s
  · have hpos := Nat.pos_of_ne_zero hpos
    obtain ⟨htext, hleft, hshown⟩ := after_attached isLeading hpos s
    refine ⟨htext, fun a ha => ((hleft a).mp ha).1, fun a ha => ?_⟩
    by_cases hhere : a.isLeading = isLeading ∧ a.pos = pos
    · exact .inr ⟨h.admits a hhere.1 hhere.2 hpos, hshown a ha hhere.1 hhere.2⟩
    · exact .inl ((hleft a).mpr ⟨ha, hhere⟩)

instance (pos : Nat) [Admits S true pos] : Careful S (leading pos) :=
  inferInstanceAs (Careful S (attached true pos))

instance (pos : Nat) [Admits S false pos] : Careful S (trailing pos) :=
  inferInstanceAs (Careful S (attached false pos))

/-- Asking whether a tree starts with a comment takes none. -/
instance (t : Ast) : Careful S (startsWithComment t) := by
  induction t using Ast.induction with
  | node s sp ps ih =>
      unfold startsWithComment
      refine careful_bind inferInstance fun found => ?_
      split
      · infer_instance
      · split <;> first | exact ih _ List.mem_cons_self | infer_instance

/-! ### Pieces

    The writers of parts of a node, each careful at the trees it is given. -/

instance (priority := low) (f : Ast → W Unit) [h : CarefulOn S f] (t : Ast) [ht : Inside S t] :
    Careful S (f t) :=
  h.on t ht

instance (priority := low) (f : List Ast → W Unit) [h : CarefulOnAll S f] (ts : List Ast)
    [hts : InsideAll S ts] : Careful S (f ts) :=
  h.on ts hts

instance (t : Ast) : Careful S (nameText t) := by
  unfold nameText
  split <;> infer_instance

instance : CarefulOn S bare := ⟨fun t _ => by
  unfold bare
  infer_instance⟩

instance : CarefulOn S importedName := ⟨fun t _ => by
  unfold importedName
  infer_instance⟩

instance (m : Modifiers) : Careful S (modifierText m) := by
  unfold modifierText
  split <;> infer_instance

instance (m : Modifiers) : Careful S (memberWords m) := by
  unfold memberWords
  infer_instance

instance (word after : String) (f : Ast) : Careful S (functionWords word after f) := by
  unfold functionWords
  split <;> infer_instance

instance (kind : MethodKind) (f : Ast) : Careful S (kindWords kind f) := by
  unfold kindWords
  split <;> infer_instance

instance (m : MappedMark) (s : String) : Careful S (mappedMark m s) := by
  unfold mappedMark
  split <;> infer_instance

instance (optional : Bool) (prop : Ast) : Careful S (chainDot optional prop) := by
  unfold chainDot
  infer_instance

instance (t : Ast) : Careful S (interpreterLine t) := by
  unfold interpreterLine
  split <;> infer_instance

/-- A plain name has a dot in front of it, where comments may stand. -/
theorem inner?_of_isPlainName {t : Ast} (h : isPlainName t = true) :
    t.inner? = some (t.span.lo - 1) := by
  obtain ⟨s, sp, ps⟩ := t
  cases s <;> first | rfl | cases h

/-- The dot asks for the comments in front of a plain name. -/
instance (obj : Ast) : CarefulOn S (memberDot obj) := ⟨fun t ht => by
  have hdot : Careful S (given (isPlainName t) (leading (t.span.lo - 1))) := by
    cases hname : isPlainName t with
    | false => exact inferInstanceAs (Careful S (pure ()))
    | true =>
        have : Admits S true (t.span.lo - 1) := ⟨fun _ hl hp h0 => ht.touched ⟨hp ▸ h0, by
          rw [if_pos hl, hp]
          exact .inr (inner?_of_isPlainName hname)⟩⟩
        infer_instance
  unfold memberDot
  infer_instance⟩

section

variable (again : Ast → W Unit) [CarefulOn S again]

/-- A list with something between its trees, by induction on the list. -/
instance (sep : W Unit) [Careful S sep] : CarefulOnAll S (joined again sep) := ⟨fun ts h => by
  induction h with
  | nil => exact inferInstanceAs (Careful S (pure ()))
  | @cons t ts h hs ih =>
      cases ts with
      | nil => exact inferInstanceAs (Careful S (again t))
      | cons u us =>
          exact inferInstanceAs (Careful S (do again t; sep; joined again sep (u :: us)))⟩

instance : CarefulOnAll S (each again) := ⟨fun ts _ => by
  unfold each
  infer_instance⟩

instance : CarefulOnAll S (commaList again) := ⟨fun ts _ => by
  unfold commaList
  infer_instance⟩

instance (sep : W Unit) [Careful S sep] : CarefulOnAll S (lines again sep) := ⟨fun ts _ => by
  unfold lines
  infer_instance⟩

instance (f : List Ast → W Unit) [CarefulOnAll S f] : CarefulOnAll S (optList f) := ⟨fun ts _ => by
  unfold optList
  infer_instance⟩

instance : CarefulOn S (opt again) := ⟨fun t _ => by
  unfold opt
  infer_instance⟩

instance (s : String) : CarefulOn S (behind s again) := ⟨fun t _ => by
  unfold behind
  infer_instance⟩

instance (s : String) : CarefulOn S (optAfter s again) := ⟨fun t _ => by
  unfold optAfter
  infer_instance⟩

instance : CarefulOn S (annotated again) := ⟨fun t _ => by
  unfold annotated
  infer_instance⟩

instance : CarefulOn S (parenthesized again) := ⟨fun t _ => by
  unfold parenthesized
  infer_instance⟩

instance : CarefulOn S (operand again) := ⟨fun t _ => by
  unfold operand
  infer_instance⟩

instance : CarefulOn S (key again) := ⟨fun t _ => by
  unfold key
  infer_instance⟩

instance : CarefulOn S (item again) := ⟨fun t _ => by
  unfold item
  infer_instance⟩

instance : CarefulOn S (arguments again) := ⟨fun t _ => by
  unfold arguments
  infer_instance⟩

instance : CarefulOn S (ownLine again) := ⟨fun t _ => by
  unfold ownLine
  infer_instance⟩

instance : CarefulOn S (labelText again) := ⟨fun t _ => by
  unfold labelText
  infer_instance⟩

instance : CarefulOn S (markupAttr again) := ⟨fun t _ => by
  unfold markupAttr
  infer_instance⟩

instance : CarefulOn S (resultType again) := ⟨fun t _ => by
  unfold resultType
  infer_instance⟩

instance : CarefulOn S (namespaceBody again) := ⟨fun t _ => by
  unfold namespaceBody
  infer_instance⟩

instance (cons : Ast) : CarefulOn S (elseText again cons) := ⟨fun t _ => by
  unfold elseText
  infer_instance⟩

instance (obj : Ast) : CarefulOn S (memberName again obj) := ⟨fun t _ => by
  unfold memberName
  infer_instance⟩

instance (isComputed : Bool) : CarefulOn S (computedKey again isComputed) := ⟨fun t _ => by
  unfold computedKey
  infer_instance⟩

instance (s : String) : CarefulOnAll S (commaListAfter s again) := ⟨fun ts _ => by
  unfold commaListAfter
  infer_instance⟩

instance : CarefulOnAll S (items again) := ⟨fun ts _ => by
  unfold items
  infer_instance⟩

instance : CarefulOnAll S (itemLines again) := ⟨fun ts _ => by
  unfold itemLines
  infer_instance⟩

instance : CarefulOnAll S (innerLines again) := ⟨fun ts _ => by
  unfold innerLines
  infer_instance⟩

/-- A block asks for comments behind its opening and before its closing brace. -/
instance (sp : Span) [Admits S true sp.lo] [Admits S true (sp.hi - 1)] (ts : List Ast)
    [InsideAll S ts] : Careful S (blockBody again sp ts) := by
  unfold blockBody blockLines
  repeat' with_reducible refine careful_bind ?_ fun _ => ?_
  all_goals infer_instance

instance : CarefulOn S (functionTail again) := ⟨fun t _ => by
  unfold functionTail
  repeat' with_reducible refine careful_bind ?_ fun _ => ?_
  all_goals infer_instance⟩

instance : CarefulOnAll S (decoratorLines again) := ⟨fun ts _ => by
  unfold decoratorLines
  infer_instance⟩

instance : CarefulOn S (classTail again) := ⟨fun t _ => by
  unfold classTail
  repeat' with_reducible refine careful_bind ?_ fun _ => ?_
  all_goals infer_instance⟩

instance (name c : Ast) [Inside S name] [Inside S c] (withDecorators : Bool) :
    Careful S (classText again name c withDecorators) := by
  unfold classText
  repeat' with_reducible refine careful_bind ?_ fun _ => ?_
  all_goals infer_instance

instance (m : Modifiers) (word : String) : CarefulOn S (fieldText again m word) := ⟨fun t _ => by
  unfold fieldText
  repeat' with_reducible refine careful_bind ?_ fun _ => ?_
  all_goals infer_instance⟩

instance (kind : MethodKind) (m : Modifiers) : CarefulOn S (methodText again kind m) :=
  ⟨fun t _ => by
    unfold methodText
    repeat' with_reducible refine careful_bind ?_ fun _ => ?_
    all_goals infer_instance⟩

/-- A template, by induction on its pieces of text. -/
instance (qs : List String) (es : List Ast) [h : InsideAll S es] :
    Careful S (templateText again qs es) := by
  induction qs generalizing es with
  | nil =>
      unfold templateText
      infer_instance
  | cons q qs ih =>
      cases h with
      | nil =>
          have := ih []
          unfold templateText
          infer_instance
      | @cons e es h hs =>
          have := ih es
          unfold templateText
          infer_instance

instance : CarefulOnAll S (bracedNames again) := ⟨fun ts _ => by
  unfold bracedNames
  infer_instance⟩

instance : CarefulOnAll S (elementLines again) := ⟨fun ts _ => by
  unfold elementLines
  infer_instance⟩

instance : CarefulOnAll S (propertyLines again) := ⟨fun ts _ => by
  unfold propertyLines
  infer_instance⟩

instance : CarefulOnAll S (patternNames again) := ⟨fun ts _ => by
  unfold patternNames
  infer_instance⟩

instance : CarefulOnAll S (markupAttrs again) := ⟨fun ts _ => by
  unfold markupAttrs
  infer_instance⟩

instance (src attrs : Ast) [Inside S src] [Inside S attrs] :
    Careful S (sourceText again src attrs) := by
  unfold sourceText
  infer_instance

instance (typeOnly : Bool) (specs : List Ast) (src attrs : Ast) [InsideAll S specs] [Inside S src]
    [Inside S attrs] : Careful S (importText again typeOnly specs src attrs) := by
  unfold importText
  repeat' with_reducible refine careful_bind ?_ fun _ => ?_
  all_goals infer_instance

instance (typeOnly : Bool) (specs : List Ast) (src attrs : Ast) [InsideAll S specs] [Inside S src]
    [Inside S attrs] : Careful S (exportText again typeOnly specs src attrs) := by
  unfold exportText
  repeat' with_reducible refine careful_bind ?_ fun _ => ?_
  all_goals infer_instance

instance (params ret tps : Ast) [Inside S params] [Inside S ret] [Inside S tps] (colon : String) :
    Careful S (signatureText again params ret tps colon) := by
  unfold signatureText
  repeat' with_reducible refine careful_bind ?_ fun _ => ?_
  all_goals infer_instance

instance : CarefulOn S (exportedText again) := ⟨fun t _ => by
  unfold exportedText
  split
  all_goals repeat' with_reducible refine careful_bind ?_ fun _ => ?_
  all_goals infer_instance⟩

/-! ### Nodes

    For each kind of node the writer is one sequence of steps.  It is taken apart at its steps, of
    which each is a piece from above. -/

omit [CarefulOn S again] in
/-- A writer of nodes is careful if it is so wherever the parts of the node are inside. -/
theorem carefulOn_of_parts {f : Ast → W Unit}
    (h : ∀ s sp ps, Inside S (.node s sp ps) → InsideAll S ps → Careful S (f (.node s sp ps))) :
    CarefulOn S f := ⟨fun
  | .node s sp ps, ht => h s sp ps ht (inferInstanceAs (InsideAll S (Ast.node s sp ps).parts))⟩

instance : CarefulOn S (typeText again) := carefulOn_of_parts fun s sp ps _ _ => by
  unfold typeText
  simp only [Ast.shape, Ast.parts]
  split
  all_goals
    repeat cases ‹InsideAll S (_ :: _)›
    repeat' with_reducible
      first | refine careful_bind ?_ fun _ => ?_ | refine careful_indented ?_
    all_goals infer_instance

instance : CarefulOn S (markupText again) := carefulOn_of_parts fun s sp ps _ _ => by
  unfold markupText
  simp only [Ast.shape, Ast.parts]
  split
  all_goals
    repeat cases ‹InsideAll S (_ :: _)›
    repeat' with_reducible refine careful_bind ?_ fun _ => ?_
    all_goals infer_instance

instance : CarefulOn S (exprText again) := carefulOn_of_parts fun s sp ps _ _ => by
  unfold exprText
  simp only [Ast.shape, Ast.parts]
  split
  all_goals
    repeat cases ‹InsideAll S (_ :: _)›
    repeat' with_reducible refine careful_bind ?_ fun _ => ?_
    all_goals infer_instance

instance : CarefulOn S (memberText again) := carefulOn_of_parts fun s sp ps _ _ => by
  unfold memberText
  simp only [Ast.shape, Ast.parts]
  split
  all_goals
    repeat cases ‹InsideAll S (_ :: _)›
    repeat' with_reducible refine careful_bind ?_ fun _ => ?_
    all_goals infer_instance

instance : CarefulOn S (declText again) := carefulOn_of_parts fun s sp ps _ _ => by
  unfold declText
  simp only [Ast.shape, Ast.parts]
  split
  all_goals
    repeat cases ‹InsideAll S (_ :: _)›
    repeat' with_reducible refine careful_bind ?_ fun _ => ?_
    all_goals infer_instance

instance : CarefulOn S (stmtText again) := carefulOn_of_parts fun s sp ps _ _ => by
  unfold stmtText
  simp only [Ast.shape, Ast.parts]
  split
  all_goals
    repeat cases ‹InsideAll S (_ :: _)›
    repeat' with_reducible refine careful_bind ?_ fun _ => ?_
    all_goals infer_instance

instance : CarefulOn S (moduleText again) := carefulOn_of_parts fun s sp ps _ _ => by
  unfold moduleText
  simp only [Ast.shape, Ast.parts]
  split
  all_goals
    repeat cases ‹InsideAll S (_ :: _)›
    repeat' with_reducible refine careful_bind ?_ fun _ => ?_
    all_goals infer_instance

instance : CarefulOn S (nodeText again) := ⟨fun t _ => by
  unfold nodeText
  split <;> infer_instance⟩

instance : CarefulOn S (node again) := ⟨fun t _ => by
  unfold node
  infer_instance⟩

instance : CarefulOn S (file again) := ⟨fun t _ => by
  unfold file
  infer_instance⟩

end

/-- Writing a tree is careful however deep it goes. -/
instance careful_write : (fuel : Nat) → CarefulOn S (Ast.write fuel)
  | 0 => ⟨fun t _ => by
      unfold Ast.write
      infer_instance⟩
  | fuel + 1 => ⟨fun t _ => by
      have := careful_write fuel
      unfold Ast.write
      split <;> infer_instance⟩

instance : CarefulOn S Ast.writer := ⟨fun t _ => by
  unfold Ast.writer
  split <;> infer_instance⟩

end W

end Inlay.Syntax
