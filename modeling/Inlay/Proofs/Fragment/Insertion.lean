import Inlay.Fragment
import Inlay.Proofs.Tree

/-! # Tagging only inserts

    `erase` takes the tags out of a tree again: statements that tag a name are dropped, and a call
    that tags a definition gives way to the definition.  Erasing undoes tagging (`erase_tag`), so
    nothing of a script is lost, doubled or moved.

    Where the tags of declarations stand is said of each list of statements by `Arranged`.  Every
    list of the tagged script is a tagged list of the script (`exists_tag_of_mem_nodes`), so it is
    enough to look at `tagList`. -/

namespace Inlay.Fragment

open Syntax

/-! ## Reading tags back -/

/-- The tree that a call of the tagging function is about, and the number it gives. -/
def tagCall? : Ast → Option (Ast × Nat)
  | .node .call _ [.node (.ident name _ _) _ _, .node .group _ [d, .node (.num raw) _ _], _] =>
      if name = tagName then raw.toNat?.map (d, ·) else none
  | _ => none

/-- The definition in a call that tags it; any other tree stays. -/
def untag (t : Ast) : Ast :=
  match tagCall? t with
  | some (d, _) => if isDefinition d.shape then d else t
  | none => t

/-- Statements that tag something declared elsewhere. -/
def isTagStmt : Ast → Bool
  | .node .exprStmt _ [c] =>
      match tagCall? c with
      | some (d, _) => !isDefinition d.shape
      | none => false
  | _ => false

mutual

/-- A tree without its tags. -/
def erase : Ast → Ast
  | .node shape span parts =>
      if holdsStatements shape then .node shape span (eraseStmts parts)
      else untag (.node shape span (eraseAll parts))

/-- Trees without their tags, one by one. -/
def eraseAll : List Ast → List Ast
  | [] => []
  | t :: ts => erase t :: eraseAll ts

/-- Statements without their tags, those that only tag left out. -/
def eraseStmts : List Ast → List Ast
  | [] => []
  | s :: rest => if isTagStmt s then eraseStmts rest else erase s :: eraseStmts rest

end

/-- Leaving out and erasing can be done one after the other. -/
theorem eraseStmts_eq_map (ss : List Ast) :
    eraseStmts ss = (ss.filter (!isTagStmt ·)).map erase := by
  induction ss with
  | nil => rw [eraseStmts, List.filter_nil, List.map_nil]
  | cons s rest ih =>
      rw [eraseStmts, ih]
      by_cases hs : isTagStmt s <;> simp [hs]

/-- A call that tagging makes is read back with its tree and its number. -/
@[simp] theorem tagCall?_tagCall (d : Ast) (id : Nat) : tagCall? (tagCall d id) = some (d, id) := by
  simp [tagCall, tagCall?, Ast.name, Ast.group, Nat.toString_eq_repr, Nat.toNat?_repr]

/-- A call that is read back names the tagging function. -/
theorem callee_of_tagCall? {t d : Ast} {id : Nat} (h : tagCall? t = some (d, id)) :
    ∃ callee rest, t.parts = callee :: rest ∧ callee.isNamed tagName := by
  unfold tagCall? at h
  split at h
  next name _ _ _ _ _ _ _ _ _ _ _ =>
    split at h
    next hname => exact ⟨_, _, rfl, by simp [Ast.isNamed, Ast.shape, hname]⟩
    next => contradiction
  next => contradiction

/-- Where the tagging function is not named, nothing is read back. -/
theorem tagCall?_of_not_uses {t : Ast} (h : ¬ t.Uses tagName) : tagCall? t = none := by
  cases ht : tagCall? t with
  | none => rfl
  | some x =>
      obtain ⟨callee, rest, hparts, hcallee⟩ := callee_of_tagCall? ht
      obtain ⟨shape, span, parts⟩ := t
      refine absurd (Ast.Uses.of_part ⟨callee, Ast.mem_nodes_self callee, hcallee⟩ ?_) h
      rw [show parts = callee :: rest from hparts]
      exact List.mem_cons_self

/-- A tree that is no call of the tagging function is no tag. -/
theorem untag_of_tagCall?_none {t : Ast} (h : tagCall? t = none) : untag t = t := by
  rw [untag, h]

/-- Only calls are calls of the tagging function. -/
theorem tagCall?_of_shape {shape : Shape} {span : Span} {parts : List Ast} (h : shape ≠ .call) :
    tagCall? (.node shape span parts) = none := by
  unfold tagCall?
  split
  next heq => exact absurd (Ast.node.inj heq).1 h
  next => rfl

/-- A name is no definition. -/
theorem isDefinition_bareName (t : Ast) : isDefinition (bareName t).shape = false := by
  unfold bareName
  split <;> rfl

/-- The statement that tags a declaration is one that `erase` leaves out. -/
theorem isTagStmt_tagStmt (s : Ast) (id : Nat) :
    isTagStmt (tagStmt (declaredName s) id) = true := by
  simp [isTagStmt, tagStmt, declaredName, isDefinition_bareName]

/-- At a node that is no call and no list, erasing concerns the parts only. -/
theorem erase_of_shape {shape : Shape} (hlist : holdsStatements shape = false)
    (hcall : shape ≠ .call) (span : Span) (parts : List Ast) :
    erase (.node shape span parts) = .node shape span (eraseAll parts) := by
  rw [erase, if_neg (Bool.eq_false_iff.mp hlist), untag_of_tagCall?_none (tagCall?_of_shape hcall)]

/-! ## What tagging does to one node -/

section

variable {shape : Shape} {span : Span} {parts : List Ast}

/-- A definition is tagged inside and then put into a call. -/
theorem tag_definition (h : isDefinition shape = true) (id : Nat) :
    (tag (.node shape span parts) id).1
      = tagCall (.node shape span (tagAll parts (id + 1)).1) id := by
  rw [tag, if_pos h]

/-- A list of statements is tagged inside, and then gets the tags of its declarations. -/
theorem tag_statements (h : holdsStatements shape = true) (id : Nat) :
    (tag (.node shape span parts) id).1
      = .node shape span
          (tagList (tagAll parts (id + (parts.filter isDeclaration).length)).1 id) := by
  have hdef : ¬ isDefinition shape = true := by
    cases shape <;> simp [holdsStatements, isDefinition] at h ⊢
  rw [tag, if_neg hdef, if_pos h]

/-- Any other node is tagged inside. -/
theorem tag_other (hdef : ¬ isDefinition shape = true) (hlist : ¬ holdsStatements shape = true)
    (id : Nat) :
    (tag (.node shape span parts) id).1 = .node shape span (tagAll parts id).1 := by
  rw [tag, if_neg hdef, if_neg hlist]

end

/-- Tagging a definition makes a call of it; any other node stays what it is. -/
theorem shape_tag (t : Ast) (id : Nat) :
    (tag t id).1.shape = if isDefinition t.shape then .call else t.shape := by
  obtain ⟨shape, span, parts⟩ := t
  by_cases hdef : isDefinition shape = true
  · rw [tag_definition hdef, Ast.shape, if_pos hdef]
    rfl
  · rw [Ast.shape, if_neg hdef]
    by_cases hlist : holdsStatements shape = true
    · rw [tag_statements hlist]
      rfl
    · rw [tag_other hdef hlist]
      rfl

/-- A test of shapes that fails on calls and definitions sees through tagging. -/
theorem shape_test_tag (p : Shape → Bool) (hcall : p .call = false)
    (hdef : ∀ s, isDefinition s = true → p s = false) (t : Ast) (id : Nat) :
    p (tag t id).1.shape = p t.shape := by
  rw [shape_tag]
  by_cases h : isDefinition t.shape = true
  · rw [if_pos h, hcall, hdef _ h]
  · rw [if_neg h]

/-- The shapes of definitions. -/
theorem isDefinition_cases {s : Shape} (h : isDefinition s = true) :
    s = .fnExpr ∨ (∃ a b, s = .arrow a b) ∨ s = .classExpr := by
  unfold isDefinition at h
  split at h
  · exact .inl rfl
  · exact .inr (.inl ⟨_, _, rfl⟩)
  · exact .inr (.inr rfl)
  · contradiction

/-- Function declarations with a name and a body. -/
def isFunctionDecl (t : Ast) : Bool :=
  match t.shape with
  | .fnDecl _ => true
  | _ => false

/-- Class declarations with a name. -/
def isClassDecl (t : Ast) : Bool :=
  match t.shape with
  | .classDecl _ => true
  | _ => false

/-- What is tagged by name is a function or a class. -/
theorem isDeclaration_eq (t : Ast) : isDeclaration t = (isFunctionDecl t || isClassDecl t) := by
  obtain ⟨shape, span, parts⟩ := t
  cases shape <;> rfl

section

variable (t : Ast) (id : Nat)

@[simp] theorem isFunctionDecl_tag : isFunctionDecl (tag t id).1 = isFunctionDecl t := by
  refine shape_test_tag (fun s => match s with | .fnDecl _ => true | _ => false) rfl ?_ t id
  intro s hs
  rcases isDefinition_cases hs with rfl | ⟨a, b, rfl⟩ | rfl <;> rfl

@[simp] theorem isClassDecl_tag : isClassDecl (tag t id).1 = isClassDecl t := by
  refine shape_test_tag (fun s => match s with | .classDecl _ => true | _ => false) rfl ?_ t id
  intro s hs
  rcases isDefinition_cases hs with rfl | ⟨a, b, rfl⟩ | rfl <;> rfl

@[simp] theorem isNamed_tag (name : String) : (tag t id).1.isNamed name = t.isNamed name := by
  refine shape_test_tag (fun s => (Ast.node s .none []).isNamed name) rfl ?_ t id
  intro s hs
  rcases isDefinition_cases hs with rfl | ⟨a, b, rfl⟩ | rfl <;> rfl

end

/-! ## Tagging several trees -/

/-- The numbers of a list go on from its first tree to the rest. -/
theorem tagAll_cons (t : Ast) (ts : List Ast) (id : Nat) :
    (tagAll (t :: ts) id).1 = (tag t id).1 :: (tagAll ts (tag t id).2).1 := by
  rw [tagAll]

/-- A relation between a tree and its tagged form carries over to lists. -/
theorem forall₂_tagAll {R : Ast → Ast → Prop} {ts : List Ast}
    (h : ∀ t ∈ ts, ∀ id, R t (tag t id).1) (id : Nat) : List.Forall₂ R ts (tagAll ts id).1 := by
  induction ts generalizing id with
  | nil =>
      rw [tagAll]
      exact .nil
  | cons t ts ih =>
      rw [tagAll_cons]
      exact .cons (h t List.mem_cons_self id) (ih (fun u hu => h u (List.mem_cons_of_mem t hu)) _)

/-- A tree of a tagged list is a tagged tree of the list. -/
theorem exists_of_mem_tagAll {ts : List Ast} {id : Nat} {t' : Ast} (h : t' ∈ (tagAll ts id).1) :
    ∃ t ∈ ts, ∃ k, t' = (tag t k).1 := by
  induction ts generalizing id with
  | nil =>
      rw [tagAll] at h
      cases h
  | cons t ts ih =>
      rw [tagAll_cons] at h
      rcases List.mem_cons.mp h with rfl | h
      · exact ⟨t, List.mem_cons_self, id, rfl⟩
      · obtain ⟨u, hu, k, rfl⟩ := ih h
        exact ⟨u, List.mem_cons_of_mem t hu, k, rfl⟩

/-- A tagged node with one part has the tagged part of a node with one part. -/
theorem tagAll_eq_singleton {ts : List Ast} {id : Nat} {c : Ast} (h : (tagAll ts id).1 = [c]) :
    ∃ t, ts = [t] ∧ c = (tag t id).1 := by
  cases ts with
  | nil =>
      rw [tagAll] at h
      cases h
  | cons t ts =>
      rw [tagAll_cons] at h
      cases ts with
      | nil => exact ⟨t, rfl, ((List.cons.inj h).1).symm⟩
      | cons u us =>
          rw [tagAll_cons] at h
          cases (List.cons.inj h).2

/-! ## Statements -/

/-- Tagging makes calls of the tagging function out of definitions only. -/
theorem tagCall?_tag {t : Ast} (h : ¬ t.Uses tagName) (hdef : ¬ isDefinition t.shape = true)
    (id : Nat) : tagCall? (tag t id).1 = none := by
  obtain ⟨shape, span, parts⟩ := t
  rw [Ast.shape] at hdef
  by_cases hlist : holdsStatements shape = true
  · rw [tag_statements hlist]
    refine tagCall?_of_shape ?_
    rintro rfl
    cases hlist
  · rw [tag_other hdef hlist]
    cases hcall : tagCall? (.node shape span (tagAll parts id).1) with
    | none => rfl
    | some x =>
        -- the callee would be named in the script already
        obtain ⟨callee, rest, hparts, hcallee⟩ := callee_of_tagCall? hcall
        have hmem : callee ∈ (tagAll parts id).1 := by
          rw [show (tagAll parts id).1 = callee :: rest from hparts]
          exact List.mem_cons_self
        obtain ⟨c, hc, k, rfl⟩ := exists_of_mem_tagAll hmem
        rw [isNamed_tag] at hcallee
        exact absurd (Ast.Uses.of_part ⟨c, Ast.mem_nodes_self c, hcallee⟩ hc) h

/-- Only a statement of one expression is tagged to one. -/
theorem exprStmt_of_tag {t : Ast} {id : Nat} {span : Span} {c : Ast}
    (h : (tag t id).1 = .node .exprStmt span [c]) :
    ∃ u, t = .node .exprStmt span [u] ∧ c = (tag u id).1 := by
  obtain ⟨shape, span', parts⟩ := t
  by_cases hdef : isDefinition shape = true
  · rw [tag_definition hdef] at h
    cases congrArg Ast.shape h
  · by_cases hlist : holdsStatements shape = true
    · rw [tag_statements hlist] at h
      obtain rfl : shape = .exprStmt := congrArg Ast.shape h
      cases hlist
    · rw [tag_other hdef hlist] at h
      obtain ⟨rfl, rfl, hparts⟩ := Ast.node.inj h
      obtain ⟨u, rfl, rfl⟩ := tagAll_eq_singleton hparts
      exact ⟨u, rfl, rfl⟩

/-- An expression as a statement stays a statement. -/
theorem tag_exprStmt (span : Span) (u : Ast) (id : Nat) :
    (tag (.node .exprStmt span [u]) id).1 = .node .exprStmt span [(tag u id).1] := by
  rw [tag_other (by decide) (by decide), tagAll_cons, tagAll]

/-- Tagging makes no statement of the script a tag. -/
theorem isTagStmt_tag {t : Ast} (h : ¬ t.Uses tagName) (id : Nat) :
    isTagStmt (tag t id).1 = false := by
  unfold isTagStmt
  split
  next span c heq =>
    obtain ⟨u, rfl, rfl⟩ := exprStmt_of_tag heq
    have hu : ¬ u.Uses tagName := fun hu => h (hu.of_part List.mem_cons_self)
    by_cases hdef : isDefinition u.shape = true
    · obtain ⟨shape, span', parts⟩ := u
      rw [Ast.shape] at hdef
      rw [tag_definition hdef, tagCall?_tagCall]
      exact congrArg not hdef
    · rw [tagCall?_tag hu hdef]
  next => rfl

/-- A directive is a statement of one string. -/
theorem isDirective_iff (t : Ast) :
    isDirective t = true ↔
      ∃ span value raw span', t = .node .exprStmt span [.node (.str value raw) span' []] := by
  constructor
  · intro h
    unfold isDirective at h
    split at h
    · exact ⟨_, _, _, _, rfl⟩
    · contradiction
  · rintro ⟨span, value, raw, span', rfl⟩
    rfl

/-- A directive has nothing to tag. -/
theorem tag_directive {t : Ast} (h : isDirective t = true) (id : Nat) : (tag t id).1 = t := by
  obtain ⟨span, value, raw, span', rfl⟩ := (isDirective_iff t).mp h
  rw [tag_exprStmt, tag_other (by nofun) (by nofun), tagAll]

/-- Tagging makes no new directives. -/
theorem isDirective_tag (t : Ast) (id : Nat) : isDirective (tag t id).1 = isDirective t := by
  rw [Bool.eq_iff_iff]
  constructor
  · intro h
    obtain ⟨span, value, raw, span', htag⟩ := (isDirective_iff _).mp h
    obtain ⟨⟨shape, span'', parts⟩, rfl, hstr⟩ := exprStmt_of_tag htag
    -- the string is no call, so tagging has not made it
    have hshape : shape = .str value raw := by
      have hs := congrArg Ast.shape hstr
      rw [shape_tag] at hs
      split at hs
      · cases hs
      · exact hs.symm
    subst hshape
    rw [tag_other (by nofun) (by nofun)] at hstr
    cases parts with
    | nil => rfl
    | cons c rest =>
        rw [tagAll_cons] at hstr
        cases (Ast.node.inj hstr).2.2
  · intro h
    rw [tag_directive h, h]

/-- Only an identifier has a name to tag. -/
theorem bareName_of_shape {shape : Shape} (h : ∀ n m o, shape ≠ .ident n m o) (span : Span)
    (parts : List Ast) : bareName (.node shape span parts) = .absent := by
  unfold bareName
  split
  next heq => exact absurd (Ast.node.inj heq).1 (h _ _ _)
  next => rfl

/-- Tagging does not change the name of a declaration. -/
theorem bareName_tag (t : Ast) (id : Nat) : bareName (tag t id).1 = bareName t := by
  obtain ⟨shape, span, parts⟩ := t
  by_cases hdef : isDefinition shape = true
  · rw [tag_definition hdef, tagCall, bareName_of_shape (by nofun), bareName_of_shape]
    rintro n m o rfl
    cases hdef
  · by_cases hlist : holdsStatements shape = true
    · have hshape : ∀ n m o, shape ≠ .ident n m o := by
        rintro n m o rfl
        cases hlist
      rw [tag_statements hlist, bareName_of_shape hshape, bareName_of_shape hshape]
    · rw [tag_other hdef hlist]
      cases shape <;> rfl

/-- A tagged declaration declares the same name. -/
theorem declaredName_tag {t : Ast} (h : isDeclaration t = true) (id : Nat) :
    declaredName (tag t id).1 = declaredName t := by
  obtain ⟨shape, span, parts⟩ := t
  have hdef : ¬ isDefinition shape = true := by
    intro hdef
    rcases isDefinition_cases hdef with rfl | ⟨a, b, rfl⟩ | rfl <;> cases h
  have hlist : ¬ holdsStatements shape = true := by
    cases shape <;> first | exact Bool.false_ne_true | cases h
  rw [tag_other hdef hlist]
  cases parts with
  | nil => rw [tagAll]
  | cons c rest =>
      rw [tagAll_cons]
      exact bareName_tag c id

/-! ## Lists of statements -/

section

variable {s : Ast} (rest : List Ast) (id : Nat)

/-- The tag of a function goes to the head of the list. -/
theorem tagDeclarations_function (h : isFunctionDecl s = true) :
    tagDeclarations (s :: rest) id
      = (tagStmt (declaredName s) id :: (tagDeclarations rest (id + 1)).1,
          s :: (tagDeclarations rest (id + 1)).2) := by
  unfold isFunctionDecl at h
  split at h
  next heq => rw [tagDeclarations, heq]
  next => contradiction

/-- The tag of a class follows it. -/
theorem tagDeclarations_class (h : isClassDecl s = true) :
    tagDeclarations (s :: rest) id
      = ((tagDeclarations rest (id + 1)).1,
          s :: tagStmt (declaredName s) id :: (tagDeclarations rest (id + 1)).2) := by
  unfold isClassDecl at h
  split at h
  next heq => rw [tagDeclarations, heq]
  next => contradiction

/-- Other statements have no tag and use no number. -/
theorem tagDeclarations_other (h : isDeclaration s = false) :
    tagDeclarations (s :: rest) id
      = ((tagDeclarations rest id).1, s :: (tagDeclarations rest id).2) := by
  obtain ⟨shape, span, parts⟩ := s
  cases shape <;> first | rfl | cases h

end

/-- A statement declares a function, or a class, or neither. -/
theorem declaration_cases (s : Ast) :
    (isFunctionDecl s = true ∧ isClassDecl s = false ∧ isDeclaration s = true) ∨
      (isFunctionDecl s = false ∧ isClassDecl s = true ∧ isDeclaration s = true) ∨
      (isFunctionDecl s = false ∧ isClassDecl s = false ∧ isDeclaration s = false) := by
  obtain ⟨shape, span, parts⟩ := s
  cases shape
  case fnDecl => exact .inl ⟨rfl, rfl, rfl⟩
  case classDecl => exact .inr (.inl ⟨rfl, rfl, rfl⟩)
  all_goals exact .inr (.inr ⟨rfl, rfl, rfl⟩)

/-- A directive declares nothing. -/
theorem isDeclaration_of_isDirective {s : Ast} (h : isDirective s = true) :
    isDeclaration s = false := by
  obtain ⟨span, value, raw, span', rfl⟩ := (isDirective_iff s).mp h
  rfl

/-- The directives stay in front; what follows is the same as if there were none. -/
theorem tagList_eq (ss : List Ast) (id : Nat) :
    tagList ss id = ss.takeWhile isDirective
      ++ (tagDeclarations (ss.dropWhile isDirective) id).1
      ++ (tagDeclarations (ss.dropWhile isDirective) id).2 := by
  induction ss with
  | nil => rfl
  | cons s rest ih =>
      cases hs : isDirective s with
      | true =>
          have hother := tagDeclarations_other rest id (isDeclaration_of_isDirective hs)
          simp only [tagList] at ih
          simp only [tagList, hother, List.takeWhile_cons, List.dropWhile_cons, hs, if_true,
            List.cons_append, ih]
      | false =>
          simp only [tagList, List.takeWhile_cons, List.dropWhile_cons, hs, Bool.false_eq_true,
            if_false, List.nil_append]
          -- whatever the statement is, it comes first in the rest of the list
          rcases declaration_cases s with ⟨hfn, -, -⟩ | ⟨-, hclass, -⟩ | ⟨-, -, hother⟩
          · simp [tagDeclarations_function rest id hfn, hs]
          · simp [tagDeclarations_class rest id hclass, hs]
          · simp [tagDeclarations_other rest id hother, hs]

/-- A statement and what tagging made of it. -/
structure Counterpart (s s' : Ast) : Prop where
  erased : erase s' = s
  directive : isDirective s' = isDirective s
  same : isDirective s = true → s' = s
  function : isFunctionDecl s' = isFunctionDecl s
  classDecl : isClassDecl s' = isClassDecl s
  kept : isTagStmt s' = false
  named : isDeclaration s = true → declaredName s' = declaredName s

/-- Both or neither of two counterparts are tagged by name. -/
theorem Counterpart.declaration {s s' : Ast} (h : Counterpart s s') :
    isDeclaration s' = isDeclaration s := by
  rw [isDeclaration_eq, isDeclaration_eq, h.function, h.classDecl]

/-- A statement and its tagged form are counterparts. -/
theorem counterpart_tag {s : Ast} (h : ¬ s.Uses tagName) {id : Nat}
    (herase : erase (tag s id).1 = s) :
    Counterpart s (tag s id).1 where
  erased := herase
  directive := isDirective_tag s id
  same h := tag_directive h id
  function := isFunctionDecl_tag s id
  classDecl := isClassDecl_tag s id
  kept := isTagStmt_tag h id
  named h := declaredName_tag h id

/-- Erasing goes through a list from left to right. -/
theorem eraseStmts_append (a b : List Ast) :
    eraseStmts (a ++ b) = eraseStmts a ++ eraseStmts b := by
  rw [eraseStmts_eq_map, eraseStmts_eq_map, eraseStmts_eq_map, List.filter_append, List.map_append]

/-- The tag of a declaration is left out. -/
theorem eraseStmts_tag_cons (s : Ast) (id : Nat) (rest : List Ast) :
    eraseStmts (tagStmt (declaredName s) id :: rest) = eraseStmts rest := by
  rw [eraseStmts, if_pos (isTagStmt_tagStmt s id)]

/-- The tags of a list that were put in are left out again. -/
theorem eraseStmts_tagDeclarations {ss ss' : List Ast} (h : List.Forall₂ Counterpart ss ss')
    (id : Nat) :
    eraseStmts (tagDeclarations ss' id).1 = [] ∧ eraseStmts (tagDeclarations ss' id).2 = ss := by
  induction h generalizing id with
  | nil => exact ⟨by rw [tagDeclarations, eraseStmts], by rw [tagDeclarations, eraseStmts]⟩
  | @cons s s' rest rest' hs _ ih =>
      have hkept : ∀ body, eraseStmts (s' :: body) = s :: eraseStmts body := by
        intro body
        rw [eraseStmts, if_neg (Bool.eq_false_iff.mp hs.kept), hs.erased]
      rcases declaration_cases s' with ⟨hfn, -, -⟩ | ⟨-, hclass, -⟩ | ⟨-, -, hother⟩
      · rw [tagDeclarations_function rest' id hfn]
        exact ⟨by rw [eraseStmts_tag_cons, (ih (id + 1)).1], by rw [hkept, (ih (id + 1)).2]⟩
      · rw [tagDeclarations_class rest' id hclass]
        exact ⟨(ih (id + 1)).1, by rw [hkept, eraseStmts_tag_cons, (ih (id + 1)).2]⟩
      · rw [tagDeclarations_other rest' id hother]
        exact ⟨(ih id).1, by rw [hkept, (ih id).2]⟩

/-- The directives in front are the same before and after tagging. -/
theorem takeWhile_eq_of_forall₂ {ss ss' : List Ast} (h : List.Forall₂ Counterpart ss ss') :
    ss'.takeWhile isDirective = ss.takeWhile isDirective := by
  induction h with
  | nil => rfl
  | @cons s s' _ _ hs _ ih =>
      rw [List.takeWhile_cons, List.takeWhile_cons, hs.directive]
      split
      next hdir => rw [hs.same hdir, ih]
      next => rfl

/-- What follows the directives corresponds, one by one. -/
theorem forall₂_dropWhile {ss ss' : List Ast} (h : List.Forall₂ Counterpart ss ss') :
    List.Forall₂ Counterpart (ss.dropWhile isDirective) (ss'.dropWhile isDirective) := by
  induction h with
  | nil => exact .nil
  | @cons s s' _ _ hs hrest ih =>
      rw [List.dropWhile_cons, List.dropWhile_cons, hs.directive]
      split
      · exact ih
      · exact .cons hs hrest

/-- Directives have no tags to erase. -/
theorem eraseStmts_directives (ss : List Ast) :
    eraseStmts (ss.takeWhile isDirective) = ss.takeWhile isDirective := by
  induction ss with
  | nil => rw [List.takeWhile_nil, eraseStmts]
  | cons s rest ih =>
      rw [List.takeWhile_cons]
      split
      next hdir =>
        obtain ⟨span, value, raw, span', rfl⟩ := (isDirective_iff s).mp hdir
        have hnot : ¬ isTagStmt (.node .exprStmt span [.node (.str value raw) span' []])
            = true := by
          rw [isTagStmt, tagCall?_of_shape (by nofun)]
          exact Bool.false_ne_true
        rw [eraseStmts, if_neg hnot, ih, erase_of_shape (by rfl) (by nofun), eraseAll, eraseAll,
          erase_of_shape (by rfl) (by nofun), eraseAll]
      next => rw [eraseStmts]

/-- Erasing a tagged list erases its statements. -/
theorem eraseStmts_tagList {ss ss' : List Ast} (h : List.Forall₂ Counterpart ss ss') (id : Nat) :
    eraseStmts (tagList ss' id) = ss := by
  obtain ⟨hheads, hbody⟩ := eraseStmts_tagDeclarations (forall₂_dropWhile h) id
  rw [tagList_eq, eraseStmts_append, eraseStmts_append, hheads, hbody,
    takeWhile_eq_of_forall₂ h, eraseStmts_directives, List.append_nil,
    List.takeWhile_append_dropWhile]

/-! ## Erasing undoes tagging -/

/-- A tagged definition gives way to the definition. -/
theorem erase_tagCall {d : Ast} (h : isDefinition (erase d).shape = true) (id : Nat) :
    erase (tagCall d id) = erase d := by
  have hname : erase (Ast.name tagName) = Ast.name tagName := by
    rw [Ast.name, erase_of_shape (by rfl) (by nofun), eraseAll]
  have hnum : erase (.node (.num (toString id)) .none [])
      = .node (.num (toString id)) .none [] := by
    rw [erase_of_shape (by rfl) (by nofun), eraseAll]
  have hgroup : erase (.group [d, .node (.num (toString id)) .none []])
      = .group [erase d, .node (.num (toString id)) .none []] := by
    rw [Ast.group, erase_of_shape (by rfl) (by nofun), eraseAll, eraseAll, eraseAll, hnum]
    rfl
  have habsent : erase .absent = .absent := by
    rw [erase_of_shape (by rfl) (by nofun), eraseAll]
  have hcall : erase (tagCall d id) = untag (tagCall (erase d) id) := by
    rw [tagCall, erase, if_neg (by decide), eraseAll, eraseAll, eraseAll, eraseAll, hname, hgroup,
      habsent, tagCall]
  rw [hcall, untag, tagCall?_tagCall]
  exact if_pos h

/-- Erasing undoes tagging on lists if it does so on their trees. -/
theorem eraseAll_tagAll {ts : List Ast} (h : ∀ t ∈ ts, ∀ id, erase (tag t id).1 = t) (id : Nat) :
    eraseAll (tagAll ts id).1 = ts := by
  induction ts generalizing id with
  | nil => rw [tagAll, eraseAll]
  | cons t ts ih =>
      rw [tagAll_cons, eraseAll, h t List.mem_cons_self,
        ih (fun u hu => h u (List.mem_cons_of_mem t hu))]

/-- Erasing the tags of a tagged script gives back the script. -/
theorem erase_tag {t : Ast} (h : ¬ t.Uses tagName) (id : Nat) : erase (tag t id).1 = t := by
  induction t using Ast.induction generalizing id with
  | node shape span parts ih =>
      have hpart : ∀ c ∈ parts, ¬ c.Uses tagName := fun c hc hu => h (hu.of_part hc)
      have ih : ∀ c ∈ parts, ∀ id, erase (tag c id).1 = c := fun c hc => ih c hc (hpart c hc)
      by_cases hdef : isDefinition shape = true
      · -- the definition is not itself a call, so erasing stops at its parts
        have hinner : erase (.node shape span (tagAll parts (id + 1)).1)
            = .node shape span parts := by
          have hlist : holdsStatements shape = false := by
            rcases isDefinition_cases hdef with rfl | ⟨a, b, rfl⟩ | rfl <;> rfl
          have hcall : shape ≠ .call := by
            rintro rfl
            cases hdef
          rw [erase_of_shape hlist hcall, eraseAll_tagAll ih]
        rw [tag_definition hdef, erase_tagCall (by rw [hinner]; exact hdef), hinner]
      · by_cases hlist : holdsStatements shape = true
        · have hstmts : List.Forall₂ Counterpart parts
              (tagAll parts (id + (parts.filter isDeclaration).length)).1 :=
            forall₂_tagAll (fun s hs k => counterpart_tag (hpart s hs) (ih s hs k)) _
          rw [tag_statements hlist, erase, if_pos hlist, eraseStmts_tagList hstmts]
        · rw [tag_other hdef hlist, erase, if_neg hlist, eraseAll_tagAll ih,
            untag_of_tagCall?_none (tagCall?_of_not_uses h)]

/-! ## Where the tags stand -/

/-- The statement tags what the declaration declares. -/
def Tags (d s : Ast) : Prop := ∃ id, s = tagStmt (declaredName d) id

/-- The statements, tagged inside, each class directly followed by its tag. -/
inductive Followed : List Ast → List Ast → Prop where
  | nil : Followed [] []
  | classDecl {s s' tag : Ast} {rest rest' : List Ast} (hs : isClassDecl s = true)
      (herase : erase s' = s) (htag : Tags s tag) (h : Followed rest rest') :
      Followed (s :: rest) (s' :: tag :: rest')
  | other {s s' : Ast} {rest rest' : List Ast} (hs : isClassDecl s = false)
      (herase : erase s' = s) (h : Followed rest rest') : Followed (s :: rest) (s' :: rest')

/-- The statements of a list with their tags: first the directives, then one tag for each function
    of the list, in order, then everything else. -/
inductive Arranged (stmts : List Ast) : List Ast → Prop where
  | mk {tags body : List Ast} (functions : List.Forall₂ Tags (stmts.filter isFunctionDecl) tags)
      (rest : Followed (stmts.dropWhile isDirective) body) :
      Arranged stmts (stmts.takeWhile isDirective ++ tags ++ body)

/-- The tags that go to the head are those of the functions, in order. -/
theorem tags_tagDeclarations {ss ss' : List Ast} (h : List.Forall₂ Counterpart ss ss') (id : Nat) :
    List.Forall₂ Tags (ss.filter isFunctionDecl) (tagDeclarations ss' id).1
      ∧ Followed ss (tagDeclarations ss' id).2 := by
  induction h generalizing id with
  | nil => exact ⟨.nil, .nil⟩
  | @cons s s' rest rest' hs _ ih =>
      have htag (hdecl : isDeclaration s = true) : Tags s (tagStmt (declaredName s') id) :=
        ⟨id, by rw [hs.named hdecl]⟩
      rcases declaration_cases s with ⟨hfn, hclass, hdecl⟩ | ⟨hfn, hclass, hdecl⟩ |
        ⟨hfn, hclass, hdecl⟩
      · rw [tagDeclarations_function rest' id (hs.function.trans hfn), List.filter_cons_of_pos hfn]
        exact ⟨.cons (htag hdecl) (ih (id + 1)).1, .other hclass hs.erased (ih (id + 1)).2⟩
      · rw [tagDeclarations_class rest' id (hs.classDecl.trans hclass),
          List.filter_cons_of_neg (Bool.eq_false_iff.mp hfn)]
        exact ⟨(ih (id + 1)).1, .classDecl hclass hs.erased (htag hdecl) (ih (id + 1)).2⟩
      · rw [tagDeclarations_other rest' id (hs.declaration.trans hdecl),
          List.filter_cons_of_neg (Bool.eq_false_iff.mp hfn)]
        exact ⟨(ih id).1, .other hclass hs.erased (ih id).2⟩

/-- A test that fails on directives sees the same behind them. -/
theorem filter_dropWhile_isDirective {p : Ast → Bool} (h : ∀ s, isDirective s = true → p s = false)
    (ss : List Ast) : (ss.dropWhile isDirective).filter p = ss.filter p := by
  have hnone : (ss.takeWhile isDirective).filter p = [] := by
    rw [List.filter_eq_nil_iff]
    intro s hs
    rw [h s (List.mem_takeWhile_imp hs)]
    exact Bool.false_ne_true
  conv_rhs => rw [← List.takeWhile_append_dropWhile (p := isDirective) (l := ss)]
  rw [List.filter_append, hnone, List.nil_append]

/-- A directive is no function. -/
theorem isFunctionDecl_of_isDirective {s : Ast} (h : isDirective s = true) :
    isFunctionDecl s = false := by
  have hdecl := isDeclaration_of_isDirective h
  rw [isDeclaration_eq, Bool.or_eq_false_iff] at hdecl
  exact hdecl.1

/-- A tagged list is arranged as it should be. -/
theorem arranged_tagList {ss ss' : List Ast} (h : List.Forall₂ Counterpart ss ss') (id : Nat) :
    Arranged ss (tagList ss' id) := by
  obtain ⟨hfunctions, hrest⟩ := tags_tagDeclarations (forall₂_dropWhile h) id
  rw [filter_dropWhile_isDirective fun _ => isFunctionDecl_of_isDirective] at hfunctions
  rw [tagList_eq, takeWhile_eq_of_forall₂ h]
  exact .mk hfunctions hrest

/-- The tags of the declarations of a list. -/
def declarationTags (ss : List Ast) (id : Nat) : List Ast :=
  ((ss.filter isDeclaration).zipIdx id).map fun x => tagStmt (declaredName x.1) x.2

/-- A declaration in front has the first number. -/
theorem declarationTags_cons {s : Ast} (h : isDeclaration s = true) (rest : List Ast) (id : Nat) :
    declarationTags (s :: rest) id
      = tagStmt (declaredName s) id :: declarationTags rest (id + 1) := by
  rw [declarationTags, List.filter_cons_of_pos h, List.zipIdx_cons, List.map_cons]
  rfl

/-- A statement that is no declaration adds no tag. -/
theorem declarationTags_cons_other {s : Ast} (h : isDeclaration s = false) (rest : List Ast)
    (id : Nat) : declarationTags (s :: rest) id = declarationTags rest id := by
  rw [declarationTags, List.filter_cons_of_neg (Bool.eq_false_iff.mp h)]
  rfl

/-- Head and rest together hold the statements and their tags. -/
theorem tagDeclarations_perm (ss : List Ast) (id : Nat) :
    ((tagDeclarations ss id).1 ++ (tagDeclarations ss id).2).Perm
    (ss ++ declarationTags ss id) := by
  induction ss generalizing id with
  | nil => exact .refl _
  | cons s rest ih =>
      have hdeclared : (s :: tagStmt (declaredName s) id ::
            ((tagDeclarations rest (id + 1)).1 ++ (tagDeclarations rest (id + 1)).2)).Perm
          (s :: rest ++ tagStmt (declaredName s) id :: declarationTags rest (id + 1)) :=
        (((ih (id + 1)).cons _).trans List.perm_middle.symm).cons s
      rcases declaration_cases s with ⟨hfn, -, hdecl⟩ | ⟨-, hclass, hdecl⟩ | ⟨-, -, hdecl⟩
      · rw [tagDeclarations_function rest id hfn, declarationTags_cons hdecl]
        refine List.Perm.trans ?_ hdeclared
        exact (List.perm_middle.cons _).trans (.swap ..)
      · rw [tagDeclarations_class rest id hclass, declarationTags_cons hdecl]
        refine List.Perm.trans ?_ hdeclared
        exact List.perm_middle.trans (List.perm_middle.cons s)
      · rw [tagDeclarations_other rest id hdecl, declarationTags_cons_other hdecl]
        exact List.perm_middle.trans ((ih id).cons s)

/-- A tagged list holds its statements and the tags of its declarations, and nothing else. -/
theorem tagList_perm (ss : List Ast) (id : Nat) :
    (tagList ss id).Perm (ss ++ declarationTags ss id) := by
  refine List.Perm.trans ?_ (tagDeclarations_perm ss id)
  have hsplit := List.takeWhile_append_dropWhile (p := isDirective) (l := (tagDeclarations ss id).2)
  conv_rhs => rw [← hsplit, ← List.append_assoc]
  exact List.perm_append_comm.append_right _

/-- A statement of a tagged list is one of the list or the tag of a declaration. -/
theorem mem_tagList {s : Ast} {ss : List Ast} {id : Nat} (h : s ∈ tagList ss id) :
    s ∈ ss ∨ ∃ d k, s = tagStmt (declaredName d) k := by
  rcases List.mem_append.mp ((tagList_perm ss id).mem_iff.mp h) with h | h
  · exact .inl h
  · obtain ⟨x, -, rfl⟩ := List.mem_map.mp h
    exact .inr ⟨x.1, x.2, rfl⟩

/-! ## The nodes of tags -/

/-- The nodes of a call that tags a tree. -/
theorem nodes_tagCall (d : Ast) (id : Nat) :
    (tagCall d id).nodes = tagCall d id :: Ast.name tagName
      :: .group [d, .node (.num (toString id)) .none []]
      :: (d.nodes ++ [.node (.num (toString id)) .none [], .absent]) := by
  simp only [tagCall, Ast.nodes_node, Ast.name, Ast.group, List.flatMap_cons, List.flatMap_nil,
    List.append_nil, List.cons_append, List.nil_append, List.append_assoc]

/-- A call of the tagging function brings no list of statements. -/
theorem mem_nodes_of_tagCall {d t : Ast} {id : Nat} (h : t ∈ (tagCall d id).nodes)
    (ht : holdsStatements t.shape = true) : t ∈ d.nodes := by
  rw [nodes_tagCall, List.mem_cons, List.mem_cons, List.mem_cons, List.mem_append,
    List.mem_pair] at h
  rcases h with rfl | rfl | rfl | h | rfl | rfl
  · cases ht
  · cases ht
  · cases ht
  · exact h
  · cases ht
  · cases ht

/-- A statement that tags a name holds no list of statements. -/
theorem not_mem_nodes_tagStmt {s t : Ast} {id : Nat} (ht : holdsStatements t.shape = true) :
    t ∉ (tagStmt (declaredName s) id).nodes := by
  intro h
  rcases Ast.mem_nodes_node.mp h with rfl | ⟨c, hc, h⟩
  · cases ht
  · obtain rfl := List.mem_singleton.mp hc
    have h := mem_nodes_of_tagCall h ht
    unfold declaredName bareName at h
    split at h
    all_goals
      rw [Ast.nodes_node, List.flatMap_nil, List.mem_singleton] at h
      subst h
      cases ht

/-- Every list of statements in a tagged tree comes from tagging a list of the tree. -/
theorem exists_tag_of_mem_nodes {t list : Ast} {id : Nat} (h : list ∈ (tag t id).1.nodes)
    (hlist : holdsStatements list.shape = true) : ∃ l ∈ t.nodes, ∃ k, list = (tag l k).1 := by
  induction t using Ast.induction generalizing id with
  | node shape span parts ih =>
      have hinside : ∀ k, ∀ t' ∈ (tagAll parts k).1, list ∈ t'.nodes →
          ∃ l ∈ (Ast.node shape span parts).nodes, ∃ k, list = (tag l k).1 := by
        intro k t' ht' hmem
        obtain ⟨c, hc, j, rfl⟩ := exists_of_mem_tagAll ht'
        obtain ⟨l, hl, i, hli⟩ := ih c hc hmem
        exact ⟨l, Ast.mem_nodes_node.mpr (.inr ⟨c, hc, hl⟩), i, hli⟩
      by_cases hdef : isDefinition shape = true
      · rw [tag_definition hdef] at h
        rcases Ast.mem_nodes_node.mp (mem_nodes_of_tagCall h hlist) with rfl | ⟨t', ht', hmem⟩
        · rcases isDefinition_cases hdef with rfl | ⟨a, b, rfl⟩ | rfl <;> cases hlist
        · exact hinside _ t' ht' hmem
      · by_cases hstmts : holdsStatements shape = true
        · have hself : (tag (.node shape span parts) id).1 = _ := tag_statements hstmts id
          rw [hself] at h
          rcases Ast.mem_nodes_node.mp h with rfl | ⟨s, hs, hmem⟩
          · exact ⟨_, Ast.mem_nodes_self _, id, hself.symm⟩
          · rcases mem_tagList hs with hs | ⟨d, k, rfl⟩
            · exact hinside _ s hs hmem
            · exact absurd hmem (not_mem_nodes_tagStmt hlist)
        · rw [tag_other hdef hstmts] at h
          rcases Ast.mem_nodes_node.mp h with rfl | ⟨t', ht', hmem⟩
          · exact absurd hlist hstmts
          · exact hinside id t' ht' hmem

/-! ## The theorem -/

/-- Tagging a script that does not use the name of the tagging function only inserts.  Without its
    tags the tagged script is the script, and so is each of its lists of statements a list of the
    script.  There the leading directives stay first, the tags of the functions come next, and the
    tag of a class directly follows the class. -/
theorem tag_only_inserts (t : Ast) (id : Nat) (h : ¬ t.Uses tagName) :
    erase (tag t id).1 = t ∧
      ∀ list ∈ (tag t id).1.nodes, holdsStatements list.shape = true →
        erase list ∈ t.nodes ∧ Arranged (erase list).parts list.parts := by
  refine ⟨erase_tag h id, ?_⟩
  intro list hmem hlist
  obtain ⟨l, hl, k, rfl⟩ := exists_tag_of_mem_nodes hmem hlist
  have hfree : ¬ l.Uses tagName := fun hu => h (hu.of_node hl)
  rw [erase_tag hfree]
  refine ⟨hl, ?_⟩
  obtain ⟨shape, span, parts⟩ := l
  have hshape : holdsStatements shape = true := by
    rw [shape_tag] at hlist
    split at hlist
    · cases hlist
    · exact hlist
  rw [tag_statements hshape]
  refine arranged_tagList (forall₂_tagAll ?_ _) k
  intro s hs j
  have hsfree : ¬ s.Uses tagName := fun hu => hfree (hu.of_part hs)
  exact counterpart_tag hsfree (erase_tag hsfree j)

/-- A directive, a class, and a function with an arrow inside. -/
theorem tag_only_inserts_nested :
    ∃ t, (script "'use strict'; f(); class A {} function f() { return () => 1; }" "a.js").1.toOption
        = some t ∧ ¬ t.Uses tagName ∧ erase (tag t 0).1 = t ∧
      ∀ list ∈ (tag t 0).1.nodes, holdsStatements list.shape = true →
        erase list ∈ t.nodes ∧ Arranged (erase list).parts list.parts := by
  have hread : ((script "'use strict'; f(); class A {} function f() { return () => 1; }"
      "a.js").1.toOption.map fun t => decide (t.Uses tagName)) = some false := by decide +kernel
  obtain ⟨t, ht, hfree⟩ := Option.map_eq_some_iff.mp hread
  have hfree := of_decide_eq_false hfree
  exact ⟨t, ht, hfree, tag_only_inserts t 0 hfree⟩

end Inlay.Fragment
