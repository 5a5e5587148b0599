import Inlay.Proofs.Fragment.Insertion

/-! # Names that are tagged twice

    A list of statements gets one tag for each function and class that it declares.  The language
    lets several functions of one list share a name, and then the tags share it too: the one object
    that the name stands for is asked to take two numbers, which it cannot.  So the tags of a list
    name different things exactly if its declarations do (`tagged_names`). -/

namespace Inlay.Fragment

open Syntax

def identName? (t : Ast) : Option String :=
  match t.shape with
  | .ident n _ _ => some n
  | _ => none

def taggedName? : Ast → Option String
  | .node .exprStmt _ [c] => (tagCall? c).bind fun x => identName? x.1
  | _ => none

def taggedNames (ss : List Ast) : List String := ss.filterMap taggedName?

def declaredNames (ss : List Ast) : List String :=
  (ss.filter isDeclaration).filterMap fun d => identName? (d.part 0)

theorem identName?_bareName (t : Ast) : identName? (bareName t) = identName? t := by
  obtain ⟨shape, span, parts⟩ := t
  cases shape <;> rfl

theorem taggedName?_tagStmt (d : Ast) (id : Nat) :
    taggedName? (tagStmt (declaredName d) id) = identName? (d.part 0) := by
  rw [tagStmt, taggedName?, tagCall?_tagCall, Option.bind_some, declaredName, identName?_bareName]

theorem taggedName?_eq_none {s : Ast} (h : isTagStmt s = false) : taggedName? s = none := by
  unfold taggedName?
  split
  next span c =>
    rw [isTagStmt] at h
    cases hcall : tagCall? c with
    | none => rfl
    | some x =>
        have hdef : isDefinition x.1.shape = true := by simpa [hcall] using h
        show identName? x.1 = none
        rcases isDefinition_cases hdef with hx | ⟨a, b, hx⟩ | hx
        all_goals rw [identName?, hx]
  next => rfl

/-- What a tagged list names and what it declares, by the list that was tagged. -/
theorem names_tagList {ss : List Ast} (h : ∀ s ∈ ss, isTagStmt s = false) (id : Nat) :
    (taggedNames (tagList ss id)).Perm (declaredNames (tagList ss id)) := by
  have hkept : ss.filterMap taggedName? = [] :=
    List.filterMap_eq_nil_iff.mpr fun s hs => taggedName?_eq_none (h s hs)
  have htags : (declarationTags ss id).filterMap taggedName? = declaredNames ss := by
    rw [declarationTags, List.filterMap_map, declaredNames]
    conv_rhs => rw [← List.zipIdx_map_fst id (ss.filter isDeclaration), List.filterMap_map]
    exact List.filterMap_congr fun x _ => taggedName?_tagStmt x.1 x.2
  have hdeclared : (declarationTags ss id).filter isDeclaration = [] := by
    refine List.filter_eq_nil_iff.mpr fun s hs => ?_
    obtain ⟨x, -, rfl⟩ := List.mem_map.mp hs
    exact Bool.false_ne_true
  have hnames := (tagList_perm ss id).filterMap taggedName?
  have hdecls := ((tagList_perm ss id).filter isDeclaration).filterMap
    fun d => identName? (d.part 0)
  rw [List.filterMap_append, hkept, htags, List.nil_append] at hnames
  rw [List.filter_append, hdeclared, List.append_nil] at hdecls
  exact hnames.trans hdecls.symm

/-- Every list of a tagged script is a list of the script with its tags, so this holds of it. -/
theorem taggedNames_perm {t list : Ast} {id : Nat} (h : ¬ t.Uses tagName)
    (hmem : list ∈ (tag t id).1.nodes) (hlist : holdsStatements list.shape = true) :
    (taggedNames list.parts).Perm (declaredNames list.parts) := by
  obtain ⟨⟨shape, span, parts⟩, hl, k, rfl⟩ := exists_tag_of_mem_nodes hmem hlist
  have hshape : holdsStatements shape = true := by
    rw [shape_tag] at hlist
    split at hlist
    · cases hlist
    · exact hlist
  rw [tag_statements hshape]
  refine names_tagList ?_ k
  intro s hs
  obtain ⟨c, hc, j, rfl⟩ := exists_of_mem_tagAll hs
  exact isTagStmt_tag (fun hu => h ((hu.of_part hc).of_node hl)) j

/-- The tags of a list of statements name what the functions and classes of the list declare, each
    name as often as it is declared.  So no name is tagged twice if and only if none is declared
    twice. -/
theorem tagged_names (t : Ast) (id : Nat) (h : ¬ t.Uses tagName) :
    ∀ list ∈ (tag t id).1.nodes, holdsStatements list.shape = true →
      (taggedNames list.parts).Perm (declaredNames list.parts) ∧
        ((taggedNames list.parts).Nodup ↔ (declaredNames list.parts).Nodup) := by
  intro list hmem hlist
  have hperm := taggedNames_perm h hmem hlist
  exact ⟨hperm, hperm.nodup_iff⟩

/-- A function is declared in the body of another one of the same name: each list has one tag. -/
theorem tagged_names_nested :
    ∃ t, (script "function f() { function f() {} class A {} }" "a.js").1.toOption = some t ∧
      ¬ t.Uses tagName ∧ ∀ list ∈ (tag t 0).1.nodes, holdsStatements list.shape = true →
        (taggedNames list.parts).Perm (declaredNames list.parts) ∧
        (taggedNames list.parts).Nodup := by
  have hread : ((script "function f() { function f() {} class A {} }" "a.js").1.toOption.map
      fun t => decide (t.Uses tagName) || ((tag t 0).1.nodes.any fun list =>
        holdsStatements list.shape && !decide (declaredNames list.parts).Nodup)) = some false := by
    decide +kernel
  obtain ⟨t, ht, hnodup⟩ := Option.map_eq_some_iff.mp hread
  obtain ⟨hfree, hnodup⟩ := Bool.or_eq_false_iff.mp hnodup
  have hfree := of_decide_eq_false hfree
  refine ⟨t, ht, hfree, fun list hmem hlist => ?_⟩
  obtain ⟨hperm, hiff⟩ := tagged_names t 0 hfree list hmem hlist
  have hlist' := List.any_eq_false.mp hnodup list hmem
  rw [hlist, Bool.true_and, Bool.not_eq_true', Bool.not_eq_false, decide_eq_true_iff] at hlist'
  exact ⟨hperm, hiff.mpr hlist'⟩

/-- A function that is declared twice is tagged twice. -/
theorem function_tagged_twice :
    ∃ t, (script "function f() {} function f() {}" "a.js").1.toOption = some t ∧
      ¬ (taggedNames (tag t 0).1.parts).Nodup := by
  have hread : ((script "function f() {} function f() {}" "a.js").1.toOption.map fun t =>
      !decide (t.Uses tagName) && holdsStatements (tag t 0).1.shape
        && declaredNames (tag t 0).1.parts == ["f", "f"]) = some true := by decide +kernel
  obtain ⟨t, ht, hnames⟩ := Option.map_eq_some_iff.mp hread
  simp only [Bool.and_eq_true, Bool.not_eq_true', decide_eq_false_iff_not, beq_iff_eq] at hnames
  obtain ⟨⟨hfree, hlist⟩, hnames⟩ := hnames
  have hperm := taggedNames_perm hfree (Ast.mem_nodes_self (tag t 0).1) hlist
  refine ⟨t, ht, ?_⟩
  rw [hperm.nodup_iff, hnames]
  decide

end Inlay.Fragment
