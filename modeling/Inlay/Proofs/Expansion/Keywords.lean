import Inlay.Proofs.Expansion.Coverage
import Inlay.Proofs.Keyword

/-! # Only the set of keywords matters

    Keywords are asked two questions: whether a name is one of them, and whether a text starts with
    an invocation of one.  Both answers depend on the set of names alone, neither on their order nor
    on repetitions (`Keywords.Agree`).  The traversal asks nothing else, so two settings that answer
    alike go through every tree in the same way (`visit_of_agree`). -/

namespace Inlay

open Syntax

variable {σ : Type}

/-! ## Names and their order -/

namespace Keywords

/-- Both questions are answered alike. -/
structure Agree (k k' : Keywords) : Prop where
  contains : ∀ name, k.contains name = k'.contains name
  isInvoked : ∀ text, k.isInvoked text = k'.isInvoked text

/-- The alternatives of a text's beginning may be tried in any order and any number of times. -/
theorem Agree.of_mem {k k' : Keywords} (h : ∀ n, n ∈ k.names ↔ n ∈ k'.names) : Agree k k' where
  contains name := by
    rw [Bool.eq_iff_iff]
    exact List.contains_iff_mem.trans ((h name).trans List.contains_iff_mem.symm)
  isInvoked text := by
    rw [Bool.eq_iff_iff, Keywords.isInvoked, Keywords.isInvoked, List.any_eq_true, List.any_eq_true]
    exact exists_congr fun n => and_congr_left fun _ => h n

end Keywords

/-! ## Settings that search alike -/

/-- Two settings that differ at most in how their keywords are listed. -/
structure Setting.Agree (s s' : Setting) : Prop where
  keywords : s.keywords.Agree s'.keywords
  file : s.file = s'.file
  expandSpecifiers : s.expandSpecifiers = s'.expandSpecifiers

namespace Setting.Agree

variable {s s' : Setting} (h : s.Agree s')

include h

theorem keyword? (t : Ast) : s.keyword? t = s'.keyword? t := by
  unfold Setting.keyword?
  cases unboundName? t with
  | none => rfl
  | some n => rw [Option.filter_some, Option.filter_some, h.keywords.contains]

theorem invocation? (t : Ast) : s.invocation? t = s'.invocation? t := by
  unfold Setting.invocation?
  simp only [h.keyword?]

theorem specifier? (t : Ast) : s.specifier? t = s'.specifier? t := by
  unfold Setting.specifier?
  simp only [h.keywords.isInvoked, h.expandSpecifiers]

theorem requireSpecifier? (t : Ast) : s.requireSpecifier? t = s'.requireSpecifier? t := by
  unfold Setting.requireSpecifier?
  simp only [funext h.specifier?]

theorem importSpecifier? (t : Ast) : s.importSpecifier? t = s'.importSpecifier? t := by
  unfold Setting.importSpecifier?
  simp only [h.specifier?]

end Setting.Agree

namespace Expansion

variable {box : Evaluator σ} {s s' : Setting} {inner : Ast → Expand σ Ast}

/-- One step of the traversal asks the setting for matches and for the name of the file only. -/
theorem visit_of_agree (h : s.Agree s') (t : Ast) : visit box s inner t = visit box s' inner t := by
  have hexpand : expand box s = expand box s' := by
    unfold expand
    rw [h.file]
  have hspecifier : expandSpecifier inner s = expandSpecifier inner s' := by
    unfold expandSpecifier
    rw [h.file]
  induction t using Ast.induction₂ with
  | node shape span parts ih ih' =>
      rw [visit, visit, h.invocation?, h.requireSpecifier?, h.importSpecifier?, h.file, hexpand,
        hspecifier, visitAll_congr ih]
      simp only [visitCall_congr ih ih']

theorem visitWithin_of_agree (h : s.Agree s') (depth : Nat) :
    visitWithin box s depth = visitWithin box s' depth := by
  induction depth with
  | zero => rfl
  | succ depth ih =>
      funext t
      rw [visitWithin, visitWithin, ih, visit_of_agree h]

theorem run_of_agree (h : s.Agree s') : run box s = run box s' := by
  funext t
  rw [run, run, visitWithin_of_agree h]

end Expansion

/-! ## Files -/

/-- An evaluator that also keeps the units it was given, in order. -/
def Evaluator.logged (box : Evaluator σ) : Evaluator (σ × List ScriptUnit) where
  run unit state :=
    let (result, b) := box.run unit state.1
    (result, b, state.2 ++ [unit])

namespace Pass

theorem of_eq_ok {o : Options} {pass : Pass} (h : of o = .ok pass) :
    Keywords.ofNames o.value.names = .ok pass.keywords ∧ pass.options = o := by
  unfold of at h
  cases hk : Keywords.ofNames o.value.names with
  | error f =>
      rw [hk] at h
      cases h
  | ok k =>
      rw [hk] at h
      cases h
      exact ⟨rfl, rfl⟩

theorem program_of_agree {pass pass' : Pass} {file : String}
    (h : (pass.setting file).Agree (pass'.setting file)) (box : Evaluator σ) :
    pass.program box file = pass'.program box file := by
  funext t bench b
  rw [program, program, Expansion.run_of_agree h]

theorem source_of_agree {pass pass' : Pass} {file : String}
    (h : (pass.setting file).Agree (pass'.setting file)) (box : Evaluator σ) (text : String)
    (b : σ) : pass.source box text file b = pass'.source box text file b := by
  rw [source_of_dialect rfl, source_of_dialect rfl, program_of_agree h]

/-- Options that name the same keywords, in whatever order and however often, and are otherwise the
    same set up passes that cannot be told apart: every file gives the same text or the same
    failure, whatever evaluator is used, and the evaluator ends in the same state after the same
    runs. -/
theorem source_of_same_names {o o' : Options} {pass pass' : Pass} (h : of o = .ok pass)
    (h' : of o' = .ok pass') (hnames : ∀ n, n ∈ o.value.names ↔ n ∈ o'.value.names)
    (hspecifiers : o.expandSpecifiers = o'.expandSpecifiers) (hfile : o.fileName = o'.fileName)
    (box : Evaluator σ) (text file : String) (b : σ) :
    pass.source box text file b = pass'.source box text file b ∧
      pass.source box.logged text file (b, []) = pass'.source box.logged text file (b, []) := by
  obtain ⟨hk, rfl⟩ := of_eq_ok h
  obtain ⟨hk', rfl⟩ := of_eq_ok h'
  have hagree : (pass.setting file).Agree (pass'.setting file) :=
    { keywords := .of_mem fun n =>
        (Keywords.mem_of_ofNames hk).trans ((hnames n).trans (Keywords.mem_of_ofNames hk').symm)
      file := by simp only [setting, Setting.of, hfile]
      expandSpecifiers := hspecifiers }
  exact ⟨source_of_agree hagree box text b, source_of_agree hagree box.logged text (b, [])⟩

/-- Of two keywords one starts with the other; they are given in two orders, once with a repetition.
    A specifier starts with an invocation of the longer one. -/
theorem source_of_same_names_shuffled :
    let o : Options := { value := .many ["a", "a$"] }
    let o' : Options := { value := .many ["a$", "a", "a$"] }
    let pass : Pass := ⟨⟨["a", "a$"]⟩, o⟩
    let pass' : Pass := ⟨⟨["a$", "a"]⟩, o'⟩
    let text := "require(\"a$`1`\", a`2`);"
    of o = .ok pass ∧ of o' = .ok pass' ∧
      pass.source Expansion.counting text "a.ts" 0 = (.ok "require(7, 7);\n", 2) ∧
      pass'.source Expansion.counting text "a.ts" 0 = (.ok "require(7, 7);\n", 2) := by
  intro o o' pass pass' text
  have h : of o = .ok pass := rfl
  have h' : of o' = .ok pass' := rfl
  have hnames : ∀ n, n ∈ o.value.names ↔ n ∈ o'.value.names := by
    intro n
    simp only [o, o', KeywordOption.names, List.mem_cons, List.not_mem_nil, or_false]
    tauto
  have hsource : pass.source Expansion.counting text "a.ts" 0 = (.ok "require(7, 7);\n", 2) := by
    rewrite [source_of_dialect Expansion.dialect_ts]
    decide +kernel
  exact ⟨h, h', hsource,
    (source_of_same_names h h' hnames rfl rfl Expansion.counting text "a.ts" 0).1 ▸ hsource⟩

end Pass

end Inlay
