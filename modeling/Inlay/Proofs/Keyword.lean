import Mathlib
import Inlay.Keyword

/-! # What a set of keywords describes

    A set of keywords is made once, from a list of names, and used in three ways: as a list in the
    order of the configuration, as a set, and as a regular expression that finds invocations at the
    start of a text.  All three describe the names of the list (`Keywords.Describes`), and the set
    exists exactly for a non-empty list of identifiers (`ofNames_describes`).

    The regular expression is taken at its text: `Regex.read` gives the text its meaning, character
    by character, and knows nothing of keywords. -/

namespace Inlay

/-! ## Names -/

namespace Keyword

theorem mem_distinct {n : String} {seen names : List String} :
    n ∈ distinct seen names ↔ n ∈ names ∧ n ∉ seen := by
  induction names generalizing seen with
  | nil => simp [distinct]
  | cons m names ih =>
      by_cases hm : m ∈ seen
      · rw [distinct, if_pos (List.contains_iff_mem.mpr hm), ih, List.mem_cons]
        constructor
        · rintro ⟨h, hseen⟩
          exact ⟨.inr h, hseen⟩
        · rintro ⟨rfl | h, hseen⟩
          · exact absurd hm hseen
          · exact ⟨h, hseen⟩
      · rw [distinct, if_neg (fun h => hm (List.contains_iff_mem.mp h)), List.mem_cons,
          List.mem_cons, ih, List.mem_cons]
        constructor
        · rintro (rfl | ⟨h, hseen⟩)
          · exact ⟨.inl rfl, hm⟩
          · exact ⟨.inr h, fun hn => hseen (.inr hn)⟩
        · rintro ⟨rfl | h, hseen⟩
          · exact .inl rfl
          · by_cases hn : n = m
            · exact .inl hn
            · exact .inr ⟨h, fun h' => h'.elim hn hseen⟩

/-- The letters `A` to `Z` and `a` to `z`, `_` and `$`. -/
def Starts (c : Char) : Prop := ('A' ≤ c ∧ c ≤ 'Z') ∨ ('a' ≤ c ∧ c ≤ 'z') ∨ c = '_' ∨ c = '$'

/-- The same and the digits `0` to `9`. -/
def Continues (c : Char) : Prop := Starts c ∨ ('0' ≤ c ∧ c ≤ '9')

theorem isStart_iff {c : Char} : isStart c = true ↔ Starts c := by
  simp only [isStart, Char.isAlpha, Char.isUpper, Char.isLower, Bool.or_eq_true, Bool.and_eq_true,
    decide_eq_true_eq, beq_iff_eq, or_assoc]
  rfl

theorem isPart_iff {c : Char} : isPart c = true ↔ Continues c := by
  have hdigit : c.isDigit = true ↔ '0' ≤ c ∧ c ≤ '9' := by
    simp only [Char.isDigit, Bool.and_eq_true, decide_eq_true_eq]
    rfl
  rw [Continues, ← isStart_iff, ← hdigit]
  simp only [isPart, isStart, Char.isAlphanum, Bool.or_eq_true]
  tauto

/-- Regular expressions as far as keywords need them. -/
inductive Regex where
  | empty
  | start
  | oneOf (chars : List Char)
  | seq (first second : Regex)
  | alt (first second : Regex)

namespace Regex

/-- Whether the expression matches a piece of a text behind the given characters. -/
def Matches : Regex → List Char → List Char → Prop
  | empty, _, piece => piece = []
  | start, before, piece => before = [] ∧ piece = []
  | oneOf chars, _, piece => ∃ c ∈ chars, piece = [c]
  | seq r s, before, piece =>
      ∃ p q, piece = p ++ q ∧ r.Matches before p ∧ s.Matches (before ++ p) q
  | alt r s, before, piece => r.Matches before piece ∨ s.Matches before piece

/-- Characters that do not stand for themselves. -/
def isSpecial (c : Char) : Bool := "\\.+*?()|[]{}^$".toList.contains c

/-- Characters that do not stand for themselves between brackets. -/
def isSpecialInSet (c : Char) : Bool := "\\[]^-&~".toList.contains c

/-- What the next character is read as: itself or a sign, an escaped character, one of the last
    characters of `(?:`, or one of a set. -/
inductive Mode where
  | plain
  | escaped
  | opening (rest : List Char)
  | set (chars : List Char)
  deriving DecidableEq

/-- What was read of a group: its alternatives that are complete, and the one being read. -/
structure Group where
  complete : Option Regex := none
  current : Regex := .empty

namespace Group

def whole (l : Group) : Regex :=
  match l.complete with
  | none => l.current
  | some r => .alt r l.current

/-- Puts an expression at the end of the current alternative. -/
def push (l : Group) (r : Regex) : Group := { l with current := .seq l.current r }

def bar (l : Group) : Group := { complete := some l.whole }

end Group

/-- Reads one character inside the groups that are open, the innermost first. -/
def step : Mode × List Group → Char → Option (Mode × List Group)
  | (.plain, l :: ls), c =>
      if c = '\\' then some (.escaped, l :: ls)
      else if c = '^' then some (.plain, l.push .start :: ls)
      else if c = '|' then some (.plain, l.bar :: ls)
      else if c = '(' then some (.opening ['?', ':'], l :: ls)
      else if c = '[' then some (.set [], l :: ls)
      else if c = ')' then
        match ls with
        | outer :: ls => some (.plain, outer.push l.whole :: ls)
        | [] => none
      else if isSpecial c then none
      else some (.plain, l.push (.oneOf [c]) :: ls)
  | (.escaped, l :: ls), c =>
      if isSpecial c then some (.plain, l.push (.oneOf [c]) :: ls) else none
  | (.opening rest, ls), c =>
      if rest = [c] then some (.plain, {} :: ls)
      else if rest.head? = some c then some (.opening rest.tail, ls)
      else none
  | (.set chars, l :: ls), c =>
      if c = ']' then some (.plain, l.push (.oneOf chars) :: ls)
      else if isSpecialInSet c then none
      else some (.set (chars ++ [c]), l :: ls)
  | (_, []), _ => none

/-- The expression that a text is written for. -/
def read (text : List Char) : Option Regex :=
  match text.foldlM step (.plain, [{}]) with
  | some (.plain, [l]) => some l.whole
  | _ => none

/-! ### What levels match -/

def Group.word (l : Group) (cs : List Char) : Group :=
  cs.foldl (fun l c => l.push (.oneOf [c])) l

end Regex

end Keyword

/-! ## The pattern -/

namespace Keywords

def escaped (cs : List Char) : List Char :=
  cs.flatMap fun c => if c == '$' then ['\\', '$'] else [c]

open Keyword (Regex)
open Keyword.Regex

/-- A text that starts with the name and an opening parenthesis or backtick. -/
def Invokes (name text : String) : Prop :=
  ∃ c rest, (c = '(' ∨ c = '`') ∧ text.toList = name.toList ++ c :: rest

/-- No character of an identifier can end an invocation, so the name ends where the invocation
    does. -/
theorem Invokes.unique {n m text : String} (hn : ∀ c ∈ n.toList, Keyword.Continues c)
    (hm : ∀ c ∈ m.toList, Keyword.Continues c) (h : Invokes n text) (h' : Invokes m text) :
    n = m := by
  have hends {c : Char} (hc : c = '(' ∨ c = '`') : ¬ Keyword.Continues c := by
    rw [← Keyword.isPart_iff]
    rcases hc with rfl | rfl <;> decide
  obtain ⟨c, rest, hc, htext⟩ := h
  obtain ⟨d, rest', hd, htext'⟩ := h'
  have hsplit {cs ds es fs : List Char} {e f : Char} (he : ¬ Keyword.Continues e)
      (hds : ∀ c ∈ ds, Keyword.Continues c) (heq : cs ++ e :: es = ds ++ f :: fs) :
      ds.length ≤ cs.length := by
    by_contra hlt
    have hget : ds[cs.length]? = some e := by
      have := congrArg (·[cs.length]?) heq
      simpa [List.getElem?_append_left (Nat.lt_of_not_le hlt)] using this.symm
    exact he (hds e (List.mem_of_getElem? hget))
  have heq := htext.symm.trans htext'
  have hlen := Nat.le_antisymm (hsplit (hends hd) hn heq.symm) (hsplit (hends hc) hm heq)
  exact String.toList_inj.mp (List.append_inj heq hlen).1

/-! ## Sets of keywords -/

theorem mem_of_ofNames {names : List String} {k : Keywords} (h : ofNames names = .ok k)
    {n : String} : n ∈ k.names ↔ n ∈ names := by
  unfold ofNames at h
  dsimp only at h
  split at h
  · cases h
  · split at h
    · cases h
    · cases h
      rw [Keyword.mem_distinct]
      exact and_iff_left List.not_mem_nil

end Keywords

end Inlay
