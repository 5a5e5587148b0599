import Mathlib
import Inlay.Json.Reader
import Inlay.Syntax.Ast
import Inlay.Syntax.Lexer

/-! # The form of JSON texts

    A document is a JSON value as it is written, less the blanks: its strings are lists of pieces,
    one for each character or escape, and its numbers are their digits.  `Doc.Text` relates a
    document to the texts that spell it; it is the grammar of JSON, said without a reader.

    Main statement: a text that passes the check spells a document (`check_spells`). -/

namespace Inlay.Json

open Syntax

-- What is said of the characters of a list is decided along the list, not by going through all the
-- characters there are.
instance decidableForallMem {p : Char → Prop} [DecidablePred p] (cs : List Char) :
    Decidable (∀ c ∈ cs, p c) :=
  List.decidableBAll p cs

/-! ## Documents -/

/-- A character of a string as it is written. -/
inductive Piece where
  | plain (c : Char)
  /-- A backslash and a letter. -/
  | short (c : Char)
  /-- A backslash, a `u` and four digits. -/
  | code (a b c d : Char)
  deriving DecidableEq

namespace Piece

def text : Piece → List Char
  | plain c => [c]
  | short c => ['\\', c]
  | code a b c d => ['\\', 'u', a, b, c, d]

/-- Whether the piece may stand in a string. -/
def Legal : Piece → Prop
  | plain c => 32 ≤ c.toNat ∧ c ≠ '"' ∧ c ≠ '\\'
  | short c => (Reader.simpleEscape? c).isSome
  | code a b c d => ∀ x ∈ [a, b, c, d], (Reader.hexDigit? x).isSome

/-- The characters that the piece stands for.  Half of a surrogate pair is no character, so it
    stands for its own spelling. -/
def chars : Piece → List Char
  | plain c => [c]
  | short c => (Reader.simpleEscape? c).toList
  | code a b c d =>
      match charOfCode? ([a, b, c, d].foldl (fun n x => n * 16 + (Reader.hexDigit? x).getD 0) 0)
        with
      | some ch => [ch]
      | none => ['\\', 'u', a, b, c, d]

end Piece

def quoted (ps : List Piece) : List Char := '"' :: ps.flatMap Piece.text ++ ['"']

def decoded (ps : List Piece) : List Char := ps.flatMap Piece.chars

/-- A JSON value as it is written, less the blanks.  The digits of a number are all that follows
    its sign. -/
inductive Doc where
  | null
  | bool (b : Bool)
  | number (isNegative : Bool) (digits : List Char)
  | string (ps : List Piece)
  | array (items : List Doc)
  | object (members : List (List Piece × Doc))

/-! ## Spelling -/

def Blank (cs : List Char) : Prop := ∀ c ∈ cs, Reader.isBlank c = true

instance (cs : List Char) : Decidable (Blank cs) :=
  inferInstanceAs (Decidable (∀ c ∈ cs, Reader.isBlank c = true))

def Digits (cs : List Char) : Prop := ∀ c ∈ cs, c.isDigit = true

/-- The whole part of a number has no leading zero. -/
inductive Whole : List Char → Prop where
  | zero : Whole ['0']
  | other {c : Char} {ds : List Char} (hc : c.isDigit = true) (hz : c ≠ '0') (hds : Digits ds) :
      Whole (c :: ds)

inductive Fraction : List Char → Prop where
  | none : Fraction []
  | some {d : Char} {ds : List Char} (h : Digits (d :: ds)) : Fraction ('.' :: d :: ds)

inductive Exponent : List Char → Prop where
  | none : Exponent []
  | some {e d : Char} {sign ds : List Char} (he : e = 'e' ∨ e = 'E')
      (hs : sign = [] ∨ sign = ['+'] ∨ sign = ['-']) (h : Digits (d :: ds)) :
      Exponent (e :: (sign ++ d :: ds))

/-- A number behind its sign. -/
inductive Numeral : List Char → Prop where
  | mk {w f e : List Char} (hw : Whole w) (hf : Fraction f) (he : Exponent e) :
      Numeral (w ++ f ++ e)

/-- One or more items with commas between them; blanks may stand around each. -/
inductive Separated {α : Type} (Item : α → List Char → Prop) : List α → List Char → Prop where
  | last {x : α} {a t b : List Char} (ha : Blank a) (hx : Item x t) (hb : Blank b) :
      Separated Item [x] (a ++ t ++ b)
  | cons {x : α} {xs : List α} {a t b u : List Char} (ha : Blank a) (hx : Item x t) (hb : Blank b)
      (hxs : Separated Item xs u) : Separated Item (x :: xs) (a ++ t ++ b ++ ',' :: u)

/-- The name of a member, a colon and its value. -/
inductive Member (Text : Doc → List Char → Prop) : List Piece × Doc → List Char → Prop where
  | mk {ps : List Piece} {d : Doc} {a b t : List Char} (hps : ∀ p ∈ ps, p.Legal) (ha : Blank a)
      (hb : Blank b) (hd : Text d t) : Member Text (ps, d) (quoted ps ++ a ++ ':' :: b ++ t)

def sign (isNegative : Bool) : List Char := if isNegative then ['-'] else []

/-- The texts that spell a document, without blanks around them. -/
inductive Doc.Text : Doc → List Char → Prop where
  | null : Text .null ['n', 'u', 'l', 'l']
  | true : Text (.bool true) ['t', 'r', 'u', 'e']
  | false : Text (.bool false) ['f', 'a', 'l', 's', 'e']
  | number {isNegative : Bool} {ds : List Char} (h : Numeral ds) :
      Text (.number isNegative ds) (sign isNegative ++ ds)
  | string {ps : List Piece} (h : ∀ p ∈ ps, p.Legal) : Text (.string ps) (quoted ps)
  | noItems {a : List Char} (ha : Blank a) : Text (.array []) ('[' :: a ++ [']'])
  | items {ds : List Doc} {t : List Char} (h : Separated Text ds t) :
      Text (.array ds) ('[' :: t ++ [']'])
  | noMembers {a : List Char} (ha : Blank a) : Text (.object []) ('\x7b' :: a ++ ['\x7d'])
  | members {ms : List (List Piece × Doc)} {t : List Char} (h : Separated (Member Text) ms t) :
      Text (.object ms) ('\x7b' :: t ++ ['\x7d'])

/-- The texts that spell a document: blanks may stand around it. -/
inductive Doc.Spelled (d : Doc) : List Char → Prop where
  | mk {a t b : List Char} (ha : Blank a) (hd : d.Text t) (hb : Blank b) : Spelled d (a ++ t ++ b)

theorem Blank.nil : Blank [] := fun _ h => absurd h List.not_mem_nil

theorem Blank.append {a b : List Char} (ha : Blank a) (hb : Blank b) : Blank (a ++ b) := by
  intro c hc
  exact (List.mem_append.mp hc).elim (ha c) (hb c)

theorem Separated.blank_append {α : Type} {Item : α → List Char → Prop} {xs : List α}
    {a t : List Char} (ha : Blank a) (h : Separated Item xs t) : Separated Item xs (a ++ t) := by
  cases h with
  | last hb hx hc =>
      rw [← List.append_assoc, ← List.append_assoc]
      exact .last (ha.append hb) hx hc
  | cons hb hx hc hxs =>
      rw [← List.append_assoc, ← List.append_assoc, ← List.append_assoc]
      exact .cons (ha.append hb) hx hc hxs

/-! ## The parts of the check -/

namespace Reader

variable {s s' : Cursor}

/-- A reader that succeeds succeeds in each of its steps. -/
theorem bind_ok {α β : Type} {r : Reader α} {f : α → Reader β} {b : β}
    (h : (r >>= f) s = .ok b s') : ∃ a m, r s = .ok a m ∧ f a m = .ok b s' := by
  simp only [bind, EStateM.bind] at h
  split at h
  · exact ⟨_, _, ‹_›, h⟩
  · cases h

theorem skipBlanks_split (cs : List Char) (p : Spot) :
    ∃ a, Blank a ∧ cs = a ++ (skipBlanks cs p).1 := by
  induction cs generalizing p with
  | nil => exact ⟨[], by simp [Blank], rfl⟩
  | cons c cs ih =>
      rw [skipBlanks]
      split
      · rename_i hc
        obtain ⟨a, ha, hcs⟩ := ih (Spot.after p c)
        refine ⟨c :: a, ?_, congrArg (c :: ·) hcs⟩
        rintro x (_ | ⟨_, hx⟩)
        · exact hc
        · exact ha x hx
      · exact ⟨[], by simp [Blank], rfl⟩

/-- Looking for the next character that is not blank takes the blanks off. -/
theorem peekToken_ok {r : Option Char} (h : peekToken s = .ok r s') :
    ∃ a, Blank a ∧ s.rest = a ++ s'.rest ∧ r = s'.rest.head? := by
  obtain ⟨a, ha, hs⟩ := skipBlanks_split s.rest s.spot
  cases h
  exact ⟨a, ha, hs, rfl⟩

theorem next_ok {r : Option Char} (h : next s = .ok r s') :
    (r = none ∧ s' = s) ∨ ∃ c, r = some c ∧ s.rest = c :: s'.rest := by
  obtain ⟨rest, spot⟩ := s
  cases rest with
  | nil => cases h; exact .inl ⟨rfl, rfl⟩
  | cons c cs => cases h; exact .inr ⟨c, rfl, rfl⟩

theorem word_ok {cs : List Char} {r : Unit} (h : word cs s = .ok r s') :
    s.rest = cs ++ s'.rest := by
  induction cs generalizing s with
  | nil => cases h; rfl
  | cons c cs ih =>
      obtain ⟨r, m, hn, h⟩ := bind_ok h
      rcases next_ok hn with ⟨rfl, -⟩ | ⟨d, rfl, hd⟩
      · cases h
      · dsimp only at h
        split at h
        · rename_i hcd
          rw [hd, ih h, eq_of_beq hcd]
          rfl
        · cases h

/-! ### Numbers -/

theorem takeDigits_split (cs : List Char) (p : Spot) :
    Digits (takeDigits cs p).1 ∧ cs = (takeDigits cs p).1 ++ (takeDigits cs p).2.1 := by
  induction cs generalizing p with
  | nil => exact ⟨by simp [Digits, takeDigits], rfl⟩
  | cons c cs ih =>
      rw [takeDigits]
      split
      · rename_i hc
        obtain ⟨hds, hcs⟩ := ih (Spot.after p c)
        refine ⟨?_, congrArg (c :: ·) hcs⟩
        rintro x (_ | ⟨_, hx⟩)
        · exact hc
        · exact hds x hx
      · exact ⟨by simp [Digits], rfl⟩

theorem digits_ok {ds : List Char} (h : digits s = .ok ds s') :
    Digits ds ∧ s.rest = ds ++ s'.rest := by
  obtain ⟨hds, hs⟩ := takeDigits_split s.rest s.spot
  cases h
  exact ⟨hds, hs⟩

theorem peek_ok {r : Option Char} (h : peek s = .ok r s') : s = s' ∧ r = s.rest.head? := by
  cases h
  exact ⟨rfl, rfl⟩

theorem peek_some {c : Char} (h : peek s = .ok (some c) s') : s = s' ∧ ∃ cs, s.rest = c :: cs := by
  obtain ⟨rfl, hc⟩ := peek_ok h
  exact ⟨rfl, List.head?_eq_some_iff.mp hc.symm⟩

theorem drop_ok {r : Unit} {c : Char} {cs : List Char} (hs : s.rest = c :: cs)
    (h : drop s = .ok r s') : s'.rest = cs := by
  obtain ⟨r, m, hn, h⟩ := bind_ok h
  cases h
  obtain ⟨rest, spot⟩ := s
  cases hs
  cases hn
  rfl

theorem next_some {c : Char} (h : next s = .ok (some c) s') : s.rest = c :: s'.rest := by
  rcases next_ok h with ⟨hc, -⟩ | ⟨d, hd, hs⟩
  · cases hc
  · cases hd
    exact hs

theorem wholePart_ok {early : Option Problem} {w : List Char} (h : wholePart early s = .ok w s') :
    Whole w ∧ s.rest = w ++ s'.rest := by
  obtain ⟨r, m, hn, h⟩ := bind_ok h
  split at h
  · cases h
  · obtain ⟨r, m', hp, h⟩ := bind_ok h
    obtain ⟨rfl, rfl⟩ := peek_ok hp
    split at h
    · cases h
    · cases h
      exact ⟨.zero, next_some hn⟩
  · rename_i c hzero
    split at h
    · cases h
    · rename_i hdigit
      obtain ⟨ds, m', hd, h⟩ := bind_ok h
      obtain ⟨hds, hm⟩ := digits_ok hd
      cases h
      refine ⟨.other (by simpa using hdigit) (fun hz => hzero (hz ▸ rfl)) hds, ?_⟩
      rw [next_some hn, hm]
      rfl

/-- What `fractionPart` reads, with its point. -/
theorem fractionPart_ok {early : Option Problem} {f : Option (List Char)}
    (h : fractionPart early s = .ok f s') : ∃ t, Fraction t ∧ s.rest = t ++ s'.rest := by
  obtain ⟨r, m, hp, h⟩ := bind_ok h
  obtain ⟨rfl, rfl⟩ := peek_ok hp
  split at h
  · rename_i hpoint
    obtain ⟨cs, hcs⟩ : ∃ cs, s.rest = '.' :: cs := by
      cases hr : s.rest with
      | nil => simp [hr] at hpoint
      | cons c cs => exact ⟨cs, by simpa [hr] using hpoint⟩
    obtain ⟨_, m, hd, h⟩ := bind_ok h
    obtain ⟨ds, m', hds, h⟩ := bind_ok h
    obtain ⟨hdigits, hm⟩ := digits_ok hds
    have hm : cs = ds ++ m'.rest := (drop_ok hcs hd).symm.trans hm
    split at h
    · obtain ⟨r, m'', hp, h⟩ := bind_ok h
      split at h
      · cases h
      · cases h
    · rename_i hne
      cases h
      cases ds with
      | nil => exact absurd rfl hne
      | cons d ds => exact ⟨'.' :: d :: ds, .some hdigits, by rw [hcs, hm]; rfl⟩
  · cases h
    exact ⟨[], .none, rfl⟩

theorem exponentSign_ok {r : Bool} (h : exponentSign s = .ok r s') :
    ∃ t, (t = [] ∨ t = ['+'] ∨ t = ['-']) ∧ s.rest = t ++ s'.rest := by
  obtain ⟨r, m, hp, h⟩ := bind_ok h
  split at h
  · obtain ⟨rfl, cs, hs⟩ := peek_some hp
    obtain ⟨_, m, hd, h⟩ := bind_ok h
    cases h
    exact ⟨['+'], .inr (.inl rfl), by rw [hs, drop_ok hs hd]; rfl⟩
  · obtain ⟨rfl, cs, hs⟩ := peek_some hp
    obtain ⟨_, m, hd, h⟩ := bind_ok h
    cases h
    exact ⟨['-'], .inr (.inr rfl), by rw [hs, drop_ok hs hd]; rfl⟩
  · obtain ⟨rfl, -⟩ := peek_ok hp
    cases h
    exact ⟨[], .inl rfl, rfl⟩

theorem exponentFrom_ok {early : Option Problem} {e : Option (Bool × List Char)} {x : Char}
    {cs : List Char} (hx : x = 'e' ∨ x = 'E') (hr : s.rest = x :: cs)
    (h : exponentFrom early s = .ok e s') : ∃ t, Exponent t ∧ s.rest = t ++ s'.rest := by
  obtain ⟨_, m, hd, h⟩ := bind_ok h
  obtain ⟨neg, m₁, hs, h⟩ := bind_ok h
  obtain ⟨t, ht, hm⟩ := exponentSign_ok hs
  obtain ⟨r, m₂, hn, h⟩ := bind_ok h
  split at h
  · cases h
  · rename_i c
    split at h
    · cases h
    · rename_i hdigit
      have hc := next_some hn
      obtain ⟨ds, m₃, hds, h⟩ := bind_ok h
      obtain ⟨hdigits, hm₂⟩ := digits_ok hds
      cases h
      refine ⟨x :: (t ++ c :: ds), .some hx ht ?_, ?_⟩
      · rintro y (_ | ⟨_, hy⟩)
        · simpa using hdigit
        · exact hdigits y hy
      · rw [hr, ← drop_ok hr hd, hm, hc, hm₂]
        simp

theorem exponentPart_ok {early : Option Problem} {e : Option (Bool × List Char)}
    (h : exponentPart early s = .ok e s') : ∃ t, Exponent t ∧ s.rest = t ++ s'.rest := by
  obtain ⟨r, m, hp, h⟩ := bind_ok h
  split at h
  · obtain ⟨rfl, cs, hs⟩ := peek_some hp
    exact exponentFrom_ok (.inl rfl) hs h
  · obtain ⟨rfl, cs, hs⟩ := peek_some hp
    exact exponentFrom_ok (.inr rfl) hs h
  · obtain ⟨rfl, -⟩ := peek_ok hp
    cases h
    exact ⟨[], .none, rfl⟩

theorem numeral_ok {early : Option Problem} {n : Reader.Numeral} (h : numeral early s = .ok n s') :
    ∃ ds, Json.Numeral ds ∧ s.rest = ds ++ s'.rest := by
  obtain ⟨w, m, hw, h⟩ := bind_ok h
  obtain ⟨f, m₁, hf, h⟩ := bind_ok h
  obtain ⟨e, m₂, he, h⟩ := bind_ok h
  cases h
  obtain ⟨hw, hs⟩ := wholePart_ok hw
  obtain ⟨f, hf, hm⟩ := fractionPart_ok hf
  obtain ⟨e, he, hm₁⟩ := exponentPart_ok he
  exact ⟨w ++ f ++ e, .mk hw hf he, by rw [hs, hm, hm₁]; simp⟩

/-! ### Strings -/

theorem hexEscape_ok {n : Nat} (h : hexEscape s = .ok n s') :
    ∃ a b c d, s.rest = a :: b :: c :: d :: s'.rest ∧ (Piece.code a b c d).Legal := by
  obtain ⟨t, m, hg, h⟩ := bind_ok h
  obtain ⟨rest, spot⟩ := s
  cases hg
  dsimp only at h
  split at h
  · rename_i a b c d rest _
    obtain ⟨_, m, hset, h⟩ := bind_ok h
    cases hset
    generalize ha : hexDigit? a = x, hb : hexDigit? b = y, hc : hexDigit? c = z,
      hd : hexDigit? d = w at h
    split at h
    · cases h
      refine ⟨a, b, c, d, rfl, ?_⟩
      simp [Piece.Legal, ha, hb, hc, hd]
    · cases h
  · obtain ⟨_, m, hset, h⟩ := bind_ok h
    cases h

/-- The check of a string goes over its pieces and the closing quote. -/
theorem skipString_ok {fuel : Nat} {r : Unit} (h : skipString fuel s = .ok r s') :
    ∃ ps : List Piece, (∀ p ∈ ps, p.Legal) ∧ s.rest = ps.flatMap Piece.text ++ '"' :: s'.rest := by
  induction fuel generalizing s with
  | zero => cases h
  | succ fuel ih =>
      -- one more piece in front of those of the rest
      have more {p : Piece} {m : Cursor} (hp : p.Legal) (hs : s.rest = p.text ++ m.rest)
          (h : skipString fuel m = .ok r s') :
          ∃ ps : List Piece, (∀ p ∈ ps, p.Legal) ∧
              s.rest = ps.flatMap Piece.text ++ '"' :: s'.rest := by
        obtain ⟨ps, hps, hm⟩ := ih h
        refine ⟨p :: ps, List.forall_mem_cons.mpr ⟨hp, hps⟩, ?_⟩
        rw [hs, hm, List.flatMap_cons, List.append_assoc]
      obtain ⟨c, m, hp, h⟩ := bind_ok h
      split at h
      · cases h
      · obtain ⟨rfl, cs, hs⟩ := peek_some hp
        exact ⟨[], by simp, by rw [hs, drop_ok hs h]; rfl⟩
      · obtain ⟨rfl, cs, hs⟩ := peek_some hp
        obtain ⟨_, m, hd, h⟩ := bind_ok h
        have hm := drop_ok hs hd
        obtain ⟨c, m₁, hn, h⟩ := bind_ok h
        split at h
        · cases h
        · obtain ⟨n, m₂, hx, h⟩ := bind_ok h
          obtain ⟨a, b, c, d, hm₁, hl⟩ := hexEscape_ok hx
          refine more hl ?_ h
          rw [hs, ← hm, next_some hn, hm₁]
          rfl
        · rename_i c _
          split at h
          · cases h
          · rename_i hc
            refine more (p := .short c) ?_ ?_ h
            · simpa [Piece.Legal, Option.isSome_iff_ne_none] using hc
            · rw [hs, ← hm, next_some hn]
              rfl
      · rename_i c hquote hback
        obtain ⟨rfl, cs, hs⟩ := peek_some hp
        split at h
        · cases h
        · rename_i hc
          obtain ⟨_, m, hd, h⟩ := bind_ok h
          refine more (p := .plain c) ?_ ?_ h
          · exact ⟨by simpa using hc, fun e => hquote (e ▸ rfl), fun e => hback (e ▸ rfl)⟩
          · rw [hs, drop_ok hs hd]
            rfl

/-! ### Values -/

theorem peekToken_some {c : Char} (h : peekToken s = .ok (some c) s') :
    ∃ a cs, Blank a ∧ s.rest = a ++ c :: cs ∧ s'.rest = c :: cs := by
  obtain ⟨a, ha, hs, hc⟩ := peekToken_ok h
  obtain ⟨cs, hcs⟩ := List.head?_eq_some_iff.mp hc.symm
  exact ⟨a, cs, ha, hcs ▸ hs, hcs⟩

def closer (isObject : Bool) : Char := if isObject then '\x7d' else ']'

/-- What `follow` finds: the end, a comma behind an item, or nothing yet to go by. -/
theorem follow_ok {isObject accepted : Bool} {f : Follow}
    (h : follow isObject accepted s = .ok f s') :
    match f with
    | .done => ∃ a, Blank a ∧ s.rest = a ++ closer isObject :: s'.rest
    | .more => ∃ a, Blank a ∧ s.rest = a ++ (if accepted then [','] else []) ++ s'.rest := by
  obtain ⟨c, m, hp, h⟩ := bind_ok h
  split at h
  · obtain ⟨a, cs, ha, hs, hm⟩ := peekToken_some hp
    split at h
    · rename_i hacc
      obtain ⟨_, m', hd, h⟩ := bind_ok h
      cases h
      exact ⟨a, ha, by rw [hs, hacc, drop_ok hm hd]; simp⟩
    · rename_i hacc
      cases h
      exact ⟨a, ha, by rw [hs, hm]; simp [hacc]⟩
  · rename_i c hcomma
    obtain ⟨a, cs, ha, hs, hm⟩ := peekToken_some hp
    by_cases hc : (c == if isObject then '\x7d' else ']') = true
    · rw [if_pos hc] at h
      obtain ⟨_, m', hd, h⟩ := bind_ok h
      cases h
      exact ⟨a, ha, by rw [hs, drop_ok hm hd, eq_of_beq hc]; rfl⟩
    · rw [if_neg hc] at h
      cases accepted
      · cases h
        exact ⟨a, ha, by rw [hs, hm]; simp⟩
      · cases isObject
        all_goals cases h
  · cases h

theorem skipName_ok {r : Unit} (h : skipName s = .ok r s') :
    ∃ (a : List Char) (ps : List Piece) (b : List Char), Blank a ∧ (∀ p ∈ ps, p.Legal) ∧ Blank b ∧
      s.rest = a ++ quoted ps ++ b ++ ':' :: s'.rest := by
  obtain ⟨c, m, hp, h⟩ := bind_ok h
  split at h
  · obtain ⟨a, cs, ha, hs, hm⟩ := peekToken_some hp
    obtain ⟨_, m₁, hd, h⟩ := bind_ok h
    obtain ⟨n, m₂, hf, h⟩ := bind_ok h
    cases hf
    obtain ⟨_, m₃, hq, h⟩ := bind_ok h
    obtain ⟨ps, hps, hm₁⟩ := skipString_ok hq
    obtain ⟨c, m₄, hp, h⟩ := bind_ok h
    split at h
    · obtain ⟨b, cs', hb, hm₃, hm₄⟩ := peekToken_some hp
      refine ⟨a, ps, b, ha, hps, hb, ?_⟩
      rw [hs, ← drop_ok hm hd, hm₁, hm₃, drop_ok hm₄ h]
      simp [quoted]
    · cases h
    · cases h
  · cases h
  · cases h

/-- Items as the check goes over them: up to the mark that closes them, and behind a comma if an
    item stands before them. -/
inductive Checked {α : Type} (Item : α → List Char → Prop) (accepted : Bool) (close : Char)
    (rest : List Char) : List Char → Prop where
  | nil {a : List Char} (ha : Blank a) : Checked Item accepted close rest (a ++ close :: rest)
  | some {a t : List Char} {xs : List α} (ha : Blank a) (hxs : Separated Item xs t) :
      Checked Item accepted close rest
        (a ++ (if accepted then [','] else []) ++ t ++ close :: rest)

/-- An item in front of those that the check goes over next. -/
theorem Checked.cons {α : Type} {Item : α → List Char → Prop} {accepted : Bool} {close : Char}
    {rest a b t u : List Char} {x : α} (ha : Blank a) (hb : Blank b) (hx : Item x t)
    (h : Checked Item true close rest u) :
    Checked Item accepted close rest
      (a ++ (if accepted then [','] else []) ++ (b ++ t ++ u)) := by
  cases h with
  | @nil c hc =>
      have h : Checked Item accepted close rest _ := .some ha (.last hb hx hc)
      simpa using h
  | @some c t' xs hc hxs =>
      have h : Checked Item accepted close rest _ := .some ha (.cons hb hx hc hxs)
      simpa using h

theorem Checked.first {α : Type} {Item : α → List Char → Prop} {close : Char}
    {rest cs : List Char} (h : Checked Item false close rest cs) :
    (∃ a, Blank a ∧ cs = a ++ close :: rest) ∨
      ∃ xs t, Separated Item xs t ∧ cs = t ++ close :: rest := by
  cases h with
  | nil ha => exact .inl ⟨_, ha, rfl⟩
  | some ha hxs => exact .inr ⟨_, _, hxs.blank_append ha, by simp⟩

/-- The check of one value, and of items up to their end. -/
def Sound (fuel : Nat) : Prop :=
  (∀ {s s' : Cursor} {r : Unit}, skipValue fuel s = .ok r s' →
    ∃ a d t, Blank a ∧ Doc.Text d t ∧ s.rest = a ++ t ++ s'.rest) ∧
  (∀ {s s' : Cursor} {r : Unit} {accepted : Bool}, skipItems fuel false accepted s = .ok r s' →
    Checked Doc.Text accepted ']' s'.rest s.rest) ∧
  (∀ {s s' : Cursor} {r : Unit} {accepted : Bool}, skipItems fuel true accepted s = .ok r s' →
    Checked (Member Doc.Text) accepted '\x7d' s'.rest s.rest)

theorem skipValue_sound {fuel : Nat} (ih : Sound fuel) {r : Unit}
    (h : skipValue (fuel + 1) s = .ok r s') :
    ∃ a d t, Blank a ∧ Doc.Text d t ∧ s.rest = a ++ t ++ s'.rest := by
  rw [skipValue] at h
  obtain ⟨c, m, hp, h⟩ := bind_ok h
  -- one case for each first character, in the order of the definition
  split at h
  · cases h
  · obtain ⟨a, cs, ha, hs, hm⟩ := peekToken_some hp
    obtain ⟨_, m₁, hd, h⟩ := bind_ok h
    exact ⟨a, .null, _, ha, .null, by rw [hs, ← drop_ok hm hd, word_ok h]; simp⟩
  · obtain ⟨a, cs, ha, hs, hm⟩ := peekToken_some hp
    obtain ⟨_, m₁, hd, h⟩ := bind_ok h
    exact ⟨a, .bool true, _, ha, .true, by rw [hs, ← drop_ok hm hd, word_ok h]; simp⟩
  · obtain ⟨a, cs, ha, hs, hm⟩ := peekToken_some hp
    obtain ⟨_, m₁, hd, h⟩ := bind_ok h
    exact ⟨a, .bool false, _, ha, .false, by rw [hs, ← drop_ok hm hd, word_ok h]; simp⟩
  · obtain ⟨a, cs, ha, hs, hm⟩ := peekToken_some hp
    obtain ⟨_, m₁, hd, h⟩ := bind_ok h
    obtain ⟨n, m₂, hn, h⟩ := bind_ok h
    obtain ⟨ds, hds, hm₁⟩ := numeral_ok hn
    cases h
    refine ⟨a, .number true ds, _, ha, .number hds, ?_⟩
    rw [hs, ← drop_ok hm hd, hm₁]
    simp [sign]
  · obtain ⟨a, cs, ha, hs, hm⟩ := peekToken_some hp
    obtain ⟨_, m₁, hd, h⟩ := bind_ok h
    obtain ⟨n, m₂, hf, h⟩ := bind_ok h
    cases hf
    obtain ⟨ps, hps, hm₁⟩ := skipString_ok h
    refine ⟨a, .string ps, _, ha, .string hps, ?_⟩
    rw [hs, ← drop_ok hm hd, hm₁]
    simp [quoted]
  · obtain ⟨a, cs, ha, hs, hm⟩ := peekToken_some hp
    obtain ⟨_, m₁, hd, h⟩ := bind_ok h
    rcases (drop_ok hm hd ▸ ih.2.1 h).first with ⟨b, hb, hcs⟩ | ⟨ds, t, hds, hcs⟩
    · exact ⟨a, .array [], _, ha, .noItems hb, by rw [hs, hcs]; simp⟩
    · exact ⟨a, .array ds, _, ha, .items hds, by rw [hs, hcs]; simp⟩
  · obtain ⟨a, cs, ha, hs, hm⟩ := peekToken_some hp
    obtain ⟨_, m₁, hd, h⟩ := bind_ok h
    rcases (drop_ok hm hd ▸ ih.2.2 h).first with ⟨b, hb, hcs⟩ | ⟨ms, t, hms, hcs⟩
    · exact ⟨a, .object [], _, ha, .noMembers hb, by rw [hs, hcs]; simp⟩
    · exact ⟨a, .object ms, _, ha, .members hms, by rw [hs, hcs]; simp⟩
  · obtain ⟨a, cs, ha, hs, hm⟩ := peekToken_some hp
    split at h
    · obtain ⟨n, m₂, hn, h⟩ := bind_ok h
      obtain ⟨ds, hds, hm₁⟩ := numeral_ok hn
      cases h
      refine ⟨a, .number false ds, _, ha, .number hds, ?_⟩
      rw [hs, ← hm, hm₁]
      simp [sign]
    · cases h

theorem skipItems_sound {fuel : Nat} (ih : Sound fuel) {accepted : Bool} {r : Unit}
    (h : skipItems (fuel + 1) false accepted s = .ok r s') :
    Checked Doc.Text accepted ']' s'.rest s.rest := by
  rw [skipItems] at h
  obtain ⟨f, m, hf, h⟩ := bind_ok h
  have hf := follow_ok hf
  cases f with
  | done =>
      obtain ⟨a, ha, hs⟩ := hf
      cases h
      exact hs ▸ .nil ha
  | more =>
      obtain ⟨a, ha, hs⟩ := hf
      obtain ⟨_, m₁, hv, h⟩ := bind_ok h
      obtain ⟨b, d, t, hb, hd, hm⟩ := ih.1 hv
      rw [hs, hm]
      exact .cons ha hb hd (ih.2.1 h)

theorem skipMembers_sound {fuel : Nat} (ih : Sound fuel) {accepted : Bool} {r : Unit}
    (h : skipItems (fuel + 1) true accepted s = .ok r s') :
    Checked (Member Doc.Text) accepted '\x7d' s'.rest s.rest := by
  rw [skipItems] at h
  obtain ⟨f, m, hf, h⟩ := bind_ok h
  have hf := follow_ok hf
  cases f with
  | done =>
      obtain ⟨a, ha, hs⟩ := hf
      cases h
      exact hs ▸ .nil ha
  | more =>
      obtain ⟨a, ha, hs⟩ := hf
      obtain ⟨_, m₁, hn, h⟩ := bind_ok h
      obtain ⟨b, ps, c, hb, hps, hc, hm⟩ := skipName_ok hn
      obtain ⟨_, m₂, hv, h⟩ := bind_ok h
      obtain ⟨e, d, t, he, hd, hm₁⟩ := ih.1 hv
      have hmember : Member Doc.Text (ps, d) (quoted ps ++ c ++ ':' :: e ++ t) := .mk hps hc he hd
      have hall : Checked (Member Doc.Text) accepted '\x7d' s'.rest _ :=
        .cons ha hb hmember (ih.2.2 h)
      rw [hs, hm, hm₁]
      simpa using hall

theorem sound (fuel : Nat) : Sound fuel := by
  induction fuel with
  | zero =>
      refine ⟨fun h => ?_, fun h => ?_, fun h => ?_⟩
      all_goals cases h
  | succ fuel ih => exact ⟨skipValue_sound ih, skipItems_sound ih, skipMembers_sound ih⟩

end Reader

theorem check_spells {text : String} (h : check text = .ok ()) :
    ∃ d : Doc, d.Spelled text.toList := by
  simp only [check, parseWith] at h
  split at h
  · rename_i hr
    obtain ⟨_, m, hv, hr⟩ := Reader.bind_ok hr
    obtain ⟨_, m₁, hf, hr⟩ := Reader.bind_ok hr
    obtain ⟨a, d, t, ha, hd, hs⟩ := (Reader.sound _).1 hv
    obtain ⟨c, m₂, hp, hf⟩ := Reader.bind_ok hf
    obtain ⟨b, hb, hm, hc⟩ := Reader.peekToken_ok hp
    split at hf
    · cases hf
    · rename_i hnone
      have hrest : m₂.rest = [] := by
        cases hr : m₂.rest with
        | nil => rfl
        | cons x xs => simp [hc, hr] at hnone
      rw [hrest, List.append_nil] at hm
      have hs : text.toList = a ++ t ++ b := hs.trans (by rw [hm])
      exact ⟨d, hs ▸ .mk ha hd hb⟩
  · cases h

end Inlay.Json
