import Inlay.Proofs.Json.Grammar

/-! # JSON texts as tokens

    What stands between two blanks or marks of a JSON text is one token of the language: a mark, a
    word, a number or a string.  The string token has the spelling of the string and the value that
    its pieces stand for, and no token is read with a fault.

    `Lexes cs t rest` says that `t` is read from `cs`, whatever stands before, and `rest` is
    left. -/

namespace Inlay.Syntax

open Json Text

/-- From `cs` the token `t` is read without a fault, and `rest` is left behind it. -/
def Lexes (cs : List Char) (t : Token) (rest : List Char) : Prop :=
  ∀ c : Cursor, c.rest = cs → (c.next {}).token = t ∧ (c.next {}).after.rest = rest ∧
    (c.next {}).faults = [] ∧ (c.next {}).moduleFaults = []

/-! ## Characters -/

theorem mem_digits {c : Char} (h : c.isDigit = true) :
    c ∈ ['0', '1', '2', '3', '4', '5', '6', '7', '8', '9'] := by
  have hsmall : ∀ n < 58, 48 ≤ n →
      Char.ofNat n ∈ ['0', '1', '2', '3', '4', '5', '6', '7', '8', '9'] := by decide
  simp only [Char.isDigit, Bool.and_eq_true, decide_eq_true_eq] at h
  have hlo : 48 ≤ c.toNat := h.1
  have hhi : c.toNat ≤ 57 := h.2
  exact Char.ofNat_toNat c ▸ hsmall c.toNat (by omega) hlo

theorem mem_blanks {c : Char} (h : Reader.isBlank c = true) : c ∈ [' ', '\n', '\t', '\r'] := by
  simpa [Reader.isBlank, or_assoc] using h

/-- The characters that may follow a number or a word of a JSON text, in a document or between
    parentheses. -/
def endMarks : List Char := [' ', '\n', '\t', '\r', ',', ']', '\x7d', ')']

/-- A number or a word ends before this text. -/
def Ends (cs : List Char) : Prop := ∃ c ∈ endMarks, ∃ r, cs = c :: r

/-! ## Blanks between tokens -/

theorem skip_blanks (takesBlock takesLine inType : Bool) (lastEnd : Nat) {a : List Char}
    (ha : Blank a) (cs : List Char) (p : Nat) (t : Trivia) :
    ∃ t' : Trivia, t'.faults = t.faults ∧ t'.moduleFaults = t.moduleFaults ∧
      Trivia.skip takesBlock takesLine inType lastEnd .blank (a ++ cs) p t =
        Trivia.skip takesBlock takesLine inType lastEnd .blank cs (p + a.length) t' := by
  induction a generalizing p t with
  | nil => exact ⟨t, rfl, rfl, rfl⟩
  | cons c a ih =>
      have ha' : Blank a := fun x hx => ha x (List.mem_cons_of_mem c hx)
      have hc := mem_blanks (ha c List.mem_cons_self)
      -- a line end is remembered, any other blank changes nothing
      obtain ⟨t₁, hf, hm, hstep⟩ : ∃ t₁ : Trivia, t₁.faults = t.faults ∧
          t₁.moduleFaults = t.moduleFaults ∧
          Trivia.skip takesBlock takesLine inType lastEnd .blank (c :: (a ++ cs)) p t =
            Trivia.skip takesBlock takesLine inType lastEnd .blank (a ++ cs) (p + 1) t₁ := by
        simp only [List.mem_cons, List.not_mem_nil, or_false] at hc
        rcases hc with rfl | rfl | rfl | rfl
        · exact ⟨t, rfl, rfl, by simp [Trivia.skip, isLineEnd, isBlank]⟩
        · exact ⟨{ t with lineBreak := true }, rfl, rfl, by simp [Trivia.skip, isLineEnd]⟩
        · exact ⟨t, rfl, rfl, by simp [Trivia.skip, isLineEnd, isBlank]⟩
        · exact ⟨{ t with lineBreak := true }, rfl, rfl, by simp [Trivia.skip, isLineEnd]⟩
      obtain ⟨t', hf', hm', hskip⟩ := ih ha' (p + 1) t₁
      refine ⟨t', hf'.trans hf, hm'.trans hm, ?_⟩
      rw [List.cons_append, hstep, hskip, List.length_cons, Nat.add_assoc, Nat.add_comm 1]

/-- A text that starts with a token of its own: no blank, no comment, no mark of a merge. -/
def StartsToken (cs : List Char) : Prop :=
  ∀ (takesBlock takesLine inType : Bool) (lastEnd p : Nat) (t : Trivia),
    Trivia.skip takesBlock takesLine inType lastEnd .blank cs p t = { t with rest := cs, pos := p }

theorem startsToken_cons {c : Char} (cs : List Char) (h : c ∉ ['/', '<', '-', '=', '>'])
    (hend : isLineEnd c = false) (hblank : isBlank c = false) : StartsToken (c :: cs) := by
  intro takesBlock takesLine inType lastEnd p t
  simp only [List.mem_cons, List.not_mem_nil, or_false, not_or] at h
  obtain ⟨hslash, hlt, hminus, heq, hgt⟩ := h
  have hmark : isConflictMark inType (c :: cs) = false := by
    have h₁ : ('=' == c) = false := by simpa using Ne.symm heq
    have h₂ : ('<' == c) = false := by simpa using Ne.symm hlt
    have h₃ : ('>' == c) = false := by simpa using Ne.symm hgt
    simp [isConflictMark, List.isPrefixOf, h₁, h₂, h₃]
  rw [Trivia.skip]
  · simp [hend, hblank, hmark]
  all_goals simp_all

theorem lexes_of_readToken {a cs rest : List Char} {t : Token} (ha : Blank a) (hs : StartsToken cs)
    (ht : t = .eof → rest = []) (h : ∀ p, ∃ n,
      readToken {} cs p = { token := t, length := n, rest }) :
    Lexes (a ++ cs) t rest := by
  intro c hc
  obtain ⟨tr, hrest, hf, hm⟩ : ∃ tr : Trivia, (tr = c.trivia false ∧ tr.rest = cs) ∧
      tr.faults = [] ∧ tr.moduleFaults = [] := by
    unfold Cursor.trivia
    obtain ⟨t', hf, hm, hskip⟩ := skip_blanks ((c.last.map Token.takesComment).getD false)
      ((c.last.map Token.takesLineComment).getD true) false c.lastEnd ha cs c.pos
      { rest := c.rest, pos := c.pos, lineBreak := c.last.isNone, pending := c.pending,
        attached := c.attached }
    rw [hs] at hskip
    refine ⟨{ t' with rest := cs, pos := c.pos + a.length }, ⟨?_, rfl⟩, hf, hm⟩
    rw [← hskip, ← hc]
    cases c.last <;> rfl
  obtain ⟨rfl, hrest⟩ := hrest
  obtain ⟨n, hread⟩ := h (c.trivia false).pos
  rw [← hrest] at hread
  have hpast : (c.past (c.trivia false) t (c.trivia false).pos n rest).rest = rest := by
    unfold Cursor.past
    split
    · exact (ht rfl).symm
    · rfl
  unfold Cursor.next
  simp only [hread, hf, hm]
  exact ⟨trivial, hpast, rfl, rfl⟩

/-! ## Marks -/

/-- The marks of JSON texts, with the parentheses that are put around them. -/
def marks : List (Char × Punct) :=
  [('(', .lparen), (')', .rparen), ('[', .lbrack), (']', .rbrack), ('\x7b', .lbrace),
   ('\x7d', .rbrace), (',', .comma), (':', .colon)]

theorem lexes_mark {a : List Char} {c : Char} {q : Punct} (ha : Blank a) (h : (c, q) ∈ marks)
    (rest : List Char) : Lexes (a ++ c :: rest) (.punct q) rest := by
  simp only [marks, List.mem_cons, Prod.mk.injEq, List.not_mem_nil, or_false] at h
  rcases h with ⟨rfl, rfl⟩ | ⟨rfl, rfl⟩ | ⟨rfl, rfl⟩ | ⟨rfl, rfl⟩ | ⟨rfl, rfl⟩ | ⟨rfl, rfl⟩ |
    ⟨rfl, rfl⟩ | ⟨rfl, rfl⟩
  all_goals
    refine lexes_of_readToken ha (startsToken_cons rest ?_ ?_ ?_) (nofun) fun _ => ⟨1, rfl⟩
  all_goals decide

/-- The sign of a number is a token of its own. -/
theorem lexes_minus {a : List Char} {d : Char} (ha : Blank a) (hd : d.isDigit = true)
    (rest : List Char) : Lexes (a ++ '-' :: d :: rest) (.punct (.binary .sub)) (d :: rest) := by
  have hmem := mem_digits hd
  simp only [List.mem_cons, List.not_mem_nil, or_false] at hmem
  have hs : StartsToken ('-' :: d :: rest) := by
    intro takesBlock takesLine inType lastEnd p t
    rcases hmem with rfl | rfl | rfl | rfl | rfl | rfl | rfl | rfl | rfl | rfl
    all_goals simp [Trivia.skip, isLineEnd, isBlank, isConflictMark, List.isPrefixOf]
  refine lexes_of_readToken ha hs (nofun) fun _ => ⟨1, ?_⟩
  rcases hmem with rfl | rfl | rfl | rfl | rfl | rfl | rfl | rfl | rfl | rfl
  all_goals rfl

theorem lexes_eof {a : List Char} (ha : Blank a) : Lexes a .eof [] := by
  have h : Lexes (a ++ []) .eof [] :=
    lexes_of_readToken ha (fun _ _ _ _ _ _ => rfl) (fun _ => rfl) fun _ => ⟨0, rfl⟩
  rwa [List.append_nil] at h

/-! ## Words -/

def WordEnds (cs : List Char) : Prop := ∃ c r, cs = c :: r ∧ isWordPart c = false ∧ c ≠ '\\'

theorem Ends.wordEnds {cs : List Char} (h : Ends cs) : WordEnds cs := by
  obtain ⟨c, hc, r, rfl⟩ := h
  have hall : ∀ c ∈ endMarks, isWordPart c = false ∧ c ≠ '\\' := by decide
  exact ⟨c, r, rfl, hall c hc⟩

theorem takeWord_append {w rest : List Char} (hw : ∀ c ∈ w, isWordPart c = true)
    (h : WordEnds rest) : takeWord (w ++ rest) = (w, rest) := by
  induction w with
  | nil =>
      obtain ⟨c, r, rfl, hc, -⟩ := h
      simp [takeWord, hc]
  | cons c w ih =>
      rw [List.cons_append, takeWord, if_pos (hw c List.mem_cons_self),
        ih fun x hx => hw x (List.mem_cons_of_mem c hx)]

theorem scanWord_append {w rest : List Char} (hw : ∀ c ∈ w, isWordPart c = true) (h : WordEnds rest)
    (fuel : Nat) : scanWord (fuel + 1) (w ++ rest) = { name := w, rest, length := w.length } := by
  obtain ⟨c, r, rfl, hc, hescape⟩ := h
  rw [scanWord, takeWord_append hw ⟨c, r, rfl, hc, hescape⟩]
  simp [hescape]

theorem readToken_word {c : Char} {w rest : List Char} (hc : isWordStart c = true)
    (hw : ∀ x ∈ c :: w, isWordPart x = true) (h : WordEnds rest) (p : Nat) :
    readToken {} (c :: w ++ rest) p =
      { token := .word (String.ofList (c :: w)) false, length := w.length + 1, rest } := by
  have hscan := scanWord_append hw h ((w ++ rest).length + 1)
  rw [List.cons_append] at hscan ⊢
  rw [readToken]
  simp only [hc, Bool.true_or, if_true, hscan]
  rfl

def literalWords : List (List Char) :=
  [['n', 'u', 'l', 'l'], ['t', 'r', 'u', 'e'], ['f', 'a', 'l', 's', 'e']]

theorem lexes_word {a w rest : List Char} (ha : Blank a) (hw : w ∈ literalWords) (h : Ends rest) :
    Lexes (a ++ (w ++ rest)) (.word (String.ofList w) false) rest := by
  simp only [literalWords, List.mem_cons, List.not_mem_nil, or_false] at hw
  rcases hw with rfl | rfl | rfl
  all_goals
    refine lexes_of_readToken ha (startsToken_cons _ ?_ ?_ ?_) (nofun)
      fun p => ⟨_, readToken_word ?_ ?_ h.wordEnds p⟩
  all_goals decide

/-! ## Numbers -/

def NoDigit (cs : List Char) : Prop := ∀ c r, cs = c :: r → c ≠ '_' ∧ isDigitOf 10 c = false

theorem isDigitOf_ten {c : Char} (h : c.isDigit = true) : isDigitOf 10 c = true ∧ c ≠ '_' := by
  have hall : ∀ c ∈ ['0', '1', '2', '3', '4', '5', '6', '7', '8', '9'],
      isDigitOf 10 c = true ∧ c ≠ '_' := by decide
  exact hall c (mem_digits h)

theorem isDigit_of {c : Char} (h : c.isDigit = true) : isDigit c = true := by
  have hall : ∀ c ∈ ['0', '1', '2', '3', '4', '5', '6', '7', '8', '9'],
    isDigit c = true := by decide
  exact hall c (mem_digits h)

/-- A digit is none of the marks that may stand in a number. -/
theorem isDigit_ne {c : Char} (h : c.isDigit = true) : c ≠ '+' ∧ c ≠ '-' ∧ c ≠ '.' := by
  have hall : ∀ c ∈ ['0', '1', '2', '3', '4', '5', '6', '7', '8', '9'],
      c ≠ '+' ∧ c ≠ '-' ∧ c ≠ '.' := by decide
  exact hall c (mem_digits h)

theorem scanDigits_append {ds rest : List Char} (hds : Digits ds) (h : NoDigit rest)
    (before : Option Char) :
    scanDigits 10 (ds ++ rest) before = ⟨ds, rest, true, !ds.isEmpty⟩ := by
  induction ds generalizing before with
  | nil =>
      match rest, h with
      | [], _ => rfl
      | c :: r, h =>
          obtain ⟨hsep, hdigit⟩ := h c r rfl
          simp [scanDigits, hsep, hdigit]
  | cons d ds ih =>
      obtain ⟨hdigit, hsep⟩ := isDigitOf_ten (hds d List.mem_cons_self)
      rw [List.cons_append, scanDigits, ih fun c hc => hds c (List.mem_cons_of_mem d hc)]
      simp [hsep, hdigit]

theorem Ends.noDigit {rest : List Char} (h : Ends rest) : NoDigit rest := by
  rintro c r rfl
  obtain ⟨d, hd, r', heq⟩ := h
  obtain ⟨rfl, rfl⟩ := List.cons.inj heq
  have hall : ∀ c ∈ endMarks, c ≠ '_' ∧ isDigitOf 10 c = false := by decide
  exact hall c hd

theorem scanExponent_append {e rest : List Char} (he : Exponent e) (h : Ends rest) :
    (e = [] ∧ scanExponent (e ++ rest) = none) ∨
      (scanExponent (e ++ rest) = some (e, rest) ∧ e.getLast?.map isDigit = some true) := by
  cases he with
  | none =>
      refine .inl ⟨rfl, ?_⟩
      obtain ⟨c, hc, r, rfl⟩ := h
      simp only [endMarks, List.mem_cons, List.not_mem_nil, or_false] at hc
      rcases hc with rfl | rfl | rfl | rfl | rfl | rfl | rfl | rfl <;> rfl
  | @some c d sign ds hc hs hds =>
      have hdigits := scanDigits_append hds h.noDigit none
      have hd := isDigit_ne (hds d List.mem_cons_self)
      refine .inr ⟨?_, ?_⟩
      · rcases hc with rfl | rfl <;> rcases hs with rfl | rfl | rfl
        all_goals simp_all [scanExponent]
      · have hlast : (c :: (sign ++ d :: ds)).getLast? = some ((d :: ds).getLast (by simp)) := by
          rw [← List.cons_append, List.getLast?_append, List.getLast?_eq_some_getLast (by simp)]
          rfl
        rw [hlast, Option.map_some, isDigit_of (hds _ (List.getLast_mem _))]

/-- What follows the fraction of a number: its exponent or the end. -/
theorem exponent_head {e rest : List Char} (he : Exponent e) (h : Ends rest) :
    ∃ c ∈ 'e' :: 'E' :: endMarks, ∃ r, e ++ rest = c :: r := by
  cases he with
  | some hc hs hds => exact ⟨_, by rcases hc with rfl | rfl <;> decide, _, rfl⟩
  | none =>
      obtain ⟨c, hc, r, rfl⟩ := h
      exact ⟨c, List.mem_cons_of_mem _ (List.mem_cons_of_mem _ hc), r, rfl⟩

/-- What follows the whole part of a number: its fraction, its exponent or the end. -/
theorem fraction_head {f e rest : List Char} (hf : Fraction f) (he : Exponent e) (h : Ends rest) :
    ∃ c ∈ '.' :: 'e' :: 'E' :: endMarks, ∃ r, f ++ (e ++ rest) = c :: r := by
  cases hf with
  | some hds => exact ⟨'.', List.mem_cons_self, _, rfl⟩
  | none =>
      obtain ⟨c, hc, r, hcr⟩ := exponent_head he h
      exact ⟨c, List.mem_cons_of_mem _ hc, r, hcr⟩

theorem fraction_noDigit {f e rest : List Char} (hf : Fraction f) (he : Exponent e)
    (h : Ends rest) :
    NoDigit (f ++ (e ++ rest)) := by
  intro c r heq
  obtain ⟨d, hd, r', hdr⟩ := fraction_head hf he h
  obtain rfl : d = c := (List.cons.inj (hdr.symm.trans heq)).1
  have hall : ∀ c ∈ '.' :: 'e' :: 'E' :: endMarks, c ≠ '_' ∧ isDigitOf 10 c = false := by decide
  exact hall d hd

theorem checkNumberEnd_ends {s : NumberScan} (h : Ends s.rest) (p : Nat) :
    checkNumberEnd p s = s := by
  obtain ⟨c, hc, r, hrest⟩ := h
  have hall : ∀ c ∈ endMarks, isWordStart c = false := by decide
  simp [checkNumberEnd, hrest, hall c hc]

theorem fraction_append {w f e rest : List Char} (hf : Fraction f) (he : Exponent e) (h : Ends rest)
    (p : Nat) (b : Bool) :
    scanNumber.fraction p ⟨w, f ++ (e ++ rest), true, b⟩ [] =
      { token := .num (String.ofList (w ++ f ++ e)), rest, length := (w ++ f ++ e).length } := by
  have hexp := scanExponent_append he h
  unfold scanNumber.fraction
  cases hf with
  | none =>
      obtain ⟨c, hmem, r, hcr⟩ := exponent_head he h
      have hall : ∀ c ∈ 'e' :: 'E' :: endMarks, c ≠ '.' := by decide
      have hc := hall c hmem
      rw [List.nil_append, hcr]
      rw [hcr] at hexp
      rcases hexp with ⟨rfl, hnone⟩ | ⟨hsome, hlast⟩
      · obtain rfl : rest = c :: r := hcr
        simp [hc, hnone, checkNumberEnd_ends, h]
      · simp [hc, hsome, hlast, checkNumberEnd_ends, h]
  | @some d ds hds =>
      have hdigits : scanDigits 10 (d :: (ds ++ (e ++ rest))) none
          = ⟨d :: ds, e ++ rest, true, true⟩ :=
        scanDigits_append hds (fraction_noDigit .none he h) none
      rcases hexp with ⟨rfl, hnone⟩ | ⟨hsome, hlast⟩
      · rw [List.nil_append] at hnone hdigits
        simp [hdigits, hnone, checkNumberEnd_ends, h]
      · simp [hdigits, hsome, hlast, checkNumberEnd_ends, h]

theorem whole_digits {w : List Char} (hw : Whole w) : Digits w := by
  cases hw with
  | zero =>
      intro c hc
      rw [List.mem_singleton.mp hc]
      decide
  | other hc hz hds =>
      intro x hx
      rcases List.mem_cons.mp hx with rfl | hx
      · exact hc
      · exact hds x hx

/-- A number behind its sign is read as it is spelled. -/
theorem scanNumber_append {w f e rest : List Char} (hw : Whole w) (hf : Fraction f)
    (he : Exponent e)
    (h : Ends rest) (p : Nat) :
    scanNumber (w ++ (f ++ (e ++ rest))) p =
      { token := .num (String.ofList (w ++ f ++ e)), rest, length := (w ++ f ++ e).length } := by
  obtain ⟨c, hmem, r, hcr⟩ := fraction_head hf he h
  have hall : ∀ c ∈ '.' :: 'e' :: 'E' :: endMarks, c ∉ ['n', 'x', 'X', 'o', 'O', 'b', 'B'] := by
    decide
  have hc := hall c hmem
  have hdecimal : scanNumber.scanDecimal (w ++ (f ++ (e ++ rest))) p =
      scanNumber.fraction p ⟨w, f ++ (e ++ rest), true, !w.isEmpty⟩ [] := by
    unfold scanNumber.scanDecimal
    rw [scanDigits_append (whole_digits hw) (fraction_noDigit hf he h)]
    have hlegacy : (w.head? == some '0' && decide (w.length > 1)) = false := by
      cases hw with
      | zero => rfl
      | other hc hz hds => simp [hz]
    simp only [hlegacy]
    split
    · rename_i r' heq
      obtain rfl : c = 'n' := (List.cons.inj (hcr.symm.trans heq)).1
      exact absurd List.mem_cons_self hc
    · rfl
  rw [← fraction_append hf he h p, ← hdecimal]
  unfold scanNumber
  split
  · rename_i x r' heq
    -- no radix is given behind a leading zero
    have hx : x = c := by
      cases hw with
      | zero => exact (List.cons.inj ((List.cons.inj heq).2.symm.trans hcr)).1
      | other _ hz _ => exact absurd (List.cons.inj heq).1 hz
    simp only [List.mem_cons, List.not_mem_nil, or_false, not_or] at hc
    simp [hx, hc]
  · rfl

theorem lexes_number {a ds rest : List Char} (ha : Blank a) (hds : Numeral ds) (h : Ends rest) :
    Lexes (a ++ (ds ++ rest)) (.num (String.ofList ds)) rest := by
  obtain ⟨hw, hf, he⟩ := hds
  rename_i w f e
  have hscan := scanNumber_append hw hf he h
  obtain ⟨c, w', rfl⟩ : ∃ c w', w = c :: w' := by cases hw <;> exact ⟨_, _, rfl⟩
  have hall : ∀ c ∈ ['0', '1', '2', '3', '4', '5', '6', '7', '8', '9'],
      c ∉ ['/', '<', '-', '=', '>'] ∧ isLineEnd c = false ∧ isBlank c = false ∧
        isWordStart c = false ∧ c ≠ '\\' ∧ isDigit c = true := by decide
  obtain ⟨hmark, hend, hblank, hstart, hescape, hdigit⟩ :=
    hall c (mem_digits (whole_digits hw c List.mem_cons_self))
  rw [List.append_assoc, List.append_assoc]
  refine lexes_of_readToken ha (startsToken_cons _ hmark hend hblank) (nofun) fun p =>
    ⟨(c :: w' ++ f ++ e).length, ?_⟩
  rw [List.cons_append] at hscan ⊢
  rw [readToken]
  simp [hstart, hescape, hdigit, hscan]

/-! ## Strings -/

theorem hexDigit?_eq (c : Char) : Text.hexDigit? c = Reader.hexDigit? c := by
  have hdigit : c.isDigit = true ↔ '0' ≤ c ∧ c ≤ '9' := by
    simp [Char.isDigit, Char.le_def]
  simp only [Text.hexDigit?, Reader.hexDigit?, hdigit, Bool.and_eq_true, decide_eq_true_eq]
  split
  · rfl
  split
  · rename_i h
    have hlo : 97 ≤ c.toNat := h.1
    show some (c.toNat - 97 + 10) = some (c.toNat - 87)
    rw [show c.toNat - 97 + 10 = c.toNat - 87 by omega]
  split
  · rename_i h
    have hlo : 65 ≤ c.toNat := h.1
    show some (c.toNat - 65 + 10) = some (c.toNat - 55)
    rw [show c.toNat - 65 + 10 = c.toNat - 55 by omega]
  · rfl

theorem hexValue_eq (cs : List Char) :
    hexValue cs = cs.foldl (fun n x => n * 16 + (Reader.hexDigit? x).getD 0) 0 := by
  simp only [hexValue, hexDigit?_eq]

theorem readUnicodeEscape_code {a b c d : Char} (h : (Piece.code a b c d).Legal) (cs : List Char) :
    readUnicodeEscape (a :: b :: c :: d :: cs) = .chars (Piece.code a b c d).chars 5 false := by
  have hbrace : a ≠ '\x7b' := by
    rintro rfl
    exact absurd (h _ List.mem_cons_self) (by decide)
  have hhex : [a, b, c, d].all isHex = true := by
    rw [List.all_eq_true]
    intro x hx
    rw [isHex, hexDigit?_eq]
    exact h x hx
  rw [readUnicodeEscape]
  · simp only [hhex, if_true, hexValue_eq, Piece.chars]
    cases charOfCode? ([a, b, c, d].foldl (fun n x =>
      n * 16 + (Reader.hexDigit? x).getD 0) 0) <;> rfl
  · exact hbrace

theorem scanString_piece {x : Piece} (h : x.Legal) (fuel : Nat) (cs : List Char) (p : Nat)
    (value raw : List Char) :
    scanString '"' (fuel + 1) (x.text ++ cs) p value raw none =
      scanString '"' fuel cs (p + x.text.length) (x.chars.reverse ++ value) (x.text.reverse ++ raw)
        none := by
  cases x with
  | plain c =>
      obtain ⟨hcontrol, hquote, hescape⟩ := h
      have hn : c ≠ '\n' := by
        rintro rfl
        exact absurd hcontrol (by decide)
      have hr : c ≠ '\r' := by
        rintro rfl
        exact absurd hcontrol (by decide)
      simp [Piece.text, Piece.chars, scanString, hquote, hescape, hn, hr]
  | short c =>
      have hc : c ∈ ['"', '\\', '/', 'b', 'f', 'n', 'r', 't'] := by
        simp only [Piece.Legal] at h
        unfold Reader.simpleEscape? at h
        split at h <;> simp_all
      simp only [List.mem_cons, List.not_mem_nil, or_false] at hc
      rcases hc with rfl | rfl | rfl | rfl | rfl | rfl | rfl | rfl
      all_goals rfl
  | code a b c d => simp [Piece.text, scanString, readEscape, readUnicodeEscape_code h]

theorem scanString_pieces {ps : List Piece} (hps : ∀ x ∈ ps, x.Legal) (rest : List Char)
    (fuel p : Nat)
    (value raw : List Char) (hfuel : ps.length < fuel) :
    ∃ q, scanString '"' fuel (ps.flatMap Piece.text ++ '"' :: rest) p value raw none =
      { value := (decoded ps).reverse ++ value
        raw := '"' :: ((ps.flatMap Piece.text).reverse ++ raw), rest, pos := q } := by
  induction ps generalizing fuel p value raw with
  | nil =>
      match fuel, hfuel with
      | fuel + 1, _ => exact ⟨p + 1, rfl⟩
  | cons x ps ih =>
      match fuel, hfuel with
      | fuel + 1, hfuel =>
          obtain ⟨q, hq⟩ := ih (fun y hy => hps y (List.mem_cons_of_mem x hy)) fuel
            (p + x.text.length) (x.chars.reverse ++ value) (x.text.reverse ++ raw)
            (Nat.lt_of_succ_lt_succ hfuel)
          refine ⟨q, ?_⟩
          rw [List.flatMap_cons, List.append_assoc, scanString_piece (hps x List.mem_cons_self), hq]
          simp [decoded]

theorem length_le_flatMap_text (ps : List Piece) : ps.length ≤ (ps.flatMap Piece.text).length := by
  induction ps with
  | nil => exact Nat.le_refl 0
  | cons x ps ih =>
      have hx : 1 ≤ x.text.length := by cases x <;> simp [Piece.text]
      rw [List.flatMap_cons, List.length_append, List.length_cons]
      omega

theorem lexes_string {a : List Char} {ps : List Piece} (ha : Blank a) (hps : ∀ x ∈ ps, x.Legal)
    (rest : List Char) :
    Lexes (a ++ (quoted ps ++ rest))
      (.str (String.ofList (decoded ps)) (String.ofList (quoted ps))) rest := by
  have htext : quoted ps ++ rest = '"' :: (ps.flatMap Piece.text ++ '"' :: rest) := by
    simp [Json.quoted]
  rw [htext]
  refine lexes_of_readToken ha (startsToken_cons _ (by decide) (by decide) (by decide))
    (by rintro ⟨⟩)
    fun p => ?_
  have hfuel : ps.length < (ps.flatMap Piece.text ++ '"' :: rest).length + 1 := by
    have := length_le_flatMap_text ps
    rw [List.length_append]
    omega
  obtain ⟨q, hq⟩ := scanString_pieces hps rest _ (p + 1) [] ['"'] hfuel
  refine ⟨q - p, ?_⟩
  generalize ps.flatMap Piece.text ++ '"' :: rest = body at hq
  have hstart : isWordStart '"' = false := by decide
  have hdigit : isDigit '"' = false := by decide
  simp [readToken, hstart, hdigit, hq, Json.quoted]

end Inlay.Syntax
