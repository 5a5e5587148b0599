import Mathlib
import Inlay.Syntax.Lexer

/-! # Strings stand between quotes

    A string token is the decoded form of a stretch of the text that starts with a quote.
    Decoding never makes it longer: every character of the value has a character of its own
    behind the quote, and a line end that an escape skips has two to spare.

    The route:

    * reading a token never goes back: what is left behind the token is an end of what was
      there before (`next_within`, and its likes for the readers on request);
    * an escape stands for at most as many characters as it takes (`readEscape_fits`), hence so
      does the body of a string (`scanString_fits`);
    * so the value of every string token is `Quoted` in the text. -/

namespace Inlay.Syntax

open Inlay.Text

/-- The two marks that open and close a string. -/
def isQuote (c : Char) : Prop := c = '"' ∨ c = '\''

instance (c : Char) : Decidable (isQuote c) := inferInstanceAs (Decidable (_ ∨ _))

/-- The value `v` is spelled in `src` behind a quote.  A string inside a markup tag may hold line
    ends as they are, but then it is closed by its quote; any other string pays two characters for
    a line end, so it does not matter whether it is closed. -/
inductive Quoted (src : List Char) (v : String) : Prop where
  | enclosed (q : Char) (body : List Char) (hq : isQuote q) (hin : q :: body ++ [q] <:+: src)
      (hlen : v.length ≤ body.length)
  | escaped (q : Char) (body : List Char) (hq : isQuote q) (hin : q :: body <:+: src)
      (hlen : v.length + 2 * body.count '\n' ≤ body.length)

def Token.Spelled (src : List Char) : Token → Prop
  | .str v _ => Quoted src v
  | _ => True

/-! ## Escapes -/

theorem mem_takeHex {cs : List Char} {c : Char} (h : c ∈ takeHex cs) : isHex c = true := by
  induction cs with
  | nil => exact nomatch h
  | cons d ds ih =>
      rw [takeHex] at h
      split at h
      · rcases List.mem_cons.mp h with rfl | hmem
        · assumption
        · exact ih hmem
      · exact nomatch h

theorem takeHex_append_drop (cs : List Char) :
    takeHex cs ++ cs.drop (takeHex cs).length = cs := by
  induction cs with
  | nil => rfl
  | cons c cs ih =>
      rw [takeHex]
      split
      · exact congrArg (c :: ·) ih
      · rfl

theorem count_newline_of_isHex {ds : List Char} (h : ∀ c ∈ ds, isHex c = true) :
    ds.count '\n' = 0 := by
  refine List.count_eq_zero.mpr fun hmem => ?_
  exact absurd (h _ hmem) (by decide)

/-- An escape takes a stretch of `cs`, `lead` characters of its spelling stand before it, and all of
    them pay for the characters it stands for. -/
def Escape.Fits (lead : Nat) (cs : List Char) : Escape → Prop
  | .chars vs n _ => ∃ taken rest, cs = taken ++ rest ∧ n + 1 = taken.length + lead ∧
      vs.length + 2 * taken.count '\n' ≤ taken.length + lead
  | .bad _ => True

theorem braced_split {cs : List Char} (h : ¬ (cs.drop (takeHex cs).length).head? != some '\x7d') :
    ∃ rest, cs = takeHex cs ++ '\x7d' :: rest := by
  have hcs := takeHex_append_drop cs
  revert h hcs
  cases cs.drop (takeHex cs).length with
  | nil => exact fun h => absurd rfl h
  | cons c rest =>
      intro h hcs
      obtain rfl : c = '\x7d' := by simpa using h
      exact ⟨rest, hcs.symm⟩

theorem readUnicodeEscape_fits (cs : List Char) : (readUnicodeEscape cs).Fits 2 cs := by
  unfold readUnicodeEscape
  split
  · rename_i cs
    have hz := count_newline_of_isHex fun c (h : c ∈ takeHex cs) => mem_takeHex h
    dsimp only
    split
    · trivial
    split
    · trivial
    split
    · trivial
    rename_i hclose
    obtain ⟨rest, hcs⟩ := braced_split hclose
    -- the braces and the digits are taken, whether or not there is a character for them
    have hsplit : '\x7b' :: cs = ('\x7b' :: takeHex cs ++ ['\x7d']) ++ rest := by
      conv => lhs; rw [hcs]
      simp
    split
    all_goals
      refine ⟨_, rest, hsplit, by simp, ?_⟩
      simp [hz]
  · rename_i a b c d rest _
    dsimp only
    split
    · rename_i hall
      have hz := count_newline_of_isHex fun x hx => List.all_eq_true.mp hall x hx
      split
      all_goals
        refine ⟨[a, b, c, d], rest, rfl, rfl, ?_⟩
        simp [hz]
    · trivial
  · trivial

theorem octalDigits_split (c : Char) (cs : List Char) (h : isOctalDigit c = true) :
    ∃ rest, c :: cs = octalDigits (c :: cs) ++ rest ∧
      (octalDigits (c :: cs)).count '\n' = 0 ∧ octalDigits (c :: cs) ≠ [] := by
  have hne : ∀ d, isOctalDigit d = true → d ≠ '\n' := by
    rintro d hd rfl
    exact absurd hd (by decide)
  unfold octalDigits
  split
  · rename_i a b d rest heq
    obtain ⟨rfl, rfl⟩ := List.cons.inj heq
    split
    · rename_i hd
      simp only [Bool.and_eq_true] at hd
      exact ⟨rest, by simp [hne _ h, hne _ hd.1.1.2, hne _ hd.1.2]⟩
    split
    · rename_i hd
      simp only [Bool.and_eq_true] at hd
      exact ⟨d :: rest, by simp [hne _ h, hne _ hd.2]⟩
    · exact ⟨b :: d :: rest, by simp [hne _ h]⟩
  · rename_i a b rest _ heq
    obtain ⟨rfl, rfl⟩ := List.cons.inj heq
    split
    · rename_i hb
      exact ⟨rest, by simp [hne _ h, hne _ hb]⟩
    · exact ⟨b :: rest, by simp [hne _ h]⟩
  · rename_i h1 h2
    cases cs with
    | nil => exact ⟨[], by simp [hne _ h]⟩
    | cons b rest => exact absurd rfl (h2 c b rest)

theorem readEscape_fits (cs : List Char) : (readEscape cs).Fits 1 cs := by
  unfold readEscape
  split
  case h_1 => trivial
  case h_8 rest => exact ⟨['\r', '\n'], rest, rfl, rfl, by decide⟩
  case h_9 cs =>
    split
    · rename_i a b rest
      split
      · rename_i hab
        have hz : [a, b].count '\n' = 0 := count_newline_of_isHex (by simpa using hab)
        refine ⟨['x', a, b], rest, rfl, rfl, ?_⟩
        simp [List.count_cons_of_ne, hz]
      · trivial
    · trivial
  case h_10 cs =>
    have h := readUnicodeEscape_fits cs
    revert h
    cases readUnicodeEscape cs with
    | bad _ => exact id
    | chars vs n o =>
        rintro ⟨taken, rest, rfl, hn, hv⟩
        exact ⟨'u' :: taken, rest, rfl, by simp; omega, by simp; omega⟩
  case h_11 =>
    rename_i c cs _ _ _ _ _ _ _ _ _
    split
    · exact ⟨[c], cs, rfl, rfl, by simp [List.count_cons]; split <;> omega⟩
    rename_i hline
    have hc : c ≠ '\n' := by
      rintro rfl
      exact hline (by decide)
    split
    · exact ⟨[c], cs, rfl, rfl, by simp [hc]⟩
    split
    · rename_i hoct
      obtain ⟨rest, hsplit, hz, hne⟩ := octalDigits_split c cs hoct
      refine ⟨_, rest, hsplit, rfl, ?_⟩
      have := List.length_pos_iff.mpr hne
      simp only [hz, List.length_singleton]
      omega
    · exact ⟨[c], cs, rfl, rfl, by simp [hc]⟩
  all_goals
    rename_i rest
    exact ⟨[_], rest, rfl, rfl, by decide⟩

/-! ## Strings -/

/-- Reading a string takes a stretch off the front that pays for the value. -/
theorem scanString_fits (quote : Char) (fuel : Nat) (cs : List Char) (p : Nat)
    (value raw : List Char) (oct : Option Nat) :
    ∃ body, body <+: cs ∧ (scanString quote fuel cs p value raw oct).rest <:+ cs ∧
      (scanString quote fuel cs p value raw oct).value.length + 2 * body.count '\n'
        ≤ value.length + body.length := by
  fun_induction scanString quote fuel cs p value raw oct with
  | case1 | case2 => exact ⟨[], List.nil_prefix, List.suffix_refl _, by simp⟩
  | case3 => exact ⟨[], List.nil_prefix, List.suffix_cons _ _, by simp⟩
  | case4 => exact ⟨[], List.nil_prefix, List.suffix_refl _, by simp⟩
  | case5 => exact ⟨[], List.nil_prefix, List.suffix_cons _ _, by simp⟩
  | case6 fuel c cs p value raw oct _ _ hback vs n isOctal hesc ih =>
      obtain rfl : c = '\\' := by simpa using hback
      have hfit := readEscape_fits cs
      rw [hesc] at hfit
      -- what an escape says is shorter than the escape with its backslash
      obtain ⟨taken, rest, rfl, hn, hv⟩ := hfit
      obtain rfl : taken.length = n := by omega
      rw [List.drop_left] at ih
      obtain ⟨body, hbody, hrest, hlen⟩ := ih
      refine ⟨'\\' :: taken ++ body, ?_, ?_, ?_⟩
      · exact List.cons_prefix_cons.mpr ⟨rfl, List.prefix_append_right_inj _ |>.mpr hbody⟩
      · rw [List.drop_left]
        exact hrest.trans ((List.suffix_append _ _).trans (List.suffix_cons _ _))
      · rw [List.drop_left]
        simp at hlen ⊢
        omega
  | case7 fuel c cs p value raw oct _ hline _ ih =>
      obtain ⟨body, hbody, hrest, hlen⟩ := ih
      have hc : c ≠ '\n' := by
        rintro rfl
        exact hline (by decide)
      refine ⟨c :: body, List.cons_prefix_cons.mpr ⟨rfl, hbody⟩,
        hrest.trans (List.suffix_cons _ _), ?_⟩
      simp [hc] at hlen ⊢
      omega

/-! ## Reading never goes back -/

theorem skip_rest (takesBlock takesLine inType : Bool) (lastEnd : Nat) (mode : TriviaMode)
    (cs : List Char) (p : Nat) (t : Trivia) :
    (Trivia.skip takesBlock takesLine inType lastEnd mode cs p t).rest <:+ cs := by
  fun_induction Trivia.skip takesBlock takesLine inType lastEnd mode cs p t
  all_goals first
    | exact List.suffix_refl _
    | (rename_i ih
       exact ih.trans (by simp [List.suffix_cons_iff]))

theorem trivia_rest (c : Cursor) (inType : Bool) : (c.trivia inType).rest <:+ c.rest :=
  skip_rest ..

theorem takeWord_rest (cs : List Char) : (takeWord cs).2 <:+ cs := by
  fun_induction takeWord cs with
  | case1 => exact List.suffix_refl _
  | case2 c cs _ w r heq ih =>
      rw [heq] at ih
      exact ih.trans (List.suffix_cons _ _)
  | case3 => exact List.suffix_refl _

theorem scanDigits_rest (radix : Nat) (cs : List Char) (before : Option Char) :
    (scanDigits radix cs before).rest <:+ cs := by
  fun_induction scanDigits radix cs before with
  | case1 => exact List.suffix_refl _
  | case2 _ _ _ _ _ _ ih => exact ih.trans (List.suffix_cons _ _)
  | case3 _ _ _ _ _ _ ih => exact ih.trans (List.suffix_cons _ _)
  | case4 => exact List.suffix_refl _

/-- A number read from `cs` leaves an end of it, and its token is no string. -/
def NumberScan.Within (cs : List Char) (s : NumberScan) : Prop :=
  s.rest <:+ cs ∧ ∀ src, s.token.Spelled src

theorem NumberScan.Within.checkEnd {cs : List Char} {s : NumberScan} (h : s.Within cs) (p : Nat) :
    (checkNumberEnd p s).Within cs := by
  unfold checkNumberEnd
  split
  · split
    · exact ⟨h.1, fun _ => trivial⟩
    · exact h
  · exact h

theorem scanRadixNumber_within (radix : Nat) (lead cs : List Char) (p : Nat) :
    (scanRadixNumber radix lead cs p).Within cs := by
  have h := scanDigits_rest radix cs none
  unfold scanRadixNumber
  dsimp only
  split
  · exact ⟨h, fun _ => trivial⟩
  split
  · rename_i heq
    rw [heq] at h
    exact ⟨(List.suffix_cons _ _).trans h, fun _ => trivial⟩
  · refine NumberScan.Within.checkEnd ?_ p
    exact ⟨h, fun _ => trivial⟩

theorem scanExponent_rest {cs expo rest : List Char} (h : scanExponent cs = some (expo, rest)) :
    rest <:+ cs := by
  unfold scanExponent at h
  split at h
  · split at h
    · rename_i e cs _
      dsimp only at h
      obtain ⟨-, rfl⟩ := Prod.mk.inj (Option.some.inj h)
      refine (scanDigits_rest ..).trans (List.IsSuffix.trans ?_ (List.suffix_cons _ _))
      split
      · exact List.suffix_cons _ _
      · exact List.suffix_cons _ _
      · exact List.suffix_refl _
    · exact nomatch h
  · exact nomatch h

theorem fraction_within (p : Nat) (whole : DigitScan) (faults : List Problem) :
    (scanNumber.fraction p whole faults).Within whole.rest := by
  unfold scanNumber.fraction
  extract_lets dirty
  split
  rename_i raw rest _ heq
  have hrest : rest <:+ whole.rest := by
    split at heq
    · rename_i r hw
      obtain ⟨-, rfl, -⟩ := heq
      rw [hw]
      exact (scanDigits_rest ..).trans (List.suffix_cons _ _)
    · obtain ⟨-, rfl, -⟩ := heq
      exact List.suffix_refl _
  split
  · rename_i expo rest' hexp
    have hexpo := (scanExponent_rest hexp).trans hrest
    dsimp only
    split
    · exact ⟨hexpo, fun _ => trivial⟩
    · refine NumberScan.Within.checkEnd ?_ p
      exact ⟨hexpo, fun _ => trivial⟩
  · refine NumberScan.Within.checkEnd ?_ p
    exact ⟨hrest, fun _ => trivial⟩

theorem scanDecimal_within (cs : List Char) (p : Nat) :
    (scanNumber.scanDecimal cs p).Within cs := by
  have h := scanDigits_rest 10 cs none
  have hfrac (faults : List Problem) :=
    fraction_within p (scanDigits 10 cs none) faults
  unfold scanNumber.scanDecimal
  dsimp only
  split
  · rename_i heq
    split
    · rw [heq] at h
      exact ⟨(List.suffix_cons _ _).trans h, fun _ => trivial⟩
    · exact ⟨(hfrac _).1.trans h, (hfrac _).2⟩
  · split
    · refine NumberScan.Within.checkEnd ?_ p
      exact ⟨h, fun _ => trivial⟩
    · exact ⟨(hfrac _).1.trans h, (hfrac _).2⟩

theorem scanNumber_within (cs : List Char) (p : Nat) : (scanNumber cs p).Within cs := by
  have hradix (radix : Nat) (x : Char) (rest : List Char) :
      (scanRadixNumber radix ['0', x] rest p).Within ('0' :: x :: rest) :=
    have h := scanRadixNumber_within radix ['0', x] rest p
    ⟨h.1.trans ((List.suffix_cons _ _).trans (List.suffix_cons _ _)), h.2⟩
  unfold scanNumber
  split
  · split
    · exact hradix ..
    split
    · exact hradix ..
    split
    · exact hradix ..
    · exact scanDecimal_within ..
  · exact scanDecimal_within ..

theorem scanWord_rest (fuel : Nat) (cs : List Char) : (scanWord fuel cs).rest <:+ cs := by
  induction fuel generalizing cs with
  | zero => exact List.suffix_refl _
  | succ fuel ih =>
      have h := takeWord_rest cs
      unfold scanWord
      dsimp only
      split
      · rename_i more heq
        rw [heq] at h
        have hmore := (List.suffix_cons _ _).trans h
        split
        · split
          · split
            · exact hmore
            · exact (ih _).trans ((List.drop_suffix _ _).trans hmore)
          · exact hmore
          · exact hmore
        · exact hmore
      · exact h

theorem regexBody_rest {cs out body rest : List Char} {escaped inClass : Bool}
    (h : Cursor.regexBody cs escaped inClass out = some (body, rest)) : rest <:+ cs := by
  fun_induction Cursor.regexBody cs escaped inClass out with
  | case1 | case2 => exact nomatch h
  | case3 _ _ _ _ _ ih => exact (ih h).trans (List.suffix_cons _ _)
  | case4 =>
      obtain ⟨-, rfl⟩ := Prod.mk.inj (Option.some.inj h)
      exact List.suffix_cons _ _
  | case5 _ _ _ _ _ _ _ _ ih => exact (ih h).trans (List.suffix_cons _ _)

theorem scanQuasi_rest (fuel : Nat) (cs : List Char) (p : Nat) (raw : List Char)
    (failed : Option Fault) : (scanQuasi fuel cs p raw failed).rest <:+ cs := by
  fun_induction scanQuasi fuel cs p raw failed with
  | case1 | case2 => exact List.suffix_refl _
  | case3 => exact List.suffix_cons _ _
  | case4 => exact (List.suffix_cons _ _).trans (List.suffix_cons _ _)
  | case5 _ _ _ _ _ _ _ _ ih => exact ih.trans ((List.drop_suffix _ _).trans (List.suffix_cons _ _))
  | case6 _ _ _ _ _ _ _ _ _ ih =>
      exact ih.trans ((List.drop_suffix _ _).trans (List.suffix_cons _ _))
  | case7 _ _ _ _ _ _ _ _ _ ih => exact ih.trans (List.suffix_cons _ _)

theorem takeMarkupName_rest (cs : List Char) : (Cursor.takeMarkupName cs).2 <:+ cs := by
  fun_induction Cursor.takeMarkupName cs with
  | case1 => exact List.suffix_refl _
  | case2 c cs _ w r heq ih =>
      rw [heq] at ih
      exact ih.trans (List.suffix_cons _ _)
  | case3 => exact List.suffix_refl _

theorem scanText_rest (cs : List Char) (p : Nat) (out : List Char) (faults : List Fault) :
    (Cursor.scanText cs p out faults).2.1 <:+ cs := by
  fun_induction Cursor.scanText cs p out faults with
  | case1 | case2 => exact List.suffix_refl _
  | case3 _ _ _ _ _ _ _ ih => exact ih.trans (List.suffix_cons _ _)
  | case4 _ _ _ _ _ _ _ _ ih => exact ih.trans (List.suffix_cons _ _)
  | case5 _ _ _ _ _ _ _ _ ih => exact ih.trans (List.suffix_cons _ _)

/-! ## Tokens -/

/-- A token read off the end `cs` of a text. -/
theorem readToken_spelled {src cs : List Char} (h : cs <:+ src) (mode : LexMode) (p : Nat) :
    (readToken mode cs p).token.Spelled src ∧ (readToken mode cs p).rest <:+ src := by
  unfold readToken
  split
  · exact ⟨trivial, List.nil_suffix⟩
  rename_i c rest
  have hrest : rest <:+ src := (List.suffix_cons _ _).trans h
  dsimp only
  split
  · have hword := (scanWord_rest (rest.length + 2) (c :: rest)).trans h
    split
    · exact ⟨trivial, hword⟩
    · exact ⟨trivial, hword⟩
  split
  · have hnum := scanNumber_within (c :: rest) p
    exact ⟨hnum.2 src, hnum.1.trans h⟩
  split
  · rename_i hq
    obtain ⟨body, hbody, hend, hlen⟩ :=
      scanString_fits c (rest.length + 1) rest (p + 1) [] [c] none
    split
    · exact ⟨trivial, hend.trans hrest⟩
    · refine ⟨.escaped c body (by simpa [isQuote] using hq) ?_ ?_, hend.trans hrest⟩
      · exact (List.cons_prefix_cons.mpr ⟨rfl, hbody⟩).isInfix.trans h.isInfix
      · simpa using hlen
  split
  · exact ⟨trivial, hrest⟩
  split
  · exact ⟨trivial, (List.drop_suffix _ _).trans h⟩
  · exact ⟨trivial, hrest⟩

/-- A cursor stands at an end of the text. -/
def Cursor.Within (src : List Char) (c : Cursor) : Prop := c.rest <:+ src

/-- A token with the place behind it, read from the text. -/
structure Lexed.Within (src : List Char) (l : Lexed) : Prop where
  token : l.token.Spelled src
  after : l.after.Within src

namespace Cursor

variable {src : List Char} {c : Cursor}

theorem past_within (t : Trivia) (token : Token) (lo length : Nat) {rest : List Char}
    (h : rest <:+ src) : (c.past t token lo length rest).Within src := by
  unfold past
  split
  · exact List.nil_suffix
  · exact h

theorem next_within (h : c.Within src) (mode : LexMode) : (c.next mode).Within src :=
  have hread := readToken_spelled ((trivia_rest c mode.inType).trans h) mode _
  ⟨hread.1, past_within _ _ _ _ hread.2⟩

theorem regex_within (h : c.Within src) : c.regex.Within src := by
  have hdrop : (c.trivia false).rest.drop 1 <:+ src :=
    (List.drop_suffix _ _).trans ((trivia_rest c false).trans h)
  unfold regex
  dsimp only
  split
  · rename_i body rest hbody
    have hrest := (regexBody_rest hbody).trans hdrop
    exact ⟨trivial, past_within _ _ _ _ ((takeWord_rest rest).trans hrest)⟩
  · exact ⟨trivial, past_within _ _ _ _ hdrop⟩

theorem quasi_within (h : c.Within src) : c.quasi.rest <:+ src :=
  (scanQuasi_rest ..).trans h

theorem takeWhile_quote_split {q close : Char} {cs after : List Char}
    (h : cs.drop (cs.takeWhile (· != q)).length = close :: after) :
    cs = cs.takeWhile (· != q) ++ q :: after := by
  induction cs with
  | nil => exact nomatch h
  | cons d ds ih =>
      by_cases hd : d = q
      · subst hd
        simp at h ⊢
        exact h.2
      · simp [hd] at h ⊢
        exact ih h

theorem tagToken_within (h : c.Within src) : c.tagToken.Within src := by
  have ht : (c.trivia false).rest <:+ src := (trivia_rest c false).trans h
  unfold tagToken
  dsimp only
  split
  · exact ⟨trivial, past_within _ _ _ _ List.nil_suffix⟩
  rename_i ch cs hcs
  rw [hcs] at ht
  have hcs' : cs <:+ src := (List.suffix_cons _ _).trans ht
  split
  · exact ⟨trivial, past_within _ _ _ _ ((takeMarkupName_rest cs).trans hcs')⟩
  split
  · exact ⟨trivial, past_within _ _ _ _ hcs'⟩
  split
  · rename_i hq
    split
    · rename_i close after hafter
      have hsplit := takeWhile_quote_split hafter
      have hin : ch :: cs.takeWhile (· != ch) ++ [ch] <+: ch :: cs := by
        conv => rhs; rw [hsplit]
        exact ⟨after, by simp⟩
      refine ⟨.enclosed ch _ (by simpa [isQuote] using hq) (hin.isInfix.trans ht.isInfix) ?_,
        past_within _ _ _ _ ?_⟩
      · simp
      · exact (hafter ▸ List.suffix_cons close after).trans ((List.drop_suffix _ _).trans hcs')
    · exact ⟨trivial, past_within _ _ _ _ List.nil_suffix⟩
  split
  · exact ⟨trivial, past_within _ _ _ _ hcs'⟩
  split
  · exact ⟨trivial, past_within _ _ _ _ ((List.drop_suffix _ _).trans ht)⟩
  · exact ⟨trivial, past_within _ _ _ _ hcs'⟩

theorem content_within (h : c.Within src) : c.content.Within src := by
  have hsrc : c.rest <:+ src := h
  unfold content
  dsimp only
  split
  · split
    · rename_i hcs
      rw [hcs] at hsrc
      exact ⟨trivial, past_within _ _ _ _ ((List.suffix_cons _ _).trans hsrc)⟩
    · rename_i hcs
      rw [hcs] at hsrc
      exact ⟨trivial, past_within _ _ _ _ ((List.suffix_cons _ _).trans hsrc)⟩
    · exact ⟨trivial, past_within _ _ _ _ List.nil_suffix⟩
  · exact ⟨trivial, past_within _ _ _ _ ((scanText_rest ..).trans h)⟩

theorem shebang_within (h : c.Within src) {text : String} {c' : Cursor}
    (hs : c.shebang? = some (text, c')) : c'.Within src := by
  unfold shebang? at hs
  split at hs
  · rename_i cs hcs
    obtain ⟨-, rfl⟩ := Prod.mk.inj (Option.some.inj hs)
    have hend : '#' :: '!' :: cs <:+ src := hcs ▸ h
    exact (List.drop_suffix _ _).trans
      ((List.suffix_cons _ _).trans ((List.suffix_cons _ _).trans hend))
  · exact nomatch hs

end Cursor

/-! ## Strings of a text in parentheses

    A text is read as an expression with a line of its own inside parentheses.  The lines around it
    hold no quote, so a string found there lies within the text, save for a line end and a closing
    parenthesis that an escape may have run into. -/

theorem stretch_starts_inside {q : Char} (hq : isQuote q) {text body : List Char}
    (h : q :: body <:+: '(' :: '\n' :: text ++ ['\n', ')']) :
    ∃ pre post, pre ++ q :: body ++ post = text ++ ['\n', ')'] := by
  obtain ⟨pre, post, heq⟩ := h
  match pre, heq with
  | [], heq =>
      obtain rfl : q = '(' := by simpa using (List.cons.inj heq).1
      exact absurd hq (by decide)
  | [a], heq =>
      obtain rfl : q = '\n' := by simpa using (List.cons.inj (List.cons.inj heq).2).1
      exact absurd hq (by decide)
  | a :: b :: pre, heq => exact ⟨pre, post, (List.cons.inj (List.cons.inj heq).2).2⟩

/-- Such a stretch also ends inside, or it runs into the closing line. -/
theorem stretch_ends {q : Char} (hq : isQuote q) {text body : List Char}
    (h : q :: body <:+: '(' :: '\n' :: text ++ ['\n', ')']) :
    body.length < text.length ∨
      ∃ a, a.length < text.length ∧ (body = a ++ ['\n'] ∨ body = a ++ ['\n', ')']) := by
  obtain ⟨pre, post, heq⟩ := stretch_starts_inside hq h
  rcases List.append_eq_append_iff.mp heq with ⟨a, htext, -⟩ | ⟨c, hc, hclose⟩
  · refine Or.inl ?_
    have := congrArg List.length htext
    simp at this
    omega
  -- the closing line starts inside the stretch: it is a part `c` of its end
  rcases List.append_eq_append_iff.mp hc with ⟨a, htext, hbody⟩ | ⟨d, -, hd⟩
  · have hlen := congrArg List.length htext
    cases a with
    | nil =>
        rcases c with - | ⟨x, c⟩
        · exact nomatch hbody
        · obtain rfl : x = '\n' := (List.cons.inj hclose).1.symm
          obtain rfl : q = '\n' := (List.cons.inj hbody).1
          exact absurd hq (by decide)
    | cons x a =>
        have hb : body = a ++ c := (List.cons.inj hbody).2
        simp only [List.length_append, List.length_cons] at hlen
        match c, hclose, hb with
        | [], _, hb =>
            rw [hb, List.append_nil]
            exact Or.inl (by omega)
        | [x], hclose, hb =>
            obtain rfl : '\n' = x := (List.cons.inj hclose).1
            exact Or.inr ⟨a, by omega, .inl hb⟩
        | [x, y], hclose, hb =>
            obtain rfl : '\n' = x := (List.cons.inj hclose).1
            obtain rfl : ')' = y := (List.cons.inj (List.cons.inj hclose).2).1
            exact Or.inr ⟨a, by omega, .inr hb⟩
  · have hmem : q ∈ ['\n', ')'] := by simp [hclose, hd]
    have hnot : ¬ isQuote '\n' ∧ ¬ isQuote ')' := by decide
    rcases List.mem_cons.mp hmem with rfl | hmem
    · exact absurd hq hnot.1
    · exact absurd (List.mem_singleton.mp hmem ▸ hq) hnot.2

/-- A string in the wrapped text is strictly shorter than the text. -/
theorem Quoted.length_lt {text : List Char} {v : String}
    (h : Quoted ('(' :: '\n' :: text ++ ['\n', ')']) v) : v.length < text.length := by
  cases h with
  | enclosed q body hq hin hlen =>
      rcases stretch_ends hq hin with hlt | ⟨a, ha, hclose | hclose⟩
      · simp at hlt
        omega
      · -- the last character of the stretch is its quote, not the end of the text
        obtain ⟨-, hq'⟩ := List.append_inj' hclose rfl
        obtain rfl : q = '\n' := by simpa using hq'
        exact absurd hq (by decide)
      · have hsplit : body ++ [q] = (a ++ ['\n']) ++ [')'] := by simpa using hclose
        obtain ⟨-, hq'⟩ := List.append_inj' hsplit rfl
        obtain rfl : q = ')' := by simpa using hq'
        exact absurd hq (by decide)
  | escaped q body hq hin hlen =>
      rcases stretch_ends hq hin with hlt | ⟨a, ha, rfl | rfl⟩
      · omega
      · simp at hlen
        omega
      · simp at hlen
        omega

end Inlay.Syntax
