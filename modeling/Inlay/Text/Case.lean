import Inlay.Text.Ranges

/-! # Upper and lower case

    Case mappings of characters.  Runs of characters that move by the same distance are stored as
    one entry; in an alternating run every second character moves. -/

namespace Inlay.Text

def upperRuns : Array Mapping := Mapping.ofTexts
  "dT+Z+BcHbR+W+BC+G+BBC+bU+CCC+E+CD+O+CD+bS+CD+E+CB+BD+C+CDEGDE+BED+E+CDFDE+C+CDECG+BC+BC+BC+O+C
   BC+Q+CD+BCE+bM+CE+Q+CJD+B+BCF+I+CB+EC+B+BCC+BE+BCC+BC+EDC+BDIDC+BE+CB+B+BBGL+BgLbS+C+CEE+C+BbV
   B+C+BC+Q+BBB+I+BBB+B+BC+BE+CC+W+CB+DCDDcB+bF+BB+P+BC+bG+CK+cA+CD+M+CBC+dQ+CbY+bL+BehE+bQ+B
   D+C+BbdH+F+BdfV+CB+B+BB+DjHEReL+fS+CGG+dQ+CB+H+BJ+F+BL+H+BJ+H+BJ+F+BM+G+CJ+H+BJ+B+BB+D+BB+B+B
   B+B+BB+B+BB+B+BbZ+B+BNS+B+BP+B+BEnXbI+P+BFbgM+Z+BctR+bV+BCE+BC+E+CHDL+dU+CJ+C+CFN+bL+BCG
   btwE+bS+CU+bA+CfG+M+CE+cI+CL+C+CD+I+CFF+C+CBD+S+CM+O+CF+C+CHG+C+CbDbhDbD+dB+BbfqG+Z+BbvI+bN+B
   fH+bJ+BgA+K+BC+O+BC+G+BC+B+BcrC+bY+BemG+bF+BbgjX+bF+BbulN+bH+B"
  "fAcoCceHbWmIjFoBrYObIdQwPbmEoVKIMhUhFmScFjVOKGIKIeOdXAGAGAGeVgEbMAGIdGbYbgaGbfzTKbfyGDGbgnLKGM
   CevvAevuTevuWevuTevsKcGevuJBevuUdpjZdpjYevuFbglGbglDEbgkGbgjRevvIevvBevtOevtDlOlHlKkXevsODeuhH
   dDMkKjDESbKAbTEIMbCLdQSeTOgUjJbShOGbSbFhKdGeGBbGhMrsGdMgrHmaLEUGCQeIesqIxQdpgDdplUeajBhKeYiAbG
   bGbGbGbIbEgIbCbKcIbBbGfBvhTvkGbGIzCdOcSclAfnOhKbfxZIbfyGWGWiGOvlRdAMejfAeYmMbGfMKbAKeAdNcIbMSM
   cKfBeidXgwjQdrYnOoUYbGQfgIjeUcmwEdozG"

def lowerRuns : Array Mapping := Mapping.ofTexts
  "cN+Z+BdY+W+BC+G+BbI+bU+CE+E+CD+O+CD+bS+CCB+E+CEB+C+CC+BC+B+BBD+DC+BC+CE+BCB+E+CC+BCDC+BC+B+B
   B+C+CC+BEI+BC+BCB+Q+CD+Q+CDB+C+CC+BB+bM+CCC+Q+CI+BC+BDC+CB+I+ClE+C+CEJHC+C+BCC+B+BC+Q+BC+I+BbK
   J+W+CGDC+BD+C+BB+P+BB+bF+BbX+bG+CK+cA+CCB+M+CD+dQ+CD+bL+BehE+bL+BCGbbV+dB+BB+F+BdgT+bQ+BD+C+B
   mJ+fS+CKC+dQ+CK+H+BJ+F+BL+H+BJ+H+BJ+F+BM+G+CJ+H+BZ+H+BJ+H+BJ+H+BJ+B+BB+B+BBM+D+BBM+B+BB+B+B
   N+B+BB+B+BBM+B+BB+B+BBlME+BHbU+P+BUbfN+Z+BcsV+bV+BbXC+CD+E+CC+DCDJ+B+BB+dU+CJ+C+CFbtyK+bS+C
   U+bA+CfG+M+CE+cI+CL+C+CCB+I+CFCD+C+CE+S+CC+EC+DB+O+CC+CB+C+CHG+C+CbDbhaI+Z+BbvA+bN+BfH+bJ+B
   gB+K+BC+O+BC+G+BC+B+BcqD+bY+BenM+bF+BbgjX+bF+BbulL+bH+B"
  "hMjUbWSdWObIfVjMqSpZqCpRpWpNgGjOEpLpWGMBpXqMGGqHrEqPqWqLqWqPqUqLrCqRISAGAGAbMbOAhFdGeMgZkGbgaE
   bfyFmLbgkUbfxVoXuKGfHwYMjOfLCcKCcDbKbOEcNeYLSjVqKcLdUdGfGZbElCbeaGdAMdrqKeksTckDdMjwIwbRwoAhI
   bGbGbGbGbIbEcMbGbGbGeXfEeZgGbAgXiEhViGiJIjEviPcoHjKyoGcQbOcmYfpGdUbfuHunCulRbftMbfwVcMcNEbfxQG
   bfzHbgaEiGOdnwUeYmMbGfMeanPeaoAbAevcFevcQMevcZTKWDeAbTbSexuIctFcNevaPumQeasASMcKcodAdsOnOoSYbG
   QfiGjcIcmwEdozK"

def longUppers : Array Mapping := Mapping.ofTexts
  "iPeCgLqAbGsDjmT+EhACCCbQ+H+BB+H+BB+H+BB+H+BB+H+BB+H+BD+CC+BFG+CC+BFG+BD+BL+CC+BL+CC+BFdeyM+G
   N+E"
  "gK+gKbvM+JbwD+ccAcnE+H+chEY+A+AbeU+btCdsZ+bpXY+dDG+EE+AbV+fVcoU+gOA+A+BA+A+CA+A+fAutI+kIA+A
   cM+AA+AeY+AA+AgI+AviN+AV+AW+gRA+A+gSA+gSvjU+AvjH+AbB+AbC+gRA+A+AA+gSE+lD+lTA+A+CA+eMA+eL+fA
   Y+A+fBA+A+CH+WI+dQA+eL+fAvlY+lEvlP+AbZ+AcA+gRA+A+gSA+gScoR+cnLA+GA+GA+L+cnFA+A+GbA+bCA+A
   dtI+dtKA+bHA+MU+WT+R"

/-- The first character that a table maps a character to, if any, else the character itself. -/
def mappedBy (ms : Array Mapping) (c : Nat) : Nat :=
  match Mapping.find? ms c with
  | some m => (m.apply c).headD c
  | none => c

def simpleUpper (c : Nat) : Nat := mappedBy upperRuns c

def simpleLower (c : Nat) : Nat := mappedBy lowerRuns c

/-- Characters that differ in case only, where there are more than two of them or where upper and
    lower case do not lead from one to all others. -/
def caseGroups : List (List Nat) := groups
  "cX+eD+moOdF+eL+oTgZ+bjO+bkUhP+iV+moPiP+lpMlTrK+rL+rMrN+rO+rPrQ+rR+rStD+tE+tFbgF+bjL+bkR+maO
   bjC+mbJbjE+bkK+blObjH+bkN+bmZbjK+bkQ+blP+bmYbjM+bkS+bmUbjS+bkY+blUbjT+bkZ+bmVbjV+blA+blB
   bjY+blE+blTbkB+blH+moKbkI+mbZboC+bpI+kuQboE+bpK+kuRboO+bpU+kuSboR+bpX+kuTboS+bpY+kuU+kuV
   bpA+bqG+kuWbrE+brF+kuXkuY+ckzI+ckzJlnC+lnD+lpJlyE+lyMlyF+lyNlyG+lyOlyH+lyPlyI+lyQlyJ+lyR
   lyK+lySlyL+lyTlyU+lzClyV+lzDlyW+lzElyX+lzFlyY+lzGlyZ+lzHlzA+lzIlzB+lzJlzK+lzSlzL+lzTlzM+lzU
   lzN+lzVlzO+lzWlzP+lzXlzQ+lzYlzR+lzZmaD+maMmaT+mbCmcP+mcYdrbP+drbQ"

/-- All characters that differ from one in case only, and the character itself. -/
def caseVariants (c : Nat) : List Nat :=
  match caseGroups.find? (·.contains c) with
  | some g => g
  | none => [c, simpleLower c, simpleUpper c]

/-- The character that stands for all that differ from it in case only. -/
def foldedCase (c : Nat) : Nat :=
  match caseGroups.find? (·.contains c) with
  | some g => g.headD c
  | none => simpleUpper c

def upper (c : Nat) : List Nat :=
  if c < 128 then [if 97 ≤ c && c ≤ 122 then c - 32 else c]
  else match Mapping.find? longUppers c with
    | some m => m.apply c
    | none => [simpleUpper c]

def lower (c : Nat) : List Nat :=
  if c < 128 then [if 65 ≤ c && c ≤ 90 then c + 32 else c]
  else if c == 0x130 then [0x69, 0x307]
  else [simpleLower c]

def isCased (c : Nat) : Bool :=
  [upperRuns, lowerRuns, longUppers].any fun ms => (Mapping.find? ms c).isSome

/-- Whether a character is passed over when the neighbours of a letter are looked at. -/
def isCaseIgnorable (c : Nat) : Bool :=
  c == 0x27 || c == 0x2e || c == 0x3a || c == 0x5e || c == 0x60 || c == 0xa8 || c == 0xad
    || c == 0xaf || c == 0xb4 || c == 0xb7 || c == 0xb8 || (0x2b0 ≤ c && c ≤ 0x36f)
    || (0x483 ≤ c && c ≤ 0x489) || (0x591 ≤ c && c ≤ 0x5bd) || c == 0x2018 || c == 0x2019
    || (0x200b ≤ c && c ≤ 0x200f) || (0x20d0 ≤ c && c ≤ 0x20f0)

def casedAhead (cs : List Nat) : Bool :=
  match cs.dropWhile isCaseIgnorable with
  | c :: _ => isCased c
  | [] => false

/-- The lower case of a text.  A sigma that ends a word has a form of its own; `before` tells
    whether a letter with a case stands in front. -/
def lowerAll : List Nat → Bool → List Nat
  | [], _ => []
  | c :: cs, before =>
      let now := if isCaseIgnorable c then before else isCased c
      if c == 0x3a3 then (if before && !casedAhead cs then 0x3c2 else 0x3c3) :: lowerAll cs now
      else lower c ++ lowerAll cs now

def upperAll (cs : List Nat) : List Nat := cs.flatMap upper

end Inlay.Text
