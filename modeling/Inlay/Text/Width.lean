import Inlay.Text.Category

/-! # Display columns

    How many columns of a displayed line a character takes: none for control characters and
    combining marks, two for wide ones, four for a tab, one otherwise; a character outside the
    basic plane takes one column more. -/

namespace Inlay.Text

/-- Characters that take no column: controls and marks, except the marks of later versions of
    Unicode, and further characters. -/
def unseen : Ranges :=
  (Ranges.unite [inCategories ["Cc", "Mn", "Me"], .ofText
    "ciEegY+gDchRdaR+EbB+EbY+PgkZckzK+WF+bWouEgFdC+IctlO+DhwY+HbtkzM+jVjH+fiL"]).minus (.ofText
    "fpUdtaL+CbgCevN+BcB+EGChySH+OcnfUbqZ+D")

/-- Characters that take two columns if they take any: those that are not assigned, and further
    characters. -/
def wide : Ranges :=
  .unite [(inCategories assignedCategories).complement, .ofText
    "exNsHvQ+dRgsP+BO+BhJ+DEDuC+BW+BbZ+LbSUOJ+BS+BG+BJGWI+BCFDIF+BbDbKCF+CCcK+CZPbhC+BcAFbfF+Z
     C+dKN+iFbB+cFF+QD+dHF+dWG+bQC+bYC+bPC+dFM+bVC+bNJ+kkDcN+bguEE+cCbtI+bCyU+qnRmqN+oBD+eBbfR+J
     X+bIC+SC+DfU+dReY+GfsP+CbgA+CdiD+JbnB+QC+bOE+bBhxEK+bCwoH+DN+BP+jbZJ+bvPbR+InfS+DC+GC+BC+lEQ
     bE+CDP+DJ+pFmaV+TerI+FkC+cJbIbpX+bPeeThVhJD+JdY+CO+bRF+II+BP+FfZ+bGN+IC+cRC+VN+bQF+EN+QEE+cS
     CC+hED+cKO+DC+XTbB+BOdJ+dGbX+cRHE+CD+CF+DM+BI+IeQ+CF+EdMH+LFkY+bUC+JC+hCeJ+ME+II+bTC+GJ+NF+I
     I+IbxO+clfBbH+gdTH+iND+inPP+lbKQ+xXdqX+uVcfZ+hhYG+gfF"]

def columnsOf (c : Char) : Nat :=
  let n := c.toNat
  if n == 9 then 4
  else if n < 32 then 0
  else if n < 127 then 1
  else
    let beyond := if n > 0xffff then 1 else 0
    beyond + (if unseen.contains n then 0 else if wide.contains n then 2 else 1)

end Inlay.Text
