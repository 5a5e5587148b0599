import Inlay.Text.Ranges

/-! # General categories of characters

    Every character that is assigned has one category.  A category has a name of two letters and a
    longer one; all of one first letter form a group. -/

namespace Inlay.Text

/-- A category: its names and its characters. -/
structure Category where
  names : List String
  text : String

def categories : List Category :=
  [⟨["Lu", "Uppercase_Letter"],
    "cN+ZdY+WC+GbI+cC+CD+O+CD+bS+CC+BCCE+BCC+BC+CD+DC+BC+CE+BC+BCCC+BCDC+BC+CCC+BEIDDD+O+CD+Q+CDD
     C+CC+cE+CI+BC+BDC+DC+G+ClECEJHC+CCC+BC+QC+IbKD+CE+W+CGDC+BD+bYbX+bG+CK+cA+CC+BC+K+CD+dQ+C
     D+bLehE+bLCGbbV+dHdgT+bQD+CmJ+fS+CK+dS+CK+HJ+FL+HJ+HJ+FM+G+CJ+HcV+DN+DN+DN+EM+DkDFE+CD+CDE+E
     H+E+CC+DD+DL+BGcKdzH+bVbXC+CD+E+CC+DCDJ+CC+dS+CJCFbtyK+bS+CU+bA+CfG+M+CE+cI+CLCC+BC+G+CFCDC
     E+S+CC+EC+EC+M+CC+DCHGCbDbhaI+ZbvA+bNfH+bJgB+KC+OC+GC+BcqD+bYenM+bFbgjX+bFbmmR+ZbB+ZbB+ZbB
     C+BDD+BD+DC+HbB+ZbB+BC+DD+HC+GbC+BC+DC+ECE+GbC+ZbB+ZbB+ZbB+ZbB+ZbB+ZbF+YbI+YbI+YbI+YbI+YbI
     gnM+bH"⟩,
  ⟨["Ll", "Lowercase_Letter"],
    "dT+ZcHbQ+XC+HC+cA+CC+BC+M+CC+BC+bS+CDCC+CDCDE+BFDE+CDD+E+CDC+BCDECD+BD+CHDD+O+CC+BC+O+CC+BDC
     E+cE+CC+GDD+BCF+G+CC+cQC+bAhMCEE+CTbC+bIC+BE+CC+U+CC+ECDD+BcA+bVC+bG+CK+cA+CD+K+CC+BC+dQ+C
     bX+bOehC+bQD+CbdH+FdfV+IeQ+bRcM+MC+bHdZ+fQ+CC+IC+dQ+CC+IJ+FL+HJ+HJ+FL+HJ+HJ+ND+HJ+HJ+HJ+EC+B
     HE+CC+BJ+DD+BJ+HL+CC+BkPE+BEbCFFD+BJ+DFcCebC+bVCE+BC+E+CFC+BC+FG+dS+CC+BICFN+bLCGbtwE+bS+C
     U+bA+CfG+K+CC+CC+cI+CC+HCCD+I+CFCDC+CC+S+CGG+O+CFCH+I+CbDEbfQ+bQG+II+dBbeaJ+GN+EbpA+ZbvI+bN
     fH+bJgA+KC+OC+GC+BcrC+bYemG+bFbgjX+bFbmmL+ZbB+GC+RbB+ZbB+DCC+GC+KbB+ZbB+ZbB+ZbB+ZbB+ZbB+Z
     bB+ZbB+ZbB+bBbD+YC+FbB+YC+FbB+YC+FbB+YC+FbB+YC+FCcsZ+JC+TH+FduE+bH"⟩,
  ⟨["Lt", "Titlecase_Letter"], "rLDDbNlfI+HJ+HJ+HNQbW"⟩,
  ⟨["Lm", "Modifier_Letter"],
    "baM+RF+LP+EICfEGsLiXgJ+BkK+BFbGKEgFgMbvPeYvUcpNeExOrX+FgT+cKObJ+bKbaOOR+MemY+BjIhKsCbS+EG
     dU+BdQ+CbqbVbwD+FkLeLbD+BeS+IdDYeC+CE+BsCXfIeFW+BeA+DKbfvJbU+BczP+FC+bPC+IblrY+DbqM+McN+BC
     ygR+DC+GC+BsgO+cJhU+GbkGbrC"⟩,
  ⟨["Lo", "Other_Letter"],
    "gOQjXF+DiBbfW+bAF+DbU+bFC+JbK+BC+dUCZ+BL+CDRC+bDbE+dKMZ+bGW+VbR+YI+KG+XC+FS+bOcI+cBETI+JR+O
     F+HD+BD+VC+GCE+DERO+BC+CP+BLJ+FF+BD+VC+GC+BC+BC+BbG+DCU+CR+IC+CC+VC+GC+BC+EETQ+BYM+HD+BD+V
     C+GC+BC+EEbF+BC+CQSC+FE+CC+DE+BCC+BE+BE+CE+LXcB+HC+CC+WC+PEbB+CDD+BbFF+HC+CC+WC+JC+EEbG+BC+B
     Q+BS+IC+CC+bODRG+CJ+CZ+FG+RE+XC+ICD+GcH+bVC+BN+FcI+BCC+EC+XCC+JC+BKD+EY+DbHcM+HC+bJbC+EeM+bQ
     VR+FF+DEE+BI+CF+MNeK+mQC+DD+GCC+DD+bOC+DD+bGC+DD+GCC+DD+OC+cEC+DD+cObM+PeK+xVD+QC+ZG+cWH+H
     I+RO+SP+RP+MC+CQ+bZbPcQ+bIC+cAI+ED+bHCG+cRL+bEbY+bDD+EM+bRF+ZcD+WK+cAgV+bUS+HcD+bDO+BL+bR
     bB+bJbQ+CL+bDeK+DC+FC+BEbpR+DenW+cDZ+WK+GC+GC+GC+GC+GC+GC+GC+GvGcCF+dHJC+dLFG+bQC+dPS+bFbX+P
     tT+jtNcN+bfcEC+brYcQ+bNJ+kHF+PL+BcPbY+cRgOeAE+GC+CC+DC+WbE+bZP+bXcL+FEC+BM+bBL+WbA+bCI+bU
     bU+ED+IL+EC+bOY+CC+HV+PC+FEE+bXCE+BD+EDCZ+BE+KIP+FD+FD+FK+GC+GfQ+bIbE+qnRN+WF+bWmnD+oBD+eBcQ
     C+JC+MC+ECC+BC+BC+eDbI+nYT+cLD+cBbP+LeN+EC+fEeC+JC+bSD+bEE+FD+FD+FD+CbK+LC+ZC+SC+BC+OD+N
     bJ+eSpA+bCE+bWbW+bFO+TC+HH+bLL+bDD+bJF+HeZ+cZdV+bNJ+bZgB+lYK+VL+HfX+FDC+bRC+BED+WL+WK+bEcO+S
     C+BL+VL+ZcT+cDH+BcNQ+DC+CC+bCbR+bCE+bCbK+HC+bBbC+cBL+VL+SO+ReH+cUhC+bJnL+bPH+BdB+bCLJ+VbR+R
     bV+UbC+WN+cAcG+BDO+bSbH+YbB+bJbEDJ+bIEN+bVP+DWCbK+RC+YU+BcM+GCC+DC+OC+JI+bUbN+HD+BD+VC+GC+B
     C+EETN+EgD+cAT+DV+CbF+bVV+BChD+bUbQ+DbL+bVVcI+bQOcU+bAbM+GhE+bRiE+HDD+HC+BC+XQCdR+HD+bMRCbD
     L+bNIWM+bTUT+cUkE+IC+bKSbY+bDeJ+GC+BC+bLWbA+FC+BC+bFPmQ+SQC+MC+bHeVdC+bjLiX+hNdxL+dSQ+bpFS+F
     fyW+wKmuC+vWI+bES+dAS+bDT+bVcA+UG+SbhX+cWGgU+jbZJ+bvPbR+IngI+lEQbE+CDP+DJ+pFdkV+eCG+ME+II+J
     nbDtI+bSbImK+bDT+bRsR+bAbdE+GC+DC+BC+OC+hObzO+DC+bAC+BCDC+JC+DCCHF+E+CC+CC+BCD+I+CC+BCD+DC+G
     C+DC+DCC+JC+QG+CC+EC+QgoB+clfBbH+gdTH+iND+inPP+lbKQ+xXdqX+uVcfZ+hhYG+gfF"⟩,
  ⟨["Mn", "Nonspacing_Mark"],
    "bdO+eHkQ+EkG+bSCC+BC+BCcV+KbX+URdY+GD+FD+BC+DbKbF+bAdO+KcH+IKZ+DC+IC+CC+EbS+CcJ+HbR+XC+bFcEC
     F+HFE+GL+BbEcHF+DJV+BbBD+BcGF+BF+BD+CEbF+BEM+BcGF+EC+BFV+BX+FCcHDC+DJI+BM+BbFcKNbZEcEC+CG+C
     C+DI+BM+BbEcHDHG+BV+BbD+BcG+BF+DJV+BbEcVI+CCdND+GN+HdVD+IM+GcW+BbC+E+CcE+NC+EC+BG+KC+bJKdZ+D
     C+FC+BD+BbA+BF+CR+DOD+BHQbbC+CbkL+CbE+BbF+BbF+BcN+BC+GJD+KKbU+CCeO+BbJeP+CF+BKH+CiM+BDcHC+GC
     CD+HH+JDbX+NC+PbY+DbXC+ECGbP+IN+BbH+DD+BC+CcFC+BEC+CcH+HD+BfX+CC+MC+GFHE+BhR+cLbbT+MFE+L
     eoD+CfMdT+bFvJ+DeE+BbsqFF+JbH+BdD+BkNEFbA+BGfW+BbB+RObN+HbA+KbV+CbXD+DD+BbOcQ+FD+BD+BNJbWcA
     C+CD+BG+BCbR+BJjFDFbdzTbcK+PR+PblMiTfU+EcmH+CC+BG+DbP+CFgK+BwC+DoY+BdD+CcT+KbY+DeUcD+ObQD+B
     L+CbY+DD+BIcK+CbL+EC+HcLN+BcB+IL+DDdS+CDC+BHDgCE+HW+BcG+BEbM+GE+EhO+HD+CCYdH+FCF+BC+BjF+DH+B
     C+BbC+BdI+HDC+BeDCD+FCdY+CD+DC+EkA+IC+BjX+BCFfP+DD+BFbH+JbP+FD+DJK+FD+CbV+MC+BpR+GC+FCdF+V
     D+GC+BC+BeT+FEC+BC+GCcV+BECnK+BM+BcB+EGChySH+OurR+EcI+GboJcM+DdEbdbL+BgzA+bTD+WuZ+CS+HD+G
     bF+DfT+CcyE+cCF+bXJPX+EC+OcaJ+GC+QD+GC+BC+EdXgF+GoMcK+DtP+DbmF+GeG+GbtciW+jF"⟩,
  ⟨["Mc", "Spacing_Mark"],
    "dkTcED+CJ+DC+BbZ+BcH+CH+BD+BLbScH+CcPcH+CJC+BcC+BcHCH+BD+BLdZ+BC+BE+CC+CLbQ+CcK+DcK+BcHC+E
     D+BC+BK+BbDP+BcH+CG+CC+CLbR+BcY+CH+HT+BmT+BcMgQ+BFHD+BbA+BL+CD+GW+BD+FDL+CclTbFfAI+HC+BnJ+D
     D+CF+BC+FiR+BcHCKC+BJ+FfQbXGC+EC+BcKbFF+BDcJD+CCE+BbX+HJ+BgQWhhF+BbtlC+BDdL+BbZ+PfN+BbWbX+B
     F+BD+CeH+BD+BZbUCeGD+BGjE+BC+BC+BCblxKCeYbU+CF+BeMZ+BcIbX+CK+BOdQ+CE+BCgP+CbG+BcH+BC+DD+BD+C
     KL+BiC+CJ+BEeD+CHC+DDjE+CH+DDeK+CJ+BCeGC+BHeC+BFkC+CKjO+FC+BFDCfN+CJ+DFdHbE+BcLpSPeDIDiG+E
     F+BCnN+BNbX+BJ+BCbeiI+cCeB+BbkxO+BH+F"⟩,
  ⟨["Me", "Enclosing_Mark"], "bsQ+BikRciH+DC+CbyoY+C"⟩,
  ⟨["Nd", "Decimal_Number", "digit"],
    "bW+JciP+JfF+JhR+JpX+JeP+JeP+JeP+JeP+JeP+JeP+JeP+JeP+JeP+JdT+JeP+JcT+JkT+JcT+JctR+JbN+JlP+J
     eZ+JgL+JH+JhB+JdJ+JfF+JH+JcaeP+JbaD+JbN+JhR+JX+JdJ+JpR+JbfmD+JccL+JdfZ+JbfH+JeZ+JcJ+JfP+J
     kT+JnF+JeP+JoL+JdZ+JdZ+JqH+JdZ+JbdF+JjN+JcT+JqH+JbckT+JdJ+JfF+JbpbX+bXdnD+JqH+JtJ+JbqT+J
     hbB+J"⟩,
  ⟨["Nl", "Letter_Number"], "irU+CdyU+bID+DfmTbA+IP+CbsyM+JbifH+cArTJfF+EmeT+eG"⟩,
  ⟨["No", "Other_Number"],
    "gW+BGD+CdmS+FoN+FeR+CfE+GiK+GS+IqS+JbpM+TbrW+JsNcmWE+FH+JhR+PbQbbZ+cHdB+VyH+bDcbIbtD+DfJ+J
     bF+HC+ObH+JbO+ObsmJ+FbhqO+bScO+DS+BnE+bAbL+DbzH+HbA+GbO+IcY+EX+FgF+BD+PD+bTcN+IcB+BbF+CcY+E
     eB+HZ+HbQ+GmT+FnP+bEgD+JbR+DeJ+GfF+ToQ+TbzY+BqP+IbhO+SbgU+UbcpR+GbeT+WblyG+TN+TeF+YibV+I
     bjU+cGC+CC+DcZ+bSC+OblB+M"⟩,
  ⟨["Pc", "Connector_Punctuation"], "dRmbW+BUdgaP+BZ+CjG"⟩,
  ⟨["Pd", "Dash_Punctuation"], "bTcaVcAfkKbnQdbE+FfhYDbG+BFbDrFUeIczwB+BbMLgOfxW"⟩,
  ⟨["Ps", "Open_Punctuation"],
    "bObZbGfpFCcuPdpNEbNcEQyLCbFbpV+M+CdDbH+I+CpP+U+CcNCbIboW+G+CbAT+G+CqN+I+CE+G+CDczrUiIbE+O+CE
     S+E+CgPbZbGED"⟩,
  ⟨["Pe", "Close_Punctuation"],
    "bPcAbGfpECcuPdrEcEQyLCbFbpV+M+CdDbH+I+CpP+U+CcNCbIboW+G+CbT+G+CqN+I+CE+G+CD+BczrRiKbE+O+CE
     S+E+CgPcAbGDD"⟩,
  ⟨["Pi", "Initial_Punctuation"], "gPlxLD+BDbAffTCFDQE"⟩,
  ⟨["Pf", "Final_Punctuation"], "hFlwWEbDffTCFDQE"⟩,
  ⟨["Po", "Other_Punctuation"],
    "bH+CC+CDCC+BL+BE+BbCcRGP+BIbbBJrZ+FbQcDDDbT+BV+BC+BOC+CcX+DdZbS+NjA+CcD+ObGkC+BLfLeReSpBNoE
     dNL+BgN+OCeJcX+EF+BeI+FgQxP+IbdUeV+CcU+BgC+CC+CbM+FC+DmC+BiJ+BeZ+GC+FgR+GbD+BeW+DcI+EcL+B
     cN+HMbgD+BJ+HJ+ID+DD+CE+KCC+JeuD+DC+BeJfO+BF+CDD+IC+BCD+BL+EC+JD+DCC+MD+CqN+CcGhIbryH+BkK+C
     dWLeM+FoR+DdJ+BbP+CCbY+BbWdU+MR+BeV+DeX+BR+BjQbfcV+GDXV+BD+DE+CC+DI+CHC+BfU+CC+CDCC+BL+BE+B
     bCbLD+BpV+CzTbXpZbcQhSbGkN+IbNeJ+GcP+GdM+DbkR+EbT+DhI+GeG+BC+DeX+DbX+BdC+DFOC+CdL+FeEqC+EL+B
     CeBjR+WeC+CbD+McZfB+CjTkF+CgAdP+HdG+CC+EdQ+JmA+EbR+ByW+BcX+MgUbrT+EejD+BwdW+BfEcO+EJbgT+DmQ
     bdbPliM+EfpZ+B"⟩,
  ⟨["Sm", "Math_Symbol"],
    "bRR+CcKCbUFbMbGbdNuI+CjyIObO+CO+CfKbO+EHcR+EG+BFDDIbG+BDCbG+kHbH+BdNbF+YbP+FsCKcD+HeImZ+E
     D+bEL+PjX+fAX+cKF+bFD+jXbX+UD+FdasRbfTC+CgJR+CcKCfCH+DddjHbAbGbAbGbAbGbAbGbAiuF+B"⟩,
  ⟨["Sc", "Currency_Symbol"],
    "bKeW+DbwKeUtF+BtF+BIjMkEwKdqQdiJ+bGbzhWbgmMeFfZiM+BE+BmcT+DcvxFdrL"⟩,
  ⟨["Sk", "Modifier_Symbol"],
    "dQCcUHFEuC+DN+NG+GCC+QeOP+BbxJiuNC+CM+CO+CO+CO+BghP+BbsvS+WK+BeA+BblPP+BbekL+QbiICgHdolK+E"⟩,
  ⟨["So", "Other_Symbol"],
    "gKDFCblQkH+BeY+BhZLU+BjOtWoKfB+FCfDiAbQpC+CQC+CD+FV+E+CfE+HC+FC+BG+DhQ+BbcZ+JbbWbbVgC+bHnQ+J
     K+IccI+BC+DC+BLC+BH+FC+E+CFM+BPC+BCcH+BK+ED+DC+BC+BC+GC+bED+BCC+bEkJ+HF+TD+GD+dCC+bDbA+bN
     H+cQbA+KdE+cZX+hAC+IC+cBJ+eGC+jNbT+bRcN+jVtT+bVW+BH+bMD+bFC+eAiW+FnU+BbV+ZC+dKN+iFbB+PFO+BN
     W+BH+BmZ+BF+JbH+bJMR+bEM+bDJQ+bFL+bMQ+mHjtP+cLbguJ+cCbhI+DL+BCwC+CbfjB+PeYbU+CsREF+BO+BmC+I
     cG+QD+CC+MEbW+bSclV+BwUesTdgO+HF+QbcnJ+DGbeuXhcE+eLcJ+jLL+bMD+cHG+CX+BI+bDF+cIW+cNEhF+dI
     btY+tRcE+DbZ+HC+NC+BcoVehXfAbbU+bRF+dVN+OD+OC+OC+bKY+gEcF+bCO+bRF+II+BP+FfZ+jQG+bbZF+QE+M
     E+eOF+dQH+LFQ+LF+cDJ+JH+bNJ+bDD+BdB+nBN+ND+ME+II+bTC+GJ+NF+II+II+fQC+cC"⟩,
  ⟨["Zs", "Space_Separator"], "bGeYihKdpO+KbLbWfxX"⟩,
  ⟨["Zl", "Line_Separator"], "meQ"⟩,
  ⟨["Zp", "Paragraph_Separator"], "meR"⟩,
  ⟨["Cc", "Control", "cntrl"], "A+bFdS+bG"⟩,
  ⟨["Cf", "Format"],
    "gRcaL+FXhLbYoV+BdDftKdaR+EbB+EbY+EC+JdghKjQ+CgjAQnkL+PbzqV+DhwY+HbtkzNbF+dR"⟩,
  ⟨["Cs", "Surrogate"], "dduU+daT"⟩,
  ⟨["Co", "Private_Use"], "dgvO+jmDcahxP+dsyND+dsyN"⟩]

/-- Groups of categories: their names, and the categories in them. -/
def categoryGroups : List (List String × List String) :=
  [(["L", "Letter"], ["Lu", "Ll", "Lt", "Lm", "Lo"]),
   (["LC", "Cased_Letter"], ["Lu", "Ll", "Lt"]),
   (["M", "Mark", "Combining_Mark"], ["Mn", "Mc", "Me"]),
   (["N", "Number"], ["Nd", "Nl", "No"]),
   (["P", "Punctuation", "punct"], ["Pc", "Pd", "Ps", "Pe", "Pi", "Pf", "Po"]),
   (["S", "Symbol"], ["Sm", "Sc", "Sk", "So"]),
   (["Z", "Separator"], ["Zs", "Zl", "Zp"])]

/-- The characters of categories that are given by their short names. -/
def inCategories (names : List String) : Ranges :=
  .unite ((categories.filter fun c => names.contains (c.names.headD "")).map fun c =>
    .ofText c.text)

def assignedCategories : List String := categories.filterMap fun c => c.names.head?

def category? (name : String) : Option Ranges :=
  match categories.find? fun c => c.names.contains name with
  | some c => some (.ofText c.text)
  | none =>
      match categoryGroups.find? fun g => g.1.contains name with
      | some g => some (inCategories g.2)
      | none =>
          if name == "Cn" || name == "Unassigned" then
            some (inCategories assignedCategories).complement
          else if name == "C" || name == "Other" then
            some (Ranges.unite [(inCategories assignedCategories).complement,
              inCategories ["Cc", "Cf", "Cs", "Co"]])
          else none

end Inlay.Text
