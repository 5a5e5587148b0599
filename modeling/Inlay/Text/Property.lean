import Inlay.Text.Category
import Inlay.Text.Script

/-! # Properties of characters

    A property that a character has or lacks is given by the categories that have it, by further
    characters, and by characters of those categories that lack it. -/

namespace Inlay.Text

/-- A property: its names, and the characters that have it. -/
structure CharProperty where
  names : List String
  categories : List String
  more : String := ""
  less : String := ""

namespace CharProperty

def ranges (p : CharProperty) : Ranges :=
  (Ranges.unite [inCategories p.categories, .ofText p.more]).minus (.ofText p.less)

def all : List CharProperty :=
  [⟨["ASCII"], [], "A+eX", ""⟩,
   ⟨["ASCII_Hex_Digit", "AHex"], [], "bW+JI+FbB+F", ""⟩,
   ⟨["Any"], [], "A+clkcL", ""⟩,
   ⟨["Assigned"], assignedCategories, "", ""⟩,
   ⟨["Alphabetic", "Alpha"], ["Lu", "Ll", "Lt", "Lm", "Lo", "Nl"],
    "bgFxV+NCC+BC+BCcV+KbX+MC+GRdY+GF+DD+BFbKbF+PdZ+KdY+BE+IC+CC+DgM+LE+GH+TcD+BD+OC+BG+CL+BbE+C
     cH+GD+BD+BLL+BbE+CcH+EF+BD+BFbF+BEM+CcH+HC+CC+BW+BX+CF+CcH+GD+BD+BK+BL+BbFcI+EE+CC+CLbP+E
     cG+GC+CC+CJ+BM+BbE+CcH+GC+CC+CJ+BM+BQN+DcH+GC+CC+CLL+BbE+CcY+FCC+HT+BcKD+GTdWD+FC+BRgI+SK+K
     C+bJeH+LCD+DY+DF+CC+CD+GE+DO+LCL+DclP+BbF+BbF+BbF+BcP+ShH+BbJeP+LF+IiP+EcG+JD+TcX+BM+CbY+E
     bX+OcJ+CbF+ID+BcG+KbZ+SqR+NcoO+bZdkH+bFbtqB+HbJ+BnRJY+EdL+BbZ+PCcGbN+EbD+LbU+DbX+LbMcQ+NNJ+B
     bU+CbZC+CD+BGbT+EGjE+HbdzWdeE+EcmH+CC+BG+DbeJ+DoY+BnC+CcC+NbU+BM+CbU+IKcK+CbL+LT+BcG+CbX+M
     P+BdP+IDHDgC+JY+DcH+GD+BD+BLL+BiC+MC+CeD+RjE+GD+GbE+BdF+OCeD+KeA+NjY+MjO+FC+BD+BECfN+GD+FF
     bD+JbR+EC+DT+KbV+NpS+HC+GdG+VC+NeT+FEC+BC+CCEcP+EC+BC+DnL+DK+BCbX+GE+CbeiHC+cCI+DdQ+BbdaZ
     nkK+GC+QD+GC+BC+EdXdhWczX+ZH+ZH+Z", ""⟩,
   ⟨["Bidi_Control", "Bidi_C"], [], "ciEjvM+BbB+EcE+D", ""⟩,
   ⟨["Bidi_Mirrored", "Bidi_M"], ["Ps", "Pe", "Pi", "Pf"],
    "cICmnAhL+DE+FEE+BE+DC+DCCF+IGC+RG+DK+BCC+HD+bED+DGK+BD+SG+BK+ED+BF+XD+PbH+BbtND+BE+BC+CG+D
     G+CE+DqW+FC+NJI+FEF+EC+BHFC+CD+BL+FR+SC+DDCDC+DG+BH+CZ+BM+BF+DC+BD+BF+bQD+HC+bNGCE+EG+CFE+EC
     jXdbrQ+BhBCddsFcGcGcGcG",
    "meA+HfjFsH+CczrR+BiI+BbD+PD+B"⟩,
   ⟨["Case_Ignorable", "CI"], ["Mn", "Me", "Cf", "Lm", "Sk"],
    "bNHMeVbbSsEfTjxK+BLDdgbCcLDgWHM", ""⟩,
   ⟨["Cased"], ["Lu", "Ll", "Lt"],
    "gOQtI+II+BbF+EdTcBfdAeqA+cKObJ+bKbaOOR+MhO+bFbfR+bZcwP+BbugL+BiDfA+CE+BbhJ+DKbiwTD+CC+bPC+I
     ddzI+cJgjB+ZH+ZH+Z", ""⟩,
   ⟨["Changes_When_Casefolded", "CWCF"], ["Lu"],
    "gZbQeCcCcSDDbNnBeVO+BE+BbA+BEpMfmF+FdfV+IuK+BiV+bVD+CDFG+CDFbM+CDFnS+PbgH+ZbyzP+dBbeaJ+GN+E",
    "blQ+CfzO+dHeyNFE+CD+CDE+EHEE+BD+BCL+BGgiqL+ZbB+ZbB+ZbBC+BDD+BD+DC+HbB+ZbB+BC+DD+HC+GbC+BC+D
     C+ECE+GbC+ZbB+ZbB+ZbB+ZbB+ZbB+ZbF+YbI+YbI+YbI+YbI+YbI"⟩,
   ⟨["Changes_When_Casemapped", "CWCM"], ["Lu", "Ll"],
    "rLDDbNnBksH+HJ+HJ+HNQbWnS+bFbfR+bZ",
    "mAdHOP+BPEdVT+FbCDCD+CDCDG+BCD+BC+GC+BCD+CH+ECC+HD+QlF+CbOnSbOixC+bRcM+MD+CC+PC+LjY+BCxNFD+J
     CE+EHEE+BC+CC+BFD+DG+EefWDD+EeBbuiE+BcM+HWHbAbKCbLbfQ+bIC+GG+IeiiI+dGC+cSC+BDD+BD+DC+LCC+G
     C+cMC+DD+HC+GC+bBC+DC+ECE+GC+nBD+YC+YC+bEC+YC+bEC+YC+bEC+YC+bEC+YC+HcsZ+JC+TH+F"⟩,
   ⟨["Changes_When_Lowercased", "CWL"], ["Lu"],
    "rLDDbNlfI+HJ+HJ+HNQbWnS+PbgH+Z",
    "blQ+ClbIFE+CD+CDE+EHEE+BD+BCL+BGgiqL+ZbB+ZbB+ZbBC+BDD+BD+DC+HbB+ZbB+BC+DD+HC+GbC+BC+DC+ECE+G
     bC+ZbB+ZbB+ZbB+ZbB+ZbB+ZbF+YbI+YbI+YbI+YbI+YbI"⟩,
   ⟨["Changes_When_NFKC_Casefolded", "CWKCF"], ["Lu"],
    "gEICDCD+DD+CC+CbHdGNJcCcS+BC+BC+BbM+BhH+IbG+FD+EdO+BC+CKbLGEG+BCcHO+BE+BbA+CDpMfTdL+DbcI+H
     eV+BCdGDbJ+CDjU+BbbYeYbP+BbVcDKFFFNKC+EISKFFFNmLdV+BzO+FbkP+BdI+EbrT+IgI+CC+KC+RC+bBObJ+bK
     iL+BiG+M+CD+bVD+CDF+IDF+DEK+CEK+CD+CDF+CC+PCGN+CE+FE+BC+BFCJ+COI+SD+bAC+MMdK+BCC+BD+BE+BED
     K+CNF+FC+CDG+DH+bVKgH+BC+BjP+BlY+fIbyOeA+CdYqA+BjIlSdGN+iFbRcCC+CdT+BDdSbY+dPE+NdT+bEC+bN
     J+bUC+oTbrkN+BiDfA+CE+BbhJ+DKH+dBbdgR+kJDCD+JCCD+BE+cPD+eBbN+GN+EGC+XC+ECC+BC+BC+eDbI+nYT+cL
     D+cBbP+ME+ZX+UD+LC+SC+DF+CCC+fEDC+bFbB+fBE+FD+FD+FD+CE+GC+GC+IcwF+EC+bPC+IcqnE+DhwD+GP+HcN+F
     xE+ZbB+GC+RbB+ZbB+DCC+GC+KbB+ZbB+ZbB+ZbB+ZbB+ZbB+ZbB+ZbB+ZbB+bBbC+bGbA+bGbA+bGbA+bGbA+bGC
     D+bXdcR+cJfdR+DC+bAC+BCDC+JC+DCCHF+E+CC+CC+BCD+I+CC+BCD+DC+GC+DC+DCC+JC+QG+CC+EC+QwJ+KG+bE
     C+bFbB+CbKeI+CO+bRF+II+BdqT+JdrlN+uVbpcqT+gbN",
    "hlG+dH"⟩,
   ⟨["Changes_When_Titlecased", "CWT"], ["Ll"],
    "rKDDbNnCllB+PbgR+Z",
    "mAdHOP+BPEdVT+FbCDCD+CDCDG+BCD+BC+GC+BCD+CH+ECC+HD+QmVnSbOehC+bQD+CeoF+bRcM+MD+CC+PC+LjY+BC
     xVE+BEbCFFD+BJ+DefWDD+EeBbuiE+BcM+HWHbAbKCbLbfQ+bIC+GG+IeijI+ZbB+GC+RbB+ZbB+DCC+GC+KbB+ZbB+Z
     bB+ZbB+ZbB+ZbB+ZbB+ZbB+ZbB+bBbD+YC+FbB+YC+FbB+YC+FbB+YC+FbB+YC+FCcsZ+JC+TH+F"⟩,
   ⟨["Changes_When_Uppercased", "CWU"], ["Ll"],
    "rLDDbNnBksH+HJ+HJ+HNQbWoI+PbgR+Z",
    "mAdHOP+BPEdVT+FbCDCD+CDCDG+BCD+BC+GC+BCD+CH+ECC+HD+QmVnSbOixC+bRcM+MD+CC+PC+LjY+BCxVE+BEbCFF
     D+BJ+DefWDD+EeBbuiE+BcM+HWHbAbKCbLbfQ+bIC+GG+IeijI+ZbB+GC+RbB+ZbB+DCC+GC+KbB+ZbB+ZbB+ZbB+Z
     bB+ZbB+ZbB+ZbB+ZbB+bBbD+YC+FbB+YC+FbB+YC+FbB+YC+FbB+YC+FCcsZ+JC+TH+F"⟩,
   ⟨["Dash"], ["Pd"], "mgHbOQpB", ""⟩,
   ⟨["Default_Ignorable_Code_Point", "DI"], [],
    "gRzYbbPegX+BckI+BdI+EdaQ+EbB+EbY+PgkZczmQ+PjGgFdC+IctlO+DhwY+HbtkzM+gbN", ""⟩,
   ⟨["Deprecated", "Dep"], [], "mRbyWdkUCdcK+BdiK+FbaW+BbzryL", ""⟩,
   ⟨["Diacritic", "Dia"], [],
    "dQCcUHFD+BtK+gCC+HG+FS+BFK+BjU+EiCcE+QC+bACC+BCfF+HF+BfF+BF+BE+CcQ+bAdO+KcH+KbJ+BeX+HbQ+J
     R+bBcKRE+DbDcXReHReHRbW+CcJRIeQeHReHReG+BReVeV+FCeEO+EcY+BbC+E+CF+BcP+CC+BcLeJC+BbP+BF+EbA+G
     CL+BbbE+CbkN+BgY+KKnK+CmC+HDbX+OD+KeBQbN+IcD+BfJ+BcN+FdF+YFHD+CbZ+cKdM+LbM+KrEC+CM+CO+CO+C
     O+BexL+CmGtN+FeC+DdSbsmLN+BCbD+BdF+BP+bHdZ+CeG+BhVbC+RcG+DbLdSNbLfU+CcO+DcAdX+EK+CeZ+BbdzT
     bdQ+PkLCbWbU+BcQbdLbtO+FC+bPC+IbfF+BwA+FsC+CcT+KbY+DhLbQcV+BeR+BcLcZK+CeB+BgX+BdERZ+GE+EhYE
     eU+BjS+BeXeP+BeMkK+BjZ+BFgBdGTdEqGjZC+BdEipK+OurR+EcI+GbqV+QdD+BygD+DC+GC+BltI+bTD+WuZ+CE+F
     J+HD+GbF+DfmX+cJhN+GoMcK+DcfX+GeG+CC+C", ""⟩,
   ⟨["Emoji"], [],
    "bJHG+JeIFlySNiJXdN+FQ+BoE+BNgLbA+KF+ChSiY+BLKcH+DC+EKDD+BDFDC+BDEE+BJ+CGCG+LM+BDC+BCTD+BT+FC
     C+BE+BGD+BF+BM+BG+BDG+BCC+BV+BG+FC+DDFDD+FCD+E+CHEHL+BQDFCF+CCM+BbX+CKPPoJ+BrW+CU+BcAFbvVNxE
     CgmrRhVgF+BN+BPD+JcY+ZC+BYVD+IW+BgT+bHD+eHD+BC+CD+dED+CC+kCC+cKM+FC+XI+BD+HND+DDF+BO+BDJ+BK
     G+CN+CJ+CDCFHEH+dHbX+cRG+HD+CF+JEC+BED+JiU+LFkY+bUC+JC+hCeJ+ME+II+bTC+GJ+NF+II+I", ""⟩,
   ⟨["Emoji_Component", "EComp"], [], "bJHG+JmbKiGdftSdoiX+ZtO+EceB+DbsvuR+dR", ""⟩,
   ⟨["Emoji_Modifier", "EMod"], [], "hhiX+E", ""⟩,
   ⟨["Emoji_Modifier_Base", "EBase"], [],
    "olHiMR+DgsjWcJ+CDD+CeO+BD+KW+SEF+CC+CICZhU+BFWF+BgT+CE+EdGR+CKMwEDJ+HHK+JD+CcFcK+BC+BCS+CC+M
     iW+CbR+I", ""⟩,
   ⟨["Emoji_Presentation", "EPres"], [],
    "nhQ+BhY+DEDuC+BW+BbZ+LbSUOJ+BS+BG+BJGWI+BCFDIF+BbDbKCF+CCcK+CZPbhC+BcAFgplFhVhJD+JcY+ZCZVD+E
     C+CW+BgT+bGN+IC+cRC+VN+bQF+EN+QEE+cSCC+hED+cKO+DC+XTbB+BOdJ+dGbX+cRHE+CD+CF+DM+BI+IiU+LF
     kY+bUC+JC+hCeJ+ME+II+bTC+GJ+NF+II+I", ""⟩,
   ⟨["Extended_Pictographic", "ExtPict"], [],
    "gNFlySNiJXdN+FQ+BoE+BNdScTbA+KF+ChSiY+BLKcH+DC+FC+LC+eJL+eND+KCCHEHL+BQDFCF+CCM+EbU+CKPPoJ+B
     rW+CU+BcAFbvVNxECgmrN+jVO+CbGcJ+FN+BPD+JT+cEbC+OLVD+IC+DK+qRG+mFJ+kFbX+eXeN+LdI+bQN+DcF+HL+F
     bP+HbF+dDN+bUC+JC+qYjX+bnH", ""⟩,
   ⟨["Extender", "Ext"], [],
    "hBuR+BbhVrAbhBbcZeYdnGcFxOpJcRhkKbS+EeA+BdQ+CbqbVcgTblBXfIeFW+BbfzWdbL+BemTxT+CbvKbeoG+B
     btL+BCbqyB+BdbB+C", ""⟩,
   ⟨["Grapheme_Base", "Gr_Base"],
    ["Lu", "Ll", "Lt", "Lm", "Lo", "Mc", "Nd", "Nl", "No", "Pc", "Pd", "Ps", "Pe", "Pi", "Pf",
     "Po", "Sm", "Sc", "Sk", "So", "Zs"],
    "",
    "drYZnVZdZZjBT+BeAZeQQfbIhyN+BdaoL+BhlFZnHNjIbiNcrtTJ+E"⟩,
   ⟨["Grapheme_Extend", "Gr_Ext"], ["Me", "Mn"],
    "drYZnVZdZZjBT+BeAZeQQfbIbvRgcW+BdaoL+BhlFZnHNjIbiNcrtTJ+EbtlbA+dR", ""⟩,
   ⟨["Hex_Digit", "Hex"], [], "bW+JI+FbB+FdslM+JI+FbB+F", ""⟩,
   ⟨["IDS_Binary_Operator", "IDSB"], [], "seA+BD+JtE", ""⟩,
   ⟨["IDS_Trinary_Operator", "IDST"], [], "seC+B", ""⟩,
   ⟨["ID_Continue", "IDC"], ["Lu", "Ll", "Lt", "Lm", "Lo", "Nl", "Mn", "Mc", "Nd", "Pc"],
    "hBbbSgaK+IclDcjA+BkHWfvX+BdRdaeK",
    "rmT"⟩,
   ⟨["ID_Start", "IDS"], ["Lu", "Ll", "Lt", "Lm", "Lo", "Nl"], "jhL+BdgKWfvX+B", "rmT"⟩,
   ⟨["Ideographic", "Ideo"], [],
    "seW+BbA+IP+CblE+jtNcN+bfbJbhsJ+oBD+eBbsiLbC+jbZJ+bvPbR+InuM+pFbdeJ+clfBbH+gdTH+iND+inPP+lbK
     Q+xXdqX+uVcfZ+hhYG+gfF", ""⟩,
   ⟨["Join_Control", "Join_C"], [], "mdO+B", ""⟩,
   ⟨["Logical_Order_Exception", "LOE"], [], "fkI+EeU+EedT+CDccxN+BDC+B", ""⟩,
   ⟨["Lowercase", "Lower"], ["Ll"],
    "gOQtI+II+BbF+EdTcBfdAeqA+cKObJ+bKbaOOR+MiE+PbgR+ZcwP+BbugL+BiDfA+CE+BbhJ+DKbiwTD+CC+bPC+I
     ddzI+cJ", ""⟩,
   ⟨["Math"], [],
    "bRR+CbGbECbUFbMbGbcB+CDbB+BD+CuI+CjwObC+CMEOP+DW+EM+EcO+MFE+BF+ETFD+JCD+FHE+BD+BC+CC+FE+NC
     cR+XC+FC+BF+BF+bFCH+BP+kHJ+DV+BdNbF+bACZM+GrE+BN+JF+FF+BD+BE+EPCD+FM+HG+BcGCbE+DK+CmZ+cL
     jX+tRbX+UD+FdasRbfS+FCgHR+CbECbECfCH+DdciE+dGC+cSC+BDD+BD+DC+LCC+GC+cMC+DD+HC+GC+bBC+DC+EC
     E+GC+nBD+lFD+bXiiR+DC+bAC+BCDC+JC+DCCHF+E+CC+CC+BCD+I+CC+BCD+DC+GC+DC+DCC+JC+QG+CC+EC+QcB+B",
    ""⟩,
   ⟨["Noncharacter_Code_Point", "NChar"], [],
    "dsdC+bFuH+BdsyP+BdsyP+BdsyP+BdsyP+BdsyP+BdsyP+BdsyP+BdsyP+BdsyP+BdsyP+BdsyP+BdsyP+BdsyP+B
     dsyP+BdsyP+BdsyP+B", ""⟩,
   ⟨["Pattern_Syntax", "Pat_Syn"], [],
    "bH+OL+GbB+DCbB+DbJ+GCC+BCC+BFFEYbGluF+XJ+OD+SC+JlU+bbRgF+yFbF+brNtT+eXoW+CF+YQczrA+BkC+B", ""⟩,
   ⟨["Pattern_White_Space", "Pat_WS"], [], "J+ETdXlyN+BZ+B", ""⟩,
   ⟨["Quotation_Mark", "QMark"], [], "bIFfCQlwV+HbA+BfiErQ+DO+CdabQ+DhIFdN+B", ""⟩,
   ⟨["Radical"], [], "rpW+ZC+dKN+iF", ""⟩,
   ⟨["Regional_Indicator", "RI"], [], "hgoK+Z", ""⟩,
   ⟨["Sentence_Terminal", "STerm"], [],
    "bHNRcaCfS+CgZbS+CjNcKCE+BlI+BcpX+BbeLF+BbdUhR+BhXGmD+BnR+DgT+BD+BbE+BhH+BcO+BbkV+BK+CfgVOX+B
     qObshXkL+BiUEoT+BdJ+BdSfX+BfS+CfP+BjQbffJE+BgONRcOedX+BbxE+EbT+DhI+BeO+DeY+CfA+BHR+BdL+BC+B
     eFqC+BoK+BG+OeC+BjQ+CtYCjS+BdK+BqF+BbaR+BcX+BbcmC+BfEcO+BMbgUbdoHliN", ""⟩,
   ⟨["Soft_Dotted", "SD"], [],
    "eB+BhPkWbFcBVmJdVCjmOcAOEfDgCqGiH+BegHgelI+BbZ+BbZ+BbZ+BbZ+BbZ+BbZ+BbZ+BbZ+BbZ+BbZ+BbZ+BbZ+B
     dfZlU+BbB", ""⟩,
   ⟨["Terminal_Punctuation", "Term"], [],
    "bHLCM+BEbfZJtUcGcVPC+CgZbS+KCjC+BcD+ObGkC+BbwV+BgRF+FmA+BbeK+HbdUeV+CcU+BgC+CEbO+DD+BmD+B
     nR+DgT+BC+CbE+BhH+EcL+BbkV+BK+CfgVOFLC+BE+BqN+BbshW+BkK+CiU+EoT+BdJ+BdSfW+CfS+CeYR+BjQbffH+C
     C+DgOLCM+BEcODbpRbXbsPhSlZ+BfX+FcR+FdM+DbkR+EbT+DhI+GeJ+DeY+CfA+BHR+BdL+EeFqC+CN+BnV+DE+O
     eC+BjQ+CtYCjS+BdK+BF+BpZ+CbUyW+BcX+BbyY+EbanA+BfEcO+CLbgT+BbdoHliM+D", ""⟩,
   ⟨["Unified_Ideograph", "UIdeo"], [],
    "tsA+jtNcN+bfbJbicT+BCC+BLCC+BD+CdveD+clfBbH+gdTH+iND+inPP+lbKQ+xXgrR+hhYG+gfF", ""⟩,
   ⟨["Uppercase", "Upper"], ["Lu"], "mqQ+PbgH+ZgsiZ+ZH+ZH+Z", ""⟩,
   ⟨["Variation_Selector", "VS"], [], "jcT+CCdjcB+PbwnkZ+jF", ""⟩,
   ⟨["White_Space", "space"], [], "J+ETdXbBihKdpO+KbE+BGbWfxX", ""⟩,
   ⟨["XID_Continue", "XIDC"], ["Lu", "Ll", "Lt", "Lm", "Lo", "Nl", "Mn", "Mc", "Nd", "Pc"],
    "hBbbSgaK+IclDcjA+BkHWfzPdaeK",
    "biGqeNdacD+FpR+BeN+O+C"⟩,
   ⟨["XID_Start", "XIDS"], ["Lu", "Ll", "Lt", "Lm", "Lo", "Nl"],
    "jhL+BdgKW",
    "biGebPeYlyAdacD+FpR+BeN+O+ClC+B"⟩]

end CharProperty

def property? (name : String) (value : Option String) : Option Ranges :=
  match value with
  | some v =>
      if name == "General_Category" || name == "gc" then category? v
      else if name == "Script" || name == "sc" then script? v
      else if name == "Script_Extensions" || name == "scx" then scriptExtensions? v
      else none
  | none =>
      match category? name with
      | some r => some r
      | none => (CharProperty.all.find? fun p => p.names.contains name).map CharProperty.ranges

end Inlay.Text
