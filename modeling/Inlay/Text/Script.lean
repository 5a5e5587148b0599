import Inlay.Text.Ranges

/-! # Scripts

    Which script a character belongs to, and which further scripts use it.  A character that several
    scripts use on purpose is not common to all. -/

namespace Inlay.Text

/-- A script: its names, its characters, and characters of others that it uses too. -/
structure Script where
  names : List String
  text : String
  more : String := ""

def scripts : List Script :=
  [⟨["Adlm", "Adlam"], "hdeU+cXF+JF+B", "ciHbH"⟩,
   ⟨["Aghb", "Caucasian_Albanian"], "duxS+bZM", ""⟩,
   ⟨["Ahom"], "ebrC+bAD+OF+W", ""⟩,
   ⟨["Arab", "Arabic"],
    "chC+EC+FC+NC+CC+bFC+JM+ZC+eDC+bHdD+bVjH+bEC+BH+cVC+bCdntX+eKR+nYD+dBD+cBIbH+PeJ+EC+fEfvO+bE
     eX+CdglT+DC+bAC+BCDC+JC+DCCHF+E+CC+CC+BCD+I+CC+BCD+DC+GC+DC+DCC+JC+QG+CC+EC+QcB+B",
    "chOPEbHL+KbBdpmC+BcdL+bB"⟩,
   ⟨["Armi", "Imperial_Aramaic"], "dwbW+VC+I", ""⟩,
   ⟨["Armn", "Armenian"], "bzD+bLD+bXD+CdozK+E", ""⟩,
   ⟨["Avst", "Avestan"], "dxcY+cBE+G", ""⟩,
   ⟨["Bali", "Balinese"], "kfW+cYE+bU", ""⟩,
   ⟨["Bamu", "Bamum"], "clcQ+dJcvcR+vW", ""⟩,
   ⟨["Bass", "Bassa_Vah"], "fhkI+bDD+F", ""⟩,
   ⟨["Batk", "Batak"], "knG+bZJ+D", ""⟩,
   ⟨["Beng", "Bengali"], "dpO+DC+HD+BD+VC+GCE+DD+ID+BD+DJF+BC+ED+Y", "dnT+BS+BhjFCD+BCJJDFD+CcbaG"⟩,
   ⟨["Bhks", "Bhaiksuki"], "edoI+IC+bSC+NL+bC", ""⟩,
   ⟨["Bopo", "Bopomofo"], "bcS+BrlY+bQeJ+bF", "seR+CF+JC+ML+DDHhOcztI+BkX+E"⟩,
   ⟨["Brah", "Brahmi"], "dzaE+cZF+bJK", ""⟩,
   ⟨["Brai", "Braille"], "pdW+jV", ""⟩,
   ⟨["Bugi", "Buginese"], "jwA+bBD+B", "cmhZ"⟩,
   ⟨["Buhd", "Buhid"], "iuY+T", "iuN+B"⟩,
   ⟨["Cakm", "Chakma"], "dzkA+cAC+R", "dtM+JckF+J"⟩,
   ⟨["Cans", "Canadian_Aboriginal"], "hoY+yPvP+cRdtpR+P", ""⟩,
   ⟨["Cari", "Carian"], "dtyM+bW", ""⟩,
   ⟨["Cham"], "cmjW+cCK+ND+JD+D", ""⟩,
   ⟨["Cher", "Cherokee"], "hlG+dHD+FcfjF+dB", ""⟩,
   ⟨["Chrs", "Chorasmian"], "dyxC+bB", ""⟩,
   ⟨["Copt", "Coptic", "Qaac"], "bmG+NpjL+eLG+G", "duaY+bB"⟩,
   ⟨["Cpmn", "Cypro_Minoan"], "ekyY+dU", "dtiM+B"⟩,
   ⟨["Cprt", "Cypriot"], "dvzK+FDC+bRC+BED", "dtiM+CF+bSE+I"⟩,
   ⟨["Cyrl", "Cyrillic"], "bnK+fCD+gMivP+IgHcZgfO+bFbtoB+dRbheD+BdhpH+cJbI", "bsN+BjqOgeL"⟩,
   ⟨["Deva", "Devanagari"], "dkQ+dCF+OD+ZcijH+bFbreN+J", "dnT+BS+BhjF+bMC+BbnBbzfS+J"⟩,
   ⟨["Diak", "Dives_Akuru"], "eckU+GDD+HC+BC+bDC+BD+LK+J", ""⟩,
   ⟨["Dogr", "Dogra"], "ecaY+cH", "doM+LcidD+J"⟩,
   ⟨["Dsrt", "Deseret"], "dumA+dB", ""⟩,
   ⟨["Dupl", "Duployan"], "gmdS+eCG+ME+II+JD+D", "gmjW+D"⟩,
   ⟨["Egyp", "Egyptian_Hieroglyphs"], "eldG+bqR", ""⟩,
   ⟨["Elba", "Elbasan"], "duvW+bN", ""⟩,
   ⟨["Elym", "Elymaic"], "dyyY+W", ""⟩,
   ⟨["Ethi", "Ethiopic"],
    "gvG+cUC+DD+GCC+DD+bOC+DD+bGC+DD+GCC+DD+OC+cEC+DD+cOD+bFE+ZjvB+WK+GC+GC+GC+GC+GC+GC+GC+G
     bvkD+FD+FD+FK+GC+GepyG+GC+DC+BC+O", ""⟩,
   ⟨["Geor", "Georgian"], "ghS+bLCGD+bQC+DejX+bQD+CgeB+bLCG", "glF"⟩,
   ⟨["Glag", "Glagolitic"], "qrG+dRgizH+GC+QD+GC+BC+E", "bsMDpuYbtnG"⟩,
   ⟨["Gong", "Gunjala_Gondi"], "eebW+FC+BC+bKC+BC+FI+J", "doM+B"⟩,
   ⟨["Gonm", "Masaram_Gondi"], "edyE+GC+BC+bREC+BC+IJ+J", "doM+B"⟩,
   ⟨["Goth", "Gothic"], "dueA+bA", ""⟩,
   ⟨["Gran", "Grantha"],
    "eadS+DC+HD+BD+VC+GC+BC+ED+ID+BD+CDHG+GD+GE+E",
    "dnT+BS+ByR+NgkBC+BbF+CE+BbnBdntRetX+BC"⟩,
   ⟨["Grek", "Greek"],
    "bhW+DC+CD+DCFCC+CCC+TC+cKP+PjnR+EbZ+EF+EdHmJ+VD+FD+bLD+FD+HC+E+CC+bED+cAC+OC+ND+FC+SD+CC+IlK
     cajFbgnJ+dASdaxS+cR",
    "bgCDkaT+B"⟩,
   ⟨["Gujr", "Gujarati"], "dzL+CC+IC+CC+VC+GC+BC+ED+JC+CC+CDQ+DD+LI+G", "dnT+BS+BcidN+J"⟩,
   ⟨["Guru", "Gurmukhi"], "duN+CC+FF+BD+VC+GC+BC+BC+BDC+EF+BD+CEI+DCI+Q", "dnT+BS+BcidN+J"⟩,
   ⟨["Hang", "Hangul"],
    "glK+jVllF+BjY+dPeK+bEcO+bEbtaO+bCyU+qnRN+WF+bWpaJ+bEE+FD+FD+FD+C",
    "seR+CF+JC+MRHhOcztI+BkX+E"⟩,
   ⟨["Hani", "Han"],
    "rpW+ZC+dKN+iFbWCbA+IP+DblD+jtNcN+bfbJbhsJ+oBD+eBbsiJ+BN+BccoL+clfBbH+gdTH+iND+inPP+lbKQ+xX
     dqX+uVcfZ+hhYG+gfF",
    "seR+CDC+JC+ML+DDHF+DhGfT+PbH+bJcJ+bNcF+bWQ+LcAdL+YL+EdT+bEbroK+HbhbA+BkX+EdchF+RlrZ+B"⟩,
   ⟨["Hano", "Hanunoo"], "itS+U", "iuN+B"⟩,
   ⟨["Hatr", "Hatran"], "dwiA+SC+BG+E", ""⟩,
   ⟨["Hebr", "Hebrew"], "ccV+cCJ+bAF+FdovX+ZC+ECC+BC+BC+J", ""⟩,
   ⟨["Hira", "Hiragana"], "shD+dHH+CfpeW+lATbE+CymW", "seR+CF+JC+MR+FCF+BdO+DEdN+BcztH+BkX+ELbU+B"⟩,
   ⟨["Hluw", "Anatolian_Hieroglyphs"], "essE+wK", ""⟩,
   ⟨["Hmng", "Pahawh_Hmong"], "fhmE+cRL+JC+GC+UG+S", ""⟩,
   ⟨["Hmnp", "Nyiakeng_Puachue_Hmong"], "haeA+bSE+ND+JF+B", ""⟩,
   ⟨["Hung", "Old_Hungarian"], "dxrS+bYO+bYI+F", ""⟩,
   ⟨["Ital", "Old_Italic"], "ducE+bJK+C", ""⟩,
   ⟨["Java", "Javanese"], "cmeY+cZD+JF+B", "cmhZ"⟩,
   ⟨["Kali", "Kayah_Li"], "cmaA+bTC", "cmbU"⟩,
   ⟨["Kana", "Katakana"],
    "skV+dLD+CjH+PiB+bUC+dJczhF+JC+bScouD+DC+GC+BClC+CbZP+D",
    "seR+CF+JC+MR+FCF+BdO+DEdN+BcztH+BkX+ELbU+B"⟩,
   ⟨["Kawi"], "eerW+QC+bOE+bB", ""⟩,
   ⟨["Khar", "Kharoshthi"], "dwtC+DC+BG+HC+CC+bCD+CF+JI+I", ""⟩,
   ⟨["Khmr", "Khmer"], "ixK+dPD+JH+JsT+bF", ""⟩,
   ⟨["Khoj", "Khojki"], "dztW+RC+bU", "edI+JchoJ+J"⟩,
   ⟨["Kits", "Khitan_Small_Script"], "fjiIkgY+sB", ""⟩,
   ⟨["Knda", "Kannada"], "etC+MC+CC+WC+JC+ED+IC+CC+DI+BH+BC+DD+JC+C", "dnT+BS+BhjFCIYCcasY+F"⟩,
   ⟨["Kthi", "Kaithi"], "dzfC+cOL", "doO+JcidD+J"⟩,
   ⟨["Lana", "Tai_Tham"], "jxG+cKC+bCD+KH+JH+N", ""⟩,
   ⟨["Laoo", "Lao"], "fmV+BCC+EC+XCC+WD+ECC+GC+JD+D", ""⟩,
   ⟨["Latn", "Latin"],
    "cN+ZH+ZbWQG+WC+bEC+rGbO+EjxC+bLH+bWG+DG+MC+cRcO+jVoGOR+MfM+BHbCS+bOecU+bFbulN+dXE+cLG+BCC+E
     Z+NbfL+bQC+IC+DbedR+GboL+ZH+ZdcG+FC+bPC+IddnQ+bEH+F",
    "bhJ+MkS+BbvF+BcxLftShLbyuA+HvF"⟩,
   ⟨["Lepc", "Lepcha"], "kpS+cDE+OE+C", ""⟩,
   ⟨["Limb", "Limbu"], "jmE+bEC+LF+LFE+L", "doN"⟩,
   ⟨["Lina", "Linear_A"], "dvfS+lYK+VL+H", "dtiT+bS"⟩,
   ⟨["Linb", "Linear_B"], "dsyQ+LC+ZC+SC+BC+OD+NbJ+eS", "dtiM+CF+bSE+I"⟩,
   ⟨["Lisu"], "ckkU+bVbumB", ""⟩,
   ⟨["Lyci", "Lycian"], "dtxG+bC", ""⟩,
   ⟨["Lydi", "Lydian"], "dwkM+ZG", ""⟩,
   ⟨["Mahj", "Mahajani"], "dznC+bM", "doM+LcidD+J"⟩,
   ⟨["Maka", "Makasar"], "eeqQ+Y", ""⟩,
   ⟨["Mand", "Mandaic"], "ddG+bBD", "cjO"⟩,
   ⟨["Mani", "Manichaean"], "dxaM+bMF+L", "cjO"⟩,
   ⟨["Marc", "Marchen"], "edsQ+bFD+VC+N", ""⟩,
   ⟨["Medf", "Medefaidrin"], "fisE+dM", ""⟩,
   ⟨["Mend", "Mende_Kikakui"], "hcuY+hOD+P", ""⟩,
   ⟨["Merc", "Meroitic_Cursive"], "dwpK+XF+TD+bT", ""⟩,
   ⟨["Mero", "Meroitic_Hieroglyphs"], "dwoE+bF", ""⟩,
   ⟨["Mlym", "Malayalam"], "eyA+MC+CC+bYC+CC+FF+PD+Z", "dnT+BS+BhjPcatY+C"⟩,
   ⟨["Modi"], "ebhG+cQM+J", "clsA+J"⟩,
   ⟨["Mong", "Mongolian"], "jcI+BDC+TH+dKI+bQdscC+M", "jcK+BCdcK"⟩,
   ⟨["Mroo", "Mro"], "fheU+bEC+JF+B", ""⟩,
   ⟨["Mtei", "Meetei_Mayek"], "cmsM+WhU+bTD+J", ""⟩,
   ⟨["Mult", "Multani"], "dzyU+GCC+DC+OC+K", "dyK+J"⟩,
   ⟨["Mymr", "Myanmar"], "gbO+gDcgaZ+bEdU+bF", "cmbU"⟩,
   ⟨["Nagm", "Nag_Mundari"], "hbpO+bP", ""⟩,
   ⟨["Nand", "Nandinagari"], "ecqY+HD+bTD+K", "doM+BbiN+JgbIJIcasS+F"⟩,
   ⟨["Narb", "Old_North_Arabian"], "dwyA+bF", ""⟩,
   ⟨["Nbat", "Nabataean"], "dweI+bEJ+I", ""⟩,
   ⟨["Newa"], "eanO+dNC+E", ""⟩,
   ⟨["Nkoo", "Nko"], "cyI+cGD+C", "chOPEdppF+B"⟩,
   ⟨["Nshu", "Nushu"], "fjiFyvN+pF", ""⟩,
   ⟨["Ogam", "Ogham"], "inO+bC", ""⟩,
   ⟨["Olck", "Ol_Chiki"], "ksU+bV", ""⟩,
   ⟨["Orkh", "Old_Turkic"], "dxmU+cU", ""⟩,
   ⟨["Orya", "Oriya"], "eeJ+CC+HD+BD+VC+GC+BC+ED+ID+BD+CI+CF+BC+ED+R", "dnT+BS+BhjPY"⟩,
   ⟨["Osge", "Osage"], "dusU+bJF+bJ", ""⟩,
   ⟨["Osma", "Osmanya"], "duqY+bDD+J", ""⟩,
   ⟨["Ougr", "Old_Uyghur"], "dyuQ+Z", "cjOdusW"⟩,
   ⟨["Palm", "Palmyrene"], "dwdC+bF", ""⟩,
   ⟨["Pauc", "Pau_Cin_Hau"], "edcA+cE", ""⟩,
   ⟨["Perm", "Old_Permic"], "dufG+bQ", "bsL"⟩,
   ⟨["Phag", "Phags_Pa"], "clsQ+cD", "jcK+BC"⟩,
   ⟨["Phli", "Inscriptional_Pahlavi"], "dxgQ+SG+H", ""⟩,
   ⟨["Phlp", "Psalter_Pahlavi"], "dxhW+RI+DN+G", "cjO"⟩,
   ⟨["Phnx", "Phoenician"], "dwjG+bBE", ""⟩,
   ⟨["Plrd", "Miao"], "fizO+cWF+cEI+Q", ""⟩,
   ⟨["Prti", "Inscriptional_Parthian"], "dxfK+VD+H", ""⟩,
   ⟨["Rjng", "Rejang"], "cmbW+bJM", ""⟩,
   ⟨["Rohg", "Hanifi_Rohingya"], "dxwQ+bNJ+J", "chOPEbHfS"⟩,
   ⟨["Runr", "Runic"], "ioU+cWE+K", ""⟩,
   ⟨["Samr", "Samaritan"], "daU+bTD+O", ""⟩,
   ⟨["Sarb", "Old_South_Arabian"], "dwwU+bF", ""⟩,
   ⟨["Saur", "Saurashtra"], "clvC+cRJ+L", ""⟩,
   ⟨["Sgnw", "SignWriting"], "gwtK+zBQ+EC+O", ""⟩,
   ⟨["Shaw", "Shavian"], "dupC+bV", ""⟩,
   ⟨["Shrd", "Sharada"], "dzoY+dR", "dnThkGCD+BD"⟩,
   ⟨["Sidd", "Siddham"], "ebcI+cBD+bL", ""⟩,
   ⟨["Sind", "Khudawadi"], "eaaQ+cGG+J", "doM+BcidN+J"⟩,
   ⟨["Sinh", "Sinhala"], "fcZ+CC+RE+XC+ICD+GEF+FCC+HH+JD+CdulH+T", "doM+B"⟩,
   ⟨["Sogd", "Sogdian"], "dysE+bP", "cjO"⟩,
   ⟨["Sogo", "Old_Sogdian"], "dyqI+bN", ""⟩,
   ⟨["Sora", "Sora_Sompeng"], "dziE+YI+J", ""⟩,
   ⟨["Soyo", "Soyombo"], "ecxS+dE", ""⟩,
   ⟨["Sund", "Sundanese"], "kkU+cLjX+H", ""⟩,
   ⟨["Sylo", "Syloti_Nagri"], "clqE+bS", "doM+BeZ+J"⟩,
   ⟨["Syrc", "Syriac"], "cqY+NC+cHD+CkN+K", "chOP+BDbHL+KbBixSC"⟩,
   ⟨["Tagb", "Tagbanwa"], "iwE+MC+CC+B", "iuN+B"⟩,
   ⟨["Takr", "Takri"], "ebmE+cFH+J", "doM+BcidN+J"⟩,
   ⟨["Tale", "Tai_Le"], "jpG+bDD+E", "geA+J"⟩,
   ⟨["Talu", "New_Tai_Lue"], "jrC+bRF+ZH+KE+B", ""⟩,
   ⟨["Taml", "Tamil"],
    "ejI+BC+FE+CC+DE+BCC+BE+BE+CE+LF+EE+CC+DDHP+UealI+bXO",
    "dnT+BS+BhjPcbbLboeGCcE+B"⟩,
   ⟨["Tang", "Tangut"], "fjiEbG+jbZJ+bdNtT+I", ""⟩,
   ⟨["Tavt", "Tai_Viet"], "cmoU+cOZ+E", ""⟩,
   ⟨["Telu", "Telugu"], "eoE+MC+CC+WC+PD+IC+CC+DI+BC+CDD+DD+JI+I", "dnT+BS+BhjPY"⟩,
   ⟨["Tfng", "Tifinagh"], "rcY+cDI+BP", ""⟩,
   ⟨["Tglg", "Tagalog"], "isM+VK", "iuN+B"⟩,
   ⟨["Thaa", "Thaana"], "cvW+bX", "chOP+BDcN+JdptHL"⟩,
   ⟨["Thai"], "fhX+cFG+bB", ""⟩,
   ⟨["Tibt", "Tibetan"], "frS+cTC+bJF+bMC+bJC+OC+GF+B", ""⟩,
   ⟨["Tirh", "Tirhuta"], "easM+cTJ+J", "dnT+BS+BhkNcatA+J"⟩,
   ⟨["Tnsa", "Tangsa"], "fhgQ+dAC+J", ""⟩,
   ⟨["Toto"], "hatK+bE", ""⟩,
   ⟨["Ugar", "Ugaritic"], "duhC+bDC", ""⟩,
   ⟨["Vaii", "Vai"], "ckmQ+lN", ""⟩,
   ⟨["Vith", "Vithkuqi"], "dvaE+KC+OC+GC+BC+KC+OC+GC+B", ""⟩,
   ⟨["Wara", "Warang_Citi"], "echC+dEN", ""⟩,
   ⟨["Wcho", "Wancho"], "havG+cFG", ""⟩,
   ⟨["Xpeo", "Old_Persian"], "duiI+bJF+N", ""⟩,
   ⟨["Xsux", "Cuneiform"], "efbS+bjLdZ+eGC+EM+hN", ""⟩,
   ⟨["Yezi", "Yezidi"], "dylK+bPC+CD+B", "chOPEcN+J"⟩,
   ⟨["Yiii", "Yi"], "cipK+bsUE+cC", "seR+BG+JD+HiQdaeG+E"⟩,
   ⟨["Zanb", "Zanabazar_Square"], "ecuQ+cT", ""⟩,
   ⟨["Zinh", "Inherited", "Qaai"],
    "bdO+eHkS+BrL+KbBbcJ+DgoY+bEtU+CC+MC+GFHE+BhR+cLuF+BhN+bGftY+DeE+BczuK+PR+NblOiTgfBctcV+bTD+W
     uZ+CS+HD+GbF+DbtlhJ+jF", ""⟩,
   ⟨["Zyyy", "Common"],
    "A+cMbB+FbB+bUC+OC+EYbGrI+bMG+ED+TeNKHCyOHPEbHgBtXfA+BbvUpQ+DlFcgM+CcU+BhW+BCbvIOI+DC+FC+CD
     bdU+LD+dIC+KE+KC+OS+bGcM+bLC+CD+FC+bAC+QbQ+CF+zMbA+KW+bjRjX+yDD+bFC+eAtT+dPpN+UCC+YQ+HF+D
     dO+BEdN+BfS+PbH+bJMbX+cLbG+dCbWdL+gLjtP+cLbhsJ+bHdZ+CgK+JjLgFpGP+BbezR+BiB+JX+bIC+SC+DfSC+bF
     bB+FbB+KLbU+BcN+GC+GL+EjZ+CF+bSE+IdD+McA+bSiV+bAcshX+DhbX+eLcJ+jLL+bMD+cJE+QJ+BI+bDF+cIiG+T
     N+TN+dIK+YfG+dGC+cSC+BDD+BD+DC+LCC+GC+cMC+DD+HC+GC+bBC+DC+ECE+GC+nBD+lFD+bXhtI+cPcZ+cIbbF+bR
     F+dVN+OD+OC+OC+bKL+gRcF+ZC+BO+bRF+II+BP+FfZ+blVF+QE+ME+eOF+dQH+LFQ+LF+cDJ+JH+bNJ+bDD+BdB+nB
     N+ND+ME+II+bTC+GJ+NF+II+II+fQC+cCbM+JbsuxCbF+dR", ""⟩]

def script? (name : String) : Option Ranges :=
  (scripts.find? fun s => s.names.contains name).map fun s => .ofText s.text

def scriptExtensions? (name : String) : Option Ranges :=
  (scripts.find? fun s => s.names.contains name).map fun s =>
    if s.names.contains "Common" || s.names.contains "Inherited" then
      (Ranges.ofText s.text).minus (.unite (scripts.map fun s => .ofText s.more))
    else .unite [.ofText s.text, .ofText s.more]

end Inlay.Text
