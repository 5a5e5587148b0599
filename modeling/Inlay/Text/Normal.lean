import Inlay.Text.Ranges

/-! # Normal forms of texts

    A character that is made of others is taken apart into them, marks behind a base are put in
    the order of their classes, and pairs that have a character of their own are put together
    again.  Syllables of Hangul follow a rule; all other data are tables. -/

namespace Inlay.Text

/-- What characters are made of without loss. -/
def canonicalParts : Array Mapping := Mapping.ofTexts
  "hK+FC+IC+FD+ED+FC+IC+FD+EC+QD+TD+IE+DC+FF+FE+FD+RD+WbI+BO+BbD+PC+BB+B+BB+BD+FB+B+BB+CE+BD+bJ
   D+BH+JB+B+BB+BkJ+B+BC+BbWKH+FCC+CbA+GbA+EF+BbS+BCEF+CLbGX+BCEF+CY+B+BcW+BO+DD+BD+B+BB+DD+F
   D+B+BB+JD+BlL+EfYCRxAIDbK+C+BBB+B+BB+BeE+BQ+B+BCdGDbJ+B+BBDjAD+BQ+B+BcDcC+B+BBeUeQH+BC+BeX+B+B
   BfMC+CnTKFFFNKC+BCJSKFFFNeFedCCCCCEbPCD+B+BCbaZ+TB+B+BB+B+BB+DB+B+BB+ZB+B+BB+VB+B+BB+B+BB+H
   B+B+BB+FB+B+BB+B+BB+B+BB+NB+B+BB+B+BB+bDCF+LB+B+BB+B+BB+B+BB+B+BB+B+BB+B+BB+NB+B+BB+PB+B+B
   B+B+BB+B+BB+B+BB+B+BB+B+BB+DB+B+BB+B+BB+B+BB+B+BB+B+BB+HH+BB+B+BB+B+BB+B+BB+BB+B+BB+B+BB+B+B
   B+BB+B+BB+B+BD+BB+B+BB+B+BD+BB+B+BB+B+BB+B+BB+BB+B+BB+B+BB+B+BB+BB+B+BB+B+BB+B+BB+BB+B+BB+B+B
   B+B+BB+BB+B+BB+B+BD+BB+B+BB+B+BD+BB+B+BB+B+BB+B+BCCCC+CB+B+BB+B+BB+B+BB+BB+B+BB+B+BB+B+BB+N
   D+P+BB+P+BB+P+BB+EC+GCD+DC+ND+FC+SD+CC+HD+B+BlHE+BeH+BTbF+CcBFDYCbBDDCXCL+CB+B+BD+B+BD+B+B
   H+B+BD+B+BD+B+BbJB+B+BBbX+B+BB+B+BH+D+BcI+B+BcxUcbOCCCCCCCCCCCDCCH+BC+BC+BC+BC+BXKOCCCCCCCCCCC
   DCCH+BC+BC+BC+BC+BXD+D+BEcxtI+kJDCD+JCCD+BE+bNB+B+BB+ZD+eBcQCL+FB+G+BC+E+BCC+B+BC+B+BC+E+BB+D
   ibSCPfB+B+BuU+BoD+BCjS+B+BbiJcrtE+B+BB+EdJ+B+BB+B+BB+B+BehlG+bOB+B+BB+dHB+B+BB+eJB+B+BB+cZ
   B+B+BB+gEB+B+BB+bZ"
  "fA+chCA+CA+CA+CA+KA+EE+cGE+cZA+CA+CA+MI+PA+CA+CA+MK+JC+FA+CA+CA+CA+KM+PA+CA+CA+MI+NQ+BA+CA+C
   A+CA+KA+EE+cGE+cZA+CA+CA+MI+PA+CA+CA+MK+JC+FA+CA+CA+CA+KM+PA+CA+CA+MI+NA+OeH+HcM+AcL+EcM+A
   cL+cQcM+AcH+cZcM+AcL+CcM+AcL+KcM+AcL+KcM+AcJ+AcM+AcJ+PcM+AcL+EcM+AcL+CcM+AcL+cOcM+AcL+cDcM+A
   cH+TcM+AcL+IcM+AcL+CcM+AcL+cMcM+AcJ+cVcM+AcJ+CcM+AcL+CcM+AcL+EcM+AcL+cQcM+AcL+cNC+JcM+AcJ+cW
   cM+AcJ+cXcM+AcL+cYcM+AcL+cBcM+AcH+VcM+AcL+cYcM+AcL+cBcM+AcJ+PcM+AcL+EcM+AcL+KcM+AcF+TcM+AcL+cY
   cM+AcL+cBcM+AcJ+VcM+AcL+CcM+AcL+cWcM+AcL+cBcM+AcJ+cCcM+AcL+cBcM+AcJ+RcM+AcL+CcM+AcL+EcM+AcL+I
   cM+AcL+CcM+AcL+cGcM+AcH+cXcM+AcH+AcM+AcL+MC+NcM+AcL+McM+AcL+KcM+AdH+bEcM+AbZ+AcM+AdZ+bDcM+A
   bV+AcM+AbZ+AcM+AbZ+AcM+AhY+PcM+AcL+FcM+AcL+WcM+AcL+XcM+AeH+IcM+AyU+AbbB+AcM+AmF+QcM+AcD+AcM+A
   cD+cEcM+AbdE+cTdX+QqW+AbqL+AcR+VcM+AbX+BcM+AgS+CcM+AcJ+AcM+AbB+AcM+AoB+bCcM+AcL+EcM+AcD+DcM+A
   cL+EcM+AcD+DcM+AcL+EcM+AbZ+DcM+AcL+EcM+AcF+DcM+AcL+EcM+AcF+DcM+AcL+EcM+AcP+bQcM+AcJ+AcM+AdJ+bZ
   cM+AcZ+JcM+AcD+cMcM+AiS+cRcM+AcN+AcM+AmT+GcM+AbiK+FbkB+AcM+AbxUbMV+FgBbxBiK+AcfI+AceDceM+AE+A
   E+AM+AM+AI+AcO+AdT+OY+AY+NI+AE+AE+AbK+AbJ+OY+AL+NM+AI+AS+AA+OfE+PA+QD+NZ+ObO+ND+BW+MV+AcM+AF+L
   A+QD+NcS+OcD+ND+BW+MdU+ShF+RcM+AcX+AcM+AcL+EcM+AcB+DcM+AmO+EoX+AcM+AcJ+AcM+AcJ+HcM+AcL+IcM+A
   bZ+AcM+AnC+AoJ+AcM+AdF+HcM+AcL+IcM+AcL+GcM+AcD+FcM+AcD+AcM+AbkQ+cmWA+CcO+AcN+CcS+BkS+AbN+AbI+A
   buA+cfGQ+AG+AcH+AO+AK+AU+AI+AlS+kAA+bYcX+cBbC+AkC+jWM+AcP+AM+AbE+AvW+vSA+bVA+bYcX+cBiS+lYeA+bX
   A+bYjW+jUjI+jUO+AA+CA+bNI+bMjO+iCA+bYlI+iWA+KG+JF+bQbbU+bkIU+AK+AK+AK+AcB+DdU+fDA+EfA+YC+AfB+A
   cO+eGU+AK+AK+AK+AcB+DlM+jIigE+ijEE+AE+AE+AE+AI+AdE+AE+AE+AI+AulT+sfVcM+AcJ+cHcM+AcL+cEcM+A
   cL+bCcM+AhU+dRcM+AmN+McM+AcL+cEcM+AcL+bCcM+AcL+TcM+AcL+McM+AnK+dLA+CpT+dKcM+AcL+GcM+AbiS+dF
   blB+CcM+AcJ+FcM+AcJ+GcM+AcL+cEcM+AcL+cBcM+AcL+cKcM+AcL+OcM+AcJ+EcM+AhW+dPcM+AmP+AcM+AcL+cQcM+A
   cL+bCcM+AcJ+bBcM+AwoQ+cJwrB+dMcM+AcL+HcM+AcJ+dJcM+AcL+McM+AcL+cEcM+AcJ+cDcM+AcL+cEcM+AcL+bC
   cM+AcL+HcM+AhY+dJcM+AcL+OcM+AgS+PA+CtJ+AcM+AcL+McM+AcH+AcM+AcL+cEcM+AwqY+cJwtJ+dMcM+AcJ+dFcM+A
   cL+cEcM+ArU+cDM+AvzG+AwtV+AcM+AcL+cEcM+AcL+bCcM+AcL+HcM+AcJ+RcM+AcL+YcM+AcL+FcM+AsS+dJE+OvF+J
   cM+AcL+cMcM+AcJ+cRcM+AcL+CcM+AcL+OcM+AcL+BcM+AcL+cEcM+AcJ+cDcM+AcL+CcM+AcJ+BcM+AcJ+JcM+AcL+cO
   cM+AcL+bCcM+AbJ+AY+dDG+EE+AuE+FyL+cEcM+AcL+bZcM+AhM+PcM+AcL+BcM+AcL+ScM+AcL+LcM+AwnS+BwlF+BA+B
   A+SA+LwlG+GwzT+cGcM+AcL+bZcM+AcL+LcM+AhU+DcM+AcL+BcM+AcL+ScM+AcL+LcM+AwoY+BxbH+OcM+AcL+cAcM+A
   bZ+AcM+AcL+bZcM+AhU+PcM+AcL+BcM+AcL+ScM+AcL+LcM+AwpS+BwcL+BA+BA+SA+LA+cMzL+AcM+AcL+bZcM+AyE+P
   A+BA+SA+LA+cMbaH+cRcM+AcL+cScM+AcL+bZcM+AcL+LcM+AclK+bGA+CurU+bNA+CA+fAuuF+dPA+CuuW+bNA+CA+fA
   usB+dPA+CusS+bNA+CuvD+bKA+CuvU+bNA+CutD+bKA+CutU+bNA+CA+fAuwF+dPA+CuwW+bNA+CA+fAuuF+dPA+C
   uuW+bNA+CA+fAuxH+dPA+CuxY+bNA+CA+fAuuZ+dPA+CuvQ+bNA+CuyB+bKA+CuyS+bNA+CuvT+bKA+CuwK+bNA+CA+fA
   uyV+dNuzO+bNA+CA+fAuwT+dPA+CuxI+bNA+CA+fAuzT+dPA+CvaK+bNA+CA+fAuzT+fBJS+APU+ARW+ATbG+AbAN+AQ
   H+AKupO+fIcM+AeY+AuzD+eVA+DvaK+fAvaJ+AJ+AK+FvfU+GviF+eVA+DA+HVW+fIdCciJ+FxiM+GvaF+AR+AS+FvgO+G
   vjD+fHZbE+AbBbC+fIviM+fHA+CA+fAvfV+ePA+DbI+HeLdE+fCbI+AdT+ePA+DA+HbDvoI+AA+CA+fAvjT+ePA+DM+HcB
   bI+bMA+CI+dOM+AcX+ePA+DA+HbTbM+bOcgN+bNceKcjXxoQ+fIuzL+AK+AJ+FviW+GvmB+fHbLcG+AbZcA+fIcgFxsM
   vmFcoHjKyvU+ZE+AE+AeQ+AI+AD+AdU+AK+AG+AbW+AE+AbU+AO+AE+AG+AzuJ+AzwI+AbN+AzuV+AE+AzwM+AbC+AI+A
   I+AQ+AI+AcE+AM+AG+AdP+AbQ+AcO+AkcQdxT+AecY+bijQE+AE+AE+AE+AE+AE+AE+AE+AE+AE+AE+AG+AE+AE+AO+A
   A+CG+BA+CG+BA+CG+BA+CG+BA+CeB+BgS+AbC+AE+AE+AE+AE+AE+AE+AE+AE+AE+AE+AE+AG+AE+AE+AO+AA+CG+BA+C
   G+BA+CG+BA+CG+BA+CeB+BfQ+AbC+AcrdUbchBbeeMbnNwsBysJeiGcfjAAcbgFbquQbtrFcvYgoYpmSgxKfcMbdEyMftM
   bdfDcjAcvSchMmkKjzMglYcfdLdtMrvYfjQpfGsdMbxcDocKqoYcsSbdgFxnQetQbfhXghMeuOefSwpGbxlNbrEwSnoM
   epIfmOdrIgxGeoOgQftEhaKdfMbyCbcjBsSddIerIlnYisCoxDblvXerAwgEddCkrVewEpdGhtAbvbHcrSkjQcwKxUksE
   uIsgEbzcRbiqKbjjHbFbenWctOesCoaQihTbevHflUyzObuaRkjKdeCotEblQbaaJbcsEbffZmbKniTxhMfoHryAbfiR
   dmSxfIkbOevQxlFbbgEbaqHhfVyeGxrTnlYbdiJcbUhKrfKplSeeYgjEfhQbvpRzQdyGedUfeWhtIgyQvpMdpIdeGeG
   cfsNphEdoKbbfIblbNcjGiQbzGhzMbqIcmAdzMdeAbwWldUhtFimSckCbxjXkUbpKvgGseEblObhgBxCcrKgfMmoEgqZ
   bbsBgdEdtCbjYbuYovSoCimKnGnpCdpSgIqAccyRbfxUsfCduUbouFnxLbtWikEgGhcEdiWfxOdjSleAisMlkSbreVbkcI
   bzgBpwMjGeaMbaSecWzWciMdnMurScbsZmrYbnpScbgJjuQmtEzeUbkbTbhYfeKirGbanEbzuFblKgiEhiQyGbaQdfMfkK
   bkQhgWhbWbKgtQdwEbzfXuvEueBwmWccUneImqCeiIbsYbprResEpgCfkBgObcMhlJbqJugSbtxFbntCblcPdXjoOdeG
   tsGzgBniOewHbesCfgNkpUjrFbgjFkhHdkQbzGkrSppJzfSctKbwEcQOdGwoKudRchAeuSdsMdzKpEgaMbAdKdlOjsTelE
   cbuVyChWbdGcCiKbtGiChObkIiAcvOUddSqIcYhScoGlInMbmMdtKmOuIbtGoObmSdjInIWBQMOdSnUfAyObrKbQeIxMlI
   blOkUAbkUdpAkIbbYeIbfOeCcaUkAfbIvWeQbqgHoblAnbyPbniXcsCfXblNbiWeOzEdYbzYfNfGfQbwQgWlEbGuUpGcuE
   OlCfGxAjCfJkIdNlGfCbeUgUeEuAwAmOIeOddMfAbeCbfObFgStKzWesOedFjKjMzElMeCrKEnEbIbYgQTbeMblIuWoKrG
   lUzKpIcnAmCcrSbjCfIbGwWeKdLeEFbHfWgGbdKbrCyEwSrAdbGhYiWkGcUYdScdYdlKllkULitUorxFdkGcOplmEhzI
   ztUnzfRfUemkV+bgmRbY+GR+UA+ChdwA+BA+ChdxX+VA+CA+IQ+AM+AE+AG+AG+AbH+FH+MU+AS+AhuaC+hufME+AU+A
   kU+iKbpC+bpEA+bYbcM+bbIA+TA+bAtQ+sQcqS+crAfjmA+fjnMQ+SA+CA+CA+CA+CgY+ZE+SA+ClhmPJSmrjUmqnRgAbA
   fMjGcKgAbVvjDnoqYmsyBObGbMmryWnnsVvsUcYmsaUmrzZbAcdZceQSqukAqufBbCwbVwgEWdKKwgPwmUEcCbSWbKdWQS
   bYUEAAmugOlyiPvsDbQmuxCmuwDMbQlShVbGcMeMgMcAfEbGcOAbQbKQbEbaEuXvApFcSdjDffYwDcYbYjZmWBjMmylS
   mygHKbEbOQeYmzgMfCmzaXdQYgBkYbawLbCbbhWeEAnafKmzvDbQbEYnarInaqJOcnAckVbbtHbbyCbCgIdXnciOnbuN
   nbuSnbrJFbIhUbcoHbcqMdIbQdKbcuVogmCogkBbcyIGGbOqxwYqxsXnemWAmdzJbakRAbdbHotfEbjsEozrBSbdeTbdiK
   dYUcQkMbdtLcHbdxGngbGnfxHjYIEDdObOcUbBWdQbOIcAWfCgMcSjOnheMnhfXeZiIcChMnhkSnhfXhDcDbfkVbfzQbQ
   cKcXbfvXbgmOcGnjjGnjaBvInLbgsLbgyAbgzHcTreQGqfUhRttIbubVbasAIMeSVnktCoscHbhwCiZpUdYnkiQnkhXiN
   sWbilHbioWhMfMoQnkkCnkgDbjkVbjqGnloMnlkNbjpZbjsIdMcCnmoCwjBwrMnmlBnntSnnkZbChVnMdCeKeDdCbEbA
   nndInnjNtIeWblhLbloQHnnmAnobVbcSnnkAdSnngXiWcBFbmgVbmkMdYLeEluiYltxFnohGnoaNnozUnooZbAcCnqgM
   nqcTbQnqyIrEnqxVbIbobDbodEbocFAbooSbQbQbOfIborDboyCnsuMnssLnszOnsvRmmhYmlvPnurQbUkUpkdBYbppO
   nvaCBdAcAnvbTCdIbpsJbpxKbpwJgEpmpAnwjTeUeYbqiZpnxEnxdNnxmMdInxlJhCbqzFbrfUUKnyyCxAAnziVbrcX
   prfUnzmFGbrqXprtInzhZbsbZbsdSJcGobmAobeJbsfRbsnKeOfEbstDpvgAcKpvfNpvqUoccRockMociJhUWodfMfQ
   odeBodoIodnBmrkWoliHbucOgGbuePbujEbdeVphpKbCbnmPSmqkRGkhWceyVbvbWLbKbkhNbkjCEUdEofwMofwNeIfKfS
   kPlWdGiQtZjEEbGofwUxUlNqbvNbwhWEcSokrWoklVogyYqdlTIqdvSwGqerDbxdYYWEeYcNkIdJlQgFfEcCbxtLbyaMcM
   byaHbyhQGokeIojvJObymRbyoWcluZqxgOoEqkdZSbzkCfYmCpQolxUolrDbSgYhComzGdmgRlamBbDeAlbaAlaiLhS
   oqrKcCopsRhEcMoqhUoqgZvYmGgZbdIcEorqWoqoBcfnVcfrGoroAqwyZcgfQbrfTbrnEotiYqKrabVQcgqMouwYrbiT
   rbtOoveJAcIovyGovjZcgvTchbGjScCeQchfRrfxSoxwTxGoOcisZcKciyUpajMrjhJrjlQuKkCparZcjqVcjvQKOUOcW
   pcxU"

/-- What characters stand for when their looks do not count. -/
def compatibleParts : Array Mapping := Mapping.ofTexts
  "gEICFD+B+BB+BD+CC+CeM+BM+BJcCcR+IbL+ChH+IbG+FD+EfUKcY+CD+BbAB+B+BC+BEpIjE+DcyDeYbP+BbVeDCoX
   eqA+CC+B+BBB+H+BC+DB+B+BB+BB+B+BB+BB+B+BBB+B+BBC+EB+B+BBB+B+BB+DB+C+BB+B+BB+BB+B+BB+B+BBB+B+BO
   bJ+IB+C+BB+GB+D+BBB+B+BBB+B+BBB+B+BBB+C+BBiLlFC+BcKE+IHGN+CJE+BC+BFCJ+COIR+BD+F+BB+CB+B+BB
   B+J+BB+CB+B+BC+FB+D+BBB+B+BMdK+DC+CC+KC+BD+C+BB+BD+CCEE+B+BCB+B+BC+BB+D+BBC+FFB+B+BB+B+BH+C
   B+B+BB+D+BB+TB+B+BB+NB+B+BBKgH+BC+BvO+I+BB+bEB+I+BB+bKB+Z+BB+Z+BBbyOeA+CtY+BjIlSdGN+iFbRcCC
   B+B+BdT+BDdSbY+B+BB+BB+B+BB+C+BB+F+BBB+C+BBB+J+BB+U+BBB+B+BB+B+BB+HB+B+BBB+B+BB+BB+E+BB+EB+B+B
   B+C+BB+B+BBB+B+BB+CE+NdT+bEC+bNJ+QB+B+BB+C+BBB+B+BB+E+BBB+B+BB+C+BBB+B+BB+E+BB+CC+cLB+I+BB+K
   B+B+BB+NB+F+BB+DB+E+BB+BB+F+BB+D+BB+dKB+J+BB+eVB+I+BB+WbrkN+BiDfA+CE+BbhJ+DKbedR+GN+EJ+BB+B+B
   B+C+BB+CbM+bTB+B+BB+bFB+B+BB+DB+B+BB+HB+B+BBbI+dFB+B+BB+bXB+B+BB+fMB+B+BB+bGB+B+BB+ZB+B+BB+D
   B+B+BB+GB+B+BB+BT+cLD+cBbP+MUB+B+BB+B+BB+BB+B+BBX+EB+B+BB+BB+B+BB+B+BB+B+BB+B+BB+D+BD+LC+E
   B+B+BB+BB+B+BB+BB+B+BB+DCB+B+BBF+CCC+JB+B+BB+B+BB+B+BB+B+BB+B+BB+BB+B+BB+B+BB+BB+B+BB+B+BB+B
   B+B+BB+BB+B+BB+BB+B+BB+BB+B+BB+BB+B+BB+B+BB+B+BB+B+BB+B+BB+BB+B+BB+BB+B+BB+BB+B+BB+BB+B+BB+B
   B+B+BB+BB+B+BB+BB+B+BB+FB+B+BB+BB+B+BB+BB+B+BB+BB+B+BB+BB+B+BB+BB+B+BB+BB+B+BB+B+BB+B+BB+K
   F+dP+BB+B+BBB+B+BB+QB+B+BB+NB+F+BB+DB+E+BB+BB+F+BB+BB+B+BBB+bD+BE+F+BD+F+BD+F+BD+C+BE+B+BB+EC
   B+D+BB+BcwP+B+BB+CC+DB+B+BB+LB+B+BB+HB+B+BB+CB+B+BB+GCB+B+BBB+C+BB+BczjI+Z+BB+Z+BB+Z+BB+G+B
   C+R+BB+Z+BB+Z+BBC+B+BDD+B+BD+D+BC+H+BB+D+BCC+G+BC+K+BB+Z+BB+Z+BB+B+BC+D+BD+H+BC+G+BC+Z+BB+B+B
   C+D+BC+E+BCE+G+BC+Z+BB+Z+BB+Z+BB+Z+BB+Z+BB+Z+BB+Z+BB+Z+BB+Z+BB+Z+BB+Z+BB+Z+BB+Z+BB+BD+Q+BB
   B+G+BBB+Y+BB+GB+Q+BBB+G+BBB+Y+BB+GB+Q+BBB+G+BBB+Y+BB+GB+Q+BBB+G+BBB+Y+BB+GB+Q+BBB+G+BBB+Y+BB+G
   B+B+BD+J+BB+J+BB+J+BB+J+BB+J+BiiR+B+BB+BC+EB+D+BB+GB+B+BB+IC+BCDCB+D+BB+ECB+B+BBCCHFCCC+CC+BCD
   CCCCC+BCD+DC+B+BB+ECB+B+BBC+DCC+B+BB+BB+B+BB+DC+C+BB+GB+B+BB+EG+CC+EC+C+BB+GB+B+BB+EwJB+J+B
   G+bEC+Z+BB+FbB+CbKeI+CO+bRF+II+BdqT+J+B"
  "cMA+chSfAeZ+HbKbJ+FctCctB+cYbIeUeT+wbI+eAA+A+DE+A+EbS+yfRcM+cMcF+fYcM+AbtO+fPbsZdP+uWA+CcM+A
   bV+xRA+cMcM+AcH+cLA+cMcM+AdF+bFA+cMcM+AIbnGbnBQbnYEMboDEgV+byEA+CA+GA+cIA+cVA+QbsObmROKbpQ
   bwJ+eMA+fFcsIMbLcOLLOdDcGbJbiQ+bxIoY+sQcO+AjU+AjP+AgbU+fwMjW+jWcP+bXA+QhKmW+rGC+AwWmoZkGkDEzK
   zDQbjYbjVEEGUbmCufSvrREbmOEbmLIErCqXblIugYvsDIvsKufJbmVvsWthDbOcoFSGclUbEKjEblTbmBbmIbbLbcAbmP
   bmWEIGunEujBdRunOujRdNBEMUqNrCudIudDboRbpCwUcnT+jrHeZ+gOA+AA+dQA+dNAAAAAAAAAyeYyeX+cKbCA+chL
   A+A+LbByhO+ygMA+A+ygMG+GA+A+GyhR+yhRB+ceYcK+ccPA+cHcH+cIyhM+yfE+F+ykAyhNbGeKeBRzrQzqFbPfKeTJ
   zrQzqFbPeKIUSblAbmFGKGcN+ybDbE+fF+ycJA+A+bGcHiK+bOfX+bN+HA+A+MxErF+bUfPcJAAcMoSrBAGcMcHA+dEEEA
   C+cPC+P+dDA+QMAbVcScLQcQebYecJcR+X+YcqMZcLbAxbMzpPcMKeH+ygK+cNA+A+EA+A+P+ygHA+A+EA+A+EA+A+C
   I+A+AH+A+EE+A+AE+A+AE+A+AL+AbWA+yfTA+A+bIA+bAbAA+ZA+A+AA+A+A+bYZ+bEbEA+bDA+A+AXRUcEA+cMA+A+cM
   A+bAbAA+ZA+A+AA+A+A+cMZ+bEbEA+bDA+A+AXRUeR+ydI+eDztE+blMA+A+zsYG+GA+A+GztHA+ztJA+CA+CA+CA+CA+C
   A+CA+CA+CA+CC+RT+C+ztXA+C+AA+C+AA+C+AA+C+AA+C+AA+C+AA+C+AA+C+AA+P+O+eXA+A+C+AA+A+C+AA+A+C+A
   A+A+C+AA+A+C+AA+A+C+AA+A+C+AA+A+C+AA+A+C+AA+C+R+AS+HA+E+DA+C+AA+C+AA+C+AA+C+AA+C+AA+C+AA+C+A
   A+C+AA+C+AC+R+AT+dU+JA+C+AA+C+AA+C+AA+C+AA+C+AA+C+AA+C+AA+C+AA+C+AA+C+AA+C+AA+C+AA+C+AA+C+A
   A+C+AA+C+AA+C+AA+C+AA+C+AA+C+AA+C+AA+C+AA+C+AA+C+AA+C+AbYcMdTztE+znM+ztS+ztSzsJ+zsJ+zsDG+G
   A+A+AdMbNbidAbvhGbngMcjvHdCbCScAdKObOcAbxQcYMbUbObQeCbQWlYhGcEKcIScCbAbYeAbKcCcgEfObjKbUQWbKfW
   bkSdSjGbUbMbSeEGbbWUYbAiYQKjAUbAQeSbIbKgEbsSdObQceYKgKbGbAbQdAKuObWcMdaEfCbUeMbWSOeAKcMdfAbiKY
   KIQbKEgGqQKbaCUdWOSQhAOrOOdUbIdQsGObIzEjSMoAgSdObdCkGbsEcCeKdYfGWMcOfWUbaQOSSbGbEIgCIMcxMcIbkC
   YbUvUbAfMdObrQbEbEcScWpIYfEtCcKqCbQKqYoEjQMKctWSmAlWGdQiCbAIOhOcQMbCmWdYIoCGbMtKdSOfKUGUcIbeK
   beUUcYbSQUIdCIbIKbAcCbEQeObEIequXbkiEbaqWGckzF+bkqIA+CbkrG+bFdI+eUyaFnCmXnCmZnIlNbNcCbVgUBfVnU
   KEKIEoNoWEoXGEKEEOIUOKmSlVdMISGUGbtsWkUkBgrSgrPcScPbdrAbdkZeXbVilSbmVgkPchnF+ybV+bNA+E+AA+C+A
   A+E+AA+C+AA+C+AA+E+AA+E+AA+C+AA+E+AA+C+AA+C+AA+C+AA+C+AA+bJ+nbC+ztRA+E+A+AA+C+A+AA+E+A+A
   A+C+A+AA+C+A+AA+E+A+AA+E+A+AA+C+A+AA+E+A+AA+C+A+AA+C+A+AA+C+A+AA+C+A+AA+L+bA+A
   A+B+J+muO+neO+njY+dEA+A+A+M+S+ngTA+bueK+nbRA+kU+AA+kB+AA+grS+AA+ggZ+AA+ceC+AA+cpF+AA+cpC+A
   A+ciD+AA+dsI+AA+ozM+AA+hcW+AA+deZ+AA+dvJ+AA+bgiC+AA+bslV+AA+leY+AA+bsS+AA+wF+AA+nuO+AA+bceJ+A
   A+xbC+AA+tvC+AA+opJ+AA+bdhH+AA+cxD+AA+egG+AA+fgE+AA+uvI+AA+befJ+AA+buuM+AA+brnH+AA+bcwG+A
   A+bgcD+AA+bmnI+AA+S+AcmmWgySfiSqrWdpiZ+dueN+cEcH+cRA+CA+CA+CA+CA+CA+CA+CA+CC+RA+CA+CA+CA+CA+C
   msWEGIEGbB+naEE+AG+AI+AE+AG+AA+A+nfO+bJ+JD+bA+nF+iYB+AbueKkUkBgrSggZceCcpFcpCciDdsIozMhcWdeZ
   dvJbgiCbslVleYbsSwFnuObceJxbCtvCopJbdhHbdqUdnDvaTbpqIbvxLbsUthObgrAcdgPbxWtnWwfXcScPmaGhnXoD
   giQdTuvIbefJbuuMbrnHejWcpiV+nbBA+CA+CA+CC+RA+CA+CA+CA+CA+CA+CA+CA+CA+CC+RH+czxGA+czxF+cndI
   A+C+AA+C+AbU+eCcG+W+czsZA+cDbX+D+cRbkpWEEEEGEEEEEEEEEEGEEEQGGGGMEEOwrY+cluMwxV+bbbP+bkxK+xsY
   A+cA+cZ+cZA+Q+K+CA+S+bIE+dT+Q+bCA+dC+dVE+fR+dWE+bG+fF+fW+xtWA+fE+H+AE+R+bCA+S+dAC+gT+U
   A+fI+cZ+dZA+I+dA+eAC+A+SA+M+bPE+fLA+cK+cIB+cA+bJ+AC+M+dF+AB+EA+A+bF+bL+bUA+A+dU+bM+bV+bkyE
   A+A+bC+eJ+AG+H+bDA+A+A+K+dIB+E+cT+cT+LA+E+eY+dEE+bE+fDE+bH+bIA+bI+bME+gT+dN+cIA+gC+bK+bI+Z
   E+R+dW+fVI+S+dVA+A+OK+S+bDO+fHE+eAB+QE+cVI+V+bEC+cJ+HE+gU+R+fE+bVA+A+SB+A+dC+PI+gX+dX+cR+cS
   A+bA+dWA+IB+eIE+fR+D+J+cPA+E+bM+KC+cM+fH+cN+cQB+cY+eQG+eL+dZ+gO+AE+bCA+bC+bMD+cM+bBE+Q+VA+S+B
   B+A+OI+gT+eA+dZB+fM+dHB+QE+A+CD+S+cQA+A+QG+gT+fF+cWA+A+eQA+cK+cDA+dC+cLA+Q+Q+L+QC+fF+eE+YA+eO
   A+A+cF+S+PE+eTA+A+P+RA+gE+A+PG+A+CA+A+cQE+gX+QI+cO+dH+AA+cYC+bP+eAA+dC+cX+AC+cDA+bM+bB+eJ+Q
   G+dR+AbkxX+bwlOC+dhgB+bwlEA+C+AA+C+AA+C+AA+C+AA+C+AA+C+AA+C+AA+C+AA+C+AC+R+AA+C+AA+C+AA+C+A
   A+C+AeE+cE+dhcHH+bIcR+XcO+Y+bIbA+VC+bAX+UA+A+eYA+A+CcB+bVctiI+cwaOfwE+kgDjwL+rhUjuC+baM
   bpO+kjF+chjY+ccyQdaoP+ctuXD+AcnC+AcnD+AD+AcL+CE+AL+AcE+cK+chpJQ+E+V+dnnFK+cFD+AcnC+AA+cOcnD+A
   D+AcR+bMcS+dV+bYcH+A+AL+A+AbA+A+AcpC+yvUcnD+AR+AO+AJ+ysXQ+AcnC+AcnD+AT+AQ+AE+A+eIT+A+AU+fI
   D+fH+AE+A+CT+A+AU+fKD+fJ+AE+zmU+eXA+A+A+fKcF+znRcC+bH+bJcH+A+AL+A+AdI+bI+GA+A+A+zhM+bktB
   A+A+A+A+A+bknPD+bKD+AcnC+AcnD+AG+cFD+AcnC+AcnD+AD+AcH+AcS+CD+AcnC+AcnD+AD+AcH+AcI+cnKcH+A
   bO+cqN+S+zrPcJ+fEcO+bBA+CcL+znM+D+eKA+zmP+eRcO+dLcF+eGcO+bVcL+bHcO+cIcH+cRA+EcM+dAC+NA+CA+C+eK
   A+SC+bRA+O+KA+M+AcF+cZcM+bZ+C+eJcL+cQ+cLA+EcS+cMcL+II+bNB+znQ+cMbP+A+AbF+bzjKA+czaV+cywEA+C+A
   A+C+AA+C+AA+C+AA+C+AA+C+AA+C+AA+C+AA+C+AC+R+AA+C+AA+C+AA+C+AA+C+AA+C+AA+C+AA+C+AA+C+AA+C+A
   C+R+AA+C+AeA+dS+cywFcyOEetoOewpZGWqKdMevpOdcAexvZexyCexvLbqJ+KA+GA+GA+L+FA+A+GvQ+bCuP+AduO+duQ
   A+bHA+MU+WT+RiMbJGQbAEejDehE+iOmKAUAAAGAAAEAAALAAAKAAALAAAdIAAAEAAAcPAAABAAAGAAACAAMABAEALAbGA
   NAbWAAAMAAAIAAADAAASACAAKACAAFAAAbOACcXAAAcAABAEAgFgMALAIAOAAAkJAcR+fUA+AA+nKA+AA+kVA+AA+jUA+A
   A+BA+AA+EA+AA+QA+AA+AA+kJA+AA+AmUAAAmT+cFA+CA+bWA+IA+CE+cHA+CA+CA+bUA+IA+CE+cHA+CA+CA+bUA+IA+C
   C+cHA+bYA+IA+CC+cFA+bWC+bXA+bYC+bXA+CA+bWK+bXA+CA+CA+bUE+bVA+bWC+bXA+CA+CA+bUC+bVA+bWE+bXA+bY
   C+bXA+bYO+bXA+CA+CA+bUA+IA+CC+cFA+bWA+IA+CC+cRA+KA+CA+CA+bSA+CA+IA+CC+cHA+CA+CA+bUA+IA+CC+cH
   A+CA+CA+bUA+IA+CC+cHA+CA+CA+bUA+IA+CC+cHA+bYA+IA+CG+cHA+CA+CA+bUA+IA+CbZ+cYbY+AerH+cT+emCA+C+A
   A+C+AA+C+AA+C+AA+C+cKeoQ+cLA+CA+bMA+CA+GA+CE+bXA+CA+bMA+CA+GA+CE+bXA+CA+bMA+CA+GA+CC+bXA+CA+bM
   A+CA+GA+CbS+BA+CC+BA+CC+cRA+cGA+CA+IA+CC+JA+IA+CC+cRA+cIC+bNA+CA+bMA+CA+GA+CG+cYC+eVA+CA+bMA+C
   A+GA+CcT+cHA+CA+CA+bUA+EE+cBA+CA+CA+bUA+EE+cBA+CA+CA+bUA+EC+DC+bVA+bWC+bXA+bYC+bXA+bYK+bXA+C
   A+CA+bUE+bVA+CA+bUC+bXA+CA+CA+bUC+bVC+bWC+bXA+bYC+bXA+bYO+bXA+CA+CA+bUC+bVA+bWC+bXA+CA+CA+bS
   A+CC+bXA+CA+CA+bUA+EC+cBA+CA+CA+bUC+bXA+CA+CA+bUA+EC+cBA+bYA+dIG+fFA+CA+CA+bUA+EcT+DA+EE+DA+E
   E+DA+EC+DA+EQ+DA+EC+DA+EbE+FA+CG+AA+EI+DA+ET+O+cJA+C+AA+C+AR+NA+CE+BA+CC+BA+CN+BA+CC+BA+CN+B
   A+CB+BA+CE+BA+CO+BA+CC+BA+CD+cHA+CA+CA+bUA+bNB+AE+AE+bWA+CE+BA+CC+BA+CN+BA+CC+BA+CN+BA+CB+BA+C
   E+BA+CO+BA+CC+BA+CD+cHA+CA+CA+bUA+bNB+AE+AB+JA+CA+CA+bUB+EI+DH+bXA+CA+CC+DA+CA+CG+bUbF+MA+A
   G+cJ+XA+C+bXA+A+AA+A+bYA+C+AA+bU+bXA+A+CA+A+CE+A+BA+A+AC+A+cGA+A+BM+bV+cFA+B+CA+A+cEA+bY+cD
   A+A+AA+A+BA+A+bYA+A+AE+bV+bVA+A+AA+bW+bWB+bV+AA+A+AA+B+KA+bY+cDA+A+AA+A+bUA+A+AE+bV+IA+C+H
   A+A+AC+bU+bVA+A+AA+A+bWA+A+KE+bX+JA+bY+AA+A+AA+A+IC+A+HA+A+KA+A+BO+bT+HA+A+AC+bU+bVA+A+bW
   E+bV+AA+A+KA+A+BA+B+cFA+A+AA+E+bYA+A+AA+bU+bVA+A+AC+bV+BA+A+bYA+A+KA+B+cFA+A+bWA+E+bXA+A+bY
   A+D+bTE+bY+DA+A+bYB+bV+AA+A+IA+B+HA+A+AA+A+IA+bY+CA+A+BI+A+HA+A+AcP+bT+KE+D+AA+A+BA+E+CA+A+B
   A+bU+CA+A+BE+A+CA+bV+BA+bW+AO+bT+AE+B+CB+A+AE+A+AbC+B+AA+bY+AM+bV+AA+B+AA+bY+AJ+A+AF+A+AI+bV+A
   H+bW+cFE+bV+bWV+bW+KU+A+AG+bX+cFB+E+cGB+D+JB+bY+AC+bX+AE+A+bVbZ+C+cGC+B+AbW+A+AH+bY+AbX+bV+A
   cC+bW+JT+bX+AH+bY+AD+bT+KbM+D+AbH+bW+kMbA+A+AcB+A+kX+eqCA+B+cD+bRcI+bR+cG+DbF+bU+X+bSH+bH+bE+B
   Q+bI+E+GbE+bH+L+DbL+bI+KA+A+A+eqZ+eiI+efS+eqG+etQ+cM+esO+etK+etW+etQ+cM+etS+esC+etK+etM
   R+A+erH+epC+cG+cF+A+AK+kM+eoS+bWeoNbkfYbkeVbXcIbkgCmbVBbHByaHAeFgKEbkbEHLDIbkdDEydUAAAydPAAdX
   bkfYbkfTbABKcHyfEyePgKEbkbEbkiBGIGbEEBcKeHcEcL+jXeqQ+AeqP+CA+CA+CeqQ+AeqP+CeqQ+AeqP+CeqQ+A
   eqP+CeqQ+AeqP+CeqQ+AcJCCCCCAACCAACCAACAACAACAACAACCCCCAACAACAACAACAACAACAACAAOAAACAACAACAACAAC
   AACAACCCAAL+dRA+AA+CA+AA+EA+AA+EA+AeqVbfjCexUUVtGRgFEEEEeMEEcTeKgXEEEEGEEEEEEEEEEGEEEQGGGGMEEO
   IgXpQdXcIMMMbkxXUGRBygMdhQcpVdcAdIbamVblRbhMfJgEexvIexvDBfZuqGuqBMfUfHDDeObcPbcSeBcGcYeTnwzG
   jbxJevbRnwzEnwwRnwwUnybZbdKbnTboCnwyMnwyFGdCDexvEexvBcJbftIbfsTbKRqPnxmYbOnyrXcMcLcMQdBcMcLEIG
   IKbCKEQdPcMcLGMSbCcLGKMIbCcLcMcLcMcLcMcLcMcLcMcLcMqAuEbaQhQgFxaMwzJwzAwtTcTcKcBcEcBfHhQgFxaM
   wzJwzAwtTcTcKcBcEcBfHhQgFxaMwzJwzAwtTcTcKcBcEcBfHhQgFxaMwzJwzAwtTcTcKcBcEcBfHhQgFxaMwzJwzAwtT
   cTcKcBcEcBMcuHAAAAenMKGbYbRJUbMNbFMQXbAbHGTIEMEEeAfWbXdVfLIcCbZcGNbFMQXbAbBTIQIbBCcGLEbLMHbAbB
   LQIjWfTfLIcCbZUbMNEbJMQXbAbBTIQEEeAdYjJKGbWbPJUbMLbHMQXbAbHGTIEMEEbJIGbYbRJUbMLbHMQXbAbHGTIEME
   EeoX+enPA+DP+bQ+enZA+C+AA+C+AA+C+AA+C+AA+C+AA+C+AA+C+AA+C+AA+C+AA+C+AA+C+AA+C+AA+C+AA+C+AA+C+A
   A+C+AA+C+AA+C+AA+C+AA+C+AA+C+AA+C+AA+C+AA+C+AA+C+AbkhS+N+bkhSbkfPbEbD+bDbO+bSbRO+HK+AM+bJA+bE
   F+F+bkeFO+ZT+AA+CA+bCR+PbknM+bkjIeI+iAEbloMfgXfsNbanPwoGhzWbkySbkxNhzDruMiiSitBopZkaWkpPpgOovL
   bgrQgeFrvObneNdoVuiWjmBoUqeBSbyeSbmeHlxPejSlkYbgdEbgqZroMtEbddBubGfqZBktAbaiJcmIbtdM
   cvqN+bpgS+bkeGA+taZ+AA+kC+AA+jvU+AA+qbG+AA+kxN+AA+poA+AA+bbgL+AA+nzW+AbjzQivNcllD"

/-- The classes of marks, zero elsewhere; a run has one class. -/
def markClasses : Array Mapping := Mapping.ofTexts
  "bdO+U+BBB+D+BB+BB+E+BB+B+BB+D+BB+B+BB+K+BB+E+BB+D+BB+H+BB+BB+C+BB+C+BB+B+BC+C+BB+D+BB+BB+B+B
   B+BB+B+BBB+B+BBB+M+BkQ+E+BkGB+D+BBB+C+BB+BB+F+BB+F+BB+B+BBB+B+BB+LB+B+BB+CCC+BC+BCcV+H+BB+C
   bX+HB+B+BB+B+BB+E+BBB+B+BBRdY+G+BD+D+BB+BD+B+BCB+B+BBbKbF+BB+B+BBB+B+BB+C+BBB+B+BB+BB+C+BB+G
   B+B+BgF+G+BB+BKZ+D+BC+I+BC+C+BC+E+BbS+C+BcJB+C+BB+D+BbR+E+BB+E+BB+N+BCB+B+BBB+B+BBB+C+BB+C+B
   B+CB+C+BBB+B+BB+B+BB+E+BcJRE+BB+B+BeARbXcKReHReHReYeHRI+BdYReG+B+BReVeG+B+BBO+D+BeF+B+BBO+D+B
   cZ+B+BbCCCcE+BCG+D+BDC+B+BBC+B+BcLeJC+B+BdFbbS+C+BbkN+B+BbFgCLhWfO+CiM+BcUV+H+BDbX+E+BB+F+B
   B+B+BBC+B+BB+B+BB+B+BB+E+BBB+D+BdYQbN+BB+G+BcD+B+BcHM+B+BcQfX+C+BCB+E+BB+B+BB+D+BBC+G+BFHE+B+B
   hR+B+BBB+G+BBB+B+BB+DB+bK+BBB+B+BB+GbbT+B+BB+B+BB+D+BB+C+BB+B+BFE+B+BB+CB+B+BB+D+BBeoD+C+BfM
   dT+bF+BvJ+DB+B+BeC+B+BbsqFF+J+BbH+B+BdD+B+BkRbMfWbC+R+BcG+C+BbMdSNjGC+B+BBD+B+BG+B+BCcBjNbdzT
   bdQ+G+BB+G+BB+B+BblMiTfU+E+BcmTCbP+CFgK+BwC+D+BoY+B+BfY+B+BB+C+BB+BB+D+BbY+DhLbQPcG+BcS+C+B
   bX+B+BcLcZKeD+BgX+BdD+B+BRZ+G+BE+E+BhYEYdW+BjS+BeXeP+BeMkK+BjZ+B+BFgBdGTdEqGjZC+B+BdEbdhP+E+B
   cI+G+BbuO+B+BbdaZhwP+B+BB+C+BEB+E+BJ+H+BD+E+BB+B+BbF+D+BfT+C+BffG+G+BC+Q+BD+G+BC+B+BC+E+B
   kC+G+BoMcK+D+BcfX+G+BeG+F+BB"
  "rSEXYbFIbJbKbJbKqVqWUUTTUTUTUEXUGCBCBFATUTUPDUTUTUPMEqXCCCCCCCCCCCCCCCpUTpNqIpJCCJCCCCCCCpCTUT
   UToFpAATUATUToDoYTUTUTUTUTUTUTUTUTUATUTUAAATUTUATUTUTUTUToVCCpMTUTUrDErATUrDErArDEDEDEADEfUOgL
   EAAAhGhFhOWiJiShOAAHgRCEDAhSqZrATqJEqGUqZAArADLQTUTqFrATUTUTAUTUTUrDErATUqZDEDrErPqWUTUrPqWUAA
   TUTUIbNMbJcEEHPDYGZUTUrPrQrPrQArPrQTUrPqWUAqZrAXUITEqPrCAAAqZAArATqFDErAATUAAqZAbIpSTUTAUTUArP
   qWqFrATUATUTUTUTUTqFAAADrEqZDEDEDAEDErAAqZDrEqZDEDEADEADEDEAAAADEAPrQrFJqOqNrITIUTUAAAAAAAAATU
   rD"

/-- Characters that are taken apart but never put together. -/
def neverComposed : Ranges := .ofText
  "bgEchW+HeV+BCdGDbJ+CDjU+BbmKKFFFNKC+BCJSKFFFNkhFdawNCL+MC+ECC+BC+BC+IddbS+GdJ+F"

def markClass (c : Nat) : Nat :=
  if c < 0x300 then 0
  else match Mapping.find? markClasses c with
    | some m => m.head
    | none => 0

def hangulParts (c : Nat) : List Nat :=
  let i := c - 0xac00
  let l := 0x1100 + i / 588
  let v := 0x1161 + i % 588 / 28
  let t := i % 28
  if t == 0 then [l, v] else [l, v, 0x11a7 + t]

def takeApart (isCompatible : Bool) : Nat → Nat → List Nat
  | 0, c => [c]
  | fuel + 1, c =>
      if c < 0xa0 then [c]
      else if 0xac00 ≤ c && c ≤ 0xd7a3 then hangulParts c
      else match Mapping.find? canonicalParts c with
        | some m => (m.apply c).flatMap (takeApart isCompatible fuel)
        | none =>
            if isCompatible then
              match Mapping.find? compatibleParts c with
              | some m => (m.apply c).flatMap (takeApart isCompatible fuel)
              | none => [c]
            else [c]

def insertMark (c : Nat) : List Nat → List Nat
  | [] => [c]
  | d :: ds =>
      -- the list is in reverse
      if markClass d > markClass c && markClass c != 0 then d :: insertMark c ds else c :: d :: ds

def orderMarks (cs : List Nat) : List Nat := (cs.foldl (fun out c => insertMark c out) []).reverse

/-- Pairs of characters with a character of their own. -/
def composed? (a b : Nat) : Option Nat :=
  if 0x1100 ≤ a && a ≤ 0x1112 && 0x1161 ≤ b && b ≤ 0x1175 then
    some (0xac00 + ((a - 0x1100) * 21 + (b - 0x1161)) * 28)
  else if 0xac00 ≤ a && a ≤ 0xd7a3 && (a - 0xac00) % 28 == 0 && 0x11a8 ≤ b && b ≤ 0x11c2 then
    some (a + (b - 0x11a7))
  else
    match canonicalParts.find? fun r =>
      r.tail == [b] && r.head ≤ a && a ≤ r.head + (r.last - r.first) with
    | some r =>
        let c := r.first + (a - r.head)
        if neverComposed.contains c then none else some c
    | none => none

/-- Puts characters together.  `starter` is the last base, `marks` what stands behind it in reverse,
    `last` the class of the nearest of those. -/
def putTogether : List Nat → Option Nat → List Nat → Nat → List Nat → List Nat
  | [], starter, marks, _, out => (marks ++ starter.toList ++ out).reverse
  | c :: cs, none, _, _, out =>
      if markClass c == 0 then putTogether cs (some c) [] 0 out
      else putTogether cs none [] 0 (c :: out)
  | c :: cs, some s, marks, last, out =>
      let k := markClass c
      let isFree := marks.isEmpty || (last < k && last != 0)
      match if isFree then composed? s c else none with
      | some x => putTogether cs (some x) marks last out
      | none =>
          if k == 0 then putTogether cs (some c) [] 0 (marks ++ s :: out)
          else putTogether cs (some s) (c :: marks) k out

/-- The four normal forms. -/
inductive Form where
  | nfc | nfd | nfkc | nfkd
  deriving DecidableEq

namespace Form

def ofName? : String → Option Form
  | "NFC" => some nfc
  | "NFD" => some nfd
  | "NFKC" => some nfkc
  | "NFKD" => some nfkd
  | _ => none

def normalize (f : Form) (cs : List Nat) : List Nat :=
  let isCompatible := f == nfkc || f == nfkd
  let apart := orderMarks (cs.flatMap (takeApart isCompatible 20))
  if f == nfc || f == nfkc then putTogether apart none [] 0 [] else apart

end Form

end Inlay.Text
