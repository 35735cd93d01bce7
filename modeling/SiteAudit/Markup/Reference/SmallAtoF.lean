/-!
# Named character references: a to f

The names that start with one of the letters a to f, without the closing
semicolon, each with the text it stands for.  The names are the standard ones of
hypertext.
-/

namespace SiteAudit
namespace Markup
namespace Reference

def namesSmallA : List (String × String) :=
  [("aacute", "á"), ("abreve", "ă"), ("ac", "∾"), ("acE", "∾\u0333"),
   ("acd", "∿"), ("acirc", "â"), ("acute", "´"), ("acy", "а"), ("aelig", "æ"),
   ("af", "\u2061"), ("afr", "𝔞"), ("agrave", "à"), ("alefsym", "ℵ"),
   ("aleph", "ℵ"), ("alpha", "α"), ("amacr", "ā"), ("amalg", "⨿"), ("amp", "&"),
   ("and", "∧"), ("andand", "⩕"), ("andd", "⩜"), ("andslope", "⩘"),
   ("andv", "⩚"), ("ang", "∠"), ("ange", "⦤"), ("angle", "∠"), ("angmsd", "∡"),
   ("angmsdaa", "⦨"), ("angmsdab", "⦩"), ("angmsdac", "⦪"), ("angmsdad", "⦫"),
   ("angmsdae", "⦬"), ("angmsdaf", "⦭"), ("angmsdag", "⦮"), ("angmsdah", "⦯"),
   ("angrt", "∟"), ("angrtvb", "⊾"), ("angrtvbd", "⦝"), ("angsph", "∢"),
   ("angst", "Å"), ("angzarr", "⍼"), ("aogon", "ą"), ("aopf", "𝕒"), ("ap", "≈"),
   ("apE", "⩰"), ("apacir", "⩯"), ("ape", "≊"), ("apid", "≋"), ("apos", "'"),
   ("approx", "≈"), ("approxeq", "≊"), ("aring", "å"), ("ascr", "𝒶"),
   ("ast", "*"), ("asymp", "≈"), ("asympeq", "≍"), ("atilde", "ã"),
   ("auml", "ä"), ("awconint", "∳"), ("awint", "⨑")]

def namesSmallB : List (String × String) :=
  [("bNot", "⫭"), ("backcong", "≌"), ("backepsilon", "϶"), ("backprime", "‵"),
   ("backsim", "∽"), ("backsimeq", "⋍"), ("barvee", "⊽"), ("barwed", "⌅"),
   ("barwedge", "⌅"), ("bbrk", "⎵"), ("bbrktbrk", "⎶"), ("bcong", "≌"),
   ("bcy", "б"), ("bdquo", "„"), ("becaus", "∵"), ("because", "∵"),
   ("bemptyv", "⦰"), ("bepsi", "϶"), ("bernou", "ℬ"), ("beta", "β"),
   ("beth", "ℶ"), ("between", "≬"), ("bfr", "𝔟"), ("bigcap", "⋂"),
   ("bigcirc", "◯"), ("bigcup", "⋃"), ("bigodot", "⨀"), ("bigoplus", "⨁"),
   ("bigotimes", "⨂"), ("bigsqcup", "⨆"), ("bigstar", "★"),
   ("bigtriangledown", "▽"), ("bigtriangleup", "△"), ("biguplus", "⨄"),
   ("bigvee", "⋁"), ("bigwedge", "⋀"), ("bkarow", "⤍"), ("blacklozenge", "⧫"),
   ("blacksquare", "▪"), ("blacktriangle", "▴"), ("blacktriangledown", "▾"),
   ("blacktriangleleft", "◂"), ("blacktriangleright", "▸"), ("blank", "␣"),
   ("blk12", "▒"), ("blk14", "░"), ("blk34", "▓"), ("block", "█"),
   ("bne", "=\u20e5"), ("bnequiv", "≡\u20e5"), ("bnot", "⌐"), ("bopf", "𝕓"),
   ("bot", "⊥"), ("bottom", "⊥"), ("bowtie", "⋈"), ("boxDL", "╗"),
   ("boxDR", "╔"), ("boxDl", "╖"), ("boxDr", "╓"), ("boxH", "═"),
   ("boxHD", "╦"), ("boxHU", "╩"), ("boxHd", "╤"), ("boxHu", "╧"),
   ("boxUL", "╝"), ("boxUR", "╚"), ("boxUl", "╜"), ("boxUr", "╙"),
   ("boxV", "║"), ("boxVH", "╬"), ("boxVL", "╣"), ("boxVR", "╠"),
   ("boxVh", "╫"), ("boxVl", "╢"), ("boxVr", "╟"), ("boxbox", "⧉"),
   ("boxdL", "╕"), ("boxdR", "╒"), ("boxdl", "┐"), ("boxdr", "┌"),
   ("boxh", "─"), ("boxhD", "╥"), ("boxhU", "╨"), ("boxhd", "┬"),
   ("boxhu", "┴"), ("boxminus", "⊟"), ("boxplus", "⊞"), ("boxtimes", "⊠"),
   ("boxuL", "╛"), ("boxuR", "╘"), ("boxul", "┘"), ("boxur", "└"),
   ("boxv", "│"), ("boxvH", "╪"), ("boxvL", "╡"), ("boxvR", "╞"),
   ("boxvh", "┼"), ("boxvl", "┤"), ("boxvr", "├"), ("bprime", "‵"),
   ("breve", "˘"), ("brvbar", "¦"), ("bscr", "𝒷"), ("bsemi", "⁏"),
   ("bsim", "∽"), ("bsime", "⋍"), ("bsol", "\\"), ("bsolb", "⧅"),
   ("bsolhsub", "⟈"), ("bull", "•"), ("bullet", "•"), ("bump", "≎"),
   ("bumpE", "⪮"), ("bumpe", "≏"), ("bumpeq", "≏")]

def namesSmallC : List (String × String) :=
  [("cacute", "ć"), ("cap", "∩"), ("capand", "⩄"), ("capbrcup", "⩉"),
   ("capcap", "⩋"), ("capcup", "⩇"), ("capdot", "⩀"), ("caps", "∩\ufe00"),
   ("caret", "⁁"), ("caron", "ˇ"), ("ccaps", "⩍"), ("ccaron", "č"),
   ("ccedil", "ç"), ("ccirc", "ĉ"), ("ccups", "⩌"), ("ccupssm", "⩐"),
   ("cdot", "ċ"), ("cedil", "¸"), ("cemptyv", "⦲"), ("cent", "¢"),
   ("centerdot", "·"), ("cfr", "𝔠"), ("chcy", "ч"), ("check", "✓"),
   ("checkmark", "✓"), ("chi", "χ"), ("cir", "○"), ("cirE", "⧃"), ("circ", "ˆ"),
   ("circeq", "≗"), ("circlearrowleft", "↺"), ("circlearrowright", "↻"),
   ("circledR", "®"), ("circledS", "Ⓢ"), ("circledast", "⊛"),
   ("circledcirc", "⊚"), ("circleddash", "⊝"), ("cire", "≗"), ("cirfnint", "⨐"),
   ("cirmid", "⫯"), ("cirscir", "⧂"), ("clubs", "♣"), ("clubsuit", "♣"),
   ("colon", ":"), ("colone", "≔"), ("coloneq", "≔"), ("comma", ","),
   ("commat", "@"), ("comp", "∁"), ("compfn", "∘"), ("complement", "∁"),
   ("complexes", "ℂ"), ("cong", "≅"), ("congdot", "⩭"), ("conint", "∮"),
   ("copf", "𝕔"), ("coprod", "∐"), ("copy", "©"), ("copysr", "℗"),
   ("crarr", "↵"), ("cross", "✗"), ("cscr", "𝒸"), ("csub", "⫏"), ("csube", "⫑"),
   ("csup", "⫐"), ("csupe", "⫒"), ("ctdot", "⋯"), ("cudarrl", "⤸"),
   ("cudarrr", "⤵"), ("cuepr", "⋞"), ("cuesc", "⋟"), ("cularr", "↶"),
   ("cularrp", "⤽"), ("cup", "∪"), ("cupbrcap", "⩈"), ("cupcap", "⩆"),
   ("cupcup", "⩊"), ("cupdot", "⊍"), ("cupor", "⩅"), ("cups", "∪\ufe00"),
   ("curarr", "↷"), ("curarrm", "⤼"), ("curlyeqprec", "⋞"),
   ("curlyeqsucc", "⋟"), ("curlyvee", "⋎"), ("curlywedge", "⋏"),
   ("curren", "¤"), ("curvearrowleft", "↶"), ("curvearrowright", "↷"),
   ("cuvee", "⋎"), ("cuwed", "⋏"), ("cwconint", "∲"), ("cwint", "∱"),
   ("cylcty", "⌭")]

def namesSmallD : List (String × String) :=
  [("dArr", "⇓"), ("dHar", "⥥"), ("dagger", "†"), ("daleth", "ℸ"),
   ("darr", "↓"), ("dash", "‐"), ("dashv", "⊣"), ("dbkarow", "⤏"),
   ("dblac", "˝"), ("dcaron", "ď"), ("dcy", "д"), ("dd", "ⅆ"), ("ddagger", "‡"),
   ("ddarr", "⇊"), ("ddotseq", "⩷"), ("deg", "°"), ("delta", "δ"),
   ("demptyv", "⦱"), ("dfisht", "⥿"), ("dfr", "𝔡"), ("dharl", "⇃"),
   ("dharr", "⇂"), ("diam", "⋄"), ("diamond", "⋄"), ("diamondsuit", "♦"),
   ("diams", "♦"), ("die", "¨"), ("digamma", "ϝ"), ("disin", "⋲"), ("div", "÷"),
   ("divide", "÷"), ("divideontimes", "⋇"), ("divonx", "⋇"), ("djcy", "ђ"),
   ("dlcorn", "⌞"), ("dlcrop", "⌍"), ("dollar", "$"), ("dopf", "𝕕"),
   ("dot", "˙"), ("doteq", "≐"), ("doteqdot", "≑"), ("dotminus", "∸"),
   ("dotplus", "∔"), ("dotsquare", "⊡"), ("doublebarwedge", "⌆"),
   ("downarrow", "↓"), ("downdownarrows", "⇊"), ("downharpoonleft", "⇃"),
   ("downharpoonright", "⇂"), ("drbkarow", "⤐"), ("drcorn", "⌟"),
   ("drcrop", "⌌"), ("dscr", "𝒹"), ("dscy", "ѕ"), ("dsol", "⧶"),
   ("dstrok", "đ"), ("dtdot", "⋱"), ("dtri", "▿"), ("dtrif", "▾"),
   ("duarr", "⇵"), ("duhar", "⥯"), ("dwangle", "⦦"), ("dzcy", "џ"),
   ("dzigrarr", "⟿")]

def namesSmallE : List (String × String) :=
  [("eDDot", "⩷"), ("eDot", "≑"), ("eacute", "é"), ("easter", "⩮"),
   ("ecaron", "ě"), ("ecir", "≖"), ("ecirc", "ê"), ("ecolon", "≕"),
   ("ecy", "э"), ("edot", "ė"), ("ee", "ⅇ"), ("efDot", "≒"), ("efr", "𝔢"),
   ("eg", "⪚"), ("egrave", "è"), ("egs", "⪖"), ("egsdot", "⪘"), ("el", "⪙"),
   ("elinters", "⏧"), ("ell", "ℓ"), ("els", "⪕"), ("elsdot", "⪗"),
   ("emacr", "ē"), ("empty", "∅"), ("emptyset", "∅"), ("emptyv", "∅"),
   ("emsp", "\u2003"), ("emsp13", "\u2004"), ("emsp14", "\u2005"), ("eng", "ŋ"),
   ("ensp", "\u2002"), ("eogon", "ę"), ("eopf", "𝕖"), ("epar", "⋕"),
   ("eparsl", "⧣"), ("eplus", "⩱"), ("epsi", "ε"), ("epsilon", "ε"),
   ("epsiv", "ϵ"), ("eqcirc", "≖"), ("eqcolon", "≕"), ("eqsim", "≂"),
   ("eqslantgtr", "⪖"), ("eqslantless", "⪕"), ("equals", "="), ("equest", "≟"),
   ("equiv", "≡"), ("equivDD", "⩸"), ("eqvparsl", "⧥"), ("erDot", "≓"),
   ("erarr", "⥱"), ("escr", "ℯ"), ("esdot", "≐"), ("esim", "≂"), ("eta", "η"),
   ("eth", "ð"), ("euml", "ë"), ("euro", "€"), ("excl", "!"), ("exist", "∃"),
   ("expectation", "ℰ"), ("exponentiale", "ⅇ")]

def namesSmallF : List (String × String) :=
  [("fallingdotseq", "≒"), ("fcy", "ф"), ("female", "♀"), ("ffilig", "ﬃ"),
   ("fflig", "ﬀ"), ("ffllig", "ﬄ"), ("ffr", "𝔣"), ("filig", "ﬁ"),
   ("fjlig", "fj"), ("flat", "♭"), ("fllig", "ﬂ"), ("fltns", "▱"),
   ("fnof", "ƒ"), ("fopf", "𝕗"), ("forall", "∀"), ("fork", "⋔"), ("forkv", "⫙"),
   ("fpartint", "⨍"), ("frac12", "½"), ("frac13", "⅓"), ("frac14", "¼"),
   ("frac15", "⅕"), ("frac16", "⅙"), ("frac18", "⅛"), ("frac23", "⅔"),
   ("frac25", "⅖"), ("frac34", "¾"), ("frac35", "⅗"), ("frac38", "⅜"),
   ("frac45", "⅘"), ("frac56", "⅚"), ("frac58", "⅝"), ("frac78", "⅞"),
   ("frasl", "⁄"), ("frown", "⌢"), ("fscr", "𝒻")]

end Reference
end Markup
end SiteAudit
