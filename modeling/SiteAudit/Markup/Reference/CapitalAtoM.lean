/-!
# Named character references: A to M, capital

The names that start with one of the letters A to M, capital, without the
closing semicolon, each with the text it stands for.  The names are the standard
ones of hypertext.
-/

namespace SiteAudit
namespace Markup
namespace Reference

def namesCapitalA : List (String × String) :=
  [("AElig", "Æ"), ("AMP", "&"), ("Aacute", "Á"), ("Abreve", "Ă"),
   ("Acirc", "Â"), ("Acy", "А"), ("Afr", "𝔄"), ("Agrave", "À"), ("Alpha", "Α"),
   ("Amacr", "Ā"), ("And", "⩓"), ("Aogon", "Ą"), ("Aopf", "𝔸"),
   ("ApplyFunction", "\u2061"), ("Aring", "Å"), ("Ascr", "𝒜"), ("Assign", "≔"),
   ("Atilde", "Ã"), ("Auml", "Ä")]

def namesCapitalB : List (String × String) :=
  [("Backslash", "∖"), ("Barv", "⫧"), ("Barwed", "⌆"), ("Bcy", "Б"),
   ("Because", "∵"), ("Bernoullis", "ℬ"), ("Beta", "Β"), ("Bfr", "𝔅"),
   ("Bopf", "𝔹"), ("Breve", "˘"), ("Bscr", "ℬ"), ("Bumpeq", "≎")]

def namesCapitalC : List (String × String) :=
  [("CHcy", "Ч"), ("COPY", "©"), ("Cacute", "Ć"), ("Cap", "⋒"),
   ("CapitalDifferentialD", "ⅅ"), ("Cayleys", "ℭ"), ("Ccaron", "Č"),
   ("Ccedil", "Ç"), ("Ccirc", "Ĉ"), ("Cconint", "∰"), ("Cdot", "Ċ"),
   ("Cedilla", "¸"), ("CenterDot", "·"), ("Cfr", "ℭ"), ("Chi", "Χ"),
   ("CircleDot", "⊙"), ("CircleMinus", "⊖"), ("CirclePlus", "⊕"),
   ("CircleTimes", "⊗"), ("ClockwiseContourIntegral", "∲"),
   ("CloseCurlyDoubleQuote", "”"), ("CloseCurlyQuote", "’"), ("Colon", "∷"),
   ("Colone", "⩴"), ("Congruent", "≡"), ("Conint", "∯"),
   ("ContourIntegral", "∮"), ("Copf", "ℂ"), ("Coproduct", "∐"),
   ("CounterClockwiseContourIntegral", "∳"), ("Cross", "⨯"), ("Cscr", "𝒞"),
   ("Cup", "⋓"), ("CupCap", "≍")]

def namesCapitalD : List (String × String) :=
  [("DD", "ⅅ"), ("DDotrahd", "⤑"), ("DJcy", "Ђ"), ("DScy", "Ѕ"), ("DZcy", "Џ"),
   ("Dagger", "‡"), ("Darr", "↡"), ("Dashv", "⫤"), ("Dcaron", "Ď"),
   ("Dcy", "Д"), ("Del", "∇"), ("Delta", "Δ"), ("Dfr", "𝔇"),
   ("DiacriticalAcute", "´"), ("DiacriticalDot", "˙"),
   ("DiacriticalDoubleAcute", "˝"), ("DiacriticalGrave", "`"),
   ("DiacriticalTilde", "˜"), ("Diamond", "⋄"), ("DifferentialD", "ⅆ"),
   ("Dopf", "𝔻"), ("Dot", "¨"), ("DotDot", "\u20dc"), ("DotEqual", "≐"),
   ("DoubleContourIntegral", "∯"), ("DoubleDot", "¨"), ("DoubleDownArrow", "⇓"),
   ("DoubleLeftArrow", "⇐"), ("DoubleLeftRightArrow", "⇔"),
   ("DoubleLeftTee", "⫤"), ("DoubleLongLeftArrow", "⟸"),
   ("DoubleLongLeftRightArrow", "⟺"), ("DoubleLongRightArrow", "⟹"),
   ("DoubleRightArrow", "⇒"), ("DoubleRightTee", "⊨"), ("DoubleUpArrow", "⇑"),
   ("DoubleUpDownArrow", "⇕"), ("DoubleVerticalBar", "∥"), ("DownArrow", "↓"),
   ("DownArrowBar", "⤓"), ("DownArrowUpArrow", "⇵"), ("DownBreve", "\u0311"),
   ("DownLeftRightVector", "⥐"), ("DownLeftTeeVector", "⥞"),
   ("DownLeftVector", "↽"), ("DownLeftVectorBar", "⥖"),
   ("DownRightTeeVector", "⥟"), ("DownRightVector", "⇁"),
   ("DownRightVectorBar", "⥗"), ("DownTee", "⊤"), ("DownTeeArrow", "↧"),
   ("Downarrow", "⇓"), ("Dscr", "𝒟"), ("Dstrok", "Đ")]

def namesCapitalE : List (String × String) :=
  [("ENG", "Ŋ"), ("ETH", "Ð"), ("Eacute", "É"), ("Ecaron", "Ě"), ("Ecirc", "Ê"),
   ("Ecy", "Э"), ("Edot", "Ė"), ("Efr", "𝔈"), ("Egrave", "È"), ("Element", "∈"),
   ("Emacr", "Ē"), ("EmptySmallSquare", "◻"), ("EmptyVerySmallSquare", "▫"),
   ("Eogon", "Ę"), ("Eopf", "𝔼"), ("Epsilon", "Ε"), ("Equal", "⩵"),
   ("EqualTilde", "≂"), ("Equilibrium", "⇌"), ("Escr", "ℰ"), ("Esim", "⩳"),
   ("Eta", "Η"), ("Euml", "Ë"), ("Exists", "∃"), ("ExponentialE", "ⅇ")]

def namesCapitalF : List (String × String) :=
  [("Fcy", "Ф"), ("Ffr", "𝔉"), ("FilledSmallSquare", "◼"),
   ("FilledVerySmallSquare", "▪"), ("Fopf", "𝔽"), ("ForAll", "∀"),
   ("Fouriertrf", "ℱ"), ("Fscr", "ℱ")]

def namesCapitalG : List (String × String) :=
  [("GJcy", "Ѓ"), ("GT", ">"), ("Gamma", "Γ"), ("Gammad", "Ϝ"), ("Gbreve", "Ğ"),
   ("Gcedil", "Ģ"), ("Gcirc", "Ĝ"), ("Gcy", "Г"), ("Gdot", "Ġ"), ("Gfr", "𝔊"),
   ("Gg", "⋙"), ("Gopf", "𝔾"), ("GreaterEqual", "≥"), ("GreaterEqualLess", "⋛"),
   ("GreaterFullEqual", "≧"), ("GreaterGreater", "⪢"), ("GreaterLess", "≷"),
   ("GreaterSlantEqual", "⩾"), ("GreaterTilde", "≳"), ("Gscr", "𝒢"),
   ("Gt", "≫")]

def namesCapitalH : List (String × String) :=
  [("HARDcy", "Ъ"), ("Hacek", "ˇ"), ("Hat", "^"), ("Hcirc", "Ĥ"), ("Hfr", "ℌ"),
   ("HilbertSpace", "ℋ"), ("Hopf", "ℍ"), ("HorizontalLine", "─"), ("Hscr", "ℋ"),
   ("Hstrok", "Ħ"), ("HumpDownHump", "≎"), ("HumpEqual", "≏")]

def namesCapitalI : List (String × String) :=
  [("IEcy", "Е"), ("IJlig", "Ĳ"), ("IOcy", "Ё"), ("Iacute", "Í"),
   ("Icirc", "Î"), ("Icy", "И"), ("Idot", "İ"), ("Ifr", "ℑ"), ("Igrave", "Ì"),
   ("Im", "ℑ"), ("Imacr", "Ī"), ("ImaginaryI", "ⅈ"), ("Implies", "⇒"),
   ("Int", "∬"), ("Integral", "∫"), ("Intersection", "⋂"),
   ("InvisibleComma", "\u2063"), ("InvisibleTimes", "\u2062"), ("Iogon", "Į"),
   ("Iopf", "𝕀"), ("Iota", "Ι"), ("Iscr", "ℐ"), ("Itilde", "Ĩ"), ("Iukcy", "І"),
   ("Iuml", "Ï")]

def namesCapitalJ : List (String × String) :=
  [("Jcirc", "Ĵ"), ("Jcy", "Й"), ("Jfr", "𝔍"), ("Jopf", "𝕁"), ("Jscr", "𝒥"),
   ("Jsercy", "Ј"), ("Jukcy", "Є")]

def namesCapitalK : List (String × String) :=
  [("KHcy", "Х"), ("KJcy", "Ќ"), ("Kappa", "Κ"), ("Kcedil", "Ķ"), ("Kcy", "К"),
   ("Kfr", "𝔎"), ("Kopf", "𝕂"), ("Kscr", "𝒦")]

def namesCapitalL : List (String × String) :=
  [("LJcy", "Љ"), ("LT", "<"), ("Lacute", "Ĺ"), ("Lambda", "Λ"), ("Lang", "⟪"),
   ("Laplacetrf", "ℒ"), ("Larr", "↞"), ("Lcaron", "Ľ"), ("Lcedil", "Ļ"),
   ("Lcy", "Л"), ("LeftAngleBracket", "⟨"), ("LeftArrow", "←"),
   ("LeftArrowBar", "⇤"), ("LeftArrowRightArrow", "⇆"), ("LeftCeiling", "⌈"),
   ("LeftDoubleBracket", "⟦"), ("LeftDownTeeVector", "⥡"),
   ("LeftDownVector", "⇃"), ("LeftDownVectorBar", "⥙"), ("LeftFloor", "⌊"),
   ("LeftRightArrow", "↔"), ("LeftRightVector", "⥎"), ("LeftTee", "⊣"),
   ("LeftTeeArrow", "↤"), ("LeftTeeVector", "⥚"), ("LeftTriangle", "⊲"),
   ("LeftTriangleBar", "⧏"), ("LeftTriangleEqual", "⊴"),
   ("LeftUpDownVector", "⥑"), ("LeftUpTeeVector", "⥠"), ("LeftUpVector", "↿"),
   ("LeftUpVectorBar", "⥘"), ("LeftVector", "↼"), ("LeftVectorBar", "⥒"),
   ("Leftarrow", "⇐"), ("Leftrightarrow", "⇔"), ("LessEqualGreater", "⋚"),
   ("LessFullEqual", "≦"), ("LessGreater", "≶"), ("LessLess", "⪡"),
   ("LessSlantEqual", "⩽"), ("LessTilde", "≲"), ("Lfr", "𝔏"), ("Ll", "⋘"),
   ("Lleftarrow", "⇚"), ("Lmidot", "Ŀ"), ("LongLeftArrow", "⟵"),
   ("LongLeftRightArrow", "⟷"), ("LongRightArrow", "⟶"), ("Longleftarrow", "⟸"),
   ("Longleftrightarrow", "⟺"), ("Longrightarrow", "⟹"), ("Lopf", "𝕃"),
   ("LowerLeftArrow", "↙"), ("LowerRightArrow", "↘"), ("Lscr", "ℒ"),
   ("Lsh", "↰"), ("Lstrok", "Ł"), ("Lt", "≪")]

def namesCapitalM : List (String × String) :=
  [("Map", "⤅"), ("Mcy", "М"), ("MediumSpace", "\u205f"), ("Mellintrf", "ℳ"),
   ("Mfr", "𝔐"), ("MinusPlus", "∓"), ("Mopf", "𝕄"), ("Mscr", "ℳ"), ("Mu", "Μ")]

end Reference
end Markup
end SiteAudit
