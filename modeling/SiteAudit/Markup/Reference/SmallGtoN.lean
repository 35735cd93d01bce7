/-!
# Named character references: g to n

The names that start with one of the letters g to n, without the closing
semicolon, each with the text it stands for.  The names are the standard ones of
hypertext.
-/

namespace SiteAudit
namespace Markup
namespace Reference

def namesSmallG : List (String × String) :=
  [("gE", "≧"), ("gEl", "⪌"), ("gacute", "ǵ"), ("gamma", "γ"), ("gammad", "ϝ"),
   ("gap", "⪆"), ("gbreve", "ğ"), ("gcirc", "ĝ"), ("gcy", "г"), ("gdot", "ġ"),
   ("ge", "≥"), ("gel", "⋛"), ("geq", "≥"), ("geqq", "≧"), ("geqslant", "⩾"),
   ("ges", "⩾"), ("gescc", "⪩"), ("gesdot", "⪀"), ("gesdoto", "⪂"),
   ("gesdotol", "⪄"), ("gesl", "⋛\ufe00"), ("gesles", "⪔"), ("gfr", "𝔤"),
   ("gg", "≫"), ("ggg", "⋙"), ("gimel", "ℷ"), ("gjcy", "ѓ"), ("gl", "≷"),
   ("glE", "⪒"), ("gla", "⪥"), ("glj", "⪤"), ("gnE", "≩"), ("gnap", "⪊"),
   ("gnapprox", "⪊"), ("gne", "⪈"), ("gneq", "⪈"), ("gneqq", "≩"),
   ("gnsim", "⋧"), ("gopf", "𝕘"), ("grave", "`"), ("gscr", "ℊ"), ("gsim", "≳"),
   ("gsime", "⪎"), ("gsiml", "⪐"), ("gt", ">"), ("gtcc", "⪧"), ("gtcir", "⩺"),
   ("gtdot", "⋗"), ("gtlPar", "⦕"), ("gtquest", "⩼"), ("gtrapprox", "⪆"),
   ("gtrarr", "⥸"), ("gtrdot", "⋗"), ("gtreqless", "⋛"), ("gtreqqless", "⪌"),
   ("gtrless", "≷"), ("gtrsim", "≳"), ("gvertneqq", "≩\ufe00"),
   ("gvnE", "≩\ufe00")]

def namesSmallH : List (String × String) :=
  [("hArr", "⇔"), ("hairsp", "\u200a"), ("half", "½"), ("hamilt", "ℋ"),
   ("hardcy", "ъ"), ("harr", "↔"), ("harrcir", "⥈"), ("harrw", "↭"),
   ("hbar", "ℏ"), ("hcirc", "ĥ"), ("hearts", "♥"), ("heartsuit", "♥"),
   ("hellip", "…"), ("hercon", "⊹"), ("hfr", "𝔥"), ("hksearow", "⤥"),
   ("hkswarow", "⤦"), ("hoarr", "⇿"), ("homtht", "∻"), ("hookleftarrow", "↩"),
   ("hookrightarrow", "↪"), ("hopf", "𝕙"), ("horbar", "―"), ("hscr", "𝒽"),
   ("hslash", "ℏ"), ("hstrok", "ħ"), ("hybull", "⁃"), ("hyphen", "‐")]

def namesSmallI : List (String × String) :=
  [("iacute", "í"), ("ic", "\u2063"), ("icirc", "î"), ("icy", "и"),
   ("iecy", "е"), ("iexcl", "¡"), ("iff", "⇔"), ("ifr", "𝔦"), ("igrave", "ì"),
   ("ii", "ⅈ"), ("iiiint", "⨌"), ("iiint", "∭"), ("iinfin", "⧜"),
   ("iiota", "℩"), ("ijlig", "ĳ"), ("imacr", "ī"), ("image", "ℑ"),
   ("imagline", "ℐ"), ("imagpart", "ℑ"), ("imath", "ı"), ("imof", "⊷"),
   ("imped", "Ƶ"), ("in", "∈"), ("incare", "℅"), ("infin", "∞"),
   ("infintie", "⧝"), ("inodot", "ı"), ("int", "∫"), ("intcal", "⊺"),
   ("integers", "ℤ"), ("intercal", "⊺"), ("intlarhk", "⨗"), ("intprod", "⨼"),
   ("iocy", "ё"), ("iogon", "į"), ("iopf", "𝕚"), ("iota", "ι"), ("iprod", "⨼"),
   ("iquest", "¿"), ("iscr", "𝒾"), ("isin", "∈"), ("isinE", "⋹"),
   ("isindot", "⋵"), ("isins", "⋴"), ("isinsv", "⋳"), ("isinv", "∈"),
   ("it", "\u2062"), ("itilde", "ĩ"), ("iukcy", "і"), ("iuml", "ï")]

def namesSmallJ : List (String × String) :=
  [("jcirc", "ĵ"), ("jcy", "й"), ("jfr", "𝔧"), ("jmath", "ȷ"), ("jopf", "𝕛"),
   ("jscr", "𝒿"), ("jsercy", "ј"), ("jukcy", "є")]

def namesSmallK : List (String × String) :=
  [("kappa", "κ"), ("kappav", "ϰ"), ("kcedil", "ķ"), ("kcy", "к"), ("kfr", "𝔨"),
   ("kgreen", "ĸ"), ("khcy", "х"), ("kjcy", "ќ"), ("kopf", "𝕜"), ("kscr", "𝓀")]

def namesSmallL : List (String × String) :=
  [("lAarr", "⇚"), ("lArr", "⇐"), ("lAtail", "⤛"), ("lBarr", "⤎"), ("lE", "≦"),
   ("lEg", "⪋"), ("lHar", "⥢"), ("lacute", "ĺ"), ("laemptyv", "⦴"),
   ("lagran", "ℒ"), ("lambda", "λ"), ("lang", "⟨"), ("langd", "⦑"),
   ("langle", "⟨"), ("lap", "⪅"), ("laquo", "«"), ("larr", "←"), ("larrb", "⇤"),
   ("larrbfs", "⤟"), ("larrfs", "⤝"), ("larrhk", "↩"), ("larrlp", "↫"),
   ("larrpl", "⤹"), ("larrsim", "⥳"), ("larrtl", "↢"), ("lat", "⪫"),
   ("latail", "⤙"), ("late", "⪭"), ("lates", "⪭\ufe00"), ("lbarr", "⤌"),
   ("lbbrk", "❲"), ("lbrace", "\x7b"), ("lbrack", "["), ("lbrke", "⦋"),
   ("lbrksld", "⦏"), ("lbrkslu", "⦍"), ("lcaron", "ľ"), ("lcedil", "ļ"),
   ("lceil", "⌈"), ("lcub", "\x7b"), ("lcy", "л"), ("ldca", "⤶"),
   ("ldquo", "“"), ("ldquor", "„"), ("ldrdhar", "⥧"), ("ldrushar", "⥋"),
   ("ldsh", "↲"), ("le", "≤"), ("leftarrow", "←"), ("leftarrowtail", "↢"),
   ("leftharpoondown", "↽"), ("leftharpoonup", "↼"), ("leftleftarrows", "⇇"),
   ("leftrightarrow", "↔"), ("leftrightarrows", "⇆"),
   ("leftrightharpoons", "⇋"), ("leftrightsquigarrow", "↭"),
   ("leftthreetimes", "⋋"), ("leg", "⋚"), ("leq", "≤"), ("leqq", "≦"),
   ("leqslant", "⩽"), ("les", "⩽"), ("lescc", "⪨"), ("lesdot", "⩿"),
   ("lesdoto", "⪁"), ("lesdotor", "⪃"), ("lesg", "⋚\ufe00"), ("lesges", "⪓"),
   ("lessapprox", "⪅"), ("lessdot", "⋖"), ("lesseqgtr", "⋚"),
   ("lesseqqgtr", "⪋"), ("lessgtr", "≶"), ("lesssim", "≲"), ("lfisht", "⥼"),
   ("lfloor", "⌊"), ("lfr", "𝔩"), ("lg", "≶"), ("lgE", "⪑"), ("lhard", "↽"),
   ("lharu", "↼"), ("lharul", "⥪"), ("lhblk", "▄"), ("ljcy", "љ"), ("ll", "≪"),
   ("llarr", "⇇"), ("llcorner", "⌞"), ("llhard", "⥫"), ("lltri", "◺"),
   ("lmidot", "ŀ"), ("lmoust", "⎰"), ("lmoustache", "⎰"), ("lnE", "≨"),
   ("lnap", "⪉"), ("lnapprox", "⪉"), ("lne", "⪇"), ("lneq", "⪇"),
   ("lneqq", "≨"), ("lnsim", "⋦"), ("loang", "⟬"), ("loarr", "⇽"),
   ("lobrk", "⟦"), ("longleftarrow", "⟵"), ("longleftrightarrow", "⟷"),
   ("longmapsto", "⟼"), ("longrightarrow", "⟶"), ("looparrowleft", "↫"),
   ("looparrowright", "↬"), ("lopar", "⦅"), ("lopf", "𝕝"), ("loplus", "⨭"),
   ("lotimes", "⨴"), ("lowast", "∗"), ("lowbar", "_"), ("loz", "◊"),
   ("lozenge", "◊"), ("lozf", "⧫"), ("lpar", "("), ("lparlt", "⦓"),
   ("lrarr", "⇆"), ("lrcorner", "⌟"), ("lrhar", "⇋"), ("lrhard", "⥭"),
   ("lrm", "\u200e"), ("lrtri", "⊿"), ("lsaquo", "‹"), ("lscr", "𝓁"),
   ("lsh", "↰"), ("lsim", "≲"), ("lsime", "⪍"), ("lsimg", "⪏"), ("lsqb", "["),
   ("lsquo", "‘"), ("lsquor", "‚"), ("lstrok", "ł"), ("lt", "<"), ("ltcc", "⪦"),
   ("ltcir", "⩹"), ("ltdot", "⋖"), ("lthree", "⋋"), ("ltimes", "⋉"),
   ("ltlarr", "⥶"), ("ltquest", "⩻"), ("ltrPar", "⦖"), ("ltri", "◃"),
   ("ltrie", "⊴"), ("ltrif", "◂"), ("lurdshar", "⥊"), ("luruhar", "⥦"),
   ("lvertneqq", "≨\ufe00"), ("lvnE", "≨\ufe00")]

def namesSmallM : List (String × String) :=
  [("mDDot", "∺"), ("macr", "¯"), ("male", "♂"), ("malt", "✠"),
   ("maltese", "✠"), ("map", "↦"), ("mapsto", "↦"), ("mapstodown", "↧"),
   ("mapstoleft", "↤"), ("mapstoup", "↥"), ("marker", "▮"), ("mcomma", "⨩"),
   ("mcy", "м"), ("mdash", "—"), ("measuredangle", "∡"), ("mfr", "𝔪"),
   ("mho", "℧"), ("micro", "µ"), ("mid", "∣"), ("midast", "*"), ("midcir", "⫰"),
   ("middot", "·"), ("minus", "−"), ("minusb", "⊟"), ("minusd", "∸"),
   ("minusdu", "⨪"), ("mlcp", "⫛"), ("mldr", "…"), ("mnplus", "∓"),
   ("models", "⊧"), ("mopf", "𝕞"), ("mp", "∓"), ("mscr", "𝓂"), ("mstpos", "∾"),
   ("mu", "μ"), ("multimap", "⊸"), ("mumap", "⊸")]

def namesSmallN : List (String × String) :=
  [("nGg", "⋙\u0338"), ("nGt", "≫\u20d2"), ("nGtv", "≫\u0338"),
   ("nLeftarrow", "⇍"), ("nLeftrightarrow", "⇎"), ("nLl", "⋘\u0338"),
   ("nLt", "≪\u20d2"), ("nLtv", "≪\u0338"), ("nRightarrow", "⇏"),
   ("nVDash", "⊯"), ("nVdash", "⊮"), ("nabla", "∇"), ("nacute", "ń"),
   ("nang", "∠\u20d2"), ("nap", "≉"), ("napE", "⩰\u0338"), ("napid", "≋\u0338"),
   ("napos", "ŉ"), ("napprox", "≉"), ("natur", "♮"), ("natural", "♮"),
   ("naturals", "ℕ"), ("nbsp", "\u00a0"), ("nbump", "≎\u0338"),
   ("nbumpe", "≏\u0338"), ("ncap", "⩃"), ("ncaron", "ň"), ("ncedil", "ņ"),
   ("ncong", "≇"), ("ncongdot", "⩭\u0338"), ("ncup", "⩂"), ("ncy", "н"),
   ("ndash", "–"), ("ne", "≠"), ("neArr", "⇗"), ("nearhk", "⤤"), ("nearr", "↗"),
   ("nearrow", "↗"), ("nedot", "≐\u0338"), ("nequiv", "≢"), ("nesear", "⤨"),
   ("nesim", "≂\u0338"), ("nexist", "∄"), ("nexists", "∄"), ("nfr", "𝔫"),
   ("ngE", "≧\u0338"), ("nge", "≱"), ("ngeq", "≱"), ("ngeqq", "≧\u0338"),
   ("ngeqslant", "⩾\u0338"), ("nges", "⩾\u0338"), ("ngsim", "≵"), ("ngt", "≯"),
   ("ngtr", "≯"), ("nhArr", "⇎"), ("nharr", "↮"), ("nhpar", "⫲"), ("ni", "∋"),
   ("nis", "⋼"), ("nisd", "⋺"), ("niv", "∋"), ("njcy", "њ"), ("nlArr", "⇍"),
   ("nlE", "≦\u0338"), ("nlarr", "↚"), ("nldr", "‥"), ("nle", "≰"),
   ("nleftarrow", "↚"), ("nleftrightarrow", "↮"), ("nleq", "≰"),
   ("nleqq", "≦\u0338"), ("nleqslant", "⩽\u0338"), ("nles", "⩽\u0338"),
   ("nless", "≮"), ("nlsim", "≴"), ("nlt", "≮"), ("nltri", "⋪"),
   ("nltrie", "⋬"), ("nmid", "∤"), ("nopf", "𝕟"), ("not", "¬"), ("notin", "∉"),
   ("notinE", "⋹\u0338"), ("notindot", "⋵\u0338"), ("notinva", "∉"),
   ("notinvb", "⋷"), ("notinvc", "⋶"), ("notni", "∌"), ("notniva", "∌"),
   ("notnivb", "⋾"), ("notnivc", "⋽"), ("npar", "∦"), ("nparallel", "∦"),
   ("nparsl", "⫽\u20e5"), ("npart", "∂\u0338"), ("npolint", "⨔"), ("npr", "⊀"),
   ("nprcue", "⋠"), ("npre", "⪯\u0338"), ("nprec", "⊀"), ("npreceq", "⪯\u0338"),
   ("nrArr", "⇏"), ("nrarr", "↛"), ("nrarrc", "⤳\u0338"), ("nrarrw", "↝\u0338"),
   ("nrightarrow", "↛"), ("nrtri", "⋫"), ("nrtrie", "⋭"), ("nsc", "⊁"),
   ("nsccue", "⋡"), ("nsce", "⪰\u0338"), ("nscr", "𝓃"), ("nshortmid", "∤"),
   ("nshortparallel", "∦"), ("nsim", "≁"), ("nsime", "≄"), ("nsimeq", "≄"),
   ("nsmid", "∤"), ("nspar", "∦"), ("nsqsube", "⋢"), ("nsqsupe", "⋣"),
   ("nsub", "⊄"), ("nsubE", "⫅\u0338"), ("nsube", "⊈"), ("nsubset", "⊂\u20d2"),
   ("nsubseteq", "⊈"), ("nsubseteqq", "⫅\u0338"), ("nsucc", "⊁"),
   ("nsucceq", "⪰\u0338"), ("nsup", "⊅"), ("nsupE", "⫆\u0338"), ("nsupe", "⊉"),
   ("nsupset", "⊃\u20d2"), ("nsupseteq", "⊉"), ("nsupseteqq", "⫆\u0338"),
   ("ntgl", "≹"), ("ntilde", "ñ"), ("ntlg", "≸"), ("ntriangleleft", "⋪"),
   ("ntrianglelefteq", "⋬"), ("ntriangleright", "⋫"), ("ntrianglerighteq", "⋭"),
   ("nu", "ν"), ("num", "#"), ("numero", "№"), ("numsp", "\u2007"),
   ("nvDash", "⊭"), ("nvHarr", "⤄"), ("nvap", "≍\u20d2"), ("nvdash", "⊬"),
   ("nvge", "≥\u20d2"), ("nvgt", ">\u20d2"), ("nvinfin", "⧞"), ("nvlArr", "⤂"),
   ("nvle", "≤\u20d2"), ("nvlt", "<\u20d2"), ("nvltrie", "⊴\u20d2"),
   ("nvrArr", "⤃"), ("nvrtrie", "⊵\u20d2"), ("nvsim", "∼\u20d2"),
   ("nwArr", "⇖"), ("nwarhk", "⤣"), ("nwarr", "↖"), ("nwarrow", "↖"),
   ("nwnear", "⤧")]

end Reference
end Markup
end SiteAudit
