/-!
# Named character references: o to z

The names that start with one of the letters o to z, without the closing
semicolon, each with the text it stands for.  The names are the standard ones of
hypertext.
-/

namespace SiteAudit
namespace Markup
namespace Reference

def namesSmallO : List (String × String) :=
  [("oS", "Ⓢ"), ("oacute", "ó"), ("oast", "⊛"), ("ocir", "⊚"), ("ocirc", "ô"),
   ("ocy", "о"), ("odash", "⊝"), ("odblac", "ő"), ("odiv", "⨸"), ("odot", "⊙"),
   ("odsold", "⦼"), ("oelig", "œ"), ("ofcir", "⦿"), ("ofr", "𝔬"), ("ogon", "˛"),
   ("ograve", "ò"), ("ogt", "⧁"), ("ohbar", "⦵"), ("ohm", "Ω"), ("oint", "∮"),
   ("olarr", "↺"), ("olcir", "⦾"), ("olcross", "⦻"), ("oline", "‾"),
   ("olt", "⧀"), ("omacr", "ō"), ("omega", "ω"), ("omicron", "ο"),
   ("omid", "⦶"), ("ominus", "⊖"), ("oopf", "𝕠"), ("opar", "⦷"), ("operp", "⦹"),
   ("oplus", "⊕"), ("or", "∨"), ("orarr", "↻"), ("ord", "⩝"), ("order", "ℴ"),
   ("orderof", "ℴ"), ("ordf", "ª"), ("ordm", "º"), ("origof", "⊶"),
   ("oror", "⩖"), ("orslope", "⩗"), ("orv", "⩛"), ("oscr", "ℴ"),
   ("oslash", "ø"), ("osol", "⊘"), ("otilde", "õ"), ("otimes", "⊗"),
   ("otimesas", "⨶"), ("ouml", "ö"), ("ovbar", "⌽")]

def namesSmallP : List (String × String) :=
  [("par", "∥"), ("para", "¶"), ("parallel", "∥"), ("parsim", "⫳"),
   ("parsl", "⫽"), ("part", "∂"), ("pcy", "п"), ("percnt", "%"),
   ("period", "."), ("permil", "‰"), ("perp", "⊥"), ("pertenk", "‱"),
   ("pfr", "𝔭"), ("phi", "φ"), ("phiv", "ϕ"), ("phmmat", "ℳ"), ("phone", "☎"),
   ("pi", "π"), ("pitchfork", "⋔"), ("piv", "ϖ"), ("planck", "ℏ"),
   ("planckh", "ℎ"), ("plankv", "ℏ"), ("plus", "+"), ("plusacir", "⨣"),
   ("plusb", "⊞"), ("pluscir", "⨢"), ("plusdo", "∔"), ("plusdu", "⨥"),
   ("pluse", "⩲"), ("plusmn", "±"), ("plussim", "⨦"), ("plustwo", "⨧"),
   ("pm", "±"), ("pointint", "⨕"), ("popf", "𝕡"), ("pound", "£"), ("pr", "≺"),
   ("prE", "⪳"), ("prap", "⪷"), ("prcue", "≼"), ("pre", "⪯"), ("prec", "≺"),
   ("precapprox", "⪷"), ("preccurlyeq", "≼"), ("preceq", "⪯"),
   ("precnapprox", "⪹"), ("precneqq", "⪵"), ("precnsim", "⋨"), ("precsim", "≾"),
   ("prime", "′"), ("primes", "ℙ"), ("prnE", "⪵"), ("prnap", "⪹"),
   ("prnsim", "⋨"), ("prod", "∏"), ("profalar", "⌮"), ("profline", "⌒"),
   ("profsurf", "⌓"), ("prop", "∝"), ("propto", "∝"), ("prsim", "≾"),
   ("prurel", "⊰"), ("pscr", "𝓅"), ("psi", "ψ"), ("puncsp", "\u2008")]

def namesSmallQ : List (String × String) :=
  [("qfr", "𝔮"), ("qint", "⨌"), ("qopf", "𝕢"), ("qprime", "⁗"), ("qscr", "𝓆"),
   ("quaternions", "ℍ"), ("quatint", "⨖"), ("quest", "?"), ("questeq", "≟"),
   ("quot", "\"")]

def namesSmallR : List (String × String) :=
  [("rAarr", "⇛"), ("rArr", "⇒"), ("rAtail", "⤜"), ("rBarr", "⤏"),
   ("rHar", "⥤"), ("race", "∽\u0331"), ("racute", "ŕ"), ("radic", "√"),
   ("raemptyv", "⦳"), ("rang", "⟩"), ("rangd", "⦒"), ("range", "⦥"),
   ("rangle", "⟩"), ("raquo", "»"), ("rarr", "→"), ("rarrap", "⥵"),
   ("rarrb", "⇥"), ("rarrbfs", "⤠"), ("rarrc", "⤳"), ("rarrfs", "⤞"),
   ("rarrhk", "↪"), ("rarrlp", "↬"), ("rarrpl", "⥅"), ("rarrsim", "⥴"),
   ("rarrtl", "↣"), ("rarrw", "↝"), ("ratail", "⤚"), ("ratio", "∶"),
   ("rationals", "ℚ"), ("rbarr", "⤍"), ("rbbrk", "❳"), ("rbrace", "\x7d"),
   ("rbrack", "]"), ("rbrke", "⦌"), ("rbrksld", "⦎"), ("rbrkslu", "⦐"),
   ("rcaron", "ř"), ("rcedil", "ŗ"), ("rceil", "⌉"), ("rcub", "\x7d"),
   ("rcy", "р"), ("rdca", "⤷"), ("rdldhar", "⥩"), ("rdquo", "”"),
   ("rdquor", "”"), ("rdsh", "↳"), ("real", "ℜ"), ("realine", "ℛ"),
   ("realpart", "ℜ"), ("reals", "ℝ"), ("rect", "▭"), ("reg", "®"),
   ("rfisht", "⥽"), ("rfloor", "⌋"), ("rfr", "𝔯"), ("rhard", "⇁"),
   ("rharu", "⇀"), ("rharul", "⥬"), ("rho", "ρ"), ("rhov", "ϱ"),
   ("rightarrow", "→"), ("rightarrowtail", "↣"), ("rightharpoondown", "⇁"),
   ("rightharpoonup", "⇀"), ("rightleftarrows", "⇄"),
   ("rightleftharpoons", "⇌"), ("rightrightarrows", "⇉"),
   ("rightsquigarrow", "↝"), ("rightthreetimes", "⋌"), ("ring", "˚"),
   ("risingdotseq", "≓"), ("rlarr", "⇄"), ("rlhar", "⇌"), ("rlm", "\u200f"),
   ("rmoust", "⎱"), ("rmoustache", "⎱"), ("rnmid", "⫮"), ("roang", "⟭"),
   ("roarr", "⇾"), ("robrk", "⟧"), ("ropar", "⦆"), ("ropf", "𝕣"),
   ("roplus", "⨮"), ("rotimes", "⨵"), ("rpar", ")"), ("rpargt", "⦔"),
   ("rppolint", "⨒"), ("rrarr", "⇉"), ("rsaquo", "›"), ("rscr", "𝓇"),
   ("rsh", "↱"), ("rsqb", "]"), ("rsquo", "’"), ("rsquor", "’"),
   ("rthree", "⋌"), ("rtimes", "⋊"), ("rtri", "▹"), ("rtrie", "⊵"),
   ("rtrif", "▸"), ("rtriltri", "⧎"), ("ruluhar", "⥨"), ("rx", "℞")]

def namesSmallS : List (String × String) :=
  [("sacute", "ś"), ("sbquo", "‚"), ("sc", "≻"), ("scE", "⪴"), ("scap", "⪸"),
   ("scaron", "š"), ("sccue", "≽"), ("sce", "⪰"), ("scedil", "ş"),
   ("scirc", "ŝ"), ("scnE", "⪶"), ("scnap", "⪺"), ("scnsim", "⋩"),
   ("scpolint", "⨓"), ("scsim", "≿"), ("scy", "с"), ("sdot", "⋅"),
   ("sdotb", "⊡"), ("sdote", "⩦"), ("seArr", "⇘"), ("searhk", "⤥"),
   ("searr", "↘"), ("searrow", "↘"), ("sect", "§"), ("semi", ";"),
   ("seswar", "⤩"), ("setminus", "∖"), ("setmn", "∖"), ("sext", "✶"),
   ("sfr", "𝔰"), ("sfrown", "⌢"), ("sharp", "♯"), ("shchcy", "щ"),
   ("shcy", "ш"), ("shortmid", "∣"), ("shortparallel", "∥"), ("shy", "\u00ad"),
   ("sigma", "σ"), ("sigmaf", "ς"), ("sigmav", "ς"), ("sim", "∼"),
   ("simdot", "⩪"), ("sime", "≃"), ("simeq", "≃"), ("simg", "⪞"),
   ("simgE", "⪠"), ("siml", "⪝"), ("simlE", "⪟"), ("simne", "≆"),
   ("simplus", "⨤"), ("simrarr", "⥲"), ("slarr", "←"), ("smallsetminus", "∖"),
   ("smashp", "⨳"), ("smeparsl", "⧤"), ("smid", "∣"), ("smile", "⌣"),
   ("smt", "⪪"), ("smte", "⪬"), ("smtes", "⪬\ufe00"), ("softcy", "ь"),
   ("sol", "/"), ("solb", "⧄"), ("solbar", "⌿"), ("sopf", "𝕤"), ("spades", "♠"),
   ("spadesuit", "♠"), ("spar", "∥"), ("sqcap", "⊓"), ("sqcaps", "⊓\ufe00"),
   ("sqcup", "⊔"), ("sqcups", "⊔\ufe00"), ("sqsub", "⊏"), ("sqsube", "⊑"),
   ("sqsubset", "⊏"), ("sqsubseteq", "⊑"), ("sqsup", "⊐"), ("sqsupe", "⊒"),
   ("sqsupset", "⊐"), ("sqsupseteq", "⊒"), ("squ", "□"), ("square", "□"),
   ("squarf", "▪"), ("squf", "▪"), ("srarr", "→"), ("sscr", "𝓈"),
   ("ssetmn", "∖"), ("ssmile", "⌣"), ("sstarf", "⋆"), ("star", "☆"),
   ("starf", "★"), ("straightepsilon", "ϵ"), ("straightphi", "ϕ"),
   ("strns", "¯"), ("sub", "⊂"), ("subE", "⫅"), ("subdot", "⪽"), ("sube", "⊆"),
   ("subedot", "⫃"), ("submult", "⫁"), ("subnE", "⫋"), ("subne", "⊊"),
   ("subplus", "⪿"), ("subrarr", "⥹"), ("subset", "⊂"), ("subseteq", "⊆"),
   ("subseteqq", "⫅"), ("subsetneq", "⊊"), ("subsetneqq", "⫋"), ("subsim", "⫇"),
   ("subsub", "⫕"), ("subsup", "⫓"), ("succ", "≻"), ("succapprox", "⪸"),
   ("succcurlyeq", "≽"), ("succeq", "⪰"), ("succnapprox", "⪺"),
   ("succneqq", "⪶"), ("succnsim", "⋩"), ("succsim", "≿"), ("sum", "∑"),
   ("sung", "♪"), ("sup", "⊃"), ("sup1", "¹"), ("sup2", "²"), ("sup3", "³"),
   ("supE", "⫆"), ("supdot", "⪾"), ("supdsub", "⫘"), ("supe", "⊇"),
   ("supedot", "⫄"), ("suphsol", "⟉"), ("suphsub", "⫗"), ("suplarr", "⥻"),
   ("supmult", "⫂"), ("supnE", "⫌"), ("supne", "⊋"), ("supplus", "⫀"),
   ("supset", "⊃"), ("supseteq", "⊇"), ("supseteqq", "⫆"), ("supsetneq", "⊋"),
   ("supsetneqq", "⫌"), ("supsim", "⫈"), ("supsub", "⫔"), ("supsup", "⫖"),
   ("swArr", "⇙"), ("swarhk", "⤦"), ("swarr", "↙"), ("swarrow", "↙"),
   ("swnwar", "⤪"), ("szlig", "ß")]

def namesSmallT : List (String × String) :=
  [("target", "⌖"), ("tau", "τ"), ("tbrk", "⎴"), ("tcaron", "ť"),
   ("tcedil", "ţ"), ("tcy", "т"), ("tdot", "\u20db"), ("telrec", "⌕"),
   ("tfr", "𝔱"), ("there4", "∴"), ("therefore", "∴"), ("theta", "θ"),
   ("thetasym", "ϑ"), ("thetav", "ϑ"), ("thickapprox", "≈"), ("thicksim", "∼"),
   ("thinsp", "\u2009"), ("thkap", "≈"), ("thksim", "∼"), ("thorn", "þ"),
   ("tilde", "˜"), ("times", "×"), ("timesb", "⊠"), ("timesbar", "⨱"),
   ("timesd", "⨰"), ("tint", "∭"), ("toea", "⤨"), ("top", "⊤"), ("topbot", "⌶"),
   ("topcir", "⫱"), ("topf", "𝕥"), ("topfork", "⫚"), ("tosa", "⤩"),
   ("tprime", "‴"), ("trade", "™"), ("triangle", "▵"), ("triangledown", "▿"),
   ("triangleleft", "◃"), ("trianglelefteq", "⊴"), ("triangleq", "≜"),
   ("triangleright", "▹"), ("trianglerighteq", "⊵"), ("tridot", "◬"),
   ("trie", "≜"), ("triminus", "⨺"), ("triplus", "⨹"), ("trisb", "⧍"),
   ("tritime", "⨻"), ("trpezium", "⏢"), ("tscr", "𝓉"), ("tscy", "ц"),
   ("tshcy", "ћ"), ("tstrok", "ŧ"), ("twixt", "≬"), ("twoheadleftarrow", "↞"),
   ("twoheadrightarrow", "↠")]

def namesSmallU : List (String × String) :=
  [("uArr", "⇑"), ("uHar", "⥣"), ("uacute", "ú"), ("uarr", "↑"), ("ubrcy", "ў"),
   ("ubreve", "ŭ"), ("ucirc", "û"), ("ucy", "у"), ("udarr", "⇅"),
   ("udblac", "ű"), ("udhar", "⥮"), ("ufisht", "⥾"), ("ufr", "𝔲"),
   ("ugrave", "ù"), ("uharl", "↿"), ("uharr", "↾"), ("uhblk", "▀"),
   ("ulcorn", "⌜"), ("ulcorner", "⌜"), ("ulcrop", "⌏"), ("ultri", "◸"),
   ("umacr", "ū"), ("uml", "¨"), ("uogon", "ų"), ("uopf", "𝕦"),
   ("uparrow", "↑"), ("updownarrow", "↕"), ("upharpoonleft", "↿"),
   ("upharpoonright", "↾"), ("uplus", "⊎"), ("upsi", "υ"), ("upsih", "ϒ"),
   ("upsilon", "υ"), ("upuparrows", "⇈"), ("urcorn", "⌝"), ("urcorner", "⌝"),
   ("urcrop", "⌎"), ("uring", "ů"), ("urtri", "◹"), ("uscr", "𝓊"),
   ("utdot", "⋰"), ("utilde", "ũ"), ("utri", "▵"), ("utrif", "▴"),
   ("uuarr", "⇈"), ("uuml", "ü"), ("uwangle", "⦧")]

def namesSmallV : List (String × String) :=
  [("vArr", "⇕"), ("vBar", "⫨"), ("vBarv", "⫩"), ("vDash", "⊨"),
   ("vangrt", "⦜"), ("varepsilon", "ϵ"), ("varkappa", "ϰ"), ("varnothing", "∅"),
   ("varphi", "ϕ"), ("varpi", "ϖ"), ("varpropto", "∝"), ("varr", "↕"),
   ("varrho", "ϱ"), ("varsigma", "ς"), ("varsubsetneq", "⊊\ufe00"),
   ("varsubsetneqq", "⫋\ufe00"), ("varsupsetneq", "⊋\ufe00"),
   ("varsupsetneqq", "⫌\ufe00"), ("vartheta", "ϑ"), ("vartriangleleft", "⊲"),
   ("vartriangleright", "⊳"), ("vcy", "в"), ("vdash", "⊢"), ("vee", "∨"),
   ("veebar", "⊻"), ("veeeq", "≚"), ("vellip", "⋮"), ("verbar", "|"),
   ("vert", "|"), ("vfr", "𝔳"), ("vltri", "⊲"), ("vnsub", "⊂\u20d2"),
   ("vnsup", "⊃\u20d2"), ("vopf", "𝕧"), ("vprop", "∝"), ("vrtri", "⊳"),
   ("vscr", "𝓋"), ("vsubnE", "⫋\ufe00"), ("vsubne", "⊊\ufe00"),
   ("vsupnE", "⫌\ufe00"), ("vsupne", "⊋\ufe00"), ("vzigzag", "⦚")]

def namesSmallW : List (String × String) :=
  [("wcirc", "ŵ"), ("wedbar", "⩟"), ("wedge", "∧"), ("wedgeq", "≙"),
   ("weierp", "℘"), ("wfr", "𝔴"), ("wopf", "𝕨"), ("wp", "℘"), ("wr", "≀"),
   ("wreath", "≀"), ("wscr", "𝓌")]

def namesSmallX : List (String × String) :=
  [("xcap", "⋂"), ("xcirc", "◯"), ("xcup", "⋃"), ("xdtri", "▽"), ("xfr", "𝔵"),
   ("xhArr", "⟺"), ("xharr", "⟷"), ("xi", "ξ"), ("xlArr", "⟸"), ("xlarr", "⟵"),
   ("xmap", "⟼"), ("xnis", "⋻"), ("xodot", "⨀"), ("xopf", "𝕩"), ("xoplus", "⨁"),
   ("xotime", "⨂"), ("xrArr", "⟹"), ("xrarr", "⟶"), ("xscr", "𝓍"),
   ("xsqcup", "⨆"), ("xuplus", "⨄"), ("xutri", "△"), ("xvee", "⋁"),
   ("xwedge", "⋀")]

def namesSmallY : List (String × String) :=
  [("yacute", "ý"), ("yacy", "я"), ("ycirc", "ŷ"), ("ycy", "ы"), ("yen", "¥"),
   ("yfr", "𝔶"), ("yicy", "ї"), ("yopf", "𝕪"), ("yscr", "𝓎"), ("yucy", "ю"),
   ("yuml", "ÿ")]

def namesSmallZ : List (String × String) :=
  [("zacute", "ź"), ("zcaron", "ž"), ("zcy", "з"), ("zdot", "ż"),
   ("zeetrf", "ℨ"), ("zeta", "ζ"), ("zfr", "𝔷"), ("zhcy", "ж"),
   ("zigrarr", "⇝"), ("zopf", "𝕫"), ("zscr", "𝓏"), ("zwj", "\u200d"),
   ("zwnj", "\u200c")]

end Reference
end Markup
end SiteAudit
