/-!
# Named character references: N to Z, capital

The names that start with one of the letters N to Z, capital, without the
closing semicolon, each with the text it stands for.  The names are the standard
ones of hypertext.
-/

namespace SiteAudit
namespace Markup
namespace Reference

def namesCapitalN : List (String × String) :=
  [("NJcy", "Њ"), ("Nacute", "Ń"), ("Ncaron", "Ň"), ("Ncedil", "Ņ"),
   ("Ncy", "Н"), ("NegativeMediumSpace", "\u200b"),
   ("NegativeThickSpace", "\u200b"), ("NegativeThinSpace", "\u200b"),
   ("NegativeVeryThinSpace", "\u200b"), ("NestedGreaterGreater", "≫"),
   ("NestedLessLess", "≪"), ("NewLine", "\x0a"), ("Nfr", "𝔑"),
   ("NoBreak", "\u2060"), ("NonBreakingSpace", "\u00a0"), ("Nopf", "ℕ"),
   ("Not", "⫬"), ("NotCongruent", "≢"), ("NotCupCap", "≭"),
   ("NotDoubleVerticalBar", "∦"), ("NotElement", "∉"), ("NotEqual", "≠"),
   ("NotEqualTilde", "≂\u0338"), ("NotExists", "∄"), ("NotGreater", "≯"),
   ("NotGreaterEqual", "≱"), ("NotGreaterFullEqual", "≧\u0338"),
   ("NotGreaterGreater", "≫\u0338"), ("NotGreaterLess", "≹"),
   ("NotGreaterSlantEqual", "⩾\u0338"), ("NotGreaterTilde", "≵"),
   ("NotHumpDownHump", "≎\u0338"), ("NotHumpEqual", "≏\u0338"),
   ("NotLeftTriangle", "⋪"), ("NotLeftTriangleBar", "⧏\u0338"),
   ("NotLeftTriangleEqual", "⋬"), ("NotLess", "≮"), ("NotLessEqual", "≰"),
   ("NotLessGreater", "≸"), ("NotLessLess", "≪\u0338"),
   ("NotLessSlantEqual", "⩽\u0338"), ("NotLessTilde", "≴"),
   ("NotNestedGreaterGreater", "⪢\u0338"), ("NotNestedLessLess", "⪡\u0338"),
   ("NotPrecedes", "⊀"), ("NotPrecedesEqual", "⪯\u0338"),
   ("NotPrecedesSlantEqual", "⋠"), ("NotReverseElement", "∌"),
   ("NotRightTriangle", "⋫"), ("NotRightTriangleBar", "⧐\u0338"),
   ("NotRightTriangleEqual", "⋭"), ("NotSquareSubset", "⊏\u0338"),
   ("NotSquareSubsetEqual", "⋢"), ("NotSquareSuperset", "⊐\u0338"),
   ("NotSquareSupersetEqual", "⋣"), ("NotSubset", "⊂\u20d2"),
   ("NotSubsetEqual", "⊈"), ("NotSucceeds", "⊁"),
   ("NotSucceedsEqual", "⪰\u0338"), ("NotSucceedsSlantEqual", "⋡"),
   ("NotSucceedsTilde", "≿\u0338"), ("NotSuperset", "⊃\u20d2"),
   ("NotSupersetEqual", "⊉"), ("NotTilde", "≁"), ("NotTildeEqual", "≄"),
   ("NotTildeFullEqual", "≇"), ("NotTildeTilde", "≉"), ("NotVerticalBar", "∤"),
   ("Nscr", "𝒩"), ("Ntilde", "Ñ"), ("Nu", "Ν")]

def namesCapitalO : List (String × String) :=
  [("OElig", "Œ"), ("Oacute", "Ó"), ("Ocirc", "Ô"), ("Ocy", "О"),
   ("Odblac", "Ő"), ("Ofr", "𝔒"), ("Ograve", "Ò"), ("Omacr", "Ō"),
   ("Omega", "Ω"), ("Omicron", "Ο"), ("Oopf", "𝕆"),
   ("OpenCurlyDoubleQuote", "“"), ("OpenCurlyQuote", "‘"), ("Or", "⩔"),
   ("Oscr", "𝒪"), ("Oslash", "Ø"), ("Otilde", "Õ"), ("Otimes", "⨷"),
   ("Ouml", "Ö"), ("OverBar", "‾"), ("OverBrace", "⏞"), ("OverBracket", "⎴"),
   ("OverParenthesis", "⏜")]

def namesCapitalP : List (String × String) :=
  [("PartialD", "∂"), ("Pcy", "П"), ("Pfr", "𝔓"), ("Phi", "Φ"), ("Pi", "Π"),
   ("PlusMinus", "±"), ("Poincareplane", "ℌ"), ("Popf", "ℙ"), ("Pr", "⪻"),
   ("Precedes", "≺"), ("PrecedesEqual", "⪯"), ("PrecedesSlantEqual", "≼"),
   ("PrecedesTilde", "≾"), ("Prime", "″"), ("Product", "∏"),
   ("Proportion", "∷"), ("Proportional", "∝"), ("Pscr", "𝒫"), ("Psi", "Ψ")]

def namesCapitalQ : List (String × String) :=
  [("QUOT", "\""), ("Qfr", "𝔔"), ("Qopf", "ℚ"), ("Qscr", "𝒬")]

def namesCapitalR : List (String × String) :=
  [("RBarr", "⤐"), ("REG", "®"), ("Racute", "Ŕ"), ("Rang", "⟫"), ("Rarr", "↠"),
   ("Rarrtl", "⤖"), ("Rcaron", "Ř"), ("Rcedil", "Ŗ"), ("Rcy", "Р"), ("Re", "ℜ"),
   ("ReverseElement", "∋"), ("ReverseEquilibrium", "⇋"),
   ("ReverseUpEquilibrium", "⥯"), ("Rfr", "ℜ"), ("Rho", "Ρ"),
   ("RightAngleBracket", "⟩"), ("RightArrow", "→"), ("RightArrowBar", "⇥"),
   ("RightArrowLeftArrow", "⇄"), ("RightCeiling", "⌉"),
   ("RightDoubleBracket", "⟧"), ("RightDownTeeVector", "⥝"),
   ("RightDownVector", "⇂"), ("RightDownVectorBar", "⥕"), ("RightFloor", "⌋"),
   ("RightTee", "⊢"), ("RightTeeArrow", "↦"), ("RightTeeVector", "⥛"),
   ("RightTriangle", "⊳"), ("RightTriangleBar", "⧐"),
   ("RightTriangleEqual", "⊵"), ("RightUpDownVector", "⥏"),
   ("RightUpTeeVector", "⥜"), ("RightUpVector", "↾"), ("RightUpVectorBar", "⥔"),
   ("RightVector", "⇀"), ("RightVectorBar", "⥓"), ("Rightarrow", "⇒"),
   ("Ropf", "ℝ"), ("RoundImplies", "⥰"), ("Rrightarrow", "⇛"), ("Rscr", "ℛ"),
   ("Rsh", "↱"), ("RuleDelayed", "⧴")]

def namesCapitalS : List (String × String) :=
  [("SHCHcy", "Щ"), ("SHcy", "Ш"), ("SOFTcy", "Ь"), ("Sacute", "Ś"),
   ("Sc", "⪼"), ("Scaron", "Š"), ("Scedil", "Ş"), ("Scirc", "Ŝ"), ("Scy", "С"),
   ("Sfr", "𝔖"), ("ShortDownArrow", "↓"), ("ShortLeftArrow", "←"),
   ("ShortRightArrow", "→"), ("ShortUpArrow", "↑"), ("Sigma", "Σ"),
   ("SmallCircle", "∘"), ("Sopf", "𝕊"), ("Sqrt", "√"), ("Square", "□"),
   ("SquareIntersection", "⊓"), ("SquareSubset", "⊏"),
   ("SquareSubsetEqual", "⊑"), ("SquareSuperset", "⊐"),
   ("SquareSupersetEqual", "⊒"), ("SquareUnion", "⊔"), ("Sscr", "𝒮"),
   ("Star", "⋆"), ("Sub", "⋐"), ("Subset", "⋐"), ("SubsetEqual", "⊆"),
   ("Succeeds", "≻"), ("SucceedsEqual", "⪰"), ("SucceedsSlantEqual", "≽"),
   ("SucceedsTilde", "≿"), ("SuchThat", "∋"), ("Sum", "∑"), ("Sup", "⋑"),
   ("Superset", "⊃"), ("SupersetEqual", "⊇"), ("Supset", "⋑")]

def namesCapitalT : List (String × String) :=
  [("THORN", "Þ"), ("TRADE", "™"), ("TSHcy", "Ћ"), ("TScy", "Ц"),
   ("Tab", "\x09"), ("Tau", "Τ"), ("Tcaron", "Ť"), ("Tcedil", "Ţ"),
   ("Tcy", "Т"), ("Tfr", "𝔗"), ("Therefore", "∴"), ("Theta", "Θ"),
   ("ThickSpace", "\u205f\u200a"), ("ThinSpace", "\u2009"), ("Tilde", "∼"),
   ("TildeEqual", "≃"), ("TildeFullEqual", "≅"), ("TildeTilde", "≈"),
   ("Topf", "𝕋"), ("TripleDot", "\u20db"), ("Tscr", "𝒯"), ("Tstrok", "Ŧ")]

def namesCapitalU : List (String × String) :=
  [("Uacute", "Ú"), ("Uarr", "↟"), ("Uarrocir", "⥉"), ("Ubrcy", "Ў"),
   ("Ubreve", "Ŭ"), ("Ucirc", "Û"), ("Ucy", "У"), ("Udblac", "Ű"), ("Ufr", "𝔘"),
   ("Ugrave", "Ù"), ("Umacr", "Ū"), ("UnderBar", "_"), ("UnderBrace", "⏟"),
   ("UnderBracket", "⎵"), ("UnderParenthesis", "⏝"), ("Union", "⋃"),
   ("UnionPlus", "⊎"), ("Uogon", "Ų"), ("Uopf", "𝕌"), ("UpArrow", "↑"),
   ("UpArrowBar", "⤒"), ("UpArrowDownArrow", "⇅"), ("UpDownArrow", "↕"),
   ("UpEquilibrium", "⥮"), ("UpTee", "⊥"), ("UpTeeArrow", "↥"),
   ("Uparrow", "⇑"), ("Updownarrow", "⇕"), ("UpperLeftArrow", "↖"),
   ("UpperRightArrow", "↗"), ("Upsi", "ϒ"), ("Upsilon", "Υ"), ("Uring", "Ů"),
   ("Uscr", "𝒰"), ("Utilde", "Ũ"), ("Uuml", "Ü")]

def namesCapitalV : List (String × String) :=
  [("VDash", "⊫"), ("Vbar", "⫫"), ("Vcy", "В"), ("Vdash", "⊩"), ("Vdashl", "⫦"),
   ("Vee", "⋁"), ("Verbar", "‖"), ("Vert", "‖"), ("VerticalBar", "∣"),
   ("VerticalLine", "|"), ("VerticalSeparator", "❘"), ("VerticalTilde", "≀"),
   ("VeryThinSpace", "\u200a"), ("Vfr", "𝔙"), ("Vopf", "𝕍"), ("Vscr", "𝒱"),
   ("Vvdash", "⊪")]

def namesCapitalW : List (String × String) :=
  [("Wcirc", "Ŵ"), ("Wedge", "⋀"), ("Wfr", "𝔚"), ("Wopf", "𝕎"), ("Wscr", "𝒲")]

def namesCapitalX : List (String × String) :=
  [("Xfr", "𝔛"), ("Xi", "Ξ"), ("Xopf", "𝕏"), ("Xscr", "𝒳")]

def namesCapitalY : List (String × String) :=
  [("YAcy", "Я"), ("YIcy", "Ї"), ("YUcy", "Ю"), ("Yacute", "Ý"), ("Ycirc", "Ŷ"),
   ("Ycy", "Ы"), ("Yfr", "𝔜"), ("Yopf", "𝕐"), ("Yscr", "𝒴"), ("Yuml", "Ÿ")]

def namesCapitalZ : List (String × String) :=
  [("ZHcy", "Ж"), ("Zacute", "Ź"), ("Zcaron", "Ž"), ("Zcy", "З"), ("Zdot", "Ż"),
   ("ZeroWidthSpace", "\u200b"), ("Zeta", "Ζ"), ("Zfr", "ℨ"), ("Zopf", "ℤ"),
   ("Zscr", "𝒵")]

end Reference
end Markup
end SiteAudit
