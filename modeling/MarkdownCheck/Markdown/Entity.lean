import MarkdownCheck.Text.Basic
import MarkdownCheck.Unicode.Packed

/-!
# Character references

- `Entity.named?`: the text of a named character reference.
- `Entity.numbered`: the character of a numbered one; numbers that stand for no character give the
  replacement character.
- `Entity.read?`: the reference at the start of a text.
-/

namespace MarkdownCheck.Markdown.Entity

/-- References by their first letter: the rest of the name and the packed characters. -/
abbrev Table := List (Char × List (String × Nat))

/-- The references from `A` to `Z`. -/
def capitals : Table := [
  ('A', [
    ("Elig", 0xC6), ("MP", 0x26), ("acute", 0xC1), ("breve", 0x102), ("circ", 0xC2), ("cy", 0x410),
    ("fr", 0x1D504), ("grave", 0xC0), ("lpha", 0x391), ("macr", 0x100), ("nd", 0x2A53),
    ("ogon", 0x104), ("opf", 0x1D538), ("pplyFunction", 0x2061), ("ring", 0xC5), ("scr", 0x1D49C),
    ("ssign", 0x2254), ("tilde", 0xC3), ("uml", 0xC4)]),
  ('B', [
    ("ackslash", 0x2216), ("arv", 0x2AE7), ("arwed", 0x2306), ("cy", 0x411), ("ecause", 0x2235),
    ("ernoullis", 0x212C), ("eta", 0x392), ("fr", 0x1D505), ("opf", 0x1D539), ("reve", 0x2D8),
    ("scr", 0x212C), ("umpeq", 0x224E)]),
  ('C', [
    ("Hcy", 0x427), ("OPY", 0xA9), ("acute", 0x106), ("ap", 0x22D2),
    ("apitalDifferentialD", 0x2145), ("ayleys", 0x212D), ("caron", 0x10C), ("cedil", 0xC7),
    ("circ", 0x108), ("conint", 0x2230), ("dot", 0x10A), ("edilla", 0xB8), ("enterDot", 0xB7),
    ("fr", 0x212D), ("hi", 0x3A7), ("ircleDot", 0x2299), ("ircleMinus", 0x2296),
    ("irclePlus", 0x2295), ("ircleTimes", 0x2297), ("lockwiseContourIntegral", 0x2232),
    ("loseCurlyDoubleQuote", 0x201D), ("loseCurlyQuote", 0x2019), ("olon", 0x2237),
    ("olone", 0x2A74), ("ongruent", 0x2261), ("onint", 0x222F), ("ontourIntegral", 0x222E),
    ("opf", 0x2102), ("oproduct", 0x2210), ("ounterClockwiseContourIntegral", 0x2233),
    ("ross", 0x2A2F), ("scr", 0x1D49E), ("up", 0x22D3), ("upCap", 0x224D)]),
  ('D', [
    ("D", 0x2145), ("Dotrahd", 0x2911), ("Jcy", 0x402), ("Scy", 0x405), ("Zcy", 0x40F),
    ("agger", 0x2021), ("arr", 0x21A1), ("ashv", 0x2AE4), ("caron", 0x10E), ("cy", 0x414),
    ("el", 0x2207), ("elta", 0x394), ("fr", 0x1D507), ("iacriticalAcute", 0xB4),
    ("iacriticalDot", 0x2D9), ("iacriticalDoubleAcute", 0x2DD), ("iacriticalGrave", 0x60),
    ("iacriticalTilde", 0x2DC), ("iamond", 0x22C4), ("ifferentialD", 0x2146), ("opf", 0x1D53B),
    ("ot", 0xA8), ("otDot", 0x20DC), ("otEqual", 0x2250), ("oubleContourIntegral", 0x222F),
    ("oubleDot", 0xA8), ("oubleDownArrow", 0x21D3), ("oubleLeftArrow", 0x21D0),
    ("oubleLeftRightArrow", 0x21D4), ("oubleLeftTee", 0x2AE4), ("oubleLongLeftArrow", 0x27F8),
    ("oubleLongLeftRightArrow", 0x27FA), ("oubleLongRightArrow", 0x27F9),
    ("oubleRightArrow", 0x21D2), ("oubleRightTee", 0x22A8), ("oubleUpArrow", 0x21D1),
    ("oubleUpDownArrow", 0x21D5), ("oubleVerticalBar", 0x2225), ("ownArrow", 0x2193),
    ("ownArrowBar", 0x2913), ("ownArrowUpArrow", 0x21F5), ("ownBreve", 0x311),
    ("ownLeftRightVector", 0x2950), ("ownLeftTeeVector", 0x295E), ("ownLeftVector", 0x21BD),
    ("ownLeftVectorBar", 0x2956), ("ownRightTeeVector", 0x295F), ("ownRightVector", 0x21C1),
    ("ownRightVectorBar", 0x2957), ("ownTee", 0x22A4), ("ownTeeArrow", 0x21A7),
    ("ownarrow", 0x21D3), ("scr", 0x1D49F), ("strok", 0x110)]),
  ('E', [
    ("NG", 0x14A), ("TH", 0xD0), ("acute", 0xC9), ("caron", 0x11A), ("circ", 0xCA), ("cy", 0x42D),
    ("dot", 0x116), ("fr", 0x1D508), ("grave", 0xC8), ("lement", 0x2208), ("macr", 0x112),
    ("mptySmallSquare", 0x25FB), ("mptyVerySmallSquare", 0x25AB), ("ogon", 0x118),
    ("opf", 0x1D53C), ("psilon", 0x395), ("qual", 0x2A75), ("qualTilde", 0x2242),
    ("quilibrium", 0x21CC), ("scr", 0x2130), ("sim", 0x2A73), ("ta", 0x397), ("uml", 0xCB),
    ("xists", 0x2203), ("xponentialE", 0x2147)]),
  ('F', [
    ("cy", 0x424), ("fr", 0x1D509), ("illedSmallSquare", 0x25FC), ("illedVerySmallSquare", 0x25AA),
    ("opf", 0x1D53D), ("orAll", 0x2200), ("ouriertrf", 0x2131), ("scr", 0x2131)]),
  ('G', [
    ("Jcy", 0x403), ("T", 0x3E), ("amma", 0x393), ("ammad", 0x3DC), ("breve", 0x11E),
    ("cedil", 0x122), ("circ", 0x11C), ("cy", 0x413), ("dot", 0x120), ("fr", 0x1D50A),
    ("g", 0x22D9), ("opf", 0x1D53E), ("reaterEqual", 0x2265), ("reaterEqualLess", 0x22DB),
    ("reaterFullEqual", 0x2267), ("reaterGreater", 0x2AA2), ("reaterLess", 0x2277),
    ("reaterSlantEqual", 0x2A7E), ("reaterTilde", 0x2273), ("scr", 0x1D4A2), ("t", 0x226B)]),
  ('H', [
    ("ARDcy", 0x42A), ("acek", 0x2C7), ("at", 0x5E), ("circ", 0x124), ("fr", 0x210C),
    ("ilbertSpace", 0x210B), ("opf", 0x210D), ("orizontalLine", 0x2500), ("scr", 0x210B),
    ("strok", 0x126), ("umpDownHump", 0x224E), ("umpEqual", 0x224F)]),
  ('I', [
    ("Ecy", 0x415), ("Jlig", 0x132), ("Ocy", 0x401), ("acute", 0xCD), ("circ", 0xCE),
    ("cy", 0x418), ("dot", 0x130), ("fr", 0x2111), ("grave", 0xCC), ("m", 0x2111), ("macr", 0x12A),
    ("maginaryI", 0x2148), ("mplies", 0x21D2), ("nt", 0x222C), ("ntegral", 0x222B),
    ("ntersection", 0x22C2), ("nvisibleComma", 0x2063), ("nvisibleTimes", 0x2062), ("ogon", 0x12E),
    ("opf", 0x1D540), ("ota", 0x399), ("scr", 0x2110), ("tilde", 0x128), ("ukcy", 0x406),
    ("uml", 0xCF)]),
  ('J', [
    ("circ", 0x134), ("cy", 0x419), ("fr", 0x1D50D), ("opf", 0x1D541), ("scr", 0x1D4A5),
    ("sercy", 0x408), ("ukcy", 0x404)]),
  ('K', [
    ("Hcy", 0x425), ("Jcy", 0x40C), ("appa", 0x39A), ("cedil", 0x136), ("cy", 0x41A),
    ("fr", 0x1D50E), ("opf", 0x1D542), ("scr", 0x1D4A6)]),
  ('L', [
    ("Jcy", 0x409), ("T", 0x3C), ("acute", 0x139), ("ambda", 0x39B), ("ang", 0x27EA),
    ("aplacetrf", 0x2112), ("arr", 0x219E), ("caron", 0x13D), ("cedil", 0x13B), ("cy", 0x41B),
    ("eftAngleBracket", 0x27E8), ("eftArrow", 0x2190), ("eftArrowBar", 0x21E4),
    ("eftArrowRightArrow", 0x21C6), ("eftCeiling", 0x2308), ("eftDoubleBracket", 0x27E6),
    ("eftDownTeeVector", 0x2961), ("eftDownVector", 0x21C3), ("eftDownVectorBar", 0x2959),
    ("eftFloor", 0x230A), ("eftRightArrow", 0x2194), ("eftRightVector", 0x294E),
    ("eftTee", 0x22A3), ("eftTeeArrow", 0x21A4), ("eftTeeVector", 0x295A), ("eftTriangle", 0x22B2),
    ("eftTriangleBar", 0x29CF), ("eftTriangleEqual", 0x22B4), ("eftUpDownVector", 0x2951),
    ("eftUpTeeVector", 0x2960), ("eftUpVector", 0x21BF), ("eftUpVectorBar", 0x2958),
    ("eftVector", 0x21BC), ("eftVectorBar", 0x2952), ("eftarrow", 0x21D0),
    ("eftrightarrow", 0x21D4), ("essEqualGreater", 0x22DA), ("essFullEqual", 0x2266),
    ("essGreater", 0x2276), ("essLess", 0x2AA1), ("essSlantEqual", 0x2A7D), ("essTilde", 0x2272),
    ("fr", 0x1D50F), ("l", 0x22D8), ("leftarrow", 0x21DA), ("midot", 0x13F),
    ("ongLeftArrow", 0x27F5), ("ongLeftRightArrow", 0x27F7), ("ongRightArrow", 0x27F6),
    ("ongleftarrow", 0x27F8), ("ongleftrightarrow", 0x27FA), ("ongrightarrow", 0x27F9),
    ("opf", 0x1D543), ("owerLeftArrow", 0x2199), ("owerRightArrow", 0x2198), ("scr", 0x2112),
    ("sh", 0x21B0), ("strok", 0x141), ("t", 0x226A)]),
  ('M', [
    ("ap", 0x2905), ("cy", 0x41C), ("ediumSpace", 0x205F), ("ellintrf", 0x2133), ("fr", 0x1D510),
    ("inusPlus", 0x2213), ("opf", 0x1D544), ("scr", 0x2133), ("u", 0x39C)]),
  ('N', [
    ("Jcy", 0x40A), ("acute", 0x143), ("caron", 0x147), ("cedil", 0x145), ("cy", 0x41D),
    ("egativeMediumSpace", 0x200B), ("egativeThickSpace", 0x200B), ("egativeThinSpace", 0x200B),
    ("egativeVeryThinSpace", 0x200B), ("estedGreaterGreater", 0x226B), ("estedLessLess", 0x226A),
    ("ewLine", 0xA), ("fr", 0x1D511), ("oBreak", 0x2060), ("onBreakingSpace", 0xA0),
    ("opf", 0x2115), ("ot", 0x2AEC), ("otCongruent", 0x2262), ("otCupCap", 0x226D),
    ("otDoubleVerticalBar", 0x2226), ("otElement", 0x2209), ("otEqual", 0x2260),
    ("otEqualTilde", 0x338002242), ("otExists", 0x2204), ("otGreater", 0x226F),
    ("otGreaterEqual", 0x2271), ("otGreaterFullEqual", 0x338002267),
    ("otGreaterGreater", 0x33800226B), ("otGreaterLess", 0x2279),
    ("otGreaterSlantEqual", 0x338002A7E), ("otGreaterTilde", 0x2275),
    ("otHumpDownHump", 0x33800224E), ("otHumpEqual", 0x33800224F), ("otLeftTriangle", 0x22EA),
    ("otLeftTriangleBar", 0x3380029CF), ("otLeftTriangleEqual", 0x22EC), ("otLess", 0x226E),
    ("otLessEqual", 0x2270), ("otLessGreater", 0x2278), ("otLessLess", 0x33800226A),
    ("otLessSlantEqual", 0x338002A7D), ("otLessTilde", 0x2274),
    ("otNestedGreaterGreater", 0x338002AA2), ("otNestedLessLess", 0x338002AA1),
    ("otPrecedes", 0x2280), ("otPrecedesEqual", 0x338002AAF), ("otPrecedesSlantEqual", 0x22E0),
    ("otReverseElement", 0x220C), ("otRightTriangle", 0x22EB), ("otRightTriangleBar", 0x3380029D0),
    ("otRightTriangleEqual", 0x22ED), ("otSquareSubset", 0x33800228F),
    ("otSquareSubsetEqual", 0x22E2), ("otSquareSuperset", 0x338002290),
    ("otSquareSupersetEqual", 0x22E3), ("otSubset", 0x20D2002282), ("otSubsetEqual", 0x2288),
    ("otSucceeds", 0x2281), ("otSucceedsEqual", 0x338002AB0), ("otSucceedsSlantEqual", 0x22E1),
    ("otSucceedsTilde", 0x33800227F), ("otSuperset", 0x20D2002283), ("otSupersetEqual", 0x2289),
    ("otTilde", 0x2241), ("otTildeEqual", 0x2244), ("otTildeFullEqual", 0x2247),
    ("otTildeTilde", 0x2249), ("otVerticalBar", 0x2224), ("scr", 0x1D4A9), ("tilde", 0xD1),
    ("u", 0x39D)]),
  ('O', [
    ("Elig", 0x152), ("acute", 0xD3), ("circ", 0xD4), ("cy", 0x41E), ("dblac", 0x150),
    ("fr", 0x1D512), ("grave", 0xD2), ("macr", 0x14C), ("mega", 0x3A9), ("micron", 0x39F),
    ("opf", 0x1D546), ("penCurlyDoubleQuote", 0x201C), ("penCurlyQuote", 0x2018), ("r", 0x2A54),
    ("scr", 0x1D4AA), ("slash", 0xD8), ("tilde", 0xD5), ("times", 0x2A37), ("uml", 0xD6),
    ("verBar", 0x203E), ("verBrace", 0x23DE), ("verBracket", 0x23B4), ("verParenthesis", 0x23DC)]),
  ('P', [
    ("artialD", 0x2202), ("cy", 0x41F), ("fr", 0x1D513), ("hi", 0x3A6), ("i", 0x3A0),
    ("lusMinus", 0xB1), ("oincareplane", 0x210C), ("opf", 0x2119), ("r", 0x2ABB),
    ("recedes", 0x227A), ("recedesEqual", 0x2AAF), ("recedesSlantEqual", 0x227C),
    ("recedesTilde", 0x227E), ("rime", 0x2033), ("roduct", 0x220F), ("roportion", 0x2237),
    ("roportional", 0x221D), ("scr", 0x1D4AB), ("si", 0x3A8)]),
  ('Q', [
    ("UOT", 0x22), ("fr", 0x1D514), ("opf", 0x211A), ("scr", 0x1D4AC)]),
  ('R', [
    ("Barr", 0x2910), ("EG", 0xAE), ("acute", 0x154), ("ang", 0x27EB), ("arr", 0x21A0),
    ("arrtl", 0x2916), ("caron", 0x158), ("cedil", 0x156), ("cy", 0x420), ("e", 0x211C),
    ("everseElement", 0x220B), ("everseEquilibrium", 0x21CB), ("everseUpEquilibrium", 0x296F),
    ("fr", 0x211C), ("ho", 0x3A1), ("ightAngleBracket", 0x27E9), ("ightArrow", 0x2192),
    ("ightArrowBar", 0x21E5), ("ightArrowLeftArrow", 0x21C4), ("ightCeiling", 0x2309),
    ("ightDoubleBracket", 0x27E7), ("ightDownTeeVector", 0x295D), ("ightDownVector", 0x21C2),
    ("ightDownVectorBar", 0x2955), ("ightFloor", 0x230B), ("ightTee", 0x22A2),
    ("ightTeeArrow", 0x21A6), ("ightTeeVector", 0x295B), ("ightTriangle", 0x22B3),
    ("ightTriangleBar", 0x29D0), ("ightTriangleEqual", 0x22B5), ("ightUpDownVector", 0x294F),
    ("ightUpTeeVector", 0x295C), ("ightUpVector", 0x21BE), ("ightUpVectorBar", 0x2954),
    ("ightVector", 0x21C0), ("ightVectorBar", 0x2953), ("ightarrow", 0x21D2), ("opf", 0x211D),
    ("oundImplies", 0x2970), ("rightarrow", 0x21DB), ("scr", 0x211B), ("sh", 0x21B1),
    ("uleDelayed", 0x29F4)]),
  ('S', [
    ("HCHcy", 0x429), ("Hcy", 0x428), ("OFTcy", 0x42C), ("acute", 0x15A), ("c", 0x2ABC),
    ("caron", 0x160), ("cedil", 0x15E), ("circ", 0x15C), ("cy", 0x421), ("fr", 0x1D516),
    ("hortDownArrow", 0x2193), ("hortLeftArrow", 0x2190), ("hortRightArrow", 0x2192),
    ("hortUpArrow", 0x2191), ("igma", 0x3A3), ("mallCircle", 0x2218), ("opf", 0x1D54A),
    ("qrt", 0x221A), ("quare", 0x25A1), ("quareIntersection", 0x2293), ("quareSubset", 0x228F),
    ("quareSubsetEqual", 0x2291), ("quareSuperset", 0x2290), ("quareSupersetEqual", 0x2292),
    ("quareUnion", 0x2294), ("scr", 0x1D4AE), ("tar", 0x22C6), ("ub", 0x22D0), ("ubset", 0x22D0),
    ("ubsetEqual", 0x2286), ("ucceeds", 0x227B), ("ucceedsEqual", 0x2AB0),
    ("ucceedsSlantEqual", 0x227D), ("ucceedsTilde", 0x227F), ("uchThat", 0x220B), ("um", 0x2211),
    ("up", 0x22D1), ("uperset", 0x2283), ("upersetEqual", 0x2287), ("upset", 0x22D1)]),
  ('T', [
    ("HORN", 0xDE), ("RADE", 0x2122), ("SHcy", 0x40B), ("Scy", 0x426), ("ab", 0x9), ("au", 0x3A4),
    ("caron", 0x164), ("cedil", 0x162), ("cy", 0x422), ("fr", 0x1D517), ("herefore", 0x2234),
    ("heta", 0x398), ("hickSpace", 0x200A00205F), ("hinSpace", 0x2009), ("ilde", 0x223C),
    ("ildeEqual", 0x2243), ("ildeFullEqual", 0x2245), ("ildeTilde", 0x2248), ("opf", 0x1D54B),
    ("ripleDot", 0x20DB), ("scr", 0x1D4AF), ("strok", 0x166)]),
  ('U', [
    ("acute", 0xDA), ("arr", 0x219F), ("arrocir", 0x2949), ("brcy", 0x40E), ("breve", 0x16C),
    ("circ", 0xDB), ("cy", 0x423), ("dblac", 0x170), ("fr", 0x1D518), ("grave", 0xD9),
    ("macr", 0x16A), ("nderBar", 0x5F), ("nderBrace", 0x23DF), ("nderBracket", 0x23B5),
    ("nderParenthesis", 0x23DD), ("nion", 0x22C3), ("nionPlus", 0x228E), ("ogon", 0x172),
    ("opf", 0x1D54C), ("pArrow", 0x2191), ("pArrowBar", 0x2912), ("pArrowDownArrow", 0x21C5),
    ("pDownArrow", 0x2195), ("pEquilibrium", 0x296E), ("pTee", 0x22A5), ("pTeeArrow", 0x21A5),
    ("parrow", 0x21D1), ("pdownarrow", 0x21D5), ("pperLeftArrow", 0x2196),
    ("pperRightArrow", 0x2197), ("psi", 0x3D2), ("psilon", 0x3A5), ("ring", 0x16E),
    ("scr", 0x1D4B0), ("tilde", 0x168), ("uml", 0xDC)]),
  ('V', [
    ("Dash", 0x22AB), ("bar", 0x2AEB), ("cy", 0x412), ("dash", 0x22A9), ("dashl", 0x2AE6),
    ("ee", 0x22C1), ("erbar", 0x2016), ("ert", 0x2016), ("erticalBar", 0x2223),
    ("erticalLine", 0x7C), ("erticalSeparator", 0x2758), ("erticalTilde", 0x2240),
    ("eryThinSpace", 0x200A), ("fr", 0x1D519), ("opf", 0x1D54D), ("scr", 0x1D4B1),
    ("vdash", 0x22AA)]),
  ('W', [
    ("circ", 0x174), ("edge", 0x22C0), ("fr", 0x1D51A), ("opf", 0x1D54E), ("scr", 0x1D4B2)]),
  ('X', [
    ("fr", 0x1D51B), ("i", 0x39E), ("opf", 0x1D54F), ("scr", 0x1D4B3)]),
  ('Y', [
    ("Acy", 0x42F), ("Icy", 0x407), ("Ucy", 0x42E), ("acute", 0xDD), ("circ", 0x176),
    ("cy", 0x42B), ("fr", 0x1D51C), ("opf", 0x1D550), ("scr", 0x1D4B4), ("uml", 0x178)]),
  ('Z', [
    ("Hcy", 0x416), ("acute", 0x179), ("caron", 0x17D), ("cy", 0x417), ("dot", 0x17B),
    ("eroWidthSpace", 0x200B), ("eta", 0x396), ("fr", 0x2128), ("opf", 0x2124), ("scr", 0x1D4B5)])]

/-- The references from `a` to `g`. -/
def smallToG : Table := [
  ('a', [
    ("acute", 0xE1), ("breve", 0x103), ("c", 0x223E), ("cE", 0x33300223E), ("cd", 0x223F),
    ("circ", 0xE2), ("cute", 0xB4), ("cy", 0x430), ("elig", 0xE6), ("f", 0x2061), ("fr", 0x1D51E),
    ("grave", 0xE0), ("lefsym", 0x2135), ("leph", 0x2135), ("lpha", 0x3B1), ("macr", 0x101),
    ("malg", 0x2A3F), ("mp", 0x26), ("nd", 0x2227), ("ndand", 0x2A55), ("ndd", 0x2A5C),
    ("ndslope", 0x2A58), ("ndv", 0x2A5A), ("ng", 0x2220), ("nge", 0x29A4), ("ngle", 0x2220),
    ("ngmsd", 0x2221), ("ngmsdaa", 0x29A8), ("ngmsdab", 0x29A9), ("ngmsdac", 0x29AA),
    ("ngmsdad", 0x29AB), ("ngmsdae", 0x29AC), ("ngmsdaf", 0x29AD), ("ngmsdag", 0x29AE),
    ("ngmsdah", 0x29AF), ("ngrt", 0x221F), ("ngrtvb", 0x22BE), ("ngrtvbd", 0x299D),
    ("ngsph", 0x2222), ("ngst", 0xC5), ("ngzarr", 0x237C), ("ogon", 0x105), ("opf", 0x1D552),
    ("p", 0x2248), ("pE", 0x2A70), ("pacir", 0x2A6F), ("pe", 0x224A), ("pid", 0x224B),
    ("pos", 0x27), ("pprox", 0x2248), ("pproxeq", 0x224A), ("ring", 0xE5), ("scr", 0x1D4B6),
    ("st", 0x2A), ("symp", 0x2248), ("sympeq", 0x224D), ("tilde", 0xE3), ("uml", 0xE4),
    ("wconint", 0x2233), ("wint", 0x2A11)]),
  ('b', [
    ("Not", 0x2AED), ("ackcong", 0x224C), ("ackepsilon", 0x3F6), ("ackprime", 0x2035),
    ("acksim", 0x223D), ("acksimeq", 0x22CD), ("arvee", 0x22BD), ("arwed", 0x2305),
    ("arwedge", 0x2305), ("brk", 0x23B5), ("brktbrk", 0x23B6), ("cong", 0x224C), ("cy", 0x431),
    ("dquo", 0x201E), ("ecaus", 0x2235), ("ecause", 0x2235), ("emptyv", 0x29B0), ("epsi", 0x3F6),
    ("ernou", 0x212C), ("eta", 0x3B2), ("eth", 0x2136), ("etween", 0x226C), ("fr", 0x1D51F),
    ("igcap", 0x22C2), ("igcirc", 0x25EF), ("igcup", 0x22C3), ("igodot", 0x2A00),
    ("igoplus", 0x2A01), ("igotimes", 0x2A02), ("igsqcup", 0x2A06), ("igstar", 0x2605),
    ("igtriangledown", 0x25BD), ("igtriangleup", 0x25B3), ("iguplus", 0x2A04), ("igvee", 0x22C1),
    ("igwedge", 0x22C0), ("karow", 0x290D), ("lacklozenge", 0x29EB), ("lacksquare", 0x25AA),
    ("lacktriangle", 0x25B4), ("lacktriangledown", 0x25BE), ("lacktriangleleft", 0x25C2),
    ("lacktriangleright", 0x25B8), ("lank", 0x2423), ("lk12", 0x2592), ("lk14", 0x2591),
    ("lk34", 0x2593), ("lock", 0x2588), ("ne", 0x20E500003D), ("nequiv", 0x20E5002261),
    ("not", 0x2310), ("opf", 0x1D553), ("ot", 0x22A5), ("ottom", 0x22A5), ("owtie", 0x22C8),
    ("oxDL", 0x2557), ("oxDR", 0x2554), ("oxDl", 0x2556), ("oxDr", 0x2553), ("oxH", 0x2550),
    ("oxHD", 0x2566), ("oxHU", 0x2569), ("oxHd", 0x2564), ("oxHu", 0x2567), ("oxUL", 0x255D),
    ("oxUR", 0x255A), ("oxUl", 0x255C), ("oxUr", 0x2559), ("oxV", 0x2551), ("oxVH", 0x256C),
    ("oxVL", 0x2563), ("oxVR", 0x2560), ("oxVh", 0x256B), ("oxVl", 0x2562), ("oxVr", 0x255F),
    ("oxbox", 0x29C9), ("oxdL", 0x2555), ("oxdR", 0x2552), ("oxdl", 0x2510), ("oxdr", 0x250C),
    ("oxh", 0x2500), ("oxhD", 0x2565), ("oxhU", 0x2568), ("oxhd", 0x252C), ("oxhu", 0x2534),
    ("oxminus", 0x229F), ("oxplus", 0x229E), ("oxtimes", 0x22A0), ("oxuL", 0x255B),
    ("oxuR", 0x2558), ("oxul", 0x2518), ("oxur", 0x2514), ("oxv", 0x2502), ("oxvH", 0x256A),
    ("oxvL", 0x2561), ("oxvR", 0x255E), ("oxvh", 0x253C), ("oxvl", 0x2524), ("oxvr", 0x251C),
    ("prime", 0x2035), ("reve", 0x2D8), ("rvbar", 0xA6), ("scr", 0x1D4B7), ("semi", 0x204F),
    ("sim", 0x223D), ("sime", 0x22CD), ("sol", 0x5C), ("solb", 0x29C5), ("solhsub", 0x27C8),
    ("ull", 0x2022), ("ullet", 0x2022), ("ump", 0x224E), ("umpE", 0x2AAE), ("umpe", 0x224F),
    ("umpeq", 0x224F)]),
  ('c', [
    ("acute", 0x107), ("ap", 0x2229), ("apand", 0x2A44), ("apbrcup", 0x2A49), ("apcap", 0x2A4B),
    ("apcup", 0x2A47), ("apdot", 0x2A40), ("aps", 0xFE00002229), ("aret", 0x2041), ("aron", 0x2C7),
    ("caps", 0x2A4D), ("caron", 0x10D), ("cedil", 0xE7), ("circ", 0x109), ("cups", 0x2A4C),
    ("cupssm", 0x2A50), ("dot", 0x10B), ("edil", 0xB8), ("emptyv", 0x29B2), ("ent", 0xA2),
    ("enterdot", 0xB7), ("fr", 0x1D520), ("hcy", 0x447), ("heck", 0x2713), ("heckmark", 0x2713),
    ("hi", 0x3C7), ("ir", 0x25CB), ("irE", 0x29C3), ("irc", 0x2C6), ("irceq", 0x2257),
    ("irclearrowleft", 0x21BA), ("irclearrowright", 0x21BB), ("ircledR", 0xAE),
    ("ircledS", 0x24C8), ("ircledast", 0x229B), ("ircledcirc", 0x229A), ("ircleddash", 0x229D),
    ("ire", 0x2257), ("irfnint", 0x2A10), ("irmid", 0x2AEF), ("irscir", 0x29C2), ("lubs", 0x2663),
    ("lubsuit", 0x2663), ("olon", 0x3A), ("olone", 0x2254), ("oloneq", 0x2254), ("omma", 0x2C),
    ("ommat", 0x40), ("omp", 0x2201), ("ompfn", 0x2218), ("omplement", 0x2201),
    ("omplexes", 0x2102), ("ong", 0x2245), ("ongdot", 0x2A6D), ("onint", 0x222E), ("opf", 0x1D554),
    ("oprod", 0x2210), ("opy", 0xA9), ("opysr", 0x2117), ("rarr", 0x21B5), ("ross", 0x2717),
    ("scr", 0x1D4B8), ("sub", 0x2ACF), ("sube", 0x2AD1), ("sup", 0x2AD0), ("supe", 0x2AD2),
    ("tdot", 0x22EF), ("udarrl", 0x2938), ("udarrr", 0x2935), ("uepr", 0x22DE), ("uesc", 0x22DF),
    ("ularr", 0x21B6), ("ularrp", 0x293D), ("up", 0x222A), ("upbrcap", 0x2A48), ("upcap", 0x2A46),
    ("upcup", 0x2A4A), ("updot", 0x228D), ("upor", 0x2A45), ("ups", 0xFE0000222A),
    ("urarr", 0x21B7), ("urarrm", 0x293C), ("urlyeqprec", 0x22DE), ("urlyeqsucc", 0x22DF),
    ("urlyvee", 0x22CE), ("urlywedge", 0x22CF), ("urren", 0xA4), ("urvearrowleft", 0x21B6),
    ("urvearrowright", 0x21B7), ("uvee", 0x22CE), ("uwed", 0x22CF), ("wconint", 0x2232),
    ("wint", 0x2231), ("ylcty", 0x232D)]),
  ('d', [
    ("Arr", 0x21D3), ("Har", 0x2965), ("agger", 0x2020), ("aleth", 0x2138), ("arr", 0x2193),
    ("ash", 0x2010), ("ashv", 0x22A3), ("bkarow", 0x290F), ("blac", 0x2DD), ("caron", 0x10F),
    ("cy", 0x434), ("d", 0x2146), ("dagger", 0x2021), ("darr", 0x21CA), ("dotseq", 0x2A77),
    ("eg", 0xB0), ("elta", 0x3B4), ("emptyv", 0x29B1), ("fisht", 0x297F), ("fr", 0x1D521),
    ("harl", 0x21C3), ("harr", 0x21C2), ("iam", 0x22C4), ("iamond", 0x22C4),
    ("iamondsuit", 0x2666), ("iams", 0x2666), ("ie", 0xA8), ("igamma", 0x3DD), ("isin", 0x22F2),
    ("iv", 0xF7), ("ivide", 0xF7), ("ivideontimes", 0x22C7), ("ivonx", 0x22C7), ("jcy", 0x452),
    ("lcorn", 0x231E), ("lcrop", 0x230D), ("ollar", 0x24), ("opf", 0x1D555), ("ot", 0x2D9),
    ("oteq", 0x2250), ("oteqdot", 0x2251), ("otminus", 0x2238), ("otplus", 0x2214),
    ("otsquare", 0x22A1), ("oublebarwedge", 0x2306), ("ownarrow", 0x2193),
    ("owndownarrows", 0x21CA), ("ownharpoonleft", 0x21C3), ("ownharpoonright", 0x21C2),
    ("rbkarow", 0x2910), ("rcorn", 0x231F), ("rcrop", 0x230C), ("scr", 0x1D4B9), ("scy", 0x455),
    ("sol", 0x29F6), ("strok", 0x111), ("tdot", 0x22F1), ("tri", 0x25BF), ("trif", 0x25BE),
    ("uarr", 0x21F5), ("uhar", 0x296F), ("wangle", 0x29A6), ("zcy", 0x45F), ("zigrarr", 0x27FF)]),
  ('e', [
    ("DDot", 0x2A77), ("Dot", 0x2251), ("acute", 0xE9), ("aster", 0x2A6E), ("caron", 0x11B),
    ("cir", 0x2256), ("circ", 0xEA), ("colon", 0x2255), ("cy", 0x44D), ("dot", 0x117),
    ("e", 0x2147), ("fDot", 0x2252), ("fr", 0x1D522), ("g", 0x2A9A), ("grave", 0xE8),
    ("gs", 0x2A96), ("gsdot", 0x2A98), ("l", 0x2A99), ("linters", 0x23E7), ("ll", 0x2113),
    ("ls", 0x2A95), ("lsdot", 0x2A97), ("macr", 0x113), ("mpty", 0x2205), ("mptyset", 0x2205),
    ("mptyv", 0x2205), ("msp", 0x2003), ("msp13", 0x2004), ("msp14", 0x2005), ("ng", 0x14B),
    ("nsp", 0x2002), ("ogon", 0x119), ("opf", 0x1D556), ("par", 0x22D5), ("parsl", 0x29E3),
    ("plus", 0x2A71), ("psi", 0x3B5), ("psilon", 0x3B5), ("psiv", 0x3F5), ("qcirc", 0x2256),
    ("qcolon", 0x2255), ("qsim", 0x2242), ("qslantgtr", 0x2A96), ("qslantless", 0x2A95),
    ("quals", 0x3D), ("quest", 0x225F), ("quiv", 0x2261), ("quivDD", 0x2A78), ("qvparsl", 0x29E5),
    ("rDot", 0x2253), ("rarr", 0x2971), ("scr", 0x212F), ("sdot", 0x2250), ("sim", 0x2242),
    ("ta", 0x3B7), ("th", 0xF0), ("uml", 0xEB), ("uro", 0x20AC), ("xcl", 0x21), ("xist", 0x2203),
    ("xpectation", 0x2130), ("xponentiale", 0x2147)]),
  ('f', [
    ("allingdotseq", 0x2252), ("cy", 0x444), ("emale", 0x2640), ("filig", 0xFB03),
    ("flig", 0xFB00), ("fllig", 0xFB04), ("fr", 0x1D523), ("ilig", 0xFB01), ("jlig", 0x6A000066),
    ("lat", 0x266D), ("llig", 0xFB02), ("ltns", 0x25B1), ("nof", 0x192), ("opf", 0x1D557),
    ("orall", 0x2200), ("ork", 0x22D4), ("orkv", 0x2AD9), ("partint", 0x2A0D), ("rac12", 0xBD),
    ("rac13", 0x2153), ("rac14", 0xBC), ("rac15", 0x2155), ("rac16", 0x2159), ("rac18", 0x215B),
    ("rac23", 0x2154), ("rac25", 0x2156), ("rac34", 0xBE), ("rac35", 0x2157), ("rac38", 0x215C),
    ("rac45", 0x2158), ("rac56", 0x215A), ("rac58", 0x215D), ("rac78", 0x215E), ("rasl", 0x2044),
    ("rown", 0x2322), ("scr", 0x1D4BB)]),
  ('g', [
    ("E", 0x2267), ("El", 0x2A8C), ("acute", 0x1F5), ("amma", 0x3B3), ("ammad", 0x3DD),
    ("ap", 0x2A86), ("breve", 0x11F), ("circ", 0x11D), ("cy", 0x433), ("dot", 0x121),
    ("e", 0x2265), ("el", 0x22DB), ("eq", 0x2265), ("eqq", 0x2267), ("eqslant", 0x2A7E),
    ("es", 0x2A7E), ("escc", 0x2AA9), ("esdot", 0x2A80), ("esdoto", 0x2A82), ("esdotol", 0x2A84),
    ("esl", 0xFE000022DB), ("esles", 0x2A94), ("fr", 0x1D524), ("g", 0x226B), ("gg", 0x22D9),
    ("imel", 0x2137), ("jcy", 0x453), ("l", 0x2277), ("lE", 0x2A92), ("la", 0x2AA5),
    ("lj", 0x2AA4), ("nE", 0x2269), ("nap", 0x2A8A), ("napprox", 0x2A8A), ("ne", 0x2A88),
    ("neq", 0x2A88), ("neqq", 0x2269), ("nsim", 0x22E7), ("opf", 0x1D558), ("rave", 0x60),
    ("scr", 0x210A), ("sim", 0x2273), ("sime", 0x2A8E), ("siml", 0x2A90), ("t", 0x3E),
    ("tcc", 0x2AA7), ("tcir", 0x2A7A), ("tdot", 0x22D7), ("tlPar", 0x2995), ("tquest", 0x2A7C),
    ("trapprox", 0x2A86), ("trarr", 0x2978), ("trdot", 0x22D7), ("treqless", 0x22DB),
    ("treqqless", 0x2A8C), ("trless", 0x2277), ("trsim", 0x2273), ("vertneqq", 0xFE00002269),
    ("vnE", 0xFE00002269)])]

/-- The references from `h` to `n`. -/
def smallToN : Table := [
  ('h', [
    ("Arr", 0x21D4), ("airsp", 0x200A), ("alf", 0xBD), ("amilt", 0x210B), ("ardcy", 0x44A),
    ("arr", 0x2194), ("arrcir", 0x2948), ("arrw", 0x21AD), ("bar", 0x210F), ("circ", 0x125),
    ("earts", 0x2665), ("eartsuit", 0x2665), ("ellip", 0x2026), ("ercon", 0x22B9), ("fr", 0x1D525),
    ("ksearow", 0x2925), ("kswarow", 0x2926), ("oarr", 0x21FF), ("omtht", 0x223B),
    ("ookleftarrow", 0x21A9), ("ookrightarrow", 0x21AA), ("opf", 0x1D559), ("orbar", 0x2015),
    ("scr", 0x1D4BD), ("slash", 0x210F), ("strok", 0x127), ("ybull", 0x2043), ("yphen", 0x2010)]),
  ('i', [
    ("acute", 0xED), ("c", 0x2063), ("circ", 0xEE), ("cy", 0x438), ("ecy", 0x435), ("excl", 0xA1),
    ("ff", 0x21D4), ("fr", 0x1D526), ("grave", 0xEC), ("i", 0x2148), ("iiint", 0x2A0C),
    ("iint", 0x222D), ("infin", 0x29DC), ("iota", 0x2129), ("jlig", 0x133), ("macr", 0x12B),
    ("mage", 0x2111), ("magline", 0x2110), ("magpart", 0x2111), ("math", 0x131), ("mof", 0x22B7),
    ("mped", 0x1B5), ("n", 0x2208), ("ncare", 0x2105), ("nfin", 0x221E), ("nfintie", 0x29DD),
    ("nodot", 0x131), ("nt", 0x222B), ("ntcal", 0x22BA), ("ntegers", 0x2124), ("ntercal", 0x22BA),
    ("ntlarhk", 0x2A17), ("ntprod", 0x2A3C), ("ocy", 0x451), ("ogon", 0x12F), ("opf", 0x1D55A),
    ("ota", 0x3B9), ("prod", 0x2A3C), ("quest", 0xBF), ("scr", 0x1D4BE), ("sin", 0x2208),
    ("sinE", 0x22F9), ("sindot", 0x22F5), ("sins", 0x22F4), ("sinsv", 0x22F3), ("sinv", 0x2208),
    ("t", 0x2062), ("tilde", 0x129), ("ukcy", 0x456), ("uml", 0xEF)]),
  ('j', [
    ("circ", 0x135), ("cy", 0x439), ("fr", 0x1D527), ("math", 0x237), ("opf", 0x1D55B),
    ("scr", 0x1D4BF), ("sercy", 0x458), ("ukcy", 0x454)]),
  ('k', [
    ("appa", 0x3BA), ("appav", 0x3F0), ("cedil", 0x137), ("cy", 0x43A), ("fr", 0x1D528),
    ("green", 0x138), ("hcy", 0x445), ("jcy", 0x45C), ("opf", 0x1D55C), ("scr", 0x1D4C0)]),
  ('l', [
    ("Aarr", 0x21DA), ("Arr", 0x21D0), ("Atail", 0x291B), ("Barr", 0x290E), ("E", 0x2266),
    ("Eg", 0x2A8B), ("Har", 0x2962), ("acute", 0x13A), ("aemptyv", 0x29B4), ("agran", 0x2112),
    ("ambda", 0x3BB), ("ang", 0x27E8), ("angd", 0x2991), ("angle", 0x27E8), ("ap", 0x2A85),
    ("aquo", 0xAB), ("arr", 0x2190), ("arrb", 0x21E4), ("arrbfs", 0x291F), ("arrfs", 0x291D),
    ("arrhk", 0x21A9), ("arrlp", 0x21AB), ("arrpl", 0x2939), ("arrsim", 0x2973), ("arrtl", 0x21A2),
    ("at", 0x2AAB), ("atail", 0x2919), ("ate", 0x2AAD), ("ates", 0xFE00002AAD), ("barr", 0x290C),
    ("bbrk", 0x2772), ("brace", 0x7B), ("brack", 0x5B), ("brke", 0x298B), ("brksld", 0x298F),
    ("brkslu", 0x298D), ("caron", 0x13E), ("cedil", 0x13C), ("ceil", 0x2308), ("cub", 0x7B),
    ("cy", 0x43B), ("dca", 0x2936), ("dquo", 0x201C), ("dquor", 0x201E), ("drdhar", 0x2967),
    ("drushar", 0x294B), ("dsh", 0x21B2), ("e", 0x2264), ("eftarrow", 0x2190),
    ("eftarrowtail", 0x21A2), ("eftharpoondown", 0x21BD), ("eftharpoonup", 0x21BC),
    ("eftleftarrows", 0x21C7), ("eftrightarrow", 0x2194), ("eftrightarrows", 0x21C6),
    ("eftrightharpoons", 0x21CB), ("eftrightsquigarrow", 0x21AD), ("eftthreetimes", 0x22CB),
    ("eg", 0x22DA), ("eq", 0x2264), ("eqq", 0x2266), ("eqslant", 0x2A7D), ("es", 0x2A7D),
    ("escc", 0x2AA8), ("esdot", 0x2A7F), ("esdoto", 0x2A81), ("esdotor", 0x2A83),
    ("esg", 0xFE000022DA), ("esges", 0x2A93), ("essapprox", 0x2A85), ("essdot", 0x22D6),
    ("esseqgtr", 0x22DA), ("esseqqgtr", 0x2A8B), ("essgtr", 0x2276), ("esssim", 0x2272),
    ("fisht", 0x297C), ("floor", 0x230A), ("fr", 0x1D529), ("g", 0x2276), ("gE", 0x2A91),
    ("hard", 0x21BD), ("haru", 0x21BC), ("harul", 0x296A), ("hblk", 0x2584), ("jcy", 0x459),
    ("l", 0x226A), ("larr", 0x21C7), ("lcorner", 0x231E), ("lhard", 0x296B), ("ltri", 0x25FA),
    ("midot", 0x140), ("moust", 0x23B0), ("moustache", 0x23B0), ("nE", 0x2268), ("nap", 0x2A89),
    ("napprox", 0x2A89), ("ne", 0x2A87), ("neq", 0x2A87), ("neqq", 0x2268), ("nsim", 0x22E6),
    ("oang", 0x27EC), ("oarr", 0x21FD), ("obrk", 0x27E6), ("ongleftarrow", 0x27F5),
    ("ongleftrightarrow", 0x27F7), ("ongmapsto", 0x27FC), ("ongrightarrow", 0x27F6),
    ("ooparrowleft", 0x21AB), ("ooparrowright", 0x21AC), ("opar", 0x2985), ("opf", 0x1D55D),
    ("oplus", 0x2A2D), ("otimes", 0x2A34), ("owast", 0x2217), ("owbar", 0x5F), ("oz", 0x25CA),
    ("ozenge", 0x25CA), ("ozf", 0x29EB), ("par", 0x28), ("parlt", 0x2993), ("rarr", 0x21C6),
    ("rcorner", 0x231F), ("rhar", 0x21CB), ("rhard", 0x296D), ("rm", 0x200E), ("rtri", 0x22BF),
    ("saquo", 0x2039), ("scr", 0x1D4C1), ("sh", 0x21B0), ("sim", 0x2272), ("sime", 0x2A8D),
    ("simg", 0x2A8F), ("sqb", 0x5B), ("squo", 0x2018), ("squor", 0x201A), ("strok", 0x142),
    ("t", 0x3C), ("tcc", 0x2AA6), ("tcir", 0x2A79), ("tdot", 0x22D6), ("three", 0x22CB),
    ("times", 0x22C9), ("tlarr", 0x2976), ("tquest", 0x2A7B), ("trPar", 0x2996), ("tri", 0x25C3),
    ("trie", 0x22B4), ("trif", 0x25C2), ("urdshar", 0x294A), ("uruhar", 0x2966),
    ("vertneqq", 0xFE00002268), ("vnE", 0xFE00002268)]),
  ('m', [
    ("DDot", 0x223A), ("acr", 0xAF), ("ale", 0x2642), ("alt", 0x2720), ("altese", 0x2720),
    ("ap", 0x21A6), ("apsto", 0x21A6), ("apstodown", 0x21A7), ("apstoleft", 0x21A4),
    ("apstoup", 0x21A5), ("arker", 0x25AE), ("comma", 0x2A29), ("cy", 0x43C), ("dash", 0x2014),
    ("easuredangle", 0x2221), ("fr", 0x1D52A), ("ho", 0x2127), ("icro", 0xB5), ("id", 0x2223),
    ("idast", 0x2A), ("idcir", 0x2AF0), ("iddot", 0xB7), ("inus", 0x2212), ("inusb", 0x229F),
    ("inusd", 0x2238), ("inusdu", 0x2A2A), ("lcp", 0x2ADB), ("ldr", 0x2026), ("nplus", 0x2213),
    ("odels", 0x22A7), ("opf", 0x1D55E), ("p", 0x2213), ("scr", 0x1D4C2), ("stpos", 0x223E),
    ("u", 0x3BC), ("ultimap", 0x22B8), ("umap", 0x22B8)]),
  ('n', [
    ("Gg", 0x3380022D9), ("Gt", 0x20D200226B), ("Gtv", 0x33800226B), ("Leftarrow", 0x21CD),
    ("Leftrightarrow", 0x21CE), ("Ll", 0x3380022D8), ("Lt", 0x20D200226A), ("Ltv", 0x33800226A),
    ("Rightarrow", 0x21CF), ("VDash", 0x22AF), ("Vdash", 0x22AE), ("abla", 0x2207),
    ("acute", 0x144), ("ang", 0x20D2002220), ("ap", 0x2249), ("apE", 0x338002A70),
    ("apid", 0x33800224B), ("apos", 0x149), ("approx", 0x2249), ("atur", 0x266E),
    ("atural", 0x266E), ("aturals", 0x2115), ("bsp", 0xA0), ("bump", 0x33800224E),
    ("bumpe", 0x33800224F), ("cap", 0x2A43), ("caron", 0x148), ("cedil", 0x146), ("cong", 0x2247),
    ("congdot", 0x338002A6D), ("cup", 0x2A42), ("cy", 0x43D), ("dash", 0x2013), ("e", 0x2260),
    ("eArr", 0x21D7), ("earhk", 0x2924), ("earr", 0x2197), ("earrow", 0x2197),
    ("edot", 0x338002250), ("equiv", 0x2262), ("esear", 0x2928), ("esim", 0x338002242),
    ("exist", 0x2204), ("exists", 0x2204), ("fr", 0x1D52B), ("gE", 0x338002267), ("ge", 0x2271),
    ("geq", 0x2271), ("geqq", 0x338002267), ("geqslant", 0x338002A7E), ("ges", 0x338002A7E),
    ("gsim", 0x2275), ("gt", 0x226F), ("gtr", 0x226F), ("hArr", 0x21CE), ("harr", 0x21AE),
    ("hpar", 0x2AF2), ("i", 0x220B), ("is", 0x22FC), ("isd", 0x22FA), ("iv", 0x220B),
    ("jcy", 0x45A), ("lArr", 0x21CD), ("lE", 0x338002266), ("larr", 0x219A), ("ldr", 0x2025),
    ("le", 0x2270), ("leftarrow", 0x219A), ("leftrightarrow", 0x21AE), ("leq", 0x2270),
    ("leqq", 0x338002266), ("leqslant", 0x338002A7D), ("les", 0x338002A7D), ("less", 0x226E),
    ("lsim", 0x2274), ("lt", 0x226E), ("ltri", 0x22EA), ("ltrie", 0x22EC), ("mid", 0x2224),
    ("opf", 0x1D55F), ("ot", 0xAC), ("otin", 0x2209), ("otinE", 0x3380022F9),
    ("otindot", 0x3380022F5), ("otinva", 0x2209), ("otinvb", 0x22F7), ("otinvc", 0x22F6),
    ("otni", 0x220C), ("otniva", 0x220C), ("otnivb", 0x22FE), ("otnivc", 0x22FD), ("par", 0x2226),
    ("parallel", 0x2226), ("parsl", 0x20E5002AFD), ("part", 0x338002202), ("polint", 0x2A14),
    ("pr", 0x2280), ("prcue", 0x22E0), ("pre", 0x338002AAF), ("prec", 0x2280),
    ("preceq", 0x338002AAF), ("rArr", 0x21CF), ("rarr", 0x219B), ("rarrc", 0x338002933),
    ("rarrw", 0x33800219D), ("rightarrow", 0x219B), ("rtri", 0x22EB), ("rtrie", 0x22ED),
    ("sc", 0x2281), ("sccue", 0x22E1), ("sce", 0x338002AB0), ("scr", 0x1D4C3),
    ("shortmid", 0x2224), ("shortparallel", 0x2226), ("sim", 0x2241), ("sime", 0x2244),
    ("simeq", 0x2244), ("smid", 0x2224), ("spar", 0x2226), ("sqsube", 0x22E2), ("sqsupe", 0x22E3),
    ("sub", 0x2284), ("subE", 0x338002AC5), ("sube", 0x2288), ("subset", 0x20D2002282),
    ("subseteq", 0x2288), ("subseteqq", 0x338002AC5), ("succ", 0x2281), ("succeq", 0x338002AB0),
    ("sup", 0x2285), ("supE", 0x338002AC6), ("supe", 0x2289), ("supset", 0x20D2002283),
    ("supseteq", 0x2289), ("supseteqq", 0x338002AC6), ("tgl", 0x2279), ("tilde", 0xF1),
    ("tlg", 0x2278), ("triangleleft", 0x22EA), ("trianglelefteq", 0x22EC),
    ("triangleright", 0x22EB), ("trianglerighteq", 0x22ED), ("u", 0x3BD), ("um", 0x23),
    ("umero", 0x2116), ("umsp", 0x2007), ("vDash", 0x22AD), ("vHarr", 0x2904),
    ("vap", 0x20D200224D), ("vdash", 0x22AC), ("vge", 0x20D2002265), ("vgt", 0x20D200003E),
    ("vinfin", 0x29DE), ("vlArr", 0x2902), ("vle", 0x20D2002264), ("vlt", 0x20D200003C),
    ("vltrie", 0x20D20022B4), ("vrArr", 0x2903), ("vrtrie", 0x20D20022B5), ("vsim", 0x20D200223C),
    ("wArr", 0x21D6), ("warhk", 0x2923), ("warr", 0x2196), ("warrow", 0x2196), ("wnear", 0x2927)])]

/-- The references from `o` to `z`. -/
def smallToZ : Table := [
  ('o', [
    ("S", 0x24C8), ("acute", 0xF3), ("ast", 0x229B), ("cir", 0x229A), ("circ", 0xF4),
    ("cy", 0x43E), ("dash", 0x229D), ("dblac", 0x151), ("div", 0x2A38), ("dot", 0x2299),
    ("dsold", 0x29BC), ("elig", 0x153), ("fcir", 0x29BF), ("fr", 0x1D52C), ("gon", 0x2DB),
    ("grave", 0xF2), ("gt", 0x29C1), ("hbar", 0x29B5), ("hm", 0x3A9), ("int", 0x222E),
    ("larr", 0x21BA), ("lcir", 0x29BE), ("lcross", 0x29BB), ("line", 0x203E), ("lt", 0x29C0),
    ("macr", 0x14D), ("mega", 0x3C9), ("micron", 0x3BF), ("mid", 0x29B6), ("minus", 0x2296),
    ("opf", 0x1D560), ("par", 0x29B7), ("perp", 0x29B9), ("plus", 0x2295), ("r", 0x2228),
    ("rarr", 0x21BB), ("rd", 0x2A5D), ("rder", 0x2134), ("rderof", 0x2134), ("rdf", 0xAA),
    ("rdm", 0xBA), ("rigof", 0x22B6), ("ror", 0x2A56), ("rslope", 0x2A57), ("rv", 0x2A5B),
    ("scr", 0x2134), ("slash", 0xF8), ("sol", 0x2298), ("tilde", 0xF5), ("times", 0x2297),
    ("timesas", 0x2A36), ("uml", 0xF6), ("vbar", 0x233D)]),
  ('p', [
    ("ar", 0x2225), ("ara", 0xB6), ("arallel", 0x2225), ("arsim", 0x2AF3), ("arsl", 0x2AFD),
    ("art", 0x2202), ("cy", 0x43F), ("ercnt", 0x25), ("eriod", 0x2E), ("ermil", 0x2030),
    ("erp", 0x22A5), ("ertenk", 0x2031), ("fr", 0x1D52D), ("hi", 0x3C6), ("hiv", 0x3D5),
    ("hmmat", 0x2133), ("hone", 0x260E), ("i", 0x3C0), ("itchfork", 0x22D4), ("iv", 0x3D6),
    ("lanck", 0x210F), ("lanckh", 0x210E), ("lankv", 0x210F), ("lus", 0x2B), ("lusacir", 0x2A23),
    ("lusb", 0x229E), ("luscir", 0x2A22), ("lusdo", 0x2214), ("lusdu", 0x2A25), ("luse", 0x2A72),
    ("lusmn", 0xB1), ("lussim", 0x2A26), ("lustwo", 0x2A27), ("m", 0xB1), ("ointint", 0x2A15),
    ("opf", 0x1D561), ("ound", 0xA3), ("r", 0x227A), ("rE", 0x2AB3), ("rap", 0x2AB7),
    ("rcue", 0x227C), ("re", 0x2AAF), ("rec", 0x227A), ("recapprox", 0x2AB7),
    ("reccurlyeq", 0x227C), ("receq", 0x2AAF), ("recnapprox", 0x2AB9), ("recneqq", 0x2AB5),
    ("recnsim", 0x22E8), ("recsim", 0x227E), ("rime", 0x2032), ("rimes", 0x2119), ("rnE", 0x2AB5),
    ("rnap", 0x2AB9), ("rnsim", 0x22E8), ("rod", 0x220F), ("rofalar", 0x232E), ("rofline", 0x2312),
    ("rofsurf", 0x2313), ("rop", 0x221D), ("ropto", 0x221D), ("rsim", 0x227E), ("rurel", 0x22B0),
    ("scr", 0x1D4C5), ("si", 0x3C8), ("uncsp", 0x2008)]),
  ('q', [
    ("fr", 0x1D52E), ("int", 0x2A0C), ("opf", 0x1D562), ("prime", 0x2057), ("scr", 0x1D4C6),
    ("uaternions", 0x210D), ("uatint", 0x2A16), ("uest", 0x3F), ("uesteq", 0x225F), ("uot", 0x22)]),
  ('r', [
    ("Aarr", 0x21DB), ("Arr", 0x21D2), ("Atail", 0x291C), ("Barr", 0x290F), ("Har", 0x2964),
    ("ace", 0x33100223D), ("acute", 0x155), ("adic", 0x221A), ("aemptyv", 0x29B3), ("ang", 0x27E9),
    ("angd", 0x2992), ("ange", 0x29A5), ("angle", 0x27E9), ("aquo", 0xBB), ("arr", 0x2192),
    ("arrap", 0x2975), ("arrb", 0x21E5), ("arrbfs", 0x2920), ("arrc", 0x2933), ("arrfs", 0x291E),
    ("arrhk", 0x21AA), ("arrlp", 0x21AC), ("arrpl", 0x2945), ("arrsim", 0x2974), ("arrtl", 0x21A3),
    ("arrw", 0x219D), ("atail", 0x291A), ("atio", 0x2236), ("ationals", 0x211A), ("barr", 0x290D),
    ("bbrk", 0x2773), ("brace", 0x7D), ("brack", 0x5D), ("brke", 0x298C), ("brksld", 0x298E),
    ("brkslu", 0x2990), ("caron", 0x159), ("cedil", 0x157), ("ceil", 0x2309), ("cub", 0x7D),
    ("cy", 0x440), ("dca", 0x2937), ("dldhar", 0x2969), ("dquo", 0x201D), ("dquor", 0x201D),
    ("dsh", 0x21B3), ("eal", 0x211C), ("ealine", 0x211B), ("ealpart", 0x211C), ("eals", 0x211D),
    ("ect", 0x25AD), ("eg", 0xAE), ("fisht", 0x297D), ("floor", 0x230B), ("fr", 0x1D52F),
    ("hard", 0x21C1), ("haru", 0x21C0), ("harul", 0x296C), ("ho", 0x3C1), ("hov", 0x3F1),
    ("ightarrow", 0x2192), ("ightarrowtail", 0x21A3), ("ightharpoondown", 0x21C1),
    ("ightharpoonup", 0x21C0), ("ightleftarrows", 0x21C4), ("ightleftharpoons", 0x21CC),
    ("ightrightarrows", 0x21C9), ("ightsquigarrow", 0x219D), ("ightthreetimes", 0x22CC),
    ("ing", 0x2DA), ("isingdotseq", 0x2253), ("larr", 0x21C4), ("lhar", 0x21CC), ("lm", 0x200F),
    ("moust", 0x23B1), ("moustache", 0x23B1), ("nmid", 0x2AEE), ("oang", 0x27ED), ("oarr", 0x21FE),
    ("obrk", 0x27E7), ("opar", 0x2986), ("opf", 0x1D563), ("oplus", 0x2A2E), ("otimes", 0x2A35),
    ("par", 0x29), ("pargt", 0x2994), ("ppolint", 0x2A12), ("rarr", 0x21C9), ("saquo", 0x203A),
    ("scr", 0x1D4C7), ("sh", 0x21B1), ("sqb", 0x5D), ("squo", 0x2019), ("squor", 0x2019),
    ("three", 0x22CC), ("times", 0x22CA), ("tri", 0x25B9), ("trie", 0x22B5), ("trif", 0x25B8),
    ("triltri", 0x29CE), ("uluhar", 0x2968), ("x", 0x211E)]),
  ('s', [
    ("acute", 0x15B), ("bquo", 0x201A), ("c", 0x227B), ("cE", 0x2AB4), ("cap", 0x2AB8),
    ("caron", 0x161), ("ccue", 0x227D), ("ce", 0x2AB0), ("cedil", 0x15F), ("circ", 0x15D),
    ("cnE", 0x2AB6), ("cnap", 0x2ABA), ("cnsim", 0x22E9), ("cpolint", 0x2A13), ("csim", 0x227F),
    ("cy", 0x441), ("dot", 0x22C5), ("dotb", 0x22A1), ("dote", 0x2A66), ("eArr", 0x21D8),
    ("earhk", 0x2925), ("earr", 0x2198), ("earrow", 0x2198), ("ect", 0xA7), ("emi", 0x3B),
    ("eswar", 0x2929), ("etminus", 0x2216), ("etmn", 0x2216), ("ext", 0x2736), ("fr", 0x1D530),
    ("frown", 0x2322), ("harp", 0x266F), ("hchcy", 0x449), ("hcy", 0x448), ("hortmid", 0x2223),
    ("hortparallel", 0x2225), ("hy", 0xAD), ("igma", 0x3C3), ("igmaf", 0x3C2), ("igmav", 0x3C2),
    ("im", 0x223C), ("imdot", 0x2A6A), ("ime", 0x2243), ("imeq", 0x2243), ("img", 0x2A9E),
    ("imgE", 0x2AA0), ("iml", 0x2A9D), ("imlE", 0x2A9F), ("imne", 0x2246), ("implus", 0x2A24),
    ("imrarr", 0x2972), ("larr", 0x2190), ("mallsetminus", 0x2216), ("mashp", 0x2A33),
    ("meparsl", 0x29E4), ("mid", 0x2223), ("mile", 0x2323), ("mt", 0x2AAA), ("mte", 0x2AAC),
    ("mtes", 0xFE00002AAC), ("oftcy", 0x44C), ("ol", 0x2F), ("olb", 0x29C4), ("olbar", 0x233F),
    ("opf", 0x1D564), ("pades", 0x2660), ("padesuit", 0x2660), ("par", 0x2225), ("qcap", 0x2293),
    ("qcaps", 0xFE00002293), ("qcup", 0x2294), ("qcups", 0xFE00002294), ("qsub", 0x228F),
    ("qsube", 0x2291), ("qsubset", 0x228F), ("qsubseteq", 0x2291), ("qsup", 0x2290),
    ("qsupe", 0x2292), ("qsupset", 0x2290), ("qsupseteq", 0x2292), ("qu", 0x25A1),
    ("quare", 0x25A1), ("quarf", 0x25AA), ("quf", 0x25AA), ("rarr", 0x2192), ("scr", 0x1D4C8),
    ("setmn", 0x2216), ("smile", 0x2323), ("starf", 0x22C6), ("tar", 0x2606), ("tarf", 0x2605),
    ("traightepsilon", 0x3F5), ("traightphi", 0x3D5), ("trns", 0xAF), ("ub", 0x2282),
    ("ubE", 0x2AC5), ("ubdot", 0x2ABD), ("ube", 0x2286), ("ubedot", 0x2AC3), ("ubmult", 0x2AC1),
    ("ubnE", 0x2ACB), ("ubne", 0x228A), ("ubplus", 0x2ABF), ("ubrarr", 0x2979), ("ubset", 0x2282),
    ("ubseteq", 0x2286), ("ubseteqq", 0x2AC5), ("ubsetneq", 0x228A), ("ubsetneqq", 0x2ACB),
    ("ubsim", 0x2AC7), ("ubsub", 0x2AD5), ("ubsup", 0x2AD3), ("ucc", 0x227B),
    ("uccapprox", 0x2AB8), ("ucccurlyeq", 0x227D), ("ucceq", 0x2AB0), ("uccnapprox", 0x2ABA),
    ("uccneqq", 0x2AB6), ("uccnsim", 0x22E9), ("uccsim", 0x227F), ("um", 0x2211), ("ung", 0x266A),
    ("up", 0x2283), ("up1", 0xB9), ("up2", 0xB2), ("up3", 0xB3), ("upE", 0x2AC6),
    ("updot", 0x2ABE), ("updsub", 0x2AD8), ("upe", 0x2287), ("upedot", 0x2AC4), ("uphsol", 0x27C9),
    ("uphsub", 0x2AD7), ("uplarr", 0x297B), ("upmult", 0x2AC2), ("upnE", 0x2ACC), ("upne", 0x228B),
    ("upplus", 0x2AC0), ("upset", 0x2283), ("upseteq", 0x2287), ("upseteqq", 0x2AC6),
    ("upsetneq", 0x228B), ("upsetneqq", 0x2ACC), ("upsim", 0x2AC8), ("upsub", 0x2AD4),
    ("upsup", 0x2AD6), ("wArr", 0x21D9), ("warhk", 0x2926), ("warr", 0x2199), ("warrow", 0x2199),
    ("wnwar", 0x292A), ("zlig", 0xDF)]),
  ('t', [
    ("arget", 0x2316), ("au", 0x3C4), ("brk", 0x23B4), ("caron", 0x165), ("cedil", 0x163),
    ("cy", 0x442), ("dot", 0x20DB), ("elrec", 0x2315), ("fr", 0x1D531), ("here4", 0x2234),
    ("herefore", 0x2234), ("heta", 0x3B8), ("hetasym", 0x3D1), ("hetav", 0x3D1),
    ("hickapprox", 0x2248), ("hicksim", 0x223C), ("hinsp", 0x2009), ("hkap", 0x2248),
    ("hksim", 0x223C), ("horn", 0xFE), ("ilde", 0x2DC), ("imes", 0xD7), ("imesb", 0x22A0),
    ("imesbar", 0x2A31), ("imesd", 0x2A30), ("int", 0x222D), ("oea", 0x2928), ("op", 0x22A4),
    ("opbot", 0x2336), ("opcir", 0x2AF1), ("opf", 0x1D565), ("opfork", 0x2ADA), ("osa", 0x2929),
    ("prime", 0x2034), ("rade", 0x2122), ("riangle", 0x25B5), ("riangledown", 0x25BF),
    ("riangleleft", 0x25C3), ("rianglelefteq", 0x22B4), ("riangleq", 0x225C),
    ("riangleright", 0x25B9), ("rianglerighteq", 0x22B5), ("ridot", 0x25EC), ("rie", 0x225C),
    ("riminus", 0x2A3A), ("riplus", 0x2A39), ("risb", 0x29CD), ("ritime", 0x2A3B),
    ("rpezium", 0x23E2), ("scr", 0x1D4C9), ("scy", 0x446), ("shcy", 0x45B), ("strok", 0x167),
    ("wixt", 0x226C), ("woheadleftarrow", 0x219E), ("woheadrightarrow", 0x21A0)]),
  ('u', [
    ("Arr", 0x21D1), ("Har", 0x2963), ("acute", 0xFA), ("arr", 0x2191), ("brcy", 0x45E),
    ("breve", 0x16D), ("circ", 0xFB), ("cy", 0x443), ("darr", 0x21C5), ("dblac", 0x171),
    ("dhar", 0x296E), ("fisht", 0x297E), ("fr", 0x1D532), ("grave", 0xF9), ("harl", 0x21BF),
    ("harr", 0x21BE), ("hblk", 0x2580), ("lcorn", 0x231C), ("lcorner", 0x231C), ("lcrop", 0x230F),
    ("ltri", 0x25F8), ("macr", 0x16B), ("ml", 0xA8), ("ogon", 0x173), ("opf", 0x1D566),
    ("parrow", 0x2191), ("pdownarrow", 0x2195), ("pharpoonleft", 0x21BF),
    ("pharpoonright", 0x21BE), ("plus", 0x228E), ("psi", 0x3C5), ("psih", 0x3D2),
    ("psilon", 0x3C5), ("puparrows", 0x21C8), ("rcorn", 0x231D), ("rcorner", 0x231D),
    ("rcrop", 0x230E), ("ring", 0x16F), ("rtri", 0x25F9), ("scr", 0x1D4CA), ("tdot", 0x22F0),
    ("tilde", 0x169), ("tri", 0x25B5), ("trif", 0x25B4), ("uarr", 0x21C8), ("uml", 0xFC),
    ("wangle", 0x29A7)]),
  ('v', [
    ("Arr", 0x21D5), ("Bar", 0x2AE8), ("Barv", 0x2AE9), ("Dash", 0x22A8), ("angrt", 0x299C),
    ("arepsilon", 0x3F5), ("arkappa", 0x3F0), ("arnothing", 0x2205), ("arphi", 0x3D5),
    ("arpi", 0x3D6), ("arpropto", 0x221D), ("arr", 0x2195), ("arrho", 0x3F1), ("arsigma", 0x3C2),
    ("arsubsetneq", 0xFE0000228A), ("arsubsetneqq", 0xFE00002ACB), ("arsupsetneq", 0xFE0000228B),
    ("arsupsetneqq", 0xFE00002ACC), ("artheta", 0x3D1), ("artriangleleft", 0x22B2),
    ("artriangleright", 0x22B3), ("cy", 0x432), ("dash", 0x22A2), ("ee", 0x2228),
    ("eebar", 0x22BB), ("eeeq", 0x225A), ("ellip", 0x22EE), ("erbar", 0x7C), ("ert", 0x7C),
    ("fr", 0x1D533), ("ltri", 0x22B2), ("nsub", 0x20D2002282), ("nsup", 0x20D2002283),
    ("opf", 0x1D567), ("prop", 0x221D), ("rtri", 0x22B3), ("scr", 0x1D4CB),
    ("subnE", 0xFE00002ACB), ("subne", 0xFE0000228A), ("supnE", 0xFE00002ACC),
    ("supne", 0xFE0000228B), ("zigzag", 0x299A)]),
  ('w', [
    ("circ", 0x175), ("edbar", 0x2A5F), ("edge", 0x2227), ("edgeq", 0x2259), ("eierp", 0x2118),
    ("fr", 0x1D534), ("opf", 0x1D568), ("p", 0x2118), ("r", 0x2240), ("reath", 0x2240),
    ("scr", 0x1D4CC)]),
  ('x', [
    ("cap", 0x22C2), ("circ", 0x25EF), ("cup", 0x22C3), ("dtri", 0x25BD), ("fr", 0x1D535),
    ("hArr", 0x27FA), ("harr", 0x27F7), ("i", 0x3BE), ("lArr", 0x27F8), ("larr", 0x27F5),
    ("map", 0x27FC), ("nis", 0x22FB), ("odot", 0x2A00), ("opf", 0x1D569), ("oplus", 0x2A01),
    ("otime", 0x2A02), ("rArr", 0x27F9), ("rarr", 0x27F6), ("scr", 0x1D4CD), ("sqcup", 0x2A06),
    ("uplus", 0x2A04), ("utri", 0x25B3), ("vee", 0x22C1), ("wedge", 0x22C0)]),
  ('y', [
    ("acute", 0xFD), ("acy", 0x44F), ("circ", 0x177), ("cy", 0x44B), ("en", 0xA5), ("fr", 0x1D536),
    ("icy", 0x457), ("opf", 0x1D56A), ("scr", 0x1D4CE), ("ucy", 0x44E), ("uml", 0xFF)]),
  ('z', [
    ("acute", 0x17A), ("caron", 0x17E), ("cy", 0x437), ("dot", 0x17C), ("eetrf", 0x2128),
    ("eta", 0x3B6), ("fr", 0x1D537), ("hcy", 0x436), ("igrarr", 0x21DD), ("opf", 0x1D56B),
    ("scr", 0x1D4CF), ("wj", 0x200D), ("wnj", 0x200C)])]

/-- All references. -/
def table : Table :=
  capitals ++ smallToG ++ smallToN ++ smallToZ

/-- The text of the reference with this name. -/
def named? : Text → Option Text
  | [] => none
  | initial :: rest => do
    let (_, entries) ← table.find? (·.1 = initial)
    let (_, packed) ← entries.find? (·.1 = String.ofList rest)
    some (Unicode.unpack 2 packed)

/-- Whether a number stands for a character that may be written by number. -/
def isValidNumber (n : Nat) : Bool :=
  !(0xD800 ≤ n && n ≤ 0xDFFF) && !(0xFDD0 ≤ n && n ≤ 0xFDEF) && n % 0x10000 < 0xFFFE
    && 0x8 < n && n ≠ 0xB && !(0xE ≤ n && n ≤ 0x1F) && !(0x7F ≤ n && n ≤ 0x9F) && n ≤ 0x10FFFF

/-- The value of a hexadecimal digit. -/
def hexDigit? (c : Char) : Option Nat :=
  if c.isDigit then some (c.toNat - '0'.toNat)
  else if 'a' ≤ c && c ≤ 'f' then some (c.toNat - 'a'.toNat + 10)
  else if 'A' ≤ c && c ≤ 'F' then some (c.toNat - 'A'.toNat + 10)
  else none

/-- The value of digits in a base. -/
def value (base : Nat) (digits : Text) : Nat :=
  digits.foldl (fun n c => n * base + (hexDigit? c).getD 0) 0

/-- The number that the text between `&#` and `;` stands for, with at most these many decimal and
hexadecimal digits. -/
def number? (decimals hexadecimals : Nat) : Text → Option Nat
  | [] => none
  | c :: digits =>
    if c = 'x' || c = 'X' then
      if 1 ≤ digits.length && digits.length ≤ hexadecimals
          && digits.all fun d => (hexDigit? d).isSome then some (value 16 digits)
      else none
    else if (c :: digits).length ≤ decimals && (c :: digits).all Char.isDigit then
      some (value 10 (c :: digits))
    else none

/-- The character with a number, or the replacement character. -/
def numbered (n : Nat) : Char :=
  if isValidNumber n then Char.ofNat n else '\ufffd'

/-- A character reference in a text: its source and the text that it stands for. -/
structure Reference where
  source : Text
  text : Text
deriving Repr

/-- The reference at the start of a text. -/
def read? (text : Text) : Option Reference :=
  match text with
  | '&' :: rest =>
    let body := rest.takeWhile (· ≠ ';')
    let source := '&' :: body ++ [';']
    if rest.contains ';' then
      match body with
      | '#' :: digits => (number? 7 6 digits).map fun n => ⟨source, [numbered n]⟩
      | name => (named? name).map fun expansion => ⟨source, expansion⟩
    else none
  | _ => none

end MarkdownCheck.Markdown.Entity
