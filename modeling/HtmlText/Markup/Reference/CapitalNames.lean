/-!
# Names that begin with a capital letter

The named character references of HTML that begin with a capital letter. For each letter there is a
list of what follows the letter, a semicolon included where the name needs one, and of the code
points that the name stands for.
-/

namespace HtmlText

/-- The names that begin with `A`. -/
def namesCapitalA : List (String × List Nat) := [
  ("Elig", [0xC6]), ("Elig;", [0xC6]), ("MP", [0x26]), ("MP;", [0x26]), ("acute", [0xC1]),
  ("acute;", [0xC1]), ("breve;", [0x102]), ("circ", [0xC2]), ("circ;", [0xC2]), ("cy;", [0x410]),
  ("fr;", [0x1D504]), ("grave", [0xC0]), ("grave;", [0xC0]), ("lpha;", [0x391]),
  ("macr;", [0x100]), ("nd;", [0x2A53]), ("ogon;", [0x104]), ("opf;", [0x1D538]),
  ("pplyFunction;", [0x2061]), ("ring", [0xC5]), ("ring;", [0xC5]), ("scr;", [0x1D49C]),
  ("ssign;", [0x2254]), ("tilde", [0xC3]), ("tilde;", [0xC3]), ("uml", [0xC4]), ("uml;", [0xC4])]

/-- The names that begin with `B`. -/
def namesCapitalB : List (String × List Nat) := [
  ("ackslash;", [0x2216]), ("arv;", [0x2AE7]), ("arwed;", [0x2306]), ("cy;", [0x411]),
  ("ecause;", [0x2235]), ("ernoullis;", [0x212C]), ("eta;", [0x392]), ("fr;", [0x1D505]),
  ("opf;", [0x1D539]), ("reve;", [0x2D8]), ("scr;", [0x212C]), ("umpeq;", [0x224E])]

/-- The names that begin with `C`. -/
def namesCapitalC : List (String × List Nat) := [
  ("Hcy;", [0x427]), ("OPY", [0xA9]), ("OPY;", [0xA9]), ("acute;", [0x106]), ("ap;", [0x22D2]),
  ("apitalDifferentialD;", [0x2145]), ("ayleys;", [0x212D]), ("caron;", [0x10C]),
  ("cedil", [0xC7]), ("cedil;", [0xC7]), ("circ;", [0x108]), ("conint;", [0x2230]),
  ("dot;", [0x10A]), ("edilla;", [0xB8]), ("enterDot;", [0xB7]), ("fr;", [0x212D]),
  ("hi;", [0x3A7]), ("ircleDot;", [0x2299]), ("ircleMinus;", [0x2296]), ("irclePlus;", [0x2295]),
  ("ircleTimes;", [0x2297]), ("lockwiseContourIntegral;", [0x2232]),
  ("loseCurlyDoubleQuote;", [0x201D]), ("loseCurlyQuote;", [0x2019]), ("olon;", [0x2237]),
  ("olone;", [0x2A74]), ("ongruent;", [0x2261]), ("onint;", [0x222F]),
  ("ontourIntegral;", [0x222E]), ("opf;", [0x2102]), ("oproduct;", [0x2210]),
  ("ounterClockwiseContourIntegral;", [0x2233]), ("ross;", [0x2A2F]), ("scr;", [0x1D49E]),
  ("up;", [0x22D3]), ("upCap;", [0x224D])]

/-- The names that begin with `D`. -/
def namesCapitalD : List (String × List Nat) := [
  ("D;", [0x2145]), ("Dotrahd;", [0x2911]), ("Jcy;", [0x402]), ("Scy;", [0x405]),
  ("Zcy;", [0x40F]), ("agger;", [0x2021]), ("arr;", [0x21A1]), ("ashv;", [0x2AE4]),
  ("caron;", [0x10E]), ("cy;", [0x414]), ("el;", [0x2207]), ("elta;", [0x394]),
  ("fr;", [0x1D507]), ("iacriticalAcute;", [0xB4]), ("iacriticalDot;", [0x2D9]),
  ("iacriticalDoubleAcute;", [0x2DD]), ("iacriticalGrave;", [0x60]),
  ("iacriticalTilde;", [0x2DC]), ("iamond;", [0x22C4]), ("ifferentialD;", [0x2146]),
  ("opf;", [0x1D53B]), ("ot;", [0xA8]), ("otDot;", [0x20DC]), ("otEqual;", [0x2250]),
  ("oubleContourIntegral;", [0x222F]), ("oubleDot;", [0xA8]), ("oubleDownArrow;", [0x21D3]),
  ("oubleLeftArrow;", [0x21D0]), ("oubleLeftRightArrow;", [0x21D4]), ("oubleLeftTee;", [0x2AE4]),
  ("oubleLongLeftArrow;", [0x27F8]), ("oubleLongLeftRightArrow;", [0x27FA]),
  ("oubleLongRightArrow;", [0x27F9]), ("oubleRightArrow;", [0x21D2]),
  ("oubleRightTee;", [0x22A8]), ("oubleUpArrow;", [0x21D1]), ("oubleUpDownArrow;", [0x21D5]),
  ("oubleVerticalBar;", [0x2225]), ("ownArrow;", [0x2193]), ("ownArrowBar;", [0x2913]),
  ("ownArrowUpArrow;", [0x21F5]), ("ownBreve;", [0x311]), ("ownLeftRightVector;", [0x2950]),
  ("ownLeftTeeVector;", [0x295E]), ("ownLeftVector;", [0x21BD]), ("ownLeftVectorBar;", [0x2956]),
  ("ownRightTeeVector;", [0x295F]), ("ownRightVector;", [0x21C1]),
  ("ownRightVectorBar;", [0x2957]), ("ownTee;", [0x22A4]), ("ownTeeArrow;", [0x21A7]),
  ("ownarrow;", [0x21D3]), ("scr;", [0x1D49F]), ("strok;", [0x110])]

/-- The names that begin with `E`. -/
def namesCapitalE : List (String × List Nat) := [
  ("NG;", [0x14A]), ("TH", [0xD0]), ("TH;", [0xD0]), ("acute", [0xC9]), ("acute;", [0xC9]),
  ("caron;", [0x11A]), ("circ", [0xCA]), ("circ;", [0xCA]), ("cy;", [0x42D]), ("dot;", [0x116]),
  ("fr;", [0x1D508]), ("grave", [0xC8]), ("grave;", [0xC8]), ("lement;", [0x2208]),
  ("macr;", [0x112]), ("mptySmallSquare;", [0x25FB]), ("mptyVerySmallSquare;", [0x25AB]),
  ("ogon;", [0x118]), ("opf;", [0x1D53C]), ("psilon;", [0x395]), ("qual;", [0x2A75]),
  ("qualTilde;", [0x2242]), ("quilibrium;", [0x21CC]), ("scr;", [0x2130]), ("sim;", [0x2A73]),
  ("ta;", [0x397]), ("uml", [0xCB]), ("uml;", [0xCB]), ("xists;", [0x2203]),
  ("xponentialE;", [0x2147])]

/-- The names that begin with `F`. -/
def namesCapitalF : List (String × List Nat) := [
  ("cy;", [0x424]), ("fr;", [0x1D509]), ("illedSmallSquare;", [0x25FC]),
  ("illedVerySmallSquare;", [0x25AA]), ("opf;", [0x1D53D]), ("orAll;", [0x2200]),
  ("ouriertrf;", [0x2131]), ("scr;", [0x2131])]

/-- The names that begin with `G`. -/
def namesCapitalG : List (String × List Nat) := [
  ("Jcy;", [0x403]), ("T", [0x3E]), ("T;", [0x3E]), ("amma;", [0x393]), ("ammad;", [0x3DC]),
  ("breve;", [0x11E]), ("cedil;", [0x122]), ("circ;", [0x11C]), ("cy;", [0x413]),
  ("dot;", [0x120]), ("fr;", [0x1D50A]), ("g;", [0x22D9]), ("opf;", [0x1D53E]),
  ("reaterEqual;", [0x2265]), ("reaterEqualLess;", [0x22DB]), ("reaterFullEqual;", [0x2267]),
  ("reaterGreater;", [0x2AA2]), ("reaterLess;", [0x2277]), ("reaterSlantEqual;", [0x2A7E]),
  ("reaterTilde;", [0x2273]), ("scr;", [0x1D4A2]), ("t;", [0x226B])]

/-- The names that begin with `H`. -/
def namesCapitalH : List (String × List Nat) := [
  ("ARDcy;", [0x42A]), ("acek;", [0x2C7]), ("at;", [0x5E]), ("circ;", [0x124]), ("fr;", [0x210C]),
  ("ilbertSpace;", [0x210B]), ("opf;", [0x210D]), ("orizontalLine;", [0x2500]),
  ("scr;", [0x210B]), ("strok;", [0x126]), ("umpDownHump;", [0x224E]), ("umpEqual;", [0x224F])]

/-- The names that begin with `I`. -/
def namesCapitalI : List (String × List Nat) := [
  ("Ecy;", [0x415]), ("Jlig;", [0x132]), ("Ocy;", [0x401]), ("acute", [0xCD]), ("acute;", [0xCD]),
  ("circ", [0xCE]), ("circ;", [0xCE]), ("cy;", [0x418]), ("dot;", [0x130]), ("fr;", [0x2111]),
  ("grave", [0xCC]), ("grave;", [0xCC]), ("m;", [0x2111]), ("macr;", [0x12A]),
  ("maginaryI;", [0x2148]), ("mplies;", [0x21D2]), ("nt;", [0x222C]), ("ntegral;", [0x222B]),
  ("ntersection;", [0x22C2]), ("nvisibleComma;", [0x2063]), ("nvisibleTimes;", [0x2062]),
  ("ogon;", [0x12E]), ("opf;", [0x1D540]), ("ota;", [0x399]), ("scr;", [0x2110]),
  ("tilde;", [0x128]), ("ukcy;", [0x406]), ("uml", [0xCF]), ("uml;", [0xCF])]

/-- The names that begin with `J`. -/
def namesCapitalJ : List (String × List Nat) := [
  ("circ;", [0x134]), ("cy;", [0x419]), ("fr;", [0x1D50D]), ("opf;", [0x1D541]),
  ("scr;", [0x1D4A5]), ("sercy;", [0x408]), ("ukcy;", [0x404])]

/-- The names that begin with `K`. -/
def namesCapitalK : List (String × List Nat) := [
  ("Hcy;", [0x425]), ("Jcy;", [0x40C]), ("appa;", [0x39A]), ("cedil;", [0x136]), ("cy;", [0x41A]),
  ("fr;", [0x1D50E]), ("opf;", [0x1D542]), ("scr;", [0x1D4A6])]

/-- The names that begin with `L`. -/
def namesCapitalL : List (String × List Nat) := [
  ("Jcy;", [0x409]), ("T", [0x3C]), ("T;", [0x3C]), ("acute;", [0x139]), ("ambda;", [0x39B]),
  ("ang;", [0x27EA]), ("aplacetrf;", [0x2112]), ("arr;", [0x219E]), ("caron;", [0x13D]),
  ("cedil;", [0x13B]), ("cy;", [0x41B]), ("eftAngleBracket;", [0x27E8]), ("eftArrow;", [0x2190]),
  ("eftArrowBar;", [0x21E4]), ("eftArrowRightArrow;", [0x21C6]), ("eftCeiling;", [0x2308]),
  ("eftDoubleBracket;", [0x27E6]), ("eftDownTeeVector;", [0x2961]), ("eftDownVector;", [0x21C3]),
  ("eftDownVectorBar;", [0x2959]), ("eftFloor;", [0x230A]), ("eftRightArrow;", [0x2194]),
  ("eftRightVector;", [0x294E]), ("eftTee;", [0x22A3]), ("eftTeeArrow;", [0x21A4]),
  ("eftTeeVector;", [0x295A]), ("eftTriangle;", [0x22B2]), ("eftTriangleBar;", [0x29CF]),
  ("eftTriangleEqual;", [0x22B4]), ("eftUpDownVector;", [0x2951]), ("eftUpTeeVector;", [0x2960]),
  ("eftUpVector;", [0x21BF]), ("eftUpVectorBar;", [0x2958]), ("eftVector;", [0x21BC]),
  ("eftVectorBar;", [0x2952]), ("eftarrow;", [0x21D0]), ("eftrightarrow;", [0x21D4]),
  ("essEqualGreater;", [0x22DA]), ("essFullEqual;", [0x2266]), ("essGreater;", [0x2276]),
  ("essLess;", [0x2AA1]), ("essSlantEqual;", [0x2A7D]), ("essTilde;", [0x2272]),
  ("fr;", [0x1D50F]), ("l;", [0x22D8]), ("leftarrow;", [0x21DA]), ("midot;", [0x13F]),
  ("ongLeftArrow;", [0x27F5]), ("ongLeftRightArrow;", [0x27F7]), ("ongRightArrow;", [0x27F6]),
  ("ongleftarrow;", [0x27F8]), ("ongleftrightarrow;", [0x27FA]), ("ongrightarrow;", [0x27F9]),
  ("opf;", [0x1D543]), ("owerLeftArrow;", [0x2199]), ("owerRightArrow;", [0x2198]),
  ("scr;", [0x2112]), ("sh;", [0x21B0]), ("strok;", [0x141]), ("t;", [0x226A])]

/-- The names that begin with `M`. -/
def namesCapitalM : List (String × List Nat) := [
  ("ap;", [0x2905]), ("cy;", [0x41C]), ("ediumSpace;", [0x205F]), ("ellintrf;", [0x2133]),
  ("fr;", [0x1D510]), ("inusPlus;", [0x2213]), ("opf;", [0x1D544]), ("scr;", [0x2133]),
  ("u;", [0x39C])]

/-- The names that begin with `N`. -/
def namesCapitalN : List (String × List Nat) := [
  ("Jcy;", [0x40A]), ("acute;", [0x143]), ("caron;", [0x147]), ("cedil;", [0x145]),
  ("cy;", [0x41D]), ("egativeMediumSpace;", [0x200B]), ("egativeThickSpace;", [0x200B]),
  ("egativeThinSpace;", [0x200B]), ("egativeVeryThinSpace;", [0x200B]),
  ("estedGreaterGreater;", [0x226B]), ("estedLessLess;", [0x226A]), ("ewLine;", [0xA]),
  ("fr;", [0x1D511]), ("oBreak;", [0x2060]), ("onBreakingSpace;", [0xA0]), ("opf;", [0x2115]),
  ("ot;", [0x2AEC]), ("otCongruent;", [0x2262]), ("otCupCap;", [0x226D]),
  ("otDoubleVerticalBar;", [0x2226]), ("otElement;", [0x2209]), ("otEqual;", [0x2260]),
  ("otEqualTilde;", [0x2242, 0x338]), ("otExists;", [0x2204]), ("otGreater;", [0x226F]),
  ("otGreaterEqual;", [0x2271]), ("otGreaterFullEqual;", [0x2267, 0x338]),
  ("otGreaterGreater;", [0x226B, 0x338]), ("otGreaterLess;", [0x2279]),
  ("otGreaterSlantEqual;", [0x2A7E, 0x338]), ("otGreaterTilde;", [0x2275]),
  ("otHumpDownHump;", [0x224E, 0x338]), ("otHumpEqual;", [0x224F, 0x338]),
  ("otLeftTriangle;", [0x22EA]), ("otLeftTriangleBar;", [0x29CF, 0x338]),
  ("otLeftTriangleEqual;", [0x22EC]), ("otLess;", [0x226E]), ("otLessEqual;", [0x2270]),
  ("otLessGreater;", [0x2278]), ("otLessLess;", [0x226A, 0x338]),
  ("otLessSlantEqual;", [0x2A7D, 0x338]), ("otLessTilde;", [0x2274]),
  ("otNestedGreaterGreater;", [0x2AA2, 0x338]), ("otNestedLessLess;", [0x2AA1, 0x338]),
  ("otPrecedes;", [0x2280]), ("otPrecedesEqual;", [0x2AAF, 0x338]),
  ("otPrecedesSlantEqual;", [0x22E0]), ("otReverseElement;", [0x220C]),
  ("otRightTriangle;", [0x22EB]), ("otRightTriangleBar;", [0x29D0, 0x338]),
  ("otRightTriangleEqual;", [0x22ED]), ("otSquareSubset;", [0x228F, 0x338]),
  ("otSquareSubsetEqual;", [0x22E2]), ("otSquareSuperset;", [0x2290, 0x338]),
  ("otSquareSupersetEqual;", [0x22E3]), ("otSubset;", [0x2282, 0x20D2]),
  ("otSubsetEqual;", [0x2288]), ("otSucceeds;", [0x2281]), ("otSucceedsEqual;", [0x2AB0, 0x338]),
  ("otSucceedsSlantEqual;", [0x22E1]), ("otSucceedsTilde;", [0x227F, 0x338]),
  ("otSuperset;", [0x2283, 0x20D2]), ("otSupersetEqual;", [0x2289]), ("otTilde;", [0x2241]),
  ("otTildeEqual;", [0x2244]), ("otTildeFullEqual;", [0x2247]), ("otTildeTilde;", [0x2249]),
  ("otVerticalBar;", [0x2224]), ("scr;", [0x1D4A9]), ("tilde", [0xD1]), ("tilde;", [0xD1]),
  ("u;", [0x39D])]

/-- The names that begin with `O`. -/
def namesCapitalO : List (String × List Nat) := [
  ("Elig;", [0x152]), ("acute", [0xD3]), ("acute;", [0xD3]), ("circ", [0xD4]), ("circ;", [0xD4]),
  ("cy;", [0x41E]), ("dblac;", [0x150]), ("fr;", [0x1D512]), ("grave", [0xD2]),
  ("grave;", [0xD2]), ("macr;", [0x14C]), ("mega;", [0x3A9]), ("micron;", [0x39F]),
  ("opf;", [0x1D546]), ("penCurlyDoubleQuote;", [0x201C]), ("penCurlyQuote;", [0x2018]),
  ("r;", [0x2A54]), ("scr;", [0x1D4AA]), ("slash", [0xD8]), ("slash;", [0xD8]), ("tilde", [0xD5]),
  ("tilde;", [0xD5]), ("times;", [0x2A37]), ("uml", [0xD6]), ("uml;", [0xD6]),
  ("verBar;", [0x203E]), ("verBrace;", [0x23DE]), ("verBracket;", [0x23B4]),
  ("verParenthesis;", [0x23DC])]

/-- The names that begin with `P`. -/
def namesCapitalP : List (String × List Nat) := [
  ("artialD;", [0x2202]), ("cy;", [0x41F]), ("fr;", [0x1D513]), ("hi;", [0x3A6]), ("i;", [0x3A0]),
  ("lusMinus;", [0xB1]), ("oincareplane;", [0x210C]), ("opf;", [0x2119]), ("r;", [0x2ABB]),
  ("recedes;", [0x227A]), ("recedesEqual;", [0x2AAF]), ("recedesSlantEqual;", [0x227C]),
  ("recedesTilde;", [0x227E]), ("rime;", [0x2033]), ("roduct;", [0x220F]),
  ("roportion;", [0x2237]), ("roportional;", [0x221D]), ("scr;", [0x1D4AB]), ("si;", [0x3A8])]

/-- The names that begin with `Q`. -/
def namesCapitalQ : List (String × List Nat) := [
  ("UOT", [0x22]), ("UOT;", [0x22]), ("fr;", [0x1D514]), ("opf;", [0x211A]), ("scr;", [0x1D4AC])]

/-- The names that begin with `R`. -/
def namesCapitalR : List (String × List Nat) := [
  ("Barr;", [0x2910]), ("EG", [0xAE]), ("EG;", [0xAE]), ("acute;", [0x154]), ("ang;", [0x27EB]),
  ("arr;", [0x21A0]), ("arrtl;", [0x2916]), ("caron;", [0x158]), ("cedil;", [0x156]),
  ("cy;", [0x420]), ("e;", [0x211C]), ("everseElement;", [0x220B]),
  ("everseEquilibrium;", [0x21CB]), ("everseUpEquilibrium;", [0x296F]), ("fr;", [0x211C]),
  ("ho;", [0x3A1]), ("ightAngleBracket;", [0x27E9]), ("ightArrow;", [0x2192]),
  ("ightArrowBar;", [0x21E5]), ("ightArrowLeftArrow;", [0x21C4]), ("ightCeiling;", [0x2309]),
  ("ightDoubleBracket;", [0x27E7]), ("ightDownTeeVector;", [0x295D]),
  ("ightDownVector;", [0x21C2]), ("ightDownVectorBar;", [0x2955]), ("ightFloor;", [0x230B]),
  ("ightTee;", [0x22A2]), ("ightTeeArrow;", [0x21A6]), ("ightTeeVector;", [0x295B]),
  ("ightTriangle;", [0x22B3]), ("ightTriangleBar;", [0x29D0]), ("ightTriangleEqual;", [0x22B5]),
  ("ightUpDownVector;", [0x294F]), ("ightUpTeeVector;", [0x295C]), ("ightUpVector;", [0x21BE]),
  ("ightUpVectorBar;", [0x2954]), ("ightVector;", [0x21C0]), ("ightVectorBar;", [0x2953]),
  ("ightarrow;", [0x21D2]), ("opf;", [0x211D]), ("oundImplies;", [0x2970]),
  ("rightarrow;", [0x21DB]), ("scr;", [0x211B]), ("sh;", [0x21B1]), ("uleDelayed;", [0x29F4])]

/-- The names that begin with `S`. -/
def namesCapitalS : List (String × List Nat) := [
  ("HCHcy;", [0x429]), ("Hcy;", [0x428]), ("OFTcy;", [0x42C]), ("acute;", [0x15A]),
  ("c;", [0x2ABC]), ("caron;", [0x160]), ("cedil;", [0x15E]), ("circ;", [0x15C]),
  ("cy;", [0x421]), ("fr;", [0x1D516]), ("hortDownArrow;", [0x2193]),
  ("hortLeftArrow;", [0x2190]), ("hortRightArrow;", [0x2192]), ("hortUpArrow;", [0x2191]),
  ("igma;", [0x3A3]), ("mallCircle;", [0x2218]), ("opf;", [0x1D54A]), ("qrt;", [0x221A]),
  ("quare;", [0x25A1]), ("quareIntersection;", [0x2293]), ("quareSubset;", [0x228F]),
  ("quareSubsetEqual;", [0x2291]), ("quareSuperset;", [0x2290]),
  ("quareSupersetEqual;", [0x2292]), ("quareUnion;", [0x2294]), ("scr;", [0x1D4AE]),
  ("tar;", [0x22C6]), ("ub;", [0x22D0]), ("ubset;", [0x22D0]), ("ubsetEqual;", [0x2286]),
  ("ucceeds;", [0x227B]), ("ucceedsEqual;", [0x2AB0]), ("ucceedsSlantEqual;", [0x227D]),
  ("ucceedsTilde;", [0x227F]), ("uchThat;", [0x220B]), ("um;", [0x2211]), ("up;", [0x22D1]),
  ("uperset;", [0x2283]), ("upersetEqual;", [0x2287]), ("upset;", [0x22D1])]

/-- The names that begin with `T`. -/
def namesCapitalT : List (String × List Nat) := [
  ("HORN", [0xDE]), ("HORN;", [0xDE]), ("RADE;", [0x2122]), ("SHcy;", [0x40B]), ("Scy;", [0x426]),
  ("ab;", [0x9]), ("au;", [0x3A4]), ("caron;", [0x164]), ("cedil;", [0x162]), ("cy;", [0x422]),
  ("fr;", [0x1D517]), ("herefore;", [0x2234]), ("heta;", [0x398]),
  ("hickSpace;", [0x205F, 0x200A]), ("hinSpace;", [0x2009]), ("ilde;", [0x223C]),
  ("ildeEqual;", [0x2243]), ("ildeFullEqual;", [0x2245]), ("ildeTilde;", [0x2248]),
  ("opf;", [0x1D54B]), ("ripleDot;", [0x20DB]), ("scr;", [0x1D4AF]), ("strok;", [0x166])]

/-- The names that begin with `U`. -/
def namesCapitalU : List (String × List Nat) := [
  ("acute", [0xDA]), ("acute;", [0xDA]), ("arr;", [0x219F]), ("arrocir;", [0x2949]),
  ("brcy;", [0x40E]), ("breve;", [0x16C]), ("circ", [0xDB]), ("circ;", [0xDB]), ("cy;", [0x423]),
  ("dblac;", [0x170]), ("fr;", [0x1D518]), ("grave", [0xD9]), ("grave;", [0xD9]),
  ("macr;", [0x16A]), ("nderBar;", [0x5F]), ("nderBrace;", [0x23DF]), ("nderBracket;", [0x23B5]),
  ("nderParenthesis;", [0x23DD]), ("nion;", [0x22C3]), ("nionPlus;", [0x228E]),
  ("ogon;", [0x172]), ("opf;", [0x1D54C]), ("pArrow;", [0x2191]), ("pArrowBar;", [0x2912]),
  ("pArrowDownArrow;", [0x21C5]), ("pDownArrow;", [0x2195]), ("pEquilibrium;", [0x296E]),
  ("pTee;", [0x22A5]), ("pTeeArrow;", [0x21A5]), ("parrow;", [0x21D1]), ("pdownarrow;", [0x21D5]),
  ("pperLeftArrow;", [0x2196]), ("pperRightArrow;", [0x2197]), ("psi;", [0x3D2]),
  ("psilon;", [0x3A5]), ("ring;", [0x16E]), ("scr;", [0x1D4B0]), ("tilde;", [0x168]),
  ("uml", [0xDC]), ("uml;", [0xDC])]

/-- The names that begin with `V`. -/
def namesCapitalV : List (String × List Nat) := [
  ("Dash;", [0x22AB]), ("bar;", [0x2AEB]), ("cy;", [0x412]), ("dash;", [0x22A9]),
  ("dashl;", [0x2AE6]), ("ee;", [0x22C1]), ("erbar;", [0x2016]), ("ert;", [0x2016]),
  ("erticalBar;", [0x2223]), ("erticalLine;", [0x7C]), ("erticalSeparator;", [0x2758]),
  ("erticalTilde;", [0x2240]), ("eryThinSpace;", [0x200A]), ("fr;", [0x1D519]),
  ("opf;", [0x1D54D]), ("scr;", [0x1D4B1]), ("vdash;", [0x22AA])]

/-- The names that begin with `W`. -/
def namesCapitalW : List (String × List Nat) := [
  ("circ;", [0x174]), ("edge;", [0x22C0]), ("fr;", [0x1D51A]), ("opf;", [0x1D54E]),
  ("scr;", [0x1D4B2])]

/-- The names that begin with `X`. -/
def namesCapitalX : List (String × List Nat) := [
  ("fr;", [0x1D51B]), ("i;", [0x39E]), ("opf;", [0x1D54F]), ("scr;", [0x1D4B3])]

/-- The names that begin with `Y`. -/
def namesCapitalY : List (String × List Nat) := [
  ("Acy;", [0x42F]), ("Icy;", [0x407]), ("Ucy;", [0x42E]), ("acute", [0xDD]), ("acute;", [0xDD]),
  ("circ;", [0x176]), ("cy;", [0x42B]), ("fr;", [0x1D51C]), ("opf;", [0x1D550]),
  ("scr;", [0x1D4B4]), ("uml;", [0x178])]

/-- The names that begin with `Z`. -/
def namesCapitalZ : List (String × List Nat) := [
  ("Hcy;", [0x416]), ("acute;", [0x179]), ("caron;", [0x17D]), ("cy;", [0x417]),
  ("dot;", [0x17B]), ("eroWidthSpace;", [0x200B]), ("eta;", [0x396]), ("fr;", [0x2128]),
  ("opf;", [0x2124]), ("scr;", [0x1D4B5])]

end HtmlText
