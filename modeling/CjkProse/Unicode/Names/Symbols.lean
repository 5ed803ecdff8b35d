import CjkProse.Unicode.Names.Entry

/-!
# Names of characters: symbols

The names of the characters from punctuation to arrows, as version 14 of the standard gives them.
How an entry writes them is told at `NameEntry`.

## Main definitions

* `symbolNames` — the entries.
-/

namespace CjkProse.Unicode

/-- The names of punctuation, currencies, letter-like symbols, arrows and operators. -/
def punctuationNames : List NameEntry := [
  ⟨0x2000, ["* QUAD,EN,EM"]⟩,
  ⟨0x2002, ["* SPACE,EN,EM,THREE-PER-EM,FOUR-PER-EM,SIX-PER-EM,FIGURE,PUNCTUATION,THIN,HAIR",
    "ZERO WIDTH"]⟩,
  ⟨0x200C, ["*,ZERO WIDTH NON-JOINER,ZERO WIDTH JOINER,LEFT-TO-RIGHT MARK,RIGHT-TO-LEFT MARK",
    "HYPHEN,NON-BREAKING HYPHEN,FIGURE DASH,EN DASH,EM DASH,HORIZONTAL BAR,DOUBLE VERTICAL LINE",
    "DOUBLE LOW LINE"]⟩,
  ⟨0x2018, ["* QUOTATION MARK,LEFT SINGLE,RIGHT SINGLE,SINGLE LOW-9,SINGLE HIGH-REVERSED-9",
    "LEFT DOUBLE,RIGHT DOUBLE,DOUBLE LOW-9,DOUBLE HIGH-REVERSED-9"]⟩,
  ⟨0x2020, ["*,DAGGER,DOUBLE DAGGER,BULLET,TRIANGULAR BULLET,ONE DOT LEADER,TWO DOT LEADER",
    "HORIZONTAL ELLIPSIS,HYPHENATION POINT,LINE SEPARATOR,PARAGRAPH SEPARATOR",
    "LEFT-TO-RIGHT EMBEDDING,RIGHT-TO-LEFT EMBEDDING,POP DIRECTIONAL FORMATTING",
    "LEFT-TO-RIGHT OVERRIDE,RIGHT-TO-LEFT OVERRIDE,NARROW NO-BREAK SPACE,PER MILLE SIGN",
    "PER TEN THOUSAND SIGN,PRIME,DOUBLE PRIME,TRIPLE PRIME,REVERSED PRIME,REVERSED DOUBLE PRIME",
    "REVERSED TRIPLE PRIME,CARET,SINGLE LEFT-POINTING ANGLE QUOTATION MARK",
    "SINGLE RIGHT-POINTING ANGLE QUOTATION MARK,REFERENCE MARK,DOUBLE EXCLAMATION MARK,INTERROBANG",
    "OVERLINE,UNDERTIE,CHARACTER TIE,CARET INSERTION POINT,ASTERISM,HYPHEN BULLET,FRACTION SLASH",
    "LEFT SQUARE BRACKET WITH QUILL,RIGHT SQUARE BRACKET WITH QUILL,DOUBLE QUESTION MARK",
    "QUESTION EXCLAMATION MARK,EXCLAMATION QUESTION MARK,TIRONIAN SIGN ET,REVERSED PILCROW SIGN",
    "BLACK LEFTWARDS BULLET,BLACK RIGHTWARDS BULLET,LOW ASTERISK,REVERSED SEMICOLON,CLOSE UP",
    "TWO ASTERISKS ALIGNED VERTICALLY,COMMERCIAL MINUS SIGN,SWUNG DASH,INVERTED UNDERTIE",
    "FLOWER PUNCTUATION MARK,THREE DOT PUNCTUATION,QUADRUPLE PRIME,FOUR DOT PUNCTUATION",
    "FIVE DOT PUNCTUATION,TWO DOT PUNCTUATION,FOUR DOT MARK,DOTTED CROSS,TRICOLON",
    "VERTICAL FOUR DOTS,MEDIUM MATHEMATICAL SPACE,WORD JOINER,FUNCTION APPLICATION"]⟩,
  ⟨0x2062, ["INVISIBLE *,TIMES,SEPARATOR,PLUS"]⟩,
  ⟨0x2066, ["* ISOLATE,LEFT-TO-RIGHT,RIGHT-TO-LEFT,FIRST STRONG,POP DIRECTIONAL"]⟩,
  ⟨0x206A, ["* SYMMETRIC SWAPPING,INHIBIT,ACTIVATE"]⟩,
  ⟨0x206C, ["* ARABIC FORM SHAPING,INHIBIT,ACTIVATE"]⟩,
  ⟨0x206E, ["* DIGIT SHAPES,NATIONAL,NOMINAL"]⟩,
  ⟨0x2070, ["SUPERSCRIPT *,ZERO,LATIN SMALL LETTER I"]⟩,
  ⟨0x2074, ["SUPERSCRIPT *,FOUR,FIVE,SIX,SEVEN,EIGHT,NINE,PLUS SIGN,MINUS,EQUALS SIGN",
    "LEFT PARENTHESIS,RIGHT PARENTHESIS,LATIN SMALL LETTER N"]⟩,
  ⟨0x2080, ["SUBSCRIPT *,ZERO,ONE,TWO,THREE,FOUR,FIVE,SIX,SEVEN,EIGHT,NINE,PLUS SIGN,MINUS",
    "EQUALS SIGN,LEFT PARENTHESIS,RIGHT PARENTHESIS"]⟩,
  ⟨0x2090, ["LATIN SUBSCRIPT SMALL LETTER *,A,E,O,X,SCHWA,H,K,L,M,N,P,S,T"]⟩,
  ⟨0x20A0, ["* SIGN,EURO-CURRENCY,COLON,CRUZEIRO,FRENCH FRANC,LIRA,MILL,NAIRA,PESETA,RUPEE,WON",
    "NEW SHEQEL,DONG,EURO,KIP,TUGRIK,DRACHMA,GERMAN PENNY,PESO,GUARANI,AUSTRAL,HRYVNIA,CEDI",
    "LIVRE TOURNOIS,SPESMILO,TENGE,INDIAN RUPEE,TURKISH LIRA,NORDIC MARK,MANAT,RUBLE,LARI,BITCOIN",
    "SOM"]⟩,
  ⟨0x20D0, ["COMBINING *,LEFT HARPOON ABOVE,RIGHT HARPOON ABOVE,LONG VERTICAL LINE OVERLAY",
    "SHORT VERTICAL LINE OVERLAY,ANTICLOCKWISE ARROW ABOVE,CLOCKWISE ARROW ABOVE,LEFT ARROW ABOVE",
    "RIGHT ARROW ABOVE,RING OVERLAY,CLOCKWISE RING OVERLAY,ANTICLOCKWISE RING OVERLAY",
    "THREE DOTS ABOVE,FOUR DOTS ABOVE,ENCLOSING CIRCLE,ENCLOSING SQUARE,ENCLOSING DIAMOND",
    "ENCLOSING CIRCLE BACKSLASH,LEFT RIGHT ARROW ABOVE,ENCLOSING SCREEN,ENCLOSING KEYCAP",
    "ENCLOSING UPWARD POINTING TRIANGLE,REVERSE SOLIDUS OVERLAY,DOUBLE VERTICAL STROKE OVERLAY",
    "ANNUITY SYMBOL,TRIPLE UNDERDOT,WIDE BRIDGE ABOVE,LEFTWARDS ARROW OVERLAY",
    "LONG DOUBLE SOLIDUS OVERLAY,RIGHTWARDS HARPOON WITH BARB DOWNWARDS",
    "LEFTWARDS HARPOON WITH BARB DOWNWARDS,LEFT ARROW BELOW,RIGHT ARROW BELOW,ASTERISK ABOVE"]⟩,
  ⟨0x2100, ["*,ACCOUNT OF,ADDRESSED TO THE SUBJECT,DOUBLE-STRUCK CAPITAL C,DEGREE CELSIUS",
    "CENTRE LINE SYMBOL,CARE OF,CADA UNA,EULER CONSTANT,SCRUPLE,DEGREE FAHRENHEIT,SCRIPT SMALL G",
    "SCRIPT CAPITAL H,BLACK-LETTER CAPITAL H,DOUBLE-STRUCK CAPITAL H,PLANCK CONSTANT",
    "PLANCK CONSTANT OVER TWO PI,SCRIPT CAPITAL I,BLACK-LETTER CAPITAL I,SCRIPT CAPITAL L",
    "SCRIPT SMALL L,L B BAR SYMBOL,DOUBLE-STRUCK CAPITAL N,NUMERO SIGN,SOUND RECORDING COPYRIGHT",
    "SCRIPT CAPITAL P,DOUBLE-STRUCK CAPITAL P,DOUBLE-STRUCK CAPITAL Q,SCRIPT CAPITAL R",
    "BLACK-LETTER CAPITAL R,DOUBLE-STRUCK CAPITAL R,PRESCRIPTION TAKE,RESPONSE,SERVICE MARK",
    "TELEPHONE SIGN,TRADE MARK SIGN,VERSICLE,DOUBLE-STRUCK CAPITAL Z,OUNCE SIGN,OHM SIGN",
    "INVERTED OHM SIGN,BLACK-LETTER CAPITAL Z,TURNED GREEK SMALL LETTER IOTA,KELVIN SIGN",
    "ANGSTROM SIGN,SCRIPT CAPITAL B,BLACK-LETTER CAPITAL C,ESTIMATED SYMBOL,SCRIPT SMALL E",
    "SCRIPT CAPITAL E,SCRIPT CAPITAL F,TURNED CAPITAL F,SCRIPT CAPITAL M,SCRIPT SMALL O",
    "ALEF SYMBOL,BET SYMBOL,GIMEL SYMBOL,DALET SYMBOL,INFORMATION SOURCE,ROTATED CAPITAL Q",
    "FACSIMILE SIGN"]⟩,
  ⟨0x213C, ["DOUBLE-STRUCK *,SMALL PI,SMALL GAMMA,CAPITAL GAMMA,CAPITAL PI,N-ARY SUMMATION"]⟩,
  ⟨0x2141, ["TURNED SANS-SERIF CAPITAL *,G,L"]⟩,
  ⟨0x2143, ["*,REVERSED SANS-SERIF CAPITAL L,TURNED SANS-SERIF CAPITAL Y"]⟩,
  ⟨0x2145, ["DOUBLE-STRUCK ITALIC *,CAPITAL D,SMALL D,SMALL E,SMALL I,SMALL J"]⟩,
  ⟨0x214A, ["*,PROPERTY LINE,TURNED AMPERSAND,PER SIGN,AKTIESELSKAB,TURNED SMALL F",
    "SYMBOL FOR SAMARITAN SOURCE"]⟩,
  ⟨0x2150, ["VULGAR FRACTION *,ONE SEVENTH,ONE NINTH,ONE TENTH,ONE THIRD,TWO THIRDS,ONE FIFTH",
    "TWO FIFTHS,THREE FIFTHS,FOUR FIFTHS,ONE SIXTH,FIVE SIXTHS,ONE EIGHTH,THREE EIGHTHS",
    "FIVE EIGHTHS,SEVEN EIGHTHS"]⟩, ⟨0x215F, ["FRACTION NUMERATOR ONE"]⟩,
  ⟨0x2160, ["ROMAN NUMERAL *,ONE,TWO,THREE,FOUR,FIVE,SIX,SEVEN,EIGHT,NINE,TEN,ELEVEN,TWELVE,FIFTY",
    "ONE HUNDRED,FIVE HUNDRED,ONE THOUSAND"]⟩,
  ⟨0x2170, ["SMALL ROMAN NUMERAL *,ONE,TWO,THREE,FOUR,FIVE,SIX,SEVEN,EIGHT,NINE,TEN,ELEVEN,TWELVE",
    "FIFTY,ONE HUNDRED,FIVE HUNDRED,ONE THOUSAND"]⟩,
  ⟨0x2180, ["ROMAN NUMERAL *,ONE THOUSAND C D,FIVE THOUSAND,TEN THOUSAND,REVERSED ONE HUNDRED"]⟩,
  ⟨0x2184, ["LATIN SMALL LETTER REVERSED C"]⟩,
  ⟨0x2185, ["ROMAN NUMERAL *,SIX LATE FORM,FIFTY EARLY FORM,FIFTY THOUSAND,ONE HUNDRED THOUSAND"]⟩,
  ⟨0x2189, ["*,VULGAR FRACTION ZERO THIRDS,TURNED DIGIT TWO,TURNED DIGIT THREE"]⟩,
  ⟨0x2190, ["* ARROW,LEFTWARDS,UPWARDS,RIGHTWARDS,DOWNWARDS,LEFT RIGHT,UP DOWN,NORTH WEST",
    "NORTH EAST,SOUTH EAST,SOUTH WEST"]⟩, ⟨0x219A, ["* ARROW WITH STROKE,LEFTWARDS,RIGHTWARDS"]⟩,
  ⟨0x219C, ["* WAVE ARROW,LEFTWARDS,RIGHTWARDS"]⟩,
  ⟨0x219E, ["* TWO HEADED ARROW,LEFTWARDS,UPWARDS,RIGHTWARDS,DOWNWARDS"]⟩,
  ⟨0x21A2, ["* ARROW WITH TAIL,LEFTWARDS,RIGHTWARDS"]⟩,
  ⟨0x21A4, ["* ARROW FROM BAR,LEFTWARDS,UPWARDS,RIGHTWARDS,DOWNWARDS"]⟩,
  ⟨0x21A8, ["*,UP DOWN ARROW WITH BASE,LEFTWARDS ARROW WITH HOOK,RIGHTWARDS ARROW WITH HOOK",
    "LEFTWARDS ARROW WITH LOOP,RIGHTWARDS ARROW WITH LOOP,LEFT RIGHT WAVE ARROW",
    "LEFT RIGHT ARROW WITH STROKE,DOWNWARDS ZIGZAG ARROW,UPWARDS ARROW WITH TIP LEFTWARDS",
    "UPWARDS ARROW WITH TIP RIGHTWARDS,DOWNWARDS ARROW WITH TIP LEFTWARDS",
    "DOWNWARDS ARROW WITH TIP RIGHTWARDS,RIGHTWARDS ARROW WITH CORNER DOWNWARDS",
    "DOWNWARDS ARROW WITH CORNER LEFTWARDS,ANTICLOCKWISE TOP SEMICIRCLE ARROW",
    "CLOCKWISE TOP SEMICIRCLE ARROW,NORTH WEST ARROW TO LONG BAR",
    "LEFTWARDS ARROW TO BAR OVER RIGHTWARDS ARROW TO BAR"]⟩,
  ⟨0x21BA, ["* OPEN CIRCLE ARROW,ANTICLOCKWISE,CLOCKWISE"]⟩,
  ⟨0x21BC, ["LEFTWARDS HARPOON WITH BARB *,UPWARDS,DOWNWARDS"]⟩,
  ⟨0x21BE, ["UPWARDS HARPOON WITH BARB *,RIGHTWARDS,LEFTWARDS"]⟩,
  ⟨0x21C0, ["RIGHTWARDS HARPOON WITH BARB *,UPWARDS,DOWNWARDS"]⟩,
  ⟨0x21C2, ["DOWNWARDS HARPOON WITH BARB *,RIGHTWARDS,LEFTWARDS"]⟩,
  ⟨0x21C4, ["* ARROW,RIGHTWARDS ARROW OVER LEFTWARDS,UPWARDS ARROW LEFTWARDS OF DOWNWARDS",
    "LEFTWARDS ARROW OVER RIGHTWARDS"]⟩,
  ⟨0x21C7, ["* PAIRED ARROWS,LEFTWARDS,UPWARDS,RIGHTWARDS,DOWNWARDS"]⟩,
  ⟨0x21CB, ["* HARPOON,LEFTWARDS HARPOON OVER RIGHTWARDS,RIGHTWARDS HARPOON OVER LEFTWARDS"]⟩,
  ⟨0x21CD, ["* DOUBLE ARROW WITH STROKE,LEFTWARDS,LEFT RIGHT,RIGHTWARDS"]⟩,
  ⟨0x21D0, ["* DOUBLE ARROW,LEFTWARDS,UPWARDS,RIGHTWARDS,DOWNWARDS,LEFT RIGHT,UP DOWN,NORTH WEST",
    "NORTH EAST,SOUTH EAST,SOUTH WEST"]⟩,
  ⟨0x21DA, ["* ARROW,LEFTWARDS TRIPLE,RIGHTWARDS TRIPLE,LEFTWARDS SQUIGGLE,RIGHTWARDS SQUIGGLE"]⟩,
  ⟨0x21DE, ["* ARROW WITH DOUBLE STROKE,UPWARDS,DOWNWARDS"]⟩,
  ⟨0x21E0, ["* DASHED ARROW,LEFTWARDS,UPWARDS,RIGHTWARDS,DOWNWARDS"]⟩,
  ⟨0x21E4, ["* ARROW TO BAR,LEFTWARDS,RIGHTWARDS"]⟩,
  ⟨0x21E6, ["* WHITE ARROW,LEFTWARDS,UPWARDS,RIGHTWARDS,DOWNWARDS"]⟩,
  ⟨0x21EA, ["UPWARDS WHITE *,ARROW FROM BAR,ARROW ON PEDESTAL",
    "ARROW ON PEDESTAL WITH HORIZONTAL BAR,ARROW ON PEDESTAL WITH VERTICAL BAR,DOUBLE ARROW",
    "DOUBLE ARROW ON PEDESTAL"]⟩,
  ⟨0x21F0, ["*,RIGHTWARDS WHITE ARROW FROM WALL,NORTH WEST ARROW TO CORNER",
    "SOUTH EAST ARROW TO CORNER,UP DOWN WHITE ARROW,RIGHT ARROW WITH SMALL CIRCLE",
    "DOWNWARDS ARROW LEFTWARDS OF UPWARDS ARROW,THREE RIGHTWARDS ARROWS"]⟩,
  ⟨0x21F7, ["* ARROW WITH VERTICAL STROKE,LEFTWARDS,RIGHTWARDS,LEFT RIGHT"]⟩,
  ⟨0x21FA, ["* ARROW WITH DOUBLE VERTICAL STROKE,LEFTWARDS,RIGHTWARDS,LEFT RIGHT"]⟩,
  ⟨0x21FD, ["* OPEN-HEADED ARROW,LEFTWARDS,RIGHTWARDS,LEFT RIGHT"]⟩,
  ⟨0x2200, ["*,FOR ALL,COMPLEMENT,PARTIAL DIFFERENTIAL,THERE EXISTS,THERE DOES NOT EXIST,EMPTY SET",
    "INCREMENT,NABLA,ELEMENT OF,NOT AN ELEMENT OF,SMALL ELEMENT OF,CONTAINS AS MEMBER",
    "DOES NOT CONTAIN AS MEMBER,SMALL CONTAINS AS MEMBER,END OF PROOF,N-ARY PRODUCT",
    "N-ARY COPRODUCT,N-ARY SUMMATION,MINUS SIGN,MINUS-OR-PLUS SIGN,DOT PLUS,DIVISION SLASH",
    "SET MINUS,ASTERISK OPERATOR,RING OPERATOR,BULLET OPERATOR,SQUARE ROOT,CUBE ROOT,FOURTH ROOT",
    "PROPORTIONAL TO,INFINITY,RIGHT ANGLE,ANGLE,MEASURED ANGLE,SPHERICAL ANGLE,DIVIDES",
    "DOES NOT DIVIDE,PARALLEL TO,NOT PARALLEL TO,LOGICAL AND,LOGICAL OR,INTERSECTION,UNION",
    "INTEGRAL"]⟩,
  ⟨0x222C, ["* INTEGRAL,DOUBLE,TRIPLE,CONTOUR,SURFACE,VOLUME,CLOCKWISE,CLOCKWISE CONTOUR",
    "ANTICLOCKWISE CONTOUR"]⟩,
  ⟨0x2234, ["*,THEREFORE,BECAUSE,RATIO,PROPORTION,DOT MINUS,EXCESS,GEOMETRIC PROPORTION,HOMOTHETIC",
    "TILDE OPERATOR,REVERSED TILDE,INVERTED LAZY S,SINE WAVE,WREATH PRODUCT,NOT TILDE",
    "MINUS TILDE"]⟩,
  ⟨0x2243, ["* EQUAL TO,ASYMPTOTICALLY,NOT ASYMPTOTICALLY,APPROXIMATELY",
    "APPROXIMATELY BUT NOT ACTUALLY,NEITHER APPROXIMATELY NOR ACTUALLY,ALMOST,NOT ALMOST",
    "ALMOST EQUAL OR"]⟩,
  ⟨0x224B, ["*,TRIPLE TILDE,ALL EQUAL TO,EQUIVALENT TO,GEOMETRICALLY EQUIVALENT TO",
    "DIFFERENCE BETWEEN,APPROACHES THE LIMIT,GEOMETRICALLY EQUAL TO",
    "APPROXIMATELY EQUAL TO OR THE IMAGE OF,IMAGE OF OR APPROXIMATELY EQUAL TO,COLON EQUALS",
    "EQUALS COLON,RING IN EQUAL TO,RING EQUAL TO,CORRESPONDS TO,ESTIMATES,EQUIANGULAR TO",
    "STAR EQUALS,DELTA EQUAL TO,EQUAL TO BY DEFINITION,MEASURED BY,QUESTIONED EQUAL TO",
    "NOT EQUAL TO,IDENTICAL TO,NOT IDENTICAL TO,STRICTLY EQUIVALENT TO"]⟩,
  ⟨0x2264, ["* EQUAL TO,LESS-THAN OR,GREATER-THAN OR,LESS-THAN OVER,GREATER-THAN OVER",
    "LESS-THAN BUT NOT,GREATER-THAN BUT NOT"]⟩,
  ⟨0x226A, ["*,MUCH LESS-THAN,MUCH GREATER-THAN,BETWEEN,NOT EQUIVALENT TO,NOT LESS-THAN",
    "NOT GREATER-THAN"]⟩, ⟨0x2270, ["NEITHER * NOR EQUAL TO,LESS-THAN,GREATER-THAN"]⟩,
  ⟨0x2272, ["* EQUIVALENT TO,LESS-THAN OR,GREATER-THAN OR,NEITHER LESS-THAN NOR",
    "NEITHER GREATER-THAN NOR"]⟩,
  ⟨0x2276, ["*,LESS-THAN OR GREATER-THAN,GREATER-THAN OR LESS-THAN",
    "NEITHER LESS-THAN NOR GREATER-THAN,NEITHER GREATER-THAN NOR LESS-THAN,PRECEDES,SUCCEEDS",
    "PRECEDES OR EQUAL TO,SUCCEEDS OR EQUAL TO,PRECEDES OR EQUIVALENT TO,SUCCEEDS OR EQUIVALENT TO",
    "DOES NOT PRECEDE,DOES NOT SUCCEED,SUBSET OF,SUPERSET OF,NOT A SUBSET OF,NOT A SUPERSET OF"]⟩,
  ⟨0x2286, ["* EQUAL TO,SUBSET OF OR,SUPERSET OF OR,NEITHER A SUBSET OF NOR",
    "NEITHER A SUPERSET OF NOR,SUBSET OF WITH NOT,SUPERSET OF WITH NOT"]⟩,
  ⟨0x228C, ["*,MULTISET,MULTISET MULTIPLICATION,MULTISET UNION"]⟩,
  ⟨0x228F, ["SQUARE *,IMAGE OF,ORIGINAL OF,IMAGE OF OR EQUAL TO,ORIGINAL OF OR EQUAL TO,CAP,CUP"]⟩,
  ⟨0x2295, ["CIRCLED *,PLUS,MINUS,TIMES,DIVISION SLASH,DOT OPERATOR,RING OPERATOR",
    "ASTERISK OPERATOR,EQUALS,DASH"]⟩, ⟨0x229E, ["SQUARED *,PLUS,MINUS,TIMES,DOT OPERATOR"]⟩,
  ⟨0x22A2, ["*,RIGHT TACK,LEFT TACK,DOWN TACK,UP TACK,ASSERTION,MODELS,TRUE,FORCES",
    "TRIPLE VERTICAL BAR RIGHT TURNSTILE,DOUBLE VERTICAL BAR DOUBLE RIGHT TURNSTILE,DOES NOT PROVE",
    "NOT TRUE,DOES NOT FORCE,NEGATED DOUBLE VERTICAL BAR DOUBLE RIGHT TURNSTILE",
    "PRECEDES UNDER RELATION,SUCCEEDS UNDER RELATION,NORMAL SUBGROUP OF",
    "CONTAINS AS NORMAL SUBGROUP,NORMAL SUBGROUP OF OR EQUAL TO",
    "CONTAINS AS NORMAL SUBGROUP OR EQUAL TO,ORIGINAL OF,IMAGE OF,MULTIMAP",
    "HERMITIAN CONJUGATE MATRIX,INTERCALATE,XOR,NAND,NOR,RIGHT ANGLE WITH ARC,RIGHT TRIANGLE",
    "N-ARY LOGICAL AND,N-ARY LOGICAL OR,N-ARY INTERSECTION,N-ARY UNION,DIAMOND OPERATOR",
    "DOT OPERATOR,STAR OPERATOR,DIVISION TIMES,BOWTIE"]⟩,
  ⟨0x22C9, ["* SEMIDIRECT PRODUCT,LEFT NORMAL FACTOR,RIGHT NORMAL FACTOR,LEFT,RIGHT"]⟩,
  ⟨0x22CD, ["*,REVERSED TILDE EQUALS,CURLY LOGICAL OR,CURLY LOGICAL AND,DOUBLE SUBSET",
    "DOUBLE SUPERSET,DOUBLE INTERSECTION,DOUBLE UNION,PITCHFORK,EQUAL AND PARALLEL TO",
    "LESS-THAN WITH DOT,GREATER-THAN WITH DOT,VERY MUCH LESS-THAN,VERY MUCH GREATER-THAN",
    "LESS-THAN EQUAL TO OR GREATER-THAN,GREATER-THAN EQUAL TO OR LESS-THAN"]⟩,
  ⟨0x22DC, ["EQUAL TO OR *,LESS-THAN,GREATER-THAN,PRECEDES,SUCCEEDS"]⟩,
  ⟨0x22E0, ["DOES NOT * OR EQUAL,PRECEDE,SUCCEED"]⟩,
  ⟨0x22E2, ["NOT SQUARE * OF OR EQUAL TO,IMAGE,ORIGINAL"]⟩,
  ⟨0x22E4, ["SQUARE * OF OR NOT EQUAL TO,IMAGE,ORIGINAL"]⟩,
  ⟨0x22E6, ["* BUT NOT EQUIVALENT TO,LESS-THAN,GREATER-THAN,PRECEDES,SUCCEEDS"]⟩,
  ⟨0x22EA, ["*,NOT NORMAL SUBGROUP OF,DOES NOT CONTAIN AS NORMAL SUBGROUP",
    "NOT NORMAL SUBGROUP OF OR EQUAL TO,DOES NOT CONTAIN AS NORMAL SUBGROUP OR EQUAL",
    "VERTICAL ELLIPSIS,MIDLINE HORIZONTAL ELLIPSIS,UP RIGHT DIAGONAL ELLIPSIS",
    "DOWN RIGHT DIAGONAL ELLIPSIS,ELEMENT OF WITH LONG HORIZONTAL STROKE"]⟩,
  ⟨0x22F3, ["* OF WITH VERTICAL BAR AT END OF HORIZONTAL STROKE,ELEMENT,SMALL ELEMENT"]⟩,
  ⟨0x22F5, ["*,ELEMENT OF WITH DOT ABOVE,ELEMENT OF WITH OVERBAR,SMALL ELEMENT OF WITH OVERBAR",
    "ELEMENT OF WITH UNDERBAR,ELEMENT OF WITH TWO HORIZONTAL STROKES",
    "CONTAINS WITH LONG HORIZONTAL STROKE"]⟩,
  ⟨0x22FB, ["* WITH VERTICAL BAR AT END OF HORIZONTAL STROKE,CONTAINS,SMALL CONTAINS"]⟩,
  ⟨0x22FD, ["*,CONTAINS WITH OVERBAR,SMALL CONTAINS WITH OVERBAR,Z NOTATION BAG MEMBERSHIP",
    "DIAMETER SIGN,ELECTRIC ARROW,HOUSE,UP ARROWHEAD,DOWN ARROWHEAD,PROJECTIVE,PERSPECTIVE",
    "WAVY LINE,LEFT CEILING,RIGHT CEILING,LEFT FLOOR,RIGHT FLOOR,BOTTOM RIGHT CROP",
    "BOTTOM LEFT CROP,TOP RIGHT CROP,TOP LEFT CROP,REVERSED NOT SIGN,SQUARE LOZENGE,ARC,SEGMENT",
    "SECTOR,TELEPHONE RECORDER,POSITION INDICATOR,VIEWDATA SQUARE,PLACE OF INTEREST SIGN",
    "TURNED NOT SIGN,WATCH,HOURGLASS,TOP LEFT CORNER,TOP RIGHT CORNER,BOTTOM LEFT CORNER",
    "BOTTOM RIGHT CORNER,TOP HALF INTEGRAL,BOTTOM HALF INTEGRAL,FROWN,SMILE",
    "UP ARROWHEAD BETWEEN TWO HORIZONTAL BARS,OPTION KEY,ERASE TO THE RIGHT,X IN A RECTANGLE BOX",
    "KEYBOARD,LEFT-POINTING ANGLE BRACKET,RIGHT-POINTING ANGLE BRACKET,ERASE TO THE LEFT",
    "BENZENE RING,CYLINDRICITY,ALL AROUND-PROFILE,SYMMETRY,TOTAL RUNOUT,DIMENSION ORIGIN",
    "CONICAL TAPER,SLOPE,COUNTERBORE,COUNTERSINK"]⟩]

/-- The names of technical symbols, boxes, shapes and pictures. -/
def technicalNames : List NameEntry := [
  ⟨0x2336, ["APL FUNCTIONAL SYMBOL *,I-BEAM,SQUISH QUAD,QUAD EQUAL,QUAD DIVIDE,QUAD DIAMOND",
    "QUAD JOT,QUAD CIRCLE,CIRCLE STILE,CIRCLE JOT,SLASH BAR,BACKSLASH BAR,QUAD SLASH",
    "QUAD BACKSLASH,QUAD LESS-THAN,QUAD GREATER-THAN,LEFTWARDS VANE,RIGHTWARDS VANE",
    "QUAD LEFTWARDS ARROW,QUAD RIGHTWARDS ARROW,CIRCLE BACKSLASH,DOWN TACK UNDERBAR,DELTA STILE",
    "QUAD DOWN CARET,QUAD DELTA,DOWN TACK JOT,UPWARDS VANE,QUAD UPWARDS ARROW,UP TACK OVERBAR",
    "DEL STILE,QUAD UP CARET,QUAD DEL,UP TACK JOT,DOWNWARDS VANE,QUAD DOWNWARDS ARROW",
    "QUOTE UNDERBAR,DELTA UNDERBAR,DIAMOND UNDERBAR,JOT UNDERBAR,CIRCLE UNDERBAR,UP SHOE JOT",
    "QUOTE QUAD,CIRCLE STAR,QUAD COLON,UP TACK DIAERESIS,DEL DIAERESIS,STAR DIAERESIS",
    "JOT DIAERESIS,CIRCLE DIAERESIS,DOWN SHOE STILE,LEFT SHOE STILE,TILDE DIAERESIS",
    "GREATER-THAN DIAERESIS,COMMA BAR,DEL TILDE,ZILDE,STILE TILDE,SEMICOLON UNDERBAR",
    "QUAD NOT EQUAL,QUAD QUESTION,DOWN CARET TILDE,UP CARET TILDE,IOTA,RHO,OMEGA,ALPHA UNDERBAR",
    "EPSILON UNDERBAR,IOTA UNDERBAR,OMEGA UNDERBAR,ALPHA"]⟩,
  ⟨0x237B, ["*,NOT CHECK MARK,RIGHT ANGLE WITH DOWNWARDS ZIGZAG ARROW,SHOULDERED OPEN BOX",
    "BELL SYMBOL,VERTICAL LINE WITH MIDDLE DOT,INSERTION SYMBOL,CONTINUOUS UNDERLINE SYMBOL",
    "DISCONTINUOUS UNDERLINE SYMBOL,EMPHASIS SYMBOL,COMPOSITION SYMBOL",
    "WHITE SQUARE WITH CENTRE VERTICAL LINE,ENTER SYMBOL,ALTERNATIVE KEY SYMBOL,HELM SYMBOL",
    "CIRCLED HORIZONTAL BAR WITH NOTCH,CIRCLED TRIANGLE DOWN,BROKEN CIRCLE WITH NORTHWEST ARROW"]⟩,
  ⟨0x238C, ["* SYMBOL,UNDO,MONOSTABLE,HYSTERESIS,OPEN-CIRCUIT-OUTPUT H-TYPE",
    "OPEN-CIRCUIT-OUTPUT L-TYPE,PASSIVE-PULL-DOWN-OUTPUT,PASSIVE-PULL-UP-OUTPUT"]⟩,
  ⟨0x2393, ["*,DIRECT CURRENT SYMBOL FORM TWO,SOFTWARE-FUNCTION SYMBOL,APL FUNCTIONAL SYMBOL QUAD",
    "DECIMAL SEPARATOR KEY SYMBOL,PREVIOUS PAGE,NEXT PAGE,PRINT SCREEN SYMBOL",
    "CLEAR SCREEN SYMBOL"]⟩, ⟨0x239B, ["LEFT PARENTHESIS *,UPPER HOOK,EXTENSION,LOWER HOOK"]⟩,
  ⟨0x239E, ["RIGHT PARENTHESIS *,UPPER HOOK,EXTENSION,LOWER HOOK"]⟩,
  ⟨0x23A1, ["LEFT SQUARE BRACKET *,UPPER CORNER,EXTENSION,LOWER CORNER"]⟩,
  ⟨0x23A4, ["RIGHT SQUARE BRACKET *,UPPER CORNER,EXTENSION,LOWER CORNER"]⟩,
  ⟨0x23A7, ["LEFT CURLY BRACKET *,UPPER HOOK,MIDDLE PIECE,LOWER HOOK"]⟩,
  ⟨0x23AA, ["CURLY BRACKET EXTENSION"]⟩,
  ⟨0x23AB, ["RIGHT CURLY BRACKET *,UPPER HOOK,MIDDLE PIECE,LOWER HOOK"]⟩,
  ⟨0x23AE, ["* EXTENSION,INTEGRAL,HORIZONTAL LINE"]⟩,
  ⟨0x23B0, ["UPPER * CURLY BRACKET SECTION,LEFT OR LOWER RIGHT,RIGHT OR LOWER LEFT"]⟩,
  ⟨0x23B2, ["SUMMATION *,TOP,BOTTOM"]⟩,
  ⟨0x23B4, ["* SQUARE BRACKET,TOP,BOTTOM,BOTTOM SQUARE BRACKET OVER TOP"]⟩,
  ⟨0x23B7, ["RADICAL SYMBOL BOTTOM"]⟩, ⟨0x23B8, ["* VERTICAL BOX LINE,LEFT,RIGHT"]⟩,
  ⟨0x23BA, ["HORIZONTAL SCAN LINE-*,1,3,7,9"]⟩,
  ⟨0x23BE, ["DENTISTRY SYMBOL LIGHT *,VERTICAL AND TOP RIGHT,VERTICAL AND BOTTOM RIGHT",
    "VERTICAL WITH CIRCLE,DOWN AND HORIZONTAL WITH CIRCLE,UP AND HORIZONTAL WITH CIRCLE",
    "VERTICAL WITH TRIANGLE,DOWN AND HORIZONTAL WITH TRIANGLE,UP AND HORIZONTAL WITH TRIANGLE",
    "VERTICAL AND WAVE,DOWN AND HORIZONTAL WITH WAVE,UP AND HORIZONTAL WITH WAVE",
    "DOWN AND HORIZONTAL,UP AND HORIZONTAL,VERTICAL AND TOP LEFT,VERTICAL AND BOTTOM LEFT"]⟩,
  ⟨0x23CD, ["*,SQUARE FOOT,RETURN SYMBOL,EJECT SYMBOL,VERTICAL LINE EXTENSION"]⟩,
  ⟨0x23D1, ["METRICAL *,BREVE,LONG OVER SHORT,SHORT OVER LONG,LONG OVER TWO SHORTS",
    "TWO SHORTS OVER LONG,TWO SHORTS JOINED,TRISEME,TETRASEME,PENTASEME"]⟩,
  ⟨0x23DA, ["*,EARTH GROUND,FUSE,TOP PARENTHESIS,BOTTOM PARENTHESIS,TOP CURLY BRACKET",
    "BOTTOM CURLY BRACKET,TOP TORTOISE SHELL BRACKET,BOTTOM TORTOISE SHELL BRACKET,WHITE TRAPEZIUM",
    "BENZENE RING WITH CIRCLE,STRAIGHTNESS,FLATNESS,AC CURRENT,ELECTRICAL INTERSECTION",
    "DECIMAL EXPONENT SYMBOL"]⟩,
  ⟨0x23E9, ["BLACK * DOUBLE TRIANGLE,RIGHT-POINTING,LEFT-POINTING,UP-POINTING,DOWN-POINTING"]⟩,
  ⟨0x23ED, ["BLACK * DOUBLE TRIANGLE WITH VERTICAL BAR,RIGHT-POINTING,LEFT-POINTING"]⟩,
  ⟨0x23EF, ["*,BLACK RIGHT-POINTING TRIANGLE WITH DOUBLE VERTICAL BAR,ALARM CLOCK,STOPWATCH",
    "TIMER CLOCK,HOURGLASS WITH FLOWING SAND"]⟩,
  ⟨0x23F4, ["BLACK MEDIUM * TRIANGLE,LEFT-POINTING,RIGHT-POINTING,UP-POINTING,DOWN-POINTING"]⟩,
  ⟨0x23F8, ["*,DOUBLE VERTICAL BAR,BLACK SQUARE FOR STOP,BLACK CIRCLE FOR RECORD"]⟩,
  ⟨0x23FB, ["* SYMBOL,POWER,POWER ON-OFF,POWER ON,POWER SLEEP,OBSERVER EYE"]⟩,
  ⟨0x2400, ["SYMBOL FOR *,NULL,START OF HEADING,START OF TEXT,END OF TEXT,END OF TRANSMISSION",
    "ENQUIRY,ACKNOWLEDGE,BELL,BACKSPACE,HORIZONTAL TABULATION,LINE FEED,VERTICAL TABULATION",
    "FORM FEED,CARRIAGE RETURN,SHIFT OUT,SHIFT IN,DATA LINK ESCAPE,DEVICE CONTROL ONE",
    "DEVICE CONTROL TWO,DEVICE CONTROL THREE,DEVICE CONTROL FOUR,NEGATIVE ACKNOWLEDGE",
    "SYNCHRONOUS IDLE,END OF TRANSMISSION BLOCK,CANCEL,END OF MEDIUM,SUBSTITUTE,ESCAPE",
    "FILE SEPARATOR,GROUP SEPARATOR,RECORD SEPARATOR,UNIT SEPARATOR,SPACE,DELETE"]⟩,
  ⟨0x2422, ["*,BLANK SYMBOL,OPEN BOX"]⟩,
  ⟨0x2424, ["SYMBOL FOR *,NEWLINE,DELETE FORM TWO,SUBSTITUTE FORM TWO"]⟩,
  ⟨0x2440, ["OCR *,HOOK,CHAIR,FORK,INVERTED FORK,BELT BUCKLE,BOW TIE,BRANCH BANK IDENTIFICATION",
    "AMOUNT OF CHECK,DASH,CUSTOMER ACCOUNT NUMBER,DOUBLE BACKSLASH"]⟩,
  ⟨0x2460, ["CIRCLED DIGIT *,ONE,TWO,THREE,FOUR,FIVE,SIX,SEVEN,EIGHT,NINE"]⟩,
  ⟨0x2469, ["CIRCLED NUMBER *,TEN,ELEVEN,TWELVE,THIRTEEN,FOURTEEN,FIFTEEN,SIXTEEN,SEVENTEEN",
    "EIGHTEEN,NINETEEN,TWENTY"]⟩,
  ⟨0x2474, ["PARENTHESIZED DIGIT *,ONE,TWO,THREE,FOUR,FIVE,SIX,SEVEN,EIGHT,NINE"]⟩,
  ⟨0x247D, ["PARENTHESIZED NUMBER *,TEN,ELEVEN,TWELVE,THIRTEEN,FOURTEEN,FIFTEEN,SIXTEEN,SEVENTEEN",
    "EIGHTEEN,NINETEEN,TWENTY"]⟩,
  ⟨0x2488, ["DIGIT * FULL STOP,ONE,TWO,THREE,FOUR,FIVE,SIX,SEVEN,EIGHT,NINE"]⟩,
  ⟨0x2491, ["NUMBER * FULL STOP,TEN,ELEVEN,TWELVE,THIRTEEN,FOURTEEN,FIFTEEN,SIXTEEN,SEVENTEEN",
    "EIGHTEEN,NINETEEN,TWENTY"]⟩,
  ⟨0x249C, ["PARENTHESIZED LATIN SMALL LETTER *,A,B,C,D,E,F,G,H,I,J,K,L,M,N,O,P,Q,R,S,T,U,V,W,X,Y",
    "Z"]⟩,
  ⟨0x24B6, ["CIRCLED LATIN CAPITAL LETTER *,A,B,C,D,E,F,G,H,I,J,K,L,M,N,O,P,Q,R,S,T,U,V,W,X,Y,Z"]⟩,
  ⟨0x24D0, ["CIRCLED LATIN SMALL LETTER *,A,B,C,D,E,F,G,H,I,J,K,L,M,N,O,P,Q,R,S,T,U,V,W,X,Y,Z"]⟩,
  ⟨0x24EA, ["CIRCLED DIGIT ZERO"]⟩,
  ⟨0x24EB, ["NEGATIVE CIRCLED NUMBER *,ELEVEN,TWELVE,THIRTEEN,FOURTEEN,FIFTEEN,SIXTEEN,SEVENTEEN",
    "EIGHTEEN,NINETEEN,TWENTY"]⟩,
  ⟨0x24F5, ["DOUBLE CIRCLED DIGIT *,ONE,TWO,THREE,FOUR,FIVE,SIX,SEVEN,EIGHT,NINE"]⟩,
  ⟨0x24FE, ["*,DOUBLE CIRCLED NUMBER TEN,NEGATIVE CIRCLED DIGIT ZERO"]⟩,
  ⟨0x2500, ["BOX DRAWINGS *,LIGHT HORIZONTAL,HEAVY HORIZONTAL,LIGHT VERTICAL,HEAVY VERTICAL",
    "LIGHT TRIPLE DASH HORIZONTAL,HEAVY TRIPLE DASH HORIZONTAL,LIGHT TRIPLE DASH VERTICAL",
    "HEAVY TRIPLE DASH VERTICAL,LIGHT QUADRUPLE DASH HORIZONTAL,HEAVY QUADRUPLE DASH HORIZONTAL",
    "LIGHT QUADRUPLE DASH VERTICAL,HEAVY QUADRUPLE DASH VERTICAL,LIGHT DOWN AND RIGHT",
    "DOWN LIGHT AND RIGHT HEAVY,DOWN HEAVY AND RIGHT LIGHT,HEAVY DOWN AND RIGHT",
    "LIGHT DOWN AND LEFT,DOWN LIGHT AND LEFT HEAVY,DOWN HEAVY AND LEFT LIGHT,HEAVY DOWN AND LEFT",
    "LIGHT UP AND RIGHT,UP LIGHT AND RIGHT HEAVY,UP HEAVY AND RIGHT LIGHT,HEAVY UP AND RIGHT",
    "LIGHT UP AND LEFT,UP LIGHT AND LEFT HEAVY,UP HEAVY AND LEFT LIGHT,HEAVY UP AND LEFT",
    "LIGHT VERTICAL AND RIGHT,VERTICAL LIGHT AND RIGHT HEAVY,UP HEAVY AND RIGHT DOWN LIGHT",
    "DOWN HEAVY AND RIGHT UP LIGHT,VERTICAL HEAVY AND RIGHT LIGHT,DOWN LIGHT AND RIGHT UP HEAVY",
    "UP LIGHT AND RIGHT DOWN HEAVY,HEAVY VERTICAL AND RIGHT,LIGHT VERTICAL AND LEFT",
    "VERTICAL LIGHT AND LEFT HEAVY,UP HEAVY AND LEFT DOWN LIGHT,DOWN HEAVY AND LEFT UP LIGHT",
    "VERTICAL HEAVY AND LEFT LIGHT,DOWN LIGHT AND LEFT UP HEAVY,UP LIGHT AND LEFT DOWN HEAVY",
    "HEAVY VERTICAL AND LEFT,LIGHT DOWN AND HORIZONTAL,LEFT HEAVY AND RIGHT DOWN LIGHT",
    "RIGHT HEAVY AND LEFT DOWN LIGHT,DOWN LIGHT AND HORIZONTAL HEAVY",
    "DOWN HEAVY AND HORIZONTAL LIGHT,RIGHT LIGHT AND LEFT DOWN HEAVY",
    "LEFT LIGHT AND RIGHT DOWN HEAVY,HEAVY DOWN AND HORIZONTAL,LIGHT UP AND HORIZONTAL",
    "LEFT HEAVY AND RIGHT UP LIGHT,RIGHT HEAVY AND LEFT UP LIGHT,UP LIGHT AND HORIZONTAL HEAVY",
    "UP HEAVY AND HORIZONTAL LIGHT,RIGHT LIGHT AND LEFT UP HEAVY,LEFT LIGHT AND RIGHT UP HEAVY",
    "HEAVY UP AND HORIZONTAL,LIGHT VERTICAL AND HORIZONTAL,LEFT HEAVY AND RIGHT VERTICAL LIGHT",
    "RIGHT HEAVY AND LEFT VERTICAL LIGHT,VERTICAL LIGHT AND HORIZONTAL HEAVY",
    "UP HEAVY AND DOWN HORIZONTAL LIGHT,DOWN HEAVY AND UP HORIZONTAL LIGHT",
    "VERTICAL HEAVY AND HORIZONTAL LIGHT,LEFT UP HEAVY AND RIGHT DOWN LIGHT",
    "RIGHT UP HEAVY AND LEFT DOWN LIGHT,LEFT DOWN HEAVY AND RIGHT UP LIGHT",
    "RIGHT DOWN HEAVY AND LEFT UP LIGHT,DOWN LIGHT AND UP HORIZONTAL HEAVY",
    "UP LIGHT AND DOWN HORIZONTAL HEAVY,RIGHT LIGHT AND LEFT VERTICAL HEAVY",
    "LEFT LIGHT AND RIGHT VERTICAL HEAVY,HEAVY VERTICAL AND HORIZONTAL",
    "LIGHT DOUBLE DASH HORIZONTAL,HEAVY DOUBLE DASH HORIZONTAL,LIGHT DOUBLE DASH VERTICAL",
    "HEAVY DOUBLE DASH VERTICAL,DOUBLE HORIZONTAL,DOUBLE VERTICAL,DOWN SINGLE AND RIGHT DOUBLE",
    "DOWN DOUBLE AND RIGHT SINGLE,DOUBLE DOWN AND RIGHT,DOWN SINGLE AND LEFT DOUBLE",
    "DOWN DOUBLE AND LEFT SINGLE,DOUBLE DOWN AND LEFT,UP SINGLE AND RIGHT DOUBLE",
    "UP DOUBLE AND RIGHT SINGLE,DOUBLE UP AND RIGHT,UP SINGLE AND LEFT DOUBLE",
    "UP DOUBLE AND LEFT SINGLE,DOUBLE UP AND LEFT,VERTICAL SINGLE AND RIGHT DOUBLE",
    "VERTICAL DOUBLE AND RIGHT SINGLE,DOUBLE VERTICAL AND RIGHT,VERTICAL SINGLE AND LEFT DOUBLE",
    "VERTICAL DOUBLE AND LEFT SINGLE,DOUBLE VERTICAL AND LEFT,DOWN SINGLE AND HORIZONTAL DOUBLE",
    "DOWN DOUBLE AND HORIZONTAL SINGLE,DOUBLE DOWN AND HORIZONTAL,UP SINGLE AND HORIZONTAL DOUBLE",
    "UP DOUBLE AND HORIZONTAL SINGLE,DOUBLE UP AND HORIZONTAL",
    "VERTICAL SINGLE AND HORIZONTAL DOUBLE,VERTICAL DOUBLE AND HORIZONTAL SINGLE",
    "DOUBLE VERTICAL AND HORIZONTAL"]⟩,
  ⟨0x256D, ["BOX DRAWINGS LIGHT *,ARC DOWN AND RIGHT,ARC DOWN AND LEFT,ARC UP AND LEFT",
    "ARC UP AND RIGHT,DIAGONAL UPPER RIGHT TO LOWER LEFT,DIAGONAL UPPER LEFT TO LOWER RIGHT",
    "DIAGONAL CROSS,LEFT,UP,RIGHT,DOWN"]⟩,
  ⟨0x2578, ["BOX DRAWINGS *,HEAVY LEFT,HEAVY UP,HEAVY RIGHT,HEAVY DOWN,LIGHT LEFT AND HEAVY RIGHT",
    "LIGHT UP AND HEAVY DOWN,HEAVY LEFT AND LIGHT RIGHT,HEAVY UP AND LIGHT DOWN"]⟩,
  ⟨0x2580, ["* BLOCK,UPPER HALF,LOWER ONE EIGHTH,LOWER ONE QUARTER,LOWER THREE EIGHTHS,LOWER HALF",
    "LOWER FIVE EIGHTHS,LOWER THREE QUARTERS,LOWER SEVEN EIGHTHS,FULL,LEFT SEVEN EIGHTHS",
    "LEFT THREE QUARTERS,LEFT FIVE EIGHTHS,LEFT HALF,LEFT THREE EIGHTHS,LEFT ONE QUARTER",
    "LEFT ONE EIGHTH,RIGHT HALF"]⟩, ⟨0x2591, ["* SHADE,LIGHT,MEDIUM,DARK"]⟩,
  ⟨0x2594, ["* ONE EIGHTH BLOCK,UPPER,RIGHT"]⟩, ⟨0x2596, ["QUADRANT LOWER *,LEFT,RIGHT"]⟩,
  ⟨0x2598, ["QUADRANT UPPER *,LEFT,LEFT AND LOWER LEFT AND LOWER RIGHT,LEFT AND LOWER RIGHT",
    "LEFT AND UPPER RIGHT AND LOWER LEFT,LEFT AND UPPER RIGHT AND LOWER RIGHT,RIGHT",
    "RIGHT AND LOWER LEFT,RIGHT AND LOWER LEFT AND LOWER RIGHT"]⟩,
  ⟨0x25A0, ["* SQUARE,BLACK,WHITE"]⟩,
  ⟨0x25A2, ["WHITE SQUARE *,WITH ROUNDED CORNERS,CONTAINING BLACK SMALL SQUARE"]⟩,
  ⟨0x25A4, ["SQUARE WITH * FILL,HORIZONTAL,VERTICAL,ORTHOGONAL CROSSHATCH",
    "UPPER LEFT TO LOWER RIGHT,UPPER RIGHT TO LOWER LEFT,DIAGONAL CROSSHATCH"]⟩,
  ⟨0x25AA, ["* SMALL SQUARE,BLACK,WHITE"]⟩,
  ⟨0x25AC, ["* RECTANGLE,BLACK,WHITE,BLACK VERTICAL,WHITE VERTICAL"]⟩,
  ⟨0x25B0, ["* PARALLELOGRAM,BLACK,WHITE"]⟩,
  ⟨0x25B2, ["* TRIANGLE,BLACK UP-POINTING,WHITE UP-POINTING,BLACK UP-POINTING SMALL",
    "WHITE UP-POINTING SMALL,BLACK RIGHT-POINTING,WHITE RIGHT-POINTING,BLACK RIGHT-POINTING SMALL",
    "WHITE RIGHT-POINTING SMALL"]⟩, ⟨0x25BA, ["* RIGHT-POINTING POINTER,BLACK,WHITE"]⟩,
  ⟨0x25BC, ["* TRIANGLE,BLACK DOWN-POINTING,WHITE DOWN-POINTING,BLACK DOWN-POINTING SMALL",
    "WHITE DOWN-POINTING SMALL,BLACK LEFT-POINTING,WHITE LEFT-POINTING,BLACK LEFT-POINTING SMALL",
    "WHITE LEFT-POINTING SMALL"]⟩, ⟨0x25C4, ["* LEFT-POINTING POINTER,BLACK,WHITE"]⟩,
  ⟨0x25C6, ["*,BLACK DIAMOND,WHITE DIAMOND,WHITE DIAMOND CONTAINING BLACK SMALL DIAMOND,FISHEYE",
    "LOZENGE,WHITE CIRCLE,DOTTED CIRCLE,CIRCLE WITH VERTICAL FILL,BULLSEYE,BLACK CIRCLE"]⟩,
  ⟨0x25D0, ["CIRCLE WITH * BLACK,LEFT HALF,RIGHT HALF,LOWER HALF,UPPER HALF,UPPER RIGHT QUADRANT",
    "ALL BUT UPPER LEFT QUADRANT"]⟩, ⟨0x25D6, ["* HALF BLACK CIRCLE,LEFT,RIGHT"]⟩,
  ⟨0x25D8, ["INVERSE *,BULLET,WHITE CIRCLE"]⟩,
  ⟨0x25DA, ["* HALF INVERSE WHITE CIRCLE,UPPER,LOWER"]⟩,
  ⟨0x25DC, ["* QUADRANT CIRCULAR ARC,UPPER LEFT,UPPER RIGHT,LOWER RIGHT,LOWER LEFT"]⟩,
  ⟨0x25E0, ["* HALF CIRCLE,UPPER,LOWER"]⟩,
  ⟨0x25E2, ["BLACK * TRIANGLE,LOWER RIGHT,LOWER LEFT,UPPER LEFT,UPPER RIGHT"]⟩,
  ⟨0x25E6, ["WHITE BULLET"]⟩,
  ⟨0x25E7, ["SQUARE WITH * HALF BLACK,LEFT,RIGHT,UPPER LEFT DIAGONAL,LOWER RIGHT DIAGONAL"]⟩,
  ⟨0x25EB, ["WHITE *,SQUARE WITH VERTICAL BISECTING LINE,UP-POINTING TRIANGLE WITH DOT"]⟩,
  ⟨0x25ED, ["UP-POINTING TRIANGLE WITH * HALF BLACK,LEFT,RIGHT"]⟩, ⟨0x25EF, ["LARGE CIRCLE"]⟩,
  ⟨0x25F0, ["WHITE SQUARE WITH * QUADRANT,UPPER LEFT,LOWER LEFT,LOWER RIGHT,UPPER RIGHT"]⟩,
  ⟨0x25F4, ["WHITE CIRCLE WITH * QUADRANT,UPPER LEFT,LOWER LEFT,LOWER RIGHT,UPPER RIGHT"]⟩,
  ⟨0x25F8, ["* TRIANGLE,UPPER LEFT,UPPER RIGHT,LOWER LEFT"]⟩,
  ⟨0x25FB, ["* SQUARE,WHITE MEDIUM,BLACK MEDIUM,WHITE MEDIUM SMALL,BLACK MEDIUM SMALL"]⟩,
  ⟨0x25FF, ["*,LOWER RIGHT TRIANGLE,BLACK SUN WITH RAYS,CLOUD,UMBRELLA,SNOWMAN,COMET,BLACK STAR",
    "WHITE STAR,LIGHTNING,THUNDERSTORM,SUN,ASCENDING NODE,DESCENDING NODE,CONJUNCTION,OPPOSITION",
    "BLACK TELEPHONE,WHITE TELEPHONE,BALLOT BOX,BALLOT BOX WITH CHECK,BALLOT BOX WITH X,SALTIRE",
    "UMBRELLA WITH RAIN DROPS,HOT BEVERAGE,WHITE SHOGI PIECE,BLACK SHOGI PIECE,SHAMROCK",
    "REVERSED ROTATED FLORAL HEART BULLET"]⟩,
  ⟨0x261A, ["* POINTING INDEX,BLACK LEFT,BLACK RIGHT,WHITE LEFT,WHITE UP,WHITE RIGHT,WHITE DOWN"]⟩,
  ⟨0x2620, ["*,SKULL AND CROSSBONES,CAUTION SIGN,RADIOACTIVE SIGN,BIOHAZARD SIGN,CADUCEUS,ANKH",
    "ORTHODOX CROSS,CHI RHO,CROSS OF LORRAINE,CROSS OF JERUSALEM,STAR AND CRESCENT,FARSI SYMBOL",
    "ADI SHAKTI,HAMMER AND SICKLE,PEACE SYMBOL,YIN YANG"]⟩,
  ⟨0x2630, ["TRIGRAM FOR *,HEAVEN,LAKE,FIRE,THUNDER,WIND,WATER,MOUNTAIN,EARTH"]⟩,
  ⟨0x2638, ["*,WHEEL OF DHARMA,WHITE FROWNING FACE,WHITE SMILING FACE,BLACK SMILING FACE",
    "WHITE SUN WITH RAYS,FIRST QUARTER MOON,LAST QUARTER MOON,MERCURY,FEMALE SIGN,EARTH,MALE SIGN",
    "JUPITER,SATURN,URANUS,NEPTUNE,PLUTO,ARIES,TAURUS,GEMINI,CANCER,LEO,VIRGO,LIBRA,SCORPIUS",
    "SAGITTARIUS,CAPRICORN,AQUARIUS,PISCES"]⟩,
  ⟨0x2654, ["WHITE CHESS *,KING,QUEEN,ROOK,BISHOP,KNIGHT,PAWN"]⟩,
  ⟨0x265A, ["BLACK CHESS *,KING,QUEEN,ROOK,BISHOP,KNIGHT,PAWN"]⟩,
  ⟨0x2660, ["* SUIT,BLACK SPADE,WHITE HEART,WHITE DIAMOND,BLACK CLUB,WHITE SPADE,BLACK HEART",
    "BLACK DIAMOND,WHITE CLUB"]⟩,
  ⟨0x2668, ["*,HOT SPRINGS,QUARTER NOTE,EIGHTH NOTE,BEAMED EIGHTH NOTES,BEAMED SIXTEENTH NOTES",
    "MUSIC FLAT SIGN,MUSIC NATURAL SIGN,MUSIC SHARP SIGN,WEST SYRIAC CROSS,EAST SYRIAC CROSS",
    "UNIVERSAL RECYCLING SYMBOL"]⟩,
  ⟨0x2673, ["RECYCLING SYMBOL FOR TYPE-* PLASTICS,1,2,3,4,5,6,7"]⟩,
  ⟨0x267A, ["*,RECYCLING SYMBOL FOR GENERIC MATERIALS,BLACK UNIVERSAL RECYCLING SYMBOL",
    "RECYCLED PAPER SYMBOL,PARTIALLY-RECYCLED PAPER SYMBOL,PERMANENT PAPER SIGN",
    "WHEELCHAIR SYMBOL"]⟩, ⟨0x2680, ["DIE FACE-*,1,2,3,4,5,6"]⟩,
  ⟨0x2686, ["WHITE CIRCLE WITH *,DOT RIGHT,TWO DOTS"]⟩,
  ⟨0x2688, ["BLACK CIRCLE WITH *,WHITE DOT RIGHT,TWO WHITE DOTS"]⟩,
  ⟨0x268A, ["MONOGRAM FOR *,YANG,YIN"]⟩,
  ⟨0x268C, ["DIGRAM FOR *,GREATER YANG,LESSER YIN,LESSER YANG,GREATER YIN"]⟩,
  ⟨0x2690, ["*,WHITE FLAG,BLACK FLAG,HAMMER AND PICK,ANCHOR,CROSSED SWORDS,STAFF OF AESCULAPIUS",
    "SCALES,ALEMBIC,FLOWER,GEAR,STAFF OF HERMES,ATOM SYMBOL,FLEUR-DE-LIS,OUTLINED WHITE STAR"]⟩,
  ⟨0x269E, ["THREE LINES CONVERGING *,RIGHT,LEFT"]⟩,
  ⟨0x26A0, ["* SIGN,WARNING,HIGH VOLTAGE,DOUBLED FEMALE,DOUBLED MALE,INTERLOCKED FEMALE AND MALE",
    "MALE AND FEMALE,MALE WITH STROKE,MALE WITH STROKE AND MALE AND FEMALE",
    "VERTICAL MALE WITH STROKE,HORIZONTAL MALE WITH STROKE"]⟩,
  ⟨0x26AA, ["MEDIUM * CIRCLE,WHITE,BLACK,SMALL WHITE"]⟩,
  ⟨0x26AD, ["*,MARRIAGE SYMBOL,DIVORCE SYMBOL,UNMARRIED PARTNERSHIP SYMBOL,COFFIN,FUNERAL URN",
    "NEUTER,CERES,PALLAS,JUNO,VESTA,CHIRON,BLACK MOON LILITH,SEXTILE,SEMISEXTILE,QUINCUNX",
    "SESQUIQUADRATE,SOCCER BALL,BASEBALL,SQUARED KEY,WHITE DRAUGHTS MAN,WHITE DRAUGHTS KING",
    "BLACK DRAUGHTS MAN,BLACK DRAUGHTS KING,SNOWMAN WITHOUT SNOW,SUN BEHIND CLOUD,RAIN",
    "BLACK SNOWMAN,THUNDER CLOUD AND RAIN,TURNED WHITE SHOGI PIECE,TURNED BLACK SHOGI PIECE",
    "WHITE DIAMOND IN SQUARE,CROSSING LANES,DISABLED CAR,OPHIUCHUS,PICK,CAR SLIDING",
    "HELMET WITH WHITE CROSS,CIRCLED CROSSING LANES,CHAINS,NO ENTRY"]⟩,
  ⟨0x26D5, ["* LEFT WAY TRAFFIC,ALTERNATE ONE-WAY,BLACK TWO-WAY,WHITE TWO-WAY"]⟩,
  ⟨0x26D8, ["*,BLACK LEFT LANE MERGE,WHITE LEFT LANE MERGE,DRIVE SLOW SIGN",
    "HEAVY WHITE DOWN-POINTING TRIANGLE,LEFT CLOSED ENTRY,SQUARED SALTIRE",
    "FALLING DIAGONAL IN WHITE CIRCLE IN BLACK SQUARE,BLACK TRUCK,RESTRICTED LEFT ENTRY-1",
    "RESTRICTED LEFT ENTRY-2,ASTRONOMICAL SYMBOL FOR URANUS",
    "HEAVY CIRCLE WITH STROKE AND TWO DOTS ABOVE,PENTAGRAM,RIGHT-HANDED INTERLACED PENTAGRAM",
    "LEFT-HANDED INTERLACED PENTAGRAM,INVERTED PENTAGRAM,BLACK CROSS ON SHIELD,SHINTO SHRINE",
    "CHURCH,CASTLE,HISTORIC SITE,GEAR WITHOUT HUB,GEAR WITH HANDLES,MAP SYMBOL FOR LIGHTHOUSE",
    "MOUNTAIN,UMBRELLA ON GROUND,FOUNTAIN,FLAG IN HOLE,FERRY,SAILBOAT,SQUARE FOUR CORNERS,SKIER",
    "ICE SKATE,PERSON WITH BALL,TENT,JAPANESE BANK SYMBOL,HEADSTONE GRAVEYARD SYMBOL,FUEL PUMP",
    "CUP ON BLACK SQUARE,WHITE FLAG WITH HORIZONTAL MIDDLE BLACK STRIPE"]⟩]

/-- The names of dingbats, Braille patterns, further arrows and operators. -/
def arrowNames : List NameEntry := [
  ⟨0x2700, ["* SCISSORS,BLACK SAFETY,UPPER BLADE,BLACK,LOWER BLADE,WHITE"]⟩,
  ⟨0x2705, ["*,WHITE HEAVY CHECK MARK,TELEPHONE LOCATION SIGN,TAPE DRIVE,AIRPLANE,ENVELOPE",
    "RAISED FIST,RAISED HAND,VICTORY HAND,WRITING HAND,LOWER RIGHT PENCIL,PENCIL",
    "UPPER RIGHT PENCIL,WHITE NIB,BLACK NIB,CHECK MARK,HEAVY CHECK MARK,MULTIPLICATION X",
    "HEAVY MULTIPLICATION X,BALLOT X,HEAVY BALLOT X"]⟩,
  ⟨0x2719, ["* CROSS,OUTLINED GREEK,HEAVY GREEK,OPEN CENTRE,HEAVY OPEN CENTRE,LATIN",
    "SHADOWED WHITE LATIN,OUTLINED LATIN,MALTESE"]⟩, ⟨0x2721, ["STAR OF DAVID"]⟩,
  ⟨0x2722, ["* ASTERISK,FOUR TEARDROP-SPOKED,FOUR BALLOON-SPOKED,HEAVY FOUR BALLOON-SPOKED",
    "FOUR CLUB-SPOKED"]⟩, ⟨0x2726, ["* FOUR POINTED STAR,BLACK,WHITE"]⟩, ⟨0x2728, ["SPARKLES"]⟩,
  ⟨0x2729, ["* STAR,STRESS OUTLINED WHITE,CIRCLED WHITE,OPEN CENTRE BLACK,BLACK CENTRE WHITE",
    "OUTLINED BLACK,HEAVY OUTLINED BLACK,PINWHEEL,SHADOWED WHITE"]⟩,
  ⟨0x2731, ["* ASTERISK,HEAVY,OPEN CENTRE,EIGHT SPOKED"]⟩,
  ⟨0x2734, ["EIGHT POINTED * STAR,BLACK,PINWHEEL"]⟩,
  ⟨0x2736, ["* BLACK STAR,SIX POINTED,EIGHT POINTED RECTILINEAR,HEAVY EIGHT POINTED RECTILINEAR",
    "TWELVE POINTED"]⟩,
  ⟨0x273A, ["* ASTERISK,SIXTEEN POINTED,TEARDROP-SPOKED,OPEN CENTRE TEARDROP-SPOKED",
    "HEAVY TEARDROP-SPOKED"]⟩,
  ⟨0x273E, ["* FLORETTE,SIX PETALLED BLACK AND WHITE,BLACK,WHITE,EIGHT PETALLED OUTLINED BLACK"]⟩,
  ⟨0x2742, ["*,CIRCLED OPEN CENTRE EIGHT POINTED STAR,HEAVY TEARDROP-SPOKED PINWHEEL ASTERISK",
    "SNOWFLAKE,TIGHT TRIFOLIATE SNOWFLAKE,HEAVY CHEVRON SNOWFLAKE,SPARKLE,HEAVY SPARKLE",
    "BALLOON-SPOKED ASTERISK"]⟩,
  ⟨0x274A, ["* TEARDROP-SPOKED PROPELLER ASTERISK,EIGHT,HEAVY EIGHT"]⟩,
  ⟨0x274C, ["*,CROSS MARK,SHADOWED WHITE CIRCLE,NEGATIVE SQUARED CROSS MARK"]⟩,
  ⟨0x274F, ["* RIGHT DROP-SHADOWED WHITE SQUARE,LOWER,UPPER"]⟩,
  ⟨0x2751, ["* RIGHT SHADOWED WHITE SQUARE,LOWER,UPPER"]⟩,
  ⟨0x2753, ["* MARK ORNAMENT,BLACK QUESTION,WHITE QUESTION,WHITE EXCLAMATION"]⟩,
  ⟨0x2756, ["*,BLACK DIAMOND MINUS WHITE X,HEAVY EXCLAMATION MARK SYMBOL"]⟩,
  ⟨0x2758, ["* VERTICAL BAR,LIGHT,MEDIUM,HEAVY"]⟩,
  ⟨0x275B, ["HEAVY * COMMA QUOTATION MARK ORNAMENT,SINGLE TURNED,SINGLE,DOUBLE TURNED,DOUBLE",
    "LOW SINGLE,LOW DOUBLE"]⟩,
  ⟨0x2761, ["* ORNAMENT,CURVED STEM PARAGRAPH SIGN,HEAVY EXCLAMATION MARK",
    "HEAVY HEART EXCLAMATION MARK"]⟩,
  ⟨0x2764, ["*,HEAVY BLACK HEART,ROTATED HEAVY BLACK HEART BULLET,FLORAL HEART",
    "ROTATED FLORAL HEART BULLET"]⟩,
  ⟨0x2768, ["MEDIUM * PARENTHESIS ORNAMENT,LEFT,RIGHT,FLATTENED LEFT,FLATTENED RIGHT"]⟩,
  ⟨0x276C, ["MEDIUM * ANGLE BRACKET ORNAMENT,LEFT-POINTING,RIGHT-POINTING"]⟩,
  ⟨0x276E, ["HEAVY * ANGLE QUOTATION MARK ORNAMENT,LEFT-POINTING,RIGHT-POINTING"]⟩,
  ⟨0x2770, ["* BRACKET ORNAMENT,HEAVY LEFT-POINTING ANGLE,HEAVY RIGHT-POINTING ANGLE",
    "LIGHT LEFT TORTOISE SHELL,LIGHT RIGHT TORTOISE SHELL,MEDIUM LEFT CURLY,MEDIUM RIGHT CURLY"]⟩,
  ⟨0x2776, ["DINGBAT NEGATIVE CIRCLED DIGIT *,ONE,TWO,THREE,FOUR,FIVE,SIX,SEVEN,EIGHT,NINE"]⟩,
  ⟨0x277F, ["DINGBAT NEGATIVE CIRCLED NUMBER TEN"]⟩,
  ⟨0x2780, ["DINGBAT CIRCLED SANS-SERIF DIGIT *,ONE,TWO,THREE,FOUR,FIVE,SIX,SEVEN,EIGHT,NINE"]⟩,
  ⟨0x2789, ["DINGBAT CIRCLED SANS-SERIF NUMBER TEN"]⟩,
  ⟨0x278A, ["DINGBAT NEGATIVE CIRCLED SANS-SERIF *,DIGIT ONE,DIGIT TWO,DIGIT THREE,DIGIT FOUR",
    "DIGIT FIVE,DIGIT SIX,DIGIT SEVEN,DIGIT EIGHT,DIGIT NINE,NUMBER TEN"]⟩,
  ⟨0x2794, ["HEAVY *,WIDE-HEADED RIGHTWARDS ARROW,PLUS SIGN,MINUS SIGN,DIVISION SIGN",
    "SOUTH EAST ARROW,RIGHTWARDS ARROW,NORTH EAST ARROW"]⟩,
  ⟨0x279B, ["* RIGHTWARDS ARROW,DRAFTING POINT,HEAVY ROUND-TIPPED,TRIANGLE-HEADED",
    "HEAVY TRIANGLE-HEADED,DASHED TRIANGLE-HEADED,HEAVY DASHED TRIANGLE-HEADED,BLACK"]⟩,
  ⟨0x27A2, ["* RIGHTWARDS ARROWHEAD,THREE-D TOP-LIGHTED,THREE-D BOTTOM-LIGHTED,BLACK"]⟩,
  ⟨0x27A5, ["* RIGHTWARDS ARROW,HEAVY BLACK CURVED DOWNWARDS AND,HEAVY BLACK CURVED UPWARDS AND",
    "SQUAT BLACK,HEAVY CONCAVE-POINTED BLACK,RIGHT-SHADED WHITE,LEFT-SHADED WHITE",
    "BACK-TILTED SHADOWED WHITE,FRONT-TILTED SHADOWED WHITE"]⟩,
  ⟨0x27AD, ["* RIGHT-SHADOWED WHITE RIGHTWARDS ARROW,HEAVY LOWER,HEAVY UPPER,NOTCHED LOWER"]⟩,
  ⟨0x27B0, ["CURLY LOOP"]⟩,
  ⟨0x27B1, ["* RIGHTWARDS ARROW,NOTCHED UPPER RIGHT-SHADOWED WHITE,CIRCLED HEAVY WHITE",
    "WHITE-FEATHERED"]⟩, ⟨0x27B4, ["BLACK-FEATHERED * ARROW,SOUTH EAST,RIGHTWARDS,NORTH EAST"]⟩,
  ⟨0x27B7, ["HEAVY BLACK-FEATHERED * ARROW,SOUTH EAST,RIGHTWARDS,NORTH EAST"]⟩,
  ⟨0x27BA, ["* RIGHTWARDS ARROW,TEARDROP-BARBED,HEAVY TEARDROP-SHANKED,WEDGE-TAILED",
    "HEAVY WEDGE-TAILED,OPEN-OUTLINED"]⟩,
  ⟨0x27BF, ["*,DOUBLE CURLY LOOP,THREE DIMENSIONAL ANGLE",
    "WHITE TRIANGLE CONTAINING SMALL WHITE TRIANGLE,PERPENDICULAR,OPEN SUBSET,OPEN SUPERSET",
    "LEFT S-SHAPED BAG DELIMITER,RIGHT S-SHAPED BAG DELIMITER,OR WITH DOT INSIDE",
    "REVERSE SOLIDUS PRECEDING SUBSET,SUPERSET PRECEDING SOLIDUS",
    "VERTICAL BAR WITH HORIZONTAL STROKE,MATHEMATICAL RISING DIAGONAL,LONG DIVISION",
    "MATHEMATICAL FALLING DIAGONAL,SQUARED LOGICAL AND,SQUARED LOGICAL OR",
    "WHITE DIAMOND WITH CENTRED DOT,AND WITH DOT,ELEMENT OF OPENING UPWARDS",
    "LOWER RIGHT CORNER WITH DOT,UPPER LEFT CORNER WITH DOT,LEFT OUTER JOIN,RIGHT OUTER JOIN",
    "FULL OUTER JOIN,LARGE UP TACK,LARGE DOWN TACK,LEFT AND RIGHT DOUBLE TURNSTILE",
    "LEFT AND RIGHT TACK,LEFT MULTIMAP,LONG RIGHT TACK,LONG LEFT TACK,UP TACK WITH CIRCLE ABOVE",
    "LOZENGE DIVIDED BY HORIZONTAL RULE"]⟩,
  ⟨0x27E1, ["WHITE CONCAVE-SIDED *,DIAMOND,DIAMOND WITH LEFTWARDS TICK",
    "DIAMOND WITH RIGHTWARDS TICK"]⟩, ⟨0x27E4, ["WHITE SQUARE WITH * TICK,LEFTWARDS,RIGHTWARDS"]⟩,
  ⟨0x27E6, ["MATHEMATICAL * BRACKET,LEFT WHITE SQUARE,RIGHT WHITE SQUARE,LEFT ANGLE,RIGHT ANGLE",
    "LEFT DOUBLE ANGLE,RIGHT DOUBLE ANGLE,LEFT WHITE TORTOISE SHELL,RIGHT WHITE TORTOISE SHELL"]⟩,
  ⟨0x27EE, ["MATHEMATICAL * FLATTENED PARENTHESIS,LEFT,RIGHT"]⟩,
  ⟨0x27F0, ["* QUADRUPLE ARROW,UPWARDS,DOWNWARDS"]⟩,
  ⟨0x27F2, ["* GAPPED CIRCLE ARROW,ANTICLOCKWISE,CLOCKWISE"]⟩,
  ⟨0x27F4, ["RIGHT ARROW WITH CIRCLED PLUS"]⟩,
  ⟨0x27F5, ["LONG * ARROW,LEFTWARDS,RIGHTWARDS,LEFT RIGHT,LEFTWARDS DOUBLE,RIGHTWARDS DOUBLE",
    "LEFT RIGHT DOUBLE"]⟩,
  ⟨0x27FB, ["LONG * ARROW FROM BAR,LEFTWARDS,RIGHTWARDS,LEFTWARDS DOUBLE,RIGHTWARDS DOUBLE"]⟩,
  ⟨0x27FF, ["*,LONG RIGHTWARDS SQUIGGLE ARROW,BRAILLE PATTERN BLANK"]⟩,
  ⟨0x2801, ["BRAILLE PATTERN DOTS-*,1,2,12,3,13,23,123,4,14,24,124,34,134,234,1234,5,15,25,125,35",
    "135,235,1235,45,145,245,1245,345,1345,2345,12345,6,16,26,126,36,136,236,1236,46,146,246,1246",
    "346,1346,2346,12346,56,156,256,1256,356,1356,2356,12356,456,1456,2456,12456,3456,13456,23456",
    "123456,7,17,27,127,37,137,237,1237,47,147,247,1247,347,1347,2347,12347,57,157,257,1257,357",
    "1357,2357,12357,457,1457,2457,12457,3457,13457,23457,123457,67,167,267,1267,367,1367,2367",
    "12367,467,1467,2467,12467,3467,13467,23467,123467,567,1567,2567,12567,3567,13567,23567,123567",
    "4567,14567,24567,124567,34567,134567,234567,1234567,8,18,28,128,38,138,238,1238,48,148,248",
    "1248,348,1348,2348,12348,58,158,258,1258,358,1358,2358,12358,458,1458,2458,12458,3458,13458",
    "23458,123458,68,168,268,1268,368,1368,2368,12368,468,1468,2468,12468,3468,13468,23468,123468",
    "568,1568,2568,12568,3568,13568,23568,123568,4568,14568,24568,124568,34568,134568,234568",
    "1234568,78,178,278,1278,378,1378,2378,12378,478,1478,2478,12478,3478,13478,23478,123478,578",
    "1578,2578,12578,3578,13578,23578,123578,4578,14578,24578,124578,34578,134578,234578,1234578",
    "678,1678,2678,12678,3678,13678,23678,123678,4678,14678,24678,124678,34678,134678,234678",
    "1234678,5678,15678,25678,125678,35678,135678,235678,1235678,45678,145678,245678,1245678",
    "345678,1345678,2345678,12345678"]⟩,
  ⟨0x2900, ["RIGHTWARDS TWO-HEADED ARROW WITH *,VERTICAL STROKE,DOUBLE VERTICAL STROKE"]⟩,
  ⟨0x2902, ["* DOUBLE ARROW WITH VERTICAL STROKE,LEFTWARDS,RIGHTWARDS,LEFT RIGHT"]⟩,
  ⟨0x2905, ["* ARROW FROM BAR,RIGHTWARDS TWO-HEADED,LEFTWARDS DOUBLE,RIGHTWARDS DOUBLE"]⟩,
  ⟨0x2908, ["* ARROW WITH HORIZONTAL STROKE,DOWNWARDS,UPWARDS"]⟩,
  ⟨0x290A, ["* ARROW,UPWARDS TRIPLE,DOWNWARDS TRIPLE,LEFTWARDS DOUBLE DASH,RIGHTWARDS DOUBLE DASH",
    "LEFTWARDS TRIPLE DASH"]⟩,
  ⟨0x290F, ["RIGHTWARDS *,TRIPLE DASH ARROW,TWO-HEADED TRIPLE DASH ARROW,ARROW WITH DOTTED STEM"]⟩,
  ⟨0x2912, ["* ARROW TO BAR,UPWARDS,DOWNWARDS"]⟩,
  ⟨0x2914, ["RIGHTWARDS ARROW WITH TAIL WITH *,VERTICAL STROKE,DOUBLE VERTICAL STROKE"]⟩,
  ⟨0x2916, ["RIGHTWARDS TWO-HEADED ARROW WITH *,TAIL,TAIL WITH VERTICAL STROKE",
    "TAIL WITH DOUBLE VERTICAL STROKE"]⟩,
  ⟨0x2919, ["* ARROW-TAIL,LEFTWARDS,RIGHTWARDS,LEFTWARDS DOUBLE,RIGHTWARDS DOUBLE"]⟩,
  ⟨0x291D, ["* TO BLACK DIAMOND,LEFTWARDS ARROW,RIGHTWARDS ARROW,LEFTWARDS ARROW FROM BAR",
    "RIGHTWARDS ARROW FROM BAR"]⟩,
  ⟨0x2921, ["NORTH * ARROW,WEST AND SOUTH EAST,EAST AND SOUTH WEST"]⟩,
  ⟨0x2923, ["* ARROW WITH HOOK,NORTH WEST,NORTH EAST,SOUTH EAST,SOUTH WEST"]⟩,
  ⟨0x2927, ["* ARROW,NORTH WEST ARROW AND NORTH EAST,NORTH EAST ARROW AND SOUTH EAST",
    "SOUTH EAST ARROW AND SOUTH WEST,SOUTH WEST ARROW AND NORTH WEST"]⟩,
  ⟨0x292B, ["* DIAGONAL,RISING DIAGONAL CROSSING FALLING,FALLING DIAGONAL CROSSING RISING"]⟩,
  ⟨0x292D, ["* EAST ARROW,SOUTH EAST ARROW CROSSING NORTH,NORTH EAST ARROW CROSSING SOUTH",
    "FALLING DIAGONAL CROSSING NORTH,RISING DIAGONAL CROSSING SOUTH"]⟩,
  ⟨0x2931, ["*,NORTH EAST ARROW CROSSING NORTH WEST ARROW",
    "NORTH WEST ARROW CROSSING NORTH EAST ARROW,WAVE ARROW POINTING DIRECTLY RIGHT"]⟩,
  ⟨0x2934, ["ARROW POINTING RIGHTWARDS THEN CURVING *,UPWARDS,DOWNWARDS"]⟩,
  ⟨0x2936, ["ARROW POINTING DOWNWARDS THEN CURVING *,LEFTWARDS,RIGHTWARDS"]⟩,
  ⟨0x2938, ["RIGHT-SIDE ARC CLOCKWISE ARROW"]⟩,
  ⟨0x2939, ["* ARC ANTICLOCKWISE ARROW,LEFT-SIDE,TOP,BOTTOM"]⟩,
  ⟨0x293C, ["TOP ARC *,CLOCKWISE ARROW WITH MINUS,ANTICLOCKWISE ARROW WITH PLUS"]⟩,
  ⟨0x293E, ["* ARROW,LOWER RIGHT SEMICIRCULAR CLOCKWISE,LOWER LEFT SEMICIRCULAR ANTICLOCKWISE",
    "ANTICLOCKWISE CLOSED CIRCLE,CLOCKWISE CLOSED CIRCLE,RIGHTWARDS ARROW ABOVE SHORT LEFTWARDS",
    "LEFTWARDS ARROW ABOVE SHORT RIGHTWARDS,SHORT RIGHTWARDS ARROW ABOVE LEFTWARDS"]⟩,
  ⟨0x2945, ["* ARROW WITH PLUS BELOW,RIGHTWARDS,LEFTWARDS"]⟩,
  ⟨0x2947, ["*,RIGHTWARDS ARROW THROUGH X,LEFT RIGHT ARROW THROUGH SMALL CIRCLE",
    "UPWARDS TWO-HEADED ARROW FROM SMALL CIRCLE"]⟩,
  ⟨0x294A, ["* HARPOON,LEFT BARB UP RIGHT BARB DOWN,LEFT BARB DOWN RIGHT BARB UP",
    "UP BARB RIGHT DOWN BARB LEFT,UP BARB LEFT DOWN BARB RIGHT,LEFT BARB UP RIGHT BARB UP",
    "UP BARB RIGHT DOWN BARB RIGHT,LEFT BARB DOWN RIGHT BARB DOWN,UP BARB LEFT DOWN BARB LEFT"]⟩,
  ⟨0x2952, ["* HARPOON WITH BARB UP TO BAR,LEFTWARDS,RIGHTWARDS"]⟩,
  ⟨0x2954, ["* HARPOON WITH BARB RIGHT TO BAR,UPWARDS,DOWNWARDS"]⟩,
  ⟨0x2956, ["* HARPOON WITH BARB DOWN TO BAR,LEFTWARDS,RIGHTWARDS"]⟩,
  ⟨0x2958, ["* HARPOON WITH BARB LEFT TO BAR,UPWARDS,DOWNWARDS"]⟩,
  ⟨0x295A, ["* HARPOON WITH BARB UP FROM BAR,LEFTWARDS,RIGHTWARDS"]⟩,
  ⟨0x295C, ["* HARPOON WITH BARB RIGHT FROM BAR,UPWARDS,DOWNWARDS"]⟩,
  ⟨0x295E, ["* HARPOON WITH BARB DOWN FROM BAR,LEFTWARDS,RIGHTWARDS"]⟩,
  ⟨0x2960, ["* HARPOON WITH BARB LEFT FROM BAR,UPWARDS,DOWNWARDS"]⟩,
  ⟨0x2962, ["*,LEFTWARDS HARPOON WITH BARB UP ABOVE LEFTWARDS HARPOON WITH BARB DOWN",
    "UPWARDS HARPOON WITH BARB LEFT BESIDE UPWARDS HARPOON WITH BARB RIGHT",
    "RIGHTWARDS HARPOON WITH BARB UP ABOVE RIGHTWARDS HARPOON WITH BARB DOWN",
    "DOWNWARDS HARPOON WITH BARB LEFT BESIDE DOWNWARDS HARPOON WITH BARB RIGHT"]⟩,
  ⟨0x2966, ["LEFTWARDS HARPOON WITH BARB *,UP ABOVE RIGHTWARDS HARPOON WITH BARB UP",
    "DOWN ABOVE RIGHTWARDS HARPOON WITH BARB DOWN"]⟩,
  ⟨0x2968, ["RIGHTWARDS HARPOON WITH BARB *,UP ABOVE LEFTWARDS HARPOON WITH BARB UP",
    "DOWN ABOVE LEFTWARDS HARPOON WITH BARB DOWN"]⟩,
  ⟨0x296A, ["LEFTWARDS HARPOON WITH BARB * LONG DASH,UP ABOVE,DOWN BELOW"]⟩,
  ⟨0x296C, ["RIGHTWARDS HARPOON WITH BARB * LONG DASH,UP ABOVE,DOWN BELOW"]⟩,
  ⟨0x296E, ["* HARPOON WITH BARB RIGHT,UPWARDS HARPOON WITH BARB LEFT BESIDE DOWNWARDS",
    "DOWNWARDS HARPOON WITH BARB LEFT BESIDE UPWARDS"]⟩,
  ⟨0x2970, ["RIGHT DOUBLE ARROW WITH ROUNDED HEAD"]⟩,
  ⟨0x2971, ["* ABOVE RIGHTWARDS ARROW,EQUALS SIGN,TILDE OPERATOR"]⟩,
  ⟨0x2973, ["* ARROW ABOVE TILDE OPERATOR,LEFTWARDS,RIGHTWARDS"]⟩,
  ⟨0x2975, ["*,RIGHTWARDS ARROW ABOVE ALMOST EQUAL TO,LESS-THAN ABOVE LEFTWARDS ARROW",
    "LEFTWARDS ARROW THROUGH LESS-THAN,GREATER-THAN ABOVE RIGHTWARDS ARROW",
    "SUBSET ABOVE RIGHTWARDS ARROW,LEFTWARDS ARROW THROUGH SUBSET,SUPERSET ABOVE LEFTWARDS ARROW",
    "LEFT FISH TAIL,RIGHT FISH TAIL,UP FISH TAIL,DOWN FISH TAIL,TRIPLE VERTICAL BAR DELIMITER",
    "Z NOTATION SPOT,Z NOTATION TYPE COLON"]⟩, ⟨0x2983, ["* WHITE CURLY BRACKET,LEFT,RIGHT"]⟩,
  ⟨0x2985, ["* WHITE PARENTHESIS,LEFT,RIGHT"]⟩,
  ⟨0x2987, ["Z NOTATION * BRACKET,LEFT IMAGE,RIGHT IMAGE,LEFT BINDING,RIGHT BINDING"]⟩,
  ⟨0x298B, ["* SQUARE BRACKET WITH UNDERBAR,LEFT,RIGHT"]⟩,
  ⟨0x298D, ["* CORNER,LEFT SQUARE BRACKET WITH TICK IN TOP",
    "RIGHT SQUARE BRACKET WITH TICK IN BOTTOM,LEFT SQUARE BRACKET WITH TICK IN BOTTOM",
    "RIGHT SQUARE BRACKET WITH TICK IN TOP"]⟩, ⟨0x2991, ["* ANGLE BRACKET WITH DOT,LEFT,RIGHT"]⟩,
  ⟨0x2993, ["* BRACKET,LEFT ARC LESS-THAN,RIGHT ARC GREATER-THAN,DOUBLE LEFT ARC GREATER-THAN",
    "DOUBLE RIGHT ARC LESS-THAN,LEFT BLACK TORTOISE SHELL,RIGHT BLACK TORTOISE SHELL"]⟩,
  ⟨0x2999, ["*,DOTTED FENCE,VERTICAL ZIGZAG LINE,MEASURED ANGLE OPENING LEFT",
    "RIGHT ANGLE VARIANT WITH SQUARE,MEASURED RIGHT ANGLE WITH DOT,ANGLE WITH S INSIDE,ACUTE ANGLE",
    "SPHERICAL ANGLE OPENING LEFT,SPHERICAL ANGLE OPENING UP,TURNED ANGLE,REVERSED ANGLE",
    "ANGLE WITH UNDERBAR,REVERSED ANGLE WITH UNDERBAR"]⟩,
  ⟨0x29A6, ["OBLIQUE ANGLE OPENING *,UP,DOWN"]⟩,
  ⟨0x29A8, ["MEASURED ANGLE WITH OPEN ARM ENDING IN ARROW POINTING *,UP AND RIGHT,UP AND LEFT",
    "DOWN AND RIGHT,DOWN AND LEFT,RIGHT AND UP,LEFT AND UP,RIGHT AND DOWN,LEFT AND DOWN"]⟩,
  ⟨0x29B0, ["REVERSED EMPTY SET"]⟩,
  ⟨0x29B1, ["EMPTY SET WITH *,OVERBAR,SMALL CIRCLE ABOVE,RIGHT ARROW ABOVE,LEFT ARROW ABOVE"]⟩,
  ⟨0x29B5, ["*,CIRCLE WITH HORIZONTAL BAR,CIRCLED VERTICAL BAR,CIRCLED PARALLEL",
    "CIRCLED REVERSE SOLIDUS,CIRCLED PERPENDICULAR",
    "CIRCLE DIVIDED BY HORIZONTAL BAR AND TOP HALF DIVIDED BY VERTICAL BAR",
    "CIRCLE WITH SUPERIMPOSED X,CIRCLED ANTICLOCKWISE-ROTATED DIVISION SIGN",
    "UP ARROW THROUGH CIRCLE"]⟩, ⟨0x29BE, ["CIRCLED *,WHITE BULLET,BULLET,LESS-THAN,GREATER-THAN"]⟩,
  ⟨0x29C2, ["CIRCLE WITH * TO THE RIGHT,SMALL CIRCLE,TWO HORIZONTAL STROKES"]⟩,
  ⟨0x29C4, ["SQUARED *,RISING DIAGONAL SLASH,FALLING DIAGONAL SLASH,ASTERISK,SMALL CIRCLE,SQUARE"]⟩,
  ⟨0x29C9, ["*,TWO JOINED SQUARES,TRIANGLE WITH DOT ABOVE,TRIANGLE WITH UNDERBAR,S IN TRIANGLE",
    "TRIANGLE WITH SERIFS AT BOTTOM,RIGHT TRIANGLE ABOVE LEFT TRIANGLE",
    "LEFT TRIANGLE BESIDE VERTICAL BAR,VERTICAL BAR BESIDE RIGHT TRIANGLE",
    "BOWTIE WITH LEFT HALF BLACK,BOWTIE WITH RIGHT HALF BLACK,BLACK BOWTIE",
    "TIMES WITH LEFT HALF BLACK,TIMES WITH RIGHT HALF BLACK,WHITE HOURGLASS,BLACK HOURGLASS"]⟩,
  ⟨0x29D8, ["* WIGGLY FENCE,LEFT,RIGHT,LEFT DOUBLE,RIGHT DOUBLE"]⟩,
  ⟨0x29DC, ["*,INCOMPLETE INFINITY,TIE OVER INFINITY,INFINITY NEGATED WITH VERTICAL BAR",
    "DOUBLE-ENDED MULTIMAP,SQUARE WITH CONTOURED OUTLINE,INCREASES AS,SHUFFLE PRODUCT",
    "EQUALS SIGN AND SLANTED PARALLEL,EQUALS SIGN AND SLANTED PARALLEL WITH TILDE ABOVE",
    "IDENTICAL TO AND SLANTED PARALLEL,GLEICH STARK,THERMODYNAMIC"]⟩,
  ⟨0x29E8, ["DOWN-POINTING TRIANGLE WITH * HALF BLACK,LEFT,RIGHT"]⟩,
  ⟨0x29EA, ["BLACK *,DIAMOND WITH DOWN ARROW,LOZENGE"]⟩,
  ⟨0x29EC, ["* CIRCLE WITH DOWN ARROW,WHITE,BLACK"]⟩,
  ⟨0x29EE, ["ERROR-BARRED *,WHITE SQUARE,BLACK SQUARE,WHITE DIAMOND,BLACK DIAMOND,WHITE CIRCLE",
    "BLACK CIRCLE"]⟩,
  ⟨0x29F4, ["*,RULE-DELAYED,REVERSE SOLIDUS OPERATOR,SOLIDUS WITH OVERBAR",
    "REVERSE SOLIDUS WITH HORIZONTAL STROKE,BIG SOLIDUS,BIG REVERSE SOLIDUS,DOUBLE PLUS",
    "TRIPLE PLUS,LEFT-POINTING CURVED ANGLE BRACKET,RIGHT-POINTING CURVED ANGLE BRACKET,TINY",
    "MINY"]⟩, ⟨0x2A00, ["N-ARY CIRCLED * OPERATOR,DOT,PLUS,TIMES"]⟩,
  ⟨0x2A03, ["N-ARY UNION OPERATOR WITH *,DOT,PLUS"]⟩,
  ⟨0x2A05, ["* OPERATOR,N-ARY SQUARE INTERSECTION,N-ARY SQUARE UNION,TWO LOGICAL AND",
    "TWO LOGICAL OR,N-ARY TIMES"]⟩,
  ⟨0x2A0A, ["*,MODULO TWO SUM,SUMMATION WITH INTEGRAL,QUADRUPLE INTEGRAL OPERATOR",
    "FINITE PART INTEGRAL,INTEGRAL WITH DOUBLE STROKE,INTEGRAL AVERAGE WITH SLASH",
    "CIRCULATION FUNCTION,ANTICLOCKWISE INTEGRATION"]⟩,
  ⟨0x2A12, ["LINE INTEGRATION * POLE,WITH RECTANGULAR PATH AROUND,WITH SEMICIRCULAR PATH AROUND",
    "NOT INCLUDING THE"]⟩, ⟨0x2A15, ["* OPERATOR,INTEGRAL AROUND A POINT,QUATERNION INTEGRAL"]⟩,
  ⟨0x2A17, ["INTEGRAL WITH *,LEFTWARDS ARROW WITH HOOK,TIMES SIGN,INTERSECTION,UNION,OVERBAR",
    "UNDERBAR"]⟩, ⟨0x2A1D, ["*,JOIN,LARGE LEFT TRIANGLE OPERATOR"]⟩,
  ⟨0x2A1F, ["Z NOTATION SCHEMA *,COMPOSITION,PIPING,PROJECTION"]⟩,
  ⟨0x2A22, ["PLUS SIGN WITH *,SMALL CIRCLE ABOVE,CIRCUMFLEX ACCENT ABOVE,TILDE ABOVE,DOT BELOW",
    "TILDE BELOW,SUBSCRIPT TWO,BLACK TRIANGLE"]⟩,
  ⟨0x2A29, ["MINUS SIGN WITH *,COMMA ABOVE,DOT BELOW,FALLING DOTS,RISING DOTS"]⟩,
  ⟨0x2A2D, ["PLUS SIGN IN * HALF CIRCLE,LEFT,RIGHT"]⟩,
  ⟨0x2A2F, ["*,VECTOR OR CROSS PRODUCT,MULTIPLICATION SIGN WITH DOT ABOVE",
    "MULTIPLICATION SIGN WITH UNDERBAR,SEMIDIRECT PRODUCT WITH BOTTOM CLOSED,SMASH PRODUCT"]⟩,
  ⟨0x2A34, ["MULTIPLICATION SIGN IN * HALF CIRCLE,LEFT,RIGHT"]⟩,
  ⟨0x2A36, ["*,CIRCLED MULTIPLICATION SIGN WITH CIRCUMFLEX ACCENT",
    "MULTIPLICATION SIGN IN DOUBLE CIRCLE,CIRCLED DIVISION SIGN"]⟩,
  ⟨0x2A39, ["* SIGN IN TRIANGLE,PLUS,MINUS,MULTIPLICATION"]⟩,
  ⟨0x2A3C, ["*,INTERIOR PRODUCT,RIGHTHAND INTERIOR PRODUCT,Z NOTATION RELATIONAL COMPOSITION",
    "AMALGAMATION OR COPRODUCT,INTERSECTION WITH DOT,UNION WITH MINUS SIGN,UNION WITH OVERBAR",
    "INTERSECTION WITH OVERBAR,INTERSECTION WITH LOGICAL AND,UNION WITH LOGICAL OR",
    "UNION ABOVE INTERSECTION,INTERSECTION ABOVE UNION,UNION ABOVE BAR ABOVE INTERSECTION",
    "INTERSECTION ABOVE BAR ABOVE UNION,UNION BESIDE AND JOINED WITH UNION",
    "INTERSECTION BESIDE AND JOINED WITH INTERSECTION,CLOSED UNION WITH SERIFS",
    "CLOSED INTERSECTION WITH SERIFS,DOUBLE SQUARE INTERSECTION,DOUBLE SQUARE UNION",
    "CLOSED UNION WITH SERIFS AND SMASH PRODUCT"]⟩, ⟨0x2A51, ["LOGICAL * WITH DOT ABOVE,AND,OR"]⟩,
  ⟨0x2A53, ["DOUBLE LOGICAL *,AND,OR"]⟩, ⟨0x2A55, ["TWO INTERSECTING LOGICAL *,AND,OR"]⟩,
  ⟨0x2A57, ["SLOPING LARGE *,OR,AND"]⟩,
  ⟨0x2A59, ["LOGICAL *,OR OVERLAPPING LOGICAL AND,AND WITH MIDDLE STEM,OR WITH MIDDLE STEM",
    "AND WITH HORIZONTAL DASH,OR WITH HORIZONTAL DASH,AND WITH DOUBLE OVERBAR"]⟩,
  ⟨0x2A5F, ["* UNDERBAR,LOGICAL AND WITH,LOGICAL AND WITH DOUBLE,SMALL VEE WITH"]⟩,
  ⟨0x2A62, ["LOGICAL OR WITH DOUBLE *,OVERBAR,UNDERBAR"]⟩,
  ⟨0x2A64, ["Z NOTATION * ANTIRESTRICTION,DOMAIN,RANGE"]⟩,
  ⟨0x2A66, ["*,EQUALS SIGN WITH DOT BELOW,IDENTICAL WITH DOT ABOVE"]⟩,
  ⟨0x2A68, ["TRIPLE HORIZONTAL BAR WITH * VERTICAL STROKE,DOUBLE,TRIPLE"]⟩,
  ⟨0x2A6A, ["TILDE OPERATOR WITH *,DOT ABOVE,RISING DOTS"]⟩,
  ⟨0x2A6C, ["*,SIMILAR MINUS SIMILAR,CONGRUENT WITH DOT ABOVE,EQUALS WITH ASTERISK",
    "ALMOST EQUAL TO WITH CIRCUMFLEX ACCENT,APPROXIMATELY EQUAL OR EQUAL TO",
    "EQUALS SIGN ABOVE PLUS SIGN,PLUS SIGN ABOVE EQUALS SIGN,EQUALS SIGN ABOVE TILDE OPERATOR",
    "DOUBLE COLON EQUAL,TWO CONSECUTIVE EQUALS SIGNS,THREE CONSECUTIVE EQUALS SIGNS",
    "EQUALS SIGN WITH TWO DOTS ABOVE AND TWO DOTS BELOW,EQUIVALENT WITH FOUR DOTS ABOVE"]⟩,
  ⟨0x2A79, ["* WITH CIRCLE INSIDE,LESS-THAN,GREATER-THAN"]⟩,
  ⟨0x2A7B, ["* WITH QUESTION MARK ABOVE,LESS-THAN,GREATER-THAN"]⟩,
  ⟨0x2A7D, ["* OR SLANTED EQUAL TO,LESS-THAN,GREATER-THAN"]⟩,
  ⟨0x2A7F, ["* OR SLANTED EQUAL TO WITH DOT INSIDE,LESS-THAN,GREATER-THAN"]⟩,
  ⟨0x2A81, ["* OR SLANTED EQUAL TO WITH DOT ABOVE,LESS-THAN,GREATER-THAN"]⟩,
  ⟨0x2A83, ["*,LESS-THAN OR SLANTED EQUAL TO WITH DOT ABOVE RIGHT",
    "GREATER-THAN OR SLANTED EQUAL TO WITH DOT ABOVE LEFT,LESS-THAN OR APPROXIMATE",
    "GREATER-THAN OR APPROXIMATE"]⟩,
  ⟨0x2A87, ["* AND SINGLE-LINE NOT EQUAL TO,LESS-THAN,GREATER-THAN"]⟩,
  ⟨0x2A89, ["* AND NOT APPROXIMATE,LESS-THAN,GREATER-THAN"]⟩,
  ⟨0x2A8B, ["*,LESS-THAN ABOVE DOUBLE-LINE EQUAL ABOVE GREATER-THAN",
    "GREATER-THAN ABOVE DOUBLE-LINE EQUAL ABOVE LESS-THAN,LESS-THAN ABOVE SIMILAR OR EQUAL",
    "GREATER-THAN ABOVE SIMILAR OR EQUAL,LESS-THAN ABOVE SIMILAR ABOVE GREATER-THAN",
    "GREATER-THAN ABOVE SIMILAR ABOVE LESS-THAN"]⟩,
  ⟨0x2A91, ["* ABOVE DOUBLE-LINE EQUAL,LESS-THAN ABOVE GREATER-THAN,GREATER-THAN ABOVE LESS-THAN"]⟩,
  ⟨0x2A93, ["* ABOVE SLANTED EQUAL,LESS-THAN ABOVE SLANTED EQUAL ABOVE GREATER-THAN",
    "GREATER-THAN ABOVE SLANTED EQUAL ABOVE LESS-THAN"]⟩,
  ⟨0x2A95, ["SLANTED EQUAL TO OR *,LESS-THAN,GREATER-THAN,LESS-THAN WITH DOT INSIDE",
    "GREATER-THAN WITH DOT INSIDE"]⟩,
  ⟨0x2A99, ["DOUBLE-LINE EQUAL TO OR *,LESS-THAN,GREATER-THAN"]⟩,
  ⟨0x2A9B, ["DOUBLE-LINE SLANTED EQUAL TO OR *,LESS-THAN,GREATER-THAN"]⟩,
  ⟨0x2A9D, ["SIMILAR OR *,LESS-THAN,GREATER-THAN"]⟩,
  ⟨0x2A9F, ["SIMILAR ABOVE * ABOVE EQUALS SIGN,LESS-THAN,GREATER-THAN"]⟩,
  ⟨0x2AA1, ["DOUBLE NESTED *,LESS-THAN,GREATER-THAN,LESS-THAN WITH UNDERBAR"]⟩,
  ⟨0x2AA4, ["GREATER-THAN * LESS-THAN,OVERLAPPING,BESIDE"]⟩,
  ⟨0x2AA6, ["* CLOSED BY CURVE,LESS-THAN,GREATER-THAN"]⟩,
  ⟨0x2AA8, ["* CLOSED BY CURVE ABOVE SLANTED EQUAL,LESS-THAN,GREATER-THAN"]⟩,
  ⟨0x2AAA, ["*,SMALLER THAN,LARGER THAN,SMALLER THAN OR EQUAL TO,LARGER THAN OR EQUAL TO",
    "EQUALS SIGN WITH BUMPY ABOVE"]⟩,
  ⟨0x2AAF, ["* ABOVE SINGLE-LINE EQUALS SIGN,PRECEDES,SUCCEEDS"]⟩,
  ⟨0x2AB1, ["* ABOVE SINGLE-LINE NOT EQUAL TO,PRECEDES,SUCCEEDS"]⟩,
  ⟨0x2AB3, ["* ABOVE EQUALS SIGN,PRECEDES,SUCCEEDS"]⟩,
  ⟨0x2AB5, ["* ABOVE NOT EQUAL TO,PRECEDES,SUCCEEDS"]⟩,
  ⟨0x2AB7, ["* ALMOST EQUAL TO,PRECEDES ABOVE,SUCCEEDS ABOVE,PRECEDES ABOVE NOT",
    "SUCCEEDS ABOVE NOT"]⟩,
  ⟨0x2ABB, ["*,DOUBLE PRECEDES,DOUBLE SUCCEEDS,SUBSET WITH DOT,SUPERSET WITH DOT"]⟩,
  ⟨0x2ABF, ["* WITH PLUS SIGN BELOW,SUBSET,SUPERSET"]⟩,
  ⟨0x2AC1, ["* WITH MULTIPLICATION SIGN BELOW,SUBSET,SUPERSET"]⟩,
  ⟨0x2AC3, ["* OF OR EQUAL TO WITH DOT ABOVE,SUBSET,SUPERSET"]⟩,
  ⟨0x2AC5, ["* OF ABOVE EQUALS SIGN,SUBSET,SUPERSET"]⟩,
  ⟨0x2AC7, ["* OF ABOVE TILDE OPERATOR,SUBSET,SUPERSET"]⟩,
  ⟨0x2AC9, ["* OF ABOVE ALMOST EQUAL TO,SUBSET,SUPERSET"]⟩,
  ⟨0x2ACB, ["* OF ABOVE NOT EQUAL TO,SUBSET,SUPERSET"]⟩,
  ⟨0x2ACD, ["SQUARE * OPEN BOX OPERATOR,LEFT,RIGHT"]⟩,
  ⟨0x2ACF, ["CLOSED *,SUBSET,SUPERSET,SUBSET OR EQUAL TO,SUPERSET OR EQUAL TO"]⟩,
  ⟨0x2AD3, ["*,SUBSET ABOVE SUPERSET,SUPERSET ABOVE SUBSET,SUBSET ABOVE SUBSET",
    "SUPERSET ABOVE SUPERSET,SUPERSET BESIDE SUBSET,SUPERSET BESIDE AND JOINED BY DASH WITH SUBSET",
    "ELEMENT OF OPENING DOWNWARDS,PITCHFORK WITH TEE TOP,TRANSVERSAL INTERSECTION,FORKING",
    "NONFORKING,SHORT LEFT TACK,SHORT DOWN TACK,SHORT UP TACK,PERPENDICULAR WITH S",
    "VERTICAL BAR TRIPLE RIGHT TURNSTILE,DOUBLE VERTICAL BAR LEFT TURNSTILE",
    "VERTICAL BAR DOUBLE LEFT TURNSTILE,DOUBLE VERTICAL BAR DOUBLE LEFT TURNSTILE",
    "LONG DASH FROM LEFT MEMBER OF DOUBLE VERTICAL,SHORT DOWN TACK WITH OVERBAR",
    "SHORT UP TACK WITH UNDERBAR,SHORT UP TACK ABOVE SHORT DOWN TACK,DOUBLE DOWN TACK",
    "DOUBLE UP TACK,DOUBLE STROKE NOT SIGN,REVERSED DOUBLE STROKE NOT SIGN",
    "DOES NOT DIVIDE WITH REVERSED NEGATION SLASH,VERTICAL LINE WITH CIRCLE ABOVE",
    "VERTICAL LINE WITH CIRCLE BELOW,DOWN TACK WITH CIRCLE BELOW,PARALLEL WITH HORIZONTAL STROKE",
    "PARALLEL WITH TILDE OPERATOR"]⟩,
  ⟨0x2AF4, ["TRIPLE *,VERTICAL BAR BINARY RELATION,VERTICAL BAR WITH HORIZONTAL STROKE",
    "COLON OPERATOR,NESTED LESS-THAN,NESTED GREATER-THAN"]⟩,
  ⟨0x2AF9, ["DOUBLE-LINE SLANTED * OR EQUAL TO,LESS-THAN,GREATER-THAN"]⟩,
  ⟨0x2AFB, ["*,TRIPLE SOLIDUS BINARY RELATION,LARGE TRIPLE VERTICAL BAR OPERATOR",
    "DOUBLE SOLIDUS OPERATOR,WHITE VERTICAL BAR,N-ARY WHITE VERTICAL BAR"]⟩,
  ⟨0x2B00, ["* WHITE ARROW,NORTH EAST,NORTH WEST,SOUTH EAST,SOUTH WEST,LEFT RIGHT"]⟩,
  ⟨0x2B05, ["* BLACK ARROW,LEFTWARDS,UPWARDS,DOWNWARDS,NORTH EAST,NORTH WEST,SOUTH EAST,SOUTH WEST",
    "LEFT RIGHT,UP DOWN"]⟩, ⟨0x2B0E, ["RIGHTWARDS ARROW WITH TIP *,DOWNWARDS,UPWARDS"]⟩,
  ⟨0x2B10, ["LEFTWARDS ARROW WITH TIP *,DOWNWARDS,UPWARDS"]⟩,
  ⟨0x2B12, ["SQUARE WITH * HALF BLACK,TOP,BOTTOM,UPPER RIGHT DIAGONAL,LOWER LEFT DIAGONAL"]⟩,
  ⟨0x2B16, ["DIAMOND WITH * HALF BLACK,LEFT,RIGHT,TOP,BOTTOM"]⟩,
  ⟨0x2B1A, ["* SQUARE,DOTTED,BLACK LARGE,WHITE LARGE,BLACK VERY SMALL,WHITE VERY SMALL"]⟩,
  ⟨0x2B1F, ["*,BLACK PENTAGON,WHITE PENTAGON,WHITE HEXAGON,BLACK HEXAGON,HORIZONTAL BLACK HEXAGON",
    "BLACK LARGE CIRCLE,BLACK MEDIUM DIAMOND,WHITE MEDIUM DIAMOND,BLACK MEDIUM LOZENGE",
    "WHITE MEDIUM LOZENGE,BLACK SMALL DIAMOND,BLACK SMALL LOZENGE,WHITE SMALL LOZENGE",
    "BLACK HORIZONTAL ELLIPSE,WHITE HORIZONTAL ELLIPSE,BLACK VERTICAL ELLIPSE",
    "WHITE VERTICAL ELLIPSE,LEFT ARROW WITH SMALL CIRCLE,THREE LEFTWARDS ARROWS",
    "LEFT ARROW WITH CIRCLED PLUS,LONG LEFTWARDS SQUIGGLE ARROW"]⟩,
  ⟨0x2B34, ["LEFTWARDS TWO-HEADED *,ARROW WITH VERTICAL STROKE,ARROW WITH DOUBLE VERTICAL STROKE",
    "ARROW FROM BAR,TRIPLE DASH ARROW"]⟩,
  ⟨0x2B38, ["LEFTWARDS ARROW WITH *,DOTTED STEM,TAIL WITH VERTICAL STROKE",
    "TAIL WITH DOUBLE VERTICAL STROKE"]⟩,
  ⟨0x2B3B, ["LEFTWARDS TWO-HEADED ARROW WITH *,TAIL,TAIL WITH VERTICAL STROKE",
    "TAIL WITH DOUBLE VERTICAL STROKE"]⟩,
  ⟨0x2B3E, ["*,LEFTWARDS ARROW THROUGH X,WAVE ARROW POINTING DIRECTLY LEFT",
    "EQUALS SIGN ABOVE LEFTWARDS ARROW,REVERSE TILDE OPERATOR ABOVE LEFTWARDS ARROW",
    "LEFTWARDS ARROW ABOVE REVERSE ALMOST EQUAL TO,RIGHTWARDS ARROW THROUGH GREATER-THAN",
    "RIGHTWARDS ARROW THROUGH SUPERSET,LEFTWARDS QUADRUPLE ARROW,RIGHTWARDS QUADRUPLE ARROW",
    "REVERSE TILDE OPERATOR ABOVE RIGHTWARDS ARROW,RIGHTWARDS ARROW ABOVE REVERSE ALMOST EQUAL TO",
    "TILDE OPERATOR ABOVE LEFTWARDS ARROW,LEFTWARDS ARROW ABOVE ALMOST EQUAL TO"]⟩,
  ⟨0x2B4B, ["* ARROW ABOVE REVERSE TILDE OPERATOR,LEFTWARDS,RIGHTWARDS"]⟩,
  ⟨0x2B4D, ["* ARROW,DOWNWARDS TRIANGLE-HEADED ZIGZAG,SHORT SLANTED NORTH",
    "SHORT BACKSLANTED SOUTH"]⟩, ⟨0x2B50, ["* STAR,WHITE MEDIUM,BLACK SMALL,WHITE SMALL"]⟩,
  ⟨0x2B53, ["* RIGHT-POINTING PENTAGON,BLACK,WHITE"]⟩,
  ⟨0x2B55, ["HEAVY *,LARGE CIRCLE,OVAL WITH OVAL INSIDE,CIRCLE WITH CIRCLE INSIDE,CIRCLE",
    "CIRCLED SALTIRE"]⟩,
  ⟨0x2B5A, ["*,SLANTED NORTH ARROW WITH HOOKED HEAD,BACKSLANTED SOUTH ARROW WITH HOOKED TAIL"]⟩,
  ⟨0x2B5C, ["* ARROW WITH HORIZONTAL TAIL,SLANTED NORTH,BACKSLANTED SOUTH"]⟩,
  ⟨0x2B5E, ["* ARROW POINTING DOWNWARDS THEN NORTH EAST,BENT,SHORT BENT"]⟩,
  ⟨0x2B60, ["* TRIANGLE-HEADED ARROW,LEFTWARDS,UPWARDS,RIGHTWARDS,DOWNWARDS,LEFT RIGHT,UP DOWN",
    "NORTH WEST,NORTH EAST,SOUTH EAST,SOUTH WEST"]⟩,
  ⟨0x2B6A, ["* TRIANGLE-HEADED DASHED ARROW,LEFTWARDS,UPWARDS,RIGHTWARDS,DOWNWARDS"]⟩,
  ⟨0x2B6E, ["* TRIANGLE-HEADED OPEN CIRCLE ARROW,CLOCKWISE,ANTICLOCKWISE"]⟩,
  ⟨0x2B70, ["* TRIANGLE-HEADED ARROW TO BAR,LEFTWARDS,UPWARDS,RIGHTWARDS,DOWNWARDS"]⟩,
  ⟨0x2B76, ["* TRIANGLE-HEADED ARROW TO BAR,NORTH WEST,NORTH EAST,SOUTH EAST,SOUTH WEST"]⟩,
  ⟨0x2B7A, ["* TRIANGLE-HEADED ARROW WITH DOUBLE HORIZONTAL STROKE,LEFTWARDS,UPWARDS,RIGHTWARDS",
    "DOWNWARDS"]⟩, ⟨0x2B7E, ["* TAB KEY,HORIZONTAL,VERTICAL"]⟩,
  ⟨0x2B80, ["* TRIANGLE-HEADED ARROW,LEFTWARDS TRIANGLE-HEADED ARROW OVER RIGHTWARDS",
    "UPWARDS TRIANGLE-HEADED ARROW LEFTWARDS OF DOWNWARDS",
    "RIGHTWARDS TRIANGLE-HEADED ARROW OVER LEFTWARDS",
    "DOWNWARDS TRIANGLE-HEADED ARROW LEFTWARDS OF UPWARDS"]⟩,
  ⟨0x2B84, ["* TRIANGLE-HEADED PAIRED ARROWS,LEFTWARDS,UPWARDS,RIGHTWARDS,DOWNWARDS"]⟩,
  ⟨0x2B88, ["* BLACK CIRCLED WHITE ARROW,LEFTWARDS,UPWARDS,RIGHTWARDS,DOWNWARDS"]⟩,
  ⟨0x2B8C, ["ANTICLOCKWISE TRIANGLE-HEADED * U-SHAPED ARROW,RIGHT,BOTTOM,LEFT,TOP"]⟩,
  ⟨0x2B90, ["*,RETURN LEFT,RETURN RIGHT,NEWLINE LEFT,NEWLINE RIGHT",
    "FOUR CORNER ARROWS CIRCLING ANTICLOCKWISE,RIGHTWARDS BLACK ARROW"]⟩,
  ⟨0x2B97, ["SYMBOL FOR TYPE A ELECTRONICS"]⟩,
  ⟨0x2B98, ["THREE-D * EQUILATERAL ARROWHEAD,TOP-LIGHTED LEFTWARDS,RIGHT-LIGHTED UPWARDS",
    "TOP-LIGHTED RIGHTWARDS,LEFT-LIGHTED DOWNWARDS"]⟩,
  ⟨0x2B9C, ["BLACK * EQUILATERAL ARROWHEAD,LEFTWARDS,UPWARDS,RIGHTWARDS,DOWNWARDS"]⟩,
  ⟨0x2BA0, ["DOWNWARDS TRIANGLE-HEADED ARROW WITH LONG TIP *,LEFTWARDS,RIGHTWARDS"]⟩,
  ⟨0x2BA2, ["UPWARDS TRIANGLE-HEADED ARROW WITH LONG TIP *,LEFTWARDS,RIGHTWARDS"]⟩,
  ⟨0x2BA4, ["* TRIANGLE-HEADED ARROW WITH LONG TIP UPWARDS,LEFTWARDS,RIGHTWARDS"]⟩,
  ⟨0x2BA6, ["* TRIANGLE-HEADED ARROW WITH LONG TIP DOWNWARDS,LEFTWARDS,RIGHTWARDS"]⟩,
  ⟨0x2BA8, ["BLACK CURVED * ARROW,DOWNWARDS AND LEFTWARDS,DOWNWARDS AND RIGHTWARDS",
    "UPWARDS AND LEFTWARDS,UPWARDS AND RIGHTWARDS,LEFTWARDS AND UPWARDS,RIGHTWARDS AND UPWARDS",
    "LEFTWARDS AND DOWNWARDS,RIGHTWARDS AND DOWNWARDS"]⟩,
  ⟨0x2BB0, ["RIBBON ARROW *,DOWN LEFT,DOWN RIGHT,UP LEFT,UP RIGHT,LEFT UP,RIGHT UP,LEFT DOWN",
    "RIGHT DOWN"]⟩,
  ⟨0x2BB8, ["*,UPWARDS WHITE ARROW FROM BAR WITH HORIZONTAL BAR,UP ARROWHEAD IN A RECTANGLE BOX"]⟩,
  ⟨0x2BBA, ["OVERLAPPING * SQUARES,WHITE,WHITE AND BLACK,BLACK"]⟩,
  ⟨0x2BBD, ["*,BALLOT BOX WITH LIGHT X,CIRCLED X,CIRCLED BOLD X,BLACK SQUARE CENTRED",
    "BLACK DIAMOND CENTRED,TURNED BLACK PENTAGON,HORIZONTAL BLACK OCTAGON,BLACK OCTAGON"]⟩,
  ⟨0x2BC5, ["BLACK MEDIUM * TRIANGLE CENTRED,UP-POINTING,DOWN-POINTING,LEFT-POINTING",
    "RIGHT-POINTING"]⟩,
  ⟨0x2BC9, ["*,NEPTUNE FORM TWO,TOP HALF BLACK CIRCLE,BOTTOM HALF BLACK CIRCLE",
    "LIGHT FOUR POINTED BLACK CUSP,ROTATED LIGHT FOUR POINTED BLACK CUSP,WHITE FOUR POINTED CUSP",
    "ROTATED WHITE FOUR POINTED CUSP,SQUARE POSITION INDICATOR,UNCERTAINTY SIGN,GROUP MARK"]⟩,
  ⟨0x2BD3, ["PLUTO FORM *,TWO,THREE,FOUR,FIVE"]⟩,
  ⟨0x2BD7, ["*,TRANSPLUTO,PROSERPINA,ASTRAEA,HYGIEA,PHOLUS,NESSUS,WHITE MOON SELENA",
    "BLACK DIAMOND ON CROSS,TRUE LIGHT MOON ARTA,CUPIDO,HADES,ZEUS,KRONOS,APOLLON,ADMETOS,VULCANUS",
    "POSEIDON,LEFT HALF BLACK STAR,RIGHT HALF BLACK STAR"]⟩,
  ⟨0x2BEA, ["STAR WITH * HALF BLACK,LEFT,RIGHT"]⟩,
  ⟨0x2BEC, ["* TWO-HEADED ARROW WITH TRIANGLE ARROWHEADS,LEFTWARDS,UPWARDS,RIGHTWARDS,DOWNWARDS"]⟩,
  ⟨0x2BF0, ["*,ERIS FORM ONE,ERIS FORM TWO,SEDNA"]⟩,
  ⟨0x2BF3, ["RUSSIAN ASTROLOGICAL SYMBOL *,VIGINTILE,NOVILE,QUINTILE,BINOVILE,SENTAGON,TREDECILE"]⟩,
  ⟨0x2BF9, ["*,EQUALS SIGN WITH INFINITY BELOW,UNITED SYMBOL,SEPARATED SYMBOL,DOUBLED SYMBOL",
    "PASSED SYMBOL,REVERSED RIGHT ANGLE,HELLSCHREIBER PAUSE SYMBOL"]⟩]

/-- The names of the characters from punctuation to arrows. -/
def symbolNames : List NameEntry :=
  punctuationNames ++ technicalNames ++ arrowNames

end CjkProse.Unicode
