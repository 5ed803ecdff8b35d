import CjkProse.Unicode.Names.Entry

/-!
# Names of characters: the rest of the first plane

The names of the characters from Glagolitic to the half- and full-width forms, as version 14 of the
standard gives them.  How an entry writes them is told at `NameEntry`.

## Main definitions

* `eastAsianNames` — the entries.
-/

namespace CjkProse.Unicode

/-- The names of Glagolitic to the radicals of ideographs. -/
def radicalNames : List NameEntry := [
  ⟨0x2C00, ["GLAGOLITIC CAPITAL LETTER *,AZU,BUKY,VEDE,GLAGOLI,DOBRO,YESTU,ZHIVETE,DZELO,ZEMLJA",
    "IZHE,INITIAL IZHE,I,DJERVI,KAKO,LJUDIJE,MYSLITE,NASHI,ONU,POKOJI,RITSI,SLOVO,TVRIDO,UKU,FRITU",
    "HERU,OTU,PE,SHTA,TSI,CHRIVI,SHA,YERU,YERI,YATI,SPIDERY HA,YU,SMALL YUS,SMALL YUS WITH TAIL,YO",
    "IOTATED SMALL YUS,BIG YUS,IOTATED BIG YUS,FITA,IZHITSA,SHTAPIC,TROKUTASTI A,LATINATE MYSLITE",
    "CAUDATE CHRIVI"]⟩,
  ⟨0x2C30, ["GLAGOLITIC SMALL LETTER *,AZU,BUKY,VEDE,GLAGOLI,DOBRO,YESTU,ZHIVETE,DZELO,ZEMLJA,IZHE",
    "INITIAL IZHE,I,DJERVI,KAKO,LJUDIJE,MYSLITE,NASHI,ONU,POKOJI,RITSI,SLOVO,TVRIDO,UKU,FRITU,HERU",
    "OTU,PE,SHTA,TSI,CHRIVI,SHA,YERU,YERI,YATI,SPIDERY HA,YU,SMALL YUS,SMALL YUS WITH TAIL,YO",
    "IOTATED SMALL YUS,BIG YUS,IOTATED BIG YUS,FITA,IZHITSA,SHTAPIC,TROKUTASTI A,LATINATE MYSLITE",
    "CAUDATE CHRIVI"]⟩, ⟨0x2C60, ["LATIN * LETTER L WITH DOUBLE BAR,CAPITAL,SMALL"]⟩,
  ⟨0x2C62, ["LATIN CAPITAL LETTER *,L WITH MIDDLE TILDE,P WITH STROKE,R WITH TAIL"]⟩,
  ⟨0x2C65, ["LATIN SMALL LETTER * STROKE,A WITH,T WITH DIAGONAL"]⟩,
  ⟨0x2C67, ["LATIN * WITH DESCENDER,CAPITAL LETTER H,SMALL LETTER H,CAPITAL LETTER K",
    "SMALL LETTER K,CAPITAL LETTER Z,SMALL LETTER Z"]⟩,
  ⟨0x2C6D, ["LATIN CAPITAL LETTER *,ALPHA,M WITH HOOK,TURNED A,TURNED ALPHA"]⟩,
  ⟨0x2C71, ["LATIN *,SMALL LETTER V WITH RIGHT HOOK,CAPITAL LETTER W WITH HOOK",
    "SMALL LETTER W WITH HOOK,SMALL LETTER V WITH CURL,CAPITAL LETTER HALF H"]⟩,
  ⟨0x2C76, ["LATIN SMALL LETTER *,HALF H,TAILLESS PHI,E WITH NOTCH,TURNED R WITH TAIL",
    "O WITH LOW RING INSIDE"]⟩,
  ⟨0x2C7B, ["*,LATIN LETTER SMALL CAPITAL TURNED E,LATIN SUBSCRIPT SMALL LETTER J",
    "MODIFIER LETTER CAPITAL V"]⟩, ⟨0x2C7E, ["LATIN CAPITAL LETTER * WITH SWASH TAIL,S,Z"]⟩,
  ⟨0x2C80, ["COPTIC *,CAPITAL LETTER ALFA,SMALL LETTER ALFA,CAPITAL LETTER VIDA,SMALL LETTER VIDA",
    "CAPITAL LETTER GAMMA,SMALL LETTER GAMMA,CAPITAL LETTER DALDA,SMALL LETTER DALDA",
    "CAPITAL LETTER EIE,SMALL LETTER EIE,CAPITAL LETTER SOU,SMALL LETTER SOU,CAPITAL LETTER ZATA",
    "SMALL LETTER ZATA,CAPITAL LETTER HATE,SMALL LETTER HATE,CAPITAL LETTER THETHE",
    "SMALL LETTER THETHE,CAPITAL LETTER IAUDA,SMALL LETTER IAUDA,CAPITAL LETTER KAPA",
    "SMALL LETTER KAPA,CAPITAL LETTER LAULA,SMALL LETTER LAULA,CAPITAL LETTER MI,SMALL LETTER MI",
    "CAPITAL LETTER NI,SMALL LETTER NI,CAPITAL LETTER KSI,SMALL LETTER KSI,CAPITAL LETTER O",
    "SMALL LETTER O,CAPITAL LETTER PI,SMALL LETTER PI,CAPITAL LETTER RO,SMALL LETTER RO",
    "CAPITAL LETTER SIMA,SMALL LETTER SIMA,CAPITAL LETTER TAU,SMALL LETTER TAU,CAPITAL LETTER UA",
    "SMALL LETTER UA,CAPITAL LETTER FI,SMALL LETTER FI,CAPITAL LETTER KHI,SMALL LETTER KHI",
    "CAPITAL LETTER PSI,SMALL LETTER PSI,CAPITAL LETTER OOU,SMALL LETTER OOU",
    "CAPITAL LETTER DIALECT-P ALEF,SMALL LETTER DIALECT-P ALEF,CAPITAL LETTER OLD COPTIC AIN",
    "SMALL LETTER OLD COPTIC AIN,CAPITAL LETTER CRYPTOGRAMMIC EIE,SMALL LETTER CRYPTOGRAMMIC EIE",
    "CAPITAL LETTER DIALECT-P KAPA,SMALL LETTER DIALECT-P KAPA,CAPITAL LETTER DIALECT-P NI",
    "SMALL LETTER DIALECT-P NI,CAPITAL LETTER CRYPTOGRAMMIC NI,SMALL LETTER CRYPTOGRAMMIC NI",
    "CAPITAL LETTER OLD COPTIC OOU,SMALL LETTER OLD COPTIC OOU,CAPITAL LETTER SAMPI",
    "SMALL LETTER SAMPI,CAPITAL LETTER CROSSED SHEI,SMALL LETTER CROSSED SHEI",
    "CAPITAL LETTER OLD COPTIC SHEI,SMALL LETTER OLD COPTIC SHEI,CAPITAL LETTER OLD COPTIC ESH",
    "SMALL LETTER OLD COPTIC ESH,CAPITAL LETTER AKHMIMIC KHEI,SMALL LETTER AKHMIMIC KHEI",
    "CAPITAL LETTER DIALECT-P HORI,SMALL LETTER DIALECT-P HORI,CAPITAL LETTER OLD COPTIC HORI",
    "SMALL LETTER OLD COPTIC HORI,CAPITAL LETTER OLD COPTIC HA,SMALL LETTER OLD COPTIC HA",
    "CAPITAL LETTER L-SHAPED HA,SMALL LETTER L-SHAPED HA,CAPITAL LETTER OLD COPTIC HEI",
    "SMALL LETTER OLD COPTIC HEI,CAPITAL LETTER OLD COPTIC HAT,SMALL LETTER OLD COPTIC HAT",
    "CAPITAL LETTER OLD COPTIC GANGIA,SMALL LETTER OLD COPTIC GANGIA,CAPITAL LETTER OLD COPTIC DJA",
    "SMALL LETTER OLD COPTIC DJA,CAPITAL LETTER OLD COPTIC SHIMA,SMALL LETTER OLD COPTIC SHIMA",
    "CAPITAL LETTER OLD NUBIAN SHIMA,SMALL LETTER OLD NUBIAN SHIMA,CAPITAL LETTER OLD NUBIAN NGI",
    "SMALL LETTER OLD NUBIAN NGI,CAPITAL LETTER OLD NUBIAN NYI,SMALL LETTER OLD NUBIAN NYI",
    "CAPITAL LETTER OLD NUBIAN WAU,SMALL LETTER OLD NUBIAN WAU"]⟩,
  ⟨0x2CE4, ["COPTIC SYMBOL *,KAI,MI RO,PI RO,STAUROS,TAU RO,KHI RO,SHIMA SIMA"]⟩,
  ⟨0x2CEB, ["COPTIC * LETTER CRYPTOGRAMMIC SHEI,CAPITAL,SMALL"]⟩,
  ⟨0x2CED, ["COPTIC * LETTER CRYPTOGRAMMIC GANGIA,CAPITAL,SMALL"]⟩,
  ⟨0x2CEF, ["COPTIC COMBINING *,NI ABOVE,SPIRITUS ASPER,SPIRITUS LENIS"]⟩,
  ⟨0x2CF2, ["COPTIC * LETTER BOHAIRIC KHEI,CAPITAL,SMALL"]⟩,
  ⟨0x2CF9, ["COPTIC OLD NUBIAN *,FULL STOP,DIRECT QUESTION MARK,INDIRECT QUESTION MARK",
    "VERSE DIVIDER"]⟩, ⟨0x2CFD, ["COPTIC *,FRACTION ONE HALF,FULL STOP,MORPHOLOGICAL DIVIDER"]⟩,
  ⟨0x2D00, ["GEORGIAN SMALL LETTER *,AN,BAN,GAN,DON,EN,VIN,ZEN,TAN,IN,KAN,LAS,MAN,NAR,ON,PAR,ZHAR",
    "RAE,SAN,TAR,UN,PHAR,KHAR,GHAN,QAR,SHIN,CHIN,CAN,JIL,CIL,CHAR,XAN,JHAN,HAE,HE,HIE,WE,HAR,HOE"]⟩,
  ⟨0x2D27, ["GEORGIAN SMALL LETTER YN"]⟩, ⟨0x2D2D, ["GEORGIAN SMALL LETTER AEN"]⟩,
  ⟨0x2D30, ["TIFINAGH LETTER *,YA,YAB,YABH,YAG,YAGHH,BERBER ACADEMY YAJ,YAJ,YAD,YADH,YADD,YADDH",
    "YEY,YAF,YAK,TUAREG YAK,YAKHH,YAH,BERBER ACADEMY YAH,TUAREG YAH,YAHH,YAA,YAKH,TUAREG YAKH,YAQ",
    "TUAREG YAQ,YI,YAZH,AHAGGAR YAZH,TUAREG YAZH,YAL,YAM,YAN,TUAREG YAGN,TUAREG YANG,YAP,YU,YAR",
    "YARR,YAGH,TUAREG YAGH,AYER YAGH,YAS,YASS,YASH,YAT,YATH,YACH,YATT,YAV,YAW,YAY,YAZ",
    "TAWELLEMET YAZ,YAZZ,YE,YO"]⟩,
  ⟨0x2D6F, ["TIFINAGH * MARK,MODIFIER LETTER LABIALIZATION,SEPARATOR"]⟩,
  ⟨0x2D7F, ["TIFINAGH CONSONANT JOINER"]⟩,
  ⟨0x2D80, ["ETHIOPIC SYLLABLE *,LOA,MOA,ROA,SOA,SHOA,BOA,TOA,COA,NOA,NYOA,GLOTTAL OA,ZOA,DOA,DDOA",
    "JOA,THOA,CHOA,PHOA,POA,GGWA,GGWI,GGWEE,GGWE"]⟩,
  ⟨0x2DA0, ["ETHIOPIC SYLLABLE *,SSA,SSU,SSI,SSAA,SSEE,SSE,SSO"]⟩,
  ⟨0x2DA8, ["ETHIOPIC SYLLABLE *,CCA,CCU,CCI,CCAA,CCEE,CCE,CCO"]⟩,
  ⟨0x2DB0, ["ETHIOPIC SYLLABLE *,ZZA,ZZU,ZZI,ZZAA,ZZEE,ZZE,ZZO"]⟩,
  ⟨0x2DB8, ["ETHIOPIC SYLLABLE *,CCHA,CCHU,CCHI,CCHAA,CCHEE,CCHE,CCHO"]⟩,
  ⟨0x2DC0, ["ETHIOPIC SYLLABLE *,QYA,QYU,QYI,QYAA,QYEE,QYE,QYO"]⟩,
  ⟨0x2DC8, ["ETHIOPIC SYLLABLE *,KYA,KYU,KYI,KYAA,KYEE,KYE,KYO"]⟩,
  ⟨0x2DD0, ["ETHIOPIC SYLLABLE *,XYA,XYU,XYI,XYAA,XYEE,XYE,XYO"]⟩,
  ⟨0x2DD8, ["ETHIOPIC SYLLABLE *,GYA,GYU,GYI,GYAA,GYEE,GYE,GYO"]⟩,
  ⟨0x2DE0, ["COMBINING CYRILLIC LETTER *,BE,VE,GHE,DE,ZHE,ZE,KA,EL,EM,EN,O,PE,ER,ES,TE,HA,TSE,CHE",
    "SHA,SHCHA,FITA,ES-TE,A,IE,DJERV,MONOGRAPH UK,YAT,YU,IOTIFIED A,LITTLE YUS,BIG YUS",
    "IOTIFIED BIG YUS"]⟩,
  ⟨0x2E00, ["RIGHT ANGLE *,SUBSTITUTION MARKER,DOTTED SUBSTITUTION MARKER"]⟩,
  ⟨0x2E02, ["* SUBSTITUTION BRACKET,LEFT,RIGHT,LEFT DOTTED,RIGHT DOTTED"]⟩,
  ⟨0x2E06, ["* MARKER,RAISED INTERPOLATION,RAISED DOTTED INTERPOLATION,DOTTED TRANSPOSITION"]⟩,
  ⟨0x2E09, ["* TRANSPOSITION BRACKET,LEFT,RIGHT"]⟩,
  ⟨0x2E0B, ["*,RAISED SQUARE,LEFT RAISED OMISSION BRACKET,RIGHT RAISED OMISSION BRACKET",
    "EDITORIAL CORONIS,PARAGRAPHOS,FORKED PARAGRAPHOS,REVERSED FORKED PARAGRAPHOS,HYPODIASTOLE",
    "DOTTED OBELOS,DOWNWARDS ANCORA,UPWARDS ANCORA,DOTTED RIGHT-POINTING ANGLE",
    "DOUBLE OBLIQUE HYPHEN,INVERTED INTERROBANG,PALM BRANCH,HYPHEN WITH DIAERESIS",
    "TILDE WITH RING ABOVE"]⟩, ⟨0x2E1C, ["* LOW PARAPHRASE BRACKET,LEFT,RIGHT"]⟩,
  ⟨0x2E1E, ["TILDE WITH DOT *,ABOVE,BELOW"]⟩, ⟨0x2E20, ["* VERTICAL BAR WITH QUILL,LEFT,RIGHT"]⟩,
  ⟨0x2E22, ["* HALF BRACKET,TOP LEFT,TOP RIGHT,BOTTOM LEFT,BOTTOM RIGHT"]⟩,
  ⟨0x2E26, ["* SIDEWAYS U BRACKET,LEFT,RIGHT"]⟩, ⟨0x2E28, ["* DOUBLE PARENTHESIS,LEFT,RIGHT"]⟩,
  ⟨0x2E2A, ["* PUNCTUATION,TWO DOTS OVER ONE DOT,ONE DOT OVER TWO DOTS,SQUARED FOUR DOT"]⟩,
  ⟨0x2E2D, ["*,FIVE DOT MARK,REVERSED QUESTION MARK,VERTICAL TILDE,RING POINT",
    "WORD SEPARATOR MIDDLE DOT,TURNED COMMA,RAISED DOT,RAISED COMMA,TURNED SEMICOLON",
    "DAGGER WITH LEFT GUARD,DAGGER WITH RIGHT GUARD,TURNED DAGGER,TOP HALF SECTION SIGN",
    "TWO-EM DASH,THREE-EM DASH,STENOGRAPHIC FULL STOP,VERTICAL SIX DOTS,WIGGLY VERTICAL LINE",
    "CAPITULUM,DOUBLE HYPHEN,REVERSED COMMA,DOUBLE LOW-REVERSED-9 QUOTATION MARK",
    "DASH WITH LEFT UPTURN,DOUBLE SUSPENSION MARK,INVERTED LOW KAVYKA",
    "INVERTED LOW KAVYKA WITH KAVYKA ABOVE,LOW KAVYKA,LOW KAVYKA WITH DOT,DOUBLE STACKED COMMA",
    "DOTTED SOLIDUS,TRIPLE DAGGER,MEDIEVAL COMMA,PARAGRAPHUS MARK,PUNCTUS ELEVATUS MARK",
    "CORNISH VERSE DIVIDER,CROSS PATTY WITH RIGHT CROSSBAR,CROSS PATTY WITH LEFT CROSSBAR",
    "TIRONIAN SIGN CAPITAL ET,MEDIEVAL EXCLAMATION MARK,MEDIEVAL QUESTION MARK"]⟩,
  ⟨0x2E55, ["* SQUARE BRACKET WITH STROKE,LEFT,RIGHT"]⟩,
  ⟨0x2E57, ["* SQUARE BRACKET WITH DOUBLE STROKE,LEFT,RIGHT"]⟩,
  ⟨0x2E59, ["* PARENTHESIS,TOP HALF LEFT,TOP HALF RIGHT,BOTTOM HALF LEFT,BOTTOM HALF RIGHT"]⟩,
  ⟨0x2E5D, ["OBLIQUE HYPHEN"]⟩,
  ⟨0x2E80, ["CJK RADICAL *,REPEAT,CLIFF,SECOND ONE,SECOND TWO,SECOND THREE,PERSON,BOX,TABLE",
    "KNIFE ONE,KNIFE TWO,DIVINATION,SEAL,SMALL ONE,SMALL TWO,LAME ONE,LAME TWO,LAME THREE",
    "LAME FOUR,SNAKE,THREAD,SNOUT ONE,SNOUT TWO,HEART ONE,HEART TWO,HAND,RAP"]⟩,
  ⟨0x2E9B, ["CJK RADICAL *,CHOKE,SUN,MOON,DEATH,MOTHER,CIVILIAN,WATER ONE,WATER TWO,FIRE,PAW ONE",
    "PAW TWO,SIMPLIFIED HALF TREE TRUNK,COW,DOG,JADE,BOLT OF CLOTH,EYE,SPIRIT ONE,SPIRIT TWO",
    "BAMBOO,SILK,C-SIMPLIFIED SILK,NET ONE,NET TWO,NET THREE,NET FOUR,MESH,SHEEP,RAM,EWE,OLD",
    "BRUSH ONE,BRUSH TWO,MEAT,MORTAR,GRASS ONE,GRASS TWO,GRASS THREE,TIGER,CLOTHES,WEST ONE",
    "WEST TWO,C-SIMPLIFIED SEE,SIMPLIFIED HORN,HORN,C-SIMPLIFIED SPEECH,C-SIMPLIFIED SHELL,FOOT",
    "C-SIMPLIFIED CART,SIMPLIFIED WALK,WALK ONE,WALK TWO,CITY,C-SIMPLIFIED GOLD,LONG ONE,LONG TWO",
    "C-SIMPLIFIED LONG,C-SIMPLIFIED GATE,MOUND ONE,MOUND TWO,RAIN,BLUE,C-SIMPLIFIED TANNED LEATHER",
    "C-SIMPLIFIED LEAF,C-SIMPLIFIED WIND,C-SIMPLIFIED FLY,EAT ONE,EAT TWO,EAT THREE",
    "C-SIMPLIFIED EAT,HEAD,C-SIMPLIFIED HORSE,BONE,GHOST,C-SIMPLIFIED FISH,C-SIMPLIFIED BIRD",
    "C-SIMPLIFIED SALT,SIMPLIFIED WHEAT,SIMPLIFIED YELLOW,C-SIMPLIFIED FROG,J-SIMPLIFIED EVEN",
    "C-SIMPLIFIED EVEN,J-SIMPLIFIED TOOTH,C-SIMPLIFIED TOOTH,J-SIMPLIFIED DRAGON",
    "C-SIMPLIFIED DRAGON,TURTLE,J-SIMPLIFIED TURTLE,C-SIMPLIFIED TURTLE"]⟩,
  ⟨0x2F00, ["KANGXI RADICAL *,ONE,LINE,DOT,SLASH,SECOND,HOOK,TWO,LID,MAN,LEGS,ENTER,EIGHT,DOWN BOX",
    "COVER,ICE,TABLE,OPEN BOX,KNIFE,POWER,WRAP,SPOON,RIGHT OPEN BOX,HIDING ENCLOSURE,TEN",
    "DIVINATION,SEAL,CLIFF,PRIVATE,AGAIN,MOUTH,ENCLOSURE,EARTH,SCHOLAR,GO,GO SLOWLY,EVENING,BIG",
    "WOMAN,CHILD,ROOF,INCH,SMALL,LAME,CORPSE,SPROUT,MOUNTAIN,RIVER,WORK,ONESELF,TURBAN,DRY",
    "SHORT THREAD,DOTTED CLIFF,LONG STRIDE,TWO HANDS,SHOOT,BOW,SNOUT,BRISTLE,STEP,HEART,HALBERD",
    "DOOR,HAND,BRANCH,RAP,SCRIPT,DIPPER,AXE,SQUARE,NOT,SUN,SAY,MOON,TREE,LACK,STOP,DEATH,WEAPON",
    "DO NOT,COMPARE,FUR,CLAN,STEAM,WATER,FIRE,CLAW,FATHER,DOUBLE X,HALF TREE TRUNK,SLICE,FANG,COW",
    "DOG,PROFOUND,JADE,MELON,TILE,SWEET,LIFE,USE,FIELD,BOLT OF CLOTH,SICKNESS,DOTTED TENT,WHITE",
    "SKIN,DISH,EYE,SPEAR,ARROW,STONE,SPIRIT,TRACK,GRAIN,CAVE,STAND,BAMBOO,RICE,SILK,JAR,NET,SHEEP",
    "FEATHER,OLD,AND,PLOW,EAR,BRUSH,MEAT,MINISTER,SELF,ARRIVE,MORTAR,TONGUE,OPPOSE,BOAT,STOPPING",
    "COLOR,GRASS,TIGER,INSECT,BLOOD,WALK ENCLOSURE,CLOTHES,WEST,SEE,HORN,SPEECH,VALLEY,BEAN,PIG",
    "BADGER,SHELL,RED,RUN,FOOT,BODY,CART,BITTER,MORNING,WALK,CITY,WINE,DISTINGUISH,VILLAGE,GOLD",
    "LONG,GATE,MOUND,SLAVE,SHORT TAILED BIRD,RAIN,BLUE,WRONG,FACE,LEATHER,TANNED LEATHER,LEEK",
    "SOUND,LEAF,WIND,FLY,EAT,HEAD,FRAGRANT,HORSE,BONE,TALL,HAIR,FIGHT,SACRIFICIAL WINE,CAULDRON",
    "GHOST,FISH,BIRD,SALT,DEER,WHEAT,HEMP,YELLOW,MILLET,BLACK,EMBROIDERY,FROG,TRIPOD,DRUM,RAT,NOSE",
    "EVEN,TOOTH,DRAGON,TURTLE,FLUTE"]⟩,
  ⟨0x2FF0, ["IDEOGRAPHIC DESCRIPTION CHARACTER *,LEFT TO RIGHT,ABOVE TO BELOW",
    "LEFT TO MIDDLE AND RIGHT,ABOVE TO MIDDLE AND BELOW,FULL SURROUND,SURROUND FROM ABOVE",
    "SURROUND FROM BELOW,SURROUND FROM LEFT,SURROUND FROM UPPER LEFT,SURROUND FROM UPPER RIGHT",
    "SURROUND FROM LOWER LEFT,OVERLAID"]⟩]

/-- The names of kana, Bopomofo and the squared and circled characters. -/
def kanaNames : List NameEntry := [
  ⟨0x3000, ["IDEOGRAPHIC *,SPACE,COMMA,FULL STOP"]⟩,
  ⟨0x3003, ["*,DITTO MARK,JAPANESE INDUSTRIAL STANDARD SYMBOL"]⟩,
  ⟨0x3005, ["IDEOGRAPHIC *,ITERATION MARK,CLOSING MARK,NUMBER ZERO"]⟩,
  ⟨0x3008, ["* ANGLE BRACKET,LEFT,RIGHT,LEFT DOUBLE,RIGHT DOUBLE"]⟩,
  ⟨0x300C, ["* CORNER BRACKET,LEFT,RIGHT,LEFT WHITE,RIGHT WHITE"]⟩,
  ⟨0x3010, ["* BLACK LENTICULAR BRACKET,LEFT,RIGHT"]⟩, ⟨0x3012, ["* MARK,POSTAL,GETA"]⟩,
  ⟨0x3014, ["* BRACKET,LEFT TORTOISE SHELL,RIGHT TORTOISE SHELL,LEFT WHITE LENTICULAR",
    "RIGHT WHITE LENTICULAR,LEFT WHITE TORTOISE SHELL,RIGHT WHITE TORTOISE SHELL,LEFT WHITE SQUARE",
    "RIGHT WHITE SQUARE"]⟩, ⟨0x301C, ["WAVE DASH"]⟩,
  ⟨0x301D, ["* PRIME QUOTATION MARK,REVERSED DOUBLE,DOUBLE,LOW DOUBLE"]⟩,
  ⟨0x3020, ["POSTAL MARK FACE"]⟩,
  ⟨0x3021, ["HANGZHOU NUMERAL *,ONE,TWO,THREE,FOUR,FIVE,SIX,SEVEN,EIGHT,NINE"]⟩,
  ⟨0x302A, ["IDEOGRAPHIC * TONE MARK,LEVEL,RISING,DEPARTING,ENTERING"]⟩,
  ⟨0x302E, ["HANGUL * DOT TONE MARK,SINGLE,DOUBLE"]⟩, ⟨0x3030, ["WAVY DASH"]⟩,
  ⟨0x3031, ["VERTICAL KANA REPEAT *,MARK,WITH VOICED SOUND MARK,MARK UPPER HALF",
    "WITH VOICED SOUND MARK UPPER HALF,MARK LOWER HALF"]⟩,
  ⟨0x3036, ["*,CIRCLED POSTAL MARK,IDEOGRAPHIC TELEGRAPH LINE FEED SEPARATOR SYMBOL"]⟩,
  ⟨0x3038, ["HANGZHOU NUMERAL *,TEN,TWENTY,THIRTY"]⟩,
  ⟨0x303B, ["* MARK,VERTICAL IDEOGRAPHIC ITERATION,MASU,PART ALTERNATION"]⟩,
  ⟨0x303E, ["IDEOGRAPHIC *,VARIATION INDICATOR,HALF FILL SPACE"]⟩,
  ⟨0x3041, ["HIRAGANA LETTER *,SMALL A,A,SMALL I,I,SMALL U,U,SMALL E,E,SMALL O,O,KA,GA,KI,GI,KU,GU",
    "KE,GE,KO,GO,SA,ZA,SI,ZI,SU,ZU,SE,ZE,SO,ZO,TA,DA,TI,DI,SMALL TU,TU,DU,TE,DE,TO,DO,NA,NI,NU,NE",
    "NO,HA,BA,PA,HI,BI,PI,HU,BU,PU,HE,BE,PE,HO,BO,PO,MA,MI,MU,ME,MO,SMALL YA,YA,SMALL YU,YU",
    "SMALL YO,YO,RA,RI,RU,RE,RO,SMALL WA,WA,WI,WE,WO,N,VU,SMALL KA,SMALL KE"]⟩,
  ⟨0x3099, ["COMBINING KATAKANA-HIRAGANA * SOUND MARK,VOICED,SEMI-VOICED"]⟩,
  ⟨0x309B, ["KATAKANA-HIRAGANA * SOUND MARK,VOICED,SEMI-VOICED"]⟩,
  ⟨0x309D, ["HIRAGANA *,ITERATION MARK,VOICED ITERATION MARK,DIGRAPH YORI"]⟩,
  ⟨0x30A0, ["KATAKANA-HIRAGANA DOUBLE HYPHEN"]⟩,
  ⟨0x30A1, ["KATAKANA LETTER *,SMALL A,A,SMALL I,I,SMALL U,U,SMALL E,E,SMALL O,O,KA,GA,KI,GI,KU,GU",
    "KE,GE,KO,GO,SA,ZA,SI,ZI,SU,ZU,SE,ZE,SO,ZO,TA,DA,TI,DI,SMALL TU,TU,DU,TE,DE,TO,DO,NA,NI,NU,NE",
    "NO,HA,BA,PA,HI,BI,PI,HU,BU,PU,HE,BE,PE,HO,BO,PO,MA,MI,MU,ME,MO,SMALL YA,YA,SMALL YU,YU",
    "SMALL YO,YO,RA,RI,RU,RE,RO,SMALL WA,WA,WI,WE,WO,N,VU,SMALL KA,SMALL KE,VA,VI,VE,VO"]⟩,
  ⟨0x30FB, ["*,KATAKANA MIDDLE DOT,KATAKANA-HIRAGANA PROLONGED SOUND MARK"]⟩,
  ⟨0x30FD, ["KATAKANA *,ITERATION MARK,VOICED ITERATION MARK,DIGRAPH KOTO"]⟩,
  ⟨0x3105, ["BOPOMOFO LETTER *,B,P,M,F,D,T,N,L,G,K,H,J,Q,X,ZH,CH,SH,R,Z,C,S,A,O,E,EH,AI,EI,AU,OU",
    "AN,EN,ANG,ENG,ER,I,U,IU,V,NG,GN,IH,O WITH DOT ABOVE,NN"]⟩,
  ⟨0x3131, ["HANGUL LETTER *,KIYEOK,SSANGKIYEOK,KIYEOK-SIOS,NIEUN,NIEUN-CIEUC,NIEUN-HIEUH,TIKEUT",
    "SSANGTIKEUT,RIEUL,RIEUL-KIYEOK,RIEUL-MIEUM,RIEUL-PIEUP,RIEUL-SIOS,RIEUL-THIEUTH,RIEUL-PHIEUPH",
    "RIEUL-HIEUH,MIEUM,PIEUP,SSANGPIEUP,PIEUP-SIOS,SIOS,SSANGSIOS,IEUNG,CIEUC,SSANGCIEUC,CHIEUCH",
    "KHIEUKH,THIEUTH,PHIEUPH,HIEUH,A,AE,YA,YAE,EO,E,YEO,YE,O,WA,WAE,OE,YO,U,WEO,WE,WI,YU,EU,YI,I"]⟩,
  ⟨0x3164, ["HANGUL FILLER"]⟩,
  ⟨0x3165, ["HANGUL LETTER *,SSANGNIEUN,NIEUN-TIKEUT,NIEUN-SIOS,NIEUN-PANSIOS,RIEUL-KIYEOK-SIOS",
    "RIEUL-TIKEUT,RIEUL-PIEUP-SIOS,RIEUL-PANSIOS,RIEUL-YEORINHIEUH,MIEUM-PIEUP,MIEUM-SIOS",
    "MIEUM-PANSIOS,KAPYEOUNMIEUM,PIEUP-KIYEOK,PIEUP-TIKEUT,PIEUP-SIOS-KIYEOK,PIEUP-SIOS-TIKEUT",
    "PIEUP-CIEUC,PIEUP-THIEUTH,KAPYEOUNPIEUP,KAPYEOUNSSANGPIEUP,SIOS-KIYEOK,SIOS-NIEUN,SIOS-TIKEUT",
    "SIOS-PIEUP,SIOS-CIEUC,PANSIOS,SSANGIEUNG,YESIEUNG,YESIEUNG-SIOS,YESIEUNG-PANSIOS",
    "KAPYEOUNPHIEUPH,SSANGHIEUH,YEORINHIEUH,YO-YA,YO-YAE,YO-I,YU-YEO,YU-YE,YU-I,ARAEA,ARAEAE"]⟩,
  ⟨0x3190, ["IDEOGRAPHIC ANNOTATION * MARK,LINKING,REVERSE,ONE,TWO,THREE,FOUR,TOP,MIDDLE,BOTTOM",
    "FIRST,SECOND,THIRD,FOURTH,HEAVEN,EARTH,MAN"]⟩,
  ⟨0x31A0, ["BOPOMOFO LETTER *,BU,ZI,JI,GU,EE,ENN,OO,ONN,IR,ANN,INN,UNN,IM,NGG,AINN,AUNN,AM,OM,ONG",
    "INNN"]⟩, ⟨0x31B4, ["BOPOMOFO FINAL LETTER *,P,T,K,H"]⟩,
  ⟨0x31B8, ["BOPOMOFO *,LETTER GH,LETTER LH,LETTER ZY,FINAL LETTER G,LETTER GW,LETTER KW,LETTER OE",
    "LETTER AH"]⟩,
  ⟨0x31C0, ["CJK STROKE *,T,WG,XG,BXG,SW,HZZ,HZG,HP,HZWG,SZWG,HZT,HZZP,HPWG,HZW,HZZZ,N,H,S,P,SP,D",
    "HZ,HG,SZ,SWZ,ST,SG,PD,PZ,TN,SZZ,SWG,HXWG,HZZZG,PG,Q"]⟩,
  ⟨0x31F0, ["KATAKANA LETTER SMALL *,KU,SI,SU,TO,NU,HA,HI,HU,HE,HO,MU,RA,RI,RU,RE,RO"]⟩,
  ⟨0x3200, ["PARENTHESIZED HANGUL *,KIYEOK,NIEUN,TIKEUT,RIEUL,MIEUM,PIEUP,SIOS,IEUNG,CIEUC,CHIEUCH",
    "KHIEUKH,THIEUTH,PHIEUPH,HIEUH,KIYEOK A,NIEUN A,TIKEUT A,RIEUL A,MIEUM A,PIEUP A,SIOS A",
    "IEUNG A,CIEUC A,CHIEUCH A,KHIEUKH A,THIEUTH A,PHIEUPH A,HIEUH A,CIEUC U"]⟩,
  ⟨0x321D, ["PARENTHESIZED KOREAN CHARACTER *,OJEON,O HU"]⟩,
  ⟨0x3220, ["PARENTHESIZED IDEOGRAPH *,ONE,TWO,THREE,FOUR,FIVE,SIX,SEVEN,EIGHT,NINE,TEN,MOON,FIRE",
    "WATER,WOOD,METAL,EARTH,SUN,STOCK,HAVE,SOCIETY,NAME,SPECIAL,FINANCIAL,CONGRATULATION,LABOR",
    "REPRESENT,CALL,STUDY,SUPERVISE,ENTERPRISE,RESOURCE,ALLIANCE,FESTIVAL,REST,SELF,REACH"]⟩,
  ⟨0x3244, ["CIRCLED IDEOGRAPH *,QUESTION,KINDERGARTEN,SCHOOL,KOTO"]⟩,
  ⟨0x3248, ["CIRCLED NUMBER * ON BLACK SQUARE,TEN,TWENTY,THIRTY,FORTY,FIFTY,SIXTY,SEVENTY,EIGHTY"]⟩,
  ⟨0x3250, ["PARTNERSHIP SIGN"]⟩,
  ⟨0x3251, ["CIRCLED NUMBER TWENTY *,ONE,TWO,THREE,FOUR,FIVE,SIX,SEVEN,EIGHT,NINE"]⟩,
  ⟨0x325A, ["CIRCLED NUMBER *,THIRTY,THIRTY ONE,THIRTY TWO,THIRTY THREE,THIRTY FOUR,THIRTY FIVE"]⟩,
  ⟨0x3260, ["CIRCLED HANGUL *,KIYEOK,NIEUN,TIKEUT,RIEUL,MIEUM,PIEUP,SIOS,IEUNG,CIEUC,CHIEUCH",
    "KHIEUKH,THIEUTH,PHIEUPH,HIEUH,KIYEOK A,NIEUN A,TIKEUT A,RIEUL A,MIEUM A,PIEUP A,SIOS A",
    "IEUNG A,CIEUC A,CHIEUCH A,KHIEUKH A,THIEUTH A,PHIEUPH A,HIEUH A"]⟩,
  ⟨0x327C, ["CIRCLED KOREAN CHARACTER *,CHAMKO,JUEUI"]⟩,
  ⟨0x327E, ["*,CIRCLED HANGUL IEUNG U,KOREAN STANDARD SYMBOL"]⟩,
  ⟨0x3280, ["CIRCLED IDEOGRAPH *,ONE,TWO,THREE,FOUR,FIVE,SIX,SEVEN,EIGHT,NINE,TEN,MOON,FIRE,WATER",
    "WOOD,METAL,EARTH,SUN,STOCK,HAVE,SOCIETY,NAME,SPECIAL,FINANCIAL,CONGRATULATION,LABOR,SECRET",
    "MALE,FEMALE,SUITABLE,EXCELLENT,PRINT,ATTENTION,ITEM,REST,COPY,CORRECT,HIGH,CENTRE,LOW,LEFT",
    "RIGHT,MEDICINE,RELIGION,STUDY,SUPERVISE,ENTERPRISE,RESOURCE,ALLIANCE,NIGHT"]⟩,
  ⟨0x32B1, ["CIRCLED NUMBER *,THIRTY SIX,THIRTY SEVEN,THIRTY EIGHT,THIRTY NINE,FORTY,FORTY ONE",
    "FORTY TWO,FORTY THREE,FORTY FOUR,FORTY FIVE,FORTY SIX,FORTY SEVEN,FORTY EIGHT,FORTY NINE",
    "FIFTY"]⟩,
  ⟨0x32C0, ["IDEOGRAPHIC TELEGRAPH SYMBOL FOR *,JANUARY,FEBRUARY,MARCH,APRIL,MAY,JUNE,JULY,AUGUST",
    "SEPTEMBER,OCTOBER,NOVEMBER,DECEMBER"]⟩,
  ⟨0x32CC, ["*,SQUARE HG,SQUARE ERG,SQUARE EV,LIMITED LIABILITY SIGN"]⟩,
  ⟨0x32D0, ["CIRCLED KATAKANA *,A,I,U,E,O,KA,KI,KU,KE,KO,SA,SI,SU,SE,SO,TA,TI,TU,TE,TO,NA,NI,NU,NE",
    "NO,HA,HI,HU,HE,HO,MA,MI,MU,ME,MO,YA,YU,YO,RA,RI,RU,RE,RO,WA,WI,WE,WO"]⟩,
  ⟨0x32FF, ["SQUARE *,ERA NAME REIWA,APAATO,ARUHUA,ANPEA,AARU,ININGU,INTI,UON,ESUKUUDO,EEKAA,ONSU",
    "OOMU,KAIRI,KARATTO,KARORII,GARON,GANMA,GIGA,GINII,KYURII,GIRUDAA,KIRO,KIROGURAMU,KIROMEETORU",
    "KIROWATTO,GURAMU,GURAMUTON,KURUZEIRO,KUROONE,KEESU,KORUNA,KOOPO,SAIKURU,SANTIIMU,SIRINGU",
    "SENTI,SENTO,DAASU,DESI,DORU,TON,NANO,NOTTO,HAITU,PAASENTO,PAATU,BAARERU,PIASUTORU,PIKURU,PIKO",
    "BIRU,HUARADDO,HUIITO,BUSSYERU,HURAN,HEKUTAARU,PESO,PENIHI,HERUTU,PENSU,PEEZI,BEETA,POINTO",
    "BORUTO,HON,PONDO,HOORU,HOON,MAIKURO,MAIRU,MAHHA,MARUKU,MANSYON,MIKURON,MIRI,MIRIBAARU,MEGA",
    "MEGATON,MEETORU,YAADO,YAARU,YUAN,RITTORU,RIRA,RUPII,RUUBURU,REMU,RENTOGEN,WATTO"]⟩,
  ⟨0x3358, ["IDEOGRAPHIC TELEGRAPH SYMBOL FOR HOUR *,ZERO,ONE,TWO,THREE,FOUR,FIVE,SIX,SEVEN,EIGHT",
    "NINE,TEN,ELEVEN,TWELVE,THIRTEEN,FOURTEEN,FIFTEEN,SIXTEEN,SEVENTEEN,EIGHTEEN,NINETEEN,TWENTY",
    "TWENTY-ONE,TWENTY-TWO,TWENTY-THREE,TWENTY-FOUR"]⟩,
  ⟨0x3371, ["SQUARE *,HPA,DA,AU,BAR,OV,PC,DM,DM SQUARED,DM CUBED,IU,ERA NAME HEISEI",
    "ERA NAME SYOUWA,ERA NAME TAISYOU,ERA NAME MEIZI,CORPORATION,PA AMPS,NA,MU A,MA,KA,KB,MB,GB",
    "CAL,KCAL,PF,NF,MU F,MU G,MG,KG,HZ,KHZ,MHZ,GHZ,THZ,MU L,ML,DL,KL,FM,NM,MU M,MM,CM,KM",
    "MM SQUARED,CM SQUARED,M SQUARED,KM SQUARED,MM CUBED,CM CUBED,M CUBED,KM CUBED,M OVER S",
    "M OVER S SQUARED,PA,KPA,MPA,GPA,RAD,RAD OVER S,RAD OVER S SQUARED,PS,NS,MU S,MS,PV,NV,MU V,MV",
    "KV,MV MEGA,PW,NW,MU W,MW,KW,MW MEGA,K OHM,M OHM,AM,BQ,CC,CD,C OVER KG,CO,DB,GY,HA,HP,IN,KK",
    "KM CAPITAL,KT,LM,LN,LOG,LX,MB SMALL,MIL,MOL,PH,PM,PPM,PR,SR,SV,WB,V OVER M,A OVER M"]⟩,
  ⟨0x33E0, ["IDEOGRAPHIC TELEGRAPH SYMBOL FOR DAY *,ONE,TWO,THREE,FOUR,FIVE,SIX,SEVEN,EIGHT,NINE",
    "TEN,ELEVEN,TWELVE,THIRTEEN,FOURTEEN,FIFTEEN,SIXTEEN,SEVENTEEN,EIGHTEEN,NINETEEN,TWENTY",
    "TWENTY-ONE,TWENTY-TWO,TWENTY-THREE,TWENTY-FOUR,TWENTY-FIVE,TWENTY-SIX,TWENTY-SEVEN",
    "TWENTY-EIGHT,TWENTY-NINE,THIRTY,THIRTY-ONE"]⟩, ⟨0x33FF, ["SQUARE GAL"]⟩,
  ⟨0x4DC0, ["HEXAGRAM FOR *,THE CREATIVE HEAVEN,THE RECEPTIVE EARTH,DIFFICULTY AT THE BEGINNING",
    "YOUTHFUL FOLLY,WAITING,CONFLICT,THE ARMY,HOLDING TOGETHER,SMALL TAMING,TREADING,PEACE",
    "STANDSTILL,FELLOWSHIP,GREAT POSSESSION,MODESTY,ENTHUSIASM,FOLLOWING,WORK ON THE DECAYED",
    "APPROACH,CONTEMPLATION,BITING THROUGH,GRACE,SPLITTING APART,RETURN,INNOCENCE,GREAT TAMING",
    "MOUTH CORNERS,GREAT PREPONDERANCE,THE ABYSMAL WATER,THE CLINGING FIRE,INFLUENCE,DURATION",
    "RETREAT,GREAT POWER,PROGRESS,DARKENING OF THE LIGHT,THE FAMILY,OPPOSITION,OBSTRUCTION",
    "DELIVERANCE,DECREASE,INCREASE,BREAKTHROUGH,COMING TO MEET,GATHERING TOGETHER,PUSHING UPWARD",
    "OPPRESSION,THE WELL,REVOLUTION,THE CAULDRON,THE AROUSING THUNDER,THE KEEPING STILL MOUNTAIN",
    "DEVELOPMENT,THE MARRYING MAIDEN,ABUNDANCE,THE WANDERER,THE GENTLE WIND,THE JOYOUS LAKE",
    "DISPERSION,LIMITATION,INNER TRUTH,SMALL PREPONDERANCE,AFTER COMPLETION,BEFORE COMPLETION"]⟩]

/-- The names of Yi, Vai and scripts of Africa and Asia. -/
def yiNames : List NameEntry := [
  ⟨0xA000, ["YI SYLLABLE *,IT,IX,I,IP,IET,IEX,IE,IEP,AT,AX,A,AP,UOX,UO,UOP,OT,OX,O,OP,EX,E,WU,BIT",
    "BIX,BI,BIP,BIET,BIEX,BIE,BIEP,BAT,BAX,BA,BAP,BUOX,BUO,BUOP,BOT,BOX,BO,BOP,BEX,BE,BEP,BUT,BUX",
    "BU,BUP,BURX,BUR,BYT,BYX,BY,BYP,BYRX,BYR,PIT,PIX,PI,PIP,PIEX,PIE,PIEP,PAT,PAX,PA,PAP,PUOX,PUO",
    "PUOP,POT,POX,PO,POP,PUT,PUX,PU,PUP,PURX,PUR,PYT,PYX,PY,PYP,PYRX,PYR,BBIT,BBIX,BBI,BBIP,BBIET",
    "BBIEX,BBIE,BBIEP,BBAT,BBAX,BBA,BBAP,BBUOX,BBUO,BBUOP,BBOT,BBOX,BBO,BBOP,BBEX,BBE,BBEP,BBUT",
    "BBUX,BBU,BBUP,BBURX,BBUR,BBYT,BBYX,BBY,BBYP,NBIT,NBIX,NBI,NBIP,NBIEX,NBIE,NBIEP,NBAT,NBAX,NBA",
    "NBAP,NBOT,NBOX,NBO,NBOP,NBUT,NBUX,NBU,NBUP,NBURX,NBUR,NBYT,NBYX,NBY,NBYP,NBYRX,NBYR,HMIT,HMIX",
    "HMI,HMIP,HMIEX,HMIE,HMIEP,HMAT,HMAX,HMA,HMAP,HMUOX,HMUO,HMUOP,HMOT,HMOX,HMO,HMOP,HMUT,HMUX",
    "HMU,HMUP,HMURX,HMUR,HMYX,HMY,HMYP,HMYRX,HMYR,MIT,MIX,MI,MIP,MIEX,MIE,MIEP,MAT,MAX,MA,MAP,MUOT",
    "MUOX,MUO,MUOP,MOT,MOX,MO,MOP,MEX,ME,MUT,MUX,MU,MUP,MURX,MUR,MYT,MYX,MY,MYP,FIT,FIX,FI,FIP,FAT",
    "FAX,FA,FAP,FOX,FO,FOP,FUT,FUX,FU,FUP,FURX,FUR,FYT,FYX,FY,FYP,VIT,VIX,VI,VIP,VIET,VIEX,VIE",
    "VIEP,VAT,VAX,VA,VAP,VOT,VOX,VO,VOP,VEX,VEP,VUT,VUX,VU,VUP,VURX,VUR,VYT,VYX,VY,VYP,VYRX,VYR",
    "DIT,DIX,DI,DIP,DIEX,DIE,DIEP,DAT,DAX"]⟩,
  ⟨0xA109, ["YI SYLLABLE *,DA,DAP,DUOX,DUO,DOT,DOX,DO,DOP,DEX,DE,DEP,DUT,DUX,DU,DUP,DURX,DUR,TIT",
    "TIX,TI,TIP,TIEX,TIE,TIEP,TAT,TAX,TA,TAP,TUOT,TUOX,TUO,TUOP,TOT,TOX,TO,TOP,TEX,TE,TEP,TUT,TUX",
    "TU,TUP,TURX,TUR,DDIT,DDIX,DDI,DDIP,DDIEX,DDIE,DDIEP,DDAT,DDAX,DDA,DDAP,DDUOX,DDUO,DDUOP,DDOT",
    "DDOX,DDO,DDOP,DDEX,DDE,DDEP,DDUT,DDUX,DDU,DDUP,DDURX,DDUR,NDIT,NDIX,NDI,NDIP,NDIEX,NDIE,NDAT",
    "NDAX,NDA,NDAP,NDOT,NDOX,NDO,NDOP,NDEX,NDE,NDEP,NDUT,NDUX,NDU,NDUP,NDURX,NDUR,HNIT,HNIX,HNI",
    "HNIP,HNIET,HNIEX,HNIE,HNIEP,HNAT,HNAX,HNA,HNAP,HNUOX,HNUO,HNOT,HNOX,HNOP,HNEX,HNE,HNEP,HNUT",
    "NIT,NIX,NI,NIP,NIEX,NIE,NIEP,NAX,NA,NAP,NUOX,NUO,NUOP,NOT,NOX,NO,NOP,NEX,NE,NEP,NUT,NUX,NU",
    "NUP,NURX,NUR,HLIT,HLIX,HLI,HLIP,HLIEX,HLIE,HLIEP,HLAT,HLAX,HLA,HLAP,HLUOX,HLUO,HLUOP,HLOX,HLO",
    "HLOP,HLEX,HLE,HLEP,HLUT,HLUX,HLU,HLUP,HLURX,HLUR,HLYT,HLYX,HLY,HLYP,HLYRX,HLYR,LIT,LIX,LI,LIP",
    "LIET,LIEX,LIE,LIEP,LAT,LAX,LA,LAP,LUOT,LUOX,LUO,LUOP,LOT,LOX,LO,LOP,LEX,LE,LEP,LUT,LUX,LU,LUP",
    "LURX,LUR,LYT,LYX,LY,LYP,LYRX,LYR,GIT,GIX,GI,GIP,GIET,GIEX,GIE,GIEP,GAT,GAX,GA,GAP,GUOT,GUOX",
    "GUO,GUOP,GOT,GOX,GO,GOP,GET,GEX,GE,GEP,GUT,GUX,GU,GUP,GURX,GUR,KIT,KIX,KI,KIP,KIEX,KIE,KIEP",
    "KAT,KAX,KA,KAP,KUOX,KUO,KUOP,KOT,KOX,KO,KOP,KET,KEX,KE,KEP,KUT,KUX,KU,KUP,KURX,KUR,GGIT,GGIX",
    "GGI,GGIEX,GGIE,GGIEP,GGAT,GGAX,GGA,GGAP,GGUOT,GGUOX,GGUO,GGUOP,GGOT,GGOX,GGO,GGOP,GGET,GGEX",
    "GGE,GGEP,GGUT,GGUX,GGU,GGUP,GGURX,GGUR,MGIEX,MGIE,MGAT,MGAX,MGA"]⟩,
  ⟨0xA235, ["YI SYLLABLE *,MGAP,MGUOX,MGUO,MGUOP,MGOT,MGOX,MGO,MGOP,MGEX,MGE,MGEP,MGUT,MGUX,MGU",
    "MGUP,MGURX,MGUR,HXIT,HXIX,HXI,HXIP,HXIET,HXIEX,HXIE,HXIEP,HXAT,HXAX,HXA,HXAP,HXUOT,HXUOX,HXUO",
    "HXUOP,HXOT,HXOX,HXO,HXOP,HXEX,HXE,HXEP,NGIEX,NGIE,NGIEP,NGAT,NGAX,NGA,NGAP,NGUOT,NGUOX,NGUO",
    "NGOT,NGOX,NGO,NGOP,NGEX,NGE,NGEP,HIT,HIEX,HIE,HAT,HAX,HA,HAP,HUOT,HUOX,HUO,HUOP,HOT,HOX,HO",
    "HOP,HEX,HE,HEP,WAT,WAX,WA,WAP,WUOX,WUO,WUOP,WOX,WO,WOP,WEX,WE,WEP,ZIT,ZIX,ZI,ZIP,ZIEX,ZIE",
    "ZIEP,ZAT,ZAX,ZA,ZAP,ZUOX,ZUO,ZUOP,ZOT,ZOX,ZO,ZOP,ZEX,ZE,ZEP,ZUT,ZUX,ZU,ZUP,ZURX,ZUR,ZYT,ZYX",
    "ZY,ZYP,ZYRX,ZYR,CIT,CIX,CI,CIP,CIET,CIEX,CIE,CIEP,CAT,CAX,CA,CAP,CUOX,CUO,CUOP,COT,COX,CO,COP",
    "CEX,CE,CEP,CUT,CUX,CU,CUP,CURX,CUR,CYT,CYX,CY,CYP,CYRX,CYR,ZZIT,ZZIX,ZZI,ZZIP,ZZIET,ZZIEX",
    "ZZIE,ZZIEP,ZZAT,ZZAX,ZZA,ZZAP,ZZOX,ZZO,ZZOP,ZZEX,ZZE,ZZEP,ZZUX,ZZU,ZZUP,ZZURX,ZZUR,ZZYT,ZZYX",
    "ZZY,ZZYP,ZZYRX,ZZYR,NZIT,NZIX,NZI,NZIP,NZIEX,NZIE,NZIEP,NZAT,NZAX,NZA,NZAP,NZUOX,NZUO,NZOX",
    "NZOP,NZEX,NZE,NZUX,NZU,NZUP,NZURX,NZUR,NZYT,NZYX,NZY,NZYP,NZYRX,NZYR,SIT,SIX,SI,SIP,SIEX,SIE",
    "SIEP,SAT,SAX,SA,SAP,SUOX,SUO,SUOP,SOT,SOX,SO,SOP,SEX,SE,SEP,SUT,SUX,SU,SUP,SURX,SUR,SYT,SYX",
    "SY,SYP,SYRX,SYR,SSIT,SSIX,SSI,SSIP,SSIEX,SSIE,SSIEP,SSAT,SSAX,SSA,SSAP,SSOT,SSOX,SSO,SSOP",
    "SSEX,SSE,SSEP,SSUT,SSUX,SSU,SSUP,SSYT,SSYX,SSY,SSYP,SSYRX,SSYR,ZHAT,ZHAX,ZHA,ZHAP,ZHUOX,ZHUO",
    "ZHUOP,ZHOT,ZHOX,ZHO,ZHOP,ZHET,ZHEX,ZHE,ZHEP,ZHUT,ZHUX,ZHU,ZHUP,ZHURX,ZHUR,ZHYT,ZHYX,ZHY,ZHYP",
    "ZHYRX,ZHYR"]⟩,
  ⟨0xA361, ["YI SYLLABLE *,CHAT,CHAX,CHA,CHAP,CHUOT,CHUOX,CHUO,CHUOP,CHOT,CHOX,CHO,CHOP,CHET,CHEX",
    "CHE,CHEP,CHUX,CHU,CHUP,CHURX,CHUR,CHYT,CHYX,CHY,CHYP,CHYRX,CHYR,RRAX,RRA,RRUOX,RRUO,RROT,RROX",
    "RRO,RROP,RRET,RREX,RRE,RREP,RRUT,RRUX,RRU,RRUP,RRURX,RRUR,RRYT,RRYX,RRY,RRYP,RRYRX,RRYR,NRAT",
    "NRAX,NRA,NRAP,NROX,NRO,NROP,NRET,NREX,NRE,NREP,NRUT,NRUX,NRU,NRUP,NRURX,NRUR,NRYT,NRYX,NRY",
    "NRYP,NRYRX,NRYR,SHAT,SHAX,SHA,SHAP,SHUOX,SHUO,SHUOP,SHOT,SHOX,SHO,SHOP,SHET,SHEX,SHE,SHEP",
    "SHUT,SHUX,SHU,SHUP,SHURX,SHUR,SHYT,SHYX,SHY,SHYP,SHYRX,SHYR,RAT,RAX,RA,RAP,RUOX,RUO,RUOP,ROT",
    "ROX,RO,ROP,REX,RE,REP,RUT,RUX,RU,RUP,RURX,RUR,RYT,RYX,RY,RYP,RYRX,RYR,JIT,JIX,JI,JIP,JIET",
    "JIEX,JIE,JIEP,JUOT,JUOX,JUO,JUOP,JOT,JOX,JO,JOP,JUT,JUX,JU,JUP,JURX,JUR,JYT,JYX,JY,JYP,JYRX",
    "JYR,QIT,QIX,QI,QIP,QIET,QIEX,QIE,QIEP,QUOT,QUOX,QUO,QUOP,QOT,QOX,QO,QOP,QUT,QUX,QU,QUP,QURX",
    "QUR,QYT,QYX,QY,QYP,QYRX,QYR,JJIT,JJIX,JJI,JJIP,JJIET,JJIEX,JJIE,JJIEP,JJUOX,JJUO,JJUOP,JJOT",
    "JJOX,JJO,JJOP,JJUT,JJUX,JJU,JJUP,JJURX,JJUR,JJYT,JJYX,JJY,JJYP,NJIT,NJIX,NJI,NJIP,NJIET,NJIEX",
    "NJIE,NJIEP,NJUOX,NJUO,NJOT,NJOX,NJO,NJOP,NJUX,NJU,NJUP,NJURX,NJUR,NJYT,NJYX,NJY,NJYP,NJYRX",
    "NJYR,NYIT,NYIX,NYI,NYIP,NYIET,NYIEX,NYIE,NYIEP,NYUOX,NYUO,NYUOP,NYOT,NYOX,NYO,NYOP,NYUT,NYUX",
    "NYU,NYUP,XIT,XIX,XI,XIP,XIET,XIEX,XIE,XIEP,XUOX,XUO,XOT,XOX,XO,XOP,XYT,XYX,XY,XYP,XYRX,XYR",
    "YIT,YIX,YI,YIP,YIET,YIEX,YIE,YIEP,YUOT,YUOX,YUO,YUOP,YOT,YOX,YO,YOP,YUT,YUX,YU,YUP,YURX,YUR",
    "YYT,YYX,YY,YYP,YYRX,YYR"]⟩,
  ⟨0xA490, ["YI RADICAL *,QOT,LI,KIT,NYIP,CYP,SSI,GGOP,GEP,MI,HXIT,LYR,BBUT,MOP,YO,PUT,HXUO,TAT,GA",
    "ZUP,CYT,DDUR,BUR,GGUO,NYOP,TU,OP,JJUT,ZOT,PYT,HMO,YIT,VUR,SHY,VEP,ZA,JO,NZUP,JJY,GOT,JJIE,WO",
    "DU,SHUR,LIE,CY,CUOP,CIP,HXOP,SHAT,ZUR,SHOP,CHE,ZZIET,NBIE,KE"]⟩,
  ⟨0xA4D0, ["LISU LETTER *,BA,PA,PHA,DA,TA,THA,GA,KA,KHA,JA,CA,CHA,DZA,TSA,TSHA,MA,NA,LA,SA,ZHA,ZA",
    "NGA,HA,XA,HHA,FA,WA,SHA,YA,GHA,A,AE,E,EU,I,O,U,UE,UH,OE,TONE MYA TI,TONE NA PO,TONE MYA CYA",
    "TONE MYA BO,TONE MYA NA,TONE MYA JEU"]⟩, ⟨0xA4FE, ["LISU PUNCTUATION *,COMMA,FULL STOP"]⟩,
  ⟨0xA500, ["VAI SYLLABLE *,EE,EEN,HEE,WEE,WEEN,PEE,BHEE,BEE,MBEE,KPEE,MGBEE,GBEE,FEE,VEE,TEE,THEE",
    "DHEE,DHHEE,LEE,REE,DEE,NDEE,SEE,SHEE,ZEE,ZHEE,CEE,JEE,NJEE,YEE,KEE,NGGEE,GEE,MEE,NEE,NYEE,I",
    "IN,HI,HIN,WI,WIN,PI,BHI,BI,MBI,KPI,MGBI,GBI,FI,VI,TI,THI,DHI,DHHI,LI,RI,DI,NDI,SI,SHI,ZI,ZHI",
    "CI,JI,NJI,YI,KI,NGGI,GI,MI,NI,NYI,A,AN,NGAN,HA,HAN,WA,WAN,PA,BHA,BA,MBA,KPA,KPAN,MGBA,GBA,FA",
    "VA,TA,THA,DHA,DHHA,LA,RA,DA,NDA,SA,SHA,ZA,ZHA,CA,JA,NJA,YA,KA,KAN,NGGA,GA,MA,NA,NYA,OO,OON",
    "HOO,WOO,WOON,POO,BHOO,BOO,MBOO,KPOO,MGBOO,GBOO,FOO,VOO,TOO,THOO,DHOO,DHHOO,LOO,ROO,DOO,NDOO",
    "SOO,SHOO,ZOO,ZHOO,COO,JOO,NJOO,YOO,KOO,NGGOO,GOO,MOO,NOO,NYOO,U,UN,HU,HUN,WU,WUN,PU,BHU,BU",
    "MBU,KPU,MGBU,GBU,FU,VU,TU,THU,DHU,DHHU,LU,RU,DU,NDU,SU,SHU,ZU,ZHU,CU,JU,NJU,YU,KU,NGGU,GU,MU",
    "NU,NYU,O,ON,NGON,HO,HON,WO,WON,PO,BHO,BO,MBO,KPO,MGBO,GBO,GBON,FO,VO,TO,THO,DHO,DHHO,LO,RO,DO",
    "NDO,SO,SHO,ZO,ZHO,CO,JO,NJO,YO,KO,NGGO,GO,MO,NO,NYO,E,EN,NGEN,HE,HEN,WE,WEN,PE,BHE,BE,MBE,KPE",
    "KPEN,MGBE,GBE,GBEN,FE,VE,TE,THE,DHE,DHHE,LE,RE,DE,NDE,SE,SHE,ZE,ZHE,CE,JE,NJE,YE,KE,NGGE",
    "NGGEN,GE,GEN,ME,NE,NYE,NG,LENGTHENER"]⟩, ⟨0xA60D, ["VAI *,COMMA,FULL STOP,QUESTION MARK"]⟩,
  ⟨0xA610, ["VAI SYLLABLE NDOLE *,FA,KA,SOO"]⟩,
  ⟨0xA613, ["VAI SYMBOL *,FEENG,KEENG,TING,NII,BANG,FAA,TAA,DANG,DOONG,KUNG,TONG,DO-O,JONG"]⟩,
  ⟨0xA620, ["VAI DIGIT *,ZERO,ONE,TWO,THREE,FOUR,FIVE,SIX,SEVEN,EIGHT,NINE"]⟩,
  ⟨0xA62A, ["VAI SYLLABLE NDOLE *,MA,DO"]⟩,
  ⟨0xA640, ["CYRILLIC *,CAPITAL LETTER ZEMLYA,SMALL LETTER ZEMLYA,CAPITAL LETTER DZELO",
    "SMALL LETTER DZELO,CAPITAL LETTER REVERSED DZE,SMALL LETTER REVERSED DZE,CAPITAL LETTER IOTA",
    "SMALL LETTER IOTA,CAPITAL LETTER DJERV,SMALL LETTER DJERV,CAPITAL LETTER MONOGRAPH UK",
    "SMALL LETTER MONOGRAPH UK,CAPITAL LETTER BROAD OMEGA,SMALL LETTER BROAD OMEGA",
    "CAPITAL LETTER NEUTRAL YER,SMALL LETTER NEUTRAL YER,CAPITAL LETTER YERU WITH BACK YER",
    "SMALL LETTER YERU WITH BACK YER,CAPITAL LETTER IOTIFIED YAT,SMALL LETTER IOTIFIED YAT",
    "CAPITAL LETTER REVERSED YU,SMALL LETTER REVERSED YU,CAPITAL LETTER IOTIFIED A",
    "SMALL LETTER IOTIFIED A,CAPITAL LETTER CLOSED LITTLE YUS,SMALL LETTER CLOSED LITTLE YUS",
    "CAPITAL LETTER BLENDED YUS,SMALL LETTER BLENDED YUS,CAPITAL LETTER IOTIFIED CLOSED LITTLE YUS",
    "SMALL LETTER IOTIFIED CLOSED LITTLE YUS,CAPITAL LETTER YN,SMALL LETTER YN",
    "CAPITAL LETTER REVERSED TSE,SMALL LETTER REVERSED TSE,CAPITAL LETTER SOFT DE",
    "SMALL LETTER SOFT DE,CAPITAL LETTER SOFT EL,SMALL LETTER SOFT EL,CAPITAL LETTER SOFT EM",
    "SMALL LETTER SOFT EM,CAPITAL LETTER MONOCULAR O,SMALL LETTER MONOCULAR O",
    "CAPITAL LETTER BINOCULAR O,SMALL LETTER BINOCULAR O,CAPITAL LETTER DOUBLE MONOCULAR O",
    "SMALL LETTER DOUBLE MONOCULAR O,LETTER MULTIOCULAR O"]⟩,
  ⟨0xA66F, ["COMBINING CYRILLIC *,VZMET,TEN MILLIONS SIGN,HUNDRED MILLIONS SIGN",
    "THOUSAND MILLIONS SIGN"]⟩, ⟨0xA673, ["SLAVONIC ASTERISK"]⟩,
  ⟨0xA674, ["COMBINING CYRILLIC LETTER *,UKRAINIAN IE,I,YI,U,HARD SIGN,YERU,SOFT SIGN,OMEGA"]⟩,
  ⟨0xA67C, ["COMBINING CYRILLIC *,KAVYKA,PAYEROK"]⟩,
  ⟨0xA67E, ["CYRILLIC *,KAVYKA,PAYEROK,CAPITAL LETTER DWE,SMALL LETTER DWE,CAPITAL LETTER DZWE",
    "SMALL LETTER DZWE,CAPITAL LETTER ZHWE,SMALL LETTER ZHWE,CAPITAL LETTER CCHE,SMALL LETTER CCHE",
    "CAPITAL LETTER DZZE,SMALL LETTER DZZE,CAPITAL LETTER TE WITH MIDDLE HOOK",
    "SMALL LETTER TE WITH MIDDLE HOOK,CAPITAL LETTER TWE,SMALL LETTER TWE,CAPITAL LETTER TSWE",
    "SMALL LETTER TSWE,CAPITAL LETTER TSSE,SMALL LETTER TSSE,CAPITAL LETTER TCHE,SMALL LETTER TCHE",
    "CAPITAL LETTER HWE,SMALL LETTER HWE,CAPITAL LETTER SHWE,SMALL LETTER SHWE",
    "CAPITAL LETTER DOUBLE O,SMALL LETTER DOUBLE O,CAPITAL LETTER CROSSED O",
    "SMALL LETTER CROSSED O"]⟩, ⟨0xA69C, ["MODIFIER LETTER CYRILLIC * SIGN,HARD,SOFT"]⟩,
  ⟨0xA69E, ["COMBINING CYRILLIC LETTER *,EF,IOTIFIED E"]⟩,
  ⟨0xA6A0, ["BAMUM LETTER *,A,KA,U,KU,EE,REE,TAE,O,NYI,I,LA,PA,RII,RIEE,LEEEE,MEEEE,TAA,NDAA,NJAEM",
    "M,SUU,MU,SHII,SI,SHEUX,SEUX,KYEE,KET,NUAE,NU,NJUAE,YOQ,SHU,YUQ,YA,NSHA,KEUX,PEUX,NJEE,NTEE",
    "PUE,WUE,PEE,FEE,RU,LU,MI,NI,REUX,RAE,KEN,NGKWAEN,NGGA,NGA,SHO,PUAE,FU,FOM,WA,NA,LI,PI,LOQ,KO",
    "MBEN,REN,MEN,MA,TI,KI,MO,MBAA,TET,KPA,TEN,NTUU,SAMBA,FAAMAE,KOVUU,KOGHOM"]⟩,
  ⟨0xA6F0, ["BAMUM *,COMBINING MARK KOQNDON,COMBINING MARK TUKWENTIS,NJAEMLI,FULL STOP,COLON,COMMA",
    "SEMICOLON,QUESTION MARK"]⟩,
  ⟨0xA700, ["MODIFIER LETTER CHINESE TONE *,YIN PING,YANG PING,YIN SHANG,YANG SHANG,YIN QU,YANG QU",
    "YIN RU,YANG RU"]⟩,
  ⟨0xA708, ["MODIFIER LETTER * DOTTED TONE BAR,EXTRA-HIGH,HIGH,MID,LOW,EXTRA-LOW"]⟩,
  ⟨0xA70D, ["MODIFIER LETTER * LEFT-STEM TONE BAR,EXTRA-HIGH DOTTED,HIGH DOTTED,MID DOTTED",
    "LOW DOTTED,EXTRA-LOW DOTTED,EXTRA-HIGH,HIGH,MID,LOW,EXTRA-LOW"]⟩,
  ⟨0xA717, ["MODIFIER LETTER *,DOT VERTICAL BAR,DOT SLASH,DOT HORIZONTAL BAR",
    "LOWER RIGHT CORNER ANGLE,RAISED UP ARROW,RAISED DOWN ARROW,RAISED EXCLAMATION MARK",
    "RAISED INVERTED EXCLAMATION MARK,LOW INVERTED EXCLAMATION MARK,STRESS AND HIGH TONE",
    "STRESS AND LOW TONE"]⟩, ⟨0xA722, ["LATIN * LETTER EGYPTOLOGICAL ALEF,CAPITAL,SMALL"]⟩,
  ⟨0xA724, ["LATIN * LETTER EGYPTOLOGICAL AIN,CAPITAL,SMALL"]⟩,
  ⟨0xA726, ["LATIN *,CAPITAL LETTER HENG,SMALL LETTER HENG,CAPITAL LETTER TZ,SMALL LETTER TZ",
    "CAPITAL LETTER TRESILLO,SMALL LETTER TRESILLO,CAPITAL LETTER CUATRILLO,SMALL LETTER CUATRILLO",
    "CAPITAL LETTER CUATRILLO WITH COMMA,SMALL LETTER CUATRILLO WITH COMMA,LETTER SMALL CAPITAL F",
    "LETTER SMALL CAPITAL S,CAPITAL LETTER AA,SMALL LETTER AA,CAPITAL LETTER AO,SMALL LETTER AO",
    "CAPITAL LETTER AU,SMALL LETTER AU,CAPITAL LETTER AV,SMALL LETTER AV",
    "CAPITAL LETTER AV WITH HORIZONTAL BAR,SMALL LETTER AV WITH HORIZONTAL BAR,CAPITAL LETTER AY",
    "SMALL LETTER AY"]⟩, ⟨0xA73E, ["LATIN * LETTER REVERSED C WITH DOT,CAPITAL,SMALL"]⟩,
  ⟨0xA740, ["LATIN * LETTER K WITH STROKE,CAPITAL,SMALL"]⟩,
  ⟨0xA742, ["LATIN * LETTER K WITH DIAGONAL STROKE,CAPITAL,SMALL"]⟩,
  ⟨0xA744, ["LATIN * LETTER K WITH STROKE AND DIAGONAL STROKE,CAPITAL,SMALL"]⟩,
  ⟨0xA746, ["LATIN * LETTER BROKEN L,CAPITAL,SMALL"]⟩,
  ⟨0xA748, ["LATIN * LETTER L WITH HIGH STROKE,CAPITAL,SMALL"]⟩,
  ⟨0xA74A, ["LATIN * LETTER O WITH LONG STROKE OVERLAY,CAPITAL,SMALL"]⟩,
  ⟨0xA74C, ["LATIN * LETTER O WITH LOOP,CAPITAL,SMALL"]⟩,
  ⟨0xA74E, ["LATIN * LETTER OO,CAPITAL,SMALL"]⟩,
  ⟨0xA750, ["LATIN * LETTER P WITH STROKE THROUGH DESCENDER,CAPITAL,SMALL"]⟩,
  ⟨0xA752, ["LATIN * LETTER P WITH FLOURISH,CAPITAL,SMALL"]⟩,
  ⟨0xA754, ["LATIN * LETTER P WITH SQUIRREL TAIL,CAPITAL,SMALL"]⟩,
  ⟨0xA756, ["LATIN * LETTER Q WITH STROKE THROUGH DESCENDER,CAPITAL,SMALL"]⟩,
  ⟨0xA758, ["LATIN * LETTER Q WITH DIAGONAL STROKE,CAPITAL,SMALL"]⟩,
  ⟨0xA75A, ["LATIN * ROTUNDA,CAPITAL LETTER R,SMALL LETTER R,CAPITAL LETTER RUM,SMALL LETTER RUM"]⟩,
  ⟨0xA75E, ["LATIN * LETTER V WITH DIAGONAL STROKE,CAPITAL,SMALL"]⟩,
  ⟨0xA760, ["LATIN * LETTER VY,CAPITAL,SMALL"]⟩,
  ⟨0xA762, ["LATIN * LETTER VISIGOTHIC Z,CAPITAL,SMALL"]⟩,
  ⟨0xA764, ["LATIN * LETTER THORN WITH STROKE,CAPITAL,SMALL"]⟩,
  ⟨0xA766, ["LATIN * LETTER THORN WITH STROKE THROUGH DESCENDER,CAPITAL,SMALL"]⟩,
  ⟨0xA768, ["LATIN *,CAPITAL LETTER VEND,SMALL LETTER VEND,CAPITAL LETTER ET,SMALL LETTER ET",
    "CAPITAL LETTER IS,SMALL LETTER IS,CAPITAL LETTER CON,SMALL LETTER CON"]⟩,
  ⟨0xA770, ["MODIFIER LETTER US"]⟩, ⟨0xA771, ["LATIN SMALL LETTER *,DUM,LUM,MUM,NUM,RUM"]⟩,
  ⟨0xA776, ["LATIN *,LETTER SMALL CAPITAL RUM,SMALL LETTER TUM,SMALL LETTER UM",
    "CAPITAL LETTER INSULAR D,SMALL LETTER INSULAR D,CAPITAL LETTER INSULAR F",
    "SMALL LETTER INSULAR F,CAPITAL LETTER INSULAR G,CAPITAL LETTER TURNED INSULAR G",
    "SMALL LETTER TURNED INSULAR G,CAPITAL LETTER TURNED L,SMALL LETTER TURNED L",
    "CAPITAL LETTER INSULAR R,SMALL LETTER INSULAR R,CAPITAL LETTER INSULAR S",
    "SMALL LETTER INSULAR S,CAPITAL LETTER INSULAR T,SMALL LETTER INSULAR T"]⟩,
  ⟨0xA788, ["MODIFIER LETTER *,LOW CIRCUMFLEX ACCENT,COLON,SHORT EQUALS SIGN"]⟩,
  ⟨0xA78B, ["LATIN *,CAPITAL LETTER SALTILLO,SMALL LETTER SALTILLO,CAPITAL LETTER TURNED H",
    "SMALL LETTER L WITH RETROFLEX HOOK AND BELT,LETTER SINOLOGICAL DOT",
    "CAPITAL LETTER N WITH DESCENDER,SMALL LETTER N WITH DESCENDER,CAPITAL LETTER C WITH BAR",
    "SMALL LETTER C WITH BAR,SMALL LETTER C WITH PALATAL HOOK,SMALL LETTER H WITH PALATAL HOOK",
    "CAPITAL LETTER B WITH FLOURISH,SMALL LETTER B WITH FLOURISH,CAPITAL LETTER F WITH STROKE",
    "SMALL LETTER F WITH STROKE,CAPITAL LETTER VOLAPUK AE,SMALL LETTER VOLAPUK AE",
    "CAPITAL LETTER VOLAPUK OE,SMALL LETTER VOLAPUK OE,CAPITAL LETTER VOLAPUK UE",
    "SMALL LETTER VOLAPUK UE"]⟩,
  ⟨0xA7A0, ["LATIN * WITH OBLIQUE STROKE,CAPITAL LETTER G,SMALL LETTER G,CAPITAL LETTER K",
    "SMALL LETTER K,CAPITAL LETTER N,SMALL LETTER N,CAPITAL LETTER R,SMALL LETTER R",
    "CAPITAL LETTER S,SMALL LETTER S"]⟩,
  ⟨0xA7AA, ["LATIN CAPITAL LETTER *,H WITH HOOK,REVERSED OPEN E,SCRIPT G,L WITH BELT",
    "SMALL CAPITAL I"]⟩, ⟨0xA7AF, ["LATIN LETTER SMALL CAPITAL Q"]⟩,
  ⟨0xA7B0, ["LATIN CAPITAL LETTER *,TURNED K,TURNED T,J WITH CROSSED-TAIL,CHI,BETA"]⟩,
  ⟨0xA7B5, ["LATIN *,SMALL LETTER BETA,CAPITAL LETTER OMEGA,SMALL LETTER OMEGA",
    "CAPITAL LETTER U WITH STROKE,SMALL LETTER U WITH STROKE,CAPITAL LETTER GLOTTAL A",
    "SMALL LETTER GLOTTAL A,CAPITAL LETTER GLOTTAL I,SMALL LETTER GLOTTAL I",
    "CAPITAL LETTER GLOTTAL U,SMALL LETTER GLOTTAL U,CAPITAL LETTER OLD POLISH O",
    "SMALL LETTER OLD POLISH O,CAPITAL LETTER ANGLICANA W,SMALL LETTER ANGLICANA W"]⟩,
  ⟨0xA7C4, ["LATIN CAPITAL LETTER * HOOK,C WITH PALATAL,S WITH,Z WITH PALATAL"]⟩,
  ⟨0xA7C7, ["LATIN * WITH SHORT STROKE OVERLAY,CAPITAL LETTER D,SMALL LETTER D,CAPITAL LETTER S",
    "SMALL LETTER S"]⟩, ⟨0xA7D0, ["LATIN * LETTER CLOSED INSULAR G,CAPITAL,SMALL"]⟩,
  ⟨0xA7D3, ["LATIN SMALL LETTER DOUBLE THORN"]⟩,
  ⟨0xA7D5, ["LATIN *,SMALL LETTER DOUBLE WYNN,CAPITAL LETTER MIDDLE SCOTS S",
    "SMALL LETTER MIDDLE SCOTS S,CAPITAL LETTER SIGMOID S,SMALL LETTER SIGMOID S"]⟩,
  ⟨0xA7F2, ["MODIFIER LETTER CAPITAL *,C,F,Q"]⟩,
  ⟨0xA7F5, ["LATIN * LETTER REVERSED HALF H,CAPITAL,SMALL"]⟩,
  ⟨0xA7F7, ["*,LATIN EPIGRAPHIC LETTER SIDEWAYS I,MODIFIER LETTER CAPITAL H WITH STROKE",
    "MODIFIER LETTER SMALL LIGATURE OE,LATIN LETTER SMALL CAPITAL TURNED M"]⟩,
  ⟨0xA7FB, ["LATIN EPIGRAPHIC LETTER *,REVERSED F,REVERSED P,INVERTED M,I LONGA,ARCHAIC M"]⟩,
  ⟨0xA800, ["SYLOTI NAGRI *,LETTER A,LETTER I,SIGN DVISVARA,LETTER U,LETTER E,LETTER O",
    "SIGN HASANTA,LETTER KO,LETTER KHO,LETTER GO,LETTER GHO,SIGN ANUSVARA"]⟩,
  ⟨0xA80C, ["SYLOTI NAGRI LETTER *,CO,CHO,JO,JHO,TTO,TTHO,DDO,DDHO,TO,THO,DO,DHO,NO,PO,PHO,BO,BHO",
    "MO,RO,LO,RRO,SO,HO"]⟩, ⟨0xA823, ["SYLOTI NAGRI VOWEL SIGN *,A,I,U,E,OO"]⟩,
  ⟨0xA828, ["SYLOTI NAGRI POETRY MARK-*,1,2,3,4"]⟩,
  ⟨0xA82C, ["SYLOTI NAGRI SIGN ALTERNATE HASANTA"]⟩,
  ⟨0xA830, ["NORTH INDIC FRACTION *,ONE QUARTER,ONE HALF,THREE QUARTERS,ONE SIXTEENTH,ONE EIGHTH",
    "THREE SIXTEENTHS"]⟩, ⟨0xA836, ["NORTH INDIC * MARK,QUARTER,PLACEHOLDER,RUPEE,QUANTITY"]⟩,
  ⟨0xA840, ["PHAGS-PA LETTER *,KA,KHA,GA,NGA,CA,CHA,JA,NYA,TA,THA,DA,NA,PA,PHA,BA,MA,TSA,TSHA,DZA",
    "WA,ZHA,ZA,SMALL A,YA,RA,LA,SHA,SA,HA,A,I,U,E,O,QA,XA,FA,GGA,EE"]⟩,
  ⟨0xA867, ["PHAGS-PA SUBJOINED LETTER *,WA,YA"]⟩,
  ⟨0xA869, ["PHAGS-PA LETTER *,TTA,TTHA,DDA,NNA,ALTERNATE YA,VOICELESS SHA,VOICED HA",
    "ASPIRATED FA"]⟩,
  ⟨0xA871, ["PHAGS-PA *,SUBJOINED LETTER RA,SUPERFIXED LETTER RA,LETTER CANDRABINDU",
    "SINGLE HEAD MARK,DOUBLE HEAD MARK,MARK SHAD,MARK DOUBLE SHAD"]⟩,
  ⟨0xA880, ["SAURASHTRA SIGN *,ANUSVARA,VISARGA"]⟩,
  ⟨0xA882, ["SAURASHTRA LETTER *,A,AA,I,II,U,UU,VOCALIC R,VOCALIC RR,VOCALIC L,VOCALIC LL,E,EE,AI",
    "O,OO,AU,KA,KHA,GA,GHA,NGA,CA,CHA,JA,JHA,NYA,TTA,TTHA,DDA,DDHA,NNA,TA,THA,DA,DHA,NA,PA,PHA,BA",
    "BHA,MA,YA,RA,LA,VA,SHA,SSA,SA,HA,LLA"]⟩, ⟨0xA8B4, ["SAURASHTRA CONSONANT SIGN HAARU"]⟩,
  ⟨0xA8B5, ["SAURASHTRA VOWEL SIGN *,AA,I,II,U,UU,VOCALIC R,VOCALIC RR,VOCALIC L,VOCALIC LL,E,EE",
    "AI,O,OO,AU"]⟩, ⟨0xA8C4, ["SAURASHTRA SIGN *,VIRAMA,CANDRABINDU"]⟩,
  ⟨0xA8CE, ["SAURASHTRA *,DANDA,DOUBLE DANDA"]⟩,
  ⟨0xA8D0, ["SAURASHTRA DIGIT *,ZERO,ONE,TWO,THREE,FOUR,FIVE,SIX,SEVEN,EIGHT,NINE"]⟩,
  ⟨0xA8E0, ["COMBINING DEVANAGARI DIGIT *,ZERO,ONE,TWO,THREE,FOUR,FIVE,SIX,SEVEN,EIGHT,NINE"]⟩,
  ⟨0xA8EA, ["COMBINING DEVANAGARI LETTER *,A,U,KA,NA,PA,RA,VI"]⟩,
  ⟨0xA8F1, ["COMBINING DEVANAGARI SIGN AVAGRAHA"]⟩,
  ⟨0xA8F2, ["DEVANAGARI SIGN *,SPACING CANDRABINDU,CANDRABINDU VIRAMA,DOUBLE CANDRABINDU VIRAMA",
    "CANDRABINDU TWO,CANDRABINDU THREE,CANDRABINDU AVAGRAHA,PUSHPIKA"]⟩,
  ⟨0xA8F9, ["DEVANAGARI *,GAP FILLER,CARET,HEADSTROKE,SIGN SIDDHAM,JAIN OM,LETTER AY",
    "VOWEL SIGN AY"]⟩,
  ⟨0xA900, ["KAYAH LI DIGIT *,ZERO,ONE,TWO,THREE,FOUR,FIVE,SIX,SEVEN,EIGHT,NINE"]⟩,
  ⟨0xA90A, ["KAYAH LI LETTER *,KA,KHA,GA,NGA,SA,SHA,ZA,NYA,TA,HTA,NA,PA,PHA,MA,DA,BA,RA,YA,LA,WA",
    "THA,HA,VA,CA,A,OE,I,OO"]⟩,
  ⟨0xA926, ["KAYAH LI *,VOWEL UE,VOWEL E,VOWEL U,VOWEL EE,VOWEL O,TONE PLOPHU,TONE CALYA",
    "TONE CALYA PLOPHU,SIGN CWI,SIGN SHYA"]⟩,
  ⟨0xA930, ["REJANG LETTER *,KA,GA,NGA,TA,DA,NA,PA,BA,MA,CA,JA,NYA,SA,RA,LA,YA,WA,HA,MBA,NGGA,NDA",
    "NYJA,A"]⟩, ⟨0xA947, ["REJANG VOWEL SIGN *,I,U,E,AI,O,AU,EU,EA"]⟩,
  ⟨0xA94F, ["REJANG CONSONANT SIGN *,NG,N,R,H"]⟩, ⟨0xA953, ["REJANG VIRAMA"]⟩,
  ⟨0xA95F, ["REJANG SECTION MARK"]⟩, ⟨0xA960, ["HANGUL CHOSEONG TIKEUT-*,MIEUM,PIEUP,SIOS,CIEUC"]⟩,
  ⟨0xA964, ["HANGUL CHOSEONG RIEUL-*,KIYEOK,SSANGKIYEOK,TIKEUT,SSANGTIKEUT,MIEUM,PIEUP,SSANGPIEUP",
    "KAPYEOUNPIEUP,SIOS,CIEUC,KHIEUKH"]⟩,
  ⟨0xA96F, ["HANGUL CHOSEONG *,MIEUM-KIYEOK,MIEUM-TIKEUT,MIEUM-SIOS,PIEUP-SIOS-THIEUTH",
    "PIEUP-KHIEUKH,PIEUP-HIEUH,SSANGSIOS-PIEUP,IEUNG-RIEUL,IEUNG-HIEUH,SSANGCIEUC-HIEUH",
    "SSANGTHIEUTH,PHIEUPH-HIEUH,HIEUH-SIOS,SSANGYEORINHIEUH"]⟩,
  ⟨0xA980, ["JAVANESE SIGN *,PANYANGGA,CECAK,LAYAR,WIGNYAN"]⟩,
  ⟨0xA984, ["JAVANESE LETTER *,A,I KAWI,I,II,U,PA CEREK,NGA LELET,NGA LELET RASWADI,E,AI,O,KA",
    "KA SASAK,KA MURDA,GA,GA MURDA,NGA,CA,CA MURDA,JA,NYA MURDA,JA MAHAPRANA,NYA,TTA,TTA MAHAPRANA",
    "DDA,DDA MAHAPRANA,NA MURDA,TA,TA MURDA,DA,DA MAHAPRANA,NA,PA,PA MURDA,BA,BA MURDA,MA,YA,RA",
    "RA AGUNG,LA,WA,SA MURDA,SA MAHAPRANA,SA,HA"]⟩, ⟨0xA9B3, ["JAVANESE SIGN CECAK TELU"]⟩,
  ⟨0xA9B4, ["JAVANESE VOWEL SIGN *,TARUNG,TOLONG,WULU,WULU MELIK,SUKU,SUKU MENDUT,TALING",
    "DIRGA MURE,PEPET"]⟩, ⟨0xA9BD, ["JAVANESE CONSONANT SIGN *,KERET,PENGKAL,CAKRA"]⟩,
  ⟨0xA9C0, ["JAVANESE *,PANGKON,LEFT RERENGGAN,RIGHT RERENGGAN,PADA ANDAP,PADA MADYA,PADA LUHUR",
    "PADA WINDU,PADA PANGKAT,PADA LINGSA,PADA LUNGSI,PADA ADEG,PADA ADEG ADEG,PADA PISELEH",
    "TURNED PADA PISELEH"]⟩, ⟨0xA9CF, ["JAVANESE PANGRANGKEP"]⟩,
  ⟨0xA9D0, ["JAVANESE DIGIT *,ZERO,ONE,TWO,THREE,FOUR,FIVE,SIX,SEVEN,EIGHT,NINE"]⟩,
  ⟨0xA9DE, ["JAVANESE PADA *,TIRTA TUMETES,ISEN-ISEN"]⟩,
  ⟨0xA9E0, ["MYANMAR LETTER SHAN *,GHA,CHA,JHA,NNA,BHA"]⟩,
  ⟨0xA9E5, ["MYANMAR *,SIGN SHAN SAW,MODIFIER LETTER SHAN REDUPLICATION"]⟩,
  ⟨0xA9E7, ["MYANMAR LETTER TAI LAING *,NYA,FA,GA,GHA,JA,JHA,DDA,DDHA,NNA"]⟩,
  ⟨0xA9F0, ["MYANMAR TAI LAING DIGIT *,ZERO,ONE,TWO,THREE,FOUR,FIVE,SIX,SEVEN,EIGHT,NINE"]⟩,
  ⟨0xA9FA, ["MYANMAR LETTER TAI LAING *,LLA,DA,DHA,BA,BHA"]⟩,
  ⟨0xAA00, ["CHAM LETTER *,A,I,U,E,AI,O,KA,KHA,GA,GHA,NGUE,NGA,CHA,CHHA,JA,JHA,NHUE,NHA,NHJA,TA",
    "THA,DA,DHA,NUE,NA,DDA,PA,PPA,PHA,BA,BHA,MUE,MA,BBA,YA,RA,LA,VA,SSA,SA,HA"]⟩,
  ⟨0xAA29, ["CHAM VOWEL SIGN *,AA,I,II,EI,U,OE,O,AI,AU,UE"]⟩,
  ⟨0xAA33, ["CHAM CONSONANT SIGN *,YA,RA,LA,WA"]⟩, ⟨0xAA40, ["CHAM LETTER FINAL *,K,G,NG"]⟩,
  ⟨0xAA43, ["CHAM CONSONANT SIGN FINAL NG"]⟩, ⟨0xAA44, ["CHAM LETTER FINAL *,CH,T,N,P,Y,R,L,SS"]⟩,
  ⟨0xAA4C, ["CHAM CONSONANT SIGN FINAL *,M,H"]⟩,
  ⟨0xAA50, ["CHAM DIGIT *,ZERO,ONE,TWO,THREE,FOUR,FIVE,SIX,SEVEN,EIGHT,NINE"]⟩,
  ⟨0xAA5C, ["CHAM PUNCTUATION *,SPIRAL,DANDA,DOUBLE DANDA,TRIPLE DANDA"]⟩,
  ⟨0xAA60, ["MYANMAR LETTER KHAMTI *,GA,CA,CHA,JA,JHA,NYA,TTA,TTHA,DDA,DDHA,DHA,NA,SA,HA,HHA,FA"]⟩,
  ⟨0xAA70, ["MYANMAR *,MODIFIER LETTER KHAMTI REDUPLICATION,LETTER KHAMTI XA,LETTER KHAMTI ZA",
    "LETTER KHAMTI RA,LOGOGRAM KHAMTI OAY,LOGOGRAM KHAMTI QN,LOGOGRAM KHAMTI HM",
    "SYMBOL AITON EXCLAMATION,SYMBOL AITON ONE,SYMBOL AITON TWO,LETTER AITON RA",
    "SIGN PAO KAREN TONE,SIGN TAI LAING TONE-2,SIGN TAI LAING TONE-5,LETTER SHWE PALAUNG CHA",
    "LETTER SHWE PALAUNG SHA"]⟩,
  ⟨0xAA80, ["TAI VIET LETTER *,LOW KO,HIGH KO,LOW KHO,HIGH KHO,LOW KHHO,HIGH KHHO,LOW GO,HIGH GO",
    "LOW NGO,HIGH NGO,LOW CO,HIGH CO,LOW CHO,HIGH CHO,LOW SO,HIGH SO,LOW NYO,HIGH NYO,LOW DO",
    "HIGH DO,LOW TO,HIGH TO,LOW THO,HIGH THO,LOW NO,HIGH NO,LOW BO,HIGH BO,LOW PO,HIGH PO,LOW PHO",
    "HIGH PHO,LOW FO,HIGH FO,LOW MO,HIGH MO,LOW YO,HIGH YO,LOW RO,HIGH RO,LOW LO,HIGH LO,LOW VO",
    "HIGH VO,LOW HO,HIGH HO,LOW O,HIGH O"]⟩,
  ⟨0xAAB0, ["TAI VIET *,MAI KANG,VOWEL AA,VOWEL I,VOWEL UE,VOWEL U,VOWEL E,VOWEL O,MAI KHIT"]⟩,
  ⟨0xAAB8, ["TAI VIET VOWEL *,IA,UEA,UA,AUE,AY,AN,AM"]⟩,
  ⟨0xAABF, ["TAI VIET TONE MAI *,EK,NUENG,THO,SONG"]⟩,
  ⟨0xAADB, ["TAI VIET SYMBOL *,KON,NUENG,SAM,HO HOI,KOI KOI"]⟩,
  ⟨0xAAE0, ["MEETEI MAYEK LETTER *,E,O,CHA,NYA,TTA,TTHA,DDA,DDHA,NNA,SHA,SSA"]⟩,
  ⟨0xAAEB, ["MEETEI MAYEK VOWEL SIGN *,II,UU,AAI,AU,AAU"]⟩,
  ⟨0xAAF0, ["MEETEI MAYEK *,CHEIKHAN,AHANG KHUDAM,ANJI,SYLLABLE REPETITION MARK",
    "WORD REPETITION MARK,VOWEL SIGN VISARGA,VIRAMA"]⟩,
  ⟨0xAB01, ["ETHIOPIC SYLLABLE *,TTHU,TTHI,TTHAA,TTHEE,TTHE,TTHO"]⟩,
  ⟨0xAB09, ["ETHIOPIC SYLLABLE *,DDHU,DDHI,DDHAA,DDHEE,DDHE,DDHO"]⟩,
  ⟨0xAB11, ["ETHIOPIC SYLLABLE *,DZU,DZI,DZAA,DZEE,DZE,DZO"]⟩,
  ⟨0xAB20, ["ETHIOPIC SYLLABLE *,CCHHA,CCHHU,CCHHI,CCHHAA,CCHHEE,CCHHE,CCHHO"]⟩,
  ⟨0xAB28, ["ETHIOPIC SYLLABLE *,BBA,BBU,BBI,BBAA,BBEE,BBE,BBO"]⟩,
  ⟨0xAB30, ["LATIN SMALL LETTER *,BARRED ALPHA,A REVERSED-SCHWA,BLACKLETTER E,BARRED E",
    "E WITH FLOURISH,LENIS F,SCRIPT G WITH CROSSED-TAIL,L WITH INVERTED LAZY S",
    "L WITH DOUBLE MIDDLE TILDE,L WITH MIDDLE RING,M WITH CROSSED-TAIL,N WITH CROSSED-TAIL",
    "ENG WITH CROSSED-TAIL,BLACKLETTER O,BLACKLETTER O WITH STROKE,OPEN O WITH STROKE,INVERTED OE",
    "TURNED OE WITH STROKE,TURNED OE WITH HORIZONTAL STROKE,TURNED O OPEN-O",
    "TURNED O OPEN-O WITH STROKE,STIRRUP R"]⟩,
  ⟨0xAB46, ["LATIN LETTER SMALL CAPITAL R WITH RIGHT LEG"]⟩,
  ⟨0xAB47, ["LATIN SMALL LETTER *,R WITHOUT HANDLE,DOUBLE R,R WITH CROSSED-TAIL",
    "DOUBLE R WITH CROSSED-TAIL,SCRIPT R,SCRIPT R WITH RING,BASELINE ESH,U WITH SHORT RIGHT LEG",
    "U BAR WITH SHORT RIGHT LEG,UI,TURNED UI,U WITH LEFT HOOK,CHI,CHI WITH LOW RIGHT RING",
    "CHI WITH LOW LEFT SERIF,X WITH LOW RIGHT RING,X WITH LONG LEFT LEG",
    "X WITH LONG LEFT LEG AND LOW RIGHT RING,X WITH LONG LEFT LEG WITH SERIF",
    "Y WITH SHORT RIGHT LEG"]⟩, ⟨0xAB5B, ["MODIFIER BREVE WITH INVERTED BREVE"]⟩,
  ⟨0xAB5C, ["MODIFIER LETTER SMALL *,HENG,L WITH INVERTED LAZY S,L WITH MIDDLE TILDE",
    "U WITH LEFT HOOK"]⟩,
  ⟨0xAB60, ["LATIN SMALL LETTER *,SAKHA YAT,IOTIFIED E,OPEN OE,UO,INVERTED ALPHA"]⟩,
  ⟨0xAB65, ["GREEK LETTER SMALL CAPITAL OMEGA"]⟩,
  ⟨0xAB66, ["LATIN SMALL LETTER *,DZ DIGRAPH WITH RETROFLEX HOOK,TS DIGRAPH WITH RETROFLEX HOOK",
    "TURNED R WITH MIDDLE TILDE"]⟩,
  ⟨0xAB69, ["MODIFIER LETTER *,SMALL TURNED W,LEFT TACK,RIGHT TACK"]⟩,
  ⟨0xAB70, ["CHEROKEE SMALL LETTER *,A,E,I,O,U,V,GA,KA,GE,GI,GO,GU,GV,HA,HE,HI,HO,HU,HV,LA,LE,LI",
    "LO,LU,LV,MA,ME,MI,MO,MU,NA,HNA,NAH,NE,NI,NO,NU,NV,QUA,QUE,QUI,QUO,QUU,QUV,SA,S,SE,SI,SO,SU,SV",
    "DA,TA,DE,TE,DI,TI,DO,DU,DV,DLA,TLA,TLE,TLI,TLO,TLU,TLV,TSA,TSE,TSI,TSO,TSU,TSV,WA,WE,WI,WO,WU",
    "WV,YA"]⟩,
  ⟨0xABC0, ["MEETEI MAYEK LETTER *,KOK,SAM,LAI,MIT,PA,NA,CHIL,TIL,KHOU,NGOU,THOU,WAI,YANG,HUK,UN,I",
    "PHAM,ATIYA,GOK,JHAM,RAI,BA,JIL,DIL,GHOU,DHOU,BHAM"]⟩,
  ⟨0xABDB, ["MEETEI MAYEK LETTER * LONSUM,KOK,LAI,MIT,PA,NA,TIL,NGOU,I"]⟩,
  ⟨0xABE3, ["MEETEI MAYEK VOWEL SIGN *,ONAP,INAP,ANAP,YENAP,SOUNAP,UNAP,CHEINAP,NUNG"]⟩,
  ⟨0xABEB, ["MEETEI MAYEK *,CHEIKHEI,LUM IYEK,APUN IYEK"]⟩,
  ⟨0xABF0, ["MEETEI MAYEK DIGIT *,ZERO,ONE,TWO,THREE,FOUR,FIVE,SIX,SEVEN,EIGHT,NINE"]⟩]

/-- The names of presentation forms. -/
def formNames : List NameEntry := [
  ⟨0xD7B0, ["HANGUL JUNGSEONG *,O-YEO,O-O-I,YO-A,YO-AE,YO-EO,U-YEO,U-I-I,YU-AE,YU-O,EU-A,EU-EO",
    "EU-E,EU-O,I-YA-O,I-YAE,I-YEO,I-YE,I-O-I,I-YO,I-YU,I-I,ARAEA-A,ARAEA-E"]⟩,
  ⟨0xD7CB, ["HANGUL JONGSEONG *,NIEUN-RIEUL,NIEUN-CHIEUCH,SSANGTIKEUT,SSANGTIKEUT-PIEUP",
    "TIKEUT-PIEUP,TIKEUT-SIOS,TIKEUT-SIOS-KIYEOK,TIKEUT-CIEUC,TIKEUT-CHIEUCH,TIKEUT-THIEUTH",
    "RIEUL-SSANGKIYEOK,RIEUL-KIYEOK-HIEUH,SSANGRIEUL-KHIEUKH,RIEUL-MIEUM-HIEUH,RIEUL-PIEUP-TIKEUT",
    "RIEUL-PIEUP-PHIEUPH,RIEUL-YESIEUNG,RIEUL-YEORINHIEUH-HIEUH,KAPYEOUNRIEUL,MIEUM-NIEUN",
    "MIEUM-SSANGNIEUN,SSANGMIEUM,MIEUM-PIEUP-SIOS,MIEUM-CIEUC,PIEUP-TIKEUT,PIEUP-RIEUL-PHIEUPH",
    "PIEUP-MIEUM,SSANGPIEUP,PIEUP-SIOS-TIKEUT,PIEUP-CIEUC,PIEUP-CHIEUCH,SIOS-MIEUM",
    "SIOS-KAPYEOUNPIEUP,SSANGSIOS-KIYEOK,SSANGSIOS-TIKEUT,SIOS-PANSIOS,SIOS-CIEUC,SIOS-CHIEUCH",
    "SIOS-THIEUTH,SIOS-HIEUH,PANSIOS-PIEUP,PANSIOS-KAPYEOUNPIEUP,YESIEUNG-MIEUM,YESIEUNG-HIEUH",
    "CIEUC-PIEUP,CIEUC-SSANGPIEUP,SSANGCIEUC,PHIEUPH-SIOS,PHIEUPH-THIEUTH"]⟩,
  ⟨0xFB00, ["LATIN SMALL LIGATURE *,FF,FI,FL,FFI,FFL,LONG S T,ST"]⟩,
  ⟨0xFB13, ["ARMENIAN SMALL LIGATURE *,MEN NOW,MEN ECH,MEN INI,VEW NOW,MEN XEH"]⟩,
  ⟨0xFB1D, ["HEBREW *,LETTER YOD WITH HIRIQ,POINT JUDEO-SPANISH VARIKA",
    "LIGATURE YIDDISH YOD YOD PATAH"]⟩,
  ⟨0xFB20, ["HEBREW LETTER *,ALTERNATIVE AYIN,WIDE ALEF,WIDE DALET,WIDE HE,WIDE KAF,WIDE LAMED",
    "WIDE FINAL MEM,WIDE RESH,WIDE TAV,ALTERNATIVE PLUS SIGN,SHIN WITH SHIN DOT,SHIN WITH SIN DOT",
    "SHIN WITH DAGESH AND SHIN DOT,SHIN WITH DAGESH AND SIN DOT,ALEF WITH PATAH,ALEF WITH QAMATS",
    "ALEF WITH MAPIQ,BET WITH DAGESH,GIMEL WITH DAGESH,DALET WITH DAGESH,HE WITH MAPIQ",
    "VAV WITH DAGESH,ZAYIN WITH DAGESH"]⟩,
  ⟨0xFB38, ["HEBREW LETTER * WITH DAGESH,TET,YOD,FINAL KAF,KAF,LAMED"]⟩,
  ⟨0xFB3E, ["HEBREW LETTER MEM WITH DAGESH"]⟩, ⟨0xFB40, ["HEBREW LETTER * WITH DAGESH,NUN,SAMEKH"]⟩,
  ⟨0xFB43, ["HEBREW LETTER *,FINAL PE WITH DAGESH,PE WITH DAGESH"]⟩,
  ⟨0xFB46, ["HEBREW LETTER * WITH DAGESH,TSADI,QOF,RESH,SHIN,TAV"]⟩,
  ⟨0xFB4B, ["HEBREW *,LETTER VAV WITH HOLAM,LETTER BET WITH RAFE,LETTER KAF WITH RAFE",
    "LETTER PE WITH RAFE,LIGATURE ALEF LAMED"]⟩,
  ⟨0xFB50, ["ARABIC LETTER * FORM,ALEF WASLA ISOLATED,ALEF WASLA FINAL,BEEH ISOLATED,BEEH FINAL",
    "BEEH INITIAL,BEEH MEDIAL,PEH ISOLATED,PEH FINAL,PEH INITIAL,PEH MEDIAL,BEHEH ISOLATED",
    "BEHEH FINAL,BEHEH INITIAL,BEHEH MEDIAL,TTEHEH ISOLATED,TTEHEH FINAL,TTEHEH INITIAL",
    "TTEHEH MEDIAL,TEHEH ISOLATED,TEHEH FINAL,TEHEH INITIAL,TEHEH MEDIAL,TTEH ISOLATED,TTEH FINAL",
    "TTEH INITIAL,TTEH MEDIAL,VEH ISOLATED,VEH FINAL,VEH INITIAL,VEH MEDIAL,PEHEH ISOLATED",
    "PEHEH FINAL,PEHEH INITIAL,PEHEH MEDIAL,DYEH ISOLATED,DYEH FINAL,DYEH INITIAL,DYEH MEDIAL",
    "NYEH ISOLATED,NYEH FINAL,NYEH INITIAL,NYEH MEDIAL,TCHEH ISOLATED,TCHEH FINAL,TCHEH INITIAL",
    "TCHEH MEDIAL,TCHEHEH ISOLATED,TCHEHEH FINAL,TCHEHEH INITIAL,TCHEHEH MEDIAL,DDAHAL ISOLATED",
    "DDAHAL FINAL,DAHAL ISOLATED,DAHAL FINAL,DUL ISOLATED,DUL FINAL,DDAL ISOLATED,DDAL FINAL",
    "JEH ISOLATED,JEH FINAL,RREH ISOLATED,RREH FINAL,KEHEH ISOLATED,KEHEH FINAL,KEHEH INITIAL",
    "KEHEH MEDIAL,GAF ISOLATED,GAF FINAL,GAF INITIAL,GAF MEDIAL,GUEH ISOLATED,GUEH FINAL",
    "GUEH INITIAL,GUEH MEDIAL,NGOEH ISOLATED,NGOEH FINAL,NGOEH INITIAL,NGOEH MEDIAL",
    "NOON GHUNNA ISOLATED,NOON GHUNNA FINAL,RNOON ISOLATED,RNOON FINAL,RNOON INITIAL,RNOON MEDIAL",
    "HEH WITH YEH ABOVE ISOLATED,HEH WITH YEH ABOVE FINAL,HEH GOAL ISOLATED,HEH GOAL FINAL",
    "HEH GOAL INITIAL,HEH GOAL MEDIAL"]⟩,
  ⟨0xFBAA, ["ARABIC LETTER HEH DOACHASHMEE * FORM,ISOLATED,FINAL,INITIAL,MEDIAL"]⟩,
  ⟨0xFBAE, ["ARABIC LETTER YEH BARREE * FORM,ISOLATED,FINAL,WITH HAMZA ABOVE ISOLATED",
    "WITH HAMZA ABOVE FINAL"]⟩,
  ⟨0xFBB2, ["ARABIC SYMBOL *,DOT ABOVE,DOT BELOW,TWO DOTS ABOVE,TWO DOTS BELOW,THREE DOTS ABOVE",
    "THREE DOTS BELOW,THREE DOTS POINTING DOWNWARDS ABOVE,THREE DOTS POINTING DOWNWARDS BELOW",
    "FOUR DOTS ABOVE,FOUR DOTS BELOW,DOUBLE VERTICAL BAR BELOW,TWO DOTS VERTICALLY ABOVE",
    "TWO DOTS VERTICALLY BELOW,RING,SMALL TAH ABOVE,SMALL TAH BELOW,WASLA ABOVE"]⟩,
  ⟨0xFBD3, ["ARABIC LETTER * FORM,NG ISOLATED,NG FINAL,NG INITIAL,NG MEDIAL,U ISOLATED,U FINAL",
    "OE ISOLATED,OE FINAL,YU ISOLATED,YU FINAL,U WITH HAMZA ABOVE ISOLATED,VE ISOLATED,VE FINAL",
    "KIRGHIZ OE ISOLATED,KIRGHIZ OE FINAL,KIRGHIZ YU ISOLATED,KIRGHIZ YU FINAL,E ISOLATED,E FINAL",
    "E INITIAL,E MEDIAL,UIGHUR KAZAKH KIRGHIZ ALEF MAKSURA INITIAL",
    "UIGHUR KAZAKH KIRGHIZ ALEF MAKSURA MEDIAL"]⟩,
  ⟨0xFBEA, ["ARABIC LIGATURE YEH WITH HAMZA ABOVE WITH * FORM,ALEF ISOLATED,ALEF FINAL,AE ISOLATED",
    "AE FINAL,WAW ISOLATED,WAW FINAL,U ISOLATED,U FINAL,OE ISOLATED,OE FINAL,YU ISOLATED,YU FINAL",
    "E ISOLATED,E FINAL,E INITIAL"]⟩,
  ⟨0xFBF9, ["ARABIC LIGATURE UIGHUR KIRGHIZ YEH WITH HAMZA ABOVE WITH ALEF MAKSURA * FORM,ISOLATED",
    "FINAL,INITIAL"]⟩, ⟨0xFBFC, ["ARABIC LETTER FARSI YEH * FORM,ISOLATED,FINAL,INITIAL,MEDIAL"]⟩,
  ⟨0xFC00, ["ARABIC LIGATURE YEH WITH HAMZA ABOVE WITH * ISOLATED FORM,JEEM,HAH,MEEM,ALEF MAKSURA",
    "YEH"]⟩,
  ⟨0xFC05, ["ARABIC LIGATURE * ISOLATED FORM,BEH WITH JEEM,BEH WITH HAH,BEH WITH KHAH",
    "BEH WITH MEEM,BEH WITH ALEF MAKSURA,BEH WITH YEH,TEH WITH JEEM,TEH WITH HAH,TEH WITH KHAH",
    "TEH WITH MEEM,TEH WITH ALEF MAKSURA,TEH WITH YEH,THEH WITH JEEM,THEH WITH MEEM",
    "THEH WITH ALEF MAKSURA,THEH WITH YEH,JEEM WITH HAH,JEEM WITH MEEM,HAH WITH JEEM,HAH WITH MEEM",
    "KHAH WITH JEEM,KHAH WITH HAH,KHAH WITH MEEM,SEEN WITH JEEM,SEEN WITH HAH,SEEN WITH KHAH",
    "SEEN WITH MEEM,SAD WITH HAH,SAD WITH MEEM,DAD WITH JEEM,DAD WITH HAH,DAD WITH KHAH",
    "DAD WITH MEEM,TAH WITH HAH,TAH WITH MEEM,ZAH WITH MEEM,AIN WITH JEEM,AIN WITH MEEM",
    "GHAIN WITH JEEM,GHAIN WITH MEEM,FEH WITH JEEM,FEH WITH HAH,FEH WITH KHAH,FEH WITH MEEM",
    "FEH WITH ALEF MAKSURA,FEH WITH YEH,QAF WITH HAH,QAF WITH MEEM,QAF WITH ALEF MAKSURA",
    "QAF WITH YEH"]⟩,
  ⟨0xFC37, ["ARABIC LIGATURE KAF WITH * ISOLATED FORM,ALEF,JEEM,HAH,KHAH,LAM,MEEM,ALEF MAKSURA",
    "YEH"]⟩,
  ⟨0xFC3F, ["ARABIC LIGATURE LAM WITH * ISOLATED FORM,JEEM,HAH,KHAH,MEEM,ALEF MAKSURA,YEH"]⟩,
  ⟨0xFC45, ["ARABIC LIGATURE MEEM WITH * ISOLATED FORM,JEEM,HAH,KHAH,MEEM,ALEF MAKSURA,YEH"]⟩,
  ⟨0xFC4B, ["ARABIC LIGATURE NOON WITH * ISOLATED FORM,JEEM,HAH,KHAH,MEEM,ALEF MAKSURA,YEH"]⟩,
  ⟨0xFC51, ["ARABIC LIGATURE HEH WITH * ISOLATED FORM,JEEM,MEEM,ALEF MAKSURA,YEH"]⟩,
  ⟨0xFC55, ["ARABIC LIGATURE YEH WITH * ISOLATED FORM,JEEM,HAH,KHAH,MEEM,ALEF MAKSURA,YEH"]⟩,
  ⟨0xFC5B, ["ARABIC LIGATURE * WITH SUPERSCRIPT ALEF ISOLATED FORM,THAL,REH,ALEF MAKSURA"]⟩,
  ⟨0xFC5E, ["ARABIC LIGATURE SHADDA WITH * ISOLATED FORM,DAMMATAN,KASRATAN,FATHA,DAMMA,KASRA",
    "SUPERSCRIPT ALEF"]⟩,
  ⟨0xFC64, ["ARABIC LIGATURE YEH WITH HAMZA ABOVE WITH * FINAL FORM,REH,ZAIN,MEEM,NOON",
    "ALEF MAKSURA,YEH"]⟩,
  ⟨0xFC6A, ["ARABIC LIGATURE BEH WITH * FINAL FORM,REH,ZAIN,MEEM,NOON,ALEF MAKSURA,YEH"]⟩,
  ⟨0xFC70, ["ARABIC LIGATURE TEH WITH * FINAL FORM,REH,ZAIN,MEEM,NOON,ALEF MAKSURA,YEH"]⟩,
  ⟨0xFC76, ["ARABIC LIGATURE THEH WITH * FINAL FORM,REH,ZAIN,MEEM,NOON,ALEF MAKSURA,YEH"]⟩,
  ⟨0xFC7C, ["ARABIC LIGATURE * FINAL FORM,FEH WITH ALEF MAKSURA,FEH WITH YEH,QAF WITH ALEF MAKSURA",
    "QAF WITH YEH,KAF WITH ALEF,KAF WITH LAM,KAF WITH MEEM,KAF WITH ALEF MAKSURA,KAF WITH YEH",
    "LAM WITH MEEM,LAM WITH ALEF MAKSURA,LAM WITH YEH,MEEM WITH ALEF,MEEM WITH MEEM,NOON WITH REH",
    "NOON WITH ZAIN,NOON WITH MEEM,NOON WITH NOON,NOON WITH ALEF MAKSURA,NOON WITH YEH",
    "ALEF MAKSURA WITH SUPERSCRIPT ALEF"]⟩,
  ⟨0xFC91, ["ARABIC LIGATURE YEH WITH * FINAL FORM,REH,ZAIN,MEEM,NOON,ALEF MAKSURA,YEH"]⟩,
  ⟨0xFC97, ["ARABIC LIGATURE YEH WITH HAMZA ABOVE WITH * INITIAL FORM,JEEM,HAH,KHAH,MEEM,HEH"]⟩,
  ⟨0xFC9C, ["ARABIC LIGATURE * INITIAL FORM,BEH WITH JEEM,BEH WITH HAH,BEH WITH KHAH,BEH WITH MEEM",
    "BEH WITH HEH,TEH WITH JEEM,TEH WITH HAH,TEH WITH KHAH,TEH WITH MEEM,TEH WITH HEH",
    "THEH WITH MEEM,JEEM WITH HAH,JEEM WITH MEEM,HAH WITH JEEM,HAH WITH MEEM,KHAH WITH JEEM",
    "KHAH WITH MEEM,SEEN WITH JEEM,SEEN WITH HAH,SEEN WITH KHAH,SEEN WITH MEEM,SAD WITH HAH",
    "SAD WITH KHAH,SAD WITH MEEM,DAD WITH JEEM,DAD WITH HAH,DAD WITH KHAH,DAD WITH MEEM",
    "TAH WITH HAH,ZAH WITH MEEM,AIN WITH JEEM,AIN WITH MEEM,GHAIN WITH JEEM,GHAIN WITH MEEM",
    "FEH WITH JEEM,FEH WITH HAH,FEH WITH KHAH,FEH WITH MEEM,QAF WITH HAH,QAF WITH MEEM",
    "KAF WITH JEEM,KAF WITH HAH,KAF WITH KHAH,KAF WITH LAM,KAF WITH MEEM,LAM WITH JEEM",
    "LAM WITH HAH,LAM WITH KHAH,LAM WITH MEEM,LAM WITH HEH,MEEM WITH JEEM,MEEM WITH HAH",
    "MEEM WITH KHAH,MEEM WITH MEEM,NOON WITH JEEM,NOON WITH HAH,NOON WITH KHAH,NOON WITH MEEM",
    "NOON WITH HEH,HEH WITH JEEM,HEH WITH MEEM,HEH WITH SUPERSCRIPT ALEF,YEH WITH JEEM",
    "YEH WITH HAH,YEH WITH KHAH,YEH WITH MEEM,YEH WITH HEH"]⟩,
  ⟨0xFCDF, ["ARABIC LIGATURE * MEDIAL FORM,YEH WITH HAMZA ABOVE WITH MEEM",
    "YEH WITH HAMZA ABOVE WITH HEH,BEH WITH MEEM,BEH WITH HEH,TEH WITH MEEM,TEH WITH HEH",
    "THEH WITH MEEM,THEH WITH HEH,SEEN WITH MEEM,SEEN WITH HEH,SHEEN WITH MEEM,SHEEN WITH HEH",
    "KAF WITH LAM,KAF WITH MEEM,LAM WITH MEEM,NOON WITH MEEM,NOON WITH HEH,YEH WITH MEEM",
    "YEH WITH HEH,SHADDA WITH FATHA,SHADDA WITH DAMMA,SHADDA WITH KASRA"]⟩,
  ⟨0xFCF5, ["ARABIC LIGATURE * ISOLATED FORM,TAH WITH ALEF MAKSURA,TAH WITH YEH",
    "AIN WITH ALEF MAKSURA,AIN WITH YEH,GHAIN WITH ALEF MAKSURA,GHAIN WITH YEH",
    "SEEN WITH ALEF MAKSURA,SEEN WITH YEH,SHEEN WITH ALEF MAKSURA,SHEEN WITH YEH",
    "HAH WITH ALEF MAKSURA,HAH WITH YEH,JEEM WITH ALEF MAKSURA,JEEM WITH YEH",
    "KHAH WITH ALEF MAKSURA,KHAH WITH YEH,SAD WITH ALEF MAKSURA,SAD WITH YEH,DAD WITH ALEF MAKSURA",
    "DAD WITH YEH,SHEEN WITH JEEM,SHEEN WITH HAH,SHEEN WITH KHAH,SHEEN WITH MEEM,SHEEN WITH REH",
    "SEEN WITH REH,SAD WITH REH,DAD WITH REH"]⟩,
  ⟨0xFD11, ["ARABIC LIGATURE * FINAL FORM,TAH WITH ALEF MAKSURA,TAH WITH YEH,AIN WITH ALEF MAKSURA",
    "AIN WITH YEH,GHAIN WITH ALEF MAKSURA,GHAIN WITH YEH,SEEN WITH ALEF MAKSURA,SEEN WITH YEH",
    "SHEEN WITH ALEF MAKSURA,SHEEN WITH YEH,HAH WITH ALEF MAKSURA,HAH WITH YEH",
    "JEEM WITH ALEF MAKSURA,JEEM WITH YEH,KHAH WITH ALEF MAKSURA,KHAH WITH YEH",
    "SAD WITH ALEF MAKSURA,SAD WITH YEH,DAD WITH ALEF MAKSURA,DAD WITH YEH,SHEEN WITH JEEM",
    "SHEEN WITH HAH,SHEEN WITH KHAH,SHEEN WITH MEEM,SHEEN WITH REH,SEEN WITH REH,SAD WITH REH",
    "DAD WITH REH"]⟩,
  ⟨0xFD2D, ["ARABIC LIGATURE * INITIAL FORM,SHEEN WITH JEEM,SHEEN WITH HAH,SHEEN WITH KHAH",
    "SHEEN WITH MEEM,SEEN WITH HEH,SHEEN WITH HEH,TAH WITH MEEM"]⟩,
  ⟨0xFD34, ["ARABIC LIGATURE * MEDIAL FORM,SEEN WITH JEEM,SEEN WITH HAH,SEEN WITH KHAH",
    "SHEEN WITH JEEM,SHEEN WITH HAH,SHEEN WITH KHAH,TAH WITH MEEM,ZAH WITH MEEM"]⟩,
  ⟨0xFD3C, ["ARABIC LIGATURE ALEF WITH FATHATAN * FORM,FINAL,ISOLATED"]⟩,
  ⟨0xFD3E, ["ORNATE * PARENTHESIS,LEFT,RIGHT"]⟩,
  ⟨0xFD40, ["ARABIC LIGATURE *,RAHIMAHU ALLAAH,RADI ALLAAHU ANH,RADI ALLAAHU ANHAA",
    "RADI ALLAAHU ANHUM,RADI ALLAAHU ANHUMAA,RADI ALLAAHU ANHUNNA,SALLALLAAHU ALAYHI WA-AALIH",
    "ALAYHI AS-SALAAM,ALAYHIM AS-SALAAM,ALAYHIMAA AS-SALAAM,ALAYHI AS-SALAATU WAS-SALAAM",
    "QUDDISA SIRRAH,SALLALLAHU ALAYHI WAAALIHEE WA-SALLAM,ALAYHAA AS-SALAAM,TABAARAKA WA-TAAALAA",
    "RAHIMAHUM ALLAAH,TEH WITH JEEM WITH MEEM INITIAL FORM,TEH WITH HAH WITH JEEM FINAL FORM"]⟩,
  ⟨0xFD52, ["ARABIC LIGATURE TEH WITH * INITIAL FORM,HAH WITH JEEM,HAH WITH MEEM,KHAH WITH MEEM",
    "MEEM WITH JEEM,MEEM WITH HAH,MEEM WITH KHAH"]⟩,
  ⟨0xFD58, ["ARABIC LIGATURE JEEM WITH MEEM WITH HAH * FORM,FINAL,INITIAL"]⟩,
  ⟨0xFD5A, ["ARABIC LIGATURE HAH WITH MEEM WITH * FINAL FORM,YEH,ALEF MAKSURA"]⟩,
  ⟨0xFD5C, ["ARABIC LIGATURE SEEN WITH * FORM,HAH WITH JEEM INITIAL,JEEM WITH HAH INITIAL",
    "JEEM WITH ALEF MAKSURA FINAL,MEEM WITH HAH FINAL,MEEM WITH HAH INITIAL,MEEM WITH JEEM INITIAL",
    "MEEM WITH MEEM FINAL,MEEM WITH MEEM INITIAL"]⟩,
  ⟨0xFD64, ["ARABIC LIGATURE SAD WITH * FORM,HAH WITH HAH FINAL,HAH WITH HAH INITIAL",
    "MEEM WITH MEEM FINAL"]⟩,
  ⟨0xFD67, ["ARABIC LIGATURE SHEEN WITH * FORM,HAH WITH MEEM FINAL,HAH WITH MEEM INITIAL",
    "JEEM WITH YEH FINAL,MEEM WITH KHAH FINAL,MEEM WITH KHAH INITIAL,MEEM WITH MEEM FINAL",
    "MEEM WITH MEEM INITIAL"]⟩,
  ⟨0xFD6E, ["ARABIC LIGATURE DAD WITH * FORM,HAH WITH ALEF MAKSURA FINAL,KHAH WITH MEEM FINAL",
    "KHAH WITH MEEM INITIAL"]⟩,
  ⟨0xFD71, ["ARABIC LIGATURE TAH WITH MEEM WITH * FORM,HAH FINAL,HAH INITIAL,MEEM INITIAL",
    "YEH FINAL"]⟩,
  ⟨0xFD75, ["ARABIC LIGATURE AIN WITH * FORM,JEEM WITH MEEM FINAL,MEEM WITH MEEM FINAL",
    "MEEM WITH MEEM INITIAL,MEEM WITH ALEF MAKSURA FINAL"]⟩,
  ⟨0xFD79, ["ARABIC LIGATURE GHAIN WITH MEEM WITH * FINAL FORM,MEEM,YEH,ALEF MAKSURA"]⟩,
  ⟨0xFD7C, ["ARABIC LIGATURE FEH WITH KHAH WITH MEEM * FORM,FINAL,INITIAL"]⟩,
  ⟨0xFD7E, ["ARABIC LIGATURE QAF WITH MEEM WITH * FINAL FORM,HAH,MEEM"]⟩,
  ⟨0xFD80, ["ARABIC LIGATURE LAM WITH * FORM,HAH WITH MEEM FINAL,HAH WITH YEH FINAL",
    "HAH WITH ALEF MAKSURA FINAL,JEEM WITH JEEM INITIAL,JEEM WITH JEEM FINAL,KHAH WITH MEEM FINAL",
    "KHAH WITH MEEM INITIAL,MEEM WITH HAH FINAL,MEEM WITH HAH INITIAL"]⟩,
  ⟨0xFD89, ["ARABIC LIGATURE MEEM WITH * FORM,HAH WITH JEEM INITIAL,HAH WITH MEEM INITIAL",
    "HAH WITH YEH FINAL,JEEM WITH HAH INITIAL,JEEM WITH MEEM INITIAL,KHAH WITH JEEM INITIAL",
    "KHAH WITH MEEM INITIAL"]⟩,
  ⟨0xFD92, ["ARABIC LIGATURE * INITIAL FORM,MEEM WITH JEEM WITH KHAH,HEH WITH MEEM WITH JEEM",
    "HEH WITH MEEM WITH MEEM"]⟩,
  ⟨0xFD95, ["ARABIC LIGATURE NOON WITH * FORM,HAH WITH MEEM INITIAL,HAH WITH ALEF MAKSURA FINAL",
    "JEEM WITH MEEM FINAL,JEEM WITH MEEM INITIAL,JEEM WITH ALEF MAKSURA FINAL,MEEM WITH YEH FINAL",
    "MEEM WITH ALEF MAKSURA FINAL"]⟩,
  ⟨0xFD9C, ["ARABIC LIGATURE YEH WITH MEEM WITH MEEM * FORM,FINAL,INITIAL"]⟩,
  ⟨0xFD9E, ["ARABIC LIGATURE * FINAL FORM,BEH WITH KHAH WITH YEH,TEH WITH JEEM WITH YEH",
    "TEH WITH JEEM WITH ALEF MAKSURA,TEH WITH KHAH WITH YEH,TEH WITH KHAH WITH ALEF MAKSURA",
    "TEH WITH MEEM WITH YEH,TEH WITH MEEM WITH ALEF MAKSURA,JEEM WITH MEEM WITH YEH",
    "JEEM WITH HAH WITH ALEF MAKSURA,JEEM WITH MEEM WITH ALEF MAKSURA",
    "SEEN WITH KHAH WITH ALEF MAKSURA"]⟩,
  ⟨0xFDA9, ["ARABIC LIGATURE * WITH YEH FINAL FORM,SAD WITH HAH,SHEEN WITH HAH,DAD WITH HAH",
    "LAM WITH JEEM,LAM WITH MEEM,YEH WITH HAH,YEH WITH JEEM,YEH WITH MEEM,MEEM WITH MEEM",
    "QAF WITH MEEM,NOON WITH HAH"]⟩,
  ⟨0xFDB4, ["ARABIC LIGATURE * FORM,QAF WITH MEEM WITH HAH INITIAL,LAM WITH HAH WITH MEEM INITIAL",
    "AIN WITH MEEM WITH YEH FINAL,KAF WITH MEEM WITH YEH FINAL,NOON WITH JEEM WITH HAH INITIAL",
    "MEEM WITH KHAH WITH YEH FINAL,LAM WITH JEEM WITH MEEM INITIAL,KAF WITH MEEM WITH MEEM FINAL",
    "LAM WITH JEEM WITH MEEM FINAL,NOON WITH JEEM WITH HAH FINAL,JEEM WITH HAH WITH YEH FINAL",
    "HAH WITH JEEM WITH YEH FINAL,MEEM WITH JEEM WITH YEH FINAL,FEH WITH MEEM WITH YEH FINAL",
    "BEH WITH HAH WITH YEH FINAL,KAF WITH MEEM WITH MEEM INITIAL,AIN WITH JEEM WITH MEEM INITIAL",
    "SAD WITH MEEM WITH MEEM INITIAL,SEEN WITH KHAH WITH YEH FINAL,NOON WITH JEEM WITH YEH FINAL"]⟩,
  ⟨0xFDCF, ["ARABIC LIGATURE SALAAMUHU ALAYNAA"]⟩,
  ⟨0xFDF0, ["ARABIC LIGATURE * ISOLATED FORM,SALLA USED AS KORANIC STOP SIGN",
    "QALA USED AS KORANIC STOP SIGN,ALLAH,AKBAR,MOHAMMAD,SALAM,RASOUL,ALAYHE,WASALLAM,SALLA"]⟩,
  ⟨0xFDFA, ["ARABIC LIGATURE *,SALLALLAHOU ALAYHE WASALLAM,JALLAJALALOUHOU"]⟩,
  ⟨0xFDFC, ["RIAL SIGN"]⟩,
  ⟨0xFDFD, ["ARABIC LIGATURE *,BISMILLAH AR-RAHMAN AR-RAHEEM,SUBHAANAHU WA TAAALAA,AZZA WA JALL"]⟩,
  ⟨0xFE00, ["VARIATION SELECTOR-*,1,2,3,4,5,6,7,8,9,10,11,12,13,14,15,16"]⟩,
  ⟨0xFE10, ["PRESENTATION FORM FOR VERTICAL *,COMMA,IDEOGRAPHIC COMMA,IDEOGRAPHIC FULL STOP,COLON",
    "SEMICOLON,EXCLAMATION MARK,QUESTION MARK,LEFT WHITE LENTICULAR BRACKET",
    "RIGHT WHITE LENTICULAR BRAKCET,HORIZONTAL ELLIPSIS"]⟩,
  ⟨0xFE20, ["COMBINING * HALF,LIGATURE LEFT,LIGATURE RIGHT,DOUBLE TILDE LEFT,DOUBLE TILDE RIGHT",
    "MACRON LEFT,MACRON RIGHT"]⟩, ⟨0xFE26, ["COMBINING CONJOINING MACRON"]⟩,
  ⟨0xFE27, ["COMBINING * BELOW,LIGATURE LEFT HALF,LIGATURE RIGHT HALF,TILDE LEFT HALF",
    "TILDE RIGHT HALF,MACRON LEFT HALF,MACRON RIGHT HALF,CONJOINING MACRON"]⟩,
  ⟨0xFE2E, ["COMBINING CYRILLIC TITLO * HALF,LEFT,RIGHT"]⟩,
  ⟨0xFE30, ["PRESENTATION FORM FOR VERTICAL *,TWO DOT LEADER,EM DASH,EN DASH,LOW LINE",
    "WAVY LOW LINE,LEFT PARENTHESIS,RIGHT PARENTHESIS"]⟩,
  ⟨0xFE37, ["PRESENTATION FORM FOR VERTICAL * BRACKET,LEFT CURLY,RIGHT CURLY,LEFT TORTOISE SHELL",
    "RIGHT TORTOISE SHELL,LEFT BLACK LENTICULAR,RIGHT BLACK LENTICULAR,LEFT DOUBLE ANGLE",
    "RIGHT DOUBLE ANGLE,LEFT ANGLE,RIGHT ANGLE,LEFT CORNER,RIGHT CORNER,LEFT WHITE CORNER",
    "RIGHT WHITE CORNER"]⟩, ⟨0xFE45, ["* DOT,SESAME,WHITE SESAME"]⟩,
  ⟨0xFE47, ["PRESENTATION FORM FOR VERTICAL * SQUARE BRACKET,LEFT,RIGHT"]⟩,
  ⟨0xFE49, ["* OVERLINE,DASHED,CENTRELINE,WAVY,DOUBLE WAVY"]⟩,
  ⟨0xFE4D, ["* LOW LINE,DASHED,CENTRELINE,WAVY"]⟩,
  ⟨0xFE50, ["SMALL *,COMMA,IDEOGRAPHIC COMMA,FULL STOP"]⟩,
  ⟨0xFE54, ["SMALL *,SEMICOLON,COLON,QUESTION MARK,EXCLAMATION MARK,EM DASH,LEFT PARENTHESIS",
    "RIGHT PARENTHESIS,LEFT CURLY BRACKET,RIGHT CURLY BRACKET,LEFT TORTOISE SHELL BRACKET",
    "RIGHT TORTOISE SHELL BRACKET,NUMBER SIGN,AMPERSAND,ASTERISK,PLUS SIGN,HYPHEN-MINUS",
    "LESS-THAN SIGN,GREATER-THAN SIGN,EQUALS SIGN"]⟩,
  ⟨0xFE68, ["SMALL *,REVERSE SOLIDUS,DOLLAR SIGN,PERCENT SIGN,COMMERCIAL AT"]⟩,
  ⟨0xFE70, ["ARABIC *,FATHATAN ISOLATED FORM,TATWEEL WITH FATHATAN ABOVE,DAMMATAN ISOLATED FORM",
    "TAIL FRAGMENT,KASRATAN ISOLATED FORM"]⟩,
  ⟨0xFE76, ["ARABIC * FORM,FATHA ISOLATED,FATHA MEDIAL,DAMMA ISOLATED,DAMMA MEDIAL,KASRA ISOLATED",
    "KASRA MEDIAL,SHADDA ISOLATED,SHADDA MEDIAL,SUKUN ISOLATED,SUKUN MEDIAL"]⟩,
  ⟨0xFE80, ["ARABIC LETTER * FORM,HAMZA ISOLATED,ALEF WITH MADDA ABOVE ISOLATED",
    "ALEF WITH MADDA ABOVE FINAL,ALEF WITH HAMZA ABOVE ISOLATED,ALEF WITH HAMZA ABOVE FINAL",
    "WAW WITH HAMZA ABOVE ISOLATED,WAW WITH HAMZA ABOVE FINAL,ALEF WITH HAMZA BELOW ISOLATED",
    "ALEF WITH HAMZA BELOW FINAL,YEH WITH HAMZA ABOVE ISOLATED,YEH WITH HAMZA ABOVE FINAL",
    "YEH WITH HAMZA ABOVE INITIAL,YEH WITH HAMZA ABOVE MEDIAL,ALEF ISOLATED,ALEF FINAL",
    "BEH ISOLATED,BEH FINAL,BEH INITIAL,BEH MEDIAL,TEH MARBUTA ISOLATED,TEH MARBUTA FINAL",
    "TEH ISOLATED,TEH FINAL,TEH INITIAL,TEH MEDIAL,THEH ISOLATED,THEH FINAL,THEH INITIAL",
    "THEH MEDIAL,JEEM ISOLATED,JEEM FINAL,JEEM INITIAL,JEEM MEDIAL,HAH ISOLATED,HAH FINAL",
    "HAH INITIAL,HAH MEDIAL,KHAH ISOLATED,KHAH FINAL,KHAH INITIAL,KHAH MEDIAL,DAL ISOLATED",
    "DAL FINAL,THAL ISOLATED,THAL FINAL,REH ISOLATED,REH FINAL,ZAIN ISOLATED,ZAIN FINAL",
    "SEEN ISOLATED,SEEN FINAL,SEEN INITIAL,SEEN MEDIAL,SHEEN ISOLATED,SHEEN FINAL,SHEEN INITIAL",
    "SHEEN MEDIAL,SAD ISOLATED,SAD FINAL,SAD INITIAL,SAD MEDIAL,DAD ISOLATED,DAD FINAL,DAD INITIAL",
    "DAD MEDIAL,TAH ISOLATED,TAH FINAL,TAH INITIAL,TAH MEDIAL,ZAH ISOLATED,ZAH FINAL,ZAH INITIAL",
    "ZAH MEDIAL,AIN ISOLATED,AIN FINAL,AIN INITIAL,AIN MEDIAL,GHAIN ISOLATED,GHAIN FINAL",
    "GHAIN INITIAL,GHAIN MEDIAL,FEH ISOLATED,FEH FINAL,FEH INITIAL,FEH MEDIAL,QAF ISOLATED",
    "QAF FINAL,QAF INITIAL,QAF MEDIAL,KAF ISOLATED,KAF FINAL,KAF INITIAL,KAF MEDIAL,LAM ISOLATED",
    "LAM FINAL,LAM INITIAL,LAM MEDIAL,MEEM ISOLATED,MEEM FINAL,MEEM INITIAL,MEEM MEDIAL",
    "NOON ISOLATED,NOON FINAL,NOON INITIAL,NOON MEDIAL,HEH ISOLATED,HEH FINAL,HEH INITIAL",
    "HEH MEDIAL,WAW ISOLATED,WAW FINAL,ALEF MAKSURA ISOLATED,ALEF MAKSURA FINAL,YEH ISOLATED",
    "YEH FINAL,YEH INITIAL,YEH MEDIAL"]⟩,
  ⟨0xFEF5, ["ARABIC LIGATURE LAM WITH ALEF * FORM,WITH MADDA ABOVE ISOLATED,WITH MADDA ABOVE FINAL",
    "WITH HAMZA ABOVE ISOLATED,WITH HAMZA ABOVE FINAL,WITH HAMZA BELOW ISOLATED",
    "WITH HAMZA BELOW FINAL,ISOLATED,FINAL"]⟩, ⟨0xFEFF, ["ZERO WIDTH NO-BREAK SPACE"]⟩,
  ⟨0xFF01, ["FULLWIDTH *,EXCLAMATION MARK,QUOTATION MARK,NUMBER SIGN,DOLLAR SIGN,PERCENT SIGN",
    "AMPERSAND,APOSTROPHE,LEFT PARENTHESIS,RIGHT PARENTHESIS,ASTERISK,PLUS SIGN,COMMA,HYPHEN-MINUS",
    "FULL STOP,SOLIDUS"]⟩,
  ⟨0xFF10, ["FULLWIDTH DIGIT *,ZERO,ONE,TWO,THREE,FOUR,FIVE,SIX,SEVEN,EIGHT,NINE"]⟩,
  ⟨0xFF1A, ["FULLWIDTH *,COLON,SEMICOLON,LESS-THAN SIGN,EQUALS SIGN,GREATER-THAN SIGN",
    "QUESTION MARK,COMMERCIAL AT"]⟩,
  ⟨0xFF21, ["FULLWIDTH LATIN CAPITAL LETTER *,A,B,C,D,E,F,G,H,I,J,K,L,M,N,O,P,Q,R,S,T,U,V,W,X,Y",
    "Z"]⟩,
  ⟨0xFF3B, ["FULLWIDTH *,LEFT SQUARE BRACKET,REVERSE SOLIDUS,RIGHT SQUARE BRACKET",
    "CIRCUMFLEX ACCENT,LOW LINE,GRAVE ACCENT"]⟩,
  ⟨0xFF41, ["FULLWIDTH LATIN SMALL LETTER *,A,B,C,D,E,F,G,H,I,J,K,L,M,N,O,P,Q,R,S,T,U,V,W,X,Y,Z"]⟩,
  ⟨0xFF5B, ["FULLWIDTH *,LEFT CURLY BRACKET,VERTICAL LINE,RIGHT CURLY BRACKET,TILDE",
    "LEFT WHITE PARENTHESIS,RIGHT WHITE PARENTHESIS"]⟩,
  ⟨0xFF61, ["HALFWIDTH *,IDEOGRAPHIC FULL STOP,LEFT CORNER BRACKET,RIGHT CORNER BRACKET",
    "IDEOGRAPHIC COMMA,KATAKANA MIDDLE DOT,KATAKANA LETTER WO"]⟩,
  ⟨0xFF67, ["HALFWIDTH KATAKANA LETTER SMALL *,A,I,U,E,O,YA,YU,YO,TU"]⟩,
  ⟨0xFF70, ["HALFWIDTH KATAKANA-HIRAGANA PROLONGED SOUND MARK"]⟩,
  ⟨0xFF71, ["HALFWIDTH KATAKANA LETTER *,A,I,U,E,O,KA,KI,KU,KE,KO,SA,SI,SU,SE,SO,TA,TI,TU,TE,TO,NA",
    "NI,NU,NE,NO,HA,HI,HU,HE,HO,MA,MI,MU,ME,MO,YA,YU,YO,RA,RI,RU,RE,RO,WA,N"]⟩,
  ⟨0xFF9E, ["HALFWIDTH *,KATAKANA VOICED SOUND MARK,KATAKANA SEMI-VOICED SOUND MARK",
    "HANGUL FILLER"]⟩,
  ⟨0xFFA1, ["HALFWIDTH HANGUL LETTER *,KIYEOK,SSANGKIYEOK,KIYEOK-SIOS,NIEUN,NIEUN-CIEUC",
    "NIEUN-HIEUH,TIKEUT,SSANGTIKEUT,RIEUL,RIEUL-KIYEOK,RIEUL-MIEUM,RIEUL-PIEUP,RIEUL-SIOS",
    "RIEUL-THIEUTH,RIEUL-PHIEUPH,RIEUL-HIEUH,MIEUM,PIEUP,SSANGPIEUP,PIEUP-SIOS,SIOS,SSANGSIOS",
    "IEUNG,CIEUC,SSANGCIEUC,CHIEUCH,KHIEUKH,THIEUTH,PHIEUPH,HIEUH"]⟩,
  ⟨0xFFC2, ["HALFWIDTH HANGUL LETTER *,A,AE,YA,YAE,EO,E"]⟩,
  ⟨0xFFCA, ["HALFWIDTH HANGUL LETTER *,YEO,YE,O,WA,WAE,OE"]⟩,
  ⟨0xFFD2, ["HALFWIDTH HANGUL LETTER *,YO,U,WEO,WE,WI,YU"]⟩,
  ⟨0xFFDA, ["HALFWIDTH HANGUL LETTER *,EU,YI,I"]⟩,
  ⟨0xFFE0, ["FULLWIDTH *,CENT SIGN,POUND SIGN,NOT SIGN,MACRON,BROKEN BAR,YEN SIGN,WON SIGN"]⟩,
  ⟨0xFFE8, ["HALFWIDTH *,FORMS LIGHT VERTICAL,LEFTWARDS ARROW,UPWARDS ARROW,RIGHTWARDS ARROW",
    "DOWNWARDS ARROW,BLACK SQUARE,WHITE CIRCLE"]⟩,
  ⟨0xFFF9, ["INTERLINEAR ANNOTATION *,ANCHOR,SEPARATOR,TERMINATOR"]⟩,
  ⟨0xFFFC, ["* CHARACTER,OBJECT REPLACEMENT,REPLACEMENT"]⟩]

/-- The names of the characters from Glagolitic to the half- and full-width forms. -/
def eastAsianNames : List NameEntry :=
  radicalNames ++ kanaNames ++ yiNames ++ formNames

end CjkProse.Unicode
