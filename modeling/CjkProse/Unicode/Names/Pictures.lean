import CjkProse.Unicode.Names.Entry

/-!
# Names of characters: notations and pictures

The names of the characters from musical notation to the selectors, as version 14 of the standard
gives them.  How an entry writes them is told at `NameEntry`.

## Main definitions

* `pictureNames` — the entries.
-/

namespace CjkProse.Unicode

/-- The names of musical notations and counting rods. -/
def musicNames : List NameEntry := [
  ⟨0x1CF00, ["ZNAMENNY COMBINING MARK * ON LEFT,GORAZDO NIZKO S KRYZHEM,NIZKO S KRYZHEM,TSATA",
    "GORAZDO NIZKO,NIZKO,SREDNE,MALO POVYSHE,POVYSHE,VYSOKO,MALO POVYSHE S KHOKHLOM",
    "POVYSHE S KHOKHLOM,VYSOKO S KHOKHLOM"]⟩,
  ⟨0x1CF0C, ["ZNAMENNY COMBINING MARK * ON RIGHT,GORAZDO NIZKO S KRYZHEM,NIZKO S KRYZHEM,TSATA",
    "GORAZDO NIZKO,NIZKO,SREDNE,MALO POVYSHE,POVYSHE,VYSOKO,MALO POVYSHE S KHOKHLOM",
    "POVYSHE S KHOKHLOM,VYSOKO S KHOKHLOM"]⟩,
  ⟨0x1CF18, ["ZNAMENNY COMBINING MARK *,TSATA S KRYZHEM,MALO POVYSHE S KRYZHEM",
    "STRANNO MALO POVYSHE,POVYSHE S KRYZHEM,POVYSHE STRANNO,VYSOKO S KRYZHEM,MALO POVYSHE STRANNO",
    "GORAZDO VYSOKO,ZELO,ON,RAVNO,TIKHAYA,BORZAYA,UDARKA,PODVERTKA,LOMKA,KUPNAYA,KACHKA,ZEVOK",
    "SKOBA,RAZSEKA,KRYZH ON LEFT"]⟩,
  ⟨0x1CF30, ["ZNAMENNY COMBINING TONAL RANGE MARK *,MRACHNO,SVETLO,TRESVETLO"]⟩,
  ⟨0x1CF33, ["ZNAMENNY COMBINING MARK *,ZADERZHKA,DEMESTVENNY ZADERZHKA,OTSECHKA,PODCHASHIE",
    "PODCHASHIE WITH VERTICAL STROKE,CHASHKA,CHASHKA POLNAYA,OBLACHKO,SOROCHYA NOZHKA,TOCHKA",
    "DVOETOCHIE"]⟩,
  ⟨0x1CF3E, ["ZNAMENNY COMBINING *,ATTACHING VERTICAL OMET,MARK CURVED OMET,MARK KRYZH",
    "LOWER TONAL RANGE INDICATOR"]⟩,
  ⟨0x1CF42, ["ZNAMENNY PRIZNAK MODIFIER *,LEVEL-2,LEVEL-3,DIRECTION FLIP,KRYZH,ROG"]⟩,
  ⟨0x1CF50, ["ZNAMENNY NEUME *,KRYUK,KRYUK TIKHY,PARAKLIT,DVA V CHELNU,KLYUCH,ZANOZHEK,STOPITSA",
    "STOPITSA S OCHKOM,PEREVODKA,PEREVODKA NEPOSTOYANNAYA,STOPITSA WITH SOROCHYA NOZHKA,CHELYUSTKA",
    "PALKA,ZAPYATAYA"]⟩,
  ⟨0x1CF5E, ["ZNAMENNY NEUME GOLUBCHIK *,BORZY,TIKHY,MRACHNY,SVETLY,TRESVETLY"]⟩,
  ⟨0x1CF63, ["ZNAMENNY NEUME VRAKHIYA *,PROSTAYA,MRACHNAYA,SVETLAYA,TRESVETLAYA",
    "KLYUCHEVAYA PROSTAYA,KLYUCHEVAYA MRACHNAYA,KLYUCHEVAYA SVETLAYA,KLYUCHEVAYA TRESVETLAYA"]⟩,
  ⟨0x1CF6B, ["ZNAMENNY NEUME *,DOUBLE ZAPYATAYA,REVERSED CHELYUSTKA,DERBITSA,KHAMILO,CHASHKA",
    "PODCHASHIE,SKAMEYTSA MRACHNAYA,SKAMEYTSA SVETLAYA,SKAMEYTSA TRESVETLAYA,SKAMEYTSA TIKHAYA",
    "DEMESTVENNY KLYUCH,SKAMEYTSA KLYUCHEVAYA SVETLAYA,SKAMEYTSA KLYUCHENEPOSTOYANNAYA",
    "SKAMEYTSA KLYUCHEVAYA TIKHAYA"]⟩,
  ⟨0x1CF79, ["ZNAMENNY NEUME SKAMEYTSA DVOECHELNAYA *,PROSTAYA,SVETLAYA,NEPOSTOYANNAYA",
    "KLYUCHEVAYA"]⟩,
  ⟨0x1CF7D, ["ZNAMENNY NEUME *,SLOZHITIE,SLOZHITIE S ZAPYATOY,SLOZHITIE ZAKRYTOE",
    "SLOZHITIE S KRYZHEM,KRYZH,ROG,FITA,KOBYLA,ZMEYTSA,STATYA,STATYA S ZAPYATOY,STATYA S KRYZHEM",
    "STATYA S ZAPYATOY I KRYZHEM,STATYA S KRYZHEM I ZAPYATOY,STATYA ZAKRYTAYA",
    "STATYA ZAKRYTAYA S ZAPYATOY,STATYA S ROGOM,STATYA S DVUMYA ZAPYATYMI",
    "STATYA S ZAPYATOY I PODCHASHIEM,POLKULIZMY,STATYA NEPOSTOYANNAYA"]⟩,
  ⟨0x1CF92, ["ZNAMENNY NEUME STRELA *,PROSTAYA,MRACHNOTIKHAYA,KRYZHEVAYA,POLUPOVODNAYA,POVODNAYA",
    "NEPOSTOYANNAYA,KLYUCHEPOVODNAYA,KLYUCHENEPOSTOYANNAYA,TIKHAYA PUTNAYA,DVOECHELNAYA",
    "DVOECHELNOKRYZHEVAYA,DVOECHELNOPOVODNAYA,DVOECHELNAYA KLYUCHEVAYA",
    "DVOECHELNOPOVODNAYA KLYUCHEVAYA,GROMNAYA WITH SINGLE ZAPYATAYA",
    "GROMOPOVODNAYA WITH SINGLE ZAPYATAYA,GROMNAYA,GROMOPOVODNAYA",
    "GROMOPOVODNAYA WITH DOUBLE ZAPYATAYA,GROMOKRYZHEVAYA,GROMOKRYZHEVAYA POVODNAYA"]⟩,
  ⟨0x1CFA7, ["ZNAMENNY NEUME *,MECHIK,MECHIK POVODNY,MECHIK KLYUCHEVOY,MECHIK KLYUCHEPOVODNY",
    "MECHIK KLYUCHENEPOSTOYANNY,STRELA TRYASOGLASNAYA,STRELA TRYASOPOVODNAYA",
    "STRELA TRYASOSTRELNAYA,OSOKA,OSOKA SVETLAYA,OSOKA TRESVETLAYA,OSOKA KRYUKOVAYA SVETLAYA",
    "OSOKA KLYUCHEVAYA SVETLAYA,OSOKA KLYUCHEVAYA NEPOSTOYANNAYA,STRELA KRYUKOVAYA"]⟩,
  ⟨0x1CFB6, ["ZNAMENNY NEUME STRELA KRYUKOVAYA *,POVODNAYA,GROMNAYA WITH SINGLE ZAPYATAYA",
    "GROMOPOVODNAYA WITH SINGLE ZAPYATAYA,GROMNAYA,GROMOPOVODNAYA",
    "GROMOPOVODNAYA WITH DOUBLE ZAPYATAYA,GROMOKRYZHEVAYA,GROMOKRYZHEVAYA POVODNAYA,TRYASKA"]⟩,
  ⟨0x1CFBF, ["ZNAMENNY NEUME *,KUFISMA,OBLAKO,DUDA,NEMKA,PAUK"]⟩,
  ⟨0x1D000, ["BYZANTINE MUSICAL SYMBOL *,PSILI,DASEIA,PERISPOMENI,OXEIA EKFONITIKON,OXEIA DIPLI",
    "VAREIA EKFONITIKON,VAREIA DIPLI,KATHISTI,SYRMATIKI,PARAKLITIKI,YPOKRISIS,YPOKRISIS DIPLI",
    "KREMASTI,APESO EKFONITIKON,EXO EKFONITIKON,TELEIA,KENTIMATA,APOSTROFOS,APOSTROFOS DIPLI",
    "SYNEVMA,THITA,OLIGON ARCHAION,GORGON ARCHAION,PSILON,CHAMILON,VATHY,ISON ARCHAION",
    "KENTIMA ARCHAION,KENTIMATA ARCHAION,SAXIMATA,PARICHON,STAVROS APODEXIA,OXEIAI ARCHAION",
    "VAREIAI ARCHAION,APODERMA ARCHAION,APOTHEMA,KLASMA,REVMA,PIASMA ARCHAION,TINAGMA,ANATRICHISMA",
    "SEISMA,SYNAGMA ARCHAION,SYNAGMA META STAVROU,OYRANISMA ARCHAION,THEMA,LEMOI,DYO,TRIA,TESSERA",
    "KRATIMATA,APESO EXO NEO,FTHORA ARCHAION,IMIFTHORA,TROMIKON ARCHAION,KATAVA TROMIKON,PELASTON",
    "PSIFISTON,KONTEVMA,CHOREVMA ARCHAION,RAPISMA,PARAKALESMA ARCHAION,PARAKLITIKI ARCHAION",
    "ICHADIN,NANA,PETASMA,KONTEVMA ALLO,TROMIKON ALLO,STRAGGISMATA,GRONTHISMATA,ISON NEO",
    "OLIGON NEO,OXEIA NEO,PETASTI,KOUFISMA,PETASTOKOUFISMA,KRATIMOKOUFISMA,PELASTON NEO",
    "KENTIMATA NEO ANO,KENTIMA NEO ANO,YPSILI,APOSTROFOS NEO,APOSTROFOI SYNDESMOS NEO,YPORROI",
    "KRATIMOYPORROON,ELAFRON,CHAMILI,MIKRON ISON,VAREIA NEO,PIASMA NEO,PSIFISTON NEO,OMALON",
    "ANTIKENOMA,LYGISMA,PARAKLITIKI NEO,PARAKALESMA NEO,ETERON PARAKALESMA,KYLISMA,ANTIKENOKYLISMA",
    "TROMIKON NEO,EKSTREPTON,SYNAGMA NEO,SYRMA,CHOREVMA NEO,EPEGERMA,SEISMA NEO,XIRON KLASMA",
    "TROMIKOPSIFISTON,PSIFISTOLYGISMA,TROMIKOLYGISMA,TROMIKOPARAKALESMA,PSIFISTOPARAKALESMA",
    "TROMIKOSYNAGMA,PSIFISTOSYNAGMA,GORGOSYNTHETON,ARGOSYNTHETON,ETERON ARGOSYNTHETON",
    "OYRANISMA NEO,THEMATISMOS ESO,THEMATISMOS EXO,THEMA APLOUN,THES KAI APOTHES,KATAVASMA",
    "ENDOFONON,YFEN KATO,YFEN ANO,STAVROS,KLASMA ANO,DIPLI ARCHAION,KRATIMA ARCHAION,KRATIMA ALLO",
    "KRATIMA NEO,APODERMA NEO,APLI,DIPLI,TRIPLI,TETRAPLI,KORONIS,LEIMMA ENOS CHRONOU",
    "LEIMMA DYO CHRONON,LEIMMA TRION CHRONON,LEIMMA TESSARON CHRONON,LEIMMA IMISEOS CHRONOU",
    "GORGON NEO ANO,GORGON PARESTIGMENON ARISTERA,GORGON PARESTIGMENON DEXIA,DIGORGON",
    "DIGORGON PARESTIGMENON ARISTERA KATO,DIGORGON PARESTIGMENON ARISTERA ANO",
    "DIGORGON PARESTIGMENON DEXIA,TRIGORGON,ARGON,IMIDIARGON,DIARGON,AGOGI POLI ARGI",
    "AGOGI ARGOTERI,AGOGI ARGI,AGOGI METRIA,AGOGI MESI,AGOGI GORGI,AGOGI GORGOTERI",
    "AGOGI POLI GORGI,MARTYRIA PROTOS ICHOS,MARTYRIA ALLI PROTOS ICHOS,MARTYRIA DEYTEROS ICHOS",
    "MARTYRIA ALLI DEYTEROS ICHOS,MARTYRIA TRITOS ICHOS,MARTYRIA TRIFONIAS,MARTYRIA TETARTOS ICHOS",
    "MARTYRIA TETARTOS LEGETOS ICHOS,MARTYRIA LEGETOS ICHOS,MARTYRIA PLAGIOS ICHOS",
    "ISAKIA TELOUS ICHIMATOS,APOSTROFOI TELOUS ICHIMATOS,FANEROSIS TETRAFONIAS",
    "FANEROSIS MONOFONIAS,FANEROSIS DIFONIAS,MARTYRIA VARYS ICHOS,MARTYRIA PROTOVARYS ICHOS",
    "MARTYRIA PLAGIOS TETARTOS ICHOS,GORTHMIKON N APLOUN,GORTHMIKON N DIPLOUN",
    "ENARXIS KAI FTHORA VOU,IMIFONON,IMIFTHORON,FTHORA ARCHAION DEYTEROU ICHOU,FTHORA DIATONIKI PA",
    "FTHORA DIATONIKI NANA,FTHORA NAOS ICHOS,FTHORA DIATONIKI DI,FTHORA SKLIRON DIATONON DI",
    "FTHORA DIATONIKI KE,FTHORA DIATONIKI ZO,FTHORA DIATONIKI NI KATO,FTHORA DIATONIKI NI ANO",
    "FTHORA MALAKON CHROMA DIFONIAS,FTHORA MALAKON CHROMA MONOFONIAS,FHTORA SKLIRON CHROMA VASIS",
    "FTHORA SKLIRON CHROMA SYNAFI,FTHORA NENANO,CHROA ZYGOS,CHROA KLITON,CHROA SPATHI",
    "FTHORA I YFESIS TETARTIMORION,FTHORA ENARMONIOS ANTIFONIA,YFESIS TRITIMORION",
    "DIESIS TRITIMORION,DIESIS TETARTIMORION,DIESIS APLI DYO DODEKATA",
    "DIESIS MONOGRAMMOS TESSERA DODEKATA,DIESIS DIGRAMMOS EX DODEKATA",
    "DIESIS TRIGRAMMOS OKTO DODEKATA,YFESIS APLI DYO DODEKATA,YFESIS MONOGRAMMOS TESSERA DODEKATA",
    "YFESIS DIGRAMMOS EX DODEKATA,YFESIS TRIGRAMMOS OKTO DODEKATA,GENIKI DIESIS,GENIKI YFESIS",
    "DIASTOLI APLI MIKRI,DIASTOLI APLI MEGALI,DIASTOLI DIPLI,DIASTOLI THESEOS,SIMANSIS THESEOS",
    "SIMANSIS THESEOS DISIMOU,SIMANSIS THESEOS TRISIMOU,SIMANSIS THESEOS TETRASIMOU",
    "SIMANSIS ARSEOS,SIMANSIS ARSEOS DISIMOU,SIMANSIS ARSEOS TRISIMOU,SIMANSIS ARSEOS TETRASIMOU",
    "DIGRAMMA GG,DIFTOGGOS OU,STIGMA,ARKTIKO PA,ARKTIKO VOU,ARKTIKO GA,ARKTIKO DI,ARKTIKO KE",
    "ARKTIKO ZO,ARKTIKO NI,KENTIMATA NEO MESO,KENTIMA NEO MESO,KENTIMATA NEO KATO,KENTIMA NEO KATO",
    "KLASMA KATO,GORGON NEO KATO"]⟩,
  ⟨0x1D100, ["MUSICAL SYMBOL * BARLINE,SINGLE,DOUBLE,FINAL,REVERSE FINAL,DASHED,SHORT"]⟩,
  ⟨0x1D106, ["MUSICAL SYMBOL *,LEFT REPEAT SIGN,RIGHT REPEAT SIGN,REPEAT DOTS,DAL SEGNO,DA CAPO",
    "SEGNO,CODA,REPEATED FIGURE-1,REPEATED FIGURE-2,REPEATED FIGURE-3,FERMATA,FERMATA BELOW",
    "BREATH MARK,CAESURA,BRACE,BRACKET,ONE-LINE STAFF,TWO-LINE STAFF,THREE-LINE STAFF",
    "FOUR-LINE STAFF,FIVE-LINE STAFF,SIX-LINE STAFF,SIX-STRING FRETBOARD,FOUR-STRING FRETBOARD",
    "G CLEF,G CLEF OTTAVA ALTA,G CLEF OTTAVA BASSA,C CLEF,F CLEF,F CLEF OTTAVA ALTA",
    "F CLEF OTTAVA BASSA,DRUM CLEF-1,DRUM CLEF-2"]⟩,
  ⟨0x1D129, ["MUSICAL SYMBOL *,MULTIPLE MEASURE REST,DOUBLE SHARP,DOUBLE FLAT,FLAT UP,FLAT DOWN",
    "NATURAL UP,NATURAL DOWN,SHARP UP,SHARP DOWN,QUARTER TONE SHARP,QUARTER TONE FLAT,COMMON TIME",
    "CUT TIME,OTTAVA ALTA,OTTAVA BASSA,QUINDICESIMA ALTA,QUINDICESIMA BASSA,MULTI REST,WHOLE REST",
    "HALF REST,QUARTER REST,EIGHTH REST,SIXTEENTH REST,THIRTY-SECOND REST,SIXTY-FOURTH REST",
    "ONE HUNDRED TWENTY-EIGHTH REST,X NOTEHEAD,PLUS NOTEHEAD,CIRCLE X NOTEHEAD",
    "SQUARE NOTEHEAD WHITE,SQUARE NOTEHEAD BLACK"]⟩,
  ⟨0x1D148, ["MUSICAL SYMBOL TRIANGLE NOTEHEAD *,UP WHITE,UP BLACK,LEFT WHITE,LEFT BLACK",
    "RIGHT WHITE,RIGHT BLACK,DOWN WHITE,DOWN BLACK,UP RIGHT WHITE,UP RIGHT BLACK"]⟩,
  ⟨0x1D152, ["MUSICAL SYMBOL *,MOON NOTEHEAD WHITE,MOON NOTEHEAD BLACK",
    "TRIANGLE-ROUND NOTEHEAD DOWN WHITE,TRIANGLE-ROUND NOTEHEAD DOWN BLACK,PARENTHESIS NOTEHEAD",
    "VOID NOTEHEAD,NOTEHEAD BLACK,NULL NOTEHEAD,CLUSTER NOTEHEAD WHITE,CLUSTER NOTEHEAD BLACK",
    "BREVE"]⟩,
  ⟨0x1D15D, ["MUSICAL SYMBOL * NOTE,WHOLE,HALF,QUARTER,EIGHTH,SIXTEENTH,THIRTY-SECOND,SIXTY-FOURTH",
    "ONE HUNDRED TWENTY-EIGHTH"]⟩,
  ⟨0x1D165, ["MUSICAL SYMBOL COMBINING *,STEM,SPRECHGESANG STEM,TREMOLO-1,TREMOLO-2,TREMOLO-3"]⟩,
  ⟨0x1D16A, ["MUSICAL SYMBOL FINGERED TREMOLO-*,1,2,3"]⟩,
  ⟨0x1D16D, ["MUSICAL SYMBOL COMBINING *,AUGMENTATION DOT,FLAG-1,FLAG-2,FLAG-3,FLAG-4,FLAG-5"]⟩,
  ⟨0x1D173, ["MUSICAL SYMBOL *,BEGIN BEAM,END BEAM,BEGIN TIE,END TIE,BEGIN SLUR,END SLUR",
    "BEGIN PHRASE,END PHRASE"]⟩,
  ⟨0x1D17B, ["MUSICAL SYMBOL COMBINING *,ACCENT,STACCATO,TENUTO,STACCATISSIMO,MARCATO",
    "MARCATO-STACCATO,ACCENT-STACCATO,LOURE"]⟩, ⟨0x1D183, ["MUSICAL SYMBOL ARPEGGIATO *,UP,DOWN"]⟩,
  ⟨0x1D185, ["MUSICAL SYMBOL COMBINING *,DOIT,RIP,FLIP,SMEAR,BEND,DOUBLE TONGUE,TRIPLE TONGUE"]⟩,
  ⟨0x1D18C, ["MUSICAL SYMBOL *,RINFORZANDO,SUBITO,Z,PIANO,MEZZO,FORTE,CRESCENDO,DECRESCENDO",
    "GRACE NOTE SLASH,GRACE NOTE NO SLASH,TR,TURN,INVERTED TURN,TURN SLASH,TURN UP"]⟩,
  ⟨0x1D19B, ["MUSICAL SYMBOL ORNAMENT STROKE-*,1,2,3,4,5,6,7,8,9,10,11"]⟩,
  ⟨0x1D1A6, ["MUSICAL SYMBOL *,HAUPTSTIMME,NEBENSTIMME,END OF STIMME,DEGREE SLASH",
    "COMBINING DOWN BOW,COMBINING UP BOW,COMBINING HARMONIC,COMBINING SNAP PIZZICATO,PEDAL MARK",
    "PEDAL UP MARK,HALF PEDAL MARK,GLISSANDO UP,GLISSANDO DOWN,WITH FINGERNAILS,DAMP,DAMP ALL",
    "MAXIMA,LONGA,BREVIS,SEMIBREVIS WHITE,SEMIBREVIS BLACK,MINIMA,MINIMA BLACK,SEMIMINIMA WHITE",
    "SEMIMINIMA BLACK,FUSA WHITE,FUSA BLACK,LONGA PERFECTA REST,LONGA IMPERFECTA REST,BREVIS REST",
    "SEMIBREVIS REST,MINIMA REST,SEMIMINIMA REST"]⟩,
  ⟨0x1D1C7, ["MUSICAL SYMBOL TEMPUS PERFECTUM CUM PROLATIONE *,PERFECTA,IMPERFECTA",
    "PERFECTA DIMINUTION-1"]⟩,
  ⟨0x1D1CA, ["MUSICAL SYMBOL TEMPUS IMPERFECTUM CUM PROLATIONE *,PERFECTA,IMPERFECTA",
    "IMPERFECTA DIMINUTION-1,IMPERFECTA DIMINUTION-2,IMPERFECTA DIMINUTION-3"]⟩,
  ⟨0x1D1CF, ["MUSICAL SYMBOL *,CROIX,GREGORIAN C CLEF,GREGORIAN F CLEF,SQUARE B,VIRGA,PODATUS",
    "CLIVIS,SCANDICUS,CLIMACUS,TORCULUS,PORRECTUS,PORRECTUS FLEXUS,SCANDICUS FLEXUS",
    "TORCULUS RESUPINUS,PES SUBPUNCTIS"]⟩,
  ⟨0x1D1DE, ["MUSICAL SYMBOL KIEVAN *,C CLEF,END OF PIECE,FINAL NOTE,RECITATIVE MARK,WHOLE NOTE",
    "HALF NOTE,QUARTER NOTE STEM DOWN,QUARTER NOTE STEM UP,EIGHTH NOTE STEM DOWN",
    "EIGHTH NOTE STEM UP,FLAT SIGN"]⟩, ⟨0x1D1E9, ["MUSICAL SYMBOL *,SORI,KORON"]⟩,
  ⟨0x1D200, ["GREEK VOCAL NOTATION SYMBOL-*,1,2,3,4,5,6,7,8,9,10,11,12,13,14,15,16,17,18,19,20,21",
    "22,23,24,50,51,52,53,54"]⟩,
  ⟨0x1D21D, ["GREEK INSTRUMENTAL NOTATION SYMBOL-*,1,2,4,5,7,8,11,12,13,14,17,18,19,23,24,25,26,27",
    "29,30,32,36,37,38,39,40,42,43,45,47,48,49,50,51,52,53,54"]⟩,
  ⟨0x1D242, ["COMBINING GREEK MUSICAL *,TRISEME,TETRASEME,PENTASEME"]⟩,
  ⟨0x1D245, ["GREEK MUSICAL LEIMMA"]⟩,
  ⟨0x1D2E0, ["MAYAN NUMERAL *,ZERO,ONE,TWO,THREE,FOUR,FIVE,SIX,SEVEN,EIGHT,NINE,TEN,ELEVEN,TWELVE",
    "THIRTEEN,FOURTEEN,FIFTEEN,SIXTEEN,SEVENTEEN,EIGHTEEN,NINETEEN"]⟩,
  ⟨0x1D300, ["MONOGRAM FOR EARTH"]⟩,
  ⟨0x1D301, ["DIGRAM FOR *,HEAVENLY EARTH,HUMAN EARTH,EARTHLY HEAVEN,EARTHLY HUMAN,EARTH"]⟩,
  ⟨0x1D306, ["TETRAGRAM FOR *,CENTRE,FULL CIRCLE,MIRED,BARRIER,KEEPING SMALL,CONTRARIETY,ASCENT",
    "OPPOSITION,BRANCHING OUT,DEFECTIVENESS OR DISTORTION,DIVERGENCE,YOUTHFULNESS,INCREASE",
    "PENETRATION,REACH,CONTACT,HOLDING BACK,WAITING,FOLLOWING,ADVANCE,RELEASE,RESISTANCE,EASE,JOY",
    "CONTENTION,ENDEAVOUR,DUTIES,CHANGE,DECISIVENESS,BOLD RESOLUTION,PACKING,LEGION,CLOSENESS",
    "KINSHIP,GATHERING,STRENGTH,PURITY,FULLNESS,RESIDENCE,LAW OR MODEL,RESPONSE,GOING TO MEET",
    "ENCOUNTERS,STOVE,GREATNESS,ENLARGEMENT,PATTERN,RITUAL,FLIGHT,VASTNESS OR WASTING,CONSTANCY",
    "MEASURE,ETERNITY,UNITY,DIMINISHMENT,CLOSED MOUTH,GUARDEDNESS,GATHERING IN,MASSING",
    "ACCUMULATION,EMBELLISHMENT,DOUBT,WATCH,SINKING,INNER,DEPARTURE,DARKENING,DIMMING,EXHAUSTION",
    "SEVERANCE,STOPPAGE,HARDNESS,COMPLETION,CLOSURE,FAILURE,AGGRAVATION,COMPLIANCE,ON THE VERGE",
    "DIFFICULTIES,LABOURING,FOSTERING"]⟩,
  ⟨0x1D360, ["COUNTING ROD UNIT DIGIT *,ONE,TWO,THREE,FOUR,FIVE,SIX,SEVEN,EIGHT,NINE"]⟩,
  ⟨0x1D369, ["COUNTING ROD TENS DIGIT *,ONE,TWO,THREE,FOUR,FIVE,SIX,SEVEN,EIGHT,NINE"]⟩,
  ⟨0x1D372, ["IDEOGRAPHIC TALLY MARK *,ONE,TWO,THREE,FOUR,FIVE"]⟩,
  ⟨0x1D377, ["TALLY MARK *,ONE,FIVE"]⟩]

/-- The names of the letters of mathematics. -/
def mathematicalNames : List NameEntry := [
  ⟨0x1D400, ["MATHEMATICAL BOLD CAPITAL *,A,B,C,D,E,F,G,H,I,J,K,L,M,N,O,P,Q,R,S,T,U,V,W,X,Y,Z"]⟩,
  ⟨0x1D41A, ["MATHEMATICAL BOLD SMALL *,A,B,C,D,E,F,G,H,I,J,K,L,M,N,O,P,Q,R,S,T,U,V,W,X,Y,Z"]⟩,
  ⟨0x1D434, ["MATHEMATICAL ITALIC CAPITAL *,A,B,C,D,E,F,G,H,I,J,K,L,M,N,O,P,Q,R,S,T,U,V,W,X,Y,Z"]⟩,
  ⟨0x1D44E, ["MATHEMATICAL ITALIC SMALL *,A,B,C,D,E,F,G"]⟩,
  ⟨0x1D456, ["MATHEMATICAL ITALIC SMALL *,I,J,K,L,M,N,O,P,Q,R,S,T,U,V,W,X,Y,Z"]⟩,
  ⟨0x1D468, ["MATHEMATICAL BOLD ITALIC CAPITAL *,A,B,C,D,E,F,G,H,I,J,K,L,M,N,O,P,Q,R,S,T,U,V,W,X,Y",
    "Z"]⟩,
  ⟨0x1D482, ["MATHEMATICAL BOLD ITALIC SMALL *,A,B,C,D,E,F,G,H,I,J,K,L,M,N,O,P,Q,R,S,T,U,V,W,X,Y",
    "Z"]⟩, ⟨0x1D49C, ["MATHEMATICAL SCRIPT CAPITAL A"]⟩,
  ⟨0x1D49E, ["MATHEMATICAL SCRIPT CAPITAL *,C,D"]⟩, ⟨0x1D4A2, ["MATHEMATICAL SCRIPT CAPITAL G"]⟩,
  ⟨0x1D4A5, ["MATHEMATICAL SCRIPT CAPITAL *,J,K"]⟩,
  ⟨0x1D4A9, ["MATHEMATICAL SCRIPT CAPITAL *,N,O,P,Q"]⟩,
  ⟨0x1D4AE, ["MATHEMATICAL SCRIPT CAPITAL *,S,T,U,V,W,X,Y,Z"]⟩,
  ⟨0x1D4B6, ["MATHEMATICAL SCRIPT SMALL *,A,B,C,D"]⟩, ⟨0x1D4BB, ["MATHEMATICAL SCRIPT SMALL F"]⟩,
  ⟨0x1D4BD, ["MATHEMATICAL SCRIPT SMALL *,H,I,J,K,L,M,N"]⟩,
  ⟨0x1D4C5, ["MATHEMATICAL SCRIPT SMALL *,P,Q,R,S,T,U,V,W,X,Y,Z"]⟩,
  ⟨0x1D4D0, ["MATHEMATICAL BOLD SCRIPT CAPITAL *,A,B,C,D,E,F,G,H,I,J,K,L,M,N,O,P,Q,R,S,T,U,V,W,X,Y",
    "Z"]⟩,
  ⟨0x1D4EA, ["MATHEMATICAL BOLD SCRIPT SMALL *,A,B,C,D,E,F,G,H,I,J,K,L,M,N,O,P,Q,R,S,T,U,V,W,X,Y",
    "Z"]⟩, ⟨0x1D504, ["MATHEMATICAL FRAKTUR CAPITAL *,A,B"]⟩,
  ⟨0x1D507, ["MATHEMATICAL FRAKTUR CAPITAL *,D,E,F,G"]⟩,
  ⟨0x1D50D, ["MATHEMATICAL FRAKTUR CAPITAL *,J,K,L,M,N,O,P,Q"]⟩,
  ⟨0x1D516, ["MATHEMATICAL FRAKTUR CAPITAL *,S,T,U,V,W,X,Y"]⟩,
  ⟨0x1D51E, ["MATHEMATICAL FRAKTUR SMALL *,A,B,C,D,E,F,G,H,I,J,K,L,M,N,O,P,Q,R,S,T,U,V,W,X,Y,Z"]⟩,
  ⟨0x1D538, ["MATHEMATICAL DOUBLE-STRUCK CAPITAL *,A,B"]⟩,
  ⟨0x1D53B, ["MATHEMATICAL DOUBLE-STRUCK CAPITAL *,D,E,F,G"]⟩,
  ⟨0x1D540, ["MATHEMATICAL DOUBLE-STRUCK CAPITAL *,I,J,K,L,M"]⟩,
  ⟨0x1D546, ["MATHEMATICAL DOUBLE-STRUCK CAPITAL O"]⟩,
  ⟨0x1D54A, ["MATHEMATICAL DOUBLE-STRUCK CAPITAL *,S,T,U,V,W,X,Y"]⟩,
  ⟨0x1D552, ["MATHEMATICAL DOUBLE-STRUCK SMALL *,A,B,C,D,E,F,G,H,I,J,K,L,M,N,O,P,Q,R,S,T,U,V,W,X,Y",
    "Z"]⟩,
  ⟨0x1D56C, ["MATHEMATICAL BOLD FRAKTUR CAPITAL *,A,B,C,D,E,F,G,H,I,J,K,L,M,N,O,P,Q,R,S,T,U,V,W,X",
    "Y,Z"]⟩,
  ⟨0x1D586, ["MATHEMATICAL BOLD FRAKTUR SMALL *,A,B,C,D,E,F,G,H,I,J,K,L,M,N,O,P,Q,R,S,T,U,V,W,X,Y",
    "Z"]⟩,
  ⟨0x1D5A0, ["MATHEMATICAL SANS-SERIF CAPITAL *,A,B,C,D,E,F,G,H,I,J,K,L,M,N,O,P,Q,R,S,T,U,V,W,X,Y",
    "Z"]⟩,
  ⟨0x1D5BA, ["MATHEMATICAL SANS-SERIF SMALL *,A,B,C,D,E,F,G,H,I,J,K,L,M,N,O,P,Q,R,S,T,U,V,W,X,Y",
    "Z"]⟩,
  ⟨0x1D5D4, ["MATHEMATICAL SANS-SERIF BOLD CAPITAL *,A,B,C,D,E,F,G,H,I,J,K,L,M,N,O,P,Q,R,S,T,U,V,W",
    "X,Y,Z"]⟩,
  ⟨0x1D5EE, ["MATHEMATICAL SANS-SERIF BOLD SMALL *,A,B,C,D,E,F,G,H,I,J,K,L,M,N,O,P,Q,R,S,T,U,V,W,X",
    "Y,Z"]⟩,
  ⟨0x1D608, ["MATHEMATICAL SANS-SERIF ITALIC CAPITAL *,A,B,C,D,E,F,G,H,I,J,K,L,M,N,O,P,Q,R,S,T,U,V",
    "W,X,Y,Z"]⟩,
  ⟨0x1D622, ["MATHEMATICAL SANS-SERIF ITALIC SMALL *,A,B,C,D,E,F,G,H,I,J,K,L,M,N,O,P,Q,R,S,T,U,V,W",
    "X,Y,Z"]⟩,
  ⟨0x1D63C, ["MATHEMATICAL SANS-SERIF BOLD ITALIC CAPITAL *,A,B,C,D,E,F,G,H,I,J,K,L,M,N,O,P,Q,R,S",
    "T,U,V,W,X,Y,Z"]⟩,
  ⟨0x1D656, ["MATHEMATICAL SANS-SERIF BOLD ITALIC SMALL *,A,B,C,D,E,F,G,H,I,J,K,L,M,N,O,P,Q,R,S,T",
    "U,V,W,X,Y,Z"]⟩,
  ⟨0x1D670, ["MATHEMATICAL MONOSPACE CAPITAL *,A,B,C,D,E,F,G,H,I,J,K,L,M,N,O,P,Q,R,S,T,U,V,W,X,Y",
    "Z"]⟩,
  ⟨0x1D68A, ["MATHEMATICAL MONOSPACE SMALL *,A,B,C,D,E,F,G,H,I,J,K,L,M,N,O,P,Q,R,S,T,U,V,W,X,Y,Z"]⟩,
  ⟨0x1D6A4, ["MATHEMATICAL ITALIC SMALL DOTLESS *,I,J"]⟩,
  ⟨0x1D6A8, ["MATHEMATICAL BOLD CAPITAL *,ALPHA,BETA,GAMMA,DELTA,EPSILON,ZETA,ETA,THETA,IOTA,KAPPA",
    "LAMDA,MU,NU,XI,OMICRON,PI,RHO,THETA SYMBOL,SIGMA,TAU,UPSILON,PHI,CHI,PSI,OMEGA"]⟩,
  ⟨0x1D6C1, ["MATHEMATICAL BOLD NABLA"]⟩,
  ⟨0x1D6C2, ["MATHEMATICAL BOLD SMALL *,ALPHA,BETA,GAMMA,DELTA,EPSILON,ZETA,ETA,THETA,IOTA,KAPPA",
    "LAMDA,MU,NU,XI,OMICRON,PI,RHO,FINAL SIGMA,SIGMA,TAU,UPSILON,PHI,CHI,PSI,OMEGA"]⟩,
  ⟨0x1D6DB, ["MATHEMATICAL BOLD PARTIAL DIFFERENTIAL"]⟩,
  ⟨0x1D6DC, ["MATHEMATICAL BOLD * SYMBOL,EPSILON,THETA,KAPPA,PHI,RHO,PI"]⟩,
  ⟨0x1D6E2, ["MATHEMATICAL ITALIC CAPITAL *,ALPHA,BETA,GAMMA,DELTA,EPSILON,ZETA,ETA,THETA,IOTA",
    "KAPPA,LAMDA,MU,NU,XI,OMICRON,PI,RHO,THETA SYMBOL,SIGMA,TAU,UPSILON,PHI,CHI,PSI,OMEGA"]⟩,
  ⟨0x1D6FB, ["MATHEMATICAL ITALIC NABLA"]⟩,
  ⟨0x1D6FC, ["MATHEMATICAL ITALIC SMALL *,ALPHA,BETA,GAMMA,DELTA,EPSILON,ZETA,ETA,THETA,IOTA,KAPPA",
    "LAMDA,MU,NU,XI,OMICRON,PI,RHO,FINAL SIGMA,SIGMA,TAU,UPSILON,PHI,CHI,PSI,OMEGA"]⟩,
  ⟨0x1D715, ["MATHEMATICAL ITALIC PARTIAL DIFFERENTIAL"]⟩,
  ⟨0x1D716, ["MATHEMATICAL ITALIC * SYMBOL,EPSILON,THETA,KAPPA,PHI,RHO,PI"]⟩,
  ⟨0x1D71C, ["MATHEMATICAL BOLD ITALIC CAPITAL *,ALPHA,BETA,GAMMA,DELTA,EPSILON,ZETA,ETA,THETA",
    "IOTA,KAPPA,LAMDA,MU,NU,XI,OMICRON,PI,RHO,THETA SYMBOL,SIGMA,TAU,UPSILON,PHI,CHI,PSI,OMEGA"]⟩,
  ⟨0x1D735, ["MATHEMATICAL BOLD ITALIC NABLA"]⟩,
  ⟨0x1D736, ["MATHEMATICAL BOLD ITALIC SMALL *,ALPHA,BETA,GAMMA,DELTA,EPSILON,ZETA,ETA,THETA,IOTA",
    "KAPPA,LAMDA,MU,NU,XI,OMICRON,PI,RHO,FINAL SIGMA,SIGMA,TAU,UPSILON,PHI,CHI,PSI,OMEGA"]⟩,
  ⟨0x1D74F, ["MATHEMATICAL BOLD ITALIC *,PARTIAL DIFFERENTIAL,EPSILON SYMBOL,THETA SYMBOL",
    "KAPPA SYMBOL,PHI SYMBOL,RHO SYMBOL,PI SYMBOL"]⟩,
  ⟨0x1D756, ["MATHEMATICAL SANS-SERIF BOLD CAPITAL *,ALPHA,BETA,GAMMA,DELTA,EPSILON,ZETA,ETA,THETA",
    "IOTA,KAPPA,LAMDA,MU,NU,XI,OMICRON,PI,RHO,THETA SYMBOL,SIGMA,TAU,UPSILON,PHI,CHI,PSI,OMEGA"]⟩,
  ⟨0x1D76F, ["MATHEMATICAL SANS-SERIF BOLD NABLA"]⟩,
  ⟨0x1D770, ["MATHEMATICAL SANS-SERIF BOLD SMALL *,ALPHA,BETA,GAMMA,DELTA,EPSILON,ZETA,ETA,THETA",
    "IOTA,KAPPA,LAMDA,MU,NU,XI,OMICRON,PI,RHO,FINAL SIGMA,SIGMA,TAU,UPSILON,PHI,CHI,PSI,OMEGA"]⟩,
  ⟨0x1D789, ["MATHEMATICAL SANS-SERIF BOLD *,PARTIAL DIFFERENTIAL,EPSILON SYMBOL,THETA SYMBOL",
    "KAPPA SYMBOL,PHI SYMBOL,RHO SYMBOL,PI SYMBOL"]⟩,
  ⟨0x1D790, ["MATHEMATICAL SANS-SERIF BOLD ITALIC CAPITAL *,ALPHA,BETA,GAMMA,DELTA,EPSILON,ZETA",
    "ETA,THETA,IOTA,KAPPA,LAMDA,MU,NU,XI,OMICRON,PI,RHO,THETA SYMBOL,SIGMA,TAU,UPSILON,PHI,CHI,PSI",
    "OMEGA"]⟩, ⟨0x1D7A9, ["MATHEMATICAL SANS-SERIF BOLD ITALIC NABLA"]⟩,
  ⟨0x1D7AA, ["MATHEMATICAL SANS-SERIF BOLD ITALIC SMALL *,ALPHA,BETA,GAMMA,DELTA,EPSILON,ZETA,ETA",
    "THETA,IOTA,KAPPA,LAMDA,MU,NU,XI,OMICRON,PI,RHO,FINAL SIGMA,SIGMA,TAU,UPSILON,PHI,CHI,PSI",
    "OMEGA"]⟩,
  ⟨0x1D7C3, ["MATHEMATICAL SANS-SERIF BOLD ITALIC *,PARTIAL DIFFERENTIAL,EPSILON SYMBOL",
    "THETA SYMBOL,KAPPA SYMBOL,PHI SYMBOL,RHO SYMBOL,PI SYMBOL"]⟩,
  ⟨0x1D7CA, ["MATHEMATICAL BOLD * DIGAMMA,CAPITAL,SMALL"]⟩,
  ⟨0x1D7CE, ["MATHEMATICAL BOLD DIGIT *,ZERO,ONE,TWO,THREE,FOUR,FIVE,SIX,SEVEN,EIGHT,NINE"]⟩,
  ⟨0x1D7D8, ["MATHEMATICAL DOUBLE-STRUCK DIGIT *,ZERO,ONE,TWO,THREE,FOUR,FIVE,SIX,SEVEN,EIGHT",
    "NINE"]⟩,
  ⟨0x1D7E2, ["MATHEMATICAL SANS-SERIF DIGIT *,ZERO,ONE,TWO,THREE,FOUR,FIVE,SIX,SEVEN,EIGHT,NINE"]⟩,
  ⟨0x1D7EC, ["MATHEMATICAL SANS-SERIF BOLD DIGIT *,ZERO,ONE,TWO,THREE,FOUR,FIVE,SIX,SEVEN,EIGHT",
    "NINE"]⟩,
  ⟨0x1D7F6, ["MATHEMATICAL MONOSPACE DIGIT *,ZERO,ONE,TWO,THREE,FOUR,FIVE,SIX,SEVEN,EIGHT,NINE"]⟩]

/-- The names of sign writing. -/
def signWritingNames : List NameEntry := [
  ⟨0x1D800, ["SIGNWRITING HAND-*,FIST INDEX,CIRCLE INDEX,CUP INDEX,OVAL INDEX,HINGE INDEX",
    "ANGLE INDEX,FIST INDEX BENT,CIRCLE INDEX BENT,FIST THUMB UNDER INDEX BENT",
    "FIST INDEX RAISED KNUCKLE,FIST INDEX CUPPED,FIST INDEX HINGED,FIST INDEX HINGED LOW",
    "CIRCLE INDEX HINGE,FIST INDEX MIDDLE,CIRCLE INDEX MIDDLE"]⟩,
  ⟨0x1D810, ["SIGNWRITING HAND-FIST INDEX *,MIDDLE BENT,MIDDLE RAISED KNUCKLES,MIDDLE HINGED",
    "UP MIDDLE HINGED,HINGED MIDDLE UP,MIDDLE CONJOINED,MIDDLE CONJOINED INDEX BENT",
    "MIDDLE CONJOINED MIDDLE BENT,MIDDLE CONJOINED CUPPED,MIDDLE CONJOINED HINGED,MIDDLE CROSSED"]⟩,
  ⟨0x1D81B, ["SIGNWRITING HAND-*,CIRCLE INDEX MIDDLE CROSSED,FIST MIDDLE BENT OVER INDEX",
    "FIST INDEX BENT OVER MIDDLE,FIST INDEX MIDDLE THUMB,CIRCLE INDEX MIDDLE THUMB"]⟩,
  ⟨0x1D820, ["SIGNWRITING HAND-FIST INDEX *,MIDDLE STRAIGHT THUMB BENT,MIDDLE BENT THUMB STRAIGHT",
    "MIDDLE THUMB BENT,MIDDLE HINGED SPREAD THUMB SIDE,UP MIDDLE HINGED THUMB SIDE",
    "UP MIDDLE HINGED THUMB CONJOINED,HINGED MIDDLE UP THUMB SIDE,MIDDLE UP SPREAD THUMB FORWARD",
    "MIDDLE THUMB CUPPED,MIDDLE THUMB CIRCLED,MIDDLE THUMB HOOKED,MIDDLE THUMB HINGED"]⟩,
  ⟨0x1D82C, ["SIGNWRITING HAND-FIST *,THUMB BETWEEN INDEX MIDDLE STRAIGHT",
    "INDEX MIDDLE CONJOINED THUMB SIDE,INDEX MIDDLE CONJOINED THUMB SIDE CONJOINED",
    "INDEX MIDDLE CONJOINED THUMB SIDE BENT,MIDDLE THUMB HOOKED INDEX UP",
    "INDEX THUMB HOOKED MIDDLE UP,INDEX MIDDLE CONJOINED HINGED THUMB SIDE",
    "INDEX MIDDLE CROSSED THUMB SIDE,INDEX MIDDLE CONJOINED THUMB FORWARD",
    "INDEX MIDDLE CONJOINED CUPPED THUMB FORWARD,MIDDLE THUMB CUPPED INDEX UP",
    "INDEX THUMB CUPPED MIDDLE UP,MIDDLE THUMB CIRCLED INDEX UP,MIDDLE THUMB CIRCLED INDEX HINGED",
    "INDEX THUMB ANGLED OUT MIDDLE UP,INDEX THUMB ANGLED IN MIDDLE UP",
    "INDEX THUMB CIRCLED MIDDLE UP,INDEX MIDDLE THUMB CONJOINED HINGED",
    "INDEX MIDDLE THUMB ANGLED OUT,INDEX MIDDLE THUMB ANGLED,MIDDLE THUMB ANGLED OUT INDEX UP",
    "MIDDLE THUMB ANGLED OUT INDEX CROSSED,MIDDLE THUMB ANGLED INDEX UP",
    "INDEX THUMB HOOKED MIDDLE HINGED"]⟩,
  ⟨0x1D844, ["SIGNWRITING HAND-FLAT FOUR *,FINGERS,FINGERS BENT,FINGERS HINGED,FINGERS CONJOINED",
    "FINGERS CONJOINED SPLIT"]⟩,
  ⟨0x1D849, ["SIGNWRITING HAND-*,CLAW FOUR FINGERS CONJOINED,FIST FOUR FINGERS CONJOINED BENT",
    "HINGE FOUR FINGERS CONJOINED,FLAT FIVE FINGERS SPREAD,FLAT HEEL FIVE FINGERS SPREAD",
    "FLAT FIVE FINGERS SPREAD FOUR BENT,FLAT HEEL FIVE FINGERS SPREAD FOUR BENT",
    "FLAT FIVE FINGERS SPREAD BENT,FLAT HEEL FIVE FINGERS SPREAD BENT",
    "FLAT FIVE FINGERS SPREAD THUMB FORWARD,CUP FIVE FINGERS SPREAD,CUP FIVE FINGERS SPREAD OPEN",
    "HINGE FIVE FINGERS SPREAD OPEN,OVAL FIVE FINGERS SPREAD,FLAT FIVE FINGERS SPREAD HINGED",
    "FLAT FIVE FINGERS SPREAD HINGED THUMB SIDE,FLAT FIVE FINGERS SPREAD HINGED NO THUMB,FLAT",
    "FLAT BETWEEN PALM FACINGS,FLAT HEEL,FLAT THUMB SIDE,FLAT HEEL THUMB SIDE,FLAT THUMB BENT",
    "FLAT THUMB FORWARD,FLAT SPLIT INDEX THUMB SIDE,FLAT SPLIT CENTRE,FLAT SPLIT CENTRE THUMB SIDE",
    "FLAT SPLIT CENTRE THUMB SIDE BENT,FLAT SPLIT LITTLE,CLAW,CLAW THUMB SIDE,CLAW NO THUMB",
    "CLAW THUMB FORWARD,HOOK CURLICUE,HOOK,CUP OPEN,CUP,CUP OPEN THUMB SIDE,CUP THUMB SIDE",
    "CUP OPEN NO THUMB,CUP NO THUMB,CUP OPEN THUMB FORWARD,CUP THUMB FORWARD,CURLICUE OPEN",
    "CURLICUE,CIRCLE,OVAL,OVAL THUMB SIDE,OVAL NO THUMB,OVAL THUMB FORWARD,HINGE OPEN",
    "HINGE OPEN THUMB FORWARD,HINGE,HINGE SMALL,HINGE OPEN THUMB SIDE,HINGE THUMB SIDE",
    "HINGE OPEN NO THUMB,HINGE NO THUMB,HINGE THUMB SIDE TOUCHING INDEX",
    "HINGE THUMB BETWEEN MIDDLE RING,ANGLE,FIST INDEX MIDDLE RING,CIRCLE INDEX MIDDLE RING",
    "HINGE INDEX MIDDLE RING,ANGLE INDEX MIDDLE RING,HINGE LITTLE,FIST INDEX MIDDLE RING BENT",
    "FIST INDEX MIDDLE RING CONJOINED,HINGE INDEX MIDDLE RING CONJOINED,FIST LITTLE DOWN",
    "FIST LITTLE DOWN RIPPLE STRAIGHT,FIST LITTLE DOWN RIPPLE CURVED",
    "FIST LITTLE DOWN OTHERS CIRCLED,FIST LITTLE UP,FIST THUMB UNDER LITTLE UP,CIRCLE LITTLE UP",
    "OVAL LITTLE UP,ANGLE LITTLE UP,FIST LITTLE RAISED KNUCKLE,FIST LITTLE BENT",
    "FIST LITTLE TOUCHES THUMB,FIST LITTLE THUMB,HINGE LITTLE THUMB,FIST LITTLE INDEX THUMB",
    "HINGE LITTLE INDEX THUMB,ANGLE LITTLE INDEX THUMB INDEX THUMB OUT",
    "ANGLE LITTLE INDEX THUMB INDEX THUMB,FIST LITTLE INDEX,CIRCLE LITTLE INDEX,HINGE LITTLE INDEX",
    "ANGLE LITTLE INDEX,FIST INDEX MIDDLE LITTLE,CIRCLE INDEX MIDDLE LITTLE",
    "HINGE INDEX MIDDLE LITTLE,HINGE RING,ANGLE INDEX MIDDLE LITTLE,FIST INDEX MIDDLE CROSS LITTLE",
    "CIRCLE INDEX MIDDLE CROSS LITTLE,FIST RING DOWN,HINGE RING DOWN INDEX THUMB HOOK MIDDLE",
    "ANGLE RING DOWN MIDDLE THUMB INDEX CROSS,FIST RING UP,FIST RING RAISED KNUCKLE",
    "FIST RING LITTLE,CIRCLE RING LITTLE,OVAL RING LITTLE,ANGLE RING LITTLE,FIST RING MIDDLE",
    "FIST RING MIDDLE CONJOINED,FIST RING MIDDLE RAISED KNUCKLES,FIST RING INDEX,FIST RING THUMB",
    "HOOK RING THUMB,FIST INDEX RING LITTLE,CIRCLE INDEX RING LITTLE,CURLICUE INDEX RING LITTLE ON",
    "HOOK INDEX RING LITTLE OUT,HOOK INDEX RING LITTLE IN,HOOK INDEX RING LITTLE UNDER",
    "CUP INDEX RING LITTLE,HINGE INDEX RING LITTLE,ANGLE INDEX RING LITTLE OUT",
    "ANGLE INDEX RING LITTLE,FIST MIDDLE DOWN,HINGE MIDDLE,FIST MIDDLE UP,CIRCLE MIDDLE UP",
    "FIST MIDDLE RAISED KNUCKLE,FIST MIDDLE UP THUMB SIDE,HOOK MIDDLE THUMB",
    "FIST MIDDLE THUMB LITTLE,FIST MIDDLE LITTLE,FIST MIDDLE RING LITTLE,CIRCLE MIDDLE RING LITTLE",
    "CURLICUE MIDDLE RING LITTLE ON,CUP MIDDLE RING LITTLE,HINGE MIDDLE RING LITTLE",
    "ANGLE MIDDLE RING LITTLE OUT,ANGLE MIDDLE RING LITTLE IN,ANGLE MIDDLE RING LITTLE",
    "CIRCLE MIDDLE RING LITTLE BENT,CLAW MIDDLE RING LITTLE CONJOINED",
    "CLAW MIDDLE RING LITTLE CONJOINED SIDE,HOOK MIDDLE RING LITTLE CONJOINED OUT",
    "HOOK MIDDLE RING LITTLE CONJOINED IN,HOOK MIDDLE RING LITTLE CONJOINED,HINGE INDEX HINGED",
    "FIST INDEX THUMB SIDE,HINGE INDEX THUMB SIDE"]⟩,
  ⟨0x1D8DE, ["SIGNWRITING HAND-FIST INDEX THUMB *,SIDE THUMB DIAGONAL,SIDE THUMB CONJOINED",
    "SIDE THUMB BENT,SIDE INDEX BENT,SIDE BOTH BENT,SIDE INDEX HINGE,FORWARD INDEX STRAIGHT",
    "FORWARD INDEX BENT,HOOK,CURLICUE,CURVE THUMB INSIDE"]⟩,
  ⟨0x1D8E9, ["SIGNWRITING HAND-*,CLAW INDEX THUMB CURVE THUMB INSIDE",
    "FIST INDEX THUMB CURVE THUMB UNDER,FIST INDEX THUMB CIRCLE,CUP INDEX THUMB",
    "CUP INDEX THUMB OPEN,HINGE INDEX THUMB OPEN,HINGE INDEX THUMB LARGE,HINGE INDEX THUMB",
    "HINGE INDEX THUMB SMALL,ANGLE INDEX THUMB OUT,ANGLE INDEX THUMB IN,ANGLE INDEX THUMB",
    "FIST THUMB"]⟩,
  ⟨0x1D8F6, ["SIGNWRITING HAND-FIST THUMB *,HEEL,SIDE DIAGONAL,SIDE CONJOINED,SIDE BENT,FORWARD",
    "BETWEEN INDEX MIDDLE,BETWEEN MIDDLE RING,BETWEEN RING LITTLE,UNDER TWO FINGERS",
    "OVER TWO FINGERS,UNDER THREE FINGERS,UNDER FOUR FINGERS,OVER FOUR RAISED KNUCKLES"]⟩,
  ⟨0x1D903, ["SIGNWRITING *,HAND-FIST,HAND-FIST HEEL,TOUCH SINGLE,TOUCH MULTIPLE,TOUCH BETWEEN",
    "GRASP SINGLE,GRASP MULTIPLE,GRASP BETWEEN,STRIKE SINGLE,STRIKE MULTIPLE,STRIKE BETWEEN",
    "BRUSH SINGLE,BRUSH MULTIPLE,BRUSH BETWEEN,RUB SINGLE,RUB MULTIPLE,RUB BETWEEN,SURFACE SYMBOLS",
    "SURFACE BETWEEN,SQUEEZE LARGE SINGLE,SQUEEZE SMALL SINGLE,SQUEEZE LARGE MULTIPLE",
    "SQUEEZE SMALL MULTIPLE,SQUEEZE SEQUENTIAL,FLICK LARGE SINGLE,FLICK SMALL SINGLE",
    "FLICK LARGE MULTIPLE,FLICK SMALL MULTIPLE,FLICK SEQUENTIAL,SQUEEZE FLICK ALTERNATING"]⟩,
  ⟨0x1D921, ["SIGNWRITING MOVEMENT-HINGE *,UP DOWN LARGE,UP DOWN SMALL,UP SEQUENTIAL",
    "DOWN SEQUENTIAL,UP DOWN ALTERNATING LARGE,UP DOWN ALTERNATING SMALL,SIDE TO SIDE SCISSORS"]⟩,
  ⟨0x1D928, ["SIGNWRITING MOVEMENT-* FINGER CONTACT,WALLPLANE,FLOORPLANE"]⟩,
  ⟨0x1D92A, ["SIGNWRITING MOVEMENT-WALLPLANE SINGLE STRAIGHT *,SMALL,MEDIUM,LARGE,LARGEST"]⟩,
  ⟨0x1D92E, ["SIGNWRITING MOVEMENT-WALLPLANE *,SINGLE WRIST FLEX,DOUBLE STRAIGHT,DOUBLE WRIST FLEX",
    "DOUBLE ALTERNATING,DOUBLE ALTERNATING WRIST FLEX,CROSS,TRIPLE STRAIGHT MOVEMENT",
    "TRIPLE WRIST FLEX,TRIPLE ALTERNATING,TRIPLE ALTERNATING WRIST FLEX,BEND SMALL,BEND MEDIUM",
    "BEND LARGE,CORNER SMALL,CORNER MEDIUM,CORNER LARGE,CORNER ROTATION,CHECK SMALL,CHECK MEDIUM",
    "CHECK LARGE,BOX SMALL,BOX MEDIUM,BOX LARGE,ZIGZAG SMALL,ZIGZAG MEDIUM,ZIGZAG LARGE",
    "PEAKS SMALL,PEAKS MEDIUM,PEAKS LARGE"]⟩,
  ⟨0x1D94B, ["SIGNWRITING TRAVEL-WALLPLANE *,ROTATION-WALLPLANE SINGLE,ROTATION-WALLPLANE DOUBLE",
    "ROTATION-WALLPLANE ALTERNATING,ROTATION-FLOORPLANE SINGLE,ROTATION-FLOORPLANE DOUBLE",
    "ROTATION-FLOORPLANE ALTERNATING,SHAKING,ARM SPIRAL SINGLE,ARM SPIRAL DOUBLE",
    "ARM SPIRAL TRIPLE"]⟩,
  ⟨0x1D955, ["SIGNWRITING MOVEMENT-DIAGONAL *,AWAY SMALL,AWAY MEDIUM,AWAY LARGE,AWAY LARGEST",
    "TOWARDS SMALL,TOWARDS MEDIUM,TOWARDS LARGE,TOWARDS LARGEST"]⟩,
  ⟨0x1D95D, ["SIGNWRITING MOVEMENT-DIAGONAL BETWEEN *,AWAY SMALL,AWAY MEDIUM,AWAY LARGE",
    "AWAY LARGEST,TOWARDS SMALL,TOWARDS MEDIUM,TOWARDS LARGE,TOWARDS LARGEST"]⟩,
  ⟨0x1D965, ["SIGNWRITING MOVEMENT-FLOORPLANE *,SINGLE STRAIGHT SMALL,SINGLE STRAIGHT MEDIUM",
    "SINGLE STRAIGHT LARGE,SINGLE STRAIGHT LARGEST,SINGLE WRIST FLEX,DOUBLE STRAIGHT",
    "DOUBLE WRIST FLEX,DOUBLE ALTERNATING,DOUBLE ALTERNATING WRIST FLEX,CROSS",
    "TRIPLE STRAIGHT MOVEMENT,TRIPLE WRIST FLEX,TRIPLE ALTERNATING MOVEMENT",
    "TRIPLE ALTERNATING WRIST FLEX,BEND,CORNER SMALL,CORNER MEDIUM,CORNER LARGE,CHECK,BOX SMALL",
    "BOX MEDIUM,BOX LARGE,ZIGZAG SMALL,ZIGZAG MEDIUM,ZIGZAG LARGE,PEAKS SMALL,PEAKS MEDIUM",
    "PEAKS LARGE"]⟩,
  ⟨0x1D981, ["SIGNWRITING TRAVEL-FLOORPLANE ROTATION-*,FLOORPLANE SINGLE,FLOORPLANE DOUBLE",
    "FLOORPLANE ALTERNATING,WALLPLANE SINGLE,WALLPLANE DOUBLE,WALLPLANE ALTERNATING"]⟩,
  ⟨0x1D987, ["SIGNWRITING TRAVEL-FLOORPLANE SHAKING"]⟩,
  ⟨0x1D988, ["SIGNWRITING MOVEMENT-WALLPLANE CURVE *,QUARTER SMALL,QUARTER MEDIUM,QUARTER LARGE",
    "QUARTER LARGEST,HALF-CIRCLE SMALL,HALF-CIRCLE MEDIUM,HALF-CIRCLE LARGE,HALF-CIRCLE LARGEST",
    "THREE-QUARTER CIRCLE SMALL,THREE-QUARTER CIRCLE MEDIUM"]⟩,
  ⟨0x1D992, ["SIGNWRITING MOVEMENT-WALLPLANE *,HUMP SMALL,HUMP MEDIUM,HUMP LARGE,LOOP SMALL",
    "LOOP MEDIUM,LOOP LARGE,LOOP SMALL DOUBLE,WAVE CURVE DOUBLE SMALL,WAVE CURVE DOUBLE MEDIUM",
    "WAVE CURVE DOUBLE LARGE,WAVE CURVE TRIPLE SMALL,WAVE CURVE TRIPLE MEDIUM",
    "WAVE CURVE TRIPLE LARGE,CURVE THEN STRAIGHT,CURVED CROSS SMALL,CURVED CROSS MEDIUM"]⟩,
  ⟨0x1D9A2, ["SIGNWRITING ROTATION-WALLPLANE *,SINGLE,DOUBLE,ALTERNATE"]⟩,
  ⟨0x1D9A5, ["SIGNWRITING MOVEMENT-WALLPLANE SHAKING"]⟩,
  ⟨0x1D9A6, ["SIGNWRITING MOVEMENT-WALLPLANE * HITTING FRONT WALL,CURVE,HUMP,LOOP,WAVE"]⟩,
  ⟨0x1D9AA, ["SIGNWRITING ROTATION-WALLPLANE * HITTING FRONT WALL,SINGLE,DOUBLE,ALTERNATING"]⟩,
  ⟨0x1D9AD, ["SIGNWRITING MOVEMENT-WALLPLANE * HITTING CHEST,CURVE,HUMP,LOOP,WAVE"]⟩,
  ⟨0x1D9B1, ["SIGNWRITING ROTATION-WALLPLANE * HITTING CHEST,SINGLE,DOUBLE,ALTERNATING"]⟩,
  ⟨0x1D9B4, ["SIGNWRITING MOVEMENT-WALLPLANE WAVE DIAGONAL PATH *,SMALL,MEDIUM,LARGE"]⟩,
  ⟨0x1D9B7, ["SIGNWRITING MOVEMENT-FLOORPLANE CURVE HITTING CEILING *,SMALL,LARGE"]⟩,
  ⟨0x1D9B9, ["SIGNWRITING MOVEMENT-FLOORPLANE HUMP HITTING CEILING *,SMALL DOUBLE,LARGE DOUBLE",
    "SMALL TRIPLE,LARGE TRIPLE"]⟩,
  ⟨0x1D9BD, ["SIGNWRITING MOVEMENT-FLOORPLANE LOOP HITTING CEILING *,SMALL SINGLE,LARGE SINGLE",
    "SMALL DOUBLE,LARGE DOUBLE"]⟩,
  ⟨0x1D9C1, ["SIGNWRITING MOVEMENT-FLOORPLANE WAVE HITTING CEILING *,SMALL,LARGE"]⟩,
  ⟨0x1D9C3, ["SIGNWRITING ROTATION-FLOORPLANE * HITTING CEILING,SINGLE,DOUBLE,ALTERNATING"]⟩,
  ⟨0x1D9C6, ["SIGNWRITING MOVEMENT-FLOORPLANE CURVE HITTING FLOOR *,SMALL,LARGE"]⟩,
  ⟨0x1D9C8, ["SIGNWRITING MOVEMENT-FLOORPLANE HUMP HITTING FLOOR *,SMALL DOUBLE,LARGE DOUBLE",
    "TRIPLE SMALL TRIPLE,TRIPLE LARGE TRIPLE"]⟩,
  ⟨0x1D9CC, ["SIGNWRITING MOVEMENT-FLOORPLANE LOOP HITTING FLOOR *,SMALL SINGLE,LARGE SINGLE",
    "SMALL DOUBLE,LARGE DOUBLE"]⟩,
  ⟨0x1D9D0, ["SIGNWRITING MOVEMENT-FLOORPLANE WAVE HITTING FLOOR *,SMALL,LARGE"]⟩,
  ⟨0x1D9D2, ["SIGNWRITING ROTATION-FLOORPLANE * HITTING FLOOR,SINGLE,DOUBLE,ALTERNATING"]⟩,
  ⟨0x1D9D5, ["SIGNWRITING MOVEMENT-FLOORPLANE *,CURVE SMALL,CURVE MEDIUM,CURVE LARGE,CURVE LARGEST",
    "CURVE COMBINED,HUMP SMALL,LOOP SMALL,WAVE SNAKE,WAVE SMALL,WAVE LARGE"]⟩,
  ⟨0x1D9DF, ["SIGNWRITING ROTATION-FLOORPLANE *,SINGLE,DOUBLE,ALTERNATING"]⟩,
  ⟨0x1D9E2, ["SIGNWRITING MOVEMENT-FLOORPLANE SHAKING PARALLEL"]⟩,
  ⟨0x1D9E3, ["SIGNWRITING MOVEMENT-WALLPLANE ARM CIRCLE *,SMALL SINGLE,MEDIUM SINGLE,SMALL DOUBLE",
    "MEDIUM DOUBLE"]⟩,
  ⟨0x1D9E7, ["SIGNWRITING MOVEMENT-FLOORPLANE ARM CIRCLE HITTING WALL *,SMALL SINGLE,MEDIUM SINGLE",
    "LARGE SINGLE,SMALL DOUBLE,MEDIUM DOUBLE,LARGE DOUBLE"]⟩,
  ⟨0x1D9ED, ["SIGNWRITING MOVEMENT-WALLPLANE WRIST CIRCLE FRONT *,SINGLE,DOUBLE"]⟩,
  ⟨0x1D9EF, ["SIGNWRITING MOVEMENT-FLOORPLANE WRIST CIRCLE HITTING WALL *,SINGLE,DOUBLE"]⟩,
  ⟨0x1D9F1, ["SIGNWRITING MOVEMENT-WALLPLANE FINGER CIRCLES *,SINGLE,DOUBLE"]⟩,
  ⟨0x1D9F3, ["SIGNWRITING MOVEMENT-FLOORPLANE FINGER CIRCLES HITTING WALL *,SINGLE,DOUBLE"]⟩,
  ⟨0x1D9F5, ["SIGNWRITING DYNAMIC *,ARROWHEAD SMALL,ARROWHEAD LARGE,FAST,SLOW,TENSE,RELAXED",
    "SIMULTANEOUS,SIMULTANEOUS ALTERNATING,EVERY OTHER TIME,GRADUAL"]⟩,
  ⟨0x1D9FF, ["SIGNWRITING HEAD"]⟩,
  ⟨0x1DA00, ["SIGNWRITING HEAD *,RIM,MOVEMENT-WALLPLANE STRAIGHT,MOVEMENT-WALLPLANE TILT",
    "MOVEMENT-FLOORPLANE STRAIGHT,MOVEMENT-WALLPLANE CURVE,MOVEMENT-FLOORPLANE CURVE",
    "MOVEMENT CIRCLE"]⟩,
  ⟨0x1DA07, ["SIGNWRITING FACE DIRECTION POSITION NOSE *,FORWARD TILTING,UP OR DOWN",
    "UP OR DOWN TILTING"]⟩, ⟨0x1DA0A, ["SIGNWRITING EYEBROWS STRAIGHT *,UP,NEUTRAL,DOWN"]⟩,
  ⟨0x1DA0D, ["SIGNWRITING DREAMY EYEBROWS *,NEUTRAL DOWN,DOWN NEUTRAL,UP NEUTRAL,NEUTRAL UP"]⟩,
  ⟨0x1DA11, ["SIGNWRITING *,FOREHEAD NEUTRAL,FOREHEAD CONTACT,FOREHEAD WRINKLED,EYES OPEN",
    "EYES SQUEEZED,EYES CLOSED,EYE BLINK SINGLE,EYE BLINK MULTIPLE,EYES HALF OPEN,EYES WIDE OPEN",
    "EYES HALF CLOSED,EYES WIDENING MOVEMENT,EYE WINK,EYELASHES UP,EYELASHES DOWN",
    "EYELASHES FLUTTERING"]⟩,
  ⟨0x1DA21, ["SIGNWRITING EYEGAZE-*,WALLPLANE STRAIGHT,WALLPLANE STRAIGHT DOUBLE",
    "WALLPLANE STRAIGHT ALTERNATING,FLOORPLANE STRAIGHT,FLOORPLANE STRAIGHT DOUBLE",
    "FLOORPLANE STRAIGHT ALTERNATING,WALLPLANE CURVED,FLOORPLANE CURVED,WALLPLANE CIRCLING"]⟩,
  ⟨0x1DA2A, ["SIGNWRITING *,CHEEKS PUFFED,CHEEKS NEUTRAL,CHEEKS SUCKED,TENSE CHEEKS HIGH",
    "TENSE CHEEKS MIDDLE,TENSE CHEEKS LOW,EARS,NOSE NEUTRAL,NOSE CONTACT,NOSE WRINKLES",
    "NOSE WIGGLES,AIR BLOWING OUT,AIR SUCKING IN,AIR BLOW SMALL ROTATIONS,AIR SUCK SMALL ROTATIONS",
    "BREATH INHALE,BREATH EXHALE"]⟩,
  ⟨0x1DA3B, ["SIGNWRITING MOUTH *,CLOSED NEUTRAL,CLOSED FORWARD,CLOSED CONTACT,SMILE",
    "SMILE WRINKLED,SMILE OPEN,FROWN,FROWN WRINKLED,FROWN OPEN,OPEN CIRCLE,OPEN FORWARD",
    "OPEN WRINKLED,OPEN OVAL,OPEN OVAL WRINKLED,OPEN OVAL YAWN,OPEN RECTANGLE",
    "OPEN RECTANGLE WRINKLED,OPEN RECTANGLE YAWN,KISS,KISS FORWARD,KISS WRINKLED,TENSE",
    "TENSE FORWARD,TENSE SUCKED"]⟩,
  ⟨0x1DA53, ["SIGNWRITING *,LIPS PRESSED TOGETHER,LIP LOWER OVER UPPER,LIP UPPER OVER LOWER",
    "MOUTH CORNERS,MOUTH WRINKLES SINGLE,MOUTH WRINKLES DOUBLE,TONGUE STICKING OUT FAR",
    "TONGUE LICKING LIPS,TONGUE TIP BETWEEN LIPS,TONGUE TIP TOUCHING INSIDE MOUTH",
    "TONGUE INSIDE MOUTH RELAXED,TONGUE MOVES AGAINST CHEEK,TONGUE CENTRE STICKING OUT",
    "TONGUE CENTRE INSIDE MOUTH,TEETH,TEETH MOVEMENT,TEETH ON TONGUE,TEETH ON TONGUE MOVEMENT",
    "TEETH ON LIPS,TEETH ON LIPS MOVEMENT,TEETH BITE LIPS,MOVEMENT-WALLPLANE JAW",
    "MOVEMENT-FLOORPLANE JAW,NECK,HAIR,EXCITEMENT,SHOULDER HIP SPINE,SHOULDER HIP POSITIONS",
    "WALLPLANE SHOULDER HIP MOVE,FLOORPLANE SHOULDER HIP MOVE,SHOULDER TILTING FROM WAIST",
    "TORSO-WALLPLANE STRAIGHT STRETCH,TORSO-WALLPLANE CURVED BEND,TORSO-FLOORPLANE TWISTING",
    "UPPER BODY TILTING FROM HIP JOINTS,LIMB COMBINATION"]⟩,
  ⟨0x1DA77, ["SIGNWRITING LIMB LENGTH-*,1,2,3,4,5,6,7"]⟩,
  ⟨0x1DA7E, ["SIGNWRITING *,FINGER,LOCATION-WALLPLANE SPACE,LOCATION-FLOORPLANE SPACE",
    "LOCATION HEIGHT,LOCATION WIDTH,LOCATION DEPTH,LOCATION HEAD NECK,LOCATION TORSO",
    "LOCATION LIMBS DIGITS,COMMA,FULL STOP,SEMICOLON,COLON,PARENTHESIS"]⟩,
  ⟨0x1DA9B, ["SIGNWRITING FILL MODIFIER-*,2,3,4,5,6"]⟩,
  ⟨0x1DAA1, ["SIGNWRITING ROTATION MODIFIER-*,2,3,4,5,6,7,8,9,10,11,12,13,14,15,16"]⟩,
  ⟨0x1DF00, ["LATIN *,SMALL LETTER FENG DIGRAPH WITH TRILL,SMALL LETTER REVERSED SCRIPT G",
    "LETTER SMALL CAPITAL TURNED G,SMALL LETTER REVERSED K,LETTER SMALL CAPITAL L WITH BELT"]⟩,
  ⟨0x1DF05, ["LATIN SMALL LETTER *,LEZH WITH RETROFLEX HOOK,TURNED Y WITH BELT,REVERSED ENG",
    "TURNED R WITH LONG LEG AND RETROFLEX HOOK,T WITH HOOK AND RETROFLEX HOOK"]⟩,
  ⟨0x1DF0A, ["LATIN *,LETTER RETROFLEX CLICK WITH RETROFLEX HOOK,SMALL LETTER ESH WITH DOUBLE BAR",
    "SMALL LETTER ESH WITH DOUBLE BAR AND CURL,SMALL LETTER TURNED T WITH CURL",
    "LETTER INVERTED GLOTTAL STOP WITH CURL,LETTER STRETCHED C WITH CURL",
    "LETTER SMALL CAPITAL TURNED K,SMALL LETTER L WITH FISHHOOK"]⟩,
  ⟨0x1DF12, ["LATIN SMALL LETTER * PALATAL HOOK,DEZH DIGRAPH WITH,L WITH BELT AND,ENG WITH",
    "TURNED R WITH,R WITH FISHHOOK AND,TESH DIGRAPH WITH,EZH WITH"]⟩,
  ⟨0x1DF19, ["LATIN SMALL LETTER * RETROFLEX HOOK,DEZH DIGRAPH WITH,I WITH STROKE AND,O WITH",
    "TESH DIGRAPH WITH,C WITH"]⟩, ⟨0x1DF1E, ["LATIN SMALL LETTER S WITH CURL"]⟩]

/-- The names of scripts of the supplementary plane and Arabic mathematics. -/
def mathematicalArabicNames : List NameEntry := [
  ⟨0x1E000, ["COMBINING GLAGOLITIC LETTER *,AZU,BUKY,VEDE,GLAGOLI,DOBRO,YESTU,ZHIVETE"]⟩,
  ⟨0x1E008, ["COMBINING GLAGOLITIC LETTER *,ZEMLJA,IZHE,INITIAL IZHE,I,DJERVI,KAKO,LJUDIJE,MYSLITE",
    "NASHI,ONU,POKOJI,RITSI,SLOVO,TVRIDO,UKU,FRITU,HERU"]⟩,
  ⟨0x1E01B, ["COMBINING GLAGOLITIC LETTER *,SHTA,TSI,CHRIVI,SHA,YERU,YERI,YATI"]⟩,
  ⟨0x1E023, ["COMBINING GLAGOLITIC LETTER *,YU,SMALL YUS"]⟩,
  ⟨0x1E026, ["COMBINING GLAGOLITIC LETTER *,YO,IOTATED SMALL YUS,BIG YUS,IOTATED BIG YUS,FITA"]⟩,
  ⟨0x1E100, ["NYIAKENG PUACHUE HMONG LETTER *,MA,TSA,NTA,TA,HA,NA,XA,NKA,CA,LA,SA,ZA,NCA,NTSA,KA",
    "DA,NYA,NRA,VA,NTXA,TXA,FA,RA,QA,YA,NQA,PA,XYA,NPA,DLA,NPLA,HAH,MLA,PLA,GA,RRA,A,AA,I,U,O,OO,E",
    "EE,W"]⟩,
  ⟨0x1E130, ["NYIAKENG PUACHUE HMONG *,TONE-B,TONE-M,TONE-J,TONE-V,TONE-S,TONE-G,TONE-D",
    "SIGN FOR PERSON,SIGN FOR THING,SIGN FOR LOCATION,SIGN FOR ANIMAL,SIGN FOR INVERTEBRATE",
    "SIGN XW XW,SYLLABLE LENGTHENER"]⟩,
  ⟨0x1E140, ["NYIAKENG PUACHUE HMONG DIGIT *,ZERO,ONE,TWO,THREE,FOUR,FIVE,SIX,SEVEN,EIGHT,NINE"]⟩,
  ⟨0x1E14E, ["NYIAKENG PUACHUE HMONG *,LOGOGRAM NYAJ,CIRCLED CA"]⟩,
  ⟨0x1E290, ["TOTO LETTER *,PA,BA,TA,DA,KA,GA,MA,NA,NGA,SA,CHA,YA,WA,JA,HA,RA,LA,I,BREATHY I,IU",
    "BREATHY IU,U,E,BREATHY E,EO,BREATHY EO,O,AE,BREATHY AE,A"]⟩,
  ⟨0x1E2AE, ["TOTO SIGN RISING TONE"]⟩,
  ⟨0x1E2C0, ["WANCHO LETTER *,AA,A,BA,CA,DA,GA,YA,PHA,LA,NA,PA,TA,THA,FA,SA,SHA,JA,ZA,WA,VA,KA,O",
    "AU,RA,MA,KHA,HA,E,I,NGA,U,LLHA,TSA,TRA,ONG,AANG,ANG,ING,ON,EN,AAN,NYA,UEN,YIH"]⟩,
  ⟨0x1E2EC, ["WANCHO TONE *,TUP,TUPNI,KOI,KOINI"]⟩,
  ⟨0x1E2F0, ["WANCHO DIGIT *,ZERO,ONE,TWO,THREE,FOUR,FIVE,SIX,SEVEN,EIGHT,NINE"]⟩,
  ⟨0x1E2FF, ["WANCHO NGUN SIGN"]⟩,
  ⟨0x1E7E0, ["ETHIOPIC SYLLABLE *,HHYA,HHYU,HHYI,HHYAA,HHYEE,HHYE,HHYO"]⟩,
  ⟨0x1E7E8, ["ETHIOPIC SYLLABLE *,GURAGE HHWA,HHWI,HHWEE,HHWE"]⟩,
  ⟨0x1E7ED, ["ETHIOPIC SYLLABLE GURAGE *,MWI,MWEE"]⟩,
  ⟨0x1E7F0, ["ETHIOPIC SYLLABLE GURAGE *,QWI,QWEE,QWE,BWI,BWEE,KWI,KWEE,KWE,GWI,GWEE,GWE,FWI,FWEE",
    "PWI,PWEE"]⟩,
  ⟨0x1E800, ["MENDE KIKAKUI SYLLABLE *,M001 KI,M002 KA,M003 KU,M065 KEE,M095 KE,M076 KOO,M048 KO",
    "M179 KUA,M004 WI,M005 WA,M006 WU,M126 WEE,M118 WE,M114 WOO,M045 WO,M194 WUI,M143 WEI,M061 WVI",
    "M049 WVA,M139 WVE,M007 MIN,M008 MAN,M009 MUN,M059 MEN,M094 MON,M154 MUAN,M189 MUEN,M010 BI",
    "M011 BA,M012 BU,M150 BEE,M097 BE,M103 BOO,M138 BO,M013 I,M014 A,M015 U,M163 EE,M100 E,M165 OO",
    "M147 O,M137 EI,M131 IN,M135 IN,M195 AN,M178 EN,M019 SI,M020 SA,M021 SU,M162 SEE,M116 SE",
    "M136 SOO,M079 SO,M196 SIA,M025 LI,M026 LA,M027 LU,M084 LEE,M073 LE,M054 LOO,M153 LO",
    "M110 LONG LE,M016 DI,M017 DA,M018 DU,M089 DEE,M180 DOO,M181 DO,M022 TI,M023 TA,M024 TU",
    "M091 TEE,M055 TE,M104 TOO,M069 TO,M028 JI,M029 JA,M030 JU,M157 JEE,M113 JE,M160 JOO,M063 JO",
    "M175 LONG JO,M031 YI,M032 YA,M033 YU,M109 YEE,M080 YE,M141 YOO,M121 YO,M034 FI,M035 FA",
    "M036 FU,M078 FEE,M075 FE,M133 FOO,M088 FO,M197 FUA,M101 FAN,M037 NIN,M038 NAN,M039 NUN",
    "M117 NEN,M169 NON,M176 HI,M041 HA,M186 HU,M040 HEE,M096 HE,M042 HOO,M140 HO,M083 HEEI",
    "M128 HOOU,M053 HIN,M130 HAN,M087 HUN,M052 HEN,M193 HON,M046 HUAN,M090 NGGI,M043 NGGA",
    "M082 NGGU,M115 NGGEE,M146 NGGE,M156 NGGOO,M120 NGGO,M159 NGGAA,M127 NGGUA,M086 LONG NGGE",
    "M106 LONG NGGOO,M183 LONG NGGO,M155 GI,M111 GA,M168 GU,M190 GEE,M166 GUEI,M167 GUAN,M184 NGEN",
    "M057 NGON,M177 NGUAN,M068 PI,M099 PA,M050 PU,M081 PEE,M051 PE,M102 POO,M066 PO,M145 MBI",
    "M062 MBA,M122 MBU,M047 MBEE,M188 MBEE,M072 MBE,M172 MBOO,M174 MBO,M187 MBUU,M161 LONG MBE",
    "M105 LONG MBOO,M142 LONG MBO,M132 KPI,M092 KPA,M074 KPU,M044 KPEE,M108 KPE,M112 KPOO,M158 KPO",
    "M124 GBI,M056 GBA,M148 GBU,M093 GBEE,M107 GBE,M071 GBOO,M070 GBO,M171 RA,M123 NDI,M129 NDA",
    "M125 NDU,M191 NDEE,M119 NDE,M067 NDOO,M064 NDO,M152 NJA,M192 NJU,M149 NJEE,M134 NJOO,M182 VI",
    "M185 VA,M151 VU,M173 VEE,M085 VE,M144 VOO,M077 VO,M164 NYIN,M058 NYAN,M170 NYUN,M098 NYEN",
    "M060 NYON"]⟩,
  ⟨0x1E8C7, ["MENDE KIKAKUI DIGIT *,ONE,TWO,THREE,FOUR,FIVE,SIX,SEVEN,EIGHT,NINE"]⟩,
  ⟨0x1E8D0, ["MENDE KIKAKUI COMBINING NUMBER *,TEENS,TENS,HUNDREDS,THOUSANDS,TEN THOUSANDS",
    "HUNDRED THOUSANDS,MILLIONS"]⟩,
  ⟨0x1E900, ["ADLAM CAPITAL LETTER *,ALIF,DAALI,LAAM,MIIM,BA,SINNYIIYHE,PE,BHE,RA,E,FA,I,O,DHA,YHE",
    "WAW,NUN,KAF,YA,U,JIIM,CHI,HA,QAAF,GA,NYA,TU,NHA,VA,KHA,GBE,ZAL,KPO,SHA"]⟩,
  ⟨0x1E922, ["ADLAM SMALL LETTER *,ALIF,DAALI,LAAM,MIIM,BA,SINNYIIYHE,PE,BHE,RA,E,FA,I,O,DHA,YHE",
    "WAW,NUN,KAF,YA,U,JIIM,CHI,HA,QAAF,GA,NYA,TU,NHA,VA,KHA,GBE,ZAL,KPO,SHA"]⟩,
  ⟨0x1E944, ["ADLAM *,ALIF LENGTHENER,VOWEL LENGTHENER,GEMINATION MARK,HAMZA,CONSONANT MODIFIER",
    "GEMINATE CONSONANT MODIFIER,NUKTA,NASALIZATION MARK"]⟩,
  ⟨0x1E950, ["ADLAM DIGIT *,ZERO,ONE,TWO,THREE,FOUR,FIVE,SIX,SEVEN,EIGHT,NINE"]⟩,
  ⟨0x1E95E, ["ADLAM INITIAL * MARK,EXCLAMATION,QUESTION"]⟩,
  ⟨0x1EC71, ["INDIC SIYAQ NUMBER *,ONE,TWO,THREE,FOUR,FIVE,SIX,SEVEN,EIGHT,NINE,TEN,TWENTY,THIRTY",
    "FORTY,FIFTY,SIXTY,SEVENTY,EIGHTY,NINETY"]⟩,
  ⟨0x1EC83, ["INDIC SIYAQ NUMBER * HUNDRED,ONE,TWO,THREE,FOUR,FIVE,SIX,SEVEN,EIGHT,NINE"]⟩,
  ⟨0x1EC8C, ["INDIC SIYAQ NUMBER * THOUSAND,ONE,TWO,THREE,FOUR,FIVE,SIX,SEVEN,EIGHT,NINE,TEN",
    "TWENTY,THIRTY,FORTY,FIFTY,SIXTY,SEVENTY,EIGHTY,NINETY"]⟩,
  ⟨0x1EC9E, ["INDIC SIYAQ *,NUMBER LAKH,NUMBER LAKHAN,LAKH MARK,NUMBER KAROR,NUMBER KARORAN"]⟩,
  ⟨0x1ECA3, ["INDIC SIYAQ NUMBER PREFIXED *,ONE,TWO,THREE,FOUR,FIVE,SIX,SEVEN,EIGHT,NINE"]⟩,
  ⟨0x1ECAC, ["INDIC SIYAQ *,PLACEHOLDER,FRACTION ONE QUARTER,FRACTION ONE HALF",
    "FRACTION THREE QUARTERS,RUPEE MARK,NUMBER ALTERNATE ONE,NUMBER ALTERNATE TWO",
    "NUMBER ALTERNATE TEN THOUSAND,ALTERNATE LAKH MARK"]⟩,
  ⟨0x1ED01, ["OTTOMAN SIYAQ NUMBER *,ONE,TWO,THREE,FOUR,FIVE,SIX,SEVEN,EIGHT,NINE,TEN,TWENTY",
    "THIRTY,FORTY,FIFTY,SIXTY,SEVENTY,EIGHTY,NINETY"]⟩,
  ⟨0x1ED13, ["OTTOMAN SIYAQ NUMBER * HUNDRED,ONE,TWO,THREE,FOUR,FIVE,SIX,SEVEN,EIGHT,NINE"]⟩,
  ⟨0x1ED1C, ["OTTOMAN SIYAQ NUMBER * THOUSAND,ONE,TWO,THREE,FOUR,FIVE,SIX,SEVEN,EIGHT,NINE,TEN",
    "TWENTY,THIRTY,FORTY,FIFTY,SIXTY,SEVENTY,EIGHTY,NINETY"]⟩,
  ⟨0x1ED2E, ["OTTOMAN SIYAQ MARRATAN"]⟩,
  ⟨0x1ED2F, ["OTTOMAN SIYAQ ALTERNATE NUMBER *,TWO,THREE,FOUR,FIVE,SIX,SEVEN,EIGHT,NINE,TEN",
    "FOUR HUNDRED,SIX HUNDRED,TWO THOUSAND,TEN THOUSAND"]⟩,
  ⟨0x1ED3C, ["OTTOMAN SIYAQ FRACTION ONE *,HALF,SIXTH"]⟩,
  ⟨0x1EE00, ["ARABIC MATHEMATICAL *,ALEF,BEH,JEEM,DAL"]⟩,
  ⟨0x1EE05, ["ARABIC MATHEMATICAL *,WAW,ZAIN,HAH,TAH,YEH,KAF,LAM,MEEM,NOON,SEEN,AIN,FEH,SAD,QAF",
    "REH,SHEEN,TEH,THEH,KHAH,THAL,DAD,ZAH,GHAIN,DOTLESS BEH,DOTLESS NOON,DOTLESS FEH,DOTLESS QAF"]⟩,
  ⟨0x1EE21, ["ARABIC MATHEMATICAL INITIAL *,BEH,JEEM"]⟩,
  ⟨0x1EE24, ["ARABIC MATHEMATICAL INITIAL HEH"]⟩, ⟨0x1EE27, ["ARABIC MATHEMATICAL INITIAL HAH"]⟩,
  ⟨0x1EE29, ["ARABIC MATHEMATICAL INITIAL *,YEH,KAF,LAM,MEEM,NOON,SEEN,AIN,FEH,SAD,QAF"]⟩,
  ⟨0x1EE34, ["ARABIC MATHEMATICAL INITIAL *,SHEEN,TEH,THEH,KHAH"]⟩,
  ⟨0x1EE39, ["ARABIC MATHEMATICAL INITIAL DAD"]⟩, ⟨0x1EE3B, ["ARABIC MATHEMATICAL INITIAL GHAIN"]⟩,
  ⟨0x1EE42, ["ARABIC MATHEMATICAL TAILED JEEM"]⟩, ⟨0x1EE47, ["ARABIC MATHEMATICAL TAILED HAH"]⟩,
  ⟨0x1EE49, ["ARABIC MATHEMATICAL TAILED YEH"]⟩, ⟨0x1EE4B, ["ARABIC MATHEMATICAL TAILED LAM"]⟩,
  ⟨0x1EE4D, ["ARABIC MATHEMATICAL TAILED *,NOON,SEEN,AIN"]⟩,
  ⟨0x1EE51, ["ARABIC MATHEMATICAL TAILED *,SAD,QAF"]⟩,
  ⟨0x1EE54, ["ARABIC MATHEMATICAL TAILED SHEEN"]⟩, ⟨0x1EE57, ["ARABIC MATHEMATICAL TAILED KHAH"]⟩,
  ⟨0x1EE59, ["ARABIC MATHEMATICAL TAILED DAD"]⟩, ⟨0x1EE5B, ["ARABIC MATHEMATICAL TAILED GHAIN"]⟩,
  ⟨0x1EE5D, ["ARABIC MATHEMATICAL TAILED DOTLESS NOON"]⟩,
  ⟨0x1EE5F, ["ARABIC MATHEMATICAL TAILED DOTLESS QAF"]⟩,
  ⟨0x1EE61, ["ARABIC MATHEMATICAL STRETCHED *,BEH,JEEM"]⟩,
  ⟨0x1EE64, ["ARABIC MATHEMATICAL STRETCHED HEH"]⟩,
  ⟨0x1EE67, ["ARABIC MATHEMATICAL STRETCHED *,HAH,TAH,YEH,KAF"]⟩,
  ⟨0x1EE6C, ["ARABIC MATHEMATICAL STRETCHED *,MEEM,NOON,SEEN,AIN,FEH,SAD,QAF"]⟩,
  ⟨0x1EE74, ["ARABIC MATHEMATICAL STRETCHED *,SHEEN,TEH,THEH,KHAH"]⟩,
  ⟨0x1EE79, ["ARABIC MATHEMATICAL STRETCHED *,DAD,ZAH,GHAIN,DOTLESS BEH"]⟩,
  ⟨0x1EE7E, ["ARABIC MATHEMATICAL STRETCHED DOTLESS FEH"]⟩,
  ⟨0x1EE80, ["ARABIC MATHEMATICAL LOOPED *,ALEF,BEH,JEEM,DAL,HEH,WAW,ZAIN,HAH,TAH,YEH"]⟩,
  ⟨0x1EE8B, ["ARABIC MATHEMATICAL LOOPED *,LAM,MEEM,NOON,SEEN,AIN,FEH,SAD,QAF,REH,SHEEN,TEH,THEH",
    "KHAH,THAL,DAD,ZAH,GHAIN"]⟩, ⟨0x1EEA1, ["ARABIC MATHEMATICAL DOUBLE-STRUCK *,BEH,JEEM,DAL"]⟩,
  ⟨0x1EEA5, ["ARABIC MATHEMATICAL DOUBLE-STRUCK *,WAW,ZAIN,HAH,TAH,YEH"]⟩,
  ⟨0x1EEAB, ["ARABIC MATHEMATICAL DOUBLE-STRUCK *,LAM,MEEM,NOON,SEEN,AIN,FEH,SAD,QAF,REH,SHEEN,TEH",
    "THEH,KHAH,THAL,DAD,ZAH,GHAIN"]⟩,
  ⟨0x1EEF0, ["ARABIC MATHEMATICAL OPERATOR *,MEEM WITH HAH WITH TATWEEL,HAH WITH DAL"]⟩]

/-- The names of tiles, cards, enclosed characters and pictures. -/
def emojiNames : List NameEntry := [
  ⟨0x1F000, ["MAHJONG TILE *,EAST WIND,SOUTH WIND,WEST WIND,NORTH WIND,RED DRAGON,GREEN DRAGON",
    "WHITE DRAGON"]⟩,
  ⟨0x1F007, ["MAHJONG TILE * OF CHARACTERS,ONE,TWO,THREE,FOUR,FIVE,SIX,SEVEN,EIGHT,NINE"]⟩,
  ⟨0x1F010, ["MAHJONG TILE * OF BAMBOOS,ONE,TWO,THREE,FOUR,FIVE,SIX,SEVEN,EIGHT,NINE"]⟩,
  ⟨0x1F019, ["MAHJONG TILE * OF CIRCLES,ONE,TWO,THREE,FOUR,FIVE,SIX,SEVEN,EIGHT,NINE"]⟩,
  ⟨0x1F022, ["MAHJONG TILE *,PLUM,ORCHID,BAMBOO,CHRYSANTHEMUM,SPRING,SUMMER,AUTUMN,WINTER,JOKER",
    "BACK"]⟩, ⟨0x1F030, ["DOMINO TILE HORIZONTAL BACK"]⟩,
  ⟨0x1F031, ["DOMINO TILE HORIZONTAL-*,00-00,00-01,00-02,00-03,00-04,00-05,00-06,01-00,01-01,01-02",
    "01-03,01-04,01-05,01-06,02-00,02-01,02-02,02-03,02-04,02-05,02-06,03-00,03-01,03-02,03-03",
    "03-04,03-05,03-06,04-00,04-01,04-02,04-03,04-04,04-05,04-06,05-00,05-01,05-02,05-03,05-04",
    "05-05,05-06,06-00,06-01,06-02,06-03,06-04,06-05,06-06"]⟩,
  ⟨0x1F062, ["DOMINO TILE VERTICAL BACK"]⟩,
  ⟨0x1F063, ["DOMINO TILE VERTICAL-*,00-00,00-01,00-02,00-03,00-04,00-05,00-06,01-00,01-01,01-02",
    "01-03,01-04,01-05,01-06,02-00,02-01,02-02,02-03,02-04,02-05,02-06,03-00,03-01,03-02,03-03",
    "03-04,03-05,03-06,04-00,04-01,04-02,04-03,04-04,04-05,04-06,05-00,05-01,05-02,05-03,05-04",
    "05-05,05-06,06-00,06-01,06-02,06-03,06-04,06-05,06-06"]⟩, ⟨0x1F0A0, ["PLAYING CARD BACK"]⟩,
  ⟨0x1F0A1, ["PLAYING CARD * OF SPADES,ACE,TWO,THREE,FOUR,FIVE,SIX,SEVEN,EIGHT,NINE,TEN,JACK",
    "KNIGHT,QUEEN,KING"]⟩,
  ⟨0x1F0B1, ["PLAYING CARD * OF HEARTS,ACE,TWO,THREE,FOUR,FIVE,SIX,SEVEN,EIGHT,NINE,TEN,JACK",
    "KNIGHT,QUEEN,KING"]⟩, ⟨0x1F0BF, ["PLAYING CARD RED JOKER"]⟩,
  ⟨0x1F0C1, ["PLAYING CARD * OF DIAMONDS,ACE,TWO,THREE,FOUR,FIVE,SIX,SEVEN,EIGHT,NINE,TEN,JACK",
    "KNIGHT,QUEEN,KING"]⟩, ⟨0x1F0CF, ["PLAYING CARD BLACK JOKER"]⟩,
  ⟨0x1F0D1, ["PLAYING CARD * OF CLUBS,ACE,TWO,THREE,FOUR,FIVE,SIX,SEVEN,EIGHT,NINE,TEN,JACK,KNIGHT",
    "QUEEN,KING"]⟩, ⟨0x1F0DF, ["PLAYING CARD *,WHITE JOKER,FOOL"]⟩,
  ⟨0x1F0E1, ["PLAYING CARD TRUMP-*,1,2,3,4,5,6,7,8,9,10,11,12,13,14,15,16,17,18,19,20,21"]⟩,
  ⟨0x1F100, ["DIGIT ZERO FULL STOP"]⟩,
  ⟨0x1F101, ["DIGIT * COMMA,ZERO,ONE,TWO,THREE,FOUR,FIVE,SIX,SEVEN,EIGHT,NINE"]⟩,
  ⟨0x1F10B, ["DINGBAT *,CIRCLED SANS-SERIF DIGIT ZERO,NEGATIVE CIRCLED SANS-SERIF DIGIT ZERO"]⟩,
  ⟨0x1F10D, ["CIRCLED *,ZERO WITH SLASH,ANTICLOCKWISE ARROW,DOLLAR SIGN WITH OVERLAID BACKSLASH"]⟩,
  ⟨0x1F110, ["PARENTHESIZED LATIN CAPITAL LETTER *,A,B,C,D,E,F,G,H,I,J,K,L,M,N,O,P,Q,R,S,T,U,V,W,X",
    "Y,Z"]⟩, ⟨0x1F12A, ["TORTOISE SHELL BRACKETED LATIN CAPITAL LETTER S"]⟩,
  ⟨0x1F12B, ["CIRCLED ITALIC LATIN CAPITAL LETTER *,C,R"]⟩,
  ⟨0x1F12D, ["*,CIRCLED CD,CIRCLED WZ,COPYLEFT SYMBOL"]⟩,
  ⟨0x1F130, ["SQUARED LATIN CAPITAL LETTER *,A,B,C,D,E,F,G,H,I,J,K,L,M,N,O,P,Q,R,S,T,U,V,W,X,Y,Z"]⟩,
  ⟨0x1F14A, ["SQUARED *,HV,MV,SD,SS,PPV,WC"]⟩,
  ⟨0x1F150, ["NEGATIVE CIRCLED LATIN CAPITAL LETTER *,A,B,C,D,E,F,G,H,I,J,K,L,M,N,O,P,Q,R,S,T,U,V",
    "W,X,Y,Z"]⟩, ⟨0x1F16A, ["RAISED * SIGN,MC,MD,MR"]⟩,
  ⟨0x1F16D, ["CIRCLED *,CC,C WITH OVERLAID BACKSLASH,HUMAN FIGURE"]⟩,
  ⟨0x1F170, ["NEGATIVE SQUARED LATIN CAPITAL LETTER *,A,B,C,D,E,F,G,H,I,J,K,L,M,N,O,P,Q,R,S,T,U,V",
    "W,X,Y,Z"]⟩, ⟨0x1F18A, ["CROSSED NEGATIVE SQUARED LATIN CAPITAL LETTER P"]⟩,
  ⟨0x1F18B, ["NEGATIVE SQUARED *,IC,PA,SA,AB,WC"]⟩, ⟨0x1F190, ["SQUARE DJ"]⟩,
  ⟨0x1F191, ["SQUARED *,CL,COOL,FREE,ID,NEW,NG,OK,SOS,UP WITH EXCLAMATION MARK,VS,THREE D",
    "SECOND SCREEN,TWO K,FOUR K,EIGHT K,FIVE POINT ONE,SEVEN POINT ONE,TWENTY-TWO POINT TWO",
    "SIXTY P,ONE HUNDRED TWENTY P,LATIN SMALL LETTER D,HC,HDR,HI-RES,LOSSLESS,SHV,UHD,VOD"]⟩,
  ⟨0x1F1AD, ["MASK WORK SYMBOL"]⟩,
  ⟨0x1F1E6, ["REGIONAL INDICATOR SYMBOL LETTER *,A,B,C,D,E,F,G,H,I,J,K,L,M,N,O,P,Q,R,S,T,U,V,W,X,Y",
    "Z"]⟩, ⟨0x1F200, ["SQUARE HIRAGANA HOKA"]⟩, ⟨0x1F201, ["SQUARED KATAKANA *,KOKO,SA"]⟩,
  ⟨0x1F210, ["SQUARED CJK UNIFIED IDEOGRAPH-*,624B,5B57,53CC"]⟩, ⟨0x1F213, ["SQUARED KATAKANA DE"]⟩,
  ⟨0x1F214, ["SQUARED CJK UNIFIED IDEOGRAPH-*,4E8C,591A,89E3,5929,4EA4,6620,7121,6599,524D,5F8C",
    "518D,65B0,521D,7D42,751F,8CA9,58F0,5439,6F14,6295,6355,4E00,4E09,904A,5DE6,4E2D,53F3,6307",
    "8D70,6253,7981,7A7A,5408,6E80,6709,6708,7533,5272,55B6,914D"]⟩,
  ⟨0x1F240, ["TORTOISE SHELL BRACKETED CJK UNIFIED IDEOGRAPH-*,672C,4E09,4E8C,5B89,70B9,6253,76D7",
    "52DD,6557"]⟩, ⟨0x1F250, ["CIRCLED IDEOGRAPH *,ADVANTAGE,ACCEPT"]⟩,
  ⟨0x1F260, ["ROUNDED SYMBOL FOR *,FU,LU,SHOU,XI,SHUANGXI,CAI"]⟩,
  ⟨0x1F300, ["*,CYCLONE,FOGGY,CLOSED UMBRELLA,NIGHT WITH STARS,SUNRISE OVER MOUNTAINS,SUNRISE",
    "CITYSCAPE AT DUSK,SUNSET OVER BUILDINGS,RAINBOW,BRIDGE AT NIGHT,WATER WAVE,VOLCANO,MILKY WAY",
    "EARTH GLOBE EUROPE-AFRICA,EARTH GLOBE AMERICAS,EARTH GLOBE ASIA-AUSTRALIA",
    "GLOBE WITH MERIDIANS"]⟩,
  ⟨0x1F311, ["* MOON SYMBOL,NEW,WAXING CRESCENT,FIRST QUARTER,WAXING GIBBOUS,FULL,WANING GIBBOUS",
    "LAST QUARTER,WANING CRESCENT"]⟩, ⟨0x1F319, ["CRESCENT MOON"]⟩,
  ⟨0x1F31A, ["* MOON WITH FACE,NEW,FIRST QUARTER,LAST QUARTER,FULL"]⟩,
  ⟨0x1F31E, ["*,SUN WITH FACE,GLOWING STAR,SHOOTING STAR,THERMOMETER,BLACK DROPLET,WHITE SUN"]⟩,
  ⟨0x1F324, ["WHITE SUN *,WITH SMALL CLOUD,BEHIND CLOUD,BEHIND CLOUD WITH RAIN"]⟩,
  ⟨0x1F327, ["CLOUD WITH *,RAIN,SNOW,LIGHTNING,TORNADO"]⟩,
  ⟨0x1F32B, ["*,FOG,WIND BLOWING FACE,HOT DOG,TACO,BURRITO,CHESTNUT,SEEDLING,EVERGREEN TREE",
    "DECIDUOUS TREE,PALM TREE,CACTUS,HOT PEPPER,TULIP,CHERRY BLOSSOM,ROSE,HIBISCUS,SUNFLOWER",
    "BLOSSOM,EAR OF MAIZE,EAR OF RICE,HERB,FOUR LEAF CLOVER,MAPLE LEAF,FALLEN LEAF",
    "LEAF FLUTTERING IN WIND,MUSHROOM,TOMATO,AUBERGINE,GRAPES,MELON,WATERMELON,TANGERINE,LEMON",
    "BANANA,PINEAPPLE,RED APPLE,GREEN APPLE,PEAR,PEACH,CHERRIES,STRAWBERRY,HAMBURGER",
    "SLICE OF PIZZA,MEAT ON BONE,POULTRY LEG,RICE CRACKER,RICE BALL,COOKED RICE,CURRY AND RICE",
    "STEAMING BOWL,SPAGHETTI,BREAD,FRENCH FRIES,ROASTED SWEET POTATO,DANGO,ODEN,SUSHI,FRIED SHRIMP",
    "FISH CAKE WITH SWIRL DESIGN,SOFT ICE CREAM,SHAVED ICE,ICE CREAM,DOUGHNUT,COOKIE,CHOCOLATE BAR",
    "CANDY,LOLLIPOP,CUSTARD,HONEY POT,SHORTCAKE,BENTO BOX,POT OF FOOD,COOKING,FORK AND KNIFE",
    "TEACUP WITHOUT HANDLE,SAKE BOTTLE AND CUP,WINE GLASS,COCKTAIL GLASS,TROPICAL DRINK,BEER MUG",
    "CLINKING BEER MUGS,BABY BOTTLE,FORK AND KNIFE WITH PLATE,BOTTLE WITH POPPING CORK,POPCORN",
    "RIBBON,WRAPPED PRESENT,BIRTHDAY CAKE,JACK-O-LANTERN,CHRISTMAS TREE,FATHER CHRISTMAS,FIREWORKS",
    "FIREWORK SPARKLER,BALLOON,PARTY POPPER,CONFETTI BALL,TANABATA TREE,CROSSED FLAGS",
    "PINE DECORATION,JAPANESE DOLLS,CARP STREAMER,WIND CHIME,MOON VIEWING CEREMONY,SCHOOL SATCHEL",
    "GRADUATION CAP,HEART WITH TIP ON THE LEFT,BOUQUET OF FLOWERS,MILITARY MEDAL,REMINDER RIBBON",
    "MUSICAL KEYBOARD WITH JACKS,STUDIO MICROPHONE,LEVEL SLIDER,CONTROL KNOBS",
    "BEAMED ASCENDING MUSICAL NOTES,BEAMED DESCENDING MUSICAL NOTES,FILM FRAMES,ADMISSION TICKETS",
    "CAROUSEL HORSE,FERRIS WHEEL,ROLLER COASTER,FISHING POLE AND FISH,MICROPHONE,MOVIE CAMERA",
    "CINEMA,HEADPHONE,ARTIST PALETTE,TOP HAT,CIRCUS TENT,TICKET,CLAPPER BOARD,PERFORMING ARTS",
    "VIDEO GAME,DIRECT HIT,SLOT MACHINE,BILLIARDS,GAME DIE,BOWLING,FLOWER PLAYING CARDS",
    "MUSICAL NOTE,MULTIPLE MUSICAL NOTES,SAXOPHONE,GUITAR,MUSICAL KEYBOARD,TRUMPET,VIOLIN",
    "MUSICAL SCORE,RUNNING SHIRT WITH SASH,TENNIS RACQUET AND BALL,SKI AND SKI BOOT",
    "BASKETBALL AND HOOP,CHEQUERED FLAG,SNOWBOARDER,RUNNER,SURFER,SPORTS MEDAL,TROPHY,HORSE RACING",
    "AMERICAN FOOTBALL,RUGBY FOOTBALL,SWIMMER,WEIGHT LIFTER,GOLFER,RACING MOTORCYCLE,RACING CAR",
    "CRICKET BAT AND BALL,VOLLEYBALL,FIELD HOCKEY STICK AND BALL,ICE HOCKEY STICK AND PUCK",
    "TABLE TENNIS PADDLE AND BALL,SNOW CAPPED MOUNTAIN,CAMPING,BEACH WITH UMBRELLA",
    "BUILDING CONSTRUCTION,HOUSE BUILDINGS,CITYSCAPE,DERELICT HOUSE BUILDING,CLASSICAL BUILDING",
    "DESERT,DESERT ISLAND,NATIONAL PARK,STADIUM,HOUSE BUILDING,HOUSE WITH GARDEN,OFFICE BUILDING",
    "JAPANESE POST OFFICE,EUROPEAN POST OFFICE,HOSPITAL,BANK,AUTOMATED TELLER MACHINE,HOTEL",
    "LOVE HOTEL,CONVENIENCE STORE,SCHOOL,DEPARTMENT STORE,FACTORY,IZAKAYA LANTERN,JAPANESE CASTLE",
    "EUROPEAN CASTLE,WHITE PENNANT,BLACK PENNANT,WAVING WHITE FLAG,WAVING BLACK FLAG,ROSETTE",
    "BLACK ROSETTE,LABEL,BADMINTON RACQUET AND SHUTTLECOCK,BOW AND ARROW,AMPHORA"]⟩,
  ⟨0x1F3FB, ["EMOJI MODIFIER FITZPATRICK TYPE-*,1-2,3,4,5,6"]⟩,
  ⟨0x1F400, ["*,RAT,MOUSE,OX,WATER BUFFALO,COW,TIGER,LEOPARD,RABBIT,CAT,DRAGON,CROCODILE,WHALE",
    "SNAIL,SNAKE,HORSE,RAM,GOAT,SHEEP,MONKEY,ROOSTER,CHICKEN,DOG,PIG,BOAR,ELEPHANT,OCTOPUS",
    "SPIRAL SHELL,BUG,ANT,HONEYBEE,LADY BEETLE,FISH,TROPICAL FISH,BLOWFISH,TURTLE,HATCHING CHICK",
    "BABY CHICK,FRONT-FACING BABY CHICK,BIRD,PENGUIN,KOALA,POODLE,DROMEDARY CAMEL,BACTRIAN CAMEL",
    "DOLPHIN,MOUSE FACE,COW FACE,TIGER FACE,RABBIT FACE,CAT FACE,DRAGON FACE,SPOUTING WHALE"]⟩,
  ⟨0x1F434, ["* FACE,HORSE,MONKEY,DOG,PIG,FROG,HAMSTER,WOLF,BEAR,PANDA"]⟩,
  ⟨0x1F43D, ["*,PIG NOSE,PAW PRINTS,CHIPMUNK,EYES,EYE,EAR,NOSE,MOUTH,TONGUE"]⟩,
  ⟨0x1F446, ["WHITE * POINTING BACKHAND INDEX,UP,DOWN,LEFT,RIGHT"]⟩,
  ⟨0x1F44A, ["* SIGN,FISTED HAND,WAVING HAND,OK HAND,THUMBS UP,THUMBS DOWN,CLAPPING HANDS",
    "OPEN HANDS"]⟩,
  ⟨0x1F451, ["*,CROWN,WOMANS HAT,EYEGLASSES,NECKTIE,T-SHIRT,JEANS,DRESS,KIMONO,BIKINI",
    "WOMANS CLOTHES,PURSE,HANDBAG,POUCH,MANS SHOE,ATHLETIC SHOE,HIGH-HEELED SHOE,WOMANS SANDAL",
    "WOMANS BOOTS,FOOTPRINTS,BUST IN SILHOUETTE,BUSTS IN SILHOUETTE,BOY,GIRL,MAN,WOMAN,FAMILY",
    "MAN AND WOMAN HOLDING HANDS,TWO MEN HOLDING HANDS,TWO WOMEN HOLDING HANDS,POLICE OFFICER",
    "WOMAN WITH BUNNY EARS,BRIDE WITH VEIL,PERSON WITH BLOND HAIR,MAN WITH GUA PI MAO",
    "MAN WITH TURBAN,OLDER MAN,OLDER WOMAN,BABY,CONSTRUCTION WORKER,PRINCESS,JAPANESE OGRE",
    "JAPANESE GOBLIN,GHOST,BABY ANGEL,EXTRATERRESTRIAL ALIEN,ALIEN MONSTER,IMP,SKULL",
    "INFORMATION DESK PERSON,GUARDSMAN,DANCER,LIPSTICK,NAIL POLISH,FACE MASSAGE,HAIRCUT",
    "BARBER POLE,SYRINGE,PILL,KISS MARK,LOVE LETTER,RING,GEM STONE,KISS,BOUQUET,COUPLE WITH HEART",
    "WEDDING,BEATING HEART,BROKEN HEART,TWO HEARTS,SPARKLING HEART,GROWING HEART,HEART WITH ARROW",
    "BLUE HEART,GREEN HEART,YELLOW HEART,PURPLE HEART,HEART WITH RIBBON,REVOLVING HEARTS",
    "HEART DECORATION,DIAMOND SHAPE WITH A DOT INSIDE,ELECTRIC LIGHT BULB,ANGER SYMBOL,BOMB",
    "SLEEPING SYMBOL,COLLISION SYMBOL,SPLASHING SWEAT SYMBOL,DROPLET,DASH SYMBOL,PILE OF POO",
    "FLEXED BICEPS,DIZZY SYMBOL,SPEECH BALLOON,THOUGHT BALLOON,WHITE FLOWER,HUNDRED POINTS SYMBOL",
    "MONEY BAG,CURRENCY EXCHANGE,HEAVY DOLLAR SIGN,CREDIT CARD"]⟩,
  ⟨0x1F4B4, ["BANKNOTE WITH * SIGN,YEN,DOLLAR,EURO,POUND"]⟩,
  ⟨0x1F4B8, ["*,MONEY WITH WINGS,CHART WITH UPWARDS TREND AND YEN SIGN,SEAT,PERSONAL COMPUTER",
    "BRIEFCASE,MINIDISC,FLOPPY DISK,OPTICAL DISC,DVD,FILE FOLDER,OPEN FILE FOLDER,PAGE WITH CURL",
    "PAGE FACING UP,CALENDAR,TEAR-OFF CALENDAR,CARD INDEX,CHART WITH UPWARDS TREND",
    "CHART WITH DOWNWARDS TREND,BAR CHART,CLIPBOARD,PUSHPIN,ROUND PUSHPIN,PAPERCLIP,STRAIGHT RULER",
    "TRIANGULAR RULER,BOOKMARK TABS,LEDGER,NOTEBOOK,NOTEBOOK WITH DECORATIVE COVER,CLOSED BOOK",
    "OPEN BOOK,GREEN BOOK,BLUE BOOK,ORANGE BOOK,BOOKS,NAME BADGE,SCROLL,MEMO,TELEPHONE RECEIVER",
    "PAGER,FAX MACHINE,SATELLITE ANTENNA,PUBLIC ADDRESS LOUDSPEAKER,CHEERING MEGAPHONE,OUTBOX TRAY",
    "INBOX TRAY,PACKAGE,E-MAIL SYMBOL,INCOMING ENVELOPE,ENVELOPE WITH DOWNWARDS ARROW ABOVE",
    "CLOSED MAILBOX WITH LOWERED FLAG,CLOSED MAILBOX WITH RAISED FLAG",
    "OPEN MAILBOX WITH RAISED FLAG,OPEN MAILBOX WITH LOWERED FLAG,POSTBOX,POSTAL HORN,NEWSPAPER",
    "MOBILE PHONE,MOBILE PHONE WITH RIGHTWARDS ARROW AT LEFT,VIBRATION MODE,MOBILE PHONE OFF",
    "NO MOBILE PHONES,ANTENNA WITH BARS,CAMERA,CAMERA WITH FLASH,VIDEO CAMERA,TELEVISION,RADIO",
    "VIDEOCASSETTE,FILM PROJECTOR,PORTABLE STEREO,PRAYER BEADS,TWISTED RIGHTWARDS ARROWS"]⟩,
  ⟨0x1F501, ["CLOCKWISE RIGHTWARDS AND LEFTWARDS OPEN CIRCLE *,ARROWS",
    "ARROWS WITH CIRCLED ONE OVERLAY"]⟩,
  ⟨0x1F503, ["* DOWNWARDS AND UPWARDS OPEN CIRCLE ARROWS,CLOCKWISE,ANTICLOCKWISE"]⟩,
  ⟨0x1F505, ["* BRIGHTNESS SYMBOL,LOW,HIGH"]⟩,
  ⟨0x1F507, ["*,SPEAKER WITH CANCELLATION STROKE,SPEAKER,SPEAKER WITH ONE SOUND WAVE",
    "SPEAKER WITH THREE SOUND WAVES,BATTERY,ELECTRIC PLUG,LEFT-POINTING MAGNIFYING GLASS",
    "RIGHT-POINTING MAGNIFYING GLASS,LOCK WITH INK PEN,CLOSED LOCK WITH KEY,KEY,LOCK,OPEN LOCK",
    "BELL,BELL WITH CANCELLATION STROKE,BOOKMARK,LINK SYMBOL,RADIO BUTTON"]⟩,
  ⟨0x1F519, ["* ARROW ABOVE,BACK WITH LEFTWARDS,END WITH LEFTWARDS",
    "ON WITH EXCLAMATION MARK WITH LEFT RIGHT,SOON WITH RIGHTWARDS,TOP WITH UPWARDS"]⟩,
  ⟨0x1F51E, ["*,NO ONE UNDER EIGHTEEN SYMBOL,KEYCAP TEN"]⟩,
  ⟨0x1F520, ["INPUT SYMBOL FOR *,LATIN CAPITAL LETTERS,LATIN SMALL LETTERS,NUMBERS,SYMBOLS",
    "LATIN LETTERS"]⟩,
  ⟨0x1F525, ["*,FIRE,ELECTRIC TORCH,WRENCH,HAMMER,NUT AND BOLT,HOCHO,PISTOL,MICROSCOPE,TELESCOPE",
    "CRYSTAL BALL,SIX POINTED STAR WITH MIDDLE DOT,JAPANESE SYMBOL FOR BEGINNER,TRIDENT EMBLEM",
    "BLACK SQUARE BUTTON,WHITE SQUARE BUTTON,LARGE RED CIRCLE,LARGE BLUE CIRCLE"]⟩,
  ⟨0x1F536, ["* DIAMOND,LARGE ORANGE,LARGE BLUE,SMALL ORANGE,SMALL BLUE"]⟩,
  ⟨0x1F53A, ["* RED TRIANGLE,UP-POINTING,DOWN-POINTING,UP-POINTING SMALL,DOWN-POINTING SMALL"]⟩,
  ⟨0x1F53E, ["* RIGHT SHADOWED WHITE CIRCLE,LOWER,UPPER"]⟩,
  ⟨0x1F540, ["*,CIRCLED CROSS POMMEE,CROSS POMMEE WITH HALF-CIRCLE BELOW,CROSS POMMEE"]⟩,
  ⟨0x1F543, ["NOTCHED * SEMICIRCLE WITH THREE DOTS,LEFT,RIGHT"]⟩,
  ⟨0x1F545, ["*,SYMBOL FOR MARKS CHAPTER,WHITE LATIN CROSS,HEAVY LATIN CROSS,CELTIC CROSS",
    "OM SYMBOL,DOVE OF PEACE,KAABA,MOSQUE,SYNAGOGUE,MENORAH WITH NINE BRANCHES,BOWL OF HYGIEIA"]⟩,
  ⟨0x1F550, ["CLOCK FACE * OCLOCK,ONE,TWO,THREE,FOUR,FIVE,SIX,SEVEN,EIGHT,NINE,TEN,ELEVEN,TWELVE"]⟩,
  ⟨0x1F55C, ["CLOCK FACE *,ONE-THIRTY,TWO-THIRTY,THREE-THIRTY,FOUR-THIRTY,FIVE-THIRTY,SIX-THIRTY",
    "SEVEN-THIRTY,EIGHT-THIRTY,NINE-THIRTY,TEN-THIRTY,ELEVEN-THIRTY,TWELVE-THIRTY"]⟩,
  ⟨0x1F568, ["*,RIGHT SPEAKER,RIGHT SPEAKER WITH ONE SOUND WAVE",
    "RIGHT SPEAKER WITH THREE SOUND WAVES,BULLHORN,BULLHORN WITH SOUND WAVES,RINGING BELL,BOOK",
    "CANDLE,MANTELPIECE CLOCK,BLACK SKULL AND CROSSBONES,NO PIRACY,HOLE",
    "MAN IN BUSINESS SUIT LEVITATING,SLEUTH OR SPY,DARK SUNGLASSES,SPIDER,SPIDER WEB,JOYSTICK",
    "MAN DANCING,LEFT HAND TELEPHONE RECEIVER,TELEPHONE RECEIVER WITH PAGE",
    "RIGHT HAND TELEPHONE RECEIVER,WHITE TOUCHTONE TELEPHONE,BLACK TOUCHTONE TELEPHONE",
    "TELEPHONE ON TOP OF MODEM,CLAMSHELL MOBILE PHONE,BACK OF ENVELOPE,STAMPED ENVELOPE",
    "ENVELOPE WITH LIGHTNING,FLYING ENVELOPE,PEN OVER STAMPED ENVELOPE,LINKED PAPERCLIPS",
    "BLACK PUSHPIN"]⟩,
  ⟨0x1F589, ["LOWER LEFT *,PENCIL,BALLPOINT PEN,FOUNTAIN PEN,PAINTBRUSH,CRAYON"]⟩,
  ⟨0x1F58E, ["*,LEFT WRITING HAND,TURNED OK HAND SIGN"]⟩,
  ⟨0x1F590, ["* HAND WITH FINGERS SPLAYED,RAISED,REVERSED RAISED"]⟩,
  ⟨0x1F592, ["REVERSED *,THUMBS UP SIGN,THUMBS DOWN SIGN,VICTORY HAND",
    "HAND WITH MIDDLE FINGER EXTENDED"]⟩,
  ⟨0x1F596, ["*,RAISED HAND WITH PART BETWEEN MIDDLE AND RING FINGERS",
    "WHITE DOWN POINTING LEFT HAND INDEX"]⟩,
  ⟨0x1F598, ["SIDEWAYS * POINTING INDEX,WHITE LEFT,WHITE RIGHT,BLACK LEFT,BLACK RIGHT"]⟩,
  ⟨0x1F59C, ["BLACK * POINTING BACKHAND INDEX,LEFT,RIGHT"]⟩,
  ⟨0x1F59E, ["SIDEWAYS * POINTING INDEX,WHITE UP,WHITE DOWN,BLACK UP,BLACK DOWN"]⟩,
  ⟨0x1F5A2, ["BLACK * POINTING BACKHAND INDEX,UP,DOWN"]⟩,
  ⟨0x1F5A4, ["*,BLACK HEART,DESKTOP COMPUTER,KEYBOARD AND MOUSE,THREE NETWORKED COMPUTERS,PRINTER",
    "POCKET CALCULATOR"]⟩, ⟨0x1F5AA, ["* SHELL FLOPPY DISK,BLACK HARD,WHITE HARD,SOFT"]⟩,
  ⟨0x1F5AD, ["*,TAPE CARTRIDGE,WIRED KEYBOARD,ONE BUTTON MOUSE,TWO BUTTON MOUSE,THREE BUTTON MOUSE",
    "TRACKBALL,OLD PERSONAL COMPUTER,HARD DISK,SCREEN,PRINTER ICON,FAX ICON,OPTICAL DISC ICON"]⟩,
  ⟨0x1F5B9, ["DOCUMENT WITH *,TEXT,TEXT AND PICTURE,PICTURE"]⟩,
  ⟨0x1F5BC, ["FRAME WITH *,PICTURE,TILES,AN X"]⟩,
  ⟨0x1F5BF, ["*,BLACK FOLDER,FOLDER,OPEN FOLDER,CARD INDEX DIVIDERS,CARD FILE BOX,FILE CABINET",
    "EMPTY NOTE,EMPTY NOTE PAGE,EMPTY NOTE PAD,NOTE,NOTE PAGE,NOTE PAD,EMPTY DOCUMENT,EMPTY PAGE",
    "EMPTY PAGES,DOCUMENT,PAGE,PAGES,WASTEBASKET,SPIRAL NOTE PAD,SPIRAL CALENDAR PAD",
    "DESKTOP WINDOW,MINIMIZE,MAXIMIZE,OVERLAP,CLOCKWISE RIGHT AND LEFT SEMICIRCLE ARROWS",
    "CANCELLATION X,INCREASE FONT SIZE SYMBOL,DECREASE FONT SIZE SYMBOL,COMPRESSION,OLD KEY",
    "ROLLED-UP NEWSPAPER,PAGE WITH CIRCLED TEXT,STOCK CHART,DAGGER KNIFE,LIPS",
    "SPEAKING HEAD IN SILHOUETTE"]⟩, ⟨0x1F5E4, ["THREE RAYS *,ABOVE,BELOW,LEFT,RIGHT"]⟩,
  ⟨0x1F5E8, ["* SPEECH BUBBLE,LEFT,RIGHT"]⟩, ⟨0x1F5EA, ["* SPEECH BUBBLES,TWO,THREE"]⟩,
  ⟨0x1F5EC, ["* BUBBLE,LEFT THOUGHT,RIGHT THOUGHT,LEFT ANGER,RIGHT ANGER,MOOD,LIGHTNING MOOD"]⟩,
  ⟨0x1F5F2, ["*,LIGHTNING MOOD,BALLOT BOX WITH BALLOT,BALLOT SCRIPT X,BALLOT BOX WITH SCRIPT X",
    "BALLOT BOLD SCRIPT X,BALLOT BOX WITH BOLD SCRIPT X,LIGHT CHECK MARK",
    "BALLOT BOX WITH BOLD CHECK,WORLD MAP,MOUNT FUJI,TOKYO TOWER,STATUE OF LIBERTY",
    "SILHOUETTE OF JAPAN,MOYAI,GRINNING FACE,GRINNING FACE WITH SMILING EYES",
    "FACE WITH TEARS OF JOY"]⟩]

/-- The names of faces, vehicles, shapes, tags and selectors. -/
def furtherPictureNames : List NameEntry := [
  ⟨0x1F603, ["SMILING FACE WITH *,OPEN MOUTH,OPEN MOUTH AND SMILING EYES,OPEN MOUTH AND COLD SWEAT",
    "OPEN MOUTH AND TIGHTLY-CLOSED EYES,HALO,HORNS"]⟩,
  ⟨0x1F609, ["*,WINKING FACE,SMILING FACE WITH SMILING EYES,FACE SAVOURING DELICIOUS FOOD",
    "RELIEVED FACE,SMILING FACE WITH HEART-SHAPED EYES,SMILING FACE WITH SUNGLASSES,SMIRKING FACE",
    "NEUTRAL FACE,EXPRESSIONLESS FACE,UNAMUSED FACE,FACE WITH COLD SWEAT,PENSIVE FACE",
    "CONFUSED FACE,CONFOUNDED FACE,KISSING FACE,FACE THROWING A KISS"]⟩,
  ⟨0x1F619, ["KISSING FACE WITH * EYES,SMILING,CLOSED"]⟩,
  ⟨0x1F61B, ["FACE WITH STUCK-OUT *,TONGUE,TONGUE AND WINKING EYE,TONGUE AND TIGHTLY-CLOSED EYES"]⟩,
  ⟨0x1F61E, ["* FACE,DISAPPOINTED,WORRIED,ANGRY,POUTING,CRYING,PERSEVERING"]⟩,
  ⟨0x1F624, ["*,FACE WITH LOOK OF TRIUMPH,DISAPPOINTED BUT RELIEVED FACE",
    "FROWNING FACE WITH OPEN MOUTH,ANGUISHED FACE,FEARFUL FACE,WEARY FACE,SLEEPY FACE,TIRED FACE",
    "GRIMACING FACE,LOUDLY CRYING FACE,FACE WITH OPEN MOUTH,HUSHED FACE",
    "FACE WITH OPEN MOUTH AND COLD SWEAT,FACE SCREAMING IN FEAR,ASTONISHED FACE,FLUSHED FACE",
    "SLEEPING FACE,DIZZY FACE,FACE WITHOUT MOUTH,FACE WITH MEDICAL MASK",
    "GRINNING CAT FACE WITH SMILING EYES,CAT FACE WITH TEARS OF JOY",
    "SMILING CAT FACE WITH OPEN MOUTH,SMILING CAT FACE WITH HEART-SHAPED EYES",
    "CAT FACE WITH WRY SMILE,KISSING CAT FACE WITH CLOSED EYES,POUTING CAT FACE,CRYING CAT FACE",
    "WEARY CAT FACE,SLIGHTLY FROWNING FACE,SLIGHTLY SMILING FACE,UPSIDE-DOWN FACE",
    "FACE WITH ROLLING EYES,FACE WITH NO GOOD GESTURE,FACE WITH OK GESTURE,PERSON BOWING DEEPLY",
    "SEE-NO-EVIL MONKEY,HEAR-NO-EVIL MONKEY,SPEAK-NO-EVIL MONKEY,HAPPY PERSON RAISING ONE HAND"]⟩,
  ⟨0x1F64C, ["PERSON *,RAISING BOTH HANDS IN CELEBRATION,FROWNING,WITH POUTING FACE",
    "WITH FOLDED HANDS"]⟩,
  ⟨0x1F650, ["* POINTING LEAF,NORTH WEST,SOUTH WEST,NORTH EAST,SOUTH EAST,TURNED NORTH WEST",
    "TURNED SOUTH WEST,TURNED NORTH EAST,TURNED SOUTH EAST"]⟩,
  ⟨0x1F658, ["* POINTING VINE LEAF,NORTH WEST,SOUTH WEST,NORTH EAST,SOUTH EAST,HEAVY NORTH WEST",
    "HEAVY SOUTH WEST,HEAVY NORTH EAST,HEAVY SOUTH EAST"]⟩,
  ⟨0x1F660, ["* POINTING BUD,NORTH WEST,SOUTH WEST,NORTH EAST,SOUTH EAST,HEAVY NORTH WEST",
    "HEAVY SOUTH WEST,HEAVY NORTH EAST,HEAVY SOUTH EAST"]⟩,
  ⟨0x1F668, ["HOLLOW QUILT SQUARE *,ORNAMENT,ORNAMENT IN BLACK SQUARE"]⟩,
  ⟨0x1F66A, ["SOLID QUILT SQUARE *,ORNAMENT,ORNAMENT IN BLACK SQUARE"]⟩,
  ⟨0x1F66C, ["* ROCKET,LEFTWARDS,UPWARDS,RIGHTWARDS,DOWNWARDS"]⟩,
  ⟨0x1F670, ["* ORNAMENT,SCRIPT LIGATURE ET,HEAVY SCRIPT LIGATURE ET,LIGATURE OPEN ET",
    "HEAVY LIGATURE OPEN ET,HEAVY AMPERSAND,SWASH AMPERSAND"]⟩,
  ⟨0x1F676, ["SANS-SERIF HEAVY * COMMA QUOTATION MARK ORNAMENT,DOUBLE TURNED,DOUBLE,LOW DOUBLE"]⟩,
  ⟨0x1F679, ["* INTERROBANG ORNAMENT,HEAVY,SANS-SERIF,HEAVY SANS-SERIF"]⟩,
  ⟨0x1F67C, ["*,VERY HEAVY SOLIDUS,VERY HEAVY REVERSE SOLIDUS,CHECKER BOARD,REVERSE CHECKER BOARD",
    "ROCKET,HELICOPTER,STEAM LOCOMOTIVE,RAILWAY CAR,HIGH-SPEED TRAIN",
    "HIGH-SPEED TRAIN WITH BULLET NOSE,TRAIN,METRO,LIGHT RAIL,STATION,TRAM,TRAM CAR,BUS",
    "ONCOMING BUS,TROLLEYBUS,BUS STOP,MINIBUS,AMBULANCE,FIRE ENGINE,POLICE CAR,ONCOMING POLICE CAR",
    "TAXI,ONCOMING TAXI,AUTOMOBILE,ONCOMING AUTOMOBILE,RECREATIONAL VEHICLE,DELIVERY TRUCK",
    "ARTICULATED LORRY,TRACTOR,MONORAIL,MOUNTAIN RAILWAY,SUSPENSION RAILWAY,MOUNTAIN CABLEWAY",
    "AERIAL TRAMWAY,SHIP,ROWBOAT,SPEEDBOAT,HORIZONTAL TRAFFIC LIGHT,VERTICAL TRAFFIC LIGHT",
    "CONSTRUCTION SIGN,POLICE CARS REVOLVING LIGHT,TRIANGULAR FLAG ON POST,DOOR,NO ENTRY SIGN"]⟩,
  ⟨0x1F6AC, ["* SYMBOL,SMOKING,NO SMOKING,PUT LITTER IN ITS PLACE,DO NOT LITTER,POTABLE WATER",
    "NON-POTABLE WATER"]⟩,
  ⟨0x1F6B2, ["*,BICYCLE,NO BICYCLES,BICYCLIST,MOUNTAIN BICYCLIST,PEDESTRIAN,NO PEDESTRIANS",
    "CHILDREN CROSSING,MENS SYMBOL,WOMENS SYMBOL,RESTROOM,BABY SYMBOL,TOILET,WATER CLOSET,SHOWER",
    "BATH,BATHTUB,PASSPORT CONTROL,CUSTOMS,BAGGAGE CLAIM,LEFT LUGGAGE",
    "TRIANGLE WITH ROUNDED CORNERS,PROHIBITED SIGN,CIRCLED INFORMATION SOURCE,BOYS SYMBOL",
    "GIRLS SYMBOL,COUCH AND LAMP,SLEEPING ACCOMMODATION,SHOPPING BAGS,BELLHOP BELL,BED",
    "PLACE OF WORSHIP,OCTAGONAL SIGN,SHOPPING TROLLEY,STUPA,PAGODA,HINDU TEMPLE,HUT,ELEVATOR"]⟩,
  ⟨0x1F6DD, ["*,PLAYGROUND SLIDE,WHEEL,RING BUOY,HAMMER AND WRENCH,SHIELD,OIL DRUM,MOTORWAY",
    "RAILWAY TRACK,MOTOR BOAT"]⟩,
  ⟨0x1F6E6, ["* AIRPLANE,UP-POINTING MILITARY,UP-POINTING,UP-POINTING SMALL,SMALL",
    "NORTHEAST-POINTING"]⟩, ⟨0x1F6EB, ["AIRPLANE *,DEPARTURE,ARRIVING"]⟩,
  ⟨0x1F6F0, ["*,SATELLITE,ONCOMING FIRE ENGINE,DIESEL LOCOMOTIVE,PASSENGER SHIP,SCOOTER",
    "MOTOR SCOOTER,CANOE,SLED,FLYING SAUCER,SKATEBOARD,AUTO RICKSHAW,PICKUP TRUCK,ROLLER SKATE"]⟩,
  ⟨0x1F700, ["ALCHEMICAL SYMBOL FOR *,QUINTESSENCE,AIR,FIRE,EARTH,WATER,AQUAFORTIS,AQUA REGIA",
    "AQUA REGIA-2,AQUA VITAE,AQUA VITAE-2,VINEGAR,VINEGAR-2,VINEGAR-3,SULFUR,PHILOSOPHERS SULFUR",
    "BLACK SULFUR,MERCURY SUBLIMATE,MERCURY SUBLIMATE-2,MERCURY SUBLIMATE-3,CINNABAR,SALT,NITRE",
    "VITRIOL,VITRIOL-2,ROCK SALT,ROCK SALT-2,GOLD,SILVER,IRON ORE,IRON ORE-2,CROCUS OF IRON",
    "REGULUS OF IRON,COPPER ORE,IRON-COPPER ORE,SUBLIMATE OF COPPER,CROCUS OF COPPER",
    "CROCUS OF COPPER-2,COPPER ANTIMONIATE,SALT OF COPPER ANTIMONIATE,SUBLIMATE OF SALT OF COPPER",
    "VERDIGRIS,TIN ORE,LEAD ORE,ANTIMONY ORE,SUBLIMATE OF ANTIMONY,SALT OF ANTIMONY",
    "SUBLIMATE OF SALT OF ANTIMONY,VINEGAR OF ANTIMONY,REGULUS OF ANTIMONY,REGULUS OF ANTIMONY-2",
    "REGULUS,REGULUS-2,REGULUS-3,REGULUS-4,ALKALI,ALKALI-2,MARCASITE,SAL-AMMONIAC,ARSENIC,REALGAR",
    "REALGAR-2,AURIPIGMENT,BISMUTH ORE,TARTAR,TARTAR-2,QUICK LIME,BORAX,BORAX-2,BORAX-3,ALUM,OIL",
    "SPIRIT,TINCTURE,GUM,WAX,POWDER,CALX,TUTTY,CAPUT MORTUUM,SCEPTER OF JOVE,CADUCEUS,TRIDENT",
    "STARRED TRIDENT,LODESTONE,SOAP,URINE,HORSE DUNG,ASHES,POT ASHES,BRICK,POWDERED BRICK,AMALGAM",
    "STRATUM SUPER STRATUM,STRATUM SUPER STRATUM-2,SUBLIMATION,PRECIPITATE,DISTILL,DISSOLVE",
    "DISSOLVE-2,PURIFY,PUTREFACTION,CRUCIBLE,CRUCIBLE-2,CRUCIBLE-3,CRUCIBLE-4,CRUCIBLE-5,ALEMBIC",
    "BATH OF MARY,BATH OF VAPOURS,RETORT,HOUR,NIGHT,DAY-NIGHT,MONTH,HALF DRAM,HALF OUNCE"]⟩,
  ⟨0x1F780, ["BLACK * ISOSCELES RIGHT TRIANGLE,LEFT-POINTING,UP-POINTING,RIGHT-POINTING",
    "DOWN-POINTING"]⟩,
  ⟨0x1F784, ["* CIRCLE,BLACK SLIGHTLY SMALL,MEDIUM BOLD WHITE,BOLD WHITE,HEAVY WHITE",
    "VERY HEAVY WHITE,EXTREMELY HEAVY WHITE,WHITE CIRCLE CONTAINING BLACK SMALL"]⟩,
  ⟨0x1F78B, ["*,ROUND TARGET,BLACK TINY SQUARE,BLACK SLIGHTLY SMALL SQUARE"]⟩,
  ⟨0x1F78E, ["* WHITE SQUARE,LIGHT,MEDIUM,BOLD,HEAVY,VERY HEAVY,EXTREMELY HEAVY"]⟩,
  ⟨0x1F794, ["WHITE SQUARE CONTAINING BLACK * SQUARE,VERY SMALL,MEDIUM"]⟩,
  ⟨0x1F796, ["SQUARE TARGET"]⟩, ⟨0x1F797, ["BLACK * DIAMOND,TINY,VERY SMALL,MEDIUM SMALL"]⟩,
  ⟨0x1F79A, ["WHITE DIAMOND CONTAINING BLACK * DIAMOND,VERY SMALL,MEDIUM"]⟩,
  ⟨0x1F79C, ["*,DIAMOND TARGET,BLACK TINY LOZENGE"]⟩,
  ⟨0x1F79E, ["* SMALL LOZENGE,BLACK VERY,BLACK MEDIUM,WHITE LOZENGE CONTAINING BLACK"]⟩,
  ⟨0x1F7A1, ["* GREEK CROSS,THIN,LIGHT,MEDIUM,BOLD,VERY BOLD,VERY HEAVY,EXTREMELY HEAVY"]⟩,
  ⟨0x1F7A8, ["* SALTIRE,THIN,LIGHT,MEDIUM,BOLD,HEAVY,VERY HEAVY,EXTREMELY HEAVY"]⟩,
  ⟨0x1F7AF, ["* FIVE SPOKED ASTERISK,LIGHT,MEDIUM,BOLD,HEAVY,VERY HEAVY,EXTREMELY HEAVY"]⟩,
  ⟨0x1F7B5, ["* SIX SPOKED ASTERISK,LIGHT,MEDIUM,BOLD,HEAVY,VERY HEAVY,EXTREMELY HEAVY"]⟩,
  ⟨0x1F7BB, ["* EIGHT SPOKED ASTERISK,LIGHT,MEDIUM,BOLD,HEAVY,VERY HEAVY"]⟩,
  ⟨0x1F7C0, ["* POINTED BLACK STAR,LIGHT THREE,MEDIUM THREE,THREE"]⟩,
  ⟨0x1F7C3, ["MEDIUM THREE POINTED PINWHEEL STAR"]⟩,
  ⟨0x1F7C4, ["* POINTED BLACK STAR,LIGHT FOUR,MEDIUM FOUR,FOUR"]⟩,
  ⟨0x1F7C7, ["* FOUR POINTED PINWHEEL STAR,MEDIUM,REVERSE LIGHT"]⟩,
  ⟨0x1F7C9, ["* POINTED BLACK STAR,LIGHT FIVE,HEAVY FIVE,MEDIUM SIX,HEAVY SIX"]⟩,
  ⟨0x1F7CD, ["SIX POINTED PINWHEEL STAR"]⟩,
  ⟨0x1F7CE, ["* EIGHT POINTED BLACK STAR,MEDIUM,HEAVY,VERY HEAVY"]⟩,
  ⟨0x1F7D1, ["*,HEAVY EIGHT POINTED PINWHEEL STAR,LIGHT TWELVE POINTED BLACK STAR",
    "HEAVY TWELVE POINTED BLACK STAR,HEAVY TWELVE POINTED PINWHEEL STAR,CIRCLED TRIANGLE",
    "NEGATIVE CIRCLED TRIANGLE,CIRCLED SQUARE,NEGATIVE CIRCLED SQUARE"]⟩,
  ⟨0x1F7E0, ["LARGE * CIRCLE,ORANGE,YELLOW,GREEN,PURPLE,BROWN"]⟩,
  ⟨0x1F7E5, ["LARGE * SQUARE,RED,BLUE,ORANGE,YELLOW,GREEN,PURPLE,BROWN"]⟩,
  ⟨0x1F7F0, ["HEAVY EQUALS SIGN"]⟩,
  ⟨0x1F800, ["* ARROW WITH SMALL TRIANGLE ARROWHEAD,LEFTWARDS,UPWARDS,RIGHTWARDS,DOWNWARDS"]⟩,
  ⟨0x1F804, ["* ARROW WITH MEDIUM TRIANGLE ARROWHEAD,LEFTWARDS,UPWARDS,RIGHTWARDS,DOWNWARDS"]⟩,
  ⟨0x1F808, ["* ARROW WITH LARGE TRIANGLE ARROWHEAD,LEFTWARDS,UPWARDS,RIGHTWARDS,DOWNWARDS"]⟩,
  ⟨0x1F810, ["* ARROW WITH SMALL EQUILATERAL ARROWHEAD,LEFTWARDS,UPWARDS,RIGHTWARDS,DOWNWARDS"]⟩,
  ⟨0x1F814, ["* ARROW WITH EQUILATERAL ARROWHEAD,LEFTWARDS,UPWARDS,RIGHTWARDS,DOWNWARDS",
    "HEAVY LEFTWARDS,HEAVY UPWARDS,HEAVY RIGHTWARDS,HEAVY DOWNWARDS"]⟩,
  ⟨0x1F81C, ["HEAVY * ARROW WITH LARGE EQUILATERAL ARROWHEAD,LEFTWARDS,UPWARDS,RIGHTWARDS",
    "DOWNWARDS"]⟩,
  ⟨0x1F820, ["* TRIANGLE-HEADED ARROW WITH NARROW SHAFT,LEFTWARDS,UPWARDS,RIGHTWARDS,DOWNWARDS"]⟩,
  ⟨0x1F824, ["* TRIANGLE-HEADED ARROW WITH MEDIUM SHAFT,LEFTWARDS,UPWARDS,RIGHTWARDS,DOWNWARDS"]⟩,
  ⟨0x1F828, ["* TRIANGLE-HEADED ARROW WITH BOLD SHAFT,LEFTWARDS,UPWARDS,RIGHTWARDS,DOWNWARDS"]⟩,
  ⟨0x1F82C, ["* TRIANGLE-HEADED ARROW WITH HEAVY SHAFT,LEFTWARDS,UPWARDS,RIGHTWARDS,DOWNWARDS"]⟩,
  ⟨0x1F830, ["* TRIANGLE-HEADED ARROW WITH VERY HEAVY SHAFT,LEFTWARDS,UPWARDS,RIGHTWARDS",
    "DOWNWARDS"]⟩, ⟨0x1F834, ["* FINGER-POST ARROW,LEFTWARDS,UPWARDS,RIGHTWARDS,DOWNWARDS"]⟩,
  ⟨0x1F838, ["* SQUARED ARROW,LEFTWARDS,UPWARDS,RIGHTWARDS,DOWNWARDS"]⟩,
  ⟨0x1F83C, ["* COMPRESSED ARROW,LEFTWARDS,UPWARDS,RIGHTWARDS,DOWNWARDS,LEFTWARDS HEAVY",
    "UPWARDS HEAVY,RIGHTWARDS HEAVY,DOWNWARDS HEAVY"]⟩,
  ⟨0x1F844, ["* HEAVY ARROW,LEFTWARDS,UPWARDS,RIGHTWARDS,DOWNWARDS"]⟩,
  ⟨0x1F850, ["* SANS-SERIF ARROW,LEFTWARDS,UPWARDS,RIGHTWARDS,DOWNWARDS,NORTH WEST,NORTH EAST",
    "SOUTH EAST,SOUTH WEST,LEFT RIGHT,UP DOWN"]⟩,
  ⟨0x1F860, ["WIDE-HEADED * LIGHT BARB ARROW,LEFTWARDS,UPWARDS,RIGHTWARDS,DOWNWARDS,NORTH WEST",
    "NORTH EAST,SOUTH EAST,SOUTH WEST"]⟩,
  ⟨0x1F868, ["WIDE-HEADED * BARB ARROW,LEFTWARDS,UPWARDS,RIGHTWARDS,DOWNWARDS,NORTH WEST",
    "NORTH EAST,SOUTH EAST,SOUTH WEST"]⟩,
  ⟨0x1F870, ["WIDE-HEADED * MEDIUM BARB ARROW,LEFTWARDS,UPWARDS,RIGHTWARDS,DOWNWARDS,NORTH WEST",
    "NORTH EAST,SOUTH EAST,SOUTH WEST"]⟩,
  ⟨0x1F878, ["WIDE-HEADED * HEAVY BARB ARROW,LEFTWARDS,UPWARDS,RIGHTWARDS,DOWNWARDS,NORTH WEST",
    "NORTH EAST,SOUTH EAST,SOUTH WEST,LEFTWARDS VERY,UPWARDS VERY,RIGHTWARDS VERY,DOWNWARDS VERY",
    "NORTH WEST VERY,NORTH EAST VERY,SOUTH EAST VERY,SOUTH WEST VERY"]⟩,
  ⟨0x1F890, ["* TRIANGLE ARROWHEAD,LEFTWARDS,UPWARDS,RIGHTWARDS,DOWNWARDS"]⟩,
  ⟨0x1F894, ["* WHITE ARROW WITHIN TRIANGLE ARROWHEAD,LEFTWARDS,UPWARDS,RIGHTWARDS,DOWNWARDS"]⟩,
  ⟨0x1F898, ["* ARROW WITH NOTCHED TAIL,LEFTWARDS,UPWARDS,RIGHTWARDS,DOWNWARDS"]⟩,
  ⟨0x1F89C, ["HEAVY ARROW SHAFT WIDTH *,ONE,TWO THIRDS,ONE HALF,ONE THIRD"]⟩,
  ⟨0x1F8A0, ["* WHITE ARROW,LEFTWARDS BOTTOM-SHADED,RIGHTWARDS BOTTOM SHADED,LEFTWARDS TOP SHADED",
    "RIGHTWARDS TOP SHADED,LEFTWARDS LEFT-SHADED,RIGHTWARDS RIGHT-SHADED,LEFTWARDS RIGHT-SHADED",
    "RIGHTWARDS LEFT-SHADED,LEFTWARDS BACK-TILTED SHADOWED,RIGHTWARDS BACK-TILTED SHADOWED",
    "LEFTWARDS FRONT-TILTED SHADOWED,RIGHTWARDS FRONT-TILTED SHADOWED"]⟩,
  ⟨0x1F8AC, ["WHITE ARROW SHAFT WIDTH *,ONE,TWO THIRDS"]⟩,
  ⟨0x1F8B0, ["ARROW POINTING * WEST,UPWARDS THEN NORTH,RIGHTWARDS THEN CURVING SOUTH"]⟩,
  ⟨0x1F900, ["CIRCLED CROSS *,FORMEE WITH FOUR DOTS,FORMEE WITH TWO DOTS,FORMEE"]⟩,
  ⟨0x1F903, ["LEFT HALF CIRCLE WITH *,FOUR DOTS,THREE DOTS,TWO DOTS,DOT"]⟩,
  ⟨0x1F907, ["LEFT HALF CIRCLE"]⟩,
  ⟨0x1F908, ["DOWNWARD FACING *,HOOK,NOTCHED HOOK,HOOK WITH DOT,NOTCHED HOOK WITH DOT"]⟩,
  ⟨0x1F90C, ["*,PINCHED FINGERS,WHITE HEART,BROWN HEART,PINCHING HAND,ZIPPER-MOUTH FACE",
    "MONEY-MOUTH FACE,FACE WITH THERMOMETER,NERD FACE,THINKING FACE,FACE WITH HEAD-BANDAGE",
    "ROBOT FACE,HUGGING FACE,SIGN OF THE HORNS,CALL ME HAND,RAISED BACK OF HAND,LEFT-FACING FIST",
    "RIGHT-FACING FIST,HANDSHAKE,HAND WITH INDEX AND MIDDLE FINGERS CROSSED,I LOVE YOU HAND SIGN",
    "FACE WITH COWBOY HAT,CLOWN FACE,NAUSEATED FACE,ROLLING ON THE FLOOR LAUGHING,DROOLING FACE",
    "LYING FACE,FACE PALM,SNEEZING FACE,FACE WITH ONE EYEBROW RAISED,GRINNING FACE WITH STAR EYES",
    "GRINNING FACE WITH ONE LARGE AND ONE SMALL EYE,FACE WITH FINGER COVERING CLOSED LIPS",
    "SERIOUS FACE WITH SYMBOLS COVERING MOUTH",
    "SMILING FACE WITH SMILING EYES AND HAND COVERING MOUTH,FACE WITH OPEN MOUTH VOMITING",
    "SHOCKED FACE WITH EXPLODING HEAD,PREGNANT WOMAN,BREAST-FEEDING,PALMS UP TOGETHER,SELFIE",
    "PRINCE,MAN IN TUXEDO,MOTHER CHRISTMAS,SHRUG,PERSON DOING CARTWHEEL,JUGGLING,FENCER",
    "MODERN PENTATHLON,WRESTLERS,WATER POLO,HANDBALL,DIVING MASK,WILTED FLOWER",
    "DRUM WITH DRUMSTICKS,CLINKING GLASSES,TUMBLER GLASS,SPOON,GOAL NET,RIFLE,FIRST PLACE MEDAL",
    "SECOND PLACE MEDAL,THIRD PLACE MEDAL,BOXING GLOVE,MARTIAL ARTS UNIFORM,CURLING STONE",
    "LACROSSE STICK AND BALL,SOFTBALL,FLYING DISC,CROISSANT,AVOCADO,CUCUMBER,BACON,POTATO,CARROT",
    "BAGUETTE BREAD,GREEN SALAD,SHALLOW PAN OF FOOD,STUFFED FLATBREAD,EGG,GLASS OF MILK,PEANUTS",
    "KIWIFRUIT,PANCAKES,DUMPLING,FORTUNE COOKIE,TAKEOUT BOX,CHOPSTICKS,BOWL WITH SPOON",
    "CUP WITH STRAW,COCONUT,BROCCOLI,PIE,PRETZEL,CUT OF MEAT,SANDWICH,CANNED FOOD,LEAFY GREEN",
    "MANGO,MOON CAKE,BAGEL,SMILING FACE WITH SMILING EYES AND THREE HEARTS,YAWNING FACE",
    "SMILING FACE WITH TEAR,FACE WITH PARTY HORN AND PARTY HAT",
    "FACE WITH UNEVEN EYES AND WAVY MOUTH,OVERHEATED FACE,FREEZING FACE,NINJA,DISGUISED FACE",
    "FACE HOLDING BACK TEARS,FACE WITH PLEADING EYES,SARI,LAB COAT,GOGGLES,HIKING BOOT,FLAT SHOE",
    "CRAB,LION FACE,SCORPION,TURKEY,UNICORN FACE,EAGLE,DUCK,BAT,SHARK,OWL,FOX FACE,BUTTERFLY,DEER",
    "GORILLA,LIZARD,RHINOCEROS,SHRIMP,SQUID,GIRAFFE FACE,ZEBRA FACE,HEDGEHOG,SAUROPOD,T-REX",
    "CRICKET,KANGAROO,LLAMA,PEACOCK,HIPPOPOTAMUS,PARROT,RACCOON,LOBSTER,MOSQUITO,MICROBE,BADGER",
    "SWAN,MAMMOTH,DODO,SLOTH,OTTER,ORANGUTAN,SKUNK,FLAMINGO,OYSTER,BEAVER,BISON,SEAL,GUIDE DOG",
    "PROBING CANE"]⟩, ⟨0x1F9B0, ["EMOJI COMPONENT *,RED HAIR,CURLY HAIR,BALD,WHITE HAIR"]⟩,
  ⟨0x1F9B4, ["*,BONE,LEG,FOOT,TOOTH,SUPERHERO,SUPERVILLAIN,SAFETY VEST,EAR WITH HEARING AID",
    "MOTORIZED WHEELCHAIR,MANUAL WHEELCHAIR,MECHANICAL ARM,MECHANICAL LEG,CHEESE WEDGE,CUPCAKE",
    "SALT SHAKER,BEVERAGE BOX,GARLIC,ONION,FALAFEL,WAFFLE,BUTTER,MATE DRINK,ICE CUBE,BUBBLE TEA",
    "TROLL,STANDING PERSON,KNEELING PERSON,DEAF PERSON,FACE WITH MONOCLE,ADULT,CHILD,OLDER ADULT",
    "BEARDED PERSON,PERSON WITH HEADSCARF,PERSON IN STEAMY ROOM,PERSON CLIMBING",
    "PERSON IN LOTUS POSITION,MAGE,FAIRY,VAMPIRE,MERPERSON,ELF,GENIE,ZOMBIE,BRAIN,ORANGE HEART",
    "BILLED CAP,SCARF,GLOVES,COAT,SOCKS,RED GIFT ENVELOPE,FIRECRACKER,JIGSAW PUZZLE PIECE",
    "TEST TUBE,PETRI DISH,DNA DOUBLE HELIX,COMPASS,ABACUS,FIRE EXTINGUISHER,TOOLBOX,BRICK,MAGNET",
    "LUGGAGE,LOTION BOTTLE,SPOOL OF THREAD,BALL OF YARN,SAFETY PIN,TEDDY BEAR,BROOM,BASKET",
    "ROLL OF PAPER,BAR OF SOAP,SPONGE,RECEIPT,NAZAR AMULET"]⟩,
  ⟨0x1FA00, ["NEUTRAL CHESS *,KING,QUEEN,ROOK,BISHOP,KNIGHT,PAWN"]⟩,
  ⟨0x1FA06, ["* CHESS KNIGHT ROTATED FORTY-FIVE DEGREES,WHITE,BLACK,NEUTRAL"]⟩,
  ⟨0x1FA09, ["WHITE CHESS * ROTATED NINETY DEGREES,KING,QUEEN,ROOK,BISHOP,KNIGHT,PAWN"]⟩,
  ⟨0x1FA0F, ["BLACK CHESS * ROTATED NINETY DEGREES,KING,QUEEN,ROOK,BISHOP,KNIGHT,PAWN"]⟩,
  ⟨0x1FA15, ["NEUTRAL CHESS * ROTATED NINETY DEGREES,KING,QUEEN,ROOK,BISHOP,KNIGHT,PAWN"]⟩,
  ⟨0x1FA1B, ["* CHESS KNIGHT ROTATED ONE HUNDRED THIRTY-FIVE DEGREES,WHITE,BLACK,NEUTRAL"]⟩,
  ⟨0x1FA1E, ["WHITE CHESS TURNED *,KING,QUEEN,ROOK,BISHOP,KNIGHT,PAWN"]⟩,
  ⟨0x1FA24, ["BLACK CHESS TURNED *,KING,QUEEN,ROOK,BISHOP,KNIGHT,PAWN"]⟩,
  ⟨0x1FA2A, ["NEUTRAL CHESS TURNED *,KING,QUEEN,ROOK,BISHOP,KNIGHT,PAWN"]⟩,
  ⟨0x1FA30, ["* CHESS KNIGHT ROTATED TWO HUNDRED TWENTY-FIVE DEGREES,WHITE,BLACK,NEUTRAL"]⟩,
  ⟨0x1FA33, ["WHITE CHESS * ROTATED TWO HUNDRED SEVENTY DEGREES,KING,QUEEN,ROOK,BISHOP,KNIGHT",
    "PAWN"]⟩,
  ⟨0x1FA39, ["BLACK CHESS * ROTATED TWO HUNDRED SEVENTY DEGREES,KING,QUEEN,ROOK,BISHOP,KNIGHT",
    "PAWN"]⟩,
  ⟨0x1FA3F, ["NEUTRAL CHESS * ROTATED TWO HUNDRED SEVENTY DEGREES,KING,QUEEN,ROOK,BISHOP,KNIGHT",
    "PAWN"]⟩,
  ⟨0x1FA45, ["* CHESS KNIGHT ROTATED THREE HUNDRED FIFTEEN DEGREES,WHITE,BLACK,NEUTRAL"]⟩,
  ⟨0x1FA48, ["* CHESS EQUIHOPPER,WHITE,BLACK,NEUTRAL"]⟩,
  ⟨0x1FA4B, ["* CHESS EQUIHOPPER ROTATED NINETY DEGREES,WHITE,BLACK,NEUTRAL"]⟩,
  ⟨0x1FA4E, ["WHITE CHESS KNIGHT-*,QUEEN,ROOK,BISHOP"]⟩,
  ⟨0x1FA51, ["BLACK CHESS KNIGHT-*,QUEEN,ROOK,BISHOP"]⟩,
  ⟨0x1FA60, ["XIANGQI RED *,GENERAL,MANDARIN,ELEPHANT,HORSE,CHARIOT,CANNON,SOLDIER"]⟩,
  ⟨0x1FA67, ["XIANGQI BLACK *,GENERAL,MANDARIN,ELEPHANT,HORSE,CHARIOT,CANNON,SOLDIER"]⟩,
  ⟨0x1FA70, ["*,BALLET SHOES,ONE-PIECE SWIMSUIT,BRIEFS,SHORTS,THONG SANDAL"]⟩,
  ⟨0x1FA78, ["*,DROP OF BLOOD,ADHESIVE BANDAGE,STETHOSCOPE,X-RAY,CRUTCH"]⟩,
  ⟨0x1FA80, ["*,YO-YO,KITE,PARACHUTE,BOOMERANG,MAGIC WAND,PINATA,NESTING DOLLS"]⟩,
  ⟨0x1FA90, ["*,RINGED PLANET,CHAIR,RAZOR,AXE,DIYA LAMP,BANJO,MILITARY HELMET,ACCORDION,LONG DRUM",
    "COIN,CARPENTRY SAW,SCREWDRIVER,LADDER,HOOK,MIRROR,WINDOW,PLUNGER,SEWING NEEDLE,KNOT,BUCKET",
    "MOUSE TRAP,TOOTHBRUSH,HEADSTONE,PLACARD,ROCK,MIRROR BALL,IDENTIFICATION CARD,LOW BATTERY",
    "HAMSA"]⟩,
  ⟨0x1FAB0, ["*,FLY,WORM,BEETLE,COCKROACH,POTTED PLANT,WOOD,FEATHER,LOTUS,CORAL,EMPTY NEST",
    "NEST WITH EGGS"]⟩,
  ⟨0x1FAC0, ["*,ANATOMICAL HEART,LUNGS,PEOPLE HUGGING,PREGNANT MAN,PREGNANT PERSON",
    "PERSON WITH CROWN"]⟩,
  ⟨0x1FAD0, ["*,BLUEBERRIES,BELL PEPPER,OLIVE,FLATBREAD,TAMALE,FONDUE,TEAPOT,POURING LIQUID,BEANS",
    "JAR"]⟩,
  ⟨0x1FAE0, ["*,MELTING FACE,SALUTING FACE,FACE WITH OPEN EYES AND HAND OVER MOUTH",
    "FACE WITH PEEKING EYE,FACE WITH DIAGONAL MOUTH,DOTTED LINE FACE,BITING LIP,BUBBLES"]⟩,
  ⟨0x1FAF0, ["*,HAND WITH INDEX FINGER AND THUMB CROSSED,RIGHTWARDS HAND,LEFTWARDS HAND",
    "PALM DOWN HAND,PALM UP HAND,INDEX POINTING AT THE VIEWER,HEART HANDS"]⟩,
  ⟨0x1FB00, ["BLOCK SEXTANT-*,1,2,12,3,13,23,123,4,14,24,124,34,134,234,1234,5,15,25,125,35,235",
    "1235,45,145,245,1245,345,1345,2345,12345,6,16,26,126,36,136,236,1236,46,146,1246,346,1346",
    "2346,12346,56,156,256,1256,356,1356,2356,12356,456,1456,2456,12456,3456,13456,23456"]⟩,
  ⟨0x1FB3C, ["LOWER LEFT BLOCK DIAGONAL *,LOWER MIDDLE LEFT TO LOWER CENTRE",
    "LOWER MIDDLE LEFT TO LOWER RIGHT,UPPER MIDDLE LEFT TO LOWER CENTRE",
    "UPPER MIDDLE LEFT TO LOWER RIGHT,UPPER LEFT TO LOWER CENTRE"]⟩,
  ⟨0x1FB41, ["LOWER RIGHT BLOCK DIAGONAL UPPER MIDDLE LEFT TO UPPER *,CENTRE,RIGHT"]⟩,
  ⟨0x1FB43, ["LOWER RIGHT BLOCK DIAGONAL LOWER *,MIDDLE LEFT TO UPPER CENTRE",
    "MIDDLE LEFT TO UPPER RIGHT,LEFT TO UPPER CENTRE,MIDDLE LEFT TO UPPER MIDDLE RIGHT",
    "CENTRE TO LOWER MIDDLE RIGHT,LEFT TO LOWER MIDDLE RIGHT,CENTRE TO UPPER MIDDLE RIGHT",
    "LEFT TO UPPER MIDDLE RIGHT,CENTRE TO UPPER RIGHT"]⟩,
  ⟨0x1FB4C, ["LOWER LEFT BLOCK DIAGONAL UPPER * RIGHT,CENTRE TO UPPER MIDDLE,LEFT TO UPPER MIDDLE",
    "CENTRE TO LOWER MIDDLE,LEFT TO LOWER MIDDLE,CENTRE TO LOWER,MIDDLE LEFT TO LOWER MIDDLE"]⟩,
  ⟨0x1FB52, ["UPPER RIGHT BLOCK DIAGONAL *,LOWER MIDDLE LEFT TO LOWER CENTRE",
    "LOWER MIDDLE LEFT TO LOWER RIGHT,UPPER MIDDLE LEFT TO LOWER CENTRE",
    "UPPER MIDDLE LEFT TO LOWER RIGHT,UPPER LEFT TO LOWER CENTRE"]⟩,
  ⟨0x1FB57, ["UPPER LEFT BLOCK DIAGONAL UPPER MIDDLE LEFT TO UPPER *,CENTRE,RIGHT"]⟩,
  ⟨0x1FB59, ["UPPER LEFT BLOCK DIAGONAL LOWER *,MIDDLE LEFT TO UPPER CENTRE",
    "MIDDLE LEFT TO UPPER RIGHT,LEFT TO UPPER CENTRE,MIDDLE LEFT TO UPPER MIDDLE RIGHT",
    "CENTRE TO LOWER MIDDLE RIGHT,LEFT TO LOWER MIDDLE RIGHT,CENTRE TO UPPER MIDDLE RIGHT",
    "LEFT TO UPPER MIDDLE RIGHT,CENTRE TO UPPER RIGHT"]⟩,
  ⟨0x1FB62, ["UPPER RIGHT BLOCK DIAGONAL UPPER * RIGHT,CENTRE TO UPPER MIDDLE,LEFT TO UPPER MIDDLE",
    "CENTRE TO LOWER MIDDLE,LEFT TO LOWER MIDDLE,CENTRE TO LOWER,MIDDLE LEFT TO LOWER MIDDLE"]⟩,
  ⟨0x1FB68, ["* TRIANGULAR THREE QUARTERS BLOCK,UPPER AND RIGHT AND LOWER,LEFT AND LOWER AND RIGHT",
    "UPPER AND LEFT AND LOWER,LEFT AND UPPER AND RIGHT"]⟩,
  ⟨0x1FB6C, ["* TRIANGULAR ONE QUARTER BLOCK,LEFT,UPPER,RIGHT,LOWER"]⟩,
  ⟨0x1FB70, ["VERTICAL ONE EIGHTH BLOCK-*,2,3,4,5,6,7"]⟩,
  ⟨0x1FB76, ["HORIZONTAL ONE EIGHTH BLOCK-*,2,3,4,5,6,7"]⟩,
  ⟨0x1FB7C, ["* ONE EIGHTH BLOCK,LEFT AND LOWER,LEFT AND UPPER,RIGHT AND UPPER,RIGHT AND LOWER",
    "UPPER AND LOWER"]⟩, ⟨0x1FB81, ["HORIZONTAL ONE EIGHTH BLOCK-1358"]⟩,
  ⟨0x1FB82, ["UPPER * BLOCK,ONE QUARTER,THREE EIGHTHS,FIVE EIGHTHS,THREE QUARTERS,SEVEN EIGHTHS"]⟩,
  ⟨0x1FB87, ["RIGHT * BLOCK,ONE QUARTER,THREE EIGHTHS,FIVE EIGHTHS,THREE QUARTERS,SEVEN EIGHTHS"]⟩,
  ⟨0x1FB8C, ["* MEDIUM SHADE,LEFT HALF,RIGHT HALF,UPPER HALF,LOWER HALF,INVERSE",
    "UPPER HALF BLOCK AND LOWER HALF INVERSE"]⟩,
  ⟨0x1FB92, ["UPPER HALF INVERSE MEDIUM SHADE AND LOWER HALF BLOCK"]⟩,
  ⟨0x1FB94, ["LEFT HALF INVERSE MEDIUM SHADE AND RIGHT HALF BLOCK"]⟩,
  ⟨0x1FB95, ["* FILL,CHECKER BOARD,INVERSE CHECKER BOARD,HEAVY HORIZONTAL",
    "UPPER LEFT TO LOWER RIGHT,UPPER RIGHT TO LOWER LEFT"]⟩,
  ⟨0x1FB9A, ["* TRIANGULAR HALF BLOCK,UPPER AND LOWER,LEFT AND RIGHT"]⟩,
  ⟨0x1FB9C, ["* TRIANGULAR MEDIUM SHADE,UPPER LEFT,UPPER RIGHT,LOWER RIGHT,LOWER LEFT"]⟩,
  ⟨0x1FBA0, ["BOX DRAWINGS LIGHT DIAGONAL UPPER CENTRE TO MIDDLE *,LEFT,RIGHT"]⟩,
  ⟨0x1FBA2, ["BOX DRAWINGS LIGHT DIAGONAL * TO LOWER CENTRE,MIDDLE LEFT,MIDDLE RIGHT",
    "UPPER CENTRE TO MIDDLE LEFT,UPPER CENTRE TO MIDDLE RIGHT"]⟩,
  ⟨0x1FBA6, ["BOX DRAWINGS LIGHT DIAGONAL MIDDLE LEFT TO * CENTRE TO MIDDLE RIGHT,LOWER,UPPER"]⟩,
  ⟨0x1FBA8, ["BOX DRAWINGS LIGHT DIAGONAL UPPER CENTRE TO MIDDLE *",
    "LEFT AND MIDDLE RIGHT TO LOWER CENTRE,RIGHT AND MIDDLE LEFT TO LOWER CENTRE",
    "RIGHT TO LOWER CENTRE TO MIDDLE LEFT,LEFT TO LOWER CENTRE TO MIDDLE RIGHT"]⟩,
  ⟨0x1FBAC, ["BOX DRAWINGS LIGHT *",
    "DIAGONAL MIDDLE LEFT TO UPPER CENTRE TO MIDDLE RIGHT TO LOWER CENTRE",
    "DIAGONAL MIDDLE RIGHT TO UPPER CENTRE TO MIDDLE LEFT TO LOWER CENTRE,DIAGONAL DIAMOND",
    "HORIZONTAL WITH VERTICAL STROKE"]⟩,
  ⟨0x1FBB0, ["*,ARROWHEAD-SHAPED POINTER,INVERSE CHECK MARK,LEFT HALF RUNNING MAN",
    "RIGHT HALF RUNNING MAN,INVERSE DOWNWARDS ARROW WITH TIP LEFTWARDS"]⟩,
  ⟨0x1FBB5, ["* ARROW AND UPPER AND LOWER ONE EIGHTH BLOCK,LEFTWARDS,RIGHTWARDS"]⟩,
  ⟨0x1FBB7, ["* ARROW AND RIGHT ONE EIGHTH BLOCK,DOWNWARDS,UPWARDS"]⟩,
  ⟨0x1FBB9, ["*,LEFT HALF FOLDER,RIGHT HALF FOLDER,VOIDED GREEK CROSS,RIGHT OPEN SQUARED DOT"]⟩,
  ⟨0x1FBBD, ["NEGATIVE DIAGONAL *,CROSS,MIDDLE RIGHT TO LOWER CENTRE,DIAMOND"]⟩,
  ⟨0x1FBC0, ["WHITE HEAVY SALTIRE WITH ROUNDED CORNERS"]⟩,
  ⟨0x1FBC1, ["* THIRD WHITE RIGHT POINTING INDEX,LEFT,MIDDLE,RIGHT"]⟩,
  ⟨0x1FBC4, ["*,NEGATIVE SQUARED QUESTION MARK,STICK FIGURE"]⟩,
  ⟨0x1FBC6, ["STICK FIGURE *,WITH ARMS RAISED,LEANING LEFT,LEANING RIGHT,WITH DRESS"]⟩,
  ⟨0x1FBCA, ["WHITE UP-POINTING CHEVRON"]⟩,
  ⟨0x1FBF0, ["SEGMENTED DIGIT *,ZERO,ONE,TWO,THREE,FOUR,FIVE,SIX,SEVEN,EIGHT,NINE"]⟩,
  ⟨0xE0001, ["LANGUAGE TAG"]⟩,
  ⟨0xE0020, ["TAG *,SPACE,EXCLAMATION MARK,QUOTATION MARK,NUMBER SIGN,DOLLAR SIGN,PERCENT SIGN",
    "AMPERSAND,APOSTROPHE,LEFT PARENTHESIS,RIGHT PARENTHESIS,ASTERISK,PLUS SIGN,COMMA,HYPHEN-MINUS",
    "FULL STOP,SOLIDUS"]⟩,
  ⟨0xE0030, ["TAG DIGIT *,ZERO,ONE,TWO,THREE,FOUR,FIVE,SIX,SEVEN,EIGHT,NINE"]⟩,
  ⟨0xE003A, ["TAG *,COLON,SEMICOLON,LESS-THAN SIGN,EQUALS SIGN,GREATER-THAN SIGN,QUESTION MARK",
    "COMMERCIAL AT"]⟩,
  ⟨0xE0041, ["TAG LATIN CAPITAL LETTER *,A,B,C,D,E,F,G,H,I,J,K,L,M,N,O,P,Q,R,S,T,U,V,W,X,Y,Z"]⟩,
  ⟨0xE005B, ["TAG *,LEFT SQUARE BRACKET,REVERSE SOLIDUS,RIGHT SQUARE BRACKET,CIRCUMFLEX ACCENT",
    "LOW LINE,GRAVE ACCENT"]⟩,
  ⟨0xE0061, ["TAG LATIN SMALL LETTER *,A,B,C,D,E,F,G,H,I,J,K,L,M,N,O,P,Q,R,S,T,U,V,W,X,Y,Z"]⟩,
  ⟨0xE007B, ["*,TAG LEFT CURLY BRACKET,TAG VERTICAL LINE,TAG RIGHT CURLY BRACKET,TAG TILDE",
    "CANCEL TAG"]⟩,
  ⟨0xE0100, ["VARIATION SELECTOR-*,17,18,19,20,21,22,23,24,25,26,27,28,29,30,31,32,33,34,35,36,37",
    "38,39,40,41,42,43,44,45,46,47,48,49,50,51,52,53,54,55,56,57,58,59,60,61,62,63,64,65,66,67,68",
    "69,70,71,72,73,74,75,76,77,78,79,80,81,82,83,84,85,86,87,88,89,90,91,92,93,94,95,96,97,98,99",
    "100,101,102,103,104,105,106,107,108,109,110,111,112,113,114,115,116,117,118,119,120,121,122",
    "123,124,125,126,127,128,129,130,131,132,133,134,135,136,137,138,139,140,141,142,143,144,145",
    "146,147,148,149,150,151,152,153,154,155,156,157,158,159,160,161,162,163,164,165,166,167,168",
    "169,170,171,172,173,174,175,176,177,178,179,180,181,182,183,184,185,186,187,188,189,190,191",
    "192,193,194,195,196,197,198,199,200,201,202,203,204,205,206,207,208,209,210,211,212,213,214",
    "215,216,217,218,219,220,221,222,223,224,225,226,227,228,229,230,231,232,233,234,235,236,237",
    "238,239,240,241,242,243,244,245,246,247,248,249,250,251,252,253,254,255,256"]⟩]

/-- The names of the characters from musical notation to the selectors. -/
def pictureNames : List NameEntry :=
  musicNames ++ mathematicalNames ++ signWritingNames ++ mathematicalArabicNames ++ emojiNames ++
    furtherPictureNames

end CjkProse.Unicode
