/-!
# Names of music, mathematics and pictures

The characters from U+1D000 on. Every line holds the names of
characters that follow each other: the code point of the first, what the names begin with, and how
each of them goes on.
-/

namespace BraceScript.Text.CharacterName

/-- The names of music, mathematics and pictures. -/
def pictures : String :=
  "1D000 BYZANTINE MUSICAL SYMBOL |PSILI|DASEIA|PERISPOMENI|OXEIA EKFONITIKON|OXEIA DIPLI
1D005 BYZANTINE MUSICAL SYMBOL |VAREIA EKFONITIKON|VAREIA DIPLI|KATHISTI|SYRMATIKI|PARAKLITIKI
1D00A BYZANTINE MUSICAL SYMBOL |YPOKRISIS|YPOKRISIS DIPLI|KREMASTI|APESO EKFONITIKON
1D00E BYZANTINE MUSICAL SYMBOL |EXO EKFONITIKON|TELEIA|KENTIMATA|APOSTROFOS|APOSTROFOS DIPLI
1D013 BYZANTINE MUSICAL SYMBOL |SYNEVMA|THITA|OLIGON ARCHAION|GORGON ARCHAION|PSILON|CHAMILON
1D019 BYZANTINE MUSICAL SYMBOL |VATHY|ISON ARCHAION|KENTIMA ARCHAION|KENTIMATA ARCHAION|SAXIMATA
1D01E BYZANTINE MUSICAL SYMBOL |PARICHON|STAVROS APODEXIA|OXEIAI ARCHAION|VAREIAI ARCHAION
1D022 BYZANTINE MUSICAL SYMBOL |APODERMA ARCHAION|APOTHEMA|KLASMA|REVMA|PIASMA ARCHAION|TINAGMA
1D028 BYZANTINE MUSICAL SYMBOL |ANATRICHISMA|SEISMA|SYNAGMA ARCHAION|SYNAGMA META STAVROU
1D02C BYZANTINE MUSICAL SYMBOL |OYRANISMA ARCHAION|THEMA|LEMOI|DYO|TRIA|TESSERA|KRATIMATA
1D033 BYZANTINE MUSICAL SYMBOL |APESO EXO NEO|FTHORA ARCHAION|IMIFTHORA|TROMIKON ARCHAION
1D037 BYZANTINE MUSICAL SYMBOL |KATAVA TROMIKON|PELASTON|PSIFISTON|KONTEVMA|CHOREVMA ARCHAION
1D03C BYZANTINE MUSICAL SYMBOL |RAPISMA|PARAKALESMA ARCHAION|PARAKLITIKI ARCHAION|ICHADIN|NANA
1D041 BYZANTINE MUSICAL SYMBOL |PETASMA|KONTEVMA ALLO|TROMIKON ALLO|STRAGGISMATA|GRONTHISMATA
1D046 BYZANTINE MUSICAL SYMBOL |ISON NEO|OLIGON NEO|OXEIA NEO|PETASTI|KOUFISMA|PETASTOKOUFISMA
1D04C BYZANTINE MUSICAL SYMBOL |KRATIMOKOUFISMA|PELASTON NEO|KENTIMATA NEO ANO|KENTIMA NEO ANO
1D050 BYZANTINE MUSICAL SYMBOL |YPSILI|APOSTROFOS NEO|APOSTROFOI SYNDESMOS NEO|YPORROI
1D054 BYZANTINE MUSICAL SYMBOL |KRATIMOYPORROON|ELAFRON|CHAMILI|MIKRON ISON|VAREIA NEO|PIASMA NEO
1D05A BYZANTINE MUSICAL SYMBOL |PSIFISTON NEO|OMALON|ANTIKENOMA|LYGISMA|PARAKLITIKI NEO
1D05F BYZANTINE MUSICAL SYMBOL |PARAKALESMA NEO|ETERON PARAKALESMA|KYLISMA|ANTIKENOKYLISMA
1D063 BYZANTINE MUSICAL SYMBOL |TROMIKON NEO|EKSTREPTON|SYNAGMA NEO|SYRMA|CHOREVMA NEO|EPEGERMA
1D069 BYZANTINE MUSICAL SYMBOL |SEISMA NEO|XIRON KLASMA|TROMIKOPSIFISTON|PSIFISTOLYGISMA
1D06D BYZANTINE MUSICAL SYMBOL |TROMIKOLYGISMA|TROMIKOPARAKALESMA|PSIFISTOPARAKALESMA
1D070 BYZANTINE MUSICAL SYMBOL |TROMIKOSYNAGMA|PSIFISTOSYNAGMA|GORGOSYNTHETON|ARGOSYNTHETON
1D074 BYZANTINE MUSICAL SYMBOL |ETERON ARGOSYNTHETON|OYRANISMA NEO|THEMATISMOS ESO|THEMATISMOS EXO
1D078 BYZANTINE MUSICAL SYMBOL |THEMA APLOUN|THES KAI APOTHES|KATAVASMA|ENDOFONON|YFEN KATO
1D07D BYZANTINE MUSICAL SYMBOL |YFEN ANO|STAVROS|KLASMA ANO|DIPLI ARCHAION|KRATIMA ARCHAION
1D082 BYZANTINE MUSICAL SYMBOL |KRATIMA ALLO|KRATIMA NEO|APODERMA NEO|APLI|DIPLI|TRIPLI|TETRAPLI
1D089 BYZANTINE MUSICAL SYMBOL |KORONIS|LEIMMA ENOS CHRONOU|LEIMMA DYO CHRONON
1D08C BYZANTINE MUSICAL SYMBOL LEIMMA |TRION CHRONON|TESSARON CHRONON|IMISEOS CHRONOU
1D08F BYZANTINE MUSICAL SYMBOL GORGON |NEO ANO|PARESTIGMENON ARISTERA|PARESTIGMENON DEXIA
1D092 BYZANTINE MUSICAL SYMBOL |DIGORGON|DIGORGON PARESTIGMENON ARISTERA KATO
1D094 BYZANTINE MUSICAL SYMBOL DIGORGON PARESTIGMENON |ARISTERA ANO|DEXIA
1D096 BYZANTINE MUSICAL SYMBOL |TRIGORGON|ARGON|IMIDIARGON|DIARGON|AGOGI POLI ARGI|AGOGI ARGOTERI
1D09C BYZANTINE MUSICAL SYMBOL AGOGI |ARGI|METRIA|MESI|GORGI|GORGOTERI|POLI GORGI
1D0A2 BYZANTINE MUSICAL SYMBOL MARTYRIA |PROTOS ICHOS|ALLI PROTOS ICHOS|DEYTEROS ICHOS
1D0A5 BYZANTINE MUSICAL SYMBOL MARTYRIA |ALLI DEYTEROS ICHOS|TRITOS ICHOS|TRIFONIAS|TETARTOS ICHOS
1D0A9 BYZANTINE MUSICAL SYMBOL MARTYRIA |TETARTOS LEGETOS ICHOS|LEGETOS ICHOS|PLAGIOS ICHOS
1D0AC BYZANTINE MUSICAL SYMBOL |ISAKIA TELOUS ICHIMATOS|APOSTROFOI TELOUS ICHIMATOS
1D0AE BYZANTINE MUSICAL SYMBOL FANEROSIS |TETRAFONIAS|MONOFONIAS|DIFONIAS
1D0B1 BYZANTINE MUSICAL SYMBOL MARTYRIA |VARYS ICHOS|PROTOVARYS ICHOS|PLAGIOS TETARTOS ICHOS
1D0B4 BYZANTINE MUSICAL SYMBOL |GORTHMIKON N APLOUN|GORTHMIKON N DIPLOUN|ENARXIS KAI FTHORA VOU
1D0B7 BYZANTINE MUSICAL SYMBOL |IMIFONON|IMIFTHORON|FTHORA ARCHAION DEYTEROU ICHOU
1D0BA BYZANTINE MUSICAL SYMBOL FTHORA |DIATONIKI PA|DIATONIKI NANA|NAOS ICHOS|DIATONIKI DI
1D0BE BYZANTINE MUSICAL SYMBOL FTHORA |SKLIRON DIATONON DI|DIATONIKI KE|DIATONIKI ZO
1D0C1 BYZANTINE MUSICAL SYMBOL FTHORA |DIATONIKI NI KATO|DIATONIKI NI ANO|MALAKON CHROMA DIFONIAS
1D0C4 BYZANTINE MUSICAL SYMBOL |FTHORA MALAKON CHROMA MONOFONIAS|FHTORA SKLIRON CHROMA VASIS
1D0C6 BYZANTINE MUSICAL SYMBOL |FTHORA SKLIRON CHROMA SYNAFI|FTHORA NENANO|CHROA ZYGOS
1D0C9 BYZANTINE MUSICAL SYMBOL |CHROA KLITON|CHROA SPATHI|FTHORA I YFESIS TETARTIMORION
1D0CC BYZANTINE MUSICAL SYMBOL |FTHORA ENARMONIOS ANTIFONIA|YFESIS TRITIMORION|DIESIS TRITIMORION
1D0CF BYZANTINE MUSICAL SYMBOL DIESIS |TETARTIMORION|APLI DYO DODEKATA
1D0D1 BYZANTINE MUSICAL SYMBOL DIESIS |MONOGRAMMOS TESSERA DODEKATA|DIGRAMMOS EX DODEKATA
1D0D3 BYZANTINE MUSICAL SYMBOL |DIESIS TRIGRAMMOS OKTO DODEKATA|YFESIS APLI DYO DODEKATA
1D0D5 BYZANTINE MUSICAL SYMBOL YFESIS |MONOGRAMMOS TESSERA DODEKATA|DIGRAMMOS EX DODEKATA
1D0D7 BYZANTINE MUSICAL SYMBOL |YFESIS TRIGRAMMOS OKTO DODEKATA|GENIKI DIESIS|GENIKI YFESIS
1D0DA BYZANTINE MUSICAL SYMBOL DIASTOLI |APLI MIKRI|APLI MEGALI|DIPLI|THESEOS
1D0DE BYZANTINE MUSICAL SYMBOL SIMANSIS |THESEOS|THESEOS DISIMOU|THESEOS TRISIMOU
1D0E1 BYZANTINE MUSICAL SYMBOL SIMANSIS |THESEOS TETRASIMOU|ARSEOS|ARSEOS DISIMOU|ARSEOS TRISIMOU
1D0E5 BYZANTINE MUSICAL SYMBOL |SIMANSIS ARSEOS TETRASIMOU|DIGRAMMA GG|DIFTOGGOS OU|STIGMA
1D0E9 BYZANTINE MUSICAL SYMBOL ARKTIKO |PA|VOU|GA|DI|KE|ZO|NI
1D0F0 BYZANTINE MUSICAL SYMBOL |KENTIMATA NEO MESO|KENTIMA NEO MESO|KENTIMATA NEO KATO
1D0F3 BYZANTINE MUSICAL SYMBOL |KENTIMA NEO KATO|KLASMA KATO|GORGON NEO KATO
1D100 MUSICAL SYMBOL |SINGLE BARLINE|DOUBLE BARLINE|FINAL BARLINE|REVERSE FINAL BARLINE
1D104 MUSICAL SYMBOL |DASHED BARLINE|SHORT BARLINE|LEFT REPEAT SIGN|RIGHT REPEAT SIGN|REPEAT DOTS
1D109 MUSICAL SYMBOL |DAL SEGNO|DA CAPO|SEGNO|CODA|REPEATED FIGURE-1|REPEATED FIGURE-2
1D10F MUSICAL SYMBOL |REPEATED FIGURE-3|FERMATA|FERMATA BELOW|BREATH MARK|CAESURA|BRACE|BRACKET
1D116 MUSICAL SYMBOL |ONE-LINE STAFF|TWO-LINE STAFF|THREE-LINE STAFF|FOUR-LINE STAFF
1D11A MUSICAL SYMBOL |FIVE-LINE STAFF|SIX-LINE STAFF|SIX-STRING FRETBOARD|FOUR-STRING FRETBOARD
1D11E MUSICAL SYMBOL |G CLEF|G CLEF OTTAVA ALTA|G CLEF OTTAVA BASSA|C CLEF|F CLEF
1D123 MUSICAL SYMBOL |F CLEF OTTAVA ALTA|F CLEF OTTAVA BASSA|DRUM CLEF-1|DRUM CLEF-2
1D129 MUSICAL SYMBOL |MULTIPLE MEASURE REST|DOUBLE SHARP|DOUBLE FLAT|FLAT UP|FLAT DOWN|NATURAL UP
1D12F MUSICAL SYMBOL |NATURAL DOWN|SHARP UP|SHARP DOWN|QUARTER TONE SHARP|QUARTER TONE FLAT
1D134 MUSICAL SYMBOL |COMMON TIME|CUT TIME|OTTAVA ALTA|OTTAVA BASSA|QUINDICESIMA ALTA
1D139 MUSICAL SYMBOL |QUINDICESIMA BASSA|MULTI REST|WHOLE REST|HALF REST|QUARTER REST|EIGHTH REST
1D13F MUSICAL SYMBOL |SIXTEENTH REST|THIRTY-SECOND REST|SIXTY-FOURTH REST
1D142 MUSICAL SYMBOL |ONE HUNDRED TWENTY-EIGHTH REST|X NOTEHEAD|PLUS NOTEHEAD|CIRCLE X NOTEHEAD
1D146 MUSICAL SYMBOL |SQUARE NOTEHEAD WHITE|SQUARE NOTEHEAD BLACK|TRIANGLE NOTEHEAD UP WHITE
1D149 MUSICAL SYMBOL TRIANGLE NOTEHEAD |UP BLACK|LEFT WHITE|LEFT BLACK|RIGHT WHITE|RIGHT BLACK
1D14E MUSICAL SYMBOL TRIANGLE NOTEHEAD |DOWN WHITE|DOWN BLACK|UP RIGHT WHITE|UP RIGHT BLACK
1D152 MUSICAL SYMBOL |MOON NOTEHEAD WHITE|MOON NOTEHEAD BLACK|TRIANGLE-ROUND NOTEHEAD DOWN WHITE
1D155 MUSICAL SYMBOL |TRIANGLE-ROUND NOTEHEAD DOWN BLACK|PARENTHESIS NOTEHEAD|VOID NOTEHEAD
1D158 MUSICAL SYMBOL |NOTEHEAD BLACK|NULL NOTEHEAD|CLUSTER NOTEHEAD WHITE|CLUSTER NOTEHEAD BLACK
1D15C MUSICAL SYMBOL |BREVE|WHOLE NOTE|HALF NOTE|QUARTER NOTE|EIGHTH NOTE|SIXTEENTH NOTE
1D162 MUSICAL SYMBOL |THIRTY-SECOND NOTE|SIXTY-FOURTH NOTE|ONE HUNDRED TWENTY-EIGHTH NOTE
1D165 MUSICAL SYMBOL COMBINING |STEM|SPRECHGESANG STEM|TREMOLO-1|TREMOLO-2|TREMOLO-3
1D16A MUSICAL SYMBOL FINGERED |TREMOLO-1|TREMOLO-2|TREMOLO-3
1D16D MUSICAL SYMBOL COMBINING |AUGMENTATION DOT|FLAG-1|FLAG-2|FLAG-3|FLAG-4|FLAG-5
1D173 MUSICAL SYMBOL |BEGIN BEAM|END BEAM|BEGIN TIE|END TIE|BEGIN SLUR|END SLUR|BEGIN PHRASE
1D17A MUSICAL SYMBOL |END PHRASE|COMBINING ACCENT|COMBINING STACCATO|COMBINING TENUTO
1D17E MUSICAL SYMBOL COMBINING |STACCATISSIMO|MARCATO|MARCATO-STACCATO|ACCENT-STACCATO|LOURE
1D183 MUSICAL SYMBOL |ARPEGGIATO UP|ARPEGGIATO DOWN|COMBINING DOIT|COMBINING RIP|COMBINING FLIP
1D188 MUSICAL SYMBOL COMBINING |SMEAR|BEND|DOUBLE TONGUE|TRIPLE TONGUE
1D18C MUSICAL SYMBOL |RINFORZANDO|SUBITO|Z|PIANO|MEZZO|FORTE|CRESCENDO|DECRESCENDO
1D194 MUSICAL SYMBOL |GRACE NOTE SLASH|GRACE NOTE NO SLASH|TR|TURN|INVERTED TURN|TURN SLASH
1D19A MUSICAL SYMBOL |TURN UP|ORNAMENT STROKE-1|ORNAMENT STROKE-2|ORNAMENT STROKE-3
1D19E MUSICAL SYMBOL ORNAMENT |STROKE-4|STROKE-5|STROKE-6|STROKE-7|STROKE-8|STROKE-9|STROKE-10
1D1A5 MUSICAL SYMBOL |ORNAMENT STROKE-11|HAUPTSTIMME|NEBENSTIMME|END OF STIMME|DEGREE SLASH
1D1AA MUSICAL SYMBOL COMBINING |DOWN BOW|UP BOW|HARMONIC|SNAP PIZZICATO
1D1AE MUSICAL SYMBOL |PEDAL MARK|PEDAL UP MARK|HALF PEDAL MARK|GLISSANDO UP|GLISSANDO DOWN
1D1B3 MUSICAL SYMBOL |WITH FINGERNAILS|DAMP|DAMP ALL|MAXIMA|LONGA|BREVIS|SEMIBREVIS WHITE
1D1BA MUSICAL SYMBOL |SEMIBREVIS BLACK|MINIMA|MINIMA BLACK|SEMIMINIMA WHITE|SEMIMINIMA BLACK
1D1BF MUSICAL SYMBOL |FUSA WHITE|FUSA BLACK|LONGA PERFECTA REST|LONGA IMPERFECTA REST|BREVIS REST
1D1C4 MUSICAL SYMBOL |SEMIBREVIS REST|MINIMA REST|SEMIMINIMA REST
1D1C7 MUSICAL SYMBOL TEMPUS PERFECTUM CUM PROLATIONE |PERFECTA|IMPERFECTA|PERFECTA DIMINUTION-1
1D1CA MUSICAL SYMBOL TEMPUS IMPERFECTUM CUM PROLATIONE |PERFECTA|IMPERFECTA
1D1CC MUSICAL SYMBOL TEMPUS IMPERFECTUM CUM PROLATIONE IMPERFECTA |DIMINUTION-1|DIMINUTION-2
1D1CE MUSICAL SYMBOL |TEMPUS IMPERFECTUM CUM PROLATIONE IMPERFECTA DIMINUTION-3|CROIX
1D1D0 MUSICAL SYMBOL |GREGORIAN C CLEF|GREGORIAN F CLEF|SQUARE B|VIRGA|PODATUS|CLIVIS|SCANDICUS
1D1D7 MUSICAL SYMBOL |CLIMACUS|TORCULUS|PORRECTUS|PORRECTUS FLEXUS|SCANDICUS FLEXUS
1D1DC MUSICAL SYMBOL |TORCULUS RESUPINUS|PES SUBPUNCTIS|KIEVAN C CLEF|KIEVAN END OF PIECE
1D1E0 MUSICAL SYMBOL KIEVAN |FINAL NOTE|RECITATIVE MARK|WHOLE NOTE|HALF NOTE
1D1E4 MUSICAL SYMBOL KIEVAN |QUARTER NOTE STEM DOWN|QUARTER NOTE STEM UP|EIGHTH NOTE STEM DOWN
1D1E7 MUSICAL SYMBOL |KIEVAN EIGHTH NOTE STEM UP|KIEVAN FLAT SIGN|SORI|KORON
1D200 GREEK VOCAL NOTATION |SYMBOL-1|SYMBOL-2|SYMBOL-3|SYMBOL-4|SYMBOL-5|SYMBOL-6|SYMBOL-7
1D207 GREEK VOCAL NOTATION |SYMBOL-8|SYMBOL-9|SYMBOL-10|SYMBOL-11|SYMBOL-12|SYMBOL-13|SYMBOL-14
1D20E GREEK VOCAL NOTATION |SYMBOL-15|SYMBOL-16|SYMBOL-17|SYMBOL-18|SYMBOL-19|SYMBOL-20|SYMBOL-21
1D215 GREEK VOCAL NOTATION |SYMBOL-22|SYMBOL-23|SYMBOL-24|SYMBOL-50|SYMBOL-51|SYMBOL-52|SYMBOL-53
1D21C GREEK |VOCAL NOTATION SYMBOL-54|INSTRUMENTAL NOTATION SYMBOL-1
1D21E GREEK INSTRUMENTAL NOTATION |SYMBOL-2|SYMBOL-4|SYMBOL-5|SYMBOL-7|SYMBOL-8|SYMBOL-11
1D224 GREEK INSTRUMENTAL NOTATION |SYMBOL-12|SYMBOL-13|SYMBOL-14|SYMBOL-17|SYMBOL-18|SYMBOL-19
1D22A GREEK INSTRUMENTAL NOTATION |SYMBOL-23|SYMBOL-24|SYMBOL-25|SYMBOL-26|SYMBOL-27|SYMBOL-29
1D230 GREEK INSTRUMENTAL NOTATION |SYMBOL-30|SYMBOL-32|SYMBOL-36|SYMBOL-37|SYMBOL-38|SYMBOL-39
1D236 GREEK INSTRUMENTAL NOTATION |SYMBOL-40|SYMBOL-42|SYMBOL-43|SYMBOL-45|SYMBOL-47|SYMBOL-48
1D23C GREEK INSTRUMENTAL NOTATION |SYMBOL-49|SYMBOL-50|SYMBOL-51|SYMBOL-52|SYMBOL-53|SYMBOL-54
1D242 COMBINING GREEK MUSICAL |TRISEME|TETRASEME|PENTASEME
1D245 |GREEK MUSICAL LEIMMA
1D2E0 MAYAN NUMERAL |ZERO|ONE|TWO|THREE|FOUR|FIVE|SIX|SEVEN|EIGHT|NINE|TEN|ELEVEN|TWELVE|THIRTEEN
1D2EE MAYAN NUMERAL |FOURTEEN|FIFTEEN|SIXTEEN|SEVENTEEN|EIGHTEEN|NINETEEN
1D300 |MONOGRAM FOR EARTH|DIGRAM FOR HEAVENLY EARTH|DIGRAM FOR HUMAN EARTH
1D303 |DIGRAM FOR EARTHLY HEAVEN|DIGRAM FOR EARTHLY HUMAN|DIGRAM FOR EARTH|TETRAGRAM FOR CENTRE
1D307 TETRAGRAM FOR |FULL CIRCLE|MIRED|BARRIER|KEEPING SMALL|CONTRARIETY|ASCENT|OPPOSITION
1D30E TETRAGRAM FOR |BRANCHING OUT|DEFECTIVENESS OR DISTORTION|DIVERGENCE|YOUTHFULNESS|INCREASE
1D313 TETRAGRAM FOR |PENETRATION|REACH|CONTACT|HOLDING BACK|WAITING|FOLLOWING|ADVANCE|RELEASE
1D31B TETRAGRAM FOR |RESISTANCE|EASE|JOY|CONTENTION|ENDEAVOUR|DUTIES|CHANGE|DECISIVENESS
1D323 TETRAGRAM FOR |BOLD RESOLUTION|PACKING|LEGION|CLOSENESS|KINSHIP|GATHERING|STRENGTH|PURITY
1D32B TETRAGRAM FOR |FULLNESS|RESIDENCE|LAW OR MODEL|RESPONSE|GOING TO MEET|ENCOUNTERS|STOVE
1D332 TETRAGRAM FOR |GREATNESS|ENLARGEMENT|PATTERN|RITUAL|FLIGHT|VASTNESS OR WASTING|CONSTANCY
1D339 TETRAGRAM FOR |MEASURE|ETERNITY|UNITY|DIMINISHMENT|CLOSED MOUTH|GUARDEDNESS|GATHERING IN
1D340 TETRAGRAM FOR |MASSING|ACCUMULATION|EMBELLISHMENT|DOUBT|WATCH|SINKING|INNER|DEPARTURE
1D348 TETRAGRAM FOR |DARKENING|DIMMING|EXHAUSTION|SEVERANCE|STOPPAGE|HARDNESS|COMPLETION|CLOSURE
1D350 TETRAGRAM FOR |FAILURE|AGGRAVATION|COMPLIANCE|ON THE VERGE|DIFFICULTIES|LABOURING|FOSTERING
1D360 COUNTING ROD UNIT DIGIT |ONE|TWO|THREE|FOUR|FIVE|SIX|SEVEN|EIGHT|NINE
1D369 COUNTING ROD TENS DIGIT |ONE|TWO|THREE|FOUR|FIVE|SIX|SEVEN|EIGHT|NINE
1D372 IDEOGRAPHIC TALLY MARK |ONE|TWO|THREE|FOUR|FIVE
1D377 TALLY MARK |ONE|FIVE
1D400 MATHEMATICAL BOLD CAPITAL |A|B|C|D|E|F|G|H|I|J|K|L|M|N|O|P|Q|R|S|T|U|V|W|X|Y|Z
1D41A MATHEMATICAL BOLD SMALL |A|B|C|D|E|F|G|H|I|J|K|L|M|N|O|P|Q|R|S|T|U|V|W|X|Y|Z
1D434 MATHEMATICAL ITALIC CAPITAL |A|B|C|D|E|F|G|H|I|J|K|L|M|N|O|P|Q|R|S|T|U|V|W|X|Y|Z
1D44E MATHEMATICAL ITALIC SMALL |A|B|C|D|E|F|G
1D456 MATHEMATICAL ITALIC SMALL |I|J|K|L|M|N|O|P|Q|R|S|T|U|V|W|X|Y|Z
1D468 MATHEMATICAL BOLD ITALIC CAPITAL |A|B|C|D|E|F|G|H|I|J|K|L|M|N|O|P|Q|R|S|T|U|V|W|X|Y|Z
1D482 MATHEMATICAL BOLD ITALIC SMALL |A|B|C|D|E|F|G|H|I|J|K|L|M|N|O|P|Q|R|S|T|U|V|W|X|Y|Z
1D49C |MATHEMATICAL SCRIPT CAPITAL A
1D49E MATHEMATICAL SCRIPT CAPITAL |C|D
1D4A2 |MATHEMATICAL SCRIPT CAPITAL G
1D4A5 MATHEMATICAL SCRIPT CAPITAL |J|K
1D4A9 MATHEMATICAL SCRIPT CAPITAL |N|O|P|Q
1D4AE MATHEMATICAL SCRIPT CAPITAL |S|T|U|V|W|X|Y|Z
1D4B6 MATHEMATICAL SCRIPT SMALL |A|B|C|D
1D4BB |MATHEMATICAL SCRIPT SMALL F
1D4BD MATHEMATICAL SCRIPT SMALL |H|I|J|K|L|M|N
1D4C5 MATHEMATICAL SCRIPT SMALL |P|Q|R|S|T|U|V|W|X|Y|Z
1D4D0 MATHEMATICAL BOLD SCRIPT CAPITAL |A|B|C|D|E|F|G|H|I|J|K|L|M|N|O|P|Q|R|S|T|U|V|W|X|Y|Z
1D4EA MATHEMATICAL BOLD SCRIPT SMALL |A|B|C|D|E|F|G|H|I|J|K|L|M|N|O|P|Q|R|S|T|U|V|W|X|Y|Z
1D504 MATHEMATICAL FRAKTUR CAPITAL |A|B
1D507 MATHEMATICAL FRAKTUR CAPITAL |D|E|F|G
1D50D MATHEMATICAL FRAKTUR CAPITAL |J|K|L|M|N|O|P|Q
1D516 MATHEMATICAL FRAKTUR CAPITAL |S|T|U|V|W|X|Y
1D51E MATHEMATICAL FRAKTUR SMALL |A|B|C|D|E|F|G|H|I|J|K|L|M|N|O|P|Q|R|S|T|U|V|W|X|Y|Z
1D538 MATHEMATICAL DOUBLE-STRUCK CAPITAL |A|B
1D53B MATHEMATICAL DOUBLE-STRUCK CAPITAL |D|E|F|G
1D540 MATHEMATICAL DOUBLE-STRUCK CAPITAL |I|J|K|L|M
1D546 |MATHEMATICAL DOUBLE-STRUCK CAPITAL O
1D54A MATHEMATICAL DOUBLE-STRUCK CAPITAL |S|T|U|V|W|X|Y
1D552 MATHEMATICAL DOUBLE-STRUCK SMALL |A|B|C|D|E|F|G|H|I|J|K|L|M|N|O|P|Q|R|S|T|U|V|W|X|Y|Z
1D56C MATHEMATICAL BOLD FRAKTUR CAPITAL |A|B|C|D|E|F|G|H|I|J|K|L|M|N|O|P|Q|R|S|T|U|V|W|X|Y|Z
1D586 MATHEMATICAL BOLD FRAKTUR SMALL |A|B|C|D|E|F|G|H|I|J|K|L|M|N|O|P|Q|R|S|T|U|V|W|X|Y|Z
1D5A0 MATHEMATICAL SANS-SERIF CAPITAL |A|B|C|D|E|F|G|H|I|J|K|L|M|N|O|P|Q|R|S|T|U|V|W|X|Y|Z
1D5BA MATHEMATICAL SANS-SERIF SMALL |A|B|C|D|E|F|G|H|I|J|K|L|M|N|O|P|Q|R|S|T|U|V|W|X|Y|Z
1D5D4 MATHEMATICAL SANS-SERIF BOLD CAPITAL |A|B|C|D|E|F|G|H|I|J|K|L|M|N|O|P|Q|R|S|T|U|V|W|X|Y|Z
1D5EE MATHEMATICAL SANS-SERIF BOLD SMALL |A|B|C|D|E|F|G|H|I|J|K|L|M|N|O|P|Q|R|S|T|U|V|W|X|Y|Z
1D608 MATHEMATICAL SANS-SERIF ITALIC CAPITAL |A|B|C|D|E|F|G|H|I|J|K|L|M|N|O|P|Q|R|S|T|U|V|W|X|Y|Z
1D622 MATHEMATICAL SANS-SERIF ITALIC SMALL |A|B|C|D|E|F|G|H|I|J|K|L|M|N|O|P|Q|R|S|T|U|V|W|X|Y|Z
1D63C MATHEMATICAL SANS-SERIF BOLD ITALIC CAPITAL |A|B|C|D|E|F|G|H|I|J|K|L|M|N|O|P|Q|R|S|T|U|V|W|X
1D654 MATHEMATICAL SANS-SERIF BOLD ITALIC |CAPITAL Y|CAPITAL Z|SMALL A|SMALL B|SMALL C|SMALL D
1D65A MATHEMATICAL SANS-SERIF BOLD ITALIC SMALL |E|F|G|H|I|J|K|L|M|N|O|P|Q|R|S|T|U|V|W|X|Y|Z
1D670 MATHEMATICAL MONOSPACE CAPITAL |A|B|C|D|E|F|G|H|I|J|K|L|M|N|O|P|Q|R|S|T|U|V|W|X|Y|Z
1D68A MATHEMATICAL MONOSPACE SMALL |A|B|C|D|E|F|G|H|I|J|K|L|M|N|O|P|Q|R|S|T|U|V|W|X|Y|Z
1D6A4 MATHEMATICAL ITALIC SMALL DOTLESS |I|J
1D6A8 MATHEMATICAL BOLD CAPITAL |ALPHA|BETA|GAMMA|DELTA|EPSILON|ZETA|ETA|THETA|IOTA|KAPPA|LAMDA|MU
1D6B4 MATHEMATICAL BOLD CAPITAL |NU|XI|OMICRON|PI|RHO|THETA SYMBOL|SIGMA|TAU|UPSILON|PHI|CHI|PSI
1D6C0 MATHEMATICAL BOLD |CAPITAL OMEGA|NABLA|SMALL ALPHA|SMALL BETA|SMALL GAMMA|SMALL DELTA
1D6C6 MATHEMATICAL BOLD SMALL |EPSILON|ZETA|ETA|THETA|IOTA|KAPPA|LAMDA|MU|NU|XI|OMICRON|PI|RHO
1D6D3 MATHEMATICAL BOLD SMALL |FINAL SIGMA|SIGMA|TAU|UPSILON|PHI|CHI|PSI|OMEGA
1D6DB MATHEMATICAL BOLD |PARTIAL DIFFERENTIAL|EPSILON SYMBOL|THETA SYMBOL|KAPPA SYMBOL|PHI SYMBOL
1D6E0 MATHEMATICAL |BOLD RHO SYMBOL|BOLD PI SYMBOL|ITALIC CAPITAL ALPHA|ITALIC CAPITAL BETA
1D6E4 MATHEMATICAL ITALIC CAPITAL |GAMMA|DELTA|EPSILON|ZETA|ETA|THETA|IOTA|KAPPA|LAMDA|MU|NU|XI
1D6F0 MATHEMATICAL ITALIC CAPITAL |OMICRON|PI|RHO|THETA SYMBOL|SIGMA|TAU|UPSILON|PHI|CHI|PSI|OMEGA
1D6FB MATHEMATICAL ITALIC |NABLA|SMALL ALPHA|SMALL BETA|SMALL GAMMA|SMALL DELTA|SMALL EPSILON
1D701 MATHEMATICAL ITALIC SMALL |ZETA|ETA|THETA|IOTA|KAPPA|LAMDA|MU|NU|XI|OMICRON|PI|RHO
1D70D MATHEMATICAL ITALIC SMALL |FINAL SIGMA|SIGMA|TAU|UPSILON|PHI|CHI|PSI|OMEGA
1D715 MATHEMATICAL ITALIC |PARTIAL DIFFERENTIAL|EPSILON SYMBOL|THETA SYMBOL|KAPPA SYMBOL
1D719 MATHEMATICAL |ITALIC PHI SYMBOL|ITALIC RHO SYMBOL|ITALIC PI SYMBOL|BOLD ITALIC CAPITAL ALPHA
1D71D MATHEMATICAL BOLD ITALIC CAPITAL |BETA|GAMMA|DELTA|EPSILON|ZETA|ETA|THETA|IOTA|KAPPA|LAMDA
1D727 MATHEMATICAL BOLD ITALIC CAPITAL |MU|NU|XI|OMICRON|PI|RHO|THETA SYMBOL|SIGMA|TAU|UPSILON|PHI
1D732 MATHEMATICAL BOLD ITALIC |CAPITAL CHI|CAPITAL PSI|CAPITAL OMEGA|NABLA|SMALL ALPHA|SMALL BETA
1D738 MATHEMATICAL BOLD ITALIC SMALL |GAMMA|DELTA|EPSILON|ZETA|ETA|THETA|IOTA|KAPPA|LAMDA|MU|NU|XI
1D744 MATHEMATICAL BOLD ITALIC SMALL |OMICRON|PI|RHO|FINAL SIGMA|SIGMA|TAU|UPSILON|PHI|CHI|PSI
1D74E MATHEMATICAL BOLD ITALIC |SMALL OMEGA|PARTIAL DIFFERENTIAL|EPSILON SYMBOL|THETA SYMBOL
1D752 MATHEMATICAL BOLD ITALIC |KAPPA SYMBOL|PHI SYMBOL|RHO SYMBOL|PI SYMBOL
1D756 MATHEMATICAL SANS-SERIF BOLD CAPITAL |ALPHA|BETA|GAMMA|DELTA|EPSILON|ZETA|ETA|THETA|IOTA
1D75F MATHEMATICAL SANS-SERIF BOLD CAPITAL |KAPPA|LAMDA|MU|NU|XI|OMICRON|PI|RHO|THETA SYMBOL|SIGMA
1D769 MATHEMATICAL SANS-SERIF BOLD CAPITAL |TAU|UPSILON|PHI|CHI|PSI|OMEGA
1D76F MATHEMATICAL SANS-SERIF BOLD |NABLA|SMALL ALPHA|SMALL BETA|SMALL GAMMA|SMALL DELTA
1D774 MATHEMATICAL SANS-SERIF BOLD SMALL |EPSILON|ZETA|ETA|THETA|IOTA|KAPPA|LAMDA|MU|NU|XI|OMICRON
1D77F MATHEMATICAL SANS-SERIF BOLD SMALL |PI|RHO|FINAL SIGMA|SIGMA|TAU|UPSILON|PHI|CHI|PSI|OMEGA
1D789 MATHEMATICAL SANS-SERIF BOLD |PARTIAL DIFFERENTIAL|EPSILON SYMBOL|THETA SYMBOL|KAPPA SYMBOL
1D78D MATHEMATICAL SANS-SERIF BOLD |PHI SYMBOL|RHO SYMBOL|PI SYMBOL|ITALIC CAPITAL ALPHA
1D791 MATHEMATICAL SANS-SERIF BOLD ITALIC CAPITAL |BETA|GAMMA|DELTA|EPSILON|ZETA|ETA|THETA|IOTA
1D799 MATHEMATICAL SANS-SERIF BOLD ITALIC CAPITAL |KAPPA|LAMDA|MU|NU|XI|OMICRON|PI|RHO
1D7A1 MATHEMATICAL SANS-SERIF BOLD ITALIC CAPITAL |THETA SYMBOL|SIGMA|TAU|UPSILON|PHI|CHI|PSI
1D7A8 MATHEMATICAL SANS-SERIF BOLD ITALIC |CAPITAL OMEGA|NABLA|SMALL ALPHA|SMALL BETA|SMALL GAMMA
1D7AD MATHEMATICAL SANS-SERIF BOLD ITALIC SMALL |DELTA|EPSILON|ZETA|ETA|THETA|IOTA|KAPPA|LAMDA|MU
1D7B6 MATHEMATICAL SANS-SERIF BOLD ITALIC SMALL |NU|XI|OMICRON|PI|RHO|FINAL SIGMA|SIGMA|TAU
1D7BE MATHEMATICAL SANS-SERIF BOLD ITALIC SMALL |UPSILON|PHI|CHI|PSI|OMEGA
1D7C3 MATHEMATICAL SANS-SERIF BOLD ITALIC |PARTIAL DIFFERENTIAL|EPSILON SYMBOL|THETA SYMBOL
1D7C6 MATHEMATICAL SANS-SERIF BOLD ITALIC |KAPPA SYMBOL|PHI SYMBOL|RHO SYMBOL|PI SYMBOL
1D7CA MATHEMATICAL BOLD |CAPITAL DIGAMMA|SMALL DIGAMMA
1D7CE MATHEMATICAL BOLD DIGIT |ZERO|ONE|TWO|THREE|FOUR|FIVE|SIX|SEVEN|EIGHT|NINE
1D7D8 MATHEMATICAL DOUBLE-STRUCK DIGIT |ZERO|ONE|TWO|THREE|FOUR|FIVE|SIX|SEVEN|EIGHT|NINE
1D7E2 MATHEMATICAL SANS-SERIF DIGIT |ZERO|ONE|TWO|THREE|FOUR|FIVE|SIX|SEVEN|EIGHT|NINE
1D7EC MATHEMATICAL SANS-SERIF BOLD DIGIT |ZERO|ONE|TWO|THREE|FOUR|FIVE|SIX|SEVEN|EIGHT|NINE
1D7F6 MATHEMATICAL MONOSPACE DIGIT |ZERO|ONE|TWO|THREE|FOUR|FIVE|SIX|SEVEN|EIGHT|NINE
1D800 SIGNWRITING |HAND-FIST INDEX|HAND-CIRCLE INDEX|HAND-CUP INDEX|HAND-OVAL INDEX
1D804 SIGNWRITING |HAND-HINGE INDEX|HAND-ANGLE INDEX|HAND-FIST INDEX BENT|HAND-CIRCLE INDEX BENT
1D808 SIGNWRITING HAND-FIST |THUMB UNDER INDEX BENT|INDEX RAISED KNUCKLE|INDEX CUPPED|INDEX HINGED
1D80C SIGNWRITING |HAND-FIST INDEX HINGED LOW|HAND-CIRCLE INDEX HINGE|HAND-FIST INDEX MIDDLE
1D80F SIGNWRITING |HAND-CIRCLE INDEX MIDDLE|HAND-FIST INDEX MIDDLE BENT
1D811 SIGNWRITING HAND-FIST INDEX |MIDDLE RAISED KNUCKLES|MIDDLE HINGED|UP MIDDLE HINGED
1D814 SIGNWRITING HAND-FIST INDEX |HINGED MIDDLE UP|MIDDLE CONJOINED|MIDDLE CONJOINED INDEX BENT
1D817 SIGNWRITING HAND-FIST INDEX MIDDLE CONJOINED |MIDDLE BENT|CUPPED|HINGED
1D81A SIGNWRITING |HAND-FIST INDEX MIDDLE CROSSED|HAND-CIRCLE INDEX MIDDLE CROSSED
1D81C SIGNWRITING HAND-FIST |MIDDLE BENT OVER INDEX|INDEX BENT OVER MIDDLE|INDEX MIDDLE THUMB
1D81F SIGNWRITING |HAND-CIRCLE INDEX MIDDLE THUMB|HAND-FIST INDEX MIDDLE STRAIGHT THUMB BENT
1D821 SIGNWRITING HAND-FIST INDEX MIDDLE |BENT THUMB STRAIGHT|THUMB BENT|HINGED SPREAD THUMB SIDE
1D824 SIGNWRITING HAND-FIST INDEX UP MIDDLE HINGED THUMB |SIDE|CONJOINED
1D826 SIGNWRITING HAND-FIST INDEX |HINGED MIDDLE UP THUMB SIDE|MIDDLE UP SPREAD THUMB FORWARD
1D828 SIGNWRITING HAND-FIST INDEX MIDDLE THUMB |CUPPED|CIRCLED|HOOKED|HINGED
1D82C SIGNWRITING HAND-FIST |THUMB BETWEEN INDEX MIDDLE STRAIGHT|INDEX MIDDLE CONJOINED THUMB SIDE
1D82E SIGNWRITING HAND-FIST INDEX MIDDLE CONJOINED THUMB SIDE |CONJOINED|BENT
1D830 SIGNWRITING HAND-FIST |MIDDLE THUMB HOOKED INDEX UP|INDEX THUMB HOOKED MIDDLE UP
1D832 SIGNWRITING HAND-FIST INDEX MIDDLE |CONJOINED HINGED THUMB SIDE|CROSSED THUMB SIDE
1D834 SIGNWRITING HAND-FIST INDEX MIDDLE CONJOINED |THUMB FORWARD|CUPPED THUMB FORWARD
1D836 SIGNWRITING HAND-FIST |MIDDLE THUMB CUPPED INDEX UP|INDEX THUMB CUPPED MIDDLE UP
1D838 SIGNWRITING HAND-FIST MIDDLE THUMB CIRCLED INDEX |UP|HINGED
1D83A SIGNWRITING HAND-FIST INDEX THUMB ANGLED |OUT MIDDLE UP|IN MIDDLE UP
1D83C SIGNWRITING HAND-FIST INDEX |THUMB CIRCLED MIDDLE UP|MIDDLE THUMB CONJOINED HINGED
1D83E SIGNWRITING HAND-FIST INDEX MIDDLE THUMB |ANGLED OUT|ANGLED
1D840 SIGNWRITING HAND-FIST MIDDLE THUMB ANGLED |OUT INDEX UP|OUT INDEX CROSSED|INDEX UP
1D843 SIGNWRITING |HAND-FIST INDEX THUMB HOOKED MIDDLE HINGED|HAND-FLAT FOUR FINGERS
1D845 SIGNWRITING HAND-FLAT FOUR FINGERS |BENT|HINGED|CONJOINED|CONJOINED SPLIT
1D849 SIGNWRITING |HAND-CLAW FOUR FINGERS CONJOINED|HAND-FIST FOUR FINGERS CONJOINED BENT
1D84B SIGNWRITING |HAND-HINGE FOUR FINGERS CONJOINED|HAND-FLAT FIVE FINGERS SPREAD
1D84D SIGNWRITING HAND-FLAT |HEEL FIVE FINGERS SPREAD|FIVE FINGERS SPREAD FOUR BENT
1D84F SIGNWRITING HAND-FLAT |HEEL FIVE FINGERS SPREAD FOUR BENT|FIVE FINGERS SPREAD BENT
1D851 SIGNWRITING HAND-FLAT |HEEL FIVE FINGERS SPREAD BENT|FIVE FINGERS SPREAD THUMB FORWARD
1D853 SIGNWRITING HAND-CUP FIVE FINGERS |SPREAD|SPREAD OPEN
1D855 SIGNWRITING |HAND-HINGE FIVE FINGERS SPREAD OPEN|HAND-OVAL FIVE FINGERS SPREAD
1D857 SIGNWRITING HAND-FLAT FIVE FINGERS SPREAD |HINGED|HINGED THUMB SIDE|HINGED NO THUMB
1D85A SIGNWRITING |HAND-FLAT|HAND-FLAT BETWEEN PALM FACINGS|HAND-FLAT HEEL|HAND-FLAT THUMB SIDE
1D85E SIGNWRITING HAND-FLAT |HEEL THUMB SIDE|THUMB BENT|THUMB FORWARD|SPLIT INDEX THUMB SIDE
1D862 SIGNWRITING HAND-FLAT SPLIT |CENTRE|CENTRE THUMB SIDE|CENTRE THUMB SIDE BENT|LITTLE
1D866 SIGNWRITING |HAND-CLAW|HAND-CLAW THUMB SIDE|HAND-CLAW NO THUMB|HAND-CLAW THUMB FORWARD
1D86A SIGNWRITING |HAND-HOOK CURLICUE|HAND-HOOK|HAND-CUP OPEN|HAND-CUP|HAND-CUP OPEN THUMB SIDE
1D86F SIGNWRITING HAND-CUP |THUMB SIDE|OPEN NO THUMB|NO THUMB|OPEN THUMB FORWARD|THUMB FORWARD
1D874 SIGNWRITING |HAND-CURLICUE OPEN|HAND-CURLICUE|HAND-CIRCLE|HAND-OVAL|HAND-OVAL THUMB SIDE
1D879 SIGNWRITING |HAND-OVAL NO THUMB|HAND-OVAL THUMB FORWARD|HAND-HINGE OPEN
1D87C SIGNWRITING |HAND-HINGE OPEN THUMB FORWARD|HAND-HINGE|HAND-HINGE SMALL
1D87F SIGNWRITING HAND-HINGE |OPEN THUMB SIDE|THUMB SIDE|OPEN NO THUMB|NO THUMB
1D883 SIGNWRITING HAND-HINGE THUMB |SIDE TOUCHING INDEX|BETWEEN MIDDLE RING
1D885 SIGNWRITING |HAND-ANGLE|HAND-FIST INDEX MIDDLE RING|HAND-CIRCLE INDEX MIDDLE RING
1D888 SIGNWRITING |HAND-HINGE INDEX MIDDLE RING|HAND-ANGLE INDEX MIDDLE RING|HAND-HINGE LITTLE
1D88B SIGNWRITING HAND-FIST INDEX MIDDLE RING |BENT|CONJOINED
1D88D SIGNWRITING |HAND-HINGE INDEX MIDDLE RING CONJOINED|HAND-FIST LITTLE DOWN
1D88F SIGNWRITING HAND-FIST LITTLE |DOWN RIPPLE STRAIGHT|DOWN RIPPLE CURVED|DOWN OTHERS CIRCLED|UP
1D893 SIGNWRITING |HAND-FIST THUMB UNDER LITTLE UP|HAND-CIRCLE LITTLE UP|HAND-OVAL LITTLE UP
1D896 SIGNWRITING |HAND-ANGLE LITTLE UP|HAND-FIST LITTLE RAISED KNUCKLE|HAND-FIST LITTLE BENT
1D899 SIGNWRITING |HAND-FIST LITTLE TOUCHES THUMB|HAND-FIST LITTLE THUMB|HAND-HINGE LITTLE THUMB
1D89C SIGNWRITING |HAND-FIST LITTLE INDEX THUMB|HAND-HINGE LITTLE INDEX THUMB
1D89E SIGNWRITING HAND-ANGLE LITTLE INDEX THUMB INDEX |THUMB OUT|THUMB
1D8A0 SIGNWRITING |HAND-FIST LITTLE INDEX|HAND-CIRCLE LITTLE INDEX|HAND-HINGE LITTLE INDEX
1D8A3 SIGNWRITING |HAND-ANGLE LITTLE INDEX|HAND-FIST INDEX MIDDLE LITTLE
1D8A5 SIGNWRITING |HAND-CIRCLE INDEX MIDDLE LITTLE|HAND-HINGE INDEX MIDDLE LITTLE|HAND-HINGE RING
1D8A8 SIGNWRITING |HAND-ANGLE INDEX MIDDLE LITTLE|HAND-FIST INDEX MIDDLE CROSS LITTLE
1D8AA SIGNWRITING |HAND-CIRCLE INDEX MIDDLE CROSS LITTLE|HAND-FIST RING DOWN
1D8AC |SIGNWRITING HAND-HINGE RING DOWN INDEX THUMB HOOK MIDDLE
1D8AD SIGNWRITING |HAND-ANGLE RING DOWN MIDDLE THUMB INDEX CROSS|HAND-FIST RING UP
1D8AF SIGNWRITING |HAND-FIST RING RAISED KNUCKLE|HAND-FIST RING LITTLE|HAND-CIRCLE RING LITTLE
1D8B2 SIGNWRITING |HAND-OVAL RING LITTLE|HAND-ANGLE RING LITTLE|HAND-FIST RING MIDDLE
1D8B5 SIGNWRITING HAND-FIST RING |MIDDLE CONJOINED|MIDDLE RAISED KNUCKLES|INDEX|THUMB
1D8B9 SIGNWRITING |HAND-HOOK RING THUMB|HAND-FIST INDEX RING LITTLE|HAND-CIRCLE INDEX RING LITTLE
1D8BC SIGNWRITING |HAND-CURLICUE INDEX RING LITTLE ON|HAND-HOOK INDEX RING LITTLE OUT
1D8BE SIGNWRITING HAND-HOOK INDEX RING LITTLE |IN|UNDER
1D8C0 SIGNWRITING |HAND-CUP INDEX RING LITTLE|HAND-HINGE INDEX RING LITTLE
1D8C2 SIGNWRITING HAND-ANGLE INDEX RING |LITTLE OUT|LITTLE
1D8C4 SIGNWRITING |HAND-FIST MIDDLE DOWN|HAND-HINGE MIDDLE|HAND-FIST MIDDLE UP
1D8C7 SIGNWRITING |HAND-CIRCLE MIDDLE UP|HAND-FIST MIDDLE RAISED KNUCKLE
1D8C9 SIGNWRITING |HAND-FIST MIDDLE UP THUMB SIDE|HAND-HOOK MIDDLE THUMB
1D8CB SIGNWRITING HAND-FIST MIDDLE |THUMB LITTLE|LITTLE|RING LITTLE
1D8CE SIGNWRITING |HAND-CIRCLE MIDDLE RING LITTLE|HAND-CURLICUE MIDDLE RING LITTLE ON
1D8D0 SIGNWRITING |HAND-CUP MIDDLE RING LITTLE|HAND-HINGE MIDDLE RING LITTLE
1D8D2 SIGNWRITING HAND-ANGLE MIDDLE RING |LITTLE OUT|LITTLE IN|LITTLE
1D8D5 SIGNWRITING |HAND-CIRCLE MIDDLE RING LITTLE BENT|HAND-CLAW MIDDLE RING LITTLE CONJOINED
1D8D7 |SIGNWRITING HAND-CLAW MIDDLE RING LITTLE CONJOINED SIDE
1D8D8 SIGNWRITING HAND-HOOK MIDDLE RING LITTLE |CONJOINED OUT|CONJOINED IN|CONJOINED
1D8DB SIGNWRITING |HAND-HINGE INDEX HINGED|HAND-FIST INDEX THUMB SIDE|HAND-HINGE INDEX THUMB SIDE
1D8DE SIGNWRITING HAND-FIST INDEX THUMB SIDE |THUMB DIAGONAL|THUMB CONJOINED|THUMB BENT|INDEX BENT
1D8E2 SIGNWRITING HAND-FIST INDEX THUMB |SIDE BOTH BENT|SIDE INDEX HINGE|FORWARD INDEX STRAIGHT
1D8E5 SIGNWRITING HAND-FIST INDEX THUMB |FORWARD INDEX BENT|HOOK|CURLICUE|CURVE THUMB INSIDE
1D8E9 |SIGNWRITING HAND-CLAW INDEX THUMB CURVE THUMB INSIDE
1D8EA SIGNWRITING HAND-FIST INDEX THUMB |CURVE THUMB UNDER|CIRCLE
1D8EC SIGNWRITING |HAND-CUP INDEX THUMB|HAND-CUP INDEX THUMB OPEN|HAND-HINGE INDEX THUMB OPEN
1D8EF SIGNWRITING HAND-HINGE INDEX |THUMB LARGE|THUMB|THUMB SMALL
1D8F2 SIGNWRITING HAND-ANGLE INDEX |THUMB OUT|THUMB IN|THUMB
1D8F5 SIGNWRITING HAND-FIST |THUMB|THUMB HEEL|THUMB SIDE DIAGONAL|THUMB SIDE CONJOINED
1D8F9 SIGNWRITING HAND-FIST THUMB |SIDE BENT|FORWARD|BETWEEN INDEX MIDDLE|BETWEEN MIDDLE RING
1D8FD SIGNWRITING HAND-FIST THUMB |BETWEEN RING LITTLE|UNDER TWO FINGERS|OVER TWO FINGERS
1D900 SIGNWRITING HAND-FIST THUMB UNDER |THREE FINGERS|FOUR FINGERS
1D902 SIGNWRITING |HAND-FIST THUMB OVER FOUR RAISED KNUCKLES|HAND-FIST|HAND-FIST HEEL|TOUCH SINGLE
1D906 SIGNWRITING |TOUCH MULTIPLE|TOUCH BETWEEN|GRASP SINGLE|GRASP MULTIPLE|GRASP BETWEEN
1D90B SIGNWRITING |STRIKE SINGLE|STRIKE MULTIPLE|STRIKE BETWEEN|BRUSH SINGLE|BRUSH MULTIPLE
1D910 SIGNWRITING |BRUSH BETWEEN|RUB SINGLE|RUB MULTIPLE|RUB BETWEEN|SURFACE SYMBOLS
1D915 SIGNWRITING |SURFACE BETWEEN|SQUEEZE LARGE SINGLE|SQUEEZE SMALL SINGLE
1D918 SIGNWRITING SQUEEZE |LARGE MULTIPLE|SMALL MULTIPLE|SEQUENTIAL
1D91B SIGNWRITING FLICK |LARGE SINGLE|SMALL SINGLE|LARGE MULTIPLE|SMALL MULTIPLE|SEQUENTIAL
1D920 SIGNWRITING |SQUEEZE FLICK ALTERNATING|MOVEMENT-HINGE UP DOWN LARGE
1D922 SIGNWRITING MOVEMENT-HINGE |UP DOWN SMALL|UP SEQUENTIAL|DOWN SEQUENTIAL
1D925 SIGNWRITING MOVEMENT-HINGE UP DOWN ALTERNATING |LARGE|SMALL
1D927 SIGNWRITING |MOVEMENT-HINGE SIDE TO SIDE SCISSORS|MOVEMENT-WALLPLANE FINGER CONTACT
1D929 SIGNWRITING |MOVEMENT-FLOORPLANE FINGER CONTACT|MOVEMENT-WALLPLANE SINGLE STRAIGHT SMALL
1D92B SIGNWRITING MOVEMENT-WALLPLANE SINGLE STRAIGHT |MEDIUM|LARGE|LARGEST
1D92E SIGNWRITING MOVEMENT-WALLPLANE |SINGLE WRIST FLEX|DOUBLE STRAIGHT|DOUBLE WRIST FLEX
1D931 SIGNWRITING MOVEMENT-WALLPLANE |DOUBLE ALTERNATING|DOUBLE ALTERNATING WRIST FLEX|CROSS
1D934 SIGNWRITING MOVEMENT-WALLPLANE TRIPLE |STRAIGHT MOVEMENT|WRIST FLEX|ALTERNATING
1D937 SIGNWRITING MOVEMENT-WALLPLANE |TRIPLE ALTERNATING WRIST FLEX|BEND SMALL|BEND MEDIUM
1D93A SIGNWRITING MOVEMENT-WALLPLANE |BEND LARGE|CORNER SMALL|CORNER MEDIUM|CORNER LARGE
1D93E SIGNWRITING MOVEMENT-WALLPLANE |CORNER ROTATION|CHECK SMALL|CHECK MEDIUM|CHECK LARGE
1D942 SIGNWRITING MOVEMENT-WALLPLANE |BOX SMALL|BOX MEDIUM|BOX LARGE|ZIGZAG SMALL|ZIGZAG MEDIUM
1D947 SIGNWRITING MOVEMENT-WALLPLANE |ZIGZAG LARGE|PEAKS SMALL|PEAKS MEDIUM|PEAKS LARGE
1D94B SIGNWRITING TRAVEL-WALLPLANE ROTATION-WALLPLANE |SINGLE|DOUBLE|ALTERNATING
1D94E SIGNWRITING TRAVEL-WALLPLANE ROTATION-FLOORPLANE |SINGLE|DOUBLE|ALTERNATING
1D951 SIGNWRITING TRAVEL-WALLPLANE |SHAKING|ARM SPIRAL SINGLE|ARM SPIRAL DOUBLE|ARM SPIRAL TRIPLE
1D955 SIGNWRITING MOVEMENT-DIAGONAL |AWAY SMALL|AWAY MEDIUM|AWAY LARGE|AWAY LARGEST|TOWARDS SMALL
1D95A SIGNWRITING MOVEMENT-DIAGONAL TOWARDS |MEDIUM|LARGE|LARGEST
1D95D SIGNWRITING MOVEMENT-DIAGONAL BETWEEN AWAY |SMALL|MEDIUM|LARGE|LARGEST
1D961 SIGNWRITING MOVEMENT-DIAGONAL BETWEEN TOWARDS |SMALL|MEDIUM|LARGE|LARGEST
1D965 SIGNWRITING MOVEMENT-FLOORPLANE SINGLE STRAIGHT |SMALL|MEDIUM|LARGE|LARGEST
1D969 SIGNWRITING MOVEMENT-FLOORPLANE |SINGLE WRIST FLEX|DOUBLE STRAIGHT|DOUBLE WRIST FLEX
1D96C SIGNWRITING MOVEMENT-FLOORPLANE |DOUBLE ALTERNATING|DOUBLE ALTERNATING WRIST FLEX|CROSS
1D96F SIGNWRITING MOVEMENT-FLOORPLANE TRIPLE |STRAIGHT MOVEMENT|WRIST FLEX|ALTERNATING MOVEMENT
1D972 SIGNWRITING MOVEMENT-FLOORPLANE |TRIPLE ALTERNATING WRIST FLEX|BEND|CORNER SMALL
1D975 SIGNWRITING MOVEMENT-FLOORPLANE |CORNER MEDIUM|CORNER LARGE|CHECK|BOX SMALL|BOX MEDIUM
1D97A SIGNWRITING MOVEMENT-FLOORPLANE |BOX LARGE|ZIGZAG SMALL|ZIGZAG MEDIUM|ZIGZAG LARGE
1D97E SIGNWRITING MOVEMENT-FLOORPLANE PEAKS |SMALL|MEDIUM|LARGE
1D981 SIGNWRITING TRAVEL-FLOORPLANE ROTATION-FLOORPLANE |SINGLE|DOUBLE|ALTERNATING
1D984 SIGNWRITING TRAVEL-FLOORPLANE ROTATION-WALLPLANE |SINGLE|DOUBLE|ALTERNATING
1D987 SIGNWRITING |TRAVEL-FLOORPLANE SHAKING|MOVEMENT-WALLPLANE CURVE QUARTER SMALL
1D989 SIGNWRITING MOVEMENT-WALLPLANE CURVE QUARTER |MEDIUM|LARGE|LARGEST
1D98C SIGNWRITING MOVEMENT-WALLPLANE CURVE HALF-CIRCLE |SMALL|MEDIUM|LARGE|LARGEST
1D990 SIGNWRITING MOVEMENT-WALLPLANE CURVE THREE-QUARTER CIRCLE |SMALL|MEDIUM
1D992 SIGNWRITING MOVEMENT-WALLPLANE |HUMP SMALL|HUMP MEDIUM|HUMP LARGE|LOOP SMALL|LOOP MEDIUM
1D997 SIGNWRITING MOVEMENT-WALLPLANE |LOOP LARGE|LOOP SMALL DOUBLE|WAVE CURVE DOUBLE SMALL
1D99A SIGNWRITING MOVEMENT-WALLPLANE WAVE CURVE |DOUBLE MEDIUM|DOUBLE LARGE|TRIPLE SMALL
1D99D SIGNWRITING MOVEMENT-WALLPLANE WAVE CURVE TRIPLE |MEDIUM|LARGE
1D99F SIGNWRITING MOVEMENT-WALLPLANE |CURVE THEN STRAIGHT|CURVED CROSS SMALL|CURVED CROSS MEDIUM
1D9A2 SIGNWRITING ROTATION-WALLPLANE |SINGLE|DOUBLE|ALTERNATE
1D9A5 SIGNWRITING MOVEMENT-WALLPLANE |SHAKING|CURVE HITTING FRONT WALL|HUMP HITTING FRONT WALL
1D9A8 SIGNWRITING MOVEMENT-WALLPLANE |LOOP HITTING FRONT WALL|WAVE HITTING FRONT WALL
1D9AA SIGNWRITING ROTATION-WALLPLANE |SINGLE HITTING FRONT WALL|DOUBLE HITTING FRONT WALL
1D9AC |SIGNWRITING ROTATION-WALLPLANE ALTERNATING HITTING FRONT WALL
1D9AD SIGNWRITING MOVEMENT-WALLPLANE |CURVE HITTING CHEST|HUMP HITTING CHEST|LOOP HITTING CHEST
1D9B0 SIGNWRITING |MOVEMENT-WALLPLANE WAVE HITTING CHEST|ROTATION-WALLPLANE SINGLE HITTING CHEST
1D9B2 SIGNWRITING ROTATION-WALLPLANE |DOUBLE HITTING CHEST|ALTERNATING HITTING CHEST
1D9B4 SIGNWRITING MOVEMENT-WALLPLANE WAVE DIAGONAL PATH |SMALL|MEDIUM|LARGE
1D9B7 SIGNWRITING MOVEMENT-FLOORPLANE CURVE HITTING CEILING |SMALL|LARGE
1D9B9 SIGNWRITING MOVEMENT-FLOORPLANE HUMP HITTING CEILING |SMALL DOUBLE|LARGE DOUBLE|SMALL TRIPLE
1D9BC |SIGNWRITING MOVEMENT-FLOORPLANE HUMP HITTING CEILING LARGE TRIPLE
1D9BD SIGNWRITING MOVEMENT-FLOORPLANE LOOP HITTING CEILING |SMALL SINGLE|LARGE SINGLE|SMALL DOUBLE
1D9C0 |SIGNWRITING MOVEMENT-FLOORPLANE LOOP HITTING CEILING LARGE DOUBLE
1D9C1 SIGNWRITING MOVEMENT-FLOORPLANE WAVE HITTING CEILING |SMALL|LARGE
1D9C3 SIGNWRITING ROTATION-FLOORPLANE |SINGLE HITTING CEILING|DOUBLE HITTING CEILING
1D9C5 |SIGNWRITING ROTATION-FLOORPLANE ALTERNATING HITTING CEILING
1D9C6 SIGNWRITING MOVEMENT-FLOORPLANE CURVE HITTING FLOOR |SMALL|LARGE
1D9C8 SIGNWRITING MOVEMENT-FLOORPLANE HUMP HITTING FLOOR |SMALL DOUBLE|LARGE DOUBLE
1D9CA SIGNWRITING MOVEMENT-FLOORPLANE HUMP HITTING FLOOR TRIPLE |SMALL TRIPLE|LARGE TRIPLE
1D9CC SIGNWRITING MOVEMENT-FLOORPLANE LOOP HITTING FLOOR |SMALL SINGLE|LARGE SINGLE|SMALL DOUBLE
1D9CF SIGNWRITING MOVEMENT-FLOORPLANE |LOOP HITTING FLOOR LARGE DOUBLE|WAVE HITTING FLOOR SMALL
1D9D1 |SIGNWRITING MOVEMENT-FLOORPLANE WAVE HITTING FLOOR LARGE
1D9D2 SIGNWRITING ROTATION-FLOORPLANE |SINGLE HITTING FLOOR|DOUBLE HITTING FLOOR
1D9D4 SIGNWRITING |ROTATION-FLOORPLANE ALTERNATING HITTING FLOOR|MOVEMENT-FLOORPLANE CURVE SMALL
1D9D6 SIGNWRITING MOVEMENT-FLOORPLANE CURVE |MEDIUM|LARGE|LARGEST|COMBINED
1D9DA SIGNWRITING MOVEMENT-FLOORPLANE |HUMP SMALL|LOOP SMALL|WAVE SNAKE|WAVE SMALL|WAVE LARGE
1D9DF SIGNWRITING ROTATION-FLOORPLANE |SINGLE|DOUBLE|ALTERNATING
1D9E2 SIGNWRITING |MOVEMENT-FLOORPLANE SHAKING PARALLEL|MOVEMENT-WALLPLANE ARM CIRCLE SMALL SINGLE
1D9E4 SIGNWRITING MOVEMENT-WALLPLANE ARM CIRCLE |MEDIUM SINGLE|SMALL DOUBLE|MEDIUM DOUBLE
1D9E7 SIGNWRITING MOVEMENT-FLOORPLANE ARM CIRCLE HITTING WALL |SMALL SINGLE|MEDIUM SINGLE
1D9E9 SIGNWRITING MOVEMENT-FLOORPLANE ARM CIRCLE HITTING WALL |LARGE SINGLE|SMALL DOUBLE
1D9EB SIGNWRITING MOVEMENT-FLOORPLANE ARM CIRCLE HITTING WALL |MEDIUM DOUBLE|LARGE DOUBLE
1D9ED SIGNWRITING MOVEMENT-WALLPLANE WRIST CIRCLE FRONT |SINGLE|DOUBLE
1D9EF SIGNWRITING MOVEMENT-FLOORPLANE WRIST CIRCLE HITTING WALL |SINGLE|DOUBLE
1D9F1 SIGNWRITING MOVEMENT-WALLPLANE FINGER CIRCLES |SINGLE|DOUBLE
1D9F3 SIGNWRITING MOVEMENT-FLOORPLANE FINGER CIRCLES HITTING WALL |SINGLE|DOUBLE
1D9F5 SIGNWRITING DYNAMIC |ARROWHEAD SMALL|ARROWHEAD LARGE|FAST|SLOW|TENSE|RELAXED|SIMULTANEOUS
1D9FC SIGNWRITING |DYNAMIC SIMULTANEOUS ALTERNATING|DYNAMIC EVERY OTHER TIME|DYNAMIC GRADUAL|HEAD
1DA00 SIGNWRITING HEAD |RIM|MOVEMENT-WALLPLANE STRAIGHT|MOVEMENT-WALLPLANE TILT
1DA03 SIGNWRITING HEAD |MOVEMENT-FLOORPLANE STRAIGHT|MOVEMENT-WALLPLANE CURVE
1DA05 SIGNWRITING HEAD |MOVEMENT-FLOORPLANE CURVE|MOVEMENT CIRCLE
1DA07 SIGNWRITING FACE DIRECTION POSITION NOSE |FORWARD TILTING|UP OR DOWN|UP OR DOWN TILTING
1DA0A SIGNWRITING EYEBROWS STRAIGHT |UP|NEUTRAL|DOWN
1DA0D SIGNWRITING DREAMY EYEBROWS |NEUTRAL DOWN|DOWN NEUTRAL|UP NEUTRAL|NEUTRAL UP
1DA11 SIGNWRITING |FOREHEAD NEUTRAL|FOREHEAD CONTACT|FOREHEAD WRINKLED|EYES OPEN|EYES SQUEEZED
1DA16 SIGNWRITING |EYES CLOSED|EYE BLINK SINGLE|EYE BLINK MULTIPLE|EYES HALF OPEN|EYES WIDE OPEN
1DA1B SIGNWRITING |EYES HALF CLOSED|EYES WIDENING MOVEMENT|EYE WINK|EYELASHES UP|EYELASHES DOWN
1DA20 SIGNWRITING |EYELASHES FLUTTERING|EYEGAZE-WALLPLANE STRAIGHT
1DA22 SIGNWRITING EYEGAZE-WALLPLANE STRAIGHT |DOUBLE|ALTERNATING
1DA24 SIGNWRITING EYEGAZE-FLOORPLANE |STRAIGHT|STRAIGHT DOUBLE|STRAIGHT ALTERNATING
1DA27 SIGNWRITING |EYEGAZE-WALLPLANE CURVED|EYEGAZE-FLOORPLANE CURVED|EYEGAZE-WALLPLANE CIRCLING
1DA2A SIGNWRITING |CHEEKS PUFFED|CHEEKS NEUTRAL|CHEEKS SUCKED|TENSE CHEEKS HIGH
1DA2E SIGNWRITING |TENSE CHEEKS MIDDLE|TENSE CHEEKS LOW|EARS|NOSE NEUTRAL|NOSE CONTACT
1DA33 SIGNWRITING |NOSE WRINKLES|NOSE WIGGLES|AIR BLOWING OUT|AIR SUCKING IN
1DA37 SIGNWRITING |AIR BLOW SMALL ROTATIONS|AIR SUCK SMALL ROTATIONS|BREATH INHALE|BREATH EXHALE
1DA3B SIGNWRITING MOUTH |CLOSED NEUTRAL|CLOSED FORWARD|CLOSED CONTACT|SMILE|SMILE WRINKLED
1DA40 SIGNWRITING MOUTH |SMILE OPEN|FROWN|FROWN WRINKLED|FROWN OPEN|OPEN CIRCLE|OPEN FORWARD
1DA46 SIGNWRITING MOUTH OPEN |WRINKLED|OVAL|OVAL WRINKLED|OVAL YAWN|RECTANGLE|RECTANGLE WRINKLED
1DA4C SIGNWRITING MOUTH |OPEN RECTANGLE YAWN|KISS|KISS FORWARD|KISS WRINKLED|TENSE|TENSE FORWARD
1DA52 SIGNWRITING |MOUTH TENSE SUCKED|LIPS PRESSED TOGETHER|LIP LOWER OVER UPPER
1DA55 SIGNWRITING |LIP UPPER OVER LOWER|MOUTH CORNERS|MOUTH WRINKLES SINGLE|MOUTH WRINKLES DOUBLE
1DA59 SIGNWRITING TONGUE |STICKING OUT FAR|LICKING LIPS|TIP BETWEEN LIPS|TIP TOUCHING INSIDE MOUTH
1DA5D SIGNWRITING TONGUE |INSIDE MOUTH RELAXED|MOVES AGAINST CHEEK|CENTRE STICKING OUT
1DA60 SIGNWRITING |TONGUE CENTRE INSIDE MOUTH|TEETH|TEETH MOVEMENT|TEETH ON TONGUE
1DA64 SIGNWRITING TEETH |ON TONGUE MOVEMENT|ON LIPS|ON LIPS MOVEMENT|BITE LIPS
1DA68 SIGNWRITING |MOVEMENT-WALLPLANE JAW|MOVEMENT-FLOORPLANE JAW|NECK|HAIR|EXCITEMENT
1DA6D SIGNWRITING |SHOULDER HIP SPINE|SHOULDER HIP POSITIONS|WALLPLANE SHOULDER HIP MOVE
1DA70 SIGNWRITING |FLOORPLANE SHOULDER HIP MOVE|SHOULDER TILTING FROM WAIST
1DA72 SIGNWRITING TORSO-WALLPLANE |STRAIGHT STRETCH|CURVED BEND
1DA74 SIGNWRITING |TORSO-FLOORPLANE TWISTING|UPPER BODY TILTING FROM HIP JOINTS|LIMB COMBINATION
1DA77 SIGNWRITING LIMB |LENGTH-1|LENGTH-2|LENGTH-3|LENGTH-4|LENGTH-5|LENGTH-6|LENGTH-7
1DA7E SIGNWRITING |FINGER|LOCATION-WALLPLANE SPACE|LOCATION-FLOORPLANE SPACE|LOCATION HEIGHT
1DA82 SIGNWRITING LOCATION |WIDTH|DEPTH|HEAD NECK|TORSO|LIMBS DIGITS
1DA87 SIGNWRITING |COMMA|FULL STOP|SEMICOLON|COLON|PARENTHESIS
1DA9B SIGNWRITING FILL |MODIFIER-2|MODIFIER-3|MODIFIER-4|MODIFIER-5|MODIFIER-6
1DAA1 SIGNWRITING ROTATION |MODIFIER-2|MODIFIER-3|MODIFIER-4|MODIFIER-5|MODIFIER-6|MODIFIER-7
1DAA7 SIGNWRITING ROTATION |MODIFIER-8|MODIFIER-9|MODIFIER-10|MODIFIER-11|MODIFIER-12|MODIFIER-13
1DAAD SIGNWRITING ROTATION |MODIFIER-14|MODIFIER-15|MODIFIER-16
1DF00 LATIN SMALL LETTER |FENG DIGRAPH WITH TRILL|REVERSED SCRIPT G
1DF02 LATIN |LETTER SMALL CAPITAL TURNED G|SMALL LETTER REVERSED K
1DF04 LATIN |LETTER SMALL CAPITAL L WITH BELT|SMALL LETTER LEZH WITH RETROFLEX HOOK
1DF06 LATIN SMALL LETTER |TURNED Y WITH BELT|REVERSED ENG
1DF08 LATIN SMALL LETTER |TURNED R WITH LONG LEG AND RETROFLEX HOOK|T WITH HOOK AND RETROFLEX HOOK
1DF0A LATIN |LETTER RETROFLEX CLICK WITH RETROFLEX HOOK|SMALL LETTER ESH WITH DOUBLE BAR
1DF0C LATIN SMALL LETTER |ESH WITH DOUBLE BAR AND CURL|TURNED T WITH CURL
1DF0E LATIN LETTER |INVERTED GLOTTAL STOP WITH CURL|STRETCHED C WITH CURL|SMALL CAPITAL TURNED K
1DF11 LATIN SMALL LETTER |L WITH FISHHOOK|DEZH DIGRAPH WITH PALATAL HOOK
1DF13 LATIN SMALL LETTER |L WITH BELT AND PALATAL HOOK|ENG WITH PALATAL HOOK
1DF15 LATIN SMALL LETTER |TURNED R WITH PALATAL HOOK|R WITH FISHHOOK AND PALATAL HOOK
1DF17 LATIN SMALL LETTER |TESH DIGRAPH WITH PALATAL HOOK|EZH WITH PALATAL HOOK
1DF19 LATIN SMALL LETTER |DEZH DIGRAPH WITH RETROFLEX HOOK|I WITH STROKE AND RETROFLEX HOOK
1DF1B LATIN SMALL LETTER |O WITH RETROFLEX HOOK|TESH DIGRAPH WITH RETROFLEX HOOK
1DF1D LATIN SMALL LETTER |C WITH RETROFLEX HOOK|S WITH CURL
1E000 COMBINING GLAGOLITIC LETTER |AZU|BUKY|VEDE|GLAGOLI|DOBRO|YESTU|ZHIVETE
1E008 COMBINING GLAGOLITIC LETTER |ZEMLJA|IZHE|INITIAL IZHE|I|DJERVI|KAKO|LJUDIJE|MYSLITE|NASHI
1E011 COMBINING GLAGOLITIC LETTER |ONU|POKOJI|RITSI|SLOVO|TVRIDO|UKU|FRITU|HERU
1E01B COMBINING GLAGOLITIC LETTER |SHTA|TSI|CHRIVI|SHA|YERU|YERI|YATI
1E023 COMBINING GLAGOLITIC LETTER |YU|SMALL YUS
1E026 COMBINING GLAGOLITIC LETTER |YO|IOTATED SMALL YUS|BIG YUS|IOTATED BIG YUS|FITA
1E100 NYIAKENG PUACHUE HMONG LETTER |MA|TSA|NTA|TA|HA|NA|XA|NKA|CA|LA|SA|ZA|NCA|NTSA|KA|DA|NYA|NRA
1E112 NYIAKENG PUACHUE HMONG LETTER |VA|NTXA|TXA|FA|RA|QA|YA|NQA|PA|XYA|NPA|DLA|NPLA|HAH|MLA|PLA
1E122 NYIAKENG PUACHUE HMONG LETTER |GA|RRA|A|AA|I|U|O|OO|E|EE|W
1E130 NYIAKENG PUACHUE HMONG |TONE-B|TONE-M|TONE-J|TONE-V|TONE-S|TONE-G|TONE-D|SIGN FOR PERSON
1E138 NYIAKENG PUACHUE HMONG SIGN |FOR THING|FOR LOCATION|FOR ANIMAL|FOR INVERTEBRATE|XW XW
1E13D |NYIAKENG PUACHUE HMONG SYLLABLE LENGTHENER
1E140 NYIAKENG PUACHUE HMONG DIGIT |ZERO|ONE|TWO|THREE|FOUR|FIVE|SIX|SEVEN|EIGHT|NINE
1E14E NYIAKENG PUACHUE HMONG |LOGOGRAM NYAJ|CIRCLED CA
1E290 TOTO LETTER |PA|BA|TA|DA|KA|GA|MA|NA|NGA|SA|CHA|YA|WA|JA|HA|RA|LA|I|BREATHY I|IU|BREATHY IU
1E2A5 TOTO LETTER |U|E|BREATHY E|EO|BREATHY EO|O|AE|BREATHY AE|A
1E2AE |TOTO SIGN RISING TONE
1E2C0 WANCHO LETTER |AA|A|BA|CA|DA|GA|YA|PHA|LA|NA|PA|TA|THA|FA|SA|SHA|JA|ZA|WA|VA|KA|O|AU|RA|MA
1E2D9 WANCHO LETTER |KHA|HA|E|I|NGA|U|LLHA|TSA|TRA|ONG|AANG|ANG|ING|ON|EN|AAN|NYA|UEN|YIH
1E2EC WANCHO |TONE TUP|TONE TUPNI|TONE KOI|TONE KOINI|DIGIT ZERO|DIGIT ONE|DIGIT TWO|DIGIT THREE
1E2F4 WANCHO DIGIT |FOUR|FIVE|SIX|SEVEN|EIGHT|NINE
1E2FF |WANCHO NGUN SIGN
1E7E0 ETHIOPIC SYLLABLE |HHYA|HHYU|HHYI|HHYAA|HHYEE|HHYE|HHYO
1E7E8 ETHIOPIC SYLLABLE |GURAGE HHWA|HHWI|HHWEE|HHWE
1E7ED ETHIOPIC SYLLABLE GURAGE |MWI|MWEE
1E7F0 ETHIOPIC SYLLABLE GURAGE |QWI|QWEE|QWE|BWI|BWEE|KWI|KWEE|KWE|GWI|GWEE|GWE|FWI|FWEE|PWI|PWEE
1E800 MENDE KIKAKUI SYLLABLE |M001 KI|M002 KA|M003 KU|M065 KEE|M095 KE|M076 KOO|M048 KO|M179 KUA
1E808 MENDE KIKAKUI SYLLABLE |M004 WI|M005 WA|M006 WU|M126 WEE|M118 WE|M114 WOO|M045 WO|M194 WUI
1E810 MENDE KIKAKUI SYLLABLE |M143 WEI|M061 WVI|M049 WVA|M139 WVE|M007 MIN|M008 MAN|M009 MUN
1E817 MENDE KIKAKUI SYLLABLE |M059 MEN|M094 MON|M154 MUAN|M189 MUEN|M010 BI|M011 BA|M012 BU
1E81E MENDE KIKAKUI SYLLABLE |M150 BEE|M097 BE|M103 BOO|M138 BO|M013 I|M014 A|M015 U|M163 EE
1E826 MENDE KIKAKUI SYLLABLE |M100 E|M165 OO|M147 O|M137 EI|M131 IN|M135 IN|M195 AN|M178 EN
1E82E MENDE KIKAKUI SYLLABLE |M019 SI|M020 SA|M021 SU|M162 SEE|M116 SE|M136 SOO|M079 SO|M196 SIA
1E836 MENDE KIKAKUI SYLLABLE |M025 LI|M026 LA|M027 LU|M084 LEE|M073 LE|M054 LOO|M153 LO
1E83D MENDE KIKAKUI SYLLABLE |M110 LONG LE|M016 DI|M017 DA|M018 DU|M089 DEE|M180 DOO|M181 DO
1E844 MENDE KIKAKUI SYLLABLE |M022 TI|M023 TA|M024 TU|M091 TEE|M055 TE|M104 TOO|M069 TO|M028 JI
1E84C MENDE KIKAKUI SYLLABLE |M029 JA|M030 JU|M157 JEE|M113 JE|M160 JOO|M063 JO|M175 LONG JO
1E853 MENDE KIKAKUI SYLLABLE |M031 YI|M032 YA|M033 YU|M109 YEE|M080 YE|M141 YOO|M121 YO|M034 FI
1E85B MENDE KIKAKUI SYLLABLE |M035 FA|M036 FU|M078 FEE|M075 FE|M133 FOO|M088 FO|M197 FUA|M101 FAN
1E863 MENDE KIKAKUI SYLLABLE |M037 NIN|M038 NAN|M039 NUN|M117 NEN|M169 NON|M176 HI|M041 HA|M186 HU
1E86B MENDE KIKAKUI SYLLABLE |M040 HEE|M096 HE|M042 HOO|M140 HO|M083 HEEI|M128 HOOU|M053 HIN
1E872 MENDE KIKAKUI SYLLABLE |M130 HAN|M087 HUN|M052 HEN|M193 HON|M046 HUAN|M090 NGGI|M043 NGGA
1E879 MENDE KIKAKUI SYLLABLE |M082 NGGU|M115 NGGEE|M146 NGGE|M156 NGGOO|M120 NGGO|M159 NGGAA
1E87F MENDE KIKAKUI SYLLABLE |M127 NGGUA|M086 LONG NGGE|M106 LONG NGGOO|M183 LONG NGGO|M155 GI
1E884 MENDE KIKAKUI SYLLABLE |M111 GA|M168 GU|M190 GEE|M166 GUEI|M167 GUAN|M184 NGEN|M057 NGON
1E88B MENDE KIKAKUI SYLLABLE |M177 NGUAN|M068 PI|M099 PA|M050 PU|M081 PEE|M051 PE|M102 POO|M066 PO
1E893 MENDE KIKAKUI SYLLABLE |M145 MBI|M062 MBA|M122 MBU|M047 MBEE|M188 MBEE|M072 MBE|M172 MBOO
1E89A MENDE KIKAKUI SYLLABLE |M174 MBO|M187 MBUU|M161 LONG MBE|M105 LONG MBOO|M142 LONG MBO
1E89F MENDE KIKAKUI SYLLABLE |M132 KPI|M092 KPA|M074 KPU|M044 KPEE|M108 KPE|M112 KPOO|M158 KPO
1E8A6 MENDE KIKAKUI SYLLABLE |M124 GBI|M056 GBA|M148 GBU|M093 GBEE|M107 GBE|M071 GBOO|M070 GBO
1E8AD MENDE KIKAKUI SYLLABLE |M171 RA|M123 NDI|M129 NDA|M125 NDU|M191 NDEE|M119 NDE|M067 NDOO
1E8B4 MENDE KIKAKUI SYLLABLE |M064 NDO|M152 NJA|M192 NJU|M149 NJEE|M134 NJOO|M182 VI|M185 VA
1E8BB MENDE KIKAKUI SYLLABLE |M151 VU|M173 VEE|M085 VE|M144 VOO|M077 VO|M164 NYIN|M058 NYAN
1E8C2 MENDE KIKAKUI SYLLABLE |M170 NYUN|M098 NYEN|M060 NYON
1E8C7 MENDE KIKAKUI DIGIT |ONE|TWO|THREE|FOUR|FIVE|SIX|SEVEN|EIGHT|NINE
1E8D0 MENDE KIKAKUI COMBINING NUMBER |TEENS|TENS|HUNDREDS|THOUSANDS|TEN THOUSANDS
1E8D5 MENDE KIKAKUI COMBINING NUMBER |HUNDRED THOUSANDS|MILLIONS
1E900 ADLAM CAPITAL LETTER |ALIF|DAALI|LAAM|MIIM|BA|SINNYIIYHE|PE|BHE|RA|E|FA|I|O|DHA|YHE|WAW|NUN
1E911 ADLAM CAPITAL LETTER |KAF|YA|U|JIIM|CHI|HA|QAAF|GA|NYA|TU|NHA|VA|KHA|GBE|ZAL|KPO|SHA
1E922 ADLAM SMALL LETTER |ALIF|DAALI|LAAM|MIIM|BA|SINNYIIYHE|PE|BHE|RA|E|FA|I|O|DHA|YHE|WAW|NUN
1E933 ADLAM SMALL LETTER |KAF|YA|U|JIIM|CHI|HA|QAAF|GA|NYA|TU|NHA|VA|KHA|GBE|ZAL|KPO|SHA
1E944 ADLAM |ALIF LENGTHENER|VOWEL LENGTHENER|GEMINATION MARK|HAMZA|CONSONANT MODIFIER
1E949 ADLAM |GEMINATE CONSONANT MODIFIER|NUKTA|NASALIZATION MARK
1E950 ADLAM DIGIT |ZERO|ONE|TWO|THREE|FOUR|FIVE|SIX|SEVEN|EIGHT|NINE
1E95E ADLAM INITIAL |EXCLAMATION MARK|QUESTION MARK
1EC71 INDIC SIYAQ NUMBER |ONE|TWO|THREE|FOUR|FIVE|SIX|SEVEN|EIGHT|NINE|TEN|TWENTY|THIRTY|FORTY
1EC7E INDIC SIYAQ NUMBER |FIFTY|SIXTY|SEVENTY|EIGHTY|NINETY|ONE HUNDRED|TWO HUNDRED|THREE HUNDRED
1EC86 INDIC SIYAQ NUMBER |FOUR HUNDRED|FIVE HUNDRED|SIX HUNDRED|SEVEN HUNDRED|EIGHT HUNDRED
1EC8B INDIC SIYAQ NUMBER |NINE HUNDRED|ONE THOUSAND|TWO THOUSAND|THREE THOUSAND|FOUR THOUSAND
1EC90 INDIC SIYAQ NUMBER |FIVE THOUSAND|SIX THOUSAND|SEVEN THOUSAND|EIGHT THOUSAND|NINE THOUSAND
1EC95 INDIC SIYAQ NUMBER |TEN THOUSAND|TWENTY THOUSAND|THIRTY THOUSAND|FORTY THOUSAND
1EC99 INDIC SIYAQ NUMBER |FIFTY THOUSAND|SIXTY THOUSAND|SEVENTY THOUSAND|EIGHTY THOUSAND
1EC9D INDIC SIYAQ |NUMBER NINETY THOUSAND|NUMBER LAKH|NUMBER LAKHAN|LAKH MARK|NUMBER KAROR
1ECA2 INDIC SIYAQ NUMBER |KARORAN|PREFIXED ONE|PREFIXED TWO|PREFIXED THREE|PREFIXED FOUR
1ECA7 INDIC SIYAQ NUMBER PREFIXED |FIVE|SIX|SEVEN|EIGHT|NINE
1ECAC INDIC SIYAQ |PLACEHOLDER|FRACTION ONE QUARTER|FRACTION ONE HALF|FRACTION THREE QUARTERS
1ECB0 INDIC SIYAQ |RUPEE MARK|NUMBER ALTERNATE ONE|NUMBER ALTERNATE TWO
1ECB3 INDIC SIYAQ |NUMBER ALTERNATE TEN THOUSAND|ALTERNATE LAKH MARK
1ED01 OTTOMAN SIYAQ NUMBER |ONE|TWO|THREE|FOUR|FIVE|SIX|SEVEN|EIGHT|NINE|TEN|TWENTY|THIRTY|FORTY
1ED0E OTTOMAN SIYAQ NUMBER |FIFTY|SIXTY|SEVENTY|EIGHTY|NINETY|ONE HUNDRED|TWO HUNDRED
1ED15 OTTOMAN SIYAQ NUMBER |THREE HUNDRED|FOUR HUNDRED|FIVE HUNDRED|SIX HUNDRED|SEVEN HUNDRED
1ED1A OTTOMAN SIYAQ NUMBER |EIGHT HUNDRED|NINE HUNDRED|ONE THOUSAND|TWO THOUSAND|THREE THOUSAND
1ED1F OTTOMAN SIYAQ NUMBER |FOUR THOUSAND|FIVE THOUSAND|SIX THOUSAND|SEVEN THOUSAND|EIGHT THOUSAND
1ED24 OTTOMAN SIYAQ NUMBER |NINE THOUSAND|TEN THOUSAND|TWENTY THOUSAND|THIRTY THOUSAND
1ED28 OTTOMAN SIYAQ NUMBER |FORTY THOUSAND|FIFTY THOUSAND|SIXTY THOUSAND|SEVENTY THOUSAND
1ED2C OTTOMAN SIYAQ |NUMBER EIGHTY THOUSAND|NUMBER NINETY THOUSAND|MARRATAN|ALTERNATE NUMBER TWO
1ED30 OTTOMAN SIYAQ ALTERNATE NUMBER |THREE|FOUR|FIVE|SIX|SEVEN|EIGHT|NINE|TEN|FOUR HUNDRED
1ED39 OTTOMAN SIYAQ ALTERNATE NUMBER |SIX HUNDRED|TWO THOUSAND|TEN THOUSAND
1ED3C OTTOMAN SIYAQ FRACTION ONE |HALF|SIXTH
1EE00 ARABIC MATHEMATICAL |ALEF|BEH|JEEM|DAL
1EE05 ARABIC MATHEMATICAL |WAW|ZAIN|HAH|TAH|YEH|KAF|LAM|MEEM|NOON|SEEN|AIN|FEH|SAD|QAF|REH|SHEEN
1EE15 ARABIC MATHEMATICAL |TEH|THEH|KHAH|THAL|DAD|ZAH|GHAIN|DOTLESS BEH|DOTLESS NOON|DOTLESS FEH
1EE1F |ARABIC MATHEMATICAL DOTLESS QAF
1EE21 ARABIC MATHEMATICAL INITIAL |BEH|JEEM
1EE24 |ARABIC MATHEMATICAL INITIAL HEH
1EE27 |ARABIC MATHEMATICAL INITIAL HAH
1EE29 ARABIC MATHEMATICAL INITIAL |YEH|KAF|LAM|MEEM|NOON|SEEN|AIN|FEH|SAD|QAF
1EE34 ARABIC MATHEMATICAL INITIAL |SHEEN|TEH|THEH|KHAH
1EE39 |ARABIC MATHEMATICAL INITIAL DAD
1EE3B |ARABIC MATHEMATICAL INITIAL GHAIN
1EE42 |ARABIC MATHEMATICAL TAILED JEEM
1EE47 |ARABIC MATHEMATICAL TAILED HAH
1EE49 |ARABIC MATHEMATICAL TAILED YEH
1EE4B |ARABIC MATHEMATICAL TAILED LAM
1EE4D ARABIC MATHEMATICAL TAILED |NOON|SEEN|AIN
1EE51 ARABIC MATHEMATICAL TAILED |SAD|QAF
1EE54 |ARABIC MATHEMATICAL TAILED SHEEN
1EE57 |ARABIC MATHEMATICAL TAILED KHAH
1EE59 |ARABIC MATHEMATICAL TAILED DAD
1EE5B |ARABIC MATHEMATICAL TAILED GHAIN
1EE5D |ARABIC MATHEMATICAL TAILED DOTLESS NOON
1EE5F |ARABIC MATHEMATICAL TAILED DOTLESS QAF
1EE61 ARABIC MATHEMATICAL STRETCHED |BEH|JEEM
1EE64 |ARABIC MATHEMATICAL STRETCHED HEH
1EE67 ARABIC MATHEMATICAL STRETCHED |HAH|TAH|YEH|KAF
1EE6C ARABIC MATHEMATICAL STRETCHED |MEEM|NOON|SEEN|AIN|FEH|SAD|QAF
1EE74 ARABIC MATHEMATICAL STRETCHED |SHEEN|TEH|THEH|KHAH
1EE79 ARABIC MATHEMATICAL STRETCHED |DAD|ZAH|GHAIN|DOTLESS BEH
1EE7E |ARABIC MATHEMATICAL STRETCHED DOTLESS FEH
1EE80 ARABIC MATHEMATICAL LOOPED |ALEF|BEH|JEEM|DAL|HEH|WAW|ZAIN|HAH|TAH|YEH
1EE8B ARABIC MATHEMATICAL LOOPED |LAM|MEEM|NOON|SEEN|AIN|FEH|SAD|QAF|REH|SHEEN|TEH|THEH|KHAH|THAL
1EE99 ARABIC MATHEMATICAL LOOPED |DAD|ZAH|GHAIN
1EEA1 ARABIC MATHEMATICAL DOUBLE-STRUCK |BEH|JEEM|DAL
1EEA5 ARABIC MATHEMATICAL DOUBLE-STRUCK |WAW|ZAIN|HAH|TAH|YEH
1EEAB ARABIC MATHEMATICAL DOUBLE-STRUCK |LAM|MEEM|NOON|SEEN|AIN|FEH|SAD|QAF|REH|SHEEN|TEH|THEH
1EEB7 ARABIC MATHEMATICAL DOUBLE-STRUCK |KHAH|THAL|DAD|ZAH|GHAIN
1EEF0 ARABIC MATHEMATICAL OPERATOR |MEEM WITH HAH WITH TATWEEL|HAH WITH DAL
1F000 MAHJONG TILE |EAST WIND|SOUTH WIND|WEST WIND|NORTH WIND|RED DRAGON|GREEN DRAGON|WHITE DRAGON
1F007 MAHJONG TILE |ONE OF CHARACTERS|TWO OF CHARACTERS|THREE OF CHARACTERS|FOUR OF CHARACTERS
1F00B MAHJONG TILE |FIVE OF CHARACTERS|SIX OF CHARACTERS|SEVEN OF CHARACTERS|EIGHT OF CHARACTERS
1F00F MAHJONG TILE |NINE OF CHARACTERS|ONE OF BAMBOOS|TWO OF BAMBOOS|THREE OF BAMBOOS
1F013 MAHJONG TILE |FOUR OF BAMBOOS|FIVE OF BAMBOOS|SIX OF BAMBOOS|SEVEN OF BAMBOOS
1F017 MAHJONG TILE |EIGHT OF BAMBOOS|NINE OF BAMBOOS|ONE OF CIRCLES|TWO OF CIRCLES
1F01B MAHJONG TILE |THREE OF CIRCLES|FOUR OF CIRCLES|FIVE OF CIRCLES|SIX OF CIRCLES
1F01F MAHJONG TILE |SEVEN OF CIRCLES|EIGHT OF CIRCLES|NINE OF CIRCLES|PLUM|ORCHID|BAMBOO
1F025 MAHJONG TILE |CHRYSANTHEMUM|SPRING|SUMMER|AUTUMN|WINTER|JOKER|BACK
1F030 DOMINO TILE |HORIZONTAL BACK|HORIZONTAL-00-00|HORIZONTAL-00-01|HORIZONTAL-00-02
1F034 DOMINO TILE |HORIZONTAL-00-03|HORIZONTAL-00-04|HORIZONTAL-00-05|HORIZONTAL-00-06
1F038 DOMINO TILE |HORIZONTAL-01-00|HORIZONTAL-01-01|HORIZONTAL-01-02|HORIZONTAL-01-03
1F03C DOMINO TILE |HORIZONTAL-01-04|HORIZONTAL-01-05|HORIZONTAL-01-06|HORIZONTAL-02-00
1F040 DOMINO TILE |HORIZONTAL-02-01|HORIZONTAL-02-02|HORIZONTAL-02-03|HORIZONTAL-02-04
1F044 DOMINO TILE |HORIZONTAL-02-05|HORIZONTAL-02-06|HORIZONTAL-03-00|HORIZONTAL-03-01
1F048 DOMINO TILE |HORIZONTAL-03-02|HORIZONTAL-03-03|HORIZONTAL-03-04|HORIZONTAL-03-05
1F04C DOMINO TILE |HORIZONTAL-03-06|HORIZONTAL-04-00|HORIZONTAL-04-01|HORIZONTAL-04-02
1F050 DOMINO TILE |HORIZONTAL-04-03|HORIZONTAL-04-04|HORIZONTAL-04-05|HORIZONTAL-04-06
1F054 DOMINO TILE |HORIZONTAL-05-00|HORIZONTAL-05-01|HORIZONTAL-05-02|HORIZONTAL-05-03
1F058 DOMINO TILE |HORIZONTAL-05-04|HORIZONTAL-05-05|HORIZONTAL-05-06|HORIZONTAL-06-00
1F05C DOMINO TILE |HORIZONTAL-06-01|HORIZONTAL-06-02|HORIZONTAL-06-03|HORIZONTAL-06-04
1F060 DOMINO TILE |HORIZONTAL-06-05|HORIZONTAL-06-06|VERTICAL BACK|VERTICAL-00-00|VERTICAL-00-01
1F065 DOMINO TILE |VERTICAL-00-02|VERTICAL-00-03|VERTICAL-00-04|VERTICAL-00-05|VERTICAL-00-06
1F06A DOMINO TILE |VERTICAL-01-00|VERTICAL-01-01|VERTICAL-01-02|VERTICAL-01-03|VERTICAL-01-04
1F06F DOMINO TILE |VERTICAL-01-05|VERTICAL-01-06|VERTICAL-02-00|VERTICAL-02-01|VERTICAL-02-02
1F074 DOMINO TILE |VERTICAL-02-03|VERTICAL-02-04|VERTICAL-02-05|VERTICAL-02-06|VERTICAL-03-00
1F079 DOMINO TILE |VERTICAL-03-01|VERTICAL-03-02|VERTICAL-03-03|VERTICAL-03-04|VERTICAL-03-05
1F07E DOMINO TILE |VERTICAL-03-06|VERTICAL-04-00|VERTICAL-04-01|VERTICAL-04-02|VERTICAL-04-03
1F083 DOMINO TILE |VERTICAL-04-04|VERTICAL-04-05|VERTICAL-04-06|VERTICAL-05-00|VERTICAL-05-01
1F088 DOMINO TILE |VERTICAL-05-02|VERTICAL-05-03|VERTICAL-05-04|VERTICAL-05-05|VERTICAL-05-06
1F08D DOMINO TILE |VERTICAL-06-00|VERTICAL-06-01|VERTICAL-06-02|VERTICAL-06-03|VERTICAL-06-04
1F092 DOMINO TILE |VERTICAL-06-05|VERTICAL-06-06
1F0A0 PLAYING CARD |BACK|ACE OF SPADES|TWO OF SPADES|THREE OF SPADES|FOUR OF SPADES|FIVE OF SPADES
1F0A6 PLAYING CARD |SIX OF SPADES|SEVEN OF SPADES|EIGHT OF SPADES|NINE OF SPADES|TEN OF SPADES
1F0AB PLAYING CARD |JACK OF SPADES|KNIGHT OF SPADES|QUEEN OF SPADES|KING OF SPADES
1F0B1 PLAYING CARD |ACE OF HEARTS|TWO OF HEARTS|THREE OF HEARTS|FOUR OF HEARTS|FIVE OF HEARTS
1F0B6 PLAYING CARD |SIX OF HEARTS|SEVEN OF HEARTS|EIGHT OF HEARTS|NINE OF HEARTS|TEN OF HEARTS
1F0BB PLAYING CARD |JACK OF HEARTS|KNIGHT OF HEARTS|QUEEN OF HEARTS|KING OF HEARTS|RED JOKER
1F0C1 PLAYING CARD |ACE OF DIAMONDS|TWO OF DIAMONDS|THREE OF DIAMONDS|FOUR OF DIAMONDS
1F0C5 PLAYING CARD |FIVE OF DIAMONDS|SIX OF DIAMONDS|SEVEN OF DIAMONDS|EIGHT OF DIAMONDS
1F0C9 PLAYING CARD |NINE OF DIAMONDS|TEN OF DIAMONDS|JACK OF DIAMONDS|KNIGHT OF DIAMONDS
1F0CD PLAYING CARD |QUEEN OF DIAMONDS|KING OF DIAMONDS|BLACK JOKER
1F0D1 PLAYING CARD |ACE OF CLUBS|TWO OF CLUBS|THREE OF CLUBS|FOUR OF CLUBS|FIVE OF CLUBS
1F0D6 PLAYING CARD |SIX OF CLUBS|SEVEN OF CLUBS|EIGHT OF CLUBS|NINE OF CLUBS|TEN OF CLUBS
1F0DB PLAYING CARD |JACK OF CLUBS|KNIGHT OF CLUBS|QUEEN OF CLUBS|KING OF CLUBS|WHITE JOKER|FOOL
1F0E1 PLAYING CARD |TRUMP-1|TRUMP-2|TRUMP-3|TRUMP-4|TRUMP-5|TRUMP-6|TRUMP-7|TRUMP-8|TRUMP-9
1F0EA PLAYING CARD |TRUMP-10|TRUMP-11|TRUMP-12|TRUMP-13|TRUMP-14|TRUMP-15|TRUMP-16|TRUMP-17
1F0F2 PLAYING CARD |TRUMP-18|TRUMP-19|TRUMP-20|TRUMP-21
1F100 DIGIT |ZERO FULL STOP|ZERO COMMA|ONE COMMA|TWO COMMA|THREE COMMA|FOUR COMMA|FIVE COMMA
1F107 DIGIT |SIX COMMA|SEVEN COMMA|EIGHT COMMA|NINE COMMA
1F10B DINGBAT |CIRCLED SANS-SERIF DIGIT ZERO|NEGATIVE CIRCLED SANS-SERIF DIGIT ZERO
1F10D CIRCLED |ZERO WITH SLASH|ANTICLOCKWISE ARROW|DOLLAR SIGN WITH OVERLAID BACKSLASH
1F110 PARENTHESIZED LATIN CAPITAL LETTER |A|B|C|D|E|F|G|H|I|J|K|L|M|N|O|P|Q|R|S|T|U|V|W|X|Y|Z
1F12A |TORTOISE SHELL BRACKETED LATIN CAPITAL LETTER S|CIRCLED ITALIC LATIN CAPITAL LETTER C
1F12C |CIRCLED ITALIC LATIN CAPITAL LETTER R|CIRCLED CD|CIRCLED WZ|COPYLEFT SYMBOL
1F130 SQUARED LATIN CAPITAL LETTER |A|B|C|D|E|F|G|H|I|J|K|L|M|N|O|P|Q|R|S|T|U|V|W|X|Y|Z
1F14A SQUARED |HV|MV|SD|SS|PPV|WC
1F150 NEGATIVE CIRCLED LATIN CAPITAL LETTER |A|B|C|D|E|F|G|H|I|J|K|L|M|N|O|P|Q|R|S|T|U|V|W|X|Y|Z
1F16A |RAISED MC SIGN|RAISED MD SIGN|RAISED MR SIGN|CIRCLED CC|CIRCLED C WITH OVERLAID BACKSLASH
1F16F |CIRCLED HUMAN FIGURE|NEGATIVE SQUARED LATIN CAPITAL LETTER A
1F171 NEGATIVE SQUARED LATIN CAPITAL LETTER |B|C|D|E|F|G|H|I|J|K|L|M|N|O|P|Q|R|S|T|U|V|W|X|Y|Z
1F18A |CROSSED NEGATIVE SQUARED LATIN CAPITAL LETTER P|NEGATIVE SQUARED IC|NEGATIVE SQUARED PA
1F18D |NEGATIVE SQUARED SA|NEGATIVE SQUARED AB|NEGATIVE SQUARED WC|SQUARE DJ|SQUARED CL
1F192 SQUARED |COOL|FREE|ID|NEW|NG|OK|SOS|UP WITH EXCLAMATION MARK|VS|THREE D|SECOND SCREEN|TWO K
1F19E SQUARED |FOUR K|EIGHT K|FIVE POINT ONE|SEVEN POINT ONE|TWENTY-TWO POINT TWO|SIXTY P
1F1A4 SQUARED |ONE HUNDRED TWENTY P|LATIN SMALL LETTER D|HC|HDR|HI-RES|LOSSLESS|SHV|UHD|VOD
1F1AD |MASK WORK SYMBOL
1F1E6 REGIONAL INDICATOR SYMBOL LETTER |A|B|C|D|E|F|G|H|I|J|K|L|M|N|O|P|Q|R|S|T|U|V|W|X|Y|Z
1F200 |SQUARE HIRAGANA HOKA|SQUARED KATAKANA KOKO|SQUARED KATAKANA SA
1F210 SQUARED CJK UNIFIED |IDEOGRAPH-624B|IDEOGRAPH-5B57|IDEOGRAPH-53CC
1F213 SQUARED |KATAKANA DE|CJK UNIFIED IDEOGRAPH-4E8C|CJK UNIFIED IDEOGRAPH-591A
1F216 SQUARED CJK UNIFIED |IDEOGRAPH-89E3|IDEOGRAPH-5929|IDEOGRAPH-4EA4|IDEOGRAPH-6620
1F21A SQUARED CJK UNIFIED |IDEOGRAPH-7121|IDEOGRAPH-6599|IDEOGRAPH-524D|IDEOGRAPH-5F8C
1F21E SQUARED CJK UNIFIED |IDEOGRAPH-518D|IDEOGRAPH-65B0|IDEOGRAPH-521D|IDEOGRAPH-7D42
1F222 SQUARED CJK UNIFIED |IDEOGRAPH-751F|IDEOGRAPH-8CA9|IDEOGRAPH-58F0|IDEOGRAPH-5439
1F226 SQUARED CJK UNIFIED |IDEOGRAPH-6F14|IDEOGRAPH-6295|IDEOGRAPH-6355|IDEOGRAPH-4E00
1F22A SQUARED CJK UNIFIED |IDEOGRAPH-4E09|IDEOGRAPH-904A|IDEOGRAPH-5DE6|IDEOGRAPH-4E2D
1F22E SQUARED CJK UNIFIED |IDEOGRAPH-53F3|IDEOGRAPH-6307|IDEOGRAPH-8D70|IDEOGRAPH-6253
1F232 SQUARED CJK UNIFIED |IDEOGRAPH-7981|IDEOGRAPH-7A7A|IDEOGRAPH-5408|IDEOGRAPH-6E80
1F236 SQUARED CJK UNIFIED |IDEOGRAPH-6709|IDEOGRAPH-6708|IDEOGRAPH-7533|IDEOGRAPH-5272
1F23A SQUARED CJK UNIFIED |IDEOGRAPH-55B6|IDEOGRAPH-914D
1F240 TORTOISE SHELL BRACKETED CJK UNIFIED |IDEOGRAPH-672C|IDEOGRAPH-4E09|IDEOGRAPH-4E8C
1F243 TORTOISE SHELL BRACKETED CJK UNIFIED |IDEOGRAPH-5B89|IDEOGRAPH-70B9|IDEOGRAPH-6253
1F246 TORTOISE SHELL BRACKETED CJK UNIFIED |IDEOGRAPH-76D7|IDEOGRAPH-52DD|IDEOGRAPH-6557
1F250 CIRCLED IDEOGRAPH |ADVANTAGE|ACCEPT
1F260 ROUNDED SYMBOL FOR |FU|LU|SHOU|XI|SHUANGXI|CAI
1F300 |CYCLONE|FOGGY|CLOSED UMBRELLA|NIGHT WITH STARS|SUNRISE OVER MOUNTAINS|SUNRISE
1F306 |CITYSCAPE AT DUSK|SUNSET OVER BUILDINGS|RAINBOW|BRIDGE AT NIGHT|WATER WAVE|VOLCANO
1F30C |MILKY WAY|EARTH GLOBE EUROPE-AFRICA|EARTH GLOBE AMERICAS|EARTH GLOBE ASIA-AUSTRALIA
1F310 |GLOBE WITH MERIDIANS|NEW MOON SYMBOL|WAXING CRESCENT MOON SYMBOL|FIRST QUARTER MOON SYMBOL
1F314 |WAXING GIBBOUS MOON SYMBOL|FULL MOON SYMBOL|WANING GIBBOUS MOON SYMBOL
1F317 |LAST QUARTER MOON SYMBOL|WANING CRESCENT MOON SYMBOL|CRESCENT MOON|NEW MOON WITH FACE
1F31B |FIRST QUARTER MOON WITH FACE|LAST QUARTER MOON WITH FACE|FULL MOON WITH FACE|SUN WITH FACE
1F31F |GLOWING STAR|SHOOTING STAR|THERMOMETER|BLACK DROPLET|WHITE SUN|WHITE SUN WITH SMALL CLOUD
1F325 |WHITE SUN BEHIND CLOUD|WHITE SUN BEHIND CLOUD WITH RAIN|CLOUD WITH RAIN|CLOUD WITH SNOW
1F329 |CLOUD WITH LIGHTNING|CLOUD WITH TORNADO|FOG|WIND BLOWING FACE|HOT DOG|TACO|BURRITO|CHESTNUT
1F331 |SEEDLING|EVERGREEN TREE|DECIDUOUS TREE|PALM TREE|CACTUS|HOT PEPPER|TULIP|CHERRY BLOSSOM
1F339 |ROSE|HIBISCUS|SUNFLOWER|BLOSSOM|EAR OF MAIZE|EAR OF RICE|HERB|FOUR LEAF CLOVER|MAPLE LEAF
1F342 |FALLEN LEAF|LEAF FLUTTERING IN WIND|MUSHROOM|TOMATO|AUBERGINE|GRAPES|MELON|WATERMELON
1F34A |TANGERINE|LEMON|BANANA|PINEAPPLE|RED APPLE|GREEN APPLE|PEAR|PEACH|CHERRIES|STRAWBERRY
1F354 |HAMBURGER|SLICE OF PIZZA|MEAT ON BONE|POULTRY LEG|RICE CRACKER|RICE BALL|COOKED RICE
1F35B |CURRY AND RICE|STEAMING BOWL|SPAGHETTI|BREAD|FRENCH FRIES|ROASTED SWEET POTATO|DANGO|ODEN
1F363 |SUSHI|FRIED SHRIMP|FISH CAKE WITH SWIRL DESIGN|SOFT ICE CREAM|SHAVED ICE|ICE CREAM|DOUGHNUT
1F36A |COOKIE|CHOCOLATE BAR|CANDY|LOLLIPOP|CUSTARD|HONEY POT|SHORTCAKE|BENTO BOX|POT OF FOOD
1F373 |COOKING|FORK AND KNIFE|TEACUP WITHOUT HANDLE|SAKE BOTTLE AND CUP|WINE GLASS|COCKTAIL GLASS
1F379 |TROPICAL DRINK|BEER MUG|CLINKING BEER MUGS|BABY BOTTLE|FORK AND KNIFE WITH PLATE
1F37E |BOTTLE WITH POPPING CORK|POPCORN|RIBBON|WRAPPED PRESENT|BIRTHDAY CAKE|JACK-O-LANTERN
1F384 |CHRISTMAS TREE|FATHER CHRISTMAS|FIREWORKS|FIREWORK SPARKLER|BALLOON|PARTY POPPER
1F38A |CONFETTI BALL|TANABATA TREE|CROSSED FLAGS|PINE DECORATION|JAPANESE DOLLS|CARP STREAMER
1F390 |WIND CHIME|MOON VIEWING CEREMONY|SCHOOL SATCHEL|GRADUATION CAP|HEART WITH TIP ON THE LEFT
1F395 |BOUQUET OF FLOWERS|MILITARY MEDAL|REMINDER RIBBON|MUSICAL KEYBOARD WITH JACKS
1F399 |STUDIO MICROPHONE|LEVEL SLIDER|CONTROL KNOBS|BEAMED ASCENDING MUSICAL NOTES
1F39D |BEAMED DESCENDING MUSICAL NOTES|FILM FRAMES|ADMISSION TICKETS|CAROUSEL HORSE|FERRIS WHEEL
1F3A2 |ROLLER COASTER|FISHING POLE AND FISH|MICROPHONE|MOVIE CAMERA|CINEMA|HEADPHONE
1F3A8 |ARTIST PALETTE|TOP HAT|CIRCUS TENT|TICKET|CLAPPER BOARD|PERFORMING ARTS|VIDEO GAME
1F3AF |DIRECT HIT|SLOT MACHINE|BILLIARDS|GAME DIE|BOWLING|FLOWER PLAYING CARDS|MUSICAL NOTE
1F3B6 |MULTIPLE MUSICAL NOTES|SAXOPHONE|GUITAR|MUSICAL KEYBOARD|TRUMPET|VIOLIN|MUSICAL SCORE
1F3BD |RUNNING SHIRT WITH SASH|TENNIS RACQUET AND BALL|SKI AND SKI BOOT|BASKETBALL AND HOOP
1F3C1 |CHEQUERED FLAG|SNOWBOARDER|RUNNER|SURFER|SPORTS MEDAL|TROPHY|HORSE RACING|AMERICAN FOOTBALL
1F3C9 |RUGBY FOOTBALL|SWIMMER|WEIGHT LIFTER|GOLFER|RACING MOTORCYCLE|RACING CAR
1F3CF |CRICKET BAT AND BALL|VOLLEYBALL|FIELD HOCKEY STICK AND BALL|ICE HOCKEY STICK AND PUCK
1F3D3 |TABLE TENNIS PADDLE AND BALL|SNOW CAPPED MOUNTAIN|CAMPING|BEACH WITH UMBRELLA
1F3D7 |BUILDING CONSTRUCTION|HOUSE BUILDINGS|CITYSCAPE|DERELICT HOUSE BUILDING|CLASSICAL BUILDING
1F3DC |DESERT|DESERT ISLAND|NATIONAL PARK|STADIUM|HOUSE BUILDING|HOUSE WITH GARDEN|OFFICE BUILDING
1F3E3 |JAPANESE POST OFFICE|EUROPEAN POST OFFICE|HOSPITAL|BANK|AUTOMATED TELLER MACHINE|HOTEL
1F3E9 |LOVE HOTEL|CONVENIENCE STORE|SCHOOL|DEPARTMENT STORE|FACTORY|IZAKAYA LANTERN
1F3EF |JAPANESE CASTLE|EUROPEAN CASTLE|WHITE PENNANT|BLACK PENNANT|WAVING WHITE FLAG
1F3F4 |WAVING BLACK FLAG|ROSETTE|BLACK ROSETTE|LABEL|BADMINTON RACQUET AND SHUTTLECOCK
1F3F9 |BOW AND ARROW|AMPHORA|EMOJI MODIFIER FITZPATRICK TYPE-1-2|EMOJI MODIFIER FITZPATRICK TYPE-3
1F3FD EMOJI MODIFIER FITZPATRICK |TYPE-4|TYPE-5|TYPE-6
1F400 |RAT|MOUSE|OX|WATER BUFFALO|COW|TIGER|LEOPARD|RABBIT|CAT|DRAGON|CROCODILE|WHALE|SNAIL|SNAKE
1F40E |HORSE|RAM|GOAT|SHEEP|MONKEY|ROOSTER|CHICKEN|DOG|PIG|BOAR|ELEPHANT|OCTOPUS|SPIRAL SHELL|BUG
1F41C |ANT|HONEYBEE|LADY BEETLE|FISH|TROPICAL FISH|BLOWFISH|TURTLE|HATCHING CHICK|BABY CHICK
1F425 |FRONT-FACING BABY CHICK|BIRD|PENGUIN|KOALA|POODLE|DROMEDARY CAMEL|BACTRIAN CAMEL|DOLPHIN
1F42D |MOUSE FACE|COW FACE|TIGER FACE|RABBIT FACE|CAT FACE|DRAGON FACE|SPOUTING WHALE|HORSE FACE
1F435 |MONKEY FACE|DOG FACE|PIG FACE|FROG FACE|HAMSTER FACE|WOLF FACE|BEAR FACE|PANDA FACE
1F43D |PIG NOSE|PAW PRINTS|CHIPMUNK|EYES|EYE|EAR|NOSE|MOUTH|TONGUE
1F446 WHITE |UP POINTING BACKHAND INDEX|DOWN POINTING BACKHAND INDEX|LEFT POINTING BACKHAND INDEX
1F449 |WHITE RIGHT POINTING BACKHAND INDEX|FISTED HAND SIGN|WAVING HAND SIGN|OK HAND SIGN
1F44D |THUMBS UP SIGN|THUMBS DOWN SIGN|CLAPPING HANDS SIGN|OPEN HANDS SIGN|CROWN|WOMANS HAT
1F453 |EYEGLASSES|NECKTIE|T-SHIRT|JEANS|DRESS|KIMONO|BIKINI|WOMANS CLOTHES|PURSE|HANDBAG|POUCH
1F45E |MANS SHOE|ATHLETIC SHOE|HIGH-HEELED SHOE|WOMANS SANDAL|WOMANS BOOTS|FOOTPRINTS
1F464 |BUST IN SILHOUETTE|BUSTS IN SILHOUETTE|BOY|GIRL|MAN|WOMAN|FAMILY
1F46B |MAN AND WOMAN HOLDING HANDS|TWO MEN HOLDING HANDS|TWO WOMEN HOLDING HANDS|POLICE OFFICER
1F46F |WOMAN WITH BUNNY EARS|BRIDE WITH VEIL|PERSON WITH BLOND HAIR|MAN WITH GUA PI MAO
1F473 |MAN WITH TURBAN|OLDER MAN|OLDER WOMAN|BABY|CONSTRUCTION WORKER|PRINCESS|JAPANESE OGRE
1F47A |JAPANESE GOBLIN|GHOST|BABY ANGEL|EXTRATERRESTRIAL ALIEN|ALIEN MONSTER|IMP|SKULL
1F481 |INFORMATION DESK PERSON|GUARDSMAN|DANCER|LIPSTICK|NAIL POLISH|FACE MASSAGE|HAIRCUT
1F488 |BARBER POLE|SYRINGE|PILL|KISS MARK|LOVE LETTER|RING|GEM STONE|KISS|BOUQUET
1F491 |COUPLE WITH HEART|WEDDING|BEATING HEART|BROKEN HEART|TWO HEARTS|SPARKLING HEART
1F497 |GROWING HEART|HEART WITH ARROW|BLUE HEART|GREEN HEART|YELLOW HEART|PURPLE HEART
1F49D |HEART WITH RIBBON|REVOLVING HEARTS|HEART DECORATION|DIAMOND SHAPE WITH A DOT INSIDE
1F4A1 |ELECTRIC LIGHT BULB|ANGER SYMBOL|BOMB|SLEEPING SYMBOL|COLLISION SYMBOL
1F4A6 |SPLASHING SWEAT SYMBOL|DROPLET|DASH SYMBOL|PILE OF POO|FLEXED BICEPS|DIZZY SYMBOL
1F4AC |SPEECH BALLOON|THOUGHT BALLOON|WHITE FLOWER|HUNDRED POINTS SYMBOL|MONEY BAG
1F4B1 |CURRENCY EXCHANGE|HEAVY DOLLAR SIGN|CREDIT CARD|BANKNOTE WITH YEN SIGN
1F4B5 |BANKNOTE WITH DOLLAR SIGN|BANKNOTE WITH EURO SIGN|BANKNOTE WITH POUND SIGN|MONEY WITH WINGS
1F4B9 |CHART WITH UPWARDS TREND AND YEN SIGN|SEAT|PERSONAL COMPUTER|BRIEFCASE|MINIDISC|FLOPPY DISK
1F4BF |OPTICAL DISC|DVD|FILE FOLDER|OPEN FILE FOLDER|PAGE WITH CURL|PAGE FACING UP|CALENDAR
1F4C6 |TEAR-OFF CALENDAR|CARD INDEX|CHART WITH UPWARDS TREND|CHART WITH DOWNWARDS TREND|BAR CHART
1F4CB |CLIPBOARD|PUSHPIN|ROUND PUSHPIN|PAPERCLIP|STRAIGHT RULER|TRIANGULAR RULER|BOOKMARK TABS
1F4D2 |LEDGER|NOTEBOOK|NOTEBOOK WITH DECORATIVE COVER|CLOSED BOOK|OPEN BOOK|GREEN BOOK|BLUE BOOK
1F4D9 |ORANGE BOOK|BOOKS|NAME BADGE|SCROLL|MEMO|TELEPHONE RECEIVER|PAGER|FAX MACHINE
1F4E1 |SATELLITE ANTENNA|PUBLIC ADDRESS LOUDSPEAKER|CHEERING MEGAPHONE|OUTBOX TRAY|INBOX TRAY
1F4E6 |PACKAGE|E-MAIL SYMBOL|INCOMING ENVELOPE|ENVELOPE WITH DOWNWARDS ARROW ABOVE
1F4EA CLOSED MAILBOX WITH |LOWERED FLAG|RAISED FLAG
1F4EC |OPEN MAILBOX WITH RAISED FLAG|OPEN MAILBOX WITH LOWERED FLAG|POSTBOX|POSTAL HORN|NEWSPAPER
1F4F1 |MOBILE PHONE|MOBILE PHONE WITH RIGHTWARDS ARROW AT LEFT|VIBRATION MODE|MOBILE PHONE OFF
1F4F5 |NO MOBILE PHONES|ANTENNA WITH BARS|CAMERA|CAMERA WITH FLASH|VIDEO CAMERA|TELEVISION|RADIO
1F4FC |VIDEOCASSETTE|FILM PROJECTOR|PORTABLE STEREO|PRAYER BEADS|TWISTED RIGHTWARDS ARROWS
1F501 CLOCKWISE RIGHTWARDS AND LEFTWARDS OPEN CIRCLE |ARROWS|ARROWS WITH CIRCLED ONE OVERLAY
1F503 |CLOCKWISE DOWNWARDS AND UPWARDS OPEN CIRCLE ARROWS
1F504 |ANTICLOCKWISE DOWNWARDS AND UPWARDS OPEN CIRCLE ARROWS|LOW BRIGHTNESS SYMBOL
1F506 |HIGH BRIGHTNESS SYMBOL|SPEAKER WITH CANCELLATION STROKE|SPEAKER|SPEAKER WITH ONE SOUND WAVE
1F50A |SPEAKER WITH THREE SOUND WAVES|BATTERY|ELECTRIC PLUG|LEFT-POINTING MAGNIFYING GLASS
1F50E |RIGHT-POINTING MAGNIFYING GLASS|LOCK WITH INK PEN|CLOSED LOCK WITH KEY|KEY|LOCK|OPEN LOCK
1F514 |BELL|BELL WITH CANCELLATION STROKE|BOOKMARK|LINK SYMBOL|RADIO BUTTON
1F519 |BACK WITH LEFTWARDS ARROW ABOVE|END WITH LEFTWARDS ARROW ABOVE
1F51B |ON WITH EXCLAMATION MARK WITH LEFT RIGHT ARROW ABOVE|SOON WITH RIGHTWARDS ARROW ABOVE
1F51D |TOP WITH UPWARDS ARROW ABOVE|NO ONE UNDER EIGHTEEN SYMBOL|KEYCAP TEN
1F520 INPUT SYMBOL FOR |LATIN CAPITAL LETTERS|LATIN SMALL LETTERS|NUMBERS|SYMBOLS|LATIN LETTERS
1F525 |FIRE|ELECTRIC TORCH|WRENCH|HAMMER|NUT AND BOLT|HOCHO|PISTOL|MICROSCOPE|TELESCOPE
1F52E |CRYSTAL BALL|SIX POINTED STAR WITH MIDDLE DOT|JAPANESE SYMBOL FOR BEGINNER|TRIDENT EMBLEM
1F532 |BLACK SQUARE BUTTON|WHITE SQUARE BUTTON|LARGE RED CIRCLE|LARGE BLUE CIRCLE
1F536 |LARGE ORANGE DIAMOND|LARGE BLUE DIAMOND|SMALL ORANGE DIAMOND|SMALL BLUE DIAMOND
1F53A |UP-POINTING RED TRIANGLE|DOWN-POINTING RED TRIANGLE|UP-POINTING SMALL RED TRIANGLE
1F53D |DOWN-POINTING SMALL RED TRIANGLE|LOWER RIGHT SHADOWED WHITE CIRCLE
1F53F |UPPER RIGHT SHADOWED WHITE CIRCLE|CIRCLED CROSS POMMEE|CROSS POMMEE WITH HALF-CIRCLE BELOW
1F542 |CROSS POMMEE|NOTCHED LEFT SEMICIRCLE WITH THREE DOTS
1F544 |NOTCHED RIGHT SEMICIRCLE WITH THREE DOTS|SYMBOL FOR MARKS CHAPTER|WHITE LATIN CROSS
1F547 |HEAVY LATIN CROSS|CELTIC CROSS|OM SYMBOL|DOVE OF PEACE|KAABA|MOSQUE|SYNAGOGUE
1F54E |MENORAH WITH NINE BRANCHES|BOWL OF HYGIEIA|CLOCK FACE ONE OCLOCK|CLOCK FACE TWO OCLOCK
1F552 CLOCK FACE |THREE OCLOCK|FOUR OCLOCK|FIVE OCLOCK|SIX OCLOCK|SEVEN OCLOCK|EIGHT OCLOCK
1F558 CLOCK FACE |NINE OCLOCK|TEN OCLOCK|ELEVEN OCLOCK|TWELVE OCLOCK|ONE-THIRTY|TWO-THIRTY
1F55E CLOCK FACE |THREE-THIRTY|FOUR-THIRTY|FIVE-THIRTY|SIX-THIRTY|SEVEN-THIRTY|EIGHT-THIRTY
1F564 CLOCK FACE |NINE-THIRTY|TEN-THIRTY|ELEVEN-THIRTY|TWELVE-THIRTY
1F568 RIGHT |SPEAKER|SPEAKER WITH ONE SOUND WAVE|SPEAKER WITH THREE SOUND WAVES
1F56B |BULLHORN|BULLHORN WITH SOUND WAVES|RINGING BELL|BOOK|CANDLE|MANTELPIECE CLOCK
1F571 |BLACK SKULL AND CROSSBONES|NO PIRACY|HOLE|MAN IN BUSINESS SUIT LEVITATING|SLEUTH OR SPY
1F576 |DARK SUNGLASSES|SPIDER|SPIDER WEB|JOYSTICK|MAN DANCING|LEFT HAND TELEPHONE RECEIVER
1F57C |TELEPHONE RECEIVER WITH PAGE|RIGHT HAND TELEPHONE RECEIVER|WHITE TOUCHTONE TELEPHONE
1F57F |BLACK TOUCHTONE TELEPHONE|TELEPHONE ON TOP OF MODEM|CLAMSHELL MOBILE PHONE|BACK OF ENVELOPE
1F583 |STAMPED ENVELOPE|ENVELOPE WITH LIGHTNING|FLYING ENVELOPE|PEN OVER STAMPED ENVELOPE
1F587 |LINKED PAPERCLIPS|BLACK PUSHPIN|LOWER LEFT PENCIL|LOWER LEFT BALLPOINT PEN
1F58B |LOWER LEFT FOUNTAIN PEN|LOWER LEFT PAINTBRUSH|LOWER LEFT CRAYON|LEFT WRITING HAND
1F58F |TURNED OK HAND SIGN|RAISED HAND WITH FINGERS SPLAYED
1F591 REVERSED |RAISED HAND WITH FINGERS SPLAYED|THUMBS UP SIGN|THUMBS DOWN SIGN|VICTORY HAND
1F595 |REVERSED HAND WITH MIDDLE FINGER EXTENDED
1F596 |RAISED HAND WITH PART BETWEEN MIDDLE AND RING FINGERS|WHITE DOWN POINTING LEFT HAND INDEX
1F598 SIDEWAYS |WHITE LEFT POINTING INDEX|WHITE RIGHT POINTING INDEX|BLACK LEFT POINTING INDEX
1F59B |SIDEWAYS BLACK RIGHT POINTING INDEX|BLACK LEFT POINTING BACKHAND INDEX
1F59D |BLACK RIGHT POINTING BACKHAND INDEX|SIDEWAYS WHITE UP POINTING INDEX
1F59F SIDEWAYS |WHITE DOWN POINTING INDEX|BLACK UP POINTING INDEX|BLACK DOWN POINTING INDEX
1F5A2 BLACK |UP POINTING BACKHAND INDEX|DOWN POINTING BACKHAND INDEX|HEART
1F5A5 |DESKTOP COMPUTER|KEYBOARD AND MOUSE|THREE NETWORKED COMPUTERS|PRINTER|POCKET CALCULATOR
1F5AA |BLACK HARD SHELL FLOPPY DISK|WHITE HARD SHELL FLOPPY DISK|SOFT SHELL FLOPPY DISK
1F5AD |TAPE CARTRIDGE|WIRED KEYBOARD|ONE BUTTON MOUSE|TWO BUTTON MOUSE|THREE BUTTON MOUSE
1F5B2 |TRACKBALL|OLD PERSONAL COMPUTER|HARD DISK|SCREEN|PRINTER ICON|FAX ICON|OPTICAL DISC ICON
1F5B9 |DOCUMENT WITH TEXT|DOCUMENT WITH TEXT AND PICTURE|DOCUMENT WITH PICTURE|FRAME WITH PICTURE
1F5BD |FRAME WITH TILES|FRAME WITH AN X|BLACK FOLDER|FOLDER|OPEN FOLDER|CARD INDEX DIVIDERS
1F5C3 |CARD FILE BOX|FILE CABINET|EMPTY NOTE|EMPTY NOTE PAGE|EMPTY NOTE PAD|NOTE|NOTE PAGE
1F5CA |NOTE PAD|EMPTY DOCUMENT|EMPTY PAGE|EMPTY PAGES|DOCUMENT|PAGE|PAGES|WASTEBASKET
1F5D2 |SPIRAL NOTE PAD|SPIRAL CALENDAR PAD|DESKTOP WINDOW|MINIMIZE|MAXIMIZE|OVERLAP
1F5D8 |CLOCKWISE RIGHT AND LEFT SEMICIRCLE ARROWS|CANCELLATION X|INCREASE FONT SIZE SYMBOL
1F5DB |DECREASE FONT SIZE SYMBOL|COMPRESSION|OLD KEY|ROLLED-UP NEWSPAPER|PAGE WITH CIRCLED TEXT
1F5E0 |STOCK CHART|DAGGER KNIFE|LIPS|SPEAKING HEAD IN SILHOUETTE|THREE RAYS ABOVE|THREE RAYS BELOW
1F5E6 |THREE RAYS LEFT|THREE RAYS RIGHT|LEFT SPEECH BUBBLE|RIGHT SPEECH BUBBLE|TWO SPEECH BUBBLES
1F5EB |THREE SPEECH BUBBLES|LEFT THOUGHT BUBBLE|RIGHT THOUGHT BUBBLE|LEFT ANGER BUBBLE
1F5EF |RIGHT ANGER BUBBLE|MOOD BUBBLE|LIGHTNING MOOD BUBBLE|LIGHTNING MOOD|BALLOT BOX WITH BALLOT
1F5F4 BALLOT |SCRIPT X|BOX WITH SCRIPT X|BOLD SCRIPT X|BOX WITH BOLD SCRIPT X
1F5F8 |LIGHT CHECK MARK|BALLOT BOX WITH BOLD CHECK|WORLD MAP|MOUNT FUJI|TOKYO TOWER
1F5FD |STATUE OF LIBERTY|SILHOUETTE OF JAPAN|MOYAI|GRINNING FACE|GRINNING FACE WITH SMILING EYES
1F602 |FACE WITH TEARS OF JOY|SMILING FACE WITH OPEN MOUTH
1F604 SMILING FACE WITH OPEN MOUTH AND |SMILING EYES|COLD SWEAT|TIGHTLY-CLOSED EYES
1F607 |SMILING FACE WITH HALO|SMILING FACE WITH HORNS|WINKING FACE|SMILING FACE WITH SMILING EYES
1F60B |FACE SAVOURING DELICIOUS FOOD|RELIEVED FACE|SMILING FACE WITH HEART-SHAPED EYES
1F60E |SMILING FACE WITH SUNGLASSES|SMIRKING FACE|NEUTRAL FACE|EXPRESSIONLESS FACE|UNAMUSED FACE
1F613 |FACE WITH COLD SWEAT|PENSIVE FACE|CONFUSED FACE|CONFOUNDED FACE|KISSING FACE
1F618 |FACE THROWING A KISS|KISSING FACE WITH SMILING EYES|KISSING FACE WITH CLOSED EYES
1F61B FACE WITH STUCK-OUT |TONGUE|TONGUE AND WINKING EYE|TONGUE AND TIGHTLY-CLOSED EYES
1F61E |DISAPPOINTED FACE|WORRIED FACE|ANGRY FACE|POUTING FACE|CRYING FACE|PERSEVERING FACE
1F624 |FACE WITH LOOK OF TRIUMPH|DISAPPOINTED BUT RELIEVED FACE|FROWNING FACE WITH OPEN MOUTH
1F627 |ANGUISHED FACE|FEARFUL FACE|WEARY FACE|SLEEPY FACE|TIRED FACE|GRIMACING FACE
1F62D |LOUDLY CRYING FACE|FACE WITH OPEN MOUTH|HUSHED FACE|FACE WITH OPEN MOUTH AND COLD SWEAT
1F631 |FACE SCREAMING IN FEAR|ASTONISHED FACE|FLUSHED FACE|SLEEPING FACE|DIZZY FACE
1F636 |FACE WITHOUT MOUTH|FACE WITH MEDICAL MASK|GRINNING CAT FACE WITH SMILING EYES
1F639 |CAT FACE WITH TEARS OF JOY|SMILING CAT FACE WITH OPEN MOUTH
1F63B |SMILING CAT FACE WITH HEART-SHAPED EYES|CAT FACE WITH WRY SMILE
1F63D |KISSING CAT FACE WITH CLOSED EYES|POUTING CAT FACE|CRYING CAT FACE|WEARY CAT FACE
1F641 |SLIGHTLY FROWNING FACE|SLIGHTLY SMILING FACE|UPSIDE-DOWN FACE|FACE WITH ROLLING EYES
1F645 |FACE WITH NO GOOD GESTURE|FACE WITH OK GESTURE|PERSON BOWING DEEPLY|SEE-NO-EVIL MONKEY
1F649 |HEAR-NO-EVIL MONKEY|SPEAK-NO-EVIL MONKEY|HAPPY PERSON RAISING ONE HAND
1F64C PERSON |RAISING BOTH HANDS IN CELEBRATION|FROWNING|WITH POUTING FACE|WITH FOLDED HANDS
1F650 |NORTH WEST POINTING LEAF|SOUTH WEST POINTING LEAF|NORTH EAST POINTING LEAF
1F653 |SOUTH EAST POINTING LEAF|TURNED NORTH WEST POINTING LEAF|TURNED SOUTH WEST POINTING LEAF
1F656 TURNED |NORTH EAST POINTING LEAF|SOUTH EAST POINTING LEAF
1F658 |NORTH WEST POINTING VINE LEAF|SOUTH WEST POINTING VINE LEAF|NORTH EAST POINTING VINE LEAF
1F65B |SOUTH EAST POINTING VINE LEAF|HEAVY NORTH WEST POINTING VINE LEAF
1F65D HEAVY |SOUTH WEST POINTING VINE LEAF|NORTH EAST POINTING VINE LEAF
1F65F |HEAVY SOUTH EAST POINTING VINE LEAF|NORTH WEST POINTING BUD|SOUTH WEST POINTING BUD
1F662 |NORTH EAST POINTING BUD|SOUTH EAST POINTING BUD|HEAVY NORTH WEST POINTING BUD
1F665 HEAVY |SOUTH WEST POINTING BUD|NORTH EAST POINTING BUD|SOUTH EAST POINTING BUD
1F668 HOLLOW QUILT SQUARE |ORNAMENT|ORNAMENT IN BLACK SQUARE
1F66A |SOLID QUILT SQUARE ORNAMENT|SOLID QUILT SQUARE ORNAMENT IN BLACK SQUARE|LEFTWARDS ROCKET
1F66D |UPWARDS ROCKET|RIGHTWARDS ROCKET|DOWNWARDS ROCKET|SCRIPT LIGATURE ET ORNAMENT
1F671 |HEAVY SCRIPT LIGATURE ET ORNAMENT|LIGATURE OPEN ET ORNAMENT|HEAVY LIGATURE OPEN ET ORNAMENT
1F674 |HEAVY AMPERSAND ORNAMENT|SWASH AMPERSAND ORNAMENT
1F676 SANS-SERIF HEAVY DOUBLE |TURNED COMMA QUOTATION MARK ORNAMENT|COMMA QUOTATION MARK ORNAMENT
1F678 |SANS-SERIF HEAVY LOW DOUBLE COMMA QUOTATION MARK ORNAMENT|HEAVY INTERROBANG ORNAMENT
1F67A |SANS-SERIF INTERROBANG ORNAMENT|HEAVY SANS-SERIF INTERROBANG ORNAMENT|VERY HEAVY SOLIDUS
1F67D |VERY HEAVY REVERSE SOLIDUS|CHECKER BOARD|REVERSE CHECKER BOARD|ROCKET|HELICOPTER
1F682 |STEAM LOCOMOTIVE|RAILWAY CAR|HIGH-SPEED TRAIN|HIGH-SPEED TRAIN WITH BULLET NOSE|TRAIN|METRO
1F688 |LIGHT RAIL|STATION|TRAM|TRAM CAR|BUS|ONCOMING BUS|TROLLEYBUS|BUS STOP|MINIBUS|AMBULANCE
1F692 |FIRE ENGINE|POLICE CAR|ONCOMING POLICE CAR|TAXI|ONCOMING TAXI|AUTOMOBILE
1F698 |ONCOMING AUTOMOBILE|RECREATIONAL VEHICLE|DELIVERY TRUCK|ARTICULATED LORRY|TRACTOR|MONORAIL
1F69E |MOUNTAIN RAILWAY|SUSPENSION RAILWAY|MOUNTAIN CABLEWAY|AERIAL TRAMWAY|SHIP|ROWBOAT|SPEEDBOAT
1F6A5 |HORIZONTAL TRAFFIC LIGHT|VERTICAL TRAFFIC LIGHT|CONSTRUCTION SIGN
1F6A8 |POLICE CARS REVOLVING LIGHT|TRIANGULAR FLAG ON POST|DOOR|NO ENTRY SIGN|SMOKING SYMBOL
1F6AD |NO SMOKING SYMBOL|PUT LITTER IN ITS PLACE SYMBOL|DO NOT LITTER SYMBOL|POTABLE WATER SYMBOL
1F6B1 |NON-POTABLE WATER SYMBOL|BICYCLE|NO BICYCLES|BICYCLIST|MOUNTAIN BICYCLIST|PEDESTRIAN
1F6B7 |NO PEDESTRIANS|CHILDREN CROSSING|MENS SYMBOL|WOMENS SYMBOL|RESTROOM|BABY SYMBOL|TOILET
1F6BE |WATER CLOSET|SHOWER|BATH|BATHTUB|PASSPORT CONTROL|CUSTOMS|BAGGAGE CLAIM|LEFT LUGGAGE
1F6C6 |TRIANGLE WITH ROUNDED CORNERS|PROHIBITED SIGN|CIRCLED INFORMATION SOURCE|BOYS SYMBOL
1F6CA |GIRLS SYMBOL|COUCH AND LAMP|SLEEPING ACCOMMODATION|SHOPPING BAGS|BELLHOP BELL|BED
1F6D0 |PLACE OF WORSHIP|OCTAGONAL SIGN|SHOPPING TROLLEY|STUPA|PAGODA|HINDU TEMPLE|HUT|ELEVATOR
1F6DD |PLAYGROUND SLIDE|WHEEL|RING BUOY|HAMMER AND WRENCH|SHIELD|OIL DRUM|MOTORWAY|RAILWAY TRACK
1F6E5 |MOTOR BOAT|UP-POINTING MILITARY AIRPLANE|UP-POINTING AIRPLANE|UP-POINTING SMALL AIRPLANE
1F6E9 |SMALL AIRPLANE|NORTHEAST-POINTING AIRPLANE|AIRPLANE DEPARTURE|AIRPLANE ARRIVING
1F6F0 |SATELLITE|ONCOMING FIRE ENGINE|DIESEL LOCOMOTIVE|PASSENGER SHIP|SCOOTER|MOTOR SCOOTER|CANOE
1F6F7 |SLED|FLYING SAUCER|SKATEBOARD|AUTO RICKSHAW|PICKUP TRUCK|ROLLER SKATE
1F700 ALCHEMICAL SYMBOL FOR |QUINTESSENCE|AIR|FIRE|EARTH|WATER|AQUAFORTIS|AQUA REGIA|AQUA REGIA-2
1F708 ALCHEMICAL SYMBOL FOR |AQUA VITAE|AQUA VITAE-2|VINEGAR|VINEGAR-2|VINEGAR-3|SULFUR
1F70E ALCHEMICAL SYMBOL FOR |PHILOSOPHERS SULFUR|BLACK SULFUR|MERCURY SUBLIMATE
1F711 ALCHEMICAL SYMBOL FOR |MERCURY SUBLIMATE-2|MERCURY SUBLIMATE-3|CINNABAR|SALT|NITRE|VITRIOL
1F717 ALCHEMICAL SYMBOL FOR |VITRIOL-2|ROCK SALT|ROCK SALT-2|GOLD|SILVER|IRON ORE|IRON ORE-2
1F71E ALCHEMICAL SYMBOL FOR |CROCUS OF IRON|REGULUS OF IRON|COPPER ORE|IRON-COPPER ORE
1F722 ALCHEMICAL SYMBOL FOR |SUBLIMATE OF COPPER|CROCUS OF COPPER|CROCUS OF COPPER-2
1F725 ALCHEMICAL SYMBOL FOR |COPPER ANTIMONIATE|SALT OF COPPER ANTIMONIATE
1F727 ALCHEMICAL SYMBOL FOR |SUBLIMATE OF SALT OF COPPER|VERDIGRIS|TIN ORE|LEAD ORE|ANTIMONY ORE
1F72C ALCHEMICAL SYMBOL FOR |SUBLIMATE OF ANTIMONY|SALT OF ANTIMONY|SUBLIMATE OF SALT OF ANTIMONY
1F72F ALCHEMICAL SYMBOL FOR |VINEGAR OF ANTIMONY|REGULUS OF ANTIMONY|REGULUS OF ANTIMONY-2|REGULUS
1F733 ALCHEMICAL SYMBOL FOR |REGULUS-2|REGULUS-3|REGULUS-4|ALKALI|ALKALI-2|MARCASITE|SAL-AMMONIAC
1F73A ALCHEMICAL SYMBOL FOR |ARSENIC|REALGAR|REALGAR-2|AURIPIGMENT|BISMUTH ORE|TARTAR|TARTAR-2
1F741 ALCHEMICAL SYMBOL FOR |QUICK LIME|BORAX|BORAX-2|BORAX-3|ALUM|OIL|SPIRIT|TINCTURE|GUM|WAX
1F74B ALCHEMICAL SYMBOL FOR |POWDER|CALX|TUTTY|CAPUT MORTUUM|SCEPTER OF JOVE|CADUCEUS|TRIDENT
1F752 ALCHEMICAL SYMBOL FOR |STARRED TRIDENT|LODESTONE|SOAP|URINE|HORSE DUNG|ASHES|POT ASHES|BRICK
1F75A ALCHEMICAL SYMBOL FOR |POWDERED BRICK|AMALGAM|STRATUM SUPER STRATUM|STRATUM SUPER STRATUM-2
1F75E ALCHEMICAL SYMBOL FOR |SUBLIMATION|PRECIPITATE|DISTILL|DISSOLVE|DISSOLVE-2|PURIFY
1F764 ALCHEMICAL SYMBOL FOR |PUTREFACTION|CRUCIBLE|CRUCIBLE-2|CRUCIBLE-3|CRUCIBLE-4|CRUCIBLE-5
1F76A ALCHEMICAL SYMBOL FOR |ALEMBIC|BATH OF MARY|BATH OF VAPOURS|RETORT|HOUR|NIGHT|DAY-NIGHT
1F771 ALCHEMICAL SYMBOL FOR |MONTH|HALF DRAM|HALF OUNCE
1F780 BLACK |LEFT-POINTING ISOSCELES RIGHT TRIANGLE|UP-POINTING ISOSCELES RIGHT TRIANGLE
1F782 BLACK |RIGHT-POINTING ISOSCELES RIGHT TRIANGLE|DOWN-POINTING ISOSCELES RIGHT TRIANGLE
1F784 |BLACK SLIGHTLY SMALL CIRCLE|MEDIUM BOLD WHITE CIRCLE|BOLD WHITE CIRCLE|HEAVY WHITE CIRCLE
1F788 |VERY HEAVY WHITE CIRCLE|EXTREMELY HEAVY WHITE CIRCLE
1F78A |WHITE CIRCLE CONTAINING BLACK SMALL CIRCLE|ROUND TARGET|BLACK TINY SQUARE
1F78D |BLACK SLIGHTLY SMALL SQUARE|LIGHT WHITE SQUARE|MEDIUM WHITE SQUARE|BOLD WHITE SQUARE
1F791 |HEAVY WHITE SQUARE|VERY HEAVY WHITE SQUARE|EXTREMELY HEAVY WHITE SQUARE
1F794 WHITE SQUARE CONTAINING BLACK |VERY SMALL SQUARE|MEDIUM SQUARE
1F796 |SQUARE TARGET|BLACK TINY DIAMOND|BLACK VERY SMALL DIAMOND|BLACK MEDIUM SMALL DIAMOND
1F79A WHITE DIAMOND CONTAINING BLACK |VERY SMALL DIAMOND|MEDIUM DIAMOND
1F79C |DIAMOND TARGET|BLACK TINY LOZENGE|BLACK VERY SMALL LOZENGE|BLACK MEDIUM SMALL LOZENGE
1F7A0 |WHITE LOZENGE CONTAINING BLACK SMALL LOZENGE|THIN GREEK CROSS|LIGHT GREEK CROSS
1F7A3 |MEDIUM GREEK CROSS|BOLD GREEK CROSS|VERY BOLD GREEK CROSS|VERY HEAVY GREEK CROSS
1F7A7 |EXTREMELY HEAVY GREEK CROSS|THIN SALTIRE|LIGHT SALTIRE|MEDIUM SALTIRE|BOLD SALTIRE
1F7AC |HEAVY SALTIRE|VERY HEAVY SALTIRE|EXTREMELY HEAVY SALTIRE|LIGHT FIVE SPOKED ASTERISK
1F7B0 |MEDIUM FIVE SPOKED ASTERISK|BOLD FIVE SPOKED ASTERISK|HEAVY FIVE SPOKED ASTERISK
1F7B3 |VERY HEAVY FIVE SPOKED ASTERISK|EXTREMELY HEAVY FIVE SPOKED ASTERISK
1F7B5 |LIGHT SIX SPOKED ASTERISK|MEDIUM SIX SPOKED ASTERISK|BOLD SIX SPOKED ASTERISK
1F7B8 |HEAVY SIX SPOKED ASTERISK|VERY HEAVY SIX SPOKED ASTERISK
1F7BA |EXTREMELY HEAVY SIX SPOKED ASTERISK|LIGHT EIGHT SPOKED ASTERISK
1F7BC |MEDIUM EIGHT SPOKED ASTERISK|BOLD EIGHT SPOKED ASTERISK|HEAVY EIGHT SPOKED ASTERISK
1F7BF |VERY HEAVY EIGHT SPOKED ASTERISK|LIGHT THREE POINTED BLACK STAR
1F7C1 |MEDIUM THREE POINTED BLACK STAR|THREE POINTED BLACK STAR|MEDIUM THREE POINTED PINWHEEL STAR
1F7C4 |LIGHT FOUR POINTED BLACK STAR|MEDIUM FOUR POINTED BLACK STAR|FOUR POINTED BLACK STAR
1F7C7 |MEDIUM FOUR POINTED PINWHEEL STAR|REVERSE LIGHT FOUR POINTED PINWHEEL STAR
1F7C9 |LIGHT FIVE POINTED BLACK STAR|HEAVY FIVE POINTED BLACK STAR|MEDIUM SIX POINTED BLACK STAR
1F7CC |HEAVY SIX POINTED BLACK STAR|SIX POINTED PINWHEEL STAR|MEDIUM EIGHT POINTED BLACK STAR
1F7CF |HEAVY EIGHT POINTED BLACK STAR|VERY HEAVY EIGHT POINTED BLACK STAR
1F7D1 |HEAVY EIGHT POINTED PINWHEEL STAR|LIGHT TWELVE POINTED BLACK STAR
1F7D3 |HEAVY TWELVE POINTED BLACK STAR|HEAVY TWELVE POINTED PINWHEEL STAR|CIRCLED TRIANGLE
1F7D6 |NEGATIVE CIRCLED TRIANGLE|CIRCLED SQUARE|NEGATIVE CIRCLED SQUARE
1F7E0 LARGE |ORANGE CIRCLE|YELLOW CIRCLE|GREEN CIRCLE|PURPLE CIRCLE|BROWN CIRCLE|RED SQUARE
1F7E6 LARGE |BLUE SQUARE|ORANGE SQUARE|YELLOW SQUARE|GREEN SQUARE|PURPLE SQUARE|BROWN SQUARE
1F7F0 |HEAVY EQUALS SIGN
1F800 |LEFTWARDS ARROW WITH SMALL TRIANGLE ARROWHEAD|UPWARDS ARROW WITH SMALL TRIANGLE ARROWHEAD
1F802 |RIGHTWARDS ARROW WITH SMALL TRIANGLE ARROWHEAD
1F803 |DOWNWARDS ARROW WITH SMALL TRIANGLE ARROWHEAD
1F804 |LEFTWARDS ARROW WITH MEDIUM TRIANGLE ARROWHEAD|UPWARDS ARROW WITH MEDIUM TRIANGLE ARROWHEAD
1F806 |RIGHTWARDS ARROW WITH MEDIUM TRIANGLE ARROWHEAD
1F807 |DOWNWARDS ARROW WITH MEDIUM TRIANGLE ARROWHEAD
1F808 |LEFTWARDS ARROW WITH LARGE TRIANGLE ARROWHEAD|UPWARDS ARROW WITH LARGE TRIANGLE ARROWHEAD
1F80A |RIGHTWARDS ARROW WITH LARGE TRIANGLE ARROWHEAD
1F80B |DOWNWARDS ARROW WITH LARGE TRIANGLE ARROWHEAD
1F810 |LEFTWARDS ARROW WITH SMALL EQUILATERAL ARROWHEAD
1F811 |UPWARDS ARROW WITH SMALL EQUILATERAL ARROWHEAD
1F812 |RIGHTWARDS ARROW WITH SMALL EQUILATERAL ARROWHEAD
1F813 |DOWNWARDS ARROW WITH SMALL EQUILATERAL ARROWHEAD|LEFTWARDS ARROW WITH EQUILATERAL ARROWHEAD
1F815 |UPWARDS ARROW WITH EQUILATERAL ARROWHEAD|RIGHTWARDS ARROW WITH EQUILATERAL ARROWHEAD
1F817 |DOWNWARDS ARROW WITH EQUILATERAL ARROWHEAD|HEAVY LEFTWARDS ARROW WITH EQUILATERAL ARROWHEAD
1F819 HEAVY |UPWARDS ARROW WITH EQUILATERAL ARROWHEAD|RIGHTWARDS ARROW WITH EQUILATERAL ARROWHEAD
1F81B |HEAVY DOWNWARDS ARROW WITH EQUILATERAL ARROWHEAD
1F81C |HEAVY LEFTWARDS ARROW WITH LARGE EQUILATERAL ARROWHEAD
1F81D |HEAVY UPWARDS ARROW WITH LARGE EQUILATERAL ARROWHEAD
1F81E |HEAVY RIGHTWARDS ARROW WITH LARGE EQUILATERAL ARROWHEAD
1F81F |HEAVY DOWNWARDS ARROW WITH LARGE EQUILATERAL ARROWHEAD
1F820 |LEFTWARDS TRIANGLE-HEADED ARROW WITH NARROW SHAFT
1F821 |UPWARDS TRIANGLE-HEADED ARROW WITH NARROW SHAFT
1F822 |RIGHTWARDS TRIANGLE-HEADED ARROW WITH NARROW SHAFT
1F823 |DOWNWARDS TRIANGLE-HEADED ARROW WITH NARROW SHAFT
1F824 |LEFTWARDS TRIANGLE-HEADED ARROW WITH MEDIUM SHAFT
1F825 |UPWARDS TRIANGLE-HEADED ARROW WITH MEDIUM SHAFT
1F826 |RIGHTWARDS TRIANGLE-HEADED ARROW WITH MEDIUM SHAFT
1F827 |DOWNWARDS TRIANGLE-HEADED ARROW WITH MEDIUM SHAFT
1F828 |LEFTWARDS TRIANGLE-HEADED ARROW WITH BOLD SHAFT
1F829 |UPWARDS TRIANGLE-HEADED ARROW WITH BOLD SHAFT
1F82A |RIGHTWARDS TRIANGLE-HEADED ARROW WITH BOLD SHAFT
1F82B |DOWNWARDS TRIANGLE-HEADED ARROW WITH BOLD SHAFT
1F82C |LEFTWARDS TRIANGLE-HEADED ARROW WITH HEAVY SHAFT
1F82D |UPWARDS TRIANGLE-HEADED ARROW WITH HEAVY SHAFT
1F82E |RIGHTWARDS TRIANGLE-HEADED ARROW WITH HEAVY SHAFT
1F82F |DOWNWARDS TRIANGLE-HEADED ARROW WITH HEAVY SHAFT
1F830 |LEFTWARDS TRIANGLE-HEADED ARROW WITH VERY HEAVY SHAFT
1F831 |UPWARDS TRIANGLE-HEADED ARROW WITH VERY HEAVY SHAFT
1F832 |RIGHTWARDS TRIANGLE-HEADED ARROW WITH VERY HEAVY SHAFT
1F833 |DOWNWARDS TRIANGLE-HEADED ARROW WITH VERY HEAVY SHAFT|LEFTWARDS FINGER-POST ARROW
1F835 |UPWARDS FINGER-POST ARROW|RIGHTWARDS FINGER-POST ARROW|DOWNWARDS FINGER-POST ARROW
1F838 |LEFTWARDS SQUARED ARROW|UPWARDS SQUARED ARROW|RIGHTWARDS SQUARED ARROW
1F83B |DOWNWARDS SQUARED ARROW|LEFTWARDS COMPRESSED ARROW|UPWARDS COMPRESSED ARROW
1F83E |RIGHTWARDS COMPRESSED ARROW|DOWNWARDS COMPRESSED ARROW|LEFTWARDS HEAVY COMPRESSED ARROW
1F841 |UPWARDS HEAVY COMPRESSED ARROW|RIGHTWARDS HEAVY COMPRESSED ARROW
1F843 |DOWNWARDS HEAVY COMPRESSED ARROW|LEFTWARDS HEAVY ARROW|UPWARDS HEAVY ARROW
1F846 |RIGHTWARDS HEAVY ARROW|DOWNWARDS HEAVY ARROW
1F850 |LEFTWARDS SANS-SERIF ARROW|UPWARDS SANS-SERIF ARROW|RIGHTWARDS SANS-SERIF ARROW
1F853 |DOWNWARDS SANS-SERIF ARROW|NORTH WEST SANS-SERIF ARROW|NORTH EAST SANS-SERIF ARROW
1F856 |SOUTH EAST SANS-SERIF ARROW|SOUTH WEST SANS-SERIF ARROW|LEFT RIGHT SANS-SERIF ARROW
1F859 |UP DOWN SANS-SERIF ARROW
1F860 WIDE-HEADED |LEFTWARDS LIGHT BARB ARROW|UPWARDS LIGHT BARB ARROW|RIGHTWARDS LIGHT BARB ARROW
1F863 WIDE-HEADED |DOWNWARDS LIGHT BARB ARROW|NORTH WEST LIGHT BARB ARROW
1F865 WIDE-HEADED |NORTH EAST LIGHT BARB ARROW|SOUTH EAST LIGHT BARB ARROW
1F867 WIDE-HEADED |SOUTH WEST LIGHT BARB ARROW|LEFTWARDS BARB ARROW|UPWARDS BARB ARROW
1F86A WIDE-HEADED |RIGHTWARDS BARB ARROW|DOWNWARDS BARB ARROW|NORTH WEST BARB ARROW
1F86D WIDE-HEADED |NORTH EAST BARB ARROW|SOUTH EAST BARB ARROW|SOUTH WEST BARB ARROW
1F870 WIDE-HEADED |LEFTWARDS MEDIUM BARB ARROW|UPWARDS MEDIUM BARB ARROW
1F872 WIDE-HEADED |RIGHTWARDS MEDIUM BARB ARROW|DOWNWARDS MEDIUM BARB ARROW
1F874 WIDE-HEADED NORTH |WEST MEDIUM BARB ARROW|EAST MEDIUM BARB ARROW
1F876 WIDE-HEADED SOUTH |EAST MEDIUM BARB ARROW|WEST MEDIUM BARB ARROW
1F878 WIDE-HEADED |LEFTWARDS HEAVY BARB ARROW|UPWARDS HEAVY BARB ARROW|RIGHTWARDS HEAVY BARB ARROW
1F87B WIDE-HEADED |DOWNWARDS HEAVY BARB ARROW|NORTH WEST HEAVY BARB ARROW
1F87D WIDE-HEADED |NORTH EAST HEAVY BARB ARROW|SOUTH EAST HEAVY BARB ARROW
1F87F WIDE-HEADED |SOUTH WEST HEAVY BARB ARROW|LEFTWARDS VERY HEAVY BARB ARROW
1F881 WIDE-HEADED |UPWARDS VERY HEAVY BARB ARROW|RIGHTWARDS VERY HEAVY BARB ARROW
1F883 WIDE-HEADED |DOWNWARDS VERY HEAVY BARB ARROW|NORTH WEST VERY HEAVY BARB ARROW
1F885 WIDE-HEADED |NORTH EAST VERY HEAVY BARB ARROW|SOUTH EAST VERY HEAVY BARB ARROW
1F887 |WIDE-HEADED SOUTH WEST VERY HEAVY BARB ARROW
1F890 |LEFTWARDS TRIANGLE ARROWHEAD|UPWARDS TRIANGLE ARROWHEAD|RIGHTWARDS TRIANGLE ARROWHEAD
1F893 |DOWNWARDS TRIANGLE ARROWHEAD|LEFTWARDS WHITE ARROW WITHIN TRIANGLE ARROWHEAD
1F895 |UPWARDS WHITE ARROW WITHIN TRIANGLE ARROWHEAD
1F896 |RIGHTWARDS WHITE ARROW WITHIN TRIANGLE ARROWHEAD
1F897 |DOWNWARDS WHITE ARROW WITHIN TRIANGLE ARROWHEAD|LEFTWARDS ARROW WITH NOTCHED TAIL
1F899 |UPWARDS ARROW WITH NOTCHED TAIL|RIGHTWARDS ARROW WITH NOTCHED TAIL
1F89B |DOWNWARDS ARROW WITH NOTCHED TAIL|HEAVY ARROW SHAFT WIDTH ONE
1F89D HEAVY ARROW SHAFT WIDTH |TWO THIRDS|ONE HALF|ONE THIRD
1F8A0 |LEFTWARDS BOTTOM-SHADED WHITE ARROW|RIGHTWARDS BOTTOM SHADED WHITE ARROW
1F8A2 |LEFTWARDS TOP SHADED WHITE ARROW|RIGHTWARDS TOP SHADED WHITE ARROW
1F8A4 |LEFTWARDS LEFT-SHADED WHITE ARROW|RIGHTWARDS RIGHT-SHADED WHITE ARROW
1F8A6 |LEFTWARDS RIGHT-SHADED WHITE ARROW|RIGHTWARDS LEFT-SHADED WHITE ARROW
1F8A8 |LEFTWARDS BACK-TILTED SHADOWED WHITE ARROW|RIGHTWARDS BACK-TILTED SHADOWED WHITE ARROW
1F8AA |LEFTWARDS FRONT-TILTED SHADOWED WHITE ARROW|RIGHTWARDS FRONT-TILTED SHADOWED WHITE ARROW
1F8AC WHITE ARROW SHAFT WIDTH |ONE|TWO THIRDS
1F8B0 ARROW POINTING |UPWARDS THEN NORTH WEST|RIGHTWARDS THEN CURVING SOUTH WEST
1F900 CIRCLED CROSS |FORMEE WITH FOUR DOTS|FORMEE WITH TWO DOTS|FORMEE
1F903 LEFT HALF CIRCLE WITH |FOUR DOTS|THREE DOTS|TWO DOTS|DOT
1F907 |LEFT HALF CIRCLE|DOWNWARD FACING HOOK|DOWNWARD FACING NOTCHED HOOK
1F90A |DOWNWARD FACING HOOK WITH DOT|DOWNWARD FACING NOTCHED HOOK WITH DOT|PINCHED FINGERS
1F90D |WHITE HEART|BROWN HEART|PINCHING HAND|ZIPPER-MOUTH FACE|MONEY-MOUTH FACE
1F912 |FACE WITH THERMOMETER|NERD FACE|THINKING FACE|FACE WITH HEAD-BANDAGE|ROBOT FACE
1F917 |HUGGING FACE|SIGN OF THE HORNS|CALL ME HAND|RAISED BACK OF HAND|LEFT-FACING FIST
1F91C |RIGHT-FACING FIST|HANDSHAKE|HAND WITH INDEX AND MIDDLE FINGERS CROSSED|I LOVE YOU HAND SIGN
1F920 |FACE WITH COWBOY HAT|CLOWN FACE|NAUSEATED FACE|ROLLING ON THE FLOOR LAUGHING|DROOLING FACE
1F925 |LYING FACE|FACE PALM|SNEEZING FACE|FACE WITH ONE EYEBROW RAISED
1F929 GRINNING FACE WITH |STAR EYES|ONE LARGE AND ONE SMALL EYE
1F92B |FACE WITH FINGER COVERING CLOSED LIPS|SERIOUS FACE WITH SYMBOLS COVERING MOUTH
1F92D |SMILING FACE WITH SMILING EYES AND HAND COVERING MOUTH|FACE WITH OPEN MOUTH VOMITING
1F92F |SHOCKED FACE WITH EXPLODING HEAD|PREGNANT WOMAN|BREAST-FEEDING|PALMS UP TOGETHER|SELFIE
1F934 |PRINCE|MAN IN TUXEDO|MOTHER CHRISTMAS|SHRUG|PERSON DOING CARTWHEEL|JUGGLING|FENCER
1F93B |MODERN PENTATHLON|WRESTLERS|WATER POLO|HANDBALL|DIVING MASK|WILTED FLOWER
1F941 |DRUM WITH DRUMSTICKS|CLINKING GLASSES|TUMBLER GLASS|SPOON|GOAL NET|RIFLE|FIRST PLACE MEDAL
1F948 |SECOND PLACE MEDAL|THIRD PLACE MEDAL|BOXING GLOVE|MARTIAL ARTS UNIFORM|CURLING STONE
1F94D |LACROSSE STICK AND BALL|SOFTBALL|FLYING DISC|CROISSANT|AVOCADO|CUCUMBER|BACON|POTATO|CARROT
1F956 |BAGUETTE BREAD|GREEN SALAD|SHALLOW PAN OF FOOD|STUFFED FLATBREAD|EGG|GLASS OF MILK|PEANUTS
1F95D |KIWIFRUIT|PANCAKES|DUMPLING|FORTUNE COOKIE|TAKEOUT BOX|CHOPSTICKS|BOWL WITH SPOON
1F964 |CUP WITH STRAW|COCONUT|BROCCOLI|PIE|PRETZEL|CUT OF MEAT|SANDWICH|CANNED FOOD|LEAFY GREEN
1F96D |MANGO|MOON CAKE|BAGEL|SMILING FACE WITH SMILING EYES AND THREE HEARTS|YAWNING FACE
1F972 |SMILING FACE WITH TEAR|FACE WITH PARTY HORN AND PARTY HAT
1F974 |FACE WITH UNEVEN EYES AND WAVY MOUTH|OVERHEATED FACE|FREEZING FACE|NINJA|DISGUISED FACE
1F979 |FACE HOLDING BACK TEARS|FACE WITH PLEADING EYES|SARI|LAB COAT|GOGGLES|HIKING BOOT|FLAT SHOE
1F980 |CRAB|LION FACE|SCORPION|TURKEY|UNICORN FACE|EAGLE|DUCK|BAT|SHARK|OWL|FOX FACE|BUTTERFLY
1F98C |DEER|GORILLA|LIZARD|RHINOCEROS|SHRIMP|SQUID|GIRAFFE FACE|ZEBRA FACE|HEDGEHOG|SAUROPOD|T-REX
1F997 |CRICKET|KANGAROO|LLAMA|PEACOCK|HIPPOPOTAMUS|PARROT|RACCOON|LOBSTER|MOSQUITO|MICROBE|BADGER
1F9A2 |SWAN|MAMMOTH|DODO|SLOTH|OTTER|ORANGUTAN|SKUNK|FLAMINGO|OYSTER|BEAVER|BISON|SEAL|GUIDE DOG
1F9AF |PROBING CANE|EMOJI COMPONENT RED HAIR|EMOJI COMPONENT CURLY HAIR|EMOJI COMPONENT BALD
1F9B3 |EMOJI COMPONENT WHITE HAIR|BONE|LEG|FOOT|TOOTH|SUPERHERO|SUPERVILLAIN|SAFETY VEST
1F9BB |EAR WITH HEARING AID|MOTORIZED WHEELCHAIR|MANUAL WHEELCHAIR|MECHANICAL ARM|MECHANICAL LEG
1F9C0 |CHEESE WEDGE|CUPCAKE|SALT SHAKER|BEVERAGE BOX|GARLIC|ONION|FALAFEL|WAFFLE|BUTTER|MATE DRINK
1F9CA |ICE CUBE|BUBBLE TEA|TROLL|STANDING PERSON|KNEELING PERSON|DEAF PERSON|FACE WITH MONOCLE
1F9D1 |ADULT|CHILD|OLDER ADULT|BEARDED PERSON|PERSON WITH HEADSCARF|PERSON IN STEAMY ROOM
1F9D7 |PERSON CLIMBING|PERSON IN LOTUS POSITION|MAGE|FAIRY|VAMPIRE|MERPERSON|ELF|GENIE|ZOMBIE
1F9E0 |BRAIN|ORANGE HEART|BILLED CAP|SCARF|GLOVES|COAT|SOCKS|RED GIFT ENVELOPE|FIRECRACKER
1F9E9 |JIGSAW PUZZLE PIECE|TEST TUBE|PETRI DISH|DNA DOUBLE HELIX|COMPASS|ABACUS|FIRE EXTINGUISHER
1F9F0 |TOOLBOX|BRICK|MAGNET|LUGGAGE|LOTION BOTTLE|SPOOL OF THREAD|BALL OF YARN|SAFETY PIN
1F9F8 |TEDDY BEAR|BROOM|BASKET|ROLL OF PAPER|BAR OF SOAP|SPONGE|RECEIPT|NAZAR AMULET
1FA00 NEUTRAL CHESS |KING|QUEEN|ROOK|BISHOP|KNIGHT|PAWN
1FA06 |WHITE CHESS KNIGHT ROTATED FORTY-FIVE DEGREES|BLACK CHESS KNIGHT ROTATED FORTY-FIVE DEGREES
1FA08 |NEUTRAL CHESS KNIGHT ROTATED FORTY-FIVE DEGREES|WHITE CHESS KING ROTATED NINETY DEGREES
1FA0A WHITE CHESS |QUEEN ROTATED NINETY DEGREES|ROOK ROTATED NINETY DEGREES
1FA0C WHITE CHESS |BISHOP ROTATED NINETY DEGREES|KNIGHT ROTATED NINETY DEGREES
1FA0E |WHITE CHESS PAWN ROTATED NINETY DEGREES|BLACK CHESS KING ROTATED NINETY DEGREES
1FA10 BLACK CHESS |QUEEN ROTATED NINETY DEGREES|ROOK ROTATED NINETY DEGREES
1FA12 BLACK CHESS |BISHOP ROTATED NINETY DEGREES|KNIGHT ROTATED NINETY DEGREES
1FA14 |BLACK CHESS PAWN ROTATED NINETY DEGREES|NEUTRAL CHESS KING ROTATED NINETY DEGREES
1FA16 NEUTRAL CHESS |QUEEN ROTATED NINETY DEGREES|ROOK ROTATED NINETY DEGREES
1FA18 NEUTRAL CHESS |BISHOP ROTATED NINETY DEGREES|KNIGHT ROTATED NINETY DEGREES
1FA1A |NEUTRAL CHESS PAWN ROTATED NINETY DEGREES
1FA1B |WHITE CHESS KNIGHT ROTATED ONE HUNDRED THIRTY-FIVE DEGREES
1FA1C |BLACK CHESS KNIGHT ROTATED ONE HUNDRED THIRTY-FIVE DEGREES
1FA1D |NEUTRAL CHESS KNIGHT ROTATED ONE HUNDRED THIRTY-FIVE DEGREES|WHITE CHESS TURNED KING
1FA1F WHITE CHESS TURNED |QUEEN|ROOK|BISHOP|KNIGHT|PAWN
1FA24 BLACK CHESS TURNED |KING|QUEEN|ROOK|BISHOP|KNIGHT|PAWN
1FA2A NEUTRAL CHESS TURNED |KING|QUEEN|ROOK|BISHOP|KNIGHT|PAWN
1FA30 |WHITE CHESS KNIGHT ROTATED TWO HUNDRED TWENTY-FIVE DEGREES
1FA31 |BLACK CHESS KNIGHT ROTATED TWO HUNDRED TWENTY-FIVE DEGREES
1FA32 |NEUTRAL CHESS KNIGHT ROTATED TWO HUNDRED TWENTY-FIVE DEGREES
1FA33 |WHITE CHESS KING ROTATED TWO HUNDRED SEVENTY DEGREES
1FA34 |WHITE CHESS QUEEN ROTATED TWO HUNDRED SEVENTY DEGREES
1FA35 |WHITE CHESS ROOK ROTATED TWO HUNDRED SEVENTY DEGREES
1FA36 |WHITE CHESS BISHOP ROTATED TWO HUNDRED SEVENTY DEGREES
1FA37 |WHITE CHESS KNIGHT ROTATED TWO HUNDRED SEVENTY DEGREES
1FA38 |WHITE CHESS PAWN ROTATED TWO HUNDRED SEVENTY DEGREES
1FA39 |BLACK CHESS KING ROTATED TWO HUNDRED SEVENTY DEGREES
1FA3A |BLACK CHESS QUEEN ROTATED TWO HUNDRED SEVENTY DEGREES
1FA3B |BLACK CHESS ROOK ROTATED TWO HUNDRED SEVENTY DEGREES
1FA3C |BLACK CHESS BISHOP ROTATED TWO HUNDRED SEVENTY DEGREES
1FA3D |BLACK CHESS KNIGHT ROTATED TWO HUNDRED SEVENTY DEGREES
1FA3E |BLACK CHESS PAWN ROTATED TWO HUNDRED SEVENTY DEGREES
1FA3F |NEUTRAL CHESS KING ROTATED TWO HUNDRED SEVENTY DEGREES
1FA40 |NEUTRAL CHESS QUEEN ROTATED TWO HUNDRED SEVENTY DEGREES
1FA41 |NEUTRAL CHESS ROOK ROTATED TWO HUNDRED SEVENTY DEGREES
1FA42 |NEUTRAL CHESS BISHOP ROTATED TWO HUNDRED SEVENTY DEGREES
1FA43 |NEUTRAL CHESS KNIGHT ROTATED TWO HUNDRED SEVENTY DEGREES
1FA44 |NEUTRAL CHESS PAWN ROTATED TWO HUNDRED SEVENTY DEGREES
1FA45 |WHITE CHESS KNIGHT ROTATED THREE HUNDRED FIFTEEN DEGREES
1FA46 |BLACK CHESS KNIGHT ROTATED THREE HUNDRED FIFTEEN DEGREES
1FA47 |NEUTRAL CHESS KNIGHT ROTATED THREE HUNDRED FIFTEEN DEGREES|WHITE CHESS EQUIHOPPER
1FA49 |BLACK CHESS EQUIHOPPER|NEUTRAL CHESS EQUIHOPPER
1FA4B |WHITE CHESS EQUIHOPPER ROTATED NINETY DEGREES|BLACK CHESS EQUIHOPPER ROTATED NINETY DEGREES
1FA4D |NEUTRAL CHESS EQUIHOPPER ROTATED NINETY DEGREES|WHITE CHESS KNIGHT-QUEEN
1FA4F |WHITE CHESS KNIGHT-ROOK|WHITE CHESS KNIGHT-BISHOP|BLACK CHESS KNIGHT-QUEEN
1FA52 BLACK CHESS |KNIGHT-ROOK|KNIGHT-BISHOP
1FA60 XIANGQI RED |GENERAL|MANDARIN|ELEPHANT|HORSE|CHARIOT|CANNON|SOLDIER
1FA67 XIANGQI BLACK |GENERAL|MANDARIN|ELEPHANT|HORSE|CHARIOT|CANNON|SOLDIER
1FA70 |BALLET SHOES|ONE-PIECE SWIMSUIT|BRIEFS|SHORTS|THONG SANDAL
1FA78 |DROP OF BLOOD|ADHESIVE BANDAGE|STETHOSCOPE|X-RAY|CRUTCH
1FA80 |YO-YO|KITE|PARACHUTE|BOOMERANG|MAGIC WAND|PINATA|NESTING DOLLS
1FA90 |RINGED PLANET|CHAIR|RAZOR|AXE|DIYA LAMP|BANJO|MILITARY HELMET|ACCORDION|LONG DRUM|COIN
1FA9A |CARPENTRY SAW|SCREWDRIVER|LADDER|HOOK|MIRROR|WINDOW|PLUNGER|SEWING NEEDLE|KNOT|BUCKET
1FAA4 |MOUSE TRAP|TOOTHBRUSH|HEADSTONE|PLACARD|ROCK|MIRROR BALL|IDENTIFICATION CARD|LOW BATTERY
1FAAC |HAMSA
1FAB0 |FLY|WORM|BEETLE|COCKROACH|POTTED PLANT|WOOD|FEATHER|LOTUS|CORAL|EMPTY NEST|NEST WITH EGGS
1FAC0 |ANATOMICAL HEART|LUNGS|PEOPLE HUGGING|PREGNANT MAN|PREGNANT PERSON|PERSON WITH CROWN
1FAD0 |BLUEBERRIES|BELL PEPPER|OLIVE|FLATBREAD|TAMALE|FONDUE|TEAPOT|POURING LIQUID|BEANS|JAR
1FAE0 |MELTING FACE|SALUTING FACE|FACE WITH OPEN EYES AND HAND OVER MOUTH|FACE WITH PEEKING EYE
1FAE4 |FACE WITH DIAGONAL MOUTH|DOTTED LINE FACE|BITING LIP|BUBBLES
1FAF0 |HAND WITH INDEX FINGER AND THUMB CROSSED|RIGHTWARDS HAND|LEFTWARDS HAND|PALM DOWN HAND
1FAF4 |PALM UP HAND|INDEX POINTING AT THE VIEWER|HEART HANDS
1FB00 BLOCK |SEXTANT-1|SEXTANT-2|SEXTANT-12|SEXTANT-3|SEXTANT-13|SEXTANT-23|SEXTANT-123|SEXTANT-4
1FB08 BLOCK |SEXTANT-14|SEXTANT-24|SEXTANT-124|SEXTANT-34|SEXTANT-134|SEXTANT-234|SEXTANT-1234
1FB0F BLOCK |SEXTANT-5|SEXTANT-15|SEXTANT-25|SEXTANT-125|SEXTANT-35|SEXTANT-235|SEXTANT-1235
1FB16 BLOCK |SEXTANT-45|SEXTANT-145|SEXTANT-245|SEXTANT-1245|SEXTANT-345|SEXTANT-1345|SEXTANT-2345
1FB1D BLOCK |SEXTANT-12345|SEXTANT-6|SEXTANT-16|SEXTANT-26|SEXTANT-126|SEXTANT-36|SEXTANT-136
1FB24 BLOCK |SEXTANT-236|SEXTANT-1236|SEXTANT-46|SEXTANT-146|SEXTANT-1246|SEXTANT-346|SEXTANT-1346
1FB2B BLOCK |SEXTANT-2346|SEXTANT-12346|SEXTANT-56|SEXTANT-156|SEXTANT-256|SEXTANT-1256
1FB31 BLOCK |SEXTANT-356|SEXTANT-1356|SEXTANT-2356|SEXTANT-12356|SEXTANT-456|SEXTANT-1456
1FB37 BLOCK |SEXTANT-2456|SEXTANT-12456|SEXTANT-3456|SEXTANT-13456|SEXTANT-23456
1FB3C LOWER LEFT BLOCK DIAGONAL LOWER MIDDLE LEFT TO LOWER |CENTRE|RIGHT
1FB3E LOWER LEFT BLOCK DIAGONAL UPPER MIDDLE LEFT TO LOWER |CENTRE|RIGHT
1FB40 |LOWER LEFT BLOCK DIAGONAL UPPER LEFT TO LOWER CENTRE
1FB41 LOWER RIGHT BLOCK DIAGONAL UPPER MIDDLE LEFT TO UPPER |CENTRE|RIGHT
1FB43 LOWER RIGHT BLOCK DIAGONAL LOWER MIDDLE LEFT TO UPPER |CENTRE|RIGHT
1FB45 LOWER RIGHT BLOCK DIAGONAL LOWER |LEFT TO UPPER CENTRE|MIDDLE LEFT TO UPPER MIDDLE RIGHT
1FB47 LOWER RIGHT BLOCK DIAGONAL LOWER |CENTRE TO LOWER MIDDLE RIGHT|LEFT TO LOWER MIDDLE RIGHT
1FB49 LOWER RIGHT BLOCK DIAGONAL LOWER |CENTRE TO UPPER MIDDLE RIGHT|LEFT TO UPPER MIDDLE RIGHT
1FB4B |LOWER RIGHT BLOCK DIAGONAL LOWER CENTRE TO UPPER RIGHT
1FB4C LOWER LEFT BLOCK DIAGONAL UPPER |CENTRE TO UPPER MIDDLE RIGHT|LEFT TO UPPER MIDDLE RIGHT
1FB4E LOWER LEFT BLOCK DIAGONAL UPPER |CENTRE TO LOWER MIDDLE RIGHT|LEFT TO LOWER MIDDLE RIGHT
1FB50 LOWER LEFT BLOCK DIAGONAL UPPER |CENTRE TO LOWER RIGHT|MIDDLE LEFT TO LOWER MIDDLE RIGHT
1FB52 UPPER RIGHT BLOCK DIAGONAL LOWER MIDDLE LEFT TO LOWER |CENTRE|RIGHT
1FB54 UPPER RIGHT BLOCK DIAGONAL UPPER MIDDLE LEFT TO LOWER |CENTRE|RIGHT
1FB56 |UPPER RIGHT BLOCK DIAGONAL UPPER LEFT TO LOWER CENTRE
1FB57 UPPER LEFT BLOCK DIAGONAL UPPER MIDDLE LEFT TO UPPER |CENTRE|RIGHT
1FB59 UPPER LEFT BLOCK DIAGONAL LOWER MIDDLE LEFT TO UPPER |CENTRE|RIGHT
1FB5B UPPER LEFT BLOCK DIAGONAL LOWER |LEFT TO UPPER CENTRE|MIDDLE LEFT TO UPPER MIDDLE RIGHT
1FB5D UPPER LEFT BLOCK DIAGONAL LOWER |CENTRE TO LOWER MIDDLE RIGHT|LEFT TO LOWER MIDDLE RIGHT
1FB5F UPPER LEFT BLOCK DIAGONAL LOWER |CENTRE TO UPPER MIDDLE RIGHT|LEFT TO UPPER MIDDLE RIGHT
1FB61 |UPPER LEFT BLOCK DIAGONAL LOWER CENTRE TO UPPER RIGHT
1FB62 UPPER RIGHT BLOCK DIAGONAL UPPER |CENTRE TO UPPER MIDDLE RIGHT|LEFT TO UPPER MIDDLE RIGHT
1FB64 UPPER RIGHT BLOCK DIAGONAL UPPER |CENTRE TO LOWER MIDDLE RIGHT|LEFT TO LOWER MIDDLE RIGHT
1FB66 UPPER RIGHT BLOCK DIAGONAL UPPER |CENTRE TO LOWER RIGHT|MIDDLE LEFT TO LOWER MIDDLE RIGHT
1FB68 |UPPER AND RIGHT AND LOWER TRIANGULAR THREE QUARTERS BLOCK
1FB69 |LEFT AND LOWER AND RIGHT TRIANGULAR THREE QUARTERS BLOCK
1FB6A |UPPER AND LEFT AND LOWER TRIANGULAR THREE QUARTERS BLOCK
1FB6B LEFT |AND UPPER AND RIGHT TRIANGULAR THREE QUARTERS BLOCK|TRIANGULAR ONE QUARTER BLOCK
1FB6D |UPPER TRIANGULAR ONE QUARTER BLOCK|RIGHT TRIANGULAR ONE QUARTER BLOCK
1FB6F |LOWER TRIANGULAR ONE QUARTER BLOCK|VERTICAL ONE EIGHTH BLOCK-2|VERTICAL ONE EIGHTH BLOCK-3
1FB72 VERTICAL ONE EIGHTH |BLOCK-4|BLOCK-5|BLOCK-6|BLOCK-7
1FB76 HORIZONTAL ONE EIGHTH |BLOCK-2|BLOCK-3|BLOCK-4|BLOCK-5|BLOCK-6|BLOCK-7
1FB7C LEFT AND |LOWER ONE EIGHTH BLOCK|UPPER ONE EIGHTH BLOCK
1FB7E RIGHT AND |UPPER ONE EIGHTH BLOCK|LOWER ONE EIGHTH BLOCK
1FB80 |UPPER AND LOWER ONE EIGHTH BLOCK|HORIZONTAL ONE EIGHTH BLOCK-1358|UPPER ONE QUARTER BLOCK
1FB83 UPPER |THREE EIGHTHS BLOCK|FIVE EIGHTHS BLOCK|THREE QUARTERS BLOCK|SEVEN EIGHTHS BLOCK
1FB87 RIGHT |ONE QUARTER BLOCK|THREE EIGHTHS BLOCK|FIVE EIGHTHS BLOCK|THREE QUARTERS BLOCK
1FB8B |RIGHT SEVEN EIGHTHS BLOCK|LEFT HALF MEDIUM SHADE|RIGHT HALF MEDIUM SHADE
1FB8E |UPPER HALF MEDIUM SHADE|LOWER HALF MEDIUM SHADE|INVERSE MEDIUM SHADE
1FB91 |UPPER HALF BLOCK AND LOWER HALF INVERSE MEDIUM SHADE
1FB92 |UPPER HALF INVERSE MEDIUM SHADE AND LOWER HALF BLOCK
1FB94 |LEFT HALF INVERSE MEDIUM SHADE AND RIGHT HALF BLOCK|CHECKER BOARD FILL
1FB96 |INVERSE CHECKER BOARD FILL|HEAVY HORIZONTAL FILL|UPPER LEFT TO LOWER RIGHT FILL
1FB99 UPPER |RIGHT TO LOWER LEFT FILL|AND LOWER TRIANGULAR HALF BLOCK
1FB9B |LEFT AND RIGHT TRIANGULAR HALF BLOCK|UPPER LEFT TRIANGULAR MEDIUM SHADE
1FB9D |UPPER RIGHT TRIANGULAR MEDIUM SHADE|LOWER RIGHT TRIANGULAR MEDIUM SHADE
1FB9F |LOWER LEFT TRIANGULAR MEDIUM SHADE|BOX DRAWINGS LIGHT DIAGONAL UPPER CENTRE TO MIDDLE LEFT
1FBA1 BOX DRAWINGS LIGHT DIAGONAL |UPPER CENTRE TO MIDDLE RIGHT|MIDDLE LEFT TO LOWER CENTRE
1FBA3 |BOX DRAWINGS LIGHT DIAGONAL MIDDLE RIGHT TO LOWER CENTRE
1FBA4 |BOX DRAWINGS LIGHT DIAGONAL UPPER CENTRE TO MIDDLE LEFT TO LOWER CENTRE
1FBA5 |BOX DRAWINGS LIGHT DIAGONAL UPPER CENTRE TO MIDDLE RIGHT TO LOWER CENTRE
1FBA6 |BOX DRAWINGS LIGHT DIAGONAL MIDDLE LEFT TO LOWER CENTRE TO MIDDLE RIGHT
1FBA7 |BOX DRAWINGS LIGHT DIAGONAL MIDDLE LEFT TO UPPER CENTRE TO MIDDLE RIGHT
1FBA8 |BOX DRAWINGS LIGHT DIAGONAL UPPER CENTRE TO MIDDLE LEFT AND MIDDLE RIGHT TO LOWER CENTRE
1FBA9 |BOX DRAWINGS LIGHT DIAGONAL UPPER CENTRE TO MIDDLE RIGHT AND MIDDLE LEFT TO LOWER CENTRE
1FBAA |BOX DRAWINGS LIGHT DIAGONAL UPPER CENTRE TO MIDDLE RIGHT TO LOWER CENTRE TO MIDDLE LEFT
1FBAB |BOX DRAWINGS LIGHT DIAGONAL UPPER CENTRE TO MIDDLE LEFT TO LOWER CENTRE TO MIDDLE RIGHT
1FBAC |BOX DRAWINGS LIGHT DIAGONAL MIDDLE LEFT TO UPPER CENTRE TO MIDDLE RIGHT TO LOWER CENTRE
1FBAD |BOX DRAWINGS LIGHT DIAGONAL MIDDLE RIGHT TO UPPER CENTRE TO MIDDLE LEFT TO LOWER CENTRE
1FBAE BOX DRAWINGS LIGHT |DIAGONAL DIAMOND|HORIZONTAL WITH VERTICAL STROKE
1FBB0 |ARROWHEAD-SHAPED POINTER|INVERSE CHECK MARK|LEFT HALF RUNNING MAN|RIGHT HALF RUNNING MAN
1FBB4 |INVERSE DOWNWARDS ARROW WITH TIP LEFTWARDS
1FBB5 |LEFTWARDS ARROW AND UPPER AND LOWER ONE EIGHTH BLOCK
1FBB6 |RIGHTWARDS ARROW AND UPPER AND LOWER ONE EIGHTH BLOCK
1FBB7 |DOWNWARDS ARROW AND RIGHT ONE EIGHTH BLOCK|UPWARDS ARROW AND RIGHT ONE EIGHTH BLOCK
1FBB9 |LEFT HALF FOLDER|RIGHT HALF FOLDER|VOIDED GREEK CROSS|RIGHT OPEN SQUARED DOT
1FBBD NEGATIVE DIAGONAL |CROSS|MIDDLE RIGHT TO LOWER CENTRE|DIAMOND
1FBC0 |WHITE HEAVY SALTIRE WITH ROUNDED CORNERS|LEFT THIRD WHITE RIGHT POINTING INDEX
1FBC2 |MIDDLE THIRD WHITE RIGHT POINTING INDEX|RIGHT THIRD WHITE RIGHT POINTING INDEX
1FBC4 |NEGATIVE SQUARED QUESTION MARK|STICK FIGURE|STICK FIGURE WITH ARMS RAISED
1FBC7 STICK FIGURE |LEANING LEFT|LEANING RIGHT|WITH DRESS
1FBCA |WHITE UP-POINTING CHEVRON
1FBF0 SEGMENTED DIGIT |ZERO|ONE|TWO|THREE|FOUR|FIVE|SIX|SEVEN|EIGHT|NINE
2F800 CJK COMPATIBILITY |IDEOGRAPH-2F800|IDEOGRAPH-2F801|IDEOGRAPH-2F802|IDEOGRAPH-2F803
2F804 CJK COMPATIBILITY |IDEOGRAPH-2F804|IDEOGRAPH-2F805|IDEOGRAPH-2F806|IDEOGRAPH-2F807
2F808 CJK COMPATIBILITY |IDEOGRAPH-2F808|IDEOGRAPH-2F809|IDEOGRAPH-2F80A|IDEOGRAPH-2F80B
2F80C CJK COMPATIBILITY |IDEOGRAPH-2F80C|IDEOGRAPH-2F80D|IDEOGRAPH-2F80E|IDEOGRAPH-2F80F
2F810 CJK COMPATIBILITY |IDEOGRAPH-2F810|IDEOGRAPH-2F811|IDEOGRAPH-2F812|IDEOGRAPH-2F813
2F814 CJK COMPATIBILITY |IDEOGRAPH-2F814|IDEOGRAPH-2F815|IDEOGRAPH-2F816|IDEOGRAPH-2F817
2F818 CJK COMPATIBILITY |IDEOGRAPH-2F818|IDEOGRAPH-2F819|IDEOGRAPH-2F81A|IDEOGRAPH-2F81B
2F81C CJK COMPATIBILITY |IDEOGRAPH-2F81C|IDEOGRAPH-2F81D|IDEOGRAPH-2F81E|IDEOGRAPH-2F81F
2F820 CJK COMPATIBILITY |IDEOGRAPH-2F820|IDEOGRAPH-2F821|IDEOGRAPH-2F822|IDEOGRAPH-2F823
2F824 CJK COMPATIBILITY |IDEOGRAPH-2F824|IDEOGRAPH-2F825|IDEOGRAPH-2F826|IDEOGRAPH-2F827
2F828 CJK COMPATIBILITY |IDEOGRAPH-2F828|IDEOGRAPH-2F829|IDEOGRAPH-2F82A|IDEOGRAPH-2F82B
2F82C CJK COMPATIBILITY |IDEOGRAPH-2F82C|IDEOGRAPH-2F82D|IDEOGRAPH-2F82E|IDEOGRAPH-2F82F
2F830 CJK COMPATIBILITY |IDEOGRAPH-2F830|IDEOGRAPH-2F831|IDEOGRAPH-2F832|IDEOGRAPH-2F833
2F834 CJK COMPATIBILITY |IDEOGRAPH-2F834|IDEOGRAPH-2F835|IDEOGRAPH-2F836|IDEOGRAPH-2F837
2F838 CJK COMPATIBILITY |IDEOGRAPH-2F838|IDEOGRAPH-2F839|IDEOGRAPH-2F83A|IDEOGRAPH-2F83B
2F83C CJK COMPATIBILITY |IDEOGRAPH-2F83C|IDEOGRAPH-2F83D|IDEOGRAPH-2F83E|IDEOGRAPH-2F83F
2F840 CJK COMPATIBILITY |IDEOGRAPH-2F840|IDEOGRAPH-2F841|IDEOGRAPH-2F842|IDEOGRAPH-2F843
2F844 CJK COMPATIBILITY |IDEOGRAPH-2F844|IDEOGRAPH-2F845|IDEOGRAPH-2F846|IDEOGRAPH-2F847
2F848 CJK COMPATIBILITY |IDEOGRAPH-2F848|IDEOGRAPH-2F849|IDEOGRAPH-2F84A|IDEOGRAPH-2F84B
2F84C CJK COMPATIBILITY |IDEOGRAPH-2F84C|IDEOGRAPH-2F84D|IDEOGRAPH-2F84E|IDEOGRAPH-2F84F
2F850 CJK COMPATIBILITY |IDEOGRAPH-2F850|IDEOGRAPH-2F851|IDEOGRAPH-2F852|IDEOGRAPH-2F853
2F854 CJK COMPATIBILITY |IDEOGRAPH-2F854|IDEOGRAPH-2F855|IDEOGRAPH-2F856|IDEOGRAPH-2F857
2F858 CJK COMPATIBILITY |IDEOGRAPH-2F858|IDEOGRAPH-2F859|IDEOGRAPH-2F85A|IDEOGRAPH-2F85B
2F85C CJK COMPATIBILITY |IDEOGRAPH-2F85C|IDEOGRAPH-2F85D|IDEOGRAPH-2F85E|IDEOGRAPH-2F85F
2F860 CJK COMPATIBILITY |IDEOGRAPH-2F860|IDEOGRAPH-2F861|IDEOGRAPH-2F862|IDEOGRAPH-2F863
2F864 CJK COMPATIBILITY |IDEOGRAPH-2F864|IDEOGRAPH-2F865|IDEOGRAPH-2F866|IDEOGRAPH-2F867
2F868 CJK COMPATIBILITY |IDEOGRAPH-2F868|IDEOGRAPH-2F869|IDEOGRAPH-2F86A|IDEOGRAPH-2F86B
2F86C CJK COMPATIBILITY |IDEOGRAPH-2F86C|IDEOGRAPH-2F86D|IDEOGRAPH-2F86E|IDEOGRAPH-2F86F
2F870 CJK COMPATIBILITY |IDEOGRAPH-2F870|IDEOGRAPH-2F871|IDEOGRAPH-2F872|IDEOGRAPH-2F873
2F874 CJK COMPATIBILITY |IDEOGRAPH-2F874|IDEOGRAPH-2F875|IDEOGRAPH-2F876|IDEOGRAPH-2F877
2F878 CJK COMPATIBILITY |IDEOGRAPH-2F878|IDEOGRAPH-2F879|IDEOGRAPH-2F87A|IDEOGRAPH-2F87B
2F87C CJK COMPATIBILITY |IDEOGRAPH-2F87C|IDEOGRAPH-2F87D|IDEOGRAPH-2F87E|IDEOGRAPH-2F87F
2F880 CJK COMPATIBILITY |IDEOGRAPH-2F880|IDEOGRAPH-2F881|IDEOGRAPH-2F882|IDEOGRAPH-2F883
2F884 CJK COMPATIBILITY |IDEOGRAPH-2F884|IDEOGRAPH-2F885|IDEOGRAPH-2F886|IDEOGRAPH-2F887
2F888 CJK COMPATIBILITY |IDEOGRAPH-2F888|IDEOGRAPH-2F889|IDEOGRAPH-2F88A|IDEOGRAPH-2F88B
2F88C CJK COMPATIBILITY |IDEOGRAPH-2F88C|IDEOGRAPH-2F88D|IDEOGRAPH-2F88E|IDEOGRAPH-2F88F
2F890 CJK COMPATIBILITY |IDEOGRAPH-2F890|IDEOGRAPH-2F891|IDEOGRAPH-2F892|IDEOGRAPH-2F893
2F894 CJK COMPATIBILITY |IDEOGRAPH-2F894|IDEOGRAPH-2F895|IDEOGRAPH-2F896|IDEOGRAPH-2F897
2F898 CJK COMPATIBILITY |IDEOGRAPH-2F898|IDEOGRAPH-2F899|IDEOGRAPH-2F89A|IDEOGRAPH-2F89B
2F89C CJK COMPATIBILITY |IDEOGRAPH-2F89C|IDEOGRAPH-2F89D|IDEOGRAPH-2F89E|IDEOGRAPH-2F89F
2F8A0 CJK COMPATIBILITY |IDEOGRAPH-2F8A0|IDEOGRAPH-2F8A1|IDEOGRAPH-2F8A2|IDEOGRAPH-2F8A3
2F8A4 CJK COMPATIBILITY |IDEOGRAPH-2F8A4|IDEOGRAPH-2F8A5|IDEOGRAPH-2F8A6|IDEOGRAPH-2F8A7
2F8A8 CJK COMPATIBILITY |IDEOGRAPH-2F8A8|IDEOGRAPH-2F8A9|IDEOGRAPH-2F8AA|IDEOGRAPH-2F8AB
2F8AC CJK COMPATIBILITY |IDEOGRAPH-2F8AC|IDEOGRAPH-2F8AD|IDEOGRAPH-2F8AE|IDEOGRAPH-2F8AF
2F8B0 CJK COMPATIBILITY |IDEOGRAPH-2F8B0|IDEOGRAPH-2F8B1|IDEOGRAPH-2F8B2|IDEOGRAPH-2F8B3
2F8B4 CJK COMPATIBILITY |IDEOGRAPH-2F8B4|IDEOGRAPH-2F8B5|IDEOGRAPH-2F8B6|IDEOGRAPH-2F8B7
2F8B8 CJK COMPATIBILITY |IDEOGRAPH-2F8B8|IDEOGRAPH-2F8B9|IDEOGRAPH-2F8BA|IDEOGRAPH-2F8BB
2F8BC CJK COMPATIBILITY |IDEOGRAPH-2F8BC|IDEOGRAPH-2F8BD|IDEOGRAPH-2F8BE|IDEOGRAPH-2F8BF
2F8C0 CJK COMPATIBILITY |IDEOGRAPH-2F8C0|IDEOGRAPH-2F8C1|IDEOGRAPH-2F8C2|IDEOGRAPH-2F8C3
2F8C4 CJK COMPATIBILITY |IDEOGRAPH-2F8C4|IDEOGRAPH-2F8C5|IDEOGRAPH-2F8C6|IDEOGRAPH-2F8C7
2F8C8 CJK COMPATIBILITY |IDEOGRAPH-2F8C8|IDEOGRAPH-2F8C9|IDEOGRAPH-2F8CA|IDEOGRAPH-2F8CB
2F8CC CJK COMPATIBILITY |IDEOGRAPH-2F8CC|IDEOGRAPH-2F8CD|IDEOGRAPH-2F8CE|IDEOGRAPH-2F8CF
2F8D0 CJK COMPATIBILITY |IDEOGRAPH-2F8D0|IDEOGRAPH-2F8D1|IDEOGRAPH-2F8D2|IDEOGRAPH-2F8D3
2F8D4 CJK COMPATIBILITY |IDEOGRAPH-2F8D4|IDEOGRAPH-2F8D5|IDEOGRAPH-2F8D6|IDEOGRAPH-2F8D7
2F8D8 CJK COMPATIBILITY |IDEOGRAPH-2F8D8|IDEOGRAPH-2F8D9|IDEOGRAPH-2F8DA|IDEOGRAPH-2F8DB
2F8DC CJK COMPATIBILITY |IDEOGRAPH-2F8DC|IDEOGRAPH-2F8DD|IDEOGRAPH-2F8DE|IDEOGRAPH-2F8DF
2F8E0 CJK COMPATIBILITY |IDEOGRAPH-2F8E0|IDEOGRAPH-2F8E1|IDEOGRAPH-2F8E2|IDEOGRAPH-2F8E3
2F8E4 CJK COMPATIBILITY |IDEOGRAPH-2F8E4|IDEOGRAPH-2F8E5|IDEOGRAPH-2F8E6|IDEOGRAPH-2F8E7
2F8E8 CJK COMPATIBILITY |IDEOGRAPH-2F8E8|IDEOGRAPH-2F8E9|IDEOGRAPH-2F8EA|IDEOGRAPH-2F8EB
2F8EC CJK COMPATIBILITY |IDEOGRAPH-2F8EC|IDEOGRAPH-2F8ED|IDEOGRAPH-2F8EE|IDEOGRAPH-2F8EF
2F8F0 CJK COMPATIBILITY |IDEOGRAPH-2F8F0|IDEOGRAPH-2F8F1|IDEOGRAPH-2F8F2|IDEOGRAPH-2F8F3
2F8F4 CJK COMPATIBILITY |IDEOGRAPH-2F8F4|IDEOGRAPH-2F8F5|IDEOGRAPH-2F8F6|IDEOGRAPH-2F8F7
2F8F8 CJK COMPATIBILITY |IDEOGRAPH-2F8F8|IDEOGRAPH-2F8F9|IDEOGRAPH-2F8FA|IDEOGRAPH-2F8FB
2F8FC CJK COMPATIBILITY |IDEOGRAPH-2F8FC|IDEOGRAPH-2F8FD|IDEOGRAPH-2F8FE|IDEOGRAPH-2F8FF
2F900 CJK COMPATIBILITY |IDEOGRAPH-2F900|IDEOGRAPH-2F901|IDEOGRAPH-2F902|IDEOGRAPH-2F903
2F904 CJK COMPATIBILITY |IDEOGRAPH-2F904|IDEOGRAPH-2F905|IDEOGRAPH-2F906|IDEOGRAPH-2F907
2F908 CJK COMPATIBILITY |IDEOGRAPH-2F908|IDEOGRAPH-2F909|IDEOGRAPH-2F90A|IDEOGRAPH-2F90B
2F90C CJK COMPATIBILITY |IDEOGRAPH-2F90C|IDEOGRAPH-2F90D|IDEOGRAPH-2F90E|IDEOGRAPH-2F90F
2F910 CJK COMPATIBILITY |IDEOGRAPH-2F910|IDEOGRAPH-2F911|IDEOGRAPH-2F912|IDEOGRAPH-2F913
2F914 CJK COMPATIBILITY |IDEOGRAPH-2F914|IDEOGRAPH-2F915|IDEOGRAPH-2F916|IDEOGRAPH-2F917
2F918 CJK COMPATIBILITY |IDEOGRAPH-2F918|IDEOGRAPH-2F919|IDEOGRAPH-2F91A|IDEOGRAPH-2F91B
2F91C CJK COMPATIBILITY |IDEOGRAPH-2F91C|IDEOGRAPH-2F91D|IDEOGRAPH-2F91E|IDEOGRAPH-2F91F
2F920 CJK COMPATIBILITY |IDEOGRAPH-2F920|IDEOGRAPH-2F921|IDEOGRAPH-2F922|IDEOGRAPH-2F923
2F924 CJK COMPATIBILITY |IDEOGRAPH-2F924|IDEOGRAPH-2F925|IDEOGRAPH-2F926|IDEOGRAPH-2F927
2F928 CJK COMPATIBILITY |IDEOGRAPH-2F928|IDEOGRAPH-2F929|IDEOGRAPH-2F92A|IDEOGRAPH-2F92B
2F92C CJK COMPATIBILITY |IDEOGRAPH-2F92C|IDEOGRAPH-2F92D|IDEOGRAPH-2F92E|IDEOGRAPH-2F92F
2F930 CJK COMPATIBILITY |IDEOGRAPH-2F930|IDEOGRAPH-2F931|IDEOGRAPH-2F932|IDEOGRAPH-2F933
2F934 CJK COMPATIBILITY |IDEOGRAPH-2F934|IDEOGRAPH-2F935|IDEOGRAPH-2F936|IDEOGRAPH-2F937
2F938 CJK COMPATIBILITY |IDEOGRAPH-2F938|IDEOGRAPH-2F939|IDEOGRAPH-2F93A|IDEOGRAPH-2F93B
2F93C CJK COMPATIBILITY |IDEOGRAPH-2F93C|IDEOGRAPH-2F93D|IDEOGRAPH-2F93E|IDEOGRAPH-2F93F
2F940 CJK COMPATIBILITY |IDEOGRAPH-2F940|IDEOGRAPH-2F941|IDEOGRAPH-2F942|IDEOGRAPH-2F943
2F944 CJK COMPATIBILITY |IDEOGRAPH-2F944|IDEOGRAPH-2F945|IDEOGRAPH-2F946|IDEOGRAPH-2F947
2F948 CJK COMPATIBILITY |IDEOGRAPH-2F948|IDEOGRAPH-2F949|IDEOGRAPH-2F94A|IDEOGRAPH-2F94B
2F94C CJK COMPATIBILITY |IDEOGRAPH-2F94C|IDEOGRAPH-2F94D|IDEOGRAPH-2F94E|IDEOGRAPH-2F94F
2F950 CJK COMPATIBILITY |IDEOGRAPH-2F950|IDEOGRAPH-2F951|IDEOGRAPH-2F952|IDEOGRAPH-2F953
2F954 CJK COMPATIBILITY |IDEOGRAPH-2F954|IDEOGRAPH-2F955|IDEOGRAPH-2F956|IDEOGRAPH-2F957
2F958 CJK COMPATIBILITY |IDEOGRAPH-2F958|IDEOGRAPH-2F959|IDEOGRAPH-2F95A|IDEOGRAPH-2F95B
2F95C CJK COMPATIBILITY |IDEOGRAPH-2F95C|IDEOGRAPH-2F95D|IDEOGRAPH-2F95E|IDEOGRAPH-2F95F
2F960 CJK COMPATIBILITY |IDEOGRAPH-2F960|IDEOGRAPH-2F961|IDEOGRAPH-2F962|IDEOGRAPH-2F963
2F964 CJK COMPATIBILITY |IDEOGRAPH-2F964|IDEOGRAPH-2F965|IDEOGRAPH-2F966|IDEOGRAPH-2F967
2F968 CJK COMPATIBILITY |IDEOGRAPH-2F968|IDEOGRAPH-2F969|IDEOGRAPH-2F96A|IDEOGRAPH-2F96B
2F96C CJK COMPATIBILITY |IDEOGRAPH-2F96C|IDEOGRAPH-2F96D|IDEOGRAPH-2F96E|IDEOGRAPH-2F96F
2F970 CJK COMPATIBILITY |IDEOGRAPH-2F970|IDEOGRAPH-2F971|IDEOGRAPH-2F972|IDEOGRAPH-2F973
2F974 CJK COMPATIBILITY |IDEOGRAPH-2F974|IDEOGRAPH-2F975|IDEOGRAPH-2F976|IDEOGRAPH-2F977
2F978 CJK COMPATIBILITY |IDEOGRAPH-2F978|IDEOGRAPH-2F979|IDEOGRAPH-2F97A|IDEOGRAPH-2F97B
2F97C CJK COMPATIBILITY |IDEOGRAPH-2F97C|IDEOGRAPH-2F97D|IDEOGRAPH-2F97E|IDEOGRAPH-2F97F
2F980 CJK COMPATIBILITY |IDEOGRAPH-2F980|IDEOGRAPH-2F981|IDEOGRAPH-2F982|IDEOGRAPH-2F983
2F984 CJK COMPATIBILITY |IDEOGRAPH-2F984|IDEOGRAPH-2F985|IDEOGRAPH-2F986|IDEOGRAPH-2F987
2F988 CJK COMPATIBILITY |IDEOGRAPH-2F988|IDEOGRAPH-2F989|IDEOGRAPH-2F98A|IDEOGRAPH-2F98B
2F98C CJK COMPATIBILITY |IDEOGRAPH-2F98C|IDEOGRAPH-2F98D|IDEOGRAPH-2F98E|IDEOGRAPH-2F98F
2F990 CJK COMPATIBILITY |IDEOGRAPH-2F990|IDEOGRAPH-2F991|IDEOGRAPH-2F992|IDEOGRAPH-2F993
2F994 CJK COMPATIBILITY |IDEOGRAPH-2F994|IDEOGRAPH-2F995|IDEOGRAPH-2F996|IDEOGRAPH-2F997
2F998 CJK COMPATIBILITY |IDEOGRAPH-2F998|IDEOGRAPH-2F999|IDEOGRAPH-2F99A|IDEOGRAPH-2F99B
2F99C CJK COMPATIBILITY |IDEOGRAPH-2F99C|IDEOGRAPH-2F99D|IDEOGRAPH-2F99E|IDEOGRAPH-2F99F
2F9A0 CJK COMPATIBILITY |IDEOGRAPH-2F9A0|IDEOGRAPH-2F9A1|IDEOGRAPH-2F9A2|IDEOGRAPH-2F9A3
2F9A4 CJK COMPATIBILITY |IDEOGRAPH-2F9A4|IDEOGRAPH-2F9A5|IDEOGRAPH-2F9A6|IDEOGRAPH-2F9A7
2F9A8 CJK COMPATIBILITY |IDEOGRAPH-2F9A8|IDEOGRAPH-2F9A9|IDEOGRAPH-2F9AA|IDEOGRAPH-2F9AB
2F9AC CJK COMPATIBILITY |IDEOGRAPH-2F9AC|IDEOGRAPH-2F9AD|IDEOGRAPH-2F9AE|IDEOGRAPH-2F9AF
2F9B0 CJK COMPATIBILITY |IDEOGRAPH-2F9B0|IDEOGRAPH-2F9B1|IDEOGRAPH-2F9B2|IDEOGRAPH-2F9B3
2F9B4 CJK COMPATIBILITY |IDEOGRAPH-2F9B4|IDEOGRAPH-2F9B5|IDEOGRAPH-2F9B6|IDEOGRAPH-2F9B7
2F9B8 CJK COMPATIBILITY |IDEOGRAPH-2F9B8|IDEOGRAPH-2F9B9|IDEOGRAPH-2F9BA|IDEOGRAPH-2F9BB
2F9BC CJK COMPATIBILITY |IDEOGRAPH-2F9BC|IDEOGRAPH-2F9BD|IDEOGRAPH-2F9BE|IDEOGRAPH-2F9BF
2F9C0 CJK COMPATIBILITY |IDEOGRAPH-2F9C0|IDEOGRAPH-2F9C1|IDEOGRAPH-2F9C2|IDEOGRAPH-2F9C3
2F9C4 CJK COMPATIBILITY |IDEOGRAPH-2F9C4|IDEOGRAPH-2F9C5|IDEOGRAPH-2F9C6|IDEOGRAPH-2F9C7
2F9C8 CJK COMPATIBILITY |IDEOGRAPH-2F9C8|IDEOGRAPH-2F9C9|IDEOGRAPH-2F9CA|IDEOGRAPH-2F9CB
2F9CC CJK COMPATIBILITY |IDEOGRAPH-2F9CC|IDEOGRAPH-2F9CD|IDEOGRAPH-2F9CE|IDEOGRAPH-2F9CF
2F9D0 CJK COMPATIBILITY |IDEOGRAPH-2F9D0|IDEOGRAPH-2F9D1|IDEOGRAPH-2F9D2|IDEOGRAPH-2F9D3
2F9D4 CJK COMPATIBILITY |IDEOGRAPH-2F9D4|IDEOGRAPH-2F9D5|IDEOGRAPH-2F9D6|IDEOGRAPH-2F9D7
2F9D8 CJK COMPATIBILITY |IDEOGRAPH-2F9D8|IDEOGRAPH-2F9D9|IDEOGRAPH-2F9DA|IDEOGRAPH-2F9DB
2F9DC CJK COMPATIBILITY |IDEOGRAPH-2F9DC|IDEOGRAPH-2F9DD|IDEOGRAPH-2F9DE|IDEOGRAPH-2F9DF
2F9E0 CJK COMPATIBILITY |IDEOGRAPH-2F9E0|IDEOGRAPH-2F9E1|IDEOGRAPH-2F9E2|IDEOGRAPH-2F9E3
2F9E4 CJK COMPATIBILITY |IDEOGRAPH-2F9E4|IDEOGRAPH-2F9E5|IDEOGRAPH-2F9E6|IDEOGRAPH-2F9E7
2F9E8 CJK COMPATIBILITY |IDEOGRAPH-2F9E8|IDEOGRAPH-2F9E9|IDEOGRAPH-2F9EA|IDEOGRAPH-2F9EB
2F9EC CJK COMPATIBILITY |IDEOGRAPH-2F9EC|IDEOGRAPH-2F9ED|IDEOGRAPH-2F9EE|IDEOGRAPH-2F9EF
2F9F0 CJK COMPATIBILITY |IDEOGRAPH-2F9F0|IDEOGRAPH-2F9F1|IDEOGRAPH-2F9F2|IDEOGRAPH-2F9F3
2F9F4 CJK COMPATIBILITY |IDEOGRAPH-2F9F4|IDEOGRAPH-2F9F5|IDEOGRAPH-2F9F6|IDEOGRAPH-2F9F7
2F9F8 CJK COMPATIBILITY |IDEOGRAPH-2F9F8|IDEOGRAPH-2F9F9|IDEOGRAPH-2F9FA|IDEOGRAPH-2F9FB
2F9FC CJK COMPATIBILITY |IDEOGRAPH-2F9FC|IDEOGRAPH-2F9FD|IDEOGRAPH-2F9FE|IDEOGRAPH-2F9FF
2FA00 CJK COMPATIBILITY |IDEOGRAPH-2FA00|IDEOGRAPH-2FA01|IDEOGRAPH-2FA02|IDEOGRAPH-2FA03
2FA04 CJK COMPATIBILITY |IDEOGRAPH-2FA04|IDEOGRAPH-2FA05|IDEOGRAPH-2FA06|IDEOGRAPH-2FA07
2FA08 CJK COMPATIBILITY |IDEOGRAPH-2FA08|IDEOGRAPH-2FA09|IDEOGRAPH-2FA0A|IDEOGRAPH-2FA0B
2FA0C CJK COMPATIBILITY |IDEOGRAPH-2FA0C|IDEOGRAPH-2FA0D|IDEOGRAPH-2FA0E|IDEOGRAPH-2FA0F
2FA10 CJK COMPATIBILITY |IDEOGRAPH-2FA10|IDEOGRAPH-2FA11|IDEOGRAPH-2FA12|IDEOGRAPH-2FA13
2FA14 CJK COMPATIBILITY |IDEOGRAPH-2FA14|IDEOGRAPH-2FA15|IDEOGRAPH-2FA16|IDEOGRAPH-2FA17
2FA18 CJK COMPATIBILITY |IDEOGRAPH-2FA18|IDEOGRAPH-2FA19|IDEOGRAPH-2FA1A|IDEOGRAPH-2FA1B
2FA1C CJK COMPATIBILITY |IDEOGRAPH-2FA1C|IDEOGRAPH-2FA1D
E0001 |LANGUAGE TAG
E0020 TAG |SPACE|EXCLAMATION MARK|QUOTATION MARK|NUMBER SIGN|DOLLAR SIGN|PERCENT SIGN|AMPERSAND
E0027 TAG |APOSTROPHE|LEFT PARENTHESIS|RIGHT PARENTHESIS|ASTERISK|PLUS SIGN|COMMA|HYPHEN-MINUS
E002E TAG |FULL STOP|SOLIDUS|DIGIT ZERO|DIGIT ONE|DIGIT TWO|DIGIT THREE|DIGIT FOUR|DIGIT FIVE
E0036 TAG |DIGIT SIX|DIGIT SEVEN|DIGIT EIGHT|DIGIT NINE|COLON|SEMICOLON|LESS-THAN SIGN|EQUALS SIGN
E003E TAG |GREATER-THAN SIGN|QUESTION MARK|COMMERCIAL AT|LATIN CAPITAL LETTER A
E0042 TAG LATIN CAPITAL LETTER |B|C|D|E|F|G|H|I|J|K|L|M|N|O|P|Q|R|S|T|U|V|W|X|Y|Z
E005B TAG |LEFT SQUARE BRACKET|REVERSE SOLIDUS|RIGHT SQUARE BRACKET|CIRCUMFLEX ACCENT|LOW LINE
E0060 TAG |GRAVE ACCENT|LATIN SMALL LETTER A|LATIN SMALL LETTER B|LATIN SMALL LETTER C
E0064 TAG LATIN SMALL LETTER |D|E|F|G|H|I|J|K|L|M|N|O|P|Q|R|S|T|U|V|W|X|Y|Z
E007B |TAG LEFT CURLY BRACKET|TAG VERTICAL LINE|TAG RIGHT CURLY BRACKET|TAG TILDE|CANCEL TAG
E0100 VARIATION |SELECTOR-17|SELECTOR-18|SELECTOR-19|SELECTOR-20|SELECTOR-21|SELECTOR-22
E0106 VARIATION |SELECTOR-23|SELECTOR-24|SELECTOR-25|SELECTOR-26|SELECTOR-27|SELECTOR-28
E010C VARIATION |SELECTOR-29|SELECTOR-30|SELECTOR-31|SELECTOR-32|SELECTOR-33|SELECTOR-34
E0112 VARIATION |SELECTOR-35|SELECTOR-36|SELECTOR-37|SELECTOR-38|SELECTOR-39|SELECTOR-40
E0118 VARIATION |SELECTOR-41|SELECTOR-42|SELECTOR-43|SELECTOR-44|SELECTOR-45|SELECTOR-46
E011E VARIATION |SELECTOR-47|SELECTOR-48|SELECTOR-49|SELECTOR-50|SELECTOR-51|SELECTOR-52
E0124 VARIATION |SELECTOR-53|SELECTOR-54|SELECTOR-55|SELECTOR-56|SELECTOR-57|SELECTOR-58
E012A VARIATION |SELECTOR-59|SELECTOR-60|SELECTOR-61|SELECTOR-62|SELECTOR-63|SELECTOR-64
E0130 VARIATION |SELECTOR-65|SELECTOR-66|SELECTOR-67|SELECTOR-68|SELECTOR-69|SELECTOR-70
E0136 VARIATION |SELECTOR-71|SELECTOR-72|SELECTOR-73|SELECTOR-74|SELECTOR-75|SELECTOR-76
E013C VARIATION |SELECTOR-77|SELECTOR-78|SELECTOR-79|SELECTOR-80|SELECTOR-81|SELECTOR-82
E0142 VARIATION |SELECTOR-83|SELECTOR-84|SELECTOR-85|SELECTOR-86|SELECTOR-87|SELECTOR-88
E0148 VARIATION |SELECTOR-89|SELECTOR-90|SELECTOR-91|SELECTOR-92|SELECTOR-93|SELECTOR-94
E014E VARIATION |SELECTOR-95|SELECTOR-96|SELECTOR-97|SELECTOR-98|SELECTOR-99|SELECTOR-100
E0154 VARIATION |SELECTOR-101|SELECTOR-102|SELECTOR-103|SELECTOR-104|SELECTOR-105|SELECTOR-106
E015A VARIATION |SELECTOR-107|SELECTOR-108|SELECTOR-109|SELECTOR-110|SELECTOR-111|SELECTOR-112
E0160 VARIATION |SELECTOR-113|SELECTOR-114|SELECTOR-115|SELECTOR-116|SELECTOR-117|SELECTOR-118
E0166 VARIATION |SELECTOR-119|SELECTOR-120|SELECTOR-121|SELECTOR-122|SELECTOR-123|SELECTOR-124
E016C VARIATION |SELECTOR-125|SELECTOR-126|SELECTOR-127|SELECTOR-128|SELECTOR-129|SELECTOR-130
E0172 VARIATION |SELECTOR-131|SELECTOR-132|SELECTOR-133|SELECTOR-134|SELECTOR-135|SELECTOR-136
E0178 VARIATION |SELECTOR-137|SELECTOR-138|SELECTOR-139|SELECTOR-140|SELECTOR-141|SELECTOR-142
E017E VARIATION |SELECTOR-143|SELECTOR-144|SELECTOR-145|SELECTOR-146|SELECTOR-147|SELECTOR-148
E0184 VARIATION |SELECTOR-149|SELECTOR-150|SELECTOR-151|SELECTOR-152|SELECTOR-153|SELECTOR-154
E018A VARIATION |SELECTOR-155|SELECTOR-156|SELECTOR-157|SELECTOR-158|SELECTOR-159|SELECTOR-160
E0190 VARIATION |SELECTOR-161|SELECTOR-162|SELECTOR-163|SELECTOR-164|SELECTOR-165|SELECTOR-166
E0196 VARIATION |SELECTOR-167|SELECTOR-168|SELECTOR-169|SELECTOR-170|SELECTOR-171|SELECTOR-172
E019C VARIATION |SELECTOR-173|SELECTOR-174|SELECTOR-175|SELECTOR-176|SELECTOR-177|SELECTOR-178
E01A2 VARIATION |SELECTOR-179|SELECTOR-180|SELECTOR-181|SELECTOR-182|SELECTOR-183|SELECTOR-184
E01A8 VARIATION |SELECTOR-185|SELECTOR-186|SELECTOR-187|SELECTOR-188|SELECTOR-189|SELECTOR-190
E01AE VARIATION |SELECTOR-191|SELECTOR-192|SELECTOR-193|SELECTOR-194|SELECTOR-195|SELECTOR-196
E01B4 VARIATION |SELECTOR-197|SELECTOR-198|SELECTOR-199|SELECTOR-200|SELECTOR-201|SELECTOR-202
E01BA VARIATION |SELECTOR-203|SELECTOR-204|SELECTOR-205|SELECTOR-206|SELECTOR-207|SELECTOR-208
E01C0 VARIATION |SELECTOR-209|SELECTOR-210|SELECTOR-211|SELECTOR-212|SELECTOR-213|SELECTOR-214
E01C6 VARIATION |SELECTOR-215|SELECTOR-216|SELECTOR-217|SELECTOR-218|SELECTOR-219|SELECTOR-220
E01CC VARIATION |SELECTOR-221|SELECTOR-222|SELECTOR-223|SELECTOR-224|SELECTOR-225|SELECTOR-226
E01D2 VARIATION |SELECTOR-227|SELECTOR-228|SELECTOR-229|SELECTOR-230|SELECTOR-231|SELECTOR-232
E01D8 VARIATION |SELECTOR-233|SELECTOR-234|SELECTOR-235|SELECTOR-236|SELECTOR-237|SELECTOR-238
E01DE VARIATION |SELECTOR-239|SELECTOR-240|SELECTOR-241|SELECTOR-242|SELECTOR-243|SELECTOR-244
E01E4 VARIATION |SELECTOR-245|SELECTOR-246|SELECTOR-247|SELECTOR-248|SELECTOR-249|SELECTOR-250
E01EA VARIATION |SELECTOR-251|SELECTOR-252|SELECTOR-253|SELECTOR-254|SELECTOR-255|SELECTOR-256"

end BraceScript.Text.CharacterName
