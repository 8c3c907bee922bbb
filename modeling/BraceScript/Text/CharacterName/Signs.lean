/-!
# Names of punctuation, signs and symbols

The characters from U+2000 to U+2FFF. Every line holds the names of
characters that follow each other: the code point of the first, what the names begin with, and how
each of them goes on.
-/

namespace BraceScript.Text.CharacterName

/-- The names of punctuation, signs and symbols. -/
def signs : String :=
  "2000 |EN QUAD|EM QUAD|EN SPACE|EM SPACE|THREE-PER-EM SPACE|FOUR-PER-EM SPACE|SIX-PER-EM SPACE
2007 |FIGURE SPACE|PUNCTUATION SPACE|THIN SPACE|HAIR SPACE|ZERO WIDTH SPACE|ZERO WIDTH NON-JOINER
200D |ZERO WIDTH JOINER|LEFT-TO-RIGHT MARK|RIGHT-TO-LEFT MARK|HYPHEN|NON-BREAKING HYPHEN
2012 |FIGURE DASH|EN DASH|EM DASH|HORIZONTAL BAR|DOUBLE VERTICAL LINE|DOUBLE LOW LINE
2018 |LEFT SINGLE QUOTATION MARK|RIGHT SINGLE QUOTATION MARK|SINGLE LOW-9 QUOTATION MARK
201B |SINGLE HIGH-REVERSED-9 QUOTATION MARK|LEFT DOUBLE QUOTATION MARK|RIGHT DOUBLE QUOTATION MARK
201E |DOUBLE LOW-9 QUOTATION MARK|DOUBLE HIGH-REVERSED-9 QUOTATION MARK|DAGGER|DOUBLE DAGGER
2022 |BULLET|TRIANGULAR BULLET|ONE DOT LEADER|TWO DOT LEADER|HORIZONTAL ELLIPSIS|HYPHENATION POINT
2028 |LINE SEPARATOR|PARAGRAPH SEPARATOR|LEFT-TO-RIGHT EMBEDDING|RIGHT-TO-LEFT EMBEDDING
202C |POP DIRECTIONAL FORMATTING|LEFT-TO-RIGHT OVERRIDE|RIGHT-TO-LEFT OVERRIDE
202F |NARROW NO-BREAK SPACE|PER MILLE SIGN|PER TEN THOUSAND SIGN|PRIME|DOUBLE PRIME|TRIPLE PRIME
2035 |REVERSED PRIME|REVERSED DOUBLE PRIME|REVERSED TRIPLE PRIME|CARET
2039 SINGLE |LEFT-POINTING ANGLE QUOTATION MARK|RIGHT-POINTING ANGLE QUOTATION MARK
203B |REFERENCE MARK|DOUBLE EXCLAMATION MARK|INTERROBANG|OVERLINE|UNDERTIE|CHARACTER TIE
2041 |CARET INSERTION POINT|ASTERISM|HYPHEN BULLET|FRACTION SLASH|LEFT SQUARE BRACKET WITH QUILL
2046 |RIGHT SQUARE BRACKET WITH QUILL|DOUBLE QUESTION MARK|QUESTION EXCLAMATION MARK
2049 |EXCLAMATION QUESTION MARK|TIRONIAN SIGN ET|REVERSED PILCROW SIGN|BLACK LEFTWARDS BULLET
204D |BLACK RIGHTWARDS BULLET|LOW ASTERISK|REVERSED SEMICOLON|CLOSE UP
2051 |TWO ASTERISKS ALIGNED VERTICALLY|COMMERCIAL MINUS SIGN|SWUNG DASH|INVERTED UNDERTIE
2055 |FLOWER PUNCTUATION MARK|THREE DOT PUNCTUATION|QUADRUPLE PRIME|FOUR DOT PUNCTUATION
2059 |FIVE DOT PUNCTUATION|TWO DOT PUNCTUATION|FOUR DOT MARK|DOTTED CROSS|TRICOLON
205E |VERTICAL FOUR DOTS|MEDIUM MATHEMATICAL SPACE|WORD JOINER|FUNCTION APPLICATION
2062 INVISIBLE |TIMES|SEPARATOR|PLUS
2066 |LEFT-TO-RIGHT ISOLATE|RIGHT-TO-LEFT ISOLATE|FIRST STRONG ISOLATE|POP DIRECTIONAL ISOLATE
206A |INHIBIT SYMMETRIC SWAPPING|ACTIVATE SYMMETRIC SWAPPING|INHIBIT ARABIC FORM SHAPING
206D |ACTIVATE ARABIC FORM SHAPING|NATIONAL DIGIT SHAPES|NOMINAL DIGIT SHAPES|SUPERSCRIPT ZERO
2071 |SUPERSCRIPT LATIN SMALL LETTER I
2074 SUPERSCRIPT |FOUR|FIVE|SIX|SEVEN|EIGHT|NINE|PLUS SIGN|MINUS|EQUALS SIGN|LEFT PARENTHESIS
207E |SUPERSCRIPT RIGHT PARENTHESIS|SUPERSCRIPT LATIN SMALL LETTER N|SUBSCRIPT ZERO|SUBSCRIPT ONE
2082 SUBSCRIPT |TWO|THREE|FOUR|FIVE|SIX|SEVEN|EIGHT|NINE|PLUS SIGN|MINUS|EQUALS SIGN
208D SUBSCRIPT |LEFT PARENTHESIS|RIGHT PARENTHESIS
2090 LATIN SUBSCRIPT SMALL LETTER |A|E|O|X|SCHWA|H|K|L|M|N|P|S|T
20A0 |EURO-CURRENCY SIGN|COLON SIGN|CRUZEIRO SIGN|FRENCH FRANC SIGN|LIRA SIGN|MILL SIGN|NAIRA SIGN
20A7 |PESETA SIGN|RUPEE SIGN|WON SIGN|NEW SHEQEL SIGN|DONG SIGN|EURO SIGN|KIP SIGN|TUGRIK SIGN
20AF |DRACHMA SIGN|GERMAN PENNY SIGN|PESO SIGN|GUARANI SIGN|AUSTRAL SIGN|HRYVNIA SIGN|CEDI SIGN
20B6 |LIVRE TOURNOIS SIGN|SPESMILO SIGN|TENGE SIGN|INDIAN RUPEE SIGN|TURKISH LIRA SIGN
20BB |NORDIC MARK SIGN|MANAT SIGN|RUBLE SIGN|LARI SIGN|BITCOIN SIGN|SOM SIGN
20D0 COMBINING |LEFT HARPOON ABOVE|RIGHT HARPOON ABOVE|LONG VERTICAL LINE OVERLAY
20D3 COMBINING |SHORT VERTICAL LINE OVERLAY|ANTICLOCKWISE ARROW ABOVE|CLOCKWISE ARROW ABOVE
20D6 COMBINING |LEFT ARROW ABOVE|RIGHT ARROW ABOVE|RING OVERLAY|CLOCKWISE RING OVERLAY
20DA COMBINING |ANTICLOCKWISE RING OVERLAY|THREE DOTS ABOVE|FOUR DOTS ABOVE|ENCLOSING CIRCLE
20DE COMBINING ENCLOSING |SQUARE|DIAMOND|CIRCLE BACKSLASH
20E1 COMBINING |LEFT RIGHT ARROW ABOVE|ENCLOSING SCREEN|ENCLOSING KEYCAP
20E4 COMBINING |ENCLOSING UPWARD POINTING TRIANGLE|REVERSE SOLIDUS OVERLAY
20E6 COMBINING |DOUBLE VERTICAL STROKE OVERLAY|ANNUITY SYMBOL|TRIPLE UNDERDOT|WIDE BRIDGE ABOVE
20EA COMBINING |LEFTWARDS ARROW OVERLAY|LONG DOUBLE SOLIDUS OVERLAY
20EC COMBINING |RIGHTWARDS HARPOON WITH BARB DOWNWARDS|LEFTWARDS HARPOON WITH BARB DOWNWARDS
20EE COMBINING |LEFT ARROW BELOW|RIGHT ARROW BELOW|ASTERISK ABOVE
2100 |ACCOUNT OF|ADDRESSED TO THE SUBJECT|DOUBLE-STRUCK CAPITAL C|DEGREE CELSIUS
2104 |CENTRE LINE SYMBOL|CARE OF|CADA UNA|EULER CONSTANT|SCRUPLE|DEGREE FAHRENHEIT|SCRIPT SMALL G
210B |SCRIPT CAPITAL H|BLACK-LETTER CAPITAL H|DOUBLE-STRUCK CAPITAL H|PLANCK CONSTANT
210F |PLANCK CONSTANT OVER TWO PI|SCRIPT CAPITAL I|BLACK-LETTER CAPITAL I|SCRIPT CAPITAL L
2113 |SCRIPT SMALL L|L B BAR SYMBOL|DOUBLE-STRUCK CAPITAL N|NUMERO SIGN|SOUND RECORDING COPYRIGHT
2118 |SCRIPT CAPITAL P|DOUBLE-STRUCK CAPITAL P|DOUBLE-STRUCK CAPITAL Q|SCRIPT CAPITAL R
211C |BLACK-LETTER CAPITAL R|DOUBLE-STRUCK CAPITAL R|PRESCRIPTION TAKE|RESPONSE|SERVICE MARK
2121 |TELEPHONE SIGN|TRADE MARK SIGN|VERSICLE|DOUBLE-STRUCK CAPITAL Z|OUNCE SIGN|OHM SIGN
2127 |INVERTED OHM SIGN|BLACK-LETTER CAPITAL Z|TURNED GREEK SMALL LETTER IOTA|KELVIN SIGN
212B |ANGSTROM SIGN|SCRIPT CAPITAL B|BLACK-LETTER CAPITAL C|ESTIMATED SYMBOL|SCRIPT SMALL E
2130 |SCRIPT CAPITAL E|SCRIPT CAPITAL F|TURNED CAPITAL F|SCRIPT CAPITAL M|SCRIPT SMALL O
2135 |ALEF SYMBOL|BET SYMBOL|GIMEL SYMBOL|DALET SYMBOL|INFORMATION SOURCE|ROTATED CAPITAL Q
213B |FACSIMILE SIGN|DOUBLE-STRUCK SMALL PI|DOUBLE-STRUCK SMALL GAMMA|DOUBLE-STRUCK CAPITAL GAMMA
213F |DOUBLE-STRUCK CAPITAL PI|DOUBLE-STRUCK N-ARY SUMMATION|TURNED SANS-SERIF CAPITAL G
2142 |TURNED SANS-SERIF CAPITAL L|REVERSED SANS-SERIF CAPITAL L|TURNED SANS-SERIF CAPITAL Y
2145 DOUBLE-STRUCK ITALIC |CAPITAL D|SMALL D|SMALL E|SMALL I|SMALL J
214A |PROPERTY LINE|TURNED AMPERSAND|PER SIGN|AKTIESELSKAB|TURNED SMALL F
214F |SYMBOL FOR SAMARITAN SOURCE|VULGAR FRACTION ONE SEVENTH|VULGAR FRACTION ONE NINTH
2152 VULGAR FRACTION |ONE TENTH|ONE THIRD|TWO THIRDS|ONE FIFTH|TWO FIFTHS|THREE FIFTHS|FOUR FIFTHS
2159 VULGAR FRACTION |ONE SIXTH|FIVE SIXTHS|ONE EIGHTH|THREE EIGHTHS|FIVE EIGHTHS|SEVEN EIGHTHS
215F |FRACTION NUMERATOR ONE|ROMAN NUMERAL ONE|ROMAN NUMERAL TWO|ROMAN NUMERAL THREE
2163 ROMAN NUMERAL |FOUR|FIVE|SIX|SEVEN|EIGHT|NINE|TEN|ELEVEN|TWELVE|FIFTY|ONE HUNDRED
216E |ROMAN NUMERAL FIVE HUNDRED|ROMAN NUMERAL ONE THOUSAND|SMALL ROMAN NUMERAL ONE
2171 SMALL ROMAN NUMERAL |TWO|THREE|FOUR|FIVE|SIX|SEVEN|EIGHT|NINE|TEN|ELEVEN|TWELVE|FIFTY
217D SMALL ROMAN NUMERAL |ONE HUNDRED|FIVE HUNDRED|ONE THOUSAND
2180 ROMAN NUMERAL |ONE THOUSAND C D|FIVE THOUSAND|TEN THOUSAND|REVERSED ONE HUNDRED
2184 |LATIN SMALL LETTER REVERSED C|ROMAN NUMERAL SIX LATE FORM|ROMAN NUMERAL FIFTY EARLY FORM
2187 |ROMAN NUMERAL FIFTY THOUSAND|ROMAN NUMERAL ONE HUNDRED THOUSAND|VULGAR FRACTION ZERO THIRDS
218A TURNED DIGIT |TWO|THREE
2190 |LEFTWARDS ARROW|UPWARDS ARROW|RIGHTWARDS ARROW|DOWNWARDS ARROW|LEFT RIGHT ARROW
2195 |UP DOWN ARROW|NORTH WEST ARROW|NORTH EAST ARROW|SOUTH EAST ARROW|SOUTH WEST ARROW
219A |LEFTWARDS ARROW WITH STROKE|RIGHTWARDS ARROW WITH STROKE|LEFTWARDS WAVE ARROW
219D |RIGHTWARDS WAVE ARROW|LEFTWARDS TWO HEADED ARROW|UPWARDS TWO HEADED ARROW
21A0 |RIGHTWARDS TWO HEADED ARROW|DOWNWARDS TWO HEADED ARROW|LEFTWARDS ARROW WITH TAIL
21A3 |RIGHTWARDS ARROW WITH TAIL|LEFTWARDS ARROW FROM BAR|UPWARDS ARROW FROM BAR
21A6 |RIGHTWARDS ARROW FROM BAR|DOWNWARDS ARROW FROM BAR|UP DOWN ARROW WITH BASE
21A9 |LEFTWARDS ARROW WITH HOOK|RIGHTWARDS ARROW WITH HOOK|LEFTWARDS ARROW WITH LOOP
21AC |RIGHTWARDS ARROW WITH LOOP|LEFT RIGHT WAVE ARROW|LEFT RIGHT ARROW WITH STROKE
21AF |DOWNWARDS ZIGZAG ARROW|UPWARDS ARROW WITH TIP LEFTWARDS|UPWARDS ARROW WITH TIP RIGHTWARDS
21B2 DOWNWARDS ARROW WITH TIP |LEFTWARDS|RIGHTWARDS
21B4 |RIGHTWARDS ARROW WITH CORNER DOWNWARDS|DOWNWARDS ARROW WITH CORNER LEFTWARDS
21B6 |ANTICLOCKWISE TOP SEMICIRCLE ARROW|CLOCKWISE TOP SEMICIRCLE ARROW
21B8 |NORTH WEST ARROW TO LONG BAR|LEFTWARDS ARROW TO BAR OVER RIGHTWARDS ARROW TO BAR
21BA |ANTICLOCKWISE OPEN CIRCLE ARROW|CLOCKWISE OPEN CIRCLE ARROW
21BC LEFTWARDS HARPOON WITH BARB |UPWARDS|DOWNWARDS
21BE UPWARDS HARPOON WITH BARB |RIGHTWARDS|LEFTWARDS
21C0 RIGHTWARDS HARPOON WITH BARB |UPWARDS|DOWNWARDS
21C2 DOWNWARDS HARPOON WITH BARB |RIGHTWARDS|LEFTWARDS
21C4 |RIGHTWARDS ARROW OVER LEFTWARDS ARROW|UPWARDS ARROW LEFTWARDS OF DOWNWARDS ARROW
21C6 |LEFTWARDS ARROW OVER RIGHTWARDS ARROW|LEFTWARDS PAIRED ARROWS|UPWARDS PAIRED ARROWS
21C9 |RIGHTWARDS PAIRED ARROWS|DOWNWARDS PAIRED ARROWS|LEFTWARDS HARPOON OVER RIGHTWARDS HARPOON
21CC |RIGHTWARDS HARPOON OVER LEFTWARDS HARPOON|LEFTWARDS DOUBLE ARROW WITH STROKE
21CE |LEFT RIGHT DOUBLE ARROW WITH STROKE|RIGHTWARDS DOUBLE ARROW WITH STROKE
21D0 |LEFTWARDS DOUBLE ARROW|UPWARDS DOUBLE ARROW|RIGHTWARDS DOUBLE ARROW|DOWNWARDS DOUBLE ARROW
21D4 |LEFT RIGHT DOUBLE ARROW|UP DOWN DOUBLE ARROW|NORTH WEST DOUBLE ARROW|NORTH EAST DOUBLE ARROW
21D8 |SOUTH EAST DOUBLE ARROW|SOUTH WEST DOUBLE ARROW|LEFTWARDS TRIPLE ARROW
21DB |RIGHTWARDS TRIPLE ARROW|LEFTWARDS SQUIGGLE ARROW|RIGHTWARDS SQUIGGLE ARROW
21DE |UPWARDS ARROW WITH DOUBLE STROKE|DOWNWARDS ARROW WITH DOUBLE STROKE|LEFTWARDS DASHED ARROW
21E1 |UPWARDS DASHED ARROW|RIGHTWARDS DASHED ARROW|DOWNWARDS DASHED ARROW|LEFTWARDS ARROW TO BAR
21E5 |RIGHTWARDS ARROW TO BAR|LEFTWARDS WHITE ARROW|UPWARDS WHITE ARROW|RIGHTWARDS WHITE ARROW
21E9 |DOWNWARDS WHITE ARROW|UPWARDS WHITE ARROW FROM BAR|UPWARDS WHITE ARROW ON PEDESTAL
21EC UPWARDS WHITE ARROW ON PEDESTAL WITH |HORIZONTAL BAR|VERTICAL BAR
21EE UPWARDS WHITE DOUBLE |ARROW|ARROW ON PEDESTAL
21F0 |RIGHTWARDS WHITE ARROW FROM WALL|NORTH WEST ARROW TO CORNER|SOUTH EAST ARROW TO CORNER
21F3 |UP DOWN WHITE ARROW|RIGHT ARROW WITH SMALL CIRCLE|DOWNWARDS ARROW LEFTWARDS OF UPWARDS ARROW
21F6 |THREE RIGHTWARDS ARROWS|LEFTWARDS ARROW WITH VERTICAL STROKE
21F8 |RIGHTWARDS ARROW WITH VERTICAL STROKE|LEFT RIGHT ARROW WITH VERTICAL STROKE
21FA |LEFTWARDS ARROW WITH DOUBLE VERTICAL STROKE|RIGHTWARDS ARROW WITH DOUBLE VERTICAL STROKE
21FC |LEFT RIGHT ARROW WITH DOUBLE VERTICAL STROKE|LEFTWARDS OPEN-HEADED ARROW
21FE |RIGHTWARDS OPEN-HEADED ARROW|LEFT RIGHT OPEN-HEADED ARROW|FOR ALL|COMPLEMENT
2202 |PARTIAL DIFFERENTIAL|THERE EXISTS|THERE DOES NOT EXIST|EMPTY SET|INCREMENT|NABLA|ELEMENT OF
2209 |NOT AN ELEMENT OF|SMALL ELEMENT OF|CONTAINS AS MEMBER|DOES NOT CONTAIN AS MEMBER
220D |SMALL CONTAINS AS MEMBER|END OF PROOF|N-ARY PRODUCT|N-ARY COPRODUCT|N-ARY SUMMATION
2212 |MINUS SIGN|MINUS-OR-PLUS SIGN|DOT PLUS|DIVISION SLASH|SET MINUS|ASTERISK OPERATOR
2218 |RING OPERATOR|BULLET OPERATOR|SQUARE ROOT|CUBE ROOT|FOURTH ROOT|PROPORTIONAL TO|INFINITY
221F |RIGHT ANGLE|ANGLE|MEASURED ANGLE|SPHERICAL ANGLE|DIVIDES|DOES NOT DIVIDE|PARALLEL TO
2226 |NOT PARALLEL TO|LOGICAL AND|LOGICAL OR|INTERSECTION|UNION|INTEGRAL|DOUBLE INTEGRAL
222D |TRIPLE INTEGRAL|CONTOUR INTEGRAL|SURFACE INTEGRAL|VOLUME INTEGRAL|CLOCKWISE INTEGRAL
2232 |CLOCKWISE CONTOUR INTEGRAL|ANTICLOCKWISE CONTOUR INTEGRAL|THEREFORE|BECAUSE|RATIO|PROPORTION
2238 |DOT MINUS|EXCESS|GEOMETRIC PROPORTION|HOMOTHETIC|TILDE OPERATOR|REVERSED TILDE
223E |INVERTED LAZY S|SINE WAVE|WREATH PRODUCT|NOT TILDE|MINUS TILDE|ASYMPTOTICALLY EQUAL TO
2244 |NOT ASYMPTOTICALLY EQUAL TO|APPROXIMATELY EQUAL TO|APPROXIMATELY BUT NOT ACTUALLY EQUAL TO
2247 |NEITHER APPROXIMATELY NOR ACTUALLY EQUAL TO|ALMOST EQUAL TO|NOT ALMOST EQUAL TO
224A |ALMOST EQUAL OR EQUAL TO|TRIPLE TILDE|ALL EQUAL TO|EQUIVALENT TO|GEOMETRICALLY EQUIVALENT TO
224F |DIFFERENCE BETWEEN|APPROACHES THE LIMIT|GEOMETRICALLY EQUAL TO
2252 |APPROXIMATELY EQUAL TO OR THE IMAGE OF|IMAGE OF OR APPROXIMATELY EQUAL TO|COLON EQUALS
2255 |EQUALS COLON|RING IN EQUAL TO|RING EQUAL TO|CORRESPONDS TO|ESTIMATES|EQUIANGULAR TO
225B |STAR EQUALS|DELTA EQUAL TO|EQUAL TO BY DEFINITION|MEASURED BY|QUESTIONED EQUAL TO
2260 |NOT EQUAL TO|IDENTICAL TO|NOT IDENTICAL TO|STRICTLY EQUIVALENT TO|LESS-THAN OR EQUAL TO
2265 |GREATER-THAN OR EQUAL TO|LESS-THAN OVER EQUAL TO|GREATER-THAN OVER EQUAL TO
2268 |LESS-THAN BUT NOT EQUAL TO|GREATER-THAN BUT NOT EQUAL TO|MUCH LESS-THAN|MUCH GREATER-THAN
226C |BETWEEN|NOT EQUIVALENT TO|NOT LESS-THAN|NOT GREATER-THAN|NEITHER LESS-THAN NOR EQUAL TO
2271 |NEITHER GREATER-THAN NOR EQUAL TO|LESS-THAN OR EQUIVALENT TO|GREATER-THAN OR EQUIVALENT TO
2274 NEITHER |LESS-THAN NOR EQUIVALENT TO|GREATER-THAN NOR EQUIVALENT TO
2276 |LESS-THAN OR GREATER-THAN|GREATER-THAN OR LESS-THAN|NEITHER LESS-THAN NOR GREATER-THAN
2279 |NEITHER GREATER-THAN NOR LESS-THAN|PRECEDES|SUCCEEDS|PRECEDES OR EQUAL TO
227D |SUCCEEDS OR EQUAL TO|PRECEDES OR EQUIVALENT TO|SUCCEEDS OR EQUIVALENT TO|DOES NOT PRECEDE
2281 |DOES NOT SUCCEED|SUBSET OF|SUPERSET OF|NOT A SUBSET OF|NOT A SUPERSET OF
2286 |SUBSET OF OR EQUAL TO|SUPERSET OF OR EQUAL TO|NEITHER A SUBSET OF NOR EQUAL TO
2289 |NEITHER A SUPERSET OF NOR EQUAL TO|SUBSET OF WITH NOT EQUAL TO|SUPERSET OF WITH NOT EQUAL TO
228C |MULTISET|MULTISET MULTIPLICATION|MULTISET UNION|SQUARE IMAGE OF|SQUARE ORIGINAL OF
2291 SQUARE |IMAGE OF OR EQUAL TO|ORIGINAL OF OR EQUAL TO|CAP|CUP
2295 CIRCLED |PLUS|MINUS|TIMES|DIVISION SLASH|DOT OPERATOR|RING OPERATOR|ASTERISK OPERATOR|EQUALS
229D |CIRCLED DASH|SQUARED PLUS|SQUARED MINUS|SQUARED TIMES|SQUARED DOT OPERATOR|RIGHT TACK
22A3 |LEFT TACK|DOWN TACK|UP TACK|ASSERTION|MODELS|TRUE|FORCES|TRIPLE VERTICAL BAR RIGHT TURNSTILE
22AB |DOUBLE VERTICAL BAR DOUBLE RIGHT TURNSTILE|DOES NOT PROVE|NOT TRUE|DOES NOT FORCE
22AF |NEGATED DOUBLE VERTICAL BAR DOUBLE RIGHT TURNSTILE|PRECEDES UNDER RELATION
22B1 |SUCCEEDS UNDER RELATION|NORMAL SUBGROUP OF|CONTAINS AS NORMAL SUBGROUP
22B4 |NORMAL SUBGROUP OF OR EQUAL TO|CONTAINS AS NORMAL SUBGROUP OR EQUAL TO|ORIGINAL OF|IMAGE OF
22B8 |MULTIMAP|HERMITIAN CONJUGATE MATRIX|INTERCALATE|XOR|NAND|NOR|RIGHT ANGLE WITH ARC
22BF |RIGHT TRIANGLE|N-ARY LOGICAL AND|N-ARY LOGICAL OR|N-ARY INTERSECTION|N-ARY UNION
22C4 |DIAMOND OPERATOR|DOT OPERATOR|STAR OPERATOR|DIVISION TIMES|BOWTIE
22C9 |LEFT NORMAL FACTOR SEMIDIRECT PRODUCT|RIGHT NORMAL FACTOR SEMIDIRECT PRODUCT
22CB |LEFT SEMIDIRECT PRODUCT|RIGHT SEMIDIRECT PRODUCT|REVERSED TILDE EQUALS|CURLY LOGICAL OR
22CF |CURLY LOGICAL AND|DOUBLE SUBSET|DOUBLE SUPERSET|DOUBLE INTERSECTION|DOUBLE UNION|PITCHFORK
22D5 |EQUAL AND PARALLEL TO|LESS-THAN WITH DOT|GREATER-THAN WITH DOT|VERY MUCH LESS-THAN
22D9 |VERY MUCH GREATER-THAN|LESS-THAN EQUAL TO OR GREATER-THAN|GREATER-THAN EQUAL TO OR LESS-THAN
22DC EQUAL TO OR |LESS-THAN|GREATER-THAN|PRECEDES|SUCCEEDS
22E0 |DOES NOT PRECEDE OR EQUAL|DOES NOT SUCCEED OR EQUAL|NOT SQUARE IMAGE OF OR EQUAL TO
22E3 |NOT SQUARE ORIGINAL OF OR EQUAL TO|SQUARE IMAGE OF OR NOT EQUAL TO
22E5 |SQUARE ORIGINAL OF OR NOT EQUAL TO|LESS-THAN BUT NOT EQUIVALENT TO
22E7 |GREATER-THAN BUT NOT EQUIVALENT TO|PRECEDES BUT NOT EQUIVALENT TO
22E9 |SUCCEEDS BUT NOT EQUIVALENT TO|NOT NORMAL SUBGROUP OF|DOES NOT CONTAIN AS NORMAL SUBGROUP
22EC |NOT NORMAL SUBGROUP OF OR EQUAL TO|DOES NOT CONTAIN AS NORMAL SUBGROUP OR EQUAL
22EE |VERTICAL ELLIPSIS|MIDLINE HORIZONTAL ELLIPSIS|UP RIGHT DIAGONAL ELLIPSIS
22F1 |DOWN RIGHT DIAGONAL ELLIPSIS|ELEMENT OF WITH LONG HORIZONTAL STROKE
22F3 |ELEMENT OF WITH VERTICAL BAR AT END OF HORIZONTAL STROKE
22F4 |SMALL ELEMENT OF WITH VERTICAL BAR AT END OF HORIZONTAL STROKE|ELEMENT OF WITH DOT ABOVE
22F6 |ELEMENT OF WITH OVERBAR|SMALL ELEMENT OF WITH OVERBAR|ELEMENT OF WITH UNDERBAR
22F9 |ELEMENT OF WITH TWO HORIZONTAL STROKES|CONTAINS WITH LONG HORIZONTAL STROKE
22FB |CONTAINS WITH VERTICAL BAR AT END OF HORIZONTAL STROKE
22FC |SMALL CONTAINS WITH VERTICAL BAR AT END OF HORIZONTAL STROKE|CONTAINS WITH OVERBAR
22FE |SMALL CONTAINS WITH OVERBAR|Z NOTATION BAG MEMBERSHIP|DIAMETER SIGN|ELECTRIC ARROW|HOUSE
2303 |UP ARROWHEAD|DOWN ARROWHEAD|PROJECTIVE|PERSPECTIVE|WAVY LINE|LEFT CEILING|RIGHT CEILING
230A |LEFT FLOOR|RIGHT FLOOR|BOTTOM RIGHT CROP|BOTTOM LEFT CROP|TOP RIGHT CROP|TOP LEFT CROP
2310 |REVERSED NOT SIGN|SQUARE LOZENGE|ARC|SEGMENT|SECTOR|TELEPHONE RECORDER|POSITION INDICATOR
2317 |VIEWDATA SQUARE|PLACE OF INTEREST SIGN|TURNED NOT SIGN|WATCH|HOURGLASS|TOP LEFT CORNER
231D |TOP RIGHT CORNER|BOTTOM LEFT CORNER|BOTTOM RIGHT CORNER|TOP HALF INTEGRAL
2321 |BOTTOM HALF INTEGRAL|FROWN|SMILE|UP ARROWHEAD BETWEEN TWO HORIZONTAL BARS|OPTION KEY
2326 |ERASE TO THE RIGHT|X IN A RECTANGLE BOX|KEYBOARD|LEFT-POINTING ANGLE BRACKET
232A |RIGHT-POINTING ANGLE BRACKET|ERASE TO THE LEFT|BENZENE RING|CYLINDRICITY|ALL AROUND-PROFILE
232F |SYMMETRY|TOTAL RUNOUT|DIMENSION ORIGIN|CONICAL TAPER|SLOPE|COUNTERBORE|COUNTERSINK
2336 APL FUNCTIONAL SYMBOL |I-BEAM|SQUISH QUAD|QUAD EQUAL|QUAD DIVIDE|QUAD DIAMOND|QUAD JOT
233C APL FUNCTIONAL SYMBOL |QUAD CIRCLE|CIRCLE STILE|CIRCLE JOT|SLASH BAR|BACKSLASH BAR|QUAD SLASH
2342 APL FUNCTIONAL SYMBOL |QUAD BACKSLASH|QUAD LESS-THAN|QUAD GREATER-THAN|LEFTWARDS VANE
2346 APL FUNCTIONAL SYMBOL |RIGHTWARDS VANE|QUAD LEFTWARDS ARROW|QUAD RIGHTWARDS ARROW
2349 APL FUNCTIONAL SYMBOL |CIRCLE BACKSLASH|DOWN TACK UNDERBAR|DELTA STILE|QUAD DOWN CARET
234D APL FUNCTIONAL SYMBOL |QUAD DELTA|DOWN TACK JOT|UPWARDS VANE|QUAD UPWARDS ARROW
2351 APL FUNCTIONAL SYMBOL |UP TACK OVERBAR|DEL STILE|QUAD UP CARET|QUAD DEL|UP TACK JOT
2356 APL FUNCTIONAL SYMBOL |DOWNWARDS VANE|QUAD DOWNWARDS ARROW|QUOTE UNDERBAR|DELTA UNDERBAR
235A APL FUNCTIONAL SYMBOL |DIAMOND UNDERBAR|JOT UNDERBAR|CIRCLE UNDERBAR|UP SHOE JOT|QUOTE QUAD
235F APL FUNCTIONAL SYMBOL |CIRCLE STAR|QUAD COLON|UP TACK DIAERESIS|DEL DIAERESIS|STAR DIAERESIS
2364 APL FUNCTIONAL SYMBOL |JOT DIAERESIS|CIRCLE DIAERESIS|DOWN SHOE STILE|LEFT SHOE STILE
2368 APL FUNCTIONAL SYMBOL |TILDE DIAERESIS|GREATER-THAN DIAERESIS|COMMA BAR|DEL TILDE|ZILDE
236D APL FUNCTIONAL SYMBOL |STILE TILDE|SEMICOLON UNDERBAR|QUAD NOT EQUAL|QUAD QUESTION
2371 APL FUNCTIONAL SYMBOL |DOWN CARET TILDE|UP CARET TILDE|IOTA|RHO|OMEGA|ALPHA UNDERBAR
2377 APL FUNCTIONAL SYMBOL |EPSILON UNDERBAR|IOTA UNDERBAR|OMEGA UNDERBAR|ALPHA
237B |NOT CHECK MARK|RIGHT ANGLE WITH DOWNWARDS ZIGZAG ARROW|SHOULDERED OPEN BOX|BELL SYMBOL
237F |VERTICAL LINE WITH MIDDLE DOT|INSERTION SYMBOL|CONTINUOUS UNDERLINE SYMBOL
2382 |DISCONTINUOUS UNDERLINE SYMBOL|EMPHASIS SYMBOL|COMPOSITION SYMBOL
2385 |WHITE SQUARE WITH CENTRE VERTICAL LINE|ENTER SYMBOL|ALTERNATIVE KEY SYMBOL|HELM SYMBOL
2389 |CIRCLED HORIZONTAL BAR WITH NOTCH|CIRCLED TRIANGLE DOWN|BROKEN CIRCLE WITH NORTHWEST ARROW
238C |UNDO SYMBOL|MONOSTABLE SYMBOL|HYSTERESIS SYMBOL|OPEN-CIRCUIT-OUTPUT H-TYPE SYMBOL
2390 |OPEN-CIRCUIT-OUTPUT L-TYPE SYMBOL|PASSIVE-PULL-DOWN-OUTPUT SYMBOL
2392 |PASSIVE-PULL-UP-OUTPUT SYMBOL|DIRECT CURRENT SYMBOL FORM TWO|SOFTWARE-FUNCTION SYMBOL
2395 |APL FUNCTIONAL SYMBOL QUAD|DECIMAL SEPARATOR KEY SYMBOL|PREVIOUS PAGE|NEXT PAGE
2399 |PRINT SCREEN SYMBOL|CLEAR SCREEN SYMBOL|LEFT PARENTHESIS UPPER HOOK
239C |LEFT PARENTHESIS EXTENSION|LEFT PARENTHESIS LOWER HOOK|RIGHT PARENTHESIS UPPER HOOK
239F |RIGHT PARENTHESIS EXTENSION|RIGHT PARENTHESIS LOWER HOOK|LEFT SQUARE BRACKET UPPER CORNER
23A2 LEFT SQUARE BRACKET |EXTENSION|LOWER CORNER
23A4 RIGHT SQUARE BRACKET |UPPER CORNER|EXTENSION|LOWER CORNER
23A7 LEFT CURLY BRACKET |UPPER HOOK|MIDDLE PIECE|LOWER HOOK
23AA |CURLY BRACKET EXTENSION|RIGHT CURLY BRACKET UPPER HOOK|RIGHT CURLY BRACKET MIDDLE PIECE
23AD |RIGHT CURLY BRACKET LOWER HOOK|INTEGRAL EXTENSION|HORIZONTAL LINE EXTENSION
23B0 UPPER |LEFT OR LOWER RIGHT CURLY BRACKET SECTION|RIGHT OR LOWER LEFT CURLY BRACKET SECTION
23B2 |SUMMATION TOP|SUMMATION BOTTOM|TOP SQUARE BRACKET|BOTTOM SQUARE BRACKET
23B6 |BOTTOM SQUARE BRACKET OVER TOP SQUARE BRACKET|RADICAL SYMBOL BOTTOM|LEFT VERTICAL BOX LINE
23B9 |RIGHT VERTICAL BOX LINE|HORIZONTAL SCAN LINE-1|HORIZONTAL SCAN LINE-3|HORIZONTAL SCAN LINE-7
23BD |HORIZONTAL SCAN LINE-9|DENTISTRY SYMBOL LIGHT VERTICAL AND TOP RIGHT
23BF DENTISTRY SYMBOL LIGHT VERTICAL |AND BOTTOM RIGHT|WITH CIRCLE
23C1 DENTISTRY SYMBOL LIGHT |DOWN AND HORIZONTAL WITH CIRCLE|UP AND HORIZONTAL WITH CIRCLE
23C3 DENTISTRY SYMBOL LIGHT |VERTICAL WITH TRIANGLE|DOWN AND HORIZONTAL WITH TRIANGLE
23C5 DENTISTRY SYMBOL LIGHT |UP AND HORIZONTAL WITH TRIANGLE|VERTICAL AND WAVE
23C7 DENTISTRY SYMBOL LIGHT |DOWN AND HORIZONTAL WITH WAVE|UP AND HORIZONTAL WITH WAVE
23C9 DENTISTRY SYMBOL LIGHT |DOWN AND HORIZONTAL|UP AND HORIZONTAL|VERTICAL AND TOP LEFT
23CC |DENTISTRY SYMBOL LIGHT VERTICAL AND BOTTOM LEFT|SQUARE FOOT|RETURN SYMBOL|EJECT SYMBOL
23D0 |VERTICAL LINE EXTENSION|METRICAL BREVE|METRICAL LONG OVER SHORT|METRICAL SHORT OVER LONG
23D4 METRICAL |LONG OVER TWO SHORTS|TWO SHORTS OVER LONG|TWO SHORTS JOINED|TRISEME|TETRASEME
23D9 |METRICAL PENTASEME|EARTH GROUND|FUSE|TOP PARENTHESIS|BOTTOM PARENTHESIS|TOP CURLY BRACKET
23DF |BOTTOM CURLY BRACKET|TOP TORTOISE SHELL BRACKET|BOTTOM TORTOISE SHELL BRACKET
23E2 |WHITE TRAPEZIUM|BENZENE RING WITH CIRCLE|STRAIGHTNESS|FLATNESS|AC CURRENT
23E7 |ELECTRICAL INTERSECTION|DECIMAL EXPONENT SYMBOL|BLACK RIGHT-POINTING DOUBLE TRIANGLE
23EA BLACK |LEFT-POINTING DOUBLE TRIANGLE|UP-POINTING DOUBLE TRIANGLE
23EC BLACK |DOWN-POINTING DOUBLE TRIANGLE|RIGHT-POINTING DOUBLE TRIANGLE WITH VERTICAL BAR
23EE |BLACK LEFT-POINTING DOUBLE TRIANGLE WITH VERTICAL BAR
23EF |BLACK RIGHT-POINTING TRIANGLE WITH DOUBLE VERTICAL BAR|ALARM CLOCK|STOPWATCH|TIMER CLOCK
23F3 |HOURGLASS WITH FLOWING SAND|BLACK MEDIUM LEFT-POINTING TRIANGLE
23F5 BLACK MEDIUM |RIGHT-POINTING TRIANGLE|UP-POINTING TRIANGLE|DOWN-POINTING TRIANGLE
23F8 |DOUBLE VERTICAL BAR|BLACK SQUARE FOR STOP|BLACK CIRCLE FOR RECORD|POWER SYMBOL
23FC |POWER ON-OFF SYMBOL|POWER ON SYMBOL|POWER SLEEP SYMBOL|OBSERVER EYE SYMBOL|SYMBOL FOR NULL
2401 SYMBOL FOR |START OF HEADING|START OF TEXT|END OF TEXT|END OF TRANSMISSION|ENQUIRY
2406 SYMBOL FOR |ACKNOWLEDGE|BELL|BACKSPACE|HORIZONTAL TABULATION|LINE FEED|VERTICAL TABULATION
240C SYMBOL FOR |FORM FEED|CARRIAGE RETURN|SHIFT OUT|SHIFT IN|DATA LINK ESCAPE|DEVICE CONTROL ONE
2412 SYMBOL FOR |DEVICE CONTROL TWO|DEVICE CONTROL THREE|DEVICE CONTROL FOUR|NEGATIVE ACKNOWLEDGE
2416 SYMBOL FOR |SYNCHRONOUS IDLE|END OF TRANSMISSION BLOCK|CANCEL|END OF MEDIUM|SUBSTITUTE|ESCAPE
241C SYMBOL FOR |FILE SEPARATOR|GROUP SEPARATOR|RECORD SEPARATOR|UNIT SEPARATOR|SPACE|DELETE
2422 |BLANK SYMBOL|OPEN BOX|SYMBOL FOR NEWLINE|SYMBOL FOR DELETE FORM TWO
2426 |SYMBOL FOR SUBSTITUTE FORM TWO
2440 OCR |HOOK|CHAIR|FORK|INVERTED FORK|BELT BUCKLE|BOW TIE|BRANCH BANK IDENTIFICATION
2447 OCR |AMOUNT OF CHECK|DASH|CUSTOMER ACCOUNT NUMBER|DOUBLE BACKSLASH
2460 CIRCLED DIGIT |ONE|TWO|THREE|FOUR|FIVE|SIX|SEVEN|EIGHT|NINE
2469 CIRCLED NUMBER |TEN|ELEVEN|TWELVE|THIRTEEN|FOURTEEN|FIFTEEN|SIXTEEN|SEVENTEEN|EIGHTEEN
2472 |CIRCLED NUMBER NINETEEN|CIRCLED NUMBER TWENTY|PARENTHESIZED DIGIT ONE
2475 PARENTHESIZED DIGIT |TWO|THREE|FOUR|FIVE|SIX|SEVEN|EIGHT|NINE
247D PARENTHESIZED NUMBER |TEN|ELEVEN|TWELVE|THIRTEEN|FOURTEEN|FIFTEEN|SIXTEEN|SEVENTEEN|EIGHTEEN
2486 |PARENTHESIZED NUMBER NINETEEN|PARENTHESIZED NUMBER TWENTY|DIGIT ONE FULL STOP
2489 DIGIT |TWO FULL STOP|THREE FULL STOP|FOUR FULL STOP|FIVE FULL STOP|SIX FULL STOP
248E |DIGIT SEVEN FULL STOP|DIGIT EIGHT FULL STOP|DIGIT NINE FULL STOP|NUMBER TEN FULL STOP
2492 NUMBER |ELEVEN FULL STOP|TWELVE FULL STOP|THIRTEEN FULL STOP|FOURTEEN FULL STOP
2496 NUMBER |FIFTEEN FULL STOP|SIXTEEN FULL STOP|SEVENTEEN FULL STOP|EIGHTEEN FULL STOP
249A |NUMBER NINETEEN FULL STOP|NUMBER TWENTY FULL STOP|PARENTHESIZED LATIN SMALL LETTER A
249D PARENTHESIZED LATIN SMALL LETTER |B|C|D|E|F|G|H|I|J|K|L|M|N|O|P|Q|R|S|T|U|V|W|X|Y|Z
24B6 CIRCLED LATIN CAPITAL LETTER |A|B|C|D|E|F|G|H|I|J|K|L|M|N|O|P|Q|R|S|T|U|V|W|X|Y|Z
24D0 CIRCLED LATIN SMALL LETTER |A|B|C|D|E|F|G|H|I|J|K|L|M|N|O|P|Q|R|S|T|U|V|W|X|Y|Z
24EA |CIRCLED DIGIT ZERO|NEGATIVE CIRCLED NUMBER ELEVEN|NEGATIVE CIRCLED NUMBER TWELVE
24ED NEGATIVE CIRCLED NUMBER |THIRTEEN|FOURTEEN|FIFTEEN|SIXTEEN|SEVENTEEN|EIGHTEEN|NINETEEN|TWENTY
24F5 DOUBLE CIRCLED DIGIT |ONE|TWO|THREE|FOUR|FIVE|SIX|SEVEN|EIGHT|NINE
24FE |DOUBLE CIRCLED NUMBER TEN|NEGATIVE CIRCLED DIGIT ZERO|BOX DRAWINGS LIGHT HORIZONTAL
2501 BOX DRAWINGS |HEAVY HORIZONTAL|LIGHT VERTICAL|HEAVY VERTICAL|LIGHT TRIPLE DASH HORIZONTAL
2505 BOX DRAWINGS |HEAVY TRIPLE DASH HORIZONTAL|LIGHT TRIPLE DASH VERTICAL
2507 BOX DRAWINGS |HEAVY TRIPLE DASH VERTICAL|LIGHT QUADRUPLE DASH HORIZONTAL
2509 BOX DRAWINGS |HEAVY QUADRUPLE DASH HORIZONTAL|LIGHT QUADRUPLE DASH VERTICAL
250B BOX DRAWINGS |HEAVY QUADRUPLE DASH VERTICAL|LIGHT DOWN AND RIGHT|DOWN LIGHT AND RIGHT HEAVY
250E BOX DRAWINGS |DOWN HEAVY AND RIGHT LIGHT|HEAVY DOWN AND RIGHT|LIGHT DOWN AND LEFT
2511 BOX DRAWINGS |DOWN LIGHT AND LEFT HEAVY|DOWN HEAVY AND LEFT LIGHT|HEAVY DOWN AND LEFT
2514 BOX DRAWINGS |LIGHT UP AND RIGHT|UP LIGHT AND RIGHT HEAVY|UP HEAVY AND RIGHT LIGHT
2517 BOX DRAWINGS |HEAVY UP AND RIGHT|LIGHT UP AND LEFT|UP LIGHT AND LEFT HEAVY
251A BOX DRAWINGS |UP HEAVY AND LEFT LIGHT|HEAVY UP AND LEFT|LIGHT VERTICAL AND RIGHT
251D BOX DRAWINGS |VERTICAL LIGHT AND RIGHT HEAVY|UP HEAVY AND RIGHT DOWN LIGHT
251F BOX DRAWINGS |DOWN HEAVY AND RIGHT UP LIGHT|VERTICAL HEAVY AND RIGHT LIGHT
2521 BOX DRAWINGS |DOWN LIGHT AND RIGHT UP HEAVY|UP LIGHT AND RIGHT DOWN HEAVY
2523 BOX DRAWINGS |HEAVY VERTICAL AND RIGHT|LIGHT VERTICAL AND LEFT|VERTICAL LIGHT AND LEFT HEAVY
2526 BOX DRAWINGS |UP HEAVY AND LEFT DOWN LIGHT|DOWN HEAVY AND LEFT UP LIGHT
2528 BOX DRAWINGS |VERTICAL HEAVY AND LEFT LIGHT|DOWN LIGHT AND LEFT UP HEAVY
252A BOX DRAWINGS |UP LIGHT AND LEFT DOWN HEAVY|HEAVY VERTICAL AND LEFT|LIGHT DOWN AND HORIZONTAL
252D BOX DRAWINGS |LEFT HEAVY AND RIGHT DOWN LIGHT|RIGHT HEAVY AND LEFT DOWN LIGHT
252F BOX DRAWINGS DOWN |LIGHT AND HORIZONTAL HEAVY|HEAVY AND HORIZONTAL LIGHT
2531 BOX DRAWINGS |RIGHT LIGHT AND LEFT DOWN HEAVY|LEFT LIGHT AND RIGHT DOWN HEAVY
2533 BOX DRAWINGS |HEAVY DOWN AND HORIZONTAL|LIGHT UP AND HORIZONTAL|LEFT HEAVY AND RIGHT UP LIGHT
2536 BOX DRAWINGS |RIGHT HEAVY AND LEFT UP LIGHT|UP LIGHT AND HORIZONTAL HEAVY
2538 BOX DRAWINGS |UP HEAVY AND HORIZONTAL LIGHT|RIGHT LIGHT AND LEFT UP HEAVY
253A BOX DRAWINGS |LEFT LIGHT AND RIGHT UP HEAVY|HEAVY UP AND HORIZONTAL
253C BOX DRAWINGS |LIGHT VERTICAL AND HORIZONTAL|LEFT HEAVY AND RIGHT VERTICAL LIGHT
253E BOX DRAWINGS |RIGHT HEAVY AND LEFT VERTICAL LIGHT|VERTICAL LIGHT AND HORIZONTAL HEAVY
2540 BOX DRAWINGS |UP HEAVY AND DOWN HORIZONTAL LIGHT|DOWN HEAVY AND UP HORIZONTAL LIGHT
2542 BOX DRAWINGS |VERTICAL HEAVY AND HORIZONTAL LIGHT|LEFT UP HEAVY AND RIGHT DOWN LIGHT
2544 BOX DRAWINGS |RIGHT UP HEAVY AND LEFT DOWN LIGHT|LEFT DOWN HEAVY AND RIGHT UP LIGHT
2546 BOX DRAWINGS |RIGHT DOWN HEAVY AND LEFT UP LIGHT|DOWN LIGHT AND UP HORIZONTAL HEAVY
2548 BOX DRAWINGS |UP LIGHT AND DOWN HORIZONTAL HEAVY|RIGHT LIGHT AND LEFT VERTICAL HEAVY
254A BOX DRAWINGS |LEFT LIGHT AND RIGHT VERTICAL HEAVY|HEAVY VERTICAL AND HORIZONTAL
254C BOX DRAWINGS |LIGHT DOUBLE DASH HORIZONTAL|HEAVY DOUBLE DASH HORIZONTAL
254E BOX DRAWINGS |LIGHT DOUBLE DASH VERTICAL|HEAVY DOUBLE DASH VERTICAL|DOUBLE HORIZONTAL
2551 BOX DRAWINGS |DOUBLE VERTICAL|DOWN SINGLE AND RIGHT DOUBLE|DOWN DOUBLE AND RIGHT SINGLE
2554 BOX DRAWINGS |DOUBLE DOWN AND RIGHT|DOWN SINGLE AND LEFT DOUBLE|DOWN DOUBLE AND LEFT SINGLE
2557 BOX DRAWINGS |DOUBLE DOWN AND LEFT|UP SINGLE AND RIGHT DOUBLE|UP DOUBLE AND RIGHT SINGLE
255A BOX DRAWINGS |DOUBLE UP AND RIGHT|UP SINGLE AND LEFT DOUBLE|UP DOUBLE AND LEFT SINGLE
255D BOX DRAWINGS |DOUBLE UP AND LEFT|VERTICAL SINGLE AND RIGHT DOUBLE
255F BOX DRAWINGS |VERTICAL DOUBLE AND RIGHT SINGLE|DOUBLE VERTICAL AND RIGHT
2561 BOX DRAWINGS VERTICAL |SINGLE AND LEFT DOUBLE|DOUBLE AND LEFT SINGLE
2563 BOX DRAWINGS |DOUBLE VERTICAL AND LEFT|DOWN SINGLE AND HORIZONTAL DOUBLE
2565 BOX DRAWINGS |DOWN DOUBLE AND HORIZONTAL SINGLE|DOUBLE DOWN AND HORIZONTAL
2567 BOX DRAWINGS UP |SINGLE AND HORIZONTAL DOUBLE|DOUBLE AND HORIZONTAL SINGLE
2569 BOX DRAWINGS |DOUBLE UP AND HORIZONTAL|VERTICAL SINGLE AND HORIZONTAL DOUBLE
256B BOX DRAWINGS |VERTICAL DOUBLE AND HORIZONTAL SINGLE|DOUBLE VERTICAL AND HORIZONTAL
256D BOX DRAWINGS LIGHT ARC |DOWN AND RIGHT|DOWN AND LEFT|UP AND LEFT|UP AND RIGHT
2571 BOX DRAWINGS LIGHT DIAGONAL |UPPER RIGHT TO LOWER LEFT|UPPER LEFT TO LOWER RIGHT|CROSS
2574 BOX DRAWINGS |LIGHT LEFT|LIGHT UP|LIGHT RIGHT|LIGHT DOWN|HEAVY LEFT|HEAVY UP|HEAVY RIGHT
257B BOX DRAWINGS |HEAVY DOWN|LIGHT LEFT AND HEAVY RIGHT|LIGHT UP AND HEAVY DOWN
257E BOX DRAWINGS HEAVY |LEFT AND LIGHT RIGHT|UP AND LIGHT DOWN
2580 |UPPER HALF BLOCK|LOWER ONE EIGHTH BLOCK|LOWER ONE QUARTER BLOCK|LOWER THREE EIGHTHS BLOCK
2584 LOWER |HALF BLOCK|FIVE EIGHTHS BLOCK|THREE QUARTERS BLOCK|SEVEN EIGHTHS BLOCK
2588 |FULL BLOCK|LEFT SEVEN EIGHTHS BLOCK|LEFT THREE QUARTERS BLOCK|LEFT FIVE EIGHTHS BLOCK
258C LEFT |HALF BLOCK|THREE EIGHTHS BLOCK|ONE QUARTER BLOCK|ONE EIGHTH BLOCK
2590 |RIGHT HALF BLOCK|LIGHT SHADE|MEDIUM SHADE|DARK SHADE|UPPER ONE EIGHTH BLOCK
2595 |RIGHT ONE EIGHTH BLOCK|QUADRANT LOWER LEFT|QUADRANT LOWER RIGHT|QUADRANT UPPER LEFT
2599 QUADRANT UPPER LEFT AND |LOWER LEFT AND LOWER RIGHT|LOWER RIGHT|UPPER RIGHT AND LOWER LEFT
259C QUADRANT UPPER |LEFT AND UPPER RIGHT AND LOWER RIGHT|RIGHT|RIGHT AND LOWER LEFT
259F |QUADRANT UPPER RIGHT AND LOWER LEFT AND LOWER RIGHT|BLACK SQUARE|WHITE SQUARE
25A2 WHITE SQUARE |WITH ROUNDED CORNERS|CONTAINING BLACK SMALL SQUARE
25A4 SQUARE WITH |HORIZONTAL FILL|VERTICAL FILL|ORTHOGONAL CROSSHATCH FILL
25A7 SQUARE WITH UPPER |LEFT TO LOWER RIGHT FILL|RIGHT TO LOWER LEFT FILL
25A9 |SQUARE WITH DIAGONAL CROSSHATCH FILL|BLACK SMALL SQUARE|WHITE SMALL SQUARE|BLACK RECTANGLE
25AD |WHITE RECTANGLE|BLACK VERTICAL RECTANGLE|WHITE VERTICAL RECTANGLE|BLACK PARALLELOGRAM
25B1 |WHITE PARALLELOGRAM|BLACK UP-POINTING TRIANGLE|WHITE UP-POINTING TRIANGLE
25B4 |BLACK UP-POINTING SMALL TRIANGLE|WHITE UP-POINTING SMALL TRIANGLE
25B6 |BLACK RIGHT-POINTING TRIANGLE|WHITE RIGHT-POINTING TRIANGLE
25B8 |BLACK RIGHT-POINTING SMALL TRIANGLE|WHITE RIGHT-POINTING SMALL TRIANGLE
25BA |BLACK RIGHT-POINTING POINTER|WHITE RIGHT-POINTING POINTER|BLACK DOWN-POINTING TRIANGLE
25BD |WHITE DOWN-POINTING TRIANGLE|BLACK DOWN-POINTING SMALL TRIANGLE
25BF |WHITE DOWN-POINTING SMALL TRIANGLE|BLACK LEFT-POINTING TRIANGLE|WHITE LEFT-POINTING TRIANGLE
25C2 |BLACK LEFT-POINTING SMALL TRIANGLE|WHITE LEFT-POINTING SMALL TRIANGLE
25C4 |BLACK LEFT-POINTING POINTER|WHITE LEFT-POINTING POINTER|BLACK DIAMOND|WHITE DIAMOND
25C8 |WHITE DIAMOND CONTAINING BLACK SMALL DIAMOND|FISHEYE|LOZENGE|WHITE CIRCLE|DOTTED CIRCLE
25CD |CIRCLE WITH VERTICAL FILL|BULLSEYE|BLACK CIRCLE|CIRCLE WITH LEFT HALF BLACK
25D1 CIRCLE WITH |RIGHT HALF BLACK|LOWER HALF BLACK|UPPER HALF BLACK|UPPER RIGHT QUADRANT BLACK
25D5 |CIRCLE WITH ALL BUT UPPER LEFT QUADRANT BLACK|LEFT HALF BLACK CIRCLE|RIGHT HALF BLACK CIRCLE
25D8 |INVERSE BULLET|INVERSE WHITE CIRCLE|UPPER HALF INVERSE WHITE CIRCLE
25DB |LOWER HALF INVERSE WHITE CIRCLE|UPPER LEFT QUADRANT CIRCULAR ARC
25DD |UPPER RIGHT QUADRANT CIRCULAR ARC|LOWER RIGHT QUADRANT CIRCULAR ARC
25DF |LOWER LEFT QUADRANT CIRCULAR ARC|UPPER HALF CIRCLE|LOWER HALF CIRCLE
25E2 BLACK |LOWER RIGHT TRIANGLE|LOWER LEFT TRIANGLE|UPPER LEFT TRIANGLE|UPPER RIGHT TRIANGLE
25E6 |WHITE BULLET|SQUARE WITH LEFT HALF BLACK|SQUARE WITH RIGHT HALF BLACK
25E9 SQUARE WITH |UPPER LEFT DIAGONAL HALF BLACK|LOWER RIGHT DIAGONAL HALF BLACK
25EB WHITE |SQUARE WITH VERTICAL BISECTING LINE|UP-POINTING TRIANGLE WITH DOT
25ED UP-POINTING TRIANGLE WITH |LEFT HALF BLACK|RIGHT HALF BLACK
25EF |LARGE CIRCLE|WHITE SQUARE WITH UPPER LEFT QUADRANT|WHITE SQUARE WITH LOWER LEFT QUADRANT
25F2 WHITE SQUARE WITH |LOWER RIGHT QUADRANT|UPPER RIGHT QUADRANT
25F4 WHITE CIRCLE WITH |UPPER LEFT QUADRANT|LOWER LEFT QUADRANT|LOWER RIGHT QUADRANT
25F7 |WHITE CIRCLE WITH UPPER RIGHT QUADRANT|UPPER LEFT TRIANGLE|UPPER RIGHT TRIANGLE
25FA |LOWER LEFT TRIANGLE|WHITE MEDIUM SQUARE|BLACK MEDIUM SQUARE|WHITE MEDIUM SMALL SQUARE
25FE |BLACK MEDIUM SMALL SQUARE|LOWER RIGHT TRIANGLE|BLACK SUN WITH RAYS|CLOUD|UMBRELLA|SNOWMAN
2604 |COMET|BLACK STAR|WHITE STAR|LIGHTNING|THUNDERSTORM|SUN|ASCENDING NODE|DESCENDING NODE
260C |CONJUNCTION|OPPOSITION|BLACK TELEPHONE|WHITE TELEPHONE|BALLOT BOX|BALLOT BOX WITH CHECK
2612 |BALLOT BOX WITH X|SALTIRE|UMBRELLA WITH RAIN DROPS|HOT BEVERAGE|WHITE SHOGI PIECE
2617 |BLACK SHOGI PIECE|SHAMROCK|REVERSED ROTATED FLORAL HEART BULLET|BLACK LEFT POINTING INDEX
261B |BLACK RIGHT POINTING INDEX|WHITE LEFT POINTING INDEX|WHITE UP POINTING INDEX
261E |WHITE RIGHT POINTING INDEX|WHITE DOWN POINTING INDEX|SKULL AND CROSSBONES|CAUTION SIGN
2622 |RADIOACTIVE SIGN|BIOHAZARD SIGN|CADUCEUS|ANKH|ORTHODOX CROSS|CHI RHO|CROSS OF LORRAINE
2629 |CROSS OF JERUSALEM|STAR AND CRESCENT|FARSI SYMBOL|ADI SHAKTI|HAMMER AND SICKLE|PEACE SYMBOL
262F |YIN YANG|TRIGRAM FOR HEAVEN|TRIGRAM FOR LAKE|TRIGRAM FOR FIRE|TRIGRAM FOR THUNDER
2634 |TRIGRAM FOR WIND|TRIGRAM FOR WATER|TRIGRAM FOR MOUNTAIN|TRIGRAM FOR EARTH|WHEEL OF DHARMA
2639 |WHITE FROWNING FACE|WHITE SMILING FACE|BLACK SMILING FACE|WHITE SUN WITH RAYS
263D |FIRST QUARTER MOON|LAST QUARTER MOON|MERCURY|FEMALE SIGN|EARTH|MALE SIGN|JUPITER|SATURN
2645 |URANUS|NEPTUNE|PLUTO|ARIES|TAURUS|GEMINI|CANCER|LEO|VIRGO|LIBRA|SCORPIUS|SAGITTARIUS
2651 |CAPRICORN|AQUARIUS|PISCES|WHITE CHESS KING|WHITE CHESS QUEEN|WHITE CHESS ROOK
2657 |WHITE CHESS BISHOP|WHITE CHESS KNIGHT|WHITE CHESS PAWN|BLACK CHESS KING|BLACK CHESS QUEEN
265C BLACK |CHESS ROOK|CHESS BISHOP|CHESS KNIGHT|CHESS PAWN|SPADE SUIT
2661 |WHITE HEART SUIT|WHITE DIAMOND SUIT|BLACK CLUB SUIT|WHITE SPADE SUIT|BLACK HEART SUIT
2666 |BLACK DIAMOND SUIT|WHITE CLUB SUIT|HOT SPRINGS|QUARTER NOTE|EIGHTH NOTE|BEAMED EIGHTH NOTES
266C |BEAMED SIXTEENTH NOTES|MUSIC FLAT SIGN|MUSIC NATURAL SIGN|MUSIC SHARP SIGN|WEST SYRIAC CROSS
2671 |EAST SYRIAC CROSS|UNIVERSAL RECYCLING SYMBOL|RECYCLING SYMBOL FOR TYPE-1 PLASTICS
2674 RECYCLING SYMBOL FOR |TYPE-2 PLASTICS|TYPE-3 PLASTICS|TYPE-4 PLASTICS|TYPE-5 PLASTICS
2678 RECYCLING SYMBOL FOR |TYPE-6 PLASTICS|TYPE-7 PLASTICS|GENERIC MATERIALS
267B |BLACK UNIVERSAL RECYCLING SYMBOL|RECYCLED PAPER SYMBOL|PARTIALLY-RECYCLED PAPER SYMBOL
267E |PERMANENT PAPER SIGN|WHEELCHAIR SYMBOL|DIE FACE-1|DIE FACE-2|DIE FACE-3|DIE FACE-4
2684 |DIE FACE-5|DIE FACE-6|WHITE CIRCLE WITH DOT RIGHT|WHITE CIRCLE WITH TWO DOTS
2688 |BLACK CIRCLE WITH WHITE DOT RIGHT|BLACK CIRCLE WITH TWO WHITE DOTS|MONOGRAM FOR YANG
268B |MONOGRAM FOR YIN|DIGRAM FOR GREATER YANG|DIGRAM FOR LESSER YIN|DIGRAM FOR LESSER YANG
268F |DIGRAM FOR GREATER YIN|WHITE FLAG|BLACK FLAG|HAMMER AND PICK|ANCHOR|CROSSED SWORDS
2695 |STAFF OF AESCULAPIUS|SCALES|ALEMBIC|FLOWER|GEAR|STAFF OF HERMES|ATOM SYMBOL|FLEUR-DE-LIS
269D |OUTLINED WHITE STAR|THREE LINES CONVERGING RIGHT|THREE LINES CONVERGING LEFT|WARNING SIGN
26A1 |HIGH VOLTAGE SIGN|DOUBLED FEMALE SIGN|DOUBLED MALE SIGN|INTERLOCKED FEMALE AND MALE SIGN
26A5 MALE |AND FEMALE SIGN|WITH STROKE SIGN|WITH STROKE AND MALE AND FEMALE SIGN
26A8 |VERTICAL MALE WITH STROKE SIGN|HORIZONTAL MALE WITH STROKE SIGN|MEDIUM WHITE CIRCLE
26AB |MEDIUM BLACK CIRCLE|MEDIUM SMALL WHITE CIRCLE|MARRIAGE SYMBOL|DIVORCE SYMBOL
26AF |UNMARRIED PARTNERSHIP SYMBOL|COFFIN|FUNERAL URN|NEUTER|CERES|PALLAS|JUNO|VESTA|CHIRON
26B8 |BLACK MOON LILITH|SEXTILE|SEMISEXTILE|QUINCUNX|SESQUIQUADRATE|SOCCER BALL|BASEBALL
26BF |SQUARED KEY|WHITE DRAUGHTS MAN|WHITE DRAUGHTS KING|BLACK DRAUGHTS MAN|BLACK DRAUGHTS KING
26C4 |SNOWMAN WITHOUT SNOW|SUN BEHIND CLOUD|RAIN|BLACK SNOWMAN|THUNDER CLOUD AND RAIN
26C9 |TURNED WHITE SHOGI PIECE|TURNED BLACK SHOGI PIECE|WHITE DIAMOND IN SQUARE|CROSSING LANES
26CD |DISABLED CAR|OPHIUCHUS|PICK|CAR SLIDING|HELMET WITH WHITE CROSS|CIRCLED CROSSING LANES
26D3 |CHAINS|NO ENTRY|ALTERNATE ONE-WAY LEFT WAY TRAFFIC|BLACK TWO-WAY LEFT WAY TRAFFIC
26D7 |WHITE TWO-WAY LEFT WAY TRAFFIC|BLACK LEFT LANE MERGE|WHITE LEFT LANE MERGE|DRIVE SLOW SIGN
26DB |HEAVY WHITE DOWN-POINTING TRIANGLE|LEFT CLOSED ENTRY|SQUARED SALTIRE
26DE |FALLING DIAGONAL IN WHITE CIRCLE IN BLACK SQUARE|BLACK TRUCK|RESTRICTED LEFT ENTRY-1
26E1 |RESTRICTED LEFT ENTRY-2|ASTRONOMICAL SYMBOL FOR URANUS
26E3 |HEAVY CIRCLE WITH STROKE AND TWO DOTS ABOVE|PENTAGRAM|RIGHT-HANDED INTERLACED PENTAGRAM
26E6 |LEFT-HANDED INTERLACED PENTAGRAM|INVERTED PENTAGRAM|BLACK CROSS ON SHIELD|SHINTO SHRINE
26EA |CHURCH|CASTLE|HISTORIC SITE|GEAR WITHOUT HUB|GEAR WITH HANDLES|MAP SYMBOL FOR LIGHTHOUSE
26F0 |MOUNTAIN|UMBRELLA ON GROUND|FOUNTAIN|FLAG IN HOLE|FERRY|SAILBOAT|SQUARE FOUR CORNERS|SKIER
26F8 |ICE SKATE|PERSON WITH BALL|TENT|JAPANESE BANK SYMBOL|HEADSTONE GRAVEYARD SYMBOL|FUEL PUMP
26FE |CUP ON BLACK SQUARE|WHITE FLAG WITH HORIZONTAL MIDDLE BLACK STRIPE|BLACK SAFETY SCISSORS
2701 |UPPER BLADE SCISSORS|BLACK SCISSORS|LOWER BLADE SCISSORS|WHITE SCISSORS
2705 |WHITE HEAVY CHECK MARK|TELEPHONE LOCATION SIGN|TAPE DRIVE|AIRPLANE|ENVELOPE|RAISED FIST
270B |RAISED HAND|VICTORY HAND|WRITING HAND|LOWER RIGHT PENCIL|PENCIL|UPPER RIGHT PENCIL|WHITE NIB
2712 |BLACK NIB|CHECK MARK|HEAVY CHECK MARK|MULTIPLICATION X|HEAVY MULTIPLICATION X|BALLOT X
2718 |HEAVY BALLOT X|OUTLINED GREEK CROSS|HEAVY GREEK CROSS|OPEN CENTRE CROSS
271C |HEAVY OPEN CENTRE CROSS|LATIN CROSS|SHADOWED WHITE LATIN CROSS|OUTLINED LATIN CROSS
2720 |MALTESE CROSS|STAR OF DAVID|FOUR TEARDROP-SPOKED ASTERISK|FOUR BALLOON-SPOKED ASTERISK
2724 |HEAVY FOUR BALLOON-SPOKED ASTERISK|FOUR CLUB-SPOKED ASTERISK|BLACK FOUR POINTED STAR
2727 |WHITE FOUR POINTED STAR|SPARKLES|STRESS OUTLINED WHITE STAR|CIRCLED WHITE STAR
272B |OPEN CENTRE BLACK STAR|BLACK CENTRE WHITE STAR|OUTLINED BLACK STAR|HEAVY OUTLINED BLACK STAR
272F |PINWHEEL STAR|SHADOWED WHITE STAR|HEAVY ASTERISK|OPEN CENTRE ASTERISK|EIGHT SPOKED ASTERISK
2734 |EIGHT POINTED BLACK STAR|EIGHT POINTED PINWHEEL STAR|SIX POINTED BLACK STAR
2737 |EIGHT POINTED RECTILINEAR BLACK STAR|HEAVY EIGHT POINTED RECTILINEAR BLACK STAR
2739 |TWELVE POINTED BLACK STAR|SIXTEEN POINTED ASTERISK|TEARDROP-SPOKED ASTERISK
273C |OPEN CENTRE TEARDROP-SPOKED ASTERISK|HEAVY TEARDROP-SPOKED ASTERISK
273E |SIX PETALLED BLACK AND WHITE FLORETTE|BLACK FLORETTE|WHITE FLORETTE
2741 |EIGHT PETALLED OUTLINED BLACK FLORETTE|CIRCLED OPEN CENTRE EIGHT POINTED STAR
2743 |HEAVY TEARDROP-SPOKED PINWHEEL ASTERISK|SNOWFLAKE|TIGHT TRIFOLIATE SNOWFLAKE
2746 |HEAVY CHEVRON SNOWFLAKE|SPARKLE|HEAVY SPARKLE|BALLOON-SPOKED ASTERISK
274A |EIGHT TEARDROP-SPOKED PROPELLER ASTERISK|HEAVY EIGHT TEARDROP-SPOKED PROPELLER ASTERISK
274C |CROSS MARK|SHADOWED WHITE CIRCLE|NEGATIVE SQUARED CROSS MARK
274F |LOWER RIGHT DROP-SHADOWED WHITE SQUARE|UPPER RIGHT DROP-SHADOWED WHITE SQUARE
2751 |LOWER RIGHT SHADOWED WHITE SQUARE|UPPER RIGHT SHADOWED WHITE SQUARE
2753 |BLACK QUESTION MARK ORNAMENT|WHITE QUESTION MARK ORNAMENT|WHITE EXCLAMATION MARK ORNAMENT
2756 |BLACK DIAMOND MINUS WHITE X|HEAVY EXCLAMATION MARK SYMBOL|LIGHT VERTICAL BAR
2759 |MEDIUM VERTICAL BAR|HEAVY VERTICAL BAR|HEAVY SINGLE TURNED COMMA QUOTATION MARK ORNAMENT
275C HEAVY |SINGLE COMMA QUOTATION MARK ORNAMENT|DOUBLE TURNED COMMA QUOTATION MARK ORNAMENT
275E HEAVY |DOUBLE COMMA QUOTATION MARK ORNAMENT|LOW SINGLE COMMA QUOTATION MARK ORNAMENT
2760 |HEAVY LOW DOUBLE COMMA QUOTATION MARK ORNAMENT|CURVED STEM PARAGRAPH SIGN ORNAMENT
2762 HEAVY |EXCLAMATION MARK ORNAMENT|HEART EXCLAMATION MARK ORNAMENT|BLACK HEART
2765 |ROTATED HEAVY BLACK HEART BULLET|FLORAL HEART|ROTATED FLORAL HEART BULLET
2768 MEDIUM |LEFT PARENTHESIS ORNAMENT|RIGHT PARENTHESIS ORNAMENT
276A MEDIUM FLATTENED |LEFT PARENTHESIS ORNAMENT|RIGHT PARENTHESIS ORNAMENT
276C MEDIUM |LEFT-POINTING ANGLE BRACKET ORNAMENT|RIGHT-POINTING ANGLE BRACKET ORNAMENT
276E |HEAVY LEFT-POINTING ANGLE QUOTATION MARK ORNAMENT
276F HEAVY |RIGHT-POINTING ANGLE QUOTATION MARK ORNAMENT|LEFT-POINTING ANGLE BRACKET ORNAMENT
2771 |HEAVY RIGHT-POINTING ANGLE BRACKET ORNAMENT|LIGHT LEFT TORTOISE SHELL BRACKET ORNAMENT
2773 |LIGHT RIGHT TORTOISE SHELL BRACKET ORNAMENT|MEDIUM LEFT CURLY BRACKET ORNAMENT
2775 |MEDIUM RIGHT CURLY BRACKET ORNAMENT|DINGBAT NEGATIVE CIRCLED DIGIT ONE
2777 DINGBAT NEGATIVE CIRCLED DIGIT |TWO|THREE|FOUR|FIVE|SIX|SEVEN|EIGHT|NINE
277F DINGBAT |NEGATIVE CIRCLED NUMBER TEN|CIRCLED SANS-SERIF DIGIT ONE
2781 DINGBAT CIRCLED SANS-SERIF DIGIT |TWO|THREE|FOUR|FIVE|SIX|SEVEN|EIGHT|NINE
2789 DINGBAT |CIRCLED SANS-SERIF NUMBER TEN|NEGATIVE CIRCLED SANS-SERIF DIGIT ONE
278B DINGBAT NEGATIVE CIRCLED SANS-SERIF DIGIT |TWO|THREE|FOUR|FIVE|SIX|SEVEN|EIGHT|NINE
2793 |DINGBAT NEGATIVE CIRCLED SANS-SERIF NUMBER TEN|HEAVY WIDE-HEADED RIGHTWARDS ARROW
2795 HEAVY |PLUS SIGN|MINUS SIGN|DIVISION SIGN|SOUTH EAST ARROW|RIGHTWARDS ARROW|NORTH EAST ARROW
279B |DRAFTING POINT RIGHTWARDS ARROW|HEAVY ROUND-TIPPED RIGHTWARDS ARROW
279D |TRIANGLE-HEADED RIGHTWARDS ARROW|HEAVY TRIANGLE-HEADED RIGHTWARDS ARROW
279F |DASHED TRIANGLE-HEADED RIGHTWARDS ARROW|HEAVY DASHED TRIANGLE-HEADED RIGHTWARDS ARROW
27A1 |BLACK RIGHTWARDS ARROW|THREE-D TOP-LIGHTED RIGHTWARDS ARROWHEAD
27A3 |THREE-D BOTTOM-LIGHTED RIGHTWARDS ARROWHEAD|BLACK RIGHTWARDS ARROWHEAD
27A5 HEAVY BLACK CURVED |DOWNWARDS AND RIGHTWARDS ARROW|UPWARDS AND RIGHTWARDS ARROW
27A7 |SQUAT BLACK RIGHTWARDS ARROW|HEAVY CONCAVE-POINTED BLACK RIGHTWARDS ARROW
27A9 |RIGHT-SHADED WHITE RIGHTWARDS ARROW|LEFT-SHADED WHITE RIGHTWARDS ARROW
27AB |BACK-TILTED SHADOWED WHITE RIGHTWARDS ARROW|FRONT-TILTED SHADOWED WHITE RIGHTWARDS ARROW
27AD |HEAVY LOWER RIGHT-SHADOWED WHITE RIGHTWARDS ARROW
27AE |HEAVY UPPER RIGHT-SHADOWED WHITE RIGHTWARDS ARROW
27AF |NOTCHED LOWER RIGHT-SHADOWED WHITE RIGHTWARDS ARROW|CURLY LOOP
27B1 |NOTCHED UPPER RIGHT-SHADOWED WHITE RIGHTWARDS ARROW|CIRCLED HEAVY WHITE RIGHTWARDS ARROW
27B3 |WHITE-FEATHERED RIGHTWARDS ARROW|BLACK-FEATHERED SOUTH EAST ARROW
27B5 BLACK-FEATHERED |RIGHTWARDS ARROW|NORTH EAST ARROW
27B7 HEAVY BLACK-FEATHERED |SOUTH EAST ARROW|RIGHTWARDS ARROW|NORTH EAST ARROW
27BA |TEARDROP-BARBED RIGHTWARDS ARROW|HEAVY TEARDROP-SHANKED RIGHTWARDS ARROW
27BC |WEDGE-TAILED RIGHTWARDS ARROW|HEAVY WEDGE-TAILED RIGHTWARDS ARROW
27BE |OPEN-OUTLINED RIGHTWARDS ARROW|DOUBLE CURLY LOOP|THREE DIMENSIONAL ANGLE
27C1 |WHITE TRIANGLE CONTAINING SMALL WHITE TRIANGLE|PERPENDICULAR|OPEN SUBSET|OPEN SUPERSET
27C5 |LEFT S-SHAPED BAG DELIMITER|RIGHT S-SHAPED BAG DELIMITER|OR WITH DOT INSIDE
27C8 |REVERSE SOLIDUS PRECEDING SUBSET|SUPERSET PRECEDING SOLIDUS
27CA |VERTICAL BAR WITH HORIZONTAL STROKE|MATHEMATICAL RISING DIAGONAL|LONG DIVISION
27CD |MATHEMATICAL FALLING DIAGONAL|SQUARED LOGICAL AND|SQUARED LOGICAL OR
27D0 |WHITE DIAMOND WITH CENTRED DOT|AND WITH DOT|ELEMENT OF OPENING UPWARDS
27D3 |LOWER RIGHT CORNER WITH DOT|UPPER LEFT CORNER WITH DOT|LEFT OUTER JOIN|RIGHT OUTER JOIN
27D7 |FULL OUTER JOIN|LARGE UP TACK|LARGE DOWN TACK|LEFT AND RIGHT DOUBLE TURNSTILE
27DB |LEFT AND RIGHT TACK|LEFT MULTIMAP|LONG RIGHT TACK|LONG LEFT TACK|UP TACK WITH CIRCLE ABOVE
27E0 |LOZENGE DIVIDED BY HORIZONTAL RULE|WHITE CONCAVE-SIDED DIAMOND
27E2 WHITE CONCAVE-SIDED DIAMOND WITH |LEFTWARDS TICK|RIGHTWARDS TICK
27E4 WHITE SQUARE WITH |LEFTWARDS TICK|RIGHTWARDS TICK
27E6 MATHEMATICAL |LEFT WHITE SQUARE BRACKET|RIGHT WHITE SQUARE BRACKET|LEFT ANGLE BRACKET
27E9 MATHEMATICAL |RIGHT ANGLE BRACKET|LEFT DOUBLE ANGLE BRACKET|RIGHT DOUBLE ANGLE BRACKET
27EC MATHEMATICAL |LEFT WHITE TORTOISE SHELL BRACKET|RIGHT WHITE TORTOISE SHELL BRACKET
27EE MATHEMATICAL |LEFT FLATTENED PARENTHESIS|RIGHT FLATTENED PARENTHESIS
27F0 |UPWARDS QUADRUPLE ARROW|DOWNWARDS QUADRUPLE ARROW|ANTICLOCKWISE GAPPED CIRCLE ARROW
27F3 |CLOCKWISE GAPPED CIRCLE ARROW|RIGHT ARROW WITH CIRCLED PLUS|LONG LEFTWARDS ARROW
27F6 LONG |RIGHTWARDS ARROW|LEFT RIGHT ARROW|LEFTWARDS DOUBLE ARROW|RIGHTWARDS DOUBLE ARROW
27FA LONG |LEFT RIGHT DOUBLE ARROW|LEFTWARDS ARROW FROM BAR|RIGHTWARDS ARROW FROM BAR
27FD LONG |LEFTWARDS DOUBLE ARROW FROM BAR|RIGHTWARDS DOUBLE ARROW FROM BAR
27FF |LONG RIGHTWARDS SQUIGGLE ARROW|BRAILLE PATTERN BLANK|BRAILLE PATTERN DOTS-1
2802 BRAILLE PATTERN |DOTS-2|DOTS-12|DOTS-3|DOTS-13|DOTS-23|DOTS-123|DOTS-4|DOTS-14|DOTS-24
280B BRAILLE PATTERN |DOTS-124|DOTS-34|DOTS-134|DOTS-234|DOTS-1234|DOTS-5|DOTS-15|DOTS-25|DOTS-125
2814 BRAILLE PATTERN |DOTS-35|DOTS-135|DOTS-235|DOTS-1235|DOTS-45|DOTS-145|DOTS-245|DOTS-1245
281C BRAILLE PATTERN |DOTS-345|DOTS-1345|DOTS-2345|DOTS-12345|DOTS-6|DOTS-16|DOTS-26|DOTS-126
2824 BRAILLE PATTERN |DOTS-36|DOTS-136|DOTS-236|DOTS-1236|DOTS-46|DOTS-146|DOTS-246|DOTS-1246
282C BRAILLE PATTERN |DOTS-346|DOTS-1346|DOTS-2346|DOTS-12346|DOTS-56|DOTS-156|DOTS-256|DOTS-1256
2834 BRAILLE PATTERN |DOTS-356|DOTS-1356|DOTS-2356|DOTS-12356|DOTS-456|DOTS-1456|DOTS-2456
283B BRAILLE PATTERN |DOTS-12456|DOTS-3456|DOTS-13456|DOTS-23456|DOTS-123456|DOTS-7|DOTS-17
2842 BRAILLE PATTERN |DOTS-27|DOTS-127|DOTS-37|DOTS-137|DOTS-237|DOTS-1237|DOTS-47|DOTS-147
284A BRAILLE PATTERN |DOTS-247|DOTS-1247|DOTS-347|DOTS-1347|DOTS-2347|DOTS-12347|DOTS-57|DOTS-157
2852 BRAILLE PATTERN |DOTS-257|DOTS-1257|DOTS-357|DOTS-1357|DOTS-2357|DOTS-12357|DOTS-457
2859 BRAILLE PATTERN |DOTS-1457|DOTS-2457|DOTS-12457|DOTS-3457|DOTS-13457|DOTS-23457|DOTS-123457
2860 BRAILLE PATTERN |DOTS-67|DOTS-167|DOTS-267|DOTS-1267|DOTS-367|DOTS-1367|DOTS-2367|DOTS-12367
2868 BRAILLE PATTERN |DOTS-467|DOTS-1467|DOTS-2467|DOTS-12467|DOTS-3467|DOTS-13467|DOTS-23467
286F BRAILLE PATTERN |DOTS-123467|DOTS-567|DOTS-1567|DOTS-2567|DOTS-12567|DOTS-3567|DOTS-13567
2876 BRAILLE PATTERN |DOTS-23567|DOTS-123567|DOTS-4567|DOTS-14567|DOTS-24567|DOTS-124567
287C BRAILLE PATTERN |DOTS-34567|DOTS-134567|DOTS-234567|DOTS-1234567|DOTS-8|DOTS-18|DOTS-28
2883 BRAILLE PATTERN |DOTS-128|DOTS-38|DOTS-138|DOTS-238|DOTS-1238|DOTS-48|DOTS-148|DOTS-248
288B BRAILLE PATTERN |DOTS-1248|DOTS-348|DOTS-1348|DOTS-2348|DOTS-12348|DOTS-58|DOTS-158|DOTS-258
2893 BRAILLE PATTERN |DOTS-1258|DOTS-358|DOTS-1358|DOTS-2358|DOTS-12358|DOTS-458|DOTS-1458
289A BRAILLE PATTERN |DOTS-2458|DOTS-12458|DOTS-3458|DOTS-13458|DOTS-23458|DOTS-123458|DOTS-68
28A1 BRAILLE PATTERN |DOTS-168|DOTS-268|DOTS-1268|DOTS-368|DOTS-1368|DOTS-2368|DOTS-12368|DOTS-468
28A9 BRAILLE PATTERN |DOTS-1468|DOTS-2468|DOTS-12468|DOTS-3468|DOTS-13468|DOTS-23468|DOTS-123468
28B0 BRAILLE PATTERN |DOTS-568|DOTS-1568|DOTS-2568|DOTS-12568|DOTS-3568|DOTS-13568|DOTS-23568
28B7 BRAILLE PATTERN |DOTS-123568|DOTS-4568|DOTS-14568|DOTS-24568|DOTS-124568|DOTS-34568
28BD BRAILLE PATTERN |DOTS-134568|DOTS-234568|DOTS-1234568|DOTS-78|DOTS-178|DOTS-278|DOTS-1278
28C4 BRAILLE PATTERN |DOTS-378|DOTS-1378|DOTS-2378|DOTS-12378|DOTS-478|DOTS-1478|DOTS-2478
28CB BRAILLE PATTERN |DOTS-12478|DOTS-3478|DOTS-13478|DOTS-23478|DOTS-123478|DOTS-578|DOTS-1578
28D2 BRAILLE PATTERN |DOTS-2578|DOTS-12578|DOTS-3578|DOTS-13578|DOTS-23578|DOTS-123578|DOTS-4578
28D9 BRAILLE PATTERN |DOTS-14578|DOTS-24578|DOTS-124578|DOTS-34578|DOTS-134578|DOTS-234578
28DF BRAILLE PATTERN |DOTS-1234578|DOTS-678|DOTS-1678|DOTS-2678|DOTS-12678|DOTS-3678|DOTS-13678
28E6 BRAILLE PATTERN |DOTS-23678|DOTS-123678|DOTS-4678|DOTS-14678|DOTS-24678|DOTS-124678
28EC BRAILLE PATTERN |DOTS-34678|DOTS-134678|DOTS-234678|DOTS-1234678|DOTS-5678|DOTS-15678
28F2 BRAILLE PATTERN |DOTS-25678|DOTS-125678|DOTS-35678|DOTS-135678|DOTS-235678|DOTS-1235678
28F8 BRAILLE PATTERN |DOTS-45678|DOTS-145678|DOTS-245678|DOTS-1245678|DOTS-345678|DOTS-1345678
28FE BRAILLE PATTERN |DOTS-2345678|DOTS-12345678
2900 RIGHTWARDS TWO-HEADED ARROW WITH |VERTICAL STROKE|DOUBLE VERTICAL STROKE
2902 |LEFTWARDS DOUBLE ARROW WITH VERTICAL STROKE|RIGHTWARDS DOUBLE ARROW WITH VERTICAL STROKE
2904 |LEFT RIGHT DOUBLE ARROW WITH VERTICAL STROKE|RIGHTWARDS TWO-HEADED ARROW FROM BAR
2906 |LEFTWARDS DOUBLE ARROW FROM BAR|RIGHTWARDS DOUBLE ARROW FROM BAR
2908 |DOWNWARDS ARROW WITH HORIZONTAL STROKE|UPWARDS ARROW WITH HORIZONTAL STROKE
290A |UPWARDS TRIPLE ARROW|DOWNWARDS TRIPLE ARROW|LEFTWARDS DOUBLE DASH ARROW
290D |RIGHTWARDS DOUBLE DASH ARROW|LEFTWARDS TRIPLE DASH ARROW|RIGHTWARDS TRIPLE DASH ARROW
2910 RIGHTWARDS |TWO-HEADED TRIPLE DASH ARROW|ARROW WITH DOTTED STEM
2912 |UPWARDS ARROW TO BAR|DOWNWARDS ARROW TO BAR|RIGHTWARDS ARROW WITH TAIL WITH VERTICAL STROKE
2915 RIGHTWARDS |ARROW WITH TAIL WITH DOUBLE VERTICAL STROKE|TWO-HEADED ARROW WITH TAIL
2917 RIGHTWARDS TWO-HEADED ARROW WITH TAIL WITH |VERTICAL STROKE|DOUBLE VERTICAL STROKE
2919 |LEFTWARDS ARROW-TAIL|RIGHTWARDS ARROW-TAIL|LEFTWARDS DOUBLE ARROW-TAIL
291C |RIGHTWARDS DOUBLE ARROW-TAIL|LEFTWARDS ARROW TO BLACK DIAMOND
291E |RIGHTWARDS ARROW TO BLACK DIAMOND|LEFTWARDS ARROW FROM BAR TO BLACK DIAMOND
2920 |RIGHTWARDS ARROW FROM BAR TO BLACK DIAMOND|NORTH WEST AND SOUTH EAST ARROW
2922 NORTH |EAST AND SOUTH WEST ARROW|WEST ARROW WITH HOOK|EAST ARROW WITH HOOK
2925 |SOUTH EAST ARROW WITH HOOK|SOUTH WEST ARROW WITH HOOK|NORTH WEST ARROW AND NORTH EAST ARROW
2928 |NORTH EAST ARROW AND SOUTH EAST ARROW|SOUTH EAST ARROW AND SOUTH WEST ARROW
292A |SOUTH WEST ARROW AND NORTH WEST ARROW|RISING DIAGONAL CROSSING FALLING DIAGONAL
292C |FALLING DIAGONAL CROSSING RISING DIAGONAL|SOUTH EAST ARROW CROSSING NORTH EAST ARROW
292E |NORTH EAST ARROW CROSSING SOUTH EAST ARROW|FALLING DIAGONAL CROSSING NORTH EAST ARROW
2930 |RISING DIAGONAL CROSSING SOUTH EAST ARROW|NORTH EAST ARROW CROSSING NORTH WEST ARROW
2932 |NORTH WEST ARROW CROSSING NORTH EAST ARROW|WAVE ARROW POINTING DIRECTLY RIGHT
2934 ARROW POINTING RIGHTWARDS THEN CURVING |UPWARDS|DOWNWARDS
2936 ARROW POINTING DOWNWARDS THEN CURVING |LEFTWARDS|RIGHTWARDS
2938 |RIGHT-SIDE ARC CLOCKWISE ARROW|LEFT-SIDE ARC ANTICLOCKWISE ARROW|TOP ARC ANTICLOCKWISE ARROW
293B |BOTTOM ARC ANTICLOCKWISE ARROW|TOP ARC CLOCKWISE ARROW WITH MINUS
293D |TOP ARC ANTICLOCKWISE ARROW WITH PLUS|LOWER RIGHT SEMICIRCULAR CLOCKWISE ARROW
293F |LOWER LEFT SEMICIRCULAR ANTICLOCKWISE ARROW|ANTICLOCKWISE CLOSED CIRCLE ARROW
2941 |CLOCKWISE CLOSED CIRCLE ARROW|RIGHTWARDS ARROW ABOVE SHORT LEFTWARDS ARROW
2943 |LEFTWARDS ARROW ABOVE SHORT RIGHTWARDS ARROW|SHORT RIGHTWARDS ARROW ABOVE LEFTWARDS ARROW
2945 |RIGHTWARDS ARROW WITH PLUS BELOW|LEFTWARDS ARROW WITH PLUS BELOW|RIGHTWARDS ARROW THROUGH X
2948 |LEFT RIGHT ARROW THROUGH SMALL CIRCLE|UPWARDS TWO-HEADED ARROW FROM SMALL CIRCLE
294A LEFT BARB |UP RIGHT BARB DOWN HARPOON|DOWN RIGHT BARB UP HARPOON
294C UP BARB |RIGHT DOWN BARB LEFT HARPOON|LEFT DOWN BARB RIGHT HARPOON
294E |LEFT BARB UP RIGHT BARB UP HARPOON|UP BARB RIGHT DOWN BARB RIGHT HARPOON
2950 |LEFT BARB DOWN RIGHT BARB DOWN HARPOON|UP BARB LEFT DOWN BARB LEFT HARPOON
2952 |LEFTWARDS HARPOON WITH BARB UP TO BAR|RIGHTWARDS HARPOON WITH BARB UP TO BAR
2954 |UPWARDS HARPOON WITH BARB RIGHT TO BAR|DOWNWARDS HARPOON WITH BARB RIGHT TO BAR
2956 |LEFTWARDS HARPOON WITH BARB DOWN TO BAR|RIGHTWARDS HARPOON WITH BARB DOWN TO BAR
2958 |UPWARDS HARPOON WITH BARB LEFT TO BAR|DOWNWARDS HARPOON WITH BARB LEFT TO BAR
295A |LEFTWARDS HARPOON WITH BARB UP FROM BAR|RIGHTWARDS HARPOON WITH BARB UP FROM BAR
295C |UPWARDS HARPOON WITH BARB RIGHT FROM BAR|DOWNWARDS HARPOON WITH BARB RIGHT FROM BAR
295E |LEFTWARDS HARPOON WITH BARB DOWN FROM BAR|RIGHTWARDS HARPOON WITH BARB DOWN FROM BAR
2960 |UPWARDS HARPOON WITH BARB LEFT FROM BAR|DOWNWARDS HARPOON WITH BARB LEFT FROM BAR
2962 |LEFTWARDS HARPOON WITH BARB UP ABOVE LEFTWARDS HARPOON WITH BARB DOWN
2963 |UPWARDS HARPOON WITH BARB LEFT BESIDE UPWARDS HARPOON WITH BARB RIGHT
2964 |RIGHTWARDS HARPOON WITH BARB UP ABOVE RIGHTWARDS HARPOON WITH BARB DOWN
2965 |DOWNWARDS HARPOON WITH BARB LEFT BESIDE DOWNWARDS HARPOON WITH BARB RIGHT
2966 |LEFTWARDS HARPOON WITH BARB UP ABOVE RIGHTWARDS HARPOON WITH BARB UP
2967 |LEFTWARDS HARPOON WITH BARB DOWN ABOVE RIGHTWARDS HARPOON WITH BARB DOWN
2968 |RIGHTWARDS HARPOON WITH BARB UP ABOVE LEFTWARDS HARPOON WITH BARB UP
2969 |RIGHTWARDS HARPOON WITH BARB DOWN ABOVE LEFTWARDS HARPOON WITH BARB DOWN
296A LEFTWARDS HARPOON WITH BARB |UP ABOVE LONG DASH|DOWN BELOW LONG DASH
296C RIGHTWARDS HARPOON WITH BARB |UP ABOVE LONG DASH|DOWN BELOW LONG DASH
296E |UPWARDS HARPOON WITH BARB LEFT BESIDE DOWNWARDS HARPOON WITH BARB RIGHT
296F |DOWNWARDS HARPOON WITH BARB LEFT BESIDE UPWARDS HARPOON WITH BARB RIGHT
2970 |RIGHT DOUBLE ARROW WITH ROUNDED HEAD|EQUALS SIGN ABOVE RIGHTWARDS ARROW
2972 |TILDE OPERATOR ABOVE RIGHTWARDS ARROW|LEFTWARDS ARROW ABOVE TILDE OPERATOR
2974 RIGHTWARDS ARROW ABOVE |TILDE OPERATOR|ALMOST EQUAL TO
2976 |LESS-THAN ABOVE LEFTWARDS ARROW|LEFTWARDS ARROW THROUGH LESS-THAN
2978 |GREATER-THAN ABOVE RIGHTWARDS ARROW|SUBSET ABOVE RIGHTWARDS ARROW
297A |LEFTWARDS ARROW THROUGH SUBSET|SUPERSET ABOVE LEFTWARDS ARROW|LEFT FISH TAIL|RIGHT FISH TAIL
297E |UP FISH TAIL|DOWN FISH TAIL|TRIPLE VERTICAL BAR DELIMITER|Z NOTATION SPOT
2982 |Z NOTATION TYPE COLON|LEFT WHITE CURLY BRACKET|RIGHT WHITE CURLY BRACKET
2985 |LEFT WHITE PARENTHESIS|RIGHT WHITE PARENTHESIS|Z NOTATION LEFT IMAGE BRACKET
2988 Z NOTATION |RIGHT IMAGE BRACKET|LEFT BINDING BRACKET|RIGHT BINDING BRACKET
298B |LEFT SQUARE BRACKET WITH UNDERBAR|RIGHT SQUARE BRACKET WITH UNDERBAR
298D |LEFT SQUARE BRACKET WITH TICK IN TOP CORNER|RIGHT SQUARE BRACKET WITH TICK IN BOTTOM CORNER
298F |LEFT SQUARE BRACKET WITH TICK IN BOTTOM CORNER|RIGHT SQUARE BRACKET WITH TICK IN TOP CORNER
2991 |LEFT ANGLE BRACKET WITH DOT|RIGHT ANGLE BRACKET WITH DOT|LEFT ARC LESS-THAN BRACKET
2994 |RIGHT ARC GREATER-THAN BRACKET|DOUBLE LEFT ARC GREATER-THAN BRACKET
2996 |DOUBLE RIGHT ARC LESS-THAN BRACKET|LEFT BLACK TORTOISE SHELL BRACKET
2998 |RIGHT BLACK TORTOISE SHELL BRACKET|DOTTED FENCE|VERTICAL ZIGZAG LINE
299B |MEASURED ANGLE OPENING LEFT|RIGHT ANGLE VARIANT WITH SQUARE|MEASURED RIGHT ANGLE WITH DOT
299E |ANGLE WITH S INSIDE|ACUTE ANGLE|SPHERICAL ANGLE OPENING LEFT|SPHERICAL ANGLE OPENING UP
29A2 |TURNED ANGLE|REVERSED ANGLE|ANGLE WITH UNDERBAR|REVERSED ANGLE WITH UNDERBAR
29A6 OBLIQUE ANGLE OPENING |UP|DOWN
29A8 MEASURED ANGLE WITH OPEN ARM ENDING IN ARROW POINTING UP AND |RIGHT|LEFT
29AA MEASURED ANGLE WITH OPEN ARM ENDING IN ARROW POINTING DOWN AND |RIGHT|LEFT
29AC MEASURED ANGLE WITH OPEN ARM ENDING IN ARROW POINTING |RIGHT AND UP|LEFT AND UP
29AE MEASURED ANGLE WITH OPEN ARM ENDING IN ARROW POINTING |RIGHT AND DOWN|LEFT AND DOWN
29B0 |REVERSED EMPTY SET|EMPTY SET WITH OVERBAR|EMPTY SET WITH SMALL CIRCLE ABOVE
29B3 |EMPTY SET WITH RIGHT ARROW ABOVE|EMPTY SET WITH LEFT ARROW ABOVE|CIRCLE WITH HORIZONTAL BAR
29B6 CIRCLED |VERTICAL BAR|PARALLEL|REVERSE SOLIDUS|PERPENDICULAR
29BA CIRCLE |DIVIDED BY HORIZONTAL BAR AND TOP HALF DIVIDED BY VERTICAL BAR|WITH SUPERIMPOSED X
29BC |CIRCLED ANTICLOCKWISE-ROTATED DIVISION SIGN|UP ARROW THROUGH CIRCLE|CIRCLED WHITE BULLET
29BF |CIRCLED BULLET|CIRCLED LESS-THAN|CIRCLED GREATER-THAN|CIRCLE WITH SMALL CIRCLE TO THE RIGHT
29C3 |CIRCLE WITH TWO HORIZONTAL STROKES TO THE RIGHT|SQUARED RISING DIAGONAL SLASH
29C5 SQUARED |FALLING DIAGONAL SLASH|ASTERISK|SMALL CIRCLE|SQUARE
29C9 |TWO JOINED SQUARES|TRIANGLE WITH DOT ABOVE|TRIANGLE WITH UNDERBAR|S IN TRIANGLE
29CD |TRIANGLE WITH SERIFS AT BOTTOM|RIGHT TRIANGLE ABOVE LEFT TRIANGLE
29CF |LEFT TRIANGLE BESIDE VERTICAL BAR|VERTICAL BAR BESIDE RIGHT TRIANGLE
29D1 |BOWTIE WITH LEFT HALF BLACK|BOWTIE WITH RIGHT HALF BLACK|BLACK BOWTIE
29D4 |TIMES WITH LEFT HALF BLACK|TIMES WITH RIGHT HALF BLACK|WHITE HOURGLASS|BLACK HOURGLASS
29D8 |LEFT WIGGLY FENCE|RIGHT WIGGLY FENCE|LEFT DOUBLE WIGGLY FENCE|RIGHT DOUBLE WIGGLY FENCE
29DC |INCOMPLETE INFINITY|TIE OVER INFINITY|INFINITY NEGATED WITH VERTICAL BAR
29DF |DOUBLE-ENDED MULTIMAP|SQUARE WITH CONTOURED OUTLINE|INCREASES AS|SHUFFLE PRODUCT
29E3 EQUALS SIGN AND SLANTED |PARALLEL|PARALLEL WITH TILDE ABOVE
29E5 |IDENTICAL TO AND SLANTED PARALLEL|GLEICH STARK|THERMODYNAMIC
29E8 DOWN-POINTING TRIANGLE WITH |LEFT HALF BLACK|RIGHT HALF BLACK
29EA |BLACK DIAMOND WITH DOWN ARROW|BLACK LOZENGE|WHITE CIRCLE WITH DOWN ARROW
29ED |BLACK CIRCLE WITH DOWN ARROW|ERROR-BARRED WHITE SQUARE|ERROR-BARRED BLACK SQUARE
29F0 ERROR-BARRED |WHITE DIAMOND|BLACK DIAMOND|WHITE CIRCLE|BLACK CIRCLE
29F4 |RULE-DELAYED|REVERSE SOLIDUS OPERATOR|SOLIDUS WITH OVERBAR
29F7 |REVERSE SOLIDUS WITH HORIZONTAL STROKE|BIG SOLIDUS|BIG REVERSE SOLIDUS|DOUBLE PLUS
29FB |TRIPLE PLUS|LEFT-POINTING CURVED ANGLE BRACKET|RIGHT-POINTING CURVED ANGLE BRACKET|TINY|MINY
2A00 N-ARY CIRCLED |DOT OPERATOR|PLUS OPERATOR|TIMES OPERATOR
2A03 N-ARY |UNION OPERATOR WITH DOT|UNION OPERATOR WITH PLUS|SQUARE INTERSECTION OPERATOR
2A06 |N-ARY SQUARE UNION OPERATOR|TWO LOGICAL AND OPERATOR|TWO LOGICAL OR OPERATOR
2A09 |N-ARY TIMES OPERATOR|MODULO TWO SUM|SUMMATION WITH INTEGRAL|QUADRUPLE INTEGRAL OPERATOR
2A0D |FINITE PART INTEGRAL|INTEGRAL WITH DOUBLE STROKE|INTEGRAL AVERAGE WITH SLASH
2A10 |CIRCULATION FUNCTION|ANTICLOCKWISE INTEGRATION
2A12 LINE INTEGRATION WITH |RECTANGULAR PATH AROUND POLE|SEMICIRCULAR PATH AROUND POLE
2A14 |LINE INTEGRATION NOT INCLUDING THE POLE|INTEGRAL AROUND A POINT OPERATOR
2A16 |QUATERNION INTEGRAL OPERATOR|INTEGRAL WITH LEFTWARDS ARROW WITH HOOK
2A18 INTEGRAL WITH |TIMES SIGN|INTERSECTION|UNION|OVERBAR|UNDERBAR
2A1D |JOIN|LARGE LEFT TRIANGLE OPERATOR|Z NOTATION SCHEMA COMPOSITION|Z NOTATION SCHEMA PIPING
2A21 |Z NOTATION SCHEMA PROJECTION|PLUS SIGN WITH SMALL CIRCLE ABOVE
2A23 PLUS SIGN WITH |CIRCUMFLEX ACCENT ABOVE|TILDE ABOVE|DOT BELOW|TILDE BELOW|SUBSCRIPT TWO
2A28 |PLUS SIGN WITH BLACK TRIANGLE|MINUS SIGN WITH COMMA ABOVE|MINUS SIGN WITH DOT BELOW
2A2B |MINUS SIGN WITH FALLING DOTS|MINUS SIGN WITH RISING DOTS|PLUS SIGN IN LEFT HALF CIRCLE
2A2E |PLUS SIGN IN RIGHT HALF CIRCLE|VECTOR OR CROSS PRODUCT|MULTIPLICATION SIGN WITH DOT ABOVE
2A31 |MULTIPLICATION SIGN WITH UNDERBAR|SEMIDIRECT PRODUCT WITH BOTTOM CLOSED|SMASH PRODUCT
2A34 MULTIPLICATION SIGN IN |LEFT HALF CIRCLE|RIGHT HALF CIRCLE
2A36 |CIRCLED MULTIPLICATION SIGN WITH CIRCUMFLEX ACCENT|MULTIPLICATION SIGN IN DOUBLE CIRCLE
2A38 |CIRCLED DIVISION SIGN|PLUS SIGN IN TRIANGLE|MINUS SIGN IN TRIANGLE
2A3B |MULTIPLICATION SIGN IN TRIANGLE|INTERIOR PRODUCT|RIGHTHAND INTERIOR PRODUCT
2A3E |Z NOTATION RELATIONAL COMPOSITION|AMALGAMATION OR COPRODUCT|INTERSECTION WITH DOT
2A41 |UNION WITH MINUS SIGN|UNION WITH OVERBAR|INTERSECTION WITH OVERBAR
2A44 |INTERSECTION WITH LOGICAL AND|UNION WITH LOGICAL OR|UNION ABOVE INTERSECTION
2A47 |INTERSECTION ABOVE UNION|UNION ABOVE BAR ABOVE INTERSECTION
2A49 |INTERSECTION ABOVE BAR ABOVE UNION|UNION BESIDE AND JOINED WITH UNION
2A4B |INTERSECTION BESIDE AND JOINED WITH INTERSECTION|CLOSED UNION WITH SERIFS
2A4D |CLOSED INTERSECTION WITH SERIFS|DOUBLE SQUARE INTERSECTION|DOUBLE SQUARE UNION
2A50 |CLOSED UNION WITH SERIFS AND SMASH PRODUCT|LOGICAL AND WITH DOT ABOVE
2A52 |LOGICAL OR WITH DOT ABOVE|DOUBLE LOGICAL AND|DOUBLE LOGICAL OR|TWO INTERSECTING LOGICAL AND
2A56 |TWO INTERSECTING LOGICAL OR|SLOPING LARGE OR|SLOPING LARGE AND
2A59 LOGICAL |OR OVERLAPPING LOGICAL AND|AND WITH MIDDLE STEM|OR WITH MIDDLE STEM
2A5C LOGICAL |AND WITH HORIZONTAL DASH|OR WITH HORIZONTAL DASH|AND WITH DOUBLE OVERBAR
2A5F |LOGICAL AND WITH UNDERBAR|LOGICAL AND WITH DOUBLE UNDERBAR|SMALL VEE WITH UNDERBAR
2A62 LOGICAL OR WITH DOUBLE |OVERBAR|UNDERBAR
2A64 Z NOTATION |DOMAIN ANTIRESTRICTION|RANGE ANTIRESTRICTION
2A66 |EQUALS SIGN WITH DOT BELOW|IDENTICAL WITH DOT ABOVE
2A68 TRIPLE HORIZONTAL BAR WITH |DOUBLE VERTICAL STROKE|TRIPLE VERTICAL STROKE
2A6A |TILDE OPERATOR WITH DOT ABOVE|TILDE OPERATOR WITH RISING DOTS|SIMILAR MINUS SIMILAR
2A6D |CONGRUENT WITH DOT ABOVE|EQUALS WITH ASTERISK|ALMOST EQUAL TO WITH CIRCUMFLEX ACCENT
2A70 |APPROXIMATELY EQUAL OR EQUAL TO|EQUALS SIGN ABOVE PLUS SIGN|PLUS SIGN ABOVE EQUALS SIGN
2A73 |EQUALS SIGN ABOVE TILDE OPERATOR|DOUBLE COLON EQUAL|TWO CONSECUTIVE EQUALS SIGNS
2A76 |THREE CONSECUTIVE EQUALS SIGNS|EQUALS SIGN WITH TWO DOTS ABOVE AND TWO DOTS BELOW
2A78 |EQUIVALENT WITH FOUR DOTS ABOVE|LESS-THAN WITH CIRCLE INSIDE|GREATER-THAN WITH CIRCLE INSIDE
2A7B |LESS-THAN WITH QUESTION MARK ABOVE|GREATER-THAN WITH QUESTION MARK ABOVE
2A7D |LESS-THAN OR SLANTED EQUAL TO|GREATER-THAN OR SLANTED EQUAL TO
2A7F |LESS-THAN OR SLANTED EQUAL TO WITH DOT INSIDE
2A80 |GREATER-THAN OR SLANTED EQUAL TO WITH DOT INSIDE
2A81 |LESS-THAN OR SLANTED EQUAL TO WITH DOT ABOVE|GREATER-THAN OR SLANTED EQUAL TO WITH DOT ABOVE
2A83 |LESS-THAN OR SLANTED EQUAL TO WITH DOT ABOVE RIGHT
2A84 |GREATER-THAN OR SLANTED EQUAL TO WITH DOT ABOVE LEFT|LESS-THAN OR APPROXIMATE
2A86 |GREATER-THAN OR APPROXIMATE|LESS-THAN AND SINGLE-LINE NOT EQUAL TO
2A88 |GREATER-THAN AND SINGLE-LINE NOT EQUAL TO|LESS-THAN AND NOT APPROXIMATE
2A8A |GREATER-THAN AND NOT APPROXIMATE|LESS-THAN ABOVE DOUBLE-LINE EQUAL ABOVE GREATER-THAN
2A8C |GREATER-THAN ABOVE DOUBLE-LINE EQUAL ABOVE LESS-THAN|LESS-THAN ABOVE SIMILAR OR EQUAL
2A8E |GREATER-THAN ABOVE SIMILAR OR EQUAL|LESS-THAN ABOVE SIMILAR ABOVE GREATER-THAN
2A90 |GREATER-THAN ABOVE SIMILAR ABOVE LESS-THAN
2A91 |LESS-THAN ABOVE GREATER-THAN ABOVE DOUBLE-LINE EQUAL
2A92 |GREATER-THAN ABOVE LESS-THAN ABOVE DOUBLE-LINE EQUAL
2A93 |LESS-THAN ABOVE SLANTED EQUAL ABOVE GREATER-THAN ABOVE SLANTED EQUAL
2A94 |GREATER-THAN ABOVE SLANTED EQUAL ABOVE LESS-THAN ABOVE SLANTED EQUAL
2A95 SLANTED EQUAL TO OR |LESS-THAN|GREATER-THAN|LESS-THAN WITH DOT INSIDE
2A98 |SLANTED EQUAL TO OR GREATER-THAN WITH DOT INSIDE|DOUBLE-LINE EQUAL TO OR LESS-THAN
2A9A DOUBLE-LINE |EQUAL TO OR GREATER-THAN|SLANTED EQUAL TO OR LESS-THAN
2A9C |DOUBLE-LINE SLANTED EQUAL TO OR GREATER-THAN|SIMILAR OR LESS-THAN|SIMILAR OR GREATER-THAN
2A9F SIMILAR ABOVE |LESS-THAN ABOVE EQUALS SIGN|GREATER-THAN ABOVE EQUALS SIGN
2AA1 DOUBLE NESTED |LESS-THAN|GREATER-THAN|LESS-THAN WITH UNDERBAR
2AA4 |GREATER-THAN OVERLAPPING LESS-THAN|GREATER-THAN BESIDE LESS-THAN|LESS-THAN CLOSED BY CURVE
2AA7 |GREATER-THAN CLOSED BY CURVE|LESS-THAN CLOSED BY CURVE ABOVE SLANTED EQUAL
2AA9 |GREATER-THAN CLOSED BY CURVE ABOVE SLANTED EQUAL|SMALLER THAN|LARGER THAN
2AAC |SMALLER THAN OR EQUAL TO|LARGER THAN OR EQUAL TO|EQUALS SIGN WITH BUMPY ABOVE
2AAF |PRECEDES ABOVE SINGLE-LINE EQUALS SIGN|SUCCEEDS ABOVE SINGLE-LINE EQUALS SIGN
2AB1 |PRECEDES ABOVE SINGLE-LINE NOT EQUAL TO|SUCCEEDS ABOVE SINGLE-LINE NOT EQUAL TO
2AB3 |PRECEDES ABOVE EQUALS SIGN|SUCCEEDS ABOVE EQUALS SIGN|PRECEDES ABOVE NOT EQUAL TO
2AB6 |SUCCEEDS ABOVE NOT EQUAL TO|PRECEDES ABOVE ALMOST EQUAL TO|SUCCEEDS ABOVE ALMOST EQUAL TO
2AB9 |PRECEDES ABOVE NOT ALMOST EQUAL TO|SUCCEEDS ABOVE NOT ALMOST EQUAL TO|DOUBLE PRECEDES
2ABC |DOUBLE SUCCEEDS|SUBSET WITH DOT|SUPERSET WITH DOT|SUBSET WITH PLUS SIGN BELOW
2AC0 |SUPERSET WITH PLUS SIGN BELOW|SUBSET WITH MULTIPLICATION SIGN BELOW
2AC2 |SUPERSET WITH MULTIPLICATION SIGN BELOW|SUBSET OF OR EQUAL TO WITH DOT ABOVE
2AC4 |SUPERSET OF OR EQUAL TO WITH DOT ABOVE|SUBSET OF ABOVE EQUALS SIGN
2AC6 |SUPERSET OF ABOVE EQUALS SIGN|SUBSET OF ABOVE TILDE OPERATOR
2AC8 |SUPERSET OF ABOVE TILDE OPERATOR|SUBSET OF ABOVE ALMOST EQUAL TO
2ACA |SUPERSET OF ABOVE ALMOST EQUAL TO|SUBSET OF ABOVE NOT EQUAL TO
2ACC |SUPERSET OF ABOVE NOT EQUAL TO|SQUARE LEFT OPEN BOX OPERATOR|SQUARE RIGHT OPEN BOX OPERATOR
2ACF CLOSED |SUBSET|SUPERSET|SUBSET OR EQUAL TO|SUPERSET OR EQUAL TO
2AD3 |SUBSET ABOVE SUPERSET|SUPERSET ABOVE SUBSET|SUBSET ABOVE SUBSET|SUPERSET ABOVE SUPERSET
2AD7 SUPERSET BESIDE |SUBSET|AND JOINED BY DASH WITH SUBSET
2AD9 |ELEMENT OF OPENING DOWNWARDS|PITCHFORK WITH TEE TOP|TRANSVERSAL INTERSECTION|FORKING
2ADD |NONFORKING|SHORT LEFT TACK|SHORT DOWN TACK|SHORT UP TACK|PERPENDICULAR WITH S
2AE2 |VERTICAL BAR TRIPLE RIGHT TURNSTILE|DOUBLE VERTICAL BAR LEFT TURNSTILE
2AE4 |VERTICAL BAR DOUBLE LEFT TURNSTILE|DOUBLE VERTICAL BAR DOUBLE LEFT TURNSTILE
2AE6 |LONG DASH FROM LEFT MEMBER OF DOUBLE VERTICAL|SHORT DOWN TACK WITH OVERBAR
2AE8 |SHORT UP TACK WITH UNDERBAR|SHORT UP TACK ABOVE SHORT DOWN TACK|DOUBLE DOWN TACK
2AEB |DOUBLE UP TACK|DOUBLE STROKE NOT SIGN|REVERSED DOUBLE STROKE NOT SIGN
2AEE |DOES NOT DIVIDE WITH REVERSED NEGATION SLASH|VERTICAL LINE WITH CIRCLE ABOVE
2AF0 |VERTICAL LINE WITH CIRCLE BELOW|DOWN TACK WITH CIRCLE BELOW|PARALLEL WITH HORIZONTAL STROKE
2AF3 |PARALLEL WITH TILDE OPERATOR|TRIPLE VERTICAL BAR BINARY RELATION
2AF5 TRIPLE |VERTICAL BAR WITH HORIZONTAL STROKE|COLON OPERATOR|NESTED LESS-THAN
2AF8 |TRIPLE NESTED GREATER-THAN|DOUBLE-LINE SLANTED LESS-THAN OR EQUAL TO
2AFA |DOUBLE-LINE SLANTED GREATER-THAN OR EQUAL TO|TRIPLE SOLIDUS BINARY RELATION
2AFC |LARGE TRIPLE VERTICAL BAR OPERATOR|DOUBLE SOLIDUS OPERATOR|WHITE VERTICAL BAR
2AFF |N-ARY WHITE VERTICAL BAR|NORTH EAST WHITE ARROW|NORTH WEST WHITE ARROW
2B02 |SOUTH EAST WHITE ARROW|SOUTH WEST WHITE ARROW|LEFT RIGHT WHITE ARROW|LEFTWARDS BLACK ARROW
2B06 |UPWARDS BLACK ARROW|DOWNWARDS BLACK ARROW|NORTH EAST BLACK ARROW|NORTH WEST BLACK ARROW
2B0A |SOUTH EAST BLACK ARROW|SOUTH WEST BLACK ARROW|LEFT RIGHT BLACK ARROW|UP DOWN BLACK ARROW
2B0E RIGHTWARDS ARROW WITH TIP |DOWNWARDS|UPWARDS
2B10 LEFTWARDS ARROW WITH TIP |DOWNWARDS|UPWARDS
2B12 SQUARE WITH |TOP HALF BLACK|BOTTOM HALF BLACK|UPPER RIGHT DIAGONAL HALF BLACK
2B15 |SQUARE WITH LOWER LEFT DIAGONAL HALF BLACK|DIAMOND WITH LEFT HALF BLACK
2B17 DIAMOND WITH |RIGHT HALF BLACK|TOP HALF BLACK|BOTTOM HALF BLACK
2B1A |DOTTED SQUARE|BLACK LARGE SQUARE|WHITE LARGE SQUARE|BLACK VERY SMALL SQUARE
2B1E |WHITE VERY SMALL SQUARE|BLACK PENTAGON|WHITE PENTAGON|WHITE HEXAGON|BLACK HEXAGON
2B23 |HORIZONTAL BLACK HEXAGON|BLACK LARGE CIRCLE|BLACK MEDIUM DIAMOND|WHITE MEDIUM DIAMOND
2B27 |BLACK MEDIUM LOZENGE|WHITE MEDIUM LOZENGE|BLACK SMALL DIAMOND|BLACK SMALL LOZENGE
2B2B |WHITE SMALL LOZENGE|BLACK HORIZONTAL ELLIPSE|WHITE HORIZONTAL ELLIPSE|BLACK VERTICAL ELLIPSE
2B2F |WHITE VERTICAL ELLIPSE|LEFT ARROW WITH SMALL CIRCLE|THREE LEFTWARDS ARROWS
2B32 |LEFT ARROW WITH CIRCLED PLUS|LONG LEFTWARDS SQUIGGLE ARROW
2B34 LEFTWARDS TWO-HEADED ARROW |WITH VERTICAL STROKE|WITH DOUBLE VERTICAL STROKE|FROM BAR
2B37 LEFTWARDS |TWO-HEADED TRIPLE DASH ARROW|ARROW WITH DOTTED STEM
2B39 LEFTWARDS ARROW WITH TAIL WITH |VERTICAL STROKE|DOUBLE VERTICAL STROKE
2B3B LEFTWARDS TWO-HEADED ARROW WITH |TAIL|TAIL WITH VERTICAL STROKE
2B3D LEFTWARDS |TWO-HEADED ARROW WITH TAIL WITH DOUBLE VERTICAL STROKE|ARROW THROUGH X
2B3F |WAVE ARROW POINTING DIRECTLY LEFT|EQUALS SIGN ABOVE LEFTWARDS ARROW
2B41 |REVERSE TILDE OPERATOR ABOVE LEFTWARDS ARROW|LEFTWARDS ARROW ABOVE REVERSE ALMOST EQUAL TO
2B43 RIGHTWARDS ARROW THROUGH |GREATER-THAN|SUPERSET
2B45 |LEFTWARDS QUADRUPLE ARROW|RIGHTWARDS QUADRUPLE ARROW
2B47 |REVERSE TILDE OPERATOR ABOVE RIGHTWARDS ARROW|RIGHTWARDS ARROW ABOVE REVERSE ALMOST EQUAL TO
2B49 |TILDE OPERATOR ABOVE LEFTWARDS ARROW|LEFTWARDS ARROW ABOVE ALMOST EQUAL TO
2B4B |LEFTWARDS ARROW ABOVE REVERSE TILDE OPERATOR|RIGHTWARDS ARROW ABOVE REVERSE TILDE OPERATOR
2B4D |DOWNWARDS TRIANGLE-HEADED ZIGZAG ARROW|SHORT SLANTED NORTH ARROW
2B4F |SHORT BACKSLANTED SOUTH ARROW|WHITE MEDIUM STAR|BLACK SMALL STAR|WHITE SMALL STAR
2B53 |BLACK RIGHT-POINTING PENTAGON|WHITE RIGHT-POINTING PENTAGON|HEAVY LARGE CIRCLE
2B56 HEAVY |OVAL WITH OVAL INSIDE|CIRCLE WITH CIRCLE INSIDE|CIRCLE|CIRCLED SALTIRE
2B5A |SLANTED NORTH ARROW WITH HOOKED HEAD|BACKSLANTED SOUTH ARROW WITH HOOKED TAIL
2B5C |SLANTED NORTH ARROW WITH HORIZONTAL TAIL|BACKSLANTED SOUTH ARROW WITH HORIZONTAL TAIL
2B5E |BENT ARROW POINTING DOWNWARDS THEN NORTH EAST
2B5F |SHORT BENT ARROW POINTING DOWNWARDS THEN NORTH EAST|LEFTWARDS TRIANGLE-HEADED ARROW
2B61 |UPWARDS TRIANGLE-HEADED ARROW|RIGHTWARDS TRIANGLE-HEADED ARROW
2B63 |DOWNWARDS TRIANGLE-HEADED ARROW|LEFT RIGHT TRIANGLE-HEADED ARROW
2B65 |UP DOWN TRIANGLE-HEADED ARROW|NORTH WEST TRIANGLE-HEADED ARROW
2B67 |NORTH EAST TRIANGLE-HEADED ARROW|SOUTH EAST TRIANGLE-HEADED ARROW
2B69 |SOUTH WEST TRIANGLE-HEADED ARROW|LEFTWARDS TRIANGLE-HEADED DASHED ARROW
2B6B |UPWARDS TRIANGLE-HEADED DASHED ARROW|RIGHTWARDS TRIANGLE-HEADED DASHED ARROW
2B6D |DOWNWARDS TRIANGLE-HEADED DASHED ARROW|CLOCKWISE TRIANGLE-HEADED OPEN CIRCLE ARROW
2B6F |ANTICLOCKWISE TRIANGLE-HEADED OPEN CIRCLE ARROW|LEFTWARDS TRIANGLE-HEADED ARROW TO BAR
2B71 |UPWARDS TRIANGLE-HEADED ARROW TO BAR|RIGHTWARDS TRIANGLE-HEADED ARROW TO BAR
2B73 |DOWNWARDS TRIANGLE-HEADED ARROW TO BAR
2B76 NORTH |WEST TRIANGLE-HEADED ARROW TO BAR|EAST TRIANGLE-HEADED ARROW TO BAR
2B78 SOUTH |EAST TRIANGLE-HEADED ARROW TO BAR|WEST TRIANGLE-HEADED ARROW TO BAR
2B7A |LEFTWARDS TRIANGLE-HEADED ARROW WITH DOUBLE HORIZONTAL STROKE
2B7B |UPWARDS TRIANGLE-HEADED ARROW WITH DOUBLE HORIZONTAL STROKE
2B7C |RIGHTWARDS TRIANGLE-HEADED ARROW WITH DOUBLE HORIZONTAL STROKE
2B7D |DOWNWARDS TRIANGLE-HEADED ARROW WITH DOUBLE HORIZONTAL STROKE|HORIZONTAL TAB KEY
2B7F |VERTICAL TAB KEY|LEFTWARDS TRIANGLE-HEADED ARROW OVER RIGHTWARDS TRIANGLE-HEADED ARROW
2B81 |UPWARDS TRIANGLE-HEADED ARROW LEFTWARDS OF DOWNWARDS TRIANGLE-HEADED ARROW
2B82 |RIGHTWARDS TRIANGLE-HEADED ARROW OVER LEFTWARDS TRIANGLE-HEADED ARROW
2B83 |DOWNWARDS TRIANGLE-HEADED ARROW LEFTWARDS OF UPWARDS TRIANGLE-HEADED ARROW
2B84 |LEFTWARDS TRIANGLE-HEADED PAIRED ARROWS|UPWARDS TRIANGLE-HEADED PAIRED ARROWS
2B86 |RIGHTWARDS TRIANGLE-HEADED PAIRED ARROWS|DOWNWARDS TRIANGLE-HEADED PAIRED ARROWS
2B88 |LEFTWARDS BLACK CIRCLED WHITE ARROW|UPWARDS BLACK CIRCLED WHITE ARROW
2B8A |RIGHTWARDS BLACK CIRCLED WHITE ARROW|DOWNWARDS BLACK CIRCLED WHITE ARROW
2B8C ANTICLOCKWISE TRIANGLE-HEADED |RIGHT U-SHAPED ARROW|BOTTOM U-SHAPED ARROW|LEFT U-SHAPED ARROW
2B8F |ANTICLOCKWISE TRIANGLE-HEADED TOP U-SHAPED ARROW|RETURN LEFT|RETURN RIGHT|NEWLINE LEFT
2B93 |NEWLINE RIGHT|FOUR CORNER ARROWS CIRCLING ANTICLOCKWISE|RIGHTWARDS BLACK ARROW
2B97 |SYMBOL FOR TYPE A ELECTRONICS|THREE-D TOP-LIGHTED LEFTWARDS EQUILATERAL ARROWHEAD
2B99 |THREE-D RIGHT-LIGHTED UPWARDS EQUILATERAL ARROWHEAD
2B9A |THREE-D TOP-LIGHTED RIGHTWARDS EQUILATERAL ARROWHEAD
2B9B |THREE-D LEFT-LIGHTED DOWNWARDS EQUILATERAL ARROWHEAD|BLACK LEFTWARDS EQUILATERAL ARROWHEAD
2B9D BLACK |UPWARDS EQUILATERAL ARROWHEAD|RIGHTWARDS EQUILATERAL ARROWHEAD
2B9F |BLACK DOWNWARDS EQUILATERAL ARROWHEAD
2BA0 DOWNWARDS TRIANGLE-HEADED ARROW WITH LONG TIP |LEFTWARDS|RIGHTWARDS
2BA2 UPWARDS TRIANGLE-HEADED ARROW WITH LONG TIP |LEFTWARDS|RIGHTWARDS
2BA4 |LEFTWARDS TRIANGLE-HEADED ARROW WITH LONG TIP UPWARDS
2BA5 |RIGHTWARDS TRIANGLE-HEADED ARROW WITH LONG TIP UPWARDS
2BA6 |LEFTWARDS TRIANGLE-HEADED ARROW WITH LONG TIP DOWNWARDS
2BA7 |RIGHTWARDS TRIANGLE-HEADED ARROW WITH LONG TIP DOWNWARDS
2BA8 BLACK CURVED DOWNWARDS AND |LEFTWARDS ARROW|RIGHTWARDS ARROW
2BAA BLACK CURVED UPWARDS AND |LEFTWARDS ARROW|RIGHTWARDS ARROW
2BAC BLACK CURVED |LEFTWARDS AND UPWARDS ARROW|RIGHTWARDS AND UPWARDS ARROW
2BAE BLACK CURVED |LEFTWARDS AND DOWNWARDS ARROW|RIGHTWARDS AND DOWNWARDS ARROW
2BB0 RIBBON ARROW |DOWN LEFT|DOWN RIGHT|UP LEFT|UP RIGHT|LEFT UP|RIGHT UP|LEFT DOWN|RIGHT DOWN
2BB8 |UPWARDS WHITE ARROW FROM BAR WITH HORIZONTAL BAR|UP ARROWHEAD IN A RECTANGLE BOX
2BBA OVERLAPPING |WHITE SQUARES|WHITE AND BLACK SQUARES|BLACK SQUARES
2BBD |BALLOT BOX WITH LIGHT X|CIRCLED X|CIRCLED BOLD X|BLACK SQUARE CENTRED|BLACK DIAMOND CENTRED
2BC2 |TURNED BLACK PENTAGON|HORIZONTAL BLACK OCTAGON|BLACK OCTAGON
2BC5 BLACK MEDIUM |UP-POINTING TRIANGLE CENTRED|DOWN-POINTING TRIANGLE CENTRED
2BC7 BLACK MEDIUM |LEFT-POINTING TRIANGLE CENTRED|RIGHT-POINTING TRIANGLE CENTRED
2BC9 |NEPTUNE FORM TWO|TOP HALF BLACK CIRCLE|BOTTOM HALF BLACK CIRCLE
2BCC |LIGHT FOUR POINTED BLACK CUSP|ROTATED LIGHT FOUR POINTED BLACK CUSP|WHITE FOUR POINTED CUSP
2BCF |ROTATED WHITE FOUR POINTED CUSP|SQUARE POSITION INDICATOR|UNCERTAINTY SIGN|GROUP MARK
2BD3 |PLUTO FORM TWO|PLUTO FORM THREE|PLUTO FORM FOUR|PLUTO FORM FIVE|TRANSPLUTO|PROSERPINA
2BD9 |ASTRAEA|HYGIEA|PHOLUS|NESSUS|WHITE MOON SELENA|BLACK DIAMOND ON CROSS|TRUE LIGHT MOON ARTA
2BE0 |CUPIDO|HADES|ZEUS|KRONOS|APOLLON|ADMETOS|VULCANUS|POSEIDON|LEFT HALF BLACK STAR
2BE9 |RIGHT HALF BLACK STAR|STAR WITH LEFT HALF BLACK|STAR WITH RIGHT HALF BLACK
2BEC |LEFTWARDS TWO-HEADED ARROW WITH TRIANGLE ARROWHEADS
2BED |UPWARDS TWO-HEADED ARROW WITH TRIANGLE ARROWHEADS
2BEE |RIGHTWARDS TWO-HEADED ARROW WITH TRIANGLE ARROWHEADS
2BEF |DOWNWARDS TWO-HEADED ARROW WITH TRIANGLE ARROWHEADS|ERIS FORM ONE|ERIS FORM TWO|SEDNA
2BF3 RUSSIAN ASTROLOGICAL SYMBOL |VIGINTILE|NOVILE|QUINTILE|BINOVILE|SENTAGON|TREDECILE
2BF9 |EQUALS SIGN WITH INFINITY BELOW|UNITED SYMBOL|SEPARATED SYMBOL|DOUBLED SYMBOL|PASSED SYMBOL
2BFE |REVERSED RIGHT ANGLE|HELLSCHREIBER PAUSE SYMBOL|GLAGOLITIC CAPITAL LETTER AZU
2C01 GLAGOLITIC CAPITAL LETTER |BUKY|VEDE|GLAGOLI|DOBRO|YESTU|ZHIVETE|DZELO|ZEMLJA|IZHE
2C0A GLAGOLITIC CAPITAL LETTER |INITIAL IZHE|I|DJERVI|KAKO|LJUDIJE|MYSLITE|NASHI|ONU|POKOJI|RITSI
2C14 GLAGOLITIC CAPITAL LETTER |SLOVO|TVRIDO|UKU|FRITU|HERU|OTU|PE|SHTA|TSI|CHRIVI|SHA|YERU|YERI
2C21 GLAGOLITIC CAPITAL LETTER |YATI|SPIDERY HA|YU|SMALL YUS|SMALL YUS WITH TAIL|YO
2C27 GLAGOLITIC CAPITAL LETTER |IOTATED SMALL YUS|BIG YUS|IOTATED BIG YUS|FITA|IZHITSA|SHTAPIC
2C2D GLAGOLITIC CAPITAL LETTER |TROKUTASTI A|LATINATE MYSLITE|CAUDATE CHRIVI
2C30 GLAGOLITIC SMALL LETTER |AZU|BUKY|VEDE|GLAGOLI|DOBRO|YESTU|ZHIVETE|DZELO|ZEMLJA|IZHE
2C3A GLAGOLITIC SMALL LETTER |INITIAL IZHE|I|DJERVI|KAKO|LJUDIJE|MYSLITE|NASHI|ONU|POKOJI|RITSI
2C44 GLAGOLITIC SMALL LETTER |SLOVO|TVRIDO|UKU|FRITU|HERU|OTU|PE|SHTA|TSI|CHRIVI|SHA|YERU|YERI
2C51 GLAGOLITIC SMALL LETTER |YATI|SPIDERY HA|YU|SMALL YUS|SMALL YUS WITH TAIL|YO
2C57 GLAGOLITIC SMALL LETTER |IOTATED SMALL YUS|BIG YUS|IOTATED BIG YUS|FITA|IZHITSA|SHTAPIC
2C5D GLAGOLITIC SMALL LETTER |TROKUTASTI A|LATINATE MYSLITE|CAUDATE CHRIVI
2C60 LATIN |CAPITAL LETTER L WITH DOUBLE BAR|SMALL LETTER L WITH DOUBLE BAR
2C62 LATIN CAPITAL LETTER |L WITH MIDDLE TILDE|P WITH STROKE|R WITH TAIL
2C65 LATIN SMALL LETTER |A WITH STROKE|T WITH DIAGONAL STROKE
2C67 LATIN |CAPITAL LETTER H WITH DESCENDER|SMALL LETTER H WITH DESCENDER
2C69 LATIN |CAPITAL LETTER K WITH DESCENDER|SMALL LETTER K WITH DESCENDER
2C6B LATIN |CAPITAL LETTER Z WITH DESCENDER|SMALL LETTER Z WITH DESCENDER|CAPITAL LETTER ALPHA
2C6E LATIN CAPITAL LETTER |M WITH HOOK|TURNED A|TURNED ALPHA
2C71 LATIN |SMALL LETTER V WITH RIGHT HOOK|CAPITAL LETTER W WITH HOOK|SMALL LETTER W WITH HOOK
2C74 LATIN |SMALL LETTER V WITH CURL|CAPITAL LETTER HALF H|SMALL LETTER HALF H
2C77 LATIN SMALL LETTER |TAILLESS PHI|E WITH NOTCH|TURNED R WITH TAIL|O WITH LOW RING INSIDE
2C7B |LATIN LETTER SMALL CAPITAL TURNED E|LATIN SUBSCRIPT SMALL LETTER J|MODIFIER LETTER CAPITAL V
2C7E LATIN CAPITAL LETTER |S WITH SWASH TAIL|Z WITH SWASH TAIL
2C80 COPTIC |CAPITAL LETTER ALFA|SMALL LETTER ALFA|CAPITAL LETTER VIDA|SMALL LETTER VIDA
2C84 COPTIC |CAPITAL LETTER GAMMA|SMALL LETTER GAMMA|CAPITAL LETTER DALDA|SMALL LETTER DALDA
2C88 COPTIC |CAPITAL LETTER EIE|SMALL LETTER EIE|CAPITAL LETTER SOU|SMALL LETTER SOU
2C8C COPTIC |CAPITAL LETTER ZATA|SMALL LETTER ZATA|CAPITAL LETTER HATE|SMALL LETTER HATE
2C90 COPTIC |CAPITAL LETTER THETHE|SMALL LETTER THETHE|CAPITAL LETTER IAUDA|SMALL LETTER IAUDA
2C94 COPTIC |CAPITAL LETTER KAPA|SMALL LETTER KAPA|CAPITAL LETTER LAULA|SMALL LETTER LAULA
2C98 COPTIC |CAPITAL LETTER MI|SMALL LETTER MI|CAPITAL LETTER NI|SMALL LETTER NI
2C9C COPTIC |CAPITAL LETTER KSI|SMALL LETTER KSI|CAPITAL LETTER O|SMALL LETTER O|CAPITAL LETTER PI
2CA1 COPTIC |SMALL LETTER PI|CAPITAL LETTER RO|SMALL LETTER RO|CAPITAL LETTER SIMA
2CA5 COPTIC |SMALL LETTER SIMA|CAPITAL LETTER TAU|SMALL LETTER TAU|CAPITAL LETTER UA
2CA9 COPTIC |SMALL LETTER UA|CAPITAL LETTER FI|SMALL LETTER FI|CAPITAL LETTER KHI|SMALL LETTER KHI
2CAE COPTIC |CAPITAL LETTER PSI|SMALL LETTER PSI|CAPITAL LETTER OOU|SMALL LETTER OOU
2CB2 COPTIC |CAPITAL LETTER DIALECT-P ALEF|SMALL LETTER DIALECT-P ALEF
2CB4 COPTIC |CAPITAL LETTER OLD COPTIC AIN|SMALL LETTER OLD COPTIC AIN
2CB6 COPTIC |CAPITAL LETTER CRYPTOGRAMMIC EIE|SMALL LETTER CRYPTOGRAMMIC EIE
2CB8 COPTIC |CAPITAL LETTER DIALECT-P KAPA|SMALL LETTER DIALECT-P KAPA|CAPITAL LETTER DIALECT-P NI
2CBB COPTIC |SMALL LETTER DIALECT-P NI|CAPITAL LETTER CRYPTOGRAMMIC NI
2CBD COPTIC |SMALL LETTER CRYPTOGRAMMIC NI|CAPITAL LETTER OLD COPTIC OOU
2CBF COPTIC |SMALL LETTER OLD COPTIC OOU|CAPITAL LETTER SAMPI|SMALL LETTER SAMPI
2CC2 COPTIC |CAPITAL LETTER CROSSED SHEI|SMALL LETTER CROSSED SHEI|CAPITAL LETTER OLD COPTIC SHEI
2CC5 COPTIC |SMALL LETTER OLD COPTIC SHEI|CAPITAL LETTER OLD COPTIC ESH
2CC7 COPTIC |SMALL LETTER OLD COPTIC ESH|CAPITAL LETTER AKHMIMIC KHEI|SMALL LETTER AKHMIMIC KHEI
2CCA COPTIC |CAPITAL LETTER DIALECT-P HORI|SMALL LETTER DIALECT-P HORI
2CCC COPTIC |CAPITAL LETTER OLD COPTIC HORI|SMALL LETTER OLD COPTIC HORI
2CCE COPTIC |CAPITAL LETTER OLD COPTIC HA|SMALL LETTER OLD COPTIC HA|CAPITAL LETTER L-SHAPED HA
2CD1 COPTIC |SMALL LETTER L-SHAPED HA|CAPITAL LETTER OLD COPTIC HEI|SMALL LETTER OLD COPTIC HEI
2CD4 COPTIC |CAPITAL LETTER OLD COPTIC HAT|SMALL LETTER OLD COPTIC HAT
2CD6 COPTIC |CAPITAL LETTER OLD COPTIC GANGIA|SMALL LETTER OLD COPTIC GANGIA
2CD8 COPTIC |CAPITAL LETTER OLD COPTIC DJA|SMALL LETTER OLD COPTIC DJA
2CDA COPTIC |CAPITAL LETTER OLD COPTIC SHIMA|SMALL LETTER OLD COPTIC SHIMA
2CDC COPTIC |CAPITAL LETTER OLD NUBIAN SHIMA|SMALL LETTER OLD NUBIAN SHIMA
2CDE COPTIC |CAPITAL LETTER OLD NUBIAN NGI|SMALL LETTER OLD NUBIAN NGI
2CE0 COPTIC |CAPITAL LETTER OLD NUBIAN NYI|SMALL LETTER OLD NUBIAN NYI
2CE2 COPTIC |CAPITAL LETTER OLD NUBIAN WAU|SMALL LETTER OLD NUBIAN WAU|SYMBOL KAI|SYMBOL MI RO
2CE6 COPTIC SYMBOL |PI RO|STAUROS|TAU RO|KHI RO|SHIMA SIMA
2CEB COPTIC |CAPITAL LETTER CRYPTOGRAMMIC SHEI|SMALL LETTER CRYPTOGRAMMIC SHEI
2CED COPTIC |CAPITAL LETTER CRYPTOGRAMMIC GANGIA|SMALL LETTER CRYPTOGRAMMIC GANGIA
2CEF COPTIC COMBINING |NI ABOVE|SPIRITUS ASPER|SPIRITUS LENIS
2CF2 COPTIC |CAPITAL LETTER BOHAIRIC KHEI|SMALL LETTER BOHAIRIC KHEI
2CF9 COPTIC OLD NUBIAN |FULL STOP|DIRECT QUESTION MARK|INDIRECT QUESTION MARK|VERSE DIVIDER
2CFD COPTIC |FRACTION ONE HALF|FULL STOP|MORPHOLOGICAL DIVIDER
2D00 GEORGIAN SMALL LETTER |AN|BAN|GAN|DON|EN|VIN|ZEN|TAN|IN|KAN|LAS|MAN|NAR|ON|PAR|ZHAR|RAE|SAN
2D12 GEORGIAN SMALL LETTER |TAR|UN|PHAR|KHAR|GHAN|QAR|SHIN|CHIN|CAN|JIL|CIL|CHAR|XAN|JHAN|HAE|HE
2D22 GEORGIAN SMALL LETTER |HIE|WE|HAR|HOE
2D27 |GEORGIAN SMALL LETTER YN
2D2D |GEORGIAN SMALL LETTER AEN
2D30 TIFINAGH LETTER |YA|YAB|YABH|YAG|YAGHH|BERBER ACADEMY YAJ|YAJ|YAD|YADH|YADD|YADDH|YEY|YAF|YAK
2D3E TIFINAGH LETTER |TUAREG YAK|YAKHH|YAH|BERBER ACADEMY YAH|TUAREG YAH|YAHH|YAA|YAKH|TUAREG YAKH
2D47 TIFINAGH LETTER |YAQ|TUAREG YAQ|YI|YAZH|AHAGGAR YAZH|TUAREG YAZH|YAL|YAM|YAN|TUAREG YAGN
2D51 TIFINAGH LETTER |TUAREG YANG|YAP|YU|YAR|YARR|YAGH|TUAREG YAGH|AYER YAGH|YAS|YASS|YASH|YAT
2D5D TIFINAGH LETTER |YATH|YACH|YATT|YAV|YAW|YAY|YAZ|TAWELLEMET YAZ|YAZZ|YE|YO
2D6F TIFINAGH |MODIFIER LETTER LABIALIZATION MARK|SEPARATOR MARK
2D7F |TIFINAGH CONSONANT JOINER|ETHIOPIC SYLLABLE LOA|ETHIOPIC SYLLABLE MOA|ETHIOPIC SYLLABLE ROA
2D83 ETHIOPIC SYLLABLE |SOA|SHOA|BOA|TOA|COA|NOA|NYOA|GLOTTAL OA|ZOA|DOA|DDOA|JOA|THOA|CHOA|PHOA
2D92 ETHIOPIC SYLLABLE |POA|GGWA|GGWI|GGWEE|GGWE
2DA0 ETHIOPIC SYLLABLE |SSA|SSU|SSI|SSAA|SSEE|SSE|SSO
2DA8 ETHIOPIC SYLLABLE |CCA|CCU|CCI|CCAA|CCEE|CCE|CCO
2DB0 ETHIOPIC SYLLABLE |ZZA|ZZU|ZZI|ZZAA|ZZEE|ZZE|ZZO
2DB8 ETHIOPIC SYLLABLE |CCHA|CCHU|CCHI|CCHAA|CCHEE|CCHE|CCHO
2DC0 ETHIOPIC SYLLABLE |QYA|QYU|QYI|QYAA|QYEE|QYE|QYO
2DC8 ETHIOPIC SYLLABLE |KYA|KYU|KYI|KYAA|KYEE|KYE|KYO
2DD0 ETHIOPIC SYLLABLE |XYA|XYU|XYI|XYAA|XYEE|XYE|XYO
2DD8 ETHIOPIC SYLLABLE |GYA|GYU|GYI|GYAA|GYEE|GYE|GYO
2DE0 COMBINING CYRILLIC LETTER |BE|VE|GHE|DE|ZHE|ZE|KA|EL|EM|EN|O|PE|ER|ES|TE|HA|TSE|CHE|SHA|SHCHA
2DF4 COMBINING CYRILLIC LETTER |FITA|ES-TE|A|IE|DJERV|MONOGRAPH UK|YAT|YU|IOTIFIED A|LITTLE YUS
2DFE COMBINING CYRILLIC LETTER |BIG YUS|IOTIFIED BIG YUS
2E00 RIGHT ANGLE |SUBSTITUTION MARKER|DOTTED SUBSTITUTION MARKER
2E02 |LEFT SUBSTITUTION BRACKET|RIGHT SUBSTITUTION BRACKET|LEFT DOTTED SUBSTITUTION BRACKET
2E05 |RIGHT DOTTED SUBSTITUTION BRACKET|RAISED INTERPOLATION MARKER
2E07 |RAISED DOTTED INTERPOLATION MARKER|DOTTED TRANSPOSITION MARKER|LEFT TRANSPOSITION BRACKET
2E0A |RIGHT TRANSPOSITION BRACKET|RAISED SQUARE|LEFT RAISED OMISSION BRACKET
2E0D |RIGHT RAISED OMISSION BRACKET|EDITORIAL CORONIS|PARAGRAPHOS|FORKED PARAGRAPHOS
2E11 |REVERSED FORKED PARAGRAPHOS|HYPODIASTOLE|DOTTED OBELOS|DOWNWARDS ANCORA|UPWARDS ANCORA
2E16 |DOTTED RIGHT-POINTING ANGLE|DOUBLE OBLIQUE HYPHEN|INVERTED INTERROBANG|PALM BRANCH
2E1A |HYPHEN WITH DIAERESIS|TILDE WITH RING ABOVE|LEFT LOW PARAPHRASE BRACKET
2E1D |RIGHT LOW PARAPHRASE BRACKET|TILDE WITH DOT ABOVE|TILDE WITH DOT BELOW
2E20 |LEFT VERTICAL BAR WITH QUILL|RIGHT VERTICAL BAR WITH QUILL|TOP LEFT HALF BRACKET
2E23 |TOP RIGHT HALF BRACKET|BOTTOM LEFT HALF BRACKET|BOTTOM RIGHT HALF BRACKET
2E26 |LEFT SIDEWAYS U BRACKET|RIGHT SIDEWAYS U BRACKET|LEFT DOUBLE PARENTHESIS
2E29 |RIGHT DOUBLE PARENTHESIS|TWO DOTS OVER ONE DOT PUNCTUATION|ONE DOT OVER TWO DOTS PUNCTUATION
2E2C |SQUARED FOUR DOT PUNCTUATION|FIVE DOT MARK|REVERSED QUESTION MARK|VERTICAL TILDE|RING POINT
2E31 |WORD SEPARATOR MIDDLE DOT|TURNED COMMA|RAISED DOT|RAISED COMMA|TURNED SEMICOLON
2E36 |DAGGER WITH LEFT GUARD|DAGGER WITH RIGHT GUARD|TURNED DAGGER|TOP HALF SECTION SIGN
2E3A |TWO-EM DASH|THREE-EM DASH|STENOGRAPHIC FULL STOP|VERTICAL SIX DOTS|WIGGLY VERTICAL LINE
2E3F |CAPITULUM|DOUBLE HYPHEN|REVERSED COMMA|DOUBLE LOW-REVERSED-9 QUOTATION MARK
2E43 |DASH WITH LEFT UPTURN|DOUBLE SUSPENSION MARK|INVERTED LOW KAVYKA
2E46 |INVERTED LOW KAVYKA WITH KAVYKA ABOVE|LOW KAVYKA|LOW KAVYKA WITH DOT|DOUBLE STACKED COMMA
2E4A |DOTTED SOLIDUS|TRIPLE DAGGER|MEDIEVAL COMMA|PARAGRAPHUS MARK|PUNCTUS ELEVATUS MARK
2E4F |CORNISH VERSE DIVIDER|CROSS PATTY WITH RIGHT CROSSBAR|CROSS PATTY WITH LEFT CROSSBAR
2E52 |TIRONIAN SIGN CAPITAL ET|MEDIEVAL EXCLAMATION MARK|MEDIEVAL QUESTION MARK
2E55 |LEFT SQUARE BRACKET WITH STROKE|RIGHT SQUARE BRACKET WITH STROKE
2E57 |LEFT SQUARE BRACKET WITH DOUBLE STROKE|RIGHT SQUARE BRACKET WITH DOUBLE STROKE
2E59 |TOP HALF LEFT PARENTHESIS|TOP HALF RIGHT PARENTHESIS|BOTTOM HALF LEFT PARENTHESIS
2E5C |BOTTOM HALF RIGHT PARENTHESIS|OBLIQUE HYPHEN
2E80 CJK RADICAL |REPEAT|CLIFF|SECOND ONE|SECOND TWO|SECOND THREE|PERSON|BOX|TABLE|KNIFE ONE
2E89 CJK RADICAL |KNIFE TWO|DIVINATION|SEAL|SMALL ONE|SMALL TWO|LAME ONE|LAME TWO|LAME THREE
2E91 CJK RADICAL |LAME FOUR|SNAKE|THREAD|SNOUT ONE|SNOUT TWO|HEART ONE|HEART TWO|HAND|RAP
2E9B CJK RADICAL |CHOKE|SUN|MOON|DEATH|MOTHER|CIVILIAN|WATER ONE|WATER TWO|FIRE|PAW ONE|PAW TWO
2EA6 CJK RADICAL |SIMPLIFIED HALF TREE TRUNK|COW|DOG|JADE|BOLT OF CLOTH|EYE|SPIRIT ONE|SPIRIT TWO
2EAE CJK RADICAL |BAMBOO|SILK|C-SIMPLIFIED SILK|NET ONE|NET TWO|NET THREE|NET FOUR|MESH|SHEEP|RAM
2EB8 CJK RADICAL |EWE|OLD|BRUSH ONE|BRUSH TWO|MEAT|MORTAR|GRASS ONE|GRASS TWO|GRASS THREE|TIGER
2EC2 CJK RADICAL |CLOTHES|WEST ONE|WEST TWO|C-SIMPLIFIED SEE|SIMPLIFIED HORN|HORN
2EC8 CJK RADICAL |C-SIMPLIFIED SPEECH|C-SIMPLIFIED SHELL|FOOT|C-SIMPLIFIED CART|SIMPLIFIED WALK
2ECD CJK RADICAL |WALK ONE|WALK TWO|CITY|C-SIMPLIFIED GOLD|LONG ONE|LONG TWO|C-SIMPLIFIED LONG
2ED4 CJK RADICAL |C-SIMPLIFIED GATE|MOUND ONE|MOUND TWO|RAIN|BLUE|C-SIMPLIFIED TANNED LEATHER
2EDA CJK RADICAL |C-SIMPLIFIED LEAF|C-SIMPLIFIED WIND|C-SIMPLIFIED FLY|EAT ONE|EAT TWO|EAT THREE
2EE0 CJK RADICAL |C-SIMPLIFIED EAT|HEAD|C-SIMPLIFIED HORSE|BONE|GHOST|C-SIMPLIFIED FISH
2EE6 CJK RADICAL |C-SIMPLIFIED BIRD|C-SIMPLIFIED SALT|SIMPLIFIED WHEAT|SIMPLIFIED YELLOW
2EEA CJK RADICAL |C-SIMPLIFIED FROG|J-SIMPLIFIED EVEN|C-SIMPLIFIED EVEN|J-SIMPLIFIED TOOTH
2EEE CJK RADICAL |C-SIMPLIFIED TOOTH|J-SIMPLIFIED DRAGON|C-SIMPLIFIED DRAGON|TURTLE
2EF2 CJK RADICAL |J-SIMPLIFIED TURTLE|C-SIMPLIFIED TURTLE
2F00 KANGXI RADICAL |ONE|LINE|DOT|SLASH|SECOND|HOOK|TWO|LID|MAN|LEGS|ENTER|EIGHT|DOWN BOX|COVER
2F0E KANGXI RADICAL |ICE|TABLE|OPEN BOX|KNIFE|POWER|WRAP|SPOON|RIGHT OPEN BOX|HIDING ENCLOSURE|TEN
2F18 KANGXI RADICAL |DIVINATION|SEAL|CLIFF|PRIVATE|AGAIN|MOUTH|ENCLOSURE|EARTH|SCHOLAR|GO
2F22 KANGXI RADICAL |GO SLOWLY|EVENING|BIG|WOMAN|CHILD|ROOF|INCH|SMALL|LAME|CORPSE|SPROUT|MOUNTAIN
2F2E KANGXI RADICAL |RIVER|WORK|ONESELF|TURBAN|DRY|SHORT THREAD|DOTTED CLIFF|LONG STRIDE|TWO HANDS
2F37 KANGXI RADICAL |SHOOT|BOW|SNOUT|BRISTLE|STEP|HEART|HALBERD|DOOR|HAND|BRANCH|RAP|SCRIPT|DIPPER
2F44 KANGXI RADICAL |AXE|SQUARE|NOT|SUN|SAY|MOON|TREE|LACK|STOP|DEATH|WEAPON|DO NOT|COMPARE|FUR
2F52 KANGXI RADICAL |CLAN|STEAM|WATER|FIRE|CLAW|FATHER|DOUBLE X|HALF TREE TRUNK|SLICE|FANG|COW|DOG
2F5E KANGXI RADICAL |PROFOUND|JADE|MELON|TILE|SWEET|LIFE|USE|FIELD|BOLT OF CLOTH|SICKNESS
2F68 KANGXI RADICAL |DOTTED TENT|WHITE|SKIN|DISH|EYE|SPEAR|ARROW|STONE|SPIRIT|TRACK|GRAIN|CAVE
2F74 KANGXI RADICAL |STAND|BAMBOO|RICE|SILK|JAR|NET|SHEEP|FEATHER|OLD|AND|PLOW|EAR|BRUSH|MEAT
2F82 KANGXI RADICAL |MINISTER|SELF|ARRIVE|MORTAR|TONGUE|OPPOSE|BOAT|STOPPING|COLOR|GRASS|TIGER
2F8D KANGXI RADICAL |INSECT|BLOOD|WALK ENCLOSURE|CLOTHES|WEST|SEE|HORN|SPEECH|VALLEY|BEAN|PIG
2F98 KANGXI RADICAL |BADGER|SHELL|RED|RUN|FOOT|BODY|CART|BITTER|MORNING|WALK|CITY|WINE|DISTINGUISH
2FA5 KANGXI RADICAL |VILLAGE|GOLD|LONG|GATE|MOUND|SLAVE|SHORT TAILED BIRD|RAIN|BLUE|WRONG|FACE
2FB0 KANGXI RADICAL |LEATHER|TANNED LEATHER|LEEK|SOUND|LEAF|WIND|FLY|EAT|HEAD|FRAGRANT|HORSE|BONE
2FBC KANGXI RADICAL |TALL|HAIR|FIGHT|SACRIFICIAL WINE|CAULDRON|GHOST|FISH|BIRD|SALT|DEER|WHEAT
2FC7 KANGXI RADICAL |HEMP|YELLOW|MILLET|BLACK|EMBROIDERY|FROG|TRIPOD|DRUM|RAT|NOSE|EVEN|TOOTH
2FD3 KANGXI RADICAL |DRAGON|TURTLE|FLUTE
2FF0 IDEOGRAPHIC DESCRIPTION CHARACTER |LEFT TO RIGHT|ABOVE TO BELOW|LEFT TO MIDDLE AND RIGHT
2FF3 IDEOGRAPHIC DESCRIPTION CHARACTER |ABOVE TO MIDDLE AND BELOW|FULL SURROUND
2FF5 IDEOGRAPHIC DESCRIPTION CHARACTER SURROUND FROM |ABOVE|BELOW|LEFT|UPPER LEFT|UPPER RIGHT
2FFA IDEOGRAPHIC DESCRIPTION CHARACTER |SURROUND FROM LOWER LEFT|OVERLAID"

end BraceScript.Text.CharacterName
