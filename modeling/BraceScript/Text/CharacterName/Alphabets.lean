/-!
# Names of letters and marks of living scripts

The characters below U+2000. Every line holds the names of
characters that follow each other: the code point of the first, what the names begin with, and how
each of them goes on.
-/

namespace BraceScript.Text.CharacterName

/-- The names of letters and marks of living scripts. -/
def alphabets : String :=
  "20 |SPACE|EXCLAMATION MARK|QUOTATION MARK|NUMBER SIGN|DOLLAR SIGN|PERCENT SIGN|AMPERSAND
27 |APOSTROPHE|LEFT PARENTHESIS|RIGHT PARENTHESIS|ASTERISK|PLUS SIGN|COMMA|HYPHEN-MINUS|FULL STOP
2F |SOLIDUS|DIGIT ZERO|DIGIT ONE|DIGIT TWO|DIGIT THREE|DIGIT FOUR|DIGIT FIVE|DIGIT SIX|DIGIT SEVEN
38 |DIGIT EIGHT|DIGIT NINE|COLON|SEMICOLON|LESS-THAN SIGN|EQUALS SIGN|GREATER-THAN SIGN
3F |QUESTION MARK|COMMERCIAL AT|LATIN CAPITAL LETTER A|LATIN CAPITAL LETTER B
43 LATIN CAPITAL LETTER |C|D|E|F|G|H|I|J|K|L|M|N|O|P|Q|R|S|T|U|V|W|X|Y|Z
5B |LEFT SQUARE BRACKET|REVERSE SOLIDUS|RIGHT SQUARE BRACKET|CIRCUMFLEX ACCENT|LOW LINE
60 |GRAVE ACCENT|LATIN SMALL LETTER A|LATIN SMALL LETTER B|LATIN SMALL LETTER C
64 LATIN SMALL LETTER |D|E|F|G|H|I|J|K|L|M|N|O|P|Q|R|S|T|U|V|W|X|Y|Z
7B |LEFT CURLY BRACKET|VERTICAL LINE|RIGHT CURLY BRACKET|TILDE
A0 |NO-BREAK SPACE|INVERTED EXCLAMATION MARK|CENT SIGN|POUND SIGN|CURRENCY SIGN|YEN SIGN
A6 |BROKEN BAR|SECTION SIGN|DIAERESIS|COPYRIGHT SIGN|FEMININE ORDINAL INDICATOR
AB |LEFT-POINTING DOUBLE ANGLE QUOTATION MARK|NOT SIGN|SOFT HYPHEN|REGISTERED SIGN|MACRON
B0 |DEGREE SIGN|PLUS-MINUS SIGN|SUPERSCRIPT TWO|SUPERSCRIPT THREE|ACUTE ACCENT|MICRO SIGN
B6 |PILCROW SIGN|MIDDLE DOT|CEDILLA|SUPERSCRIPT ONE|MASCULINE ORDINAL INDICATOR
BB |RIGHT-POINTING DOUBLE ANGLE QUOTATION MARK|VULGAR FRACTION ONE QUARTER
BD |VULGAR FRACTION ONE HALF|VULGAR FRACTION THREE QUARTERS|INVERTED QUESTION MARK
C0 LATIN CAPITAL LETTER A WITH |GRAVE|ACUTE|CIRCUMFLEX|TILDE|DIAERESIS|RING ABOVE
C6 LATIN CAPITAL LETTER |AE|C WITH CEDILLA|E WITH GRAVE|E WITH ACUTE|E WITH CIRCUMFLEX
CB LATIN CAPITAL LETTER |E WITH DIAERESIS|I WITH GRAVE|I WITH ACUTE|I WITH CIRCUMFLEX
CF LATIN CAPITAL LETTER |I WITH DIAERESIS|ETH|N WITH TILDE|O WITH GRAVE|O WITH ACUTE
D4 LATIN CAPITAL LETTER O WITH |CIRCUMFLEX|TILDE|DIAERESIS
D7 |MULTIPLICATION SIGN|LATIN CAPITAL LETTER O WITH STROKE|LATIN CAPITAL LETTER U WITH GRAVE
DA LATIN CAPITAL LETTER |U WITH ACUTE|U WITH CIRCUMFLEX|U WITH DIAERESIS|Y WITH ACUTE|THORN
DF LATIN SMALL LETTER |SHARP S|A WITH GRAVE|A WITH ACUTE|A WITH CIRCUMFLEX|A WITH TILDE
E4 LATIN SMALL LETTER |A WITH DIAERESIS|A WITH RING ABOVE|AE|C WITH CEDILLA|E WITH GRAVE
E9 LATIN SMALL LETTER |E WITH ACUTE|E WITH CIRCUMFLEX|E WITH DIAERESIS|I WITH GRAVE|I WITH ACUTE
EE LATIN SMALL LETTER |I WITH CIRCUMFLEX|I WITH DIAERESIS|ETH|N WITH TILDE|O WITH GRAVE
F3 LATIN SMALL LETTER O WITH |ACUTE|CIRCUMFLEX|TILDE|DIAERESIS
F7 |DIVISION SIGN|LATIN SMALL LETTER O WITH STROKE|LATIN SMALL LETTER U WITH GRAVE
FA LATIN SMALL LETTER |U WITH ACUTE|U WITH CIRCUMFLEX|U WITH DIAERESIS|Y WITH ACUTE|THORN
FF LATIN |SMALL LETTER Y WITH DIAERESIS|CAPITAL LETTER A WITH MACRON|SMALL LETTER A WITH MACRON
102 LATIN |CAPITAL LETTER A WITH BREVE|SMALL LETTER A WITH BREVE|CAPITAL LETTER A WITH OGONEK
105 LATIN |SMALL LETTER A WITH OGONEK|CAPITAL LETTER C WITH ACUTE|SMALL LETTER C WITH ACUTE
108 LATIN |CAPITAL LETTER C WITH CIRCUMFLEX|SMALL LETTER C WITH CIRCUMFLEX
10A LATIN |CAPITAL LETTER C WITH DOT ABOVE|SMALL LETTER C WITH DOT ABOVE
10C LATIN |CAPITAL LETTER C WITH CARON|SMALL LETTER C WITH CARON|CAPITAL LETTER D WITH CARON
10F LATIN |SMALL LETTER D WITH CARON|CAPITAL LETTER D WITH STROKE|SMALL LETTER D WITH STROKE
112 LATIN |CAPITAL LETTER E WITH MACRON|SMALL LETTER E WITH MACRON|CAPITAL LETTER E WITH BREVE
115 LATIN |SMALL LETTER E WITH BREVE|CAPITAL LETTER E WITH DOT ABOVE|SMALL LETTER E WITH DOT ABOVE
118 LATIN |CAPITAL LETTER E WITH OGONEK|SMALL LETTER E WITH OGONEK|CAPITAL LETTER E WITH CARON
11B LATIN |SMALL LETTER E WITH CARON|CAPITAL LETTER G WITH CIRCUMFLEX
11D LATIN |SMALL LETTER G WITH CIRCUMFLEX|CAPITAL LETTER G WITH BREVE|SMALL LETTER G WITH BREVE
120 LATIN |CAPITAL LETTER G WITH DOT ABOVE|SMALL LETTER G WITH DOT ABOVE
122 LATIN |CAPITAL LETTER G WITH CEDILLA|SMALL LETTER G WITH CEDILLA
124 LATIN |CAPITAL LETTER H WITH CIRCUMFLEX|SMALL LETTER H WITH CIRCUMFLEX
126 LATIN |CAPITAL LETTER H WITH STROKE|SMALL LETTER H WITH STROKE|CAPITAL LETTER I WITH TILDE
129 LATIN |SMALL LETTER I WITH TILDE|CAPITAL LETTER I WITH MACRON|SMALL LETTER I WITH MACRON
12C LATIN |CAPITAL LETTER I WITH BREVE|SMALL LETTER I WITH BREVE|CAPITAL LETTER I WITH OGONEK
12F LATIN |SMALL LETTER I WITH OGONEK|CAPITAL LETTER I WITH DOT ABOVE|SMALL LETTER DOTLESS I
132 LATIN |CAPITAL LIGATURE IJ|SMALL LIGATURE IJ|CAPITAL LETTER J WITH CIRCUMFLEX
135 LATIN |SMALL LETTER J WITH CIRCUMFLEX|CAPITAL LETTER K WITH CEDILLA
137 LATIN |SMALL LETTER K WITH CEDILLA|SMALL LETTER KRA|CAPITAL LETTER L WITH ACUTE
13A LATIN |SMALL LETTER L WITH ACUTE|CAPITAL LETTER L WITH CEDILLA|SMALL LETTER L WITH CEDILLA
13D LATIN |CAPITAL LETTER L WITH CARON|SMALL LETTER L WITH CARON|CAPITAL LETTER L WITH MIDDLE DOT
140 LATIN |SMALL LETTER L WITH MIDDLE DOT|CAPITAL LETTER L WITH STROKE|SMALL LETTER L WITH STROKE
143 LATIN |CAPITAL LETTER N WITH ACUTE|SMALL LETTER N WITH ACUTE|CAPITAL LETTER N WITH CEDILLA
146 LATIN |SMALL LETTER N WITH CEDILLA|CAPITAL LETTER N WITH CARON|SMALL LETTER N WITH CARON
149 LATIN |SMALL LETTER N PRECEDED BY APOSTROPHE|CAPITAL LETTER ENG|SMALL LETTER ENG
14C LATIN |CAPITAL LETTER O WITH MACRON|SMALL LETTER O WITH MACRON|CAPITAL LETTER O WITH BREVE
14F LATIN |SMALL LETTER O WITH BREVE|CAPITAL LETTER O WITH DOUBLE ACUTE
151 LATIN |SMALL LETTER O WITH DOUBLE ACUTE|CAPITAL LIGATURE OE|SMALL LIGATURE OE
154 LATIN |CAPITAL LETTER R WITH ACUTE|SMALL LETTER R WITH ACUTE|CAPITAL LETTER R WITH CEDILLA
157 LATIN |SMALL LETTER R WITH CEDILLA|CAPITAL LETTER R WITH CARON|SMALL LETTER R WITH CARON
15A LATIN |CAPITAL LETTER S WITH ACUTE|SMALL LETTER S WITH ACUTE|CAPITAL LETTER S WITH CIRCUMFLEX
15D LATIN |SMALL LETTER S WITH CIRCUMFLEX|CAPITAL LETTER S WITH CEDILLA
15F LATIN |SMALL LETTER S WITH CEDILLA|CAPITAL LETTER S WITH CARON|SMALL LETTER S WITH CARON
162 LATIN |CAPITAL LETTER T WITH CEDILLA|SMALL LETTER T WITH CEDILLA|CAPITAL LETTER T WITH CARON
165 LATIN |SMALL LETTER T WITH CARON|CAPITAL LETTER T WITH STROKE|SMALL LETTER T WITH STROKE
168 LATIN |CAPITAL LETTER U WITH TILDE|SMALL LETTER U WITH TILDE|CAPITAL LETTER U WITH MACRON
16B LATIN |SMALL LETTER U WITH MACRON|CAPITAL LETTER U WITH BREVE|SMALL LETTER U WITH BREVE
16E LATIN |CAPITAL LETTER U WITH RING ABOVE|SMALL LETTER U WITH RING ABOVE
170 LATIN |CAPITAL LETTER U WITH DOUBLE ACUTE|SMALL LETTER U WITH DOUBLE ACUTE
172 LATIN |CAPITAL LETTER U WITH OGONEK|SMALL LETTER U WITH OGONEK
174 LATIN |CAPITAL LETTER W WITH CIRCUMFLEX|SMALL LETTER W WITH CIRCUMFLEX
176 LATIN |CAPITAL LETTER Y WITH CIRCUMFLEX|SMALL LETTER Y WITH CIRCUMFLEX
178 LATIN |CAPITAL LETTER Y WITH DIAERESIS|CAPITAL LETTER Z WITH ACUTE|SMALL LETTER Z WITH ACUTE
17B LATIN |CAPITAL LETTER Z WITH DOT ABOVE|SMALL LETTER Z WITH DOT ABOVE
17D LATIN |CAPITAL LETTER Z WITH CARON|SMALL LETTER Z WITH CARON|SMALL LETTER LONG S
180 LATIN |SMALL LETTER B WITH STROKE|CAPITAL LETTER B WITH HOOK|CAPITAL LETTER B WITH TOPBAR
183 LATIN |SMALL LETTER B WITH TOPBAR|CAPITAL LETTER TONE SIX|SMALL LETTER TONE SIX
186 LATIN |CAPITAL LETTER OPEN O|CAPITAL LETTER C WITH HOOK|SMALL LETTER C WITH HOOK
189 LATIN CAPITAL LETTER |AFRICAN D|D WITH HOOK|D WITH TOPBAR
18C LATIN |SMALL LETTER D WITH TOPBAR|SMALL LETTER TURNED DELTA|CAPITAL LETTER REVERSED E
18F LATIN CAPITAL LETTER |SCHWA|OPEN E|F WITH HOOK
192 LATIN |SMALL LETTER F WITH HOOK|CAPITAL LETTER G WITH HOOK|CAPITAL LETTER GAMMA
195 LATIN |SMALL LETTER HV|CAPITAL LETTER IOTA|CAPITAL LETTER I WITH STROKE
198 LATIN |CAPITAL LETTER K WITH HOOK|SMALL LETTER K WITH HOOK|SMALL LETTER L WITH BAR
19B LATIN |SMALL LETTER LAMBDA WITH STROKE|CAPITAL LETTER TURNED M|CAPITAL LETTER N WITH LEFT HOOK
19E LATIN |SMALL LETTER N WITH LONG RIGHT LEG|CAPITAL LETTER O WITH MIDDLE TILDE
1A0 LATIN |CAPITAL LETTER O WITH HORN|SMALL LETTER O WITH HORN|CAPITAL LETTER OI|SMALL LETTER OI
1A4 LATIN |CAPITAL LETTER P WITH HOOK|SMALL LETTER P WITH HOOK|LETTER YR|CAPITAL LETTER TONE TWO
1A8 LATIN |SMALL LETTER TONE TWO|CAPITAL LETTER ESH|LETTER REVERSED ESH LOOP
1AB LATIN |SMALL LETTER T WITH PALATAL HOOK|CAPITAL LETTER T WITH HOOK|SMALL LETTER T WITH HOOK
1AE LATIN CAPITAL LETTER |T WITH RETROFLEX HOOK|U WITH HORN
1B0 LATIN |SMALL LETTER U WITH HORN|CAPITAL LETTER UPSILON|CAPITAL LETTER V WITH HOOK
1B3 LATIN |CAPITAL LETTER Y WITH HOOK|SMALL LETTER Y WITH HOOK|CAPITAL LETTER Z WITH STROKE
1B6 LATIN |SMALL LETTER Z WITH STROKE|CAPITAL LETTER EZH|CAPITAL LETTER EZH REVERSED
1B9 LATIN |SMALL LETTER EZH REVERSED|SMALL LETTER EZH WITH TAIL|LETTER TWO WITH STROKE
1BC LATIN |CAPITAL LETTER TONE FIVE|SMALL LETTER TONE FIVE
1BE LATIN LETTER |INVERTED GLOTTAL STOP WITH STROKE|WYNN|DENTAL CLICK|LATERAL CLICK|ALVEOLAR CLICK
1C3 LATIN |LETTER RETROFLEX CLICK|CAPITAL LETTER DZ WITH CARON
1C5 LATIN |CAPITAL LETTER D WITH SMALL LETTER Z WITH CARON|SMALL LETTER DZ WITH CARON
1C7 LATIN |CAPITAL LETTER LJ|CAPITAL LETTER L WITH SMALL LETTER J|SMALL LETTER LJ
1CA LATIN |CAPITAL LETTER NJ|CAPITAL LETTER N WITH SMALL LETTER J|SMALL LETTER NJ
1CD LATIN |CAPITAL LETTER A WITH CARON|SMALL LETTER A WITH CARON|CAPITAL LETTER I WITH CARON
1D0 LATIN |SMALL LETTER I WITH CARON|CAPITAL LETTER O WITH CARON|SMALL LETTER O WITH CARON
1D3 LATIN |CAPITAL LETTER U WITH CARON|SMALL LETTER U WITH CARON
1D5 LATIN |CAPITAL LETTER U WITH DIAERESIS AND MACRON|SMALL LETTER U WITH DIAERESIS AND MACRON
1D7 LATIN |CAPITAL LETTER U WITH DIAERESIS AND ACUTE|SMALL LETTER U WITH DIAERESIS AND ACUTE
1D9 LATIN |CAPITAL LETTER U WITH DIAERESIS AND CARON|SMALL LETTER U WITH DIAERESIS AND CARON
1DB LATIN |CAPITAL LETTER U WITH DIAERESIS AND GRAVE|SMALL LETTER U WITH DIAERESIS AND GRAVE
1DD LATIN |SMALL LETTER TURNED E|CAPITAL LETTER A WITH DIAERESIS AND MACRON
1DF LATIN |SMALL LETTER A WITH DIAERESIS AND MACRON|CAPITAL LETTER A WITH DOT ABOVE AND MACRON
1E1 LATIN |SMALL LETTER A WITH DOT ABOVE AND MACRON|CAPITAL LETTER AE WITH MACRON
1E3 LATIN |SMALL LETTER AE WITH MACRON|CAPITAL LETTER G WITH STROKE|SMALL LETTER G WITH STROKE
1E6 LATIN |CAPITAL LETTER G WITH CARON|SMALL LETTER G WITH CARON|CAPITAL LETTER K WITH CARON
1E9 LATIN |SMALL LETTER K WITH CARON|CAPITAL LETTER O WITH OGONEK|SMALL LETTER O WITH OGONEK
1EC LATIN |CAPITAL LETTER O WITH OGONEK AND MACRON|SMALL LETTER O WITH OGONEK AND MACRON
1EE LATIN |CAPITAL LETTER EZH WITH CARON|SMALL LETTER EZH WITH CARON|SMALL LETTER J WITH CARON
1F1 LATIN |CAPITAL LETTER DZ|CAPITAL LETTER D WITH SMALL LETTER Z|SMALL LETTER DZ
1F4 LATIN |CAPITAL LETTER G WITH ACUTE|SMALL LETTER G WITH ACUTE|CAPITAL LETTER HWAIR
1F7 LATIN |CAPITAL LETTER WYNN|CAPITAL LETTER N WITH GRAVE|SMALL LETTER N WITH GRAVE
1FA LATIN |CAPITAL LETTER A WITH RING ABOVE AND ACUTE|SMALL LETTER A WITH RING ABOVE AND ACUTE
1FC LATIN |CAPITAL LETTER AE WITH ACUTE|SMALL LETTER AE WITH ACUTE
1FE LATIN |CAPITAL LETTER O WITH STROKE AND ACUTE|SMALL LETTER O WITH STROKE AND ACUTE
200 LATIN |CAPITAL LETTER A WITH DOUBLE GRAVE|SMALL LETTER A WITH DOUBLE GRAVE
202 LATIN |CAPITAL LETTER A WITH INVERTED BREVE|SMALL LETTER A WITH INVERTED BREVE
204 LATIN |CAPITAL LETTER E WITH DOUBLE GRAVE|SMALL LETTER E WITH DOUBLE GRAVE
206 LATIN |CAPITAL LETTER E WITH INVERTED BREVE|SMALL LETTER E WITH INVERTED BREVE
208 LATIN |CAPITAL LETTER I WITH DOUBLE GRAVE|SMALL LETTER I WITH DOUBLE GRAVE
20A LATIN |CAPITAL LETTER I WITH INVERTED BREVE|SMALL LETTER I WITH INVERTED BREVE
20C LATIN |CAPITAL LETTER O WITH DOUBLE GRAVE|SMALL LETTER O WITH DOUBLE GRAVE
20E LATIN |CAPITAL LETTER O WITH INVERTED BREVE|SMALL LETTER O WITH INVERTED BREVE
210 LATIN |CAPITAL LETTER R WITH DOUBLE GRAVE|SMALL LETTER R WITH DOUBLE GRAVE
212 LATIN |CAPITAL LETTER R WITH INVERTED BREVE|SMALL LETTER R WITH INVERTED BREVE
214 LATIN |CAPITAL LETTER U WITH DOUBLE GRAVE|SMALL LETTER U WITH DOUBLE GRAVE
216 LATIN |CAPITAL LETTER U WITH INVERTED BREVE|SMALL LETTER U WITH INVERTED BREVE
218 LATIN |CAPITAL LETTER S WITH COMMA BELOW|SMALL LETTER S WITH COMMA BELOW
21A LATIN |CAPITAL LETTER T WITH COMMA BELOW|SMALL LETTER T WITH COMMA BELOW|CAPITAL LETTER YOGH
21D LATIN |SMALL LETTER YOGH|CAPITAL LETTER H WITH CARON|SMALL LETTER H WITH CARON
220 LATIN |CAPITAL LETTER N WITH LONG RIGHT LEG|SMALL LETTER D WITH CURL|CAPITAL LETTER OU
223 LATIN |SMALL LETTER OU|CAPITAL LETTER Z WITH HOOK|SMALL LETTER Z WITH HOOK
226 LATIN |CAPITAL LETTER A WITH DOT ABOVE|SMALL LETTER A WITH DOT ABOVE
228 LATIN |CAPITAL LETTER E WITH CEDILLA|SMALL LETTER E WITH CEDILLA
22A LATIN |CAPITAL LETTER O WITH DIAERESIS AND MACRON|SMALL LETTER O WITH DIAERESIS AND MACRON
22C LATIN |CAPITAL LETTER O WITH TILDE AND MACRON|SMALL LETTER O WITH TILDE AND MACRON
22E LATIN |CAPITAL LETTER O WITH DOT ABOVE|SMALL LETTER O WITH DOT ABOVE
230 LATIN |CAPITAL LETTER O WITH DOT ABOVE AND MACRON|SMALL LETTER O WITH DOT ABOVE AND MACRON
232 LATIN |CAPITAL LETTER Y WITH MACRON|SMALL LETTER Y WITH MACRON|SMALL LETTER L WITH CURL
235 LATIN SMALL LETTER |N WITH CURL|T WITH CURL|DOTLESS J|DB DIGRAPH|QP DIGRAPH
23A LATIN |CAPITAL LETTER A WITH STROKE|CAPITAL LETTER C WITH STROKE|SMALL LETTER C WITH STROKE
23D LATIN CAPITAL LETTER |L WITH BAR|T WITH DIAGONAL STROKE
23F LATIN SMALL LETTER |S WITH SWASH TAIL|Z WITH SWASH TAIL
241 LATIN |CAPITAL LETTER GLOTTAL STOP|SMALL LETTER GLOTTAL STOP|CAPITAL LETTER B WITH STROKE
244 LATIN CAPITAL LETTER |U BAR|TURNED V|E WITH STROKE
247 LATIN |SMALL LETTER E WITH STROKE|CAPITAL LETTER J WITH STROKE|SMALL LETTER J WITH STROKE
24A LATIN |CAPITAL LETTER SMALL Q WITH HOOK TAIL|SMALL LETTER Q WITH HOOK TAIL
24C LATIN |CAPITAL LETTER R WITH STROKE|SMALL LETTER R WITH STROKE|CAPITAL LETTER Y WITH STROKE
24F LATIN SMALL LETTER |Y WITH STROKE|TURNED A|ALPHA|TURNED ALPHA|B WITH HOOK|OPEN O|C WITH CURL
256 LATIN SMALL LETTER |D WITH TAIL|D WITH HOOK|REVERSED E|SCHWA|SCHWA WITH HOOK|OPEN E
25C LATIN SMALL LETTER |REVERSED OPEN E|REVERSED OPEN E WITH HOOK|CLOSED REVERSED OPEN E
25F LATIN SMALL LETTER |DOTLESS J WITH STROKE|G WITH HOOK|SCRIPT G
262 LATIN |LETTER SMALL CAPITAL G|SMALL LETTER GAMMA|SMALL LETTER RAMS HORN|SMALL LETTER TURNED H
266 LATIN SMALL LETTER |H WITH HOOK|HENG WITH HOOK|I WITH STROKE|IOTA
26A LATIN |LETTER SMALL CAPITAL I|SMALL LETTER L WITH MIDDLE TILDE|SMALL LETTER L WITH BELT
26D LATIN SMALL LETTER |L WITH RETROFLEX HOOK|LEZH|TURNED M|TURNED M WITH LONG LEG|M WITH HOOK
272 LATIN |SMALL LETTER N WITH LEFT HOOK|SMALL LETTER N WITH RETROFLEX HOOK|LETTER SMALL CAPITAL N
275 LATIN |SMALL LETTER BARRED O|LETTER SMALL CAPITAL OE|SMALL LETTER CLOSED OMEGA
278 LATIN SMALL LETTER |PHI|TURNED R|TURNED R WITH LONG LEG|TURNED R WITH HOOK|R WITH LONG LEG
27D LATIN SMALL LETTER |R WITH TAIL|R WITH FISHHOOK|REVERSED R WITH FISHHOOK
280 LATIN |LETTER SMALL CAPITAL R|LETTER SMALL CAPITAL INVERTED R|SMALL LETTER S WITH HOOK
283 LATIN SMALL LETTER |ESH|DOTLESS J WITH STROKE AND HOOK|SQUAT REVERSED ESH|ESH WITH CURL
287 LATIN SMALL LETTER |TURNED T|T WITH RETROFLEX HOOK|U BAR|UPSILON|V WITH HOOK|TURNED V|TURNED W
28E LATIN |SMALL LETTER TURNED Y|LETTER SMALL CAPITAL Y|SMALL LETTER Z WITH RETROFLEX HOOK
291 LATIN SMALL LETTER |Z WITH CURL|EZH|EZH WITH CURL
294 LATIN LETTER |GLOTTAL STOP|PHARYNGEAL VOICED FRICATIVE|INVERTED GLOTTAL STOP|STRETCHED C
298 LATIN |LETTER BILABIAL CLICK|LETTER SMALL CAPITAL B|SMALL LETTER CLOSED OPEN E
29B LATIN LETTER SMALL CAPITAL |G WITH HOOK|H
29D LATIN |SMALL LETTER J WITH CROSSED-TAIL|SMALL LETTER TURNED K|LETTER SMALL CAPITAL L
2A0 LATIN |SMALL LETTER Q WITH HOOK|LETTER GLOTTAL STOP WITH STROKE
2A2 LATIN |LETTER REVERSED GLOTTAL STOP WITH STROKE|SMALL LETTER DZ DIGRAPH
2A4 LATIN SMALL LETTER |DEZH DIGRAPH|DZ DIGRAPH WITH CURL|TS DIGRAPH|TESH DIGRAPH
2A8 LATIN SMALL LETTER |TC DIGRAPH WITH CURL|FENG DIGRAPH|LS DIGRAPH|LZ DIGRAPH
2AC LATIN LETTER |BILABIAL PERCUSSIVE|BIDENTAL PERCUSSIVE
2AE LATIN SMALL LETTER TURNED H WITH |FISHHOOK|FISHHOOK AND TAIL
2B0 MODIFIER LETTER SMALL |H|H WITH HOOK|J|R|TURNED R|TURNED R WITH HOOK|CAPITAL INVERTED R|W|Y
2B9 MODIFIER LETTER |PRIME|DOUBLE PRIME|TURNED COMMA|APOSTROPHE|REVERSED COMMA|RIGHT HALF RING
2BF MODIFIER LETTER |LEFT HALF RING|GLOTTAL STOP|REVERSED GLOTTAL STOP|LEFT ARROWHEAD
2C3 MODIFIER LETTER |RIGHT ARROWHEAD|UP ARROWHEAD|DOWN ARROWHEAD|CIRCUMFLEX ACCENT
2C7 |CARON|MODIFIER LETTER VERTICAL LINE|MODIFIER LETTER MACRON|MODIFIER LETTER ACUTE ACCENT
2CB MODIFIER LETTER |GRAVE ACCENT|LOW VERTICAL LINE|LOW MACRON|LOW GRAVE ACCENT|LOW ACUTE ACCENT
2D0 MODIFIER LETTER |TRIANGULAR COLON|HALF TRIANGULAR COLON|CENTRED RIGHT HALF RING
2D3 MODIFIER LETTER |CENTRED LEFT HALF RING|UP TACK|DOWN TACK|PLUS SIGN|MINUS SIGN
2D8 |BREVE|DOT ABOVE|RING ABOVE|OGONEK|SMALL TILDE|DOUBLE ACUTE ACCENT|MODIFIER LETTER RHOTIC HOOK
2DF MODIFIER LETTER |CROSS ACCENT|SMALL GAMMA|SMALL L|SMALL S|SMALL X|SMALL REVERSED GLOTTAL STOP
2E5 MODIFIER LETTER |EXTRA-HIGH TONE BAR|HIGH TONE BAR|MID TONE BAR|LOW TONE BAR
2E9 MODIFIER LETTER |EXTRA-LOW TONE BAR|YIN DEPARTING TONE MARK|YANG DEPARTING TONE MARK|VOICING
2ED MODIFIER LETTER |UNASPIRATED|DOUBLE APOSTROPHE|LOW DOWN ARROWHEAD|LOW UP ARROWHEAD
2F1 MODIFIER LETTER |LOW LEFT ARROWHEAD|LOW RIGHT ARROWHEAD|LOW RING|MIDDLE GRAVE ACCENT
2F5 MODIFIER LETTER |MIDDLE DOUBLE GRAVE ACCENT|MIDDLE DOUBLE ACUTE ACCENT|LOW TILDE|RAISED COLON
2F9 MODIFIER LETTER |BEGIN HIGH TONE|END HIGH TONE|BEGIN LOW TONE|END LOW TONE|SHELF|OPEN SHELF
2FF |MODIFIER LETTER LOW LEFT ARROW|COMBINING GRAVE ACCENT|COMBINING ACUTE ACCENT
302 COMBINING |CIRCUMFLEX ACCENT|TILDE|MACRON|OVERLINE|BREVE|DOT ABOVE|DIAERESIS|HOOK ABOVE
30A COMBINING |RING ABOVE|DOUBLE ACUTE ACCENT|CARON|VERTICAL LINE ABOVE|DOUBLE VERTICAL LINE ABOVE
30F COMBINING |DOUBLE GRAVE ACCENT|CANDRABINDU|INVERTED BREVE|TURNED COMMA ABOVE|COMMA ABOVE
314 COMBINING |REVERSED COMMA ABOVE|COMMA ABOVE RIGHT|GRAVE ACCENT BELOW|ACUTE ACCENT BELOW
318 COMBINING |LEFT TACK BELOW|RIGHT TACK BELOW|LEFT ANGLE ABOVE|HORN|LEFT HALF RING BELOW
31D COMBINING |UP TACK BELOW|DOWN TACK BELOW|PLUS SIGN BELOW|MINUS SIGN BELOW
321 COMBINING |PALATALIZED HOOK BELOW|RETROFLEX HOOK BELOW|DOT BELOW|DIAERESIS BELOW|RING BELOW
326 COMBINING |COMMA BELOW|CEDILLA|OGONEK|VERTICAL LINE BELOW|BRIDGE BELOW
32B COMBINING |INVERTED DOUBLE ARCH BELOW|CARON BELOW|CIRCUMFLEX ACCENT BELOW|BREVE BELOW
32F COMBINING |INVERTED BREVE BELOW|TILDE BELOW|MACRON BELOW|LOW LINE|DOUBLE LOW LINE
334 COMBINING |TILDE OVERLAY|SHORT STROKE OVERLAY|LONG STROKE OVERLAY|SHORT SOLIDUS OVERLAY
338 COMBINING |LONG SOLIDUS OVERLAY|RIGHT HALF RING BELOW|INVERTED BRIDGE BELOW|SQUARE BELOW
33C COMBINING |SEAGULL BELOW|X ABOVE|VERTICAL TILDE|DOUBLE OVERLINE|GRAVE TONE MARK
341 COMBINING |ACUTE TONE MARK|GREEK PERISPOMENI|GREEK KORONIS|GREEK DIALYTIKA TONOS
345 COMBINING |GREEK YPOGEGRAMMENI|BRIDGE ABOVE|EQUALS SIGN BELOW|DOUBLE VERTICAL LINE BELOW
349 COMBINING |LEFT ANGLE BELOW|NOT TILDE ABOVE|HOMOTHETIC ABOVE|ALMOST EQUAL TO ABOVE
34D COMBINING |LEFT RIGHT ARROW BELOW|UPWARDS ARROW BELOW|GRAPHEME JOINER|RIGHT ARROWHEAD ABOVE
351 COMBINING |LEFT HALF RING ABOVE|FERMATA|X BELOW|LEFT ARROWHEAD BELOW|RIGHT ARROWHEAD BELOW
356 COMBINING |RIGHT ARROWHEAD AND UP ARROWHEAD BELOW|RIGHT HALF RING ABOVE|DOT ABOVE RIGHT
359 COMBINING |ASTERISK BELOW|DOUBLE RING BELOW|ZIGZAG ABOVE|DOUBLE BREVE BELOW|DOUBLE BREVE
35E COMBINING DOUBLE |MACRON|MACRON BELOW|TILDE|INVERTED BREVE|RIGHTWARDS ARROW BELOW
363 COMBINING LATIN SMALL LETTER |A|E|I|O|U|C|D|H|M|R|T|V|X
370 GREEK |CAPITAL LETTER HETA|SMALL LETTER HETA|CAPITAL LETTER ARCHAIC SAMPI
373 GREEK |SMALL LETTER ARCHAIC SAMPI|NUMERAL SIGN|LOWER NUMERAL SIGN
376 GREEK |CAPITAL LETTER PAMPHYLIAN DIGAMMA|SMALL LETTER PAMPHYLIAN DIGAMMA
37A GREEK |YPOGEGRAMMENI|SMALL REVERSED LUNATE SIGMA SYMBOL|SMALL DOTTED LUNATE SIGMA SYMBOL
37D GREEK |SMALL REVERSED DOTTED LUNATE SIGMA SYMBOL|QUESTION MARK|CAPITAL LETTER YOT
384 GREEK |TONOS|DIALYTIKA TONOS|CAPITAL LETTER ALPHA WITH TONOS|ANO TELEIA
388 GREEK CAPITAL LETTER |EPSILON WITH TONOS|ETA WITH TONOS|IOTA WITH TONOS
38C |GREEK CAPITAL LETTER OMICRON WITH TONOS
38E GREEK CAPITAL LETTER |UPSILON WITH TONOS|OMEGA WITH TONOS
390 GREEK |SMALL LETTER IOTA WITH DIALYTIKA AND TONOS|CAPITAL LETTER ALPHA|CAPITAL LETTER BETA
393 GREEK CAPITAL LETTER |GAMMA|DELTA|EPSILON|ZETA|ETA|THETA|IOTA|KAPPA|LAMDA|MU|NU|XI|OMICRON|PI
3A1 |GREEK CAPITAL LETTER RHO
3A3 GREEK CAPITAL LETTER |SIGMA|TAU|UPSILON|PHI|CHI|PSI|OMEGA|IOTA WITH DIALYTIKA
3AB GREEK |CAPITAL LETTER UPSILON WITH DIALYTIKA|SMALL LETTER ALPHA WITH TONOS
3AD GREEK SMALL LETTER |EPSILON WITH TONOS|ETA WITH TONOS|IOTA WITH TONOS
3B0 GREEK SMALL LETTER |UPSILON WITH DIALYTIKA AND TONOS|ALPHA|BETA|GAMMA|DELTA|EPSILON|ZETA|ETA
3B8 GREEK SMALL LETTER |THETA|IOTA|KAPPA|LAMDA|MU|NU|XI|OMICRON|PI|RHO|FINAL SIGMA|SIGMA|TAU
3C5 GREEK SMALL LETTER |UPSILON|PHI|CHI|PSI|OMEGA|IOTA WITH DIALYTIKA|UPSILON WITH DIALYTIKA
3CC GREEK SMALL LETTER |OMICRON WITH TONOS|UPSILON WITH TONOS|OMEGA WITH TONOS
3CF GREEK |CAPITAL KAI SYMBOL|BETA SYMBOL|THETA SYMBOL|UPSILON WITH HOOK SYMBOL
3D3 GREEK |UPSILON WITH ACUTE AND HOOK SYMBOL|UPSILON WITH DIAERESIS AND HOOK SYMBOL|PHI SYMBOL
3D6 GREEK |PI SYMBOL|KAI SYMBOL|LETTER ARCHAIC KOPPA|SMALL LETTER ARCHAIC KOPPA|LETTER STIGMA
3DB GREEK |SMALL LETTER STIGMA|LETTER DIGAMMA|SMALL LETTER DIGAMMA|LETTER KOPPA|SMALL LETTER KOPPA
3E0 |GREEK LETTER SAMPI|GREEK SMALL LETTER SAMPI|COPTIC CAPITAL LETTER SHEI
3E3 COPTIC |SMALL LETTER SHEI|CAPITAL LETTER FEI|SMALL LETTER FEI|CAPITAL LETTER KHEI
3E7 COPTIC |SMALL LETTER KHEI|CAPITAL LETTER HORI|SMALL LETTER HORI|CAPITAL LETTER GANGIA
3EB COPTIC |SMALL LETTER GANGIA|CAPITAL LETTER SHIMA|SMALL LETTER SHIMA|CAPITAL LETTER DEI
3EF |COPTIC SMALL LETTER DEI|GREEK KAPPA SYMBOL|GREEK RHO SYMBOL|GREEK LUNATE SIGMA SYMBOL
3F3 GREEK |LETTER YOT|CAPITAL THETA SYMBOL|LUNATE EPSILON SYMBOL|REVERSED LUNATE EPSILON SYMBOL
3F7 GREEK |CAPITAL LETTER SHO|SMALL LETTER SHO|CAPITAL LUNATE SIGMA SYMBOL|CAPITAL LETTER SAN
3FB GREEK |SMALL LETTER SAN|RHO WITH STROKE SYMBOL|CAPITAL REVERSED LUNATE SIGMA SYMBOL
3FE GREEK CAPITAL |DOTTED LUNATE SIGMA SYMBOL|REVERSED DOTTED LUNATE SIGMA SYMBOL
400 CYRILLIC CAPITAL LETTER |IE WITH GRAVE|IO|DJE|GJE|UKRAINIAN IE|DZE|BYELORUSSIAN-UKRAINIAN I|YI
408 CYRILLIC CAPITAL LETTER |JE|LJE|NJE|TSHE|KJE|I WITH GRAVE|SHORT U|DZHE|A|BE|VE|GHE|DE|IE|ZHE
417 CYRILLIC CAPITAL LETTER |ZE|I|SHORT I|KA|EL|EM|EN|O|PE|ER|ES|TE|U|EF|HA|TSE|CHE|SHA|SHCHA
42A CYRILLIC CAPITAL LETTER |HARD SIGN|YERU|SOFT SIGN|E|YU|YA
430 CYRILLIC SMALL LETTER |A|BE|VE|GHE|DE|IE|ZHE|ZE|I|SHORT I|KA|EL|EM|EN|O|PE|ER|ES|TE|U|EF|HA
446 CYRILLIC SMALL LETTER |TSE|CHE|SHA|SHCHA|HARD SIGN|YERU|SOFT SIGN|E|YU|YA|IE WITH GRAVE|IO|DJE
453 CYRILLIC SMALL LETTER |GJE|UKRAINIAN IE|DZE|BYELORUSSIAN-UKRAINIAN I|YI|JE|LJE|NJE|TSHE|KJE
45D CYRILLIC SMALL LETTER |I WITH GRAVE|SHORT U|DZHE
460 CYRILLIC |CAPITAL LETTER OMEGA|SMALL LETTER OMEGA|CAPITAL LETTER YAT|SMALL LETTER YAT
464 CYRILLIC |CAPITAL LETTER IOTIFIED E|SMALL LETTER IOTIFIED E|CAPITAL LETTER LITTLE YUS
467 CYRILLIC |SMALL LETTER LITTLE YUS|CAPITAL LETTER IOTIFIED LITTLE YUS
469 CYRILLIC |SMALL LETTER IOTIFIED LITTLE YUS|CAPITAL LETTER BIG YUS|SMALL LETTER BIG YUS
46C CYRILLIC |CAPITAL LETTER IOTIFIED BIG YUS|SMALL LETTER IOTIFIED BIG YUS|CAPITAL LETTER KSI
46F CYRILLIC |SMALL LETTER KSI|CAPITAL LETTER PSI|SMALL LETTER PSI|CAPITAL LETTER FITA
473 CYRILLIC |SMALL LETTER FITA|CAPITAL LETTER IZHITSA|SMALL LETTER IZHITSA
476 |CYRILLIC CAPITAL LETTER IZHITSA WITH DOUBLE GRAVE ACCENT
477 CYRILLIC |SMALL LETTER IZHITSA WITH DOUBLE GRAVE ACCENT|CAPITAL LETTER UK|SMALL LETTER UK
47A CYRILLIC |CAPITAL LETTER ROUND OMEGA|SMALL LETTER ROUND OMEGA|CAPITAL LETTER OMEGA WITH TITLO
47D CYRILLIC |SMALL LETTER OMEGA WITH TITLO|CAPITAL LETTER OT|SMALL LETTER OT|CAPITAL LETTER KOPPA
481 |CYRILLIC SMALL LETTER KOPPA|CYRILLIC THOUSANDS SIGN|COMBINING CYRILLIC TITLO
484 COMBINING CYRILLIC |PALATALIZATION|DASIA PNEUMATA|PSILI PNEUMATA|POKRYTIE
488 COMBINING CYRILLIC |HUNDRED THOUSANDS SIGN|MILLIONS SIGN
48A CYRILLIC |CAPITAL LETTER SHORT I WITH TAIL|SMALL LETTER SHORT I WITH TAIL
48C CYRILLIC |CAPITAL LETTER SEMISOFT SIGN|SMALL LETTER SEMISOFT SIGN|CAPITAL LETTER ER WITH TICK
48F CYRILLIC |SMALL LETTER ER WITH TICK|CAPITAL LETTER GHE WITH UPTURN
491 CYRILLIC |SMALL LETTER GHE WITH UPTURN|CAPITAL LETTER GHE WITH STROKE
493 CYRILLIC |SMALL LETTER GHE WITH STROKE|CAPITAL LETTER GHE WITH MIDDLE HOOK
495 CYRILLIC |SMALL LETTER GHE WITH MIDDLE HOOK|CAPITAL LETTER ZHE WITH DESCENDER
497 CYRILLIC |SMALL LETTER ZHE WITH DESCENDER|CAPITAL LETTER ZE WITH DESCENDER
499 CYRILLIC |SMALL LETTER ZE WITH DESCENDER|CAPITAL LETTER KA WITH DESCENDER
49B CYRILLIC |SMALL LETTER KA WITH DESCENDER|CAPITAL LETTER KA WITH VERTICAL STROKE
49D CYRILLIC |SMALL LETTER KA WITH VERTICAL STROKE|CAPITAL LETTER KA WITH STROKE
49F CYRILLIC |SMALL LETTER KA WITH STROKE|CAPITAL LETTER BASHKIR KA|SMALL LETTER BASHKIR KA
4A2 CYRILLIC |CAPITAL LETTER EN WITH DESCENDER|SMALL LETTER EN WITH DESCENDER
4A4 CYRILLIC |CAPITAL LIGATURE EN GHE|SMALL LIGATURE EN GHE|CAPITAL LETTER PE WITH MIDDLE HOOK
4A7 CYRILLIC |SMALL LETTER PE WITH MIDDLE HOOK|CAPITAL LETTER ABKHASIAN HA
4A9 CYRILLIC |SMALL LETTER ABKHASIAN HA|CAPITAL LETTER ES WITH DESCENDER
4AB CYRILLIC |SMALL LETTER ES WITH DESCENDER|CAPITAL LETTER TE WITH DESCENDER
4AD CYRILLIC |SMALL LETTER TE WITH DESCENDER|CAPITAL LETTER STRAIGHT U|SMALL LETTER STRAIGHT U
4B0 CYRILLIC |CAPITAL LETTER STRAIGHT U WITH STROKE|SMALL LETTER STRAIGHT U WITH STROKE
4B2 CYRILLIC |CAPITAL LETTER HA WITH DESCENDER|SMALL LETTER HA WITH DESCENDER
4B4 CYRILLIC |CAPITAL LIGATURE TE TSE|SMALL LIGATURE TE TSE|CAPITAL LETTER CHE WITH DESCENDER
4B7 CYRILLIC |SMALL LETTER CHE WITH DESCENDER|CAPITAL LETTER CHE WITH VERTICAL STROKE
4B9 CYRILLIC |SMALL LETTER CHE WITH VERTICAL STROKE|CAPITAL LETTER SHHA|SMALL LETTER SHHA
4BC CYRILLIC |CAPITAL LETTER ABKHASIAN CHE|SMALL LETTER ABKHASIAN CHE
4BE |CYRILLIC CAPITAL LETTER ABKHASIAN CHE WITH DESCENDER
4BF CYRILLIC |SMALL LETTER ABKHASIAN CHE WITH DESCENDER|LETTER PALOCHKA
4C1 CYRILLIC |CAPITAL LETTER ZHE WITH BREVE|SMALL LETTER ZHE WITH BREVE
4C3 CYRILLIC |CAPITAL LETTER KA WITH HOOK|SMALL LETTER KA WITH HOOK|CAPITAL LETTER EL WITH TAIL
4C6 CYRILLIC |SMALL LETTER EL WITH TAIL|CAPITAL LETTER EN WITH HOOK|SMALL LETTER EN WITH HOOK
4C9 CYRILLIC |CAPITAL LETTER EN WITH TAIL|SMALL LETTER EN WITH TAIL|CAPITAL LETTER KHAKASSIAN CHE
4CC CYRILLIC |SMALL LETTER KHAKASSIAN CHE|CAPITAL LETTER EM WITH TAIL|SMALL LETTER EM WITH TAIL
4CF CYRILLIC |SMALL LETTER PALOCHKA|CAPITAL LETTER A WITH BREVE|SMALL LETTER A WITH BREVE
4D2 CYRILLIC |CAPITAL LETTER A WITH DIAERESIS|SMALL LETTER A WITH DIAERESIS|CAPITAL LIGATURE A IE
4D5 CYRILLIC |SMALL LIGATURE A IE|CAPITAL LETTER IE WITH BREVE|SMALL LETTER IE WITH BREVE
4D8 CYRILLIC |CAPITAL LETTER SCHWA|SMALL LETTER SCHWA|CAPITAL LETTER SCHWA WITH DIAERESIS
4DB CYRILLIC |SMALL LETTER SCHWA WITH DIAERESIS|CAPITAL LETTER ZHE WITH DIAERESIS
4DD CYRILLIC |SMALL LETTER ZHE WITH DIAERESIS|CAPITAL LETTER ZE WITH DIAERESIS
4DF CYRILLIC |SMALL LETTER ZE WITH DIAERESIS|CAPITAL LETTER ABKHASIAN DZE
4E1 CYRILLIC |SMALL LETTER ABKHASIAN DZE|CAPITAL LETTER I WITH MACRON|SMALL LETTER I WITH MACRON
4E4 CYRILLIC |CAPITAL LETTER I WITH DIAERESIS|SMALL LETTER I WITH DIAERESIS
4E6 CYRILLIC |CAPITAL LETTER O WITH DIAERESIS|SMALL LETTER O WITH DIAERESIS
4E8 CYRILLIC |CAPITAL LETTER BARRED O|SMALL LETTER BARRED O|CAPITAL LETTER BARRED O WITH DIAERESIS
4EB CYRILLIC |SMALL LETTER BARRED O WITH DIAERESIS|CAPITAL LETTER E WITH DIAERESIS
4ED CYRILLIC |SMALL LETTER E WITH DIAERESIS|CAPITAL LETTER U WITH MACRON
4EF CYRILLIC |SMALL LETTER U WITH MACRON|CAPITAL LETTER U WITH DIAERESIS
4F1 CYRILLIC |SMALL LETTER U WITH DIAERESIS|CAPITAL LETTER U WITH DOUBLE ACUTE
4F3 CYRILLIC |SMALL LETTER U WITH DOUBLE ACUTE|CAPITAL LETTER CHE WITH DIAERESIS
4F5 CYRILLIC |SMALL LETTER CHE WITH DIAERESIS|CAPITAL LETTER GHE WITH DESCENDER
4F7 CYRILLIC |SMALL LETTER GHE WITH DESCENDER|CAPITAL LETTER YERU WITH DIAERESIS
4F9 CYRILLIC |SMALL LETTER YERU WITH DIAERESIS|CAPITAL LETTER GHE WITH STROKE AND HOOK
4FB CYRILLIC |SMALL LETTER GHE WITH STROKE AND HOOK|CAPITAL LETTER HA WITH HOOK
4FD CYRILLIC |SMALL LETTER HA WITH HOOK|CAPITAL LETTER HA WITH STROKE|SMALL LETTER HA WITH STROKE
500 CYRILLIC |CAPITAL LETTER KOMI DE|SMALL LETTER KOMI DE|CAPITAL LETTER KOMI DJE
503 CYRILLIC |SMALL LETTER KOMI DJE|CAPITAL LETTER KOMI ZJE|SMALL LETTER KOMI ZJE
506 CYRILLIC |CAPITAL LETTER KOMI DZJE|SMALL LETTER KOMI DZJE|CAPITAL LETTER KOMI LJE
509 CYRILLIC |SMALL LETTER KOMI LJE|CAPITAL LETTER KOMI NJE|SMALL LETTER KOMI NJE
50C CYRILLIC |CAPITAL LETTER KOMI SJE|SMALL LETTER KOMI SJE|CAPITAL LETTER KOMI TJE
50F CYRILLIC |SMALL LETTER KOMI TJE|CAPITAL LETTER REVERSED ZE|SMALL LETTER REVERSED ZE
512 CYRILLIC |CAPITAL LETTER EL WITH HOOK|SMALL LETTER EL WITH HOOK|CAPITAL LETTER LHA
515 CYRILLIC |SMALL LETTER LHA|CAPITAL LETTER RHA|SMALL LETTER RHA|CAPITAL LETTER YAE
519 CYRILLIC |SMALL LETTER YAE|CAPITAL LETTER QA|SMALL LETTER QA|CAPITAL LETTER WE|SMALL LETTER WE
51E CYRILLIC |CAPITAL LETTER ALEUT KA|SMALL LETTER ALEUT KA|CAPITAL LETTER EL WITH MIDDLE HOOK
521 CYRILLIC |SMALL LETTER EL WITH MIDDLE HOOK|CAPITAL LETTER EN WITH MIDDLE HOOK
523 CYRILLIC |SMALL LETTER EN WITH MIDDLE HOOK|CAPITAL LETTER PE WITH DESCENDER
525 CYRILLIC |SMALL LETTER PE WITH DESCENDER|CAPITAL LETTER SHHA WITH DESCENDER
527 CYRILLIC |SMALL LETTER SHHA WITH DESCENDER|CAPITAL LETTER EN WITH LEFT HOOK
529 CYRILLIC |SMALL LETTER EN WITH LEFT HOOK|CAPITAL LETTER DZZHE|SMALL LETTER DZZHE
52C CYRILLIC |CAPITAL LETTER DCHE|SMALL LETTER DCHE|CAPITAL LETTER EL WITH DESCENDER
52F |CYRILLIC SMALL LETTER EL WITH DESCENDER
531 ARMENIAN CAPITAL LETTER |AYB|BEN|GIM|DA|ECH|ZA|EH|ET|TO|ZHE|INI|LIWN|XEH|CA|KEN|HO|JA|GHAD
543 ARMENIAN CAPITAL LETTER |CHEH|MEN|YI|NOW|SHA|VO|CHA|PEH|JHEH|RA|SEH|VEW|TIWN|REH|CO|YIWN|PIWR
554 ARMENIAN CAPITAL LETTER |KEH|OH|FEH
559 ARMENIAN |MODIFIER LETTER LEFT HALF RING|APOSTROPHE|EMPHASIS MARK|EXCLAMATION MARK|COMMA
55E ARMENIAN |QUESTION MARK|ABBREVIATION MARK|SMALL LETTER TURNED AYB|SMALL LETTER AYB
562 ARMENIAN SMALL LETTER |BEN|GIM|DA|ECH|ZA|EH|ET|TO|ZHE|INI|LIWN|XEH|CA|KEN|HO|JA|GHAD|CHEH|MEN
575 ARMENIAN SMALL LETTER |YI|NOW|SHA|VO|CHA|PEH|JHEH|RA|SEH|VEW|TIWN|REH|CO|YIWN|PIWR|KEH|OH|FEH
587 ARMENIAN |SMALL LIGATURE ECH YIWN|SMALL LETTER YI WITH STROKE|FULL STOP|HYPHEN
58D |RIGHT-FACING ARMENIAN ETERNITY SIGN|LEFT-FACING ARMENIAN ETERNITY SIGN|ARMENIAN DRAM SIGN
591 HEBREW ACCENT |ETNAHTA|SEGOL|SHALSHELET|ZAQEF QATAN|ZAQEF GADOL|TIPEHA|REVIA|ZARQA|PASHTA
59A HEBREW ACCENT |YETIV|TEVIR|GERESH|GERESH MUQDAM|GERSHAYIM|QARNEY PARA|TELISHA GEDOLA|PAZER
5A2 HEBREW ACCENT |ATNAH HAFUKH|MUNAH|MAHAPAKH|MERKHA|MERKHA KEFULA|DARGA|QADMA|TELISHA QETANA
5AA HEBREW ACCENT |YERAH BEN YOMO|OLE|ILUY|DEHI|ZINOR
5AF HEBREW |MARK MASORA CIRCLE|POINT SHEVA|POINT HATAF SEGOL|POINT HATAF PATAH|POINT HATAF QAMATS
5B4 HEBREW POINT |HIRIQ|TSERE|SEGOL|PATAH|QAMATS|HOLAM|HOLAM HASER FOR VAV|QUBUTS|DAGESH OR MAPIQ
5BD HEBREW |POINT METEG|PUNCTUATION MAQAF|POINT RAFE|PUNCTUATION PASEQ|POINT SHIN DOT
5C2 HEBREW |POINT SIN DOT|PUNCTUATION SOF PASUQ|MARK UPPER DOT|MARK LOWER DOT
5C6 HEBREW |PUNCTUATION NUN HAFUKHA|POINT QAMATS QATAN
5D0 HEBREW LETTER |ALEF|BET|GIMEL|DALET|HE|VAV|ZAYIN|HET|TET|YOD|FINAL KAF|KAF|LAMED|FINAL MEM|MEM
5DF HEBREW LETTER |FINAL NUN|NUN|SAMEKH|AYIN|FINAL PE|PE|FINAL TSADI|TSADI|QOF|RESH|SHIN|TAV
5EF HEBREW |YOD TRIANGLE|LIGATURE YIDDISH DOUBLE VAV|LIGATURE YIDDISH VAV YOD
5F2 HEBREW |LIGATURE YIDDISH DOUBLE YOD|PUNCTUATION GERESH|PUNCTUATION GERSHAYIM
600 ARABIC |NUMBER SIGN|SIGN SANAH|FOOTNOTE MARKER|SIGN SAFHA|SIGN SAMVAT|NUMBER MARK ABOVE
606 |ARABIC-INDIC CUBE ROOT|ARABIC-INDIC FOURTH ROOT|ARABIC RAY|ARABIC-INDIC PER MILLE SIGN
60A |ARABIC-INDIC PER TEN THOUSAND SIGN|AFGHANI SIGN|ARABIC COMMA|ARABIC DATE SEPARATOR
60E ARABIC |POETIC VERSE SIGN|SIGN MISRA|SIGN SALLALLAHOU ALAYHE WASSALLAM|SIGN ALAYHE ASSALLAM
612 ARABIC |SIGN RAHMATULLAH ALAYHE|SIGN RADI ALLAHOU ANHU|SIGN TAKHALLUS|SMALL HIGH TAH
616 ARABIC SMALL |HIGH LIGATURE ALEF WITH LAM WITH YEH|HIGH ZAIN|FATHA|DAMMA|KASRA
61B ARABIC |SEMICOLON|LETTER MARK|END OF TEXT MARK|TRIPLE DOT PUNCTUATION MARK|QUESTION MARK
620 ARABIC LETTER |KASHMIRI YEH|HAMZA|ALEF WITH MADDA ABOVE|ALEF WITH HAMZA ABOVE
624 ARABIC LETTER |WAW WITH HAMZA ABOVE|ALEF WITH HAMZA BELOW|YEH WITH HAMZA ABOVE|ALEF|BEH
629 ARABIC LETTER |TEH MARBUTA|TEH|THEH|JEEM|HAH|KHAH|DAL|THAL|REH|ZAIN|SEEN|SHEEN|SAD|DAD|TAH|ZAH
639 ARABIC LETTER |AIN|GHAIN|KEHEH WITH TWO DOTS ABOVE|KEHEH WITH THREE DOTS BELOW
63D ARABIC LETTER FARSI YEH WITH |INVERTED V|TWO DOTS ABOVE|THREE DOTS ABOVE
640 ARABIC |TATWEEL|LETTER FEH|LETTER QAF|LETTER KAF|LETTER LAM|LETTER MEEM|LETTER NOON|LETTER HEH
648 ARABIC |LETTER WAW|LETTER ALEF MAKSURA|LETTER YEH|FATHATAN|DAMMATAN|KASRATAN|FATHA|DAMMA|KASRA
651 ARABIC |SHADDA|SUKUN|MADDAH ABOVE|HAMZA ABOVE|HAMZA BELOW|SUBSCRIPT ALEF|INVERTED DAMMA
658 ARABIC |MARK NOON GHUNNA|ZWARAKAY|VOWEL SIGN SMALL V ABOVE|VOWEL SIGN INVERTED SMALL V ABOVE
65C ARABIC |VOWEL SIGN DOT BELOW|REVERSED DAMMA|FATHA WITH TWO DOTS|WAVY HAMZA BELOW
660 ARABIC-INDIC DIGIT |ZERO|ONE|TWO|THREE|FOUR|FIVE|SIX|SEVEN|EIGHT|NINE
66A ARABIC |PERCENT SIGN|DECIMAL SEPARATOR|THOUSANDS SEPARATOR|FIVE POINTED STAR
66E ARABIC LETTER |DOTLESS BEH|DOTLESS QAF|SUPERSCRIPT ALEF|ALEF WASLA|ALEF WITH WAVY HAMZA ABOVE
673 ARABIC LETTER |ALEF WITH WAVY HAMZA BELOW|HIGH HAMZA|HIGH HAMZA ALEF|HIGH HAMZA WAW
677 ARABIC LETTER |U WITH HAMZA ABOVE|HIGH HAMZA YEH|TTEH|TTEHEH|BEEH|TEH WITH RING
67D ARABIC LETTER |TEH WITH THREE DOTS ABOVE DOWNWARDS|PEH|TEHEH|BEHEH|HAH WITH HAMZA ABOVE
682 ARABIC LETTER |HAH WITH TWO DOTS VERTICAL ABOVE|NYEH|DYEH|HAH WITH THREE DOTS ABOVE|TCHEH
687 ARABIC LETTER |TCHEHEH|DDAL|DAL WITH RING|DAL WITH DOT BELOW|DAL WITH DOT BELOW AND SMALL TAH
68C ARABIC LETTER |DAHAL|DDAHAL|DUL|DAL WITH THREE DOTS ABOVE DOWNWARDS|DAL WITH FOUR DOTS ABOVE
691 ARABIC LETTER |RREH|REH WITH SMALL V|REH WITH RING|REH WITH DOT BELOW|REH WITH SMALL V BELOW
696 ARABIC LETTER |REH WITH DOT BELOW AND DOT ABOVE|REH WITH TWO DOTS ABOVE|JEH
699 ARABIC LETTER |REH WITH FOUR DOTS ABOVE|SEEN WITH DOT BELOW AND DOT ABOVE
69B ARABIC LETTER SEEN WITH THREE DOTS |BELOW|BELOW AND THREE DOTS ABOVE
69D ARABIC LETTER |SAD WITH TWO DOTS BELOW|SAD WITH THREE DOTS ABOVE|TAH WITH THREE DOTS ABOVE
6A0 ARABIC LETTER |AIN WITH THREE DOTS ABOVE|DOTLESS FEH|FEH WITH DOT MOVED BELOW
6A3 ARABIC LETTER |FEH WITH DOT BELOW|VEH|FEH WITH THREE DOTS BELOW|PEHEH|QAF WITH DOT ABOVE
6A8 ARABIC LETTER |QAF WITH THREE DOTS ABOVE|KEHEH|SWASH KAF|KAF WITH RING|KAF WITH DOT ABOVE|NG
6AE ARABIC LETTER |KAF WITH THREE DOTS BELOW|GAF|GAF WITH RING|NGOEH|GAF WITH TWO DOTS BELOW|GUEH
6B4 ARABIC LETTER |GAF WITH THREE DOTS ABOVE|LAM WITH SMALL V|LAM WITH DOT ABOVE
6B7 ARABIC LETTER |LAM WITH THREE DOTS ABOVE|LAM WITH THREE DOTS BELOW|NOON WITH DOT BELOW
6BA ARABIC LETTER |NOON GHUNNA|RNOON|NOON WITH RING|NOON WITH THREE DOTS ABOVE|HEH DOACHASHMEE
6BF ARABIC LETTER |TCHEH WITH DOT ABOVE|HEH WITH YEH ABOVE|HEH GOAL|HEH GOAL WITH HAMZA ABOVE
6C3 ARABIC LETTER |TEH MARBUTA GOAL|WAW WITH RING|KIRGHIZ OE|OE|U|YU|KIRGHIZ YU
6CA ARABIC LETTER |WAW WITH TWO DOTS ABOVE|VE|FARSI YEH|YEH WITH TAIL|YEH WITH SMALL V
6CF ARABIC LETTER |WAW WITH DOT ABOVE|E|YEH WITH THREE DOTS BELOW|YEH BARREE
6D3 ARABIC |LETTER YEH BARREE WITH HAMZA ABOVE|FULL STOP|LETTER AE
6D6 ARABIC SMALL HIGH LIGATURE |SAD WITH LAM WITH ALEF MAKSURA|QAF WITH LAM WITH ALEF MAKSURA
6D8 ARABIC SMALL HIGH |MEEM INITIAL FORM|LAM ALEF|JEEM|THREE DOTS|SEEN
6DD ARABIC |END OF AYAH|START OF RUB EL HIZB|SMALL HIGH ROUNDED ZERO
6E0 ARABIC SMALL HIGH |UPRIGHT RECTANGULAR ZERO|DOTLESS HEAD OF KHAH|MEEM ISOLATED FORM
6E3 ARABIC SMALL |LOW SEEN|HIGH MADDA|WAW|YEH|HIGH YEH|HIGH NOON
6E9 ARABIC |PLACE OF SAJDAH|EMPTY CENTRE LOW STOP|EMPTY CENTRE HIGH STOP
6EC ARABIC |ROUNDED HIGH STOP WITH FILLED CENTRE|SMALL LOW MEEM|LETTER DAL WITH INVERTED V
6EF |ARABIC LETTER REH WITH INVERTED V|EXTENDED ARABIC-INDIC DIGIT ZERO
6F1 EXTENDED ARABIC-INDIC DIGIT |ONE|TWO|THREE|FOUR|FIVE|SIX|SEVEN|EIGHT|NINE
6FA ARABIC LETTER |SHEEN WITH DOT BELOW|DAD WITH DOT BELOW|GHAIN WITH DOT BELOW
6FD ARABIC |SIGN SINDHI AMPERSAND|SIGN SINDHI POSTPOSITION MEN|LETTER HEH WITH INVERTED V
700 SYRIAC |END OF PARAGRAPH|SUPRALINEAR FULL STOP|SUBLINEAR FULL STOP|SUPRALINEAR COLON
704 SYRIAC |SUBLINEAR COLON|HORIZONTAL COLON|COLON SKEWED LEFT|COLON SKEWED RIGHT
708 SYRIAC |SUPRALINEAR COLON SKEWED LEFT|SUBLINEAR COLON SKEWED RIGHT|CONTRACTION|HARKLEAN OBELUS
70C SYRIAC HARKLEAN |METOBELUS|ASTERISCUS
70F SYRIAC |ABBREVIATION MARK|LETTER ALAPH|LETTER SUPERSCRIPT ALAPH|LETTER BETH|LETTER GAMAL
714 SYRIAC LETTER |GAMAL GARSHUNI|DALATH|DOTLESS DALATH RISH|HE|WAW|ZAIN|HETH|TETH|TETH GARSHUNI
71D SYRIAC LETTER |YUDH|YUDH HE|KAPH|LAMADH|MIM|NUN|SEMKATH|FINAL SEMKATH|E|PE|REVERSED PE|SADHE
729 SYRIAC LETTER |QAPH|RISH|SHIN|TAW|PERSIAN BHETH|PERSIAN GHAMAL|PERSIAN DHALATH
730 SYRIAC |PTHAHA ABOVE|PTHAHA BELOW|PTHAHA DOTTED|ZQAPHA ABOVE|ZQAPHA BELOW|ZQAPHA DOTTED
736 SYRIAC |RBASA ABOVE|RBASA BELOW|DOTTED ZLAMA HORIZONTAL|DOTTED ZLAMA ANGULAR|HBASA ABOVE
73B SYRIAC |HBASA BELOW|HBASA-ESASA DOTTED|ESASA ABOVE|ESASA BELOW|RWAHA|FEMININE DOT|QUSHSHAYA
742 SYRIAC |RUKKAKHA|TWO VERTICAL DOTS ABOVE|TWO VERTICAL DOTS BELOW|THREE DOTS ABOVE
746 SYRIAC |THREE DOTS BELOW|OBLIQUE LINE ABOVE|OBLIQUE LINE BELOW|MUSIC|BARREKH
74D SYRIAC LETTER SOGDIAN |ZHAIN|KHAPH|FE
750 ARABIC LETTER BEH WITH |THREE DOTS HORIZONTALLY BELOW|DOT BELOW AND THREE DOTS ABOVE
752 ARABIC LETTER BEH WITH THREE DOTS POINTING UPWARDS |BELOW|BELOW AND TWO DOTS ABOVE
754 ARABIC LETTER BEH WITH |TWO DOTS BELOW AND DOT ABOVE|INVERTED SMALL V BELOW|SMALL V
757 ARABIC LETTER HAH WITH |TWO DOTS ABOVE|THREE DOTS POINTING UPWARDS BELOW
759 ARABIC LETTER DAL WITH |TWO DOTS VERTICALLY BELOW AND SMALL TAH|INVERTED SMALL V BELOW
75B ARABIC LETTER |REH WITH STROKE|SEEN WITH FOUR DOTS ABOVE|AIN WITH TWO DOTS ABOVE
75E ARABIC LETTER AIN WITH |THREE DOTS POINTING DOWNWARDS ABOVE|TWO DOTS VERTICALLY ABOVE
760 ARABIC LETTER FEH WITH |TWO DOTS BELOW|THREE DOTS POINTING UPWARDS BELOW
762 ARABIC LETTER KEHEH WITH |DOT ABOVE|THREE DOTS ABOVE|THREE DOTS POINTING UPWARDS BELOW
765 ARABIC LETTER |MEEM WITH DOT ABOVE|MEEM WITH DOT BELOW|NOON WITH TWO DOTS BELOW
768 ARABIC LETTER |NOON WITH SMALL TAH|NOON WITH SMALL V|LAM WITH BAR
76B ARABIC LETTER REH WITH |TWO DOTS VERTICALLY ABOVE|HAMZA ABOVE
76D ARABIC LETTER |SEEN WITH TWO DOTS VERTICALLY ABOVE|HAH WITH SMALL ARABIC LETTER TAH BELOW
76F |ARABIC LETTER HAH WITH SMALL ARABIC LETTER TAH AND TWO DOTS
770 |ARABIC LETTER SEEN WITH SMALL ARABIC LETTER TAH AND TWO DOTS
771 |ARABIC LETTER REH WITH SMALL ARABIC LETTER TAH AND TWO DOTS
772 |ARABIC LETTER HAH WITH SMALL ARABIC LETTER TAH ABOVE
773 ARABIC LETTER ALEF WITH EXTENDED ARABIC-INDIC DIGIT |TWO ABOVE|THREE ABOVE
775 ARABIC LETTER FARSI YEH WITH EXTENDED ARABIC-INDIC DIGIT |TWO ABOVE|THREE ABOVE|FOUR BELOW
778 ARABIC LETTER WAW WITH EXTENDED ARABIC-INDIC DIGIT |TWO ABOVE|THREE ABOVE
77A ARABIC LETTER YEH BARREE WITH EXTENDED ARABIC-INDIC DIGIT |TWO ABOVE|THREE ABOVE
77C |ARABIC LETTER HAH WITH EXTENDED ARABIC-INDIC DIGIT FOUR BELOW
77D ARABIC LETTER SEEN WITH |EXTENDED ARABIC-INDIC DIGIT FOUR ABOVE|INVERTED V
77F |ARABIC LETTER KAF WITH TWO DOTS ABOVE|THAANA LETTER HAA|THAANA LETTER SHAVIYANI
782 THAANA LETTER |NOONU|RAA|BAA|LHAVIYANI|KAAFU|ALIFU|VAAVU|MEEMU|FAAFU|DHAALU|THAA|LAAMU|GAAFU
78F THAANA LETTER |GNAVIYANI|SEENU|DAVIYANI|ZAVIYANI|TAVIYANI|YAA|PAVIYANI|JAVIYANI|CHAVIYANI|TTAA
799 THAANA LETTER |HHAA|KHAA|THAALU|ZAA|SHEENU|SAADHU|DAADHU|TO|ZO|AINU|GHAINU|QAAFU|WAAVU
7A6 THAANA |ABAFILI|AABAAFILI|IBIFILI|EEBEEFILI|UBUFILI|OOBOOFILI|EBEFILI|EYBEYFILI|OBOFILI
7AF THAANA |OABOAFILI|SUKUN|LETTER NAA
7C0 NKO DIGIT |ZERO|ONE|TWO|THREE|FOUR|FIVE|SIX|SEVEN|EIGHT|NINE
7CA NKO LETTER |A|EE|I|E|U|OO|O|DAGBASINNA|N|BA|PA|TA|JA|CHA|DA|RA|RRA|SA|GBA|FA|KA|LA|NA WOLOSO
7E1 NKO LETTER |MA|NYA|NA|HA|WA|YA|NYA WOLOSO|JONA JA|JONA CHA|JONA RA
7EB NKO COMBINING |SHORT HIGH TONE|SHORT LOW TONE|SHORT RISING TONE|LONG DESCENDING TONE
7EF NKO COMBINING |LONG HIGH TONE|LONG LOW TONE|LONG RISING TONE|NASALIZATION MARK
7F3 NKO |COMBINING DOUBLE DOT ABOVE|HIGH TONE APOSTROPHE|LOW TONE APOSTROPHE|SYMBOL OO DENNEN
7F7 NKO |SYMBOL GBAKURUNEN|COMMA|EXCLAMATION MARK|LAJANYALAN
7FD |NKO DANTAYALAN|NKO DOROME SIGN|NKO TAMAN SIGN|SAMARITAN LETTER ALAF|SAMARITAN LETTER BIT
802 SAMARITAN LETTER |GAMAN|DALAT|IY|BAA|ZEN|IT|TIT|YUT|KAAF|LABAT|MIM|NUN|SINGAAT|IN|FI|TSAADIY
812 SAMARITAN |LETTER QUF|LETTER RISH|LETTER SHAN|LETTER TAAF|MARK IN|MARK IN-ALAF|MARK OCCLUSION
819 SAMARITAN |MARK DAGESH|MODIFIER LETTER EPENTHETIC YUT|MARK EPENTHETIC YUT|VOWEL SIGN LONG E
81D SAMARITAN VOWEL SIGN |E|OVERLONG AA|LONG AA|AA|OVERLONG A|LONG A|A
824 SAMARITAN |MODIFIER LETTER SHORT A|VOWEL SIGN SHORT A|VOWEL SIGN LONG U|VOWEL SIGN U
828 SAMARITAN |MODIFIER LETTER I|VOWEL SIGN LONG I|VOWEL SIGN I|VOWEL SIGN O|VOWEL SIGN SUKUN
82D |SAMARITAN MARK NEQUDAA
830 SAMARITAN PUNCTUATION |NEQUDAA|AFSAAQ|ANGED|BAU|ATMAAU|SHIYYAALAA
836 SAMARITAN |ABBREVIATION MARK|PUNCTUATION MELODIC QITSA|PUNCTUATION ZIQAA|PUNCTUATION QITSA
83A SAMARITAN PUNCTUATION |ZAEF|TURU|ARKAANU|SOF MASHFAAT|ANNAAU
840 MANDAIC LETTER |HALQA|AB|AG|AD|AH|USHENNA|AZ|IT|ATT|AKSA|AK|AL|AM|AN|AS|IN|AP|ASZ|AQ|AR|ASH|AT
856 MANDAIC |LETTER DUSHENNA|LETTER KAD|LETTER AIN|AFFRICATION MARK|VOCALIZATION MARK
85B |MANDAIC GEMINATION MARK
85E |MANDAIC PUNCTUATION
860 SYRIAC LETTER MALAYALAM |NGA|JA|NYA|TTA|NNA|NNNA|BHA|RA|LLA|LLLA|SSA
870 ARABIC LETTER ALEF WITH |ATTACHED FATHA|ATTACHED TOP RIGHT FATHA|RIGHT MIDDLE STROKE
873 ARABIC LETTER ALEF WITH |LEFT MIDDLE STROKE|ATTACHED KASRA|ATTACHED BOTTOM RIGHT KASRA
876 ARABIC LETTER ALEF WITH ATTACHED |ROUND DOT ABOVE|RIGHT ROUND DOT|LEFT ROUND DOT
879 ARABIC LETTER ALEF WITH |ATTACHED ROUND DOT BELOW|DOT ABOVE
87B |ARABIC LETTER ALEF WITH ATTACHED TOP RIGHT FATHA AND DOT ABOVE
87C |ARABIC LETTER ALEF WITH RIGHT MIDDLE STROKE AND DOT ABOVE
87D |ARABIC LETTER ALEF WITH ATTACHED BOTTOM RIGHT KASRA AND DOT ABOVE
87E |ARABIC LETTER ALEF WITH ATTACHED TOP RIGHT FATHA AND LEFT RING
87F |ARABIC LETTER ALEF WITH RIGHT MIDDLE STROKE AND LEFT RING
880 ARABIC LETTER ALEF WITH ATTACHED |BOTTOM RIGHT KASRA AND LEFT RING|RIGHT HAMZA|LEFT HAMZA
883 ARABIC TATWEEL WITH |OVERSTRUCK HAMZA|OVERSTRUCK WAW|TWO DOTS BELOW
886 ARABIC |LETTER THIN YEH|BASELINE ROUND DOT|RAISED ROUND DOT|LETTER NOON WITH INVERTED SMALL V
88A ARABIC LETTER |HAH WITH INVERTED SMALL V BELOW|TAH WITH DOT BELOW|TAH WITH THREE DOTS BELOW
88D ARABIC |LETTER KEHEH WITH TWO DOTS VERTICALLY BELOW|VERTICAL TAIL
890 ARABIC |POUND MARK ABOVE|PIASTRE MARK ABOVE
898 ARABIC SMALL |HIGH WORD AL-JUZ|LOW WORD ISHMAAM|LOW WORD IMAALA|LOW WORD TASHEEL
89C ARABIC |MADDA WAAJIB|SUPERSCRIPT ALEF MOKHASSAS|DOUBLED MADDA|HALF MADDA OVER MADDA
8A0 ARABIC LETTER |BEH WITH SMALL V BELOW|BEH WITH HAMZA ABOVE|JEEM WITH TWO DOTS ABOVE
8A3 ARABIC LETTER |TAH WITH TWO DOTS ABOVE|FEH WITH DOT BELOW AND THREE DOTS ABOVE
8A5 ARABIC LETTER |QAF WITH DOT BELOW|LAM WITH DOUBLE BAR|MEEM WITH THREE DOTS ABOVE
8A8 ARABIC LETTER YEH WITH TWO DOTS BELOW AND |HAMZA ABOVE|DOT ABOVE
8AA ARABIC LETTER |REH WITH LOOP|WAW WITH DOT WITHIN|ROHINGYA YEH|LOW ALEF
8AE ARABIC LETTER |DAL WITH THREE DOTS BELOW|SAD WITH THREE DOTS BELOW|GAF WITH INVERTED STROKE
8B1 ARABIC LETTER |STRAIGHT WAW|ZAIN WITH INVERTED V ABOVE|AIN WITH THREE DOTS BELOW
8B4 ARABIC LETTER |KAF WITH DOT BELOW|QAF WITH DOT BELOW AND NO DOTS ABOVE
8B6 ARABIC LETTER |BEH WITH SMALL MEEM ABOVE|PEH WITH SMALL MEEM ABOVE|TEH WITH SMALL TEH ABOVE
8B9 ARABIC LETTER |REH WITH SMALL NOON ABOVE|YEH WITH TWO DOTS BELOW AND SMALL NOON ABOVE
8BB ARABIC LETTER |AFRICAN FEH|AFRICAN QAF|AFRICAN NOON|PEH WITH SMALL V|TEH WITH SMALL V
8C0 ARABIC LETTER |TTEH WITH SMALL V|TCHEH WITH SMALL V|KEHEH WITH SMALL V
8C3 ARABIC LETTER |GHAIN WITH THREE DOTS ABOVE|AFRICAN QAF WITH THREE DOTS ABOVE
8C5 ARABIC LETTER JEEM WITH THREE DOTS |ABOVE|BELOW
8C7 ARABIC |LETTER LAM WITH SMALL ARABIC LETTER TAH ABOVE|LETTER GRAF|SMALL FARSI YEH
8CA ARABIC SMALL HIGH |FARSI YEH|YEH BARREE WITH TWO DOTS BELOW|WORD SAH|ZAH
8CE ARABIC |LARGE ROUND DOT ABOVE|LARGE ROUND DOT BELOW|SUKUN BELOW|LARGE CIRCLE BELOW
8D2 ARABIC |LARGE ROUND DOT INSIDE CIRCLE BELOW|SMALL LOW WAW|SMALL HIGH WORD AR-RUB
8D5 ARABIC SMALL |HIGH SAD|HIGH AIN|HIGH QAF|HIGH NOON WITH KASRA|LOW NOON WITH KASRA
8DA ARABIC SMALL HIGH WORD |ATH-THALATHA|AS-SAJDA|AN-NISF|SAKTA|QIF|WAQFA
8E0 ARABIC |SMALL HIGH FOOTNOTE MARKER|SMALL HIGH SIGN SAFHA|DISPUTED END OF AYAH
8E3 ARABIC |TURNED DAMMA BELOW|CURLY FATHA|CURLY DAMMA|CURLY KASRA|CURLY FATHATAN|CURLY DAMMATAN
8E9 ARABIC |CURLY KASRATAN|TONE ONE DOT ABOVE|TONE TWO DOTS ABOVE|TONE LOOP ABOVE
8ED ARABIC |TONE ONE DOT BELOW|TONE TWO DOTS BELOW|TONE LOOP BELOW|OPEN FATHATAN|OPEN DAMMATAN
8F2 ARABIC |OPEN KASRATAN|SMALL HIGH WAW|FATHA WITH RING|FATHA WITH DOT ABOVE|KASRA WITH DOT BELOW
8F7 ARABIC |LEFT ARROWHEAD ABOVE|RIGHT ARROWHEAD ABOVE|LEFT ARROWHEAD BELOW|RIGHT ARROWHEAD BELOW
8FB ARABIC DOUBLE RIGHT ARROWHEAD |ABOVE|ABOVE WITH DOT
8FD ARABIC |RIGHT ARROWHEAD ABOVE WITH DOT|DAMMA WITH DOT|MARK SIDEWAYS NOON GHUNNA
900 DEVANAGARI SIGN |INVERTED CANDRABINDU|CANDRABINDU|ANUSVARA|VISARGA
904 DEVANAGARI LETTER |SHORT A|A|AA|I|II|U|UU|VOCALIC R|VOCALIC L|CANDRA E|SHORT E|E|AI|CANDRA O
912 DEVANAGARI LETTER |SHORT O|O|AU|KA|KHA|GA|GHA|NGA|CA|CHA|JA|JHA|NYA|TTA|TTHA|DDA|DDHA|NNA|TA
925 DEVANAGARI LETTER |THA|DA|DHA|NA|NNNA|PA|PHA|BA|BHA|MA|YA|RA|RRA|LA|LLA|LLLA|VA|SHA|SSA|SA|HA
93A DEVANAGARI |VOWEL SIGN OE|VOWEL SIGN OOE|SIGN NUKTA|SIGN AVAGRAHA|VOWEL SIGN AA|VOWEL SIGN I
940 DEVANAGARI VOWEL SIGN |II|U|UU|VOCALIC R|VOCALIC RR|CANDRA E|SHORT E|E|AI|CANDRA O|SHORT O|O
94C DEVANAGARI |VOWEL SIGN AU|SIGN VIRAMA|VOWEL SIGN PRISHTHAMATRA E|VOWEL SIGN AW|OM
951 DEVANAGARI |STRESS SIGN UDATTA|STRESS SIGN ANUDATTA|GRAVE ACCENT|ACUTE ACCENT
955 DEVANAGARI |VOWEL SIGN CANDRA LONG E|VOWEL SIGN UE|VOWEL SIGN UUE|LETTER QA|LETTER KHHA
95A DEVANAGARI LETTER |GHHA|ZA|DDDHA|RHA|FA|YYA|VOCALIC RR|VOCALIC LL
962 DEVANAGARI |VOWEL SIGN VOCALIC L|VOWEL SIGN VOCALIC LL|DANDA|DOUBLE DANDA|DIGIT ZERO|DIGIT ONE
968 DEVANAGARI DIGIT |TWO|THREE|FOUR|FIVE|SIX|SEVEN|EIGHT|NINE
970 DEVANAGARI |ABBREVIATION SIGN|SIGN HIGH SPACING DOT|LETTER CANDRA A|LETTER OE|LETTER OOE
975 DEVANAGARI LETTER |AW|UE|UUE|MARWARI DDA|ZHA|HEAVY YA|GGA|JJA|GLOTTAL STOP|DDDA|BBA
980 BENGALI |ANJI|SIGN CANDRABINDU|SIGN ANUSVARA|SIGN VISARGA
985 BENGALI LETTER |A|AA|I|II|U|UU|VOCALIC R|VOCALIC L
98F BENGALI LETTER |E|AI
993 BENGALI LETTER |O|AU|KA|KHA|GA|GHA|NGA|CA|CHA|JA|JHA|NYA|TTA|TTHA|DDA|DDHA|NNA|TA|THA|DA|DHA
9A8 |BENGALI LETTER NA
9AA BENGALI LETTER |PA|PHA|BA|BHA|MA|YA|RA
9B2 |BENGALI LETTER LA
9B6 BENGALI LETTER |SHA|SSA|SA|HA
9BC BENGALI |SIGN NUKTA|SIGN AVAGRAHA|VOWEL SIGN AA|VOWEL SIGN I|VOWEL SIGN II|VOWEL SIGN U
9C2 BENGALI VOWEL SIGN |UU|VOCALIC R|VOCALIC RR
9C7 BENGALI VOWEL SIGN |E|AI
9CB BENGALI |VOWEL SIGN O|VOWEL SIGN AU|SIGN VIRAMA|LETTER KHANDA TA
9D7 |BENGALI AU LENGTH MARK
9DC BENGALI LETTER |RRA|RHA
9DF BENGALI |LETTER YYA|LETTER VOCALIC RR|LETTER VOCALIC LL|VOWEL SIGN VOCALIC L
9E3 |BENGALI VOWEL SIGN VOCALIC LL
9E6 BENGALI DIGIT |ZERO|ONE|TWO|THREE|FOUR|FIVE|SIX|SEVEN|EIGHT|NINE
9F0 BENGALI |LETTER RA WITH MIDDLE DIAGONAL|LETTER RA WITH LOWER DIAGONAL|RUPEE MARK|RUPEE SIGN
9F4 BENGALI CURRENCY NUMERATOR |ONE|TWO|THREE|FOUR|ONE LESS THAN THE DENOMINATOR
9F9 BENGALI |CURRENCY DENOMINATOR SIXTEEN|ISSHAR|GANDA MARK|LETTER VEDIC ANUSVARA
9FD BENGALI |ABBREVIATION SIGN|SANDHI MARK
A01 GURMUKHI SIGN |ADAK BINDI|BINDI|VISARGA
A05 GURMUKHI LETTER |A|AA|I|II|U|UU
A0F GURMUKHI LETTER |EE|AI
A13 GURMUKHI LETTER |OO|AU|KA|KHA|GA|GHA|NGA|CA|CHA|JA|JHA|NYA|TTA|TTHA|DDA|DDHA|NNA|TA|THA|DA|DHA
A28 |GURMUKHI LETTER NA
A2A GURMUKHI LETTER |PA|PHA|BA|BHA|MA|YA|RA
A32 GURMUKHI LETTER |LA|LLA
A35 GURMUKHI LETTER |VA|SHA
A38 GURMUKHI LETTER |SA|HA
A3C |GURMUKHI SIGN NUKTA
A3E GURMUKHI VOWEL SIGN |AA|I|II|U|UU
A47 GURMUKHI VOWEL SIGN |EE|AI
A4B GURMUKHI |VOWEL SIGN OO|VOWEL SIGN AU|SIGN VIRAMA
A51 |GURMUKHI SIGN UDAAT
A59 GURMUKHI LETTER |KHHA|GHHA|ZA|RRA
A5E |GURMUKHI LETTER FA
A66 GURMUKHI DIGIT |ZERO|ONE|TWO|THREE|FOUR|FIVE|SIX|SEVEN|EIGHT|NINE
A70 GURMUKHI |TIPPI|ADDAK|IRI|URA|EK ONKAR|SIGN YAKASH|ABBREVIATION SIGN
A81 GUJARATI SIGN |CANDRABINDU|ANUSVARA|VISARGA
A85 GUJARATI LETTER |A|AA|I|II|U|UU|VOCALIC R|VOCALIC L
A8D |GUJARATI VOWEL CANDRA E
A8F GUJARATI |LETTER E|LETTER AI|VOWEL CANDRA O
A93 GUJARATI LETTER |O|AU|KA|KHA|GA|GHA|NGA|CA|CHA|JA|JHA|NYA|TTA|TTHA|DDA|DDHA|NNA|TA|THA|DA|DHA
AA8 |GUJARATI LETTER NA
AAA GUJARATI LETTER |PA|PHA|BA|BHA|MA|YA|RA
AB2 GUJARATI LETTER |LA|LLA
AB5 GUJARATI LETTER |VA|SHA|SSA|SA|HA
ABC GUJARATI |SIGN NUKTA|SIGN AVAGRAHA|VOWEL SIGN AA|VOWEL SIGN I|VOWEL SIGN II|VOWEL SIGN U
AC2 GUJARATI VOWEL SIGN |UU|VOCALIC R|VOCALIC RR|CANDRA E
AC7 GUJARATI VOWEL SIGN |E|AI|CANDRA O
ACB GUJARATI |VOWEL SIGN O|VOWEL SIGN AU|SIGN VIRAMA
AD0 |GUJARATI OM
AE0 GUJARATI |LETTER VOCALIC RR|LETTER VOCALIC LL|VOWEL SIGN VOCALIC L|VOWEL SIGN VOCALIC LL
AE6 GUJARATI DIGIT |ZERO|ONE|TWO|THREE|FOUR|FIVE|SIX|SEVEN|EIGHT|NINE
AF0 GUJARATI |ABBREVIATION SIGN|RUPEE SIGN
AF9 GUJARATI |LETTER ZHA|SIGN SUKUN|SIGN SHADDA|SIGN MADDAH|SIGN THREE-DOT NUKTA ABOVE
AFE GUJARATI SIGN |CIRCLE NUKTA ABOVE|TWO-CIRCLE NUKTA ABOVE
B01 ORIYA SIGN |CANDRABINDU|ANUSVARA|VISARGA
B05 ORIYA LETTER |A|AA|I|II|U|UU|VOCALIC R|VOCALIC L
B0F ORIYA LETTER |E|AI
B13 ORIYA LETTER |O|AU|KA|KHA|GA|GHA|NGA|CA|CHA|JA|JHA|NYA|TTA|TTHA|DDA|DDHA|NNA|TA|THA|DA|DHA|NA
B2A ORIYA LETTER |PA|PHA|BA|BHA|MA|YA|RA
B32 ORIYA LETTER |LA|LLA
B35 ORIYA LETTER |VA|SHA|SSA|SA|HA
B3C ORIYA |SIGN NUKTA|SIGN AVAGRAHA|VOWEL SIGN AA|VOWEL SIGN I|VOWEL SIGN II|VOWEL SIGN U
B42 ORIYA VOWEL SIGN |UU|VOCALIC R|VOCALIC RR
B47 ORIYA VOWEL SIGN |E|AI
B4B ORIYA |VOWEL SIGN O|VOWEL SIGN AU|SIGN VIRAMA
B55 ORIYA |SIGN OVERLINE|AI LENGTH MARK|AU LENGTH MARK
B5C ORIYA LETTER |RRA|RHA
B5F ORIYA |LETTER YYA|LETTER VOCALIC RR|LETTER VOCALIC LL|VOWEL SIGN VOCALIC L
B63 |ORIYA VOWEL SIGN VOCALIC LL
B66 ORIYA DIGIT |ZERO|ONE|TWO|THREE|FOUR|FIVE|SIX|SEVEN|EIGHT|NINE
B70 ORIYA |ISSHAR|LETTER WA|FRACTION ONE QUARTER|FRACTION ONE HALF|FRACTION THREE QUARTERS
B75 ORIYA FRACTION |ONE SIXTEENTH|ONE EIGHTH|THREE SIXTEENTHS
B82 TAMIL SIGN |ANUSVARA|VISARGA
B85 TAMIL LETTER |A|AA|I|II|U|UU
B8E TAMIL LETTER |E|EE|AI
B92 TAMIL LETTER |O|OO|AU|KA
B99 TAMIL LETTER |NGA|CA
B9C |TAMIL LETTER JA
B9E TAMIL LETTER |NYA|TTA
BA3 TAMIL LETTER |NNA|TA
BA8 TAMIL LETTER |NA|NNNA|PA
BAE TAMIL LETTER |MA|YA|RA|RRA|LA|LLA|LLLA|VA|SHA|SSA|SA|HA
BBE TAMIL VOWEL SIGN |AA|I|II|U|UU
BC6 TAMIL VOWEL SIGN |E|EE|AI
BCA TAMIL |VOWEL SIGN O|VOWEL SIGN OO|VOWEL SIGN AU|SIGN VIRAMA
BD0 |TAMIL OM
BD7 |TAMIL AU LENGTH MARK
BE6 TAMIL DIGIT |ZERO|ONE|TWO|THREE|FOUR|FIVE|SIX|SEVEN|EIGHT|NINE
BF0 TAMIL |NUMBER TEN|NUMBER ONE HUNDRED|NUMBER ONE THOUSAND|DAY SIGN|MONTH SIGN|YEAR SIGN
BF6 TAMIL |DEBIT SIGN|CREDIT SIGN|AS ABOVE SIGN|RUPEE SIGN|NUMBER SIGN
C00 TELUGU SIGN |COMBINING CANDRABINDU ABOVE|CANDRABINDU|ANUSVARA|VISARGA|COMBINING ANUSVARA ABOVE
C05 TELUGU LETTER |A|AA|I|II|U|UU|VOCALIC R|VOCALIC L
C0E TELUGU LETTER |E|EE|AI
C12 TELUGU LETTER |O|OO|AU|KA|KHA|GA|GHA|NGA|CA|CHA|JA|JHA|NYA|TTA|TTHA|DDA|DDHA|NNA|TA|THA|DA|DHA
C28 |TELUGU LETTER NA
C2A TELUGU LETTER |PA|PHA|BA|BHA|MA|YA|RA|RRA|LA|LLA|LLLA|VA|SHA|SSA|SA|HA
C3C TELUGU |SIGN NUKTA|SIGN AVAGRAHA|VOWEL SIGN AA|VOWEL SIGN I|VOWEL SIGN II|VOWEL SIGN U
C42 TELUGU VOWEL SIGN |UU|VOCALIC R|VOCALIC RR
C46 TELUGU VOWEL SIGN |E|EE|AI
C4A TELUGU |VOWEL SIGN O|VOWEL SIGN OO|VOWEL SIGN AU|SIGN VIRAMA
C55 TELUGU |LENGTH MARK|AI LENGTH MARK
C58 TELUGU LETTER |TSA|DZA|RRRA
C5D |TELUGU LETTER NAKAARA POLLU
C60 TELUGU |LETTER VOCALIC RR|LETTER VOCALIC LL|VOWEL SIGN VOCALIC L|VOWEL SIGN VOCALIC LL
C66 TELUGU DIGIT |ZERO|ONE|TWO|THREE|FOUR|FIVE|SIX|SEVEN|EIGHT|NINE
C77 TELUGU |SIGN SIDDHAM|FRACTION DIGIT ZERO FOR ODD POWERS OF FOUR
C79 TELUGU FRACTION DIGIT |ONE FOR ODD POWERS OF FOUR|TWO FOR ODD POWERS OF FOUR
C7B TELUGU FRACTION DIGIT |THREE FOR ODD POWERS OF FOUR|ONE FOR EVEN POWERS OF FOUR
C7D TELUGU FRACTION DIGIT |TWO FOR EVEN POWERS OF FOUR|THREE FOR EVEN POWERS OF FOUR
C7F |TELUGU SIGN TUUMU|KANNADA SIGN SPACING CANDRABINDU|KANNADA SIGN CANDRABINDU
C82 KANNADA |SIGN ANUSVARA|SIGN VISARGA|SIGN SIDDHAM|LETTER A|LETTER AA|LETTER I|LETTER II
C89 KANNADA LETTER |U|UU|VOCALIC R|VOCALIC L
C8E KANNADA LETTER |E|EE|AI
C92 KANNADA LETTER |O|OO|AU|KA|KHA|GA|GHA|NGA|CA|CHA|JA|JHA|NYA|TTA|TTHA|DDA|DDHA|NNA|TA|THA|DA
CA7 KANNADA LETTER |DHA|NA
CAA KANNADA LETTER |PA|PHA|BA|BHA|MA|YA|RA|RRA|LA|LLA
CB5 KANNADA LETTER |VA|SHA|SSA|SA|HA
CBC KANNADA |SIGN NUKTA|SIGN AVAGRAHA|VOWEL SIGN AA|VOWEL SIGN I|VOWEL SIGN II|VOWEL SIGN U
CC2 KANNADA VOWEL SIGN |UU|VOCALIC R|VOCALIC RR
CC6 KANNADA VOWEL SIGN |E|EE|AI
CCA KANNADA |VOWEL SIGN O|VOWEL SIGN OO|VOWEL SIGN AU|SIGN VIRAMA
CD5 KANNADA |LENGTH MARK|AI LENGTH MARK
CDD KANNADA LETTER |NAKAARA POLLU|FA
CE0 KANNADA |LETTER VOCALIC RR|LETTER VOCALIC LL|VOWEL SIGN VOCALIC L|VOWEL SIGN VOCALIC LL
CE6 KANNADA DIGIT |ZERO|ONE|TWO|THREE|FOUR|FIVE|SIX|SEVEN|EIGHT|NINE
CF1 KANNADA SIGN |JIHVAMULIYA|UPADHMANIYA
D00 MALAYALAM SIGN |COMBINING ANUSVARA ABOVE|CANDRABINDU|ANUSVARA|VISARGA
D04 MALAYALAM LETTER |VEDIC ANUSVARA|A|AA|I|II|U|UU|VOCALIC R|VOCALIC L
D0E MALAYALAM LETTER |E|EE|AI
D12 MALAYALAM LETTER |O|OO|AU|KA|KHA|GA|GHA|NGA|CA|CHA|JA|JHA|NYA|TTA|TTHA|DDA|DDHA|NNA|TA|THA|DA
D27 MALAYALAM LETTER |DHA|NA|NNNA|PA|PHA|BA|BHA|MA|YA|RA|RRA|LA|LLA|LLLA|VA|SHA|SSA|SA|HA|TTTA
D3B MALAYALAM |SIGN VERTICAL BAR VIRAMA|SIGN CIRCULAR VIRAMA|SIGN AVAGRAHA|VOWEL SIGN AA
D3F MALAYALAM VOWEL SIGN |I|II|U|UU|VOCALIC R|VOCALIC RR
D46 MALAYALAM VOWEL SIGN |E|EE|AI
D4A MALAYALAM |VOWEL SIGN O|VOWEL SIGN OO|VOWEL SIGN AU|SIGN VIRAMA|LETTER DOT REPH|SIGN PARA
D54 MALAYALAM |LETTER CHILLU M|LETTER CHILLU Y|LETTER CHILLU LLL|AU LENGTH MARK
D58 MALAYALAM FRACTION |ONE ONE-HUNDRED-AND-SIXTIETH|ONE FORTIETH|THREE EIGHTIETHS|ONE TWENTIETH
D5C MALAYALAM |FRACTION ONE TENTH|FRACTION THREE TWENTIETHS|FRACTION ONE FIFTH|LETTER ARCHAIC II
D60 MALAYALAM |LETTER VOCALIC RR|LETTER VOCALIC LL|VOWEL SIGN VOCALIC L|VOWEL SIGN VOCALIC LL
D66 MALAYALAM DIGIT |ZERO|ONE|TWO|THREE|FOUR|FIVE|SIX|SEVEN|EIGHT|NINE
D70 MALAYALAM |NUMBER TEN|NUMBER ONE HUNDRED|NUMBER ONE THOUSAND|FRACTION ONE QUARTER
D74 MALAYALAM FRACTION |ONE HALF|THREE QUARTERS|ONE SIXTEENTH|ONE EIGHTH|THREE SIXTEENTHS
D79 MALAYALAM |DATE MARK|LETTER CHILLU NN|LETTER CHILLU N|LETTER CHILLU RR|LETTER CHILLU L
D7E MALAYALAM LETTER CHILLU |LL|K
D81 SINHALA SIGN |CANDRABINDU|ANUSVARAYA|VISARGAYA
D85 SINHALA LETTER |AYANNA|AAYANNA|AEYANNA|AEEYANNA|IYANNA|IIYANNA|UYANNA|UUYANNA|IRUYANNA
D8E SINHALA LETTER |IRUUYANNA|ILUYANNA|ILUUYANNA|EYANNA|EEYANNA|AIYANNA|OYANNA|OOYANNA|AUYANNA
D9A SINHALA LETTER |ALPAPRAANA KAYANNA|MAHAAPRAANA KAYANNA|ALPAPRAANA GAYANNA|MAHAAPRAANA GAYANNA
D9E SINHALA LETTER |KANTAJA NAASIKYAYA|SANYAKA GAYANNA|ALPAPRAANA CAYANNA|MAHAAPRAANA CAYANNA
DA2 SINHALA LETTER |ALPAPRAANA JAYANNA|MAHAAPRAANA JAYANNA|TAALUJA NAASIKYAYA
DA5 SINHALA LETTER |TAALUJA SANYOOGA NAAKSIKYAYA|SANYAKA JAYANNA|ALPAPRAANA TTAYANNA
DA8 SINHALA LETTER |MAHAAPRAANA TTAYANNA|ALPAPRAANA DDAYANNA|MAHAAPRAANA DDAYANNA
DAB SINHALA LETTER |MUURDHAJA NAYANNA|SANYAKA DDAYANNA|ALPAPRAANA TAYANNA|MAHAAPRAANA TAYANNA
DAF SINHALA LETTER |ALPAPRAANA DAYANNA|MAHAAPRAANA DAYANNA|DANTAJA NAYANNA
DB3 SINHALA LETTER |SANYAKA DAYANNA|ALPAPRAANA PAYANNA|MAHAAPRAANA PAYANNA|ALPAPRAANA BAYANNA
DB7 SINHALA LETTER |MAHAAPRAANA BAYANNA|MAYANNA|AMBA BAYANNA|YAYANNA|RAYANNA
DBD |SINHALA LETTER DANTAJA LAYANNA
DC0 SINHALA LETTER |VAYANNA|TAALUJA SAYANNA|MUURDHAJA SAYANNA|DANTAJA SAYANNA|HAYANNA
DC5 SINHALA LETTER |MUURDHAJA LAYANNA|FAYANNA
DCA |SINHALA SIGN AL-LAKUNA
DCF SINHALA VOWEL SIGN |AELA-PILLA|KETTI AEDA-PILLA|DIGA AEDA-PILLA|KETTI IS-PILLA|DIGA IS-PILLA
DD4 |SINHALA VOWEL SIGN KETTI PAA-PILLA
DD6 |SINHALA VOWEL SIGN DIGA PAA-PILLA
DD8 SINHALA VOWEL SIGN |GAETTA-PILLA|KOMBUVA|DIGA KOMBUVA|KOMBU DEKA|KOMBUVA HAA AELA-PILLA
DDD SINHALA VOWEL SIGN |KOMBUVA HAA DIGA AELA-PILLA|KOMBUVA HAA GAYANUKITTA|GAYANUKITTA
DE6 SINHALA LITH DIGIT |ZERO|ONE|TWO|THREE|FOUR|FIVE|SIX|SEVEN|EIGHT|NINE
DF2 SINHALA |VOWEL SIGN DIGA GAETTA-PILLA|VOWEL SIGN DIGA GAYANUKITTA|PUNCTUATION KUNDDALIYA
E01 THAI CHARACTER |KO KAI|KHO KHAI|KHO KHUAT|KHO KHWAI|KHO KHON|KHO RAKHANG|NGO NGU|CHO CHAN
E09 THAI CHARACTER |CHO CHING|CHO CHANG|SO SO|CHO CHOE|YO YING|DO CHADA|TO PATAK|THO THAN
E11 THAI CHARACTER |THO NANGMONTHO|THO PHUTHAO|NO NEN|DO DEK|TO TAO|THO THUNG|THO THAHAN|THO THONG
E19 THAI CHARACTER |NO NU|BO BAIMAI|PO PLA|PHO PHUNG|FO FA|PHO PHAN|FO FAN|PHO SAMPHAO|MO MA
E22 THAI CHARACTER |YO YAK|RO RUA|RU|LO LING|LU|WO WAEN|SO SALA|SO RUSI|SO SUA|HO HIP|LO CHULA
E2D THAI CHARACTER |O ANG|HO NOKHUK|PAIYANNOI|SARA A|MAI HAN-AKAT|SARA AA|SARA AM|SARA I|SARA II
E36 THAI CHARACTER |SARA UE|SARA UEE|SARA U|SARA UU|PHINTHU
E3F THAI |CURRENCY SYMBOL BAHT|CHARACTER SARA E|CHARACTER SARA AE|CHARACTER SARA O
E43 THAI CHARACTER |SARA AI MAIMUAN|SARA AI MAIMALAI|LAKKHANGYAO|MAIYAMOK|MAITAIKHU|MAI EK|MAI THO
E4A THAI CHARACTER |MAI TRI|MAI CHATTAWA|THANTHAKHAT|NIKHAHIT|YAMAKKAN|FONGMAN
E50 THAI DIGIT |ZERO|ONE|TWO|THREE|FOUR|FIVE|SIX|SEVEN|EIGHT|NINE
E5A THAI CHARACTER |ANGKHANKHU|KHOMUT
E81 LAO LETTER |KO|KHO SUNG
E84 |LAO LETTER KHO TAM
E86 LAO LETTER |PALI GHA|NGO|CO|PALI CHA|SO TAM
E8C LAO LETTER |PALI JHA|NYO|PALI NYA|PALI TTA|PALI TTHA|PALI DDA|PALI DDHA|PALI NNA|DO|TO
E96 LAO LETTER |THO SUNG|THO TAM|PALI DHA|NO|BO|PO|PHO SUNG|FO TAM|PHO TAM|FO SUNG|PALI BHA|MO|YO
EA3 |LAO LETTER LO LING
EA5 |LAO LETTER LO LOOT
EA7 LAO LETTER |WO|SANSKRIT SHA|SANSKRIT SSA|SO SUNG|HO SUNG|PALI LLA|O|HO TAM
EAF LAO |ELLIPSIS|VOWEL SIGN A|VOWEL SIGN MAI KAN|VOWEL SIGN AA|VOWEL SIGN AM|VOWEL SIGN I
EB5 LAO |VOWEL SIGN II|VOWEL SIGN Y|VOWEL SIGN YY|VOWEL SIGN U|VOWEL SIGN UU|SIGN PALI VIRAMA
EBB LAO |VOWEL SIGN MAI KON|SEMIVOWEL SIGN LO|SEMIVOWEL SIGN NYO
EC0 LAO VOWEL SIGN |E|EI|O|AY|AI
EC6 |LAO KO LA
EC8 LAO |TONE MAI EK|TONE MAI THO|TONE MAI TI|TONE MAI CATAWA|CANCELLATION MARK|NIGGAHITA
ED0 LAO DIGIT |ZERO|ONE|TWO|THREE|FOUR|FIVE|SIX|SEVEN|EIGHT|NINE
EDC LAO |HO NO|HO MO|LETTER KHMU GO|LETTER KHMU NYO
F00 TIBETAN |SYLLABLE OM|MARK GTER YIG MGO TRUNCATED A|MARK GTER YIG MGO -UM RNAM BCAD MA
F03 TIBETAN MARK |GTER YIG MGO -UM GTER TSHEG MA|INITIAL YIG MGO MDUN MA|CLOSING YIG MGO SGAB MA
F06 TIBETAN MARK |CARET YIG MGO PHUR SHAD MA|YIG MGO TSHEG SHAD MA|SBRUL SHAD|BSKUR YIG MGO
F0A TIBETAN MARK |BKA- SHOG YIG MGO|INTERSYLLABIC TSHEG|DELIMITER TSHEG BSTAR|SHAD|NYIS SHAD
F0F TIBETAN MARK |TSHEG SHAD|NYIS TSHEG SHAD|RIN CHEN SPUNGS SHAD|RGYA GRAM SHAD
F13 TIBETAN |MARK CARET -DZUD RTAGS ME LONG CAN|MARK GTER TSHEG|LOGOTYPE SIGN CHAD RTAGS
F16 TIBETAN |LOGOTYPE SIGN LHAG RTAGS|ASTROLOGICAL SIGN SGRA GCAN -CHAR RTAGS
F18 TIBETAN |ASTROLOGICAL SIGN -KHYUD PA|ASTROLOGICAL SIGN SDONG TSHUGS|SIGN RDEL DKAR GCIG
F1B TIBETAN SIGN RDEL |DKAR GNYIS|DKAR GSUM|NAG GCIG|NAG GNYIS|DKAR RDEL NAG
F20 TIBETAN DIGIT |ZERO|ONE|TWO|THREE|FOUR|FIVE|SIX|SEVEN|EIGHT|NINE|HALF ONE|HALF TWO|HALF THREE
F2D TIBETAN DIGIT HALF |FOUR|FIVE|SIX|SEVEN|EIGHT|NINE|ZERO
F34 TIBETAN MARK |BSDUS RTAGS|NGAS BZUNG NYI ZLA|CARET -DZUD RTAGS BZHI MIG CAN
F37 TIBETAN MARK |NGAS BZUNG SGOR RTAGS|CHE MGO|TSA -PHRU|GUG RTAGS GYON|GUG RTAGS GYAS
F3C TIBETAN |MARK ANG KHANG GYON|MARK ANG KHANG GYAS|SIGN YAR TSHES|SIGN MAR TSHES|LETTER KA
F41 TIBETAN LETTER |KHA|GA|GHA|NGA|CA|CHA|JA
F49 TIBETAN LETTER |NYA|TTA|TTHA|DDA|DDHA|NNA|TA|THA|DA|DHA|NA|PA|PHA|BA|BHA|MA|TSA|TSHA|DZA|DZHA
F5D TIBETAN LETTER |WA|ZHA|ZA|-A|YA|RA|LA|SHA|SSA|SA|HA|A|KSSA|FIXED-FORM RA|KKA|RRA
F71 TIBETAN VOWEL SIGN |AA|I|II|U|UU|VOCALIC R|VOCALIC RR|VOCALIC L|VOCALIC LL|E|EE|O|OO
F7E TIBETAN |SIGN RJES SU NGA RO|SIGN RNAM BCAD|VOWEL SIGN REVERSED I|VOWEL SIGN REVERSED II
F82 TIBETAN |SIGN NYI ZLA NAA DA|SIGN SNA LDAN|MARK HALANTA|MARK PALUTA|SIGN LCI RTAGS
F87 TIBETAN SIGN |YANG RTAGS|LCE TSA CAN|MCHU CAN|GRU CAN RGYINGS|GRU MED RGYINGS
F8C TIBETAN |SIGN INVERTED MCHU CAN|SUBJOINED SIGN LCE TSA CAN|SUBJOINED SIGN MCHU CAN
F8F TIBETAN SUBJOINED |SIGN INVERTED MCHU CAN|LETTER KA|LETTER KHA|LETTER GA|LETTER GHA|LETTER NGA
F95 TIBETAN SUBJOINED LETTER |CA|CHA|JA
F99 TIBETAN SUBJOINED LETTER |NYA|TTA|TTHA|DDA|DDHA|NNA|TA|THA|DA|DHA|NA|PA|PHA|BA|BHA|MA|TSA|TSHA
FAB TIBETAN SUBJOINED LETTER |DZA|DZHA|WA|ZHA|ZA|-A|YA|RA|LA|SHA|SSA|SA|HA|A|KSSA|FIXED-FORM WA
FBB TIBETAN SUBJOINED LETTER FIXED-FORM |YA|RA
FBE TIBETAN |KU RU KHA|KU RU KHA BZHI MIG CAN|CANTILLATION SIGN HEAVY BEAT
FC1 TIBETAN CANTILLATION SIGN |LIGHT BEAT|CANG TE-U|SBUB -CHAL
FC4 TIBETAN SYMBOL |DRIL BU|RDO RJE|PADMA GDAN|RDO RJE RGYA GRAM|PHUR PA|NOR BU|NOR BU NYIS -KHYIL
FCB TIBETAN SYMBOL NOR BU |GSUM -KHYIL|BZHI -KHYIL
FCE TIBETAN |SIGN RDEL NAG RDEL DKAR|SIGN RDEL NAG GSUM|MARK BSKA- SHOG GI MGO RGYAN
FD1 TIBETAN MARK |MNYAM YIG GI MGO RGYAN|NYIS TSHEG|INITIAL BRDA RNYING YIG MGO MDUN MA
FD4 |TIBETAN MARK CLOSING BRDA RNYING YIG MGO SGAB MA|RIGHT-FACING SVASTI SIGN
FD6 |LEFT-FACING SVASTI SIGN|RIGHT-FACING SVASTI SIGN WITH DOTS|LEFT-FACING SVASTI SIGN WITH DOTS
FD9 TIBETAN MARK |LEADING MCHAN RTAGS|TRAILING MCHAN RTAGS
1000 MYANMAR LETTER |KA|KHA|GA|GHA|NGA|CA|CHA|JA|JHA|NYA|NNYA|TTA|TTHA|DDA|DDHA|NNA|TA|THA|DA|DHA
1014 MYANMAR LETTER |NA|PA|PHA|BA|BHA|MA|YA|RA|LA|WA|SA|HA|LLA|A|SHAN A|I|II|U|UU|E|MON E|O|AU
102B MYANMAR VOWEL SIGN |TALL AA|AA|I|II|U|UU|E|AI|MON II|MON O|E ABOVE
1036 MYANMAR SIGN |ANUSVARA|DOT BELOW|VISARGA|VIRAMA|ASAT
103B MYANMAR CONSONANT SIGN MEDIAL |YA|RA|WA|HA
103F MYANMAR |LETTER GREAT SA|DIGIT ZERO|DIGIT ONE|DIGIT TWO|DIGIT THREE|DIGIT FOUR|DIGIT FIVE
1046 MYANMAR |DIGIT SIX|DIGIT SEVEN|DIGIT EIGHT|DIGIT NINE|SIGN LITTLE SECTION|SIGN SECTION
104C MYANMAR |SYMBOL LOCATIVE|SYMBOL COMPLETED|SYMBOL AFOREMENTIONED|SYMBOL GENITIVE|LETTER SHA
1051 MYANMAR LETTER |SSA|VOCALIC R|VOCALIC RR|VOCALIC L|VOCALIC LL
1056 MYANMAR VOWEL SIGN VOCALIC |R|RR|L|LL
105A MYANMAR LETTER MON |NGA|JHA|BBA|BBE
105E MYANMAR CONSONANT SIGN MON MEDIAL |NA|MA|LA
1061 MYANMAR |LETTER SGAW KAREN SHA|VOWEL SIGN SGAW KAREN EU|TONE MARK SGAW KAREN HATHI
1064 MYANMAR |TONE MARK SGAW KAREN KE PHO|LETTER WESTERN PWO KAREN THA
1066 MYANMAR |LETTER WESTERN PWO KAREN PWA|VOWEL SIGN WESTERN PWO KAREN EU
1068 MYANMAR |VOWEL SIGN WESTERN PWO KAREN UE|SIGN WESTERN PWO KAREN TONE-1
106A MYANMAR SIGN WESTERN PWO KAREN |TONE-2|TONE-3|TONE-4|TONE-5
106E MYANMAR LETTER EASTERN PWO KAREN |NNA|YWA|GHWA
1071 MYANMAR VOWEL SIGN |GEBA KAREN I|KAYAH OE|KAYAH U|KAYAH EE
1075 MYANMAR LETTER SHAN |KA|KHA|GA|CA|ZA|NYA|DA|NA|PHA|FA|BA|THA|HA
1082 MYANMAR |CONSONANT SIGN SHAN MEDIAL WA|VOWEL SIGN SHAN AA|VOWEL SIGN SHAN E
1085 MYANMAR |VOWEL SIGN SHAN E ABOVE|VOWEL SIGN SHAN FINAL Y|SIGN SHAN TONE-2|SIGN SHAN TONE-3
1089 MYANMAR SIGN SHAN |TONE-5|TONE-6|COUNCIL TONE-2|COUNCIL TONE-3|COUNCIL EMPHATIC TONE
108E MYANMAR |LETTER RUMAI PALAUNG FA|SIGN RUMAI PALAUNG TONE-5|SHAN DIGIT ZERO|SHAN DIGIT ONE
1092 MYANMAR SHAN DIGIT |TWO|THREE|FOUR|FIVE|SIX|SEVEN|EIGHT|NINE
109A MYANMAR |SIGN KHAMTI TONE-1|SIGN KHAMTI TONE-3|VOWEL SIGN AITON A|VOWEL SIGN AITON AI
109E |MYANMAR SYMBOL SHAN ONE|MYANMAR SYMBOL SHAN EXCLAMATION|GEORGIAN CAPITAL LETTER AN
10A1 GEORGIAN CAPITAL LETTER |BAN|GAN|DON|EN|VIN|ZEN|TAN|IN|KAN|LAS|MAN|NAR|ON|PAR|ZHAR|RAE|SAN
10B2 GEORGIAN CAPITAL LETTER |TAR|UN|PHAR|KHAR|GHAN|QAR|SHIN|CHIN|CAN|JIL|CIL|CHAR|XAN|JHAN|HAE|HE
10C2 GEORGIAN CAPITAL LETTER |HIE|WE|HAR|HOE
10C7 |GEORGIAN CAPITAL LETTER YN
10CD |GEORGIAN CAPITAL LETTER AEN
10D0 GEORGIAN LETTER |AN|BAN|GAN|DON|EN|VIN|ZEN|TAN|IN|KAN|LAS|MAN|NAR|ON|PAR|ZHAR|RAE|SAN|TAR|UN
10E4 GEORGIAN LETTER |PHAR|KHAR|GHAN|QAR|SHIN|CHIN|CAN|JIL|CIL|CHAR|XAN|JHAN|HAE|HE|HIE|WE|HAR|HOE
10F6 GEORGIAN |LETTER FI|LETTER YN|LETTER ELIFI|LETTER TURNED GAN|LETTER AIN|PARAGRAPH SEPARATOR
10FC |MODIFIER LETTER GEORGIAN NAR|GEORGIAN LETTER AEN|GEORGIAN LETTER HARD SIGN
10FF |GEORGIAN LETTER LABIAL SIGN|HANGUL CHOSEONG KIYEOK|HANGUL CHOSEONG SSANGKIYEOK
1102 HANGUL CHOSEONG |NIEUN|TIKEUT|SSANGTIKEUT|RIEUL|MIEUM|PIEUP|SSANGPIEUP|SIOS|SSANGSIOS|IEUNG
110C HANGUL CHOSEONG |CIEUC|SSANGCIEUC|CHIEUCH|KHIEUKH|THIEUTH|PHIEUPH|HIEUH|NIEUN-KIYEOK
1114 HANGUL CHOSEONG |SSANGNIEUN|NIEUN-TIKEUT|NIEUN-PIEUP|TIKEUT-KIYEOK|RIEUL-NIEUN|SSANGRIEUL
111A HANGUL CHOSEONG |RIEUL-HIEUH|KAPYEOUNRIEUL|MIEUM-PIEUP|KAPYEOUNMIEUM|PIEUP-KIYEOK|PIEUP-NIEUN
1120 HANGUL CHOSEONG |PIEUP-TIKEUT|PIEUP-SIOS|PIEUP-SIOS-KIYEOK|PIEUP-SIOS-TIKEUT|PIEUP-SIOS-PIEUP
1125 HANGUL CHOSEONG |PIEUP-SSANGSIOS|PIEUP-SIOS-CIEUC|PIEUP-CIEUC|PIEUP-CHIEUCH|PIEUP-THIEUTH
112A HANGUL CHOSEONG |PIEUP-PHIEUPH|KAPYEOUNPIEUP|KAPYEOUNSSANGPIEUP|SIOS-KIYEOK|SIOS-NIEUN
112F HANGUL CHOSEONG |SIOS-TIKEUT|SIOS-RIEUL|SIOS-MIEUM|SIOS-PIEUP|SIOS-PIEUP-KIYEOK
1134 HANGUL CHOSEONG |SIOS-SSANGSIOS|SIOS-IEUNG|SIOS-CIEUC|SIOS-CHIEUCH|SIOS-KHIEUKH|SIOS-THIEUTH
113A HANGUL CHOSEONG |SIOS-PHIEUPH|SIOS-HIEUH|CHITUEUMSIOS|CHITUEUMSSANGSIOS|CEONGCHIEUMSIOS
113F HANGUL CHOSEONG |CEONGCHIEUMSSANGSIOS|PANSIOS|IEUNG-KIYEOK|IEUNG-TIKEUT|IEUNG-MIEUM
1144 HANGUL CHOSEONG |IEUNG-PIEUP|IEUNG-SIOS|IEUNG-PANSIOS|SSANGIEUNG|IEUNG-CIEUC|IEUNG-CHIEUCH
114A HANGUL CHOSEONG |IEUNG-THIEUTH|IEUNG-PHIEUPH|YESIEUNG|CIEUC-IEUNG|CHITUEUMCIEUC
114F HANGUL CHOSEONG |CHITUEUMSSANGCIEUC|CEONGCHIEUMCIEUC|CEONGCHIEUMSSANGCIEUC|CHIEUCH-KHIEUKH
1153 HANGUL CHOSEONG |CHIEUCH-HIEUH|CHITUEUMCHIEUCH|CEONGCHIEUMCHIEUCH|PHIEUPH-PIEUP
1157 HANGUL CHOSEONG |KAPYEOUNPHIEUPH|SSANGHIEUH|YEORINHIEUH|KIYEOK-TIKEUT|NIEUN-SIOS|NIEUN-CIEUC
115D HANGUL |CHOSEONG NIEUN-HIEUH|CHOSEONG TIKEUT-RIEUL|CHOSEONG FILLER|JUNGSEONG FILLER
1161 HANGUL JUNGSEONG |A|AE|YA|YAE|EO|E|YEO|YE|O|WA|WAE|OE|YO|U|WEO|WE|WI|YU|EU|YI|I|A-O|A-U|YA-O
1179 HANGUL JUNGSEONG |YA-YO|EO-O|EO-U|EO-EU|YEO-O|YEO-U|O-EO|O-E|O-YE|O-O|O-U|YO-YA|YO-YAE|YO-YEO
1187 HANGUL JUNGSEONG |YO-O|YO-I|U-A|U-AE|U-EO-EU|U-YE|U-U|YU-A|YU-EO|YU-E|YU-YEO|YU-YE|YU-U|YU-I
1195 HANGUL JUNGSEONG |EU-U|EU-EU|YI-U|I-A|I-YA|I-O|I-U|I-EU|I-ARAEA|ARAEA|ARAEA-EO|ARAEA-U
11A1 HANGUL JUNGSEONG |ARAEA-I|SSANGARAEA|A-EU|YA-U|YEO-YA|O-YA|O-YAE
11A8 HANGUL JONGSEONG |KIYEOK|SSANGKIYEOK|KIYEOK-SIOS|NIEUN|NIEUN-CIEUC|NIEUN-HIEUH|TIKEUT|RIEUL
11B0 HANGUL JONGSEONG |RIEUL-KIYEOK|RIEUL-MIEUM|RIEUL-PIEUP|RIEUL-SIOS|RIEUL-THIEUTH|RIEUL-PHIEUPH
11B6 HANGUL JONGSEONG |RIEUL-HIEUH|MIEUM|PIEUP|PIEUP-SIOS|SIOS|SSANGSIOS|IEUNG|CIEUC|CHIEUCH
11BF HANGUL JONGSEONG |KHIEUKH|THIEUTH|PHIEUPH|HIEUH|KIYEOK-RIEUL|KIYEOK-SIOS-KIYEOK|NIEUN-KIYEOK
11C6 HANGUL JONGSEONG |NIEUN-TIKEUT|NIEUN-SIOS|NIEUN-PANSIOS|NIEUN-THIEUTH|TIKEUT-KIYEOK
11CB HANGUL JONGSEONG |TIKEUT-RIEUL|RIEUL-KIYEOK-SIOS|RIEUL-NIEUN|RIEUL-TIKEUT|RIEUL-TIKEUT-HIEUH
11D0 HANGUL JONGSEONG |SSANGRIEUL|RIEUL-MIEUM-KIYEOK|RIEUL-MIEUM-SIOS|RIEUL-PIEUP-SIOS
11D4 HANGUL JONGSEONG |RIEUL-PIEUP-HIEUH|RIEUL-KAPYEOUNPIEUP|RIEUL-SSANGSIOS|RIEUL-PANSIOS
11D8 HANGUL JONGSEONG |RIEUL-KHIEUKH|RIEUL-YEORINHIEUH|MIEUM-KIYEOK|MIEUM-RIEUL|MIEUM-PIEUP
11DD HANGUL JONGSEONG |MIEUM-SIOS|MIEUM-SSANGSIOS|MIEUM-PANSIOS|MIEUM-CHIEUCH|MIEUM-HIEUH
11E2 HANGUL JONGSEONG |KAPYEOUNMIEUM|PIEUP-RIEUL|PIEUP-PHIEUPH|PIEUP-HIEUH|KAPYEOUNPIEUP
11E7 HANGUL JONGSEONG |SIOS-KIYEOK|SIOS-TIKEUT|SIOS-RIEUL|SIOS-PIEUP|PANSIOS|IEUNG-KIYEOK
11ED HANGUL JONGSEONG |IEUNG-SSANGKIYEOK|SSANGIEUNG|IEUNG-KHIEUKH|YESIEUNG|YESIEUNG-SIOS
11F2 HANGUL JONGSEONG |YESIEUNG-PANSIOS|PHIEUPH-PIEUP|KAPYEOUNPHIEUPH|HIEUH-NIEUN|HIEUH-RIEUL
11F7 HANGUL JONGSEONG |HIEUH-MIEUM|HIEUH-PIEUP|YEORINHIEUH|KIYEOK-NIEUN|KIYEOK-PIEUP
11FC HANGUL JONGSEONG |KIYEOK-CHIEUCH|KIYEOK-KHIEUKH|KIYEOK-HIEUH|SSANGNIEUN
1200 ETHIOPIC SYLLABLE |HA|HU|HI|HAA|HEE|HE|HO|HOA|LA|LU|LI|LAA|LEE|LE|LO|LWA|HHA|HHU|HHI|HHAA
1214 ETHIOPIC SYLLABLE |HHEE|HHE|HHO|HHWA|MA|MU|MI|MAA|MEE|ME|MO|MWA|SZA|SZU|SZI|SZAA|SZEE|SZE|SZO
1227 ETHIOPIC SYLLABLE |SZWA|RA|RU|RI|RAA|REE|RE|RO|RWA|SA|SU|SI|SAA|SEE|SE|SO|SWA|SHA|SHU|SHI
123B ETHIOPIC SYLLABLE |SHAA|SHEE|SHE|SHO|SHWA|QA|QU|QI|QAA|QEE|QE|QO|QOA|QWA
124A ETHIOPIC SYLLABLE |QWI|QWAA|QWEE|QWE
1250 ETHIOPIC SYLLABLE |QHA|QHU|QHI|QHAA|QHEE|QHE|QHO
1258 |ETHIOPIC SYLLABLE QHWA
125A ETHIOPIC SYLLABLE |QHWI|QHWAA|QHWEE|QHWE
1260 ETHIOPIC SYLLABLE |BA|BU|BI|BAA|BEE|BE|BO|BWA|VA|VU|VI|VAA|VEE|VE|VO|VWA|TA|TU|TI|TAA|TEE|TE
1276 ETHIOPIC SYLLABLE |TO|TWA|CA|CU|CI|CAA|CEE|CE|CO|CWA|XA|XU|XI|XAA|XEE|XE|XO|XOA|XWA
128A ETHIOPIC SYLLABLE |XWI|XWAA|XWEE|XWE
1290 ETHIOPIC SYLLABLE |NA|NU|NI|NAA|NEE|NE|NO|NWA|NYA|NYU|NYI|NYAA|NYEE|NYE|NYO|NYWA|GLOTTAL A
12A1 ETHIOPIC SYLLABLE GLOTTAL |U|I|AA|EE|E|O|WA
12A8 ETHIOPIC SYLLABLE |KA|KU|KI|KAA|KEE|KE|KO|KOA|KWA
12B2 ETHIOPIC SYLLABLE |KWI|KWAA|KWEE|KWE
12B8 ETHIOPIC SYLLABLE |KXA|KXU|KXI|KXAA|KXEE|KXE|KXO
12C0 |ETHIOPIC SYLLABLE KXWA
12C2 ETHIOPIC SYLLABLE |KXWI|KXWAA|KXWEE|KXWE
12C8 ETHIOPIC SYLLABLE |WA|WU|WI|WAA|WEE|WE|WO|WOA|PHARYNGEAL A|PHARYNGEAL U|PHARYNGEAL I
12D3 ETHIOPIC SYLLABLE PHARYNGEAL |AA|EE|E|O
12D8 ETHIOPIC SYLLABLE |ZA|ZU|ZI|ZAA|ZEE|ZE|ZO|ZWA|ZHA|ZHU|ZHI|ZHAA|ZHEE|ZHE|ZHO|ZHWA|YA|YU|YI|YAA
12EC ETHIOPIC SYLLABLE |YEE|YE|YO|YOA|DA|DU|DI|DAA|DEE|DE|DO|DWA|DDA|DDU|DDI|DDAA|DDEE|DDE|DDO
12FF ETHIOPIC SYLLABLE |DDWA|JA|JU|JI|JAA|JEE|JE|JO|JWA|GA|GU|GI|GAA|GEE|GE|GO|GOA|GWA
1312 ETHIOPIC SYLLABLE |GWI|GWAA|GWEE|GWE
1318 ETHIOPIC SYLLABLE |GGA|GGU|GGI|GGAA|GGEE|GGE|GGO|GGWAA|THA|THU|THI|THAA|THEE|THE|THO|THWA|CHA
1329 ETHIOPIC SYLLABLE |CHU|CHI|CHAA|CHEE|CHE|CHO|CHWA|PHA|PHU|PHI|PHAA|PHEE|PHE|PHO|PHWA|TSA|TSU
133A ETHIOPIC SYLLABLE |TSI|TSAA|TSEE|TSE|TSO|TSWA|TZA|TZU|TZI|TZAA|TZEE|TZE|TZO|TZOA|FA|FU|FI|FAA
134C ETHIOPIC SYLLABLE |FEE|FE|FO|FWA|PA|PU|PI|PAA|PEE|PE|PO|PWA|RYA|MYA|FYA
135D ETHIOPIC COMBINING |GEMINATION AND VOWEL LENGTH MARK|VOWEL LENGTH MARK|GEMINATION MARK
1360 ETHIOPIC |SECTION MARK|WORDSPACE|FULL STOP|COMMA|SEMICOLON|COLON|PREFACE COLON|QUESTION MARK
1368 ETHIOPIC |PARAGRAPH SEPARATOR|DIGIT ONE|DIGIT TWO|DIGIT THREE|DIGIT FOUR|DIGIT FIVE|DIGIT SIX
136F ETHIOPIC |DIGIT SEVEN|DIGIT EIGHT|DIGIT NINE|NUMBER TEN|NUMBER TWENTY|NUMBER THIRTY
1375 ETHIOPIC NUMBER |FORTY|FIFTY|SIXTY|SEVENTY|EIGHTY|NINETY|HUNDRED|TEN THOUSAND
1380 ETHIOPIC SYLLABLE |SEBATBEIT MWA|MWI|MWEE|MWE|SEBATBEIT BWA|BWI|BWEE|BWE|SEBATBEIT FWA|FWI
138A ETHIOPIC SYLLABLE |FWEE|FWE|SEBATBEIT PWA|PWI|PWEE|PWE
1390 ETHIOPIC TONAL MARK |YIZET|DERET|RIKRIK|SHORT RIKRIK|DIFAT|KENAT|CHIRET|HIDET|DERET-HIDET
1399 |ETHIOPIC TONAL MARK KURT
13A0 CHEROKEE LETTER |A|E|I|O|U|V|GA|KA|GE|GI|GO|GU|GV|HA|HE|HI|HO|HU|HV|LA|LE|LI|LO|LU|LV|MA|ME
13BB CHEROKEE LETTER |MI|MO|MU|NA|HNA|NAH|NE|NI|NO|NU|NV|QUA|QUE|QUI|QUO|QUU|QUV|SA|S|SE|SI|SO|SU
13D2 CHEROKEE LETTER |SV|DA|TA|DE|TE|DI|TI|DO|DU|DV|DLA|TLA|TLE|TLI|TLO|TLU|TLV|TSA|TSE|TSI|TSO
13E7 CHEROKEE LETTER |TSU|TSV|WA|WE|WI|WO|WU|WV|YA|YE|YI|YO|YU|YV|MV
13F8 CHEROKEE SMALL LETTER |YE|YI|YO|YU|YV|MV
1400 CANADIAN SYLLABICS |HYPHEN|E|AAI|I|II|O|OO|Y-CREE OO|CARRIER EE|CARRIER I|A|AA|WE
140D CANADIAN SYLLABICS |WEST-CREE WE|WI|WEST-CREE WI|WII|WEST-CREE WII|WO|WEST-CREE WO|WOO
1415 CANADIAN SYLLABICS |WEST-CREE WOO|NASKAPI WOO|WA|WEST-CREE WA|WAA|WEST-CREE WAA|NASKAPI WAA
141C CANADIAN SYLLABICS |AI|Y-CREE W|GLOTTAL STOP|FINAL ACUTE|FINAL GRAVE|FINAL BOTTOM HALF RING
1422 CANADIAN SYLLABICS FINAL |TOP HALF RING|RIGHT HALF RING|RING|DOUBLE ACUTE
1426 CANADIAN SYLLABICS FINAL |DOUBLE SHORT VERTICAL STROKES|MIDDLE DOT|SHORT HORIZONTAL STROKE
1429 CANADIAN SYLLABICS |FINAL PLUS|FINAL DOWN TACK|EN|IN|ON|AN|PE|PAAI|PI|PII|PO|POO|Y-CREE POO
1436 CANADIAN SYLLABICS |CARRIER HEE|CARRIER HI|PA|PAA|PWE|WEST-CREE PWE|PWI|WEST-CREE PWI|PWII
143F CANADIAN SYLLABICS |WEST-CREE PWII|PWO|WEST-CREE PWO|PWOO|WEST-CREE PWOO|PWA|WEST-CREE PWA
1446 CANADIAN SYLLABICS |PWAA|WEST-CREE PWAA|Y-CREE PWAA|P|WEST-CREE P|CARRIER H|TE|TAAI|TI|TII|TO
1451 CANADIAN SYLLABICS |TOO|Y-CREE TOO|CARRIER DEE|CARRIER DI|TA|TAA|TWE|WEST-CREE TWE|TWI
145A CANADIAN SYLLABICS |WEST-CREE TWI|TWII|WEST-CREE TWII|TWO|WEST-CREE TWO|TWOO|WEST-CREE TWOO
1461 CANADIAN SYLLABICS |TWA|WEST-CREE TWA|TWAA|WEST-CREE TWAA|NASKAPI TWAA|T|TTE|TTI|TTO|TTA|KE
146C CANADIAN SYLLABICS |KAAI|KI|KII|KO|KOO|Y-CREE KOO|KA|KAA|KWE|WEST-CREE KWE|KWI|WEST-CREE KWI
1478 CANADIAN SYLLABICS |KWII|WEST-CREE KWII|KWO|WEST-CREE KWO|KWOO|WEST-CREE KWOO|KWA
147F CANADIAN SYLLABICS |WEST-CREE KWA|KWAA|WEST-CREE KWAA|NASKAPI KWAA|K|KW|SOUTH-SLAVEY KEH
1486 CANADIAN SYLLABICS |SOUTH-SLAVEY KIH|SOUTH-SLAVEY KOH|SOUTH-SLAVEY KAH|CE|CAAI|CI|CII|CO|COO
148F CANADIAN SYLLABICS |Y-CREE COO|CA|CAA|CWE|WEST-CREE CWE|CWI|WEST-CREE CWI|CWII|WEST-CREE CWII
1498 CANADIAN SYLLABICS |CWO|WEST-CREE CWO|CWOO|WEST-CREE CWOO|CWA|WEST-CREE CWA|CWAA
149F CANADIAN SYLLABICS |WEST-CREE CWAA|NASKAPI CWAA|C|SAYISI TH|ME|MAAI|MI|MII|MO|MOO|Y-CREE MOO
14AA CANADIAN SYLLABICS |MA|MAA|MWE|WEST-CREE MWE|MWI|WEST-CREE MWI|MWII|WEST-CREE MWII|MWO
14B3 CANADIAN SYLLABICS |WEST-CREE MWO|MWOO|WEST-CREE MWOO|MWA|WEST-CREE MWA|MWAA|WEST-CREE MWAA
14BA CANADIAN SYLLABICS |NASKAPI MWAA|M|WEST-CREE M|MH|ATHAPASCAN M|SAYISI M|NE|NAAI|NI|NII|NO|NOO
14C6 CANADIAN SYLLABICS |Y-CREE NOO|NA|NAA|NWE|WEST-CREE NWE|NWA|WEST-CREE NWA|NWAA|WEST-CREE NWAA
14CF CANADIAN SYLLABICS |NASKAPI NWAA|N|CARRIER NG|NH|LE|LAAI|LI|LII|LO|LOO|Y-CREE LOO|LA|LAA|LWE
14DD CANADIAN SYLLABICS |WEST-CREE LWE|LWI|WEST-CREE LWI|LWII|WEST-CREE LWII|LWO|WEST-CREE LWO
14E4 CANADIAN SYLLABICS |LWOO|WEST-CREE LWOO|LWA|WEST-CREE LWA|LWAA|WEST-CREE LWAA|L|WEST-CREE L
14EC CANADIAN SYLLABICS |MEDIAL L|SE|SAAI|SI|SII|SO|SOO|Y-CREE SOO|SA|SAA|SWE|WEST-CREE SWE|SWI
14F9 CANADIAN SYLLABICS |WEST-CREE SWI|SWII|WEST-CREE SWII|SWO|WEST-CREE SWO|SWOO|WEST-CREE SWOO
1500 CANADIAN SYLLABICS |SWA|WEST-CREE SWA|SWAA|WEST-CREE SWAA|NASKAPI SWAA|S|ATHAPASCAN S|SW
1508 CANADIAN SYLLABICS |BLACKFOOT S|MOOSE-CREE SK|NASKAPI SKW|NASKAPI S-W|NASKAPI SPWA
150D CANADIAN SYLLABICS |NASKAPI STWA|NASKAPI SKWA|NASKAPI SCWA|SHE|SHI|SHII|SHO|SHOO|SHA|SHAA
1517 CANADIAN SYLLABICS |SHWE|WEST-CREE SHWE|SHWI|WEST-CREE SHWI|SHWII|WEST-CREE SHWII|SHWO
151E CANADIAN SYLLABICS |WEST-CREE SHWO|SHWOO|WEST-CREE SHWOO|SHWA|WEST-CREE SHWA|SHWAA
1524 CANADIAN SYLLABICS |WEST-CREE SHWAA|SH|YE|YAAI|YI|YII|YO|YOO|Y-CREE YOO|YA|YAA|YWE
1530 CANADIAN SYLLABICS |WEST-CREE YWE|YWI|WEST-CREE YWI|YWII|WEST-CREE YWII|YWO|WEST-CREE YWO
1537 CANADIAN SYLLABICS |YWOO|WEST-CREE YWOO|YWA|WEST-CREE YWA|YWAA|WEST-CREE YWAA|NASKAPI YWAA|Y
153F CANADIAN SYLLABICS |BIBLE-CREE Y|WEST-CREE Y|SAYISI YI|RE|R-CREE RE|WEST-CREE LE|RAAI|RI|RII
1548 CANADIAN SYLLABICS |RO|ROO|WEST-CREE LO|RA|RAA|WEST-CREE LA|RWAA|WEST-CREE RWAA|R|WEST-CREE R
1552 CANADIAN SYLLABICS |MEDIAL R|FE|FAAI|FI|FII|FO|FOO|FA|FAA|FWAA|WEST-CREE FWAA|F|THE
155F CANADIAN SYLLABICS |N-CREE THE|THI|N-CREE THI|THII|N-CREE THII|THO|THOO|THA|THAA|THWAA
1569 CANADIAN SYLLABICS |WEST-CREE THWAA|TH|TTHE|TTHI|TTHO|TTHA|TTH|TYE|TYI|TYO|TYA|NUNAVIK HE
1575 CANADIAN SYLLABICS NUNAVIK |HI|HII|HO|HOO|HA|HAA|H
157C CANADIAN SYLLABICS |NUNAVUT H|HK|QAAI|QI|QII|QO|QOO|QA|QAA|Q|TLHE|TLHI|TLHO|TLHA|WEST-CREE RE
158B CANADIAN SYLLABICS |WEST-CREE RI|WEST-CREE RO|WEST-CREE RA|NGAAI|NGI|NGII|NGO|NGOO|NGA|NGAA
1595 CANADIAN SYLLABICS |NG|NNG|SAYISI SHE|SAYISI SHI|SAYISI SHO|SAYISI SHA|WOODS-CREE THE
159C CANADIAN SYLLABICS |WOODS-CREE THI|WOODS-CREE THO|WOODS-CREE THA|WOODS-CREE TH|LHI|LHII|LHO
15A3 CANADIAN SYLLABICS |LHOO|LHA|LHAA|LH|TH-CREE THE|TH-CREE THI|TH-CREE THII|TH-CREE THO
15AB CANADIAN SYLLABICS |TH-CREE THOO|TH-CREE THA|TH-CREE THAA|TH-CREE TH|AIVILIK B|BLACKFOOT E
15B1 CANADIAN SYLLABICS BLACKFOOT |I|O|A|WE|WI|WO|WA|NE|NI|NO|NA|KE|KI|KO|KA
15C0 CANADIAN SYLLABICS |SAYISI HE|SAYISI HI|SAYISI HO|SAYISI HA|CARRIER GHU|CARRIER GHO
15C6 CANADIAN SYLLABICS CARRIER |GHE|GHEE|GHI|GHA|RU|RO|RE|REE|RI|RA|WU|WO|WE|WEE|WI|WA|HWU|HWO
15D8 CANADIAN SYLLABICS CARRIER |HWE|HWEE|HWI|HWA|THU|THO|THE|THEE|THI|THA|TTU|TTO|TTE|TTEE|TTI
15E7 CANADIAN SYLLABICS CARRIER |TTA|PU|PO|PE|PEE|PI|PA|P|GU|GO|GE|GEE|GI|GA|KHU|KHO|KHE|KHEE|KHI
15FA CANADIAN SYLLABICS CARRIER |KHA|KKU|KKO|KKE|KKEE|KKI|KKA|KK|NU|NO|NE|NEE|NI|NA|MU|MO|ME|MEE
160C CANADIAN SYLLABICS CARRIER |MI|MA|YU|YO|YE|YEE|YI|YA|JU
1615 CANADIAN SYLLABICS |SAYISI JU|CARRIER JO|CARRIER JE|CARRIER JEE|CARRIER JI|SAYISI JI
161B CANADIAN SYLLABICS CARRIER |JA|JJU|JJO|JJE|JJEE|JJI|JJA|LU|LO|LE|LEE|LI|LA|DLU|DLO|DLE|DLEE
162C CANADIAN SYLLABICS CARRIER |DLI|DLA|LHU|LHO|LHE|LHEE|LHI|LHA|TLHU|TLHO|TLHE|TLHEE|TLHI|TLHA
163A CANADIAN SYLLABICS CARRIER |TLU|TLO|TLE|TLEE|TLI|TLA|ZU|ZO|ZE|ZEE|ZI|ZA|Z|INITIAL Z|DZU|DZO
164A CANADIAN SYLLABICS CARRIER |DZE|DZEE|DZI|DZA|SU|SO|SE|SEE|SI|SA|SHU|SHO|SHE|SHEE|SHI|SHA|SH
165B CANADIAN SYLLABICS CARRIER |TSU|TSO|TSE|TSEE|TSI|TSA|CHU|CHO|CHE|CHEE|CHI|CHA|TTSU|TTSO|TTSE
166A CANADIAN SYLLABICS |CARRIER TTSEE|CARRIER TTSI|CARRIER TTSA|CHI SIGN|FULL STOP|QAI|NGAI|NNGI
1672 CANADIAN SYLLABICS |NNGII|NNGO|NNGOO|NNGA|NNGAA|WOODS-CREE THWEE|WOODS-CREE THWI
1679 CANADIAN SYLLABICS WOODS-CREE |THWII|THWO|THWOO|THWA|THWAA|FINAL TH
167F |CANADIAN SYLLABICS BLACKFOOT W|OGHAM SPACE MARK|OGHAM LETTER BEITH|OGHAM LETTER LUIS
1683 OGHAM LETTER |FEARN|SAIL|NION|UATH|DAIR|TINNE|COLL|CEIRT|MUIN|GORT|NGEADAL|STRAIF|RUIS|AILM
1691 OGHAM LETTER |ONN|UR|EADHADH|IODHADH|EABHADH|OR|UILLEANN|IFIN|EAMHANCHOLL|PEITH
169B OGHAM |FEATHER MARK|REVERSED FEATHER MARK
16A0 RUNIC LETTER |FEHU FEOH FE F|V|URUZ UR U|YR|Y|W|THURISAZ THURS THORN|ETH|ANSUZ A|OS O|AC A
16AB RUNIC LETTER |AESC|LONG-BRANCH-OSS O|SHORT-TWIG-OSS O|O|OE|ON|RAIDO RAD REID R|KAUNA|CEN
16B4 RUNIC LETTER |KAUN K|G|ENG|GEBO GYFU G|GAR|WUNJO WYNN W|HAGLAZ H|HAEGL H|LONG-BRANCH-HAGALL H
16BD RUNIC LETTER |SHORT-TWIG-HAGALL H|NAUDIZ NYD NAUD N|SHORT-TWIG-NAUD N|DOTTED-N|ISAZ IS ISS I
16C2 RUNIC LETTER |E|JERAN J|GER|LONG-BRANCH-AR AE|SHORT-TWIG-AR A|IWAZ EOH|PERTHO PEORTH P
16C9 RUNIC LETTER |ALGIZ EOLHX|SOWILO S|SIGEL LONG-BRANCH-SOL S|SHORT-TWIG-SOL S|C|Z
16CF RUNIC LETTER |TIWAZ TIR TYR T|SHORT-TWIG-TYR T|D|BERKANAN BEORC BJARKAN B
16D3 RUNIC LETTER |SHORT-TWIG-BJARKAN B|DOTTED-P|OPEN-P|EHWAZ EH E|MANNAZ MAN M|LONG-BRANCH-MADR M
16D9 RUNIC LETTER |SHORT-TWIG-MADR M|LAUKAZ LAGU LOGR L|DOTTED-L|INGWAZ|ING|DAGAZ DAEG D
16DF RUNIC LETTER |OTHALAN ETHEL O|EAR|IOR|CWEORTH|CALC|CEALC|STAN|LONG-BRANCH-YR|SHORT-TWIG-YR
16E8 RUNIC |LETTER ICELANDIC-YR|LETTER Q|LETTER X|SINGLE PUNCTUATION|MULTIPLE PUNCTUATION
16ED RUNIC |CROSS PUNCTUATION|ARLAUG SYMBOL|TVIMADUR SYMBOL|BELGTHOR SYMBOL|LETTER K|LETTER SH
16F3 RUNIC LETTER |OO|FRANKS CASKET OS|FRANKS CASKET IS|FRANKS CASKET EH|FRANKS CASKET AC
16F8 |RUNIC LETTER FRANKS CASKET AESC
1700 TAGALOG LETTER |A|I|U|KA|GA|NGA|TA|DA|NA|PA|BA|MA|YA|RA|LA|WA|SA|HA
1712 TAGALOG |VOWEL SIGN I|VOWEL SIGN U|SIGN VIRAMA|SIGN PAMUDPOD
171F |TAGALOG LETTER ARCHAIC RA|HANUNOO LETTER A|HANUNOO LETTER I|HANUNOO LETTER U
1723 HANUNOO LETTER |KA|GA|NGA|TA|DA|NA|PA|BA|MA|YA|RA|LA|WA|SA|HA
1732 HANUNOO |VOWEL SIGN I|VOWEL SIGN U|SIGN PAMUDPOD
1735 PHILIPPINE |SINGLE PUNCTUATION|DOUBLE PUNCTUATION
1740 BUHID LETTER |A|I|U|KA|GA|NGA|TA|DA|NA|PA|BA|MA|YA|RA|LA|WA|SA|HA
1752 BUHID VOWEL SIGN |I|U
1760 TAGBANWA LETTER |A|I|U|KA|GA|NGA|TA|DA|NA|PA|BA|MA|YA
176E TAGBANWA LETTER |LA|WA|SA
1772 TAGBANWA VOWEL SIGN |I|U
1780 KHMER LETTER |KA|KHA|KO|KHO|NGO|CA|CHA|CO|CHO|NYO|DA|TTHA|DO|TTHO|NNO|TA|THA|TO|THO|NO|BA|PHA
1796 KHMER LETTER |PO|PHO|MO|YO|RO|LO|VO|SHA|SSO|SA|HA|LA|QA
17A3 KHMER INDEPENDENT VOWEL |QAQ|QAA|QI|QII|QU|QUK|QUU|QUUV|RY|RYY|LY|LYY|QE|QAI|QOO TYPE ONE
17B2 KHMER |INDEPENDENT VOWEL QOO TYPE TWO|INDEPENDENT VOWEL QAU|VOWEL INHERENT AQ
17B5 KHMER VOWEL |INHERENT AA|SIGN AA|SIGN I|SIGN II|SIGN Y|SIGN YY|SIGN U|SIGN UU|SIGN UA|SIGN OE
17BF KHMER VOWEL SIGN |YA|IE|E|AE|AI|OO|AU
17C6 KHMER SIGN |NIKAHIT|REAHMUK|YUUKALEAPINTU|MUUSIKATOAN|TRIISAP|BANTOC|ROBAT|TOANDAKHIAT
17CE KHMER SIGN |KAKABAT|AHSDA|SAMYOK SANNYA|VIRIAM|COENG|BATHAMASAT|KHAN|BARIYOOSAN
17D6 KHMER SIGN |CAMNUC PII KUUH|LEK TOO|BEYYAL|PHNAEK MUAN|KOOMUUT
17DB KHMER |CURRENCY SYMBOL RIEL|SIGN AVAKRAHASANYA|SIGN ATTHACAN
17E0 KHMER DIGIT |ZERO|ONE|TWO|THREE|FOUR|FIVE|SIX|SEVEN|EIGHT|NINE
17F0 KHMER SYMBOL LEK ATTAK |SON|MUOY|PII|BEI|BUON|PRAM|PRAM-MUOY|PRAM-PII|PRAM-BEI|PRAM-BUON
1800 MONGOLIAN |BIRGA|ELLIPSIS|COMMA|FULL STOP|COLON|FOUR DOTS|TODO SOFT HYPHEN
1807 MONGOLIAN |SIBE SYLLABLE BOUNDARY MARKER|MANCHU COMMA|MANCHU FULL STOP|NIRUGU
180B MONGOLIAN FREE VARIATION SELECTOR |ONE|TWO|THREE
180E MONGOLIAN |VOWEL SEPARATOR|FREE VARIATION SELECTOR FOUR|DIGIT ZERO|DIGIT ONE|DIGIT TWO
1813 MONGOLIAN DIGIT |THREE|FOUR|FIVE|SIX|SEVEN|EIGHT|NINE
1820 MONGOLIAN LETTER |A|E|I|O|U|OE|UE|EE|NA|ANG|BA|PA|QA|GA|MA|LA|SA|SHA|TA|DA|CHA|JA|YA|RA|WA|FA
183A MONGOLIAN LETTER |KA|KHA|TSA|ZA|HAA|ZRA|LHA|ZHI|CHI|TODO LONG VOWEL SIGN|TODO E|TODO I|TODO O
1847 MONGOLIAN LETTER TODO |U|OE|UE|ANG|BA|PA|QA|GA|MA|TA|DA|CHA|JA|TSA|YA|WA|KA|GAA|HAA|JIA|NIA
185C MONGOLIAN LETTER |TODO DZA|SIBE E|SIBE I|SIBE IY|SIBE UE|SIBE U|SIBE ANG|SIBE KA|SIBE GA
1865 MONGOLIAN LETTER SIBE |HA|PA|SHA|TA|DA|JA|FA|GAA|HAA|TSA|ZA|RAA|CHA|ZHA
1873 MONGOLIAN LETTER |MANCHU I|MANCHU KA|MANCHU RA|MANCHU FA|MANCHU ZHA|CHA WITH TWO DOTS
1880 MONGOLIAN LETTER ALI GALI |ANUSVARA ONE|VISARGA ONE|DAMARU|UBADAMA|INVERTED UBADAMA|BALUDA
1886 MONGOLIAN LETTER ALI GALI |THREE BALUDA|A|I|KA|NGA|CA|TTA|TTHA|DDA|NNA|TA|DA|PA|PHA|SSA|ZHA
1896 MONGOLIAN LETTER |ALI GALI ZA|ALI GALI AH|TODO ALI GALI TA|TODO ALI GALI ZHA
189A MONGOLIAN LETTER MANCHU ALI GALI |GHA|NGA|CA|JHA|TTA|DDHA|TA|DHA|SSA|CYA|ZHA|ZA
18A6 MONGOLIAN LETTER |ALI GALI HALF U|ALI GALI HALF YA|MANCHU ALI GALI BHA|ALI GALI DAGALGA
18AA |MONGOLIAN LETTER MANCHU ALI GALI LHA
18B0 CANADIAN SYLLABICS |OY|AY|AAY|WAY|POY|PAY|PWOY|TAY|KAY|KWAY|MAY|NOY|NAY|LAY|SOY|SAY|SHOY|SHAY
18C2 CANADIAN SYLLABICS |SHWOY|YOY|YAY|RAY|NWI|OJIBWAY NWI|NWII|OJIBWAY NWII|NWO|OJIBWAY NWO|NWOO
18CD CANADIAN SYLLABICS |OJIBWAY NWOO|RWEE|RWI|RWII|RWO|RWOO|RWA|OJIBWAY P|OJIBWAY T|OJIBWAY K
18D7 CANADIAN SYLLABICS |OJIBWAY C|OJIBWAY M|OJIBWAY N|OJIBWAY S|OJIBWAY SH|EASTERN W|WESTERN W
18DE CANADIAN SYLLABICS |FINAL SMALL RING|FINAL RAISED DOT|R-CREE RWE|WEST-CREE LOO|WEST-CREE LAA
18E3 CANADIAN SYLLABICS |THWE|THWA|TTHWE|TTHOO|TTHAA|TLHWE|TLHOO|SAYISI SHWE|SAYISI SHOO
18EC CANADIAN SYLLABICS |SAYISI HOO|CARRIER GWU|CARRIER DENE GEE|CARRIER GAA|CARRIER GWA
18F1 CANADIAN SYLLABICS |SAYISI JUU|CARRIER JWA|BEAVER DENE L|BEAVER DENE R|CARRIER DENTAL S
1900 LIMBU |VOWEL-CARRIER LETTER|LETTER KA|LETTER KHA|LETTER GA|LETTER GHA|LETTER NGA|LETTER CA
1907 LIMBU LETTER |CHA|JA|JHA|YAN|TA|THA|DA|DHA|NA|PA|PHA|BA|BHA|MA|YA|RA|LA|WA|SHA|SSA|SA|HA|GYAN
191E |LIMBU LETTER TRA
1920 LIMBU VOWEL SIGN |A|I|U|EE|AI|OO|AU|E|O
1929 LIMBU SUBJOINED LETTER |YA|RA|WA
1930 LIMBU SMALL LETTER |KA|NGA|ANUSVARA|TA|NA|PA|MA|RA|LA
1939 LIMBU SIGN |MUKPHRENG|KEMPHRENG|SA-I
1940 |LIMBU SIGN LOO
1944 LIMBU |EXCLAMATION MARK|QUESTION MARK|DIGIT ZERO|DIGIT ONE|DIGIT TWO|DIGIT THREE|DIGIT FOUR
194B LIMBU DIGIT |FIVE|SIX|SEVEN|EIGHT|NINE
1950 TAI LE LETTER |KA|XA|NGA|TSA|SA|YA|TA|THA|LA|PA|PHA|MA|FA|VA|HA|QA|KHA|TSHA|NA|A|I|EE|EH|U|OO
1969 TAI LE LETTER |O|UE|E|AUE|AI
1970 TAI LE LETTER |TONE-2|TONE-3|TONE-4|TONE-5|TONE-6
1980 NEW TAI LUE LETTER |HIGH QA|LOW QA|HIGH KA|HIGH XA|HIGH NGA|LOW KA|LOW XA|LOW NGA|HIGH TSA
1989 NEW TAI LUE LETTER |HIGH SA|HIGH YA|LOW TSA|LOW SA|LOW YA|HIGH TA|HIGH THA|HIGH NA|LOW TA
1992 NEW TAI LUE LETTER |LOW THA|LOW NA|HIGH PA|HIGH PHA|HIGH MA|LOW PA|LOW PHA|LOW MA|HIGH FA
199B NEW TAI LUE LETTER |HIGH VA|HIGH LA|LOW FA|LOW VA|LOW LA|HIGH HA|HIGH DA|HIGH BA|LOW HA
19A4 NEW TAI LUE LETTER |LOW DA|LOW BA|HIGH KVA|HIGH XVA|LOW KVA|LOW XVA|HIGH SUA|LOW SUA
19B0 NEW TAI LUE VOWEL SIGN |VOWEL SHORTENER|AA|II|U|UU|E|AE|O|OA|UE|AY|AAY|UY|OY|OAY|UEY|IY
19C1 NEW TAI LUE LETTER FINAL |V|NG|N|M|K|D|B
19C8 NEW TAI LUE TONE |MARK-1|MARK-2
19D0 NEW TAI LUE DIGIT |ZERO|ONE|TWO|THREE|FOUR|FIVE|SIX|SEVEN|EIGHT|NINE
19DA |NEW TAI LUE THAM DIGIT ONE
19DE |NEW TAI LUE SIGN LAE|NEW TAI LUE SIGN LAEV|KHMER SYMBOL PATHAMASAT|KHMER SYMBOL MUOY KOET
19E2 KHMER SYMBOL |PII KOET|BEI KOET|BUON KOET|PRAM KOET|PRAM-MUOY KOET|PRAM-PII KOET
19E8 KHMER SYMBOL |PRAM-BEI KOET|PRAM-BUON KOET|DAP KOET|DAP-MUOY KOET|DAP-PII KOET|DAP-BEI KOET
19EE KHMER SYMBOL |DAP-BUON KOET|DAP-PRAM KOET|TUTEYASAT|MUOY ROC|PII ROC|BEI ROC|BUON ROC
19F5 KHMER SYMBOL |PRAM ROC|PRAM-MUOY ROC|PRAM-PII ROC|PRAM-BEI ROC|PRAM-BUON ROC|DAP ROC
19FB KHMER SYMBOL |DAP-MUOY ROC|DAP-PII ROC|DAP-BEI ROC|DAP-BUON ROC|DAP-PRAM ROC
1A00 BUGINESE LETTER |KA|GA|NGA|NGKA|PA|BA|MA|MPA|TA|DA|NA|NRA|CA|JA|NYA|NYCA|YA|RA|LA|VA|SA|A|HA
1A17 BUGINESE VOWEL SIGN |I|U|E|O|AE
1A1E |BUGINESE PALLAWA|BUGINESE END OF SECTION|TAI THAM LETTER HIGH KA|TAI THAM LETTER HIGH KHA
1A22 TAI THAM LETTER |HIGH KXA|LOW KA|LOW KXA|LOW KHA|NGA|HIGH CA|HIGH CHA|LOW CA|LOW SA|LOW CHA
1A2C TAI THAM LETTER |NYA|RATA|HIGH RATHA|DA|LOW RATHA|RANA|HIGH TA|HIGH THA|LOW TA|LOW THA|NA|BA
1A38 TAI THAM LETTER |HIGH PA|HIGH PHA|HIGH FA|LOW PA|LOW FA|LOW PHA|MA|LOW YA|HIGH YA|RA|RUE|LA
1A44 TAI THAM LETTER |LUE|WA|HIGH SHA|HIGH SSA|HIGH SA|HIGH HA|LLA|A|LOW HA|I|II|U|UU|EE|OO|LAE
1A54 TAI THAM |LETTER GREAT SA|CONSONANT SIGN MEDIAL RA|CONSONANT SIGN MEDIAL LA
1A57 TAI THAM |CONSONANT SIGN LA TANG LAI|SIGN MAI KANG LAI|CONSONANT SIGN FINAL NGA
1A5A TAI THAM CONSONANT SIGN |LOW PA|HIGH RATHA OR LOW PA|MA|BA|SA
1A60 TAI THAM |SIGN SAKOT|VOWEL SIGN A|VOWEL SIGN MAI SAT|VOWEL SIGN AA|VOWEL SIGN TALL AA
1A65 TAI THAM VOWEL SIGN |I|II|UE|UUE|U|UU|O|OA BELOW|OY|E|AE|OO|AI|THAM AI|OA ABOVE
1A74 TAI THAM SIGN |MAI KANG|TONE-1|TONE-2|KHUEN TONE-3|KHUEN TONE-4|KHUEN TONE-5|RA HAAM|MAI SAM
1A7C |TAI THAM SIGN KHUEN-LUE KARAN
1A7F TAI THAM |COMBINING CRYPTOGRAMMIC DOT|HORA DIGIT ZERO|HORA DIGIT ONE|HORA DIGIT TWO
1A83 TAI THAM HORA DIGIT |THREE|FOUR|FIVE|SIX|SEVEN|EIGHT|NINE
1A90 TAI THAM THAM DIGIT |ZERO|ONE|TWO|THREE|FOUR|FIVE|SIX|SEVEN|EIGHT|NINE
1AA0 TAI THAM SIGN |WIANG|WIANGWAAK|SAWAN|KEOW|HOY|DOKMAI|REVERSED ROTATED RANA|MAI YAMOK|KAAN
1AA9 TAI THAM SIGN |KAANKUU|SATKAAN|SATKAANKUU|HANG|CAANG
1AB0 COMBINING |DOUBLED CIRCUMFLEX ACCENT|DIAERESIS-RING|INFINITY|DOWNWARDS ARROW|TRIPLE DOT
1AB5 COMBINING |X-X BELOW|WIGGLY LINE BELOW|OPEN MARK BELOW|DOUBLE OPEN MARK BELOW
1AB9 COMBINING |LIGHT CENTRALIZATION STROKE BELOW|STRONG CENTRALIZATION STROKE BELOW
1ABB COMBINING |PARENTHESES ABOVE|DOUBLE PARENTHESES ABOVE|PARENTHESES BELOW|PARENTHESES OVERLAY
1ABF COMBINING LATIN SMALL LETTER |W BELOW|TURNED W BELOW
1AC1 COMBINING |LEFT PARENTHESIS ABOVE LEFT|RIGHT PARENTHESIS ABOVE RIGHT
1AC3 COMBINING |LEFT PARENTHESIS BELOW LEFT|RIGHT PARENTHESIS BELOW RIGHT|SQUARE BRACKETS ABOVE
1AC6 COMBINING |NUMBER SIGN ABOVE|INVERTED DOUBLE ARCH ABOVE|PLUS SIGN ABOVE
1AC9 COMBINING |DOUBLE PLUS SIGN ABOVE|DOUBLE PLUS SIGN BELOW|TRIPLE ACUTE ACCENT
1ACC COMBINING LATIN SMALL LETTER INSULAR |G|R|T
1B00 BALINESE |SIGN ULU RICEM|SIGN ULU CANDRA|SIGN CECEK|SIGN SURANG|SIGN BISAH|LETTER AKARA
1B06 BALINESE LETTER |AKARA TEDUNG|IKARA|IKARA TEDUNG|UKARA|UKARA TEDUNG|RA REPA|RA REPA TEDUNG
1B0D BALINESE LETTER |LA LENGA|LA LENGA TEDUNG|EKARA|AIKARA|OKARA|OKARA TEDUNG|KA|KA MAHAPRANA|GA
1B16 BALINESE LETTER |GA GORA|NGA|CA|CA LACA|JA|JA JERA|NYA|TA LATIK|TA MURDA MAHAPRANA
1B1F BALINESE LETTER |DA MURDA ALPAPRANA|DA MURDA MAHAPRANA|NA RAMBAT|TA|TA TAWA|DA|DA MADU|NA|PA
1B28 BALINESE LETTER |PA KAPAL|BA|BA KEMBANG|MA|YA|RA|LA|WA|SA SAGA|SA SAPA|SA|HA
1B34 BALINESE |SIGN REREKAN|VOWEL SIGN TEDUNG|VOWEL SIGN ULU|VOWEL SIGN ULU SARI|VOWEL SIGN SUKU
1B39 BALINESE VOWEL SIGN |SUKU ILUT|RA REPA|RA REPA TEDUNG|LA LENGA|LA LENGA TEDUNG|TALING
1B3F BALINESE VOWEL SIGN |TALING REPA|TALING TEDUNG|TALING REPA TEDUNG|PEPET|PEPET TEDUNG
1B44 BALINESE |ADEG ADEG|LETTER KAF SASAK|LETTER KHOT SASAK|LETTER TZIR SASAK|LETTER EF SASAK
1B49 BALINESE LETTER |VE SASAK|ZAL SASAK|ASYURA SASAK|ARCHAIC JNYA
1B50 BALINESE DIGIT |ZERO|ONE|TWO|THREE|FOUR|FIVE|SIX|SEVEN|EIGHT|NINE
1B5A BALINESE |PANTI|PAMADA|WINDU|CARIK PAMUNGKAH|CARIK SIKI|CARIK PAREREN|PAMENENG
1B61 BALINESE MUSICAL SYMBOL |DONG|DENG|DUNG|DANG|DANG SURANG|DING|DAENG|DEUNG|DAING|DANG GEDE
1B6B BALINESE MUSICAL SYMBOL COMBINING |TEGEH|ENDEP|KEMPUL|KEMPLI|JEGOGAN|KEMPUL WITH JEGOGAN
1B71 BALINESE MUSICAL SYMBOL COMBINING |KEMPLI WITH JEGOGAN|BENDE|GONG
1B74 BALINESE MUSICAL SYMBOL RIGHT-HAND |OPEN DUG|OPEN DAG|CLOSED TUK|CLOSED TAK
1B78 BALINESE MUSICAL SYMBOL LEFT-HAND |OPEN PANG|OPEN PUNG|CLOSED PLAK|CLOSED PLUK|OPEN PING
1B7D BALINESE |PANTI LANTANG|PAMADA LANTANG
1B80 SUNDANESE |SIGN PANYECEK|SIGN PANGLAYAR|SIGN PANGWISAD|LETTER A|LETTER I|LETTER U|LETTER AE
1B87 SUNDANESE LETTER |O|E|EU|KA|QA|GA|NGA|CA|JA|ZA|NYA|TA|DA|NA|PA|FA|VA|BA|MA|YA|RA|LA|WA|SA|XA
1BA0 SUNDANESE |LETTER HA|CONSONANT SIGN PAMINGKAL|CONSONANT SIGN PANYAKRA|CONSONANT SIGN PANYIKU
1BA4 SUNDANESE VOWEL SIGN |PANGHULU|PANYUKU|PANAELAENG|PANOLONG|PAMEPET|PANEULEUNG
1BAA SUNDANESE |SIGN PAMAAEH|SIGN VIRAMA|CONSONANT SIGN PASANGAN MA|CONSONANT SIGN PASANGAN WA
1BAE SUNDANESE |LETTER KHA|LETTER SYA|DIGIT ZERO|DIGIT ONE|DIGIT TWO|DIGIT THREE|DIGIT FOUR
1BB5 SUNDANESE |DIGIT FIVE|DIGIT SIX|DIGIT SEVEN|DIGIT EIGHT|DIGIT NINE|AVAGRAHA|LETTER REU
1BBC SUNDANESE LETTER |LEU|BHA|FINAL K|FINAL M
1BC0 BATAK LETTER |A|SIMALUNGUN A|HA|SIMALUNGUN HA|MANDAILING HA|BA|KARO BA|PA|SIMALUNGUN PA|NA
1BCA BATAK LETTER |MANDAILING NA|WA|SIMALUNGUN WA|PAKPAK WA|GA|SIMALUNGUN GA|JA|DA|RA
1BD3 BATAK LETTER |SIMALUNGUN RA|MA|SIMALUNGUN MA|SOUTHERN TA|NORTHERN TA|SA|SIMALUNGUN SA
1BDA BATAK LETTER |MANDAILING SA|YA|SIMALUNGUN YA|NGA|LA|SIMALUNGUN LA|NYA|CA|NDA|MBA|I|U
1BE6 BATAK |SIGN TOMPI|VOWEL SIGN E|VOWEL SIGN PAKPAK E|VOWEL SIGN EE|VOWEL SIGN I
1BEB BATAK VOWEL SIGN |KARO I|O|KARO O|U|U FOR SIMALUNGUN SA
1BF0 BATAK |CONSONANT SIGN NG|CONSONANT SIGN H|PANGOLAT|PANONGONAN
1BFC BATAK SYMBOL BINDU |NA METEK|PINARBORAS|JUDUL|PANGOLAT
1C00 LEPCHA LETTER |KA|KLA|KHA|GA|GLA|NGA|CA|CHA|JA|NYA|TA|THA|DA|NA|PA|PLA|PHA|FA|FLA|BA|BLA|MA
1C16 LEPCHA LETTER |MLA|TSA|TSHA|DZA|YA|RA|LA|HA|HLA|VA|SA|SHA|WA|A
1C24 LEPCHA |SUBJOINED LETTER YA|SUBJOINED LETTER RA|VOWEL SIGN AA|VOWEL SIGN I|VOWEL SIGN O
1C29 LEPCHA |VOWEL SIGN OO|VOWEL SIGN U|VOWEL SIGN UU|VOWEL SIGN E|CONSONANT SIGN K
1C2E LEPCHA CONSONANT SIGN |M|L|N|P|R|T|NYIN-DO|KANG
1C36 LEPCHA SIGN |RAN|NUKTA
1C3B LEPCHA PUNCTUATION |TA-ROL|NYET THYOOM TA-ROL|CER-WA|TSHOOK CER-WA|TSHOOK
1C40 LEPCHA DIGIT |ZERO|ONE|TWO|THREE|FOUR|FIVE|SIX|SEVEN|EIGHT|NINE
1C4D |LEPCHA LETTER TTA|LEPCHA LETTER TTHA|LEPCHA LETTER DDA|OL CHIKI DIGIT ZERO
1C51 OL CHIKI DIGIT |ONE|TWO|THREE|FOUR|FIVE|SIX|SEVEN|EIGHT|NINE
1C5A OL CHIKI LETTER |LA|AT|AG|ANG|AL|LAA|AAK|AAJ|AAM|AAW|LI|IS|IH|INY|IR|LU|UC|UD|UNN|UY|LE|EP
1C70 OL CHIKI LETTER |EDD|EN|ERR|LO|OTT|OB|OV|OH
1C78 OL CHIKI |MU TTUDDAG|GAAHLAA TTUDDAAG|MU-GAAHLAA TTUDDAAG|RELAA|PHAARKAA|AHAD
1C7E OL CHIKI PUNCTUATION |MUCAAD|DOUBLE MUCAAD
1C80 CYRILLIC SMALL LETTER |ROUNDED VE|LONG-LEGGED DE|NARROW O|WIDE ES|TALL TE|THREE-LEGGED TE
1C86 CYRILLIC SMALL LETTER |TALL HARD SIGN|TALL YAT|UNBLENDED UK
1C90 GEORGIAN MTAVRULI CAPITAL LETTER |AN|BAN|GAN|DON|EN|VIN|ZEN|TAN|IN|KAN|LAS|MAN|NAR|ON|PAR
1C9F GEORGIAN MTAVRULI CAPITAL LETTER |ZHAR|RAE|SAN|TAR|UN|PHAR|KHAR|GHAN|QAR|SHIN|CHIN|CAN|JIL
1CAC GEORGIAN MTAVRULI CAPITAL LETTER |CIL|CHAR|XAN|JHAN|HAE|HE|HIE|WE|HAR|HOE|FI|YN|ELIFI
1CB9 GEORGIAN MTAVRULI CAPITAL LETTER |TURNED GAN|AIN
1CBD GEORGIAN MTAVRULI CAPITAL LETTER |AEN|HARD SIGN|LABIAL SIGN
1CC0 SUNDANESE PUNCTUATION BINDU |SURYA|PANGLONG|PURNAMA|CAKRA|LEU SATANGA|KA SATANGA|DA SATANGA
1CC7 |SUNDANESE PUNCTUATION BINDU BA SATANGA
1CD0 VEDIC |TONE KARSHANA|TONE SHARA|TONE PRENKHA|SIGN NIHSHVASA|SIGN YAJURVEDIC MIDLINE SVARITA
1CD5 VEDIC TONE YAJURVEDIC |AGGRAVATED INDEPENDENT SVARITA|INDEPENDENT SVARITA
1CD7 VEDIC TONE |YAJURVEDIC KATHAKA INDEPENDENT SVARITA|CANDRA BELOW
1CD9 VEDIC TONE |YAJURVEDIC KATHAKA INDEPENDENT SVARITA SCHROEDER|DOUBLE SVARITA|TRIPLE SVARITA
1CDC VEDIC TONE |KATHAKA ANUDATTA|DOT BELOW|TWO DOTS BELOW|THREE DOTS BELOW
1CE0 VEDIC TONE |RIGVEDIC KASHMIRI INDEPENDENT SVARITA|ATHARVAVEDIC INDEPENDENT SVARITA
1CE2 VEDIC SIGN |VISARGA SVARITA|VISARGA UDATTA|REVERSED VISARGA UDATTA|VISARGA ANUDATTA
1CE6 VEDIC SIGN |REVERSED VISARGA ANUDATTA|VISARGA UDATTA WITH TAIL|VISARGA ANUDATTA WITH TAIL
1CE9 VEDIC SIGN ANUSVARA |ANTARGOMUKHA|BAHIRGOMUKHA|VAMAGOMUKHA|VAMAGOMUKHA WITH TAIL
1CED VEDIC SIGN |TIRYAK|HEXIFORM LONG ANUSVARA|LONG ANUSVARA|RTHANG LONG ANUSVARA
1CF1 VEDIC SIGN |ANUSVARA UBHAYATO MUKHA|ARDHAVISARGA|ROTATED ARDHAVISARGA
1CF4 VEDIC |TONE CANDRA ABOVE|SIGN JIHVAMULIYA|SIGN UPADHMANIYA|SIGN ATIKRAMA|TONE RING ABOVE
1CF9 VEDIC |TONE DOUBLE RING ABOVE|SIGN DOUBLE ANUSVARA ANTARGOMUKHA
1D00 LATIN |LETTER SMALL CAPITAL A|LETTER SMALL CAPITAL AE|SMALL LETTER TURNED AE
1D03 LATIN LETTER SMALL CAPITAL |BARRED B|C|D|ETH|E
1D08 LATIN |SMALL LETTER TURNED OPEN E|SMALL LETTER TURNED I|LETTER SMALL CAPITAL J
1D0B LATIN LETTER SMALL CAPITAL |K|L WITH STROKE|M|REVERSED N|O|OPEN O
1D11 LATIN SMALL LETTER |SIDEWAYS O|SIDEWAYS OPEN O|SIDEWAYS O WITH STROKE|TURNED OE
1D15 LATIN |LETTER SMALL CAPITAL OU|SMALL LETTER TOP HALF O|SMALL LETTER BOTTOM HALF O
1D18 LATIN LETTER SMALL CAPITAL |P|REVERSED R|TURNED R|T|U
1D1D LATIN SMALL LETTER SIDEWAYS |U|DIAERESIZED U|TURNED M
1D20 LATIN LETTER SMALL CAPITAL |V|W|Z|EZH
1D24 |LATIN LETTER VOICED LARYNGEAL SPIRANT|LATIN LETTER AIN|GREEK LETTER SMALL CAPITAL GAMMA
1D27 GREEK LETTER SMALL CAPITAL |LAMDA|PI|RHO|PSI
1D2B |CYRILLIC LETTER SMALL CAPITAL EL|MODIFIER LETTER CAPITAL A|MODIFIER LETTER CAPITAL AE
1D2E MODIFIER LETTER CAPITAL |B|BARRED B|D|E|REVERSED E|G|H|I|J|K|L|M|N|REVERSED N|O|OU|P|R|T|U|W
1D43 MODIFIER LETTER SMALL |A|TURNED A|ALPHA|TURNED AE|B|D|E|SCHWA|OPEN E|TURNED OPEN E|G|TURNED I
1D4F MODIFIER LETTER SMALL |K|M|ENG|O|OPEN O|TOP HALF O|BOTTOM HALF O|P|T|U|SIDEWAYS U|TURNED M|V
1D5C MODIFIER LETTER SMALL |AIN|BETA|GREEK GAMMA|DELTA|GREEK PHI|CHI
1D62 LATIN SUBSCRIPT SMALL LETTER |I|R|U|V
1D66 GREEK SUBSCRIPT SMALL LETTER |BETA|GAMMA|RHO|PHI|CHI
1D6B LATIN SMALL LETTER |UE|B WITH MIDDLE TILDE|D WITH MIDDLE TILDE|F WITH MIDDLE TILDE
1D6F LATIN SMALL LETTER |M WITH MIDDLE TILDE|N WITH MIDDLE TILDE|P WITH MIDDLE TILDE
1D72 LATIN SMALL LETTER |R WITH MIDDLE TILDE|R WITH FISHHOOK AND MIDDLE TILDE|S WITH MIDDLE TILDE
1D75 LATIN SMALL LETTER |T WITH MIDDLE TILDE|Z WITH MIDDLE TILDE|TURNED G
1D78 |MODIFIER LETTER CYRILLIC EN|LATIN SMALL LETTER INSULAR G
1D7A LATIN SMALL |LETTER TH WITH STRIKETHROUGH|CAPITAL LETTER I WITH STROKE
1D7C LATIN SMALL |LETTER IOTA WITH STROKE|LETTER P WITH STROKE|CAPITAL LETTER U WITH STROKE
1D7F LATIN SMALL LETTER |UPSILON WITH STROKE|B WITH PALATAL HOOK|D WITH PALATAL HOOK
1D82 LATIN SMALL LETTER |F WITH PALATAL HOOK|G WITH PALATAL HOOK|K WITH PALATAL HOOK
1D85 LATIN SMALL LETTER |L WITH PALATAL HOOK|M WITH PALATAL HOOK|N WITH PALATAL HOOK
1D88 LATIN SMALL LETTER |P WITH PALATAL HOOK|R WITH PALATAL HOOK|S WITH PALATAL HOOK
1D8B LATIN SMALL LETTER |ESH WITH PALATAL HOOK|V WITH PALATAL HOOK|X WITH PALATAL HOOK
1D8E LATIN SMALL LETTER |Z WITH PALATAL HOOK|A WITH RETROFLEX HOOK|ALPHA WITH RETROFLEX HOOK
1D91 LATIN SMALL LETTER |D WITH HOOK AND TAIL|E WITH RETROFLEX HOOK|OPEN E WITH RETROFLEX HOOK
1D94 LATIN SMALL LETTER |REVERSED OPEN E WITH RETROFLEX HOOK|SCHWA WITH RETROFLEX HOOK
1D96 LATIN SMALL LETTER |I WITH RETROFLEX HOOK|OPEN O WITH RETROFLEX HOOK|ESH WITH RETROFLEX HOOK
1D99 LATIN SMALL LETTER |U WITH RETROFLEX HOOK|EZH WITH RETROFLEX HOOK
1D9B MODIFIER LETTER SMALL |TURNED ALPHA|C|C WITH CURL|ETH|REVERSED OPEN E|F|DOTLESS J WITH STROKE
1DA2 MODIFIER LETTER SMALL |SCRIPT G|TURNED H|I WITH STROKE|IOTA|CAPITAL I|CAPITAL I WITH STROKE
1DA8 MODIFIER LETTER SMALL |J WITH CROSSED-TAIL|L WITH RETROFLEX HOOK|L WITH PALATAL HOOK
1DAB MODIFIER LETTER SMALL |CAPITAL L|M WITH HOOK|TURNED M WITH LONG LEG|N WITH LEFT HOOK
1DAF MODIFIER LETTER SMALL |N WITH RETROFLEX HOOK|CAPITAL N|BARRED O|PHI|S WITH HOOK|ESH
1DB5 MODIFIER LETTER SMALL |T WITH PALATAL HOOK|U BAR|UPSILON|CAPITAL U|V WITH HOOK|TURNED V|Z
1DBC MODIFIER LETTER SMALL |Z WITH RETROFLEX HOOK|Z WITH CURL|EZH|THETA
1DC0 COMBINING |DOTTED GRAVE ACCENT|DOTTED ACUTE ACCENT|SNAKE BELOW|SUSPENSION MARK|MACRON-ACUTE
1DC5 COMBINING |GRAVE-MACRON|MACRON-GRAVE|ACUTE-MACRON|GRAVE-ACUTE-GRAVE|ACUTE-GRAVE-ACUTE
1DCA COMBINING |LATIN SMALL LETTER R BELOW|BREVE-MACRON|MACRON-BREVE|DOUBLE CIRCUMFLEX ABOVE
1DCE COMBINING |OGONEK ABOVE|ZIGZAG BELOW|IS BELOW|UR ABOVE|US ABOVE
1DD3 COMBINING LATIN SMALL LETTER |FLATTENED OPEN A ABOVE|AE|AO|AV|C CEDILLA|INSULAR D|ETH|G
1DDB COMBINING LATIN |LETTER SMALL CAPITAL G|SMALL LETTER K|SMALL LETTER L|LETTER SMALL CAPITAL L
1DDF COMBINING LATIN |LETTER SMALL CAPITAL M|SMALL LETTER N|LETTER SMALL CAPITAL N
1DE2 COMBINING LATIN |LETTER SMALL CAPITAL R|SMALL LETTER R ROTUNDA|SMALL LETTER S
1DE5 COMBINING LATIN SMALL LETTER |LONG S|Z|ALPHA|B|BETA|SCHWA|F|L WITH DOUBLE MIDDLE TILDE
1DED COMBINING LATIN SMALL LETTER |O WITH LIGHT CENTRALIZATION STROKE|P|ESH
1DF0 COMBINING LATIN SMALL LETTER |U WITH LIGHT CENTRALIZATION STROKE|W|A WITH DIAERESIS
1DF3 COMBINING LATIN SMALL LETTER |O WITH DIAERESIS|U WITH DIAERESIS
1DF5 COMBINING |UP TACK ABOVE|KAVYKA ABOVE RIGHT|KAVYKA ABOVE LEFT|DOT ABOVE LEFT
1DF9 COMBINING |WIDE INVERTED BRIDGE BELOW|DOT BELOW LEFT|DELETION MARK
1DFC COMBINING |DOUBLE INVERTED BREVE BELOW|ALMOST EQUAL TO BELOW|LEFT ARROWHEAD ABOVE
1DFF |COMBINING RIGHT ARROWHEAD AND DOWN ARROWHEAD BELOW|LATIN CAPITAL LETTER A WITH RING BELOW
1E01 LATIN |SMALL LETTER A WITH RING BELOW|CAPITAL LETTER B WITH DOT ABOVE
1E03 LATIN |SMALL LETTER B WITH DOT ABOVE|CAPITAL LETTER B WITH DOT BELOW
1E05 LATIN |SMALL LETTER B WITH DOT BELOW|CAPITAL LETTER B WITH LINE BELOW
1E07 LATIN |SMALL LETTER B WITH LINE BELOW|CAPITAL LETTER C WITH CEDILLA AND ACUTE
1E09 LATIN |SMALL LETTER C WITH CEDILLA AND ACUTE|CAPITAL LETTER D WITH DOT ABOVE
1E0B LATIN |SMALL LETTER D WITH DOT ABOVE|CAPITAL LETTER D WITH DOT BELOW
1E0D LATIN |SMALL LETTER D WITH DOT BELOW|CAPITAL LETTER D WITH LINE BELOW
1E0F LATIN |SMALL LETTER D WITH LINE BELOW|CAPITAL LETTER D WITH CEDILLA
1E11 LATIN |SMALL LETTER D WITH CEDILLA|CAPITAL LETTER D WITH CIRCUMFLEX BELOW
1E13 LATIN |SMALL LETTER D WITH CIRCUMFLEX BELOW|CAPITAL LETTER E WITH MACRON AND GRAVE
1E15 LATIN |SMALL LETTER E WITH MACRON AND GRAVE|CAPITAL LETTER E WITH MACRON AND ACUTE
1E17 LATIN |SMALL LETTER E WITH MACRON AND ACUTE|CAPITAL LETTER E WITH CIRCUMFLEX BELOW
1E19 LATIN |SMALL LETTER E WITH CIRCUMFLEX BELOW|CAPITAL LETTER E WITH TILDE BELOW
1E1B LATIN |SMALL LETTER E WITH TILDE BELOW|CAPITAL LETTER E WITH CEDILLA AND BREVE
1E1D LATIN |SMALL LETTER E WITH CEDILLA AND BREVE|CAPITAL LETTER F WITH DOT ABOVE
1E1F LATIN |SMALL LETTER F WITH DOT ABOVE|CAPITAL LETTER G WITH MACRON|SMALL LETTER G WITH MACRON
1E22 LATIN |CAPITAL LETTER H WITH DOT ABOVE|SMALL LETTER H WITH DOT ABOVE
1E24 LATIN |CAPITAL LETTER H WITH DOT BELOW|SMALL LETTER H WITH DOT BELOW
1E26 LATIN |CAPITAL LETTER H WITH DIAERESIS|SMALL LETTER H WITH DIAERESIS
1E28 LATIN |CAPITAL LETTER H WITH CEDILLA|SMALL LETTER H WITH CEDILLA
1E2A LATIN |CAPITAL LETTER H WITH BREVE BELOW|SMALL LETTER H WITH BREVE BELOW
1E2C LATIN |CAPITAL LETTER I WITH TILDE BELOW|SMALL LETTER I WITH TILDE BELOW
1E2E LATIN |CAPITAL LETTER I WITH DIAERESIS AND ACUTE|SMALL LETTER I WITH DIAERESIS AND ACUTE
1E30 LATIN |CAPITAL LETTER K WITH ACUTE|SMALL LETTER K WITH ACUTE|CAPITAL LETTER K WITH DOT BELOW
1E33 LATIN |SMALL LETTER K WITH DOT BELOW|CAPITAL LETTER K WITH LINE BELOW
1E35 LATIN |SMALL LETTER K WITH LINE BELOW|CAPITAL LETTER L WITH DOT BELOW
1E37 LATIN |SMALL LETTER L WITH DOT BELOW|CAPITAL LETTER L WITH DOT BELOW AND MACRON
1E39 LATIN |SMALL LETTER L WITH DOT BELOW AND MACRON|CAPITAL LETTER L WITH LINE BELOW
1E3B LATIN |SMALL LETTER L WITH LINE BELOW|CAPITAL LETTER L WITH CIRCUMFLEX BELOW
1E3D LATIN |SMALL LETTER L WITH CIRCUMFLEX BELOW|CAPITAL LETTER M WITH ACUTE
1E3F LATIN |SMALL LETTER M WITH ACUTE|CAPITAL LETTER M WITH DOT ABOVE
1E41 LATIN |SMALL LETTER M WITH DOT ABOVE|CAPITAL LETTER M WITH DOT BELOW
1E43 LATIN |SMALL LETTER M WITH DOT BELOW|CAPITAL LETTER N WITH DOT ABOVE
1E45 LATIN |SMALL LETTER N WITH DOT ABOVE|CAPITAL LETTER N WITH DOT BELOW
1E47 LATIN |SMALL LETTER N WITH DOT BELOW|CAPITAL LETTER N WITH LINE BELOW
1E49 LATIN |SMALL LETTER N WITH LINE BELOW|CAPITAL LETTER N WITH CIRCUMFLEX BELOW
1E4B LATIN |SMALL LETTER N WITH CIRCUMFLEX BELOW|CAPITAL LETTER O WITH TILDE AND ACUTE
1E4D LATIN |SMALL LETTER O WITH TILDE AND ACUTE|CAPITAL LETTER O WITH TILDE AND DIAERESIS
1E4F LATIN |SMALL LETTER O WITH TILDE AND DIAERESIS|CAPITAL LETTER O WITH MACRON AND GRAVE
1E51 LATIN |SMALL LETTER O WITH MACRON AND GRAVE|CAPITAL LETTER O WITH MACRON AND ACUTE
1E53 LATIN |SMALL LETTER O WITH MACRON AND ACUTE|CAPITAL LETTER P WITH ACUTE
1E55 LATIN |SMALL LETTER P WITH ACUTE|CAPITAL LETTER P WITH DOT ABOVE
1E57 LATIN |SMALL LETTER P WITH DOT ABOVE|CAPITAL LETTER R WITH DOT ABOVE
1E59 LATIN |SMALL LETTER R WITH DOT ABOVE|CAPITAL LETTER R WITH DOT BELOW
1E5B LATIN |SMALL LETTER R WITH DOT BELOW|CAPITAL LETTER R WITH DOT BELOW AND MACRON
1E5D LATIN |SMALL LETTER R WITH DOT BELOW AND MACRON|CAPITAL LETTER R WITH LINE BELOW
1E5F LATIN |SMALL LETTER R WITH LINE BELOW|CAPITAL LETTER S WITH DOT ABOVE
1E61 LATIN |SMALL LETTER S WITH DOT ABOVE|CAPITAL LETTER S WITH DOT BELOW
1E63 LATIN |SMALL LETTER S WITH DOT BELOW|CAPITAL LETTER S WITH ACUTE AND DOT ABOVE
1E65 LATIN |SMALL LETTER S WITH ACUTE AND DOT ABOVE|CAPITAL LETTER S WITH CARON AND DOT ABOVE
1E67 LATIN |SMALL LETTER S WITH CARON AND DOT ABOVE|CAPITAL LETTER S WITH DOT BELOW AND DOT ABOVE
1E69 LATIN |SMALL LETTER S WITH DOT BELOW AND DOT ABOVE|CAPITAL LETTER T WITH DOT ABOVE
1E6B LATIN |SMALL LETTER T WITH DOT ABOVE|CAPITAL LETTER T WITH DOT BELOW
1E6D LATIN |SMALL LETTER T WITH DOT BELOW|CAPITAL LETTER T WITH LINE BELOW
1E6F LATIN |SMALL LETTER T WITH LINE BELOW|CAPITAL LETTER T WITH CIRCUMFLEX BELOW
1E71 LATIN |SMALL LETTER T WITH CIRCUMFLEX BELOW|CAPITAL LETTER U WITH DIAERESIS BELOW
1E73 LATIN |SMALL LETTER U WITH DIAERESIS BELOW|CAPITAL LETTER U WITH TILDE BELOW
1E75 LATIN |SMALL LETTER U WITH TILDE BELOW|CAPITAL LETTER U WITH CIRCUMFLEX BELOW
1E77 LATIN |SMALL LETTER U WITH CIRCUMFLEX BELOW|CAPITAL LETTER U WITH TILDE AND ACUTE
1E79 LATIN |SMALL LETTER U WITH TILDE AND ACUTE|CAPITAL LETTER U WITH MACRON AND DIAERESIS
1E7B LATIN |SMALL LETTER U WITH MACRON AND DIAERESIS|CAPITAL LETTER V WITH TILDE
1E7D LATIN |SMALL LETTER V WITH TILDE|CAPITAL LETTER V WITH DOT BELOW
1E7F LATIN |SMALL LETTER V WITH DOT BELOW|CAPITAL LETTER W WITH GRAVE|SMALL LETTER W WITH GRAVE
1E82 LATIN |CAPITAL LETTER W WITH ACUTE|SMALL LETTER W WITH ACUTE|CAPITAL LETTER W WITH DIAERESIS
1E85 LATIN |SMALL LETTER W WITH DIAERESIS|CAPITAL LETTER W WITH DOT ABOVE
1E87 LATIN |SMALL LETTER W WITH DOT ABOVE|CAPITAL LETTER W WITH DOT BELOW
1E89 LATIN |SMALL LETTER W WITH DOT BELOW|CAPITAL LETTER X WITH DOT ABOVE
1E8B LATIN |SMALL LETTER X WITH DOT ABOVE|CAPITAL LETTER X WITH DIAERESIS
1E8D LATIN |SMALL LETTER X WITH DIAERESIS|CAPITAL LETTER Y WITH DOT ABOVE
1E8F LATIN |SMALL LETTER Y WITH DOT ABOVE|CAPITAL LETTER Z WITH CIRCUMFLEX
1E91 LATIN |SMALL LETTER Z WITH CIRCUMFLEX|CAPITAL LETTER Z WITH DOT BELOW
1E93 LATIN |SMALL LETTER Z WITH DOT BELOW|CAPITAL LETTER Z WITH LINE BELOW
1E95 LATIN SMALL LETTER |Z WITH LINE BELOW|H WITH LINE BELOW|T WITH DIAERESIS|W WITH RING ABOVE
1E99 LATIN SMALL LETTER |Y WITH RING ABOVE|A WITH RIGHT HALF RING|LONG S WITH DOT ABOVE
1E9C LATIN SMALL LETTER LONG S WITH |DIAGONAL STROKE|HIGH STROKE
1E9E LATIN |CAPITAL LETTER SHARP S|SMALL LETTER DELTA|CAPITAL LETTER A WITH DOT BELOW
1EA1 LATIN |SMALL LETTER A WITH DOT BELOW|CAPITAL LETTER A WITH HOOK ABOVE
1EA3 LATIN |SMALL LETTER A WITH HOOK ABOVE|CAPITAL LETTER A WITH CIRCUMFLEX AND ACUTE
1EA5 LATIN |SMALL LETTER A WITH CIRCUMFLEX AND ACUTE|CAPITAL LETTER A WITH CIRCUMFLEX AND GRAVE
1EA7 |LATIN SMALL LETTER A WITH CIRCUMFLEX AND GRAVE
1EA8 |LATIN CAPITAL LETTER A WITH CIRCUMFLEX AND HOOK ABOVE
1EA9 |LATIN SMALL LETTER A WITH CIRCUMFLEX AND HOOK ABOVE
1EAA LATIN |CAPITAL LETTER A WITH CIRCUMFLEX AND TILDE|SMALL LETTER A WITH CIRCUMFLEX AND TILDE
1EAC |LATIN CAPITAL LETTER A WITH CIRCUMFLEX AND DOT BELOW
1EAD LATIN |SMALL LETTER A WITH CIRCUMFLEX AND DOT BELOW|CAPITAL LETTER A WITH BREVE AND ACUTE
1EAF LATIN |SMALL LETTER A WITH BREVE AND ACUTE|CAPITAL LETTER A WITH BREVE AND GRAVE
1EB1 LATIN |SMALL LETTER A WITH BREVE AND GRAVE|CAPITAL LETTER A WITH BREVE AND HOOK ABOVE
1EB3 LATIN |SMALL LETTER A WITH BREVE AND HOOK ABOVE|CAPITAL LETTER A WITH BREVE AND TILDE
1EB5 LATIN |SMALL LETTER A WITH BREVE AND TILDE|CAPITAL LETTER A WITH BREVE AND DOT BELOW
1EB7 LATIN |SMALL LETTER A WITH BREVE AND DOT BELOW|CAPITAL LETTER E WITH DOT BELOW
1EB9 LATIN |SMALL LETTER E WITH DOT BELOW|CAPITAL LETTER E WITH HOOK ABOVE
1EBB LATIN |SMALL LETTER E WITH HOOK ABOVE|CAPITAL LETTER E WITH TILDE|SMALL LETTER E WITH TILDE
1EBE LATIN |CAPITAL LETTER E WITH CIRCUMFLEX AND ACUTE|SMALL LETTER E WITH CIRCUMFLEX AND ACUTE
1EC0 LATIN |CAPITAL LETTER E WITH CIRCUMFLEX AND GRAVE|SMALL LETTER E WITH CIRCUMFLEX AND GRAVE
1EC2 |LATIN CAPITAL LETTER E WITH CIRCUMFLEX AND HOOK ABOVE
1EC3 |LATIN SMALL LETTER E WITH CIRCUMFLEX AND HOOK ABOVE
1EC4 LATIN |CAPITAL LETTER E WITH CIRCUMFLEX AND TILDE|SMALL LETTER E WITH CIRCUMFLEX AND TILDE
1EC6 |LATIN CAPITAL LETTER E WITH CIRCUMFLEX AND DOT BELOW
1EC7 LATIN |SMALL LETTER E WITH CIRCUMFLEX AND DOT BELOW|CAPITAL LETTER I WITH HOOK ABOVE
1EC9 LATIN |SMALL LETTER I WITH HOOK ABOVE|CAPITAL LETTER I WITH DOT BELOW
1ECB LATIN |SMALL LETTER I WITH DOT BELOW|CAPITAL LETTER O WITH DOT BELOW
1ECD LATIN |SMALL LETTER O WITH DOT BELOW|CAPITAL LETTER O WITH HOOK ABOVE
1ECF LATIN |SMALL LETTER O WITH HOOK ABOVE|CAPITAL LETTER O WITH CIRCUMFLEX AND ACUTE
1ED1 LATIN |SMALL LETTER O WITH CIRCUMFLEX AND ACUTE|CAPITAL LETTER O WITH CIRCUMFLEX AND GRAVE
1ED3 |LATIN SMALL LETTER O WITH CIRCUMFLEX AND GRAVE
1ED4 |LATIN CAPITAL LETTER O WITH CIRCUMFLEX AND HOOK ABOVE
1ED5 |LATIN SMALL LETTER O WITH CIRCUMFLEX AND HOOK ABOVE
1ED6 LATIN |CAPITAL LETTER O WITH CIRCUMFLEX AND TILDE|SMALL LETTER O WITH CIRCUMFLEX AND TILDE
1ED8 |LATIN CAPITAL LETTER O WITH CIRCUMFLEX AND DOT BELOW
1ED9 LATIN |SMALL LETTER O WITH CIRCUMFLEX AND DOT BELOW|CAPITAL LETTER O WITH HORN AND ACUTE
1EDB LATIN |SMALL LETTER O WITH HORN AND ACUTE|CAPITAL LETTER O WITH HORN AND GRAVE
1EDD LATIN |SMALL LETTER O WITH HORN AND GRAVE|CAPITAL LETTER O WITH HORN AND HOOK ABOVE
1EDF LATIN |SMALL LETTER O WITH HORN AND HOOK ABOVE|CAPITAL LETTER O WITH HORN AND TILDE
1EE1 LATIN |SMALL LETTER O WITH HORN AND TILDE|CAPITAL LETTER O WITH HORN AND DOT BELOW
1EE3 LATIN |SMALL LETTER O WITH HORN AND DOT BELOW|CAPITAL LETTER U WITH DOT BELOW
1EE5 LATIN |SMALL LETTER U WITH DOT BELOW|CAPITAL LETTER U WITH HOOK ABOVE
1EE7 LATIN |SMALL LETTER U WITH HOOK ABOVE|CAPITAL LETTER U WITH HORN AND ACUTE
1EE9 LATIN |SMALL LETTER U WITH HORN AND ACUTE|CAPITAL LETTER U WITH HORN AND GRAVE
1EEB LATIN |SMALL LETTER U WITH HORN AND GRAVE|CAPITAL LETTER U WITH HORN AND HOOK ABOVE
1EED LATIN |SMALL LETTER U WITH HORN AND HOOK ABOVE|CAPITAL LETTER U WITH HORN AND TILDE
1EEF LATIN |SMALL LETTER U WITH HORN AND TILDE|CAPITAL LETTER U WITH HORN AND DOT BELOW
1EF1 LATIN |SMALL LETTER U WITH HORN AND DOT BELOW|CAPITAL LETTER Y WITH GRAVE
1EF3 LATIN |SMALL LETTER Y WITH GRAVE|CAPITAL LETTER Y WITH DOT BELOW
1EF5 LATIN |SMALL LETTER Y WITH DOT BELOW|CAPITAL LETTER Y WITH HOOK ABOVE
1EF7 LATIN |SMALL LETTER Y WITH HOOK ABOVE|CAPITAL LETTER Y WITH TILDE|SMALL LETTER Y WITH TILDE
1EFA LATIN |CAPITAL LETTER MIDDLE-WELSH LL|SMALL LETTER MIDDLE-WELSH LL
1EFC LATIN |CAPITAL LETTER MIDDLE-WELSH V|SMALL LETTER MIDDLE-WELSH V|CAPITAL LETTER Y WITH LOOP
1EFF |LATIN SMALL LETTER Y WITH LOOP|GREEK SMALL LETTER ALPHA WITH PSILI
1F01 GREEK SMALL LETTER ALPHA WITH |DASIA|PSILI AND VARIA|DASIA AND VARIA|PSILI AND OXIA
1F05 GREEK SMALL LETTER ALPHA WITH |DASIA AND OXIA|PSILI AND PERISPOMENI|DASIA AND PERISPOMENI
1F08 GREEK CAPITAL LETTER ALPHA WITH |PSILI|DASIA|PSILI AND VARIA|DASIA AND VARIA|PSILI AND OXIA
1F0D GREEK CAPITAL LETTER ALPHA WITH |DASIA AND OXIA|PSILI AND PERISPOMENI|DASIA AND PERISPOMENI
1F10 GREEK SMALL LETTER EPSILON WITH |PSILI|DASIA|PSILI AND VARIA|DASIA AND VARIA|PSILI AND OXIA
1F15 |GREEK SMALL LETTER EPSILON WITH DASIA AND OXIA
1F18 GREEK CAPITAL LETTER EPSILON WITH |PSILI|DASIA|PSILI AND VARIA|DASIA AND VARIA|PSILI AND OXIA
1F1D |GREEK CAPITAL LETTER EPSILON WITH DASIA AND OXIA
1F20 GREEK SMALL LETTER ETA WITH |PSILI|DASIA|PSILI AND VARIA|DASIA AND VARIA|PSILI AND OXIA
1F25 GREEK SMALL LETTER ETA WITH |DASIA AND OXIA|PSILI AND PERISPOMENI|DASIA AND PERISPOMENI
1F28 GREEK CAPITAL LETTER ETA WITH |PSILI|DASIA|PSILI AND VARIA|DASIA AND VARIA|PSILI AND OXIA
1F2D GREEK CAPITAL LETTER ETA WITH |DASIA AND OXIA|PSILI AND PERISPOMENI|DASIA AND PERISPOMENI
1F30 GREEK SMALL LETTER IOTA WITH |PSILI|DASIA|PSILI AND VARIA|DASIA AND VARIA|PSILI AND OXIA
1F35 GREEK SMALL LETTER IOTA WITH |DASIA AND OXIA|PSILI AND PERISPOMENI|DASIA AND PERISPOMENI
1F38 GREEK CAPITAL LETTER IOTA WITH |PSILI|DASIA|PSILI AND VARIA|DASIA AND VARIA|PSILI AND OXIA
1F3D GREEK CAPITAL LETTER IOTA WITH |DASIA AND OXIA|PSILI AND PERISPOMENI|DASIA AND PERISPOMENI
1F40 GREEK SMALL LETTER OMICRON WITH |PSILI|DASIA|PSILI AND VARIA|DASIA AND VARIA|PSILI AND OXIA
1F45 |GREEK SMALL LETTER OMICRON WITH DASIA AND OXIA
1F48 GREEK CAPITAL LETTER OMICRON WITH |PSILI|DASIA|PSILI AND VARIA|DASIA AND VARIA|PSILI AND OXIA
1F4D |GREEK CAPITAL LETTER OMICRON WITH DASIA AND OXIA
1F50 GREEK SMALL LETTER UPSILON WITH |PSILI|DASIA|PSILI AND VARIA|DASIA AND VARIA|PSILI AND OXIA
1F55 GREEK SMALL LETTER UPSILON WITH |DASIA AND OXIA|PSILI AND PERISPOMENI|DASIA AND PERISPOMENI
1F59 |GREEK CAPITAL LETTER UPSILON WITH DASIA
1F5B |GREEK CAPITAL LETTER UPSILON WITH DASIA AND VARIA
1F5D |GREEK CAPITAL LETTER UPSILON WITH DASIA AND OXIA
1F5F GREEK |CAPITAL LETTER UPSILON WITH DASIA AND PERISPOMENI|SMALL LETTER OMEGA WITH PSILI
1F61 GREEK SMALL LETTER OMEGA WITH |DASIA|PSILI AND VARIA|DASIA AND VARIA|PSILI AND OXIA
1F65 GREEK SMALL LETTER OMEGA WITH |DASIA AND OXIA|PSILI AND PERISPOMENI|DASIA AND PERISPOMENI
1F68 GREEK CAPITAL LETTER OMEGA WITH |PSILI|DASIA|PSILI AND VARIA|DASIA AND VARIA|PSILI AND OXIA
1F6D GREEK CAPITAL LETTER OMEGA WITH |DASIA AND OXIA|PSILI AND PERISPOMENI|DASIA AND PERISPOMENI
1F70 GREEK SMALL LETTER |ALPHA WITH VARIA|ALPHA WITH OXIA|EPSILON WITH VARIA|EPSILON WITH OXIA
1F74 GREEK SMALL LETTER |ETA WITH VARIA|ETA WITH OXIA|IOTA WITH VARIA|IOTA WITH OXIA
1F78 GREEK SMALL LETTER |OMICRON WITH VARIA|OMICRON WITH OXIA|UPSILON WITH VARIA|UPSILON WITH OXIA
1F7C GREEK SMALL LETTER OMEGA WITH |VARIA|OXIA
1F80 GREEK SMALL LETTER ALPHA WITH |PSILI AND YPOGEGRAMMENI|DASIA AND YPOGEGRAMMENI
1F82 |GREEK SMALL LETTER ALPHA WITH PSILI AND VARIA AND YPOGEGRAMMENI
1F83 |GREEK SMALL LETTER ALPHA WITH DASIA AND VARIA AND YPOGEGRAMMENI
1F84 |GREEK SMALL LETTER ALPHA WITH PSILI AND OXIA AND YPOGEGRAMMENI
1F85 |GREEK SMALL LETTER ALPHA WITH DASIA AND OXIA AND YPOGEGRAMMENI
1F86 |GREEK SMALL LETTER ALPHA WITH PSILI AND PERISPOMENI AND YPOGEGRAMMENI
1F87 |GREEK SMALL LETTER ALPHA WITH DASIA AND PERISPOMENI AND YPOGEGRAMMENI
1F88 GREEK CAPITAL LETTER ALPHA WITH |PSILI AND PROSGEGRAMMENI|DASIA AND PROSGEGRAMMENI
1F8A |GREEK CAPITAL LETTER ALPHA WITH PSILI AND VARIA AND PROSGEGRAMMENI
1F8B |GREEK CAPITAL LETTER ALPHA WITH DASIA AND VARIA AND PROSGEGRAMMENI
1F8C |GREEK CAPITAL LETTER ALPHA WITH PSILI AND OXIA AND PROSGEGRAMMENI
1F8D |GREEK CAPITAL LETTER ALPHA WITH DASIA AND OXIA AND PROSGEGRAMMENI
1F8E |GREEK CAPITAL LETTER ALPHA WITH PSILI AND PERISPOMENI AND PROSGEGRAMMENI
1F8F |GREEK CAPITAL LETTER ALPHA WITH DASIA AND PERISPOMENI AND PROSGEGRAMMENI
1F90 GREEK SMALL LETTER ETA WITH |PSILI AND YPOGEGRAMMENI|DASIA AND YPOGEGRAMMENI
1F92 |GREEK SMALL LETTER ETA WITH PSILI AND VARIA AND YPOGEGRAMMENI
1F93 |GREEK SMALL LETTER ETA WITH DASIA AND VARIA AND YPOGEGRAMMENI
1F94 |GREEK SMALL LETTER ETA WITH PSILI AND OXIA AND YPOGEGRAMMENI
1F95 |GREEK SMALL LETTER ETA WITH DASIA AND OXIA AND YPOGEGRAMMENI
1F96 |GREEK SMALL LETTER ETA WITH PSILI AND PERISPOMENI AND YPOGEGRAMMENI
1F97 |GREEK SMALL LETTER ETA WITH DASIA AND PERISPOMENI AND YPOGEGRAMMENI
1F98 GREEK CAPITAL LETTER ETA WITH |PSILI AND PROSGEGRAMMENI|DASIA AND PROSGEGRAMMENI
1F9A |GREEK CAPITAL LETTER ETA WITH PSILI AND VARIA AND PROSGEGRAMMENI
1F9B |GREEK CAPITAL LETTER ETA WITH DASIA AND VARIA AND PROSGEGRAMMENI
1F9C |GREEK CAPITAL LETTER ETA WITH PSILI AND OXIA AND PROSGEGRAMMENI
1F9D |GREEK CAPITAL LETTER ETA WITH DASIA AND OXIA AND PROSGEGRAMMENI
1F9E |GREEK CAPITAL LETTER ETA WITH PSILI AND PERISPOMENI AND PROSGEGRAMMENI
1F9F |GREEK CAPITAL LETTER ETA WITH DASIA AND PERISPOMENI AND PROSGEGRAMMENI
1FA0 GREEK SMALL LETTER OMEGA WITH |PSILI AND YPOGEGRAMMENI|DASIA AND YPOGEGRAMMENI
1FA2 |GREEK SMALL LETTER OMEGA WITH PSILI AND VARIA AND YPOGEGRAMMENI
1FA3 |GREEK SMALL LETTER OMEGA WITH DASIA AND VARIA AND YPOGEGRAMMENI
1FA4 |GREEK SMALL LETTER OMEGA WITH PSILI AND OXIA AND YPOGEGRAMMENI
1FA5 |GREEK SMALL LETTER OMEGA WITH DASIA AND OXIA AND YPOGEGRAMMENI
1FA6 |GREEK SMALL LETTER OMEGA WITH PSILI AND PERISPOMENI AND YPOGEGRAMMENI
1FA7 |GREEK SMALL LETTER OMEGA WITH DASIA AND PERISPOMENI AND YPOGEGRAMMENI
1FA8 GREEK CAPITAL LETTER OMEGA WITH |PSILI AND PROSGEGRAMMENI|DASIA AND PROSGEGRAMMENI
1FAA |GREEK CAPITAL LETTER OMEGA WITH PSILI AND VARIA AND PROSGEGRAMMENI
1FAB |GREEK CAPITAL LETTER OMEGA WITH DASIA AND VARIA AND PROSGEGRAMMENI
1FAC |GREEK CAPITAL LETTER OMEGA WITH PSILI AND OXIA AND PROSGEGRAMMENI
1FAD |GREEK CAPITAL LETTER OMEGA WITH DASIA AND OXIA AND PROSGEGRAMMENI
1FAE |GREEK CAPITAL LETTER OMEGA WITH PSILI AND PERISPOMENI AND PROSGEGRAMMENI
1FAF |GREEK CAPITAL LETTER OMEGA WITH DASIA AND PERISPOMENI AND PROSGEGRAMMENI
1FB0 GREEK SMALL LETTER ALPHA WITH |VRACHY|MACRON|VARIA AND YPOGEGRAMMENI|YPOGEGRAMMENI
1FB4 |GREEK SMALL LETTER ALPHA WITH OXIA AND YPOGEGRAMMENI
1FB6 GREEK SMALL LETTER ALPHA WITH |PERISPOMENI|PERISPOMENI AND YPOGEGRAMMENI
1FB8 GREEK CAPITAL LETTER ALPHA WITH |VRACHY|MACRON|VARIA|OXIA|PROSGEGRAMMENI
1FBD GREEK |KORONIS|PROSGEGRAMMENI|PSILI|PERISPOMENI|DIALYTIKA AND PERISPOMENI
1FC2 GREEK SMALL LETTER ETA WITH |VARIA AND YPOGEGRAMMENI|YPOGEGRAMMENI|OXIA AND YPOGEGRAMMENI
1FC6 GREEK SMALL LETTER ETA WITH |PERISPOMENI|PERISPOMENI AND YPOGEGRAMMENI
1FC8 GREEK CAPITAL LETTER |EPSILON WITH VARIA|EPSILON WITH OXIA|ETA WITH VARIA|ETA WITH OXIA
1FCC GREEK |CAPITAL LETTER ETA WITH PROSGEGRAMMENI|PSILI AND VARIA|PSILI AND OXIA
1FCF GREEK |PSILI AND PERISPOMENI|SMALL LETTER IOTA WITH VRACHY|SMALL LETTER IOTA WITH MACRON
1FD2 GREEK SMALL LETTER IOTA WITH DIALYTIKA AND |VARIA|OXIA
1FD6 GREEK SMALL LETTER IOTA WITH |PERISPOMENI|DIALYTIKA AND PERISPOMENI
1FD8 GREEK CAPITAL LETTER IOTA WITH |VRACHY|MACRON|VARIA|OXIA
1FDD GREEK |DASIA AND VARIA|DASIA AND OXIA|DASIA AND PERISPOMENI|SMALL LETTER UPSILON WITH VRACHY
1FE1 GREEK SMALL LETTER UPSILON WITH |MACRON|DIALYTIKA AND VARIA|DIALYTIKA AND OXIA
1FE4 GREEK SMALL LETTER |RHO WITH PSILI|RHO WITH DASIA|UPSILON WITH PERISPOMENI
1FE7 GREEK |SMALL LETTER UPSILON WITH DIALYTIKA AND PERISPOMENI|CAPITAL LETTER UPSILON WITH VRACHY
1FE9 GREEK CAPITAL LETTER |UPSILON WITH MACRON|UPSILON WITH VARIA|UPSILON WITH OXIA|RHO WITH DASIA
1FED GREEK |DIALYTIKA AND VARIA|DIALYTIKA AND OXIA|VARIA
1FF2 GREEK SMALL LETTER OMEGA WITH |VARIA AND YPOGEGRAMMENI|YPOGEGRAMMENI|OXIA AND YPOGEGRAMMENI
1FF6 GREEK SMALL LETTER OMEGA WITH |PERISPOMENI|PERISPOMENI AND YPOGEGRAMMENI
1FF8 GREEK CAPITAL LETTER |OMICRON WITH VARIA|OMICRON WITH OXIA|OMEGA WITH VARIA|OMEGA WITH OXIA
1FFC GREEK |CAPITAL LETTER OMEGA WITH PROSGEGRAMMENI|OXIA|DASIA"

end BraceScript.Text.CharacterName
