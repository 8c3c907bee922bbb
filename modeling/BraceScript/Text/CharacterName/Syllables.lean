/-!
# Names of syllables, ideographs and presentation forms

The characters from U+3000 to U+FFFF. Every line holds the names of
characters that follow each other: the code point of the first, what the names begin with, and how
each of them goes on.
-/

namespace BraceScript.Text.CharacterName

/-- The names of syllables, ideographs and presentation forms. -/
def syllables : String :=
  "3000 |IDEOGRAPHIC SPACE|IDEOGRAPHIC COMMA|IDEOGRAPHIC FULL STOP|DITTO MARK
3004 |JAPANESE INDUSTRIAL STANDARD SYMBOL|IDEOGRAPHIC ITERATION MARK|IDEOGRAPHIC CLOSING MARK
3007 |IDEOGRAPHIC NUMBER ZERO|LEFT ANGLE BRACKET|RIGHT ANGLE BRACKET|LEFT DOUBLE ANGLE BRACKET
300B |RIGHT DOUBLE ANGLE BRACKET|LEFT CORNER BRACKET|RIGHT CORNER BRACKET
300E |LEFT WHITE CORNER BRACKET|RIGHT WHITE CORNER BRACKET|LEFT BLACK LENTICULAR BRACKET
3011 |RIGHT BLACK LENTICULAR BRACKET|POSTAL MARK|GETA MARK|LEFT TORTOISE SHELL BRACKET
3015 |RIGHT TORTOISE SHELL BRACKET|LEFT WHITE LENTICULAR BRACKET|RIGHT WHITE LENTICULAR BRACKET
3018 |LEFT WHITE TORTOISE SHELL BRACKET|RIGHT WHITE TORTOISE SHELL BRACKET
301A |LEFT WHITE SQUARE BRACKET|RIGHT WHITE SQUARE BRACKET|WAVE DASH
301D |REVERSED DOUBLE PRIME QUOTATION MARK|DOUBLE PRIME QUOTATION MARK
301F |LOW DOUBLE PRIME QUOTATION MARK|POSTAL MARK FACE|HANGZHOU NUMERAL ONE|HANGZHOU NUMERAL TWO
3023 HANGZHOU NUMERAL |THREE|FOUR|FIVE|SIX|SEVEN|EIGHT|NINE
302A IDEOGRAPHIC |LEVEL TONE MARK|RISING TONE MARK|DEPARTING TONE MARK|ENTERING TONE MARK
302E |HANGUL SINGLE DOT TONE MARK|HANGUL DOUBLE DOT TONE MARK|WAVY DASH|VERTICAL KANA REPEAT MARK
3032 VERTICAL KANA REPEAT |WITH VOICED SOUND MARK|MARK UPPER HALF
3034 VERTICAL KANA REPEAT |WITH VOICED SOUND MARK UPPER HALF|MARK LOWER HALF
3036 |CIRCLED POSTAL MARK|IDEOGRAPHIC TELEGRAPH LINE FEED SEPARATOR SYMBOL|HANGZHOU NUMERAL TEN
3039 |HANGZHOU NUMERAL TWENTY|HANGZHOU NUMERAL THIRTY|VERTICAL IDEOGRAPHIC ITERATION MARK
303C |MASU MARK|PART ALTERNATION MARK|IDEOGRAPHIC VARIATION INDICATOR|IDEOGRAPHIC HALF FILL SPACE
3041 HIRAGANA LETTER |SMALL A|A|SMALL I|I|SMALL U|U|SMALL E|E|SMALL O|O|KA|GA|KI|GI|KU|GU|KE|GE|KO
3054 HIRAGANA LETTER |GO|SA|ZA|SI|ZI|SU|ZU|SE|ZE|SO|ZO|TA|DA|TI|DI|SMALL TU|TU|DU|TE|DE|TO|DO|NA
306B HIRAGANA LETTER |NI|NU|NE|NO|HA|BA|PA|HI|BI|PI|HU|BU|PU|HE|BE|PE|HO|BO|PO|MA|MI|MU|ME|MO
3083 HIRAGANA LETTER |SMALL YA|YA|SMALL YU|YU|SMALL YO|YO|RA|RI|RU|RE|RO|SMALL WA|WA|WI|WE|WO|N|VU
3095 HIRAGANA LETTER SMALL |KA|KE
3099 COMBINING KATAKANA-HIRAGANA |VOICED SOUND MARK|SEMI-VOICED SOUND MARK
309B KATAKANA-HIRAGANA |VOICED SOUND MARK|SEMI-VOICED SOUND MARK
309D HIRAGANA |ITERATION MARK|VOICED ITERATION MARK|DIGRAPH YORI
30A0 |KATAKANA-HIRAGANA DOUBLE HYPHEN|KATAKANA LETTER SMALL A|KATAKANA LETTER A
30A3 KATAKANA LETTER |SMALL I|I|SMALL U|U|SMALL E|E|SMALL O|O|KA|GA|KI|GI|KU|GU|KE|GE|KO|GO|SA|ZA
30B7 KATAKANA LETTER |SI|ZI|SU|ZU|SE|ZE|SO|ZO|TA|DA|TI|DI|SMALL TU|TU|DU|TE|DE|TO|DO|NA|NI|NU|NE
30CE KATAKANA LETTER |NO|HA|BA|PA|HI|BI|PI|HU|BU|PU|HE|BE|PE|HO|BO|PO|MA|MI|MU|ME|MO|SMALL YA|YA
30E5 KATAKANA LETTER |SMALL YU|YU|SMALL YO|YO|RA|RI|RU|RE|RO|SMALL WA|WA|WI|WE|WO|N|VU|SMALL KA
30F6 KATAKANA |LETTER SMALL KE|LETTER VA|LETTER VI|LETTER VE|LETTER VO|MIDDLE DOT
30FC |KATAKANA-HIRAGANA PROLONGED SOUND MARK|KATAKANA ITERATION MARK
30FE KATAKANA |VOICED ITERATION MARK|DIGRAPH KOTO
3105 BOPOMOFO LETTER |B|P|M|F|D|T|N|L|G|K|H|J|Q|X|ZH|CH|SH|R|Z|C|S|A|O|E|EH|AI|EI|AU|OU|AN|EN|ANG
3125 BOPOMOFO LETTER |ENG|ER|I|U|IU|V|NG|GN|IH|O WITH DOT ABOVE|NN
3131 HANGUL LETTER |KIYEOK|SSANGKIYEOK|KIYEOK-SIOS|NIEUN|NIEUN-CIEUC|NIEUN-HIEUH|TIKEUT
3138 HANGUL LETTER |SSANGTIKEUT|RIEUL|RIEUL-KIYEOK|RIEUL-MIEUM|RIEUL-PIEUP|RIEUL-SIOS
313E HANGUL LETTER |RIEUL-THIEUTH|RIEUL-PHIEUPH|RIEUL-HIEUH|MIEUM|PIEUP|SSANGPIEUP|PIEUP-SIOS|SIOS
3146 HANGUL LETTER |SSANGSIOS|IEUNG|CIEUC|SSANGCIEUC|CHIEUCH|KHIEUKH|THIEUTH|PHIEUPH|HIEUH|A|AE|YA
3152 HANGUL LETTER |YAE|EO|E|YEO|YE|O|WA|WAE|OE|YO|U|WEO|WE|WI|YU|EU|YI|I
3164 HANGUL |FILLER|LETTER SSANGNIEUN|LETTER NIEUN-TIKEUT|LETTER NIEUN-SIOS|LETTER NIEUN-PANSIOS
3169 HANGUL LETTER |RIEUL-KIYEOK-SIOS|RIEUL-TIKEUT|RIEUL-PIEUP-SIOS|RIEUL-PANSIOS
316D HANGUL LETTER |RIEUL-YEORINHIEUH|MIEUM-PIEUP|MIEUM-SIOS|MIEUM-PANSIOS|KAPYEOUNMIEUM
3172 HANGUL LETTER |PIEUP-KIYEOK|PIEUP-TIKEUT|PIEUP-SIOS-KIYEOK|PIEUP-SIOS-TIKEUT|PIEUP-CIEUC
3177 HANGUL LETTER |PIEUP-THIEUTH|KAPYEOUNPIEUP|KAPYEOUNSSANGPIEUP|SIOS-KIYEOK|SIOS-NIEUN
317C HANGUL LETTER |SIOS-TIKEUT|SIOS-PIEUP|SIOS-CIEUC|PANSIOS|SSANGIEUNG|YESIEUNG|YESIEUNG-SIOS
3183 HANGUL LETTER |YESIEUNG-PANSIOS|KAPYEOUNPHIEUPH|SSANGHIEUH|YEORINHIEUH|YO-YA|YO-YAE|YO-I
318A HANGUL LETTER |YU-YEO|YU-YE|YU-I|ARAEA|ARAEAE
3190 IDEOGRAPHIC ANNOTATION |LINKING MARK|REVERSE MARK|ONE MARK|TWO MARK|THREE MARK|FOUR MARK
3196 IDEOGRAPHIC ANNOTATION |TOP MARK|MIDDLE MARK|BOTTOM MARK|FIRST MARK|SECOND MARK|THIRD MARK
319C IDEOGRAPHIC ANNOTATION |FOURTH MARK|HEAVEN MARK|EARTH MARK|MAN MARK
31A0 BOPOMOFO LETTER |BU|ZI|JI|GU|EE|ENN|OO|ONN|IR|ANN|INN|UNN|IM|NGG|AINN|AUNN|AM|OM|ONG|INNN
31B4 BOPOMOFO |FINAL LETTER P|FINAL LETTER T|FINAL LETTER K|FINAL LETTER H|LETTER GH|LETTER LH
31BA BOPOMOFO |LETTER ZY|FINAL LETTER G|LETTER GW|LETTER KW|LETTER OE|LETTER AH
31C0 CJK STROKE |T|WG|XG|BXG|SW|HZZ|HZG|HP|HZWG|SZWG|HZT|HZZP|HPWG|HZW|HZZZ|N|H|S|P|SP|D|HZ|HG|SZ
31D8 CJK STROKE |SWZ|ST|SG|PD|PZ|TN|SZZ|SWG|HXWG|HZZZG|PG|Q
31F0 KATAKANA LETTER SMALL |KU|SI|SU|TO|NU|HA|HI|HU|HE|HO|MU|RA|RI|RU|RE|RO
3200 PARENTHESIZED HANGUL |KIYEOK|NIEUN|TIKEUT|RIEUL|MIEUM|PIEUP|SIOS|IEUNG|CIEUC|CHIEUCH|KHIEUKH
320B PARENTHESIZED HANGUL |THIEUTH|PHIEUPH|HIEUH|KIYEOK A|NIEUN A|TIKEUT A|RIEUL A|MIEUM A|PIEUP A
3214 PARENTHESIZED HANGUL |SIOS A|IEUNG A|CIEUC A|CHIEUCH A|KHIEUKH A|THIEUTH A|PHIEUPH A|HIEUH A
321C PARENTHESIZED |HANGUL CIEUC U|KOREAN CHARACTER OJEON|KOREAN CHARACTER O HU
3220 PARENTHESIZED IDEOGRAPH |ONE|TWO|THREE|FOUR|FIVE|SIX|SEVEN|EIGHT|NINE|TEN|MOON|FIRE|WATER
322D PARENTHESIZED IDEOGRAPH |WOOD|METAL|EARTH|SUN|STOCK|HAVE|SOCIETY|NAME|SPECIAL|FINANCIAL
3237 PARENTHESIZED IDEOGRAPH |CONGRATULATION|LABOR|REPRESENT|CALL|STUDY|SUPERVISE|ENTERPRISE
323E PARENTHESIZED IDEOGRAPH |RESOURCE|ALLIANCE|FESTIVAL|REST|SELF|REACH
3244 CIRCLED IDEOGRAPH |QUESTION|KINDERGARTEN|SCHOOL|KOTO
3248 CIRCLED NUMBER |TEN ON BLACK SQUARE|TWENTY ON BLACK SQUARE|THIRTY ON BLACK SQUARE
324B CIRCLED NUMBER |FORTY ON BLACK SQUARE|FIFTY ON BLACK SQUARE|SIXTY ON BLACK SQUARE
324E CIRCLED NUMBER |SEVENTY ON BLACK SQUARE|EIGHTY ON BLACK SQUARE
3250 |PARTNERSHIP SIGN|CIRCLED NUMBER TWENTY ONE|CIRCLED NUMBER TWENTY TWO
3253 CIRCLED NUMBER TWENTY |THREE|FOUR|FIVE|SIX|SEVEN|EIGHT|NINE
325A CIRCLED NUMBER |THIRTY|THIRTY ONE|THIRTY TWO|THIRTY THREE|THIRTY FOUR|THIRTY FIVE
3260 CIRCLED HANGUL |KIYEOK|NIEUN|TIKEUT|RIEUL|MIEUM|PIEUP|SIOS|IEUNG|CIEUC|CHIEUCH|KHIEUKH
326B CIRCLED HANGUL |THIEUTH|PHIEUPH|HIEUH|KIYEOK A|NIEUN A|TIKEUT A|RIEUL A|MIEUM A|PIEUP A
3274 CIRCLED HANGUL |SIOS A|IEUNG A|CIEUC A|CHIEUCH A|KHIEUKH A|THIEUTH A|PHIEUPH A|HIEUH A
327C CIRCLED |KOREAN CHARACTER CHAMKO|KOREAN CHARACTER JUEUI|HANGUL IEUNG U
327F |KOREAN STANDARD SYMBOL|CIRCLED IDEOGRAPH ONE|CIRCLED IDEOGRAPH TWO|CIRCLED IDEOGRAPH THREE
3283 CIRCLED IDEOGRAPH |FOUR|FIVE|SIX|SEVEN|EIGHT|NINE|TEN|MOON|FIRE|WATER|WOOD|METAL|EARTH|SUN
3291 CIRCLED IDEOGRAPH |STOCK|HAVE|SOCIETY|NAME|SPECIAL|FINANCIAL|CONGRATULATION|LABOR|SECRET|MALE
329B CIRCLED IDEOGRAPH |FEMALE|SUITABLE|EXCELLENT|PRINT|ATTENTION|ITEM|REST|COPY|CORRECT|HIGH
32A5 CIRCLED IDEOGRAPH |CENTRE|LOW|LEFT|RIGHT|MEDICINE|RELIGION|STUDY|SUPERVISE|ENTERPRISE
32AE CIRCLED |IDEOGRAPH RESOURCE|IDEOGRAPH ALLIANCE|IDEOGRAPH NIGHT|NUMBER THIRTY SIX
32B2 CIRCLED NUMBER |THIRTY SEVEN|THIRTY EIGHT|THIRTY NINE|FORTY|FORTY ONE|FORTY TWO|FORTY THREE
32B9 CIRCLED NUMBER |FORTY FOUR|FORTY FIVE|FORTY SIX|FORTY SEVEN|FORTY EIGHT|FORTY NINE|FIFTY
32C0 IDEOGRAPHIC TELEGRAPH SYMBOL FOR |JANUARY|FEBRUARY|MARCH|APRIL|MAY|JUNE|JULY|AUGUST|SEPTEMBER
32C9 IDEOGRAPHIC TELEGRAPH SYMBOL FOR |OCTOBER|NOVEMBER|DECEMBER
32CC |SQUARE HG|SQUARE ERG|SQUARE EV|LIMITED LIABILITY SIGN|CIRCLED KATAKANA A|CIRCLED KATAKANA I
32D2 CIRCLED KATAKANA |U|E|O|KA|KI|KU|KE|KO|SA|SI|SU|SE|SO|TA|TI|TU|TE|TO|NA|NI|NU|NE|NO|HA|HI|HU
32EC CIRCLED KATAKANA |HE|HO|MA|MI|MU|ME|MO|YA|YU|YO|RA|RI|RU|RE|RO|WA|WI|WE|WO
32FF SQUARE |ERA NAME REIWA|APAATO|ARUHUA|ANPEA|AARU|ININGU|INTI|UON|ESUKUUDO|EEKAA|ONSU|OOMU
330B SQUARE |KAIRI|KARATTO|KARORII|GARON|GANMA|GIGA|GINII|KYURII|GIRUDAA|KIRO|KIROGURAMU
3316 SQUARE |KIROMEETORU|KIROWATTO|GURAMU|GURAMUTON|KURUZEIRO|KUROONE|KEESU|KORUNA|KOOPO|SAIKURU
3320 SQUARE |SANTIIMU|SIRINGU|SENTI|SENTO|DAASU|DESI|DORU|TON|NANO|NOTTO|HAITU|PAASENTO|PAATU
332D SQUARE |BAARERU|PIASUTORU|PIKURU|PIKO|BIRU|HUARADDO|HUIITO|BUSSYERU|HURAN|HEKUTAARU|PESO
3338 SQUARE |PENIHI|HERUTU|PENSU|PEEZI|BEETA|POINTO|BORUTO|HON|PONDO|HOORU|HOON|MAIKURO|MAIRU
3345 SQUARE |MAHHA|MARUKU|MANSYON|MIKURON|MIRI|MIRIBAARU|MEGA|MEGATON|MEETORU|YAADO|YAARU|YUAN
3351 SQUARE |RITTORU|RIRA|RUPII|RUUBURU|REMU|RENTOGEN|WATTO
3358 IDEOGRAPHIC TELEGRAPH SYMBOL FOR HOUR |ZERO|ONE|TWO|THREE|FOUR|FIVE|SIX|SEVEN|EIGHT|NINE|TEN
3363 IDEOGRAPHIC TELEGRAPH SYMBOL FOR HOUR |ELEVEN|TWELVE|THIRTEEN|FOURTEEN|FIFTEEN|SIXTEEN
3369 IDEOGRAPHIC TELEGRAPH SYMBOL FOR HOUR |SEVENTEEN|EIGHTEEN|NINETEEN|TWENTY|TWENTY-ONE
336E IDEOGRAPHIC TELEGRAPH SYMBOL FOR HOUR |TWENTY-TWO|TWENTY-THREE|TWENTY-FOUR
3371 SQUARE |HPA|DA|AU|BAR|OV|PC|DM|DM SQUARED|DM CUBED|IU|ERA NAME HEISEI|ERA NAME SYOUWA
337D SQUARE |ERA NAME TAISYOU|ERA NAME MEIZI|CORPORATION|PA AMPS|NA|MU A|MA|KA|KB|MB|GB|CAL|KCAL
338A SQUARE |PF|NF|MU F|MU G|MG|KG|HZ|KHZ|MHZ|GHZ|THZ|MU L|ML|DL|KL|FM|NM|MU M|MM|CM|KM|MM SQUARED
33A0 SQUARE |CM SQUARED|M SQUARED|KM SQUARED|MM CUBED|CM CUBED|M CUBED|KM CUBED|M OVER S
33A8 SQUARE |M OVER S SQUARED|PA|KPA|MPA|GPA|RAD|RAD OVER S|RAD OVER S SQUARED|PS|NS|MU S|MS|PV|NV
33B6 SQUARE |MU V|MV|KV|MV MEGA|PW|NW|MU W|MW|KW|MW MEGA|K OHM|M OHM|AM|BQ|CC|CD|C OVER KG|CO|DB
33C9 SQUARE |GY|HA|HP|IN|KK|KM CAPITAL|KT|LM|LN|LOG|LX|MB SMALL|MIL|MOL|PH|PM|PPM|PR|SR|SV|WB
33DE |SQUARE V OVER M|SQUARE A OVER M|IDEOGRAPHIC TELEGRAPH SYMBOL FOR DAY ONE
33E1 IDEOGRAPHIC TELEGRAPH SYMBOL FOR DAY |TWO|THREE|FOUR|FIVE|SIX|SEVEN|EIGHT|NINE|TEN|ELEVEN
33EB IDEOGRAPHIC TELEGRAPH SYMBOL FOR DAY |TWELVE|THIRTEEN|FOURTEEN|FIFTEEN|SIXTEEN|SEVENTEEN
33F1 IDEOGRAPHIC TELEGRAPH SYMBOL FOR DAY |EIGHTEEN|NINETEEN|TWENTY|TWENTY-ONE|TWENTY-TWO
33F6 IDEOGRAPHIC TELEGRAPH SYMBOL FOR DAY |TWENTY-THREE|TWENTY-FOUR|TWENTY-FIVE|TWENTY-SIX
33FA IDEOGRAPHIC TELEGRAPH SYMBOL FOR DAY |TWENTY-SEVEN|TWENTY-EIGHT|TWENTY-NINE|THIRTY|THIRTY-ONE
33FF |SQUARE GAL
4DC0 HEXAGRAM FOR |THE CREATIVE HEAVEN|THE RECEPTIVE EARTH|DIFFICULTY AT THE BEGINNING
4DC3 HEXAGRAM FOR |YOUTHFUL FOLLY|WAITING|CONFLICT|THE ARMY|HOLDING TOGETHER|SMALL TAMING|TREADING
4DCA HEXAGRAM FOR |PEACE|STANDSTILL|FELLOWSHIP|GREAT POSSESSION|MODESTY|ENTHUSIASM|FOLLOWING
4DD1 HEXAGRAM FOR |WORK ON THE DECAYED|APPROACH|CONTEMPLATION|BITING THROUGH|GRACE|SPLITTING APART
4DD7 HEXAGRAM FOR |RETURN|INNOCENCE|GREAT TAMING|MOUTH CORNERS|GREAT PREPONDERANCE
4DDC HEXAGRAM FOR |THE ABYSMAL WATER|THE CLINGING FIRE|INFLUENCE|DURATION|RETREAT|GREAT POWER
4DE2 HEXAGRAM FOR |PROGRESS|DARKENING OF THE LIGHT|THE FAMILY|OPPOSITION|OBSTRUCTION|DELIVERANCE
4DE8 HEXAGRAM FOR |DECREASE|INCREASE|BREAKTHROUGH|COMING TO MEET|GATHERING TOGETHER|PUSHING UPWARD
4DEE HEXAGRAM FOR |OPPRESSION|THE WELL|REVOLUTION|THE CAULDRON|THE AROUSING THUNDER
4DF3 HEXAGRAM FOR |THE KEEPING STILL MOUNTAIN|DEVELOPMENT|THE MARRYING MAIDEN|ABUNDANCE
4DF7 HEXAGRAM FOR |THE WANDERER|THE GENTLE WIND|THE JOYOUS LAKE|DISPERSION|LIMITATION|INNER TRUTH
4DFD HEXAGRAM FOR |SMALL PREPONDERANCE|AFTER COMPLETION|BEFORE COMPLETION
A000 YI SYLLABLE |IT|IX|I|IP|IET|IEX|IE|IEP|AT|AX|A|AP|UOX|UO|UOP|OT|OX|O|OP|EX|E|WU|BIT|BIX|BI
A019 YI SYLLABLE |BIP|BIET|BIEX|BIE|BIEP|BAT|BAX|BA|BAP|BUOX|BUO|BUOP|BOT|BOX|BO|BOP|BEX|BE|BEP
A02C YI SYLLABLE |BUT|BUX|BU|BUP|BURX|BUR|BYT|BYX|BY|BYP|BYRX|BYR|PIT|PIX|PI|PIP|PIEX|PIE|PIEP|PAT
A040 YI SYLLABLE |PAX|PA|PAP|PUOX|PUO|PUOP|POT|POX|PO|POP|PUT|PUX|PU|PUP|PURX|PUR|PYT|PYX|PY|PYP
A054 YI SYLLABLE |PYRX|PYR|BBIT|BBIX|BBI|BBIP|BBIET|BBIEX|BBIE|BBIEP|BBAT|BBAX|BBA|BBAP|BBUOX|BBUO
A064 YI SYLLABLE |BBUOP|BBOT|BBOX|BBO|BBOP|BBEX|BBE|BBEP|BBUT|BBUX|BBU|BBUP|BBURX|BBUR|BBYT|BBYX
A074 YI SYLLABLE |BBY|BBYP|NBIT|NBIX|NBI|NBIP|NBIEX|NBIE|NBIEP|NBAT|NBAX|NBA|NBAP|NBOT|NBOX|NBO
A084 YI SYLLABLE |NBOP|NBUT|NBUX|NBU|NBUP|NBURX|NBUR|NBYT|NBYX|NBY|NBYP|NBYRX|NBYR|HMIT|HMIX|HMI
A094 YI SYLLABLE |HMIP|HMIEX|HMIE|HMIEP|HMAT|HMAX|HMA|HMAP|HMUOX|HMUO|HMUOP|HMOT|HMOX|HMO|HMOP
A0A3 YI SYLLABLE |HMUT|HMUX|HMU|HMUP|HMURX|HMUR|HMYX|HMY|HMYP|HMYRX|HMYR|MIT|MIX|MI|MIP|MIEX|MIE
A0B4 YI SYLLABLE |MIEP|MAT|MAX|MA|MAP|MUOT|MUOX|MUO|MUOP|MOT|MOX|MO|MOP|MEX|ME|MUT|MUX|MU|MUP|MURX
A0C8 YI SYLLABLE |MUR|MYT|MYX|MY|MYP|FIT|FIX|FI|FIP|FAT|FAX|FA|FAP|FOX|FO|FOP|FUT|FUX|FU|FUP|FURX
A0DD YI SYLLABLE |FUR|FYT|FYX|FY|FYP|VIT|VIX|VI|VIP|VIET|VIEX|VIE|VIEP|VAT|VAX|VA|VAP|VOT|VOX|VO
A0F1 YI SYLLABLE |VOP|VEX|VEP|VUT|VUX|VU|VUP|VURX|VUR|VYT|VYX|VY|VYP|VYRX|VYR|DIT|DIX|DI|DIP|DIEX
A105 YI SYLLABLE |DIE|DIEP|DAT|DAX|DA|DAP|DUOX|DUO|DOT|DOX|DO|DOP|DEX|DE|DEP|DUT|DUX|DU|DUP|DURX
A119 YI SYLLABLE |DUR|TIT|TIX|TI|TIP|TIEX|TIE|TIEP|TAT|TAX|TA|TAP|TUOT|TUOX|TUO|TUOP|TOT|TOX|TO
A12C YI SYLLABLE |TOP|TEX|TE|TEP|TUT|TUX|TU|TUP|TURX|TUR|DDIT|DDIX|DDI|DDIP|DDIEX|DDIE|DDIEP|DDAT
A13E YI SYLLABLE |DDAX|DDA|DDAP|DDUOX|DDUO|DDUOP|DDOT|DDOX|DDO|DDOP|DDEX|DDE|DDEP|DDUT|DDUX|DDU
A14E YI SYLLABLE |DDUP|DDURX|DDUR|NDIT|NDIX|NDI|NDIP|NDIEX|NDIE|NDAT|NDAX|NDA|NDAP|NDOT|NDOX|NDO
A15E YI SYLLABLE |NDOP|NDEX|NDE|NDEP|NDUT|NDUX|NDU|NDUP|NDURX|NDUR|HNIT|HNIX|HNI|HNIP|HNIET|HNIEX
A16E YI SYLLABLE |HNIE|HNIEP|HNAT|HNAX|HNA|HNAP|HNUOX|HNUO|HNOT|HNOX|HNOP|HNEX|HNE|HNEP|HNUT|NIT
A17E YI SYLLABLE |NIX|NI|NIP|NIEX|NIE|NIEP|NAX|NA|NAP|NUOX|NUO|NUOP|NOT|NOX|NO|NOP|NEX|NE|NEP|NUT
A192 YI SYLLABLE |NUX|NU|NUP|NURX|NUR|HLIT|HLIX|HLI|HLIP|HLIEX|HLIE|HLIEP|HLAT|HLAX|HLA|HLAP|HLUOX
A1A3 YI SYLLABLE |HLUO|HLUOP|HLOX|HLO|HLOP|HLEX|HLE|HLEP|HLUT|HLUX|HLU|HLUP|HLURX|HLUR|HLYT|HLYX
A1B3 YI SYLLABLE |HLY|HLYP|HLYRX|HLYR|LIT|LIX|LI|LIP|LIET|LIEX|LIE|LIEP|LAT|LAX|LA|LAP|LUOT|LUOX
A1C5 YI SYLLABLE |LUO|LUOP|LOT|LOX|LO|LOP|LEX|LE|LEP|LUT|LUX|LU|LUP|LURX|LUR|LYT|LYX|LY|LYP|LYRX
A1D9 YI SYLLABLE |LYR|GIT|GIX|GI|GIP|GIET|GIEX|GIE|GIEP|GAT|GAX|GA|GAP|GUOT|GUOX|GUO|GUOP|GOT|GOX
A1EC YI SYLLABLE |GO|GOP|GET|GEX|GE|GEP|GUT|GUX|GU|GUP|GURX|GUR|KIT|KIX|KI|KIP|KIEX|KIE|KIEP|KAT
A200 YI SYLLABLE |KAX|KA|KAP|KUOX|KUO|KUOP|KOT|KOX|KO|KOP|KET|KEX|KE|KEP|KUT|KUX|KU|KUP|KURX|KUR
A214 YI SYLLABLE |GGIT|GGIX|GGI|GGIEX|GGIE|GGIEP|GGAT|GGAX|GGA|GGAP|GGUOT|GGUOX|GGUO|GGUOP|GGOT
A223 YI SYLLABLE |GGOX|GGO|GGOP|GGET|GGEX|GGE|GGEP|GGUT|GGUX|GGU|GGUP|GGURX|GGUR|MGIEX|MGIE|MGAT
A233 YI SYLLABLE |MGAX|MGA|MGAP|MGUOX|MGUO|MGUOP|MGOT|MGOX|MGO|MGOP|MGEX|MGE|MGEP|MGUT|MGUX|MGU
A243 YI SYLLABLE |MGUP|MGURX|MGUR|HXIT|HXIX|HXI|HXIP|HXIET|HXIEX|HXIE|HXIEP|HXAT|HXAX|HXA|HXAP
A252 YI SYLLABLE |HXUOT|HXUOX|HXUO|HXUOP|HXOT|HXOX|HXO|HXOP|HXEX|HXE|HXEP|NGIEX|NGIE|NGIEP|NGAT
A261 YI SYLLABLE |NGAX|NGA|NGAP|NGUOT|NGUOX|NGUO|NGOT|NGOX|NGO|NGOP|NGEX|NGE|NGEP|HIT|HIEX|HIE|HAT
A272 YI SYLLABLE |HAX|HA|HAP|HUOT|HUOX|HUO|HUOP|HOT|HOX|HO|HOP|HEX|HE|HEP|WAT|WAX|WA|WAP|WUOX|WUO
A286 YI SYLLABLE |WUOP|WOX|WO|WOP|WEX|WE|WEP|ZIT|ZIX|ZI|ZIP|ZIEX|ZIE|ZIEP|ZAT|ZAX|ZA|ZAP|ZUOX|ZUO
A29A YI SYLLABLE |ZUOP|ZOT|ZOX|ZO|ZOP|ZEX|ZE|ZEP|ZUT|ZUX|ZU|ZUP|ZURX|ZUR|ZYT|ZYX|ZY|ZYP|ZYRX|ZYR
A2AE YI SYLLABLE |CIT|CIX|CI|CIP|CIET|CIEX|CIE|CIEP|CAT|CAX|CA|CAP|CUOX|CUO|CUOP|COT|COX|CO|COP
A2C1 YI SYLLABLE |CEX|CE|CEP|CUT|CUX|CU|CUP|CURX|CUR|CYT|CYX|CY|CYP|CYRX|CYR|ZZIT|ZZIX|ZZI|ZZIP
A2D4 YI SYLLABLE |ZZIET|ZZIEX|ZZIE|ZZIEP|ZZAT|ZZAX|ZZA|ZZAP|ZZOX|ZZO|ZZOP|ZZEX|ZZE|ZZEP|ZZUX|ZZU
A2E4 YI SYLLABLE |ZZUP|ZZURX|ZZUR|ZZYT|ZZYX|ZZY|ZZYP|ZZYRX|ZZYR|NZIT|NZIX|NZI|NZIP|NZIEX|NZIE
A2F3 YI SYLLABLE |NZIEP|NZAT|NZAX|NZA|NZAP|NZUOX|NZUO|NZOX|NZOP|NZEX|NZE|NZUX|NZU|NZUP|NZURX|NZUR
A303 YI SYLLABLE |NZYT|NZYX|NZY|NZYP|NZYRX|NZYR|SIT|SIX|SI|SIP|SIEX|SIE|SIEP|SAT|SAX|SA|SAP|SUOX
A315 YI SYLLABLE |SUO|SUOP|SOT|SOX|SO|SOP|SEX|SE|SEP|SUT|SUX|SU|SUP|SURX|SUR|SYT|SYX|SY|SYP|SYRX
A329 YI SYLLABLE |SYR|SSIT|SSIX|SSI|SSIP|SSIEX|SSIE|SSIEP|SSAT|SSAX|SSA|SSAP|SSOT|SSOX|SSO|SSOP
A339 YI SYLLABLE |SSEX|SSE|SSEP|SSUT|SSUX|SSU|SSUP|SSYT|SSYX|SSY|SSYP|SSYRX|SSYR|ZHAT|ZHAX|ZHA
A349 YI SYLLABLE |ZHAP|ZHUOX|ZHUO|ZHUOP|ZHOT|ZHOX|ZHO|ZHOP|ZHET|ZHEX|ZHE|ZHEP|ZHUT|ZHUX|ZHU|ZHUP
A359 YI SYLLABLE |ZHURX|ZHUR|ZHYT|ZHYX|ZHY|ZHYP|ZHYRX|ZHYR|CHAT|CHAX|CHA|CHAP|CHUOT|CHUOX|CHUO
A368 YI SYLLABLE |CHUOP|CHOT|CHOX|CHO|CHOP|CHET|CHEX|CHE|CHEP|CHUX|CHU|CHUP|CHURX|CHUR|CHYT|CHYX
A378 YI SYLLABLE |CHY|CHYP|CHYRX|CHYR|RRAX|RRA|RRUOX|RRUO|RROT|RROX|RRO|RROP|RRET|RREX|RRE|RREP
A388 YI SYLLABLE |RRUT|RRUX|RRU|RRUP|RRURX|RRUR|RRYT|RRYX|RRY|RRYP|RRYRX|RRYR|NRAT|NRAX|NRA|NRAP
A398 YI SYLLABLE |NROX|NRO|NROP|NRET|NREX|NRE|NREP|NRUT|NRUX|NRU|NRUP|NRURX|NRUR|NRYT|NRYX|NRY
A3A8 YI SYLLABLE |NRYP|NRYRX|NRYR|SHAT|SHAX|SHA|SHAP|SHUOX|SHUO|SHUOP|SHOT|SHOX|SHO|SHOP|SHET|SHEX
A3B8 YI SYLLABLE |SHE|SHEP|SHUT|SHUX|SHU|SHUP|SHURX|SHUR|SHYT|SHYX|SHY|SHYP|SHYRX|SHYR|RAT|RAX|RA
A3C9 YI SYLLABLE |RAP|RUOX|RUO|RUOP|ROT|ROX|RO|ROP|REX|RE|REP|RUT|RUX|RU|RUP|RURX|RUR|RYT|RYX|RY
A3DD YI SYLLABLE |RYP|RYRX|RYR|JIT|JIX|JI|JIP|JIET|JIEX|JIE|JIEP|JUOT|JUOX|JUO|JUOP|JOT|JOX|JO|JOP
A3F0 YI SYLLABLE |JUT|JUX|JU|JUP|JURX|JUR|JYT|JYX|JY|JYP|JYRX|JYR|QIT|QIX|QI|QIP|QIET|QIEX|QIE
A403 YI SYLLABLE |QIEP|QUOT|QUOX|QUO|QUOP|QOT|QOX|QO|QOP|QUT|QUX|QU|QUP|QURX|QUR|QYT|QYX|QY|QYP
A416 YI SYLLABLE |QYRX|QYR|JJIT|JJIX|JJI|JJIP|JJIET|JJIEX|JJIE|JJIEP|JJUOX|JJUO|JJUOP|JJOT|JJOX
A425 YI SYLLABLE |JJO|JJOP|JJUT|JJUX|JJU|JJUP|JJURX|JJUR|JJYT|JJYX|JJY|JJYP|NJIT|NJIX|NJI|NJIP
A435 YI SYLLABLE |NJIET|NJIEX|NJIE|NJIEP|NJUOX|NJUO|NJOT|NJOX|NJO|NJOP|NJUX|NJU|NJUP|NJURX|NJUR
A444 YI SYLLABLE |NJYT|NJYX|NJY|NJYP|NJYRX|NJYR|NYIT|NYIX|NYI|NYIP|NYIET|NYIEX|NYIE|NYIEP|NYUOX
A453 YI SYLLABLE |NYUO|NYUOP|NYOT|NYOX|NYO|NYOP|NYUT|NYUX|NYU|NYUP|XIT|XIX|XI|XIP|XIET|XIEX|XIE
A464 YI SYLLABLE |XIEP|XUOX|XUO|XOT|XOX|XO|XOP|XYT|XYX|XY|XYP|XYRX|XYR|YIT|YIX|YI|YIP|YIET|YIEX
A477 YI SYLLABLE |YIE|YIEP|YUOT|YUOX|YUO|YUOP|YOT|YOX|YO|YOP|YUT|YUX|YU|YUP|YURX|YUR|YYT|YYX|YY
A48A YI SYLLABLE |YYP|YYRX|YYR
A490 YI RADICAL |QOT|LI|KIT|NYIP|CYP|SSI|GGOP|GEP|MI|HXIT|LYR|BBUT|MOP|YO|PUT|HXUO|TAT|GA|ZUP|CYT
A4A4 YI RADICAL |DDUR|BUR|GGUO|NYOP|TU|OP|JJUT|ZOT|PYT|HMO|YIT|VUR|SHY|VEP|ZA|JO|NZUP|JJY|GOT|JJIE
A4B8 YI RADICAL |WO|DU|SHUR|LIE|CY|CUOP|CIP|HXOP|SHAT|ZUR|SHOP|CHE|ZZIET|NBIE|KE
A4D0 LISU LETTER |BA|PA|PHA|DA|TA|THA|GA|KA|KHA|JA|CA|CHA|DZA|TSA|TSHA|MA|NA|LA|SA|ZHA|ZA|NGA|HA
A4E7 LISU LETTER |XA|HHA|FA|WA|SHA|YA|GHA|A|AE|E|EU|I|O|U|UE|UH|OE|TONE MYA TI|TONE NA PO
A4FA LISU LETTER TONE MYA |CYA|BO|NA|JEU
A4FE |LISU PUNCTUATION COMMA|LISU PUNCTUATION FULL STOP|VAI SYLLABLE EE|VAI SYLLABLE EEN
A502 VAI SYLLABLE |HEE|WEE|WEEN|PEE|BHEE|BEE|MBEE|KPEE|MGBEE|GBEE|FEE|VEE|TEE|THEE|DHEE|DHHEE|LEE
A513 VAI SYLLABLE |REE|DEE|NDEE|SEE|SHEE|ZEE|ZHEE|CEE|JEE|NJEE|YEE|KEE|NGGEE|GEE|MEE|NEE|NYEE|I|IN
A526 VAI SYLLABLE |HI|HIN|WI|WIN|PI|BHI|BI|MBI|KPI|MGBI|GBI|FI|VI|TI|THI|DHI|DHHI|LI|RI|DI|NDI|SI
A53C VAI SYLLABLE |SHI|ZI|ZHI|CI|JI|NJI|YI|KI|NGGI|GI|MI|NI|NYI|A|AN|NGAN|HA|HAN|WA|WAN|PA|BHA|BA
A553 VAI SYLLABLE |MBA|KPA|KPAN|MGBA|GBA|FA|VA|TA|THA|DHA|DHHA|LA|RA|DA|NDA|SA|SHA|ZA|ZHA|CA|JA
A568 VAI SYLLABLE |NJA|YA|KA|KAN|NGGA|GA|MA|NA|NYA|OO|OON|HOO|WOO|WOON|POO|BHOO|BOO|MBOO|KPOO
A57B VAI SYLLABLE |MGBOO|GBOO|FOO|VOO|TOO|THOO|DHOO|DHHOO|LOO|ROO|DOO|NDOO|SOO|SHOO|ZOO|ZHOO|COO
A58C VAI SYLLABLE |JOO|NJOO|YOO|KOO|NGGOO|GOO|MOO|NOO|NYOO|U|UN|HU|HUN|WU|WUN|PU|BHU|BU|MBU|KPU
A5A0 VAI SYLLABLE |MGBU|GBU|FU|VU|TU|THU|DHU|DHHU|LU|RU|DU|NDU|SU|SHU|ZU|ZHU|CU|JU|NJU|YU|KU|NGGU
A5B6 VAI SYLLABLE |GU|MU|NU|NYU|O|ON|NGON|HO|HON|WO|WON|PO|BHO|BO|MBO|KPO|MGBO|GBO|GBON|FO|VO|TO
A5CC VAI SYLLABLE |THO|DHO|DHHO|LO|RO|DO|NDO|SO|SHO|ZO|ZHO|CO|JO|NJO|YO|KO|NGGO|GO|MO|NO|NYO|E|EN
A5E3 VAI SYLLABLE |NGEN|HE|HEN|WE|WEN|PE|BHE|BE|MBE|KPE|KPEN|MGBE|GBE|GBEN|FE|VE|TE|THE|DHE|DHHE
A5F7 VAI SYLLABLE |LE|RE|DE|NDE|SE|SHE|ZE|ZHE|CE|JE|NJE|YE|KE|NGGE|NGGEN|GE|GEN|ME|NE|NYE|NG
A60C VAI |SYLLABLE LENGTHENER|COMMA|FULL STOP|QUESTION MARK|SYLLABLE NDOLE FA|SYLLABLE NDOLE KA
A612 VAI |SYLLABLE NDOLE SOO|SYMBOL FEENG|SYMBOL KEENG|SYMBOL TING|SYMBOL NII|SYMBOL BANG
A618 VAI SYMBOL |FAA|TAA|DANG|DOONG|KUNG|TONG|DO-O|JONG
A620 VAI DIGIT |ZERO|ONE|TWO|THREE|FOUR|FIVE|SIX|SEVEN|EIGHT|NINE
A62A VAI SYLLABLE NDOLE |MA|DO
A640 CYRILLIC |CAPITAL LETTER ZEMLYA|SMALL LETTER ZEMLYA|CAPITAL LETTER DZELO|SMALL LETTER DZELO
A644 CYRILLIC |CAPITAL LETTER REVERSED DZE|SMALL LETTER REVERSED DZE|CAPITAL LETTER IOTA
A647 CYRILLIC |SMALL LETTER IOTA|CAPITAL LETTER DJERV|SMALL LETTER DJERV
A64A CYRILLIC |CAPITAL LETTER MONOGRAPH UK|SMALL LETTER MONOGRAPH UK|CAPITAL LETTER BROAD OMEGA
A64D CYRILLIC |SMALL LETTER BROAD OMEGA|CAPITAL LETTER NEUTRAL YER|SMALL LETTER NEUTRAL YER
A650 CYRILLIC |CAPITAL LETTER YERU WITH BACK YER|SMALL LETTER YERU WITH BACK YER
A652 CYRILLIC |CAPITAL LETTER IOTIFIED YAT|SMALL LETTER IOTIFIED YAT|CAPITAL LETTER REVERSED YU
A655 CYRILLIC |SMALL LETTER REVERSED YU|CAPITAL LETTER IOTIFIED A|SMALL LETTER IOTIFIED A
A658 CYRILLIC |CAPITAL LETTER CLOSED LITTLE YUS|SMALL LETTER CLOSED LITTLE YUS
A65A CYRILLIC |CAPITAL LETTER BLENDED YUS|SMALL LETTER BLENDED YUS
A65C CYRILLIC |CAPITAL LETTER IOTIFIED CLOSED LITTLE YUS|SMALL LETTER IOTIFIED CLOSED LITTLE YUS
A65E CYRILLIC |CAPITAL LETTER YN|SMALL LETTER YN|CAPITAL LETTER REVERSED TSE
A661 CYRILLIC |SMALL LETTER REVERSED TSE|CAPITAL LETTER SOFT DE|SMALL LETTER SOFT DE
A664 CYRILLIC |CAPITAL LETTER SOFT EL|SMALL LETTER SOFT EL|CAPITAL LETTER SOFT EM
A667 CYRILLIC |SMALL LETTER SOFT EM|CAPITAL LETTER MONOCULAR O|SMALL LETTER MONOCULAR O
A66A CYRILLIC |CAPITAL LETTER BINOCULAR O|SMALL LETTER BINOCULAR O
A66C CYRILLIC |CAPITAL LETTER DOUBLE MONOCULAR O|SMALL LETTER DOUBLE MONOCULAR O
A66E |CYRILLIC LETTER MULTIOCULAR O|COMBINING CYRILLIC VZMET|COMBINING CYRILLIC TEN MILLIONS SIGN
A671 COMBINING CYRILLIC |HUNDRED MILLIONS SIGN|THOUSAND MILLIONS SIGN
A673 |SLAVONIC ASTERISK|COMBINING CYRILLIC LETTER UKRAINIAN IE|COMBINING CYRILLIC LETTER I
A676 COMBINING CYRILLIC LETTER |YI|U|HARD SIGN|YERU|SOFT SIGN|OMEGA
A67C |COMBINING CYRILLIC KAVYKA|COMBINING CYRILLIC PAYEROK|CYRILLIC KAVYKA|CYRILLIC PAYEROK
A680 CYRILLIC |CAPITAL LETTER DWE|SMALL LETTER DWE|CAPITAL LETTER DZWE|SMALL LETTER DZWE
A684 CYRILLIC |CAPITAL LETTER ZHWE|SMALL LETTER ZHWE|CAPITAL LETTER CCHE|SMALL LETTER CCHE
A688 CYRILLIC |CAPITAL LETTER DZZE|SMALL LETTER DZZE|CAPITAL LETTER TE WITH MIDDLE HOOK
A68B CYRILLIC |SMALL LETTER TE WITH MIDDLE HOOK|CAPITAL LETTER TWE|SMALL LETTER TWE
A68E CYRILLIC |CAPITAL LETTER TSWE|SMALL LETTER TSWE|CAPITAL LETTER TSSE|SMALL LETTER TSSE
A692 CYRILLIC |CAPITAL LETTER TCHE|SMALL LETTER TCHE|CAPITAL LETTER HWE|SMALL LETTER HWE
A696 CYRILLIC |CAPITAL LETTER SHWE|SMALL LETTER SHWE|CAPITAL LETTER DOUBLE O|SMALL LETTER DOUBLE O
A69A CYRILLIC |CAPITAL LETTER CROSSED O|SMALL LETTER CROSSED O
A69C MODIFIER LETTER CYRILLIC |HARD SIGN|SOFT SIGN
A69E |COMBINING CYRILLIC LETTER EF|COMBINING CYRILLIC LETTER IOTIFIED E|BAMUM LETTER A
A6A1 BAMUM LETTER |KA|U|KU|EE|REE|TAE|O|NYI|I|LA|PA|RII|RIEE|LEEEE|MEEEE|TAA|NDAA|NJAEM|M|SUU|MU
A6B6 BAMUM LETTER |SHII|SI|SHEUX|SEUX|KYEE|KET|NUAE|NU|NJUAE|YOQ|SHU|YUQ|YA|NSHA|KEUX|PEUX|NJEE
A6C7 BAMUM LETTER |NTEE|PUE|WUE|PEE|FEE|RU|LU|MI|NI|REUX|RAE|KEN|NGKWAEN|NGGA|NGA|SHO|PUAE|FU|FOM
A6DA BAMUM LETTER |WA|NA|LI|PI|LOQ|KO|MBEN|REN|MEN|MA|TI|KI|MO|MBAA|TET|KPA|TEN|NTUU|SAMBA|FAAMAE
A6EE BAMUM |LETTER KOVUU|LETTER KOGHOM|COMBINING MARK KOQNDON|COMBINING MARK TUKWENTIS|NJAEMLI
A6F3 BAMUM |FULL STOP|COLON|COMMA|SEMICOLON|QUESTION MARK
A700 MODIFIER LETTER CHINESE TONE |YIN PING|YANG PING|YIN SHANG|YANG SHANG|YIN QU|YANG QU|YIN RU
A707 MODIFIER LETTER |CHINESE TONE YANG RU|EXTRA-HIGH DOTTED TONE BAR|HIGH DOTTED TONE BAR
A70A MODIFIER LETTER |MID DOTTED TONE BAR|LOW DOTTED TONE BAR|EXTRA-LOW DOTTED TONE BAR
A70D MODIFIER LETTER |EXTRA-HIGH DOTTED LEFT-STEM TONE BAR|HIGH DOTTED LEFT-STEM TONE BAR
A70F MODIFIER LETTER |MID DOTTED LEFT-STEM TONE BAR|LOW DOTTED LEFT-STEM TONE BAR
A711 MODIFIER LETTER |EXTRA-LOW DOTTED LEFT-STEM TONE BAR|EXTRA-HIGH LEFT-STEM TONE BAR
A713 MODIFIER LETTER |HIGH LEFT-STEM TONE BAR|MID LEFT-STEM TONE BAR|LOW LEFT-STEM TONE BAR
A716 MODIFIER LETTER |EXTRA-LOW LEFT-STEM TONE BAR|DOT VERTICAL BAR|DOT SLASH|DOT HORIZONTAL BAR
A71A MODIFIER LETTER |LOWER RIGHT CORNER ANGLE|RAISED UP ARROW|RAISED DOWN ARROW
A71D MODIFIER LETTER RAISED |EXCLAMATION MARK|INVERTED EXCLAMATION MARK
A71F MODIFIER LETTER |LOW INVERTED EXCLAMATION MARK|STRESS AND HIGH TONE|STRESS AND LOW TONE
A722 LATIN |CAPITAL LETTER EGYPTOLOGICAL ALEF|SMALL LETTER EGYPTOLOGICAL ALEF
A724 LATIN |CAPITAL LETTER EGYPTOLOGICAL AIN|SMALL LETTER EGYPTOLOGICAL AIN|CAPITAL LETTER HENG
A727 LATIN |SMALL LETTER HENG|CAPITAL LETTER TZ|SMALL LETTER TZ|CAPITAL LETTER TRESILLO
A72B LATIN |SMALL LETTER TRESILLO|CAPITAL LETTER CUATRILLO|SMALL LETTER CUATRILLO
A72E LATIN |CAPITAL LETTER CUATRILLO WITH COMMA|SMALL LETTER CUATRILLO WITH COMMA
A730 LATIN |LETTER SMALL CAPITAL F|LETTER SMALL CAPITAL S|CAPITAL LETTER AA|SMALL LETTER AA
A734 LATIN |CAPITAL LETTER AO|SMALL LETTER AO|CAPITAL LETTER AU|SMALL LETTER AU|CAPITAL LETTER AV
A739 LATIN |SMALL LETTER AV|CAPITAL LETTER AV WITH HORIZONTAL BAR
A73B LATIN |SMALL LETTER AV WITH HORIZONTAL BAR|CAPITAL LETTER AY|SMALL LETTER AY
A73E LATIN |CAPITAL LETTER REVERSED C WITH DOT|SMALL LETTER REVERSED C WITH DOT
A740 LATIN |CAPITAL LETTER K WITH STROKE|SMALL LETTER K WITH STROKE
A742 LATIN |CAPITAL LETTER K WITH DIAGONAL STROKE|SMALL LETTER K WITH DIAGONAL STROKE
A744 |LATIN CAPITAL LETTER K WITH STROKE AND DIAGONAL STROKE
A745 LATIN |SMALL LETTER K WITH STROKE AND DIAGONAL STROKE|CAPITAL LETTER BROKEN L
A747 LATIN |SMALL LETTER BROKEN L|CAPITAL LETTER L WITH HIGH STROKE
A749 LATIN |SMALL LETTER L WITH HIGH STROKE|CAPITAL LETTER O WITH LONG STROKE OVERLAY
A74B LATIN |SMALL LETTER O WITH LONG STROKE OVERLAY|CAPITAL LETTER O WITH LOOP
A74D LATIN |SMALL LETTER O WITH LOOP|CAPITAL LETTER OO|SMALL LETTER OO
A750 |LATIN CAPITAL LETTER P WITH STROKE THROUGH DESCENDER
A751 LATIN |SMALL LETTER P WITH STROKE THROUGH DESCENDER|CAPITAL LETTER P WITH FLOURISH
A753 LATIN |SMALL LETTER P WITH FLOURISH|CAPITAL LETTER P WITH SQUIRREL TAIL
A755 LATIN |SMALL LETTER P WITH SQUIRREL TAIL|CAPITAL LETTER Q WITH STROKE THROUGH DESCENDER
A757 LATIN |SMALL LETTER Q WITH STROKE THROUGH DESCENDER|CAPITAL LETTER Q WITH DIAGONAL STROKE
A759 LATIN |SMALL LETTER Q WITH DIAGONAL STROKE|CAPITAL LETTER R ROTUNDA|SMALL LETTER R ROTUNDA
A75C LATIN |CAPITAL LETTER RUM ROTUNDA|SMALL LETTER RUM ROTUNDA
A75E LATIN |CAPITAL LETTER V WITH DIAGONAL STROKE|SMALL LETTER V WITH DIAGONAL STROKE
A760 LATIN |CAPITAL LETTER VY|SMALL LETTER VY|CAPITAL LETTER VISIGOTHIC Z
A763 LATIN |SMALL LETTER VISIGOTHIC Z|CAPITAL LETTER THORN WITH STROKE
A765 LATIN |SMALL LETTER THORN WITH STROKE|CAPITAL LETTER THORN WITH STROKE THROUGH DESCENDER
A767 LATIN |SMALL LETTER THORN WITH STROKE THROUGH DESCENDER|CAPITAL LETTER VEND|SMALL LETTER VEND
A76A LATIN |CAPITAL LETTER ET|SMALL LETTER ET|CAPITAL LETTER IS|SMALL LETTER IS|CAPITAL LETTER CON
A76F |LATIN SMALL LETTER CON|MODIFIER LETTER US|LATIN SMALL LETTER DUM|LATIN SMALL LETTER LUM
A773 LATIN |SMALL LETTER MUM|SMALL LETTER NUM|SMALL LETTER RUM|LETTER SMALL CAPITAL RUM
A777 LATIN |SMALL LETTER TUM|SMALL LETTER UM|CAPITAL LETTER INSULAR D|SMALL LETTER INSULAR D
A77B LATIN |CAPITAL LETTER INSULAR F|SMALL LETTER INSULAR F|CAPITAL LETTER INSULAR G
A77E LATIN |CAPITAL LETTER TURNED INSULAR G|SMALL LETTER TURNED INSULAR G|CAPITAL LETTER TURNED L
A781 LATIN |SMALL LETTER TURNED L|CAPITAL LETTER INSULAR R|SMALL LETTER INSULAR R
A784 LATIN |CAPITAL LETTER INSULAR S|SMALL LETTER INSULAR S|CAPITAL LETTER INSULAR T
A787 |LATIN SMALL LETTER INSULAR T|MODIFIER LETTER LOW CIRCUMFLEX ACCENT|MODIFIER LETTER COLON
A78A |MODIFIER LETTER SHORT EQUALS SIGN|LATIN CAPITAL LETTER SALTILLO|LATIN SMALL LETTER SALTILLO
A78D LATIN |CAPITAL LETTER TURNED H|SMALL LETTER L WITH RETROFLEX HOOK AND BELT
A78F LATIN |LETTER SINOLOGICAL DOT|CAPITAL LETTER N WITH DESCENDER|SMALL LETTER N WITH DESCENDER
A792 LATIN |CAPITAL LETTER C WITH BAR|SMALL LETTER C WITH BAR|SMALL LETTER C WITH PALATAL HOOK
A795 LATIN |SMALL LETTER H WITH PALATAL HOOK|CAPITAL LETTER B WITH FLOURISH
A797 LATIN |SMALL LETTER B WITH FLOURISH|CAPITAL LETTER F WITH STROKE|SMALL LETTER F WITH STROKE
A79A LATIN |CAPITAL LETTER VOLAPUK AE|SMALL LETTER VOLAPUK AE|CAPITAL LETTER VOLAPUK OE
A79D LATIN |SMALL LETTER VOLAPUK OE|CAPITAL LETTER VOLAPUK UE|SMALL LETTER VOLAPUK UE
A7A0 LATIN |CAPITAL LETTER G WITH OBLIQUE STROKE|SMALL LETTER G WITH OBLIQUE STROKE
A7A2 LATIN |CAPITAL LETTER K WITH OBLIQUE STROKE|SMALL LETTER K WITH OBLIQUE STROKE
A7A4 LATIN |CAPITAL LETTER N WITH OBLIQUE STROKE|SMALL LETTER N WITH OBLIQUE STROKE
A7A6 LATIN |CAPITAL LETTER R WITH OBLIQUE STROKE|SMALL LETTER R WITH OBLIQUE STROKE
A7A8 LATIN |CAPITAL LETTER S WITH OBLIQUE STROKE|SMALL LETTER S WITH OBLIQUE STROKE
A7AA LATIN CAPITAL LETTER |H WITH HOOK|REVERSED OPEN E|SCRIPT G|L WITH BELT|SMALL CAPITAL I
A7AF LATIN |LETTER SMALL CAPITAL Q|CAPITAL LETTER TURNED K|CAPITAL LETTER TURNED T
A7B2 LATIN CAPITAL LETTER |J WITH CROSSED-TAIL|CHI|BETA
A7B5 LATIN |SMALL LETTER BETA|CAPITAL LETTER OMEGA|SMALL LETTER OMEGA|CAPITAL LETTER U WITH STROKE
A7B9 LATIN |SMALL LETTER U WITH STROKE|CAPITAL LETTER GLOTTAL A|SMALL LETTER GLOTTAL A
A7BC LATIN |CAPITAL LETTER GLOTTAL I|SMALL LETTER GLOTTAL I|CAPITAL LETTER GLOTTAL U
A7BF LATIN |SMALL LETTER GLOTTAL U|CAPITAL LETTER OLD POLISH O|SMALL LETTER OLD POLISH O
A7C2 LATIN |CAPITAL LETTER ANGLICANA W|SMALL LETTER ANGLICANA W|CAPITAL LETTER C WITH PALATAL HOOK
A7C5 LATIN CAPITAL LETTER |S WITH HOOK|Z WITH PALATAL HOOK|D WITH SHORT STROKE OVERLAY
A7C8 LATIN |SMALL LETTER D WITH SHORT STROKE OVERLAY|CAPITAL LETTER S WITH SHORT STROKE OVERLAY
A7CA |LATIN SMALL LETTER S WITH SHORT STROKE OVERLAY
A7D0 LATIN |CAPITAL LETTER CLOSED INSULAR G|SMALL LETTER CLOSED INSULAR G
A7D3 |LATIN SMALL LETTER DOUBLE THORN
A7D5 LATIN |SMALL LETTER DOUBLE WYNN|CAPITAL LETTER MIDDLE SCOTS S|SMALL LETTER MIDDLE SCOTS S
A7D8 LATIN |CAPITAL LETTER SIGMOID S|SMALL LETTER SIGMOID S
A7F2 MODIFIER LETTER CAPITAL |C|F|Q
A7F5 LATIN |CAPITAL LETTER REVERSED HALF H|SMALL LETTER REVERSED HALF H
A7F7 |LATIN EPIGRAPHIC LETTER SIDEWAYS I|MODIFIER LETTER CAPITAL H WITH STROKE
A7F9 |MODIFIER LETTER SMALL LIGATURE OE|LATIN LETTER SMALL CAPITAL TURNED M
A7FB LATIN EPIGRAPHIC LETTER |REVERSED F|REVERSED P|INVERTED M|I LONGA|ARCHAIC M
A800 SYLOTI NAGRI |LETTER A|LETTER I|SIGN DVISVARA|LETTER U|LETTER E|LETTER O|SIGN HASANTA
A807 SYLOTI NAGRI |LETTER KO|LETTER KHO|LETTER GO|LETTER GHO|SIGN ANUSVARA|LETTER CO|LETTER CHO
A80E SYLOTI NAGRI LETTER |JO|JHO|TTO|TTHO|DDO|DDHO|TO|THO|DO|DHO|NO|PO|PHO|BO|BHO|MO|RO|LO|RRO|SO
A822 SYLOTI NAGRI |LETTER HO|VOWEL SIGN A|VOWEL SIGN I|VOWEL SIGN U|VOWEL SIGN E|VOWEL SIGN OO
A828 SYLOTI NAGRI |POETRY MARK-1|POETRY MARK-2|POETRY MARK-3|POETRY MARK-4|SIGN ALTERNATE HASANTA
A830 NORTH INDIC FRACTION |ONE QUARTER|ONE HALF|THREE QUARTERS|ONE SIXTEENTH|ONE EIGHTH
A835 NORTH INDIC |FRACTION THREE SIXTEENTHS|QUARTER MARK|PLACEHOLDER MARK|RUPEE MARK|QUANTITY MARK
A840 PHAGS-PA LETTER |KA|KHA|GA|NGA|CA|CHA|JA|NYA|TA|THA|DA|NA|PA|PHA|BA|MA|TSA|TSHA|DZA|WA|ZHA|ZA
A856 PHAGS-PA LETTER |SMALL A|YA|RA|LA|SHA|SA|HA|A|I|U|E|O|QA|XA|FA|GGA|EE
A867 PHAGS-PA |SUBJOINED LETTER WA|SUBJOINED LETTER YA|LETTER TTA|LETTER TTHA|LETTER DDA
A86C PHAGS-PA LETTER |NNA|ALTERNATE YA|VOICELESS SHA|VOICED HA|ASPIRATED FA
A871 PHAGS-PA |SUBJOINED LETTER RA|SUPERFIXED LETTER RA|LETTER CANDRABINDU|SINGLE HEAD MARK
A875 PHAGS-PA |DOUBLE HEAD MARK|MARK SHAD|MARK DOUBLE SHAD
A880 SAURASHTRA |SIGN ANUSVARA|SIGN VISARGA|LETTER A|LETTER AA|LETTER I|LETTER II|LETTER U
A887 SAURASHTRA LETTER |UU|VOCALIC R|VOCALIC RR|VOCALIC L|VOCALIC LL|E|EE|AI|O|OO|AU|KA|KHA|GA|GHA
A896 SAURASHTRA LETTER |NGA|CA|CHA|JA|JHA|NYA|TTA|TTHA|DDA|DDHA|NNA|TA|THA|DA|DHA|NA|PA|PHA|BA|BHA
A8AA SAURASHTRA LETTER |MA|YA|RA|LA|VA|SHA|SSA|SA|HA|LLA
A8B4 SAURASHTRA |CONSONANT SIGN HAARU|VOWEL SIGN AA|VOWEL SIGN I|VOWEL SIGN II|VOWEL SIGN U
A8B9 SAURASHTRA VOWEL SIGN |UU|VOCALIC R|VOCALIC RR|VOCALIC L|VOCALIC LL|E|EE|AI|O|OO|AU
A8C4 SAURASHTRA SIGN |VIRAMA|CANDRABINDU
A8CE SAURASHTRA |DANDA|DOUBLE DANDA|DIGIT ZERO|DIGIT ONE|DIGIT TWO|DIGIT THREE|DIGIT FOUR
A8D5 SAURASHTRA DIGIT |FIVE|SIX|SEVEN|EIGHT|NINE
A8E0 COMBINING DEVANAGARI DIGIT |ZERO|ONE|TWO|THREE|FOUR|FIVE|SIX|SEVEN|EIGHT|NINE
A8EA COMBINING DEVANAGARI LETTER |A|U|KA|NA|PA|RA|VI
A8F1 |COMBINING DEVANAGARI SIGN AVAGRAHA|DEVANAGARI SIGN SPACING CANDRABINDU
A8F3 DEVANAGARI SIGN |CANDRABINDU VIRAMA|DOUBLE CANDRABINDU VIRAMA|CANDRABINDU TWO
A8F6 DEVANAGARI |SIGN CANDRABINDU THREE|SIGN CANDRABINDU AVAGRAHA|SIGN PUSHPIKA|GAP FILLER|CARET
A8FB DEVANAGARI |HEADSTROKE|SIGN SIDDHAM|JAIN OM|LETTER AY|VOWEL SIGN AY
A900 KAYAH LI DIGIT |ZERO|ONE|TWO|THREE|FOUR|FIVE|SIX|SEVEN|EIGHT|NINE
A90A KAYAH LI LETTER |KA|KHA|GA|NGA|SA|SHA|ZA|NYA|TA|HTA|NA|PA|PHA|MA|DA|BA|RA|YA|LA|WA|THA|HA|VA
A921 KAYAH LI |LETTER CA|LETTER A|LETTER OE|LETTER I|LETTER OO|VOWEL UE|VOWEL E|VOWEL U|VOWEL EE
A92A KAYAH LI |VOWEL O|TONE PLOPHU|TONE CALYA|TONE CALYA PLOPHU|SIGN CWI|SIGN SHYA
A930 REJANG LETTER |KA|GA|NGA|TA|DA|NA|PA|BA|MA|CA|JA|NYA|SA|RA|LA|YA|WA|HA|MBA|NGGA|NDA|NYJA|A
A947 REJANG VOWEL SIGN |I|U|E|AI|O|AU|EU|EA
A94F REJANG |CONSONANT SIGN NG|CONSONANT SIGN N|CONSONANT SIGN R|CONSONANT SIGN H|VIRAMA
A95F |REJANG SECTION MARK|HANGUL CHOSEONG TIKEUT-MIEUM|HANGUL CHOSEONG TIKEUT-PIEUP
A962 HANGUL CHOSEONG |TIKEUT-SIOS|TIKEUT-CIEUC|RIEUL-KIYEOK|RIEUL-SSANGKIYEOK|RIEUL-TIKEUT
A967 HANGUL CHOSEONG |RIEUL-SSANGTIKEUT|RIEUL-MIEUM|RIEUL-PIEUP|RIEUL-SSANGPIEUP
A96B HANGUL CHOSEONG |RIEUL-KAPYEOUNPIEUP|RIEUL-SIOS|RIEUL-CIEUC|RIEUL-KHIEUKH|MIEUM-KIYEOK
A970 HANGUL CHOSEONG |MIEUM-TIKEUT|MIEUM-SIOS|PIEUP-SIOS-THIEUTH|PIEUP-KHIEUKH|PIEUP-HIEUH
A975 HANGUL CHOSEONG |SSANGSIOS-PIEUP|IEUNG-RIEUL|IEUNG-HIEUH|SSANGCIEUC-HIEUH|SSANGTHIEUTH
A97A HANGUL CHOSEONG |PHIEUPH-HIEUH|HIEUH-SIOS|SSANGYEORINHIEUH
A980 JAVANESE |SIGN PANYANGGA|SIGN CECAK|SIGN LAYAR|SIGN WIGNYAN|LETTER A|LETTER I KAWI|LETTER I
A987 JAVANESE LETTER |II|U|PA CEREK|NGA LELET|NGA LELET RASWADI|E|AI|O|KA|KA SASAK|KA MURDA|GA
A993 JAVANESE LETTER |GA MURDA|NGA|CA|CA MURDA|JA|NYA MURDA|JA MAHAPRANA|NYA|TTA|TTA MAHAPRANA|DDA
A99E JAVANESE LETTER |DDA MAHAPRANA|NA MURDA|TA|TA MURDA|DA|DA MAHAPRANA|NA|PA|PA MURDA|BA
A9A8 JAVANESE LETTER |BA MURDA|MA|YA|RA|RA AGUNG|LA|WA|SA MURDA|SA MAHAPRANA|SA|HA
A9B3 JAVANESE |SIGN CECAK TELU|VOWEL SIGN TARUNG|VOWEL SIGN TOLONG|VOWEL SIGN WULU
A9B7 JAVANESE VOWEL SIGN |WULU MELIK|SUKU|SUKU MENDUT|TALING|DIRGA MURE|PEPET
A9BD JAVANESE |CONSONANT SIGN KERET|CONSONANT SIGN PENGKAL|CONSONANT SIGN CAKRA|PANGKON
A9C1 JAVANESE |LEFT RERENGGAN|RIGHT RERENGGAN|PADA ANDAP|PADA MADYA|PADA LUHUR|PADA WINDU
A9C7 JAVANESE PADA |PANGKAT|LINGSA|LUNGSI|ADEG|ADEG ADEG|PISELEH
A9CD |JAVANESE TURNED PADA PISELEH
A9CF JAVANESE |PANGRANGKEP|DIGIT ZERO|DIGIT ONE|DIGIT TWO|DIGIT THREE|DIGIT FOUR|DIGIT FIVE
A9D6 JAVANESE DIGIT |SIX|SEVEN|EIGHT|NINE
A9DE |JAVANESE PADA TIRTA TUMETES|JAVANESE PADA ISEN-ISEN|MYANMAR LETTER SHAN GHA
A9E1 MYANMAR |LETTER SHAN CHA|LETTER SHAN JHA|LETTER SHAN NNA|LETTER SHAN BHA|SIGN SHAN SAW
A9E6 MYANMAR |MODIFIER LETTER SHAN REDUPLICATION|LETTER TAI LAING NYA|LETTER TAI LAING FA
A9E9 MYANMAR LETTER TAI LAING |GA|GHA|JA|JHA|DDA|DDHA|NNA
A9F0 MYANMAR TAI LAING DIGIT |ZERO|ONE|TWO|THREE|FOUR|FIVE|SIX|SEVEN|EIGHT|NINE
A9FA MYANMAR LETTER TAI LAING |LLA|DA|DHA|BA|BHA
AA00 CHAM LETTER |A|I|U|E|AI|O|KA|KHA|GA|GHA|NGUE|NGA|CHA|CHHA|JA|JHA|NHUE|NHA|NHJA|TA|THA|DA|DHA
AA17 CHAM LETTER |NUE|NA|DDA|PA|PPA|PHA|BA|BHA|MUE|MA|BBA|YA|RA|LA|VA|SSA|SA|HA
AA29 CHAM VOWEL SIGN |AA|I|II|EI|U|OE|O|AI|AU|UE
AA33 CHAM CONSONANT SIGN |YA|RA|LA|WA
AA40 CHAM |LETTER FINAL K|LETTER FINAL G|LETTER FINAL NG|CONSONANT SIGN FINAL NG|LETTER FINAL CH
AA45 CHAM LETTER FINAL |T|N|P|Y|R|L|SS
AA4C CHAM CONSONANT SIGN FINAL |M|H
AA50 CHAM DIGIT |ZERO|ONE|TWO|THREE|FOUR|FIVE|SIX|SEVEN|EIGHT|NINE
AA5C CHAM PUNCTUATION |SPIRAL|DANDA|DOUBLE DANDA|TRIPLE DANDA
AA60 MYANMAR LETTER KHAMTI |GA|CA|CHA|JA|JHA|NYA|TTA|TTHA|DDA|DDHA|DHA|NA|SA|HA|HHA|FA
AA70 MYANMAR |MODIFIER LETTER KHAMTI REDUPLICATION|LETTER KHAMTI XA|LETTER KHAMTI ZA
AA73 MYANMAR |LETTER KHAMTI RA|LOGOGRAM KHAMTI OAY|LOGOGRAM KHAMTI QN|LOGOGRAM KHAMTI HM
AA77 MYANMAR |SYMBOL AITON EXCLAMATION|SYMBOL AITON ONE|SYMBOL AITON TWO|LETTER AITON RA
AA7B MYANMAR SIGN |PAO KAREN TONE|TAI LAING TONE-2|TAI LAING TONE-5
AA7E |MYANMAR LETTER SHWE PALAUNG CHA|MYANMAR LETTER SHWE PALAUNG SHA|TAI VIET LETTER LOW KO
AA81 TAI VIET LETTER |HIGH KO|LOW KHO|HIGH KHO|LOW KHHO|HIGH KHHO|LOW GO|HIGH GO|LOW NGO|HIGH NGO
AA8A TAI VIET LETTER |LOW CO|HIGH CO|LOW CHO|HIGH CHO|LOW SO|HIGH SO|LOW NYO|HIGH NYO|LOW DO
AA93 TAI VIET LETTER |HIGH DO|LOW TO|HIGH TO|LOW THO|HIGH THO|LOW NO|HIGH NO|LOW BO|HIGH BO|LOW PO
AA9D TAI VIET LETTER |HIGH PO|LOW PHO|HIGH PHO|LOW FO|HIGH FO|LOW MO|HIGH MO|LOW YO|HIGH YO|LOW RO
AAA7 TAI VIET LETTER |HIGH RO|LOW LO|HIGH LO|LOW VO|HIGH VO|LOW HO|HIGH HO|LOW O|HIGH O
AAB0 TAI VIET |MAI KANG|VOWEL AA|VOWEL I|VOWEL UE|VOWEL U|VOWEL E|VOWEL O|MAI KHIT|VOWEL IA
AAB9 TAI VIET |VOWEL UEA|VOWEL UA|VOWEL AUE|VOWEL AY|VOWEL AN|VOWEL AM|TONE MAI EK|TONE MAI NUENG
AAC1 TAI VIET TONE MAI |THO|SONG
AADB TAI VIET SYMBOL |KON|NUENG|SAM|HO HOI|KOI KOI
AAE0 MEETEI MAYEK LETTER |E|O|CHA|NYA|TTA|TTHA|DDA|DDHA|NNA|SHA|SSA
AAEB MEETEI MAYEK VOWEL SIGN |II|UU|AAI|AU|AAU
AAF0 MEETEI MAYEK |CHEIKHAN|AHANG KHUDAM|ANJI|SYLLABLE REPETITION MARK|WORD REPETITION MARK
AAF5 MEETEI MAYEK |VOWEL SIGN VISARGA|VIRAMA
AB01 ETHIOPIC SYLLABLE |TTHU|TTHI|TTHAA|TTHEE|TTHE|TTHO
AB09 ETHIOPIC SYLLABLE |DDHU|DDHI|DDHAA|DDHEE|DDHE|DDHO
AB11 ETHIOPIC SYLLABLE |DZU|DZI|DZAA|DZEE|DZE|DZO
AB20 ETHIOPIC SYLLABLE |CCHHA|CCHHU|CCHHI|CCHHAA|CCHHEE|CCHHE|CCHHO
AB28 ETHIOPIC SYLLABLE |BBA|BBU|BBI|BBAA|BBEE|BBE|BBO
AB30 LATIN SMALL LETTER |BARRED ALPHA|A REVERSED-SCHWA|BLACKLETTER E|BARRED E|E WITH FLOURISH
AB35 LATIN SMALL LETTER |LENIS F|SCRIPT G WITH CROSSED-TAIL|L WITH INVERTED LAZY S
AB38 LATIN SMALL LETTER |L WITH DOUBLE MIDDLE TILDE|L WITH MIDDLE RING|M WITH CROSSED-TAIL
AB3B LATIN SMALL LETTER |N WITH CROSSED-TAIL|ENG WITH CROSSED-TAIL|BLACKLETTER O
AB3E LATIN SMALL LETTER |BLACKLETTER O WITH STROKE|OPEN O WITH STROKE|INVERTED OE
AB41 LATIN SMALL LETTER TURNED |OE WITH STROKE|OE WITH HORIZONTAL STROKE|O OPEN-O
AB44 LATIN SMALL LETTER |TURNED O OPEN-O WITH STROKE|STIRRUP R
AB46 LATIN |LETTER SMALL CAPITAL R WITH RIGHT LEG|SMALL LETTER R WITHOUT HANDLE
AB48 LATIN SMALL LETTER |DOUBLE R|R WITH CROSSED-TAIL|DOUBLE R WITH CROSSED-TAIL|SCRIPT R
AB4C LATIN SMALL LETTER |SCRIPT R WITH RING|BASELINE ESH|U WITH SHORT RIGHT LEG
AB4F LATIN SMALL LETTER |U BAR WITH SHORT RIGHT LEG|UI|TURNED UI|U WITH LEFT HOOK|CHI
AB54 LATIN SMALL LETTER |CHI WITH LOW RIGHT RING|CHI WITH LOW LEFT SERIF|X WITH LOW RIGHT RING
AB57 LATIN SMALL LETTER X WITH LONG LEFT |LEG|LEG AND LOW RIGHT RING|LEG WITH SERIF
AB5A |LATIN SMALL LETTER Y WITH SHORT RIGHT LEG|MODIFIER BREVE WITH INVERTED BREVE
AB5C MODIFIER LETTER SMALL |HENG|L WITH INVERTED LAZY S|L WITH MIDDLE TILDE|U WITH LEFT HOOK
AB60 LATIN SMALL LETTER |SAKHA YAT|IOTIFIED E|OPEN OE|UO|INVERTED ALPHA
AB65 |GREEK LETTER SMALL CAPITAL OMEGA|LATIN SMALL LETTER DZ DIGRAPH WITH RETROFLEX HOOK
AB67 LATIN SMALL LETTER |TS DIGRAPH WITH RETROFLEX HOOK|TURNED R WITH MIDDLE TILDE
AB69 MODIFIER LETTER |SMALL TURNED W|LEFT TACK|RIGHT TACK
AB70 CHEROKEE SMALL LETTER |A|E|I|O|U|V|GA|KA|GE|GI|GO|GU|GV|HA|HE|HI|HO|HU|HV|LA|LE|LI|LO|LU|LV
AB89 CHEROKEE SMALL LETTER |MA|ME|MI|MO|MU|NA|HNA|NAH|NE|NI|NO|NU|NV|QUA|QUE|QUI|QUO|QUU|QUV|SA|S
AB9E CHEROKEE SMALL LETTER |SE|SI|SO|SU|SV|DA|TA|DE|TE|DI|TI|DO|DU|DV|DLA|TLA|TLE|TLI|TLO|TLU|TLV
ABB3 CHEROKEE SMALL LETTER |TSA|TSE|TSI|TSO|TSU|TSV|WA|WE|WI|WO|WU|WV|YA
ABC0 MEETEI MAYEK LETTER |KOK|SAM|LAI|MIT|PA|NA|CHIL|TIL|KHOU|NGOU|THOU|WAI|YANG|HUK|UN|I|PHAM
ABD1 MEETEI MAYEK LETTER |ATIYA|GOK|JHAM|RAI|BA|JIL|DIL|GHOU|DHOU|BHAM|KOK LONSUM|LAI LONSUM
ABDD MEETEI MAYEK LETTER |MIT LONSUM|PA LONSUM|NA LONSUM|TIL LONSUM|NGOU LONSUM|I LONSUM
ABE3 MEETEI MAYEK VOWEL SIGN |ONAP|INAP|ANAP|YENAP|SOUNAP|UNAP|CHEINAP|NUNG
ABEB MEETEI MAYEK |CHEIKHEI|LUM IYEK|APUN IYEK
ABF0 MEETEI MAYEK DIGIT |ZERO|ONE|TWO|THREE|FOUR|FIVE|SIX|SEVEN|EIGHT|NINE
D7B0 HANGUL JUNGSEONG |O-YEO|O-O-I|YO-A|YO-AE|YO-EO|U-YEO|U-I-I|YU-AE|YU-O|EU-A|EU-EO|EU-E|EU-O
D7BD HANGUL JUNGSEONG |I-YA-O|I-YAE|I-YEO|I-YE|I-O-I|I-YO|I-YU|I-I|ARAEA-A|ARAEA-E
D7CB HANGUL JONGSEONG |NIEUN-RIEUL|NIEUN-CHIEUCH|SSANGTIKEUT|SSANGTIKEUT-PIEUP|TIKEUT-PIEUP
D7D0 HANGUL JONGSEONG |TIKEUT-SIOS|TIKEUT-SIOS-KIYEOK|TIKEUT-CIEUC|TIKEUT-CHIEUCH|TIKEUT-THIEUTH
D7D5 HANGUL JONGSEONG |RIEUL-SSANGKIYEOK|RIEUL-KIYEOK-HIEUH|SSANGRIEUL-KHIEUKH|RIEUL-MIEUM-HIEUH
D7D9 HANGUL JONGSEONG |RIEUL-PIEUP-TIKEUT|RIEUL-PIEUP-PHIEUPH|RIEUL-YESIEUNG
D7DC HANGUL JONGSEONG |RIEUL-YEORINHIEUH-HIEUH|KAPYEOUNRIEUL|MIEUM-NIEUN|MIEUM-SSANGNIEUN
D7E0 HANGUL JONGSEONG |SSANGMIEUM|MIEUM-PIEUP-SIOS|MIEUM-CIEUC|PIEUP-TIKEUT|PIEUP-RIEUL-PHIEUPH
D7E5 HANGUL JONGSEONG |PIEUP-MIEUM|SSANGPIEUP|PIEUP-SIOS-TIKEUT|PIEUP-CIEUC|PIEUP-CHIEUCH
D7EA HANGUL JONGSEONG |SIOS-MIEUM|SIOS-KAPYEOUNPIEUP|SSANGSIOS-KIYEOK|SSANGSIOS-TIKEUT
D7EE HANGUL JONGSEONG |SIOS-PANSIOS|SIOS-CIEUC|SIOS-CHIEUCH|SIOS-THIEUTH|SIOS-HIEUH|PANSIOS-PIEUP
D7F4 HANGUL JONGSEONG |PANSIOS-KAPYEOUNPIEUP|YESIEUNG-MIEUM|YESIEUNG-HIEUH|CIEUC-PIEUP
D7F8 HANGUL JONGSEONG |CIEUC-SSANGPIEUP|SSANGCIEUC|PHIEUPH-SIOS|PHIEUPH-THIEUTH
F900 CJK COMPATIBILITY |IDEOGRAPH-F900|IDEOGRAPH-F901|IDEOGRAPH-F902|IDEOGRAPH-F903|IDEOGRAPH-F904
F905 CJK COMPATIBILITY |IDEOGRAPH-F905|IDEOGRAPH-F906|IDEOGRAPH-F907|IDEOGRAPH-F908|IDEOGRAPH-F909
F90A CJK COMPATIBILITY |IDEOGRAPH-F90A|IDEOGRAPH-F90B|IDEOGRAPH-F90C|IDEOGRAPH-F90D|IDEOGRAPH-F90E
F90F CJK COMPATIBILITY |IDEOGRAPH-F90F|IDEOGRAPH-F910|IDEOGRAPH-F911|IDEOGRAPH-F912|IDEOGRAPH-F913
F914 CJK COMPATIBILITY |IDEOGRAPH-F914|IDEOGRAPH-F915|IDEOGRAPH-F916|IDEOGRAPH-F917|IDEOGRAPH-F918
F919 CJK COMPATIBILITY |IDEOGRAPH-F919|IDEOGRAPH-F91A|IDEOGRAPH-F91B|IDEOGRAPH-F91C|IDEOGRAPH-F91D
F91E CJK COMPATIBILITY |IDEOGRAPH-F91E|IDEOGRAPH-F91F|IDEOGRAPH-F920|IDEOGRAPH-F921|IDEOGRAPH-F922
F923 CJK COMPATIBILITY |IDEOGRAPH-F923|IDEOGRAPH-F924|IDEOGRAPH-F925|IDEOGRAPH-F926|IDEOGRAPH-F927
F928 CJK COMPATIBILITY |IDEOGRAPH-F928|IDEOGRAPH-F929|IDEOGRAPH-F92A|IDEOGRAPH-F92B|IDEOGRAPH-F92C
F92D CJK COMPATIBILITY |IDEOGRAPH-F92D|IDEOGRAPH-F92E|IDEOGRAPH-F92F|IDEOGRAPH-F930|IDEOGRAPH-F931
F932 CJK COMPATIBILITY |IDEOGRAPH-F932|IDEOGRAPH-F933|IDEOGRAPH-F934|IDEOGRAPH-F935|IDEOGRAPH-F936
F937 CJK COMPATIBILITY |IDEOGRAPH-F937|IDEOGRAPH-F938|IDEOGRAPH-F939|IDEOGRAPH-F93A|IDEOGRAPH-F93B
F93C CJK COMPATIBILITY |IDEOGRAPH-F93C|IDEOGRAPH-F93D|IDEOGRAPH-F93E|IDEOGRAPH-F93F|IDEOGRAPH-F940
F941 CJK COMPATIBILITY |IDEOGRAPH-F941|IDEOGRAPH-F942|IDEOGRAPH-F943|IDEOGRAPH-F944|IDEOGRAPH-F945
F946 CJK COMPATIBILITY |IDEOGRAPH-F946|IDEOGRAPH-F947|IDEOGRAPH-F948|IDEOGRAPH-F949|IDEOGRAPH-F94A
F94B CJK COMPATIBILITY |IDEOGRAPH-F94B|IDEOGRAPH-F94C|IDEOGRAPH-F94D|IDEOGRAPH-F94E|IDEOGRAPH-F94F
F950 CJK COMPATIBILITY |IDEOGRAPH-F950|IDEOGRAPH-F951|IDEOGRAPH-F952|IDEOGRAPH-F953|IDEOGRAPH-F954
F955 CJK COMPATIBILITY |IDEOGRAPH-F955|IDEOGRAPH-F956|IDEOGRAPH-F957|IDEOGRAPH-F958|IDEOGRAPH-F959
F95A CJK COMPATIBILITY |IDEOGRAPH-F95A|IDEOGRAPH-F95B|IDEOGRAPH-F95C|IDEOGRAPH-F95D|IDEOGRAPH-F95E
F95F CJK COMPATIBILITY |IDEOGRAPH-F95F|IDEOGRAPH-F960|IDEOGRAPH-F961|IDEOGRAPH-F962|IDEOGRAPH-F963
F964 CJK COMPATIBILITY |IDEOGRAPH-F964|IDEOGRAPH-F965|IDEOGRAPH-F966|IDEOGRAPH-F967|IDEOGRAPH-F968
F969 CJK COMPATIBILITY |IDEOGRAPH-F969|IDEOGRAPH-F96A|IDEOGRAPH-F96B|IDEOGRAPH-F96C|IDEOGRAPH-F96D
F96E CJK COMPATIBILITY |IDEOGRAPH-F96E|IDEOGRAPH-F96F|IDEOGRAPH-F970|IDEOGRAPH-F971|IDEOGRAPH-F972
F973 CJK COMPATIBILITY |IDEOGRAPH-F973|IDEOGRAPH-F974|IDEOGRAPH-F975|IDEOGRAPH-F976|IDEOGRAPH-F977
F978 CJK COMPATIBILITY |IDEOGRAPH-F978|IDEOGRAPH-F979|IDEOGRAPH-F97A|IDEOGRAPH-F97B|IDEOGRAPH-F97C
F97D CJK COMPATIBILITY |IDEOGRAPH-F97D|IDEOGRAPH-F97E|IDEOGRAPH-F97F|IDEOGRAPH-F980|IDEOGRAPH-F981
F982 CJK COMPATIBILITY |IDEOGRAPH-F982|IDEOGRAPH-F983|IDEOGRAPH-F984|IDEOGRAPH-F985|IDEOGRAPH-F986
F987 CJK COMPATIBILITY |IDEOGRAPH-F987|IDEOGRAPH-F988|IDEOGRAPH-F989|IDEOGRAPH-F98A|IDEOGRAPH-F98B
F98C CJK COMPATIBILITY |IDEOGRAPH-F98C|IDEOGRAPH-F98D|IDEOGRAPH-F98E|IDEOGRAPH-F98F|IDEOGRAPH-F990
F991 CJK COMPATIBILITY |IDEOGRAPH-F991|IDEOGRAPH-F992|IDEOGRAPH-F993|IDEOGRAPH-F994|IDEOGRAPH-F995
F996 CJK COMPATIBILITY |IDEOGRAPH-F996|IDEOGRAPH-F997|IDEOGRAPH-F998|IDEOGRAPH-F999|IDEOGRAPH-F99A
F99B CJK COMPATIBILITY |IDEOGRAPH-F99B|IDEOGRAPH-F99C|IDEOGRAPH-F99D|IDEOGRAPH-F99E|IDEOGRAPH-F99F
F9A0 CJK COMPATIBILITY |IDEOGRAPH-F9A0|IDEOGRAPH-F9A1|IDEOGRAPH-F9A2|IDEOGRAPH-F9A3|IDEOGRAPH-F9A4
F9A5 CJK COMPATIBILITY |IDEOGRAPH-F9A5|IDEOGRAPH-F9A6|IDEOGRAPH-F9A7|IDEOGRAPH-F9A8|IDEOGRAPH-F9A9
F9AA CJK COMPATIBILITY |IDEOGRAPH-F9AA|IDEOGRAPH-F9AB|IDEOGRAPH-F9AC|IDEOGRAPH-F9AD|IDEOGRAPH-F9AE
F9AF CJK COMPATIBILITY |IDEOGRAPH-F9AF|IDEOGRAPH-F9B0|IDEOGRAPH-F9B1|IDEOGRAPH-F9B2|IDEOGRAPH-F9B3
F9B4 CJK COMPATIBILITY |IDEOGRAPH-F9B4|IDEOGRAPH-F9B5|IDEOGRAPH-F9B6|IDEOGRAPH-F9B7|IDEOGRAPH-F9B8
F9B9 CJK COMPATIBILITY |IDEOGRAPH-F9B9|IDEOGRAPH-F9BA|IDEOGRAPH-F9BB|IDEOGRAPH-F9BC|IDEOGRAPH-F9BD
F9BE CJK COMPATIBILITY |IDEOGRAPH-F9BE|IDEOGRAPH-F9BF|IDEOGRAPH-F9C0|IDEOGRAPH-F9C1|IDEOGRAPH-F9C2
F9C3 CJK COMPATIBILITY |IDEOGRAPH-F9C3|IDEOGRAPH-F9C4|IDEOGRAPH-F9C5|IDEOGRAPH-F9C6|IDEOGRAPH-F9C7
F9C8 CJK COMPATIBILITY |IDEOGRAPH-F9C8|IDEOGRAPH-F9C9|IDEOGRAPH-F9CA|IDEOGRAPH-F9CB|IDEOGRAPH-F9CC
F9CD CJK COMPATIBILITY |IDEOGRAPH-F9CD|IDEOGRAPH-F9CE|IDEOGRAPH-F9CF|IDEOGRAPH-F9D0|IDEOGRAPH-F9D1
F9D2 CJK COMPATIBILITY |IDEOGRAPH-F9D2|IDEOGRAPH-F9D3|IDEOGRAPH-F9D4|IDEOGRAPH-F9D5|IDEOGRAPH-F9D6
F9D7 CJK COMPATIBILITY |IDEOGRAPH-F9D7|IDEOGRAPH-F9D8|IDEOGRAPH-F9D9|IDEOGRAPH-F9DA|IDEOGRAPH-F9DB
F9DC CJK COMPATIBILITY |IDEOGRAPH-F9DC|IDEOGRAPH-F9DD|IDEOGRAPH-F9DE|IDEOGRAPH-F9DF|IDEOGRAPH-F9E0
F9E1 CJK COMPATIBILITY |IDEOGRAPH-F9E1|IDEOGRAPH-F9E2|IDEOGRAPH-F9E3|IDEOGRAPH-F9E4|IDEOGRAPH-F9E5
F9E6 CJK COMPATIBILITY |IDEOGRAPH-F9E6|IDEOGRAPH-F9E7|IDEOGRAPH-F9E8|IDEOGRAPH-F9E9|IDEOGRAPH-F9EA
F9EB CJK COMPATIBILITY |IDEOGRAPH-F9EB|IDEOGRAPH-F9EC|IDEOGRAPH-F9ED|IDEOGRAPH-F9EE|IDEOGRAPH-F9EF
F9F0 CJK COMPATIBILITY |IDEOGRAPH-F9F0|IDEOGRAPH-F9F1|IDEOGRAPH-F9F2|IDEOGRAPH-F9F3|IDEOGRAPH-F9F4
F9F5 CJK COMPATIBILITY |IDEOGRAPH-F9F5|IDEOGRAPH-F9F6|IDEOGRAPH-F9F7|IDEOGRAPH-F9F8|IDEOGRAPH-F9F9
F9FA CJK COMPATIBILITY |IDEOGRAPH-F9FA|IDEOGRAPH-F9FB|IDEOGRAPH-F9FC|IDEOGRAPH-F9FD|IDEOGRAPH-F9FE
F9FF CJK COMPATIBILITY |IDEOGRAPH-F9FF|IDEOGRAPH-FA00|IDEOGRAPH-FA01|IDEOGRAPH-FA02|IDEOGRAPH-FA03
FA04 CJK COMPATIBILITY |IDEOGRAPH-FA04|IDEOGRAPH-FA05|IDEOGRAPH-FA06|IDEOGRAPH-FA07|IDEOGRAPH-FA08
FA09 CJK COMPATIBILITY |IDEOGRAPH-FA09|IDEOGRAPH-FA0A|IDEOGRAPH-FA0B|IDEOGRAPH-FA0C|IDEOGRAPH-FA0D
FA0E CJK COMPATIBILITY |IDEOGRAPH-FA0E|IDEOGRAPH-FA0F|IDEOGRAPH-FA10|IDEOGRAPH-FA11|IDEOGRAPH-FA12
FA13 CJK COMPATIBILITY |IDEOGRAPH-FA13|IDEOGRAPH-FA14|IDEOGRAPH-FA15|IDEOGRAPH-FA16|IDEOGRAPH-FA17
FA18 CJK COMPATIBILITY |IDEOGRAPH-FA18|IDEOGRAPH-FA19|IDEOGRAPH-FA1A|IDEOGRAPH-FA1B|IDEOGRAPH-FA1C
FA1D CJK COMPATIBILITY |IDEOGRAPH-FA1D|IDEOGRAPH-FA1E|IDEOGRAPH-FA1F|IDEOGRAPH-FA20|IDEOGRAPH-FA21
FA22 CJK COMPATIBILITY |IDEOGRAPH-FA22|IDEOGRAPH-FA23|IDEOGRAPH-FA24|IDEOGRAPH-FA25|IDEOGRAPH-FA26
FA27 CJK COMPATIBILITY |IDEOGRAPH-FA27|IDEOGRAPH-FA28|IDEOGRAPH-FA29|IDEOGRAPH-FA2A|IDEOGRAPH-FA2B
FA2C CJK COMPATIBILITY |IDEOGRAPH-FA2C|IDEOGRAPH-FA2D|IDEOGRAPH-FA2E|IDEOGRAPH-FA2F|IDEOGRAPH-FA30
FA31 CJK COMPATIBILITY |IDEOGRAPH-FA31|IDEOGRAPH-FA32|IDEOGRAPH-FA33|IDEOGRAPH-FA34|IDEOGRAPH-FA35
FA36 CJK COMPATIBILITY |IDEOGRAPH-FA36|IDEOGRAPH-FA37|IDEOGRAPH-FA38|IDEOGRAPH-FA39|IDEOGRAPH-FA3A
FA3B CJK COMPATIBILITY |IDEOGRAPH-FA3B|IDEOGRAPH-FA3C|IDEOGRAPH-FA3D|IDEOGRAPH-FA3E|IDEOGRAPH-FA3F
FA40 CJK COMPATIBILITY |IDEOGRAPH-FA40|IDEOGRAPH-FA41|IDEOGRAPH-FA42|IDEOGRAPH-FA43|IDEOGRAPH-FA44
FA45 CJK COMPATIBILITY |IDEOGRAPH-FA45|IDEOGRAPH-FA46|IDEOGRAPH-FA47|IDEOGRAPH-FA48|IDEOGRAPH-FA49
FA4A CJK COMPATIBILITY |IDEOGRAPH-FA4A|IDEOGRAPH-FA4B|IDEOGRAPH-FA4C|IDEOGRAPH-FA4D|IDEOGRAPH-FA4E
FA4F CJK COMPATIBILITY |IDEOGRAPH-FA4F|IDEOGRAPH-FA50|IDEOGRAPH-FA51|IDEOGRAPH-FA52|IDEOGRAPH-FA53
FA54 CJK COMPATIBILITY |IDEOGRAPH-FA54|IDEOGRAPH-FA55|IDEOGRAPH-FA56|IDEOGRAPH-FA57|IDEOGRAPH-FA58
FA59 CJK COMPATIBILITY |IDEOGRAPH-FA59|IDEOGRAPH-FA5A|IDEOGRAPH-FA5B|IDEOGRAPH-FA5C|IDEOGRAPH-FA5D
FA5E CJK COMPATIBILITY |IDEOGRAPH-FA5E|IDEOGRAPH-FA5F|IDEOGRAPH-FA60|IDEOGRAPH-FA61|IDEOGRAPH-FA62
FA63 CJK COMPATIBILITY |IDEOGRAPH-FA63|IDEOGRAPH-FA64|IDEOGRAPH-FA65|IDEOGRAPH-FA66|IDEOGRAPH-FA67
FA68 CJK COMPATIBILITY |IDEOGRAPH-FA68|IDEOGRAPH-FA69|IDEOGRAPH-FA6A|IDEOGRAPH-FA6B|IDEOGRAPH-FA6C
FA6D |CJK COMPATIBILITY IDEOGRAPH-FA6D
FA70 CJK COMPATIBILITY |IDEOGRAPH-FA70|IDEOGRAPH-FA71|IDEOGRAPH-FA72|IDEOGRAPH-FA73|IDEOGRAPH-FA74
FA75 CJK COMPATIBILITY |IDEOGRAPH-FA75|IDEOGRAPH-FA76|IDEOGRAPH-FA77|IDEOGRAPH-FA78|IDEOGRAPH-FA79
FA7A CJK COMPATIBILITY |IDEOGRAPH-FA7A|IDEOGRAPH-FA7B|IDEOGRAPH-FA7C|IDEOGRAPH-FA7D|IDEOGRAPH-FA7E
FA7F CJK COMPATIBILITY |IDEOGRAPH-FA7F|IDEOGRAPH-FA80|IDEOGRAPH-FA81|IDEOGRAPH-FA82|IDEOGRAPH-FA83
FA84 CJK COMPATIBILITY |IDEOGRAPH-FA84|IDEOGRAPH-FA85|IDEOGRAPH-FA86|IDEOGRAPH-FA87|IDEOGRAPH-FA88
FA89 CJK COMPATIBILITY |IDEOGRAPH-FA89|IDEOGRAPH-FA8A|IDEOGRAPH-FA8B|IDEOGRAPH-FA8C|IDEOGRAPH-FA8D
FA8E CJK COMPATIBILITY |IDEOGRAPH-FA8E|IDEOGRAPH-FA8F|IDEOGRAPH-FA90|IDEOGRAPH-FA91|IDEOGRAPH-FA92
FA93 CJK COMPATIBILITY |IDEOGRAPH-FA93|IDEOGRAPH-FA94|IDEOGRAPH-FA95|IDEOGRAPH-FA96|IDEOGRAPH-FA97
FA98 CJK COMPATIBILITY |IDEOGRAPH-FA98|IDEOGRAPH-FA99|IDEOGRAPH-FA9A|IDEOGRAPH-FA9B|IDEOGRAPH-FA9C
FA9D CJK COMPATIBILITY |IDEOGRAPH-FA9D|IDEOGRAPH-FA9E|IDEOGRAPH-FA9F|IDEOGRAPH-FAA0|IDEOGRAPH-FAA1
FAA2 CJK COMPATIBILITY |IDEOGRAPH-FAA2|IDEOGRAPH-FAA3|IDEOGRAPH-FAA4|IDEOGRAPH-FAA5|IDEOGRAPH-FAA6
FAA7 CJK COMPATIBILITY |IDEOGRAPH-FAA7|IDEOGRAPH-FAA8|IDEOGRAPH-FAA9|IDEOGRAPH-FAAA|IDEOGRAPH-FAAB
FAAC CJK COMPATIBILITY |IDEOGRAPH-FAAC|IDEOGRAPH-FAAD|IDEOGRAPH-FAAE|IDEOGRAPH-FAAF|IDEOGRAPH-FAB0
FAB1 CJK COMPATIBILITY |IDEOGRAPH-FAB1|IDEOGRAPH-FAB2|IDEOGRAPH-FAB3|IDEOGRAPH-FAB4|IDEOGRAPH-FAB5
FAB6 CJK COMPATIBILITY |IDEOGRAPH-FAB6|IDEOGRAPH-FAB7|IDEOGRAPH-FAB8|IDEOGRAPH-FAB9|IDEOGRAPH-FABA
FABB CJK COMPATIBILITY |IDEOGRAPH-FABB|IDEOGRAPH-FABC|IDEOGRAPH-FABD|IDEOGRAPH-FABE|IDEOGRAPH-FABF
FAC0 CJK COMPATIBILITY |IDEOGRAPH-FAC0|IDEOGRAPH-FAC1|IDEOGRAPH-FAC2|IDEOGRAPH-FAC3|IDEOGRAPH-FAC4
FAC5 CJK COMPATIBILITY |IDEOGRAPH-FAC5|IDEOGRAPH-FAC6|IDEOGRAPH-FAC7|IDEOGRAPH-FAC8|IDEOGRAPH-FAC9
FACA CJK COMPATIBILITY |IDEOGRAPH-FACA|IDEOGRAPH-FACB|IDEOGRAPH-FACC|IDEOGRAPH-FACD|IDEOGRAPH-FACE
FACF CJK COMPATIBILITY |IDEOGRAPH-FACF|IDEOGRAPH-FAD0|IDEOGRAPH-FAD1|IDEOGRAPH-FAD2|IDEOGRAPH-FAD3
FAD4 CJK COMPATIBILITY |IDEOGRAPH-FAD4|IDEOGRAPH-FAD5|IDEOGRAPH-FAD6|IDEOGRAPH-FAD7|IDEOGRAPH-FAD8
FAD9 |CJK COMPATIBILITY IDEOGRAPH-FAD9
FB00 LATIN SMALL LIGATURE |FF|FI|FL|FFI|FFL|LONG S T|ST
FB13 ARMENIAN SMALL LIGATURE |MEN NOW|MEN ECH|MEN INI|VEW NOW|MEN XEH
FB1D HEBREW |LETTER YOD WITH HIRIQ|POINT JUDEO-SPANISH VARIKA|LIGATURE YIDDISH YOD YOD PATAH
FB20 HEBREW LETTER |ALTERNATIVE AYIN|WIDE ALEF|WIDE DALET|WIDE HE|WIDE KAF|WIDE LAMED
FB26 HEBREW LETTER |WIDE FINAL MEM|WIDE RESH|WIDE TAV|ALTERNATIVE PLUS SIGN|SHIN WITH SHIN DOT
FB2B HEBREW LETTER SHIN WITH |SIN DOT|DAGESH AND SHIN DOT|DAGESH AND SIN DOT
FB2E HEBREW LETTER |ALEF WITH PATAH|ALEF WITH QAMATS|ALEF WITH MAPIQ|BET WITH DAGESH
FB32 HEBREW LETTER |GIMEL WITH DAGESH|DALET WITH DAGESH|HE WITH MAPIQ|VAV WITH DAGESH
FB36 |HEBREW LETTER ZAYIN WITH DAGESH
FB38 HEBREW LETTER |TET WITH DAGESH|YOD WITH DAGESH|FINAL KAF WITH DAGESH|KAF WITH DAGESH
FB3C |HEBREW LETTER LAMED WITH DAGESH
FB3E |HEBREW LETTER MEM WITH DAGESH
FB40 HEBREW LETTER |NUN WITH DAGESH|SAMEKH WITH DAGESH
FB43 HEBREW LETTER |FINAL PE WITH DAGESH|PE WITH DAGESH
FB46 HEBREW LETTER |TSADI WITH DAGESH|QOF WITH DAGESH|RESH WITH DAGESH|SHIN WITH DAGESH
FB4A HEBREW LETTER |TAV WITH DAGESH|VAV WITH HOLAM|BET WITH RAFE|KAF WITH RAFE|PE WITH RAFE
FB4F |HEBREW LIGATURE ALEF LAMED|ARABIC LETTER ALEF WASLA ISOLATED FORM
FB51 ARABIC LETTER |ALEF WASLA FINAL FORM|BEEH ISOLATED FORM|BEEH FINAL FORM|BEEH INITIAL FORM
FB55 ARABIC LETTER |BEEH MEDIAL FORM|PEH ISOLATED FORM|PEH FINAL FORM|PEH INITIAL FORM
FB59 ARABIC LETTER |PEH MEDIAL FORM|BEHEH ISOLATED FORM|BEHEH FINAL FORM|BEHEH INITIAL FORM
FB5D ARABIC LETTER |BEHEH MEDIAL FORM|TTEHEH ISOLATED FORM|TTEHEH FINAL FORM|TTEHEH INITIAL FORM
FB61 ARABIC LETTER |TTEHEH MEDIAL FORM|TEHEH ISOLATED FORM|TEHEH FINAL FORM|TEHEH INITIAL FORM
FB65 ARABIC LETTER |TEHEH MEDIAL FORM|TTEH ISOLATED FORM|TTEH FINAL FORM|TTEH INITIAL FORM
FB69 ARABIC LETTER |TTEH MEDIAL FORM|VEH ISOLATED FORM|VEH FINAL FORM|VEH INITIAL FORM
FB6D ARABIC LETTER |VEH MEDIAL FORM|PEHEH ISOLATED FORM|PEHEH FINAL FORM|PEHEH INITIAL FORM
FB71 ARABIC LETTER |PEHEH MEDIAL FORM|DYEH ISOLATED FORM|DYEH FINAL FORM|DYEH INITIAL FORM
FB75 ARABIC LETTER |DYEH MEDIAL FORM|NYEH ISOLATED FORM|NYEH FINAL FORM|NYEH INITIAL FORM
FB79 ARABIC LETTER |NYEH MEDIAL FORM|TCHEH ISOLATED FORM|TCHEH FINAL FORM|TCHEH INITIAL FORM
FB7D ARABIC LETTER |TCHEH MEDIAL FORM|TCHEHEH ISOLATED FORM|TCHEHEH FINAL FORM
FB80 ARABIC LETTER |TCHEHEH INITIAL FORM|TCHEHEH MEDIAL FORM|DDAHAL ISOLATED FORM
FB83 ARABIC LETTER |DDAHAL FINAL FORM|DAHAL ISOLATED FORM|DAHAL FINAL FORM|DUL ISOLATED FORM
FB87 ARABIC LETTER |DUL FINAL FORM|DDAL ISOLATED FORM|DDAL FINAL FORM|JEH ISOLATED FORM
FB8B ARABIC LETTER |JEH FINAL FORM|RREH ISOLATED FORM|RREH FINAL FORM|KEHEH ISOLATED FORM
FB8F ARABIC LETTER |KEHEH FINAL FORM|KEHEH INITIAL FORM|KEHEH MEDIAL FORM|GAF ISOLATED FORM
FB93 ARABIC LETTER |GAF FINAL FORM|GAF INITIAL FORM|GAF MEDIAL FORM|GUEH ISOLATED FORM
FB97 ARABIC LETTER |GUEH FINAL FORM|GUEH INITIAL FORM|GUEH MEDIAL FORM|NGOEH ISOLATED FORM
FB9B ARABIC LETTER NGOEH |FINAL FORM|INITIAL FORM|MEDIAL FORM
FB9E ARABIC LETTER |NOON GHUNNA ISOLATED FORM|NOON GHUNNA FINAL FORM|RNOON ISOLATED FORM
FBA1 ARABIC LETTER RNOON |FINAL FORM|INITIAL FORM|MEDIAL FORM
FBA4 ARABIC LETTER HEH |WITH YEH ABOVE ISOLATED FORM|WITH YEH ABOVE FINAL FORM|GOAL ISOLATED FORM
FBA7 ARABIC LETTER HEH GOAL |FINAL FORM|INITIAL FORM|MEDIAL FORM
FBAA ARABIC LETTER HEH DOACHASHMEE |ISOLATED FORM|FINAL FORM|INITIAL FORM|MEDIAL FORM
FBAE ARABIC LETTER YEH BARREE |ISOLATED FORM|FINAL FORM|WITH HAMZA ABOVE ISOLATED FORM
FBB1 ARABIC |LETTER YEH BARREE WITH HAMZA ABOVE FINAL FORM|SYMBOL DOT ABOVE|SYMBOL DOT BELOW
FBB4 ARABIC SYMBOL |TWO DOTS ABOVE|TWO DOTS BELOW|THREE DOTS ABOVE|THREE DOTS BELOW
FBB8 ARABIC SYMBOL THREE DOTS POINTING DOWNWARDS |ABOVE|BELOW
FBBA ARABIC SYMBOL |FOUR DOTS ABOVE|FOUR DOTS BELOW|DOUBLE VERTICAL BAR BELOW
FBBD ARABIC SYMBOL |TWO DOTS VERTICALLY ABOVE|TWO DOTS VERTICALLY BELOW|RING|SMALL TAH ABOVE
FBC1 ARABIC SYMBOL |SMALL TAH BELOW|WASLA ABOVE
FBD3 ARABIC LETTER |NG ISOLATED FORM|NG FINAL FORM|NG INITIAL FORM|NG MEDIAL FORM|U ISOLATED FORM
FBD8 ARABIC LETTER |U FINAL FORM|OE ISOLATED FORM|OE FINAL FORM|YU ISOLATED FORM|YU FINAL FORM
FBDD ARABIC LETTER |U WITH HAMZA ABOVE ISOLATED FORM|VE ISOLATED FORM|VE FINAL FORM
FBE0 ARABIC LETTER KIRGHIZ |OE ISOLATED FORM|OE FINAL FORM|YU ISOLATED FORM|YU FINAL FORM
FBE4 ARABIC LETTER E |ISOLATED FORM|FINAL FORM|INITIAL FORM|MEDIAL FORM
FBE8 ARABIC LETTER UIGHUR KAZAKH KIRGHIZ ALEF MAKSURA |INITIAL FORM|MEDIAL FORM
FBEA ARABIC LIGATURE YEH WITH HAMZA ABOVE WITH ALEF |ISOLATED FORM|FINAL FORM
FBEC ARABIC LIGATURE YEH WITH HAMZA ABOVE WITH |AE ISOLATED FORM|AE FINAL FORM|WAW ISOLATED FORM
FBEF ARABIC LIGATURE YEH WITH HAMZA ABOVE WITH |WAW FINAL FORM|U ISOLATED FORM|U FINAL FORM
FBF2 ARABIC LIGATURE YEH WITH HAMZA ABOVE WITH |OE ISOLATED FORM|OE FINAL FORM|YU ISOLATED FORM
FBF5 ARABIC LIGATURE YEH WITH HAMZA ABOVE WITH |YU FINAL FORM|E ISOLATED FORM|E FINAL FORM
FBF8 |ARABIC LIGATURE YEH WITH HAMZA ABOVE WITH E INITIAL FORM
FBF9 |ARABIC LIGATURE UIGHUR KIRGHIZ YEH WITH HAMZA ABOVE WITH ALEF MAKSURA ISOLATED FORM
FBFA |ARABIC LIGATURE UIGHUR KIRGHIZ YEH WITH HAMZA ABOVE WITH ALEF MAKSURA FINAL FORM
FBFB |ARABIC LIGATURE UIGHUR KIRGHIZ YEH WITH HAMZA ABOVE WITH ALEF MAKSURA INITIAL FORM
FBFC ARABIC LETTER FARSI YEH |ISOLATED FORM|FINAL FORM|INITIAL FORM|MEDIAL FORM
FC00 ARABIC LIGATURE YEH WITH HAMZA ABOVE WITH |JEEM ISOLATED FORM|HAH ISOLATED FORM
FC02 ARABIC LIGATURE YEH WITH HAMZA ABOVE WITH |MEEM ISOLATED FORM|ALEF MAKSURA ISOLATED FORM
FC04 ARABIC LIGATURE |YEH WITH HAMZA ABOVE WITH YEH ISOLATED FORM|BEH WITH JEEM ISOLATED FORM
FC06 ARABIC LIGATURE BEH WITH |HAH ISOLATED FORM|KHAH ISOLATED FORM|MEEM ISOLATED FORM
FC09 ARABIC LIGATURE BEH WITH |ALEF MAKSURA ISOLATED FORM|YEH ISOLATED FORM
FC0B ARABIC LIGATURE TEH WITH |JEEM ISOLATED FORM|HAH ISOLATED FORM|KHAH ISOLATED FORM
FC0E ARABIC LIGATURE TEH WITH |MEEM ISOLATED FORM|ALEF MAKSURA ISOLATED FORM|YEH ISOLATED FORM
FC11 ARABIC LIGATURE THEH WITH |JEEM ISOLATED FORM|MEEM ISOLATED FORM|ALEF MAKSURA ISOLATED FORM
FC14 ARABIC LIGATURE |THEH WITH YEH ISOLATED FORM|JEEM WITH HAH ISOLATED FORM
FC16 ARABIC LIGATURE |JEEM WITH MEEM ISOLATED FORM|HAH WITH JEEM ISOLATED FORM
FC18 ARABIC LIGATURE |HAH WITH MEEM ISOLATED FORM|KHAH WITH JEEM ISOLATED FORM
FC1A ARABIC LIGATURE KHAH WITH |HAH ISOLATED FORM|MEEM ISOLATED FORM
FC1C ARABIC LIGATURE SEEN WITH |JEEM ISOLATED FORM|HAH ISOLATED FORM|KHAH ISOLATED FORM
FC1F ARABIC LIGATURE |SEEN WITH MEEM ISOLATED FORM|SAD WITH HAH ISOLATED FORM
FC21 ARABIC LIGATURE |SAD WITH MEEM ISOLATED FORM|DAD WITH JEEM ISOLATED FORM
FC23 ARABIC LIGATURE DAD WITH |HAH ISOLATED FORM|KHAH ISOLATED FORM|MEEM ISOLATED FORM
FC26 ARABIC LIGATURE TAH WITH |HAH ISOLATED FORM|MEEM ISOLATED FORM
FC28 ARABIC LIGATURE |ZAH WITH MEEM ISOLATED FORM|AIN WITH JEEM ISOLATED FORM
FC2A ARABIC LIGATURE |AIN WITH MEEM ISOLATED FORM|GHAIN WITH JEEM ISOLATED FORM
FC2C ARABIC LIGATURE |GHAIN WITH MEEM ISOLATED FORM|FEH WITH JEEM ISOLATED FORM
FC2E ARABIC LIGATURE FEH WITH |HAH ISOLATED FORM|KHAH ISOLATED FORM|MEEM ISOLATED FORM
FC31 ARABIC LIGATURE FEH WITH |ALEF MAKSURA ISOLATED FORM|YEH ISOLATED FORM
FC33 ARABIC LIGATURE QAF WITH |HAH ISOLATED FORM|MEEM ISOLATED FORM|ALEF MAKSURA ISOLATED FORM
FC36 ARABIC LIGATURE |QAF WITH YEH ISOLATED FORM|KAF WITH ALEF ISOLATED FORM
FC38 ARABIC LIGATURE KAF WITH |JEEM ISOLATED FORM|HAH ISOLATED FORM|KHAH ISOLATED FORM
FC3B ARABIC LIGATURE KAF WITH |LAM ISOLATED FORM|MEEM ISOLATED FORM|ALEF MAKSURA ISOLATED FORM
FC3E ARABIC LIGATURE |KAF WITH YEH ISOLATED FORM|LAM WITH JEEM ISOLATED FORM
FC40 ARABIC LIGATURE LAM WITH |HAH ISOLATED FORM|KHAH ISOLATED FORM|MEEM ISOLATED FORM
FC43 ARABIC LIGATURE LAM WITH |ALEF MAKSURA ISOLATED FORM|YEH ISOLATED FORM
FC45 ARABIC LIGATURE MEEM WITH |JEEM ISOLATED FORM|HAH ISOLATED FORM|KHAH ISOLATED FORM
FC48 ARABIC LIGATURE MEEM WITH |MEEM ISOLATED FORM|ALEF MAKSURA ISOLATED FORM|YEH ISOLATED FORM
FC4B ARABIC LIGATURE NOON WITH |JEEM ISOLATED FORM|HAH ISOLATED FORM|KHAH ISOLATED FORM
FC4E ARABIC LIGATURE NOON WITH |MEEM ISOLATED FORM|ALEF MAKSURA ISOLATED FORM|YEH ISOLATED FORM
FC51 ARABIC LIGATURE HEH WITH |JEEM ISOLATED FORM|MEEM ISOLATED FORM|ALEF MAKSURA ISOLATED FORM
FC54 ARABIC LIGATURE |HEH WITH YEH ISOLATED FORM|YEH WITH JEEM ISOLATED FORM
FC56 ARABIC LIGATURE YEH WITH |HAH ISOLATED FORM|KHAH ISOLATED FORM|MEEM ISOLATED FORM
FC59 ARABIC LIGATURE YEH WITH |ALEF MAKSURA ISOLATED FORM|YEH ISOLATED FORM
FC5B |ARABIC LIGATURE THAL WITH SUPERSCRIPT ALEF ISOLATED FORM
FC5C |ARABIC LIGATURE REH WITH SUPERSCRIPT ALEF ISOLATED FORM
FC5D |ARABIC LIGATURE ALEF MAKSURA WITH SUPERSCRIPT ALEF ISOLATED FORM
FC5E ARABIC LIGATURE SHADDA WITH |DAMMATAN ISOLATED FORM|KASRATAN ISOLATED FORM
FC60 ARABIC LIGATURE SHADDA WITH |FATHA ISOLATED FORM|DAMMA ISOLATED FORM|KASRA ISOLATED FORM
FC63 |ARABIC LIGATURE SHADDA WITH SUPERSCRIPT ALEF ISOLATED FORM
FC64 ARABIC LIGATURE YEH WITH HAMZA ABOVE WITH |REH FINAL FORM|ZAIN FINAL FORM|MEEM FINAL FORM
FC67 ARABIC LIGATURE YEH WITH HAMZA ABOVE WITH |NOON FINAL FORM|ALEF MAKSURA FINAL FORM
FC69 ARABIC LIGATURE |YEH WITH HAMZA ABOVE WITH YEH FINAL FORM|BEH WITH REH FINAL FORM
FC6B ARABIC LIGATURE BEH WITH |ZAIN FINAL FORM|MEEM FINAL FORM|NOON FINAL FORM
FC6E ARABIC LIGATURE BEH WITH |ALEF MAKSURA FINAL FORM|YEH FINAL FORM
FC70 ARABIC LIGATURE TEH WITH |REH FINAL FORM|ZAIN FINAL FORM|MEEM FINAL FORM|NOON FINAL FORM
FC74 ARABIC LIGATURE TEH WITH |ALEF MAKSURA FINAL FORM|YEH FINAL FORM
FC76 ARABIC LIGATURE THEH WITH |REH FINAL FORM|ZAIN FINAL FORM|MEEM FINAL FORM|NOON FINAL FORM
FC7A ARABIC LIGATURE THEH WITH |ALEF MAKSURA FINAL FORM|YEH FINAL FORM
FC7C ARABIC LIGATURE FEH WITH |ALEF MAKSURA FINAL FORM|YEH FINAL FORM
FC7E ARABIC LIGATURE QAF WITH |ALEF MAKSURA FINAL FORM|YEH FINAL FORM
FC80 ARABIC LIGATURE KAF WITH |ALEF FINAL FORM|LAM FINAL FORM|MEEM FINAL FORM
FC83 ARABIC LIGATURE KAF WITH |ALEF MAKSURA FINAL FORM|YEH FINAL FORM
FC85 ARABIC LIGATURE LAM WITH |MEEM FINAL FORM|ALEF MAKSURA FINAL FORM|YEH FINAL FORM
FC88 ARABIC LIGATURE |MEEM WITH ALEF FINAL FORM|MEEM WITH MEEM FINAL FORM|NOON WITH REH FINAL FORM
FC8B ARABIC LIGATURE NOON WITH |ZAIN FINAL FORM|MEEM FINAL FORM|NOON FINAL FORM
FC8E ARABIC LIGATURE NOON WITH |ALEF MAKSURA FINAL FORM|YEH FINAL FORM
FC90 ARABIC LIGATURE |ALEF MAKSURA WITH SUPERSCRIPT ALEF FINAL FORM|YEH WITH REH FINAL FORM
FC92 ARABIC LIGATURE YEH WITH |ZAIN FINAL FORM|MEEM FINAL FORM|NOON FINAL FORM
FC95 ARABIC LIGATURE YEH WITH |ALEF MAKSURA FINAL FORM|YEH FINAL FORM
FC97 ARABIC LIGATURE YEH WITH HAMZA ABOVE WITH |JEEM INITIAL FORM|HAH INITIAL FORM
FC99 ARABIC LIGATURE YEH WITH HAMZA ABOVE WITH |KHAH INITIAL FORM|MEEM INITIAL FORM
FC9B ARABIC LIGATURE |YEH WITH HAMZA ABOVE WITH HEH INITIAL FORM|BEH WITH JEEM INITIAL FORM
FC9D ARABIC LIGATURE BEH WITH |HAH INITIAL FORM|KHAH INITIAL FORM|MEEM INITIAL FORM
FCA0 ARABIC LIGATURE |BEH WITH HEH INITIAL FORM|TEH WITH JEEM INITIAL FORM
FCA2 ARABIC LIGATURE TEH WITH |HAH INITIAL FORM|KHAH INITIAL FORM|MEEM INITIAL FORM
FCA5 ARABIC LIGATURE |TEH WITH HEH INITIAL FORM|THEH WITH MEEM INITIAL FORM
FCA7 ARABIC LIGATURE JEEM WITH |HAH INITIAL FORM|MEEM INITIAL FORM
FCA9 ARABIC LIGATURE HAH WITH |JEEM INITIAL FORM|MEEM INITIAL FORM
FCAB ARABIC LIGATURE KHAH WITH |JEEM INITIAL FORM|MEEM INITIAL FORM
FCAD ARABIC LIGATURE SEEN WITH |JEEM INITIAL FORM|HAH INITIAL FORM|KHAH INITIAL FORM
FCB0 ARABIC LIGATURE |SEEN WITH MEEM INITIAL FORM|SAD WITH HAH INITIAL FORM
FCB2 ARABIC LIGATURE SAD WITH |KHAH INITIAL FORM|MEEM INITIAL FORM
FCB4 ARABIC LIGATURE DAD WITH |JEEM INITIAL FORM|HAH INITIAL FORM|KHAH INITIAL FORM
FCB7 ARABIC LIGATURE |DAD WITH MEEM INITIAL FORM|TAH WITH HAH INITIAL FORM
FCB9 ARABIC LIGATURE |ZAH WITH MEEM INITIAL FORM|AIN WITH JEEM INITIAL FORM
FCBB ARABIC LIGATURE |AIN WITH MEEM INITIAL FORM|GHAIN WITH JEEM INITIAL FORM
FCBD ARABIC LIGATURE |GHAIN WITH MEEM INITIAL FORM|FEH WITH JEEM INITIAL FORM
FCBF ARABIC LIGATURE FEH WITH |HAH INITIAL FORM|KHAH INITIAL FORM|MEEM INITIAL FORM
FCC2 ARABIC LIGATURE QAF WITH |HAH INITIAL FORM|MEEM INITIAL FORM
FCC4 ARABIC LIGATURE KAF WITH |JEEM INITIAL FORM|HAH INITIAL FORM|KHAH INITIAL FORM
FCC7 ARABIC LIGATURE KAF WITH |LAM INITIAL FORM|MEEM INITIAL FORM
FCC9 ARABIC LIGATURE LAM WITH |JEEM INITIAL FORM|HAH INITIAL FORM|KHAH INITIAL FORM
FCCC ARABIC LIGATURE LAM WITH |MEEM INITIAL FORM|HEH INITIAL FORM
FCCE ARABIC LIGATURE MEEM WITH |JEEM INITIAL FORM|HAH INITIAL FORM|KHAH INITIAL FORM
FCD1 ARABIC LIGATURE |MEEM WITH MEEM INITIAL FORM|NOON WITH JEEM INITIAL FORM
FCD3 ARABIC LIGATURE NOON WITH |HAH INITIAL FORM|KHAH INITIAL FORM|MEEM INITIAL FORM
FCD6 ARABIC LIGATURE |NOON WITH HEH INITIAL FORM|HEH WITH JEEM INITIAL FORM
FCD8 ARABIC LIGATURE HEH WITH |MEEM INITIAL FORM|SUPERSCRIPT ALEF INITIAL FORM
FCDA ARABIC LIGATURE YEH WITH |JEEM INITIAL FORM|HAH INITIAL FORM|KHAH INITIAL FORM
FCDD ARABIC LIGATURE YEH WITH |MEEM INITIAL FORM|HEH INITIAL FORM
FCDF ARABIC LIGATURE YEH WITH HAMZA ABOVE WITH |MEEM MEDIAL FORM|HEH MEDIAL FORM
FCE1 ARABIC LIGATURE |BEH WITH MEEM MEDIAL FORM|BEH WITH HEH MEDIAL FORM|TEH WITH MEEM MEDIAL FORM
FCE4 ARABIC LIGATURE |TEH WITH HEH MEDIAL FORM|THEH WITH MEEM MEDIAL FORM
FCE6 ARABIC LIGATURE |THEH WITH HEH MEDIAL FORM|SEEN WITH MEEM MEDIAL FORM
FCE8 ARABIC LIGATURE |SEEN WITH HEH MEDIAL FORM|SHEEN WITH MEEM MEDIAL FORM
FCEA ARABIC LIGATURE |SHEEN WITH HEH MEDIAL FORM|KAF WITH LAM MEDIAL FORM
FCEC ARABIC LIGATURE |KAF WITH MEEM MEDIAL FORM|LAM WITH MEEM MEDIAL FORM
FCEE ARABIC LIGATURE NOON WITH |MEEM MEDIAL FORM|HEH MEDIAL FORM
FCF0 ARABIC LIGATURE YEH WITH |MEEM MEDIAL FORM|HEH MEDIAL FORM
FCF2 ARABIC LIGATURE SHADDA WITH |FATHA MEDIAL FORM|DAMMA MEDIAL FORM|KASRA MEDIAL FORM
FCF5 ARABIC LIGATURE TAH WITH |ALEF MAKSURA ISOLATED FORM|YEH ISOLATED FORM
FCF7 ARABIC LIGATURE AIN WITH |ALEF MAKSURA ISOLATED FORM|YEH ISOLATED FORM
FCF9 ARABIC LIGATURE GHAIN WITH |ALEF MAKSURA ISOLATED FORM|YEH ISOLATED FORM
FCFB ARABIC LIGATURE SEEN WITH |ALEF MAKSURA ISOLATED FORM|YEH ISOLATED FORM
FCFD ARABIC LIGATURE SHEEN WITH |ALEF MAKSURA ISOLATED FORM|YEH ISOLATED FORM
FCFF ARABIC LIGATURE HAH WITH |ALEF MAKSURA ISOLATED FORM|YEH ISOLATED FORM
FD01 ARABIC LIGATURE JEEM WITH |ALEF MAKSURA ISOLATED FORM|YEH ISOLATED FORM
FD03 ARABIC LIGATURE KHAH WITH |ALEF MAKSURA ISOLATED FORM|YEH ISOLATED FORM
FD05 ARABIC LIGATURE SAD WITH |ALEF MAKSURA ISOLATED FORM|YEH ISOLATED FORM
FD07 ARABIC LIGATURE DAD WITH |ALEF MAKSURA ISOLATED FORM|YEH ISOLATED FORM
FD09 ARABIC LIGATURE SHEEN WITH |JEEM ISOLATED FORM|HAH ISOLATED FORM|KHAH ISOLATED FORM
FD0C ARABIC LIGATURE SHEEN WITH |MEEM ISOLATED FORM|REH ISOLATED FORM
FD0E ARABIC LIGATURE |SEEN WITH REH ISOLATED FORM|SAD WITH REH ISOLATED FORM
FD10 ARABIC LIGATURE |DAD WITH REH ISOLATED FORM|TAH WITH ALEF MAKSURA FINAL FORM
FD12 ARABIC LIGATURE |TAH WITH YEH FINAL FORM|AIN WITH ALEF MAKSURA FINAL FORM
FD14 ARABIC LIGATURE |AIN WITH YEH FINAL FORM|GHAIN WITH ALEF MAKSURA FINAL FORM
FD16 ARABIC LIGATURE |GHAIN WITH YEH FINAL FORM|SEEN WITH ALEF MAKSURA FINAL FORM
FD18 ARABIC LIGATURE |SEEN WITH YEH FINAL FORM|SHEEN WITH ALEF MAKSURA FINAL FORM
FD1A ARABIC LIGATURE |SHEEN WITH YEH FINAL FORM|HAH WITH ALEF MAKSURA FINAL FORM
FD1C ARABIC LIGATURE |HAH WITH YEH FINAL FORM|JEEM WITH ALEF MAKSURA FINAL FORM
FD1E ARABIC LIGATURE |JEEM WITH YEH FINAL FORM|KHAH WITH ALEF MAKSURA FINAL FORM
FD20 ARABIC LIGATURE |KHAH WITH YEH FINAL FORM|SAD WITH ALEF MAKSURA FINAL FORM
FD22 ARABIC LIGATURE |SAD WITH YEH FINAL FORM|DAD WITH ALEF MAKSURA FINAL FORM
FD24 ARABIC LIGATURE |DAD WITH YEH FINAL FORM|SHEEN WITH JEEM FINAL FORM|SHEEN WITH HAH FINAL FORM
FD27 ARABIC LIGATURE SHEEN WITH |KHAH FINAL FORM|MEEM FINAL FORM|REH FINAL FORM
FD2A ARABIC LIGATURE |SEEN WITH REH FINAL FORM|SAD WITH REH FINAL FORM|DAD WITH REH FINAL FORM
FD2D ARABIC LIGATURE SHEEN WITH |JEEM INITIAL FORM|HAH INITIAL FORM|KHAH INITIAL FORM
FD30 ARABIC LIGATURE |SHEEN WITH MEEM INITIAL FORM|SEEN WITH HEH INITIAL FORM
FD32 ARABIC LIGATURE |SHEEN WITH HEH INITIAL FORM|TAH WITH MEEM INITIAL FORM
FD34 ARABIC LIGATURE SEEN WITH |JEEM MEDIAL FORM|HAH MEDIAL FORM|KHAH MEDIAL FORM
FD37 ARABIC LIGATURE SHEEN WITH |JEEM MEDIAL FORM|HAH MEDIAL FORM|KHAH MEDIAL FORM
FD3A ARABIC LIGATURE |TAH WITH MEEM MEDIAL FORM|ZAH WITH MEEM MEDIAL FORM
FD3C ARABIC LIGATURE ALEF WITH FATHATAN |FINAL FORM|ISOLATED FORM
FD3E |ORNATE LEFT PARENTHESIS|ORNATE RIGHT PARENTHESIS|ARABIC LIGATURE RAHIMAHU ALLAAH
FD41 ARABIC LIGATURE RADI ALLAAHU |ANH|ANHAA|ANHUM|ANHUMAA|ANHUNNA
FD46 ARABIC LIGATURE |SALLALLAAHU ALAYHI WA-AALIH|ALAYHI AS-SALAAM|ALAYHIM AS-SALAAM
FD49 ARABIC LIGATURE |ALAYHIMAA AS-SALAAM|ALAYHI AS-SALAATU WAS-SALAAM|QUDDISA SIRRAH
FD4C ARABIC LIGATURE |SALLALLAHU ALAYHI WAAALIHEE WA-SALLAM|ALAYHAA AS-SALAAM|TABAARAKA WA-TAAALAA
FD4F ARABIC LIGATURE |RAHIMAHUM ALLAAH|TEH WITH JEEM WITH MEEM INITIAL FORM
FD51 ARABIC LIGATURE TEH WITH HAH WITH |JEEM FINAL FORM|JEEM INITIAL FORM|MEEM INITIAL FORM
FD54 ARABIC LIGATURE TEH WITH |KHAH WITH MEEM INITIAL FORM|MEEM WITH JEEM INITIAL FORM
FD56 ARABIC LIGATURE TEH WITH MEEM WITH |HAH INITIAL FORM|KHAH INITIAL FORM
FD58 ARABIC LIGATURE JEEM WITH MEEM WITH HAH |FINAL FORM|INITIAL FORM
FD5A ARABIC LIGATURE HAH WITH MEEM WITH |YEH FINAL FORM|ALEF MAKSURA FINAL FORM
FD5C ARABIC LIGATURE SEEN WITH |HAH WITH JEEM INITIAL FORM|JEEM WITH HAH INITIAL FORM
FD5E ARABIC LIGATURE SEEN WITH |JEEM WITH ALEF MAKSURA FINAL FORM|MEEM WITH HAH FINAL FORM
FD60 ARABIC LIGATURE SEEN WITH MEEM WITH |HAH INITIAL FORM|JEEM INITIAL FORM|MEEM FINAL FORM
FD63 ARABIC LIGATURE |SEEN WITH MEEM WITH MEEM INITIAL FORM|SAD WITH HAH WITH HAH FINAL FORM
FD65 ARABIC LIGATURE SAD WITH |HAH WITH HAH INITIAL FORM|MEEM WITH MEEM FINAL FORM
FD67 ARABIC LIGATURE SHEEN WITH HAH WITH MEEM |FINAL FORM|INITIAL FORM
FD69 ARABIC LIGATURE SHEEN WITH |JEEM WITH YEH FINAL FORM|MEEM WITH KHAH FINAL FORM
FD6B ARABIC LIGATURE SHEEN WITH MEEM WITH |KHAH INITIAL FORM|MEEM FINAL FORM|MEEM INITIAL FORM
FD6E ARABIC LIGATURE DAD WITH |HAH WITH ALEF MAKSURA FINAL FORM|KHAH WITH MEEM FINAL FORM
FD70 ARABIC LIGATURE |DAD WITH KHAH WITH MEEM INITIAL FORM|TAH WITH MEEM WITH HAH FINAL FORM
FD72 ARABIC LIGATURE TAH WITH MEEM WITH |HAH INITIAL FORM|MEEM INITIAL FORM|YEH FINAL FORM
FD75 ARABIC LIGATURE AIN WITH |JEEM WITH MEEM FINAL FORM|MEEM WITH MEEM FINAL FORM
FD77 ARABIC LIGATURE AIN WITH MEEM WITH |MEEM INITIAL FORM|ALEF MAKSURA FINAL FORM
FD79 ARABIC LIGATURE GHAIN WITH MEEM WITH |MEEM FINAL FORM|YEH FINAL FORM|ALEF MAKSURA FINAL FORM
FD7C ARABIC LIGATURE FEH WITH KHAH WITH MEEM |FINAL FORM|INITIAL FORM
FD7E ARABIC LIGATURE QAF WITH MEEM WITH |HAH FINAL FORM|MEEM FINAL FORM
FD80 ARABIC LIGATURE LAM WITH HAH WITH |MEEM FINAL FORM|YEH FINAL FORM|ALEF MAKSURA FINAL FORM
FD83 ARABIC LIGATURE LAM WITH JEEM WITH JEEM |INITIAL FORM|FINAL FORM
FD85 ARABIC LIGATURE LAM WITH KHAH WITH MEEM |FINAL FORM|INITIAL FORM
FD87 ARABIC LIGATURE LAM WITH MEEM WITH HAH |FINAL FORM|INITIAL FORM
FD89 ARABIC LIGATURE MEEM WITH HAH WITH |JEEM INITIAL FORM|MEEM INITIAL FORM|YEH FINAL FORM
FD8C ARABIC LIGATURE MEEM WITH JEEM WITH |HAH INITIAL FORM|MEEM INITIAL FORM
FD8E ARABIC LIGATURE MEEM WITH KHAH WITH |JEEM INITIAL FORM|MEEM INITIAL FORM
FD92 ARABIC LIGATURE |MEEM WITH JEEM WITH KHAH INITIAL FORM|HEH WITH MEEM WITH JEEM INITIAL FORM
FD94 ARABIC LIGATURE |HEH WITH MEEM WITH MEEM INITIAL FORM|NOON WITH HAH WITH MEEM INITIAL FORM
FD96 ARABIC LIGATURE NOON WITH |HAH WITH ALEF MAKSURA FINAL FORM|JEEM WITH MEEM FINAL FORM
FD98 ARABIC LIGATURE NOON WITH JEEM WITH |MEEM INITIAL FORM|ALEF MAKSURA FINAL FORM
FD9A ARABIC LIGATURE NOON WITH MEEM WITH |YEH FINAL FORM|ALEF MAKSURA FINAL FORM
FD9C ARABIC LIGATURE YEH WITH MEEM WITH MEEM |FINAL FORM|INITIAL FORM
FD9E ARABIC LIGATURE |BEH WITH KHAH WITH YEH FINAL FORM|TEH WITH JEEM WITH YEH FINAL FORM
FDA0 ARABIC LIGATURE TEH WITH |JEEM WITH ALEF MAKSURA FINAL FORM|KHAH WITH YEH FINAL FORM
FDA2 ARABIC LIGATURE TEH WITH |KHAH WITH ALEF MAKSURA FINAL FORM|MEEM WITH YEH FINAL FORM
FDA4 |ARABIC LIGATURE TEH WITH MEEM WITH ALEF MAKSURA FINAL FORM
FDA5 ARABIC LIGATURE JEEM WITH |MEEM WITH YEH FINAL FORM|HAH WITH ALEF MAKSURA FINAL FORM
FDA7 |ARABIC LIGATURE JEEM WITH MEEM WITH ALEF MAKSURA FINAL FORM
FDA8 ARABIC LIGATURE |SEEN WITH KHAH WITH ALEF MAKSURA FINAL FORM|SAD WITH HAH WITH YEH FINAL FORM
FDAA ARABIC LIGATURE |SHEEN WITH HAH WITH YEH FINAL FORM|DAD WITH HAH WITH YEH FINAL FORM
FDAC ARABIC LIGATURE LAM WITH |JEEM WITH YEH FINAL FORM|MEEM WITH YEH FINAL FORM
FDAE ARABIC LIGATURE YEH WITH |HAH WITH YEH FINAL FORM|JEEM WITH YEH FINAL FORM
FDB0 ARABIC LIGATURE |YEH WITH MEEM WITH YEH FINAL FORM|MEEM WITH MEEM WITH YEH FINAL FORM
FDB2 ARABIC LIGATURE |QAF WITH MEEM WITH YEH FINAL FORM|NOON WITH HAH WITH YEH FINAL FORM
FDB4 ARABIC LIGATURE |QAF WITH MEEM WITH HAH INITIAL FORM|LAM WITH HAH WITH MEEM INITIAL FORM
FDB6 ARABIC LIGATURE |AIN WITH MEEM WITH YEH FINAL FORM|KAF WITH MEEM WITH YEH FINAL FORM
FDB8 ARABIC LIGATURE |NOON WITH JEEM WITH HAH INITIAL FORM|MEEM WITH KHAH WITH YEH FINAL FORM
FDBA ARABIC LIGATURE |LAM WITH JEEM WITH MEEM INITIAL FORM|KAF WITH MEEM WITH MEEM FINAL FORM
FDBC ARABIC LIGATURE |LAM WITH JEEM WITH MEEM FINAL FORM|NOON WITH JEEM WITH HAH FINAL FORM
FDBE ARABIC LIGATURE |JEEM WITH HAH WITH YEH FINAL FORM|HAH WITH JEEM WITH YEH FINAL FORM
FDC0 ARABIC LIGATURE |MEEM WITH JEEM WITH YEH FINAL FORM|FEH WITH MEEM WITH YEH FINAL FORM
FDC2 ARABIC LIGATURE |BEH WITH HAH WITH YEH FINAL FORM|KAF WITH MEEM WITH MEEM INITIAL FORM
FDC4 ARABIC LIGATURE |AIN WITH JEEM WITH MEEM INITIAL FORM|SAD WITH MEEM WITH MEEM INITIAL FORM
FDC6 ARABIC LIGATURE |SEEN WITH KHAH WITH YEH FINAL FORM|NOON WITH JEEM WITH YEH FINAL FORM
FDCF |ARABIC LIGATURE SALAAMUHU ALAYNAA
FDF0 |ARABIC LIGATURE SALLA USED AS KORANIC STOP SIGN ISOLATED FORM
FDF1 ARABIC LIGATURE |QALA USED AS KORANIC STOP SIGN ISOLATED FORM|ALLAH ISOLATED FORM
FDF3 ARABIC LIGATURE |AKBAR ISOLATED FORM|MOHAMMAD ISOLATED FORM|SALAM ISOLATED FORM
FDF6 ARABIC LIGATURE |RASOUL ISOLATED FORM|ALAYHE ISOLATED FORM|WASALLAM ISOLATED FORM
FDF9 ARABIC LIGATURE |SALLA ISOLATED FORM|SALLALLAHOU ALAYHE WASALLAM|JALLAJALALOUHOU
FDFC |RIAL SIGN|ARABIC LIGATURE BISMILLAH AR-RAHMAN AR-RAHEEM
FDFE |ARABIC LIGATURE SUBHAANAHU WA TAAALAA|ARABIC LIGATURE AZZA WA JALL|VARIATION SELECTOR-1
FE01 VARIATION |SELECTOR-2|SELECTOR-3|SELECTOR-4|SELECTOR-5|SELECTOR-6|SELECTOR-7|SELECTOR-8
FE08 VARIATION |SELECTOR-9|SELECTOR-10|SELECTOR-11|SELECTOR-12|SELECTOR-13|SELECTOR-14|SELECTOR-15
FE0F |VARIATION SELECTOR-16|PRESENTATION FORM FOR VERTICAL COMMA
FE11 PRESENTATION FORM FOR VERTICAL |IDEOGRAPHIC COMMA|IDEOGRAPHIC FULL STOP|COLON|SEMICOLON
FE15 PRESENTATION FORM FOR VERTICAL |EXCLAMATION MARK|QUESTION MARK|LEFT WHITE LENTICULAR BRACKET
FE18 PRESENTATION FORM FOR VERTICAL |RIGHT WHITE LENTICULAR BRAKCET|HORIZONTAL ELLIPSIS
FE20 COMBINING |LIGATURE LEFT HALF|LIGATURE RIGHT HALF|DOUBLE TILDE LEFT HALF
FE23 COMBINING |DOUBLE TILDE RIGHT HALF|MACRON LEFT HALF|MACRON RIGHT HALF|CONJOINING MACRON
FE27 COMBINING |LIGATURE LEFT HALF BELOW|LIGATURE RIGHT HALF BELOW|TILDE LEFT HALF BELOW
FE2A COMBINING |TILDE RIGHT HALF BELOW|MACRON LEFT HALF BELOW|MACRON RIGHT HALF BELOW
FE2D COMBINING |CONJOINING MACRON BELOW|CYRILLIC TITLO LEFT HALF|CYRILLIC TITLO RIGHT HALF
FE30 PRESENTATION FORM FOR VERTICAL |TWO DOT LEADER|EM DASH|EN DASH|LOW LINE|WAVY LOW LINE
FE35 PRESENTATION FORM FOR VERTICAL |LEFT PARENTHESIS|RIGHT PARENTHESIS|LEFT CURLY BRACKET
FE38 PRESENTATION FORM FOR VERTICAL |RIGHT CURLY BRACKET|LEFT TORTOISE SHELL BRACKET
FE3A PRESENTATION FORM FOR VERTICAL |RIGHT TORTOISE SHELL BRACKET|LEFT BLACK LENTICULAR BRACKET
FE3C PRESENTATION FORM FOR VERTICAL |RIGHT BLACK LENTICULAR BRACKET|LEFT DOUBLE ANGLE BRACKET
FE3E PRESENTATION FORM FOR VERTICAL |RIGHT DOUBLE ANGLE BRACKET|LEFT ANGLE BRACKET
FE40 PRESENTATION FORM FOR VERTICAL |RIGHT ANGLE BRACKET|LEFT CORNER BRACKET|RIGHT CORNER BRACKET
FE43 PRESENTATION FORM FOR VERTICAL |LEFT WHITE CORNER BRACKET|RIGHT WHITE CORNER BRACKET
FE45 |SESAME DOT|WHITE SESAME DOT|PRESENTATION FORM FOR VERTICAL LEFT SQUARE BRACKET
FE48 |PRESENTATION FORM FOR VERTICAL RIGHT SQUARE BRACKET|DASHED OVERLINE|CENTRELINE OVERLINE
FE4B |WAVY OVERLINE|DOUBLE WAVY OVERLINE|DASHED LOW LINE|CENTRELINE LOW LINE|WAVY LOW LINE
FE50 SMALL |COMMA|IDEOGRAPHIC COMMA|FULL STOP
FE54 SMALL |SEMICOLON|COLON|QUESTION MARK|EXCLAMATION MARK|EM DASH|LEFT PARENTHESIS
FE5A SMALL |RIGHT PARENTHESIS|LEFT CURLY BRACKET|RIGHT CURLY BRACKET|LEFT TORTOISE SHELL BRACKET
FE5E SMALL |RIGHT TORTOISE SHELL BRACKET|NUMBER SIGN|AMPERSAND|ASTERISK|PLUS SIGN|HYPHEN-MINUS
FE64 SMALL |LESS-THAN SIGN|GREATER-THAN SIGN|EQUALS SIGN
FE68 SMALL |REVERSE SOLIDUS|DOLLAR SIGN|PERCENT SIGN|COMMERCIAL AT
FE70 ARABIC |FATHATAN ISOLATED FORM|TATWEEL WITH FATHATAN ABOVE|DAMMATAN ISOLATED FORM
FE73 ARABIC |TAIL FRAGMENT|KASRATAN ISOLATED FORM
FE76 ARABIC |FATHA ISOLATED FORM|FATHA MEDIAL FORM|DAMMA ISOLATED FORM|DAMMA MEDIAL FORM
FE7A ARABIC |KASRA ISOLATED FORM|KASRA MEDIAL FORM|SHADDA ISOLATED FORM|SHADDA MEDIAL FORM
FE7E ARABIC |SUKUN ISOLATED FORM|SUKUN MEDIAL FORM|LETTER HAMZA ISOLATED FORM
FE81 ARABIC LETTER ALEF WITH MADDA ABOVE |ISOLATED FORM|FINAL FORM
FE83 ARABIC LETTER ALEF WITH HAMZA ABOVE |ISOLATED FORM|FINAL FORM
FE85 ARABIC LETTER WAW WITH HAMZA ABOVE |ISOLATED FORM|FINAL FORM
FE87 ARABIC LETTER ALEF WITH HAMZA BELOW |ISOLATED FORM|FINAL FORM
FE89 ARABIC LETTER YEH WITH HAMZA ABOVE |ISOLATED FORM|FINAL FORM|INITIAL FORM|MEDIAL FORM
FE8D ARABIC LETTER |ALEF ISOLATED FORM|ALEF FINAL FORM|BEH ISOLATED FORM|BEH FINAL FORM
FE91 ARABIC LETTER |BEH INITIAL FORM|BEH MEDIAL FORM|TEH MARBUTA ISOLATED FORM
FE94 ARABIC LETTER TEH |MARBUTA FINAL FORM|ISOLATED FORM|FINAL FORM|INITIAL FORM|MEDIAL FORM
FE99 ARABIC LETTER THEH |ISOLATED FORM|FINAL FORM|INITIAL FORM|MEDIAL FORM
FE9D ARABIC LETTER JEEM |ISOLATED FORM|FINAL FORM|INITIAL FORM|MEDIAL FORM
FEA1 ARABIC LETTER HAH |ISOLATED FORM|FINAL FORM|INITIAL FORM|MEDIAL FORM
FEA5 ARABIC LETTER KHAH |ISOLATED FORM|FINAL FORM|INITIAL FORM|MEDIAL FORM
FEA9 ARABIC LETTER |DAL ISOLATED FORM|DAL FINAL FORM|THAL ISOLATED FORM|THAL FINAL FORM
FEAD ARABIC LETTER |REH ISOLATED FORM|REH FINAL FORM|ZAIN ISOLATED FORM|ZAIN FINAL FORM
FEB1 ARABIC LETTER SEEN |ISOLATED FORM|FINAL FORM|INITIAL FORM|MEDIAL FORM
FEB5 ARABIC LETTER SHEEN |ISOLATED FORM|FINAL FORM|INITIAL FORM|MEDIAL FORM
FEB9 ARABIC LETTER SAD |ISOLATED FORM|FINAL FORM|INITIAL FORM|MEDIAL FORM
FEBD ARABIC LETTER DAD |ISOLATED FORM|FINAL FORM|INITIAL FORM|MEDIAL FORM
FEC1 ARABIC LETTER TAH |ISOLATED FORM|FINAL FORM|INITIAL FORM|MEDIAL FORM
FEC5 ARABIC LETTER ZAH |ISOLATED FORM|FINAL FORM|INITIAL FORM|MEDIAL FORM
FEC9 ARABIC LETTER AIN |ISOLATED FORM|FINAL FORM|INITIAL FORM|MEDIAL FORM
FECD ARABIC LETTER GHAIN |ISOLATED FORM|FINAL FORM|INITIAL FORM|MEDIAL FORM
FED1 ARABIC LETTER FEH |ISOLATED FORM|FINAL FORM|INITIAL FORM|MEDIAL FORM
FED5 ARABIC LETTER QAF |ISOLATED FORM|FINAL FORM|INITIAL FORM|MEDIAL FORM
FED9 ARABIC LETTER KAF |ISOLATED FORM|FINAL FORM|INITIAL FORM|MEDIAL FORM
FEDD ARABIC LETTER LAM |ISOLATED FORM|FINAL FORM|INITIAL FORM|MEDIAL FORM
FEE1 ARABIC LETTER MEEM |ISOLATED FORM|FINAL FORM|INITIAL FORM|MEDIAL FORM
FEE5 ARABIC LETTER NOON |ISOLATED FORM|FINAL FORM|INITIAL FORM|MEDIAL FORM
FEE9 ARABIC LETTER HEH |ISOLATED FORM|FINAL FORM|INITIAL FORM|MEDIAL FORM
FEED ARABIC LETTER |WAW ISOLATED FORM|WAW FINAL FORM|ALEF MAKSURA ISOLATED FORM
FEF0 ARABIC LETTER |ALEF MAKSURA FINAL FORM|YEH ISOLATED FORM|YEH FINAL FORM|YEH INITIAL FORM
FEF4 ARABIC |LETTER YEH MEDIAL FORM|LIGATURE LAM WITH ALEF WITH MADDA ABOVE ISOLATED FORM
FEF6 ARABIC LIGATURE LAM WITH ALEF WITH |MADDA ABOVE FINAL FORM|HAMZA ABOVE ISOLATED FORM
FEF8 ARABIC LIGATURE LAM WITH ALEF WITH HAMZA |ABOVE FINAL FORM|BELOW ISOLATED FORM
FEFA ARABIC LIGATURE LAM WITH ALEF |WITH HAMZA BELOW FINAL FORM|ISOLATED FORM|FINAL FORM
FEFF |ZERO WIDTH NO-BREAK SPACE
FF01 FULLWIDTH |EXCLAMATION MARK|QUOTATION MARK|NUMBER SIGN|DOLLAR SIGN|PERCENT SIGN|AMPERSAND
FF07 FULLWIDTH |APOSTROPHE|LEFT PARENTHESIS|RIGHT PARENTHESIS|ASTERISK|PLUS SIGN|COMMA
FF0D FULLWIDTH |HYPHEN-MINUS|FULL STOP|SOLIDUS|DIGIT ZERO|DIGIT ONE|DIGIT TWO|DIGIT THREE
FF14 FULLWIDTH |DIGIT FOUR|DIGIT FIVE|DIGIT SIX|DIGIT SEVEN|DIGIT EIGHT|DIGIT NINE|COLON|SEMICOLON
FF1C FULLWIDTH |LESS-THAN SIGN|EQUALS SIGN|GREATER-THAN SIGN|QUESTION MARK|COMMERCIAL AT
FF21 FULLWIDTH LATIN CAPITAL LETTER |A|B|C|D|E|F|G|H|I|J|K|L|M|N|O|P|Q|R|S|T|U|V|W|X|Y|Z
FF3B FULLWIDTH |LEFT SQUARE BRACKET|REVERSE SOLIDUS|RIGHT SQUARE BRACKET|CIRCUMFLEX ACCENT
FF3F FULLWIDTH |LOW LINE|GRAVE ACCENT|LATIN SMALL LETTER A|LATIN SMALL LETTER B
FF43 FULLWIDTH LATIN SMALL LETTER |C|D|E|F|G|H|I|J|K|L|M|N|O|P|Q|R|S|T|U|V|W|X|Y|Z
FF5B FULLWIDTH |LEFT CURLY BRACKET|VERTICAL LINE|RIGHT CURLY BRACKET|TILDE|LEFT WHITE PARENTHESIS
FF60 |FULLWIDTH RIGHT WHITE PARENTHESIS|HALFWIDTH IDEOGRAPHIC FULL STOP
FF62 HALFWIDTH |LEFT CORNER BRACKET|RIGHT CORNER BRACKET|IDEOGRAPHIC COMMA|KATAKANA MIDDLE DOT
FF66 HALFWIDTH KATAKANA LETTER |WO|SMALL A|SMALL I|SMALL U|SMALL E|SMALL O|SMALL YA|SMALL YU
FF6E HALFWIDTH KATAKANA LETTER SMALL |YO|TU
FF70 HALFWIDTH |KATAKANA-HIRAGANA PROLONGED SOUND MARK|KATAKANA LETTER A|KATAKANA LETTER I
FF73 HALFWIDTH KATAKANA LETTER |U|E|O|KA|KI|KU|KE|KO|SA|SI|SU|SE|SO|TA|TI|TU|TE|TO|NA|NI|NU|NE|NO
FF8A HALFWIDTH KATAKANA LETTER |HA|HI|HU|HE|HO|MA|MI|MU|ME|MO|YA|YU|YO|RA|RI|RU|RE|RO|WA|N
FF9E HALFWIDTH |KATAKANA VOICED SOUND MARK|KATAKANA SEMI-VOICED SOUND MARK|HANGUL FILLER
FFA1 HALFWIDTH HANGUL LETTER |KIYEOK|SSANGKIYEOK|KIYEOK-SIOS|NIEUN|NIEUN-CIEUC|NIEUN-HIEUH|TIKEUT
FFA8 HALFWIDTH HANGUL LETTER |SSANGTIKEUT|RIEUL|RIEUL-KIYEOK|RIEUL-MIEUM|RIEUL-PIEUP|RIEUL-SIOS
FFAE HALFWIDTH HANGUL LETTER |RIEUL-THIEUTH|RIEUL-PHIEUPH|RIEUL-HIEUH|MIEUM|PIEUP|SSANGPIEUP
FFB4 HALFWIDTH HANGUL LETTER |PIEUP-SIOS|SIOS|SSANGSIOS|IEUNG|CIEUC|SSANGCIEUC|CHIEUCH|KHIEUKH
FFBC HALFWIDTH HANGUL LETTER |THIEUTH|PHIEUPH|HIEUH
FFC2 HALFWIDTH HANGUL LETTER |A|AE|YA|YAE|EO|E
FFCA HALFWIDTH HANGUL LETTER |YEO|YE|O|WA|WAE|OE
FFD2 HALFWIDTH HANGUL LETTER |YO|U|WEO|WE|WI|YU
FFDA HALFWIDTH HANGUL LETTER |EU|YI|I
FFE0 FULLWIDTH |CENT SIGN|POUND SIGN|NOT SIGN|MACRON|BROKEN BAR|YEN SIGN|WON SIGN
FFE8 HALFWIDTH |FORMS LIGHT VERTICAL|LEFTWARDS ARROW|UPWARDS ARROW|RIGHTWARDS ARROW
FFEC HALFWIDTH |DOWNWARDS ARROW|BLACK SQUARE|WHITE CIRCLE
FFF9 INTERLINEAR ANNOTATION |ANCHOR|SEPARATOR|TERMINATOR
FFFC |OBJECT REPLACEMENT CHARACTER|REPLACEMENT CHARACTER"

end BraceScript.Text.CharacterName
