/-!
# Names of ancient and minor scripts

The characters from U+10000 to U+1CFFF. Every line holds the names of
characters that follow each other: the code point of the first, what the names begin with, and how
each of them goes on.
-/

namespace BraceScript.Text.CharacterName

/-- The names of ancient and minor scripts. -/
def ancient : String :=
  "10000 LINEAR B SYLLABLE |B008 A|B038 E|B028 I|B061 O|B010 U|B001 DA|B045 DE|B007 DI|B014 DO
10009 LINEAR B SYLLABLE |B051 DU|B057 JA|B046 JE
1000D LINEAR B SYLLABLE |B036 JO|B065 JU|B077 KA|B044 KE|B067 KI|B070 KO|B081 KU|B080 MA|B013 ME
10016 LINEAR B SYLLABLE |B073 MI|B015 MO|B023 MU|B006 NA|B024 NE|B030 NI|B052 NO|B055 NU|B003 PA
1001F LINEAR B SYLLABLE |B072 PE|B039 PI|B011 PO|B050 PU|B016 QA|B078 QE|B021 QI|B032 QO
10028 LINEAR B SYLLABLE |B060 RA|B027 RE|B053 RI|B002 RO|B026 RU|B031 SA|B009 SE|B041 SI|B012 SO
10031 LINEAR B SYLLABLE |B058 SU|B059 TA|B004 TE|B037 TI|B005 TO|B069 TU|B054 WA|B075 WE|B040 WI
1003A |LINEAR B SYLLABLE B042 WO
1003C LINEAR B SYLLABLE |B017 ZA|B074 ZE
1003F LINEAR B SYLLABLE |B020 ZO|B025 A2|B043 A3|B085 AU|B071 DWE|B090 DWO|B048 NWA|B029 PU2
10047 LINEAR B SYLLABLE |B062 PTE|B076 RA2|B033 RA3|B068 RO2|B066 TA2|B087 TWE|B091 TWO
10050 LINEAR B SYMBOL |B018|B019|B022|B034|B047|B049|B056|B063|B064|B079|B082|B083|B086|B089
10080 LINEAR B IDEOGRAM |B100 MAN|B102 WOMAN|B104 DEER|B105 EQUID|B105F MARE|B105M STALLION
10086 LINEAR B IDEOGRAM |B106F EWE|B106M RAM|B107F SHE-GOAT|B107M HE-GOAT|B108F SOW|B108M BOAR
1008C LINEAR B IDEOGRAM |B109F COW|B109M BULL|B120 WHEAT|B121 BARLEY|B122 OLIVE|B123 SPICE
10092 LINEAR B |IDEOGRAM B125 CYPERUS|MONOGRAM B127 KAPO|MONOGRAM B128 KANAKO|IDEOGRAM B130 OIL
10096 LINEAR B |IDEOGRAM B131 WINE|IDEOGRAM B132|MONOGRAM B133 AREPA|MONOGRAM B135 MERI
1009A LINEAR B IDEOGRAM |B140 BRONZE|B141 GOLD|B142|B145 WOOL|B146|B150|B151 HORN|B152|B153|B154
100A4 LINEAR B |MONOGRAM B156 TURO2|IDEOGRAM B157|IDEOGRAM B158|IDEOGRAM B159 CLOTH|IDEOGRAM B160
100A9 LINEAR B IDEOGRAM |B161|B162 GARMENT|B163 ARMOUR|B164|B165|B166|B167|B168|B169|B170|B171
100B4 LINEAR B IDEOGRAM |B172|B173 MONTH|B174|B176 TREE|B177|B178|B179|B180|B181|B182|B183|B184
100C0 LINEAR B IDEOGRAM |B185|B189|B190|B191 HELMET|B220 FOOTSTOOL|B225 BATHTUB|B230 SPEAR
100C7 LINEAR B IDEOGRAM |B231 ARROW|B232|B233 SWORD|B234|B236|B240 WHEELED CHARIOT|B241 CHARIOT
100CE LINEAR B IDEOGRAM |B242 CHARIOT FRAME|B243 WHEEL|B245|B246
100D2 LINEAR B |MONOGRAM B247 DIPTE|IDEOGRAM B248|IDEOGRAM B249|IDEOGRAM B251|IDEOGRAM B252
100D7 LINEAR B IDEOGRAM |B253|B254 DART|B255|B256|B257|B258|B259|VESSEL B155|VESSEL B200
100E0 LINEAR B IDEOGRAM VESSEL |B201|B202|B203|B204|B205|B206|B207|B208|B209|B210|B211|B212|B213
100ED LINEAR B IDEOGRAM VESSEL |B214|B215|B216|B217|B218|B219|B221|B222|B226|B227|B228|B229|B250
100FA |LINEAR B IDEOGRAM VESSEL B305
10100 AEGEAN |WORD SEPARATOR LINE|WORD SEPARATOR DOT|CHECK MARK
10107 AEGEAN NUMBER |ONE|TWO|THREE|FOUR|FIVE|SIX|SEVEN|EIGHT|NINE|TEN|TWENTY|THIRTY|FORTY|FIFTY
10115 AEGEAN NUMBER |SIXTY|SEVENTY|EIGHTY|NINETY|ONE HUNDRED|TWO HUNDRED|THREE HUNDRED
1011C AEGEAN NUMBER |FOUR HUNDRED|FIVE HUNDRED|SIX HUNDRED|SEVEN HUNDRED|EIGHT HUNDRED
10121 AEGEAN NUMBER |NINE HUNDRED|ONE THOUSAND|TWO THOUSAND|THREE THOUSAND|FOUR THOUSAND
10126 AEGEAN NUMBER |FIVE THOUSAND|SIX THOUSAND|SEVEN THOUSAND|EIGHT THOUSAND|NINE THOUSAND
1012B AEGEAN NUMBER |TEN THOUSAND|TWENTY THOUSAND|THIRTY THOUSAND|FORTY THOUSAND|FIFTY THOUSAND
10130 AEGEAN NUMBER |SIXTY THOUSAND|SEVENTY THOUSAND|EIGHTY THOUSAND|NINETY THOUSAND
10137 AEGEAN WEIGHT |BASE UNIT|FIRST SUBUNIT|SECOND SUBUNIT|THIRD SUBUNIT|FOURTH SUBUNIT
1013C AEGEAN |DRY MEASURE FIRST SUBUNIT|LIQUID MEASURE FIRST SUBUNIT|MEASURE SECOND SUBUNIT
1013F |AEGEAN MEASURE THIRD SUBUNIT|GREEK ACROPHONIC ATTIC ONE QUARTER
10141 GREEK ACROPHONIC ATTIC |ONE HALF|ONE DRACHMA|FIVE|FIFTY|FIVE HUNDRED|FIVE THOUSAND
10147 GREEK ACROPHONIC ATTIC |FIFTY THOUSAND|FIVE TALENTS|TEN TALENTS|FIFTY TALENTS
1014B GREEK ACROPHONIC ATTIC |ONE HUNDRED TALENTS|FIVE HUNDRED TALENTS|ONE THOUSAND TALENTS
1014E GREEK ACROPHONIC ATTIC |FIVE THOUSAND TALENTS|FIVE STATERS|TEN STATERS|FIFTY STATERS
10152 GREEK ACROPHONIC ATTIC |ONE HUNDRED STATERS|FIVE HUNDRED STATERS|ONE THOUSAND STATERS
10155 GREEK ACROPHONIC ATTIC |TEN THOUSAND STATERS|FIFTY THOUSAND STATERS|TEN MNAS
10158 GREEK ACROPHONIC |HERAEUM ONE PLETHRON|THESPIAN ONE|HERMIONIAN ONE|EPIDAUREAN TWO
1015C GREEK ACROPHONIC |THESPIAN TWO|CYRENAIC TWO DRACHMAS|EPIDAUREAN TWO DRACHMAS|TROEZENIAN FIVE
10160 GREEK ACROPHONIC |TROEZENIAN TEN|TROEZENIAN TEN ALTERNATE FORM|HERMIONIAN TEN|MESSENIAN TEN
10164 GREEK ACROPHONIC |THESPIAN TEN|THESPIAN THIRTY|TROEZENIAN FIFTY
10167 GREEK ACROPHONIC |TROEZENIAN FIFTY ALTERNATE FORM|HERMIONIAN FIFTY|THESPIAN FIFTY
1016A GREEK ACROPHONIC |THESPIAN ONE HUNDRED|THESPIAN THREE HUNDRED|EPIDAUREAN FIVE HUNDRED
1016D GREEK ACROPHONIC |TROEZENIAN FIVE HUNDRED|THESPIAN FIVE HUNDRED|CARYSTIAN FIVE HUNDRED
10170 GREEK ACROPHONIC |NAXIAN FIVE HUNDRED|THESPIAN ONE THOUSAND|THESPIAN FIVE THOUSAND
10173 GREEK |ACROPHONIC DELPHIC FIVE MNAS|ACROPHONIC STRATIAN FIFTY MNAS|ONE HALF SIGN
10176 GREEK |ONE HALF SIGN ALTERNATE FORM|TWO THIRDS SIGN|THREE QUARTERS SIGN|YEAR SIGN
1017A GREEK |TALENT SIGN|DRACHMA SIGN|OBOL SIGN|TWO OBOLS SIGN|THREE OBOLS SIGN|FOUR OBOLS SIGN
10180 GREEK |FIVE OBOLS SIGN|METRETES SIGN|KYATHOS BASE SIGN|LITRA SIGN|OUNKIA SIGN|XESTES SIGN
10186 GREEK |ARTABE SIGN|AROURA SIGN|GRAMMA SIGN|TRYBLION BASE SIGN|ZERO SIGN|ONE QUARTER SIGN
1018C |GREEK SINUSOID SIGN|GREEK INDICTION SIGN|NOMISMA SIGN
10190 ROMAN |SEXTANS SIGN|UNCIA SIGN|SEMUNCIA SIGN|SEXTULA SIGN|DIMIDIA SEXTULA SIGN|SILIQUA SIGN
10196 ROMAN |DENARIUS SIGN|QUINARIUS SIGN|SESTERTIUS SIGN|DUPONDIUS SIGN|AS SIGN|CENTURIAL SIGN
1019C |ASCIA SYMBOL
101A0 |GREEK SYMBOL TAU RHO
101D0 PHAISTOS DISC SIGN |PEDESTRIAN|PLUMED HEAD|TATTOOED HEAD|CAPTIVE|CHILD|WOMAN|HELMET|GAUNTLET
101D8 PHAISTOS DISC SIGN |TIARA|ARROW|BOW|SHIELD|CLUB|MANACLES|MATTOCK|SAW|LID|BOOMERANG
101E2 PHAISTOS DISC SIGN |CARPENTRY PLANE|DOLIUM|COMB|SLING|COLUMN|BEEHIVE|SHIP|HORN|HIDE
101EB PHAISTOS DISC SIGN |BULLS LEG|CAT|RAM|EAGLE|DOVE|TUNNY|BEE|PLANE TREE|VINE|PAPYRUS|ROSETTE
101F6 PHAISTOS DISC SIGN |LILY|OX BACK|FLUTE|GRATER|STRAINER|SMALL AXE|WAVY BAND
101FD |PHAISTOS DISC SIGN COMBINING OBLIQUE STROKE
10280 LYCIAN LETTER |A|E|B|BH|G|D|I|W|Z|TH|J|K|Q|L|M|N|MM|NN|U|P|KK|R|S|T|TT|AN|EN|H|X
102A0 CARIAN LETTER |A|P2|D|L|UUU|R|LD|A2|Q|B|M|O|D2|T|SH|SH2|S|C-18|U|NN|X|N|TT2|P|SS|I|E|UUUU|K
102BD CARIAN LETTER |K2|ND|UU|G|G2|ST|ST2|NG|II|C-39|TT|UUU2|RR|MB|MB2|MB3|MB4|LD2|E2|UUU3
102E0 COPTIC EPACT |THOUSANDS MARK|DIGIT ONE|DIGIT TWO|DIGIT THREE|DIGIT FOUR|DIGIT FIVE|DIGIT SIX
102E7 COPTIC EPACT |DIGIT SEVEN|DIGIT EIGHT|DIGIT NINE|NUMBER TEN|NUMBER TWENTY|NUMBER THIRTY
102ED COPTIC EPACT NUMBER |FORTY|FIFTY|SIXTY|SEVENTY|EIGHTY|NINETY|ONE HUNDRED|TWO HUNDRED
102F5 COPTIC EPACT NUMBER |THREE HUNDRED|FOUR HUNDRED|FIVE HUNDRED|SIX HUNDRED|SEVEN HUNDRED
102FA COPTIC EPACT NUMBER |EIGHT HUNDRED|NINE HUNDRED
10300 OLD ITALIC LETTER |A|BE|KE|DE|E|VE|ZE|HE|THE|I|KA|EL|EM|EN|ESH|O|PE|SHE|KU|ER|ES|TE|U|EKS
10318 OLD ITALIC LETTER |PHE|KHE|EF|ERS|CHE|II|UU|ESS
10320 OLD ITALIC NUMERAL |ONE|FIVE|TEN|FIFTY
1032D OLD ITALIC LETTER |YE|NORTHERN TSE|SOUTHERN TSE
10330 GOTHIC LETTER |AHSA|BAIRKAN|GIBA|DAGS|AIHVUS|QAIRTHRA|IUJA|HAGL|THIUTH|EIS|KUSMA|LAGUS|MANNA
1033D GOTHIC LETTER |NAUTHS|JER|URUS|PAIRTHRA|NINETY|RAIDA|SAUIL|TEIWS|WINJA|FAIHU|IGGWS|HWAIR
10349 GOTHIC LETTER |OTHAL|NINE HUNDRED
10350 OLD PERMIC LETTER |AN|BUR|GAI|DOI|E|ZHOI|DZHOI|ZATA|DZITA|I|KOKE|LEI|MENOE|NENOE|VOOI|PEEI
10360 OLD PERMIC LETTER |REI|SII|TAI|U|CHERY|SHOOI|SHCHOOI|YRY|YERU|O|OO|EF|HA|TSIU|VER|YER|YERI
10371 OLD PERMIC LETTER |YAT|IE|YU|YA|IA
10376 COMBINING OLD PERMIC LETTER |AN|DOI|ZATA|NENOE|SII
10380 UGARITIC LETTER |ALPA|BETA|GAMLA|KHA|DELTA|HO|WO|ZETA|HOTA|TET|YOD|KAF|SHIN|LAMDA|MEM|DHAL
10390 UGARITIC LETTER |NUN|ZU|SAMKA|AIN|PU|SADE|QOPA|RASHA|THANNA|GHAIN|TO|I|U|SSU
1039F |UGARITIC WORD DIVIDER|OLD PERSIAN SIGN A|OLD PERSIAN SIGN I|OLD PERSIAN SIGN U
103A3 OLD PERSIAN SIGN |KA|KU|GA|GU|XA|CA|JA|JI|TA|TU|DA|DI|DU|THA|PA|BA|FA|NA|NU|MA|MI|MU|YA|VA
103BB OLD PERSIAN SIGN |VI|RA|RU|LA|SA|ZA|SHA|SSA|HA
103C8 OLD PERSIAN SIGN |AURAMAZDAA|AURAMAZDAA-2|AURAMAZDAAHA|XSHAAYATHIYA|DAHYAAUSH|DAHYAAUSH-2
103CE OLD PERSIAN |SIGN BAGA|SIGN BUUMISH|WORD DIVIDER|NUMBER ONE|NUMBER TWO|NUMBER TEN
103D4 OLD PERSIAN NUMBER |TWENTY|HUNDRED
10400 DESERET CAPITAL LETTER |LONG I|LONG E|LONG A|LONG AH|LONG O|LONG OO|SHORT I|SHORT E|SHORT A
10409 DESERET CAPITAL LETTER |SHORT AH|SHORT O|SHORT OO|AY|OW|WU|YEE|H|PEE|BEE|TEE|DEE|CHEE|JEE
10417 DESERET CAPITAL LETTER |KAY|GAY|EF|VEE|ETH|THEE|ES|ZEE|ESH|ZHEE|ER|EL|EM|EN|ENG|OI|EW
10428 DESERET SMALL LETTER |LONG I|LONG E|LONG A|LONG AH|LONG O|LONG OO|SHORT I|SHORT E|SHORT A
10431 DESERET SMALL LETTER |SHORT AH|SHORT O|SHORT OO|AY|OW|WU|YEE|H|PEE|BEE|TEE|DEE|CHEE|JEE|KAY
10440 DESERET SMALL LETTER |GAY|EF|VEE|ETH|THEE|ES|ZEE|ESH|ZHEE|ER|EL|EM|EN|ENG|OI|EW
10450 SHAVIAN LETTER |PEEP|TOT|KICK|FEE|THIGH|SO|SURE|CHURCH|YEA|HUNG|BIB|DEAD|GAG|VOW|THEY|ZOO
10460 SHAVIAN LETTER |MEASURE|JUDGE|WOE|HA-HA|LOLL|MIME|IF|EGG|ASH|ADO|ON|WOOL|OUT|AH|ROAR|NUN|EAT
10471 SHAVIAN LETTER |AGE|ICE|UP|OAK|OOZE|OIL|AWE|ARE|OR|AIR|ERR|ARRAY|EAR|IAN|YEW
10480 OSMANYA LETTER |ALEF|BA|TA|JA|XA|KHA|DEEL|RA|SA|SHIIN|DHA|CAYN|GA|FA|QAAF|KAAF|LAAN|MIIN
10492 OSMANYA LETTER |NUUN|WAW|HA|YA|A|E|I|O|U|AA|EE|OO
104A0 OSMANYA DIGIT |ZERO|ONE|TWO|THREE|FOUR|FIVE|SIX|SEVEN|EIGHT|NINE
104B0 OSAGE CAPITAL LETTER |A|AI|AIN|AH|BRA|CHA|EHCHA|E|EIN|HA|HYA|I|KA|EHKA|KYA|LA|MA|NA|O|OIN|PA
104C5 OSAGE CAPITAL LETTER |EHPA|SA|SHA|TA|EHTA|TSA|EHTSA|TSHA|DHA|U|WA|KHA|GHA|ZA|ZHA
104D8 OSAGE SMALL LETTER |A|AI|AIN|AH|BRA|CHA|EHCHA|E|EIN|HA|HYA|I|KA|EHKA|KYA|LA|MA|NA|O|OIN|PA
104ED OSAGE SMALL LETTER |EHPA|SA|SHA|TA|EHTA|TSA|EHTSA|TSHA|DHA|U|WA|KHA|GHA|ZA|ZHA
10500 ELBASAN LETTER |A|BE|CE|CHE|DE|NDE|DHE|EI|E|FE|GE|GJE|HE|I|JE|KE|LE|LLE|ME|NE|NA|NJE|O|PE|QE
10519 ELBASAN LETTER |RE|RRE|SE|SHE|TE|THE|U|VE|XE|Y|ZE|ZHE|GHE|GHAMMA|KHE
10530 CAUCASIAN ALBANIAN LETTER |ALT|BET|GIM|DAT|EB|ZARL|EYN|ZHIL|TAS|CHA|YOWD|ZHA|IRB|SHA|LAN
1053F CAUCASIAN ALBANIAN LETTER |INYA|XEYN|DYAN|CAR|JHOX|KAR|LYIT|HEYT|QAY|AOR|CHOY|CHI|CYAY|MAQ
1054D CAUCASIAN ALBANIAN LETTER |QAR|NOWC|DZYAY|SHAK|JAYN|ON|TYAY|FAM|DZAY|CHAT|PEN|GHEYS|RAT|SEYK
1055B CAUCASIAN ALBANIAN LETTER |VEYZ|TIWR|SHOY|IWN|CYAW|CAYN|YAYD|PIWR|KIW
1056F |CAUCASIAN ALBANIAN CITATION MARK|VITHKUQI CAPITAL LETTER A|VITHKUQI CAPITAL LETTER BBE
10572 VITHKUQI CAPITAL LETTER |BE|CE|CHE|DE|DHE|EI|E|FE|GA
1057C VITHKUQI CAPITAL LETTER |HA|HHA|I|IJE|JE|KA|LA|LLA|ME|NE|NJE|O|PE|QA|RE
1058C VITHKUQI CAPITAL LETTER |SE|SHE|TE|THE|U|VE|XE
10594 VITHKUQI CAPITAL LETTER |Y|ZE
10597 VITHKUQI SMALL LETTER |A|BBE|BE|CE|CHE|DE|DHE|EI|E|FE|GA
105A3 VITHKUQI SMALL LETTER |HA|HHA|I|IJE|JE|KA|LA|LLA|ME|NE|NJE|O|PE|QA|RE
105B3 VITHKUQI SMALL LETTER |SE|SHE|TE|THE|U|VE|XE
105BB VITHKUQI SMALL LETTER |Y|ZE
10600 LINEAR A SIGN |AB001|AB002|AB003|AB004|AB005|AB006|AB007|AB008|AB009|AB010|AB011|AB013|AB016
1060D LINEAR A SIGN |AB017|AB020|AB021|AB021F|AB021M|AB022|AB022F|AB022M|AB023|AB023M|AB024|AB026
10619 LINEAR A SIGN |AB027|AB028|A028B|AB029|AB030|AB031|AB034|AB037|AB038|AB039|AB040|AB041|AB044
10626 LINEAR A SIGN |AB045|AB046|AB047|AB048|AB049|AB050|AB051|AB053|AB054|AB055|AB056|AB057|AB058
10633 LINEAR A SIGN |AB059|AB060|AB061|AB065|AB066|AB067|AB069|AB070|AB073|AB074|AB076|AB077|AB078
10640 LINEAR A SIGN |AB079|AB080|AB081|AB082|AB085|AB086|AB087|A100-102|AB118|AB120|A120B|AB122
1064C LINEAR A SIGN |AB123|AB131A|AB131B|A131C|AB164|AB171|AB180|AB188|AB191|A301|A302|A303|A304
10659 LINEAR A SIGN |A305|A306|A307|A308|A309A|A309B|A309C|A310|A311|A312|A313A|A313B|A313C|A314
10667 LINEAR A SIGN |A315|A316|A317|A318|A319|A320|A321|A322|A323|A324|A325|A326|A327|A328|A329
10676 LINEAR A SIGN |A330|A331|A332|A333|A334|A335|A336|A337|A338|A339|A340|A341|A342|A343|A344
10685 LINEAR A SIGN |A345|A346|A347|A348|A349|A350|A351|A352|A353|A354|A355|A356|A357|A358|A359
10694 LINEAR A SIGN |A360|A361|A362|A363|A364|A365|A366|A367|A368|A369|A370|A371|A400-VAS|A401-VAS
106A2 LINEAR A SIGN |A402-VAS|A403-VAS|A404-VAS|A405-VAS|A406-VAS|A407-VAS|A408-VAS|A409-VAS
106AA LINEAR A SIGN |A410-VAS|A411-VAS|A412-VAS|A413-VAS|A414-VAS|A415-VAS|A416-VAS|A417-VAS
106B2 LINEAR A SIGN |A418-VAS|A501|A502|A503|A504|A505|A506|A508|A509|A510|A511|A512|A513|A515
106C0 LINEAR A SIGN |A516|A520|A521|A523|A524|A525|A526|A527|A528|A529|A530|A531|A532|A534|A535
106CF LINEAR A SIGN |A536|A537|A538|A539|A540|A541|A542|A545|A547|A548|A549|A550|A551|A552|A553
106DE LINEAR A SIGN |A554|A555|A556|A557|A559|A563|A564|A565|A566|A568|A569|A570|A571|A572|A573
106ED LINEAR A SIGN |A574|A575|A576|A577|A578|A579|A580|A581|A582|A583|A584|A585|A586|A587|A588
106FC LINEAR A SIGN |A589|A591|A592|A594|A595|A596|A598|A600|A601|A602|A603|A604|A606|A608|A609
1070B LINEAR A SIGN |A610|A611|A612|A613|A614|A615|A616|A617|A618|A619|A620|A621|A622|A623|A624
1071A LINEAR A SIGN |A626|A627|A628|A629|A634|A637|A638|A640|A642|A643|A644|A645|A646|A648|A649
10729 LINEAR A SIGN |A651|A652|A653|A654|A655|A656|A657|A658|A659|A660|A661|A662|A663|A664
10740 LINEAR A SIGN |A701 A|A702 B|A703 D|A704 E|A705 F|A706 H|A707 J|A708 K|A709 L|A709-2 L2
1074A LINEAR A SIGN |A709-3 L3|A709-4 L4|A709-6 L6|A710 W|A711 X|A712 Y|A713 OMEGA|A714 ABB
10752 LINEAR A SIGN |A715 BB|A717 DD|A726 EYYY|A732 JE
10760 LINEAR A SIGN |A800|A801|A802|A803|A804|A805|A806|A807
10780 MODIFIER LETTER |SMALL CAPITAL AA|SUPERSCRIPT TRIANGULAR COLON
10782 MODIFIER LETTER |SUPERSCRIPT HALF TRIANGULAR COLON|SMALL AE|SMALL CAPITAL B
10785 |MODIFIER LETTER SMALL B WITH HOOK
10787 MODIFIER LETTER SMALL DZ |DIGRAPH|DIGRAPH WITH RETROFLEX HOOK|DIGRAPH WITH CURL
1078A MODIFIER LETTER SMALL |DEZH DIGRAPH|D WITH TAIL|D WITH HOOK|D WITH HOOK AND TAIL|REVERSED E
1078F MODIFIER LETTER SMALL |CLOSED REVERSED OPEN E|FENG DIGRAPH|RAMS HORN|CAPITAL G|G WITH HOOK
10794 MODIFIER LETTER SMALL |CAPITAL G WITH HOOK|H WITH STROKE|CAPITAL H|HENG WITH HOOK
10798 MODIFIER LETTER SMALL |DOTLESS J WITH STROKE AND HOOK|LS DIGRAPH|LZ DIGRAPH|L WITH BELT
1079C MODIFIER LETTER SMALL |CAPITAL L WITH BELT|L WITH RETROFLEX HOOK AND BELT|LEZH
1079F MODIFIER LETTER SMALL |LEZH WITH RETROFLEX HOOK|TURNED Y|TURNED Y WITH BELT|O WITH STROKE
107A3 MODIFIER LETTER SMALL |CAPITAL OE|CLOSED OMEGA|Q|TURNED R WITH LONG LEG
107A7 MODIFIER LETTER SMALL |TURNED R WITH LONG LEG AND RETROFLEX HOOK|R WITH TAIL|R WITH FISHHOOK
107AA MODIFIER LETTER SMALL |CAPITAL R|TC DIGRAPH WITH CURL|TS DIGRAPH
107AD MODIFIER LETTER SMALL |TS DIGRAPH WITH RETROFLEX HOOK|TESH DIGRAPH|T WITH RETROFLEX HOOK
107B0 |MODIFIER LETTER SMALL V WITH RIGHT HOOK
107B2 MODIFIER LETTER |SMALL CAPITAL Y|GLOTTAL STOP WITH STROKE|REVERSED GLOTTAL STOP WITH STROKE
107B5 MODIFIER LETTER |BILABIAL CLICK|DENTAL CLICK|LATERAL CLICK|ALVEOLAR CLICK
107B9 MODIFIER LETTER |RETROFLEX CLICK WITH RETROFLEX HOOK|SMALL S WITH CURL
10800 CYPRIOT SYLLABLE |A|E|I|O|U|JA
10808 |CYPRIOT SYLLABLE JO
1080A CYPRIOT SYLLABLE |KA|KE|KI|KO|KU|LA|LE|LI|LO|LU|MA|ME|MI|MO|MU|NA|NE|NI|NO|NU|PA|PE|PI|PO|PU
10823 CYPRIOT SYLLABLE |RA|RE|RI|RO|RU|SA|SE|SI|SO|SU|TA|TE|TI|TO|TU|WA|WE|WI|WO
10837 CYPRIOT SYLLABLE |XA|XE
1083C |CYPRIOT SYLLABLE ZA
1083F |CYPRIOT SYLLABLE ZO|IMPERIAL ARAMAIC LETTER ALEPH|IMPERIAL ARAMAIC LETTER BETH
10842 IMPERIAL ARAMAIC LETTER |GIMEL|DALETH|HE|WAW|ZAYIN|HETH|TETH|YODH|KAPH|LAMEDH|MEM|NUN|SAMEKH
1084F IMPERIAL ARAMAIC LETTER |AYIN|PE|SADHE|QOPH|RESH|SHIN|TAW
10857 IMPERIAL ARAMAIC |SECTION SIGN|NUMBER ONE|NUMBER TWO|NUMBER THREE|NUMBER TEN|NUMBER TWENTY
1085D IMPERIAL ARAMAIC NUMBER |ONE HUNDRED|ONE THOUSAND|TEN THOUSAND
10860 PALMYRENE LETTER |ALEPH|BETH|GIMEL|DALETH|HE|WAW|ZAYIN|HETH|TETH|YODH|KAPH|LAMEDH|MEM
1086D PALMYRENE LETTER |FINAL NUN|NUN|SAMEKH|AYIN|PE|SADHE|QOPH|RESH|SHIN|TAW
10877 PALMYRENE |LEFT-POINTING FLEURON|RIGHT-POINTING FLEURON|NUMBER ONE|NUMBER TWO|NUMBER THREE
1087C PALMYRENE NUMBER |FOUR|FIVE|TEN|TWENTY
10880 NABATAEAN LETTER |FINAL ALEPH|ALEPH|FINAL BETH|BETH|GIMEL|DALETH|FINAL HE|HE|WAW|ZAYIN|HETH
1088B NABATAEAN LETTER |TETH|FINAL YODH|YODH|FINAL KAPH|KAPH|FINAL LAMEDH|LAMEDH|FINAL MEM|MEM
10894 NABATAEAN LETTER |FINAL NUN|NUN|SAMEKH|AYIN|PE|SADHE|QOPH|RESH|FINAL SHIN|SHIN|TAW
108A7 NABATAEAN |NUMBER ONE|NUMBER TWO|NUMBER THREE|NUMBER FOUR|CRUCIFORM NUMBER FOUR|NUMBER FIVE
108AD NABATAEAN NUMBER |TEN|TWENTY|ONE HUNDRED
108E0 HATRAN LETTER |ALEPH|BETH|GIMEL|DALETH-RESH|HE|WAW|ZAYN|HETH|TETH|YODH|KAPH|LAMEDH|MEM|NUN
108EE HATRAN LETTER |SAMEKH|AYN|PE|SADHE|QOPH
108F4 HATRAN LETTER |SHIN|TAW
108FB HATRAN NUMBER |ONE|FIVE|TEN|TWENTY|ONE HUNDRED
10900 PHOENICIAN LETTER |ALF|BET|GAML|DELT|HE|WAU|ZAI|HET|TET|YOD|KAF|LAMD|MEM|NUN|SEMK|AIN|PE
10911 PHOENICIAN |LETTER SADE|LETTER QOF|LETTER ROSH|LETTER SHIN|LETTER TAU|NUMBER ONE|NUMBER TEN
10918 PHOENICIAN NUMBER |TWENTY|ONE HUNDRED|TWO|THREE
1091F |PHOENICIAN WORD SEPARATOR|LYDIAN LETTER A|LYDIAN LETTER B|LYDIAN LETTER G|LYDIAN LETTER D
10924 LYDIAN LETTER |E|V|I|Y|K|L|M|N|O|R|SS|T|U|F|Q|S|TT|AN|EN|LY|NN|C
1093F |LYDIAN TRIANGULAR MARK
10980 MEROITIC HIEROGLYPHIC LETTER |A|E|I|O|YA|WA|BA|BA-2|PA|MA|NA|NA-2|NE|NE-2|RA|RA-2|LA|KHA|HHA
10993 MEROITIC HIEROGLYPHIC LETTER |SA|SA-2|SE|KA|QA|TA|TA-2|TE|TE-2|TO|DA
1099E MEROITIC |HIEROGLYPHIC SYMBOL VIDJ|HIEROGLYPHIC SYMBOL VIDJ-2|CURSIVE LETTER A
109A1 MEROITIC CURSIVE LETTER |E|I|O|YA|WA|BA|PA|MA|NA|NE|RA|LA|KHA|HHA|SA|ARCHAIC SA|SE|KA|QA|TA
109B5 MEROITIC CURSIVE LETTER |TE|TO|DA
109BC MEROITIC CURSIVE |FRACTION ELEVEN TWELFTHS|FRACTION ONE HALF|LOGOGRAM RMT|LOGOGRAM IMN
109C0 MEROITIC CURSIVE NUMBER |ONE|TWO|THREE|FOUR|FIVE|SIX|SEVEN|EIGHT|NINE|TEN|TWENTY|THIRTY
109CC MEROITIC CURSIVE NUMBER |FORTY|FIFTY|SIXTY|SEVENTY
109D2 MEROITIC CURSIVE NUMBER |ONE HUNDRED|TWO HUNDRED|THREE HUNDRED|FOUR HUNDRED|FIVE HUNDRED
109D7 MEROITIC CURSIVE NUMBER |SIX HUNDRED|SEVEN HUNDRED|EIGHT HUNDRED|NINE HUNDRED|ONE THOUSAND
109DC MEROITIC CURSIVE NUMBER |TWO THOUSAND|THREE THOUSAND|FOUR THOUSAND|FIVE THOUSAND
109E0 MEROITIC CURSIVE NUMBER |SIX THOUSAND|SEVEN THOUSAND|EIGHT THOUSAND|NINE THOUSAND
109E4 MEROITIC CURSIVE NUMBER |TEN THOUSAND|TWENTY THOUSAND|THIRTY THOUSAND|FORTY THOUSAND
109E8 MEROITIC CURSIVE NUMBER |FIFTY THOUSAND|SIXTY THOUSAND|SEVENTY THOUSAND|EIGHTY THOUSAND
109EC MEROITIC CURSIVE NUMBER |NINETY THOUSAND|ONE HUNDRED THOUSAND|TWO HUNDRED THOUSAND
109EF MEROITIC CURSIVE NUMBER |THREE HUNDRED THOUSAND|FOUR HUNDRED THOUSAND|FIVE HUNDRED THOUSAND
109F2 MEROITIC CURSIVE NUMBER |SIX HUNDRED THOUSAND|SEVEN HUNDRED THOUSAND|EIGHT HUNDRED THOUSAND
109F5 MEROITIC CURSIVE |NUMBER NINE HUNDRED THOUSAND|FRACTION ONE TWELFTH|FRACTION TWO TWELFTHS
109F8 MEROITIC CURSIVE FRACTION |THREE TWELFTHS|FOUR TWELFTHS|FIVE TWELFTHS|SIX TWELFTHS
109FC MEROITIC CURSIVE FRACTION |SEVEN TWELFTHS|EIGHT TWELFTHS|NINE TWELFTHS|TEN TWELFTHS
10A00 KHAROSHTHI |LETTER A|VOWEL SIGN I|VOWEL SIGN U|VOWEL SIGN VOCALIC R
10A05 KHAROSHTHI VOWEL SIGN |E|O
10A0C KHAROSHTHI |VOWEL LENGTH MARK|SIGN DOUBLE RING BELOW|SIGN ANUSVARA|SIGN VISARGA|LETTER KA
10A11 KHAROSHTHI LETTER |KHA|GA|GHA
10A15 KHAROSHTHI LETTER |CA|CHA|JA
10A19 KHAROSHTHI LETTER |NYA|TTA|TTHA|DDA|DDHA|NNA|TA|THA|DA|DHA|NA|PA|PHA|BA|BHA|MA|YA|RA|LA|VA
10A2D KHAROSHTHI LETTER |SHA|SSA|SA|ZA|HA|KKA|TTTHA|TTTA|VHA
10A38 KHAROSHTHI SIGN |BAR ABOVE|CAUDA|DOT BELOW
10A3F KHAROSHTHI |VIRAMA|DIGIT ONE|DIGIT TWO|DIGIT THREE|DIGIT FOUR|NUMBER TEN|NUMBER TWENTY
10A46 KHAROSHTHI |NUMBER ONE HUNDRED|NUMBER ONE THOUSAND|FRACTION ONE HALF
10A50 KHAROSHTHI PUNCTUATION |DOT|SMALL CIRCLE|CIRCLE|CRESCENT BAR|MANGALAM|LOTUS|DANDA
10A57 KHAROSHTHI PUNCTUATION |DOUBLE DANDA|LINES
10A60 OLD SOUTH ARABIAN LETTER |HE|LAMEDH|HETH|MEM|QOPH|WAW|SHIN|RESH|BETH|TAW|SAT|KAPH|NUN|KHETH
10A6E OLD SOUTH ARABIAN LETTER |SADHE|SAMEKH|FE|ALEF|AYN|DHADHE|GIMEL|DALETH|GHAYN|TETH|ZAYN
10A79 OLD SOUTH ARABIAN |LETTER DHALETH|LETTER YODH|LETTER THAW|LETTER THETH|NUMBER ONE
10A7E OLD |SOUTH ARABIAN NUMBER FIFTY|SOUTH ARABIAN NUMERIC INDICATOR|NORTH ARABIAN LETTER HEH
10A81 OLD NORTH ARABIAN LETTER |LAM|HAH|MEEM|QAF|WAW|ES-2|REH|BEH|TEH|ES-1|KAF|NOON|KHAH|SAD|ES-3
10A90 OLD NORTH ARABIAN LETTER |FEH|ALEF|AIN|DAD|GEEM|DAL|GHAIN|TAH|ZAIN|THAL|YEH|THEH|ZAH
10A9D OLD NORTH ARABIAN NUMBER |ONE|TEN|TWENTY
10AC0 MANICHAEAN LETTER |ALEPH|BETH|BHETH|GIMEL|GHIMEL|DALETH|HE|WAW
10AC8 MANICHAEAN |SIGN UD|LETTER ZAYIN|LETTER ZHAYIN|LETTER JAYIN|LETTER JHAYIN|LETTER HETH
10ACE MANICHAEAN LETTER |TETH|YODH|KAPH|XAPH|KHAPH|LAMEDH|DHAMEDH|THAMEDH|MEM|NUN|SAMEKH|AYIN
10ADA MANICHAEAN LETTER |AAYIN|PE|FE|SADHE|QOPH|XOPH|QHOPH|RESH|SHIN|SSHIN|TAW
10AE5 MANICHAEAN ABBREVIATION MARK |ABOVE|BELOW
10AEB MANICHAEAN NUMBER |ONE|FIVE|TEN|TWENTY|ONE HUNDRED
10AF0 MANICHAEAN PUNCTUATION |STAR|FLEURON|DOUBLE DOT WITHIN DOT|DOT WITHIN DOT|DOT|TWO DOTS
10AF6 |MANICHAEAN PUNCTUATION LINE FILLER
10B00 AVESTAN LETTER |A|AA|AO|AAO|AN|AAN|AE|AEE|E|EE|O|OO|I|II|U|UU|KE|XE|XYE|XVE|GE|GGE|GHE|CE|JE
10B19 AVESTAN LETTER |TE|THE|DE|DHE|TTE|PE|FE|BE|BHE|NGE|NGYE|NGVE|NE|NYE|NNE|ME|HME|YYE|YE|VE|RE
10B2E AVESTAN LETTER |LE|SE|ZE|SHE|ZHE|SHYE|SSHE|HE
10B39 |AVESTAN ABBREVIATION MARK|TINY TWO DOTS OVER ONE DOT PUNCTUATION
10B3B |SMALL TWO DOTS OVER ONE DOT PUNCTUATION|LARGE TWO DOTS OVER ONE DOT PUNCTUATION
10B3D LARGE |ONE DOT OVER TWO DOTS PUNCTUATION|TWO RINGS OVER ONE RING PUNCTUATION
10B3F |LARGE ONE RING OVER TWO RINGS PUNCTUATION|INSCRIPTIONAL PARTHIAN LETTER ALEPH
10B41 INSCRIPTIONAL PARTHIAN LETTER |BETH|GIMEL|DALETH|HE|WAW|ZAYIN|HETH|TETH|YODH|KAPH|LAMEDH|MEM
10B4D INSCRIPTIONAL PARTHIAN LETTER |NUN|SAMEKH|AYIN|PE|SADHE|QOPH|RESH|SHIN|TAW
10B58 INSCRIPTIONAL PARTHIAN NUMBER |ONE|TWO|THREE|FOUR|TEN|TWENTY|ONE HUNDRED|ONE THOUSAND
10B60 INSCRIPTIONAL PAHLAVI LETTER |ALEPH|BETH|GIMEL|DALETH|HE|WAW-AYIN-RESH|ZAYIN|HETH|TETH|YODH
10B6A INSCRIPTIONAL PAHLAVI LETTER |KAPH|LAMEDH|MEM-QOPH|NUN|SAMEKH|PE|SADHE|SHIN|TAW
10B78 INSCRIPTIONAL PAHLAVI NUMBER |ONE|TWO|THREE|FOUR|TEN|TWENTY|ONE HUNDRED|ONE THOUSAND
10B80 PSALTER PAHLAVI LETTER |ALEPH|BETH|GIMEL|DALETH|HE|WAW-AYIN-RESH|ZAYIN|HETH|YODH|KAPH|LAMEDH
10B8B PSALTER PAHLAVI LETTER |MEM-QOPH|NUN|SAMEKH|PE|SADHE|SHIN|TAW
10B99 PSALTER PAHLAVI |SECTION MARK|TURNED SECTION MARK|FOUR DOTS WITH CROSS|FOUR DOTS WITH DOT
10BA9 PSALTER PAHLAVI NUMBER |ONE|TWO|THREE|FOUR|TEN|TWENTY|ONE HUNDRED
10C00 OLD TURKIC LETTER |ORKHON A|YENISEI A|YENISEI AE|ORKHON I|YENISEI I|YENISEI E|ORKHON O
10C07 OLD TURKIC LETTER |ORKHON OE|YENISEI OE|ORKHON AB|YENISEI AB|ORKHON AEB|YENISEI AEB
10C0D OLD TURKIC LETTER |ORKHON AG|YENISEI AG|ORKHON AEG|YENISEI AEG|ORKHON AD|YENISEI AD
10C13 OLD TURKIC LETTER |ORKHON AED|ORKHON EZ|YENISEI EZ|ORKHON AY|YENISEI AY|ORKHON AEY
10C19 OLD TURKIC LETTER |YENISEI AEY|ORKHON AEK|YENISEI AEK|ORKHON OEK|YENISEI OEK|ORKHON AL
10C1F OLD TURKIC LETTER |YENISEI AL|ORKHON AEL|ORKHON ELT|ORKHON EM|ORKHON AN|ORKHON AEN
10C25 OLD TURKIC LETTER |YENISEI AEN|ORKHON ENT|YENISEI ENT|ORKHON ENC|YENISEI ENC|ORKHON ENY
10C2B OLD TURKIC LETTER |YENISEI ENY|YENISEI ANG|ORKHON ENG|YENISEI AENG|ORKHON EP|ORKHON OP
10C31 OLD TURKIC LETTER |ORKHON IC|ORKHON EC|YENISEI EC|ORKHON AQ|YENISEI AQ|ORKHON IQ|YENISEI IQ
10C38 OLD TURKIC LETTER |ORKHON OQ|YENISEI OQ|ORKHON AR|YENISEI AR|ORKHON AER|ORKHON AS|ORKHON AES
10C3F OLD TURKIC LETTER |ORKHON ASH|YENISEI ASH|ORKHON ESH|YENISEI ESH|ORKHON AT|YENISEI AT
10C45 OLD TURKIC LETTER |ORKHON AET|YENISEI AET|ORKHON OT|ORKHON BASH
10C80 OLD HUNGARIAN CAPITAL LETTER |A|AA|EB|AMB|EC|ENC|ECS|ED|AND|E|CLOSE E|EE|EF|EG|EGY|EH|I|II
10C92 OLD HUNGARIAN CAPITAL LETTER |EJ|EK|AK|UNK|EL|ELY|EM|EN|ENY|O|OO|NIKOLSBURG OE|RUDIMENTA OE
10C9F OLD HUNGARIAN CAPITAL LETTER |OEE|EP|EMP|ER|SHORT ER|ES|ESZ|ET|ENT|ETY|ECH|U|UU
10CAC OLD HUNGARIAN CAPITAL LETTER |NIKOLSBURG UE|RUDIMENTA UE|EV|EZ|EZS|ENT-SHAPED SIGN|US
10CC0 OLD HUNGARIAN SMALL LETTER |A|AA|EB|AMB|EC|ENC|ECS|ED|AND|E|CLOSE E|EE|EF|EG|EGY|EH|I|II|EJ
10CD3 OLD HUNGARIAN SMALL LETTER |EK|AK|UNK|EL|ELY|EM|EN|ENY|O|OO|NIKOLSBURG OE|RUDIMENTA OE|OEE
10CE0 OLD HUNGARIAN SMALL LETTER |EP|EMP|ER|SHORT ER|ES|ESZ|ET|ENT|ETY|ECH|U|UU|NIKOLSBURG UE
10CED OLD HUNGARIAN SMALL LETTER |RUDIMENTA UE|EV|EZ|EZS|ENT-SHAPED SIGN|US
10CFA OLD HUNGARIAN NUMBER |ONE|FIVE|TEN|FIFTY|ONE HUNDRED|ONE THOUSAND
10D00 HANIFI ROHINGYA LETTER |A|BA|PA|TA|TTA|JA|CA|HA|KHA|FA|DA|DDA|RA|RRA|ZA|SA|SHA|KA|GA|LA|MA
10D15 HANIFI ROHINGYA LETTER |NA|WA|KINNA WA|YA|KINNA YA|NGA|NYA|VA
10D1D HANIFI ROHINGYA |VOWEL A|VOWEL I|VOWEL U|VOWEL E|VOWEL O|MARK SAKIN|MARK NA KHONNA
10D24 HANIFI ROHINGYA SIGN |HARBAHAY|TAHALA|TANA|TASSI
10D30 HANIFI ROHINGYA DIGIT |ZERO|ONE|TWO|THREE|FOUR|FIVE|SIX|SEVEN|EIGHT|NINE
10E60 RUMI DIGIT |ONE|TWO|THREE|FOUR|FIVE|SIX|SEVEN|EIGHT|NINE
10E69 RUMI NUMBER |TEN|TWENTY|THIRTY|FORTY|FIFTY|SIXTY|SEVENTY|EIGHTY|NINETY|ONE HUNDRED
10E73 RUMI NUMBER |TWO HUNDRED|THREE HUNDRED|FOUR HUNDRED|FIVE HUNDRED|SIX HUNDRED|SEVEN HUNDRED
10E79 RUMI |NUMBER EIGHT HUNDRED|NUMBER NINE HUNDRED|FRACTION ONE HALF|FRACTION ONE QUARTER
10E7D RUMI FRACTION |ONE THIRD|TWO THIRDS
10E80 YEZIDI LETTER |ELIF|BE|PE|PHE|THE|SE|CIM|CHIM|CHHIM|HHA|XA|DAL|ZAL|RA|RHA|ZA|JA|SIN|SHIN|SAD
10E94 YEZIDI LETTER |DAD|TA|ZE|EYN|XHEYN|FA|VA|VA ALTERNATE FORM|QAF|KAF|KHAF|GAF|LAM|MIM|NUN|UM
10EA4 YEZIDI LETTER |WAW|OW|EW|HAY|YOT|ET
10EAB YEZIDI |COMBINING HAMZA MARK|COMBINING MADDA MARK|HYPHENATION MARK
10EB0 YEZIDI LETTER |LAM WITH DOT ABOVE|YOT WITH CIRCUMFLEX ABOVE
10F00 OLD SOGDIAN LETTER |ALEPH|FINAL ALEPH|BETH|FINAL BETH|GIMEL|HE|FINAL HE|WAW|ZAYIN|HETH|YODH
10F0B OLD SOGDIAN LETTER |KAPH|LAMEDH|MEM|NUN|FINAL NUN|FINAL NUN WITH VERTICAL TAIL|SAMEKH|AYIN
10F13 OLD SOGDIAN LETTER |ALTERNATE AYIN|PE|SADHE|FINAL SADHE|FINAL SADHE WITH VERTICAL TAIL
10F18 OLD SOGDIAN LETTER |RESH-AYIN-DALETH|SHIN|TAW|FINAL TAW|FINAL TAW WITH VERTICAL TAIL
10F1D OLD SOGDIAN NUMBER |ONE|TWO|THREE|FOUR|FIVE|TEN|TWENTY|THIRTY|ONE HUNDRED
10F26 OLD SOGDIAN |FRACTION ONE HALF|LIGATURE AYIN-DALETH
10F30 SOGDIAN LETTER |ALEPH|BETH|GIMEL|HE|WAW|ZAYIN|HETH|YODH|KAPH|LAMEDH|MEM|NUN|SAMEKH|AYIN|PE
10F3F SOGDIAN LETTER |SADHE|RESH-AYIN|SHIN|TAW|FETH|LESH
10F45 SOGDIAN |INDEPENDENT SHIN|COMBINING DOT BELOW|COMBINING TWO DOTS BELOW|COMBINING DOT ABOVE
10F49 SOGDIAN COMBINING |TWO DOTS ABOVE|CURVE ABOVE|CURVE BELOW|HOOK ABOVE|HOOK BELOW
10F4E SOGDIAN |COMBINING LONG HOOK BELOW|COMBINING RESH BELOW|COMBINING STROKE BELOW|NUMBER ONE
10F52 SOGDIAN |NUMBER TEN|NUMBER TWENTY|NUMBER ONE HUNDRED|PUNCTUATION TWO VERTICAL BARS
10F56 SOGDIAN PUNCTUATION |TWO VERTICAL BARS WITH DOTS|CIRCLE WITH DOT|TWO CIRCLES WITH DOTS
10F59 |SOGDIAN PUNCTUATION HALF CIRCLE WITH DOT
10F70 OLD UYGHUR LETTER |ALEPH|BETH|GIMEL-HETH|WAW|ZAYIN|FINAL HETH|YODH|KAPH|LAMEDH|MEM|NUN
10F7B OLD UYGHUR LETTER |SAMEKH|PE|SADHE|RESH|SHIN|TAW|LESH
10F82 OLD UYGHUR COMBINING |DOT ABOVE|DOT BELOW|TWO DOTS ABOVE|TWO DOTS BELOW
10F86 OLD UYGHUR PUNCTUATION |BAR|TWO BARS|TWO DOTS|FOUR DOTS
10FB0 CHORASMIAN LETTER |ALEPH|SMALL ALEPH|BETH|GIMEL|DALETH|HE|WAW|CURLED WAW|ZAYIN|HETH|YODH
10FBB CHORASMIAN LETTER |KAPH|LAMEDH|MEM|NUN|SAMEKH|AYIN|PE|RESH|SHIN|TAW
10FC5 CHORASMIAN NUMBER |ONE|TWO|THREE|FOUR|TEN|TWENTY|ONE HUNDRED
10FE0 ELYMAIC LETTER |ALEPH|BETH|GIMEL|DALETH|HE|WAW|ZAYIN|HETH|TETH|YODH|KAPH|LAMEDH|MEM|NUN
10FEE ELYMAIC LETTER |SAMEKH|AYIN|PE|SADHE|QOPH|RESH|SHIN|TAW
10FF6 |ELYMAIC LIGATURE ZAYIN-YODH
11000 BRAHMI SIGN |CANDRABINDU|ANUSVARA|VISARGA|JIHVAMULIYA|UPADHMANIYA
11005 BRAHMI LETTER |A|AA|I|II|U|UU|VOCALIC R|VOCALIC RR|VOCALIC L|VOCALIC LL|E|AI|O|AU|KA|KHA|GA
11016 BRAHMI LETTER |GHA|NGA|CA|CHA|JA|JHA|NYA|TTA|TTHA|DDA|DDHA|NNA|TA|THA|DA|DHA|NA|PA|PHA|BA
1102A BRAHMI LETTER |BHA|MA|YA|RA|LA|VA|SHA|SSA|SA|HA|LLA|OLD TAMIL LLLA|OLD TAMIL RRA
11037 BRAHMI |LETTER OLD TAMIL NNNA|VOWEL SIGN AA|VOWEL SIGN BHATTIPROLU AA|VOWEL SIGN I
1103B BRAHMI VOWEL SIGN |II|U|UU|VOCALIC R|VOCALIC RR|VOCALIC L|VOCALIC LL|E|AI|O|AU
11046 BRAHMI |VIRAMA|DANDA|DOUBLE DANDA|PUNCTUATION DOT|PUNCTUATION DOUBLE DOT|PUNCTUATION LINE
1104C BRAHMI PUNCTUATION |CRESCENT BAR|LOTUS
11052 BRAHMI NUMBER |ONE|TWO|THREE|FOUR|FIVE|SIX|SEVEN|EIGHT|NINE|TEN|TWENTY|THIRTY|FORTY|FIFTY
11060 BRAHMI NUMBER |SIXTY|SEVENTY|EIGHTY|NINETY|ONE HUNDRED|ONE THOUSAND
11066 BRAHMI DIGIT |ZERO|ONE|TWO|THREE|FOUR|FIVE|SIX|SEVEN|EIGHT|NINE
11070 BRAHMI |SIGN OLD TAMIL VIRAMA|LETTER OLD TAMIL SHORT E|LETTER OLD TAMIL SHORT O
11073 BRAHMI |VOWEL SIGN OLD TAMIL SHORT E|VOWEL SIGN OLD TAMIL SHORT O|LETTER OLD TAMIL LLA
1107F |BRAHMI NUMBER JOINER|KAITHI SIGN CANDRABINDU|KAITHI SIGN ANUSVARA|KAITHI SIGN VISARGA
11083 KAITHI LETTER |A|AA|I|II|U|UU|E|AI|O|AU|KA|KHA|GA|GHA|NGA|CA|CHA|JA|JHA|NYA|TTA|TTHA|DDA
1109A KAITHI LETTER |DDDHA|DDHA|RHA|NNA|TA|THA|DA|DHA|NA|PA|PHA|BA|BHA|MA|YA|RA|LA|VA|SHA|SSA|SA
110AF KAITHI |LETTER HA|VOWEL SIGN AA|VOWEL SIGN I|VOWEL SIGN II|VOWEL SIGN U|VOWEL SIGN UU
110B5 KAITHI |VOWEL SIGN E|VOWEL SIGN AI|VOWEL SIGN O|VOWEL SIGN AU|SIGN VIRAMA|SIGN NUKTA
110BB KAITHI |ABBREVIATION SIGN|ENUMERATION SIGN|NUMBER SIGN|SECTION MARK|DOUBLE SECTION MARK
110C0 KAITHI |DANDA|DOUBLE DANDA|VOWEL SIGN VOCALIC R
110CD |KAITHI NUMBER SIGN ABOVE
110D0 SORA SOMPENG LETTER |SAH|TAH|BAH|CAH|DAH|GAH|MAH|NGAH|LAH|NAH|VAH|PAH|YAH|RAH|HAH|KAH|JAH
110E1 SORA SOMPENG LETTER |NYAH|AH|EEH|IH|UH|OH|EH|MAE
110F0 SORA SOMPENG DIGIT |ZERO|ONE|TWO|THREE|FOUR|FIVE|SIX|SEVEN|EIGHT|NINE
11100 CHAKMA |SIGN CANDRABINDU|SIGN ANUSVARA|SIGN VISARGA|LETTER AA|LETTER I|LETTER U|LETTER E
11107 CHAKMA LETTER |KAA|KHAA|GAA|GHAA|NGAA|CAA|CHAA|JAA|JHAA|NYAA|TTAA|TTHAA|DDAA|DDHAA|NNAA|TAA
11117 CHAKMA LETTER |THAA|DAA|DHAA|NAA|PAA|PHAA|BAA|BHAA|MAA|YYAA|YAA|RAA|LAA|WAA|SAA|HAA
11127 CHAKMA VOWEL SIGN |A|I|II|U|UU|E|AI|O|AU|OI
11131 CHAKMA |O MARK|AU MARK|VIRAMA|MAAYYAA
11136 CHAKMA DIGIT |ZERO|ONE|TWO|THREE|FOUR|FIVE|SIX|SEVEN|EIGHT|NINE
11140 CHAKMA |SECTION MARK|DANDA|DOUBLE DANDA|QUESTION MARK|LETTER LHAA|VOWEL SIGN AA
11146 CHAKMA |VOWEL SIGN EI|LETTER VAA
11150 MAHAJANI LETTER |A|I|U|E|O|KA|KHA|GA|GHA|CA|CHA|JA|JHA|NYA|TTA|TTHA|DDA|DDHA|NNA|TA|THA|DA
11166 MAHAJANI LETTER |DHA|NA|PA|PHA|BA|BHA|MA|RA|LA|VA|SA|HA|RRA
11173 MAHAJANI |SIGN NUKTA|ABBREVIATION SIGN|SECTION MARK|LIGATURE SHRI
11180 SHARADA |SIGN CANDRABINDU|SIGN ANUSVARA|SIGN VISARGA|LETTER A|LETTER AA|LETTER I|LETTER II
11187 SHARADA LETTER |U|UU|VOCALIC R|VOCALIC RR|VOCALIC L|VOCALIC LL|E|AI|O|AU|KA|KHA|GA|GHA|NGA
11196 SHARADA LETTER |CA|CHA|JA|JHA|NYA|TTA|TTHA|DDA|DDHA|NNA|TA|THA|DA|DHA|NA|PA|PHA|BA|BHA|MA|YA
111AB SHARADA LETTER |RA|LA|LLA|VA|SHA|SSA|SA|HA
111B3 SHARADA VOWEL SIGN |AA|I|II|U|UU|VOCALIC R|VOCALIC RR|VOCALIC L|VOCALIC LL|E|AI|O|AU
111C0 SHARADA |SIGN VIRAMA|SIGN AVAGRAHA|SIGN JIHVAMULIYA|SIGN UPADHMANIYA|OM|DANDA|DOUBLE DANDA
111C7 SHARADA |ABBREVIATION SIGN|SEPARATOR|SANDHI MARK|SIGN NUKTA|VOWEL MODIFIER MARK
111CC SHARADA |EXTRA SHORT VOWEL MARK|SUTRA MARK|VOWEL SIGN PRISHTHAMATRA E
111CF SHARADA |SIGN INVERTED CANDRABINDU|DIGIT ZERO|DIGIT ONE|DIGIT TWO|DIGIT THREE|DIGIT FOUR
111D5 SHARADA |DIGIT FIVE|DIGIT SIX|DIGIT SEVEN|DIGIT EIGHT|DIGIT NINE|EKAM|SIGN SIDDHAM
111DC SHARADA |HEADSTROKE|CONTINUATION SIGN|SECTION MARK-1|SECTION MARK-2
111E1 SINHALA ARCHAIC DIGIT |ONE|TWO|THREE|FOUR|FIVE|SIX|SEVEN|EIGHT|NINE
111EA SINHALA ARCHAIC NUMBER |TEN|TWENTY|THIRTY|FORTY|FIFTY|SIXTY|SEVENTY|EIGHTY|NINETY
111F3 SINHALA ARCHAIC NUMBER ONE |HUNDRED|THOUSAND
11200 KHOJKI LETTER |A|AA|I|U|E|AI|O|AU|KA|KHA|GA|GGA|GHA|NGA|CA|CHA|JA|JJA
11213 KHOJKI LETTER |NYA|TTA|TTHA|DDA|DDHA|NNA|TA|THA|DA|DDDA|DHA|NA|PA|PHA|BA|BBA|BHA|MA|YA|RA|LA
11228 KHOJKI |LETTER VA|LETTER SA|LETTER HA|LETTER LLA|VOWEL SIGN AA|VOWEL SIGN I|VOWEL SIGN II
1122F KHOJKI |VOWEL SIGN U|VOWEL SIGN E|VOWEL SIGN AI|VOWEL SIGN O|VOWEL SIGN AU|SIGN ANUSVARA
11235 KHOJKI |SIGN VIRAMA|SIGN NUKTA|SIGN SHADDA|DANDA|DOUBLE DANDA|WORD SEPARATOR|SECTION MARK
1123C KHOJKI |DOUBLE SECTION MARK|ABBREVIATION SIGN|SIGN SUKUN
11280 MULTANI LETTER |A|I|U|E|KA|KHA|GA
11288 |MULTANI LETTER GHA
1128A MULTANI LETTER |CA|CHA|JA|JJA
1128F MULTANI LETTER |NYA|TTA|TTHA|DDA|DDDA|DDHA|NNA|TA|THA|DA|DHA|NA|PA|PHA|BA
1129F MULTANI LETTER |BHA|MA|YA|RA|LA|VA|SA|HA|RRA|RHA
112A9 |MULTANI SECTION MARK
112B0 KHUDAWADI LETTER |A|AA|I|II|U|UU|E|AI|O|AU|KA|KHA|GA|GGA|GHA|NGA|CA|CHA|JA|JJA|JHA|NYA|TTA
112C7 KHUDAWADI LETTER |TTHA|DDA|DDDA|RRA|DDHA|NNA|TA|THA|DA|DHA|NA|PA|PHA|BA|BBA|BHA|MA|YA|RA|LA
112DB KHUDAWADI |LETTER VA|LETTER SHA|LETTER SA|LETTER HA|SIGN ANUSVARA|VOWEL SIGN AA|VOWEL SIGN I
112E2 KHUDAWADI VOWEL SIGN |II|U|UU|E|AI|O|AU
112E9 KHUDAWADI SIGN |NUKTA|VIRAMA
112F0 KHUDAWADI DIGIT |ZERO|ONE|TWO|THREE|FOUR|FIVE|SIX|SEVEN|EIGHT|NINE
11300 GRANTHA SIGN |COMBINING ANUSVARA ABOVE|CANDRABINDU|ANUSVARA|VISARGA
11305 GRANTHA LETTER |A|AA|I|II|U|UU|VOCALIC R|VOCALIC L
1130F GRANTHA LETTER |EE|AI
11313 GRANTHA LETTER |OO|AU|KA|KHA|GA|GHA|NGA|CA|CHA|JA|JHA|NYA|TTA|TTHA|DDA|DDHA|NNA|TA|THA|DA
11327 GRANTHA LETTER |DHA|NA
1132A GRANTHA LETTER |PA|PHA|BA|BHA|MA|YA|RA
11332 GRANTHA LETTER |LA|LLA
11335 GRANTHA LETTER |VA|SHA|SSA|SA|HA
1133B |COMBINING BINDU BELOW|GRANTHA SIGN NUKTA|GRANTHA SIGN AVAGRAHA|GRANTHA VOWEL SIGN AA
1133F GRANTHA VOWEL SIGN |I|II|U|UU|VOCALIC R|VOCALIC RR
11347 GRANTHA VOWEL SIGN |EE|AI
1134B GRANTHA |VOWEL SIGN OO|VOWEL SIGN AU|SIGN VIRAMA
11350 |GRANTHA OM
11357 |GRANTHA AU LENGTH MARK
1135D GRANTHA |SIGN PLUTA|LETTER VEDIC ANUSVARA|LETTER VEDIC DOUBLE ANUSVARA|LETTER VOCALIC RR
11361 GRANTHA |LETTER VOCALIC LL|VOWEL SIGN VOCALIC L|VOWEL SIGN VOCALIC LL
11366 COMBINING GRANTHA DIGIT |ZERO|ONE|TWO|THREE|FOUR|FIVE|SIX
11370 COMBINING GRANTHA LETTER |A|KA|NA|VI|PA
11400 NEWA LETTER |A|AA|I|II|U|UU|VOCALIC R|VOCALIC RR|VOCALIC L|VOCALIC LL|E|AI|O|AU|KA|KHA|GA
11411 NEWA LETTER |GHA|NGA|NGHA|CA|CHA|JA|JHA|NYA|NYHA|TTA|TTHA|DDA|DDHA|NNA|TA|THA|DA|DHA|NA|NHA
11425 NEWA LETTER |PA|PHA|BA|BHA|MA|MHA|YA|RA|RHA|LA|LHA|WA|SHA|SSA|SA|HA
11435 NEWA VOWEL SIGN |AA|I|II|U|UU|VOCALIC R|VOCALIC RR|VOCALIC L|VOCALIC LL|E|AI|O|AU
11442 NEWA SIGN |VIRAMA|CANDRABINDU|ANUSVARA|VISARGA|NUKTA|AVAGRAHA|FINAL ANUSVARA
11449 NEWA |OM|SIDDHI|DANDA|DOUBLE DANDA|COMMA|GAP FILLER|ABBREVIATION SIGN|DIGIT ZERO|DIGIT ONE
11452 NEWA DIGIT |TWO|THREE|FOUR|FIVE|SIX|SEVEN|EIGHT|NINE
1145A NEWA |DOUBLE COMMA|PLACEHOLDER MARK
1145D NEWA |INSERTION SIGN|SANDHI MARK|LETTER VEDIC ANUSVARA|SIGN JIHVAMULIYA|SIGN UPADHMANIYA
11480 TIRHUTA |ANJI|LETTER A|LETTER AA|LETTER I|LETTER II|LETTER U|LETTER UU|LETTER VOCALIC R
11488 TIRHUTA LETTER |VOCALIC RR|VOCALIC L|VOCALIC LL|E|AI|O|AU|KA|KHA|GA|GHA|NGA|CA|CHA|JA|JHA
11498 TIRHUTA LETTER |NYA|TTA|TTHA|DDA|DDHA|NNA|TA|THA|DA|DHA|NA|PA|PHA|BA|BHA|MA|YA|RA|LA|VA|SHA
114AD TIRHUTA |LETTER SSA|LETTER SA|LETTER HA|VOWEL SIGN AA|VOWEL SIGN I|VOWEL SIGN II
114B3 TIRHUTA VOWEL SIGN |U|UU|VOCALIC R|VOCALIC RR|VOCALIC L|VOCALIC LL|E|SHORT E|AI|O|SHORT O|AU
114BF TIRHUTA SIGN |CANDRABINDU|ANUSVARA|VISARGA|VIRAMA|NUKTA|AVAGRAHA
114C5 TIRHUTA |GVANG|ABBREVIATION SIGN|OM
114D0 TIRHUTA DIGIT |ZERO|ONE|TWO|THREE|FOUR|FIVE|SIX|SEVEN|EIGHT|NINE
11580 SIDDHAM LETTER |A|AA|I|II|U|UU|VOCALIC R|VOCALIC RR|VOCALIC L|VOCALIC LL|E|AI|O|AU|KA|KHA|GA
11591 SIDDHAM LETTER |GHA|NGA|CA|CHA|JA|JHA|NYA|TTA|TTHA|DDA|DDHA|NNA|TA|THA|DA|DHA|NA|PA|PHA|BA
115A5 SIDDHAM LETTER |BHA|MA|YA|RA|LA|VA|SHA|SSA|SA|HA
115AF SIDDHAM VOWEL SIGN |AA|I|II|U|UU|VOCALIC R|VOCALIC RR
115B8 SIDDHAM |VOWEL SIGN E|VOWEL SIGN AI|VOWEL SIGN O|VOWEL SIGN AU|SIGN CANDRABINDU
115BD SIDDHAM |SIGN ANUSVARA|SIGN VISARGA|SIGN VIRAMA|SIGN NUKTA|SIGN SIDDHAM|DANDA|DOUBLE DANDA
115C4 SIDDHAM |SEPARATOR DOT|SEPARATOR BAR|REPETITION MARK-1|REPETITION MARK-2|REPETITION MARK-3
115C9 SIDDHAM |END OF TEXT MARK|SECTION MARK WITH TRIDENT AND U-SHAPED ORNAMENTS
115CB SIDDHAM SECTION MARK WITH |TRIDENT AND DOTTED CRESCENTS|RAYS AND DOTTED CRESCENTS
115CD SIDDHAM SECTION MARK WITH RAYS AND DOTTED |DOUBLE CRESCENTS|TRIPLE CRESCENTS
115CF SIDDHAM SECTION MARK |DOUBLE RING|DOUBLE RING WITH RAYS|WITH DOUBLE CRESCENTS
115D2 SIDDHAM SECTION MARK WITH |TRIPLE CRESCENTS|QUADRUPLE CRESCENTS|SEPTUPLE CRESCENTS
115D5 SIDDHAM SECTION MARK WITH CIRCLES AND |RAYS|TWO ENCLOSURES|FOUR ENCLOSURES
115D8 SIDDHAM LETTER |THREE-CIRCLE ALTERNATE I|TWO-CIRCLE ALTERNATE I|TWO-CIRCLE ALTERNATE II
115DB SIDDHAM |LETTER ALTERNATE U|VOWEL SIGN ALTERNATE U|VOWEL SIGN ALTERNATE UU
11600 MODI LETTER |A|AA|I|II|U|UU|VOCALIC R|VOCALIC RR|VOCALIC L|VOCALIC LL|E|AI|O|AU|KA|KHA|GA
11611 MODI LETTER |GHA|NGA|CA|CHA|JA|JHA|NYA|TTA|TTHA|DDA|DDHA|NNA|TA|THA|DA|DHA|NA|PA|PHA|BA|BHA
11626 MODI LETTER |MA|YA|RA|LA|VA|SHA|SSA|SA|HA|LLA
11630 MODI VOWEL SIGN |AA|I|II|U|UU|VOCALIC R|VOCALIC RR|VOCALIC L|VOCALIC LL|E|AI|O|AU
1163D MODI |SIGN ANUSVARA|SIGN VISARGA|SIGN VIRAMA|SIGN ARDHACANDRA|DANDA|DOUBLE DANDA
11643 MODI |ABBREVIATION SIGN|SIGN HUVA
11650 MODI DIGIT |ZERO|ONE|TWO|THREE|FOUR|FIVE|SIX|SEVEN|EIGHT|NINE
11660 MONGOLIAN |BIRGA WITH ORNAMENT|ROTATED BIRGA|DOUBLE BIRGA WITH ORNAMENT
11663 MONGOLIAN |TRIPLE BIRGA WITH ORNAMENT|BIRGA WITH DOUBLE ORNAMENT|ROTATED BIRGA WITH ORNAMENT
11666 MONGOLIAN |ROTATED BIRGA WITH DOUBLE ORNAMENT|INVERTED BIRGA
11668 MONGOLIAN |INVERTED BIRGA WITH DOUBLE ORNAMENT|SWIRL BIRGA|SWIRL BIRGA WITH ORNAMENT
1166B MONGOLIAN |SWIRL BIRGA WITH DOUBLE ORNAMENT|TURNED SWIRL BIRGA WITH DOUBLE ORNAMENT
11680 TAKRI LETTER |A|AA|I|II|U|UU|E|AI|O|AU|KA|KHA|GA|GHA|NGA|CA|CHA|JA|JHA|NYA|TTA|TTHA|DDA|DDHA
11698 TAKRI LETTER |NNA|TA|THA|DA|DHA|NA|PA|PHA|BA|BHA|MA|YA|RA|LA|VA|SHA|SA|HA|RRA
116AB TAKRI |SIGN ANUSVARA|SIGN VISARGA|VOWEL SIGN AA|VOWEL SIGN I|VOWEL SIGN II|VOWEL SIGN U
116B1 TAKRI |VOWEL SIGN UU|VOWEL SIGN E|VOWEL SIGN AI|VOWEL SIGN O|VOWEL SIGN AU|SIGN VIRAMA
116B7 TAKRI |SIGN NUKTA|LETTER ARCHAIC KHA|ABBREVIATION SIGN
116C0 TAKRI DIGIT |ZERO|ONE|TWO|THREE|FOUR|FIVE|SIX|SEVEN|EIGHT|NINE
11700 AHOM LETTER |KA|KHA|NGA|NA|TA|ALTERNATE TA|PA|PHA|BA|MA|JA|CHA|THA|RA|LA|SA|NYA|HA|A|DA|DHA
11715 AHOM LETTER |GA|ALTERNATE GA|GHA|BHA|JHA|ALTERNATE BA
1171D AHOM CONSONANT SIGN MEDIAL |LA|RA|LIGATING RA
11720 AHOM VOWEL SIGN |A|AA|I|II|U|UU|E|AW|O|AI|AM
1172B |AHOM SIGN KILLER
11730 AHOM DIGIT |ZERO|ONE|TWO|THREE|FOUR|FIVE|SIX|SEVEN|EIGHT|NINE
1173A AHOM |NUMBER TEN|NUMBER TWENTY|SIGN SMALL SECTION|SIGN SECTION|SIGN RULAI|SYMBOL VI
11740 AHOM LETTER |CA|TTA|TTHA|DDA|DDHA|NNA|LLA
11800 DOGRA LETTER |A|AA|I|II|U|UU|E|AI|O|AU|KA|KHA|GA|GHA|NGA|CA|CHA|JA|JHA|NYA|TTA|TTHA|DDA|DDHA
11818 DOGRA LETTER |NNA|TA|THA|DA|DHA|NA|PA|PHA|BA|BHA|MA|YA|RA|LA|VA|SHA|SSA|SA|HA|RRA
1182C DOGRA VOWEL SIGN |AA|I|II|U|UU|VOCALIC R|VOCALIC RR|E|AI|O|AU
11837 DOGRA |SIGN ANUSVARA|SIGN VISARGA|SIGN VIRAMA|SIGN NUKTA|ABBREVIATION SIGN
118A0 WARANG CITI CAPITAL LETTER |NGAA|A|WI|YU|YA|YO|II|UU|E|O|ANG|GA|KO|ENY|YUJ|UC|ENN|ODD|TTE
118B3 WARANG CITI CAPITAL LETTER |NUNG|DA|AT|AM|BU|PU|HIYO|HOLO|HORR|HAR|SSUU|SII|VIYO
118C0 WARANG CITI SMALL LETTER |NGAA|A|WI|YU|YA|YO|II|UU|E|O|ANG|GA|KO|ENY|YUJ|UC|ENN|ODD|TTE|NUNG
118D4 WARANG CITI SMALL LETTER |DA|AT|AM|BU|PU|HIYO|HOLO|HORR|HAR|SSUU|SII|VIYO
118E0 WARANG CITI DIGIT |ZERO|ONE|TWO|THREE|FOUR|FIVE|SIX|SEVEN|EIGHT|NINE
118EA WARANG CITI NUMBER |TEN|TWENTY|THIRTY|FORTY|FIFTY|SIXTY|SEVENTY|EIGHTY|NINETY
118FF |WARANG CITI OM|DIVES AKURU LETTER A|DIVES AKURU LETTER AA|DIVES AKURU LETTER I
11903 DIVES AKURU LETTER |II|U|UU|E
11909 |DIVES AKURU LETTER O
1190C DIVES AKURU LETTER |KA|KHA|GA|GHA|NGA|CA|CHA|JA
11915 DIVES AKURU LETTER |NYA|TTA
11918 DIVES AKURU LETTER |DDA|DDHA|NNA|TA|THA|DA|DHA|NA|PA|PHA|BA|BHA|MA|YA|YYA|RA|LA|VA|SHA|SSA
1192C DIVES AKURU |LETTER SA|LETTER HA|LETTER LLA|LETTER ZA|VOWEL SIGN AA|VOWEL SIGN I
11932 DIVES AKURU VOWEL SIGN |II|U|UU|E
11937 DIVES AKURU VOWEL SIGN |AI|O
1193B DIVES AKURU |SIGN ANUSVARA|SIGN CANDRABINDU|SIGN HALANTA|VIRAMA|PREFIXED NASAL SIGN
11940 DIVES AKURU |MEDIAL YA|INITIAL RA|MEDIAL RA|SIGN NUKTA|DOUBLE DANDA|GAP FILLER
11946 |DIVES AKURU END OF TEXT MARK
11950 DIVES AKURU DIGIT |ZERO|ONE|TWO|THREE|FOUR|FIVE|SIX|SEVEN|EIGHT|NINE
119A0 NANDINAGARI LETTER |A|AA|I|II|U|UU|VOCALIC R|VOCALIC RR
119AA NANDINAGARI LETTER |E|AI|O|AU|KA|KHA|GA|GHA|NGA|CA|CHA|JA|JHA|NYA|TTA|TTHA|DDA|DDHA|NNA|TA
119BE NANDINAGARI LETTER |THA|DA|DHA|NA|PA|PHA|BA|BHA|MA|YA|RA|LA|VA|SHA|SSA|SA|HA|LLA|RRA
119D1 NANDINAGARI VOWEL SIGN |AA|I|II|U|UU|VOCALIC R|VOCALIC RR
119DA NANDINAGARI |VOWEL SIGN E|VOWEL SIGN AI|VOWEL SIGN O|VOWEL SIGN AU|SIGN ANUSVARA
119DF NANDINAGARI |SIGN VISARGA|SIGN VIRAMA|SIGN AVAGRAHA|SIGN SIDDHAM|HEADSTROKE
119E4 |NANDINAGARI VOWEL SIGN PRISHTHAMATRA E
11A00 ZANABAZAR SQUARE |LETTER A|VOWEL SIGN I|VOWEL SIGN UE|VOWEL SIGN U|VOWEL SIGN E
11A05 ZANABAZAR SQUARE VOWEL |SIGN OE|SIGN O|SIGN AI|SIGN AU|SIGN REVERSED I|LENGTH MARK
11A0B ZANABAZAR SQUARE LETTER |KA|KHA|GA|GHA|NGA|CA|CHA|JA|NYA|TTA|TTHA|DDA|DDHA|NNA|TA|THA|DA|DHA
11A1D ZANABAZAR SQUARE LETTER |NA|PA|PHA|BA|BHA|MA|TSA|TSHA|DZA|DZHA|ZHA|ZA|-A|YA|RA|LA|VA|SHA|SSA
11A30 ZANABAZAR SQUARE |LETTER SA|LETTER HA|LETTER KSSA|FINAL CONSONANT MARK|SIGN VIRAMA
11A35 ZANABAZAR SQUARE SIGN |CANDRABINDU|CANDRABINDU WITH ORNAMENT|CANDRA WITH ORNAMENT|ANUSVARA
11A39 ZANABAZAR SQUARE |SIGN VISARGA|CLUSTER-INITIAL LETTER RA|CLUSTER-FINAL LETTER YA
11A3C ZANABAZAR SQUARE CLUSTER-FINAL LETTER |RA|LA|VA
11A3F ZANABAZAR SQUARE |INITIAL HEAD MARK|CLOSING HEAD MARK|MARK TSHEG|MARK SHAD|MARK DOUBLE SHAD
11A44 ZANABAZAR SQUARE |MARK LONG TSHEG|INITIAL DOUBLE-LINED HEAD MARK
11A46 ZANABAZAR SQUARE |CLOSING DOUBLE-LINED HEAD MARK|SUBJOINER
11A50 SOYOMBO |LETTER A|VOWEL SIGN I|VOWEL SIGN UE|VOWEL SIGN U|VOWEL SIGN E|VOWEL SIGN O
11A56 SOYOMBO VOWEL |SIGN OE|SIGN AI|SIGN AU|SIGN VOCALIC R|SIGN VOCALIC L|LENGTH MARK
11A5C SOYOMBO LETTER |KA|KHA|GA|GHA|NGA|CA|CHA|JA|JHA|NYA|TTA|TTHA|DDA|DDHA|NNA|TA|THA|DA|DHA|NA
11A70 SOYOMBO LETTER |PA|PHA|BA|BHA|MA|TSA|TSHA|DZA|ZHA|ZA|-A|YA|RA|LA|VA|SHA|SSA|SA|HA|KSSA
11A84 SOYOMBO |SIGN JIHVAMULIYA|SIGN UPADHMANIYA|CLUSTER-INITIAL LETTER RA
11A87 SOYOMBO CLUSTER-INITIAL LETTER |LA|SHA|SA
11A8A SOYOMBO FINAL CONSONANT SIGN |G|K|NG|D|N|B|M|R|L|SH|S|-A
11A96 SOYOMBO |SIGN ANUSVARA|SIGN VISARGA|GEMINATION MARK|SUBJOINER|MARK TSHEG|MARK SHAD
11A9C SOYOMBO |MARK DOUBLE SHAD|MARK PLUTA|HEAD MARK WITH MOON AND SUN AND TRIPLE FLAME
11A9F SOYOMBO |HEAD MARK WITH MOON AND SUN AND FLAME|HEAD MARK WITH MOON AND SUN|TERMINAL MARK-1
11AA2 |SOYOMBO TERMINAL MARK-2
11AB0 CANADIAN SYLLABICS NATTILIK |HI|HII|HO|HOO|HA|HAA|SHRI|SHRII|SHRO|SHROO|SHRA|SHRAA
11ABC CANADIAN SYLLABICS |SPE|SPI|SPO|SPA
11AC0 PAU CIN HAU LETTER |PA|KA|LA|MA|DA|ZA|VA|NGA|HA|GA|KHA|SA|BA|CA|TA|THA|NA|PHA|RA|FA|CHA|A|E
11AD7 PAU CIN HAU LETTER |I|O|U|UA|IA|FINAL P|FINAL K|FINAL T|FINAL M|FINAL N|FINAL L|FINAL W
11AE3 PAU CIN HAU |LETTER FINAL NG|LETTER FINAL Y|RISING TONE LONG|RISING TONE|SANDHI GLOTTAL STOP
11AE8 PAU CIN HAU |RISING TONE LONG FINAL|RISING TONE FINAL|SANDHI GLOTTAL STOP FINAL
11AEB PAU CIN HAU SANDHI |TONE LONG|TONE|TONE LONG FINAL|TONE FINAL
11AEF PAU CIN HAU |MID-LEVEL TONE|GLOTTAL STOP VARIANT|MID-LEVEL TONE LONG FINAL
11AF2 PAU CIN HAU |MID-LEVEL TONE FINAL|LOW-FALLING TONE LONG|LOW-FALLING TONE|GLOTTAL STOP
11AF6 PAU CIN HAU |LOW-FALLING TONE LONG FINAL|LOW-FALLING TONE FINAL|GLOTTAL STOP FINAL
11C00 BHAIKSUKI LETTER |A|AA|I|II|U|UU|VOCALIC R|VOCALIC RR|VOCALIC L
11C0A BHAIKSUKI LETTER |E|AI|O|AU|KA|KHA|GA|GHA|NGA|CA|CHA|JA|JHA|NYA|TTA|TTHA|DDA|DDHA|NNA|TA|THA
11C1F BHAIKSUKI LETTER |DA|DHA|NA|PA|PHA|BA|BHA|MA|YA|RA|LA|VA|SHA|SSA|SA|HA
11C2F BHAIKSUKI VOWEL SIGN |AA|I|II|U|UU|VOCALIC R|VOCALIC RR|VOCALIC L
11C38 BHAIKSUKI |VOWEL SIGN E|VOWEL SIGN AI|VOWEL SIGN O|VOWEL SIGN AU|SIGN CANDRABINDU
11C3D BHAIKSUKI |SIGN ANUSVARA|SIGN VISARGA|SIGN VIRAMA|SIGN AVAGRAHA|DANDA|DOUBLE DANDA
11C43 BHAIKSUKI |WORD SEPARATOR|GAP FILLER-1|GAP FILLER-2
11C50 BHAIKSUKI DIGIT |ZERO|ONE|TWO|THREE|FOUR|FIVE|SIX|SEVEN|EIGHT|NINE
11C5A BHAIKSUKI NUMBER |ONE|TWO|THREE|FOUR|FIVE|SIX|SEVEN|EIGHT|NINE|TEN|TWENTY|THIRTY|FORTY|FIFTY
11C68 BHAIKSUKI |NUMBER SIXTY|NUMBER SEVENTY|NUMBER EIGHTY|NUMBER NINETY|HUNDREDS UNIT MARK
11C70 MARCHEN |HEAD MARK|MARK SHAD|LETTER KA|LETTER KHA|LETTER GA|LETTER NGA|LETTER CA|LETTER CHA
11C78 MARCHEN LETTER |JA|NYA|TA|THA|DA|NA|PA|PHA|BA|MA|TSA|TSHA|DZA|WA|ZHA|ZA|-A|YA|RA|LA|SHA|SA
11C8E MARCHEN LETTER |HA|A
11C92 MARCHEN SUBJOINED LETTER |KA|KHA|GA|NGA|CA|CHA|JA|NYA|TA|THA|DA|NA|PA|PHA|BA|MA|TSA|TSHA|DZA
11CA5 MARCHEN SUBJOINED LETTER |WA|ZHA|ZA
11CA9 MARCHEN SUBJOINED LETTER |YA|RA|LA|SHA|SA|HA|A
11CB0 MARCHEN |VOWEL SIGN AA|VOWEL SIGN I|VOWEL SIGN U|VOWEL SIGN E|VOWEL SIGN O|SIGN ANUSVARA
11CB6 |MARCHEN SIGN CANDRABINDU
11D00 MASARAM GONDI LETTER |A|AA|I|II|U|UU|E
11D08 MASARAM GONDI LETTER |AI|O
11D0B MASARAM GONDI LETTER |AU|KA|KHA|GA|GHA|NGA|CA|CHA|JA|JHA|NYA|TTA|TTHA|DDA|DDHA|NNA|TA|THA|DA
11D1E MASARAM GONDI LETTER |DHA|NA|PA|PHA|BA|BHA|MA|YA|RA|LA|VA|SHA|SSA|SA|HA|LLA|KSSA|JNYA|TRA
11D31 MASARAM GONDI VOWEL SIGN |AA|I|II|U|UU|VOCALIC R
11D3A |MASARAM GONDI VOWEL SIGN E
11D3C MASARAM GONDI VOWEL SIGN |AI|O
11D3F MASARAM GONDI |VOWEL SIGN AU|SIGN ANUSVARA|SIGN VISARGA|SIGN NUKTA|SIGN CANDRA|SIGN HALANTA
11D45 MASARAM GONDI |VIRAMA|REPHA|RA-KARA
11D50 MASARAM GONDI DIGIT |ZERO|ONE|TWO|THREE|FOUR|FIVE|SIX|SEVEN|EIGHT|NINE
11D60 GUNJALA GONDI LETTER |A|AA|I|II|U|UU
11D67 GUNJALA GONDI LETTER |EE|AI
11D6A GUNJALA GONDI LETTER |OO|AU|YA|VA|BA|BHA|MA|KA|KHA|TA|THA|LA|GA|GHA|DA|DHA|NA|CA|CHA|TTA
11D7E GUNJALA GONDI LETTER |TTHA|LLA|JA|JHA|DDA|DDHA|NGA|PA|PHA|HA|RA|SA
11D8A GUNJALA GONDI VOWEL SIGN |AA|I|II|U|UU
11D90 GUNJALA GONDI VOWEL SIGN |EE|AI
11D93 GUNJALA GONDI |VOWEL SIGN OO|VOWEL SIGN AU|SIGN ANUSVARA|SIGN VISARGA|VIRAMA|OM
11DA0 GUNJALA GONDI DIGIT |ZERO|ONE|TWO|THREE|FOUR|FIVE|SIX|SEVEN|EIGHT|NINE
11EE0 MAKASAR LETTER |KA|GA|NGA|PA|BA|MA|TA|DA|NA|CA|JA|NYA|YA|RA|LA|VA|SA|A
11EF2 MAKASAR |ANGKA|VOWEL SIGN I|VOWEL SIGN U|VOWEL SIGN E|VOWEL SIGN O|PASSIMBANG|END OF SECTION
11FB0 |LISU LETTER YHA
11FC0 TAMIL FRACTION ONE |THREE-HUNDRED-AND-TWENTIETH|ONE-HUNDRED-AND-SIXTIETH|EIGHTIETH
11FC3 TAMIL FRACTION |ONE SIXTY-FOURTH|ONE FORTIETH|ONE THIRTY-SECOND|THREE EIGHTIETHS
11FC7 TAMIL FRACTION |THREE SIXTY-FOURTHS|ONE TWENTIETH|ONE SIXTEENTH-1|ONE SIXTEENTH-2|ONE TENTH
11FCC TAMIL FRACTION |ONE EIGHTH|THREE TWENTIETHS|THREE SIXTEENTHS|ONE FIFTH|ONE QUARTER
11FD1 TAMIL FRACTION |ONE HALF-1|ONE HALF-2|THREE QUARTERS|DOWNSCALING FACTOR KIIZH
11FD5 TAMIL SIGN |NEL|CEVITU|AAZHAAKKU|UZHAKKU|MUUVUZHAKKU|KURUNI|PATHAKKU|MUKKURUNI|KAACU|PANAM
11FDF TAMIL |SIGN PON|SIGN VARAAKAN|SIGN PAARAM|SIGN KUZHI|SIGN VELI|WET CULTIVATION SIGN
11FE5 TAMIL |DRY CULTIVATION SIGN|LAND SIGN|SALT PAN SIGN|TRADITIONAL CREDIT SIGN
11FE9 TAMIL |TRADITIONAL NUMBER SIGN|CURRENT SIGN|AND ODD SIGN|SPENT SIGN|TOTAL SIGN
11FEE TAMIL |IN POSSESSION SIGN|STARTING FROM SIGN|SIGN MUTHALIYA|SIGN VAKAIYARAA
11FFF |TAMIL PUNCTUATION END OF TEXT|CUNEIFORM SIGN A|CUNEIFORM SIGN A TIMES A
12002 CUNEIFORM SIGN A TIMES |BAD|GAN2 TENU|HA|IGI|LAGAR GUNU|MUSH|SAG
12009 CUNEIFORM SIGN |A2|AB|AB TIMES ASH2|AB TIMES DUN3 GUNU|AB TIMES GAL|AB TIMES GAN2 TENU
1200F CUNEIFORM SIGN AB TIMES |HA|IGI GUNU|IMIN|LAGAB|SHESH|U PLUS U PLUS U
12015 CUNEIFORM SIGN |AB GUNU|AB2|AB2 TIMES BALAG|AB2 TIMES GAN2 TENU|AB2 TIMES ME PLUS EN
1201A CUNEIFORM SIGN |AB2 TIMES SHA3|AB2 TIMES TAK4|AD|AK|AK TIMES ERIN2|AK TIMES SHITA PLUS GISH
12020 CUNEIFORM SIGN |AL|AL TIMES AL|AL TIMES DIM2|AL TIMES GISH|AL TIMES HA|AL TIMES KAD3
12026 CUNEIFORM SIGN |AL TIMES KI|AL TIMES SHE|AL TIMES USH|ALAN|ALEPH|AMAR|AMAR TIMES SHE|AN
1202E CUNEIFORM SIGN AN |OVER AN|THREE TIMES|PLUS NAGA OPPOSING AN PLUS NAGA|PLUS NAGA SQUARED
12032 CUNEIFORM SIGN |ANSHE|APIN|ARAD|ARAD TIMES KUR|ARKAB|ASAL2|ASH|ASH ZIDA TENU|ASH KABA TENU
1203B CUNEIFORM SIGN ASH OVER ASH |TUG2 OVER TUG2 TUG2 OVER TUG2 PAP|OVER ASH
1203D CUNEIFORM SIGN |ASH OVER ASH OVER ASH CROSSING ASH OVER ASH OVER ASH|ASH2|ASHGAB|BA|BAD|BAG3
12043 CUNEIFORM SIGN |BAHAR2|BAL|BAL OVER BAL|BALAG|BAR|BARA2|BI|BI TIMES A|BI TIMES GAR
1204C CUNEIFORM SIGN |BI TIMES IGI GUNU|BU|BU OVER BU AB|BU OVER BU UN|BU CROSSING BU|BULUG
12052 CUNEIFORM SIGN |BULUG OVER BULUG|BUR|BUR2|DA|DAG|DAG KISIM5 TIMES A PLUS MASH
12058 CUNEIFORM SIGN DAG KISIM5 TIMES |AMAR|BALAG|BI|GA|GA PLUS MASH|GI|GIR2|GUD|HA|IR|IR PLUS LU
12063 CUNEIFORM SIGN DAG KISIM5 TIMES |KAK|LA|LU|LU PLUS MASH2|LUM|NE|PAP PLUS PAP|SI|TAK4
1206C CUNEIFORM SIGN |DAG KISIM5 TIMES U2 PLUS GIR2|DAG KISIM5 TIMES USH|DAM|DAR|DARA3|DARA4|DI
12073 CUNEIFORM SIGN |DIB|DIM|DIM TIMES SHE|DIM2|DIN|DIN KASKAL U GUNU DISH|DISH|DU|DU OVER DU
1207C CUNEIFORM SIGN |DU GUNU|DU SHESHIG|DUB|DUB TIMES ESH2|DUB2|DUG|DUGUD|DUH|DUN|DUN3|DUN3 GUNU
12087 CUNEIFORM SIGN |DUN3 GUNU GUNU|DUN4|DUR2|E|E TIMES PAP|E OVER E NUN OVER NUN|E2
1208E CUNEIFORM SIGN E2 TIMES |A PLUS HA PLUS DA|GAR|MI|SAL|SHE|U
12094 CUNEIFORM SIGN |EDIN|EGIR|EL|EN|EN TIMES GAN2|EN TIMES GAN2 TENU|EN TIMES ME|EN CROSSING EN
1209C CUNEIFORM SIGN |EN OPPOSING EN|EN SQUARED|EREN|ERIN2|ESH2|EZEN|EZEN TIMES A
120A3 CUNEIFORM SIGN EZEN TIMES |A PLUS LAL|A PLUS LAL TIMES LAL|AN|BAD|DUN3 GUNU|DUN3 GUNU GUNU
120A9 CUNEIFORM SIGN EZEN TIMES |HA|HA GUNU|IGI GUNU|KASKAL|KASKAL SQUARED|KU3|LA|LAL TIMES LAL|LI
120B2 CUNEIFORM SIGN |EZEN TIMES LU|EZEN TIMES U2|EZEN TIMES UD|GA|GA GUNU|GA2
120B8 CUNEIFORM SIGN GA2 TIMES |A PLUS DA PLUS HA|A PLUS HA|A PLUS IGI|AB2 TENU PLUS TAB|AN|ASH
120BE CUNEIFORM SIGN GA2 TIMES |ASH2 PLUS GAL|BAD|BAR PLUS RA|BUR|BUR PLUS RA|DA|DI|DIM TIMES SHE
120C6 CUNEIFORM SIGN GA2 TIMES |DUB|EL|EL PLUS LA|EN|EN TIMES GAN2 TENU|GAN2 TENU|GAR|GI|GI4
120CF CUNEIFORM SIGN GA2 TIMES |GI4 PLUS A|GIR2 PLUS SU|HA PLUS LU PLUS ESH2|HAL|HAL PLUS LA
120D4 CUNEIFORM SIGN GA2 TIMES |HI PLUS LI|HUB2|IGI GUNU|ISH PLUS HU PLUS ASH|KAK|KASKAL|KID
120DB CUNEIFORM SIGN GA2 TIMES |KID PLUS LAL|KU3 PLUS AN|LA|ME PLUS EN|MI|NUN|NUN OVER NUN|PA|SAL
120E4 CUNEIFORM SIGN GA2 TIMES |SAR|SHE|SHE PLUS TUR|SHID|SUM|TAK4|U|UD|UD PLUS DU
120ED CUNEIFORM SIGN |GA2 OVER GA2|GABA|GABA CROSSING GABA|GAD|GAD OVER GAD GAR OVER GAR|GAL
120F3 CUNEIFORM SIGN |GAL GAD OVER GAD GAR OVER GAR|GALAM|GAM|GAN|GAN2|GAN2 TENU|GAN2 OVER GAN2
120FA CUNEIFORM SIGN |GAN2 CROSSING GAN2|GAR|GAR3|GASHAN|GESHTIN|GESHTIN TIMES KUR|GI|GI TIMES E
12102 CUNEIFORM SIGN |GI TIMES U|GI CROSSING GI|GI4|GI4 OVER GI4|GI4 CROSSING GI4|GIDIM|GIR2
12109 CUNEIFORM SIGN |GIR2 GUNU|GIR3|GIR3 TIMES A PLUS IGI|GIR3 TIMES GAN2 TENU|GIR3 TIMES IGI
1210E CUNEIFORM SIGN |GIR3 TIMES LU PLUS IGI|GIR3 TIMES PA|GISAL|GISH|GISH CROSSING GISH
12113 CUNEIFORM SIGN |GISH TIMES BAD|GISH TIMES TAK4|GISH TENU|GU|GU CROSSING GU|GU2|GU2 TIMES KAK
1211A CUNEIFORM SIGN GU2 |TIMES KAK TIMES IGI GUNU|TIMES NUN|TIMES SAL PLUS TUG2|GUNU
1211E CUNEIFORM SIGN |GUD|GUD TIMES A PLUS KUR|GUD TIMES KUR|GUD OVER GUD LUGAL|GUL|GUM
12124 CUNEIFORM SIGN |GUM TIMES SHE|GUR|GUR7|GURUN|GURUSH|HA|HA TENU|HA GUNU|HAL|HI|HI TIMES ASH
1212F CUNEIFORM SIGN HI TIMES |ASH2|BAD|DISH|GAD|KIN|NUN|SHE|U
12137 CUNEIFORM SIGN |HU|HUB2|HUB2 TIMES AN|HUB2 TIMES HAL|HUB2 TIMES KASKAL|HUB2 TIMES LISH
1213D CUNEIFORM SIGN |HUB2 TIMES UD|HUL2|I|I A|IB|IDIM|IDIM OVER IDIM BUR|IDIM OVER IDIM SQUARED
12145 CUNEIFORM SIGN |IG|IGI|IGI DIB|IGI RI|IGI OVER IGI SHIR OVER SHIR UD OVER UD|IGI GUNU|IL
1214C CUNEIFORM SIGN |IL TIMES GAN2 TENU|IL2|IM|IM TIMES TAK4|IM CROSSING IM|IM OPPOSING IM
12152 CUNEIFORM SIGN |IM SQUARED|IMIN|IN|IR|ISH|KA|KA TIMES A|KA TIMES AD|KA TIMES AD PLUS KU3
1215B CUNEIFORM SIGN KA TIMES |ASH2|BAD|BALAG|BAR|BI|ERIN2|ESH2|GA|GAL|GAN2 TENU|GAR
12166 CUNEIFORM SIGN KA TIMES |GAR PLUS SHA3 PLUS A|GI|GIR2|GISH PLUS SAR|GISH CROSSING GISH|GU
1216C CUNEIFORM SIGN KA TIMES |GUR7|IGI|IM|KAK|KI|KID|LI|LU|ME|ME PLUS DU|ME PLUS GI|ME PLUS TE|MI
12179 CUNEIFORM SIGN KA TIMES |MI PLUS NUNUZ|NE|NUN|PI|RU|SA|SAR|SHA|SHE|SHID|SHU|SIG|SUHUR|TAR|U
12188 CUNEIFORM SIGN |KA TIMES U2|KA TIMES UD|KA TIMES UMUM TIMES PA|KA TIMES USH|KA TIMES ZI|KA2
1218E CUNEIFORM SIGN |KA2 CROSSING KA2|KAB|KAD2|KAD3|KAD4|KAD5|KAD5 OVER KAD5|KAK
12196 CUNEIFORM SIGN |KAK TIMES IGI GUNU|KAL|KAL TIMES BAD|KAL CROSSING KAL|KAM2|KAM4|KASKAL
1219D |CUNEIFORM SIGN KASKAL LAGAB TIMES U OVER LAGAB TIMES U
1219E CUNEIFORM SIGN |KASKAL OVER KASKAL LAGAB TIMES U OVER LAGAB TIMES U|KESH2|KI|KI TIMES BAD
121A2 CUNEIFORM SIGN |KI TIMES U|KI TIMES UD|KID|KIN|KISAL|KISH|KISIM5|KISIM5 OVER KISIM5|KU
121AB CUNEIFORM SIGN |KU OVER HI TIMES ASH2 KU OVER HI TIMES ASH2|KU3|KU4|KU4 VARIANT FORM|KU7|KUL
121B1 CUNEIFORM SIGN |KUL GUNU|KUN|KUR|KUR OPPOSING KUR|KUSHU2|KWU318|LA|LAGAB|LAGAB TIMES A
121BA CUNEIFORM SIGN LAGAB TIMES |A PLUS DA PLUS HA|A PLUS GAR|A PLUS LAL|AL|AN|ASH ZIDA TENU|BAD
121C1 CUNEIFORM SIGN LAGAB TIMES |BI|DAR|EN|GA|GAR|GUD|GUD PLUS GUD|HA|HAL|HI TIMES NUN|IGI GUNU
121CC CUNEIFORM SIGN LAGAB TIMES |IM|IM PLUS HA|IM PLUS LU|KI|KIN|KU3|KUL|KUL PLUS HI PLUS A|LAGAB
121D5 CUNEIFORM SIGN LAGAB TIMES |LISH|LU|LUL|ME|ME PLUS EN|MUSH|NE|SHE PLUS SUM
121DD CUNEIFORM SIGN LAGAB TIMES |SHITA PLUS GISH PLUS ERIN2|SHITA PLUS GISH TENU|SHU2
121E0 CUNEIFORM SIGN LAGAB TIMES |SHU2 PLUS SHU2|SUM|TAG|TAK4|TE PLUS A PLUS SU PLUS NA|U|U PLUS A
121E7 CUNEIFORM SIGN LAGAB |TIMES U PLUS U PLUS U|TIMES U2 PLUS ASH|TIMES UD|TIMES USH|SQUARED
121EC CUNEIFORM SIGN |LAGAR|LAGAR TIMES SHE|LAGAR TIMES SHE PLUS SUM|LAGAR GUNU
121F0 CUNEIFORM SIGN |LAGAR GUNU OVER LAGAR GUNU SHE|LAHSHU|LAL|LAL TIMES LAL|LAM|LAM TIMES KUR
121F6 CUNEIFORM SIGN |LAM TIMES KUR PLUS RU|LI|LIL|LIMMU2|LISH|LU|LU TIMES BAD|LU2|LU2 TIMES AL
121FF CUNEIFORM SIGN LU2 TIMES |BAD|ESH2|ESH2 TENU|GAN2 TENU|HI TIMES BAD|IM|KAD2|KAD3
12207 CUNEIFORM SIGN LU2 TIMES |KAD3 PLUS ASH|KI|LA PLUS ASH|LAGAB|ME PLUS EN|NE|NU|SI PLUS ASH
1220F CUNEIFORM SIGN LU2 |TIMES SIK2 PLUS BU|TIMES TUG2|TENU|CROSSING LU2|OPPOSING LU2|SQUARED
12215 CUNEIFORM SIGN |LU2 SHESHIG|LU3|LUGAL|LUGAL OVER LUGAL|LUGAL OPPOSING LUGAL|LUGAL SHESHIG
1221B CUNEIFORM SIGN |LUH|LUL|LUM|LUM OVER LUM|LUM OVER LUM GAR OVER GAR|MA|MA TIMES TAK4|MA GUNU
12223 CUNEIFORM SIGN |MA2|MAH|MAR|MASH|MASH2|ME|MES|MI|MIN|MU|MU OVER MU|MUG|MUG GUNU|MUNSUB
12231 CUNEIFORM SIGN |MURGU2|MUSH|MUSH TIMES A|MUSH TIMES KUR|MUSH TIMES ZA|MUSH OVER MUSH
12237 CUNEIFORM SIGN |MUSH OVER MUSH TIMES A PLUS NA|MUSH CROSSING MUSH|MUSH3|MUSH3 TIMES A
1223B CUNEIFORM SIGN |MUSH3 TIMES A PLUS DI|MUSH3 TIMES DI|MUSH3 GUNU|NA|NA2|NAGA|NAGA INVERTED
12242 CUNEIFORM SIGN |NAGA TIMES SHU TENU|NAGA OPPOSING NAGA|NAGAR|NAM NUTILLU|NAM|NAM2|NE
12249 CUNEIFORM SIGN |NE TIMES A|NE TIMES UD|NE SHESHIG|NI|NI TIMES E|NI2|NIM|NIM TIMES GAN2 TENU
12251 CUNEIFORM SIGN |NIM TIMES GAR PLUS GAN2 TENU|NINDA2|NINDA2 TIMES AN|NINDA2 TIMES ASH
12255 CUNEIFORM SIGN NINDA2 TIMES |ASH PLUS ASH|GUD|ME PLUS GAN2 TENU|NE|NUN|SHE|SHE PLUS A AN
1225C CUNEIFORM SIGN NINDA2 TIMES |SHE PLUS ASH|SHE PLUS ASH PLUS ASH|U2 PLUS ASH|USH
12260 CUNEIFORM SIGN |NISAG|NU|NU11|NUN|NUN LAGAR TIMES GAR|NUN LAGAR TIMES MASH
12266 CUNEIFORM SIGN NUN LAGAR TIMES |SAL|SAL OVER NUN LAGAR TIMES SAL|USH
12269 CUNEIFORM SIGN NUN |TENU|OVER NUN|CROSSING NUN|CROSSING NUN LAGAR OVER LAGAR
1226D CUNEIFORM SIGN |NUNUZ|NUNUZ AB2 TIMES ASHGAB|NUNUZ AB2 TIMES BI|NUNUZ AB2 TIMES DUG
12271 CUNEIFORM SIGN NUNUZ AB2 TIMES |GUD|IGI GUNU|KAD3|LA|NE|SILA3|U2
12278 CUNEIFORM SIGN |NUNUZ KISIM5 TIMES BI|NUNUZ KISIM5 TIMES BI U|PA|PAD|PAN|PAP|PESH2|PI
12280 CUNEIFORM SIGN PI TIMES |A|AB|BI|BU|E|I|IB|U|U2
12289 CUNEIFORM SIGN |PI CROSSING PI|PIRIG|PIRIG TIMES KAL|PIRIG TIMES UD|PIRIG TIMES ZA
1228E CUNEIFORM SIGN |PIRIG OPPOSING PIRIG|RA|RAB|RI|RU|SA|SAG NUTILLU|SAG|SAG TIMES A
12297 CUNEIFORM SIGN SAG TIMES |DU|DUB|HA|KAK|KUR|LUM|MI|NUN|SAL|SHID|TAB|U2|UB|UM|UR|USH
122A7 CUNEIFORM SIGN |SAG OVER SAG|SAG GUNU|SAL|SAL LAGAB TIMES ASH2|SANGA2|SAR|SHA|SHA3
122AF CUNEIFORM SIGN SHA3 TIMES |A|BAD|GISH|NE|SHU2|TUR|U|U PLUS A
122B7 CUNEIFORM SIGN |SHA6|SHAB6|SHAR2|SHE|SHE HU|SHE OVER SHE GAD OVER GAD GAR OVER GAR
122BD CUNEIFORM SIGN |SHE OVER SHE TAB OVER TAB GAR OVER GAR|SHEG9|SHEN|SHESH|SHESH2|SHESHLAM|SHID
122C4 CUNEIFORM SIGN |SHID TIMES A|SHID TIMES IM|SHIM|SHIM TIMES A|SHIM TIMES BAL|SHIM TIMES BULUG
122CA CUNEIFORM SIGN SHIM TIMES |DIN|GAR|IGI|IGI GUNU|KUSHU2|LUL|MUG|SAL
122D2 CUNEIFORM SIGN |SHINIG|SHIR|SHIR TENU|SHIR OVER SHIR BUR OVER BUR|SHITA|SHU
122D8 CUNEIFORM SIGN |SHU OVER INVERTED SHU|SHU2|SHUBUR|SI|SI GUNU|SIG|SIG4|SIG4 OVER SIG4 SHU2
122E0 CUNEIFORM SIGN |SIK2|SILA3|SU|SU OVER SU|SUD|SUD2|SUHUR|SUM|SUMASH|SUR|SUR9|TA|TA ASTERISK
122ED CUNEIFORM SIGN |TA TIMES HI|TA TIMES MI|TA GUNU|TAB|TAB OVER TAB NI OVER NI DISH OVER DISH
122F2 CUNEIFORM SIGN |TAB SQUARED|TAG|TAG TIMES BI|TAG TIMES GUD|TAG TIMES SHE|TAG TIMES SHU
122F8 CUNEIFORM SIGN |TAG TIMES TUG2|TAG TIMES UD|TAK4|TAR|TE|TE GUNU|TI|TI TENU|TIL|TIR
12302 CUNEIFORM SIGN |TIR TIMES TAK4|TIR OVER TIR|TIR OVER TIR GAD OVER GAD GAR OVER GAR|TU|TUG2
12307 CUNEIFORM SIGN |TUK|TUM|TUR|TUR OVER TUR ZA OVER ZA|U|U GUD|U U U
1230E CUNEIFORM SIGN U OVER U |PA OVER PA GAR OVER GAR|SUR OVER SUR|U REVERSED OVER U REVERSED
12311 CUNEIFORM SIGN |U2|UB|UD|UD KUSHU2|UD TIMES BAD|UD TIMES MI|UD TIMES U PLUS U PLUS U
12318 CUNEIFORM SIGN |UD TIMES U PLUS U PLUS U GUNU|UD GUNU|UD SHESHIG|UD SHESHIG TIMES BAD|UDUG
1231D CUNEIFORM SIGN |UM|UM TIMES LAGAB|UM TIMES ME PLUS DA|UM TIMES SHA3|UM TIMES U|UMBIN|UMUM
12324 CUNEIFORM SIGN |UMUM TIMES KASKAL|UMUM TIMES PA|UN|UN GUNU|UR|UR CROSSING UR|UR SHESHIG|UR2
1232C CUNEIFORM SIGN UR2 TIMES |A PLUS HA|A PLUS NA|AL|HA|NUN|U2|U2 PLUS ASH|U2 PLUS BI
12334 CUNEIFORM SIGN |UR4|URI|URI3|URU|URU TIMES A|URU TIMES ASHGAB|URU TIMES BAR|URU TIMES DUN
1233C CUNEIFORM SIGN URU TIMES |GA|GAL|GAN2 TENU|GAR|GU|HA|IGI|IM|ISH|KI|LUM|MIN|PA|SHE|SIG4|TU
1234C CUNEIFORM SIGN |URU TIMES U PLUS GUD|URU TIMES UD|URU TIMES URUDA|URUDA|URUDA TIMES U|USH
12352 CUNEIFORM SIGN |USH TIMES A|USH TIMES KU|USH TIMES KUR|USH TIMES TAK4|USHX|USH2|USHUMX|UTUKI
1235A CUNEIFORM SIGN |UZ3|UZ3 TIMES KASKAL|UZU|ZA|ZA TENU|ZA SQUARED TIMES KUR|ZAG|ZAMX|ZE2|ZI
12364 CUNEIFORM SIGN |ZI OVER ZI|ZI3|ZIB|ZIB KABA TENU|ZIG|ZIZ2|ZU|ZU5|ZU5 TIMES A|ZUBUR|ZUM
1236F CUNEIFORM SIGN |KAP ELAMITE|AB TIMES NUN|AB2 TIMES A|AMAR TIMES KUG
12373 CUNEIFORM SIGN |DAG KISIM5 TIMES U2 PLUS MASH|DAG3|DISH PLUS SHU|DUB TIMES SHE
12377 CUNEIFORM SIGN |EZEN TIMES GUD|EZEN TIMES SHE|GA2 TIMES AN PLUS KAK PLUS A|GA2 TIMES ASH2
1237B CUNEIFORM SIGN |GE22|GIG|HUSH|KA TIMES ANSHE|KA TIMES ASH3|KA TIMES GISH|KA TIMES GUD
12382 CUNEIFORM SIGN KA TIMES |HI TIMES ASH2|LUM|PA|SHUL|TU|UR2
12388 CUNEIFORM SIGN |LAGAB TIMES GI|LU2 SHESHIG TIMES BAD|LU2 TIMES ESH2 PLUS LAL|LU2 TIMES SHU
1238C CUNEIFORM SIGN |MESH|MUSH3 TIMES ZA|NA4|NIN|NIN9|NINDA2 TIMES BAL|NINDA2 TIMES GI
12393 CUNEIFORM SIGN |NU11 ROTATED NINETY DEGREES|PESH2 ASTERISK|PIR2|SAG TIMES IGI GUNU|TI2
12398 CUNEIFORM SIGN |UM TIMES ME|U U
12400 CUNEIFORM NUMERIC SIGN |TWO ASH|THREE ASH|FOUR ASH|FIVE ASH|SIX ASH|SEVEN ASH|EIGHT ASH
12407 CUNEIFORM NUMERIC SIGN |NINE ASH|THREE DISH|FOUR DISH|FIVE DISH|SIX DISH|SEVEN DISH
1240D CUNEIFORM NUMERIC SIGN |EIGHT DISH|NINE DISH|FOUR U|FIVE U|SIX U|SEVEN U|EIGHT U|NINE U
12415 CUNEIFORM NUMERIC SIGN |ONE GESH2|TWO GESH2|THREE GESH2|FOUR GESH2|FIVE GESH2|SIX GESH2
1241B CUNEIFORM NUMERIC SIGN |SEVEN GESH2|EIGHT GESH2|NINE GESH2|ONE GESHU|TWO GESHU|THREE GESHU
12421 CUNEIFORM NUMERIC SIGN |FOUR GESHU|FIVE GESHU|TWO SHAR2|THREE SHAR2|THREE SHAR2 VARIANT FORM
12426 CUNEIFORM NUMERIC SIGN |FOUR SHAR2|FIVE SHAR2|SIX SHAR2|SEVEN SHAR2|EIGHT SHAR2|NINE SHAR2
1242C CUNEIFORM NUMERIC SIGN |ONE SHARU|TWO SHARU|THREE SHARU|THREE SHARU VARIANT FORM|FOUR SHARU
12431 CUNEIFORM NUMERIC SIGN |FIVE SHARU|SHAR2 TIMES GAL PLUS DISH|SHAR2 TIMES GAL PLUS MIN
12434 CUNEIFORM NUMERIC SIGN |ONE BURU|TWO BURU|THREE BURU|THREE BURU VARIANT FORM|FOUR BURU
12439 CUNEIFORM NUMERIC SIGN |FIVE BURU|THREE VARIANT FORM ESH16|THREE VARIANT FORM ESH21
1243C CUNEIFORM NUMERIC SIGN FOUR VARIANT FORM |LIMMU|LIMMU4|LIMMU A|LIMMU B
12440 CUNEIFORM NUMERIC SIGN |SIX VARIANT FORM ASH9|SEVEN VARIANT FORM IMIN3
12442 CUNEIFORM NUMERIC SIGN SEVEN VARIANT FORM IMIN |A|B
12444 CUNEIFORM NUMERIC SIGN EIGHT VARIANT FORM |USSU|USSU3
12446 CUNEIFORM NUMERIC SIGN NINE VARIANT FORM |ILIMMU|ILIMMU3|ILIMMU4|ILIMMU A
1244A CUNEIFORM NUMERIC SIGN |TWO ASH TENU|THREE ASH TENU|FOUR ASH TENU|FIVE ASH TENU|SIX ASH TENU
1244F CUNEIFORM NUMERIC SIGN |ONE BAN2|TWO BAN2|THREE BAN2|FOUR BAN2|FOUR BAN2 VARIANT FORM
12454 CUNEIFORM NUMERIC SIGN |FIVE BAN2|FIVE BAN2 VARIANT FORM|NIGIDAMIN|NIGIDAESH|ONE ESHE3
12459 CUNEIFORM NUMERIC SIGN |TWO ESHE3|ONE THIRD DISH|TWO THIRDS DISH|FIVE SIXTHS DISH
1245D CUNEIFORM NUMERIC SIGN |ONE THIRD VARIANT FORM A|TWO THIRDS VARIANT FORM A|ONE EIGHTH ASH
12460 CUNEIFORM NUMERIC SIGN |ONE QUARTER ASH|OLD ASSYRIAN ONE SIXTH|OLD ASSYRIAN ONE QUARTER
12463 CUNEIFORM NUMERIC SIGN |ONE QUARTER GUR|ONE HALF GUR|ELAMITE ONE THIRD|ELAMITE TWO THIRDS
12467 CUNEIFORM NUMERIC SIGN |ELAMITE FORTY|ELAMITE FIFTY|FOUR U VARIANT FORM|FIVE U VARIANT FORM
1246B CUNEIFORM NUMERIC SIGN |SIX U VARIANT FORM|SEVEN U VARIANT FORM|EIGHT U VARIANT FORM
1246E |CUNEIFORM NUMERIC SIGN NINE U VARIANT FORM
12470 CUNEIFORM PUNCTUATION SIGN |OLD ASSYRIAN WORD DIVIDER|VERTICAL COLON|DIAGONAL COLON
12473 CUNEIFORM PUNCTUATION SIGN DIAGONAL |TRICOLON|QUADCOLON
12480 CUNEIFORM SIGN |AB TIMES NUN TENU|AB TIMES SHU2|AD TIMES ESH2|BAD TIMES DISH TENU
12484 CUNEIFORM SIGN |BAHAR2 TIMES AB2|BAHAR2 TIMES NI|BAHAR2 TIMES ZA|BU OVER BU TIMES NA2
12488 CUNEIFORM SIGN |DA TIMES TAK4|DAG TIMES KUR|DIM TIMES IGI|DIM TIMES U U U|DIM2 TIMES UD
1248D CUNEIFORM SIGN DUG TIMES |ANSHE|ASH|ASH AT LEFT|DIN|DUN|ERIN2|GA|GI|GIR2 GUNU|GISH|HA|HI
12499 CUNEIFORM SIGN DUG TIMES |IGI GUNU|KASKAL|KUR|KUSHU2|KUSHU2 PLUS KASKAL|LAK-020|LAM
124A0 CUNEIFORM SIGN DUG TIMES |LAM TIMES KUR|LUH PLUS GISH|MASH|MES|MI|NI|PI|SHE|SI GUNU
124A9 CUNEIFORM SIGN |E2 TIMES KUR|E2 TIMES PAP|ERIN2 X|ESH2 CROSSING ESH2|EZEN SHESHIG TIMES ASH
124AE CUNEIFORM SIGN EZEN SHESHIG TIMES |HI|IGI GUNU|LA|LAL|ME|MES|SU
124B5 CUNEIFORM SIGN |EZEN TIMES SU|GA2 TIMES BAHAR2|GA2 TIMES DIM GUNU
124B8 CUNEIFORM SIGN GA2 TIMES |DUG TIMES IGI GUNU|DUG TIMES KASKAL|EREN|GA|GAR PLUS DI
124BD CUNEIFORM SIGN GA2 TIMES |GAR PLUS NE|HA PLUS A|KUSHU2 PLUS KASKAL|LAM|LAM TIMES KUR|LUH
124C3 CUNEIFORM SIGN GA2 TIMES |MUSH|NE|NE PLUS E2|NE PLUS GI|SHIM|ZIZ2
124C9 CUNEIFORM SIGN |GABA ROTATED NINETY DEGREES|GESHTIN TIMES U|GISH TIMES GISH CROSSING GISH
124CC CUNEIFORM SIGN |GU2 TIMES IGI GUNU|GUD PLUS GISH TIMES TAK4|HA TENU GUNU
124CF CUNEIFORM SIGN |HI TIMES ASH OVER HI TIMES ASH|KA TIMES BU|KA TIMES KA|KA TIMES U U U
124D3 CUNEIFORM SIGN |KA TIMES UR|LAGAB TIMES ZU OVER ZU|LAK-003|LAK-021|LAK-025|LAK-030|LAK-050
124DA CUNEIFORM SIGN |LAK-051|LAK-062|LAK-079 OVER LAK-079 GUNU|LAK-080|LAK-081 OVER LAK-081
124DF CUNEIFORM SIGN |LAK-092|LAK-130|LAK-142|LAK-210|LAK-219|LAK-220|LAK-225|LAK-228|LAK-238
124E8 CUNEIFORM SIGN |LAK-265|LAK-266|LAK-343|LAK-347|LAK-348|LAK-383|LAK-384|LAK-390|LAK-441
124F1 CUNEIFORM SIGN |LAK-449|LAK-449 TIMES GU|LAK-449 TIMES IGI|LAK-449 TIMES PAP PLUS LU3
124F5 CUNEIFORM SIGN |LAK-449 TIMES PAP PLUS PAP PLUS LU3|LAK-449 TIMES U2 PLUS BA|LAK-450|LAK-457
124F9 CUNEIFORM SIGN |LAK-470|LAK-483|LAK-490|LAK-492|LAK-493|LAK-495|LAK-550|LAK-608|LAK-617
12502 CUNEIFORM SIGN LAK-617 TIMES |ASH|BAD|DUN3 GUNU GUNU|KU3|LA|TAR|TE|U2|UD|URUDA
1250C CUNEIFORM SIGN |LAK-636|LAK-648|LAK-648 TIMES DUB|LAK-648 TIMES GA|LAK-648 TIMES IGI
12511 CUNEIFORM SIGN LAK-648 TIMES |IGI GUNU|NI|PAP PLUS PAP PLUS LU3|SHESH PLUS KI|UD|URUDA
12517 CUNEIFORM SIGN |LAK-724|LAK-749|LU2 GUNU TIMES ASH|LU2 TIMES DISH|LU2 TIMES HAL
1251C CUNEIFORM SIGN |LU2 TIMES PAP|LU2 TIMES PAP PLUS PAP PLUS LU3|LU2 TIMES TAK4|MI PLUS ZA7
12520 CUNEIFORM SIGN |MUSH OVER MUSH TIMES GA|MUSH OVER MUSH TIMES KAK|NINDA2 TIMES DIM GUNU
12523 CUNEIFORM SIGN NINDA2 TIMES |GISH|GUL|HI|KESH2|LAK-050|MASH|PAP PLUS PAP|U|U PLUS U|URUDA
1252D CUNEIFORM SIGN SAG |GUNU TIMES HA|TIMES EN|TIMES SHE AT LEFT|TIMES TAK4
12531 CUNEIFORM SIGN |SHA6 TENU|SHE OVER SHE|SHE PLUS HUB2|SHE PLUS NAM2|SHE PLUS SAR
12536 CUNEIFORM SIGN |SHU2 PLUS DUG TIMES NI|SHU2 PLUS E2 TIMES AN|SI TIMES TAK4|TAK4 PLUS SAG
1253A CUNEIFORM SIGN |TUM TIMES GAN2 TENU|TUM TIMES THREE DISH|UR2 INVERTED|UR2 TIMES UD
1253E CUNEIFORM SIGN |URU TIMES DARA3|URU TIMES LAK-668|URU TIMES LU3|ZA7|ZU OVER ZU PLUS SAR
12543 |CUNEIFORM SIGN ZU5 TIMES THREE DISH TENU
12F90 CYPRO-MINOAN SIGN |CM001|CM002|CM004|CM005|CM006|CM007|CM008|CM009|CM010|CM011|CM012|CM012B
12F9C CYPRO-MINOAN SIGN |CM013|CM015|CM017|CM019|CM021|CM023|CM024|CM025|CM026|CM027|CM028|CM029
12FA8 CYPRO-MINOAN SIGN |CM030|CM033|CM034|CM035|CM036|CM037|CM038|CM039|CM040|CM041|CM044|CM046
12FB4 CYPRO-MINOAN SIGN |CM047|CM049|CM050|CM051|CM052|CM053|CM054|CM055|CM056|CM058|CM059|CM060
12FC0 CYPRO-MINOAN SIGN |CM061|CM062|CM063|CM064|CM066|CM067|CM068|CM069|CM070|CM071|CM072|CM073
12FCC CYPRO-MINOAN SIGN |CM074|CM075|CM075B|CM076|CM078|CM079|CM080|CM081|CM082|CM083|CM084|CM085
12FD8 CYPRO-MINOAN SIGN |CM086|CM087|CM088|CM089|CM090|CM091|CM092|CM094|CM095|CM096|CM097|CM098
12FE4 CYPRO-MINOAN SIGN |CM099|CM100|CM101|CM102|CM103|CM104|CM105|CM107|CM108|CM109|CM110|CM112
12FF0 CYPRO-MINOAN SIGN |CM114|CM301|CM302
13000 EGYPTIAN HIEROGLYPH |A001|A002|A003|A004|A005|A005A|A006|A006A|A006B|A007|A008|A009|A010
1300D EGYPTIAN HIEROGLYPH |A011|A012|A013|A014|A014A|A015|A016|A017|A017A|A018|A019|A020|A021|A022
1301B EGYPTIAN HIEROGLYPH |A023|A024|A025|A026|A027|A028|A029|A030|A031|A032|A032A|A033|A034|A035
13029 EGYPTIAN HIEROGLYPH |A036|A037|A038|A039|A040|A040A|A041|A042|A042A|A043|A043A|A044|A045
13036 EGYPTIAN HIEROGLYPH |A045A|A046|A047|A048|A049|A050|A051|A052|A053|A054|A055|A056|A057|A058
13044 EGYPTIAN HIEROGLYPH |A059|A060|A061|A062|A063|A064|A065|A066|A067|A068|A069|A070|B001|B002
13052 EGYPTIAN HIEROGLYPH |B003|B004|B005|B005A|B006|B007|B008|B009|C001|C002|C002A|C002B|C002C
1305F EGYPTIAN HIEROGLYPH |C003|C004|C005|C006|C007|C008|C009|C010|C010A|C011|C012|C013|C014|C015
1306D EGYPTIAN HIEROGLYPH |C016|C017|C018|C019|C020|C021|C022|C023|C024|D001|D002|D003|D004|D005
1307B EGYPTIAN HIEROGLYPH |D006|D007|D008|D008A|D009|D010|D011|D012|D013|D014|D015|D016|D017|D018
13089 EGYPTIAN HIEROGLYPH |D019|D020|D021|D022|D023|D024|D025|D026|D027|D027A|D028|D029|D030|D031
13097 EGYPTIAN HIEROGLYPH |D031A|D032|D033|D034|D034A|D035|D036|D037|D038|D039|D040|D041|D042|D043
130A5 EGYPTIAN HIEROGLYPH |D044|D045|D046|D046A|D047|D048|D048A|D049|D050|D050A|D050B|D050C|D050D
130B2 EGYPTIAN HIEROGLYPH |D050E|D050F|D050G|D050H|D050I|D051|D052|D052A|D053|D054|D054A|D055|D056
130BF EGYPTIAN HIEROGLYPH |D057|D058|D059|D060|D061|D062|D063|D064|D065|D066|D067|D067A|D067B
130CC EGYPTIAN HIEROGLYPH |D067C|D067D|D067E|D067F|D067G|D067H|E001|E002|E003|E004|E005|E006|E007
130D9 EGYPTIAN HIEROGLYPH |E008|E008A|E009|E009A|E010|E011|E012|E013|E014|E015|E016|E016A|E017
130E6 EGYPTIAN HIEROGLYPH |E017A|E018|E019|E020|E020A|E021|E022|E023|E024|E025|E026|E027|E028
130F3 EGYPTIAN HIEROGLYPH |E028A|E029|E030|E031|E032|E033|E034|E034A|E036|E037|E038|F001|F001A
13100 EGYPTIAN HIEROGLYPH |F002|F003|F004|F005|F006|F007|F008|F009|F010|F011|F012|F013|F013A|F014
1310E EGYPTIAN HIEROGLYPH |F015|F016|F017|F018|F019|F020|F021|F021A|F022|F023|F024|F025|F026|F027
1311C EGYPTIAN HIEROGLYPH |F028|F029|F030|F031|F031A|F032|F033|F034|F035|F036|F037|F037A|F038
13129 EGYPTIAN HIEROGLYPH |F038A|F039|F040|F041|F042|F043|F044|F045|F045A|F046|F046A|F047|F047A
13136 EGYPTIAN HIEROGLYPH |F048|F049|F050|F051|F051A|F051B|F051C|F052|F053|G001|G002|G003|G004
13143 EGYPTIAN HIEROGLYPH |G005|G006|G006A|G007|G007A|G007B|G008|G009|G010|G011|G011A|G012|G013
13150 EGYPTIAN HIEROGLYPH |G014|G015|G016|G017|G018|G019|G020|G020A|G021|G022|G023|G024|G025|G026
1315E EGYPTIAN HIEROGLYPH |G026A|G027|G028|G029|G030|G031|G032|G033|G034|G035|G036|G036A|G037
1316B EGYPTIAN HIEROGLYPH |G037A|G038|G039|G040|G041|G042|G043|G043A|G044|G045|G045A|G046|G047
13178 EGYPTIAN HIEROGLYPH |G048|G049|G050|G051|G052|G053|G054|H001|H002|H003|H004|H005|H006|H006A
13186 EGYPTIAN HIEROGLYPH |H007|H008|I001|I002|I003|I004|I005|I005A|I006|I007|I008|I009|I009A|I010
13194 EGYPTIAN HIEROGLYPH |I010A|I011|I011A|I012|I013|I014|I015|K001|K002|K003|K004|K005|K006|K007
131A2 EGYPTIAN HIEROGLYPH |K008|L001|L002|L002A|L003|L004|L005|L006|L006A|L007|L008|M001|M001A
131AF EGYPTIAN HIEROGLYPH |M001B|M002|M003|M003A|M004|M005|M006|M007|M008|M009|M010|M010A|M011
131BC EGYPTIAN HIEROGLYPH |M012|M012A|M012B|M012C|M012D|M012E|M012F|M012G|M012H|M013|M014|M015
131C8 EGYPTIAN HIEROGLYPH |M015A|M016|M016A|M017|M017A|M018|M019|M020|M021|M022|M022A|M023|M024
131D5 EGYPTIAN HIEROGLYPH |M024A|M025|M026|M027|M028|M028A|M029|M030|M031|M031A|M032|M033|M033A
131E2 EGYPTIAN HIEROGLYPH |M033B|M034|M035|M036|M037|M038|M039|M040|M040A|M041|M042|M043|M044|N001
131F0 EGYPTIAN HIEROGLYPH |N002|N003|N004|N005|N006|N007|N008|N009|N010|N011|N012|N013|N014|N015
131FE EGYPTIAN HIEROGLYPH |N016|N017|N018|N018A|N018B|N019|N020|N021|N022|N023|N024|N025|N025A
1320B EGYPTIAN HIEROGLYPH |N026|N027|N028|N029|N030|N031|N032|N033|N033A|N034|N034A|N035|N035A
13218 EGYPTIAN HIEROGLYPH |N036|N037|N037A|N038|N039|N040|N041|N042|NL001|NL002|NL003|NL004|NL005
13225 EGYPTIAN HIEROGLYPH |NL005A|NL006|NL007|NL008|NL009|NL010|NL011|NL012|NL013|NL014|NL015
13230 EGYPTIAN HIEROGLYPH |NL016|NL017|NL017A|NL018|NL019|NL020|NU001|NU002|NU003|NU004|NU005
1323B EGYPTIAN HIEROGLYPH |NU006|NU007|NU008|NU009|NU010|NU010A|NU011|NU011A|NU012|NU013|NU014
13246 EGYPTIAN HIEROGLYPH |NU015|NU016|NU017|NU018|NU018A|NU019|NU020|NU021|NU022|NU022A|O001
13251 EGYPTIAN HIEROGLYPH |O001A|O002|O003|O004|O005|O005A|O006|O006A|O006B|O006C|O006D|O006E
1325D EGYPTIAN HIEROGLYPH |O006F|O007|O008|O009|O010|O010A|O010B|O010C|O011|O012|O013|O014|O015
1326A EGYPTIAN HIEROGLYPH |O016|O017|O018|O019|O019A|O020|O020A|O021|O022|O023|O024|O024A|O025
13277 EGYPTIAN HIEROGLYPH |O025A|O026|O027|O028|O029|O029A|O030|O030A|O031|O032|O033|O033A|O034
13284 EGYPTIAN HIEROGLYPH |O035|O036|O036A|O036B|O036C|O036D|O037|O038|O039|O040|O041|O042|O043
13291 EGYPTIAN HIEROGLYPH |O044|O045|O046|O047|O048|O049|O050|O050A|O050B|O051|P001|P001A|P002
1329E EGYPTIAN HIEROGLYPH |P003|P003A|P004|P005|P006|P007|P008|P009|P010|P011|Q001|Q002|Q003|Q004
132AC EGYPTIAN HIEROGLYPH |Q005|Q006|Q007|R001|R002|R002A|R003|R003A|R003B|R004|R005|R006|R007
132B9 EGYPTIAN HIEROGLYPH |R008|R009|R010|R010A|R011|R012|R013|R014|R015|R016|R016A|R017|R018|R019
132C7 EGYPTIAN HIEROGLYPH |R020|R021|R022|R023|R024|R025|R026|R027|R028|R029|S001|S002|S002A|S003
132D5 EGYPTIAN HIEROGLYPH |S004|S005|S006|S006A|S007|S008|S009|S010|S011|S012|S013|S014|S014A
132E2 EGYPTIAN HIEROGLYPH |S014B|S015|S016|S017|S017A|S018|S019|S020|S021|S022|S023|S024|S025|S026
132F0 EGYPTIAN HIEROGLYPH |S026A|S026B|S027|S028|S029|S030|S031|S032|S033|S034|S035|S035A|S036
132FD EGYPTIAN HIEROGLYPH |S037|S038|S039|S040|S041|S042|S043|S044|S045|S046|T001|T002|T003|T003A
1330B EGYPTIAN HIEROGLYPH |T004|T005|T006|T007|T007A|T008|T008A|T009|T009A|T010|T011|T011A|T012
13318 EGYPTIAN HIEROGLYPH |T013|T014|T015|T016|T016A|T017|T018|T019|T020|T021|T022|T023|T024|T025
13326 EGYPTIAN HIEROGLYPH |T026|T027|T028|T029|T030|T031|T032|T032A|T033|T033A|T034|T035|T036|U001
13334 EGYPTIAN HIEROGLYPH |U002|U003|U004|U005|U006|U006A|U006B|U007|U008|U009|U010|U011|U012|U013
13342 EGYPTIAN HIEROGLYPH |U014|U015|U016|U017|U018|U019|U020|U021|U022|U023|U023A|U024|U025|U026
13350 EGYPTIAN HIEROGLYPH |U027|U028|U029|U029A|U030|U031|U032|U032A|U033|U034|U035|U036|U037|U038
1335E EGYPTIAN HIEROGLYPH |U039|U040|U041|U042|V001|V001A|V001B|V001C|V001D|V001E|V001F|V001G
1336A EGYPTIAN HIEROGLYPH |V001H|V001I|V002|V002A|V003|V004|V005|V006|V007|V007A|V007B|V008|V009
13377 EGYPTIAN HIEROGLYPH |V010|V011|V011A|V011B|V011C|V012|V012A|V012B|V013|V014|V015|V016|V017
13384 EGYPTIAN HIEROGLYPH |V018|V019|V020|V020A|V020B|V020C|V020D|V020E|V020F|V020G|V020H|V020I
13390 EGYPTIAN HIEROGLYPH |V020J|V020K|V020L|V021|V022|V023|V023A|V024|V025|V026|V027|V028|V028A
1339D EGYPTIAN HIEROGLYPH |V029|V029A|V030|V030A|V031|V031A|V032|V033|V033A|V034|V035|V036|V037
133AA EGYPTIAN HIEROGLYPH |V037A|V038|V039|V040|V040A|W001|W002|W003|W003A|W004|W005|W006|W007
133B7 EGYPTIAN HIEROGLYPH |W008|W009|W009A|W010|W010A|W011|W012|W013|W014|W014A|W015|W016|W017
133C4 EGYPTIAN HIEROGLYPH |W017A|W018|W018A|W019|W020|W021|W022|W023|W024|W024A|W025|X001|X002
133D1 EGYPTIAN HIEROGLYPH |X003|X004|X004A|X004B|X005|X006|X006A|X007|X008|X008A|Y001|Y001A|Y002
133DE EGYPTIAN HIEROGLYPH |Y003|Y004|Y005|Y006|Y007|Y008|Z001|Z002|Z002A|Z002B|Z002C|Z002D|Z003
133EB EGYPTIAN HIEROGLYPH |Z003A|Z003B|Z004|Z004A|Z005|Z005A|Z006|Z007|Z008|Z009|Z010|Z011|Z012
133F8 EGYPTIAN HIEROGLYPH |Z013|Z014|Z015|Z015A|Z015B|Z015C|Z015D|Z015E|Z015F|Z015G|Z015H|Z015I
13404 EGYPTIAN HIEROGLYPH |Z016|Z016A|Z016B|Z016C|Z016D|Z016E|Z016F|Z016G|Z016H|AA001|AA002|AA003
13410 EGYPTIAN HIEROGLYPH |AA004|AA005|AA006|AA007|AA007A|AA007B|AA008|AA009|AA010|AA011|AA012
1341B EGYPTIAN HIEROGLYPH |AA013|AA014|AA015|AA016|AA017|AA018|AA019|AA020|AA021|AA022|AA023|AA024
13427 EGYPTIAN HIEROGLYPH |AA025|AA026|AA027|AA028|AA029|AA030|AA031|AA032
13430 EGYPTIAN HIEROGLYPH |VERTICAL JOINER|HORIZONTAL JOINER|INSERT AT TOP START
13433 EGYPTIAN HIEROGLYPH INSERT AT |BOTTOM START|TOP END|BOTTOM END
13436 EGYPTIAN HIEROGLYPH |OVERLAY MIDDLE|BEGIN SEGMENT|END SEGMENT
14400 ANATOLIAN HIEROGLYPH |A001|A002|A003|A004|A005|A006|A007|A008|A009|A010|A010A|A011|A012|A013
1440E ANATOLIAN HIEROGLYPH |A014|A015|A016|A017|A018|A019|A020|A021|A022|A023|A024|A025|A026|A026A
1441C ANATOLIAN HIEROGLYPH |A027|A028|A029|A030|A031|A032|A033|A034|A035|A036|A037|A038|A039|A039A
1442A ANATOLIAN HIEROGLYPH |A040|A041|A041A|A042|A043|A044|A045|A045A|A046|A046A|A046B|A047|A048
14437 ANATOLIAN HIEROGLYPH |A049|A050|A051|A052|A053|A054|A055|A056|A057|A058|A059|A060|A061|A062
14445 ANATOLIAN HIEROGLYPH |A063|A064|A065|A066|A066A|A066B|A066C|A067|A068|A069|A070|A071|A072
14452 ANATOLIAN HIEROGLYPH |A073|A074|A075|A076|A077|A078|A079|A080|A081|A082|A083|A084|A085|A086
14460 ANATOLIAN HIEROGLYPH |A087|A088|A089|A090|A091|A092|A093|A094|A095|A096|A097|A097A|A098
1446D ANATOLIAN HIEROGLYPH |A098A|A099|A100|A100A|A101|A101A|A102|A102A|A103|A104|A104A|A104B
14479 ANATOLIAN HIEROGLYPH |A104C|A105|A105A|A105B|A106|A107|A107A|A107B|A107C|A108|A109|A110
14485 ANATOLIAN HIEROGLYPH |A110A|A110B|A111|A112|A113|A114|A115|A115A|A116|A117|A118|A119|A120
14492 ANATOLIAN HIEROGLYPH |A121|A122|A123|A124|A125|A125A|A126|A127|A128|A129|A130|A131|A132|A133
144A0 ANATOLIAN HIEROGLYPH |A134|A135|A135A|A136|A137|A138|A139|A140|A141|A142|A143|A144|A145|A146
144AE ANATOLIAN HIEROGLYPH |A147|A148|A149|A150|A151|A152|A153|A154|A155|A156|A157|A158|A159|A160
144BC ANATOLIAN HIEROGLYPH |A161|A162|A163|A164|A165|A166|A167|A168|A169|A170|A171|A172|A173|A174
144CA ANATOLIAN HIEROGLYPH |A175|A176|A177|A178|A179|A180|A181|A182|A183|A184|A185|A186|A187|A188
144D8 ANATOLIAN HIEROGLYPH |A189|A190|A191|A192|A193|A194|A195|A196|A197|A198|A199|A200|A201|A202
144E6 ANATOLIAN HIEROGLYPH |A202A|A202B|A203|A204|A205|A206|A207|A207A|A208|A209|A209A|A210|A211
144F3 ANATOLIAN HIEROGLYPH |A212|A213|A214|A215|A215A|A216|A216A|A217|A218|A219|A220|A221|A222
14500 ANATOLIAN HIEROGLYPH |A223|A224|A225|A226|A227|A227A|A228|A229|A230|A231|A232|A233|A234|A235
1450E ANATOLIAN HIEROGLYPH |A236|A237|A238|A239|A240|A241|A242|A243|A244|A245|A246|A247|A248|A249
1451C ANATOLIAN HIEROGLYPH |A250|A251|A252|A253|A254|A255|A256|A257|A258|A259|A260|A261|A262|A263
1452A ANATOLIAN HIEROGLYPH |A264|A265|A266|A267|A267A|A268|A269|A270|A271|A272|A273|A274|A275|A276
14538 ANATOLIAN HIEROGLYPH |A277|A278|A279|A280|A281|A282|A283|A284|A285|A286|A287|A288|A289|A289A
14546 ANATOLIAN HIEROGLYPH |A290|A291|A292|A293|A294|A294A|A295|A296|A297|A298|A299|A299A|A300
14553 ANATOLIAN HIEROGLYPH |A301|A302|A303|A304|A305|A306|A307|A308|A309|A309A|A310|A311|A312|A313
14561 ANATOLIAN HIEROGLYPH |A314|A315|A316|A317|A318|A319|A320|A321|A322|A323|A324|A325|A326|A327
1456F ANATOLIAN HIEROGLYPH |A328|A329|A329A|A330|A331|A332A|A332B|A332C|A333|A334|A335|A336|A336A
1457C ANATOLIAN HIEROGLYPH |A336B|A336C|A337|A338|A339|A340|A341|A342|A343|A344|A345|A346|A347
14589 ANATOLIAN HIEROGLYPH |A348|A349|A350|A351|A352|A353|A354|A355|A356|A357|A358|A359|A359A|A360
14597 ANATOLIAN HIEROGLYPH |A361|A362|A363|A364|A364A|A365|A366|A367|A368|A368A|A369|A370|A371
145A4 ANATOLIAN HIEROGLYPH |A371A|A372|A373|A374|A375|A376|A377|A378|A379|A380|A381|A381A|A382
145B1 ANATOLIAN HIEROGLYPH |A383 RA OR RI|A383A|A384|A385|A386|A386A|A387|A388|A389|A390|A391|A392
145BD ANATOLIAN HIEROGLYPH |A393 EIGHT|A394|A395|A396|A397|A398|A399|A400|A401|A402|A403|A404|A405
145CA ANATOLIAN HIEROGLYPH |A406|A407|A408|A409|A410 BEGIN LOGOGRAM MARK|A410A END LOGOGRAM MARK
145D0 ANATOLIAN HIEROGLYPH |A411|A412|A413|A414|A415|A416|A417|A418|A419|A420|A421|A422|A423|A424
145DE ANATOLIAN HIEROGLYPH |A425|A426|A427|A428|A429|A430|A431|A432|A433|A434|A435|A436|A437|A438
145EC ANATOLIAN HIEROGLYPH |A439|A440|A441|A442|A443|A444|A445|A446|A447|A448|A449|A450|A450A|A451
145FA ANATOLIAN HIEROGLYPH |A452|A453|A454|A455|A456|A457|A457A|A458|A459|A460|A461|A462|A463|A464
14608 ANATOLIAN HIEROGLYPH |A465|A466|A467|A468|A469|A470|A471|A472|A473|A474|A475|A476|A477|A478
14616 ANATOLIAN HIEROGLYPH |A479|A480|A481|A482|A483|A484|A485|A486|A487|A488|A489|A490|A491|A492
14624 ANATOLIAN HIEROGLYPH |A493|A494|A495|A496|A497|A501|A502|A503|A504|A505|A506|A507|A508|A509
14632 ANATOLIAN HIEROGLYPH |A510|A511|A512|A513|A514|A515|A516|A517|A518|A519|A520|A521|A522|A523
14640 ANATOLIAN HIEROGLYPH |A524|A525|A526|A527|A528|A529|A530
16800 BAMUM LETTER PHASE-A |NGKUE MFON|GBIEE FON|PON MFON PIPAEMGBIEE|PON MFON PIPAEMBA|NAA MFON
16805 BAMUM LETTER PHASE-A |SHUENSHUET|TITA MFON|NZA MFON|SHINDA PA NJI|PON PA NJI PIPAEMGBIEE
1680A BAMUM LETTER PHASE-A |PON PA NJI PIPAEMBA|MAEMBGBIEE|TU MAEMBA|NGANGU|MAEMVEUX|MANSUAE
16810 BAMUM LETTER PHASE-A |MVEUAENGAM|SEUNYAM|NTOQPEN|KEUKEUTNDA|NKINDI|SUU|NGKUENZEUM|LAPAQ
16818 BAMUM LETTER PHASE-A |LET KUT|NTAP MFAA|MAEKEUP|PASHAE|GHEUAERAE|PAMSHAE|MON NGGEUAET
1681F BAMUM LETTER PHASE-A |NZUN MEUT|U YUQ NAE|GHEUAEGHEUAE|NTAP NTAA|SISA|MGBASA|MEUNJOMNDEUQ
16826 BAMUM LETTER PHASE-A |MOOMPUQ|KAFA|PA LEERAEWA|NDA LEERAEWA|PET|MAEMKPEN|NIKA|PUP|TUAEP
1682F BAMUM LETTER PHASE-A |LUAEP|SONJAM|TEUTEUWEN|MAENYI|KET|NDAANGGEUAET|KUOQ|MOOMEUT|SHUM
16838 BAMUM LETTER PHASE-A |LOMMAE|FIRI|ROM|KPOQ|SOQ|MAP PIEET|SHIRAE|NTAP|SHOQ NSHUT YUM
16841 BAMUM LETTER PHASE-A |NYIT MONGKEUAEQ|PAARAE|NKAARAE|UNKNOWN|NGGEN|MAESI|NJAM|MBANYI|NYET
1684A BAMUM LETTER PHASE-A |TEUAEN|SOT|PAAM|NSHIEE|MAEM|NYI|KAQ|NSHA|VEE|LU|NEN|NAQ|MBAQ
16857 BAMUM LETTER PHASE-B |NSHUET|TU MAEMGBIEE|SIEE|SET TU|LOM NTEUM|MBA MAELEE|KIEEM|YEURAE
1685F BAMUM LETTER PHASE-B |MBAARAE|KAM|PEESHI|YAFU LEERAEWA|LAM NSHUT NYAM|NTIEE SHEUOQ|NDU NJAA
16866 BAMUM LETTER PHASE-B |GHEUGHEUAEM|PIT|TU NSIEE|SHET NJAQ|SHEUAEQTU|MFON TEUAEQ|MBIT MBAAKET
1686D BAMUM LETTER PHASE-B |NYI NTEUM|KEUPUQ|GHEUGHEN|KEUYEUX|LAANAE|PARUM|VEUM|NGKINDI MVOP
16875 BAMUM LETTER PHASE-B |NGGEU MBU|WUAET|SAKEUAE|TAAM|MEUQ|NGGUOQ|NGGUOQ LARGE|MFIYAQ|SUE
1687E BAMUM LETTER PHASE-B |MBEURI|MONTIEEN|NYAEMAE|PUNGAAM|MEUT NGGEET|FEUX|MBUOQ|FEE|KEUAEM
16887 BAMUM LETTER PHASE-B |MA NJEUAENA|MA NJUQA|LET|NGGAAM|NSEN|MA|KIQ|NGOM
1688F BAMUM LETTER PHASE-C |NGKUE MAEMBA|NZA|YUM|WANGKUOQ|NGGEN|NDEUAEREE|NGKAQ|GHARAE|MBEEKEET
16898 BAMUM LETTER PHASE-C |GBAYI|NYIR MKPARAQ MEUN|NTU MBIT|MBEUM|PIRIEEN|NDOMBU
1689E BAMUM LETTER PHASE-C |MBAA CABBAGE-TREE|KEUSHEUAEP|GHAP|KEUKAQ|YU MUOMAE|NZEUM|MBUE|NSEUAEN
168A6 BAMUM LETTER PHASE-C |MBIT|YEUQ|KPARAQ|KAA|SEUX|NDIDA|TAASHAE|NJUEQ|TITA YUE|SUAET
168B0 BAMUM LETTER PHASE-C |NGGUAEN NYAM|VEUX|NANSANAQ|MA KEUAERI|NTAA|NGGUON|LAP|MBIRIEEN|MGBASAQ
168B9 BAMUM LETTER PHASE-C |NTEUNGBA|TEUTEUX|NGGUM|FUE|NDEUT|NSA|NSHAQ|BUNG|VEUAEPEN|MBERAE|RU
168C4 BAMUM LETTER PHASE-C |NJAEM|LAM|TITUAEP|NSUOT NGOM|NJEEEE|KET|NGGU|MAESI|MBUAEM|LU|KUT|NJAM
168D0 BAMUM LETTER PHASE-C |NGOM|WUP|NGGUEET|NSOM|NTEN|KUOP NKAARAE|NSUN|NDAM|MA NSIEE|YAA|NDAP
168DB BAMUM LETTER PHASE-C |SHUEQ|SETFON|MBI|MAEMBA|MBANYI|KEUSEUX|MBEUX|KEUM|MBAA PICKET|YUWOQ
168E5 BAMUM LETTER PHASE-C |NJEUX|MIEE|MUAE|SHIQ|KEN LAW|KEN FATIGUE|NGAQ|NAQ|LIQ|PIN|PEN|TET
168F1 BAMUM LETTER PHASE-D |MBUO|WAP|NJI|MFON|NJIEE|LIEE|NJEUT|NSHEE|NGGAAMAE|NYAM|WUAEN|NGKUN
168FD BAMUM LETTER PHASE-D |SHEE|NGKAP|KEUAETMEUN|TEUT|SHEUAE|NJAP|SUE|KET|YAEMMAE|KUOM|SAP|MFEUT
16909 BAMUM LETTER PHASE-D |NDEUX|MALEERI|MEUT|SEUAEQ|YEN|NJEUAEM|KEUOT MBUAE|NGKEURI|TU|GHAA
16913 BAMUM LETTER PHASE-D |NGKYEE|FEUFEUAET|NDEE|MGBOFUM|LEUAEP|NDON|MONI|MGBEUN|PUUT|MGBIEE|MFO
1691E BAMUM LETTER PHASE-D |LUM|NSIEEP|MBAA|KWAET|NYET|TEUAEN|SOT|YUWOQ|KEUM|RAEM|TEEEE|NGKEUAEQ
1692A BAMUM LETTER PHASE-D |MFEUAE|NSIEET|KEUP|PIP|PEUTAE|NYUE|LET|NGGAAM|MFIEE|NGGWAEN|YUOM|PAP
16936 BAMUM LETTER PHASE-D |YUOP|NDAM|NTEUM|SUAE|KUN|NGGEUX|NGKIEE|TUOT|MEUN|KUQ|NSUM|TEUN|MAENJET
16943 BAMUM LETTER PHASE-D |NGGAP|LEUM|NGGUOM|NSHUT|NJUEQ|GHEUAE|KU|REN OLD|TAE|TOQ|NYI|RII|LEEEE
16950 BAMUM LETTER PHASE-D |MEEEE|M|SUU|MU|SHII|SHEUX|KYEE|NU|SHU|NTEE|PEE|NI|SHOQ|PUQ|MVOP|LOQ
16960 BAMUM LETTER PHASE-D |REN MUCH|TI|NTUU|MBAA SEVEN|SAQ|FAA
16966 BAMUM LETTER PHASE-E |NDAP|TOON|MBEUM|LAP|VOM|LOON|PAA|SOM|RAQ|NSHUOP|NDUN|PUAE|TAM|NGKA
16974 BAMUM LETTER PHASE-E |KPEUX|WUO|SEE|NGGEUAET|PAAM|TOO|KUOP|LOM|NSHIEE|NGOP|MAEM|NGKEUX|NGOQ
16981 BAMUM LETTER PHASE-E |NSHUE|RIMGBA|NJEUX|PEEM|SAA|NGGURAE|MGBA|GHEUX|NGKEUAEM|NJAEMLI|MAP
1698C BAMUM LETTER PHASE-E |LOOT|NGGEEEE|NDIQ|TAEN NTEUM|SET|PUM|NDAA SOFTNESS|NGGUAESHAE NYAM
16994 BAMUM LETTER PHASE-E |YIEE|GHEUN|TUAE|YEUAE|PO|TUMAE|KEUAE|SUAEN|TEUAEQ|VEUAE|WEUX|LAAM|PU
169A1 BAMUM LETTER PHASE-E |TAAQ|GHAAMAE|NGEUREUT|SHEUAEQ|MGBEN|MBEE|NZAQ|NKOM|GBET|TUM|KUET|YAP
169AD BAMUM LETTER PHASE-E |NYI CLEAVER|YIT|MFEUQ|NDIAQ|PIEEQ|YUEQ|LEUAEM|FUE|GBEUX|NGKUP|KET|MAE
169B9 BAMUM LETTER PHASE-E |NGKAAMI|GHET|FA|NTUM|PEUT|YEUM|NGGEUAE|NYI BETWEEN|NZUQ|POON|MIEE|FUET
169C5 BAMUM LETTER PHASE-E |NAE|MUAE|GHEUAE|FU I|MVI|PUAQ|NGKUM|KUT|PIET|NTAP|YEUAET|NGGUP
169D1 BAMUM LETTER PHASE-E |PA PEOPLE|FU CALL|FOM|NJEE|A|TOQ|O|I|LAQ|PA PLURAL|TAA|TAQ
169DD BAMUM LETTER PHASE-E |NDAA MY HOUSE|SHIQ|YEUX|NGUAE|YUAEN|YOQ SWIMMING|YOQ COVER|YUQ|YUN
169E6 BAMUM LETTER PHASE-E |KEUX|PEUX|NJEE EPOCH|PUE|WUE|FEE|VEE|LU|MI|REUX|RAE|NGUAET|NGA|SHO
169F4 BAMUM LETTER PHASE-E |SHOQ|FU REMEDY|NA|PI|LOQ|KO|MEN|MA|MAQ|TEU|KI|MON|TEN|FAQ|GHOM
16A03 BAMUM LETTER PHASE-F |KA|U|KU|EE|REE|TAE|NYI|LA|RII|RIEE|MEEEE|TAA|NDAA|NJAEM|M|SUU|SHII|SI
16A15 BAMUM LETTER PHASE-F |SEUX|KYEE|KET|NUAE|NU|NJUAE|YOQ|SHU|YA|NSHA|PEUX|NTEE|WUE|PEE|RU|NI
16A25 BAMUM LETTER PHASE-F |REUX|KEN|NGKWAEN|NGGA|SHO|PUAE|FOM|WA|LI|LOQ|KO|MBEN|REN|MA|MO|MBAA
16A35 BAMUM LETTER PHASE-F |TET|KPA|SAMBA|VUEQ
16A40 MRO LETTER |TA|NGI|YO|MIM|BA|DA|A|PHI|KHAI|HAO|DAI|CHU|KEAAE|OL|MAEM|NIN|PA|OO|O|RO|SHI|THEA
16A56 MRO LETTER |EA|WA|E|KO|LAN|LA|HAI|RI|TEK
16A60 MRO DIGIT |ZERO|ONE|TWO|THREE|FOUR|FIVE|SIX|SEVEN|EIGHT|NINE
16A6E |MRO DANDA|MRO DOUBLE DANDA|TANGSA LETTER OZ|TANGSA LETTER OC|TANGSA LETTER OQ
16A73 TANGSA LETTER |OX|AZ|AC|AQ|AX|VZ|VC|VQ|VX|EZ|EC|EQ|EX|IZ|IC|IQ|IX|UZ|UC|UQ|UX|AWZ|AWC|AWQ
16A8B TANGSA LETTER |AWX|UIZ|UIC|UIQ|UIX|FINAL NG|LONG UEX|SHORT UEZ|SHORT AWX|UEC|UEZ|UEQ|UEX
16A98 TANGSA LETTER |UIUZ|UIUC|UIUQ|UIUX|MZ|MC|MQ|MX|KA|KHA|GA|NGA|SA|YA|WA|PA|NYA|PHA|BA|MA|NA|HA
16AAE TANGSA LETTER |LA|HTA|TA|DA|RA|NHA|SHA|CA|TSA|GHA|HTTA|THA|XA|FA|DHA|CHA|ZA
16AC0 TANGSA DIGIT |ZERO|ONE|TWO|THREE|FOUR|FIVE|SIX|SEVEN|EIGHT|NINE
16AD0 BASSA VAH LETTER |ENNI|KA|SE|FA|MBE|YIE|GAH|DHII|KPAH|JO|HWAH|WA|ZO|GBU|DO|CE|UWU|TO|BA|VU
16AE4 BASSA VAH LETTER |YEIN|PA|WADDA|A|O|OO|U|EE|E|I
16AF0 BASSA VAH COMBINING |HIGH TONE|LOW TONE|MID TONE|LOW-MID TONE|HIGH-LOW TONE
16AF5 |BASSA VAH FULL STOP
16B00 PAHAWH HMONG VOWEL |KEEB|KEEV|KIB|KIV|KAUB|KAUV|KUB|KUV|KEB|KEV|KAIB|KAIV|KOOB|KOOV|KAWB
16B0F PAHAWH HMONG VOWEL |KAWV|KUAB|KUAV|KOB|KOV|KIAB|KIAV|KAB|KAV|KWB|KWV|KAAB|KAAV
16B1C PAHAWH HMONG CONSONANT |VAU|NTSAU|LAU|HAU|NLAU|RAU|NKAU|QHAU|YAU|HLAU|MAU|CHAU|NCHAU|HNAU
16B2A PAHAWH HMONG CONSONANT |PLHAU|NTHAU|NAU|AU|XAU|CAU
16B30 PAHAWH HMONG MARK CIM |TUB|SO|KES|KHAV|SUAM|HOM|TAUM
16B37 PAHAWH HMONG SIGN |VOS THOM|VOS TSHAB CEEB|CIM CHEEM|VOS THIAB|VOS FEEM|XYEEM NTXIV
16B3D PAHAWH HMONG SIGN |XYEEM RHO|XYEEM TOV|XYEEM FAIB|VOS SEEV|MEEJ SUAB|VOS NRUA|IB YAM|XAUS
16B45 |PAHAWH HMONG SIGN CIM TSOV ROG
16B50 PAHAWH HMONG DIGIT |ZERO|ONE|TWO|THREE|FOUR|FIVE|SIX|SEVEN|EIGHT|NINE
16B5B PAHAWH HMONG NUMBER |TENS|HUNDREDS|TEN THOUSANDS|MILLIONS|HUNDRED MILLIONS|TEN BILLIONS
16B61 |PAHAWH HMONG NUMBER TRILLIONS
16B63 PAHAWH HMONG SIGN |VOS LUB|XYOO|HLI|THIRD-STAGE HLI|ZWJ THAJ|HNUB|NQIG|XIAB|NTUJ|AV
16B6D PAHAWH HMONG SIGN |TXHEEJ CEEV|MEEJ TSEEB|TAU|LOS|MUS|CIM HAIS LUS NTOG NTOG|CIM CUAM TSHOOJ
16B74 PAHAWH HMONG SIGN CIM |TXWV|TXWV CHWV|PUB DAWB|NRES TOS
16B7D PAHAWH HMONG CLAN SIGN |TSHEEJ|YEEG|LIS|LAUJ|XYOOJ|KOO|HAWJ|MUAS|THOJ|TSAB|PHAB|KHAB|HAM|VAJ
16B8B PAHAWH HMONG CLAN SIGN |FAJ|YAJ|TSWB|KWM|VWJ
16E40 MEDEFAIDRIN CAPITAL LETTER |M|S|V|W|ATIU|Z|KP|P|T|G|F|I|K|A|J|E|B|C|U|YU|L|Q|HP|NY|X|D|OE|N
16E5C MEDEFAIDRIN CAPITAL LETTER |R|O|AI|Y
16E60 MEDEFAIDRIN SMALL LETTER |M|S|V|W|ATIU|Z|KP|P|T|G|F|I|K|A|J|E|B|C|U|YU|L|Q|HP|NY|X|D|OE|N|R
16E7D MEDEFAIDRIN |SMALL LETTER O|SMALL LETTER AI|SMALL LETTER Y|DIGIT ZERO|DIGIT ONE|DIGIT TWO
16E83 MEDEFAIDRIN DIGIT |THREE|FOUR|FIVE|SIX|SEVEN|EIGHT|NINE
16E8A MEDEFAIDRIN NUMBER |TEN|ELEVEN|TWELVE|THIRTEEN|FOURTEEN|FIFTEEN|SIXTEEN|SEVENTEEN|EIGHTEEN
16E93 MEDEFAIDRIN |NUMBER NINETEEN|DIGIT ONE ALTERNATE FORM|DIGIT TWO ALTERNATE FORM
16E96 MEDEFAIDRIN |DIGIT THREE ALTERNATE FORM|COMMA|FULL STOP|SYMBOL AIVA|EXCLAMATION OH
16F00 MIAO LETTER |PA|BA|YI PA|PLA|MA|MHA|ARCHAIC MA|FA|VA|VFA|TA|DA|YI TTA|YI TA|TTA|DDA|NA|NHA
16F12 MIAO LETTER |YI NNA|ARCHAIC NA|NNA|NNHA|LA|LYA|LHA|LHYA|TLHA|DLHA|TLHYA|DLHYA|KA|GA|YI KA|QA
16F22 MIAO LETTER |QGA|NGA|NGHA|ARCHAIC NGA|HA|XA|GHA|GHHA|TSSA|DZZA|NYA|NYHA|TSHA|DZHA|YI TSHA
16F31 MIAO LETTER |YI DZHA|REFORMED TSHA|SHA|SSA|ZHA|ZSHA|TSA|DZA|YI TSA|SA|ZA|ZSA|ZZA|ZZSA
16F3F MIAO LETTER |ARCHAIC ZZA|ZZYA|ZZSYA|WA|AH|HHA|BRI|SYI|DZYI|TE|TSE|RTE
16F4F MIAO |SIGN CONSONANT MODIFIER BAR|LETTER NASALIZATION|SIGN ASPIRATION|SIGN REFORMED VOICING
16F53 MIAO |SIGN REFORMED ASPIRATION|VOWEL SIGN A|VOWEL SIGN AA|VOWEL SIGN AHH|VOWEL SIGN AN
16F58 MIAO VOWEL SIGN |ANG|O|OO|WO|W|E|EN|ENG|OEY|I|IA|IAN|IANG|IO|IE|II|IU|ING|U|UA|UAN|UANG|UU
16F6F MIAO VOWEL SIGN |UEI|UNG|Y|YI|AE|AEE|ERR|ROUNDED ERR|ER|ROUNDED ER|AI|EI|AU|OU|N|NG|UOG|YUI
16F81 MIAO VOWEL SIGN |OG|OER|VW|IG|EA|IONG|UI
16F8F MIAO |TONE RIGHT|TONE TOP RIGHT|TONE ABOVE|TONE BELOW|LETTER TONE-2|LETTER TONE-3
16F95 MIAO LETTER |TONE-4|TONE-5|TONE-6|TONE-7|TONE-8|REFORMED TONE-1|REFORMED TONE-2
16F9C MIAO LETTER REFORMED |TONE-4|TONE-5|TONE-6|TONE-8
16FE0 |TANGUT ITERATION MARK|NUSHU ITERATION MARK|OLD CHINESE HOOK MARK|OLD CHINESE ITERATION MARK
16FE4 |KHITAN SMALL SCRIPT FILLER
16FF0 VIETNAMESE ALTERNATE READING MARK |CA|NHAY
18800 TANGUT |COMPONENT-001|COMPONENT-002|COMPONENT-003|COMPONENT-004|COMPONENT-005|COMPONENT-006
18806 TANGUT |COMPONENT-007|COMPONENT-008|COMPONENT-009|COMPONENT-010|COMPONENT-011|COMPONENT-012
1880C TANGUT |COMPONENT-013|COMPONENT-014|COMPONENT-015|COMPONENT-016|COMPONENT-017|COMPONENT-018
18812 TANGUT |COMPONENT-019|COMPONENT-020|COMPONENT-021|COMPONENT-022|COMPONENT-023|COMPONENT-024
18818 TANGUT |COMPONENT-025|COMPONENT-026|COMPONENT-027|COMPONENT-028|COMPONENT-029|COMPONENT-030
1881E TANGUT |COMPONENT-031|COMPONENT-032|COMPONENT-033|COMPONENT-034|COMPONENT-035|COMPONENT-036
18824 TANGUT |COMPONENT-037|COMPONENT-038|COMPONENT-039|COMPONENT-040|COMPONENT-041|COMPONENT-042
1882A TANGUT |COMPONENT-043|COMPONENT-044|COMPONENT-045|COMPONENT-046|COMPONENT-047|COMPONENT-048
18830 TANGUT |COMPONENT-049|COMPONENT-050|COMPONENT-051|COMPONENT-052|COMPONENT-053|COMPONENT-054
18836 TANGUT |COMPONENT-055|COMPONENT-056|COMPONENT-057|COMPONENT-058|COMPONENT-059|COMPONENT-060
1883C TANGUT |COMPONENT-061|COMPONENT-062|COMPONENT-063|COMPONENT-064|COMPONENT-065|COMPONENT-066
18842 TANGUT |COMPONENT-067|COMPONENT-068|COMPONENT-069|COMPONENT-070|COMPONENT-071|COMPONENT-072
18848 TANGUT |COMPONENT-073|COMPONENT-074|COMPONENT-075|COMPONENT-076|COMPONENT-077|COMPONENT-078
1884E TANGUT |COMPONENT-079|COMPONENT-080|COMPONENT-081|COMPONENT-082|COMPONENT-083|COMPONENT-084
18854 TANGUT |COMPONENT-085|COMPONENT-086|COMPONENT-087|COMPONENT-088|COMPONENT-089|COMPONENT-090
1885A TANGUT |COMPONENT-091|COMPONENT-092|COMPONENT-093|COMPONENT-094|COMPONENT-095|COMPONENT-096
18860 TANGUT |COMPONENT-097|COMPONENT-098|COMPONENT-099|COMPONENT-100|COMPONENT-101|COMPONENT-102
18866 TANGUT |COMPONENT-103|COMPONENT-104|COMPONENT-105|COMPONENT-106|COMPONENT-107|COMPONENT-108
1886C TANGUT |COMPONENT-109|COMPONENT-110|COMPONENT-111|COMPONENT-112|COMPONENT-113|COMPONENT-114
18872 TANGUT |COMPONENT-115|COMPONENT-116|COMPONENT-117|COMPONENT-118|COMPONENT-119|COMPONENT-120
18878 TANGUT |COMPONENT-121|COMPONENT-122|COMPONENT-123|COMPONENT-124|COMPONENT-125|COMPONENT-126
1887E TANGUT |COMPONENT-127|COMPONENT-128|COMPONENT-129|COMPONENT-130|COMPONENT-131|COMPONENT-132
18884 TANGUT |COMPONENT-133|COMPONENT-134|COMPONENT-135|COMPONENT-136|COMPONENT-137|COMPONENT-138
1888A TANGUT |COMPONENT-139|COMPONENT-140|COMPONENT-141|COMPONENT-142|COMPONENT-143|COMPONENT-144
18890 TANGUT |COMPONENT-145|COMPONENT-146|COMPONENT-147|COMPONENT-148|COMPONENT-149|COMPONENT-150
18896 TANGUT |COMPONENT-151|COMPONENT-152|COMPONENT-153|COMPONENT-154|COMPONENT-155|COMPONENT-156
1889C TANGUT |COMPONENT-157|COMPONENT-158|COMPONENT-159|COMPONENT-160|COMPONENT-161|COMPONENT-162
188A2 TANGUT |COMPONENT-163|COMPONENT-164|COMPONENT-165|COMPONENT-166|COMPONENT-167|COMPONENT-168
188A8 TANGUT |COMPONENT-169|COMPONENT-170|COMPONENT-171|COMPONENT-172|COMPONENT-173|COMPONENT-174
188AE TANGUT |COMPONENT-175|COMPONENT-176|COMPONENT-177|COMPONENT-178|COMPONENT-179|COMPONENT-180
188B4 TANGUT |COMPONENT-181|COMPONENT-182|COMPONENT-183|COMPONENT-184|COMPONENT-185|COMPONENT-186
188BA TANGUT |COMPONENT-187|COMPONENT-188|COMPONENT-189|COMPONENT-190|COMPONENT-191|COMPONENT-192
188C0 TANGUT |COMPONENT-193|COMPONENT-194|COMPONENT-195|COMPONENT-196|COMPONENT-197|COMPONENT-198
188C6 TANGUT |COMPONENT-199|COMPONENT-200|COMPONENT-201|COMPONENT-202|COMPONENT-203|COMPONENT-204
188CC TANGUT |COMPONENT-205|COMPONENT-206|COMPONENT-207|COMPONENT-208|COMPONENT-209|COMPONENT-210
188D2 TANGUT |COMPONENT-211|COMPONENT-212|COMPONENT-213|COMPONENT-214|COMPONENT-215|COMPONENT-216
188D8 TANGUT |COMPONENT-217|COMPONENT-218|COMPONENT-219|COMPONENT-220|COMPONENT-221|COMPONENT-222
188DE TANGUT |COMPONENT-223|COMPONENT-224|COMPONENT-225|COMPONENT-226|COMPONENT-227|COMPONENT-228
188E4 TANGUT |COMPONENT-229|COMPONENT-230|COMPONENT-231|COMPONENT-232|COMPONENT-233|COMPONENT-234
188EA TANGUT |COMPONENT-235|COMPONENT-236|COMPONENT-237|COMPONENT-238|COMPONENT-239|COMPONENT-240
188F0 TANGUT |COMPONENT-241|COMPONENT-242|COMPONENT-243|COMPONENT-244|COMPONENT-245|COMPONENT-246
188F6 TANGUT |COMPONENT-247|COMPONENT-248|COMPONENT-249|COMPONENT-250|COMPONENT-251|COMPONENT-252
188FC TANGUT |COMPONENT-253|COMPONENT-254|COMPONENT-255|COMPONENT-256|COMPONENT-257|COMPONENT-258
18902 TANGUT |COMPONENT-259|COMPONENT-260|COMPONENT-261|COMPONENT-262|COMPONENT-263|COMPONENT-264
18908 TANGUT |COMPONENT-265|COMPONENT-266|COMPONENT-267|COMPONENT-268|COMPONENT-269|COMPONENT-270
1890E TANGUT |COMPONENT-271|COMPONENT-272|COMPONENT-273|COMPONENT-274|COMPONENT-275|COMPONENT-276
18914 TANGUT |COMPONENT-277|COMPONENT-278|COMPONENT-279|COMPONENT-280|COMPONENT-281|COMPONENT-282
1891A TANGUT |COMPONENT-283|COMPONENT-284|COMPONENT-285|COMPONENT-286|COMPONENT-287|COMPONENT-288
18920 TANGUT |COMPONENT-289|COMPONENT-290|COMPONENT-291|COMPONENT-292|COMPONENT-293|COMPONENT-294
18926 TANGUT |COMPONENT-295|COMPONENT-296|COMPONENT-297|COMPONENT-298|COMPONENT-299|COMPONENT-300
1892C TANGUT |COMPONENT-301|COMPONENT-302|COMPONENT-303|COMPONENT-304|COMPONENT-305|COMPONENT-306
18932 TANGUT |COMPONENT-307|COMPONENT-308|COMPONENT-309|COMPONENT-310|COMPONENT-311|COMPONENT-312
18938 TANGUT |COMPONENT-313|COMPONENT-314|COMPONENT-315|COMPONENT-316|COMPONENT-317|COMPONENT-318
1893E TANGUT |COMPONENT-319|COMPONENT-320|COMPONENT-321|COMPONENT-322|COMPONENT-323|COMPONENT-324
18944 TANGUT |COMPONENT-325|COMPONENT-326|COMPONENT-327|COMPONENT-328|COMPONENT-329|COMPONENT-330
1894A TANGUT |COMPONENT-331|COMPONENT-332|COMPONENT-333|COMPONENT-334|COMPONENT-335|COMPONENT-336
18950 TANGUT |COMPONENT-337|COMPONENT-338|COMPONENT-339|COMPONENT-340|COMPONENT-341|COMPONENT-342
18956 TANGUT |COMPONENT-343|COMPONENT-344|COMPONENT-345|COMPONENT-346|COMPONENT-347|COMPONENT-348
1895C TANGUT |COMPONENT-349|COMPONENT-350|COMPONENT-351|COMPONENT-352|COMPONENT-353|COMPONENT-354
18962 TANGUT |COMPONENT-355|COMPONENT-356|COMPONENT-357|COMPONENT-358|COMPONENT-359|COMPONENT-360
18968 TANGUT |COMPONENT-361|COMPONENT-362|COMPONENT-363|COMPONENT-364|COMPONENT-365|COMPONENT-366
1896E TANGUT |COMPONENT-367|COMPONENT-368|COMPONENT-369|COMPONENT-370|COMPONENT-371|COMPONENT-372
18974 TANGUT |COMPONENT-373|COMPONENT-374|COMPONENT-375|COMPONENT-376|COMPONENT-377|COMPONENT-378
1897A TANGUT |COMPONENT-379|COMPONENT-380|COMPONENT-381|COMPONENT-382|COMPONENT-383|COMPONENT-384
18980 TANGUT |COMPONENT-385|COMPONENT-386|COMPONENT-387|COMPONENT-388|COMPONENT-389|COMPONENT-390
18986 TANGUT |COMPONENT-391|COMPONENT-392|COMPONENT-393|COMPONENT-394|COMPONENT-395|COMPONENT-396
1898C TANGUT |COMPONENT-397|COMPONENT-398|COMPONENT-399|COMPONENT-400|COMPONENT-401|COMPONENT-402
18992 TANGUT |COMPONENT-403|COMPONENT-404|COMPONENT-405|COMPONENT-406|COMPONENT-407|COMPONENT-408
18998 TANGUT |COMPONENT-409|COMPONENT-410|COMPONENT-411|COMPONENT-412|COMPONENT-413|COMPONENT-414
1899E TANGUT |COMPONENT-415|COMPONENT-416|COMPONENT-417|COMPONENT-418|COMPONENT-419|COMPONENT-420
189A4 TANGUT |COMPONENT-421|COMPONENT-422|COMPONENT-423|COMPONENT-424|COMPONENT-425|COMPONENT-426
189AA TANGUT |COMPONENT-427|COMPONENT-428|COMPONENT-429|COMPONENT-430|COMPONENT-431|COMPONENT-432
189B0 TANGUT |COMPONENT-433|COMPONENT-434|COMPONENT-435|COMPONENT-436|COMPONENT-437|COMPONENT-438
189B6 TANGUT |COMPONENT-439|COMPONENT-440|COMPONENT-441|COMPONENT-442|COMPONENT-443|COMPONENT-444
189BC TANGUT |COMPONENT-445|COMPONENT-446|COMPONENT-447|COMPONENT-448|COMPONENT-449|COMPONENT-450
189C2 TANGUT |COMPONENT-451|COMPONENT-452|COMPONENT-453|COMPONENT-454|COMPONENT-455|COMPONENT-456
189C8 TANGUT |COMPONENT-457|COMPONENT-458|COMPONENT-459|COMPONENT-460|COMPONENT-461|COMPONENT-462
189CE TANGUT |COMPONENT-463|COMPONENT-464|COMPONENT-465|COMPONENT-466|COMPONENT-467|COMPONENT-468
189D4 TANGUT |COMPONENT-469|COMPONENT-470|COMPONENT-471|COMPONENT-472|COMPONENT-473|COMPONENT-474
189DA TANGUT |COMPONENT-475|COMPONENT-476|COMPONENT-477|COMPONENT-478|COMPONENT-479|COMPONENT-480
189E0 TANGUT |COMPONENT-481|COMPONENT-482|COMPONENT-483|COMPONENT-484|COMPONENT-485|COMPONENT-486
189E6 TANGUT |COMPONENT-487|COMPONENT-488|COMPONENT-489|COMPONENT-490|COMPONENT-491|COMPONENT-492
189EC TANGUT |COMPONENT-493|COMPONENT-494|COMPONENT-495|COMPONENT-496|COMPONENT-497|COMPONENT-498
189F2 TANGUT |COMPONENT-499|COMPONENT-500|COMPONENT-501|COMPONENT-502|COMPONENT-503|COMPONENT-504
189F8 TANGUT |COMPONENT-505|COMPONENT-506|COMPONENT-507|COMPONENT-508|COMPONENT-509|COMPONENT-510
189FE TANGUT |COMPONENT-511|COMPONENT-512|COMPONENT-513|COMPONENT-514|COMPONENT-515|COMPONENT-516
18A04 TANGUT |COMPONENT-517|COMPONENT-518|COMPONENT-519|COMPONENT-520|COMPONENT-521|COMPONENT-522
18A0A TANGUT |COMPONENT-523|COMPONENT-524|COMPONENT-525|COMPONENT-526|COMPONENT-527|COMPONENT-528
18A10 TANGUT |COMPONENT-529|COMPONENT-530|COMPONENT-531|COMPONENT-532|COMPONENT-533|COMPONENT-534
18A16 TANGUT |COMPONENT-535|COMPONENT-536|COMPONENT-537|COMPONENT-538|COMPONENT-539|COMPONENT-540
18A1C TANGUT |COMPONENT-541|COMPONENT-542|COMPONENT-543|COMPONENT-544|COMPONENT-545|COMPONENT-546
18A22 TANGUT |COMPONENT-547|COMPONENT-548|COMPONENT-549|COMPONENT-550|COMPONENT-551|COMPONENT-552
18A28 TANGUT |COMPONENT-553|COMPONENT-554|COMPONENT-555|COMPONENT-556|COMPONENT-557|COMPONENT-558
18A2E TANGUT |COMPONENT-559|COMPONENT-560|COMPONENT-561|COMPONENT-562|COMPONENT-563|COMPONENT-564
18A34 TANGUT |COMPONENT-565|COMPONENT-566|COMPONENT-567|COMPONENT-568|COMPONENT-569|COMPONENT-570
18A3A TANGUT |COMPONENT-571|COMPONENT-572|COMPONENT-573|COMPONENT-574|COMPONENT-575|COMPONENT-576
18A40 TANGUT |COMPONENT-577|COMPONENT-578|COMPONENT-579|COMPONENT-580|COMPONENT-581|COMPONENT-582
18A46 TANGUT |COMPONENT-583|COMPONENT-584|COMPONENT-585|COMPONENT-586|COMPONENT-587|COMPONENT-588
18A4C TANGUT |COMPONENT-589|COMPONENT-590|COMPONENT-591|COMPONENT-592|COMPONENT-593|COMPONENT-594
18A52 TANGUT |COMPONENT-595|COMPONENT-596|COMPONENT-597|COMPONENT-598|COMPONENT-599|COMPONENT-600
18A58 TANGUT |COMPONENT-601|COMPONENT-602|COMPONENT-603|COMPONENT-604|COMPONENT-605|COMPONENT-606
18A5E TANGUT |COMPONENT-607|COMPONENT-608|COMPONENT-609|COMPONENT-610|COMPONENT-611|COMPONENT-612
18A64 TANGUT |COMPONENT-613|COMPONENT-614|COMPONENT-615|COMPONENT-616|COMPONENT-617|COMPONENT-618
18A6A TANGUT |COMPONENT-619|COMPONENT-620|COMPONENT-621|COMPONENT-622|COMPONENT-623|COMPONENT-624
18A70 TANGUT |COMPONENT-625|COMPONENT-626|COMPONENT-627|COMPONENT-628|COMPONENT-629|COMPONENT-630
18A76 TANGUT |COMPONENT-631|COMPONENT-632|COMPONENT-633|COMPONENT-634|COMPONENT-635|COMPONENT-636
18A7C TANGUT |COMPONENT-637|COMPONENT-638|COMPONENT-639|COMPONENT-640|COMPONENT-641|COMPONENT-642
18A82 TANGUT |COMPONENT-643|COMPONENT-644|COMPONENT-645|COMPONENT-646|COMPONENT-647|COMPONENT-648
18A88 TANGUT |COMPONENT-649|COMPONENT-650|COMPONENT-651|COMPONENT-652|COMPONENT-653|COMPONENT-654
18A8E TANGUT |COMPONENT-655|COMPONENT-656|COMPONENT-657|COMPONENT-658|COMPONENT-659|COMPONENT-660
18A94 TANGUT |COMPONENT-661|COMPONENT-662|COMPONENT-663|COMPONENT-664|COMPONENT-665|COMPONENT-666
18A9A TANGUT |COMPONENT-667|COMPONENT-668|COMPONENT-669|COMPONENT-670|COMPONENT-671|COMPONENT-672
18AA0 TANGUT |COMPONENT-673|COMPONENT-674|COMPONENT-675|COMPONENT-676|COMPONENT-677|COMPONENT-678
18AA6 TANGUT |COMPONENT-679|COMPONENT-680|COMPONENT-681|COMPONENT-682|COMPONENT-683|COMPONENT-684
18AAC TANGUT |COMPONENT-685|COMPONENT-686|COMPONENT-687|COMPONENT-688|COMPONENT-689|COMPONENT-690
18AB2 TANGUT |COMPONENT-691|COMPONENT-692|COMPONENT-693|COMPONENT-694|COMPONENT-695|COMPONENT-696
18AB8 TANGUT |COMPONENT-697|COMPONENT-698|COMPONENT-699|COMPONENT-700|COMPONENT-701|COMPONENT-702
18ABE TANGUT |COMPONENT-703|COMPONENT-704|COMPONENT-705|COMPONENT-706|COMPONENT-707|COMPONENT-708
18AC4 TANGUT |COMPONENT-709|COMPONENT-710|COMPONENT-711|COMPONENT-712|COMPONENT-713|COMPONENT-714
18ACA TANGUT |COMPONENT-715|COMPONENT-716|COMPONENT-717|COMPONENT-718|COMPONENT-719|COMPONENT-720
18AD0 TANGUT |COMPONENT-721|COMPONENT-722|COMPONENT-723|COMPONENT-724|COMPONENT-725|COMPONENT-726
18AD6 TANGUT |COMPONENT-727|COMPONENT-728|COMPONENT-729|COMPONENT-730|COMPONENT-731|COMPONENT-732
18ADC TANGUT |COMPONENT-733|COMPONENT-734|COMPONENT-735|COMPONENT-736|COMPONENT-737|COMPONENT-738
18AE2 TANGUT |COMPONENT-739|COMPONENT-740|COMPONENT-741|COMPONENT-742|COMPONENT-743|COMPONENT-744
18AE8 TANGUT |COMPONENT-745|COMPONENT-746|COMPONENT-747|COMPONENT-748|COMPONENT-749|COMPONENT-750
18AEE TANGUT |COMPONENT-751|COMPONENT-752|COMPONENT-753|COMPONENT-754|COMPONENT-755|COMPONENT-756
18AF4 TANGUT |COMPONENT-757|COMPONENT-758|COMPONENT-759|COMPONENT-760|COMPONENT-761|COMPONENT-762
18AFA TANGUT |COMPONENT-763|COMPONENT-764|COMPONENT-765|COMPONENT-766|COMPONENT-767|COMPONENT-768
18B00 KHITAN SMALL SCRIPT |CHARACTER-18B00|CHARACTER-18B01|CHARACTER-18B02|CHARACTER-18B03
18B04 KHITAN SMALL SCRIPT |CHARACTER-18B04|CHARACTER-18B05|CHARACTER-18B06|CHARACTER-18B07
18B08 KHITAN SMALL SCRIPT |CHARACTER-18B08|CHARACTER-18B09|CHARACTER-18B0A|CHARACTER-18B0B
18B0C KHITAN SMALL SCRIPT |CHARACTER-18B0C|CHARACTER-18B0D|CHARACTER-18B0E|CHARACTER-18B0F
18B10 KHITAN SMALL SCRIPT |CHARACTER-18B10|CHARACTER-18B11|CHARACTER-18B12|CHARACTER-18B13
18B14 KHITAN SMALL SCRIPT |CHARACTER-18B14|CHARACTER-18B15|CHARACTER-18B16|CHARACTER-18B17
18B18 KHITAN SMALL SCRIPT |CHARACTER-18B18|CHARACTER-18B19|CHARACTER-18B1A|CHARACTER-18B1B
18B1C KHITAN SMALL SCRIPT |CHARACTER-18B1C|CHARACTER-18B1D|CHARACTER-18B1E|CHARACTER-18B1F
18B20 KHITAN SMALL SCRIPT |CHARACTER-18B20|CHARACTER-18B21|CHARACTER-18B22|CHARACTER-18B23
18B24 KHITAN SMALL SCRIPT |CHARACTER-18B24|CHARACTER-18B25|CHARACTER-18B26|CHARACTER-18B27
18B28 KHITAN SMALL SCRIPT |CHARACTER-18B28|CHARACTER-18B29|CHARACTER-18B2A|CHARACTER-18B2B
18B2C KHITAN SMALL SCRIPT |CHARACTER-18B2C|CHARACTER-18B2D|CHARACTER-18B2E|CHARACTER-18B2F
18B30 KHITAN SMALL SCRIPT |CHARACTER-18B30|CHARACTER-18B31|CHARACTER-18B32|CHARACTER-18B33
18B34 KHITAN SMALL SCRIPT |CHARACTER-18B34|CHARACTER-18B35|CHARACTER-18B36|CHARACTER-18B37
18B38 KHITAN SMALL SCRIPT |CHARACTER-18B38|CHARACTER-18B39|CHARACTER-18B3A|CHARACTER-18B3B
18B3C KHITAN SMALL SCRIPT |CHARACTER-18B3C|CHARACTER-18B3D|CHARACTER-18B3E|CHARACTER-18B3F
18B40 KHITAN SMALL SCRIPT |CHARACTER-18B40|CHARACTER-18B41|CHARACTER-18B42|CHARACTER-18B43
18B44 KHITAN SMALL SCRIPT |CHARACTER-18B44|CHARACTER-18B45|CHARACTER-18B46|CHARACTER-18B47
18B48 KHITAN SMALL SCRIPT |CHARACTER-18B48|CHARACTER-18B49|CHARACTER-18B4A|CHARACTER-18B4B
18B4C KHITAN SMALL SCRIPT |CHARACTER-18B4C|CHARACTER-18B4D|CHARACTER-18B4E|CHARACTER-18B4F
18B50 KHITAN SMALL SCRIPT |CHARACTER-18B50|CHARACTER-18B51|CHARACTER-18B52|CHARACTER-18B53
18B54 KHITAN SMALL SCRIPT |CHARACTER-18B54|CHARACTER-18B55|CHARACTER-18B56|CHARACTER-18B57
18B58 KHITAN SMALL SCRIPT |CHARACTER-18B58|CHARACTER-18B59|CHARACTER-18B5A|CHARACTER-18B5B
18B5C KHITAN SMALL SCRIPT |CHARACTER-18B5C|CHARACTER-18B5D|CHARACTER-18B5E|CHARACTER-18B5F
18B60 KHITAN SMALL SCRIPT |CHARACTER-18B60|CHARACTER-18B61|CHARACTER-18B62|CHARACTER-18B63
18B64 KHITAN SMALL SCRIPT |CHARACTER-18B64|CHARACTER-18B65|CHARACTER-18B66|CHARACTER-18B67
18B68 KHITAN SMALL SCRIPT |CHARACTER-18B68|CHARACTER-18B69|CHARACTER-18B6A|CHARACTER-18B6B
18B6C KHITAN SMALL SCRIPT |CHARACTER-18B6C|CHARACTER-18B6D|CHARACTER-18B6E|CHARACTER-18B6F
18B70 KHITAN SMALL SCRIPT |CHARACTER-18B70|CHARACTER-18B71|CHARACTER-18B72|CHARACTER-18B73
18B74 KHITAN SMALL SCRIPT |CHARACTER-18B74|CHARACTER-18B75|CHARACTER-18B76|CHARACTER-18B77
18B78 KHITAN SMALL SCRIPT |CHARACTER-18B78|CHARACTER-18B79|CHARACTER-18B7A|CHARACTER-18B7B
18B7C KHITAN SMALL SCRIPT |CHARACTER-18B7C|CHARACTER-18B7D|CHARACTER-18B7E|CHARACTER-18B7F
18B80 KHITAN SMALL SCRIPT |CHARACTER-18B80|CHARACTER-18B81|CHARACTER-18B82|CHARACTER-18B83
18B84 KHITAN SMALL SCRIPT |CHARACTER-18B84|CHARACTER-18B85|CHARACTER-18B86|CHARACTER-18B87
18B88 KHITAN SMALL SCRIPT |CHARACTER-18B88|CHARACTER-18B89|CHARACTER-18B8A|CHARACTER-18B8B
18B8C KHITAN SMALL SCRIPT |CHARACTER-18B8C|CHARACTER-18B8D|CHARACTER-18B8E|CHARACTER-18B8F
18B90 KHITAN SMALL SCRIPT |CHARACTER-18B90|CHARACTER-18B91|CHARACTER-18B92|CHARACTER-18B93
18B94 KHITAN SMALL SCRIPT |CHARACTER-18B94|CHARACTER-18B95|CHARACTER-18B96|CHARACTER-18B97
18B98 KHITAN SMALL SCRIPT |CHARACTER-18B98|CHARACTER-18B99|CHARACTER-18B9A|CHARACTER-18B9B
18B9C KHITAN SMALL SCRIPT |CHARACTER-18B9C|CHARACTER-18B9D|CHARACTER-18B9E|CHARACTER-18B9F
18BA0 KHITAN SMALL SCRIPT |CHARACTER-18BA0|CHARACTER-18BA1|CHARACTER-18BA2|CHARACTER-18BA3
18BA4 KHITAN SMALL SCRIPT |CHARACTER-18BA4|CHARACTER-18BA5|CHARACTER-18BA6|CHARACTER-18BA7
18BA8 KHITAN SMALL SCRIPT |CHARACTER-18BA8|CHARACTER-18BA9|CHARACTER-18BAA|CHARACTER-18BAB
18BAC KHITAN SMALL SCRIPT |CHARACTER-18BAC|CHARACTER-18BAD|CHARACTER-18BAE|CHARACTER-18BAF
18BB0 KHITAN SMALL SCRIPT |CHARACTER-18BB0|CHARACTER-18BB1|CHARACTER-18BB2|CHARACTER-18BB3
18BB4 KHITAN SMALL SCRIPT |CHARACTER-18BB4|CHARACTER-18BB5|CHARACTER-18BB6|CHARACTER-18BB7
18BB8 KHITAN SMALL SCRIPT |CHARACTER-18BB8|CHARACTER-18BB9|CHARACTER-18BBA|CHARACTER-18BBB
18BBC KHITAN SMALL SCRIPT |CHARACTER-18BBC|CHARACTER-18BBD|CHARACTER-18BBE|CHARACTER-18BBF
18BC0 KHITAN SMALL SCRIPT |CHARACTER-18BC0|CHARACTER-18BC1|CHARACTER-18BC2|CHARACTER-18BC3
18BC4 KHITAN SMALL SCRIPT |CHARACTER-18BC4|CHARACTER-18BC5|CHARACTER-18BC6|CHARACTER-18BC7
18BC8 KHITAN SMALL SCRIPT |CHARACTER-18BC8|CHARACTER-18BC9|CHARACTER-18BCA|CHARACTER-18BCB
18BCC KHITAN SMALL SCRIPT |CHARACTER-18BCC|CHARACTER-18BCD|CHARACTER-18BCE|CHARACTER-18BCF
18BD0 KHITAN SMALL SCRIPT |CHARACTER-18BD0|CHARACTER-18BD1|CHARACTER-18BD2|CHARACTER-18BD3
18BD4 KHITAN SMALL SCRIPT |CHARACTER-18BD4|CHARACTER-18BD5|CHARACTER-18BD6|CHARACTER-18BD7
18BD8 KHITAN SMALL SCRIPT |CHARACTER-18BD8|CHARACTER-18BD9|CHARACTER-18BDA|CHARACTER-18BDB
18BDC KHITAN SMALL SCRIPT |CHARACTER-18BDC|CHARACTER-18BDD|CHARACTER-18BDE|CHARACTER-18BDF
18BE0 KHITAN SMALL SCRIPT |CHARACTER-18BE0|CHARACTER-18BE1|CHARACTER-18BE2|CHARACTER-18BE3
18BE4 KHITAN SMALL SCRIPT |CHARACTER-18BE4|CHARACTER-18BE5|CHARACTER-18BE6|CHARACTER-18BE7
18BE8 KHITAN SMALL SCRIPT |CHARACTER-18BE8|CHARACTER-18BE9|CHARACTER-18BEA|CHARACTER-18BEB
18BEC KHITAN SMALL SCRIPT |CHARACTER-18BEC|CHARACTER-18BED|CHARACTER-18BEE|CHARACTER-18BEF
18BF0 KHITAN SMALL SCRIPT |CHARACTER-18BF0|CHARACTER-18BF1|CHARACTER-18BF2|CHARACTER-18BF3
18BF4 KHITAN SMALL SCRIPT |CHARACTER-18BF4|CHARACTER-18BF5|CHARACTER-18BF6|CHARACTER-18BF7
18BF8 KHITAN SMALL SCRIPT |CHARACTER-18BF8|CHARACTER-18BF9|CHARACTER-18BFA|CHARACTER-18BFB
18BFC KHITAN SMALL SCRIPT |CHARACTER-18BFC|CHARACTER-18BFD|CHARACTER-18BFE|CHARACTER-18BFF
18C00 KHITAN SMALL SCRIPT |CHARACTER-18C00|CHARACTER-18C01|CHARACTER-18C02|CHARACTER-18C03
18C04 KHITAN SMALL SCRIPT |CHARACTER-18C04|CHARACTER-18C05|CHARACTER-18C06|CHARACTER-18C07
18C08 KHITAN SMALL SCRIPT |CHARACTER-18C08|CHARACTER-18C09|CHARACTER-18C0A|CHARACTER-18C0B
18C0C KHITAN SMALL SCRIPT |CHARACTER-18C0C|CHARACTER-18C0D|CHARACTER-18C0E|CHARACTER-18C0F
18C10 KHITAN SMALL SCRIPT |CHARACTER-18C10|CHARACTER-18C11|CHARACTER-18C12|CHARACTER-18C13
18C14 KHITAN SMALL SCRIPT |CHARACTER-18C14|CHARACTER-18C15|CHARACTER-18C16|CHARACTER-18C17
18C18 KHITAN SMALL SCRIPT |CHARACTER-18C18|CHARACTER-18C19|CHARACTER-18C1A|CHARACTER-18C1B
18C1C KHITAN SMALL SCRIPT |CHARACTER-18C1C|CHARACTER-18C1D|CHARACTER-18C1E|CHARACTER-18C1F
18C20 KHITAN SMALL SCRIPT |CHARACTER-18C20|CHARACTER-18C21|CHARACTER-18C22|CHARACTER-18C23
18C24 KHITAN SMALL SCRIPT |CHARACTER-18C24|CHARACTER-18C25|CHARACTER-18C26|CHARACTER-18C27
18C28 KHITAN SMALL SCRIPT |CHARACTER-18C28|CHARACTER-18C29|CHARACTER-18C2A|CHARACTER-18C2B
18C2C KHITAN SMALL SCRIPT |CHARACTER-18C2C|CHARACTER-18C2D|CHARACTER-18C2E|CHARACTER-18C2F
18C30 KHITAN SMALL SCRIPT |CHARACTER-18C30|CHARACTER-18C31|CHARACTER-18C32|CHARACTER-18C33
18C34 KHITAN SMALL SCRIPT |CHARACTER-18C34|CHARACTER-18C35|CHARACTER-18C36|CHARACTER-18C37
18C38 KHITAN SMALL SCRIPT |CHARACTER-18C38|CHARACTER-18C39|CHARACTER-18C3A|CHARACTER-18C3B
18C3C KHITAN SMALL SCRIPT |CHARACTER-18C3C|CHARACTER-18C3D|CHARACTER-18C3E|CHARACTER-18C3F
18C40 KHITAN SMALL SCRIPT |CHARACTER-18C40|CHARACTER-18C41|CHARACTER-18C42|CHARACTER-18C43
18C44 KHITAN SMALL SCRIPT |CHARACTER-18C44|CHARACTER-18C45|CHARACTER-18C46|CHARACTER-18C47
18C48 KHITAN SMALL SCRIPT |CHARACTER-18C48|CHARACTER-18C49|CHARACTER-18C4A|CHARACTER-18C4B
18C4C KHITAN SMALL SCRIPT |CHARACTER-18C4C|CHARACTER-18C4D|CHARACTER-18C4E|CHARACTER-18C4F
18C50 KHITAN SMALL SCRIPT |CHARACTER-18C50|CHARACTER-18C51|CHARACTER-18C52|CHARACTER-18C53
18C54 KHITAN SMALL SCRIPT |CHARACTER-18C54|CHARACTER-18C55|CHARACTER-18C56|CHARACTER-18C57
18C58 KHITAN SMALL SCRIPT |CHARACTER-18C58|CHARACTER-18C59|CHARACTER-18C5A|CHARACTER-18C5B
18C5C KHITAN SMALL SCRIPT |CHARACTER-18C5C|CHARACTER-18C5D|CHARACTER-18C5E|CHARACTER-18C5F
18C60 KHITAN SMALL SCRIPT |CHARACTER-18C60|CHARACTER-18C61|CHARACTER-18C62|CHARACTER-18C63
18C64 KHITAN SMALL SCRIPT |CHARACTER-18C64|CHARACTER-18C65|CHARACTER-18C66|CHARACTER-18C67
18C68 KHITAN SMALL SCRIPT |CHARACTER-18C68|CHARACTER-18C69|CHARACTER-18C6A|CHARACTER-18C6B
18C6C KHITAN SMALL SCRIPT |CHARACTER-18C6C|CHARACTER-18C6D|CHARACTER-18C6E|CHARACTER-18C6F
18C70 KHITAN SMALL SCRIPT |CHARACTER-18C70|CHARACTER-18C71|CHARACTER-18C72|CHARACTER-18C73
18C74 KHITAN SMALL SCRIPT |CHARACTER-18C74|CHARACTER-18C75|CHARACTER-18C76|CHARACTER-18C77
18C78 KHITAN SMALL SCRIPT |CHARACTER-18C78|CHARACTER-18C79|CHARACTER-18C7A|CHARACTER-18C7B
18C7C KHITAN SMALL SCRIPT |CHARACTER-18C7C|CHARACTER-18C7D|CHARACTER-18C7E|CHARACTER-18C7F
18C80 KHITAN SMALL SCRIPT |CHARACTER-18C80|CHARACTER-18C81|CHARACTER-18C82|CHARACTER-18C83
18C84 KHITAN SMALL SCRIPT |CHARACTER-18C84|CHARACTER-18C85|CHARACTER-18C86|CHARACTER-18C87
18C88 KHITAN SMALL SCRIPT |CHARACTER-18C88|CHARACTER-18C89|CHARACTER-18C8A|CHARACTER-18C8B
18C8C KHITAN SMALL SCRIPT |CHARACTER-18C8C|CHARACTER-18C8D|CHARACTER-18C8E|CHARACTER-18C8F
18C90 KHITAN SMALL SCRIPT |CHARACTER-18C90|CHARACTER-18C91|CHARACTER-18C92|CHARACTER-18C93
18C94 KHITAN SMALL SCRIPT |CHARACTER-18C94|CHARACTER-18C95|CHARACTER-18C96|CHARACTER-18C97
18C98 KHITAN SMALL SCRIPT |CHARACTER-18C98|CHARACTER-18C99|CHARACTER-18C9A|CHARACTER-18C9B
18C9C KHITAN SMALL SCRIPT |CHARACTER-18C9C|CHARACTER-18C9D|CHARACTER-18C9E|CHARACTER-18C9F
18CA0 KHITAN SMALL SCRIPT |CHARACTER-18CA0|CHARACTER-18CA1|CHARACTER-18CA2|CHARACTER-18CA3
18CA4 KHITAN SMALL SCRIPT |CHARACTER-18CA4|CHARACTER-18CA5|CHARACTER-18CA6|CHARACTER-18CA7
18CA8 KHITAN SMALL SCRIPT |CHARACTER-18CA8|CHARACTER-18CA9|CHARACTER-18CAA|CHARACTER-18CAB
18CAC KHITAN SMALL SCRIPT |CHARACTER-18CAC|CHARACTER-18CAD|CHARACTER-18CAE|CHARACTER-18CAF
18CB0 KHITAN SMALL SCRIPT |CHARACTER-18CB0|CHARACTER-18CB1|CHARACTER-18CB2|CHARACTER-18CB3
18CB4 KHITAN SMALL SCRIPT |CHARACTER-18CB4|CHARACTER-18CB5|CHARACTER-18CB6|CHARACTER-18CB7
18CB8 KHITAN SMALL SCRIPT |CHARACTER-18CB8|CHARACTER-18CB9|CHARACTER-18CBA|CHARACTER-18CBB
18CBC KHITAN SMALL SCRIPT |CHARACTER-18CBC|CHARACTER-18CBD|CHARACTER-18CBE|CHARACTER-18CBF
18CC0 KHITAN SMALL SCRIPT |CHARACTER-18CC0|CHARACTER-18CC1|CHARACTER-18CC2|CHARACTER-18CC3
18CC4 KHITAN SMALL SCRIPT |CHARACTER-18CC4|CHARACTER-18CC5|CHARACTER-18CC6|CHARACTER-18CC7
18CC8 KHITAN SMALL SCRIPT |CHARACTER-18CC8|CHARACTER-18CC9|CHARACTER-18CCA|CHARACTER-18CCB
18CCC KHITAN SMALL SCRIPT |CHARACTER-18CCC|CHARACTER-18CCD|CHARACTER-18CCE|CHARACTER-18CCF
18CD0 KHITAN SMALL SCRIPT |CHARACTER-18CD0|CHARACTER-18CD1|CHARACTER-18CD2|CHARACTER-18CD3
18CD4 KHITAN SMALL SCRIPT |CHARACTER-18CD4|CHARACTER-18CD5
1AFF0 KATAKANA LETTER MINNAN |TONE-2|TONE-3|TONE-4|TONE-5
1AFF5 KATAKANA LETTER MINNAN |TONE-7|TONE-8|NASALIZED TONE-1|NASALIZED TONE-2|NASALIZED TONE-3
1AFFA KATAKANA LETTER MINNAN NASALIZED |TONE-4|TONE-5
1AFFD KATAKANA LETTER MINNAN NASALIZED |TONE-7|TONE-8
1B000 |KATAKANA LETTER ARCHAIC E|HIRAGANA LETTER ARCHAIC YE|HENTAIGANA LETTER A-1
1B003 HENTAIGANA LETTER |A-2|A-3|A-WO|I-1|I-2|I-3|I-4|U-1|U-2|U-3|U-4|U-5|E-2|E-3|E-4|E-5|E-6|O-1
1B015 HENTAIGANA LETTER |O-2|O-3|KA-1|KA-2|KA-3|KA-4|KA-5|KA-6|KA-7|KA-8|KA-9|KA-10|KA-11|KA-KE
1B023 HENTAIGANA LETTER |KI-1|KI-2|KI-3|KI-4|KI-5|KI-6|KI-7|KI-8|KU-1|KU-2|KU-3|KU-4|KU-5|KU-6
1B031 HENTAIGANA LETTER |KU-7|KE-1|KE-2|KE-3|KE-4|KE-5|KE-6|KO-1|KO-2|KO-3|KO-KI|SA-1|SA-2|SA-3
1B03F HENTAIGANA LETTER |SA-4|SA-5|SA-6|SA-7|SA-8|SI-1|SI-2|SI-3|SI-4|SI-5|SI-6|SU-1|SU-2|SU-3
1B04D HENTAIGANA LETTER |SU-4|SU-5|SU-6|SU-7|SU-8|SE-1|SE-2|SE-3|SE-4|SE-5|SO-1|SO-2|SO-3|SO-4
1B05B HENTAIGANA LETTER |SO-5|SO-6|SO-7|TA-1|TA-2|TA-3|TA-4|TI-1|TI-2|TI-3|TI-4|TI-5|TI-6|TI-7
1B069 HENTAIGANA LETTER |TU-1|TU-2|TU-3|TU-4|TU-TO|TE-1|TE-2|TE-3|TE-4|TE-5|TE-6|TE-7|TE-8|TE-9
1B077 HENTAIGANA LETTER |TO-1|TO-2|TO-3|TO-4|TO-5|TO-6|TO-RA|NA-1|NA-2|NA-3|NA-4|NA-5|NA-6|NA-7
1B085 HENTAIGANA LETTER |NA-8|NA-9|NI-1|NI-2|NI-3|NI-4|NI-5|NI-6|NI-7|NI-TE|NU-1|NU-2|NU-3|NE-1
1B093 HENTAIGANA LETTER |NE-2|NE-3|NE-4|NE-5|NE-6|NE-KO|NO-1|NO-2|NO-3|NO-4|NO-5|HA-1|HA-2|HA-3
1B0A1 HENTAIGANA LETTER |HA-4|HA-5|HA-6|HA-7|HA-8|HA-9|HA-10|HA-11|HI-1|HI-2|HI-3|HI-4|HI-5|HI-6
1B0AF HENTAIGANA LETTER |HI-7|HU-1|HU-2|HU-3|HE-1|HE-2|HE-3|HE-4|HE-5|HE-6|HE-7|HO-1|HO-2|HO-3
1B0BD HENTAIGANA LETTER |HO-4|HO-5|HO-6|HO-7|HO-8|MA-1|MA-2|MA-3|MA-4|MA-5|MA-6|MA-7|MI-1|MI-2
1B0CB HENTAIGANA LETTER |MI-3|MI-4|MI-5|MI-6|MI-7|MU-1|MU-2|MU-3|MU-4|ME-1|ME-2|ME-MA|MO-1|MO-2
1B0D9 HENTAIGANA LETTER |MO-3|MO-4|MO-5|MO-6|YA-1|YA-2|YA-3|YA-4|YA-5|YA-YO|YU-1|YU-2|YU-3|YU-4
1B0E7 HENTAIGANA LETTER |YO-1|YO-2|YO-3|YO-4|YO-5|YO-6|RA-1|RA-2|RA-3|RA-4|RI-1|RI-2|RI-3|RI-4
1B0F5 HENTAIGANA LETTER |RI-5|RI-6|RI-7|RU-1|RU-2|RU-3|RU-4|RU-5|RU-6|RE-1|RE-2|RE-3|RE-4|RO-1
1B103 HENTAIGANA LETTER |RO-2|RO-3|RO-4|RO-5|RO-6|WA-1|WA-2|WA-3|WA-4|WA-5|WI-1|WI-2|WI-3|WI-4
1B111 HENTAIGANA LETTER |WI-5|WE-1|WE-2|WE-3|WE-4|WO-1|WO-2|WO-3|WO-4|WO-5|WO-6|WO-7|N-MU-MO-1
1B11E |HENTAIGANA LETTER N-MU-MO-2|HIRAGANA LETTER ARCHAIC WU|KATAKANA LETTER ARCHAIC YI
1B121 KATAKANA LETTER ARCHAIC |YE|WU
1B150 HIRAGANA LETTER SMALL |WI|WE|WO
1B164 KATAKANA LETTER SMALL |WI|WE|WO|N
1B170 NUSHU |CHARACTER-1B170|CHARACTER-1B171|CHARACTER-1B172|CHARACTER-1B173|CHARACTER-1B174
1B175 NUSHU |CHARACTER-1B175|CHARACTER-1B176|CHARACTER-1B177|CHARACTER-1B178|CHARACTER-1B179
1B17A NUSHU |CHARACTER-1B17A|CHARACTER-1B17B|CHARACTER-1B17C|CHARACTER-1B17D|CHARACTER-1B17E
1B17F NUSHU |CHARACTER-1B17F|CHARACTER-1B180|CHARACTER-1B181|CHARACTER-1B182|CHARACTER-1B183
1B184 NUSHU |CHARACTER-1B184|CHARACTER-1B185|CHARACTER-1B186|CHARACTER-1B187|CHARACTER-1B188
1B189 NUSHU |CHARACTER-1B189|CHARACTER-1B18A|CHARACTER-1B18B|CHARACTER-1B18C|CHARACTER-1B18D
1B18E NUSHU |CHARACTER-1B18E|CHARACTER-1B18F|CHARACTER-1B190|CHARACTER-1B191|CHARACTER-1B192
1B193 NUSHU |CHARACTER-1B193|CHARACTER-1B194|CHARACTER-1B195|CHARACTER-1B196|CHARACTER-1B197
1B198 NUSHU |CHARACTER-1B198|CHARACTER-1B199|CHARACTER-1B19A|CHARACTER-1B19B|CHARACTER-1B19C
1B19D NUSHU |CHARACTER-1B19D|CHARACTER-1B19E|CHARACTER-1B19F|CHARACTER-1B1A0|CHARACTER-1B1A1
1B1A2 NUSHU |CHARACTER-1B1A2|CHARACTER-1B1A3|CHARACTER-1B1A4|CHARACTER-1B1A5|CHARACTER-1B1A6
1B1A7 NUSHU |CHARACTER-1B1A7|CHARACTER-1B1A8|CHARACTER-1B1A9|CHARACTER-1B1AA|CHARACTER-1B1AB
1B1AC NUSHU |CHARACTER-1B1AC|CHARACTER-1B1AD|CHARACTER-1B1AE|CHARACTER-1B1AF|CHARACTER-1B1B0
1B1B1 NUSHU |CHARACTER-1B1B1|CHARACTER-1B1B2|CHARACTER-1B1B3|CHARACTER-1B1B4|CHARACTER-1B1B5
1B1B6 NUSHU |CHARACTER-1B1B6|CHARACTER-1B1B7|CHARACTER-1B1B8|CHARACTER-1B1B9|CHARACTER-1B1BA
1B1BB NUSHU |CHARACTER-1B1BB|CHARACTER-1B1BC|CHARACTER-1B1BD|CHARACTER-1B1BE|CHARACTER-1B1BF
1B1C0 NUSHU |CHARACTER-1B1C0|CHARACTER-1B1C1|CHARACTER-1B1C2|CHARACTER-1B1C3|CHARACTER-1B1C4
1B1C5 NUSHU |CHARACTER-1B1C5|CHARACTER-1B1C6|CHARACTER-1B1C7|CHARACTER-1B1C8|CHARACTER-1B1C9
1B1CA NUSHU |CHARACTER-1B1CA|CHARACTER-1B1CB|CHARACTER-1B1CC|CHARACTER-1B1CD|CHARACTER-1B1CE
1B1CF NUSHU |CHARACTER-1B1CF|CHARACTER-1B1D0|CHARACTER-1B1D1|CHARACTER-1B1D2|CHARACTER-1B1D3
1B1D4 NUSHU |CHARACTER-1B1D4|CHARACTER-1B1D5|CHARACTER-1B1D6|CHARACTER-1B1D7|CHARACTER-1B1D8
1B1D9 NUSHU |CHARACTER-1B1D9|CHARACTER-1B1DA|CHARACTER-1B1DB|CHARACTER-1B1DC|CHARACTER-1B1DD
1B1DE NUSHU |CHARACTER-1B1DE|CHARACTER-1B1DF|CHARACTER-1B1E0|CHARACTER-1B1E1|CHARACTER-1B1E2
1B1E3 NUSHU |CHARACTER-1B1E3|CHARACTER-1B1E4|CHARACTER-1B1E5|CHARACTER-1B1E6|CHARACTER-1B1E7
1B1E8 NUSHU |CHARACTER-1B1E8|CHARACTER-1B1E9|CHARACTER-1B1EA|CHARACTER-1B1EB|CHARACTER-1B1EC
1B1ED NUSHU |CHARACTER-1B1ED|CHARACTER-1B1EE|CHARACTER-1B1EF|CHARACTER-1B1F0|CHARACTER-1B1F1
1B1F2 NUSHU |CHARACTER-1B1F2|CHARACTER-1B1F3|CHARACTER-1B1F4|CHARACTER-1B1F5|CHARACTER-1B1F6
1B1F7 NUSHU |CHARACTER-1B1F7|CHARACTER-1B1F8|CHARACTER-1B1F9|CHARACTER-1B1FA|CHARACTER-1B1FB
1B1FC NUSHU |CHARACTER-1B1FC|CHARACTER-1B1FD|CHARACTER-1B1FE|CHARACTER-1B1FF|CHARACTER-1B200
1B201 NUSHU |CHARACTER-1B201|CHARACTER-1B202|CHARACTER-1B203|CHARACTER-1B204|CHARACTER-1B205
1B206 NUSHU |CHARACTER-1B206|CHARACTER-1B207|CHARACTER-1B208|CHARACTER-1B209|CHARACTER-1B20A
1B20B NUSHU |CHARACTER-1B20B|CHARACTER-1B20C|CHARACTER-1B20D|CHARACTER-1B20E|CHARACTER-1B20F
1B210 NUSHU |CHARACTER-1B210|CHARACTER-1B211|CHARACTER-1B212|CHARACTER-1B213|CHARACTER-1B214
1B215 NUSHU |CHARACTER-1B215|CHARACTER-1B216|CHARACTER-1B217|CHARACTER-1B218|CHARACTER-1B219
1B21A NUSHU |CHARACTER-1B21A|CHARACTER-1B21B|CHARACTER-1B21C|CHARACTER-1B21D|CHARACTER-1B21E
1B21F NUSHU |CHARACTER-1B21F|CHARACTER-1B220|CHARACTER-1B221|CHARACTER-1B222|CHARACTER-1B223
1B224 NUSHU |CHARACTER-1B224|CHARACTER-1B225|CHARACTER-1B226|CHARACTER-1B227|CHARACTER-1B228
1B229 NUSHU |CHARACTER-1B229|CHARACTER-1B22A|CHARACTER-1B22B|CHARACTER-1B22C|CHARACTER-1B22D
1B22E NUSHU |CHARACTER-1B22E|CHARACTER-1B22F|CHARACTER-1B230|CHARACTER-1B231|CHARACTER-1B232
1B233 NUSHU |CHARACTER-1B233|CHARACTER-1B234|CHARACTER-1B235|CHARACTER-1B236|CHARACTER-1B237
1B238 NUSHU |CHARACTER-1B238|CHARACTER-1B239|CHARACTER-1B23A|CHARACTER-1B23B|CHARACTER-1B23C
1B23D NUSHU |CHARACTER-1B23D|CHARACTER-1B23E|CHARACTER-1B23F|CHARACTER-1B240|CHARACTER-1B241
1B242 NUSHU |CHARACTER-1B242|CHARACTER-1B243|CHARACTER-1B244|CHARACTER-1B245|CHARACTER-1B246
1B247 NUSHU |CHARACTER-1B247|CHARACTER-1B248|CHARACTER-1B249|CHARACTER-1B24A|CHARACTER-1B24B
1B24C NUSHU |CHARACTER-1B24C|CHARACTER-1B24D|CHARACTER-1B24E|CHARACTER-1B24F|CHARACTER-1B250
1B251 NUSHU |CHARACTER-1B251|CHARACTER-1B252|CHARACTER-1B253|CHARACTER-1B254|CHARACTER-1B255
1B256 NUSHU |CHARACTER-1B256|CHARACTER-1B257|CHARACTER-1B258|CHARACTER-1B259|CHARACTER-1B25A
1B25B NUSHU |CHARACTER-1B25B|CHARACTER-1B25C|CHARACTER-1B25D|CHARACTER-1B25E|CHARACTER-1B25F
1B260 NUSHU |CHARACTER-1B260|CHARACTER-1B261|CHARACTER-1B262|CHARACTER-1B263|CHARACTER-1B264
1B265 NUSHU |CHARACTER-1B265|CHARACTER-1B266|CHARACTER-1B267|CHARACTER-1B268|CHARACTER-1B269
1B26A NUSHU |CHARACTER-1B26A|CHARACTER-1B26B|CHARACTER-1B26C|CHARACTER-1B26D|CHARACTER-1B26E
1B26F NUSHU |CHARACTER-1B26F|CHARACTER-1B270|CHARACTER-1B271|CHARACTER-1B272|CHARACTER-1B273
1B274 NUSHU |CHARACTER-1B274|CHARACTER-1B275|CHARACTER-1B276|CHARACTER-1B277|CHARACTER-1B278
1B279 NUSHU |CHARACTER-1B279|CHARACTER-1B27A|CHARACTER-1B27B|CHARACTER-1B27C|CHARACTER-1B27D
1B27E NUSHU |CHARACTER-1B27E|CHARACTER-1B27F|CHARACTER-1B280|CHARACTER-1B281|CHARACTER-1B282
1B283 NUSHU |CHARACTER-1B283|CHARACTER-1B284|CHARACTER-1B285|CHARACTER-1B286|CHARACTER-1B287
1B288 NUSHU |CHARACTER-1B288|CHARACTER-1B289|CHARACTER-1B28A|CHARACTER-1B28B|CHARACTER-1B28C
1B28D NUSHU |CHARACTER-1B28D|CHARACTER-1B28E|CHARACTER-1B28F|CHARACTER-1B290|CHARACTER-1B291
1B292 NUSHU |CHARACTER-1B292|CHARACTER-1B293|CHARACTER-1B294|CHARACTER-1B295|CHARACTER-1B296
1B297 NUSHU |CHARACTER-1B297|CHARACTER-1B298|CHARACTER-1B299|CHARACTER-1B29A|CHARACTER-1B29B
1B29C NUSHU |CHARACTER-1B29C|CHARACTER-1B29D|CHARACTER-1B29E|CHARACTER-1B29F|CHARACTER-1B2A0
1B2A1 NUSHU |CHARACTER-1B2A1|CHARACTER-1B2A2|CHARACTER-1B2A3|CHARACTER-1B2A4|CHARACTER-1B2A5
1B2A6 NUSHU |CHARACTER-1B2A6|CHARACTER-1B2A7|CHARACTER-1B2A8|CHARACTER-1B2A9|CHARACTER-1B2AA
1B2AB NUSHU |CHARACTER-1B2AB|CHARACTER-1B2AC|CHARACTER-1B2AD|CHARACTER-1B2AE|CHARACTER-1B2AF
1B2B0 NUSHU |CHARACTER-1B2B0|CHARACTER-1B2B1|CHARACTER-1B2B2|CHARACTER-1B2B3|CHARACTER-1B2B4
1B2B5 NUSHU |CHARACTER-1B2B5|CHARACTER-1B2B6|CHARACTER-1B2B7|CHARACTER-1B2B8|CHARACTER-1B2B9
1B2BA NUSHU |CHARACTER-1B2BA|CHARACTER-1B2BB|CHARACTER-1B2BC|CHARACTER-1B2BD|CHARACTER-1B2BE
1B2BF NUSHU |CHARACTER-1B2BF|CHARACTER-1B2C0|CHARACTER-1B2C1|CHARACTER-1B2C2|CHARACTER-1B2C3
1B2C4 NUSHU |CHARACTER-1B2C4|CHARACTER-1B2C5|CHARACTER-1B2C6|CHARACTER-1B2C7|CHARACTER-1B2C8
1B2C9 NUSHU |CHARACTER-1B2C9|CHARACTER-1B2CA|CHARACTER-1B2CB|CHARACTER-1B2CC|CHARACTER-1B2CD
1B2CE NUSHU |CHARACTER-1B2CE|CHARACTER-1B2CF|CHARACTER-1B2D0|CHARACTER-1B2D1|CHARACTER-1B2D2
1B2D3 NUSHU |CHARACTER-1B2D3|CHARACTER-1B2D4|CHARACTER-1B2D5|CHARACTER-1B2D6|CHARACTER-1B2D7
1B2D8 NUSHU |CHARACTER-1B2D8|CHARACTER-1B2D9|CHARACTER-1B2DA|CHARACTER-1B2DB|CHARACTER-1B2DC
1B2DD NUSHU |CHARACTER-1B2DD|CHARACTER-1B2DE|CHARACTER-1B2DF|CHARACTER-1B2E0|CHARACTER-1B2E1
1B2E2 NUSHU |CHARACTER-1B2E2|CHARACTER-1B2E3|CHARACTER-1B2E4|CHARACTER-1B2E5|CHARACTER-1B2E6
1B2E7 NUSHU |CHARACTER-1B2E7|CHARACTER-1B2E8|CHARACTER-1B2E9|CHARACTER-1B2EA|CHARACTER-1B2EB
1B2EC NUSHU |CHARACTER-1B2EC|CHARACTER-1B2ED|CHARACTER-1B2EE|CHARACTER-1B2EF|CHARACTER-1B2F0
1B2F1 NUSHU |CHARACTER-1B2F1|CHARACTER-1B2F2|CHARACTER-1B2F3|CHARACTER-1B2F4|CHARACTER-1B2F5
1B2F6 NUSHU |CHARACTER-1B2F6|CHARACTER-1B2F7|CHARACTER-1B2F8|CHARACTER-1B2F9|CHARACTER-1B2FA
1B2FB |NUSHU CHARACTER-1B2FB
1BC00 DUPLOYAN LETTER |H|X|P|T|F|K|L|B|D|V|G|R|P N|D S|F N|K M|R S|TH|SLOAN DH|DH|KK|SLOAN J|HL|LH
1BC18 DUPLOYAN LETTER |RH|M|N|J|S|M N|N M|J M|S J|M WITH DOT|N WITH DOT|J WITH DOT
1BC24 DUPLOYAN LETTER |J WITH DOTS INSIDE AND ABOVE|S WITH DOT|S WITH DOT BELOW|M S|N S|J S|S S
1BC2B DUPLOYAN LETTER |M N S|N M S|J M S|S J S|J S WITH DOT|J N|J N S|S T|S T R|S P|S P R|T S
1BC37 DUPLOYAN LETTER |T R S|W|WH|W R|S N|S M|K R S|G R S|S K|S K R|A|SLOAN OW|OA|O|AOU|I|E|IE
1BC49 DUPLOYAN LETTER |SHORT I|UI|EE|SLOAN EH|ROMANIAN I|SLOAN EE|LONG I|YE|U|EU|XW|U N|LONG U
1BC56 DUPLOYAN LETTER |ROMANIAN U|UH|SLOAN U|OOH|OW|OU|WA|WO|WI|WEI|WOW|NASAL U|NASAL O|NASAL I
1BC64 DUPLOYAN LETTER |NASAL A|PERNIN AN|PERNIN AM|SLOAN EN|SLOAN AN|SLOAN ON|VOCALIC M
1BC70 DUPLOYAN AFFIX |LEFT HORIZONTAL SECANT|MID HORIZONTAL SECANT|RIGHT HORIZONTAL SECANT
1BC73 DUPLOYAN AFFIX |LOW VERTICAL SECANT|MID VERTICAL SECANT|HIGH VERTICAL SECANT|ATTACHED SECANT
1BC77 DUPLOYAN AFFIX ATTACHED |LEFT-TO-RIGHT SECANT|TANGENT|TAIL|E HOOK|I HOOK|TANGENT HOOK
1BC80 DUPLOYAN AFFIX HIGH |ACUTE|TIGHT ACUTE|GRAVE|LONG GRAVE|DOT|CIRCLE|LINE|WAVE|VERTICAL
1BC90 DUPLOYAN AFFIX LOW |ACUTE|TIGHT ACUTE|GRAVE|LONG GRAVE|DOT|CIRCLE|LINE|WAVE|VERTICAL|ARROW
1BC9C DUPLOYAN |SIGN O WITH CROSS|THICK LETTER SELECTOR|DOUBLE MARK|PUNCTUATION CHINOOK FULL STOP
1BCA0 SHORTHAND FORMAT |LETTER OVERLAP|CONTINUING OVERLAP|DOWN STEP|UP STEP
1CF00 ZNAMENNY COMBINING MARK |GORAZDO NIZKO S KRYZHEM ON LEFT|NIZKO S KRYZHEM ON LEFT
1CF02 ZNAMENNY COMBINING MARK |TSATA ON LEFT|GORAZDO NIZKO ON LEFT|NIZKO ON LEFT|SREDNE ON LEFT
1CF06 ZNAMENNY COMBINING MARK |MALO POVYSHE ON LEFT|POVYSHE ON LEFT|VYSOKO ON LEFT
1CF09 ZNAMENNY COMBINING MARK |MALO POVYSHE S KHOKHLOM ON LEFT|POVYSHE S KHOKHLOM ON LEFT
1CF0B ZNAMENNY COMBINING MARK |VYSOKO S KHOKHLOM ON LEFT|GORAZDO NIZKO S KRYZHEM ON RIGHT
1CF0D ZNAMENNY COMBINING MARK |NIZKO S KRYZHEM ON RIGHT|TSATA ON RIGHT|GORAZDO NIZKO ON RIGHT
1CF10 ZNAMENNY COMBINING MARK |NIZKO ON RIGHT|SREDNE ON RIGHT|MALO POVYSHE ON RIGHT
1CF13 ZNAMENNY COMBINING MARK |POVYSHE ON RIGHT|VYSOKO ON RIGHT|MALO POVYSHE S KHOKHLOM ON RIGHT
1CF16 ZNAMENNY COMBINING MARK |POVYSHE S KHOKHLOM ON RIGHT|VYSOKO S KHOKHLOM ON RIGHT
1CF18 ZNAMENNY COMBINING MARK |TSATA S KRYZHEM|MALO POVYSHE S KRYZHEM|STRANNO MALO POVYSHE
1CF1B ZNAMENNY COMBINING MARK |POVYSHE S KRYZHEM|POVYSHE STRANNO|VYSOKO S KRYZHEM
1CF1E ZNAMENNY COMBINING MARK |MALO POVYSHE STRANNO|GORAZDO VYSOKO|ZELO|ON|RAVNO|TIKHAYA|BORZAYA
1CF25 ZNAMENNY COMBINING MARK |UDARKA|PODVERTKA|LOMKA|KUPNAYA|KACHKA|ZEVOK|SKOBA|RAZSEKA
1CF2D |ZNAMENNY COMBINING MARK KRYZH ON LEFT
1CF30 ZNAMENNY COMBINING TONAL RANGE MARK |MRACHNO|SVETLO|TRESVETLO
1CF33 ZNAMENNY COMBINING MARK |ZADERZHKA|DEMESTVENNY ZADERZHKA|OTSECHKA|PODCHASHIE
1CF37 ZNAMENNY COMBINING MARK |PODCHASHIE WITH VERTICAL STROKE|CHASHKA|CHASHKA POLNAYA|OBLACHKO
1CF3B ZNAMENNY COMBINING |MARK SOROCHYA NOZHKA|MARK TOCHKA|MARK DVOETOCHIE|ATTACHING VERTICAL OMET
1CF3F ZNAMENNY COMBINING |MARK CURVED OMET|MARK KRYZH|LOWER TONAL RANGE INDICATOR
1CF42 ZNAMENNY PRIZNAK MODIFIER |LEVEL-2|LEVEL-3|DIRECTION FLIP|KRYZH|ROG
1CF50 ZNAMENNY NEUME |KRYUK|KRYUK TIKHY|PARAKLIT|DVA V CHELNU|KLYUCH|ZANOZHEK|STOPITSA
1CF57 ZNAMENNY NEUME |STOPITSA S OCHKOM|PEREVODKA|PEREVODKA NEPOSTOYANNAYA
1CF5A ZNAMENNY NEUME |STOPITSA WITH SOROCHYA NOZHKA|CHELYUSTKA|PALKA|ZAPYATAYA|GOLUBCHIK BORZY
1CF5F ZNAMENNY NEUME GOLUBCHIK |TIKHY|MRACHNY|SVETLY|TRESVETLY
1CF63 ZNAMENNY NEUME VRAKHIYA |PROSTAYA|MRACHNAYA|SVETLAYA|TRESVETLAYA|KLYUCHEVAYA PROSTAYA
1CF68 ZNAMENNY NEUME VRAKHIYA KLYUCHEVAYA |MRACHNAYA|SVETLAYA|TRESVETLAYA
1CF6B ZNAMENNY NEUME |DOUBLE ZAPYATAYA|REVERSED CHELYUSTKA|DERBITSA|KHAMILO|CHASHKA|PODCHASHIE
1CF71 ZNAMENNY NEUME SKAMEYTSA |MRACHNAYA|SVETLAYA|TRESVETLAYA|TIKHAYA
1CF75 ZNAMENNY NEUME |DEMESTVENNY KLYUCH|SKAMEYTSA KLYUCHEVAYA SVETLAYA
1CF77 ZNAMENNY NEUME SKAMEYTSA |KLYUCHENEPOSTOYANNAYA|KLYUCHEVAYA TIKHAYA|DVOECHELNAYA PROSTAYA
1CF7A ZNAMENNY NEUME SKAMEYTSA DVOECHELNAYA |SVETLAYA|NEPOSTOYANNAYA|KLYUCHEVAYA
1CF7D ZNAMENNY NEUME |SLOZHITIE|SLOZHITIE S ZAPYATOY|SLOZHITIE ZAKRYTOE|SLOZHITIE S KRYZHEM|KRYZH
1CF82 ZNAMENNY NEUME |ROG|FITA|KOBYLA|ZMEYTSA|STATYA|STATYA S ZAPYATOY|STATYA S KRYZHEM
1CF89 ZNAMENNY NEUME STATYA |S ZAPYATOY I KRYZHEM|S KRYZHEM I ZAPYATOY|ZAKRYTAYA
1CF8C ZNAMENNY NEUME STATYA |ZAKRYTAYA S ZAPYATOY|S ROGOM|S DVUMYA ZAPYATYMI
1CF8F ZNAMENNY NEUME |STATYA S ZAPYATOY I PODCHASHIEM|POLKULIZMY|STATYA NEPOSTOYANNAYA
1CF92 ZNAMENNY NEUME STRELA |PROSTAYA|MRACHNOTIKHAYA|KRYZHEVAYA|POLUPOVODNAYA|POVODNAYA
1CF97 ZNAMENNY NEUME STRELA |NEPOSTOYANNAYA|KLYUCHEPOVODNAYA|KLYUCHENEPOSTOYANNAYA|TIKHAYA PUTNAYA
1CF9B ZNAMENNY NEUME STRELA |DVOECHELNAYA|DVOECHELNOKRYZHEVAYA|DVOECHELNOPOVODNAYA
1CF9E ZNAMENNY NEUME STRELA |DVOECHELNAYA KLYUCHEVAYA|DVOECHELNOPOVODNAYA KLYUCHEVAYA
1CFA0 ZNAMENNY NEUME STRELA |GROMNAYA WITH SINGLE ZAPYATAYA|GROMOPOVODNAYA WITH SINGLE ZAPYATAYA
1CFA2 ZNAMENNY NEUME STRELA |GROMNAYA|GROMOPOVODNAYA|GROMOPOVODNAYA WITH DOUBLE ZAPYATAYA
1CFA5 ZNAMENNY NEUME |STRELA GROMOKRYZHEVAYA|STRELA GROMOKRYZHEVAYA POVODNAYA|MECHIK
1CFA8 ZNAMENNY NEUME MECHIK |POVODNY|KLYUCHEVOY|KLYUCHEPOVODNY|KLYUCHENEPOSTOYANNY
1CFAC ZNAMENNY NEUME |STRELA TRYASOGLASNAYA|STRELA TRYASOPOVODNAYA|STRELA TRYASOSTRELNAYA|OSOKA
1CFB0 ZNAMENNY NEUME OSOKA |SVETLAYA|TRESVETLAYA|KRYUKOVAYA SVETLAYA|KLYUCHEVAYA SVETLAYA
1CFB4 ZNAMENNY NEUME |OSOKA KLYUCHEVAYA NEPOSTOYANNAYA|STRELA KRYUKOVAYA
1CFB6 ZNAMENNY NEUME STRELA KRYUKOVAYA |POVODNAYA|GROMNAYA WITH SINGLE ZAPYATAYA
1CFB8 ZNAMENNY NEUME STRELA KRYUKOVAYA |GROMOPOVODNAYA WITH SINGLE ZAPYATAYA|GROMNAYA
1CFBA ZNAMENNY NEUME STRELA KRYUKOVAYA |GROMOPOVODNAYA|GROMOPOVODNAYA WITH DOUBLE ZAPYATAYA
1CFBC ZNAMENNY NEUME STRELA KRYUKOVAYA |GROMOKRYZHEVAYA|GROMOKRYZHEVAYA POVODNAYA|TRYASKA
1CFBF ZNAMENNY NEUME |KUFISMA|OBLAKO|DUDA|NEMKA|PAUK"

end BraceScript.Text.CharacterName
