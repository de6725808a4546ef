import LiveMarkdown.Text.Range

/-!
Characters by their names. The table holds the letters, signs and pictures in common use; the names
of ideographs and of syllables of the Hangul script follow rules.
-/

namespace LiveMarkdown.Text

namespace CharacterName

/-- Names of characters with code points in a row. A row begins with the first code point, and each
name with the number of words that it shares with the one before. -/
def rows : List String := [
  "20:0SPACE,0EXCLAMATION MARK,0QUOTATION MARK,0NUMBER SIGN,0DOLLAR SIGN,0PERCENT SIGN,0AMPERSAND",
  "27:0APOSTROPHE,0LEFT PARENTHESIS,0RIGHT PARENTHESIS,0ASTERISK,0PLUS SIGN,0COMMA,0HYPHEN-MINUS",
  "2e:0FULL STOP,0SOLIDUS,0DIGIT ZERO,1ONE,1TWO,1THREE,1FOUR,1FIVE,1SIX,1SEVEN,1EIGHT,1NINE",
  "3a:0COLON,0SEMICOLON,0LESS-THAN SIGN,0EQUALS SIGN,0GREATER-THAN SIGN,0QUESTION MARK",
  "40:0COMMERCIAL AT,0LATIN CAPITAL LETTER A,3B,3C,3D,3E,3F,3G,3H,3I,3J,3K,3L,3M,3N,3O,3P,3Q,3R",
  "53:0LATIN CAPITAL LETTER S,3T,3U,3V,3W,3X,3Y,3Z,0LEFT SQUARE BRACKET,0REVERSE SOLIDUS",
  "5d:0RIGHT SQUARE BRACKET,0CIRCUMFLEX ACCENT,0LOW LINE,0GRAVE ACCENT,0LATIN SMALL LETTER A,3B",
  "63:0LATIN SMALL LETTER C,3D,3E,3F,3G,3H,3I,3J,3K,3L,3M,3N,3O,3P,3Q,3R,3S,3T,3U,3V,3W,3X,3Y,3Z",
  "7b:0LEFT CURLY BRACKET,0VERTICAL LINE,0RIGHT CURLY BRACKET,0TILDE",
  "a0:0NO-BREAK SPACE,0INVERTED EXCLAMATION MARK,0CENT SIGN,0POUND SIGN,0CURRENCY SIGN,0YEN SIGN",
  "a6:0BROKEN BAR,0SECTION SIGN,0DIAERESIS,0COPYRIGHT SIGN,0FEMININE ORDINAL INDICATOR",
  "ab:0LEFT-POINTING DOUBLE ANGLE QUOTATION MARK,0NOT SIGN,0SOFT HYPHEN,0REGISTERED SIGN,0MACRON",
  "b0:0DEGREE SIGN,0PLUS-MINUS SIGN,0SUPERSCRIPT TWO,1THREE,0ACUTE ACCENT,0MICRO SIGN",
  "b6:0PILCROW SIGN,0MIDDLE DOT,0CEDILLA,0SUPERSCRIPT ONE,0MASCULINE ORDINAL INDICATOR",
  "bb:0RIGHT-POINTING DOUBLE ANGLE QUOTATION MARK,0VULGAR FRACTION ONE QUARTER,3HALF",
  "be:0VULGAR FRACTION THREE QUARTERS,0INVERTED QUESTION MARK,0LATIN CAPITAL LETTER A WITH GRAVE",
  "c1:0LATIN CAPITAL LETTER A WITH ACUTE,5CIRCUMFLEX,5TILDE,5DIAERESIS,5RING ABOVE,3AE",
  "c7:0LATIN CAPITAL LETTER C WITH CEDILLA,3E WITH GRAVE,5ACUTE,5CIRCUMFLEX,5DIAERESIS",
  "cc:0LATIN CAPITAL LETTER I WITH GRAVE,5ACUTE,5CIRCUMFLEX,5DIAERESIS,3ETH,3N WITH TILDE",
  "d2:0LATIN CAPITAL LETTER O WITH GRAVE,5ACUTE,5CIRCUMFLEX,5TILDE,5DIAERESIS",
  "d7:0MULTIPLICATION SIGN,0LATIN CAPITAL LETTER O WITH STROKE,3U WITH GRAVE,5ACUTE,5CIRCUMFLEX",
  "dc:0LATIN CAPITAL LETTER U WITH DIAERESIS,3Y WITH ACUTE,3THORN,1SMALL LETTER SHARP S",
  "e0:0LATIN SMALL LETTER A WITH GRAVE,5ACUTE,5CIRCUMFLEX,5TILDE,5DIAERESIS,5RING ABOVE,3AE",
  "e7:0LATIN SMALL LETTER C WITH CEDILLA,3E WITH GRAVE,5ACUTE,5CIRCUMFLEX,5DIAERESIS",
  "ec:0LATIN SMALL LETTER I WITH GRAVE,5ACUTE,5CIRCUMFLEX,5DIAERESIS,3ETH,3N WITH TILDE",
  "f2:0LATIN SMALL LETTER O WITH GRAVE,5ACUTE,5CIRCUMFLEX,5TILDE,5DIAERESIS,0DIVISION SIGN",
  "f8:0LATIN SMALL LETTER O WITH STROKE,3U WITH GRAVE,5ACUTE,5CIRCUMFLEX,5DIAERESIS,3Y WITH ACUTE",
  "fe:0LATIN SMALL LETTER THORN,3Y WITH DIAERESIS,1CAPITAL LETTER A WITH MACRON",
  "101:0LATIN SMALL LETTER A WITH MACRON,1CAPITAL LETTER A WITH BREVE,1SMALL LETTER A WITH BREVE",
  "104:0LATIN CAPITAL LETTER A WITH OGONEK,1SMALL LETTER A WITH OGONEK",
  "106:0LATIN CAPITAL LETTER C WITH ACUTE,1SMALL LETTER C WITH ACUTE",
  "108:0LATIN CAPITAL LETTER C WITH CIRCUMFLEX,1SMALL LETTER C WITH CIRCUMFLEX",
  "10a:0LATIN CAPITAL LETTER C WITH DOT ABOVE,1SMALL LETTER C WITH DOT ABOVE",
  "10c:0LATIN CAPITAL LETTER C WITH CARON,1SMALL LETTER C WITH CARON,1CAPITAL LETTER D WITH CARON",
  "10f:0LATIN SMALL LETTER D WITH CARON,1CAPITAL LETTER D WITH STROKE,1SMALL LETTER D WITH STROKE",
  "112:0LATIN CAPITAL LETTER E WITH MACRON,1SMALL LETTER E WITH MACRON",
  "114:0LATIN CAPITAL LETTER E WITH BREVE,1SMALL LETTER E WITH BREVE",
  "116:0LATIN CAPITAL LETTER E WITH DOT ABOVE,1SMALL LETTER E WITH DOT ABOVE",
  "118:0LATIN CAPITAL LETTER E WITH OGONEK,1SMALL LETTER E WITH OGONEK",
  "11a:0LATIN CAPITAL LETTER E WITH CARON,1SMALL LETTER E WITH CARON",
  "11c:0LATIN CAPITAL LETTER G WITH CIRCUMFLEX,1SMALL LETTER G WITH CIRCUMFLEX",
  "11e:0LATIN CAPITAL LETTER G WITH BREVE,1SMALL LETTER G WITH BREVE",
  "120:0LATIN CAPITAL LETTER G WITH DOT ABOVE,1SMALL LETTER G WITH DOT ABOVE",
  "122:0LATIN CAPITAL LETTER G WITH CEDILLA,1SMALL LETTER G WITH CEDILLA",
  "124:0LATIN CAPITAL LETTER H WITH CIRCUMFLEX,1SMALL LETTER H WITH CIRCUMFLEX",
  "126:0LATIN CAPITAL LETTER H WITH STROKE,1SMALL LETTER H WITH STROKE",
  "128:0LATIN CAPITAL LETTER I WITH TILDE,1SMALL LETTER I WITH TILDE",
  "12a:0LATIN CAPITAL LETTER I WITH MACRON,1SMALL LETTER I WITH MACRON",
  "12c:0LATIN CAPITAL LETTER I WITH BREVE,1SMALL LETTER I WITH BREVE",
  "12e:0LATIN CAPITAL LETTER I WITH OGONEK,1SMALL LETTER I WITH OGONEK",
  "130:0LATIN CAPITAL LETTER I WITH DOT ABOVE,1SMALL LETTER DOTLESS I,1CAPITAL LIGATURE IJ",
  "133:0LATIN SMALL LIGATURE IJ,1CAPITAL LETTER J WITH CIRCUMFLEX,1SMALL LETTER J WITH CIRCUMFLEX",
  "136:0LATIN CAPITAL LETTER K WITH CEDILLA,1SMALL LETTER K WITH CEDILLA,3KRA",
  "139:0LATIN CAPITAL LETTER L WITH ACUTE,1SMALL LETTER L WITH ACUTE",
  "13b:0LATIN CAPITAL LETTER L WITH CEDILLA,1SMALL LETTER L WITH CEDILLA",
  "13d:0LATIN CAPITAL LETTER L WITH CARON,1SMALL LETTER L WITH CARON",
  "13f:0LATIN CAPITAL LETTER L WITH MIDDLE DOT,1SMALL LETTER L WITH MIDDLE DOT",
  "141:0LATIN CAPITAL LETTER L WITH STROKE,1SMALL LETTER L WITH STROKE",
  "143:0LATIN CAPITAL LETTER N WITH ACUTE,1SMALL LETTER N WITH ACUTE",
  "145:0LATIN CAPITAL LETTER N WITH CEDILLA,1SMALL LETTER N WITH CEDILLA",
  "147:0LATIN CAPITAL LETTER N WITH CARON,1SMALL LETTER N WITH CARON,4PRECEDED BY APOSTROPHE",
  "14a:0LATIN CAPITAL LETTER ENG,1SMALL LETTER ENG,1CAPITAL LETTER O WITH MACRON",
  "14d:0LATIN SMALL LETTER O WITH MACRON,1CAPITAL LETTER O WITH BREVE,1SMALL LETTER O WITH BREVE",
  "150:0LATIN CAPITAL LETTER O WITH DOUBLE ACUTE,1SMALL LETTER O WITH DOUBLE ACUTE",
  "152:0LATIN CAPITAL LIGATURE OE,1SMALL LIGATURE OE,1CAPITAL LETTER R WITH ACUTE",
  "155:0LATIN SMALL LETTER R WITH ACUTE,1CAPITAL LETTER R WITH CEDILLA",
  "157:0LATIN SMALL LETTER R WITH CEDILLA,1CAPITAL LETTER R WITH CARON,1SMALL LETTER R WITH CARON",
  "15a:0LATIN CAPITAL LETTER S WITH ACUTE,1SMALL LETTER S WITH ACUTE",
  "15c:0LATIN CAPITAL LETTER S WITH CIRCUMFLEX,1SMALL LETTER S WITH CIRCUMFLEX",
  "15e:0LATIN CAPITAL LETTER S WITH CEDILLA,1SMALL LETTER S WITH CEDILLA",
  "160:0LATIN CAPITAL LETTER S WITH CARON,1SMALL LETTER S WITH CARON",
  "162:0LATIN CAPITAL LETTER T WITH CEDILLA,1SMALL LETTER T WITH CEDILLA",
  "164:0LATIN CAPITAL LETTER T WITH CARON,1SMALL LETTER T WITH CARON",
  "166:0LATIN CAPITAL LETTER T WITH STROKE,1SMALL LETTER T WITH STROKE",
  "168:0LATIN CAPITAL LETTER U WITH TILDE,1SMALL LETTER U WITH TILDE",
  "16a:0LATIN CAPITAL LETTER U WITH MACRON,1SMALL LETTER U WITH MACRON",
  "16c:0LATIN CAPITAL LETTER U WITH BREVE,1SMALL LETTER U WITH BREVE",
  "16e:0LATIN CAPITAL LETTER U WITH RING ABOVE,1SMALL LETTER U WITH RING ABOVE",
  "170:0LATIN CAPITAL LETTER U WITH DOUBLE ACUTE,1SMALL LETTER U WITH DOUBLE ACUTE",
  "172:0LATIN CAPITAL LETTER U WITH OGONEK,1SMALL LETTER U WITH OGONEK",
  "174:0LATIN CAPITAL LETTER W WITH CIRCUMFLEX,1SMALL LETTER W WITH CIRCUMFLEX",
  "176:0LATIN CAPITAL LETTER Y WITH CIRCUMFLEX,1SMALL LETTER Y WITH CIRCUMFLEX",
  "178:0LATIN CAPITAL LETTER Y WITH DIAERESIS,3Z WITH ACUTE,1SMALL LETTER Z WITH ACUTE",
  "17b:0LATIN CAPITAL LETTER Z WITH DOT ABOVE,1SMALL LETTER Z WITH DOT ABOVE",
  "17d:0LATIN CAPITAL LETTER Z WITH CARON,1SMALL LETTER Z WITH CARON,3LONG S,3B WITH STROKE",
  "181:0LATIN CAPITAL LETTER B WITH HOOK,5TOPBAR,1SMALL LETTER B WITH TOPBAR",
  "184:0LATIN CAPITAL LETTER TONE SIX,1SMALL LETTER TONE SIX,1CAPITAL LETTER OPEN O,3C WITH HOOK",
  "188:0LATIN SMALL LETTER C WITH HOOK,1CAPITAL LETTER AFRICAN D,3D WITH HOOK,5TOPBAR",
  "18c:0LATIN SMALL LETTER D WITH TOPBAR,3TURNED DELTA,1CAPITAL LETTER REVERSED E,3SCHWA,3OPEN E",
  "191:0LATIN CAPITAL LETTER F WITH HOOK,1SMALL LETTER F WITH HOOK,1CAPITAL LETTER G WITH HOOK",
  "194:0LATIN CAPITAL LETTER GAMMA,1SMALL LETTER HV,1CAPITAL LETTER IOTA,3I WITH STROKE",
  "198:0LATIN CAPITAL LETTER K WITH HOOK,1SMALL LETTER K WITH HOOK,3L WITH BAR",
  "19b:0LATIN SMALL LETTER LAMBDA WITH STROKE,1CAPITAL LETTER TURNED M,3N WITH LEFT HOOK",
  "19e:0LATIN SMALL LETTER N WITH LONG RIGHT LEG,1CAPITAL LETTER O WITH MIDDLE TILDE,5HORN",
  "1a1:0LATIN SMALL LETTER O WITH HORN,1CAPITAL LETTER OI,1SMALL LETTER OI",
  "1a4:0LATIN CAPITAL LETTER P WITH HOOK,1SMALL LETTER P WITH HOOK,1LETTER YR",
  "1a7:0LATIN CAPITAL LETTER TONE TWO,1SMALL LETTER TONE TWO,1CAPITAL LETTER ESH",
  "1aa:0LATIN LETTER REVERSED ESH LOOP,1SMALL LETTER T WITH PALATAL HOOK",
  "1ac:0LATIN CAPITAL LETTER T WITH HOOK,1SMALL LETTER T WITH HOOK",
  "1ae:0LATIN CAPITAL LETTER T WITH RETROFLEX HOOK,3U WITH HORN,1SMALL LETTER U WITH HORN",
  "1b1:0LATIN CAPITAL LETTER UPSILON,3V WITH HOOK,3Y WITH HOOK,1SMALL LETTER Y WITH HOOK",
  "1b5:0LATIN CAPITAL LETTER Z WITH STROKE,1SMALL LETTER Z WITH STROKE,1CAPITAL LETTER EZH",
  "1b8:0LATIN CAPITAL LETTER EZH REVERSED,1SMALL LETTER EZH REVERSED,4WITH TAIL",
  "1bb:0LATIN LETTER TWO WITH STROKE,1CAPITAL LETTER TONE FIVE,1SMALL LETTER TONE FIVE",
  "1be:0LATIN LETTER INVERTED GLOTTAL STOP WITH STROKE,2WYNN,2DENTAL CLICK,2LATERAL CLICK",
  "1c2:0LATIN LETTER ALVEOLAR CLICK,2RETROFLEX CLICK,1CAPITAL LETTER DZ WITH CARON",
  "1c5:0LATIN CAPITAL LETTER D WITH SMALL LETTER Z WITH CARON,1SMALL LETTER DZ WITH CARON",
  "1c7:0LATIN CAPITAL LETTER LJ,3L WITH SMALL LETTER J,1SMALL LETTER LJ,1CAPITAL LETTER NJ",
  "1cb:0LATIN CAPITAL LETTER N WITH SMALL LETTER J,1SMALL LETTER NJ,1CAPITAL LETTER A WITH CARON",
  "1ce:0LATIN SMALL LETTER A WITH CARON,1CAPITAL LETTER I WITH CARON,1SMALL LETTER I WITH CARON",
  "1d1:0LATIN CAPITAL LETTER O WITH CARON,1SMALL LETTER O WITH CARON,1CAPITAL LETTER U WITH CARON",
  "1d4:0LATIN SMALL LETTER U WITH CARON,1CAPITAL LETTER U WITH DIAERESIS AND MACRON",
  "1d6:0LATIN SMALL LETTER U WITH DIAERESIS AND MACRON,1CAPITAL LETTER U WITH DIAERESIS AND ACUTE",
  "1d8:0LATIN SMALL LETTER U WITH DIAERESIS AND ACUTE,1CAPITAL LETTER U WITH DIAERESIS AND CARON",
  "1da:0LATIN SMALL LETTER U WITH DIAERESIS AND CARON,1CAPITAL LETTER U WITH DIAERESIS AND GRAVE",
  "1dc:0LATIN SMALL LETTER U WITH DIAERESIS AND GRAVE,3TURNED E",
  "1de:0LATIN CAPITAL LETTER A WITH DIAERESIS AND MACRON",
  "1df:0LATIN SMALL LETTER A WITH DIAERESIS AND MACRON",
  "1e0:0LATIN CAPITAL LETTER A WITH DOT ABOVE AND MACRON",
  "1e1:0LATIN SMALL LETTER A WITH DOT ABOVE AND MACRON,1CAPITAL LETTER AE WITH MACRON",
  "1e3:0LATIN SMALL LETTER AE WITH MACRON,1CAPITAL LETTER G WITH STROKE",
  "1e5:0LATIN SMALL LETTER G WITH STROKE,1CAPITAL LETTER G WITH CARON,1SMALL LETTER G WITH CARON",
  "1e8:0LATIN CAPITAL LETTER K WITH CARON,1SMALL LETTER K WITH CARON",
  "1ea:0LATIN CAPITAL LETTER O WITH OGONEK,1SMALL LETTER O WITH OGONEK",
  "1ec:0LATIN CAPITAL LETTER O WITH OGONEK AND MACRON,1SMALL LETTER O WITH OGONEK AND MACRON",
  "1ee:0LATIN CAPITAL LETTER EZH WITH CARON,1SMALL LETTER EZH WITH CARON,3J WITH CARON",
  "1f1:0LATIN CAPITAL LETTER DZ,3D WITH SMALL LETTER Z,1SMALL LETTER DZ",
  "1f4:0LATIN CAPITAL LETTER G WITH ACUTE,1SMALL LETTER G WITH ACUTE,1CAPITAL LETTER HWAIR,3WYNN",
  "1f8:0LATIN CAPITAL LETTER N WITH GRAVE,1SMALL LETTER N WITH GRAVE",
  "1fa:0LATIN CAPITAL LETTER A WITH RING ABOVE AND ACUTE",
  "1fb:0LATIN SMALL LETTER A WITH RING ABOVE AND ACUTE,1CAPITAL LETTER AE WITH ACUTE",
  "1fd:0LATIN SMALL LETTER AE WITH ACUTE,1CAPITAL LETTER O WITH STROKE AND ACUTE",
  "1ff:0LATIN SMALL LETTER O WITH STROKE AND ACUTE,1CAPITAL LETTER A WITH DOUBLE GRAVE",
  "201:0LATIN SMALL LETTER A WITH DOUBLE GRAVE,1CAPITAL LETTER A WITH INVERTED BREVE",
  "203:0LATIN SMALL LETTER A WITH INVERTED BREVE,1CAPITAL LETTER E WITH DOUBLE GRAVE",
  "205:0LATIN SMALL LETTER E WITH DOUBLE GRAVE,1CAPITAL LETTER E WITH INVERTED BREVE",
  "207:0LATIN SMALL LETTER E WITH INVERTED BREVE,1CAPITAL LETTER I WITH DOUBLE GRAVE",
  "209:0LATIN SMALL LETTER I WITH DOUBLE GRAVE,1CAPITAL LETTER I WITH INVERTED BREVE",
  "20b:0LATIN SMALL LETTER I WITH INVERTED BREVE,1CAPITAL LETTER O WITH DOUBLE GRAVE",
  "20d:0LATIN SMALL LETTER O WITH DOUBLE GRAVE,1CAPITAL LETTER O WITH INVERTED BREVE",
  "20f:0LATIN SMALL LETTER O WITH INVERTED BREVE,1CAPITAL LETTER R WITH DOUBLE GRAVE",
  "211:0LATIN SMALL LETTER R WITH DOUBLE GRAVE,1CAPITAL LETTER R WITH INVERTED BREVE",
  "213:0LATIN SMALL LETTER R WITH INVERTED BREVE,1CAPITAL LETTER U WITH DOUBLE GRAVE",
  "215:0LATIN SMALL LETTER U WITH DOUBLE GRAVE,1CAPITAL LETTER U WITH INVERTED BREVE",
  "217:0LATIN SMALL LETTER U WITH INVERTED BREVE,1CAPITAL LETTER S WITH COMMA BELOW",
  "219:0LATIN SMALL LETTER S WITH COMMA BELOW,1CAPITAL LETTER T WITH COMMA BELOW",
  "21b:0LATIN SMALL LETTER T WITH COMMA BELOW,1CAPITAL LETTER YOGH,1SMALL LETTER YOGH",
  "21e:0LATIN CAPITAL LETTER H WITH CARON,1SMALL LETTER H WITH CARON",
  "220:0LATIN CAPITAL LETTER N WITH LONG RIGHT LEG,1SMALL LETTER D WITH CURL,1CAPITAL LETTER OU",
  "223:0LATIN SMALL LETTER OU,1CAPITAL LETTER Z WITH HOOK,1SMALL LETTER Z WITH HOOK",
  "226:0LATIN CAPITAL LETTER A WITH DOT ABOVE,1SMALL LETTER A WITH DOT ABOVE",
  "228:0LATIN CAPITAL LETTER E WITH CEDILLA,1SMALL LETTER E WITH CEDILLA",
  "22a:0LATIN CAPITAL LETTER O WITH DIAERESIS AND MACRON",
  "22b:0LATIN SMALL LETTER O WITH DIAERESIS AND MACRON,1CAPITAL LETTER O WITH TILDE AND MACRON",
  "22d:0LATIN SMALL LETTER O WITH TILDE AND MACRON,1CAPITAL LETTER O WITH DOT ABOVE",
  "22f:0LATIN SMALL LETTER O WITH DOT ABOVE,1CAPITAL LETTER O WITH DOT ABOVE AND MACRON",
  "231:0LATIN SMALL LETTER O WITH DOT ABOVE AND MACRON,1CAPITAL LETTER Y WITH MACRON",
  "233:0LATIN SMALL LETTER Y WITH MACRON,3L WITH CURL,3N WITH CURL,3T WITH CURL,3DOTLESS J",
  "238:0LATIN SMALL LETTER DB DIGRAPH,3QP DIGRAPH,1CAPITAL LETTER A WITH STROKE,3C WITH STROKE",
  "23c:0LATIN SMALL LETTER C WITH STROKE,1CAPITAL LETTER L WITH BAR,3T WITH DIAGONAL STROKE",
  "23f:0LATIN SMALL LETTER S WITH SWASH TAIL,3Z WITH SWASH TAIL,1CAPITAL LETTER GLOTTAL STOP",
  "242:0LATIN SMALL LETTER GLOTTAL STOP,1CAPITAL LETTER B WITH STROKE,3U BAR,3TURNED V",
  "246:0LATIN CAPITAL LETTER E WITH STROKE,1SMALL LETTER E WITH STROKE",
  "248:0LATIN CAPITAL LETTER J WITH STROKE,1SMALL LETTER J WITH STROKE",
  "24a:0LATIN CAPITAL LETTER SMALL Q WITH HOOK TAIL,1SMALL LETTER Q WITH HOOK TAIL",
  "24c:0LATIN CAPITAL LETTER R WITH STROKE,1SMALL LETTER R WITH STROKE",
  "24e:0LATIN CAPITAL LETTER Y WITH STROKE,1SMALL LETTER Y WITH STROKE,3TURNED A,3ALPHA",
  "252:0LATIN SMALL LETTER TURNED ALPHA,3B WITH HOOK,3OPEN O,3C WITH CURL,3D WITH TAIL,5HOOK",
  "258:0LATIN SMALL LETTER REVERSED E,3SCHWA,4WITH HOOK,3OPEN E,3REVERSED OPEN E,6WITH HOOK",
  "25e:0LATIN SMALL LETTER CLOSED REVERSED OPEN E,3DOTLESS J WITH STROKE,3G WITH HOOK,3SCRIPT G",
  "262:0LATIN LETTER SMALL CAPITAL G,1SMALL LETTER GAMMA,3RAMS HORN,3TURNED H,3H WITH HOOK",
  "267:0LATIN SMALL LETTER HENG WITH HOOK,3I WITH STROKE,3IOTA,1LETTER SMALL CAPITAL I",
  "26b:0LATIN SMALL LETTER L WITH MIDDLE TILDE,5BELT,5RETROFLEX HOOK,3LEZH,3TURNED M",
  "270:0LATIN SMALL LETTER TURNED M WITH LONG LEG,3M WITH HOOK,3N WITH LEFT HOOK,5RETROFLEX HOOK",
  "274:0LATIN LETTER SMALL CAPITAL N,1SMALL LETTER BARRED O,1LETTER SMALL CAPITAL OE",
  "277:0LATIN SMALL LETTER CLOSED OMEGA,3PHI,3TURNED R,5WITH LONG LEG,6HOOK,3R WITH LONG LEG",
  "27d:0LATIN SMALL LETTER R WITH TAIL,5FISHHOOK,3REVERSED R WITH FISHHOOK",
  "280:0LATIN LETTER SMALL CAPITAL R,4INVERTED R,1SMALL LETTER S WITH HOOK,3ESH",
  "284:0LATIN SMALL LETTER DOTLESS J WITH STROKE AND HOOK,3SQUAT REVERSED ESH,3ESH WITH CURL",
  "287:0LATIN SMALL LETTER TURNED T,3T WITH RETROFLEX HOOK,3U BAR,3UPSILON,3V WITH HOOK,3TURNED V",
  "28d:0LATIN SMALL LETTER TURNED W,4Y,1LETTER SMALL CAPITAL Y",
  "290:0LATIN SMALL LETTER Z WITH RETROFLEX HOOK,5CURL,3EZH,4WITH CURL,1LETTER GLOTTAL STOP",
  "295:0LATIN LETTER PHARYNGEAL VOICED FRICATIVE,2INVERTED GLOTTAL STOP,2STRETCHED C",
  "298:0LATIN LETTER BILABIAL CLICK,2SMALL CAPITAL B,1SMALL LETTER CLOSED OPEN E",
  "29b:0LATIN LETTER SMALL CAPITAL G WITH HOOK,4H,1SMALL LETTER J WITH CROSSED-TAIL,3TURNED K",
  "29f:0LATIN LETTER SMALL CAPITAL L,1SMALL LETTER Q WITH HOOK,1LETTER GLOTTAL STOP WITH STROKE",
  "2a2:0LATIN LETTER REVERSED GLOTTAL STOP WITH STROKE,1SMALL LETTER DZ DIGRAPH,3DEZH DIGRAPH",
  "2a5:0LATIN SMALL LETTER DZ DIGRAPH WITH CURL,3TS DIGRAPH,3TESH DIGRAPH,3TC DIGRAPH WITH CURL",
  "2a9:0LATIN SMALL LETTER FENG DIGRAPH,3LS DIGRAPH,3LZ DIGRAPH,1LETTER BILABIAL PERCUSSIVE",
  "2ad:0LATIN LETTER BIDENTAL PERCUSSIVE,1SMALL LETTER TURNED H WITH FISHHOOK,7AND TAIL",
  "2b0:0MODIFIER LETTER SMALL H,4WITH HOOK,3J,3R,3TURNED R,5WITH HOOK,3CAPITAL INVERTED R,3W,3Y",
  "2b9:0MODIFIER LETTER PRIME,2DOUBLE PRIME,2TURNED COMMA,2APOSTROPHE,2REVERSED COMMA",
  "2be:0MODIFIER LETTER RIGHT HALF RING,2LEFT HALF RING,2GLOTTAL STOP,2REVERSED GLOTTAL STOP",
  "2c2:0MODIFIER LETTER LEFT ARROWHEAD,2RIGHT ARROWHEAD,2UP ARROWHEAD,2DOWN ARROWHEAD",
  "2c6:0MODIFIER LETTER CIRCUMFLEX ACCENT,0CARON,0MODIFIER LETTER VERTICAL LINE,2MACRON",
  "2ca:0MODIFIER LETTER ACUTE ACCENT,2GRAVE ACCENT,2LOW VERTICAL LINE,3MACRON,3GRAVE ACCENT",
  "2cf:0MODIFIER LETTER LOW ACUTE ACCENT,2TRIANGULAR COLON,2HALF TRIANGULAR COLON",
  "2d2:0MODIFIER LETTER CENTRED RIGHT HALF RING,3LEFT HALF RING,2UP TACK,2DOWN TACK,2PLUS SIGN",
  "2d7:0MODIFIER LETTER MINUS SIGN,0BREVE,0DOT ABOVE,0RING ABOVE,0OGONEK,0SMALL TILDE",
  "2dd:0DOUBLE ACUTE ACCENT,0MODIFIER LETTER RHOTIC HOOK,2CROSS ACCENT,2SMALL GAMMA,3L,3S,3X",
  "2e4:0MODIFIER LETTER SMALL REVERSED GLOTTAL STOP,2EXTRA-HIGH TONE BAR,2HIGH TONE BAR",
  "2e7:0MODIFIER LETTER MID TONE BAR,2LOW TONE BAR,2EXTRA-LOW TONE BAR,2YIN DEPARTING TONE MARK",
  "2eb:0MODIFIER LETTER YANG DEPARTING TONE MARK,2VOICING,2UNASPIRATED,2DOUBLE APOSTROPHE",
  "2ef:0MODIFIER LETTER LOW DOWN ARROWHEAD,3UP ARROWHEAD,3LEFT ARROWHEAD,3RIGHT ARROWHEAD,3RING",
  "2f4:0MODIFIER LETTER MIDDLE GRAVE ACCENT,3DOUBLE GRAVE ACCENT,4ACUTE ACCENT,2LOW TILDE",
  "2f8:0MODIFIER LETTER RAISED COLON,2BEGIN HIGH TONE,2END HIGH TONE,2BEGIN LOW TONE",
  "2fc:0MODIFIER LETTER END LOW TONE,2SHELF,2OPEN SHELF,2LOW LEFT ARROW,0COMBINING GRAVE ACCENT",
  "301:0COMBINING ACUTE ACCENT,1CIRCUMFLEX ACCENT,1TILDE,1MACRON,1OVERLINE,1BREVE,1DOT ABOVE",
  "308:0COMBINING DIAERESIS,1HOOK ABOVE,1RING ABOVE,1DOUBLE ACUTE ACCENT,1CARON",
  "30d:0COMBINING VERTICAL LINE ABOVE,1DOUBLE VERTICAL LINE ABOVE,2GRAVE ACCENT,1CANDRABINDU",
  "311:0COMBINING INVERTED BREVE,1TURNED COMMA ABOVE,1COMMA ABOVE,1REVERSED COMMA ABOVE",
  "315:0COMBINING COMMA ABOVE RIGHT,1GRAVE ACCENT BELOW,1ACUTE ACCENT BELOW,1LEFT TACK BELOW",
  "319:0COMBINING RIGHT TACK BELOW,1LEFT ANGLE ABOVE,1HORN,1LEFT HALF RING BELOW,1UP TACK BELOW",
  "31e:0COMBINING DOWN TACK BELOW,1PLUS SIGN BELOW,1MINUS SIGN BELOW,1PALATALIZED HOOK BELOW",
  "322:0COMBINING RETROFLEX HOOK BELOW,1DOT BELOW,1DIAERESIS BELOW,1RING BELOW,1COMMA BELOW",
  "327:0COMBINING CEDILLA,1OGONEK,1VERTICAL LINE BELOW,1BRIDGE BELOW,1INVERTED DOUBLE ARCH BELOW",
  "32c:0COMBINING CARON BELOW,1CIRCUMFLEX ACCENT BELOW,1BREVE BELOW,1INVERTED BREVE BELOW",
  "330:0COMBINING TILDE BELOW,1MACRON BELOW,1LOW LINE,1DOUBLE LOW LINE,1TILDE OVERLAY",
  "335:0COMBINING SHORT STROKE OVERLAY,1LONG STROKE OVERLAY,1SHORT SOLIDUS OVERLAY",
  "338:0COMBINING LONG SOLIDUS OVERLAY,1RIGHT HALF RING BELOW,1INVERTED BRIDGE BELOW",
  "33b:0COMBINING SQUARE BELOW,1SEAGULL BELOW,1X ABOVE,1VERTICAL TILDE,1DOUBLE OVERLINE",
  "340:0COMBINING GRAVE TONE MARK,1ACUTE TONE MARK,1GREEK PERISPOMENI,2KORONIS,2DIALYTIKA TONOS",
  "345:0COMBINING GREEK YPOGEGRAMMENI,1BRIDGE ABOVE,1EQUALS SIGN BELOW",
  "348:0COMBINING DOUBLE VERTICAL LINE BELOW,1LEFT ANGLE BELOW,1NOT TILDE ABOVE,1HOMOTHETIC ABOVE",
  "34c:0COMBINING ALMOST EQUAL TO ABOVE,1LEFT RIGHT ARROW BELOW,1UPWARDS ARROW BELOW",
  "34f:0COMBINING GRAPHEME JOINER,1RIGHT ARROWHEAD ABOVE,1LEFT HALF RING ABOVE,1FERMATA,1X BELOW",
  "354:0COMBINING LEFT ARROWHEAD BELOW,1RIGHT ARROWHEAD BELOW,3AND UP ARROWHEAD BELOW",
  "357:0COMBINING RIGHT HALF RING ABOVE,1DOT ABOVE RIGHT,1ASTERISK BELOW,1DOUBLE RING BELOW",
  "35b:0COMBINING ZIGZAG ABOVE,1DOUBLE BREVE BELOW,3,2MACRON,3BELOW,2TILDE,2INVERTED BREVE",
  "362:0COMBINING DOUBLE RIGHTWARDS ARROW BELOW,1LATIN SMALL LETTER A,4E,4I,4O,4U,4C,4D,4H,4M,4R",
  "36d:0COMBINING LATIN SMALL LETTER T,4V,4X,0GREEK CAPITAL LETTER HETA,1SMALL LETTER HETA",
  "372:0GREEK CAPITAL LETTER ARCHAIC SAMPI,1SMALL LETTER ARCHAIC SAMPI,1NUMERAL SIGN",
  "375:0GREEK LOWER NUMERAL SIGN,1CAPITAL LETTER PAMPHYLIAN DIGAMMA",
  "377:0GREEK SMALL LETTER PAMPHYLIAN DIGAMMA",
  "37a:0GREEK YPOGEGRAMMENI,1SMALL REVERSED LUNATE SIGMA SYMBOL,2DOTTED LUNATE SIGMA SYMBOL",
  "37d:0GREEK SMALL REVERSED DOTTED LUNATE SIGMA SYMBOL,1QUESTION MARK,1CAPITAL LETTER YOT",
  "384:0GREEK TONOS,1DIALYTIKA TONOS,1CAPITAL LETTER ALPHA WITH TONOS,1ANO TELEIA",
  "388:0GREEK CAPITAL LETTER EPSILON WITH TONOS,3ETA WITH TONOS,3IOTA WITH TONOS",
  "38c:0GREEK CAPITAL LETTER OMICRON WITH TONOS",
  "38e:0GREEK CAPITAL LETTER UPSILON WITH TONOS,3OMEGA WITH TONOS",
  "390:0GREEK SMALL LETTER IOTA WITH DIALYTIKA AND TONOS,1CAPITAL LETTER ALPHA,3BETA,3GAMMA",
  "394:0GREEK CAPITAL LETTER DELTA,3EPSILON,3ZETA,3ETA,3THETA,3IOTA,3KAPPA,3LAMDA,3MU,3NU,3XI",
  "39f:0GREEK CAPITAL LETTER OMICRON,3PI,3RHO",
  "3a3:0GREEK CAPITAL LETTER SIGMA,3TAU,3UPSILON,3PHI,3CHI,3PSI,3OMEGA,3IOTA WITH DIALYTIKA",
  "3ab:0GREEK CAPITAL LETTER UPSILON WITH DIALYTIKA,1SMALL LETTER ALPHA WITH TONOS",
  "3ad:0GREEK SMALL LETTER EPSILON WITH TONOS,3ETA WITH TONOS,3IOTA WITH TONOS",
  "3b0:0GREEK SMALL LETTER UPSILON WITH DIALYTIKA AND TONOS,3ALPHA,3BETA,3GAMMA,3DELTA,3EPSILON",
  "3b6:0GREEK SMALL LETTER ZETA,3ETA,3THETA,3IOTA,3KAPPA,3LAMDA,3MU,3NU,3XI,3OMICRON,3PI,3RHO",
  "3c2:0GREEK SMALL LETTER FINAL SIGMA,3SIGMA,3TAU,3UPSILON,3PHI,3CHI,3PSI,3OMEGA",
  "3ca:0GREEK SMALL LETTER IOTA WITH DIALYTIKA,3UPSILON WITH DIALYTIKA,3OMICRON WITH TONOS",
  "3cd:0GREEK SMALL LETTER UPSILON WITH TONOS,3OMEGA WITH TONOS,1CAPITAL KAI SYMBOL,1BETA SYMBOL",
  "3d1:0GREEK THETA SYMBOL,1UPSILON WITH HOOK SYMBOL,3ACUTE AND HOOK SYMBOL",
  "3d4:0GREEK UPSILON WITH DIAERESIS AND HOOK SYMBOL,1PHI SYMBOL,1PI SYMBOL,1KAI SYMBOL",
  "3d8:0GREEK LETTER ARCHAIC KOPPA,1SMALL LETTER ARCHAIC KOPPA,1LETTER STIGMA",
  "3db:0GREEK SMALL LETTER STIGMA,1LETTER DIGAMMA,1SMALL LETTER DIGAMMA,1LETTER KOPPA",
  "3df:0GREEK SMALL LETTER KOPPA,1LETTER SAMPI,1SMALL LETTER SAMPI,0COPTIC CAPITAL LETTER SHEI",
  "3e3:0COPTIC SMALL LETTER SHEI,1CAPITAL LETTER FEI,1SMALL LETTER FEI,1CAPITAL LETTER KHEI",
  "3e7:0COPTIC SMALL LETTER KHEI,1CAPITAL LETTER HORI,1SMALL LETTER HORI,1CAPITAL LETTER GANGIA",
  "3eb:0COPTIC SMALL LETTER GANGIA,1CAPITAL LETTER SHIMA,1SMALL LETTER SHIMA,1CAPITAL LETTER DEI",
  "3ef:0COPTIC SMALL LETTER DEI,0GREEK KAPPA SYMBOL,1RHO SYMBOL,1LUNATE SIGMA SYMBOL,1LETTER YOT",
  "3f4:0GREEK CAPITAL THETA SYMBOL,1LUNATE EPSILON SYMBOL,1REVERSED LUNATE EPSILON SYMBOL",
  "3f7:0GREEK CAPITAL LETTER SHO,1SMALL LETTER SHO,1CAPITAL LUNATE SIGMA SYMBOL,2LETTER SAN",
  "3fb:0GREEK SMALL LETTER SAN,1RHO WITH STROKE SYMBOL,1CAPITAL REVERSED LUNATE SIGMA SYMBOL",
  "3fe:0GREEK CAPITAL DOTTED LUNATE SIGMA SYMBOL,2REVERSED DOTTED LUNATE SIGMA SYMBOL",
  "400:0CYRILLIC CAPITAL LETTER IE WITH GRAVE,3IO,3DJE,3GJE,3UKRAINIAN IE,3DZE",
  "406:0CYRILLIC CAPITAL LETTER BYELORUSSIAN-UKRAINIAN I,3YI,3JE,3LJE,3NJE,3TSHE,3KJE",
  "40d:0CYRILLIC CAPITAL LETTER I WITH GRAVE,3SHORT U,3DZHE,3A,3BE,3VE,3GHE,3DE,3IE,3ZHE,3ZE,3I",
  "419:0CYRILLIC CAPITAL LETTER SHORT I,3KA,3EL,3EM,3EN,3O,3PE,3ER,3ES,3TE,3U,3EF,3HA,3TSE,3CHE",
  "428:0CYRILLIC CAPITAL LETTER SHA,3SHCHA,3HARD SIGN,3YERU,3SOFT SIGN,3E,3YU,3YA,1SMALL LETTER A",
  "431:0CYRILLIC SMALL LETTER BE,3VE,3GHE,3DE,3IE,3ZHE,3ZE,3I,3SHORT I,3KA,3EL,3EM,3EN,3O,3PE,3ER",
  "441:0CYRILLIC SMALL LETTER ES,3TE,3U,3EF,3HA,3TSE,3CHE,3SHA,3SHCHA,3HARD SIGN,3YERU,3SOFT SIGN",
  "44d:0CYRILLIC SMALL LETTER E,3YU,3YA,3IE WITH GRAVE,3IO,3DJE,3GJE,3UKRAINIAN IE,3DZE",
  "456:0CYRILLIC SMALL LETTER BYELORUSSIAN-UKRAINIAN I,3YI,3JE,3LJE,3NJE,3TSHE,3KJE,3I WITH GRAVE",
  "45e:0CYRILLIC SMALL LETTER SHORT U,3DZHE,1CAPITAL LETTER OMEGA,1SMALL LETTER OMEGA",
  "462:0CYRILLIC CAPITAL LETTER YAT,1SMALL LETTER YAT,1CAPITAL LETTER IOTIFIED E",
  "465:0CYRILLIC SMALL LETTER IOTIFIED E,1CAPITAL LETTER LITTLE YUS,1SMALL LETTER LITTLE YUS",
  "468:0CYRILLIC CAPITAL LETTER IOTIFIED LITTLE YUS,1SMALL LETTER IOTIFIED LITTLE YUS",
  "46a:0CYRILLIC CAPITAL LETTER BIG YUS,1SMALL LETTER BIG YUS,1CAPITAL LETTER IOTIFIED BIG YUS",
  "46d:0CYRILLIC SMALL LETTER IOTIFIED BIG YUS,1CAPITAL LETTER KSI,1SMALL LETTER KSI",
  "470:0CYRILLIC CAPITAL LETTER PSI,1SMALL LETTER PSI,1CAPITAL LETTER FITA,1SMALL LETTER FITA",
  "474:0CYRILLIC CAPITAL LETTER IZHITSA,1SMALL LETTER IZHITSA",
  "476:0CYRILLIC CAPITAL LETTER IZHITSA WITH DOUBLE GRAVE ACCENT",
  "477:0CYRILLIC SMALL LETTER IZHITSA WITH DOUBLE GRAVE ACCENT,1CAPITAL LETTER UK",
  "479:0CYRILLIC SMALL LETTER UK,1CAPITAL LETTER ROUND OMEGA,1SMALL LETTER ROUND OMEGA",
  "47c:0CYRILLIC CAPITAL LETTER OMEGA WITH TITLO,1SMALL LETTER OMEGA WITH TITLO",
  "47e:0CYRILLIC CAPITAL LETTER OT,1SMALL LETTER OT,1CAPITAL LETTER KOPPA,1SMALL LETTER KOPPA",
  "482:0CYRILLIC THOUSANDS SIGN,0COMBINING CYRILLIC TITLO,2PALATALIZATION,2DASIA PNEUMATA",
  "486:0COMBINING CYRILLIC PSILI PNEUMATA,2POKRYTIE,2HUNDRED THOUSANDS SIGN,2MILLIONS SIGN",
  "48a:0CYRILLIC CAPITAL LETTER SHORT I WITH TAIL,1SMALL LETTER SHORT I WITH TAIL",
  "48c:0CYRILLIC CAPITAL LETTER SEMISOFT SIGN,1SMALL LETTER SEMISOFT SIGN",
  "48e:0CYRILLIC CAPITAL LETTER ER WITH TICK,1SMALL LETTER ER WITH TICK",
  "490:0CYRILLIC CAPITAL LETTER GHE WITH UPTURN,1SMALL LETTER GHE WITH UPTURN",
  "492:0CYRILLIC CAPITAL LETTER GHE WITH STROKE,1SMALL LETTER GHE WITH STROKE",
  "494:0CYRILLIC CAPITAL LETTER GHE WITH MIDDLE HOOK,1SMALL LETTER GHE WITH MIDDLE HOOK",
  "496:0CYRILLIC CAPITAL LETTER ZHE WITH DESCENDER,1SMALL LETTER ZHE WITH DESCENDER",
  "498:0CYRILLIC CAPITAL LETTER ZE WITH DESCENDER,1SMALL LETTER ZE WITH DESCENDER",
  "49a:0CYRILLIC CAPITAL LETTER KA WITH DESCENDER,1SMALL LETTER KA WITH DESCENDER",
  "49c:0CYRILLIC CAPITAL LETTER KA WITH VERTICAL STROKE,1SMALL LETTER KA WITH VERTICAL STROKE",
  "49e:0CYRILLIC CAPITAL LETTER KA WITH STROKE,1SMALL LETTER KA WITH STROKE",
  "4a0:0CYRILLIC CAPITAL LETTER BASHKIR KA,1SMALL LETTER BASHKIR KA",
  "4a2:0CYRILLIC CAPITAL LETTER EN WITH DESCENDER,1SMALL LETTER EN WITH DESCENDER",
  "4a4:0CYRILLIC CAPITAL LIGATURE EN GHE,1SMALL LIGATURE EN GHE",
  "4a6:0CYRILLIC CAPITAL LETTER PE WITH MIDDLE HOOK,1SMALL LETTER PE WITH MIDDLE HOOK",
  "4a8:0CYRILLIC CAPITAL LETTER ABKHASIAN HA,1SMALL LETTER ABKHASIAN HA",
  "4aa:0CYRILLIC CAPITAL LETTER ES WITH DESCENDER,1SMALL LETTER ES WITH DESCENDER",
  "4ac:0CYRILLIC CAPITAL LETTER TE WITH DESCENDER,1SMALL LETTER TE WITH DESCENDER",
  "4ae:0CYRILLIC CAPITAL LETTER STRAIGHT U,1SMALL LETTER STRAIGHT U",
  "4b0:0CYRILLIC CAPITAL LETTER STRAIGHT U WITH STROKE,1SMALL LETTER STRAIGHT U WITH STROKE",
  "4b2:0CYRILLIC CAPITAL LETTER HA WITH DESCENDER,1SMALL LETTER HA WITH DESCENDER",
  "4b4:0CYRILLIC CAPITAL LIGATURE TE TSE,1SMALL LIGATURE TE TSE",
  "4b6:0CYRILLIC CAPITAL LETTER CHE WITH DESCENDER,1SMALL LETTER CHE WITH DESCENDER",
  "4b8:0CYRILLIC CAPITAL LETTER CHE WITH VERTICAL STROKE,1SMALL LETTER CHE WITH VERTICAL STROKE",
  "4ba:0CYRILLIC CAPITAL LETTER SHHA,1SMALL LETTER SHHA,1CAPITAL LETTER ABKHASIAN CHE",
  "4bd:0CYRILLIC SMALL LETTER ABKHASIAN CHE,1CAPITAL LETTER ABKHASIAN CHE WITH DESCENDER",
  "4bf:0CYRILLIC SMALL LETTER ABKHASIAN CHE WITH DESCENDER,1LETTER PALOCHKA",
  "4c1:0CYRILLIC CAPITAL LETTER ZHE WITH BREVE,1SMALL LETTER ZHE WITH BREVE",
  "4c3:0CYRILLIC CAPITAL LETTER KA WITH HOOK,1SMALL LETTER KA WITH HOOK",
  "4c5:0CYRILLIC CAPITAL LETTER EL WITH TAIL,1SMALL LETTER EL WITH TAIL",
  "4c7:0CYRILLIC CAPITAL LETTER EN WITH HOOK,1SMALL LETTER EN WITH HOOK",
  "4c9:0CYRILLIC CAPITAL LETTER EN WITH TAIL,1SMALL LETTER EN WITH TAIL",
  "4cb:0CYRILLIC CAPITAL LETTER KHAKASSIAN CHE,1SMALL LETTER KHAKASSIAN CHE",
  "4cd:0CYRILLIC CAPITAL LETTER EM WITH TAIL,1SMALL LETTER EM WITH TAIL,3PALOCHKA",
  "4d0:0CYRILLIC CAPITAL LETTER A WITH BREVE,1SMALL LETTER A WITH BREVE",
  "4d2:0CYRILLIC CAPITAL LETTER A WITH DIAERESIS,1SMALL LETTER A WITH DIAERESIS",
  "4d4:0CYRILLIC CAPITAL LIGATURE A IE,1SMALL LIGATURE A IE,1CAPITAL LETTER IE WITH BREVE",
  "4d7:0CYRILLIC SMALL LETTER IE WITH BREVE,1CAPITAL LETTER SCHWA,1SMALL LETTER SCHWA",
  "4da:0CYRILLIC CAPITAL LETTER SCHWA WITH DIAERESIS,1SMALL LETTER SCHWA WITH DIAERESIS",
  "4dc:0CYRILLIC CAPITAL LETTER ZHE WITH DIAERESIS,1SMALL LETTER ZHE WITH DIAERESIS",
  "4de:0CYRILLIC CAPITAL LETTER ZE WITH DIAERESIS,1SMALL LETTER ZE WITH DIAERESIS",
  "4e0:0CYRILLIC CAPITAL LETTER ABKHASIAN DZE,1SMALL LETTER ABKHASIAN DZE",
  "4e2:0CYRILLIC CAPITAL LETTER I WITH MACRON,1SMALL LETTER I WITH MACRON",
  "4e4:0CYRILLIC CAPITAL LETTER I WITH DIAERESIS,1SMALL LETTER I WITH DIAERESIS",
  "4e6:0CYRILLIC CAPITAL LETTER O WITH DIAERESIS,1SMALL LETTER O WITH DIAERESIS",
  "4e8:0CYRILLIC CAPITAL LETTER BARRED O,1SMALL LETTER BARRED O",
  "4ea:0CYRILLIC CAPITAL LETTER BARRED O WITH DIAERESIS,1SMALL LETTER BARRED O WITH DIAERESIS",
  "4ec:0CYRILLIC CAPITAL LETTER E WITH DIAERESIS,1SMALL LETTER E WITH DIAERESIS",
  "4ee:0CYRILLIC CAPITAL LETTER U WITH MACRON,1SMALL LETTER U WITH MACRON",
  "4f0:0CYRILLIC CAPITAL LETTER U WITH DIAERESIS,1SMALL LETTER U WITH DIAERESIS",
  "4f2:0CYRILLIC CAPITAL LETTER U WITH DOUBLE ACUTE,1SMALL LETTER U WITH DOUBLE ACUTE",
  "4f4:0CYRILLIC CAPITAL LETTER CHE WITH DIAERESIS,1SMALL LETTER CHE WITH DIAERESIS",
  "4f6:0CYRILLIC CAPITAL LETTER GHE WITH DESCENDER,1SMALL LETTER GHE WITH DESCENDER",
  "4f8:0CYRILLIC CAPITAL LETTER YERU WITH DIAERESIS,1SMALL LETTER YERU WITH DIAERESIS",
  "4fa:0CYRILLIC CAPITAL LETTER GHE WITH STROKE AND HOOK,1SMALL LETTER GHE WITH STROKE AND HOOK",
  "4fc:0CYRILLIC CAPITAL LETTER HA WITH HOOK,1SMALL LETTER HA WITH HOOK",
  "4fe:0CYRILLIC CAPITAL LETTER HA WITH STROKE,1SMALL LETTER HA WITH STROKE",
  "500:0CYRILLIC CAPITAL LETTER KOMI DE,1SMALL LETTER KOMI DE,1CAPITAL LETTER KOMI DJE",
  "503:0CYRILLIC SMALL LETTER KOMI DJE,1CAPITAL LETTER KOMI ZJE,1SMALL LETTER KOMI ZJE",
  "506:0CYRILLIC CAPITAL LETTER KOMI DZJE,1SMALL LETTER KOMI DZJE,1CAPITAL LETTER KOMI LJE",
  "509:0CYRILLIC SMALL LETTER KOMI LJE,1CAPITAL LETTER KOMI NJE,1SMALL LETTER KOMI NJE",
  "50c:0CYRILLIC CAPITAL LETTER KOMI SJE,1SMALL LETTER KOMI SJE,1CAPITAL LETTER KOMI TJE",
  "50f:0CYRILLIC SMALL LETTER KOMI TJE,1CAPITAL LETTER REVERSED ZE,1SMALL LETTER REVERSED ZE",
  "512:0CYRILLIC CAPITAL LETTER EL WITH HOOK,1SMALL LETTER EL WITH HOOK,1CAPITAL LETTER LHA",
  "515:0CYRILLIC SMALL LETTER LHA,1CAPITAL LETTER RHA,1SMALL LETTER RHA,1CAPITAL LETTER YAE",
  "519:0CYRILLIC SMALL LETTER YAE,1CAPITAL LETTER QA,1SMALL LETTER QA,1CAPITAL LETTER WE",
  "51d:0CYRILLIC SMALL LETTER WE,1CAPITAL LETTER ALEUT KA,1SMALL LETTER ALEUT KA",
  "520:0CYRILLIC CAPITAL LETTER EL WITH MIDDLE HOOK,1SMALL LETTER EL WITH MIDDLE HOOK",
  "522:0CYRILLIC CAPITAL LETTER EN WITH MIDDLE HOOK,1SMALL LETTER EN WITH MIDDLE HOOK",
  "524:0CYRILLIC CAPITAL LETTER PE WITH DESCENDER,1SMALL LETTER PE WITH DESCENDER",
  "526:0CYRILLIC CAPITAL LETTER SHHA WITH DESCENDER,1SMALL LETTER SHHA WITH DESCENDER",
  "528:0CYRILLIC CAPITAL LETTER EN WITH LEFT HOOK,1SMALL LETTER EN WITH LEFT HOOK",
  "52a:0CYRILLIC CAPITAL LETTER DZZHE,1SMALL LETTER DZZHE,1CAPITAL LETTER DCHE,1SMALL LETTER DCHE",
  "52e:0CYRILLIC CAPITAL LETTER EL WITH DESCENDER,1SMALL LETTER EL WITH DESCENDER",
  "5d0:0HEBREW LETTER ALEF,2BET,2GIMEL,2DALET,2HE,2VAV,2ZAYIN,2HET,2TET,2YOD,2FINAL KAF,2KAF",
  "5dc:0HEBREW LETTER LAMED,2FINAL MEM,2MEM,2FINAL NUN,2NUN,2SAMEKH,2AYIN,2FINAL PE,2PE",
  "5e5:0HEBREW LETTER FINAL TSADI,2TSADI,2QOF,2RESH,2SHIN,2TAV",
  "621:0ARABIC LETTER HAMZA,2ALEF WITH MADDA ABOVE,4HAMZA ABOVE,2WAW WITH HAMZA ABOVE",
  "625:0ARABIC LETTER ALEF WITH HAMZA BELOW,2YEH WITH HAMZA ABOVE,2ALEF,2BEH,2TEH MARBUTA,3,2THEH",
  "62c:0ARABIC LETTER JEEM,2HAH,2KHAH,2DAL,2THAL,2REH,2ZAIN,2SEEN,2SHEEN,2SAD,2DAD,2TAH,2ZAH,2AIN",
  "63a:0ARABIC LETTER GHAIN,2KEHEH WITH TWO DOTS ABOVE,4THREE DOTS BELOW",
  "63d:0ARABIC LETTER FARSI YEH WITH INVERTED V,5TWO DOTS ABOVE,5THREE DOTS ABOVE,1TATWEEL",
  "641:0ARABIC LETTER FEH,2QAF,2KAF,2LAM,2MEEM,2NOON,2HEH,2WAW,2ALEF MAKSURA,2YEH",
  "660:0ARABIC-INDIC DIGIT ZERO,2ONE,2TWO,2THREE,2FOUR,2FIVE,2SIX,2SEVEN,2EIGHT,2NINE",
  "905:0DEVANAGARI LETTER A,2AA,2I,2II,2U,2UU,2VOCALIC R,3L,2CANDRA E,2SHORT E,2E,2AI,2CANDRA O",
  "912:0DEVANAGARI LETTER SHORT O,2O,2AU,2KA,2KHA,2GA,2GHA,2NGA,2CA,2CHA,2JA,2JHA,2NYA,2TTA,2TTHA",
  "921:0DEVANAGARI LETTER DDA,2DDHA,2NNA,2TA,2THA,2DA,2DHA,2NA,2NNNA,2PA,2PHA,2BA,2BHA,2MA,2YA",
  "930:0DEVANAGARI LETTER RA,2RRA,2LA,2LLA,2LLLA,2VA,2SHA,2SSA,2SA,2HA",
  "e01:0THAI CHARACTER KO KAI,2KHO KHAI,3KHUAT,3KHWAI,3KHON,3RAKHANG,2NGO NGU,2CHO CHAN,3CHING",
  "e0a:0THAI CHARACTER CHO CHANG,2SO SO,2CHO CHOE,2YO YING,2DO CHADA,2TO PATAK,2THO THAN",
  "e11:0THAI CHARACTER THO NANGMONTHO,3PHUTHAO,2NO NEN,2DO DEK,2TO TAO,2THO THUNG,3THAHAN,3THONG",
  "e19:0THAI CHARACTER NO NU,2BO BAIMAI,2PO PLA,2PHO PHUNG,2FO FA,2PHO PHAN,2FO FAN,2PHO SAMPHAO",
  "e21:0THAI CHARACTER MO MA,2YO YAK,2RO RUA,2RU,2LO LING,2LU,2WO WAEN,2SO SALA,3RUSI,3SUA",
  "e2b:0THAI CHARACTER HO HIP,2LO CHULA,2O ANG,2HO NOKHUK,2PAIYANNOI,2SARA A,2MAI HAN-AKAT",
  "e32:0THAI CHARACTER SARA AA,3AM,3I,3II,3UE,3UEE,3U,3UU,2PHINTHU",
  "16a0:0RUNIC LETTER FEHU FEOH FE F,2V,2URUZ UR U,2YR,2Y,2W,2THURISAZ THURS THORN,2ETH,2ANSUZ A",
  "16a9:0RUNIC LETTER OS O,2AC A,2AESC,2LONG-BRANCH-OSS O,2SHORT-TWIG-OSS O,2O,2OE,2ON",
  "16b1:0RUNIC LETTER RAIDO RAD REID R,2KAUNA,2CEN,2KAUN K,2G,2ENG,2GEBO GYFU G,2GAR",
  "16b9:0RUNIC LETTER WUNJO WYNN W,2HAGLAZ H,2HAEGL H,2LONG-BRANCH-HAGALL H,2SHORT-TWIG-HAGALL H",
  "16be:0RUNIC LETTER NAUDIZ NYD NAUD N,2SHORT-TWIG-NAUD N,2DOTTED-N,2ISAZ IS ISS I,2E,2JERAN J",
  "16c4:0RUNIC LETTER GER,2LONG-BRANCH-AR AE,2SHORT-TWIG-AR A,2IWAZ EOH,2PERTHO PEORTH P",
  "16c9:0RUNIC LETTER ALGIZ EOLHX,2SOWILO S,2SIGEL LONG-BRANCH-SOL S,2SHORT-TWIG-SOL S,2C,2Z",
  "16cf:0RUNIC LETTER TIWAZ TIR TYR T,2SHORT-TWIG-TYR T,2D,2BERKANAN BEORC BJARKAN B",
  "16d3:0RUNIC LETTER SHORT-TWIG-BJARKAN B,2DOTTED-P,2OPEN-P,2EHWAZ EH E,2MANNAZ MAN M",
  "16d8:0RUNIC LETTER LONG-BRANCH-MADR M,2SHORT-TWIG-MADR M,2LAUKAZ LAGU LOGR L,2DOTTED-L,2INGWAZ",
  "16dd:0RUNIC LETTER ING,2DAGAZ DAEG D,2OTHALAN ETHEL O,2EAR,2IOR,2CWEORTH,2CALC,2CEALC,2STAN",
  "16e6:0RUNIC LETTER LONG-BRANCH-YR,2SHORT-TWIG-YR,2ICELANDIC-YR,2Q,2X,1SINGLE PUNCTUATION",
  "16ec:0RUNIC MULTIPLE PUNCTUATION,1CROSS PUNCTUATION,1ARLAUG SYMBOL,1TVIMADUR SYMBOL",
  "16f0:0RUNIC BELGTHOR SYMBOL",
  "1e00:0LATIN CAPITAL LETTER A WITH RING BELOW,1SMALL LETTER A WITH RING BELOW",
  "1e02:0LATIN CAPITAL LETTER B WITH DOT ABOVE,1SMALL LETTER B WITH DOT ABOVE",
  "1e04:0LATIN CAPITAL LETTER B WITH DOT BELOW,1SMALL LETTER B WITH DOT BELOW",
  "1e06:0LATIN CAPITAL LETTER B WITH LINE BELOW,1SMALL LETTER B WITH LINE BELOW",
  "1e08:0LATIN CAPITAL LETTER C WITH CEDILLA AND ACUTE,1SMALL LETTER C WITH CEDILLA AND ACUTE",
  "1e0a:0LATIN CAPITAL LETTER D WITH DOT ABOVE,1SMALL LETTER D WITH DOT ABOVE",
  "1e0c:0LATIN CAPITAL LETTER D WITH DOT BELOW,1SMALL LETTER D WITH DOT BELOW",
  "1e0e:0LATIN CAPITAL LETTER D WITH LINE BELOW,1SMALL LETTER D WITH LINE BELOW",
  "1e10:0LATIN CAPITAL LETTER D WITH CEDILLA,1SMALL LETTER D WITH CEDILLA",
  "1e12:0LATIN CAPITAL LETTER D WITH CIRCUMFLEX BELOW,1SMALL LETTER D WITH CIRCUMFLEX BELOW",
  "1e14:0LATIN CAPITAL LETTER E WITH MACRON AND GRAVE,1SMALL LETTER E WITH MACRON AND GRAVE",
  "1e16:0LATIN CAPITAL LETTER E WITH MACRON AND ACUTE,1SMALL LETTER E WITH MACRON AND ACUTE",
  "1e18:0LATIN CAPITAL LETTER E WITH CIRCUMFLEX BELOW,1SMALL LETTER E WITH CIRCUMFLEX BELOW",
  "1e1a:0LATIN CAPITAL LETTER E WITH TILDE BELOW,1SMALL LETTER E WITH TILDE BELOW",
  "1e1c:0LATIN CAPITAL LETTER E WITH CEDILLA AND BREVE,1SMALL LETTER E WITH CEDILLA AND BREVE",
  "1e1e:0LATIN CAPITAL LETTER F WITH DOT ABOVE,1SMALL LETTER F WITH DOT ABOVE",
  "1e20:0LATIN CAPITAL LETTER G WITH MACRON,1SMALL LETTER G WITH MACRON",
  "1e22:0LATIN CAPITAL LETTER H WITH DOT ABOVE,1SMALL LETTER H WITH DOT ABOVE",
  "1e24:0LATIN CAPITAL LETTER H WITH DOT BELOW,1SMALL LETTER H WITH DOT BELOW",
  "1e26:0LATIN CAPITAL LETTER H WITH DIAERESIS,1SMALL LETTER H WITH DIAERESIS",
  "1e28:0LATIN CAPITAL LETTER H WITH CEDILLA,1SMALL LETTER H WITH CEDILLA",
  "1e2a:0LATIN CAPITAL LETTER H WITH BREVE BELOW,1SMALL LETTER H WITH BREVE BELOW",
  "1e2c:0LATIN CAPITAL LETTER I WITH TILDE BELOW,1SMALL LETTER I WITH TILDE BELOW",
  "1e2e:0LATIN CAPITAL LETTER I WITH DIAERESIS AND ACUTE,1SMALL LETTER I WITH DIAERESIS AND ACUTE",
  "1e30:0LATIN CAPITAL LETTER K WITH ACUTE,1SMALL LETTER K WITH ACUTE",
  "1e32:0LATIN CAPITAL LETTER K WITH DOT BELOW,1SMALL LETTER K WITH DOT BELOW",
  "1e34:0LATIN CAPITAL LETTER K WITH LINE BELOW,1SMALL LETTER K WITH LINE BELOW",
  "1e36:0LATIN CAPITAL LETTER L WITH DOT BELOW,1SMALL LETTER L WITH DOT BELOW",
  "1e38:0LATIN CAPITAL LETTER L WITH DOT BELOW AND MACRON",
  "1e39:0LATIN SMALL LETTER L WITH DOT BELOW AND MACRON,1CAPITAL LETTER L WITH LINE BELOW",
  "1e3b:0LATIN SMALL LETTER L WITH LINE BELOW,1CAPITAL LETTER L WITH CIRCUMFLEX BELOW",
  "1e3d:0LATIN SMALL LETTER L WITH CIRCUMFLEX BELOW,1CAPITAL LETTER M WITH ACUTE",
  "1e3f:0LATIN SMALL LETTER M WITH ACUTE,1CAPITAL LETTER M WITH DOT ABOVE",
  "1e41:0LATIN SMALL LETTER M WITH DOT ABOVE,1CAPITAL LETTER M WITH DOT BELOW",
  "1e43:0LATIN SMALL LETTER M WITH DOT BELOW,1CAPITAL LETTER N WITH DOT ABOVE",
  "1e45:0LATIN SMALL LETTER N WITH DOT ABOVE,1CAPITAL LETTER N WITH DOT BELOW",
  "1e47:0LATIN SMALL LETTER N WITH DOT BELOW,1CAPITAL LETTER N WITH LINE BELOW",
  "1e49:0LATIN SMALL LETTER N WITH LINE BELOW,1CAPITAL LETTER N WITH CIRCUMFLEX BELOW",
  "1e4b:0LATIN SMALL LETTER N WITH CIRCUMFLEX BELOW,1CAPITAL LETTER O WITH TILDE AND ACUTE",
  "1e4d:0LATIN SMALL LETTER O WITH TILDE AND ACUTE,1CAPITAL LETTER O WITH TILDE AND DIAERESIS",
  "1e4f:0LATIN SMALL LETTER O WITH TILDE AND DIAERESIS,1CAPITAL LETTER O WITH MACRON AND GRAVE",
  "1e51:0LATIN SMALL LETTER O WITH MACRON AND GRAVE,1CAPITAL LETTER O WITH MACRON AND ACUTE",
  "1e53:0LATIN SMALL LETTER O WITH MACRON AND ACUTE,1CAPITAL LETTER P WITH ACUTE",
  "1e55:0LATIN SMALL LETTER P WITH ACUTE,1CAPITAL LETTER P WITH DOT ABOVE",
  "1e57:0LATIN SMALL LETTER P WITH DOT ABOVE,1CAPITAL LETTER R WITH DOT ABOVE",
  "1e59:0LATIN SMALL LETTER R WITH DOT ABOVE,1CAPITAL LETTER R WITH DOT BELOW",
  "1e5b:0LATIN SMALL LETTER R WITH DOT BELOW,1CAPITAL LETTER R WITH DOT BELOW AND MACRON",
  "1e5d:0LATIN SMALL LETTER R WITH DOT BELOW AND MACRON,1CAPITAL LETTER R WITH LINE BELOW",
  "1e5f:0LATIN SMALL LETTER R WITH LINE BELOW,1CAPITAL LETTER S WITH DOT ABOVE",
  "1e61:0LATIN SMALL LETTER S WITH DOT ABOVE,1CAPITAL LETTER S WITH DOT BELOW",
  "1e63:0LATIN SMALL LETTER S WITH DOT BELOW,1CAPITAL LETTER S WITH ACUTE AND DOT ABOVE",
  "1e65:0LATIN SMALL LETTER S WITH ACUTE AND DOT ABOVE,1CAPITAL LETTER S WITH CARON AND DOT ABOVE",
  "1e67:0LATIN SMALL LETTER S WITH CARON AND DOT ABOVE",
  "1e68:0LATIN CAPITAL LETTER S WITH DOT BELOW AND DOT ABOVE",
  "1e69:0LATIN SMALL LETTER S WITH DOT BELOW AND DOT ABOVE,1CAPITAL LETTER T WITH DOT ABOVE",
  "1e6b:0LATIN SMALL LETTER T WITH DOT ABOVE,1CAPITAL LETTER T WITH DOT BELOW",
  "1e6d:0LATIN SMALL LETTER T WITH DOT BELOW,1CAPITAL LETTER T WITH LINE BELOW",
  "1e6f:0LATIN SMALL LETTER T WITH LINE BELOW,1CAPITAL LETTER T WITH CIRCUMFLEX BELOW",
  "1e71:0LATIN SMALL LETTER T WITH CIRCUMFLEX BELOW,1CAPITAL LETTER U WITH DIAERESIS BELOW",
  "1e73:0LATIN SMALL LETTER U WITH DIAERESIS BELOW,1CAPITAL LETTER U WITH TILDE BELOW",
  "1e75:0LATIN SMALL LETTER U WITH TILDE BELOW,1CAPITAL LETTER U WITH CIRCUMFLEX BELOW",
  "1e77:0LATIN SMALL LETTER U WITH CIRCUMFLEX BELOW,1CAPITAL LETTER U WITH TILDE AND ACUTE",
  "1e79:0LATIN SMALL LETTER U WITH TILDE AND ACUTE,1CAPITAL LETTER U WITH MACRON AND DIAERESIS",
  "1e7b:0LATIN SMALL LETTER U WITH MACRON AND DIAERESIS,1CAPITAL LETTER V WITH TILDE",
  "1e7d:0LATIN SMALL LETTER V WITH TILDE,1CAPITAL LETTER V WITH DOT BELOW",
  "1e7f:0LATIN SMALL LETTER V WITH DOT BELOW,1CAPITAL LETTER W WITH GRAVE",
  "1e81:0LATIN SMALL LETTER W WITH GRAVE,1CAPITAL LETTER W WITH ACUTE,1SMALL LETTER W WITH ACUTE",
  "1e84:0LATIN CAPITAL LETTER W WITH DIAERESIS,1SMALL LETTER W WITH DIAERESIS",
  "1e86:0LATIN CAPITAL LETTER W WITH DOT ABOVE,1SMALL LETTER W WITH DOT ABOVE",
  "1e88:0LATIN CAPITAL LETTER W WITH DOT BELOW,1SMALL LETTER W WITH DOT BELOW",
  "1e8a:0LATIN CAPITAL LETTER X WITH DOT ABOVE,1SMALL LETTER X WITH DOT ABOVE",
  "1e8c:0LATIN CAPITAL LETTER X WITH DIAERESIS,1SMALL LETTER X WITH DIAERESIS",
  "1e8e:0LATIN CAPITAL LETTER Y WITH DOT ABOVE,1SMALL LETTER Y WITH DOT ABOVE",
  "1e90:0LATIN CAPITAL LETTER Z WITH CIRCUMFLEX,1SMALL LETTER Z WITH CIRCUMFLEX",
  "1e92:0LATIN CAPITAL LETTER Z WITH DOT BELOW,1SMALL LETTER Z WITH DOT BELOW",
  "1e94:0LATIN CAPITAL LETTER Z WITH LINE BELOW,1SMALL LETTER Z WITH LINE BELOW",
  "1e96:0LATIN SMALL LETTER H WITH LINE BELOW,3T WITH DIAERESIS,3W WITH RING ABOVE",
  "1e99:0LATIN SMALL LETTER Y WITH RING ABOVE,3A WITH RIGHT HALF RING,3LONG S WITH DOT ABOVE",
  "1e9c:0LATIN SMALL LETTER LONG S WITH DIAGONAL STROKE,6HIGH STROKE,1CAPITAL LETTER SHARP S",
  "1e9f:0LATIN SMALL LETTER DELTA,1CAPITAL LETTER A WITH DOT BELOW,1SMALL LETTER A WITH DOT BELOW",
  "1ea2:0LATIN CAPITAL LETTER A WITH HOOK ABOVE,1SMALL LETTER A WITH HOOK ABOVE",
  "1ea4:0LATIN CAPITAL LETTER A WITH CIRCUMFLEX AND ACUTE",
  "1ea5:0LATIN SMALL LETTER A WITH CIRCUMFLEX AND ACUTE",
  "1ea6:0LATIN CAPITAL LETTER A WITH CIRCUMFLEX AND GRAVE",
  "1ea7:0LATIN SMALL LETTER A WITH CIRCUMFLEX AND GRAVE",
  "1ea8:0LATIN CAPITAL LETTER A WITH CIRCUMFLEX AND HOOK ABOVE",
  "1ea9:0LATIN SMALL LETTER A WITH CIRCUMFLEX AND HOOK ABOVE",
  "1eaa:0LATIN CAPITAL LETTER A WITH CIRCUMFLEX AND TILDE",
  "1eab:0LATIN SMALL LETTER A WITH CIRCUMFLEX AND TILDE",
  "1eac:0LATIN CAPITAL LETTER A WITH CIRCUMFLEX AND DOT BELOW",
  "1ead:0LATIN SMALL LETTER A WITH CIRCUMFLEX AND DOT BELOW",
  "1eae:0LATIN CAPITAL LETTER A WITH BREVE AND ACUTE,1SMALL LETTER A WITH BREVE AND ACUTE",
  "1eb0:0LATIN CAPITAL LETTER A WITH BREVE AND GRAVE,1SMALL LETTER A WITH BREVE AND GRAVE",
  "1eb2:0LATIN CAPITAL LETTER A WITH BREVE AND HOOK ABOVE",
  "1eb3:0LATIN SMALL LETTER A WITH BREVE AND HOOK ABOVE,1CAPITAL LETTER A WITH BREVE AND TILDE",
  "1eb5:0LATIN SMALL LETTER A WITH BREVE AND TILDE,1CAPITAL LETTER A WITH BREVE AND DOT BELOW",
  "1eb7:0LATIN SMALL LETTER A WITH BREVE AND DOT BELOW,1CAPITAL LETTER E WITH DOT BELOW",
  "1eb9:0LATIN SMALL LETTER E WITH DOT BELOW,1CAPITAL LETTER E WITH HOOK ABOVE",
  "1ebb:0LATIN SMALL LETTER E WITH HOOK ABOVE,1CAPITAL LETTER E WITH TILDE",
  "1ebd:0LATIN SMALL LETTER E WITH TILDE,1CAPITAL LETTER E WITH CIRCUMFLEX AND ACUTE",
  "1ebf:0LATIN SMALL LETTER E WITH CIRCUMFLEX AND ACUTE",
  "1ec0:0LATIN CAPITAL LETTER E WITH CIRCUMFLEX AND GRAVE",
  "1ec1:0LATIN SMALL LETTER E WITH CIRCUMFLEX AND GRAVE",
  "1ec2:0LATIN CAPITAL LETTER E WITH CIRCUMFLEX AND HOOK ABOVE",
  "1ec3:0LATIN SMALL LETTER E WITH CIRCUMFLEX AND HOOK ABOVE",
  "1ec4:0LATIN CAPITAL LETTER E WITH CIRCUMFLEX AND TILDE",
  "1ec5:0LATIN SMALL LETTER E WITH CIRCUMFLEX AND TILDE",
  "1ec6:0LATIN CAPITAL LETTER E WITH CIRCUMFLEX AND DOT BELOW",
  "1ec7:0LATIN SMALL LETTER E WITH CIRCUMFLEX AND DOT BELOW,1CAPITAL LETTER I WITH HOOK ABOVE",
  "1ec9:0LATIN SMALL LETTER I WITH HOOK ABOVE,1CAPITAL LETTER I WITH DOT BELOW",
  "1ecb:0LATIN SMALL LETTER I WITH DOT BELOW,1CAPITAL LETTER O WITH DOT BELOW",
  "1ecd:0LATIN SMALL LETTER O WITH DOT BELOW,1CAPITAL LETTER O WITH HOOK ABOVE",
  "1ecf:0LATIN SMALL LETTER O WITH HOOK ABOVE,1CAPITAL LETTER O WITH CIRCUMFLEX AND ACUTE",
  "1ed1:0LATIN SMALL LETTER O WITH CIRCUMFLEX AND ACUTE",
  "1ed2:0LATIN CAPITAL LETTER O WITH CIRCUMFLEX AND GRAVE",
  "1ed3:0LATIN SMALL LETTER O WITH CIRCUMFLEX AND GRAVE",
  "1ed4:0LATIN CAPITAL LETTER O WITH CIRCUMFLEX AND HOOK ABOVE",
  "1ed5:0LATIN SMALL LETTER O WITH CIRCUMFLEX AND HOOK ABOVE",
  "1ed6:0LATIN CAPITAL LETTER O WITH CIRCUMFLEX AND TILDE",
  "1ed7:0LATIN SMALL LETTER O WITH CIRCUMFLEX AND TILDE",
  "1ed8:0LATIN CAPITAL LETTER O WITH CIRCUMFLEX AND DOT BELOW",
  "1ed9:0LATIN SMALL LETTER O WITH CIRCUMFLEX AND DOT BELOW,1CAPITAL LETTER O WITH HORN AND ACUTE",
  "1edb:0LATIN SMALL LETTER O WITH HORN AND ACUTE,1CAPITAL LETTER O WITH HORN AND GRAVE",
  "1edd:0LATIN SMALL LETTER O WITH HORN AND GRAVE,1CAPITAL LETTER O WITH HORN AND HOOK ABOVE",
  "1edf:0LATIN SMALL LETTER O WITH HORN AND HOOK ABOVE,1CAPITAL LETTER O WITH HORN AND TILDE",
  "1ee1:0LATIN SMALL LETTER O WITH HORN AND TILDE,1CAPITAL LETTER O WITH HORN AND DOT BELOW",
  "1ee3:0LATIN SMALL LETTER O WITH HORN AND DOT BELOW,1CAPITAL LETTER U WITH DOT BELOW",
  "1ee5:0LATIN SMALL LETTER U WITH DOT BELOW,1CAPITAL LETTER U WITH HOOK ABOVE",
  "1ee7:0LATIN SMALL LETTER U WITH HOOK ABOVE,1CAPITAL LETTER U WITH HORN AND ACUTE",
  "1ee9:0LATIN SMALL LETTER U WITH HORN AND ACUTE,1CAPITAL LETTER U WITH HORN AND GRAVE",
  "1eeb:0LATIN SMALL LETTER U WITH HORN AND GRAVE,1CAPITAL LETTER U WITH HORN AND HOOK ABOVE",
  "1eed:0LATIN SMALL LETTER U WITH HORN AND HOOK ABOVE,1CAPITAL LETTER U WITH HORN AND TILDE",
  "1eef:0LATIN SMALL LETTER U WITH HORN AND TILDE,1CAPITAL LETTER U WITH HORN AND DOT BELOW",
  "1ef1:0LATIN SMALL LETTER U WITH HORN AND DOT BELOW,1CAPITAL LETTER Y WITH GRAVE",
  "1ef3:0LATIN SMALL LETTER Y WITH GRAVE,1CAPITAL LETTER Y WITH DOT BELOW",
  "1ef5:0LATIN SMALL LETTER Y WITH DOT BELOW,1CAPITAL LETTER Y WITH HOOK ABOVE",
  "1ef7:0LATIN SMALL LETTER Y WITH HOOK ABOVE,1CAPITAL LETTER Y WITH TILDE",
  "1ef9:0LATIN SMALL LETTER Y WITH TILDE,1CAPITAL LETTER MIDDLE-WELSH LL",
  "1efb:0LATIN SMALL LETTER MIDDLE-WELSH LL,1CAPITAL LETTER MIDDLE-WELSH V",
  "1efd:0LATIN SMALL LETTER MIDDLE-WELSH V,1CAPITAL LETTER Y WITH LOOP,1SMALL LETTER Y WITH LOOP",
  "2000:0EN QUAD,0EM QUAD,0EN SPACE,0EM SPACE,0THREE-PER-EM SPACE,0FOUR-PER-EM SPACE",
  "2006:0SIX-PER-EM SPACE,0FIGURE SPACE,0PUNCTUATION SPACE,0THIN SPACE,0HAIR SPACE",
  "200b:0ZERO WIDTH SPACE,2NON-JOINER,2JOINER,0LEFT-TO-RIGHT MARK,0RIGHT-TO-LEFT MARK,0HYPHEN",
  "2011:0NON-BREAKING HYPHEN,0FIGURE DASH,0EN DASH,0EM DASH,0HORIZONTAL BAR,0DOUBLE VERTICAL LINE",
  "2017:0DOUBLE LOW LINE,0LEFT SINGLE QUOTATION MARK,0RIGHT SINGLE QUOTATION MARK",
  "201a:0SINGLE LOW-9 QUOTATION MARK,1HIGH-REVERSED-9 QUOTATION MARK,0LEFT DOUBLE QUOTATION MARK",
  "201d:0RIGHT DOUBLE QUOTATION MARK,0DOUBLE LOW-9 QUOTATION MARK,1HIGH-REVERSED-9 QUOTATION MARK",
  "2020:0DAGGER,0DOUBLE DAGGER,0BULLET,0TRIANGULAR BULLET,0ONE DOT LEADER,0TWO DOT LEADER",
  "2026:0HORIZONTAL ELLIPSIS,0HYPHENATION POINT,0LINE SEPARATOR,0PARAGRAPH SEPARATOR",
  "202a:0LEFT-TO-RIGHT EMBEDDING,0RIGHT-TO-LEFT EMBEDDING,0POP DIRECTIONAL FORMATTING",
  "202d:0LEFT-TO-RIGHT OVERRIDE,0RIGHT-TO-LEFT OVERRIDE,0NARROW NO-BREAK SPACE,0PER MILLE SIGN",
  "2031:0PER TEN THOUSAND SIGN,0PRIME,0DOUBLE PRIME,0TRIPLE PRIME,0REVERSED PRIME,1DOUBLE PRIME",
  "2037:0REVERSED TRIPLE PRIME,0CARET,0SINGLE LEFT-POINTING ANGLE QUOTATION MARK",
  "203a:0SINGLE RIGHT-POINTING ANGLE QUOTATION MARK,0REFERENCE MARK,0DOUBLE EXCLAMATION MARK",
  "203d:0INTERROBANG,0OVERLINE,0UNDERTIE,0CHARACTER TIE,0CARET INSERTION POINT,0ASTERISM",
  "2043:0HYPHEN BULLET,0FRACTION SLASH,0LEFT SQUARE BRACKET WITH QUILL",
  "2046:0RIGHT SQUARE BRACKET WITH QUILL,0DOUBLE QUESTION MARK,0QUESTION EXCLAMATION MARK",
  "2049:0EXCLAMATION QUESTION MARK,0TIRONIAN SIGN ET,0REVERSED PILCROW SIGN",
  "204c:0BLACK LEFTWARDS BULLET,1RIGHTWARDS BULLET,0LOW ASTERISK,0REVERSED SEMICOLON,0CLOSE UP",
  "2051:0TWO ASTERISKS ALIGNED VERTICALLY,0COMMERCIAL MINUS SIGN,0SWUNG DASH,0INVERTED UNDERTIE",
  "2055:0FLOWER PUNCTUATION MARK,0THREE DOT PUNCTUATION,0QUADRUPLE PRIME,0FOUR DOT PUNCTUATION",
  "2059:0FIVE DOT PUNCTUATION,0TWO DOT PUNCTUATION,0FOUR DOT MARK,0DOTTED CROSS,0TRICOLON",
  "205e:0VERTICAL FOUR DOTS,0MEDIUM MATHEMATICAL SPACE,0WORD JOINER,0FUNCTION APPLICATION",
  "2062:0INVISIBLE TIMES,1SEPARATOR,1PLUS",
  "2066:0LEFT-TO-RIGHT ISOLATE,0RIGHT-TO-LEFT ISOLATE,0FIRST STRONG ISOLATE",
  "2069:0POP DIRECTIONAL ISOLATE,0INHIBIT SYMMETRIC SWAPPING,0ACTIVATE SYMMETRIC SWAPPING",
  "206c:0INHIBIT ARABIC FORM SHAPING,0ACTIVATE ARABIC FORM SHAPING,0NATIONAL DIGIT SHAPES",
  "206f:0NOMINAL DIGIT SHAPES,0SUPERSCRIPT ZERO,1LATIN SMALL LETTER I",
  "2074:0SUPERSCRIPT FOUR,1FIVE,1SIX,1SEVEN,1EIGHT,1NINE,1PLUS SIGN,1MINUS,1EQUALS SIGN",
  "207d:0SUPERSCRIPT LEFT PARENTHESIS,1RIGHT PARENTHESIS,1LATIN SMALL LETTER N,0SUBSCRIPT ZERO",
  "2081:0SUBSCRIPT ONE,1TWO,1THREE,1FOUR,1FIVE,1SIX,1SEVEN,1EIGHT,1NINE,1PLUS SIGN,1MINUS",
  "208c:0SUBSCRIPT EQUALS SIGN,1LEFT PARENTHESIS,1RIGHT PARENTHESIS",
  "2090:0LATIN SUBSCRIPT SMALL LETTER A,4E,4O,4X,4SCHWA,4H,4K,4L,4M,4N,4P,4S,4T",
  "20a0:0EURO-CURRENCY SIGN,0COLON SIGN,0CRUZEIRO SIGN,0FRENCH FRANC SIGN,0LIRA SIGN,0MILL SIGN",
  "20a6:0NAIRA SIGN,0PESETA SIGN,0RUPEE SIGN,0WON SIGN,0NEW SHEQEL SIGN,0DONG SIGN,0EURO SIGN",
  "20ad:0KIP SIGN,0TUGRIK SIGN,0DRACHMA SIGN,0GERMAN PENNY SIGN,0PESO SIGN,0GUARANI SIGN",
  "20b3:0AUSTRAL SIGN,0HRYVNIA SIGN,0CEDI SIGN,0LIVRE TOURNOIS SIGN,0SPESMILO SIGN,0TENGE SIGN",
  "20b9:0INDIAN RUPEE SIGN,0TURKISH LIRA SIGN,0NORDIC MARK SIGN,0MANAT SIGN,0RUBLE SIGN",
  "20be:0LARI SIGN,0BITCOIN SIGN,0SOM SIGN",
  "2100:0ACCOUNT OF,0ADDRESSED TO THE SUBJECT,0DOUBLE-STRUCK CAPITAL C,0DEGREE CELSIUS",
  "2104:0CENTRE LINE SYMBOL,0CARE OF,0CADA UNA,0EULER CONSTANT,0SCRUPLE,0DEGREE FAHRENHEIT",
  "210a:0SCRIPT SMALL G,1CAPITAL H,0BLACK-LETTER CAPITAL H,0DOUBLE-STRUCK CAPITAL H",
  "210e:0PLANCK CONSTANT,2OVER TWO PI,0SCRIPT CAPITAL I,0BLACK-LETTER CAPITAL I,0SCRIPT CAPITAL L",
  "2113:0SCRIPT SMALL L,0L B BAR SYMBOL,0DOUBLE-STRUCK CAPITAL N,0NUMERO SIGN",
  "2117:0SOUND RECORDING COPYRIGHT,0SCRIPT CAPITAL P,0DOUBLE-STRUCK CAPITAL P,2Q",
  "211b:0SCRIPT CAPITAL R,0BLACK-LETTER CAPITAL R,0DOUBLE-STRUCK CAPITAL R,0PRESCRIPTION TAKE",
  "211f:0RESPONSE,0SERVICE MARK,0TELEPHONE SIGN,0TRADE MARK SIGN,0VERSICLE",
  "2124:0DOUBLE-STRUCK CAPITAL Z,0OUNCE SIGN,0OHM SIGN,0INVERTED OHM SIGN,0BLACK-LETTER CAPITAL Z",
  "2129:0TURNED GREEK SMALL LETTER IOTA,0KELVIN SIGN,0ANGSTROM SIGN,0SCRIPT CAPITAL B",
  "212d:0BLACK-LETTER CAPITAL C,0ESTIMATED SYMBOL,0SCRIPT SMALL E,1CAPITAL E,2F,0TURNED CAPITAL F",
  "2133:0SCRIPT CAPITAL M,1SMALL O,0ALEF SYMBOL,0BET SYMBOL,0GIMEL SYMBOL,0DALET SYMBOL",
  "2139:0INFORMATION SOURCE,0ROTATED CAPITAL Q,0FACSIMILE SIGN,0DOUBLE-STRUCK SMALL PI,2GAMMA",
  "213e:0DOUBLE-STRUCK CAPITAL GAMMA,2PI,1N-ARY SUMMATION,0TURNED SANS-SERIF CAPITAL G,3L",
  "2143:0REVERSED SANS-SERIF CAPITAL L,0TURNED SANS-SERIF CAPITAL Y",
  "2145:0DOUBLE-STRUCK ITALIC CAPITAL D,2SMALL D,3E,3I,3J,0PROPERTY LINE,0TURNED AMPERSAND",
  "214c:0PER SIGN,0AKTIESELSKAB,0TURNED SMALL F,0SYMBOL FOR SAMARITAN SOURCE",
  "2150:0VULGAR FRACTION ONE SEVENTH,3NINTH,3TENTH,3THIRD,2TWO THIRDS,2ONE FIFTH,2TWO FIFTHS",
  "2157:0VULGAR FRACTION THREE FIFTHS,2FOUR FIFTHS,2ONE SIXTH,2FIVE SIXTHS,2ONE EIGHTH",
  "215c:0VULGAR FRACTION THREE EIGHTHS,2FIVE EIGHTHS,2SEVEN EIGHTHS,0FRACTION NUMERATOR ONE",
  "2160:0ROMAN NUMERAL ONE,2TWO,2THREE,2FOUR,2FIVE,2SIX,2SEVEN,2EIGHT,2NINE,2TEN,2ELEVEN,2TWELVE",
  "216c:0ROMAN NUMERAL FIFTY,2ONE HUNDRED,2FIVE HUNDRED,2ONE THOUSAND,0SMALL ROMAN NUMERAL ONE",
  "2171:0SMALL ROMAN NUMERAL TWO,3THREE,3FOUR,3FIVE,3SIX,3SEVEN,3EIGHT,3NINE,3TEN,3ELEVEN,3TWELVE",
  "217c:0SMALL ROMAN NUMERAL FIFTY,3ONE HUNDRED,3FIVE HUNDRED,3ONE THOUSAND",
  "2180:0ROMAN NUMERAL ONE THOUSAND C D,2FIVE THOUSAND,2TEN THOUSAND,2REVERSED ONE HUNDRED",
  "2184:0LATIN SMALL LETTER REVERSED C,0ROMAN NUMERAL SIX LATE FORM,2FIFTY EARLY FORM,3THOUSAND",
  "2188:0ROMAN NUMERAL ONE HUNDRED THOUSAND,0VULGAR FRACTION ZERO THIRDS,0TURNED DIGIT TWO,2THREE",
  "2190:0LEFTWARDS ARROW,0UPWARDS ARROW,0RIGHTWARDS ARROW,0DOWNWARDS ARROW,0LEFT RIGHT ARROW",
  "2195:0UP DOWN ARROW,0NORTH WEST ARROW,1EAST ARROW,0SOUTH EAST ARROW,1WEST ARROW",
  "219a:0LEFTWARDS ARROW WITH STROKE,0RIGHTWARDS ARROW WITH STROKE,0LEFTWARDS WAVE ARROW",
  "219d:0RIGHTWARDS WAVE ARROW,0LEFTWARDS TWO HEADED ARROW,0UPWARDS TWO HEADED ARROW",
  "21a0:0RIGHTWARDS TWO HEADED ARROW,0DOWNWARDS TWO HEADED ARROW,0LEFTWARDS ARROW WITH TAIL",
  "21a3:0RIGHTWARDS ARROW WITH TAIL,0LEFTWARDS ARROW FROM BAR,0UPWARDS ARROW FROM BAR",
  "21a6:0RIGHTWARDS ARROW FROM BAR,0DOWNWARDS ARROW FROM BAR,0UP DOWN ARROW WITH BASE",
  "21a9:0LEFTWARDS ARROW WITH HOOK,0RIGHTWARDS ARROW WITH HOOK,0LEFTWARDS ARROW WITH LOOP",
  "21ac:0RIGHTWARDS ARROW WITH LOOP,0LEFT RIGHT WAVE ARROW,2ARROW WITH STROKE",
  "21af:0DOWNWARDS ZIGZAG ARROW,0UPWARDS ARROW WITH TIP LEFTWARDS,4RIGHTWARDS",
  "21b2:0DOWNWARDS ARROW WITH TIP LEFTWARDS,4RIGHTWARDS,0RIGHTWARDS ARROW WITH CORNER DOWNWARDS",
  "21b5:0DOWNWARDS ARROW WITH CORNER LEFTWARDS,0ANTICLOCKWISE TOP SEMICIRCLE ARROW",
  "21b7:0CLOCKWISE TOP SEMICIRCLE ARROW,0NORTH WEST ARROW TO LONG BAR",
  "21b9:0LEFTWARDS ARROW TO BAR OVER RIGHTWARDS ARROW TO BAR,0ANTICLOCKWISE OPEN CIRCLE ARROW",
  "21bb:0CLOCKWISE OPEN CIRCLE ARROW,0LEFTWARDS HARPOON WITH BARB UPWARDS,4DOWNWARDS",
  "21be:0UPWARDS HARPOON WITH BARB RIGHTWARDS,4LEFTWARDS,0RIGHTWARDS HARPOON WITH BARB UPWARDS",
  "21c1:0RIGHTWARDS HARPOON WITH BARB DOWNWARDS,0DOWNWARDS HARPOON WITH BARB RIGHTWARDS",
  "21c3:0DOWNWARDS HARPOON WITH BARB LEFTWARDS,0RIGHTWARDS ARROW OVER LEFTWARDS ARROW",
  "21c5:0UPWARDS ARROW LEFTWARDS OF DOWNWARDS ARROW,0LEFTWARDS ARROW OVER RIGHTWARDS ARROW",
  "21c7:0LEFTWARDS PAIRED ARROWS,0UPWARDS PAIRED ARROWS,0RIGHTWARDS PAIRED ARROWS",
  "21ca:0DOWNWARDS PAIRED ARROWS,0LEFTWARDS HARPOON OVER RIGHTWARDS HARPOON",
  "21cc:0RIGHTWARDS HARPOON OVER LEFTWARDS HARPOON,0LEFTWARDS DOUBLE ARROW WITH STROKE",
  "21ce:0LEFT RIGHT DOUBLE ARROW WITH STROKE,0RIGHTWARDS DOUBLE ARROW WITH STROKE",
  "21d0:0LEFTWARDS DOUBLE ARROW,0UPWARDS DOUBLE ARROW,0RIGHTWARDS DOUBLE ARROW",
  "21d3:0DOWNWARDS DOUBLE ARROW,0LEFT RIGHT DOUBLE ARROW,0UP DOWN DOUBLE ARROW",
  "21d6:0NORTH WEST DOUBLE ARROW,1EAST DOUBLE ARROW,0SOUTH EAST DOUBLE ARROW,1WEST DOUBLE ARROW",
  "21da:0LEFTWARDS TRIPLE ARROW,0RIGHTWARDS TRIPLE ARROW,0LEFTWARDS SQUIGGLE ARROW",
  "21dd:0RIGHTWARDS SQUIGGLE ARROW,0UPWARDS ARROW WITH DOUBLE STROKE",
  "21df:0DOWNWARDS ARROW WITH DOUBLE STROKE,0LEFTWARDS DASHED ARROW,0UPWARDS DASHED ARROW",
  "21e2:0RIGHTWARDS DASHED ARROW,0DOWNWARDS DASHED ARROW,0LEFTWARDS ARROW TO BAR",
  "21e5:0RIGHTWARDS ARROW TO BAR,0LEFTWARDS WHITE ARROW,0UPWARDS WHITE ARROW",
  "21e8:0RIGHTWARDS WHITE ARROW,0DOWNWARDS WHITE ARROW,0UPWARDS WHITE ARROW FROM BAR,3ON PEDESTAL",
  "21ec:0UPWARDS WHITE ARROW ON PEDESTAL WITH HORIZONTAL BAR,6VERTICAL BAR,2DOUBLE ARROW",
  "21ef:0UPWARDS WHITE DOUBLE ARROW ON PEDESTAL,0RIGHTWARDS WHITE ARROW FROM WALL",
  "21f1:0NORTH WEST ARROW TO CORNER,0SOUTH EAST ARROW TO CORNER,0UP DOWN WHITE ARROW",
  "21f4:0RIGHT ARROW WITH SMALL CIRCLE,0DOWNWARDS ARROW LEFTWARDS OF UPWARDS ARROW",
  "21f6:0THREE RIGHTWARDS ARROWS,0LEFTWARDS ARROW WITH VERTICAL STROKE",
  "21f8:0RIGHTWARDS ARROW WITH VERTICAL STROKE,0LEFT RIGHT ARROW WITH VERTICAL STROKE",
  "21fa:0LEFTWARDS ARROW WITH DOUBLE VERTICAL STROKE",
  "21fb:0RIGHTWARDS ARROW WITH DOUBLE VERTICAL STROKE",
  "21fc:0LEFT RIGHT ARROW WITH DOUBLE VERTICAL STROKE,0LEFTWARDS OPEN-HEADED ARROW",
  "21fe:0RIGHTWARDS OPEN-HEADED ARROW,0LEFT RIGHT OPEN-HEADED ARROW,0FOR ALL,0COMPLEMENT",
  "2202:0PARTIAL DIFFERENTIAL,0THERE EXISTS,1DOES NOT EXIST,0EMPTY SET,0INCREMENT,0NABLA",
  "2208:0ELEMENT OF,0NOT AN ELEMENT OF,0SMALL ELEMENT OF,0CONTAINS AS MEMBER",
  "220c:0DOES NOT CONTAIN AS MEMBER,0SMALL CONTAINS AS MEMBER,0END OF PROOF,0N-ARY PRODUCT",
  "2210:0N-ARY COPRODUCT,1SUMMATION,0MINUS SIGN,0MINUS-OR-PLUS SIGN,0DOT PLUS,0DIVISION SLASH",
  "2216:0SET MINUS,0ASTERISK OPERATOR,0RING OPERATOR,0BULLET OPERATOR,0SQUARE ROOT,0CUBE ROOT",
  "221c:0FOURTH ROOT,0PROPORTIONAL TO,0INFINITY,0RIGHT ANGLE,0ANGLE,0MEASURED ANGLE",
  "2222:0SPHERICAL ANGLE,0DIVIDES,0DOES NOT DIVIDE,0PARALLEL TO,0NOT PARALLEL TO,0LOGICAL AND,1OR",
  "2229:0INTERSECTION,0UNION,0INTEGRAL,0DOUBLE INTEGRAL,0TRIPLE INTEGRAL,0CONTOUR INTEGRAL",
  "222f:0SURFACE INTEGRAL,0VOLUME INTEGRAL,0CLOCKWISE INTEGRAL,1CONTOUR INTEGRAL",
  "2233:0ANTICLOCKWISE CONTOUR INTEGRAL,0THEREFORE,0BECAUSE,0RATIO,0PROPORTION,0DOT MINUS,0EXCESS",
  "223a:0GEOMETRIC PROPORTION,0HOMOTHETIC,0TILDE OPERATOR,0REVERSED TILDE,0INVERTED LAZY S",
  "223f:0SINE WAVE,0WREATH PRODUCT,0NOT TILDE,0MINUS TILDE,0ASYMPTOTICALLY EQUAL TO",
  "2244:0NOT ASYMPTOTICALLY EQUAL TO,0APPROXIMATELY EQUAL TO,1BUT NOT ACTUALLY EQUAL TO",
  "2247:0NEITHER APPROXIMATELY NOR ACTUALLY EQUAL TO,0ALMOST EQUAL TO,0NOT ALMOST EQUAL TO",
  "224a:0ALMOST EQUAL OR EQUAL TO,0TRIPLE TILDE,0ALL EQUAL TO,0EQUIVALENT TO",
  "224e:0GEOMETRICALLY EQUIVALENT TO,0DIFFERENCE BETWEEN,0APPROACHES THE LIMIT",
  "2251:0GEOMETRICALLY EQUAL TO,0APPROXIMATELY EQUAL TO OR THE IMAGE OF",
  "2253:0IMAGE OF OR APPROXIMATELY EQUAL TO,0COLON EQUALS,0EQUALS COLON,0RING IN EQUAL TO",
  "2257:0RING EQUAL TO,0CORRESPONDS TO,0ESTIMATES,0EQUIANGULAR TO,0STAR EQUALS,0DELTA EQUAL TO",
  "225d:0EQUAL TO BY DEFINITION,0MEASURED BY,0QUESTIONED EQUAL TO,0NOT EQUAL TO,0IDENTICAL TO",
  "2262:0NOT IDENTICAL TO,0STRICTLY EQUIVALENT TO,0LESS-THAN OR EQUAL TO",
  "2265:0GREATER-THAN OR EQUAL TO,0LESS-THAN OVER EQUAL TO,0GREATER-THAN OVER EQUAL TO",
  "2268:0LESS-THAN BUT NOT EQUAL TO,0GREATER-THAN BUT NOT EQUAL TO,0MUCH LESS-THAN,1GREATER-THAN",
  "226c:0BETWEEN,0NOT EQUIVALENT TO,1LESS-THAN,1GREATER-THAN,0NEITHER LESS-THAN NOR EQUAL TO",
  "2271:0NEITHER GREATER-THAN NOR EQUAL TO,0LESS-THAN OR EQUIVALENT TO",
  "2273:0GREATER-THAN OR EQUIVALENT TO,0NEITHER LESS-THAN NOR EQUIVALENT TO",
  "2275:0NEITHER GREATER-THAN NOR EQUIVALENT TO,0LESS-THAN OR GREATER-THAN",
  "2277:0GREATER-THAN OR LESS-THAN,0NEITHER LESS-THAN NOR GREATER-THAN",
  "2279:0NEITHER GREATER-THAN NOR LESS-THAN,0PRECEDES,0SUCCEEDS,0PRECEDES OR EQUAL TO",
  "227d:0SUCCEEDS OR EQUAL TO,0PRECEDES OR EQUIVALENT TO,0SUCCEEDS OR EQUIVALENT TO",
  "2280:0DOES NOT PRECEDE,2SUCCEED,0SUBSET OF,0SUPERSET OF,0NOT A SUBSET OF,2SUPERSET OF",
  "2286:0SUBSET OF OR EQUAL TO,0SUPERSET OF OR EQUAL TO,0NEITHER A SUBSET OF NOR EQUAL TO",
  "2289:0NEITHER A SUPERSET OF NOR EQUAL TO,0SUBSET OF WITH NOT EQUAL TO",
  "228b:0SUPERSET OF WITH NOT EQUAL TO,0MULTISET,1MULTIPLICATION,1UNION,0SQUARE IMAGE OF",
  "2290:0SQUARE ORIGINAL OF,1IMAGE OF OR EQUAL TO,1ORIGINAL OF OR EQUAL TO,1CAP,1CUP",
  "2295:0CIRCLED PLUS,1MINUS,1TIMES,1DIVISION SLASH,1DOT OPERATOR,1RING OPERATOR",
  "229b:0CIRCLED ASTERISK OPERATOR,1EQUALS,1DASH,0SQUARED PLUS,1MINUS,1TIMES,1DOT OPERATOR",
  "22a2:0RIGHT TACK,0LEFT TACK,0DOWN TACK,0UP TACK,0ASSERTION,0MODELS,0TRUE,0FORCES",
  "22aa:0TRIPLE VERTICAL BAR RIGHT TURNSTILE,0DOUBLE VERTICAL BAR DOUBLE RIGHT TURNSTILE",
  "22ac:0DOES NOT PROVE,0NOT TRUE,0DOES NOT FORCE",
  "22af:0NEGATED DOUBLE VERTICAL BAR DOUBLE RIGHT TURNSTILE,0PRECEDES UNDER RELATION",
  "22b1:0SUCCEEDS UNDER RELATION,0NORMAL SUBGROUP OF,0CONTAINS AS NORMAL SUBGROUP",
  "22b4:0NORMAL SUBGROUP OF OR EQUAL TO,0CONTAINS AS NORMAL SUBGROUP OR EQUAL TO,0ORIGINAL OF",
  "22b7:0IMAGE OF,0MULTIMAP,0HERMITIAN CONJUGATE MATRIX,0INTERCALATE,0XOR,0NAND,0NOR",
  "22be:0RIGHT ANGLE WITH ARC,1TRIANGLE,0N-ARY LOGICAL AND,2OR,1INTERSECTION,1UNION",
  "22c4:0DIAMOND OPERATOR,0DOT OPERATOR,0STAR OPERATOR,0DIVISION TIMES,0BOWTIE",
  "22c9:0LEFT NORMAL FACTOR SEMIDIRECT PRODUCT,0RIGHT NORMAL FACTOR SEMIDIRECT PRODUCT",
  "22cb:0LEFT SEMIDIRECT PRODUCT,0RIGHT SEMIDIRECT PRODUCT,0REVERSED TILDE EQUALS",
  "22ce:0CURLY LOGICAL OR,2AND,0DOUBLE SUBSET,1SUPERSET,1INTERSECTION,1UNION,0PITCHFORK",
  "22d5:0EQUAL AND PARALLEL TO,0LESS-THAN WITH DOT,0GREATER-THAN WITH DOT,0VERY MUCH LESS-THAN",
  "22d9:0VERY MUCH GREATER-THAN,0LESS-THAN EQUAL TO OR GREATER-THAN",
  "22db:0GREATER-THAN EQUAL TO OR LESS-THAN,0EQUAL TO OR LESS-THAN,3GREATER-THAN,3PRECEDES",
  "22df:0EQUAL TO OR SUCCEEDS,0DOES NOT PRECEDE OR EQUAL,2SUCCEED OR EQUAL",
  "22e2:0NOT SQUARE IMAGE OF OR EQUAL TO,2ORIGINAL OF OR EQUAL TO",
  "22e4:0SQUARE IMAGE OF OR NOT EQUAL TO,1ORIGINAL OF OR NOT EQUAL TO",
  "22e6:0LESS-THAN BUT NOT EQUIVALENT TO,0GREATER-THAN BUT NOT EQUIVALENT TO",
  "22e8:0PRECEDES BUT NOT EQUIVALENT TO,0SUCCEEDS BUT NOT EQUIVALENT TO,0NOT NORMAL SUBGROUP OF",
  "22eb:0DOES NOT CONTAIN AS NORMAL SUBGROUP,0NOT NORMAL SUBGROUP OF OR EQUAL TO",
  "22ed:0DOES NOT CONTAIN AS NORMAL SUBGROUP OR EQUAL,0VERTICAL ELLIPSIS",
  "22ef:0MIDLINE HORIZONTAL ELLIPSIS,0UP RIGHT DIAGONAL ELLIPSIS,0DOWN RIGHT DIAGONAL ELLIPSIS",
  "22f2:0ELEMENT OF WITH LONG HORIZONTAL STROKE,3VERTICAL BAR AT END OF HORIZONTAL STROKE",
  "22f4:0SMALL ELEMENT OF WITH VERTICAL BAR AT END OF HORIZONTAL STROKE",
  "22f5:0ELEMENT OF WITH DOT ABOVE,3OVERBAR,0SMALL ELEMENT OF WITH OVERBAR",
  "22f8:0ELEMENT OF WITH UNDERBAR,3TWO HORIZONTAL STROKES,0CONTAINS WITH LONG HORIZONTAL STROKE",
  "22fb:0CONTAINS WITH VERTICAL BAR AT END OF HORIZONTAL STROKE",
  "22fc:0SMALL CONTAINS WITH VERTICAL BAR AT END OF HORIZONTAL STROKE,0CONTAINS WITH OVERBAR",
  "22fe:0SMALL CONTAINS WITH OVERBAR,0Z NOTATION BAG MEMBERSHIP,0DIAMETER SIGN,0ELECTRIC ARROW",
  "2302:0HOUSE,0UP ARROWHEAD,0DOWN ARROWHEAD,0PROJECTIVE,0PERSPECTIVE,0WAVY LINE,0LEFT CEILING",
  "2309:0RIGHT CEILING,0LEFT FLOOR,0RIGHT FLOOR,0BOTTOM RIGHT CROP,1LEFT CROP,0TOP RIGHT CROP",
  "230f:0TOP LEFT CROP,0REVERSED NOT SIGN,0SQUARE LOZENGE,0ARC,0SEGMENT,0SECTOR",
  "2315:0TELEPHONE RECORDER,0POSITION INDICATOR,0VIEWDATA SQUARE,0PLACE OF INTEREST SIGN",
  "2319:0TURNED NOT SIGN,0WATCH,0HOURGLASS,0TOP LEFT CORNER,1RIGHT CORNER,0BOTTOM LEFT CORNER",
  "231f:0BOTTOM RIGHT CORNER,0TOP HALF INTEGRAL,0BOTTOM HALF INTEGRAL,0FROWN,0SMILE",
  "2324:0UP ARROWHEAD BETWEEN TWO HORIZONTAL BARS,0OPTION KEY,0ERASE TO THE RIGHT",
  "2327:0X IN A RECTANGLE BOX,0KEYBOARD,0LEFT-POINTING ANGLE BRACKET",
  "232a:0RIGHT-POINTING ANGLE BRACKET,0ERASE TO THE LEFT,0BENZENE RING,0CYLINDRICITY",
  "232e:0ALL AROUND-PROFILE,0SYMMETRY,0TOTAL RUNOUT,0DIMENSION ORIGIN,0CONICAL TAPER,0SLOPE",
  "2334:0COUNTERBORE,0COUNTERSINK,0APL FUNCTIONAL SYMBOL I-BEAM,3SQUISH QUAD,3QUAD EQUAL,4DIVIDE",
  "233a:0APL FUNCTIONAL SYMBOL QUAD DIAMOND,4JOT,4CIRCLE,3CIRCLE STILE,4JOT,3SLASH BAR",
  "2340:0APL FUNCTIONAL SYMBOL BACKSLASH BAR,3QUAD SLASH,4BACKSLASH,4LESS-THAN,4GREATER-THAN",
  "2345:0APL FUNCTIONAL SYMBOL LEFTWARDS VANE,3RIGHTWARDS VANE,3QUAD LEFTWARDS ARROW",
  "2348:0APL FUNCTIONAL SYMBOL QUAD RIGHTWARDS ARROW,3CIRCLE BACKSLASH,3DOWN TACK UNDERBAR",
  "234b:0APL FUNCTIONAL SYMBOL DELTA STILE,3QUAD DOWN CARET,4DELTA,3DOWN TACK JOT,3UPWARDS VANE",
  "2350:0APL FUNCTIONAL SYMBOL QUAD UPWARDS ARROW,3UP TACK OVERBAR,3DEL STILE,3QUAD UP CARET,4DEL",
  "2355:0APL FUNCTIONAL SYMBOL UP TACK JOT,3DOWNWARDS VANE,3QUAD DOWNWARDS ARROW,3QUOTE UNDERBAR",
  "2359:0APL FUNCTIONAL SYMBOL DELTA UNDERBAR,3DIAMOND UNDERBAR,3JOT UNDERBAR,3CIRCLE UNDERBAR",
  "235d:0APL FUNCTIONAL SYMBOL UP SHOE JOT,3QUOTE QUAD,3CIRCLE STAR,3QUAD COLON",
  "2361:0APL FUNCTIONAL SYMBOL UP TACK DIAERESIS,3DEL DIAERESIS,3STAR DIAERESIS,3JOT DIAERESIS",
  "2365:0APL FUNCTIONAL SYMBOL CIRCLE DIAERESIS,3DOWN SHOE STILE,3LEFT SHOE STILE",
  "2368:0APL FUNCTIONAL SYMBOL TILDE DIAERESIS,3GREATER-THAN DIAERESIS,3COMMA BAR,3DEL TILDE",
  "236c:0APL FUNCTIONAL SYMBOL ZILDE,3STILE TILDE,3SEMICOLON UNDERBAR,3QUAD NOT EQUAL,4QUESTION",
  "2371:0APL FUNCTIONAL SYMBOL DOWN CARET TILDE,3UP CARET TILDE,3IOTA,3RHO,3OMEGA,3ALPHA UNDERBAR",
  "2377:0APL FUNCTIONAL SYMBOL EPSILON UNDERBAR,3IOTA UNDERBAR,3OMEGA UNDERBAR,3ALPHA",
  "237b:0NOT CHECK MARK,0RIGHT ANGLE WITH DOWNWARDS ZIGZAG ARROW,0SHOULDERED OPEN BOX",
  "237e:0BELL SYMBOL,0VERTICAL LINE WITH MIDDLE DOT,0INSERTION SYMBOL",
  "2381:0CONTINUOUS UNDERLINE SYMBOL,0DISCONTINUOUS UNDERLINE SYMBOL,0EMPHASIS SYMBOL",
  "2384:0COMPOSITION SYMBOL,0WHITE SQUARE WITH CENTRE VERTICAL LINE,0ENTER SYMBOL",
  "2387:0ALTERNATIVE KEY SYMBOL,0HELM SYMBOL,0CIRCLED HORIZONTAL BAR WITH NOTCH,1TRIANGLE DOWN",
  "238b:0BROKEN CIRCLE WITH NORTHWEST ARROW,0UNDO SYMBOL,0MONOSTABLE SYMBOL,0HYSTERESIS SYMBOL",
  "238f:0OPEN-CIRCUIT-OUTPUT H-TYPE SYMBOL,1L-TYPE SYMBOL,0PASSIVE-PULL-DOWN-OUTPUT SYMBOL",
  "2392:0PASSIVE-PULL-UP-OUTPUT SYMBOL,0DIRECT CURRENT SYMBOL FORM TWO,0SOFTWARE-FUNCTION SYMBOL",
  "2395:0APL FUNCTIONAL SYMBOL QUAD,0DECIMAL SEPARATOR KEY SYMBOL,0PREVIOUS PAGE,0NEXT PAGE",
  "2399:0PRINT SCREEN SYMBOL,0CLEAR SCREEN SYMBOL,0LEFT PARENTHESIS UPPER HOOK,2EXTENSION",
  "239d:0LEFT PARENTHESIS LOWER HOOK,0RIGHT PARENTHESIS UPPER HOOK,2EXTENSION,2LOWER HOOK",
  "23a1:0LEFT SQUARE BRACKET UPPER CORNER,3EXTENSION,3LOWER CORNER",
  "23a4:0RIGHT SQUARE BRACKET UPPER CORNER,3EXTENSION,3LOWER CORNER",
  "23a7:0LEFT CURLY BRACKET UPPER HOOK,3MIDDLE PIECE,3LOWER HOOK,0CURLY BRACKET EXTENSION",
  "23ab:0RIGHT CURLY BRACKET UPPER HOOK,3MIDDLE PIECE,3LOWER HOOK,0INTEGRAL EXTENSION",
  "23af:0HORIZONTAL LINE EXTENSION,0UPPER LEFT OR LOWER RIGHT CURLY BRACKET SECTION",
  "23b1:0UPPER RIGHT OR LOWER LEFT CURLY BRACKET SECTION,0SUMMATION TOP,1BOTTOM",
  "23b4:0TOP SQUARE BRACKET,0BOTTOM SQUARE BRACKET,3OVER TOP SQUARE BRACKET",
  "23b7:0RADICAL SYMBOL BOTTOM,0LEFT VERTICAL BOX LINE,0RIGHT VERTICAL BOX LINE",
  "23ba:0HORIZONTAL SCAN LINE-1,2LINE-3,2LINE-7,2LINE-9",
  "23be:0DENTISTRY SYMBOL LIGHT VERTICAL AND TOP RIGHT,5BOTTOM RIGHT,4WITH CIRCLE",
  "23c1:0DENTISTRY SYMBOL LIGHT DOWN AND HORIZONTAL WITH CIRCLE,3UP AND HORIZONTAL WITH CIRCLE",
  "23c3:0DENTISTRY SYMBOL LIGHT VERTICAL WITH TRIANGLE,3DOWN AND HORIZONTAL WITH TRIANGLE",
  "23c5:0DENTISTRY SYMBOL LIGHT UP AND HORIZONTAL WITH TRIANGLE,3VERTICAL AND WAVE",
  "23c7:0DENTISTRY SYMBOL LIGHT DOWN AND HORIZONTAL WITH WAVE,3UP AND HORIZONTAL WITH WAVE",
  "23c9:0DENTISTRY SYMBOL LIGHT DOWN AND HORIZONTAL,3UP AND HORIZONTAL,3VERTICAL AND TOP LEFT",
  "23cc:0DENTISTRY SYMBOL LIGHT VERTICAL AND BOTTOM LEFT,0SQUARE FOOT,0RETURN SYMBOL",
  "23cf:0EJECT SYMBOL,0VERTICAL LINE EXTENSION,0METRICAL BREVE,1LONG OVER SHORT,1SHORT OVER LONG",
  "23d4:0METRICAL LONG OVER TWO SHORTS,1TWO SHORTS OVER LONG,3JOINED,1TRISEME,1TETRASEME",
  "23d9:0METRICAL PENTASEME,0EARTH GROUND,0FUSE,0TOP PARENTHESIS,0BOTTOM PARENTHESIS",
  "23de:0TOP CURLY BRACKET,0BOTTOM CURLY BRACKET,0TOP TORTOISE SHELL BRACKET",
  "23e1:0BOTTOM TORTOISE SHELL BRACKET,0WHITE TRAPEZIUM,0BENZENE RING WITH CIRCLE,0STRAIGHTNESS",
  "23e5:0FLATNESS,0AC CURRENT,0ELECTRICAL INTERSECTION,0DECIMAL EXPONENT SYMBOL",
  "23e9:0BLACK RIGHT-POINTING DOUBLE TRIANGLE,1LEFT-POINTING DOUBLE TRIANGLE",
  "23eb:0BLACK UP-POINTING DOUBLE TRIANGLE,1DOWN-POINTING DOUBLE TRIANGLE",
  "23ed:0BLACK RIGHT-POINTING DOUBLE TRIANGLE WITH VERTICAL BAR",
  "23ee:0BLACK LEFT-POINTING DOUBLE TRIANGLE WITH VERTICAL BAR",
  "23ef:0BLACK RIGHT-POINTING TRIANGLE WITH DOUBLE VERTICAL BAR,0ALARM CLOCK,0STOPWATCH",
  "23f2:0TIMER CLOCK,0HOURGLASS WITH FLOWING SAND,0BLACK MEDIUM LEFT-POINTING TRIANGLE",
  "23f5:0BLACK MEDIUM RIGHT-POINTING TRIANGLE,2UP-POINTING TRIANGLE,2DOWN-POINTING TRIANGLE",
  "23f8:0DOUBLE VERTICAL BAR,0BLACK SQUARE FOR STOP,1CIRCLE FOR RECORD,0POWER SYMBOL",
  "23fc:0POWER ON-OFF SYMBOL,1ON SYMBOL,1SLEEP SYMBOL,0OBSERVER EYE SYMBOL,0SYMBOL FOR NULL",
  "2401:0SYMBOL FOR START OF HEADING,4TEXT,2END OF TEXT,4TRANSMISSION,2ENQUIRY,2ACKNOWLEDGE,2BELL",
  "2408:0SYMBOL FOR BACKSPACE,2HORIZONTAL TABULATION,2LINE FEED,2VERTICAL TABULATION,2FORM FEED",
  "240d:0SYMBOL FOR CARRIAGE RETURN,2SHIFT OUT,3IN,2DATA LINK ESCAPE,2DEVICE CONTROL ONE,4TWO",
  "2413:0SYMBOL FOR DEVICE CONTROL THREE,4FOUR,2NEGATIVE ACKNOWLEDGE,2SYNCHRONOUS IDLE",
  "2417:0SYMBOL FOR END OF TRANSMISSION BLOCK,2CANCEL,2END OF MEDIUM,2SUBSTITUTE,2ESCAPE",
  "241c:0SYMBOL FOR FILE SEPARATOR,2GROUP SEPARATOR,2RECORD SEPARATOR,2UNIT SEPARATOR,2SPACE",
  "2421:0SYMBOL FOR DELETE,0BLANK SYMBOL,0OPEN BOX,0SYMBOL FOR NEWLINE,2DELETE FORM TWO",
  "2426:0SYMBOL FOR SUBSTITUTE FORM TWO",
  "2460:0CIRCLED DIGIT ONE,2TWO,2THREE,2FOUR,2FIVE,2SIX,2SEVEN,2EIGHT,2NINE,1NUMBER TEN,2ELEVEN",
  "246b:0CIRCLED NUMBER TWELVE,2THIRTEEN,2FOURTEEN,2FIFTEEN,2SIXTEEN,2SEVENTEEN,2EIGHTEEN",
  "2472:0CIRCLED NUMBER NINETEEN,2TWENTY,0PARENTHESIZED DIGIT ONE,2TWO,2THREE,2FOUR,2FIVE,2SIX",
  "247a:0PARENTHESIZED DIGIT SEVEN,2EIGHT,2NINE,1NUMBER TEN,2ELEVEN,2TWELVE,2THIRTEEN,2FOURTEEN",
  "2482:0PARENTHESIZED NUMBER FIFTEEN,2SIXTEEN,2SEVENTEEN,2EIGHTEEN,2NINETEEN,2TWENTY",
  "2488:0DIGIT ONE FULL STOP,1TWO FULL STOP,1THREE FULL STOP,1FOUR FULL STOP,1FIVE FULL STOP",
  "248d:0DIGIT SIX FULL STOP,1SEVEN FULL STOP,1EIGHT FULL STOP,1NINE FULL STOP",
  "2491:0NUMBER TEN FULL STOP,1ELEVEN FULL STOP,1TWELVE FULL STOP,1THIRTEEN FULL STOP",
  "2495:0NUMBER FOURTEEN FULL STOP,1FIFTEEN FULL STOP,1SIXTEEN FULL STOP,1SEVENTEEN FULL STOP",
  "2499:0NUMBER EIGHTEEN FULL STOP,1NINETEEN FULL STOP,1TWENTY FULL STOP",
  "249c:0PARENTHESIZED LATIN SMALL LETTER A,4B,4C,4D,4E,4F,4G,4H,4I,4J,4K,4L,4M,4N,4O,4P,4Q,4R,4S",
  "24af:0PARENTHESIZED LATIN SMALL LETTER T,4U,4V,4W,4X,4Y,4Z,0CIRCLED LATIN CAPITAL LETTER A,4B",
  "24b8:0CIRCLED LATIN CAPITAL LETTER C,4D,4E,4F,4G,4H,4I,4J,4K,4L,4M,4N,4O,4P,4Q,4R,4S,4T,4U,4V",
  "24cc:0CIRCLED LATIN CAPITAL LETTER W,4X,4Y,4Z,2SMALL LETTER A,4B,4C,4D,4E,4F,4G,4H,4I,4J,4K,4L",
  "24dc:0CIRCLED LATIN SMALL LETTER M,4N,4O,4P,4Q,4R,4S,4T,4U,4V,4W,4X,4Y,4Z,1DIGIT ZERO",
  "24eb:0NEGATIVE CIRCLED NUMBER ELEVEN,3TWELVE,3THIRTEEN,3FOURTEEN,3FIFTEEN,3SIXTEEN,3SEVENTEEN",
  "24f2:0NEGATIVE CIRCLED NUMBER EIGHTEEN,3NINETEEN,3TWENTY,0DOUBLE CIRCLED DIGIT ONE,3TWO,3THREE",
  "24f8:0DOUBLE CIRCLED DIGIT FOUR,3FIVE,3SIX,3SEVEN,3EIGHT,3NINE,2NUMBER TEN",
  "24ff:0NEGATIVE CIRCLED DIGIT ZERO,0BOX DRAWINGS LIGHT HORIZONTAL,2HEAVY HORIZONTAL",
  "2502:0BOX DRAWINGS LIGHT VERTICAL,2HEAVY VERTICAL,2LIGHT TRIPLE DASH HORIZONTAL",
  "2505:0BOX DRAWINGS HEAVY TRIPLE DASH HORIZONTAL,2LIGHT TRIPLE DASH VERTICAL",
  "2507:0BOX DRAWINGS HEAVY TRIPLE DASH VERTICAL,2LIGHT QUADRUPLE DASH HORIZONTAL",
  "2509:0BOX DRAWINGS HEAVY QUADRUPLE DASH HORIZONTAL,2LIGHT QUADRUPLE DASH VERTICAL",
  "250b:0BOX DRAWINGS HEAVY QUADRUPLE DASH VERTICAL,2LIGHT DOWN AND RIGHT",
  "250d:0BOX DRAWINGS DOWN LIGHT AND RIGHT HEAVY,3HEAVY AND RIGHT LIGHT,2HEAVY DOWN AND RIGHT",
  "2510:0BOX DRAWINGS LIGHT DOWN AND LEFT,2DOWN LIGHT AND LEFT HEAVY,3HEAVY AND LEFT LIGHT",
  "2513:0BOX DRAWINGS HEAVY DOWN AND LEFT,2LIGHT UP AND RIGHT,2UP LIGHT AND RIGHT HEAVY",
  "2516:0BOX DRAWINGS UP HEAVY AND RIGHT LIGHT,2HEAVY UP AND RIGHT,2LIGHT UP AND LEFT",
  "2519:0BOX DRAWINGS UP LIGHT AND LEFT HEAVY,3HEAVY AND LEFT LIGHT,2HEAVY UP AND LEFT",
  "251c:0BOX DRAWINGS LIGHT VERTICAL AND RIGHT,2VERTICAL LIGHT AND RIGHT HEAVY",
  "251e:0BOX DRAWINGS UP HEAVY AND RIGHT DOWN LIGHT,2DOWN HEAVY AND RIGHT UP LIGHT",
  "2520:0BOX DRAWINGS VERTICAL HEAVY AND RIGHT LIGHT,2DOWN LIGHT AND RIGHT UP HEAVY",
  "2522:0BOX DRAWINGS UP LIGHT AND RIGHT DOWN HEAVY,2HEAVY VERTICAL AND RIGHT",
  "2524:0BOX DRAWINGS LIGHT VERTICAL AND LEFT,2VERTICAL LIGHT AND LEFT HEAVY",
  "2526:0BOX DRAWINGS UP HEAVY AND LEFT DOWN LIGHT,2DOWN HEAVY AND LEFT UP LIGHT",
  "2528:0BOX DRAWINGS VERTICAL HEAVY AND LEFT LIGHT,2DOWN LIGHT AND LEFT UP HEAVY",
  "252a:0BOX DRAWINGS UP LIGHT AND LEFT DOWN HEAVY,2HEAVY VERTICAL AND LEFT",
  "252c:0BOX DRAWINGS LIGHT DOWN AND HORIZONTAL,2LEFT HEAVY AND RIGHT DOWN LIGHT",
  "252e:0BOX DRAWINGS RIGHT HEAVY AND LEFT DOWN LIGHT,2DOWN LIGHT AND HORIZONTAL HEAVY",
  "2530:0BOX DRAWINGS DOWN HEAVY AND HORIZONTAL LIGHT,2RIGHT LIGHT AND LEFT DOWN HEAVY",
  "2532:0BOX DRAWINGS LEFT LIGHT AND RIGHT DOWN HEAVY,2HEAVY DOWN AND HORIZONTAL",
  "2534:0BOX DRAWINGS LIGHT UP AND HORIZONTAL,2LEFT HEAVY AND RIGHT UP LIGHT",
  "2536:0BOX DRAWINGS RIGHT HEAVY AND LEFT UP LIGHT,2UP LIGHT AND HORIZONTAL HEAVY",
  "2538:0BOX DRAWINGS UP HEAVY AND HORIZONTAL LIGHT,2RIGHT LIGHT AND LEFT UP HEAVY",
  "253a:0BOX DRAWINGS LEFT LIGHT AND RIGHT UP HEAVY,2HEAVY UP AND HORIZONTAL",
  "253c:0BOX DRAWINGS LIGHT VERTICAL AND HORIZONTAL,2LEFT HEAVY AND RIGHT VERTICAL LIGHT",
  "253e:0BOX DRAWINGS RIGHT HEAVY AND LEFT VERTICAL LIGHT,2VERTICAL LIGHT AND HORIZONTAL HEAVY",
  "2540:0BOX DRAWINGS UP HEAVY AND DOWN HORIZONTAL LIGHT,2DOWN HEAVY AND UP HORIZONTAL LIGHT",
  "2542:0BOX DRAWINGS VERTICAL HEAVY AND HORIZONTAL LIGHT,2LEFT UP HEAVY AND RIGHT DOWN LIGHT",
  "2544:0BOX DRAWINGS RIGHT UP HEAVY AND LEFT DOWN LIGHT,2LEFT DOWN HEAVY AND RIGHT UP LIGHT",
  "2546:0BOX DRAWINGS RIGHT DOWN HEAVY AND LEFT UP LIGHT,2DOWN LIGHT AND UP HORIZONTAL HEAVY",
  "2548:0BOX DRAWINGS UP LIGHT AND DOWN HORIZONTAL HEAVY,2RIGHT LIGHT AND LEFT VERTICAL HEAVY",
  "254a:0BOX DRAWINGS LEFT LIGHT AND RIGHT VERTICAL HEAVY,2HEAVY VERTICAL AND HORIZONTAL",
  "254c:0BOX DRAWINGS LIGHT DOUBLE DASH HORIZONTAL,2HEAVY DOUBLE DASH HORIZONTAL",
  "254e:0BOX DRAWINGS LIGHT DOUBLE DASH VERTICAL,2HEAVY DOUBLE DASH VERTICAL,2DOUBLE HORIZONTAL",
  "2551:0BOX DRAWINGS DOUBLE VERTICAL,2DOWN SINGLE AND RIGHT DOUBLE,3DOUBLE AND RIGHT SINGLE",
  "2554:0BOX DRAWINGS DOUBLE DOWN AND RIGHT,2DOWN SINGLE AND LEFT DOUBLE,3DOUBLE AND LEFT SINGLE",
  "2557:0BOX DRAWINGS DOUBLE DOWN AND LEFT,2UP SINGLE AND RIGHT DOUBLE,3DOUBLE AND RIGHT SINGLE",
  "255a:0BOX DRAWINGS DOUBLE UP AND RIGHT,2UP SINGLE AND LEFT DOUBLE,3DOUBLE AND LEFT SINGLE",
  "255d:0BOX DRAWINGS DOUBLE UP AND LEFT,2VERTICAL SINGLE AND RIGHT DOUBLE",
  "255f:0BOX DRAWINGS VERTICAL DOUBLE AND RIGHT SINGLE,2DOUBLE VERTICAL AND RIGHT",
  "2561:0BOX DRAWINGS VERTICAL SINGLE AND LEFT DOUBLE,3DOUBLE AND LEFT SINGLE",
  "2563:0BOX DRAWINGS DOUBLE VERTICAL AND LEFT,2DOWN SINGLE AND HORIZONTAL DOUBLE",
  "2565:0BOX DRAWINGS DOWN DOUBLE AND HORIZONTAL SINGLE,2DOUBLE DOWN AND HORIZONTAL",
  "2567:0BOX DRAWINGS UP SINGLE AND HORIZONTAL DOUBLE,3DOUBLE AND HORIZONTAL SINGLE",
  "2569:0BOX DRAWINGS DOUBLE UP AND HORIZONTAL,2VERTICAL SINGLE AND HORIZONTAL DOUBLE",
  "256b:0BOX DRAWINGS VERTICAL DOUBLE AND HORIZONTAL SINGLE,2DOUBLE VERTICAL AND HORIZONTAL",
  "256d:0BOX DRAWINGS LIGHT ARC DOWN AND RIGHT,6LEFT,4UP AND LEFT,6RIGHT",
  "2571:0BOX DRAWINGS LIGHT DIAGONAL UPPER RIGHT TO LOWER LEFT,5LEFT TO LOWER RIGHT,4CROSS,3LEFT",
  "2575:0BOX DRAWINGS LIGHT UP,3RIGHT,3DOWN,2HEAVY LEFT,3UP,3RIGHT,3DOWN",
  "257c:0BOX DRAWINGS LIGHT LEFT AND HEAVY RIGHT,3UP AND HEAVY DOWN,2HEAVY LEFT AND LIGHT RIGHT",
  "257f:0BOX DRAWINGS HEAVY UP AND LIGHT DOWN,0UPPER HALF BLOCK,0LOWER ONE EIGHTH BLOCK",
  "2582:0LOWER ONE QUARTER BLOCK,1THREE EIGHTHS BLOCK,1HALF BLOCK,1FIVE EIGHTHS BLOCK",
  "2586:0LOWER THREE QUARTERS BLOCK,1SEVEN EIGHTHS BLOCK,0FULL BLOCK,0LEFT SEVEN EIGHTHS BLOCK",
  "258a:0LEFT THREE QUARTERS BLOCK,1FIVE EIGHTHS BLOCK,1HALF BLOCK,1THREE EIGHTHS BLOCK",
  "258e:0LEFT ONE QUARTER BLOCK,2EIGHTH BLOCK,0RIGHT HALF BLOCK,0LIGHT SHADE,0MEDIUM SHADE",
  "2593:0DARK SHADE,0UPPER ONE EIGHTH BLOCK,0RIGHT ONE EIGHTH BLOCK,0QUADRANT LOWER LEFT,2RIGHT",
  "2598:0QUADRANT UPPER LEFT,3AND LOWER LEFT AND LOWER RIGHT,5RIGHT,4UPPER RIGHT AND LOWER LEFT",
  "259c:0QUADRANT UPPER LEFT AND UPPER RIGHT AND LOWER RIGHT,2RIGHT,3AND LOWER LEFT",
  "259f:0QUADRANT UPPER RIGHT AND LOWER LEFT AND LOWER RIGHT,0BLACK SQUARE,0WHITE SQUARE",
  "25a2:0WHITE SQUARE WITH ROUNDED CORNERS,2CONTAINING BLACK SMALL SQUARE",
  "25a4:0SQUARE WITH HORIZONTAL FILL,2VERTICAL FILL,2ORTHOGONAL CROSSHATCH FILL",
  "25a7:0SQUARE WITH UPPER LEFT TO LOWER RIGHT FILL,3RIGHT TO LOWER LEFT FILL",
  "25a9:0SQUARE WITH DIAGONAL CROSSHATCH FILL,0BLACK SMALL SQUARE,0WHITE SMALL SQUARE",
  "25ac:0BLACK RECTANGLE,0WHITE RECTANGLE,0BLACK VERTICAL RECTANGLE,0WHITE VERTICAL RECTANGLE",
  "25b0:0BLACK PARALLELOGRAM,0WHITE PARALLELOGRAM,0BLACK UP-POINTING TRIANGLE",
  "25b3:0WHITE UP-POINTING TRIANGLE,0BLACK UP-POINTING SMALL TRIANGLE",
  "25b5:0WHITE UP-POINTING SMALL TRIANGLE,0BLACK RIGHT-POINTING TRIANGLE",
  "25b7:0WHITE RIGHT-POINTING TRIANGLE,0BLACK RIGHT-POINTING SMALL TRIANGLE",
  "25b9:0WHITE RIGHT-POINTING SMALL TRIANGLE,0BLACK RIGHT-POINTING POINTER",
  "25bb:0WHITE RIGHT-POINTING POINTER,0BLACK DOWN-POINTING TRIANGLE,0WHITE DOWN-POINTING TRIANGLE",
  "25be:0BLACK DOWN-POINTING SMALL TRIANGLE,0WHITE DOWN-POINTING SMALL TRIANGLE",
  "25c0:0BLACK LEFT-POINTING TRIANGLE,0WHITE LEFT-POINTING TRIANGLE",
  "25c2:0BLACK LEFT-POINTING SMALL TRIANGLE,0WHITE LEFT-POINTING SMALL TRIANGLE",
  "25c4:0BLACK LEFT-POINTING POINTER,0WHITE LEFT-POINTING POINTER,0BLACK DIAMOND,0WHITE DIAMOND",
  "25c8:0WHITE DIAMOND CONTAINING BLACK SMALL DIAMOND,0FISHEYE,0LOZENGE,0WHITE CIRCLE",
  "25cc:0DOTTED CIRCLE,0CIRCLE WITH VERTICAL FILL,0BULLSEYE,0BLACK CIRCLE",
  "25d0:0CIRCLE WITH LEFT HALF BLACK,2RIGHT HALF BLACK,2LOWER HALF BLACK,2UPPER HALF BLACK",
  "25d4:0CIRCLE WITH UPPER RIGHT QUADRANT BLACK,2ALL BUT UPPER LEFT QUADRANT BLACK",
  "25d6:0LEFT HALF BLACK CIRCLE,0RIGHT HALF BLACK CIRCLE,0INVERSE BULLET,1WHITE CIRCLE",
  "25da:0UPPER HALF INVERSE WHITE CIRCLE,0LOWER HALF INVERSE WHITE CIRCLE",
  "25dc:0UPPER LEFT QUADRANT CIRCULAR ARC,1RIGHT QUADRANT CIRCULAR ARC",
  "25de:0LOWER RIGHT QUADRANT CIRCULAR ARC,1LEFT QUADRANT CIRCULAR ARC,0UPPER HALF CIRCLE",
  "25e1:0LOWER HALF CIRCLE,0BLACK LOWER RIGHT TRIANGLE,2LEFT TRIANGLE,1UPPER LEFT TRIANGLE",
  "25e5:0BLACK UPPER RIGHT TRIANGLE,0WHITE BULLET,0SQUARE WITH LEFT HALF BLACK,2RIGHT HALF BLACK",
  "25e9:0SQUARE WITH UPPER LEFT DIAGONAL HALF BLACK,2LOWER RIGHT DIAGONAL HALF BLACK",
  "25eb:0WHITE SQUARE WITH VERTICAL BISECTING LINE,1UP-POINTING TRIANGLE WITH DOT",
  "25ed:0UP-POINTING TRIANGLE WITH LEFT HALF BLACK,3RIGHT HALF BLACK,0LARGE CIRCLE",
  "25f0:0WHITE SQUARE WITH UPPER LEFT QUADRANT,3LOWER LEFT QUADRANT,4RIGHT QUADRANT",
  "25f3:0WHITE SQUARE WITH UPPER RIGHT QUADRANT,1CIRCLE WITH UPPER LEFT QUADRANT",
  "25f5:0WHITE CIRCLE WITH LOWER LEFT QUADRANT,4RIGHT QUADRANT,3UPPER RIGHT QUADRANT",
  "25f8:0UPPER LEFT TRIANGLE,1RIGHT TRIANGLE,0LOWER LEFT TRIANGLE,0WHITE MEDIUM SQUARE",
  "25fc:0BLACK MEDIUM SQUARE,0WHITE MEDIUM SMALL SQUARE,0BLACK MEDIUM SMALL SQUARE",
  "25ff:0LOWER RIGHT TRIANGLE,0BLACK SUN WITH RAYS,0CLOUD,0UMBRELLA,0SNOWMAN,0COMET,0BLACK STAR",
  "2606:0WHITE STAR,0LIGHTNING,0THUNDERSTORM,0SUN,0ASCENDING NODE,0DESCENDING NODE,0CONJUNCTION",
  "260d:0OPPOSITION,0BLACK TELEPHONE,0WHITE TELEPHONE,0BALLOT BOX,2WITH CHECK,3X,0SALTIRE",
  "2614:0UMBRELLA WITH RAIN DROPS,0HOT BEVERAGE,0WHITE SHOGI PIECE,0BLACK SHOGI PIECE,0SHAMROCK",
  "2619:0REVERSED ROTATED FLORAL HEART BULLET,0BLACK LEFT POINTING INDEX,1RIGHT POINTING INDEX",
  "261c:0WHITE LEFT POINTING INDEX,1UP POINTING INDEX,1RIGHT POINTING INDEX,1DOWN POINTING INDEX",
  "2620:0SKULL AND CROSSBONES,0CAUTION SIGN,0RADIOACTIVE SIGN,0BIOHAZARD SIGN,0CADUCEUS,0ANKH",
  "2626:0ORTHODOX CROSS,0CHI RHO,0CROSS OF LORRAINE,2JERUSALEM,0STAR AND CRESCENT,0FARSI SYMBOL",
  "262c:0ADI SHAKTI,0HAMMER AND SICKLE,0PEACE SYMBOL,0YIN YANG,0TRIGRAM FOR HEAVEN,2LAKE,2FIRE",
  "2633:0TRIGRAM FOR THUNDER,2WIND,2WATER,2MOUNTAIN,2EARTH,0WHEEL OF DHARMA,0WHITE FROWNING FACE",
  "263a:0WHITE SMILING FACE,0BLACK SMILING FACE,0WHITE SUN WITH RAYS,0FIRST QUARTER MOON",
  "263e:0LAST QUARTER MOON,0MERCURY,0FEMALE SIGN,0EARTH,0MALE SIGN,0JUPITER,0SATURN,0URANUS",
  "2646:0NEPTUNE,0PLUTO,0ARIES,0TAURUS,0GEMINI,0CANCER,0LEO,0VIRGO,0LIBRA,0SCORPIUS,0SAGITTARIUS",
  "2651:0CAPRICORN,0AQUARIUS,0PISCES,0WHITE CHESS KING,2QUEEN,2ROOK,2BISHOP,2KNIGHT,2PAWN",
  "265a:0BLACK CHESS KING,2QUEEN,2ROOK,2BISHOP,2KNIGHT,2PAWN,1SPADE SUIT,0WHITE HEART SUIT",
  "2662:0WHITE DIAMOND SUIT,0BLACK CLUB SUIT,0WHITE SPADE SUIT,0BLACK HEART SUIT,1DIAMOND SUIT",
  "2667:0WHITE CLUB SUIT,0HOT SPRINGS,0QUARTER NOTE,0EIGHTH NOTE,0BEAMED EIGHTH NOTES",
  "266c:0BEAMED SIXTEENTH NOTES,0MUSIC FLAT SIGN,1NATURAL SIGN,1SHARP SIGN,0WEST SYRIAC CROSS",
  "2671:0EAST SYRIAC CROSS,0UNIVERSAL RECYCLING SYMBOL,0RECYCLING SYMBOL FOR TYPE-1 PLASTICS",
  "2674:0RECYCLING SYMBOL FOR TYPE-2 PLASTICS,3TYPE-3 PLASTICS,3TYPE-4 PLASTICS,3TYPE-5 PLASTICS",
  "2678:0RECYCLING SYMBOL FOR TYPE-6 PLASTICS,3TYPE-7 PLASTICS,3GENERIC MATERIALS",
  "267b:0BLACK UNIVERSAL RECYCLING SYMBOL,0RECYCLED PAPER SYMBOL,0PARTIALLY-RECYCLED PAPER SYMBOL",
  "267e:0PERMANENT PAPER SIGN,0WHEELCHAIR SYMBOL,0DIE FACE-1,1FACE-2,1FACE-3,1FACE-4,1FACE-5",
  "2685:0DIE FACE-6,0WHITE CIRCLE WITH DOT RIGHT,3TWO DOTS,0BLACK CIRCLE WITH WHITE DOT RIGHT",
  "2689:0BLACK CIRCLE WITH TWO WHITE DOTS,0MONOGRAM FOR YANG,2YIN,0DIGRAM FOR GREATER YANG",
  "268d:0DIGRAM FOR LESSER YIN,3YANG,2GREATER YIN,0WHITE FLAG,0BLACK FLAG,0HAMMER AND PICK",
  "2693:0ANCHOR,0CROSSED SWORDS,0STAFF OF AESCULAPIUS,0SCALES,0ALEMBIC,0FLOWER,0GEAR",
  "269a:0STAFF OF HERMES,0ATOM SYMBOL,0FLEUR-DE-LIS,0OUTLINED WHITE STAR",
  "269e:0THREE LINES CONVERGING RIGHT,3LEFT,0WARNING SIGN,0HIGH VOLTAGE SIGN,0DOUBLED FEMALE SIGN",
  "26a3:0DOUBLED MALE SIGN,0INTERLOCKED FEMALE AND MALE SIGN,0MALE AND FEMALE SIGN",
  "26a6:0MALE WITH STROKE SIGN,3AND MALE AND FEMALE SIGN,0VERTICAL MALE WITH STROKE SIGN",
  "26a9:0HORIZONTAL MALE WITH STROKE SIGN,0MEDIUM WHITE CIRCLE,1BLACK CIRCLE,1SMALL WHITE CIRCLE",
  "26ad:0MARRIAGE SYMBOL,0DIVORCE SYMBOL,0UNMARRIED PARTNERSHIP SYMBOL,0COFFIN,0FUNERAL URN",
  "26b2:0NEUTER,0CERES,0PALLAS,0JUNO,0VESTA,0CHIRON,0BLACK MOON LILITH,0SEXTILE,0SEMISEXTILE",
  "26bb:0QUINCUNX,0SESQUIQUADRATE,0SOCCER BALL,0BASEBALL,0SQUARED KEY,0WHITE DRAUGHTS MAN,2KING",
  "26c2:0BLACK DRAUGHTS MAN,2KING,0SNOWMAN WITHOUT SNOW,0SUN BEHIND CLOUD,0RAIN,0BLACK SNOWMAN",
  "26c8:0THUNDER CLOUD AND RAIN,0TURNED WHITE SHOGI PIECE,1BLACK SHOGI PIECE",
  "26cb:0WHITE DIAMOND IN SQUARE,0CROSSING LANES,0DISABLED CAR,0OPHIUCHUS,0PICK,0CAR SLIDING",
  "26d1:0HELMET WITH WHITE CROSS,0CIRCLED CROSSING LANES,0CHAINS,0NO ENTRY",
  "26d5:0ALTERNATE ONE-WAY LEFT WAY TRAFFIC,0BLACK TWO-WAY LEFT WAY TRAFFIC",
  "26d7:0WHITE TWO-WAY LEFT WAY TRAFFIC,0BLACK LEFT LANE MERGE,0WHITE LEFT LANE MERGE",
  "26da:0DRIVE SLOW SIGN,0HEAVY WHITE DOWN-POINTING TRIANGLE,0LEFT CLOSED ENTRY,0SQUARED SALTIRE",
  "26de:0FALLING DIAGONAL IN WHITE CIRCLE IN BLACK SQUARE,0BLACK TRUCK,0RESTRICTED LEFT ENTRY-1",
  "26e1:0RESTRICTED LEFT ENTRY-2,0ASTRONOMICAL SYMBOL FOR URANUS",
  "26e3:0HEAVY CIRCLE WITH STROKE AND TWO DOTS ABOVE,0PENTAGRAM",
  "26e5:0RIGHT-HANDED INTERLACED PENTAGRAM,0LEFT-HANDED INTERLACED PENTAGRAM,0INVERTED PENTAGRAM",
  "26e8:0BLACK CROSS ON SHIELD,0SHINTO SHRINE,0CHURCH,0CASTLE,0HISTORIC SITE,0GEAR WITHOUT HUB",
  "26ee:0GEAR WITH HANDLES,0MAP SYMBOL FOR LIGHTHOUSE,0MOUNTAIN,0UMBRELLA ON GROUND,0FOUNTAIN",
  "26f3:0FLAG IN HOLE,0FERRY,0SAILBOAT,0SQUARE FOUR CORNERS,0SKIER,0ICE SKATE,0PERSON WITH BALL",
  "26fa:0TENT,0JAPANESE BANK SYMBOL,0HEADSTONE GRAVEYARD SYMBOL,0FUEL PUMP,0CUP ON BLACK SQUARE",
  "26ff:0WHITE FLAG WITH HORIZONTAL MIDDLE BLACK STRIPE,0BLACK SAFETY SCISSORS",
  "2701:0UPPER BLADE SCISSORS,0BLACK SCISSORS,0LOWER BLADE SCISSORS,0WHITE SCISSORS",
  "2705:0WHITE HEAVY CHECK MARK,0TELEPHONE LOCATION SIGN,0TAPE DRIVE,0AIRPLANE,0ENVELOPE",
  "270a:0RAISED FIST,1HAND,0VICTORY HAND,0WRITING HAND,0LOWER RIGHT PENCIL,0PENCIL",
  "2710:0UPPER RIGHT PENCIL,0WHITE NIB,0BLACK NIB,0CHECK MARK,0HEAVY CHECK MARK,0MULTIPLICATION X",
  "2716:0HEAVY MULTIPLICATION X,0BALLOT X,0HEAVY BALLOT X,0OUTLINED GREEK CROSS",
  "271a:0HEAVY GREEK CROSS,0OPEN CENTRE CROSS,0HEAVY OPEN CENTRE CROSS,0LATIN CROSS",
  "271e:0SHADOWED WHITE LATIN CROSS,0OUTLINED LATIN CROSS,0MALTESE CROSS,0STAR OF DAVID",
  "2722:0FOUR TEARDROP-SPOKED ASTERISK,1BALLOON-SPOKED ASTERISK",
  "2724:0HEAVY FOUR BALLOON-SPOKED ASTERISK,0FOUR CLUB-SPOKED ASTERISK,0BLACK FOUR POINTED STAR",
  "2727:0WHITE FOUR POINTED STAR,0SPARKLES,0STRESS OUTLINED WHITE STAR,0CIRCLED WHITE STAR",
  "272b:0OPEN CENTRE BLACK STAR,0BLACK CENTRE WHITE STAR,0OUTLINED BLACK STAR",
  "272e:0HEAVY OUTLINED BLACK STAR,0PINWHEEL STAR,0SHADOWED WHITE STAR,0HEAVY ASTERISK",
  "2732:0OPEN CENTRE ASTERISK,0EIGHT SPOKED ASTERISK,1POINTED BLACK STAR,2PINWHEEL STAR",
  "2736:0SIX POINTED BLACK STAR,0EIGHT POINTED RECTILINEAR BLACK STAR",
  "2738:0HEAVY EIGHT POINTED RECTILINEAR BLACK STAR,0TWELVE POINTED BLACK STAR",
  "273a:0SIXTEEN POINTED ASTERISK,0TEARDROP-SPOKED ASTERISK,0OPEN CENTRE TEARDROP-SPOKED ASTERISK",
  "273d:0HEAVY TEARDROP-SPOKED ASTERISK,0SIX PETALLED BLACK AND WHITE FLORETTE,0BLACK FLORETTE",
  "2740:0WHITE FLORETTE,0EIGHT PETALLED OUTLINED BLACK FLORETTE",
  "2742:0CIRCLED OPEN CENTRE EIGHT POINTED STAR,0HEAVY TEARDROP-SPOKED PINWHEEL ASTERISK",
  "2744:0SNOWFLAKE,0TIGHT TRIFOLIATE SNOWFLAKE,0HEAVY CHEVRON SNOWFLAKE,0SPARKLE,0HEAVY SPARKLE",
  "2749:0BALLOON-SPOKED ASTERISK,0EIGHT TEARDROP-SPOKED PROPELLER ASTERISK",
  "274b:0HEAVY EIGHT TEARDROP-SPOKED PROPELLER ASTERISK,0CROSS MARK,0SHADOWED WHITE CIRCLE",
  "274e:0NEGATIVE SQUARED CROSS MARK,0LOWER RIGHT DROP-SHADOWED WHITE SQUARE",
  "2750:0UPPER RIGHT DROP-SHADOWED WHITE SQUARE,0LOWER RIGHT SHADOWED WHITE SQUARE",
  "2752:0UPPER RIGHT SHADOWED WHITE SQUARE,0BLACK QUESTION MARK ORNAMENT",
  "2754:0WHITE QUESTION MARK ORNAMENT,1EXCLAMATION MARK ORNAMENT,0BLACK DIAMOND MINUS WHITE X",
  "2757:0HEAVY EXCLAMATION MARK SYMBOL,0LIGHT VERTICAL BAR,0MEDIUM VERTICAL BAR",
  "275a:0HEAVY VERTICAL BAR,1SINGLE TURNED COMMA QUOTATION MARK ORNAMENT",
  "275c:0HEAVY SINGLE COMMA QUOTATION MARK ORNAMENT,1DOUBLE TURNED COMMA QUOTATION MARK ORNAMENT",
  "275e:0HEAVY DOUBLE COMMA QUOTATION MARK ORNAMENT,1LOW SINGLE COMMA QUOTATION MARK ORNAMENT",
  "2760:0HEAVY LOW DOUBLE COMMA QUOTATION MARK ORNAMENT,0CURVED STEM PARAGRAPH SIGN ORNAMENT",
  "2762:0HEAVY EXCLAMATION MARK ORNAMENT,1HEART EXCLAMATION MARK ORNAMENT,1BLACK HEART",
  "2765:0ROTATED HEAVY BLACK HEART BULLET,0FLORAL HEART,0ROTATED FLORAL HEART BULLET",
  "2768:0MEDIUM LEFT PARENTHESIS ORNAMENT,1RIGHT PARENTHESIS ORNAMENT",
  "276a:0MEDIUM FLATTENED LEFT PARENTHESIS ORNAMENT,2RIGHT PARENTHESIS ORNAMENT",
  "276c:0MEDIUM LEFT-POINTING ANGLE BRACKET ORNAMENT,1RIGHT-POINTING ANGLE BRACKET ORNAMENT",
  "276e:0HEAVY LEFT-POINTING ANGLE QUOTATION MARK ORNAMENT",
  "276f:0HEAVY RIGHT-POINTING ANGLE QUOTATION MARK ORNAMENT,1LEFT-POINTING ANGLE BRACKET ORNAMENT",
  "2771:0HEAVY RIGHT-POINTING ANGLE BRACKET ORNAMENT,0LIGHT LEFT TORTOISE SHELL BRACKET ORNAMENT",
  "2773:0LIGHT RIGHT TORTOISE SHELL BRACKET ORNAMENT,0MEDIUM LEFT CURLY BRACKET ORNAMENT",
  "2775:0MEDIUM RIGHT CURLY BRACKET ORNAMENT,0DINGBAT NEGATIVE CIRCLED DIGIT ONE,4TWO,4THREE",
  "2779:0DINGBAT NEGATIVE CIRCLED DIGIT FOUR,4FIVE,4SIX,4SEVEN,4EIGHT,4NINE,3NUMBER TEN",
  "2780:0DINGBAT CIRCLED SANS-SERIF DIGIT ONE,4TWO,4THREE,4FOUR,4FIVE,4SIX,4SEVEN,4EIGHT,4NINE",
  "2789:0DINGBAT CIRCLED SANS-SERIF NUMBER TEN,1NEGATIVE CIRCLED SANS-SERIF DIGIT ONE,5TWO,5THREE",
  "278d:0DINGBAT NEGATIVE CIRCLED SANS-SERIF DIGIT FOUR,5FIVE,5SIX,5SEVEN,5EIGHT,5NINE",
  "2793:0DINGBAT NEGATIVE CIRCLED SANS-SERIF NUMBER TEN,0HEAVY WIDE-HEADED RIGHTWARDS ARROW",
  "2795:0HEAVY PLUS SIGN,1MINUS SIGN,1DIVISION SIGN,1SOUTH EAST ARROW,1RIGHTWARDS ARROW",
  "279a:0HEAVY NORTH EAST ARROW,0DRAFTING POINT RIGHTWARDS ARROW",
  "279c:0HEAVY ROUND-TIPPED RIGHTWARDS ARROW,0TRIANGLE-HEADED RIGHTWARDS ARROW",
  "279e:0HEAVY TRIANGLE-HEADED RIGHTWARDS ARROW,0DASHED TRIANGLE-HEADED RIGHTWARDS ARROW",
  "27a0:0HEAVY DASHED TRIANGLE-HEADED RIGHTWARDS ARROW,0BLACK RIGHTWARDS ARROW",
  "27a2:0THREE-D TOP-LIGHTED RIGHTWARDS ARROWHEAD,1BOTTOM-LIGHTED RIGHTWARDS ARROWHEAD",
  "27a4:0BLACK RIGHTWARDS ARROWHEAD,0HEAVY BLACK CURVED DOWNWARDS AND RIGHTWARDS ARROW",
  "27a6:0HEAVY BLACK CURVED UPWARDS AND RIGHTWARDS ARROW,0SQUAT BLACK RIGHTWARDS ARROW",
  "27a8:0HEAVY CONCAVE-POINTED BLACK RIGHTWARDS ARROW,0RIGHT-SHADED WHITE RIGHTWARDS ARROW",
  "27aa:0LEFT-SHADED WHITE RIGHTWARDS ARROW,0BACK-TILTED SHADOWED WHITE RIGHTWARDS ARROW",
  "27ac:0FRONT-TILTED SHADOWED WHITE RIGHTWARDS ARROW",
  "27ad:0HEAVY LOWER RIGHT-SHADOWED WHITE RIGHTWARDS ARROW",
  "27ae:0HEAVY UPPER RIGHT-SHADOWED WHITE RIGHTWARDS ARROW",
  "27af:0NOTCHED LOWER RIGHT-SHADOWED WHITE RIGHTWARDS ARROW,0CURLY LOOP",
  "27b1:0NOTCHED UPPER RIGHT-SHADOWED WHITE RIGHTWARDS ARROW",
  "27b2:0CIRCLED HEAVY WHITE RIGHTWARDS ARROW,0WHITE-FEATHERED RIGHTWARDS ARROW",
  "27b4:0BLACK-FEATHERED SOUTH EAST ARROW,1RIGHTWARDS ARROW,1NORTH EAST ARROW",
  "27b7:0HEAVY BLACK-FEATHERED SOUTH EAST ARROW,2RIGHTWARDS ARROW,2NORTH EAST ARROW",
  "27ba:0TEARDROP-BARBED RIGHTWARDS ARROW,0HEAVY TEARDROP-SHANKED RIGHTWARDS ARROW",
  "27bc:0WEDGE-TAILED RIGHTWARDS ARROW,0HEAVY WEDGE-TAILED RIGHTWARDS ARROW",
  "27be:0OPEN-OUTLINED RIGHTWARDS ARROW,0DOUBLE CURLY LOOP,0THREE DIMENSIONAL ANGLE",
  "27c1:0WHITE TRIANGLE CONTAINING SMALL WHITE TRIANGLE,0PERPENDICULAR,0OPEN SUBSET,1SUPERSET",
  "27c5:0LEFT S-SHAPED BAG DELIMITER,0RIGHT S-SHAPED BAG DELIMITER,0OR WITH DOT INSIDE",
  "27c8:0REVERSE SOLIDUS PRECEDING SUBSET,0SUPERSET PRECEDING SOLIDUS",
  "27ca:0VERTICAL BAR WITH HORIZONTAL STROKE,0MATHEMATICAL RISING DIAGONAL,0LONG DIVISION",
  "27cd:0MATHEMATICAL FALLING DIAGONAL,0SQUARED LOGICAL AND,2OR,0WHITE DIAMOND WITH CENTRED DOT",
  "27d1:0AND WITH DOT,0ELEMENT OF OPENING UPWARDS,0LOWER RIGHT CORNER WITH DOT",
  "27d4:0UPPER LEFT CORNER WITH DOT,0LEFT OUTER JOIN,0RIGHT OUTER JOIN,0FULL OUTER JOIN",
  "27d8:0LARGE UP TACK,1DOWN TACK,0LEFT AND RIGHT DOUBLE TURNSTILE,3TACK,1MULTIMAP",
  "27dd:0LONG RIGHT TACK,1LEFT TACK,0UP TACK WITH CIRCLE ABOVE",
  "27e0:0LOZENGE DIVIDED BY HORIZONTAL RULE,0WHITE CONCAVE-SIDED DIAMOND,3WITH LEFTWARDS TICK",
  "27e3:0WHITE CONCAVE-SIDED DIAMOND WITH RIGHTWARDS TICK,1SQUARE WITH LEFTWARDS TICK",
  "27e5:0WHITE SQUARE WITH RIGHTWARDS TICK,0MATHEMATICAL LEFT WHITE SQUARE BRACKET",
  "27e7:0MATHEMATICAL RIGHT WHITE SQUARE BRACKET,1LEFT ANGLE BRACKET,1RIGHT ANGLE BRACKET",
  "27ea:0MATHEMATICAL LEFT DOUBLE ANGLE BRACKET,1RIGHT DOUBLE ANGLE BRACKET",
  "27ec:0MATHEMATICAL LEFT WHITE TORTOISE SHELL BRACKET,1RIGHT WHITE TORTOISE SHELL BRACKET",
  "27ee:0MATHEMATICAL LEFT FLATTENED PARENTHESIS,1RIGHT FLATTENED PARENTHESIS",
  "27f0:0UPWARDS QUADRUPLE ARROW,0DOWNWARDS QUADRUPLE ARROW,0ANTICLOCKWISE GAPPED CIRCLE ARROW",
  "27f3:0CLOCKWISE GAPPED CIRCLE ARROW,0RIGHT ARROW WITH CIRCLED PLUS,0LONG LEFTWARDS ARROW",
  "27f6:0LONG RIGHTWARDS ARROW,1LEFT RIGHT ARROW,1LEFTWARDS DOUBLE ARROW,1RIGHTWARDS DOUBLE ARROW",
  "27fa:0LONG LEFT RIGHT DOUBLE ARROW,1LEFTWARDS ARROW FROM BAR,1RIGHTWARDS ARROW FROM BAR",
  "27fd:0LONG LEFTWARDS DOUBLE ARROW FROM BAR,1RIGHTWARDS DOUBLE ARROW FROM BAR,2SQUIGGLE ARROW",
  "2800:0BRAILLE PATTERN BLANK,2DOTS-1,2DOTS-2,2DOTS-12,2DOTS-3,2DOTS-13,2DOTS-23,2DOTS-123",
  "2808:0BRAILLE PATTERN DOTS-4,2DOTS-14,2DOTS-24,2DOTS-124,2DOTS-34,2DOTS-134,2DOTS-234",
  "280f:0BRAILLE PATTERN DOTS-1234",
  "2900:0RIGHTWARDS TWO-HEADED ARROW WITH VERTICAL STROKE,4DOUBLE VERTICAL STROKE",
  "2902:0LEFTWARDS DOUBLE ARROW WITH VERTICAL STROKE",
  "2903:0RIGHTWARDS DOUBLE ARROW WITH VERTICAL STROKE",
  "2904:0LEFT RIGHT DOUBLE ARROW WITH VERTICAL STROKE,0RIGHTWARDS TWO-HEADED ARROW FROM BAR",
  "2906:0LEFTWARDS DOUBLE ARROW FROM BAR,0RIGHTWARDS DOUBLE ARROW FROM BAR",
  "2908:0DOWNWARDS ARROW WITH HORIZONTAL STROKE,0UPWARDS ARROW WITH HORIZONTAL STROKE",
  "290a:0UPWARDS TRIPLE ARROW,0DOWNWARDS TRIPLE ARROW,0LEFTWARDS DOUBLE DASH ARROW",
  "290d:0RIGHTWARDS DOUBLE DASH ARROW,0LEFTWARDS TRIPLE DASH ARROW,0RIGHTWARDS TRIPLE DASH ARROW",
  "2910:0RIGHTWARDS TWO-HEADED TRIPLE DASH ARROW,1ARROW WITH DOTTED STEM,0UPWARDS ARROW TO BAR",
  "2913:0DOWNWARDS ARROW TO BAR,0RIGHTWARDS ARROW WITH TAIL WITH VERTICAL STROKE",
  "2915:0RIGHTWARDS ARROW WITH TAIL WITH DOUBLE VERTICAL STROKE,1TWO-HEADED ARROW WITH TAIL",
  "2917:0RIGHTWARDS TWO-HEADED ARROW WITH TAIL WITH VERTICAL STROKE,6DOUBLE VERTICAL STROKE",
  "2919:0LEFTWARDS ARROW-TAIL,0RIGHTWARDS ARROW-TAIL,0LEFTWARDS DOUBLE ARROW-TAIL",
  "291c:0RIGHTWARDS DOUBLE ARROW-TAIL,0LEFTWARDS ARROW TO BLACK DIAMOND",
  "291e:0RIGHTWARDS ARROW TO BLACK DIAMOND,0LEFTWARDS ARROW FROM BAR TO BLACK DIAMOND",
  "2920:0RIGHTWARDS ARROW FROM BAR TO BLACK DIAMOND,0NORTH WEST AND SOUTH EAST ARROW",
  "2922:0NORTH EAST AND SOUTH WEST ARROW,1WEST ARROW WITH HOOK,1EAST ARROW WITH HOOK",
  "2925:0SOUTH EAST ARROW WITH HOOK,1WEST ARROW WITH HOOK,0NORTH WEST ARROW AND NORTH EAST ARROW",
  "2928:0NORTH EAST ARROW AND SOUTH EAST ARROW,0SOUTH EAST ARROW AND SOUTH WEST ARROW",
  "292a:0SOUTH WEST ARROW AND NORTH WEST ARROW,0RISING DIAGONAL CROSSING FALLING DIAGONAL",
  "292c:0FALLING DIAGONAL CROSSING RISING DIAGONAL,0SOUTH EAST ARROW CROSSING NORTH EAST ARROW",
  "292e:0NORTH EAST ARROW CROSSING SOUTH EAST ARROW,0FALLING DIAGONAL CROSSING NORTH EAST ARROW",
  "2930:0RISING DIAGONAL CROSSING SOUTH EAST ARROW,0NORTH EAST ARROW CROSSING NORTH WEST ARROW",
  "2932:0NORTH WEST ARROW CROSSING NORTH EAST ARROW,0WAVE ARROW POINTING DIRECTLY RIGHT",
  "2934:0ARROW POINTING RIGHTWARDS THEN CURVING UPWARDS,5DOWNWARDS",
  "2936:0ARROW POINTING DOWNWARDS THEN CURVING LEFTWARDS,5RIGHTWARDS",
  "2938:0RIGHT-SIDE ARC CLOCKWISE ARROW,0LEFT-SIDE ARC ANTICLOCKWISE ARROW",
  "293a:0TOP ARC ANTICLOCKWISE ARROW,0BOTTOM ARC ANTICLOCKWISE ARROW",
  "293c:0TOP ARC CLOCKWISE ARROW WITH MINUS,2ANTICLOCKWISE ARROW WITH PLUS",
  "293e:0LOWER RIGHT SEMICIRCULAR CLOCKWISE ARROW,1LEFT SEMICIRCULAR ANTICLOCKWISE ARROW",
  "2940:0ANTICLOCKWISE CLOSED CIRCLE ARROW,0CLOCKWISE CLOSED CIRCLE ARROW",
  "2942:0RIGHTWARDS ARROW ABOVE SHORT LEFTWARDS ARROW",
  "2943:0LEFTWARDS ARROW ABOVE SHORT RIGHTWARDS ARROW",
  "2944:0SHORT RIGHTWARDS ARROW ABOVE LEFTWARDS ARROW,0RIGHTWARDS ARROW WITH PLUS BELOW",
  "2946:0LEFTWARDS ARROW WITH PLUS BELOW,0RIGHTWARDS ARROW THROUGH X",
  "2948:0LEFT RIGHT ARROW THROUGH SMALL CIRCLE,0UPWARDS TWO-HEADED ARROW FROM SMALL CIRCLE",
  "294a:0LEFT BARB UP RIGHT BARB DOWN HARPOON,2DOWN RIGHT BARB UP HARPOON",
  "294c:0UP BARB RIGHT DOWN BARB LEFT HARPOON,2LEFT DOWN BARB RIGHT HARPOON",
  "294e:0LEFT BARB UP RIGHT BARB UP HARPOON,0UP BARB RIGHT DOWN BARB RIGHT HARPOON",
  "2950:0LEFT BARB DOWN RIGHT BARB DOWN HARPOON,0UP BARB LEFT DOWN BARB LEFT HARPOON",
  "2952:0LEFTWARDS HARPOON WITH BARB UP TO BAR,0RIGHTWARDS HARPOON WITH BARB UP TO BAR",
  "2954:0UPWARDS HARPOON WITH BARB RIGHT TO BAR,0DOWNWARDS HARPOON WITH BARB RIGHT TO BAR",
  "2956:0LEFTWARDS HARPOON WITH BARB DOWN TO BAR,0RIGHTWARDS HARPOON WITH BARB DOWN TO BAR",
  "2958:0UPWARDS HARPOON WITH BARB LEFT TO BAR,0DOWNWARDS HARPOON WITH BARB LEFT TO BAR",
  "295a:0LEFTWARDS HARPOON WITH BARB UP FROM BAR,0RIGHTWARDS HARPOON WITH BARB UP FROM BAR",
  "295c:0UPWARDS HARPOON WITH BARB RIGHT FROM BAR,0DOWNWARDS HARPOON WITH BARB RIGHT FROM BAR",
  "295e:0LEFTWARDS HARPOON WITH BARB DOWN FROM BAR,0RIGHTWARDS HARPOON WITH BARB DOWN FROM BAR",
  "2960:0UPWARDS HARPOON WITH BARB LEFT FROM BAR,0DOWNWARDS HARPOON WITH BARB LEFT FROM BAR",
  "2962:0LEFTWARDS HARPOON WITH BARB UP ABOVE LEFTWARDS HARPOON WITH BARB DOWN",
  "2963:0UPWARDS HARPOON WITH BARB LEFT BESIDE UPWARDS HARPOON WITH BARB RIGHT",
  "2964:0RIGHTWARDS HARPOON WITH BARB UP ABOVE RIGHTWARDS HARPOON WITH BARB DOWN",
  "2965:0DOWNWARDS HARPOON WITH BARB LEFT BESIDE DOWNWARDS HARPOON WITH BARB RIGHT",
  "2966:0LEFTWARDS HARPOON WITH BARB UP ABOVE RIGHTWARDS HARPOON WITH BARB UP",
  "2967:0LEFTWARDS HARPOON WITH BARB DOWN ABOVE RIGHTWARDS HARPOON WITH BARB DOWN",
  "2968:0RIGHTWARDS HARPOON WITH BARB UP ABOVE LEFTWARDS HARPOON WITH BARB UP",
  "2969:0RIGHTWARDS HARPOON WITH BARB DOWN ABOVE LEFTWARDS HARPOON WITH BARB DOWN",
  "296a:0LEFTWARDS HARPOON WITH BARB UP ABOVE LONG DASH,4DOWN BELOW LONG DASH",
  "296c:0RIGHTWARDS HARPOON WITH BARB UP ABOVE LONG DASH,4DOWN BELOW LONG DASH",
  "296e:0UPWARDS HARPOON WITH BARB LEFT BESIDE DOWNWARDS HARPOON WITH BARB RIGHT",
  "296f:0DOWNWARDS HARPOON WITH BARB LEFT BESIDE UPWARDS HARPOON WITH BARB RIGHT",
  "2970:0RIGHT DOUBLE ARROW WITH ROUNDED HEAD,0EQUALS SIGN ABOVE RIGHTWARDS ARROW",
  "2972:0TILDE OPERATOR ABOVE RIGHTWARDS ARROW,0LEFTWARDS ARROW ABOVE TILDE OPERATOR",
  "2974:0RIGHTWARDS ARROW ABOVE TILDE OPERATOR,3ALMOST EQUAL TO,0LESS-THAN ABOVE LEFTWARDS ARROW",
  "2977:0LEFTWARDS ARROW THROUGH LESS-THAN,0GREATER-THAN ABOVE RIGHTWARDS ARROW",
  "2979:0SUBSET ABOVE RIGHTWARDS ARROW,0LEFTWARDS ARROW THROUGH SUBSET",
  "297b:0SUPERSET ABOVE LEFTWARDS ARROW,0LEFT FISH TAIL,0RIGHT FISH TAIL,0UP FISH TAIL",
  "297f:0DOWN FISH TAIL",
  "2a00:0N-ARY CIRCLED DOT OPERATOR,2PLUS OPERATOR,2TIMES OPERATOR,1UNION OPERATOR WITH DOT,4PLUS",
  "2a05:0N-ARY SQUARE INTERSECTION OPERATOR,2UNION OPERATOR,0TWO LOGICAL AND OPERATOR",
  "2a08:0TWO LOGICAL OR OPERATOR,0N-ARY TIMES OPERATOR,0MODULO TWO SUM,0SUMMATION WITH INTEGRAL",
  "2a0c:0QUADRUPLE INTEGRAL OPERATOR,0FINITE PART INTEGRAL,0INTEGRAL WITH DOUBLE STROKE",
  "2a0f:0INTEGRAL AVERAGE WITH SLASH",
  "2b00:0NORTH EAST WHITE ARROW,1WEST WHITE ARROW,0SOUTH EAST WHITE ARROW,1WEST WHITE ARROW",
  "2b04:0LEFT RIGHT WHITE ARROW,0LEFTWARDS BLACK ARROW,0UPWARDS BLACK ARROW",
  "2b07:0DOWNWARDS BLACK ARROW,0NORTH EAST BLACK ARROW,1WEST BLACK ARROW,0SOUTH EAST BLACK ARROW",
  "2b0b:0SOUTH WEST BLACK ARROW,0LEFT RIGHT BLACK ARROW,0UP DOWN BLACK ARROW",
  "2b0e:0RIGHTWARDS ARROW WITH TIP DOWNWARDS,4UPWARDS,0LEFTWARDS ARROW WITH TIP DOWNWARDS",
  "2b11:0LEFTWARDS ARROW WITH TIP UPWARDS,0SQUARE WITH TOP HALF BLACK,2BOTTOM HALF BLACK",
  "2b14:0SQUARE WITH UPPER RIGHT DIAGONAL HALF BLACK,2LOWER LEFT DIAGONAL HALF BLACK",
  "2b16:0DIAMOND WITH LEFT HALF BLACK,2RIGHT HALF BLACK,2TOP HALF BLACK,2BOTTOM HALF BLACK",
  "2b1a:0DOTTED SQUARE,0BLACK LARGE SQUARE,0WHITE LARGE SQUARE,0BLACK VERY SMALL SQUARE",
  "2b1e:0WHITE VERY SMALL SQUARE,0BLACK PENTAGON,0WHITE PENTAGON,1HEXAGON,0BLACK HEXAGON",
  "2b23:0HORIZONTAL BLACK HEXAGON,0BLACK LARGE CIRCLE,1MEDIUM DIAMOND,0WHITE MEDIUM DIAMOND",
  "2b27:0BLACK MEDIUM LOZENGE,0WHITE MEDIUM LOZENGE,0BLACK SMALL DIAMOND,2LOZENGE",
  "2b2b:0WHITE SMALL LOZENGE,0BLACK HORIZONTAL ELLIPSE,0WHITE HORIZONTAL ELLIPSE",
  "2b2e:0BLACK VERTICAL ELLIPSE,0WHITE VERTICAL ELLIPSE,0LEFT ARROW WITH SMALL CIRCLE",
  "2b31:0THREE LEFTWARDS ARROWS,0LEFT ARROW WITH CIRCLED PLUS,0LONG LEFTWARDS SQUIGGLE ARROW",
  "2b34:0LEFTWARDS TWO-HEADED ARROW WITH VERTICAL STROKE,4DOUBLE VERTICAL STROKE,3FROM BAR",
  "2b37:0LEFTWARDS TWO-HEADED TRIPLE DASH ARROW,1ARROW WITH DOTTED STEM",
  "2b39:0LEFTWARDS ARROW WITH TAIL WITH VERTICAL STROKE,5DOUBLE VERTICAL STROKE",
  "2b3b:0LEFTWARDS TWO-HEADED ARROW WITH TAIL,5WITH VERTICAL STROKE,6DOUBLE VERTICAL STROKE",
  "2b3e:0LEFTWARDS ARROW THROUGH X,0WAVE ARROW POINTING DIRECTLY LEFT",
  "2b40:0EQUALS SIGN ABOVE LEFTWARDS ARROW,0REVERSE TILDE OPERATOR ABOVE LEFTWARDS ARROW",
  "2b42:0LEFTWARDS ARROW ABOVE REVERSE ALMOST EQUAL TO,0RIGHTWARDS ARROW THROUGH GREATER-THAN",
  "2b44:0RIGHTWARDS ARROW THROUGH SUPERSET,0LEFTWARDS QUADRUPLE ARROW,0RIGHTWARDS QUADRUPLE ARROW",
  "2b47:0REVERSE TILDE OPERATOR ABOVE RIGHTWARDS ARROW",
  "2b48:0RIGHTWARDS ARROW ABOVE REVERSE ALMOST EQUAL TO,0TILDE OPERATOR ABOVE LEFTWARDS ARROW",
  "2b4a:0LEFTWARDS ARROW ABOVE ALMOST EQUAL TO,3REVERSE TILDE OPERATOR",
  "2b4c:0RIGHTWARDS ARROW ABOVE REVERSE TILDE OPERATOR,0DOWNWARDS TRIANGLE-HEADED ZIGZAG ARROW",
  "2b4e:0SHORT SLANTED NORTH ARROW,1BACKSLANTED SOUTH ARROW,0WHITE MEDIUM STAR,0BLACK SMALL STAR",
  "2b52:0WHITE SMALL STAR,0BLACK RIGHT-POINTING PENTAGON,0WHITE RIGHT-POINTING PENTAGON",
  "2b55:0HEAVY LARGE CIRCLE,1OVAL WITH OVAL INSIDE,1CIRCLE WITH CIRCLE INSIDE,2,1CIRCLED SALTIRE",
  "2b5a:0SLANTED NORTH ARROW WITH HOOKED HEAD,0BACKSLANTED SOUTH ARROW WITH HOOKED TAIL",
  "2b5c:0SLANTED NORTH ARROW WITH HORIZONTAL TAIL,0BACKSLANTED SOUTH ARROW WITH HORIZONTAL TAIL",
  "2b5e:0BENT ARROW POINTING DOWNWARDS THEN NORTH EAST",
  "2b5f:0SHORT BENT ARROW POINTING DOWNWARDS THEN NORTH EAST",
  "3000:0IDEOGRAPHIC SPACE,1COMMA,1FULL STOP,0DITTO MARK,0JAPANESE INDUSTRIAL STANDARD SYMBOL",
  "3005:0IDEOGRAPHIC ITERATION MARK,1CLOSING MARK,1NUMBER ZERO,0LEFT ANGLE BRACKET",
  "3009:0RIGHT ANGLE BRACKET,0LEFT DOUBLE ANGLE BRACKET,0RIGHT DOUBLE ANGLE BRACKET",
  "300c:0LEFT CORNER BRACKET,0RIGHT CORNER BRACKET,0LEFT WHITE CORNER BRACKET",
  "300f:0RIGHT WHITE CORNER BRACKET,0LEFT BLACK LENTICULAR BRACKET",
  "3011:0RIGHT BLACK LENTICULAR BRACKET,0POSTAL MARK,0GETA MARK,0LEFT TORTOISE SHELL BRACKET",
  "3015:0RIGHT TORTOISE SHELL BRACKET,0LEFT WHITE LENTICULAR BRACKET",
  "3017:0RIGHT WHITE LENTICULAR BRACKET,0LEFT WHITE TORTOISE SHELL BRACKET",
  "3019:0RIGHT WHITE TORTOISE SHELL BRACKET,0LEFT WHITE SQUARE BRACKET",
  "301b:0RIGHT WHITE SQUARE BRACKET,0WAVE DASH,0REVERSED DOUBLE PRIME QUOTATION MARK",
  "301e:0DOUBLE PRIME QUOTATION MARK,0LOW DOUBLE PRIME QUOTATION MARK,0POSTAL MARK FACE",
  "3021:0HANGZHOU NUMERAL ONE,2TWO,2THREE,2FOUR,2FIVE,2SIX,2SEVEN,2EIGHT,2NINE",
  "302a:0IDEOGRAPHIC LEVEL TONE MARK,1RISING TONE MARK,1DEPARTING TONE MARK,1ENTERING TONE MARK",
  "302e:0HANGUL SINGLE DOT TONE MARK,1DOUBLE DOT TONE MARK,0WAVY DASH,0VERTICAL KANA REPEAT MARK",
  "3032:0VERTICAL KANA REPEAT WITH VOICED SOUND MARK,3MARK UPPER HALF",
  "3034:0VERTICAL KANA REPEAT WITH VOICED SOUND MARK UPPER HALF,3MARK LOWER HALF",
  "3036:0CIRCLED POSTAL MARK,0IDEOGRAPHIC TELEGRAPH LINE FEED SEPARATOR SYMBOL",
  "3038:0HANGZHOU NUMERAL TEN,2TWENTY,2THIRTY,0VERTICAL IDEOGRAPHIC ITERATION MARK,0MASU MARK",
  "303d:0PART ALTERNATION MARK,0IDEOGRAPHIC VARIATION INDICATOR,1HALF FILL SPACE",
  "3041:0HIRAGANA LETTER SMALL A,2A,2SMALL I,2I,2SMALL U,2U,2SMALL E,2E,2SMALL O,2O,2KA,2GA,2KI",
  "304e:0HIRAGANA LETTER GI,2KU,2GU,2KE,2GE,2KO,2GO,2SA,2ZA,2SI,2ZI,2SU,2ZU,2SE,2ZE,2SO,2ZO,2TA",
  "3060:0HIRAGANA LETTER DA,2TI,2DI,2SMALL TU,2TU,2DU,2TE,2DE,2TO,2DO,2NA,2NI,2NU,2NE,2NO,2HA,2BA",
  "3071:0HIRAGANA LETTER PA,2HI,2BI,2PI,2HU,2BU,2PU,2HE,2BE,2PE,2HO,2BO,2PO,2MA,2MI,2MU,2ME,2MO",
  "3083:0HIRAGANA LETTER SMALL YA,2YA,2SMALL YU,2YU,2SMALL YO,2YO,2RA,2RI,2RU,2RE,2RO,2SMALL WA",
  "308f:0HIRAGANA LETTER WA,2WI,2WE,2WO,2N,2VU,2SMALL KA,3KE",
  "3099:0COMBINING KATAKANA-HIRAGANA VOICED SOUND MARK,2SEMI-VOICED SOUND MARK",
  "309b:0KATAKANA-HIRAGANA VOICED SOUND MARK,1SEMI-VOICED SOUND MARK,0HIRAGANA ITERATION MARK",
  "309e:0HIRAGANA VOICED ITERATION MARK,1DIGRAPH YORI,0KATAKANA-HIRAGANA DOUBLE HYPHEN",
  "30a1:0KATAKANA LETTER SMALL A,2A,2SMALL I,2I,2SMALL U,2U,2SMALL E,2E,2SMALL O,2O,2KA,2GA,2KI",
  "30ae:0KATAKANA LETTER GI,2KU,2GU,2KE,2GE,2KO,2GO,2SA,2ZA,2SI,2ZI,2SU,2ZU,2SE,2ZE,2SO,2ZO,2TA",
  "30c0:0KATAKANA LETTER DA,2TI,2DI,2SMALL TU,2TU,2DU,2TE,2DE,2TO,2DO,2NA,2NI,2NU,2NE,2NO,2HA,2BA",
  "30d1:0KATAKANA LETTER PA,2HI,2BI,2PI,2HU,2BU,2PU,2HE,2BE,2PE,2HO,2BO,2PO,2MA,2MI,2MU,2ME,2MO",
  "30e3:0KATAKANA LETTER SMALL YA,2YA,2SMALL YU,2YU,2SMALL YO,2YO,2RA,2RI,2RU,2RE,2RO,2SMALL WA",
  "30ef:0KATAKANA LETTER WA,2WI,2WE,2WO,2N,2VU,2SMALL KA,3KE,2VA,2VI,2VE,2VO,1MIDDLE DOT",
  "30fc:0KATAKANA-HIRAGANA PROLONGED SOUND MARK,0KATAKANA ITERATION MARK,1VOICED ITERATION MARK",
  "30ff:0KATAKANA DIGRAPH KOTO",
  "fb00:0LATIN SMALL LIGATURE FF,3FI,3FL,3FFI,3FFL,3LONG S T,3ST",
  "fe00:0VARIATION SELECTOR-1,1SELECTOR-2,1SELECTOR-3,1SELECTOR-4,1SELECTOR-5,1SELECTOR-6",
  "fe06:0VARIATION SELECTOR-7,1SELECTOR-8,1SELECTOR-9,1SELECTOR-10,1SELECTOR-11,1SELECTOR-12",
  "fe0c:0VARIATION SELECTOR-13,1SELECTOR-14,1SELECTOR-15,1SELECTOR-16",
  "feff:0ZERO WIDTH NO-BREAK SPACE",
  "ff01:0FULLWIDTH EXCLAMATION MARK,1QUOTATION MARK,1NUMBER SIGN,1DOLLAR SIGN,1PERCENT SIGN",
  "ff06:0FULLWIDTH AMPERSAND,1APOSTROPHE,1LEFT PARENTHESIS,1RIGHT PARENTHESIS,1ASTERISK",
  "ff0b:0FULLWIDTH PLUS SIGN,1COMMA,1HYPHEN-MINUS,1FULL STOP,1SOLIDUS,1DIGIT ZERO,2ONE,2TWO",
  "ff13:0FULLWIDTH DIGIT THREE,2FOUR,2FIVE,2SIX,2SEVEN,2EIGHT,2NINE,1COLON,1SEMICOLON",
  "ff1c:0FULLWIDTH LESS-THAN SIGN,1EQUALS SIGN,1GREATER-THAN SIGN,1QUESTION MARK,1COMMERCIAL AT",
  "ff21:0FULLWIDTH LATIN CAPITAL LETTER A,4B,4C,4D,4E,4F,4G,4H,4I,4J,4K,4L,4M,4N,4O,4P,4Q,4R,4S",
  "ff34:0FULLWIDTH LATIN CAPITAL LETTER T,4U,4V,4W,4X,4Y,4Z,1LEFT SQUARE BRACKET,1REVERSE SOLIDUS",
  "ff3d:0FULLWIDTH RIGHT SQUARE BRACKET,1CIRCUMFLEX ACCENT,1LOW LINE,1GRAVE ACCENT",
  "ff41:0FULLWIDTH LATIN SMALL LETTER A,4B,4C,4D,4E,4F,4G,4H,4I,4J,4K,4L,4M,4N,4O,4P,4Q,4R,4S,4T",
  "ff55:0FULLWIDTH LATIN SMALL LETTER U,4V,4W,4X,4Y,4Z,1LEFT CURLY BRACKET,1VERTICAL LINE",
  "ff5d:0FULLWIDTH RIGHT CURLY BRACKET,1TILDE",
  "fffc:0OBJECT REPLACEMENT CHARACTER,0REPLACEMENT CHARACTER",
  "1d400:0MATHEMATICAL BOLD CAPITAL A,3B,3C,3D,3E,3F,3G,3H,3I,3J,3K,3L,3M,3N,3O,3P,3Q,3R,3S,3T,3U",
  "1d415:0MATHEMATICAL BOLD CAPITAL V,3W,3X,3Y,3Z,2SMALL A,3B,3C,3D,3E,3F,3G,3H,3I,3J,3K,3L,3M,3N",
  "1d428:0MATHEMATICAL BOLD SMALL O,3P,3Q,3R,3S,3T,3U,3V,3W,3X,3Y,3Z",
  "1f000:0MAHJONG TILE EAST WIND,2SOUTH WIND,2WEST WIND,2NORTH WIND,2RED DRAGON,2GREEN DRAGON",
  "1f006:0MAHJONG TILE WHITE DRAGON,2ONE OF CHARACTERS,2TWO OF CHARACTERS,2THREE OF CHARACTERS",
  "1f00a:0MAHJONG TILE FOUR OF CHARACTERS,2FIVE OF CHARACTERS,2SIX OF CHARACTERS",
  "1f00d:0MAHJONG TILE SEVEN OF CHARACTERS,2EIGHT OF CHARACTERS,2NINE OF CHARACTERS",
  "1f010:0MAHJONG TILE ONE OF BAMBOOS,2TWO OF BAMBOOS,2THREE OF BAMBOOS,2FOUR OF BAMBOOS",
  "1f014:0MAHJONG TILE FIVE OF BAMBOOS,2SIX OF BAMBOOS,2SEVEN OF BAMBOOS,2EIGHT OF BAMBOOS",
  "1f018:0MAHJONG TILE NINE OF BAMBOOS,2ONE OF CIRCLES,2TWO OF CIRCLES,2THREE OF CIRCLES",
  "1f01c:0MAHJONG TILE FOUR OF CIRCLES,2FIVE OF CIRCLES,2SIX OF CIRCLES,2SEVEN OF CIRCLES",
  "1f020:0MAHJONG TILE EIGHT OF CIRCLES,2NINE OF CIRCLES,2PLUM,2ORCHID,2BAMBOO,2CHRYSANTHEMUM",
  "1f026:0MAHJONG TILE SPRING,2SUMMER,2AUTUMN,2WINTER,2JOKER,2BACK",
  "1f0a0:0PLAYING CARD BACK,2ACE OF SPADES,2TWO OF SPADES,2THREE OF SPADES,2FOUR OF SPADES",
  "1f0a5:0PLAYING CARD FIVE OF SPADES,2SIX OF SPADES,2SEVEN OF SPADES,2EIGHT OF SPADES",
  "1f0a9:0PLAYING CARD NINE OF SPADES,2TEN OF SPADES,2JACK OF SPADES,2KNIGHT OF SPADES",
  "1f0ad:0PLAYING CARD QUEEN OF SPADES,2KING OF SPADES",
  "1f0b1:0PLAYING CARD ACE OF HEARTS,2TWO OF HEARTS,2THREE OF HEARTS,2FOUR OF HEARTS",
  "1f0b5:0PLAYING CARD FIVE OF HEARTS,2SIX OF HEARTS,2SEVEN OF HEARTS,2EIGHT OF HEARTS",
  "1f0b9:0PLAYING CARD NINE OF HEARTS,2TEN OF HEARTS,2JACK OF HEARTS,2KNIGHT OF HEARTS",
  "1f0bd:0PLAYING CARD QUEEN OF HEARTS,2KING OF HEARTS,2RED JOKER",
  "1f0c1:0PLAYING CARD ACE OF DIAMONDS,2TWO OF DIAMONDS,2THREE OF DIAMONDS,2FOUR OF DIAMONDS",
  "1f0c5:0PLAYING CARD FIVE OF DIAMONDS,2SIX OF DIAMONDS,2SEVEN OF DIAMONDS,2EIGHT OF DIAMONDS",
  "1f0c9:0PLAYING CARD NINE OF DIAMONDS,2TEN OF DIAMONDS,2JACK OF DIAMONDS,2KNIGHT OF DIAMONDS",
  "1f0cd:0PLAYING CARD QUEEN OF DIAMONDS,2KING OF DIAMONDS,2BLACK JOKER",
  "1f0d1:0PLAYING CARD ACE OF CLUBS,2TWO OF CLUBS,2THREE OF CLUBS,2FOUR OF CLUBS,2FIVE OF CLUBS",
  "1f0d6:0PLAYING CARD SIX OF CLUBS,2SEVEN OF CLUBS,2EIGHT OF CLUBS,2NINE OF CLUBS,2TEN OF CLUBS",
  "1f0db:0PLAYING CARD JACK OF CLUBS,2KNIGHT OF CLUBS,2QUEEN OF CLUBS,2KING OF CLUBS,2WHITE JOKER",
  "1f1e6:0REGIONAL INDICATOR SYMBOL LETTER A,4B,4C,4D,4E,4F,4G,4H,4I,4J,4K,4L,4M,4N,4O,4P,4Q,4R",
  "1f1f8:0REGIONAL INDICATOR SYMBOL LETTER S,4T,4U,4V,4W,4X,4Y,4Z",
  "1f300:0CYCLONE,0FOGGY,0CLOSED UMBRELLA,0NIGHT WITH STARS,0SUNRISE OVER MOUNTAINS,1",
  "1f306:0CITYSCAPE AT DUSK,0SUNSET OVER BUILDINGS,0RAINBOW,0BRIDGE AT NIGHT,0WATER WAVE,0VOLCANO",
  "1f30c:0MILKY WAY,0EARTH GLOBE EUROPE-AFRICA,2AMERICAS,2ASIA-AUSTRALIA,0GLOBE WITH MERIDIANS",
  "1f311:0NEW MOON SYMBOL,0WAXING CRESCENT MOON SYMBOL,0FIRST QUARTER MOON SYMBOL",
  "1f314:0WAXING GIBBOUS MOON SYMBOL,0FULL MOON SYMBOL,0WANING GIBBOUS MOON SYMBOL",
  "1f317:0LAST QUARTER MOON SYMBOL,0WANING CRESCENT MOON SYMBOL,0CRESCENT MOON",
  "1f31a:0NEW MOON WITH FACE,0FIRST QUARTER MOON WITH FACE,0LAST QUARTER MOON WITH FACE",
  "1f31d:0FULL MOON WITH FACE,0SUN WITH FACE,0GLOWING STAR,0SHOOTING STAR,0THERMOMETER",
  "1f322:0BLACK DROPLET,0WHITE SUN,2WITH SMALL CLOUD,2BEHIND CLOUD,4WITH RAIN,0CLOUD WITH RAIN",
  "1f328:0CLOUD WITH SNOW,2LIGHTNING,2TORNADO,0FOG,0WIND BLOWING FACE,0HOT DOG,0TACO,0BURRITO",
  "1f330:0CHESTNUT,0SEEDLING,0EVERGREEN TREE,0DECIDUOUS TREE,0PALM TREE,0CACTUS,0HOT PEPPER",
  "1f337:0TULIP,0CHERRY BLOSSOM,0ROSE,0HIBISCUS,0SUNFLOWER,0BLOSSOM,0EAR OF MAIZE,2RICE,0HERB",
  "1f340:0FOUR LEAF CLOVER,0MAPLE LEAF,0FALLEN LEAF,0LEAF FLUTTERING IN WIND,0MUSHROOM,0TOMATO",
  "1f346:0AUBERGINE,0GRAPES,0MELON,0WATERMELON,0TANGERINE,0LEMON,0BANANA,0PINEAPPLE,0RED APPLE",
  "1f34f:0GREEN APPLE,0PEAR,0PEACH,0CHERRIES,0STRAWBERRY,0HAMBURGER,0SLICE OF PIZZA,0MEAT ON BONE",
  "1f357:0POULTRY LEG,0RICE CRACKER,1BALL,0COOKED RICE,0CURRY AND RICE,0STEAMING BOWL,0SPAGHETTI",
  "1f35e:0BREAD,0FRENCH FRIES,0ROASTED SWEET POTATO,0DANGO,0ODEN,0SUSHI,0FRIED SHRIMP",
  "1f365:0FISH CAKE WITH SWIRL DESIGN,0SOFT ICE CREAM,0SHAVED ICE,0ICE CREAM,0DOUGHNUT,0COOKIE",
  "1f36b:0CHOCOLATE BAR,0CANDY,0LOLLIPOP,0CUSTARD,0HONEY POT,0SHORTCAKE,0BENTO BOX,0POT OF FOOD",
  "1f373:0COOKING,0FORK AND KNIFE,0TEACUP WITHOUT HANDLE,0SAKE BOTTLE AND CUP,0WINE GLASS",
  "1f378:0COCKTAIL GLASS,0TROPICAL DRINK,0BEER MUG,0CLINKING BEER MUGS,0BABY BOTTLE",
  "1f37d:0FORK AND KNIFE WITH PLATE,0BOTTLE WITH POPPING CORK,0POPCORN,0RIBBON,0WRAPPED PRESENT",
  "1f382:0BIRTHDAY CAKE,0JACK-O-LANTERN,0CHRISTMAS TREE,0FATHER CHRISTMAS,0FIREWORKS",
  "1f387:0FIREWORK SPARKLER,0BALLOON,0PARTY POPPER,0CONFETTI BALL,0TANABATA TREE,0CROSSED FLAGS",
  "1f38d:0PINE DECORATION,0JAPANESE DOLLS,0CARP STREAMER,0WIND CHIME,0MOON VIEWING CEREMONY",
  "1f392:0SCHOOL SATCHEL,0GRADUATION CAP,0HEART WITH TIP ON THE LEFT,0BOUQUET OF FLOWERS",
  "1f396:0MILITARY MEDAL,0REMINDER RIBBON,0MUSICAL KEYBOARD WITH JACKS,0STUDIO MICROPHONE",
  "1f39a:0LEVEL SLIDER,0CONTROL KNOBS,0BEAMED ASCENDING MUSICAL NOTES,1DESCENDING MUSICAL NOTES",
  "1f39e:0FILM FRAMES,0ADMISSION TICKETS,0CAROUSEL HORSE,0FERRIS WHEEL,0ROLLER COASTER",
  "1f3a3:0FISHING POLE AND FISH,0MICROPHONE,0MOVIE CAMERA,0CINEMA,0HEADPHONE,0ARTIST PALETTE",
  "1f3a9:0TOP HAT,0CIRCUS TENT,0TICKET,0CLAPPER BOARD,0PERFORMING ARTS,0VIDEO GAME,0DIRECT HIT",
  "1f3b0:0SLOT MACHINE,0BILLIARDS,0GAME DIE,0BOWLING,0FLOWER PLAYING CARDS,0MUSICAL NOTE",
  "1f3b6:0MULTIPLE MUSICAL NOTES,0SAXOPHONE,0GUITAR,0MUSICAL KEYBOARD,0TRUMPET,0VIOLIN",
  "1f3bc:0MUSICAL SCORE,0RUNNING SHIRT WITH SASH,0TENNIS RACQUET AND BALL,0SKI AND SKI BOOT",
  "1f3c0:0BASKETBALL AND HOOP,0CHEQUERED FLAG,0SNOWBOARDER,0RUNNER,0SURFER,0SPORTS MEDAL,0TROPHY",
  "1f3c7:0HORSE RACING,0AMERICAN FOOTBALL,0RUGBY FOOTBALL,0SWIMMER,0WEIGHT LIFTER,0GOLFER",
  "1f3cd:0RACING MOTORCYCLE,1CAR,0CRICKET BAT AND BALL,0VOLLEYBALL,0FIELD HOCKEY STICK AND BALL",
  "1f3d2:0ICE HOCKEY STICK AND PUCK,0TABLE TENNIS PADDLE AND BALL,0SNOW CAPPED MOUNTAIN,0CAMPING",
  "1f3d6:0BEACH WITH UMBRELLA,0BUILDING CONSTRUCTION,0HOUSE BUILDINGS,0CITYSCAPE",
  "1f3da:0DERELICT HOUSE BUILDING,0CLASSICAL BUILDING,0DESERT,1ISLAND,0NATIONAL PARK,0STADIUM",
  "1f3e0:0HOUSE BUILDING,1WITH GARDEN,0OFFICE BUILDING,0JAPANESE POST OFFICE",
  "1f3e4:0EUROPEAN POST OFFICE,0HOSPITAL,0BANK,0AUTOMATED TELLER MACHINE,0HOTEL,0LOVE HOTEL",
  "1f3ea:0CONVENIENCE STORE,0SCHOOL,0DEPARTMENT STORE,0FACTORY,0IZAKAYA LANTERN,0JAPANESE CASTLE",
  "1f3f0:0EUROPEAN CASTLE,0WHITE PENNANT,0BLACK PENNANT,0WAVING WHITE FLAG,1BLACK FLAG,0ROSETTE",
  "1f3f6:0BLACK ROSETTE,0LABEL,0BADMINTON RACQUET AND SHUTTLECOCK,0BOW AND ARROW,0AMPHORA",
  "1f3fb:0EMOJI MODIFIER FITZPATRICK TYPE-1-2,3TYPE-3,3TYPE-4,3TYPE-5,3TYPE-6,0RAT,0MOUSE,0OX",
  "1f403:0WATER BUFFALO,0COW,0TIGER,0LEOPARD,0RABBIT,0CAT,0DRAGON,0CROCODILE,0WHALE,0SNAIL,0SNAKE",
  "1f40e:0HORSE,0RAM,0GOAT,0SHEEP,0MONKEY,0ROOSTER,0CHICKEN,0DOG,0PIG,0BOAR,0ELEPHANT,0OCTOPUS",
  "1f41a:0SPIRAL SHELL,0BUG,0ANT,0HONEYBEE,0LADY BEETLE,0FISH,0TROPICAL FISH,0BLOWFISH,0TURTLE",
  "1f423:0HATCHING CHICK,0BABY CHICK,0FRONT-FACING BABY CHICK,0BIRD,0PENGUIN,0KOALA,0POODLE",
  "1f42a:0DROMEDARY CAMEL,0BACTRIAN CAMEL,0DOLPHIN,0MOUSE FACE,0COW FACE,0TIGER FACE,0RABBIT FACE",
  "1f431:0CAT FACE,0DRAGON FACE,0SPOUTING WHALE,0HORSE FACE,0MONKEY FACE,0DOG FACE,0PIG FACE",
  "1f438:0FROG FACE,0HAMSTER FACE,0WOLF FACE,0BEAR FACE,0PANDA FACE,0PIG NOSE,0PAW PRINTS",
  "1f43f:0CHIPMUNK,0EYES,0EYE,0EAR,0NOSE,0MOUTH,0TONGUE,0WHITE UP POINTING BACKHAND INDEX",
  "1f447:0WHITE DOWN POINTING BACKHAND INDEX,1LEFT POINTING BACKHAND INDEX",
  "1f449:0WHITE RIGHT POINTING BACKHAND INDEX,0FISTED HAND SIGN,0WAVING HAND SIGN,0OK HAND SIGN",
  "1f44d:0THUMBS UP SIGN,1DOWN SIGN,0CLAPPING HANDS SIGN,0OPEN HANDS SIGN,0CROWN,0WOMANS HAT",
  "1f453:0EYEGLASSES,0NECKTIE,0T-SHIRT,0JEANS,0DRESS,0KIMONO,0BIKINI,0WOMANS CLOTHES,0PURSE",
  "1f45c:0HANDBAG,0POUCH,0MANS SHOE,0ATHLETIC SHOE,0HIGH-HEELED SHOE,0WOMANS SANDAL,1BOOTS",
  "1f463:0FOOTPRINTS,0BUST IN SILHOUETTE,0BUSTS IN SILHOUETTE,0BOY,0GIRL,0MAN,0WOMAN,0FAMILY",
  "1f46b:0MAN AND WOMAN HOLDING HANDS,0TWO MEN HOLDING HANDS,1WOMEN HOLDING HANDS,0POLICE OFFICER",
  "1f46f:0WOMAN WITH BUNNY EARS,0BRIDE WITH VEIL,0PERSON WITH BLOND HAIR,0MAN WITH GUA PI MAO",
  "1f473:0MAN WITH TURBAN,0OLDER MAN,1WOMAN,0BABY,0CONSTRUCTION WORKER,0PRINCESS,0JAPANESE OGRE",
  "1f47a:0JAPANESE GOBLIN,0GHOST,0BABY ANGEL,0EXTRATERRESTRIAL ALIEN,0ALIEN MONSTER,0IMP,0SKULL",
  "1f481:0INFORMATION DESK PERSON,0GUARDSMAN,0DANCER,0LIPSTICK,0NAIL POLISH,0FACE MASSAGE",
  "1f487:0HAIRCUT,0BARBER POLE,0SYRINGE,0PILL,0KISS MARK,0LOVE LETTER,0RING,0GEM STONE,0KISS",
  "1f490:0BOUQUET,0COUPLE WITH HEART,0WEDDING,0BEATING HEART,0BROKEN HEART,0TWO HEARTS",
  "1f496:0SPARKLING HEART,0GROWING HEART,0HEART WITH ARROW,0BLUE HEART,0GREEN HEART,0YELLOW HEART",
  "1f49c:0PURPLE HEART,0HEART WITH RIBBON,0REVOLVING HEARTS,0HEART DECORATION",
  "1f4a0:0DIAMOND SHAPE WITH A DOT INSIDE,0ELECTRIC LIGHT BULB,0ANGER SYMBOL,0BOMB",
  "1f4a4:0SLEEPING SYMBOL,0COLLISION SYMBOL,0SPLASHING SWEAT SYMBOL,0DROPLET,0DASH SYMBOL",
  "1f4a9:0PILE OF POO,0FLEXED BICEPS,0DIZZY SYMBOL,0SPEECH BALLOON,0THOUGHT BALLOON,0WHITE FLOWER",
  "1f4af:0HUNDRED POINTS SYMBOL,0MONEY BAG,0CURRENCY EXCHANGE,0HEAVY DOLLAR SIGN,0CREDIT CARD",
  "1f4b4:0BANKNOTE WITH YEN SIGN,2DOLLAR SIGN,2EURO SIGN,2POUND SIGN,0MONEY WITH WINGS",
  "1f4b9:0CHART WITH UPWARDS TREND AND YEN SIGN,0SEAT,0PERSONAL COMPUTER,0BRIEFCASE,0MINIDISC",
  "1f4be:0FLOPPY DISK,0OPTICAL DISC,0DVD,0FILE FOLDER,0OPEN FILE FOLDER,0PAGE WITH CURL",
  "1f4c4:0PAGE FACING UP,0CALENDAR,0TEAR-OFF CALENDAR,0CARD INDEX,0CHART WITH UPWARDS TREND",
  "1f4c9:0CHART WITH DOWNWARDS TREND,0BAR CHART,0CLIPBOARD,0PUSHPIN,0ROUND PUSHPIN,0PAPERCLIP",
  "1f4cf:0STRAIGHT RULER,0TRIANGULAR RULER,0BOOKMARK TABS,0LEDGER,0NOTEBOOK",
  "1f4d4:0NOTEBOOK WITH DECORATIVE COVER,0CLOSED BOOK,0OPEN BOOK,0GREEN BOOK,0BLUE BOOK",
  "1f4d9:0ORANGE BOOK,0BOOKS,0NAME BADGE,0SCROLL,0MEMO,0TELEPHONE RECEIVER,0PAGER,0FAX MACHINE",
  "1f4e1:0SATELLITE ANTENNA,0PUBLIC ADDRESS LOUDSPEAKER,0CHEERING MEGAPHONE,0OUTBOX TRAY",
  "1f4e5:0INBOX TRAY,0PACKAGE,0E-MAIL SYMBOL,0INCOMING ENVELOPE",
  "1f4e9:0ENVELOPE WITH DOWNWARDS ARROW ABOVE,0CLOSED MAILBOX WITH LOWERED FLAG,3RAISED FLAG",
  "1f4ec:0OPEN MAILBOX WITH RAISED FLAG,3LOWERED FLAG,0POSTBOX,0POSTAL HORN,0NEWSPAPER",
  "1f4f1:0MOBILE PHONE,2WITH RIGHTWARDS ARROW AT LEFT,0VIBRATION MODE,0MOBILE PHONE OFF",
  "1f4f5:0NO MOBILE PHONES,0ANTENNA WITH BARS,0CAMERA,1WITH FLASH,0VIDEO CAMERA,0TELEVISION",
  "1f4fb:0RADIO,0VIDEOCASSETTE,0FILM PROJECTOR,0PORTABLE STEREO,0PRAYER BEADS",
  "1f500:0TWISTED RIGHTWARDS ARROWS,0CLOCKWISE RIGHTWARDS AND LEFTWARDS OPEN CIRCLE ARROWS",
  "1f502:0CLOCKWISE RIGHTWARDS AND LEFTWARDS OPEN CIRCLE ARROWS WITH CIRCLED ONE OVERLAY",
  "1f503:0CLOCKWISE DOWNWARDS AND UPWARDS OPEN CIRCLE ARROWS",
  "1f504:0ANTICLOCKWISE DOWNWARDS AND UPWARDS OPEN CIRCLE ARROWS,0LOW BRIGHTNESS SYMBOL",
  "1f506:0HIGH BRIGHTNESS SYMBOL,0SPEAKER WITH CANCELLATION STROKE,1,1WITH ONE SOUND WAVE",
  "1f50a:0SPEAKER WITH THREE SOUND WAVES,0BATTERY,0ELECTRIC PLUG,0LEFT-POINTING MAGNIFYING GLASS",
  "1f50e:0RIGHT-POINTING MAGNIFYING GLASS,0LOCK WITH INK PEN,0CLOSED LOCK WITH KEY,0KEY,0LOCK",
  "1f513:0OPEN LOCK,0BELL,1WITH CANCELLATION STROKE,0BOOKMARK,0LINK SYMBOL,0RADIO BUTTON",
  "1f519:0BACK WITH LEFTWARDS ARROW ABOVE,0END WITH LEFTWARDS ARROW ABOVE",
  "1f51b:0ON WITH EXCLAMATION MARK WITH LEFT RIGHT ARROW ABOVE,0SOON WITH RIGHTWARDS ARROW ABOVE",
  "1f51d:0TOP WITH UPWARDS ARROW ABOVE,0NO ONE UNDER EIGHTEEN SYMBOL,0KEYCAP TEN",
  "1f520:0INPUT SYMBOL FOR LATIN CAPITAL LETTERS,4SMALL LETTERS,3NUMBERS,3SYMBOLS,3LATIN LETTERS",
  "1f525:0FIRE,0ELECTRIC TORCH,0WRENCH,0HAMMER,0NUT AND BOLT,0HOCHO,0PISTOL,0MICROSCOPE",
  "1f52d:0TELESCOPE,0CRYSTAL BALL,0SIX POINTED STAR WITH MIDDLE DOT,0JAPANESE SYMBOL FOR BEGINNER",
  "1f531:0TRIDENT EMBLEM,0BLACK SQUARE BUTTON,0WHITE SQUARE BUTTON,0LARGE RED CIRCLE,1BLUE CIRCLE",
  "1f536:0LARGE ORANGE DIAMOND,1BLUE DIAMOND,0SMALL ORANGE DIAMOND,1BLUE DIAMOND",
  "1f53a:0UP-POINTING RED TRIANGLE,0DOWN-POINTING RED TRIANGLE,0UP-POINTING SMALL RED TRIANGLE",
  "1f53d:0DOWN-POINTING SMALL RED TRIANGLE,0LOWER RIGHT SHADOWED WHITE CIRCLE",
  "1f53f:0UPPER RIGHT SHADOWED WHITE CIRCLE,0CIRCLED CROSS POMMEE",
  "1f541:0CROSS POMMEE WITH HALF-CIRCLE BELOW,2,0NOTCHED LEFT SEMICIRCLE WITH THREE DOTS",
  "1f544:0NOTCHED RIGHT SEMICIRCLE WITH THREE DOTS,0SYMBOL FOR MARKS CHAPTER,0WHITE LATIN CROSS",
  "1f547:0HEAVY LATIN CROSS,0CELTIC CROSS,0OM SYMBOL,0DOVE OF PEACE,0KAABA,0MOSQUE,0SYNAGOGUE",
  "1f54e:0MENORAH WITH NINE BRANCHES,0BOWL OF HYGIEIA,0CLOCK FACE ONE OCLOCK,2TWO OCLOCK",
  "1f552:0CLOCK FACE THREE OCLOCK,2FOUR OCLOCK,2FIVE OCLOCK,2SIX OCLOCK,2SEVEN OCLOCK",
  "1f557:0CLOCK FACE EIGHT OCLOCK,2NINE OCLOCK,2TEN OCLOCK,2ELEVEN OCLOCK,2TWELVE OCLOCK",
  "1f55c:0CLOCK FACE ONE-THIRTY,2TWO-THIRTY,2THREE-THIRTY,2FOUR-THIRTY,2FIVE-THIRTY,2SIX-THIRTY",
  "1f562:0CLOCK FACE SEVEN-THIRTY,2EIGHT-THIRTY,2NINE-THIRTY,2TEN-THIRTY,2ELEVEN-THIRTY",
  "1f567:0CLOCK FACE TWELVE-THIRTY,0RIGHT SPEAKER,2WITH ONE SOUND WAVE,3THREE SOUND WAVES",
  "1f56b:0BULLHORN,1WITH SOUND WAVES,0RINGING BELL,0BOOK,0CANDLE,0MANTELPIECE CLOCK",
  "1f571:0BLACK SKULL AND CROSSBONES,0NO PIRACY,0HOLE,0MAN IN BUSINESS SUIT LEVITATING",
  "1f575:0SLEUTH OR SPY,0DARK SUNGLASSES,0SPIDER,1WEB,0JOYSTICK,0MAN DANCING",
  "1f57b:0LEFT HAND TELEPHONE RECEIVER,0TELEPHONE RECEIVER WITH PAGE",
  "1f57d:0RIGHT HAND TELEPHONE RECEIVER,0WHITE TOUCHTONE TELEPHONE,0BLACK TOUCHTONE TELEPHONE",
  "1f580:0TELEPHONE ON TOP OF MODEM,0CLAMSHELL MOBILE PHONE,0BACK OF ENVELOPE,0STAMPED ENVELOPE",
  "1f584:0ENVELOPE WITH LIGHTNING,0FLYING ENVELOPE,0PEN OVER STAMPED ENVELOPE,0LINKED PAPERCLIPS",
  "1f588:0BLACK PUSHPIN,0LOWER LEFT PENCIL,2BALLPOINT PEN,2FOUNTAIN PEN,2PAINTBRUSH,2CRAYON",
  "1f58e:0LEFT WRITING HAND,0TURNED OK HAND SIGN,0RAISED HAND WITH FINGERS SPLAYED",
  "1f591:0REVERSED RAISED HAND WITH FINGERS SPLAYED,1THUMBS UP SIGN,2DOWN SIGN,1VICTORY HAND",
  "1f595:0REVERSED HAND WITH MIDDLE FINGER EXTENDED",
  "1f596:0RAISED HAND WITH PART BETWEEN MIDDLE AND RING FINGERS",
  "1f597:0WHITE DOWN POINTING LEFT HAND INDEX,0SIDEWAYS WHITE LEFT POINTING INDEX",
  "1f599:0SIDEWAYS WHITE RIGHT POINTING INDEX,1BLACK LEFT POINTING INDEX,2RIGHT POINTING INDEX",
  "1f59c:0BLACK LEFT POINTING BACKHAND INDEX,1RIGHT POINTING BACKHAND INDEX",
  "1f59e:0SIDEWAYS WHITE UP POINTING INDEX,2DOWN POINTING INDEX,1BLACK UP POINTING INDEX",
  "1f5a1:0SIDEWAYS BLACK DOWN POINTING INDEX,0BLACK UP POINTING BACKHAND INDEX",
  "1f5a3:0BLACK DOWN POINTING BACKHAND INDEX,1HEART,0DESKTOP COMPUTER,0KEYBOARD AND MOUSE",
  "1f5a7:0THREE NETWORKED COMPUTERS,0PRINTER,0POCKET CALCULATOR,0BLACK HARD SHELL FLOPPY DISK",
  "1f5ab:0WHITE HARD SHELL FLOPPY DISK,0SOFT SHELL FLOPPY DISK,0TAPE CARTRIDGE,0WIRED KEYBOARD",
  "1f5af:0ONE BUTTON MOUSE,0TWO BUTTON MOUSE,0THREE BUTTON MOUSE,0TRACKBALL",
  "1f5b3:0OLD PERSONAL COMPUTER,0HARD DISK,0SCREEN,0PRINTER ICON,0FAX ICON,0OPTICAL DISC ICON",
  "1f5b9:0DOCUMENT WITH TEXT,3AND PICTURE,2PICTURE,0FRAME WITH PICTURE,2TILES,2AN X,0BLACK FOLDER",
  "1f5c0:0FOLDER,0OPEN FOLDER,0CARD INDEX DIVIDERS,1FILE BOX,0FILE CABINET,0EMPTY NOTE,2PAGE,2PAD",
  "1f5c8:0NOTE,1PAGE,1PAD,0EMPTY DOCUMENT,1PAGE,1PAGES,0DOCUMENT,0PAGE,0PAGES,0WASTEBASKET",
  "1f5d2:0SPIRAL NOTE PAD,1CALENDAR PAD,0DESKTOP WINDOW,0MINIMIZE,0MAXIMIZE,0OVERLAP",
  "1f5d8:0CLOCKWISE RIGHT AND LEFT SEMICIRCLE ARROWS,0CANCELLATION X,0INCREASE FONT SIZE SYMBOL",
  "1f5db:0DECREASE FONT SIZE SYMBOL,0COMPRESSION,0OLD KEY,0ROLLED-UP NEWSPAPER",
  "1f5df:0PAGE WITH CIRCLED TEXT,0STOCK CHART,0DAGGER KNIFE,0LIPS,0SPEAKING HEAD IN SILHOUETTE",
  "1f5e4:0THREE RAYS ABOVE,2BELOW,2LEFT,2RIGHT,0LEFT SPEECH BUBBLE,0RIGHT SPEECH BUBBLE",
  "1f5ea:0TWO SPEECH BUBBLES,0THREE SPEECH BUBBLES,0LEFT THOUGHT BUBBLE,0RIGHT THOUGHT BUBBLE",
  "1f5ee:0LEFT ANGER BUBBLE,0RIGHT ANGER BUBBLE,0MOOD BUBBLE,0LIGHTNING MOOD BUBBLE,2",
  "1f5f3:0BALLOT BOX WITH BALLOT,1SCRIPT X,1BOX WITH SCRIPT X,1BOLD SCRIPT X",
  "1f5f7:0BALLOT BOX WITH BOLD SCRIPT X,0LIGHT CHECK MARK,0BALLOT BOX WITH BOLD CHECK,0WORLD MAP",
  "1f5fb:0MOUNT FUJI,0TOKYO TOWER,0STATUE OF LIBERTY,0SILHOUETTE OF JAPAN,0MOYAI,0GRINNING FACE",
  "1f601:0GRINNING FACE WITH SMILING EYES,0FACE WITH TEARS OF JOY,0SMILING FACE WITH OPEN MOUTH",
  "1f604:0SMILING FACE WITH OPEN MOUTH AND SMILING EYES,6COLD SWEAT,6TIGHTLY-CLOSED EYES,3HALO",
  "1f608:0SMILING FACE WITH HORNS,0WINKING FACE,0SMILING FACE WITH SMILING EYES",
  "1f60b:0FACE SAVOURING DELICIOUS FOOD,0RELIEVED FACE,0SMILING FACE WITH HEART-SHAPED EYES",
  "1f60e:0SMILING FACE WITH SUNGLASSES,0SMIRKING FACE,0NEUTRAL FACE,0EXPRESSIONLESS FACE",
  "1f612:0UNAMUSED FACE,0FACE WITH COLD SWEAT,0PENSIVE FACE,0CONFUSED FACE,0CONFOUNDED FACE",
  "1f617:0KISSING FACE,0FACE THROWING A KISS,0KISSING FACE WITH SMILING EYES,3CLOSED EYES",
  "1f61b:0FACE WITH STUCK-OUT TONGUE,4AND WINKING EYE,5TIGHTLY-CLOSED EYES,0DISAPPOINTED FACE",
  "1f61f:0WORRIED FACE,0ANGRY FACE,0POUTING FACE,0CRYING FACE,0PERSEVERING FACE",
  "1f624:0FACE WITH LOOK OF TRIUMPH,0DISAPPOINTED BUT RELIEVED FACE",
  "1f626:0FROWNING FACE WITH OPEN MOUTH,0ANGUISHED FACE,0FEARFUL FACE,0WEARY FACE,0SLEEPY FACE",
  "1f62b:0TIRED FACE,0GRIMACING FACE,0LOUDLY CRYING FACE,0FACE WITH OPEN MOUTH,0HUSHED FACE",
  "1f630:0FACE WITH OPEN MOUTH AND COLD SWEAT,1SCREAMING IN FEAR,0ASTONISHED FACE,0FLUSHED FACE",
  "1f634:0SLEEPING FACE,0DIZZY FACE,0FACE WITHOUT MOUTH,1WITH MEDICAL MASK",
  "1f638:0GRINNING CAT FACE WITH SMILING EYES,0CAT FACE WITH TEARS OF JOY",
  "1f63a:0SMILING CAT FACE WITH OPEN MOUTH,4HEART-SHAPED EYES,0CAT FACE WITH WRY SMILE",
  "1f63d:0KISSING CAT FACE WITH CLOSED EYES,0POUTING CAT FACE,0CRYING CAT FACE,0WEARY CAT FACE",
  "1f641:0SLIGHTLY FROWNING FACE,1SMILING FACE,0UPSIDE-DOWN FACE,0FACE WITH ROLLING EYES",
  "1f645:0FACE WITH NO GOOD GESTURE,2OK GESTURE,0PERSON BOWING DEEPLY,0SEE-NO-EVIL MONKEY",
  "1f649:0HEAR-NO-EVIL MONKEY,0SPEAK-NO-EVIL MONKEY,0HAPPY PERSON RAISING ONE HAND",
  "1f64c:0PERSON RAISING BOTH HANDS IN CELEBRATION,1FROWNING,1WITH POUTING FACE,2FOLDED HANDS",
  "1f680:0ROCKET,0HELICOPTER,0STEAM LOCOMOTIVE,0RAILWAY CAR,0HIGH-SPEED TRAIN,2WITH BULLET NOSE",
  "1f686:0TRAIN,0METRO,0LIGHT RAIL,0STATION,0TRAM,1CAR,0BUS,0ONCOMING BUS,0TROLLEYBUS,0BUS STOP",
  "1f690:0MINIBUS,0AMBULANCE,0FIRE ENGINE,0POLICE CAR,0ONCOMING POLICE CAR,0TAXI,0ONCOMING TAXI",
  "1f697:0AUTOMOBILE,0ONCOMING AUTOMOBILE,0RECREATIONAL VEHICLE,0DELIVERY TRUCK",
  "1f69b:0ARTICULATED LORRY,0TRACTOR,0MONORAIL,0MOUNTAIN RAILWAY,0SUSPENSION RAILWAY",
  "1f6a0:0MOUNTAIN CABLEWAY,0AERIAL TRAMWAY,0SHIP,0ROWBOAT,0SPEEDBOAT,0HORIZONTAL TRAFFIC LIGHT",
  "1f6a6:0VERTICAL TRAFFIC LIGHT,0CONSTRUCTION SIGN,0POLICE CARS REVOLVING LIGHT",
  "1f6a9:0TRIANGULAR FLAG ON POST,0DOOR,0NO ENTRY SIGN,0SMOKING SYMBOL,0NO SMOKING SYMBOL",
  "1f6ae:0PUT LITTER IN ITS PLACE SYMBOL,0DO NOT LITTER SYMBOL,0POTABLE WATER SYMBOL",
  "1f6b1:0NON-POTABLE WATER SYMBOL,0BICYCLE,0NO BICYCLES,0BICYCLIST,0MOUNTAIN BICYCLIST",
  "1f6b6:0PEDESTRIAN,0NO PEDESTRIANS,0CHILDREN CROSSING,0MENS SYMBOL,0WOMENS SYMBOL,0RESTROOM",
  "1f6bc:0BABY SYMBOL,0TOILET,0WATER CLOSET,0SHOWER,0BATH,0BATHTUB,0PASSPORT CONTROL,0CUSTOMS",
  "1f6c4:0BAGGAGE CLAIM,0LEFT LUGGAGE,0TRIANGLE WITH ROUNDED CORNERS,0PROHIBITED SIGN",
  "1f6c8:0CIRCLED INFORMATION SOURCE,0BOYS SYMBOL,0GIRLS SYMBOL,0COUCH AND LAMP",
  "1f6cc:0SLEEPING ACCOMMODATION,0SHOPPING BAGS,0BELLHOP BELL,0BED,0PLACE OF WORSHIP",
  "1f6d1:0OCTAGONAL SIGN,0SHOPPING TROLLEY,0STUPA,0PAGODA,0HINDU TEMPLE,0HUT,0ELEVATOR",
  "1f6dd:0PLAYGROUND SLIDE,0WHEEL,0RING BUOY,0HAMMER AND WRENCH,0SHIELD,0OIL DRUM,0MOTORWAY",
  "1f6e4:0RAILWAY TRACK,0MOTOR BOAT,0UP-POINTING MILITARY AIRPLANE,1AIRPLANE,1SMALL AIRPLANE",
  "1f6e9:0SMALL AIRPLANE,0NORTHEAST-POINTING AIRPLANE,0AIRPLANE DEPARTURE,1ARRIVING",
  "1f6f0:0SATELLITE,0ONCOMING FIRE ENGINE,0DIESEL LOCOMOTIVE,0PASSENGER SHIP,0SCOOTER",
  "1f6f5:0MOTOR SCOOTER,0CANOE,0SLED,0FLYING SAUCER,0SKATEBOARD,0AUTO RICKSHAW,0PICKUP TRUCK",
  "1f6fc:0ROLLER SKATE",
  "1f7e0:0LARGE ORANGE CIRCLE,1YELLOW CIRCLE,1GREEN CIRCLE,1PURPLE CIRCLE,1BROWN CIRCLE",
  "1f7e5:0LARGE RED SQUARE,1BLUE SQUARE,1ORANGE SQUARE,1YELLOW SQUARE,1GREEN SQUARE",
  "1f7ea:0LARGE PURPLE SQUARE,1BROWN SQUARE",
  "1f900:0CIRCLED CROSS FORMEE WITH FOUR DOTS,4TWO DOTS,3,0LEFT HALF CIRCLE WITH FOUR DOTS",
  "1f904:0LEFT HALF CIRCLE WITH THREE DOTS,4TWO DOTS,4DOT,3,0DOWNWARD FACING HOOK,2NOTCHED HOOK",
  "1f90a:0DOWNWARD FACING HOOK WITH DOT,2NOTCHED HOOK WITH DOT,0PINCHED FINGERS,0WHITE HEART",
  "1f90e:0BROWN HEART,0PINCHING HAND,0ZIPPER-MOUTH FACE,0MONEY-MOUTH FACE,0FACE WITH THERMOMETER",
  "1f913:0NERD FACE,0THINKING FACE,0FACE WITH HEAD-BANDAGE,0ROBOT FACE,0HUGGING FACE",
  "1f918:0SIGN OF THE HORNS,0CALL ME HAND,0RAISED BACK OF HAND,0LEFT-FACING FIST",
  "1f91c:0RIGHT-FACING FIST,0HANDSHAKE,0HAND WITH INDEX AND MIDDLE FINGERS CROSSED",
  "1f91f:0I LOVE YOU HAND SIGN,0FACE WITH COWBOY HAT,0CLOWN FACE,0NAUSEATED FACE",
  "1f923:0ROLLING ON THE FLOOR LAUGHING,0DROOLING FACE,0LYING FACE,0FACE PALM,0SNEEZING FACE",
  "1f928:0FACE WITH ONE EYEBROW RAISED,0GRINNING FACE WITH STAR EYES,3ONE LARGE AND ONE SMALL EYE",
  "1f92b:0FACE WITH FINGER COVERING CLOSED LIPS,0SERIOUS FACE WITH SYMBOLS COVERING MOUTH",
  "1f92d:0SMILING FACE WITH SMILING EYES AND HAND COVERING MOUTH,0FACE WITH OPEN MOUTH VOMITING",
  "1f92f:0SHOCKED FACE WITH EXPLODING HEAD,0PREGNANT WOMAN,0BREAST-FEEDING,0PALMS UP TOGETHER",
  "1f933:0SELFIE,0PRINCE,0MAN IN TUXEDO,0MOTHER CHRISTMAS,0SHRUG,0PERSON DOING CARTWHEEL",
  "1f939:0JUGGLING,0FENCER,0MODERN PENTATHLON,0WRESTLERS,0WATER POLO,0HANDBALL,0DIVING MASK",
  "1f940:0WILTED FLOWER,0DRUM WITH DRUMSTICKS,0CLINKING GLASSES,0TUMBLER GLASS,0SPOON,0GOAL NET",
  "1f946:0RIFLE,0FIRST PLACE MEDAL,0SECOND PLACE MEDAL,0THIRD PLACE MEDAL,0BOXING GLOVE",
  "1f94b:0MARTIAL ARTS UNIFORM,0CURLING STONE,0LACROSSE STICK AND BALL,0SOFTBALL,0FLYING DISC",
  "1f950:0CROISSANT,0AVOCADO,0CUCUMBER,0BACON,0POTATO,0CARROT,0BAGUETTE BREAD,0GREEN SALAD",
  "1f958:0SHALLOW PAN OF FOOD,0STUFFED FLATBREAD,0EGG,0GLASS OF MILK,0PEANUTS,0KIWIFRUIT",
  "1f95e:0PANCAKES,0DUMPLING,0FORTUNE COOKIE,0TAKEOUT BOX,0CHOPSTICKS,0BOWL WITH SPOON",
  "1f964:0CUP WITH STRAW,0COCONUT,0BROCCOLI,0PIE,0PRETZEL,0CUT OF MEAT,0SANDWICH,0CANNED FOOD",
  "1f96c:0LEAFY GREEN,0MANGO,0MOON CAKE,0BAGEL,0SMILING FACE WITH SMILING EYES AND THREE HEARTS",
  "1f971:0YAWNING FACE,0SMILING FACE WITH TEAR,0FACE WITH PARTY HORN AND PARTY HAT",
  "1f974:0FACE WITH UNEVEN EYES AND WAVY MOUTH,0OVERHEATED FACE,0FREEZING FACE,0NINJA",
  "1f978:0DISGUISED FACE,0FACE HOLDING BACK TEARS,1WITH PLEADING EYES,0SARI,0LAB COAT,0GOGGLES",
  "1f97e:0HIKING BOOT,0FLAT SHOE,0CRAB,0LION FACE,0SCORPION,0TURKEY,0UNICORN FACE,0EAGLE,0DUCK",
  "1f987:0BAT,0SHARK,0OWL,0FOX FACE,0BUTTERFLY,0DEER,0GORILLA,0LIZARD,0RHINOCEROS,0SHRIMP,0SQUID",
  "1f992:0GIRAFFE FACE,0ZEBRA FACE,0HEDGEHOG,0SAUROPOD,0T-REX,0CRICKET,0KANGAROO,0LLAMA,0PEACOCK",
  "1f99b:0HIPPOPOTAMUS,0PARROT,0RACCOON,0LOBSTER,0MOSQUITO,0MICROBE,0BADGER,0SWAN,0MAMMOTH,0DODO",
  "1f9a5:0SLOTH,0OTTER,0ORANGUTAN,0SKUNK,0FLAMINGO,0OYSTER,0BEAVER,0BISON,0SEAL,0GUIDE DOG",
  "1f9af:0PROBING CANE,0EMOJI COMPONENT RED HAIR,2CURLY HAIR,2BALD,2WHITE HAIR,0BONE,0LEG,0FOOT",
  "1f9b7:0TOOTH,0SUPERHERO,0SUPERVILLAIN,0SAFETY VEST,0EAR WITH HEARING AID,0MOTORIZED WHEELCHAIR",
  "1f9bd:0MANUAL WHEELCHAIR,0MECHANICAL ARM,1LEG,0CHEESE WEDGE,0CUPCAKE,0SALT SHAKER",
  "1f9c3:0BEVERAGE BOX,0GARLIC,0ONION,0FALAFEL,0WAFFLE,0BUTTER,0MATE DRINK,0ICE CUBE,0BUBBLE TEA",
  "1f9cc:0TROLL,0STANDING PERSON,0KNEELING PERSON,0DEAF PERSON,0FACE WITH MONOCLE,0ADULT,0CHILD",
  "1f9d3:0OLDER ADULT,0BEARDED PERSON,0PERSON WITH HEADSCARF,1IN STEAMY ROOM,1CLIMBING",
  "1f9d8:0PERSON IN LOTUS POSITION,0MAGE,0FAIRY,0VAMPIRE,0MERPERSON,0ELF,0GENIE,0ZOMBIE,0BRAIN",
  "1f9e1:0ORANGE HEART,0BILLED CAP,0SCARF,0GLOVES,0COAT,0SOCKS,0RED GIFT ENVELOPE,0FIRECRACKER",
  "1f9e9:0JIGSAW PUZZLE PIECE,0TEST TUBE,0PETRI DISH,0DNA DOUBLE HELIX,0COMPASS,0ABACUS",
  "1f9ef:0FIRE EXTINGUISHER,0TOOLBOX,0BRICK,0MAGNET,0LUGGAGE,0LOTION BOTTLE,0SPOOL OF THREAD",
  "1f9f6:0BALL OF YARN,0SAFETY PIN,0TEDDY BEAR,0BROOM,0BASKET,0ROLL OF PAPER,0BAR OF SOAP,0SPONGE",
  "1f9fe:0RECEIPT,0NAZAR AMULET",
  "1fa70:0BALLET SHOES,0ONE-PIECE SWIMSUIT,0BRIEFS,0SHORTS,0THONG SANDAL",
  "1fa78:0DROP OF BLOOD,0ADHESIVE BANDAGE,0STETHOSCOPE,0X-RAY,0CRUTCH",
  "1fa80:0YO-YO,0KITE,0PARACHUTE,0BOOMERANG,0MAGIC WAND,0PINATA,0NESTING DOLLS",
  "1fa90:0RINGED PLANET,0CHAIR,0RAZOR,0AXE,0DIYA LAMP,0BANJO,0MILITARY HELMET,0ACCORDION",
  "1fa98:0LONG DRUM,0COIN,0CARPENTRY SAW,0SCREWDRIVER,0LADDER,0HOOK,0MIRROR,0WINDOW,0PLUNGER",
  "1faa1:0SEWING NEEDLE,0KNOT,0BUCKET,0MOUSE TRAP,0TOOTHBRUSH,0HEADSTONE,0PLACARD,0ROCK",
  "1faa9:0MIRROR BALL,0IDENTIFICATION CARD,0LOW BATTERY,0HAMSA",
  "1fab0:0FLY,0WORM,0BEETLE,0COCKROACH,0POTTED PLANT,0WOOD,0FEATHER,0LOTUS,0CORAL,0EMPTY NEST",
  "1faba:0NEST WITH EGGS",
  "1fac0:0ANATOMICAL HEART,0LUNGS,0PEOPLE HUGGING,0PREGNANT MAN,1PERSON,0PERSON WITH CROWN",
  "1fad0:0BLUEBERRIES,0BELL PEPPER,0OLIVE,0FLATBREAD,0TAMALE,0FONDUE,0TEAPOT,0POURING LIQUID",
  "1fad8:0BEANS,0JAR",
  "1fae0:0MELTING FACE,0SALUTING FACE,0FACE WITH OPEN EYES AND HAND OVER MOUTH,2PEEKING EYE",
  "1fae4:0FACE WITH DIAGONAL MOUTH,0DOTTED LINE FACE,0BITING LIP,0BUBBLES",
  "1faf0:0HAND WITH INDEX FINGER AND THUMB CROSSED,0RIGHTWARDS HAND,0LEFTWARDS HAND",
  "1faf3:0PALM DOWN HAND,1UP HAND,0INDEX POINTING AT THE VIEWER,0HEART HANDS"
]

/-- Further names, each after its code point. -/
def otherRows : List String := [
  "0:NULL,0:NUL,1:START OF HEADING,1:SOH,2:START OF TEXT,2:STX,3:END OF TEXT,3:ETX",
  "4:END OF TRANSMISSION,4:EOT,5:ENQUIRY,5:ENQ,6:ACKNOWLEDGE,6:ACK,7:ALERT,7:BEL,8:BACKSPACE,8:BS",
  "9:CHARACTER TABULATION,9:HORIZONTAL TABULATION,9:HT,9:TAB,a:LINE FEED,a:NEW LINE,a:END OF LINE",
  "a:LF,a:NL,a:EOL,b:LINE TABULATION,b:VERTICAL TABULATION,b:VT,c:FORM FEED,c:FF",
  "d:CARRIAGE RETURN,d:CR,e:SHIFT OUT,e:LOCKING-SHIFT ONE,e:SO,f:SHIFT IN,f:LOCKING-SHIFT ZERO",
  "f:SI,10:DATA LINK ESCAPE,10:DLE,11:DEVICE CONTROL ONE,11:DC1,12:DEVICE CONTROL TWO,12:DC2",
  "13:DEVICE CONTROL THREE,13:DC3,14:DEVICE CONTROL FOUR,14:DC4,15:NEGATIVE ACKNOWLEDGE,15:NAK",
  "16:SYNCHRONOUS IDLE,16:SYN,17:END OF TRANSMISSION BLOCK,17:ETB,18:CANCEL,18:CAN",
  "19:END OF MEDIUM,19:EOM,1a:SUBSTITUTE,1a:SUB,1b:ESCAPE,1b:ESC,1c:INFORMATION SEPARATOR FOUR",
  "1c:FILE SEPARATOR,1c:FS,1d:INFORMATION SEPARATOR THREE,1d:GROUP SEPARATOR,1d:GS",
  "1e:INFORMATION SEPARATOR TWO,1e:RECORD SEPARATOR,1e:RS,1f:INFORMATION SEPARATOR ONE",
  "1f:UNIT SEPARATOR,1f:US,20:SP,7f:DELETE,7f:DEL,80:PADDING CHARACTER,80:PAD",
  "81:HIGH OCTET PRESET,81:HOP,82:BREAK PERMITTED HERE,82:BPH,83:NO BREAK HERE,83:NBH,84:INDEX",
  "84:IND,85:NEXT LINE,85:NEL,86:START OF SELECTED AREA,86:SSA,87:END OF SELECTED AREA,87:ESA",
  "a0:NBSP,ad:SHY,200b:ZWSP,200c:ZWNJ,200d:ZWJ,200e:LRM,200f:RLM,202a:LRE,202b:RLE,202c:PDF",
  "202d:LRO,202e:RLO,202f:NNBSP,205f:MMSP,2060:WJ,2066:LRI,2067:RLI,2068:FSI,2069:PDI",
  "feff:BYTE ORDER MARK,feff:BOM,feff:ZWNBSP,34f:CGJ,fe00:VS1,fe0e:VS15,fe0f:VS16",
  "2118:WEIERSTRASS ELLIPTIC FUNCTION,1a2:LATIN CAPITAL LETTER GHA,1a3:LATIN SMALL LETTER GHA",
  "61c:ALM,8e:SINGLE SHIFT TWO,8f:SINGLE SHIFT THREE,9c:STRING TERMINATOR,9c:ST",
  "9d:OPERATING SYSTEM COMMAND,9e:PRIVACY MESSAGE,9f:APPLICATION PROGRAM COMMAND",
  "90:DEVICE CONTROL STRING,91:PRIVATE USE ONE,92:PRIVATE USE TWO,9b:CONTROL SEQUENCE INTRODUCER",
  "9b:CSI,8d:REVERSE LINE FEED,8d:REVERSE INDEX,8b:PARTIAL LINE FORWARD,8c:PARTIAL LINE BACKWARD"
]

/-- The names of a row in full. -/
def unfold (before : List (List Char)) : List (List Char) → List (List Char)
  | [] => []
  | w :: ws =>
    let shared := match w.head? with
      | some c => c.toNat - 48
      | none => 0
    let own := if w.length < 2 then [] else cutAt (· == ' ') w.tail
    let all := before.take shared ++ own
    [' '].intercalate all :: unfold all ws

/-- The characters of a row with their names. -/
def ofRow (row : String) : List (Nat × List Char) :=
  match cutAt (· == ':') row.toList with
  | [first, names] =>
    (unfold [] (cutAt (· == ',') names)).zipIdx.map fun (n, i) => (hexValue first + i, n)
  | _ => []

/-- The characters of a row of further names. -/
def ofOtherRow (row : String) : List (Nat × List Char) :=
  (cutAt (· == ',') row.toList).filterMap fun w =>
    match cutAt (· == ':') w with
    | [code, name] => some (hexValue code, name)
    | _ => none

/-- The sounds that begin a syllable of the Hangul script, those in its middle, and those at its
end. -/
def initials : List String :=
  ["G", "GG", "N", "D", "DD", "R", "M", "B", "BB", "S", "SS", "", "J", "JJ", "C", "K", "T", "P", "H"]

def vowels : List String :=
  ["A", "AE", "YA", "YAE", "EO", "E", "YEO", "YE", "O", "WA", "WAE", "OE", "YO", "U", "WEO", "WE",
    "WI", "YU", "EU", "YI", "I"]

def finals : List String :=
  ["", "G", "GG", "GS", "N", "NJ", "NH", "D", "L", "LG", "LM", "LB", "LS", "LT", "LP", "LH", "M",
    "B", "BS", "S", "SS", "NG", "J", "C", "K", "T", "P", "H"]

/-- The number of a syllable from its sound. -/
def syllable? (sound : String) : Option Nat :=
  initials.zipIdx.findSome? fun (a, i) =>
    vowels.zipIdx.findSome? fun (b, j) =>
      (finals.zipIdx.find? fun (c, _) => a ++ b ++ c == sound).map fun (_, k) =>
        (i * 21 + j) * 28 + k

def isIdeograph (n : Nat) : Bool :=
  (0x3400 ≤ n && n ≤ 0x4dbf) || (0x4e00 ≤ n && n ≤ 0x9fff) || (0x20000 ≤ n && n ≤ 0x2a6df) ||
    (0x2a700 ≤ n && n ≤ 0x2b738) || (0x2b740 ≤ n && n ≤ 0x2b81d) || (0x2b820 ≤ n && n ≤ 0x2cea1) ||
    (0x2ceb0 ≤ n && n ≤ 0x2ebe0) || (0x30000 ≤ n && n ≤ 0x3134a)

/-- The code point of the ideograph with a number as its name. -/
def ideograph? (digits : List Char) : Option Nat :=
  let n := hexValue digits
  if (digits.length = 4 || digits.length = 5) &&
      digits.all (fun c => ('0' ≤ c && c ≤ '9') || ('A' ≤ c && c ≤ 'F')) && isIdeograph n then some n
  else none

def ideographStart : List Char := "CJK UNIFIED IDEOGRAPH-".toList

def syllableStart : List Char := "HANGUL SYLLABLE ".toList

/-- An upper-case letter of the first alphabet for a lower-case one. -/
def upperAscii (c : Char) : Char := if 'a' ≤ c ∧ c ≤ 'z' then Char.ofNat (c.toNat - 32) else c

/-- The character with a name. Case does not matter, but for the names that follow rules. -/
def lookup? (name : List Char) : Option Char :=
  let code? :=
    if ideographStart.isPrefixOf name then ideograph? (name.drop ideographStart.length)
    else if syllableStart.isPrefixOf name then
      (syllable? (String.ofList (name.drop syllableStart.length))).map (0xac00 + ·)
    else
      let wanted := name.map upperAscii
      let find (es : List (Nat × List Char)) := (es.find? fun e => e.2 == wanted).map (·.1)
      (rows.findSome? fun r => find (ofRow r)).or (otherRows.findSome? fun r => find (ofOtherRow r))
  code?.map Char.ofNat

/-- The name of a character. -/
def of? (c : Char) : Option String :=
  let n := c.toNat
  if isIdeograph n then
    some (String.ofList (ideographStart ++ (Nat.toDigits 16 n).map upperAscii))
  else if 0xac00 ≤ n && n ≤ 0xd7a3 then
    let i := n - 0xac00
    let sound (all : List String) (k : Nat) : String := (all[k]?).getD ""
    some (String.ofList syllableStart ++ sound initials (i / 588) ++ sound vowels (i / 28 % 21) ++
      sound finals (i % 28))
  else rows.findSome? fun r =>
    ((ofRow r).find? fun e => e.1 == n).map fun e => String.ofList e.2

end CharacterName

end LiveMarkdown.Text
