import YamlStyle.Text.CharacterName.Basic

/-!
# Names of Latin letters

The characters of ASCII, and Latin letters with marks.
-/

namespace YamlStyle.Text.CharacterName

def latin : List Run := [
  ⟨0x20, [
    "SPACE;EXCLAMATION MARK;QUOTATION MARK;NUMBER SIGN;DOLLAR SIGN;PERCENT SIGN;AMPERSAND;",
    "APOSTROPHE;LEFT PARENTHESIS;RIGHT PARENTHESIS;ASTERISK;PLUS SIGN;COMMA;HYPHEN-MINUS;",
    "FULL STOP;SOLIDUS;DIGIT ZERO;DIGIT ONE;DIGIT TWO;DIGIT THREE;DIGIT FOUR;DIGIT FIVE;",
    "DIGIT SIX;DIGIT SEVEN;DIGIT EIGHT;DIGIT NINE;COLON;SEMICOLON;LESS-THAN SIGN;EQUALS SIGN;",
    "GREATER-THAN SIGN;QUESTION MARK;COMMERCIAL AT;LATIN CAPITAL LETTER A;LATIN CAPITAL LETTER B;",
    "LATIN CAPITAL LETTER C;LATIN CAPITAL LETTER D;LATIN CAPITAL LETTER E;LATIN CAPITAL LETTER F;",
    "LATIN CAPITAL LETTER G;LATIN CAPITAL LETTER H;LATIN CAPITAL LETTER I;LATIN CAPITAL LETTER J;",
    "LATIN CAPITAL LETTER K;LATIN CAPITAL LETTER L;LATIN CAPITAL LETTER M;LATIN CAPITAL LETTER N;",
    "LATIN CAPITAL LETTER O;LATIN CAPITAL LETTER P;LATIN CAPITAL LETTER Q;LATIN CAPITAL LETTER R;",
    "LATIN CAPITAL LETTER S;LATIN CAPITAL LETTER T;LATIN CAPITAL LETTER U;LATIN CAPITAL LETTER V;",
    "LATIN CAPITAL LETTER W;LATIN CAPITAL LETTER X;LATIN CAPITAL LETTER Y;LATIN CAPITAL LETTER Z;",
    "LEFT SQUARE BRACKET;REVERSE SOLIDUS;RIGHT SQUARE BRACKET;CIRCUMFLEX ACCENT;LOW LINE;",
    "GRAVE ACCENT;LATIN SMALL LETTER A;LATIN SMALL LETTER B;LATIN SMALL LETTER C;",
    "LATIN SMALL LETTER D;LATIN SMALL LETTER E;LATIN SMALL LETTER F;LATIN SMALL LETTER G;",
    "LATIN SMALL LETTER H;LATIN SMALL LETTER I;LATIN SMALL LETTER J;LATIN SMALL LETTER K;",
    "LATIN SMALL LETTER L;LATIN SMALL LETTER M;LATIN SMALL LETTER N;LATIN SMALL LETTER O;",
    "LATIN SMALL LETTER P;LATIN SMALL LETTER Q;LATIN SMALL LETTER R;LATIN SMALL LETTER S;",
    "LATIN SMALL LETTER T;LATIN SMALL LETTER U;LATIN SMALL LETTER V;LATIN SMALL LETTER W;",
    "LATIN SMALL LETTER X;LATIN SMALL LETTER Y;LATIN SMALL LETTER Z;LEFT CURLY BRACKET;",
    "VERTICAL LINE;RIGHT CURLY BRACKET;TILDE"]⟩,
  ⟨0xa0, [
    "NO-BREAK SPACE;INVERTED EXCLAMATION MARK;CENT SIGN;POUND SIGN;CURRENCY SIGN;YEN SIGN;",
    "BROKEN BAR;SECTION SIGN;DIAERESIS;COPYRIGHT SIGN;FEMININE ORDINAL INDICATOR;",
    "LEFT-POINTING DOUBLE ANGLE QUOTATION MARK;NOT SIGN;SOFT HYPHEN;REGISTERED SIGN;MACRON;",
    "DEGREE SIGN;PLUS-MINUS SIGN;SUPERSCRIPT TWO;SUPERSCRIPT THREE;ACUTE ACCENT;MICRO SIGN;",
    "PILCROW SIGN;MIDDLE DOT;CEDILLA;SUPERSCRIPT ONE;MASCULINE ORDINAL INDICATOR;",
    "RIGHT-POINTING DOUBLE ANGLE QUOTATION MARK;VULGAR FRACTION ONE QUARTER;",
    "VULGAR FRACTION ONE HALF;VULGAR FRACTION THREE QUARTERS;INVERTED QUESTION MARK;",
    "LATIN CAPITAL LETTER A WITH GRAVE;LATIN CAPITAL LETTER A WITH ACUTE;",
    "LATIN CAPITAL LETTER A WITH CIRCUMFLEX;LATIN CAPITAL LETTER A WITH TILDE;",
    "LATIN CAPITAL LETTER A WITH DIAERESIS;LATIN CAPITAL LETTER A WITH RING ABOVE;",
    "LATIN CAPITAL LETTER AE;LATIN CAPITAL LETTER C WITH CEDILLA;",
    "LATIN CAPITAL LETTER E WITH GRAVE;LATIN CAPITAL LETTER E WITH ACUTE;",
    "LATIN CAPITAL LETTER E WITH CIRCUMFLEX;LATIN CAPITAL LETTER E WITH DIAERESIS;",
    "LATIN CAPITAL LETTER I WITH GRAVE;LATIN CAPITAL LETTER I WITH ACUTE;",
    "LATIN CAPITAL LETTER I WITH CIRCUMFLEX;LATIN CAPITAL LETTER I WITH DIAERESIS;",
    "LATIN CAPITAL LETTER ETH;LATIN CAPITAL LETTER N WITH TILDE;",
    "LATIN CAPITAL LETTER O WITH GRAVE;LATIN CAPITAL LETTER O WITH ACUTE;",
    "LATIN CAPITAL LETTER O WITH CIRCUMFLEX;LATIN CAPITAL LETTER O WITH TILDE;",
    "LATIN CAPITAL LETTER O WITH DIAERESIS;MULTIPLICATION SIGN;",
    "LATIN CAPITAL LETTER O WITH STROKE;LATIN CAPITAL LETTER U WITH GRAVE;",
    "LATIN CAPITAL LETTER U WITH ACUTE;LATIN CAPITAL LETTER U WITH CIRCUMFLEX;",
    "LATIN CAPITAL LETTER U WITH DIAERESIS;LATIN CAPITAL LETTER Y WITH ACUTE;",
    "LATIN CAPITAL LETTER THORN;LATIN SMALL LETTER SHARP S;LATIN SMALL LETTER A WITH GRAVE;",
    "LATIN SMALL LETTER A WITH ACUTE;LATIN SMALL LETTER A WITH CIRCUMFLEX;",
    "LATIN SMALL LETTER A WITH TILDE;LATIN SMALL LETTER A WITH DIAERESIS;",
    "LATIN SMALL LETTER A WITH RING ABOVE;LATIN SMALL LETTER AE;",
    "LATIN SMALL LETTER C WITH CEDILLA;LATIN SMALL LETTER E WITH GRAVE;",
    "LATIN SMALL LETTER E WITH ACUTE;LATIN SMALL LETTER E WITH CIRCUMFLEX;",
    "LATIN SMALL LETTER E WITH DIAERESIS;LATIN SMALL LETTER I WITH GRAVE;",
    "LATIN SMALL LETTER I WITH ACUTE;LATIN SMALL LETTER I WITH CIRCUMFLEX;",
    "LATIN SMALL LETTER I WITH DIAERESIS;LATIN SMALL LETTER ETH;LATIN SMALL LETTER N WITH TILDE;",
    "LATIN SMALL LETTER O WITH GRAVE;LATIN SMALL LETTER O WITH ACUTE;",
    "LATIN SMALL LETTER O WITH CIRCUMFLEX;LATIN SMALL LETTER O WITH TILDE;",
    "LATIN SMALL LETTER O WITH DIAERESIS;DIVISION SIGN;LATIN SMALL LETTER O WITH STROKE;",
    "LATIN SMALL LETTER U WITH GRAVE;LATIN SMALL LETTER U WITH ACUTE;",
    "LATIN SMALL LETTER U WITH CIRCUMFLEX;LATIN SMALL LETTER U WITH DIAERESIS;",
    "LATIN SMALL LETTER Y WITH ACUTE;LATIN SMALL LETTER THORN;",
    "LATIN SMALL LETTER Y WITH DIAERESIS;LATIN CAPITAL LETTER A WITH MACRON;",
    "LATIN SMALL LETTER A WITH MACRON;LATIN CAPITAL LETTER A WITH BREVE;",
    "LATIN SMALL LETTER A WITH BREVE;LATIN CAPITAL LETTER A WITH OGONEK;",
    "LATIN SMALL LETTER A WITH OGONEK;LATIN CAPITAL LETTER C WITH ACUTE;",
    "LATIN SMALL LETTER C WITH ACUTE;LATIN CAPITAL LETTER C WITH CIRCUMFLEX;",
    "LATIN SMALL LETTER C WITH CIRCUMFLEX;LATIN CAPITAL LETTER C WITH DOT ABOVE;",
    "LATIN SMALL LETTER C WITH DOT ABOVE;LATIN CAPITAL LETTER C WITH CARON;",
    "LATIN SMALL LETTER C WITH CARON;LATIN CAPITAL LETTER D WITH CARON;",
    "LATIN SMALL LETTER D WITH CARON;LATIN CAPITAL LETTER D WITH STROKE;",
    "LATIN SMALL LETTER D WITH STROKE;LATIN CAPITAL LETTER E WITH MACRON;",
    "LATIN SMALL LETTER E WITH MACRON;LATIN CAPITAL LETTER E WITH BREVE;",
    "LATIN SMALL LETTER E WITH BREVE;LATIN CAPITAL LETTER E WITH DOT ABOVE;",
    "LATIN SMALL LETTER E WITH DOT ABOVE;LATIN CAPITAL LETTER E WITH OGONEK;",
    "LATIN SMALL LETTER E WITH OGONEK;LATIN CAPITAL LETTER E WITH CARON;",
    "LATIN SMALL LETTER E WITH CARON;LATIN CAPITAL LETTER G WITH CIRCUMFLEX;",
    "LATIN SMALL LETTER G WITH CIRCUMFLEX;LATIN CAPITAL LETTER G WITH BREVE;",
    "LATIN SMALL LETTER G WITH BREVE;LATIN CAPITAL LETTER G WITH DOT ABOVE;",
    "LATIN SMALL LETTER G WITH DOT ABOVE;LATIN CAPITAL LETTER G WITH CEDILLA;",
    "LATIN SMALL LETTER G WITH CEDILLA;LATIN CAPITAL LETTER H WITH CIRCUMFLEX;",
    "LATIN SMALL LETTER H WITH CIRCUMFLEX;LATIN CAPITAL LETTER H WITH STROKE;",
    "LATIN SMALL LETTER H WITH STROKE;LATIN CAPITAL LETTER I WITH TILDE;",
    "LATIN SMALL LETTER I WITH TILDE;LATIN CAPITAL LETTER I WITH MACRON;",
    "LATIN SMALL LETTER I WITH MACRON;LATIN CAPITAL LETTER I WITH BREVE;",
    "LATIN SMALL LETTER I WITH BREVE;LATIN CAPITAL LETTER I WITH OGONEK;",
    "LATIN SMALL LETTER I WITH OGONEK;LATIN CAPITAL LETTER I WITH DOT ABOVE;",
    "LATIN SMALL LETTER DOTLESS I;LATIN CAPITAL LIGATURE IJ;LATIN SMALL LIGATURE IJ;",
    "LATIN CAPITAL LETTER J WITH CIRCUMFLEX;LATIN SMALL LETTER J WITH CIRCUMFLEX;",
    "LATIN CAPITAL LETTER K WITH CEDILLA;LATIN SMALL LETTER K WITH CEDILLA;",
    "LATIN SMALL LETTER KRA;LATIN CAPITAL LETTER L WITH ACUTE;LATIN SMALL LETTER L WITH ACUTE;",
    "LATIN CAPITAL LETTER L WITH CEDILLA;LATIN SMALL LETTER L WITH CEDILLA;",
    "LATIN CAPITAL LETTER L WITH CARON;LATIN SMALL LETTER L WITH CARON;",
    "LATIN CAPITAL LETTER L WITH MIDDLE DOT;LATIN SMALL LETTER L WITH MIDDLE DOT;",
    "LATIN CAPITAL LETTER L WITH STROKE;LATIN SMALL LETTER L WITH STROKE;",
    "LATIN CAPITAL LETTER N WITH ACUTE;LATIN SMALL LETTER N WITH ACUTE;",
    "LATIN CAPITAL LETTER N WITH CEDILLA;LATIN SMALL LETTER N WITH CEDILLA;",
    "LATIN CAPITAL LETTER N WITH CARON;LATIN SMALL LETTER N WITH CARON;",
    "LATIN SMALL LETTER N PRECEDED BY APOSTROPHE;LATIN CAPITAL LETTER ENG;LATIN SMALL LETTER ENG;",
    "LATIN CAPITAL LETTER O WITH MACRON;LATIN SMALL LETTER O WITH MACRON;",
    "LATIN CAPITAL LETTER O WITH BREVE;LATIN SMALL LETTER O WITH BREVE;",
    "LATIN CAPITAL LETTER O WITH DOUBLE ACUTE;LATIN SMALL LETTER O WITH DOUBLE ACUTE;",
    "LATIN CAPITAL LIGATURE OE;LATIN SMALL LIGATURE OE;LATIN CAPITAL LETTER R WITH ACUTE;",
    "LATIN SMALL LETTER R WITH ACUTE;LATIN CAPITAL LETTER R WITH CEDILLA;",
    "LATIN SMALL LETTER R WITH CEDILLA;LATIN CAPITAL LETTER R WITH CARON;",
    "LATIN SMALL LETTER R WITH CARON;LATIN CAPITAL LETTER S WITH ACUTE;",
    "LATIN SMALL LETTER S WITH ACUTE;LATIN CAPITAL LETTER S WITH CIRCUMFLEX;",
    "LATIN SMALL LETTER S WITH CIRCUMFLEX;LATIN CAPITAL LETTER S WITH CEDILLA;",
    "LATIN SMALL LETTER S WITH CEDILLA;LATIN CAPITAL LETTER S WITH CARON;",
    "LATIN SMALL LETTER S WITH CARON;LATIN CAPITAL LETTER T WITH CEDILLA;",
    "LATIN SMALL LETTER T WITH CEDILLA;LATIN CAPITAL LETTER T WITH CARON;",
    "LATIN SMALL LETTER T WITH CARON;LATIN CAPITAL LETTER T WITH STROKE;",
    "LATIN SMALL LETTER T WITH STROKE;LATIN CAPITAL LETTER U WITH TILDE;",
    "LATIN SMALL LETTER U WITH TILDE;LATIN CAPITAL LETTER U WITH MACRON;",
    "LATIN SMALL LETTER U WITH MACRON;LATIN CAPITAL LETTER U WITH BREVE;",
    "LATIN SMALL LETTER U WITH BREVE;LATIN CAPITAL LETTER U WITH RING ABOVE;",
    "LATIN SMALL LETTER U WITH RING ABOVE;LATIN CAPITAL LETTER U WITH DOUBLE ACUTE;",
    "LATIN SMALL LETTER U WITH DOUBLE ACUTE;LATIN CAPITAL LETTER U WITH OGONEK;",
    "LATIN SMALL LETTER U WITH OGONEK;LATIN CAPITAL LETTER W WITH CIRCUMFLEX;",
    "LATIN SMALL LETTER W WITH CIRCUMFLEX;LATIN CAPITAL LETTER Y WITH CIRCUMFLEX;",
    "LATIN SMALL LETTER Y WITH CIRCUMFLEX;LATIN CAPITAL LETTER Y WITH DIAERESIS;",
    "LATIN CAPITAL LETTER Z WITH ACUTE;LATIN SMALL LETTER Z WITH ACUTE;",
    "LATIN CAPITAL LETTER Z WITH DOT ABOVE;LATIN SMALL LETTER Z WITH DOT ABOVE;",
    "LATIN CAPITAL LETTER Z WITH CARON;LATIN SMALL LETTER Z WITH CARON;LATIN SMALL LETTER LONG S;",
    "LATIN SMALL LETTER B WITH STROKE;LATIN CAPITAL LETTER B WITH HOOK;",
    "LATIN CAPITAL LETTER B WITH TOPBAR;LATIN SMALL LETTER B WITH TOPBAR;",
    "LATIN CAPITAL LETTER TONE SIX;LATIN SMALL LETTER TONE SIX;LATIN CAPITAL LETTER OPEN O;",
    "LATIN CAPITAL LETTER C WITH HOOK;LATIN SMALL LETTER C WITH HOOK;",
    "LATIN CAPITAL LETTER AFRICAN D;LATIN CAPITAL LETTER D WITH HOOK;",
    "LATIN CAPITAL LETTER D WITH TOPBAR;LATIN SMALL LETTER D WITH TOPBAR;",
    "LATIN SMALL LETTER TURNED DELTA;LATIN CAPITAL LETTER REVERSED E;LATIN CAPITAL LETTER SCHWA;",
    "LATIN CAPITAL LETTER OPEN E;LATIN CAPITAL LETTER F WITH HOOK;LATIN SMALL LETTER F WITH HOOK;",
    "LATIN CAPITAL LETTER G WITH HOOK;LATIN CAPITAL LETTER GAMMA;LATIN SMALL LETTER HV;",
    "LATIN CAPITAL LETTER IOTA;LATIN CAPITAL LETTER I WITH STROKE;",
    "LATIN CAPITAL LETTER K WITH HOOK;LATIN SMALL LETTER K WITH HOOK;",
    "LATIN SMALL LETTER L WITH BAR;LATIN SMALL LETTER LAMBDA WITH STROKE;",
    "LATIN CAPITAL LETTER TURNED M;LATIN CAPITAL LETTER N WITH LEFT HOOK;",
    "LATIN SMALL LETTER N WITH LONG RIGHT LEG;LATIN CAPITAL LETTER O WITH MIDDLE TILDE;",
    "LATIN CAPITAL LETTER O WITH HORN;LATIN SMALL LETTER O WITH HORN;LATIN CAPITAL LETTER OI;",
    "LATIN SMALL LETTER OI;LATIN CAPITAL LETTER P WITH HOOK;LATIN SMALL LETTER P WITH HOOK;",
    "LATIN LETTER YR;LATIN CAPITAL LETTER TONE TWO;LATIN SMALL LETTER TONE TWO;",
    "LATIN CAPITAL LETTER ESH;LATIN LETTER REVERSED ESH LOOP;",
    "LATIN SMALL LETTER T WITH PALATAL HOOK;LATIN CAPITAL LETTER T WITH HOOK;",
    "LATIN SMALL LETTER T WITH HOOK;LATIN CAPITAL LETTER T WITH RETROFLEX HOOK;",
    "LATIN CAPITAL LETTER U WITH HORN;LATIN SMALL LETTER U WITH HORN;",
    "LATIN CAPITAL LETTER UPSILON;LATIN CAPITAL LETTER V WITH HOOK;",
    "LATIN CAPITAL LETTER Y WITH HOOK;LATIN SMALL LETTER Y WITH HOOK;",
    "LATIN CAPITAL LETTER Z WITH STROKE;LATIN SMALL LETTER Z WITH STROKE;",
    "LATIN CAPITAL LETTER EZH;LATIN CAPITAL LETTER EZH REVERSED;LATIN SMALL LETTER EZH REVERSED;",
    "LATIN SMALL LETTER EZH WITH TAIL;LATIN LETTER TWO WITH STROKE;",
    "LATIN CAPITAL LETTER TONE FIVE;LATIN SMALL LETTER TONE FIVE;",
    "LATIN LETTER INVERTED GLOTTAL STOP WITH STROKE;LATIN LETTER WYNN;LATIN LETTER DENTAL CLICK;",
    "LATIN LETTER LATERAL CLICK;LATIN LETTER ALVEOLAR CLICK;LATIN LETTER RETROFLEX CLICK;",
    "LATIN CAPITAL LETTER DZ WITH CARON;LATIN CAPITAL LETTER D WITH SMALL LETTER Z WITH CARON;",
    "LATIN SMALL LETTER DZ WITH CARON;LATIN CAPITAL LETTER LJ;",
    "LATIN CAPITAL LETTER L WITH SMALL LETTER J;LATIN SMALL LETTER LJ;LATIN CAPITAL LETTER NJ;",
    "LATIN CAPITAL LETTER N WITH SMALL LETTER J;LATIN SMALL LETTER NJ;",
    "LATIN CAPITAL LETTER A WITH CARON;LATIN SMALL LETTER A WITH CARON;",
    "LATIN CAPITAL LETTER I WITH CARON;LATIN SMALL LETTER I WITH CARON;",
    "LATIN CAPITAL LETTER O WITH CARON;LATIN SMALL LETTER O WITH CARON;",
    "LATIN CAPITAL LETTER U WITH CARON;LATIN SMALL LETTER U WITH CARON;",
    "LATIN CAPITAL LETTER U WITH DIAERESIS AND MACRON;",
    "LATIN SMALL LETTER U WITH DIAERESIS AND MACRON;",
    "LATIN CAPITAL LETTER U WITH DIAERESIS AND ACUTE;",
    "LATIN SMALL LETTER U WITH DIAERESIS AND ACUTE;",
    "LATIN CAPITAL LETTER U WITH DIAERESIS AND CARON;",
    "LATIN SMALL LETTER U WITH DIAERESIS AND CARON;",
    "LATIN CAPITAL LETTER U WITH DIAERESIS AND GRAVE;",
    "LATIN SMALL LETTER U WITH DIAERESIS AND GRAVE;LATIN SMALL LETTER TURNED E;",
    "LATIN CAPITAL LETTER A WITH DIAERESIS AND MACRON;",
    "LATIN SMALL LETTER A WITH DIAERESIS AND MACRON;",
    "LATIN CAPITAL LETTER A WITH DOT ABOVE AND MACRON;",
    "LATIN SMALL LETTER A WITH DOT ABOVE AND MACRON;LATIN CAPITAL LETTER AE WITH MACRON;",
    "LATIN SMALL LETTER AE WITH MACRON;LATIN CAPITAL LETTER G WITH STROKE;",
    "LATIN SMALL LETTER G WITH STROKE;LATIN CAPITAL LETTER G WITH CARON;",
    "LATIN SMALL LETTER G WITH CARON;LATIN CAPITAL LETTER K WITH CARON;",
    "LATIN SMALL LETTER K WITH CARON;LATIN CAPITAL LETTER O WITH OGONEK;",
    "LATIN SMALL LETTER O WITH OGONEK;LATIN CAPITAL LETTER O WITH OGONEK AND MACRON;",
    "LATIN SMALL LETTER O WITH OGONEK AND MACRON;LATIN CAPITAL LETTER EZH WITH CARON;",
    "LATIN SMALL LETTER EZH WITH CARON;LATIN SMALL LETTER J WITH CARON;LATIN CAPITAL LETTER DZ;",
    "LATIN CAPITAL LETTER D WITH SMALL LETTER Z;LATIN SMALL LETTER DZ;",
    "LATIN CAPITAL LETTER G WITH ACUTE;LATIN SMALL LETTER G WITH ACUTE;",
    "LATIN CAPITAL LETTER HWAIR;LATIN CAPITAL LETTER WYNN;LATIN CAPITAL LETTER N WITH GRAVE;",
    "LATIN SMALL LETTER N WITH GRAVE;LATIN CAPITAL LETTER A WITH RING ABOVE AND ACUTE;",
    "LATIN SMALL LETTER A WITH RING ABOVE AND ACUTE;LATIN CAPITAL LETTER AE WITH ACUTE;",
    "LATIN SMALL LETTER AE WITH ACUTE;LATIN CAPITAL LETTER O WITH STROKE AND ACUTE;",
    "LATIN SMALL LETTER O WITH STROKE AND ACUTE;LATIN CAPITAL LETTER A WITH DOUBLE GRAVE;",
    "LATIN SMALL LETTER A WITH DOUBLE GRAVE;LATIN CAPITAL LETTER A WITH INVERTED BREVE;",
    "LATIN SMALL LETTER A WITH INVERTED BREVE;LATIN CAPITAL LETTER E WITH DOUBLE GRAVE;",
    "LATIN SMALL LETTER E WITH DOUBLE GRAVE;LATIN CAPITAL LETTER E WITH INVERTED BREVE;",
    "LATIN SMALL LETTER E WITH INVERTED BREVE;LATIN CAPITAL LETTER I WITH DOUBLE GRAVE;",
    "LATIN SMALL LETTER I WITH DOUBLE GRAVE;LATIN CAPITAL LETTER I WITH INVERTED BREVE;",
    "LATIN SMALL LETTER I WITH INVERTED BREVE;LATIN CAPITAL LETTER O WITH DOUBLE GRAVE;",
    "LATIN SMALL LETTER O WITH DOUBLE GRAVE;LATIN CAPITAL LETTER O WITH INVERTED BREVE;",
    "LATIN SMALL LETTER O WITH INVERTED BREVE;LATIN CAPITAL LETTER R WITH DOUBLE GRAVE;",
    "LATIN SMALL LETTER R WITH DOUBLE GRAVE;LATIN CAPITAL LETTER R WITH INVERTED BREVE;",
    "LATIN SMALL LETTER R WITH INVERTED BREVE;LATIN CAPITAL LETTER U WITH DOUBLE GRAVE;",
    "LATIN SMALL LETTER U WITH DOUBLE GRAVE;LATIN CAPITAL LETTER U WITH INVERTED BREVE;",
    "LATIN SMALL LETTER U WITH INVERTED BREVE;LATIN CAPITAL LETTER S WITH COMMA BELOW;",
    "LATIN SMALL LETTER S WITH COMMA BELOW;LATIN CAPITAL LETTER T WITH COMMA BELOW;",
    "LATIN SMALL LETTER T WITH COMMA BELOW;LATIN CAPITAL LETTER YOGH;LATIN SMALL LETTER YOGH;",
    "LATIN CAPITAL LETTER H WITH CARON;LATIN SMALL LETTER H WITH CARON;",
    "LATIN CAPITAL LETTER N WITH LONG RIGHT LEG;LATIN SMALL LETTER D WITH CURL;",
    "LATIN CAPITAL LETTER OU;LATIN SMALL LETTER OU;LATIN CAPITAL LETTER Z WITH HOOK;",
    "LATIN SMALL LETTER Z WITH HOOK;LATIN CAPITAL LETTER A WITH DOT ABOVE;",
    "LATIN SMALL LETTER A WITH DOT ABOVE;LATIN CAPITAL LETTER E WITH CEDILLA;",
    "LATIN SMALL LETTER E WITH CEDILLA;LATIN CAPITAL LETTER O WITH DIAERESIS AND MACRON;",
    "LATIN SMALL LETTER O WITH DIAERESIS AND MACRON;LATIN CAPITAL LETTER O WITH TILDE AND MACRON;",
    "LATIN SMALL LETTER O WITH TILDE AND MACRON;LATIN CAPITAL LETTER O WITH DOT ABOVE;",
    "LATIN SMALL LETTER O WITH DOT ABOVE;LATIN CAPITAL LETTER O WITH DOT ABOVE AND MACRON;",
    "LATIN SMALL LETTER O WITH DOT ABOVE AND MACRON;LATIN CAPITAL LETTER Y WITH MACRON;",
    "LATIN SMALL LETTER Y WITH MACRON;LATIN SMALL LETTER L WITH CURL;",
    "LATIN SMALL LETTER N WITH CURL;LATIN SMALL LETTER T WITH CURL;LATIN SMALL LETTER DOTLESS J;",
    "LATIN SMALL LETTER DB DIGRAPH;LATIN SMALL LETTER QP DIGRAPH;",
    "LATIN CAPITAL LETTER A WITH STROKE;LATIN CAPITAL LETTER C WITH STROKE;",
    "LATIN SMALL LETTER C WITH STROKE;LATIN CAPITAL LETTER L WITH BAR;",
    "LATIN CAPITAL LETTER T WITH DIAGONAL STROKE;LATIN SMALL LETTER S WITH SWASH TAIL;",
    "LATIN SMALL LETTER Z WITH SWASH TAIL;LATIN CAPITAL LETTER GLOTTAL STOP;",
    "LATIN SMALL LETTER GLOTTAL STOP;LATIN CAPITAL LETTER B WITH STROKE;",
    "LATIN CAPITAL LETTER U BAR;LATIN CAPITAL LETTER TURNED V;LATIN CAPITAL LETTER E WITH STROKE;",
    "LATIN SMALL LETTER E WITH STROKE;LATIN CAPITAL LETTER J WITH STROKE;",
    "LATIN SMALL LETTER J WITH STROKE;LATIN CAPITAL LETTER SMALL Q WITH HOOK TAIL;",
    "LATIN SMALL LETTER Q WITH HOOK TAIL;LATIN CAPITAL LETTER R WITH STROKE;",
    "LATIN SMALL LETTER R WITH STROKE;LATIN CAPITAL LETTER Y WITH STROKE;",
    "LATIN SMALL LETTER Y WITH STROKE"]⟩,
  ⟨0x1e00, [
    "LATIN CAPITAL LETTER A WITH RING BELOW;LATIN SMALL LETTER A WITH RING BELOW;",
    "LATIN CAPITAL LETTER B WITH DOT ABOVE;LATIN SMALL LETTER B WITH DOT ABOVE;",
    "LATIN CAPITAL LETTER B WITH DOT BELOW;LATIN SMALL LETTER B WITH DOT BELOW;",
    "LATIN CAPITAL LETTER B WITH LINE BELOW;LATIN SMALL LETTER B WITH LINE BELOW;",
    "LATIN CAPITAL LETTER C WITH CEDILLA AND ACUTE;LATIN SMALL LETTER C WITH CEDILLA AND ACUTE;",
    "LATIN CAPITAL LETTER D WITH DOT ABOVE;LATIN SMALL LETTER D WITH DOT ABOVE;",
    "LATIN CAPITAL LETTER D WITH DOT BELOW;LATIN SMALL LETTER D WITH DOT BELOW;",
    "LATIN CAPITAL LETTER D WITH LINE BELOW;LATIN SMALL LETTER D WITH LINE BELOW;",
    "LATIN CAPITAL LETTER D WITH CEDILLA;LATIN SMALL LETTER D WITH CEDILLA;",
    "LATIN CAPITAL LETTER D WITH CIRCUMFLEX BELOW;LATIN SMALL LETTER D WITH CIRCUMFLEX BELOW;",
    "LATIN CAPITAL LETTER E WITH MACRON AND GRAVE;LATIN SMALL LETTER E WITH MACRON AND GRAVE;",
    "LATIN CAPITAL LETTER E WITH MACRON AND ACUTE;LATIN SMALL LETTER E WITH MACRON AND ACUTE;",
    "LATIN CAPITAL LETTER E WITH CIRCUMFLEX BELOW;LATIN SMALL LETTER E WITH CIRCUMFLEX BELOW;",
    "LATIN CAPITAL LETTER E WITH TILDE BELOW;LATIN SMALL LETTER E WITH TILDE BELOW;",
    "LATIN CAPITAL LETTER E WITH CEDILLA AND BREVE;LATIN SMALL LETTER E WITH CEDILLA AND BREVE;",
    "LATIN CAPITAL LETTER F WITH DOT ABOVE;LATIN SMALL LETTER F WITH DOT ABOVE;",
    "LATIN CAPITAL LETTER G WITH MACRON;LATIN SMALL LETTER G WITH MACRON;",
    "LATIN CAPITAL LETTER H WITH DOT ABOVE;LATIN SMALL LETTER H WITH DOT ABOVE;",
    "LATIN CAPITAL LETTER H WITH DOT BELOW;LATIN SMALL LETTER H WITH DOT BELOW;",
    "LATIN CAPITAL LETTER H WITH DIAERESIS;LATIN SMALL LETTER H WITH DIAERESIS;",
    "LATIN CAPITAL LETTER H WITH CEDILLA;LATIN SMALL LETTER H WITH CEDILLA;",
    "LATIN CAPITAL LETTER H WITH BREVE BELOW;LATIN SMALL LETTER H WITH BREVE BELOW;",
    "LATIN CAPITAL LETTER I WITH TILDE BELOW;LATIN SMALL LETTER I WITH TILDE BELOW;",
    "LATIN CAPITAL LETTER I WITH DIAERESIS AND ACUTE;",
    "LATIN SMALL LETTER I WITH DIAERESIS AND ACUTE;LATIN CAPITAL LETTER K WITH ACUTE;",
    "LATIN SMALL LETTER K WITH ACUTE;LATIN CAPITAL LETTER K WITH DOT BELOW;",
    "LATIN SMALL LETTER K WITH DOT BELOW;LATIN CAPITAL LETTER K WITH LINE BELOW;",
    "LATIN SMALL LETTER K WITH LINE BELOW;LATIN CAPITAL LETTER L WITH DOT BELOW;",
    "LATIN SMALL LETTER L WITH DOT BELOW;LATIN CAPITAL LETTER L WITH DOT BELOW AND MACRON;",
    "LATIN SMALL LETTER L WITH DOT BELOW AND MACRON;LATIN CAPITAL LETTER L WITH LINE BELOW;",
    "LATIN SMALL LETTER L WITH LINE BELOW;LATIN CAPITAL LETTER L WITH CIRCUMFLEX BELOW;",
    "LATIN SMALL LETTER L WITH CIRCUMFLEX BELOW;LATIN CAPITAL LETTER M WITH ACUTE;",
    "LATIN SMALL LETTER M WITH ACUTE;LATIN CAPITAL LETTER M WITH DOT ABOVE;",
    "LATIN SMALL LETTER M WITH DOT ABOVE;LATIN CAPITAL LETTER M WITH DOT BELOW;",
    "LATIN SMALL LETTER M WITH DOT BELOW;LATIN CAPITAL LETTER N WITH DOT ABOVE;",
    "LATIN SMALL LETTER N WITH DOT ABOVE;LATIN CAPITAL LETTER N WITH DOT BELOW;",
    "LATIN SMALL LETTER N WITH DOT BELOW;LATIN CAPITAL LETTER N WITH LINE BELOW;",
    "LATIN SMALL LETTER N WITH LINE BELOW;LATIN CAPITAL LETTER N WITH CIRCUMFLEX BELOW;",
    "LATIN SMALL LETTER N WITH CIRCUMFLEX BELOW;LATIN CAPITAL LETTER O WITH TILDE AND ACUTE;",
    "LATIN SMALL LETTER O WITH TILDE AND ACUTE;LATIN CAPITAL LETTER O WITH TILDE AND DIAERESIS;",
    "LATIN SMALL LETTER O WITH TILDE AND DIAERESIS;LATIN CAPITAL LETTER O WITH MACRON AND GRAVE;",
    "LATIN SMALL LETTER O WITH MACRON AND GRAVE;LATIN CAPITAL LETTER O WITH MACRON AND ACUTE;",
    "LATIN SMALL LETTER O WITH MACRON AND ACUTE;LATIN CAPITAL LETTER P WITH ACUTE;",
    "LATIN SMALL LETTER P WITH ACUTE;LATIN CAPITAL LETTER P WITH DOT ABOVE;",
    "LATIN SMALL LETTER P WITH DOT ABOVE;LATIN CAPITAL LETTER R WITH DOT ABOVE;",
    "LATIN SMALL LETTER R WITH DOT ABOVE;LATIN CAPITAL LETTER R WITH DOT BELOW;",
    "LATIN SMALL LETTER R WITH DOT BELOW;LATIN CAPITAL LETTER R WITH DOT BELOW AND MACRON;",
    "LATIN SMALL LETTER R WITH DOT BELOW AND MACRON;LATIN CAPITAL LETTER R WITH LINE BELOW;",
    "LATIN SMALL LETTER R WITH LINE BELOW;LATIN CAPITAL LETTER S WITH DOT ABOVE;",
    "LATIN SMALL LETTER S WITH DOT ABOVE;LATIN CAPITAL LETTER S WITH DOT BELOW;",
    "LATIN SMALL LETTER S WITH DOT BELOW;LATIN CAPITAL LETTER S WITH ACUTE AND DOT ABOVE;",
    "LATIN SMALL LETTER S WITH ACUTE AND DOT ABOVE;",
    "LATIN CAPITAL LETTER S WITH CARON AND DOT ABOVE;",
    "LATIN SMALL LETTER S WITH CARON AND DOT ABOVE;",
    "LATIN CAPITAL LETTER S WITH DOT BELOW AND DOT ABOVE;",
    "LATIN SMALL LETTER S WITH DOT BELOW AND DOT ABOVE;LATIN CAPITAL LETTER T WITH DOT ABOVE;",
    "LATIN SMALL LETTER T WITH DOT ABOVE;LATIN CAPITAL LETTER T WITH DOT BELOW;",
    "LATIN SMALL LETTER T WITH DOT BELOW;LATIN CAPITAL LETTER T WITH LINE BELOW;",
    "LATIN SMALL LETTER T WITH LINE BELOW;LATIN CAPITAL LETTER T WITH CIRCUMFLEX BELOW;",
    "LATIN SMALL LETTER T WITH CIRCUMFLEX BELOW;LATIN CAPITAL LETTER U WITH DIAERESIS BELOW;",
    "LATIN SMALL LETTER U WITH DIAERESIS BELOW;LATIN CAPITAL LETTER U WITH TILDE BELOW;",
    "LATIN SMALL LETTER U WITH TILDE BELOW;LATIN CAPITAL LETTER U WITH CIRCUMFLEX BELOW;",
    "LATIN SMALL LETTER U WITH CIRCUMFLEX BELOW;LATIN CAPITAL LETTER U WITH TILDE AND ACUTE;",
    "LATIN SMALL LETTER U WITH TILDE AND ACUTE;LATIN CAPITAL LETTER U WITH MACRON AND DIAERESIS;",
    "LATIN SMALL LETTER U WITH MACRON AND DIAERESIS;LATIN CAPITAL LETTER V WITH TILDE;",
    "LATIN SMALL LETTER V WITH TILDE;LATIN CAPITAL LETTER V WITH DOT BELOW;",
    "LATIN SMALL LETTER V WITH DOT BELOW;LATIN CAPITAL LETTER W WITH GRAVE;",
    "LATIN SMALL LETTER W WITH GRAVE;LATIN CAPITAL LETTER W WITH ACUTE;",
    "LATIN SMALL LETTER W WITH ACUTE;LATIN CAPITAL LETTER W WITH DIAERESIS;",
    "LATIN SMALL LETTER W WITH DIAERESIS;LATIN CAPITAL LETTER W WITH DOT ABOVE;",
    "LATIN SMALL LETTER W WITH DOT ABOVE;LATIN CAPITAL LETTER W WITH DOT BELOW;",
    "LATIN SMALL LETTER W WITH DOT BELOW;LATIN CAPITAL LETTER X WITH DOT ABOVE;",
    "LATIN SMALL LETTER X WITH DOT ABOVE;LATIN CAPITAL LETTER X WITH DIAERESIS;",
    "LATIN SMALL LETTER X WITH DIAERESIS;LATIN CAPITAL LETTER Y WITH DOT ABOVE;",
    "LATIN SMALL LETTER Y WITH DOT ABOVE;LATIN CAPITAL LETTER Z WITH CIRCUMFLEX;",
    "LATIN SMALL LETTER Z WITH CIRCUMFLEX;LATIN CAPITAL LETTER Z WITH DOT BELOW;",
    "LATIN SMALL LETTER Z WITH DOT BELOW;LATIN CAPITAL LETTER Z WITH LINE BELOW;",
    "LATIN SMALL LETTER Z WITH LINE BELOW;LATIN SMALL LETTER H WITH LINE BELOW;",
    "LATIN SMALL LETTER T WITH DIAERESIS;LATIN SMALL LETTER W WITH RING ABOVE;",
    "LATIN SMALL LETTER Y WITH RING ABOVE;LATIN SMALL LETTER A WITH RIGHT HALF RING;",
    "LATIN SMALL LETTER LONG S WITH DOT ABOVE;LATIN SMALL LETTER LONG S WITH DIAGONAL STROKE;",
    "LATIN SMALL LETTER LONG S WITH HIGH STROKE;LATIN CAPITAL LETTER SHARP S;",
    "LATIN SMALL LETTER DELTA;LATIN CAPITAL LETTER A WITH DOT BELOW;",
    "LATIN SMALL LETTER A WITH DOT BELOW;LATIN CAPITAL LETTER A WITH HOOK ABOVE;",
    "LATIN SMALL LETTER A WITH HOOK ABOVE;LATIN CAPITAL LETTER A WITH CIRCUMFLEX AND ACUTE;",
    "LATIN SMALL LETTER A WITH CIRCUMFLEX AND ACUTE;",
    "LATIN CAPITAL LETTER A WITH CIRCUMFLEX AND GRAVE;",
    "LATIN SMALL LETTER A WITH CIRCUMFLEX AND GRAVE;",
    "LATIN CAPITAL LETTER A WITH CIRCUMFLEX AND HOOK ABOVE;",
    "LATIN SMALL LETTER A WITH CIRCUMFLEX AND HOOK ABOVE;",
    "LATIN CAPITAL LETTER A WITH CIRCUMFLEX AND TILDE;",
    "LATIN SMALL LETTER A WITH CIRCUMFLEX AND TILDE;",
    "LATIN CAPITAL LETTER A WITH CIRCUMFLEX AND DOT BELOW;",
    "LATIN SMALL LETTER A WITH CIRCUMFLEX AND DOT BELOW;",
    "LATIN CAPITAL LETTER A WITH BREVE AND ACUTE;LATIN SMALL LETTER A WITH BREVE AND ACUTE;",
    "LATIN CAPITAL LETTER A WITH BREVE AND GRAVE;LATIN SMALL LETTER A WITH BREVE AND GRAVE;",
    "LATIN CAPITAL LETTER A WITH BREVE AND HOOK ABOVE;",
    "LATIN SMALL LETTER A WITH BREVE AND HOOK ABOVE;LATIN CAPITAL LETTER A WITH BREVE AND TILDE;",
    "LATIN SMALL LETTER A WITH BREVE AND TILDE;LATIN CAPITAL LETTER A WITH BREVE AND DOT BELOW;",
    "LATIN SMALL LETTER A WITH BREVE AND DOT BELOW;LATIN CAPITAL LETTER E WITH DOT BELOW;",
    "LATIN SMALL LETTER E WITH DOT BELOW;LATIN CAPITAL LETTER E WITH HOOK ABOVE;",
    "LATIN SMALL LETTER E WITH HOOK ABOVE;LATIN CAPITAL LETTER E WITH TILDE;",
    "LATIN SMALL LETTER E WITH TILDE;LATIN CAPITAL LETTER E WITH CIRCUMFLEX AND ACUTE;",
    "LATIN SMALL LETTER E WITH CIRCUMFLEX AND ACUTE;",
    "LATIN CAPITAL LETTER E WITH CIRCUMFLEX AND GRAVE;",
    "LATIN SMALL LETTER E WITH CIRCUMFLEX AND GRAVE;",
    "LATIN CAPITAL LETTER E WITH CIRCUMFLEX AND HOOK ABOVE;",
    "LATIN SMALL LETTER E WITH CIRCUMFLEX AND HOOK ABOVE;",
    "LATIN CAPITAL LETTER E WITH CIRCUMFLEX AND TILDE;",
    "LATIN SMALL LETTER E WITH CIRCUMFLEX AND TILDE;",
    "LATIN CAPITAL LETTER E WITH CIRCUMFLEX AND DOT BELOW;",
    "LATIN SMALL LETTER E WITH CIRCUMFLEX AND DOT BELOW;LATIN CAPITAL LETTER I WITH HOOK ABOVE;",
    "LATIN SMALL LETTER I WITH HOOK ABOVE;LATIN CAPITAL LETTER I WITH DOT BELOW;",
    "LATIN SMALL LETTER I WITH DOT BELOW;LATIN CAPITAL LETTER O WITH DOT BELOW;",
    "LATIN SMALL LETTER O WITH DOT BELOW;LATIN CAPITAL LETTER O WITH HOOK ABOVE;",
    "LATIN SMALL LETTER O WITH HOOK ABOVE;LATIN CAPITAL LETTER O WITH CIRCUMFLEX AND ACUTE;",
    "LATIN SMALL LETTER O WITH CIRCUMFLEX AND ACUTE;",
    "LATIN CAPITAL LETTER O WITH CIRCUMFLEX AND GRAVE;",
    "LATIN SMALL LETTER O WITH CIRCUMFLEX AND GRAVE;",
    "LATIN CAPITAL LETTER O WITH CIRCUMFLEX AND HOOK ABOVE;",
    "LATIN SMALL LETTER O WITH CIRCUMFLEX AND HOOK ABOVE;",
    "LATIN CAPITAL LETTER O WITH CIRCUMFLEX AND TILDE;",
    "LATIN SMALL LETTER O WITH CIRCUMFLEX AND TILDE;",
    "LATIN CAPITAL LETTER O WITH CIRCUMFLEX AND DOT BELOW;",
    "LATIN SMALL LETTER O WITH CIRCUMFLEX AND DOT BELOW;",
    "LATIN CAPITAL LETTER O WITH HORN AND ACUTE;LATIN SMALL LETTER O WITH HORN AND ACUTE;",
    "LATIN CAPITAL LETTER O WITH HORN AND GRAVE;LATIN SMALL LETTER O WITH HORN AND GRAVE;",
    "LATIN CAPITAL LETTER O WITH HORN AND HOOK ABOVE;",
    "LATIN SMALL LETTER O WITH HORN AND HOOK ABOVE;LATIN CAPITAL LETTER O WITH HORN AND TILDE;",
    "LATIN SMALL LETTER O WITH HORN AND TILDE;LATIN CAPITAL LETTER O WITH HORN AND DOT BELOW;",
    "LATIN SMALL LETTER O WITH HORN AND DOT BELOW;LATIN CAPITAL LETTER U WITH DOT BELOW;",
    "LATIN SMALL LETTER U WITH DOT BELOW;LATIN CAPITAL LETTER U WITH HOOK ABOVE;",
    "LATIN SMALL LETTER U WITH HOOK ABOVE;LATIN CAPITAL LETTER U WITH HORN AND ACUTE;",
    "LATIN SMALL LETTER U WITH HORN AND ACUTE;LATIN CAPITAL LETTER U WITH HORN AND GRAVE;",
    "LATIN SMALL LETTER U WITH HORN AND GRAVE;LATIN CAPITAL LETTER U WITH HORN AND HOOK ABOVE;",
    "LATIN SMALL LETTER U WITH HORN AND HOOK ABOVE;LATIN CAPITAL LETTER U WITH HORN AND TILDE;",
    "LATIN SMALL LETTER U WITH HORN AND TILDE;LATIN CAPITAL LETTER U WITH HORN AND DOT BELOW;",
    "LATIN SMALL LETTER U WITH HORN AND DOT BELOW;LATIN CAPITAL LETTER Y WITH GRAVE;",
    "LATIN SMALL LETTER Y WITH GRAVE;LATIN CAPITAL LETTER Y WITH DOT BELOW;",
    "LATIN SMALL LETTER Y WITH DOT BELOW;LATIN CAPITAL LETTER Y WITH HOOK ABOVE;",
    "LATIN SMALL LETTER Y WITH HOOK ABOVE;LATIN CAPITAL LETTER Y WITH TILDE;",
    "LATIN SMALL LETTER Y WITH TILDE;LATIN CAPITAL LETTER MIDDLE-WELSH LL;",
    "LATIN SMALL LETTER MIDDLE-WELSH LL;LATIN CAPITAL LETTER MIDDLE-WELSH V;",
    "LATIN SMALL LETTER MIDDLE-WELSH V;LATIN CAPITAL LETTER Y WITH LOOP;",
    "LATIN SMALL LETTER Y WITH LOOP"]⟩]

end YamlStyle.Text.CharacterName
