import YamlStyle.Text.CharacterName.Basic

/-!
# Names of Asian letters

Letters and marks of East Asia and of the Near East.
-/

namespace YamlStyle.Text.CharacterName

/-! ## Names of East Asian characters

Kana, forms of full and half width, and what controls the form of others.
-/

def eastAsian : List Run := [
  ⟨0x3000, [
    "IDEOGRAPHIC SPACE;IDEOGRAPHIC COMMA;IDEOGRAPHIC FULL STOP;DITTO MARK;",
    "JAPANESE INDUSTRIAL STANDARD SYMBOL;IDEOGRAPHIC ITERATION MARK;IDEOGRAPHIC CLOSING MARK;",
    "IDEOGRAPHIC NUMBER ZERO;LEFT ANGLE BRACKET;RIGHT ANGLE BRACKET;LEFT DOUBLE ANGLE BRACKET;",
    "RIGHT DOUBLE ANGLE BRACKET;LEFT CORNER BRACKET;RIGHT CORNER BRACKET;",
    "LEFT WHITE CORNER BRACKET;RIGHT WHITE CORNER BRACKET;LEFT BLACK LENTICULAR BRACKET;",
    "RIGHT BLACK LENTICULAR BRACKET;POSTAL MARK;GETA MARK;LEFT TORTOISE SHELL BRACKET;",
    "RIGHT TORTOISE SHELL BRACKET;LEFT WHITE LENTICULAR BRACKET;RIGHT WHITE LENTICULAR BRACKET;",
    "LEFT WHITE TORTOISE SHELL BRACKET;RIGHT WHITE TORTOISE SHELL BRACKET;",
    "LEFT WHITE SQUARE BRACKET;RIGHT WHITE SQUARE BRACKET;WAVE DASH;",
    "REVERSED DOUBLE PRIME QUOTATION MARK;DOUBLE PRIME QUOTATION MARK;",
    "LOW DOUBLE PRIME QUOTATION MARK;POSTAL MARK FACE;HANGZHOU NUMERAL ONE;HANGZHOU NUMERAL TWO;",
    "HANGZHOU NUMERAL THREE;HANGZHOU NUMERAL FOUR;HANGZHOU NUMERAL FIVE;HANGZHOU NUMERAL SIX;",
    "HANGZHOU NUMERAL SEVEN;HANGZHOU NUMERAL EIGHT;HANGZHOU NUMERAL NINE;",
    "IDEOGRAPHIC LEVEL TONE MARK;IDEOGRAPHIC RISING TONE MARK;IDEOGRAPHIC DEPARTING TONE MARK;",
    "IDEOGRAPHIC ENTERING TONE MARK;HANGUL SINGLE DOT TONE MARK;HANGUL DOUBLE DOT TONE MARK;",
    "WAVY DASH;VERTICAL KANA REPEAT MARK;VERTICAL KANA REPEAT WITH VOICED SOUND MARK;",
    "VERTICAL KANA REPEAT MARK UPPER HALF;VERTICAL KANA REPEAT WITH VOICED SOUND MARK UPPER HALF;",
    "VERTICAL KANA REPEAT MARK LOWER HALF;CIRCLED POSTAL MARK;",
    "IDEOGRAPHIC TELEGRAPH LINE FEED SEPARATOR SYMBOL;HANGZHOU NUMERAL TEN;",
    "HANGZHOU NUMERAL TWENTY;HANGZHOU NUMERAL THIRTY;VERTICAL IDEOGRAPHIC ITERATION MARK;",
    "MASU MARK;PART ALTERNATION MARK;IDEOGRAPHIC VARIATION INDICATOR;IDEOGRAPHIC HALF FILL SPACE"]⟩,
  ⟨0x3041, [
    "HIRAGANA LETTER SMALL A;HIRAGANA LETTER A;HIRAGANA LETTER SMALL I;HIRAGANA LETTER I;",
    "HIRAGANA LETTER SMALL U;HIRAGANA LETTER U;HIRAGANA LETTER SMALL E;HIRAGANA LETTER E;",
    "HIRAGANA LETTER SMALL O;HIRAGANA LETTER O;HIRAGANA LETTER KA;HIRAGANA LETTER GA;",
    "HIRAGANA LETTER KI;HIRAGANA LETTER GI;HIRAGANA LETTER KU;HIRAGANA LETTER GU;",
    "HIRAGANA LETTER KE;HIRAGANA LETTER GE;HIRAGANA LETTER KO;HIRAGANA LETTER GO;",
    "HIRAGANA LETTER SA;HIRAGANA LETTER ZA;HIRAGANA LETTER SI;HIRAGANA LETTER ZI;",
    "HIRAGANA LETTER SU;HIRAGANA LETTER ZU;HIRAGANA LETTER SE;HIRAGANA LETTER ZE;",
    "HIRAGANA LETTER SO;HIRAGANA LETTER ZO;HIRAGANA LETTER TA;HIRAGANA LETTER DA;",
    "HIRAGANA LETTER TI;HIRAGANA LETTER DI;HIRAGANA LETTER SMALL TU;HIRAGANA LETTER TU;",
    "HIRAGANA LETTER DU;HIRAGANA LETTER TE;HIRAGANA LETTER DE;HIRAGANA LETTER TO;",
    "HIRAGANA LETTER DO;HIRAGANA LETTER NA;HIRAGANA LETTER NI;HIRAGANA LETTER NU;",
    "HIRAGANA LETTER NE;HIRAGANA LETTER NO;HIRAGANA LETTER HA;HIRAGANA LETTER BA;",
    "HIRAGANA LETTER PA;HIRAGANA LETTER HI;HIRAGANA LETTER BI;HIRAGANA LETTER PI;",
    "HIRAGANA LETTER HU;HIRAGANA LETTER BU;HIRAGANA LETTER PU;HIRAGANA LETTER HE;",
    "HIRAGANA LETTER BE;HIRAGANA LETTER PE;HIRAGANA LETTER HO;HIRAGANA LETTER BO;",
    "HIRAGANA LETTER PO;HIRAGANA LETTER MA;HIRAGANA LETTER MI;HIRAGANA LETTER MU;",
    "HIRAGANA LETTER ME;HIRAGANA LETTER MO;HIRAGANA LETTER SMALL YA;HIRAGANA LETTER YA;",
    "HIRAGANA LETTER SMALL YU;HIRAGANA LETTER YU;HIRAGANA LETTER SMALL YO;HIRAGANA LETTER YO;",
    "HIRAGANA LETTER RA;HIRAGANA LETTER RI;HIRAGANA LETTER RU;HIRAGANA LETTER RE;",
    "HIRAGANA LETTER RO;HIRAGANA LETTER SMALL WA;HIRAGANA LETTER WA;HIRAGANA LETTER WI;",
    "HIRAGANA LETTER WE;HIRAGANA LETTER WO;HIRAGANA LETTER N;HIRAGANA LETTER VU;",
    "HIRAGANA LETTER SMALL KA;HIRAGANA LETTER SMALL KE;;;",
    "COMBINING KATAKANA-HIRAGANA VOICED SOUND MARK;",
    "COMBINING KATAKANA-HIRAGANA SEMI-VOICED SOUND MARK;KATAKANA-HIRAGANA VOICED SOUND MARK;",
    "KATAKANA-HIRAGANA SEMI-VOICED SOUND MARK;HIRAGANA ITERATION MARK;",
    "HIRAGANA VOICED ITERATION MARK;HIRAGANA DIGRAPH YORI"]⟩,
  ⟨0x30a0, [
    "KATAKANA-HIRAGANA DOUBLE HYPHEN;KATAKANA LETTER SMALL A;KATAKANA LETTER A;",
    "KATAKANA LETTER SMALL I;KATAKANA LETTER I;KATAKANA LETTER SMALL U;KATAKANA LETTER U;",
    "KATAKANA LETTER SMALL E;KATAKANA LETTER E;KATAKANA LETTER SMALL O;KATAKANA LETTER O;",
    "KATAKANA LETTER KA;KATAKANA LETTER GA;KATAKANA LETTER KI;KATAKANA LETTER GI;",
    "KATAKANA LETTER KU;KATAKANA LETTER GU;KATAKANA LETTER KE;KATAKANA LETTER GE;",
    "KATAKANA LETTER KO;KATAKANA LETTER GO;KATAKANA LETTER SA;KATAKANA LETTER ZA;",
    "KATAKANA LETTER SI;KATAKANA LETTER ZI;KATAKANA LETTER SU;KATAKANA LETTER ZU;",
    "KATAKANA LETTER SE;KATAKANA LETTER ZE;KATAKANA LETTER SO;KATAKANA LETTER ZO;",
    "KATAKANA LETTER TA;KATAKANA LETTER DA;KATAKANA LETTER TI;KATAKANA LETTER DI;",
    "KATAKANA LETTER SMALL TU;KATAKANA LETTER TU;KATAKANA LETTER DU;KATAKANA LETTER TE;",
    "KATAKANA LETTER DE;KATAKANA LETTER TO;KATAKANA LETTER DO;KATAKANA LETTER NA;",
    "KATAKANA LETTER NI;KATAKANA LETTER NU;KATAKANA LETTER NE;KATAKANA LETTER NO;",
    "KATAKANA LETTER HA;KATAKANA LETTER BA;KATAKANA LETTER PA;KATAKANA LETTER HI;",
    "KATAKANA LETTER BI;KATAKANA LETTER PI;KATAKANA LETTER HU;KATAKANA LETTER BU;",
    "KATAKANA LETTER PU;KATAKANA LETTER HE;KATAKANA LETTER BE;KATAKANA LETTER PE;",
    "KATAKANA LETTER HO;KATAKANA LETTER BO;KATAKANA LETTER PO;KATAKANA LETTER MA;",
    "KATAKANA LETTER MI;KATAKANA LETTER MU;KATAKANA LETTER ME;KATAKANA LETTER MO;",
    "KATAKANA LETTER SMALL YA;KATAKANA LETTER YA;KATAKANA LETTER SMALL YU;KATAKANA LETTER YU;",
    "KATAKANA LETTER SMALL YO;KATAKANA LETTER YO;KATAKANA LETTER RA;KATAKANA LETTER RI;",
    "KATAKANA LETTER RU;KATAKANA LETTER RE;KATAKANA LETTER RO;KATAKANA LETTER SMALL WA;",
    "KATAKANA LETTER WA;KATAKANA LETTER WI;KATAKANA LETTER WE;KATAKANA LETTER WO;",
    "KATAKANA LETTER N;KATAKANA LETTER VU;KATAKANA LETTER SMALL KA;KATAKANA LETTER SMALL KE;",
    "KATAKANA LETTER VA;KATAKANA LETTER VI;KATAKANA LETTER VE;KATAKANA LETTER VO;",
    "KATAKANA MIDDLE DOT;KATAKANA-HIRAGANA PROLONGED SOUND MARK;KATAKANA ITERATION MARK;",
    "KATAKANA VOICED ITERATION MARK;KATAKANA DIGRAPH KOTO"]⟩,
  ⟨0xfb00, [
    "LATIN SMALL LIGATURE FF;LATIN SMALL LIGATURE FI;LATIN SMALL LIGATURE FL;",
    "LATIN SMALL LIGATURE FFI;LATIN SMALL LIGATURE FFL;LATIN SMALL LIGATURE LONG S T;",
    "LATIN SMALL LIGATURE ST"]⟩,
  ⟨0xfe00, [
    "VARIATION SELECTOR-1;VARIATION SELECTOR-2;VARIATION SELECTOR-3;VARIATION SELECTOR-4;",
    "VARIATION SELECTOR-5;VARIATION SELECTOR-6;VARIATION SELECTOR-7;VARIATION SELECTOR-8;",
    "VARIATION SELECTOR-9;VARIATION SELECTOR-10;VARIATION SELECTOR-11;VARIATION SELECTOR-12;",
    "VARIATION SELECTOR-13;VARIATION SELECTOR-14;VARIATION SELECTOR-15;VARIATION SELECTOR-16"]⟩,
  ⟨0xfeff, [
    "ZERO WIDTH NO-BREAK SPACE"]⟩,
  ⟨0xff01, [
    "FULLWIDTH EXCLAMATION MARK;FULLWIDTH QUOTATION MARK;FULLWIDTH NUMBER SIGN;",
    "FULLWIDTH DOLLAR SIGN;FULLWIDTH PERCENT SIGN;FULLWIDTH AMPERSAND;FULLWIDTH APOSTROPHE;",
    "FULLWIDTH LEFT PARENTHESIS;FULLWIDTH RIGHT PARENTHESIS;FULLWIDTH ASTERISK;",
    "FULLWIDTH PLUS SIGN;FULLWIDTH COMMA;FULLWIDTH HYPHEN-MINUS;FULLWIDTH FULL STOP;",
    "FULLWIDTH SOLIDUS;FULLWIDTH DIGIT ZERO;FULLWIDTH DIGIT ONE;FULLWIDTH DIGIT TWO;",
    "FULLWIDTH DIGIT THREE;FULLWIDTH DIGIT FOUR;FULLWIDTH DIGIT FIVE;FULLWIDTH DIGIT SIX;",
    "FULLWIDTH DIGIT SEVEN;FULLWIDTH DIGIT EIGHT;FULLWIDTH DIGIT NINE;FULLWIDTH COLON;",
    "FULLWIDTH SEMICOLON;FULLWIDTH LESS-THAN SIGN;FULLWIDTH EQUALS SIGN;",
    "FULLWIDTH GREATER-THAN SIGN;FULLWIDTH QUESTION MARK;FULLWIDTH COMMERCIAL AT;",
    "FULLWIDTH LATIN CAPITAL LETTER A;FULLWIDTH LATIN CAPITAL LETTER B;",
    "FULLWIDTH LATIN CAPITAL LETTER C;FULLWIDTH LATIN CAPITAL LETTER D;",
    "FULLWIDTH LATIN CAPITAL LETTER E;FULLWIDTH LATIN CAPITAL LETTER F;",
    "FULLWIDTH LATIN CAPITAL LETTER G;FULLWIDTH LATIN CAPITAL LETTER H;",
    "FULLWIDTH LATIN CAPITAL LETTER I;FULLWIDTH LATIN CAPITAL LETTER J;",
    "FULLWIDTH LATIN CAPITAL LETTER K;FULLWIDTH LATIN CAPITAL LETTER L;",
    "FULLWIDTH LATIN CAPITAL LETTER M;FULLWIDTH LATIN CAPITAL LETTER N;",
    "FULLWIDTH LATIN CAPITAL LETTER O;FULLWIDTH LATIN CAPITAL LETTER P;",
    "FULLWIDTH LATIN CAPITAL LETTER Q;FULLWIDTH LATIN CAPITAL LETTER R;",
    "FULLWIDTH LATIN CAPITAL LETTER S;FULLWIDTH LATIN CAPITAL LETTER T;",
    "FULLWIDTH LATIN CAPITAL LETTER U;FULLWIDTH LATIN CAPITAL LETTER V;",
    "FULLWIDTH LATIN CAPITAL LETTER W;FULLWIDTH LATIN CAPITAL LETTER X;",
    "FULLWIDTH LATIN CAPITAL LETTER Y;FULLWIDTH LATIN CAPITAL LETTER Z;",
    "FULLWIDTH LEFT SQUARE BRACKET;FULLWIDTH REVERSE SOLIDUS;FULLWIDTH RIGHT SQUARE BRACKET;",
    "FULLWIDTH CIRCUMFLEX ACCENT;FULLWIDTH LOW LINE;FULLWIDTH GRAVE ACCENT;",
    "FULLWIDTH LATIN SMALL LETTER A;FULLWIDTH LATIN SMALL LETTER B;",
    "FULLWIDTH LATIN SMALL LETTER C;FULLWIDTH LATIN SMALL LETTER D;",
    "FULLWIDTH LATIN SMALL LETTER E;FULLWIDTH LATIN SMALL LETTER F;",
    "FULLWIDTH LATIN SMALL LETTER G;FULLWIDTH LATIN SMALL LETTER H;",
    "FULLWIDTH LATIN SMALL LETTER I;FULLWIDTH LATIN SMALL LETTER J;",
    "FULLWIDTH LATIN SMALL LETTER K;FULLWIDTH LATIN SMALL LETTER L;",
    "FULLWIDTH LATIN SMALL LETTER M;FULLWIDTH LATIN SMALL LETTER N;",
    "FULLWIDTH LATIN SMALL LETTER O;FULLWIDTH LATIN SMALL LETTER P;",
    "FULLWIDTH LATIN SMALL LETTER Q;FULLWIDTH LATIN SMALL LETTER R;",
    "FULLWIDTH LATIN SMALL LETTER S;FULLWIDTH LATIN SMALL LETTER T;",
    "FULLWIDTH LATIN SMALL LETTER U;FULLWIDTH LATIN SMALL LETTER V;",
    "FULLWIDTH LATIN SMALL LETTER W;FULLWIDTH LATIN SMALL LETTER X;",
    "FULLWIDTH LATIN SMALL LETTER Y;FULLWIDTH LATIN SMALL LETTER Z;FULLWIDTH LEFT CURLY BRACKET;",
    "FULLWIDTH VERTICAL LINE;FULLWIDTH RIGHT CURLY BRACKET;FULLWIDTH TILDE;",
    "FULLWIDTH LEFT WHITE PARENTHESIS;FULLWIDTH RIGHT WHITE PARENTHESIS;",
    "HALFWIDTH IDEOGRAPHIC FULL STOP;HALFWIDTH LEFT CORNER BRACKET;",
    "HALFWIDTH RIGHT CORNER BRACKET;HALFWIDTH IDEOGRAPHIC COMMA;HALFWIDTH KATAKANA MIDDLE DOT;",
    "HALFWIDTH KATAKANA LETTER WO;HALFWIDTH KATAKANA LETTER SMALL A;",
    "HALFWIDTH KATAKANA LETTER SMALL I;HALFWIDTH KATAKANA LETTER SMALL U;",
    "HALFWIDTH KATAKANA LETTER SMALL E;HALFWIDTH KATAKANA LETTER SMALL O;",
    "HALFWIDTH KATAKANA LETTER SMALL YA;HALFWIDTH KATAKANA LETTER SMALL YU;",
    "HALFWIDTH KATAKANA LETTER SMALL YO;HALFWIDTH KATAKANA LETTER SMALL TU;",
    "HALFWIDTH KATAKANA-HIRAGANA PROLONGED SOUND MARK;HALFWIDTH KATAKANA LETTER A;",
    "HALFWIDTH KATAKANA LETTER I;HALFWIDTH KATAKANA LETTER U;HALFWIDTH KATAKANA LETTER E;",
    "HALFWIDTH KATAKANA LETTER O;HALFWIDTH KATAKANA LETTER KA;HALFWIDTH KATAKANA LETTER KI;",
    "HALFWIDTH KATAKANA LETTER KU;HALFWIDTH KATAKANA LETTER KE;HALFWIDTH KATAKANA LETTER KO;",
    "HALFWIDTH KATAKANA LETTER SA;HALFWIDTH KATAKANA LETTER SI;HALFWIDTH KATAKANA LETTER SU;",
    "HALFWIDTH KATAKANA LETTER SE;HALFWIDTH KATAKANA LETTER SO;HALFWIDTH KATAKANA LETTER TA;",
    "HALFWIDTH KATAKANA LETTER TI;HALFWIDTH KATAKANA LETTER TU;HALFWIDTH KATAKANA LETTER TE;",
    "HALFWIDTH KATAKANA LETTER TO;HALFWIDTH KATAKANA LETTER NA;HALFWIDTH KATAKANA LETTER NI;",
    "HALFWIDTH KATAKANA LETTER NU;HALFWIDTH KATAKANA LETTER NE;HALFWIDTH KATAKANA LETTER NO;",
    "HALFWIDTH KATAKANA LETTER HA;HALFWIDTH KATAKANA LETTER HI;HALFWIDTH KATAKANA LETTER HU;",
    "HALFWIDTH KATAKANA LETTER HE;HALFWIDTH KATAKANA LETTER HO;HALFWIDTH KATAKANA LETTER MA;",
    "HALFWIDTH KATAKANA LETTER MI;HALFWIDTH KATAKANA LETTER MU;HALFWIDTH KATAKANA LETTER ME;",
    "HALFWIDTH KATAKANA LETTER MO;HALFWIDTH KATAKANA LETTER YA;HALFWIDTH KATAKANA LETTER YU;",
    "HALFWIDTH KATAKANA LETTER YO;HALFWIDTH KATAKANA LETTER RA;HALFWIDTH KATAKANA LETTER RI;",
    "HALFWIDTH KATAKANA LETTER RU;HALFWIDTH KATAKANA LETTER RE;HALFWIDTH KATAKANA LETTER RO;",
    "HALFWIDTH KATAKANA LETTER WA;HALFWIDTH KATAKANA LETTER N;",
    "HALFWIDTH KATAKANA VOICED SOUND MARK;HALFWIDTH KATAKANA SEMI-VOICED SOUND MARK;",
    "HALFWIDTH HANGUL FILLER;HALFWIDTH HANGUL LETTER KIYEOK;HALFWIDTH HANGUL LETTER SSANGKIYEOK;",
    "HALFWIDTH HANGUL LETTER KIYEOK-SIOS;HALFWIDTH HANGUL LETTER NIEUN;",
    "HALFWIDTH HANGUL LETTER NIEUN-CIEUC;HALFWIDTH HANGUL LETTER NIEUN-HIEUH;",
    "HALFWIDTH HANGUL LETTER TIKEUT;HALFWIDTH HANGUL LETTER SSANGTIKEUT;",
    "HALFWIDTH HANGUL LETTER RIEUL;HALFWIDTH HANGUL LETTER RIEUL-KIYEOK;",
    "HALFWIDTH HANGUL LETTER RIEUL-MIEUM;HALFWIDTH HANGUL LETTER RIEUL-PIEUP;",
    "HALFWIDTH HANGUL LETTER RIEUL-SIOS;HALFWIDTH HANGUL LETTER RIEUL-THIEUTH;",
    "HALFWIDTH HANGUL LETTER RIEUL-PHIEUPH;HALFWIDTH HANGUL LETTER RIEUL-HIEUH;",
    "HALFWIDTH HANGUL LETTER MIEUM;HALFWIDTH HANGUL LETTER PIEUP;",
    "HALFWIDTH HANGUL LETTER SSANGPIEUP;HALFWIDTH HANGUL LETTER PIEUP-SIOS;",
    "HALFWIDTH HANGUL LETTER SIOS;HALFWIDTH HANGUL LETTER SSANGSIOS;",
    "HALFWIDTH HANGUL LETTER IEUNG;HALFWIDTH HANGUL LETTER CIEUC;",
    "HALFWIDTH HANGUL LETTER SSANGCIEUC;HALFWIDTH HANGUL LETTER CHIEUCH;",
    "HALFWIDTH HANGUL LETTER KHIEUKH;HALFWIDTH HANGUL LETTER THIEUTH;",
    "HALFWIDTH HANGUL LETTER PHIEUPH;HALFWIDTH HANGUL LETTER HIEUH;;;;HALFWIDTH HANGUL LETTER A;",
    "HALFWIDTH HANGUL LETTER AE;HALFWIDTH HANGUL LETTER YA;HALFWIDTH HANGUL LETTER YAE;",
    "HALFWIDTH HANGUL LETTER EO;HALFWIDTH HANGUL LETTER E;;;HALFWIDTH HANGUL LETTER YEO;",
    "HALFWIDTH HANGUL LETTER YE;HALFWIDTH HANGUL LETTER O;HALFWIDTH HANGUL LETTER WA;",
    "HALFWIDTH HANGUL LETTER WAE;HALFWIDTH HANGUL LETTER OE;;;HALFWIDTH HANGUL LETTER YO;",
    "HALFWIDTH HANGUL LETTER U;HALFWIDTH HANGUL LETTER WEO;HALFWIDTH HANGUL LETTER WE;",
    "HALFWIDTH HANGUL LETTER WI;HALFWIDTH HANGUL LETTER YU;;;HALFWIDTH HANGUL LETTER EU;",
    "HALFWIDTH HANGUL LETTER YI;HALFWIDTH HANGUL LETTER I;;;;FULLWIDTH CENT SIGN;",
    "FULLWIDTH POUND SIGN;FULLWIDTH NOT SIGN;FULLWIDTH MACRON;FULLWIDTH BROKEN BAR;",
    "FULLWIDTH YEN SIGN;FULLWIDTH WON SIGN;;HALFWIDTH FORMS LIGHT VERTICAL;",
    "HALFWIDTH LEFTWARDS ARROW;HALFWIDTH UPWARDS ARROW;HALFWIDTH RIGHTWARDS ARROW;",
    "HALFWIDTH DOWNWARDS ARROW;HALFWIDTH BLACK SQUARE;HALFWIDTH WHITE CIRCLE"]⟩,
  ⟨0xfff9, [
    "INTERLINEAR ANNOTATION ANCHOR;INTERLINEAR ANNOTATION SEPARATOR;",
    "INTERLINEAR ANNOTATION TERMINATOR;OBJECT REPLACEMENT CHARACTER;REPLACEMENT CHARACTER"]⟩]

/-! ## Names of Near Eastern letters

Hebrew and Arabic letters and their points.
-/

def nearEastern : List Run := [
  ⟨0x591, [
    "HEBREW ACCENT ETNAHTA;HEBREW ACCENT SEGOL;HEBREW ACCENT SHALSHELET;",
    "HEBREW ACCENT ZAQEF QATAN;HEBREW ACCENT ZAQEF GADOL;HEBREW ACCENT TIPEHA;",
    "HEBREW ACCENT REVIA;HEBREW ACCENT ZARQA;HEBREW ACCENT PASHTA;HEBREW ACCENT YETIV;",
    "HEBREW ACCENT TEVIR;HEBREW ACCENT GERESH;HEBREW ACCENT GERESH MUQDAM;",
    "HEBREW ACCENT GERSHAYIM;HEBREW ACCENT QARNEY PARA;HEBREW ACCENT TELISHA GEDOLA;",
    "HEBREW ACCENT PAZER;HEBREW ACCENT ATNAH HAFUKH;HEBREW ACCENT MUNAH;HEBREW ACCENT MAHAPAKH;",
    "HEBREW ACCENT MERKHA;HEBREW ACCENT MERKHA KEFULA;HEBREW ACCENT DARGA;HEBREW ACCENT QADMA;",
    "HEBREW ACCENT TELISHA QETANA;HEBREW ACCENT YERAH BEN YOMO;HEBREW ACCENT OLE;",
    "HEBREW ACCENT ILUY;HEBREW ACCENT DEHI;HEBREW ACCENT ZINOR;HEBREW MARK MASORA CIRCLE;",
    "HEBREW POINT SHEVA;HEBREW POINT HATAF SEGOL;HEBREW POINT HATAF PATAH;",
    "HEBREW POINT HATAF QAMATS;HEBREW POINT HIRIQ;HEBREW POINT TSERE;HEBREW POINT SEGOL;",
    "HEBREW POINT PATAH;HEBREW POINT QAMATS;HEBREW POINT HOLAM;HEBREW POINT HOLAM HASER FOR VAV;",
    "HEBREW POINT QUBUTS;HEBREW POINT DAGESH OR MAPIQ;HEBREW POINT METEG;",
    "HEBREW PUNCTUATION MAQAF;HEBREW POINT RAFE;HEBREW PUNCTUATION PASEQ;HEBREW POINT SHIN DOT;",
    "HEBREW POINT SIN DOT;HEBREW PUNCTUATION SOF PASUQ;HEBREW MARK UPPER DOT;",
    "HEBREW MARK LOWER DOT;HEBREW PUNCTUATION NUN HAFUKHA;HEBREW POINT QAMATS QATAN;;;;;;;;;",
    "HEBREW LETTER ALEF;HEBREW LETTER BET;HEBREW LETTER GIMEL;HEBREW LETTER DALET;",
    "HEBREW LETTER HE;HEBREW LETTER VAV;HEBREW LETTER ZAYIN;HEBREW LETTER HET;HEBREW LETTER TET;",
    "HEBREW LETTER YOD;HEBREW LETTER FINAL KAF;HEBREW LETTER KAF;HEBREW LETTER LAMED;",
    "HEBREW LETTER FINAL MEM;HEBREW LETTER MEM;HEBREW LETTER FINAL NUN;HEBREW LETTER NUN;",
    "HEBREW LETTER SAMEKH;HEBREW LETTER AYIN;HEBREW LETTER FINAL PE;HEBREW LETTER PE;",
    "HEBREW LETTER FINAL TSADI;HEBREW LETTER TSADI;HEBREW LETTER QOF;HEBREW LETTER RESH;",
    "HEBREW LETTER SHIN;HEBREW LETTER TAV;;;;;HEBREW YOD TRIANGLE;",
    "HEBREW LIGATURE YIDDISH DOUBLE VAV;HEBREW LIGATURE YIDDISH VAV YOD;",
    "HEBREW LIGATURE YIDDISH DOUBLE YOD;HEBREW PUNCTUATION GERESH;HEBREW PUNCTUATION GERSHAYIM"]⟩,
  ⟨0x600, [
    "ARABIC NUMBER SIGN;ARABIC SIGN SANAH;ARABIC FOOTNOTE MARKER;ARABIC SIGN SAFHA;",
    "ARABIC SIGN SAMVAT;ARABIC NUMBER MARK ABOVE;ARABIC-INDIC CUBE ROOT;ARABIC-INDIC FOURTH ROOT;",
    "ARABIC RAY;ARABIC-INDIC PER MILLE SIGN;ARABIC-INDIC PER TEN THOUSAND SIGN;AFGHANI SIGN;",
    "ARABIC COMMA;ARABIC DATE SEPARATOR;ARABIC POETIC VERSE SIGN;ARABIC SIGN MISRA;",
    "ARABIC SIGN SALLALLAHOU ALAYHE WASSALLAM;ARABIC SIGN ALAYHE ASSALLAM;",
    "ARABIC SIGN RAHMATULLAH ALAYHE;ARABIC SIGN RADI ALLAHOU ANHU;ARABIC SIGN TAKHALLUS;",
    "ARABIC SMALL HIGH TAH;ARABIC SMALL HIGH LIGATURE ALEF WITH LAM WITH YEH;",
    "ARABIC SMALL HIGH ZAIN;ARABIC SMALL FATHA;ARABIC SMALL DAMMA;ARABIC SMALL KASRA;",
    "ARABIC SEMICOLON;ARABIC LETTER MARK;ARABIC END OF TEXT MARK;",
    "ARABIC TRIPLE DOT PUNCTUATION MARK;ARABIC QUESTION MARK;ARABIC LETTER KASHMIRI YEH;",
    "ARABIC LETTER HAMZA;ARABIC LETTER ALEF WITH MADDA ABOVE;ARABIC LETTER ALEF WITH HAMZA ABOVE;",
    "ARABIC LETTER WAW WITH HAMZA ABOVE;ARABIC LETTER ALEF WITH HAMZA BELOW;",
    "ARABIC LETTER YEH WITH HAMZA ABOVE;ARABIC LETTER ALEF;ARABIC LETTER BEH;",
    "ARABIC LETTER TEH MARBUTA;ARABIC LETTER TEH;ARABIC LETTER THEH;ARABIC LETTER JEEM;",
    "ARABIC LETTER HAH;ARABIC LETTER KHAH;ARABIC LETTER DAL;ARABIC LETTER THAL;ARABIC LETTER REH;",
    "ARABIC LETTER ZAIN;ARABIC LETTER SEEN;ARABIC LETTER SHEEN;ARABIC LETTER SAD;",
    "ARABIC LETTER DAD;ARABIC LETTER TAH;ARABIC LETTER ZAH;ARABIC LETTER AIN;ARABIC LETTER GHAIN;",
    "ARABIC LETTER KEHEH WITH TWO DOTS ABOVE;ARABIC LETTER KEHEH WITH THREE DOTS BELOW;",
    "ARABIC LETTER FARSI YEH WITH INVERTED V;ARABIC LETTER FARSI YEH WITH TWO DOTS ABOVE;",
    "ARABIC LETTER FARSI YEH WITH THREE DOTS ABOVE;ARABIC TATWEEL;ARABIC LETTER FEH;",
    "ARABIC LETTER QAF;ARABIC LETTER KAF;ARABIC LETTER LAM;ARABIC LETTER MEEM;ARABIC LETTER NOON;",
    "ARABIC LETTER HEH;ARABIC LETTER WAW;ARABIC LETTER ALEF MAKSURA;ARABIC LETTER YEH;",
    "ARABIC FATHATAN;ARABIC DAMMATAN;ARABIC KASRATAN;ARABIC FATHA;ARABIC DAMMA;ARABIC KASRA;",
    "ARABIC SHADDA;ARABIC SUKUN;ARABIC MADDAH ABOVE;ARABIC HAMZA ABOVE;ARABIC HAMZA BELOW;",
    "ARABIC SUBSCRIPT ALEF;ARABIC INVERTED DAMMA;ARABIC MARK NOON GHUNNA;ARABIC ZWARAKAY;",
    "ARABIC VOWEL SIGN SMALL V ABOVE;ARABIC VOWEL SIGN INVERTED SMALL V ABOVE;",
    "ARABIC VOWEL SIGN DOT BELOW;ARABIC REVERSED DAMMA;ARABIC FATHA WITH TWO DOTS;",
    "ARABIC WAVY HAMZA BELOW;ARABIC-INDIC DIGIT ZERO;ARABIC-INDIC DIGIT ONE;",
    "ARABIC-INDIC DIGIT TWO;ARABIC-INDIC DIGIT THREE;ARABIC-INDIC DIGIT FOUR;",
    "ARABIC-INDIC DIGIT FIVE;ARABIC-INDIC DIGIT SIX;ARABIC-INDIC DIGIT SEVEN;",
    "ARABIC-INDIC DIGIT EIGHT;ARABIC-INDIC DIGIT NINE;ARABIC PERCENT SIGN;",
    "ARABIC DECIMAL SEPARATOR;ARABIC THOUSANDS SEPARATOR;ARABIC FIVE POINTED STAR;",
    "ARABIC LETTER DOTLESS BEH;ARABIC LETTER DOTLESS QAF;ARABIC LETTER SUPERSCRIPT ALEF;",
    "ARABIC LETTER ALEF WASLA;ARABIC LETTER ALEF WITH WAVY HAMZA ABOVE;",
    "ARABIC LETTER ALEF WITH WAVY HAMZA BELOW;ARABIC LETTER HIGH HAMZA;",
    "ARABIC LETTER HIGH HAMZA ALEF;ARABIC LETTER HIGH HAMZA WAW;ARABIC LETTER U WITH HAMZA ABOVE;",
    "ARABIC LETTER HIGH HAMZA YEH;ARABIC LETTER TTEH;ARABIC LETTER TTEHEH;ARABIC LETTER BEEH;",
    "ARABIC LETTER TEH WITH RING;ARABIC LETTER TEH WITH THREE DOTS ABOVE DOWNWARDS;",
    "ARABIC LETTER PEH;ARABIC LETTER TEHEH;ARABIC LETTER BEHEH;",
    "ARABIC LETTER HAH WITH HAMZA ABOVE;ARABIC LETTER HAH WITH TWO DOTS VERTICAL ABOVE;",
    "ARABIC LETTER NYEH;ARABIC LETTER DYEH;ARABIC LETTER HAH WITH THREE DOTS ABOVE;",
    "ARABIC LETTER TCHEH;ARABIC LETTER TCHEHEH;ARABIC LETTER DDAL;ARABIC LETTER DAL WITH RING;",
    "ARABIC LETTER DAL WITH DOT BELOW;ARABIC LETTER DAL WITH DOT BELOW AND SMALL TAH;",
    "ARABIC LETTER DAHAL;ARABIC LETTER DDAHAL;ARABIC LETTER DUL;",
    "ARABIC LETTER DAL WITH THREE DOTS ABOVE DOWNWARDS;ARABIC LETTER DAL WITH FOUR DOTS ABOVE;",
    "ARABIC LETTER RREH;ARABIC LETTER REH WITH SMALL V;ARABIC LETTER REH WITH RING;",
    "ARABIC LETTER REH WITH DOT BELOW;ARABIC LETTER REH WITH SMALL V BELOW;",
    "ARABIC LETTER REH WITH DOT BELOW AND DOT ABOVE;ARABIC LETTER REH WITH TWO DOTS ABOVE;",
    "ARABIC LETTER JEH;ARABIC LETTER REH WITH FOUR DOTS ABOVE;",
    "ARABIC LETTER SEEN WITH DOT BELOW AND DOT ABOVE;ARABIC LETTER SEEN WITH THREE DOTS BELOW;",
    "ARABIC LETTER SEEN WITH THREE DOTS BELOW AND THREE DOTS ABOVE;",
    "ARABIC LETTER SAD WITH TWO DOTS BELOW;ARABIC LETTER SAD WITH THREE DOTS ABOVE;",
    "ARABIC LETTER TAH WITH THREE DOTS ABOVE;ARABIC LETTER AIN WITH THREE DOTS ABOVE;",
    "ARABIC LETTER DOTLESS FEH;ARABIC LETTER FEH WITH DOT MOVED BELOW;",
    "ARABIC LETTER FEH WITH DOT BELOW;ARABIC LETTER VEH;ARABIC LETTER FEH WITH THREE DOTS BELOW;",
    "ARABIC LETTER PEHEH;ARABIC LETTER QAF WITH DOT ABOVE;",
    "ARABIC LETTER QAF WITH THREE DOTS ABOVE;ARABIC LETTER KEHEH;ARABIC LETTER SWASH KAF;",
    "ARABIC LETTER KAF WITH RING;ARABIC LETTER KAF WITH DOT ABOVE;ARABIC LETTER NG;",
    "ARABIC LETTER KAF WITH THREE DOTS BELOW;ARABIC LETTER GAF;ARABIC LETTER GAF WITH RING;",
    "ARABIC LETTER NGOEH;ARABIC LETTER GAF WITH TWO DOTS BELOW;ARABIC LETTER GUEH;",
    "ARABIC LETTER GAF WITH THREE DOTS ABOVE;ARABIC LETTER LAM WITH SMALL V;",
    "ARABIC LETTER LAM WITH DOT ABOVE;ARABIC LETTER LAM WITH THREE DOTS ABOVE;",
    "ARABIC LETTER LAM WITH THREE DOTS BELOW;ARABIC LETTER NOON WITH DOT BELOW;",
    "ARABIC LETTER NOON GHUNNA;ARABIC LETTER RNOON;ARABIC LETTER NOON WITH RING;",
    "ARABIC LETTER NOON WITH THREE DOTS ABOVE;ARABIC LETTER HEH DOACHASHMEE;",
    "ARABIC LETTER TCHEH WITH DOT ABOVE;ARABIC LETTER HEH WITH YEH ABOVE;ARABIC LETTER HEH GOAL;",
    "ARABIC LETTER HEH GOAL WITH HAMZA ABOVE;ARABIC LETTER TEH MARBUTA GOAL;",
    "ARABIC LETTER WAW WITH RING;ARABIC LETTER KIRGHIZ OE;ARABIC LETTER OE;ARABIC LETTER U;",
    "ARABIC LETTER YU;ARABIC LETTER KIRGHIZ YU;ARABIC LETTER WAW WITH TWO DOTS ABOVE;",
    "ARABIC LETTER VE;ARABIC LETTER FARSI YEH;ARABIC LETTER YEH WITH TAIL;",
    "ARABIC LETTER YEH WITH SMALL V;ARABIC LETTER WAW WITH DOT ABOVE;ARABIC LETTER E;",
    "ARABIC LETTER YEH WITH THREE DOTS BELOW;ARABIC LETTER YEH BARREE;",
    "ARABIC LETTER YEH BARREE WITH HAMZA ABOVE;ARABIC FULL STOP;ARABIC LETTER AE;",
    "ARABIC SMALL HIGH LIGATURE SAD WITH LAM WITH ALEF MAKSURA;",
    "ARABIC SMALL HIGH LIGATURE QAF WITH LAM WITH ALEF MAKSURA;",
    "ARABIC SMALL HIGH MEEM INITIAL FORM;ARABIC SMALL HIGH LAM ALEF;ARABIC SMALL HIGH JEEM;",
    "ARABIC SMALL HIGH THREE DOTS;ARABIC SMALL HIGH SEEN;ARABIC END OF AYAH;",
    "ARABIC START OF RUB EL HIZB;ARABIC SMALL HIGH ROUNDED ZERO;",
    "ARABIC SMALL HIGH UPRIGHT RECTANGULAR ZERO;ARABIC SMALL HIGH DOTLESS HEAD OF KHAH;",
    "ARABIC SMALL HIGH MEEM ISOLATED FORM;ARABIC SMALL LOW SEEN;ARABIC SMALL HIGH MADDA;",
    "ARABIC SMALL WAW;ARABIC SMALL YEH;ARABIC SMALL HIGH YEH;ARABIC SMALL HIGH NOON;",
    "ARABIC PLACE OF SAJDAH;ARABIC EMPTY CENTRE LOW STOP;ARABIC EMPTY CENTRE HIGH STOP;",
    "ARABIC ROUNDED HIGH STOP WITH FILLED CENTRE;ARABIC SMALL LOW MEEM;",
    "ARABIC LETTER DAL WITH INVERTED V;ARABIC LETTER REH WITH INVERTED V;",
    "EXTENDED ARABIC-INDIC DIGIT ZERO;EXTENDED ARABIC-INDIC DIGIT ONE;",
    "EXTENDED ARABIC-INDIC DIGIT TWO;EXTENDED ARABIC-INDIC DIGIT THREE;",
    "EXTENDED ARABIC-INDIC DIGIT FOUR;EXTENDED ARABIC-INDIC DIGIT FIVE;",
    "EXTENDED ARABIC-INDIC DIGIT SIX;EXTENDED ARABIC-INDIC DIGIT SEVEN;",
    "EXTENDED ARABIC-INDIC DIGIT EIGHT;EXTENDED ARABIC-INDIC DIGIT NINE;",
    "ARABIC LETTER SHEEN WITH DOT BELOW;ARABIC LETTER DAD WITH DOT BELOW;",
    "ARABIC LETTER GHAIN WITH DOT BELOW;ARABIC SIGN SINDHI AMPERSAND;",
    "ARABIC SIGN SINDHI POSTPOSITION MEN;ARABIC LETTER HEH WITH INVERTED V"]⟩]

end YamlStyle.Text.CharacterName
