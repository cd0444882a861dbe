import YamlStyle.Text.CharacterName.Basic

/-!
# Names of European letters

Phonetic, Greek, Cyrillic and Armenian letters, and marks that combine with letters.
-/

namespace YamlStyle.Text.CharacterName

def european : List Run := [
  ⟨0x250, [
    "LATIN SMALL LETTER TURNED A;LATIN SMALL LETTER ALPHA;LATIN SMALL LETTER TURNED ALPHA;",
    "LATIN SMALL LETTER B WITH HOOK;LATIN SMALL LETTER OPEN O;LATIN SMALL LETTER C WITH CURL;",
    "LATIN SMALL LETTER D WITH TAIL;LATIN SMALL LETTER D WITH HOOK;LATIN SMALL LETTER REVERSED E;",
    "LATIN SMALL LETTER SCHWA;LATIN SMALL LETTER SCHWA WITH HOOK;LATIN SMALL LETTER OPEN E;",
    "LATIN SMALL LETTER REVERSED OPEN E;LATIN SMALL LETTER REVERSED OPEN E WITH HOOK;",
    "LATIN SMALL LETTER CLOSED REVERSED OPEN E;LATIN SMALL LETTER DOTLESS J WITH STROKE;",
    "LATIN SMALL LETTER G WITH HOOK;LATIN SMALL LETTER SCRIPT G;LATIN LETTER SMALL CAPITAL G;",
    "LATIN SMALL LETTER GAMMA;LATIN SMALL LETTER RAMS HORN;LATIN SMALL LETTER TURNED H;",
    "LATIN SMALL LETTER H WITH HOOK;LATIN SMALL LETTER HENG WITH HOOK;",
    "LATIN SMALL LETTER I WITH STROKE;LATIN SMALL LETTER IOTA;LATIN LETTER SMALL CAPITAL I;",
    "LATIN SMALL LETTER L WITH MIDDLE TILDE;LATIN SMALL LETTER L WITH BELT;",
    "LATIN SMALL LETTER L WITH RETROFLEX HOOK;LATIN SMALL LETTER LEZH;",
    "LATIN SMALL LETTER TURNED M;LATIN SMALL LETTER TURNED M WITH LONG LEG;",
    "LATIN SMALL LETTER M WITH HOOK;LATIN SMALL LETTER N WITH LEFT HOOK;",
    "LATIN SMALL LETTER N WITH RETROFLEX HOOK;LATIN LETTER SMALL CAPITAL N;",
    "LATIN SMALL LETTER BARRED O;LATIN LETTER SMALL CAPITAL OE;LATIN SMALL LETTER CLOSED OMEGA;",
    "LATIN SMALL LETTER PHI;LATIN SMALL LETTER TURNED R;",
    "LATIN SMALL LETTER TURNED R WITH LONG LEG;LATIN SMALL LETTER TURNED R WITH HOOK;",
    "LATIN SMALL LETTER R WITH LONG LEG;LATIN SMALL LETTER R WITH TAIL;",
    "LATIN SMALL LETTER R WITH FISHHOOK;LATIN SMALL LETTER REVERSED R WITH FISHHOOK;",
    "LATIN LETTER SMALL CAPITAL R;LATIN LETTER SMALL CAPITAL INVERTED R;",
    "LATIN SMALL LETTER S WITH HOOK;LATIN SMALL LETTER ESH;",
    "LATIN SMALL LETTER DOTLESS J WITH STROKE AND HOOK;LATIN SMALL LETTER SQUAT REVERSED ESH;",
    "LATIN SMALL LETTER ESH WITH CURL;LATIN SMALL LETTER TURNED T;",
    "LATIN SMALL LETTER T WITH RETROFLEX HOOK;LATIN SMALL LETTER U BAR;",
    "LATIN SMALL LETTER UPSILON;LATIN SMALL LETTER V WITH HOOK;LATIN SMALL LETTER TURNED V;",
    "LATIN SMALL LETTER TURNED W;LATIN SMALL LETTER TURNED Y;LATIN LETTER SMALL CAPITAL Y;",
    "LATIN SMALL LETTER Z WITH RETROFLEX HOOK;LATIN SMALL LETTER Z WITH CURL;",
    "LATIN SMALL LETTER EZH;LATIN SMALL LETTER EZH WITH CURL;LATIN LETTER GLOTTAL STOP;",
    "LATIN LETTER PHARYNGEAL VOICED FRICATIVE;LATIN LETTER INVERTED GLOTTAL STOP;",
    "LATIN LETTER STRETCHED C;LATIN LETTER BILABIAL CLICK;LATIN LETTER SMALL CAPITAL B;",
    "LATIN SMALL LETTER CLOSED OPEN E;LATIN LETTER SMALL CAPITAL G WITH HOOK;",
    "LATIN LETTER SMALL CAPITAL H;LATIN SMALL LETTER J WITH CROSSED-TAIL;",
    "LATIN SMALL LETTER TURNED K;LATIN LETTER SMALL CAPITAL L;LATIN SMALL LETTER Q WITH HOOK;",
    "LATIN LETTER GLOTTAL STOP WITH STROKE;LATIN LETTER REVERSED GLOTTAL STOP WITH STROKE;",
    "LATIN SMALL LETTER DZ DIGRAPH;LATIN SMALL LETTER DEZH DIGRAPH;",
    "LATIN SMALL LETTER DZ DIGRAPH WITH CURL;LATIN SMALL LETTER TS DIGRAPH;",
    "LATIN SMALL LETTER TESH DIGRAPH;LATIN SMALL LETTER TC DIGRAPH WITH CURL;",
    "LATIN SMALL LETTER FENG DIGRAPH;LATIN SMALL LETTER LS DIGRAPH;LATIN SMALL LETTER LZ DIGRAPH;",
    "LATIN LETTER BILABIAL PERCUSSIVE;LATIN LETTER BIDENTAL PERCUSSIVE;",
    "LATIN SMALL LETTER TURNED H WITH FISHHOOK;",
    "LATIN SMALL LETTER TURNED H WITH FISHHOOK AND TAIL;MODIFIER LETTER SMALL H;",
    "MODIFIER LETTER SMALL H WITH HOOK;MODIFIER LETTER SMALL J;MODIFIER LETTER SMALL R;",
    "MODIFIER LETTER SMALL TURNED R;MODIFIER LETTER SMALL TURNED R WITH HOOK;",
    "MODIFIER LETTER SMALL CAPITAL INVERTED R;MODIFIER LETTER SMALL W;MODIFIER LETTER SMALL Y;",
    "MODIFIER LETTER PRIME;MODIFIER LETTER DOUBLE PRIME;MODIFIER LETTER TURNED COMMA;",
    "MODIFIER LETTER APOSTROPHE;MODIFIER LETTER REVERSED COMMA;MODIFIER LETTER RIGHT HALF RING;",
    "MODIFIER LETTER LEFT HALF RING;MODIFIER LETTER GLOTTAL STOP;",
    "MODIFIER LETTER REVERSED GLOTTAL STOP;MODIFIER LETTER LEFT ARROWHEAD;",
    "MODIFIER LETTER RIGHT ARROWHEAD;MODIFIER LETTER UP ARROWHEAD;MODIFIER LETTER DOWN ARROWHEAD;",
    "MODIFIER LETTER CIRCUMFLEX ACCENT;CARON;MODIFIER LETTER VERTICAL LINE;",
    "MODIFIER LETTER MACRON;MODIFIER LETTER ACUTE ACCENT;MODIFIER LETTER GRAVE ACCENT;",
    "MODIFIER LETTER LOW VERTICAL LINE;MODIFIER LETTER LOW MACRON;",
    "MODIFIER LETTER LOW GRAVE ACCENT;MODIFIER LETTER LOW ACUTE ACCENT;",
    "MODIFIER LETTER TRIANGULAR COLON;MODIFIER LETTER HALF TRIANGULAR COLON;",
    "MODIFIER LETTER CENTRED RIGHT HALF RING;MODIFIER LETTER CENTRED LEFT HALF RING;",
    "MODIFIER LETTER UP TACK;MODIFIER LETTER DOWN TACK;MODIFIER LETTER PLUS SIGN;",
    "MODIFIER LETTER MINUS SIGN;BREVE;DOT ABOVE;RING ABOVE;OGONEK;SMALL TILDE;",
    "DOUBLE ACUTE ACCENT;MODIFIER LETTER RHOTIC HOOK;MODIFIER LETTER CROSS ACCENT;",
    "MODIFIER LETTER SMALL GAMMA;MODIFIER LETTER SMALL L;MODIFIER LETTER SMALL S;",
    "MODIFIER LETTER SMALL X;MODIFIER LETTER SMALL REVERSED GLOTTAL STOP;",
    "MODIFIER LETTER EXTRA-HIGH TONE BAR;MODIFIER LETTER HIGH TONE BAR;",
    "MODIFIER LETTER MID TONE BAR;MODIFIER LETTER LOW TONE BAR;",
    "MODIFIER LETTER EXTRA-LOW TONE BAR;MODIFIER LETTER YIN DEPARTING TONE MARK;",
    "MODIFIER LETTER YANG DEPARTING TONE MARK;MODIFIER LETTER VOICING;",
    "MODIFIER LETTER UNASPIRATED;MODIFIER LETTER DOUBLE APOSTROPHE;",
    "MODIFIER LETTER LOW DOWN ARROWHEAD;MODIFIER LETTER LOW UP ARROWHEAD;",
    "MODIFIER LETTER LOW LEFT ARROWHEAD;MODIFIER LETTER LOW RIGHT ARROWHEAD;",
    "MODIFIER LETTER LOW RING;MODIFIER LETTER MIDDLE GRAVE ACCENT;",
    "MODIFIER LETTER MIDDLE DOUBLE GRAVE ACCENT;MODIFIER LETTER MIDDLE DOUBLE ACUTE ACCENT;",
    "MODIFIER LETTER LOW TILDE;MODIFIER LETTER RAISED COLON;MODIFIER LETTER BEGIN HIGH TONE;",
    "MODIFIER LETTER END HIGH TONE;MODIFIER LETTER BEGIN LOW TONE;MODIFIER LETTER END LOW TONE;",
    "MODIFIER LETTER SHELF;MODIFIER LETTER OPEN SHELF;MODIFIER LETTER LOW LEFT ARROW"]⟩,
  ⟨0x300, [
    "COMBINING GRAVE ACCENT;COMBINING ACUTE ACCENT;COMBINING CIRCUMFLEX ACCENT;COMBINING TILDE;",
    "COMBINING MACRON;COMBINING OVERLINE;COMBINING BREVE;COMBINING DOT ABOVE;COMBINING DIAERESIS;",
    "COMBINING HOOK ABOVE;COMBINING RING ABOVE;COMBINING DOUBLE ACUTE ACCENT;COMBINING CARON;",
    "COMBINING VERTICAL LINE ABOVE;COMBINING DOUBLE VERTICAL LINE ABOVE;",
    "COMBINING DOUBLE GRAVE ACCENT;COMBINING CANDRABINDU;COMBINING INVERTED BREVE;",
    "COMBINING TURNED COMMA ABOVE;COMBINING COMMA ABOVE;COMBINING REVERSED COMMA ABOVE;",
    "COMBINING COMMA ABOVE RIGHT;COMBINING GRAVE ACCENT BELOW;COMBINING ACUTE ACCENT BELOW;",
    "COMBINING LEFT TACK BELOW;COMBINING RIGHT TACK BELOW;COMBINING LEFT ANGLE ABOVE;",
    "COMBINING HORN;COMBINING LEFT HALF RING BELOW;COMBINING UP TACK BELOW;",
    "COMBINING DOWN TACK BELOW;COMBINING PLUS SIGN BELOW;COMBINING MINUS SIGN BELOW;",
    "COMBINING PALATALIZED HOOK BELOW;COMBINING RETROFLEX HOOK BELOW;COMBINING DOT BELOW;",
    "COMBINING DIAERESIS BELOW;COMBINING RING BELOW;COMBINING COMMA BELOW;COMBINING CEDILLA;",
    "COMBINING OGONEK;COMBINING VERTICAL LINE BELOW;COMBINING BRIDGE BELOW;",
    "COMBINING INVERTED DOUBLE ARCH BELOW;COMBINING CARON BELOW;",
    "COMBINING CIRCUMFLEX ACCENT BELOW;COMBINING BREVE BELOW;COMBINING INVERTED BREVE BELOW;",
    "COMBINING TILDE BELOW;COMBINING MACRON BELOW;COMBINING LOW LINE;COMBINING DOUBLE LOW LINE;",
    "COMBINING TILDE OVERLAY;COMBINING SHORT STROKE OVERLAY;COMBINING LONG STROKE OVERLAY;",
    "COMBINING SHORT SOLIDUS OVERLAY;COMBINING LONG SOLIDUS OVERLAY;",
    "COMBINING RIGHT HALF RING BELOW;COMBINING INVERTED BRIDGE BELOW;COMBINING SQUARE BELOW;",
    "COMBINING SEAGULL BELOW;COMBINING X ABOVE;COMBINING VERTICAL TILDE;",
    "COMBINING DOUBLE OVERLINE;COMBINING GRAVE TONE MARK;COMBINING ACUTE TONE MARK;",
    "COMBINING GREEK PERISPOMENI;COMBINING GREEK KORONIS;COMBINING GREEK DIALYTIKA TONOS;",
    "COMBINING GREEK YPOGEGRAMMENI;COMBINING BRIDGE ABOVE;COMBINING EQUALS SIGN BELOW;",
    "COMBINING DOUBLE VERTICAL LINE BELOW;COMBINING LEFT ANGLE BELOW;COMBINING NOT TILDE ABOVE;",
    "COMBINING HOMOTHETIC ABOVE;COMBINING ALMOST EQUAL TO ABOVE;COMBINING LEFT RIGHT ARROW BELOW;",
    "COMBINING UPWARDS ARROW BELOW;COMBINING GRAPHEME JOINER;COMBINING RIGHT ARROWHEAD ABOVE;",
    "COMBINING LEFT HALF RING ABOVE;COMBINING FERMATA;COMBINING X BELOW;",
    "COMBINING LEFT ARROWHEAD BELOW;COMBINING RIGHT ARROWHEAD BELOW;",
    "COMBINING RIGHT ARROWHEAD AND UP ARROWHEAD BELOW;COMBINING RIGHT HALF RING ABOVE;",
    "COMBINING DOT ABOVE RIGHT;COMBINING ASTERISK BELOW;COMBINING DOUBLE RING BELOW;",
    "COMBINING ZIGZAG ABOVE;COMBINING DOUBLE BREVE BELOW;COMBINING DOUBLE BREVE;",
    "COMBINING DOUBLE MACRON;COMBINING DOUBLE MACRON BELOW;COMBINING DOUBLE TILDE;",
    "COMBINING DOUBLE INVERTED BREVE;COMBINING DOUBLE RIGHTWARDS ARROW BELOW;",
    "COMBINING LATIN SMALL LETTER A;COMBINING LATIN SMALL LETTER E;",
    "COMBINING LATIN SMALL LETTER I;COMBINING LATIN SMALL LETTER O;",
    "COMBINING LATIN SMALL LETTER U;COMBINING LATIN SMALL LETTER C;",
    "COMBINING LATIN SMALL LETTER D;COMBINING LATIN SMALL LETTER H;",
    "COMBINING LATIN SMALL LETTER M;COMBINING LATIN SMALL LETTER R;",
    "COMBINING LATIN SMALL LETTER T;COMBINING LATIN SMALL LETTER V;COMBINING LATIN SMALL LETTER X"]⟩,
  ⟨0x370, [
    "GREEK CAPITAL LETTER HETA;GREEK SMALL LETTER HETA;GREEK CAPITAL LETTER ARCHAIC SAMPI;",
    "GREEK SMALL LETTER ARCHAIC SAMPI;GREEK NUMERAL SIGN;GREEK LOWER NUMERAL SIGN;",
    "GREEK CAPITAL LETTER PAMPHYLIAN DIGAMMA;GREEK SMALL LETTER PAMPHYLIAN DIGAMMA;;;",
    "GREEK YPOGEGRAMMENI;GREEK SMALL REVERSED LUNATE SIGMA SYMBOL;",
    "GREEK SMALL DOTTED LUNATE SIGMA SYMBOL;GREEK SMALL REVERSED DOTTED LUNATE SIGMA SYMBOL;",
    "GREEK QUESTION MARK;GREEK CAPITAL LETTER YOT;;;;;GREEK TONOS;GREEK DIALYTIKA TONOS;",
    "GREEK CAPITAL LETTER ALPHA WITH TONOS;GREEK ANO TELEIA;",
    "GREEK CAPITAL LETTER EPSILON WITH TONOS;GREEK CAPITAL LETTER ETA WITH TONOS;",
    "GREEK CAPITAL LETTER IOTA WITH TONOS;;GREEK CAPITAL LETTER OMICRON WITH TONOS;;",
    "GREEK CAPITAL LETTER UPSILON WITH TONOS;GREEK CAPITAL LETTER OMEGA WITH TONOS;",
    "GREEK SMALL LETTER IOTA WITH DIALYTIKA AND TONOS;GREEK CAPITAL LETTER ALPHA;",
    "GREEK CAPITAL LETTER BETA;GREEK CAPITAL LETTER GAMMA;GREEK CAPITAL LETTER DELTA;",
    "GREEK CAPITAL LETTER EPSILON;GREEK CAPITAL LETTER ZETA;GREEK CAPITAL LETTER ETA;",
    "GREEK CAPITAL LETTER THETA;GREEK CAPITAL LETTER IOTA;GREEK CAPITAL LETTER KAPPA;",
    "GREEK CAPITAL LETTER LAMDA;GREEK CAPITAL LETTER MU;GREEK CAPITAL LETTER NU;",
    "GREEK CAPITAL LETTER XI;GREEK CAPITAL LETTER OMICRON;GREEK CAPITAL LETTER PI;",
    "GREEK CAPITAL LETTER RHO;;GREEK CAPITAL LETTER SIGMA;GREEK CAPITAL LETTER TAU;",
    "GREEK CAPITAL LETTER UPSILON;GREEK CAPITAL LETTER PHI;GREEK CAPITAL LETTER CHI;",
    "GREEK CAPITAL LETTER PSI;GREEK CAPITAL LETTER OMEGA;",
    "GREEK CAPITAL LETTER IOTA WITH DIALYTIKA;GREEK CAPITAL LETTER UPSILON WITH DIALYTIKA;",
    "GREEK SMALL LETTER ALPHA WITH TONOS;GREEK SMALL LETTER EPSILON WITH TONOS;",
    "GREEK SMALL LETTER ETA WITH TONOS;GREEK SMALL LETTER IOTA WITH TONOS;",
    "GREEK SMALL LETTER UPSILON WITH DIALYTIKA AND TONOS;GREEK SMALL LETTER ALPHA;",
    "GREEK SMALL LETTER BETA;GREEK SMALL LETTER GAMMA;GREEK SMALL LETTER DELTA;",
    "GREEK SMALL LETTER EPSILON;GREEK SMALL LETTER ZETA;GREEK SMALL LETTER ETA;",
    "GREEK SMALL LETTER THETA;GREEK SMALL LETTER IOTA;GREEK SMALL LETTER KAPPA;",
    "GREEK SMALL LETTER LAMDA;GREEK SMALL LETTER MU;GREEK SMALL LETTER NU;GREEK SMALL LETTER XI;",
    "GREEK SMALL LETTER OMICRON;GREEK SMALL LETTER PI;GREEK SMALL LETTER RHO;",
    "GREEK SMALL LETTER FINAL SIGMA;GREEK SMALL LETTER SIGMA;GREEK SMALL LETTER TAU;",
    "GREEK SMALL LETTER UPSILON;GREEK SMALL LETTER PHI;GREEK SMALL LETTER CHI;",
    "GREEK SMALL LETTER PSI;GREEK SMALL LETTER OMEGA;GREEK SMALL LETTER IOTA WITH DIALYTIKA;",
    "GREEK SMALL LETTER UPSILON WITH DIALYTIKA;GREEK SMALL LETTER OMICRON WITH TONOS;",
    "GREEK SMALL LETTER UPSILON WITH TONOS;GREEK SMALL LETTER OMEGA WITH TONOS;",
    "GREEK CAPITAL KAI SYMBOL;GREEK BETA SYMBOL;GREEK THETA SYMBOL;",
    "GREEK UPSILON WITH HOOK SYMBOL;GREEK UPSILON WITH ACUTE AND HOOK SYMBOL;",
    "GREEK UPSILON WITH DIAERESIS AND HOOK SYMBOL;GREEK PHI SYMBOL;GREEK PI SYMBOL;",
    "GREEK KAI SYMBOL;GREEK LETTER ARCHAIC KOPPA;GREEK SMALL LETTER ARCHAIC KOPPA;",
    "GREEK LETTER STIGMA;GREEK SMALL LETTER STIGMA;GREEK LETTER DIGAMMA;",
    "GREEK SMALL LETTER DIGAMMA;GREEK LETTER KOPPA;GREEK SMALL LETTER KOPPA;GREEK LETTER SAMPI;",
    "GREEK SMALL LETTER SAMPI;COPTIC CAPITAL LETTER SHEI;COPTIC SMALL LETTER SHEI;",
    "COPTIC CAPITAL LETTER FEI;COPTIC SMALL LETTER FEI;COPTIC CAPITAL LETTER KHEI;",
    "COPTIC SMALL LETTER KHEI;COPTIC CAPITAL LETTER HORI;COPTIC SMALL LETTER HORI;",
    "COPTIC CAPITAL LETTER GANGIA;COPTIC SMALL LETTER GANGIA;COPTIC CAPITAL LETTER SHIMA;",
    "COPTIC SMALL LETTER SHIMA;COPTIC CAPITAL LETTER DEI;COPTIC SMALL LETTER DEI;",
    "GREEK KAPPA SYMBOL;GREEK RHO SYMBOL;GREEK LUNATE SIGMA SYMBOL;GREEK LETTER YOT;",
    "GREEK CAPITAL THETA SYMBOL;GREEK LUNATE EPSILON SYMBOL;GREEK REVERSED LUNATE EPSILON SYMBOL;",
    "GREEK CAPITAL LETTER SHO;GREEK SMALL LETTER SHO;GREEK CAPITAL LUNATE SIGMA SYMBOL;",
    "GREEK CAPITAL LETTER SAN;GREEK SMALL LETTER SAN;GREEK RHO WITH STROKE SYMBOL;",
    "GREEK CAPITAL REVERSED LUNATE SIGMA SYMBOL;GREEK CAPITAL DOTTED LUNATE SIGMA SYMBOL;",
    "GREEK CAPITAL REVERSED DOTTED LUNATE SIGMA SYMBOL"]⟩,
  ⟨0x400, [
    "CYRILLIC CAPITAL LETTER IE WITH GRAVE;CYRILLIC CAPITAL LETTER IO;",
    "CYRILLIC CAPITAL LETTER DJE;CYRILLIC CAPITAL LETTER GJE;",
    "CYRILLIC CAPITAL LETTER UKRAINIAN IE;CYRILLIC CAPITAL LETTER DZE;",
    "CYRILLIC CAPITAL LETTER BYELORUSSIAN-UKRAINIAN I;CYRILLIC CAPITAL LETTER YI;",
    "CYRILLIC CAPITAL LETTER JE;CYRILLIC CAPITAL LETTER LJE;CYRILLIC CAPITAL LETTER NJE;",
    "CYRILLIC CAPITAL LETTER TSHE;CYRILLIC CAPITAL LETTER KJE;",
    "CYRILLIC CAPITAL LETTER I WITH GRAVE;CYRILLIC CAPITAL LETTER SHORT U;",
    "CYRILLIC CAPITAL LETTER DZHE;CYRILLIC CAPITAL LETTER A;CYRILLIC CAPITAL LETTER BE;",
    "CYRILLIC CAPITAL LETTER VE;CYRILLIC CAPITAL LETTER GHE;CYRILLIC CAPITAL LETTER DE;",
    "CYRILLIC CAPITAL LETTER IE;CYRILLIC CAPITAL LETTER ZHE;CYRILLIC CAPITAL LETTER ZE;",
    "CYRILLIC CAPITAL LETTER I;CYRILLIC CAPITAL LETTER SHORT I;CYRILLIC CAPITAL LETTER KA;",
    "CYRILLIC CAPITAL LETTER EL;CYRILLIC CAPITAL LETTER EM;CYRILLIC CAPITAL LETTER EN;",
    "CYRILLIC CAPITAL LETTER O;CYRILLIC CAPITAL LETTER PE;CYRILLIC CAPITAL LETTER ER;",
    "CYRILLIC CAPITAL LETTER ES;CYRILLIC CAPITAL LETTER TE;CYRILLIC CAPITAL LETTER U;",
    "CYRILLIC CAPITAL LETTER EF;CYRILLIC CAPITAL LETTER HA;CYRILLIC CAPITAL LETTER TSE;",
    "CYRILLIC CAPITAL LETTER CHE;CYRILLIC CAPITAL LETTER SHA;CYRILLIC CAPITAL LETTER SHCHA;",
    "CYRILLIC CAPITAL LETTER HARD SIGN;CYRILLIC CAPITAL LETTER YERU;",
    "CYRILLIC CAPITAL LETTER SOFT SIGN;CYRILLIC CAPITAL LETTER E;CYRILLIC CAPITAL LETTER YU;",
    "CYRILLIC CAPITAL LETTER YA;CYRILLIC SMALL LETTER A;CYRILLIC SMALL LETTER BE;",
    "CYRILLIC SMALL LETTER VE;CYRILLIC SMALL LETTER GHE;CYRILLIC SMALL LETTER DE;",
    "CYRILLIC SMALL LETTER IE;CYRILLIC SMALL LETTER ZHE;CYRILLIC SMALL LETTER ZE;",
    "CYRILLIC SMALL LETTER I;CYRILLIC SMALL LETTER SHORT I;CYRILLIC SMALL LETTER KA;",
    "CYRILLIC SMALL LETTER EL;CYRILLIC SMALL LETTER EM;CYRILLIC SMALL LETTER EN;",
    "CYRILLIC SMALL LETTER O;CYRILLIC SMALL LETTER PE;CYRILLIC SMALL LETTER ER;",
    "CYRILLIC SMALL LETTER ES;CYRILLIC SMALL LETTER TE;CYRILLIC SMALL LETTER U;",
    "CYRILLIC SMALL LETTER EF;CYRILLIC SMALL LETTER HA;CYRILLIC SMALL LETTER TSE;",
    "CYRILLIC SMALL LETTER CHE;CYRILLIC SMALL LETTER SHA;CYRILLIC SMALL LETTER SHCHA;",
    "CYRILLIC SMALL LETTER HARD SIGN;CYRILLIC SMALL LETTER YERU;CYRILLIC SMALL LETTER SOFT SIGN;",
    "CYRILLIC SMALL LETTER E;CYRILLIC SMALL LETTER YU;CYRILLIC SMALL LETTER YA;",
    "CYRILLIC SMALL LETTER IE WITH GRAVE;CYRILLIC SMALL LETTER IO;CYRILLIC SMALL LETTER DJE;",
    "CYRILLIC SMALL LETTER GJE;CYRILLIC SMALL LETTER UKRAINIAN IE;CYRILLIC SMALL LETTER DZE;",
    "CYRILLIC SMALL LETTER BYELORUSSIAN-UKRAINIAN I;CYRILLIC SMALL LETTER YI;",
    "CYRILLIC SMALL LETTER JE;CYRILLIC SMALL LETTER LJE;CYRILLIC SMALL LETTER NJE;",
    "CYRILLIC SMALL LETTER TSHE;CYRILLIC SMALL LETTER KJE;CYRILLIC SMALL LETTER I WITH GRAVE;",
    "CYRILLIC SMALL LETTER SHORT U;CYRILLIC SMALL LETTER DZHE;CYRILLIC CAPITAL LETTER OMEGA;",
    "CYRILLIC SMALL LETTER OMEGA;CYRILLIC CAPITAL LETTER YAT;CYRILLIC SMALL LETTER YAT;",
    "CYRILLIC CAPITAL LETTER IOTIFIED E;CYRILLIC SMALL LETTER IOTIFIED E;",
    "CYRILLIC CAPITAL LETTER LITTLE YUS;CYRILLIC SMALL LETTER LITTLE YUS;",
    "CYRILLIC CAPITAL LETTER IOTIFIED LITTLE YUS;CYRILLIC SMALL LETTER IOTIFIED LITTLE YUS;",
    "CYRILLIC CAPITAL LETTER BIG YUS;CYRILLIC SMALL LETTER BIG YUS;",
    "CYRILLIC CAPITAL LETTER IOTIFIED BIG YUS;CYRILLIC SMALL LETTER IOTIFIED BIG YUS;",
    "CYRILLIC CAPITAL LETTER KSI;CYRILLIC SMALL LETTER KSI;CYRILLIC CAPITAL LETTER PSI;",
    "CYRILLIC SMALL LETTER PSI;CYRILLIC CAPITAL LETTER FITA;CYRILLIC SMALL LETTER FITA;",
    "CYRILLIC CAPITAL LETTER IZHITSA;CYRILLIC SMALL LETTER IZHITSA;",
    "CYRILLIC CAPITAL LETTER IZHITSA WITH DOUBLE GRAVE ACCENT;",
    "CYRILLIC SMALL LETTER IZHITSA WITH DOUBLE GRAVE ACCENT;CYRILLIC CAPITAL LETTER UK;",
    "CYRILLIC SMALL LETTER UK;CYRILLIC CAPITAL LETTER ROUND OMEGA;",
    "CYRILLIC SMALL LETTER ROUND OMEGA;CYRILLIC CAPITAL LETTER OMEGA WITH TITLO;",
    "CYRILLIC SMALL LETTER OMEGA WITH TITLO;CYRILLIC CAPITAL LETTER OT;CYRILLIC SMALL LETTER OT;",
    "CYRILLIC CAPITAL LETTER KOPPA;CYRILLIC SMALL LETTER KOPPA;CYRILLIC THOUSANDS SIGN;",
    "COMBINING CYRILLIC TITLO;COMBINING CYRILLIC PALATALIZATION;",
    "COMBINING CYRILLIC DASIA PNEUMATA;COMBINING CYRILLIC PSILI PNEUMATA;",
    "COMBINING CYRILLIC POKRYTIE;COMBINING CYRILLIC HUNDRED THOUSANDS SIGN;",
    "COMBINING CYRILLIC MILLIONS SIGN;CYRILLIC CAPITAL LETTER SHORT I WITH TAIL;",
    "CYRILLIC SMALL LETTER SHORT I WITH TAIL;CYRILLIC CAPITAL LETTER SEMISOFT SIGN;",
    "CYRILLIC SMALL LETTER SEMISOFT SIGN;CYRILLIC CAPITAL LETTER ER WITH TICK;",
    "CYRILLIC SMALL LETTER ER WITH TICK;CYRILLIC CAPITAL LETTER GHE WITH UPTURN;",
    "CYRILLIC SMALL LETTER GHE WITH UPTURN;CYRILLIC CAPITAL LETTER GHE WITH STROKE;",
    "CYRILLIC SMALL LETTER GHE WITH STROKE;CYRILLIC CAPITAL LETTER GHE WITH MIDDLE HOOK;",
    "CYRILLIC SMALL LETTER GHE WITH MIDDLE HOOK;CYRILLIC CAPITAL LETTER ZHE WITH DESCENDER;",
    "CYRILLIC SMALL LETTER ZHE WITH DESCENDER;CYRILLIC CAPITAL LETTER ZE WITH DESCENDER;",
    "CYRILLIC SMALL LETTER ZE WITH DESCENDER;CYRILLIC CAPITAL LETTER KA WITH DESCENDER;",
    "CYRILLIC SMALL LETTER KA WITH DESCENDER;CYRILLIC CAPITAL LETTER KA WITH VERTICAL STROKE;",
    "CYRILLIC SMALL LETTER KA WITH VERTICAL STROKE;CYRILLIC CAPITAL LETTER KA WITH STROKE;",
    "CYRILLIC SMALL LETTER KA WITH STROKE;CYRILLIC CAPITAL LETTER BASHKIR KA;",
    "CYRILLIC SMALL LETTER BASHKIR KA;CYRILLIC CAPITAL LETTER EN WITH DESCENDER;",
    "CYRILLIC SMALL LETTER EN WITH DESCENDER;CYRILLIC CAPITAL LIGATURE EN GHE;",
    "CYRILLIC SMALL LIGATURE EN GHE;CYRILLIC CAPITAL LETTER PE WITH MIDDLE HOOK;",
    "CYRILLIC SMALL LETTER PE WITH MIDDLE HOOK;CYRILLIC CAPITAL LETTER ABKHASIAN HA;",
    "CYRILLIC SMALL LETTER ABKHASIAN HA;CYRILLIC CAPITAL LETTER ES WITH DESCENDER;",
    "CYRILLIC SMALL LETTER ES WITH DESCENDER;CYRILLIC CAPITAL LETTER TE WITH DESCENDER;",
    "CYRILLIC SMALL LETTER TE WITH DESCENDER;CYRILLIC CAPITAL LETTER STRAIGHT U;",
    "CYRILLIC SMALL LETTER STRAIGHT U;CYRILLIC CAPITAL LETTER STRAIGHT U WITH STROKE;",
    "CYRILLIC SMALL LETTER STRAIGHT U WITH STROKE;CYRILLIC CAPITAL LETTER HA WITH DESCENDER;",
    "CYRILLIC SMALL LETTER HA WITH DESCENDER;CYRILLIC CAPITAL LIGATURE TE TSE;",
    "CYRILLIC SMALL LIGATURE TE TSE;CYRILLIC CAPITAL LETTER CHE WITH DESCENDER;",
    "CYRILLIC SMALL LETTER CHE WITH DESCENDER;CYRILLIC CAPITAL LETTER CHE WITH VERTICAL STROKE;",
    "CYRILLIC SMALL LETTER CHE WITH VERTICAL STROKE;CYRILLIC CAPITAL LETTER SHHA;",
    "CYRILLIC SMALL LETTER SHHA;CYRILLIC CAPITAL LETTER ABKHASIAN CHE;",
    "CYRILLIC SMALL LETTER ABKHASIAN CHE;CYRILLIC CAPITAL LETTER ABKHASIAN CHE WITH DESCENDER;",
    "CYRILLIC SMALL LETTER ABKHASIAN CHE WITH DESCENDER;CYRILLIC LETTER PALOCHKA;",
    "CYRILLIC CAPITAL LETTER ZHE WITH BREVE;CYRILLIC SMALL LETTER ZHE WITH BREVE;",
    "CYRILLIC CAPITAL LETTER KA WITH HOOK;CYRILLIC SMALL LETTER KA WITH HOOK;",
    "CYRILLIC CAPITAL LETTER EL WITH TAIL;CYRILLIC SMALL LETTER EL WITH TAIL;",
    "CYRILLIC CAPITAL LETTER EN WITH HOOK;CYRILLIC SMALL LETTER EN WITH HOOK;",
    "CYRILLIC CAPITAL LETTER EN WITH TAIL;CYRILLIC SMALL LETTER EN WITH TAIL;",
    "CYRILLIC CAPITAL LETTER KHAKASSIAN CHE;CYRILLIC SMALL LETTER KHAKASSIAN CHE;",
    "CYRILLIC CAPITAL LETTER EM WITH TAIL;CYRILLIC SMALL LETTER EM WITH TAIL;",
    "CYRILLIC SMALL LETTER PALOCHKA;CYRILLIC CAPITAL LETTER A WITH BREVE;",
    "CYRILLIC SMALL LETTER A WITH BREVE;CYRILLIC CAPITAL LETTER A WITH DIAERESIS;",
    "CYRILLIC SMALL LETTER A WITH DIAERESIS;CYRILLIC CAPITAL LIGATURE A IE;",
    "CYRILLIC SMALL LIGATURE A IE;CYRILLIC CAPITAL LETTER IE WITH BREVE;",
    "CYRILLIC SMALL LETTER IE WITH BREVE;CYRILLIC CAPITAL LETTER SCHWA;",
    "CYRILLIC SMALL LETTER SCHWA;CYRILLIC CAPITAL LETTER SCHWA WITH DIAERESIS;",
    "CYRILLIC SMALL LETTER SCHWA WITH DIAERESIS;CYRILLIC CAPITAL LETTER ZHE WITH DIAERESIS;",
    "CYRILLIC SMALL LETTER ZHE WITH DIAERESIS;CYRILLIC CAPITAL LETTER ZE WITH DIAERESIS;",
    "CYRILLIC SMALL LETTER ZE WITH DIAERESIS;CYRILLIC CAPITAL LETTER ABKHASIAN DZE;",
    "CYRILLIC SMALL LETTER ABKHASIAN DZE;CYRILLIC CAPITAL LETTER I WITH MACRON;",
    "CYRILLIC SMALL LETTER I WITH MACRON;CYRILLIC CAPITAL LETTER I WITH DIAERESIS;",
    "CYRILLIC SMALL LETTER I WITH DIAERESIS;CYRILLIC CAPITAL LETTER O WITH DIAERESIS;",
    "CYRILLIC SMALL LETTER O WITH DIAERESIS;CYRILLIC CAPITAL LETTER BARRED O;",
    "CYRILLIC SMALL LETTER BARRED O;CYRILLIC CAPITAL LETTER BARRED O WITH DIAERESIS;",
    "CYRILLIC SMALL LETTER BARRED O WITH DIAERESIS;CYRILLIC CAPITAL LETTER E WITH DIAERESIS;",
    "CYRILLIC SMALL LETTER E WITH DIAERESIS;CYRILLIC CAPITAL LETTER U WITH MACRON;",
    "CYRILLIC SMALL LETTER U WITH MACRON;CYRILLIC CAPITAL LETTER U WITH DIAERESIS;",
    "CYRILLIC SMALL LETTER U WITH DIAERESIS;CYRILLIC CAPITAL LETTER U WITH DOUBLE ACUTE;",
    "CYRILLIC SMALL LETTER U WITH DOUBLE ACUTE;CYRILLIC CAPITAL LETTER CHE WITH DIAERESIS;",
    "CYRILLIC SMALL LETTER CHE WITH DIAERESIS;CYRILLIC CAPITAL LETTER GHE WITH DESCENDER;",
    "CYRILLIC SMALL LETTER GHE WITH DESCENDER;CYRILLIC CAPITAL LETTER YERU WITH DIAERESIS;",
    "CYRILLIC SMALL LETTER YERU WITH DIAERESIS;CYRILLIC CAPITAL LETTER GHE WITH STROKE AND HOOK;",
    "CYRILLIC SMALL LETTER GHE WITH STROKE AND HOOK;CYRILLIC CAPITAL LETTER HA WITH HOOK;",
    "CYRILLIC SMALL LETTER HA WITH HOOK;CYRILLIC CAPITAL LETTER HA WITH STROKE;",
    "CYRILLIC SMALL LETTER HA WITH STROKE"]⟩,
  ⟨0x500, [
    "CYRILLIC CAPITAL LETTER KOMI DE;CYRILLIC SMALL LETTER KOMI DE;",
    "CYRILLIC CAPITAL LETTER KOMI DJE;CYRILLIC SMALL LETTER KOMI DJE;",
    "CYRILLIC CAPITAL LETTER KOMI ZJE;CYRILLIC SMALL LETTER KOMI ZJE;",
    "CYRILLIC CAPITAL LETTER KOMI DZJE;CYRILLIC SMALL LETTER KOMI DZJE;",
    "CYRILLIC CAPITAL LETTER KOMI LJE;CYRILLIC SMALL LETTER KOMI LJE;",
    "CYRILLIC CAPITAL LETTER KOMI NJE;CYRILLIC SMALL LETTER KOMI NJE;",
    "CYRILLIC CAPITAL LETTER KOMI SJE;CYRILLIC SMALL LETTER KOMI SJE;",
    "CYRILLIC CAPITAL LETTER KOMI TJE;CYRILLIC SMALL LETTER KOMI TJE;",
    "CYRILLIC CAPITAL LETTER REVERSED ZE;CYRILLIC SMALL LETTER REVERSED ZE;",
    "CYRILLIC CAPITAL LETTER EL WITH HOOK;CYRILLIC SMALL LETTER EL WITH HOOK;",
    "CYRILLIC CAPITAL LETTER LHA;CYRILLIC SMALL LETTER LHA;CYRILLIC CAPITAL LETTER RHA;",
    "CYRILLIC SMALL LETTER RHA;CYRILLIC CAPITAL LETTER YAE;CYRILLIC SMALL LETTER YAE;",
    "CYRILLIC CAPITAL LETTER QA;CYRILLIC SMALL LETTER QA;CYRILLIC CAPITAL LETTER WE;",
    "CYRILLIC SMALL LETTER WE;CYRILLIC CAPITAL LETTER ALEUT KA;CYRILLIC SMALL LETTER ALEUT KA;",
    "CYRILLIC CAPITAL LETTER EL WITH MIDDLE HOOK;CYRILLIC SMALL LETTER EL WITH MIDDLE HOOK;",
    "CYRILLIC CAPITAL LETTER EN WITH MIDDLE HOOK;CYRILLIC SMALL LETTER EN WITH MIDDLE HOOK;",
    "CYRILLIC CAPITAL LETTER PE WITH DESCENDER;CYRILLIC SMALL LETTER PE WITH DESCENDER;",
    "CYRILLIC CAPITAL LETTER SHHA WITH DESCENDER;CYRILLIC SMALL LETTER SHHA WITH DESCENDER;",
    "CYRILLIC CAPITAL LETTER EN WITH LEFT HOOK;CYRILLIC SMALL LETTER EN WITH LEFT HOOK;",
    "CYRILLIC CAPITAL LETTER DZZHE;CYRILLIC SMALL LETTER DZZHE;CYRILLIC CAPITAL LETTER DCHE;",
    "CYRILLIC SMALL LETTER DCHE;CYRILLIC CAPITAL LETTER EL WITH DESCENDER;",
    "CYRILLIC SMALL LETTER EL WITH DESCENDER"]⟩,
  ⟨0x531, [
    "ARMENIAN CAPITAL LETTER AYB;ARMENIAN CAPITAL LETTER BEN;ARMENIAN CAPITAL LETTER GIM;",
    "ARMENIAN CAPITAL LETTER DA;ARMENIAN CAPITAL LETTER ECH;ARMENIAN CAPITAL LETTER ZA;",
    "ARMENIAN CAPITAL LETTER EH;ARMENIAN CAPITAL LETTER ET;ARMENIAN CAPITAL LETTER TO;",
    "ARMENIAN CAPITAL LETTER ZHE;ARMENIAN CAPITAL LETTER INI;ARMENIAN CAPITAL LETTER LIWN;",
    "ARMENIAN CAPITAL LETTER XEH;ARMENIAN CAPITAL LETTER CA;ARMENIAN CAPITAL LETTER KEN;",
    "ARMENIAN CAPITAL LETTER HO;ARMENIAN CAPITAL LETTER JA;ARMENIAN CAPITAL LETTER GHAD;",
    "ARMENIAN CAPITAL LETTER CHEH;ARMENIAN CAPITAL LETTER MEN;ARMENIAN CAPITAL LETTER YI;",
    "ARMENIAN CAPITAL LETTER NOW;ARMENIAN CAPITAL LETTER SHA;ARMENIAN CAPITAL LETTER VO;",
    "ARMENIAN CAPITAL LETTER CHA;ARMENIAN CAPITAL LETTER PEH;ARMENIAN CAPITAL LETTER JHEH;",
    "ARMENIAN CAPITAL LETTER RA;ARMENIAN CAPITAL LETTER SEH;ARMENIAN CAPITAL LETTER VEW;",
    "ARMENIAN CAPITAL LETTER TIWN;ARMENIAN CAPITAL LETTER REH;ARMENIAN CAPITAL LETTER CO;",
    "ARMENIAN CAPITAL LETTER YIWN;ARMENIAN CAPITAL LETTER PIWR;ARMENIAN CAPITAL LETTER KEH;",
    "ARMENIAN CAPITAL LETTER OH;ARMENIAN CAPITAL LETTER FEH;;;",
    "ARMENIAN MODIFIER LETTER LEFT HALF RING;ARMENIAN APOSTROPHE;ARMENIAN EMPHASIS MARK;",
    "ARMENIAN EXCLAMATION MARK;ARMENIAN COMMA;ARMENIAN QUESTION MARK;ARMENIAN ABBREVIATION MARK;",
    "ARMENIAN SMALL LETTER TURNED AYB;ARMENIAN SMALL LETTER AYB;ARMENIAN SMALL LETTER BEN;",
    "ARMENIAN SMALL LETTER GIM;ARMENIAN SMALL LETTER DA;ARMENIAN SMALL LETTER ECH;",
    "ARMENIAN SMALL LETTER ZA;ARMENIAN SMALL LETTER EH;ARMENIAN SMALL LETTER ET;",
    "ARMENIAN SMALL LETTER TO;ARMENIAN SMALL LETTER ZHE;ARMENIAN SMALL LETTER INI;",
    "ARMENIAN SMALL LETTER LIWN;ARMENIAN SMALL LETTER XEH;ARMENIAN SMALL LETTER CA;",
    "ARMENIAN SMALL LETTER KEN;ARMENIAN SMALL LETTER HO;ARMENIAN SMALL LETTER JA;",
    "ARMENIAN SMALL LETTER GHAD;ARMENIAN SMALL LETTER CHEH;ARMENIAN SMALL LETTER MEN;",
    "ARMENIAN SMALL LETTER YI;ARMENIAN SMALL LETTER NOW;ARMENIAN SMALL LETTER SHA;",
    "ARMENIAN SMALL LETTER VO;ARMENIAN SMALL LETTER CHA;ARMENIAN SMALL LETTER PEH;",
    "ARMENIAN SMALL LETTER JHEH;ARMENIAN SMALL LETTER RA;ARMENIAN SMALL LETTER SEH;",
    "ARMENIAN SMALL LETTER VEW;ARMENIAN SMALL LETTER TIWN;ARMENIAN SMALL LETTER REH;",
    "ARMENIAN SMALL LETTER CO;ARMENIAN SMALL LETTER YIWN;ARMENIAN SMALL LETTER PIWR;",
    "ARMENIAN SMALL LETTER KEH;ARMENIAN SMALL LETTER OH;ARMENIAN SMALL LETTER FEH;",
    "ARMENIAN SMALL LIGATURE ECH YIWN;ARMENIAN SMALL LETTER YI WITH STROKE;ARMENIAN FULL STOP;",
    "ARMENIAN HYPHEN;;;RIGHT-FACING ARMENIAN ETERNITY SIGN;LEFT-FACING ARMENIAN ETERNITY SIGN;",
    "ARMENIAN DRAM SIGN"]⟩]

end YamlStyle.Text.CharacterName
