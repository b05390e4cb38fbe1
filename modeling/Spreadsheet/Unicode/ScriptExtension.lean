import Spreadsheet.CharSet

/-!
# Script extensions

Characters that Unicode 17 lists for more scripts than their own. Each script is given with the
characters that it shares in addition to those that belong to it.
-/

namespace Spreadsheet.Unicode.ScriptExtension

def adlam : String :=
  "61F 640 204F 2E41"

def caucasianAlbanian : String :=
  "304 331 35E"

def arabic : String :=
  "60C 61B 61F 640 64B-655 670 204F 2E41 FD3E-FD3F 102E0-102FB"

def armenian : String :=
  "308"

def avestan : String :=
  "B7 2E30-2E31"

def bengali : String :=
  "2BC 951-952 964-965 1CD0 1CD2 1CD5-1CD6 1CD8 1CE1 1CEA 1CED 1CF2 1CF5-1CF7 A8F1"

def bopomofo : String :=
  "2C7 2C9-2CB 2D9 3001-3003 3008-3011 3013-301F 302A-302D 3030 3037 30FB FE45-FE46 FF61-FF65"

def buginese : String :=
  "A9CF"

def buhid : String :=
  "1735-1736"

def chakma : String :=
  "9E6-9EF 1040-1049"

def carian : String :=
  "B7 205A 205D 2E31"

def cherokee : String :=
  "300-302 304 30B-30C 323-324 330-331"

def coptic : String :=
  "B7 300 304-305 307 374-375 2E17 102E0-102FB"

def cyproMinoan : String :=
  "10100-10101"

def cypriot : String :=
  "10100-10102 10107-10133 10137-1013F"

def cyrillic : String :=
  "2BC 300-302 304 306 308 30B 311 485-486 1DF8 2E43"

def devanagari : String :=
  "2BC 951-952 964-965 1CD0-1CF6 1CF8-1CF9 20F0 A830-A839"

def dogra : String :=
  "964-96F A830-A839"

def duployan : String :=
  "B7 307-308 30A 323-324 2E3C 1BCA0-1BCA3"

def elbasan : String :=
  "B7 305"

def ethiopic : String :=
  "30E"

def georgian : String :=
  "B7 589 10FB 205A 2E31"

def glagolitic : String :=
  "B7 303 305 484 487 589 10FB 205A 2E43 A66F"

def gunjalaGondi : String :=
  "B7 964-965"

def masaramGondi : String :=
  "964-965"

def gothic : String :=
  "B7 304-305 308 331"

def grantha : String :=
  "951-952 964-965 BE6-BF3 1CD0 1CD2-1CD3 1CF2-1CF4 1CF8-1CF9 20F0 1133B 11FD0-11FD1 11FD3"

def greek : String :=
  "B7 300-301 304 306 308 313 342 345 374 1DC0-1DC1 205D"

def gujarati : String :=
  "951-952 964-965 A830-A839"

def gurmukhi : String :=
  "951-952 964-965 A830-A839"

def hangul : String :=
  "3001-3003 3008-3011 3013-301F 3030 3037 30FB FE45-FE46 FF61-FF65"

def han : String :=
  "B7 2FF0-2FFF 3001-3003 3006 3008-3011 3013-301F 302A-302D 3030 3037 303C-303F 30FB 3190-319F
   31C0-31E5 31EF 3220-3247 3280-32B0 32C0-32CB 32FF 3358-3370 337B-337F 33E0-33FE A700-A707
   FE45-FE46 FF61-FF65 1D360-1D371 1F250-1F251"

def hanunoo : String :=
  "1735-1736"

def hebrew : String :=
  "307-308"

def hiragana : String :=
  "3001-3003 3008-3011 3013-301F 3030-3035 3037 303C-303D 3099-309C 30A0 30FB-30FC FE45-FE46
   FF61-FF65 FF70 FF9E-FF9F"

def oldHungarian : String :=
  "205A 205D 2E31 2E41"

def javanese : String :=
  "A9CF"

def kayahLi : String :=
  "A92E"

def katakana : String :=
  "305 323 3001-3003 3008-3011 3013-301F 3030-3035 3037 303C-303D 3099-309C 30A0 30FB-30FC
   FE45-FE46 FF61-FF65 FF70 FF9E-FF9F"

def khojki : String :=
  "AE6-AEF A830-A839"

def kannada : String :=
  "951-952 964-965 1CD0 1CD2-1CD3 1CDA 1CF2 1CF4 A830-A835"

def kaithi : String :=
  "966-96F 2E31 A830-A839"

def latin : String :=
  "B7 2BC 2C7 2C9-2CB 2CD 2D7 2D9 300-30E 310-311 313 323-325 32D-32E 330-331 358 35E 363-36F
   485-486 951-952 10FB 1DF8 202F 20F0 2E17 A700-A707 A92E"

def limbu : String :=
  "965"

def linearA : String :=
  "10107-10133"

def linearB : String :=
  "10100-10102 10107-10133 10137-1013F"

def lisu : String :=
  "2BC 2CD 300A-300B"

def lycian : String :=
  "205A"

def lydian : String :=
  "B7 2E31"

def mahajani : String :=
  "B7 964-96F A830-A839"

def mandaic : String :=
  "640"

def manichaean : String :=
  "640"

def meroiticHieroglyphs : String :=
  "205D"

def malayalam : String :=
  "951-952 964-965 1CDA 1CF2 A830-A832"

def modi : String :=
  "A830-A839"

def mongolian : String :=
  "1802-1803 1805 202F 3001-3002 3008-300B"

def multani : String :=
  "A66-A6F"

def myanmar : String :=
  "A92E"

def nandinagari : String :=
  "951 964-965 CE6-CEF 1CE9 1CF2 1CFA A830-A835"

def newa : String :=
  "951-952 1CD5 1CD7-1CD8 1CE2 1CE9 1CEB 1CED"

def nko : String :=
  "60C 61B 61F FD3E-FD3F"

def oldTurkic : String :=
  "205A 2E30"

def oriya : String :=
  "951-952 964-965 1CDA 1CF2"

def osage : String :=
  "301 304 30B 358"

def oldUyghur : String :=
  "640 10AF2"

def oldPermic : String :=
  "B7 300 306-308 313 483"

def phagsPa : String :=
  "1802-1803 1805 202F 3002"

def psalterPahlavi : String :=
  "640"

def hanifiRohingya : String :=
  "60C 61B 61F 640 6D4"

def runic : String :=
  "16EB-16ED"

def samaritan : String :=
  "2E31"

def shavian : String :=
  "B7"

def sharada : String :=
  "951 1CD7 1CD9 1CDC-1CDD 1CE0 1CEA 1CED A830-A835 A838"

def khudawadi : String :=
  "964-965 A830-A839"

def sinhala : String :=
  "964-965 1CF2"

def sogdian : String :=
  "640"

def sylotiNagri : String :=
  "964-965 9E6-9EF"

def syriac : String :=
  "303-304 307-308 30A 323-325 32D-32E 330-331 60C 61B-61C 61F 640 64B-655 670 1DF8 1DFA"

def tagbanwa : String :=
  "1735-1736"

def takri : String :=
  "964-965 A830-A839"

def taiLe : String :=
  "300-301 307-308 30C 1040-1049"

def tamil : String :=
  "951-952 964-965 1CDA A8F3 11301 11303 1133B-1133C"

def tangut : String :=
  "2FF0-2FFF 31EF"

def telugu : String :=
  "951-952 964-965 1CD5-1CD6 1CD8 1CDA 1CF2"

def tifinagh : String :=
  "302 304 306-309 323"

def tagalog : String :=
  "1735-1736"

def thaana : String :=
  "60C 61B-61C 61F 660-669 FDF2 FDFD"

def thai : String :=
  "2BC 2D7 303 331"

def tibetan : String :=
  "3008-300B"

def tirhuta : String :=
  "951-952 964-965 1CD5 1CE2 1CF2 A830-A839"

def toto : String :=
  "2BC"

def yezidi : String :=
  "60C 61B 61F 660-669"

def yi : String :=
  "3001-3002 3008-3011 3014-301B 30FB FF61-FF65"

/-- The scripts that share characters, under their four-letter names. -/
def table : List (String × String) :=
  [("adlm", adlam),
   ("aghb", caucasianAlbanian),
   ("arab", arabic),
   ("armn", armenian),
   ("avst", avestan),
   ("beng", bengali),
   ("bopo", bopomofo),
   ("bugi", buginese),
   ("buhd", buhid),
   ("cakm", chakma),
   ("cari", carian),
   ("cher", cherokee),
   ("copt", coptic),
   ("cpmn", cyproMinoan),
   ("cprt", cypriot),
   ("cyrl", cyrillic),
   ("deva", devanagari),
   ("dogr", dogra),
   ("dupl", duployan),
   ("elba", elbasan),
   ("ethi", ethiopic),
   ("geor", georgian),
   ("glag", glagolitic),
   ("gong", gunjalaGondi),
   ("gonm", masaramGondi),
   ("goth", gothic),
   ("gran", grantha),
   ("grek", greek),
   ("gujr", gujarati),
   ("guru", gurmukhi),
   ("hang", hangul),
   ("hani", han),
   ("hano", hanunoo),
   ("hebr", hebrew),
   ("hira", hiragana),
   ("hung", oldHungarian),
   ("java", javanese),
   ("kali", kayahLi),
   ("kana", katakana),
   ("khoj", khojki),
   ("knda", kannada),
   ("kthi", kaithi),
   ("latn", latin),
   ("limb", limbu),
   ("lina", linearA),
   ("linb", linearB),
   ("lisu", lisu),
   ("lyci", lycian),
   ("lydi", lydian),
   ("mahj", mahajani),
   ("mand", mandaic),
   ("mani", manichaean),
   ("mero", meroiticHieroglyphs),
   ("mlym", malayalam),
   ("modi", modi),
   ("mong", mongolian),
   ("mult", multani),
   ("mymr", myanmar),
   ("nand", nandinagari),
   ("newa", newa),
   ("nkoo", nko),
   ("orkh", oldTurkic),
   ("orya", oriya),
   ("osge", osage),
   ("ougr", oldUyghur),
   ("perm", oldPermic),
   ("phag", phagsPa),
   ("phlp", psalterPahlavi),
   ("rohg", hanifiRohingya),
   ("runr", runic),
   ("samr", samaritan),
   ("shaw", shavian),
   ("shrd", sharada),
   ("sind", khudawadi),
   ("sinh", sinhala),
   ("sogd", sogdian),
   ("sylo", sylotiNagri),
   ("syrc", syriac),
   ("tagb", tagbanwa),
   ("takr", takri),
   ("tale", taiLe),
   ("taml", tamil),
   ("tang", tangut),
   ("telu", telugu),
   ("tfng", tifinagh),
   ("tglg", tagalog),
   ("thaa", thaana),
   ("thai", thai),
   ("tibt", tibetan),
   ("tirh", tirhuta),
   ("toto", toto),
   ("yezi", yezidi),
   ("yiii", yi)]

end Spreadsheet.Unicode.ScriptExtension
