/-!
# Scripts

The Unicode property `Script`: the writing system that a character belongs to.

## Main definitions

* `scripts` — the characters of each script.
* `scriptNames` — abbreviated names.
-/

namespace Codemod.Text

/-- The characters of each script, by its normalised name, in stored form. -/
def scripts : List (String × String) :=
  [("adlam",
    "2olc 24 4 a 4 2"),
   ("ahom",
    "1j40 r 2 f 4 n"),
   ("anatolianhieroglyphs",
    "1s00 g7"),
   ("arabic",
    ("16o 5 1 6 1 e 1 3 1 w 1 a b q 1 30 1 y 28 1c 6o y 5 23 1 t 1bv4 dq 2 40 w g 34 5 1 3r " ++
    "31f v 1v 6 8 9 x 6 181s 4 1 r 1 2 1 1 2 1 1 a 1 4 1 1 1 1 6 1 4 1 1 1 1 1 1 3 1 2 1 1 2 " ++
    "1 1 1 1 1 1 1 1 1 1 2 1 1 2 4 1 7 1 4 1 4 1 1 1 a 1 h 5 3 1 5 1 h 1g 2")),
   ("armenian",
    "10x 12 2 1e 2 3 1chv 5"),
   ("avestan",
    "1gqo 1i 3 7"),
   ("balinese",
    "5c0 25 1 1e"),
   ("bamum",
    "www 2g 124o ft"),
   ("bassavah",
    "1zo0 u 2 6"),
   ("batak",
    "5hc 1g 8 4"),
   ("bengali",
    "1vk 4 1 8 2 2 2 m 1 7 1 1 3 4 2 9 2 2 2 4 8 1 4 2 1 5 2 p"),
   ("bhaiksuki",
    "1k3k 9 1 19 1 e a t"),
   ("bopomofo",
    "kq 2 93t 17 34 w"),
   ("brahmi",
    "1hq8 26 4 10 9 1"),
   ("braille",
    "7wg 74"),
   ("buginese",
    "54w s 2 2"),
   ("buhid",
    "4lc k"),
   ("canadianaboriginal",
    "3y8 hs fk 1y 1ewq g"),
   ("carian",
    "1f34 1d"),
   ("caucasianalbanian",
    "1flc 1g b 1"),
   ("chakma",
    "1hxc 1h 1 i"),
   ("cham",
    "xkw 1j 9 e 2 a 2 4"),
   ("cherokee",
    "3vk 2e 2 6 twy 28"),
   ("chorasmian",
    "1ho0 s"),
   ("common",
    ("0 1t q 6 q 1b 1 f 1 5 n 1 v 1 ch 13 5 5 2 k 38 1 9 1 6 1 1 1 hp 1 6 1 e 1 3 1 w 1 4c 1 " ++
    "ec 1 3l 2 yh 1 b9 4 82 1 167 3 1z 2 5n 2 1 1 y5 1 d 1 7 4 1 6 1 3 2 1 lh c 2 2f 1 b 3 b " ++
    "1 f h y 1q 12 1 3 2 6 1 r 1 h 15 3 4 ii m b l ps 74 hg 2 3u e8 2m b6 l 1 1 1 p f 8 4 4 " ++
    "2j 2 3 1 2i 2 43 g w 12 9 1 1c 1s v 29 1b 1 2g 4o 534 1s hkw y 2u 3 4l a 6s 1 4g 1 az 1 " ++
    "e 2 g5u 2 5s a m z 1 j 1 4 43 1 1 w q 6 q b a 1 19 2 1s 7 1 7 a 5 76 3 4 19 3 9 28 d 1f " ++
    "19 6c r 10o4 4 318 71 3 c4 6 n f h 2n 38 1o 6u a 13 2 1q 3 h 8 2 7 u 4 1p 5x k c k c 2f " ++
    "9 p 3r 2d 1 1z 1 2 2 1 2 2 2 4 1 c 1 1 1 7 1 1t 1 4 2 8 1 7 1 s 1 4 1 5 1 1 3 7 1 9g 2 " ++
    "84 2 1e 41d 1w 24 1p jm 18 4 2s c f 2 f 1 f 1 11 a 4u 1k q 1 2 d 18 4 9 7 2 e 6 4a rd 3 " ++
    "h 3 d 3 62 6 c 4 1 f c 4 1k 8 a 6 14 8 u 2 c 4 2 e 9 13 9k 8 e 2 d 3 b 3 1l 1 1 4 g 2 c " ++
    "4 a 7 43 1 2v gvly 1 u 2o")),
   ("coptic",
    "rm e 80g 38 5 7"),
   ("cuneiform",
    "1kw0 pm 2u 33 1 5 b 5g"),
   ("cypriot",
    "1g5c 6 2 1 1 18 1 2 3 1 2 1"),
   ("cyprominoan",
    "1nyo 2r"),
   ("cyrillic",
    "sg 3p 2 4p 4ls b 4g 1 24 1 38n w nr4 2o ham 2 18n4 1q x 1"),
   ("deseret",
    "1fcw 28"),
   ("devanagari",
    "1s0 29 4 f 2 q vhc w mio a"),
   ("divesakuru",
    "1ji8 7 2 1 2 8 1 2 1 u 1 2 2 c 9 a"),
   ("dogra",
    "1jb4 1o"),
   ("duployan",
    "2fpc 2z 5 d 3 9 7 a 2 4"),
   ("egyptianhieroglyphs",
    "1o1s uu a 32z"),
   ("elbasan",
    "1fk0 14"),
   ("elymaic",
    "1hpc n"),
   ("ethiopic",
    ("3k0 21 1 4 2 7 1 1 1 4 2 15 1 4 2 x 1 4 2 7 1 1 1 4 2 f 1 1l 1 4 2 1v 2 w 3 q 546 n 9 7 " ++
    "1 7 1 7 1 7 1 7 1 7 1 7 1 7 opu 6 2 6 2 6 9 7 1 7 1qk1 7 1 4 1 2 1 f")),
   ("garay",
    "1h6o 12 3 t 8 2"),
   ("georgian",
    "3a8 12 1 1 5 1 2 17 1 4 2a8 17 2 3 37k 12 1 1 5 1"),
   ("glagolitic",
    "8ow 2o 2e1s 7 1 h 2 7 1 2 1 5"),
   ("gothic",
    "1f74 r"),
   ("grantha",
    "1ibk 4 1 8 2 2 2 m 1 7 1 2 1 5 2 9 2 2 2 3 2 1 6 1 5 7 2 7 3 5"),
   ("greek",
    ("og 4 1 3 2 4 1 1 4 1 1 1 1 3 1 1 1 k 1 1r e g 4yu 5 1e 5 4 5 2c 1 8w m 2 6 2 12 2 6 2 8 " ++
    "1 1 1 1 1 1 1 v 2 1h 1 f 1 e 2 6 1 j 2 3 1 9 87 1 rb2 1 gyi 27 h 1 155r 1y")),
   ("gujarati",
    "22p 3 1 9 1 3 1 m 1 7 1 2 1 5 2 a 1 3 1 3 2 1 f 4 2 c 7 7"),
   ("gunjalagondi",
    "1kdc 6 1 2 1 11 1 2 1 6 7 a"),
   ("gurmukhi",
    "1z5 3 1 6 4 2 2 m 1 7 1 2 1 2 1 2 2 1 1 5 4 2 2 3 3 1 7 4 1 1 7 h"),
   ("gurungkhema",
    "1xq8 1m"),
   ("han",
    ("96o q 1 2h c 5y 1b 1 1 1 p 9 e 4 qs 534 1s g74 hkw a6 2 2y n48 2 c 7 sg9 wyo w 3dq 2 " ++
    "4ge 2 5rl f ha 1wi f2 15u 3t7 5 6ju")),
   ("hangul",
    ("3cw 74 5ym 2 75 2m 35 v 1t v nhd t hv 8mc c n 4 1d 7tw v 3 6 2 6 2 6 2 3")),
   ("hanifirohingya",
    "1h4w 14 8 a"),
   ("hanunoo",
    "4kg l"),
   ("hatran",
    "1gbk j 1 2 5 5"),
   ("hebrew",
    "13l 1j 8 r 4 6 1cfc q 1 5 1 1 1 2 1 2 1 a"),
   ("hiragana",
    "9j5 2e 6 3 23q9 7z i 1 t 3 crx 1"),
   ("imperialaramaic",
    "1g74 m 1 9"),
   ("inherited",
    ("lc 34 7p 2 ck b q 1 kg 4 3ff 1a 2 c dg 3 1 d 1 7 4 1 6 1 3 2 5i 1s ek 2 5e x 309 4 2z 2 " ++
    "14kl g g e r3 1 6a 1 38a 1 1138 1a 2 n f4 3 h 8 2 7 u 4 h45u 6o")),
   ("inscriptionalpahlavi",
    "1gtc j 5 8"),
   ("inscriptionalparthian",
    "1gsg m 2 8"),
   ("javanese",
    "xhc 26 2 a 4 2"),
   ("kaithi",
    "1hts 1v a 1"),
   ("kannada",
    "2gw d 1 3 1 n 1 a 1 5 2 9 1 3 1 4 7 2 5 3 1 4 2 a 1 3"),
   ("katakana",
    ("9lt 2i 2 3 6o g 5s 1b 1 2g 14b2 a 1 19 ytu 4 1 7 1 2 1 1 7z 3 1e 1 e 4")),
   ("kawi",
    "1kow h 1 15 3 t"),
   ("kayahli",
    "xds 1a 1 1"),
   ("kharoshthi",
    "1gjk 4 1 2 5 8 1 3 1 t 2 3 4 a 7 9"),
   ("khitansmallscript",
    "20o4 1 5cr d2 15 1"),
   ("khmer",
    "4n4 2m 2 a 6 a di w"),
   ("khojki",
    "1i4g i 1 1b"),
   ("khudawadi",
    "1i9c 1n 5 a"),
   ("kiratrai",
    "205c 1m"),
   ("lao",
    "2v5 2 1 1 1 5 1 o 1 1 1 n 2 5 1 1 1 7 1 a 2 4"),
   ("latin",
    ("1t q 6 q 1b 1 f 1 5 n 1 v 1 ch 13 5 55n 12 6 1d 5 4 5 d 1 1y 1t 74 a9 1 d 1 g d 3x 2 6 " ++
    "1 r 1 h 15 253 w o82 2u 3 2a k f mo 17 1 9 1 4 fpy 7 t6 q 6 q 1lx 6 1 16 1 9 16it v 6 6")),
   ("lepcha",
    "5j4 1k 3 f 3 3"),
   ("limbu",
    "4xs v 1 c 4 c 4 1 3 c"),
   ("lineara",
    "1fr4 8n 9 m a 8"),
   ("linearb",
    "1ekg c 1 q 1 j 1 2 1 f 2 e y 3f"),
   ("lisu",
    "wk0 1c o8g 1"),
   ("lycian",
    "1f28 t"),
   ("lydian",
    "1gdc q 5 1"),
   ("mahajani",
    "1hzk 13"),
   ("makasar",
    "1ko0 p"),
   ("malayalam",
    "2kg d 1 3 1 1f 1 3 1 6 4 g 2 q"),
   ("mandaic",
    "1mo s 2 1"),
   ("manichaean",
    "1gow 13 4 c"),
   ("marchen",
    "1k6o w 2 m 1 e"),
   ("medefaidrin",
    "20cg 2j"),
   ("masaramgondi",
    "1kao 7 1 2 1 18 3 1 1 2 1 9 8 a"),
   ("meeteimayek",
    "xr4 n 5l 1a 2 a"),
   ("mendekikakui",
    "2oe8 5h 2 g"),
   ("meroiticcursive",
    "1ggw o 4 k 2 1a"),
   ("meroitichieroglyphs",
    "1gg0 w"),
   ("miao",
    "20hs 23 4 1l 7 h"),
   ("modi",
    "1iww 1x b a"),
   ("mongolian",
    "4qo 2 2 1 1 k 6 2h 7 17 1e45 d"),
   ("mro",
    "1zk0 v 1 a 4 2"),
   ("multani",
    "1i80 7 1 1 1 4 1 f 1 b"),
   ("myanmar",
    "35s 4g u9s v 2p w le8 k"),
   ("nabataean",
    "1g8w v 8 9"),
   ("nagmundari",
    "2nrk 16"),
   ("nandinagari",
    "1jmo 8 2 1a 2 b"),
   ("newtailue",
    "51c 18 4 q 6 b 3 2"),
   ("newa",
    "1iio 2k 1 5"),
   ("nko",
    "1j4 1n 2 3"),
   ("nushu",
    "20o1 1 cy6 b0"),
   ("nyiakengpuachuehmong",
    "2n0g 19 3 e 2 a 4 2"),
   ("ogham",
    "4g0 t"),
   ("olchiki",
    "5lc 1c"),
   ("olonal",
    "2nyo 17 4 1"),
   ("oldhungarian",
    "1h1c 1f d 1f 7 6"),
   ("olditalic",
    "1f5s 10 9 3"),
   ("oldnortharabian",
    "1gn4 w"),
   ("oldpermic",
    "1f80 17"),
   ("oldpersian",
    "1fa8 10 4 e"),
   ("oldsogdian",
    "1hj4 14"),
   ("oldsoutharabian",
    "1gm8 w"),
   ("oldturkic",
    "1gxs 21"),
   ("olduyghur",
    "1hm8 q"),
   ("oriya",
    "269 3 1 8 2 2 2 m 1 7 1 2 1 5 2 9 2 2 2 3 7 3 4 2 1 5 2 i"),
   ("osage",
    "1fhs 10 4 10"),
   ("osmanya",
    "1fgg u 2 a"),
   ("pahawhhmong",
    "1zpc 1y a a 1 7 1 l 5 j"),
   ("palmyrene",
    "1g80 w"),
   ("paucinhau",
    "1juo 1l"),
   ("phagspa",
    "x8g 1k"),
   ("phoenician",
    "1gcg s 3 1"),
   ("psalterpahlavi",
    "1gu8 i 7 4 c 7"),
   ("rejang",
    "xf4 10 b 1"),
   ("runic",
    "4gw 23 3 b"),
   ("samaritan",
    "1kw 1a 2 f"),
   ("saurashtra",
    "xa8 1y 8 c"),
   ("sharada",
    "1i0w 2o 1vk 8"),
   ("shavian",
    "1ff4 1c"),
   ("siddham",
    "1itc 1i 2 12"),
   ("signwriting",
    "2l8g i4 f 5 1 f"),
   ("sinhala",
    "2o1 3 1 i 3 o 1 9 1 1 2 7 3 1 4 6 1 1 1 8 6 a 2 3 1fcc k"),
   ("sogdian",
    "1hkg 16"),
   ("sorasompeng",
    "1hw0 p 7 a"),
   ("soyombo",
    "1jrk 2b"),
   ("sundanese",
    "5fk 1s 74 8"),
   ("sunuwar",
    "1k1s y e a"),
   ("sylotinagri",
    "x6o 19"),
   ("syriac",
    "1ds e 1 1o 2 3 7k b"),
   ("tagalog",
    "4jk m 9 1"),
   ("tagbanwa",
    "4m8 d 1 3 1 2"),
   ("taile",
    "500 u 2 5"),
   ("taitham",
    "55s 1r 1 t 2 b 6 a 6 e"),
   ("taiviet",
    "xog 1v o 5"),
   ("takri",
    "1j0g 1m 6 a"),
   ("tamil",
    ("29u 2 1 6 3 3 1 4 3 2 1 1 1 2 3 2 3 3 3 c 4 5 3 3 1 4 2 1 6 1 e l 1ih1 1e d 1")),
   ("tangsa",
    "1zlc 27 1 a"),
   ("tangut",
    "20o0 1 v 5c0 e8 v 2p 37"),
   ("telugu",
    "2dc d 1 3 1 n 1 g 2 9 1 3 1 4 7 2 1 3 1 2 2 4 2 a 7 9"),
   ("thaana",
    "1hc 1e"),
   ("thai",
    "2rl 1m 5 s"),
   ("tibetan",
    "2yo 20 1 10 4 13 1 10 1 f 1 7 4 2"),
   ("tifinagh",
    "8xc 1k 7 2 e 1"),
   ("tirhuta",
    "1im8 20 8 a"),
   ("todhri",
    "1fpc 1g"),
   ("toto",
    "2nbk v"),
   ("tulutigalari",
    "1if4 a 1 1 2 1 1 12 1 a 1 1 2 1 1 4 1 a 1 2 8 2"),
   ("ugaritic",
    "1f9c u 1 1"),
   ("vai",
    "wlc 8c"),
   ("vithkuqi",
    "1fn4 b 1 f 1 7 1 2 1 b 1 f 1 7 1 2"),
   ("wancho",
    "2ncw 1m 5 1"),
   ("warangciti",
    "1jfk 2b c 1"),
   ("yezidi",
    "1hfk 16 1 3 2 2"),
   ("yi",
    "vls wd 3 1j"),
   ("zanabazarsquare",
    "1jpc 20")]

/-- Abbreviated names of scripts, normalised. -/
def scriptNames : List (String × String) :=
  [("adlm", "adlam"),
   ("hluw", "anatolianhieroglyphs"),
   ("arab", "arabic"),
   ("armn", "armenian"),
   ("avst", "avestan"),
   ("bali", "balinese"),
   ("bamu", "bamum"),
   ("bass", "bassavah"),
   ("batk", "batak"),
   ("beng", "bengali"),
   ("bhks", "bhaiksuki"),
   ("bopo", "bopomofo"),
   ("brah", "brahmi"),
   ("brai", "braille"),
   ("bugi", "buginese"),
   ("buhd", "buhid"),
   ("cans", "canadianaboriginal"),
   ("cari", "carian"),
   ("aghb", "caucasianalbanian"),
   ("cakm", "chakma"),
   ("cher", "cherokee"),
   ("chrs", "chorasmian"),
   ("zyyy", "common"),
   ("copt", "coptic"),
   ("qaac", "coptic"),
   ("xsux", "cuneiform"),
   ("cprt", "cypriot"),
   ("cpmn", "cyprominoan"),
   ("cyrl", "cyrillic"),
   ("dsrt", "deseret"),
   ("deva", "devanagari"),
   ("diak", "divesakuru"),
   ("dogr", "dogra"),
   ("dupl", "duployan"),
   ("egyp", "egyptianhieroglyphs"),
   ("elba", "elbasan"),
   ("elym", "elymaic"),
   ("ethi", "ethiopic"),
   ("gara", "garay"),
   ("geor", "georgian"),
   ("glag", "glagolitic"),
   ("goth", "gothic"),
   ("gran", "grantha"),
   ("grek", "greek"),
   ("gujr", "gujarati"),
   ("gong", "gunjalagondi"),
   ("guru", "gurmukhi"),
   ("gukh", "gurungkhema"),
   ("hani", "han"),
   ("hang", "hangul"),
   ("rohg", "hanifirohingya"),
   ("hano", "hanunoo"),
   ("hatr", "hatran"),
   ("hebr", "hebrew"),
   ("hira", "hiragana"),
   ("armi", "imperialaramaic"),
   ("zinh", "inherited"),
   ("qaai", "inherited"),
   ("phli", "inscriptionalpahlavi"),
   ("prti", "inscriptionalparthian"),
   ("java", "javanese"),
   ("kthi", "kaithi"),
   ("knda", "kannada"),
   ("kana", "katakana"),
   ("kali", "kayahli"),
   ("khar", "kharoshthi"),
   ("kits", "khitansmallscript"),
   ("khmr", "khmer"),
   ("khoj", "khojki"),
   ("sind", "khudawadi"),
   ("krai", "kiratrai"),
   ("laoo", "lao"),
   ("latn", "latin"),
   ("lepc", "lepcha"),
   ("limb", "limbu"),
   ("lina", "lineara"),
   ("linb", "linearb"),
   ("lyci", "lycian"),
   ("lydi", "lydian"),
   ("mahj", "mahajani"),
   ("maka", "makasar"),
   ("mlym", "malayalam"),
   ("mand", "mandaic"),
   ("mani", "manichaean"),
   ("marc", "marchen"),
   ("medf", "medefaidrin"),
   ("gonm", "masaramgondi"),
   ("mtei", "meeteimayek"),
   ("mend", "mendekikakui"),
   ("merc", "meroiticcursive"),
   ("mero", "meroitichieroglyphs"),
   ("plrd", "miao"),
   ("mong", "mongolian"),
   ("mroo", "mro"),
   ("mult", "multani"),
   ("mymr", "myanmar"),
   ("nbat", "nabataean"),
   ("nagm", "nagmundari"),
   ("nand", "nandinagari"),
   ("talu", "newtailue"),
   ("nkoo", "nko"),
   ("nshu", "nushu"),
   ("hmnp", "nyiakengpuachuehmong"),
   ("ogam", "ogham"),
   ("olck", "olchiki"),
   ("onao", "olonal"),
   ("hung", "oldhungarian"),
   ("ital", "olditalic"),
   ("narb", "oldnortharabian"),
   ("perm", "oldpermic"),
   ("xpeo", "oldpersian"),
   ("sogo", "oldsogdian"),
   ("sarb", "oldsoutharabian"),
   ("orkh", "oldturkic"),
   ("ougr", "olduyghur"),
   ("orya", "oriya"),
   ("osge", "osage"),
   ("osma", "osmanya"),
   ("hmng", "pahawhhmong"),
   ("palm", "palmyrene"),
   ("pauc", "paucinhau"),
   ("phag", "phagspa"),
   ("phnx", "phoenician"),
   ("phlp", "psalterpahlavi"),
   ("rjng", "rejang"),
   ("runr", "runic"),
   ("samr", "samaritan"),
   ("saur", "saurashtra"),
   ("shrd", "sharada"),
   ("shaw", "shavian"),
   ("sidd", "siddham"),
   ("sgnw", "signwriting"),
   ("sinh", "sinhala"),
   ("sogd", "sogdian"),
   ("sora", "sorasompeng"),
   ("soyo", "soyombo"),
   ("sund", "sundanese"),
   ("sunu", "sunuwar"),
   ("sylo", "sylotinagri"),
   ("syrc", "syriac"),
   ("tglg", "tagalog"),
   ("tagb", "tagbanwa"),
   ("tale", "taile"),
   ("lana", "taitham"),
   ("tavt", "taiviet"),
   ("takr", "takri"),
   ("taml", "tamil"),
   ("tnsa", "tangsa"),
   ("tang", "tangut"),
   ("telu", "telugu"),
   ("thaa", "thaana"),
   ("tibt", "tibetan"),
   ("tfng", "tifinagh"),
   ("tirh", "tirhuta"),
   ("todr", "todhri"),
   ("tutg", "tulutigalari"),
   ("ugar", "ugaritic"),
   ("vaii", "vai"),
   ("vith", "vithkuqi"),
   ("wcho", "wancho"),
   ("wara", "warangciti"),
   ("yezi", "yezidi"),
   ("yiii", "yi"),
   ("zanb", "zanabazarsquare")]

end Codemod.Text
