import EventCapture.Character.Table

/-! Scripts: the one to which a character belongs, and all those that use it. -/

set_option autoImplicit false

namespace EventCapture.Regex.Script

def names : List (String × String) :=
  [("Adlm", "adlm adlam"), ("Aghb", "aghb caucasianalbanian"), ("Ahom", "ahom"),
   ("Arab", "arab arabic"), ("Armi", "armi imperialaramaic"), ("Armn", "armn armenian"),
   ("Avst", "avst avestan"), ("Bali", "bali balinese"), ("Bamu", "bamu bamum"),
   ("Bass", "bass bassavah"), ("Batk", "batk batak"), ("Beng", "beng bengali"),
   ("Bhks", "bhks bhaiksuki"), ("Bopo", "bopo bopomofo"), ("Brah", "brah brahmi"),
   ("Brai", "brai braille"), ("Bugi", "bugi buginese"), ("Buhd", "buhd buhid"),
   ("Cakm", "cakm chakma"), ("Cans", "cans canadianaboriginal"), ("Cari", "cari carian"),
   ("Cham", "cham"), ("Cher", "cher cherokee"), ("Chrs", "chrs chorasmian"),
   ("Copt", "copt coptic qaac"), ("Cpmn", "cpmn cyprominoan"), ("Cprt", "cprt cypriot"),
   ("Cyrl", "cyrl cyrillic"), ("Deva", "deva devanagari"), ("Diak", "diak divesakuru"),
   ("Dogr", "dogr dogra"), ("Dsrt", "dsrt deseret"), ("Dupl", "dupl duployan"),
   ("Egyp", "egyp egyptianhieroglyphs"), ("Elba", "elba elbasan"), ("Elym", "elym elymaic"),
   ("Ethi", "ethi ethiopic"), ("Gara", "gara garay"), ("Geor", "geor georgian"),
   ("Glag", "glag glagolitic"), ("Gong", "gong gunjalagondi"), ("Gonm", "gonm masaramgondi"),
   ("Goth", "goth gothic"), ("Gran", "gran grantha"), ("Grek", "grek greek"),
   ("Gujr", "gujr gujarati"), ("Gukh", "gukh gurungkhema"), ("Guru", "guru gurmukhi"),
   ("Hang", "hang hangul"), ("Hani", "hani han"), ("Hano", "hano hanunoo"),
   ("Hatr", "hatr hatran"), ("Hebr", "hebr hebrew"), ("Hira", "hira hiragana"),
   ("Hluw", "hluw anatolianhieroglyphs"), ("Hmng", "hmng pahawhhmong"),
   ("Hmnp", "hmnp nyiakengpuachuehmong"), ("Hung", "hung oldhungarian"),
   ("Ital", "ital olditalic"), ("Java", "java javanese"), ("Kali", "kali kayahli"),
   ("Kana", "kana katakana"), ("Kawi", "kawi"), ("Khar", "khar kharoshthi"),
   ("Khmr", "khmr khmer"), ("Khoj", "khoj khojki"), ("Kits", "kits khitansmallscript"),
   ("Knda", "knda kannada"), ("Krai", "krai kiratrai"), ("Kthi", "kthi kaithi"),
   ("Lana", "lana taitham"), ("Laoo", "laoo lao"), ("Latn", "latn latin"), ("Lepc", "lepc lepcha"),
   ("Limb", "limb limbu"), ("Lina", "lina lineara"), ("Linb", "linb linearb"), ("Lisu", "lisu"),
   ("Lyci", "lyci lycian"), ("Lydi", "lydi lydian"), ("Mahj", "mahj mahajani"),
   ("Maka", "maka makasar"), ("Mand", "mand mandaic"), ("Mani", "mani manichaean"),
   ("Marc", "marc marchen"), ("Medf", "medf medefaidrin"), ("Mend", "mend mendekikakui"),
   ("Merc", "merc meroiticcursive"), ("Mero", "mero meroitichieroglyphs"),
   ("Mlym", "mlym malayalam"), ("Modi", "modi"), ("Mong", "mong mongolian"), ("Mroo", "mroo mro"),
   ("Mtei", "mtei meeteimayek"), ("Mult", "mult multani"), ("Mymr", "mymr myanmar"),
   ("Nagm", "nagm nagmundari"), ("Nand", "nand nandinagari"), ("Narb", "narb oldnortharabian"),
   ("Nbat", "nbat nabataean"), ("Newa", "newa"), ("Nkoo", "nkoo nko"), ("Nshu", "nshu nushu"),
   ("Ogam", "ogam ogham"), ("Olck", "olck olchiki"), ("Onao", "onao olonal"),
   ("Orkh", "orkh oldturkic"), ("Orya", "orya oriya"), ("Osge", "osge osage"),
   ("Osma", "osma osmanya"), ("Ougr", "ougr olduyghur"), ("Palm", "palm palmyrene"),
   ("Pauc", "pauc paucinhau"), ("Perm", "perm oldpermic"), ("Phag", "phag phagspa"),
   ("Phli", "phli inscriptionalpahlavi"), ("Phlp", "phlp psalterpahlavi"),
   ("Phnx", "phnx phoenician"), ("Plrd", "plrd miao"), ("Prti", "prti inscriptionalparthian"),
   ("Rjng", "rjng rejang"), ("Rohg", "rohg hanifirohingya"), ("Runr", "runr runic"),
   ("Samr", "samr samaritan"), ("Sarb", "sarb oldsoutharabian"), ("Saur", "saur saurashtra"),
   ("Sgnw", "sgnw signwriting"), ("Shaw", "shaw shavian"), ("Shrd", "shrd sharada"),
   ("Sidd", "sidd siddham"), ("Sind", "sind khudawadi"), ("Sinh", "sinh sinhala"),
   ("Sogd", "sogd sogdian"), ("Sogo", "sogo oldsogdian"), ("Sora", "sora sorasompeng"),
   ("Soyo", "soyo soyombo"), ("Sund", "sund sundanese"), ("Sunu", "sunu sunuwar"),
   ("Sylo", "sylo sylotinagri"), ("Syrc", "syrc syriac"), ("Tagb", "tagb tagbanwa"),
   ("Takr", "takr takri"), ("Tale", "tale taile"), ("Talu", "talu newtailue"),
   ("Taml", "taml tamil"), ("Tang", "tang tangut"), ("Tavt", "tavt taiviet"),
   ("Telu", "telu telugu"), ("Tfng", "tfng tifinagh"), ("Tglg", "tglg tagalog"),
   ("Thaa", "thaa thaana"), ("Thai", "thai"), ("Tibt", "tibt tibetan"), ("Tirh", "tirh tirhuta"),
   ("Tnsa", "tnsa tangsa"), ("Todr", "todr todhri"), ("Toto", "toto"),
   ("Tutg", "tutg tulutigalari"), ("Ugar", "ugar ugaritic"), ("Vaii", "vaii vai"),
   ("Vith", "vith vithkuqi"), ("Wara", "wara warangciti"), ("Wcho", "wcho wancho"),
   ("Xpeo", "xpeo oldpersian"), ("Xsux", "xsux cuneiform"), ("Yezi", "yezi yezidi"),
   ("Yiii", "yiii yi"), ("Zanb", "zanb zanabazarsquare"), ("Zinh", "zinh inherited qaai"),
   ("Zyyy", "zyyy common")]

def scripts : List Run :=
  Run.table
  ["65Zyyy26Latn6Zyyy26Latn47Zyyy1Latn15Zyyy1Latn5Zyyy23Latn1Zyyy31Latn1Zyyy449Latn39Zyyy5Latn",
   "5Zyyy2Bopo20Zyyy112Zinh4Grek1Zyyy3Grek2Zzzz4Grek1Zyyy1Grek4Zzzz1Grek1Zyyy1Grek1Zyyy3Grek1Zzzz",
   "1Grek1Zzzz20Grek1Zzzz63Grek14Copt16Grek133Cyrl2Zinh169Cyrl1Zzzz38Armn2Zzzz50Armn2Zzzz3Armn",
   "1Zzzz55Hebr8Zzzz27Hebr4Zzzz6Hebr11Zzzz5Arab1Zyyy6Arab1Zyyy14Arab1Zyyy3Arab1Zyyy32Arab1Zyyy",
   "10Arab11Zinh26Arab1Zinh108Arab1Zyyy34Arab14Syrc1Zzzz60Syrc2Zzzz3Syrc48Arab50Thaa14Zzzz59Nkoo",
   "2Zzzz3Nkoo46Samr2Zzzz15Samr1Zzzz28Mand2Zzzz1Mand1Zzzz11Syrc5Zzzz31Arab1Zzzz2Arab5Zzzz75Arab",
   "1Zyyy29Arab81Deva4Zinh15Deva2Zyyy26Deva4Beng1Zzzz8Beng2Zzzz2Beng2Zzzz22Beng1Zzzz7Beng1Zzzz",
   "1Beng3Zzzz4Beng2Zzzz9Beng2Zzzz2Beng2Zzzz4Beng8Zzzz1Beng4Zzzz2Beng1Zzzz5Beng2Zzzz25Beng2Zzzz",
   "3Guru1Zzzz6Guru4Zzzz2Guru2Zzzz22Guru1Zzzz7Guru1Zzzz2Guru1Zzzz2Guru1Zzzz2Guru2Zzzz1Guru1Zzzz",
   "5Guru4Zzzz2Guru2Zzzz3Guru3Zzzz1Guru7Zzzz4Guru1Zzzz1Guru7Zzzz17Guru10Zzzz3Gujr1Zzzz9Gujr1Zzzz",
   "3Gujr1Zzzz22Gujr1Zzzz7Gujr1Zzzz2Gujr1Zzzz5Gujr2Zzzz10Gujr1Zzzz3Gujr1Zzzz3Gujr2Zzzz1Gujr15Zzzz",
   "4Gujr2Zzzz12Gujr7Zzzz7Gujr1Zzzz3Orya1Zzzz8Orya2Zzzz2Orya2Zzzz22Orya1Zzzz7Orya1Zzzz2Orya1Zzzz",
   "5Orya2Zzzz9Orya2Zzzz2Orya2Zzzz3Orya7Zzzz3Orya4Zzzz2Orya1Zzzz5Orya2Zzzz18Orya10Zzzz2Taml1Zzzz",
   "6Taml3Zzzz3Taml1Zzzz4Taml3Zzzz2Taml1Zzzz1Taml1Zzzz2Taml3Zzzz2Taml3Zzzz3Taml3Zzzz12Taml4Zzzz",
   "5Taml3Zzzz3Taml1Zzzz4Taml2Zzzz1Taml6Zzzz1Taml14Zzzz21Taml5Zzzz13Telu1Zzzz3Telu1Zzzz23Telu1Zzzz",
   "16Telu2Zzzz9Telu1Zzzz3Telu1Zzzz4Telu7Zzzz2Telu1Zzzz3Telu2Zzzz1Telu2Zzzz4Telu2Zzzz10Telu7Zzzz",
   "9Telu13Knda1Zzzz3Knda1Zzzz23Knda1Zzzz10Knda1Zzzz5Knda2Zzzz9Knda1Zzzz3Knda1Zzzz4Knda7Zzzz2Knda",
   "6Zzzz2Knda1Zzzz4Knda2Zzzz10Knda1Zzzz3Knda12Zzzz13Mlym1Zzzz3Mlym1Zzzz51Mlym1Zzzz3Mlym1Zzzz6Mlym",
   "4Zzzz16Mlym2Zzzz26Mlym1Zzzz3Sinh1Zzzz18Sinh3Zzzz24Sinh1Zzzz9Sinh1Zzzz1Sinh2Zzzz7Sinh3Zzzz1Sinh",
   "4Zzzz6Sinh1Zzzz1Sinh1Zzzz8Sinh6Zzzz10Sinh2Zzzz3Sinh12Zzzz58Thai4Zzzz1Zyyy28Thai37Zzzz2Laoo",
   "1Zzzz1Laoo1Zzzz5Laoo1Zzzz24Laoo1Zzzz1Laoo1Zzzz23Laoo2Zzzz5Laoo1Zzzz1Laoo1Zzzz7Laoo1Zzzz10Laoo",
   "2Zzzz4Laoo32Zzzz72Tibt1Zzzz36Tibt4Zzzz39Tibt1Zzzz36Tibt1Zzzz15Tibt1Zzzz7Tibt4Zyyy2Tibt37Zzzz",
   "160Mymr38Geor1Zzzz1Geor5Zzzz1Geor2Zzzz43Geor1Zyyy4Geor256Hang73Ethi1Zzzz4Ethi2Zzzz7Ethi1Zzzz",
   "1Ethi1Zzzz4Ethi2Zzzz41Ethi1Zzzz4Ethi2Zzzz33Ethi1Zzzz4Ethi2Zzzz7Ethi1Zzzz1Ethi1Zzzz4Ethi2Zzzz",
   "15Ethi1Zzzz57Ethi1Zzzz4Ethi2Zzzz67Ethi2Zzzz32Ethi3Zzzz26Ethi6Zzzz86Cher2Zzzz6Cher2Zzzz640Cans",
   "29Ogam3Zzzz75Runr3Zyyy11Runr7Zzzz22Tglg9Zzzz1Tglg21Hano2Zyyy9Zzzz20Buhd12Zzzz13Tagb1Zzzz3Tagb",
   "1Zzzz2Tagb12Zzzz94Khmr2Zzzz10Khmr6Zzzz10Khmr6Zzzz2Mong2Zyyy1Mong1Zyyy20Mong6Zzzz89Mong7Zzzz",
   "43Mong5Zzzz70Cans10Zzzz31Limb1Zzzz12Limb4Zzzz12Limb4Zzzz1Limb3Zzzz12Limb30Tale2Zzzz5Tale11Zzzz",
   "44Talu4Zzzz26Talu6Zzzz11Talu3Zzzz2Talu32Khmr28Bugi2Zzzz2Bugi63Lana1Zzzz29Lana2Zzzz11Lana6Zzzz",
   "10Lana6Zzzz14Lana2Zzzz31Zinh49Zzzz77Bali1Zzzz50Bali64Sund52Batk8Zzzz4Batk56Lepc3Zzzz15Lepc",
   "3Zzzz3Lepc48Olck11Cyrl5Zzzz43Geor2Zzzz3Geor8Sund8Zzzz3Zinh1Zyyy13Zinh1Zyyy7Zinh4Zyyy1Zinh6Zyyy",
   "1Zinh3Zyyy2Zinh1Zyyy5Zzzz38Latn5Grek1Cyrl49Latn5Grek4Latn5Grek13Latn1Cyrl70Latn1Grek64Zinh",
   "256Latn22Grek2Zzzz6Grek2Zzzz38Grek2Zzzz6Grek2Zzzz8Grek1Zzzz1Grek1Zzzz1Grek1Zzzz1Grek1Zzzz",
   "31Grek2Zzzz53Grek1Zzzz15Grek1Zzzz14Grek2Zzzz6Grek1Zzzz19Grek2Zzzz3Grek1Zzzz9Grek1Zzzz12Zyyy",
   "2Zinh87Zyyy1Zzzz11Zyyy1Latn2Zzzz11Zyyy1Latn15Zyyy1Zzzz13Latn3Zzzz33Zyyy15Zzzz33Zinh15Zzzz",
   "38Zyyy1Grek3Zyyy2Latn6Zyyy1Latn27Zyyy1Latn17Zyyy41Latn3Zyyy4Zzzz666Zyyy22Zzzz11Zyyy21Zzzz",
   "928Zyyy256Brai628Zyyy2Zzzz32Zyyy1Zzzz105Zyyy96Glag32Latn116Copt5Zzzz7Copt38Geor1Zzzz1Geor5Zzzz",
   "1Geor2Zzzz56Tfng7Zzzz2Tfng14Zzzz1Tfng23Ethi9Zzzz7Ethi1Zzzz7Ethi1Zzzz7Ethi1Zzzz7Ethi1Zzzz7Ethi",
   "1Zzzz7Ethi1Zzzz7Ethi1Zzzz7Ethi1Zzzz32Cyrl94Zyyy34Zzzz26Hani1Zzzz89Hani12Zzzz214Hani26Zzzz",
   "21Zyyy1Hani1Zyyy1Hani25Zyyy9Hani4Zinh2Hang8Zyyy4Hani4Zyyy1Zzzz86Hira2Zzzz2Zinh2Zyyy3Hira1Zyyy",
   "90Kana2Zyyy3Kana5Zzzz43Bopo1Zzzz94Hang1Zzzz16Zyyy32Bopo38Zyyy9Zzzz1Zyyy16Kana31Hang1Zzzz64Zyyy",
   "31Hang81Zyyy47Kana1Zyyy88Kana168Zyyy6592Hani64Zyyy20992Hani1165Yiii3Zzzz55Yiii9Zzzz48Lisu",
   "300Vaii20Zzzz96Cyrl88Bamu8Zzzz34Zyyy102Latn3Zyyy67Latn2Zzzz2Latn1Zzzz1Latn1Zzzz8Latn21Zzzz",
   "14Latn45Sylo3Zzzz10Zyyy6Zzzz56Phag8Zzzz70Saur8Zzzz12Saur6Zzzz32Deva46Kali1Zyyy1Kali36Rjng",
   "11Zzzz1Rjng29Hang3Zzzz78Java1Zzzz1Zyyy10Java4Zzzz2Java31Mymr1Zzzz55Cham9Zzzz14Cham2Zzzz10Cham",
   "2Zzzz4Cham32Mymr67Tavt24Zzzz5Tavt23Mtei10Zzzz6Ethi2Zzzz6Ethi2Zzzz6Ethi9Zzzz7Ethi1Zzzz7Ethi",
   "1Zzzz43Latn1Zyyy9Latn1Grek4Latn2Zyyy4Zzzz80Cher46Mtei2Zzzz10Mtei6Zzzz11172Hang12Zzzz23Hang",
   "4Zzzz49Hang8452Zzzz366Hani2Zzzz106Hani38Zzzz7Latn12Zzzz5Armn5Zzzz26Hebr1Zzzz5Hebr1Zzzz1Hebr",
   "1Zzzz2Hebr1Zzzz2Hebr1Zzzz10Hebr115Arab16Zzzz363Arab2Zyyy80Arab2Zzzz54Arab7Zzzz1Arab32Zzzz",
   "16Arab16Zinh10Zyyy6Zzzz14Zinh2Cyrl35Zyyy1Zzzz19Zyyy1Zzzz4Zyyy4Zzzz5Arab1Zzzz135Arab2Zzzz1Zyyy",
   "1Zzzz32Zyyy26Latn6Zyyy26Latn11Zyyy10Kana1Zyyy45Kana2Zyyy31Hang3Zzzz6Hang2Zzzz6Hang2Zzzz6Hang",
   "2Zzzz3Hang3Zzzz7Zyyy1Zzzz7Zyyy10Zzzz5Zyyy2Zzzz12Linb1Zzzz26Linb1Zzzz19Linb1Zzzz2Linb1Zzzz",
   "15Linb2Zzzz14Linb34Zzzz123Linb5Zzzz3Zyyy4Zzzz45Zyyy3Zzzz9Zyyy79Grek1Zzzz13Zyyy3Zzzz1Grek47Zzzz",
   "45Zyyy1Zinh130Zzzz29Lyci3Zzzz49Cari15Zzzz1Zinh27Zyyy4Zzzz36Ital9Zzzz3Ital27Goth5Zzzz43Perm",
   "5Zzzz30Ugar1Zzzz1Ugar36Xpeo4Zzzz14Xpeo42Zzzz80Dsrt48Shaw30Osma2Zzzz10Osma6Zzzz36Osge4Zzzz",
   "36Osge4Zzzz40Elba8Zzzz52Aghb11Zzzz1Aghb11Vith1Zzzz15Vith1Zzzz7Vith1Zzzz2Vith1Zzzz11Vith1Zzzz",
   "15Vith1Zzzz7Vith1Zzzz2Vith3Zzzz52Todr12Zzzz311Lina9Zzzz22Lina10Zzzz8Lina24Zzzz6Latn1Zzzz42Latn",
   "1Zzzz9Latn69Zzzz6Cprt2Zzzz1Cprt1Zzzz44Cprt1Zzzz2Cprt3Zzzz1Cprt2Zzzz1Cprt22Armi1Zzzz9Armi32Palm",
   "31Nbat8Zzzz9Nbat48Zzzz19Hatr1Zzzz2Hatr5Zzzz5Hatr28Phnx3Zzzz1Phnx26Lydi5Zzzz1Lydi64Zzzz32Mero",
   "24Merc4Zzzz20Merc2Zzzz46Merc4Khar1Zzzz2Khar5Zzzz8Khar1Zzzz3Khar1Zzzz29Khar2Zzzz3Khar4Zzzz",
   "10Khar7Zzzz9Khar7Zzzz32Sarb32Narb32Zzzz39Mani4Zzzz12Mani9Zzzz54Avst3Zzzz7Avst22Prti2Zzzz8Prti",
   "19Phli5Zzzz8Phli18Phlp7Zzzz4Phlp12Zzzz7Phlp80Zzzz73Orkh55Zzzz51Hung13Zzzz51Hung7Zzzz6Hung",
   "40Rohg8Zzzz10Rohg6Zzzz38Gara3Zzzz29Gara8Zzzz2Gara208Zzzz31Arab1Zzzz42Yezi1Zzzz3Yezi2Zzzz2Yezi",
   "16Zzzz3Arab55Zzzz4Arab40Sogo8Zzzz42Sogd22Zzzz26Ougr38Zzzz28Chrs20Zzzz23Elym9Zzzz78Brah4Zzzz",
   "36Brah9Zzzz1Brah67Kthi10Zzzz1Kthi2Zzzz25Sora7Zzzz10Sora6Zzzz53Cakm1Zzzz18Cakm8Zzzz39Mahj9Zzzz",
   "96Shrd1Zzzz20Sinh11Zzzz18Khoj1Zzzz47Khoj62Zzzz7Mult1Zzzz1Mult1Zzzz4Mult1Zzzz15Mult1Zzzz11Mult",
   "6Zzzz59Sind5Zzzz10Sind6Zzzz4Gran1Zzzz8Gran2Zzzz2Gran2Zzzz22Gran1Zzzz7Gran1Zzzz2Gran1Zzzz5Gran",
   "1Zzzz1Zinh9Gran2Zzzz2Gran2Zzzz3Gran2Zzzz1Gran6Zzzz1Gran5Zzzz7Gran2Zzzz7Gran3Zzzz5Gran11Zzzz",
   "10Tutg1Zzzz1Tutg2Zzzz1Tutg1Zzzz38Tutg1Zzzz10Tutg1Zzzz1Tutg2Zzzz1Tutg1Zzzz4Tutg1Zzzz10Tutg1Zzzz",
   "2Tutg8Zzzz2Tutg29Zzzz92Newa1Zzzz5Newa30Zzzz72Tirh8Zzzz10Tirh166Zzzz54Sidd2Zzzz38Sidd34Zzzz",
   "69Modi11Zzzz10Modi6Zzzz13Mong19Zzzz58Takr6Zzzz10Takr6Zzzz20Mymr28Zzzz27Ahom2Zzzz15Ahom4Zzzz",
   "23Ahom185Zzzz60Dogr100Zzzz83Wara12Zzzz1Wara7Diak2Zzzz1Diak2Zzzz8Diak1Zzzz2Diak1Zzzz30Diak1Zzzz",
   "2Diak2Zzzz12Diak9Zzzz10Diak70Zzzz8Nand2Zzzz46Nand2Zzzz11Nand27Zzzz72Zanb8Zzzz83Soyo13Zzzz",
   "16Cans57Pauc7Zzzz10Deva182Zzzz34Sunu14Zzzz10Sunu6Zzzz9Bhks1Zzzz45Bhks1Zzzz14Bhks10Zzzz29Bhks",
   "3Zzzz32Marc2Zzzz22Marc1Zzzz14Marc73Zzzz7Gonm1Zzzz2Gonm1Zzzz44Gonm3Zzzz1Gonm1Zzzz2Gonm1Zzzz",
   "9Gonm8Zzzz10Gonm6Zzzz6Gong1Zzzz2Gong1Zzzz37Gong1Zzzz2Gong1Zzzz6Gong7Zzzz10Gong310Zzzz25Maka",
   "7Zzzz17Kawi1Zzzz41Kawi3Zzzz29Kawi85Zzzz1Lisu15Zzzz50Taml13Zzzz1Taml922Xsux102Zzzz111Xsux1Zzzz",
   "5Xsux11Zzzz196Xsux2636Zzzz99Cpmn13Zzzz1110Egyp10Zzzz3995Egyp5Zzzz583Hluw6841Zzzz58Gukh1734Zzzz",
   "569Bamu7Zzzz31Mroo1Zzzz10Mroo4Zzzz2Mroo79Tnsa1Zzzz10Tnsa6Zzzz30Bass2Zzzz6Bass10Zzzz70Hmng",
   "10Zzzz10Hmng1Zzzz7Hmng1Zzzz21Hmng5Zzzz19Hmng432Zzzz58Krai198Zzzz91Medf101Zzzz75Plrd4Zzzz57Plrd",
   "7Zzzz17Plrd64Zzzz1Tang1Nshu2Hani1Kits11Zzzz2Hani14Zzzz6136Tang8Zzzz768Tang470Kits41Zzzz1Kits",
   "9Tang8935Zzzz4Kana1Zzzz7Kana1Zzzz2Kana1Zzzz1Kana287Hira3Kana15Zzzz1Hira29Zzzz3Hira2Zzzz1Kana",
   "14Zzzz4Kana8Zzzz396Nshu2308Zzzz107Dupl5Zzzz13Dupl3Zzzz9Dupl7Zzzz10Dupl2Zzzz4Dupl4Zyyy3932Zzzz",
   "250Zyyy6Zzzz436Zyyy76Zzzz46Zinh2Zzzz23Zinh9Zzzz116Zyyy60Zzzz246Zyyy10Zzzz39Zyyy2Zzzz62Zyyy",
   "3Zinh17Zyyy8Zinh2Zyyy7Zinh30Zyyy4Zinh61Zyyy21Zzzz70Grek122Zzzz20Zyyy12Zzzz20Zyyy12Zzzz87Zyyy",
   "9Zzzz25Zyyy135Zzzz85Zyyy1Zzzz71Zyyy1Zzzz2Zyyy2Zzzz1Zyyy2Zzzz2Zyyy2Zzzz4Zyyy1Zzzz12Zyyy1Zzzz",
   "1Zyyy1Zzzz7Zyyy1Zzzz65Zyyy1Zzzz4Zyyy2Zzzz8Zyyy1Zzzz7Zyyy1Zzzz28Zyyy1Zzzz4Zyyy1Zzzz5Zyyy1Zzzz",
   "1Zyyy3Zzzz7Zyyy1Zzzz340Zyyy2Zzzz292Zyyy2Zzzz50Zyyy652Sgnw15Zzzz5Sgnw1Zzzz15Sgnw1104Zzzz31Latn",
   "6Zzzz6Latn213Zzzz7Glag1Zzzz17Glag2Zzzz7Glag1Zzzz2Glag1Zzzz5Glag5Zzzz62Cyrl33Zzzz1Cyrl112Zzzz",
   "45Hmnp3Zzzz14Hmnp2Zzzz10Hmnp4Zzzz2Hmnp320Zzzz31Toto17Zzzz58Wcho5Zzzz1Wcho464Zzzz42Nagm214Zzzz",
   "43Onao4Zzzz1Onao480Zzzz7Ethi1Zzzz4Ethi1Zzzz2Ethi1Zzzz15Ethi1Zzzz197Mend2Zzzz16Mend41Zzzz76Adlm",
   "4Zzzz10Adlm4Zzzz2Adlm785Zzzz68Zyyy76Zzzz61Zyyy194Zzzz4Arab1Zzzz27Arab1Zzzz2Arab1Zzzz1Arab2Zzzz",
   "1Arab1Zzzz10Arab1Zzzz4Arab1Zzzz1Arab1Zzzz1Arab6Zzzz1Arab4Zzzz1Arab1Zzzz1Arab1Zzzz1Arab1Zzzz",
   "3Arab1Zzzz2Arab1Zzzz1Arab2Zzzz1Arab1Zzzz1Arab1Zzzz1Arab1Zzzz1Arab1Zzzz1Arab1Zzzz2Arab1Zzzz",
   "1Arab2Zzzz4Arab1Zzzz7Arab1Zzzz4Arab1Zzzz4Arab1Zzzz1Arab1Zzzz10Arab1Zzzz17Arab5Zzzz3Arab1Zzzz",
   "5Arab1Zzzz17Arab52Zzzz2Arab270Zzzz44Zyyy4Zzzz100Zyyy12Zzzz15Zyyy2Zzzz15Zyyy1Zzzz15Zyyy1Zzzz",
   "37Zyyy10Zzzz174Zyyy56Zzzz26Zyyy1Hira2Zyyy13Zzzz44Zyyy4Zzzz9Zyyy7Zzzz2Zyyy14Zzzz6Zyyy154Zzzz",
   "984Zyyy4Zzzz17Zyyy3Zzzz13Zyyy3Zzzz119Zyyy4Zzzz95Zyyy6Zzzz12Zyyy4Zzzz1Zyyy15Zzzz12Zyyy4Zzzz",
   "56Zyyy8Zzzz10Zyyy6Zzzz40Zyyy8Zzzz30Zyyy2Zzzz12Zyyy4Zzzz2Zyyy62Zzzz340Zyyy12Zzzz14Zyyy2Zzzz",
   "13Zyyy3Zzzz10Zyyy5Zzzz56Zyyy7Zzzz15Zyyy2Zzzz11Zyyy6Zzzz9Zyyy7Zzzz147Zyyy1Zzzz102Zyyy1030Zzzz",
   "42720Hani32Zzzz4154Hani6Zzzz222Hani2Zzzz5762Hani14Zzzz7473Hani15Zzzz622Hani2466Zzzz542Hani",
   "1506Zzzz4939Hani5Zzzz4192Hani711761Zzzz1Zyyy30Zzzz96Zyyy128Zzzz240Zinh196112Zzzz"]

/-- The scripts that use a character, where they are not just the one to which it belongs. -/
def shared : List Run :=
  Run.table
  ["183.1Avst+Cari+Copt+Dupl+Elba+Geor+Glag+Gong+Goth+Grek+Hani+Latn+Lydi+Mahj+Perm+Shaw516.",
   "1Beng+Cyrl+Deva+Latn+Lisu+Thai+Toto10.1Bopo+Latn1.3Bopo+Latn1.1Latn+Lisu9.1Latn+Thai1.",
   "1Bopo+Latn38.1Cher+Copt+Cyrl+Grek+Latn+Perm+Sunu+Tale1Cher+Cyrl+Grek+Latn+Osge+Sunu+Tale+Todr",
   "1Cher+Cyrl+Latn+Tfng1Glag+Latn+Sunu+Syrc+Thai",
   "1Aghb+Cher+Copt+Cyrl+Goth+Grek+Latn+Osge+Syrc+Tfng+Todr1Copt+Elba+Glag+Goth+Kana+Latn",
   "1Cyrl+Grek+Latn+Perm1Copt+Dupl+Hebr+Latn+Perm+Syrc+Tale+Tfng+Todr",
   "1Armn+Cyrl+Dupl+Goth+Grek+Hebr+Latn+Perm+Syrc+Tale1Latn+Tfng1Dupl+Latn+Syrc",
   "1Cher+Cyrl+Latn+Osge1Cher+Latn+Tale1Latn+Sunu1Ethi+Latn1.1Latn+Sunu1Cyrl+Latn+Todr1.",
   "1Grek+Latn+Perm+Todr12.1Latn+Syrc2.1Cher+Dupl+Kana+Latn+Syrc1Cher+Dupl+Latn+Syrc1Latn+Syrc7.",
   "1Latn+Sunu+Syrc1Latn+Syrc1.1Cher+Latn+Syrc1Aghb+Cher+Goth+Latn+Sunu+Thai16.1Grek2.1Grek18.",
   "1Latn+Osge5.1Aghb+Latn+Todr4.13Latn4.2Copt+Grek269.1Cyrl+Perm1Cyrl+Glag2Cyrl+Latn1Cyrl+Glag",
   "257.1Armn+Geor+Glag130.1Arab+Gara+Nkoo+Rohg+Syrc+Thaa+Yezi14.",
   "1Arab+Gara+Nkoo+Rohg+Syrc+Thaa+Yezi1Arab+Syrc+Thaa2.1Adlm+Arab+Gara+Nkoo+Rohg+Syrc+Thaa+Yezi",
   "32.1Adlm+Arab+Mand+Mani+Ougr+Phlp+Rohg+Sogd+Syrc10.11Arab+Syrc10.10Arab+Thaa+Yezi6.1Arab+Syrc",
   "99.1Arab+Rohg636.1Beng+Deva+Gran+Gujr+Guru+Knda+Latn+Mlym+Orya+Shrd+Taml+Telu+Tirh",
   "1Beng+Deva+Gran+Gujr+Guru+Knda+Latn+Mlym+Orya+Taml+Telu+Tirh17.",
   "1Beng+Deva+Dogr+Gong+Gonm+Gran+Gujr+Guru+Knda+Mahj+Mlym+Nand+Onao+Orya+Sind+Sinh+Sylo+Takr+Taml+Telu+Tirh",
   "1Beng+Deva+Dogr+Gong+Gonm+Gran+Gujr+Gukh+Guru+Knda+Limb+Mahj+Mlym+Nand+Onao+Orya+Sind+Sinh+Sylo+Takr+Taml+Telu+Tirh",
   "10Deva+Dogr+Kthi+Mahj118.10Beng+Cakm+Sylo118.10Guru+Mult118.10Gujr+Khoj246.14Gran+Taml242.",
   "10Knda+Nand+Tutg848.10Cakm+Mymr+Tale177.1Geor+Glag+Latn1519.3Runr71.2Buhd+Hano+Tagb+Tglg203.",
   "2Mong+Phag1.1Mong+Phag1226.1Beng+Deva+Gran+Knda1Deva1Beng+Deva+Gran+Knda1Deva+Gran+Knda1Deva",
   "2Beng+Deva1Deva+Shrd1Beng+Deva1Deva+Shrd1Deva+Knda+Mlym+Orya+Taml+Telu1Deva2Deva+Shrd2Deva",
   "1Deva+Shrd1Beng+Deva7Deva1Deva+Nand1Beng+Deva2Deva1Beng+Deva4Deva",
   "1Beng+Deva+Gran+Knda+Mlym+Nand+Orya+Sinh+Telu+Tirh+Tutg1Deva+Gran1Deva+Gran+Knda+Tutg",
   "2Beng+Deva1Beng2Deva+Gran1Nand197.2Grek54.1Cyrl+Latn+Syrc1.1Syrc564.1Latn+Mong+Phag31.",
   "1Adlm+Arab10.1Cari+Geor+Glag+Hung+Lyci+Orkh2.1Cari+Grek+Hung+Mero146.1Deva+Gran+Latn3366.",
   "1Copt+Latn24.1Avst+Orkh1Avst+Cari+Geor+Hung+Kthi+Lydi+Samr10.1Dupl4.1Adlm+Arab+Hung1.",
   "1Cyrl+Glag428.16Hani+Tang1.1Bopo+Hang+Hani+Hira+Kana+Mong+Yiii",
   "1Bopo+Hang+Hani+Hira+Kana+Mong+Phag+Yiii1Bopo+Hang+Hani+Hira+Kana2.1Hani1.",
   "2Bopo+Hang+Hani+Hira+Kana+Mong+Tibt+Yiii2Bopo+Hang+Hani+Hira+Kana+Lisu+Mong+Tibt+Yiii",
   "6Bopo+Hang+Hani+Hira+Kana+Yiii1.1Bopo+Hang+Hani+Hira+Kana8Bopo+Hang+Hani+Hira+Kana+Yiii",
   "4Bopo+Hang+Hani+Hira+Kana10.4Bopo+Hani2.1Bopo+Hang+Hani+Hira+Kana5Hira+Kana1.",
   "1Bopo+Hang+Hani+Hira+Kana4.2Hani+Hira+Kana2Hani89.4Hira+Kana3.1Hira+Kana90.",
   "1Bopo+Hang+Hani+Hira+Kana+Yiii1Hira+Kana147.16Hani32.38Hani9.1Hani+Tang48.40Hani56.49Hani15.",
   "12Hani51.1Hani88.25Hani10.5Hani96.31Hani29296.1Cyrl+Glag144.8Hani+Latn296.",
   "3Deva+Dogr+Gujr+Guru+Khoj+Knda+Kthi+Mahj+Mlym+Modi+Nand+Shrd+Sind+Takr+Tirh+Tutg",
   "3Deva+Dogr+Gujr+Guru+Khoj+Knda+Kthi+Mahj+Modi+Nand+Shrd+Sind+Takr+Tirh+Tutg",
   "2Deva+Dogr+Gujr+Guru+Khoj+Kthi+Mahj+Modi+Sind+Takr+Tirh",
   "1Deva+Dogr+Gujr+Guru+Khoj+Kthi+Mahj+Modi+Shrd+Sind+Takr+Tirh",
   "1Deva+Dogr+Gujr+Guru+Khoj+Kthi+Mahj+Modi+Sind+Takr+Tirh183.1Beng+Deva+Tutg1.1Deva+Taml58.",
   "1Kali+Latn+Mymr160.1Bugi+Java21358.2Arab+Nkoo178.1Arab+Thaa10.1Arab+Thaa71.",
   "2Bopo+Hang+Hani+Hira+Kana282.5Bopo+Hang+Hani+Hira+Kana+Yiii10.1Hira+Kana45.2Hira+Kana352.",
   "2Cpmn+Cprt+Linb1Cprt+Linb4.45Cprt+Lina+Linb3.9Cprt+Linb416.28Arab+Copt2038.1Mani+Ougr2062.",
   "1Gran+Taml1.1Gran+Taml55.2Gran+Taml3219.2Gran+Taml1.1Gran+Taml40140.4Dupl5820.18Hani7902.2Hani",
   "986542."]

def codeOf? (name : String) : Option String :=
  (names.find? fun entry => (Text.pieces ' ' entry.2.toList).contains name.toList).map (·.1)

def belonging (code : String) : CharSet :=
  Run.withValue (· == code) scripts

/-- The characters that a script uses. -/
def usedBy (code : String) : CharSet :=
  let others := Run.withValue (· != ".") shared
  let user (value : String) : Bool := (Text.pieces '+' value.toList).contains code.toList
  ((belonging code).diff others).union (Run.withValue user shared)

end EventCapture.Regex.Script
