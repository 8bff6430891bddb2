import DocumentGateway.Text.RunTable

/-!
# Scripts

Most characters belong to one script; others are common to several scripts or inherit
the script of the character before them. A script has a code of four letters and goes by
that code and by other names. The names are written in lower case without anything
between their words.
-/
namespace DocumentGateway.Text

/-- The scripts of all code points that have one. -/
def scriptRuns : List String :=
  ["Zyyy65 Latn26 Zyyy6 Latn26 Zyyy47 Latn1 Zyyy15 Latn1 Zyyy5 Latn23 Zyyy1 Latn31 Zyyy1 Latn449",
   "Zyyy39 Latn5 Zyyy5 Bopo2 Zyyy20 Zinh112 Grek4 Zyyy1 Grek3 2 Grek4 Zyyy1 Grek1 4 Grek1 Zyyy1",
   "Grek1 Zyyy1 Grek3 1 Grek1 1 Grek20 1 Grek63 Copt14 Grek16 Cyrl133 Zinh2 Cyrl169 1 Armn38 2",
   "Armn50 2 Armn3 1 Hebr55 8 Hebr27 4 Hebr6 11 Arab5 Zyyy1 Arab6 Zyyy1 Arab14 Zyyy1 Arab3 Zyyy1",
   "Arab32 Zyyy1 Arab10 Zinh11 Arab26 Zinh1 Arab108 Zyyy1 Arab34 Syrc14 1 Syrc60 2 Syrc3 Arab48",
   "Thaa50 14 Nkoo59 2 Nkoo3 Samr46 2 Samr15 1 Mand28 2 Mand1 1 Syrc11 5 Arab31 1 Arab2 5 Arab75",
   "Zyyy1 Arab29 Deva81 Zinh4 Deva15 Zyyy2 Deva26 Beng4 1 Beng8 2 Beng2 2 Beng22 1 Beng7 1 Beng1",
   "3 Beng4 2 Beng9 2 Beng2 2 Beng4 8 Beng1 4 Beng2 1 Beng5 2 Beng25 2 Guru3 1 Guru6 4 Guru2 2",
   "Guru22 1 Guru7 1 Guru2 1 Guru2 1 Guru2 2 Guru1 1 Guru5 4 Guru2 2 Guru3 3 Guru1 7 Guru4 1",
   "Guru1 7 Guru17 10 Gujr3 1 Gujr9 1 Gujr3 1 Gujr22 1 Gujr7 1 Gujr2 1 Gujr5 2 Gujr10 1 Gujr3 1",
   "Gujr3 2 Gujr1 15 Gujr4 2 Gujr12 7 Gujr7 1 Orya3 1 Orya8 2 Orya2 2 Orya22 1 Orya7 1 Orya2 1",
   "Orya5 2 Orya9 2 Orya2 2 Orya3 7 Orya3 4 Orya2 1 Orya5 2 Orya18 10 Taml2 1 Taml6 3 Taml3 1",
   "Taml4 3 Taml2 1 Taml1 1 Taml2 3 Taml2 3 Taml3 3 Taml12 4 Taml5 3 Taml3 1 Taml4 2 Taml1 6",
   "Taml1 14 Taml21 5 Telu13 1 Telu3 1 Telu23 1 Telu16 2 Telu9 1 Telu3 1 Telu4 7 Telu2 1 Telu3 2",
   "Telu1 2 Telu4 2 Telu10 7 Telu9 Knda13 1 Knda3 1 Knda23 1 Knda10 1 Knda5 2 Knda9 1 Knda3 1",
   "Knda4 7 Knda2 6 Knda2 1 Knda4 2 Knda10 1 Knda3 12 Mlym13 1 Mlym3 1 Mlym51 1 Mlym3 1 Mlym6 4",
   "Mlym16 2 Mlym26 1 Sinh3 1 Sinh18 3 Sinh24 1 Sinh9 1 Sinh1 2 Sinh7 3 Sinh1 4 Sinh6 1 Sinh1 1",
   "Sinh8 6 Sinh10 2 Sinh3 12 Thai58 4 Zyyy1 Thai28 37 Laoo2 1 Laoo1 1 Laoo5 1 Laoo24 1 Laoo1 1",
   "Laoo23 2 Laoo5 1 Laoo1 1 Laoo7 1 Laoo10 2 Laoo4 32 Tibt72 1 Tibt36 4 Tibt39 1 Tibt36 1 Tibt15",
   "1 Tibt7 Zyyy4 Tibt2 37 Mymr160 Geor38 1 Geor1 5 Geor1 2 Geor43 Zyyy1 Geor4 Hang256 Ethi73 1",
   "Ethi4 2 Ethi7 1 Ethi1 1 Ethi4 2 Ethi41 1 Ethi4 2 Ethi33 1 Ethi4 2 Ethi7 1 Ethi1 1 Ethi4 2",
   "Ethi15 1 Ethi57 1 Ethi4 2 Ethi67 2 Ethi32 3 Ethi26 6 Cher86 2 Cher6 2 Cans640 Ogam29 3 Runr75",
   "Zyyy3 Runr11 7 Tglg22 9 Tglg1 Hano21 Zyyy2 9 Buhd20 12 Tagb13 1 Tagb3 1 Tagb2 12 Khmr94 2",
   "Khmr10 6 Khmr10 6 Mong2 Zyyy2 Mong1 Zyyy1 Mong20 6 Mong89 7 Mong43 5 Cans70 10 Limb31 1",
   "Limb12 4 Limb12 4 Limb1 3 Limb12 Tale30 2 Tale5 11 Talu44 4 Talu26 6 Talu11 3 Talu2 Khmr32",
   "Bugi28 2 Bugi2 Lana63 1 Lana29 2 Lana11 6 Lana10 6 Lana14 2 Zinh31 49 Bali77 1 Bali50 Sund64",
   "Batk52 8 Batk4 Lepc56 3 Lepc15 3 Lepc3 Olck48 Cyrl11 5 Geor43 2 Geor3 Sund8 8 Zinh3 Zyyy1",
   "Zinh13 Zyyy1 Zinh7 Zyyy4 Zinh1 Zyyy6 Zinh1 Zyyy3 Zinh2 Zyyy1 5 Latn38 Grek5 Cyrl1 Latn49",
   "Grek5 Latn4 Grek5 Latn13 Cyrl1 Latn70 Grek1 Zinh64 Latn256 Grek22 2 Grek6 2 Grek38 2 Grek6 2",
   "Grek8 1 Grek1 1 Grek1 1 Grek1 1 Grek31 2 Grek53 1 Grek15 1 Grek14 2 Grek6 1 Grek19 2 Grek3 1",
   "Grek9 1 Zyyy12 Zinh2 Zyyy87 1 Zyyy11 Latn1 2 Zyyy11 Latn1 Zyyy15 1 Latn13 3 Zyyy33 15 Zinh33",
   "15 Zyyy38 Grek1 Zyyy3 Latn2 Zyyy6 Latn1 Zyyy27 Latn1 Zyyy17 Latn41 Zyyy3 4 Zyyy666 22 Zyyy11",
   "21 Zyyy928 Brai256 Zyyy628 2 Zyyy32 1 Zyyy105 Glag96 Latn32 Copt116 5 Copt7 Geor38 1 Geor1 5",
   "Geor1 2 Tfng56 7 Tfng2 14 Tfng1 Ethi23 9 Ethi7 1 Ethi7 1 Ethi7 1 Ethi7 1 Ethi7 1 Ethi7 1",
   "Ethi7 1 Ethi7 1 Cyrl32 Zyyy94 34 Hani26 1 Hani89 12 Hani214 26 Zyyy21 Hani1 Zyyy1 Hani1",
   "Zyyy25 Hani9 Zinh4 Hang2 Zyyy8 Hani4 Zyyy4 1 Hira86 2 Zinh2 Zyyy2 Hira3 Zyyy1 Kana90 Zyyy2",
   "Kana3 5 Bopo43 1 Hang94 1 Zyyy16 Bopo32 Zyyy38 9 Zyyy1 Kana16 Hang31 1 Zyyy64 Hang31 Zyyy81",
   "Kana47 Zyyy1 Kana88 Zyyy168 Hani6592 Zyyy64 Hani20992 Yiii1165 3 Yiii55 9 Lisu48 Vaii300 20",
   "Cyrl96 Bamu88 8 Zyyy34 Latn102 Zyyy3 Latn67 2 Latn2 1 Latn1 1 Latn8 21 Latn14 Sylo45 3 Zyyy10",
   "6 Phag56 8 Saur70 8 Saur12 6 Deva32 Kali46 Zyyy1 Kali1 Rjng36 11 Rjng1 Hang29 3 Java78 1",
   "Zyyy1 Java10 4 Java2 Mymr31 1 Cham55 9 Cham14 2 Cham10 2 Cham4 Mymr32 Tavt67 24 Tavt5 Mtei23",
   "10 Ethi6 2 Ethi6 2 Ethi6 9 Ethi7 1 Ethi7 1 Latn43 Zyyy1 Latn9 Grek1 Latn4 Zyyy2 4 Cher80",
   "Mtei46 2 Mtei10 6 Hang11172 12 Hang23 4 Hang49 8452 Hani366 2 Hani106 38 Latn7 12 Armn5 5",
   "Hebr26 1 Hebr5 1 Hebr1 1 Hebr2 1 Hebr2 1 Hebr10 Arab115 16 Arab363 Zyyy2 Arab80 2 Arab54 7",
   "Arab1 32 Arab16 Zinh16 Zyyy10 6 Zinh14 Cyrl2 Zyyy35 1 Zyyy19 1 Zyyy4 4 Arab5 1 Arab135 2",
   "Zyyy1 1 Zyyy32 Latn26 Zyyy6 Latn26 Zyyy11 Kana10 Zyyy1 Kana45 Zyyy2 Hang31 3 Hang6 2 Hang6 2",
   "Hang6 2 Hang3 3 Zyyy7 1 Zyyy7 10 Zyyy5 2 Linb12 1 Linb26 1 Linb19 1 Linb2 1 Linb15 2 Linb14",
   "34 Linb123 5 Zyyy3 4 Zyyy45 3 Zyyy9 Grek79 1 Zyyy13 3 Grek1 47 Zyyy45 Zinh1 130 Lyci29 3",
   "Cari49 15 Zinh1 Zyyy27 4 Ital36 9 Ital3 Goth27 5 Perm43 5 Ugar30 1 Ugar1 Xpeo36 4 Xpeo14 42",
   "Dsrt80 Shaw48 Osma30 2 Osma10 6 Osge36 4 Osge36 4 Elba40 8 Aghb52 11 Aghb1 Vith11 1 Vith15 1",
   "Vith7 1 Vith2 1 Vith11 1 Vith15 1 Vith7 1 Vith2 3 Todr52 12 Lina311 9 Lina22 10 Lina8 24",
   "Latn6 1 Latn42 1 Latn9 69 Cprt6 2 Cprt1 1 Cprt44 1 Cprt2 3 Cprt1 2 Cprt1 Armi22 1 Armi9",
   "Palm32 Nbat31 8 Nbat9 48 Hatr19 1 Hatr2 5 Hatr5 Phnx28 3 Phnx1 Lydi26 5 Lydi1 64 Mero32",
   "Merc24 4 Merc20 2 Merc46 Khar4 1 Khar2 5 Khar8 1 Khar3 1 Khar29 2 Khar3 4 Khar10 7 Khar9 7",
   "Sarb32 Narb32 32 Mani39 4 Mani12 9 Avst54 3 Avst7 Prti22 2 Prti8 Phli19 5 Phli8 Phlp18 7",
   "Phlp4 12 Phlp7 80 Orkh73 55 Hung51 13 Hung51 7 Hung6 Rohg40 8 Rohg10 6 Gara38 3 Gara29 8",
   "Gara2 208 Arab31 1 Yezi42 1 Yezi3 2 Yezi2 16 Arab3 55 Arab4 Sogo40 8 Sogd42 22 Ougr26 38",
   "Chrs28 20 Elym23 9 Brah78 4 Brah36 9 Brah1 Kthi67 10 Kthi1 2 Sora25 7 Sora10 6 Cakm53 1",
   "Cakm18 8 Mahj39 9 Shrd96 1 Sinh20 11 Khoj18 1 Khoj47 62 Mult7 1 Mult1 1 Mult4 1 Mult15 1",
   "Mult11 6 Sind59 5 Sind10 6 Gran4 1 Gran8 2 Gran2 2 Gran22 1 Gran7 1 Gran2 1 Gran5 1 Zinh1",
   "Gran9 2 Gran2 2 Gran3 2 Gran1 6 Gran1 5 Gran7 2 Gran7 3 Gran5 11 Tutg10 1 Tutg1 2 Tutg1 1",
   "Tutg38 1 Tutg10 1 Tutg1 2 Tutg1 1 Tutg4 1 Tutg10 1 Tutg2 8 Tutg2 29 Newa92 1 Newa5 30 Tirh72",
   "8 Tirh10 166 Sidd54 2 Sidd38 34 Modi69 11 Modi10 6 Mong13 19 Takr58 6 Takr10 6 Mymr20 28",
   "Ahom27 2 Ahom15 4 Ahom23 185 Dogr60 100 Wara83 12 Wara1 Diak7 2 Diak1 2 Diak8 1 Diak2 1",
   "Diak30 1 Diak2 2 Diak12 9 Diak10 70 Nand8 2 Nand46 2 Nand11 27 Zanb72 8 Soyo83 13 Cans16",
   "Pauc57 7 Deva10 182 Sunu34 14 Sunu10 6 Bhks9 1 Bhks45 1 Bhks14 10 Bhks29 3 Marc32 2 Marc22 1",
   "Marc14 73 Gonm7 1 Gonm2 1 Gonm44 3 Gonm1 1 Gonm2 1 Gonm9 8 Gonm10 6 Gong6 1 Gong2 1 Gong37 1",
   "Gong2 1 Gong6 7 Gong10 310 Maka25 7 Kawi17 1 Kawi41 3 Kawi29 85 Lisu1 15 Taml50 13 Taml1",
   "Xsux922 102 Xsux111 1 Xsux5 11 Xsux196 2636 Cpmn99 13 Egyp1110 10 Egyp3995 5 Hluw583 6841",
   "Gukh58 1734 Bamu569 7 Mroo31 1 Mroo10 4 Mroo2 Tnsa79 1 Tnsa10 6 Bass30 2 Bass6 10 Hmng70 10",
   "Hmng10 1 Hmng7 1 Hmng21 5 Hmng19 432 Krai58 198 Medf91 101 Plrd75 4 Plrd57 7 Plrd17 64 Tang1",
   "Nshu1 Hani2 Kits1 11 Hani2 14 Tang6136 8 Tang768 Kits470 41 Kits1 Tang9 8935 Kana4 1 Kana7 1",
   "Kana2 1 Kana1 Hira287 Kana3 15 Hira1 29 Hira3 2 Kana1 14 Kana4 8 Nshu396 2308 Dupl107 5",
   "Dupl13 3 Dupl9 7 Dupl10 2 Dupl4 Zyyy4 3932 Zyyy250 6 Zyyy436 76 Zinh46 2 Zinh23 9 Zyyy116 60",
   "Zyyy246 10 Zyyy39 2 Zyyy62 Zinh3 Zyyy17 Zinh8 Zyyy2 Zinh7 Zyyy30 Zinh4 Zyyy61 21 Grek70 122",
   "Zyyy20 12 Zyyy20 12 Zyyy87 9 Zyyy25 135 Zyyy85 1 Zyyy71 1 Zyyy2 2 Zyyy1 2 Zyyy2 2 Zyyy4 1",
   "Zyyy12 1 Zyyy1 1 Zyyy7 1 Zyyy65 1 Zyyy4 2 Zyyy8 1 Zyyy7 1 Zyyy28 1 Zyyy4 1 Zyyy5 1 Zyyy1 3",
   "Zyyy7 1 Zyyy340 2 Zyyy292 2 Zyyy50 Sgnw652 15 Sgnw5 1 Sgnw15 1104 Latn31 6 Latn6 213 Glag7 1",
   "Glag17 2 Glag7 1 Glag2 1 Glag5 5 Cyrl62 33 Cyrl1 112 Hmnp45 3 Hmnp14 2 Hmnp10 4 Hmnp2 320",
   "Toto31 17 Wcho58 5 Wcho1 464 Nagm42 214 Onao43 4 Onao1 480 Ethi7 1 Ethi4 1 Ethi2 1 Ethi15 1",
   "Mend197 2 Mend16 41 Adlm76 4 Adlm10 4 Adlm2 785 Zyyy68 76 Zyyy61 194 Arab4 1 Arab27 1 Arab2 1",
   "Arab1 2 Arab1 1 Arab10 1 Arab4 1 Arab1 1 Arab1 6 Arab1 4 Arab1 1 Arab1 1 Arab1 1 Arab3 1",
   "Arab2 1 Arab1 2 Arab1 1 Arab1 1 Arab1 1 Arab1 1 Arab1 1 Arab2 1 Arab1 2 Arab4 1 Arab7 1 Arab4",
   "1 Arab4 1 Arab1 1 Arab10 1 Arab17 5 Arab3 1 Arab5 1 Arab17 52 Arab2 270 Zyyy44 4 Zyyy100 12",
   "Zyyy15 2 Zyyy15 1 Zyyy15 1 Zyyy37 10 Zyyy174 56 Zyyy26 Hira1 Zyyy2 13 Zyyy44 4 Zyyy9 7 Zyyy2",
   "14 Zyyy6 154 Zyyy984 4 Zyyy17 3 Zyyy13 3 Zyyy119 4 Zyyy95 6 Zyyy12 4 Zyyy1 15 Zyyy12 4 Zyyy56",
   "8 Zyyy10 6 Zyyy40 8 Zyyy30 2 Zyyy12 4 Zyyy2 62 Zyyy340 12 Zyyy14 2 Zyyy13 3 Zyyy10 5 Zyyy56 7",
   "Zyyy15 2 Zyyy11 6 Zyyy9 7 Zyyy147 1 Zyyy102 1030 Hani42720 32 Hani4154 6 Hani222 2 Hani5762",
   "14 Hani7473 15 Hani622 2466 Hani542 1506 Hani4939 5 Hani4192 711761 Zyyy1 30 Zyyy96 128",
   "Zinh240 196112"]

/-- A script: its code and its names. -/
structure Script where
  code : String
  names : List String

/-- The scripts. -/
def scripts : List Script :=
  [⟨"Adlm", ["adlm", "adlam"]⟩, ⟨"Aghb", ["aghb", "caucasianalbanian"]⟩, ⟨"Ahom", ["ahom"]⟩,
   ⟨"Arab", ["arab", "arabic"]⟩, ⟨"Armi", ["armi", "imperialaramaic"]⟩,
   ⟨"Armn", ["armn", "armenian"]⟩, ⟨"Avst", ["avst", "avestan"]⟩,
   ⟨"Bali", ["bali", "balinese"]⟩, ⟨"Bamu", ["bamu", "bamum"]⟩, ⟨"Bass", ["bass", "bassavah"]⟩,
   ⟨"Batk", ["batk", "batak"]⟩, ⟨"Beng", ["beng", "bengali"]⟩, ⟨"Bhks", ["bhks", "bhaiksuki"]⟩,
   ⟨"Bopo", ["bopo", "bopomofo"]⟩, ⟨"Brah", ["brah", "brahmi"]⟩, ⟨"Brai", ["brai", "braille"]⟩,
   ⟨"Bugi", ["bugi", "buginese"]⟩, ⟨"Buhd", ["buhd", "buhid"]⟩, ⟨"Cakm", ["cakm", "chakma"]⟩,
   ⟨"Cans", ["cans", "canadianaboriginal"]⟩, ⟨"Cari", ["cari", "carian"]⟩, ⟨"Cham", ["cham"]⟩,
   ⟨"Cher", ["cher", "cherokee"]⟩, ⟨"Chrs", ["chrs", "chorasmian"]⟩,
   ⟨"Copt", ["copt", "coptic", "qaac"]⟩, ⟨"Cpmn", ["cpmn", "cyprominoan"]⟩,
   ⟨"Cprt", ["cprt", "cypriot"]⟩, ⟨"Cyrl", ["cyrl", "cyrillic"]⟩,
   ⟨"Deva", ["deva", "devanagari"]⟩, ⟨"Diak", ["diak", "divesakuru"]⟩,
   ⟨"Dogr", ["dogr", "dogra"]⟩, ⟨"Dsrt", ["dsrt", "deseret"]⟩, ⟨"Dupl", ["dupl", "duployan"]⟩,
   ⟨"Egyp", ["egyp", "egyptianhieroglyphs"]⟩, ⟨"Elba", ["elba", "elbasan"]⟩,
   ⟨"Elym", ["elym", "elymaic"]⟩, ⟨"Ethi", ["ethi", "ethiopic"]⟩, ⟨"Gara", ["gara", "garay"]⟩,
   ⟨"Geor", ["geor", "georgian"]⟩, ⟨"Glag", ["glag", "glagolitic"]⟩,
   ⟨"Gong", ["gong", "gunjalagondi"]⟩, ⟨"Gonm", ["gonm", "masaramgondi"]⟩,
   ⟨"Goth", ["goth", "gothic"]⟩, ⟨"Gran", ["gran", "grantha"]⟩, ⟨"Grek", ["grek", "greek"]⟩,
   ⟨"Gujr", ["gujr", "gujarati"]⟩, ⟨"Gukh", ["gukh", "gurungkhema"]⟩,
   ⟨"Guru", ["guru", "gurmukhi"]⟩, ⟨"Hang", ["hang", "hangul"]⟩, ⟨"Hani", ["hani", "han"]⟩,
   ⟨"Hano", ["hano", "hanunoo"]⟩, ⟨"Hatr", ["hatr", "hatran"]⟩, ⟨"Hebr", ["hebr", "hebrew"]⟩,
   ⟨"Hira", ["hira", "hiragana"]⟩, ⟨"Hluw", ["hluw", "anatolianhieroglyphs"]⟩,
   ⟨"Hmng", ["hmng", "pahawhhmong"]⟩, ⟨"Hmnp", ["hmnp", "nyiakengpuachuehmong"]⟩,
   ⟨"Hung", ["hung", "oldhungarian"]⟩, ⟨"Ital", ["ital", "olditalic"]⟩,
   ⟨"Java", ["java", "javanese"]⟩, ⟨"Kali", ["kali", "kayahli"]⟩,
   ⟨"Kana", ["kana", "katakana"]⟩, ⟨"Kawi", ["kawi"]⟩, ⟨"Khar", ["khar", "kharoshthi"]⟩,
   ⟨"Khmr", ["khmr", "khmer"]⟩, ⟨"Khoj", ["khoj", "khojki"]⟩,
   ⟨"Kits", ["kits", "khitansmallscript"]⟩, ⟨"Knda", ["knda", "kannada"]⟩,
   ⟨"Krai", ["krai", "kiratrai"]⟩, ⟨"Kthi", ["kthi", "kaithi"]⟩, ⟨"Lana", ["lana", "taitham"]⟩,
   ⟨"Laoo", ["laoo", "lao"]⟩, ⟨"Latn", ["latn", "latin"]⟩, ⟨"Lepc", ["lepc", "lepcha"]⟩,
   ⟨"Limb", ["limb", "limbu"]⟩, ⟨"Lina", ["lina", "lineara"]⟩, ⟨"Linb", ["linb", "linearb"]⟩,
   ⟨"Lisu", ["lisu"]⟩, ⟨"Lyci", ["lyci", "lycian"]⟩, ⟨"Lydi", ["lydi", "lydian"]⟩,
   ⟨"Mahj", ["mahj", "mahajani"]⟩, ⟨"Maka", ["maka", "makasar"]⟩, ⟨"Mand", ["mand", "mandaic"]⟩,
   ⟨"Mani", ["mani", "manichaean"]⟩, ⟨"Marc", ["marc", "marchen"]⟩,
   ⟨"Medf", ["medf", "medefaidrin"]⟩, ⟨"Mend", ["mend", "mendekikakui"]⟩,
   ⟨"Merc", ["merc", "meroiticcursive"]⟩, ⟨"Mero", ["mero", "meroitichieroglyphs"]⟩,
   ⟨"Mlym", ["mlym", "malayalam"]⟩, ⟨"Modi", ["modi"]⟩, ⟨"Mong", ["mong", "mongolian"]⟩,
   ⟨"Mroo", ["mroo", "mro"]⟩, ⟨"Mtei", ["mtei", "meeteimayek"]⟩, ⟨"Mult", ["mult", "multani"]⟩,
   ⟨"Mymr", ["mymr", "myanmar"]⟩, ⟨"Nagm", ["nagm", "nagmundari"]⟩,
   ⟨"Nand", ["nand", "nandinagari"]⟩, ⟨"Narb", ["narb", "oldnortharabian"]⟩,
   ⟨"Nbat", ["nbat", "nabataean"]⟩, ⟨"Newa", ["newa"]⟩, ⟨"Nkoo", ["nkoo", "nko"]⟩,
   ⟨"Nshu", ["nshu", "nushu"]⟩, ⟨"Ogam", ["ogam", "ogham"]⟩, ⟨"Olck", ["olck", "olchiki"]⟩,
   ⟨"Onao", ["onao", "olonal"]⟩, ⟨"Orkh", ["orkh", "oldturkic"]⟩, ⟨"Orya", ["orya", "oriya"]⟩,
   ⟨"Osge", ["osge", "osage"]⟩, ⟨"Osma", ["osma", "osmanya"]⟩, ⟨"Ougr", ["ougr", "olduyghur"]⟩,
   ⟨"Palm", ["palm", "palmyrene"]⟩, ⟨"Pauc", ["pauc", "paucinhau"]⟩,
   ⟨"Perm", ["perm", "oldpermic"]⟩, ⟨"Phag", ["phag", "phagspa"]⟩,
   ⟨"Phli", ["phli", "inscriptionalpahlavi"]⟩, ⟨"Phlp", ["phlp", "psalterpahlavi"]⟩,
   ⟨"Phnx", ["phnx", "phoenician"]⟩, ⟨"Plrd", ["plrd", "miao"]⟩,
   ⟨"Prti", ["prti", "inscriptionalparthian"]⟩, ⟨"Rjng", ["rjng", "rejang"]⟩,
   ⟨"Rohg", ["rohg", "hanifirohingya"]⟩, ⟨"Runr", ["runr", "runic"]⟩,
   ⟨"Samr", ["samr", "samaritan"]⟩, ⟨"Sarb", ["sarb", "oldsoutharabian"]⟩,
   ⟨"Saur", ["saur", "saurashtra"]⟩, ⟨"Sgnw", ["sgnw", "signwriting"]⟩,
   ⟨"Shaw", ["shaw", "shavian"]⟩, ⟨"Shrd", ["shrd", "sharada"]⟩, ⟨"Sidd", ["sidd", "siddham"]⟩,
   ⟨"Sind", ["sind", "khudawadi"]⟩, ⟨"Sinh", ["sinh", "sinhala"]⟩,
   ⟨"Sogd", ["sogd", "sogdian"]⟩, ⟨"Sogo", ["sogo", "oldsogdian"]⟩,
   ⟨"Sora", ["sora", "sorasompeng"]⟩, ⟨"Soyo", ["soyo", "soyombo"]⟩,
   ⟨"Sund", ["sund", "sundanese"]⟩, ⟨"Sunu", ["sunu", "sunuwar"]⟩,
   ⟨"Sylo", ["sylo", "sylotinagri"]⟩, ⟨"Syrc", ["syrc", "syriac"]⟩,
   ⟨"Tagb", ["tagb", "tagbanwa"]⟩, ⟨"Takr", ["takr", "takri"]⟩, ⟨"Tale", ["tale", "taile"]⟩,
   ⟨"Talu", ["talu", "newtailue"]⟩, ⟨"Taml", ["taml", "tamil"]⟩, ⟨"Tang", ["tang", "tangut"]⟩,
   ⟨"Tavt", ["tavt", "taiviet"]⟩, ⟨"Telu", ["telu", "telugu"]⟩, ⟨"Tfng", ["tfng", "tifinagh"]⟩,
   ⟨"Tglg", ["tglg", "tagalog"]⟩, ⟨"Thaa", ["thaa", "thaana"]⟩, ⟨"Thai", ["thai"]⟩,
   ⟨"Tibt", ["tibt", "tibetan"]⟩, ⟨"Tirh", ["tirh", "tirhuta"]⟩, ⟨"Tnsa", ["tnsa", "tangsa"]⟩,
   ⟨"Todr", ["todr", "todhri"]⟩, ⟨"Toto", ["toto"]⟩, ⟨"Tutg", ["tutg", "tulutigalari"]⟩,
   ⟨"Ugar", ["ugar", "ugaritic"]⟩, ⟨"Vaii", ["vaii", "vai"]⟩, ⟨"Vith", ["vith", "vithkuqi"]⟩,
   ⟨"Wara", ["wara", "warangciti"]⟩, ⟨"Wcho", ["wcho", "wancho"]⟩,
   ⟨"Xpeo", ["xpeo", "oldpersian"]⟩, ⟨"Xsux", ["xsux", "cuneiform"]⟩,
   ⟨"Yezi", ["yezi", "yezidi"]⟩, ⟨"Yiii", ["yiii", "yi"]⟩,
   ⟨"Zanb", ["zanb", "zanabazarsquare"]⟩, ⟨"Zinh", ["zinh", "inherited", "qaai"]⟩,
   ⟨"Zyyy", ["zyyy", "common"]⟩]

/-- The characters of a script. -/
def scriptSet? (name : String) : Option CharSet :=
  (scripts.find? fun script => script.names.contains name).map fun script =>
    CharSet.ofRuns scriptRuns fun code => code = script.code

end DocumentGateway.Text
