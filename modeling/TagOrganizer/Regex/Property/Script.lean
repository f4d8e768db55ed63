import TagOrganizer.Regex.Property.Table

/-!
# Scripts

The script that each character belongs to, and the characters that are used in a script although
they belong to another one, or to the scripts `Zyyy` and `Zinh` of what is common to several scripts
or takes over the script of its neighbour.
-/

namespace TagOrganizer

namespace Regex

/-- The scripts of all codes. -/
def scriptRuns : List Run := Run.ofRows
  ["65Zyyy 26Latn 6Zyyy 26Latn 47Zyyy Latn 15Zyyy Latn 5Zyyy 23Latn Zyyy 31Latn Zyyy 449Latn",
   "39Zyyy 5Latn 5Zyyy 2Bopo 20Zyyy 112Zinh 4Grek Zyyy 3Grek 2- 4Grek Zyyy Grek 4- Grek Zyyy Grek",
   "Zyyy 3Grek - Grek - 20Grek - 63Grek 14Copt 16Grek 133Cyrl 2Zinh 169Cyrl - 38Armn 2- 50Armn 2-",
   "3Armn - 55Hebr 8- 27Hebr 4- 6Hebr 11- 5Arab Zyyy 6Arab Zyyy 14Arab Zyyy 3Arab Zyyy 32Arab Zyyy",
   "10Arab 11Zinh 26Arab Zinh 108Arab Zyyy 34Arab 14Syrc - 60Syrc 2- 3Syrc 48Arab 50Thaa 14-",
   "59Nkoo 2- 3Nkoo 46Samr 2- 15Samr - 28Mand 2- Mand - 11Syrc 5- 31Arab - 2Arab 5- 75Arab Zyyy",
   "29Arab 81Deva 4Zinh 15Deva 2Zyyy 26Deva 4Beng - 8Beng 2- 2Beng 2- 22Beng - 7Beng - Beng 3-",
   "4Beng 2- 9Beng 2- 2Beng 2- 4Beng 8- Beng 4- 2Beng - 5Beng 2- 25Beng 2- 3Guru - 6Guru 4- 2Guru",
   "2- 22Guru - 7Guru - 2Guru - 2Guru - 2Guru 2- Guru - 5Guru 4- 2Guru 2- 3Guru 3- Guru 7- 4Guru -",
   "Guru 7- 17Guru 10- 3Gujr - 9Gujr - 3Gujr - 22Gujr - 7Gujr - 2Gujr - 5Gujr 2- 10Gujr - 3Gujr -",
   "3Gujr 2- Gujr 15- 4Gujr 2- 12Gujr 7- 7Gujr - 3Orya - 8Orya 2- 2Orya 2- 22Orya - 7Orya - 2Orya",
   "- 5Orya 2- 9Orya 2- 2Orya 2- 3Orya 7- 3Orya 4- 2Orya - 5Orya 2- 18Orya 10- 2Taml - 6Taml 3-",
   "3Taml - 4Taml 3- 2Taml - Taml - 2Taml 3- 2Taml 3- 3Taml 3- 12Taml 4- 5Taml 3- 3Taml - 4Taml 2-",
   "Taml 6- Taml 14- 21Taml 5- 13Telu - 3Telu - 23Telu - 16Telu 2- 9Telu - 3Telu - 4Telu 7- 2Telu",
   "- 3Telu 2- Telu 2- 4Telu 2- 10Telu 7- 9Telu 13Knda - 3Knda - 23Knda - 10Knda - 5Knda 2- 9Knda",
   "- 3Knda - 4Knda 7- 2Knda 6- 2Knda - 4Knda 2- 10Knda - 3Knda 12- 13Mlym - 3Mlym - 51Mlym -",
   "3Mlym - 6Mlym 4- 16Mlym 2- 26Mlym - 3Sinh - 18Sinh 3- 24Sinh - 9Sinh - Sinh 2- 7Sinh 3- Sinh",
   "4- 6Sinh - Sinh - 8Sinh 6- 10Sinh 2- 3Sinh 12- 58Thai 4- Zyyy 28Thai 37- 2Laoo - Laoo - 5Laoo",
   "- 24Laoo - Laoo - 23Laoo 2- 5Laoo - Laoo - 7Laoo - 10Laoo 2- 4Laoo 32- 72Tibt - 36Tibt 4-",
   "39Tibt - 36Tibt - 15Tibt - 7Tibt 4Zyyy 2Tibt 37- 160Mymr 38Geor - Geor 5- Geor 2- 43Geor Zyyy",
   "4Geor 256Hang 73Ethi - 4Ethi 2- 7Ethi - Ethi - 4Ethi 2- 41Ethi - 4Ethi 2- 33Ethi - 4Ethi 2-",
   "7Ethi - Ethi - 4Ethi 2- 15Ethi - 57Ethi - 4Ethi 2- 67Ethi 2- 32Ethi 3- 26Ethi 6- 86Cher 2-",
   "6Cher 2- 640Cans 29Ogam 3- 75Runr 3Zyyy 11Runr 7- 22Tglg 9- Tglg 21Hano 2Zyyy 9- 20Buhd 12-",
   "13Tagb - 3Tagb - 2Tagb 12- 94Khmr 2- 10Khmr 6- 10Khmr 6- 2Mong 2Zyyy Mong Zyyy 20Mong 6-",
   "89Mong 7- 43Mong 5- 70Cans 10- 31Limb - 12Limb 4- 12Limb 4- Limb 3- 12Limb 30Tale 2- 5Tale 11-",
   "44Talu 4- 26Talu 6- 11Talu 3- 2Talu 32Khmr 28Bugi 2- 2Bugi 63Lana - 29Lana 2- 11Lana 6- 10Lana",
   "6- 14Lana 2- 31Zinh 49- 77Bali - 50Bali 64Sund 52Batk 8- 4Batk 56Lepc 3- 15Lepc 3- 3Lepc",
   "48Olck 11Cyrl 5- 43Geor 2- 3Geor 8Sund 8- 3Zinh Zyyy 13Zinh Zyyy 7Zinh 4Zyyy Zinh 6Zyyy Zinh",
   "3Zyyy 2Zinh Zyyy 5- 38Latn 5Grek Cyrl 49Latn 5Grek 4Latn 5Grek 13Latn Cyrl 70Latn Grek 64Zinh",
   "256Latn 22Grek 2- 6Grek 2- 38Grek 2- 6Grek 2- 8Grek - Grek - Grek - Grek - 31Grek 2- 53Grek -",
   "15Grek - 14Grek 2- 6Grek - 19Grek 2- 3Grek - 9Grek - 12Zyyy 2Zinh 87Zyyy - 11Zyyy Latn 2-",
   "11Zyyy Latn 15Zyyy - 13Latn 3- 33Zyyy 15- 33Zinh 15- 38Zyyy Grek 3Zyyy 2Latn 6Zyyy Latn 27Zyyy",
   "Latn 17Zyyy 41Latn 3Zyyy 4- 666Zyyy 22- 11Zyyy 21- 928Zyyy 256Brai 628Zyyy 2- 32Zyyy - 105Zyyy",
   "96Glag 32Latn 116Copt 5- 7Copt 38Geor - Geor 5- Geor 2- 56Tfng 7- 2Tfng 14- Tfng 23Ethi 9-",
   "7Ethi - 7Ethi - 7Ethi - 7Ethi - 7Ethi - 7Ethi - 7Ethi - 7Ethi - 32Cyrl 94Zyyy 34- 26Hani -",
   "89Hani 12- 214Hani 26- 21Zyyy Hani Zyyy Hani 25Zyyy 9Hani 4Zinh 2Hang 8Zyyy 4Hani 4Zyyy -",
   "86Hira 2- 2Zinh 2Zyyy 3Hira Zyyy 90Kana 2Zyyy 3Kana 5- 43Bopo - 94Hang - 16Zyyy 32Bopo 38Zyyy",
   "9- Zyyy 16Kana 31Hang - 64Zyyy 31Hang 81Zyyy 47Kana Zyyy 88Kana 168Zyyy 6592Hani 64Zyyy",
   "20992Hani 1165Yiii 3- 55Yiii 9- 48Lisu 300Vaii 20- 96Cyrl 88Bamu 8- 34Zyyy 102Latn 3Zyyy",
   "67Latn 2- 2Latn - Latn - 8Latn 21- 14Latn 45Sylo 3- 10Zyyy 6- 56Phag 8- 70Saur 8- 12Saur 6-",
   "32Deva 46Kali Zyyy Kali 36Rjng 11- Rjng 29Hang 3- 78Java - Zyyy 10Java 4- 2Java 31Mymr -",
   "55Cham 9- 14Cham 2- 10Cham 2- 4Cham 32Mymr 67Tavt 24- 5Tavt 23Mtei 10- 6Ethi 2- 6Ethi 2- 6Ethi",
   "9- 7Ethi - 7Ethi - 43Latn Zyyy 9Latn Grek 4Latn 2Zyyy 4- 80Cher 46Mtei 2- 10Mtei 6- 11172Hang",
   "12- 23Hang 4- 49Hang 8452- 366Hani 2- 106Hani 38- 7Latn 12- 5Armn 5- 26Hebr - 5Hebr - Hebr -",
   "2Hebr - 2Hebr - 10Hebr 115Arab 16- 363Arab 2Zyyy 80Arab 2- 54Arab 7- Arab 32- 16Arab 16Zinh",
   "10Zyyy 6- 14Zinh 2Cyrl 35Zyyy - 19Zyyy - 4Zyyy 4- 5Arab - 135Arab 2- Zyyy - 32Zyyy 26Latn",
   "6Zyyy 26Latn 11Zyyy 10Kana Zyyy 45Kana 2Zyyy 31Hang 3- 6Hang 2- 6Hang 2- 6Hang 2- 3Hang 3-",
   "7Zyyy - 7Zyyy 10- 5Zyyy 2- 12Linb - 26Linb - 19Linb - 2Linb - 15Linb 2- 14Linb 34- 123Linb 5-",
   "3Zyyy 4- 45Zyyy 3- 9Zyyy 79Grek - 13Zyyy 3- Grek 47- 45Zyyy Zinh 130- 29Lyci 3- 49Cari 15-",
   "Zinh 27Zyyy 4- 36Ital 9- 3Ital 27Goth 5- 43Perm 5- 30Ugar - Ugar 36Xpeo 4- 14Xpeo 42- 80Dsrt",
   "48Shaw 30Osma 2- 10Osma 6- 36Osge 4- 36Osge 4- 40Elba 8- 52Aghb 11- Aghb 11Vith - 15Vith -",
   "7Vith - 2Vith - 11Vith - 15Vith - 7Vith - 2Vith 3- 52Todr 12- 311Lina 9- 22Lina 10- 8Lina 24-",
   "6Latn - 42Latn - 9Latn 69- 6Cprt 2- Cprt - 44Cprt - 2Cprt 3- Cprt 2- Cprt 22Armi - 9Armi",
   "32Palm 31Nbat 8- 9Nbat 48- 19Hatr - 2Hatr 5- 5Hatr 28Phnx 3- Phnx 26Lydi 5- Lydi 64- 32Mero",
   "24Merc 4- 20Merc 2- 46Merc 4Khar - 2Khar 5- 8Khar - 3Khar - 29Khar 2- 3Khar 4- 10Khar 7- 9Khar",
   "7- 32Sarb 32Narb 32- 39Mani 4- 12Mani 9- 54Avst 3- 7Avst 22Prti 2- 8Prti 19Phli 5- 8Phli",
   "18Phlp 7- 4Phlp 12- 7Phlp 80- 73Orkh 55- 51Hung 13- 51Hung 7- 6Hung 40Rohg 8- 10Rohg 6- 38Gara",
   "3- 29Gara 8- 2Gara 208- 31Arab - 42Yezi - 3Yezi 2- 2Yezi 16- 3Arab 55- 4Arab 40Sogo 8- 42Sogd",
   "22- 26Ougr 38- 28Chrs 20- 23Elym 9- 78Brah 4- 36Brah 9- Brah 67Kthi 10- Kthi 2- 25Sora 7-",
   "10Sora 6- 53Cakm - 18Cakm 8- 39Mahj 9- 96Shrd - 20Sinh 11- 18Khoj - 47Khoj 62- 7Mult - Mult -",
   "4Mult - 15Mult - 11Mult 6- 59Sind 5- 10Sind 6- 4Gran - 8Gran 2- 2Gran 2- 22Gran - 7Gran -",
   "2Gran - 5Gran - Zinh 9Gran 2- 2Gran 2- 3Gran 2- Gran 6- Gran 5- 7Gran 2- 7Gran 3- 5Gran 11-",
   "10Tutg - Tutg 2- Tutg - 38Tutg - 10Tutg - Tutg 2- Tutg - 4Tutg - 10Tutg - 2Tutg 8- 2Tutg 29-",
   "92Newa - 5Newa 30- 72Tirh 8- 10Tirh 166- 54Sidd 2- 38Sidd 34- 69Modi 11- 10Modi 6- 13Mong 19-",
   "58Takr 6- 10Takr 6- 20Mymr 28- 27Ahom 2- 15Ahom 4- 23Ahom 185- 60Dogr 100- 83Wara 12- Wara",
   "7Diak 2- Diak 2- 8Diak - 2Diak - 30Diak - 2Diak 2- 12Diak 9- 10Diak 70- 8Nand 2- 46Nand 2-",
   "11Nand 27- 72Zanb 8- 83Soyo 13- 16Cans 57Pauc 7- 10Deva 182- 34Sunu 14- 10Sunu 6- 9Bhks -",
   "45Bhks - 14Bhks 10- 29Bhks 3- 32Marc 2- 22Marc - 14Marc 73- 7Gonm - 2Gonm - 44Gonm 3- Gonm -",
   "2Gonm - 9Gonm 8- 10Gonm 6- 6Gong - 2Gong - 37Gong - 2Gong - 6Gong 7- 10Gong 310- 25Maka 7-",
   "17Kawi - 41Kawi 3- 29Kawi 85- Lisu 15- 50Taml 13- Taml 922Xsux 102- 111Xsux - 5Xsux 11-",
   "196Xsux 2636- 99Cpmn 13- 1110Egyp 10- 3995Egyp 5- 583Hluw 6841- 58Gukh 1734- 569Bamu 7- 31Mroo",
   "- 10Mroo 4- 2Mroo 79Tnsa - 10Tnsa 6- 30Bass 2- 6Bass 10- 70Hmng 10- 10Hmng - 7Hmng - 21Hmng 5-",
   "19Hmng 432- 58Krai 198- 91Medf 101- 75Plrd 4- 57Plrd 7- 17Plrd 64- Tang Nshu 2Hani Kits 11-",
   "2Hani 14- 6136Tang 8- 768Tang 470Kits 41- Kits 9Tang 8935- 4Kana - 7Kana - 2Kana - Kana",
   "287Hira 3Kana 15- Hira 29- 3Hira 2- Kana 14- 4Kana 8- 396Nshu 2308- 107Dupl 5- 13Dupl 3- 9Dupl",
   "7- 10Dupl 2- 4Dupl 4Zyyy 3932- 250Zyyy 6- 436Zyyy 76- 46Zinh 2- 23Zinh 9- 116Zyyy 60- 246Zyyy",
   "10- 39Zyyy 2- 62Zyyy 3Zinh 17Zyyy 8Zinh 2Zyyy 7Zinh 30Zyyy 4Zinh 61Zyyy 21- 70Grek 122- 20Zyyy",
   "12- 20Zyyy 12- 87Zyyy 9- 25Zyyy 135- 85Zyyy - 71Zyyy - 2Zyyy 2- Zyyy 2- 2Zyyy 2- 4Zyyy -",
   "12Zyyy - Zyyy - 7Zyyy - 65Zyyy - 4Zyyy 2- 8Zyyy - 7Zyyy - 28Zyyy - 4Zyyy - 5Zyyy - Zyyy 3-",
   "7Zyyy - 340Zyyy 2- 292Zyyy 2- 50Zyyy 652Sgnw 15- 5Sgnw - 15Sgnw 1104- 31Latn 6- 6Latn 213-",
   "7Glag - 17Glag 2- 7Glag - 2Glag - 5Glag 5- 62Cyrl 33- Cyrl 112- 45Hmnp 3- 14Hmnp 2- 10Hmnp 4-",
   "2Hmnp 320- 31Toto 17- 58Wcho 5- Wcho 464- 42Nagm 214- 43Onao 4- Onao 480- 7Ethi - 4Ethi -",
   "2Ethi - 15Ethi - 197Mend 2- 16Mend 41- 76Adlm 4- 10Adlm 4- 2Adlm 785- 68Zyyy 76- 61Zyyy 194-",
   "4Arab - 27Arab - 2Arab - Arab 2- Arab - 10Arab - 4Arab - Arab - Arab 6- Arab 4- Arab - Arab -",
   "Arab - 3Arab - 2Arab - Arab 2- Arab - Arab - Arab - Arab - Arab - 2Arab - Arab 2- 4Arab -",
   "7Arab - 4Arab - 4Arab - Arab - 10Arab - 17Arab 5- 3Arab - 5Arab - 17Arab 52- 2Arab 270- 44Zyyy",
   "4- 100Zyyy 12- 15Zyyy 2- 15Zyyy - 15Zyyy - 37Zyyy 10- 174Zyyy 56- 26Zyyy Hira 2Zyyy 13- 44Zyyy",
   "4- 9Zyyy 7- 2Zyyy 14- 6Zyyy 154- 984Zyyy 4- 17Zyyy 3- 13Zyyy 3- 119Zyyy 4- 95Zyyy 6- 12Zyyy 4-",
   "Zyyy 15- 12Zyyy 4- 56Zyyy 8- 10Zyyy 6- 40Zyyy 8- 30Zyyy 2- 12Zyyy 4- 2Zyyy 62- 340Zyyy 12-",
   "14Zyyy 2- 13Zyyy 3- 10Zyyy 5- 56Zyyy 7- 15Zyyy 2- 11Zyyy 6- 9Zyyy 7- 147Zyyy - 102Zyyy 1030-",
   "42720Hani 32- 4154Hani 6- 222Hani 2- 5762Hani 14- 7473Hani 15- 622Hani 2466- 542Hani 1506-",
   "4939Hani 5- 4192Hani 711761- Zyyy 30- 96Zyyy 128- 240Zinh 196112-"]

/-- The names of the scripts, first of all their codes. -/
def scriptNames : List String :=
  ["Adlm Adlam", "Aghb Caucasian_Albanian", "Ahom", "Arab Arabic", "Armi Imperial_Aramaic",
   "Armn Armenian", "Avst Avestan", "Bali Balinese", "Bamu Bamum", "Bass Bassa_Vah", "Batk Batak",
   "Beng Bengali", "Bhks Bhaiksuki", "Bopo Bopomofo", "Brah Brahmi", "Brai Braille",
   "Bugi Buginese", "Buhd Buhid", "Cakm Chakma", "Cans Canadian_Aboriginal", "Cari Carian", "Cham",
   "Cher Cherokee", "Chrs Chorasmian", "Copt Coptic Qaac", "Cpmn Cypro_Minoan", "Cprt Cypriot",
   "Cyrl Cyrillic", "Deva Devanagari", "Diak Dives_Akuru", "Dogr Dogra", "Dsrt Deseret",
   "Dupl Duployan", "Egyp Egyptian_Hieroglyphs", "Elba Elbasan", "Elym Elymaic", "Ethi Ethiopic",
   "Gara Garay", "Geor Georgian", "Glag Glagolitic", "Gong Gunjala_Gondi", "Gonm Masaram_Gondi",
   "Goth Gothic", "Gran Grantha", "Grek Greek", "Gujr Gujarati", "Gukh Gurung_Khema",
   "Guru Gurmukhi", "Hang Hangul", "Hani Han", "Hano Hanunoo", "Hatr Hatran", "Hebr Hebrew",
   "Hira Hiragana", "Hluw Anatolian_Hieroglyphs", "Hmng Pahawh_Hmong",
   "Hmnp Nyiakeng_Puachue_Hmong", "Hung Old_Hungarian", "Ital Old_Italic", "Java Javanese",
   "Kali Kayah_Li", "Kana Katakana", "Kawi", "Khar Kharoshthi", "Khmr Khmer", "Khoj Khojki",
   "Kits Khitan_Small_Script", "Knda Kannada", "Krai Kirat_Rai", "Kthi Kaithi", "Lana Tai_Tham",
   "Laoo Lao", "Latn Latin", "Lepc Lepcha", "Limb Limbu", "Lina Linear_A", "Linb Linear_B", "Lisu",
   "Lyci Lycian", "Lydi Lydian", "Mahj Mahajani", "Maka Makasar", "Mand Mandaic",
   "Mani Manichaean", "Marc Marchen", "Medf Medefaidrin", "Mend Mende_Kikakui",
   "Merc Meroitic_Cursive", "Mero Meroitic_Hieroglyphs", "Mlym Malayalam", "Modi",
   "Mong Mongolian", "Mroo Mro", "Mtei Meetei_Mayek", "Mult Multani", "Mymr Myanmar",
   "Nagm Nag_Mundari", "Nand Nandinagari", "Narb Old_North_Arabian", "Nbat Nabataean", "Newa",
   "Nkoo Nko", "Nshu Nushu", "Ogam Ogham", "Olck Ol_Chiki", "Onao Ol_Onal", "Orkh Old_Turkic",
   "Orya Oriya", "Osge Osage", "Osma Osmanya", "Ougr Old_Uyghur", "Palm Palmyrene",
   "Pauc Pau_Cin_Hau", "Perm Old_Permic", "Phag Phags_Pa", "Phli Inscriptional_Pahlavi",
   "Phlp Psalter_Pahlavi", "Phnx Phoenician", "Plrd Miao", "Prti Inscriptional_Parthian",
   "Rjng Rejang", "Rohg Hanifi_Rohingya", "Runr Runic", "Samr Samaritan", "Sarb Old_South_Arabian",
   "Saur Saurashtra", "Sgnw SignWriting", "Shaw Shavian", "Shrd Sharada", "Sidd Siddham",
   "Sind Khudawadi", "Sinh Sinhala", "Sogd Sogdian", "Sogo Old_Sogdian", "Sora Sora_Sompeng",
   "Soyo Soyombo", "Sund Sundanese", "Sunu Sunuwar", "Sylo Syloti_Nagri", "Syrc Syriac",
   "Tagb Tagbanwa", "Takr Takri", "Tale Tai_Le", "Talu New_Tai_Lue", "Taml Tamil", "Tang Tangut",
   "Tavt Tai_Viet", "Telu Telugu", "Tfng Tifinagh", "Tglg Tagalog", "Thaa Thaana", "Thai",
   "Tibt Tibetan", "Tirh Tirhuta", "Tnsa Tangsa", "Todr Todhri", "Toto", "Tutg Tulu_Tigalari",
   "Ugar Ugaritic", "Vaii Vai", "Vith Vithkuqi", "Wara Warang_Citi", "Wcho Wancho",
   "Xpeo Old_Persian", "Xsux Cuneiform", "Yezi Yezidi", "Yiii Yi", "Zanb Zanabazar_Square",
   "Zinh Inherited Qaai", "Zyyy Common"]

/-- The characters that are used in a script although they do not belong to it. -/
def extraRows : List (String × List String) :=
  [("Adlm", ["61F 640 204F 2E41"]), ("Aghb", ["304 331 35E"]),
   ("Arab", ["60C 61B 61F 640 64B-655 670 204F 2E41 FD3E-FD3F 102E0-102FB"]), ("Armn", ["308"]),
   ("Avst", ["B7 2E30-2E31"]),
   ("Beng", ["2BC 951-952 964-965 1CD0 1CD2 1CD5-1CD6 1CD8 1CE1 1CEA 1CED 1CF2 1CF5-1CF7 A8F1"]),
   ("Bopo",
    ["2C7 2C9-2CB 2D9 3001-3003 3008-3011 3013-301F 302A-302D 3030 3037 30FB FE45-FE46",
     "FF61-FF65"]),
   ("Bugi", ["A9CF"]), ("Buhd", ["1735-1736"]), ("Cakm", ["9E6-9EF 1040-1049"]),
   ("Cari", ["B7 205A 205D 2E31"]), ("Cher", ["300-302 304 30B-30C 323-324 330-331"]),
   ("Copt", ["B7 300 304-305 307 374-375 2E17 102E0-102FB"]), ("Cpmn", ["10100-10101"]),
   ("Cprt", ["10100-10102 10107-10133 10137-1013F"]),
   ("Cyrl", ["2BC 300-302 304 306 308 30B 311 485-486 1DF8 2E43"]),
   ("Deva", ["2BC 951-952 964-965 1CD0-1CF6 1CF8-1CF9 20F0 A830-A839"]),
   ("Dogr", ["964-96F A830-A839"]), ("Dupl", ["B7 307-308 30A 323-324 2E3C 1BCA0-1BCA3"]),
   ("Elba", ["B7 305"]), ("Ethi", ["30E"]), ("Gara", ["60C 61B 61F"]),
   ("Geor", ["B7 589 10FB 205A 2E31"]), ("Glag", ["B7 303 305 484 487 589 10FB 205A 2E43 A66F"]),
   ("Gong", ["B7 964-965"]), ("Gonm", ["964-965"]), ("Goth", ["B7 304-305 308 331"]),
   ("Gran",
    ["951-952 964-965 BE6-BF3 1CD0 1CD2-1CD3 1CF2-1CF4 1CF8-1CF9 20F0 1133B",
     "11FD0-11FD1 11FD3"]),
   ("Grek", ["B7 300-301 304 306 308 313 342 345 374 1DC0-1DC1 205D"]),
   ("Gujr", ["951-952 964-965 A830-A839"]), ("Gukh", ["965"]),
   ("Guru", ["951-952 964-965 A830-A839"]),
   ("Hang", ["3001-3003 3008-3011 3013-301F 3030 3037 30FB FE45-FE46 FF61-FF65"]),
   ("Hani",
    ["B7 2FF0-2FFF 3001-3003 3006 3008-3011 3013-301F 302A-302D 3030 3037 303C-303F",
     "30FB 3190-319F 31C0-31E5 31EF 3220-3247 3280-32B0 32C0-32CB 32FF 3358-3370",
     "337B-337F 33E0-33FE A700-A707 FE45-FE46 FF61-FF65 1D360-1D371 1F250-1F251"]),
   ("Hano", ["1735-1736"]), ("Hebr", ["307-308"]),
   ("Hira",
    ["3001-3003 3008-3011 3013-301F 3030-3035 3037 303C-303D 3099-309C 30A0 30FB-30FC",
     "FE45-FE46 FF61-FF65 FF70 FF9E-FF9F"]),
   ("Hung", ["205A 205D 2E31 2E41"]), ("Java", ["A9CF"]), ("Kali", ["A92E"]),
   ("Kana",
    ["305 323 3001-3003 3008-3011 3013-301F 3030-3035 3037 303C-303D 3099-309C 30A0",
     "30FB-30FC FE45-FE46 FF61-FF65 FF70 FF9E-FF9F"]),
   ("Khoj", ["AE6-AEF A830-A839"]),
   ("Knda", ["951-952 964-965 1CD0 1CD2-1CD3 1CDA 1CF2 1CF4 A830-A835"]),
   ("Kthi", ["966-96F 2E31 A830-A839"]),
   ("Latn",
    ["B7 2BC 2C7 2C9-2CB 2CD 2D7 2D9 300-30E 310-311 313 323-325 32D-32E 330-331 358",
     "35E 363-36F 485-486 951-952 10FB 1DF8 202F 20F0 2E17 A700-A707 A92E"]),
   ("Limb", ["965"]), ("Lina", ["10107-10133"]), ("Linb", ["10100-10102 10107-10133 10137-1013F"]),
   ("Lisu", ["2BC 2CD 300A-300B"]), ("Lyci", ["205A"]), ("Lydi", ["B7 2E31"]),
   ("Mahj", ["B7 964-96F A830-A839"]), ("Mand", ["640"]), ("Mani", ["640"]), ("Mero", ["205D"]),
   ("Mlym", ["951-952 964-965 1CDA 1CF2 A830-A832"]), ("Modi", ["A830-A839"]),
   ("Mong", ["1802-1803 1805 202F 3001-3002 3008-300B"]), ("Mult", ["A66-A6F"]),
   ("Mymr", ["A92E"]), ("Nand", ["951 964-965 CE6-CEF 1CE9 1CF2 1CFA A830-A835"]),
   ("Newa", ["951-952 1CD5 1CD7-1CD8 1CE2 1CE9 1CEB 1CED"]), ("Nkoo", ["60C 61B 61F FD3E-FD3F"]),
   ("Onao", ["964-965"]), ("Orkh", ["205A 2E30"]), ("Orya", ["951-952 964-965 1CDA 1CF2"]),
   ("Osge", ["301 304 30B 358"]), ("Ougr", ["640 10AF2"]), ("Perm", ["B7 300 306-308 313 483"]),
   ("Phag", ["1802-1803 1805 202F 3002"]), ("Phlp", ["640"]), ("Rohg", ["60C 61B 61F 640 6D4"]),
   ("Runr", ["16EB-16ED"]), ("Samr", ["2E31"]), ("Shaw", ["B7"]),
   ("Shrd", ["951 1CD7 1CD9 1CDC-1CDD 1CE0 1CEA 1CED A830-A835 A838"]),
   ("Sind", ["964-965 A830-A839"]), ("Sinh", ["964-965 1CF2"]), ("Sogd", ["640"]),
   ("Sunu", ["300-301 303 30D 310 32D 331"]), ("Sylo", ["964-965 9E6-9EF"]),
   ("Syrc",
    ["303-304 307-308 30A 323-325 32D-32E 330-331 60C 61B-61C 61F 640 64B-655 670 1DF8",
     "1DFA"]),
   ("Tagb", ["1735-1736"]), ("Takr", ["964-965 A830-A839"]),
   ("Tale", ["300-301 307-308 30C 1040-1049"]),
   ("Taml", ["951-952 964-965 1CDA A8F3 11301 11303 1133B-1133C"]), ("Tang", ["2FF0-2FFF 31EF"]),
   ("Telu", ["951-952 964-965 1CD5-1CD6 1CD8 1CDA 1CF2"]), ("Tfng", ["302 304 306-309 323"]),
   ("Tglg", ["1735-1736"]), ("Thaa", ["60C 61B-61C 61F 660-669 FDF2 FDFD"]),
   ("Thai", ["2BC 2D7 303 331"]), ("Tibt", ["3008-300B"]),
   ("Tirh", ["951-952 964-965 1CD5 1CE2 1CF2 A830-A839"]), ("Todr", ["301 304 307 311 313 35E"]),
   ("Toto", ["2BC"]), ("Tutg", ["CE6-CEF 1CF2 1CF4 A830-A835 A8F1"]),
   ("Yezi", ["60C 61B 61F 660-669"]), ("Yiii", ["3001-3002 3008-3011 3014-301B 30FB FF61-FF65"])]

/-- The code of the script with a folded name. -/
def scriptCode? (name : String) : Option String :=
  (scriptNames.find? fun names => isNamed names name).map firstName

/-- The characters that belong to a script. -/
def inScript (code : String) : CharSet :=
  .whereValue scriptRuns fun value => value == code

/--
The characters that are used in a script. Those of which it is known in which scripts they are used
are not common any more.
-/
def usedInScript (code : String) : CharSet :=
  let extra := fun (entry : String × List String) => CharSet.ofRows entry.2
  if code = "Zyyy" ∨ code = "Zinh" then
    (inScript code).difference (.unionAll (extraRows.map extra))
  else
    (inScript code).union (.unionAll ((extraRows.filter fun entry => entry.1 == code).map extra))

end Regex

end TagOrganizer
