import SuiteAudit.Text.Run

/-!
# Scripts

The script of every code point by its four-letter code, the characters that are used with other
scripts than their own, and the names of the scripts.
-/

namespace SuiteAudit.Text.Script

def table : List String :=
  ["41Zyyy1aLatn6Zyyy1aLatn2fZyyy1LatnfZyyy1Latn5Zyyy17Latn1Zyyy1fLatn1Zyyy1c1Latn27Zyyy5Latn5Zyyy",
   "2Bopo14Zyyy70Zinh4Grek1Zyyy3Grek2Zzzz4Grek1Zyyy1Grek4Zzzz1Grek1Zyyy1Grek1Zyyy3Grek1Zzzz1Grek",
   "1Zzzz14Grek1Zzzz3fGrekeCopt10Grek85Cyrl2Zinha9Cyrl1Zzzz26Armn2Zzzz32Armn2Zzzz3Armn1Zzzz37Hebr",
   "8Zzzz1bHebr4Zzzz6HebrbZzzz5Arab1Zyyy6Arab1ZyyyeArab1Zyyy3Arab1Zyyy20Arab1ZyyyaArabbZinh1aArab",
   "1Zinh6cArab1Zyyy22ArabeSyrc1Zzzz3cSyrc2Zzzz3Syrc30Arab32ThaaeZzzz3bNkoo2Zzzz3Nkoo2eSamr2Zzzz",
   "fSamr1Zzzz1cMand2Zzzz1Mand1ZzzzbSyrc5Zzzz1fArab1Zzzz2Arab5Zzzz4bArab1Zyyy1dArab51Deva4Zinh",
   "fDeva2Zyyy1aDeva4Beng1Zzzz8Beng2Zzzz2Beng2Zzzz16Beng1Zzzz7Beng1Zzzz1Beng3Zzzz4Beng2Zzzz9Beng",
   "2Zzzz2Beng2Zzzz4Beng8Zzzz1Beng4Zzzz2Beng1Zzzz5Beng2Zzzz19Beng2Zzzz3Guru1Zzzz6Guru4Zzzz2Guru",
   "2Zzzz16Guru1Zzzz7Guru1Zzzz2Guru1Zzzz2Guru1Zzzz2Guru2Zzzz1Guru1Zzzz5Guru4Zzzz2Guru2Zzzz3Guru",
   "3Zzzz1Guru7Zzzz4Guru1Zzzz1Guru7Zzzz11GuruaZzzz3Gujr1Zzzz9Gujr1Zzzz3Gujr1Zzzz16Gujr1Zzzz7Gujr",
   "1Zzzz2Gujr1Zzzz5Gujr2ZzzzaGujr1Zzzz3Gujr1Zzzz3Gujr2Zzzz1GujrfZzzz4Gujr2ZzzzcGujr7Zzzz7Gujr",
   "1Zzzz3Orya1Zzzz8Orya2Zzzz2Orya2Zzzz16Orya1Zzzz7Orya1Zzzz2Orya1Zzzz5Orya2Zzzz9Orya2Zzzz2Orya",
   "2Zzzz3Orya7Zzzz3Orya4Zzzz2Orya1Zzzz5Orya2Zzzz12OryaaZzzz2Taml1Zzzz6Taml3Zzzz3Taml1Zzzz4Taml",
   "3Zzzz2Taml1Zzzz1Taml1Zzzz2Taml3Zzzz2Taml3Zzzz3Taml3ZzzzcTaml4Zzzz5Taml3Zzzz3Taml1Zzzz4Taml",
   "2Zzzz1Taml6Zzzz1TamleZzzz15Taml5ZzzzdTelu1Zzzz3Telu1Zzzz17Telu1Zzzz10Telu2Zzzz9Telu1Zzzz3Telu",
   "1Zzzz4Telu7Zzzz2Telu1Zzzz3Telu2Zzzz1Telu2Zzzz4Telu2ZzzzaTelu7Zzzz9TeludKnda1Zzzz3Knda1Zzzz",
   "17Knda1ZzzzaKnda1Zzzz5Knda2Zzzz9Knda1Zzzz3Knda1Zzzz4Knda7Zzzz2Knda6Zzzz2Knda1Zzzz4Knda2Zzzz",
   "aKnda1Zzzz3KndacZzzzdMlym1Zzzz3Mlym1Zzzz33Mlym1Zzzz3Mlym1Zzzz6Mlym4Zzzz10Mlym2Zzzz1aMlym1Zzzz",
   "3Sinh1Zzzz12Sinh3Zzzz18Sinh1Zzzz9Sinh1Zzzz1Sinh2Zzzz7Sinh3Zzzz1Sinh4Zzzz6Sinh1Zzzz1Sinh1Zzzz",
   "8Sinh6ZzzzaSinh2Zzzz3SinhcZzzz3aThai4Zzzz1Zyyy1cThai25Zzzz2Laoo1Zzzz1Laoo1Zzzz5Laoo1Zzzz18Laoo",
   "1Zzzz1Laoo1Zzzz17Laoo2Zzzz5Laoo1Zzzz1Laoo1Zzzz7Laoo1ZzzzaLaoo2Zzzz4Laoo20Zzzz48Tibt1Zzzz24Tibt",
   "4Zzzz27Tibt1Zzzz24Tibt1ZzzzfTibt1Zzzz7Tibt4Zyyy2Tibt25Zzzza0Mymr26Geor1Zzzz1Geor5Zzzz1Geor",
   "2Zzzz2bGeor1Zyyy4Geor100Hang49Ethi1Zzzz4Ethi2Zzzz7Ethi1Zzzz1Ethi1Zzzz4Ethi2Zzzz29Ethi1Zzzz",
   "4Ethi2Zzzz21Ethi1Zzzz4Ethi2Zzzz7Ethi1Zzzz1Ethi1Zzzz4Ethi2ZzzzfEthi1Zzzz39Ethi1Zzzz4Ethi2Zzzz",
   "43Ethi2Zzzz20Ethi3Zzzz1aEthi6Zzzz56Cher2Zzzz6Cher2Zzzz280Cans1dOgam3Zzzz4bRunr3ZyyybRunr7Zzzz",
   "16Tglg9Zzzz1Tglg15Hano2Zyyy9Zzzz14BuhdcZzzzdTagb1Zzzz3Tagb1Zzzz2TagbcZzzz5eKhmr2ZzzzaKhmr6Zzzz",
   "aKhmr6Zzzz2Mong2Zyyy1Mong1Zyyy14Mong6Zzzz59Mong7Zzzz2bMong5Zzzz46CansaZzzz1fLimb1ZzzzcLimb",
   "4ZzzzcLimb4Zzzz1Limb3ZzzzcLimb1eTale2Zzzz5TalebZzzz2cTalu4Zzzz1aTalu6ZzzzbTalu3Zzzz2Talu20Khmr",
   "1cBugi2Zzzz2Bugi3fLana1Zzzz1dLana2ZzzzbLana6ZzzzaLana6ZzzzeLana2Zzzz1fZinh31Zzzz4dBali1Zzzz",
   "32Bali40Sund34Batk8Zzzz4Batk38Lepc3ZzzzfLepc3Zzzz3Lepc30OlckbCyrl5Zzzz2bGeor2Zzzz3Geor8Sund",
   "8Zzzz3Zinh1ZyyydZinh1Zyyy7Zinh4Zyyy1Zinh6Zyyy1Zinh3Zyyy2Zinh1Zyyy5Zzzz26Latn5Grek1Cyrl31Latn",
   "5Grek4Latn5GrekdLatn1Cyrl46Latn1Grek40Zinh100Latn16Grek2Zzzz6Grek2Zzzz26Grek2Zzzz6Grek2Zzzz",
   "8Grek1Zzzz1Grek1Zzzz1Grek1Zzzz1Grek1Zzzz1fGrek2Zzzz35Grek1ZzzzfGrek1ZzzzeGrek2Zzzz6Grek1Zzzz",
   "13Grek2Zzzz3Grek1Zzzz9Grek1ZzzzcZyyy2Zinh57Zyyy1ZzzzbZyyy1Latn2ZzzzbZyyy1LatnfZyyy1ZzzzdLatn",
   "3Zzzz21ZyyyfZzzz21ZinhfZzzz26Zyyy1Grek3Zyyy2Latn6Zyyy1Latn1bZyyy1Latn11Zyyy29Latn3Zyyy4Zzzz",
   "29aZyyy16ZzzzbZyyy15Zzzz3a0Zyyy100Brai274Zyyy2Zzzz20Zyyy1Zzzz69Zyyy60Glag20Latn74Copt5Zzzz",
   "7Copt26Geor1Zzzz1Geor5Zzzz1Geor2Zzzz38Tfng7Zzzz2TfngeZzzz1Tfng17Ethi9Zzzz7Ethi1Zzzz7Ethi1Zzzz",
   "7Ethi1Zzzz7Ethi1Zzzz7Ethi1Zzzz7Ethi1Zzzz7Ethi1Zzzz7Ethi1Zzzz20Cyrl5eZyyy22Zzzz1aHani1Zzzz",
   "59HanicZzzzd6Hani1aZzzz15Zyyy1Hani1Zyyy1Hani19Zyyy9Hani4Zinh2Hang8Zyyy4Hani4Zyyy1Zzzz56Hira",
   "2Zzzz2Zinh2Zyyy3Hira1Zyyy5aKana2Zyyy3Kana5Zzzz2bBopo1Zzzz5eHang1Zzzz10Zyyy20Bopo26Zyyy9Zzzz",
   "1Zyyy10Kana1fHang1Zzzz40Zyyy1fHang51Zyyy2fKana1Zyyy58Kanaa8Zyyy19c0Hani40Zyyy5200Hani48dYiii",
   "3Zzzz37Yiii9Zzzz30Lisu12cVaii14Zzzz60Cyrl58Bamu8Zzzz22Zyyy66Latn3Zyyy43Latn2Zzzz2Latn1Zzzz",
   "1Latn1Zzzz8Latn15ZzzzeLatn2dSylo3ZzzzaZyyy6Zzzz38Phag8Zzzz46Saur8ZzzzcSaur6Zzzz20Deva2eKali",
   "1Zyyy1Kali24RjngbZzzz1Rjng1dHang3Zzzz4eJava1Zzzz1ZyyyaJava4Zzzz2Java1fMymr1Zzzz37Cham9Zzzz",
   "eCham2ZzzzaCham2Zzzz4Cham20Mymr43Tavt18Zzzz5Tavt17MteiaZzzz6Ethi2Zzzz6Ethi2Zzzz6Ethi9Zzzz7Ethi",
   "1Zzzz7Ethi1Zzzz2bLatn1Zyyy9Latn1Grek4Latn2Zyyy4Zzzz50Cher2eMtei2ZzzzaMtei6Zzzz2ba4HangcZzzz",
   "17Hang4Zzzz31Hang2104Zzzz16eHani2Zzzz6aHani26Zzzz7LatncZzzz5Armn5Zzzz1aHebr1Zzzz5Hebr1Zzzz",
   "1Hebr1Zzzz2Hebr1Zzzz2Hebr1ZzzzaHebr73Arab10Zzzz16bArab2Zyyy50Arab2Zzzz36Arab7Zzzz1Arab20Zzzz",
   "10Arab10ZinhaZyyy6ZzzzeZinh2Cyrl23Zyyy1Zzzz13Zyyy1Zzzz4Zyyy4Zzzz5Arab1Zzzz87Arab2Zzzz1Zyyy",
   "1Zzzz20Zyyy1aLatn6Zyyy1aLatnbZyyyaKana1Zyyy2dKana2Zyyy1fHang3Zzzz6Hang2Zzzz6Hang2Zzzz6Hang",
   "2Zzzz3Hang3Zzzz7Zyyy1Zzzz7ZyyyaZzzz5Zyyy2ZzzzcLinb1Zzzz1aLinb1Zzzz13Linb1Zzzz2Linb1ZzzzfLinb",
   "2ZzzzeLinb22Zzzz7bLinb5Zzzz3Zyyy4Zzzz2dZyyy3Zzzz9Zyyy4fGrek1ZzzzdZyyy3Zzzz1Grek2fZzzz2dZyyy",
   "1Zinh82Zzzz1dLyci3Zzzz31CarifZzzz1Zinh1bZyyy4Zzzz24Ital9Zzzz3Ital1bGoth5Zzzz2bPerm5Zzzz1eUgar",
   "1Zzzz1Ugar24Xpeo4ZzzzeXpeo2aZzzz50Dsrt30Shaw1eOsma2ZzzzaOsma6Zzzz24Osge4Zzzz24Osge4Zzzz28Elba",
   "8Zzzz34AghbbZzzz1AghbbVith1ZzzzfVith1Zzzz7Vith1Zzzz2Vith1ZzzzbVith1ZzzzfVith1Zzzz7Vith1Zzzz",
   "2Vith3Zzzz34TodrcZzzz137Lina9Zzzz16LinaaZzzz8Lina18Zzzz6Latn1Zzzz2aLatn1Zzzz9Latn45Zzzz6Cprt",
   "2Zzzz1Cprt1Zzzz2cCprt1Zzzz2Cprt3Zzzz1Cprt2Zzzz1Cprt16Armi1Zzzz9Armi20Palm1fNbat8Zzzz9Nbat",
   "30Zzzz13Hatr1Zzzz2Hatr5Zzzz5Hatr1cPhnx3Zzzz1Phnx1aLydi5Zzzz1Lydi40Zzzz20Mero18Merc4Zzzz14Merc",
   "2Zzzz2eMerc4Khar1Zzzz2Khar5Zzzz8Khar1Zzzz3Khar1Zzzz1dKhar2Zzzz3Khar4ZzzzaKhar7Zzzz9Khar7Zzzz",
   "20Sarb20Narb20Zzzz27Mani4ZzzzcMani9Zzzz36Avst3Zzzz7Avst16Prti2Zzzz8Prti13Phli5Zzzz8Phli12Phlp",
   "7Zzzz4PhlpcZzzz7Phlp50Zzzz49Orkh37Zzzz33HungdZzzz33Hung7Zzzz6Hung28Rohg8ZzzzaRohg6Zzzz26Gara",
   "3Zzzz1dGara8Zzzz2Garad0Zzzz1fArab1Zzzz2aYezi1Zzzz3Yezi2Zzzz2Yezi10Zzzz3Arab37Zzzz4Arab28Sogo",
   "8Zzzz2aSogd16Zzzz1aOugr26Zzzz1cChrs14Zzzz17Elym9Zzzz4eBrah4Zzzz24Brah9Zzzz1Brah43KthiaZzzz",
   "1Kthi2Zzzz19Sora7ZzzzaSora6Zzzz35Cakm1Zzzz12Cakm8Zzzz27Mahj9Zzzz60Shrd1Zzzz14SinhbZzzz12Khoj",
   "1Zzzz2fKhoj3eZzzz7Mult1Zzzz1Mult1Zzzz4Mult1ZzzzfMult1ZzzzbMult6Zzzz3bSind5ZzzzaSind6Zzzz4Gran",
   "1Zzzz8Gran2Zzzz2Gran2Zzzz16Gran1Zzzz7Gran1Zzzz2Gran1Zzzz5Gran1Zzzz1Zinh9Gran2Zzzz2Gran2Zzzz",
   "3Gran2Zzzz1Gran6Zzzz1Gran5Zzzz7Gran2Zzzz7Gran3Zzzz5GranbZzzzaTutg1Zzzz1Tutg2Zzzz1Tutg1Zzzz",
   "26Tutg1ZzzzaTutg1Zzzz1Tutg2Zzzz1Tutg1Zzzz4Tutg1ZzzzaTutg1Zzzz2Tutg8Zzzz2Tutg1dZzzz5cNewa1Zzzz",
   "5Newa1eZzzz48Tirh8ZzzzaTirha6Zzzz36Sidd2Zzzz26Sidd22Zzzz45ModibZzzzaModi6ZzzzdMong13Zzzz3aTakr",
   "6ZzzzaTakr6Zzzz14Mymr1cZzzz1bAhom2ZzzzfAhom4Zzzz17Ahomb9Zzzz3cDogr64Zzzz53WaracZzzz1Wara7Diak",
   "2Zzzz1Diak2Zzzz8Diak1Zzzz2Diak1Zzzz1eDiak1Zzzz2Diak2ZzzzcDiak9ZzzzaDiak46Zzzz8Nand2Zzzz2eNand",
   "2ZzzzbNand1bZzzz48Zanb8Zzzz53SoyodZzzz10Cans39Pauc7ZzzzaDevab6Zzzz22SunueZzzzaSunu6Zzzz9Bhks",
   "1Zzzz2dBhks1ZzzzeBhksaZzzz1dBhks3Zzzz20Marc2Zzzz16Marc1ZzzzeMarc49Zzzz7Gonm1Zzzz2Gonm1Zzzz",
   "2cGonm3Zzzz1Gonm1Zzzz2Gonm1Zzzz9Gonm8ZzzzaGonm6Zzzz6Gong1Zzzz2Gong1Zzzz25Gong1Zzzz2Gong1Zzzz",
   "6Gong7ZzzzaGong136Zzzz19Maka7Zzzz11Kawi1Zzzz29Kawi3Zzzz1dKawi55Zzzz1LisufZzzz32TamldZzzz1Taml",
   "39aXsux66Zzzz6fXsux1Zzzz5XsuxbZzzzc4Xsuxa4cZzzz63CpmndZzzz456EgypaZzzzf9bEgyp5Zzzz247Hluw",
   "1ab9Zzzz3aGukh6c6Zzzz239Bamu7Zzzz1fMroo1ZzzzaMroo4Zzzz2Mroo4fTnsa1ZzzzaTnsa6Zzzz1eBass2Zzzz",
   "6BassaZzzz46HmngaZzzzaHmng1Zzzz7Hmng1Zzzz15Hmng5Zzzz13Hmng1b0Zzzz3aKraic6Zzzz5bMedf65Zzzz",
   "4bPlrd4Zzzz39Plrd7Zzzz11Plrd40Zzzz1Tang1Nshu2Hani1KitsbZzzz2HanieZzzz17f8Tang8Zzzz300Tang",
   "1d6Kits29Zzzz1Kits9Tang22e7Zzzz4Kana1Zzzz7Kana1Zzzz2Kana1Zzzz1Kana11fHira3KanafZzzz1Hira1dZzzz",
   "3Hira2Zzzz1KanaeZzzz4Kana8Zzzz18cNshu904Zzzz6bDupl5ZzzzdDupl3Zzzz9Dupl7ZzzzaDupl2Zzzz4Dupl",
   "4Zyyyf5cZzzzfaZyyy6Zzzz1b4Zyyy4cZzzz2eZinh2Zzzz17Zinh9Zzzz74Zyyy3cZzzzf6ZyyyaZzzz27Zyyy2Zzzz",
   "3eZyyy3Zinh11Zyyy8Zinh2Zyyy7Zinh1eZyyy4Zinh3dZyyy15Zzzz46Grek7aZzzz14ZyyycZzzz14ZyyycZzzz",
   "57Zyyy9Zzzz19Zyyy87Zzzz55Zyyy1Zzzz47Zyyy1Zzzz2Zyyy2Zzzz1Zyyy2Zzzz2Zyyy2Zzzz4Zyyy1ZzzzcZyyy",
   "1Zzzz1Zyyy1Zzzz7Zyyy1Zzzz41Zyyy1Zzzz4Zyyy2Zzzz8Zyyy1Zzzz7Zyyy1Zzzz1cZyyy1Zzzz4Zyyy1Zzzz5Zyyy",
   "1Zzzz1Zyyy3Zzzz7Zyyy1Zzzz154Zyyy2Zzzz124Zyyy2Zzzz32Zyyy28cSgnwfZzzz5Sgnw1ZzzzfSgnw450Zzzz",
   "1fLatn6Zzzz6Latnd5Zzzz7Glag1Zzzz11Glag2Zzzz7Glag1Zzzz2Glag1Zzzz5Glag5Zzzz3eCyrl21Zzzz1Cyrl",
   "70Zzzz2dHmnp3ZzzzeHmnp2ZzzzaHmnp4Zzzz2Hmnp140Zzzz1fToto11Zzzz3aWcho5Zzzz1Wcho1d0Zzzz2aNagm",
   "d6Zzzz2bOnao4Zzzz1Onao1e0Zzzz7Ethi1Zzzz4Ethi1Zzzz2Ethi1ZzzzfEthi1Zzzzc5Mend2Zzzz10Mend29Zzzz",
   "4cAdlm4ZzzzaAdlm4Zzzz2Adlm311Zzzz44Zyyy4cZzzz3dZyyyc2Zzzz4Arab1Zzzz1bArab1Zzzz2Arab1Zzzz1Arab",
   "2Zzzz1Arab1ZzzzaArab1Zzzz4Arab1Zzzz1Arab1Zzzz1Arab6Zzzz1Arab4Zzzz1Arab1Zzzz1Arab1Zzzz1Arab",
   "1Zzzz3Arab1Zzzz2Arab1Zzzz1Arab2Zzzz1Arab1Zzzz1Arab1Zzzz1Arab1Zzzz1Arab1Zzzz1Arab1Zzzz2Arab",
   "1Zzzz1Arab2Zzzz4Arab1Zzzz7Arab1Zzzz4Arab1Zzzz4Arab1Zzzz1Arab1ZzzzaArab1Zzzz11Arab5Zzzz3Arab",
   "1Zzzz5Arab1Zzzz11Arab34Zzzz2Arab10eZzzz2cZyyy4Zzzz64ZyyycZzzzfZyyy2ZzzzfZyyy1ZzzzfZyyy1Zzzz",
   "25ZyyyaZzzzaeZyyy38Zzzz1aZyyy1Hira2ZyyydZzzz2cZyyy4Zzzz9Zyyy7Zzzz2ZyyyeZzzz6Zyyy9aZzzz3d8Zyyy",
   "4Zzzz11Zyyy3ZzzzdZyyy3Zzzz77Zyyy4Zzzz5fZyyy6ZzzzcZyyy4Zzzz1ZyyyfZzzzcZyyy4Zzzz38Zyyy8ZzzzaZyyy",
   "6Zzzz28Zyyy8Zzzz1eZyyy2ZzzzcZyyy4Zzzz2Zyyy3eZzzz154ZyyycZzzzeZyyy2ZzzzdZyyy3ZzzzaZyyy5Zzzz",
   "38Zyyy7ZzzzfZyyy2ZzzzbZyyy6Zzzz9Zyyy7Zzzz93Zyyy1Zzzz66Zyyy406Zzzza6e0Hani20Zzzz103aHani6Zzzz",
   "deHani2Zzzz1682HanieZzzz1d31HanifZzzz26eHani9a2Zzzz21eHani5e2Zzzz134bHani5Zzzz1060Hani",
   "adc51Zzzz1Zyyy1eZzzz60Zyyy80Zzzzf0Zinh2fe10Zzzz"]

def runs : List (Run Text) := Run.ofTable 4 id table

def ofChar (c : Char) : Text := Run.valueAt runs "Zzzz" c.toNat

/-- Stretches of characters that are used with these scripts, and not with their own unless it is
among them. -/
def extensions : List (Nat × Nat × String) :=
  [(0xB7, 0xB7, "Avst Cari Copt Dupl Elba Geor Glag Gong Goth Grek Hani Latn Lydi Mahj Perm Shaw"),
   (0x2BC, 0x2BC, "Beng Cyrl Deva Latn Lisu Thai Toto"), (0x2C7, 0x2C7, "Bopo Latn"),
   (0x2C9, 0x2CB, "Bopo Latn"), (0x2CD, 0x2CD, "Latn Lisu"), (0x2D7, 0x2D7, "Latn Thai"),
   (0x2D9, 0x2D9, "Bopo Latn"), (0x300, 0x300, "Cher Copt Cyrl Grek Latn Perm Sunu Tale"),
   (0x301, 0x301, "Cher Cyrl Grek Latn Osge Sunu Tale Todr"),
   (0x302, 0x302, "Cher Cyrl Latn Tfng"), (0x303, 0x303, "Glag Latn Sunu Syrc Thai"),
   (0x304, 0x304, "Aghb Cher Copt Cyrl Goth Grek Latn Osge Syrc Tfng Todr"),
   (0x305, 0x305, "Copt Elba Glag Goth Kana Latn"), (0x306, 0x306, "Cyrl Grek Latn Perm"),
   (0x307, 0x307, "Copt Dupl Hebr Latn Perm Syrc Tale Tfng Todr"),
   (0x308, 0x308, "Armn Cyrl Dupl Goth Grek Hebr Latn Perm Syrc Tale"),
   (0x309, 0x309, "Latn Tfng"), (0x30A, 0x30A, "Dupl Latn Syrc"),
   (0x30B, 0x30B, "Cher Cyrl Latn Osge"), (0x30C, 0x30C, "Cher Latn Tale"),
   (0x30D, 0x30D, "Latn Sunu"), (0x30E, 0x30E, "Ethi Latn"), (0x310, 0x310, "Latn Sunu"),
   (0x311, 0x311, "Cyrl Latn Todr"), (0x313, 0x313, "Grek Latn Perm Todr"),
   (0x320, 0x320, "Latn Syrc"), (0x323, 0x323, "Cher Dupl Kana Latn Syrc"),
   (0x324, 0x324, "Cher Dupl Latn Syrc"), (0x325, 0x325, "Latn Syrc"),
   (0x32D, 0x32D, "Latn Sunu Syrc"), (0x32E, 0x32E, "Latn Syrc"), (0x330, 0x330, "Cher Latn Syrc"),
   (0x331, 0x331, "Aghb Cher Goth Latn Sunu Thai"), (0x342, 0x342, "Grek"), (0x345, 0x345, "Grek"),
   (0x358, 0x358, "Latn Osge"), (0x35E, 0x35E, "Aghb Latn Todr"), (0x363, 0x36F, "Latn"),
   (0x374, 0x375, "Copt Grek"), (0x483, 0x483, "Cyrl Perm"), (0x484, 0x484, "Cyrl Glag"),
   (0x485, 0x486, "Cyrl Latn"), (0x487, 0x487, "Cyrl Glag"), (0x589, 0x589, "Armn Geor Glag"),
   (0x60C, 0x60C, "Arab Gara Nkoo Rohg Syrc Thaa Yezi"),
   (0x61B, 0x61B, "Arab Gara Nkoo Rohg Syrc Thaa Yezi"), (0x61C, 0x61C, "Arab Syrc Thaa"),
   (0x61F, 0x61F, "Adlm Arab Gara Nkoo Rohg Syrc Thaa Yezi"),
   (0x640, 0x640, "Adlm Arab Mand Mani Ougr Phlp Rohg Sogd Syrc"), (0x64B, 0x655, "Arab Syrc"),
   (0x660, 0x669, "Arab Thaa Yezi"), (0x670, 0x670, "Arab Syrc"), (0x6D4, 0x6D4, "Arab Rohg"),
   (0x951, 0x951, "Beng Deva Gran Gujr Guru Knda Latn Mlym Orya Shrd Taml Telu Tirh"),
   (0x952, 0x952, "Beng Deva Gran Gujr Guru Knda Latn Mlym Orya Taml Telu Tirh"),
   (0x964, 0x964, "Beng Deva Dogr Gong Gonm Gran Gujr Guru Knda Mahj Mlym Nand Onao Orya Sind Sinh Sylo Takr Taml Telu Tirh"),
   (0x965, 0x965, "Beng Deva Dogr Gong Gonm Gran Gujr Gukh Guru Knda Limb Mahj Mlym Nand Onao Orya Sind Sinh Sylo Takr Taml Telu Tirh"),
   (0x966, 0x96F, "Deva Dogr Kthi Mahj"), (0x9E6, 0x9EF, "Beng Cakm Sylo"),
   (0xA66, 0xA6F, "Guru Mult"), (0xAE6, 0xAEF, "Gujr Khoj"), (0xBE6, 0xBF3, "Gran Taml"),
   (0xCE6, 0xCEF, "Knda Nand Tutg"), (0x1040, 0x1049, "Cakm Mymr Tale"),
   (0x10FB, 0x10FB, "Geor Glag Latn"), (0x16EB, 0x16ED, "Runr"),
   (0x1735, 0x1736, "Buhd Hano Tagb Tglg"), (0x1802, 0x1803, "Mong Phag"),
   (0x1805, 0x1805, "Mong Phag"), (0x1CD0, 0x1CD0, "Beng Deva Gran Knda"),
   (0x1CD1, 0x1CD1, "Deva"), (0x1CD2, 0x1CD2, "Beng Deva Gran Knda"),
   (0x1CD3, 0x1CD3, "Deva Gran Knda"), (0x1CD4, 0x1CD4, "Deva"), (0x1CD5, 0x1CD6, "Beng Deva"),
   (0x1CD7, 0x1CD7, "Deva Shrd"), (0x1CD8, 0x1CD8, "Beng Deva"), (0x1CD9, 0x1CD9, "Deva Shrd"),
   (0x1CDA, 0x1CDA, "Deva Knda Mlym Orya Taml Telu"), (0x1CDB, 0x1CDB, "Deva"),
   (0x1CDC, 0x1CDD, "Deva Shrd"), (0x1CDE, 0x1CDF, "Deva"), (0x1CE0, 0x1CE0, "Deva Shrd"),
   (0x1CE1, 0x1CE1, "Beng Deva"), (0x1CE2, 0x1CE8, "Deva"), (0x1CE9, 0x1CE9, "Deva Nand"),
   (0x1CEA, 0x1CEA, "Beng Deva"), (0x1CEB, 0x1CEC, "Deva"), (0x1CED, 0x1CED, "Beng Deva"),
   (0x1CEE, 0x1CF1, "Deva"),
   (0x1CF2, 0x1CF2, "Beng Deva Gran Knda Mlym Nand Orya Sinh Telu Tirh Tutg"),
   (0x1CF3, 0x1CF3, "Deva Gran"), (0x1CF4, 0x1CF4, "Deva Gran Knda Tutg"),
   (0x1CF5, 0x1CF6, "Beng Deva"), (0x1CF7, 0x1CF7, "Beng"), (0x1CF8, 0x1CF9, "Deva Gran"),
   (0x1CFA, 0x1CFA, "Nand"), (0x1DC0, 0x1DC1, "Grek"), (0x1DF8, 0x1DF8, "Cyrl Latn Syrc"),
   (0x1DFA, 0x1DFA, "Syrc"), (0x202F, 0x202F, "Latn Mong Phag"), (0x204F, 0x204F, "Adlm Arab"),
   (0x205A, 0x205A, "Cari Geor Glag Hung Lyci Orkh"), (0x205D, 0x205D, "Cari Grek Hung Mero"),
   (0x20F0, 0x20F0, "Deva Gran Latn"), (0x2E17, 0x2E17, "Copt Latn"),
   (0x2E30, 0x2E30, "Avst Orkh"), (0x2E31, 0x2E31, "Avst Cari Geor Hung Kthi Lydi Samr"),
   (0x2E3C, 0x2E3C, "Dupl"), (0x2E41, 0x2E41, "Adlm Arab Hung"), (0x2E43, 0x2E43, "Cyrl Glag"),
   (0x2FF0, 0x2FFF, "Hani Tang"), (0x3001, 0x3001, "Bopo Hang Hani Hira Kana Mong Yiii"),
   (0x3002, 0x3002, "Bopo Hang Hani Hira Kana Mong Phag Yiii"),
   (0x3003, 0x3003, "Bopo Hang Hani Hira Kana"), (0x3006, 0x3006, "Hani"),
   (0x3008, 0x3009, "Bopo Hang Hani Hira Kana Mong Tibt Yiii"),
   (0x300A, 0x300B, "Bopo Hang Hani Hira Kana Lisu Mong Tibt Yiii"),
   (0x300C, 0x3011, "Bopo Hang Hani Hira Kana Yiii"), (0x3013, 0x3013, "Bopo Hang Hani Hira Kana"),
   (0x3014, 0x301B, "Bopo Hang Hani Hira Kana Yiii"), (0x301C, 0x301F, "Bopo Hang Hani Hira Kana"),
   (0x302A, 0x302D, "Bopo Hani"), (0x3030, 0x3030, "Bopo Hang Hani Hira Kana"),
   (0x3031, 0x3035, "Hira Kana"), (0x3037, 0x3037, "Bopo Hang Hani Hira Kana"),
   (0x303C, 0x303D, "Hani Hira Kana"), (0x303E, 0x303F, "Hani"), (0x3099, 0x309C, "Hira Kana"),
   (0x30A0, 0x30A0, "Hira Kana"), (0x30FB, 0x30FB, "Bopo Hang Hani Hira Kana Yiii"),
   (0x30FC, 0x30FC, "Hira Kana"), (0x3190, 0x319F, "Hani"), (0x31C0, 0x31E5, "Hani"),
   (0x31EF, 0x31EF, "Hani Tang"), (0x3220, 0x3247, "Hani"), (0x3280, 0x32B0, "Hani"),
   (0x32C0, 0x32CB, "Hani"), (0x32FF, 0x32FF, "Hani"), (0x3358, 0x3370, "Hani"),
   (0x337B, 0x337F, "Hani"), (0x33E0, 0x33FE, "Hani"), (0xA66F, 0xA66F, "Cyrl Glag"),
   (0xA700, 0xA707, "Hani Latn"),
   (0xA830, 0xA832, "Deva Dogr Gujr Guru Khoj Knda Kthi Mahj Mlym Modi Nand Shrd Sind Takr Tirh Tutg"),
   (0xA833, 0xA835, "Deva Dogr Gujr Guru Khoj Knda Kthi Mahj Modi Nand Shrd Sind Takr Tirh Tutg"),
   (0xA836, 0xA837, "Deva Dogr Gujr Guru Khoj Kthi Mahj Modi Sind Takr Tirh"),
   (0xA838, 0xA838, "Deva Dogr Gujr Guru Khoj Kthi Mahj Modi Shrd Sind Takr Tirh"),
   (0xA839, 0xA839, "Deva Dogr Gujr Guru Khoj Kthi Mahj Modi Sind Takr Tirh"),
   (0xA8F1, 0xA8F1, "Beng Deva Tutg"), (0xA8F3, 0xA8F3, "Deva Taml"),
   (0xA92E, 0xA92E, "Kali Latn Mymr"), (0xA9CF, 0xA9CF, "Bugi Java"),
   (0xFD3E, 0xFD3F, "Arab Nkoo"), (0xFDF2, 0xFDF2, "Arab Thaa"), (0xFDFD, 0xFDFD, "Arab Thaa"),
   (0xFE45, 0xFE46, "Bopo Hang Hani Hira Kana"), (0xFF61, 0xFF65, "Bopo Hang Hani Hira Kana Yiii"),
   (0xFF70, 0xFF70, "Hira Kana"), (0xFF9E, 0xFF9F, "Hira Kana"),
   (0x10100, 0x10101, "Cpmn Cprt Linb"), (0x10102, 0x10102, "Cprt Linb"),
   (0x10107, 0x10133, "Cprt Lina Linb"), (0x10137, 0x1013F, "Cprt Linb"),
   (0x102E0, 0x102FB, "Arab Copt"), (0x10AF2, 0x10AF2, "Mani Ougr"),
   (0x11301, 0x11301, "Gran Taml"), (0x11303, 0x11303, "Gran Taml"),
   (0x1133B, 0x1133C, "Gran Taml"), (0x11FD0, 0x11FD1, "Gran Taml"),
   (0x11FD3, 0x11FD3, "Gran Taml"), (0x1BCA0, 0x1BCA3, "Dupl"), (0x1D360, 0x1D371, "Hani"),
   (0x1F250, 0x1F251, "Hani")]

def usedWith (c : Char) : List Text :=
  match extensions.find? fun (a, b, _) => a ≤ c.toNat && c.toNat ≤ b with
  | some (_, _, codes) => Text.split ' ' codes.toList
  | none => [ofChar c]

def names : List (String × List String) :=
  [("Adlm", ["adlm", "adlam"]), ("Aghb", ["aghb", "caucasianalbanian"]), ("Ahom", ["ahom"]),
   ("Arab", ["arab", "arabic"]), ("Armi", ["armi", "imperialaramaic"]),
   ("Armn", ["armn", "armenian"]), ("Avst", ["avst", "avestan"]), ("Bali", ["bali", "balinese"]),
   ("Bamu", ["bamu", "bamum"]), ("Bass", ["bass", "bassavah"]), ("Batk", ["batk", "batak"]),
   ("Beng", ["beng", "bengali"]), ("Bhks", ["bhks", "bhaiksuki"]), ("Bopo", ["bopo", "bopomofo"]),
   ("Brah", ["brah", "brahmi"]), ("Brai", ["brai", "braille"]), ("Bugi", ["bugi", "buginese"]),
   ("Buhd", ["buhd", "buhid"]), ("Cakm", ["cakm", "chakma"]),
   ("Cans", ["cans", "canadianaboriginal"]), ("Cari", ["cari", "carian"]), ("Cham", ["cham"]),
   ("Cher", ["cher", "cherokee"]), ("Chrs", ["chrs", "chorasmian"]),
   ("Copt", ["copt", "coptic", "qaac"]), ("Cpmn", ["cpmn", "cyprominoan"]),
   ("Cprt", ["cprt", "cypriot"]), ("Cyrl", ["cyrl", "cyrillic"]), ("Deva", ["deva", "devanagari"]),
   ("Diak", ["diak", "divesakuru"]), ("Dogr", ["dogr", "dogra"]), ("Dsrt", ["dsrt", "deseret"]),
   ("Dupl", ["dupl", "duployan"]), ("Egyp", ["egyp", "egyptianhieroglyphs"]),
   ("Elba", ["elba", "elbasan"]), ("Elym", ["elym", "elymaic"]), ("Ethi", ["ethi", "ethiopic"]),
   ("Gara", ["gara", "garay"]), ("Geor", ["geor", "georgian"]), ("Glag", ["glag", "glagolitic"]),
   ("Gong", ["gong", "gunjalagondi"]), ("Gonm", ["gonm", "masaramgondi"]),
   ("Goth", ["goth", "gothic"]), ("Gran", ["gran", "grantha"]), ("Grek", ["grek", "greek"]),
   ("Gujr", ["gujr", "gujarati"]), ("Gukh", ["gukh", "gurungkhema"]),
   ("Guru", ["guru", "gurmukhi"]), ("Hang", ["hang", "hangul"]), ("Hani", ["hani", "han"]),
   ("Hano", ["hano", "hanunoo"]), ("Hatr", ["hatr", "hatran"]), ("Hebr", ["hebr", "hebrew"]),
   ("Hira", ["hira", "hiragana"]), ("Hluw", ["hluw", "anatolianhieroglyphs"]),
   ("Hmng", ["hmng", "pahawhhmong"]), ("Hmnp", ["hmnp", "nyiakengpuachuehmong"]),
   ("Hung", ["hung", "oldhungarian"]), ("Ital", ["ital", "olditalic"]),
   ("Java", ["java", "javanese"]), ("Kali", ["kali", "kayahli"]), ("Kana", ["kana", "katakana"]),
   ("Kawi", ["kawi"]), ("Khar", ["khar", "kharoshthi"]), ("Khmr", ["khmr", "khmer"]),
   ("Khoj", ["khoj", "khojki"]), ("Kits", ["kits", "khitansmallscript"]),
   ("Knda", ["knda", "kannada"]), ("Krai", ["krai", "kiratrai"]), ("Kthi", ["kthi", "kaithi"]),
   ("Lana", ["lana", "taitham"]), ("Laoo", ["laoo", "lao"]), ("Latn", ["latn", "latin"]),
   ("Lepc", ["lepc", "lepcha"]), ("Limb", ["limb", "limbu"]), ("Lina", ["lina", "lineara"]),
   ("Linb", ["linb", "linearb"]), ("Lisu", ["lisu"]), ("Lyci", ["lyci", "lycian"]),
   ("Lydi", ["lydi", "lydian"]), ("Mahj", ["mahj", "mahajani"]), ("Maka", ["maka", "makasar"]),
   ("Mand", ["mand", "mandaic"]), ("Mani", ["mani", "manichaean"]), ("Marc", ["marc", "marchen"]),
   ("Medf", ["medf", "medefaidrin"]), ("Mend", ["mend", "mendekikakui"]),
   ("Merc", ["merc", "meroiticcursive"]), ("Mero", ["mero", "meroitichieroglyphs"]),
   ("Mlym", ["mlym", "malayalam"]), ("Modi", ["modi"]), ("Mong", ["mong", "mongolian"]),
   ("Mroo", ["mroo", "mro"]), ("Mtei", ["mtei", "meeteimayek"]), ("Mult", ["mult", "multani"]),
   ("Mymr", ["mymr", "myanmar"]), ("Nagm", ["nagm", "nagmundari"]),
   ("Nand", ["nand", "nandinagari"]), ("Narb", ["narb", "oldnortharabian"]),
   ("Nbat", ["nbat", "nabataean"]), ("Newa", ["newa"]), ("Nkoo", ["nkoo", "nko"]),
   ("Nshu", ["nshu", "nushu"]), ("Ogam", ["ogam", "ogham"]), ("Olck", ["olck", "olchiki"]),
   ("Onao", ["onao", "olonal"]), ("Orkh", ["orkh", "oldturkic"]), ("Orya", ["orya", "oriya"]),
   ("Osge", ["osge", "osage"]), ("Osma", ["osma", "osmanya"]), ("Ougr", ["ougr", "olduyghur"]),
   ("Palm", ["palm", "palmyrene"]), ("Pauc", ["pauc", "paucinhau"]),
   ("Perm", ["perm", "oldpermic"]), ("Phag", ["phag", "phagspa"]),
   ("Phli", ["phli", "inscriptionalpahlavi"]), ("Phlp", ["phlp", "psalterpahlavi"]),
   ("Phnx", ["phnx", "phoenician"]), ("Plrd", ["plrd", "miao"]),
   ("Prti", ["prti", "inscriptionalparthian"]), ("Rjng", ["rjng", "rejang"]),
   ("Rohg", ["rohg", "hanifirohingya"]), ("Runr", ["runr", "runic"]),
   ("Samr", ["samr", "samaritan"]), ("Sarb", ["sarb", "oldsoutharabian"]),
   ("Saur", ["saur", "saurashtra"]), ("Sgnw", ["sgnw", "signwriting"]),
   ("Shaw", ["shaw", "shavian"]), ("Shrd", ["shrd", "sharada"]), ("Sidd", ["sidd", "siddham"]),
   ("Sind", ["sind", "khudawadi"]), ("Sinh", ["sinh", "sinhala"]), ("Sogd", ["sogd", "sogdian"]),
   ("Sogo", ["sogo", "oldsogdian"]), ("Sora", ["sora", "sorasompeng"]),
   ("Soyo", ["soyo", "soyombo"]), ("Sund", ["sund", "sundanese"]), ("Sunu", ["sunu", "sunuwar"]),
   ("Sylo", ["sylo", "sylotinagri"]), ("Syrc", ["syrc", "syriac"]), ("Tagb", ["tagb", "tagbanwa"]),
   ("Takr", ["takr", "takri"]), ("Tale", ["tale", "taile"]), ("Talu", ["talu", "newtailue"]),
   ("Taml", ["taml", "tamil"]), ("Tang", ["tang", "tangut"]), ("Tavt", ["tavt", "taiviet"]),
   ("Telu", ["telu", "telugu"]), ("Tfng", ["tfng", "tifinagh"]), ("Tglg", ["tglg", "tagalog"]),
   ("Thaa", ["thaa", "thaana"]), ("Thai", ["thai"]), ("Tibt", ["tibt", "tibetan"]),
   ("Tirh", ["tirh", "tirhuta"]), ("Tnsa", ["tnsa", "tangsa"]), ("Todr", ["todr", "todhri"]),
   ("Toto", ["toto"]), ("Tutg", ["tutg", "tulutigalari"]), ("Ugar", ["ugar", "ugaritic"]),
   ("Vaii", ["vaii", "vai"]), ("Vith", ["vith", "vithkuqi"]), ("Wara", ["wara", "warangciti"]),
   ("Wcho", ["wcho", "wancho"]), ("Xpeo", ["xpeo", "oldpersian"]), ("Xsux", ["xsux", "cuneiform"]),
   ("Yezi", ["yezi", "yezidi"]), ("Yiii", ["yiii", "yi"]), ("Zanb", ["zanb", "zanabazarsquare"]),
   ("Zinh", ["zinh", "inherited", "qaai"]), ("Zyyy", ["zyyy", "common"])]

def ofName? (name : Text) : Option Text :=
  (names.find? fun s => s.2.contains (String.ofList name)).map fun s => s.1.toList

end SuiteAudit.Text.Script
