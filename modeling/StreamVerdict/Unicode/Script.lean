import StreamVerdict.Unicode.RangeTable

/-!
# Scripts

The characters of every script, under its code and its name.
-/

namespace StreamVerdict.Unicode

/-- The scripts. -/
def scripts : List NamedTable := [
  ⟨["adlm", "adlam"],
    .ofText "hdeUcYEKEC"⟩,
  ⟨["aghb", "caucasianalbanian"],
    .ofText "duxScALB"⟩,
  ⟨["ahom"],
    .ofText "ebrCbBCPEX"⟩,
  ⟨["arab", "arabic"],
    .ofLines [
    "chCFBGBOBDBbGBKLbABeEBbIdCbWjGbFBCGcWBbDdntWeLQnZCdCCcCHBbGQeIFBfFfvNbFeWDdglSEBbBBCBBCBBKBE",
    "BBBBGBEBBBBBBDBCBBCBBBBBBBBBBCBBCEBHBEBEBBBKBRFDBFBRcAC"]⟩,
  ⟨["armi", "imperialaramaic"],
    .ofText "dwbWWBJ"⟩,
  ⟨["armn", "armenian"],
    .ofText "bzDbMCbYCDdozJF"⟩,
  ⟨["avst", "avestan"],
    .ofText "dxcYcCDH"⟩,
  ⟨["bali", "balinese"],
    .ofText "kfWcZDbV"⟩,
  ⟨["bamu", "bamum"],
    .ofText "clcQdKcvcQvX"⟩,
  ⟨["bass", "bassavah"],
    .ofText "fhkIbECG"⟩,
  ⟨["batk", "batak"],
    .ofText "knGcAIE"⟩,
  ⟨["beng", "bengali"],
    .ofText "dpOEBICCCWBHBBDECJCCCEIBECBFCZ"⟩,
  ⟨["bhks", "bhaiksuki"],
    .ofText "edoIJBbTBOKbD"⟩,
  ⟨["bopo", "bopomofo"],
    .ofText "bcSCrlXbReIbG"⟩,
  ⟨["brah", "brahmi"],
    .ofText "dzaEdAEbKJB"⟩,
  ⟨["brai", "braille"],
    .ofText "pdWjW"⟩,
  ⟨["bugi", "buginese"],
    .ofText "jwAbCCC"⟩,
  ⟨["buhd", "buhid"],
    .ofText "iuYU"⟩,
  ⟨["cakm", "chakma"],
    .ofText "dzkAcBBS"⟩,
  ⟨["cans", "canadianaboriginal"],
    .ofText "hoYyQvOcSdtpQQ"⟩,
  ⟨["cari", "carian"],
    .ofText "dtyMbX"⟩,
  ⟨["cham"],
    .ofText "cmjWcDJOCKCE"⟩,
  ⟨["cher", "cherokee"],
    .ofText "hlGdICGcfjEdC"⟩,
  ⟨["chrs", "chorasmian"],
    .ofText "dyxCbC"⟩,
  ⟨["copt", "coptic", "qaac"],
    .ofText "bmGOpjKeMFH"⟩,
  ⟨["cpmn", "cyprominoan"],
    .ofText "ekyYdV"⟩,
  ⟨["cprt", "cypriot"],
    .ofText "dvzKGCBBbSBCDBCB"⟩,
  ⟨["cyrl", "cyrillic"],
    .ofText "bnKfDCgNivOJgGBcYBgfNbGbtoAdSbheCCdhpGcKbHB"⟩,
  ⟨["deva", "devanagari"],
    .ofText "dkQdDEPCbAcijGbGbreMK"⟩,
  ⟨["diak", "divesakuru"],
    .ofText "eckUHCBCIBCBbEBCCMJK"⟩,
  ⟨["dogr", "dogra"],
    .ofText "ecaYcI"⟩,
  ⟨["dsrt", "deseret"],
    .ofText "dumAdC"⟩,
  ⟨["dupl", "duployan"],
    .ofText "gmdSeDFNDJHKCE"⟩,
  ⟨["egyp", "egyptianhieroglyphs"],
    .ofText "eldGbqS"⟩,
  ⟨["elba", "elbasan"],
    .ofText "duvWbO"⟩,
  ⟨["elym", "elymaic"],
    .ofText "dyyYX"⟩,
  ⟨["ethi", "ethiopic"],
    .ofText "gvGcVBECHBBBECbPBECbHBECHBBBECPBcFBECcPCbGDbAjvAXJHBHBHBHBHBHBHBHbvkCGCGCGJHBHepyFHBEBCBP"⟩,
  ⟨["geor", "georgian"],
    .ofText "ghSbMBBFBCbRBEejWbRCDgeAbMBBFB"⟩,
  ⟨["glag", "glagolitic"],
    .ofText "qrGdSgizGHBRCHBCBF"⟩,
  ⟨["gong", "gunjalagondi"],
    .ofText "eebWGBCBbLBCBGHK"⟩,
  ⟨["gonm", "masaramgondi"],
    .ofText "edyEHBCBbSDBBCBJIK"⟩,
  ⟨["goth", "gothic"],
    .ofText "dueAbB"⟩,
  ⟨["gran", "grantha"],
    .ofText "eadSEBICCCWBHBCBFCJCCCDCBGBFHCHDF"⟩,
  ⟨["grek", "greek"],
    .ofLines [
    "bhWEBDCEBBEBBBBDBBBUBcLOQjnQFbYFEFdGBmIWCGCbMCGCIBBBBBBBbFCcBBPBOCGBTCDBJlJBcajEBbgnIdBRBdax",
    "RcS"]⟩,
  ⟨["gujr", "gujarati"],
    .ofText "dzLDBJBDBWBHBCBFCKBDBDCBPECMHH"⟩,
  ⟨["guru", "gurmukhi"],
    .ofText "duNDBGECCWBHBCBCBCCBBFECCDDBHEBBHR"⟩,
  ⟨["hang", "hangul"],
    .ofText "glKjWllECjXdQeJbFcNbFbtaNbDyTqnSMXEbXpaIbFDGCGCGCD"⟩,
  ⟨["hani", "han"],
    .ofText "rpWbABdLMiGbVBBBZJOEblCjtOcMbfbKbhsIoCCeCbsiICMCccoKclfCbGgdUGiOCinQOlbLepJuWcfYhhZFgfG"⟩,
  ⟨["hano", "hanunoo"],
    .ofText "itSV"⟩,
  ⟨["hatr", "hatran"],
    .ofText "dwiATBCFF"⟩,
  ⟨["hebr", "hebrew"],
    .ofText "ccVcDIbBEGdovWbABFBBBCBCBK"⟩,
  ⟨["hira", "hiragana"],
    .ofText "shDdIGDfpeVlBSBbDDymVB"⟩,
  ⟨["hluw", "anatolianhieroglyphs"],
    .ofText "essEwL"⟩,
  ⟨["hmng", "pahawhhmong"],
    .ofText "fhmEcSKKBHBVFT"⟩,
  ⟨["hmnp", "nyiakengpuachuehmong"],
    .ofText "haeAbTDOCKEC"⟩,
  ⟨["hung", "oldhungarian"],
    .ofText "dxrSbZNbZHG"⟩,
  ⟨["ital", "olditalic"],
    .ofText "ducEbKJD"⟩,
  ⟨["java", "javanese"],
    .ofText "cmeYdACKEC"⟩,
  ⟨["kali", "kayahli"],
    .ofText "cmaAbUBB"⟩,
  ⟨["kana", "katakana"],
    .ofText "skVdMCDjGQiAbVBdKczhEKBbTcouCEBHBCBBlBDbYBOE"⟩,
  ⟨["kawi"],
    .ofText "eerWRBbPDbC"⟩,
  ⟨["khar", "kharoshthi"],
    .ofText "dwtCEBCFIBDBbDCDEKHJ"⟩,
  ⟨["khmr", "khmer"],
    .ofText "ixKdQCKGKsSbG"⟩,
  ⟨["khoj", "khojki"],
    .ofText "dztWSBbV"⟩,
  ⟨["kits", "khitansmallscript"],
    .ofText "fjiIBkgXsC"⟩,
  ⟨["knda", "kannada"],
    .ofText "etCNBDBXBKBFCJBDBEHCGCBECKBD"⟩,
  ⟨["kthi", "kaithi"],
    .ofText "dzfCcPKB"⟩,
  ⟨["lana", "taitham"],
    .ofText "jxGcLBbDCLGKGO"⟩,
  ⟨["laoo", "lao"],
    .ofText "fmVCBBBFBYBBBXCFBBBHBKCE"⟩,
  ⟨["latn", "latin"],
    .ofLines [
    "cNbAGbAbVBPBFXBbFBrHbNFjxBbMGbXFEFNBcScNjWoFBNBQNfLCGBbBBRbPecTbGbulMdYDcMFCBBBFYObfKbRBJBEb",
    "edQHboKbAGbAdcFGBbQBJddnPbFGG"]⟩,
  ⟨["lepc", "lepcha"],
    .ofText "kpScEDPDD"⟩,
  ⟨["limb", "limbu"],
    .ofText "jmEbFBMEMEBDM"⟩,
  ⟨["lina", "lineara"],
    .ofText "dvfSlZJWKI"⟩,
  ⟨["linb", "linearb"],
    .ofText "dsyQMBbABTBCBPCObIeT"⟩,
  ⟨["lisu"],
    .ofText "ckkUbWbumAB"⟩,
  ⟨["lyci", "lycian"],
    .ofText "dtxGbD"⟩,
  ⟨["lydi", "lydian"],
    .ofText "dwkMbAFB"⟩,
  ⟨["mahj", "mahajani"],
    .ofText "dznCbN"⟩,
  ⟨["maka", "makasar"],
    .ofText "eeqQZ"⟩,
  ⟨["mand", "mandaic"],
    .ofText "ddGbCCB"⟩,
  ⟨["mani", "manichaean"],
    .ofText "dxaMbNEM"⟩,
  ⟨["marc", "marchen"],
    .ofText "edsQbGCWBO"⟩,
  ⟨["medf", "medefaidrin"],
    .ofText "fisEdN"⟩,
  ⟨["mend", "mendekikakui"],
    .ofText "hcuYhPCQ"⟩,
  ⟨["merc", "meroiticcursive"],
    .ofText "dwpKYEUCbU"⟩,
  ⟨["mero", "meroitichieroglyphs"],
    .ofText "dwoEbG"⟩,
  ⟨["mlym", "malayalam"],
    .ofText "eyANBDBbZBDBGEQCbA"⟩,
  ⟨["modi"],
    .ofText "ebhGcRLK"⟩,
  ⟨["mong", "mongolian"],
    .ofText "jcICCBBUGdLHbRdscBN"⟩,
  ⟨["mroo", "mro"],
    .ofText "fheUbFBKEC"⟩,
  ⟨["mtei", "meeteimayek"],
    .ofText "cmsMXhTbUCK"⟩,
  ⟨["mult", "multani"],
    .ofText "dzyUHBBBEBPBL"⟩,
  ⟨["mymr", "myanmar"],
    .ofText "gbOgEcgaYbFdTbG"⟩,
  ⟨["nagm", "nagmundari"],
    .ofText "hbpObQ"⟩,
  ⟨["nand", "nandinagari"],
    .ofText "ecqYICbUCL"⟩,
  ⟨["narb", "oldnortharabian"],
    .ofText "dwyAbG"⟩,
  ⟨["nbat", "nabataean"],
    .ofText "dweIbFIJ"⟩,
  ⟨["newa"],
    .ofText "eanOdOBF"⟩,
  ⟨["nkoo", "nko"],
    .ofText "cyIcHCD"⟩,
  ⟨["nshu", "nushu"],
    .ofText "fjiFByvMpG"⟩,
  ⟨["ogam", "ogham"],
    .ofText "inObD"⟩,
  ⟨["olck", "olchiki"],
    .ofText "ksUbW"⟩,
  ⟨["orkh", "oldturkic"],
    .ofText "dxmUcV"⟩,
  ⟨["orya", "oriya"],
    .ofText "eeJDBICCCWBHBCBFCJCCCDHDECBFCS"⟩,
  ⟨["osge", "osage"],
    .ofText "dusUbKEbK"⟩,
  ⟨["osma", "osmanya"],
    .ofText "duqYbECK"⟩,
  ⟨["ougr", "olduyghur"],
    .ofText "dyuQbA"⟩,
  ⟨["palm", "palmyrene"],
    .ofText "dwdCbG"⟩,
  ⟨["pauc", "paucinhau"],
    .ofText "edcAcF"⟩,
  ⟨["perm", "oldpermic"],
    .ofText "dufGbR"⟩,
  ⟨["phag", "phagspa"],
    .ofText "clsQcE"⟩,
  ⟨["phli", "inscriptionalpahlavi"],
    .ofText "dxgQTFI"⟩,
  ⟨["phlp", "psalterpahlavi"],
    .ofText "dxhWSHEMH"⟩,
  ⟨["phnx", "phoenician"],
    .ofText "dwjGbCDB"⟩,
  ⟨["plrd", "miao"],
    .ofText "fizOcXEcFHR"⟩,
  ⟨["prti", "inscriptionalparthian"],
    .ofText "dxfKWCI"⟩,
  ⟨["rjng", "rejang"],
    .ofText "cmbWbKLB"⟩,
  ⟨["rohg", "hanifirohingya"],
    .ofText "dxwQbOIK"⟩,
  ⟨["runr", "runic"],
    .ofText "ioUcXDL"⟩,
  ⟨["samr", "samaritan"],
    .ofText "daUbUCP"⟩,
  ⟨["sarb", "oldsoutharabian"],
    .ofText "dwwUbG"⟩,
  ⟨["saur", "saurashtra"],
    .ofText "clvCcSIM"⟩,
  ⟨["sgnw", "signwriting"],
    .ofText "gwtKzCPFBP"⟩,
  ⟨["shaw", "shavian"],
    .ofText "dupCbW"⟩,
  ⟨["shrd", "sharada"],
    .ofText "dzoYdS"⟩,
  ⟨["sidd", "siddham"],
    .ofText "ebcIcCCbM"⟩,
  ⟨["sind", "khudawadi"],
    .ofText "eaaQcHFK"⟩,
  ⟨["sinh", "sinhala"],
    .ofText "fcZDBSDYBJBBCHDBEGBBBIGKCDdulGU"⟩,
  ⟨["sogd", "sogdian"],
    .ofText "dysEbQ"⟩,
  ⟨["sogo", "oldsogdian"],
    .ofText "dyqIbO"⟩,
  ⟨["sora", "sorasompeng"],
    .ofText "dziEZHK"⟩,
  ⟨["soyo", "soyombo"],
    .ofText "ecxSdF"⟩,
  ⟨["sund", "sundanese"],
    .ofText "kkUcMjWI"⟩,
  ⟨["sylo", "sylotinagri"],
    .ofText "clqEbT"⟩,
  ⟨["syrc", "syriac"],
    .ofText "cqYOBcICDkML"⟩,
  ⟨["tagb", "tagbanwa"],
    .ofText "iwENBDBC"⟩,
  ⟨["takr", "takri"],
    .ofText "ebmEcGGK"⟩,
  ⟨["tale", "taile"],
    .ofText "jpGbECF"⟩,
  ⟨["talu", "newtailue"],
    .ofText "jrCbSEbAGLDC"⟩,
  ⟨["taml", "tamil"],
    .ofText "ejICBGDDBEDCBBBCDCDDDMEFDDBECBGBOVealHbYNB"⟩,
  ⟨["tang", "tangut"],
    .ofText "fjiEBbFjcAIbdOtSJ"⟩,
  ⟨["tavt", "taiviet"],
    .ofText "cmoUcPYF"⟩,
  ⟨["telu", "telugu"],
    .ofText "eoENBDBXBQCJBDBEHCBDCBCECKHJ"⟩,
  ⟨["tfng", "tifinagh"],
    .ofText "rcYcEHCOB"⟩,
  ⟨["tglg", "tagalog"],
    .ofText "isMWJB"⟩,
  ⟨["thaa", "thaana"],
    .ofText "cvWbY"⟩,
  ⟨["thai"],
    .ofText "fhXcGFbC"⟩,
  ⟨["tibt", "tibetan"],
    .ofText "frScUBbKEbNBbKBPBHEC"⟩,
  ⟨["tirh", "tirhuta"],
    .ofText "easMcUIK"⟩,
  ⟨["tnsa", "tangsa"],
    .ofText "fhgQdBBK"⟩,
  ⟨["toto"],
    .ofText "hatKbF"⟩,
  ⟨["ugar", "ugaritic"],
    .ofText "duhCbEBB"⟩,
  ⟨["vaii", "vai"],
    .ofText "ckmQlO"⟩,
  ⟨["vith", "vithkuqi"],
    .ofText "dvaELBPBHBCBLBPBHBC"⟩,
  ⟨["wara", "warangciti"],
    .ofText "echCdFMB"⟩,
  ⟨["wcho", "wancho"],
    .ofText "havGcGFB"⟩,
  ⟨["xpeo", "oldpersian"],
    .ofText "duiIbKEO"⟩,
  ⟨["xsux", "cuneiform"],
    .ofText "efbSbjMdYeHBFLhO"⟩,
  ⟨["yezi", "yezidi"],
    .ofText "dylKbQBDCC"⟩,
  ⟨["yiii", "yi"],
    .ofText "cipKbsVDcD"⟩,
  ⟨["zanb", "zanabazarsquare"],
    .ofText "ecuQcU"⟩,
  ⟨["zinh", "inherited", "qaai"],
    .ofLines [
    "bdOeIkRCrKLbABbcIEgoXbFtTDBNBHEBGBDChQcMuEChMbHftXEeDCczuJQQOblNBiSBgfABctcUbUCXuYDRICHbEEbt",
    "lhIjG"]⟩,
  ⟨["zyyy", "common"],
    .ofLines [
    "AcNbAGbAbVBPBFXBbFBrHbNFFCUeMBJBGBBByNBGBOBDBbGBgABtWBeZCbvTBpPElEBcgLDcTChVCBBbvHBNBHEBGBDC",
    "BbdTMCdJBLDLBPRbHcLbMBDCGBbBBRbPDEzNZLVbjSjWyECbGBeBtSdQpMMEFBBBZPIEEdNCDBdMCfRQbGbKcIcMbFdD",
    "bVBdKgMjtOcMbhsIbIdYDgJKjKBgEBpFBOCbezQCiAKWbJBTBEfRBBbGbAGbALKBbTCcMHBHKFjYDEbTDJdCNbZbTiUb",
    "BcshWEhbWeMcIjMKbNCcKDRICHbEEcJiFUMUMdJJZfFdHBcTBCCBCCCEBMBBBHBcNBECIBHBbCBEBFBBDHBnCClGCbYh",
    "tHcQcYcJbbEbSEdWMPCPBPBbLKgScEbABCNbSEJHCOGfYblWERDNDePEdRGMEBPMEcEIKGbOIbECCdAnCMOCNDJHbUBH",
    "IOEJHJHfRBcDbLKbsuxBBbEdS"]⟩]

end StreamVerdict.Unicode
