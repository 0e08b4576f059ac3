import StreamVerdict.Unicode.RangeTable

/-!
# Script extensions

The characters that a text in a given script may use, under the script's code and name.
-/

namespace StreamVerdict.Unicode

/-- The script extensions. -/
def scriptExtensions : List NamedTable := [
  ⟨["adlm", "adlam"],
    .ofText "ciHBbGBhavFcYEKEC"⟩,
  ⟨["aghb", "caucasianalbanian"],
    .ofText "duxScALB"⟩,
  ⟨["ahom"],
    .ofText "ebrCbBCPEX"⟩,
  ⟨["arab", "arabic"],
    .ofLines [
    "chCFBiHBbIdCbWjGbFBCGcWBbDdntWeLQrDCcCHBbGQeIFBfFbmHbCeiEbFeWDdglSEBbBBCBBCBBKBEBBBBGBEBBBBB",
    "BDBCBBCBBBBBBBBBBCBBCEBHBEBEBBBKBRFDBFBRcAC"]⟩,
  ⟨["armi", "imperialaramaic"],
    .ofText "dwbWWBJ"⟩,
  ⟨["armn", "armenian"],
    .ofText "bzDbMCbYCDdozJF"⟩,
  ⟨["avst", "avestan"],
    .ofText "dxcYcCDH"⟩,
  ⟨["bali", "balinese"],
    .ofText "kfWcZDbV"⟩,
  ⟨["bamu", "bamum"],
    .ofText "clcQdKcvcQvX"⟩,
  ⟨["bass", "bassavah"],
    .ofText "fhkIbECG"⟩,
  ⟨["batk", "batak"],
    .ofText "knGcAIE"⟩,
  ⟨["beng", "bengali"],
    .ofText "dnTCRCbAEBICCCWBHBBDECJCCCEIBECBFCZhdHBBBCCBBIBIBCBEBCDcbaFB"⟩,
  ⟨["bhks", "bhaiksuki"],
    .ofText "edoIJBbTBOKbD"⟩,
  ⟨["bopo", "bopomofo"],
    .ofText "bcSCrbXDEKBNKECBGBhNBJbReIbGczlTCkWF"⟩,
  ⟨["brah", "brahmi"],
    .ofText "dzaEdAEbKJB"⟩,
  ⟨["brai", "braille"],
    .ofText "pdWjW"⟩,
  ⟨["bugi", "buginese"],
    .ofText "jwAbCCCcckTB"⟩,
  ⟨["buhd", "buhid"],
    .ofText "iuNCJU"⟩,
  ⟨["cakm", "chakma"],
    .ofText "dtMKckEKdtfQcBBS"⟩,
  ⟨["cans", "canadianaboriginal"],
    .ofText "hoYyQvOcSdtpQQ"⟩,
  ⟨["cari", "carian"],
    .ofText "dtyMbX"⟩,
  ⟨["cham"],
    .ofText "cmjWcDJOCKCE"⟩,
  ⟨["cher", "cherokee"],
    .ofText "hlGdICGcfjEdC"⟩,
  ⟨["chrs", "chorasmian"],
    .ofText "dyxCbC"⟩,
  ⟨["copt", "coptic", "qaac"],
    .ofText "bmGOpjKeMFHdczWbC"⟩,
  ⟨["cpmn", "cyprominoan"],
    .ofText "dtiMCrqKdV"⟩,
  ⟨["cprt", "cypriot"],
    .ofText "dtiMDEbTDJcoMGCBBbSBCDBCB"⟩,
  ⟨["cyrl", "cyrillic"],
    .ofText "bnKlSivOJgGBcYBeXBgaPbGcPBbtlKdSbheCCdhpGcKbHB"⟩,
  ⟨["deva", "devanagari"],
    .ofText "dkQdFCbRhiEbNBCbnABbzfRKgKbGbreMK"⟩,
  ⟨["diak", "divesakuru"],
    .ofText "eckUHCBCIBCBbEBCCMJK"⟩,
  ⟨["dogr", "dogra"],
    .ofText "doMMcidCKbqiOcI"⟩,
  ⟨["dsrt", "deseret"],
    .ofText "dumAdC"⟩,
  ⟨["dupl", "duployan"],
    .ofText "gmdSeDFNDJHKCI"⟩,
  ⟨["egyp", "egyptianhieroglyphs"],
    .ofText "eldGbqS"⟩,
  ⟨["elba", "elbasan"],
    .ofText "duvWbO"⟩,
  ⟨["elym", "elymaic"],
    .ofText "dyyYX"⟩,
  ⟨["ethi", "ethiopic"],
    .ofText "gvGcVBECHBBBECbPBECbHBECHBBBECPBcFBECcPCbGDbAjvAXJHBHBHBHBHBHBHBHbvkCGCGCGJHBHepyFHBEBCBP"⟩,
  ⟨["geor", "georgian"],
    .ofText "ghSbMBBFBCbWejWbRCDgeAbMBBFB"⟩,
  ⟨["glag", "glagolitic"],
    .ofText "bsMBCBoyQdSsPBbtnFBeotKHBRCHBCBF"⟩,
  ⟨["gong", "gunjalagondi"],
    .ofText "doMCeanIGBCBbLBCBGHK"⟩,
  ⟨["gonm", "masaramgondi"],
    .ofText "doMCeajQHBCBbSDBBCBJIK"⟩,
  ⟨["goth", "gothic"],
    .ofText "dueAbB"⟩,
  ⟨["gran", "grantha"],
    .ofText "dnTCRCyQOgkABBCbEDDCbnABdnrJEBICCCWBHBCBFBKCCCDCBGBFHCHDFerRCBB"⟩,
  ⟨["grek", "greek"],
    .ofLines [
    "bgCBCBbQEBDCEBBEBBBBDBBBUBcLOQjnQFbYFEFdGDmGWCGCbMCGCIBBBBBBBbFCcBBPBOCGBTCDBJlJBcajEBbgnIdB",
    "RBdaxRcS"]⟩,
  ⟨["gujr", "gujarati"],
    .ofText "dnTCRCkXDBJBDBWBHBCBFCKBDBDCBPECMHHchnSK"⟩,
  ⟨["guru", "gurmukhi"],
    .ofText "dnTCRCfZDBGECCWBHBCBCBCCBBFECCDDBHEBBHRchsZK"⟩,
  ⟨["hang", "hangul"],
    .ofText "glKjWljLDEKBNODGBhNBcBdQeJbFcNbFbtaNbDyTqnSMXEbXomZCkWFcGbFDGCGCGCD"⟩,
  ⟨["hani", "han"],
    .ofLines [
    "rpWbABdLMiGbRDBNBNBNCBGJhFBfSQbGbKcIbOcEbXPMbZBdKZKFdSbFBjtOcMbfbKcqYIbfbCoCCeCbhRCkWFbqpOCM",
    "CblrASlrYCfeSclfCbGgdUGiOCinQOlbLepJuWcfYhhZFgfG"]⟩,
  ⟨["hano", "hanunoo"],
    .ofText "itSX"⟩,
  ⟨["hatr", "hatran"],
    .ofText "dwiATBCFF"⟩,
  ⟨["hebr", "hebrew"],
    .ofText "ccVcDIbBEGdovWbABFBBBCBCBK"⟩,
  ⟨["hira", "hiragana"],
    .ofText "seRDEKBNQGBBECDdICIdMCcztGCkWFKBbTCcouRlBSBbDDymVB"⟩,
  ⟨["hluw", "anatolianhieroglyphs"],
    .ofText "essEwL"⟩,
  ⟨["hmng", "pahawhhmong"],
    .ofText "fhmEcSKKBHBVFT"⟩,
  ⟨["hmnp", "nyiakengpuachuehmong"],
    .ofText "haeAbTDOCKEC"⟩,
  ⟨["hung", "oldhungarian"],
    .ofText "dxrSbZNbZHG"⟩,
  ⟨["ital", "olditalic"],
    .ofText "ducEbKJD"⟩,
  ⟨["java", "javanese"],
    .ofText "cmeYdABLEC"⟩,
  ⟨["kali", "kayahli"],
    .ofText "cmaAbW"⟩,
  ⟨["kana", "katakana"],
    .ofText "seRDEKBNQGBBECdNEDdSjGQiAbVBdKcywBCkWcLcouAEBHBCBBlBDbYBOE"⟩,
  ⟨["kawi"],
    .ofText "eerWRBbPDbC"⟩,
  ⟨["khar", "kharoshthi"],
    .ofText "dwtCEBCFIBDBbDCDEKHJ"⟩,
  ⟨["khmr", "khmer"],
    .ofText "ixKdQCKGKsSbG"⟩,
  ⟨["khoj", "khojki"],
    .ofText "edIKchoIKbobMSBbV"⟩,
  ⟨["kits", "khitansmallscript"],
    .ofText "fjiIBkgXsC"⟩,
  ⟨["knda", "kannada"],
    .ofText "dnTCRCbeONBDBXBKBFCJBDBEHCGCBECKBDgaEBBBHBXBBBcasXG"⟩,
  ⟨["kthi", "kaithi"],
    .ofText "doOKcidCKbnmScPKB"⟩,
  ⟨["lana", "taitham"],
    .ofText "jxGcLBbDCLGKGO"⟩,
  ⟨["laoo", "lao"],
    .ofText "fmVCBBBFBYBBBXCFBBBHBKCE"⟩,
  ⟨["latn", "latin"],
    .ofLines [
    "cNbAGbAbVBPBFXBbFBrHbNFeWNkRCbvECcxKBeoIbMGbXFEFNBcScNjWlRBcNBNBQNdFBcFCGBbBBRbPecTbGbukEIbA",
    "dYDcMFCBBBFYOlQBtTbRBJBEbedQHboKbAGbAdcFGBbQBJddnPbFGG"]⟩,
  ⟨["lepc", "lepcha"],
    .ofText "kpScEDPDD"⟩,
  ⟨["limb", "limbu"],
    .ofText "doNBfxQbFBMEMEBDM"⟩,
  ⟨["lina", "lineara"],
    .ofText "dtiTbTbvGlZJWKI"⟩,
  ⟨["linb", "linearb"],
    .ofText "dsyQMBbABTBCBPCObIeTFDEbTDJ"⟩,
  ⟨["lisu"],
    .ofText "ckkUbWbumAB"⟩,
  ⟨["lyci", "lycian"],
    .ofText "dtxGbD"⟩,
  ⟨["lydi", "lydian"],
    .ofText "dwkMbAFB"⟩,
  ⟨["mahj", "mahajani"],
    .ofText "doMMcidCKbnuSbN"⟩,
  ⟨["maka", "makasar"],
    .ofText "eeqQZ"⟩,
  ⟨["mand", "mandaic"],
    .ofText "cjOBtRbCCB"⟩,
  ⟨["mani", "manichaean"],
    .ofText "cjOBduqXbNEM"⟩,
  ⟨["marc", "marchen"],
    .ofText "edsQbGCWBO"⟩,
  ⟨["medf", "medefaidrin"],
    .ofText "fisEdN"⟩,
  ⟨["mend", "mendekikakui"],
    .ofText "hcuYhPCQ"⟩,
  ⟨["merc", "meroiticcursive"],
    .ofText "dwpKYEUCbU"⟩,
  ⟨["mero", "meroitichieroglyphs"],
    .ofText "dwoEbG"⟩,
  ⟨["mlym", "malayalam"],
    .ofText "dnTCRCbjMNBDBbZBDBGEQCbAfvEBcatXD"⟩,
  ⟨["modi"],
    .ofText "clsAKbpoWcRLK"⟩,
  ⟨["mong", "mongolian"],
    .ofText "jcIbAGdLHbRcwABdpgAN"⟩,
  ⟨["mroo", "mro"],
    .ofText "fheUbFBKEC"⟩,
  ⟨["mtei", "meeteimayek"],
    .ofText "cmsMXhTbUCK"⟩,
  ⟨["mult", "multani"],
    .ofText "dyKKdwaAHBBBEBPBL"⟩,
  ⟨["mymr", "myanmar"],
    .ofText "gbOgEcfuCBgVbFdTbG"⟩,
  ⟨["nagm", "nagmundari"],
    .ofText "hbpObQ"⟩,
  ⟨["nand", "nandinagari"],
    .ofText "doMCbiMKgbHBIBHBcasRGbqySICbUCL"⟩,
  ⟨["narb", "oldnortharabian"],
    .ofText "dwyAbG"⟩,
  ⟨["nbat", "nabataean"],
    .ofText "dweIbFIJ"⟩,
  ⟨["newa"],
    .ofText "eanOdOBF"⟩,
  ⟨["nkoo", "nko"],
    .ofText "chOBOBDBqAcHCDdowSC"⟩,
  ⟨["nshu", "nushu"],
    .ofText "fjiFByvMpG"⟩,
  ⟨["ogam", "ogham"],
    .ofText "inObD"⟩,
  ⟨["olck", "olchiki"],
    .ofText "ksUbW"⟩,
  ⟨["orkh", "oldturkic"],
    .ofText "dxmUcV"⟩,
  ⟨["orya", "oriya"],
    .ofText "dnTCRCpVDBICCCWBHBCBFCJCCCDHDECBFCSgpEBXB"⟩,
  ⟨["osge", "osage"],
    .ofText "dusUbKEbK"⟩,
  ⟨["osma", "osmanya"],
    .ofText "duqYbECK"⟩,
  ⟨["ougr", "olduyghur"],
    .ofText "cjOBdusVBbsFbA"⟩,
  ⟨["palm", "palmyrene"],
    .ofText "dwdCbG"⟩,
  ⟨["pauc", "paucinhau"],
    .ofText "edcAcF"⟩,
  ⟨["perm", "oldpermic"],
    .ofText "bsLBdsmUbR"⟩,
  ⟨["phag", "phagspa"],
    .ofText "jcKCBBccqCcE"⟩,
  ⟨["phli", "inscriptionalpahlavi"],
    .ofText "dxgQTFI"⟩,
  ⟨["phlp", "psalterpahlavi"],
    .ofText "cjOBduyHSHEMH"⟩,
  ⟨["phnx", "phoenician"],
    .ofText "dwjGbCDB"⟩,
  ⟨["plrd", "miao"],
    .ofText "fizOcXEcFHR"⟩,
  ⟨["prti", "inscriptionalparthian"],
    .ofText "dxfKWCI"⟩,
  ⟨["rjng", "rejang"],
    .ofText "cmbWbKLB"⟩,
  ⟨["rohg", "hanifirohingya"],
    .ofText "chOBOBDBbGBfRBdvhJbOIK"⟩,
  ⟨["runr", "runic"],
    .ofText "ioUcXDL"⟩,
  ⟨["samr", "samaritan"],
    .ofText "daUbUCP"⟩,
  ⟨["sarb", "oldsoutharabian"],
    .ofText "dwwUbG"⟩,
  ⟨["saur", "saurashtra"],
    .ofText "clvCcSIM"⟩,
  ⟨["sgnw", "signwriting"],
    .ofText "gwtKzCPFBP"⟩,
  ⟨["shaw", "shavian"],
    .ofText "dupCbW"⟩,
  ⟨["shrd", "sharada"],
    .ofText "dnTBhkFBBBCCCBdoqPdS"⟩,
  ⟨["sidd", "siddham"],
    .ofText "ebcIcCCbM"⟩,
  ⟨["sind", "khudawadi"],
    .ofText "doMCcidMKboiGcHFK"⟩,
  ⟨["sinh", "sinhala"],
    .ofText "doMCboLDBSDYBJBBCHDBEGBBBIGKCDdulGU"⟩,
  ⟨["sogd", "sogdian"],
    .ofText "cjOBdwiPbQ"⟩,
  ⟨["sogo", "oldsogdian"],
    .ofText "dyqIbO"⟩,
  ⟨["sora", "sorasompeng"],
    .ofText "dziEZHK"⟩,
  ⟨["soyo", "soyombo"],
    .ofText "ecxSdF"⟩,
  ⟨["sund", "sundanese"],
    .ofText "kkUcMjWI"⟩,
  ⟨["sylo", "sylotinagri"],
    .ofText "doMCeYKchwIbT"⟩,
  ⟨["syrc", "syriac"],
    .ofText "chOBOCCBbGBKLbABfNOBcICDkMLieFBBB"⟩,
  ⟨["tagb", "tagbanwa"],
    .ofText "iuNCbPNBDBC"⟩,
  ⟨["takr", "takri"],
    .ofText "doMCcidMKbptUcGGK"⟩,
  ⟨["tale", "taile"],
    .ofText "geAKdkWbECF"⟩,
  ⟨["talu", "newtailue"],
    .ofText "jrCbSEbAGLDC"⟩,
  ⟨["taml", "tamil"],
    .ofText "dnTCRCuUCBGDDBEDCBBBCDCDDDMEFDDBECBGBOVgkDBcbbKBboeFBBBcDCetFbYNB"⟩,
  ⟨["tang", "tangut"],
    .ofText "fjiEBbFjcAIbdOtSJ"⟩,
  ⟨["tavt", "taiviet"],
    .ofText "cmoUcPYF"⟩,
  ⟨["telu", "telugu"],
    .ofText "dnTCRCzQNBDBXBQCJBDBEHCBDCBCECKHJgfABXB"⟩,
  ⟨["tfng", "tifinagh"],
    .ofText "rcYcEHCOB"⟩,
  ⟨["tglg", "tagalog"],
    .ofText "isMWJBVC"⟩,
  ⟨["thaa", "thaana"],
    .ofText "chOBOCCBcMKkSbYdpgQBKB"⟩,
  ⟨["thai"],
    .ofText "fhXcGFbC"⟩,
  ⟨["tibt", "tibetan"],
    .ofText "frScUBbKEbNBbKBPBHEC"⟩,
  ⟨["tirh", "tirhuta"],
    .ofText "dnTCRChkMBcasZKbpaCcUIK"⟩,
  ⟨["tnsa", "tangsa"],
    .ofText "fhgQdBBK"⟩,
  ⟨["toto"],
    .ofText "hatKbF"⟩,
  ⟨["ugar", "ugaritic"],
    .ofText "duhCbEBB"⟩,
  ⟨["vaii", "vai"],
    .ofText "ckmQlO"⟩,
  ⟨["vith", "vithkuqi"],
    .ofText "dvaELBPBHBCBLBPBHBC"⟩,
  ⟨["wara", "warangciti"],
    .ofText "echCdFMB"⟩,
  ⟨["wcho", "wancho"],
    .ofText "havGcGFB"⟩,
  ⟨["xpeo", "oldpersian"],
    .ofText "duiIbKEO"⟩,
  ⟨["xsux", "cuneiform"],
    .ofText "efbSbjMdYeHBFLhO"⟩,
  ⟨["yezi", "yezidi"],
    .ofText "chOBOBDBcMKdwaGbQBDCC"⟩,
  ⟨["yiii", "yi"],
    .ofText "seRCFKCIiPBbqbCbsVDcDbiiCF"⟩,
  ⟨["zanb", "zanabazarsquare"],
    .ofText "ecuQcU"⟩,
  ⟨["zinh", "inherited", "qaai"],
    .ofText "bdOcOBCBbDcgMCgoXbFbdBcCBBBFuEChMbGdfsQQQOblNBczqObUCXuYDRICHbEEbtlhIjG"⟩,
  ⟨["zyyy", "common"],
    .ofLines [
    "AcNbAGbAbVBPBFXBbFBrHbNFFCUeMBJBGBBByNBiHBtWBcaUBpPEcrQDdlIMCbHBcBBLDLBPRbHcLbMBDCGBbBBRbPDE",
    "zNZLVbjSjWyECbGBeBtScPBbApMMEBDBNBNBVBuJYbFBbXPMEgFKFdSbFBjtOcMbhsQbAdYDblOBOCbfhSKWVCMBTBEf",
    "RBBbGbAGbAGeXHBHKFpMNbZbTcztReMcIjMKbNCcKDRICHbEEcJiFUMUMdJbBHfFdHBcTBCCBCCCEBMBBBHBcNBECIBH",
    "BbCBEBFBBDHBnCClGCbYhtHcQcYcJbbEbSEdWMPCPBPBbLKgScEbABCNbSEJXGfYblWERDNDePEdRGMEBPMEcEIKGbOI",
    "bECCdAnCMOCNDJHbUBHIOEJHJHfRBcDbLKbsuxBBbEdS"]⟩]

end StreamVerdict.Unicode
