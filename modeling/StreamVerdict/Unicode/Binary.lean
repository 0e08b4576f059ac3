import StreamVerdict.Unicode.RangeTable

/-!
# Yes-or-no properties

Every character property that is either true or false of a character.
-/

namespace StreamVerdict.Unicode

/-- The yes-or-no properties. -/
def binaryProperties : List NamedTable := [
  ⟨["ahex", "asciihexdigit"],
    .ofText "bWKHGbAG"⟩,
  ⟨["alpha", "alphabetic"],
    .ofLines [
    "cNbAGbAbVBKBEBFXBbFBrQEMOFHBBBdIBbQFBCCEBBGBBDBBBUBdFBfJIgKBbMCBGbPbNOBBBCBCBBIbBEEbDLFcEBHO",
    "dYBIEIEDKDCBQbWNdXYbHJCEBFYCTTZHLFYBGRbQKMDHGcYBQBDEPNTBICCCWBHBBDEDICCCCBBIBECBFMCKBEDBGECC",
    "WBHBCBCBCEFECCCEBHEBBRGLDBJBDBWBHBCBFDJBDBCDBPEVEEDBICCCWBHBCBFDICCCCJCECBFNBQCBGDDBEDCBBBCD",
    "CDDDMEFDDBDDBGBbONBDBXBQDIBDBDICBDCBCEbCEBIBDBXBKBFDIBDBDICGCBENDMNBDBbPCIBDBDBBFEHFWGBDBSDY",
    "BJBBCHIGBBBISCNcGFHGBbZCBBBFBYBBBTBDCFBBGBOEbGBcLIBbKETEQBbKcPcDBBCFQcMKECbMBBFBCbRBmVBECHBB",
    "BECbPBECbHBECHBBBECPBcFBECcPbLQQdICGDxWCRBbAFcXDLHULVMUMNBDBCMcACTOBEBcPdLHbRFcSKbFBMEJXbECF",
    "LbSEbAcCbCEcLCUbYBXCLDbXcABPBIbZbQCEKbSBLOcDWDKbKCJHbRCDbPEBGBCDBFhKbNOLkSCGCbMCGCIBBBBBBBbF",
    "CcBBHBBDDBHDECGENFDBHeMBNBQNdXBEBCKBBDFGBBBBBBEBLCEFFEBRbPbfHcAcrUiVGEDCMbMBBFBCcEHBQXJHBHBH",
    "BHBHBHBHBHBbGbVBsBDZJHFCFEdIGDBdMBEFbRBdQRbGbWQtSjtOcMbguFcPbUCkJDQKCUbVFIDeJbNJCdZCcMFCBBBF",
    "YUBbHYcAMcQBBbSGDBBDKbHFbJNbDDbZBMPBQQKFBcDJOSXDcRBBBBYDCQCELGCGCGJHBHBbRBOGeTVqnSMXEbXmnCoC",
    "CeCbMHMFFMBNBFBBBCBCBeEbHnZScMCcCbOMeMFBfFbKbAGbALdLDGCGCGCDbJMBbABTBCBPCObIeTcRcBkHbDDbXbVb",
    "GNbEFbRFbECbKEIBFbQgCSbKEbKEbOIcAMLBPBHBCBLBPBHBCcPlZJWKIYGBbQBJcRGCBBbSBCDBCXKXJbFcNTBCKWKb",
    "AcScEGCcMEBCFIBDBbDbQbDDbDbJIBbCbBcCKWKTNSeGcVcDbZNbZNbOnGbQBCDCdAbDKBIWbQSbUVbBXJcSbRFKcFJB",
    "NZXbZREIbJDBJcMBEJCKBBBbJSBbICBGEcKHBBBEBPBKHcFXEBICCCWBHBCBFDICCCCDBGBFHgAcOBDBEUDbEcOCCBBh",
    "CcCCHZGbIcLBBDBcHcCCBcTbBCOVHhDcFdZcMbFICBCIBCBbEBCCCCEdPICbUCGBBBCbBbZCKRcUFBScVkDJBbTBHBBb",
    "XbECWBOcVHBCBbSDBBCBDBBCCYGBCBbLBCBEBBmPXJRBbPDDeHBdBbjMdYeHRhOdxKdTPbpGRGfyVwLmuBvXHbFRdBRb",
    "ESbWQEbFVFTbaMcMeYcXEcFHRcMCBBMCOjcAIbvQbQJnfREBHBCBlFPBbDDCBOEIpGdkUeDFNDJHKEBiwFdHBcTBCCBC",
    "CCEBMBBBHBcNBECIBHBbCBEBFBBDHBnCCZBZBbFBZBbFBZBbFBZBbFBZBIcsYbFGGiFHBRCHBCBFFcKbHBeIbTKHQBmJ",
    "bESbSsQbCbdCHBEBCBPBhPcHcQDBDBbuIEBbBBCBBCBBKBEBBBBGBEBBBBBBDBCBBCBBBBBBBBBBCBBCEBHBEBEBBBKB",
    "RFDBFBRyEbAGbAGbAfmKclfCbGgdUGiOCinQOlbLepJuWcfYhhZFgfG"]⟩,
  ⟨["bidic", "bidicontrol"],
    .ofText "ciEBjvLCbAFcDE"⟩,
  ⟨["bidim", "bidimirrored"],
    .ofLines [
    "bOCSBBBbCBBBbDBBBbTBPBfmSEcuNCdqQCKCcCCOCgVBhKEDGDBDCDEBEBBBBEJFBBSFEJCBBBICbFCEFBJCCTFCJFCC",
    "EYCQIEUCHCbpTOcWBCEBCBDFEFDDOpNWCGBOIBHGDBEFBCCFEBBDCCKGCCMTBECBBBCBBEFCGDYCLCEEBCCCEbRCIBbO",
    "FBBBDFFDEBDFBBjWBtVEDCBCOCCKbRIqLKCIdacRGFCgGCSBBBbCBBBbDBBBBCBCddpNBcFBcFBcFBcFB"]⟩,
  ⟨["ci", "caseignorable"],
    .ofLines [
    "bNBGBLBbJBBBcTBEBBBEBCCtJhKECEBJCBBjRHhZBFBbXbTBBBCBCBBbSBLGKLBBbJBKVQBdXIBKBEbHBBBbEbBdNLcG",
    "LEBCBYYbRDbSBHCGIbPcGcDBBBEIEBDHKCNBPBcGBEEIBUCbABCCcFBECECCDDBbECDBLCcFBEFBCEBUCWGBBcGBCBBE",
    "IBHCLCbEBcJBMBbYBDBcDBBDFDBEHCLCbDBcGBCBGBFCUCbCCcFCEEIBUCbDBcUBHDBBdMBCHLJdUBCJJBBHcVCbBBBB",
    "BBcDOBFBCFLBbKJBdYEBGBCCCZCEDQENBCCGBPBdQBxKDbkKDbDCbECbECcMCBHIBCLDBFBbTFbZBcNCbIBeODECJBGD",
    "iLCCBcGBBHBBBBCIGKCBbNBIbFbXEbWBBFBBFBbOJMCbGECCBDcEBBCDBBDcGICCcMGdEDBNBHEBGBDCbYcLNBbIdXrD",
    "BBDLDNDNDNCMFICKBCBCFbXFBKBBNBQNbZbHejRCeJDeVBPBdSbGbVBsBBbKEDFFBdPGdPDbqbUBbwCGkKBdUEBKBBbC",
    "EdCCObIdABXDdZDDCIBDBEBZCFBfVCbASNBbMIZLbUDbWBCECCRBVCcOGCCCCMBIBbJBLBbZBBDCCFCBBbBBOCFCBBdW",
    "FJDeRBCBEBbdzSBfRRwBQDBMQbIBCBgNBHBGBLBbJBBBbVBbTCcPBVDtTBiSBfTFbnPGBbQBJwKDBCFEbODEBgJCwBEo",
    "XCdCDcSLbXEeTBcCPbPBCCKDbXECCCBEBKBbYDbKFBIcKBMCcAJKECBdRDCBBCGBCBgBBDIVCcFCDBbLHDFhNICDBBXB",
    "dGGBBECBCjEEGCBCbBCdHICBBCeCBBBCGBBdXDCEBFjZJBCjWCBBEBfOECCEBbGKbOGCEIBJGCDbUNBCpQHBGBBdEWCH",
    "BCBCeSGDBBCBHBBcUCDBBBnJCLCcAFFBBBhyBRGPurQFcHHJEbnVBcLRcMCBCygPEBHBCeuGCBEgyUbUCXuYDJQCHbEE",
    "fSDcyDcDEbYIBOBWFBPcaIHBRCHBCBFFcKbHBgEOoEBcJEtNFbmEHeFIebFFbsxxPBbEdSeYjG"]⟩,
  ⟨["cased"],
    .ofLines [
    "cNbAGbAbVBKBEBFXBbFBhNBEEiABbKHCbEFdSBbQECCCEBBGBBDBBBUBdFBfJIgKBbMJbPefFbMBBFBCbRBEzWdICGdf",
    "UJHbRCDcMhKcMkSCGCbMCGCIBBBBBBBbFCcBBHBBDDBHDECGENFDBHeMBNBQNdXBEBCKBBDFGBBBBBBEBGEBCEFFEBRb",
    "GDCbfLcAcrUiVGEDCMbMBBFBbtwCbUSbEfCdYDEBcHFCBBBFYFBDbfPbRBOGdCbeaIHMFbnTbAGbAbtTdCdSbKEbKeML",
    "BPBHBCBLBPBHBCrJBCDBbQBJbuZbZNbZekZcMbgiQcMbmlKdHBcTBCCBCCCEBMBBBHBcNBECIBHBbCBEBFBBDHBnCCZB",
    "ZBbFBZBbFBZBbFBZBbFBZBIcsYKBUGGkBcKdgKcQdaAbAGbAGbA"]⟩,
  ⟨["cwcf", "changeswhencasefolded"],
    .ofLines [
    "cNbAdMBKXBIbGBBBBBBBBBBBBBBBBBBBBBBBBBBBBBBBBBBBBBBBBBBBBBBBBBBBBBBBCBBBBBBBBBBBBBBBBCBBBBBB",
    "BBBBBBBBBBBBBBBBBBBBBBBBBBBBBBBBBBBBBBBCBBBBBBBCBBBCBDCEBCBDDCBCBBBBBCBBCBBCBDBBBCDBHCBCBCBB",
    "BBBBBBBBBBBBBBCBBBBBBBBBBBBBBBBBCCBBBDBBBBBBBBBBBBBBBBBBBBBBBBBBBBBBBBBBBBBBBBBBBBBBBBBBBBBB",
    "BBBBHCBCCBBEBBBBBBBBjMBbQBBBDBIBGBBDBBBCBRBJWBMDDCBBBBBBBBBBBBBBBBBBBBBBBBBCCCBBBCCbZbWBBBBB",
    "BBBBBBBBBBBBBBBBBBBBBBBBBBBBJBBBBBBBBBBBBBBBBBBBBBBBBBBBBBBBBBBBBBBBBBBBBBBBBBBBBBBCBBBBBBBB",
    "BBBBCBBBBBBBBBBBBBBBBBBBBBBBBBBBBBBBBBBBBBBBBBBBBBBBBBBBBBBBBBBBBBBBBBBBBBBBBBBBBBBBBBBBBBBB",
    "BBBBBBBBCbMbWBefGbMBBFBbfEGdfUJHbRCDmIBBBBBBBBBBBBBBBBBBBBBBBBBBBBBBBBBBBBBBBBBBBBBBBBBBBBBB",
    "BBBBBBBBBBBBBBBBBBBBBBBBBBBBBBBBBBBBBBBBBBBBBBBBBBBBBBBBBBBBBBBBBBBBBBBBBBBBBBBBBBBBBBBBBBBB",
    "BBBFCCBBBBBBBBBBBBBBBBBBBBBBBBBBBBBBBBBBBBBBBBBBBBBBBBBBBBBBBBBBBBBBBBBBBBBBBBBBBBBBBBBBBBBB",
    "BBBBBBBBBBBJIIGKIIIIGLBBBBBBBIIQbWCDCGFDCGLEMFFDCGlLBDCGBbTQTBbfMbAcsUbWbWBBDCBBBBBBEBBCBIDB",
    "BBBBBBBBBBBBBBBBBBBBBBBBBBBBBBBBBBBBBBBBBBBBBBBBBBBBBBBBBBBBBBBBBBBBBBBBBBBBBBBBBBBBBBBBBBBB",
    "BBBBBIBBBEBbtyJBBBBBBBBBBBBBBBBBBBBBBBBBBBBBBBBBBBBBBBBBBBBBTBBBBBBBBBBBBBBBBBBBBBBBBBBBfFBB",
    "BBBBBBBBBBBDBBBBBBBBBBBBBBBBBBBBBBBBBBBBBBBBBBBBBBBBBBBBBBBBBBBBBBBBBBBBBKBBBBCBBBBBBBBEBBBC",
    "BBBDBBBBBBBBBBBBBBBBBBBBFBFBBBBBBBBBBBBBBBEBBGBFBBBbCBbiGdCbeaIHMFbnTbAbuZbOfGbKgALBPBHBCcqC",
    "bZenLbGbgjWbGbulKbI"]⟩,
  ⟨["cwcm", "changeswhencasemapped"],
    .ofLines [
    "cNbAGbAcGBKXBbFBcMBdGBNBOCOCCBBEdPBSGbBBCBBBCDCBBBCBFCBBCCBHBCBBCDGFBKCgKBbQECCDDBBGBBDBBBUB",
    "bVDbHBFBfDIgKBbMKbNefGbMBBFBCbRCDzWdICGdfUJHbRCDhDBDBQBeJgACBBeOCGCbMCGCIBBBBBBBbFCcBBHBBDDB",
    "HDECGENFDBHlLBDCGBbBBRbGDCbfLcAcrUeJBCBCHdYHEDCMbMBBFBbtwCbUSbCfEOCcKJPDDCFBZBbBFCEEbBCbhCBb",
    "CdCbeaIHMFbnTbAGbAbtTdCdSbKEbKeMLBPBHBCBLBPBHBCcoPbZNbZekZcMbgiQcMbukEcQ"]⟩,
  ⟨["cwl", "changeswhenlowercased"],
    .ofLines [
    "cNbAdXXBHbHBBBBBBBBBBBBBBBBBBBBBBBBBBBBBBBBBBBBBBBBBBBBBBBBBBBBBBBCBBBBBBBBBBBBBBBCBBBBBBBBB",
    "BBBBBBBBBBBBBBBBBBBBBBBBBBBBBBBBBBBBBCBBBBDCBBBCBDCEBCBDDCBCBBBBBCBBCBBCBDBBBCDBHCBCBCBBBBBB",
    "BBBBBBBBBBCBBBBBBBBBBBBBBBBBCCBBBDBBBBBBBBBBBBBBBBBBBBBBBBBBBBBBBBBBBBBBBBBBBBBBBBBBBBBBBBBB",
    "HCBCCBBEBBBBBBBBlDBBBDBIBGBBDBBBCBRBJbJBIBBBBBBBBBBBBBBBBBBBBBBBFBCBBCCbZbWBBBBBBBBBBBBBBBBB",
    "BBBBBBBBBBBBBBBBJBBBBBBBBBBBBBBBBBBBBBBBBBBBBBBBBBBBBBBBBBBBBBBBBBBBBBBCBBBBBBBBBBBBCBBBBBBB",
    "BBBBBBBBBBBBBBBBBBBBBBBBBBBBBBBBBBBBBBBBBBBBBBBBBBBBBBBBBBBBBBBBBBBBBBBBBBBBBBBBBBBBBBBBCbMe",
    "hDbMBBFBbbUdIdgSbRCDmIBBBBBBBBBBBBBBBBBBBBBBBBBBBBBBBBBBBBBBBBBBBBBBBBBBBBBBBBBBBBBBBBBBBBBB",
    "BBBBBBBBBBBBBBBBBBBBBBBBBBBBBBBBBBBBBBBBBBBBBBBBBBBBBBBBBBBBBBBBBBBBBBBBBBBBBBBJBBBBBBBBBBBB",
    "BBBBBBBBBBBBBBBBBBBBBBBBBBBBBBBBBBBBBBBBBBBBBBBBBBBBBBBBBBBBBBBBBBBBBBBBBBBBBBBBBBBBBJIIGKII",
    "IIGLBBBBBBBIIYIIIIIIFLFLEMFLFlLBDCGBbTQTBbfMbAcsUbWbWBBDCBBBBBBEBBCBIDBBBBBBBBBBBBBBBBBBBBBB",
    "BBBBBBBBBBBBBBBBBBBBBBBBBBBBBBBBBBBBBBBBBBBBBBBBBBBBBBBBBBBBBBBBBBBBBBBBBBBBIBBBEBbtyJBBBBBB",
    "BBBBBBBBBBBBBBBBBBBBBBBBBBBBBBBBBBBBBBBTBBBBBBBBBBBBBBBBBBBBBBBBBBBfFBBBBBBBBBBBBBDBBBBBBBBB",
    "BBBBBBBBBBBBBBBBBBBBBBBBBBBBBBBBBBBBBBBBBBBBBBBBBBBBKBBBBCBBBBBBBBEBBBCBBBDBBBBBBBBBBBBBBBBB",
    "BBBFBFBBBBBBBBBBBBBBBEBBGBFBBBbCBbhaHbAbuZbOfGbKgALBPBHBCcqCbZenLbGbgjWbGbulKbI"]⟩,
  ⟨["cwt", "changeswhentitlecased"],
    .ofLines [
    "dTbAcGBbPYBIBBBBBBBBBBBBBBBBBBBBBBBBBBBBBBBBBBBBBBBBBBBBBBBBBBBBBBBBCBBBBBBBBBBBBBBCBBBBBBBB",
    "BBBBBBBBBBBBBBBBBBBBBBBBBBBBBBBBBBBBBBCBBBBDCBBBCBDBFBCBDCDBCBBBBBCBEBCBDBBBCBDBBBEBBCBCBBBB",
    "BBBBBBBBBBBBBCBBBBBBBBBBBBBBBBBDBBBBDBBBBBBBBBBBBBBBBBBBBBBBBBBBBBBBBBBBBBBBDBBBBBBBBBBBBBBB",
    "BBIBCCBBEBBBBBBBBGBCBBBCDCBBBCBFCBBCCBHBCBBCDGFBKCgKBbRBBBDBDDSBbBbJBCDDBBBBBBBBBBBBBBBBBBBB",
    "BBBFBBCBCBcAbWBBBBBBBBBBBBBBBBBBBBBBBBBBBBBBBBBBJBBBBBBBBBBBBBBBBBBBBBBBBBBBBBBBBBBBBBBBBBBB",
    "BBBBBBBBBBCBBBBBBBBBBBBCBBBBBBBBBBBBBBBBBBBBBBBBBBBBBBBBBBBBBBBBBBBBBBBBBBBBBBBBBBBBBBBBBBBB",
    "BBBBBBBBBBBBBBBBBBBBBBBBBBBBbXbNfmEGdfUJjGBDBQBeKBBBBBBBBBBBBBBBBBBBBBBBBBBBBBBBBBBBBBBBBBBB",
    "BBBBBBBBBBBBBBBBBBBBBBBBBBBBBBBBBBBBBBBBBBBBBBBBBBBBBBBBBBBBBBBBBBBBBBBBBBBBBBBBBBBBBBBBBBBB",
    "BBBBBBBBBBBBBHFBBBBBBBBBBBBBBBBBBBBBBBBBBBBBBBBBBBBBBBBBBBBBBBBBBBBBBBBBBBBBBBBBBBBBBBBBBBBB",
    "BBBBBBBBBBBBBBBBBJIGKIIIIGKIIIIOCIIIIIIFBCGBDDBCIECCIIKDBCnEBbHQEBbgLbActQbWBBDCBBBBBBGBCBKB",
    "BBBBBBBBBBBBBBBBBBBBBBBBBBBBBBBBBBBBBBBBBBBBBBBBBBBBBBBBBBBBBBBBBBBBBBBBBBBBBBBBBBBBBBBBBBBB",
    "BBBBBBIBBBEBMbMBBFBbtwDBBBBBBBBBBBBBBBBBBBBBBBBBBBBBBBBBBBBBBBBBBBBBTBBBBBBBBBBBBBBBBBBBBBBB",
    "BBBBfFBBBBBBBBBBBBBDBBBBBBBBBBBBBBBBBBBBBBBBBBBBBBBBBBBBBBBBBBBBBBBBBBBBBBBBBBBBBKBBBCBBBBBB",
    "BBBEBEBBCCBBBBBBBBBBBBBBBBBBBLBBBBBBBBBBBBBBBEBBBGBFBBBbCBbhCBbCdCbeaIHMFboZbAbvHbOfGbKfZLBP",
    "BHBCcrBbZemFbGbgjWbGbulMbI"]⟩,
  ⟨["cwu", "changeswhenuppercased"],
    .ofLines [
    "dTbAcGBbPYBIBBBBBBBBBBBBBBBBBBBBBBBBBBBBBBBBBBBBBBBBBBBBBBBBBBBBBBBBCBBBBBBBBBBBBBBCBBBBBBBB",
    "BBBBBBBBBBBBBBBBBBBBBBBBBBBBBBBBBBBBBBCBBBBDCBBBCBDBFBCBDCDBCBBBBBCBEBCBDBBBCBDBBBFCBCBCBBBB",
    "BBBBBBBBBBBCBBBBBBBBBBBBBBBBBCBCBBDBBBBBBBBBBBBBBBBBBBBBBBBBBBBBBBBBBBBBBBDBBBBBBBBBBBBBBBBB",
    "IBCCBBEBBBBBBBBGBCBBBCDCBBBCBFCBBCCBHBCBBCDGFBKCgKBbRBBBDBDDSBbBbJBCDDBBBBBBBBBBBBBBBBBBBBBB",
    "BFBBCBCBcAbWBBBBBBBBBBBBBBBBBBBBBBBBBBBBBBBBBBJBBBBBBBBBBBBBBBBBBBBBBBBBBBBBBBBBBBBBBBBBBBBB",
    "BBBBBBBBCBBBBBBBBBBBBCBBBBBBBBBBBBBBBBBBBBBBBBBBBBBBBBBBBBBBBBBBBBBBBBBBBBBBBBBBBBBBBBBBBBBB",
    "BBBBBBBBBBBBBBBBBBBBBBBBBBbXbNehCbRCDbdGGdfUJjGBDBQBeKBBBBBBBBBBBBBBBBBBBBBBBBBBBBBBBBBBBBBB",
    "BBBBBBBBBBBBBBBBBBBBBBBBBBBBBBBBBBBBBBBBBBBBBBBBBBBBBBBBBBBBBBBBBBBBBBBBBBBBBBBBBBBBBBBBBBBB",
    "BBBBBBBBBBBBBBBBBBHFBBBBBBBBBBBBBBBBBBBBBBBBBBBBBBBBBBBBBBBBBBBBBBBBBBBBBBBBBBBBBBBBBBBBBBBB",
    "BBBBBBBBBBBBBBBBBBBBBBJIGKIIIIGKIIIIOCcBBCEBBBDDBCEBDECCIIKDBCEBmZBbHQEBbgLbActQbWBBDCBBBBBB",
    "GBCBKBBBBBBBBBBBBBBBBBBBBBBBBBBBBBBBBBBBBBBBBBBBBBBBBBBBBBBBBBBBBBBBBBBBBBBBBBBBBBBBBBBBBBBB",
    "BBBBBBBBBBBBIBBBEBMbMBBFBbtwDBBBBBBBBBBBBBBBBBBBBBBBBBBBBBBBBBBBBBBBBBBBBBTBBBBBBBBBBBBBBBBB",
    "BBBBBBBBBBfFBBBBBBBBBBBBBDBBBBBBBBBBBBBBBBBBBBBBBBBBBBBBBBBBBBBBBBBBBBBBBBBBBBBBBBBBBBBKBBBC",
    "BBBBBBBBBEBEBBCCBBBBBBBBBBBBBBBBBBBLBBBBBBBBBBBBBBBEBBBGBFBBBbCBbhCBbCdCbeaIHMFboZbAbvHbOfGb",
    "KfZLBPBHBCcrBbZemFbGbgjWbGbulMbI"]⟩,
  ⟨["dash"],
    .ofText "bTBcaUBbZBfkJBbnPBdbDGcJBbNBPBpABeoIBCBbFCEBbCBrEBTBeHBczwACbLBKBgNBfxVB"⟩,
  ⟨["di", "defaultignorablecodepoint"],
    .ofText "gRBzXBbbOBegWCckHCdHFdaPFbAFbXQgkYBczmPQjFBgEBdBJctlNEhwXIbtkzLgbO"⟩,
  ⟨["dep", "deprecated"],
    .ofText "mRBbyVBdkTBBBdcJCdiJGbaVCbzryKB"⟩,
  ⟨["dia", "diacritic"],
    .ofLines [
    "dQBBBcTBGBEBCCtJgDBIFGRCEBJCjTFiBBcDRBbBBBBCBBfEIECfECECDDcPbBdNLcGLbICeWIbPKQbCcJBQBDEbCBcW",
    "BQBeGBQBeGBQBbVDcIBQBHBePBeGBQBeGBQBeFCQBeUBeUGBBeDBNFcXCbBBBBBBECcODBCcKBeIBBCbOCEFZHBBKCbb",
    "DDbkMCgXLJBnJDmBICBbWPCLeABPBbMJcCCfICcMGdEZEBGBCDbYcLdLMbLLrDBBDLDNDNDNCexKDmFBtMGeBEdRBbsm",
    "KBMCBBbCCdECObIdYDeFChUBbBScFEbKBdRBMBbKBfTDcNEbZBdWFJDeYCbdzSBbdPQkKBBBbVBbTCcPBbdKBbtNGBbQ",
    "BJbfECvZGsBDcSLbXEhKBbPBcUCeQCcKBcYBJDeACgWCdDBQBYHDFhXBDBeTCjRCeWBeOCeLBkJCjYCEBgABdFBSBdDB",
    "qFBjYBBCdDBipJPurQFcHHbqURdCCygCEBHBCltHbUCXuYDDGIICHbEEfmWcKhMHoLBcJEcfWHeFDBD"]⟩,
  ⟨["emoji"],
    .ofLines [
    "bJBGBFKeHBEBlyRBMBiIBWBdMGPCoDCMBgKBZLEDhRBiXCKBJBcGEBFJBCBCCCBEBCBBCCBDBDCIDFBBBFMLCCBBCBBS",
    "BCCSGBBBCDCFBCCECLCFCCBFCBBBCUCFGBECBEBCBCGBBCBBBBBGBDBGBKCPBCBEBBBEDBBLCbWDJBOBOBoICrVDTCbZ",
    "BEBbvUBMBxDBBBgmrQBhUBgECMCOBCKcXbABCXBUBCJVCgSbICeICCBDCdFCDBkDBcLLGBYHCCIMBCECBECNCCBICJBF",
    "DMDIDCBBBEBGBDBGdIbWcSFICDEKDBBCDBCKiTMEBkXbVBKBhDeINDJHbUBHIOEJHJ"]⟩,
  ⟨["ecomp", "emojicomponent"],
    .ofText "bJBGBFKmbJBiFBdftRBdoiWbAtNFceAEbsvuQdS"⟩,
  ⟨["emod", "emojimodifier"],
    .ofText "hhiXF"⟩,
  ⟨["ebase", "emojimodifierbase"],
    .ofLines [
    "olHBiLBQEgsjVBcIDCBCDeNCCLVTDBEDBDHBBBYBhTCEBVBECgSDDFdFBQDJBLBwDBCBIIGBJKCDcEBcJCBCBBRDBNiV",
    "DbQJ"]⟩,
  ⟨["epres", "emojipresentation"],
    .ofLines [
    "nhQChXEDBCBuBCVCbYMbRBTBNBICRCFCIBFBVBHCBBEBCBHBECbCBbJBBBEDBBcJDYBOBbhBCbZBEBgplEBhUBhIBCKc",
    "XbABBYBUBCFBDVCgSbHMJBcSBWMbREFMRDBDcTBBBhFCcLNEBYSBbACNBdIdHbWcSGBDDCDEELCHJiTMEBkXbVBKBhDe",
    "INDJHbUBHIOEJHJ"]⟩,
  ⟨["extpict", "extendedpictographic"],
    .ofLines [
    "gNBEBlyRBMBiIBWBdMGPCoDCMBdRBcSBZLEDhRBiXCKBJBcGEBGBMBeKKeOCLBBBBGBDBGBKCPBCBEBBBEDBBLFbTDJB",
    "OBOBoICrVDTCbZBEBbvUBMBxDBBBgmrMjWNDbFBcIGMCOBCKScFbBPKBUBCJBEJqSFmGIkGbWeYeMMdHbRMEcEIKGbOI",
    "bEdEMbVBKBqZjWbnI"]⟩,
  ⟨["ext", "extender"],
    .ofLines [
    "hBBuQCbhUBqZBbhABbcYBeXBdnFBcEBxNBpIBcQBhkJBbRFdZCdPDbqbUBcgSBblABWBfHBeEBVCbfzVBdbKCemSBxSD",
    "bvJBbeoFCbtKCBBbqyACdbAD"]⟩,
  ⟨["grbase", "graphemebase"],
    .ofLines [
    "bGdRbHNBwWeIICGEHBBBUBiQHgKBbMCbYCDbUBBBCBCBJbBEGRKLBBbUVQBdXIBGCCBEbGCBBbEbDdLLBObRJHDYEBJB",
    "DBHPBZFBBLFbFRbQcFcDBBBEIEBDHKCbDBCBICCCWBHBBDEDBBCGCCCBBNCBDEYFBBGECCWBHBCBCBCEDYEBBHKCDBBM",
    "BBJBDBWBHBCBFDEIBBCDBPCEMHBICBICCCWBHBCBFDBCBGCCCPCBDESLBBGDDBEDCBBBCDCDDDMFBBCDDBDDBVVGDBIB",
    "DBXBQDBDETDCBCCEKHKBLBDBXBKBFDCBCBCCCBCRCBCEKBDOLBDBbPCBBCFDBDBCEDBKEbACCBSDYBJBBCHJCGHHKCDM",
    "bWBCLIINbLCBBBFBYBBBKBCJBCFBBJKCEbGYCbBBBBBBOBbKSBFBCFbXIBGBNbLbTEBGBCCCZCEDQENBCCGBPBbOBBFB",
    "CoNBECHBBBECbPBECbHBECHBBBECPBcFBECcPFbDDbAGdICGCzTDdLHSDBJTCDJSONBDPcACBHIBCLJDKGKGLFKGdLHF",
    "CbIBBFcSKbFEECDECBGHBDbQCFLbSEbAGLDcFCCDcEBBJBBCIGNKGKGOdIbWHBBFBKDbBJLDbGECCBDcEBBCDBBDCIbW",
    "ICFPDcIHbRCLLBNBHEBGBDCBFhKcMkSCGCbMCGCIBBBBBBBbFCcBBPBOCGBTCDBJBLFYHbXQCCbBBNDbHcLfKEzNZLVc",
    "rSCbGBnGDCFbTBBFBCcEHCPXJHBHBHBHBHBHBHBHbHdQbIbABdLMiGbAMEbQGQBdIEdXFbRBdQBdGMbVBbriRDcDJnKU",
    "bVEBKbGCdCCGIhVFCBBBFYQBDBEBZCFEKGcEIcQKMYNBbMIZLCLbEGbWBCECCQBLEHBZBbPGCCCLDBIBBCKCbGBbZBBD",
    "CCFCBBBYRCILGCGCGJHBHBcIEeNBCBEDKGqnSMXEbXmnCoCCeCbMHMFFBBYBFBBBCBCBeVQrDCcCHBbGQQKWbJBTBEEF",
    "BfFEgBCbFDGCGCGCDDHBHNCCMBbABTBCBPCObIeTFDEbTDdKBNDBbVbTfBbDDbXQbBEbKJbEFbMKbEBbLEObQgCCKGbK",
    "EbKEbOIcALMBPBHBCBLBPBHBCcPlZJWKIYGBbQBJcRGCBBbSBCDBCXBcUIJbWTBCFbHDbBFBcMcEEUCbVPEBDBbDKJHJ",
    "HcMbGbLGMJcCDbDCbBFbAHEMHdCcVcDbZNbZHbQMKlIbFBbQDBCCdAbOIWLJWSEEbMbCUXJBBcCPHEbEBCCBMbXECCCB",
    "EOZHKJbKFBJSIbJBDLcAJKECBQBULSBbCDCBBCGBCcLHBBBEBPBLGbVBDNKICBICCCWBHBCBFDBBBBECCCDCBMHgAcEI",
    "CDBBVBBBDbEbWBCGBBCBBCBCEIKgKbVBCGECBCbBbKbZICBBCELKGNTbRBBBCGBBCGKcCbBFCEBJXhDbVJBCBdWdFMIC",
    "BCIBCBYBFBCEBBEBDJKcSICbQIEBEbBBKbOGCEIJBGCDbUNBCJNcVHKjMJBbMOBBGKbDDbGZBHBCBcXHBCBbMVBJKGGB",
    "CBbLECBBBBHKlYTCEJPBbKICBBBXdIBPbYNbjNdYeHBFLhOdxKdVNbpGRGfyVwLmuBvXHbFBKEdDBKGbEHBKbWHPKKBH",
    "BVFTbaMdNdXcXFcELNcMEMCOjcAIbvQbQJnfREBHBCBlFPBbDDCBOEIpGdkUeDFNDJHKCBCBhcAeMcIjMKbNCcIBBDEV",
    "CHbEEcJVcODBeSUMUMdJJZfFdHBcTBCCBCCCEBMBBBHBcNBECIBHBbCBEBFBBDHBnCClGCvQcDEbYIBOBHbrWbFGGkBc",
    "KfQbTKHCKECmIbESbSEKFBrWbCEKbcOHBEBCBPBhPCJbWcQHBEKECbeFcQcYcJhMEBbBBCBBCBBKBEBBBBGBEBBBBBBD",
    "BCBBCBBBBBBBBBBCBBCEBHBEBEBBBKBRFDBFBRcACkKbSEdWMPCPBPBbLKgScEbDNbSEJHCOGfYblWERDNDePEdRGMEB",
    "PMEcEIKGbOIbECCdAnCMOCNDJHbUBHIOEJHJHfRBcDbLKbnQclfCbGgdUGiOCinQOlbLepJuWcfYhhZFgfG"]⟩,
  ⟨["grext", "graphemeextend"],
    .ofLines [
    "bdOeIkPHkDbTBBBCBCBBcULbWVQBdXHCGCCBEbJBbEbBdNLcGJJBYEBJBDBFbRDcIIbQYBbGcDBBBEIEBDHKCbDBcGBB",
    "BCEIBJBKCbABCCcFBECECCDDBbECDBLCcFBEFBCEBUCWGBBcGBBCBEIBHDKCbEBcHBBBMBJBbOBDBcDBBDFDBEHCLCbD",
    "BcGBCBCBDBFCHCLCbCCcFCBBCEIBJBKCbDBcUBEBCDBBIBdDBCHMIdUBCJLHcVCbBBBBBBcDOBFBCFLBbKJBdYEBGBCC",
    "CZCEDQENBCCGBPBbbBDbkKDbDCbECbECcMCBHIBCLJBbTDBBeNCbIBeODECJBGDiLCCBcGBBHBBBBCIGKCBbWbFbXEbW",
    "HBBFBbOJMCbGECCBDcEBBCDBBDcGICCfWDBNBHEBGBDChQcMuEBhNbHeoCDfLBdSbGvIGeBCbsqEEBKbGCdCCkMBDBEB",
    "ZCFBfVCbASNBbMIZLbUDbWBCECCbNBcPGCCCCMBIBbVBbZBBDCCFCBBbQCIBjEBCBEBbdzSBbcJQQQoCCxHBiSBfTFcm",
    "GDBCFEbODEBgJCwBEoXCdCDcSLbXEeTBcCPbPBCCKDbXECCHBcJDbKFBIcKBMCcAJKECBdRDCBBCGBCBgBBDIVCcFCBB",
    "BBWBOHDFhNICDBBXBdDBCGBBCBBCBCjBBCEGCBCbBCdHICBBCeCBBBCGBBdXDCEBFjZJBCjLBKCBBEBfOECCEBbGKbOG",
    "CEIBJGCDbUNBCpQHBGBBdEWCHBCBCeSGDBBCBHBBcUCDBBBnJCLCcAFFBBBhyRBGPurQFcHHboIBcLEdDBbdbKCgyZbU",
    "CXuWBBDEFIICHbEEfSDcyDcDEbYIBOBWFBPcaIHBRCHBCBFdWBgEHoLBcJEtOEbmEHeFHbtcaFdSeYjG"]⟩,
  ⟨["hex", "hexdigit"],
    .ofText "bWKHGbAGdslLKHGbAG"⟩,
  ⟨["idsb", "idsbinaryoperator"],
    .ofText "seACCI"⟩,
  ⟨["idst", "idstrinaryoperator"],
    .ofText "seCC"⟩,
  ⟨["idc", "idcontinue"],
    .ofLines [
    "bWKHbAEBBbAbVBKBBBCBFXBbFBrQEMOFHBBBReNBCCEBBGFBBBUBdFBfJBFCgKBbMCBGbPIbTBBBCBCBBIbBEEbDLFcW",
    "EdYBICKBTCBQcHCdXOcCEBCBCbUSbCELFYBGJcWBeZCKBTBICCCWBHBBDECJCCCEIBECBFCMKBBBCDBGECCWBHBCBCBC",
    "CBBFECCDDBHEBBHQLDBJBDBWBHBCBFCKBDBDCBPECKJHBDBICCCWBHBCBFCJCCCDHDECBFCKBBQCBGDDBEDCBBBCDCDD",
    "DMEFDDBECBGBOKQNBDBXBQCJBDBEHCBDCBCECKQEBIBDBXBKBFCJBDBEHCGCBECKBDMNBDBbZBDBFFEHFCKKGBDBSDYB",
    "JBBCHDBEGBBBIGKCCNcGFPBKbNCBBBFBYBBBXCFBBBHBKCEbGBXCGKLBBBBBEKBbKEUBSBbKJBcFcWGdACbMBBFBCbRB",
    "mVBECHBBBECbPBECbHBECHBBBECPBcFBECcPCDJJOQQdICGDxWCRBbAFcXDLHWJWLUMNBDBCMdGDBECCKbHDBLGdLHbR",
    "FcSKbFBMEMKbOCFLbSEbAGLbLbCEcLBbDCLGKNBIOBQbXcZDKRJMeMMcEIKDbXCJHbRCDQDBbNFuOCGCbMCGCIBBBBBB",
    "BbFCcBBHBBDDBHDECGENFDBHcOCTBbCBNBQNbZNEBDMRBEBCKBBCGGBBBBBBQCEFFEBRbPdzBiVGJMbMBBFBCcEHBPYJ",
    "HBHBHBHBHBHBHBHBbGtXDZPBFCFEdICHBdMBEFbRBdQRbGbWQtSjtOcMbguFcPbUCkJDbCUbWEKBeLbLJCdZCcMFCBBB",
    "FYcCEBTcAMcSKKGYDBBbXCbKMbDDcNOLGbFBcDJOCKGXDcVYDCQCFKGCGCGJHBHBbRBOGeTBCCKGqnSMXEbXmnCoCCeC",
    "bMHMFFMBNBFBBBCBCBeEbHnZScMCcCbOMEQQQDCYDbGFBfFTKHbAEBBbALdLDGCGCGCDbJMBbABTBCBPCObIeTcRcBfG",
    "BfAbDDbXPBbFbGNbEFbRFbECbKEIBFbQgCCKGbKEbKEbOIcAMLBPBHBCBLBPBHBCcPlZJWKIYGBbQBJcRGCBBbSBCDBC",
    "XKXJbFcNTBCKWKbAcScEGCcMEBCFIBDBbDCDEBbGbDDbDbJIBbEZcCKWKTNSeGcVcDbZNbZNbOIKmObQBCDCcXbGKBIb",
    "HbFWbQVbBXJcTbFQJcIHBNZHKGcBBKEEIbKCBJcREEBNBBbJSBbLGEcKHBBBEBPBKHcHFKGEBICCCWBHBCBFBKCCCDCB",
    "GBFHCHDFfJcXFKEEbEcSBBIKgKcCCJXGbIcNDBLKbMcFHKcCbBCPEKGHhDcHdXcWVICBCIBCBbEBCCJMKcSICbUCIBCb",
    "BcLIBIcWDBScVkDJBbTBJPKYbECWBOcVHBCBbSDBBCBJIKGGBCBbLBCBGHKlYXJRBbPDFNKdIBdBbjMdYeHRhOdxKdTP",
    "bpGQWfyGwLmuBvXHbFBKGdBBKGbECFLcDJEMKJVFTbaMcMeYcXEcFHRcMCBCLCOjcAIbvQbQJnfREBHBCBlFPBbDDCBO",
    "EIpGdkUeDFNDJHKDCgyZbUCXuWFDGIICHbEEfSDrBdHBcTBCCBCCCEBMBBBHBcNBECIBHBbCBEBFBBDHBnCCZBZBbFBZ",
    "BbFBZBbFBZBbFBZBICbYtScDEbYIBOBWFBPbqMbFGGiFHBRCHBCBFFcKbHBeIbTDOCKEBmJbFRcGsCbQbcOHBEBCBPBh",
    "PLHbPcYEKbtUEBbBBCBBCBBKBEBBBBGBEBBBBBBDBCBBCBBBBBBBBBBCBBCEBHBEBEBBBKBRFDBFBRfaAKbnQclfCbGg",
    "dUGiOCinQOlbLepJuWcfYhhZFgfGbonhGjG"]⟩,
  ⟨["ids", "idstart"],
    .ofLines [
    "cNbAGbAbVBKBEBFXBbFBrQEMOFHBBBeZFBCCEBBGBBDBBBUBdFBfJIgKBbMCBGbPcTbBEEbTbRbJCBdVBBPCHCKDCBQB",
    "BbEbDdLLBYbHJCEBFWEBJBDBXZHLFYBGRbQcGcCDBSBHKPQEICCCWBHBBDEDBQBNCBDOCKBIGECCWBHBCBCBCbFEBBTD",
    "QJBDBWBHBCBFDBSBPCXBLICCCWBHBCBFDBbECBDPBRBBGDDBEDCBBBCDCDDDMWBcAIBDBXBQDBbADCBCCbEBEIBDBXBK",
    "BFDBbFCBCPCRJBDBbPCBQBFDIDYGFSDYBJBBCHcGbWBCMHcGCBBBFBYBBBKBCJBCFBBVEbGBcLIBbKbBFeLbRUBQGEED",
    "BDCHDENMBRbMBBFBCbRBmVBECHBBBECbPBECbHBECHBBBECPBcFBECcPbLQQdICGDxWCRBbAFcXDLHSNTOSONBDPcAbJ",
    "BEBcPdLHbPBBFcSKbFbXbECFLbSEbAcCXJcBdEBdPbVRIcCbENCKbSbAbKbPDKbKCJHbRCDbPEBGBCDBFhKcMkSCGCbM",
    "CGCIBBBBBBBbFCcBBHBBDDBHDECGENFDBHeMBNBQNdXBEBCKBBCGGBBBBBBQCEFFEBRbPdzBiVGEDCMbMBBFBCcEHBQX",
    "JHBHBHBHBHBHBHBHvEDZJHFCFEdIEFBdMBEFbRBdQRbGbWQtSjtOcMbguFcPbUCkJDQKCUbVQbFCdCbNJCdZCcMFCBBB",
    "FYQBDBEBXbDcAObYcKGDBBCLbCKXZbDHbVbCBQFBKKFBbPXDBIUXDBDbYBBDCCFCBBBYDCLHDMGCGCGJHBHBbRBOGeLb",
    "DqnSMXEbXmnCoCCeCbMHMFFBBKBNBFBBBCBCBeEbHnZScMCcCbOMeMFBfFbKbAGbALdLDGCGCGCDbJMBbABTBCBPCObI",
    "eTcRcBkHbDDbXbVbGNbEFbMKbECbKEIBFbQgCSbKEbKEbOIcAMLBPBHBCBLBPBHBCcPlZJWKIYGBbQBJcRGCBBbSBCDB",
    "CXKXJbFcNTBCKWKbAcScEGCcMBPEBDBbDbQbDDbDbJIBbCbBcCKWKTNSeGcVcDbZNbZNbKnKbQGCdAbDKBIWbQSbUVbB",
    "XMcBcFCCBNbTbGZbAbKbDBCBIbJDBMbWOEVBBBbJSBZTCcLHBBBEBPBKHbVbMICCCWBHBCBFDBSBMFgCcBSEUDbEbWUC",
    "BBhCbVbPEbKbWUBcHbRNBcTbBbLHhDbSeMcMbFICBCIBCBYPBBBdQICbNQBBBbCBKbOHBVBLbUTBScVkDJBbLRBbXbEe",
    "IHBCBbMVBZGBCBbGOBmPTPBBNBbIeUBdBbjMdYeHRhOdxKdTPbpGRGfyVwLmuBvXHbFRdBRbESbWQEbFVFTbaMcMeYcX",
    "FBcONcMCBBbCjcAIbvQbQJnfREBHBCBlFPBbDDCBOEIpGdkUeDFNDJHKiwKdHBcTBCCBCCCEBMBBBHBcNBECIBHBbCBE",
    "BFBBDHBnCCZBZBbFBZBbFBZBbFBZBbFBZBIcsYbFGGkBcKfQbTKHQBmJbESbSsQbCbdCHBEBCBPBhPcHcQHBbuIEBbBB",
    "CBBCBBKBEBBBBGBEBBBBBBDBCBBCBBBBBBBBBBCBBCEBHBEBEBBBKBRFDBFBRgoAclfCbGgdUGiOCinQOlbLepJuWcfY",
    "hhZFgfG"]⟩,
  ⟨["ideo", "ideographic"],
    .ofText "seWCZJODblDjtOcMbfbKbhsIoCCeCbsiKBbBjcAIbvQbQJnuLpGbdeIclfCbGgdUGiOCinQOlbLepJuWcfYhhZFgfG"⟩,
  ⟨["joinc", "joincontrol"],
    .ofText "mdOC"⟩,
  ⟨["loe", "logicalorderexception"],
    .ofText "fkIFeTFedSDCBccxMCCBBC"⟩,
  ⟨["lower", "lowercase"],
    .ofLines [
    "dTbAbVBKBEBbKYBIBBBBBBBBBBBBBBBBBBBBBBBBBBBBBBBBBBBBBBBBBBBBBBBBBBBBBBBCBBBBBBBBBBBBBBBCBBBB",
    "BBBBBBBBBBBBBBBBBBBBBBBBBBBBBBBBBBBBBBBBBBCBBBBDCBBBCBDCEBCBDDCBCBBBBBCBBCBBCBDBBBCCCDGBCBCB",
    "BBBBBBBBBBBBBBBCBBBBBBBBBBBBBBBBBCCBBBDBBBBBBBBBBBBBBBBBBBBBBBBBBBBBBBBBBBBBBBBBBBBBBBBBBBBB",
    "BBBBBHCBCCBBEBBBBBBBBcRBbKHCbEFdSBbRBBBDBCESBbBbJBCDDBBBBBBBBBBBBBBBBBBBBBBBFBBCBCCbZbWBBBBB",
    "BBBBBBBBBBBBBBBBBBBBBBBBBBBBBJBBBBBBBBBBBBBBBBBBBBBBBBBBBBBBBBBBBBBBBBBBBBBBBBBBBBBCBBBBBBBB",
    "BBBBCBBBBBBBBBBBBBBBBBBBBBBBBBBBBBBBBBBBBBBBBBBBBBBBBBBBBBBBBBBBBBBBBBBBBBBBBBBBBBBBBBBBBBBB",
    "BBBBBBBBBbWbPehBbRBEbdGGdfUJePhKcNBBBBBBBBBBBBBBBBBBBBBBBBBBBBBBBBBBBBBBBBBBBBBBBBBBBBBBBBBB",
    "BBBBBBBBBBBBBBBBBBBBBBBBBBBBBBBBBBBBBBBBBBBBBBBBBBBBBBBBBBBBBBBBBBBBBBBBBBBBBBBBBBBBBBBBBBJB",
    "BBBBBBBBBBBBBBBBBBBBBBBBBBBBBBBBBBBBBBBBBBBBBBBBBBBBBBBBBBBBBBBBBBBBBBBBBBBBBBBBBBBBBBBBBBBB",
    "BBBBJIGKIIIIGKIIIIOCIIIIIIFBCGBDDBCIECCIIKDBCeRBNBQNeFBDCDBbBBEBEBCCIEEBbHQEBbgLbActQbWBBDCB",
    "BBBBBEBBCBIDBBBBBBBBBBBBBBBBBBBBBBBBBBBBBBBBBBBBBBBBBBBBBBBBBBBBBBBBBBBBBBBBBBBBBBBBBBBBBBBB",
    "BBBBBBBBBBBBBBBBBBCHBBBEBMbMBBFBbtwDBBBBBBBBBBBBBBBBBBBBBBBBBBBBBBBBBBBBBBBBBBBBBTBBBBBBBBBB",
    "BBBBBBBBBBBBBBBBDfDBBBBBBBBBBBBDBBBBBBBBBBBBBBBBBBBBBBBBBBBBBBBBBBBBBBBBBBBBBBBBBBBBBBBBBBBB",
    "BKBBBBCBBBBBBBBBEBBBCBBDBBBBBBBBBBBBBBBBBBBBFBFBBBBBBBBBBBBBBBEBBBGBBBBBBBBBYDBBBDbfPbRBOGdC",
    "beaIHMFboZbAbvHbOfGbKfZLBPBHBCrJBCDBbQBJbxLbZemFbGbgjWbGbmmKbAbAHBSbAbAbAEBBBHBLbAbAbAbAbAbA",
    "bAbAbAbAbAbAbAbAbAbAbAbCbCZBGbAZBGbAZBGbAZBGbAZBGBBcsYKBUGGkBcKdhSbI"]⟩,
  ⟨["math"],
    .ofLines [
    "bRBQDbFBbDBBBbTBEBbLBbFBbcADCBbACCDuHDjwNBbBDLBDBNBOEVFLFcNNEBDCEFSBEBCKBBCGGBDCCCBDBGDOBBcQ",
    "YBGBCECEbGBBGCOkIIEUCdMBbEbBBBYBLHrDCMKEGECCCDFOBBBCGLIFCcFBBBbDEJDmYcMjWtSbWVCGdasQBbfRGBBg",
    "GBQDbDBBBbDBBBfBBGEdciDdHBcTBCCBCCCEBMBBBHBcNBECIBHBbCBEBFBBDHBnCClGCbYiiQEBbBBCBBCBBKBEBBBB",
    "GBEBBBBBBDBCBBCBBBBBBBBBBCBBCEBHBEBEBBBKBRFDBFBRcAC"]⟩,
  ⟨["nchar", "noncharactercodepoint"],
    .ofText "dsdCbGuGCdsyOCdsyOCdsyOCdsyOCdsyOCdsyOCdsyOCdsyOCdsyOCdsyOCdsyOCdsyOCdsyOCdsyOCdsyOCdsyO"⟩,
  ⟨["patsyn", "patternsyntax"],
    .ofText "bHPKHbAEBBbAEbIHBBBCBBBCEBEBDBXBbFBluEYIPCTBKlTbbSgEyGbEbrOtSeYoVDEZPBczqZCkBC"⟩,
  ⟨["patws", "patternwhitespace"],
    .ofText "JFSBdWBlyMCYC"⟩,
  ⟨["pcm", "prependedconcatenationmark"],
    .ofText "chCGiHBbXBoUCdCBdvxYBPB"⟩,
  ⟨["qmark", "quotationmark"],
    .ofText "bIBEBfBBPBlwUIZCfiDBrPENDdabPEhHBEBdMC"⟩,
  ⟨["radical"],
    .ofText "rpWbABdLMiG"⟩,
  ⟨["ri", "regionalindicator"],
    .ofText "hgoKbA"⟩,
  ⟨["sterm", "sentenceterminal"],
    .ofLines [
    "bHBMBQBcaBBfRDgYBbRDjMBcJBBBDClHCcpWCbeKBECbdTBhQChWBFBmCCnQEgSCCCbDChGCcNCbkUCJDfgUBNBWCqNB",
    "bshWBkKCiTBDBoSCdICdRBfWCfRDfOCjPBbffIBDCgNBMBQBcNBedWCbxDFbSEhHCeNEeXDeZCGBQCdKCBCeEBqBCoJC",
    "FPeBCjPDtXBBBjRCdJCqECbaQCcWCbcmBCfDBcNCLBbgTBbdoGBliMB"]⟩,
  ⟨["sd", "softdotted"],
    .ofLines [
    "eBChOBkVBbEBcABUBmIBdUBBBjmNBbZBNBDBfCBgBBqFBiGCegGBgelHCbYCbYCbYCbYCbYCbYCbYCbYCbYCbYCbYCbY",
    "CdfYBlTCbAB"]⟩,
  ⟨["term", "terminalpunctuation"],
    .ofLines [
    "bHBKBBBLCDBbfYBIBtTBcFBcUBOBBDgYBbRLBBjBCcCPbFBkBCbwUCgQBEGlZCbeJIbdTBeUDcTCgBDDBbNECCmCCnQE",
    "gSCBDbDChGFcKCbkUCJDfgUBNBEBKBBCDCqMCbshVCkJDiTFoSCdICdRBfVDfRDeXBQCjPBbffGDBEgNBKBBBLCDBcNB",
    "CBbpQBbWBbsOBhRBlYCfWGcQGdLEbkQFbSEhHHeIEeXDeZCGBQCdKFeEBqBDMCnUEDPeBCjPDtXBBBjRCdJCECpYDbTB",
    "yVCcWCbyXFbamZCfDBcNDKBbgSCbdoGBliLE"]⟩,
  ⟨["uideo", "unifiedideograph"],
    .ofText "tsAjtOcMbfbKbicSCBBBCKBBBBCCDdveCclfCbGgdUGiOCinQOlbLhqDhhZFgfG"⟩,
  ⟨["upper", "uppercase"],
    .ofLines [
    "cNbAdXXBHbHBBBBBBBBBBBBBBBBBBBBBBBBBBBBBBBBBBBBBBBBBBBBBBBBBBBBBBBCBBBBBBBBBBBBBBBCBBBBBBBBB",
    "BBBBBBBBBBBBBBBBBBBBBBBBBBBBBBBBBBBBBCBBBBDCBBBCBDCEBCBDDCBCBBBBBCBBCBBCBDBBBCDBHBCBCBCBBBBB",
    "BBBBBBBBBBCBBBBBBBBBBBBBBBBBCBCBBDBBBBBBBBBBBBBBBBBBBBBBBBBBBBBBBBBBBBBBBBBBBBBBBBBBBBBBBBBB",
    "HCBCCBBEBBBBBBBBlDBBBDBIBGBBDBBBCBRBJbJBCDDBBBBBBBBBBBBBBBBBBBBBBBFBCBBCCbZbWBBBBBBBBBBBBBBB",
    "BBBBBBBBBBBBBBBBBBJBBBBBBBBBBBBBBBBBBBBBBBBBBBBBBBBBBBBBBBBBBBBBBBBBBBBBBCBBBBBBBBBBBBCBBBBB",
    "BBBBBBBBBBBBBBBBBBBBBBBBBBBBBBBBBBBBBBBBBBBBBBBBBBBBBBBBBBBBBBBBBBBBBBBBBBBBBBBBBBBBBBBBBBCb",
    "MehDbMBBFBbbUdIdgSbRCDmIBBBBBBBBBBBBBBBBBBBBBBBBBBBBBBBBBBBBBBBBBBBBBBBBBBBBBBBBBBBBBBBBBBBB",
    "BBBBBBBBBBBBBBBBBBBBBBBBBBBBBBBBBBBBBBBBBBBBBBBBBBBBBBBBBBBBBBBBBBBBBBBBBBBBBBBBBJBBBBBBBBBB",
    "BBBBBBBBBBBBBBBBBBBBBBBBBBBBBBBBBBBBBBBBBBBBBBBBBBBBBBBBBBBBBBBBBBBBBBBBBBBBBBBBBBBBBBBJIIGK",
    "IIIIGLBBBBBBBIIcUEMEMEMFLEkCBEBDDCDCBDFGBBBBBBECEKCFBbAQTBbfMbAcsUbWbWBBDCBBBBBBEBBCBIDBBBBB",
    "BBBBBBBBBBBBBBBBBBBBBBBBBBBBBBBBBBBBBBBBBBBBBBBBBBBBBBBBBBBBBBBBBBBBBBBBBBBBBBBBBBBBBBBBBBBB",
    "BIBBBEBbtyJBBBBBBBBBBBBBBBBBBBBBBBBBBBBBBBBBBBBBBBBBBBBBTBBBBBBBBBBBBBBBBBBBBBBBBBBBfFBBBBBB",
    "BBBBBBBDBBBBBBBBBBBBBBBBBBBBBBBBBBBBBBBBBBBBBBBBBBBBBBBBBBBBBBBBBBBBBKBBBBCBBBBBBBBEBBBCBBBD",
    "BBBBBBBBBBBBBBBBBBBBFBFBBBBBBBBBBBBBBBEBBGBFBBBbCBbhaHbAbuZbOfGbKgALBPBHBCcqCbZenLbGbgjWbGbm",
    "mQbAbAbAbAbAbABBCCBCCCEBIbAbAbACBECIBHbBCBEBFBBDHbBbAbAbAbAbAbAbAbAbAbAbAbEZbHZbHZbHZbHZbHBg",
    "nLbIdbIbAGbAGbA"]⟩,
  ⟨["vs", "variationselector"],
    .ofText "jcTDBBdjcAQbwnkYjG"⟩,
  ⟨["wspace", "whitespace", "space"],
    .ofText "JFSBdWBbABihJBdpNLbDCFBbVBfxWB"⟩,
  ⟨["xidc", "xidcontinue"],
    .ofLines [
    "bWKHbAEBBbAbVBKBBBCBFXBbFBrQEMOFHBBBReNBCDDBBGFBBBUBdFBfJBFCgKBbMCBGbPIbTBBBCBCBBIbBEEbDLFcW",
    "EdYBICKBTCBQcHCdXOcCEBCBCbUSbCELFYBGJcWBeZCKBTBICCCWBHBBDECJCCCEIBECBFCMKBBBCDBGECCWBHBCBCBC",
    "CBBFECCDDBHEBBHQLDBJBDBWBHBCBFCKBDBDCBPECKJHBDBICCCWBHBCBFCJCCCDHDECBFCKBBQCBGDDBEDCBBBCDCDD",
    "DMEFDDBECBGBOKQNBDBXBQCJBDBEHCBDCBCECKQEBIBDBXBKBFCJBDBEHCGCBECKBDMNBDBbZBDBFFEHFCKKGBDBSDYB",
    "JBBCHDBEGBBBIGKCCNcGFPBKbNCBBBFBYBBBXCFBBBHBKCEbGBXCGKLBBBBBEKBbKEUBSBbKJBcFcWGdACbMBBFBCbRB",
    "mVBECHBBBECbPBECbHBECHBBBECPBcFBECcPCDJJOQQdICGDxWCRBbAFcXDLHWJWLUMNBDBCMdGDBECCKbHDBLGdLHbR",
    "FcSKbFBMEMKbOCFLbSEbAGLbLbCEcLBbDCLGKNBIOBQbXcZDKRJMeMMcEIKDbXCJHbRCDQDBbNFuOCGCbMCGCIBBBBBB",
    "BbFCcBBHBBDDBHDECGENFDBHcOCTBbCBNBQNbZNEBDMRBEBCKBBCGGBBBBBBQCEFFEBRbPdzBiVGJMbMBBFBCcEHBPYJ",
    "HBHBHBHBHBHBHBHBbGtXDZPBFCFEdICCCDBdMBEFbRBdQRbGbWQtSjtOcMbguFcPbUCkJDbCUbWEKBeLbLJCdZCcMFCB",
    "BBFYcCEBTcAMcSKKGYDBBbXCbKMbDDcNOLGbFBcDJOCKGXDcVYDCQCFKGCGCGJHBHBbRBOGeTBCCKGqnSMXEbXmnCoCC",
    "eCbMHMFFMBNBFBBBCBCBeEbHfJGiKScMCcCbOKGQQQDCYDbHBBBDBBBBBBBBeWTKHbAEBBbALdLDGCGCGCDbJMBbABTB",
    "CBPCObIeTcRcBfGBfAbDDbXPBbFbGNbEFbRFbECbKEIBFbQgCCKGbKEbKEbOIcAMLBPBHBCBLBPBHBCcPlZJWKIYGBbQ",
    "BJcRGCBBbSBCDBCXKXJbFcNTBCKWKbAcScEGCcMEBCFIBDBbDCDEBbGbDDbDbJIBbEZcCKWKTNSeGcVcDbZNbZNbOIKm",
    "ObQBCDCcXbGKBIbHbFWbQVbBXJcTbFQJcIHBNZHKGcBBKEEIbKCBJcREEBNBBbJSBbLGEcKHBBBEBPBKHcHFKGEBICCC",
    "WBHBCBFBKCCCDCBGBFHCHDFfJcXFKEEbEcSBBIKgKcCCJXGbIcNDBLKbMcFHKcCbBCPEKGHhDcHdXcWVICBCIBCBbEBC",
    "CJMKcSICbUCIBCbBcLIBIcWDBScVkDJBbTBJPKYbECWBOcVHBCBbSDBBCBJIKGGBCBbLBCBGHKlYXJRBbPDFNKdIBdBb",
    "jMdYeHRhOdxKdTPbpGQWfyGwLmuBvXHbFBKGdBBKGbECFLcDJEMKJVFTbaMcMeYcXEcFHRcMCBCLCOjcAIbvQbQJnfRE",
    "BHBCBlFPBbDDCBOEIpGdkUeDFNDJHKDCgyZbUCXuWFDGIICHbEEfSDrBdHBcTBCCBCCCEBMBBBHBcNBECIBHBbCBEBFB",
    "BDHBnCCZBZBbFBZBbFBZBbFBZBbFBZBICbYtScDEbYIBOBWFBPbqMbFGGiFHBRCHBCBFFcKbHBeIbTDOCKEBmJbFRcGs",
    "CbQbcOHBEBCBPBhPLHbPcYEKbtUEBbBBCBBCBBKBEBBBBGBEBBBBBBDBCBBCBBBBBBBBBBCBBCEBHBEBEBBBKBRFDBFB",
    "RfaAKbnQclfCbGgdUGiOCinQOlbLepJuWcfYhhZFgfGbonhGjG"]⟩,
  ⟨["xids", "xidstart"],
    .ofLines [
    "cNbAGbAbVBKBEBFXBbFBrQEMOFHBBBeZFBCDDBBGBBDBBBUBdFBfJIgKBbMCBGbPcTbBEEbTbRbJCBdVBBPCHCKDCBQB",
    "BbEbDdLLBYbHJCEBFWEBJBDBXZHLFYBGRbQcGcCDBSBHKPQEICCCWBHBBDEDBQBNCBDOCKBIGECCWBHBCBCBCbFEBBTD",
    "QJBDBWBHBCBFDBSBPCXBLICCCWBHBCBFDBbECBDPBRBBGDDBEDCBBBCDCDDDMWBcAIBDBXBQDBbADCBCCbEBEIBDBXBK",
    "BFDBbFCBCPCRJBDBbPCBQBFDIDYGFSDYBJBBCHcGbWBBNHcGCBBBFBYBBBKBBKBCFBBVEbGBcLIBbKbBFeLbRUBQGEED",
    "BDCHDENMBRbMBBFBCbRBmVBECHBBBECbPBECbHBECHBBBECPBcFBECcPbLQQdICGDxWCRBbAFcXDLHSNTOSONBDPcAbJ",
    "BEBcPdLHbPBBFcSKbFbXbECFLbSEbAcCXJcBdEBdPbVRIcCbENCKbSbAbKbPDKbKCJHbRCDbPEBGBCDBFhKcMkSCGCbM",
    "CGCIBBBBBBBbFCcBBHBBDDBHDECGENFDBHeMBNBQNdXBEBCKBBCGGBBBBBBQCEFFEBRbPdzBiVGEDCMbMBBFBCcEHBQX",
    "JHBHBHBHBHBHBHBHvEDZJHFCFEdIGDBdMBEFbRBdQRbGbWQtSjtOcMbguFcPbUCkJDQKCUbVQbFCdCbNJCdZCcMFCBBB",
    "FYQBDBEBXbDcAObYcKGDBBCLbCKXZbDHbVbCBQFBKKFBbPXDBIUXDBDbYBBDCCFCBBBYDCLHDMGCGCGJHBHBbRBOGeLb",
    "DqnSMXEbXmnCoCCeCbMHMFFBBKBNBFBBBCBCBeEbHfJGiKScMCcCbOKePBBBDBBBBBBBBeWbKbAGbALcECbFDGCGCGCD",
    "bJMBbABTBCBPCObIeTcRcBkHbDDbXbVbGNbEFbMKbECbKEIBFbQgCSbKEbKEbOIcAMLBPBHBCBLBPBHBCcPlZJWKIYGB",
    "bQBJcRGCBBbSBCDBCXKXJbFcNTBCKWKbAcScEGCcMBPEBDBbDbQbDDbDbJIBbCbBcCKWKTNSeGcVcDbZNbZNbKnKbQGC",
    "dAbDKBIWbQSbUVbBXMcBcFCCBNbTbGZbAbKbDBCBIbJDBMbWOEVBBBbJSBZTCcLHBBBEBPBKHbVbMICCCWBHBCBFDBSB",
    "MFgCcBSEUDbEbWUCBBhCbVbPEbKbWUBcHbRNBcTbBbLHhDbSeMcMbFICBCIBCBYPBBBdQICbNQBBBbCBKbOHBVBLbUTB",
    "ScVkDJBbLRBbXbEeIHBCBbMVBZGBCBbGOBmPTPBBNBbIeUBdBbjMdYeHRhOdxKdTPbpGRGfyVwLmuBvXHbFRdBRbESbW",
    "QEbFVFTbaMcMeYcXFBcONcMCBBbCjcAIbvQbQJnfREBHBCBlFPBbDDCBOEIpGdkUeDFNDJHKiwKdHBcTBCCBCCCEBMBB",
    "BHBcNBECIBHBbCBEBFBBDHBnCCZBZBbFBZBbFBZBbFBZBbFBZBIcsYbFGGkBcKfQbTKHQBmJbESbSsQbCbdCHBEBCBPB",
    "hPcHcQHBbuIEBbBBCBBCBBKBEBBBBGBEBBBBBBDBCBBCBBBBBBBBBBCBBCEBHBEBEBBBKBRFDBFBRgoAclfCbGgdUGiO",
    "CinQOlbLepJuWcfYhhZFgfG"]⟩]

end StreamVerdict.Unicode
