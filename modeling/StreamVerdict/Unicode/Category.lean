import StreamVerdict.Unicode.RangeTable

/-!
# General categories

Every general category under its short and long names, groups included. Names are given in
the form in which loose matching compares them: lower case, without blanks, hyphens or
underscores.
-/

namespace StreamVerdict.Unicode

/-- The general categories and their groups. -/
def categories : List NamedTable := [
  ⟨["c", "other"],
    .ofLines [
    "AbGdRbHNBbbMCGEHBBBUBpHBbMCbYCDBcDIbBEGRWBhKBbWCcHCdXOcHCbXCPBbCCBBLFbFJcWBgFBICCCWBHBBDECJC",
    "CCEIBECBFCZCDBGECCWBHBCBCBCCBBFECCDDBHEBBHRKDBJBDBWBHBCBFCKBDBDCBPECMHHBDBICCCWBHBCBFCJCCCDH",
    "DECBFCSKCBGDDBEDCBBBCDCDDDMEFDDBECBGBOVFNBDBXBQCJBDBEHCBDCBCECKHWBDBXBKBFCJBDBEHCGCBECKBDMNB",
    "DBbZBDBGEQCbABDBSDYBJBBCHDBEGBBBIGKCDMcGEbDbLCBBBFBYBBBXCFBBBHBKCEbGcUBbKEbNBbKBPBNbLhQBBFBC",
    "oNBECHBBBECbPBECbHBECHBBBECPBcFBECcPCbGDbAGdICGCzTDdLHWJYJUMNBDBCMdQCKGKGOBLGdLHbRFcSKbFBMEM",
    "EBDbQCFLbSEbAGLDcKCcNBbDCLGKGOCbFbXcZDbVBeMIcIDPDcIHbRCLIbRFuOCGCbMCGCIBBBBBBBbFCcBBPBOCGBTC",
    "DBJBLFbAFbXQCCbBBNDbHPbHPfKEzNZLVcrSCbGBnLFbTBBFBCcEHCOYJHBHBHBHBHBHBHBHBeWbIbABdLMiGbAMEcMB",
    "dICdZFbRBdQBdGMbVBbriRDcDJnKUhCIhVFCBBBFYcHDKGcEIcSIMGeMLbEDdABLEbHBcDJOCKCdZYbCKGCGCGJHBHBc",
    "IEeWCKGqnSMXEbXmnCoCCeCbMHMFFbABFBBBCBCBeVQrDCcCHBbGbQGbZBTBEEFBfFEhIDGCGCGCDDHBHNCCMBbABTBC",
    "BPCObIeTFDEbTDdKBNDBbVbUfAbDDbXPbCEbKJbEFbRFbEBbLEObQgCCKGbKEbKEbOIcALMBPBHBCBLBPBHBCcPlZJWK",
    "IYGBbQBJcRGCBBbSBCDBCXBcUIJbWTBCFbHDbBFBcMcEEUCbYBCFIBDBbDCDEKHJHcMbGbNEMJcCDbDCbBFbAHEMHdCc",
    "VcDbZNbZHbUIKlIbFBbQBDCCcXbRIbQWbAbMbCUXJdAEbKJcKBFNZHKGcBBSIbNJdSBULSBbVcKHBBBEBPBLGcHFKGEB",
    "ICCCWBHBCBFBKCCCDCBGBFHCHDFfJdOBFbEcUIKgKcCCbMbIcRLKGNTcGGKcCbBCPEXhDcIdWdFMICBCIBCBbEBCCMJK",
    "cSICbUCLbBcUIdFNcVHKjMJBbTBOKbDDbGCWBOcVHBCBbSDBBCBJIKGGBCBbLBCBGHKlYZHRBbPDbCdIBPbYNbjNdYeH",
    "BFLhOdxKdVNbpGQWfyGwLmuBvXHbFBKEdDBKGbECGKcSKKBHBVFTbaMdNdXcXEcFHRcMFLCOjcAIbvQbQJnfREBHBCBl",
    "FPBbDDCBOEIpGdkUeDFNDJHKCEgyYbUCXJeMcIjMKbNCcWIeIVcSeSUMUMdJJZfFdHBcTBCCBCCCEBMBBBHBcNBECIBH",
    "BbCBEBFBBDHBnCClGCbbAPFBPbqMbFGGiFHBRCHBCBFFcKbHBeIbTDOCKECmIbFRcGFBrWbQbcOHBEBCBPBhPCQbPcYE",
    "KECbeFcQcYcJhMEBbBBCBBCBBKBEBBBBGBEBBBBBBDBCBBCBBBBBBBBBBCBBCEBHBEBEBBBKBRFDBFBRcACkKbSEdWMP",
    "CPBPBbLKgScEbDNbSEJHCOGfYblWERDNDePEdRGMEBPMEcEIKGbOIbECCdAnCMOCNDJHbUBHIOEJHJHfRBcDbLKbnQcl",
    "fCbGgdUGiOCinQOlbLepJuWcfYhhZFgfGbonhGjG"]⟩,
  ⟨["cc", "control", "cntrl"],
    .ofText "AbGdRbH"⟩,
  ⟨["cf", "format"],
    .ofText "gRBcaKGWBhKBbXBoUCdCBftJBdaQFbAFbXFBKdghJBjPDgiZBPBnkKQbzqUEhwXIbtkzMBbEdS"⟩,
  ⟨["cn", "unassigned"],
    .ofLines [
    "biECGEHBBBUBpHBbMCbYCDBcDIbBEGLkKBcICdXOcHCbXCPBbCCBBLFbFBCGjCBICCCWBHBBDECJCCCEIBECBFCZCDBG",
    "ECCWBHBCBCBCCBBFECCDDBHEBBHRKDBJBDBWBHBCBFCKBDBDCBPECMHHBDBICCCWBHBCBFCJCCCDHDECBFCSKCBGDDBE",
    "DCBBBCDCDDDMEFDDBECBGBOVFNBDBXBQCJBDBEHCBDCBCECKHWBDBXBKBFCJBDBEHCGCBECKBDMNBDBbZBDBGEQCbABD",
    "BSDYBJBBCHDBEGBBBIGKCDMcGEbDbLCBBBFBYBBBXCFBBBHBKCEbGcUBbKEbNBbKBPBNbLhQBBFBCoNBECHBBBECbPBE",
    "CbHBECHBBBECPBcFBECcPCbGDbAGdICGCzTDdLHWJYJUMNBDBCMdQCKGKGbAGdLHbRFcSKbFBMEMEBDbQCFLbSEbAGLD",
    "cKCcNBbDCLGKGOCbFbXcZDbVBeMIcIDPDcIHbRCLIbRFuOCGCbMCGCIBBBBBBBbFCcBBPBOCGBTCDBJBdXBMCbBBNDbH",
    "PbHPfKEzNZLVcrSCbGBnLFbTBBFBCcEHCOYJHBHBHBHBHBHBHBHBeWbIbABdLMiGbAMEcMBdICdZFbRBdQBdGMbVBbri",
    "RDcDJnKUhCIhVFCBBBFYcHDKGcEIcSIMGeMLbEDdABLEbHBcDJOCKCdZYbCKGCGCGJHBHBcIEeWCKGqnSMXEbXEnbACe",
    "CbMHMFFbABFBBBCBCBeVQrDCcCHBbGbQGbZBTBEEFBfFCBBhIDGCGCGCDDHBHKFCMBbABTBCBPCObIeTFDEbTDdKBNDB",
    "bVbUfAbDDbXPbCEbKJbEFbRFbEBbLEObQgCCKGbKEbKEbOIcALMBPBHBCBLBPBHBCcPlZJWKIYGBbQBJcRGCBBbSBCDB",
    "CXBcUIJbWTBCFbHDbBFBcMcEEUCbYBCFIBDBbDCDEKHJHcMbGbNEMJcCDbDCbBFbAHEMHdCcVcDbZNbZHbUIKlIbFBbQ",
    "BDCCcXbRIbQWbAbMbCUXJdAEbKJcQKBCZHKGcBBSIbNJdSBULSBbVcKHBBBEBPBLGcHFKGEBICCCWBHBCBFBKCCCDCBG",
    "BFHCHDFfJdOBFbEcUIKgKcCCbMbIcRLKGNTcGGKcCbBCPEXhDcIdWdFMICBCIBCBbEBCCMJKcSICbUCLbBcUIdFNcVHK",
    "jMJBbTBOKbDDbGCWBOcVHBCBbSDBBCBJIKGGBCBbLBCBGHKlYZHRBbPDbCdIBPbYNbjNdYeHBFLhOdxKdVNbqSfyGwLm",
    "uBvXHbFBKEdDBKGbECGKcSKKBHBVFTbaMdNdXcXEcFHRcMFLCOjcAIbvQbQJnfREBHBCBlFPBbDDCBOEIpGdkUeDFNDJ",
    "HKCIgyUbUCXJeMcIjMKbNChMVcSeSUMUMdJJZfFdHBcTBCCBCCCEBMBBBHBcNBECIBHBbCBEBFBBDHBnCClGCbbAPFBP",
    "bqMbFGGiFHBRCHBCBFFcKbHBeIbTDOCKECmIbFRcGFBrWbQbcOHBEBCBPBhPCQbPcYEKECbeFcQcYcJhMEBbBBCBBCBB",
    "KBEBBBBGBEBBBBBBDBCBBCBBBBBBBBBBCBBCEBHBEBEBBBKBRFDBFBRcACkKbSEdWMPCPBPBbLKgScEbDNbSEJHCOGfY",
    "blWERDNDePEdRGMEBPMEcEIKGbOIbECCdAnCMOCNDJHbUBHIOEJHJHfRBcDbLKbnQclfCbGgdUGiOCinQOlbLepJuWcf",
    "YhhZFgfGbomxLBbEdSeYjGdsfOdsyOCdsyO"]⟩,
  ⟨["co", "privateuse"],
    .ofText "dgvOjmEcahxOdsyOCdsyO"⟩,
  ⟨["l", "letter"],
    .ofLines [
    "cNbAGbAbVBKBEBFXBbFBrQEMOFHBBBeZFBCCEBBGBBDBBBUBdFBfJIgKBbMCBGbPcTbBEEbTbRbJCBdVBBPCHCKDCBQB",
    "BbEbDdLLBYbHJCEBFWEBJBDBXZHLFYBGRbQcGcCDBSBHKPQEICCCWBHBBDEDBQBNCBDOCKBIGECCWBHBCBCBCbFEBBTD",
    "QJBDBWBHBCBFDBSBPCXBLICCCWBHBCBFDBbECBDPBRBBGDDBEDCBBBCDCDDDMWBcAIBDBXBQDBbADCBCCbEBEIBDBXBK",
    "BFDBbFCBCPCRJBDBbPCBQBFDIDYGFSDYBJBBCHcGbWBCMHcGCBBBFBYBBBKBCJBCFBBVEbGBcLIBbKbBFeLbRUBQGEED",
    "BDCHDENMBRbMBBFBCbRBmVBECHBBBECbPBECbHBECHBBBECPBcFBECcPbLQQdICGDxWCRBbAFcXGIHSNTOSONBDPcAbJ",
    "BEBcPdLHFCbIBBFcSKbFbXbECFLbSEbAcCXJcBdEBdPbVRIcCbENCKbSbAbKbPDKbKCJHbRCDbPEBGBCDBFhKcMkSCGC",
    "bMCGCIBBBBBBBbFCcBBHBBDDBHDECGENFDBHeMBNBQNdXBEBCKBBDFGBBBBBBEBLCEFFEBcACdzFiVGEDCMbMBBFBCcE",
    "HBQXJHBHBHBHBHBHBHBHdCBsBCbQFFCEdIGDBdMBEFbRBdQRbGbWQtSjtOcMbguFcPbUCkJDQKCUbVQbFCcSbXJCdZCc",
    "MFCBBBFYQBDBEBXbDcAObYcKGDBBCLbCKXZbDHbVbCBQFBKKFBbPXDBIUXDBDbYBBDCCFCBBBYDCLHDMGCGCGJHBHBbR",
    "BOGeLbDqnSMXEbXmnCoCCeCbMHMFFBBKBNBFBBBCBCBeEbHnZScMCcCbOMeMFBfFbKbAGbALdLDGCGCGCDbJMBbABTBC",
    "BPCObIeToZbDDbXbVbGNUBIGbMKbECbKEIbWgCSbKEbKEbOIcAMLBPBHBCBLBPBHBCcPlZJWKIYGBbQBJcRGCBBbSBCD",
    "BCXKXJbFcNTBCKWKbAcScEGCcMBPEBDBbDbQbDDbDbJIBbCbBcCKWKTNSeGcVcDbZNbZNbKnKbQGCdAbDKBIWbQSbUVb",
    "BXMcBcFCCBNbTbGZbAbKbDBCBIbJDBMbWOEVBBBbJSBZTCcLHBBBEBPBKHbVbMICCCWBHBCBFDBSBMFgCcBSEUDbEbWU",
    "CBBhCbVbPEbKbWUBcHbRNBcTbBbLHhDbSeMcMbFICBCIBCBYPBBBdQICbNQBBBbCBKbOHBVBLbUTBScVkDJBbLRBbXbE",
    "eIHBCBbMVBZGBCBbGOBmPTPBBNBbIeUBdBbjMiWhOdxKdTPbpGRGfyVwLmuBvXHbFRdBRbESbWQEbFVFTbaMcMeYcXFB",
    "cONcMCBBbCjcAIbvQbQJnfREBHBCBlFPBbDDCBOEIpGdkUeDFNDJHKiwKdHBcTBCCBCCCEBMBBBHBcNBECIBHBbCBEBF",
    "BBDHBnCCZBZBbFBZBbFBZBbFBZBbFBZBIcsYbFGGkBcKfQbTKHQBmJbESbSsQbCbdCHBEBCBPBhPcHcQHBbuIEBbBBCB",
    "BCBBKBEBBBBGBEBBBBBBDBCBBCBBBBBBBBBBCBBCEBHBEBEBBBKBRFDBFBRgoAclfCbGgdUGiOCinQOlbLepJuWcfYhh",
    "ZFgfG"]⟩,
  ⟨["lc", "casedletter"],
    .ofLines [
    "cNbAGbAcGBKXBbFBhNBEEiABbBhKECCDDBBGBBDBBBUBdFBfJIgKBbMJbPefFbMBBFBCbRCDzWdICGdfUJHbRCDcMbSc",
    "LNBbIdXkSCGCbMCGCIBBBBBBBbFCcBBHBBDDBHDECGENFDBHkBBEBCKBBDFGBBBBBBEBGEBCEFFEBcACdzFeUCdZGEDC",
    "MbMBBFBbtwCbUSbCfEdABXDEBcHFCBBBFbBCDBbfPbRFJHdCbeaIHMFbnTbAGbAbtTdCdSbKEbKeMLBPBHBCBLBPBHBC",
    "coPbZNbZekZcMbgiQcMbmlKdHBcTBCCBCCCEBMBBBHBcNBECIBHBbCBEBFBBDHBnCCZBZBbFBZBbFBZBbFBZBbFBZBIc",
    "sYKBUGGdsVcQ"]⟩,
  ⟨["ll", "lowercaseletter"],
    .ofLines [
    "dTbAcGBbPYBIBBBBBBBBBBBBBBBBBBBBBBBBBBBBBBBBBBBBBBBBBBBBBBBBBBBBBBBCBBBBBBBBBBBBBBBCBBBBBBBB",
    "BBBBBBBBBBBBBBBBBBBBBBBBBBBBBBBBBBBBBBCBBBBDCBBBCBDCEBCBDDCBCBBBBBCBBCBBCBDBBBCCCDGBCBCBBBBB",
    "BBBBBBBBBBBCBBBBBBBBBBBBBBBBBCCBBBDBBBBBBBBBBBBBBBBBBBBBBBBBBBBBBBBBBBBBBBBBBBBBBBBBBBBBBBBB",
    "BHCBCCBBEBBBBBBBBcRBbBhLBBBDBDDSBbBbJBCDDBBBBBBBBBBBBBBBBBBBBBBBFBBCBCCbZbWBBBBBBBBBBBBBBBBB",
    "BBBBBBBBBBBBBBBBBJBBBBBBBBBBBBBBBBBBBBBBBBBBBBBBBBBBBBBBBBBBBBBBBBBBBBBCBBBBBBBBBBBBCBBBBBBB",
    "BBBBBBBBBBBBBBBBBBBBBBBBBBBBBBBBBBBBBBBBBBBBBBBBBBBBBBBBBBBBBBBBBBBBBBBBBBBBBBBBBBBBBBBBBbWb",
    "PehBbRCDbdGGdfUJePbScLNBbIdYBBBBBBBBBBBBBBBBBBBBBBBBBBBBBBBBBBBBBBBBBBBBBBBBBBBBBBBBBBBBBBBB",
    "BBBBBBBBBBBBBBBBBBBBBBBBBBBBBBBBBBBBBBBBBBBBBBBBBBBBBBBBBBBBBBBBBBBBBBBBBBBBBBBBBBBBJBBBBBBB",
    "BBBBBBBBBBBBBBBBBBBBBBBBBBBBBBBBBBBBBBBBBBBBBBBBBBBBBBBBBBBBBBBBBBBBBBBBBBBBBBBBBBBBBBBBBBJI",
    "GKIIIIGKIIIIOCIIIIIIFBCGBDDBCIECCIIKDBCkOBDCDBbBBEBEBCCIEEBcBBebBbWBBDCBBBBBBEBBCBGFBBBBBBBB",
    "BBBBBBBBBBBBBBBBBBBBBBBBBBBBBBBBBBBBBBBBBBBBBBBBBBBBBBBBBBBBBBBBBBBBBBBBBBBBBBBBBBBBBBBBBBCH",
    "BBBEBMbMBBFBbtwDBBBBBBBBBBBBBBBBBBBBBBBBBBBBBBBBBBBBBBBBBBBBBTBBBBBBBBBBBBBBBBBBBBBBBBBBBfFB",
    "BBBBBBBBBBBDBBBBBBBBBBBBBBBBBBBBBBBBBBBBBBBBBBBBBBBBBBBBBBBBBBBBBBBBBBBBBBBIBBBBCBBBBBBBBBEB",
    "BBCBBDBBBBBBBBBBBBBBBBBBBBFBFBBBBBBBBBBBBBBBEBBBGBBBBBBBBBbCBDBbfPbRFJHdCbeaIHMFboZbAbvHbOfG",
    "bKfZLBPBHBCcrBbZemFbGbgjWbGbmmKbAbAHBSbAbAbAEBBBHBLbAbAbAbAbAbAbAbAbAbAbAbAbAbAbAbAbAbCbCZBG",
    "bAZBGbAZBGbAZBGbAZBGBBcsYKBUGGduDbI"]⟩,
  ⟨["lm", "modifierletter"],
    .ofLines [
    "baMSEMOFHBBBfDBFBsKBiWBgICkJCEBbFBJBDBgEBgLBbvOBeXBvTBcpMBeDBxNBrWGgScLNBbIbLbaNBNBQNemXCjHB",
    "hJBsBBbRFFBdTCdPDbqbUBbwCGkKBeKBbCCeRJdCBXBeBDDCsBBWBfHBeEBVCdZEJBbfvIBbTCczOGBbQBJblrXEbqLN",
    "cMCBBygQEBHBCsgNcKhTHbkFBbrBB"]⟩,
  ⟨["lo", "otherletter"],
    .ofLines [
    "gOBPBjWBEEiABbfVbBEEbTbGBKbJCBdVBBYCKDCBQBBbEbDdLLBYbHVWbQZHLFYBGRbPcHcCDBSBHKQPEICCCWBHBBDE",
    "DBQBNCBDOCKBIGECCWBHBCBCBCbFEBBTDQJBDBWBHBCBFDBSBPCXBLICCCWBHBCBFDBbECBDPBRBBGDDBEDCBBBCDCDD",
    "DMWBcAIBDBXBQDBbADCBCCbEBEIBDBXBKBFDBbFCBCPCRJBDBbPCBQBFDIDYGFSDYBJBBCHcGbWBCMGcHCBBBFBYBBBK",
    "BCJBCFXEbGBcLIBbKbBFeLbRUBQGEEDBDCHDENMBeJmRBECHBBBECbPBECbHBECHBBBECPBcFBECcPbLQeJxWCRBbAFc",
    "XGIHSNTOSONBDPcAbOBcPbJBcBHFCbIBBFcSKbFbXbECFLbSEbAcCXJcBgUbVRIcCbENCKbSbAbKbPDKbEeJEBGBCDBb",
    "pQEenVcEYXJHBHBHBHBHBHBHBHvFBcBBEdIIBBdMEBFbRBdQRbGbWQtSjtOcMbfcFBbrZcPbOIkIEQKCcOBbXcSgNBdZ",
    "BDHBDBEBXbDcAObYcKGDBBCLbCKXZbDHbVbTFCJKFBbPXDBIUQBGDBDbYBBDCCFCBBBYCDLHBOGCGCGJHBHfPbJbDqnS",
    "MXEbXmnCoCCeCcPBBKBNBFBBBCBCBeEbHnZScMCcCbOMeMFBfFeBKBbTCbFDGCGCGCDbJMBbABTBCBPCObIeToZbDDbX",
    "bVbGNUBIGbMKbECbKEIeYdAdUbOIcAgAlZJWKIfWGCBBbSBCDBCXKXJbFcNTBCKWKbAcScEGCcMBPEBDBbDbQbDDbDbJ",
    "IBbCbBcCKWKTNSeGcVhBbKnKbQGCdAbDKBIWbQSbUVbBXMcBcFCCBNbTbGZbAbKbDBCBIbJDBMbWOEVBBBbJSBZTCcLH",
    "BBBEBPBKHbVbMICCCWBHBCBFDBSBMFgCcBSEUDbEbWUCBBhCbVbPEbKbWUBcHbRNBcTbBbLHhDbSiDICBCIBCBYPBBBd",
    "QICbNQBBBbCBKbOHBVBLbUTBScVkDJBbLRBbXbEeIHBCBbMVBZGBCBbGOBmPTPBBNBbIeUBdBbjMiWhOdxKdTPbpGRGf",
    "yVwLmuBvXHbFRdBRbESbWbZVFTbhWcXFBgTjcAIbvQbQJngHlFPBbDDCBOEIpGdkUeDFNDJHKnbCBtHbTbHBmJbESbSs",
    "QbBbdDHBEBCBPBhPbzNEBbBBCBBCBBKBEBBBBGBEBBBBBBDBCBBCBBBBBBBBBBCBBCEBHBEBEBBBKBRFDBFBRgoAclfC",
    "bGgdUGiOCinQOlbLepJuWcfYhhZFgfG"]⟩,
  ⟨["lt", "titlecaseletter"],
    .ofText "rLBCBCBbMBlfHIIIIIMBPBbVB"⟩,
  ⟨["lu", "uppercaseletter"],
    .ofLines [
    "cNbAdXXBHbHBBBBBBBBBBBBBBBBBBBBBBBBBBBBBBBBBBBBBBBBBBBBBBBBBBBBBBBCBBBBBBBBBBBBBBBCBBBBBBBBB",
    "BBBBBBBBBBBBBBBBBBBBBBBBBBBBBBBBBBBBBCBBBBDCBBBCBDCEBCBDDCBCBBBBBCBBCBBCBDBBBCDBHBCBCBCBBBBB",
    "BBBBBBBBBBCBBBBBBBBBBBBBBBBBCBCBBDBBBBBBBBBBBBBBBBBBBBBBBBBBBBBBBBBBBBBBBBBBBBBBBBBBBBBBBBBB",
    "HCBCCBBEBBBBBBBBlDBBBDBIBGBBDBBBCBRBJbJBCDDBBBBBBBBBBBBBBBBBBBBBBBFBCBBCCbZbWBBBBBBBBBBBBBBB",
    "BBBBBBBBBBBBBBBBBBJBBBBBBBBBBBBBBBBBBBBBBBBBBBBBBBBBBBBBBBBBBBBBBBBBBBBBBCBBBBBBBBBBBBCBBBBB",
    "BBBBBBBBBBBBBBBBBBBBBBBBBBBBBBBBBBBBBBBBBBBBBBBBBBBBBBBBBBBBBBBBBBBBBBBBBBBBBBBBBBBBBBBBBBCb",
    "MehDbMBBFBbbUdIdgSbRCDmIBBBBBBBBBBBBBBBBBBBBBBBBBBBBBBBBBBBBBBBBBBBBBBBBBBBBBBBBBBBBBBBBBBBB",
    "BBBBBBBBBBBBBBBBBBBBBBBBBBBBBBBBBBBBBBBBBBBBBBBBBBBBBBBBBBBBBBBBBBBBBBBBBBBBBBBBBJBBBBBBBBBB",
    "BBBBBBBBBBBBBBBBBBBBBBBBBBBBBBBBBBBBBBBBBBBBBBBBBBBBBBBBBBBBBBBBBBBBBBBBBBBBBBBBBBBBBBBJIIGK",
    "IIIIGLBBBBBBBIIcUEMEMEMFLEkCBEBDDCDCBDFGBBBBBBECEKCFBcJBdzGbWbWBBDCBBBBBBEBBCBIDBBBBBBBBBBBB",
    "BBBBBBBBBBBBBBBBBBBBBBBBBBBBBBBBBBBBBBBBBBBBBBBBBBBBBBBBBBBBBBBBBBBBBBBBBBBBBBBBBBBBBBIBBBEB",
    "btyJBBBBBBBBBBBBBBBBBBBBBBBBBBBBBBBBBBBBBBBBBBBBBTBBBBBBBBBBBBBBBBBBBBBBBBBBBfFBBBBBBBBBBBBB",
    "DBBBBBBBBBBBBBBBBBBBBBBBBBBBBBBBBBBBBBBBBBBBBBBBBBBBBBBBBBBBBBKBBBBCBBBBBBBBEBBBCBBBDBBBBBBB",
    "BBBBBBBBBBBBBFBFBBBBBBBBBBBBBBBEBBGBFBBBbCBbhaHbAbuZbOfGbKgALBPBHBCcqCbZenLbGbgjWbGbmmQbAbAb",
    "AbAbAbABBCCBCCCEBIbAbAbACBECIBHbBCBEBFBBDHbBbAbAbAbAbAbAbAbAbAbAbAbEZbHZbHZbHZbHZbHBgnLbI"]⟩,
  ⟨["m", "mark", "combiningmark"],
    .ofLines [
    "bdOeIkPHkDbTBBBCBCBBcULbWVQBdXHCGCCBEbJBbEbBdNLcGJJBYEBJBDBFbRDcIIbQYBbHcCDBSBHKCbDDcEBBHCCC",
    "DJBKCbABCDcEBBFECCDDBbECDBLDcEBBIBDBDUCWGBDcEBBHCCCDHDKCbEBcHFDDBEJBbOFcDBBHBDBEHCLCbDDcEBBH",
    "BDBEHCLCPBMEcDCBHBDBEJBKCbDDcSBEGBBBISCcJBCHMIdUBCJLHcVCbBBBBBBECbXUBCFLBbKJBdWUXEEDBDCHDENM",
    "BBKEbbBDbkKEbCDbDCbECcMbGJBbTDBBeNCbIBeOMEMiLFcFKBbDCBbWbFbXFbVRbMJMDbENcEObWUfWDBVEBGBCDhQc",
    "MbbSbHeoCDfLBdSbGvIGeBCbsqEEBKbGCdCCkMBDBEBXFEBdFCbYSbASNBbMIZNbSEbVObKBcPOMBICbTDbYBBDCCFCB",
    "BbPFFCjCIBCbdzSBbcJQQQblLBiSBfTFcmGDBCFEbODEBgJCwBEoXCdCDcSLbXEeSDcBPbPBCCKEbTLHBcJDbKOQCbSB",
    "MDbWOIEBCdOMGBCBgBMVEcDCBHCCCDJBKCCHDFhKSXBdDUjBHCJbBCdEReCNdXPjWPjLGBCCEBBBCfLHCHDBbCKbOHBE",
    "IBJLbUQpPIBIdEWBOeSGDBBCBHBBcOFBCBFnJEJCBBbWHDFhyRBGPurQFcHHboIBBcDHEdDBLCbdaXCgyZbUCXuWFDGI",
    "ICHbEEfSDcyDcDEbYIBOBWFBPcaIHBRCHBCBFdWBgEHoLBcJEtOEbmEHeFHbtciVjG"]⟩,
  ⟨["mc", "spacingmark"],
    .ofLines [
    "dkTBcDBCDIEBCbYCcGDGCCCKBbRBcGDcOBcGDIBBCcBCcGBBBGCCCKBdYCBCDDBDKBbPDcJEcJCcGBBFCCBCJCbCBOCc",
    "GDFDBDKBbQCcXDGISCmSCcLBgPCEBGBCCZCKDCHVCCGCBKDclSBbEBeZBHIBCnIECDECBGiQCcGBBBJBBCIGfPBbWBFB",
    "BFBCcJBbEBECCBcIBCDBBDCbWIICgPBVBhhECbtlBCCBdKCbYQfMCbVBbWCECCDeGCCCYBbTBBBeFBCCFBjDCBCBCBBb",
    "lxJBBBeXBbTDECeLBYCcHBbWDJCNBdPDDCBBgODbFCcGCBECCCDJBKCiBDICDBeCDGBBECBjDDGECBeJDICBBeFBBCGB",
    "eBCEBkBDJBjNGBCEBCBBBfMDIEEBdGBbDCcKBpRBOBeCBHBCBiFFECBBnMCMBbWCICBBbeiHcDeACbkxNCGG"]⟩,
  ⟨["me", "enclosingmark"],
    .ofText "bsQCikQBciGEBDbyoXD"⟩,
  ⟨["mn", "nonspacingmark"],
    .ofLines [
    "bdOeIkPFkFbTBBBCBCBBcULbWVQBdXHCGCCBEbJBbEbBdNLcGJJBYEBJBDBFbRDcIIbQYBbGcDBBBEIEBDHKCbDBcGBE",
    "EIBUCbABCCcFBECECCDDBbECDBLCcFBEFBCEBUCWGBBcGBCBBEIBHCLCbEBcJBMBbYBDBcDBBDFDBEHCLCbDBcGBCBGB",
    "FCUCbCCcFCEEIBUCbDBcUBHDBBdMBCHMIdUBCJLHcVCbBBBBBBcDOBFBCFLBbKJBdYEBGBCCCZCEDQENBCCGBPBbbBDb",
    "kKDbDCbECbECcMCBHIBCLJBbTDBBeNCbIBeODECJBGDiLCCBcGBBHBBBBCIGKCBbWOBQbXEbWBBFBBFBbOJMCbGECCBD",
    "cEBBCDBBDcGICCfWDBNBHEBGBDChQcMbbSNEBDMeoCDfLBdSbGvIEeDCbsqEBEKbGCdCCkMBDBEBZCFBfVCbASNBbMIZ",
    "LbUDbWBCECCbNBcPGCCCCMBIBbVBbZBBDCCFCBBbQCIBjEBCBEBbdzSBbcJQQQblLBiSBfTFcmGDBCFEbODEBgJCwBEo",
    "XCdCDcSLbXEeTBcCPbPBCCKDbXECCHBcJDbKFBIcKBMCcAJKECBdRDCBBCGBCBgBBDIVCcFCDBbLHDFhNICDBBXBdGGB",
    "BECBCjEEGCBCbBCdHICBBCeCBBBCGBBdXDCEBFjZJBCjWCBBEBfOECCEBbGKbOGCEIBJGCDbUNBCpQHBGBBdEWCHBCBC",
    "eSGDBBCBHBBcUCDBBBnJCLCcAFFBBBhyRBGPurQFcHHboIBcLEdDBbdbKCgyZbUCXuYDRICHbEEfSDcyDcDEbYIBOBWF",
    "BPcaIHBRCHBCBFdWBgEHoLBcJEtOEbmEHeFHbtciVjG"]⟩,
  ⟨["n", "number"],
    .ofLines [
    "bWKeQCFBCDcdLKfEKhQKpWKeOKEGeEKeOKeOKCGeGNeLKIHdZKeAHHTeFKdSKeOKcSUkIKcSKbbRUbhXDjFKGKWKlOKe",
    "YLgJKGKhAKdIKfEKGKboGBDGGKhQbZCFbbYcIdAWyGbEcbHBbdXBZJODnFEfIKbEIBPbGKbNPbrsAKhGKmIGfYKbMKhQ",
    "KWKdIKpQKbfmCKsZbTMcFRCnDbBbKEbDBIBfEFhUKbkGIZHbNJcXFWGgECCQCbUcMJcACbEDcXFeAIYIbPHmSGbWKlIb",
    "FgCKbQEeIHfEbEeYKcIKfOKHUjRKnEKeOKoKKdYKdYMqETdPKbdEbDiTKcSKqGKdYVbpBeHbamRKdIKfEKBHbeSXblyF",
    "UMUeEZbqRbYdnCKqGKtIKblLJeYKbeLcHBDBEcYbTBPblANedFK"]⟩,
  ⟨["nd", "decimalnumber", "digit"],
    .ofLines [
    "bWKciOKfEKhQKpWKeOKeOKeOKeOKeOKeOKeOKeOKeOKdSKeOKcSKkSKcSKctQKbMKlOKeYKgKKGKhAKdIKfEKGKcaeOK",
    "baCKbMKhQKWKdIKpQKbfmCKccKKdfYKbfGKeYKcIKfOKkSKnEKeOKoKKdYKdYKqGKdYKbdEKjMKcSKqGKbckSKdIKfEK",
    "bpbWbYdnCKqGKtIKbqSKhbAK"]⟩,
  ⟨["nl", "letternumber"],
    .ofText "irUDdyTbJCEfmSBZJODbsyLKbifGcBrSBIBfEFmeSeH"⟩,
  ⟨["no", "othernumber"],
    .ofLines [
    "gWCFBCDdmRGoMGeQDfDHiJHRJqRKbpLUbrVKsMBcmVBDGGKhQQbPBbbYcIdAWyGbEcbHBbtCEfIKbEIBPbGKbNPbsmIG",
    "bhqNbTcNERCnDbBbKEbzGIZHbNJcXFWGgECCQCbUcMJcACbEDcXFeAIYIbPHmSGnObFgCKbQEeIHfEUoPUbzXCqOJbhN",
    "TbgTVbcpQHbeSXblyFUMUeEZibUJbjTcHBDBEcYbTBPblAN"]⟩,
  ⟨["p", "punctuation", "punct"],
    .ofLines [
    "bHDBGBEKCDCbADBBbBBBBbJBFBDBKCDBDBbbABIBrYGbPCbZBBBCBCBbSCUCBCNBBDcWEdYBbROiZDcCPbFBkBCKBfKB",
    "eQBeRBpABMBoDBdMBKCgMPBBbLEcTBcWFECeHGgPBxOJfVBxXBbSCdADcTCgBDBDbLLmBCiICeYHBGgQHbCCeVEcHFcK",
    "CcMILBbfWYIUBNBMbECOCyJEbDCbpTOdBCbFKpNWcLEbGCbdJEBCeIBfNbVBbGCMqDDEKCMQBMBdUBdMBbryGCkJDdVB",
    "KBeLGoQEdICbODBBbXCbVBdTNQCeUEeWCQCjPBbeuSCiAKWbJBOBBEBBCfTDBGBEKCDCbADBBbBBBBBHpUDzSBbWBpYB",
    "bcPBhRBbFBkMJbMBeIHcOHdLEbeEBgLFbSEhHHeFCBEeWEbWCdBEEBNBBDdKGeDBqBFKCBBeABjQXeBDbCNcYBfADjSB",
    "kEDfZBdOIdFDBFdPKlZFbQCyVCcWNgTBbrSFejCCwdVCfDBcNFIBbgSEmPBbdbOBliLFfpYC"]⟩,
  ⟨["pc", "connectorpunctuation"],
    .ofText "dRBmbVCTBdgaOCYDjFB"⟩,
  ⟨["pd", "dashpunctuation"],
    .ofText "bTBcaUBbZBfkJBbnPBdbDGfhXBCBbFCEBbCBrEBTBeHBczwACbLBKBgNBfxVB"⟩,
  ⟨["pe", "closepunctuation"],
    .ofLines [
    "bPBbZBbFBfpDBBBcuOBdrDBcDBPByKBBBbEBbpUBBBBBBBBBBBBBdCBbGBBBBBBBBBpOBBBBBBBBBBBBBBBBBBBBBcMB",
    "BBbHBboVBBBBBBBbSBBBBBBBqMBBBBBBBBBDBBBBBBBCCczrQBiJBbDBBBBBBBBBBBBBBBDBRBBBBBgOBbZBbFBCBCB"]⟩,
  ⟨["pf", "finalpunctuation"],
    .ofText "hFBlwVBDBbCBffSBBBEBCBPBDB"⟩,
  ⟨["pi", "initialpunctuation"],
    .ofText "gPBlxKBCCCBZBffSBBBEBCBPBDB"⟩,
  ⟨["po", "otherpunctuation"],
    .ofLines [
    "bHDBDCBBBBCKCDCbBBcQBFBOCHBbbABIBrYGbPBcCBCBCBbSCUCBCNBBDcWEdYBbROiZDcCPbFBkBCKBfKBeQBeRBpAB",
    "MBoDBdMBKCgMPBBeIBcWFECeHGgPBxOJbdTBeUDcTCgBDBDbLGBEmBCiICeYHBGgQHbCCeVEcHFcKCcMILBbgCCIIIJC",
    "ECDDLBBBKeuCEBCeIBfNCEDCBCJBCBBCCKFBKCEBBBNCDqMDcFBhHBbryGCkJDdVBKBeLGoQEdICbODBBbXCbVBdTNQC",
    "eUEeWCQCjPBbfcUHCBWBUCCEDDBEHDGBBCfTDBDCBBBBCKCDCbBBbKBCCpUDzSBbWBpYBbcPBhRBbFBkMJbMBeIHcOHd",
    "LEbkQFbSEhHHeFCBEeWEbWCdBEEBNBBDdKGeDBqBFKCBBeABjQXeBDbCNcYBfADjSBkEDfZBdOIdFDBFdPKlZFbQCyVC",
    "cWNgTBbrSFejCCwdVCfDBcNFIBbgSEmPBbdbOBliLFfpYC"]⟩,
  ⟨["ps", "openpunctuation"],
    .ofLines [
    "bOBbYBbFBfpEBBBcuOBdpMBDBbMBcDBPByKBBBbEBbpUBBBBBBBBBBBBBdCBbGBBBBBBBBBpOBBBBBBBBBBBBBBBBBBB",
    "BBcMBBBbHBboVBBBBBBBZBSBBBBBBBqMBBBBBBBBBDBBBBBBBCBczrTBiHBbDBBBBBBBBBBBBBBBDBRBBBBBgOBbYBbF",
    "BDBCB"]⟩,
  ⟨["s", "symbol"],
    .ofLines [
    "bKBGBQDbFBBBbBBBBbJFBCCBBECBDBbEBbFBrQEMOFHBBBReNBOCeIBfJBkGDeODCBCChYBKBTCjNBHCfGBnXCGCjLBe",
    "WBfAIfCBhZBbPBhPBhLDPBBDCGUBBBBBfDIBGBCFEhPCbcYKbbVBoBBnSBgBbInPKJJbpWBBDLDNDNDNCcRBNBbNDNDT",
    "bHcLCBEBCKBBDFGBBBBBBEBLCEFFEBBcGCEoMEbDCjSZLdDdAWxSbSbXCbFKpNWcLEbGCoKCbGBeBiVGnTCbUbABdLMi",
    "GbAMIBNCMBVCGCdNCjJCEKbGbKbCbFLbEIBPbGKbNPmIjtOcMbguIcDvXXJCdZCgBEKEwBDiRBOCbefDBfGRoRQeXBbS",
    "EdUBBDCBfYBGBQDbFBBBbBBBBeZHBHNCmBJcFRCDBNDBbVbTclUCwTBesSBdgNbDbcnIEFBbeuWBhcDeMcIjMKbNCcIF",
    "DWCHbEEcJVcODBhEdJbhQBZBbFBZBbFBZBbFBZBbFBZBcItScDEbYIBOBCcoUBqPBdrGBDBeVBrHCkKbSEdWMPCPBPBb",
    "LXgFcEbDNbSEJHCOGfYblWERDNDePEdRGMEBPMEcEIKGbOIbECCdAnCMOCNDJHbUBHIOEJHJHfRBcD"]⟩,
  ⟨["sc", "currencysymbol"],
    .ofText "bKBeVEbwJBeTBtECtECHBjLBkDBwJBdqPBdiIbHbzhVBbgmLBeEBfYBiLCDCmcSEcvxEBdrKB"⟩,
  ⟨["sk", "modifiersymbol"],
    .ofText "dQBBBcTBGBEBDBuBEMOFHBBBReNBOCbxIBiuMBBDLDNDNDNCghOCbsvRXJCdZCblOBOCbekKRbiHBBBgGBdolJF"⟩,
  ⟨["sm", "mathsymbol"],
    .ofLines [
    "bRBQDcJBBBbTBEBbLBbFBbdMBuHDjyHBNBbNDNDfJBbNFGBcQFFCEBCBCBHBbFCCBBBbFkIbGCdMBbEZbOGsBBJBcCIe",
    "HBmYFCbFKQjWfBWcLEbGCjYbWVCGdasQBbfSBBDgIBQDcJBBBfBBGEddjGBZBbFBZBbFBZBbFBZBbFBZBiuEC"]⟩,
  ⟨["so", "othersymbol"],
    .ofLines [
    "gKBCBEBBBblPBkGCeXChYBKBTCjNBtVBoJBfAGBBfCBhZBbPBpBDPBBDCGUBBBBBfDIBGBCFEhPCbcYKbbVBbbUBgBbI",
    "nPKJJccHCBEBCKBBCGGBBBBBBEBLCOBBCBBcGCJFCEBCBCBHBbFCCBBBbFkIIEUCHCdDBbEZbOGcRZLdDdAWhBBJBcCI",
    "eHBjObSbScMjWtSbWVCGbNCbGBeBiVGnTCbUbABdLMiGbAMIBNCMBVCGCmYCEKbGbKbCbFLbEIBPbGKbNPmIjtOcMbgu",
    "IcDbhHEKCBBwBDbfjAQeXBbTDsQBDBECNCmBJcFRCDBNDBbVbTclUCwTBesSBdgNIERbcnIEFBbeuWBhcDeMcIjMKbNC",
    "cIFDWCHbEEcJVcODBhEdJbtXtScDEbYIBOBCcoUBehWBeZBbbTbSEdWMPCPBPBbLXgFcEbDNbSEJHCOGfYjRFbcAERDN",
    "DePEdRGMEBPMEcEIKGbOIbECCdAnCMOCNDJHbUBHIOEJHJHfRBcD"]⟩,
  ⟨["z", "separator"],
    .ofText "bGBeXBihJBdpNLbDCFBbVBfxWB"⟩,
  ⟨["zl", "lineseparator"],
    .ofText "meQB"⟩,
  ⟨["zp", "paragraphseparator"],
    .ofText "meRB"⟩,
  ⟨["zs", "spaceseparator"],
    .ofText "bGBeXBihJBdpNLbKBbVBfxWB"⟩]

end StreamVerdict.Unicode
