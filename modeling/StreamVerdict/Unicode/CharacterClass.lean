import StreamVerdict.Unicode.RangeTable

/-!
# Character classes

The classes of characters that reading and writing text ask about.
-/

namespace StreamVerdict.Unicode

/-- Controls, formats, surrogates, private use, unassigned code points and every separator but
the space: characters that a diagnostic shows by their code. -/
def unprintable : RangeTable :=
  .ofLines [
    "AbGdRbIMBbbMCGEHBBBUBpHBbMCbYCDBcDIbBEGRWBhKBbWCcHCdXOcHCbXCPBbCCBBLFbFJcWBgFBICCCWBHBBDECJC",
    "CCEIBECBFCZCDBGECCWBHBCBCBCCBBFECCDDBHEBBHRKDBJBDBWBHBCBFCKBDBDCBPECMHHBDBICCCWBHBCBFCJCCCDH",
    "DECBFCSKCBGDDBEDCBBBCDCDDDMEFDDBECBGBOVFNBDBXBQCJBDBEHCBDCBCECKHWBDBXBKBFCJBDBEHCGCBECKBDMNB",
    "DBbZBDBGEQCbABDBSDYBJBBCHDBEGBBBIGKCDMcGEbDbLCBBBFBYBBBXCFBBBHBKCEbGcUBbKEbNBbKBPBNbLhQBBFBC",
    "oNBECHBBBECbPBECbHBECHBBBECPBcFBECcPCbGDbAGdICGCyQBbCDdLHWJYJUMNBDBCMdQCKGKGOBLGdLHbRFcSKbFB",
    "MEMEBDbQCFLbSEbAGLDcKCcNBbDCLGKGOCbFbXcZDbVBeMIcIDPDcIHbRCLIbRFuOCGCbMCGCIBBBBBBBbFCcBBPBOCG",
    "BTCDBJRYIbVRCCbBBNDbHPbHPfKEzNZLVcrSCbGBnLFbTBBFBCcEHCOYJHBHBHBHBHBHBHBHBeWbIbABdLMiGbAMFcLB",
    "dICdZFbRBdQBdGMbVBbriRDcDJnKUhCIhVFCBBBFYcHDKGcEIcSIMGeMLbEDdABLEbHBcDJOCKCdZYbCKGCGCGJHBHBc",
    "IEeWCKGqnSMXEbXmnCoCCeCbMHMFFbABFBBBCBCBeVQrDCcCHBbGbQGbZBTBEEFBfFEhIDGCGCGCDDHBHNCCMBbABTBC",
    "BPCObIeTFDEbTDdKBNDBbVbUfAbDDbXPbCEbKJbEFbRFbEBbLEObQgCCKGbKEbKEbOIcALMBPBHBCBLBPBHBCcPlZJWK",
    "IYGBbQBJcRGCBBbSBCDBCXBcUIJbWTBCFbHDbBFBcMcEEUCbYBCFIBDBbDCDEKHJHcMbGbNEMJcCDbDCbBFbAHEMHdCc",
    "VcDbZNbZHbUIKlIbFBbQBDCCcXbRIbQWbAbMbCUXJdAEbKJcKBFNZHKGcBBSIbNJdSBULSBbVcKHBBBEBPBLGcHFKGEB",
    "ICCCWBHBCBFBKCCCDCBGBFHCHDFfJdOBFbEcUIKgKcCCbMbIcRLKGNTcGGKcCbBCPEXhDcIdWdFMICBCIBCBbEBCCMJK",
    "cSICbUCLbBcUIdFNcVHKjMJBbTBOKbDDbGCWBOcVHBCBbSDBBCBJIKGGBCBbLBCBGHKlYZHRBbPDbCdIBPbYNbjNdYeH",
    "BFLhOdxKdVNbpGQWfyGwLmuBvXHbFBKEdDBKGbECGKcSKKBHBVFTbaMdNdXcXEcFHRcMFLCOjcAIbvQbQJnfREBHBCBl",
    "FPBbDDCBOEIpGdkUeDFNDJHKCEgyYbUCXJeMcIjMKbNCcWIeIVcSeSUMUMdJJZfFdHBcTBCCBCCCEBMBBBHBcNBECIBH",
    "BbCBEBFBBDHBnCClGCbbAPFBPbqMbFGGiFHBRCHBCBFFcKbHBeIbTDOCKECmIbFRcGFBrWbQbcOHBEBCBPBhPCQbPcYE",
    "KECbeFcQcYcJhMEBbBBCBBCBBKBEBBBBGBEBBBBBBDBCBBCBBBBBBBBBBCBBCEBHBEBEBBBKBRFDBFBRcACkKbSEdWMP",
    "CPBPBbLKgScEbDNbSEJHCOGfYblWERDNDePEdRGMEBPMEcEIKGbOIbECCdAnCMOCNDJHbUBHIOEJHJHfRBcDbLKbnQcl",
    "fCbGgdUGiOCinQOlbLepJuWcfYhhZFgfGbonhGjG"]

/-- Characters that attach to the one before them. -/
def graphemeExtend : RangeTable :=
  .ofLines [
    "bdOeIkPHkDbTBBBCBCBBcULbWVQBdXHCGCCBEbJBbEbBdNLcGJJBYEBJBDBFbRDcIIbQYBbGcDBBBEIEBDHKCbDBcGBB",
    "BCEIBJBKCbABCCcFBECECCDDBbECDBLCcFBEFBCEBUCWGBBcGBBCBEIBHDKCbEBcHBBBMBJBbOBDBcDBBDFDBEHCLCbD",
    "BcGBCBCBDBFCHCLCbCCcFCBBCEIBJBKCbDBcUBEBCDBBIBdDBCHMIdUBCJLHcVCbBBBBBBcDOBFBCFLBbKJBdYEBGBCC",
    "CZCEDQENBCCGBPBbbBDbkKDbDCbECbECcMCBHIBCLJBbTDBBeNCbIBeODECJBGDiLCCBcGBBHBBBBCIGKCBbWbFbXEbW",
    "HBBFBbOJMCbGECCBDcEBBCDBBDcGICCfWDBNBHEBGBDChQcMuEBhNbHeoCDfLBdSbGvIGeBCbsqEEBKbGCdCCkMBDBEB",
    "ZCFBfVCbASNBbMIZLbUDbWBCECCbNBcPGCCCCMBIBbVBbZBBDCCFCBBbQCIBjEBCBEBbdzSBbcJQQQoCCxHBiSBfTFcm",
    "GDBCFEbODEBgJCwBEoXCdCDcSLbXEeTBcCPbPBCCKDbXECCHBcJDbKFBIcKBMCcAJKECBdRDCBBCGBCBgBBDIVCcFCBB",
    "BBWBOHDFhNICDBBXBdDBCGBBCBBCBCjBBCEGCBCbBCdHICBBCeCBBBCGBBdXDCEBFjZJBCjLBKCBBEBfOECCEBbGKbOG",
    "CEIBJGCDbUNBCpQHBGBBdEWCHBCBCeSGDBBCBHBBcUCDBBBnJCLCcAFFBBBhyRBGPurQFcHHboIBcLEdDBbdbKCgyZbU",
    "CXuWBBDEFIICHbEEfSDcyDcDEbYIBOBWFBPcaIHBRCHBCBFdWBgEHoLBcJEtOEbmEHeFHbtcaFdSeYjG"]

/-- Alphabetic characters. -/
def alphabetic : RangeTable :=
  .ofLines [
    "cNbAGbAbVBKBEBFXBbFBrQEMOFHBBBdIBbQFBCCEBBGBBDBBBUBdFBfJIgKBbMCBGbPbNOBBBCBCBBIbBEEbDLFcEBHO",
    "dYBIEIEDKDCBQbWNdXYbHJCEBFYCTTZHLFYBGRbQKMDHGcYBQBDEPNTBICCCWBHBBDEDICCCCBBIBECBFMCKBEDBGECC",
    "WBHBCBCBCEFECCCEBHEBBRGLDBJBDBWBHBCBFDJBDBCDBPEVEEDBICCCWBHBCBFDICCCCJCECBFNBQCBGDDBEDCBBBCD",
    "CDDDMEFDDBDDBGBbONBDBXBQDIBDBDICBDCBCEbCEBIBDBXBKBFDIBDBDICGCBENDMNBDBbPCIBDBDBBFEHFWGBDBSDY",
    "BJBBCHIGBBBISCNcGFHGBbZCBBBFBYBBBTBDCFBBGBOEbGBcLIBbKETEQBbKcPcDBBCFQcMKECbMBBFBCbRBmVBECHBB",
    "BECbPBECbHBECHBBBECPBcFBECcPbLQQdICGDxWCRBbAFcXDLHULVMUMNBDBCMcACTOBEBcPdLHbRFcSKbFBMEJXbECF",
    "LbSEbAcCbCEcLCUbYBXCLDbXcABPBIbZbQCEKbSBLOcDWDKbKCJHbRCDbPEBGBCDBFhKbNOLkSCGCbMCGCIBBBBBBBbF",
    "CcBBHBBDDBHDECGENFDBHeMBNBQNdXBEBCKBBDFGBBBBBBEBLCEFFEBRbPbfHcAcrUiVGEDCMbMBBFBCcEHBQXJHBHBH",
    "BHBHBHBHBHBbGbVBsBDZJHFCFEdIGDBdMBEFbRBdQRbGbWQtSjtOcMbguFcPbUCkJDQKCUbVFIDeJbNJCdZCcMFCBBBF",
    "YUBbHYcAMcQBBbSGDBBDKbHFbJNbDDbZBMPBQQKFBcDJOSXDcRBBBBYDCQCELGCGCGJHBHBbRBOGeTVqnSMXEbXmnCoC",
    "CeCbMHMFFMBNBFBBBCBCBeEbHnZScMCcCbOMeMFBfFbKbAGbALdLDGCGCGCDbJMBbABTBCBPCObIeTcRcBkHbDDbXbVb",
    "GNbEFbRFbECbKEIBFbQgCSbKEbKEbOIcAMLBPBHBCBLBPBHBCcPlZJWKIYGBbQBJcRGCBBbSBCDBCXKXJbFcNTBCKWKb",
    "AcScEGCcMEBCFIBDBbDbQbDDbDbJIBbCbBcCKWKTNSeGcVcDbZNbZNbOnGbQBCDCdAbDKBIWbQSbUVbBXJcSbRFKcFJB",
    "NZXbZREIbJDBJcMBEJCKBBBbJSBbICBGEcKHBBBEBPBKHcFXEBICCCWBHBCBFDICCCCDBGBFHgAcOBDBEUDbEcOCCBBh",
    "CcCCHZGbIcLBBDBcHcCCBcTbBCOVHhDcFdZcMbFICBCIBCBbEBCCCCEdPICbUCGBBBCbBbZCKRcUFBScVkDJBbTBHBBb",
    "XbECWBOcVHBCBbSDBBCBDBBCCYGBCBbLBCBEBBmPXJRBbPDDeHBdBbjMdYeHRhOdxKdTPbpGRGfyVwLmuBvXHbFRdBRb",
    "ESbWQEbFVFTbaMcMeYcXEcFHRcMCBBMCOjcAIbvQbQJnfREBHBCBlFPBbDDCBOEIpGdkUeDFNDJHKEBiwFdHBcTBCCBC",
    "CCEBMBBBHBcNBECIBHBbCBEBFBBDHBnCCZBZBbFBZBbFBZBbFBZBbFBZBIcsYbFGGiFHBRCHBCBFFcKbHBeIbTKHQBmJ",
    "bESbSsQbCbdCHBEBCBPBhPcHcQDBDBbuIEBbBBCBBCBBKBEBBBBGBEBBBBBBDBCBBCBBBBBBBBBBCBBCEBHBEBEBBBKB",
    "RFDBFBRyEbAGbAGbAfmKclfCbGgdUGiOCinQOlbLepJuWcfYhhZFgfG"]

/-- Digits and other numbers. -/
def numeric : RangeTable :=
  .ofLines [
    "bWKeQCFBCDcdLKfEKhQKpWKeOKEGeEKeOKeOKCGeGNeLKIHdZKeAHHTeFKdSKeOKcSUkIKcSKbbRUbhXDjFKGKWKlOKe",
    "YLgJKGKhAKdIKfEKGKboGBDGGKhQbZCFbbYcIdAWyGbEcbHBbdXBZJODnFEfIKbEIBPbGKbNPbrsAKhGKmIGfYKbMKhQ",
    "KWKdIKpQKbfmCKsZbTMcFRCnDbBbKEbDBIBfEFhUKbkGIZHbNJcXFWGgECCQCbUcMJcACbEDcXFeAIYIbPHmSGbWKlIb",
    "FgCKbQEeIHfEbEeYKcIKfOKHUjRKnEKeOKoKKdYKdYMqETdPKbdEbDiTKcSKqGKdYVbpBeHbamRKdIKfEKBHbeSXblyF",
    "UMUeEZbqRbYdnCKqGKtIKblLJeYKbeLcHBDBEcYbTBPblANedFK"]

/-- Decimal digits. -/
def decimalDigit : RangeTable :=
  .ofLines [
    "bWKciOKfEKhQKpWKeOKeOKeOKeOKeOKeOKeOKeOKeOKdSKeOKcSKkSKcSKctQKbMKlOKeYKgKKGKhAKdIKfEKGKcaeOK",
    "baCKbMKhQKWKdIKpQKbfmCKccKKdfYKbfGKeYKcIKfOKkSKnEKeOKoKKdYKdYKqGKdYKbdEKjMKcSKqGKbckSKdIKfEK",
    "bpbWbYdnCKqGKtIKbqSKhbAK"]

/-- Letters, marks, decimal digits, connectors and joiners: what a word is made of. -/
def wordCharacter : RangeTable :=
  .ofLines [
    "bWKHbAEBBbAbVBKBEBFXBbFBrQEMOFHBBBReNBCCEBBGBBDBBBUBdFBfJBgRBbMCBGbPIbTBBBCBCBBIbBEEbDLFcWEd",
    "YBICKBTCBQcHCdXOcCEBCBCbUSbCELFYBGJcWBeZCKBTBICCCWBHBBDECJCCCEIBECBFCMKBBBCDBGECCWBHBCBCBCCB",
    "BFECCDDBHEBBHQLDBJBDBWBHBCBFCKBDBDCBPECKJHBDBICCCWBHBCBFCJCCCDHDECBFCKBBQCBGDDBEDCBBBCDCDDDM",
    "EFDDBECBGBOKQNBDBXBQCJBDBEHCBDCBCECKQEBIBDBXBKBFCJBDBEHCGCBECKBDMNBDBbZBDBFFEHFCKKGBDBSDYBJB",
    "BCHDBEGBBBIGKCCNcGFPBKbNCBBBFBYBBBXCFBBBHBKCEbGBXCGKLBBBBBEKBbKEUBSBbKJBcFcWGdACbMBBFBCbRBmV",
    "BECHBBBECbPBECbHBECHBBBECPBcFBECcPCDbGQQdICGDxWCRBbAFcXDLHWJWLUMNBDBCMdGDBECCKbHDBLGdLHbRFcS",
    "KbFBMEMKbOCFLbSEbAGKbMbCEcLBbDCLGKNBIbFbXcZDKRJMeMMcEIKDbXCJHbRCDQDBbNFuOCGCbMCGCIBBBBBBBbFC",
    "cBBHBBDDBHDECGENFDBHPCbXCTBbCBNBQNbZbHRBEBCKBBDFGBBBBBBEBLCEFFEBRbPbfHcAcrUiVGJMbMBBFBCcEHBP",
    "YJHBHBHBHBHBHBHBHBbGbVBsBDZPBFCFEdICCCDBdMBEFbRBdQRbGbWQtSjtOcMbguFcPbUCkJDbCUbZBKBeLbLJCdZC",
    "cMFCBBBFYcCEBTcAMcSKKGYDBBbXCbKMbDDcNOLGbFBcDJOCKGXDcVYDCQCFKGCGCGJHBHBbRBOGeTBCCKGqnSMXEbXm",
    "nCoCCeCbMHMFFMBNBFBBBCBCBeEbHnZScMCcCbOMEQQQDCYDbGFBfFTKHbAEBBbALdLDGCGCGCDbJMBbABTBCBPCObIe",
    "TcRcBfGBfAbDDbXPBbFbGNbEFbRFbECbKEIBFbQgCCKGbKEbKEbOIcAMLBPBHBCBLBPBHBCcPlZJWKIYGBbQBJcRGCBB",
    "bSBCDBCXKXJbFcNTBCKWKbAcScEGCcMEBCFIBDBbDCDEBbGbDDbDbJIBbEZcCKWKTNSeGcVcDbZNbZNbOIKmObQBCDCc",
    "XbGKBIbHbFWbQVbBXJcTbFQJcIHBNZHKGcBBKEEIbKCBJcREEBNBBbJSBbLGEcKHBBBEBPBKHcHFKGEBICCCWBHBCBFB",
    "KCCCDCBGBFHCHDFfJcXFKEEbEcSBBIKgKcCCJXGbIcNDBLKbMcFHKcCbBCPEKGHhDcHdXcWVICBCIBCBbEBCCJMKcSIC",
    "bUCIBCbBcLIBIcWDBScVkDJBbTBJPKYbECWBOcVHBCBbSDBBCBJIKGGBCBbLBCBGHKlYXJRBbPDFNKdIBdBbjMdYeHRh",
    "OdxKdTPbpGQWfyGwLmuBvXHbFBKGdBBKGbECFLcDJEMKJVFTbaMcMeYcXEcFHRcMCBCLCOjcAIbvQbQJnfREBHBCBlFP",
    "BbDDCBOEIpGdkUeDFNDJHKDCgyZbUCXuWFDGIICHbEEfSDrBdHBcTBCCBCCCEBMBBBHBcNBECIBHBbCBEBFBBDHBnCCZ",
    "BZBbFBZBbFBZBbFBZBbFBZBICbYtScDEbYIBOBWFBPbqMbFGGiFHBRCHBCBFFcKbHBeIbTDOCKEBmJbFRcGsCbQbcOHB",
    "EBCBPBhPLHbPcYEKbtUEBbBBCBBCBBKBEBBBBGBEBBBBBBDBCBBCBBBBBBBBBBCBBCEBHBEBEBBBKBRFDBFBRyEbAGbA",
    "GbAdyKKbnQclfCbGgdUGiOCinQOlbLepJuWcfYhhZFgfGbonhGjG"]

/-- Characters that have case. -/
def cased : RangeTable :=
  .ofLines [
    "cNbAGbAbVBKBEBFXBbFBhNBEEiABbKHCbEFdSBbQECCCEBBGBBDBBBUBdFBfJIgKBbMJbPefFbMBBFBCbRBEzWdICGdf",
    "UJHbRCDcMhKcMkSCGCbMCGCIBBBBBBBbFCcBBHBBDDBHDECGENFDBHeMBNBQNdXBEBCKBBDFGBBBBBBEBGEBCEFFEBRb",
    "GDCbfLcAcrUiVGEDCMbMBBFBbtwCbUSbEfCdYDEBcHFCBBBFYFBDbfPbRBOGdCbeaIHMFbnTbAGbAbtTdCdSbKEbKeML",
    "BPBHBCBLBPBHBCrJBCDBbQBJbuZbZNbZekZcMbgiQcMbmlKdHBcTBCCBCCCEBMBBBHBcNBECIBHBbCBEBFBBDHBnCCZB",
    "ZBbFBZBbFBZBbFBZBbFBZBIcsYKBUGGkBcKdgKcQdaAbAGbAGbA"]

/-- Characters that the search for a neighbouring letter passes over. -/
def caseIgnorable : RangeTable :=
  .ofLines [
    "bNBGBLBbJBBBcTBEBBBEBCCtJhKECEBJCBBjRHhZBFBbXbTBBBCBCBBbSBLGKLBBbJBKVQBdXIBKBEbHBBBbEbBdNLcG",
    "LEBCBYYbRDbSBHCGIbPcGcDBBBEIEBDHKCNBPBcGBEEIBUCbABCCcFBECECCDDBbECDBLCcFBEFBCEBUCWGBBcGBCBBE",
    "IBHCLCbEBcJBMBbYBDBcDBBDFDBEHCLCbDBcGBCBGBFCUCbCCcFCEEIBUCbDBcUBHDBBdMBCHLJdUBCJJBBHcVCbBBBB",
    "BBcDOBFBCFLBbKJBdYEBGBCCCZCEDQENBCCGBPBdQBxKDbkKDbDCbECbECcMCBHIBCLDBFBbTFbZBcNCbIBeODECJBGD",
    "iLCCBcGBBHBBBBCIGKCBbNBIbFbXEbWBBFBBFBbOJMCbGECCBDcEBBCDBBDcGICCcMGdEDBNBHEBGBDCbYcLNBbIdXrD",
    "BBDLDNDNDNCMFICKBCBCFbXFBKBBNBQNbZbHejRCeJDeVBPBdSbGbVBsBBbKEDFFBdPGdPDbqbUBbwCGkKBdUEBKBBbC",
    "EdCCObIdABXDdZDDCIBDBEBZCFBfVCbASNBbMIZLbUDbWBCECCRBVCcOGCCCCMBIBbJBLBbZBBDCCFCBBbBBOCFCBBdW",
    "FJDeRBCBEBbdzSBfRRwBQDBMQbIBCBgNBHBGBLBbJBBBbVBbTCcPBVDtTBiSBfTFbnPGBbQBJwKDBCFEbODEBgJCwBEo",
    "XCdCDcSLbXEeTBcCPbPBCCKDbXECCCBEBKBbYDbKFBIcKBMCcAJKECBdRDCBBCGBCBgBBDIVCcFCDBbLHDFhNICDBBXB",
    "dGGBBECBCjEEGCBCbBCdHICBBCeCBBBCGBBdXDCEBFjZJBCjWCBBEBfOECCEBbGKbOGCEIBJGCDbUNBCpQHBGBBdEWCH",
    "BCBCeSGDBBCBHBBcUCDBBBnJCLCcAFFBBBhyBRGPurQFcHHJEbnVBcLRcMCBCygPEBHBCeuGCBEgyUbUCXuYDJQCHbEE",
    "fSDcyDcDEbYIBOBWFBPcaIHBRCHBCBFFcKbHBgEOoEBcJEtNFbmEHeFIebFFbsxxPBbEdSeYjG"]

end StreamVerdict.Unicode
