import StreamVerdict.Unicode.RangeTable

/-!
# Ages

The characters assigned up to and including each version of the character set.
-/

namespace StreamVerdict.Unicode

/-- The ages, each with all earlier ones. -/
def ages : List NamedTable := [
  ⟨["1.1", "v11"],
    .ofLines [
    "AtIEbEcEdLHbVBKWcSbACSCEBDBFHBBBUBbSBHDBBBBBBBBSNMBcOBMBbPJcBCCCCDbCCICCcDbMCHBbNBBbMKBJMbBF",
    "FXBOBDBBbAFTNOCcUCFBPBbECKtZDBcBCSCFDZQDBICCCWBHBBDECBBHCCCDJBECBFCVHBCGECCWBHBCBCBCCBBFECCD",
    "LEBBHPMDBHBBBDBWBHBCBFCKBDBDCBPBFKRDBICCCWBHBCCECIDCCDICECBDELRCBGDDBEDCBBBCDCDDDIBDEFDDBEJB",
    "PMODBIBDBXBKBFEHBDBEHCJCEKSCBIBDBXBKBFEHBDBEHCHBBCEKSCBIBDBXBQEGCDBEJBICEKfPcGEbDbLCBBCCBBCB",
    "GEBHBDBBBBCCBNBDCFBBBGCKCCrIbMKbNEBEdMFcQFdEeoKfZFdMGWCGCbMCGCIBBBBBBBbFCcBBPBOCGBTCDBJBbVBX",
    "bJHDbBRLbLSbEcFbAbWNdNVjIOBBeRfDbLbBLVfJVfUKdCQUGdIfPEBECbCBbJBBBEDBBHCHObFDYBOddHcEHBBdGEGC",
    "dQGbOEdQBQdSbDDbKbCbCDbYPMEbVBePEdVCbFjwBbexYyjQjxUiCHMFGZBFBBBCBCBeEbHoBQcMCcCbOMbKEMVEKBTB",
    "EEDBBBfFCBBdQCdQDGCGCGCDDHBHOD"]⟩,
  ⟨["2.0", "v20"],
    .ofLines [
    "AtIEbEcEdLHbVBKWcSbACSCEBDBFHBBBUBbSBHDBBBBBBBBSNMBcOBMBbPJcBCCCCDbCCICCcDbMCHBbNBBHRBXBKLbB",
    "FFXBOBDBBbAFTNOCcUCFBPBbECKtZDBcBCSCFDZQDBICCCWBHBBDECBBHCCCDJBECBFCVHBCGECCWBHBCBCBCCBBFECC",
    "DLEBBHPMDBHBBBDBWBHBCBFCKBDBDCBPBFKRDBICCCWBHBCCECIDCCDICECBDELRCBGDDBEDCBBBCDCDDDIBDEFDDBEJ",
    "BPMODBIBDBXBKBFEHBDBEHCJCEKSCBIBDBXBKBFEHBDBEHCHBBCEKSCBIBDBXBQEGCDBEJBICEKfPcGEbDbLCBBCCBBC",
    "BGEBHBDBBBBCCBNBDCFBBBGCKCCbIcUBbHHbBEGBBBVDHBBiWbMKbNEBEdMFcQFdEeoKgAEdMGWCGCbMCGCIBBBBBBBb",
    "FCcBBPBOCGBTCDBJBbVBXbJHDbBRMbKSbEcFbAbWNdNVjIOBBeRfDbLbBLVfJVfUKdCQUGdIfPEBECbCBbJBBBEDBBHC",
    "HObFDYBOddHcEHBBdGEGCdQGbOEdQBQdSbDDbKbCbCDbYPMEbVBePEdVCbFjwBbexYerQqnSdOmyOiCHMFGZBFBBBCBC",
    "BeEbHoBQcMCcCbOMbKEMVEKBTBEEDBBBfFCBBdQCdQDGCGCGCDDHBHODdsyOCdsyOCdsyOCdsyOCdsyOCdsyOCdsyOCd",
    "syOCdsyOCdsyOCdsyOCdsyOCdsyOCdsyO"]⟩,
  ⟨["2.1", "v21"],
    .ofLines [
    "AtIEbEcEdLHbVBKWcSbACSCEBDBFHBBBUBbSBHDBBBBBBBBSNMBcOBMBbPJcBCCCCDbCCICCcDbMCHBbNBBHRBXBKLbB",
    "FFXBOBDBBbAFTNOCcUCFBPBbECKtZDBcBCSCFDZQDBICCCWBHBBDECBBHCCCDJBECBFCVHBCGECCWBHBCBCBCCBBFECC",
    "DLEBBHPMDBHBBBDBWBHBCBFCKBDBDCBPBFKRDBICCCWBHBCCECIDCCDICECBDELRCBGDDBEDCBBBCDCDDDIBDEFDDBEJ",
    "BPMODBIBDBXBKBFEHBDBEHCJCEKSCBIBDBXBKBFEHBDBEHCHBBCEKSCBIBDBXBQEGCDBEJBICEKfPcGEbDbLCBBCCBBC",
    "BGEBHBDBBBBCCBNBDCFBBBGCKCCbIcUBbHHbBEGBBBVDHBBiWbMKbNEBEdMFcQFdEeoKgAEdMGWCGCbMCGCIBBBBBBBb",
    "FCcBBPBOCGBTCDBJBbVBXbJHDbBRNbJSbEcFbAbWNdNVjIOBBeRfDbLbBLVfJVfUKdCQUGdIfPEBECbCBbJBBBEDBBHC",
    "HObFDYBOddHcEHBBdGEGCdQGbOEdQBQdSbDDbKbCbCDbYPMEbVBePEdVCbFjwBbexYerQqnSdOmyOiCHMFGZBFBBBCBC",
    "BeEbHoBQcMCcCbOMbKEMVEKBTBEEDBBBfFCBBdQCdQDGCGCGCDDHBHNEdsyOCdsyOCdsyOCdsyOCdsyOCdsyOCdsyOCd",
    "syOCdsyOCdsyOCdsyOCdsyOCdsyOCdsyO"]⟩,
  ⟨["3.0", "v30"],
    .ofLines [
    "AuYCSbCdQCcLRdBRDRCEBDBFHBBBUBbSBICbAMfFBCCcFCCCCDbMCCcDbMCHBbNBCGRBXBKLbBFFXBOBDBBbAFWKOCeW",
    "CPBOBbEDbBcBbXmYDBcBCSCFDZQDBICCCWBHBBDECBBHCCCDJBECBFCVHBCGECCWBHBCBCBCCBBFECCDLEBBHPMDBHBB",
    "BDBWBHBCBFCKBDBDCBPBFKRDBICCCWBHBCCECIDCCDICECBDELRCBGDDBEDCBBBCDCDDDIBDEFDDBEJBPMODBIBDBXBK",
    "BFEHBDBEHCJCEKSCBIBDBXBKBFEHBDBEHCHBBCEKSCBIBDBXBQEGCDBEJBICEKSCBSDYBJBBCHDBEGBBBISDMcGEbDbL",
    "CBBCCBBCBGEBHBDBBBBCCBNBDCFBBBGCKCCbIcUBbIGbBEIBbKBPCBbWbIBFBCBHDEGbAcSbMKbNEBEdMFcQFdEGHBcL",
    "BBBECHBBBECbNBBBECbFBBBECHBBBECHBHBXBbFBBBECHBbNBTGbCbJdHMyGJbDDdDfNdPDKWPBKGdKIbQcaOgAEdMGW",
    "CGCbMCGCIBBBBBBBbFCcBBPBOCGBTCDBJBcTBGbCHDbBRQbGUbCcHYbXMdWMjIOeUBbEdXbNZLVfJVfUKdKIUFdLfNEB",
    "ECbCBbJBBBEDBBHCHObFDYBOcNjWccEbABdLMiGbAMEcHDCBdGEGCdQGbOEdQBbOcUbDDbKbCbCDbYPMEbVBePEdVCbF",
    "BjtEcWbexYdMbsVDSCQBMBDBBctDqnSdOmyOiCHMFFbABFBBBCBCBeEbHoBQcMCcCbOMbKEMVEKBTBEEDBBBfFCBBdQC",
    "dQDGCGCGCDDHBHKHdsyOCdsyOCdsyOCdsyOCdsyOCdsyOCdsyOCdsyOCdsyOCdsyOCdsyOCdsyOCdsyOCdsyO"]⟩,
  ⟨["3.1", "v31"],
    .ofLines [
    "AuYCSbCdQCcLRdBRDRCEBDBFHBBBUBbSBICbCKfFBCCcFCCCCDbMCCcDbMCHBbNBCGRBXBKLbBFFXBOBDBBbAFWKOCeW",
    "CPBOBbEDbBcBbXmYDBcBCSCFDZQDBICCCWBHBBDECBBHCCCDJBECBFCVHBCGECCWBHBCBCBCCBBFECCDLEBBHPMDBHBB",
    "BDBWBHBCBFCKBDBDCBPBFKRDBICCCWBHBCCECIDCCDICECBDELRCBGDDBEDCBBBCDCDDDIBDEFDDBEJBPMODBIBDBXBK",
    "BFEHBDBEHCJCEKSCBIBDBXBKBFEHBDBEHCHBBCEKSCBIBDBXBQEGCDBEJBICEKSCBSDYBJBBCHDBEGBBBISDMcGEbDbL",
    "CBBCCBBCBGEBHBDBBBBCCBNBDCFBBBGCKCCbIcUBbIGbBEIBbKBPCBbWbIBFBCBHDEGbAcSbMKbNEBEdMFcQFdEGHBcL",
    "BBBECHBBBECbNBBBECbFBBBECHBBBECHBHBXBbFBBBECHBbNBTGbCbJdHMyGJbDDdDfNdPDKWPBKGdKIbQcaOgAEdMGW",
    "CGCbMCGCIBBBBBBBbFCcBBPBOCGBTCDBJBcTBGbCHDbBRQbGUbCcHYbXMdWMjIOeUBbEdXbNZLVfJVfUKdKIUFdLfNEB",
    "ECbCBbJBBBEDBBHCHObFDYBOcNjWccEbABdLMiGbAMEcHDCBdGEGCdQGbOEdQBbOcUbDDbKbCbCDbYPMEbVBePEdVCbF",
    "BjtEcWbexYdMbsVDSCQBMBDBBctDqnSdOmyOiCHMFFbABFBBBCBCBeEbHoBQcMCcCIbSbKEMVEKBTBEEDBBBfFCBBdQC",
    "dQDGCGCGCDDHBHKHbdObFBEMbBgZbMCbMczdQjMKbNDgYvAdHBcTBCCBCCCEBMBBBEBCBcNBECIBHBbCBEBFBBDHBnAE",
    "lEEbYpdUcleVbetDuWcfWCdsyOCdsyOCdsyOCdsyOCdsyOCdsyOCdsyOCdsyOCdsyOCdsyOCdsyOCBBbEdSdstQ"]⟩,
  ⟨["3.2", "v32"],
    .ofLines [
    "AuZBSbCdQCcLRdCQQECEBDBFHBBBUBbSBbNJfFBcTBbMCCGQbHbMCHBbNBCGRBXBKLbBFFXBOBDBBbAFWKfMCPBOBbED",
    "bBcBbYmXDBcBCSCFDZQDBICCCWBHBBDECBBHCCCDJBECBFCVHBCGECCWBHBCBCBCCBBFECCDLEBBHPMDBHBBBDBWBHBC",
    "BFCKBDBDCBPBFKRDBICCCWBHBCCECIDCCDICECBDELRCBGDDBEDCBBBCDCDDDIBDEFDDBEJBPMODBIBDBXBKBFEHBDBE",
    "HCJCEKSCBIBDBXBKBFEHBDBEHCHBBCEKSCBIBDBXBQEGCDBEJBICEKSCBSDYBJBBCHDBEGBBBISDMcGEbDbLCBBCCBBC",
    "BGEBHBDBBBBCCBNBDCFBBBGCKCCbIcUBbIGbBEIBbKBPCBbWbIBFBCBHDEGbAcSbMKbPCBEdMFcQFdEGHBcLBBBECHBB",
    "BECbNBBBECbFBBBECHBBBECHBHBXBbFBBBECHBbNBTGbCbJdHMyGJbDDdDPNBHLXJUMNBDBCMdPDKWPBKGdKIbQcaOgA",
    "EdMGWCGCbMCGCIBBBBBBBbFCcBBPBOCGBTCDBJBdFEBHFGICbBRSbEbBVcHCPHbXMwDbXbNZLVgDBkQCCBdXCKePEBEC",
    "bCBbJBBBEDBBHCcADYBORbCEbeEbiMbABdLMiGbAMEcMBdICdZFbOEdQBbOcEbTDbKNbRDcZEbVBePEdVCbFBjtEcWbe",
    "xYdMbsVDcDctDqnSdOmyOCcHfTHMFFbABFBBBCBCBeEbHoBQcMCcCIbTDQQEMXCKBTBEEFBfFCBBhIDGCGCGCDDHBHKH",
    "bdObFBEMbBgZbMCbMczdQjMKbNDgYvAdHBcTBCCBCCCEBMBBBEBCBcNBECIBHBbCBEBFBBDHBnAElEEbYpdUcleVbetD",
    "uWcfWCdsyOCdsyOCdsyOCdsyOCdsyOCdsyOCdsyOCdsyOCdsyOCdsyOCdsyOCBBbEdSdstQ"]⟩,
  ⟨["4.0", "v40"],
    .ofLines [
    "AvVZkEFTECEBDBFHBBBUBbSBbSEfFBcTBbMCCGQbHbMCHBbNBCGRBXBKLbBFFLEIKFBDBBbAFZHgSBcICDbWbYmXcFCS",
    "CFDZQDBICCCWBHBBDECJCCCDJBECBFCVGDBGECCWBHBCBCBCCBBFECCDLEBBHPMDBJBDBWBHBCBFCKBDBDCBPECKBBPD",
    "BICCCWBHBCBFCIDCCDICECBDEMQCBGDDBEDCBBBCDCDDDIBDEFDDBEJBPUGDBIBDBXBKBFEHBDBEHCJCEKSCBIBDBXBK",
    "BFCJBDBEHCHBBCEKSCBIBDBXBQEGCDBEJBICEKSCBSDYBJBBCHDBEGBBBISDMcGEbDbLCBBCCBBCBGEBHBDBBBBCCBNB",
    "DCFBBBGCKCCbIcUBbIGbBEIBbKBPCBbWbIBFBCBHDEGbAcSbMKbPCBEdMFcQFdEGHBcLBBBECHBBBECbNBBBECbFBBBE",
    "CHBBBECHBHBXBbFBBBECHBbNBTGbCbJdHMyGJbDDdDPNBHLXJUMNBDBCMdQCKGKGPBKGdKIbQdIbDDMEMEBDbQCFeDbG",
    "bdOeEfSgAEdMGWCGCbMCGCIBBBBBBBbFCcBBPBOCGBTCDBJBdHCBHFGICbBRSbEbBVcIBPHbXMwFbVbNZLVqYBdXCSOC",
    "dREBECbCBbJBBBEDBBHCcADYBORbCEbeSbhYbABdLMiGbAMEcMBdICdZFbOEdQBbOcEbVBbKMbUBeYBkdAKbfaKdMbsV",
    "DcDctDqnSdOmyOCcHfTHMFFbABFBBBCBCBeEbHoBQcMCcCIbUCQQEMbJBTBEEFBfFCBBhIDGCGCGCDDHBHKTBbABTBCB",
    "PCObIeTFDEbTDJrGbFBEMbBcBbEBBdSgCCKbgWGCBBbSBCDBCBcxqUjMKbNDgYlEdJgNdHBcTBCCBCCCEBMBBBHBcNBE",
    "CIBHBbCBEBFBBDHBnAElEEbYpdUcleVbetDuWcfWCdsyOCdsyOCdsyOCdsyOCdsyOCdsyOCdsyOCdsyOCdsyOCdsyOCd",
    "syOCBBbEdSeYjGdsfM"]⟩,
  ⟨["4.1", "v41"],
    .ofLines [
    "AwGOlCECEBDBFHBBBUBbSBhBBcTBbQGQbHbMCHBbNBCGbPBNIbBFFLEHLFBCCBbAFbFBgSBcICbHSbYmXcFCSCFDZMBD",
    "DBICCCWBHBBDECJCCCEIBECBFCVGDBGECCWBHBCBCBCCBBFECCDLEBBHPMDBJBDBWBHBCBFCKBDBDCBPECKBBPDBICCC",
    "WBHBCBFCIDCCDICECBDEMQCBGDDBEDCBBBCDCDDDMEFDDBEJBOVGDBIBDBXBKBFEHBDBEHCJCEKSCBIBDBXBKBFCJBDB",
    "EHCHBBCEKSCBIBDBXBQEGCDBEJBICEKSCBSDYBJBBCHDBEGBBBISDMcGEbDbLCBBCCBBCBGEBHBDBBBBCCBNBDCFBBBG",
    "CKCCbIcUBbIGbBEIBbKBPCDbUbIBFBCBHDEGbAcSbMKbTDdMFcQFdEGcVBECHBBBECbPBECbHBECHBBBECPBcFBECcPE",
    "bEDbAGdHMyGJbDDdDPNBHLXJUMNBDBCMdQCKGKGPBKGdKIbQdIbDDMEMEBDbQCFLbQGbAGKEcKCCbcIhOcIgAEdMGWCG",
    "CbMCGCIBBBBBBBbFCcBBPBOCGBTCDBJBdWGICbBBFLWbAbCUcZGbXMwQbKbNZLVwBDSdBEBECbCBbJBBBEDBBHCcADYB",
    "OBHJbCEbeYjCbVBbVbHeDObTKcCJBQXJHBHBHBHBHBHBHBHbHYECdUbABdLMiGbAMEcMBdICdZFbOEdQBbOIQbGbVBbK",
    "MgTBkdAKbfbGcQbsVDcDvXXiZbSblSqnSdOmyOCcHFeCbMHMFFbABFBBBCBCBeEbHoBQcMCcCIbUCbAGEMbJBTBEEFBf",
    "FCBBhIDGCGCGCDDHBHKTBbABTBCBPCObIeTFDEbTDdGoJbFBEMbBcBbEBbLEObQgCCKbgWGCBBbSBCDBCBrGEBCFIBDB",
    "bBEDEJIJcwwDjMKbNDgYbIcShEdJgNdHBcTBCCBCCCEBMBBBHBcNBECIBHBbCBEBFBBDHBnCClEEbYpdUcleVbetDuWc",
    "fWCdsyOCdsyOCdsyOCdsyOCdsyOCdsyOCdsyOCdsyOCdsyOCdsyOCdsyOCBBbEdSeYjGdsfM"]⟩,
  ⟨["5.0", "v50"],
    .ofLines [
    "AbhWECEFFHBBBUBbSBhBBfKbDbMCHBbNBCGcDIbBFFLEHLFBCCBbAFbFBgSBcICbHSbYOcHkCcFCSCFDZKFBDBICCCWB",
    "HBBDECJCCCEIBECBFCVGDBGECCWBHBCBCBCCBBFECCDLEBBHPMDBJBDBWBHBCBFCKBDBDCBPECKBBPDBICCCWBHBCBFC",
    "IDCCDICECBDEMQCBGDDBEDCBBBCDCDDDMEFDDBEJBOVGDBIBDBXBKBFEHBDBEHCJCEKSCBIBDBXBKBFCJBDBEHCHBBEC",
    "KBCPCBIBDBXBQEGCDBEJBICEKSCBSDYBJBBCHDBEGBBBISDMcGEbDbLCBBCCBBCBGEBHBDBBBBCCBNBDCFBBBGCKCCbI",
    "cUBbIGbBEIBbKBPCDbUbIBFBCBHDEGbAcSbMKbTDdMFcQFdEGcVBECHBBBECbPBECbHBECHBBBECPBcFBECcPEbEDbAG",
    "dHMyGJbDDdDPNBHLXJUMNBDBCMdQCKGKGPBKGdKIbQdIbDDMEMEBDbQCFLbQGbAGKEcKCCiQcYEbToXhVbZgCEdMGWCG",
    "CbMCGCIBBBBBBBbFCcBBPBOCGBTCDBJBdWGICbBBFLWbAbGQdBEbYLxCYbNZLVwBDTdAEBECbCBbJBBBEDBBHCcADYBO",
    "BLFbCEbfFFEiMbVBbVBNHEIeDObTKcCJBQXJHBHBHBHBHBHBHBHbHYECdUbABdLMiGbAMEcMBdICdZFbOEdQBbOIQbGb",
    "VBbKMgTBkdAKbfbGcQbsVDcDvXbBFCiObSUcEbiUqnSdOmyOCcHFeCbMHMFFbABFBBBCBCBeEbHoBQcMCcCIbUCbAGEM",
    "bJBTBEEFBfFCBBhIDGCGCGCDDHBHKTBbABTBCBPCObIeTFDEbTDdGoJbFBEMbBcBbEBbLEObQgCCKbgWGCBBbSBCDBCB",
    "hKbAFBiQEBCFIBDBbBEDEJIJifFbhVfPdVNEcmzCjMKbNDgYbIcShEdJJSfMdHBcTBCCBCCCEBMBBBHBcNBECIBHBbCB",
    "EBFBBDHBnCClGCbYpdUcleVbetDuWcfWCdsyOCdsyOCdsyOCdsyOCdsyOCdsyOCdsyOCdsyOCdsyOCdsyOCdsyOCBBbE",
    "dSeYjGdsfM"]⟩,
  ⟨["5.1", "v51"],
    .ofLines [
    "AbiECFFHBBBUBoVNbMCHBbNBCGcDIbBFFLECWCCBcKBgSBcICdXOcHkCcFCSCFDbBIFBDBICCCWBHBBDECJCCCEIBECB",
    "FCVGDBGECCWBHBCBCBCCBBFECCDDBHEBBHQLDBJBDBWBHBCBFCKBDBDCBPECKBBPDBICCCWBHBCBFCJCCCDICECBFCMQ",
    "CBGDDBEDCBBBCDCDDDMEFDDBECBGBOVGDBIBDBXBKBFDIBDBEHCBCGECKIICCBIBDBXBKBFCJBDBEHCHBBECKBCPCBIB",
    "DBXBQDIBDBEJBIECQDHCCBSDYBJBBCHDBEGBBBISDMcGEbDbLCBBCCBBCBGEBHBDBBBBCCBNBDCFBBBGCKCCbIcUBbKE",
    "bBEIBbKBPBHbRfYEbOKbTDdMFcQFdEGcVBECHBBBECbPBECbHBECHBBBECPBcFBECcPEbEDbAGdHMyGJbDDdDPNBHLXJ",
    "UMNBDBCMdQCKGKGPBKGdKIbRdHbDDMEMEBDbQCFLbQGbAGKEcKCCiQcYEbTDbRDMcScEDPDbZeYiXXkUCGCbMCGCIBBB",
    "BBBBbFCcBBPBOCGBTCDBJBdXFICbBBFLWbAbHPdCDcCHxCYbNZLVwCCbDDEcJEBECbCBbJBBBEDBBHCcADYBOBLBBDbi",
    "JDFgPbVBbVBQBNCeDObTKcCJBQXJHBHBHBHBHBHBHBHBdDdBbABdLMiGbAMEcMBdICdZFbPDdQBbOIbKMbVBbKMgTBkd",
    "AKbfbOcIbsVDcDcFlOUbGCSIbCeAfLeGbXUcEIcRJMbMdGLBgEcDJOCKCEqAqnSdOmyOCcHFeCbMHMFFbABFBBBCBCBe",
    "EbHoBQcMCcCIbUCbAGHJbJBTBEEFBfFCBBhIDGCGCGCDDHBHKTBbABTBCBPCObIeTFDEbTDdGFMcAbUfAbDDbXbVbFBE",
    "MbBcBbEBbLEObQgCCKbgWGCBBbSBCDBCBhKbAFbBFBhKEBCFIBDBbBEDEJIJifFbhVfPdVNEcmzCjMKbNCgZbIcShEdJ",
    "JSfMdHBcTBCCBCCCEBMBBBHBcNBECIBHBbCBEBFBBDHBnCClGCbYjcIbSEdWfvUcleVbetDuWcfWCdsyOCdsyOCdsyOC",
    "dsyOCdsyOCdsyOCdsyOCdsyOCdsyOCdsyOCdsyOCBBbEdSeYjGdsfM"]⟩,
  ⟨["5.2", "v52"],
    .ofLines [
    "AbiECFFHBBBUBoXLbMCHBbNBCGcDIbBFFLECWCCBcKBgSBcICdXOcHFbUCPhLcGCTBGCbBGHBDBICCCWBHBBDECJCCCE",
    "IBECBFCWFDBGECCWBHBCBCBCCBBFECCDDBHEBBHQLDBJBDBWBHBCBFCKBDBDCBPECKBBPDBICCCWBHBCBFCJCCCDICEC",
    "BFCMQCBGDDBEDCBBBCDCDDDMEFDDBECBGBOVGDBIBDBXBKBFDIBDBEHCBCGECKIICCBIBDBXBKBFCJBDBEHCHBBECKBC",
    "PCBIBDBXBQDIBDBEJBIECQDHCCBSDYBJBBCHDBEGBBBISDMcGEbDbLCBBCCBBCBGEBHBDBBBBCCBNBDCFBBBGCKCCbIc",
    "UBbKEbBEIBbKBPBLbNhQKbTDmRBECHBBBECbPBECbHBECHBBBECPBcFBECcPEbEDbAGdHLzTDdDPNBHLXJUMNBDBCMdQ",
    "CKGKGPBKGdKIbRFcSKbDDMEMEBDbQCFLbSEbAGLDcKCcNBbDCLGKGOdEcYEbTDbRDMcScEDPDbZdCbJNiXWkVCGCbMCG",
    "CIBBBBBBBbFCcBBPBOCGBTCDBJBdXFICbBBFLZXbHPfIGxDXbNZLVxYBTBBEYBEBECbCBbJBBBEDJCcADYBOBLBBDbiJ",
    "DKgKbVBbVBfQHbTKcCJBQXJHBHBHBHBHBHBHBHBdEdAbABdLMiGbAMEcMBdICdZFbPDdQBbOIbKMbVBiPBkdAKbfbWcA",
    "bsVDcDJnKUbGCSIbCIdKIfLeGbXEKGcEIcRJMGbCEdGLbEDdABLECbGcDJOCKCbGEcPYFiQbUCKGqnSMXEbXEmyOCcKC",
    "eCbMHMFFbABFBBBCBCBeEbHoBQcMCcCIbUCbAGHJbJBTBEEFBfFCBBhIDGCGCGCDDHBHKTBbABTBCBPCObIeTFDEbTDd",
    "GFMcAbUfAbDDbXbVbFBEMbBcBbEBbLEObQgCCKbgWGCBBbSBCDBCXBJgEbCDbBFBhKEBCFIBDBbBEDEJIJHbGeYcCDbD",
    "CbBFIeYcVuPbFtTcOfuCbhVfPdVNEejSbpFchaFjMKbNCgZbIcShEdJJSfMdHBcTBCCBCCCEBMBBBHBcNBECIBHBbCBE",
    "BFBBDHBnCClGCbYjcIbSEdWeELFbFCBLBBBCBDBDFIBHBZBBCCBKECBeHBPbIOJfeZcleVbPgdPynZuWcfWCdsyOCdsy",
    "OCdsyOCdsyOCdsyOCdsyOCdsyOCdsyOCdsyOCdsyOCdsyOCBBbEdSeYjGdsfM"]⟩,
  ⟨["6.0", "v60"],
    .ofLines [
    "AbiECFFHBBBUBoZJbMCHBbNBCGcDIbBFFLECWCjGBcICdXOcHFbUCPBbCCBgFeQBHBDBICCCWBHBBDECJCCCEIBECBFC",
    "WFDBGECCWBHBCBCBCCBBFECCDDBHEBBHQLDBJBDBWBHBCBFCKBDBDCBPECKBBPDBICCCWBHBCBFCJCCCDICECBFCSKCB",
    "GDDBEDCBBBCDCDDDMEFDDBECBGBOVGDBIBDBXBKBFDIBDBEHCBCGECKIICCBIBDBXBKBFCJBDBEHCHBBECKBCPCBIBDB",
    "bPCIBDBFIBIECQDHCCBSDYBJBBCHDBEGBBBISDMcGEbDbLCBBCCBBCBGEBHBDBBBBCCBNBDCFBBBGCKCCbIcUBbKEbNB",
    "bKBPBNbLhQKbTDmRBECHBBBECbPBECbHBECHBBBECPBcFBECcPCbGDbAGdHLzTDdDPNBHLXJUMNBDBCMdQCKGKGPBKGd",
    "KIbRFcSKbDDMEMEBDbQCFLbSEbAGLDcKCcNBbDCLGKGOdEcYEbTDbRDMGcAIcIDPDbZdCbJNiXVkWCGCbMCGCIBBBBBB",
    "BbFCcBBPBOCGBTCDBJBdXFICbBBNDbAWbHPfIGxOMbNZLVzWBhUBBBbiLDKgKbVBbVBfQHbTKcCJCOYJHBHBHBHBHBHB",
    "HBHBdEdAbABdLMiGbAMEcMBdICdZFbPDdQBbRFbKMbVBiPBkdAKbfbWcAbsVDcDJnKUcAIbCIdKIfNBCOKdCbYEKGcEI",
    "cRJMGbCEdGLbEDdABLECbGcDJOCKCbGEcPYFbHGCGCGJHBHfPbUCKGqnSMXEbXEmyOCcKCeCbMHMFFbABFBBBCBCBeUR",
    "oBQcMCcCIbUCbAGHJbJBTBEEFBfFCBBhIDGCGCGCDDHBHKTBbABTBCBPCObIeTFDEbTDdGFMcAbUfAbDDbXbVbFBEMbB",
    "cBbEBbLEObQgCCKbgWGCBBbSBCDBCXBJgEbCDbBFBhKEBCFIBDBbBEDEJIJHbGeYcCDbDCbBFIeYcVuPbFoVdAEbEQcO",
    "fuCbhVfPdVNEejSbpFtqFvXbalBCmdAjMKbNCgZbIcShEdJJSfMdHBcTBCCBCCCEBMBBBHBcNBECIBHBbCBEBFBBDHBn",
    "CClGCbYjcIbSEdWMPCOCPBPbGLFbFBcGGbRcXbDNbRFJHCgSbHPGBcSDUMbLBFVRPcLBBBhABEDcKSYfRFBQBDBBBBBB",
    "BDBGCEBBCEBMELbWcScGeMdgCcleVbPgdPLiOyfAuWcfWCdsyOCdsyOCdsyOCdsyOCdsyOCdsyOCdsyOCdsyOCdsyOCd",
    "syOCdsyOCBBbEdSeYjGdsfM"]⟩,
  ⟨["6.1", "v61"],
    .ofLines [
    "AbiECFFHBBBUBoZJbMCHBbNBCEBBcDIbBFFLFBWCjGBcICdXOcHFbUCPBbCCBcNBBLcDbBBeQBHBDBICCCWBHBBDECJC",
    "CCEIBECBFCWFDBGECCWBHBCBCBCCBBFECCDDBHEBBHQLDBJBDBWBHBCBFCKBDBDCBPECMPDBICCCWBHBCBFCJCCCDICE",
    "CBFCSKCBGDDBEDCBBBCDCDDDMEFDDBECBGBOVGDBIBDBXBKBFDIBDBEHCBCGECKIICCBIBDBXBKBFCJBDBEHCHBBECKB",
    "CPCBIBDBbPCIBDBFIBIECQDHCCBSDYBJBBCHDBEGBBBISDMcGEbDbLCBBCCBBCBGEBHBDBBBBCCBNBDCFBBBGCKCEbGc",
    "UBbKEbNBbKBPBNbLhQBBFBCoNBECHBBBECbPBECbHBECHBBBECPBcFBECcPCbGDbAGdHLzTDdDPNBHLXJUMNBDBCMdQC",
    "KGKGPBKGdKIbRFcSKbDDMEMEBDbQCFLbSEbAGLDcKCcNBbDCLGKGOdEcYEbTDeMIcIDPDbZcMIIbNJiXVkWCGCbMCGCI",
    "BBBBBBBbFCcBBPBOCGBTCDBJBdXFICbBBNDbAWbHPfIGxOMbNZLVzWBbqIDKgKbVBbVBfSFbTBBFBCcEHCOYJHBHBHBH",
    "BHBHBHBHBdOcQbABdLMiGbAMEcMBdICdZFbPDdQBbRFbKMbVBiPBkdAKbfbXbZbsVDcDJnKUdKHdLIfNBEMLcZcAEKGc",
    "EIcRJMGbCEdGLbEDdABLECbGcDJOCKCbGEcPYbCKGCGCGJHBHfPbUCKGqnSMXEbXEnbACeCbMHMFFbABFBBBCBCBeURo",
    "BQcMCcCIbUCbAGHJbJBTBEEFBfFCBBhIDGCGCGCDDHBHKTBbABTBCBPCObIeTFDEbTDdGFMcAbUfAbDDbXbVbFBEMbBc",
    "BbEBbLEObQgCCKbgWGCBBbSBCDBCXBJgEbCDbBFBcMcEGCcMEBCFIBDBbBEDEJIJHbGeYcCDbDCbBFIeYcVuPbFoVdAE",
    "bEQcOOZHKGcBBOcIcVHKbtUcEIKdmSbhVfPdVNEejSbpFtqFvXbvBcRLbVQRyjWCmdAjMKbNCgZbIcShEdJJSfMdHBcT",
    "BCCBCCCEBMBBBHBcNBECIBHBbCBEBFBBDHBnCClGCbYiiQEBbBBCBBCBBKBEBBBBGBEBBBBBBDBCBBCBBBBBBBBBBCBB",
    "CEBHBEBEBBBKBRFDBFBRcACkKbSEdWMPCOCPBPbGLFbFBcIEbRcXbDNbRFJHCgSbHPGBcSDUMbLBFVRPcLBBBhABEDcK",
    "CEMYfRcSELbWcScGeMdgCcleVbPgdPLiOyfAuWcfWCdsyOCdsyOCdsyOCdsyOCdsyOCdsyOCdsyOCdsyOCdsyOCdsyOC",
    "dsyOCBBbEdSeYjGdsfM"]⟩,
  ⟨["6.2", "v62"],
    .ofLines [
    "AbiECFFHBBBUBoZJbMCHBbNBCEBBcDIbBFFLFBWCjGBcICdXOcHFbUCPBbCCBcNBBLcDbBBeQBHBDBICCCWBHBBDECJC",
    "CCEIBECBFCWFDBGECCWBHBCBCBCCBBFECCDDBHEBBHQLDBJBDBWBHBCBFCKBDBDCBPECMPDBICCCWBHBCBFCJCCCDICE",
    "CBFCSKCBGDDBEDCBBBCDCDDDMEFDDBECBGBOVGDBIBDBXBKBFDIBDBEHCBCGECKIICCBIBDBXBKBFCJBDBEHCHBBECKB",
    "CPCBIBDBbPCIBDBFIBIECQDHCCBSDYBJBBCHDBEGBBBISDMcGEbDbLCBBCCBBCBGEBHBDBBBBCCBNBDCFBBBGCKCEbGc",
    "UBbKEbNBbKBPBNbLhQBBFBCoNBECHBBBECbPBECbHBECHBBBECPBcFBECcPCbGDbAGdHLzTDdDPNBHLXJUMNBDBCMdQC",
    "KGKGPBKGdKIbRFcSKbDDMEMEBDbQCFLbSEbAGLDcKCcNBbDCLGKGOdEcYEbTDeMIcIDPDbZcMIIbNJiXVkWCGCbMCGCI",
    "BBBBBBBbFCcBBPBOCGBTCDBJBdXFICbBBNDbBVbHPfIGxOMbNZLVzWBbqIDKgKbVBbVBfSFbTBBFBCcEHCOYJHBHBHBH",
    "BHBHBHBHBdOcQbABdLMiGbAMEcMBdICdZFbPDdQBbRFbKMbVBiPBkdAKbfbXbZbsVDcDJnKUdKHdLIfNBEMLcZcAEKGc",
    "EIcRJMGbCEdGLbEDdABLECbGcDJOCKCbGEcPYbCKGCGCGJHBHfPbUCKGqnSMXEbXEnbACeCbMHMFFbABFBBBCBCBeURo",
    "BQcMCcCIbUCbAGHJbJBTBEEFBfFCBBhIDGCGCGCDDHBHKTBbABTBCBPCObIeTFDEbTDdGFMcAbUfAbDDbXbVbFBEMbBc",
    "BbEBbLEObQgCCKbgWGCBBbSBCDBCXBJgEbCDbBFBcMcEGCcMEBCFIBDBbBEDEJIJHbGeYcCDbDCbBFIeYcVuPbFoVdAE",
    "bEQcOOZHKGcBBOcIcVHKbtUcEIKdmSbhVfPdVNEejSbpFtqFvXbvBcRLbVQRyjWCmdAjMKbNCgZbIcShEdJJSfMdHBcT",
    "BCCBCCCEBMBBBHBcNBECIBHBbCBEBFBBDHBnCClGCbYiiQEBbBBCBBCBBKBEBBBBGBEBBBBBBDBCBBCBBBBBBBBBBCBB",
    "CEBHBEBEBBBKBRFDBFBRcACkKbSEdWMPCOCPBPbGLFbFBcIEbRcXbDNbRFJHCgSbHPGBcSDUMbLBFVRPcLBBBhABEDcK",
    "CEMYfRcSELbWcScGeMdgCcleVbPgdPLiOyfAuWcfWCdsyOCdsyOCdsyOCdsyOCdsyOCdsyOCdsyOCdsyOCdsyOCdsyOC",
    "dsyOCBBbEdSeYjGdsfM"]⟩,
  ⟨["6.3", "v63"],
    .ofLines [
    "AbiECFFHBBBUBoZJbMCHBbNBCEBBcDIbBFFLFBXBjGBcICdXOcHFbUCPBbCCBcNBBLcDbBBeQBHBDBICCCWBHBBDECJC",
    "CCEIBECBFCWFDBGECCWBHBCBCBCCBBFECCDDBHEBBHQLDBJBDBWBHBCBFCKBDBDCBPECMPDBICCCWBHBCBFCJCCCDICE",
    "CBFCSKCBGDDBEDCBBBCDCDDDMEFDDBECBGBOVGDBIBDBXBKBFDIBDBEHCBCGECKIICCBIBDBXBKBFCJBDBEHCHBBECKB",
    "CPCBIBDBbPCIBDBFIBIECQDHCCBSDYBJBBCHDBEGBBBISDMcGEbDbLCBBCCBBCBGEBHBDBBBBCCBNBDCFBBBGCKCEbGc",
    "UBbKEbNBbKBPBNbLhQBBFBCoNBECHBBBECbPBECbHBECHBBBECPBcFBECcPCbGDbAGdHLzTDdDPNBHLXJUMNBDBCMdQC",
    "KGKGPBKGdKIbRFcSKbDDMEMEBDbQCFLbSEbAGLDcKCcNBbDCLGKGOdEcYEbTDeMIcIDPDbZcMIIbNJiXVkWCGCbMCGCI",
    "BBBBBBBbFCcBBPBOCGBTCDBJBdXBMCbBBNDbBVbHPfIGxOMbNZLVzWBbqIDKgKbVBbVBfSFbTBBFBCcEHCOYJHBHBHBH",
    "BHBHBHBHBdOcQbABdLMiGbAMEcMBdICdZFbPDdQBbRFbKMbVBiPBkdAKbfbXbZbsVDcDJnKUdKHdLIfNBEMLcZcAEKGc",
    "EIcRJMGbCEdGLbEDdABLECbGcDJOCKCbGEcPYbCKGCGCGJHBHfPbUCKGqnSMXEbXEnbACeCbMHMFFbABFBBBCBCBeURo",
    "BQcMCcCIbUCbAGHJbJBTBEEFBfFCBBhIDGCGCGCDDHBHKTBbABTBCBPCObIeTFDEbTDdGFMcAbUfAbDDbXbVbFBEMbBc",
    "BbEBbLEObQgCCKbgWGCBBbSBCDBCXBJgEbCDbBFBcMcEGCcMEBCFIBDBbBEDEJIJHbGeYcCDbDCbBFIeYcVuPbFoVdAE",
    "bEQcOOZHKGcBBOcIcVHKbtUcEIKdmSbhVfPdVNEejSbpFtqFvXbvBcRLbVQRyjWCmdAjMKbNCgZbIcShEdJJSfMdHBcT",
    "BCCBCCCEBMBBBHBcNBECIBHBbCBEBFBBDHBnCClGCbYiiQEBbBBCBBCBBKBEBBBBGBEBBBBBBDBCBBCBBBBBBBBBBCBB",
    "CEBHBEBEBBBKBRFDBFBRcACkKbSEdWMPCOCPBPbGLFbFBcIEbRcXbDNbRFJHCgSbHPGBcSDUMbLBFVRPcLBBBhABEDcK",
    "CEMYfRcSELbWcScGeMdgCcleVbPgdPLiOyfAuWcfWCdsyOCdsyOCdsyOCdsyOCdsyOCdsyOCdsyOCdsyOCdsyOCdsyOC",
    "dsyOCBBbEdSeYjGdsfM"]⟩,
  ⟨["7.0", "v70"],
    .ofLines [
    "AbiECGEHBBBUBpHBbMCHBbNBCCDBcDIbBFFLbDBjGBcICdXOcHFbUCPBbCCBcNTbXgEBICCCWBHBBDECJCCCEIBECBFC",
    "WFDBGECCWBHBCBCBCCBBFECCDDBHEBBHQLDBJBDBWBHBCBFCKBDBDCBPECMPDBICCCWBHBCBFCJCCCDICECBFCSKCBGD",
    "DBEDCBBBCDCDDDMEFDDBECBGBOVFEBIBDBXBQDIBDBEHCBCGECKIIBDBIBDBXBKBFCJBDBEHCHBBECKBCODBIBDBbPCI",
    "BDBFIBIECQDHCCBSDYBJBBCHDBEGBBBIGKCDMcGEbDbLCBBCCBBCBGEBHBDBBBBCCBNBDCFBBBGCKCEbGcUBbKEbNBbK",
    "BPBNbLhQBBFBCoNBECHBBBECbPBECbHBECHBBBECPBcFBECcPCbGDbAGdHLzTDdLHNBHLXJUMNBDBCMdQCKGKGPBKGdK",
    "IbRFcSKbFBMEMEBDbQCFLbSEbAGLDcKCcNBbDCLGKGOCPcNcYEbTDeMIcIDPDbZcMIIbNBCGjMGkWCGCbMCGCIBBBBBB",
    "BbFCcBBPBOCGBTCDBJBdXBMCbBBNDbESbHPfIGxVFbNZLVcrSCbGCbIDMBIbUbVBbVBfSFbTBBFBCcEHCOYJHBHBHBHB",
    "HBHBHBHBdVcJbABdLMiGbAMEcMBdICdZFbPDdQBbRFbKMbVBiPBkdAKbfbXbZbsVDcDJnKUdQBdLIfNBbECCcRcBEKGc",
    "EIcRJMGbCEdGLbEDdABLEbHBcDJOCKCdZYbCKGCGCGJHBHBbWECdMbUCKGqnSMXEbXEnbACeCbMHMFFbABFBBBCBCBeU",
    "RoBQcMCcCIbUCbAGOCbJBTBEEFBfFCBBhIDGCGCGCDDHBHKTBbABTBCBPCObIeTFDEbTDdIDMEBbVbUfAbDDbXPbCEbK",
    "MbBFbRFbEBbLEObQgCCKdIbOIcALBfOlZJWKIfWGCBBbSBCDBCXBcUIJdCbCDbBFBcMcEGCcMEBCFIBDBbBEDEJIJHcM",
    "bGbNEMJcCDbDCbBFbAHEMHdCcVuPbFoVdAEbEPcPOZHKGcBBOMbNJcVEBCLGULSBbReKcHFKHDBICCCWBHBCBFCJCCCD",
    "JBFHCHDFkHcUIKgKcCCScCcRLKbMcEIKsCdFMBrGcFbxNbjLdZeHBFejRbpFtqFvXHbFBKECdSbECGKcSKKBHBVFTbhW",
    "cRLbVQRyjWCeoCeDFNDJHKCIhiQjMKbNCgZbIcShEdJJSfMdHBcTBCCBCCCEBMBBBHBcNBECIBHBbCBEBFBBDHBnCClG",
    "CbYgbOhPCQbyVEBbBBCBBCBBKBEBBBBGBEBBBBBBDBCBBCBBBBBBBBBBCBBCEBHBEBEBBBKBRFDBFBRcACkKbSEdWMPC",
    "PBPBbLKNDbFBcIEbRcXbDNbRFJHCgSbTDdACdBFbKIjVBcXFbQBbPBgCCfJQNDEMeMMdHbRMEcEIKGbOIbEcuAcleVbP",
    "gdPLiOyfAuWcfWCdsyOCdsyOCdsyOCdsyOCdsyOCdsyOCdsyOCdsyOCdsyOCdsyOCdsyOCBBbEdSeYjGdsfM"]⟩,
  ⟨["8.0", "v80"],
    .ofLines [
    "AbiECGEHBBBUBpHBbMCHBbNBCCDBcDIbBFFLbDBjGBcICdXOcHFbUCPBbCCBcNVbUgFBICCCWBHBBDECJCCCEIBECBFC",
    "WFDBGECCWBHBCBCBCCBBFECCDDBHEBBHQLDBJBDBWBHBCBFCKBDBDCBPECMHBHDBICCCWBHBCBFCJCCCDICECBFCSKCB",
    "GDDBEDCBBBCDCDDDMEFDDBECBGBOVFEBIBDBXBQDIBDBEHCBDFECKIIBDBIBDBXBKBFCJBDBEHCHBBECKBCODBIBDBbP",
    "CIBDBFIBHFCQDHCCBSDYBJBBCHDBEGBBBIGKCDMcGEbDbLCBBCCBBCBGEBHBDBBBBCCBNBDCFBBBGCKCEbGcUBbKEbNB",
    "bKBPBNbLhQBBFBCoNBECHBBBECbPBECbHBECHBBBECPBcFBECcPCbGDbAGdICGCzTDdLHNBHLXJUMNBDBCMdQCKGKGPB",
    "KGdKIbRFcSKbFBMEMEBDbQCFLbSEbAGLDcKCcNBbDCLGKGOCPcNcYEbTDeMIcIDPDbZcMIIbNBCGjMGkWCGCbMCGCIBB",
    "BBBBBbFCcBBPBOCGBTCDBJBdXBMCbBBNDbFRbHPfKExVFbNZLVcrSCbGCbIDMBIbAEQbVBbVBfSFbTBBFBCcEHCOYJHB",
    "HBHBHBHBHBHBHBdVcJbABdLMiGbAMEcMBdICdZFbPDdQBbRFbKMbVBiPBkdAKbfcGbQbsVDcDJnKUhCIgSCIcLcBEKGc",
    "EIcRJMGbECdGLbEDdABLEbHBcDJOCKCdZYbCKGCGCGJHBHBcCKeWCKGqnSMXEbXEnbACeCbMHMFFbABFBBBCBCBeURoB",
    "QcMCcCIbUCbAGbZBTBEEFBfFCBBhIDGCGCGCDDHBHKTBbABTBCBPCObIeTFDEbTDdIDMEBbVbUfAbDDbXPbCEbKMbBFb",
    "RFbEBbLEObQgCCKdIbOIcALBfOlZJWKIfWGCBBbSBCDBCXBcUIJbWTBCFbHDbBFBcMcEEUCbYBCFIBDBbBEDEJIJHcMb",
    "GbNEMJcCDbDCbBFbAHEMHdCcVcDbZNbZHGnObFoVdAEbEPcPOZHKGcBBOMbNJdACQBULSBbRcOHBBBEBPBLGcHFKGEBI",
    "CCCWBHBCBFCJCCCDCBGBFHCHDFkHcUIKgKcCCbMbIcRLKbMcEIKcCbADPEQnOdFMBrGcFbxNbjMdYeHBFLhOebSbpFfz",
    "TwLmuBvXHbFBKECdSbECGKcSKKBHBVFTbhWcRLbVQRyjWCeoCeDFNDJHKCIhiQjMKbNChKXcShEdJJSfMdHBcTBCCBCC",
    "CEBMBBBHBcNBECIBHBbCBEBFBBDHBnCClGCbbAPFBPfbChPCQbyVEBbBBCBBCBBKBEBBBBGBEBBBBBBDBCBBCBBBBBBB",
    "BBBCBBCEBHBEBEBBBKBRFDBFBRcACkKbSEdWMPCPBPBbLKNDbFBcIEbRcXbDNbRFJHCgSyKBbPBlOPNDEMeMMdHbRMEc",
    "EIKGbOIbEdUJdZFcHBcjLcleVbPgdPLiOCinQprIuWcfWCdsyOCdsyOCdsyOCdsyOCdsyOCdsyOCdsyOCdsyOCdsyOCd",
    "syOCdsyOCBBbEdSeYjGdsfM"]⟩,
  ⟨["9.0", "v90"],
    .ofLines [
    "AbiECGEHBBBUBpHBbMCHBbNBCCDBcDIbBFFLbDBjGBcICdXOcHFbUCPBbCCBcNVBIWgUBICCCWBHBBDECJCCCEIBECBF",
    "CWFDBGECCWBHBCBCBCCBBFECCDDBHEBBHQLDBJBDBWBHBCBFCKBDBDCBPECMHBHDBICCCWBHBCBFCJCCCDICECBFCSKC",
    "BGDDBEDCBBBCDCDDDMEFDDBECBGBOVFEBIBDBXBQDIBDBEHCBDFECKIMBIBDBXBKBFCJBDBEHCHBBECKBCODBIBDBbPC",
    "IBDBGEQCbACCBSDYBJBBCHDBEGBBBIGKCDMcGEbDbLCBBCCBBCBGEBHBDBBBBCCBNBDCFBBBGCKCEbGcUBbKEbNBbKBP",
    "BNbLhQBBFBCoNBECHBBBECbPBECbHBECHBBBECPBcFBECcPCbGDbAGdICGCzTDdLHNBHLXJUMNBDBCMdQCKGKGPBKGdK",
    "IbRFcSKbFBMEMEBDbQCFLbSEbAGLDcKCcNBbDCLGKGOCPcNcYEbTDeMIcIDPDcIcDIIbNBCGjMFkXCGCbMCGCIBBBBBB",
    "BbFCcBBPBOCGBTCDBJBdXBMCbBBNDbFRbHPfKExZBbNZLVcrSCbGCbIDMBIbAEQbVBbVBfSFbTBBFBCcEHCOYJHBHBHB",
    "HBHBHBHBHBdXcHbABdLMiGbAMEcMBdICdZFbPDdQBbRFbKMbVBiPBkdAKbfcGbQbsVDcDJnKUhCIgTBIcLcBEKGcEIcS",
    "IMGbECdGLbEDdABLEbHBcDJOCKCdZYbCKGCGCGJHBHBcCKeWCKGqnSMXEbXEnbACeCbMHMFFbABFBBBCBCBeURoBQcMC",
    "cCIbUCbAGbZBTBEEFBfFCBBhIDGCGCGCDDHBHKTBbABTBCBPCObIeTFDEbTDdKBMEBbVbUfAbDDbXPbCEbKMbBFbRFbE",
    "BbLEObQgCCKGbKEbKEbOIcALBfOlZJWKIfWGCBBbSBCDBCXBcUIJbWTBCFbHDbBFBcMcEEUCbYBCFIBDBbBEDEJIJHcM",
    "bGbNEMJcCDbDCbBFbAHEMHdCcVcDbZNbZHGnObFoVdAEbEPcPOZHKGcBBOMbNJdACQBULSBbScNHBBBEBPBLGcHFKGEB",
    "ICCCWBHBCBFCJCCCDCBGBFHCHDFfJdMBBBBbIcUIKgKcCCbMbIcRLKGNTcEIKcCbADPEQnOdFMBrGcFkDJBbTBOKbDDb",
    "GCWBObgJbjMdYeHBFLhOebSbpFfzTwLmuBvXHbFBKECdSbECGKcSKKBHBVFTbhWcRLbVQRcMBbFjbPTbdBoaVCeoCeDF",
    "NDJHKCIhiQjMKbNChKXcShEdJJSfMdHBcTBCCBCCCEBMBBBHBcNBECIBHBbCBEBFBBDHBnCClGCbbAPFBPcaIHBRCHBC",
    "BFczDhPCQbPcXFKECbtOEBbBBCBBCBBKBEBBBBGBEBBBBBBDBCBBCBBBBBBBBBBCBBCEBHBEBEBBBKBRFDBFBRcACkKb",
    "SEdWMPCPBPBbLKNDbFBcIEcJcFbDNbSEJHCgSblRNNDHJeMMdHbRMEcEIKGbOIbEdUPBIIBCMBMEPbHSbUBcjLcleVbP",
    "gdPLiOCinQprIuWcfWCdsyOCdsyOCdsyOCdsyOCdsyOCdsyOCdsyOCdsyOCdsyOCdsyOCdsyOCBBbEdSeYjGdsfM"]⟩,
  ⟨["10.0", "v100"],
    .ofLines [
    "AbiECGEHBBBUBpHBbMCHBbNBCCDBcDIbBFFLbDBjGBcICdXOcHFbUCPBbCCBBLcBVBIWgUBICCCWBHBBDECJCCCEIBEC",
    "BFCYDDBGECCWBHBCBCBCCBBFECCDDBHEBBHQLDBJBDBWBHBCBFCKBDBDCBPECMHHBDBICCCWBHBCBFCJCCCDICECBFCS",
    "KCBGDDBEDCBBBCDCDDDMEFDDBECBGBOVFEBIBDBXBQDIBDBEHCBDFECKIMBIBDBXBKBFCJBDBEHCHBBECKBCNEBIBDBb",
    "ZBDBGEQCbACCBSDYBJBBCHDBEGBBBIGKCDMcGEbDbLCBBCCBBCBGEBHBDBBBBCCBNBDCFBBBGCKCEbGcUBbKEbNBbKBP",
    "BNbLhQBBFBCoNBECHBBBECbPBECbHBECHBBBECPBcFBECcPCbGDbAGdICGCzTDdLHNBHLXJUMNBDBCMdQCKGKGPBKGdK",
    "IbRFcSKbFBMEMEBDbQCFLbSEbAGLDcKCcNBbDCLGKGOCPcNcYEbTDeMIcIDPDcIcDIIbQGjQBkXCGCbMCGCIBBBBBBBb",
    "FCcBBPBOCGBTCDBJBdXBMCbBBNDbGQbHPfKEzNZLVcrSCbGCbIDMBJZEQbVBbVBfSFbTBBFBCcEHCOYJHBHBHBHBHBHB",
    "HBHBeCcCbABdLMiGbAMEcMBdICdZFbQCdQBbRFbKMbVBiPBkdAKbfdBVbsVDcDJnKUhCIgTBIcLcBEKGcEIcSIMGbECd",
    "GLbEDdABLEbHBcDJOCKCdZYbCKGCGCGJHBHBcCKeWCKGqnSMXEbXEnbACeCbMHMFFbABFBBBCBCBeURoBQcMCcCIbUCb",
    "AGbZBTBEEFBfFCBBhIDGCGCGCDDHBHKTBbABTBCBPCObIeTFDEbTDdKBMEBbVbUfAbDDbXPbCEbKJbEFbRFbEBbLEObQ",
    "gCCKGbKEbKEbOIcALBfOlZJWKIfWGCBBbSBCDBCXBcUIJbWTBCFbHDbBFBcMcEEUCbYBCFIBDBbBEDEJIJHcMbGbNEMJ",
    "cCDbDCbBFbAHEMHdCcVcDbZNbZHGnObFoVdAEbEPcPOZHKGcBBOMbNJdACQBULSBbScNHBBBEBPBLGcHFKGEBICCCWBH",
    "BCBFCJCCCDCBGBFHCHDFfJdMBBBBbIcUIKgKcCCbMbIcRLKGNTcEIKcCbADPEQnOdFMBjWcUIcACXBFbDcFkDJBbTBOK",
    "bDDbGCWBOcVHBCBbSDBBCBJIKbaCbjMdYeHBFLhOebSbpFfzTwLmuBvXHbFBKECdSbECGKcSKKBHBVFTbhWcRLbVQRcM",
    "CbEjbPTbdBoaVlBdDpGdkUeDFNDJHKCIhiQjMKbNChKXcShEdJJSfMdHBcTBCCBCCCEBMBBBHBcNBECIBHBbCBEBFBBD",
    "HBnCClGCbbAPFBPcaIHBRCHBCBFczDhPCQbPcXFKECbtOEBbBBCBBCBBKBEBBBBGBEBBBBBBDBCBBCBBBBBBBBBBCBBC",
    "EBHBEBEBBBKBRFDBFBRcACkKbSEdWMPCPBPBbLKNDbFBcIEcJcFbDNbSEJHCOGfYblTLNDJHeMMdHbRMEcEIKGbOIbEd",
    "EMEbVBNDbCUYbOBPXchZcleVbPgdPLiOCinQOlbLepJuWcfWCdsyOCdsyOCdsyOCdsyOCdsyOCdsyOCdsyOCdsyOCdsy",
    "OCdsyOCdsyOCBBbEdSeYjGdsfM"]⟩,
  ⟨["11.0", "v110"],
    .ofLines [
    "AbiECGEHBBBUBpHBbMCbYCDBcDIbBEGLbDBjGBcICdXOcHCbXCPBbCCBBLcBVBIVgVBICCCWBHBBDECJCCCEIBECBFCZ",
    "CDBGECCWBHBCBCBCCBBFECCDDBHEBBHRKDBJBDBWBHBCBFCKBDBDCBPECMHHBDBICCCWBHBCBFCJCCCDICECBFCSKCBG",
    "DDBEDCBBBCDCDDDMEFDDBECBGBOVFNBDBXBQDIBDBEHCBDFECKIVBDBXBKBFCJBDBEHCHBBECKBCNEBIBDBbZBDBGEQC",
    "bACCBSDYBJBBCHDBEGBBBIGKCDMcGEbDbLCBBCCBBCBGEBHBDBBBBCCBNBDCFBBBGCKCEbGcUBbKEbNBbKBPBNbLhQBB",
    "FBCoNBECHBBBECbPBECbHBECHBBBECPBcFBECcPCbGDbAGdICGCzTDdLHNBHLXJUMNBDBCMdQCKGKGPBKGdLHbRFcSKb",
    "FBMEMEBDbQCFLbSEbAGLDcKCcNBbDCLGKGOCPcNcYEbTDeMIcIDPDcIHbRCLIbQGjQBkXCGCbMCGCIBBBBBBBbFCcBBP",
    "BOCGBTCDBJBdXBMCbBBNDbGQbHPfKEzNZLVcrSCbGCbXBcBBbVBbVBfSFbTBBFBCcEHCOYJHBHBHBHBHBHBHBHBeHbXb",
    "ABdLMiGbAMEcMBdICdZFbRBdQBbRFbKMbVBiPBkdAKbfdGQbsVDcDJnKUhCIhEcJcBEKGcEIcSIMGeMLbEDdABLEbHBc",
    "DJOCKCdZYbCKGCGCGJHBHBcCKeWCKGqnSMXEbXEnbACeCbMHMFFbABFBBBCBCBeURoBQcMCcCIbUCbAGbZBTBEEFBfFC",
    "BBhIDGCGCGCDDHBHKTBbABTBCBPCObIeTFDEbTDdKBMEBbVbUfAbDDbXPbCEbKJbEFbRFbEBbLEObQgCCKGbKEbKEbOI",
    "cALBfOlZJWKIfWGCBBbSBCDBCXBcUIJbWTBCFbHDbBFBcMcEEUCbYBCFIBDBbDCDEKHJHcMbGbNEMJcCDbDCbBFbAHEM",
    "HdCcVcDbZNbZHbUIKlIbFeZbOIbQgKdAEbEPcPLBCZHKGcBBRJbNJdACQBULSBbScNHBBBEBPBLGcHFKGEBICCCWBHBC",
    "BFBKCCCDCBGBFHCHDFfJdMBBBCbHcUIKgKcCCbMbIcRLKGNTcEIKcCbBCPEQhKcIdWdFMBjWcUIcACbDbDcFkDJBbTBO",
    "KbDDbGCWBOcVHBCBbSDBBCBJIKGGBCBbLBCBGHKlYZkDbjMdYeHBFLhOebSbpFfzTwLmuBvXHbFBKECdSbECGKcSKKBH",
    "BVFTbaMdNdXcRLbVQRcMCbEjbUObdBoaVlBdDpGdkUeDFNDJHKCIhiQjMKbNChKXcSfYUMdJJZfFdHBcTBCCBCCCEBMB",
    "BBHBcNBECIBHBbCBEBFBBDHBnCClGCbbAPFBPcaIHBRCHBCBFczDhPCQbPcXFKECbeFcQmTEBbBBCBBCBBKBEBBBBGBE",
    "BBBBBBDBCBBCBBBBBBBBBBCBBCEBHBEBEBBBKBRFDBFBRcACkKbSEdWMPCPBPBbLKNDdOEcJcFbDNbSEJHCOGfYblTLN",
    "DKGeMMdLbNMEcEIKGbOIbEdEMEbVBbXCEDBBbNNKGDNbWdSOccUcleVbPgdPLiOCinQOlbLepJuWcfWCdsyOCdsyOCds",
    "yOCdsyOCdsyOCdsyOCdsyOCdsyOCdsyOCdsyOCdsyOCBBbEdSeYjGdsfM"]⟩,
  ⟨["12.0", "v120"],
    .ofLines [
    "AbiECGEHBBBUBpHBbMCbYCDBcDIbBEGLbDBjGBcICdXOcHCbXCPBbCCBBLcBVBIVgVBICCCWBHBBDECJCCCEIBECBFCZ",
    "CDBGECCWBHBCBCBCCBBFECCDDBHEBBHRKDBJBDBWBHBCBFCKBDBDCBPECMHHBDBICCCWBHBCBFCJCCCDICECBFCSKCBG",
    "DDBEDCBBBCDCDDDMEFDDBECBGBOVFNBDBXBQDIBDBEHCBDFECKHWBDBXBKBFCJBDBEHCHBBECKBCNEBIBDBbZBDBGEQC",
    "bACCBSDYBJBBCHDBEGBBBIGKCDMcGEbDbLCBBBFBYBBBXCFBBBGCKCEbGcUBbKEbNBbKBPBNbLhQBBFBCoNBECHBBBEC",
    "bPBECbHBECHBBBECPBcFBECcPCbGDbAGdICGCzTDdLHNBHLXJUMNBDBCMdQCKGKGPBKGdLHbRFcSKbFBMEMEBDbQCFLb",
    "SEbAGLDcKCcNBbDCLGKGOCPcNcYEbTDeMIcIDPDcIHbRCLIbRFjQBkXCGCbMCGCIBBBBBBBbFCcBBPBOCGBTCDBJBdXB",
    "MCbBBNDbGQbHPfKEzNZLVcrSCbGCfVBbVBfSFbTBBFBCcEHCOYJHBHBHBHBHBHBHBHBeIbWbABdLMiGbAMEcMBdICdZF",
    "bRBdQBbRFbKMbVBiPBkdAKbfdGQbsVDcDJnKUhCIhKCFbWcBEKGcEIcSIMGeMLbEDdABLEbHBcDJOCKCdZYbCKGCGCGJ",
    "HBHBcEIeWCKGqnSMXEbXEnbACeCbMHMFFbABFBBBCBCBeURoBQcMCcCIbUCbAGbZBTBEEFBfFCBBhIDGCGCGCDDHBHKT",
    "BbABTBCBPCObIeTFDEbTDdKBMEBbVbUfAbDDbXPbCEbKJbEFbRFbEBbLEObQgCCKGbKEbKEbOIcALBfOlZJWKIfWGCBB",
    "bSBCDBCXBcUIJbWTBCFbHDbBFBcMcEEUCbYBCFIBDBbDCDEKHJHcMbGbNEMJcCDbDCbBFbAHEMHdCcVcDbZNbZHbUIKl",
    "IbFeZbOIbQfEXJdAEbEPcPLBCZHKGcBBRJbNJdACQBULSBbScNHBBBEBPBLGcHFKGEBICCCWBHBCBFBKCCCDCBGBFHCH",
    "DFfJdMBBBDbGcUIKgKcCCbMbIcRLKGNTcFHKcCbBCPEQhKcIdWdFMBgEICbUCLbBcUIdFbDcFkDJBbTBOKbDDbGCWBOc",
    "VHBCBbSDBBCBJIKGGBCBbLBCBGHKlYZhRbYNbjNdYeHBFLhOebSbpFBJfzJwLmuBvXHbFBKECdSbECGKcSKKBHBVFTba",
    "MdNdXcXEcFHRcMEbCjcAIbdBoaVlBbXDREIpGdkUeDFNDJHKCIhiQjMKbNChKXcSfYUMdJJZfFdHBcTBCCBCCCEBMBBB",
    "HBcNBECIBHBbCBEBFBBDHBnCClGCbbAPFBPcaIHBRCHBCBFiFbTDOCKECoEcGFBbxGhPCQbPcYEKECbeFcQcYcJhMEBb",
    "BBCBBCBBKBEBBBBGBEBBBBBBDBCBBCBBBBBBBBBBCBBCEBHBEBEBBBKBRFDBFBRcACkKbSEdWMPCPBPBbLKNDdPDcJcF",
    "bDNbSEJHCOGfYblUKNDLFeMMdLHMUMEcEIKGbOIbEdEMBdXBEDbPCGDbDCfFMOCEEDFDNGcbGcleVbPgdPLiOCinQOlb",
    "LepJuWcfWCdsyOCdsyOCdsyOCdsyOCdsyOCdsyOCdsyOCdsyOCdsyOCdsyOCdsyOCBBbEdSeYjGdsfM"]⟩,
  ⟨["12.1", "v121"],
    .ofLines [
    "AbiECGEHBBBUBpHBbMCbYCDBcDIbBEGLbDBjGBcICdXOcHCbXCPBbCCBBLcBVBIVgVBICCCWBHBBDECJCCCEIBECBFCZ",
    "CDBGECCWBHBCBCBCCBBFECCDDBHEBBHRKDBJBDBWBHBCBFCKBDBDCBPECMHHBDBICCCWBHBCBFCJCCCDICECBFCSKCBG",
    "DDBEDCBBBCDCDDDMEFDDBECBGBOVFNBDBXBQDIBDBEHCBDFECKHWBDBXBKBFCJBDBEHCHBBECKBCNEBIBDBbZBDBGEQC",
    "bACCBSDYBJBBCHDBEGBBBIGKCDMcGEbDbLCBBBFBYBBBXCFBBBGCKCEbGcUBbKEbNBbKBPBNbLhQBBFBCoNBECHBBBEC",
    "bPBECbHBECHBBBECPBcFBECcPCbGDbAGdICGCzTDdLHNBHLXJUMNBDBCMdQCKGKGPBKGdLHbRFcSKbFBMEMEBDbQCFLb",
    "SEbAGLDcKCcNBbDCLGKGOCPcNcYEbTDeMIcIDPDcIHbRCLIbRFjQBkXCGCbMCGCIBBBBBBBbFCcBBPBOCGBTCDBJBdXB",
    "MCbBBNDbGQbHPfKEzNZLVcrSCbGCfVBbVBfSFbTBBFBCcEHCOYJHBHBHBHBHBHBHBHBeIbWbABdLMiGbAMEcMBdICdZF",
    "bRBdQBbRFbKMbVBklQKbfdGQbsVDcDJnKUhCIhKCFbWcBEKGcEIcSIMGeMLbEDdABLEbHBcDJOCKCdZYbCKGCGCGJHBH",
    "BcEIeWCKGqnSMXEbXEnbACeCbMHMFFbABFBBBCBCBeURoBQcMCcCIbUCbAGbZBTBEEFBfFCBBhIDGCGCGCDDHBHKTBbA",
    "BTBCBPCObIeTFDEbTDdKBMEBbVbUfAbDDbXPbCEbKJbEFbRFbEBbLEObQgCCKGbKEbKEbOIcALBfOlZJWKIfWGCBBbSB",
    "CDBCXBcUIJbWTBCFbHDbBFBcMcEEUCbYBCFIBDBbDCDEKHJHcMbGbNEMJcCDbDCbBFbAHEMHdCcVcDbZNbZHbUIKlIbF",
    "eZbOIbQfEXJdAEbEPcPLBCZHKGcBBRJbNJdACQBULSBbScNHBBBEBPBLGcHFKGEBICCCWBHBCBFBKCCCDCBGBFHCHDFf",
    "JdMBBBDbGcUIKgKcCCbMbIcRLKGNTcFHKcCbBCPEQhKcIdWdFMBgEICbUCLbBcUIdFbDcFkDJBbTBOKbDDbGCWBOcVHB",
    "CBbSDBBCBJIKGGBCBbLBCBGHKlYZhRbYNbjNdYeHBFLhOebSbpFBJfzJwLmuBvXHbFBKECdSbECGKcSKKBHBVFTbaMdN",
    "dXcXEcFHRcMEbCjcAIbdBoaVlBbXDREIpGdkUeDFNDJHKCIhiQjMKbNChKXcSfYUMdJJZfFdHBcTBCCBCCCEBMBBBHBc",
    "NBECIBHBbCBEBFBBDHBnCClGCbbAPFBPcaIHBRCHBCBFiFbTDOCKECoEcGFBbxGhPCQbPcYEKECbeFcQcYcJhMEBbBBC",
    "BBCBBKBEBBBBGBEBBBBBBDBCBBCBBBBBBBBBBCBBCEBHBEBEBBBKBRFDBFBRcACkKbSEdWMPCPBPBbLKNDdPDcJcFbDN",
    "bSEJHCOGfYblUKNDLFeMMdLHMUMEcEIKGbOIbEdEMBdXBEDbPCGDbDCfFMOCEEDFDNGcbGcleVbPgdPLiOCinQOlbLep",
    "JuWcfWCdsyOCdsyOCdsyOCdsyOCdsyOCdsyOCdsyOCdsyOCdsyOCdsyOCdsyOCBBbEdSeYjGdsfM"]⟩,
  ⟨["13.0", "v130"],
    .ofLines [
    "AbiECGEHBBBUBpHBbMCbYCDBcDIbBEGLbDBjGBcICdXOcHCbXCPBbCCBBLcBVBSLgVBICCCWBHBBDECJCCCEIBECBFCZ",
    "CDBGECCWBHBCBCBCCBBFECCDDBHEBBHRKDBJBDBWBHBCBFCKBDBDCBPECMHHBDBICCCWBHBCBFCJCCCDHDECBFCSKCBG",
    "DDBEDCBBBCDCDDDMEFDDBECBGBOVFNBDBXBQDIBDBEHCBDFECKHWBDBXBKBFCJBDBEHCHBBECKBCNNBDBbZBDBGEQCbA",
    "BDBSDYBJBBCHDBEGBBBIGKCDMcGEbDbLCBBBFBYBBBXCFBBBGCKCEbGcUBbKEbNBbKBPBNbLhQBBFBCoNBECHBBBECbP",
    "BECbHBECHBBBECPBcFBECcPCbGDbAGdICGCzTDdLHNBHLXJUMNBDBCMdQCKGKGPBKGdLHbRFcSKbFBMEMEBDbQCFLbSE",
    "bAGLDcKCcNBbDCLGKGOCRcLcYEbTDeMIcIDPDcIHbRCLIbRFjQBkXCGCbMCGCIBBBBBBBbFCcBBPBOCGBTCDBJBdXBMC",
    "bBBNDbGQbHPfKEzNZLVcrSCbGBfWBbVBfSFbTBBFBCcEHCOYJHBHBHBHBHBHBHBHBeLbTbABdLMiGbAMEcMBdICdZFbR",
    "BdQBdGMbVBbppTDbsVDcDJnKUhCIhKCJbQcEDKGcEIcSIMGeMLbEDdABLEbHBcDJOCKCdZYbCKGCGCGJHBHBcIEeWCKG",
    "qnSMXEbXEnbACeCbMHMFFbABFBBBCBCBeURoBQcMCcCIbUCbAGbZBTBEEFBfFCBBhIDGCGCGCDDHBHKTBbABTBCBPCOb",
    "IeTFDEbTDdKBNDBbVbUfAbDDbXPbCEbKJbEFbRFbEBbLEObQgCCKGbKEbKEbOIcALBfOlZJWKIfWGCBBbSBCDBCXBcUI",
    "JbWTBCFbHDbBFBcMcEEUCbYBCFIBDBbDCDEKHJHcMbGbNEMJcCDbDCbBFbAHEMHdCcVcDbZNbZHbUIKlIbFBbQBDCCdA",
    "bOIbQdIbCUXJdAEbEPcPLBCZHKGcBBSIbNJdSBULSBbScNHBBBEBPBLGcHFKGEBICCCWBHBCBFBKCCCDCBGBFHCHDFfJ",
    "dOBFbEcUIKgKcCCbMbIcRLKGNTcFHKcCbBCPEQhKcIdWdFMICBCIBCBbEBCCMJKcSICbUCLbBcUIdFbDcFkDJBbTBOKb",
    "DDbGCWBOcVHBCBbSDBBCBJIKGGBCBbLBCBGHKlYZhBBPbYNbjNdYeHBFLhOebSbpFBJfzJwLmuBvXHbFBKECdSbECGKc",
    "SKKBHBVFTbaMdNdXcXEcFHRcMFLCOjcAIbvQbQJngHlBbXDREIpGdkUeDFNDJHKCIhiQjMKbNChKXcSfYUMdJJZfFdHB",
    "cTBCCBCCCEBMBBBHBcNBECIBHBbCBEBFBBDHBnCClGCbbAPFBPcaIHBRCHBCBFiFbTDOCKECoEcGFBbxGhPCQbPcYEKE",
    "CbeFcQcYcJhMEBbBBCBBCBBKBEBBBBGBEBBBBBBDBCBBCBBBBBBBBBBCBBCEBHBEBEBBBKBRFDBFBRcACkKbSEdWMPCP",
    "BPBbLKgScEbDNbSEJHCOGfYblWINDNDeMMdLHMUMEcEIKGbOIbECCdAeRBdEBfFMOCFDDFHJZHHJDNHbPfRBcDbLKbnO",
    "clfCbIgdPLiOCinQOlbLepJuWcfWhiBdlqPCdsyOCdsyOCdsyOCdsyOCdsyOCdsyOCdsyOCdsyOCdsyOCdsyOCBBbEdS",
    "eYjGdsfM"]⟩,
  ⟨["14.0", "v140"],
    .ofLines [
    "AbiECGEHBBBUBpHBbMCbYCDBcDIbBEGLkKBcICdXOcHCbXCPBbCCBBLFbFBCGjCBICCCWBHBBDECJCCCEIBECBFCZCDB",
    "GECCWBHBCBCBCCBBFECCDDBHEBBHRKDBJBDBWBHBCBFCKBDBDCBPECMHHBDBICCCWBHBCBFCJCCCDHDECBFCSKCBGDDB",
    "EDCBBBCDCDDDMEFDDBECBGBOVFNBDBXBQCJBDBEHCBDCBCECKHWBDBXBKBFCJBDBEHCGCBECKBCNNBDBbZBDBGEQCbAB",
    "DBSDYBJBBCHDBEGBBBIGKCDMcGEbDbLCBBBFBYBBBXCFBBBGCKCEbGcUBbKEbNBbKBPBNbLhQBBFBCoNBECHBBBECbPB",
    "ECbHBECHBBBECPBcFBECcPCbGDbAGdICGCzTDdLHWJYJUMNBDBCMdQCKGKGbAGdLHbRFcSKbFBMEMEBDbQCFLbSEbAGL",
    "DcKCcNBbDCLGKGOCbFbXcZDbVBeMIcIDPDcIHbRCLIbRFuOCGCbMCGCIBBBBBBBbFCcBBPBOCGBTCDBJBdXBMCbBBNDb",
    "HPbHPfKEzNZLVcrSCbGBnLFbTBBFBCcEHCOYJHBHBHBHBHBHBHBHBeWbIbABdLMiGbAMEcMBdICdZFbRBdQBdGMbVBbr",
    "iRDcDJnKUhCIhVFCBBBFYcHDKGcEIcSIMGeMLbEDdABLEbHBcDJOCKCdZYbCKGCGCGJHBHBcIEeWCKGqnSMXEbXEnbAC",
    "eCbMHMFFbABFBBBCBCBeVQrDCcCHcXGbZBTBEEFBfFCBBhIDGCGCGCDDHBHKTBbABTBCBPCObIeTFDEbTDdKBNDBbVbU",
    "fAbDDbXPbCEbKJbEFbRFbEBbLEObQgCCKGbKEbKEbOIcALMBPBHBCBLBPBHBCcPlZJWKIYGBbQBJcRGCBBbSBCDBCXBc",
    "UIJbWTBCFbHDbBFBcMcEEUCbYBCFIBDBbDCDEKHJHcMbGbNEMJcCDbDCbBFbAHEMHdCcVcDbZNbZHbUIKlIbFBbQBDCC",
    "dAbOIbQWbAbMbCUXJdAEbKJcQKBCZHKGcBBSIbNJdSBULSBbScNHBBBEBPBLGcHFKGEBICCCWBHBCBFBKCCCDCBGBFHC",
    "HDFfJdOBFbEcUIKgKcCCbMbIcRLKGNTcGGKcCbBCPEXhDcIdWdFMICBCIBCBbEBCCMJKcSICbUCLbBcUIdFNcVkDJBbT",
    "BOKbDDbGCWBOcVHBCBbSDBBCBJIKGGBCBbLBCBGHKlYZhBBPbYNbjNdYeHBFLhOdxKdVNbpFBJfzJwLmuBvXHbFBKEdD",
    "BKGbECGKcSKKBHBVFTbaMdNdXcXEcFHRcMFLCOjcAIbvQbQJnfREBHBCBlFbTDREIpGdkUeDFNDJHKCIgyUbUCXJeMcI",
    "jMKbNChMVcSfYUMdJJZfFdHBcTBCCBCCCEBMBBBHBcNBECIBHBbCBEBFBBDHBnCClGCbbAPFBPbqMbFiRHBRCHBCBFiF",
    "bTDOCKECmIbFRcGFBbwAHBEBCBPBhPCQbPcYEKECbeFcQcYcJhMEBbBBCBBCBBKBEBBBBGBEBBBBBBDBCBBCBBBBBBBB",
    "BBCBBCEBHBEBEBBBKBRFDBFBRcACkKbSEdWMPCPBPBbLKgScEbDNbSEJHCOGfYblWFQDNDeMMdLHMEBPMEcEIKGbOIbE",
    "CCdAnCMOCFDFDHJbDDLFGKKGIIHJfRBcDbLKbnOclfEbGgdTHiOCinQOlbLepJuWcfWhiBdlqPCdsyOCdsyOCdsyOCds",
    "yOCdsyOCdsyOCdsyOCdsyOCdsyOCdsyOCBBbEdSeYjGdsfM"]⟩,
  ⟨["15.0", "v150"],
    .ofLines [
    "AbiECGEHBBBUBpHBbMCbYCDBcDIbBEGLkKBcICdXOcHCbXCPBbCCBBLFbFBCGjCBICCCWBHBBDECJCCCEIBECBFCZCDB",
    "GECCWBHBCBCBCCBBFECCDDBHEBBHRKDBJBDBWBHBCBFCKBDBDCBPECMHHBDBICCCWBHBCBFCJCCCDHDECBFCSKCBGDDB",
    "EDCBBBCDCDDDMEFDDBECBGBOVFNBDBXBQCJBDBEHCBDCBCECKHWBDBXBKBFCJBDBEHCGCBECKBDMNBDBbZBDBGEQCbAB",
    "DBSDYBJBBCHDBEGBBBIGKCDMcGEbDbLCBBBFBYBBBXCFBBBHBKCEbGcUBbKEbNBbKBPBNbLhQBBFBCoNBECHBBBECbPB",
    "ECbHBECHBBBECPBcFBECcPCbGDbAGdICGCzTDdLHWJYJUMNBDBCMdQCKGKGbAGdLHbRFcSKbFBMEMEBDbQCFLbSEbAGL",
    "DcKCcNBbDCLGKGOCbFbXcZDbVBeMIcIDPDcIHbRCLIbRFuOCGCbMCGCIBBBBBBBbFCcBBPBOCGBTCDBJBdXBMCbBBNDb",
    "HPbHPfKEzNZLVcrSCbGBnLFbTBBFBCcEHCOYJHBHBHBHBHBHBHBHBeWbIbABdLMiGbAMEcMBdICdZFbRBdQBdGMbVBbr",
    "iRDcDJnKUhCIhVFCBBBFYcHDKGcEIcSIMGeMLbEDdABLEbHBcDJOCKCdZYbCKGCGCGJHBHBcIEeWCKGqnSMXEbXEnbAC",
    "eCbMHMFFbABFBBBCBCBeVQrDCcCHcXGbZBTBEEFBfFCBBhIDGCGCGCDDHBHKTBbABTBCBPCObIeTFDEbTDdKBNDBbVbU",
    "fAbDDbXPbCEbKJbEFbRFbEBbLEObQgCCKGbKEbKEbOIcALMBPBHBCBLBPBHBCcPlZJWKIYGBbQBJcRGCBBbSBCDBCXBc",
    "UIJbWTBCFbHDbBFBcMcEEUCbYBCFIBDBbDCDEKHJHcMbGbNEMJcCDbDCbBFbAHEMHdCcVcDbZNbZHbUIKlIbFBbQBDCC",
    "cXbRIbQWbAbMbCUXJdAEbKJcQKBCZHKGcBBSIbNJdSBULSBbVcKHBBBEBPBLGcHFKGEBICCCWBHBCBFBKCCCDCBGBFHC",
    "HDFfJdOBFbEcUIKgKcCCbMbIcRLKGNTcGGKcCbBCPEXhDcIdWdFMICBCIBCBbEBCCMJKcSICbUCLbBcUIdFNcVHKjMJB",
    "bTBOKbDDbGCWBOcVHBCBbSDBBCBJIKGGBCBbLBCBGHKlYZHRBbPDbCdIBPbYNbjNdYeHBFLhOdxKdVNbqSfyGwLmuBvX",
    "HbFBKEdDBKGbECGKcSKKBHBVFTbaMdNdXcXEcFHRcMFLCOjcAIbvQbQJnfREBHBCBlFPBbDDCBOEIpGdkUeDFNDJHKCI",
    "gyUbUCXJeMcIjMKbNChMVcSeSUMUMdJJZfFdHBcTBCCBCCCEBMBBBHBcNBECIBHBbCBEBFBBDHBnCClGCbbAPFBPbqMb",
    "FGGiFHBRCHBCBFFcKbHBeIbTDOCKECmIbFRcGFBrWbQbcOHBEBCBPBhPCQbPcYEKECbeFcQcYcJhMEBbBBCBBCBBKBEB",
    "BBBGBEBBBBBBDBCBBCBBBBBBBBBBCBBCEBHBEBEBBBKBRFDBFBRcACkKbSEdWMPCPBPBbLKgScEbDNbSEJHCOGfYblWE",
    "RDNDePEdRGMEBPMEcEIKGbOIbECCdAnCMOCNDJHbUBHIOEJHJHfRBcDbLKbnOclfEbGgdUGiOCinQOlbLepJuWcfWhiB",
    "FgfGdflECdsyOCdsyOCdsyOCdsyOCdsyOCdsyOCdsyOCdsyOCdsyOCdsyOCBBbEdSeYjGdsfM"]⟩]

end StreamVerdict.Unicode
