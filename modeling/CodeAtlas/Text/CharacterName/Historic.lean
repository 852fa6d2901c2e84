/-!
# Names of historic scripts

Every entry of the table belongs to the code point behind that of the entry before it, unless a code
point is given. Its small letters say how many characters it keeps of the name before it.
-/

namespace CodeAtlas.Text

/-- The names of U+10000 to U+1CFFF. -/
def historicNames : List String :=
  ["@10000aLINEAR B SYLLABLE B008 Au38 Eu28 Iu61 Ou10 Uu01 DAu45 DEu07 DIu14 DOu51 DUv7 JAu46 JE",
    "@1000Du36 JOu65 JUu77 KAu44 KEu67 KIu70 KOu81 KUv0 MAu13 MEu73 MIu15 MOu23 MUu06 NAu24 NE",
    "u30 NIu52 NOv5 NUu03 PAu72 PEu39 PIu11 POu50 PUu16 QAu78 QEu21 QIu32 QO@10028u60 RAu27 RE",
    "u53 RIu02 ROu26 RUu31 SAu09 SEu41 SIu12 SOu58 SUv9 TAu04 TEu37 TIu05 TOu69 TUu54 WAu75 WE",
    "u40 WIv2 WO@1003Cu17 ZAu74 ZE@1003Fu20 ZOv5 A2u43 A3u85 AUu71 DWEu90 DWOu48 NWAu29 PU2u62 PTE",
    "u76 RA2u33 RA3u68 RO2v6 TA2u87 TWEu91 TWO@10050lMBOL B018t9s22s34s47t9s56s63t4s79s82t3t6t9",
    "@10080jIDEOGRAM B100 MANv2 WOMANv4 DEERv5 EQUIDwF MAREwM STALLIONv6F EWEwM RAMv7F SHE-GOAT",
    "wM HE-GOATv8F SOWwM BOARv9F COWwM BULLu20 WHEATv1 BARLEYv2 OLIVEv3 SPICEv5 CYPERUS",
    "jMONOGRAM B127 KAPOv8 KANAKOjIDEOGRAM B130 OILv1 WINEv2jMONOGRAM B133 AREPAv5 MERI",
    "jIDEOGRAM B140 BRONZEv1 GOLDv2v5 WOOLv6u50v1 HORNv2v3v4jMONOGRAM B156 TURO2jIDEOGRAM B157v8",
    "v9 CLOTHu60v1v2 GARMENTv3 ARMOURv4v5v6v7v8v9u70v1v2v3 MONTHv4v6 TREEv7v8v9u80v1v2v3v4v5v9u90",
    "v1 HELMETt220 FOOTSTOOLv5 BATHTUBu30 SPEARv1 ARROWv2v3 SWORDv4v6u40 WHEELED CHARIOTv1 CHARIOT",
    "v2 CHARIOT FRAMEv3 WHEELv5v6jMONOGRAM B247 DIPTEjIDEOGRAM B248v9u51v2v3v4 DARTv5v6v7v8v9",
    "sVESSEL B155zb200zd1zd2zd3zd4zd5zd6zd7zd8zd9zc10zd1zd2zd3zd4zd5zd6zd7zd8zd9zc21zd2zd6zd7zd8",
    "zd9zc50zb305@10100aAEGEAN WORD SEPARATOR LINEwDOThCHECK MARK@10107hNUMBER ONEoTWOpHREEoFOUR",
    "pIVEoSIXpEVENoEIGHToNINEoTENpWENTYpHIRTYoFORTYpIFTYoSIXTYpEVENTYoEIGHTYoNINETYoONE HUNDRED",
    "oTWO HUNDREDpHREE HUNDREDoFOUR HUNDREDpIVE HUNDREDoSIX HUNDREDpEVEN HUNDREDoEIGHT HUNDRED",
    "oNINE HUNDREDoONE THOUSANDoTWO THOUSANDpHREE THOUSANDoFOUR THOUSANDpIVE THOUSANDoSIX THOUSAND",
    "pEVEN THOUSANDoEIGHT THOUSANDoNINE THOUSANDoTEN THOUSANDpWENTY THOUSANDpHIRTY THOUSAND",
    "oFORTY THOUSANDpIFTY THOUSANDoSIXTY THOUSANDpEVENTY THOUSANDoEIGHTY THOUSANDoNINETY THOUSAND",
    "@10137hWEIGHT BASE UNIToFIRST SUBUNIToSECOND SUBUNIToTHIRD SUBUNIToFOURTH SUBUNIT",
    "hDRY MEASURE FIRST SUBUNIThLIQUID MEASURE FIRST SUBUNIThMEASURE SECOND SUBUNITpTHIRD SUBUNIT",
    "aGREEK ACROPHONIC ATTIC ONE QUARTERzcHALFzcDRACHMAxFIVEzaFTYzaVE HUNDREDzdTHOUSAND",
    "zaFTY THOUSANDzaVE TALENTSxTEN TALENTSxFIFTY TALENTSxONE HUNDRED TALENTSxFIVE HUNDRED TALENTS",
    "xONE THOUSAND TALENTSxFIVE THOUSAND TALENTSzdSTATERSxTEN STATERSxFIFTY STATERS",
    "xONE HUNDRED STATERSxFIVE HUNDRED STATERSxONE THOUSAND STATERSxTEN THOUSAND STATERS",
    "xFIFTY THOUSAND STATERSxTEN MNASrHERAEUM ONE PLETHRONrTHESPIAN ONErHERMIONIAN ONE",
    "rEPIDAUREAN TWOrTHESPIAN TWOrCYRENAIC TWO DRACHMASrEPIDAUREAN TWO DRACHMASrTROEZENIAN FIVE",
    "zdTENzg ALTERNATE FORMrHERMIONIAN TENrMESSENIAN TENrTHESPIAN TENzcHIRTYsROEZENIAN FIFTY",
    "zi ALTERNATE FORMrHERMIONIAN FIFTYrTHESPIAN FIFTYzbONE HUNDREDzbTHREE HUNDRED",
    "rEPIDAUREAN FIVE HUNDREDrTROEZENIAN FIVE HUNDREDsHESPIAN FIVE HUNDREDrCARYSTIAN FIVE HUNDRED",
    "rNAXIAN FIVE HUNDREDrTHESPIAN ONE THOUSANDzbFIVE THOUSANDrDELPHIC FIVE MNAS",
    "rSTRATIAN FIFTY MNASgONE HALF SIGNt ALTERNATE FORMgTWO THIRDS SIGNhHREE QUARTERS SIGN",
    "gYEAR SIGNgTALENT SIGNgDRACHMA SIGNgOBOL SIGNgTWO OBOLS SIGNhHREE OBOLS SIGNgFOUR OBOLS SIGN",
    "hIVE OBOLS SIGNgMETRETES SIGNgKYATHOS BASE SIGNgLITRA SIGNgOUNKIA SIGNgXESTES SIGN",
    "gARTABE SIGNiOURA SIGNgGRAMMA SIGNgTRYBLION BASE SIGNgZERO SIGNgONE QUARTER SIGN",
    "gSINUSOID SIGNgINDICTION SIGNaNOMISMA SIGN@10190aROMAN SEXTANS SIGNgUNCIA SIGNgSEMUNCIA SIGN",
    "iXTULA SIGNgDIMIDIA SEXTULA SIGNgSILIQUA SIGNgDENARIUS SIGNgQUINARIUS SIGNgSESTERTIUS SIGN",
    "gDUPONDIUS SIGNgAS SIGNgCENTURIAL SIGNaASCIA SYMBOL@101A0aGREEK SYMBOL TAU RHO",
    "@101D0aPHAISTOS DISC SIGN PEDESTRIANuLUMED HEADtTATTOOED HEADtCAPTIVEuHILDtWOMANtHELMET",
    "tGAUNTLETtTIARAtARROWtBOWtSHIELDtCLUBtMANACLESvTTOCKtSAWtLIDtBOOMERANGtCARPENTRY PLANEtDOLIUM",
    "tCOMBtSLINGtCOLUMNtBEEHIVEtSHIPtHORNuIDEtBULLS LEGtCATtRAMtEAGLEtDOVEtTUNNYtBEEtPLANE TREE",
    "tVINEtPAPYRUStROSETTEtLILYtOX BACKtFLUTEtGRATERtSTRAINERuMALL AXEtWAVY BAND",
    "tCOMBINING OBLIQUE STROKE@10280aLYCIAN LETTER AoEoBpHoGoDoIoWoZoTHoJoKoQoLoMoNoMMoNNoUoPoKKoR",
    "oSoTpToANoENoHoX@102A0aCARIAN LETTER AoP2oDoLoUUUoRoLDoA2oQoBoMoOoD2oToSHq2poC-18oUoNNoXoN",
    "oTT2oPoSSoIoEoUUUUoKp2oNDoUUoGp2oSTq2oNGoIIoC-39oTToUUU2oRRoMBq2q3q4oLD2oE2oUUU3",
    "@102E0bOPTIC EPACT THOUSANDS MARKnDIGIT ONEtTWOuHREEtFOURuIVEtSIXuEVENtEIGHTtNINEnNUMBER TEN",
    "vWENTYvHIRTYuFORTYvIFTYuSIXTYvEVENTYuEIGHTYuNINETYuONE HUNDREDuTWO HUNDREDvHREE HUNDRED",
    "uFOUR HUNDREDvIVE HUNDREDuSIX HUNDREDvEVEN HUNDREDuEIGHT HUNDREDuNINE HUNDRED",
    "@10300aOLD ITALIC LETTER AsBEsKEsDEsEsVEsZEsHEsTHEsIsKAsELtMtNtSHsOsPEsSHEsKUsERtSsTEsUsEKS",
    "sPHEsKHEsEFtRSsCHEsIIsUUsESSlNUMERAL ONEtFIVEtTENtFIFTY@1032DlLETTER YEsNORTHERN TSE",
    "sSOUTHERN TSEaGOTHIC LETTER AHSAoBAIRKANoGIBAoDAGSoAIHVUSoQAIRTHRAoIUJAoHAGLoTHIUTHoEISoKUSMA",
    "oLAGUSoMANNAoNAUTHSoJERoURUSoPAIRTHRAoNINETYoRAIDAoSAUILoTEIWSoWINJAoFAIHUoIGGWSoHWAIRoOTHAL",
    "oNINE HUNDRED@10350aOLD PERMIC LETTER ANsBURsGAIsDOIsEsZHOIsDZHOIsZATAsDZITAsIsKOKEsLEIsMENOE",
    "sNENOEsVOOIsPEEIsREIsSIIsTAIsUsCHERYsSHOOIuCHOOIsYRYtERUsOtOsEFsHAsTSIUsVERsYERvItATsIEsYUtA",
    "sIAaCOMBINING OLD PERMIC LETTER ANzdDOIzdZATAzdNENOEzdSII@10380aUGARITIC LETTER ALPAqBETA",
    "qGAMLAqKHAqDELTAqHOqWOqZETAqHOTAqTETqYODqKAFqSHINqLAMDAqMEMqDHALqNUNqZUqSAMKAqAINqPUqSADE",
    "qQOPAqRASHAqTHANNAqGHAINqTOqIqUqSSU@1039FjWORD DIVIDERaOLD PERSIAN SIGN ArIrUrKAsUrGAsUrXArCA",
    "rJAsIrTAsUrDAsIsUrTHArPArBArFArNAsUrMAsIsUrYArVAsIrRAsUrLArSArZArSHAsSArHA@103C8rAURAMAZDAA",
    "zc-2zcHArXSHAAYATHIYArDAHYAAUSHzb-2rBAGAsUUMISHmWORD DIVIDERmNUMBER ONEtTWOuENuWENTYtHUNDRED",
    "@10400aDESERET CAPITAL LETTER LONG IzdEzdAzeHzdOzeOxSHORT IzeEzeAzfHzeOzfOxAYxOWxWUxYEExHxPEE",
    "xBEExTEExDEExCHEExJEExKAYxGAYxEFxVEExETHxTHEExESxZEExESHxZHEExERyLyMyNzaGxOIxEW",
    "iSMALL LETTER LONG IzbEzbAzcHzbOzcOvSHORT IzcEzcAzdHzcOzdOvAYvOWvWUvYEEvHvPEEvBEEvTEEvDEE",
    "vCHEEvJEEvKAYvGAYvEFvVEEvETHvTHEEvESvZEEvESHvZHEEvERwLwMwNxGvOIvEWaSHAVIAN LETTER PEEPpTOT",
    "pKICKpFEEpTHIGHpSOqUREpCHURCHpYEApHUNGpBIBpDEADpGAGpVOWpTHEYpZOOpMEASUREpJUDGEpWOEpHA-HApLOLL",
    "pMIMEpIFpEGGpASHqDOpONpWOOLpOUTpAHpROARpNUNpEATpAGEpICEpUPpOAKqOZEqILpAWEqREpORpAIRpERRpARRAY",
    "pEARpIANpYEWaOSMANYA LETTER ALEFpBApTApJApXApKHApDEELpRApSAqHIINpDHApCAYNpGApFApQAAFpKAAF",
    "pLAANpMIINpNUUNpWAWpHApYApApEpIpOpUpAApEEpOO@104A0iDIGIT ZEROoONEoTWOpHREEoFOURpIVEoSIXpEVEN",
    "oEIGHToNINE@104B0cAGE CAPITAL LETTER AwIxNwHvBRAvCHAvEHCHAwwINvHAwYAvIvKAvEHKAvKYAvLAvMAvNAvO",
    "wINvPAvEHPAvSAwHAvTAvEHTAvTSAvEHTSAvTSHAvDHAvUvWAvKHAvGHAvZAwHA@104D8gSMALL LETTER AuIvNuH",
    "tBRAtCHAtEHCHAuuINtHAuYAtItKAtEHKAtKYAtLAtMAtNAtOuINtPAtEHPAtSAuHAtTAtEHTAtTSAtEHTSAtTSHAtDHA",
    "tUtWAtKHAtGHAtZAuHA@10500aELBASAN LETTER ApBEpCEqHEpDEpNDEpDHEpEIqpFEpGEqJEpHEpIpJEpKEpLEqLE",
    "pMEpNEqAqJEpOpPEpQEpREqREpSEqHEpTEqHEpUpVEpXEpYpZEqHEpGHErAMMApKHE",
    "@10530aCAUCASIAN ALBANIAN LETTER ALTzbBETzbGIMzbDATzbEBzbZARLzbEYNzbZHILzbTASzbCHAzbYOWDzbZHA",
    "zbIRBzbSHAzbLANzbINYAzbXEYNzbDYANzbCARzbJHOXzbKARzbLYITzbHEYTzbQAYzbAORzbCHOYzdIzcYAYzbMAQ",
    "zbQARzbNOWCzbDZYAYzbSHAKzbJAYNzbONzbTYAYzbFAMzbDZAYzbCHATzbPENzbGHEYSzbRATzbSEYKzbVEYZzbTIWR",
    "zbSHOYzbIWNzbCYAWzcAYNzbYAYDzbPIWRzbKIW@1056FtCITATION MARKaVITHKUQI CAPITAL LETTER AyBBEzaE",
    "yCEzaHEyDEzaHEyEIzayFEyGA@1057CyHAzaHAyIzaJEyJEyKAyLAzaLAyMEyNEzaJEyOyPEyQAyRE@1058CySEzaHE",
    "yTEzaHEyUyVEyXE@10594yYyZE@10597jSMALL LETTER AwBBExEwCExHEwDExHEwEIxwFEwGA@105A3wHAxHAwIxJE",
    "wJEwKAwLAxLAwMEwNExJEwOwPEwQAwRE@105B3wSExHEwTExHEwUwVEwXE@105BBwYwZE",
    "@10600aLINEAR A SIGN AB001s2s3s4s5s6s7s8s9r10s1s3s6s7r20s1tFtMs2tFtMs3tMs4s6s7s8p028BpB029r30",
    "s1s4s7s8s9r40s1s4s5s6s7s8s9r50s1s3s4s5s6s7s8s9r60s1s5s6s7s9r70s3s4s6s7s8s9r80s1s2s5s6s7",
    "p100-102pB118r20p120BpB122s3r31AtBp131CpB164r71r80s8r91p301r2r3r4r5r6r7r8r9AsBsCq10r1r2r3AsB",
    "sCr4r5r6r7r8r9q20r1r2r3r4r5r6r7r8r9q30r1r2r3r4r5r6r7r8r9q40r1r2r3r4r5r6r7r8r9q50r1r2r3r4r5r6",
    "r7r8r9q60r1r2r3r4r5r6r7r8r9q70r1p400-VASr1-VASr2-VASr3-VASr4-VASr5-VASr6-VASr7-VASr8-VAS",
    "r9-VASq10-VASr1-VASr2-VASr3-VASr4-VASr5-VASr6-VASr7-VASr8-VASp501r2r3r4r5r6r8r9q10r1r2r3r5r6",
    "q20r1r3r4r5r6r7r8r9q30r1r2r4r5r6r7r8r9q40r1r2r5r7r8r9q50r1r2r3r4r5r6r7r9q63r4r5r6r8r9q70r1r2",
    "r3r4r5r6r7r8r9q80r1r2r3r4r5r6r7r8r9q91r2r4r5r6r8p600r1r2r3r4r6r8r9q10r1r2r3r4r5r6r7r8r9q20r1",
    "r2r3r4r6r7r8r9q34r7r8q40r2r3r4r5r6r8r9q51r2r3r4r5r6r7r8r9q60r1r2r3r4@10740p701 Ar2 Br3 Dr4 E",
    "r5 Fr6 Hr7 Jr8 Kr9 Ls-2 L2t3 L3t4 L4t6 L6q10 Wr1 Xr2 Yr3 OMEGAr4 ABBr5 BBr7 DDq26 EYYYq32 JE",
    "@10760p800r1r2r3r4r5r6r7@10780aMODIFIER LETTER SMALL CAPITAL AArUPERSCRIPT TRIANGULAR COLON",
    "zdHALF TRIANGULAR COLONrMALL AEwCAPITAL BwB WITH HOOK@10787wDZ DIGRAPHzh WITH RETROFLEX HOOK",
    "znCURLxEZH DIGRAPHx WITH TAILzeHOOKzi AND TAILwREVERSED EwCLOSED REVERSED OPEN EwFENG DIGRAPH",
    "wRAMS HORNwCAPITAL GwG WITH HOOKwCAPITAL G WITH HOOKwH WITH STROKEwCAPITAL HwHENG WITH HOOK",
    "wDOTLESS J WITH STROKE AND HOOKwLS DIGRAPHxZ DIGRAPHx WITH BELTwCAPITAL L WITH BELT",
    "wL WITH RETROFLEX HOOK AND BELTxEZHzb WITH RETROFLEX HOOKwTURNED Yzf WITH BELTwO WITH STROKE",
    "wCAPITAL OExLOSED OMEGAwQwTURNED R WITH LONG LEGzt AND RETROFLEX HOOKwR WITH TAILzeFISHHOOK",
    "wCAPITAL RwTC DIGRAPH WITH CURLxS DIGRAPHzh WITH RETROFLEX HOOKxESH DIGRAPH",
    "x WITH RETROFLEX HOOKwV WITH RIGHT HOOK@107B2wCAPITAL YqGLOTTAL STOP WITH STROKE",
    "qREVERSED GLOTTAL STOP WITH STROKEqBILABIAL CLICKqDENTAL CLICKqLATERAL CLICKqALVEOLAR CLICK",
    "qRETROFLEX CLICK WITH RETROFLEX HOOKqSMALL S WITH CURL@10800aCYPRIOT SYLLABLE ArErIrOrUrJA",
    "@10808sO@1080ArKAsEsIsOsUrLAsEsIsOsUrMAsEsIsOsUrNAsEsIsOsUrPAsEsIsOsUrRAsEsIsOsUrSAsEsIsOsU",
    "rTAsEsIsOsUrWAsEsIsO@10837rXAsE@1083CrZA@1083FsOaIMPERIAL ARAMAIC LETTER ALEPHyBETHyGIMEL",
    "yDALETHyHEyWAWyZAYINyHETHyTETHyYODHyKAPHyLAMEDHyMEMyNUNySAMEKHyAYINyPEySADHEyQOPHyRESHySHIN",
    "yTAW@10857rSECTION SIGNrNUMBER ONEyTWOzaHREEzaENzaWENTYyONE HUNDREDzdTHOUSANDyTEN THOUSAND",
    "aPALMYRENE LETTER ALEPHrBETHrGIMELrDALETHrHErWAWrZAYINrHETHrTETHrYODHrKAPHrLAMEDHrMEM",
    "rFINAL NUNrNUNrSAMEKHrAYINrPErSADHErQOPHrRESHrSHINrTAWmFT-POINTING FLEURON",
    "kRIGHT-POINTING FLEURONkNUMBER ONErTWOsHREErFOURsIVErTENsWENTYaNABATAEAN LETTER FINAL ALEPH",
    "rALEPHrFINAL BETHrBETHrGIMELrDALETHrFINAL HErHErWAWrZAYINrHETHrTETHrFINAL YODHrYODH",
    "rFINAL KAPHrKAPHrFINAL LAMEDHrLAMEDHrFINAL MEMrMEMrFINAL NUNrNUNrSAMEKHrAYINrPErSADHErQOPH",
    "rRESHrFINAL SHINrSHINrTAW@108A7kNUMBER ONErTWOsHREErFOURkCRUCIFORM NUMBER FOURkNUMBER FIVE",
    "rTENsWENTYrONE HUNDRED@108E0aHATRAN LETTER ALEPHoBETHoGIMELoDALETH-RESHoHEoWAWoZAYNoHETHoTETH",
    "oYODHoKAPHoLAMEDHoMEMoNUNoSAMEKHoAYNoPEoSADHEoQOPH@108F4oSHINoTAW@108FBhNUMBER ONEoFIVEoTEN",
    "pWENTYoONE HUNDREDaPHOENICIAN LETTER ALFsBETsGAMLsDELTsHEsWAUsZAIsHETsTETsYODsKAFsLAMDsMEM",
    "sNUNsSEMKsAINsPEsSADEsQOFsROSHsSHINsTAUlNUMBER ONEsTENtWENTYsONE HUNDREDsTWOtHREE",
    "@1091FlWORD SEPARATORaLYDIAN LETTER AoBoGoDoEoVoIoYoKoLoMoNoOoRoSSoToUoFoQoSoTToANoENoLYoNNoC",
    "@1093FhTRIANGULAR MARK@10980aMEROITIC HIEROGLYPHIC LETTER AzeEzeIzeOzeYAzeWAzeBAzg-2zePAzeMA",
    "zeNAzg-2zfEzg-2zeRAzg-2zeLAzeKHAzeHHAzeSAzg-2zfEzeKAzeQAzeTAzg-2zfEzg-2zfOzeDAwSYMBOL VIDJ",
    "zi-2jCURSIVE LETTER AyEyIyOyYAyWAyBAyPAyMAyNAzaEyRAyLAyKHAyHHAySAyARCHAIC SAySEyKAyQAyTAzaE",
    "zaOyDA@109BCrFRACTION ELEVEN TWELFTHSzbONE HALFrLOGOGRAM RMTzbIMNrNUMBER ONEyTWOzaHREEyFOUR",
    "zaIVEySIXzaEVENyEIGHTyNINEyTENzaWENTYzaHIRTYyFORTYzaIFTYySIXTYzaEVENTY@109D2yONE HUNDRED",
    "yTWO HUNDREDzaHREE HUNDREDyFOUR HUNDREDzaIVE HUNDREDySIX HUNDREDzaEVEN HUNDREDyEIGHT HUNDRED",
    "yNINE HUNDREDyONE THOUSANDyTWO THOUSANDzaHREE THOUSANDyFOUR THOUSANDzaIVE THOUSAND",
    "ySIX THOUSANDzaEVEN THOUSANDyEIGHT THOUSANDyNINE THOUSANDyTEN THOUSANDzaWENTY THOUSAND",
    "zaHIRTY THOUSANDyFORTY THOUSANDzaIFTY THOUSANDySIXTY THOUSANDzaEVENTY THOUSAND",
    "yEIGHTY THOUSANDyNINETY THOUSANDyONE HUNDRED THOUSANDyTWO HUNDRED THOUSAND",
    "zaHREE HUNDRED THOUSANDyFOUR HUNDRED THOUSANDzaIVE HUNDRED THOUSANDySIX HUNDRED THOUSAND",
    "zaEVEN HUNDRED THOUSANDyEIGHT HUNDRED THOUSANDyNINE HUNDRED THOUSANDrFRACTION ONE TWELFTH",
    "zbTWO TWELFTHSzcHREE TWELFTHSzbFOUR TWELFTHSzcIVE TWELFTHSzbSIX TWELFTHSzcEVEN TWELFTHS",
    "zbEIGHT TWELFTHSzbNINE TWELFTHSzbTEN TWELFTHSaKHAROSHTHI LETTER AlVOWEL SIGN IwUwVOCALIC R",
    "@10A05wEwO@10A0CrLENGTH MARKlSIGN DOUBLE RING BELOWqANUSVARAqVISARGAlLETTER KAtHAsGAtHA",
    "@10A15sCAtHAsJA@10A19sNYAsTTAuHAsDDAuHAsNNAsTAtHAsDAtHAsNAsPAtHAsBAtHAsMAsYAsRAsLAsVAsSHAtSA",
    "tAsZAsHAsKKAsTTTHAvAsVHA@10A38lSIGN BAR ABOVEqCAUDAqDOT BELOW@10A3FlVIRAMAlDIGIT ONErTWOsHREE",
    "rFOURlNUMBER TENtWENTYsONE HUNDREDwTHOUSANDlFRACTION ONE HALF@10A50lPUNCTUATION DOT",
    "xSMALL CIRCLExCIRCLEyRESCENT BARxMANGALAMxLOTUSxDANDAyOUBLE DANDAxLINES",
    "@10A60aOLD SOUTH ARABIAN LETTER HEzaLAMEDHzaHETHzaMEMzaQOPHzaWAWzaSHINzaRESHzaBETHzaTAWzaSAT",
    "zaKAPHzaNUNzaKHETHzaSADHEzcMEKHzaFEzaALEFzbYNzaDHADHEzaGIMELzaDALETHzaGHAYNzaTETHzaZAYN",
    "zaDHALETHzaYODHzaTHAWzcETHsNUMBER ONEzaFIFTYvERIC INDICATOReNORTH ARABIAN LETTER HEHzaLAM",
    "zaHAHzaMEEMzaQAFzaWAWzaES-2zaREHzaBEHzaTEHzaES-1zaKAFzaNOONzaKHAHzaSADzaES-3zaFEHzaALEFzbIN",
    "zaDADzaGEEMzaDALzaGHAINzaTAHzaZAINzaTHALzaYEHzaTHEHzaZAHsNUMBER ONEzaTENzbWENTY",
    "@10AC0aMANICHAEAN LETTER ALEPHsBETHtHETHsGIMELtHIMELsDALETHsHEsWAWlSIGN UDlLETTER ZAYINtHAYIN",
    "sJAYINtHAYINsHETHsTETHsYODHsKAPHsXAPHsKHAPHsLAMEDHsDHAMEDHsTHAMEDHsMEMsNUNsSAMEKHsAYINtAYIN",
    "sPEsFEsSADHEsQOPHsXOPHsQHOPHsRESHsSHINtSHINsTAWlABBREVIATION MARK ABOVEzeBELOW",
    "@10AEBlNUMBER ONEsFIVEsTENtWENTYsONE HUNDREDlPUNCTUATION STARxFLEURONxDOUBLE DOT WITHIN DOT",
    "zaT WITHIN DOTzbxTWO DOTSxLINE FILLER@10B00aAVESTAN LETTER AqAqOqAOqNqANqErEpEqEpOqOpIqIpUqU",
    "pKEpXEqYEqVEpGEqGEqHEpCEpJEpTEqHEpDEqHEpTTEpPEpFEpBEqHEpNGErYErVEqEqYEqNEpMEpHMEpYYEqEpVEpRE",
    "pLEpSEpZEpSHEpZHEpSHYEqSHEpHE@10B39iABBREVIATION MARKaTINY TWO DOTS OVER ONE DOT PUNCTUATION",
    "aSMALL TWO DOTS OVER ONE DOT PUNCTUATIONaLARGE TWO DOTS OVER ONE DOT PUNCTUATION",
    "gONE DOT OVER TWO DOTS PUNCTUATIONgTWO RINGS OVER ONE RING PUNCTUATION",
    "gONE RING OVER TWO RINGS PUNCTUATIONaINSCRIPTIONAL PARTHIAN LETTER ALEPHzfBETHzfGIMELzfDALETH",
    "zfHEzfWAWzfZAYINzfHETHzfTETHzfYODHzfKAPHzfLAMEDHzfMEMzfNUNzfSAMEKHzfAYINzfPEzfSADHEzfQOPH",
    "zfRESHzfSHINzfTAW@10B58xNUMBER ONEzfTWOzgHREEzfFOURzfTENzgWENTYzfONE HUNDREDzjTHOUSAND",
    "qHLAVI LETTER ALEPHzeBETHzeGIMELzeDALETHzeHEzeWAW-AYIN-RESHzeZAYINzeHETHzeTETHzeYODHzeKAPH",
    "zeLAMEDHzeMEM-QOPHzeNUNzeSAMEKHzePEzeSADHEzfHINzeTAW@10B78wNUMBER ONEzeTWOzfHREEzeFOURzeTEN",
    "zfWENTYzeONE HUNDREDziTHOUSANDaPSALTER PAHLAVI LETTER ALEPHxBETHxGIMELxDALETHxHE",
    "xWAW-AYIN-RESHxZAYINxHETHxYODHxKAPHxLAMEDHxMEM-QOPHxNUNxSAMEKHxPExSADHEyHINxTAW",
    "@10B99qSECTION MARKqTURNED SECTION MARKqFOUR DOTS WITH CROSSzgDOT@10BA9qNUMBER ONExTWOyHREE",
    "xFOURxTENyWENTYxONE HUNDRED@10C00aOLD TURKIC LETTER ORKHON AsYENISEI AzcEsORKHON IsYENISEI I",
    "zbEsORKHON OzbEsYENISEI OEsORKHON ABsYENISEI ABsORKHON AEBsYENISEI AEBsORKHON AGsYENISEI AG",
    "sORKHON AEGsYENISEI AEGsORKHON ADsYENISEI ADsORKHON AEDzaEZsYENISEI EZsORKHON AYsYENISEI AY",
    "sORKHON AEYsYENISEI AEYsORKHON AEKsYENISEI AEKsORKHON OEKsYENISEI OEKsORKHON ALsYENISEI AL",
    "sORKHON AELzaELTzbMzaANzbENsYENISEI AENsORKHON ENTsYENISEI ENTsORKHON ENCsYENISEI ENC",
    "sORKHON ENYsYENISEI ENYzbANGsORKHON ENGsYENISEI AENGsORKHON EPzaOPzaICzaECsYENISEI EC",
    "sORKHON AQsYENISEI AQsORKHON IQsYENISEI IQsORKHON OQsYENISEI OQsORKHON ARsYENISEI AR",
    "sORKHON AERzbSzbESzbSHsYENISEI ASHsORKHON ESHsYENISEI ESHsORKHON ATsYENISEI ATsORKHON AET",
    "sYENISEI AETsORKHON OTzaBASH@10C80eHUNGARIAN CAPITAL LETTER AzfAzeEBzeAMBzeECzfNCzfCSzfDzeAND",
    "zeEzeCLOSE EzeEEzfFzfGzgYzfHzeIzfIzeEJzfKzeAKzeUNKzeELzgYzfMzfNzgYzeOzfOzeNIKOLSBURG OE",
    "zeRUDIMENTA OEzeOEEzeEPzfMPzfRzeSHORT ERzeESzgZzfTzfNTzfTYzfCHzeUzfUzeNIKOLSBURG UE",
    "zeRUDIMENTA UEzeEVzfZzgSzfNT-SHAPED SIGNzeUS@10CC0oSMALL LETTER AzdAzcEBzcAMBzcECzdNCzdCSzdD",
    "zcANDzcEzcCLOSE EzcEEzdFzdGzeYzdHzcIzdIzcEJzdKzcAKzcUNKzcELzeYzdMzdNzeYzcOzdOzcNIKOLSBURG OE",
    "zcRUDIMENTA OEzcOEEzcEPzdMPzdRzcSHORT ERzcESzeZzdTzdNTzdTYzdCHzcUzdUzcNIKOLSBURG UE",
    "zcRUDIMENTA UEzcEVzdZzeSzdNT-SHAPED SIGNzcUS@10CFAoNUMBER ONEvFIVEvTENvFIFTYvONE HUNDRED",
    "zaTHOUSANDaHANIFI ROHINGYA LETTER AxBAxPAxTAyTAxJAxCAxHAxKHAxFAxDAyDAxRAyRAxZAxSAyHAxKAxGAxLA",
    "xMAxNAxWAxKINNA WAxYAxKINNA YAxNGAyYAxVAqVOWEL AwIwUwEwOqMARK SAKINvNA KHONNAqSIGN HARBAHAY",
    "vTAHALAxNAxSSI@10D30qDIGIT ZEROwONEwTWOxHREEwFOURxIVEwSIXxEVENwEIGHTwNINE",
    "@10E60aRUMI DIGIT ONElTWOmHREElFOURmIVElSIXmEVENlEIGHTlNINEfNUMBER TENnWENTYnHIRTYmFORTYnIFTY",
    "mSIXTYnEVENTYmEIGHTYmNINETYmONE HUNDREDmTWO HUNDREDnHREE HUNDREDmFOUR HUNDREDnIVE HUNDRED",
    "mSIX HUNDREDnEVEN HUNDREDmEIGHT HUNDREDmNINE HUNDREDfFRACTION ONE HALFsQUARTERsTHIRD",
    "oTWO THIRDS@10E80aYEZIDI LETTER ELIFoBEoPEpHEoTHEoSEoCIMpHIMqHIMoHHAoXAoDALoZALoRApHAoZAoJA",
    "oSINpHINpADoDADoTAoZEoEYNoXHEYNoFAoVAq ALTERNATE FORMoQAFoKAFpHAFoGAFoLAMoMIMoNUNoUMoWAWoOW",
    "oEWoHAYoYOToET@10EABhCOMBINING HAMZA MARKrMADDA MARKhHYPHENATION MARK",
    "@10EB0hLETTER LAM WITH DOT ABOVEoYOT WITH CIRCUMFLEX ABOVE@10F00aOLD SOGDIAN LETTER ALEPH",
    "tFINAL ALEPHtBETHtFINAL BETHtGIMELtHEtFINAL HEtWAWtZAYINtHETHtYODHtKAPHtLAMEDHtMEMtNUN",
    "tFINAL NUNzd WITH VERTICAL TAILtSAMEKHtAYINuLTERNATE AYINtPEtSADHEtFINAL SADHE",
    "zf WITH VERTICAL TAILtRESH-AYIN-DALETHtSHINtTAWtFINAL TAWzd WITH VERTICAL TAILmNUMBER ONEtTWO",
    "uHREEtFOURuIVEtTENuWENTYuHIRTYtONE HUNDREDmFRACTION ONE HALFmLIGATURE AYIN-DALETH",
    "@10F30aSOGDIAN LETTER ALEPHpBETHpGIMELpHEpWAWpZAYINpHETHpYODHpKAPHpLAMEDHpMEMpNUNpSAMEKHpAYIN",
    "pPEpSADHEpRESH-AYINpSHINpTAWpFETHpLESHiINDEPENDENT SHINiCOMBINING DOT BELOWsTWO DOTS BELOW",
    "sDOT ABOVEsTWO DOTS ABOVEsCURVE ABOVEyBELOWsHOOK ABOVExBELOWsLONG HOOK BELOWsRESH BELOW",
    "sSTROKE BELOWiNUMBER ONEpTENqWENTYpONE HUNDREDiPUNCTUATION TWO VERTICAL BARSzm WITH DOTS",
    "uCIRCLE WITH DOTuTWO CIRCLES WITH DOTSuHALF CIRCLE WITH DOT@10F70aOLD UYGHUR LETTER ALEPH",
    "sBETHsGIMEL-HETHsWAWsZAYINsFINAL HETHsYODHsKAPHsLAMEDHsMEMsNUNsSAMEKHsPEsSADHEsRESHsSHINsTAW",
    "sLESHlCOMBINING DOT ABOVEzaBELOWvTWO DOTS ABOVEzfBELOWlPUNCTUATION BARxTWO BARSzcDOTS",
    "xFOUR DOTS@10FB0aCHORASMIAN LETTER ALEPHsSMALL ALEPHsBETHsGIMELsDALETHsHEsWAWsCURLED WAW",
    "sZAYINsHETHsYODHsKAPHsLAMEDHsMEMsNUNsSAMEKHsAYINsPEsRESHsSHINsTAWlNUMBER ONEsTWOtHREEsFOUR",
    "sTENtWENTYsONE HUNDRED@10FE0aELYMAIC LETTER ALEPHpBETHpGIMELpDALETHpHEpWAWpZAYINpHETHpTETH",
    "pYODHpKAPHpLAMEDHpMEMpNUNpSAMEKHpAYINpPEpSADHEpQOPHpRESHpSHINpTAWjIGATURE ZAYIN-YODH",
    "@11000aBRAHMI SIGN CANDRABINDUmANUSVARAmVISARGAmJIHVAMULIYAmUPADHMANIYAhLETTER ApAoIpIoUpU",
    "oVOCALIC RxRwLxLoEoAIoOoAUoKApHAoGApHAoNGAoCApHAoJApHAoNYAoTTAqHAoDDAqHAoNNAoTApHAoDApHAoNA",
    "oPApHAoBApHAoMAoYAoRAoLAoVAoSHApSApAoHAoLLAoOLD TAMIL LLLAyRRAyNNNAhVOWEL SIGN AA",
    "sBHATTIPROLU AAsItIsUtUsVOCALIC RzcRzbLzcLsEsAIsOsAUiIRAMAhDANDAiOUBLE DANDAhPUNCTUATION DOT",
    "vUBLE DOTtLINEtCRESCENT BARtLOTUS@11052hNUMBER ONEoTWOpHREEoFOURpIVEoSIXpEVENoEIGHToNINEoTEN",
    "pWENTYpHIRTYoFORTYpIFTYoSIXTYpEVENTYoEIGHTYoNINETYoONE HUNDREDsTHOUSANDhDIGIT ZEROnONEnTWO",
    "oHREEnFOURoIVEnSIXoEVENnEIGHTnNINEhSIGN OLD TAMIL VIRAMAhLETTER OLD TAMIL SHORT EzfO",
    "hVOWEL SIGN OLD TAMIL SHORT EzjOhLETTER OLD TAMIL LLA@1107FhNUMBER JOINER",
    "aKAITHI SIGN CANDRABINDUmANUSVARAmVISARGAhLETTER ApAoIpIoUpUoEoAIoOoAUoKApHAoGApHAoNGAoCApHA",
    "oJApHAoNYAoTTAqHAoDDAqDHAqHAoRHAoNNAoTApHAoDApHAoNAoPApHAoBApHAoMAoYAoRAoLAoVAoSHApSApAoHA",
    "hVOWEL SIGN AAsItIsUtUsEsAIsOsAUhSIGN VIRAMAmNUKTAhABBREVIATION SIGNhENUMERATION SIGN",
    "hNUMBER SIGNhSECTION MARKhDOUBLE SECTION MARKiANDAiOUBLE DANDAhVOWEL SIGN VOCALIC R",
    "@110CDhNUMBER SIGN ABOVE@110D0aSORA SOMPENG LETTER SAHuTAHuBAHuCAHuDAHuGAHuMAHuNGAHuLAHuNAH",
    "uVAHuPAHuYAHuRAHuHAHuKAHuJAHuNYAHuAHuEEHuIHuUHuOHuEHuMAE@110F0nDIGIT ZEROtONEtTWOuHREEtFOUR",
    "uIVEtSIXuEVENtEIGHTtNINE@11100aCHAKMA SIGN CANDRABINDUmANUSVARAmVISARGAhLETTER AAoIoUoEoKAA",
    "pHAAoGAApHAAoNGAAoCAApHAAoJAApHAAoNYAAoTTAAqHAAoDDAAqHAAoNNAAoTAApHAAoDAApHAAoNAAoPAApHAAoBAA",
    "pHAAoMAAoYYAApAAoRAAoLAAoWAAoSAAoHAAhVOWEL SIGN AsItIsUtUsEsAIsOsAUsOIhO MARKhAU MARKhVIRAMA",
    "hMAAYYAA@11136hDIGIT ZEROnONEnTWOoHREEnFOURoIVEnSIXoEVENnEIGHTnNINEhSECTION MARKhDANDA",
    "iOUBLE DANDAhQUESTION MARKhLETTER LHAAhVOWEL SIGN AAsEIhLETTER VAA@11150aMAHAJANI LETTER AqI",
    "qUqEqOqKArHAqGArHAqCArHAqJArHAqNYAqTTAsHAqDDAsHAqNNAqTArHAqDArHAqNAqPArHAqBArHAqMAqRAqLAqVA",
    "qSAqHAqRRAjSIGN NUKTAjABBREVIATION SIGNjSECTION MARKjLIGATURE SHRI",
    "@11180aSHARADA SIGN CANDRABINDUnANUSVARAnVISARGAiLETTER AqApIqIpUqUpVOCALIC RyRxLyLpEpAIpOpAU",
    "pKAqHApGAqHApNGApCAqHApJAqHApNYApTTArHApDDArHApNNApTAqHApDAqHApNApPAqHApBAqHApMApYApRApLAqLA",
    "pVApSHAqSAqApHAiVOWEL SIGN AAtIuItUuUtVOCALIC RzdRzcLzdLtEtAItOtAUiSIGN VIRAMAnAVAGRAHA",
    "nJIHVAMULIYAnUPADHMANIYAiOMiDANDAjOUBLE DANDAiABBREVIATION SIGNiSEPARATORjANDHI MARK",
    "jIGN NUKTAiVOWEL MODIFIER MARKiEXTRA SHORT VOWEL MARKiSUTRA MARKiVOWEL SIGN PRISHTHAMATRA E",
    "iSIGN INVERTED CANDRABINDUiDIGIT ZEROoONEoTWOpHREEoFOURpIVEoSIXpEVENoEIGHToNINEiEKAM",
    "iSIGN SIDDHAMiHEADSTROKEiCONTINUATION SIGNiSECTION MARK-1v2@111E1bINHALA ARCHAIC DIGIT ONE",
    "wTWOxHREEwFOURxIVEwSIXxEVENwEIGHTwNINEqNUMBER TENyWENTYyHIRTYxFORTYyIFTYxSIXTYyEVENTYxEIGHTY",
    "xNINETYxONE HUNDREDzcTHOUSAND@11200aKHOJKI LETTER ApAoIoUoEoAIoOoAUoKApHAoGApGApHAoNGAoCApHA",
    "oJApJA@11213oNYAoTTAqHAoDDAqHAoNNAoTApHAoDApDDApHAoNAoPApHAoBApBApHAoMAoYAoRAoLAoVAoSAoHAoLLA",
    "hVOWEL SIGN AAsItIsUsEsAIsOsAUhSIGN ANUSVARAmVIRAMAmNUKTAmSHADDAhDANDAiOUBLE DANDA",
    "hWORD SEPARATORhSECTION MARKhDOUBLE SECTION MARKhABBREVIATION SIGNhSIGN SUKUN",
    "@11280aMULTANI LETTER ApIpUpEpKAqHApGA@11288qHA@1128ApCAqHApJAqJA@1128FpNYApTTArHApDDArDArHA",
    "pNNApTAqHApDAqHApNApPAqHApBA@1129FqHApMApYApRApLApVApSApHApRRAqHAiSECTION MARK",
    "@112B0aKHUDAWADI LETTER AsArIsIrUsUrErAIrOrAUrKAsHArGAsGAsHArNGArCAsHArJAsJAsHArNYArTTAtHA",
    "rDDAtDArRRArDDHArNNArTAsHArDAsHArNArPAsHArBAsBAsHArMArYArRArLArVArSHAsArHAkSIGN ANUSVARA",
    "kVOWEL SIGN AAvIwIvUwUvEvAIvOvAUkSIGN NUKTApVIRAMA@112F0kDIGIT ZEROqONEqTWOrHREEqFOURrIVEqSIX",
    "rEVENqEIGHTqNINE@11300aGRANTHA SIGN COMBINING ANUSVARA ABOVEoANDRABINDUnANUSVARAnVISARGA",
    "@11305iLETTER AqApIqIpUqUpVOCALIC RxL@1130FpEEpAI@11313pOOpAUpKAqHApGAqHApNGApCAqHApJAqHApNYA",
    "pTTArHApDDArHApNNApTAqHApDAqHApNA@1132ApPAqHApBAqHApMApYApRA@11332pLAqLA@11335pVApSHAqSAqApHA",
    "@1133BaCOMBINING BINDU BELOWaGRANTHA SIGN NUKTAnAVAGRAHAiVOWEL SIGN AAtIuItUuUtVOCALIC RzdR",
    "@11347tEEtAI@1134BtOOtAUiSIGN VIRAMA@11350iOM@11357iAU LENGTH MARK@1135DiSIGN PLUTA",
    "iLETTER VEDIC ANUSVARAvDOUBLE ANUSVARAqOCALIC RRxLLiVOWEL SIGN VOCALIC LzdL",
    "@11366aCOMBINING GRANTHA DIGIT ZEROyONEyTWOzaHREEyFOURzaIVEySIX@11370sLETTER AzaKAzaNAzaVI",
    "zaPA@11400aNEWA LETTER AnAmInImUnUmVOCALIC RvRuLvLmEmAImOmAUmKAnHAmGAnHAmNGAoHAmCAnHAmJAnHA",
    "mNYAoHAmTTAoHAmDDAoHAmNNAmTAnHAmDAnHAmNAnHAmPAnHAmBAnHAmMAnHAmYAmRAnHAmLAnHAmWAmSHAnSAnAmHA",
    "fVOWEL SIGN AAqIrIqUrUqVOCALIC RzaRyLzaLqEqAIqOqAUfSIGN VIRAMAkCANDRABINDUkANUSVARAkVISARGA",
    "kNUKTAkAVAGRAHAkFINAL ANUSVARAfOMfSIDDHIfDANDAgOUBLE DANDAfCOMMAfGAP FILLERfABBREVIATION SIGN",
    "fDIGIT ZEROlONElTWOmHREElFOURmIVElSIXmEVENlEIGHTlNINEgOUBLE COMMAfPLACEHOLDER MARK",
    "@1145DfINSERTION SIGNfSANDHI MARKfLETTER VEDIC ANUSVARAfSIGN JIHVAMULIYAkUPADHMANIYA",
    "@11480aTIRHUTA ANJIiLETTER AqApIqIpUqUpVOCALIC RyRxLyLpEpAIpOpAUpKAqHApGAqHApNGApCAqHApJAqHA",
    "pNYApTTArHApDDArHApNNApTAqHApDAqHApNApPAqHApBAqHApMApYApRApLApVApSHAqSAqApHAiVOWEL SIGN AAtI",
    "uItUuUtVOCALIC RzdRzcLzdLtEtSHORT EtAItOtSHORT OtAUiSIGN CANDRABINDUnANUSVARAnVISARGApRAMA",
    "nNUKTAnAVAGRAHAiGVANGiABBREVIATION SIGNiOM@114D0iDIGIT ZEROoONEoTWOpHREEoFOURpIVEoSIXpEVEN",
    "oEIGHToNINE@11580aSIDDHAM LETTER AqApIqIpUqUpVOCALIC RyRxLyLpEpAIpOpAUpKAqHApGAqHApNGApCAqHA",
    "pJAqHApNYApTTArHApDDArHApNNApTAqHApDAqHApNApPAqHApBAqHApMApYApRApLApVApSHAqSAqApHA",
    "iVOWEL SIGN AAtIuItUuUtVOCALIC RzdR@115B8tEtAItOtAUiSIGN CANDRABINDUnANUSVARAnVISARGApRAMA",
    "nNUKTAnSIDDHAMiDANDAjOUBLE DANDAiSEPARATOR DOTsBARiREPETITION MARK-1y2y3iEND OF TEXT MARK",
    "iSECTION MARK WITH TRIDENT AND U-SHAPED ORNAMENTSznDOTTED CRESCENTS",
    "zbRAYS AND DOTTED CRESCENTSzrDOUBLE CRESCENTSzrTRIPLE CRESCENTSvDOUBLE RINGzh WITH RAYS",
    "vWITH DOUBLE CRESCENTSzbTRIPLE CRESCENTSzbQUADRUPLE CRESCENTSzbSEPTUPLE CRESCENTS",
    "zbCIRCLES AND RAYSznTWO ENCLOSURESznFOUR ENCLOSURESiLETTER THREE-CIRCLE ALTERNATE I",
    "qWO-CIRCLE ALTERNATE IzmIpALTERNATE UiVOWEL SIGN ALTERNATE UzfU@11600aMODI LETTER AnAmInImUnU",
    "mVOCALIC RvRuLvLmEmAImOmAUmKAnHAmGAnHAmNGAmCAnHAmJAnHAmNYAmTTAoHAmDDAoHAmNNAmTAnHAmDAnHAmNA",
    "mPAnHAmBAnHAmMAmYAmRAmLAmVAmSHAnSAnAmHAmLLAfVOWEL SIGN AAqIrIqUrUqVOCALIC RzaRyLzaLqEqAIqOqAU",
    "fSIGN ANUSVARAkVISARGAmRAMAkARDHACANDRAfDANDAgOUBLE DANDAfABBREVIATION SIGNfSIGN HUVA",
    "@11650fDIGIT ZEROlONElTWOmHREElFOURmIVElSIXmEVENlEIGHTlNINE@11660cNGOLIAN BIRGA WITH ORNAMENT",
    "kROTATED BIRGAkDOUBLE BIRGA WITH ORNAMENTkTRIPLE BIRGA WITH ORNAMENT",
    "kBIRGA WITH DOUBLE ORNAMENTkROTATED BIRGA WITH ORNAMENTzeDOUBLE ORNAMENTkINVERTED BIRGA",
    "y WITH DOUBLE ORNAMENTkSWIRL BIRGAv WITH ORNAMENTzcDOUBLE ORNAMENT",
    "kTURNED SWIRL BIRGA WITH DOUBLE ORNAMENT@11680aTAKRI LETTER AoAnIoInUoUnEnAInOnAUnKAoHAnGAoHA",
    "nNGAnCAoHAnJAoHAnNYAnTTApHAnDDApHAnNNAnTAoHAnDAoHAnNAnPAoHAnBAoHAnMAnYAnRAnLAnVAnSHAoAnHAnRRA",
    "gSIGN ANUSVARAlVISARGAgVOWEL SIGN AArIsIrUsUrErAIrOrAUgSIGN VIRAMAlNUKTAgLETTER ARCHAIC KHA",
    "gABBREVIATION SIGN@116C0gDIGIT ZEROmONEmTWOnHREEmFOURnIVEmSIXnEVENmEIGHTmNINE",
    "@11700aAHOM LETTER KAnHAmNGAnAmTAmALTERNATE TAmPAnHAmBAmMAmJAmCHAmTHAmRAmLAmSAmNYAmHAmAmDAnHA",
    "mGAmALTERNATE GAmGHAmBHAmJHAmALTERNATE BA@1171DfCONSONANT SIGN MEDIAL LAzcRAzcLIGATING RA",
    "fVOWEL SIGN ArAqIrIqUrUqEqAWqOqAIrMfSIGN KILLER@11730fDIGIT ZEROlONElTWOmHREElFOURmIVElSIX",
    "mEVENlEIGHTlNINEfNUMBER TENnWENTYfSIGN SMALL SECTIONlECTIONkRULAIgYMBOL VIfLETTER CAmTTAoHA",
    "mDDAoHAmNNAmLLA@11800aDOGRA LETTER AoAnIoInUoUnEnAInOnAUnKAoHAnGAoHAnNGAnCAoHAnJAoHAnNYAnTTA",
    "pHAnDDApHAnNNAnTAoHAnDAoHAnNAnPAoHAnBAoHAnMAnYAnRAnLAnVAnSHAoSAoAnHAnRRAgVOWEL SIGN AArIsIrU",
    "sUrVOCALIC RzbRrErAIrOrAUgSIGN ANUSVARAlVISARGAnRAMAlNUKTAgABBREVIATION SIGN",
    "@118A0aWARANG CITI CAPITAL LETTER NGAAzcAzcWIzcYUzdAzdOzcIIzcUUzcEzcOzcANGzcGAzcKOzcENYzcYUJ",
    "zcUCzcENNzcODDzcTTEzcNUNGzcDAzcATzdMzcBUzcPUzcHIYOzdOLOzeRRzdARzcSSUUzdIIzcVIYO",
    "mSMALL LETTER NGAAzaAzaWIzaYUzbAzbOzaIIzaUUzaEzaOzaANGzaGAzaKOzaENYzaYUJzaUCzaENNzaODDzaTTE",
    "zaNUNGzaDAzaATzbMzaBUzaPUzaHIYOzbOLOzcRRzbARzaSSUUzbIIzaVIYOmDIGIT ZEROsONEsTWOtHREEsFOURtIVE",
    "sSIXtEVENsEIGHTsNINEmNUMBER TENuWENTYuHIRTYtFORTYuIFTYtSIXTYuEVENTYtEIGHTYtNINETY@118FFmOM",
    "aDIVES AKURU LETTER AuAtIuItUuUtE@11909tO@1190CtKAuHAtGAuHAtNGAtCAuHAtJA@11915tNYAtTTA",
    "@11918tDDAvHAtNNAtTAuHAtDAuHAtNAtPAuHAtBAuHAtMAtYAuYAtRAtLAtVAtSHAuSAuAtHAtLLAtZA",
    "mVOWEL SIGN AAxIyIxUyUxE@11937xAIxO@1193BmSIGN ANUSVARArCANDRABINDUrHALANTAmVIRAMA",
    "mPREFIXED NASAL SIGNmMEDIAL YAmINITIAL RAmMEDIAL RAmSIGN NUKTAmDOUBLE DANDAmGAP FILLER",
    "mEND OF TEXT MARK@11950mDIGIT ZEROsONEsTWOtHREEsFOURtIVEsSIXtEVENsEIGHTsNINE",
    "@119A0aNANDINAGARI LETTER AuAtIuItUuUtVOCALIC RzdR@119AAtEtAItOtAUtKAuHAtGAuHAtNGAtCAuHAtJA",
    "uHAtNYAtTTAvHAtDDAvHAtNNAtTAuHAtDAuHAtNAtPAuHAtBAuHAtMAtYAtRAtLAtVAtSHAuSAuAtHAtLLAtRRA",
    "mVOWEL SIGN AAxIyIxUyUxVOCALIC RzhR@119DAxExAIxOxAUmSIGN ANUSVARArVISARGAtRAMArAVAGRAHA",
    "rSIDDHAMmHEADSTROKEmVOWEL SIGN PRISHTHAMATRA E@11A00aZANABAZAR SQUARE LETTER ArVOWEL SIGN I",
    "zdUEzezdEzdOEzezdAIzeUzdREVERSED IxLENGTH MARKrLETTER KAzaHAyGAzaHAyNGAyCAzaHAyJAyNYAyTTAzbHA",
    "yDDAzbHAyNNAyTAzaHAyDAzaHAyNAyPAzaHAyBAzaHAyMAyTSAzbHAyDZAzbHAyZHAzaAy-AyYAyRAyLAyVAySHAzaSA",
    "zaAyHAyKSSArFINAL CONSONANT MARKrSIGN VIRAMAwCANDRABINDUzi WITH ORNAMENTzd WITH ORNAMENT",
    "wANUSVARAwVISARGArCLUSTER-INITIAL LETTER RAzaFINAL LETTER YAznRAznLAznVArINITIAL HEAD MARK",
    "rCLOSING HEAD MARKrMARK TSHEGwSHADwDOUBLE SHADwLONG TSHEGrINITIAL DOUBLE-LINED HEAD MARK",
    "rCLOSING DOUBLE-LINED HEAD MARKrSUBJOINER@11A50aSOYOMBO LETTER AiVOWEL SIGN ItUEutEtOuEtAIuU",
    "tVOCALIC RzcLoLENGTH MARKiLETTER KAqHApGAqHApNGApCAqHApJAqHApNYApTTArHApDDArHApNNApTAqHApDA",
    "qHApNApPAqHApBAqHApMApTSArHApDZApZHAqAp-ApYApRApLApVApSHAqSAqApHApKSSAiSIGN JIHVAMULIYA",
    "nUPADHMANIYAiCLUSTER-INITIAL LETTER RAzgLAzgSHAzhAiFINAL CONSONANT SIGN GzeKzeNGzeDzeNzeBzeM",
    "zeRzeLzeSHzfze-AiSIGN ANUSVARAnVISARGAiGEMINATION MARKiSUBJOINERiMARK TSHEGnSHADnDOUBLE SHAD",
    "nPLUTAiHEAD MARK WITH MOON AND SUN AND TRIPLE FLAMEzpFLAMEzkiTERMINAL MARK-1w2",
    "@11AB0aCANADIAN SYLLABICS NATTILIK HIzfIzeOzfOzeAzfAzdSHRIzhIzgOzhOzgAzhAtSPEvIvOvA",
    "aPAU CIN HAU LETTER PAtKAtLAtMAtDAtZAtVAtNGAtHAtGAtKHAtSAtBAtCAtTAuHAtNAtPHAtRAtFAtCHAtAtEtI",
    "tOtUuAtIAtFINAL PzaKzaTzaMzaNzaLzaWzaNGzaYmRISING TONE LONGxmSANDHI GLOTTAL STOP",
    "mRISING TONE LONG FINALyFINALmSANDHI GLOTTAL STOP FINALtTONE LONGxx LONG FINALyFINAL",
    "mMID-LEVEL TONEmGLOTTAL STOP VARIANTmMID-LEVEL TONE LONG FINALzcFINALmLOW-FALLING TONE LONGzd",
    "mGLOTTAL STOPmLOW-FALLING TONE LONG FINALzeFINALmGLOTTAL STOP FINAL@11C00aBHAIKSUKI LETTER A",
    "sArIsIrUsUrVOCALIC RzbRzaL@11C0ArErAIrOrAUrKAsHArGAsHArNGArCAsHArJAsHArNYArTTAtHArDDAtHArNNA",
    "rTAsHArDAsHArNArPAsHArBAsHArMArYArRArLArVArSHAsSAsArHAkVOWEL SIGN AAvIwIvUwUvVOCALIC RzfRzeL",
    "@11C38vEvAIvOvAUkSIGN CANDRABINDUpANUSVARApVISARGArRAMApAVAGRAHAkDANDAlOUBLE DANDA",
    "kWORD SEPARATORkGAP FILLER-1v2@11C50kDIGIT ZEROqONEqTWOrHREEqFOURrIVEqSIXrEVENqEIGHTqNINE",
    "kNUMBER ONErTWOsHREErFOURsIVErSIXsEVENrEIGHTrNINErTENsWENTYsHIRTYrFORTYsIFTYrSIXTYsEVENTY",
    "rEIGHTYrNINETYkHUNDREDS UNIT MARK@11C70aMARCHEN HEAD MARKiMARK SHADiLETTER KAqHApGApNGApCAqHA",
    "pJApNYApTAqHApDApNApPAqHApBApMApTSArHApDZApWApZHAqAp-ApYApRApLApSHAqApHApA",
    "@11C92iSUBJOINED LETTER KAzbHAzaGAzaNGAzaCAzbHAzaJAzaNYAzaTAzbHAzaDAzaNAzaPAzbHAzaBAzaMAzaTSA",
    "zcHAzaDZAzaWAzaZHAzbA@11CA9zaYAzaRAzaLAzaSHAzbAzaHAzaAiVOWEL SIGN AAtItUtEtOiSIGN ANUSVARA",
    "nCANDRABINDU@11D00cSARAM GONDI LETTER AwAvIwIvUwUvE@11D08vAIvO@11D0BvAUvKAwHAvGAwHAvNGAvCAwHA",
    "vJAwHAvNYAvTTAxHAvDDAxHAvNNAvTAwHAvDAwHAvNAvPAwHAvBAwHAvMAvYAvRAvLAvVAvSHAwSAwAvHAvLLAvKSSA",
    "vJNYAvTRAoVOWEL SIGN AAzaIzbIzaUzbUzaVOCALIC R@11D3AzaE@11D3CzaAIzaO@11D3FzaAUoSIGN ANUSVARA",
    "tVISARGAtNUKTAtCANDRAtHALANTAoVIRAMAoREPHApA-KARA@11D50oDIGIT ZEROuONEuTWOvHREEuFOURvIVEuSIX",
    "vEVENuEIGHTuNINE@11D60aGUNJALA GONDI LETTER AwAvIwIvUwU@11D67vEEvAI@11D6AvOOvAUvYAvVAvBAwHA",
    "vMAvKAwHAvTAwHAvLAvGAwHAvDAwHAvNAvCAwHAvTTAxHAvLLAvJAwHAvDDAxHAvNGAvPAwHAvHAvRAvSA",
    "oVOWEL SIGN AAzaIzbIzaUzbU@11D90zaEEzaAI@11D93zaOOzaAUoSIGN ANUSVARAtVISARGAoVIRAMAoOM",
    "@11DA0oDIGIT ZEROuONEuTWOvHREEuFOURvIVEuSIXvEVENuEIGHTuNINE@11EE0aMAKASAR LETTER KApGApNGApPA",
    "pBApMApTApDApNApCApJApNYApYApRApLApVApSApAiANGKAiVOWEL SIGN ItUtEtOiPASSIMBANGiEND OF SECTION",
    "@11FB0aLISU LETTER YHA@11FC0aTAMIL FRACTION ONE THREE-HUNDRED-AND-TWENTIETH",
    "tONE-HUNDRED-AND-SIXTIETHtEIGHTIETHtSIXTY-FOURTHtFORTIETHtTHIRTY-SECONDpTHREE EIGHTIETHS",
    "vSIXTY-FOURTHSpONE TWENTIETHtSIXTEENTH-1ze2tTENTHtEIGHTHpTHREE TWENTIETHSvSIXTEENTHS",
    "pONE FIFTHtQUARTERtHALF-1y2pTHREE QUARTERSpDOWNSCALING FACTOR KIIZHgSIGN NELlCEVITUlAAZHAAKKU",
    "lUZHAKKUlMUUVUZHAKKUlKURUNIlPATHAKKUlMUKKURUNIlKAACUlPANAMmONlVARAAKANlPAARAMlKUZHIlVELI",
    "gWET CULTIVATION SIGNgDRY CULTIVATION SIGNgLAND SIGNgSALT PAN SIGNgTRADITIONAL CREDIT SIGN",
    "sNUMBER SIGNgCURRENT SIGNgAND ODD SIGNgSPENT SIGNgTOTAL SIGNgIN POSSESSION SIGN",
    "gSTARTING FROM SIGNhIGN MUTHALIYAlVAKAIYARAA@11FFFgPUNCTUATION END OF TEXTaCUNEIFORM SIGN A",
    "q TIMES AxBADxGAN2 TENUxHAxIGIxLAGAR GUNUxMUSHxSAGq2qBr TIMES ASH2yDUN3 GUNUyGALzbN2 TENUyHA",
    "yIGI GUNUzaMINyLAGABySHESHyU PLUS U PLUS UsGUNUr2s TIMES BALAGzaGAN2 TENUzaME PLUS ENzaSHA3",
    "zaTAK4qDqKr TIMES ERIN2ySHITA PLUS GISHqLr TIMES ALyDIM2yGISHyHAyKAD3zaIySHEyUSHrANrEPHqMAR",
    "t TIMES SHEqNr OVER ANsTHREE TIMESsPLUS NAGA OPPOSING AN PLUS NAGAzdSQUAREDrSHEqPINqRAD",
    "t TIMES KURrKABqSAL2rHs ZIDA TENUtKABA TENUtOVER ASH TUG2 OVER TUG2 TUG2 OVER TUG2 PAP",
    "zdOVER ASHzl CROSSING ASH OVER ASH OVER ASHs2sGABpBArDrG3rHAR2rLs OVER BALsAGrRsA2qIr TIMES A",
    "yGARyIGI GUNUqUr OVER BU ABzbUNsCROSSING BUrLUGu OVER BULUGrRs2pDArG",
    "s KISIM5 TIMES A PLUS MASHziMARzhBALAGziIzhGAzj PLUS MASHziIzjR2ziUDzhHAzhIRzj PLUS LUzhKAK",
    "zhLAziUzj PLUS MASH2zjMzhNEzhPAP PLUS PAPzhSIzhTAK4zhU2 PLUS GIR2ziSHrMrRsA3t4qIrBrM",
    "s TIMES SHEs2rNs KASKAL U GUNU DISHrSHqUr OVER DUsGUNUsSHESHIGrBs TIMES ESH2s2rGsUDrHrNs3",
    "t GUNUy GUNUs4rR2pEq TIMES PAPrOVER E NUN OVER NUNq2r TIMES A PLUS HA PLUS DAyGARyMIySALzaHE",
    "yUqDINqGIRqLqNr TIMES GAN2zd TENUyMEsCROSSING ENsOPPOSING ENsSQUAREDqRENrIN2qSH2qZENt TIMES A",
    "zc PLUS LALzl TIMES LALzcNzbBADzbDUN3 GUNUzk GUNUzbHAzd GUNUzbIGI GUNUzbKASKALzh SQUAREDzcU3",
    "zbLAzdL TIMES LALzcIzcUzbU2zcDpGAr GUNUr2s TIMES A PLUS DA PLUS HAzhHAzhIGIzbB2 TENU PLUS TAB",
    "zbNzbSHzd2 PLUS GALzaBADzcR PLUS RAzbURzd PLUS RAzaDAzbIzcM TIMES SHEzbUBzaELzc PLUS LAzbN",
    "zc TIMES GAN2 TENUzaGAN2 TENUzcRzbIzc4zd PLUS AzcR2 PLUS SUzaHA PLUS LU PLUS ESH2zcL",
    "zd PLUS LAzbI PLUS LIzbUB2zaIGI GUNUzbSH PLUS HU PLUS ASHzaKAKzcSKALzbIDzd PLUS LAL",
    "zbU3 PLUS ANzaLAzaME PLUS ENzbIzaNUNzd OVER NUNzaPAzaSALzcRzbHEzd PLUS TURzcIDzbUMzaTAK4zaU",
    "zbDzc PLUS DUtOVER GA2rBAt CROSSING GABArDs OVER GAD GAR OVER GARrL",
    "s GAD OVER GAD GAR OVER GARsAMrMrNs2t TENUuOVER GAN2uCROSSING GAN2rRs3rSHANqESHTINw TIMES KUR",
    "qIr TIMES EyUsCROSSING GIr4s OVER GI4tCROSSING GI4rDIMrR2t GUNUs3t TIMES A PLUS IGI",
    "zbGAN2 TENUzbIGIzbLU PLUS IGIzbPArSALsHt CROSSING GISHuTIMES BADzbTAK4vENUqUr CROSSING GUr2",
    "s TIMES KAKzd TIMES IGI GUNUzaNUNzaSAL PLUS TUG2tGUNUrDs TIMES A PLUS KURzaKURtOVER GUD LUGAL",
    "rLrMs TIMES SHErRs7sUNtSHpHAr TENUsGUNUrLqIr TIMES ASHzc2yBADyDISHyGADyKINyNUNySHEyUqUrB2",
    "t TIMES ANzbHALzbKASKALzbLISHzbUDrL2pIq AqBqDIMt OVER IDIM BURzfSQUAREDqGrIs DIBtRI",
    "tOVER IGI SHIR OVER SHIR UD OVER UDtGUNUqLr TIMES GAN2 TENUr2qMr TIMES TAK4sCROSSING IM",
    "sOPPOSING IMsSQUAREDrINqNqRqSHpKAr TIMES AzaDzb PLUS KU3zaSH2yBADzbLAGzbRzaIyERIN2zaSH2yGAzbL",
    "zbN2 TENUzbRzc PLUS SHA3 PLUS AzaIzbR2zbSH PLUS SARzeCROSSING GISHzaUzbR7yIGIzaMyKAKzaIzbDyLI",
    "zaUyMEzb PLUS DUzhGIzhTEzaIzb PLUS NUNUZyNEzaUNyPIyRUySAzbRzaHAzbEzbIDzbUzaIGzaUHURyTARyUza2",
    "zaDzaMUM TIMES PAzaSHyZIr2s CROSSING KA2rBrD2s3s4s5t OVER KAD5rKs TIMES IGI GUNUrLs TIMES BAD",
    "tCROSSING KALrM2s4rSKALv LAGAB TIMES U OVER LAGAB TIMES U",
    "wOVER KASKAL LAGAB TIMES U OVER LAGAB TIMES UqESH2qIr TIMES BADyUzaDrDrNrSALsHsIM5",
    "v OVER KISIM5qUr OVER HI TIMES ASH2 KU OVER HI TIMES ASH2r3r4s VARIANT FORMr7rLs GUNUrNrR",
    "s OPPOSING KURrSHU2qWU318pLArGABu TIMES Azd PLUS DA PLUS HAzjGARzjLALzdLzdNzdSH ZIDA TENU",
    "zcBADzdIzcDARzcENzcGAzeRzdUDzf PLUS GUDzcHAzeLzdI TIMES NUNzcIGI GUNUzdMze PLUS HAzkLUzcKIzeN",
    "zdU3zeLzf PLUS HI PLUS AzcLAGABzdISHzdUzeLzcMEze PLUS ENzdUSHzcNEzcSHE PLUS SUM",
    "zeITA PLUS GISH PLUS ERIN2zsTENUzeU2zg PLUS SHU2zdUMzcTAGzeK4zdE PLUS A PLUS SU PLUS NAzcU",
    "zd PLUS AzjU PLUS Uzd2 PLUS ASHzdDzdSHvSQUAREDtRu TIMES SHEzf PLUS SUMvGUNU",
    "za OVER LAGAR GUNU SHErHSHUrLs TIMES LALrMs TIMES KURzd PLUS RUqIrLrMMU2rSHqUr TIMES BADr2",
    "s TIMES ALzaBADzaESH2ze TENUzaGAN2 TENUzaHI TIMES BADzaIMzaKAD2zd3ze PLUS ASHzbIzaLA PLUS ASH",
    "zcGABzaME PLUS ENzaNEzbUzaSI PLUS ASHzcK2 PLUS BUzaTUG2uENUtCROSSING LU2tOPPOSING LU2tSQUARED",
    "uHESHIGr3rGALu OVER LUGALwPPOSING LUGALvSHESHIGrHrLrMs OVER LUMzc GAR OVER GARpMAr TIMES TAK4",
    "sGUNUr2rHrRrSHt2qErSqIrNqUr OVER MUrGs GUNUrNSUBrRGU2rSHt TIMES AzbKURzbZAuOVER MUSH",
    "ze TIMES A PLUS NAuCROSSING MUSHt3u TIMES Azd PLUS DIzcDIvGUNUpNAr2rGAt INVERTED",
    "uTIMES SHU TENUuOPPOSING NAGAtRrM NUTILLUss2qEr TIMES AyUDsSHESHIGqIr TIMES Er2rM",
    "s TIMES GAN2 TENUzcR PLUS GAN2 TENUrNDA2v TIMES ANzeSHzg PLUS ASHzdGUDzdME PLUS GAN2 TENUzdNE",
    "zeUNzdSHEzg PLUS A ANznSHzp PLUS ASHzdU2 PLUS ASHzeSHrSAGqUr11rNs LAGAR TIMES GARzgMASHzgSAL",
    "zj OVER NUN LAGAR TIMES SALzgUSHtTENUtOVER NUNtCROSSING NUNzg LAGAR OVER LAGARsUZ",
    "u AB2 TIMES ASHGABzgBIzgDUGzgGUDzgIGI GUNUzgKAD3zgLAzgNEzgSILA3zgU2vKISIM5 TIMES BIzl UpPArD",
    "rNrPqESH2qIr TIMES AzaByBIzaUyEyIzaByUza2sCROSSING PIrRIGu TIMES KALzcUDzcZAvOPPOSING PIRIG",
    "pRArBqIqUpSArG NUTILLUss TIMES AzaDUzcBzaHAzaKAKzbURzaLUMzaMIzaNUNzaSALzbHIDzaTABzaU2zbBzbM",
    "zbRzbSHtOVER SAGtGUNUrLs LAGAB TIMES ASH2rNGA2rRqHAs3t TIMES AzbBADzbGISHzbNEzbSHU2zbTURzbU",
    "zc PLUS As6sB6sR2rEs HUtOVER SHE GAD OVER GAD GAR OVER GARzdTAB OVER TAB GAR OVER GARsG9sNsSH",
    "u2uLAMrIDt TIMES AzbIMsMt TIMES AzbBALzcULUGzbDINzbGARzbIGIze GUNUzbKUSHU2zbLULzbMUGzbSALsNIG",
    "sRt TENUuOVER SHIR BUR OVER BURsTArUs OVER INVERTED SHUs2sBURqIr GUNUrGs4t OVER SIG4 SHU2rK2",
    "rLA3qUr OVER SUrDs2rHURrMsASHrRs9pTAr ASTERISKsTIMES HIyMIsGUNUrB",
    "s OVER TAB NI OVER NI DISH OVER DISHtSQUAREDrGs TIMES BIzaGUDzaSHEzcUzaTUG2zaUDrK4rRqEr GUNU",
    "qIr TENUrLrRs TIMES TAK4tOVER TIRzc GAD OVER GAD GAR OVER GARqUrG2rKrMrRs OVER TUR ZA OVER ZA",
    "pUq GUDrU UrOVER U PA OVER PA GAR OVER GARySUR OVER SURyU REVERSED OVER U REVERSEDq2qBqD",
    "r KUSHU2sTIMES BADyMIyU PLUS U PLUS Uzo GUNUsGUNUsSHESHIGza TIMES BADrUGqMr TIMES LAGAB",
    "yME PLUS DAySHA3yUrBINrUMt TIMES KASKALzbPAqNr GUNUqRr CROSSING URsSHESHIGr2s TIMES A PLUS HA",
    "zhNAzbLzaHAzaNUNzaU2zc PLUS ASHziBIr4rIs3rUs TIMES AzbSHGABzaBARzaDUNzaGAzcLzcN2 TENUzcRzbU",
    "zaHAzaIGIzbMzbSHzaKIzaLUMzaMINzaPAzaSHEzbIG4zaTUzaU PLUS GUDzbDzbRUDAsDAu TIMES UqSHs TIMES A",
    "zaKUzcRzaTAK4sXs2sUMXqTUKIqZ3s TIMES KASKALrUpZAr TENUsSQUARED TIMES KURrGrMXqE2qIr OVER ZIr3",
    "rBs KABA TENUrGrZ2qUr5s TIMES ArBURrMpKAP ELAMITEpAB TIMES NUNr2 TIMES AqMAR TIMES KUG",
    "pDAG KISIM5 TIMES U2 PLUS MASHs3qISH PLUS SHUqUB TIMES SHEpEZEN TIMES GUDzbSHE",
    "pGA2 TIMES AN PLUS KAK PLUS AzbSH2qE22qIGpHUSHpKA TIMES ANSHEzaSH3yGISHzaUDyHI TIMES ASH2yLUM",
    "yPAySHULyTUyUR2pLAGAB TIMES GIqU2 SHESHIG TIMES BADtTIMES ESH2 PLUS LALzaSHUpMESH",
    "qUSH3 TIMES ZApNA4qINs9sDA2 TIMES BALzdGIqU11 ROTATED NINETY DEGREESpPESH2 ASTERISKqIR2",
    "pSAG TIMES IGI GUNUpTI2pUM TIMES MEq U@12400kNUMERIC SIGN TWO ASHyHREE ASHxFOUR ASHyIVE ASH",
    "xSIX ASHyEVEN ASHxEIGHT ASHxNINE ASHxTHREE DISHxFOUR DISHyIVE DISHxSIX DISHyEVEN DISH",
    "xEIGHT DISHxNINE DISHxFOUR UyIVE UxSIX UyEVEN UxEIGHT UxNINE UxONE GESH2xTWO GESH2yHREE GESH2",
    "xFOUR GESH2yIVE GESH2xSIX GESH2yEVEN GESH2xEIGHT GESH2xNINE GESH2xONE GESHUxTWO GESHU",
    "yHREE GESHUxFOUR GESHUyIVE GESHUxTWO SHAR2yHREE SHAR2zj VARIANT FORMxFOUR SHAR2yIVE SHAR2",
    "xSIX SHAR2yEVEN SHAR2xEIGHT SHAR2xNINE SHAR2xONE SHARUxTWO SHARUyHREE SHARUzj VARIANT FORM",
    "xFOUR SHARUyIVE SHARUxSHAR2 TIMES GAL PLUS DISHztMINxONE BURUxTWO BURUyHREE BURU",
    "zi VARIANT FORMxFOUR BURUyIVE BURUxTHREE VARIANT FORM ESH16zu21xFOUR VARIANT FORM LIMMUzv4",
    "zv AzwBxSIX VARIANT FORM ASH9yEVEN VARIANT FORM IMIN3zv AzwBxEIGHT VARIANT FORM USSUzv3",
    "xNINE VARIANT FORM ILIMMUzw3zw4zw AxTWO ASH TENUyHREE ASH TENUxFOUR ASH TENUyIVE ASH TENU",
    "xSIX ASH TENUxONE BAN2xTWO BAN2yHREE BAN2xFOUR BAN2zh VARIANT FORMyIVE BAN2zh VARIANT FORM",
    "xNIGIDAMINzeESHxONE ESHE3xTWO ESHE3xONE THIRD DISHxTWO THIRDS DISHxFIVE SIXTHS DISH",
    "xONE THIRD VARIANT FORM AxTWO THIRDS VARIANT FORM AxONE EIGHTH ASHzcQUARTER ASH",
    "yLD ASSYRIAN ONE SIXTHzpQUARTERyNE QUARTER GURzcHALF GURxELAMITE ONE THIRDzgTWO THIRDSzgFORTY",
    "zhIFTYxFOUR U VARIANT FORMyIVE U VARIANT FORMxSIX U VARIANT FORMyEVEN U VARIANT FORM",
    "xEIGHT U VARIANT FORMxNINE U VARIANT FORM@12470kPUNCTUATION SIGN OLD ASSYRIAN WORD DIVIDER",
    "zcVERTICAL COLONzcDIAGONAL COLONzlTRICOLONzlQUADCOLON@12480kSIGN AB TIMES NUN TENUySHU2",
    "qD TIMES ESH2pBAD TIMES DISH TENUrHAR2 TIMES AB2zdNIzdZAqU OVER BU TIMES NA2pDA TIMES TAK4",
    "rG TIMES KURqIM TIMES IGIzaU U Us2 TIMES UDqUG TIMES ANSHEzbSHzd AT LEFTzaDINzbUNzaERIN2zaGA",
    "zbIzcR2 GUNUzcSHzaHAzbIzaIGI GUNUzaKASKALzbURzcSHU2zg PLUS KASKALzaLAK-020zcMzd TIMES KUR",
    "zbUH PLUS GISHzaMASHzbESzbIzaNIzaPIzaSHEzbI GUNUpE2 TIMES KURyPAPqRIN2 XqSH2 CROSSING ESH2",
    "qZEN SHESHIG TIMES ASHzjHIzjIGI GUNUzjLAzlLzjMEzlSzjSUuTIMES SUpGA2 TIMES BAHAR2zaDIM GUNU",
    "zbUG TIMES IGI GUNUzkKASKALzaERENzaGAzcR PLUS DIzjNEzaHA PLUS AzaKUSHU2 PLUS KASKALzaLAM",
    "zd TIMES KURzbUHzaMUSHzaNEzc PLUS E2ziGIzaSHIMzaZIZ2rBA ROTATED NINETY DEGREESqESHTIN TIMES U",
    "qISH TIMES GISH CROSSING GISHqU2 TIMES IGI GUNUrD PLUS GISH TIMES TAK4pHA TENU GUNU",
    "qI TIMES ASH OVER HI TIMES ASHpKA TIMES BUyKAyU U UzaRpLAGAB TIMES ZU OVER ZUrK-003u21v5u30",
    "u50v1u62u79 OVER LAK-079 GUNUu80v1 OVER LAK-081u92t130u42t210v9u20v5v8u38u65v6t343v7v8u83v4",
    "u90t441v9w TIMES GUzeIGIzePAP PLUS LU3znPAP PLUS LU3zeU2 PLUS BAu50v7u70u83u90v2v3v5t550t608",
    "u17w TIMES ASHzeBADzeDUN3 GUNU GUNUzeKU3zeLAzeTARzfEzeU2zfDzfRUDAu36u48w TIMES DUBzeGAzeIGI",
    "zh GUNUzeNIzePAP PLUS PAP PLUS LU3zeSHESH PLUS KIzeUDzfRUDAt724u49qU2 GUNU TIMES ASH",
    "tTIMES DISHzaHALzaPAPzd PLUS PAP PLUS LU3zaTAK4pMI PLUS ZA7qUSH OVER MUSH TIMES GAzlKAK",
    "pNINDA2 TIMES DIM GUNUzdGISHzeULzdHIzdKESH2zdLAK-050zdMASHzdPAP PLUS PAPzdUze PLUS UzeRUDA",
    "pSAG GUNU TIMES HAtTIMES ENzaSHE AT LEFTzaTAK4qHA6 TENUrE OVER SHEtPLUS HUB2yNAM2ySAR",
    "rU2 PLUS DUG TIMES NIzaE2 TIMES ANqI TIMES TAK4pTAK4 PLUS SAGqUM TIMES GAN2 TENUzaTHREE DISH",
    "pUR2 INVERTEDtTIMES UDrU TIMES DARA3zaLAK-668zbU3pZA7qU OVER ZU PLUS SAR",
    "r5 TIMES THREE DISH TENU@12F90bYPRO-MINOAN SIGN CM001w2w4w5w6w7w8w9v10w1w2xBw3w5w7w9v21w3w4w5",
    "w6w7w8w9v30w3w4w5w6w7w8w9v40w1w4w6w7w9v50w1w2w3w4w5w6w8w9v60w1w2w3w4w6w7w8w9v70w1w2w3w4w5xBw6",
    "w8w9v80w1w2w3w4w5w6w7w8w9v90w1w2w4w5w6w7w8w9u100w1w2w3w4w5w7w8w9v10w2w4u301w2",
    "@13000aEGYPTIAN HIEROGLYPH A001x2x3x4x5yAx6yAyBx7x8x9w10x1x2x3x4yAx5x6x7yAx8x9w20x1x2x3x4x5x6",
    "x7x8x9w30x1x2yAx3x4x5x6x7x8x9w40yAx1x2yAx3yAx4x5yAx6x7x8x9w50x1x2x3x4x5x6x7x8x9w60x1x2x3x4x5",
    "x6x7x8x9w70uB001x2x3x4x5yAx6x7x8x9uC001x2yAyByCx3x4x5x6x7x8x9w10yAx1x2x3x4x5x6x7x8x9w20x1x2x3",
    "x4uD001x2x3x4x5x6x7x8yAx9w10x1x2x3x4x5x6x7x8x9w20x1x2x3x4x5x6x7yAx8x9w30x1yAx2x3x4yAx5x6x7x8",
    "x9w40x1x2x3x4x5x6yAx7x8yAx9w50yAyByCyDyEyFyGyHyIx1x2yAx3x4yAx5x6x7x8x9w60x1x2x3x4x5x6x7yAyByC",
    "yDyEyFyGyHuE001x2x3x4x5x6x7x8yAx9yAw10x1x2x3x4x5x6yAx7yAx8x9w20yAx1x2x3x4x5x6x7x8yAx9w30x1x2",
    "x3x4yAx6x7x8uF001yAx2x3x4x5x6x7x8x9w10x1x2x3yAx4x5x6x7x8x9w20x1yAx2x3x4x5x6x7x8x9w30x1yAx2x3",
    "x4x5x6x7yAx8yAx9w40x1x2x3x4x5yAx6yAx7yAx8x9w50x1yAyByCx2x3uG001x2x3x4x5x6yAx7yAyBx8x9w10x1yA",
    "x2x3x4x5x6x7x8x9w20yAx1x2x3x4x5x6yAx7x8x9w30x1x2x3x4x5x6yAx7yAx8x9w40x1x2x3yAx4x5yAx6x7x8x9",
    "w50x1x2x3x4uH001x2x3x4x5x6yAx7x8uI001x2x3x4x5yAx6x7x8x9yAw10yAx1yAx2x3x4x5uK001x2x3x4x5x6x7x8",
    "uL001x2yAx3x4x5x6yAx7x8uM001yAyBx2x3yAx4x5x6x7x8x9w10yAx1x2yAyByCyDyEyFyGyHx3x4x5yAx6yAx7yAx8",
    "x9w20x1x2yAx3x4yAx5x6x7x8yAx9w30x1yAx2x3yAyBx4x5x6x7x8x9w40yAx1x2x3x4uN001x2x3x4x5x6x7x8x9w10",
    "x1x2x3x4x5x6x7x8yAyBx9w20x1x2x3x4x5yAx6x7x8x9w30x1x2x3yAx4yAx5yAx6x7yAx8x9w40x1x2vL001y2y3y4",
    "y5zaAy6y7y8y9x10y1y2y3y4y5y6y7zaAy8y9x20vU001y2y3y4y5y6y7y8y9x10zaAy1zaAy2y3y4y5y6y7y8zaAy9",
    "x20y1y2zaAuO001yAx2x3x4x5yAx6yAyByCyDyEyFx7x8x9w10yAyByCx1x2x3x4x5x6x7x8x9yAw20yAx1x2x3x4yAx5",
    "yAx6x7x8x9yAw30yAx1x2x3yAx4x5x6yAyByCyDx7x8x9w40x1x2x3x4x5x6x7x8x9w50yAyBx1uP001yAx2x3yAx4x5",
    "x6x7x8x9w10x1uQ001x2x3x4x5x6x7uR001x2yAx3yAyBx4x5x6x7x8x9w10yAx1x2x3x4x5x6yAx7x8x9w20x1x2x3x4",
    "x5x6x7x8x9uS001x2yAx3x4x5x6yAx7x8x9w10x1x2x3x4yAyBx5x6x7yAx8x9w20x1x2x3x4x5x6yAyBx7x8x9w30x1",
    "x2x3x4x5yAx6x7x8x9w40x1x2x3x4x5x6uT001x2x3yAx4x5x6x7yAx8yAx9yAw10x1yAx2x3x4x5x6yAx7x8x9w20x1",
    "x2x3x4x5x6x7x8x9w30x1x2yAx3yAx4x5x6uU001x2x3x4x5x6yAyBx7x8x9w10x1x2x3x4x5x6x7x8x9w20x1x2x3yA",
    "x4x5x6x7x8x9yAw30x1x2yAx3x4x5x6x7x8x9w40x1x2uV001yAyByCyDyEyFyGyHyIx2yAx3x4x5x6x7yAyBx8x9w10",
    "x1yAyByCx2yAyBx3x4x5x6x7x8x9w20yAyByCyDyEyFyGyHyIyJyKyLx1x2x3yAx4x5x6x7x8yAx9yAw30yAx1yAx2x3",
    "yAx4x5x6x7yAx8x9w40yAuW001x2x3yAx4x5x6x7x8x9yAw10yAx1x2x3x4yAx5x6x7yAx8yAx9w20x1x2x3x4yAx5",
    "uX001x2x3x4yAyBx5x6yAx7x8yAuY001yAx2x3x4x5x6x7x8uZ001x2yAyByCyDx3yAyBx4yAx5yAx6x7x8x9w10x1x2",
    "x3x4x5yAyByCyDyEyFyGyHyIx6yAyByCyDyEyFyGyHuAA001y2y3y4y5y6y7zaAzaBy8y9x10y1y2y3y4y5y6y7y8y9",
    "x20y1y2y3y4y5y6y7y8y9x30y1y2@13430uVERTICAL JOINERuHORIZONTAL JOINERuINSERT AT TOP START",
    "zfBOTTOM STARTzfTOP ENDzfBOTTOM ENDuOVERLAY MIDDLEuBEGIN SEGMENTuEND SEGMENT",
    "@14400aANATOLIAN HIEROGLYPH A001y2y3y4y5y6y7y8y9x10zaAy1y2y3y4y5y6y7y8y9x20y1y2y3y4y5y6zaAy7",
    "y8y9x30y1y2y3y4y5y6y7y8y9zaAx40y1zaAy2y3y4y5zaAy6zaAzaBy7y8y9x50y1y2y3y4y5y6y7y8y9x60y1y2y3y4",
    "y5y6zaAzaBzaCy7y8y9x70y1y2y3y4y5y6y7y8y9x80y1y2y3y4y5y6y7y8y9x90y1y2y3y4y5y6y7zaAy8zaAy9w100",
    "zaAy1zaAy2zaAy3y4zaAzaBzaCy5zaAzaBy6y7zaAzaBzaCy8y9x10zaAzaBy1y2y3y4y5zaAy6y7y8y9x20y1y2y3y4",
    "y5zaAy6y7y8y9x30y1y2y3y4y5zaAy6y7y8y9x40y1y2y3y4y5y6y7y8y9x50y1y2y3y4y5y6y7y8y9x60y1y2y3y4y5",
    "y6y7y8y9x70y1y2y3y4y5y6y7y8y9x80y1y2y3y4y5y6y7y8y9x90y1y2y3y4y5y6y7y8y9w200y1y2zaAzaBy3y4y5y6",
    "y7zaAy8y9zaAx10y1y2y3y4y5zaAy6zaAy7y8y9x20y1y2y3y4y5y6y7zaAy8y9x30y1y2y3y4y5y6y7y8y9x40y1y2y3",
    "y4y5y6y7y8y9x50y1y2y3y4y5y6y7y8y9x60y1y2y3y4y5y6y7zaAy8y9x70y1y2y3y4y5y6y7y8y9x80y1y2y3y4y5y6",
    "y7y8y9zaAx90y1y2y3y4zaAy5y6y7y8y9zaAw300y1y2y3y4y5y6y7y8y9zaAx10y1y2y3y4y5y6y7y8y9x20y1y2y3y4",
    "y5y6y7y8y9zaAx30y1y2AzaBzaCy3y4y5y6zaAzaBzaCy7y8y9x40y1y2y3y4y5y6y7y8y9x50y1y2y3y4y5y6y7y8y9",
    "zaAx60y1y2y3y4zaAy5y6y7y8zaAy9x70y1zaAy2y3y4y5y6y7y8y9x80y1zaAy2y3 RA OR RIzaAy4y5y6zaAy7y8y9",
    "x90y1y2y3 EIGHTy4y5y6y7y8y9w400y1y2y3y4y5y6y7y8y9x10 BEGIN LOGOGRAM MARKzaA END LOGOGRAM MARK",
    "y1y2y3y4y5y6y7y8y9x20y1y2y3y4y5y6y7y8y9x30y1y2y3y4y5y6y7y8y9x40y1y2y3y4y5y6y7y8y9x50zaAy1y2y3",
    "y4y5y6y7zaAy8y9x60y1y2y3y4y5y6y7y8y9x70y1y2y3y4y5y6y7y8y9x80y1y2y3y4y5y6y7y8y9x90y1y2y3y4y5y6",
    "y7w501y2y3y4y5y6y7y8y9x10y1y2y3y4y5y6y7y8y9x20y1y2y3y4y5y6y7y8y9x30",
    "@16800aBAMUM LETTER PHASE-A NGKUE MFONvGBIEE FONvPON MFON PIPAEMGBIEEzlBAvNAA MFONvSHUENSHUET",
    "vTITA MFONvNZA MFONvSHINDA PA NJIvPON PA NJI PIPAEMGBIEEznBAvMAEMBGBIEEvTU MAEMBAvNGANGU",
    "vMAEMVEUXxNSUAEwVEUAENGAMvSEUNYAMvNTOQPENvKEUKEUTNDAvNKINDIvSUUvNGKUENZEUMvLAPAQwET KUT",
    "vNTAP MFAAvMAEKEUPvPASHAEvGHEUAERAEvPAMSHAEvMON NGGEUAETvNZUN MEUTvU YUQ NAEvGHEUAEGHEUAE",
    "vNTAP NTAAvSISAvMGBASAwEUNJOMNDEUQwOOMPUQvKAFAvPA LEERAEWAvNDA LEERAEWAvPETvMAEMKPENvNIKAvPUP",
    "vTUAEPvLUAEPvSONJAMvTEUTEUWENvMAENYIvKETvNDAANGGEUAETvKUOQvMOOMEUTvSHUMvLOMMAEvFIRIvROMvKPOQ",
    "vSOQvMAP PIEETvSHIRAEvNTAPvSHOQ NSHUT YUMvNYIT MONGKEUAEQvPAARAEvNKAARAEvUNKNOWNvNGGENvMAESI",
    "vNJAMvMBANYIvNYETvTEUAENvSOTvPAAMvNSHIEEvMAEMvNYIvKAQvNSHAvVEEvLUvNENwAQvMBAQtB NSHUET",
    "vTU MAEMGBIEEvSIEEwET TUvLOM NTEUMvMBA MAELEEvKIEEMvYEURAEvMBAARAEvKAMvPEESHIvYAFU LEERAEWA",
    "vLAM NSHUT NYAMvNTIEE SHEUOQwDU NJAAvGHEUGHEUAEMvPITvTU NSIEEvSHET NJAQyUAEQTUvMFON TEUAEQ",
    "wBIT MBAAKETvNYI NTEUMvKEUPUQvGHEUGHENvKEUYEUXvLAANAEvPARUMvVEUMvNGKINDI MVOPxGEU MBUvWUAET",
    "vSAKEUAEvTAAMvMEUQvNGGUOQzc LARGEvMFIYAQvSUEvMBEURIwONTIEENvNYAEMAEvPUNGAAMvMEUT NGGEETvFEUX",
    "vMBUOQvFEEvKEUAEMvMA NJEUAENAzbUQAvLETvNGGAAMwSENvMAvKIQvNGOMtC NGKUE MAEMBAwZAvYUMvWANGKUOQ",
    "vNGGENwDEUAEREEwGKAQvGHARAEvMBEEKEETvGBAYIvNYIR MKPARAQ MEUNwTU MBITvMBEUMvPIRIEENvNDOMBU",
    "vMBAA CABBAGE-TREEvKEUSHEUAEPvGHAPvKEUKAQvYU MUOMAEvNZEUMvMBUEvNSEUAENvMBITvYEUQvKPARAQwAA",
    "vSEUXvNDIDAvTAASHAEvNJUEQvTITA YUEvSUAETvNGGUAEN NYAMvVEUXvNANSANAQvMA KEUAERIvNTAAwGGUONvLAP",
    "vMBIRIEENwGBASAQvNTEUNGBAvTEUTEUXvNGGUMvFUEvNDEUTwSAxHAQvBUNGvVEUAEPENvMBERAEvRUvNJAEMvLAM",
    "vTITUAEPvNSUOT NGOMwJEEEEvKETvNGGUvMAESIwBUAEMvLUvKUTvNJAMwGOMvWUPvNGGUEETwSOMwTEN",
    "vKUOP NKAARAEvNSUNwDAMvMA NSIEEvYAAvNDAPvSHUEQwETFONvMBIwAEMBAwBANYIvKEUSEUXvMBEUXvKEUM",
    "vMBAA PICKETvYUWOQvNJEUXvMIEEwUAEvSHIQvKEN LAWzaFATIGUEvNGAQwAQvLIQvPINwENvTETtD MBUOvWAPvNJI",
    "vMFONvNJIEEvLIEEvNJEUTwSHEEwGGAAMAEwYAMvWUAENvNGKUNvSHEEvNGKAPvKEUAETMEUNvTEUTvSHEUAEvNJAP",
    "vSUEvKETvYAEMMAEvKUOMvSAPvMFEUTvNDEUXvMALEERIwEUTvSEUAEQvYENvNJEUAEMvKEUOT MBUAEvNGKEURIvTU",
    "vGHAAvNGKYEEvFEUFEUAETvNDEEvMGBOFUMvLEUAEPvNDONvMONIwGBEUNvPUUTvMGBIEEwFOvLUMvNSIEEPvMBAA",
    "vKWAETvNYETvTEUAENvSOTvYUWOQvKEUMvRAEMvTEEEEvNGKEUAEQvMFEUAEvNSIEETvKEUPvPIPwEUTAEvNYUEvLET",
    "vNGGAAMvMFIEEvNGGWAENvYUOMvPAPvYUOPvNDAMwTEUMvSUAEvKUNvNGGEUXxKIEEvTUOTvMEUNvKUQvNSUMvTEUN",
    "vMAENJETvNGGAPvLEUMvNGGUOMwSHUTwJUEQvGHEUAEvKUvREN OLDvTAEwOQvNYIvRIIvLEEEEvMEEEEwvSUUvMU",
    "vSHIIxEUXvKYEEvNUvSHUvNTEEvPEEvNIvSHOQvPUQvMVOPvLOQvREN MUCHvTIvNTUUvMBAA SEVENvSAQvFAA",
    "tE NDAPvTOONvMBEUMvLAPvVOMvLOONvPAAvSOMvRAQvNSHUOPwDUNvPUAEvTAMvNGKAvKPEUXvWUOvSEEvNGGEUAET",
    "vPAAMvTOOvKUOPvLOMvNSHIEEwGOPvMAEMvNGKEUXxOQwSHUEvRIMGBAvNJEUXvPEEMvSAAvNGGURAEvMGBAvGHEUX",
    "vNGKEUAEMwJAEMLIvMAPvLOOTvNGGEEEEwDIQvTAEN NTEUMvSETvPUMvNDAA SOFTNESSwGGUAESHAE NYAMvYIEE",
    "vGHEUNvTUAEvYEUAEvPOvTUMAEvKEUAEvSUAENvTEUAEQvVEUAEvWEUXvLAAMvPUvTAAQvGHAAMAEvNGEUREUT",
    "vSHEUAEQvMGBENwBEEvNZAQwKOMvGBETvTUMvKUETvYAPvNYI CLEAVERvYITvMFEUQvNDIAQvPIEEQvYUEQvLEUAEM",
    "vFUEvGBEUXvNGKUPvKETvMAEvNGKAAMIvGHETvFAvNTUMvPEUTvYEUMvNGGEUAEwYI BETWEENwZUQvPOONvMIEEvFUET",
    "vNAEvMUAEvGHEUAEvFU IvMVIvPUAQvNGKUMvKUTvPIETvNTAPvYEUAETvNGGUPvPA PEOPLEvFU CALLwOMvNJEEvA",
    "vTOQvOvIvLAQvPA PLURALvTAAxQvNDAA MY HOUSEvSHIQvYEUXvNGUAEvYUAENwOQ SWIMMINGzaCOVERwUQxNvKEUX",
    "vPEUXvNJEE EPOCHvPUEvWUEvFEEvVEEvLUvMIvREUXwAEvNGUAETxAvSHOyQvFU REMEDYvNAvPIvLOQvKOvMENwAxQ",
    "vTEUvKIvMONvTENvFAQvGHOMtF KAvUvKUvEEvREEvTAEvNYIvLAvRIIxEEvMEEEEvTAAvNDAAwJAEMvMvSUUwHIIwI",
    "wEUXvKYEEwETvNUAExwJUAEvYOQvSHUvYAvNSHAvPEUXvNTEEvWUEvPEEvRUvNIvREUXvKENvNGKWAENxGAvSHOvPUAE",
    "vFOMvWAvLIwOQvKOvMBENvRENvMAwOwBAAvTETvKPAvSAMBAvVUEQ@16A40aMRO LETTER TAlNGIlYOlMIMlBAlDAlA",
    "lPHIlKHAIlHAOlDAIlCHUlKEAAElOLlMAEMlNINlPAlOOmlROlSHIlTHEAlEAlWAlElKOlLANnlHAIlRIlTEK",
    "@16A60eDIGIT ZEROkONEkTWOlHREEkFOURlIVEkSIXlEVENkEIGHTkNINE@16A6EfANDAfOUBLE DANDA",
    "aTANGSA LETTER OZpCpQpXoAZpCpQpXoVZpCpQpXoEZpCpQpXoIZpCpQpXoUZpCpQpXoAWZqCqQqXoUIZqCqQqX",
    "oFINAL NGoLONG UEXoSHORT UEZuAWXoUECqZqQqXpIUZrCrQrXoMZpCpQpXoKApHAoGAoNGAoSAoYAoWAoPAoNYA",
    "oPHAoBAoMAoNAoHAoLAoHTAoTAoDAoRAoNHAoSHAoCAoTSAoGHAoHTTAoTHAoXAoFAoDHAoCHAoZA",
    "@16AC0hDIGIT ZEROnONEnTWOoHREEnFOURoIVEnSIXoEVENnEIGHTnNINE@16AD0aBASSA VAH LETTER ENNIrKArSE",
    "rFArMBErYIErGAHrDHIIrKPAHrJOrHWAHrWArZOrGBUrDOrCErUWUrTOrBArVUrYEINrPArWADDArArOsOrUrEEsrI",
    "@16AF0kCOMBINING HIGH TONEuLOW TONEuMID TONEuLOW-MID TONEuHIGH-LOW TONEkFULL STOP",
    "@16B00aPAHAWH HMONG VOWEL KEEBwVuIBvVuAUBwVuUBvVuEBvVuAIBwVuOOBwVuAWBwVuUABwVuOBvVuIABwVuABvV",
    "uWBvVuAABwVnCONSONANT VAUxNTSAUxLAUxHAUxNLAUxRAUxNKAUxQHAUxYAUxHLAUxMAUxCHAUxNCHAUxHNAUxPLHAU",
    "xNTHAUyAUxAUxXAUxCAUnMARK CIM TUBwSOwKESxHAVwSUAMwHOMwTAUMnSIGN VOS THOMxSHAB CEEBsCIM CHEEM",
    "sVOS THIABwFEEMsXYEEM NTXIVyRHOyTOVyFAIBsVOS SEEVsMEEJ SUABsVOS NRUAsIB YAMsXAUSsCIM TSOV ROG",
    "@16B50nDIGIT ZEROtONEtTWOuHREEtFOURuIVEtSIXuEVENtEIGHTtNINE@16B5BnNUMBER TENSuHUNDREDS",
    "uTEN THOUSANDSuMILLIONSuHUNDRED MILLIONSuTEN BILLIONSvRILLIONS@16B63nSIGN VOS LUBsXYOOsHLI",
    "sTHIRD-STAGE HLIsZWJ THAJsHNUBsNQIGsXIABsNTUJsAVsTXHEEJ CEEVsMEEJ TSEEBsTAUsLOSsMUS",
    "sCIM HAIS LUS NTOG NTOGwCUAM TSHOOJwTXWVzb CHWVwPUB DAWBwNRES TOS@16B7DnCLAN SIGN TSHEEJxYEEG",
    "xLISyAUJxXYOOJxKOOxHAWJxMUASxTHOJySABxPHABxKHABxHAMxVAJxFAJxYAJxTSWBxKWMxVWJ",
    "@16E40aMEDEFAIDRIN CAPITAL LETTER MzcSzcVzcWzcATIUzcZzcKPzcPzcTzcGzcFzcIzcKzcAzcJzcEzcBzcCzcU",
    "zcYUzcLzcQzcHPzcNYzcXzcDzcOEzcNzcRzcOzcAIzcYmSMALL LETTER MzaSzaVzaWzaATIUzaZzaKPzaPzaTzaGzaF",
    "zaIzaKzaAzaJzaEzaBzaCzaUzaYUzaLzaQzaHPzaNYzaXzaDzaOEzaNzaRzaOzaAIzaYmDIGIT ZEROsONEsTWOtHREE",
    "sFOURtIVEsSIXtEVENsEIGHTsNINEmNUMBER TENtELEVENtTWELVEuHIRTEENtFOURTEENuIFTEENtSIXTEEN",
    "uEVENTEENtEIGHTEENtNINETEENmDIGIT ONE ALTERNATE FORMsTWO ALTERNATE FORMtHREE ALTERNATE FORM",
    "mCOMMAmFULL STOPmSYMBOL AIVAmEXCLAMATION OH@16F00bIAO LETTER PAmBAmYI PAmPLAmMAnHAmARCHAIC MA",
    "mFAmVAnFAmTAmDAmYI TTAqAmTTAmDDAmNAnHAmYI NNAmARCHAIC NAmNNAoHAmLAnYAnHAoYAmTLHAmDLHAmTLHYA",
    "mDLHYAmKAmGAmYI KAmQAnGAmNGAoHAmARCHAIC NGAmHAmXAmGHAoHAmTSSAmDZZAmNYAoHAmTSHAmDZHAmYI TSHA",
    "pDZHAmREFORMED TSHAmSHAnSAmZHAnSHAmTSAmDZAmYI TSAmSAmZAnSAnZAoSAmARCHAIC ZZAmZZYAoSYAmWAmAH",
    "mHHAmBRImSYImDZYImTEnSEmRTE@16F4FfSIGN CONSONANT MODIFIER BARfLETTER NASALIZATION",
    "fSIGN ASPIRATIONkREFORMED VOICINGtASPIRATIONfVOWEL SIGN ArArHHrNsGqOrOqWOrqErNsGqOEYqIrAsNtG",
    "rOrErIrUrNGqUrAsNtGrUrEIrNGqYrIqAEsEqERRqROUNDED ERRqERqROUNDED ERqAIqEIqAUqOUqNrGqUOGqYUIqOG",
    "rERqVWqIGqEAqIONGqUI@16F8FfTONE RIGHTkTOP RIGHTkABOVEkBELOWfLETTER TONE-2r3r4r5r6r7r8",
    "mREFORMED TONE-1zb2zb4zb5zb6zb8@16FE0aTANGUT ITERATION MARKaNUSHU ITERATION MARK",
    "aOLD CHINESE HOOK MARKmITERATION MARKaKHITAN SMALL SCRIPT FILLER",
    "@16FF0aVIETNAMESE ALTERNATE READING MARK CAzjNHAY@18800aTANGUT COMPONENT-001t2t3t4t5t6t7t8t9",
    "s10t1t2t3t4t5t6t7t8t9s20t1t2t3t4t5t6t7t8t9s30t1t2t3t4t5t6t7t8t9s40t1t2t3t4t5t6t7t8t9s50t1t2t3",
    "t4t5t6t7t8t9s60t1t2t3t4t5t6t7t8t9s70t1t2t3t4t5t6t7t8t9s80t1t2t3t4t5t6t7t8t9s90t1t2t3t4t5t6t7",
    "t8t9r100t1t2t3t4t5t6t7t8t9s10t1t2t3t4t5t6t7t8t9s20t1t2t3t4t5t6t7t8t9s30t1t2t3t4t5t6t7t8t9s40",
    "t1t2t3t4t5t6t7t8t9s50t1t2t3t4t5t6t7t8t9s60t1t2t3t4t5t6t7t8t9s70t1t2t3t4t5t6t7t8t9s80t1t2t3t4",
    "t5t6t7t8t9s90t1t2t3t4t5t6t7t8t9r200t1t2t3t4t5t6t7t8t9s10t1t2t3t4t5t6t7t8t9s20t1t2t3t4t5t6t7t8",
    "t9s30t1t2t3t4t5t6t7t8t9s40t1t2t3t4t5t6t7t8t9s50t1t2t3t4t5t6t7t8t9s60t1t2t3t4t5t6t7t8t9s70t1t2",
    "t3t4t5t6t7t8t9s80t1t2t3t4t5t6t7t8t9s90t1t2t3t4t5t6t7t8t9r300t1t2t3t4t5t6t7t8t9s10t1t2t3t4t5t6",
    "t7t8t9s20t1t2t3t4t5t6t7t8t9s30t1t2t3t4t5t6t7t8t9s40t1t2t3t4t5t6t7t8t9s50t1t2t3t4t5t6t7t8t9s60",
    "t1t2t3t4t5t6t7t8t9s70t1t2t3t4t5t6t7t8t9s80t1t2t3t4t5t6t7t8t9s90t1t2t3t4t5t6t7t8t9r400t1t2t3t4",
    "t5t6t7t8t9s10t1t2t3t4t5t6t7t8t9s20t1t2t3t4t5t6t7t8t9s30t1t2t3t4t5t6t7t8t9s40t1t2t3t4t5t6t7t8",
    "t9s50t1t2t3t4t5t6t7t8t9s60t1t2t3t4t5t6t7t8t9s70t1t2t3t4t5t6t7t8t9s80t1t2t3t4t5t6t7t8t9s90t1t2",
    "t3t4t5t6t7t8t9r500t1t2t3t4t5t6t7t8t9s10t1t2t3t4t5t6t7t8t9s20t1t2t3t4t5t6t7t8t9s30t1t2t3t4t5t6",
    "t7t8t9s40t1t2t3t4t5t6t7t8t9s50t1t2t3t4t5t6t7t8t9s60t1t2t3t4t5t6t7t8t9s70t1t2t3t4t5t6t7t8t9s80",
    "t1t2t3t4t5t6t7t8t9s90t1t2t3t4t5t6t7t8t9r600t1t2t3t4t5t6t7t8t9s10t1t2t3t4t5t6t7t8t9s20t1t2t3t4",
    "t5t6t7t8t9s30t1t2t3t4t5t6t7t8t9s40t1t2t3t4t5t6t7t8t9s50t1t2t3t4t5t6t7t8t9s60t1t2t3t4t5t6t7t8",
    "t9s70t1t2t3t4t5t6t7t8t9s80t1t2t3t4t5t6t7t8t9s90t1t2t3t4t5t6t7t8t9r700t1t2t3t4t5t6t7t8t9s10t1",
    "t2t3t4t5t6t7t8t9s20t1t2t3t4t5t6t7t8t9s30t1t2t3t4t5t6t7t8t9s40t1t2t3t4t5t6t7t8t9s50t1t2t3t4t5",
    "t6t7t8t9s60t1t2t3t4t5t6t7t8@1AFF0aKATAKANA LETTER MINNAN TONE-2zd3zd4zd5@1AFF5zd7zd8",
    "xNASALIZED TONE-1zn2zn3zn4zn5@1AFFDzn7zn8@1B000qARCHAIC EaHIRAGANA LETTER ARCHAIC YE",
    "bENTAIGANA LETTER A-1u2u3uWOsI-1u2u3u4sU-1u2u3u4u5sE-2u3u4u5u6sO-1u2u3sKA-1v2v3v4v5v6v7v8v9",
    "v10w1vKEtI-1v2v3v4v5v6v7v8tU-1v2v3v4v5v6v7tE-1v2v3v4v5v6tO-1v2v3vKIsSA-1v2v3v4v5v6v7v8tI-1v2",
    "v3v4v5v6tU-1v2v3v4v5v6v7v8tE-1v2v3v4v5tO-1v2v3v4v5v6v7sTA-1v2v3v4tI-1v2v3v4v5v6v7tU-1v2v3v4",
    "vTOtE-1v2v3v4v5v6v7v8v9tO-1v2v3v4v5v6vRAsNA-1v2v3v4v5v6v7v8v9tI-1v2v3v4v5v6v7vTEtU-1v2v3tE-1",
    "v2v3v4v5v6vKOtO-1v2v3v4v5sHA-1v2v3v4v5v6v7v8v9v10w1tI-1v2v3v4v5v6v7tU-1v2v3tE-1v2v3v4v5v6v7",
    "tO-1v2v3v4v5v6v7v8sMA-1v2v3v4v5v6v7tI-1v2v3v4v5v6v7tU-1v2v3v4tE-1v2vMAtO-1v2v3v4v5v6sYA-1v2v3",
    "v4v5vYOtU-1v2v3v4tO-1v2v3v4v5v6sRA-1v2v3v4tI-1v2v3v4v5v6v7tU-1v2v3v4v5v6tE-1v2v3v4tO-1v2v3v4",
    "v5v6sWA-1v2v3v4v5tI-1v2v3v4v5tE-1v2v3v4tO-1v2v3v4v5v6v7sN-MU-MO-1zb2",
    "bIRAGANA LETTER ARCHAIC WUaKATAKANA LETTER ARCHAIC YIzaEyWU@1B150aHIRAGANA LETTER SMALL WIxE",
    "xO@1B164aKATAKANA LETTER SMALL WIxExOwN@1BC00aDUPLOYAN LETTER HqXqPqTqFqKqLqBqDqVqGqRqP NqD S",
    "qF NqK MqR SqTHqSLOAN DHqDHqKKqSLOAN JqHLqLHqRHqMqNqJqSqM NqN MqJ MqS JqM WITH DOTqN WITH DOT",
    "qJ WITH DOTzbS INSIDE AND ABOVEqS WITH DOTzb BELOWqM SqN SqJ SqS SqM N SqN M SqJ M SqS J S",
    "qJ S WITH DOTsNt SqS Tt RsPt RqT SsR SqWrHr RqS NsMqK R SqG R SqS Kt RqAqSLOAN OWqOArqAOUqIqE",
    "qIEqSHORT IqUIqEEqSLOAN EHqROMANIAN IqSLOAN EEqLONG IqYEqUqEUqXWqU NqLONG UqROMANIAN UqUH",
    "qSLOAN UqOOHrWrUqWArOrIrEIrOWqNASAL UwOwIwAqPERNIN ANyMqSLOAN ENwANwONqVOCALIC M",
    "@1BC70jAFFIX LEFT HORIZONTAL SECANTpMID HORIZONTAL SECANTpRIGHT HORIZONTAL SECANT",
    "pLOW VERTICAL SECANTpMID VERTICAL SECANTpHIGH VERTICAL SECANTpATTACHED SECANT",
    "yLEFT-TO-RIGHT SECANTyTANGENTzbILyE HOOKyI HOOKyTANGENT HOOK@1BC80pHIGH ACUTEuTIGHT ACUTE",
    "uGRAVEuLONG GRAVEuDOTuCIRCLEuLINEuWAVEuVERTICAL@1BC90pLOW ACUTEtTIGHT ACUTEtGRAVEtLONG GRAVE",
    "tDOTtCIRCLEtLINEtWAVEtVERTICALtARROW@1BC9CjSIGN O WITH CROSSjTHICK LETTER SELECTOR",
    "jDOUBLE MARKjPUNCTUATION CHINOOK FULL STOPaSHORTHAND FORMAT LETTER OVERLAPrCONTINUING OVERLAP",
    "rDOWN STEPrUP STEP@1CF00aZNAMENNY COMBINING MARK GORAZDO NIZKO S KRYZHEM ON LEFT",
    "yNIZKO S KRYZHEM ON LEFTyTSATA ON LEFTyGORAZDO NIZKO ON LEFTyNIZKO ON LEFTySREDNE ON LEFT",
    "yMALO POVYSHE ON LEFTyPOVYSHE ON LEFTyVYSOKO ON LEFTyMALO POVYSHE S KHOKHLOM ON LEFT",
    "yPOVYSHE S KHOKHLOM ON LEFTyVYSOKO S KHOKHLOM ON LEFTyGORAZDO NIZKO S KRYZHEM ON RIGHT",
    "yNIZKO S KRYZHEM ON RIGHTyTSATA ON RIGHTyGORAZDO NIZKO ON RIGHTyNIZKO ON RIGHT",
    "ySREDNE ON RIGHTyMALO POVYSHE ON RIGHTyPOVYSHE ON RIGHTyVYSOKO ON RIGHT",
    "yMALO POVYSHE S KHOKHLOM ON RIGHTyPOVYSHE S KHOKHLOM ON RIGHTyVYSOKO S KHOKHLOM ON RIGHT",
    "yTSATA S KRYZHEMyMALO POVYSHE S KRYZHEMySTRANNO MALO POVYSHEyPOVYSHE S KRYZHEMziTRANNO",
    "yVYSOKO S KRYZHEMyMALO POVYSHE STRANNOyGORAZDO VYSOKOyZELOyONyRAVNOyTIKHAYAyBORZAYAyUDARKA",
    "yPODVERTKAyLOMKAyKUPNAYAzaACHKAyZEVOKySKOBAyRAZSEKAyKRYZH ON LEFT",
    "@1CF30tTONAL RANGE MARK MRACHNOzlSVETLOzlTRESVETLOtMARK ZADERZHKAyDEMESTVENNY ZADERZHKA",
    "yOTSECHKAyPODCHASHIEzj WITH VERTICAL STROKEyCHASHKAzg POLNAYAyOBLACHKOySOROCHYA NOZHKAyTOCHKA",
    "yDVOETOCHIEtATTACHING VERTICAL OMETtMARK CURVED OMETyKRYZHtLOWER TONAL RANGE INDICATOR",
    "jPRIZNAK MODIFIER LEVEL-2zh3zbDIRECTION FLIPzbKRYZHzbROG@1CF50jNEUME KRYUKu TIKHYpPARAKLIT",
    "pDVA V CHELNUpKLYUCHpZANOZHEKpSTOPITSAx S OCHKOMpPEREVODKAy NEPOSTOYANNAYA",
    "pSTOPITSA WITH SOROCHYA NOZHKApCHELYUSTKApPALKApZAPYATAYApGOLUBCHIK BORZYzaTIKHYzaMRACHNY",
    "zaSVETLYzaTRESVETLYpVRAKHIYA PROSTAYAyMRACHNAYAySVETLAYAyTRESVETLAYAyKLYUCHEVAYA PROSTAYA",
    "zlMRACHNAYAzlSVETLAYAzlTRESVETLAYApDOUBLE ZAPYATAYApREVERSED CHELYUSTKApDERBITSApKHAMILO",
    "pCHASHKApPODCHASHIEpSKAMEYTSA MRACHNAYAzaSVETLAYAzaTRESVETLAYAzbIKHAYApDEMESTVENNY KLYUCH",
    "pSKAMEYTSA KLYUCHEVAYA SVETLAYAzhNEPOSTOYANNAYAzhVAYA TIKHAYAzaDVOECHELNAYA PROSTAYA",
    "znSVETLAYAznNEPOSTOYANNAYAznKLYUCHEVAYAqLOZHITIEy S ZAPYATOYzaZAKRYTOEzaS KRYZHEMpKRYZHpROG",
    "pFITApKOBYLApZMEYTSApSTATYAv S ZAPYATOYyKRYZHEMyZAPYATOY I KRYZHEMyKRYZHEM I ZAPYATOY",
    "wZAKRYTAYAzg S ZAPYATOYwS ROGOMyDVUMYA ZAPYATYMIyZAPYATOY I PODCHASHIEMpPOLKULIZMY",
    "pSTATYA NEPOSTOYANNAYArRELA PROSTAYAwMRACHNOTIKHAYAwKRYZHEVAYAwPOLUPOVODNAYAyVODNAYA",
    "wNEPOSTOYANNAYAwKLYUCHEPOVODNAYAzeNEPOSTOYANNAYAwTIKHAYA PUTNAYAwDVOECHELNAYAzgOKRYZHEVAYA",
    "zhPOVODNAYAzgAYA KLYUCHEVAYAzgOPOVODNAYA KLYUCHEVAYAwGROMNAYA WITH SINGLE ZAPYATAYA",
    "zbOPOVODNAYA WITH SINGLE ZAPYATAYAzbNAYAzbOPOVODNAYAzl WITH DOUBLE ZAPYATAYAzcKRYZHEVAYA",
    "zm POVODNAYApMECHIKv POVODNYwKLYUCHEVOYzePOVODNYzeNEPOSTOYANNYpSTRELA TRYASOGLASNAYA",
    "zdPOVODNAYAzdSTRELNAYApOSOKAu SVETLAYAvTRESVETLAYAvKRYUKOVAYA SVETLAYAwLYUCHEVAYA SVETLAYA",
    "ziNEPOSTOYANNAYApSTRELA KRYUKOVAYAzh POVODNAYAziGROMNAYA WITH SINGLE ZAPYATAYA",
    "zmOPOVODNAYA WITH SINGLE ZAPYATAYAzmNAYAzmOPOVODNAYAzw WITH DOUBLE ZAPYATAYAznKRYZHEVAYA",
    "zx POVODNAYAziTRYASKApKUFISMApOBLAKOpDUDApNEMKApPAUK"]

end CodeAtlas.Text
