/-!
# Names of music, mathematics and pictures

Every entry of the table belongs to the code point behind that of the entry before it, unless a code
point is given. Its small letters say how many characters it keeps of the name before it.
-/

namespace CodeAtlas.Text

/-- The names of U+1D000 to U+10FFFF. -/
def pictureNames : List String :=
  ["@1D000aBYZANTINE MUSICAL SYMBOL PSILIzaDASEIAzaPERISPOMENIzaOXEIA EKFONITIKONzgDIPLI",
    "zaVAREIA EKFONITIKONzhDIPLIzaKATHISTIzaSYRMATIKIzaPARAKLITIKIzaYPOKRISISzj DIPLIzaKREMASTI",
    "zaAPESO EKFONITIKONzaEXO EKFONITIKONzaTELEIAzaKENTIMATAzaAPOSTROFOSzk DIPLIzaSYNEVMAzaTHITA",
    "zaOLIGON ARCHAIONzaGORGON ARCHAIONzaPSILONzaCHAMILONzaVATHYzaISON ARCHAIONzaKENTIMA ARCHAION",
    "zhTA ARCHAIONzaSAXIMATAzaPARICHONzaSTAVROS APODEXIAzaOXEIAI ARCHAIONzaVAREIAI ARCHAION",
    "zaAPODERMA ARCHAIONzdTHEMAzaKLASMAzaREVMAzaPIASMA ARCHAIONzaTINAGMAzaANATRICHISMAzaSEISMA",
    "zbYNAGMA ARCHAIONziMETA STAVROUzaOYRANISMA ARCHAIONzaTHEMAzaLEMOIzaDYOzaTRIAzbESSERA",
    "zaKRATIMATAzaAPESO EXO NEOzaFTHORA ARCHAIONzaIMIFTHORAzaTROMIKON ARCHAIONzaKATAVA TROMIKON",
    "zaPELASTONzbSIFISTONzaKONTEVMAzaCHOREVMA ARCHAIONzaRAPISMAzaPARAKALESMA ARCHAION",
    "zfLITIKI ARCHAIONzaICHADINzaNANAzaPETASMAzaKONTEVMA ALLOzaTROMIKON ALLOzaSTRAGGISMATA",
    "zaGRONTHISMATAzaISON NEOzaOLIGON NEOzbXEIA NEOzaPETASTIzaKOUFISMAzaPETASTOKOUFISMA",
    "zaKRATIMOKOUFISMAzaPELASTON NEOzaKENTIMATA NEO ANOzh NEO ANOzaYPSILIzaAPOSTROFOS NEO",
    "zjI SYNDESMOS NEOzaYPORROIzaKRATIMOYPORROONzaELAFRONzaCHAMILIzaMIKRON ISONzaVAREIA NEO",
    "zaPIASMA NEOzbSIFISTON NEOzaOMALONzaANTIKENOMAzaLYGISMAzaPARAKLITIKI NEOzfALESMA NEO",
    "zaETERON PARAKALESMAzaKYLISMAzaANTIKENOKYLISMAzaTROMIKON NEOzaEKSTREPTONzaSYNAGMA NEOzcRMA",
    "zaCHOREVMA NEOzaEPEGERMAzaSEISMA NEOzaXIRON KLASMAzaTROMIKOPSIFISTONzaPSIFISTOLYGISMA",
    "zaTROMIKOLYGISMAzhPARAKALESMAzaPSIFISTOPARAKALESMAzaTROMIKOSYNAGMAzaPSIFISTOSYNAGMA",
    "zaGORGOSYNTHETONzaARGOSYNTHETONzaETERON ARGOSYNTHETONzaOYRANISMA NEOzaTHEMATISMOS ESOznXO",
    "zf APLOUNzdS KAI APOTHESzaKATAVASMAzaENDOFONONzaYFEN KATOzfANOzaSTAVROSzaKLASMA ANO",
    "zaDIPLI ARCHAIONzaKRATIMA ARCHAIONzjLLOziNEOzaAPODERMA NEOzcLIzaDIPLIzaTRIPLIzbETRAPLI",
    "zaKORONISzaLEIMMA ENOS CHRONOUzhDYO CHRONONzhTRION CHRONONziESSARON CHRONONzhIMISEOS CHRONOU",
    "zaGORGON NEO ANOzhPARESTIGMENON ARISTERAzvDEXIAzaDIGORGONzi PARESTIGMENON ARISTERA KATOzzhANO",
    "zxDEXIAzaTRIGORGONzaARGONzaIMIDIARGONzaDIARGONzaAGOGI POLI ARGIzgARGOTERIzjIzgMETRIAziSI",
    "zgGORGIzkOTERIzgPOLI GORGIzaMARTYRIA PROTOS ICHOSzjALLI PROTOS ICHOSzjDEYTEROS ICHOS",
    "zjALLI DEYTEROS ICHOSzjTRITOS ICHOSzmFONIASzkETARTOS ICHOSzsLEGETOS ICHOSzjLEGETOS ICHOS",
    "zjPLAGIOS ICHOSzaISAKIA TELOUS ICHIMATOSzaAPOSTROFOI TELOUS ICHIMATOSzaFANEROSIS TETRAFONIAS",
    "zkMONOFONIASzkDIFONIASzaMARTYRIA VARYS ICHOSzjPROTOVARYS ICHOSzkLAGIOS TETARTOS ICHOS",
    "zaGORTHMIKON N APLOUNznDIPLOUNzaENARXIS KAI FTHORA VOUzaIMIFONONzeTHORON",
    "zaFTHORA ARCHAION DEYTEROU ICHOUzhDIATONIKI PAzrNANAzhNAOS ICHOSzhDIATONIKI DI",
    "zhSKLIRON DIATONON DIzhDIATONIKI KEzrZOzrNI KATOzuANOzhMALAKON CHROMA DIFONIASzwMONOFONIAS",
    "zbHTORA SKLIRON CHROMA VASISzbTHORA SKLIRON CHROMA SYNAFIzhNENANOzaCHROA ZYGOSzgKLITON",
    "zgSPATHIzaFTHORA I YFESIS TETARTIMORIONzhENARMONIOS ANTIFONIAzaYFESIS TRITIMORION",
    "zaDIESIS TRITIMORIONziETARTIMORIONzhAPLI DYO DODEKATAzhMONOGRAMMOS TESSERA DODEKATA",
    "zhDIGRAMMOS EX DODEKATAzhTRIGRAMMOS OKTO DODEKATAzaYFESIS APLI DYO DODEKATA",
    "zhMONOGRAMMOS TESSERA DODEKATAzhDIGRAMMOS EX DODEKATAzhTRIGRAMMOS OKTO DODEKATA",
    "zaGENIKI DIESISzhYFESISzaDIASTOLI APLI MIKRIzpEGALIzjDIPLIzjTHESEOSzaSIMANSIS THESEOS",
    "zq DISIMOUzrTRISIMOUzsETRASIMOUzjARSEOSzp DISIMOUzqTRISIMOUzrETRASIMOUzaDIGRAMMA GG",
    "zcFTOGGOS OUzaSTIGMAzaARKTIKO PAziVOUziGAziDIziKEziZOziNIzaKENTIMATA NEO MESOzh NEO MESO",
    "zhTA NEO KATOzh NEO KATOzbLASMA KATOzaGORGON NEO KATO@1D100aMUSICAL SYMBOL SINGLE BARLINE",
    "pDOUBLE BARLINEpFINAL BARLINEpREVERSE FINAL BARLINEpDASHED BARLINEpSHORT BARLINE",
    "pLEFT REPEAT SIGNpRIGHT REPEAT SIGNqEPEAT DOTSpDAL SEGNOr CAPOpSEGNOpCODApREPEATED FIGURE-1",
    "zg2zg3pFERMATAw BELOWpBREATH MARKpCAESURApBRACEtKETpONE-LINE STAFFpTWO-LINE STAFF",
    "qHREE-LINE STAFFpFOUR-LINE STAFFqIVE-LINE STAFFpSIX-LINE STAFFtSTRING FRETBOARD",
    "pFOUR-STRING FRETBOARDpG CLEFv OTTAVA ALTAzeBASSApC CLEFpF CLEFv OTTAVA ALTAzeBASSA",
    "pDRUM CLEF-1za2@1D129pMULTIPLE MEASURE RESTpDOUBLE SHARPwFLATpFLAT UPuDOWNpNATURAL UPxDOWN",
    "pSHARP UPvDOWNpQUARTER TONE SHARPzdFLATpCOMMON TIMEqUT TIMEpOTTAVA ALTAwBASSA",
    "pQUINDICESIMA ALTAzdBASSApMULTI RESTpWHOLE RESTpHALF RESTpQUARTER RESTpEIGHTH REST",
    "pSIXTEENTH RESTpTHIRTY-SECOND RESTpSIXTY-FOURTH RESTpONE HUNDRED TWENTY-EIGHTH REST",
    "pX NOTEHEADpPLUS NOTEHEADpCIRCLE X NOTEHEADpSQUARE NOTEHEAD WHITEzgBLACK",
    "pTRIANGLE NOTEHEAD UP WHITEzlBLACKziLEFT WHITEznBLACKziRIGHT WHITEzoBLACKziDOWN WHITEznBLACK",
    "ziUP RIGHT WHITEzrBLACKpMOON NOTEHEAD WHITEzeBLACKpTRIANGLE-ROUND NOTEHEAD DOWN WHITEztBLACK",
    "pPARENTHESIS NOTEHEADpVOID NOTEHEADpNOTEHEAD BLACKqULL NOTEHEADpCLUSTER NOTEHEAD WHITEzhBLACK",
    "pBREVEpWHOLE NOTEpHALF NOTEpQUARTER NOTEpEIGHTH NOTEpSIXTEENTH NOTEpTHIRTY-SECOND NOTE",
    "pSIXTY-FOURTH NOTEpONE HUNDRED TWENTY-EIGHTH NOTEpCOMBINING STEMzbPRECHGESANG STEMzaTREMOLO-1",
    "zi2zi3pFINGERED TREMOLO-1zh2zh3pCOMBINING AUGMENTATION DOTzaFLAG-1zf2zf3zf4zf5pBEGIN BEAM",
    "pEND BEAMpBEGIN TIEpEND TIEpBEGIN SLURpEND SLURpBEGIN PHRASEpEND PHRASEpCOMBINING ACCENT",
    "zaSTACCATOzaTENUTOzaSTACCATISSIMOzaMARCATOzh-STACCATOzaACCENT-STACCATOzaLOUREpARPEGGIATO UP",
    "zbDOWNpCOMBINING DOITzaRIPzaFLIPzaSMEARzaBENDzaDOUBLE TONGUEzaTRIPLE TONGUEpRINFORZANDO",
    "pSUBITOpZpPIANOpMEZZOpFORTEpCRESCENDOpDECRESCENDOpGRACE NOTE SLASHzbNO SLASHpTRqURN",
    "pINVERTED TURNpTURN SLASHuUPpORNAMENT STROKE-1zg2zg3zg4zg5zg6zg7zg8zg9zg10zh1pHAUPTSTIMME",
    "pNEBENSTIMMEpEND OF STIMMEpDEGREE SLASHpCOMBINING DOWN BOWzaUP BOWzaHARMONICzaSNAP PIZZICATO",
    "pPEDAL MARKvUP MARKpHALF PEDAL MARKpGLISSANDO UPzaDOWNpWITH FINGERNAILSpDAMPt ALLpMAXIMA",
    "pLONGApBREVISpSEMIBREVIS WHITEzbBLACKpMINIMAv BLACKpSEMIMINIMA WHITEzbBLACKpFUSA WHITEuBLACK",
    "pLONGA PERFECTA RESTvIMPERFECTA RESTpBREVIS RESTpSEMIBREVIS RESTpMINIMA RESTpSEMIMINIMA REST",
    "pTEMPUS PERFECTUM CUM PROLATIONE PERFECTAzwIMPERFECTAzwPERFECTA DIMINUTION-1",
    "wIMPERFECTUM CUM PROLATIONE PERFECTAzyIMPERFECTAzzj DIMINUTION-1zzv2zzv3pCROIX",
    "pGREGORIAN C CLEFzaF CLEFpSQUARE BpVIRGApPODATUSpCLIVISpSCANDICUSpCLIMACUSpTORCULUSpPORRECTUS",
    "y FLEXUSpSCANDICUS FLEXUSpTORCULUS RESUPINUSpPES SUBPUNCTISpKIEVAN C CLEFwEND OF PIECE",
    "wFINAL NOTEwRECITATIVE MARKwWHOLE NOTEwHALF NOTEwQUARTER NOTE STEM DOWNzpUP",
    "wEIGHTH NOTE STEM DOWNzoUPwFLAT SIGNpSORIpKORON@1D200aGREEK VOCAL NOTATION SYMBOL-1zd2zd3zd4",
    "zd5zd6zd7zd8zd9zd10ze1ze2ze3ze4ze5ze6ze7ze8ze9zd20ze1ze2ze3ze4zd50ze1ze2ze3ze4",
    "gINSTRUMENTAL NOTATION SYMBOL-1zk2zk4zk5zk7zk8zk11zl2zl3zl4zl7zl8zl9zk23zl4zl5zl6zl7zl9zk30",
    "zl2zl6zl7zl8zl9zk40zl2zl3zl5zl7zl8zl9zk50zl1zl2zl3zl4aCOMBINING GREEK MUSICAL TRISEME",
    "zaETRASEMEyPENTASEMEaGREEK MUSICAL LEIMMA@1D2E0aMAYAN NUMERAL ZEROoONEoTWOpHREEoFOURpIVEoSIX",
    "pEVENoEIGHToNINEoTENoELEVENoTWELVEpHIRTEENoFOURTEENpIFTEENoSIXTEENpEVENTEENoEIGHTEENoNINETEEN",
    "@1D300bONOGRAM FOR EARTHaDIGRAM FOR HEAVENLY EARTHmUMAN EARTHlEARTHLY HEAVENuUMANq",
    "aTETRAGRAM FOR CENTREoFULL CIRCLEoMIREDoBARRIERoKEEPING SMALLoCONTRARIETYoASCENToOPPOSITION",
    "oBRANCHING OUToDEFECTIVENESS OR DISTORTIONpIVERGENCEoYOUTHFULNESSoINCREASEoPENETRATIONoREACH",
    "oCONTACToHOLDING BACKoWAITINGoFOLLOWINGoADVANCEoRELEASEqSISTANCEoEASEoJOYoCONTENTION",
    "oENDEAVOURoDUTIESoCHANGEoDECISIVENESSoBOLD RESOLUTIONoPACKINGoLEGIONoCLOSENESSoKINSHIP",
    "oGATHERINGoSTRENGTHoPURITYoFULLNESSoRESIDENCEoLAW OR MODELoRESPONSEoGOING TO MEEToENCOUNTERS",
    "oSTOVEoGREATNESSoENLARGEMENToPATTERNoRITUALoFLIGHToVASTNESS OR WASTINGoCONSTANCYoMEASURE",
    "oETERNITYoUNITYoDIMINISHMENToCLOSED MOUTHoGUARDEDNESSpATHERING INoMASSINGoACCUMULATION",
    "oEMBELLISHMENToDOUBToWATCHoSINKINGoINNERoDEPARTUREpARKENINGpIMMINGoEXHAUSTIONoSEVERANCE",
    "pTOPPAGEoHARDNESSoCOMPLETIONpLOSUREoFAILUREoAGGRAVATIONoCOMPLIANCEoON THE VERGEoDIFFICULTIES",
    "oLABOURINGoFOSTERING@1D360aCOUNTING ROD UNIT DIGIT ONEyTWOzaHREEyFOURzaIVEySIXzaEVENyEIGHT",
    "yNINEnTENS DIGIT ONEyTWOzaHREEyFOURzaIVEySIXzaEVENyEIGHTyNINEaIDEOGRAPHIC TALLY MARK ONExTWO",
    "yHREExFOURyIVEaTALLY MARK ONElFIVE@1D400aMATHEMATICAL BOLD CAPITAL AzbBzbCzbDzbEzbFzbGzbHzbI",
    "zbJzbKzbLzbMzbNzbOzbPzbQzbRzbSzbTzbUzbVzbWzbXzbYzbZsSMALL AyByCyDyEyFyGyHyIyJyKyLyMyNyOyPyQyR",
    "ySyTyUyVyWyXyYyZnITALIC CAPITAL AzdBzdCzdDzdEzdFzdGzdHzdIzdJzdKzdLzdMzdNzdOzdPzdQzdRzdSzdTzdU",
    "zdVzdWzdXzdYzdZuSMALL AzbBzbCzbDzbEzbFzbG@1D456zbIzbJzbKzbLzbMzbNzbOzbPzbQzbRzbSzbTzbUzbVzbW",
    "zbXzbYzbZnBOLD ITALIC CAPITAL AziBziCziDziEziFziGziHziIziJziKziLziMziNziOziPziQziRziSziTziU",
    "ziVziWziXziYziZzaSMALL AzgBzgCzgDzgEzgFzgGzgHzgIzgJzgKzgLzgMzgNzgOzgPzgQzgRzgSzgTzgUzgVzgWzgX",
    "zgYzgZnSCRIPT CAPITAL A@1D49EzdCzdD@1D4A2zdG@1D4A5zdJzdK@1D4A9zdNzdOzdPzdQ@1D4AEzdSzdTzdUzdV",
    "zdWzdXzdYzdZuSMALL AzbBzbCzbD@1D4BBzbF@1D4BDzbHzbIzbJzbKzbLzbMzbN@1D4C5zbPzbQzbRzbSzbTzbUzbV",
    "zbWzbXzbYzbZnBOLD SCRIPT CAPITAL AziBziCziDziEziFziGziHziIziJziKziLziMziNziOziPziQziRziSziT",
    "ziUziVziWziXziYziZzaSMALL AzgBzgCzgDzgEzgFzgGzgHzgIzgJzgKzgLzgMzgNzgOzgPzgQzgRzgSzgTzgUzgVzgW",
    "zgXzgYzgZnFRAKTUR CAPITAL AzeB@1D507zeDzeEzeFzeG@1D50DzeJzeKzeLzeMzeNzeOzePzeQ@1D516zeSzeTzeU",
    "zeVzeWzeXzeY@1D51EvSMALL AzcBzcCzcDzcEzcFzcGzcHzcIzcJzcKzcLzcMzcNzcOzcPzcQzcRzcSzcTzcUzcVzcW",
    "zcXzcYzcZnDOUBLE-STRUCK CAPITAL AzkB@1D53BzkDzkEzkFzkG@1D540zkIzkJzkKzkLzkM@1D546zkO@1D54AzkS",
    "zkTzkUzkVzkWzkXzkY@1D552zcSMALL AziBziCziDziEziFziGziHziIziJziKziLziMziNziOziPziQziRziSziTziU",
    "ziVziWziXziYziZnBOLD FRAKTUR CAPITAL AzjBzjCzjDzjEzjFzjGzjHzjIzjJzjKzjLzjMzjNzjOzjPzjQzjRzjS",
    "zjTzjUzjVzjWzjXzjYzjZzbSMALL AzhBzhCzhDzhEzhFzhGzhHzhIzhJzhKzhLzhMzhNzhOzhPzhQzhRzhSzhTzhUzhV",
    "zhWzhXzhYzhZnSANS-SERIF CAPITAL AzhBzhCzhDzhEzhFzhGzhHzhIzhJzhKzhLzhMzhNzhOzhPzhQzhRzhSzhTzhU",
    "zhVzhWzhXzhYzhZySMALL AzfBzfCzfDzfEzfFzfGzfHzfIzfJzfKzfLzfMzfNzfOzfPzfQzfRzfSzfTzfUzfVzfWzfX",
    "zfYzfZyBOLD CAPITAL AzmBzmCzmDzmEzmFzmGzmHzmIzmJzmKzmLzmMzmNzmOzmPzmQzmRzmSzmTzmUzmVzmWzmXzmY",
    "zmZzeSMALL AzkBzkCzkDzkEzkFzkGzkHzkIzkJzkKzkLzkMzkNzkOzkPzkQzkRzkSzkTzkUzkVzkWzkXzkYzkZ",
    "yITALIC CAPITAL AzoBzoCzoDzoEzoFzoGzoHzoIzoJzoKzoLzoMzoNzoOzoPzoQzoRzoSzoTzoUzoVzoWzoXzoYzoZ",
    "zgSMALL AzmBzmCzmDzmEzmFzmGzmHzmIzmJzmKzmLzmMzmNzmOzmPzmQzmRzmSzmTzmUzmVzmWzmXzmYzmZ",
    "yBOLD ITALIC CAPITAL AztBztCztDztEztFztGztHztIztJztKztLztMztNztOztPztQztRztSztTztUztVztWztX",
    "ztYztZzlSMALL AzrBzrCzrDzrEzrFzrGzrHzrIzrJzrKzrLzrMzrNzrOzrPzrQzrRzrSzrTzrUzrVzrWzrXzrYzrZ",
    "nMONOSPACE CAPITAL AzgBzgCzgDzgEzgFzgGzgHzgIzgJzgKzgLzgMzgNzgOzgPzgQzgRzgSzgTzgUzgVzgWzgXzgY",
    "zgZxSMALL AzeBzeCzeDzeEzeFzeGzeHzeIzeJzeKzeLzeMzeNzeOzePzeQzeRzeSzeTzeUzeVzeWzeXzeYzeZ",
    "nITALIC SMALL DOTLESS IzjJ@1D6A8nBOLD CAPITAL ALPHAzbBETAzbGAMMAzbDELTAzbEPSILONzbZETAzbETA",
    "zbTHETAzbIOTAzbKAPPAzbLAMDAzbMUzbNUzbXIzbOMICRONzbPIzbRHOzbTHETA SYMBOLzbSIGMAzbTAUzbUPSILON",
    "zbPHIzbCHIzbPSIzbOMEGAsNABLAsSMALL ALPHAyBETAyGAMMAyDELTAyEPSILONyZETAyETAyTHETAyIOTAyKAPPA",
    "yLAMDAyMUyNUyXIyOMICRONyPIyRHOyFINAL SIGMAySIGMAyTAUyUPSILONyPHIyCHIyPSIyOMEGA",
    "sPARTIAL DIFFERENTIALsEPSILON SYMBOLsTHETA SYMBOLsKAPPA SYMBOLsPHI SYMBOLsRHO SYMBOL",
    "sPI SYMBOLnITALIC CAPITAL ALPHAzdBETAzdGAMMAzdDELTAzdEPSILONzdZETAzdETAzdTHETAzdIOTAzdKAPPA",
    "zdLAMDAzdMUzdNUzdXIzdOMICRONzdPIzdRHOzdTHETA SYMBOLzdSIGMAzdTAUzdUPSILONzdPHIzdCHIzdPSI",
    "zdOMEGAuNABLAuSMALL ALPHAzbBETAzbGAMMAzbDELTAzbEPSILONzbZETAzbETAzbTHETAzbIOTAzbKAPPAzbLAMDA",
    "zbMUzbNUzbXIzbOMICRONzbPIzbRHOzbFINAL SIGMAzbSIGMAzbTAUzbUPSILONzbPHIzbCHIzbPSIzbOMEGA",
    "uPARTIAL DIFFERENTIALuEPSILON SYMBOLuTHETA SYMBOLuKAPPA SYMBOLuPHI SYMBOLuRHO SYMBOL",
    "uPI SYMBOLnBOLD ITALIC CAPITAL ALPHAziBETAziGAMMAziDELTAziEPSILONziZETAziETAziTHETAziIOTA",
    "ziKAPPAziLAMDAziMUziNUziXIziOMICRONziPIziRHOziTHETA SYMBOLziSIGMAziTAUziUPSILONziPHIziCHI",
    "ziPSIziOMEGAzaNABLAzaSMALL ALPHAzgBETAzgGAMMAzgDELTAzgEPSILONzgZETAzgETAzgTHETAzgIOTAzgKAPPA",
    "zgLAMDAzgMUzgNUzgXIzgOMICRONzgPIzgRHOzgFINAL SIGMAzgSIGMAzgTAUzgUPSILONzgPHIzgCHIzgPSIzgOMEGA",
    "zaPARTIAL DIFFERENTIALzaEPSILON SYMBOLzaTHETA SYMBOLzaKAPPA SYMBOLzaPHI SYMBOLzaRHO SYMBOL",
    "zaPI SYMBOLnSANS-SERIF BOLD CAPITAL ALPHAzmBETAzmGAMMAzmDELTAzmEPSILONzmZETAzmETAzmTHETA",
    "zmIOTAzmKAPPAzmLAMDAzmMUzmNUzmXIzmOMICRONzmPIzmRHOzmTHETA SYMBOLzmSIGMAzmTAUzmUPSILONzmPHI",
    "zmCHIzmPSIzmOMEGAzeNABLAzeSMALL ALPHAzkBETAzkGAMMAzkDELTAzkEPSILONzkZETAzkETAzkTHETAzkIOTA",
    "zkKAPPAzkLAMDAzkMUzkNUzkXIzkOMICRONzkPIzkRHOzkFINAL SIGMAzkSIGMAzkTAUzkUPSILONzkPHIzkCHIzkPSI",
    "zkOMEGAzePARTIAL DIFFERENTIALzeEPSILON SYMBOLzeTHETA SYMBOLzeKAPPA SYMBOLzePHI SYMBOL",
    "zeRHO SYMBOLzePI SYMBOLzeITALIC CAPITAL ALPHAztBETAztGAMMAztDELTAztEPSILONztZETAztETAztTHETA",
    "ztIOTAztKAPPAztLAMDAztMUztNUztXIztOMICRONztPIztRHOztTHETA SYMBOLztSIGMAztTAUztUPSILONztPHI",
    "ztCHIztPSIztOMEGAzlNABLAzlSMALL ALPHAzrBETAzrGAMMAzrDELTAzrEPSILONzrZETAzrETAzrTHETAzrIOTA",
    "zrKAPPAzrLAMDAzrMUzrNUzrXIzrOMICRONzrPIzrRHOzrFINAL SIGMAzrSIGMAzrTAUzrUPSILONzrPHIzrCHIzrPSI",
    "zrOMEGAzlPARTIAL DIFFERENTIALzlEPSILON SYMBOLzlTHETA SYMBOLzlKAPPA SYMBOLzlPHI SYMBOL",
    "zlRHO SYMBOLzlPI SYMBOLnBOLD CAPITAL DIGAMMAsSMALL DIGAMMA@1D7CEsDIGIT ZEROyONEyTWOzaHREE",
    "yFOURzaIVEySIXzaEVENyEIGHTyNINEnDOUBLE-STRUCK DIGIT ZEROziONEziTWOzjHREEziFOURzjIVEziSIX",
    "zjEVENziEIGHTziNINEnSANS-SERIF DIGIT ZEROzfONEzfTWOzgHREEzfFOURzgIVEzfSIXzgEVENzfEIGHTzfNINE",
    "yBOLD DIGIT ZEROzkONEzkTWOzlHREEzkFOURzlIVEzkSIXzlEVENzkEIGHTzkNINEnMONOSPACE DIGIT ZEROzeONE",
    "zeTWOzfHREEzeFOURzfIVEzeSIXzfEVENzeEIGHTzeNINEaSIGNWRITING HAND-FIST INDEXrCIRCLE INDEX",
    "sUP INDEXrOVAL INDEXrHINGE INDEXrANGLE INDEXrFIST INDEX BENTrCIRCLE INDEX BENT",
    "rFIST THUMB UNDER INDEX BENTwINDEX RAISED KNUCKLEzdCUPPEDzdHINGEDzj LOWrCIRCLE INDEX HINGE",
    "rFIST INDEX MIDDLErCIRCLE INDEX MIDDLErFIST INDEX MIDDLE BENTzkRAISED KNUCKLESzkHINGED",
    "zdUP MIDDLE HINGEDzdHINGED MIDDLE UPzdMIDDLE CONJOINEDzt INDEX BENTzuMIDDLE BENTzuCUPPED",
    "zuHINGEDzlROSSEDrCIRCLE INDEX MIDDLE CROSSEDrFIST MIDDLE BENT OVER INDEX",
    "wINDEX BENT OVER MIDDLEzdMIDDLE THUMBrCIRCLE INDEX MIDDLE THUMB",
    "rFIST INDEX MIDDLE STRAIGHT THUMB BENTzkBENT THUMB STRAIGHTzkTHUMB BENT",
    "zkHINGED SPREAD THUMB SIDEzdUP MIDDLE HINGED THUMB SIDEzzbCONJOINED",
    "zdHINGED MIDDLE UP THUMB SIDEzdMIDDLE UP SPREAD THUMB FORWARDzkTHUMB CUPPEDzrIRCLEDzqHOOKED",
    "zrINGEDwTHUMB BETWEEN INDEX MIDDLE STRAIGHTwINDEX MIDDLE CONJOINED THUMB SIDEzzf CONJOINED",
    "zzgBENTwMIDDLE THUMB HOOKED INDEX UPwINDEX THUMB HOOKED MIDDLE UP",
    "zdMIDDLE CONJOINED HINGED THUMB SIDEzlROSSED THUMB SIDEzlONJOINED THUMB FORWARD",
    "zuCUPPED THUMB FORWARDwMIDDLE THUMB CUPPED INDEX UPwINDEX THUMB CUPPED MIDDLE UP",
    "wMIDDLE THUMB CIRCLED INDEX UPzyHINGEDwINDEX THUMB ANGLED OUT MIDDLE UPzqIN MIDDLE UP",
    "zjCIRCLED MIDDLE UPzdMIDDLE THUMB CONJOINED HINGEDzqANGLED OUTzw",
    "wMIDDLE THUMB ANGLED OUT INDEX UPzzcCROSSEDzrINDEX UPwINDEX THUMB HOOKED MIDDLE HINGED",
    "sLAT FOUR FINGERSzj BENTzkHINGEDzkCONJOINEDzt SPLITrCLAW FOUR FINGERS CONJOINED",
    "rFIST FOUR FINGERS CONJOINED BENTrHINGE FOUR FINGERS CONJOINEDrFLAT FIVE FINGERS SPREAD",
    "wHEEL FIVE FINGERS SPREADwFIVE FINGERS SPREAD FOUR BENTwHEEL FIVE FINGERS SPREAD FOUR BENT",
    "wFIVE FINGERS SPREAD BENTwHEEL FIVE FINGERS SPREAD BENTwFIVE FINGERS SPREAD THUMB FORWARD",
    "rCUP FIVE FINGERS SPREADzp OPENrHINGE FIVE FINGERS SPREAD OPENrOVAL FIVE FINGERS SPREAD",
    "rFLAT FIVE FINGERS SPREAD HINGEDzx THUMB SIDEzyNO THUMBvv BETWEEN PALM FACINGSwHEEL",
    "wTHUMB SIDEwHEEL THUMB SIDEwTHUMB BENTzdFORWARDwSPLIT INDEX THUMB SIDEzdCENTREzj THUMB SIDE",
    "zu BENTzdLITTLErCLAWv THUMB SIDEwNO THUMBwTHUMB FORWARDrHOOK CURLICUEvrCUP OPENu",
    "u OPEN THUMB SIDEvTHUMB SIDEvOPEN NO THUMBvNO THUMBvOPEN THUMB FORWARDvTHUMB FORWARD",
    "tRLICUE OPENzasIRCLErOVALv THUMB SIDEwNO THUMBwTHUMB FORWARDrHINGE OPENzc THUMB FORWARDw",
    "w SMALLxOPEN THUMB SIDExTHUMB SIDExOPEN NO THUMBxNO THUMBxTHUMB SIDE TOUCHING INDEX",
    "zeBETWEEN MIDDLE RINGrANGLErFIST INDEX MIDDLE RINGrCIRCLE INDEX MIDDLE RING",
    "rHINGE INDEX MIDDLE RINGrANGLE INDEX MIDDLE RINGrHINGE LITTLErFIST INDEX MIDDLE RING BENT",
    "zpCONJOINEDrHINGE INDEX MIDDLE RING CONJOINEDrFIST LITTLE DOWNzi RIPPLE STRAIGHTzqCURVED",
    "zjOTHERS CIRCLEDzeUPwTHUMB UNDER LITTLE UPrCIRCLE LITTLE UPrOVAL LITTLE UPrANGLE LITTLE UP",
    "rFIST LITTLE RAISED KNUCKLEzeBENTzeTOUCHES THUMBzfHUMBrHINGE LITTLE THUMB",
    "rFIST LITTLE INDEX THUMBrHINGE LITTLE INDEX THUMBrANGLE LITTLE INDEX THUMB INDEX THUMB OUTzzd",
    "rFIST LITTLE INDEXrCIRCLE LITTLE INDEXrHINGE LITTLE INDEXrANGLE LITTLE INDEX",
    "rFIST INDEX MIDDLE LITTLErCIRCLE INDEX MIDDLE LITTLErHINGE INDEX MIDDLE LITTLExRING",
    "rANGLE INDEX MIDDLE LITTLErFIST INDEX MIDDLE CROSS LITTLErCIRCLE INDEX MIDDLE CROSS LITTLE",
    "rFIST RING DOWNrHINGE RING DOWN INDEX THUMB HOOK MIDDLE",
    "rANGLE RING DOWN MIDDLE THUMB INDEX CROSSrFIST RING UPzcRAISED KNUCKLEzcLITTLE",
    "rCIRCLE RING LITTLErOVAL RING LITTLErANGLE RING LITTLErFIST RING MIDDLEzi CONJOINED",
    "zjRAISED KNUCKLESzcINDEXzcTHUMBrHOOK RING THUMBrFIST INDEX RING LITTLE",
    "rCIRCLE INDEX RING LITTLEsURLICUE INDEX RING LITTLE ONrHOOK INDEX RING LITTLE OUTzpINzpUNDER",
    "rCUP INDEX RING LITTLErHINGE INDEX RING LITTLErANGLE INDEX RING LITTLE OUTzprFIST MIDDLE DOWN",
    "rHINGE MIDDLErFIST MIDDLE UPrCIRCLE MIDDLE UPrFIST MIDDLE RAISED KNUCKLEzeUP THUMB SIDE",
    "rHOOK MIDDLE THUMBrFIST MIDDLE THUMB LITTLEzeLITTLEzeRING LITTLErCIRCLE MIDDLE RING LITTLE",
    "sURLICUE MIDDLE RING LITTLE ONtP MIDDLE RING LITTLErHINGE MIDDLE RING LITTLE",
    "rANGLE MIDDLE RING LITTLE OUTzrINzqrCIRCLE MIDDLE RING LITTLE BENT",
    "sLAW MIDDLE RING LITTLE CONJOINEDzza SIDErHOOK MIDDLE RING LITTLE CONJOINED OUTzzbINzza",
    "sINGE INDEX HINGEDrFIST INDEX THUMB SIDErHINGE INDEX THUMB SIDE",
    "rFIST INDEX THUMB SIDE THUMB DIAGONALzuCONJOINEDzuBENTzoINDEX BENTzoBOTH BENTzoINDEX HINGE",
    "zjFORWARD INDEX STRAIGHTzxBENTzjHOOKzjCURLICUEzmVE THUMB INSIDE",
    "rCLAW INDEX THUMB CURVE THUMB INSIDErFIST INDEX THUMB CURVE THUMB UNDERzkIRCLE",
    "rCUP INDEX THUMBzh OPENrHINGE INDEX THUMB OPENzkLARGEzjzj SMALLrANGLE INDEX THUMB OUTzkINzj",
    "rFIST THUMBzc HEELzdSIDE DIAGONALziCONJOINEDziBENTzdFORWARDzdBETWEEN INDEX MIDDLE",
    "zlMIDDLE RINGzlRING LITTLEzdUNDER TWO FINGERSzdOVER TWO FINGERSzdUNDER THREE FINGERS",
    "zjFOUR FINGERSzdOVER FOUR RAISED KNUCKLESvv HEELmTOUCH SINGLEsMULTIPLEsBETWEENmGRASP SINGLE",
    "sMULTIPLEsBETWEENmSTRIKE SINGLEtMULTIPLEtBETWEENmBRUSH SINGLEsMULTIPLEsBETWEENmRUB SINGLE",
    "qMULTIPLEqBETWEENmSURFACE SYMBOLSuBETWEENnQUEEZE LARGE SINGLEuSMALL SINGLEuLARGE MULTIPLE",
    "uSMALL MULTIPLEvEQUENTIALmFLICK LARGE SINGLEsSMALL SINGLEsLARGE MULTIPLEsSMALL MULTIPLE",
    "tEQUENTIALmSQUEEZE FLICK ALTERNATINGmMOVEMENT-HINGE UP DOWN LARGEzkSMALLzfSEQUENTIAL",
    "zcDOWN SEQUENTIALzcUP DOWN ALTERNATING LARGEzwSMALLzcSIDE TO SIDE SCISSORS",
    "vWALLPLANE FINGER CONTACTvFLOORPLANE FINGER CONTACTvWALLPLANE SINGLE STRAIGHT SMALLzwMEDIUM",
    "zwLARGEzzcSTznWRIST FLEXzgDOUBLE STRAIGHTznWRIST FLEXznALTERNATINGzy WRIST FLEXzgCROSS",
    "zgTRIPLE STRAIGHT MOVEMENTznWRIST FLEXznALTERNATINGzy WRIST FLEXzgBEND SMALLzlMEDIUMzlLARGE",
    "zgCORNER SMALLznMEDIUMznLARGEznROTATIONzhHECK SMALLzmMEDIUMzmLARGEzgBOX SMALLzkMEDIUMzkLARGE",
    "zgZIGZAG SMALLznMEDIUMznLARGEzgPEAKS SMALLzmMEDIUMzmLARGE",
    "mTRAVEL-WALLPLANE ROTATION-WALLPLANE SINGLEzxDOUBLEzxALTERNATINGznFLOORPLANE SINGLEzyDOUBLE",
    "zyALTERNATINGzeSHAKINGzeARM SPIRAL SINGLEzpDOUBLEzpTRIPLEmMOVEMENT-DIAGONAL AWAY SMALL",
    "zkMEDIUMzkLARGEzpSTzfTOWARDS SMALLznMEDIUMznLARGEzsSTzfBETWEEN AWAY SMALLzsMEDIUMzsLARGEzxST",
    "znTOWARDS SMALLzvMEDIUMzvLARGEzzbSTvFLOORPLANE SINGLE STRAIGHT SMALLzxMEDIUMzxLARGEzzdST",
    "zoWRIST FLEXzhDOUBLE STRAIGHTzoWRIST FLEXzoALTERNATINGzza WRIST FLEXzhCROSS",
    "zhTRIPLE STRAIGHT MOVEMENTzoWRIST FLEXzoALTERNATING MOVEMENTzzbWRIST FLEXzhBENDzhCORNER SMALL",
    "zoMEDIUMzoLARGEziHECKzhBOX SMALLzlMEDIUMzlLARGEzhZIGZAG SMALLzoMEDIUMzoLARGEzhPEAKS SMALL",
    "znMEDIUMznLARGEmTRAVEL-FLOORPLANE ROTATION-FLOORPLANE SINGLEzzaDOUBLEzzaALTERNATING",
    "zoWALLPLANE SINGLEzyDOUBLEzyALTERNATINGzfSHAKINGmMOVEMENT-WALLPLANE CURVE QUARTER SMALL",
    "zuMEDIUMzuLARGEzzaSTzmHALF-CIRCLE SMALLzyMEDIUMzyLARGEzzeSTzmTHREE-QUARTER CIRCLE SMALL",
    "zziMEDIUMzgHUMP SMALLzlMEDIUMzlLARGEzgLOOP SMALLzlMEDIUMzlLARGEzlSMALL DOUBLE",
    "zgWAVE CURVE DOUBLE SMALLzyMEDIUMzyLARGEzrTRIPLE SMALLzyMEDIUMzyLARGEzgCURVE THEN STRAIGHT",
    "zlD CROSS SMALLztMEDIUMmROTATION-WALLPLANE SINGLEzgDOUBLEzgALTERNATE",
    "mMOVEMENT-WALLPLANE SHAKINGzgCURVE HITTING FRONT WALLzgHUMP HITTING FRONT WALL",
    "zgLOOP HITTING FRONT WALLzgWAVE HITTING FRONT WALL",
    "mROTATION-WALLPLANE SINGLE HITTING FRONT WALLzgDOUBLE HITTING FRONT WALL",
    "zgALTERNATING HITTING FRONT WALLmMOVEMENT-WALLPLANE CURVE HITTING CHESTzgHUMP HITTING CHEST",
    "zgLOOP HITTING CHESTzgWAVE HITTING CHESTmROTATION-WALLPLANE SINGLE HITTING CHEST",
    "zgDOUBLE HITTING CHESTzgALTERNATING HITTING CHESTmMOVEMENT-WALLPLANE WAVE DIAGONAL PATH SMALL",
    "zzaMEDIUMzzaLARGEvFLOORPLANE CURVE HITTING CEILING SMALLzzeLARGE",
    "zhHUMP HITTING CEILING SMALL DOUBLEzzdLARGE DOUBLEzzdSMALL TRIPLEzzdLARGE TRIPLE",
    "zhLOOP HITTING CEILING SMALL SINGLEzzdLARGE SINGLEzzdSMALL DOUBLEzzdLARGE DOUBLE",
    "zhWAVE HITTING CEILING SMALLzzdLARGEmROTATION-FLOORPLANE SINGLE HITTING CEILING",
    "zhDOUBLE HITTING CEILINGzhALTERNATING HITTING CEILING",
    "mMOVEMENT-FLOORPLANE CURVE HITTING FLOOR SMALLzzcLARGEzhHUMP HITTING FLOOR SMALL DOUBLE",
    "zzbLARGE DOUBLEzzbTRIPLE SMALL TRIPLEzziLARGE TRIPLEzhLOOP HITTING FLOOR SMALL SINGLE",
    "zzbLARGE SINGLEzzbSMALL DOUBLEzzbLARGE DOUBLEzhWAVE HITTING FLOOR SMALLzzbLARGE",
    "mROTATION-FLOORPLANE SINGLE HITTING FLOORzhDOUBLE HITTING FLOORzhALTERNATING HITTING FLOOR",
    "mMOVEMENT-FLOORPLANE CURVE SMALLznMEDIUMznLARGEzsSTznCOMBINEDzhHUMP SMALLzhLOOP SMALL",
    "zhWAVE SNAKEznMALLzmLARGEmROTATION-FLOORPLANE SINGLEzhDOUBLEzhALTERNATING",
    "mMOVEMENT-FLOORPLANE SHAKING PARALLELvWALLPLANE ARM CIRCLE SMALL SINGLEzrMEDIUM SINGLE",
    "zrSMALL DOUBLEzrMEDIUM DOUBLEvFLOORPLANE ARM CIRCLE HITTING WALL SMALL SINGLEzzgMEDIUM SINGLE",
    "zzgLARGE SINGLEzzgSMALL DOUBLEzzgMEDIUM DOUBLEzzgLARGE DOUBLE",
    "vWALLPLANE WRIST CIRCLE FRONT SINGLEzzaDOUBLEvFLOORPLANE WRIST CIRCLE HITTING WALL SINGLE",
    "zziDOUBLEvWALLPLANE FINGER CIRCLES SINGLEzvDOUBLE",
    "vFLOORPLANE FINGER CIRCLES HITTING WALL SINGLEzzkDOUBLEmDYNAMIC ARROWHEAD SMALLzfLARGEuFAST",
    "uSLOWuTENSEuRELAXEDuSIMULTANEOUSzh ALTERNATINGuEVERY OTHER TIMEuGRADUALmHEADq RIM",
    "rMOVEMENT-WALLPLANE STRAIGHTzlTILTzbFLOORPLANE STRAIGHTzbWALLPLANE CURVEzbFLOORPLANE CURVE",
    "za CIRCLEmFACE DIRECTION POSITION NOSE FORWARD TILTINGzqUP OR DOWNzzb TILTING",
    "mEYEBROWS STRAIGHT UPzfNEUTRALzfDOWNmDREAMY EYEBROWS NEUTRAL DOWNzdDOWN NEUTRALzdUP NEUTRAL",
    "zdNEUTRAL UPmFOREHEAD NEUTRALvCONTACTvWRINKLEDmEYES OPENrSQUEEZEDrCLOSEDp BLINK SINGLE",
    "wMULTIPLEpS HALF OPENrWIDE OPENrHALF CLOSEDrWIDENING MOVEMENTp WINKpLASHES UPwDOWNwFLUTTERING",
    "pGAZE-WALLPLANE STRAIGHTzn DOUBLEzoALTERNATINGuFLOORPLANE STRAIGHTzo DOUBLEzpALTERNATING",
    "uWALLPLANE CURVEDuFLOORPLANE CURVEDuWALLPLANE CIRCLINGmCHEEKS PUFFEDtNEUTRALtSUCKED",
    "mTENSE CHEEKS HIGHzaMIDDLEzaLOWmEARSmNOSE NEUTRALrCONTACTrWRINKLESsIGGLESmAIR BLOWING OUT",
    "qSUCKING INqBLOW SMALL ROTATIONSqSUCK SMALL ROTATIONSmBREATH INHALEtEXHALE",
    "mMOUTH CLOSED NEUTRALzaFORWARDzaCONTACTsSMILEx WRINKLEDyOPENsFROWNx WRINKLEDyOPENsOPEN CIRCLE",
    "xFORWARDxWRINKLEDxOVALzc WRINKLEDzdYAWNxRECTANGLEzh WRINKLEDziYAWNsKISSw FORWARDxWRINKLED",
    "sTENSEx FORWARDySUCKEDmLIPS PRESSED TOGETHERp LOWER OVER UPPERqUPPER OVER LOWERmMOUTH CORNERS",
    "sWRINKLES SINGLEzcDOUBLEmTONGUE STICKING OUT FARtLICKING LIPStTIP BETWEEN LIPS",
    "xTOUCHING INSIDE MOUTHtINSIDE MOUTH RELAXEDtMOVES AGAINST CHEEKtCENTRE STICKING OUT",
    "zbINSIDE MOUTHnEETHr MOVEMENTsON TONGUEzc MOVEMENTvLIPSza MOVEMENTsBITE LIPS",
    "mMOVEMENT-WALLPLANE JAWvFLOORPLANE JAWmNECKmHAIRmEXCITEMENTmSHOULDER HIP SPINEzaPOSITIONS",
    "mWALLPLANE SHOULDER HIP MOVEmFLOORPLANE SHOULDER HIP MOVEmSHOULDER TILTING FROM WAIST",
    "mTORSO-WALLPLANE STRAIGHT STRETCHzdCURVED BENDsFLOORPLANE TWISTING",
    "mUPPER BODY TILTING FROM HIP JOINTSmLIMB COMBINATIONrLENGTH-1y2y3y4y5y6y7mFINGER",
    "mLOCATION-WALLPLANE SPACEvFLOORPLANE SPACEu HEIGHTvWIDTHvDEPTHvHEAD NECKvTORSOvLIMBS DIGITS",
    "mCOMMAmFULL STOPmSEMICOLONmCOLONmPARENTHESIS@1DA9BmFILL MODIFIER-2zb3zb4zb5zb6",
    "@1DAA1mROTATION MODIFIER-2zf3zf4zf5zf6zf7zf8zf9zf10zg1zg2zg3zg4zg5zg6",
    "@1DF00aLATIN SMALL LETTER FENG DIGRAPH WITH TRILLtREVERSED SCRIPT G",
    "gLETTER SMALL CAPITAL TURNED GgSMALL LETTER REVERSED KgLETTER SMALL CAPITAL L WITH BELT",
    "gSMALL LETTER LEZH WITH RETROFLEX HOOKtTURNED Y WITH BELTtREVERSED ENG",
    "tTURNED R WITH LONG LEG AND RETROFLEX HOOKu WITH HOOK AND RETROFLEX HOOK",
    "gLETTER RETROFLEX CLICK WITH RETROFLEX HOOKgSMALL LETTER ESH WITH DOUBLE BARzn AND CURL",
    "tTURNED T WITH CURLgLETTER INVERTED GLOTTAL STOP WITH CURLnSTRETCHED C WITH CURL",
    "oMALL CAPITAL TURNED KgSMALL LETTER L WITH FISHHOOKtDEZH DIGRAPH WITH PALATAL HOOK",
    "tL WITH BELT AND PALATAL HOOKtENG WITH PALATAL HOOKtTURNED R WITH PALATAL HOOK",
    "tR WITH FISHHOOK AND PALATAL HOOKtTESH DIGRAPH WITH PALATAL HOOKtEZH WITH PALATAL HOOK",
    "tDEZH DIGRAPH WITH RETROFLEX HOOKtI WITH STROKE AND RETROFLEX HOOKtO WITH RETROFLEX HOOK",
    "tTESH DIGRAPH WITH RETROFLEX HOOKtC WITH RETROFLEX HOOKtS WITH CURL",
    "@1E000aCOMBINING GLAGOLITIC LETTER AZUzdBUKYzdVEDEzdGLAGOLIzdDOBROzdYESTUzdZHIVETE",
    "@1E008zeEMLJAzdIZHEzeNITIAL IZHEzezdDJERVIzdKAKOzdLJUDIJEzdMYSLITEzdNASHIzdONUzdPOKOJIzdRITSI",
    "zdSLOVOzdTVRIDOzdUKUzdFRITUzdHERU@1E01BzdSHTAzdTSIzdCHRIVIzdSHAzdYERUzgIzeATI@1E023zeU",
    "zdSMALL YUS@1E026zdYOzdIOTATED SMALL YUSzdBIG YUSzdIOTATED BIG YUSzdFITA",
    "@1E100aNYIAKENG PUACHUE HMONG LETTER MAzfTSAzfNTAzfTAzfHAzfNAzfXAzfNKAzfCAzfLAzfSAzfZAzfNCA",
    "zgTSAzfKAzfDAzfNYAzgRAzfVAzfNTXAzfTXAzfFAzfRAzfQAzfYAzfNQAzfPAzfXYAzfNPAzfDLAzfNPLAzfHAHzfMLA",
    "zfPLAzfGAzfRRAzfAzgAzfIzfUzfOzgOzfEzgEzfW@1E130xTONE-BzdMzdJzdVzdSzdGzdDxSIGN FOR PERSON",
    "zhTHINGzhLOCATIONzhANIMALzhINVERTEBRATEzdXW XWyYLLABLE LENGTHENER@1E140xDIGIT ZEROzeONEzeTWO",
    "zfHREEzeFOURzfIVEzeSIXzfEVENzeEIGHTzeNINE@1E14ExLOGOGRAM NYAJxCIRCLED CA@1E290aTOTO LETTER PA",
    "mBAmTAmDAmKAmGAmMAmNAnGAmSAmCHAmYAmWAmJAmHAmRAmLAmImBREATHY ImIUmBREATHY IUmUmEmBREATHY EmEO",
    "mBREATHY EOmOmAEmBREATHY AEmAfSIGN RISING TONE@1E2C0aWANCHO LETTER AApoBAoCAoDAoGAoYAoPHAoLA",
    "oNAoPAoTApHAoFAoSApHAoJAoZAoWAoVAoKAoOoAUoRAoMAoKHAoHAoEoIoNGAoUoLLHAoTSApRAoONGoAANGpNGoING",
    "oONoENoAANoNYAoUENoYIHhTONE TUPpNImKOIpNIhDIGIT ZEROnONEnTWOoHREEnFOURoIVEnSIXoEVENnEIGHT",
    "nNINE@1E2FFhNGUN SIGN@1E7E0aETHIOPIC SYLLABLE HHYAvUvIvAAvEEwvO@1E7E8sGURAGE HHWAsHHWIvEEw",
    "@1E7EDsGURAGE MWIzcEE@1E7F0zaQWIzcEEzdzaBWIzcEEzaKWIzcEEzdzaGWIzcEEzdzaFWIzcEEzaPWIzcEE",
    "@1E800aMENDE KIKAKUI SYLLABLE M001 KIzb2 KAzb3 KUza65 KEEza95 KEza76 KOOza48 KOy179 KUA",
    "y004 WIzb5 WAzb6 WUy126 WEEza18 WEzb4 WOOy045 WOy194 WUIza43 WEIy061 WVIza49 WVAy139 WVE",
    "y007 MINzb8 MANzb9 MUNza59 MENza94 MONy154 MUANza89 MUENy010 BIzb1 BAzb2 BUy150 BEEy097 BE",
    "y103 BOOza38 BOy013 Izb4 Azb5 Uy163 EEza00 Eza65 OOza47 Oza37 EIzb1 INzb5 INza95 ANza78 EN",
    "y019 SIza20 SAzb1 SUy162 SEEza16 SEza36 SOOy079 SOy196 SIAy025 LIzb6 LAzb7 LUza84 LEEza73 LE",
    "za54 LOOy153 LOza10 LONG LEy016 DIzb7 DAzb8 DUza89 DEEy180 DOOzb1 DOy022 TIzb3 TAzb4 TU",
    "za91 TEEza55 TEy104 TOOy069 TOza28 JIzb9 JAza30 JUy157 JEEza13 JEza60 JOOy063 JOy175 LONG JO",
    "y031 YIzb2 YAzb3 YUy109 YEEy080 YEy141 YOOza21 YOy034 FIzb5 FAzb6 FUza78 FEEzb5 FEy133 FOO",
    "y088 FOy197 FUAza01 FANy037 NINzb8 NANzb9 NUNy117 NENza69 NONza76 HIy041 HAy186 HUy040 HEE",
    "za96 HEza42 HOOy140 HOy083 HEEIy128 HOOUy053 HINy130 HANy087 HUNza52 HENy193 HONy046 HUAN",
    "za90 NGGIza43 NGGAza82 NGGUy115 NGGEEza46 NGGEza56 NGGOOza20 NGGOza59 NGGAAza27 NGGUA",
    "y086 LONG NGGEy106 LONG NGGOOza83 LONG NGGOza55 GIza11 GAza68 GUza90 GEEza66 GUEIzb7 GUAN",
    "za84 NGENy057 NGONy177 NGUANy068 PIza99 PAza50 PUza81 PEEza51 PEy102 POOy066 POy145 MBI",
    "y062 MBAy122 MBUy047 MBEEy188 MBEEy072 MBEy172 MBOOzb4 MBOza87 MBUUza61 LONG MBE",
    "za05 LONG MBOOza42 LONG MBOza32 KPIy092 KPAza74 KPUza44 KPEEy108 KPEza12 KPOOza58 KPOza24 GBI",
    "y056 GBAy148 GBUy093 GBEEy107 GBEy071 GBOOzb0 GBOy171 RAza23 NDIzb9 NDAzb5 NDUza91 NDEE",
    "za19 NDEy067 NDOOzb4 NDOy152 NJAza92 NJUza49 NJEEza34 NJOOza82 VIzb5 VAza51 VUza73 VEEy085 VE",
    "y144 VOOy077 VOy164 NYINy058 NYANy170 NYUNy098 NYENza60 NYON@1E8C7oDIGIT ONEuTWOvHREEuFOUR",
    "vIVEuSIXvEVENuEIGHTuNINEoCOMBINING NUMBER TEENSziNSzgHUNDREDSzgTHOUSANDSzhEN THOUSANDS",
    "zgHUNDRED THOUSANDSzgMILLIONS@1E900aADLAM CAPITAL LETTER ALIFvDAALIvLAAMvMIIMvBAvSINNYIIYHE",
    "vPEvBHEvRAvEvFAvIvOvDHAvYHEvWAWvNUNvKAFvYAvUvJIIMvCHIvHAvQAAFvGAvNYAvTUvNHAvVAvKHAvGBEvZAL",
    "vKPOvSHAgSMALL LETTER ALIFtDAALItLAAMtMIIMtBAtSINNYIIYHEtPEtBHEtRAtEtFAtItOtDHAtYHEtWAWtNUN",
    "tKAFtYAtUtJIIMtCHItHAtQAAFtGAtNYAtTUtNHAtVAtKHAtGBEtZALtKPOtSHAgALIF LENGTHENER",
    "gVOWEL LENGTHENERgGEMINATION MARKgHAMZAgCONSONANT MODIFIERgGEMINATE CONSONANT MODIFIERgNUKTA",
    "hASALIZATION MARK@1E950gDIGIT ZEROmONEmTWOnHREEmFOURnIVEmSIXnEVENmEIGHTmNINE",
    "@1E95EgINITIAL EXCLAMATION MARKoQUESTION MARK@1EC71aINDIC SIYAQ NUMBER ONEtTWOuHREEtFOURuIVE",
    "tSIXuEVENtEIGHTtNINEtTENuWENTYuHIRTYtFORTYuIFTYtSIXTYuEVENTYtEIGHTYtNINETYtONE HUNDRED",
    "tTWO HUNDREDuHREE HUNDREDtFOUR HUNDREDuIVE HUNDREDtSIX HUNDREDuEVEN HUNDREDtEIGHT HUNDRED",
    "tNINE HUNDREDtONE THOUSANDtTWO THOUSANDuHREE THOUSANDtFOUR THOUSANDuIVE THOUSANDtSIX THOUSAND",
    "uEVEN THOUSANDtEIGHT THOUSANDtNINE THOUSANDtTEN THOUSANDuWENTY THOUSANDuHIRTY THOUSAND",
    "tFORTY THOUSANDuIFTY THOUSANDtSIXTY THOUSANDuEVENTY THOUSANDtEIGHTY THOUSANDtNINETY THOUSAND",
    "tLAKHxANmLAKH MARKmNUMBER KARORyANtPREFIXED ONEzdTWOzeHREEzdFOURzeIVEzdSIXzeEVENzdEIGHTzdNINE",
    "mPLACEHOLDERmFRACTION ONE QUARTERzaHALFvTHREE QUARTERSmRUPEE MARKmNUMBER ALTERNATE ONEzeTWO",
    "zfEN THOUSANDmALTERNATE LAKH MARK@1ED01aOTTOMAN SIYAQ NUMBER ONEvTWOwHREEvFOURwIVEvSIXwEVEN",
    "vEIGHTvNINEvTENwWENTYwHIRTYvFORTYwIFTYvSIXTYwEVENTYvEIGHTYvNINETYvONE HUNDREDvTWO HUNDRED",
    "wHREE HUNDREDvFOUR HUNDREDwIVE HUNDREDvSIX HUNDREDwEVEN HUNDREDvEIGHT HUNDREDvNINE HUNDRED",
    "vONE THOUSANDvTWO THOUSANDwHREE THOUSANDvFOUR THOUSANDwIVE THOUSANDvSIX THOUSAND",
    "wEVEN THOUSANDvEIGHT THOUSANDvNINE THOUSANDvTEN THOUSANDwWENTY THOUSANDwHIRTY THOUSAND",
    "vFORTY THOUSANDwIFTY THOUSANDvSIXTY THOUSANDwEVENTY THOUSANDvEIGHTY THOUSANDvNINETY THOUSAND",
    "oMARRATANoALTERNATE NUMBER TWOzhHREEzgFOURzhIVEzgSIXzhEVENzgEIGHTzgNINEzgTENzgFOUR HUNDRED",
    "zgSIX HUNDREDzgTWO THOUSANDzhEN THOUSANDoFRACTION ONE HALFzcSIXTH",
    "@1EE00aARABIC MATHEMATICAL ALEFuBEHuJEEMuDAL@1EE05uWAWuZAINuHAHuTAHuYEHuKAFuLAMuMEEMuNOON",
    "uSEENuAINuFEHuSADuQAFuREHuSHEENuTEHvHEHuKHAHuTHALuDADuZAHuGHAINuDOTLESS BEHzdNOONzdFEHzdQAF",
    "@1EE21uINITIAL BEHzdJEEM@1EE24zdHEH@1EE27zeAH@1EE29zdYEHzdKAFzdLAMzdMEEMzdNOONzdSEENzdAIN",
    "zdFEHzdSADzdQAF@1EE34zdSHEENzdTEHzeHEHzdKHAH@1EE39zdDAD@1EE3BzdGHAIN@1EE42uTAILED JEEM",
    "@1EE47zcHAH@1EE49zcYEH@1EE4BzcLAM@1EE4DzcNOONzcSEENzcAIN@1EE51zcSADzcQAF@1EE54zcSHEEN",
    "@1EE57zcKHAH@1EE59zcDAD@1EE5BzcGHAIN@1EE5DzcDOTLESS NOON@1EE5FzkQAF@1EE61uSTRETCHED BEHzfJEEM",
    "@1EE64zfHEH@1EE67zgAHzfTAHzfYEHzfKAF@1EE6CzfMEEMzfNOONzfSEENzfAINzfFEHzfSADzfQAF@1EE74zfSHEEN",
    "zfTEHzgHEHzfKHAH@1EE79zfDADzfZAHzfGHAINzfDOTLESS BEH@1EE7EznFEH@1EE80uLOOPED ALEFzcBEHzcJEEM",
    "zcDALzcHEHzcWAWzcZAINzcHAHzcTAHzcYEH@1EE8BzcLAMzcMEEMzcNOONzcSEENzcAINzcFEHzcSADzcQAFzcREH",
    "zcSHEENzcTEHzdHEHzcKHAHzcTHALzcDADzcZAHzcGHAIN@1EEA1uDOUBLE-STRUCK BEHzjJEEMzjDAL@1EEA5zjWAW",
    "zjZAINzjHAHzjTAHzjYEH@1EEABzjLAMzjMEEMzjNOONzjSEENzjAINzjFEHzjSADzjQAFzjREHzjSHEENzjTEHzkHEH",
    "zjKHAHzjTHALzjDADzjZAHzjGHAIN@1EEF0uOPERATOR MEEM WITH HAH WITH TATWEELzeHAH WITH DAL",
    "@1F000aMAHJONG TILE EAST WINDnSOUTH WINDnWEST WINDnNORTH WINDnRED DRAGONnGREEN DRAGON",
    "nWHITE DRAGONnONE OF CHARACTERSnTWO OF CHARACTERSoHREE OF CHARACTERSnFOUR OF CHARACTERS",
    "oIVE OF CHARACTERSnSIX OF CHARACTERSoEVEN OF CHARACTERSnEIGHT OF CHARACTERS",
    "nNINE OF CHARACTERSnONE OF BAMBOOSnTWO OF BAMBOOSoHREE OF BAMBOOSnFOUR OF BAMBOOS",
    "oIVE OF BAMBOOSnSIX OF BAMBOOSoEVEN OF BAMBOOSnEIGHT OF BAMBOOSnNINE OF BAMBOOS",
    "nONE OF CIRCLESnTWO OF CIRCLESoHREE OF CIRCLESnFOUR OF CIRCLESoIVE OF CIRCLESnSIX OF CIRCLES",
    "oEVEN OF CIRCLESnEIGHT OF CIRCLESnNINE OF CIRCLESnPLUMnORCHIDnBAMBOOnCHRYSANTHEMUMnSPRING",
    "oUMMERnAUTUMNnWINTERnJOKERnBACK@1F030aDOMINO TILE HORIZONTAL BACKw-00-00zc1zc2zc3zc4zc5zc6",
    "y1-00zc1zc2zc3zc4zc5zc6y2-00zc1zc2zc3zc4zc5zc6y3-00zc1zc2zc3zc4zc5zc6y4-00zc1zc2zc3zc4zc5zc6",
    "y5-00zc1zc2zc3zc4zc5zc6y6-00zc1zc2zc3zc4zc5zc6mVERTICAL BACKu-00-00za1za2za3za4za5za6w1-00za1",
    "za2za3za4za5za6w2-00za1za2za3za4za5za6w3-00za1za2za3za4za5za6w4-00za1za2za3za4za5za6w5-00za1",
    "za2za3za4za5za6w6-00za1za2za3za4za5za6@1F0A0aPLAYING CARD BACKnACE OF SPADESnTWO OF SPADES",
    "oHREE OF SPADESnFOUR OF SPADESoIVE OF SPADESnSIX OF SPADESoEVEN OF SPADESnEIGHT OF SPADES",
    "nNINE OF SPADESnTEN OF SPADESnJACK OF SPADESnKNIGHT OF SPADESnQUEEN OF SPADESnKING OF SPADES",
    "@1F0B1nACE OF HEARTSnTWO OF HEARTSoHREE OF HEARTSnFOUR OF HEARTSoIVE OF HEARTSnSIX OF HEARTS",
    "oEVEN OF HEARTSnEIGHT OF HEARTSnNINE OF HEARTSnTEN OF HEARTSnJACK OF HEARTSnKNIGHT OF HEARTS",
    "nQUEEN OF HEARTSnKING OF HEARTSnRED JOKER@1F0C1nACE OF DIAMONDSnTWO OF DIAMONDS",
    "oHREE OF DIAMONDSnFOUR OF DIAMONDSoIVE OF DIAMONDSnSIX OF DIAMONDSoEVEN OF DIAMONDS",
    "nEIGHT OF DIAMONDSnNINE OF DIAMONDSnTEN OF DIAMONDSnJACK OF DIAMONDSnKNIGHT OF DIAMONDS",
    "nQUEEN OF DIAMONDSnKING OF DIAMONDSnBLACK JOKER@1F0D1nACE OF CLUBSnTWO OF CLUBSoHREE OF CLUBS",
    "nFOUR OF CLUBSoIVE OF CLUBSnSIX OF CLUBSoEVEN OF CLUBSnEIGHT OF CLUBSnNINE OF CLUBS",
    "nTEN OF CLUBSnJACK OF CLUBSnKNIGHT OF CLUBSnQUEEN OF CLUBSnKING OF CLUBSnWHITE JOKERnFOOL",
    "nTRUMP-1t2t3t4t5t6t7t8t9t10u1u2u3u4u5u6u7u8u9t20u1@1F100aDIGIT ZERO FULL STOPlCOMMAgONE COMMA",
    "gTWO COMMAhHREE COMMAgFOUR COMMAhIVE COMMAgSIX COMMAhEVEN COMMAgEIGHT COMMAgNINE COMMA",
    "cNGBAT CIRCLED SANS-SERIF DIGIT ZEROiNEGATIVE CIRCLED SANS-SERIF DIGIT ZERO",
    "aCIRCLED ZERO WITH SLASHiANTICLOCKWISE ARROWiDOLLAR SIGN WITH OVERLAID BACKSLASH",
    "aPARENTHESIZED LATIN CAPITAL LETTER AzkBzkCzkDzkEzkFzkGzkHzkIzkJzkKzkLzkMzkNzkOzkPzkQzkRzkS",
    "zkTzkUzkVzkWzkXzkYzkZaTORTOISE SHELL BRACKETED LATIN CAPITAL LETTER S",
    "aCIRCLED ITALIC LATIN CAPITAL LETTER CzlRiCDiWZbOPYLEFT SYMBOLaSQUARED LATIN CAPITAL LETTER A",
    "zeBzeCzeDzeEzeFzeGzeHzeIzeJzeKzeLzeMzeNzeOzePzeQzeRzeSzeTzeUzeVzeWzeXzeYzeZiHViMViSDjSiPPViWC",
    "aNEGATIVE CIRCLED LATIN CAPITAL LETTER AznBznCznDznEznFznGznHznIznJznKznLznMznNznOznPznQznR",
    "znSznTznUznVznWznXznYznZaRAISED MC SIGNiD SIGNiR SIGNaCIRCLED CCj WITH OVERLAID BACKSLASH",
    "iHUMAN FIGUREaNEGATIVE SQUARED LATIN CAPITAL LETTER AznBznCznDznEznFznGznHznIznJznKznLznMznN",
    "znOznPznQznRznSznTznUznVznWznXznYznZaCROSSED NEGATIVE SQUARED LATIN CAPITAL LETTER P",
    "aNEGATIVE SQUARED ICrPArSArABrWCaSQUARE DJgD CLjOOLiFREEiIDiNEWjGiOKiSOS",
    "iUP WITH EXCLAMATION MARKiVSiTHREE DiSECOND SCREENiTWO KiFOUR KiEIGHT KiFIVE POINT ONE",
    "iSEVEN POINT ONEiTWENTY-TWO POINT TWOiSIXTY PiONE HUNDRED TWENTY PiLATIN SMALL LETTER DiHCjDR",
    "jI-RESiLOSSLESSiSHViUHDiVODaMASK WORK SYMBOL@1F1E6aREGIONAL INDICATOR SYMBOL LETTER AziBziC",
    "ziDziEziFziGziHziIziJziKziLziMziNziOziPziQziRziSziTziUziVziWziXziYziZaSQUARE HIRAGANA HOKA",
    "gD KATAKANA KOKOrSA@1F210iCJK UNIFIED IDEOGRAPH-624Bzf5B57zg3CCiKATAKANA DE",
    "iCJK UNIFIED IDEOGRAPH-4E8Czf591Azf89E3zf5929zf4EA4zf6620zf7121zf6599zf524DzgF8Czg18Dzf65B0",
    "zf521Dzf7D42zg51Fzf8CA9zf58F0zg439zf6F14zg295zg355zf4E00zi9zf904Azf5DE6zf4E2Dzf53F3zf6307",
    "zf8D70zf6253zf7981zgA7Azf5408zf6E80zg709zi8zf7533zf5272zg5B6zf914D",
    "@1F240aTORTOISE SHELL BRACKETED CJK UNIFIED IDEOGRAPH-672Czw4E09zy8Czw5B89zw70B9zw6253zw76D7",
    "zw52DDzw6557@1F250aCIRCLED IDEOGRAPH ADVANTAGEtCCEPT@1F260aROUNDED SYMBOL FOR FUtLUtSHOUtXI",
    "tSHUANGXItCAI@1F300aCYCLONEaFOGGYaCLOSED UMBRELLAaNIGHT WITH STARSaSUNRISE OVER MOUNTAINSh",
    "aCITYSCAPE AT DUSKaSUNSET OVER BUILDINGSaRAINBOWaBRIDGE AT NIGHTaWATER WAVEaVOLCANOaMILKY WAY",
    "aEARTH GLOBE EUROPE-AFRICAmAMERICASnSIA-AUSTRALIAaGLOBE WITH MERIDIANSaNEW MOON SYMBOL",
    "aWAXING CRESCENT MOON SYMBOLaFIRST QUARTER MOON SYMBOLaWAXING GIBBOUS MOON SYMBOL",
    "aFULL MOON SYMBOLaWANING GIBBOUS MOON SYMBOLaLAST QUARTER MOON SYMBOL",
    "aWANING CRESCENT MOON SYMBOLaCRESCENT MOONaNEW MOON WITH FACEaFIRST QUARTER MOON WITH FACE",
    "aLAST QUARTER MOON WITH FACEaFULL MOON WITH FACEaSUN WITH FACEaGLOWING STARaSHOOTING STAR",
    "aTHERMOMETERaBLACK DROPLETaWHITE SUNj WITH SMALL CLOUDkBEHIND CLOUDw WITH RAIN",
    "aCLOUD WITH RAINlSNOWlLIGHTNINGlTORNADOaFOGaWIND BLOWING FACEaHOT DOGaTACOaBURRITOaCHESTNUT",
    "aSEEDLINGaEVERGREEN TREEaDECIDUOUS TREEaPALM TREEaCACTUSaHOT PEPPERaTULIPaCHERRY BLOSSOMaROSE",
    "aHIBISCUSaSUNFLOWERaBLOSSOMaEAR OF MAIZEhRICEaHERBaFOUR LEAF CLOVERaMAPLE LEAFaFALLEN LEAF",
    "aLEAF FLUTTERING IN WINDaMUSHROOMaTOMATOaAUBERGINEaGRAPESaMELONaWATERMELONaTANGERINEaLEMON",
    "aBANANAaPINEAPPLEaRED APPLEaGREEN APPLEaPEARdCHaCHERRIESaSTRAWBERRYaHAMBURGERaSLICE OF PIZZA",
    "aMEAT ON BONEaPOULTRY LEGaRICE CRACKERfBALLaCOOKED RICEbURRY AND RICEaSTEAMING BOWLbPAGHETTI",
    "aBREADaFRENCH FRIESaROASTED SWEET POTATOaDANGOaODENaSUSHIaFRIED SHRIMP",
    "bISH CAKE WITH SWIRL DESIGNaSOFT ICE CREAMbHAVED ICEaICE CREAMaDOUGHNUTaCOOKIEbHOCOLATE BAR",
    "bANDYaLOLLIPOPaCUSTARDaHONEY POTaSHORTCAKEaBENTO BOXaPOT OF FOODaCOOKINGaFORK AND KNIFE",
    "aTEACUP WITHOUT HANDLEaSAKE BOTTLE AND CUPaWINE GLASSaCOCKTAIL GLASSaTROPICAL DRINKaBEER MUG",
    "aCLINKING BEER MUGSaBABY BOTTLEaFORK AND KNIFE WITH PLATEaBOTTLE WITH POPPING CORKaPOPCORN",
    "aRIBBONaWRAPPED PRESENTaBIRTHDAY CAKEaJACK-O-LANTERNaCHRISTMAS TREEaFATHER CHRISTMASbIREWORKS",
    "i SPARKLERaBALLOONaPARTY POPPERaCONFETTI BALLaTANABATA TREEaCROSSED FLAGSaPINE DECORATION",
    "aJAPANESE DOLLSaCARP STREAMERaWIND CHIMEaMOON VIEWING CEREMONYaSCHOOL SATCHELaGRADUATION CAP",
    "aHEART WITH TIP ON THE LEFTaBOUQUET OF FLOWERSaMILITARY MEDALaREMINDER RIBBON",
    "aMUSICAL KEYBOARD WITH JACKSaSTUDIO MICROPHONEaLEVEL SLIDERaCONTROL KNOBS",
    "aBEAMED ASCENDING MUSICAL NOTEShDESCENDING MUSICAL NOTESaFILM FRAMESaADMISSION TICKETS",
    "aCAROUSEL HORSEaFERRIS WHEELaROLLER COASTERaFISHING POLE AND FISHaMICROPHONEbOVIE CAMERA",
    "aCINEMAaHEADPHONEaARTIST PALETTEaTOP HATaCIRCUS TENTaTICKETaCLAPPER BOARDaPERFORMING ARTS",
    "aVIDEO GAMEaDIRECT HITaSLOT MACHINEaBILLIARDSaGAME DIEaBOWLINGaFLOWER PLAYING CARDS",
    "aMUSICAL NOTEcLTIPLE MUSICAL NOTESaSAXOPHONEaGUITARaMUSICAL KEYBOARDaTRUMPETaVIOLIN",
    "aMUSICAL SCOREaRUNNING SHIRT WITH SASHaTENNIS RACQUET AND BALLaSKI AND SKI BOOT",
    "aBASKETBALL AND HOOPaCHEQUERED FLAGaSNOWBOARDERaRUNNERaSURFERbPORTS MEDALaTROPHYaHORSE RACING",
    "aAMERICAN FOOTBALLaRUGBY FOOTBALLaSWIMMERaWEIGHT LIFTERaGOLFERaRACING MOTORCYCLEhCAR",
    "aCRICKET BAT AND BALLaVOLLEYBALLaFIELD HOCKEY STICK AND BALLaICE HOCKEY STICK AND PUCK",
    "aTABLE TENNIS PADDLE AND BALLaSNOW CAPPED MOUNTAINaCAMPINGaBEACH WITH UMBRELLA",
    "bUILDING CONSTRUCTIONaHOUSE BUILDINGSaCITYSCAPEaDERELICT HOUSE BUILDINGaCLASSICAL BUILDING",
    "aDESERTg ISLANDaNATIONAL PARKaSTADIUMaHOUSE BUILDINGgWITH GARDENaOFFICE BUILDING",
    "aJAPANESE POST OFFICEaEUROPEAN POST OFFICEaHOSPITALaBANKaAUTOMATED TELLER MACHINEaHOTEL",
    "aLOVE HOTELaCONVENIENCE STOREaSCHOOLaDEPARTMENT STOREaFACTORYaIZAKAYA LANTERNaJAPANESE CASTLE",
    "aEUROPEAN CASTLEaWHITE PENNANTaBLACK PENNANTaWAVING WHITE FLAGhBLACK FLAGaROSETTE",
    "aBLACK ROSETTEaLABELaBADMINTON RACQUET AND SHUTTLECOCKbOW AND ARROWaAMPHORA",
    "aEMOJI MODIFIER FITZPATRICK TYPE-1-2zh3zh4zh5zh6aRATaMOUSEaOXaWATER BUFFALOaCOWaTIGERaLEOPARD",
    "aRABBITaCATaDRAGONaCROCODILEaWHALEaSNAILdKEaHORSEaRAMaGOATaSHEEPaMONKEYaROOSTERaCHICKENaDOG",
    "aPIGaBOARaELEPHANTaOCTOPUSaSPIRAL SHELLaBUGaANTaHONEYBEEaLADY BEETLEaFISHaTROPICAL FISH",
    "aBLOWFISHaTURTLEaHATCHING CHICKaBABY CHICKaFRONT-FACING BABY CHICKaBIRDaPENGUINaKOALAaPOODLE",
    "aDROMEDARY CAMELaBACTRIAN CAMELaDOLPHINaMOUSE FACEaCOW FACEaTIGER FACEaRABBIT FACEaCAT FACE",
    "aDRAGON FACEaSPOUTING WHALEaHORSE FACEaMONKEY FACEaDOG FACEaPIG FACEaFROG FACEaHAMSTER FACE",
    "aWOLF FACEaBEAR FACEaPANDA FACEbIG NOSEbAW PRINTSaCHIPMUNKaEYESdbARaNOSEaMOUTHaTONGUE",
    "aWHITE UP POINTING BACKHAND INDEXgDOWN POINTING BACKHAND INDEXgLEFT POINTING BACKHAND INDEX",
    "gRIGHT POINTING BACKHAND INDEXaFISTED HAND SIGNaWAVING HAND SIGNaOK HAND SIGNaTHUMBS UP SIGN",
    "hDOWN SIGNaCLAPPING HANDS SIGNaOPEN HANDS SIGNaCROWNaWOMANS HATaEYEGLASSESaNECKTIEaT-SHIRT",
    "aJEANSaDRESSaKIMONOaBIKINIaWOMANS CLOTHESaPURSEaHANDBAGaPOUCHaMANS SHOEaATHLETIC SHOE",
    "aHIGH-HEELED SHOEaWOMANS SANDALhBOOTSaFOOTPRINTSaBUST IN SILHOUETTEeS IN SILHOUETTEbOYaGIRL",
    "aMANaWOMANaFAMILYaMAN AND WOMAN HOLDING HANDSaTWO MEN HOLDING HANDSeWOMEN HOLDING HANDS",
    "aPOLICE OFFICERaWOMAN WITH BUNNY EARSaBRIDE WITH VEILaPERSON WITH BLOND HAIR",
    "aMAN WITH GUA PI MAOjTURBANaOLDER MANgWOMANaBABYaCONSTRUCTION WORKERaPRINCESSaJAPANESE OGRE",
    "jGOBLINaGHOSTaBABY ANGELaEXTRATERRESTRIAL ALIENaALIEN MONSTERaIMPaSKULL",
    "aINFORMATION DESK PERSONaGUARDSMANaDANCERaLIPSTICKaNAIL POLISHaFACE MASSAGEaHAIRCUT",
    "aBARBER POLEaSYRINGEaPILLaKISS MARKaLOVE LETTERaRINGaGEM STONEaKISSaBOUQUETaCOUPLE WITH HEART",
    "aWEDDINGaBEATING HEARTbROKEN HEARTaTWO HEARTSaSPARKLING HEARTaGROWING HEARTaHEART WITH ARROW",
    "aBLUE HEARTaGREEN HEARTaYELLOW HEARTaPURPLE HEARTaHEART WITH RIBBONaREVOLVING HEARTS",
    "aHEART DECORATIONaDIAMOND SHAPE WITH A DOT INSIDEaELECTRIC LIGHT BULBaANGER SYMBOLaBOMB",
    "aSLEEPING SYMBOLaCOLLISION SYMBOLaSPLASHING SWEAT SYMBOLaDROPLETbASH SYMBOLaPILE OF POO",
    "aFLEXED BICEPSaDIZZY SYMBOLaSPEECH BALLOONaTHOUGHT BALLOONaWHITE FLOWERaHUNDRED POINTS SYMBOL",
    "aMONEY BAGaCURRENCY EXCHANGEaHEAVY DOLLAR SIGNaCREDIT CARDaBANKNOTE WITH YEN SIGNoDOLLAR SIGN",
    "oEURO SIGNoPOUND SIGNaMONEY WITH WINGSaCHART WITH UPWARDS TREND AND YEN SIGNaSEAT",
    "aPERSONAL COMPUTERaBRIEFCASEaMINIDISCaFLOPPY DISKaOPTICAL DISCaDVDaFILE FOLDER",
    "aOPEN FILE FOLDERaPAGE WITH CURLfFACING UPaCALENDARaTEAR-OFF CALENDARaCARD INDEX",
    "bHART WITH UPWARDS TRENDlDOWNWARDS TRENDaBAR CHARTaCLIPBOARDaPUSHPINaROUND PUSHPINaPAPERCLIP",
    "aSTRAIGHT RULERaTRIANGULAR RULERaBOOKMARK TABSaLEDGERaNOTEBOOKi WITH DECORATIVE COVER",
    "aCLOSED BOOKaOPEN BOOKaGREEN BOOKaBLUE BOOKaORANGE BOOKaBOOKSaNAME BADGEaSCROLLaMEMO",
    "aTELEPHONE RECEIVERaPAGERaFAX MACHINEaSATELLITE ANTENNAaPUBLIC ADDRESS LOUDSPEAKER",
    "aCHEERING MEGAPHONEaOUTBOX TRAYaINBOX TRAYaPACKAGEaE-MAIL SYMBOLaINCOMING ENVELOPE",
    "aENVELOPE WITH DOWNWARDS ARROW ABOVEaCLOSED MAILBOX WITH LOWERED FLAGuRAISED FLAG",
    "aOPEN MAILBOX WITH RAISED FLAGsLOWERED FLAGaPOSTBOXeAL HORNaNEWSPAPERaMOBILE PHONE",
    "m WITH RIGHTWARDS ARROW AT LEFTaVIBRATION MODEaMOBILE PHONE OFFaNO MOBILE PHONES",
    "aANTENNA WITH BARSaCAMERAg WITH FLASHaVIDEO CAMERAaTELEVISIONaRADIOaVIDEOCASSETTE",
    "aFILM PROJECTORaPORTABLE STEREObRAYER BEADSaTWISTED RIGHTWARDS ARROWS",
    "aCLOCKWISE RIGHTWARDS AND LEFTWARDS OPEN CIRCLE ARROWSzzd WITH CIRCLED ONE OVERLAY",
    "kDOWNWARDS AND UPWARDS OPEN CIRCLE ARROWS",
    "aANTICLOCKWISE DOWNWARDS AND UPWARDS OPEN CIRCLE ARROWSaLOW BRIGHTNESS SYMBOL",
    "aHIGH BRIGHTNESS SYMBOLaSPEAKER WITH CANCELLATION STROKEhh WITH ONE SOUND WAVE",
    "nTHREE SOUND WAVESaBATTERYaELECTRIC PLUGaLEFT-POINTING MAGNIFYING GLASS",
    "aRIGHT-POINTING MAGNIFYING GLASSaLOCK WITH INK PENaCLOSED LOCK WITH KEYaKEYaLOCKaOPEN LOCK",
    "aBELLe WITH CANCELLATION STROKEbOOKMARKaLINK SYMBOLaRADIO BUTTON",
    "aBACK WITH LEFTWARDS ARROW ABOVEaEND WITH LEFTWARDS ARROW ABOVE",
    "aON WITH EXCLAMATION MARK WITH LEFT RIGHT ARROW ABOVEaSOON WITH RIGHTWARDS ARROW ABOVE",
    "aTOP WITH UPWARDS ARROW ABOVEaNO ONE UNDER EIGHTEEN SYMBOLaKEYCAP TEN",
    "aINPUT SYMBOL FOR LATIN CAPITAL LETTERSxSMALL LETTERSrNUMBERSrSYMBOLSrLATIN LETTERSaFIRE",
    "aELECTRIC TORCHaWRENCHaHAMMERaNUT AND BOLTaHOCHOaPISTOLaMICROSCOPEaTELESCOPEaCRYSTAL BALL",
    "aSIX POINTED STAR WITH MIDDLE DOTaJAPANESE SYMBOL FOR BEGINNERaTRIDENT EMBLEM",
    "aBLACK SQUARE BUTTONaWHITE SQUARE BUTTONaLARGE RED CIRCLEgBLUE CIRCLEgORANGE DIAMOND",
    "gBLUE DIAMONDaSMALL ORANGE DIAMONDgBLUE DIAMONDaUP-POINTING RED TRIANGLE",
    "aDOWN-POINTING RED TRIANGLEaUP-POINTING SMALL RED TRIANGLEaDOWN-POINTING SMALL RED TRIANGLE",
    "aLOWER RIGHT SHADOWED WHITE CIRCLEaUPPER RIGHT SHADOWED WHITE CIRCLEaCIRCLED CROSS POMMEE",
    "bROSS POMMEE WITH HALF-CIRCLE BELOWmaNOTCHED LEFT SEMICIRCLE WITH THREE DOTS",
    "iRIGHT SEMICIRCLE WITH THREE DOTSaSYMBOL FOR MARKS CHAPTERaWHITE LATIN CROSS",
    "aHEAVY LATIN CROSSaCELTIC CROSSaOM SYMBOLaDOVE OF PEACEaKAABAaMOSQUEaSYNAGOGUE",
    "aMENORAH WITH NINE BRANCHESaBOWL OF HYGIEIAaCLOCK FACE ONE OCLOCKlTWO OCLOCKmHREE OCLOCK",
    "lFOUR OCLOCKmIVE OCLOCKlSIX OCLOCKmEVEN OCLOCKlEIGHT OCLOCKlNINE OCLOCKlTEN OCLOCK",
    "lELEVEN OCLOCKlTWELVE OCLOCKlONE-THIRTYlTWO-THIRTYmHREE-THIRTYlFOUR-THIRTYmIVE-THIRTY",
    "lSIX-THIRTYmEVEN-THIRTYlEIGHT-THIRTYlNINE-THIRTYlTEN-THIRTYlELEVEN-THIRTYlTWELVE-THIRTY",
    "aRIGHT SPEAKERn WITH ONE SOUND WAVEtTHREE SOUND WAVESaBULLHORNi WITH SOUND WAVESaRINGING BELL",
    "aBOOKaCANDLEaMANTELPIECE CLOCKaBLACK SKULL AND CROSSBONESaNO PIRACYaHOLE",
    "aMAN IN BUSINESS SUIT LEVITATINGaSLEUTH OR SPYaDARK SUNGLASSESaSPIDERg WEBaJOYSTICK",
    "aMAN DANCINGaLEFT HAND TELEPHONE RECEIVERaTELEPHONE RECEIVER WITH PAGE",
    "aRIGHT HAND TELEPHONE RECEIVERaWHITE TOUCHTONE TELEPHONEaBLACK TOUCHTONE TELEPHONE",
    "aTELEPHONE ON TOP OF MODEMaCLAMSHELL MOBILE PHONEaBACK OF ENVELOPEaSTAMPED ENVELOPE",
    "aENVELOPE WITH LIGHTNINGaFLYING ENVELOPEaPEN OVER STAMPED ENVELOPEaLINKED PAPERCLIPS",
    "aBLACK PUSHPINaLOWER LEFT PENCILlBALLPOINT PENlFOUNTAIN PENlPAINTBRUSHlCRAYON",
    "bEFT WRITING HANDaTURNED OK HAND SIGNaRAISED HAND WITH FINGERS SPLAYED",
    "bEVERSED RAISED HAND WITH FINGERS SPLAYEDjTHUMBS UP SIGNqDOWN SIGNjVICTORY HAND",
    "jHAND WITH MIDDLE FINGER EXTENDEDbAISED HAND WITH PART BETWEEN MIDDLE AND RING FINGERS",
    "aWHITE DOWN POINTING LEFT HAND INDEXaSIDEWAYS WHITE LEFT POINTING INDEXpRIGHT POINTING INDEX",
    "jBLACK LEFT POINTING INDEXpRIGHT POINTING INDEXaBLACK LEFT POINTING BACKHAND INDEX",
    "gRIGHT POINTING BACKHAND INDEXaSIDEWAYS WHITE UP POINTING INDEXpDOWN POINTING INDEX",
    "jBLACK UP POINTING INDEXpDOWN POINTING INDEXaBLACK UP POINTING BACKHAND INDEX",
    "gDOWN POINTING BACKHAND INDEXgHEARTaDESKTOP COMPUTERaKEYBOARD AND MOUSE",
    "aTHREE NETWORKED COMPUTERSaPRINTERbOCKET CALCULATORaBLACK HARD SHELL FLOPPY DISK",
    "aWHITE HARD SHELL FLOPPY DISKaSOFT SHELL FLOPPY DISKaTAPE CARTRIDGEaWIRED KEYBOARD",
    "aONE BUTTON MOUSEaTWO BUTTON MOUSEbHREE BUTTON MOUSEbRACKBALLaOLD PERSONAL COMPUTERaHARD DISK",
    "aSCREENaPRINTER ICONaFAX ICONaOPTICAL DISC ICONaDOCUMENT WITH TEXTs AND PICTUREoPICTURE",
    "aFRAME WITH PICTURElTILESlAN XaBLACK FOLDERaFOLDERaOPEN FOLDERaCARD INDEX DIVIDERSfFILE BOX",
    "aFILE CABINETaEMPTY NOTEk PAGEnDaNOTEe PAGEhDaEMPTY DOCUMENTgPAGEkSaDOCUMENTaPAGEeS",
    "aWASTEBASKETaSPIRAL NOTE PADhCALENDAR PADaDESKTOP WINDOWaMINIMIZEbAXIMIZEaOVERLAP",
    "aCLOCKWISE RIGHT AND LEFT SEMICIRCLE ARROWSbANCELLATION XaINCREASE FONT SIZE SYMBOL",
    "aDECREASE FONT SIZE SYMBOLaCOMPRESSIONaOLD KEYaROLLED-UP NEWSPAPERaPAGE WITH CIRCLED TEXT",
    "aSTOCK CHARTaDAGGER KNIFEaLIPSaSPEAKING HEAD IN SILHOUETTEaTHREE RAYS ABOVElBELOWlLEFTlRIGHT",
    "aLEFT SPEECH BUBBLEaRIGHT SPEECH BUBBLEaTWO SPEECH BUBBLESbHREE SPEECH BUBBLES",
    "aLEFT THOUGHT BUBBLEaRIGHT THOUGHT BUBBLEaLEFT ANGER BUBBLEaRIGHT ANGER BUBBLEaMOOD BUBBLE",
    "aLIGHTNING MOOD BUBBLEoaBALLOT BOX WITH BALLOThSCRIPT XhBOX WITH SCRIPT XjLD SCRIPT X",
    "jX WITH BOLD SCRIPT XaLIGHT CHECK MARKaBALLOT BOX WITH BOLD CHECKaWORLD MAPaMOUNT FUJI",
    "aTOKYO TOWERaSTATUE OF LIBERTYbILHOUETTE OF JAPANaMOYAIaGRINNING FACEn WITH SMILING EYES",
    "aFACE WITH TEARS OF JOYaSMILING FACE WITH OPEN MOUTHzd AND SMILING EYESziCOLD SWEAT",
    "ziTIGHTLY-CLOSED EYESsHALOtORNSaWINKING FACEaSMILING FACE WITH SMILING EYES",
    "aFACE SAVOURING DELICIOUS FOODaRELIEVED FACEaSMILING FACE WITH HEART-SHAPED EYESsSUNGLASSES",
    "dRKING FACEaNEUTRAL FACEaEXPRESSIONLESS FACEaUNAMUSED FACEaFACE WITH COLD SWEATaPENSIVE FACE",
    "aCONFUSED FACEeOUNDED FACEaKISSING FACEaFACE THROWING A KISSaKISSING FACE WITH SMILING EYES",
    "sCLOSED EYESaFACE WITH STUCK-OUT TONGUEzb AND WINKING EYEzgTIGHTLY-CLOSED EYES",
    "aDISAPPOINTED FACEaWORRIED FACEaANGRY FACEaPOUTING FACEaCRYING FACEaPERSEVERING FACE",
    "aFACE WITH LOOK OF TRIUMPHaDISAPPOINTED BUT RELIEVED FACEaFROWNING FACE WITH OPEN MOUTH",
    "aANGUISHED FACEaFEARFUL FACEaWEARY FACEaSLEEPY FACEaTIRED FACEaGRIMACING FACE",
    "aLOUDLY CRYING FACEaFACE WITH OPEN MOUTHaHUSHED FACEaFACE WITH OPEN MOUTH AND COLD SWEAT",
    "fSCREAMING IN FEARaASTONISHED FACEaFLUSHED FACEaSLEEPING FACEaDIZZY FACEaFACE WITHOUT MOUTH",
    "j MEDICAL MASKaGRINNING CAT FACE WITH SMILING EYESaCAT FACE WITH TEARS OF JOY",
    "aSMILING CAT FACE WITH OPEN MOUTHwHEART-SHAPED EYESaCAT FACE WITH WRY SMILE",
    "aKISSING CAT FACE WITH CLOSED EYESaPOUTING CAT FACEaCRYING CAT FACEaWEARY CAT FACE",
    "aSLIGHTLY FROWNING FACEjSMILING FACEaUPSIDE-DOWN FACEaFACE WITH ROLLING EYESkNO GOOD GESTURE",
    "kOK GESTUREaPERSON BOWING DEEPLYaSEE-NO-EVIL MONKEYaHEAR-NO-EVIL MONKEYaSPEAK-NO-EVIL MONKEY",
    "aHAPPY PERSON RAISING ONE HANDaPERSON RAISING BOTH HANDS IN CELEBRATIONhFROWNING",
    "hWITH POUTING FACEmFOLDED HANDSaNORTH WEST POINTING LEAFaSOUTH WEST POINTING LEAF",
    "aNORTH EAST POINTING LEAFaSOUTH EAST POINTING LEAFaTURNED NORTH WEST POINTING LEAF",
    "hSOUTH WEST POINTING LEAFhNORTH EAST POINTING LEAFhSOUTH EAST POINTING LEAF",
    "aNORTH WEST POINTING VINE LEAFaSOUTH WEST POINTING VINE LEAFaNORTH EAST POINTING VINE LEAF",
    "aSOUTH EAST POINTING VINE LEAFaHEAVY NORTH WEST POINTING VINE LEAF",
    "gSOUTH WEST POINTING VINE LEAFgNORTH EAST POINTING VINE LEAFgSOUTH EAST POINTING VINE LEAF",
    "aNORTH WEST POINTING BUDaSOUTH WEST POINTING BUDaNORTH EAST POINTING BUD",
    "aSOUTH EAST POINTING BUDaHEAVY NORTH WEST POINTING BUDgSOUTH WEST POINTING BUD",
    "gNORTH EAST POINTING BUDgSOUTH EAST POINTING BUDbOLLOW QUILT SQUARE ORNAMENT",
    "zd IN BLACK SQUAREaSOLID QUILT SQUARE ORNAMENTzc IN BLACK SQUAREaLEFTWARDS ROCKET",
    "aUPWARDS ROCKETaRIGHTWARDS ROCKETaDOWNWARDS ROCKETaSCRIPT LIGATURE ET ORNAMENT",
    "aHEAVY SCRIPT LIGATURE ET ORNAMENTaLIGATURE OPEN ET ORNAMENTaHEAVY LIGATURE OPEN ET ORNAMENT",
    "gAMPERSAND ORNAMENTaSWASH AMPERSAND ORNAMENT",
    "bANS-SERIF HEAVY DOUBLE TURNED COMMA QUOTATION MARK ORNAMENTyCOMMA QUOTATION MARK ORNAMENT",
    "rLOW DOUBLE COMMA QUOTATION MARK ORNAMENTaHEAVY INTERROBANG ORNAMENT",
    "aSANS-SERIF INTERROBANG ORNAMENTaHEAVY SANS-SERIF INTERROBANG ORNAMENTaVERY HEAVY SOLIDUS",
    "lREVERSE SOLIDUSaCHECKER BOARDaREVERSE CHECKER BOARDbOCKETaHELICOPTERaSTEAM LOCOMOTIVE",
    "aRAILWAY CARaHIGH-SPEED TRAINq WITH BULLET NOSEaTRAINaMETROaLIGHT RAILaSTATIONaTRAMe CARaBUS",
    "aONCOMING BUSaTROLLEYBUSaBUS STOPaMINIBUSaAMBULANCEaFIRE ENGINEaPOLICE CAR",
    "aONCOMING POLICE CARaTAXIaONCOMING TAXIaAUTOMOBILEaONCOMING AUTOMOBILEaRECREATIONAL VEHICLE",
    "aDELIVERY TRUCKaARTICULATED LORRYaTRACTORaMONORAILcUNTAIN RAILWAYaSUSPENSION RAILWAY",
    "aMOUNTAIN CABLEWAYaAERIAL TRAMWAYaSHIPaROWBOATaSPEEDBOATaHORIZONTAL TRAFFIC LIGHT",
    "aVERTICAL TRAFFIC LIGHTaCONSTRUCTION SIGNaPOLICE CARS REVOLVING LIGHTaTRIANGULAR FLAG ON POST",
    "aDOORaNO ENTRY SIGNaSMOKING SYMBOLaNO SMOKING SYMBOLaPUT LITTER IN ITS PLACE SYMBOL",
    "aDO NOT LITTER SYMBOLaPOTABLE WATER SYMBOLaNON-POTABLE WATER SYMBOLaBICYCLEaNO BICYCLES",
    "aBICYCLISTaMOUNTAIN BICYCLISTaPEDESTRIANaNO PEDESTRIANSaCHILDREN CROSSINGaMENS SYMBOL",
    "aWOMENS SYMBOLaRESTROOMaBABY SYMBOLaTOILETaWATER CLOSETaSHOWERaBATHeTUBaPASSPORT CONTROL",
    "aCUSTOMSaBAGGAGE CLAIMaLEFT LUGGAGEaTRIANGLE WITH ROUNDED CORNERSaPROHIBITED SIGN",
    "aCIRCLED INFORMATION SOURCEaBOYS SYMBOLaGIRLS SYMBOLaCOUCH AND LAMPaSLEEPING ACCOMMODATION",
    "bHOPPING BAGSaBELLHOP BELLcDaPLACE OF WORSHIPaOCTAGONAL SIGNaSHOPPING TROLLEYbTUPAaPAGODA",
    "aHINDU TEMPLEbUTaELEVATOR@1F6DDaPLAYGROUND SLIDEaWHEELaRING BUOYaHAMMER AND WRENCHaSHIELD",
    "aOIL DRUMaMOTORWAYaRAILWAY TRACKaMOTOR BOATaUP-POINTING MILITARY AIRPLANEmAIRPLANE",
    "mSMALL AIRPLANEaSMALL AIRPLANEaNORTHEAST-POINTING AIRPLANEaAIRPLANE DEPARTUREjARRIVING",
    "@1F6F0aSATELLITEaONCOMING FIRE ENGINEaDIESEL LOCOMOTIVEaPASSENGER SHIPaSCOOTERaMOTOR SCOOTER",
    "aCANOEaSLEDaFLYING SAUCERaSKATEBOARDaAUTO RICKSHAWaPICKUP TRUCKaROLLER SKATE",
    "@1F700aALCHEMICAL SYMBOL FOR QUINTESSENCEwAIRwFIREwEARTHwWATERwAQUAFORTISzb REGIAzh-2zcVITAE",
    "zh-2wVINEGARze-2zf3wSULFURwPHILOSOPHERS SULFURwBLACK SULFURwMERCURY SUBLIMATEzo-2zp3wCINNABAR",
    "wSALTwNITREwVITRIOLze-2wROCK SALTzg-2wGOLDwSILVERwIRON OREzf-2wCROCUS OF IRONwREGULUS OF IRON",
    "wCOPPER OREwIRON-COPPER OREwSUBLIMATE OF COPPERwCROCUS OF COPPERzn-2xOPPER ANTIMONIATE",
    "wSALT OF COPPER ANTIMONIATExUBLIMATE OF SALT OF COPPERwVERDIGRISwTIN OREwLEAD ORE",
    "wANTIMONY OREwSUBLIMATE OF ANTIMONYxALT OF ANTIMONYxUBLIMATE OF SALT OF ANTIMONY",
    "wVINEGAR OF ANTIMONYwREGULUS OF ANTIMONYzq-2zeze-2zf3zf4wALKALIzd-2wMARCASITEwSAL-AMMONIAC",
    "wARSENICwREALGARze-2wAURIPIGMENTwBISMUTH OREwTARTARzd-2wQUICK LIMEwBORAXzc-2zd3wALUMwOIL",
    "wSPIRITwTINCTUREwGUMwWAXwPOWDERwCALXwTUTTYwCAPUT MORTUUMwSCEPTER OF JOVEwCADUCEUSwTRIDENT",
    "wSTARRED TRIDENTwLODESTONEwSOAPwURINEwHORSE DUNGwASHESwPOT ASHESwBRICKwPOWDERED BRICKwAMALGAM",
    "wSTRATUM SUPER STRATUMzs-2xUBLIMATIONwPRECIPITATEwDISTILLzaSOLVEzf-2wPURIFYyTREFACTION",
    "wCRUCIBLEzf-2zg3zg4zg5wALEMBICwBATH OF MARYzfVAPOURSwRETORTwHOURwNIGHTwDAY-NIGHTwMONTH",
    "wHALF DRAMzcOUNCE@1F780aBLACK LEFT-POINTING ISOSCELES RIGHT TRIANGLE",
    "gUP-POINTING ISOSCELES RIGHT TRIANGLEgRIGHT-POINTING ISOSCELES RIGHT TRIANGLE",
    "gDOWN-POINTING ISOSCELES RIGHT TRIANGLEgSLIGHTLY SMALL CIRCLEaMEDIUM BOLD WHITE CIRCLE",
    "aBOLD WHITE CIRCLEaHEAVY WHITE CIRCLEaVERY HEAVY WHITE CIRCLEaEXTREMELY HEAVY WHITE CIRCLE",
    "aWHITE CIRCLE CONTAINING BLACK SMALL CIRCLEaROUND TARGETaBLACK TINY SQUARE",
    "gSLIGHTLY SMALL SQUAREaLIGHT WHITE SQUAREaMEDIUM WHITE SQUAREaBOLD WHITE SQUARE",
    "aHEAVY WHITE SQUAREaVERY HEAVY WHITE SQUAREaEXTREMELY HEAVY WHITE SQUARE",
    "aWHITE SQUARE CONTAINING BLACK VERY SMALL SQUAREzfMEDIUM SQUAREaSQUARE TARGET",
    "aBLACK TINY DIAMONDgVERY SMALL DIAMONDgMEDIUM SMALL DIAMOND",
    "aWHITE DIAMOND CONTAINING BLACK VERY SMALL DIAMONDzgMEDIUM DIAMONDaDIAMOND TARGET",
    "aBLACK TINY LOZENGEgVERY SMALL LOZENGEgMEDIUM SMALL LOZENGE",
    "aWHITE LOZENGE CONTAINING BLACK SMALL LOZENGEaTHIN GREEK CROSSaLIGHT GREEK CROSS",
    "aMEDIUM GREEK CROSSaBOLD GREEK CROSSaVERY BOLD GREEK CROSSfHEAVY GREEK CROSS",
    "aEXTREMELY HEAVY GREEK CROSSaTHIN SALTIREaLIGHT SALTIREaMEDIUM SALTIREaBOLD SALTIRE",
    "aHEAVY SALTIREaVERY HEAVY SALTIREaEXTREMELY HEAVY SALTIREaLIGHT FIVE SPOKED ASTERISK",
    "aMEDIUM FIVE SPOKED ASTERISKaBOLD FIVE SPOKED ASTERISKaHEAVY FIVE SPOKED ASTERISK",
    "aVERY HEAVY FIVE SPOKED ASTERISKaEXTREMELY HEAVY FIVE SPOKED ASTERISK",
    "aLIGHT SIX SPOKED ASTERISKaMEDIUM SIX SPOKED ASTERISKaBOLD SIX SPOKED ASTERISK",
    "aHEAVY SIX SPOKED ASTERISKaVERY HEAVY SIX SPOKED ASTERISKaEXTREMELY HEAVY SIX SPOKED ASTERISK",
    "aLIGHT EIGHT SPOKED ASTERISKaMEDIUM EIGHT SPOKED ASTERISKaBOLD EIGHT SPOKED ASTERISK",
    "aHEAVY EIGHT SPOKED ASTERISKaVERY HEAVY EIGHT SPOKED ASTERISKaLIGHT THREE POINTED BLACK STAR",
    "aMEDIUM THREE POINTED BLACK STARaTHREE POINTED BLACK STARaMEDIUM THREE POINTED PINWHEEL STAR",
    "aLIGHT FOUR POINTED BLACK STARaMEDIUM FOUR POINTED BLACK STARaFOUR POINTED BLACK STAR",
    "aMEDIUM FOUR POINTED PINWHEEL STARaREVERSE LIGHT FOUR POINTED PINWHEEL STAR",
    "aLIGHT FIVE POINTED BLACK STARaHEAVY FIVE POINTED BLACK STARaMEDIUM SIX POINTED BLACK STAR",
    "aHEAVY SIX POINTED BLACK STARaSIX POINTED PINWHEEL STARaMEDIUM EIGHT POINTED BLACK STAR",
    "aHEAVY EIGHT POINTED BLACK STARaVERY HEAVY EIGHT POINTED BLACK STAR",
    "aHEAVY EIGHT POINTED PINWHEEL STARaLIGHT TWELVE POINTED BLACK STAR",
    "aHEAVY TWELVE POINTED BLACK STARvPINWHEEL STARaCIRCLED TRIANGLEaNEGATIVE CIRCLED TRIANGLE",
    "aCIRCLED SQUAREaNEGATIVE CIRCLED SQUARE@1F7E0aLARGE ORANGE CIRCLEgYELLOW CIRCLEgGREEN CIRCLE",
    "gPURPLE CIRCLEgBROWN CIRCLEgRED SQUAREgBLUE SQUAREgORANGE SQUAREgYELLOW SQUAREgGREEN SQUARE",
    "gPURPLE SQUAREgBROWN SQUARE@1F7F0aHEAVY EQUALS SIGN",
    "@1F800aLEFTWARDS ARROW WITH SMALL TRIANGLE ARROWHEAD",
    "aUPWARDS ARROW WITH SMALL TRIANGLE ARROWHEADaRIGHTWARDS ARROW WITH SMALL TRIANGLE ARROWHEAD",
    "aDOWNWARDS ARROW WITH SMALL TRIANGLE ARROWHEADaLEFTWARDS ARROW WITH MEDIUM TRIANGLE ARROWHEAD",
    "aUPWARDS ARROW WITH MEDIUM TRIANGLE ARROWHEADaRIGHTWARDS ARROW WITH MEDIUM TRIANGLE ARROWHEAD",
    "aDOWNWARDS ARROW WITH MEDIUM TRIANGLE ARROWHEADaLEFTWARDS ARROW WITH LARGE TRIANGLE ARROWHEAD",
    "aUPWARDS ARROW WITH LARGE TRIANGLE ARROWHEADaRIGHTWARDS ARROW WITH LARGE TRIANGLE ARROWHEAD",
    "aDOWNWARDS ARROW WITH LARGE TRIANGLE ARROWHEAD",
    "@1F810aLEFTWARDS ARROW WITH SMALL EQUILATERAL ARROWHEAD",
    "aUPWARDS ARROW WITH SMALL EQUILATERAL ARROWHEAD",
    "aRIGHTWARDS ARROW WITH SMALL EQUILATERAL ARROWHEAD",
    "aDOWNWARDS ARROW WITH SMALL EQUILATERAL ARROWHEADaLEFTWARDS ARROW WITH EQUILATERAL ARROWHEAD",
    "aUPWARDS ARROW WITH EQUILATERAL ARROWHEADaRIGHTWARDS ARROW WITH EQUILATERAL ARROWHEAD",
    "aDOWNWARDS ARROW WITH EQUILATERAL ARROWHEADaHEAVY LEFTWARDS ARROW WITH EQUILATERAL ARROWHEAD",
    "gUPWARDS ARROW WITH EQUILATERAL ARROWHEADgRIGHTWARDS ARROW WITH EQUILATERAL ARROWHEAD",
    "gDOWNWARDS ARROW WITH EQUILATERAL ARROWHEADgLEFTWARDS ARROW WITH LARGE EQUILATERAL ARROWHEAD",
    "gUPWARDS ARROW WITH LARGE EQUILATERAL ARROWHEAD",
    "gRIGHTWARDS ARROW WITH LARGE EQUILATERAL ARROWHEAD",
    "gDOWNWARDS ARROW WITH LARGE EQUILATERAL ARROWHEAD",
    "aLEFTWARDS TRIANGLE-HEADED ARROW WITH NARROW SHAFT",
    "aUPWARDS TRIANGLE-HEADED ARROW WITH NARROW SHAFT",
    "aRIGHTWARDS TRIANGLE-HEADED ARROW WITH NARROW SHAFT",
    "aDOWNWARDS TRIANGLE-HEADED ARROW WITH NARROW SHAFT",
    "aLEFTWARDS TRIANGLE-HEADED ARROW WITH MEDIUM SHAFT",
    "aUPWARDS TRIANGLE-HEADED ARROW WITH MEDIUM SHAFT",
    "aRIGHTWARDS TRIANGLE-HEADED ARROW WITH MEDIUM SHAFT",
    "aDOWNWARDS TRIANGLE-HEADED ARROW WITH MEDIUM SHAFT",
    "aLEFTWARDS TRIANGLE-HEADED ARROW WITH BOLD SHAFT",
    "aUPWARDS TRIANGLE-HEADED ARROW WITH BOLD SHAFT",
    "aRIGHTWARDS TRIANGLE-HEADED ARROW WITH BOLD SHAFT",
    "aDOWNWARDS TRIANGLE-HEADED ARROW WITH BOLD SHAFT",
    "aLEFTWARDS TRIANGLE-HEADED ARROW WITH HEAVY SHAFT",
    "aUPWARDS TRIANGLE-HEADED ARROW WITH HEAVY SHAFT",
    "aRIGHTWARDS TRIANGLE-HEADED ARROW WITH HEAVY SHAFT",
    "aDOWNWARDS TRIANGLE-HEADED ARROW WITH HEAVY SHAFT",
    "aLEFTWARDS TRIANGLE-HEADED ARROW WITH VERY HEAVY SHAFT",
    "aUPWARDS TRIANGLE-HEADED ARROW WITH VERY HEAVY SHAFT",
    "aRIGHTWARDS TRIANGLE-HEADED ARROW WITH VERY HEAVY SHAFT",
    "aDOWNWARDS TRIANGLE-HEADED ARROW WITH VERY HEAVY SHAFTaLEFTWARDS FINGER-POST ARROW",
    "aUPWARDS FINGER-POST ARROWaRIGHTWARDS FINGER-POST ARROWaDOWNWARDS FINGER-POST ARROW",
    "aLEFTWARDS SQUARED ARROWaUPWARDS SQUARED ARROWaRIGHTWARDS SQUARED ARROW",
    "aDOWNWARDS SQUARED ARROWaLEFTWARDS COMPRESSED ARROWaUPWARDS COMPRESSED ARROW",
    "aRIGHTWARDS COMPRESSED ARROWaDOWNWARDS COMPRESSED ARROWaLEFTWARDS HEAVY COMPRESSED ARROW",
    "aUPWARDS HEAVY COMPRESSED ARROWaRIGHTWARDS HEAVY COMPRESSED ARROW",
    "aDOWNWARDS HEAVY COMPRESSED ARROWaLEFTWARDS HEAVY ARROWaUPWARDS HEAVY ARROW",
    "aRIGHTWARDS HEAVY ARROWaDOWNWARDS HEAVY ARROW@1F850aLEFTWARDS SANS-SERIF ARROW",
    "aUPWARDS SANS-SERIF ARROWaRIGHTWARDS SANS-SERIF ARROWaDOWNWARDS SANS-SERIF ARROW",
    "aNORTH WEST SANS-SERIF ARROWgEAST SANS-SERIF ARROWaSOUTH EAST SANS-SERIF ARROW",
    "gWEST SANS-SERIF ARROWaLEFT RIGHT SANS-SERIF ARROWaUP DOWN SANS-SERIF ARROW",
    "@1F860aWIDE-HEADED LEFTWARDS LIGHT BARB ARROWmUPWARDS LIGHT BARB ARROW",
    "mRIGHTWARDS LIGHT BARB ARROWmDOWNWARDS LIGHT BARB ARROWmNORTH WEST LIGHT BARB ARROW",
    "sEAST LIGHT BARB ARROWmSOUTH EAST LIGHT BARB ARROWsWEST LIGHT BARB ARROWmLEFTWARDS BARB ARROW",
    "mUPWARDS BARB ARROWmRIGHTWARDS BARB ARROWmDOWNWARDS BARB ARROWmNORTH WEST BARB ARROW",
    "sEAST BARB ARROWmSOUTH EAST BARB ARROWsWEST BARB ARROWmLEFTWARDS MEDIUM BARB ARROW",
    "mUPWARDS MEDIUM BARB ARROWmRIGHTWARDS MEDIUM BARB ARROWmDOWNWARDS MEDIUM BARB ARROW",
    "mNORTH WEST MEDIUM BARB ARROWsEAST MEDIUM BARB ARROWmSOUTH EAST MEDIUM BARB ARROW",
    "sWEST MEDIUM BARB ARROWmLEFTWARDS HEAVY BARB ARROWmUPWARDS HEAVY BARB ARROW",
    "mRIGHTWARDS HEAVY BARB ARROWmDOWNWARDS HEAVY BARB ARROWmNORTH WEST HEAVY BARB ARROW",
    "sEAST HEAVY BARB ARROWmSOUTH EAST HEAVY BARB ARROWsWEST HEAVY BARB ARROW",
    "mLEFTWARDS VERY HEAVY BARB ARROWmUPWARDS VERY HEAVY BARB ARROW",
    "mRIGHTWARDS VERY HEAVY BARB ARROWmDOWNWARDS VERY HEAVY BARB ARROW",
    "mNORTH WEST VERY HEAVY BARB ARROWsEAST VERY HEAVY BARB ARROWmSOUTH EAST VERY HEAVY BARB ARROW",
    "sWEST VERY HEAVY BARB ARROW@1F890aLEFTWARDS TRIANGLE ARROWHEADaUPWARDS TRIANGLE ARROWHEAD",
    "aRIGHTWARDS TRIANGLE ARROWHEADaDOWNWARDS TRIANGLE ARROWHEAD",
    "aLEFTWARDS WHITE ARROW WITHIN TRIANGLE ARROWHEAD",
    "aUPWARDS WHITE ARROW WITHIN TRIANGLE ARROWHEAD",
    "aRIGHTWARDS WHITE ARROW WITHIN TRIANGLE ARROWHEAD",
    "aDOWNWARDS WHITE ARROW WITHIN TRIANGLE ARROWHEADaLEFTWARDS ARROW WITH NOTCHED TAIL",
    "aUPWARDS ARROW WITH NOTCHED TAILaRIGHTWARDS ARROW WITH NOTCHED TAIL",
    "aDOWNWARDS ARROW WITH NOTCHED TAILaHEAVY ARROW SHAFT WIDTH ONEyTWO THIRDSyONE HALFzdTHIRD",
    "aLEFTWARDS BOTTOM-SHADED WHITE ARROWaRIGHTWARDS BOTTOM SHADED WHITE ARROW",
    "aLEFTWARDS TOP SHADED WHITE ARROWaRIGHTWARDS TOP SHADED WHITE ARROW",
    "aLEFTWARDS LEFT-SHADED WHITE ARROWaRIGHTWARDS RIGHT-SHADED WHITE ARROW",
    "aLEFTWARDS RIGHT-SHADED WHITE ARROWaRIGHTWARDS LEFT-SHADED WHITE ARROW",
    "aLEFTWARDS BACK-TILTED SHADOWED WHITE ARROWaRIGHTWARDS BACK-TILTED SHADOWED WHITE ARROW",
    "aLEFTWARDS FRONT-TILTED SHADOWED WHITE ARROWaRIGHTWARDS FRONT-TILTED SHADOWED WHITE ARROW",
    "aWHITE ARROW SHAFT WIDTH ONEyTWO THIRDS@1F8B0aARROW POINTING UPWARDS THEN NORTH WEST",
    "pRIGHTWARDS THEN CURVING SOUTH WEST@1F900aCIRCLED CROSS FORMEE WITH FOUR DOTSzbTWO DOTSu",
    "aLEFT HALF CIRCLE WITH FOUR DOTSwTHREE DOTSxWO DOTSwDOTqaDOWNWARD FACING HOOKqNOTCHED HOOK",
    "qHOOK WITH DOTqNOTCHED HOOK WITH DOTaPINCHED FINGERSaWHITE HEARTaBROWN HEARTaPINCHING HAND",
    "aZIPPER-MOUTH FACEaMONEY-MOUTH FACEaFACE WITH THERMOMETERaNERD FACEaTHINKING FACE",
    "aFACE WITH HEAD-BANDAGEaROBOT FACEaHUGGING FACEaSIGN OF THE HORNSaCALL ME HAND",
    "aRAISED BACK OF HANDaLEFT-FACING FISTaRIGHT-FACING FISTaHANDSHAKE",
    "e WITH INDEX AND MIDDLE FINGERS CROSSEDaI LOVE YOU HAND SIGNaFACE WITH COWBOY HATaCLOWN FACE",
    "aNAUSEATED FACEaROLLING ON THE FLOOR LAUGHINGaDROOLING FACEaLYING FACEaFACE PALM",
    "aSNEEZING FACEaFACE WITH ONE EYEBROW RAISEDaGRINNING FACE WITH STAR EYES",
    "tONE LARGE AND ONE SMALL EYEaFACE WITH FINGER COVERING CLOSED LIPS",
    "aSERIOUS FACE WITH SYMBOLS COVERING MOUTH",
    "bMILING FACE WITH SMILING EYES AND HAND COVERING MOUTHaFACE WITH OPEN MOUTH VOMITING",
    "aSHOCKED FACE WITH EXPLODING HEADaPREGNANT WOMANaBREAST-FEEDINGaPALMS UP TOGETHERaSELFIE",
    "aPRINCEaMAN IN TUXEDObOTHER CHRISTMASaSHRUGaPERSON DOING CARTWHEELaJUGGLINGaFENCER",
    "aMODERN PENTATHLONaWRESTLERSbATER POLOaHANDBALLaDIVING MASKaWILTED FLOWER",
    "aDRUM WITH DRUMSTICKSaCLINKING GLASSESaTUMBLER GLASSaSPOONaGOAL NETaRIFLEaFIRST PLACE MEDAL",
    "aSECOND PLACE MEDALaTHIRD PLACE MEDALaBOXING GLOVEaMARTIAL ARTS UNIFORMaCURLING STONE",
    "aLACROSSE STICK AND BALLaSOFTBALLaFLYING DISCaCROISSANTaAVOCADOaCUCUMBERaBACONaPOTATOaCARROT",
    "aBAGUETTE BREADaGREEN SALADaSHALLOW PAN OF FOODbTUFFED FLATBREADaEGGaGLASS OF MILKaPEANUTS",
    "aKIWIFRUITaPANCAKESaDUMPLINGaFORTUNE COOKIEaTAKEOUT BOXaCHOPSTICKSaBOWL WITH SPOON",
    "aCUP WITH STRAWbOCONUTaBROCCOLIaPIEbRETZELaCUT OF MEATaSANDWICHaCANNED FOODaLEAFY GREENaMANGO",
    "bOON CAKEaBAGELaSMILING FACE WITH SMILING EYES AND THREE HEARTSaYAWNING FACE",
    "aSMILING FACE WITH TEARaFACE WITH PARTY HORN AND PARTY HATkUNEVEN EYES AND WAVY MOUTH",
    "aOVERHEATED FACEaFREEZING FACEaNINJAaDISGUISED FACEaFACE HOLDING BACK TEARS",
    "fWITH PLEADING EYESaSARIaLAB COATaGOGGLESaHIKING BOOTaFLAT SHOEaCRABaLION FACEaSCORPION",
    "aTURKEYaUNICORN FACEaEAGLEaDUCKaBATaSHARKaOWLaFOX FACEaBUTTERFLYaDEERaGORILLAaLIZARD",
    "aRHINOCEROSaSHRIMPbQUIDaGIRAFFE FACEaZEBRA FACEaHEDGEHOGaSAUROPODaT-REXaCRICKETaKANGAROO",
    "aLLAMAaPEACOCKaHIPPOPOTAMUSaPARROTaRACCOONaLOBSTERaMOSQUITObICROBEaBADGERaSWANaMAMMOTHaDODO",
    "aSLOTHaOTTERbRANGUTANaSKUNKaFLAMINGOaOYSTERaBEAVERbISONaSEALaGUIDE DOGaPROBING CANE",
    "aEMOJI COMPONENT RED HAIRqCURLY HAIRqBALDqWHITE HAIRaBONEaLEGaFOOTaTOOTHaSUPERHEROfVILLAIN",
    "bAFETY VESTaEAR WITH HEARING AIDaMOTORIZED WHEELCHAIRbANUAL WHEELCHAIRbECHANICAL ARMlLEG",
    "aCHEESE WEDGEbUPCAKEaSALT SHAKERaBEVERAGE BOXaGARLICaONIONaFALAFELaWAFFLEaBUTTERaMATE DRINK",
    "aICE CUBEaBUBBLE TEAaTROLLaSTANDING PERSONaKNEELING PERSONaDEAF PERSONaFACE WITH MONOCLE",
    "aADULTaCHILDaOLDER ADULTaBEARDED PERSONaPERSON WITH HEADSCARFhIN STEAMY ROOMhCLIMBING",
    "hIN LOTUS POSITIONaMAGEaFAIRYaVAMPIREaMERPERSONaELFaGENIEaZOMBIEaBRAINaORANGE HEART",
    "aBILLED CAPaSCARFaGLOVESaCOATaSOCKSaRED GIFT ENVELOPEaFIRECRACKERaJIGSAW PUZZLE PIECE",
    "aTEST TUBEaPETRI DISHaDNA DOUBLE HELIXaCOMPASSaABACUSaFIRE EXTINGUISHERaTOOLBOXaBRICKaMAGNET",
    "aLUGGAGEbOTION BOTTLEaSPOOL OF THREADaBALL OF YARNaSAFETY PINaTEDDY BEARaBROOMbASKET",
    "aROLL OF PAPERaBAR OF SOAPaSPONGEaRECEIPTaNAZAR AMULETbEUTRAL CHESS KINGoQUEENoROOKoBISHOP",
    "oKNIGHToPAWNaWHITE CHESS KNIGHT ROTATED FORTY-FIVE DEGREES",
    "aBLACK CHESS KNIGHT ROTATED FORTY-FIVE DEGREES",
    "aNEUTRAL CHESS KNIGHT ROTATED FORTY-FIVE DEGREESaWHITE CHESS KING ROTATED NINETY DEGREES",
    "mQUEEN ROTATED NINETY DEGREESmROOK ROTATED NINETY DEGREESmBISHOP ROTATED NINETY DEGREES",
    "mKNIGHT ROTATED NINETY DEGREESmPAWN ROTATED NINETY DEGREES",
    "aBLACK CHESS KING ROTATED NINETY DEGREESmQUEEN ROTATED NINETY DEGREES",
    "mROOK ROTATED NINETY DEGREESmBISHOP ROTATED NINETY DEGREESmKNIGHT ROTATED NINETY DEGREES",
    "mPAWN ROTATED NINETY DEGREESaNEUTRAL CHESS KING ROTATED NINETY DEGREES",
    "oQUEEN ROTATED NINETY DEGREESoROOK ROTATED NINETY DEGREESoBISHOP ROTATED NINETY DEGREES",
    "oKNIGHT ROTATED NINETY DEGREESoPAWN ROTATED NINETY DEGREES",
    "aWHITE CHESS KNIGHT ROTATED ONE HUNDRED THIRTY-FIVE DEGREES",
    "aBLACK CHESS KNIGHT ROTATED ONE HUNDRED THIRTY-FIVE DEGREES",
    "aNEUTRAL CHESS KNIGHT ROTATED ONE HUNDRED THIRTY-FIVE DEGREESaWHITE CHESS TURNED KINGtQUEEN",
    "tROOKtBISHOPtKNIGHTtPAWNaBLACK CHESS TURNED KINGtQUEENtROOKtBISHOPtKNIGHTtPAWN",
    "aNEUTRAL CHESS TURNED KINGvQUEENvROOKvBISHOPvKNIGHTvPAWN",
    "aWHITE CHESS KNIGHT ROTATED TWO HUNDRED TWENTY-FIVE DEGREES",
    "aBLACK CHESS KNIGHT ROTATED TWO HUNDRED TWENTY-FIVE DEGREES",
    "aNEUTRAL CHESS KNIGHT ROTATED TWO HUNDRED TWENTY-FIVE DEGREES",
    "aWHITE CHESS KING ROTATED TWO HUNDRED SEVENTY DEGREES",
    "mQUEEN ROTATED TWO HUNDRED SEVENTY DEGREESmROOK ROTATED TWO HUNDRED SEVENTY DEGREES",
    "mBISHOP ROTATED TWO HUNDRED SEVENTY DEGREESmKNIGHT ROTATED TWO HUNDRED SEVENTY DEGREES",
    "mPAWN ROTATED TWO HUNDRED SEVENTY DEGREES",
    "aBLACK CHESS KING ROTATED TWO HUNDRED SEVENTY DEGREES",
    "mQUEEN ROTATED TWO HUNDRED SEVENTY DEGREESmROOK ROTATED TWO HUNDRED SEVENTY DEGREES",
    "mBISHOP ROTATED TWO HUNDRED SEVENTY DEGREESmKNIGHT ROTATED TWO HUNDRED SEVENTY DEGREES",
    "mPAWN ROTATED TWO HUNDRED SEVENTY DEGREES",
    "aNEUTRAL CHESS KING ROTATED TWO HUNDRED SEVENTY DEGREES",
    "oQUEEN ROTATED TWO HUNDRED SEVENTY DEGREESoROOK ROTATED TWO HUNDRED SEVENTY DEGREES",
    "oBISHOP ROTATED TWO HUNDRED SEVENTY DEGREESoKNIGHT ROTATED TWO HUNDRED SEVENTY DEGREES",
    "oPAWN ROTATED TWO HUNDRED SEVENTY DEGREES",
    "aWHITE CHESS KNIGHT ROTATED THREE HUNDRED FIFTEEN DEGREES",
    "aBLACK CHESS KNIGHT ROTATED THREE HUNDRED FIFTEEN DEGREES",
    "aNEUTRAL CHESS KNIGHT ROTATED THREE HUNDRED FIFTEEN DEGREESaWHITE CHESS EQUIHOPPER",
    "aBLACK CHESS EQUIHOPPERaNEUTRAL CHESS EQUIHOPPER",
    "aWHITE CHESS EQUIHOPPER ROTATED NINETY DEGREESaBLACK CHESS EQUIHOPPER ROTATED NINETY DEGREES",
    "aNEUTRAL CHESS EQUIHOPPER ROTATED NINETY DEGREESaWHITE CHESS KNIGHT-QUEENtROOKtBISHOP",
    "aBLACK CHESS KNIGHT-QUEENtROOKtBISHOP@1FA60aXIANGQI RED GENERALmMANDARINmELEPHANTmHORSE",
    "mCHARIOTnANNONmSOLDIERiBLACK GENERALoMANDARINoELEPHANToHORSEoCHARIOTpANNONoSOLDIER",
    "@1FA70aBALLET SHOESaONE-PIECE SWIMSUITaBRIEFSaSHORTSaTHONG SANDAL@1FA78aDROP OF BLOOD",
    "aADHESIVE BANDAGEaSTETHOSCOPEaX-RAYaCRUTCH@1FA80aYO-YOaKITEaPARACHUTEaBOOMERANGaMAGIC WAND",
    "aPINATAaNESTING DOLLS@1FA90aRINGED PLANETaCHAIRaRAZORaAXEaDIYA LAMPaBANJOaMILITARY HELMET",
    "aACCORDIONaLONG DRUMaCOINbARPENTRY SAWaSCREWDRIVERaLADDERaHOOKaMIRRORaWINDOWaPLUNGER",
    "aSEWING NEEDLEaKNOTaBUCKETaMOUSE TRAPaTOOTHBRUSHaHEADSTONEaPLACARDaROCKaMIRROR BALL",
    "aIDENTIFICATION CARDaLOW BATTERYaHAMSA@1FAB0aFLYaWORMaBEETLEaCOCKROACHaPOTTED PLANTaWOOD",
    "aFEATHERaLOTUSaCORALaEMPTY NESTaNEST WITH EGGS@1FAC0aANATOMICAL HEARTaLUNGSaPEOPLE HUGGING",
    "bREGNANT MANjPERSONbERSON WITH CROWN@1FAD0aBLUEBERRIESbELL PEPPERaOLIVEaFLATBREADaTAMALE",
    "aFONDUEaTEAPOTaPOURING LIQUIDaBEANSaJAR@1FAE0aMELTING FACEaSALUTING FACE",
    "aFACE WITH OPEN EYES AND HAND OVER MOUTHkPEEKING EYEkDIAGONAL MOUTHaDOTTED LINE FACE",
    "aBITING LIPbUBBLES@1FAF0aHAND WITH INDEX FINGER AND THUMB CROSSEDaRIGHTWARDS HAND",
    "aLEFTWARDS HANDaPALM DOWN HANDfUP HANDaINDEX POINTING AT THE VIEWERaHEART HANDS",
    "@1FB00aBLOCK SEXTANT-1o2o12o3o13o23o123o4o14o24o124o34o134o234o1234o5o15o25o125o35o235o1235",
    "o45o145o245o1245o345o1345o2345o12345o6o16o26o126o36o136o236o1236o46o146p246o346o1346o2346",
    "o12346o56o156o256o1256o356o1356o2356o12356o456o1456o2456o12456o3456o13456o23456",
    "aLOWER LEFT BLOCK DIAGONAL LOWER MIDDLE LEFT TO LOWER CENTREzzdRIGHT",
    "zbUPPER MIDDLE LEFT TO LOWER CENTREzzdRIGHTzhLEFT TO LOWER CENTRE",
    "gRIGHT BLOCK DIAGONAL UPPER MIDDLE LEFT TO UPPER CENTREzzeRIGHT",
    "zcLOWER MIDDLE LEFT TO UPPER CENTREzzeRIGHTziLEFT TO UPPER CENTRE",
    "ziMIDDLE LEFT TO UPPER MIDDLE RIGHTziCENTRE TO LOWER MIDDLE RIGHTziLEFT TO LOWER MIDDLE RIGHT",
    "ziCENTRE TO UPPER MIDDLE RIGHTziLEFT TO UPPER MIDDLE RIGHTziCENTRE TO UPPER RIGHT",
    "gLEFT BLOCK DIAGONAL UPPER CENTRE TO UPPER MIDDLE RIGHTzhLEFT TO UPPER MIDDLE RIGHT",
    "zhCENTRE TO LOWER MIDDLE RIGHTzhLEFT TO LOWER MIDDLE RIGHTzhCENTRE TO LOWER RIGHT",
    "zhMIDDLE LEFT TO LOWER MIDDLE RIGHT",
    "aUPPER RIGHT BLOCK DIAGONAL LOWER MIDDLE LEFT TO LOWER CENTREzzeRIGHT",
    "zcUPPER MIDDLE LEFT TO LOWER CENTREzzeRIGHTziLEFT TO LOWER CENTRE",
    "gLEFT BLOCK DIAGONAL UPPER MIDDLE LEFT TO UPPER CENTREzzdRIGHT",
    "zbLOWER MIDDLE LEFT TO UPPER CENTREzzdRIGHTzhLEFT TO UPPER CENTRE",
    "zhMIDDLE LEFT TO UPPER MIDDLE RIGHTzhCENTRE TO LOWER MIDDLE RIGHTzhLEFT TO LOWER MIDDLE RIGHT",
    "zhCENTRE TO UPPER MIDDLE RIGHTzhLEFT TO UPPER MIDDLE RIGHTzhCENTRE TO UPPER RIGHT",
    "gRIGHT BLOCK DIAGONAL UPPER CENTRE TO UPPER MIDDLE RIGHTziLEFT TO UPPER MIDDLE RIGHT",
    "ziCENTRE TO LOWER MIDDLE RIGHTziLEFT TO LOWER MIDDLE RIGHTziCENTRE TO LOWER RIGHT",
    "ziMIDDLE LEFT TO LOWER MIDDLE RIGHTgAND RIGHT AND LOWER TRIANGULAR THREE QUARTERS BLOCK",
    "aLEFT AND LOWER AND RIGHT TRIANGULAR THREE QUARTERS BLOCK",
    "aUPPER AND LEFT AND LOWER TRIANGULAR THREE QUARTERS BLOCK",
    "aLEFT AND UPPER AND RIGHT TRIANGULAR THREE QUARTERS BLOCKfTRIANGULAR ONE QUARTER BLOCK",
    "aUPPER TRIANGULAR ONE QUARTER BLOCKaRIGHT TRIANGULAR ONE QUARTER BLOCK",
    "aLOWER TRIANGULAR ONE QUARTER BLOCKaVERTICAL ONE EIGHTH BLOCK-2zb3zb4zb5zb6zb7",
    "aHORIZONTAL ONE EIGHTH BLOCK-2zd3zd4zd5zd6zd7aLEFT AND LOWER ONE EIGHTH BLOCK",
    "jUPPER ONE EIGHTH BLOCKaRIGHT AND UPPER ONE EIGHTH BLOCKkLOWER ONE EIGHTH BLOCK",
    "aUPPER AND LOWER ONE EIGHTH BLOCKaHORIZONTAL ONE EIGHTH BLOCK-1358aUPPER ONE QUARTER BLOCK",
    "gTHREE EIGHTHS BLOCKgFIVE EIGHTHS BLOCKgTHREE QUARTERS BLOCKgSEVEN EIGHTHS BLOCK",
    "aRIGHT ONE QUARTER BLOCKgTHREE EIGHTHS BLOCKgFIVE EIGHTHS BLOCKgTHREE QUARTERS BLOCK",
    "gSEVEN EIGHTHS BLOCKaLEFT HALF MEDIUM SHADEaRIGHT HALF MEDIUM SHADEaUPPER HALF MEDIUM SHADE",
    "aLOWER HALF MEDIUM SHADEaINVERSE MEDIUM SHADE",
    "aUPPER HALF BLOCK AND LOWER HALF INVERSE MEDIUM SHADE",
    "lINVERSE MEDIUM SHADE AND LOWER HALF BLOCK",
    "@1FB94aLEFT HALF INVERSE MEDIUM SHADE AND RIGHT HALF BLOCKaCHECKER BOARD FILL",
    "aINVERSE CHECKER BOARD FILLaHEAVY HORIZONTAL FILLaUPPER LEFT TO LOWER RIGHT FILL",
    "gRIGHT TO LOWER LEFT FILLgAND LOWER TRIANGULAR HALF BLOCK",
    "aLEFT AND RIGHT TRIANGULAR HALF BLOCKaUPPER LEFT TRIANGULAR MEDIUM SHADE",
    "gRIGHT TRIANGULAR MEDIUM SHADEaLOWER RIGHT TRIANGULAR MEDIUM SHADE",
    "gLEFT TRIANGULAR MEDIUM SHADEaBOX DRAWINGS LIGHT DIAGONAL UPPER CENTRE TO MIDDLE LEFTzzbRIGHT",
    "zdMIDDLE LEFT TO LOWER CENTREzkRIGHT TO LOWER CENTRE",
    "zdUPPER CENTRE TO MIDDLE LEFT TO LOWER CENTREzzbRIGHT TO LOWER CENTRE",
    "zdMIDDLE LEFT TO LOWER CENTRE TO MIDDLE RIGHTzsUPPER CENTRE TO MIDDLE RIGHT",
    "zdUPPER CENTRE TO MIDDLE LEFT AND MIDDLE RIGHT TO LOWER CENTRE",
    "zzbRIGHT AND MIDDLE LEFT TO LOWER CENTREzzhTO LOWER CENTRE TO MIDDLE LEFT",
    "zzbLEFT TO LOWER CENTRE TO MIDDLE RIGHT",
    "zdMIDDLE LEFT TO UPPER CENTRE TO MIDDLE RIGHT TO LOWER CENTRE",
    "zkRIGHT TO UPPER CENTRE TO MIDDLE LEFT TO LOWER CENTREzdDIAMOND",
    "tHORIZONTAL WITH VERTICAL STROKEaARROWHEAD-SHAPED POINTERaINVERSE CHECK MARK",
    "aLEFT HALF RUNNING MANaRIGHT HALF RUNNING MANaINVERSE DOWNWARDS ARROW WITH TIP LEFTWARDS",
    "aLEFTWARDS ARROW AND UPPER AND LOWER ONE EIGHTH BLOCK",
    "aRIGHTWARDS ARROW AND UPPER AND LOWER ONE EIGHTH BLOCK",
    "aDOWNWARDS ARROW AND RIGHT ONE EIGHTH BLOCKaUPWARDS ARROW AND RIGHT ONE EIGHTH BLOCK",
    "aLEFT HALF FOLDERaRIGHT HALF FOLDERaVOIDED GREEK CROSSaRIGHT OPEN SQUARED DOT",
    "aNEGATIVE DIAGONAL CROSSsMIDDLE RIGHT TO LOWER CENTREsDIAMOND",
    "aWHITE HEAVY SALTIRE WITH ROUNDED CORNERSaLEFT THIRD WHITE RIGHT POINTING INDEX",
    "aMIDDLE THIRD WHITE RIGHT POINTING INDEXaRIGHT THIRD WHITE RIGHT POINTING INDEX",
    "aNEGATIVE SQUARED QUESTION MARKaSTICK FIGUREm WITH ARMS RAISEDnLEANING LEFTvRIGHTnWITH DRESS",
    "aWHITE UP-POINTING CHEVRON@1FBF0aSEGMENTED DIGIT ZEROqONEqTWOrHREEqFOURrIVEqSIXrEVENqEIGHT",
    "qNINE@E0001aLANGUAGE TAG@E0020aTAG SPACEeEXCLAMATION MARKeQUOTATION MARKeNUMBER SIGN",
    "eDOLLAR SIGNePERCENT SIGNeAMPERSANDfPOSTROPHEeLEFT PARENTHESISeRIGHT PARENTHESISeASTERISK",
    "ePLUS SIGNeCOMMAeHYPHEN-MINUSeFULL STOPeSOLIDUSeDIGIT ZEROkONEkTWOlHREEkFOURlIVEkSIXlEVEN",
    "kEIGHTkNINEeCOLONeSEMICOLONeLESS-THAN SIGNeEQUALS SIGNeGREATER-THAN SIGNeQUESTION MARK",
    "eCOMMERCIAL ATeLATIN CAPITAL LETTER AzaBzaCzaDzaEzaFzaGzaHzaIzaJzaKzaLzaMzaNzaOzaPzaQzaRzaS",
    "zaTzaUzaVzaWzaXzaYzaZfEFT SQUARE BRACKETeREVERSE SOLIDUSfIGHT SQUARE BRACKET",
    "eCIRCUMFLEX ACCENTeLOW LINEeGRAVE ACCENTeLATIN SMALL LETTER AxBxCxDxExFxGxHxIxJxKxLxMxNxOxPxQ",
    "xRxSxTxUxVxWxXxYxZfEFT CURLY BRACKETeVERTICAL LINEeRIGHT CURLY BRACKETeTILDEaCANCEL TAG",
    "@E0100aVARIATION SELECTOR-17u8u9t20u1u2u3u4u5u6u7u8u9t30u1u2u3u4u5u6u7u8u9t40u1u2u3u4u5u6u7u8",
    "u9t50u1u2u3u4u5u6u7u8u9t60u1u2u3u4u5u6u7u8u9t70u1u2u3u4u5u6u7u8u9t80u1u2u3u4u5u6u7u8u9t90u1u2",
    "u3u4u5u6u7u8u9t100v1v2v3v4v5v6v7v8v9u10v1v2v3v4v5v6v7v8v9u20v1v2v3v4v5v6v7v8v9u30v1v2v3v4v5v6",
    "v7v8v9u40v1v2v3v4v5v6v7v8v9u50v1v2v3v4v5v6v7v8v9u60v1v2v3v4v5v6v7v8v9u70v1v2v3v4v5v6v7v8v9u80",
    "v1v2v3v4v5v6v7v8v9u90v1v2v3v4v5v6v7v8v9t200v1v2v3v4v5v6v7v8v9u10v1v2v3v4v5v6v7v8v9u20v1v2v3v4",
    "v5v6v7v8v9u30v1v2v3v4v5v6v7v8v9u40v1v2v3v4v5v6v7v8v9u50v1v2v3v4v5v6"]

end CodeAtlas.Text
