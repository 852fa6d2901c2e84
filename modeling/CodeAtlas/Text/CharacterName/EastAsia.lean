/-!
# Names of East Asian and compatibility characters

Every entry of the table belongs to the code point behind that of the entry before it, unless a code
point is given. Its small letters say how many characters it keeps of the name before it.
-/

namespace CodeAtlas.Text

/-- The names of U+3000 to U+FFFF. -/
def eastAsianNames : List String :=
  ["@3000aIDEOGRAPHIC SPACEmCOMMAmFULL STOPaDITTO MARKaJAPANESE INDUSTRIAL STANDARD SYMBOL",
    "aIDEOGRAPHIC ITERATION MARKmCLOSING MARKmNUMBER ZEROaLEFT ANGLE BRACKETaRIGHT ANGLE BRACKET",
    "aLEFT DOUBLE ANGLE BRACKETaRIGHT DOUBLE ANGLE BRACKETaLEFT CORNER BRACKET",
    "aRIGHT CORNER BRACKETaLEFT WHITE CORNER BRACKETaRIGHT WHITE CORNER BRACKET",
    "aLEFT BLACK LENTICULAR BRACKETaRIGHT BLACK LENTICULAR BRACKETaPOSTAL MARKaGETA MARK",
    "aLEFT TORTOISE SHELL BRACKETaRIGHT TORTOISE SHELL BRACKETaLEFT WHITE LENTICULAR BRACKET",
    "aRIGHT WHITE LENTICULAR BRACKETaLEFT WHITE TORTOISE SHELL BRACKET",
    "aRIGHT WHITE TORTOISE SHELL BRACKETaLEFT WHITE SQUARE BRACKETaRIGHT WHITE SQUARE BRACKET",
    "aWAVE DASHaREVERSED DOUBLE PRIME QUOTATION MARKaDOUBLE PRIME QUOTATION MARK",
    "aLOW DOUBLE PRIME QUOTATION MARKaPOSTAL MARK FACEaHANGZHOU NUMERAL ONErTWOsHREErFOURsIVErSIX",
    "sEVENrEIGHTrNINEaIDEOGRAPHIC LEVEL TONE MARKmRISING TONE MARKmDEPARTING TONE MARK",
    "mENTERING TONE MARKaHANGUL SINGLE DOT TONE MARKhDOUBLE DOT TONE MARKaWAVY DASH",
    "aVERTICAL KANA REPEAT MARKvWITH VOICED SOUND MARKvMARK UPPER HALF",
    "vWITH VOICED SOUND MARK UPPER HALFvMARK LOWER HALFaCIRCLED POSTAL MARK",
    "aIDEOGRAPHIC TELEGRAPH LINE FEED SEPARATOR SYMBOLaHANGZHOU NUMERAL TENsWENTYsHIRTY",
    "aVERTICAL IDEOGRAPHIC ITERATION MARKaMASU MARKaPART ALTERNATION MARK",
    "aIDEOGRAPHIC VARIATION INDICATORmHALF FILL SPACE@3041aHIRAGANA LETTER SMALL AqAqSMALL IqI",
    "qSMALL UqUqSMALL EqEqSMALL OqOqKAqGAqKIqGIqKUqGUqKEqGEqKOqGOqSAqZAqSIqZIqSUqZUqSEqZEqSOqZOqTA",
    "qDAqTIqDIqSMALL TUqTUqDUqTEqDEqTOqDOqNArIrUrErOqHAqBAqPAqHIqBIqPIqHUqBUqPUqHEqBEqPEqHOqBOqPO",
    "qMArIrUrErOqSMALL YAqYAqSMALL YUqYUqSMALL YOqYOqRArIrUrErOqSMALL WAqWArIrErOqNqVUqSMALL KAxE",
    "@3099aCOMBINING KATAKANA-HIRAGANA VOICED SOUND MARKzdSEMI-VOICED SOUND MARK",
    "aKATAKANA-HIRAGANA VOICED SOUND MARKsSEMI-VOICED SOUND MARKaHIRAGANA ITERATION MARK",
    "jVOICED ITERATION MARKjDIGRAPH YORIaKATAKANA-HIRAGANA DOUBLE HYPHENi LETTER SMALL AqAqSMALL I",
    "qIqSMALL UqUqSMALL EqEqSMALL OqOqKAqGAqKIqGIqKUqGUqKEqGEqKOqGOqSAqZAqSIqZIqSUqZUqSEqZEqSOqZO",
    "qTAqDAqTIqDIqSMALL TUqTUqDUqTEqDEqTOqDOqNArIrUrErOqHAqBAqPAqHIqBIqPIqHUqBUqPUqHEqBEqPEqHOqBO",
    "qPOqMArIrUrErOqSMALL YAqYAqSMALL YUqYUqSMALL YOqYOqRArIrUrErOqSMALL WAqWArIrErOqNqVUqSMALL KA",
    "xEqVArIrErOjMIDDLE DOTi-HIRAGANA PROLONGED SOUND MARKi ITERATION MARKjVOICED ITERATION MARK",
    "jDIGRAPH KOTO@3105aBOPOMOFO LETTER BqPqMqFqDqTqNqLqGqKqHqJqQqXqZHqCHqSHqRqZqCqSqAqOqErHqAIqEI",
    "qAUqOUqANqENqANGqENGrRqIqUqIUqVqNGqGNqIHqO WITH DOT ABOVEqNN@3131aHANGUL LETTER KIYEOK",
    "oSSANGKIYEOKoKIYEOK-SIOSoNIEUNt-CIEUCuHIEUHoTIKEUToSSANGTIKEUToRIEULt-KIYEOKuMIEUMuPIEUPuSIOS",
    "uTHIEUTHuPHIEUPHuHIEUHoMIEUMoPIEUPoSSANGPIEUPoPIEUP-SIOSoSIOSpSANGSIOSoIEUNGoCIEUCoSSANGCIEUC",
    "oCHIEUCHoKHIEUKHoTHIEUTHoPHIEUPHoHIEUHoApEoYAqEoEOpoYEOqoOoWAqEoOEoYOoUoWEOqpIoYUoEUoYIoI",
    "hFILLERhLETTER SSANGNIEUNoNIEUN-TIKEUTuSIOSuPANSIOSoRIEUL-KIYEOK-SIOSuTIKEUTuPIEUP-SIOS",
    "vANSIOSuYEORINHIEUHoMIEUM-PIEUPuSIOSuPANSIOSoKAPYEOUNMIEUMoPIEUP-KIYEOKuTIKEUTuSIOS-KIYEOK",
    "zaTIKEUTuCIEUCuTHIEUTHoKAPYEOUNPIEUPwSSANGPIEUPoSIOS-KIYEOKtNIEUNtTIKEUTtPIEUPtCIEUCoPANSIOS",
    "oSSANGIEUNGoYESIEUNGw-SIOSxPANSIOSoKAPYEOUNPHIEUPHoSSANGHIEUHoYEORINHIEUHpO-YAtErIpU-YEOtrI",
    "oARAEAtE@3190aIDEOGRAPHIC ANNOTATION LINKING MARKxREVERSE MARKxONE MARKxTWO MARKyHREE MARK",
    "xFOUR MARKxTOP MARKxMIDDLE MARKxBOTTOM MARKxFIRST MARKxSECOND MARKxTHIRD MARKxFOURTH MARK",
    "xHEAVEN MARKxEARTH MARKxMAN MARKaBOPOMOFO LETTER BUqZIqJIqGUqEErNNqOOrNNqIRqANNqINNqUNNqIM",
    "qNGGqAINNrUNNrMqOMrNGqINNNjFINAL LETTER PwTwKwHjLETTER GHqLHqZYjFINAL LETTER GjLETTER GWqKW",
    "qOEqAHaCJK STROKE TlWGlXGlBXGlSWlHZZnGmPmZWGlSZWGlHZTnZPmPWGmZWnZZlNlHlSlPlSPlDlHZmGlSZmWZmT",
    "mGlPDmZlTNlSZZmWGlHXWGmZZZGlPGlQ@31F0aKATAKANA LETTER SMALL KUwSIxUwTOwNUwHAxIxUxExOwMUwRAxI",
    "xUxExOaPARENTHESIZED HANGUL KIYEOKvNIEUNvTIKEUTvRIEULvMIEUMvPIEUPvSIOSvIEUNGvCIEUCwHIEUCH",
    "vKHIEUKHvTHIEUTHvPHIEUPHvHIEUHvKIYEOK AvNIEUN AvTIKEUT AvRIEUL AvMIEUM AvPIEUP AvSIOS A",
    "vIEUNG AvCIEUC AwHIEUCH AvKHIEUKH AvTHIEUTH AvPHIEUPH AvHIEUH AvCIEUC U",
    "oKOREAN CHARACTER OJEONzh HU@3220oIDEOGRAPH ONEyTWOzaHREEyFOURzaIVEySIXzaEVENyEIGHTyNINEyTEN",
    "yMOONyFIREyWATERzaOODyMETALyEARTHySUNzaTOCKyHAVEySOCIETYyNAMEySPECIALyFINANCIAL",
    "yCONGRATULATIONyLABORyREPRESENTyCALLySTUDYzaUPERVISEyENTERPRISEyRESOURCEyALLIANCEyFESTIVAL",
    "yRESTySELFyREACHaCIRCLED IDEOGRAPH QUESTIONsKINDERGARTENsSCHOOLsKOTO",
    "iNUMBER TEN ON BLACK SQUAREqWENTY ON BLACK SQUAREqHIRTY ON BLACK SQUAREpFORTY ON BLACK SQUARE",
    "qIFTY ON BLACK SQUAREpSIXTY ON BLACK SQUAREqEVENTY ON BLACK SQUAREpEIGHTY ON BLACK SQUARE",
    "aPARTNERSHIP SIGNaCIRCLED NUMBER TWENTY ONEwTWOxHREEwFOURxIVEwSIXxEVENwEIGHTwNINEqHIRTYv ONE",
    "wTWOxHREEwFOURxIVEiHANGUL KIYEOKpNIEUNpTIKEUTpRIEULpMIEUMpPIEUPpSIOSpIEUNGpCIEUCqHIEUCH",
    "pKHIEUKHpTHIEUTHpPHIEUPHpHIEUHpKIYEOK ApNIEUN ApTIKEUT ApRIEUL ApMIEUM ApPIEUP ApSIOS A",
    "pIEUNG ApCIEUC AqHIEUCH ApKHIEUKH ApTHIEUTH ApPHIEUPH ApHIEUH AiKOREAN CHARACTER CHAMKO",
    "zaJUEUIiHANGUL IEUNG UaKOREAN STANDARD SYMBOLaCIRCLED IDEOGRAPH ONEsTWOtHREEsFOURtIVEsSIX",
    "tEVENsEIGHTsNINEsTENsMOONsFIREsWATERtOODsMETALsEARTHsSUNtTOCKsHAVEsSOCIETYsNAMEsSPECIAL",
    "sFINANCIALsCONGRATULATIONsLABORsSECRETsMALEsFEMALEsSUITABLEsEXCELLENTsPRINTsATTENTIONsITEM",
    "sRESTsCOPYuRRECTsHIGHsCENTREsLOWtEFTsRIGHTsMEDICINEsRELIGIONsSTUDYtUPERVISEsENTERPRISE",
    "sRESOURCEsALLIANCEsNIGHTiNUMBER THIRTY SIXxEVENwEIGHTwNINEpFORTYu ONEvTWOwHREEvFOURwIVEvSIX",
    "wEVENvEIGHTvNINEqIFTYaIDEOGRAPHIC TELEGRAPH SYMBOL FOR JANUARYziFEBRUARYziMARCHziAPRILziMAY",
    "ziJUNEzkLYziAUGUSTziSEPTEMBERziOCTOBERziNOVEMBERziDECEMBERaSQUARE HGhERGiV",
    "aLIMITED LIABILITY SIGNaCIRCLED KATAKANA ArIrUrErOrKAsIsUsEsOrSAsIsUsEsOrTAsIsUsEsOrNAsIsUsE",
    "sOrHAsIsUsEsOrMAsIsUsEsOrYAsUsOrRAsIsUsEsOrWAsIsEsOaSQUARE ERA NAME REIWAhAPAATOiRUHUAiNPEA",
    "iARUhININGUjTIhUONhESUKUUDOiEKAAhONSUiOMUhKAIRIjRATTOkORIIhGARONjNMAiIGAjNIIhKYURIIhGIRUDAA",
    "hKIROlGURAMUlMEETORUlWATTOhGURAMUnTONhKURUZEIROkOONEiEESUiORUNAjOPOhSAIKURUjNTIIMUiIRINGU",
    "iENTIlOhDAASUiESIiORUhTONhNANOiOTTOhHAITUhPAASENTOkTUhBAARERUhPIASUTORUjKURUkOhBIRUhHUARADDO",
    "jIITOhBUSSYERUhHURANiEKUTAARUhPESOjNIHIhHERUTUhPENSUjEZIhBEETAhPOINTOhBORUTOhHONhPONDOhHOORU",
    "kNhMAIKUROkRUjHHAjRUKUjNSYONiIKURONjRIlBAARUiEGAlTONjETORUhYAADOkRUiUANhRITTORUjRAiUPIIjUBURU",
    "iEMUjNTOGENhWATTOaIDEOGRAPHIC TELEGRAPH SYMBOL FOR HOUR ZEROznONEznTWOzoHREEznFOURzoIVEznSIX",
    "zoEVENznEIGHTznNINEznTENznELEVENznTWELVEzoHIRTEENznFOURTEENzoIFTEENznSIXTEENzoEVENTEEN",
    "znEIGHTEENznNINETEENznTWENTYzt-ONEzuTWOzvHREEzuFOURaSQUARE HPAhDAhAUhBARhOVhPChDMj SQUARED",
    "kCUBEDhIUhERA NAME HEISEIqSYOUWAqTAISYOUqMEIZIhCORPORATIONhPA AMPShNAhMU AiAhKAiBhMBhGBhCAL",
    "hKCALhPFhNFhMU FkGiGhKGhHZhKHZhMHZhGHZhTHZhMU LiLhDLhKLhFMhNMhMU MiMhCMhKMhMM SQUARED",
    "hCM SQUAREDhM SQUAREDhKM SQUAREDhMM CUBEDhCM CUBEDhM CUBEDhKM CUBEDhM OVER Sp SQUAREDhPAhKPA",
    "hMPAhGPAhRADk OVER Sr SQUAREDhPShNShMU SiShPVhNVhMU ViVhKVhMV MEGAhPWhNWhMU WiWhKWhMW MEGA",
    "hK OHMhM OHMhAMhBQhCCiDi OVER KGiOhDBhGYhHAiPhINhKKiM CAPITALiThLMiNiOGiXhMB SMALLiILiOLhPHiM",
    "iPMiRhSRiVhWBhV OVER MhA OVER MaIDEOGRAPHIC TELEGRAPH SYMBOL FOR DAY ONEzmTWOznHREEzmFOUR",
    "znIVEzmSIXznEVENzmEIGHTzmNINEzmTENzmELEVENzmTWELVEznHIRTEENzmFOURTEENznIFTEENzmSIXTEEN",
    "znEVENTEENzmEIGHTEENzmNINETEENzmTWENTYzs-ONEztTWOzuHREEztFOURzuIVEztSIXzuEVENztEIGHTztNINE",
    "znHIRTYzs-ONEaSQUARE GAL@4DC0aHEXAGRAM FOR THE CREATIVE HEAVENrRECEPTIVE EARTH",
    "nDIFFICULTY AT THE BEGINNINGnYOUTHFUL FOLLYnWAITINGnCONFLICTnTHE ARMYnHOLDING TOGETHER",
    "nSMALL TAMINGnTREADINGnPEACEnSTANDSTILLnFELLOWSHIPnGREAT POSSESSIONnMODESTYnENTHUSIASM",
    "nFOLLOWINGnWORK ON THE DECAYEDnAPPROACHnCONTEMPLATIONnBITING THROUGHnGRACEnSPLITTING APART",
    "nRETURNnINNOCENCEnGREAT TAMINGnMOUTH CORNERSnGREAT PREPONDERANCEnTHE ABYSMAL WATER",
    "rCLINGING FIREnINFLUENCEnDURATIONnRETREATnGREAT POWERnPROGRESSnDARKENING OF THE LIGHT",
    "nTHE FAMILYnOPPOSITIONoBSTRUCTIONnDELIVERANCEpCREASEnINCREASEnBREAKTHROUGHnCOMING TO MEET",
    "nGATHERING TOGETHERnPUSHING UPWARDnOPPRESSIONnTHE WELLnREVOLUTIONnTHE CAULDRON",
    "rAROUSING THUNDERrKEEPING STILL MOUNTAINnDEVELOPMENTnTHE MARRYING MAIDENnABUNDANCE",
    "nTHE WANDERERrGENTLE WINDrJOYOUS LAKEnDISPERSIONnLIMITATIONnINNER TRUTHnSMALL PREPONDERANCE",
    "nAFTER COMPLETIONnBEFORE COMPLETION@A000aYI SYLLABLE ITnXnnPnEToXooPmATnXnnPmUOXooPmOTnXnnP",
    "mEXnmWUmBIToXooPoETpXppPnAToXooPnUOXppPnOToXooPnEXooPnUToXooPoRXpnYToXooPoRXpmPIToXooPoEXppP",
    "nAToXooPnUOXppPnOToXooPnUToXooPoRXpnYToXooPoRXpmBBITpXppPpETqXqqPoATpXppPoUOXqqPoOTpXppPoEXp",
    "pPoUTpXppPpRXqoYTpXppPmNBITpXppPpEXqqPoATpXppPoOTpXppPoUTpXppPpRXqoYTpXppPpRXqmHMITpXppPpEXq",
    "qPoATpXppPoUOXqqPoOTpXppPoUTpXppPpRXqoYXppPpRXqmMIToXooPoEXppPnAToXooPnUOTpXppPnOToXooPnEXo",
    "nUToXooPoRXpnYToXooPmFIToXooPnAToXooPnOXooPnUToXooPoRXpnYToXooPmVIToXooPoETpXppPnAToXooPnOToX",
    "ooPnEXoPnUToXooPoRXpnYToXooPoRXpmDIToXooPoEXppPnAToXooPnUOXpnOToXooPnEXooPnUToXooPoRXpmTIToXo",
    "oPoEXppPnAToXooPnUOTpXppPnOToXooPnEXooPnUToXooPoRXpmDDITpXppPpEXqqPoATpXppPoUOXqqPoOTpXppPoEX",
    "ppPoUTpXppPpRXqmNDITpXppPpEXqoATpXppPoOTpXppPoEXppPoUTpXppPpRXqmHNITpXppPpETqXqqPoATpXppPoUOX",
    "qoOTpXpPoEXppPoUTmNIToXooPoEXppPnAXooPnUOXppPnOToXooPnEXooPnUToXooPoRXpmHLITpXppPpEXqqPoATpXp",
    "pPoUOXqqPoOXppPoEXppPoUTpXppPpRXqoYTpXppPpRXqmLIToXooPoETpXppPnAToXooPnUOTpXppPnOToXooPnEXooP",
    "nUToXooPoRXpnYToXooPoRXpmGIToXooPoETpXppPnAToXooPnUOTpXppPnOToXooPnEToXooPnUToXooPoRXpmKIToXo",
    "oPoEXppPnAToXooPnUOXppPnOToXooPnEToXooPnUToXooPoRXpmGGITpXppEXqqPoATpXppPoUOTqXqqPoOTpXppPoET",
    "pXppPoUTpXppPpRXqmMGIEXqoATpXppPoUOXqqPoOTpXppPoEXppPoUTpXppPpRXqmHXITpXppPpETqXqqPoATpXppP",
    "oUOTqXqqPoOTpXppPoEXppPmNGIEXqqPoATpXppPoUOTqXqoOTpXppPoEXppPmHIToEXpnAToXooPnUOTpXppPnOToXo",
    "oPnEXooPmWAToXooPnUOXppPnOXooPnEXooPmZIToXooPoEXppPnAToXooPnUOXppPnOToXooPnEXooPnUToXooPoRXp",
    "nYToXooPoRXpmCIToXooPoETpXppPnAToXooPnUOXppPnOToXooPnEXooPnUToXooPoRXpnYToXooPoRXpmZZITpXppP",
    "pETqXqqPoATpXppPoOXppPoEXppPoUXppPpRXqoYTpXppPpRXqmNZITpXppPpEXqqPoATpXppPoUOXqoOXpPoEXpoUXp",
    "pPpRXqoYTpXppPpRXqmSIToXooPoEXppPnAToXooPnUOXppPnOToXooPnEXooPnUToXooPoRXpnYToXooPoRXpnSITpXp",
    "pPpEXqqPoATpXppPoOTpXppPoEXppPoUTpXppPoYTpXppPpRXqmZHATpXppPoUOXqqPoOTpXppPoETpXppPoUTpXppP",
    "pRXqoYTpXppPpRXqmCHATpXppPoUOTqXqqPoOTpXppPoETpXppPoUXppPpRXqoYTpXppPpRXqmRRAXpoUOXqoOTpXppP",
    "oETpXppPoUTpXppPpRXqoYTpXppPpRXqmNRATpXppPoOXppPoETpXppPoUTpXppPpRXqoYTpXppPpRXqmSHATpXppP",
    "oUOXqqPoOTpXppPoETpXppPoUTpXppPpRXqoYTpXppPpRXqmRAToXooPnUOXppPnOToXooPnEXooPnUToXooPoRXpnYT",
    "oXooPoRXpmJIToXooPoETpXppPnUOTpXppPnOToXooPnUToXooPoRXpnYToXooPoRXpmQIToXooPoETpXppPnUOTpXppP",
    "nOToXooPnUToXooPoRXpnYToXooPoRXpmJJITpXppPpETqXqqPoUOXqqPoOTpXppPoUTpXppPpRXqoYTpXppPmNJITpXp",
    "pPpETqXqqPoUOXqoOTpXppPoUXppPpRXqoYTpXppPpRXqnYITpXppPpETqXqqPoUOXqqPoOTpXppPoUTpXppPmXIToXo",
    "oPoETpXppPnUOXpnOToXooPnYToXooPoRXpmYIToXooPoETpXppPnUOTpXppPnOToXooPnUToXooPoRXpnYToXooPoRXp",
    "@A490dRADICAL QOTlLIlKITlNYIPlCYPlSSIlGGOPmEPlMIlHXITlLYRlBBUTlMOPlYOlPUTlHXUOlTATlGAlZUPlCYT",
    "lDDURlBURlGGUOlNYOPlTUlOPlJJUTlZOTlPYTlHMOlYITlVURlSHYlVEPlZAlJOlNZUPlJJYlGOTlJJIElWOlDUlSHUR",
    "lLIElCYmUOPmIPlHXOPlSHATlZURlSHOPlCHElZZIETlNBIElKE@A4D0aLISU LETTER BAmPAnHAmDAmTAnHAmGAmKA",
    "nHAmJAmCAnHAmDZAmTSAoHAmMAmNAmLAmSAmZHAnAmNGAmHAmXAmHHAmFAmWAmSHAmYAmGHAmAnEmEnUmImOmUnEnHmOE",
    "mTONE MYA TIrNA POrMYA CYAvBOvNAvJEUfPUNCTUATION COMMArFULL STOPaVAI SYLLABLE EEpNnHEEnWEEqN",
    "nPEEnBHEEoEEnMBEEnKPEEnMGBEEnGBEEnFEEnVEEnTEEoHEEnDHEEpHEEnLEEnREEnDEEnNDEEnSEEoHEEnZEEoHEE",
    "nCEEnJEEnNJEEnYEEnKEEnNGGEEnGEEnMEEnNEEoYEEnIoNnHIpNnWIpNnPInBHIoInMBInKPInMGBInGBInFInVInTI",
    "oHInDHIpHInLInRInDInNDInSIoHInZIoHInCInJInNJInYInKInNGGInGInMInNIoYInAoNnNGANnHApNnWApNnPA",
    "nBHAoAnMBAnKPAqNnMGBAnGBAnFAnVAnTAoHAnDHApHAnLAnRAnDAnNDAnSAoHAnZAoHAnCAnJAnNJAnYAnKApNnNGGA",
    "nGAnMAnNAoYAnOOpNnHOOnWOOqNnPOOnBHOOoOOnMBOOnKPOOnMGBOOnGBOOnFOOnVOOnTOOoHOOnDHOOpHOOnLOOnROO",
    "nDOOnNDOOnSOOoHOOnZOOoHOOnCOOnJOOnNJOOnYOOnKOOnNGGOOnGOOnMOOnNOOoYOOnUoNnHUpNnWUpNnPUnBHUoU",
    "nMBUnKPUnMGBUnGBUnFUnVUnTUoHUnDHUpHUnLUnRUnDUnNDUnSUoHUnZUoHUnCUnJUnNJUnYUnKUnNGGUnGUnMUnNU",
    "oYUnOoNnNGONnHOpNnWOpNnPOnBHOoOnMBOnKPOnMGBOnGBOqNnFOnVOnTOoHOnDHOpHOnLOnROnDOnNDOnSOoHOnZO",
    "oHOnCOnJOnNJOnYOnKOnNGGOnGOnMOnNOoYOnEoNnNGENnHEpNnWEpNnPEnBHEoEnMBEnKPEqNnMGBEnGBEqNnFEnVE",
    "nTEoHEnDHEpHEnLEnREnDEnNDEnSEoHEnZEoHEnCEnJEnNJEnYEnKEnNGGErNnGEpNnMEnNEoYEoGnLENGTHENER",
    "eCOMMAeFULL STOPeQUESTION MARKeSYLLABLE NDOLE FAtKAtSOOgMBOL FEENGlKEENGlTINGlNIIlBANGlFAA",
    "lTAAlDANGmOONGlKUNGlTONGlDO-OlJONGeDIGIT ZEROkONEkTWOlHREEkFOURlIVEkSIXlEVENkEIGHTkNINE",
    "eSYLLABLE NDOLE MAtDO@A640aCYRILLIC CAPITAL LETTER ZEMLYAjSMALL LETTER ZEMLYA",
    "jCAPITAL LETTER DZELOjSMALL LETTER DZELOjCAPITAL LETTER REVERSED DZE",
    "jSMALL LETTER REVERSED DZEjCAPITAL LETTER IOTAjSMALL LETTER IOTAjCAPITAL LETTER DJERV",
    "jSMALL LETTER DJERVjCAPITAL LETTER MONOGRAPH UKjSMALL LETTER MONOGRAPH UK",
    "jCAPITAL LETTER BROAD OMEGAjSMALL LETTER BROAD OMEGAjCAPITAL LETTER NEUTRAL YER",
    "jSMALL LETTER NEUTRAL YERjCAPITAL LETTER YERU WITH BACK YERjSMALL LETTER YERU WITH BACK YER",
    "jCAPITAL LETTER IOTIFIED YATjSMALL LETTER IOTIFIED YATjCAPITAL LETTER REVERSED YU",
    "jSMALL LETTER REVERSED YUjCAPITAL LETTER IOTIFIED AjSMALL LETTER IOTIFIED A",
    "jCAPITAL LETTER CLOSED LITTLE YUSjSMALL LETTER CLOSED LITTLE YUSjCAPITAL LETTER BLENDED YUS",
    "jSMALL LETTER BLENDED YUSjCAPITAL LETTER IOTIFIED CLOSED LITTLE YUS",
    "jSMALL LETTER IOTIFIED CLOSED LITTLE YUSjCAPITAL LETTER YNjSMALL LETTER YN",
    "jCAPITAL LETTER REVERSED TSEjSMALL LETTER REVERSED TSEjCAPITAL LETTER SOFT DE",
    "jSMALL LETTER SOFT DEjCAPITAL LETTER SOFT ELjSMALL LETTER SOFT ELjCAPITAL LETTER SOFT EM",
    "jSMALL LETTER SOFT EMjCAPITAL LETTER MONOCULAR OjSMALL LETTER MONOCULAR O",
    "jCAPITAL LETTER BINOCULAR OjSMALL LETTER BINOCULAR OjCAPITAL LETTER DOUBLE MONOCULAR O",
    "jSMALL LETTER DOUBLE MONOCULAR OjLETTER MULTIOCULAR ObOMBINING CYRILLIC VZMET",
    "tTEN MILLIONS SIGNtHUNDRED MILLIONS SIGNtTHOUSAND MILLIONS SIGNaSLAVONIC ASTERISK",
    "aCOMBINING CYRILLIC LETTER UKRAINIAN IEzbIzbYIzbUzbHARD SIGNzbYERUzbSOFT SIGNzbOMEGAtKAVYKA",
    "tPAYEROKbYRILLIC KAVYKAjPAYEROKjCAPITAL LETTER DWEjSMALL LETTER DWEjCAPITAL LETTER DZWE",
    "jSMALL LETTER DZWEjCAPITAL LETTER ZHWEjSMALL LETTER ZHWEjCAPITAL LETTER CCHE",
    "jSMALL LETTER CCHEjCAPITAL LETTER DZZEjSMALL LETTER DZZEjCAPITAL LETTER TE WITH MIDDLE HOOK",
    "jSMALL LETTER TE WITH MIDDLE HOOKjCAPITAL LETTER TWEjSMALL LETTER TWEjCAPITAL LETTER TSWE",
    "jSMALL LETTER TSWEjCAPITAL LETTER TSSEjSMALL LETTER TSSEjCAPITAL LETTER TCHE",
    "jSMALL LETTER TCHEjCAPITAL LETTER HWEjSMALL LETTER HWEjCAPITAL LETTER SHWEjSMALL LETTER SHWE",
    "jCAPITAL LETTER DOUBLE OjSMALL LETTER DOUBLE OjCAPITAL LETTER CROSSED O",
    "jSMALL LETTER CROSSED OaMODIFIER LETTER CYRILLIC HARD SIGNzaSOFT SIGN",
    "aCOMBINING CYRILLIC LETTER EFzbIOTIFIED EaBAMUM LETTER AnKAnUnKUnEEnREEnTAEnOnNYInInLAnPAnRII",
    "pEEnLEEEEnMEEEEnTAAnNDAAoJAEMnMnSUUnMUnSHIIoIoHEUXoEUXnKYEEoETnNUAEpoJUAEnYOQnSHUnYUQoAnNSHA",
    "nKEUXnPEUXnNJEEoTEEnPUEnWUEnPEEnFEEnRUnLUnMInNInREUXoAEnKENnNGKWAENpGApAnSHOnPUAEnFUoOMnWAnNA",
    "nLInPInLOQnKOnMBENnRENnMENoAnTInKInMOoBAAnTETnKPAnTENnNTUUnSAMBAnFAAMAEnKOVUUpGHOM",
    "gCOMBINING MARK KOQNDONvTUKWENTISgNJAEMLIgFULL STOPgCOLONiMMAgSEMICOLONgQUESTION MARK",
    "@A700aMODIFIER LETTER CHINESE TONE YIN PINGzfANG PINGzfIN SHANGzfANG SHANGzfIN QUzfANG QU",
    "zfIN RUzfANG RUqEXTRA-HIGH DOTTED TONE BARqHIGH DOTTED TONE BARqMID DOTTED TONE BAR",
    "qLOW DOTTED TONE BARqEXTRA-LOW DOTTED TONE BARwHIGH DOTTED LEFT-STEM TONE BAR",
    "qHIGH DOTTED LEFT-STEM TONE BARqMID DOTTED LEFT-STEM TONE BARqLOW DOTTED LEFT-STEM TONE BAR",
    "qEXTRA-LOW DOTTED LEFT-STEM TONE BARwHIGH LEFT-STEM TONE BARqHIGH LEFT-STEM TONE BAR",
    "qMID LEFT-STEM TONE BARqLOW LEFT-STEM TONE BARqEXTRA-LOW LEFT-STEM TONE BARqDOT VERTICAL BAR",
    "uSLASHuHORIZONTAL BARqLOWER RIGHT CORNER ANGLEqRAISED UP ARROWxDOWN ARROWxEXCLAMATION MARK",
    "xINVERTED EXCLAMATION MARKqLOW INVERTED EXCLAMATION MARKqSTRESS AND HIGH TONEzcLOW TONE",
    "aLATIN CAPITAL LETTER EGYPTOLOGICAL ALEFgSMALL LETTER EGYPTOLOGICAL ALEF",
    "gCAPITAL LETTER EGYPTOLOGICAL AINgSMALL LETTER EGYPTOLOGICAL AINgCAPITAL LETTER HENG",
    "gSMALL LETTER HENGgCAPITAL LETTER TZgSMALL LETTER TZgCAPITAL LETTER TRESILLO",
    "gSMALL LETTER TRESILLOgCAPITAL LETTER CUATRILLOgSMALL LETTER CUATRILLO",
    "gCAPITAL LETTER CUATRILLO WITH COMMAgSMALL LETTER CUATRILLO WITH COMMAgLETTER SMALL CAPITAL F",
    "zcSgCAPITAL LETTER AAgSMALL LETTER AAgCAPITAL LETTER AOgSMALL LETTER AOgCAPITAL LETTER AU",
    "gSMALL LETTER AUgCAPITAL LETTER AVgSMALL LETTER AVgCAPITAL LETTER AV WITH HORIZONTAL BAR",
    "gSMALL LETTER AV WITH HORIZONTAL BARgCAPITAL LETTER AYgSMALL LETTER AY",
    "gCAPITAL LETTER REVERSED C WITH DOTgSMALL LETTER REVERSED C WITH DOT",
    "gCAPITAL LETTER K WITH STROKEgSMALL LETTER K WITH STROKE",
    "gCAPITAL LETTER K WITH DIAGONAL STROKEgSMALL LETTER K WITH DIAGONAL STROKE",
    "gCAPITAL LETTER K WITH STROKE AND DIAGONAL STROKE",
    "gSMALL LETTER K WITH STROKE AND DIAGONAL STROKEgCAPITAL LETTER BROKEN LgSMALL LETTER BROKEN L",
    "gCAPITAL LETTER L WITH HIGH STROKEgSMALL LETTER L WITH HIGH STROKE",
    "gCAPITAL LETTER O WITH LONG STROKE OVERLAYgSMALL LETTER O WITH LONG STROKE OVERLAY",
    "gCAPITAL LETTER O WITH LOOPgSMALL LETTER O WITH LOOPgCAPITAL LETTER OOgSMALL LETTER OO",
    "gCAPITAL LETTER P WITH STROKE THROUGH DESCENDERgSMALL LETTER P WITH STROKE THROUGH DESCENDER",
    "gCAPITAL LETTER P WITH FLOURISHgSMALL LETTER P WITH FLOURISH",
    "gCAPITAL LETTER P WITH SQUIRREL TAILgSMALL LETTER P WITH SQUIRREL TAIL",
    "gCAPITAL LETTER Q WITH STROKE THROUGH DESCENDERgSMALL LETTER Q WITH STROKE THROUGH DESCENDER",
    "gCAPITAL LETTER Q WITH DIAGONAL STROKEgSMALL LETTER Q WITH DIAGONAL STROKE",
    "gCAPITAL LETTER R ROTUNDAgSMALL LETTER R ROTUNDAgCAPITAL LETTER RUM ROTUNDA",
    "gSMALL LETTER RUM ROTUNDAgCAPITAL LETTER V WITH DIAGONAL STROKE",
    "gSMALL LETTER V WITH DIAGONAL STROKEgCAPITAL LETTER VYgSMALL LETTER VY",
    "gCAPITAL LETTER VISIGOTHIC ZgSMALL LETTER VISIGOTHIC ZgCAPITAL LETTER THORN WITH STROKE",
    "gSMALL LETTER THORN WITH STROKEgCAPITAL LETTER THORN WITH STROKE THROUGH DESCENDER",
    "gSMALL LETTER THORN WITH STROKE THROUGH DESCENDERgCAPITAL LETTER VENDgSMALL LETTER VEND",
    "gCAPITAL LETTER ETgSMALL LETTER ETgCAPITAL LETTER ISgSMALL LETTER ISgCAPITAL LETTER CON",
    "gSMALL LETTER CONaMODIFIER LETTER USaLATIN SMALL LETTER DUMtLUMtMUMtNUMtRUM",
    "gLETTER SMALL CAPITAL RUMgSMALL LETTER TUMtUMgCAPITAL LETTER INSULAR DgSMALL LETTER INSULAR D",
    "gCAPITAL LETTER INSULAR FgSMALL LETTER INSULAR FgCAPITAL LETTER INSULAR GvTURNED INSULAR G",
    "gSMALL LETTER TURNED INSULAR GgCAPITAL LETTER TURNED LgSMALL LETTER TURNED L",
    "gCAPITAL LETTER INSULAR RgSMALL LETTER INSULAR RgCAPITAL LETTER INSULAR S",
    "gSMALL LETTER INSULAR SgCAPITAL LETTER INSULAR TgSMALL LETTER INSULAR T",
    "aMODIFIER LETTER LOW CIRCUMFLEX ACCENTqCOLONqSHORT EQUALS SIGNaLATIN CAPITAL LETTER SALTILLO",
    "gSMALL LETTER SALTILLOgCAPITAL LETTER TURNED HgSMALL LETTER L WITH RETROFLEX HOOK AND BELT",
    "gLETTER SINOLOGICAL DOTgCAPITAL LETTER N WITH DESCENDERgSMALL LETTER N WITH DESCENDER",
    "gCAPITAL LETTER C WITH BARgSMALL LETTER C WITH BARzbPALATAL HOOKtH WITH PALATAL HOOK",
    "gCAPITAL LETTER B WITH FLOURISHgSMALL LETTER B WITH FLOURISHgCAPITAL LETTER F WITH STROKE",
    "gSMALL LETTER F WITH STROKEgCAPITAL LETTER VOLAPUK AEgSMALL LETTER VOLAPUK AE",
    "gCAPITAL LETTER VOLAPUK OEgSMALL LETTER VOLAPUK OEgCAPITAL LETTER VOLAPUK UE",
    "gSMALL LETTER VOLAPUK UEgCAPITAL LETTER G WITH OBLIQUE STROKE",
    "gSMALL LETTER G WITH OBLIQUE STROKEgCAPITAL LETTER K WITH OBLIQUE STROKE",
    "gSMALL LETTER K WITH OBLIQUE STROKEgCAPITAL LETTER N WITH OBLIQUE STROKE",
    "gSMALL LETTER N WITH OBLIQUE STROKEgCAPITAL LETTER R WITH OBLIQUE STROKE",
    "gSMALL LETTER R WITH OBLIQUE STROKEgCAPITAL LETTER S WITH OBLIQUE STROKE",
    "gSMALL LETTER S WITH OBLIQUE STROKEgCAPITAL LETTER H WITH HOOKvREVERSED OPEN EvSCRIPT G",
    "vL WITH BELTvSMALL CAPITAL IgLETTER SMALL CAPITAL QgCAPITAL LETTER TURNED KzdT",
    "vJ WITH CROSSED-TAILvCHIvBETAgSMALL LETTER BETAgCAPITAL LETTER OMEGAgSMALL LETTER OMEGA",
    "gCAPITAL LETTER U WITH STROKEgSMALL LETTER U WITH STROKEgCAPITAL LETTER GLOTTAL A",
    "gSMALL LETTER GLOTTAL AgCAPITAL LETTER GLOTTAL IgSMALL LETTER GLOTTAL I",
    "gCAPITAL LETTER GLOTTAL UgSMALL LETTER GLOTTAL UgCAPITAL LETTER OLD POLISH O",
    "gSMALL LETTER OLD POLISH OgCAPITAL LETTER ANGLICANA WgSMALL LETTER ANGLICANA W",
    "gCAPITAL LETTER C WITH PALATAL HOOKvS WITH HOOKvZ WITH PALATAL HOOK",
    "vD WITH SHORT STROKE OVERLAYgSMALL LETTER D WITH SHORT STROKE OVERLAY",
    "gCAPITAL LETTER S WITH SHORT STROKE OVERLAYgSMALL LETTER S WITH SHORT STROKE OVERLAY",
    "@A7D0gCAPITAL LETTER CLOSED INSULAR GgSMALL LETTER CLOSED INSULAR G@A7D3tDOUBLE THORN",
    "@A7D5zbWYNNgCAPITAL LETTER MIDDLE SCOTS SgSMALL LETTER MIDDLE SCOTS S",
    "gCAPITAL LETTER SIGMOID SgSMALL LETTER SIGMOID S@A7F2aMODIFIER LETTER CAPITAL CyFyQ",
    "aLATIN CAPITAL LETTER REVERSED HALF HgSMALL LETTER REVERSED HALF H",
    "gEPIGRAPHIC LETTER SIDEWAYS IaMODIFIER LETTER CAPITAL H WITH STROKEqSMALL LIGATURE OE",
    "aLATIN LETTER SMALL CAPITAL TURNED MgEPIGRAPHIC LETTER REVERSED FziPyINVERTED Mza LONGA",
    "yARCHAIC MaSYLOTI NAGRI LETTER AuInSIGN DVISVARAnLETTER UuEuOnSIGN HASANTAnLETTER KOvHOuGOvHO",
    "nSIGN ANUSVARAnLETTER COvHOuJOvHOuTTOwHOuDDOwHOuTOvHOuDOvHOuNOuPOvHOuBOvHOuMOuROuLOuRROuSOuHO",
    "nVOWEL SIGN AyIyUyEyOOnPOETRY MARK-1za2za3za4nSIGN ALTERNATE HASANTA",
    "@A830aNORTH INDIC FRACTION ONE QUARTERzaHALFvTHREE QUARTERSvONE SIXTEENTHzaEIGHTH",
    "vTHREE SIXTEENTHSmQUARTER MARKmPLACEHOLDER MARKmRUPEE MARKmQUANTITY MARK",
    "@A840aPHAGS-PA LETTER KArHAqGAqNGAqCArHAqJAqNYAqTArHAqDAqNAqPArHAqBAqMAqTSAsHAqDZAqWAqZHArA",
    "qSMALL AqYAqRAqLAqSHArAqHAqAqIqUqEqOqQAqXAqFAqGGAqEEjSUBJOINED LETTER WAzbYAjLETTER TTAsHA",
    "qDDAqNNAqALTERNATE YAqVOICELESS SHAvD HAqASPIRATED FAjSUBJOINED LETTER RAlPERFIXED LETTER RA",
    "jLETTER CANDRABINDUjSINGLE HEAD MARKjDOUBLE HEAD MARKjMARK SHADoDOUBLE SHAD",
    "@A880aSAURASHTRA SIGN ANUSVARAqVISARGAlLETTER AtAsItIsUtUsVOCALIC RzcRzbLzcLsEtEsAIsOtOsAUsKA",
    "tHAsGAtHAsNGAsCAtHAsJAtHAsNYAsTTAuHAsDDAuHAsNNAsTAtHAsDAtHAsNAsPAtHAsBAtHAsMAsYAsRAsLAsVAsSHA",
    "tSAtAsHAsLLAlCONSONANT SIGN HAARUlVOWEL SIGN AAwIxIwUxUwVOCALIC RzgRzfLzgLwExEwAIwOxOwAU",
    "lSIGN VIRAMAqCANDRABINDU@A8CElDANDAmOUBLE DANDAmIGIT ZEROrONErTWOsHREErFOURsIVErSIXsEVEN",
    "rEIGHTrNINE@A8E0aCOMBINING DEVANAGARI DIGIT ZEROzcONEzcTWOzdHREEzcFOURzdIVEzcSIXzdEVENzcEIGHT",
    "zcNINEvLETTER AzdUzdKAzdNAzdPAzdRAzdVIvSIGN AVAGRAHAaDEVANAGARI SIGN SPACING CANDRABINDU",
    "qCANDRABINDU VIRAMAqDOUBLE CANDRABINDU VIRAMAqCANDRABINDU TWOzeHREEzdAVAGRAHAqPUSHPIKA",
    "lGAP FILLERlCARETlHEADSTROKElSIGN SIDDHAMlJAIN OMlLETTER AYlVOWEL SIGN AYaKAYAH LI DIGIT ZERO",
    "pONEpTWOqHREEpFOURqIVEpSIXqEVENpEIGHTpNINEjLETTER KArHAqGAqNGAqSArHAqZAqNYAqTAqHTAqNAqPArHA",
    "qMAqDAqBAqRAqYAqLAqWAqTHAqHAqVAqCAqAqOEqIqOOjVOWEL UEpEpUpEEpOjTONE PLOPHUoCALYAt PLOPHU",
    "jSIGN CWIoSHYAaREJANG LETTER KAoGAoNGAoTAoDAoNAoPAoBAoMAoCAoJAoNYAoSAoRAoLAoYAoWAoHAoMBAoNGGA",
    "pDApYJAoAhVOWEL SIGN IsUsEsAIsOsAUsEUtAhCONSONANT SIGN NGxwRwHhVIRAMA@A95FhSECTION MARK",
    "aHANGUL CHOSEONG TIKEUT-MIEUMxPIEUPxSIOSxCIEUCqRIEUL-KIYEOKwSSANGKIYEOKwTIKEUTwSSANGTIKEUT",
    "wMIEUMwPIEUPwSSANGPIEUPwKAPYEOUNPIEUPwSIOSwCIEUCwKHIEUKHqMIEUM-KIYEOKwTIKEUTwSIOS",
    "qPIEUP-SIOS-THIEUTHwKHIEUKHwHIEUHqSSANGSIOS-PIEUPqIEUNG-RIEULwHIEUHqSSANGCIEUC-HIEUHvTHIEUTH",
    "qPHIEUPH-HIEUHqHIEUH-SIOSqSSANGYEORINHIEUH@A980aJAVANESE SIGN PANYANGGAoCECAKoLAYARoWIGNYAN",
    "jLETTER AqI KAWIrrIqUqPA CEREKqNGA LELETza RASWADIqEqAIqOqKAs SASAKtMURDAqGAs MURDAqNGAqCA",
    "s MURDAqJAqNYA MURDAqJA MAHAPRANAqNYAqTTAt MAHAPRANAqDDAt MAHAPRANAqNA MURDAqTAs MURDAqDA",
    "s MAHAPRANAqNAqPAs MURDAqBAs MURDAqMAqYAqRAs AGUNGqLAqWAqSA MURDAuAHAPRANAsqHA",
    "jSIGN CECAK TELUjVOWEL SIGN TARUNGvOLONGuWULUy MELIKuSUKUy MENDUTuTALINGuDIRGA MUREuPEPET",
    "jCONSONANT SIGN KERETyPENGKALyCAKRAjPANGKONjLEFT RERENGGANjRIGHT RERENGGANjPADA ANDAPoMADYA",
    "oLUHURoWINDUoPANGKAToLINGSApUNGSIoADEGs ADEGoPISELEHjTURNED PADA PISELEH@A9CFjPANGRANGKEP",
    "jDIGIT ZEROpONEpTWOqHREEpFOURqIVEpSIXqEVENpEIGHTpNINE@A9DEjPADA TIRTA TUMETESoISEN-ISEN",
    "aMYANMAR LETTER SHAN GHAuCHAuJHAuNNAuBHAiSIGN SHAN SAWiMODIFIER LETTER SHAN REDUPLICATION",
    "iLETTER TAI LAING NYAzaFAzaGAzbHAzaJAzbHAzaDDAzcHAzaNNAiTAI LAING DIGIT ZEROyONEyTWOzaHREE",
    "yFOURzaIVEySIXzaEVENyEIGHTyNINEiLETTER TAI LAING LLAzaDAzbHAzaBAzbHA@AA00aCHAM LETTER AmImUmE",
    "mAImOmKAnHAmGAnHAmNGUEoAmCHAoHAmJAnHAmNHUEoAoJAmTAnHAmDAnHAmNUEnAmDDAmPAnPAnHAmBAnHAmMUEnA",
    "mBBAmYAmRAmLAmVAmSSAnAmHAfVOWEL SIGN AAqIrIqEIqUqOErqAIrUqUEfCONSONANT SIGN YAuRAuLAuWA",
    "@AA40fLETTER FINAL KsGsNGfCONSONANT SIGN FINAL NGfLETTER FINAL CHsTsNsPsYsRsLsSS",
    "fCONSONANT SIGN FINAL MzbH@AA50fDIGIT ZEROlONElTWOmHREElFOURmIVElSIXmEVENlEIGHTlNINE",
    "@AA5CfPUNCTUATION SPIRALrDANDAsOUBLE DANDArTRIPLE DANDAaMYANMAR LETTER KHAMTI GAwCAxHAwJAxHA",
    "wNYAwTTAyHAwDDAyHAxHAwNAwSAwHAxHAwFAiMODIFIER LETTER KHAMTI REDUPLICATIONiLETTER KHAMTI XAwZA",
    "wRAjOGOGRAM KHAMTI OAYyQNyHMiSYMBOL AITON EXCLAMATIONvONEvTWOiLETTER AITON RA",
    "iSIGN PAO KAREN TONEnTAI LAING TONE-2zd5iLETTER SHWE PALAUNG CHAzdSHAaTAI VIET LETTER LOW KO",
    "qHIGH KOqLOW KHOqHIGH KHOqLOW KHHOqHIGH KHHOqLOW GOqHIGH GOqLOW NGOqHIGH NGOqLOW COqHIGH CO",
    "qLOW CHOqHIGH CHOqLOW SOqHIGH SOqLOW NYOqHIGH NYOqLOW DOqHIGH DOqLOW TOqHIGH TOqLOW THO",
    "qHIGH THOqLOW NOqHIGH NOqLOW BOqHIGH BOqLOW POqHIGH POqLOW PHOqHIGH PHOqLOW FOqHIGH FOqLOW MO",
    "qHIGH MOqLOW YOqHIGH YOqLOW ROqHIGH ROqLOW LOqHIGH LOqLOW VOqHIGH VOqLOW HOqHIGH HOqLOW O",
    "qHIGH OjMAI KANGjVOWEL AApIpUEqpEpOjMAI KHITjVOWEL IApUEAqApAUEqYqNqMjTONE MAI EKsNUENGsTHO",
    "sSONG@AADBjSYMBOL KONqNUENGqSAMqHO HOIqKOI KOIaMEETEI MAYEK LETTER EuOuCHAuNYAuTTAwHAuDDAwHA",
    "uNNAuSHAvSAnVOWEL SIGN IIyUUyAAIzaUzaAUnCHEIKHANnAHANG KHUDAMoNJInSYLLABLE REPETITION MARK",
    "nWORD REPETITION MARKnVOWEL SIGN VISARGAoIRAMA@AB01aETHIOPIC SYLLABLE TTHUvIvAAvEEwvO",
    "@AB09sDDHUvIvAAvEEwvO@AB11tZUuIuAAuEEvuO@AB20sCCHHAwUwIwAAwEExwO@AB28sBBAuUuIuAAuEEvuO",
    "@AB30aLATIN SMALL LETTER BARRED ALPHAtA REVERSED-SCHWAtBLACKLETTER EuARRED EtE WITH FLOURISH",
    "tLENIS FtSCRIPT G WITH CROSSED-TAILtL WITH INVERTED LAZY SzbDOUBLE MIDDLE TILDEzbMIDDLE RING",
    "tM WITH CROSSED-TAILtN WITH CROSSED-TAILtENG WITH CROSSED-TAILtBLACKLETTER Ozh WITH STROKE",
    "tOPEN O WITH STROKEtINVERTED OEtTURNED OE WITH STROKEzjHORIZONTAL STROKEzc OPEN-O",
    "zj WITH STROKEtSTIRRUP RgLETTER SMALL CAPITAL R WITH RIGHT LEGgSMALL LETTER R WITHOUT HANDLE",
    "tDOUBLE RtR WITH CROSSED-TAILtDOUBLE R WITH CROSSED-TAILtSCRIPT Rzc WITH RINGtBASELINE ESH",
    "tU WITH SHORT RIGHT LEGvBAR WITH SHORT RIGHT LEGuItTURNED UItU WITH LEFT HOOKtCHI",
    "w WITH LOW RIGHT RINGzhLEFT SERIFtX WITH LOW RIGHT RINGzdNG LEFT LEGzo AND LOW RIGHT RING",
    "zpWITH SERIFtY WITH SHORT RIGHT LEGaMODIFIER BREVE WITH INVERTED BREVEjLETTER SMALL HENG",
    "wL WITH INVERTED LAZY SzeMIDDLE TILDEwU WITH LEFT HOOKaLATIN SMALL LETTER SAKHA YAT",
    "tIOTIFIED EtOPEN OEtUOtINVERTED ALPHAaGREEK LETTER SMALL CAPITAL OMEGA",
    "aLATIN SMALL LETTER DZ DIGRAPH WITH RETROFLEX HOOKtTS DIGRAPH WITH RETROFLEX HOOK",
    "uURNED R WITH MIDDLE TILDEaMODIFIER LETTER SMALL TURNED WqLEFT TACKqRIGHT TACK",
    "@AB70aCHEROKEE SMALL LETTER AwEwIwOwUwVwGAwKAwGExIxOxUxVwHAxExIxOxUxVwLAxExIxOxUxVwMAxExIxOxU",
    "wNAwHNAwNAHxExIxOxUxVwQUAyEyIyOyUyVwSAxxExIxOxUxVwDAwTAwDEwTEwDIwTIwDOxUxVxLAwTLAyEyIyOyUyV",
    "xSAyEyIyOyUyVwWAxExIxOxUxVwYAaMEETEI MAYEK LETTER KOKuSAMuLAIuMITuPAuNAuCHILuTILuKHOUuNGOU",
    "uTHOUuWAIuYANGuHUKuUNuIuPHAMuATIYAuGOKuJHAMuRAIuBAuJILuDILuGHOUuDHOUuBHAMuKOK LONSUM",
    "uLAI LONSUMuMIT LONSUMuPA LONSUMuNA LONSUMuTIL LONSUMuNGOU LONSUMuI LONSUMnVOWEL SIGN ONAP",
    "yINAPyANAPyYENAPySOUNAPyUNAPyCHEINAPyNUNGnCHEIKHEInLUM IYEKnAPUN IYEK@ABF0nDIGIT ZEROtONEtTWO",
    "uHREEtFOURuIVEtSIXuEVENtEIGHTtNINE@D7B0aHANGUL JUNGSEONG O-YEOtO-IrYO-AvEuEOrU-YEOtI-IrYU-AE",
    "uOrEU-AuEOvuOrI-YA-OvEuEOvtO-ItYOuUtIrARAEA-AxE@D7CBiONGSEONG NIEUN-RIEULxCHIEUCHrSSANGTIKEUT",
    "zd-PIEUPrTIKEUT-PIEUPySIOSzd-KIYEOKyCIEUCzaHIEUCHyTHIEUTHrRIEUL-SSANGKIYEOKxKIYEOK-HIEUH",
    "rSSANGRIEUL-KHIEUKHrRIEUL-MIEUM-HIEUHxPIEUP-TIKEUTzePHIEUPHxYESIEUNGzaORINHIEUH-HIEUH",
    "rKAPYEOUNRIEULrMIEUM-NIEUNxSSANGNIEUNrSSANGMIEUMrMIEUM-PIEUP-SIOSxCIEUCrPIEUP-TIKEUT",
    "xRIEUL-PHIEUPHxMIEUMrSSANGPIEUPrPIEUP-SIOS-TIKEUTxCIEUCyHIEUCHrSIOS-MIEUMwKAPYEOUNPIEUP",
    "sSANGSIOS-KIYEOKzcTIKEUTsIOS-PANSIOSwCIEUCxHIEUCHwTHIEUTHwHIEUHrPANSIOS-PIEUPzaKAPYEOUNPIEUP",
    "rYESIEUNG-MIEUMzbHIEUHrCIEUC-PIEUPxSSANGPIEUPrSSANGCIEUCrPHIEUPH-SIOSzaTHIEUTH",
    "@FB00aLATIN SMALL LIGATURE FFwIwLwFIxLvLONG S TvST@FB13aARMENIAN SMALL LIGATURE MEN NOWzdECH",
    "zdINIyVEW NOWyMEN XEH@FB1DaHEBREW LETTER YOD WITH HIRIQhPOINT JUDEO-SPANISH VARIKA",
    "hLIGATURE YIDDISH YOD YOD PATAHiETTER ALTERNATIVE AYINoWIDE ALEFtDALETtHEtKAFtLAMEDtFINAL MEM",
    "tRESHtTAVoALTERNATIVE PLUS SIGNoSHIN WITH SHIN DOTzaIN DOTyDAGESH AND SHIN DOTzlIN DOT",
    "oALEF WITH PATAHyQAMATSyMAPIQoBET WITH DAGESHoGIMEL WITH DAGESHoDALET WITH DAGESH",
    "oHE WITH MAPIQoVAV WITH DAGESHoZAYIN WITH DAGESH@FB38oTET WITH DAGESHoYOD WITH DAGESH",
    "oFINAL KAF WITH DAGESHoKAF WITH DAGESHoLAMED WITH DAGESH@FB3EoMEM WITH DAGESH",
    "@FB40oNUN WITH DAGESHoSAMEKH WITH DAGESH@FB43oFINAL PE WITH DAGESHoPE WITH DAGESH",
    "@FB46oTSADI WITH DAGESHoQOF WITH DAGESHoRESH WITH DAGESHoSHIN WITH DAGESHoTAV WITH DAGESH",
    "oVAV WITH HOLAMoBET WITH RAFEoKAF WITH RAFEoPE WITH RAFEiIGATURE ALEF LAMED",
    "aARABIC LETTER ALEF WASLA ISOLATED FORMzaFINAL FORMoBEEH ISOLATED FORMtFINAL FORM",
    "tINITIAL FORMtMEDIAL FORMoPEH ISOLATED FORMsFINAL FORMsINITIAL FORMsMEDIAL FORM",
    "oBEHEH ISOLATED FORMuFINAL FORMuINITIAL FORMuMEDIAL FORMoTTEHEH ISOLATED FORMvFINAL FORM",
    "vINITIAL FORMvMEDIAL FORMpEHEH ISOLATED FORMuFINAL FORMuINITIAL FORMuMEDIAL FORM",
    "pTEH ISOLATED FORMtFINAL FORMtINITIAL FORMtMEDIAL FORMoVEH ISOLATED FORMsFINAL FORM",
    "sINITIAL FORMsMEDIAL FORMoPEHEH ISOLATED FORMuFINAL FORMuINITIAL FORMuMEDIAL FORM",
    "oDYEH ISOLATED FORMtFINAL FORMtINITIAL FORMtMEDIAL FORMoNYEH ISOLATED FORMtFINAL FORM",
    "tINITIAL FORMtMEDIAL FORMoTCHEH ISOLATED FORMuFINAL FORMuINITIAL FORMuMEDIAL FORM",
    "tEH ISOLATED FORMwFINAL FORMwINITIAL FORMwMEDIAL FORMoDDAHAL ISOLATED FORMvFINAL FORM",
    "pAHAL ISOLATED FORMuFINAL FORMpUL ISOLATED FORMsFINAL FORMpDAL ISOLATED FORMtFINAL FORM",
    "oJEH ISOLATED FORMsFINAL FORMoRREH ISOLATED FORMtFINAL FORMoKEHEH ISOLATED FORMuFINAL FORM",
    "uINITIAL FORMuMEDIAL FORMoGAF ISOLATED FORMsFINAL FORMsINITIAL FORMsMEDIAL FORM",
    "pUEH ISOLATED FORMtFINAL FORMtINITIAL FORMtMEDIAL FORMoNGOEH ISOLATED FORMuFINAL FORM",
    "uINITIAL FORMuMEDIAL FORMpOON GHUNNA ISOLATED FORMzbFINAL FORMoRNOON ISOLATED FORMuFINAL FORM",
    "uINITIAL FORMuMEDIAL FORMoHEH WITH YEH ABOVE ISOLATED FORMziFINAL FORMsGOAL ISOLATED FORM",
    "xFINAL FORMxINITIAL FORMxMEDIAL FORMsDOACHASHMEE ISOLATED FORMzfFINAL FORMzfINITIAL FORM",
    "zfMEDIAL FORMoYEH BARREE ISOLATED FORMzaFINAL FORMzaWITH HAMZA ABOVE ISOLATED FORM",
    "zrFINAL FORMhSYMBOL DOT ABOVEsBELOWoTWO DOTS ABOVExBELOWpHREE DOTS ABOVEzaBELOW",
    "zaPOINTING DOWNWARDS ABOVEztBELOWoFOUR DOTS ABOVEyBELOWoDOUBLE VERTICAL BAR BELOW",
    "oTWO DOTS VERTICALLY ABOVEzjBELOWoRINGoSMALL TAH ABOVEyBELOWoWASLA ABOVE",
    "@FBD3hLETTER NG ISOLATED FORMrFINAL FORMrINITIAL FORMrMEDIAL FORMoU ISOLATED FORMqFINAL FORM",
    "oOE ISOLATED FORMrFINAL FORMoYU ISOLATED FORMrFINAL FORMoU WITH HAMZA ABOVE ISOLATED FORM",
    "oVE ISOLATED FORMrFINAL FORMoKIRGHIZ OE ISOLATED FORMzaFINAL FORMwYU ISOLATED FORM",
    "zaFINAL FORMoE ISOLATED FORMqFINAL FORMqINITIAL FORMqMEDIAL FORM",
    "oUIGHUR KAZAKH KIRGHIZ ALEF MAKSURA INITIAL FORMzyMEDIAL FORM",
    "iIGATURE YEH WITH HAMZA ABOVE WITH ALEF ISOLATED FORMzwFINAL FORMzsE ISOLATED FORM",
    "zuFINAL FORMzrWAW ISOLATED FORMzvFINAL FORMzrU ISOLATED FORMztFINAL FORMzrOE ISOLATED FORM",
    "zuFINAL FORMzrYU ISOLATED FORMzuFINAL FORMzrE ISOLATED FORMztFINAL FORMztINITIAL FORM",
    "qUIGHUR KIRGHIZ YEH WITH HAMZA ABOVE WITH ALEF MAKSURA ISOLATED FORMzzuFINAL FORM",
    "zzuINITIAL FORMiETTER FARSI YEH ISOLATED FORMyFINAL FORMyINITIAL FORMyMEDIAL FORM",
    "iIGATURE YEH WITH HAMZA ABOVE WITH JEEM ISOLATED FORMzrHAH ISOLATED FORMzrMEEM ISOLATED FORM",
    "zrALEF MAKSURA ISOLATED FORMzrYEH ISOLATED FORMqBEH WITH JEEM ISOLATED FORM",
    "zaHAH ISOLATED FORMzaKHAH ISOLATED FORMzaMEEM ISOLATED FORMzaALEF MAKSURA ISOLATED FORM",
    "zaYEH ISOLATED FORMqTEH WITH JEEM ISOLATED FORMzaHAH ISOLATED FORMzaKHAH ISOLATED FORM",
    "zaMEEM ISOLATED FORMzaALEF MAKSURA ISOLATED FORMzaYEH ISOLATED FORM",
    "rHEH WITH JEEM ISOLATED FORMzbMEEM ISOLATED FORMzbALEF MAKSURA ISOLATED FORM",
    "zbYEH ISOLATED FORMqJEEM WITH HAH ISOLATED FORMzbMEEM ISOLATED FORM",
    "qHAH WITH JEEM ISOLATED FORMzaMEEM ISOLATED FORMqKHAH WITH JEEM ISOLATED FORM",
    "zbHAH ISOLATED FORMzbMEEM ISOLATED FORMqSEEN WITH JEEM ISOLATED FORMzbHAH ISOLATED FORM",
    "zbKHAH ISOLATED FORMzbMEEM ISOLATED FORMrAD WITH HAH ISOLATED FORMzaMEEM ISOLATED FORM",
    "qDAD WITH JEEM ISOLATED FORMzaHAH ISOLATED FORMzaKHAH ISOLATED FORMzaMEEM ISOLATED FORM",
    "qTAH WITH HAH ISOLATED FORMzaMEEM ISOLATED FORMqZAH WITH MEEM ISOLATED FORM",
    "qAIN WITH JEEM ISOLATED FORMzaMEEM ISOLATED FORMqGHAIN WITH JEEM ISOLATED FORM",
    "zcMEEM ISOLATED FORMqFEH WITH JEEM ISOLATED FORMzaHAH ISOLATED FORMzaKHAH ISOLATED FORM",
    "zaMEEM ISOLATED FORMzaALEF MAKSURA ISOLATED FORMzaYEH ISOLATED FORM",
    "qQAF WITH HAH ISOLATED FORMzaMEEM ISOLATED FORMzaALEF MAKSURA ISOLATED FORM",
    "zaYEH ISOLATED FORMqKAF WITH ALEF ISOLATED FORMzaJEEM ISOLATED FORMzaHAH ISOLATED FORM",
    "zaKHAH ISOLATED FORMzaLAM ISOLATED FORMzaMEEM ISOLATED FORMzaALEF MAKSURA ISOLATED FORM",
    "zaYEH ISOLATED FORMqLAM WITH JEEM ISOLATED FORMzaHAH ISOLATED FORMzaKHAH ISOLATED FORM",
    "zaMEEM ISOLATED FORMzaALEF MAKSURA ISOLATED FORMzaYEH ISOLATED FORM",
    "qMEEM WITH JEEM ISOLATED FORMzbHAH ISOLATED FORMzbKHAH ISOLATED FORMzbMEEM ISOLATED FORM",
    "zbALEF MAKSURA ISOLATED FORMzbYEH ISOLATED FORMqNOON WITH JEEM ISOLATED FORM",
    "zbHAH ISOLATED FORMzbKHAH ISOLATED FORMzbMEEM ISOLATED FORMzbALEF MAKSURA ISOLATED FORM",
    "zbYEH ISOLATED FORMqHEH WITH JEEM ISOLATED FORMzaMEEM ISOLATED FORM",
    "zaALEF MAKSURA ISOLATED FORMzaYEH ISOLATED FORMqYEH WITH JEEM ISOLATED FORM",
    "zaHAH ISOLATED FORMzaKHAH ISOLATED FORMzaMEEM ISOLATED FORMzaALEF MAKSURA ISOLATED FORM",
    "zaYEH ISOLATED FORMqTHAL WITH SUPERSCRIPT ALEF ISOLATED FORM",
    "qREH WITH SUPERSCRIPT ALEF ISOLATED FORMqALEF MAKSURA WITH SUPERSCRIPT ALEF ISOLATED FORM",
    "qSHADDA WITH DAMMATAN ISOLATED FORMzdKASRATAN ISOLATED FORMzdFATHA ISOLATED FORM",
    "zdDAMMA ISOLATED FORMzdKASRA ISOLATED FORMzdSUPERSCRIPT ALEF ISOLATED FORM",
    "qYEH WITH HAMZA ABOVE WITH REH FINAL FORMzrZAIN FINAL FORMzrMEEM FINAL FORMzrNOON FINAL FORM",
    "zrALEF MAKSURA FINAL FORMzrYEH FINAL FORMqBEH WITH REH FINAL FORMzaZAIN FINAL FORM",
    "zaMEEM FINAL FORMzaNOON FINAL FORMzaALEF MAKSURA FINAL FORMzaYEH FINAL FORM",
    "qTEH WITH REH FINAL FORMzaZAIN FINAL FORMzaMEEM FINAL FORMzaNOON FINAL FORM",
    "zaALEF MAKSURA FINAL FORMzaYEH FINAL FORMrHEH WITH REH FINAL FORMzbZAIN FINAL FORM",
    "zbMEEM FINAL FORMzbNOON FINAL FORMzbALEF MAKSURA FINAL FORMzbYEH FINAL FORM",
    "qFEH WITH ALEF MAKSURA FINAL FORMzaYEH FINAL FORMqQAF WITH ALEF MAKSURA FINAL FORM",
    "zaYEH FINAL FORMqKAF WITH ALEF FINAL FORMzaLAM FINAL FORMzaMEEM FINAL FORM",
    "zaALEF MAKSURA FINAL FORMzaYEH FINAL FORMqLAM WITH MEEM FINAL FORMzaALEF MAKSURA FINAL FORM",
    "zaYEH FINAL FORMqMEEM WITH ALEF FINAL FORMzbMEEM FINAL FORMqNOON WITH REH FINAL FORM",
    "zbZAIN FINAL FORMzbMEEM FINAL FORMzbNOON FINAL FORMzbALEF MAKSURA FINAL FORMzbYEH FINAL FORM",
    "qALEF MAKSURA WITH SUPERSCRIPT ALEF FINAL FORMqYEH WITH REH FINAL FORMzaZAIN FINAL FORM",
    "zaMEEM FINAL FORMzaNOON FINAL FORMzaALEF MAKSURA FINAL FORMzaYEH FINAL FORM",
    "zaHAMZA ABOVE WITH JEEM INITIAL FORMzrHAH INITIAL FORMzrKHAH INITIAL FORMzrMEEM INITIAL FORM",
    "zrHEH INITIAL FORMqBEH WITH JEEM INITIAL FORMzaHAH INITIAL FORMzaKHAH INITIAL FORM",
    "zaMEEM INITIAL FORMzaHEH INITIAL FORMqTEH WITH JEEM INITIAL FORMzaHAH INITIAL FORM",
    "zaKHAH INITIAL FORMzaMEEM INITIAL FORMzaHEH INITIAL FORMrHEH WITH MEEM INITIAL FORM",
    "qJEEM WITH HAH INITIAL FORMzbMEEM INITIAL FORMqHAH WITH JEEM INITIAL FORMzaMEEM INITIAL FORM",
    "qKHAH WITH JEEM INITIAL FORMzbMEEM INITIAL FORMqSEEN WITH JEEM INITIAL FORMzbHAH INITIAL FORM",
    "zbKHAH INITIAL FORMzbMEEM INITIAL FORMrAD WITH HAH INITIAL FORMzaKHAH INITIAL FORM",
    "zaMEEM INITIAL FORMqDAD WITH JEEM INITIAL FORMzaHAH INITIAL FORMzaKHAH INITIAL FORM",
    "zaMEEM INITIAL FORMqTAH WITH HAH INITIAL FORMqZAH WITH MEEM INITIAL FORM",
    "qAIN WITH JEEM INITIAL FORMzaMEEM INITIAL FORMqGHAIN WITH JEEM INITIAL FORM",
    "zcMEEM INITIAL FORMqFEH WITH JEEM INITIAL FORMzaHAH INITIAL FORMzaKHAH INITIAL FORM",
    "zaMEEM INITIAL FORMqQAF WITH HAH INITIAL FORMzaMEEM INITIAL FORMqKAF WITH JEEM INITIAL FORM",
    "zaHAH INITIAL FORMzaKHAH INITIAL FORMzaLAM INITIAL FORMzaMEEM INITIAL FORM",
    "qLAM WITH JEEM INITIAL FORMzaHAH INITIAL FORMzaKHAH INITIAL FORMzaMEEM INITIAL FORM",
    "zaHEH INITIAL FORMqMEEM WITH JEEM INITIAL FORMzbHAH INITIAL FORMzbKHAH INITIAL FORM",
    "zbMEEM INITIAL FORMqNOON WITH JEEM INITIAL FORMzbHAH INITIAL FORMzbKHAH INITIAL FORM",
    "zbMEEM INITIAL FORMzbHEH INITIAL FORMqHEH WITH JEEM INITIAL FORMzaMEEM INITIAL FORM",
    "zaSUPERSCRIPT ALEF INITIAL FORMqYEH WITH JEEM INITIAL FORMzaHAH INITIAL FORM",
    "zaKHAH INITIAL FORMzaMEEM INITIAL FORMzaHEH INITIAL FORMzbAMZA ABOVE WITH MEEM MEDIAL FORM",
    "zrHEH MEDIAL FORMqBEH WITH MEEM MEDIAL FORMzaHEH MEDIAL FORMqTEH WITH MEEM MEDIAL FORM",
    "zaHEH MEDIAL FORMrHEH WITH MEEM MEDIAL FORMzbHEH MEDIAL FORMqSEEN WITH MEEM MEDIAL FORM",
    "zbHEH MEDIAL FORMrHEEN WITH MEEM MEDIAL FORMzcHEH MEDIAL FORMqKAF WITH LAM MEDIAL FORM",
    "zaMEEM MEDIAL FORMqLAM WITH MEEM MEDIAL FORMqNOON WITH MEEM MEDIAL FORMzbHEH MEDIAL FORM",
    "qYEH WITH MEEM MEDIAL FORMzaHEH MEDIAL FORMqSHADDA WITH FATHA MEDIAL FORMzdDAMMA MEDIAL FORM",
    "zdKASRA MEDIAL FORMqTAH WITH ALEF MAKSURA ISOLATED FORMzaYEH ISOLATED FORM",
    "qAIN WITH ALEF MAKSURA ISOLATED FORMzaYEH ISOLATED FORMqGHAIN WITH ALEF MAKSURA ISOLATED FORM",
    "zcYEH ISOLATED FORMqSEEN WITH ALEF MAKSURA ISOLATED FORMzbYEH ISOLATED FORM",
    "rHEEN WITH ALEF MAKSURA ISOLATED FORMzcYEH ISOLATED FORMqHAH WITH ALEF MAKSURA ISOLATED FORM",
    "zaYEH ISOLATED FORMqJEEM WITH ALEF MAKSURA ISOLATED FORMzbYEH ISOLATED FORM",
    "qKHAH WITH ALEF MAKSURA ISOLATED FORMzbYEH ISOLATED FORMqSAD WITH ALEF MAKSURA ISOLATED FORM",
    "zaYEH ISOLATED FORMqDAD WITH ALEF MAKSURA ISOLATED FORMzaYEH ISOLATED FORM",
    "qSHEEN WITH JEEM ISOLATED FORMzcHAH ISOLATED FORMzcKHAH ISOLATED FORMzcMEEM ISOLATED FORM",
    "zcREH ISOLATED FORMrEEN WITH REH ISOLATED FORMrAD WITH REH ISOLATED FORM",
    "qDAD WITH REH ISOLATED FORMqTAH WITH ALEF MAKSURA FINAL FORMzaYEH FINAL FORM",
    "qAIN WITH ALEF MAKSURA FINAL FORMzaYEH FINAL FORMqGHAIN WITH ALEF MAKSURA FINAL FORM",
    "zcYEH FINAL FORMqSEEN WITH ALEF MAKSURA FINAL FORMzbYEH FINAL FORM",
    "rHEEN WITH ALEF MAKSURA FINAL FORMzcYEH FINAL FORMqHAH WITH ALEF MAKSURA FINAL FORM",
    "zaYEH FINAL FORMqJEEM WITH ALEF MAKSURA FINAL FORMzbYEH FINAL FORM",
    "qKHAH WITH ALEF MAKSURA FINAL FORMzbYEH FINAL FORMqSAD WITH ALEF MAKSURA FINAL FORM",
    "zaYEH FINAL FORMqDAD WITH ALEF MAKSURA FINAL FORMzaYEH FINAL FORMqSHEEN WITH JEEM FINAL FORM",
    "zcHAH FINAL FORMzcKHAH FINAL FORMzcMEEM FINAL FORMzcREH FINAL FORMrEEN WITH REH FINAL FORM",
    "rAD WITH REH FINAL FORMqDAD WITH REH FINAL FORMqSHEEN WITH JEEM INITIAL FORM",
    "zcHAH INITIAL FORMzcKHAH INITIAL FORMzcMEEM INITIAL FORMrEEN WITH HEH INITIAL FORM",
    "rHEEN WITH HEH INITIAL FORMqTAH WITH MEEM INITIAL FORMqSEEN WITH JEEM MEDIAL FORM",
    "zbHAH MEDIAL FORMzbKHAH MEDIAL FORMrHEEN WITH JEEM MEDIAL FORMzcHAH MEDIAL FORM",
    "zcKHAH MEDIAL FORMqTAH WITH MEEM MEDIAL FORMqZAH WITH MEEM MEDIAL FORM",
    "qALEF WITH FATHATAN FINAL FORMzkISOLATED FORMaORNATE LEFT PARENTHESIShRIGHT PARENTHESIS",
    "aARABIC LIGATURE RAHIMAHU ALLAAHsDI ALLAAHU ANHzhAAzhUMzjAAziNNAqSALLALLAAHU ALAYHI WA-AALIH",
    "qALAYHI AS-SALAAMwM AS-SALAAMxAA AS-SALAAMw AS-SALAATU WAS-SALAAMqQUDDISA SIRRAH",
    "qSALLALLAHU ALAYHI WAAALIHEE WA-SALLAMqALAYHAA AS-SALAAMqTABAARAKA WA-TAAALAA",
    "qRAHIMAHUM ALLAAHqTEH WITH JEEM WITH MEEM INITIAL FORMzaHAH WITH JEEM FINAL FORM",
    "zoINITIAL FORMzjMEEM INITIAL FORMzaKHAH WITH MEEM INITIAL FORMzaMEEM WITH JEEM INITIAL FORM",
    "zkHAH INITIAL FORMzkKHAH INITIAL FORMqJEEM WITH MEEM WITH HAH FINAL FORMzpINITIAL FORM",
    "qHAH WITH MEEM WITH YEH FINAL FORMzkALEF MAKSURA FINAL FORM",
    "qSEEN WITH HAH WITH JEEM INITIAL FORMzbJEEM WITH HAH INITIAL FORMzlALEF MAKSURA FINAL FORM",
    "zbMEEM WITH HAH FINAL FORMzpINITIAL FORMzlJEEM INITIAL FORMzlMEEM FINAL FORMzqINITIAL FORM",
    "rAD WITH HAH WITH HAH FINAL FORMznINITIAL FORMzaMEEM WITH MEEM FINAL FORM",
    "rHEEN WITH HAH WITH MEEM FINAL FORMzqINITIAL FORMzcJEEM WITH YEH FINAL FORM",
    "zcMEEM WITH KHAH FINAL FORMzrINITIAL FORMzmMEEM FINAL FORMzrINITIAL FORM",
    "qDAD WITH HAH WITH ALEF MAKSURA FINAL FORMzaKHAH WITH MEEM FINAL FORMzpINITIAL FORM",
    "qTAH WITH MEEM WITH HAH FINAL FORMzoINITIAL FORMzkMEEM INITIAL FORMzkYEH FINAL FORM",
    "qAIN WITH JEEM WITH MEEM FINAL FORMzaMEEM WITH MEEM FINAL FORMzpINITIAL FORM",
    "zkALEF MAKSURA FINAL FORMqGHAIN WITH MEEM WITH MEEM FINAL FORMzmYEH FINAL FORM",
    "zmALEF MAKSURA FINAL FORMqFEH WITH KHAH WITH MEEM FINAL FORMzpINITIAL FORM",
    "qQAF WITH MEEM WITH HAH FINAL FORMzkMEEM FINAL FORMqLAM WITH HAH WITH MEEM FINAL FORM",
    "zjYEH FINAL FORMzjALEF MAKSURA FINAL FORMzaJEEM WITH JEEM INITIAL FORMzpFINAL FORM",
    "zaKHAH WITH MEEM FINAL FORMzpINITIAL FORMzaMEEM WITH HAH FINAL FORMzoINITIAL FORM",
    "qMEEM WITH HAH WITH JEEM INITIAL FORMzkMEEM INITIAL FORMzkYEH FINAL FORM",
    "zbJEEM WITH HAH INITIAL FORMzlMEEM INITIAL FORMzbKHAH WITH JEEM INITIAL FORM",
    "zlMEEM INITIAL FORM@FD92zbJEEM WITH KHAH INITIAL FORMqHEH WITH MEEM WITH JEEM INITIAL FORM",
    "zkMEEM INITIAL FORMqNOON WITH HAH WITH MEEM INITIAL FORMzkALEF MAKSURA FINAL FORM",
    "zbJEEM WITH MEEM FINAL FORMzqINITIAL FORMzlALEF MAKSURA FINAL FORMzbMEEM WITH YEH FINAL FORM",
    "zlALEF MAKSURA FINAL FORMqYEH WITH MEEM WITH MEEM FINAL FORMzpINITIAL FORM",
    "qBEH WITH KHAH WITH YEH FINAL FORMqTEH WITH JEEM WITH YEH FINAL FORMzkALEF MAKSURA FINAL FORM",
    "zaKHAH WITH YEH FINAL FORMzkALEF MAKSURA FINAL FORMzaMEEM WITH YEH FINAL FORM",
    "zkALEF MAKSURA FINAL FORMqJEEM WITH MEEM WITH YEH FINAL FORM",
    "zbHAH WITH ALEF MAKSURA FINAL FORMzbMEEM WITH ALEF MAKSURA FINAL FORM",
    "qSEEN WITH KHAH WITH ALEF MAKSURA FINAL FORMrAD WITH HAH WITH YEH FINAL FORM",
    "rHEEN WITH HAH WITH YEH FINAL FORMqDAD WITH HAH WITH YEH FINAL FORM",
    "qLAM WITH JEEM WITH YEH FINAL FORMzaMEEM WITH YEH FINAL FORMqYEH WITH HAH WITH YEH FINAL FORM",
    "zaJEEM WITH YEH FINAL FORMzaMEEM WITH YEH FINAL FORMqMEEM WITH MEEM WITH YEH FINAL FORM",
    "qQAF WITH MEEM WITH YEH FINAL FORMqNOON WITH HAH WITH YEH FINAL FORM",
    "qQAF WITH MEEM WITH HAH INITIAL FORMqLAM WITH HAH WITH MEEM INITIAL FORM",
    "qAIN WITH MEEM WITH YEH FINAL FORMqKAF WITH MEEM WITH YEH FINAL FORM",
    "qNOON WITH JEEM WITH HAH INITIAL FORMqMEEM WITH KHAH WITH YEH FINAL FORM",
    "qLAM WITH JEEM WITH MEEM INITIAL FORMqKAF WITH MEEM WITH MEEM FINAL FORM",
    "qLAM WITH JEEM WITH MEEM FINAL FORMqNOON WITH JEEM WITH HAH FINAL FORM",
    "qJEEM WITH HAH WITH YEH FINAL FORMqHAH WITH JEEM WITH YEH FINAL FORM",
    "qMEEM WITH JEEM WITH YEH FINAL FORMqFEH WITH MEEM WITH YEH FINAL FORM",
    "qBEH WITH HAH WITH YEH FINAL FORMqKAF WITH MEEM WITH MEEM INITIAL FORM",
    "qAIN WITH JEEM WITH MEEM INITIAL FORMqSAD WITH MEEM WITH MEEM INITIAL FORM",
    "rEEN WITH KHAH WITH YEH FINAL FORMqNOON WITH JEEM WITH YEH FINAL FORM@FDCFqSALAAMUHU ALAYNAA",
    "@FDF0tLA USED AS KORANIC STOP SIGN ISOLATED FORMqQALA USED AS KORANIC STOP SIGN ISOLATED FORM",
    "qALLAH ISOLATED FORMrKBAR ISOLATED FORMqMOHAMMAD ISOLATED FORMqSALAM ISOLATED FORM",
    "qRASOUL ISOLATED FORMqALAYHE ISOLATED FORMqWASALLAM ISOLATED FORMqSALLA ISOLATED FORM",
    "vLLAHOU ALAYHE WASALLAMqJALLAJALALOUHOUaRIAL SIGN",
    "aARABIC LIGATURE BISMILLAH AR-RAHMAN AR-RAHEEMqSUBHAANAHU WA TAAALAAqAZZA WA JALL",
    "aVARIATION SELECTOR-1t2t3t4t5t6t7t8t9t10u1u2u3u4u5u6aPRESENTATION FORM FOR VERTICAL COMMA",
    "zgIDEOGRAPHIC COMMAzsFULL STOPzgCOLONzgSEMICOLONzgEXCLAMATION MARKzgQUESTION MARK",
    "zgLEFT WHITE LENTICULAR BRACKETzgRIGHT WHITE LENTICULAR BRAKCETzgHORIZONTAL ELLIPSIS",
    "@FE20aCOMBINING LIGATURE LEFT HALFtRIGHT HALFkDOUBLE TILDE LEFT HALFxRIGHT HALF",
    "kMACRON LEFT HALFrRIGHT HALFkCONJOINING MACRONkLIGATURE LEFT HALF BELOWtRIGHT HALF BELOW",
    "kTILDE LEFT HALF BELOWqRIGHT HALF BELOWkMACRON LEFT HALF BELOWrRIGHT HALF BELOW",
    "kCONJOINING MACRON BELOWlYRILLIC TITLO LEFT HALFzaRIGHT HALF",
    "aPRESENTATION FORM FOR VERTICAL TWO DOT LEADERzgEM DASHzhN DASHzgLOW LINEzgWAVY LOW LINE",
    "zgLEFT PARENTHESISzgRIGHT PARENTHESISzgLEFT CURLY BRACKETzgRIGHT CURLY BRACKET",
    "zgLEFT TORTOISE SHELL BRACKETzgRIGHT TORTOISE SHELL BRACKETzgLEFT BLACK LENTICULAR BRACKET",
    "zgRIGHT BLACK LENTICULAR BRACKETzgLEFT DOUBLE ANGLE BRACKETzgRIGHT DOUBLE ANGLE BRACKET",
    "zgLEFT ANGLE BRACKETzgRIGHT ANGLE BRACKETzgLEFT CORNER BRACKETzgRIGHT CORNER BRACKET",
    "zgLEFT WHITE CORNER BRACKETzgRIGHT WHITE CORNER BRACKETaSESAME DOTaWHITE SESAME DOT",
    "aPRESENTATION FORM FOR VERTICAL LEFT SQUARE BRACKETzgRIGHT SQUARE BRACKETaDASHED OVERLINE",
    "aCENTRELINE OVERLINEaWAVY OVERLINEaDOUBLE WAVY OVERLINEbASHED LOW LINEaCENTRELINE LOW LINE",
    "aWAVY LOW LINEaSMALL COMMAgIDEOGRAPHIC COMMAgFULL STOP@FE54gSEMICOLONgCOLONgQUESTION MARK",
    "gEXCLAMATION MARKhM DASHgLEFT PARENTHESISgRIGHT PARENTHESISgLEFT CURLY BRACKET",
    "gRIGHT CURLY BRACKETgLEFT TORTOISE SHELL BRACKETgRIGHT TORTOISE SHELL BRACKETgNUMBER SIGN",
    "gAMPERSANDhSTERISKgPLUS SIGNgHYPHEN-MINUSgLESS-THAN SIGNgGREATER-THAN SIGNgEQUALS SIGN",
    "@FE68gREVERSE SOLIDUSgDOLLAR SIGNgPERCENT SIGNgCOMMERCIAL AT",
    "@FE70aARABIC FATHATAN ISOLATED FORMhTATWEEL WITH FATHATAN ABOVEhDAMMATAN ISOLATED FORM",
    "hTAIL FRAGMENThKASRATAN ISOLATED FORM@FE76hFATHA ISOLATED FORMnMEDIAL FORM",
    "hDAMMA ISOLATED FORMnMEDIAL FORMhKASRA ISOLATED FORMnMEDIAL FORMhSHADDA ISOLATED FORM",
    "oMEDIAL FORMiUKUN ISOLATED FORMnMEDIAL FORMhLETTER HAMZA ISOLATED FORM",
    "oALEF WITH MADDA ABOVE ISOLATED FORMzlFINAL FORMyHAMZA ABOVE ISOLATED FORMzlFINAL FORM",
    "oWAW WITH HAMZA ABOVE ISOLATED FORMzkFINAL FORMoALEF WITH HAMZA BELOW ISOLATED FORM",
    "zlFINAL FORMoYEH WITH HAMZA ABOVE ISOLATED FORMzkFINAL FORMzkINITIAL FORMzkMEDIAL FORM",
    "oALEF ISOLATED FORMtFINAL FORMoBEH ISOLATED FORMsFINAL FORMsINITIAL FORMsMEDIAL FORM",
    "oTEH MARBUTA ISOLATED FORMzbFINAL FORMsISOLATED FORMsFINAL FORMsINITIAL FORMsMEDIAL FORM",
    "pHEH ISOLATED FORMtFINAL FORMtINITIAL FORMtMEDIAL FORMoJEEM ISOLATED FORMtFINAL FORM",
    "tINITIAL FORMtMEDIAL FORMoHAH ISOLATED FORMsFINAL FORMsINITIAL FORMsMEDIAL FORM",
    "oKHAH ISOLATED FORMtFINAL FORMtINITIAL FORMtMEDIAL FORMoDAL ISOLATED FORMsFINAL FORM",
    "oTHAL ISOLATED FORMtFINAL FORMoREH ISOLATED FORMsFINAL FORMoZAIN ISOLATED FORMtFINAL FORM",
    "oSEEN ISOLATED FORMtFINAL FORMtINITIAL FORMtMEDIAL FORMpHEEN ISOLATED FORMuFINAL FORM",
    "uINITIAL FORMuMEDIAL FORMpAD ISOLATED FORMsFINAL FORMsINITIAL FORMsMEDIAL FORM",
    "oDAD ISOLATED FORMsFINAL FORMsINITIAL FORMsMEDIAL FORMoTAH ISOLATED FORMsFINAL FORM",
    "sINITIAL FORMsMEDIAL FORMoZAH ISOLATED FORMsFINAL FORMsINITIAL FORMsMEDIAL FORM",
    "oAIN ISOLATED FORMsFINAL FORMsINITIAL FORMsMEDIAL FORMoGHAIN ISOLATED FORMuFINAL FORM",
    "uINITIAL FORMuMEDIAL FORMoFEH ISOLATED FORMsFINAL FORMsINITIAL FORMsMEDIAL FORM",
    "oQAF ISOLATED FORMsFINAL FORMsINITIAL FORMsMEDIAL FORMoKAF ISOLATED FORMsFINAL FORM",
    "sINITIAL FORMsMEDIAL FORMoLAM ISOLATED FORMsFINAL FORMsINITIAL FORMsMEDIAL FORM",
    "oMEEM ISOLATED FORMtFINAL FORMtINITIAL FORMtMEDIAL FORMoNOON ISOLATED FORMtFINAL FORM",
    "tINITIAL FORMtMEDIAL FORMoHEH ISOLATED FORMsFINAL FORMsINITIAL FORMsMEDIAL FORM",
    "oWAW ISOLATED FORMsFINAL FORMoALEF MAKSURA ISOLATED FORMzcFINAL FORMoYEH ISOLATED FORM",
    "sFINAL FORMsINITIAL FORMsMEDIAL FORMiIGATURE LAM WITH ALEF WITH MADDA ABOVE ISOLATED FORM",
    "zwFINAL FORMzkHAMZA ABOVE ISOLATED FORMzwFINAL FORMzqBELOW ISOLATED FORMzwFINAL FORM",
    "zfISOLATED FORMzfFINAL FORM@FEFFaZERO WIDTH NO-BREAK SPACE@FF01aFULLWIDTH EXCLAMATION MARK",
    "kQUOTATION MARKkNUMBER SIGNkDOLLAR SIGNkPERCENT SIGNkAMPERSANDlPOSTROPHEkLEFT PARENTHESIS",
    "kRIGHT PARENTHESISkASTERISKkPLUS SIGNkCOMMAkHYPHEN-MINUSkFULL STOPkSOLIDUSkDIGIT ZEROqONEqTWO",
    "rHREEqFOURrIVEqSIXrEVENqEIGHTqNINEkCOLONkSEMICOLONkLESS-THAN SIGNkEQUALS SIGN",
    "kGREATER-THAN SIGNkQUESTION MARKkCOMMERCIAL ATkLATIN CAPITAL LETTER AzgBzgCzgDzgEzgFzgGzgHzgI",
    "zgJzgKzgLzgMzgNzgOzgPzgQzgRzgSzgTzgUzgVzgWzgXzgYzgZlEFT SQUARE BRACKETkREVERSE SOLIDUS",
    "lIGHT SQUARE BRACKETkCIRCUMFLEX ACCENTkLOW LINEkGRAVE ACCENTkLATIN SMALL LETTER AzeBzeCzeDzeE",
    "zeFzeGzeHzeIzeJzeKzeLzeMzeNzeOzePzeQzeRzeSzeTzeUzeVzeWzeXzeYzeZlEFT CURLY BRACKET",
    "kVERTICAL LINEkRIGHT CURLY BRACKETkTILDEkLEFT WHITE PARENTHESISkRIGHT WHITE PARENTHESIS",
    "aHALFWIDTH IDEOGRAPHIC FULL STOPkLEFT CORNER BRACKETkRIGHT CORNER BRACKETkIDEOGRAPHIC COMMA",
    "kKATAKANA MIDDLE DOTtLETTER WOzbSMALL AzhIzhUzhEzhOzhYAziUziOzhTU",
    "s-HIRAGANA PROLONGED SOUND MARKs LETTER AzbIzbUzbEzbOzbKAzcIzcUzcEzcOzbSAzcIzcUzcEzcOzbTAzcI",
    "zcUzcEzcOzbNAzcIzcUzcEzcOzbHAzcIzcUzcEzcOzbMAzcIzcUzcEzcOzbYAzcUzcOzbRAzcIzcUzcEzcOzbWAzbN",
    "tVOICED SOUND MARKtSEMI-VOICED SOUND MARKkHANGUL FILLERrLETTER KIYEOKySSANGKIYEOKyKIYEOK-SIOS",
    "yNIEUNze-CIEUCzfHIEUHyTIKEUTySSANGTIKEUTyRIEULze-KIYEOKzfMIEUMzfPIEUPzfSIOSzfTHIEUTHzfPHIEUPH",
    "zfHIEUHyMIEUMyPIEUPySSANGPIEUPyPIEUP-SIOSySIOSzaSANGSIOSyIEUNGyCIEUCySSANGCIEUCyCHIEUCH",
    "yKHIEUKHyTHIEUTHyPHIEUPHyHIEUH@FFC2yAzaEyYAzbEyEOza@FFCAyYEOzbyOyWAzbEyOE@FFD2yYOyUyWEOzbzaI",
    "yYU@FFDAyEUyYIyI@FFE0aFULLWIDTH CENT SIGNkPOUND SIGNkNOT SIGNkMACRONkBROKEN BARkYEN SIGN",
    "kWON SIGN@FFE8aHALFWIDTH FORMS LIGHT VERTICALkLEFTWARDS ARROWkUPWARDS ARROWkRIGHTWARDS ARROW",
    "kDOWNWARDS ARROWkBLACK SQUAREkWHITE CIRCLE@FFF9aINTERLINEAR ANNOTATION ANCHORxSEPARATOR",
    "xTERMINATORaOBJECT REPLACEMENT CHARACTERaREPLACEMENT CHARACTER"]

end CodeAtlas.Text
