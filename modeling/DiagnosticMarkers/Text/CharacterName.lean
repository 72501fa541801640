import DiagnosticMarkers.Text.Basic

/-!
# Named characters

Is a text the name of a character? Most names are in a table, in groups by the first letter and
with their aliases. In front of each name stands a small letter, which says how many words of the
name before it are kept: none for `a`, one for `b`, and so on. Line ends do not count. An ideograph
is named by its code point and a syllable by the letters that it is made of; these names are not in
the table.
-/

namespace DiagnosticMarkers.Text

def namesWithA : String :=
  "aABACUSaAC CURRENTaACCORDIONaACCOUNT OFaACKaACKNOWLEDGEaACTIVATE ARABIC FORM SHAPING
bSYMMETRIC SWAPPINGaACUTE ACCENTbANGLEaADDRESSED TO THE SUBJECTaADHESIVE BANDAGEaADI SHAKTI
aADLAM ALIF LENGTHENERbCAPITAL LETTER ALIFdBAdBHEdCHIdDAALIdDHAdEdFAdGAdGBEdHAdIdJIIMdKAFdKHA
dKPOdLAAMdMIIMdNHAdNUNdNYAdOdPEdQAAFdRAdSHAdSINNYIIYHEdTUdUdVAdWAWdYAdYHEdZALbCONSONANT MODIFIER
bDIGIT EIGHTcFIVEcFOURcNINEcONEcSEVENcSIXcTHREEcTWOcZERObGEMINATE CONSONANT MODIFIER
bGEMINATION MARKbHAMZAbINITIAL EXCLAMATION MARKcQUESTION MARKbNASALIZATION MARKbNUKTA
bSMALL LETTER ALIFdBAdBHEdCHIdDAALIdDHAdEdFAdGAdGBEdHAdIdJIIMdKAFdKHAdKPOdLAAMdMIIMdNHAdNUNdNYA
dOdPEdQAAFdRAdSHAdSINNYIIYHEdTUdUdVAdWAWdYAdYHEdZALbVOWEL LENGTHENERaADMETOSaADMISSION TICKETS
aADULTaAEGEAN CHECK MARKbDRY MEASURE FIRST SUBUNITbLIQUID MEASURE FIRST SUBUNIT
bMEASURE SECOND SUBUNITcTHIRD SUBUNITbNUMBER EIGHTdHUNDREDdTHOUSANDcEIGHTYdTHOUSANDcFIFTY
dTHOUSANDcFIVEdHUNDREDdTHOUSANDcFORTYdTHOUSANDcFOURdHUNDREDdTHOUSANDcNINEdHUNDREDdTHOUSAND
cNINETYdTHOUSANDcONEdHUNDREDdTHOUSANDcSEVENdHUNDREDdTHOUSANDcSEVENTYdTHOUSANDcSIXdHUNDRED
dTHOUSANDcSIXTYdTHOUSANDcTENdTHOUSANDcTHIRTYdTHOUSANDcTHREEdHUNDREDdTHOUSANDcTWENTYdTHOUSANDcTWO
dHUNDREDdTHOUSANDbWEIGHT BASE UNITcFIRST SUBUNITcFOURTH SUBUNITcSECOND SUBUNITcTHIRD SUBUNIT
bWORD SEPARATOR DOTdLINEaAERIAL TRAMWAYaAFGHANI SIGNaAHOM CONSONANT SIGN MEDIAL LAeLIGATING RA
eRAbDIGIT EIGHTcFIVEcFOURcNINEcONEcSEVENcSIXcTHREEcTWOcZERObLETTER AcALTERNATE BAdGAdTAcBAcBHA
cCAcCHAcDAcDDAcDDHAcDHAcGAcGHAcHAcJAcJHAcKAcKHAcLAcLLAcMAcNAcNGAcNNAcNYAcPAcPHAcRAcSAcTAcTHAcTTA
cTTHAbNUMBER TENcTWENTYbSIGN KILLERcRULAIcSECTIONcSMALL SECTIONbSYMBOL VIbVOWEL SIGN AdAAdAIdAM
dAWdEdIdIIdOdUdUUaAIRPLANEbARRIVINGbDEPARTUREaAKTIESELSKABaALARM CLOCKaALCHEMICAL SYMBOL FOR AIR
dALEMBICdALKALIdALKALI-2dALUMdAMALGAMdANTIMONY OREdAQUA REGIAeREGIA-2eVITAEeVITAE-2dAQUAFORTIS
dARSENICdASHESdAURIPIGMENTdBATH OF MARYfVAPOURSdBISMUTH OREdBLACK SULFURdBORAXdBORAX-2dBORAX-3
dBRICKdCADUCEUSdCALXdCAPUT MORTUUMdCINNABARdCOPPER ANTIMONIATEeOREdCROCUS OF COPPERfCOPPER-2
fIRONdCRUCIBLEdCRUCIBLE-2dCRUCIBLE-3dCRUCIBLE-4dCRUCIBLE-5dDAY-NIGHTdDISSOLVEdDISSOLVE-2dDISTILL
dEARTHdFIREdGOLDdGUMdHALF DRAMeOUNCEdHORSE DUNGdHOURdIRON OREeORE-2dIRON-COPPER OREdLEAD ORE
dLODESTONEdMARCASITEdMERCURY SUBLIMATEeSUBLIMATE-2eSUBLIMATE-3dMONTHdNIGHTdNITREdOIL
dPHILOSOPHERS SULFURdPOT ASHESdPOWDERdPOWDERED BRICKdPRECIPITATEdPURIFYdPUTREFACTIONdQUICK LIME
dQUINTESSENCEdREALGARdREALGAR-2dREGULUSeOF ANTIMONYfANTIMONY-2fIRONdREGULUS-2dREGULUS-3
dREGULUS-4dRETORTdROCK SALTeSALT-2dSAL-AMMONIACdSALTeOF ANTIMONYfCOPPER ANTIMONIATE
dSCEPTER OF JOVEdSILVERdSOAPdSPIRITdSTARRED TRIDENTdSTRATUM SUPER STRATUMfSTRATUM-2
dSUBLIMATE OF ANTIMONYfCOPPERfSALT OF ANTIMONYhCOPPERdSUBLIMATIONdSULFURdTARTARdTARTAR-2dTIN ORE
dTINCTUREdTRIDENTdTUTTYdURINEdVERDIGRISdVINEGAReOF ANTIMONYdVINEGAR-2dVINEGAR-3dVITRIOL
dVITRIOL-2dWATERdWAXaALEF SYMBOLaALEMBICaALERTaALIEN MONSTERaALL AROUND-PROFILEbEQUAL TOaALM
aALMOST EQUAL OR EQUAL TOcTOdWITH CIRCUMFLEX ACCENTaALTERNATE ONE-WAY LEFT WAY TRAFFIC
aALTERNATIVE KEY SYMBOLaAMALGAMATION OR COPRODUCTaAMBULANCEaAMERICAN FOOTBALLaAMPERSANDaAMPHORA
aANATOLIAN HIEROGLYPH A001cA002cA003cA004cA005cA006cA007cA008cA009cA010cA010AcA011cA012cA013
cA014cA015cA016cA017cA018cA019cA020cA021cA022cA023cA024cA025cA026cA026AcA027cA028cA029cA030cA031
cA032cA033cA034cA035cA036cA037cA038cA039cA039AcA040cA041cA041AcA042cA043cA044cA045cA045AcA046
cA046AcA046BcA047cA048cA049cA050cA051cA052cA053cA054cA055cA056cA057cA058cA059cA060cA061cA062
cA063cA064cA065cA066cA066AcA066BcA066CcA067cA068cA069cA070cA071cA072cA073cA074cA075cA076cA077
cA078cA079cA080cA081cA082cA083cA084cA085cA086cA087cA088cA089cA090cA091cA092cA093cA094cA095cA096
cA097cA097AcA098cA098AcA099cA100cA100AcA101cA101AcA102cA102AcA103cA104cA104AcA104BcA104CcA105
cA105AcA105BcA106cA107cA107AcA107BcA107CcA108cA109cA110cA110AcA110BcA111cA112cA113cA114cA115
cA115AcA116cA117cA118cA119cA120cA121cA122cA123cA124cA125cA125AcA126cA127cA128cA129cA130cA131
cA132cA133cA134cA135cA135AcA136cA137cA138cA139cA140cA141cA142cA143cA144cA145cA146cA147cA148cA149
cA150cA151cA152cA153cA154cA155cA156cA157cA158cA159cA160cA161cA162cA163cA164cA165cA166cA167cA168
cA169cA170cA171cA172cA173cA174cA175cA176cA177cA178cA179cA180cA181cA182cA183cA184cA185cA186cA187
cA188cA189cA190cA191cA192cA193cA194cA195cA196cA197cA198cA199cA200cA201cA202cA202AcA202BcA203
cA204cA205cA206cA207cA207AcA208cA209cA209AcA210cA211cA212cA213cA214cA215cA215AcA216cA216AcA217
cA218cA219cA220cA221cA222cA223cA224cA225cA226cA227cA227AcA228cA229cA230cA231cA232cA233cA234cA235
cA236cA237cA238cA239cA240cA241cA242cA243cA244cA245cA246cA247cA248cA249cA250cA251cA252cA253cA254
cA255cA256cA257cA258cA259cA260cA261cA262cA263cA264cA265cA266cA267cA267AcA268cA269cA270cA271cA272
cA273cA274cA275cA276cA277cA278cA279cA280cA281cA282cA283cA284cA285cA286cA287cA288cA289cA289AcA290
cA291cA292cA293cA294cA294AcA295cA296cA297cA298cA299cA299AcA300cA301cA302cA303cA304cA305cA306
cA307cA308cA309cA309AcA310cA311cA312cA313cA314cA315cA316cA317cA318cA319cA320cA321cA322cA323cA324
cA325cA326cA327cA328cA329cA329AcA330cA331cA332AcA332BcA332CcA333cA334cA335cA336cA336AcA336B
cA336CcA337cA338cA339cA340cA341cA342cA343cA344cA345cA346cA347cA348cA349cA350cA351cA352cA353cA354
cA355cA356cA357cA358cA359cA359AcA360cA361cA362cA363cA364cA364AcA365cA366cA367cA368cA368AcA369
cA370cA371cA371AcA372cA373cA374cA375cA376cA377cA378cA379cA380cA381cA381AcA382cA383 RA OR RI
cA383AcA384cA385cA386cA386AcA387cA388cA389cA390cA391cA392cA393 EIGHTcA394cA395cA396cA397cA398
cA399cA400cA401cA402cA403cA404cA405cA406cA407cA408cA409cA410 BEGIN LOGOGRAM MARK
cA410A END LOGOGRAM MARKcA411cA412cA413cA414cA415cA416cA417cA418cA419cA420cA421cA422cA423cA424
cA425cA426cA427cA428cA429cA430cA431cA432cA433cA434cA435cA436cA437cA438cA439cA440cA441cA442cA443
cA444cA445cA446cA447cA448cA449cA450cA450AcA451cA452cA453cA454cA455cA456cA457cA457AcA458cA459
cA460cA461cA462cA463cA464cA465cA466cA467cA468cA469cA470cA471cA472cA473cA474cA475cA476cA477cA478
cA479cA480cA481cA482cA483cA484cA485cA486cA487cA488cA489cA490cA491cA492cA493cA494cA495cA496cA497
cA501cA502cA503cA504cA505cA506cA507cA508cA509cA510cA511cA512cA513cA514cA515cA516cA517cA518cA519
cA520cA521cA522cA523cA524cA525cA526cA527cA528cA529cA530aANATOMICAL HEARTaANCHORaAND WITH DOT
aANGER SYMBOLaANGLEbWITH S INSIDEcUNDERBARaANGRY FACEaANGSTROM SIGNaANGUISHED FACEaANKHaANT
aANTENNA WITH BARSaANTICLOCKWISE CLOSED CIRCLE ARROWbCONTOUR INTEGRAL
bDOWNWARDS AND UPWARDS OPEN CIRCLE ARROWSbGAPPED CIRCLE ARROWbINTEGRATIONbOPEN CIRCLE ARROW
bTOP SEMICIRCLE ARROWbTRIANGLE-HEADED BOTTOM U-SHAPED ARROWcLEFT U-SHAPED ARROW
cOPEN CIRCLE ARROWcRIGHT U-SHAPED ARROWcTOP U-SHAPED ARROWaAPCaAPL FUNCTIONAL SYMBOL ALPHA
eUNDERBARdBACKSLASH BARdCIRCLE BACKSLASHeDIAERESISeJOTeSTAReSTILEeUNDERBARdCOMMA BAR
dDEL DIAERESISeSTILEeTILDEdDELTA STILEeUNDERBARdDIAMOND UNDERBARdDOWN CARET TILDEeSHOE STILE
eTACK JOTfUNDERBARdDOWNWARDS VANEdEPSILON UNDERBARdGREATER-THAN DIAERESISdI-BEAMdIOTAeUNDERBAR
dJOT DIAERESISeUNDERBARdLEFT SHOE STILEdLEFTWARDS VANEdOMEGAeUNDERBARdQUADeBACKSLASHeCIRCLE
eCOLONeDELeDELTAeDIAMONDeDIVIDEeDOWN CARETeDOWNWARDS ARROWeEQUALeGREATER-THANeJOT
eLEFTWARDS ARROWeLESS-THANeNOT EQUALeQUESTIONeRIGHTWARDS ARROWeSLASHeUP CARETeUPWARDS ARROW
dQUOTE QUADeUNDERBARdRHOdRIGHTWARDS VANEdSEMICOLON UNDERBARdSLASH BARdSQUISH QUADdSTAR DIAERESIS
dSTILE TILDEdTILDE DIAERESISdUP CARET TILDEeSHOE JOTeTACK DIAERESISfJOTfOVERBARdUPWARDS VANE
dZILDEaAPOLLONaAPOSTROPHEaAPPLICATION PROGRAM COMMANDaAPPROACHES THE LIMIT
aAPPROXIMATELY BUT NOT ACTUALLY EQUAL TObEQUAL OR EQUAL TOcTOdOR THE IMAGE OFaAQUARIUS
aARABIC BASELINE ROUND DOTbCOMMAbCURLY DAMMAcDAMMATANcFATHAcFATHATANcKASRAcKASRATANbDAMMA
cISOLATED FORMcMEDIAL FORMcWITH DOTbDAMMATANcISOLATED FORMbDATE SEPARATORbDECIMAL SEPARATOR
bDISPUTED END OF AYAHbDOUBLE RIGHT ARROWHEAD ABOVEfWITH DOTbDOUBLED MADDAbEMPTY CENTRE HIGH STOP
dLOW STOPbEND OF AYAHdTEXT MARKbFATHAcISOLATED FORMcMEDIAL FORMcWITH DOT ABOVEdRINGdTWO DOTS
bFATHATANcISOLATED FORMbFIVE POINTED STARbFOOTNOTE MARKERbFULL STOPbHALF MADDA OVER MADDA
bHAMZA ABOVEcBELOWbINVERTED DAMMAbKASRAcISOLATED FORMcMEDIAL FORMcWITH DOT BELOWbKASRATAN
cISOLATED FORMbLARGE CIRCLE BELOWcROUND DOT ABOVEeBELOWeINSIDE CIRCLE BELOWbLEFT ARROWHEAD ABOVE
dBELOWbLETTER AEcAFRICAN FEHdNOONdQAFeWITH THREE DOTS ABOVEcAINdFINAL FORMdINITIAL FORM
dISOLATED FORMdMEDIAL FORMdWITH THREE DOTS ABOVEgBELOWgPOINTING DOWNWARDS ABOVEeTWO DOTS ABOVE
gVERTICALLY ABOVEcALEFdFINAL FORMdISOLATED FORMdMAKSURAeFINAL FORMeISOLATED FORMdWASLA
eFINAL FORMeISOLATED FORMdWITH ATTACHED BOTTOM RIGHT KASRAiAND DOT ABOVEjLEFT RINGfFATHAfKASRA
fLEFT HAMZAgROUND DOTfRIGHT HAMZAgROUND DOTfROUND DOT ABOVEhBELOWfTOP RIGHT FATHAiAND DOT ABOVE
jLEFT RINGeDOT ABOVEeEXTENDED ARABIC-INDIC DIGIT THREE ABOVEhTWO ABOVEeHAMZA ABOVEgFINAL FORM
gISOLATED FORMfBELOWgFINAL FORMgISOLATED FORMeLEFT MIDDLE STROKEeMADDA ABOVEgFINAL FORM
gISOLATED FORMeRIGHT MIDDLE STROKEhAND DOT ABOVEiLEFT RINGeWAVY HAMZA ABOVEgBELOWcBEEH
dFINAL FORMdINITIAL FORMdISOLATED FORMdMEDIAL FORMcBEHdFINAL FORMdINITIAL FORMdISOLATED FORM
dMEDIAL FORMdWITH DOT BELOW AND THREE DOTS ABOVEeHAMZA ABOVEeINVERTED SMALL V BELOW
eSMALL MEEM ABOVEfVgBELOWeTHREE DOTS HORIZONTALLY BELOWgPOINTING UPWARDS BELOW
jAND TWO DOTS ABOVEeTWO DOTS BELOW AND DOT ABOVEcBEHEHdFINAL FORMdINITIAL FORMdISOLATED FORM
dMEDIAL FORMcDADdFINAL FORMdINITIAL FORMdISOLATED FORMdMEDIAL FORMdWITH DOT BELOWcDAHAL
dFINAL FORMdISOLATED FORMcDALdFINAL FORMdISOLATED FORMdWITH DOT BELOWgAND SMALL TAH
eFOUR DOTS ABOVEeINVERTED SMALL V BELOWfVeRINGeTHREE DOTS ABOVE DOWNWARDSgBELOW
eTWO DOTS VERTICALLY BELOW AND SMALL TAHcDDAHALdFINAL FORMdISOLATED FORMcDDALdFINAL FORM
dISOLATED FORMcDOTLESS BEHdFEHdQAFcDULdFINAL FORMdISOLATED FORMcDYEHdFINAL FORMdINITIAL FORM
dISOLATED FORMdMEDIAL FORMcEdFINAL FORMdINITIAL FORMdISOLATED FORMdMEDIAL FORMcFARSI YEH
eFINAL FORMeINITIAL FORMeISOLATED FORMeMEDIAL FORMeWITH EXTENDED ARABIC-INDIC DIGIT FOUR BELOW
iTHREE ABOVEiTWO ABOVEfINVERTED VfTHREE DOTS ABOVEfTWO DOTS ABOVEcFEHdFINAL FORMdINITIAL FORM
dISOLATED FORMdMEDIAL FORMdWITH DOT BELOWgAND THREE DOTS ABOVEfMOVED BELOWeTHREE DOTS BELOW
gPOINTING UPWARDS BELOWeTWO DOTS BELOWcGAFdFINAL FORMdINITIAL FORMdISOLATED FORMdMEDIAL FORM
dWITH INVERTED STROKEeRINGeTHREE DOTS ABOVEeTWO DOTS BELOWcGHAINdFINAL FORMdINITIAL FORM
dISOLATED FORMdMEDIAL FORMdWITH DOT BELOWeTHREE DOTS ABOVEcGRAFcGUEHdFINAL FORMdINITIAL FORM
dISOLATED FORMdMEDIAL FORMcHAHdFINAL FORMdINITIAL FORMdISOLATED FORMdMEDIAL FORM
dWITH EXTENDED ARABIC-INDIC DIGIT FOUR BELOWeHAMZA ABOVEeINVERTED SMALL V BELOW
eSMALL ARABIC LETTER TAH ABOVEiAND TWO DOTSiBELOWeTHREE DOTS ABOVEgPOINTING UPWARDS BELOW
eTWO DOTS ABOVEgVERTICAL ABOVEcHAMZAdISOLATED FORMcHEHdDOACHASHMEEeFINAL FORMeINITIAL FORM
eISOLATED FORMeMEDIAL FORMdFINAL FORMdGOALeFINAL FORMeINITIAL FORMeISOLATED FORMeMEDIAL FORM
eWITH HAMZA ABOVEdINITIAL FORMdISOLATED FORMdMEDIAL FORMdWITH INVERTED VeYEH ABOVEgFINAL FORM
gISOLATED FORMcHIGH HAMZAeALEFeWAWeYEHcJEEMdFINAL FORMdINITIAL FORMdISOLATED FORMdMEDIAL FORM
dWITH THREE DOTS ABOVEgBELOWeTWO DOTS ABOVEcJEHdFINAL FORMdISOLATED FORMcKAFdFINAL FORM
dINITIAL FORMdISOLATED FORMdMEDIAL FORMdWITH DOT ABOVEfBELOWeRINGeTHREE DOTS BELOW
eTWO DOTS ABOVEcKASHMIRI YEHcKEHEHdFINAL FORMdINITIAL FORMdISOLATED FORMdMEDIAL FORM
dWITH DOT ABOVEeSMALL VeTHREE DOTS ABOVEgBELOWgPOINTING UPWARDS BELOWeTWO DOTS ABOVE
gVERTICALLY BELOWcKHAHdFINAL FORMdINITIAL FORMdISOLATED FORMdMEDIAL FORMcKIRGHIZ OEeFINAL FORM
eISOLATED FORMdYUeFINAL FORMeISOLATED FORMcLAMdFINAL FORMdINITIAL FORMdISOLATED FORMdMEDIAL FORM
dWITH BAReDOT ABOVEeDOUBLE BAReSMALL ARABIC LETTER TAH ABOVEfVeTHREE DOTS ABOVEgBELOWcLOW ALEF
cMARKcMEEMdFINAL FORMdINITIAL FORMdISOLATED FORMdMEDIAL FORMdWITH DOT ABOVEfBELOW
eTHREE DOTS ABOVEcNGdFINAL FORMdINITIAL FORMdISOLATED FORMdMEDIAL FORMcNGOEHdFINAL FORM
dINITIAL FORMdISOLATED FORMdMEDIAL FORMcNOONdFINAL FORMdGHUNNAeFINAL FORMeISOLATED FORM
dINITIAL FORMdISOLATED FORMdMEDIAL FORMdWITH DOT BELOWeINVERTED SMALL VeRINGeSMALL TAHfV
eTHREE DOTS ABOVEeTWO DOTS BELOWcNYEHdFINAL FORMdINITIAL FORMdISOLATED FORMdMEDIAL FORMcOE
dFINAL FORMdISOLATED FORMcPEHdFINAL FORMdINITIAL FORMdISOLATED FORMdMEDIAL FORM
dWITH SMALL MEEM ABOVEfVcPEHEHdFINAL FORMdINITIAL FORMdISOLATED FORMdMEDIAL FORMcQAFdFINAL FORM
dINITIAL FORMdISOLATED FORMdMEDIAL FORMdWITH DOT ABOVEfBELOWgAND NO DOTS ABOVEeTHREE DOTS ABOVE
cREHdFINAL FORMdISOLATED FORMdWITH DOT BELOWgAND DOT ABOVEeFOUR DOTS ABOVEeHAMZA ABOVE
eINVERTED VeLOOPeRINGeSMALL ARABIC LETTER TAH AND TWO DOTSfNOON ABOVEfVgBELOWeSTROKE
eTWO DOTS ABOVEgVERTICALLY ABOVEcRNOONdFINAL FORMdINITIAL FORMdISOLATED FORMdMEDIAL FORM
cROHINGYA YEHcRREHdFINAL FORMdISOLATED FORMcSADdFINAL FORMdINITIAL FORMdISOLATED FORM
dMEDIAL FORMdWITH THREE DOTS ABOVEgBELOWeTWO DOTS BELOWcSEENdFINAL FORMdINITIAL FORM
dISOLATED FORMdMEDIAL FORMdWITH DOT BELOW AND DOT ABOVEeEXTENDED ARABIC-INDIC DIGIT FOUR ABOVE
eFOUR DOTS ABOVEeINVERTED VeSMALL ARABIC LETTER TAH AND TWO DOTSeTHREE DOTS BELOW
hAND THREE DOTS ABOVEeTWO DOTS VERTICALLY ABOVEcSHEENdFINAL FORMdINITIAL FORMdISOLATED FORM
dMEDIAL FORMdWITH DOT BELOWcSTRAIGHT WAWcSUPERSCRIPT ALEFcSWASH KAFcTAHdFINAL FORMdINITIAL FORM
dISOLATED FORMdMEDIAL FORMdWITH DOT BELOWeTHREE DOTS ABOVEgBELOWeTWO DOTS ABOVEcTCHEHdFINAL FORM
dINITIAL FORMdISOLATED FORMdMEDIAL FORMdWITH DOT ABOVEeSMALL VcTCHEHEHdFINAL FORMdINITIAL FORM
dISOLATED FORMdMEDIAL FORMcTEHdFINAL FORMdINITIAL FORMdISOLATED FORMdMARBUTAeFINAL FORMeGOAL
eISOLATED FORMdMEDIAL FORMdWITH RINGeSMALL TEH ABOVEfVeTHREE DOTS ABOVE DOWNWARDScTEHEH
dFINAL FORMdINITIAL FORMdISOLATED FORMdMEDIAL FORMcTHALdFINAL FORMdISOLATED FORMcTHEHdFINAL FORM
dINITIAL FORMdISOLATED FORMdMEDIAL FORMcTHIN YEHcTTEHdFINAL FORMdINITIAL FORMdISOLATED FORM
dMEDIAL FORMdWITH SMALL VcTTEHEHdFINAL FORMdINITIAL FORMdISOLATED FORMdMEDIAL FORMcUdFINAL FORM
dISOLATED FORMdWITH HAMZA ABOVEgISOLATED FORMcUIGHUR KAZAKH KIRGHIZ ALEF MAKSURA INITIAL FORM
hMEDIAL FORMcVEdFINAL FORMdISOLATED FORMcVEHdFINAL FORMdINITIAL FORMdISOLATED FORMdMEDIAL FORM
cWAWdFINAL FORMdISOLATED FORMdWITH DOT ABOVEfWITHINeEXTENDED ARABIC-INDIC DIGIT THREE ABOVE
hTWO ABOVEeHAMZA ABOVEgFINAL FORMgISOLATED FORMeRINGeTWO DOTS ABOVEcYEHdBARREEeFINAL FORM
eISOLATED FORMeWITH EXTENDED ARABIC-INDIC DIGIT THREE ABOVEiTWO ABOVEfHAMZA ABOVEhFINAL FORM
hISOLATED FORMdFINAL FORMdINITIAL FORMdISOLATED FORMdMEDIAL FORMdWITH HAMZA ABOVEgFINAL FORM
gINITIAL FORMgISOLATED FORMgMEDIAL FORMeSMALL VeTAILeTHREE DOTS BELOW
eTWO DOTS BELOW AND DOT ABOVEiHAMZA ABOVEiSMALL NOON ABOVEcYUdFINAL FORMdISOLATED FORMcZAH
dFINAL FORMdINITIAL FORMdISOLATED FORMdMEDIAL FORMcZAINdFINAL FORMdISOLATED FORM
dWITH INVERTED V ABOVEbLIGATURE AIN WITH ALEF MAKSURA FINAL FORMgISOLATED FORMeJEEM INITIAL FORM
fISOLATED FORMfWITH MEEM FINAL FORMhINITIAL FORMeMEEM INITIAL FORMfISOLATED FORM
fWITH ALEF MAKSURA FINAL FORMgMEEM FINAL FORMhINITIAL FORMgYEH FINAL FORMeYEH FINAL FORM
fISOLATED FORMcAKBAR ISOLATED FORMcALAYHAA AS-SALAAMcALAYHE ISOLATED FORMcALAYHI AS-SALAAM
dAS-SALAATU WAS-SALAAMcALAYHIM AS-SALAAMcALAYHIMAA AS-SALAAM
cALEF MAKSURA WITH SUPERSCRIPT ALEF FINAL FORMhISOLATED FORMdWITH FATHATAN FINAL FORM
fISOLATED FORMcALLAH ISOLATED FORMcAZZA WA JALLcBEH WITH ALEF MAKSURA FINAL FORMgISOLATED FORM
eHAH INITIAL FORMfISOLATED FORMfWITH YEH FINAL FORMeHEH INITIAL FORMfMEDIAL FORM
eJEEM INITIAL FORMfISOLATED FORMeKHAH INITIAL FORMfISOLATED FORMfWITH YEH FINAL FORM
eMEEM FINAL FORMfINITIAL FORMfISOLATED FORMfMEDIAL FORMeNOON FINAL FORMeREH FINAL FORM
eYEH FINAL FORMfISOLATED FORMeZAIN FINAL FORMcBISMILLAH AR-RAHMAN AR-RAHEEM
cDAD WITH ALEF MAKSURA FINAL FORMgISOLATED FORMeHAH INITIAL FORMfISOLATED FORM
fWITH ALEF MAKSURA FINAL FORMgYEH FINAL FORMeJEEM INITIAL FORMfISOLATED FORMeKHAH INITIAL FORM
fISOLATED FORMfWITH MEEM FINAL FORMhINITIAL FORMeMEEM INITIAL FORMfISOLATED FORMeREH FINAL FORM
fISOLATED FORMeYEH FINAL FORMfISOLATED FORMcFEH WITH ALEF MAKSURA FINAL FORMgISOLATED FORM
eHAH INITIAL FORMfISOLATED FORMeJEEM INITIAL FORMfISOLATED FORMeKHAH INITIAL FORMfISOLATED FORM
fWITH MEEM FINAL FORMhINITIAL FORMeMEEM INITIAL FORMfISOLATED FORMfWITH YEH FINAL FORM
eYEH FINAL FORMfISOLATED FORMcGHAIN WITH ALEF MAKSURA FINAL FORMgISOLATED FORMeJEEM INITIAL FORM
fISOLATED FORMeMEEM INITIAL FORMfISOLATED FORMfWITH ALEF MAKSURA FINAL FORMgMEEM FINAL FORM
gYEH FINAL FORMeYEH FINAL FORMfISOLATED FORMcHAH WITH ALEF MAKSURA FINAL FORMgISOLATED FORM
eJEEM INITIAL FORMfISOLATED FORMfWITH YEH FINAL FORMeMEEM INITIAL FORMfISOLATED FORM
fWITH ALEF MAKSURA FINAL FORMgYEH FINAL FORMeYEH FINAL FORMfISOLATED FORM
cHEH WITH ALEF MAKSURA ISOLATED FORMeJEEM INITIAL FORMfISOLATED FORMeMEEM INITIAL FORM
fISOLATED FORMfWITH JEEM INITIAL FORMgMEEM INITIAL FORMeSUPERSCRIPT ALEF INITIAL FORM
eYEH ISOLATED FORMcJALLAJALALOUHOUcJEEM WITH ALEF MAKSURA FINAL FORMgISOLATED FORM
eHAH INITIAL FORMfISOLATED FORMfWITH ALEF MAKSURA FINAL FORMgYEH FINAL FORMeMEEM INITIAL FORM
fISOLATED FORMfWITH ALEF MAKSURA FINAL FORMgHAH FINAL FORMhINITIAL FORMgYEH FINAL FORM
eYEH FINAL FORMfISOLATED FORMcKAF WITH ALEF FINAL FORMfISOLATED FORMfMAKSURA FINAL FORM
gISOLATED FORMeHAH INITIAL FORMfISOLATED FORMeJEEM INITIAL FORMfISOLATED FORMeKHAH INITIAL FORM
fISOLATED FORMeLAM FINAL FORMfINITIAL FORMfISOLATED FORMfMEDIAL FORMeMEEM FINAL FORM
fINITIAL FORMfISOLATED FORMfMEDIAL FORMfWITH MEEM FINAL FORMhINITIAL FORMgYEH FINAL FORM
eYEH FINAL FORMfISOLATED FORMcKHAH WITH ALEF MAKSURA FINAL FORMgISOLATED FORMeHAH ISOLATED FORM
eJEEM INITIAL FORMfISOLATED FORMeMEEM INITIAL FORMfISOLATED FORMeYEH FINAL FORMfISOLATED FORM
cLAM WITH ALEF FINAL FORMfISOLATED FORMfMAKSURA FINAL FORMgISOLATED FORM
fWITH HAMZA ABOVE FINAL FORMiISOLATED FORMhBELOW FINAL FORMiISOLATED FORMgMADDA ABOVE FINAL FORM
iISOLATED FORMeHAH INITIAL FORMfISOLATED FORMfWITH ALEF MAKSURA FINAL FORMgMEEM FINAL FORM
hINITIAL FORMgYEH FINAL FORMeHEH INITIAL FORMeJEEM INITIAL FORMfISOLATED FORM
fWITH JEEM FINAL FORMhINITIAL FORMgMEEM FINAL FORMhINITIAL FORMgYEH FINAL FORMeKHAH INITIAL FORM
fISOLATED FORMfWITH MEEM FINAL FORMhINITIAL FORMeMEEM FINAL FORMfINITIAL FORMfISOLATED FORM
fMEDIAL FORMfWITH HAH FINAL FORMhINITIAL FORMgYEH FINAL FORMeYEH FINAL FORMfISOLATED FORM
cMEEM WITH ALEF FINAL FORMfMAKSURA ISOLATED FORMeHAH INITIAL FORMfISOLATED FORM
fWITH JEEM INITIAL FORMgMEEM INITIAL FORMgYEH FINAL FORMeJEEM INITIAL FORMfISOLATED FORM
fWITH HAH INITIAL FORMgKHAH INITIAL FORMgMEEM INITIAL FORMgYEH FINAL FORMeKHAH INITIAL FORM
fISOLATED FORMfWITH JEEM INITIAL FORMgMEEM INITIAL FORMgYEH FINAL FORMeMEEM FINAL FORM
fINITIAL FORMfISOLATED FORMfWITH YEH FINAL FORMeYEH ISOLATED FORMcMOHAMMAD ISOLATED FORM
cNOON WITH ALEF MAKSURA FINAL FORMgISOLATED FORMeHAH INITIAL FORMfISOLATED FORM
fWITH ALEF MAKSURA FINAL FORMgMEEM INITIAL FORMgYEH FINAL FORMeHEH INITIAL FORMfMEDIAL FORM
eJEEM INITIAL FORMfISOLATED FORMfWITH ALEF MAKSURA FINAL FORMgHAH FINAL FORMhINITIAL FORM
gMEEM FINAL FORMhINITIAL FORMgYEH FINAL FORMeKHAH INITIAL FORMfISOLATED FORMeMEEM FINAL FORM
fINITIAL FORMfISOLATED FORMfMEDIAL FORMfWITH ALEF MAKSURA FINAL FORMgYEH FINAL FORM
eNOON FINAL FORMeREH FINAL FORMeYEH FINAL FORMfISOLATED FORMeZAIN FINAL FORM
cQAF WITH ALEF MAKSURA FINAL FORMgISOLATED FORMeHAH INITIAL FORMfISOLATED FORMeMEEM INITIAL FORM
fISOLATED FORMfWITH HAH FINAL FORMhINITIAL FORMgMEEM FINAL FORMgYEH FINAL FORMeYEH FINAL FORM
fISOLATED FORMcQALA USED AS KORANIC STOP SIGN ISOLATED FORMcQUDDISA SIRRAHcRADI ALLAAHU ANH
eANHAAeANHUMeANHUMAAeANHUNNAcRAHIMAHU ALLAAHcRAHIMAHUM ALLAAHcRASOUL ISOLATED FORM
cREH WITH SUPERSCRIPT ALEF ISOLATED FORMcSAD WITH ALEF MAKSURA FINAL FORMgISOLATED FORM
eHAH INITIAL FORMfISOLATED FORMfWITH HAH FINAL FORMhINITIAL FORMgYEH FINAL FORM
eKHAH INITIAL FORMeMEEM INITIAL FORMfISOLATED FORMfWITH MEEM FINAL FORMhINITIAL FORM
eREH FINAL FORMfISOLATED FORMeYEH FINAL FORMfISOLATED FORMcSALAAMUHU ALAYNAAcSALAM ISOLATED FORM
cSALLA ISOLATED FORMdUSED AS KORANIC STOP SIGN ISOLATED FORMcSALLALLAAHU ALAYHI WA-AALIH
cSALLALLAHOU ALAYHE WASALLAMcSALLALLAHU ALAYHI WAAALIHEE WA-SALLAM
cSEEN WITH ALEF MAKSURA FINAL FORMgISOLATED FORMeHAH INITIAL FORMfISOLATED FORMfMEDIAL FORM
fWITH JEEM INITIAL FORMeHEH INITIAL FORMfMEDIAL FORMeJEEM INITIAL FORMfISOLATED FORMfMEDIAL FORM
fWITH ALEF MAKSURA FINAL FORMgHAH INITIAL FORMeKHAH INITIAL FORMfISOLATED FORMfMEDIAL FORM
fWITH ALEF MAKSURA FINAL FORMgYEH FINAL FORMeMEEM INITIAL FORMfISOLATED FORMfMEDIAL FORM
fWITH HAH FINAL FORMhINITIAL FORMgJEEM INITIAL FORMgMEEM FINAL FORMhINITIAL FORMeREH FINAL FORM
fISOLATED FORMeYEH FINAL FORMfISOLATED FORMcSHADDA WITH DAMMA ISOLATED FORMfMEDIAL FORM
eDAMMATAN ISOLATED FORMeFATHA ISOLATED FORMfMEDIAL FORMeKASRA ISOLATED FORMfMEDIAL FORM
eKASRATAN ISOLATED FORMeSUPERSCRIPT ALEF ISOLATED FORMcSHEEN WITH ALEF MAKSURA FINAL FORM
gISOLATED FORMeHAH FINAL FORMfINITIAL FORMfISOLATED FORMfMEDIAL FORMfWITH MEEM FINAL FORM
hINITIAL FORMgYEH FINAL FORMeHEH INITIAL FORMfMEDIAL FORMeJEEM FINAL FORMfINITIAL FORM
fISOLATED FORMfMEDIAL FORMfWITH YEH FINAL FORMeKHAH FINAL FORMfINITIAL FORMfISOLATED FORM
fMEDIAL FORMeMEEM FINAL FORMfINITIAL FORMfISOLATED FORMfMEDIAL FORMfWITH KHAH FINAL FORM
hINITIAL FORMgMEEM FINAL FORMhINITIAL FORMeREH FINAL FORMfISOLATED FORMeYEH FINAL FORM
fISOLATED FORMcSUBHAANAHU WA TAAALAAcTABAARAKA WA-TAAALAAcTAH WITH ALEF MAKSURA FINAL FORM
gISOLATED FORMeHAH INITIAL FORMfISOLATED FORMeMEEM INITIAL FORMfISOLATED FORMfMEDIAL FORM
fWITH HAH FINAL FORMhINITIAL FORMgMEEM INITIAL FORMgYEH FINAL FORMeYEH FINAL FORMfISOLATED FORM
cTEH WITH ALEF MAKSURA FINAL FORMgISOLATED FORMeHAH INITIAL FORMfISOLATED FORM
fWITH JEEM FINAL FORMhINITIAL FORMgMEEM INITIAL FORMeHEH INITIAL FORMfMEDIAL FORM
eJEEM INITIAL FORMfISOLATED FORMfWITH ALEF MAKSURA FINAL FORMgMEEM INITIAL FORMgYEH FINAL FORM
eKHAH INITIAL FORMfISOLATED FORMfWITH ALEF MAKSURA FINAL FORMgMEEM INITIAL FORMgYEH FINAL FORM
eMEEM FINAL FORMfINITIAL FORMfISOLATED FORMfMEDIAL FORMfWITH ALEF MAKSURA FINAL FORM
gHAH INITIAL FORMgJEEM INITIAL FORMgKHAH INITIAL FORMgYEH FINAL FORMeNOON FINAL FORM
eREH FINAL FORMeYEH FINAL FORMfISOLATED FORMeZAIN FINAL FORM
cTHAL WITH SUPERSCRIPT ALEF ISOLATED FORMcTHEH WITH ALEF MAKSURA FINAL FORMgISOLATED FORM
eHEH MEDIAL FORMeJEEM ISOLATED FORMeMEEM FINAL FORMfINITIAL FORMfISOLATED FORMfMEDIAL FORM
eNOON FINAL FORMeREH FINAL FORMeYEH FINAL FORMfISOLATED FORMeZAIN FINAL FORM
cUIGHUR KIRGHIZ YEH WITH HAMZA ABOVE WITH ALEF MAKSURA FINAL FORMlINITIAL FORMlISOLATED FORM
cWASALLAM ISOLATED FORMcYEH WITH ALEF MAKSURA FINAL FORMgISOLATED FORMeHAH INITIAL FORM
fISOLATED FORMfWITH YEH FINAL FORMeHAMZA ABOVE WITH AE FINAL FORMiISOLATED FORMhALEF FINAL FORM
iISOLATED FORMiMAKSURA FINAL FORMjISOLATED FORMhE FINAL FORMiINITIAL FORMiISOLATED FORM
hHAH INITIAL FORMiISOLATED FORMhHEH INITIAL FORMiMEDIAL FORMhJEEM INITIAL FORMiISOLATED FORM
hKHAH INITIAL FORMhMEEM FINAL FORMiINITIAL FORMiISOLATED FORMiMEDIAL FORMhNOON FINAL FORM
hOE FINAL FORMiISOLATED FORMhREH FINAL FORMhU FINAL FORMiISOLATED FORMhWAW FINAL FORM
iISOLATED FORMhYEH FINAL FORMiISOLATED FORMhYU FINAL FORMiISOLATED FORMhZAIN FINAL FORM
eHEH INITIAL FORMfMEDIAL FORMeJEEM INITIAL FORMfISOLATED FORMfWITH YEH FINAL FORM
eKHAH INITIAL FORMfISOLATED FORMeMEEM FINAL FORMfINITIAL FORMfISOLATED FORMfMEDIAL FORM
fWITH MEEM FINAL FORMhINITIAL FORMgYEH FINAL FORMeNOON FINAL FORMeREH FINAL FORMeYEH FINAL FORM
fISOLATED FORMeZAIN FINAL FORMcZAH WITH MEEM INITIAL FORMfISOLATED FORMfMEDIAL FORMbMADDA WAAJIB
bMADDAH ABOVEbMARK NOON GHUNNAcSIDEWAYS NOON GHUNNAbMATHEMATICAL AINcALEFcBEHcDADcDAL
cDOTLESS BEHdFEHdNOONdQAFcDOUBLE-STRUCK AINdBEHdDADdDALdFEHdGHAINdHAHdJEEMdKHAHdLAMdMEEMdNOON
dQAFdREHdSADdSEENdSHEENdTAHdTEHdTHALdTHEHdWAWdYEHdZAHdZAINcFEHcGHAINcHAHcINITIAL AINdBEHdDADdFEH
dGHAINdHAHdHEHdJEEMdKAFdKHAHdLAMdMEEMdNOONdQAFdSADdSEENdSHEENdTEHdTHEHdYEHcJEEMcKAFcKHAHcLAM
cLOOPED AINdALEFdBEHdDADdDALdFEHdGHAINdHAHdHEHdJEEMdKHAHdLAMdMEEMdNOONdQAFdREHdSADdSEENdSHEEN
dTAHdTEHdTHALdTHEHdWAWdYEHdZAHdZAINcMEEMcNOONcOPERATOR HAH WITH DALdMEEM WITH HAH WITH TATWEEL
cQAFcREHcSADcSEENcSHEENcSTRETCHED AINdBEHdDADdDOTLESS BEHeFEHdFEHdGHAINdHAHdHEHdJEEMdKAFdKHAH
dMEEMdNOONdQAFdSADdSEENdSHEENdTAHdTEHdTHEHdYEHdZAHcTAHcTAILED AINdDADdDOTLESS NOONeQAFdGHAINdHAH
dJEEMdKHAHdLAMdNOONdQAFdSADdSEENdSHEENdYEHcTEHcTHALcTHEHcWAWcYEHcZAHcZAINbNUMBER MARK ABOVEcSIGN
bOPEN DAMMATANcFATHATANcKASRATANbPERCENT SIGNbPIASTRE MARK ABOVEbPLACE OF SAJDAH
bPOETIC VERSE SIGNbPOUND MARK ABOVEbQUESTION MARKbRAISED ROUND DOTbRAYbREVERSED DAMMA
bRIGHT ARROWHEAD ABOVEeWITH DOTdBELOWbROUNDED HIGH STOP WITH FILLED CENTREbSEMICOLONbSHADDA
cISOLATED FORMcMEDIAL FORMbSIGN ALAYHE ASSALLAMcMISRAcRADI ALLAHOU ANHUcRAHMATULLAH ALAYHEcSAFHA
cSALLALLAHOU ALAYHE WASSALLAMcSAMVATcSANAHcSINDHI AMPERSANDdPOSTPOSITION MENcTAKHALLUS
bSMALL DAMMAcFARSI YEHcFATHAcHIGH AINdDOTLESS HEAD OF KHAHdFARSI YEHdFOOTNOTE MARKERdJEEM
dLAM ALEFdLIGATURE ALEF WITH LAM WITH YEHeQAF WITH LAM WITH ALEF MAKSURA
eSAD WITH LAM WITH ALEF MAKSURAdMADDAdMEEM INITIAL FORMeISOLATED FORMdNOONeWITH KASRAdQAF
dROUNDED ZEROdSADdSEENdSIGN SAFHAdTAHdTHREE DOTSdUPRIGHT RECTANGULAR ZEROdWAWdWORD AL-JUZ
eAN-NISFeAR-RUBeAS-SAJDAeATH-THALATHAeQIFeSAHeSAKTAeWAQFAdYEHeBARREE WITH TWO DOTS BELOWdZAH
dZAINcKASRAcLOW MEEMdNOON WITH KASRAdSEENdWAWdWORD IMAALAeISHMAAMeTASHEELcWAWcYEH
bSTART OF RUB EL HIZBbSUBSCRIPT ALEFbSUKUNcBELOWcISOLATED FORMcMEDIAL FORM
bSUPERSCRIPT ALEF MOKHASSASbSYMBOL DOT ABOVEdBELOWcDOUBLE VERTICAL BAR BELOWcFOUR DOTS ABOVE
eBELOWcRINGcSMALL TAH ABOVEeBELOWcTHREE DOTS ABOVEeBELOWePOINTING DOWNWARDS ABOVEgBELOW
cTWO DOTS ABOVEeBELOWeVERTICALLY ABOVEfBELOWcWASLA ABOVEbTAIL FRAGMENTbTATWEEL
cWITH FATHATAN ABOVEdOVERSTRUCK HAMZAeWAWdTWO DOTS BELOWbTHOUSANDS SEPARATORbTONE LOOP ABOVE
dBELOWcONE DOT ABOVEeBELOWcTWO DOTS ABOVEeBELOWbTRIPLE DOT PUNCTUATION MARKbTURNED DAMMA BELOW
bVERTICAL TAILbVOWEL SIGN DOT BELOWdINVERTED SMALL V ABOVEdSMALL V ABOVEbWAVY HAMZA BELOW
bZWARAKAYaARABIC-INDIC CUBE ROOTbDIGIT EIGHTcFIVEcFOURcNINEcONEcSEVENcSIXcTHREEcTWOcZERO
bFOURTH ROOTbPER MILLE SIGNcTEN THOUSAND SIGNaARCaARIESaARMENIAN ABBREVIATION MARKbAPOSTROPHE
bCAPITAL LETTER AYBdBENdCAdCHAdCHEHdCOdDAdECHdEHdETdFEHdGHADdGIMdHOdINIdJAdJHEHdKEHdKENdLIWNdMEN
dNOWdOHdPEHdPIWRdRAdREHdSEHdSHAdTIWNdTOdVEWdVOdXEHdYIdYIWNdZAdZHEbCOMMAbDRAM SIGNbEMPHASIS MARK
bEXCLAMATION MARKbFULL STOPbHYPHENbMODIFIER LETTER LEFT HALF RINGbQUESTION MARKbSMALL LETTER AYB
dBENdCAdCHAdCHEHdCOdDAdECHdEHdETdFEHdGHADdGIMdHOdINIdJAdJHEHdKEHdKENdLIWNdMENdNOWdOHdPEHdPIWRdRA
dREHdSEHdSHAdTIWNdTOdTURNED AYBdVEWdVOdXEHdYIeWITH STROKEdYIWNdZAdZHEcLIGATURE ECH YIWNdMEN ECH
eINIeNOWeXEHdVEW NOWaARROW POINTING DOWNWARDS THEN CURVING LEFTWARDSfRIGHTWARDS
cRIGHTWARDS THEN CURVING DOWNWARDSfSOUTH WESTfUPWARDScUPWARDS THEN NORTH WEST
aARROWHEAD-SHAPED POINTERaARTICULATED LORRYaARTIST PALETTEaASCENDING NODEaASCIA SYMBOLaASSERTION
aASTERISKbOPERATORaASTERISMaASTONISHED FACEaASTRAEAaASTRONOMICAL SYMBOL FOR URANUS
aASYMPTOTICALLY EQUAL TOaATHLETIC SHOEaATOM SYMBOLaAUBERGINEaAUSTRAL SIGNaAUTO RICKSHAW
aAUTOMATED TELLER MACHINEaAUTOMOBILEaAVESTAN ABBREVIATION MARKbLETTER AcAAcAANcAAOcAEcAEEcANcAO
cBEcBHEcCEcDEcDHEcEcEEcFEcGEcGGEcGHEcHEcHMEcIcIIcJEcKEcLEcMEcNEcNGEcNGVEcNGYEcNNEcNYEcOcOOcPEcRE
cSEcSHEcSHYEcSSHEcTEcTHEcTTEcUcUUcVEcXEcXVEcXYEcYEcYYEcZEcZHEaAVOCADOaAXE"

def namesWithB : String :=
  "aBABYbANGELbBOTTLEbCHICKbSYMBOLaBACK OF ENVELOPEbWITH LEFTWARDS ARROW ABOVE
aBACK-TILTED SHADOWED WHITE RIGHTWARDS ARROWaBACKSLANTED SOUTH ARROW WITH HOOKED TAIL
eHORIZONTAL TAILaBACKSPACEaBACONaBACTRIAN CAMELaBADGERaBADMINTON RACQUET AND SHUTTLECOCKaBAGEL
aBAGGAGE CLAIMaBAGUETTE BREADaBALINESE ADEG ADEGbCARIK PAMUNGKAHcPARERENcSIKIbDIGIT EIGHTcFIVE
cFOURcNINEcONEcSEVENcSIXcTHREEcTWOcZERObLETTER AIKARAcAKARAdTEDUNGcARCHAIC JNYAcASYURA SASAKcBA
dKEMBANGcCAdLACAcDAdMADUdMURDA ALPAPRANAeMAHAPRANAcEF SASAKcEKARAcGAdGORAcHAcIKARAdTEDUNGcJA
dJERAcKAdMAHAPRANAcKAF SASAKcKHOT SASAKcLAdLENGAeTEDUNGcMAcNAdRAMBATcNGAcNYAcOKARAdTEDUNGcPA
dKAPALcRAdREPAeTEDUNGcSAdSAGAdSAPAcTAdLATIKdMURDA MAHAPRANAdTAWAcTZIR SASAKcUKARAdTEDUNG
cVE SASAKcWAcYAcZAL SASAKbMUSICAL SYMBOL COMBINING BENDEeENDEPeGONGeJEGOGANeKEMPLIfWITH JEGOGAN
eKEMPULfWITH JEGOGANeTEGEHdDAENGdDAINGdDANGeGEDEeSURANGdDENGdDEUNGdDINGdDONGdDUNG
dLEFT-HAND CLOSED PLAKfPLUKeOPEN PANGfPINGfPUNGdRIGHT-HAND CLOSED TAKfTUKeOPEN DAGfDUGbPAMADA
cLANTANGbPAMENENGbPANTIcLANTANGbSIGN BISAHcCECEKcREREKANcSURANGcULU CANDRAdRICEM
bVOWEL SIGN LA LENGAfTEDUNGdPEPETeTEDUNGdRA REPAfTEDUNGdSUKUeILUTdTALINGeREPAfTEDUNGeTEDUNG
dTEDUNGdULUeSARIbWINDUaBALL OF YARNaBALLET SHOESaBALLOONaBALLOON-SPOKED ASTERISK
aBALLOT BOLD SCRIPT XbBOXcWITH BALLOTdBOLD CHECKeSCRIPT XdCHECKdLIGHT XdSCRIPT XdXbSCRIPT XbX
aBAMUM COLONbCOMBINING MARK KOQNDONdTUKWENTISbCOMMAbFULL STOPbLETTER AcEEcFAAMAEcFEEcFOMcFUcIcKA
cKENcKETcKEUXcKIcKOcKOGHOMcKOVUUcKPAcKUcKYEEcLAcLEEEEcLIcLOQcLUcMcMAcMBAAcMBENcMEEEEcMENcMIcMO
cMUcNAcNDAAcNGAcNGGAcNGKWAENcNIcNJAEMcNJEEcNJUAEcNSHAcNTEEcNTUUcNUcNUAEcNYIcOcPAcPEEcPEUX
cPHASE-A FIRIdGBIEE FONdGHEUAEGHEUAEdGHEUAERAEdKAFAdKAQdKETdKEUKEUTNDAdKPOQdKUOQdLAPAQdLET KUT
dLOMMAEdLUdLUAEPdMAEKEUPdMAEMdMAEMBGBIEEdMAEMKPENdMAEMVEUXdMAENYIdMAESIdMANSUAEdMAP PIEETdMBANYI
dMBAQdMEUNJOMNDEUQdMGBASAdMON NGGEUAETdMOOMEUTdMOOMPUQdMVEUAENGAMdNAA MFONdNAQdNDA LEERAEWA
dNDAANGGEUAETdNENdNGANGUdNGGENdNGKUE MFONdNGKUENZEUMdNIKAdNJAMdNKAARAEdNKINDIdNSHAdNSHIEEdNTAP
eMFAAeNTAAdNTOQPENdNYETdNYIdNYIT MONGKEUAEQdNZA MFONdNZUN MEUTdPA LEERAEWAdPAAMdPAARAEdPAMSHAE
dPASHAEdPETdPON MFON PIPAEMBAfPIPAEMGBIEEePA NJI PIPAEMBAgPIPAEMGBIEEdPUPdROMdSEUNYAM
dSHINDA PA NJIdSHIRAEdSHOQ NSHUT YUMdSHUENSHUETdSHUMdSISAdSONJAMdSOQdSOTdSUUdTEUAENdTEUTEUWEN
dTITA MFONdTU MAEMBAdTUAEPdU YUQ NAEdUNKNOWNdVEEcPHASE-B FEEdFEUXdGHEUGHENdGHEUGHEUAEMdKAM
dKEUAEMdKEUPUQdKEUYEUXdKIEEMdKIQdLAANAEdLAM NSHUT NYAMdLETdLOM NTEUMdMAeNJEUAENAeNJUQA
dMBA MAELEEdMBAARAEdMBEURIdMBIT MBAAKETdMBUOQdMEUQdMEUT NGGEETdMFIYAQdMFON TEUAEQdMONTIEEN
dNDU NJAAdNGGAAMdNGGEU MBUdNGGUOQeLARGEdNGKINDI MVOPdNGOMdNSENdNSHUETdNTIEE SHEUOQdNYAEMAE
dNYI NTEUMdPARUMdPEESHIdPITdPUNGAAMdSAKEUAEdSET TUdSHET NJAQdSHEUAEQTUdSIEEdSUEdTAAM
dTU MAEMGBIEEeNSIEEdVEUMdWUAETdYAFU LEERAEWAdYEURAEcPHASE-C BUNGdFUEdGBAYIdGHAPdGHARAEdKAA
dKEN FATIGUEeLAWdKETdKEUKAQdKEUMdKEUSEUXdKEUSHEUAEPdKPARAQdKUOP NKAARAEdKUTdLAMdLAPdLIQdLU
dMA KEUAERIeNSIEEdMAEMBAdMAESIdMBAA CABBAGE-TREEePICKETdMBANYIdMBEEKEETdMBERAEdMBEUMdMBEUXdMBI
dMBIRIEENdMBITdMBUAEMdMBUEdMGBASAQdMIEEdMUAEdNANSANAQdNAQdNDAMdNDAPdNDEUAEREEdNDEUTdNDIDAdNDOMBU
dNGAQdNGGENdNGGUdNGGUAEN NYAMdNGGUEETdNGGUMdNGGUONdNGKAQdNGKUE MAEMBAdNGOMdNJAEMdNJAMdNJEEEE
dNJEUXdNJUEQdNSAdNSEUAENdNSHAQdNSOMdNSUNdNSUOT NGOMdNTAAdNTENdNTEUNGBAdNTU MBIT
dNYIR MKPARAQ MEUNdNZAdNZEUMdPENdPINdPIRIEENdRUdSETFONdSEUXdSHIQdSHUEQdSUAETdTAASHAEdTETdTEUTEUX
dTITA YUEdTITUAEPdVEUAEPENdVEUXdWANGKUOQdWUPdYAAdYEUQdYU MUOMAEdYUMdYUWOQcPHASE-D FAAdFEUFEUAET
dGHAAdGHEUAEdKETdKEUAETMEUNdKEUMdKEUOT MBUAEdKEUPdKUdKUNdKUOMdKUQdKWAETdKYEEdLEEEEdLETdLEUAEP
dLEUMdLIEEdLOQdLUMdMdMAENJETdMALEERIdMBAAeSEVENdMBUOdMEEEEdMEUNdMEUTdMFEUAEdMFEUTdMFIEEdMFOdMFON
dMGBEUNdMGBIEEdMGBOFUMdMONIdMUdMVOPdNDAMdNDEEdNDEUXdNDONdNGGAAMdNGGAAMAEdNGGAPdNGGEUXdNGGUOM
dNGGWAENdNGKAPdNGKEUAEQdNGKEURIdNGKIEEdNGKUNdNGKYEEdNIdNJAPdNJEUAEMdNJEUTdNJIdNJIEEdNJUEQdNSHEE
dNSHUTdNSIEEPdNSIEETdNSUMdNTEEdNTEUMdNTUUdNUdNYAMdNYETdNYIdNYUEdPAPdPEEdPEUTAEdPIPdPUQdPUUTdRAEM
dREN MUCHeOLDdRIIdSAPdSAQdSEUAEQdSHEEdSHEUAEdSHEUXdSHIIdSHOQdSHUdSOTdSUAEdSUEdSUUdTAEdTEEEE
dTEUAENdTEUNdTEUTdTIdTOQdTUdTUOTdWAPdWUAENdYAEMMAEdYENdYUOMdYUOPdYUWOQcPHASE-E AdFAdFAQdFEEdFOM
dFU CALLeIeREMEDYdFUEdFUETdGBETdGBEUXdGHAAMAEdGHETdGHEUAEdGHEUNdGHEUXdGHOMdIdKETdKEUAEdKEUXdKI
dKOdKPEUXdKUETdKUOPdKUTdLAAMdLAPdLAQdLEUAEMdLOMdLOONdLOOTdLOQdLUdMAdMAEdMAEMdMAPdMAQdMBEEdMBEUM
dMENdMFEUQdMGBAdMGBENdMIdMIEEdMONdMUAEdMVIdNAdNAEdNDAA MY HOUSEeSOFTNESSdNDAPdNDIAQdNDIQdNDUN
dNGAdNGEUREUTdNGGEEEEdNGGEUAEdNGGEUAETdNGGUAESHAE NYAMdNGGUPdNGGURAEdNGKAdNGKAAMIdNGKEUAEM
dNGKEUXdNGKUMdNGKUPdNGOPdNGOQdNGUAEdNGUAETdNJAEMLIdNJEEeEPOCHdNJEUXdNKOMdNSHIEEdNSHUEdNSHUOP
dNTAPdNTUMdNYI BETWEENeCLEAVERdNZAQdNZUQdOdPA PEOPLEePLURALdPAAdPAAMdPEEMdPEUTdPEUXdPIdPIEEQ
dPIETdPOdPOONdPUdPUAEdPUAQdPUEdPUMdRAEdRAQdREUXdRIMGBAdSAAdSEEdSETdSHEUAEQdSHIQdSHOdSHOQdSOM
dSUAENdTAAdTAAQdTAEN NTEUMdTAMdTAQdTENdTEUdTEUAEQdTOOdTOONdTOQdTUAEdTUMdTUMAEdVEEdVEUAEdVOMdWEUX
dWUEdWUOdYAPdYEUAEdYEUAETdYEUMdYEUXdYIEEdYITdYOQ COVEReSWIMMINGdYUAENdYUEQdYUNdYUQcPHASE-F EE
dFOMdKAdKENdKETdKOdKPAdKUdKYEEdLAdLIdLOQdMdMAdMBAAdMBENdMEEEEdMOdNDAAdNGGAdNGKWAENdNIdNJAEM
dNJUAEdNSHAdNTEEdNUdNUAEdNYIdPEEdPEUXdPUAEdREEdRENdREUXdRIEEdRIIdRUdSAMBAdSEUXdSHIIdSHOdSHUdSI
dSUUdTAAdTAEdTETdUdVUEQdWAdWUEdYAdYOQcPIcPUAEcPUEcRAEcREEcRENcREUXcRIEEcRIIcRUcSAMBAcSEUXcSHEUX
cSHIIcSHOcSHUcSIcSUUcTAAcTAEcTENcTETcTIcUcWAcWUEcYAcYOQcYUQbNJAEMLIbQUESTION MARKbSEMICOLON
aBANANAaBANJOaBANKaBANKNOTE WITH DOLLAR SIGNcEURO SIGNcPOUND SIGNcYEN SIGNaBAR CHARTbOF SOAP
aBARBER POLEaBASEBALLaBASKETaBASKETBALL AND HOOPaBASSA VAH COMBINING HIGH TONEdHIGH-LOW TONE
dLOW TONEdLOW-MID TONEdMID TONEcFULL STOPcLETTER AdBAdCEdDHIIdDOdEdEEdENNIdFAdGAHdGBUdHWAHdIdJO
dKAdKPAHdMBEdOdOOdPAdSEdTOdUdUWUdVUdWAdWADDAdYEINdYIEdZOaBATaBATAK CONSONANT SIGN HdNGbLETTER A
cBAcCAcDAcGAcHAcIcJAcKARO BAcLAcMAcMANDAILING HAdNAdSAcMBAcNAcNDAcNGAcNORTHERN TAcNYAcPA
cPAKPAK WAcRAcSAcSIMALUNGUN AdGAdHAdLAdMAdPAdRAdSAdWAdYAcSOUTHERN TAcUcWAcYAbPANGOLATbPANONGONAN
bSIGN TOMPIbSYMBOL BINDU JUDULdNA METEKdPANGOLATdPINARBORASbVOWEL SIGN EdEEdIdKARO IeOdO
dPAKPAK EdUeFOR SIMALUNGUN SAaBATHaBATHTUBaBATTERYaBEACH WITH UMBRELLA
aBEAMED ASCENDING MUSICAL NOTESbDESCENDING MUSICAL NOTESbEIGHTH NOTESbSIXTEENTH NOTESaBEANS
aBEAR FACEaBEARDED PERSONaBEATING HEARTaBEAVERaBECAUSEaBEDaBEER MUGaBEETLEaBELaBELLbPEPPER
bSYMBOLbWITH CANCELLATION STROKEaBELLHOP BELLaBENGALI ABBREVIATION SIGNbANJIbAU LENGTH MARK
bCURRENCY DENOMINATOR SIXTEENcNUMERATOR FOURdONEeLESS THAN THE DENOMINATORdTHREEdTWObDIGIT EIGHT
cFIVEcFOURcNINEcONEcSEVENcSIXcTHREEcTWOcZERObGANDA MARKbISSHARbLETTER AcAAcAIcAUcBAcBHAcCAcCHA
cDAcDDAcDDHAcDHAcEcGAcGHAcHAcIcIIcJAcJHAcKAcKHAcKHANDA TAcLAcMAcNAcNGAcNNAcNYAcOcPAcPHAcRA
dWITH LOWER DIAGONALeMIDDLE DIAGONALcRHAcRRAcSAcSHAcSSAcTAcTHAcTTAcTTHAcUcUUcVEDIC ANUSVARA
cVOCALIC LdLLdRdRRcYAcYYAbRUPEE MARKcSIGNbSANDHI MARKbSIGN ANUSVARAcAVAGRAHAcCANDRABINDUcNUKTA
cVIRAMAcVISARGAbVOWEL SIGN AAdAIdAUdEdIdIIdOdUdUUdVOCALIC LeLLeReRR
aBENT ARROW POINTING DOWNWARDS THEN NORTH EASTaBENTO BOXaBENZENE RINGcWITH CIRCLEaBET SYMBOL
aBETWEENaBEVERAGE BOXaBHAIKSUKI DANDAbDIGIT EIGHTcFIVEcFOURcNINEcONEcSEVENcSIXcTHREEcTWOcZERO
bDOUBLE DANDAbGAP FILLER-1cFILLER-2bHUNDREDS UNIT MARKbLETTER AcAAcAIcAUcBAcBHAcCAcCHAcDAcDDA
cDDHAcDHAcEcGAcGHAcHAcIcIIcJAcJHAcKAcKHAcLAcMAcNAcNGAcNNAcNYAcOcPAcPHAcRAcSAcSHAcSSAcTAcTHAcTTA
cTTHAcUcUUcVAcVOCALIC LdRdRRcYAbNUMBER EIGHTcEIGHTYcFIFTYcFIVEcFORTYcFOURcNINEcNINETYcONEcSEVEN
cSEVENTYcSIXcSIXTYcTENcTHIRTYcTHREEcTWENTYcTWObSIGN ANUSVARAcAVAGRAHAcCANDRABINDUcVIRAMAcVISARGA
bVOWEL SIGN AAdAIdAUdEdIdIIdOdUdUUdVOCALIC LeReRRbWORD SEPARATORaBICYCLEaBICYCLIST
aBIG REVERSE SOLIDUSbSOLIDUSaBIKINIaBILLED CAPaBILLIARDSaBIOHAZARD SIGNaBIRDaBIRTHDAY CAKEaBISON
aBITCOIN SIGNaBITING LIPaBLACK BOWTIEbCENTRE WHITE STARbCHESS BISHOPdROTATED NINETY DEGREES
eTWO HUNDRED SEVENTY DEGREEScEQUIHOPPERdROTATED NINETY DEGREEScKINGdROTATED NINETY DEGREES
eTWO HUNDRED SEVENTY DEGREEScKNIGHTdROTATED FORTY-FIVE DEGREESeNINETY DEGREES
eONE HUNDRED THIRTY-FIVE DEGREESeTHREE HUNDRED FIFTEEN DEGREESeTWO HUNDRED SEVENTY DEGREES
gTWENTY-FIVE DEGREEScKNIGHT-BISHOPcKNIGHT-QUEENcKNIGHT-ROOKcPAWNdROTATED NINETY DEGREES
eTWO HUNDRED SEVENTY DEGREEScQUEENdROTATED NINETY DEGREESeTWO HUNDRED SEVENTY DEGREEScROOK
dROTATED NINETY DEGREESeTWO HUNDRED SEVENTY DEGREEScTURNED BISHOPdKINGdKNIGHTdPAWNdQUEENdROOK
bCIRCLEcFOR RECORDcWITH DOWN ARROWdTWO WHITE DOTSdWHITE DOT RIGHTbCLUB SUITbCROSS ON SHIELD
bCURVED DOWNWARDS AND LEFTWARDS ARROWeRIGHTWARDS ARROWcLEFTWARDS AND DOWNWARDS ARROW
eUPWARDS ARROWcRIGHTWARDS AND DOWNWARDS ARROWeUPWARDS ARROWcUPWARDS AND LEFTWARDS ARROW
eRIGHTWARDS ARROWbDIAMONDcCENTREDcMINUS WHITE XcON CROSScSUITcWITH DOWN ARROW
bDOWN POINTING BACKHAND INDEXbDOWN-POINTING DOUBLE TRIANGLEcISOSCELES RIGHT TRIANGLE
cSMALL TRIANGLEcTRIANGLEbDOWNWARDS EQUILATERAL ARROWHEADbDRAUGHTS KINGcMANbDROPLETbFLAGbFLORETTE
bFOLDERbFOUR POINTED STARbHARD SHELL FLOPPY DISKbHEARTcSUITbHEXAGONbHORIZONTAL ELLIPSEbHOURGLASS
bLARGE CIRCLEcSQUAREbLEFT LANE MERGEcPOINTING BACKHAND INDEXdINDEXbLEFT-POINTING DOUBLE TRIANGLE
eWITH VERTICAL BARcISOSCELES RIGHT TRIANGLEcPOINTERcSMALL TRIANGLEcTRIANGLEbLEFTWARDS BULLET
cEQUILATERAL ARROWHEADbLOWER LEFT TRIANGLEcRIGHT TRIANGLEbLOZENGEbMEDIUM DIAMOND
cDOWN-POINTING TRIANGLEeCENTREDcLEFT-POINTING TRIANGLEeCENTREDcLOZENGEcRIGHT-POINTING TRIANGLE
eCENTREDcSMALL DIAMONDdLOZENGEdSQUAREcSQUAREcUP-POINTING TRIANGLEeCENTREDbMOON LILITHbNIB
bOCTAGONbPARALLELOGRAMbPENNANTbPENTAGONbPUSHPINbQUESTION MARK ORNAMENTbRECTANGLE
bRIGHT POINTING BACKHAND INDEXdINDEXbRIGHT-POINTING DOUBLE TRIANGLEeWITH VERTICAL BAR
cISOSCELES RIGHT TRIANGLEcPENTAGONcPOINTERcSMALL TRIANGLEcTRIANGLEdWITH DOUBLE VERTICAL BAR
bRIGHTWARDS ARROWcARROWHEADcBULLETcEQUILATERAL ARROWHEADbROSETTEbSAFETY SCISSORSbSCISSORS
bSHOGI PIECEbSKULL AND CROSSBONESbSLIGHTLY SMALL CIRCLEdSQUAREbSMALL DIAMONDcLOZENGEcSQUAREcSTAR
bSMILING FACEbSNOWMANbSPADE SUITbSQUAREcBUTTONcCENTREDcFOR STOPbSTARbSUN WITH RAYSbTELEPHONE
bTINY DIAMONDcLOZENGEcSQUAREbTOUCHTONE TELEPHONEbTRUCKbTWO-WAY LEFT WAY TRAFFIC
bUNIVERSAL RECYCLING SYMBOLbUP POINTING BACKHAND INDEXbUP-POINTING DOUBLE TRIANGLE
cISOSCELES RIGHT TRIANGLEcSMALL TRIANGLEcTRIANGLEbUPPER LEFT TRIANGLEcRIGHT TRIANGLE
bUPWARDS EQUILATERAL ARROWHEADbVERTICAL ELLIPSEcRECTANGLEbVERY SMALL DIAMONDdLOZENGEdSQUARE
aBLACK-FEATHERED NORTH EAST ARROWbRIGHTWARDS ARROWbSOUTH EAST ARROWaBLACK-LETTER CAPITAL CcHcIcR
cZaBLANK SYMBOLaBLOCK SEXTANT-1bSEXTANT-12bSEXTANT-123bSEXTANT-1234bSEXTANT-12345bSEXTANT-12346
bSEXTANT-1235bSEXTANT-12356bSEXTANT-1236bSEXTANT-124bSEXTANT-1245bSEXTANT-12456bSEXTANT-1246
bSEXTANT-125bSEXTANT-1256bSEXTANT-126bSEXTANT-13bSEXTANT-134bSEXTANT-1345bSEXTANT-13456
bSEXTANT-1346bSEXTANT-1356bSEXTANT-136bSEXTANT-14bSEXTANT-145bSEXTANT-1456bSEXTANT-146
bSEXTANT-15bSEXTANT-156bSEXTANT-16bSEXTANT-2bSEXTANT-23bSEXTANT-234bSEXTANT-2345bSEXTANT-23456
bSEXTANT-2346bSEXTANT-235bSEXTANT-2356bSEXTANT-236bSEXTANT-24bSEXTANT-245bSEXTANT-2456
bSEXTANT-25bSEXTANT-256bSEXTANT-26bSEXTANT-3bSEXTANT-34bSEXTANT-345bSEXTANT-3456bSEXTANT-346
bSEXTANT-35bSEXTANT-356bSEXTANT-36bSEXTANT-4bSEXTANT-45bSEXTANT-456bSEXTANT-46bSEXTANT-5
bSEXTANT-56bSEXTANT-6aBLOSSOMaBLOWFISHaBLUE BOOKbHEARTaBLUEBERRIESaBOAR
aBOLD EIGHT SPOKED ASTERISKbFIVE SPOKED ASTERISKbGREEK CROSSbSALTIREbSIX SPOKED ASTERISK
bWHITE CIRCLEcSQUAREaBOMaBOMBaBONEaBOOKaBOOKMARKbTABSaBOOKSaBOOMERANGaBOPOMOFO FINAL LETTER GdH
dKdPdTbLETTER AcAHcAIcAINNcAMcANcANGcANNcAUcAUNNcBcBUcCcCHcDcEcEEcEHcEIcENcENGcENNcERcFcGcGHcGN
cGUcGWcHcIcIHcIMcINNcINNNcIRcIUcJcJIcKcKWcLcLHcMcNcNGcNGGcNNcOdWITH DOT ABOVEcOEcOMcONGcONNcOO
cOUcPcQcRcScSHcTcUcUNNcVcXcZcZHcZIcZYaBOTTLE WITH POPPING CORKaBOTTOM ARC ANTICLOCKWISE ARROW
bCURLY BRACKETbHALF BLACK CIRCLEcINTEGRALcLEFT PARENTHESIScRIGHT PARENTHESISbLEFT CORNERcCROP
cHALF BRACKETbPARENTHESISbRIGHT CORNERcCROPcHALF BRACKETbSQUARE BRACKETdOVER TOP SQUARE BRACKET
bTORTOISE SHELL BRACKETaBOUQUETbOF FLOWERSaBOW AND ARROWaBOWL OF HYGIEIAbWITH SPOONaBOWLING
aBOWTIEbWITH LEFT HALF BLACKcRIGHT HALF BLACKaBOX DRAWINGS DOUBLE DOWN AND HORIZONTALfLEFTfRIGHT
dHORIZONTALdUP AND HORIZONTALfLEFTfRIGHTdVERTICALeAND HORIZONTALfLEFTfRIGHT
cDOWN DOUBLE AND HORIZONTAL SINGLEfLEFT SINGLEfRIGHT SINGLEdHEAVY AND HORIZONTAL LIGHT
fLEFT LIGHTgUP LIGHTfRIGHT LIGHTgUP LIGHTfUP HORIZONTAL LIGHTdLIGHT AND HORIZONTAL HEAVY
fLEFT HEAVYgUP HEAVYfRIGHT HEAVYgUP HEAVYfUP HORIZONTAL HEAVYdSINGLE AND HORIZONTAL DOUBLE
fLEFT DOUBLEfRIGHT DOUBLEcHEAVY DOUBLE DASH HORIZONTALfVERTICALdDOWNeAND HORIZONTALfLEFTfRIGHT
dHORIZONTALdLEFTeAND LIGHT RIGHTdQUADRUPLE DASH HORIZONTALfVERTICALdRIGHTdTRIPLE DASH HORIZONTAL
fVERTICALdUPeAND HORIZONTALfLEFTfLIGHT DOWNfRIGHTdVERTICALeAND HORIZONTALfLEFTfRIGHT
cLEFT DOWN HEAVY AND RIGHT UP LIGHTdHEAVY AND RIGHT DOWN LIGHTgUP LIGHTgVERTICAL LIGHT
dLIGHT AND RIGHT DOWN HEAVYgUP HEAVYgVERTICAL HEAVYdUP HEAVY AND RIGHT DOWN LIGHT
cLIGHT ARC DOWN AND LEFTgRIGHTeUP AND LEFTgRIGHTdDIAGONAL CROSSeDIAMOND
eMIDDLE LEFT TO LOWER CENTREjTO MIDDLE RIGHThUPPER CENTRE TO MIDDLE RIGHTmTO LOWER CENTRE
fRIGHT TO LOWER CENTREhUPPER CENTRE TO MIDDLE LEFT TO LOWER CENTREeUPPER CENTRE TO MIDDLE LEFT
jAND MIDDLE RIGHT TO LOWER CENTREjTO LOWER CENTREmTO MIDDLE RIGHTiRIGHT
jAND MIDDLE LEFT TO LOWER CENTREjTO LOWER CENTREmTO MIDDLE LEFTfLEFT TO LOWER RIGHT
fRIGHT TO LOWER LEFTdDOUBLE DASH HORIZONTALfVERTICALdDOWNeAND HORIZONTALfLEFTfRIGHTdHORIZONTAL
eWITH VERTICAL STROKEdLEFTeAND HEAVY RIGHTdQUADRUPLE DASH HORIZONTALfVERTICALdRIGHT
dTRIPLE DASH HORIZONTALfVERTICALdUPeAND HEAVY DOWNfHORIZONTALfLEFTfRIGHTdVERTICALeAND HORIZONTAL
fLEFTfRIGHTcRIGHT DOWN HEAVY AND LEFT UP LIGHTdHEAVY AND LEFT DOWN LIGHTgUP LIGHTgVERTICAL LIGHT
dLIGHT AND LEFT DOWN HEAVYgUP HEAVYgVERTICAL HEAVYdUP HEAVY AND LEFT DOWN LIGHT
cUP DOUBLE AND HORIZONTAL SINGLEfLEFT SINGLEfRIGHT SINGLEdHEAVY AND DOWN HORIZONTAL LIGHT
fHORIZONTAL LIGHTfLEFT DOWN LIGHTgLIGHTfRIGHT DOWN LIGHTgLIGHTdLIGHT AND DOWN HORIZONTAL HEAVY
fHORIZONTAL HEAVYfLEFT DOWN HEAVYgHEAVYfRIGHT DOWN HEAVYgHEAVYdSINGLE AND HORIZONTAL DOUBLE
fLEFT DOUBLEfRIGHT DOUBLEcVERTICAL DOUBLE AND HORIZONTAL SINGLEfLEFT SINGLEfRIGHT SINGLE
dHEAVY AND HORIZONTAL LIGHTfLEFT LIGHTfRIGHT LIGHTdLIGHT AND HORIZONTAL HEAVYfLEFT HEAVY
fRIGHT HEAVYdSINGLE AND HORIZONTAL DOUBLEfLEFT DOUBLEfRIGHT DOUBLEaBOXING GLOVEaBOYaBOYS SYMBOL
aBPHaBRAHMI DANDAbDIGIT EIGHTcFIVEcFOURcNINEcONEcSEVENcSIXcTHREEcTWOcZERObDOUBLE DANDAbLETTER A
cAAcAIcAUcBAcBHAcCAcCHAcDAcDDAcDDHAcDHAcEcGAcGHAcHAcIcIIcJAcJHAcKAcKHAcLAcLLAcMAcNAcNGAcNNAcNYA
cOcOLD TAMIL LLAeLLLAeNNNAeRRAeSHORT EfOcPAcPHAcRAcSAcSHAcSSAcTAcTHAcTTAcTTHAcUcUUcVAcVOCALIC L
dLLdRdRRcYAbNUMBER EIGHTcEIGHTYcFIFTYcFIVEcFORTYcFOURcJOINERcNINEcNINETYcONEdHUNDREDdTHOUSAND
cSEVENcSEVENTYcSIXcSIXTYcTENcTHIRTYcTHREEcTWENTYcTWObPUNCTUATION CRESCENT BARcDOTcDOUBLE DOT
cLINEcLOTUSbSIGN ANUSVARAcCANDRABINDUcJIHVAMULIYAcOLD TAMIL VIRAMAcUPADHMANIYAcVISARGAbVIRAMA
bVOWEL SIGN AAdAIdAUdBHATTIPROLU AAdEdIdIIdOdOLD TAMIL SHORT EgOdUdUUdVOCALIC LeLLeReRR
aBRAILLE PATTERN BLANKcDOTS-1cDOTS-12cDOTS-123cDOTS-1234cDOTS-12345cDOTS-123456cDOTS-1234567
cDOTS-12345678cDOTS-1234568cDOTS-123457cDOTS-1234578cDOTS-123458cDOTS-12346cDOTS-123467
cDOTS-1234678cDOTS-123468cDOTS-12347cDOTS-123478cDOTS-12348cDOTS-1235cDOTS-12356cDOTS-123567
cDOTS-1235678cDOTS-123568cDOTS-12357cDOTS-123578cDOTS-12358cDOTS-1236cDOTS-12367cDOTS-123678
cDOTS-12368cDOTS-1237cDOTS-12378cDOTS-1238cDOTS-124cDOTS-1245cDOTS-12456cDOTS-124567
cDOTS-1245678cDOTS-124568cDOTS-12457cDOTS-124578cDOTS-12458cDOTS-1246cDOTS-12467cDOTS-124678
cDOTS-12468cDOTS-1247cDOTS-12478cDOTS-1248cDOTS-125cDOTS-1256cDOTS-12567cDOTS-125678cDOTS-12568
cDOTS-1257cDOTS-12578cDOTS-1258cDOTS-126cDOTS-1267cDOTS-12678cDOTS-1268cDOTS-127cDOTS-1278
cDOTS-128cDOTS-13cDOTS-134cDOTS-1345cDOTS-13456cDOTS-134567cDOTS-1345678cDOTS-134568cDOTS-13457
cDOTS-134578cDOTS-13458cDOTS-1346cDOTS-13467cDOTS-134678cDOTS-13468cDOTS-1347cDOTS-13478
cDOTS-1348cDOTS-135cDOTS-1356cDOTS-13567cDOTS-135678cDOTS-13568cDOTS-1357cDOTS-13578cDOTS-1358
cDOTS-136cDOTS-1367cDOTS-13678cDOTS-1368cDOTS-137cDOTS-1378cDOTS-138cDOTS-14cDOTS-145cDOTS-1456
cDOTS-14567cDOTS-145678cDOTS-14568cDOTS-1457cDOTS-14578cDOTS-1458cDOTS-146cDOTS-1467cDOTS-14678
cDOTS-1468cDOTS-147cDOTS-1478cDOTS-148cDOTS-15cDOTS-156cDOTS-1567cDOTS-15678cDOTS-1568cDOTS-157
cDOTS-1578cDOTS-158cDOTS-16cDOTS-167cDOTS-1678cDOTS-168cDOTS-17cDOTS-178cDOTS-18cDOTS-2cDOTS-23
cDOTS-234cDOTS-2345cDOTS-23456cDOTS-234567cDOTS-2345678cDOTS-234568cDOTS-23457cDOTS-234578
cDOTS-23458cDOTS-2346cDOTS-23467cDOTS-234678cDOTS-23468cDOTS-2347cDOTS-23478cDOTS-2348cDOTS-235
cDOTS-2356cDOTS-23567cDOTS-235678cDOTS-23568cDOTS-2357cDOTS-23578cDOTS-2358cDOTS-236cDOTS-2367
cDOTS-23678cDOTS-2368cDOTS-237cDOTS-2378cDOTS-238cDOTS-24cDOTS-245cDOTS-2456cDOTS-24567
cDOTS-245678cDOTS-24568cDOTS-2457cDOTS-24578cDOTS-2458cDOTS-246cDOTS-2467cDOTS-24678cDOTS-2468
cDOTS-247cDOTS-2478cDOTS-248cDOTS-25cDOTS-256cDOTS-2567cDOTS-25678cDOTS-2568cDOTS-257cDOTS-2578
cDOTS-258cDOTS-26cDOTS-267cDOTS-2678cDOTS-268cDOTS-27cDOTS-278cDOTS-28cDOTS-3cDOTS-34cDOTS-345
cDOTS-3456cDOTS-34567cDOTS-345678cDOTS-34568cDOTS-3457cDOTS-34578cDOTS-3458cDOTS-346cDOTS-3467
cDOTS-34678cDOTS-3468cDOTS-347cDOTS-3478cDOTS-348cDOTS-35cDOTS-356cDOTS-3567cDOTS-35678
cDOTS-3568cDOTS-357cDOTS-3578cDOTS-358cDOTS-36cDOTS-367cDOTS-3678cDOTS-368cDOTS-37cDOTS-378
cDOTS-38cDOTS-4cDOTS-45cDOTS-456cDOTS-4567cDOTS-45678cDOTS-4568cDOTS-457cDOTS-4578cDOTS-458
cDOTS-46cDOTS-467cDOTS-4678cDOTS-468cDOTS-47cDOTS-478cDOTS-48cDOTS-5cDOTS-56cDOTS-567cDOTS-5678
cDOTS-568cDOTS-57cDOTS-578cDOTS-58cDOTS-6cDOTS-67cDOTS-678cDOTS-68cDOTS-7cDOTS-78cDOTS-8aBRAIN
aBREADaBREAK PERMITTED HEREaBREAST-FEEDINGaBREVEaBRICKaBRIDE WITH VEILaBRIDGE AT NIGHTaBRIEFCASE
aBRIEFSaBROCCOLIaBROKEN BARbCIRCLE WITH NORTHWEST ARROWbHEARTaBROOMaBROWN HEARTaBSaBUBBLE TEA
aBUBBLESaBUCKETaBUGaBUGINESE END OF SECTIONbLETTER AcBAcCAcDAcGAcHAcJAcKAcLAcMAcMPAcNAcNGAcNGKA
cNRAcNYAcNYCAcPAcRAcSAcTAcVAcYAbPALLAWAbVOWEL SIGN AEdEdIdOdUaBUHID LETTER AcBAcDAcGAcHAcIcKAcLA
cMAcNAcNGAcPAcRAcSAcTAcUcWAcYAbVOWEL SIGN IdUaBUILDING CONSTRUCTIONaBULLETbOPERATORaBULLHORN
bWITH SOUND WAVESaBULLSEYEaBURRITOaBUSbSTOPaBUST IN SILHOUETTEaBUSTS IN SILHOUETTEaBUTTER
aBUTTERFLYaBYTE ORDER MARKaBYZANTINE MUSICAL SYMBOL AGOGI ARGIeARGOTERIeGORGIeGORGOTERIeMESI
eMETRIAePOLI ARGIfGORGIdANATRICHISMAdANTIKENOKYLISMAdANTIKENOMAdAPESO EKFONITIKONeEXO NEOdAPLI
dAPODERMA ARCHAIONeNEOdAPOSTROFOI SYNDESMOS NEOeTELOUS ICHIMATOSdAPOSTROFOSeDIPLIeNEOdAPOTHEMA
dARGONdARGOSYNTHETONdARKTIKO DIeGAeKEeNIePAeVOUeZOdCHAMILIdCHAMILONdCHOREVMA ARCHAIONeNEO
dCHROA KLITONeSPATHIeZYGOSdDASEIAdDIARGONdDIASTOLI APLI MEGALIfMIKRIeDIPLIeTHESEOS
dDIESIS APLI DYO DODEKATAeDIGRAMMOS EX DODEKATAeMONOGRAMMOS TESSERA DODEKATAeTETARTIMORION
eTRIGRAMMOS OKTO DODEKATAeTRITIMORIONdDIFTOGGOS OUdDIGORGONePARESTIGMENON ARISTERA ANOgKATO
fDEXIAdDIGRAMMA GGdDIPLIeARCHAIONdDYOdEKSTREPTONdELAFRONdENARXIS KAI FTHORA VOUdENDOFONON
dEPEGERMAdETERON ARGOSYNTHETONePARAKALESMAdEXO EKFONITIKONdFANEROSIS DIFONIASeMONOFONIAS
eTETRAFONIASdFHTORA SKLIRON CHROMA VASISdFTHORA ARCHAIONfDEYTEROU ICHOUeDIATONIKI DIfKEfNANA
fNI ANOgKATOfPAfZOeENARMONIOS ANTIFONIAeI YFESIS TETARTIMORIONeMALAKON CHROMA DIFONIAS
gMONOFONIASeNAOS ICHOSeNENANOeSKLIRON CHROMA SYNAFIgVASISfDIATONON DIdGENIKI DIESISeYFESIS
dGORGON ARCHAIONeNEO ANOfKATOePARESTIGMENON ARISTERAfDEXIAdGORGOSYNTHETONdGORTHMIKON N APLOUN
fDIPLOUNdGRONTHISMATAdICHADINdIMIDIARGONdIMIFONONdIMIFTHORAdIMIFTHORONdISAKIA TELOUS ICHIMATOS
dISON ARCHAIONeNEOdKATAVA TROMIKONdKATAVASMAdKATHISTIdKENTIMA ARCHAIONeNEO ANOfKATOfMESO
dKENTIMATAeARCHAIONeNEO ANOfKATOfMESOdKLASMAeANOeKATOdKONTEVMAeALLOdKORONISdKOUFISMA
dKRATIMA ALLOeARCHAIONeNEOdKRATIMATAdKRATIMOKOUFISMAdKRATIMOYPORROONdKREMASTIdKYLISMA
dLEIMMA DYO CHRONONeENOS CHRONOUeIMISEOS CHRONOUeTESSARON CHRONONeTRION CHRONONdLEMOIdLYGISMA
dMARTYRIA ALLI DEYTEROS ICHOSfPROTOS ICHOSeDEYTEROS ICHOSeLEGETOS ICHOSePLAGIOS ICHOS
fTETARTOS ICHOSePROTOS ICHOSePROTOVARYS ICHOSeTETARTOS ICHOSfLEGETOS ICHOSeTRIFONIAS
eTRITOS ICHOSeVARYS ICHOSdMIKRON ISONdNANAdOLIGON ARCHAIONeNEOdOMALONdOXEIA DIPLIeEKFONITIKON
eNEOdOXEIAI ARCHAIONdOYRANISMA ARCHAIONeNEOdPARAKALESMA ARCHAIONeNEOdPARAKLITIKIeARCHAIONeNEO
dPARICHONdPELASTONeNEOdPERISPOMENIdPETASMAdPETASTIdPETASTOKOUFISMAdPIASMA ARCHAIONeNEO
dPSIFISTOLYGISMAdPSIFISTONeNEOdPSIFISTOPARAKALESMAdPSIFISTOSYNAGMAdPSILIdPSILONdRAPISMAdREVMA
dSAXIMATAdSEISMAeNEOdSIMANSIS ARSEOSfDISIMOUfTETRASIMOUfTRISIMOUeTHESEOSfDISIMOUfTETRASIMOU
fTRISIMOUdSTAVROSeAPODEXIAdSTIGMAdSTRAGGISMATAdSYNAGMA ARCHAIONeMETA STAVROUeNEOdSYNEVMAdSYRMA
dSYRMATIKIdTELEIAdTESSERAdTETRAPLIdTHEMAeAPLOUNdTHEMATISMOS ESOeEXOdTHES KAI APOTHESdTHITA
dTINAGMAdTRIAdTRIGORGONdTRIPLIdTROMIKOLYGISMAdTROMIKON ALLOeARCHAIONeNEOdTROMIKOPARAKALESMA
dTROMIKOPSIFISTONdTROMIKOSYNAGMAdVAREIA DIPLIeEKFONITIKONeNEOdVAREIAI ARCHAIONdVATHY
dXIRON KLASMAdYFEN ANOeKATOdYFESIS APLI DYO DODEKATAeDIGRAMMOS EX DODEKATA
eMONOGRAMMOS TESSERA DODEKATAeTRIGRAMMOS OKTO DODEKATAeTRITIMORIONdYPOKRISISeDIPLIdYPORROI
dYPSILI"

def namesWithC : String :=
  "aCACTUSaCADA UNAaCADUCEUSaCALENDARaCALL ME HANDaCAMERAbWITH FLASHaCAMPINGaCAN
aCANADIAN SYLLABICS AcAAcAAIcAAYcAIcAIVILIK BcANcATHAPASCAN MdScAYcBEAVER DENE LeRcBIBLE-CREE Y
cBLACKFOOT AdEdIdKAdKEdKIdKOdNAdNEdNIdNOdOdSdWdWAdWEdWIdWOcCcCAcCAAcCAAIcCARRIER CHAdCHEdCHEE
dCHIdCHOdCHUdDEEdDENE GEEdDENTAL SdDIdDLAdDLEdDLEEdDLIdDLOdDLUdDZAdDZEdDZEEdDZIdDZOdDZUdEEdGA
dGAAdGEdGEEdGHAdGHEdGHEEdGHIdGHOdGHUdGIdGOdGUdGWAdGWUdHdHEEdHIdHWAdHWEdHWEEdHWIdHWOdHWUdI
dINITIAL ZdJAdJEdJEEdJIdJJAdJJEdJJEEdJJIdJJOdJJUdJOdJUdJWAdKHAdKHEdKHEEdKHIdKHOdKHUdKKdKKAdKKE
dKKEEdKKIdKKOdKKUdLAdLEdLEEdLHAdLHEdLHEEdLHIdLHOdLHUdLIdLOdLUdMAdMEdMEEdMIdMOdMUdNAdNEdNEEdNGdNI
dNOdNUdPdPAdPEdPEEdPIdPOdPUdRAdREdREEdRIdROdRUdSAdSEdSEEdSHdSHAdSHEdSHEEdSHIdSHOdSHUdSIdSOdSU
dTHAdTHEdTHEEdTHIdTHOdTHUdTLAdTLEdTLEEdTLHAdTLHEdTLHEEdTLHIdTLHOdTLHUdTLIdTLOdTLUdTSAdTSEdTSEE
dTSIdTSOdTSUdTTAdTTEdTTEEdTTIdTTOdTTSAdTTSEdTTSEEdTTSIdTTSOdTTSUdTTUdWAdWEdWEEdWIdWOdWUdYAdYE
dYEEdYIdYOdYUdZdZAdZEdZEEdZIdZOdZUcCEcCHI SIGNcCIcCIIcCOcCOOcCWAcCWAAcCWEcCWIcCWIIcCWOcCWOOcE
cEASTERN WcENcFcFAcFAAcFAAIcFEcFIcFIIcFINAL ACUTEdBOTTOM HALF RINGdDOUBLE ACUTE
eSHORT VERTICAL STROKESdDOWN TACKdGRAVEdMIDDLE DOTdPLUSdRAISED DOTdRIGHT HALF RINGdRING
dSHORT HORIZONTAL STROKEdSMALL RINGdTOP HALF RINGcFOcFOOcFULL STOPcFWAAcGLOTTAL STOPcHKcHYPHENcI
cIIcINcKcKAcKAAcKAAIcKAYcKEcKIcKIIcKOcKOOcKWcKWAcKWAAcKWAYcKWEcKWIcKWIIcKWOcKWOOcLcLAcLAAcLAAI
cLAYcLEcLHcLHAcLHAAcLHIcLHIIcLHOcLHOOcLIcLIIcLOcLOOcLWAcLWAAcLWEcLWIcLWIIcLWOcLWOOcMcMAcMAAcMAAI
cMAYcMEcMEDIAL LdRcMHcMIcMIIcMOcMOOcMOOSE-CREE SKcMWAcMWAAcMWEcMWIcMWIIcMWOcMWOOcNcN-CREE THE
dTHIdTHIIcNAcNAAcNAAIcNASKAPI CWAAdKWAAdMWAAdNWAAdS-WdSCWAdSKWdSKWAdSPWAdSTWAdSWAAdTWAAdWAAdWOO
dYWAAcNATTILIK HAdHAAdHIdHIIdHOdHOOdSHRAdSHRAAdSHRIdSHRIIdSHROdSHROOcNAYcNEcNGcNGAcNGAAcNGAAI
cNGAIcNGIcNGIIcNGOcNGOOcNHcNIcNIIcNNGcNNGAcNNGAAcNNGIcNNGIIcNNGOcNNGOOcNOcNOOcNOYcNUNAVIK HdHA
dHAAdHEdHIdHIIdHOdHOOcNUNAVUT HcNWAcNWAAcNWEcNWIcNWIIcNWOcNWOOcOcOJIBWAY CdKdMdNdNWIdNWIIdNWO
dNWOOdPdSdSHdTcONcOOcOYcPcPAcPAAcPAAIcPAYcPEcPIcPIIcPOcPOOcPOYcPWAcPWAAcPWEcPWIcPWIIcPWOcPWOO
cPWOYcQcQAcQAAcQAAIcQAIcQIcQIIcQOcQOOcRcR-CREE REdRWEcRAcRAAcRAAIcRAYcREcRIcRIIcROcROOcRWAcRWAA
cRWEEcRWIcRWIIcRWOcRWOOcScSAcSAAcSAAIcSAYcSAYISI HAdHEdHIdHOdHOOdJIdJUdJUUdMdSHAdSHEdSHIdSHO
dSHOOdSHWEdTHdYIcSEcSHcSHAcSHAAcSHAYcSHEcSHIcSHIIcSHOcSHOOcSHOYcSHWAcSHWAAcSHWEcSHWIcSHWIIcSHWO
cSHWOOcSHWOYcSIcSIIcSOcSOOcSOUTH-SLAVEY KAHdKEHdKIHdKOHcSOYcSPAcSPEcSPIcSPOcSWcSWAcSWAAcSWEcSWI
cSWIIcSWOcSWOOcTcTAcTAAcTAAIcTAYcTEcTHcTH-CREE THdTHAdTHAAdTHEdTHIdTHIIdTHOdTHOOcTHAcTHAAcTHE
cTHIcTHIIcTHOcTHOOcTHWAcTHWAAcTHWEcTIcTIIcTLHAcTLHEcTLHIcTLHOcTLHOOcTLHWEcTOcTOOcTTAcTTEcTTH
cTTHAcTTHAAcTTHEcTTHIcTTHOcTTHOOcTTHWEcTTIcTTOcTWAcTWAAcTWEcTWIcTWIIcTWOcTWOOcTYAcTYEcTYIcTYOcWA
cWAAcWAYcWEcWEST-CREE CWAdCWAAdCWEdCWIdCWIIdCWOdCWOOdFWAAdKWAdKWAAdKWEdKWIdKWIIdKWOdKWOOdLdLA
dLAAdLEdLOdLOOdLWAdLWAAdLWEdLWIdLWIIdLWOdLWOOdMdMWAdMWAAdMWEdMWIdMWIIdMWOdMWOOdNWAdNWAAdNWEdP
dPWAdPWAAdPWEdPWIdPWIIdPWOdPWOOdRdRAdREdRIdROdRWAAdSHWAdSHWAAdSHWEdSHWIdSHWIIdSHWOdSHWOOdSWA
dSWAAdSWEdSWIdSWIIdSWOdSWOOdTHWAAdTWAdTWAAdTWEdTWIdTWIIdTWOdTWOOdWAdWAAdWEdWIdWIIdWOdWOOdYdYWA
dYWAAdYWEdYWIdYWIIdYWOdYWOOcWESTERN WcWIcWIIcWOcWOOcWOODS-CREE FINAL THdTHdTHAdTHEdTHIdTHOdTHWA
dTHWAAdTHWEEdTHWIdTHWIIdTHWOdTHWOOcYcY-CREE COOdKOOdLOOdMOOdNOOdOOdPOOdPWAAdSOOdTOOdWdYOOcYAcYAA
cYAAIcYAYcYEcYIcYIIcYOcYOOcYOYcYWAcYWAAcYWEcYWIcYWIIcYWOcYWOOaCANCELbCHARACTERbTAG
aCANCELLATION XaCANCERaCANDLEaCANDYaCANNED FOODaCANOEaCAPITULUMaCAPRICORNaCAR SLIDING
aCARD FILE BOXbINDEXcDIVIDERSaCARE OFaCARETbINSERTION POINTaCARIAN LETTER AcA2cBcC-18cC-39cDcD2
cEcE2cGcG2cIcIIcKcK2cLcLDcLD2cMcMBcMB2cMB3cMB4cNcNDcNGcNNcOcPcP2cQcRcRRcScSHcSH2cSScSTcST2cTcTT
cTT2cUcUUcUUUcUUU2cUUU3cUUUUcXaCARONaCAROUSEL HORSEaCARP STREAMERaCARPENTRY SAWaCARRIAGE RETURN
aCARROTaCASTLEaCATbFACEcWITH TEARS OF JOYdWRY SMILEaCAUCASIAN ALBANIAN CITATION MARKcLETTER ALT
dAORdBETdCARdCAYNdCHAdCHATdCHIdCHOYdCYAWdCYAYdDATdDYANdDZAYdDZYAYdEBdEYNdFAMdGHEYSdGIMdHEYTdINYA
dIRBdIWNdJAYNdJHOXdKARdKIWdLANdLYITdMAQdNOWCdONdPENdPIWRdQARdQAYdRATdSEYKdSHAdSHAKdSHOYdTASdTIWR
dTYAYdVEYZdXEYNdYAYDdYOWDdZARLdZHAdZHILaCAUTION SIGNaCCHaCEDI SIGNaCEDILLAaCELTIC CROSS
aCENT SIGNaCENTRE LINE SYMBOLaCENTRELINE LOW LINEbOVERLINEaCERESaCGJaCHAINSaCHAIRaCHAKMA AU MARK
bDANDAbDIGIT EIGHTcFIVEcFOURcNINEcONEcSEVENcSIXcTHREEcTWOcZERObDOUBLE DANDAbLETTER AAcBAAcBHAA
cCAAcCHAAcDAAcDDAAcDDHAAcDHAAcEcGAAcGHAAcHAAcIcJAAcJHAAcKAAcKHAAcLAAcLHAAcMAAcNAAcNGAAcNNAAcNYAA
cPAAcPHAAcRAAcSAAcTAAcTHAAcTTAAcTTHAAcUcVAAcWAAcYAAcYYAAbMAAYYAAbO MARKbQUESTION MARK
bSECTION MARKbSIGN ANUSVARAcCANDRABINDUcVISARGAbVIRAMAbVOWEL SIGN AdAAdAIdAUdEdEIdIdIIdOdOIdUdUU
aCHAM CONSONANT SIGN FINAL HeMeNGdLAdRAdWAdYAbDIGIT EIGHTcFIVEcFOURcNINEcONEcSEVENcSIXcTHREEcTWO
cZERObLETTER AcAIcBAcBBAcBHAcCHAcCHHAcDAcDDAcDHAcEcFINAL CHdGdKdLdNdNGdPdRdSSdTdYcGAcGHAcHAcIcJA
cJHAcKAcKHAcLAcMAcMUEcNAcNGAcNGUEcNHAcNHJAcNHUEcNUEcOcPAcPHAcPPAcRAcSAcSSAcTAcTHAcUcVAcYA
bPUNCTUATION DANDAcDOUBLE DANDAcSPIRALcTRIPLE DANDAbVOWEL SIGN AAdAIdAUdEIdIdIIdOdOEdUdUE
aCHARACTER TABULATIONcSETcWITH JUSTIFICATIONbTIEaCHART WITH DOWNWARDS TRENDcUPWARDS TREND
eAND YEN SIGNaCHECK MARKaCHECKER BOARDcFILLaCHEERING MEGAPHONEaCHEESE WEDGEaCHEQUERED FLAG
aCHEROKEE LETTER AcDAcDEcDIcDLAcDOcDUcDVcEcGAcGEcGIcGOcGUcGVcHAcHEcHIcHNAcHOcHUcHVcIcKAcLAcLEcLI
cLOcLUcLVcMAcMEcMIcMOcMUcMVcNAcNAHcNEcNIcNOcNUcNVcOcQUAcQUEcQUIcQUOcQUUcQUVcScSAcSEcSIcSOcSUcSV
cTAcTEcTIcTLAcTLEcTLIcTLOcTLUcTLVcTSAcTSEcTSIcTSOcTSUcTSVcUcVcWAcWEcWIcWOcWUcWVcYAcYEcYIcYOcYU
cYVbSMALL LETTER AdDAdDEdDIdDLAdDOdDUdDVdEdGAdGEdGIdGOdGUdGVdHAdHEdHIdHNAdHOdHUdHVdIdKAdLAdLEdLI
dLOdLUdLVdMAdMEdMIdMOdMUdMVdNAdNAHdNEdNIdNOdNUdNVdOdQUAdQUEdQUIdQUOdQUUdQUVdSdSAdSEdSIdSOdSUdSV
dTAdTEdTIdTLAdTLEdTLIdTLOdTLUdTLVdTSAdTSEdTSIdTSOdTSUdTSVdUdVdWAdWEdWIdWOdWUdWVdYAdYEdYIdYOdYU
dYVaCHERRIESaCHERRY BLOSSOMaCHESTNUTaCHI RHOaCHICKENaCHILDaCHILDREN CROSSINGaCHIPMUNKaCHIRON
aCHOCOLATE BARaCHOPSTICKSaCHORASMIAN LETTER ALEPHcAYINcBETHcCURLED WAWcDALETHcGIMELcHEcHETHcKAPH
cLAMEDHcMEMcNUNcPEcRESHcSAMEKHcSHINcSMALL ALEPHcTAWcWAWcYODHcZAYINbNUMBER FOURcONEdHUNDREDcTEN
cTHREEcTWENTYcTWOaCHRISTMAS TREEaCHURCHaCINEMA
aCIRCLE DIVIDED BY HORIZONTAL BAR AND TOP HALF DIVIDED BY VERTICAL BAR
bWITH ALL BUT UPPER LEFT QUADRANT BLACKcHORIZONTAL BARcLEFT HALF BLACKcLOWER HALF BLACK
cRIGHT HALF BLACKcSMALL CIRCLE TO THE RIGHTcSUPERIMPOSED XcTWO HORIZONTAL STROKES TO THE RIGHT
cUPPER HALF BLACKdRIGHT QUADRANT BLACKcVERTICAL FILLaCIRCLED ANTICLOCKWISE ARROW
bANTICLOCKWISE-ROTATED DIVISION SIGNbASTERISK OPERATORbBOLD XbBULLETbC WITH OVERLAID BACKSLASH
bCCbCDbCROSS FORMEEdWITH FOUR DOTSeTWO DOTScPOMMEEbCROSSING LANESbDASHbDIGIT EIGHTcFIVEcFOUR
cNINEcONEcSEVENcSIXcTHREEcTWOcZERObDIVISION SIGNcSLASHbDOLLAR SIGN WITH OVERLAID BACKSLASH
bDOT OPERATORbEQUALSbGREATER-THANbHANGUL CHIEUCHdAcCIEUCdAcHIEUHdAcIEUNGdAdUcKHIEUKHdAcKIYEOKdA
cMIEUMdAcNIEUNdAcPHIEUPHdAcPIEUPdAcRIEULdAcSIOSdAcTHIEUTHdAcTIKEUTdA
bHEAVY WHITE RIGHTWARDS ARROWbHORIZONTAL BAR WITH NOTCHbHUMAN FIGUREbIDEOGRAPH ACCEPTcADVANTAGE
cALLIANCEcATTENTIONcCENTREcCONGRATULATIONcCOPYcCORRECTcEARTHcEIGHTcENTERPRISEcEXCELLENTcFEMALE
cFINANCIALcFIREcFIVEcFOURcHAVEcHIGHcITEMcKINDERGARTENcKOTOcLABORcLEFTcLOWcMALEcMEDICINEcMETAL
cMOONcNAMEcNIGHTcNINEcONEcPRINTcQUESTIONcRELIGIONcRESOURCEcRESTcRIGHTcSCHOOLcSECRETcSEVENcSIX
cSOCIETYcSPECIALcSTOCKcSTUDYcSUITABLEcSUNcSUPERVISEcTENcTHREEcTWOcWATERcWOODbINFORMATION SOURCE
bITALIC LATIN CAPITAL LETTER CfRbKATAKANA AcEcHAcHEcHIcHOcHUcIcKAcKEcKIcKOcKUcMAcMEcMIcMOcMUcNA
cNEcNIcNOcNUcOcRAcREcRIcROcRUcSAcSEcSIcSOcSUcTAcTEcTIcTOcTUcUcWAcWEcWIcWOcYAcYOcYU
bKOREAN CHARACTER CHAMKOdJUEUIbLATIN CAPITAL LETTER AeBeCeDeEeFeGeHeIeJeKeLeMeNeOePeQeReSeTeUeV
eWeXeYeZcSMALL LETTER AeBeCeDeEeFeGeHeIeJeKeLeMeNeOePeQeReSeTeUeVeWeXeYeZbLESS-THANbMINUS
bMULTIPLICATION SIGN WITH CIRCUMFLEX ACCENTbNUMBER EIGHTEENcEIGHTY ON BLACK SQUAREcELEVEN
cFIFTEENcFIFTYdON BLACK SQUAREcFORTYdEIGHTdFIVEdFOURdNINEdON BLACK SQUAREdONEdSEVENdSIXdTHREE
dTWOcFOURTEENcNINETEENcSEVENTEENcSEVENTY ON BLACK SQUAREcSIXTEENcSIXTY ON BLACK SQUAREcTEN
dON BLACK SQUAREcTHIRTEENcTHIRTYdEIGHTdFIVEdFOURdNINEdON BLACK SQUAREdONEdSEVENdSIXdTHREEdTWO
cTWELVEcTWENTYdEIGHTdFIVEdFOURdNINEdON BLACK SQUAREdONEdSEVENdSIXdTHREEdTWO
bOPEN CENTRE EIGHT POINTED STARbPARALLELbPERPENDICULARbPLUSbPOSTAL MARKbREVERSE SOLIDUS
bRING OPERATORbSQUAREbTIMESbTRIANGLEcDOWNbVERTICAL BARbWHITE BULLETcSTARbWZbXbZERO WITH SLASH
aCIRCULATION FUNCTIONaCIRCUMFLEX ACCENTaCIRCUS TENTaCITYSCAPEbAT DUSK
aCJK COMPATIBILITY IDEOGRAPH-2F800cIDEOGRAPH-2F801cIDEOGRAPH-2F802cIDEOGRAPH-2F803
cIDEOGRAPH-2F804cIDEOGRAPH-2F805cIDEOGRAPH-2F806cIDEOGRAPH-2F807cIDEOGRAPH-2F808cIDEOGRAPH-2F809
cIDEOGRAPH-2F80AcIDEOGRAPH-2F80BcIDEOGRAPH-2F80CcIDEOGRAPH-2F80DcIDEOGRAPH-2F80EcIDEOGRAPH-2F80F
cIDEOGRAPH-2F810cIDEOGRAPH-2F811cIDEOGRAPH-2F812cIDEOGRAPH-2F813cIDEOGRAPH-2F814cIDEOGRAPH-2F815
cIDEOGRAPH-2F816cIDEOGRAPH-2F817cIDEOGRAPH-2F818cIDEOGRAPH-2F819cIDEOGRAPH-2F81AcIDEOGRAPH-2F81B
cIDEOGRAPH-2F81CcIDEOGRAPH-2F81DcIDEOGRAPH-2F81EcIDEOGRAPH-2F81FcIDEOGRAPH-2F820cIDEOGRAPH-2F821
cIDEOGRAPH-2F822cIDEOGRAPH-2F823cIDEOGRAPH-2F824cIDEOGRAPH-2F825cIDEOGRAPH-2F826cIDEOGRAPH-2F827
cIDEOGRAPH-2F828cIDEOGRAPH-2F829cIDEOGRAPH-2F82AcIDEOGRAPH-2F82BcIDEOGRAPH-2F82CcIDEOGRAPH-2F82D
cIDEOGRAPH-2F82EcIDEOGRAPH-2F82FcIDEOGRAPH-2F830cIDEOGRAPH-2F831cIDEOGRAPH-2F832cIDEOGRAPH-2F833
cIDEOGRAPH-2F834cIDEOGRAPH-2F835cIDEOGRAPH-2F836cIDEOGRAPH-2F837cIDEOGRAPH-2F838cIDEOGRAPH-2F839
cIDEOGRAPH-2F83AcIDEOGRAPH-2F83BcIDEOGRAPH-2F83CcIDEOGRAPH-2F83DcIDEOGRAPH-2F83EcIDEOGRAPH-2F83F
cIDEOGRAPH-2F840cIDEOGRAPH-2F841cIDEOGRAPH-2F842cIDEOGRAPH-2F843cIDEOGRAPH-2F844cIDEOGRAPH-2F845
cIDEOGRAPH-2F846cIDEOGRAPH-2F847cIDEOGRAPH-2F848cIDEOGRAPH-2F849cIDEOGRAPH-2F84AcIDEOGRAPH-2F84B
cIDEOGRAPH-2F84CcIDEOGRAPH-2F84DcIDEOGRAPH-2F84EcIDEOGRAPH-2F84FcIDEOGRAPH-2F850cIDEOGRAPH-2F851
cIDEOGRAPH-2F852cIDEOGRAPH-2F853cIDEOGRAPH-2F854cIDEOGRAPH-2F855cIDEOGRAPH-2F856cIDEOGRAPH-2F857
cIDEOGRAPH-2F858cIDEOGRAPH-2F859cIDEOGRAPH-2F85AcIDEOGRAPH-2F85BcIDEOGRAPH-2F85CcIDEOGRAPH-2F85D
cIDEOGRAPH-2F85EcIDEOGRAPH-2F85FcIDEOGRAPH-2F860cIDEOGRAPH-2F861cIDEOGRAPH-2F862cIDEOGRAPH-2F863
cIDEOGRAPH-2F864cIDEOGRAPH-2F865cIDEOGRAPH-2F866cIDEOGRAPH-2F867cIDEOGRAPH-2F868cIDEOGRAPH-2F869
cIDEOGRAPH-2F86AcIDEOGRAPH-2F86BcIDEOGRAPH-2F86CcIDEOGRAPH-2F86DcIDEOGRAPH-2F86EcIDEOGRAPH-2F86F
cIDEOGRAPH-2F870cIDEOGRAPH-2F871cIDEOGRAPH-2F872cIDEOGRAPH-2F873cIDEOGRAPH-2F874cIDEOGRAPH-2F875
cIDEOGRAPH-2F876cIDEOGRAPH-2F877cIDEOGRAPH-2F878cIDEOGRAPH-2F879cIDEOGRAPH-2F87AcIDEOGRAPH-2F87B
cIDEOGRAPH-2F87CcIDEOGRAPH-2F87DcIDEOGRAPH-2F87EcIDEOGRAPH-2F87FcIDEOGRAPH-2F880cIDEOGRAPH-2F881
cIDEOGRAPH-2F882cIDEOGRAPH-2F883cIDEOGRAPH-2F884cIDEOGRAPH-2F885cIDEOGRAPH-2F886cIDEOGRAPH-2F887
cIDEOGRAPH-2F888cIDEOGRAPH-2F889cIDEOGRAPH-2F88AcIDEOGRAPH-2F88BcIDEOGRAPH-2F88CcIDEOGRAPH-2F88D
cIDEOGRAPH-2F88EcIDEOGRAPH-2F88FcIDEOGRAPH-2F890cIDEOGRAPH-2F891cIDEOGRAPH-2F892cIDEOGRAPH-2F893
cIDEOGRAPH-2F894cIDEOGRAPH-2F895cIDEOGRAPH-2F896cIDEOGRAPH-2F897cIDEOGRAPH-2F898cIDEOGRAPH-2F899
cIDEOGRAPH-2F89AcIDEOGRAPH-2F89BcIDEOGRAPH-2F89CcIDEOGRAPH-2F89DcIDEOGRAPH-2F89EcIDEOGRAPH-2F89F
cIDEOGRAPH-2F8A0cIDEOGRAPH-2F8A1cIDEOGRAPH-2F8A2cIDEOGRAPH-2F8A3cIDEOGRAPH-2F8A4cIDEOGRAPH-2F8A5
cIDEOGRAPH-2F8A6cIDEOGRAPH-2F8A7cIDEOGRAPH-2F8A8cIDEOGRAPH-2F8A9cIDEOGRAPH-2F8AAcIDEOGRAPH-2F8AB
cIDEOGRAPH-2F8ACcIDEOGRAPH-2F8ADcIDEOGRAPH-2F8AEcIDEOGRAPH-2F8AFcIDEOGRAPH-2F8B0cIDEOGRAPH-2F8B1
cIDEOGRAPH-2F8B2cIDEOGRAPH-2F8B3cIDEOGRAPH-2F8B4cIDEOGRAPH-2F8B5cIDEOGRAPH-2F8B6cIDEOGRAPH-2F8B7
cIDEOGRAPH-2F8B8cIDEOGRAPH-2F8B9cIDEOGRAPH-2F8BAcIDEOGRAPH-2F8BBcIDEOGRAPH-2F8BCcIDEOGRAPH-2F8BD
cIDEOGRAPH-2F8BEcIDEOGRAPH-2F8BFcIDEOGRAPH-2F8C0cIDEOGRAPH-2F8C1cIDEOGRAPH-2F8C2cIDEOGRAPH-2F8C3
cIDEOGRAPH-2F8C4cIDEOGRAPH-2F8C5cIDEOGRAPH-2F8C6cIDEOGRAPH-2F8C7cIDEOGRAPH-2F8C8cIDEOGRAPH-2F8C9
cIDEOGRAPH-2F8CAcIDEOGRAPH-2F8CBcIDEOGRAPH-2F8CCcIDEOGRAPH-2F8CDcIDEOGRAPH-2F8CEcIDEOGRAPH-2F8CF
cIDEOGRAPH-2F8D0cIDEOGRAPH-2F8D1cIDEOGRAPH-2F8D2cIDEOGRAPH-2F8D3cIDEOGRAPH-2F8D4cIDEOGRAPH-2F8D5
cIDEOGRAPH-2F8D6cIDEOGRAPH-2F8D7cIDEOGRAPH-2F8D8cIDEOGRAPH-2F8D9cIDEOGRAPH-2F8DAcIDEOGRAPH-2F8DB
cIDEOGRAPH-2F8DCcIDEOGRAPH-2F8DDcIDEOGRAPH-2F8DEcIDEOGRAPH-2F8DFcIDEOGRAPH-2F8E0cIDEOGRAPH-2F8E1
cIDEOGRAPH-2F8E2cIDEOGRAPH-2F8E3cIDEOGRAPH-2F8E4cIDEOGRAPH-2F8E5cIDEOGRAPH-2F8E6cIDEOGRAPH-2F8E7
cIDEOGRAPH-2F8E8cIDEOGRAPH-2F8E9cIDEOGRAPH-2F8EAcIDEOGRAPH-2F8EBcIDEOGRAPH-2F8ECcIDEOGRAPH-2F8ED
cIDEOGRAPH-2F8EEcIDEOGRAPH-2F8EFcIDEOGRAPH-2F8F0cIDEOGRAPH-2F8F1cIDEOGRAPH-2F8F2cIDEOGRAPH-2F8F3
cIDEOGRAPH-2F8F4cIDEOGRAPH-2F8F5cIDEOGRAPH-2F8F6cIDEOGRAPH-2F8F7cIDEOGRAPH-2F8F8cIDEOGRAPH-2F8F9
cIDEOGRAPH-2F8FAcIDEOGRAPH-2F8FBcIDEOGRAPH-2F8FCcIDEOGRAPH-2F8FDcIDEOGRAPH-2F8FEcIDEOGRAPH-2F8FF
cIDEOGRAPH-2F900cIDEOGRAPH-2F901cIDEOGRAPH-2F902cIDEOGRAPH-2F903cIDEOGRAPH-2F904cIDEOGRAPH-2F905
cIDEOGRAPH-2F906cIDEOGRAPH-2F907cIDEOGRAPH-2F908cIDEOGRAPH-2F909cIDEOGRAPH-2F90AcIDEOGRAPH-2F90B
cIDEOGRAPH-2F90CcIDEOGRAPH-2F90DcIDEOGRAPH-2F90EcIDEOGRAPH-2F90FcIDEOGRAPH-2F910cIDEOGRAPH-2F911
cIDEOGRAPH-2F912cIDEOGRAPH-2F913cIDEOGRAPH-2F914cIDEOGRAPH-2F915cIDEOGRAPH-2F916cIDEOGRAPH-2F917
cIDEOGRAPH-2F918cIDEOGRAPH-2F919cIDEOGRAPH-2F91AcIDEOGRAPH-2F91BcIDEOGRAPH-2F91CcIDEOGRAPH-2F91D
cIDEOGRAPH-2F91EcIDEOGRAPH-2F91FcIDEOGRAPH-2F920cIDEOGRAPH-2F921cIDEOGRAPH-2F922cIDEOGRAPH-2F923
cIDEOGRAPH-2F924cIDEOGRAPH-2F925cIDEOGRAPH-2F926cIDEOGRAPH-2F927cIDEOGRAPH-2F928cIDEOGRAPH-2F929
cIDEOGRAPH-2F92AcIDEOGRAPH-2F92BcIDEOGRAPH-2F92CcIDEOGRAPH-2F92DcIDEOGRAPH-2F92EcIDEOGRAPH-2F92F
cIDEOGRAPH-2F930cIDEOGRAPH-2F931cIDEOGRAPH-2F932cIDEOGRAPH-2F933cIDEOGRAPH-2F934cIDEOGRAPH-2F935
cIDEOGRAPH-2F936cIDEOGRAPH-2F937cIDEOGRAPH-2F938cIDEOGRAPH-2F939cIDEOGRAPH-2F93AcIDEOGRAPH-2F93B
cIDEOGRAPH-2F93CcIDEOGRAPH-2F93DcIDEOGRAPH-2F93EcIDEOGRAPH-2F93FcIDEOGRAPH-2F940cIDEOGRAPH-2F941
cIDEOGRAPH-2F942cIDEOGRAPH-2F943cIDEOGRAPH-2F944cIDEOGRAPH-2F945cIDEOGRAPH-2F946cIDEOGRAPH-2F947
cIDEOGRAPH-2F948cIDEOGRAPH-2F949cIDEOGRAPH-2F94AcIDEOGRAPH-2F94BcIDEOGRAPH-2F94CcIDEOGRAPH-2F94D
cIDEOGRAPH-2F94EcIDEOGRAPH-2F94FcIDEOGRAPH-2F950cIDEOGRAPH-2F951cIDEOGRAPH-2F952cIDEOGRAPH-2F953
cIDEOGRAPH-2F954cIDEOGRAPH-2F955cIDEOGRAPH-2F956cIDEOGRAPH-2F957cIDEOGRAPH-2F958cIDEOGRAPH-2F959
cIDEOGRAPH-2F95AcIDEOGRAPH-2F95BcIDEOGRAPH-2F95CcIDEOGRAPH-2F95DcIDEOGRAPH-2F95EcIDEOGRAPH-2F95F
cIDEOGRAPH-2F960cIDEOGRAPH-2F961cIDEOGRAPH-2F962cIDEOGRAPH-2F963cIDEOGRAPH-2F964cIDEOGRAPH-2F965
cIDEOGRAPH-2F966cIDEOGRAPH-2F967cIDEOGRAPH-2F968cIDEOGRAPH-2F969cIDEOGRAPH-2F96AcIDEOGRAPH-2F96B
cIDEOGRAPH-2F96CcIDEOGRAPH-2F96DcIDEOGRAPH-2F96EcIDEOGRAPH-2F96FcIDEOGRAPH-2F970cIDEOGRAPH-2F971
cIDEOGRAPH-2F972cIDEOGRAPH-2F973cIDEOGRAPH-2F974cIDEOGRAPH-2F975cIDEOGRAPH-2F976cIDEOGRAPH-2F977
cIDEOGRAPH-2F978cIDEOGRAPH-2F979cIDEOGRAPH-2F97AcIDEOGRAPH-2F97BcIDEOGRAPH-2F97CcIDEOGRAPH-2F97D
cIDEOGRAPH-2F97EcIDEOGRAPH-2F97FcIDEOGRAPH-2F980cIDEOGRAPH-2F981cIDEOGRAPH-2F982cIDEOGRAPH-2F983
cIDEOGRAPH-2F984cIDEOGRAPH-2F985cIDEOGRAPH-2F986cIDEOGRAPH-2F987cIDEOGRAPH-2F988cIDEOGRAPH-2F989
cIDEOGRAPH-2F98AcIDEOGRAPH-2F98BcIDEOGRAPH-2F98CcIDEOGRAPH-2F98DcIDEOGRAPH-2F98EcIDEOGRAPH-2F98F
cIDEOGRAPH-2F990cIDEOGRAPH-2F991cIDEOGRAPH-2F992cIDEOGRAPH-2F993cIDEOGRAPH-2F994cIDEOGRAPH-2F995
cIDEOGRAPH-2F996cIDEOGRAPH-2F997cIDEOGRAPH-2F998cIDEOGRAPH-2F999cIDEOGRAPH-2F99AcIDEOGRAPH-2F99B
cIDEOGRAPH-2F99CcIDEOGRAPH-2F99DcIDEOGRAPH-2F99EcIDEOGRAPH-2F99FcIDEOGRAPH-2F9A0cIDEOGRAPH-2F9A1
cIDEOGRAPH-2F9A2cIDEOGRAPH-2F9A3cIDEOGRAPH-2F9A4cIDEOGRAPH-2F9A5cIDEOGRAPH-2F9A6cIDEOGRAPH-2F9A7
cIDEOGRAPH-2F9A8cIDEOGRAPH-2F9A9cIDEOGRAPH-2F9AAcIDEOGRAPH-2F9ABcIDEOGRAPH-2F9ACcIDEOGRAPH-2F9AD
cIDEOGRAPH-2F9AEcIDEOGRAPH-2F9AFcIDEOGRAPH-2F9B0cIDEOGRAPH-2F9B1cIDEOGRAPH-2F9B2cIDEOGRAPH-2F9B3
cIDEOGRAPH-2F9B4cIDEOGRAPH-2F9B5cIDEOGRAPH-2F9B6cIDEOGRAPH-2F9B7cIDEOGRAPH-2F9B8cIDEOGRAPH-2F9B9
cIDEOGRAPH-2F9BAcIDEOGRAPH-2F9BBcIDEOGRAPH-2F9BCcIDEOGRAPH-2F9BDcIDEOGRAPH-2F9BEcIDEOGRAPH-2F9BF
cIDEOGRAPH-2F9C0cIDEOGRAPH-2F9C1cIDEOGRAPH-2F9C2cIDEOGRAPH-2F9C3cIDEOGRAPH-2F9C4cIDEOGRAPH-2F9C5
cIDEOGRAPH-2F9C6cIDEOGRAPH-2F9C7cIDEOGRAPH-2F9C8cIDEOGRAPH-2F9C9cIDEOGRAPH-2F9CAcIDEOGRAPH-2F9CB
cIDEOGRAPH-2F9CCcIDEOGRAPH-2F9CDcIDEOGRAPH-2F9CEcIDEOGRAPH-2F9CFcIDEOGRAPH-2F9D0cIDEOGRAPH-2F9D1
cIDEOGRAPH-2F9D2cIDEOGRAPH-2F9D3cIDEOGRAPH-2F9D4cIDEOGRAPH-2F9D5cIDEOGRAPH-2F9D6cIDEOGRAPH-2F9D7
cIDEOGRAPH-2F9D8cIDEOGRAPH-2F9D9cIDEOGRAPH-2F9DAcIDEOGRAPH-2F9DBcIDEOGRAPH-2F9DCcIDEOGRAPH-2F9DD
cIDEOGRAPH-2F9DEcIDEOGRAPH-2F9DFcIDEOGRAPH-2F9E0cIDEOGRAPH-2F9E1cIDEOGRAPH-2F9E2cIDEOGRAPH-2F9E3
cIDEOGRAPH-2F9E4cIDEOGRAPH-2F9E5cIDEOGRAPH-2F9E6cIDEOGRAPH-2F9E7cIDEOGRAPH-2F9E8cIDEOGRAPH-2F9E9
cIDEOGRAPH-2F9EAcIDEOGRAPH-2F9EBcIDEOGRAPH-2F9ECcIDEOGRAPH-2F9EDcIDEOGRAPH-2F9EEcIDEOGRAPH-2F9EF
cIDEOGRAPH-2F9F0cIDEOGRAPH-2F9F1cIDEOGRAPH-2F9F2cIDEOGRAPH-2F9F3cIDEOGRAPH-2F9F4cIDEOGRAPH-2F9F5
cIDEOGRAPH-2F9F6cIDEOGRAPH-2F9F7cIDEOGRAPH-2F9F8cIDEOGRAPH-2F9F9cIDEOGRAPH-2F9FAcIDEOGRAPH-2F9FB
cIDEOGRAPH-2F9FCcIDEOGRAPH-2F9FDcIDEOGRAPH-2F9FEcIDEOGRAPH-2F9FFcIDEOGRAPH-2FA00cIDEOGRAPH-2FA01
cIDEOGRAPH-2FA02cIDEOGRAPH-2FA03cIDEOGRAPH-2FA04cIDEOGRAPH-2FA05cIDEOGRAPH-2FA06cIDEOGRAPH-2FA07
cIDEOGRAPH-2FA08cIDEOGRAPH-2FA09cIDEOGRAPH-2FA0AcIDEOGRAPH-2FA0BcIDEOGRAPH-2FA0CcIDEOGRAPH-2FA0D
cIDEOGRAPH-2FA0EcIDEOGRAPH-2FA0FcIDEOGRAPH-2FA10cIDEOGRAPH-2FA11cIDEOGRAPH-2FA12cIDEOGRAPH-2FA13
cIDEOGRAPH-2FA14cIDEOGRAPH-2FA15cIDEOGRAPH-2FA16cIDEOGRAPH-2FA17cIDEOGRAPH-2FA18cIDEOGRAPH-2FA19
cIDEOGRAPH-2FA1AcIDEOGRAPH-2FA1BcIDEOGRAPH-2FA1CcIDEOGRAPH-2FA1DcIDEOGRAPH-F900cIDEOGRAPH-F901
cIDEOGRAPH-F902cIDEOGRAPH-F903cIDEOGRAPH-F904cIDEOGRAPH-F905cIDEOGRAPH-F906cIDEOGRAPH-F907
cIDEOGRAPH-F908cIDEOGRAPH-F909cIDEOGRAPH-F90AcIDEOGRAPH-F90BcIDEOGRAPH-F90CcIDEOGRAPH-F90D
cIDEOGRAPH-F90EcIDEOGRAPH-F90FcIDEOGRAPH-F910cIDEOGRAPH-F911cIDEOGRAPH-F912cIDEOGRAPH-F913
cIDEOGRAPH-F914cIDEOGRAPH-F915cIDEOGRAPH-F916cIDEOGRAPH-F917cIDEOGRAPH-F918cIDEOGRAPH-F919
cIDEOGRAPH-F91AcIDEOGRAPH-F91BcIDEOGRAPH-F91CcIDEOGRAPH-F91DcIDEOGRAPH-F91EcIDEOGRAPH-F91F
cIDEOGRAPH-F920cIDEOGRAPH-F921cIDEOGRAPH-F922cIDEOGRAPH-F923cIDEOGRAPH-F924cIDEOGRAPH-F925
cIDEOGRAPH-F926cIDEOGRAPH-F927cIDEOGRAPH-F928cIDEOGRAPH-F929cIDEOGRAPH-F92AcIDEOGRAPH-F92B
cIDEOGRAPH-F92CcIDEOGRAPH-F92DcIDEOGRAPH-F92EcIDEOGRAPH-F92FcIDEOGRAPH-F930cIDEOGRAPH-F931
cIDEOGRAPH-F932cIDEOGRAPH-F933cIDEOGRAPH-F934cIDEOGRAPH-F935cIDEOGRAPH-F936cIDEOGRAPH-F937
cIDEOGRAPH-F938cIDEOGRAPH-F939cIDEOGRAPH-F93AcIDEOGRAPH-F93BcIDEOGRAPH-F93CcIDEOGRAPH-F93D
cIDEOGRAPH-F93EcIDEOGRAPH-F93FcIDEOGRAPH-F940cIDEOGRAPH-F941cIDEOGRAPH-F942cIDEOGRAPH-F943
cIDEOGRAPH-F944cIDEOGRAPH-F945cIDEOGRAPH-F946cIDEOGRAPH-F947cIDEOGRAPH-F948cIDEOGRAPH-F949
cIDEOGRAPH-F94AcIDEOGRAPH-F94BcIDEOGRAPH-F94CcIDEOGRAPH-F94DcIDEOGRAPH-F94EcIDEOGRAPH-F94F
cIDEOGRAPH-F950cIDEOGRAPH-F951cIDEOGRAPH-F952cIDEOGRAPH-F953cIDEOGRAPH-F954cIDEOGRAPH-F955
cIDEOGRAPH-F956cIDEOGRAPH-F957cIDEOGRAPH-F958cIDEOGRAPH-F959cIDEOGRAPH-F95AcIDEOGRAPH-F95B
cIDEOGRAPH-F95CcIDEOGRAPH-F95DcIDEOGRAPH-F95EcIDEOGRAPH-F95FcIDEOGRAPH-F960cIDEOGRAPH-F961
cIDEOGRAPH-F962cIDEOGRAPH-F963cIDEOGRAPH-F964cIDEOGRAPH-F965cIDEOGRAPH-F966cIDEOGRAPH-F967
cIDEOGRAPH-F968cIDEOGRAPH-F969cIDEOGRAPH-F96AcIDEOGRAPH-F96BcIDEOGRAPH-F96CcIDEOGRAPH-F96D
cIDEOGRAPH-F96EcIDEOGRAPH-F96FcIDEOGRAPH-F970cIDEOGRAPH-F971cIDEOGRAPH-F972cIDEOGRAPH-F973
cIDEOGRAPH-F974cIDEOGRAPH-F975cIDEOGRAPH-F976cIDEOGRAPH-F977cIDEOGRAPH-F978cIDEOGRAPH-F979
cIDEOGRAPH-F97AcIDEOGRAPH-F97BcIDEOGRAPH-F97CcIDEOGRAPH-F97DcIDEOGRAPH-F97EcIDEOGRAPH-F97F
cIDEOGRAPH-F980cIDEOGRAPH-F981cIDEOGRAPH-F982cIDEOGRAPH-F983cIDEOGRAPH-F984cIDEOGRAPH-F985
cIDEOGRAPH-F986cIDEOGRAPH-F987cIDEOGRAPH-F988cIDEOGRAPH-F989cIDEOGRAPH-F98AcIDEOGRAPH-F98B
cIDEOGRAPH-F98CcIDEOGRAPH-F98DcIDEOGRAPH-F98EcIDEOGRAPH-F98FcIDEOGRAPH-F990cIDEOGRAPH-F991
cIDEOGRAPH-F992cIDEOGRAPH-F993cIDEOGRAPH-F994cIDEOGRAPH-F995cIDEOGRAPH-F996cIDEOGRAPH-F997
cIDEOGRAPH-F998cIDEOGRAPH-F999cIDEOGRAPH-F99AcIDEOGRAPH-F99BcIDEOGRAPH-F99CcIDEOGRAPH-F99D
cIDEOGRAPH-F99EcIDEOGRAPH-F99FcIDEOGRAPH-F9A0cIDEOGRAPH-F9A1cIDEOGRAPH-F9A2cIDEOGRAPH-F9A3
cIDEOGRAPH-F9A4cIDEOGRAPH-F9A5cIDEOGRAPH-F9A6cIDEOGRAPH-F9A7cIDEOGRAPH-F9A8cIDEOGRAPH-F9A9
cIDEOGRAPH-F9AAcIDEOGRAPH-F9ABcIDEOGRAPH-F9ACcIDEOGRAPH-F9ADcIDEOGRAPH-F9AEcIDEOGRAPH-F9AF
cIDEOGRAPH-F9B0cIDEOGRAPH-F9B1cIDEOGRAPH-F9B2cIDEOGRAPH-F9B3cIDEOGRAPH-F9B4cIDEOGRAPH-F9B5
cIDEOGRAPH-F9B6cIDEOGRAPH-F9B7cIDEOGRAPH-F9B8cIDEOGRAPH-F9B9cIDEOGRAPH-F9BAcIDEOGRAPH-F9BB
cIDEOGRAPH-F9BCcIDEOGRAPH-F9BDcIDEOGRAPH-F9BEcIDEOGRAPH-F9BFcIDEOGRAPH-F9C0cIDEOGRAPH-F9C1
cIDEOGRAPH-F9C2cIDEOGRAPH-F9C3cIDEOGRAPH-F9C4cIDEOGRAPH-F9C5cIDEOGRAPH-F9C6cIDEOGRAPH-F9C7
cIDEOGRAPH-F9C8cIDEOGRAPH-F9C9cIDEOGRAPH-F9CAcIDEOGRAPH-F9CBcIDEOGRAPH-F9CCcIDEOGRAPH-F9CD
cIDEOGRAPH-F9CEcIDEOGRAPH-F9CFcIDEOGRAPH-F9D0cIDEOGRAPH-F9D1cIDEOGRAPH-F9D2cIDEOGRAPH-F9D3
cIDEOGRAPH-F9D4cIDEOGRAPH-F9D5cIDEOGRAPH-F9D6cIDEOGRAPH-F9D7cIDEOGRAPH-F9D8cIDEOGRAPH-F9D9
cIDEOGRAPH-F9DAcIDEOGRAPH-F9DBcIDEOGRAPH-F9DCcIDEOGRAPH-F9DDcIDEOGRAPH-F9DEcIDEOGRAPH-F9DF
cIDEOGRAPH-F9E0cIDEOGRAPH-F9E1cIDEOGRAPH-F9E2cIDEOGRAPH-F9E3cIDEOGRAPH-F9E4cIDEOGRAPH-F9E5
cIDEOGRAPH-F9E6cIDEOGRAPH-F9E7cIDEOGRAPH-F9E8cIDEOGRAPH-F9E9cIDEOGRAPH-F9EAcIDEOGRAPH-F9EB
cIDEOGRAPH-F9ECcIDEOGRAPH-F9EDcIDEOGRAPH-F9EEcIDEOGRAPH-F9EFcIDEOGRAPH-F9F0cIDEOGRAPH-F9F1
cIDEOGRAPH-F9F2cIDEOGRAPH-F9F3cIDEOGRAPH-F9F4cIDEOGRAPH-F9F5cIDEOGRAPH-F9F6cIDEOGRAPH-F9F7
cIDEOGRAPH-F9F8cIDEOGRAPH-F9F9cIDEOGRAPH-F9FAcIDEOGRAPH-F9FBcIDEOGRAPH-F9FCcIDEOGRAPH-F9FD
cIDEOGRAPH-F9FEcIDEOGRAPH-F9FFcIDEOGRAPH-FA00cIDEOGRAPH-FA01cIDEOGRAPH-FA02cIDEOGRAPH-FA03
cIDEOGRAPH-FA04cIDEOGRAPH-FA05cIDEOGRAPH-FA06cIDEOGRAPH-FA07cIDEOGRAPH-FA08cIDEOGRAPH-FA09
cIDEOGRAPH-FA0AcIDEOGRAPH-FA0BcIDEOGRAPH-FA0CcIDEOGRAPH-FA0DcIDEOGRAPH-FA0EcIDEOGRAPH-FA0F
cIDEOGRAPH-FA10cIDEOGRAPH-FA11cIDEOGRAPH-FA12cIDEOGRAPH-FA13cIDEOGRAPH-FA14cIDEOGRAPH-FA15
cIDEOGRAPH-FA16cIDEOGRAPH-FA17cIDEOGRAPH-FA18cIDEOGRAPH-FA19cIDEOGRAPH-FA1AcIDEOGRAPH-FA1B
cIDEOGRAPH-FA1CcIDEOGRAPH-FA1DcIDEOGRAPH-FA1EcIDEOGRAPH-FA1FcIDEOGRAPH-FA20cIDEOGRAPH-FA21
cIDEOGRAPH-FA22cIDEOGRAPH-FA23cIDEOGRAPH-FA24cIDEOGRAPH-FA25cIDEOGRAPH-FA26cIDEOGRAPH-FA27
cIDEOGRAPH-FA28cIDEOGRAPH-FA29cIDEOGRAPH-FA2AcIDEOGRAPH-FA2BcIDEOGRAPH-FA2CcIDEOGRAPH-FA2D
cIDEOGRAPH-FA2EcIDEOGRAPH-FA2FcIDEOGRAPH-FA30cIDEOGRAPH-FA31cIDEOGRAPH-FA32cIDEOGRAPH-FA33
cIDEOGRAPH-FA34cIDEOGRAPH-FA35cIDEOGRAPH-FA36cIDEOGRAPH-FA37cIDEOGRAPH-FA38cIDEOGRAPH-FA39
cIDEOGRAPH-FA3AcIDEOGRAPH-FA3BcIDEOGRAPH-FA3CcIDEOGRAPH-FA3DcIDEOGRAPH-FA3EcIDEOGRAPH-FA3F
cIDEOGRAPH-FA40cIDEOGRAPH-FA41cIDEOGRAPH-FA42cIDEOGRAPH-FA43cIDEOGRAPH-FA44cIDEOGRAPH-FA45
cIDEOGRAPH-FA46cIDEOGRAPH-FA47cIDEOGRAPH-FA48cIDEOGRAPH-FA49cIDEOGRAPH-FA4AcIDEOGRAPH-FA4B
cIDEOGRAPH-FA4CcIDEOGRAPH-FA4DcIDEOGRAPH-FA4EcIDEOGRAPH-FA4FcIDEOGRAPH-FA50cIDEOGRAPH-FA51
cIDEOGRAPH-FA52cIDEOGRAPH-FA53cIDEOGRAPH-FA54cIDEOGRAPH-FA55cIDEOGRAPH-FA56cIDEOGRAPH-FA57
cIDEOGRAPH-FA58cIDEOGRAPH-FA59cIDEOGRAPH-FA5AcIDEOGRAPH-FA5BcIDEOGRAPH-FA5CcIDEOGRAPH-FA5D
cIDEOGRAPH-FA5EcIDEOGRAPH-FA5FcIDEOGRAPH-FA60cIDEOGRAPH-FA61cIDEOGRAPH-FA62cIDEOGRAPH-FA63
cIDEOGRAPH-FA64cIDEOGRAPH-FA65cIDEOGRAPH-FA66cIDEOGRAPH-FA67cIDEOGRAPH-FA68cIDEOGRAPH-FA69
cIDEOGRAPH-FA6AcIDEOGRAPH-FA6BcIDEOGRAPH-FA6CcIDEOGRAPH-FA6DcIDEOGRAPH-FA70cIDEOGRAPH-FA71
cIDEOGRAPH-FA72cIDEOGRAPH-FA73cIDEOGRAPH-FA74cIDEOGRAPH-FA75cIDEOGRAPH-FA76cIDEOGRAPH-FA77
cIDEOGRAPH-FA78cIDEOGRAPH-FA79cIDEOGRAPH-FA7AcIDEOGRAPH-FA7BcIDEOGRAPH-FA7CcIDEOGRAPH-FA7D
cIDEOGRAPH-FA7EcIDEOGRAPH-FA7FcIDEOGRAPH-FA80cIDEOGRAPH-FA81cIDEOGRAPH-FA82cIDEOGRAPH-FA83
cIDEOGRAPH-FA84cIDEOGRAPH-FA85cIDEOGRAPH-FA86cIDEOGRAPH-FA87cIDEOGRAPH-FA88cIDEOGRAPH-FA89
cIDEOGRAPH-FA8AcIDEOGRAPH-FA8BcIDEOGRAPH-FA8CcIDEOGRAPH-FA8DcIDEOGRAPH-FA8EcIDEOGRAPH-FA8F
cIDEOGRAPH-FA90cIDEOGRAPH-FA91cIDEOGRAPH-FA92cIDEOGRAPH-FA93cIDEOGRAPH-FA94cIDEOGRAPH-FA95
cIDEOGRAPH-FA96cIDEOGRAPH-FA97cIDEOGRAPH-FA98cIDEOGRAPH-FA99cIDEOGRAPH-FA9AcIDEOGRAPH-FA9B
cIDEOGRAPH-FA9CcIDEOGRAPH-FA9DcIDEOGRAPH-FA9EcIDEOGRAPH-FA9FcIDEOGRAPH-FAA0cIDEOGRAPH-FAA1
cIDEOGRAPH-FAA2cIDEOGRAPH-FAA3cIDEOGRAPH-FAA4cIDEOGRAPH-FAA5cIDEOGRAPH-FAA6cIDEOGRAPH-FAA7
cIDEOGRAPH-FAA8cIDEOGRAPH-FAA9cIDEOGRAPH-FAAAcIDEOGRAPH-FAABcIDEOGRAPH-FAACcIDEOGRAPH-FAAD
cIDEOGRAPH-FAAEcIDEOGRAPH-FAAFcIDEOGRAPH-FAB0cIDEOGRAPH-FAB1cIDEOGRAPH-FAB2cIDEOGRAPH-FAB3
cIDEOGRAPH-FAB4cIDEOGRAPH-FAB5cIDEOGRAPH-FAB6cIDEOGRAPH-FAB7cIDEOGRAPH-FAB8cIDEOGRAPH-FAB9
cIDEOGRAPH-FABAcIDEOGRAPH-FABBcIDEOGRAPH-FABCcIDEOGRAPH-FABDcIDEOGRAPH-FABEcIDEOGRAPH-FABF
cIDEOGRAPH-FAC0cIDEOGRAPH-FAC1cIDEOGRAPH-FAC2cIDEOGRAPH-FAC3cIDEOGRAPH-FAC4cIDEOGRAPH-FAC5
cIDEOGRAPH-FAC6cIDEOGRAPH-FAC7cIDEOGRAPH-FAC8cIDEOGRAPH-FAC9cIDEOGRAPH-FACAcIDEOGRAPH-FACB
cIDEOGRAPH-FACCcIDEOGRAPH-FACDcIDEOGRAPH-FACEcIDEOGRAPH-FACFcIDEOGRAPH-FAD0cIDEOGRAPH-FAD1
cIDEOGRAPH-FAD2cIDEOGRAPH-FAD3cIDEOGRAPH-FAD4cIDEOGRAPH-FAD5cIDEOGRAPH-FAD6cIDEOGRAPH-FAD7
cIDEOGRAPH-FAD8cIDEOGRAPH-FAD9bRADICAL BAMBOOcBLUEcBOLT OF CLOTHcBONEcBOXcBRUSH ONEdTWO
cC-SIMPLIFIED BIRDdCARTdDRAGONdEATdEVENdFISHdFLYdFROGdGATEdGOLDdHORSEdLEAFdLONGdSALTdSEEdSHELL
dSILKdSPEECHdTANNED LEATHERdTOOTHdTURTLEdWINDcCHOKEcCITYcCIVILIANcCLIFFcCLOTHEScCOWcDEATH
cDIVINATIONcDOGcEAT ONEdTHREEdTWOcEWEcEYEcFIREcFOOTcGHOSTcGRASS ONEdTHREEdTWOcHANDcHEAD
cHEART ONEdTWOcHORNcJ-SIMPLIFIED DRAGONdEVENdTOOTHdTURTLEcJADEcKNIFE ONEdTWOcLAME FOURdONEdTHREE
dTWOcLONG ONEdTWOcMEATcMESHcMOONcMORTARcMOTHERcMOUND ONEdTWOcNET FOURdONEdTHREEdTWOcOLDcPAW ONE
dTWOcPERSONcRAINcRAMcRAPcREPEATcSEALcSECOND ONEdTHREEdTWOcSHEEPcSILKcSIMPLIFIED HALF TREE TRUNK
dHORNdWALKdWHEATdYELLOWcSMALL ONEdTWOcSNAKEcSNOUT ONEdTWOcSPIRIT ONEdTWOcSUNcTABLEcTHREADcTIGER
cTURTLEcWALK ONEdTWOcWATER ONEdTWOcWEST ONEdTWObSTROKE BXGcDcHcHGcHPcHPWGcHXWGcHZcHZGcHZTcHZW
cHZWGcHZZcHZZPcHZZZcHZZZGcNcPcPDcPGcPZcQcScSGcSPcSTcSWcSWGcSWZcSZcSZWGcSZZcTcTNcWGcXG
aCLAMSHELL MOBILE PHONEaCLAPPER BOARDaCLAPPING HANDS SIGNaCLASSICAL BUILDINGaCLEAR SCREEN SYMBOL
aCLINKING BEER MUGSbGLASSESaCLIPBOARDaCLOCK FACE EIGHT OCLOCKcEIGHT-THIRTYcELEVEN OCLOCK
cELEVEN-THIRTYcFIVE OCLOCKcFIVE-THIRTYcFOUR OCLOCKcFOUR-THIRTYcNINE OCLOCKcNINE-THIRTY
cONE OCLOCKcONE-THIRTYcSEVEN OCLOCKcSEVEN-THIRTYcSIX OCLOCKcSIX-THIRTYcTEN OCLOCKcTEN-THIRTY
cTHREE OCLOCKcTHREE-THIRTYcTWELVE OCLOCKcTWELVE-THIRTYcTWO OCLOCKcTWO-THIRTY
aCLOCKWISE CLOSED CIRCLE ARROWbCONTOUR INTEGRALbDOWNWARDS AND UPWARDS OPEN CIRCLE ARROWS
bGAPPED CIRCLE ARROWbINTEGRALbOPEN CIRCLE ARROWbRIGHT AND LEFT SEMICIRCLE ARROWS
bRIGHTWARDS AND LEFTWARDS OPEN CIRCLE ARROWShWITH CIRCLED ONE OVERLAYbTOP SEMICIRCLE ARROW
bTRIANGLE-HEADED OPEN CIRCLE ARROWaCLOSE UPaCLOSED BOOKbINTERSECTION WITH SERIFSbLOCK WITH KEY
bMAILBOX WITH LOWERED FLAGdRAISED FLAGbSUBSETcOR EQUAL TObSUPERSETcOR EQUAL TObUMBRELLA
bUNION WITH SERIFSeAND SMASH PRODUCTaCLOUDbWITH LIGHTNINGcRAINcSNOWcTORNADOaCLOWN FACEaCOAT
aCOCKROACHaCOCKTAIL GLASSaCOCONUTaCOFFINaCOINaCOLLISION SYMBOLaCOLONbEQUALSbSIGN
aCOMBINING ACUTE ACCENTdBELOWcTONE MARKbACUTE-GRAVE-ACUTEbACUTE-MACRONbALMOST EQUAL TO ABOVE
eBELOWbANNUITY SYMBOLbANTICLOCKWISE ARROW ABOVEcRING OVERLAYbASTERISK ABOVEcBELOWbBINDU BELOW
bBREVEcBELOWbBREVE-MACRONbBRIDGE ABOVEcBELOWbCANDRABINDUbCARONcBELOWbCEDILLAbCIRCUMFLEX ACCENT
dBELOWbCLOCKWISE ARROW ABOVEcRING OVERLAYbCOMMA ABOVEdRIGHTcBELOWbCONJOINING MACRONdBELOW
bCYRILLIC DASIA PNEUMATAcHUNDRED MILLIONS SIGNdTHOUSANDS SIGNcKAVYKAcLETTER AdBEdBIG YUSdCHEdDE
dDJERVdEFdELdEMdENdERdESdES-TEdFITAdGHEdHAdHARD SIGNdIdIEdIOTIFIED AeBIG YUSeEdKAdLITTLE YUS
dMONOGRAPH UKdOdOMEGAdPEdSHAdSHCHAdSOFT SIGNdTEdTSEdUdUKRAINIAN IEdVEdYATdYERUdYIdYUdZEdZHE
cMILLIONS SIGNcPALATALIZATIONcPAYEROKcPOKRYTIEcPSILI PNEUMATAcTEN MILLIONS SIGN
cTHOUSAND MILLIONS SIGNcTITLOdLEFT HALFdRIGHT HALFcVZMETbDELETION MARKbDEVANAGARI DIGIT EIGHT
dFIVEdFOURdNINEdONEdSEVENdSIXdTHREEdTWOdZEROcLETTER AdKAdNAdPAdRAdUdVIcSIGN AVAGRAHAbDIAERESIS
cBELOWbDIAERESIS-RINGbDOT ABOVEdLEFTdRIGHTcBELOWdLEFTbDOTTED ACUTE ACCENTcGRAVE ACCENT
bDOUBLE ACUTE ACCENTcBREVEdBELOWcCIRCUMFLEX ABOVEcGRAVE ACCENTcINVERTED BREVEeBELOWcLOW LINE
cMACRONdBELOWcOPEN MARK BELOWcOVERLINEcPARENTHESES ABOVEcPLUS SIGN ABOVEeBELOW
cRIGHTWARDS ARROW BELOWcRING BELOWcTILDEdLEFT HALFdRIGHT HALFcVERTICAL LINE ABOVEeBELOW
dSTROKE OVERLAYbDOUBLED CIRCUMFLEX ACCENTbDOWN TACK BELOWbDOWNWARDS ARROWbENCLOSING CIRCLE
dBACKSLASHcDIAMONDcKEYCAPcSCREENcSQUAREcUPWARD POINTING TRIANGLEbEQUALS SIGN BELOWbFERMATA
bFOUR DOTS ABOVEbGLAGOLITIC LETTER AZUdBIG YUSdBUKYdCHRIVIdDJERVIdDOBROdFITAdFRITUdGLAGOLIdHERU
dIdINITIAL IZHEdIOTATED BIG YUSeSMALL YUSdIZHEdKAKOdLJUDIJEdMYSLITEdNASHIdONUdPOKOJIdRITSIdSHA
dSHTAdSLOVOdSMALL YUSdTSIdTVRIDOdUKUdVEDEdYATIdYERIdYERUdYESTUdYOdYUdZEMLJAdZHIVETE
bGRANTHA DIGIT FIVEdFOURdONEdSIXdTHREEdTWOdZEROcLETTER AdKAdNAdPAdVIbGRAPHEME JOINER
bGRAVE ACCENTdBELOWcTONE MARKbGRAVE-ACUTE-GRAVEbGRAVE-MACRONbGREEK DIALYTIKA TONOScKORONIS
cMUSICAL PENTASEMEdTETRASEMEdTRISEMEcPERISPOMENIcYPOGEGRAMMENIbHOMOTHETIC ABOVEbHOOK ABOVEbHORN
bINFINITYbINVERTED BREVEdBELOWcBRIDGE BELOWcDOUBLE ARCH ABOVEeBELOWbIS BELOW
bKATAKANA-HIRAGANA SEMI-VOICED SOUND MARKcVOICED SOUND MARKbKAVYKA ABOVE LEFTdRIGHT
bLATIN LETTER SMALL CAPITAL GfLfMfNfRcSMALL LETTER AfWITH DIAERESISeAEeALPHAeAOeAVeBeBETAeC
fCEDILLAeDeEeESHeETHeFeFLATTENED OPEN A ABOVEeGeHeIeINSULAR DfGfRfTeKeLfWITH DOUBLE MIDDLE TILDE
eLONG SeMeNeOfWITH DIAERESISgLIGHT CENTRALIZATION STROKEePeRfBELOWfROTUNDAeSeSCHWAeT
eTURNED W BELOWeUfWITH DIAERESISgLIGHT CENTRALIZATION STROKEeVeWfBELOWeXeZbLEFT ANGLE ABOVE
dBELOWcARROW ABOVEdBELOWcARROWHEAD ABOVEdBELOWcHALF RING ABOVEeBELOWcHARPOON ABOVE
cPARENTHESIS ABOVE LEFTdBELOW LEFTcRIGHT ARROW ABOVEeBELOWcTACK BELOWbLEFTWARDS ARROW OVERLAY
cHARPOON WITH BARB DOWNWARDSbLIGATURE LEFT HALFeBELOWcRIGHT HALFeBELOW
bLIGHT CENTRALIZATION STROKE BELOWbLONG DOUBLE SOLIDUS OVERLAYcSOLIDUS OVERLAYcSTROKE OVERLAY
cVERTICAL LINE OVERLAYbLOW LINEbMACRONcBELOWcLEFT HALFeBELOWcRIGHT HALFeBELOWbMACRON-ACUTE
bMACRON-BREVEbMACRON-GRAVEbMINUS SIGN BELOWbNOT TILDE ABOVEbNUMBER SIGN ABOVEbOGONEKcABOVE
bOLD PERMIC LETTER ANeDOIeNENOEeSIIeZATAbOPEN MARK BELOWbOVERLINEbPALATALIZED HOOK BELOW
bPARENTHESES ABOVEcBELOWcOVERLAYbPLUS SIGN ABOVEdBELOWbRETROFLEX HOOK BELOW
bREVERSE SOLIDUS OVERLAYbREVERSED COMMA ABOVEbRIGHT ARROW ABOVEdBELOWcARROWHEAD ABOVE
dAND DOWN ARROWHEAD BELOWeUP ARROWHEAD BELOWdBELOWcHALF RING ABOVEeBELOWcHARPOON ABOVE
cPARENTHESIS ABOVE RIGHTdBELOW RIGHTcTACK BELOWbRIGHTWARDS HARPOON WITH BARB DOWNWARDS
bRING ABOVEcBELOWcOVERLAYbSEAGULL BELOWbSHORT SOLIDUS OVERLAYcSTROKE OVERLAY
cVERTICAL LINE OVERLAYbSNAKE BELOWbSQUARE BELOWcBRACKETS ABOVE
bSTRONG CENTRALIZATION STROKE BELOWbSUSPENSION MARKbTHREE DOTS ABOVEbTILDEcBELOWcLEFT HALF BELOW
cOVERLAYcRIGHT HALF BELOWbTRIPLE ACUTE ACCENTcDOTcUNDERDOTbTURNED COMMA ABOVEbUP TACK ABOVE
dBELOWbUPWARDS ARROW BELOWbUR ABOVEbUS ABOVEbVERTICAL LINE ABOVEdBELOWcTILDEbWIDE BRIDGE ABOVE
cINVERTED BRIDGE BELOWbWIGGLY LINE BELOWbX ABOVEcBELOWbX-X BELOWbZIGZAG ABOVEcBELOWaCOMETaCOMMA
aCOMMERCIAL ATbMINUS SIGNaCOMPASSaCOMPLEMENTaCOMPOSITION SYMBOLaCOMPRESSIONaCONFETTI BALL
aCONFOUNDED FACEaCONFUSED FACEaCONGRUENT WITH DOT ABOVEaCONICAL TAPERaCONJUNCTION
aCONSTRUCTION SIGNbWORKERaCONTAINS AS MEMBERcNORMAL SUBGROUPeOR EQUAL TO
bWITH LONG HORIZONTAL STROKEcOVERBARcVERTICAL BAR AT END OF HORIZONTAL STROKE
aCONTINUOUS UNDERLINE SYMBOLaCONTOUR INTEGRALaCONTROL KNOBSbSEQUENCE INTRODUCER
aCONVENIENCE STOREaCOOKED RICEaCOOKIEaCOOKINGaCOPTIC CAPITAL LETTER AKHMIMIC KHEIdALFA
dBOHAIRIC KHEIdCROSSED SHEIdCRYPTOGRAMMIC EIEeGANGIAeNIeSHEIdDALDAdDEIdDIALECT-P ALEFeHORIeKAPA
eNIdEIEdFEIdFIdGAMMAdGANGIAdHATEdHORIdIAUDAdKAPAdKHEIdKHIdKSIdL-SHAPED HAdLAULAdMIdNIdO
dOLD COPTIC AINfDJAfESHfGANGIAfHAfHATfHEIfHORIfOOUfSHEIfSHIMAeNUBIAN NGIfNYIfSHIMAfWAUdOOUdPI
dPSIdROdSAMPIdSHEIdSHIMAdSIMAdSOUdTAUdTHETHEdUAdVIDAdZATAbCOMBINING NI ABOVEcSPIRITUS ASPER
dLENISbEPACT DIGIT EIGHTdFIVEdFOURdNINEdONEdSEVENdSIXdTHREEdTWOcNUMBER EIGHT HUNDREDdEIGHTY
dFIFTYdFIVE HUNDREDdFORTYdFOUR HUNDREDdNINE HUNDREDdNINETYdONE HUNDREDdSEVEN HUNDREDdSEVENTY
dSIX HUNDREDdSIXTYdTENdTHIRTYdTHREE HUNDREDdTWENTYdTWO HUNDREDcTHOUSANDS MARKbFRACTION ONE HALF
bFULL STOPbMORPHOLOGICAL DIVIDERbOLD NUBIAN DIRECT QUESTION MARKdFULL STOP
dINDIRECT QUESTION MARKdVERSE DIVIDERbSMALL LETTER AKHMIMIC KHEIdALFAdBOHAIRIC KHEIdCROSSED SHEI
dCRYPTOGRAMMIC EIEeGANGIAeNIeSHEIdDALDAdDEIdDIALECT-P ALEFeHORIeKAPAeNIdEIEdFEIdFIdGAMMAdGANGIA
dHATEdHORIdIAUDAdKAPAdKHEIdKHIdKSIdL-SHAPED HAdLAULAdMIdNIdOdOLD COPTIC AINfDJAfESHfGANGIAfHA
fHATfHEIfHORIfOOUfSHEIfSHIMAeNUBIAN NGIfNYIfSHIMAfWAUdOOUdPIdPSIdROdSAMPIdSHEIdSHIMAdSIMAdSOU
dTAUdTHETHEdUAdVIDAdZATAbSYMBOL KAIcKHI ROcMI ROcPI ROcSHIMA SIMAcSTAUROScTAU ROaCOPYLEFT SYMBOL
aCOPYRIGHT SIGNaCORALaCORNISH VERSE DIVIDERaCORRESPONDS TOaCOUCH AND LAMPaCOUNTERBORE
aCOUNTERSINKaCOUNTING ROD TENS DIGIT EIGHTeFIVEeFOUReNINEeONEeSEVENeSIXeTHREEeTWO
cUNIT DIGIT EIGHTeFIVEeFOUReNINEeONEeSEVENeSIXeTHREEeTWOaCOUPLE WITH HEARTaCOWbFACEaCRaCRAB
aCREDIT CARDaCRESCENT MOONaCRICKETbBAT AND BALLaCROCODILEaCROISSANTaCROSS MARKbOF JERUSALEM
cLORRAINEbPATTY WITH LEFT CROSSBARdRIGHT CROSSBARbPOMMEEcWITH HALF-CIRCLE BELOWaCROSSED FLAGS
bNEGATIVE SQUARED LATIN CAPITAL LETTER PbSWORDSaCROSSING LANESaCROWNaCRUTCHaCRUZEIRO SIGN
aCRYING CAT FACEbFACEaCRYSTAL BALLaCSIaCUBE ROOTaCUCUMBERaCUNEIFORM NUMERIC SIGN EIGHT ASHeDISH
eGESH2eSHAR2eUfVARIANT FORMeVARIANT FORM USSUgUSSU3dELAMITE FIFTYeFORTYeONE THIRDeTWO THIRDS
dFIVE ASHfTENUeBAN2fVARIANT FORMeBURUeDISHeGESH2eGESHUeSHAR2eSHARUeSIXTHS DISHeUfVARIANT FORM
dFOUR ASHfTENUeBAN2fVARIANT FORMeBURUeDISHeGESH2eGESHUeSHAR2eSHARUeUfVARIANT FORM
eVARIANT FORM LIMMUhAhBgLIMMU4dNIGIDAESHdNIGIDAMINdNINE ASHeDISHeGESH2eSHAR2eUfVARIANT FORM
eVARIANT FORM ILIMMUhAgILIMMU3gILIMMU4dOLD ASSYRIAN ONE QUARTERgSIXTHdONE BAN2eBURUeEIGHTH ASH
eESHE3eGESH2eGESHUeHALF GUReQUARTER ASHfGUReSHARUeTHIRD DISHfVARIANT FORM AdSEVEN ASHeDISHeGESH2
eSHAR2eUfVARIANT FORMeVARIANT FORM IMIN AhBgIMIN3dSHAR2 TIMES GAL PLUS DISHhMINdSIX ASHfTENU
eDISHeGESH2eSHAR2eUfVARIANT FORMeVARIANT FORM ASH9dTHREE ASHfTENUeBAN2eBURUfVARIANT FORMeDISH
eGESH2eGESHUeSHAR2fVARIANT FORMeSHARUfVARIANT FORMeVARIANT FORM ESH16gESH21dTWO ASHfTENUeBAN2
eBURUeESHE3eGESH2eGESHUeSHAR2eSHARUeTHIRDS DISHfVARIANT FORM AbPUNCTUATION SIGN DIAGONAL COLON
eQUADCOLONeTRICOLONdOLD ASSYRIAN WORD DIVIDERdVERTICAL COLONbSIGN AdTIMES AeBADeGAN2 TENUeHAeIGI
eLAGAR GUNUeMUSHeSAGcA2cABdGUNUdTIMES ASH2eDUN3 GUNUeGALeGAN2 TENUeHAeIGI GUNUeIMINeLAGABeNUN
fTENUeSHESHeSHU2eU PLUS U PLUS UcAB2dTIMES AeBALAGeGAN2 TENUeME PLUS ENeSHA3eTAK4cADdTIMES ESH2
cAKdTIMES ERIN2eSHITA PLUS GISHcALdTIMES ALeDIM2eGISHeHAeKAD3eKIeSHEeUSHcALANcALEPHcAMAR
dTIMES KUGeSHEcANdOVER ANdPLUS NAGA OPPOSING AN PLUS NAGAfSQUAREDdTHREE TIMEScANSHEcAPINcARAD
dTIMES KURcARKABcASAL2cASHdKABA TENUdOVER ASH OVER ASHhCROSSING ASH OVER ASH OVER ASH
fTUG2 OVER TUG2 TUG2 OVER TUG2 PAPdZIDA TENUcASH2cASHGABcBAcBADdTIMES DISH TENUcBAG3cBAHAR2
dTIMES AB2eNIeZAcBALdOVER BALcBALAGcBARcBARA2cBIdTIMES AeGAReIGI GUNUcBUdCROSSING BUdOVER BU AB
fTIMES NA2fUNcBULUGdOVER BULUGcBURcBUR2cDAdTIMES TAK4cDAGdKISIM5 TIMES A PLUS MASHfAMARfBALAGfBI
fGAgPLUS MASHfGIfGIR2fGUDfHAfIRgPLUS LUfKAKfLAfLUgPLUS MASH2fLUMfNEfPAP PLUS PAPfSIfTAK4
fU2 PLUS GIR2hMASHfUSHdTIMES KURcDAG3cDAMcDARcDARA3cDARA4cDIcDIBcDIMdTIMES IGIeSHEeU U UcDIM2
dTIMES UDcDINdKASKAL U GUNU DISHcDISHdPLUS SHUcDUdGUNUdOVER DUdSHESHIGcDUBdTIMES ESH2eSHEcDUB2
cDUGdTIMES ANSHEeASHfAT LEFTeDINeDUNeERIN2eGAeGIeGIR2 GUNUeGISHeHAeHIeIGI GUNUeKASKALeKUReKUSHU2
fPLUS KASKALeLAK-020eLAMfTIMES KUReLUH PLUS GISHeMASHeMESeMIeNIePIeSHEeSI GUNUcDUGUDcDUHcDUN
cDUN3dGUNUeGUNUcDUN4cDUR2cEdOVER E NUN OVER NUNdTIMES PAPcE2dTIMES A PLUS HA PLUS DAeGAReKUReMI
ePAPeSALeSHEeUcEDINcEGIRcELcENdCROSSING ENdOPPOSING ENdSQUAREDdTIMES GAN2fTENUeMEcERENcERIN2dX
cESH2dCROSSING ESH2cEZENdSHESHIG TIMES ASHfHIfIGI GUNUfLAfLALfMEfMESfSUdTIMES AfPLUS LAL
hTIMES LALeANeBADeDUN3 GUNUgGUNUeGUDeHAfGUNUeIGI GUNUeKASKALfSQUAREDeKU3eLAeLAL TIMES LALeLIeLU
eSHEeSUeU2eUDcGAdGUNUcGA2dOVER GA2dTIMES A PLUS DA PLUS HAgHAgIGIeAB2 TENU PLUS TABeAN
fPLUS KAK PLUS AeASHeASH2fPLUS GALeBADeBAHAR2eBAR PLUS RAeBURfPLUS RAeDAeDIeDIM GUNUfTIMES SHE
eDUBeDUG TIMES IGI GUNUgKASKALeELfPLUS LAeENfTIMES GAN2 TENUeERENeGAeGAN2 TENUeGARfPLUS DIgNEeGI
eGI4fPLUS AeGIR2 PLUS SUeHA PLUS AgLU PLUS ESH2eHALfPLUS LAeHI PLUS LIeHUB2eIGI GUNU
eISH PLUS HU PLUS ASHeKAKeKASKALeKIDfPLUS LALeKU3 PLUS ANeKUSHU2 PLUS KASKALeLAeLAMfTIMES KUR
eLUHeME PLUS ENeMIeMUSHeNEfPLUS E2gGIeNUNfOVER NUNePAeSALeSAReSHEfPLUS TUReSHIDeSHIMeSUMeTAK4eU
eUDfPLUS DUeZIZ2cGABAdCROSSING GABAdROTATED NINETY DEGREEScGADdOVER GAD GAR OVER GARcGAL
dGAD OVER GAD GAR OVER GARcGALAMcGAMcGANcGAN2dCROSSING GAN2dOVER GAN2dTENUcGARcGAR3cGASHANcGE22
cGESHTINdTIMES KUReUcGIdCROSSING GIdTIMES EeUcGI4dCROSSING GI4dOVER GI4cGIDIMcGIGcGIR2dGUNUcGIR3
dTIMES A PLUS IGIeGAN2 TENUeIGIeLU PLUS IGIePAcGISALcGISHdCROSSING GISHdTENUdTIMES BAD
eGISH CROSSING GISHeTAK4cGUdCROSSING GUcGU2dGUNUdTIMES IGI GUNUeKAKfTIMES IGI GUNUeNUN
eSAL PLUS TUG2cGUDdOVER GUD LUGALdPLUS GISH TIMES TAK4dTIMES A PLUS KUReKURcGULcGUMdTIMES SHE
cGURcGUR7cGURUNcGURUSHcHAdGUNUdTENUeGUNUcHALcHIdTIMES ASHfOVER HI TIMES ASHeASH2eBADeDISHeGAD
eKINeNUNeSHEeUcHUcHUB2dTIMES ANeHALeKASKALeLISHeUDcHUL2cHUSHcIdAcIBcIDIMdOVER IDIM BURfSQUARED
cIGcIGIdDIBdGUNUdOVER IGI SHIR OVER SHIR UD OVER UDdRIcILdTIMES GAN2 TENUcIL2cIMdCROSSING IM
dOPPOSING IMdSQUAREDdTIMES TAK4cIMINcINcIRcISHcKAdTIMES AeADfPLUS KU3eANSHEeASH2eASH3eBADeBALAG
eBAReBIeBUeERIN2eESH2eGAeGALeGAN2 TENUeGARfPLUS SHA3 PLUS AeGIeGIR2eGISHfCROSSING GISHfPLUS SAR
eGUeGUDeGUR7eHI TIMES ASH2eIGIeIMeKAeKAKeKIeKIDeLIeLUeLUMeMEfPLUS DUgGIgTEeMIfPLUS NUNUZeNEeNUN
ePAePIeRUeSAeSAReSHAeSHEeSHIDeSHUeSHULeSIGeSUHUReTAReTUeUfU UeU2eUDeUMUM TIMES PAeUReUR2eUSHeZI
cKA2dCROSSING KA2cKABcKAD2cKAD3cKAD4cKAD5dOVER KAD5cKAKdTIMES IGI GUNUcKALdCROSSING KAL
dTIMES BADcKAM2cKAM4cKAP ELAMITEcKASKALdLAGAB TIMES U OVER LAGAB TIMES U
dOVER KASKAL LAGAB TIMES U OVER LAGAB TIMES UcKESH2cKIdTIMES BADeUeUDcKIDcKINcKISALcKISHcKISIM5
dOVER KISIM5cKUdOVER HI TIMES ASH2 KU OVER HI TIMES ASH2cKU3cKU4dVARIANT FORMcKU7cKULdGUNUcKUN
cKURdOPPOSING KURcKUSHU2cKWU318cLAcLAGABdSQUAREDdTIMES AfPLUS DA PLUS HAgGARgLALeALeAN
eASH ZIDA TENUeBADeBIeDAReENeGAeGAReGIeGUDfPLUS GUDeHAeHALeHI TIMES NUNeIGI GUNUeIMfPLUS HAgLU
eKIeKINeKU3eKULfPLUS HI PLUS AeLAGABeLISHeLUeLULeMEfPLUS ENeMUSHeNEeSHE PLUS SUM
eSHITA PLUS GISH PLUS ERIN2hTENUeSHU2fPLUS SHU2eSUMeTAGeTAK4eTE PLUS A PLUS SU PLUS NAeUfPLUS A
gU PLUS UeU2 PLUS ASHeUDeUSHeZU OVER ZUcLAGARdGUNUeOVER LAGAR GUNU SHEdTIMES SHEfPLUS SUMcLAHSHU
cLAK-003cLAK-021cLAK-025cLAK-030cLAK-050cLAK-051cLAK-062cLAK-079 OVER LAK-079 GUNUcLAK-080
cLAK-081 OVER LAK-081cLAK-092cLAK-130cLAK-142cLAK-210cLAK-219cLAK-220cLAK-225cLAK-228cLAK-238
cLAK-265cLAK-266cLAK-343cLAK-347cLAK-348cLAK-383cLAK-384cLAK-390cLAK-441cLAK-449dTIMES GUeIGI
ePAP PLUS LU3gPAP PLUS LU3eU2 PLUS BAcLAK-450cLAK-457cLAK-470cLAK-483cLAK-490cLAK-492cLAK-493
cLAK-495cLAK-550cLAK-608cLAK-617dTIMES ASHeBADeDUN3 GUNU GUNUeKU3eLAeTAReTEeU2eUDeURUDAcLAK-636
cLAK-648dTIMES DUBeGAeIGIfGUNUeNIePAP PLUS PAP PLUS LU3eSHESH PLUS KIeUDeURUDAcLAK-724cLAK-749
cLALdTIMES LALcLAMdTIMES KURfPLUS RUcLIcLILcLIMMU2cLISHcLUdTIMES BADcLU2dCROSSING LU2
dGUNU TIMES ASHdOPPOSING LU2dSHESHIGeTIMES BADdSQUAREDdTENUdTIMES ALeBADeDISHeESH2fPLUS LALfTENU
eGAN2 TENUeHALeHI TIMES BADeIMeKAD2eKAD3fPLUS ASHeKIeLA PLUS ASHeLAGABeME PLUS ENeNEeNUePAP
fPLUS PAP PLUS LU3eSHUeSI PLUS ASHeSIK2 PLUS BUeTAK4eTUG2cLU3cLUGALdOPPOSING LUGALdOVER LUGAL
dSHESHIGcLUHcLULcLUMdOVER LUMfGAR OVER GARcMAdGUNUdTIMES TAK4cMA2cMAHcMARcMASHcMASH2cMEcMEScMESH
cMIdPLUS ZA7cMINcMUdOVER MUcMUGdGUNUcMUNSUBcMURGU2cMUSHdCROSSING MUSHdOVER MUSHfTIMES A PLUS NA
gGAgKAKdTIMES AeKUReZAcMUSH3dGUNUdTIMES AfPLUS DIeDIeZAcNAcNA2cNA4cNAGAdINVERTEDdOPPOSING NAGA
dTIMES SHU TENUcNAGARcNAMdNUTILLUcNAM2cNEdSHESHIGdTIMES AeUDcNIdTIMES EcNI2cNIMdTIMES GAN2 TENU
eGAR PLUS GAN2 TENUcNINcNIN9cNINDA2dTIMES ANeASHfPLUS ASHeBALeDIM GUNUeGIeGISHeGUDeGULeHIeKESH2
eLAK-050eMASHeME PLUS GAN2 TENUeNEeNUNePAP PLUS PAPeSHEfPLUS A ANgASHhPLUS ASHeUfPLUS U
eU2 PLUS ASHeURUDAeUSHcNISAGcNUcNU11dOVER NU11 BUR OVER BURdROTATED NINETY DEGREESdTENUcNUN
dCROSSING NUNfLAGAR OVER LAGARdLAGAR TIMES GARfMASHfSALgOVER NUN LAGAR TIMES SALfUSHdOVER NUN
dTENUcNUNUZdAB2 TIMES ASHGABfBIfDUGfGUDfIGI GUNUfKAD3fLAfNEfSILA3fU2dKISIM5 TIMES BIgUcPAcPAD
cPANcPAPcPESH2dASTERISKcPIdCROSSING PIdTIMES AeABeBIeBUeEeIeIBeUeU2cPIR2cPIRIGdOPPOSING PIRIG
dTIMES KALeUDeZAcRAcRABcRIcRUcSAcSAGdGUNUeTIMES HAdNUTILLUdOVER SAGdTIMES AeDUeDUBeENeHA
eIGI GUNUeKAKeKUReLUMeMIeNUNeSALeSHE AT LEFTeSHIDeTABeTAK4eU2eUBeUMeUReUSHcSALdLAGAB TIMES ASH2
cSANGA2cSARcSHAcSHA3dTIMES AeBADeGISHeNEeSHU2eTUReUfPLUS AcSHA6dTENUcSHAB6cSHAR2cSHEdHUdOVER SHE
fGAD OVER GAD GAR OVER GARfTAB OVER TAB GAR OVER GARdPLUS HUB2eNAM2eSARcSHEG9cSHENcSHESHcSHESH2
cSHESHLAMcSHIDdTIMES AeIMcSHIMdTIMES AeBALeBULUGeDINeGAReIGIfGUNUeKUSHU2eLULeMUGeSALcSHINIGcSHIR
dOVER SHIR BUR OVER BURdTENUcSHITAcSHUdOVER INVERTED SHUcSHU2dPLUS DUG TIMES NIeE2 TIMES AN
cSHUBURcSIdGUNUdTIMES TAK4cSIGcSIG4dOVER SIG4 SHU2cSIK2cSILA3cSUdOVER SUcSUDcSUD2cSUHURcSUM
cSUMASHcSURcSUR9cTAdASTERISKdGUNUdTIMES HIeMIcTABdOVER TAB NI OVER NI DISH OVER DISHdSQUAREDcTAG
dTIMES BIeGUDeSHEeSHUeTUG2eUDcTAK4dPLUS SAGcTARcTEdGUNUcTIdTENUcTI2cTILcTIRdOVER TIR
fGAD OVER GAD GAR OVER GARdTIMES TAK4cTUcTUG2cTUKcTUMdTIMES GAN2 TENUeTHREE DISHcTUR
dOVER TUR ZA OVER ZAcUdGUDdOVER U PA OVER PA GAR OVER GARfSUR OVER SUR
fU REVERSED OVER U REVERSEDdUeUcU2cUBcUDdGUNUdKUSHU2dSHESHIGeTIMES BADdTIMES BADeMI
eU PLUS U PLUS UjGUNUcUDUGcUMdTIMES LAGABeMEfPLUS DAeSHA3eUcUMBINcUMUMdTIMES KASKALePAcUNdGUNU
cURdCROSSING URdSHESHIGcUR2dINVERTEDdTIMES A PLUS HAgNAeALeHAeNUNeU2fPLUS ASHgBIeUDcUR4cURIcURI3
cURUdTIMES AeASHGABeBAReDARA3eDUNeGAeGALeGAN2 TENUeGAReGUeHAeIGIeIMeISHeKIeLAK-668eLU3eLUMeMIN
ePAeSHEeSIG4eTUeU PLUS GUDeUDeURUDAcURUDAdTIMES UcUSHdTIMES AeKUeKUReTAK4cUSH2cUSHUMXcUSHXcUTUKI
cUZ3dTIMES KASKALcUZUcZAdSQUARED TIMES KURdTENUcZA7cZAGcZAMXcZE2cZIdOVER ZIcZI3cZIBdKABA TENU
cZIGcZIZ2cZUdOVER ZU PLUS SARcZU5dTIMES AeTHREE DISH TENUcZUBURcZUMaCUP ON BLACK SQUARE
bWITH STRAWaCUPCAKEaCUPIDOaCURLING STONEaCURLY BRACKET EXTENSIONbLOGICAL ANDcORbLOOP
aCURRENCY EXCHANGEbSIGNaCURRY AND RICEaCURVED STEM PARAGRAPH SIGN ORNAMENTaCUSTARDaCUSTOMS
aCUT OF MEATaCYCLONEaCYLINDRICITYaCYPRIOT SYLLABLE AcEcIcJAcJOcKAcKEcKIcKOcKUcLAcLEcLIcLOcLUcMA
cMEcMIcMOcMUcNAcNEcNIcNOcNUcOcPAcPEcPIcPOcPUcRAcREcRIcROcRUcSAcSEcSIcSOcSUcTAcTEcTIcTOcTUcUcWA
cWEcWIcWOcXAcXEcZAcZOaCYPRO-MINOAN SIGN CM001cCM002cCM004cCM005cCM006cCM007cCM008cCM009cCM010
cCM011cCM012cCM012BcCM013cCM015cCM017cCM019cCM021cCM023cCM024cCM025cCM026cCM027cCM028cCM029
cCM030cCM033cCM034cCM035cCM036cCM037cCM038cCM039cCM040cCM041cCM044cCM046cCM047cCM049cCM050cCM051
cCM052cCM053cCM054cCM055cCM056cCM058cCM059cCM060cCM061cCM062cCM063cCM064cCM066cCM067cCM068cCM069
cCM070cCM071cCM072cCM073cCM074cCM075cCM075BcCM076cCM078cCM079cCM080cCM081cCM082cCM083cCM084
cCM085cCM086cCM087cCM088cCM089cCM090cCM091cCM092cCM094cCM095cCM096cCM097cCM098cCM099cCM100cCM101
cCM102cCM103cCM104cCM105cCM107cCM108cCM109cCM110cCM112cCM114cCM301cCM302
aCYRILLIC CAPITAL LETTER AeWITH BREVEfDIAERESISdABKHASIAN CHEfWITH DESCENDEReDZEeHAdALEUT KA
dBARRED OfWITH DIAERESISdBASHKIR KAdBEdBIG YUSdBINOCULAR OdBLENDED YUSdBROAD OMEGA
dBYELORUSSIAN-UKRAINIAN IdCCHEdCHEeWITH DESCENDERfDIAERESISfVERTICAL STROKEdCLOSED LITTLE YUS
dCROSSED OdDCHEdDEdDJEdDJERVdDOUBLE MONOCULAR OeOdDWEdDZEdDZELOdDZHEdDZWEdDZZEdDZZHEdE
eWITH DIAERESISdEFdELeWITH DESCENDERfHOOKfMIDDLE HOOKfTAILdEMeWITH TAILdENeWITH DESCENDERfHOOK
fLEFT HOOKfMIDDLE HOOKfTAILdEReWITH TICKdESeWITH DESCENDERdFITAdGHEeWITH DESCENDERfMIDDLE HOOK
fSTROKEgAND HOOKfUPTURNdGJEdHAeWITH DESCENDERfHOOKfSTROKEdHARD SIGNdHWEdIeWITH DIAERESISfGRAVE
fMACRONdIEeWITH BREVEfGRAVEdIOdIOTAdIOTIFIED AeBIG YUSeCLOSED LITTLE YUSeEeLITTLE YUSeYAT
dIZHITSAeWITH DOUBLE GRAVE ACCENTdJEdKAeWITH DESCENDERfHOOKfSTROKEfVERTICAL STROKE
dKHAKASSIAN CHEdKJEdKOMI DEeDJEeDZJEeLJEeNJEeSJEeTJEeZJEdKOPPAdKSIdLHAdLITTLE YUSdLJE
dMONOCULAR OdMONOGRAPH UKdNEUTRAL YERdNJEdOeWITH DIAERESISdOMEGAeWITH TITLOdOTdPEeWITH DESCENDER
fMIDDLE HOOKdPSIdQAdREVERSED DZEeTSEeYUeZEdRHAdROUND OMEGAdSCHWAeWITH DIAERESISdSEMISOFT SIGN
dSHAdSHCHAdSHHAeWITH DESCENDERdSHORT IfWITH TAILeUdSHWEdSOFT DEeELeEMeSIGNdSTRAIGHT U
fWITH STROKEdTCHEdTEeWITH DESCENDERfMIDDLE HOOKdTSEdTSHEdTSSEdTSWEdTWEdUeWITH DIAERESIS
fDOUBLE ACUTEfMACRONdUKdUKRAINIAN IEdVEdWEdYAdYAEdYATdYERUeWITH BACK YERfDIAERESISdYIdYNdYUdZE
eWITH DESCENDERfDIAERESISdZEMLYAdZHEeWITH BREVEfDESCENDERfDIAERESISdZHWEcLIGATURE A IEdEN GHE
dTE TSEbKAVYKAbLETTER MULTIOCULAR OcPALOCHKAcSMALL CAPITAL ELbPAYEROKbSMALL LETTER AeWITH BREVE
fDIAERESISdABKHASIAN CHEfWITH DESCENDEReDZEeHAdALEUT KAdBARRED OfWITH DIAERESISdBASHKIR KAdBE
dBIG YUSdBINOCULAR OdBLENDED YUSdBROAD OMEGAdBYELORUSSIAN-UKRAINIAN IdCCHEdCHEeWITH DESCENDER
fDIAERESISfVERTICAL STROKEdCLOSED LITTLE YUSdCROSSED OdDCHEdDEdDJEdDJERVdDOUBLE MONOCULAR OeO
dDWEdDZEdDZELOdDZHEdDZWEdDZZEdDZZHEdEeWITH DIAERESISdEFdELeWITH DESCENDERfHOOKfMIDDLE HOOKfTAIL
dEMeWITH TAILdENeWITH DESCENDERfHOOKfLEFT HOOKfMIDDLE HOOKfTAILdEReWITH TICKdESeWITH DESCENDER
dFITAdGHEeWITH DESCENDERfMIDDLE HOOKfSTROKEgAND HOOKfUPTURNdGJEdHAeWITH DESCENDERfHOOKfSTROKE
dHARD SIGNdHWEdIeWITH DIAERESISfGRAVEfMACRONdIEeWITH BREVEfGRAVEdIOdIOTAdIOTIFIED AeBIG YUS
eCLOSED LITTLE YUSeEeLITTLE YUSeYATdIZHITSAeWITH DOUBLE GRAVE ACCENTdJEdKAeWITH DESCENDERfHOOK
fSTROKEfVERTICAL STROKEdKHAKASSIAN CHEdKJEdKOMI DEeDJEeDZJEeLJEeNJEeSJEeTJEeZJEdKOPPAdKSIdLHA
dLITTLE YUSdLJEdLONG-LEGGED DEdMONOCULAR OdMONOGRAPH UKdNARROW OdNEUTRAL YERdNJEdO
eWITH DIAERESISdOMEGAeWITH TITLOdOTdPALOCHKAdPEeWITH DESCENDERfMIDDLE HOOKdPSIdQAdREVERSED DZE
eTSEeYUeZEdRHAdROUND OMEGAdROUNDED VEdSCHWAeWITH DIAERESISdSEMISOFT SIGNdSHAdSHCHAdSHHA
eWITH DESCENDERdSHORT IfWITH TAILeUdSHWEdSOFT DEeELeEMeSIGNdSTRAIGHT UfWITH STROKE
dTALL HARD SIGNeTEeYATdTCHEdTEeWITH DESCENDERfMIDDLE HOOKdTHREE-LEGGED TEdTSEdTSHEdTSSEdTSWEdTWE
dUeWITH DIAERESISfDOUBLE ACUTEfMACRONdUKdUKRAINIAN IEdUNBLENDED UKdVEdWEdWIDE ESdYAdYAEdYATdYERU
eWITH BACK YERfDIAERESISdYIdYNdYUdZEeWITH DESCENDERfDIAERESISdZEMLYAdZHEeWITH BREVEfDESCENDER
fDIAERESISdZHWEcLIGATURE A IEdEN GHEdTE TSEbTHOUSANDS SIGN"

def namesWithD : String :=
  "aDAGGERbKNIFEbWITH LEFT GUARDcRIGHT GUARDaDALET SYMBOLaDANCERaDANGOaDARK SHADEbSUNGLASSES
aDASH SYMBOLbWITH LEFT UPTURNaDASHED LOW LINEbOVERLINEbTRIANGLE-HEADED RIGHTWARDS ARROW
aDATA LINK ESCAPEaDC1aDC2aDC3aDC4aDCSaDEAF PERSONaDECIDUOUS TREEaDECIMAL EXPONENT SYMBOL
bSEPARATOR KEY SYMBOLaDECREASE FONT SIZE SYMBOLaDEERaDEGREE CELSIUSbFAHRENHEITbSIGNaDELaDELETE
aDELIVERY TRUCKaDELTA EQUAL TOaDENTISTRY SYMBOL LIGHT DOWN AND HORIZONTALgWITH CIRCLEhTRIANGLE
hWAVEdUP AND HORIZONTALgWITH CIRCLEhTRIANGLEhWAVEdVERTICAL AND BOTTOM LEFTgRIGHTfTOP LEFTgRIGHT
fWAVEeWITH CIRCLEfTRIANGLEaDEPARTMENT STOREaDERELICT HOUSE BUILDINGaDESCENDING NODE
aDESERET CAPITAL LETTER AYdBEEdCHEEdDEEdEFdELdEMdENdENGdERdESdESHdETHdEWdGAYdHdJEEdKAYdLONG AeAH
eEeIeOeOOdOIdOWdPEEdSHORT AeAHeEeIeOeOOdTEEdTHEEdVEEdWUdYEEdZEEdZHEEbSMALL LETTER AYdBEEdCHEE
dDEEdEFdELdEMdENdENGdERdESdESHdETHdEWdGAYdHdJEEdKAYdLONG AeAHeEeIeOeOOdOIdOWdPEEdSHORT AeAHeEeI
eOeOOdTEEdTHEEdVEEdWUdYEEdZEEdZHEEaDESERTbISLANDaDESKTOP COMPUTERbWINDOW
aDEVANAGARI ABBREVIATION SIGNbACUTE ACCENTbCARETbDANDAbDIGIT EIGHTcFIVEcFOURcNINEcONEcSEVENcSIX
cTHREEcTWOcZERObDOUBLE DANDAbGAP FILLERbGRAVE ACCENTbHEADSTROKEbJAIN OMbLETTER AcAAcAIcAUcAWcAY
cBAcBBAcBHAcCAcCANDRA AdEdOcCHAcDAcDDAcDDDAcDDDHAcDDHAcDHAcEcFAcGAcGGAcGHAcGHHAcGLOTTAL STOPcHA
cHEAVY YAcIcIIcJAcJHAcJJAcKAcKHAcKHHAcLAcLLAcLLLAcMAcMARWARI DDAcNAcNGAcNNAcNNNAcNYAcOcOEcOOEcPA
cPHAcQAcRAcRHAcRRAcSAcSHAcSHORT AdEdOcSSAcTAcTHAcTTAcTTHAcUcUEcUUcUUEcVAcVOCALIC LdLLdRdRRcYA
cYYAcZAcZHAbOMbSIGN ANUSVARAcAVAGRAHAcCANDRABINDUdAVAGRAHAdTHREEdTWOdVIRAMA
cDOUBLE CANDRABINDU VIRAMAcHIGH SPACING DOTcINVERTED CANDRABINDUcNUKTAcPUSHPIKAcSIDDHAM
cSPACING CANDRABINDUcVIRAMAcVISARGAbSTRESS SIGN ANUDATTAdUDATTAbVOWEL SIGN AAdAIdAUdAWdAY
dCANDRA EeLONG EeOdEdIdIIdOdOEdOOEdPRISHTHAMATRA EdSHORT EeOdUdUEdUUdUUEdVOCALIC LeLLeReRR
aDEVICE CONTROL FOURcONEcSTRINGcTHREEcTWOaDIAERESISaDIAMETER SIGNaDIAMOND OPERATOR
bSHAPE WITH A DOT INSIDEbTARGETbWITH BOTTOM HALF BLACKcLEFT HALF BLACKcRIGHT HALF BLACK
cTOP HALF BLACKaDIE FACE-1bFACE-2bFACE-3bFACE-4bFACE-5bFACE-6aDIESEL LOCOMOTIVE
aDIFFERENCE BETWEENaDIGIT EIGHTcCOMMAcFULL STOPbFIVEcCOMMAcFULL STOPbFOURcCOMMAcFULL STOPbNINE
cCOMMAcFULL STOPbONEcCOMMAcFULL STOPbSEVENcCOMMAcFULL STOPbSIXcCOMMAcFULL STOPbTHREEcCOMMA
cFULL STOPbTWOcCOMMAcFULL STOPbZEROcCOMMAcFULL STOPaDIGRAM FOR EARTHcEARTHLY HEAVENdHUMAN
cGREATER YANGdYINcHEAVENLY EARTHcHUMAN EARTHcLESSER YANGdYINaDIMENSION ORIGIN
aDINGBAT CIRCLED SANS-SERIF DIGIT EIGHTeFIVEeFOUReNINEeONEeSEVENeSIXeTHREEeTWOeZEROdNUMBER TEN
bNEGATIVE CIRCLED DIGIT EIGHTeFIVEeFOUReNINEeONEeSEVENeSIXeTHREEeTWOdNUMBER TEN
dSANS-SERIF DIGIT EIGHTfFIVEfFOURfNINEfONEfSEVENfSIXfTHREEfTWOfZEROeNUMBER TEN
aDIRECT CURRENT SYMBOL FORM TWObHITaDISABLED CARaDISAPPOINTED BUT RELIEVED FACEbFACE
aDISCONTINUOUS UNDERLINE SYMBOLaDISGUISED FACEaDITTO MARKaDIVES AKURU DIGIT EIGHTdFIVEdFOURdNINE
dONEdSEVENdSIXdTHREEdTWOdZEROcDOUBLE DANDAcEND OF TEXT MARKcGAP FILLERcINITIAL RAcLETTER AdAAdBA
dBHAdCAdCHAdDAdDDAdDDHAdDHAdEdGAdGHAdHAdIdIIdJAdKAdKHAdLAdLLAdMAdNAdNGAdNNAdNYAdOdPAdPHAdRAdSA
dSHAdSSAdTAdTHAdTTAdUdUUdVAdYAdYYAdZAcMEDIAL RAdYAcPREFIXED NASAL SIGNcSIGN ANUSVARAdCANDRABINDU
dHALANTAdNUKTAcVIRAMAcVOWEL SIGN AAeAIeEeIeIIeOeUeUUaDIVIDESaDIVING MASKaDIVISION SIGNbSLASH
bTIMESaDIVORCE SYMBOLaDIYA LAMPaDIZZY FACEbSYMBOLaDLEaDNA DOUBLE HELIXaDO NOT LITTER SYMBOL
aDOCUMENTbWITH PICTUREcTEXTdAND PICTUREaDODOaDOES NOT CONTAIN AS MEMBEReNORMAL SUBGROUPgOR EQUAL
cDIVIDEdWITH REVERSED NEGATION SLASHcFORCEcPRECEDEdOR EQUALcPROVEcSUCCEEDdOR EQUALaDOGbFACE
aDOGRA ABBREVIATION SIGNbLETTER AcAAcAIcAUcBAcBHAcCAcCHAcDAcDDAcDDHAcDHAcEcGAcGHAcHAcIcIIcJAcJHA
cKAcKHAcLAcMAcNAcNGAcNNAcNYAcOcPAcPHAcRAcRRAcSAcSHAcSSAcTAcTHAcTTAcTTHAcUcUUcVAcYAbSIGN ANUSVARA
cNUKTAcVIRAMAcVISARGAbVOWEL SIGN AAdAIdAUdEdIdIIdOdUdUUdVOCALIC ReRRaDOLLAR SIGNaDOLPHIN
aDOMINO TILE HORIZONTAL BACKcHORIZONTAL-00-00cHORIZONTAL-00-01cHORIZONTAL-00-02cHORIZONTAL-00-03
cHORIZONTAL-00-04cHORIZONTAL-00-05cHORIZONTAL-00-06cHORIZONTAL-01-00cHORIZONTAL-01-01
cHORIZONTAL-01-02cHORIZONTAL-01-03cHORIZONTAL-01-04cHORIZONTAL-01-05cHORIZONTAL-01-06
cHORIZONTAL-02-00cHORIZONTAL-02-01cHORIZONTAL-02-02cHORIZONTAL-02-03cHORIZONTAL-02-04
cHORIZONTAL-02-05cHORIZONTAL-02-06cHORIZONTAL-03-00cHORIZONTAL-03-01cHORIZONTAL-03-02
cHORIZONTAL-03-03cHORIZONTAL-03-04cHORIZONTAL-03-05cHORIZONTAL-03-06cHORIZONTAL-04-00
cHORIZONTAL-04-01cHORIZONTAL-04-02cHORIZONTAL-04-03cHORIZONTAL-04-04cHORIZONTAL-04-05
cHORIZONTAL-04-06cHORIZONTAL-05-00cHORIZONTAL-05-01cHORIZONTAL-05-02cHORIZONTAL-05-03
cHORIZONTAL-05-04cHORIZONTAL-05-05cHORIZONTAL-05-06cHORIZONTAL-06-00cHORIZONTAL-06-01
cHORIZONTAL-06-02cHORIZONTAL-06-03cHORIZONTAL-06-04cHORIZONTAL-06-05cHORIZONTAL-06-06
cVERTICAL BACKcVERTICAL-00-00cVERTICAL-00-01cVERTICAL-00-02cVERTICAL-00-03cVERTICAL-00-04
cVERTICAL-00-05cVERTICAL-00-06cVERTICAL-01-00cVERTICAL-01-01cVERTICAL-01-02cVERTICAL-01-03
cVERTICAL-01-04cVERTICAL-01-05cVERTICAL-01-06cVERTICAL-02-00cVERTICAL-02-01cVERTICAL-02-02
cVERTICAL-02-03cVERTICAL-02-04cVERTICAL-02-05cVERTICAL-02-06cVERTICAL-03-00cVERTICAL-03-01
cVERTICAL-03-02cVERTICAL-03-03cVERTICAL-03-04cVERTICAL-03-05cVERTICAL-03-06cVERTICAL-04-00
cVERTICAL-04-01cVERTICAL-04-02cVERTICAL-04-03cVERTICAL-04-04cVERTICAL-04-05cVERTICAL-04-06
cVERTICAL-05-00cVERTICAL-05-01cVERTICAL-05-02cVERTICAL-05-03cVERTICAL-05-04cVERTICAL-05-05
cVERTICAL-05-06cVERTICAL-06-00cVERTICAL-06-01cVERTICAL-06-02cVERTICAL-06-03cVERTICAL-06-04
cVERTICAL-06-05cVERTICAL-06-06aDONG SIGNaDOORaDOT ABOVEbMINUSbOPERATORbPLUSaDOTTED CIRCLEbCROSS
bFENCEbLINE FACEbOBELOSbRIGHT-POINTING ANGLEbSOLIDUSbSQUAREbTRANSPOSITION MARKER
aDOUBLE ACUTE ACCENTbCIRCLED DIGIT EIGHTdFIVEdFOURdNINEdONEdSEVENdSIXdTHREEdTWOcNUMBER TEN
bCOLON EQUALbCURLY LOOPbDAGGERbDOWN TACKbEXCLAMATION MARKbHIGH-REVERSED-9 QUOTATION MARKbHYPHEN
bINTEGRALbINTERSECTIONbLEFT ARC GREATER-THAN BRACKETbLOGICAL ANDcORbLOW LINE
bLOW-9 QUOTATION MARKbLOW-REVERSED-9 QUOTATION MARKbNESTED GREATER-THANcLESS-THANdWITH UNDERBAR
bOBLIQUE HYPHENbPLUSbPRECEDESbPRIMEcQUOTATION MARKbQUESTION MARKbRIGHT ARC LESS-THAN BRACKET
bSOLIDUS OPERATORbSQUARE INTERSECTIONcUNIONbSTACKED COMMAbSTROKE NOT SIGNbSUBSETbSUCCEEDS
bSUPERSETbSUSPENSION MARKbUNIONbUP TACKbVERTICAL BARdDOUBLE LEFT TURNSTILEeRIGHT TURNSTILE
dLEFT TURNSTILEcLINEbWAVY OVERLINEaDOUBLE-ENDED MULTIMAPaDOUBLE-LINE EQUAL TO OR GREATER-THAN
eLESS-THANbSLANTED EQUAL TO OR GREATER-THANfLESS-THANcGREATER-THAN OR EQUAL TO
cLESS-THAN OR EQUAL TOaDOUBLE-STRUCK CAPITAL CcGAMMAcHcNcPcPIcQcRcZbITALIC CAPITAL DcSMALL DdEdI
dJbN-ARY SUMMATIONbSMALL GAMMAcPIaDOUBLED FEMALE SIGNbMALE SIGNbSYMBOLaDOUGHNUTaDOVE OF PEACE
aDOWN ARROWHEADbFISH TAILbRIGHT DIAGONAL ELLIPSISbTACKcWITH CIRCLE BELOW
aDOWN-POINTING RED TRIANGLEbSMALL RED TRIANGLEbTRIANGLE WITH LEFT HALF BLACKdRIGHT HALF BLACK
aDOWNWARD FACING HOOKdWITH DOTcNOTCHED HOOKeWITH DOTaDOWNWARDS ANCORAbARROW
cAND RIGHT ONE EIGHTH BLOCKcFROM BARcLEFTWARDS OF UPWARDS ARROWcTO BARcWITH CORNER LEFTWARDS
dDOUBLE STROKEdEQUILATERAL ARROWHEADdHORIZONTAL STROKEdLARGE TRIANGLE ARROWHEAD
dMEDIUM TRIANGLE ARROWHEADdNOTCHED TAILdSMALL EQUILATERAL ARROWHEADeTRIANGLE ARROWHEAD
dTIP LEFTWARDSeRIGHTWARDSbBLACK ARROWcCIRCLED WHITE ARROWbCOMPRESSED ARROWbDASHED ARROW
bDOUBLE ARROWbFINGER-POST ARROWbHARPOON WITH BARB LEFT BESIDE DOWNWARDS HARPOON WITH BARB RIGHT
gUPWARDS HARPOON WITH BARB RIGHTfFROM BARfTO BAReLEFTWARDSeRIGHT FROM BARfTO BAReRIGHTWARDS
bHEAVY ARROWcCOMPRESSED ARROWbPAIRED ARROWSbQUADRUPLE ARROWbROCKETbSANS-SERIF ARROW
bSQUARED ARROWbTRIANGLE ARROWHEADbTRIANGLE-HEADED ARROW
dLEFTWARDS OF UPWARDS TRIANGLE-HEADED ARROWdTO BARdWITH BOLD SHAFTeDOUBLE HORIZONTAL STROKE
eHEAVY SHAFTeLONG TIP LEFTWARDSgRIGHTWARDSeMEDIUM SHAFTeNARROW SHAFTeVERY HEAVY SHAFT
cDASHED ARROWcPAIRED ARROWScZIGZAG ARROWbTRIPLE ARROWbTWO HEADED ARROW
bTWO-HEADED ARROW WITH TRIANGLE ARROWHEADSbWHITE ARROWdWITHIN TRIANGLE ARROWHEADbZIGZAG ARROW
aDRACHMA SIGNaDRAFTING POINT RIGHTWARDS ARROWaDRAGONbFACEaDRESSaDRIVE SLOW SIGNaDROMEDARY CAMEL
aDROOLING FACEaDROP OF BLOODaDROPLETaDRUM WITH DRUMSTICKSaDUCKaDUMPLING
aDUPLOYAN AFFIX ATTACHED E HOOKdI HOOKdLEFT-TO-RIGHT SECANTdSECANTdTAILdTANGENTeHOOKcHIGH ACUTE
dCIRCLEdDOTdGRAVEdLINEdLONG GRAVEdTIGHT ACUTEdVERTICALeSECANTdWAVEcLEFT HORIZONTAL SECANT
cLOW ACUTEdARROWdCIRCLEdDOTdGRAVEdLINEdLONG GRAVEdTIGHT ACUTEdVERTICALeSECANTdWAVE
cMID HORIZONTAL SECANTdVERTICAL SECANTcRIGHT HORIZONTAL SECANTbDOUBLE MARKbLETTER AcAOUcBcDdScDH
cEcEEcEUcFdNcGdR ScHcHLcIcIEcJdMeSdNeSdSeWITH DOTdWITH DOTeDOTS INSIDE AND ABOVEcKdMdR ScKKcLcLH
cLONG IdUcMdNeSdSdWITH DOTcNdMeSdSdWITH DOTcNASAL AdIdOdUcOcOAcOOHcOUcOWcPdNcPERNIN AMdANcRdScRH
cROMANIAN IdUcSdJeSdKeRdMdNdPeRdSdTeRdWITH DOTfBELOWcSHORT IcSLOAN ANdDHdEEdEHdENdJdONdOWdUcT
dR SdScTHcUdNcUHcUIcVcVOCALIC McWdRcWAcWEIcWHcWIcWOcWOWcXcXWcYEbPUNCTUATION CHINOOK FULL STOP
bSIGN O WITH CROSSbTHICK LETTER SELECTORaDVD"

def namesWithE : String :=
  "aE-MAIL SYMBOLaEAGLEaEARbOF MAIZEcRICEbWITH HEARING AIDaEARTHbGLOBE AMERICAScASIA-AUSTRALIA
cEUROPE-AFRICAbGROUNDaEAST SYRIAC CROSSaEDITORIAL CORONISaEGGaEGYPTIAN HIEROGLYPH A001cA002cA003
cA004cA005cA005AcA006cA006AcA006BcA007cA008cA009cA010cA011cA012cA013cA014cA014AcA015cA016cA017
cA017AcA018cA019cA020cA021cA022cA023cA024cA025cA026cA027cA028cA029cA030cA031cA032cA032AcA033
cA034cA035cA036cA037cA038cA039cA040cA040AcA041cA042cA042AcA043cA043AcA044cA045cA045AcA046cA047
cA048cA049cA050cA051cA052cA053cA054cA055cA056cA057cA058cA059cA060cA061cA062cA063cA064cA065cA066
cA067cA068cA069cA070cAA001cAA002cAA003cAA004cAA005cAA006cAA007cAA007AcAA007BcAA008cAA009cAA010
cAA011cAA012cAA013cAA014cAA015cAA016cAA017cAA018cAA019cAA020cAA021cAA022cAA023cAA024cAA025cAA026
cAA027cAA028cAA029cAA030cAA031cAA032cB001cB002cB003cB004cB005cB005AcB006cB007cB008cB009
cBEGIN SEGMENTcC001cC002cC002AcC002BcC002CcC003cC004cC005cC006cC007cC008cC009cC010cC010AcC011
cC012cC013cC014cC015cC016cC017cC018cC019cC020cC021cC022cC023cC024cD001cD002cD003cD004cD005cD006
cD007cD008cD008AcD009cD010cD011cD012cD013cD014cD015cD016cD017cD018cD019cD020cD021cD022cD023cD024
cD025cD026cD027cD027AcD028cD029cD030cD031cD031AcD032cD033cD034cD034AcD035cD036cD037cD038cD039
cD040cD041cD042cD043cD044cD045cD046cD046AcD047cD048cD048AcD049cD050cD050AcD050BcD050CcD050D
cD050EcD050FcD050GcD050HcD050IcD051cD052cD052AcD053cD054cD054AcD055cD056cD057cD058cD059cD060
cD061cD062cD063cD064cD065cD066cD067cD067AcD067BcD067CcD067DcD067EcD067FcD067GcD067HcE001cE002
cE003cE004cE005cE006cE007cE008cE008AcE009cE009AcE010cE011cE012cE013cE014cE015cE016cE016AcE017
cE017AcE018cE019cE020cE020AcE021cE022cE023cE024cE025cE026cE027cE028cE028AcE029cE030cE031cE032
cE033cE034cE034AcE036cE037cE038cEND SEGMENTcF001cF001AcF002cF003cF004cF005cF006cF007cF008cF009
cF010cF011cF012cF013cF013AcF014cF015cF016cF017cF018cF019cF020cF021cF021AcF022cF023cF024cF025
cF026cF027cF028cF029cF030cF031cF031AcF032cF033cF034cF035cF036cF037cF037AcF038cF038AcF039cF040
cF041cF042cF043cF044cF045cF045AcF046cF046AcF047cF047AcF048cF049cF050cF051cF051AcF051BcF051CcF052
cF053cG001cG002cG003cG004cG005cG006cG006AcG007cG007AcG007BcG008cG009cG010cG011cG011AcG012cG013
cG014cG015cG016cG017cG018cG019cG020cG020AcG021cG022cG023cG024cG025cG026cG026AcG027cG028cG029
cG030cG031cG032cG033cG034cG035cG036cG036AcG037cG037AcG038cG039cG040cG041cG042cG043cG043AcG044
cG045cG045AcG046cG047cG048cG049cG050cG051cG052cG053cG054cH001cH002cH003cH004cH005cH006cH006A
cH007cH008cHORIZONTAL JOINERcI001cI002cI003cI004cI005cI005AcI006cI007cI008cI009cI009AcI010cI010A
cI011cI011AcI012cI013cI014cI015cINSERT AT BOTTOM ENDfSTARTeTOP ENDfSTARTcK001cK002cK003cK004
cK005cK006cK007cK008cL001cL002cL002AcL003cL004cL005cL006cL006AcL007cL008cM001cM001AcM001BcM002
cM003cM003AcM004cM005cM006cM007cM008cM009cM010cM010AcM011cM012cM012AcM012BcM012CcM012DcM012E
cM012FcM012GcM012HcM013cM014cM015cM015AcM016cM016AcM017cM017AcM018cM019cM020cM021cM022cM022A
cM023cM024cM024AcM025cM026cM027cM028cM028AcM029cM030cM031cM031AcM032cM033cM033AcM033BcM034cM035
cM036cM037cM038cM039cM040cM040AcM041cM042cM043cM044cN001cN002cN003cN004cN005cN006cN007cN008cN009
cN010cN011cN012cN013cN014cN015cN016cN017cN018cN018AcN018BcN019cN020cN021cN022cN023cN024cN025
cN025AcN026cN027cN028cN029cN030cN031cN032cN033cN033AcN034cN034AcN035cN035AcN036cN037cN037AcN038
cN039cN040cN041cN042cNL001cNL002cNL003cNL004cNL005cNL005AcNL006cNL007cNL008cNL009cNL010cNL011
cNL012cNL013cNL014cNL015cNL016cNL017cNL017AcNL018cNL019cNL020cNU001cNU002cNU003cNU004cNU005
cNU006cNU007cNU008cNU009cNU010cNU010AcNU011cNU011AcNU012cNU013cNU014cNU015cNU016cNU017cNU018
cNU018AcNU019cNU020cNU021cNU022cNU022AcO001cO001AcO002cO003cO004cO005cO005AcO006cO006AcO006B
cO006CcO006DcO006EcO006FcO007cO008cO009cO010cO010AcO010BcO010CcO011cO012cO013cO014cO015cO016
cO017cO018cO019cO019AcO020cO020AcO021cO022cO023cO024cO024AcO025cO025AcO026cO027cO028cO029cO029A
cO030cO030AcO031cO032cO033cO033AcO034cO035cO036cO036AcO036BcO036CcO036DcO037cO038cO039cO040cO041
cO042cO043cO044cO045cO046cO047cO048cO049cO050cO050AcO050BcO051cOVERLAY MIDDLEcP001cP001AcP002
cP003cP003AcP004cP005cP006cP007cP008cP009cP010cP011cQ001cQ002cQ003cQ004cQ005cQ006cQ007cR001cR002
cR002AcR003cR003AcR003BcR004cR005cR006cR007cR008cR009cR010cR010AcR011cR012cR013cR014cR015cR016
cR016AcR017cR018cR019cR020cR021cR022cR023cR024cR025cR026cR027cR028cR029cS001cS002cS002AcS003
cS004cS005cS006cS006AcS007cS008cS009cS010cS011cS012cS013cS014cS014AcS014BcS015cS016cS017cS017A
cS018cS019cS020cS021cS022cS023cS024cS025cS026cS026AcS026BcS027cS028cS029cS030cS031cS032cS033
cS034cS035cS035AcS036cS037cS038cS039cS040cS041cS042cS043cS044cS045cS046cT001cT002cT003cT003A
cT004cT005cT006cT007cT007AcT008cT008AcT009cT009AcT010cT011cT011AcT012cT013cT014cT015cT016cT016A
cT017cT018cT019cT020cT021cT022cT023cT024cT025cT026cT027cT028cT029cT030cT031cT032cT032AcT033
cT033AcT034cT035cT036cU001cU002cU003cU004cU005cU006cU006AcU006BcU007cU008cU009cU010cU011cU012
cU013cU014cU015cU016cU017cU018cU019cU020cU021cU022cU023cU023AcU024cU025cU026cU027cU028cU029
cU029AcU030cU031cU032cU032AcU033cU034cU035cU036cU037cU038cU039cU040cU041cU042cV001cV001AcV001B
cV001CcV001DcV001EcV001FcV001GcV001HcV001IcV002cV002AcV003cV004cV005cV006cV007cV007AcV007BcV008
cV009cV010cV011cV011AcV011BcV011CcV012cV012AcV012BcV013cV014cV015cV016cV017cV018cV019cV020cV020A
cV020BcV020CcV020DcV020EcV020FcV020GcV020HcV020IcV020JcV020KcV020LcV021cV022cV023cV023AcV024
cV025cV026cV027cV028cV028AcV029cV029AcV030cV030AcV031cV031AcV032cV033cV033AcV034cV035cV036cV037
cV037AcV038cV039cV040cV040AcVERTICAL JOINERcW001cW002cW003cW003AcW004cW005cW006cW007cW008cW009
cW009AcW010cW010AcW011cW012cW013cW014cW014AcW015cW016cW017cW017AcW018cW018AcW019cW020cW021cW022
cW023cW024cW024AcW025cX001cX002cX003cX004cX004AcX004BcX005cX006cX006AcX007cX008cX008AcY001cY001A
cY002cY003cY004cY005cY006cY007cY008cZ001cZ002cZ002AcZ002BcZ002CcZ002DcZ003cZ003AcZ003BcZ004
cZ004AcZ005cZ005AcZ006cZ007cZ008cZ009cZ010cZ011cZ012cZ013cZ014cZ015cZ015AcZ015BcZ015CcZ015D
cZ015EcZ015FcZ015GcZ015HcZ015IcZ016cZ016AcZ016BcZ016CcZ016DcZ016EcZ016FcZ016GcZ016H
aEIGHT PETALLED OUTLINED BLACK FLORETTEbPOINTED BLACK STARcPINWHEEL STARcRECTILINEAR BLACK STAR
bSPOKED ASTERISKbTEARDROP-SPOKED PROPELLER ASTERISKaEIGHTH NOTEaEJECT SYMBOLaELBASAN LETTER AcBE
cCEcCHEcDEcDHEcEcEIcFEcGEcGHAMMAcGHEcGJEcHEcIcJEcKEcKHEcLEcLLEcMEcNAcNDEcNEcNJEcOcPEcQEcREcRRE
cSEcSHEcTEcTHEcUcVEcXEcYcZEcZHEaELECTRIC ARROWbLIGHT BULBbPLUGbTORCHaELECTRICAL INTERSECTION
aELEMENT OFcOPENING DOWNWARDSdUPWARDScWITH DOT ABOVEdLONG HORIZONTAL STROKEdOVERBAR
dTWO HORIZONTAL STROKESdUNDERBARdVERTICAL BAR AT END OF HORIZONTAL STROKEaELEPHANTaELEVATORaELF
aELYMAIC LETTER ALEPHcAYINcBETHcDALETHcGIMELcHEcHETHcKAPHcLAMEDHcMEMcNUNcPEcQOPHcRESHcSADHE
cSAMEKHcSHINcTAWcTETHcWAWcYODHcZAYINbLIGATURE ZAYIN-YODHaEM DASHbQUADbSPACEaEMOJI COMPONENT BALD
cCURLY HAIRcRED HAIRcWHITE HAIRbMODIFIER FITZPATRICK TYPE-1-2dTYPE-3dTYPE-4dTYPE-5dTYPE-6
aEMPHASIS SYMBOLaEMPTY DOCUMENTbNESTbNOTEcPADcPAGEbPAGEbPAGESbSETcWITH LEFT ARROW ABOVEdOVERBAR
dRIGHT ARROW ABOVEdSMALL CIRCLE ABOVEaEN DASHbQUADbSPACEaEND OF GUARDED AREAcLINEcMEDIUMcPROOF
cPROTECTED AREAcSELECTED AREAcTEXTcTRANSMISSIONdBLOCKbWITH LEFTWARDS ARROW ABOVEaENQaENQUIRY
aENTER SYMBOLaENVELOPEbWITH DOWNWARDS ARROW ABOVEcLIGHTNINGaEOLaEOMaEOTaEPA
aEQUAL AND PARALLEL TObTO BY DEFINITIONcOR GREATER-THANdLESS-THANdPRECEDESdSUCCEEDSaEQUALS COLON
bSIGNcABOVE LEFTWARDS ARROWdPLUS SIGNdRIGHTWARDS ARROWdTILDE OPERATORcAND SLANTED PARALLEL
fWITH TILDE ABOVEcWITH BUMPY ABOVEdDOT BELOWdINFINITY BELOWdTWO DOTS ABOVE AND TWO DOTS BELOW
bWITH ASTERISKaEQUIANGULAR TOaEQUIVALENT TObWITH FOUR DOTS ABOVEaERASE TO THE LEFTdRIGHT
aERIS FORM ONEcTWOaERROR-BARRED BLACK CIRCLEcDIAMONDcSQUAREbWHITE CIRCLEcDIAMONDcSQUAREaESAaESC
aESCAPEaESTIMATED SYMBOLaESTIMATESaETBaETHIOPIC COLONbCOMBINING GEMINATION AND VOWEL LENGTH MARK
dMARKcVOWEL LENGTH MARKbCOMMAbDIGIT EIGHTcFIVEcFOURcNINEcONEcSEVENcSIXcTHREEcTWObFULL STOP
bNUMBER EIGHTYcFIFTYcFORTYcHUNDREDcNINETYcSEVENTYcSIXTYcTENdTHOUSANDcTHIRTYcTWENTY
bPARAGRAPH SEPARATORbPREFACE COLONbQUESTION MARKbSECTION MARKbSEMICOLONbSYLLABLE BAcBAAcBBAcBBAA
cBBEcBBEEcBBIcBBOcBBUcBEcBEEcBIcBOcBOAcBUcBWAcBWEcBWEEcBWIcCAcCAAcCCAcCCAAcCCEcCCEEcCCHAcCCHAA
cCCHEcCCHEEcCCHHAcCCHHAAcCCHHEcCCHHEEcCCHHIcCCHHOcCCHHUcCCHIcCCHOcCCHUcCCIcCCOcCCUcCEcCEEcCHA
cCHAAcCHEcCHEEcCHIcCHOcCHOAcCHUcCHWAcCIcCOcCOAcCUcCWAcDAcDAAcDDAcDDAAcDDEcDDEEcDDHAAcDDHEcDDHEE
cDDHIcDDHOcDDHUcDDIcDDOcDDOAcDDUcDDWAcDEcDEEcDIcDOcDOAcDUcDWAcDZAAcDZEcDZEEcDZIcDZOcDZUcFAcFAA
cFEcFEEcFIcFOcFUcFWAcFWEcFWEEcFWIcFYAcGAcGAAcGEcGEEcGGAcGGAAcGGEcGGEEcGGIcGGOcGGUcGGWAcGGWAA
cGGWEcGGWEEcGGWIcGIcGLOTTAL AdAAdEdEEdIdOdOAdUdWAcGOcGOAcGUcGURAGE BWEEdBWIdFWEEdFWIdGWEdGWEE
dGWIdHHWAdKWEdKWEEdKWIdMWEEdMWIdPWEEdPWIdQWEdQWEEdQWIcGWAcGWAAcGWEcGWEEcGWIcGYAcGYAAcGYEcGYEE
cGYIcGYOcGYUcHAcHAAcHEcHEEcHHAcHHAAcHHEcHHEEcHHIcHHOcHHUcHHWAcHHWEcHHWEEcHHWIcHHYAcHHYAAcHHYE
cHHYEEcHHYIcHHYOcHHYUcHIcHOcHOAcHUcJAcJAAcJEcJEEcJIcJOcJOAcJUcJWAcKAcKAAcKEcKEEcKIcKOcKOAcKUcKWA
cKWAAcKWEcKWEEcKWIcKXAcKXAAcKXEcKXEEcKXIcKXOcKXUcKXWAcKXWAAcKXWEcKXWEEcKXWIcKYAcKYAAcKYEcKYEE
cKYIcKYOcKYUcLAcLAAcLEcLEEcLIcLOcLOAcLUcLWAcMAcMAAcMEcMEEcMIcMOcMOAcMUcMWAcMWEcMWEEcMWIcMYAcNA
cNAAcNEcNEEcNIcNOcNOAcNUcNWAcNYAcNYAAcNYEcNYEEcNYIcNYOcNYOAcNYUcNYWAcPAcPAAcPEcPEEcPHAcPHAA
cPHARYNGEAL AdAAdEdEEdIdOdUcPHEcPHEEcPHIcPHOcPHOAcPHUcPHWAcPIcPOcPOAcPUcPWAcPWEcPWEEcPWIcQAcQAA
cQEcQEEcQHAcQHAAcQHEcQHEEcQHIcQHOcQHUcQHWAcQHWAAcQHWEcQHWEEcQHWIcQIcQOcQOAcQUcQWAcQWAAcQWEcQWEE
cQWIcQYAcQYAAcQYEcQYEEcQYIcQYOcQYUcRAcRAAcREcREEcRIcROcROAcRUcRWAcRYAcSAcSAAcSEcSEBATBEIT BWA
dFWAdMWAdPWAcSEEcSHAcSHAAcSHEcSHEEcSHIcSHOcSHOAcSHUcSHWAcSIcSOcSOAcSSAcSSAAcSSEcSSEEcSSIcSSOcSSU
cSUcSWAcSZAcSZAAcSZEcSZEEcSZIcSZOcSZUcSZWAcTAcTAAcTEcTEEcTHAcTHAAcTHEcTHEEcTHIcTHOcTHOAcTHUcTHWA
cTIcTOcTOAcTSAcTSAAcTSEcTSEEcTSIcTSOcTSUcTSWAcTTHAAcTTHEcTTHEEcTTHIcTTHOcTTHUcTUcTWAcTZAcTZAA
cTZEcTZEEcTZIcTZOcTZOAcTZUcVAcVAAcVEcVEEcVIcVOcVUcVWAcWAcWAAcWEcWEEcWIcWOcWOAcWUcXAcXAAcXEcXEE
cXIcXOcXOAcXUcXWAcXWAAcXWEcXWEEcXWIcXYAcXYAAcXYEcXYEEcXYIcXYOcXYUcYAcYAAcYEcYEEcYIcYOcYOAcYUcZA
cZAAcZEcZEEcZHAcZHAAcZHEcZHEEcZHIcZHOcZHUcZHWAcZIcZOcZOAcZUcZWAcZZAcZZAAcZZEcZZEEcZZIcZZOcZZU
bTONAL MARK CHIRETdDERETdDERET-HIDETdDIFATdHIDETdKENATdKURTdRIKRIKdSHORT RIKRIKdYIZETbWORDSPACE
aETXaEULER CONSTANTaEURO SIGNaEURO-CURRENCY SIGNaEUROPEAN CASTLEbPOST OFFICEaEVERGREEN TREE
aEXCESSaEXCLAMATION MARKbQUESTION MARKaEXPRESSIONLESS FACEaEXTENDED ARABIC-INDIC DIGIT EIGHT
dFIVEdFOURdNINEdONEdSEVENdSIXdTHREEdTWOdZEROaEXTRATERRESTRIAL ALIEN
aEXTREMELY HEAVY FIVE SPOKED ASTERISKcGREEK CROSScSALTIREcSIX SPOKED ASTERISKcWHITE CIRCLE
dSQUAREaEYEaEYEGLASSESaEYES"

def namesWithF : String :=
  "aFACE HOLDING BACK TEARSbMASSAGEbPALMbSAVOURING DELICIOUS FOODbSCREAMING IN FEARbTHROWING A KISS
bWITH COLD SWEATcCOWBOY HATcDIAGONAL MOUTHcFINGER COVERING CLOSED LIPScHEAD-BANDAGE
cLOOK OF TRIUMPHcMEDICAL MASKcMONOCLEcNO GOOD GESTUREcOK GESTUREcONE EYEBROW RAISED
cOPEN EYES AND HAND OVER MOUTHdMOUTHeAND COLD SWEATeVOMITINGcPARTY HORN AND PARTY HAT
cPEEKING EYEcPLEADING EYEScROLLING EYEScSTUCK-OUT TONGUEeAND TIGHTLY-CLOSED EYESfWINKING EYE
cTEARS OF JOYcTHERMOMETERcUNEVEN EYES AND WAVY MOUTHbWITHOUT MOUTHaFACSIMILE SIGNaFACTORYaFAIRY
aFALAFELaFALLEN LEAFaFALLING DIAGONAL CROSSING NORTH EAST ARROWdRISING DIAGONAL
cIN WHITE CIRCLE IN BLACK SQUAREaFAMILYaFARSI SYMBOLaFATHER CHRISTMASaFAX ICONbMACHINE
aFEARFUL FACEaFEATHERaFEMALE SIGNaFEMININE ORDINAL INDICATORaFENCERaFERRIS WHEELaFERRYaFF
aFIELD HOCKEY STICK AND BALLaFIGURE DASHbSPACEaFILE CABINETbFOLDERbSEPARATORaFILM FRAMES
bPROJECTORaFINITE PART INTEGRALaFIREbENGINEbEXTINGUISHERaFIRECRACKERaFIREWORK SPARKLERaFIREWORKS
aFIRST PLACE MEDALbQUARTER MOONdSYMBOLdWITH FACEbSTRONG ISOLATEaFISHbCAKE WITH SWIRL DESIGN
aFISHEYEaFISHING POLE AND FISHaFISTED HAND SIGNaFIVE DOT MARKcPUNCTUATIONaFLAG IN HOLEaFLAMINGO
aFLAT SHOEaFLATBREADaFLATNESSaFLEUR-DE-LISaFLEXED BICEPSaFLOPPY DISKaFLORAL HEARTaFLOWER
bPLAYING CARDSbPUNCTUATION MARKaFLUSHED FACEaFLYaFLYING DISCbENVELOPEbSAUCERaFOGaFOGGYaFOLDER
aFONDUEaFOOTaFOOTPRINTSaFOR ALLaFORCESaFORK AND KNIFEdWITH PLATEaFORKED PARAGRAPHOSaFORKING
aFORM FEEDaFORTUNE COOKIEaFOUNTAINaFOUR BALLOON-SPOKED ASTERISKbCLUB-SPOKED ASTERISK
bCORNER ARROWS CIRCLING ANTICLOCKWISEbDOT MARKcPUNCTUATIONbLEAF CLOVERbPOINTED BLACK STAR
bTEARDROP-SPOKED ASTERISKaFOUR-PER-EM SPACEaFOURTH ROOTaFOX FACEaFRACTION NUMERATOR ONEbSLASH
aFRAME WITH AN XcPICTUREcTILESaFREEZING FACEaFRENCH FRANC SIGNbFRIESaFRIED SHRIMPaFROG FACE
aFRONT-FACING BABY CHICKaFRONT-TILTED SHADOWED WHITE RIGHTWARDS ARROWaFROWN
aFROWNING FACE WITH OPEN MOUTHaFSaFSIaFUEL PUMPaFULL BLOCKbMOON SYMBOLcWITH FACEbOUTER JOINbSTOP
aFULLWIDTH AMPERSANDbAPOSTROPHEbASTERISKbBROKEN BARbCENT SIGNbCIRCUMFLEX ACCENTbCOLONbCOMMA
bCOMMERCIAL ATbDIGIT EIGHTcFIVEcFOURcNINEcONEcSEVENcSIXcTHREEcTWOcZERObDOLLAR SIGNbEQUALS SIGN
bEXCLAMATION MARKbFULL STOPbGRAVE ACCENTbGREATER-THAN SIGNbHYPHEN-MINUSbLATIN CAPITAL LETTER AeB
eCeDeEeFeGeHeIeJeKeLeMeNeOePeQeReSeTeUeVeWeXeYeZcSMALL LETTER AeBeCeDeEeFeGeHeIeJeKeLeMeNeOePeQ
eReSeTeUeVeWeXeYeZbLEFT CURLY BRACKETcPARENTHESIScSQUARE BRACKETcWHITE PARENTHESIS
bLESS-THAN SIGNbLOW LINEbMACRONbNOT SIGNbNUMBER SIGNbPERCENT SIGNbPLUS SIGNbPOUND SIGN
bQUESTION MARKbQUOTATION MARKbREVERSE SOLIDUSbRIGHT CURLY BRACKETcPARENTHESIScSQUARE BRACKET
cWHITE PARENTHESISbSEMICOLONbSOLIDUSbTILDEbVERTICAL LINEbWON SIGNbYEN SIGNaFUNCTION APPLICATION
aFUNERAL URNaFUSEaFVS1aFVS2aFVS3aFVS4"

def namesWithG : String :=
  "aGAME DIEaGARLICaGEARbWITH HANDLESbWITHOUT HUBaGEM STONEaGEMINIaGENIEaGEOMETRIC PROPORTION
aGEOMETRICALLY EQUAL TObEQUIVALENT TOaGEORGIAN CAPITAL LETTER AENdANdBANdCANdCHARdCHINdCILdDON
dENdGANdGHANdHAEdHARdHEdHIEdHOEdINdJHANdJILdKANdKHARdLASdMANdNARdONdPARdPHARdQARdRAEdSANdSHIN
dTANdTARdUNdVINdWEdXANdYNdZENdZHARbLETTER AENcAINcANcBANcCANcCHARcCHINcCILcDONcELIFIcENcFIcGAN
cGHANcHAEcHARcHARD SIGNcHEcHIEcHOEcINcJHANcJILcKANcKHARcLABIAL SIGNcLAScMANcNARcONcPARcPHARcQAR
cRAEcSANcSHINcTANcTARcTURNED GANcUNcVINcWEcXANcYNcZENcZHARbMTAVRULI CAPITAL LETTER AENeAINeAN
eBANeCANeCHAReCHINeCILeDONeELIFIeENeFIeGANeGHANeHAEeHAReHARD SIGNeHEeHIEeHOEeINeJHANeJILeKAN
eKHAReLABIAL SIGNeLASeMANeNAReONePARePHAReQAReRAEeSANeSHINeTANeTAReTURNED GANeUNeVINeWEeXANeYN
eZENeZHARbPARAGRAPH SEPARATORbSMALL LETTER AENdANdBANdCANdCHARdCHINdCILdDONdENdGANdGHANdHAEdHAR
dHEdHIEdHOEdINdJHANdJILdKANdKHARdLASdMANdNARdONdPARdPHARdQARdRAEdSANdSHINdTANdTARdUNdVINdWEdXAN
dYNdZENdZHARaGERMAN PENNY SIGNaGETA MARKaGHOSTaGIMEL SYMBOLaGIRAFFE FACEaGIRLaGIRLS SYMBOL
aGLAGOLITIC CAPITAL LETTER AZUdBIG YUSdBUKYdCAUDATE CHRIVIdCHRIVIdDJERVIdDOBROdDZELOdFITAdFRITU
dGLAGOLIdHERUdIdINITIAL IZHEdIOTATED BIG YUSeSMALL YUSdIZHEdIZHITSAdKAKOdLATINATE MYSLITE
dLJUDIJEdMYSLITEdNASHIdONUdOTUdPEdPOKOJIdRITSIdSHAdSHTAdSHTAPICdSLOVOdSMALL YUSfWITH TAIL
dSPIDERY HAdTROKUTASTI AdTSIdTVRIDOdUKUdVEDEdYATIdYERIdYERUdYESTUdYOdYUdZEMLJAdZHIVETE
bSMALL LETTER AZUdBIG YUSdBUKYdCAUDATE CHRIVIdCHRIVIdDJERVIdDOBROdDZELOdFITAdFRITUdGLAGOLIdHERU
dIdINITIAL IZHEdIOTATED BIG YUSeSMALL YUSdIZHEdIZHITSAdKAKOdLATINATE MYSLITEdLJUDIJEdMYSLITE
dNASHIdONUdOTUdPEdPOKOJIdRITSIdSHAdSHTAdSHTAPICdSLOVOdSMALL YUSfWITH TAILdSPIDERY HA
dTROKUTASTI AdTSIdTVRIDOdUKUdVEDEdYATIdYERIdYERUdYESTUdYOdYUdZEMLJAdZHIVETEaGLASS OF MILK
aGLEICH STARKaGLOBE WITH MERIDIANSaGLOVESaGLOWING STARaGOAL NETaGOATaGOGGLESaGOLFERaGORILLA
aGOTHIC LETTER AHSAcAIHVUScBAIRKANcDAGScEIScFAIHUcGIBAcHAGLcHWAIRcIGGWScIUJAcJERcKUSMAcLAGUS
cMANNAcNAUTHScNINE HUNDREDcNINETYcOTHALcPAIRTHRAcQAIRTHRAcRAIDAcSAUILcTEIWScTHIUTHcURUScWINJA
aGRADUATION CAPaGRANTHA AU LENGTH MARKbLETTER AcAAcAIcAUcBAcBHAcCAcCHAcDAcDDAcDDHAcDHAcEEcGAcGHA
cHAcIcIIcJAcJHAcKAcKHAcLAcLLAcMAcNAcNGAcNNAcNYAcOOcPAcPHAcRAcSAcSHAcSSAcTAcTHAcTTAcTTHAcUcUUcVA
cVEDIC ANUSVARAdDOUBLE ANUSVARAcVOCALIC LdLLdRdRRcYAbOMbSIGN ANUSVARAcAVAGRAHAcCANDRABINDU
cCOMBINING ANUSVARA ABOVEcNUKTAcPLUTAcVIRAMAcVISARGAbVOWEL SIGN AAdAIdAUdEEdIdIIdOOdUdUU
dVOCALIC LeLLeReRRaGRAPESaGRAVE ACCENTaGREATER-THAN ABOVE DOUBLE-LINE EQUAL ABOVE LESS-THAN
cLESS-THAN ABOVE DOUBLE-LINE EQUALcRIGHTWARDS ARROWcSIMILAR ABOVE LESS-THANdOR EQUAL
cSLANTED EQUAL ABOVE LESS-THAN ABOVE SLANTED EQUALbAND NOT APPROXIMATEcSINGLE-LINE NOT EQUAL TO
bBESIDE LESS-THANbBUT NOT EQUAL TOdEQUIVALENT TObCLOSED BY CURVEeABOVE SLANTED EQUAL
bEQUAL TO OR LESS-THANbOR APPROXIMATEcEQUAL TOcEQUIVALENT TOcLESS-THANcSLANTED EQUAL TO
fWITH DOT ABOVEiLEFThINSIDEbOVER EQUAL TObOVERLAPPING LESS-THANbSIGNbWITH CIRCLE INSIDEcDOT
cQUESTION MARK ABOVEaGREEK ACROPHONIC ATTIC FIFTYeSTATERSeTALENTSeTHOUSANDfSTATERSdFIVEeHUNDRED
fSTATERSfTALENTSeSTATERSeTALENTSeTHOUSANDfTALENTSdONE DRACHMAeHALFeHUNDRED STATERSfTALENTS
eQUARTEReTHOUSAND STATERSfTALENTSdTEN MNASeSTATERSeTALENTSeTHOUSAND STATERS
cCARYSTIAN FIVE HUNDREDcCYRENAIC TWO DRACHMAScDELPHIC FIVE MNAScEPIDAUREAN FIVE HUNDREDdTWO
eDRACHMAScHERAEUM ONE PLETHRONcHERMIONIAN FIFTYdONEdTENcMESSENIAN TENcNAXIAN FIVE HUNDRED
cSTRATIAN FIFTY MNAScTHESPIAN FIFTYdFIVE HUNDREDeTHOUSANDdONEeHUNDREDeTHOUSANDdTENdTHIRTY
dTHREE HUNDREDdTWOcTROEZENIAN FIFTYeALTERNATE FORMdFIVEeHUNDREDdTENeALTERNATE FORMbANO TELEIA
bAROURA SIGNbARTABE SIGNbBETA SYMBOLbCAPITAL DOTTED LUNATE SIGMA SYMBOLcKAI SYMBOLcLETTER ALPHA
eWITH DASIAgAND OXIAiAND PROSGEGRAMMENIhPERISPOMENIiAND PROSGEGRAMMENIhPROSGEGRAMMENIhVARIA
iAND PROSGEGRAMMENIfMACRONfOXIAfPROSGEGRAMMENIfPSILIgAND OXIAiAND PROSGEGRAMMENIhPERISPOMENI
iAND PROSGEGRAMMENIhPROSGEGRAMMENIhVARIAiAND PROSGEGRAMMENIfTONOSfVARIAfVRACHYdARCHAIC SAMPI
dBETAdCHIdDELTAdEPSILONeWITH DASIAgAND OXIAhVARIAfOXIAfPSILIgAND OXIAhVARIAfTONOSfVARIAdETA
eWITH DASIAgAND OXIAiAND PROSGEGRAMMENIhPERISPOMENIiAND PROSGEGRAMMENIhPROSGEGRAMMENIhVARIA
iAND PROSGEGRAMMENIfOXIAfPROSGEGRAMMENIfPSILIgAND OXIAiAND PROSGEGRAMMENIhPERISPOMENI
iAND PROSGEGRAMMENIhPROSGEGRAMMENIhVARIAiAND PROSGEGRAMMENIfTONOSfVARIAdGAMMAdHETAdIOTA
eWITH DASIAgAND OXIAhPERISPOMENIhVARIAfDIALYTIKAfMACRONfOXIAfPSILIgAND OXIAhPERISPOMENIhVARIA
fTONOSfVARIAfVRACHYdKAPPAdLAMDAdMUdNUdOMEGAeWITH DASIAgAND OXIAiAND PROSGEGRAMMENIhPERISPOMENI
iAND PROSGEGRAMMENIhPROSGEGRAMMENIhVARIAiAND PROSGEGRAMMENIfOXIAfPROSGEGRAMMENIfPSILIgAND OXIA
iAND PROSGEGRAMMENIhPERISPOMENIiAND PROSGEGRAMMENIhPROSGEGRAMMENIhVARIAiAND PROSGEGRAMMENIfTONOS
fVARIAdOMICRONeWITH DASIAgAND OXIAhVARIAfOXIAfPSILIgAND OXIAhVARIAfTONOSfVARIA
dPAMPHYLIAN DIGAMMAdPHIdPIdPSIdRHOeWITH DASIAdSANdSHOdSIGMAdTAUdTHETAdUPSILONeWITH DASIA
gAND OXIAhPERISPOMENIhVARIAfDIALYTIKAfMACRONfOXIAfTONOSfVARIAfVRACHYdXIdYOTdZETA
cLUNATE SIGMA SYMBOLcREVERSED DOTTED LUNATE SIGMA SYMBOLdLUNATE SIGMA SYMBOLcTHETA SYMBOLbDASIA
cAND OXIAdPERISPOMENIdVARIAbDIALYTIKA AND OXIAdPERISPOMENIdVARIAcTONOSbDRACHMA SIGN
bFIVE OBOLS SIGNbFOUR OBOLS SIGNbGRAMMA SIGNbINDICTION SIGNbINSTRUMENTAL NOTATION SYMBOL-1
dSYMBOL-11dSYMBOL-12dSYMBOL-13dSYMBOL-14dSYMBOL-17dSYMBOL-18dSYMBOL-19dSYMBOL-2dSYMBOL-23
dSYMBOL-24dSYMBOL-25dSYMBOL-26dSYMBOL-27dSYMBOL-29dSYMBOL-30dSYMBOL-32dSYMBOL-36dSYMBOL-37
dSYMBOL-38dSYMBOL-39dSYMBOL-4dSYMBOL-40dSYMBOL-42dSYMBOL-43dSYMBOL-45dSYMBOL-47dSYMBOL-48
dSYMBOL-49dSYMBOL-5dSYMBOL-50dSYMBOL-51dSYMBOL-52dSYMBOL-53dSYMBOL-54dSYMBOL-7dSYMBOL-8
bKAI SYMBOLbKAPPA SYMBOLbKORONISbKYATHOS BASE SIGNbLETTER ARCHAIC KOPPAcDIGAMMAcKOPPAcSAMPI
cSMALL CAPITAL GAMMAeLAMDAeOMEGAePIePSIeRHOcSTIGMAcYOTbLITRA SIGNbLOWER NUMERAL SIGN
bLUNATE EPSILON SYMBOLcSIGMA SYMBOLbMETRETES SIGNbMUSICAL LEIMMAbNUMERAL SIGNbOBOL SIGN
bONE HALF SIGNeALTERNATE FORMcQUARTER SIGNbOUNKIA SIGNbOXIAbPERISPOMENIbPHI SYMBOLbPI SYMBOL
bPROSGEGRAMMENIbPSILIcAND OXIAdPERISPOMENIdVARIAbQUESTION MARKbREVERSED LUNATE EPSILON SYMBOL
bRHO SYMBOLcWITH STROKE SYMBOLbSINUSOID SIGNbSMALL DOTTED LUNATE SIGMA SYMBOLcLETTER ALPHA
eWITH DASIAgAND OXIAiAND YPOGEGRAMMENIhPERISPOMENIiAND YPOGEGRAMMENIhVARIAiAND YPOGEGRAMMENI
hYPOGEGRAMMENIfMACRONfOXIAgAND YPOGEGRAMMENIfPERISPOMENIgAND YPOGEGRAMMENIfPSILIgAND OXIA
iAND YPOGEGRAMMENIhPERISPOMENIiAND YPOGEGRAMMENIhVARIAiAND YPOGEGRAMMENIhYPOGEGRAMMENIfTONOS
fVARIAgAND YPOGEGRAMMENIfVRACHYfYPOGEGRAMMENIdARCHAIC KOPPAeSAMPIdBETAdCHIdDELTAdDIGAMMAdEPSILON
eWITH DASIAgAND OXIAhVARIAfOXIAfPSILIgAND OXIAhVARIAfTONOSfVARIAdETAeWITH DASIAgAND OXIA
iAND YPOGEGRAMMENIhPERISPOMENIiAND YPOGEGRAMMENIhVARIAiAND YPOGEGRAMMENIhYPOGEGRAMMENIfOXIA
gAND YPOGEGRAMMENIfPERISPOMENIgAND YPOGEGRAMMENIfPSILIgAND OXIAiAND YPOGEGRAMMENIhPERISPOMENI
iAND YPOGEGRAMMENIhVARIAiAND YPOGEGRAMMENIhYPOGEGRAMMENIfTONOSfVARIAgAND YPOGEGRAMMENI
fYPOGEGRAMMENIdFINAL SIGMAdGAMMAdHETAdIOTAeWITH DASIAgAND OXIAhPERISPOMENIhVARIAfDIALYTIKA
gAND OXIAhPERISPOMENIhTONOShVARIAfMACRONfOXIAfPERISPOMENIfPSILIgAND OXIAhPERISPOMENIhVARIAfTONOS
fVARIAfVRACHYdKAPPAdKOPPAdLAMDAdMUdNUdOMEGAeWITH DASIAgAND OXIAiAND YPOGEGRAMMENIhPERISPOMENI
iAND YPOGEGRAMMENIhVARIAiAND YPOGEGRAMMENIhYPOGEGRAMMENIfOXIAgAND YPOGEGRAMMENIfPERISPOMENI
gAND YPOGEGRAMMENIfPSILIgAND OXIAiAND YPOGEGRAMMENIhPERISPOMENIiAND YPOGEGRAMMENIhVARIA
iAND YPOGEGRAMMENIhYPOGEGRAMMENIfTONOSfVARIAgAND YPOGEGRAMMENIfYPOGEGRAMMENIdOMICRONeWITH DASIA
gAND OXIAhVARIAfOXIAfPSILIgAND OXIAhVARIAfTONOSfVARIAdPAMPHYLIAN DIGAMMAdPHIdPIdPSIdRHO
eWITH DASIAfPSILIdSAMPIdSANdSHOdSIGMAdSTIGMAdTAUdTHETAdUPSILONeWITH DASIAgAND OXIAhPERISPOMENI
hVARIAfDIALYTIKAgAND OXIAhPERISPOMENIhTONOShVARIAfMACRONfOXIAfPERISPOMENIfPSILIgAND OXIA
hPERISPOMENIhVARIAfTONOSfVARIAfVRACHYdXIdZETAcREVERSED DOTTED LUNATE SIGMA SYMBOL
dLUNATE SIGMA SYMBOLbSUBSCRIPT SMALL LETTER BETAeCHIeGAMMAePHIeRHObSYMBOL TAU RHObTALENT SIGN
bTHETA SYMBOLbTHREE OBOLS SIGNcQUARTERS SIGNbTONOSbTRYBLION BASE SIGNbTWO OBOLS SIGNcTHIRDS SIGN
bUPSILON WITH ACUTE AND HOOK SYMBOLdDIAERESIS AND HOOK SYMBOLdHOOK SYMBOLbVARIA
bVOCAL NOTATION SYMBOL-1dSYMBOL-10dSYMBOL-11dSYMBOL-12dSYMBOL-13dSYMBOL-14dSYMBOL-15dSYMBOL-16
dSYMBOL-17dSYMBOL-18dSYMBOL-19dSYMBOL-2dSYMBOL-20dSYMBOL-21dSYMBOL-22dSYMBOL-23dSYMBOL-24
dSYMBOL-3dSYMBOL-4dSYMBOL-5dSYMBOL-50dSYMBOL-51dSYMBOL-52dSYMBOL-53dSYMBOL-54dSYMBOL-6dSYMBOL-7
dSYMBOL-8dSYMBOL-9bXESTES SIGNbYEAR SIGNbYPOGEGRAMMENIbZERO SIGNaGREEN APPLEbBOOKbHEARTbSALAD
aGRIMACING FACEaGRINNING CAT FACE WITH SMILING EYESbFACEcWITH ONE LARGE AND ONE SMALL EYE
dSMILING EYESdSTAR EYESaGROUP MARKbSEPARATORaGROWING HEARTaGSaGUARANI SIGNaGUARDSMANaGUIDE DOG
aGUITARaGUJARATI ABBREVIATION SIGNbDIGIT EIGHTcFIVEcFOURcNINEcONEcSEVENcSIXcTHREEcTWOcZERO
bLETTER AcAAcAIcAUcBAcBHAcCAcCHAcDAcDDAcDDHAcDHAcEcGAcGHAcHAcIcIIcJAcJHAcKAcKHAcLAcLLAcMAcNAcNGA
cNNAcNYAcOcPAcPHAcRAcSAcSHAcSSAcTAcTHAcTTAcTTHAcUcUUcVAcVOCALIC LdLLdRdRRcYAcZHAbOMbRUPEE SIGN
bSIGN ANUSVARAcAVAGRAHAcCANDRABINDUcCIRCLE NUKTA ABOVEcMADDAHcNUKTAcSHADDAcSUKUN
cTHREE-DOT NUKTA ABOVEcTWO-CIRCLE NUKTA ABOVEcVIRAMAcVISARGAbVOWEL CANDRA EdOcSIGN AAdAIdAU
dCANDRA EeOdEdIdIIdOdUdUUdVOCALIC LeLLeReRRaGUNJALA GONDI DIGIT EIGHTdFIVEdFOURdNINEdONEdSEVEN
dSIXdTHREEdTWOdZEROcLETTER AdAAdAIdAUdBAdBHAdCAdCHAdDAdDDAdDDHAdDHAdEEdGAdGHAdHAdIdIIdJAdJHAdKA
dKHAdLAdLLAdMAdNAdNGAdOOdPAdPHAdRAdSAdTAdTHAdTTAdTTHAdUdUUdVAdYAcOMcSIGN ANUSVARAdVISARGAcVIRAMA
cVOWEL SIGN AAeAIeAUeEEeIeIIeOOeUeUUaGURMUKHI ABBREVIATION SIGNbADDAKbDIGIT EIGHTcFIVEcFOURcNINE
cONEcSEVENcSIXcTHREEcTWOcZERObEK ONKARbIRIbLETTER AcAAcAIcAUcBAcBHAcCAcCHAcDAcDDAcDDHAcDHAcEEcFA
cGAcGHAcGHHAcHAcIcIIcJAcJHAcKAcKHAcKHHAcLAcLLAcMAcNAcNGAcNNAcNYAcOOcPAcPHAcRAcRRAcSAcSHAcTAcTHA
cTTAcTTHAcUcUUcVAcYAcZAbSIGN ADAK BINDIcBINDIcNUKTAcUDAATcVIRAMAcVISARGAcYAKASHbTIPPIbURA
bVOWEL SIGN AAdAIdAUdEEdIdIIdOOdUdUU"

def namesWithH : String :=
  "aHADESaHAIR SPACEaHAIRCUTaHALFWIDTH BLACK SQUAREbDOWNWARDS ARROWbFORMS LIGHT VERTICAL
bHANGUL FILLERcLETTER AdAEdCHIEUCHdCIEUCdEdEOdEUdHIEUHdIdIEUNGdKHIEUKHdKIYEOKdKIYEOK-SIOSdMIEUM
dNIEUNdNIEUN-CIEUCdNIEUN-HIEUHdOdOEdPHIEUPHdPIEUPdPIEUP-SIOSdRIEULdRIEUL-HIEUHdRIEUL-KIYEOK
dRIEUL-MIEUMdRIEUL-PHIEUPHdRIEUL-PIEUPdRIEUL-SIOSdRIEUL-THIEUTHdSIOSdSSANGCIEUCdSSANGKIYEOK
dSSANGPIEUPdSSANGSIOSdSSANGTIKEUTdTHIEUTHdTIKEUTdUdWAdWAEdWEdWEOdWIdYAdYAEdYEdYEOdYIdYOdYU
bIDEOGRAPHIC COMMAcFULL STOPbKATAKANA LETTER AdEdHAdHEdHIdHOdHUdIdKAdKEdKIdKOdKUdMAdMEdMIdMOdMU
dNdNAdNEdNIdNOdNUdOdRAdREdRIdROdRUdSAdSEdSIdSMALL AeEeIeOeTUeUeYAeYOeYUdSOdSUdTAdTEdTIdTOdTUdU
dWAdWOdYAdYOdYUcMIDDLE DOTcSEMI-VOICED SOUND MARKcVOICED SOUND MARK
bKATAKANA-HIRAGANA PROLONGED SOUND MARKbLEFT CORNER BRACKETbLEFTWARDS ARROWbRIGHT CORNER BRACKET
bRIGHTWARDS ARROWbUPWARDS ARROWbWHITE CIRCLEaHAMBURGERaHAMMERbAND PICKcSICKLEcWRENCHaHAMSA
aHAMSTER FACEaHAND WITH INDEX AND MIDDLE FINGERS CROSSEDdFINGER AND THUMB CROSSEDaHANDBAG
aHANDBALLaHANDSHAKEaHANGUL CHOSEONG CEONGCHIEUMCHIEUCHcCEONGCHIEUMCIEUCcCEONGCHIEUMSIOS
cCEONGCHIEUMSSANGCIEUCcCEONGCHIEUMSSANGSIOScCHIEUCHcCHIEUCH-HIEUHcCHIEUCH-KHIEUKH
cCHITUEUMCHIEUCHcCHITUEUMCIEUCcCHITUEUMSIOScCHITUEUMSSANGCIEUCcCHITUEUMSSANGSIOScCIEUC
cCIEUC-IEUNGcFILLERcHIEUHcHIEUH-SIOScIEUNGcIEUNG-CHIEUCHcIEUNG-CIEUCcIEUNG-HIEUHcIEUNG-KIYEOK
cIEUNG-MIEUMcIEUNG-PANSIOScIEUNG-PHIEUPHcIEUNG-PIEUPcIEUNG-RIEULcIEUNG-SIOScIEUNG-THIEUTH
cIEUNG-TIKEUTcKAPYEOUNMIEUMcKAPYEOUNPHIEUPHcKAPYEOUNPIEUPcKAPYEOUNRIEULcKAPYEOUNSSANGPIEUP
cKHIEUKHcKIYEOKcKIYEOK-TIKEUTcMIEUMcMIEUM-KIYEOKcMIEUM-PIEUPcMIEUM-SIOScMIEUM-TIKEUTcNIEUN
cNIEUN-CIEUCcNIEUN-HIEUHcNIEUN-KIYEOKcNIEUN-PIEUPcNIEUN-SIOScNIEUN-TIKEUTcPANSIOScPHIEUPH
cPHIEUPH-HIEUHcPHIEUPH-PIEUPcPIEUPcPIEUP-CHIEUCHcPIEUP-CIEUCcPIEUP-HIEUHcPIEUP-KHIEUKH
cPIEUP-KIYEOKcPIEUP-NIEUNcPIEUP-PHIEUPHcPIEUP-SIOScPIEUP-SIOS-CIEUCcPIEUP-SIOS-KIYEOK
cPIEUP-SIOS-PIEUPcPIEUP-SIOS-THIEUTHcPIEUP-SIOS-TIKEUTcPIEUP-SSANGSIOScPIEUP-THIEUTH
cPIEUP-TIKEUTcRIEULcRIEUL-CIEUCcRIEUL-HIEUHcRIEUL-KAPYEOUNPIEUPcRIEUL-KHIEUKHcRIEUL-KIYEOK
cRIEUL-MIEUMcRIEUL-NIEUNcRIEUL-PIEUPcRIEUL-SIOScRIEUL-SSANGKIYEOKcRIEUL-SSANGPIEUP
cRIEUL-SSANGTIKEUTcRIEUL-TIKEUTcSIOScSIOS-CHIEUCHcSIOS-CIEUCcSIOS-HIEUHcSIOS-IEUNGcSIOS-KHIEUKH
cSIOS-KIYEOKcSIOS-MIEUMcSIOS-NIEUNcSIOS-PHIEUPHcSIOS-PIEUPcSIOS-PIEUP-KIYEOKcSIOS-RIEUL
cSIOS-SSANGSIOScSIOS-THIEUTHcSIOS-TIKEUTcSSANGCIEUCcSSANGCIEUC-HIEUHcSSANGHIEUHcSSANGIEUNG
cSSANGKIYEOKcSSANGNIEUNcSSANGPIEUPcSSANGRIEULcSSANGSIOScSSANGSIOS-PIEUPcSSANGTHIEUTHcSSANGTIKEUT
cSSANGYEORINHIEUHcTHIEUTHcTIKEUTcTIKEUT-CIEUCcTIKEUT-KIYEOKcTIKEUT-MIEUMcTIKEUT-PIEUP
cTIKEUT-RIEULcTIKEUT-SIOScYEORINHIEUHcYESIEUNGbDOUBLE DOT TONE MARKbFILLERbJONGSEONG CHIEUCH
cCIEUCcCIEUC-PIEUPcCIEUC-SSANGPIEUPcHIEUHcHIEUH-MIEUMcHIEUH-NIEUNcHIEUH-PIEUPcHIEUH-RIEULcIEUNG
cIEUNG-KHIEUKHcIEUNG-KIYEOKcIEUNG-SSANGKIYEOKcKAPYEOUNMIEUMcKAPYEOUNPHIEUPHcKAPYEOUNPIEUP
cKAPYEOUNRIEULcKHIEUKHcKIYEOKcKIYEOK-CHIEUCHcKIYEOK-HIEUHcKIYEOK-KHIEUKHcKIYEOK-NIEUN
cKIYEOK-PIEUPcKIYEOK-RIEULcKIYEOK-SIOScKIYEOK-SIOS-KIYEOKcMIEUMcMIEUM-CHIEUCHcMIEUM-CIEUC
cMIEUM-HIEUHcMIEUM-KIYEOKcMIEUM-NIEUNcMIEUM-PANSIOScMIEUM-PIEUPcMIEUM-PIEUP-SIOScMIEUM-RIEUL
cMIEUM-SIOScMIEUM-SSANGNIEUNcMIEUM-SSANGSIOScNIEUNcNIEUN-CHIEUCHcNIEUN-CIEUCcNIEUN-HIEUH
cNIEUN-KIYEOKcNIEUN-PANSIOScNIEUN-RIEULcNIEUN-SIOScNIEUN-THIEUTHcNIEUN-TIKEUTcPANSIOS
cPANSIOS-KAPYEOUNPIEUPcPANSIOS-PIEUPcPHIEUPHcPHIEUPH-PIEUPcPHIEUPH-SIOScPHIEUPH-THIEUTHcPIEUP
cPIEUP-CHIEUCHcPIEUP-CIEUCcPIEUP-HIEUHcPIEUP-MIEUMcPIEUP-PHIEUPHcPIEUP-RIEULcPIEUP-RIEUL-PHIEUPH
cPIEUP-SIOScPIEUP-SIOS-TIKEUTcPIEUP-TIKEUTcRIEULcRIEUL-HIEUHcRIEUL-KAPYEOUNPIEUPcRIEUL-KHIEUKH
cRIEUL-KIYEOKcRIEUL-KIYEOK-HIEUHcRIEUL-KIYEOK-SIOScRIEUL-MIEUMcRIEUL-MIEUM-HIEUH
cRIEUL-MIEUM-KIYEOKcRIEUL-MIEUM-SIOScRIEUL-NIEUNcRIEUL-PANSIOScRIEUL-PHIEUPHcRIEUL-PIEUP
cRIEUL-PIEUP-HIEUHcRIEUL-PIEUP-PHIEUPHcRIEUL-PIEUP-SIOScRIEUL-PIEUP-TIKEUTcRIEUL-SIOS
cRIEUL-SSANGKIYEOKcRIEUL-SSANGSIOScRIEUL-THIEUTHcRIEUL-TIKEUTcRIEUL-TIKEUT-HIEUH
cRIEUL-YEORINHIEUHcRIEUL-YEORINHIEUH-HIEUHcRIEUL-YESIEUNGcSIOScSIOS-CHIEUCHcSIOS-CIEUC
cSIOS-HIEUHcSIOS-KAPYEOUNPIEUPcSIOS-KIYEOKcSIOS-MIEUMcSIOS-PANSIOScSIOS-PIEUPcSIOS-RIEUL
cSIOS-THIEUTHcSIOS-TIKEUTcSSANGCIEUCcSSANGIEUNGcSSANGKIYEOKcSSANGMIEUMcSSANGNIEUNcSSANGPIEUP
cSSANGRIEULcSSANGRIEUL-KHIEUKHcSSANGSIOScSSANGSIOS-KIYEOKcSSANGSIOS-TIKEUTcSSANGTIKEUT
cSSANGTIKEUT-PIEUPcSSANGYESIEUNGcTHIEUTHcTIKEUTcTIKEUT-CHIEUCHcTIKEUT-CIEUCcTIKEUT-KIYEOK
cTIKEUT-PIEUPcTIKEUT-RIEULcTIKEUT-SIOScTIKEUT-SIOS-KIYEOKcTIKEUT-THIEUTHcYEORINHIEUHcYESIEUNG
cYESIEUNG-HIEUHcYESIEUNG-KHIEUKHcYESIEUNG-KIYEOKcYESIEUNG-MIEUMcYESIEUNG-PANSIOScYESIEUNG-SIOS
cYESIEUNG-SSANGKIYEOKbJUNGSEONG AcA-EUcA-OcA-UcAEcARAEAcARAEA-AcARAEA-EcARAEA-EOcARAEA-IcARAEA-U
cEcEOcEO-EUcEO-OcEO-UcEUcEU-AcEU-EcEU-EOcEU-EUcEU-OcEU-UcFILLERcIcI-AcI-ARAEAcI-EUcI-IcI-OcI-O-I
cI-UcI-YAcI-YA-OcI-YAEcI-YEcI-YEOcI-YOcI-YUcOcO-EcO-EOcO-OcO-O-IcO-UcO-YAcO-YAEcO-YEcO-YEOcOE
cSSANGARAEAcUcU-AcU-AEcU-EO-EUcU-I-IcU-UcU-YEcU-YEOcWAcWAEcWEcWEOcWIcYAcYA-OcYA-UcYA-YOcYAEcYE
cYEOcYEO-OcYEO-UcYEO-YAcYIcYI-UcYOcYO-AcYO-AEcYO-EOcYO-IcYO-OcYO-YAcYO-YAEcYO-YEOcYUcYU-AcYU-AE
cYU-EcYU-EOcYU-IcYU-OcYU-UcYU-YEcYU-YEObLETTER AcAEcARAEAcARAEAEcCHIEUCHcCIEUCcEcEOcEUcHIEUHcI
cIEUNGcKAPYEOUNMIEUMcKAPYEOUNPHIEUPHcKAPYEOUNPIEUPcKAPYEOUNSSANGPIEUPcKHIEUKHcKIYEOKcKIYEOK-SIOS
cMIEUMcMIEUM-PANSIOScMIEUM-PIEUPcMIEUM-SIOScNIEUNcNIEUN-CIEUCcNIEUN-HIEUHcNIEUN-PANSIOS
cNIEUN-SIOScNIEUN-TIKEUTcOcOEcPANSIOScPHIEUPHcPIEUPcPIEUP-CIEUCcPIEUP-KIYEOKcPIEUP-SIOS
cPIEUP-SIOS-KIYEOKcPIEUP-SIOS-TIKEUTcPIEUP-THIEUTHcPIEUP-TIKEUTcRIEULcRIEUL-HIEUHcRIEUL-KIYEOK
cRIEUL-KIYEOK-SIOScRIEUL-MIEUMcRIEUL-PANSIOScRIEUL-PHIEUPHcRIEUL-PIEUPcRIEUL-PIEUP-SIOS
cRIEUL-SIOScRIEUL-THIEUTHcRIEUL-TIKEUTcRIEUL-YEORINHIEUHcSIOScSIOS-CIEUCcSIOS-KIYEOKcSIOS-NIEUN
cSIOS-PIEUPcSIOS-TIKEUTcSSANGCIEUCcSSANGHIEUHcSSANGIEUNGcSSANGKIYEOKcSSANGNIEUNcSSANGPIEUP
cSSANGSIOScSSANGTIKEUTcTHIEUTHcTIKEUTcUcWAcWAEcWEcWEOcWIcYAcYAEcYEcYEOcYEORINHIEUHcYESIEUNG
cYESIEUNG-PANSIOScYESIEUNG-SIOScYIcYOcYO-IcYO-YAcYO-YAEcYUcYU-IcYU-YEcYU-YEO
bSINGLE DOT TONE MARKaHANGZHOU NUMERAL EIGHTcFIVEcFOURcNINEcONEcSEVENcSIXcTENcTHIRTYcTHREE
cTWENTYcTWOaHANIFI ROHINGYA DIGIT EIGHTdFIVEdFOURdNINEdONEdSEVENdSIXdTHREEdTWOdZEROcLETTER AdBA
dCAdDAdDDAdFAdGAdHAdJAdKAdKHAdKINNA WAeYAdLAdMAdNAdNGAdNYAdPAdRAdRRAdSAdSHAdTAdTTAdVAdWAdYAdZA
cMARK NA KHONNAdSAKINcSIGN HARBAHAYdTAHALAdTANAdTASSIcVOWEL AdEdIdOdUaHANUNOO LETTER AcBAcDAcGA
cHAcIcKAcLAcMAcNAcNGAcPAcRAcSAcTAcUcWAcYAbSIGN PAMUDPODbVOWEL SIGN IdU
aHAPPY PERSON RAISING ONE HANDaHARD DISKaHATCHING CHICKaHATRAN LETTER ALEPHcAYNcBETHcDALETH-RESH
cGIMELcHEcHETHcKAPHcLAMEDHcMEMcNUNcPEcQOPHcSADHEcSAMEKHcSHINcTAWcTETHcWAWcYODHcZAYNbNUMBER FIVE
cONEdHUNDREDcTENcTWENTYaHEADPHONEaHEADSTONEbGRAVEYARD SYMBOLaHEAR-NO-EVIL MONKEY
aHEART DECORATIONbHANDSbWITH ARROWcRIBBONcTIP ON THE LEFTaHEAVY AMPERSAND ORNAMENT
bARROW SHAFT WIDTH ONEfHALFfTHIRDeTWO THIRDSbASTERISKbBALLOT X
bBLACK CURVED DOWNWARDS AND RIGHTWARDS ARROWdUPWARDS AND RIGHTWARDS ARROWcHEART
bBLACK-FEATHERED NORTH EAST ARROWcRIGHTWARDS ARROWcSOUTH EAST ARROWbCHECK MARKbCHEVRON SNOWFLAKE
bCIRCLEcWITH CIRCLE INSIDEdSTROKE AND TWO DOTS ABOVEbCIRCLED SALTIRE
bCONCAVE-POINTED BLACK RIGHTWARDS ARROWbDASHED TRIANGLE-HEADED RIGHTWARDS ARROWbDIVISION SIGN
bDOLLAR SIGNbDOUBLE COMMA QUOTATION MARK ORNAMENTcTURNED COMMA QUOTATION MARK ORNAMENT
bDOWNWARDS ARROW WITH EQUILATERAL ARROWHEADeLARGE EQUILATERAL ARROWHEADbEIGHT POINTED BLACK STAR
dPINWHEEL STARdRECTILINEAR BLACK STARcSPOKED ASTERISKcTEARDROP-SPOKED PROPELLER ASTERISK
bEQUALS SIGNbEXCLAMATION MARK ORNAMENTdSYMBOLbFIVE POINTED BLACK STARcSPOKED ASTERISK
bFOUR BALLOON-SPOKED ASTERISKbGREEK CROSSbHEART EXCLAMATION MARK ORNAMENTbHORIZONTAL FILL
bINTERROBANG ORNAMENTbLARGE CIRCLEbLATIN CROSSbLEFT-POINTING ANGLE BRACKET ORNAMENT
dQUOTATION MARK ORNAMENTbLEFTWARDS ARROW WITH EQUILATERAL ARROWHEADeLARGE EQUILATERAL ARROWHEAD
bLIGATURE OPEN ET ORNAMENTbLOW DOUBLE COMMA QUOTATION MARK ORNAMENT
cSINGLE COMMA QUOTATION MARK ORNAMENTbLOWER RIGHT-SHADOWED WHITE RIGHTWARDS ARROWbMINUS SIGN
bMULTIPLICATION XbNORTH EAST ARROWdPOINTING BUDeVINE LEAFcWEST POINTING BUDeVINE LEAF
bOPEN CENTRE CROSSbOUTLINED BLACK STARbOVAL WITH OVAL INSIDEbPLUS SIGN
bRIGHT-POINTING ANGLE BRACKET ORNAMENTdQUOTATION MARK ORNAMENTbRIGHTWARDS ARROW
dWITH EQUILATERAL ARROWHEADeLARGE EQUILATERAL ARROWHEADbROUND-TIPPED RIGHTWARDS ARROWbSALTIRE
bSANS-SERIF INTERROBANG ORNAMENTbSCRIPT LIGATURE ET ORNAMENT
bSINGLE COMMA QUOTATION MARK ORNAMENTcTURNED COMMA QUOTATION MARK ORNAMENT
bSIX POINTED BLACK STARcSPOKED ASTERISKbSOUTH EAST ARROWdPOINTING BUDeVINE LEAF
cWEST POINTING BUDeVINE LEAFbSPARKLEbTEARDROP-SHANKED RIGHTWARDS ARROWbTEARDROP-SPOKED ASTERISK
cPINWHEEL ASTERISKbTRIANGLE-HEADED RIGHTWARDS ARROWbTWELVE POINTED BLACK STARdPINWHEEL STAR
bUPPER RIGHT-SHADOWED WHITE RIGHTWARDS ARROWbUPWARDS ARROW WITH EQUILATERAL ARROWHEAD
eLARGE EQUILATERAL ARROWHEADbVERTICAL BARbWEDGE-TAILED RIGHTWARDS ARROWbWHITE CIRCLE
cDOWN-POINTING TRIANGLEcSQUAREbWIDE-HEADED RIGHTWARDS ARROWaHEBREW ACCENT ATNAH HAFUKHcDARGA
cDEHIcETNAHTAcGERESHdMUQDAMcGERSHAYIMcILUYcMAHAPAKHcMERKHAdKEFULAcMUNAHcOLEcPASHTAcPAZERcQADMA
cQARNEY PARAcREVIAcSEGOLcSHALSHELETcTELISHA GEDOLAdQETANAcTEVIRcTIPEHAcYERAH BEN YOMOcYETIV
cZAQEF GADOLdQATANcZARQAcZINORbLETTER ALEFdWITH MAPIQePATAHeQAMATScALTERNATIVE AYINdPLUS SIGN
cAYINcBETdWITH DAGESHeRAFEcDALETdWITH DAGESHcFINAL KAFeWITH DAGESHdMEMdNUNdPEeWITH DAGESHdTSADI
cGIMELdWITH DAGESHcHEdWITH MAPIQcHETcKAFdWITH DAGESHeRAFEcLAMEDdWITH DAGESHcMEMdWITH DAGESHcNUN
dWITH DAGESHcPEdWITH DAGESHeRAFEcQOFdWITH DAGESHcRESHdWITH DAGESHcSAMEKHdWITH DAGESHcSHIN
dWITH DAGESHfAND SHIN DOTgSIN DOTeSHIN DOTeSIN DOTcTAVdWITH DAGESHcTETdWITH DAGESHcTSADI
dWITH DAGESHcVAVdWITH DAGESHeHOLAMcWIDE ALEFdDALETdFINAL MEMdHEdKAFdLAMEDdRESHdTAVcYOD
dWITH DAGESHeHIRIQcZAYINdWITH DAGESHbLIGATURE ALEF LAMEDcYIDDISH DOUBLE VAVeYODdVAV YOD
dYOD YOD PATAHbMARK LOWER DOTcMASORA CIRCLEcUPPER DOTbPOINT DAGESH OR MAPIQcHATAF PATAHdQAMATS
dSEGOLcHIRIQcHOLAMdHASER FOR VAVcJUDEO-SPANISH VARIKAcMETEGcPATAHcQAMATSdQATANcQUBUTScRAFEcSEGOL
cSHEVAcSHIN DOTcSIN DOTcTSEREbPUNCTUATION GERESHcGERSHAYIMcMAQAFcNUN HAFUKHAcPASEQcSOF PASUQ
bYOD TRIANGLEaHEDGEHOGaHELICOPTERaHELLSCHREIBER PAUSE SYMBOLaHELM SYMBOLaHELMET WITH WHITE CROSS
aHENTAIGANA LETTER A-1cA-2cA-3cA-WOcE-1cE-2cE-3cE-4cE-5cE-6cHA-1cHA-10cHA-11cHA-2cHA-3cHA-4cHA-5
cHA-6cHA-7cHA-8cHA-9cHE-1cHE-2cHE-3cHE-4cHE-5cHE-6cHE-7cHI-1cHI-2cHI-3cHI-4cHI-5cHI-6cHI-7cHO-1
cHO-2cHO-3cHO-4cHO-5cHO-6cHO-7cHO-8cHU-1cHU-2cHU-3cI-1cI-2cI-3cI-4cKA-1cKA-10cKA-11cKA-2cKA-3
cKA-4cKA-5cKA-6cKA-7cKA-8cKA-9cKA-KEcKE-1cKE-2cKE-3cKE-4cKE-5cKE-6cKI-1cKI-2cKI-3cKI-4cKI-5cKI-6
cKI-7cKI-8cKO-1cKO-2cKO-3cKO-KIcKU-1cKU-2cKU-3cKU-4cKU-5cKU-6cKU-7cMA-1cMA-2cMA-3cMA-4cMA-5cMA-6
cMA-7cME-1cME-2cME-MAcMI-1cMI-2cMI-3cMI-4cMI-5cMI-6cMI-7cMO-1cMO-2cMO-3cMO-4cMO-5cMO-6cMU-1cMU-2
cMU-3cMU-4cN-MU-MO-1cN-MU-MO-2cNA-1cNA-2cNA-3cNA-4cNA-5cNA-6cNA-7cNA-8cNA-9cNE-1cNE-2cNE-3cNE-4
cNE-5cNE-6cNE-KOcNI-1cNI-2cNI-3cNI-4cNI-5cNI-6cNI-7cNI-TEcNO-1cNO-2cNO-3cNO-4cNO-5cNU-1cNU-2
cNU-3cO-1cO-2cO-3cRA-1cRA-2cRA-3cRA-4cRE-1cRE-2cRE-3cRE-4cRI-1cRI-2cRI-3cRI-4cRI-5cRI-6cRI-7
cRO-1cRO-2cRO-3cRO-4cRO-5cRO-6cRU-1cRU-2cRU-3cRU-4cRU-5cRU-6cSA-1cSA-2cSA-3cSA-4cSA-5cSA-6cSA-7
cSA-8cSE-1cSE-2cSE-3cSE-4cSE-5cSI-1cSI-2cSI-3cSI-4cSI-5cSI-6cSO-1cSO-2cSO-3cSO-4cSO-5cSO-6cSO-7
cSU-1cSU-2cSU-3cSU-4cSU-5cSU-6cSU-7cSU-8cTA-1cTA-2cTA-3cTA-4cTE-1cTE-2cTE-3cTE-4cTE-5cTE-6cTE-7
cTE-8cTE-9cTI-1cTI-2cTI-3cTI-4cTI-5cTI-6cTI-7cTO-1cTO-2cTO-3cTO-4cTO-5cTO-6cTO-RAcTU-1cTU-2cTU-3
cTU-4cTU-TOcU-1cU-2cU-3cU-4cU-5cWA-1cWA-2cWA-3cWA-4cWA-5cWE-1cWE-2cWE-3cWE-4cWI-1cWI-2cWI-3cWI-4
cWI-5cWO-1cWO-2cWO-3cWO-4cWO-5cWO-6cWO-7cYA-1cYA-2cYA-3cYA-4cYA-5cYA-YOcYO-1cYO-2cYO-3cYO-4cYO-5
cYO-6cYU-1cYU-2cYU-3cYU-4aHERBaHERMITIAN CONJUGATE MATRIXaHEXAGRAM FOR ABUNDANCE
cAFTER COMPLETIONcAPPROACHcBEFORE COMPLETIONcBITING THROUGHcBREAKTHROUGHcCOMING TO MEETcCONFLICT
cCONTEMPLATIONcDARKENING OF THE LIGHTcDECREASEcDELIVERANCEcDEVELOPMENT
cDIFFICULTY AT THE BEGINNINGcDISPERSIONcDURATIONcENTHUSIASMcFELLOWSHIPcFOLLOWING
cGATHERING TOGETHERcGRACEcGREAT POSSESSIONdPOWERdPREPONDERANCEdTAMINGcHOLDING TOGETHERcINCREASE
cINFLUENCEcINNER TRUTHcINNOCENCEcLIMITATIONcMODESTYcMOUTH CORNERScOBSTRUCTIONcOPPOSITION
cOPPRESSIONcPEACEcPROGRESScPUSHING UPWARDcRETREATcRETURNcREVOLUTIONcSMALL PREPONDERANCEdTAMING
cSPLITTING APARTcSTANDSTILLcTHE ABYSMAL WATERdARMYdAROUSING THUNDERdCAULDRONdCLINGING FIRE
dCREATIVE HEAVENdFAMILYdGENTLE WINDdJOYOUS LAKEdKEEPING STILL MOUNTAINdMARRYING MAIDEN
dRECEPTIVE EARTHdWANDERERdWELLcTREADINGcWAITINGcWORK ON THE DECAYEDcYOUTHFUL FOLLYaHIBISCUS
aHIGH BRIGHTNESS SYMBOLbOCTET PRESETbVOLTAGE SIGNaHIGH-HEELED SHOEaHIGH-SPEED TRAIN
cWITH BULLET NOSEaHIKING BOOTaHINDU TEMPLEaHIPPOPOTAMUSaHIRAGANA DIGRAPH YORIbITERATION MARK
bLETTER AcARCHAIC WUdYEcBAcBEcBIcBOcBUcDAcDEcDIcDOcDUcEcGAcGEcGIcGOcGUcHAcHEcHIcHOcHUcIcKAcKEcKI
cKOcKUcMAcMEcMIcMOcMUcNcNAcNEcNIcNOcNUcOcPAcPEcPIcPOcPUcRAcREcRIcROcRUcSAcSEcSIcSMALL AdEdIdKA
dKEdOdTUdUdWAdWEdWIdWOdYAdYOdYUcSOcSUcTAcTEcTIcTOcTUcUcVUcWAcWEcWIcWOcYAcYOcYUcZAcZEcZIcZOcZU
bVOICED ITERATION MARKaHISTORIC SITEaHOCHOaHOLEaHOLLOW QUILT SQUARE ORNAMENTeIN BLACK SQUARE
aHOMOTHETICaHONEY POTaHONEYBEEaHOOKaHOPaHORIZONTAL BARbBLACK HEXAGONcOCTAGONbELLIPSIS
bLINE EXTENSIONbMALE WITH STROKE SIGNbONE EIGHTH BLOCK-1358dBLOCK-2dBLOCK-3dBLOCK-4dBLOCK-5
dBLOCK-6dBLOCK-7bSCAN LINE-1cLINE-3cLINE-7cLINE-9bTAB KEYbTABULATIONcSETcWITH JUSTIFICATION
bTRAFFIC LIGHTaHORSEbFACEbRACINGaHOSPITALaHOT BEVERAGEbDOGbPEPPERbSPRINGSaHOTELaHOURGLASS
bWITH FLOWING SANDaHOUSEbBUILDINGbBUILDINGSbWITH GARDENaHRYVNIA SIGNaHTaHTJaHTSaHUGGING FACE
aHUNDRED POINTS SYMBOLaHUSHED FACEaHUTaHYGIEAaHYPHENbBULLETbWITH DIAERESISaHYPHEN-MINUS
aHYPHENATION POINTaHYPODIASTOLEaHYSTERESIS SYMBOL"

def namesWithI : String :=
  "aI LOVE YOU HAND SIGNaICE CREAMbCUBEbHOCKEY STICK AND PUCKbSKATEaIDENTICAL TO
cAND SLANTED PARALLELbWITH DOT ABOVEaIDENTIFICATION CARDaIDEOGRAPHIC ANNOTATION BOTTOM MARK
cEARTH MARKcFIRST MARKcFOUR MARKcFOURTH MARKcHEAVEN MARKcLINKING MARKcMAN MARKcMIDDLE MARK
cONE MARKcREVERSE MARKcSECOND MARKcTHIRD MARKcTHREE MARKcTOP MARKcTWO MARKbCLOSING MARKbCOMMA
bDEPARTING TONE MARKbDESCRIPTION CHARACTER ABOVE TO BELOWfMIDDLE AND BELOWdFULL SURROUND
dLEFT TO MIDDLE AND RIGHTfRIGHTdOVERLAIDdSURROUND FROM ABOVEfBELOWfLEFTfLOWER LEFTfUPPER LEFT
gRIGHTbENTERING TONE MARKbFULL STOPbHALF FILL SPACEbITERATION MARKbLEVEL TONE MARKbNUMBER ZERO
bRISING TONE MARKbSPACEbTALLY MARK FIVEdFOURdONEdTHREEdTWObTELEGRAPH LINE FEED SEPARATOR SYMBOL
cSYMBOL FOR APRILeAUGUSTeDAY EIGHTfEIGHTEENfELEVENfFIFTEENfFIVEfFOURfFOURTEENfNINEfNINETEENfONE
fSEVENfSEVENTEENfSIXfSIXTEENfTENfTHIRTEENfTHIRTYfTHIRTY-ONEfTHREEfTWELVEfTWENTYfTWENTY-EIGHT
fTWENTY-FIVEfTWENTY-FOURfTWENTY-NINEfTWENTY-ONEfTWENTY-SEVENfTWENTY-SIXfTWENTY-THREEfTWENTY-TWO
fTWOeDECEMBEReFEBRUARYeHOUR EIGHTfEIGHTEENfELEVENfFIFTEENfFIVEfFOURfFOURTEENfNINEfNINETEENfONE
fSEVENfSEVENTEENfSIXfSIXTEENfTENfTHIRTEENfTHREEfTWELVEfTWENTYfTWENTY-FOURfTWENTY-ONE
fTWENTY-THREEfTWENTY-TWOfTWOfZEROeJANUARYeJULYeJUNEeMARCHeMAYeNOVEMBEReOCTOBEReSEPTEMBER
bVARIATION INDICATORaIMAGE OFcOR APPROXIMATELY EQUAL TOaIMPaIMPERIAL ARAMAIC LETTER ALEPHdAYIN
dBETHdDALETHdGIMELdHEdHETHdKAPHdLAMEDHdMEMdNUNdPEdQOPHdRESHdSADHEdSAMEKHdSHINdTAWdTETHdWAWdYODH
dZAYINcNUMBER ONEeHUNDREDeTHOUSANDdTENeTHOUSANDdTHREEdTWENTYdTWOcSECTION SIGNaINBOX TRAY
aINCOMING ENVELOPEaINCOMPLETE INFINITYaINCREASE FONT SIZE SYMBOLaINCREASES ASaINCREMENTaIND
aINDEXbPOINTING AT THE VIEWERaINDIAN RUPEE SIGNaINDIC SIYAQ ALTERNATE LAKH MARK
cFRACTION ONE HALFeQUARTERdTHREE QUARTERScLAKH MARKcNUMBER ALTERNATE ONEeTEN THOUSANDeTWOdEIGHT
eHUNDREDeTHOUSANDdEIGHTYeTHOUSANDdFIFTYeTHOUSANDdFIVEeHUNDREDeTHOUSANDdFORTYeTHOUSANDdFOUR
eHUNDREDeTHOUSANDdKARORdKARORANdLAKHdLAKHANdNINEeHUNDREDeTHOUSANDdNINETYeTHOUSANDdONEeHUNDRED
eTHOUSANDdPREFIXED EIGHTeFIVEeFOUReNINEeONEeSEVENeSIXeTHREEeTWOdSEVENeHUNDREDeTHOUSANDdSEVENTY
eTHOUSANDdSIXeHUNDREDeTHOUSANDdSIXTYeTHOUSANDdTENeTHOUSANDdTHIRTYeTHOUSANDdTHREEeHUNDRED
eTHOUSANDdTWENTYeTHOUSANDdTWOeHUNDREDeTHOUSANDcPLACEHOLDERcRUPEE MARKaINFINITY
bNEGATED WITH VERTICAL BARaINFORMATION DESK PERSONbSEPARATOR FOURcONEcTHREEcTWObSOURCE
aINHIBIT ARABIC FORM SHAPINGbSYMMETRIC SWAPPINGaINPUT SYMBOL FOR LATIN CAPITAL LETTERSeLETTERS
eSMALL LETTERSdNUMBERSdSYMBOLSaINSCRIPTIONAL PAHLAVI LETTER ALEPHdBETHdDALETHdGIMELdHEdHETHdKAPH
dLAMEDHdMEM-QOPHdNUNdPEdSADHEdSAMEKHdSHINdTAWdTETHdWAW-AYIN-RESHdYODHdZAYINcNUMBER FOURdONE
eHUNDREDeTHOUSANDdTENdTHREEdTWENTYdTWObPARTHIAN LETTER ALEPHdAYINdBETHdDALETHdGIMELdHEdHETHdKAPH
dLAMEDHdMEMdNUNdPEdQOPHdRESHdSADHEdSAMEKHdSHINdTAWdTETHdWAWdYODHdZAYINcNUMBER FOURdONEeHUNDRED
eTHOUSANDdTENdTHREEdTWENTYdTWOaINSERTION SYMBOLaINTEGRALbAROUND A POINT OPERATOR
bAVERAGE WITH SLASHbEXTENSIONbWITH DOUBLE STROKEcINTERSECTIONcLEFTWARDS ARROW WITH HOOKcOVERBAR
cTIMES SIGNcUNDERBARcUNIONaINTERCALATEaINTERIOR PRODUCTaINTERLINEAR ANNOTATION ANCHORcSEPARATOR
cTERMINATORaINTERLOCKED FEMALE AND MALE SIGNaINTERROBANGaINTERSECTIONbABOVE BAR ABOVE UNION
cUNIONbBESIDE AND JOINED WITH INTERSECTIONbWITH DOTcLOGICAL ANDcOVERBARaINVERSE BULLET
bCHECK MARKbCHECKER BOARD FILLbDOWNWARDS ARROW WITH TIP LEFTWARDSbMEDIUM SHADEbWHITE CIRCLE
aINVERTED EXCLAMATION MARKbINTERROBANGbLAZY SbLOW KAVYKAdWITH KAVYKA ABOVEbOHM SIGNbPENTAGRAM
bQUESTION MARKbUNDERTIEaINVISIBLE PLUSbSEPARATORbTIMESaIZAKAYA LANTERN"

def namesWithJ : String :=
  "aJACK-O-LANTERNaJAPANESE BANK SYMBOLbCASTLEbDOLLSbGOBLINbINDUSTRIAL STANDARD SYMBOLbOGRE
bPOST OFFICEbSYMBOL FOR BEGINNERaJARaJAVANESE CONSONANT SIGN CAKRAdKERETdPENGKALbDIGIT EIGHT
cFIVEcFOURcNINEcONEcSEVENcSIXcTHREEcTWOcZERObLEFT RERENGGANbLETTER AcAIcBAdMURDAcCAdMURDAcDA
dMAHAPRANAcDDAdMAHAPRANAcEcGAdMURDAcHAcIdKAWIcIIcJAdMAHAPRANAcKAdMURDAdSASAKcLAcMAcNAdMURDAcNGA
dLELETeRASWADIcNYAdMURDAcOcPAdCEREKdMURDAcRAdAGUNGcSAdMAHAPRANAdMURDAcTAdMURDAcTTAdMAHAPRANAcU
cWAcYAbPADA ADEGdADEGcANDAPcISEN-ISENcLINGSAcLUHURcLUNGSIcMADYAcPANGKATcPISELEHcTIRTA TUMETES
cWINDUbPANGKONbPANGRANGKEPbRIGHT RERENGGANbSIGN CECAKdTELUcLAYARcPANYANGGAcWIGNYAN
bTURNED PADA PISELEHbVOWEL SIGN DIRGA MUREdPEPETdSUKUeMENDUTdTALINGdTARUNGdTOLONGdWULUeMELIK
aJEANSaJIGSAW PUZZLE PIECEaJOINaJOYSTICKaJUGGLINGaJUNOaJUPITER"

def namesWithK : String :=
  "aKAABAaKAITHI ABBREVIATION SIGNbDANDAbDOUBLE DANDAcSECTION MARKbENUMERATION SIGNbLETTER AcAAcAI
cAUcBAcBHAcCAcCHAcDAcDDAcDDDHAcDDHAcDHAcEcGAcGHAcHAcIcIIcJAcJHAcKAcKHAcLAcMAcNAcNGAcNNAcNYAcOcPA
cPHAcRAcRHAcSAcSHAcSSAcTAcTHAcTTAcTTHAcUcUUcVAcYAbNUMBER SIGNdABOVEbSECTION MARKbSIGN ANUSVARA
cCANDRABINDUcNUKTAcVIRAMAcVISARGAbVOWEL SIGN AAdAIdAUdEdIdIIdOdUdUUdVOCALIC RaKANGAROO
aKANGXI RADICAL AGAINcANDcARRIVEcARROWcAXEcBADGERcBAMBOOcBEANcBIGcBIRDcBITTERcBLACKcBLOODcBLUE
cBOATcBODYcBOLT OF CLOTHcBONEcBOWcBRANCHcBRISTLEcBRUSHcCARTcCAULDRONcCAVEcCHILDcCITYcCLANcCLAW
cCLIFFcCLOTHEScCOLORcCOMPAREcCORPSEcCOVERcCOWcDEATHcDEERcDIPPERcDISHcDISTINGUISHcDIVINATION
cDO NOTcDOGcDOORcDOTcDOTTED CLIFFdTENTcDOUBLE XcDOWN BOXcDRAGONcDRUMcDRYcEARcEARTHcEATcEIGHT
cEMBROIDERYcENCLOSUREcENTERcEVENcEVENINGcEYEcFACEcFANGcFATHERcFEATHERcFIELDcFIGHTcFIREcFISH
cFLUTEcFLYcFOOTcFRAGRANTcFROGcFURcGATEcGHOSTcGOdSLOWLYcGOLDcGRAINcGRASScHAIRcHALBERD
cHALF TREE TRUNKcHANDcHEADcHEARTcHEMPcHIDING ENCLOSUREcHOOKcHORNcHORSEcICEcINCHcINSECTcJADEcJAR
cKNIFEcLACKcLAMEcLEAFcLEATHERcLEEKcLEGScLIDcLIFEcLINEcLONGdSTRIDEcMANcMEATcMELONcMILLETcMINISTER
cMOONcMORNINGcMORTARcMOUNDcMOUNTAINcMOUTHcNETcNOSEcNOTcOLDcONEcONESELFcOPEN BOXcOPPOSEcPIGcPLOW
cPOWERcPRIVATEcPROFOUNDcRAINcRAPcRATcREDcRICEcRIGHT OPEN BOXcRIVERcROOFcRUNcSACRIFICIAL WINE
cSALTcSAYcSCHOLARcSCRIPTcSEALcSECONDcSEEcSELFcSHEEPcSHELLcSHOOTcSHORT TAILED BIRDdTHREAD
cSICKNESScSILKcSKINcSLASHcSLAVEcSLICEcSMALLcSNOUTcSOUNDcSPEARcSPEECHcSPIRITcSPOONcSPROUTcSQUARE
cSTANDcSTEAMcSTEPcSTONEcSTOPcSTOPPINGcSUNcSWEETcTABLEcTALLcTANNED LEATHERcTENcTIGERcTILEcTONGUE
cTOOTHcTRACKcTREEcTRIPODcTURBANcTURTLEcTWOdHANDScUSEcVALLEYcVILLAGEcWALKdENCLOSUREcWATERcWEAPON
cWESTcWHEATcWHITEcWINDcWINEcWOMANcWORKcWRAPcWRONGcYELLOWaKANNADA AI LENGTH MARKbDIGIT EIGHTcFIVE
cFOURcNINEcONEcSEVENcSIXcTHREEcTWOcZERObLENGTH MARKbLETTER AcAAcAIcAUcBAcBHAcCAcCHAcDAcDDAcDDHA
cDHAcEcEEcFAcGAcGHAcHAcIcIIcJAcJHAcKAcKHAcLAcLLAcLLLAcMAcNAcNAKAARA POLLUcNGAcNNAcNYAcOcOOcPA
cPHAcRAcRRAcSAcSHAcSSAcTAcTHAcTTAcTTHAcUcUUcVAcVOCALIC LdLLdRdRRcYAbSIGN ANUSVARAcAVAGRAHA
cCANDRABINDUcJIHVAMULIYAcNUKTAcSIDDHAMcSPACING CANDRABINDUcUPADHMANIYAcVIRAMAcVISARGA
bVOWEL SIGN AAdAIdAUdEdEEdIdIIdOdOOdUdUUdVOCALIC LeLLeReRRaKATAKANA DIGRAPH KOTObITERATION MARK
bLETTER AcARCHAIC EdWUdYEdYIcBAcBEcBIcBOcBUcDAcDEcDIcDOcDUcEcGAcGEcGIcGOcGUcHAcHEcHIcHOcHUcIcKA
cKEcKIcKOcKUcMAcMEcMIcMINNAN NASALIZED TONE-1eTONE-2eTONE-3eTONE-4eTONE-5eTONE-7eTONE-8dTONE-2
dTONE-3dTONE-4dTONE-5dTONE-7dTONE-8cMOcMUcNcNAcNEcNIcNOcNUcOcPAcPEcPIcPOcPUcRAcREcRIcROcRUcSAcSE
cSIcSMALL AdEdHAdHEdHIdHOdHUdIdKAdKEdKUdMUdNdNUdOdRAdREdRIdROdRUdSIdSUdTOdTUdUdWAdWEdWIdWOdYAdYO
dYUcSOcSUcTAcTEcTIcTOcTUcUcVAcVEcVIcVOcVUcWAcWEcWIcWOcYAcYOcYUcZAcZEcZIcZOcZUbMIDDLE DOT
bVOICED ITERATION MARKaKATAKANA-HIRAGANA DOUBLE HYPHENbPROLONGED SOUND MARK
bSEMI-VOICED SOUND MARKbVOICED SOUND MARKaKAYAH LI DIGIT EIGHTdFIVEdFOURdNINEdONEdSEVENdSIX
dTHREEdTWOdZEROcLETTER AdBAdCAdDAdGAdHAdHTAdIdKAdKHAdLAdMAdNAdNGAdNYAdOEdOOdPAdPHAdRAdSAdSHAdTA
dTHAdVAdWAdYAdZAcSIGN CWIdSHYAcTONE CALYAePLOPHUdPLOPHUcVOWEL EdEEdOdUdUEaKELVIN SIGNaKEY
aKEYBOARDbAND MOUSEaKEYCAP TENaKHAROSHTHI DIGIT FOURcONEcTHREEcTWObFRACTION ONE HALFbLETTER AcBA
cBHAcCAcCHAcDAcDDAcDDHAcDHAcGAcGHAcHAcJAcKAcKHAcKKAcLAcMAcNAcNNAcNYAcPAcPHAcRAcSAcSHAcSSAcTAcTHA
cTTAcTTHAcTTTAcTTTHAcVAcVHAcYAcZAbNUMBER ONE HUNDREDdTHOUSANDcTENcTWENTYbPUNCTUATION CIRCLE
cCRESCENT BARcDANDAcDOTcDOUBLE DANDAcLINEScLOTUScMANGALAMcSMALL CIRCLEbSIGN ANUSVARAcBAR ABOVE
cCAUDAcDOT BELOWcDOUBLE RING BELOWcVISARGAbVIRAMAbVOWEL LENGTH MARKcSIGN EdIdOdUdVOCALIC R
aKHITAN SMALL SCRIPT CHARACTER-18B00dCHARACTER-18B01dCHARACTER-18B02dCHARACTER-18B03
dCHARACTER-18B04dCHARACTER-18B05dCHARACTER-18B06dCHARACTER-18B07dCHARACTER-18B08dCHARACTER-18B09
dCHARACTER-18B0AdCHARACTER-18B0BdCHARACTER-18B0CdCHARACTER-18B0DdCHARACTER-18B0EdCHARACTER-18B0F
dCHARACTER-18B10dCHARACTER-18B11dCHARACTER-18B12dCHARACTER-18B13dCHARACTER-18B14dCHARACTER-18B15
dCHARACTER-18B16dCHARACTER-18B17dCHARACTER-18B18dCHARACTER-18B19dCHARACTER-18B1AdCHARACTER-18B1B
dCHARACTER-18B1CdCHARACTER-18B1DdCHARACTER-18B1EdCHARACTER-18B1FdCHARACTER-18B20dCHARACTER-18B21
dCHARACTER-18B22dCHARACTER-18B23dCHARACTER-18B24dCHARACTER-18B25dCHARACTER-18B26dCHARACTER-18B27
dCHARACTER-18B28dCHARACTER-18B29dCHARACTER-18B2AdCHARACTER-18B2BdCHARACTER-18B2CdCHARACTER-18B2D
dCHARACTER-18B2EdCHARACTER-18B2FdCHARACTER-18B30dCHARACTER-18B31dCHARACTER-18B32dCHARACTER-18B33
dCHARACTER-18B34dCHARACTER-18B35dCHARACTER-18B36dCHARACTER-18B37dCHARACTER-18B38dCHARACTER-18B39
dCHARACTER-18B3AdCHARACTER-18B3BdCHARACTER-18B3CdCHARACTER-18B3DdCHARACTER-18B3EdCHARACTER-18B3F
dCHARACTER-18B40dCHARACTER-18B41dCHARACTER-18B42dCHARACTER-18B43dCHARACTER-18B44dCHARACTER-18B45
dCHARACTER-18B46dCHARACTER-18B47dCHARACTER-18B48dCHARACTER-18B49dCHARACTER-18B4AdCHARACTER-18B4B
dCHARACTER-18B4CdCHARACTER-18B4DdCHARACTER-18B4EdCHARACTER-18B4FdCHARACTER-18B50dCHARACTER-18B51
dCHARACTER-18B52dCHARACTER-18B53dCHARACTER-18B54dCHARACTER-18B55dCHARACTER-18B56dCHARACTER-18B57
dCHARACTER-18B58dCHARACTER-18B59dCHARACTER-18B5AdCHARACTER-18B5BdCHARACTER-18B5CdCHARACTER-18B5D
dCHARACTER-18B5EdCHARACTER-18B5FdCHARACTER-18B60dCHARACTER-18B61dCHARACTER-18B62dCHARACTER-18B63
dCHARACTER-18B64dCHARACTER-18B65dCHARACTER-18B66dCHARACTER-18B67dCHARACTER-18B68dCHARACTER-18B69
dCHARACTER-18B6AdCHARACTER-18B6BdCHARACTER-18B6CdCHARACTER-18B6DdCHARACTER-18B6EdCHARACTER-18B6F
dCHARACTER-18B70dCHARACTER-18B71dCHARACTER-18B72dCHARACTER-18B73dCHARACTER-18B74dCHARACTER-18B75
dCHARACTER-18B76dCHARACTER-18B77dCHARACTER-18B78dCHARACTER-18B79dCHARACTER-18B7AdCHARACTER-18B7B
dCHARACTER-18B7CdCHARACTER-18B7DdCHARACTER-18B7EdCHARACTER-18B7FdCHARACTER-18B80dCHARACTER-18B81
dCHARACTER-18B82dCHARACTER-18B83dCHARACTER-18B84dCHARACTER-18B85dCHARACTER-18B86dCHARACTER-18B87
dCHARACTER-18B88dCHARACTER-18B89dCHARACTER-18B8AdCHARACTER-18B8BdCHARACTER-18B8CdCHARACTER-18B8D
dCHARACTER-18B8EdCHARACTER-18B8FdCHARACTER-18B90dCHARACTER-18B91dCHARACTER-18B92dCHARACTER-18B93
dCHARACTER-18B94dCHARACTER-18B95dCHARACTER-18B96dCHARACTER-18B97dCHARACTER-18B98dCHARACTER-18B99
dCHARACTER-18B9AdCHARACTER-18B9BdCHARACTER-18B9CdCHARACTER-18B9DdCHARACTER-18B9EdCHARACTER-18B9F
dCHARACTER-18BA0dCHARACTER-18BA1dCHARACTER-18BA2dCHARACTER-18BA3dCHARACTER-18BA4dCHARACTER-18BA5
dCHARACTER-18BA6dCHARACTER-18BA7dCHARACTER-18BA8dCHARACTER-18BA9dCHARACTER-18BAAdCHARACTER-18BAB
dCHARACTER-18BACdCHARACTER-18BADdCHARACTER-18BAEdCHARACTER-18BAFdCHARACTER-18BB0dCHARACTER-18BB1
dCHARACTER-18BB2dCHARACTER-18BB3dCHARACTER-18BB4dCHARACTER-18BB5dCHARACTER-18BB6dCHARACTER-18BB7
dCHARACTER-18BB8dCHARACTER-18BB9dCHARACTER-18BBAdCHARACTER-18BBBdCHARACTER-18BBCdCHARACTER-18BBD
dCHARACTER-18BBEdCHARACTER-18BBFdCHARACTER-18BC0dCHARACTER-18BC1dCHARACTER-18BC2dCHARACTER-18BC3
dCHARACTER-18BC4dCHARACTER-18BC5dCHARACTER-18BC6dCHARACTER-18BC7dCHARACTER-18BC8dCHARACTER-18BC9
dCHARACTER-18BCAdCHARACTER-18BCBdCHARACTER-18BCCdCHARACTER-18BCDdCHARACTER-18BCEdCHARACTER-18BCF
dCHARACTER-18BD0dCHARACTER-18BD1dCHARACTER-18BD2dCHARACTER-18BD3dCHARACTER-18BD4dCHARACTER-18BD5
dCHARACTER-18BD6dCHARACTER-18BD7dCHARACTER-18BD8dCHARACTER-18BD9dCHARACTER-18BDAdCHARACTER-18BDB
dCHARACTER-18BDCdCHARACTER-18BDDdCHARACTER-18BDEdCHARACTER-18BDFdCHARACTER-18BE0dCHARACTER-18BE1
dCHARACTER-18BE2dCHARACTER-18BE3dCHARACTER-18BE4dCHARACTER-18BE5dCHARACTER-18BE6dCHARACTER-18BE7
dCHARACTER-18BE8dCHARACTER-18BE9dCHARACTER-18BEAdCHARACTER-18BEBdCHARACTER-18BECdCHARACTER-18BED
dCHARACTER-18BEEdCHARACTER-18BEFdCHARACTER-18BF0dCHARACTER-18BF1dCHARACTER-18BF2dCHARACTER-18BF3
dCHARACTER-18BF4dCHARACTER-18BF5dCHARACTER-18BF6dCHARACTER-18BF7dCHARACTER-18BF8dCHARACTER-18BF9
dCHARACTER-18BFAdCHARACTER-18BFBdCHARACTER-18BFCdCHARACTER-18BFDdCHARACTER-18BFEdCHARACTER-18BFF
dCHARACTER-18C00dCHARACTER-18C01dCHARACTER-18C02dCHARACTER-18C03dCHARACTER-18C04dCHARACTER-18C05
dCHARACTER-18C06dCHARACTER-18C07dCHARACTER-18C08dCHARACTER-18C09dCHARACTER-18C0AdCHARACTER-18C0B
dCHARACTER-18C0CdCHARACTER-18C0DdCHARACTER-18C0EdCHARACTER-18C0FdCHARACTER-18C10dCHARACTER-18C11
dCHARACTER-18C12dCHARACTER-18C13dCHARACTER-18C14dCHARACTER-18C15dCHARACTER-18C16dCHARACTER-18C17
dCHARACTER-18C18dCHARACTER-18C19dCHARACTER-18C1AdCHARACTER-18C1BdCHARACTER-18C1CdCHARACTER-18C1D
dCHARACTER-18C1EdCHARACTER-18C1FdCHARACTER-18C20dCHARACTER-18C21dCHARACTER-18C22dCHARACTER-18C23
dCHARACTER-18C24dCHARACTER-18C25dCHARACTER-18C26dCHARACTER-18C27dCHARACTER-18C28dCHARACTER-18C29
dCHARACTER-18C2AdCHARACTER-18C2BdCHARACTER-18C2CdCHARACTER-18C2DdCHARACTER-18C2EdCHARACTER-18C2F
dCHARACTER-18C30dCHARACTER-18C31dCHARACTER-18C32dCHARACTER-18C33dCHARACTER-18C34dCHARACTER-18C35
dCHARACTER-18C36dCHARACTER-18C37dCHARACTER-18C38dCHARACTER-18C39dCHARACTER-18C3AdCHARACTER-18C3B
dCHARACTER-18C3CdCHARACTER-18C3DdCHARACTER-18C3EdCHARACTER-18C3FdCHARACTER-18C40dCHARACTER-18C41
dCHARACTER-18C42dCHARACTER-18C43dCHARACTER-18C44dCHARACTER-18C45dCHARACTER-18C46dCHARACTER-18C47
dCHARACTER-18C48dCHARACTER-18C49dCHARACTER-18C4AdCHARACTER-18C4BdCHARACTER-18C4CdCHARACTER-18C4D
dCHARACTER-18C4EdCHARACTER-18C4FdCHARACTER-18C50dCHARACTER-18C51dCHARACTER-18C52dCHARACTER-18C53
dCHARACTER-18C54dCHARACTER-18C55dCHARACTER-18C56dCHARACTER-18C57dCHARACTER-18C58dCHARACTER-18C59
dCHARACTER-18C5AdCHARACTER-18C5BdCHARACTER-18C5CdCHARACTER-18C5DdCHARACTER-18C5EdCHARACTER-18C5F
dCHARACTER-18C60dCHARACTER-18C61dCHARACTER-18C62dCHARACTER-18C63dCHARACTER-18C64dCHARACTER-18C65
dCHARACTER-18C66dCHARACTER-18C67dCHARACTER-18C68dCHARACTER-18C69dCHARACTER-18C6AdCHARACTER-18C6B
dCHARACTER-18C6CdCHARACTER-18C6DdCHARACTER-18C6EdCHARACTER-18C6FdCHARACTER-18C70dCHARACTER-18C71
dCHARACTER-18C72dCHARACTER-18C73dCHARACTER-18C74dCHARACTER-18C75dCHARACTER-18C76dCHARACTER-18C77
dCHARACTER-18C78dCHARACTER-18C79dCHARACTER-18C7AdCHARACTER-18C7BdCHARACTER-18C7CdCHARACTER-18C7D
dCHARACTER-18C7EdCHARACTER-18C7FdCHARACTER-18C80dCHARACTER-18C81dCHARACTER-18C82dCHARACTER-18C83
dCHARACTER-18C84dCHARACTER-18C85dCHARACTER-18C86dCHARACTER-18C87dCHARACTER-18C88dCHARACTER-18C89
dCHARACTER-18C8AdCHARACTER-18C8BdCHARACTER-18C8CdCHARACTER-18C8DdCHARACTER-18C8EdCHARACTER-18C8F
dCHARACTER-18C90dCHARACTER-18C91dCHARACTER-18C92dCHARACTER-18C93dCHARACTER-18C94dCHARACTER-18C95
dCHARACTER-18C96dCHARACTER-18C97dCHARACTER-18C98dCHARACTER-18C99dCHARACTER-18C9AdCHARACTER-18C9B
dCHARACTER-18C9CdCHARACTER-18C9DdCHARACTER-18C9EdCHARACTER-18C9FdCHARACTER-18CA0dCHARACTER-18CA1
dCHARACTER-18CA2dCHARACTER-18CA3dCHARACTER-18CA4dCHARACTER-18CA5dCHARACTER-18CA6dCHARACTER-18CA7
dCHARACTER-18CA8dCHARACTER-18CA9dCHARACTER-18CAAdCHARACTER-18CABdCHARACTER-18CACdCHARACTER-18CAD
dCHARACTER-18CAEdCHARACTER-18CAFdCHARACTER-18CB0dCHARACTER-18CB1dCHARACTER-18CB2dCHARACTER-18CB3
dCHARACTER-18CB4dCHARACTER-18CB5dCHARACTER-18CB6dCHARACTER-18CB7dCHARACTER-18CB8dCHARACTER-18CB9
dCHARACTER-18CBAdCHARACTER-18CBBdCHARACTER-18CBCdCHARACTER-18CBDdCHARACTER-18CBEdCHARACTER-18CBF
dCHARACTER-18CC0dCHARACTER-18CC1dCHARACTER-18CC2dCHARACTER-18CC3dCHARACTER-18CC4dCHARACTER-18CC5
dCHARACTER-18CC6dCHARACTER-18CC7dCHARACTER-18CC8dCHARACTER-18CC9dCHARACTER-18CCAdCHARACTER-18CCB
dCHARACTER-18CCCdCHARACTER-18CCDdCHARACTER-18CCEdCHARACTER-18CCFdCHARACTER-18CD0dCHARACTER-18CD1
dCHARACTER-18CD2dCHARACTER-18CD3dCHARACTER-18CD4dCHARACTER-18CD5dFILLER
aKHMER CURRENCY SYMBOL RIELbDIGIT EIGHTcFIVEcFOURcNINEcONEcSEVENcSIXcTHREEcTWOcZERO
bINDEPENDENT VOWEL LYdLYYdQAAdQAIdQAQdQAUdQEdQIdQIIdQOO TYPE ONEfTWOdQUdQUKdQUUdQUUVdRYdRYY
bLETTER BAcCAcCHAcCHOcCOcDAcDOcHAcKAcKHAcKHOcKOcLAcLOcMOcNGOcNNOcNOcNYOcPHAcPHOcPOcQAcROcSAcSHA
cSSOcTAcTHAcTHOcTOcTTHAcTTHOcVOcYObSIGN AHSDAcATTHACANcAVAKRAHASANYAcBANTOCcBARIYOOSAN
cBATHAMASATcBEYYALcCAMNUC PII KUUHcCOENGcKAKABATcKHANcKOOMUUTcLEK TOOcMUUSIKATOANcNIKAHIT
cPHNAEK MUANcREAHMUKcROBATcSAMYOK SANNYAcTOANDAKHIATcTRIISAPcVIRIAMcYUUKALEAPINTU
bSYMBOL BEI KOETdROCcBUON KOETdROCcDAP KOETdROCcDAP-BEI KOETdROCcDAP-BUON KOETdROCcDAP-MUOY KOET
dROCcDAP-PII KOETdROCcDAP-PRAM KOETdROCcLEK ATTAK BEIeBUONeMUOYePIIePRAMePRAM-BEIePRAM-BUON
ePRAM-MUOYePRAM-PIIeSONcMUOY KOETdROCcPATHAMASATcPII KOETdROCcPRAM KOETdROCcPRAM-BEI KOETdROC
cPRAM-BUON KOETdROCcPRAM-MUOY KOETdROCcPRAM-PII KOETdROCcTUTEYASATbVOWEL INHERENT AAdAQcSIGN AA
dAEdAIdAUdEdIdIEdIIdOEdOOdUdUAdUUdYdYAdYYaKHOJKI ABBREVIATION SIGNbDANDAbDOUBLE DANDA
cSECTION MARKbLETTER AcAAcAIcAUcBAcBBAcBHAcCAcCHAcDAcDDAcDDDAcDDHAcDHAcEcGAcGGAcGHAcHAcIcJAcJJA
cKAcKHAcLAcLLAcMAcNAcNGAcNNAcNYAcOcPAcPHAcRAcSAcTAcTHAcTTAcTTHAcUcVAcYAbSECTION MARK
bSIGN ANUSVARAcNUKTAcSHADDAcSUKUNcVIRAMAbVOWEL SIGN AAdAIdAUdEdIdIIdOdUbWORD SEPARATOR
aKHUDAWADI DIGIT EIGHTcFIVEcFOURcNINEcONEcSEVENcSIXcTHREEcTWOcZERObLETTER AcAAcAIcAUcBAcBBAcBHA
cCAcCHAcDAcDDAcDDDAcDDHAcDHAcEcGAcGGAcGHAcHAcIcIIcJAcJHAcJJAcKAcKHAcLAcMAcNAcNGAcNNAcNYAcOcPA
cPHAcRAcRRAcSAcSHAcTAcTHAcTTAcTTHAcUcUUcVAcYAbSIGN ANUSVARAcNUKTAcVIRAMAbVOWEL SIGN AAdAIdAUdEdI
dIIdOdUdUUaKIMONOaKIP SIGNaKISSbMARKaKISSING CAT FACE WITH CLOSED EYESbFACEcWITH CLOSED EYES
dSMILING EYESaKITEaKIWIFRUITaKNEELING PERSONaKNOTaKOALAaKOREAN STANDARD SYMBOLaKRONOS"

def namesWithL : String :=
  "aL B BAR SYMBOLaLAB COATaLABELaLACROSSE STICK AND BALLaLADDERaLADY BEETLEaLANGUAGE TAG
aLAO CANCELLATION MARKbDIGIT EIGHTcFIVEcFOURcNINEcONEcSEVENcSIXcTHREEcTWOcZERObELLIPSISbHO MOcNO
bKO LAbLETTER BOcCOcDOcFO FAYdFONdSUNGdTAMcHO SUNGdTAMcKHMU GOdNYOcKHO SUNGdTAMcKOcLOdLINGdLOOT
cMOcNGOcNOcNYOcOcPALI BHAdCHAdDDAdDDHAdDHAdGHAdJHAdLLAdNNAdNYAdTTAdTTHAcPHO SUNGdTAMcPOcRO
cSANSKRIT SHAdSSAcSO SUNGdTAMcTHO SUNGdTAMcTOcWOcYObNIGGAHITAbSEMIVOWEL SIGN LOdNYO
bSIGN PALI VIRAMAbTONE MAI CATAWAdEKdTHOdTIbVOWEL SIGN AdAAdAIdAMdAYdEdEIdIdIIdMAI KANeKONdOdU
dUUdYdYYaLARGE BLUE CIRCLEcDIAMONDcSQUAREbBROWN CIRCLEcSQUAREbCIRCLEbDOWN TACKbGREEN CIRCLE
cSQUAREbLEFT TRIANGLE OPERATORbONE DOT OVER TWO DOTS PUNCTUATIONcRING OVER TWO RINGS PUNCTUATION
bORANGE CIRCLEcDIAMONDcSQUAREbPURPLE CIRCLEcSQUAREbRED CIRCLEcSQUARE
bTRIPLE VERTICAL BAR OPERATORbTWO DOTS OVER ONE DOT PUNCTUATIONcRINGS OVER ONE RING PUNCTUATION
bUP TACKbYELLOW CIRCLEcSQUAREaLARGER THANcOR EQUAL TOaLARI SIGNaLAST QUARTER MOONdSYMBOL
dWITH FACEaLATIN CAPITAL LETTER AeWITH ACUTEfBREVEgAND ACUTEhDOT BELOWhGRAVEhHOOK ABOVEhTILDE
fCARONfCIRCUMFLEXgAND ACUTEhDOT BELOWhGRAVEhHOOK ABOVEhTILDEfDIAERESISgAND MACRONfDOT ABOVE
hAND MACRONgBELOWfDOUBLE GRAVEfGRAVEfHOOK ABOVEfINVERTED BREVEfMACRONfOGONEKfRING ABOVE
hAND ACUTEgBELOWfSTROKEfTILDEdAAdAEeWITH ACUTEfMACRONdAFRICAN DdALPHAdANGLICANA WdAOdAUdAV
eWITH HORIZONTAL BARdAYdBeWITH DOT ABOVEgBELOWfFLOURISHfHOOKfLINE BELOWfSTROKEfTOPBARdBETA
dBROKEN LdCeWITH ACUTEfBARfCARONfCEDILLAgAND ACUTEfCIRCUMFLEXfDOT ABOVEfHOOKfPALATAL HOOKfSTROKE
dCHIdCLOSED INSULAR GdCONdCUATRILLOeWITH COMMAdDeWITH CARONfCEDILLAfCIRCUMFLEX BELOWfDOT ABOVE
gBELOWfHOOKfLINE BELOWfSHORT STROKE OVERLAYfSMALL LETTER ZiWITH CARONfSTROKEfTOPBARdDZ
eWITH CARONdEeWITH ACUTEfBREVEfCARONfCEDILLAgAND BREVEfCIRCUMFLEXgAND ACUTEhDOT BELOWhGRAVE
hHOOK ABOVEhTILDEgBELOWfDIAERESISfDOT ABOVEgBELOWfDOUBLE GRAVEfGRAVEfHOOK ABOVEfINVERTED BREVE
fMACRONgAND ACUTEhGRAVEfOGONEKfSTROKEfTILDEgBELOWdEGYPTOLOGICAL AINeALEFdENGdESHdETdETHdEZH
eREVERSEDeWITH CARONdFeWITH DOT ABOVEfHOOKfSTROKEdGeWITH ACUTEfBREVEfCARONfCEDILLAfCIRCUMFLEX
fDOT ABOVEfHOOKfMACRONfOBLIQUE STROKEfSTROKEdGAMMAdGHAdGLOTTAL AeIeSTOPeUdHeWITH BREVE BELOW
fCARONfCEDILLAfCIRCUMFLEXfDESCENDERfDIAERESISfDOT ABOVEgBELOWfHOOKfSTROKEdHALF HdHENGdHWAIRdI
eWITH ACUTEfBREVEfCARONfCIRCUMFLEXfDIAERESISgAND ACUTEfDOT ABOVEgBELOWfDOUBLE GRAVEfGRAVE
fHOOK ABOVEfINVERTED BREVEfMACRONfOGONEKfSTROKEfTILDEgBELOWdINSULAR DeFeGeReSeTdIOTAdISdJ
eWITH CIRCUMFLEXfCROSSED-TAILfSTROKEdKeWITH ACUTEfCARONfCEDILLAfDESCENDERfDIAGONAL STROKE
fDOT BELOWfHOOKfLINE BELOWfOBLIQUE STROKEfSTROKEgAND DIAGONAL STROKEdLeWITH ACUTEfBARfBELTfCARON
fCEDILLAfCIRCUMFLEX BELOWfDOT BELOWhAND MACRONfDOUBLE BARfHIGH STROKEfLINE BELOWfMIDDLE DOT
gTILDEfSMALL LETTER JfSTROKEdLJdMeWITH ACUTEfDOT ABOVEgBELOWfHOOKdMIDDLE SCOTS SdMIDDLE-WELSH LL
eVdNeWITH ACUTEfCARONfCEDILLAfCIRCUMFLEX BELOWfDESCENDERfDOT ABOVEgBELOWfGRAVEfLEFT HOOK
fLINE BELOWfLONG RIGHT LEGfOBLIQUE STROKEfSMALL LETTER JfTILDEdNJdOeWITH ACUTEfBREVEfCARON
fCIRCUMFLEXgAND ACUTEhDOT BELOWhGRAVEhHOOK ABOVEhTILDEfDIAERESISgAND MACRONfDOT ABOVEhAND MACRON
gBELOWfDOUBLE ACUTEgGRAVEfGRAVEfHOOK ABOVEfHORNgAND ACUTEhDOT BELOWhGRAVEhHOOK ABOVEhTILDE
fINVERTED BREVEfLONG STROKE OVERLAYfLOOPfMACRONgAND ACUTEhGRAVEfMIDDLE TILDEfOGONEKgAND MACRON
fSTROKEgAND ACUTEfTILDEgAND ACUTEhDIAERESIShMACRONdOIdOLD POLISH OdOMEGAdOOdOPEN EeOdOUdP
eWITH ACUTEfDOT ABOVEfFLOURISHfHOOKfSQUIRREL TAILfSTROKEgTHROUGH DESCENDERdQ
eWITH DIAGONAL STROKEfSTROKE THROUGH DESCENDERdReROTUNDAeWITH ACUTEfCARONfCEDILLAfDOT ABOVE
gBELOWhAND MACRONfDOUBLE GRAVEfINVERTED BREVEfLINE BELOWfOBLIQUE STROKEfSTROKEfTAIL
dREVERSED C WITH DOTeEeHALF HeOPEN EdRUM ROTUNDAdSeWITH ACUTEgAND DOT ABOVEfCARONgAND DOT ABOVE
fCEDILLAfCIRCUMFLEXfCOMMA BELOWfDOT ABOVEgBELOWhAND DOT ABOVEfHOOKfOBLIQUE STROKE
fSHORT STROKE OVERLAYfSWASH TAILdSALTILLOdSCHWAdSCRIPT GdSHARP SdSIGMOID SdSMALL CAPITAL I
eQ WITH HOOK TAILdTeWITH CARONfCEDILLAfCIRCUMFLEX BELOWfCOMMA BELOWfDIAGONAL STROKEfDOT ABOVE
gBELOWfHOOKfLINE BELOWfRETROFLEX HOOKfSTROKEdTHORNeWITH STROKEgTHROUGH DESCENDERdTONE FIVEeSIX
eTWOdTRESILLOdTURNED AeALPHAeHeINSULAR GeKeLeMeTeVdTZdUeBAReWITH ACUTEfBREVEfCARONfCIRCUMFLEX
gBELOWfDIAERESISgAND ACUTEhCARONhGRAVEhMACRONgBELOWfDOT BELOWfDOUBLE ACUTEgGRAVEfGRAVE
fHOOK ABOVEfHORNgAND ACUTEhDOT BELOWhGRAVEhHOOK ABOVEhTILDEfINVERTED BREVEfMACRONgAND DIAERESIS
fOGONEKfRING ABOVEfSTROKEfTILDEgAND ACUTEgBELOWdUPSILONdVeWITH DIAGONAL STROKEfDOT BELOWfHOOK
fTILDEdVENDdVISIGOTHIC ZdVOLAPUK AEeOEeUEdVYdWeWITH ACUTEfCIRCUMFLEXfDIAERESISfDOT ABOVEgBELOW
fGRAVEfHOOKdWYNNdXeWITH DIAERESISfDOT ABOVEdYeWITH ACUTEfCIRCUMFLEXfDIAERESISfDOT ABOVEgBELOW
fGRAVEfHOOKgABOVEfLOOPfMACRONfSTROKEfTILDEdYOGHdZeWITH ACUTEfCARONfCIRCUMFLEXfDESCENDER
fDOT ABOVEgBELOWfHOOKfLINE BELOWfPALATAL HOOKfSTROKEfSWASH TAILcLIGATURE IJdOEbCROSS
bEPIGRAPHIC LETTER ARCHAIC MdI LONGAdINVERTED MdREVERSED FePdSIDEWAYS IbLETTER AIN
cALVEOLAR CLICKcBIDENTAL PERCUSSIVEcBILABIAL CLICKdPERCUSSIVEcDENTAL CLICKcGLOTTAL STOP
eWITH STROKEcINVERTED GLOTTAL STOPfWITH CURLgSTROKEcLATERAL CLICKcPHARYNGEAL VOICED FRICATIVE
cRETROFLEX CLICKeWITH RETROFLEX HOOKcREVERSED ESH LOOPdGLOTTAL STOP WITH STROKEcSINOLOGICAL DOT
cSMALL CAPITAL AeAEeBeBARRED BeCeDeEeETHeEZHeFeGfWITH HOOKeHeIeINVERTED ReJeKeLfWITH BELTgSTROKE
eMeNeOeOEeOPEN OeOUePeQeRfWITH RIGHT LEGeREVERSED NfReRUMeSeTeTURNED EfGfKfMfReUeVeWeYeZ
cSTRETCHED CeWITH CURLcTWO WITH STROKEcVOICED LARYNGEAL SPIRANTcWYNNcYR
bSMALL CAPITAL LETTER I WITH STROKEeU WITH STROKEcLETTER AeREVERSED-SCHWAeWITH ACUTEfBREVE
gAND ACUTEhDOT BELOWhGRAVEhHOOK ABOVEhTILDEfCARONfCIRCUMFLEXgAND ACUTEhDOT BELOWhGRAVE
hHOOK ABOVEhTILDEfDIAERESISgAND MACRONfDOT ABOVEhAND MACRONgBELOWfDOUBLE GRAVEfGRAVEfHOOK ABOVE
fINVERTED BREVEfMACRONfOGONEKfRETROFLEX HOOKfRIGHT HALF RINGfRING ABOVEhAND ACUTEgBELOWfSTROKE
fTILDEdAAdAEeWITH ACUTEfMACRONdALPHAeWITH RETROFLEX HOOKdANGLICANA WdAOdAUdAV
eWITH HORIZONTAL BARdAYdBeWITH DOT ABOVEgBELOWfFLOURISHfHOOKfLINE BELOWfMIDDLE TILDE
fPALATAL HOOKfSTROKEfTOPBARdBARRED ALPHAeEeOdBASELINE ESHdBETAdBLACKLETTER EeOfWITH STROKE
dBOTTOM HALF OdBROKEN LdCeWITH ACUTEfBARfCARONfCEDILLAgAND ACUTEfCIRCUMFLEXfCURLfDOT ABOVEfHOOK
fPALATAL HOOKfRETROFLEX HOOKfSTROKEdCHIeWITH LOW LEFT SERIFgRIGHT RINGdCLOSED INSULAR GeOMEGA
eOPEN EeREVERSED OPEN EdCONdCUATRILLOeWITH COMMAdDeWITH CARONfCEDILLAfCIRCUMFLEX BELOWfCURL
fDOT ABOVEgBELOWfHOOKgAND TAILfLINE BELOWfMIDDLE TILDEfPALATAL HOOKfSHORT STROKE OVERLAYfSTROKE
fTAILfTOPBARdDB DIGRAPHdDELTAdDEZH DIGRAPHfWITH PALATAL HOOKgRETROFLEX HOOKdDOTLESS IeJ
fWITH STROKEhAND HOOKdDOUBLE RfWITH CROSSED-TAILeTHORNeWYNNdDUMdDZeDIGRAPHfWITH CURL
gRETROFLEX HOOKeWITH CARONdEeWITH ACUTEfBREVEfCARONfCEDILLAgAND BREVEfCIRCUMFLEXgAND ACUTE
hDOT BELOWhGRAVEhHOOK ABOVEhTILDEgBELOWfDIAERESISfDOT ABOVEgBELOWfDOUBLE GRAVEfFLOURISHfGRAVE
fHOOK ABOVEfINVERTED BREVEfMACRONgAND ACUTEhGRAVEfNOTCHfOGONEKfRETROFLEX HOOKfSTROKEfTILDEgBELOW
dEGYPTOLOGICAL AINeALEFdENGeWITH CROSSED-TAILfPALATAL HOOKdESHeWITH CURLfDOUBLE BARhAND CURL
fPALATAL HOOKfRETROFLEX HOOKdETdETHdEZHeREVERSEDeWITH CARONfCURLfPALATAL HOOKfRETROFLEX HOOK
fTAILdFeWITH DOT ABOVEfHOOKfMIDDLE TILDEfPALATAL HOOKfSTROKEdFENG DIGRAPHfWITH TRILLdG
eWITH ACUTEfBREVEfCARONfCEDILLAfCIRCUMFLEXfDOT ABOVEfHOOKfMACRONfOBLIQUE STROKEfPALATAL HOOK
fSTROKEdGAMMAdGHAdGLOTTAL AeIeSTOPeUdHeWITH BREVE BELOWfCARONfCEDILLAfCIRCUMFLEXfDESCENDER
fDIAERESISfDOT ABOVEgBELOWfHOOKfLINE BELOWfPALATAL HOOKfSTROKEdHALF HdHENGeWITH HOOKdHVdI
eWITH ACUTEfBREVEfCARONfCIRCUMFLEXfDIAERESISgAND ACUTEfDOT BELOWfDOUBLE GRAVEfGRAVEfHOOK ABOVE
fINVERTED BREVEfMACRONfOGONEKfRETROFLEX HOOKfSTROKEgAND RETROFLEX HOOKfTILDEgBELOWdINSULAR DeFeG
eReSeTdINVERTED ALPHAeOEdIOTAeWITH STROKEdIOTIFIED EdISdJeWITH CARONfCIRCUMFLEXfCROSSED-TAIL
fSTROKEdKeWITH ACUTEfCARONfCEDILLAfDESCENDERfDIAGONAL STROKEfDOT BELOWfHOOKfLINE BELOW
fOBLIQUE STROKEfPALATAL HOOKfSTROKEgAND DIAGONAL STROKEdKRAdLeWITH ACUTEfBARfBELT
gAND PALATAL HOOKfCARONfCEDILLAfCIRCUMFLEX BELOWfCURLfDOT BELOWhAND MACRONfDOUBLE BAR
gMIDDLE TILDEfFISHHOOKfHIGH STROKEfINVERTED LAZY SfLINE BELOWfMIDDLE DOTgRINGgTILDEfPALATAL HOOK
fRETROFLEX HOOKhAND BELTfSTROKEdLAMBDA WITH STROKEdLENIS FdLEZHeWITH RETROFLEX HOOKdLJdLONG S
fWITH DIAGONAL STROKEgDOT ABOVEgHIGH STROKEdLS DIGRAPHdLUMdLZ DIGRAPHdMeWITH ACUTEfCROSSED-TAIL
fDOT ABOVEgBELOWfHOOKfMIDDLE TILDEfPALATAL HOOKdMIDDLE SCOTS SdMIDDLE-WELSH LLeVdMUMdN
ePRECEDED BY APOSTROPHEeWITH ACUTEfCARONfCEDILLAfCIRCUMFLEX BELOWfCROSSED-TAILfCURLfDESCENDER
fDOT ABOVEgBELOWfGRAVEfLEFT HOOKfLINE BELOWfLONG RIGHT LEGfMIDDLE TILDEfOBLIQUE STROKE
fPALATAL HOOKfRETROFLEX HOOKfTILDEdNJdNUMdOeWITH ACUTEfBREVEfCARONfCIRCUMFLEXgAND ACUTE
hDOT BELOWhGRAVEhHOOK ABOVEhTILDEfDIAERESISgAND MACRONfDOT ABOVEhAND MACRONgBELOWfDOUBLE ACUTE
gGRAVEfGRAVEfHOOK ABOVEfHORNgAND ACUTEhDOT BELOWhGRAVEhHOOK ABOVEhTILDEfINVERTED BREVE
fLONG STROKE OVERLAYfLOOPfLOW RING INSIDEfMACRONgAND ACUTEhGRAVEfOGONEKgAND MACRON
fRETROFLEX HOOKfSTROKEgAND ACUTEfTILDEgAND ACUTEhDIAERESIShMACRONdOIdOLD POLISH OdOMEGAdOO
dOPEN EfWITH RETROFLEX HOOKeOfWITH RETROFLEX HOOKgSTROKEeOEdOUdPeWITH ACUTEfDOT ABOVEfFLOURISH
fHOOKfMIDDLE TILDEfPALATAL HOOKfSQUIRREL TAILfSTROKEgTHROUGH DESCENDERdPHIdQ
eWITH DIAGONAL STROKEfHOOKgTAILfSTROKE THROUGH DESCENDERdQP DIGRAPHdReROTUNDAeWITH ACUTEfCARON
fCEDILLAfCROSSED-TAILfDOT ABOVEgBELOWhAND MACRONfDOUBLE GRAVEfFISHHOOKgAND MIDDLE TILDE
hPALATAL HOOKfINVERTED BREVEfLINE BELOWfLONG LEGfMIDDLE TILDEfOBLIQUE STROKEfPALATAL HOOKfSTROKE
fTAILeWITHOUT HANDLEdRAMS HORNdREVERSED CfWITH DOTeEeENGeHALF HeKeOPEN EgWITH HOOK
hRETROFLEX HOOKeR WITH FISHHOOKeSCRIPT GdRUMeROTUNDAdSeWITH ACUTEgAND DOT ABOVEfCARON
gAND DOT ABOVEfCEDILLAfCIRCUMFLEXfCOMMA BELOWfCURLfDOT ABOVEgBELOWhAND DOT ABOVEfHOOK
fMIDDLE TILDEfOBLIQUE STROKEfPALATAL HOOKfSHORT STROKE OVERLAYfSWASH TAILdSAKHA YATdSALTILLO
dSCHWAeWITH HOOKfRETROFLEX HOOKdSCRIPT GfWITH CROSSED-TAILeRfWITH RINGdSHARP S
dSIDEWAYS DIAERESIZED UeOfWITH STROKEeOPEN OeTURNED MeUdSIGMOID SdSQUAT REVERSED ESHdSTIRRUP RdT
eWITH CARONfCEDILLAfCIRCUMFLEX BELOWfCOMMA BELOWfCURLfDIAERESISfDIAGONAL STROKEfDOT ABOVEgBELOW
fHOOKgAND RETROFLEX HOOKfLINE BELOWfMIDDLE TILDEfPALATAL HOOKfRETROFLEX HOOKfSTROKEdTAILLESS PHI
dTC DIGRAPH WITH CURLdTESH DIGRAPHfWITH PALATAL HOOKgRETROFLEX HOOKdTH WITH STRIKETHROUGHdTHORN
eWITH STROKEgTHROUGH DESCENDERdTONE FIVEeSIXeTWOdTOP HALF OdTRESILLOdTS DIGRAPH
fWITH RETROFLEX HOOKdTUMdTURNED AeAEeALPHAeDELTAeEeGeHfWITH FISHHOOKhAND TAILeIeINSULAR GeKeLeM
fWITH LONG LEGeO OPEN-OgWITH STROKEeOEfWITH HORIZONTAL STROKEgSTROKEeOPEN EeRfWITH HOOKgLONG LEG
iAND RETROFLEX HOOKgMIDDLE TILDEgPALATAL HOOKgTAILeTfWITH CURLeUIeVeWeYfWITH BELTdTZdUeBAR
fWITH SHORT RIGHT LEGeWITH ACUTEfBREVEfCARONfCIRCUMFLEXgBELOWfDIAERESISgAND ACUTEhCARONhGRAVE
hMACRONgBELOWfDOT BELOWfDOUBLE ACUTEgGRAVEfGRAVEfHOOK ABOVEfHORNgAND ACUTEhDOT BELOWhGRAVE
hHOOK ABOVEhTILDEfINVERTED BREVEfLEFT HOOKfMACRONgAND DIAERESISfOGONEKfRETROFLEX HOOKfRING ABOVE
fSHORT RIGHT LEGfSTROKEfTILDEgAND ACUTEgBELOWdUEdUIdUMdUOdUPSILONeWITH STROKEdVeWITH CURL
fDIAGONAL STROKEfDOT BELOWfHOOKfPALATAL HOOKfRIGHT HOOKfTILDEdVENDdVISIGOTHIC ZdVOLAPUK AEeOEeUE
dVYdWeWITH ACUTEfCIRCUMFLEXfDIAERESISfDOT ABOVEgBELOWfGRAVEfHOOKfRING ABOVEdXeWITH DIAERESIS
fDOT ABOVEfLONG LEFT LEGiAND LOW RIGHT RINGiWITH SERIFfLOW RIGHT RINGfPALATAL HOOKdYeWITH ACUTE
fCIRCUMFLEXfDIAERESISfDOT ABOVEgBELOWfGRAVEfHOOKgABOVEfLOOPfMACRONfRING ABOVEfSHORT RIGHT LEG
fSTROKEfTILDEdYOGHdZeWITH ACUTEfCARONfCIRCUMFLEXfCURLfDESCENDERfDOT ABOVEgBELOWfHOOKfLINE BELOW
fMIDDLE TILDEfPALATAL HOOKfRETROFLEX HOOKfSTROKEfSWASH TAILcLIGATURE FFdFFIdFFLdFIdFLdIJ
dLONG S TdOEdSTbSUBSCRIPT SMALL LETTER AeEeHeIeJeKeLeMeNeOePeReSeSCHWAeTeUeVeX
aLEAF FLUTTERING IN WINDaLEAFY GREENaLEDGER
aLEFT AND LOWER AND RIGHT TRIANGULAR THREE QUARTERS BLOCKdONE EIGHTH BLOCK
cRIGHT DOUBLE TURNSTILEdTACKdTRIANGULAR HALF BLOCK
cUPPER AND RIGHT TRIANGULAR THREE QUARTERS BLOCKdONE EIGHTH BLOCKbANGER BUBBLEbANGLE BRACKET
dWITH DOTbARC LESS-THAN BRACKETbARROW WITH CIRCLED PLUSdSMALL CIRCLE
bBARB DOWN RIGHT BARB DOWN HARPOONfUP HARPOONcUP RIGHT BARB DOWN HARPOONfUP HARPOON
bBLACK LENTICULAR BRACKETcTORTOISE SHELL BRACKETbCEILINGbCLOSED ENTRYbCORNER BRACKET
bCURLY BRACKETdLOWER HOOKdMIDDLE PIECEdUPPER HOOKbDOTTED SUBSTITUTION BRACKET
bDOUBLE ANGLE BRACKETcPARENTHESIScQUOTATION MARKcWIGGLY FENCEbFISH TAILbFIVE EIGHTHS BLOCKbFLOOR
bHALF BLACK CIRCLEdSTARcBLOCKcCIRCLEdWITH DOTeFOUR DOTSeTHREE DOTSeTWO DOTScFOLDER
cINVERSE MEDIUM SHADE AND RIGHT HALF BLOCKcMEDIUM SHADEcRUNNING MANbHAND TELEPHONE RECEIVER
bLOW PARAPHRASE BRACKETbLUGGAGEbMULTIMAPbNORMAL FACTOR SEMIDIRECT PRODUCTbONE EIGHTH BLOCK
cQUARTER BLOCKbOUTER JOINbPARENTHESIScEXTENSIONcLOWER HOOKcUPPER HOOKbRAISED OMISSION BRACKET
bRIGHT ARROWdTHROUGH SMALL CIRCLEdWITH DOUBLE VERTICAL STROKEeSTROKEeVERTICAL STROKEcBLACK ARROW
cDOUBLE ARROWeWITH STROKEfVERTICAL STROKEcOPEN-HEADED ARROWcSANS-SERIF ARROW
cTRIANGLE-HEADED ARROWcWAVE ARROWcWHITE ARROWbS-SHAPED BAG DELIMITERbSEMIDIRECT PRODUCT
bSEVEN EIGHTHS BLOCKbSIDEWAYS U BRACKETbSINGLE QUOTATION MARKbSPEECH BUBBLEbSQUARE BRACKET
dEXTENSIONdLOWER CORNERdUPPER CORNERdWITH DOUBLE STROKEeQUILLeSTROKEeTICK IN BOTTOM CORNER
gTOP CORNEReUNDERBARbSUBSTITUTION BRACKETbTACKbTHIRD WHITE RIGHT POINTING INDEXbTHOUGHT BUBBLE
bTHREE EIGHTHS BLOCKcQUARTERS BLOCKbTORTOISE SHELL BRACKETbTRANSPOSITION BRACKET
bTRIANGLE BESIDE VERTICAL BARbTRIANGULAR ONE QUARTER BLOCKbVERTICAL BAR WITH QUILLcBOX LINE
bWHITE CORNER BRACKETcCURLY BRACKETcLENTICULAR BRACKETcPARENTHESIScSQUARE BRACKET
cTORTOISE SHELL BRACKETbWIGGLY FENCEbWRITING HANDaLEFT-FACING ARMENIAN ETERNITY SIGNbFIST
bSVASTI SIGNdWITH DOTSaLEFT-HANDED INTERLACED PENTAGRAMaLEFT-POINTING ANGLE BRACKET
bCURVED ANGLE BRACKETbDOUBLE ANGLE QUOTATION MARKbMAGNIFYING GLASS
aLEFT-SHADED WHITE RIGHTWARDS ARROWaLEFT-SIDE ARC ANTICLOCKWISE ARROWaLEFT-TO-RIGHT EMBEDDING
bISOLATEbMARKbOVERRIDEaLEFTWARDS ARROWcABOVE ALMOST EQUAL TOdREVERSE ALMOST EQUAL TO
eTILDE OPERATORdSHORT RIGHTWARDS ARROWdTILDE OPERATORcAND UPPER AND LOWER ONE EIGHTH BLOCK
cFROM BAReTO BLACK DIAMONDcOVER RIGHTWARDS ARROWcTHROUGH LESS-THANdSUBSETdXcTO BAR
eOVER RIGHTWARDS ARROW TO BARdBLACK DIAMONDcWITH DOTTED STEMdDOUBLE VERTICAL STROKE
dEQUILATERAL ARROWHEADdHOOKdLARGE TRIANGLE ARROWHEADdLOOPdMEDIUM TRIANGLE ARROWHEADdNOTCHED TAIL
dPLUS BELOWdSMALL EQUILATERAL ARROWHEADeTRIANGLE ARROWHEADdSTROKEdTAIL
eWITH DOUBLE VERTICAL STROKEfVERTICAL STROKEdTIP DOWNWARDSeUPWARDSdVERTICAL STROKEbARROW-TAIL
bBACK-TILTED SHADOWED WHITE ARROWbBLACK ARROWcCIRCLED WHITE ARROWbBOTTOM-SHADED WHITE ARROW
bCOMPRESSED ARROWbDASHED ARROWbDOUBLE ARROWdFROM BARdWITH STROKEeVERTICAL STROKEcARROW-TAIL
cDASH ARROWbFINGER-POST ARROWbFRONT-TILTED SHADOWED WHITE ARROWbHAND
bHARPOON OVER RIGHTWARDS HARPOONcWITH BARB DOWN ABOVE RIGHTWARDS HARPOON WITH BARB DOWN
fBELOW LONG DASHfFROM BARfTO BAReDOWNWARDSeUP ABOVE LEFTWARDS HARPOON WITH BARB DOWNgLONG DASH
gRIGHTWARDS HARPOON WITH BARB UPfFROM BARfTO BAReUPWARDSbHEAVY ARROWcCOMPRESSED ARROW
bLEFT-SHADED WHITE ARROWbOPEN-HEADED ARROWbPAIRED ARROWSbQUADRUPLE ARROW
bRIGHT-SHADED WHITE ARROWbROCKETbSANS-SERIF ARROWbSQUARED ARROWbSQUIGGLE ARROW
bTOP SHADED WHITE ARROWbTRIANGLE ARROWHEADbTRIANGLE-HEADED ARROW
dOVER RIGHTWARDS TRIANGLE-HEADED ARROWdTO BARdWITH BOLD SHAFTeDOUBLE HORIZONTAL STROKE
fVERTICAL STROKEeHEAVY SHAFTeLONG TIP DOWNWARDSgUPWARDSeMEDIUM SHAFTeNARROW SHAFT
eVERY HEAVY SHAFTcDASHED ARROWcPAIRED ARROWSbTRIPLE ARROWcDASH ARROWbTWO HEADED ARROW
bTWO-HEADED ARROW FROM BARdWITH DOUBLE VERTICAL STROKEeTAILfWITH DOUBLE VERTICAL STROKE
gVERTICAL STROKEeTRIANGLE ARROWHEADSeVERTICAL STROKEcTRIPLE DASH ARROWbWAVE ARROWbWHITE ARROW
dWITHIN TRIANGLE ARROWHEADaLEGaLEMONaLEOaLEOPARDaLEPCHA CONSONANT SIGN KdKANGdLdMdNdNYIN-DOdPdR
dTbDIGIT EIGHTcFIVEcFOURcNINEcONEcSEVENcSIXcTHREEcTWOcZERObLETTER AcBAcBLAcCAcCHAcDAcDDAcDZAcFA
cFLAcGAcGLAcHAcHLAcJAcKAcKHAcKLAcLAcMAcMLAcNAcNGAcNYAcPAcPHAcPLAcRAcSAcSHAcTAcTHAcTSAcTSHAcTTA
cTTHAcVAcWAcYAbPUNCTUATION CER-WAcNYET THYOOM TA-ROLcTA-ROLcTSHOOKdCER-WAbSIGN NUKTAcRAN
bSUBJOINED LETTER RAdYAbVOWEL SIGN AAdEdIdOdOOdUdUU
aLESS-THAN ABOVE DOUBLE-LINE EQUAL ABOVE GREATER-THANcGREATER-THAN ABOVE DOUBLE-LINE EQUAL
cLEFTWARDS ARROWcSIMILAR ABOVE GREATER-THANdOR EQUAL
cSLANTED EQUAL ABOVE GREATER-THAN ABOVE SLANTED EQUALbAND NOT APPROXIMATE
cSINGLE-LINE NOT EQUAL TObBUT NOT EQUAL TOdEQUIVALENT TObCLOSED BY CURVEeABOVE SLANTED EQUAL
bEQUAL TO OR GREATER-THANbOR APPROXIMATEcEQUAL TOcEQUIVALENT TOcGREATER-THANcSLANTED EQUAL TO
fWITH DOT ABOVEiRIGHThINSIDEbOVER EQUAL TObSIGNbWITH CIRCLE INSIDEcDOTcQUESTION MARK ABOVE
aLEVEL SLIDERaLFaLIBRAaLIGATURE OPEN ET ORNAMENTaLIGHT CHECK MARKbEIGHT SPOKED ASTERISK
bFIVE POINTED BLACK STARcSPOKED ASTERISKbFOUR POINTED BLACK CUSPeSTARbGREEK CROSS
bLEFT TORTOISE SHELL BRACKET ORNAMENTbRAILbRIGHT TORTOISE SHELL BRACKET ORNAMENTbSALTIREbSHADE
bSIX SPOKED ASTERISKbTHREE POINTED BLACK STARbTWELVE POINTED BLACK STARbVERTICAL BAR
bWHITE SQUAREaLIGHTNINGbMOODcBUBBLEaLIMBU DIGIT EIGHTcFIVEcFOURcNINEcONEcSEVENcSIXcTHREEcTWO
cZERObEXCLAMATION MARKbLETTER BAcBHAcCAcCHAcDAcDHAcGAcGHAcGYANcHAcJAcJHAcKAcKHAcLAcMAcNAcNGAcPA
cPHAcRAcSAcSHAcSSAcTAcTHAcTRAcWAcYAcYANbQUESTION MARKbSIGN KEMPHRENGcLOOcMUKPHRENGcSA-I
bSMALL LETTER ANUSVARAdKAdLAdMAdNAdNGAdPAdRAdTAbSUBJOINED LETTER RAdWAdYAbVOWEL SIGN AdAIdAUdE
dEEdIdOdOOdUbVOWEL-CARRIER LETTERaLIMITED LIABILITY SIGNaLINE FEED
bINTEGRATION NOT INCLUDING THE POLEcWITH RECTANGULAR PATH AROUND POLE
dSEMICIRCULAR PATH AROUND POLEbSEPARATORbTABULATIONcSETaLINEAR A SIGN A028BdA100-102dA120BdA131C
dA301dA302dA303dA304dA305dA306dA307dA308dA309AdA309BdA309CdA310dA311dA312dA313AdA313BdA313CdA314
dA315dA316dA317dA318dA319dA320dA321dA322dA323dA324dA325dA326dA327dA328dA329dA330dA331dA332dA333
dA334dA335dA336dA337dA338dA339dA340dA341dA342dA343dA344dA345dA346dA347dA348dA349dA350dA351dA352
dA353dA354dA355dA356dA357dA358dA359dA360dA361dA362dA363dA364dA365dA366dA367dA368dA369dA370dA371
dA400-VASdA401-VASdA402-VASdA403-VASdA404-VASdA405-VASdA406-VASdA407-VASdA408-VASdA409-VAS
dA410-VASdA411-VASdA412-VASdA413-VASdA414-VASdA415-VASdA416-VASdA417-VASdA418-VASdA501dA502dA503
dA504dA505dA506dA508dA509dA510dA511dA512dA513dA515dA516dA520dA521dA523dA524dA525dA526dA527dA528
dA529dA530dA531dA532dA534dA535dA536dA537dA538dA539dA540dA541dA542dA545dA547dA548dA549dA550dA551
dA552dA553dA554dA555dA556dA557dA559dA563dA564dA565dA566dA568dA569dA570dA571dA572dA573dA574dA575
dA576dA577dA578dA579dA580dA581dA582dA583dA584dA585dA586dA587dA588dA589dA591dA592dA594dA595dA596
dA598dA600dA601dA602dA603dA604dA606dA608dA609dA610dA611dA612dA613dA614dA615dA616dA617dA618dA619
dA620dA621dA622dA623dA624dA626dA627dA628dA629dA634dA637dA638dA640dA642dA643dA644dA645dA646dA648
dA649dA651dA652dA653dA654dA655dA656dA657dA658dA659dA660dA661dA662dA663dA664dA701 AdA702 BdA703 D
dA704 EdA705 FdA706 HdA707 JdA708 KdA709 LdA709-2 L2dA709-3 L3dA709-4 L4dA709-6 L6dA710 WdA711 X
dA712 YdA713 OMEGAdA714 ABBdA715 BBdA717 DDdA726 EYYYdA732 JEdA800dA801dA802dA803dA804dA805dA806
dA807dAB001dAB002dAB003dAB004dAB005dAB006dAB007dAB008dAB009dAB010dAB011dAB013dAB016dAB017dAB020
dAB021dAB021FdAB021MdAB022dAB022FdAB022MdAB023dAB023MdAB024dAB026dAB027dAB028dAB029dAB030dAB031
dAB034dAB037dAB038dAB039dAB040dAB041dAB044dAB045dAB046dAB047dAB048dAB049dAB050dAB051dAB053dAB054
dAB055dAB056dAB057dAB058dAB059dAB060dAB061dAB065dAB066dAB067dAB069dAB070dAB073dAB074dAB076dAB077
dAB078dAB079dAB080dAB081dAB082dAB085dAB086dAB087dAB118dAB120dAB122dAB123dAB131AdAB131BdAB164
dAB171dAB180dAB188dAB191bB IDEOGRAM B100 MANdB102 WOMANdB104 DEERdB105 EQUIDdB105F MARE
dB105M STALLIONdB106F EWEdB106M RAMdB107F SHE-GOATdB107M HE-GOATdB108F SOWdB108M BOARdB109F COW
dB109M BULLdB120 WHEATdB121 BARLEYdB122 OLIVEdB123 SPICEdB125 CYPERUSdB130 OILdB131 WINEdB132
dB140 BRONZEdB141 GOLDdB142dB145 WOOLdB146dB150dB151 HORNdB152dB153dB154dB157dB158dB159 CLOTH
dB160dB161dB162 GARMENTdB163 ARMOURdB164dB165dB166dB167dB168dB169dB170dB171dB172dB173 MONTHdB174
dB176 TREEdB177dB178dB179dB180dB181dB182dB183dB184dB185dB189dB190dB191 HELMETdB220 FOOTSTOOL
dB225 BATHTUBdB230 SPEARdB231 ARROWdB232dB233 SWORDdB234dB236dB240 WHEELED CHARIOTdB241 CHARIOT
dB242 CHARIOT FRAMEdB243 WHEELdB245dB246dB248dB249dB251dB252dB253dB254 DARTdB255dB256dB257dB258
dB259dVESSEL B155eB200eB201eB202eB203eB204eB205eB206eB207eB208eB209eB210eB211eB212eB213eB214
eB215eB216eB217eB218eB219eB221eB222eB226eB227eB228eB229eB250eB305cMONOGRAM B127 KAPOdB128 KANAKO
dB133 AREPAdB135 MERIdB156 TURO2dB247 DIPTEcSYLLABLE B001 DAdB002 ROdB003 PAdB004 TEdB005 TO
dB006 NAdB007 DIdB008 AdB009 SEdB010 UdB011 POdB012 SOdB013 MEdB014 DOdB015 MOdB016 QAdB017 ZA
dB020 ZOdB021 QIdB023 MUdB024 NEdB025 A2dB026 RUdB027 REdB028 IdB029 PU2dB030 NIdB031 SAdB032 QO
dB033 RA3dB036 JOdB037 TIdB038 EdB039 PIdB040 WIdB041 SIdB042 WOdB043 A3dB044 KEdB045 DEdB046 JE
dB048 NWAdB050 PUdB051 DUdB052 NOdB053 RIdB054 WAdB055 NUdB057 JAdB058 SUdB059 TAdB060 RAdB061 O
dB062 PTEdB065 JUdB066 TA2dB067 KIdB068 RO2dB069 TUdB070 KOdB071 DWEdB072 PEdB073 MIdB074 ZE
dB075 WEdB076 RA2dB077 KAdB078 QEdB080 MAdB081 KUdB085 AUdB087 TWEdB090 DWOdB091 TWOcSYMBOL B018
dB019dB022dB034dB047dB049dB056dB063dB064dB079dB082dB083dB086dB089aLINK SYMBOLaLINKED PAPERCLIPS
aLION FACEaLIPSaLIPSTICKaLIRA SIGNaLISU LETTER AcAEcBAcCAcCHAcDAcDZAcEcEUcFAcGAcGHAcHAcHHAcIcJA
cKAcKHAcLAcMAcNAcNGAcOcOEcPAcPHAcSAcSHAcTAcTHAcTONE MYA BOeCYAeJEUeNAeTIdNA POcTSAcTSHAcUcUEcUH
cWAcXAcYAcYHAcZAcZHAbPUNCTUATION COMMAcFULL STOPaLIVRE TOURNOIS SIGNaLIZARDaLLAMAaLOBSTERaLOCK
bWITH INK PENaLOCKING-SHIFT ONEbZEROaLOGICAL ANDcWITH DOT ABOVEdDOUBLE OVERBAReUNDERBAR
dHORIZONTAL DASHdMIDDLE STEMdUNDERBARbORcOVERLAPPING LOGICAL ANDcWITH DOT ABOVEdDOUBLE OVERBAR
eUNDERBARdHORIZONTAL DASHdMIDDLE STEMaLOLLIPOPaLONG DASH FROM LEFT MEMBER OF DOUBLE VERTICAL
bDIVISIONbDRUMbLEFT RIGHT ARROWdDOUBLE ARROWcTACKbLEFTWARDS ARROWdFROM BARcDOUBLE ARROWeFROM BAR
cSQUIGGLE ARROWbRIGHT TACKbRIGHTWARDS ARROWdFROM BARcDOUBLE ARROWeFROM BARcSQUIGGLE ARROW
aLOTION BOTTLEaLOTUSaLOUDLY CRYING FACEaLOVE HOTELbLETTERaLOW ASTERISKbBATTERYbBRIGHTNESS SYMBOL
bDOUBLE PRIME QUOTATION MARKbKAVYKAcWITH DOTbLINEaLOWER BLADE SCISSORSbFIVE EIGHTHS BLOCK
bHALF BLOCKcCIRCLEcINVERSE WHITE CIRCLEcMEDIUM SHADEbLEFT BALLPOINT PEN
cBLOCK DIAGONAL LOWER MIDDLE LEFT TO LOWER CENTREjRIGHTeUPPER CENTRE TO LOWER MIDDLE RIGHTiRIGHT
hUPPER MIDDLE RIGHTfLEFT TO LOWER CENTREiMIDDLE RIGHThUPPER MIDDLE RIGHT
fMIDDLE LEFT TO LOWER CENTREjMIDDLE RIGHTjRIGHTcCRAYONcFOUNTAIN PENcPAINTBRUSHcPENCIL
cQUADRANT CIRCULAR ARCcSEMICIRCULAR ANTICLOCKWISE ARROWcTRIANGLEcTRIANGULAR MEDIUM SHADE
bONE EIGHTH BLOCKcQUARTER BLOCKbRIGHT BLOCK DIAGONAL LOWER CENTRE TO LOWER MIDDLE RIGHT
hUPPER MIDDLE RIGHTiRIGHTfLEFT TO LOWER MIDDLE RIGHThUPPER CENTREiMIDDLE RIGHT
fMIDDLE LEFT TO UPPER CENTREjMIDDLE RIGHTjRIGHTeUPPER MIDDLE LEFT TO UPPER CENTREjRIGHT
cCORNER WITH DOTcDROP-SHADOWED WHITE SQUAREcPENCILcQUADRANT CIRCULAR ARC
cSEMICIRCULAR CLOCKWISE ARROWcSHADOWED WHITE CIRCLEeSQUAREcTRIANGLEcTRIANGULAR MEDIUM SHADE
bSEVEN EIGHTHS BLOCKbTHREE EIGHTHS BLOCKcQUARTERS BLOCKbTRIANGULAR ONE QUARTER BLOCKaLOZENGE
bDIVIDED BY HORIZONTAL RULEaLREaLRIaLRMaLROaLUGGAGEaLUNGSaLYCIAN LETTER AcANcBcBHcDcEcENcGcHcIcJ
cKcKKcLcMcMMcNcNNcPcQcRcScTcTHcTTcUcWcXcZaLYDIAN LETTER AcANcBcCcDcEcENcFcGcIcKcLcLYcMcNcNNcOcQ
cRcScSScTcTTcUcVcYbTRIANGULAR MARKaLYING FACE"

def namesWithM : String :=
  "aMACRONaMAGEaMAGIC WANDaMAGNETaMAHAJANI ABBREVIATION SIGNbLETTER AcBAcBHAcCAcCHAcDAcDDAcDDHAcDHA
cEcGAcGHAcHAcIcJAcJHAcKAcKHAcLAcMAcNAcNNAcNYAcOcPAcPHAcRAcRRAcSAcTAcTHAcTTAcTTHAcUcVA
bLIGATURE SHRIbSECTION MARKbSIGN NUKTAaMAHJONG TILE AUTUMNcBACKcBAMBOOcCHRYSANTHEMUMcEAST WIND
cEIGHT OF BAMBOOSeCHARACTERSeCIRCLEScFIVE OF BAMBOOSeCHARACTERSeCIRCLEScFOUR OF BAMBOOS
eCHARACTERSeCIRCLEScGREEN DRAGONcJOKERcNINE OF BAMBOOSeCHARACTERSeCIRCLEScNORTH WIND
cONE OF BAMBOOSeCHARACTERSeCIRCLEScORCHIDcPLUMcRED DRAGONcSEVEN OF BAMBOOSeCHARACTERSeCIRCLES
cSIX OF BAMBOOSeCHARACTERSeCIRCLEScSOUTH WINDcSPRINGcSUMMERcTHREE OF BAMBOOSeCHARACTERSeCIRCLES
cTWO OF BAMBOOSeCHARACTERSeCIRCLEScWEST WINDcWHITE DRAGONcWINTERaMAKASAR ANGKAbEND OF SECTION
bLETTER AcBAcCAcDAcGAcJAcKAcLAcMAcNAcNGAcNYAcPAcRAcSAcTAcVAcYAbPASSIMBANGbVOWEL SIGN EdIdOdU
aMALAYALAM AU LENGTH MARKbDATE MARKbDIGIT EIGHTcFIVEcFOURcNINEcONEcSEVENcSIXcTHREEcTWOcZERO
bFRACTION ONE EIGHTHdFIFTHdFORTIETHdHALFdONE-HUNDRED-AND-SIXTIETHdQUARTERdSIXTEENTHdTENTH
dTWENTIETHcTHREE EIGHTIETHSdQUARTERSdSIXTEENTHSdTWENTIETHSbLETTER AcAAcAIcARCHAIC IIcAUcBAcBHA
cCAcCHAcCHILLU KdLdLLdLLLdMdNdNNdRRdYcDAcDDAcDDHAcDHAcDOT REPHcEcEEcGAcGHAcHAcIcIIcJAcJHAcKAcKHA
cLAcLLAcLLLAcMAcNAcNGAcNNAcNNNAcNYAcOcOOcPAcPHAcRAcRRAcSAcSHAcSSAcTAcTHAcTTAcTTHAcTTTAcUcUUcVA
cVEDIC ANUSVARAcVOCALIC LdLLdRdRRcYAbNUMBER ONE HUNDREDdTHOUSANDcTENbSIGN ANUSVARAcAVAGRAHA
cCANDRABINDUcCIRCULAR VIRAMAcCOMBINING ANUSVARA ABOVEcPARAcVERTICAL BAR VIRAMAcVIRAMAcVISARGA
bVOWEL SIGN AAdAIdAUdEdEEdIdIIdOdOOdUdUUdVOCALIC LeLLeReRRaMALE AND FEMALE SIGNbSIGN
bWITH STROKE AND MALE AND FEMALE SIGNdSIGNaMALTESE CROSSaMAMMOTHaMANbAND WOMAN HOLDING HANDS
bDANCINGbIN BUSINESS SUIT LEVITATINGcTUXEDObWITH GUA PI MAOcTURBANaMANAT SIGN
aMANDAIC AFFRICATION MARKbGEMINATION MARKbLETTER ABcADcAGcAHcAINcAKcAKSAcALcAMcANcAPcAQcARcAS
cASHcASZcATcATTcAZcDUSHENNAcHALQAcINcITcKADcUSHENNAbPUNCTUATIONbVOCALIZATION MARKaMANGO
aMANICHAEAN ABBREVIATION MARK ABOVEdBELOWbLETTER AAYINcALEPHcAYINcBETHcBHETHcDALETHcDHAMEDHcFE
cGHIMELcGIMELcHEcHETHcJAYINcJHAYINcKAPHcKHAPHcLAMEDHcMEMcNUNcPEcQHOPHcQOPHcRESHcSADHEcSAMEKH
cSHINcSSHINcTAWcTETHcTHAMEDHcWAWcXAPHcXOPHcYODHcZAYINcZHAYINbNUMBER FIVEcONEdHUNDREDcTENcTWENTY
bPUNCTUATION DOTdWITHIN DOTcDOUBLE DOT WITHIN DOTcFLEURONcLINE FILLERcSTARcTWO DOTSbSIGN UD
aMANS SHOEaMANTELPIECE CLOCKaMANUAL WHEELCHAIRaMAP SYMBOL FOR LIGHTHOUSEaMAPLE LEAF
aMARCHEN HEAD MARKbLETTER -AcAcBAcCAcCHAcDAcDZAcGAcHAcJAcKAcKHAcLAcMAcNAcNGAcNYAcPAcPHAcRAcSA
cSHAcTAcTHAcTSAcTSHAcWAcYAcZAcZHAbMARK SHADbSIGN ANUSVARAcCANDRABINDUbSUBJOINED LETTER AdBAdCA
dCHAdDAdDZAdGAdHAdJAdKAdKHAdLAdMAdNAdNGAdNYAdPAdPHAdRAdSAdSHAdTAdTHAdTSAdTSHAdWAdYAdZAdZHA
bVOWEL SIGN AAdEdIdOdUaMARRIAGE SYMBOLaMARTIAL ARTS UNIFORMaMASARAM GONDI DIGIT EIGHTdFIVEdFOUR
dNINEdONEdSEVENdSIXdTHREEdTWOdZEROcLETTER AdAAdAIdAUdBAdBHAdCAdCHAdDAdDDAdDDHAdDHAdEdGAdGHAdHAdI
dIIdJAdJHAdJNYAdKAdKHAdKSSAdLAdLLAdMAdNAdNGAdNNAdNYAdOdPAdPHAdRAdSAdSHAdSSAdTAdTHAdTRAdTTAdTTHA
dUdUUdVAdYAcRA-KARAcREPHAcSIGN ANUSVARAdCANDRAdHALANTAdNUKTAdVISARGAcVIRAMAcVOWEL SIGN AAeAIeAU
eEeIeIIeOeUeUUeVOCALIC RaMASCULINE ORDINAL INDICATORaMASK WORK SYMBOLaMASU MARKaMATE DRINK
aMATHEMATICAL BOLD CAPITAL AdALPHAdBdBETAdCdCHIdDdDELTAdDIGAMMAdEdEPSILONdETAdFdGdGAMMAdHdIdIOTA
dJdKdKAPPAdLdLAMDAdMdMUdNdNUdOdOMEGAdOMICRONdPdPHIdPIdPSIdQdRdRHOdSdSIGMAdTdTAUdTHETAeSYMBOLdU
dUPSILONdVdWdXdXIdYdZdZETAcDIGIT EIGHTdFIVEdFOURdNINEdONEdSEVENdSIXdTHREEdTWOdZERO
cEPSILON SYMBOLcFRAKTUR CAPITAL AeBeCeDeEeFeGeHeIeJeKeLeMeNeOePeQeReSeTeUeVeWeXeYeZdSMALL AeBeC
eDeEeFeGeHeIeJeKeLeMeNeOePeQeReSeTeUeVeWeXeYeZcITALIC CAPITAL AeALPHAeBeBETAeCeCHIeDeDELTAeE
eEPSILONeETAeFeGeGAMMAeHeIeIOTAeJeKeKAPPAeLeLAMDAeMeMUeNeNUeOeOMEGAeOMICRONePePHIePIePSIeQeReRHO
eSeSIGMAeTeTAUeTHETAfSYMBOLeUeUPSILONeVeWeXeXIeYeZeZETAdEPSILON SYMBOLdKAPPA SYMBOLdNABLA
dPARTIAL DIFFERENTIALdPHI SYMBOLdPI SYMBOLdRHO SYMBOLdSMALL AeALPHAeBeBETAeCeCHIeDeDELTAeE
eEPSILONeETAeFeFINAL SIGMAeGeGAMMAeHeIeIOTAeJeKeKAPPAeLeLAMDAeMeMUeNeNUeOeOMEGAeOMICRONePePHIePI
ePSIeQeReRHOeSeSIGMAeTeTAUeTHETAeUeUPSILONeVeWeXeXIeYeZeZETAdTHETA SYMBOLcKAPPA SYMBOLcNABLA
cPARTIAL DIFFERENTIALcPHI SYMBOLcPI SYMBOLcRHO SYMBOLcSCRIPT CAPITAL AeBeCeDeEeFeGeHeIeJeKeLeMeN
eOePeQeReSeTeUeVeWeXeYeZdSMALL AeBeCeDeEeFeGeHeIeJeKeLeMeNeOePeQeReSeTeUeVeWeXeYeZcSMALL AdALPHA
dBdBETAdCdCHIdDdDELTAdDIGAMMAdEdEPSILONdETAdFdFINAL SIGMAdGdGAMMAdHdIdIOTAdJdKdKAPPAdLdLAMDAdM
dMUdNdNUdOdOMEGAdOMICRONdPdPHIdPIdPSIdQdRdRHOdSdSIGMAdTdTAUdTHETAdUdUPSILONdVdWdXdXIdYdZdZETA
cTHETA SYMBOLbDOUBLE-STRUCK CAPITAL AdBdDdEdFdGdIdJdKdLdMdOdSdTdUdVdWdXdYcDIGIT EIGHTdFIVEdFOUR
dNINEdONEdSEVENdSIXdTHREEdTWOdZEROcSMALL AdBdCdDdEdFdGdHdIdJdKdLdMdNdOdPdQdRdSdTdUdVdWdXdYdZ
bFALLING DIAGONALbFRAKTUR CAPITAL AdBdDdEdFdGdJdKdLdMdNdOdPdQdSdTdUdVdWdXdYcSMALL AdBdCdDdEdFdG
dHdIdJdKdLdMdNdOdPdQdRdSdTdUdVdWdXdYdZbITALIC CAPITAL AdALPHAdBdBETAdCdCHIdDdDELTAdEdEPSILONdETA
dFdGdGAMMAdHdIdIOTAdJdKdKAPPAdLdLAMDAdMdMUdNdNUdOdOMEGAdOMICRONdPdPHIdPIdPSIdQdRdRHOdSdSIGMAdT
dTAUdTHETAeSYMBOLdUdUPSILONdVdWdXdXIdYdZdZETAcEPSILON SYMBOLcKAPPA SYMBOLcNABLA
cPARTIAL DIFFERENTIALcPHI SYMBOLcPI SYMBOLcRHO SYMBOLcSMALL AdALPHAdBdBETAdCdCHIdDdDELTA
dDOTLESS IeJdEdEPSILONdETAdFdFINAL SIGMAdGdGAMMAdIdIOTAdJdKdKAPPAdLdLAMDAdMdMUdNdNUdOdOMEGA
dOMICRONdPdPHIdPIdPSIdQdRdRHOdSdSIGMAdTdTAUdTHETAdUdUPSILONdVdWdXdXIdYdZdZETAcTHETA SYMBOL
bLEFT ANGLE BRACKETcDOUBLE ANGLE BRACKETcFLATTENED PARENTHESIScWHITE SQUARE BRACKET
dTORTOISE SHELL BRACKETbMONOSPACE CAPITAL AdBdCdDdEdFdGdHdIdJdKdLdMdNdOdPdQdRdSdTdUdVdWdXdYdZ
cDIGIT EIGHTdFIVEdFOURdNINEdONEdSEVENdSIXdTHREEdTWOdZEROcSMALL AdBdCdDdEdFdGdHdIdJdKdLdMdNdOdPdQ
dRdSdTdUdVdWdXdYdZbRIGHT ANGLE BRACKETcDOUBLE ANGLE BRACKETcFLATTENED PARENTHESIS
cWHITE SQUARE BRACKETdTORTOISE SHELL BRACKETbRISING DIAGONALbSANS-SERIF BOLD CAPITAL AeALPHAeB
eBETAeCeCHIeDeDELTAeEeEPSILONeETAeFeGeGAMMAeHeIeIOTAeJeKeKAPPAeLeLAMDAeMeMUeNeNUeOeOMEGAeOMICRON
ePePHIePIePSIeQeReRHOeSeSIGMAeTeTAUeTHETAfSYMBOLeUeUPSILONeVeWeXeXIeYeZeZETAdDIGIT EIGHTeFIVE
eFOUReNINEeONEeSEVENeSIXeTHREEeTWOeZEROdEPSILON SYMBOLdITALIC CAPITAL AfALPHAfBfBETAfCfCHIfD
fDELTAfEfEPSILONfETAfFfGfGAMMAfHfIfIOTAfJfKfKAPPAfLfLAMDAfMfMUfNfNUfOfOMEGAfOMICRONfPfPHIfPIfPSI
fQfRfRHOfSfSIGMAfTfTAUfTHETAgSYMBOLfUfUPSILONfVfWfXfXIfYfZfZETAeEPSILON SYMBOLeKAPPA SYMBOL
eNABLAePARTIAL DIFFERENTIALePHI SYMBOLePI SYMBOLeRHO SYMBOLeSMALL AfALPHAfBfBETAfCfCHIfDfDELTAfE
fEPSILONfETAfFfFINAL SIGMAfGfGAMMAfHfIfIOTAfJfKfKAPPAfLfLAMDAfMfMUfNfNUfOfOMEGAfOMICRONfPfPHIfPI
fPSIfQfRfRHOfSfSIGMAfTfTAUfTHETAfUfUPSILONfVfWfXfXIfYfZfZETAeTHETA SYMBOLdKAPPA SYMBOLdNABLA
dPARTIAL DIFFERENTIALdPHI SYMBOLdPI SYMBOLdRHO SYMBOLdSMALL AeALPHAeBeBETAeCeCHIeDeDELTAeE
eEPSILONeETAeFeFINAL SIGMAeGeGAMMAeHeIeIOTAeJeKeKAPPAeLeLAMDAeMeMUeNeNUeOeOMEGAeOMICRONePePHIePI
ePSIeQeReRHOeSeSIGMAeTeTAUeTHETAeUeUPSILONeVeWeXeXIeYeZeZETAdTHETA SYMBOLcCAPITAL AdBdCdDdEdFdG
dHdIdJdKdLdMdNdOdPdQdRdSdTdUdVdWdXdYdZcDIGIT EIGHTdFIVEdFOURdNINEdONEdSEVENdSIXdTHREEdTWOdZERO
cITALIC CAPITAL AeBeCeDeEeFeGeHeIeJeKeLeMeNeOePeQeReSeTeUeVeWeXeYeZdSMALL AeBeCeDeEeFeGeHeIeJeK
eLeMeNeOePeQeReSeTeUeVeWeXeYeZcSMALL AdBdCdDdEdFdGdHdIdJdKdLdMdNdOdPdQdRdSdTdUdVdWdXdYdZ
bSCRIPT CAPITAL AdCdDdGdJdKdNdOdPdQdSdTdUdVdWdXdYdZcSMALL AdBdCdDdFdHdIdJdKdLdMdNdPdQdRdSdTdUdV
dWdXdYdZaMAXIMIZEaMAYAN NUMERAL EIGHTcEIGHTEENcELEVENcFIFTEENcFIVEcFOURcFOURTEENcNINEcNINETEEN
cONEcSEVENcSEVENTEENcSIXcSIXTEENcTENcTHIRTEENcTHREEcTWELVEcTWOcZEROaMEASURED ANGLEcOPENING LEFT
cWITH OPEN ARM ENDING IN ARROW POINTING DOWN AND LEFTlRIGHTjLEFT AND DOWNlUPjRIGHT AND DOWNlUP
jUP AND LEFTlRIGHTbBYbRIGHT ANGLE WITH DOTaMEAT ON BONEaMECHANICAL ARMbLEG
aMEDEFAIDRIN CAPITAL LETTER AdAIdATIUdBdCdDdEdFdGdHdHPdIdJdKdKPdLdMdNdNGdNYdOdOEdPdQdRdSdTdUdVdW
dXdYdYUdZbCOMMAbDIGIT EIGHTcFIVEcFOURcNINEcONEdALTERNATE FORMcSEVENcSIXcTHREEdALTERNATE FORMcTWO
dALTERNATE FORMcZERObEXCLAMATION OHbFULL STOPbNUMBER EIGHTEENcELEVENcFIFTEENcFOURTEENcNINETEEN
cSEVENTEENcSIXTEENcTENcTHIRTEENcTWELVEbSMALL LETTER AdAIdATIUdBdCdDdEdFdGdHdHPdIdJdKdKPdLdMdNdNG
dNYdOdOEdPdQdRdSdTdUdVdWdXdYdYUdZbSYMBOL AIVAaMEDIEVAL COMMAbEXCLAMATION MARKbQUESTION MARK
aMEDIUM BLACK CIRCLEbBOLD WHITE CIRCLEbEIGHT POINTED BLACK STARcSPOKED ASTERISK
bFIVE SPOKED ASTERISKbFLATTENED LEFT PARENTHESIS ORNAMENTcRIGHT PARENTHESIS ORNAMENT
bFOUR POINTED BLACK STARdPINWHEEL STARbGREEK CROSSbLEFT CURLY BRACKET ORNAMENT
cPARENTHESIS ORNAMENTbLEFT-POINTING ANGLE BRACKET ORNAMENTbMATHEMATICAL SPACE
bRIGHT CURLY BRACKET ORNAMENTcPARENTHESIS ORNAMENTbRIGHT-POINTING ANGLE BRACKET ORNAMENTbSALTIRE
bSHADEbSIX POINTED BLACK STARcSPOKED ASTERISKbSMALL WHITE CIRCLEbTHREE POINTED BLACK STAR
dPINWHEEL STARbVERTICAL BARbWHITE CIRCLEcSQUAREaMEETEI MAYEK AHANG KHUDAMcANJIcAPUN IYEK
cCHEIKHANcCHEIKHEIcDIGIT EIGHTdFIVEdFOURdNINEdONEdSEVENdSIXdTHREEdTWOdZEROcLETTER ATIYAdBAdBHAM
dCHAdCHILdDDAdDDHAdDHOUdDILdEdGHOUdGOKdHUKdIeLONSUMdJHAMdJILdKHOUdKOKeLONSUMdLAIeLONSUMdMIT
eLONSUMdNAeLONSUMdNGOUeLONSUMdNNAdNYAdOdPAeLONSUMdPHAMdRAIdSAMdSHAdSSAdTHOUdTILeLONSUMdTTAdTTHA
dUNdWAIdYANGcLUM IYEKcSYLLABLE REPETITION MARKcVIRAMAcVOWEL SIGN AAIeAAUeANAPeAUeCHEINAPeIIeINAP
eNUNGeONAPeSOUNAPeUNAPeUUeVISARGAeYENAPcWORD REPETITION MARKaMELONaMELTING FACEaMEMO
aMENDE KIKAKUI COMBINING NUMBER HUNDRED THOUSANDSeHUNDREDSeMILLIONSeTEENSeTEN THOUSANDSeTENS
eTHOUSANDScDIGIT EIGHTdFIVEdFOURdNINEdONEdSEVENdSIXdTHREEdTWOcSYLLABLE M001 KIdM002 KAdM003 KU
dM004 WIdM005 WAdM006 WUdM007 MINdM008 MANdM009 MUNdM010 BIdM011 BAdM012 BUdM013 IdM014 AdM015 U
dM016 DIdM017 DAdM018 DUdM019 SIdM020 SAdM021 SUdM022 TIdM023 TAdM024 TUdM025 LIdM026 LAdM027 LU
dM028 JIdM029 JAdM030 JUdM031 YIdM032 YAdM033 YUdM034 FIdM035 FAdM036 FUdM037 NINdM038 NAN
dM039 NUNdM040 HEEdM041 HAdM042 HOOdM043 NGGAdM044 KPEEdM045 WOdM046 HUANdM047 MBEEdM048 KO
dM049 WVAdM050 PUdM051 PEdM052 HENdM053 HINdM054 LOOdM055 TEdM056 GBAdM057 NGONdM058 NYAN
dM059 MENdM060 NYONdM061 WVIdM062 MBAdM063 JOdM064 NDOdM065 KEEdM066 POdM067 NDOOdM068 PI
dM069 TOdM070 GBOdM071 GBOOdM072 MBEdM073 LEdM074 KPUdM075 FEdM076 KOOdM077 VOdM078 FEEdM079 SO
dM080 YEdM081 PEEdM082 NGGUdM083 HEEIdM084 LEEdM085 VEdM086 LONG NGGEdM087 HUNdM088 FOdM089 DEE
dM090 NGGIdM091 TEEdM092 KPAdM093 GBEEdM094 MONdM095 KEdM096 HEdM097 BEdM098 NYENdM099 PAdM100 E
dM101 FANdM102 POOdM103 BOOdM104 TOOdM105 LONG MBOOdM106 LONG NGGOOdM107 GBEdM108 KPEdM109 YEE
dM110 LONG LEdM111 GAdM112 KPOOdM113 JEdM114 WOOdM115 NGGEEdM116 SEdM117 NENdM118 WEdM119 NDE
dM120 NGGOdM121 YOdM122 MBUdM123 NDIdM124 GBIdM125 NDUdM126 WEEdM127 NGGUAdM128 HOOUdM129 NDA
dM130 HANdM131 INdM132 KPIdM133 FOOdM134 NJOOdM135 INdM136 SOOdM137 EIdM138 BOdM139 WVEdM140 HO
dM141 YOOdM142 LONG MBOdM143 WEIdM144 VOOdM145 MBIdM146 NGGEdM147 OdM148 GBUdM149 NJEEdM150 BEE
dM151 VUdM152 NJAdM153 LOdM154 MUANdM155 GIdM156 NGGOOdM157 JEEdM158 KPOdM159 NGGAAdM160 JOO
dM161 LONG MBEdM162 SEEdM163 EEdM164 NYINdM165 OOdM166 GUEIdM167 GUANdM168 GUdM169 NONdM170 NYUN
dM171 RAdM172 MBOOdM173 VEEdM174 MBOdM175 LONG JOdM176 HIdM177 NGUANdM178 ENdM179 KUAdM180 DOO
dM181 DOdM182 VIdM183 LONG NGGOdM184 NGENdM185 VAdM186 HUdM187 MBUUdM188 MBEEdM189 MUENdM190 GEE
dM191 NDEEdM192 NJUdM193 HONdM194 WUIdM195 ANdM196 SIAdM197 FUAaMENORAH WITH NINE BRANCHES
aMENS SYMBOLaMERCURYaMEROITIC CURSIVE FRACTION EIGHT TWELFTHSdELEVEN TWELFTHSdFIVE TWELFTHS
dFOUR TWELFTHSdNINE TWELFTHSdONE HALFeTWELFTHdSEVEN TWELFTHSdSIX TWELFTHSdTEN TWELFTHS
dTHREE TWELFTHSdTWO TWELFTHScLETTER AdARCHAIC SAdBAdDAdEdHHAdIdKAdKHAdLAdMAdNAdNEdOdPAdQAdRAdSA
dSEdTAdTEdTOdWAdYAcLOGOGRAM IMNdRMTcNUMBER EIGHTeHUNDREDfTHOUSANDeTHOUSANDdEIGHTY THOUSANDdFIFTY
eTHOUSANDdFIVEeHUNDREDfTHOUSANDeTHOUSANDdFORTYeTHOUSANDdFOUReHUNDREDfTHOUSANDeTHOUSANDdNINE
eHUNDREDfTHOUSANDeTHOUSANDdNINETY THOUSANDdONEeHUNDREDfTHOUSANDeTHOUSANDdSEVENeHUNDREDfTHOUSAND
eTHOUSANDdSEVENTYeTHOUSANDdSIXeHUNDREDfTHOUSANDeTHOUSANDdSIXTYeTHOUSANDdTENeTHOUSANDdTHIRTY
eTHOUSANDdTHREEeHUNDREDfTHOUSANDeTHOUSANDdTWENTYeTHOUSANDdTWOeHUNDREDfTHOUSANDeTHOUSAND
bHIEROGLYPHIC LETTER AdBAdBA-2dDAdEdHHAdIdKAdKHAdLAdMAdNAdNA-2dNEdNE-2dOdPAdQAdRAdRA-2dSAdSA-2
dSEdTAdTA-2dTEdTE-2dTOdWAdYAcSYMBOL VIDJdVIDJ-2aMERPERSONaMESSAGE WAITINGaMETRICAL BREVE
bLONG OVER SHORTdTWO SHORTSbPENTASEMEbSHORT OVER LONGbTETRASEMEbTRISEMEbTWO SHORTS JOINED
dOVER LONGaMETROaMIAO LETTER AHcARCHAIC MAdNAdNGAdZZAcBAcBRIcDAcDDAcDLHAcDLHYAcDZAcDZHAcDZYI
cDZZAcFAcGAcGHAcGHHAcHAcHHAcKAcLAcLHAcLHYAcLYAcMAcMHAcNAcNASALIZATIONcNGAcNGHAcNHAcNNAcNNHAcNYA
cNYHAcPAcPLAcQAcQGAcREFORMED TONE-1dTONE-2dTONE-4dTONE-5dTONE-6dTONE-8dTSHAcRTEcSAcSHAcSSAcSYI
cTAcTEcTLHAcTLHYAcTONE-2cTONE-3cTONE-4cTONE-5cTONE-6cTONE-7cTONE-8cTSAcTSEcTSHAcTSSAcTTAcVAcVFA
cWAcXAcYI DZHAdKAdNNAdPAdTAdTSAdTSHAdTTAcZAcZHAcZSAcZSHAcZZAcZZSAcZZSYAcZZYAbSIGN ASPIRATION
cCONSONANT MODIFIER BARcREFORMED ASPIRATIONdVOICINGbTONE ABOVEcBELOWcRIGHTcTOP RIGHT
bVOWEL SIGN AdAAdAEdAEEdAHHdAIdANdANGdAUdEdEAdEIdENdENGdERdERRdIdIAdIANdIANGdIEdIGdIIdINGdIO
dIONGdIUdNdNGdOdOERdOEYdOGdOOdOUdROUNDED EReERRdUdUAdUANdUANGdUEIdUIdUNGdUOGdUUdVWdWdWOdYdYIdYUI
aMICR DASH SYMBOLbON US SYMBOLaMICRO SIGNaMICROBEaMICROPHONEaMICROSCOPEaMIDDLE DOT
bTHIRD WHITE RIGHT POINTING INDEXaMIDLINE HORIZONTAL ELLIPSISaMILITARY HELMETbMEDALaMILKY WAY
aMILL SIGNaMINIBUSaMINIDISCaMINIMIZEaMINUS SIGNcIN TRIANGLEcWITH COMMA ABOVEdDOT BELOW
dFALLING DOTSdRISING DOTSbTILDEaMINUS-OR-PLUS SIGNaMINYaMIRRORbBALLaMMSPaMOBILE PHONEcOFF
cWITH RIGHTWARDS ARROW AT LEFTaMODELSaMODERN PENTATHLONaMODI ABBREVIATION SIGNbDANDAbDIGIT EIGHT
cFIVEcFOURcNINEcONEcSEVENcSIXcTHREEcTWOcZERObDOUBLE DANDAbLETTER AcAAcAIcAUcBAcBHAcCAcCHAcDAcDDA
cDDHAcDHAcEcGAcGHAcHAcIcIIcJAcJHAcKAcKHAcLAcLLAcMAcNAcNGAcNNAcNYAcOcPAcPHAcRAcSAcSHAcSSAcTAcTHA
cTTAcTTHAcUcUUcVAcVOCALIC LdLLdRdRRcYAbSIGN ANUSVARAcARDHACANDRAcHUVAcVIRAMAcVISARGA
bVOWEL SIGN AAdAIdAUdEdIdIIdOdUdUUdVOCALIC LeLLeReRRaMODIFIER BREVE WITH INVERTED BREVE
bLETTER ACUTE ACCENTcALVEOLAR CLICKcAPOSTROPHEcBEGIN HIGH TONEdLOW TONEcBILABIAL CLICKcCAPITAL A
dAEdBdBARRED BdCdDdEdFdGdHeWITH STROKEdIdJdKdLdMdNdOdOUdPdQdRdREVERSED EeNdTdUdVdW
cCENTRED LEFT HALF RINGdRIGHT HALF RINGcCHINESE TONE YANG PINGfQUfRUfSHANGeYIN PINGfQUfRUfSHANG
cCIRCUMFLEX ACCENTcCOLONcCROSS ACCENTcCYRILLIC ENdHARD SIGNdSOFT SIGNcDENTAL CLICK
cDOT HORIZONTAL BARdSLASHdVERTICAL BARcDOUBLE APOSTROPHEdPRIMEcDOWN ARROWHEADdTACKcEND HIGH TONE
dLOW TONEcEXTRA-HIGH DOTTED LEFT-STEM TONE BAReTONE BARdLEFT-STEM TONE BARdTONE BAR
cEXTRA-LOW DOTTED LEFT-STEM TONE BAReTONE BARdLEFT-STEM TONE BARdTONE BARcGEORGIAN NAR
cGLOTTAL STOPeWITH STROKEcGRAVE ACCENTcHALF TRIANGULAR COLONcHIGH DOTTED LEFT-STEM TONE BAR
eTONE BARdLEFT-STEM TONE BARdTONE BARcLATERAL CLICKcLEFT ARROWHEADdHALF RINGdTACK
cLOW ACUTE ACCENTdCIRCUMFLEX ACCENTdDOTTED LEFT-STEM TONE BAReTONE BARdDOWN ARROWHEAD
dGRAVE ACCENTdINVERTED EXCLAMATION MARKdLEFT ARROWeARROWHEADdLEFT-STEM TONE BARdMACRON
dRIGHT ARROWHEADdRINGdTILDEdTONE BARdUP ARROWHEADdVERTICAL LINEcLOWER RIGHT CORNER ANGLEcMACRON
cMID DOTTED LEFT-STEM TONE BAReTONE BARdLEFT-STEM TONE BARdTONE BARcMIDDLE DOUBLE ACUTE ACCENT
eGRAVE ACCENTdGRAVE ACCENTcMINUS SIGNcOPEN SHELFcPLUS SIGNcPRIMEcRAISED COLONdDOWN ARROW
dEXCLAMATION MARKdINVERTED EXCLAMATION MARKdUP ARROWcRETROFLEX CLICK WITH RETROFLEX HOOK
cREVERSED COMMAdGLOTTAL STOPfWITH STROKEcRHOTIC HOOKcRIGHT ARROWHEADdHALF RINGdTACKcSHELF
cSHORT EQUALS SIGNcSMALL AdAEdAINdALPHAdBeWITH HOOKdBARRED OdBETAdBOTTOM HALF OdCeWITH CURL
dCAPITAL AAeBeGfWITH HOOKeHeIfWITH STROKEeINVERTED ReLfWITH BELTeNeOEeReUeYdCHIdCLOSED OMEGA
eREVERSED OPEN EdDeWITH HOOKgAND TAILfTAILdDELTAdDEZH DIGRAPHdDOTLESS J WITH STROKEhAND HOOK
dDZ DIGRAPHfWITH CURLgRETROFLEX HOOKdEdENGdESHdETHdEZHdFdFENG DIGRAPHdGeWITH HOOKdGAMMA
dGREEK GAMMAePHIdHeWITH HOOKfSTROKEdHENGeWITH HOOKdI WITH STROKEdIOTAdJeWITH CROSSED-TAILdKdL
eWITH BELTfINVERTED LAZY SfMIDDLE TILDEfPALATAL HOOKfRETROFLEX HOOKhAND BELTdLEZH
eWITH RETROFLEX HOOKdLIGATURE OEdLS DIGRAPHdLZ DIGRAPHdMeWITH HOOKdN WITH LEFT HOOK
fRETROFLEX HOOKdOeWITH STROKEdOPEN EeOdPdPHIdQdReWITH FISHHOOKfTAILdRAMS HORNdREVERSED E
eGLOTTAL STOPeOPEN EdSeWITH CURLfHOOKdSCHWAdSCRIPT GdSIDEWAYS UdTeWITH PALATAL HOOK
fRETROFLEX HOOKdTC DIGRAPH WITH CURLdTESH DIGRAPHdTHETAdTOP HALF OdTS DIGRAPH
fWITH RETROFLEX HOOKdTURNED AeAEeALPHAeHeIeMfWITH LONG LEGeOPEN EeRfWITH HOOKgLONG LEG
iAND RETROFLEX HOOKeVeWeYfWITH BELTdUeBAReWITH LEFT HOOKdUPSILONdVeWITH HOOKfRIGHT HOOKdWdXdYdZ
eWITH CURLfRETROFLEX HOOKcSTRESS AND HIGH TONEeLOW TONEcSUPERSCRIPT HALF TRIANGULAR COLON
dTRIANGULAR COLONcTRIANGULAR COLONcTURNED COMMAcUNASPIRATEDcUP ARROWHEADdTACKcUScVERTICAL LINE
cVOICINGcYANG DEPARTING TONE MARKcYIN DEPARTING TONE MARKaMODULO TWO SUMaMONEY BAGbWITH WINGS
aMONEY-MOUTH FACEaMONGOLIAN BIRGAcWITH DOUBLE ORNAMENTdORNAMENTbCOLONbCOMMAbDIGIT EIGHTcFIVE
cFOURcNINEcONEcSEVENcSIXcTHREEcTWOcZERObDOUBLE BIRGA WITH ORNAMENTbELLIPSISbFOUR DOTS
bFREE VARIATION SELECTOR FOUReONEeTHREEeTWObFULL STOPbINVERTED BIRGAdWITH DOUBLE ORNAMENT
bLETTER AcALI GALI AeAHeANUSVARA ONEeBALUDAeCAeDAeDAGALGAeDAMARUeDDAeHALF UfYAeI
eINVERTED UBADAMAeKAeNGAeNNAePAePHAeSSAeTAeTHREE BALUDAeTTAeTTHAeUBADAMAeVISARGA ONEeZAeZHAcANG
cBAcCHAdWITH TWO DOTScCHIcDAcEcEEcFAcGAcHAAcIcJAcKAcKHAcLAcLHAcMAcMANCHU ALI GALI BHAfCAfCYA
fDDHAfDHAfGHAfJHAfLHAfNGAfSSAfTAfTTAfZAfZHAdFAdIdKAdRAdZHAcNAcOcOEcPAcQAcRAcSAcSHAcSIBE ANGdCHA
dDAdEdFAdGAdGAAdHAdHAAdIdIYdJAdKAdPAdRAAdSHAdTAdTSAdUdUEdZAdZHAcTAcTODO ALI GALI TAfZHAdANGdBA
dCHAdDAdDZAdEdGAdGAAdHAAdIdJAdJIAdKAdLONG VOWEL SIGNdMAdNIAdOdOEdPAdQAdTAdTSAdUdUEdWAdYAcTSAcU
cUEcWAcYAcZAcZHIcZRAbMANCHU COMMAcFULL STOPbNIRUGUbROTATED BIRGAdWITH DOUBLE ORNAMENTeORNAMENT
bSIBE SYLLABLE BOUNDARY MARKERbSWIRL BIRGAdWITH DOUBLE ORNAMENTeORNAMENTbTODO SOFT HYPHEN
bTRIPLE BIRGA WITH ORNAMENTbTURNED SWIRL BIRGA WITH DOUBLE ORNAMENTbVOWEL SEPARATORaMONKEYbFACE
aMONOGRAM FOR EARTHcYANGcYINaMONORAILaMONOSTABLE SYMBOLaMOOD BUBBLEaMOON CAKEbVIEWING CEREMONY
aMOSQUEaMOSQUITOaMOTHER CHRISTMASaMOTOR BOATbSCOOTERaMOTORIZED WHEELCHAIRaMOTORWAYaMOUNT FUJI
aMOUNTAINbBICYCLISTbCABLEWAYbRAILWAYaMOUSEbFACEbTRAPaMOUTHaMOVIE CAMERAaMOYAIaMRO DANDA
bDIGIT EIGHTcFIVEcFOURcNINEcONEcSEVENcSIXcTHREEcTWOcZERObDOUBLE DANDAbLETTER AcBAcCHUcDAcDAIcE
cEAcHAIcHAOcKEAAEcKHAIcKOcLAcLANcMAEMcMIMcNGIcNINcOcOLcOOcPAcPHIcRIcROcSHIcTAcTEKcTHEAcWAcYO
aMUCH GREATER-THANbLESS-THANaMULTANI LETTER AcBAcBHAcCAcCHAcDAcDDAcDDDAcDDHAcDHAcEcGAcGHAcHAcI
cJAcJJAcKAcKHAcLAcMAcNAcNNAcNYAcPAcPHAcRAcRHAcRRAcSAcTAcTHAcTTAcTTHAcUcVAcYAbSECTION MARK
aMULTIMAPaMULTIPLE MUSICAL NOTESaMULTIPLICATION SIGNcIN DOUBLE CIRCLEdLEFT HALF CIRCLE
dRIGHT HALF CIRCLEdTRIANGLEcWITH DOT ABOVEdUNDERBARbXaMULTISETbMULTIPLICATIONbUNIONaMUSHROOM
aMUSIC FLAT SIGNbNATURAL SIGNbSHARP SIGNaMUSICAL KEYBOARDcWITH JACKSbNOTEbSCORE
bSYMBOL ARPEGGIATO DOWNdUPcBEGIN BEAMdPHRASEdSLURdTIEcBRACEcBRACKETcBREATH MARKcBREVEcBREVIS
dRESTcC CLEFcCAESURAcCIRCLE X NOTEHEADcCLIMACUScCLIVIScCLUSTER NOTEHEAD BLACKeWHITEcCODA
cCOMBINING ACCENTdACCENT-STACCATOdAUGMENTATION DOTdBENDdDOITdDOUBLE TONGUEdDOWN BOWdFLAG-1
dFLAG-2dFLAG-3dFLAG-4dFLAG-5dFLIPdHARMONICdLOUREdMARCATOdMARCATO-STACCATOdRIPdSMEAR
dSNAP PIZZICATOdSPRECHGESANG STEMdSTACCATISSIMOdSTACCATOdSTEMdTENUTOdTREMOLO-1dTREMOLO-2
dTREMOLO-3dTRIPLE TONGUEdUP BOWcCOMMON TIMEcCRESCENDOcCROIXcCUT TIMEcDA CAPOcDAL SEGNOcDAMPdALL
cDASHED BARLINEcDECRESCENDOcDEGREE SLASHcDOUBLE BARLINEdFLATdSHARPcDRUM CLEF-1dCLEF-2
cEIGHTH NOTEdRESTcEND BEAMdOF STIMMEdPHRASEdSLURdTIEcF CLEFeOTTAVA ALTAfBASSAcFERMATAdBELOW
cFINAL BARLINEcFINGERED TREMOLO-1dTREMOLO-2dTREMOLO-3cFIVE-LINE STAFFcFLAT DOWNdUPcFORTE
cFOUR-LINE STAFFcFOUR-STRING FRETBOARDcFUSA BLACKdWHITEcG CLEFeOTTAVA ALTAfBASSAcGLISSANDO DOWN
dUPcGRACE NOTE NO SLASHeSLASHcGREGORIAN C CLEFdF CLEFcHALF NOTEdPEDAL MARKdRESTcHAUPTSTIMME
cINVERTED TURNcKIEVAN C CLEFdEIGHTH NOTE STEM DOWNgUPdEND OF PIECEdFINAL NOTEdFLAT SIGN
dHALF NOTEdQUARTER NOTE STEM DOWNgUPdRECITATIVE MARKdWHOLE NOTEcKORONcLEFT REPEAT SIGNcLONGA
dIMPERFECTA RESTdPERFECTA RESTcMAXIMAcMEZZOcMINIMAdBLACKdRESTcMOON NOTEHEAD BLACKeWHITE
cMULTI RESTcMULTIPLE MEASURE RESTcNATURAL DOWNdUPcNEBENSTIMMEcNOTEHEAD BLACKcNULL NOTEHEAD
cONE HUNDRED TWENTY-EIGHTH NOTEfRESTcONE-LINE STAFFcORNAMENT STROKE-1dSTROKE-10dSTROKE-11
dSTROKE-2dSTROKE-3dSTROKE-4dSTROKE-5dSTROKE-6dSTROKE-7dSTROKE-8dSTROKE-9cOTTAVA ALTAdBASSA
cPARENTHESIS NOTEHEADcPEDAL MARKdUP MARKcPES SUBPUNCTIScPIANOcPLUS NOTEHEADcPODATUScPORRECTUS
dFLEXUScQUARTER NOTEdRESTdTONE FLATeSHARPcQUINDICESIMA ALTAdBASSAcREPEAT DOTScREPEATED FIGURE-1
dFIGURE-2dFIGURE-3cREVERSE FINAL BARLINEcRIGHT REPEAT SIGNcRINFORZANDOcSCANDICUSdFLEXUScSEGNO
cSEMIBREVIS BLACKdRESTdWHITEcSEMIMINIMA BLACKdRESTdWHITEcSHARP DOWNdUPcSHORT BARLINE
cSINGLE BARLINEcSIX-LINE STAFFcSIX-STRING FRETBOARDcSIXTEENTH NOTEdRESTcSIXTY-FOURTH NOTEdREST
cSORIcSQUARE BdNOTEHEAD BLACKeWHITEcSUBITOcTEMPUS IMPERFECTUM CUM PROLATIONE IMPERFECTA
hDIMINUTION-1hDIMINUTION-2hDIMINUTION-3gPERFECTAdPERFECTUM CUM PROLATIONE IMPERFECTAgPERFECTA
hDIMINUTION-1cTHIRTY-SECOND NOTEdRESTcTHREE-LINE STAFFcTORCULUSdRESUPINUScTR
cTRIANGLE NOTEHEAD DOWN BLACKfWHITEeLEFT BLACKfWHITEeRIGHT BLACKfWHITEeUP BLACKfRIGHT BLACK
gWHITEfWHITEcTRIANGLE-ROUND NOTEHEAD DOWN BLACKfWHITEcTURNdSLASHdUPcTWO-LINE STAFFcVIRGA
cVOID NOTEHEADcWHOLE NOTEdRESTcWITH FINGERNAILScX NOTEHEADcZaMVSaMW
aMYANMAR CONSONANT SIGN MEDIAL HAeRAeWAeYAdMON MEDIAL LAfMAfNAdSHAN MEDIAL WAbDIGIT EIGHTcFIVE
cFOURcNINEcONEcSEVENcSIXcTHREEcTWOcZERObLETTER AcAITON RAcAUcBAcBHAcCAcCHAcDAcDDAcDDHAcDHAcE
cEASTERN PWO KAREN GHWAfNNAfYWAcGAcGHAcGREAT SAcHAcIcIIcJAcJHAcKAcKHAcKHAMTI CAdCHAdDDAdDDHAdDHA
dFAdGAdHAdHHAdJAdJHAdLLAdNAdNYAdRAdSAdTTAdTTHAdXAdZAcLAcLLAcMAcMON BBAdBBEdEdJHAdNGAcNAcNGAcNNA
cNNYAcNYAcOcPAcPHAcRAcRUMAI PALAUNG FAcSAcSGAW KAREN SHAcSHAcSHAN AdBAdBHAdCAdCHAdDAdFAdGAdGHA
dHAdJHAdKAdKHAdNAdNNAdNYAdPHAdTHAdZAcSHWE PALAUNG CHAeSHAcSSAcTAcTAI LAING BAeBHAeDAeDDAeDDHA
eDHAeFAeGAeGHAeJAeJHAeLLAeNNAeNYAcTHAcTTAcTTHAcUcUUcVOCALIC LdLLdRdRRcWAcWESTERN PWO KAREN PWA
fTHAcYAbLOGOGRAM KHAMTI HMdOAYdQNbMODIFIER LETTER KHAMTI REDUPLICATIONdSHAN REDUPLICATION
bSHAN DIGIT EIGHTdFIVEdFOURdNINEdONEdSEVENdSIXdTHREEdTWOdZERObSIGN ANUSVARAcASATcDOT BELOW
cKHAMTI TONE-1dTONE-3cLITTLE SECTIONcPAO KAREN TONEcRUMAI PALAUNG TONE-5cSECTION
cSHAN COUNCIL EMPHATIC TONEeTONE-2eTONE-3dSAWdTONE-2dTONE-3dTONE-5dTONE-6cTAI LAING TONE-2
eTONE-5cVIRAMAcVISARGAcWESTERN PWO KAREN TONE-1fTONE-2fTONE-3fTONE-4fTONE-5
bSYMBOL AFOREMENTIONEDcAITON EXCLAMATIONdONEdTWOcCOMPLETEDcGENITIVEcLOCATIVEcSHAN EXCLAMATION
dONEbTAI LAING DIGIT EIGHTeFIVEeFOUReNINEeONEeSEVENeSIXeTHREEeTWOeZERO
bTONE MARK SGAW KAREN HATHIfKE PHObVOWEL SIGN AAdAIdAITON AeAIdEeABOVEdGEBA KAREN IdIdII
dKAYAH EEeOEeUdMON IIeOdSGAW KAREN EUdSHAN AAeEfABOVEeFINAL YdTALL AAdUdUUdVOCALIC LeLLeReRR
dWESTERN PWO KAREN EUgUE"

def namesWithN : String :=
  "aN-ARY CIRCLED DOT OPERATORcPLUS OPERATORcTIMES OPERATORbCOPRODUCTbINTERSECTIONbLOGICAL ANDcOR
bPRODUCTbSQUARE INTERSECTION OPERATORcUNION OPERATORbSUMMATIONbTIMES OPERATORbUNION
cOPERATOR WITH DOTePLUSbWHITE VERTICAL BARaNABATAEAN CRUCIFORM NUMBER FOURbLETTER ALEPHcAYIN
cBETHcDALETHcFINAL ALEPHdBETHdHEdKAPHdLAMEDHdMEMdNUNdSHINdYODHcGIMELcHEcHETHcKAPHcLAMEDHcMEMcNUN
cPEcQOPHcRESHcSADHEcSAMEKHcSHINcTAWcTETHcWAWcYODHcZAYINbNUMBER FIVEcFOURcONEdHUNDREDcTENcTHREE
cTWENTYcTWOaNABLAaNAIL POLISHaNAIRA SIGNaNAKaNAME BADGEaNANDaNANDINAGARI HEADSTROKEbLETTER AcAA
cAIcAUcBAcBHAcCAcCHAcDAcDDAcDDHAcDHAcEcGAcGHAcHAcIcIIcJAcJHAcKAcKHAcLAcLLAcMAcNAcNGAcNNAcNYAcO
cPAcPHAcRAcRRAcSAcSHAcSSAcTAcTHAcTTAcTTHAcUcUUcVAcVOCALIC RdRRcYAbSIGN ANUSVARAcAVAGRAHAcSIDDHAM
cVIRAMAcVISARGAbVOWEL SIGN AAdAIdAUdEdIdIIdOdPRISHTHAMATRA EdUdUUdVOCALIC ReRR
aNARROW NO-BREAK SPACEaNATIONAL DIGIT SHAPESbPARKaNAUSEATED FACEaNAZAR AMULETaNBHaNBSPaNECKTIE
aNEGATED DOUBLE VERTICAL BAR DOUBLE RIGHT TURNSTILEaNEGATIVE ACKNOWLEDGEbCIRCLED DIGIT ZERO
cLATIN CAPITAL LETTER AfBfCfDfEfFfGfHfIfJfKfLfMfNfOfPfQfRfSfTfUfVfWfXfYfZcNUMBER EIGHTEENdELEVEN
dFIFTEENdFOURTEENdNINETEENdSEVENTEENdSIXTEENdTHIRTEENdTWELVEdTWENTYcSQUAREcTRIANGLE
bDIAGONAL CROSScDIAMONDcMIDDLE RIGHT TO LOWER CENTREbSQUARED ABcCROSS MARKcIC
cLATIN CAPITAL LETTER AfBfCfDfEfFfGfHfIfJfKfLfMfNfOfPfQfRfSfTfUfVfWfXfYfZcPAcQUESTION MARKcSAcWC
aNEITHER A SUBSET OF NOR EQUAL TOcSUPERSET OF NOR EQUAL TObAPPROXIMATELY NOR ACTUALLY EQUAL TO
bGREATER-THAN NOR EQUAL TOdEQUIVALENT TOdLESS-THANbLESS-THAN NOR EQUAL TOdEQUIVALENT TO
dGREATER-THANaNELaNEPTUNEbFORM TWOaNERD FACEaNESSUSaNEST WITH EGGSaNESTING DOLLSaNEUTER
aNEUTRAL CHESS BISHOPdROTATED NINETY DEGREESeTWO HUNDRED SEVENTY DEGREEScEQUIHOPPER
dROTATED NINETY DEGREEScKINGdROTATED NINETY DEGREESeTWO HUNDRED SEVENTY DEGREEScKNIGHT
dROTATED FORTY-FIVE DEGREESeNINETY DEGREESeONE HUNDRED THIRTY-FIVE DEGREES
eTHREE HUNDRED FIFTEEN DEGREESeTWO HUNDRED SEVENTY DEGREESgTWENTY-FIVE DEGREEScPAWN
dROTATED NINETY DEGREESeTWO HUNDRED SEVENTY DEGREEScQUEENdROTATED NINETY DEGREES
eTWO HUNDRED SEVENTY DEGREEScROOKdROTATED NINETY DEGREESeTWO HUNDRED SEVENTY DEGREES
cTURNED BISHOPdKINGdKNIGHTdPAWNdQUEENdROOKbFACEaNEW LINEbMOON SYMBOLcWITH FACEbSHEQEL SIGN
bTAI LUE DIGIT EIGHTeFIVEeFOUReNINEeONEeSEVENeSIXeTHREEeTWOeZEROdLETTER FINAL BfDfKfMfNfNGfV
eHIGH BAfDAfFAfHAfKAfKVAfLAfMAfNAfNGAfPAfPHAfQAfSAfSUAfTAfTHAfTSAfVAfXAfXVAfYAeLOW BAfDAfFAfHA
fKAfKVAfLAfMAfNAfNGAfPAfPHAfQAfSAfSUAfTAfTHAfTSAfVAfXAfXVAfYAdSIGN LAEeLAEVdTHAM DIGIT ONE
dTONE MARK-1eMARK-2dVOWEL SIGN AAfAAYfAEfAYfEfIIfIYfOfOAfOAYfOYfUfUEfUEYfUUfUYfVOWEL SHORTENER
aNEWA ABBREVIATION SIGNbCOMMAbDANDAbDIGIT EIGHTcFIVEcFOURcNINEcONEcSEVENcSIXcTHREEcTWOcZERO
bDOUBLE COMMAcDANDAbGAP FILLERbINSERTION SIGNbLETTER AcAAcAIcAUcBAcBHAcCAcCHAcDAcDDAcDDHAcDHAcE
cGAcGHAcHAcIcIIcJAcJHAcKAcKHAcLAcLHAcMAcMHAcNAcNGAcNGHAcNHAcNNAcNYAcNYHAcOcPAcPHAcRAcRHAcSAcSHA
cSSAcTAcTHAcTTAcTTHAcUcUUcVEDIC ANUSVARAcVOCALIC LdLLdRdRRcWAcYAbOMbPLACEHOLDER MARKbSANDHI MARK
bSIDDHIbSIGN ANUSVARAcAVAGRAHAcCANDRABINDUcFINAL ANUSVARAcJIHVAMULIYAcNUKTAcUPADHMANIYAcVIRAMA
cVISARGAbVOWEL SIGN AAdAIdAUdEdIdIIdOdUdUUdVOCALIC LeLLeReRRaNEWLINE LEFTbRIGHTaNEWSPAPER
aNEXT LINEbPAGEaNIGHT WITH STARSaNINJAaNKO COMBINING DOUBLE DOT ABOVEcLONG DESCENDING TONE
dHIGH TONEdLOW TONEdRISING TONEcNASALIZATION MARKcSHORT HIGH TONEdLOW TONEdRISING TONEbCOMMA
bDANTAYALANbDIGIT EIGHTcFIVEcFOURcNINEcONEcSEVENcSIXcTHREEcTWOcZERObDOROME SIGNbEXCLAMATION MARK
bHIGH TONE APOSTROPHEbLAJANYALANbLETTER AcBAcCHAcDAcDAGBASINNAcEcEEcFAcGBAcHAcIcJAcJONA CHAdJA
dRAcKAcLAcMAcNcNAdWOLOSOcNYAdWOLOSOcOcOOcPAcRAcRRAcSAcTAcUcWAcYAbLOW TONE APOSTROPHE
bSYMBOL GBAKURUNENcOO DENNENbTAMAN SIGNaNLaNNBSPaNO BICYCLESbBREAK HEREbENTRYcSIGNbMOBILE PHONES
bONE UNDER EIGHTEEN SYMBOLbPEDESTRIANSbPIRACYbSMOKING SYMBOLaNO-BREAK SPACEaNOMINAL DIGIT SHAPES
aNOMISMA SIGNaNON-BREAKING HYPHENaNON-POTABLE WATER SYMBOLaNONFORKINGaNORaNORDIC MARK SIGN
aNORMAL SUBGROUP OFdOR EQUAL TOaNORTH EAST AND SOUTH WEST ARROWcARROWdAND SOUTH EAST ARROW
dCROSSING NORTH WEST ARROWeSOUTH EAST ARROWdWITH HOOKcBLACK ARROWcDOUBLE ARROWcPOINTING BUDdLEAF
dVINE LEAFcSANS-SERIF ARROWcTRIANGLE-HEADED ARROWeTO BARcWHITE ARROWbINDIC FRACTION ONE EIGHTH
eHALFeQUARTEReSIXTEENTHdTHREE QUARTERSeSIXTEENTHScPLACEHOLDER MARKcQUANTITY MARKcQUARTER MARK
cRUPEE MARKbWEST AND SOUTH EAST ARROWcARROWdAND NORTH EAST ARROWdCROSSING NORTH EAST ARROW
dTO CORNEReLONG BARdWITH HOOKcBLACK ARROWcDOUBLE ARROWcPOINTING BUDdLEAFdVINE LEAF
cSANS-SERIF ARROWcTRIANGLE-HEADED ARROWeTO BARcWHITE ARROWaNORTHEAST-POINTING AIRPLANEaNOSE
aNOT A SUBSET OFcSUPERSET OFbALMOST EQUAL TObAN ELEMENT OFbASYMPTOTICALLY EQUAL TObCHECK MARK
bEQUAL TObEQUIVALENT TObGREATER-THANbIDENTICAL TObLESS-THANbNORMAL SUBGROUP OFeOR EQUAL TO
bPARALLEL TObSIGNbSQUARE IMAGE OF OR EQUAL TOcORIGINAL OF OR EQUAL TObTILDEbTRUE
aNOTCHED LEFT SEMICIRCLE WITH THREE DOTSbLOWER RIGHT-SHADOWED WHITE RIGHTWARDS ARROW
bRIGHT SEMICIRCLE WITH THREE DOTSbUPPER RIGHT-SHADOWED WHITE RIGHTWARDS ARROWaNOTEbPADbPAGE
aNOTEBOOKbWITH DECORATIVE COVERaNULaNULLaNUMBER EIGHTEEN FULL STOPbELEVEN FULL STOP
bFIFTEEN FULL STOPbFOURTEEN FULL STOPbNINETEEN FULL STOPbSEVENTEEN FULL STOPbSIGN
bSIXTEEN FULL STOPbTEN FULL STOPbTHIRTEEN FULL STOPbTWELVE FULL STOPbTWENTY FULL STOP
aNUMERO SIGNaNUSHU CHARACTER-1B170bCHARACTER-1B171bCHARACTER-1B172bCHARACTER-1B173
bCHARACTER-1B174bCHARACTER-1B175bCHARACTER-1B176bCHARACTER-1B177bCHARACTER-1B178bCHARACTER-1B179
bCHARACTER-1B17AbCHARACTER-1B17BbCHARACTER-1B17CbCHARACTER-1B17DbCHARACTER-1B17EbCHARACTER-1B17F
bCHARACTER-1B180bCHARACTER-1B181bCHARACTER-1B182bCHARACTER-1B183bCHARACTER-1B184bCHARACTER-1B185
bCHARACTER-1B186bCHARACTER-1B187bCHARACTER-1B188bCHARACTER-1B189bCHARACTER-1B18AbCHARACTER-1B18B
bCHARACTER-1B18CbCHARACTER-1B18DbCHARACTER-1B18EbCHARACTER-1B18FbCHARACTER-1B190bCHARACTER-1B191
bCHARACTER-1B192bCHARACTER-1B193bCHARACTER-1B194bCHARACTER-1B195bCHARACTER-1B196bCHARACTER-1B197
bCHARACTER-1B198bCHARACTER-1B199bCHARACTER-1B19AbCHARACTER-1B19BbCHARACTER-1B19CbCHARACTER-1B19D
bCHARACTER-1B19EbCHARACTER-1B19FbCHARACTER-1B1A0bCHARACTER-1B1A1bCHARACTER-1B1A2bCHARACTER-1B1A3
bCHARACTER-1B1A4bCHARACTER-1B1A5bCHARACTER-1B1A6bCHARACTER-1B1A7bCHARACTER-1B1A8bCHARACTER-1B1A9
bCHARACTER-1B1AAbCHARACTER-1B1ABbCHARACTER-1B1ACbCHARACTER-1B1ADbCHARACTER-1B1AEbCHARACTER-1B1AF
bCHARACTER-1B1B0bCHARACTER-1B1B1bCHARACTER-1B1B2bCHARACTER-1B1B3bCHARACTER-1B1B4bCHARACTER-1B1B5
bCHARACTER-1B1B6bCHARACTER-1B1B7bCHARACTER-1B1B8bCHARACTER-1B1B9bCHARACTER-1B1BAbCHARACTER-1B1BB
bCHARACTER-1B1BCbCHARACTER-1B1BDbCHARACTER-1B1BEbCHARACTER-1B1BFbCHARACTER-1B1C0bCHARACTER-1B1C1
bCHARACTER-1B1C2bCHARACTER-1B1C3bCHARACTER-1B1C4bCHARACTER-1B1C5bCHARACTER-1B1C6bCHARACTER-1B1C7
bCHARACTER-1B1C8bCHARACTER-1B1C9bCHARACTER-1B1CAbCHARACTER-1B1CBbCHARACTER-1B1CCbCHARACTER-1B1CD
bCHARACTER-1B1CEbCHARACTER-1B1CFbCHARACTER-1B1D0bCHARACTER-1B1D1bCHARACTER-1B1D2bCHARACTER-1B1D3
bCHARACTER-1B1D4bCHARACTER-1B1D5bCHARACTER-1B1D6bCHARACTER-1B1D7bCHARACTER-1B1D8bCHARACTER-1B1D9
bCHARACTER-1B1DAbCHARACTER-1B1DBbCHARACTER-1B1DCbCHARACTER-1B1DDbCHARACTER-1B1DEbCHARACTER-1B1DF
bCHARACTER-1B1E0bCHARACTER-1B1E1bCHARACTER-1B1E2bCHARACTER-1B1E3bCHARACTER-1B1E4bCHARACTER-1B1E5
bCHARACTER-1B1E6bCHARACTER-1B1E7bCHARACTER-1B1E8bCHARACTER-1B1E9bCHARACTER-1B1EAbCHARACTER-1B1EB
bCHARACTER-1B1ECbCHARACTER-1B1EDbCHARACTER-1B1EEbCHARACTER-1B1EFbCHARACTER-1B1F0bCHARACTER-1B1F1
bCHARACTER-1B1F2bCHARACTER-1B1F3bCHARACTER-1B1F4bCHARACTER-1B1F5bCHARACTER-1B1F6bCHARACTER-1B1F7
bCHARACTER-1B1F8bCHARACTER-1B1F9bCHARACTER-1B1FAbCHARACTER-1B1FBbCHARACTER-1B1FCbCHARACTER-1B1FD
bCHARACTER-1B1FEbCHARACTER-1B1FFbCHARACTER-1B200bCHARACTER-1B201bCHARACTER-1B202bCHARACTER-1B203
bCHARACTER-1B204bCHARACTER-1B205bCHARACTER-1B206bCHARACTER-1B207bCHARACTER-1B208bCHARACTER-1B209
bCHARACTER-1B20AbCHARACTER-1B20BbCHARACTER-1B20CbCHARACTER-1B20DbCHARACTER-1B20EbCHARACTER-1B20F
bCHARACTER-1B210bCHARACTER-1B211bCHARACTER-1B212bCHARACTER-1B213bCHARACTER-1B214bCHARACTER-1B215
bCHARACTER-1B216bCHARACTER-1B217bCHARACTER-1B218bCHARACTER-1B219bCHARACTER-1B21AbCHARACTER-1B21B
bCHARACTER-1B21CbCHARACTER-1B21DbCHARACTER-1B21EbCHARACTER-1B21FbCHARACTER-1B220bCHARACTER-1B221
bCHARACTER-1B222bCHARACTER-1B223bCHARACTER-1B224bCHARACTER-1B225bCHARACTER-1B226bCHARACTER-1B227
bCHARACTER-1B228bCHARACTER-1B229bCHARACTER-1B22AbCHARACTER-1B22BbCHARACTER-1B22CbCHARACTER-1B22D
bCHARACTER-1B22EbCHARACTER-1B22FbCHARACTER-1B230bCHARACTER-1B231bCHARACTER-1B232bCHARACTER-1B233
bCHARACTER-1B234bCHARACTER-1B235bCHARACTER-1B236bCHARACTER-1B237bCHARACTER-1B238bCHARACTER-1B239
bCHARACTER-1B23AbCHARACTER-1B23BbCHARACTER-1B23CbCHARACTER-1B23DbCHARACTER-1B23EbCHARACTER-1B23F
bCHARACTER-1B240bCHARACTER-1B241bCHARACTER-1B242bCHARACTER-1B243bCHARACTER-1B244bCHARACTER-1B245
bCHARACTER-1B246bCHARACTER-1B247bCHARACTER-1B248bCHARACTER-1B249bCHARACTER-1B24AbCHARACTER-1B24B
bCHARACTER-1B24CbCHARACTER-1B24DbCHARACTER-1B24EbCHARACTER-1B24FbCHARACTER-1B250bCHARACTER-1B251
bCHARACTER-1B252bCHARACTER-1B253bCHARACTER-1B254bCHARACTER-1B255bCHARACTER-1B256bCHARACTER-1B257
bCHARACTER-1B258bCHARACTER-1B259bCHARACTER-1B25AbCHARACTER-1B25BbCHARACTER-1B25CbCHARACTER-1B25D
bCHARACTER-1B25EbCHARACTER-1B25FbCHARACTER-1B260bCHARACTER-1B261bCHARACTER-1B262bCHARACTER-1B263
bCHARACTER-1B264bCHARACTER-1B265bCHARACTER-1B266bCHARACTER-1B267bCHARACTER-1B268bCHARACTER-1B269
bCHARACTER-1B26AbCHARACTER-1B26BbCHARACTER-1B26CbCHARACTER-1B26DbCHARACTER-1B26EbCHARACTER-1B26F
bCHARACTER-1B270bCHARACTER-1B271bCHARACTER-1B272bCHARACTER-1B273bCHARACTER-1B274bCHARACTER-1B275
bCHARACTER-1B276bCHARACTER-1B277bCHARACTER-1B278bCHARACTER-1B279bCHARACTER-1B27AbCHARACTER-1B27B
bCHARACTER-1B27CbCHARACTER-1B27DbCHARACTER-1B27EbCHARACTER-1B27FbCHARACTER-1B280bCHARACTER-1B281
bCHARACTER-1B282bCHARACTER-1B283bCHARACTER-1B284bCHARACTER-1B285bCHARACTER-1B286bCHARACTER-1B287
bCHARACTER-1B288bCHARACTER-1B289bCHARACTER-1B28AbCHARACTER-1B28BbCHARACTER-1B28CbCHARACTER-1B28D
bCHARACTER-1B28EbCHARACTER-1B28FbCHARACTER-1B290bCHARACTER-1B291bCHARACTER-1B292bCHARACTER-1B293
bCHARACTER-1B294bCHARACTER-1B295bCHARACTER-1B296bCHARACTER-1B297bCHARACTER-1B298bCHARACTER-1B299
bCHARACTER-1B29AbCHARACTER-1B29BbCHARACTER-1B29CbCHARACTER-1B29DbCHARACTER-1B29EbCHARACTER-1B29F
bCHARACTER-1B2A0bCHARACTER-1B2A1bCHARACTER-1B2A2bCHARACTER-1B2A3bCHARACTER-1B2A4bCHARACTER-1B2A5
bCHARACTER-1B2A6bCHARACTER-1B2A7bCHARACTER-1B2A8bCHARACTER-1B2A9bCHARACTER-1B2AAbCHARACTER-1B2AB
bCHARACTER-1B2ACbCHARACTER-1B2ADbCHARACTER-1B2AEbCHARACTER-1B2AFbCHARACTER-1B2B0bCHARACTER-1B2B1
bCHARACTER-1B2B2bCHARACTER-1B2B3bCHARACTER-1B2B4bCHARACTER-1B2B5bCHARACTER-1B2B6bCHARACTER-1B2B7
bCHARACTER-1B2B8bCHARACTER-1B2B9bCHARACTER-1B2BAbCHARACTER-1B2BBbCHARACTER-1B2BCbCHARACTER-1B2BD
bCHARACTER-1B2BEbCHARACTER-1B2BFbCHARACTER-1B2C0bCHARACTER-1B2C1bCHARACTER-1B2C2bCHARACTER-1B2C3
bCHARACTER-1B2C4bCHARACTER-1B2C5bCHARACTER-1B2C6bCHARACTER-1B2C7bCHARACTER-1B2C8bCHARACTER-1B2C9
bCHARACTER-1B2CAbCHARACTER-1B2CBbCHARACTER-1B2CCbCHARACTER-1B2CDbCHARACTER-1B2CEbCHARACTER-1B2CF
bCHARACTER-1B2D0bCHARACTER-1B2D1bCHARACTER-1B2D2bCHARACTER-1B2D3bCHARACTER-1B2D4bCHARACTER-1B2D5
bCHARACTER-1B2D6bCHARACTER-1B2D7bCHARACTER-1B2D8bCHARACTER-1B2D9bCHARACTER-1B2DAbCHARACTER-1B2DB
bCHARACTER-1B2DCbCHARACTER-1B2DDbCHARACTER-1B2DEbCHARACTER-1B2DFbCHARACTER-1B2E0bCHARACTER-1B2E1
bCHARACTER-1B2E2bCHARACTER-1B2E3bCHARACTER-1B2E4bCHARACTER-1B2E5bCHARACTER-1B2E6bCHARACTER-1B2E7
bCHARACTER-1B2E8bCHARACTER-1B2E9bCHARACTER-1B2EAbCHARACTER-1B2EBbCHARACTER-1B2ECbCHARACTER-1B2ED
bCHARACTER-1B2EEbCHARACTER-1B2EFbCHARACTER-1B2F0bCHARACTER-1B2F1bCHARACTER-1B2F2bCHARACTER-1B2F3
bCHARACTER-1B2F4bCHARACTER-1B2F5bCHARACTER-1B2F6bCHARACTER-1B2F7bCHARACTER-1B2F8bCHARACTER-1B2F9
bCHARACTER-1B2FAbCHARACTER-1B2FBbITERATION MARKaNUT AND BOLTaNYIAKENG PUACHUE HMONG CIRCLED CA
dDIGIT EIGHTeFIVEeFOUReNINEeONEeSEVENeSIXeTHREEeTWOeZEROdLETTER AeAAeCAeDAeDLAeEeEEeFAeGAeHAeHAH
eIeKAeLAeMAeMLAeNAeNCAeNKAeNPAeNPLAeNQAeNRAeNTAeNTSAeNTXAeNYAeOeOOePAePLAeQAeRAeRRAeSAeTAeTSA
eTXAeUeVAeWeXAeXYAeYAeZAdLOGOGRAM NYAJdSIGN FOR ANIMALfINVERTEBRATEfLOCATIONfPERSONfTHINGeXW XW
dSYLLABLE LENGTHENERdTONE-BdTONE-DdTONE-GdTONE-JdTONE-MdTONE-SdTONE-V"

def namesWithO : String :=
  "aOBJECT REPLACEMENT CHARACTERaOBLIQUE ANGLE OPENING DOWNdUPbHYPHENaOBSERVER EYE SYMBOL
aOCR AMOUNT OF CHECKbBELT BUCKLEbBOW TIEbBRANCH BANK IDENTIFICATIONbCHAIR
bCUSTOMER ACCOUNT NUMBERbDASHbDOUBLE BACKSLASHbFORKbHOOKbINVERTED FORKaOCTAGONAL SIGNaOCTOPUS
aODENaOFFICE BUILDINGaOGHAM FEATHER MARKbLETTER AILMcBEITHcCEIRTcCOLLcDAIRcEABHADHcEADHADH
cEAMHANCHOLLcFEARNcGORTcIFINcIODHADHcLUIScMUINcNGEADALcNIONcONNcORcPEITHcRUIScSAILcSTRAIFcTINNE
cUATHcUILLEANNcURbREVERSED FEATHER MARKbSPACE MARKaOGONEKaOHM SIGNaOIL DRUMaOK HAND SIGN
aOL CHIKI AHADcDIGIT EIGHTdFIVEdFOURdNINEdONEdSEVENdSIXdTHREEdTWOdZEROcGAAHLAA TTUDDAAG
cLETTER AAJdAAKdAAMdAAWdAGdALdANGdATdEDDdENdEPdERRdIHdINYdIRdISdLAdLAAdLEdLIdLOdLUdOBdOHdOTTdOV
dUCdUDdUNNdUYcMU TTUDDAGcMU-GAAHLAA TTUDDAAGcPHAARKAAcPUNCTUATION DOUBLE MUCAADdMUCAADcRELAA
aOLD CHINESE HOOK MARKcITERATION MARKbHUNGARIAN CAPITAL LETTER AeAAeAKeAMBeANDeCLOSE EeEeEBeEC
eECHeECSeEDeEEeEFeEGeEGYeEHeEJeEKeELeELYeEMeEMPeENeENCeENTeENT-SHAPED SIGNeENYeEPeEReESeESZeET
eETYeEVeEZeEZSeIeIIeNIKOLSBURG OEfUEeOeOEEeOOeRUDIMENTA OEfUEeSHORT EReUeUNKeUSeUUcNUMBER FIFTY
dFIVEdONEeHUNDREDeTHOUSANDdTENcSMALL LETTER AeAAeAKeAMBeANDeCLOSE EeEeEBeECeECHeECSeEDeEEeEFeEG
eEGYeEHeEJeEKeELeELYeEMeEMPeENeENCeENTeENT-SHAPED SIGNeENYeEPeEReESeESZeETeETYeEVeEZeEZSeIeII
eNIKOLSBURG OEfUEeOeOEEeOOeRUDIMENTA OEfUEeSHORT EReUeUNKeUSeUUbITALIC LETTER AdBEdCHEdDEdEdEF
dEKSdELdEMdENdERdERSdESdESHdESSdHEdIdIIdKAdKEdKHEdKUdNORTHERN TSEdOdPEdPHEdSHEdSOUTHERN TSEdTE
dTHEdUdUUdVEdYEdZEcNUMERAL FIFTYdFIVEdONEdTENbKEYbNORTH ARABIAN LETTER AINeALEFeBEHeDADeDALeES-1
eES-2eES-3eFEHeGEEMeGHAINeHAHeHEHeKAFeKHAHeLAMeMEEMeNOONeQAFeREHeSADeTAHeTEHeTHALeTHEHeWAWeYEH
eZAHeZAINdNUMBER ONEeTENeTWENTYbPERMIC LETTER ANdBURdCHERYdDOIdDZHOIdDZITAdEdEFdGAIdHAdIdIAdIE
dKOKEdLEIdMENOEdNENOEdOdOOdPEEIdREIdSHCHOOIdSHOOIdSIIdTAIdTSIUdUdVERdVOOIdYAdYATdYERdYERIdYERU
dYRYdYUdZATAdZHOIbPERSIAN NUMBER HUNDREDdONEdTENdTWENTYdTWOcSIGN AdAURAMAZDAAdAURAMAZDAA-2
dAURAMAZDAAHAdBAdBAGAdBUUMISHdCAdDAdDAHYAAUSHdDAHYAAUSH-2dDIdDUdFAdGAdGUdHAdIdJAdJIdKAdKUdLAdMA
dMIdMUdNAdNUdPAdRAdRUdSAdSHAdSSAdTAdTHAdTUdUdVAdVIdXAdXSHAAYATHIYAdYAdZAcWORD DIVIDER
bPERSONAL COMPUTERbSOGDIAN FRACTION ONE HALFcLETTER ALEPHdALTERNATE AYINdAYINdBETHdFINAL ALEPH
eBETHeHEeNUNfWITH VERTICAL TAILeSADHEfWITH VERTICAL TAILeTAWfWITH VERTICAL TAILdGIMELdHEdHETH
dKAPHdLAMEDHdMEMdNUNdPEdRESH-AYIN-DALETHdSADHEdSAMEKHdSHINdTAWdWAWdYODHdZAYIN
cLIGATURE AYIN-DALETHcNUMBER FIVEdFOURdONEeHUNDREDdTENdTHIRTYdTHREEdTWENTYdTWO
bSOUTH ARABIAN LETTER ALEFeAYNeBETHeDALETHeDHADHEeDHALETHeFEeGHAYNeGIMELeHEeHETHeKAPHeKHETH
eLAMEDHeMEMeNUNeQOPHeRESHeSADHEeSAMEKHeSATeSHINeTAWeTETHeTHAWeTHETHeWAWeYODHeZAYNdNUMBER FIFTY
eONEdNUMERIC INDICATORbTURKIC LETTER ORKHON AeABeADeAEBeAEDeAEGeAEKeAELeAENeAEReAESeAETeAEYeAG
eALeANeAQeAReASeASHeATeAYeBASHeECeELTeEMeENCeENGeENTeENYeEPeESHeEZeIeICeIQeOeOEeOEKeOPeOQeOT
dYENISEI AeABeADeAEeAEBeAEGeAEKeAENeAENGeAETeAEYeAGeALeANGeAQeAReASHeATeAYeEeECeENCeENTeENYeESH
eEZeIeIQeOEeOEKeOQbUYGHUR COMBINING DOT ABOVEeBELOWdTWO DOTS ABOVEfBELOWcLETTER ALEPHdBETH
dFINAL HETHdGIMEL-HETHdKAPHdLAMEDHdLESHdMEMdNUNdPEdRESHdSADHEdSAMEKHdSHINdTAWdWAWdYODHdZAYIN
cPUNCTUATION BARdFOUR DOTSdTWO BARSeDOTSaOLDER ADULTbMANbWOMANaOLIVEaOM SYMBOL
aON WITH EXCLAMATION MARK WITH LEFT RIGHT ARROW ABOVEaONCOMING AUTOMOBILEbBUSbFIRE ENGINE
bPOLICE CARbTAXIaONE BUTTON MOUSEbDOT LEADERcOVER TWO DOTS PUNCTUATIONaONE-PIECE SWIMSUITaONION
aOPEN BOOKbBOXbCENTRE ASTERISKcBLACK STARcCROSScTEARDROP-SPOKED ASTERISKbFILE FOLDERbFOLDER
bHANDS SIGNbLOCKbMAILBOX WITH LOWERED FLAGdRAISED FLAGbSUBSETbSUPERSET
aOPEN-CIRCUIT-OUTPUT H-TYPE SYMBOLbL-TYPE SYMBOLaOPEN-OUTLINED RIGHTWARDS ARROW
aOPERATING SYSTEM COMMANDaOPHIUCHUSaOPPOSITIONaOPTICAL DISCcICONaOPTION KEYaOR WITH DOT INSIDE
aORANGE BOOKbHEARTaORANGUTANaORIGINAL OFaORIYA AI LENGTH MARKbAU LENGTH MARKbDIGIT EIGHTcFIVE
cFOURcNINEcONEcSEVENcSIXcTHREEcTWOcZERObFRACTION ONE EIGHTHdHALFdQUARTERdSIXTEENTH
cTHREE QUARTERSdSIXTEENTHSbISSHARbLETTER AcAAcAIcAUcBAcBHAcCAcCHAcDAcDDAcDDHAcDHAcEcGAcGHAcHAcI
cIIcJAcJHAcKAcKHAcLAcLLAcMAcNAcNGAcNNAcNYAcOcPAcPHAcRAcRHAcRRAcSAcSHAcSSAcTAcTHAcTTAcTTHAcUcUU
cVAcVOCALIC LdLLdRdRRcWAcYAcYYAbSIGN ANUSVARAcAVAGRAHAcCANDRABINDUcNUKTAcOVERLINEcVIRAMAcVISARGA
bVOWEL SIGN AAdAIdAUdEdIdIIdOdUdUUdVOCALIC LeLLeReRRaORNATE LEFT PARENTHESISbRIGHT PARENTHESIS
aORTHODOX CROSSaOSAGE CAPITAL LETTER AdAHdAIdAINdBRAdCHAdDHAdEdEHCHAdEHKAdEHPAdEHTAdEHTSAdEIN
dGHAdHAdHYAdIdKAdKHAdKYAdLAdMAdNAdOdOINdPAdSAdSHAdTAdTSAdTSHAdUdWAdZAdZHAbSMALL LETTER AdAHdAI
dAINdBRAdCHAdDHAdEdEHCHAdEHKAdEHPAdEHTAdEHTSAdEINdGHAdHAdHYAdIdKAdKHAdKYAdLAdMAdNAdOdOINdPAdSA
dSHAdTAdTSAdTSHAdUdWAdZAdZHAaOSCaOSMANYA DIGIT EIGHTcFIVEcFOURcNINEcONEcSEVENcSIXcTHREEcTWOcZERO
bLETTER AcAAcALEFcBAcCAYNcDEELcDHAcEcEEcFAcGAcHAcIcJAcKAAFcKHAcLAANcMIINcNUUNcOcOOcQAAFcRAcSA
cSHIINcTAcUcWAWcXAcYAaOTTERaOTTOMAN SIYAQ ALTERNATE NUMBER EIGHTeFIVEeFOURfHUNDREDeNINEeSEVEN
eSIXfHUNDREDeTENfTHOUSANDeTHREEeTWOfTHOUSANDcFRACTION ONE HALFeSIXTHcMARRATANcNUMBER EIGHT
eHUNDREDeTHOUSANDdEIGHTYeTHOUSANDdFIFTYeTHOUSANDdFIVEeHUNDREDeTHOUSANDdFORTYeTHOUSANDdFOUR
eHUNDREDeTHOUSANDdNINEeHUNDREDeTHOUSANDdNINETYeTHOUSANDdONEeHUNDREDeTHOUSANDdSEVENeHUNDRED
eTHOUSANDdSEVENTYeTHOUSANDdSIXeHUNDREDeTHOUSANDdSIXTYeTHOUSANDdTENeTHOUSANDdTHIRTYeTHOUSAND
dTHREEeHUNDREDeTHOUSANDdTWENTYeTHOUSANDdTWOeHUNDREDeTHOUSANDaOUNCE SIGNaOUTBOX TRAY
aOUTLINED BLACK STARbGREEK CROSSbLATIN CROSSbWHITE STARaOVERHEATED FACEaOVERLAP
aOVERLAPPING BLACK SQUARESbWHITE AND BLACK SQUAREScSQUARESaOVERLINEaOWLaOXaOYSTER"

def namesWithP : String :=
  "aPACKAGEaPADaPADDING CHARACTERaPAGEbFACING UPbWITH CIRCLED TEXTcCURLaPAGERaPAGESaPAGODA
aPAHAWH HMONG CLAN SIGN FAJeHAMeHAWJeKHABeKOOeKWMeLAUJeLISeMUASePHABeTHOJeTSABeTSHEEJeTSWBeVAJ
eVWJeXYOOJeYAJeYEEGcCONSONANT AUdCAUdCHAUdHAUdHLAUdHNAUdLAUdMAUdNAUdNCHAUdNKAUdNLAUdNTHAUdNTSAU
dPLHAUdQHAUdRAUdVAUdXAUdYAUcDIGIT EIGHTdFIVEdFOURdNINEdONEdSEVENdSIXdTHREEdTWOdZEROcMARK CIM HOM
eKESeKHAVeSOeSUAMeTAUMeTUBcNUMBER HUNDRED MILLIONSdHUNDREDSdMILLIONSdTEN BILLIONSeTHOUSANDSdTENS
dTRILLIONScSIGN AVdCIM CHEEMeCUAM TSHOOJeHAIS LUS NTOG NTOGeNRES TOSePUB DAWBeTSOV ROGeTXWVfCHWV
dHLIdHNUBdIB YAMdLOSdMEEJ SUABeTSEEBdMUSdNQIGdNTUJdTAUdTHIRD-STAGE HLIdTXHEEJ CEEVdVOS FEEMeLUB
eNRUAeSEEVeTHIABeTHOMeTSHAB CEEBdXAUSdXIABdXYEEM FAIBeNTXIVeRHOeTOVdXYOOdZWJ THAJcVOWEL KAAB
dKAAVdKABdKAIBdKAIVdKAUBdKAUVdKAVdKAWBdKAWVdKEBdKEEBdKEEVdKEVdKIABdKIAVdKIBdKIVdKOBdKOOBdKOOV
dKOVdKUABdKUAVdKUBdKUVdKWBdKWVaPALLASaPALM BRANCHbDOWN HANDbTREEbUP HANDaPALMS UP TOGETHER
aPALMYRENE LEFT-POINTING FLEURONbLETTER ALEPHcAYINcBETHcDALETHcFINAL NUNcGIMELcHEcHETHcKAPH
cLAMEDHcMEMcNUNcPEcQOPHcRESHcSADHEcSAMEKHcSHINcTAWcTETHcWAWcYODHcZAYINbNUMBER FIVEcFOURcONEcTEN
cTHREEcTWENTYcTWObRIGHT-POINTING FLEURONaPANCAKESaPANDA FACEaPAPERCLIPaPARACHUTE
aPARAGRAPH SEPARATORaPARAGRAPHOSaPARAGRAPHUS MARKaPARALLEL TObWITH HORIZONTAL STROKE
cTILDE OPERATORaPARENTHESIZED DIGIT EIGHTcFIVEcFOURcNINEcONEcSEVENcSIXcTHREEcTWObHANGUL CHIEUCH
dAcCIEUCdAdUcHIEUHdAcIEUNGdAcKHIEUKHdAcKIYEOKdAcMIEUMdAcNIEUNdAcPHIEUPHdAcPIEUPdAcRIEULdAcSIOSdA
cTHIEUTHdAcTIKEUTdAbIDEOGRAPH ALLIANCEcCALLcCONGRATULATIONcEARTHcEIGHTcENTERPRISEcFESTIVAL
cFINANCIALcFIREcFIVEcFOURcHAVEcLABORcMETALcMOONcNAMEcNINEcONEcREACHcREPRESENTcRESOURCEcRESTcSELF
cSEVENcSIXcSOCIETYcSPECIALcSTOCKcSTUDYcSUNcSUPERVISEcTENcTHREEcTWOcWATERcWOOD
bKOREAN CHARACTER O HUdOJEONbLATIN CAPITAL LETTER AeBeCeDeEeFeGeHeIeJeKeLeMeNeOePeQeReSeTeUeVeW
eXeYeZcSMALL LETTER AeBeCeDeEeFeGeHeIeJeKeLeMeNeOePeQeReSeTeUeVeWeXeYeZbNUMBER EIGHTEENcELEVEN
cFIFTEENcFOURTEENcNINETEENcSEVENTEENcSIXTEENcTENcTHIRTEENcTWELVEcTWENTYaPARROT
aPART ALTERNATION MARKaPARTIAL DIFFERENTIALbLINE BACKWARDcDOWNcFORWARDcUP
aPARTIALLY-RECYCLED PAPER SYMBOLaPARTNERSHIP SIGNaPARTY POPPERaPASSED SYMBOLaPASSENGER SHIP
aPASSIVE-PULL-DOWN-OUTPUT SYMBOLaPASSIVE-PULL-UP-OUTPUT SYMBOLaPASSPORT CONTROL
aPAU CIN HAU GLOTTAL STOPfFINALfVARIANTdLETTER AeBAeCAeCHAeDAeEeFAeFINAL KfLfMfNfNGfPfTfWfYeGA
eHAeIeIAeKAeKHAeLAeMAeNAeNGAeOePAePHAeRAeSAeTAeTHAeUeUAeVAeZAdLOW-FALLING TONEfFINALfLONGgFINAL
dMID-LEVEL TONEfFINALfLONG FINALdRISING TONEfFINALfLONGgFINALdSANDHI GLOTTAL STOPgFINALeTONE
fFINALfLONGgFINALaPAW PRINTSaPDFaPDIaPEACE SYMBOLaPEACHaPEACOCKaPEANUTSaPEARaPEDESTRIAN
aPEN OVER STAMPED ENVELOPEaPENCILaPENGUINaPENSIVE FACEaPENTAGRAMaPEOPLE HUGGINGaPER MILLE SIGN
bSIGNbTEN THOUSAND SIGNaPERCENT SIGNaPERFORMING ARTSaPERMANENT PAPER SIGNaPERPENDICULARbWITH S
aPERSEVERING FACEaPERSON BOWING DEEPLYbCLIMBINGbDOING CARTWHEELbFROWNINGbIN LOTUS POSITION
cSTEAMY ROOMbRAISING BOTH HANDS IN CELEBRATIONbWITH BALLcBLOND HAIRcCROWNcFOLDED HANDScHEADSCARF
cPOUTING FACEaPERSONAL COMPUTERaPERSPECTIVEaPESETA SIGNaPESO SIGNaPETRI DISH
aPHAGS-PA DOUBLE HEAD MARKbLETTER AcALTERNATE YAcASPIRATED FAcBAcCAcCANDRABINDUcCHAcDAcDDAcDZAcE
cEEcFAcGAcGGAcHAcIcJAcKAcKHAcLAcMAcNAcNGAcNNAcNYAcOcPAcPHAcQAcRAcSAcSHAcSMALL AcTAcTHAcTSAcTSHA
cTTAcTTHAcUcVOICED HAcVOICELESS SHAcWAcXAcYAcZAcZHAbMARK DOUBLE SHADcSHADbSINGLE HEAD MARK
bSUBJOINED LETTER RAdWAdYAbSUPERFIXED LETTER RAaPHAISTOS DISC SIGN ARROWdBEEdBEEHIVEdBOOMERANG
dBOWdBULLS LEGdCAPTIVEdCARPENTRY PLANEdCATdCHILDdCLUBdCOLUMNdCOMBdCOMBINING OBLIQUE STROKE
dDOLIUMdDOVEdEAGLEdFLUTEdGAUNTLETdGRATERdHELMETdHIDEdHORNdLIDdLILYdMANACLESdMATTOCKdOX BACK
dPAPYRUSdPEDESTRIANdPLANE TREEdPLUMED HEADdRAMdROSETTEdSAWdSHIELDdSHIPdSLINGdSMALL AXEdSTRAINER
dTATTOOED HEADdTIARAdTUNNYdVINEdWAVY BANDdWOMANaPHILIPPINE DOUBLE PUNCTUATIONbSINGLE PUNCTUATION
aPHOENICIAN LETTER AINcALFcBETcDELTcGAMLcHEcHETcKAFcLAMDcMEMcNUNcPEcQOFcROSHcSADEcSEMKcSHINcTAU
cTETcWAUcYODcZAIbNUMBER ONEdHUNDREDcTENcTHREEcTWENTYcTWObWORD SEPARATORaPHOLUSaPICKaPICKUP TRUCK
aPIEaPIGbFACEbNOSEaPILCROW SIGNaPILE OF POOaPILLaPINATAaPINCHED FINGERSaPINCHING HAND
aPINE DECORATIONaPINEAPPLEaPINWHEEL STARaPISCESaPISTOLaPITCHFORKbWITH TEE TOPaPLACARD
aPLACE OF INTEREST SIGNcWORSHIPaPLANCK CONSTANTcOVER TWO PIaPLAYGROUND SLIDE
aPLAYING CARD ACE OF CLUBSeDIAMONDSeHEARTSeSPADEScBACKcBLACK JOKERcEIGHT OF CLUBSeDIAMONDS
eHEARTSeSPADEScFIVE OF CLUBSeDIAMONDSeHEARTSeSPADEScFOOLcFOUR OF CLUBSeDIAMONDSeHEARTSeSPADES
cJACK OF CLUBSeDIAMONDSeHEARTSeSPADEScKING OF CLUBSeDIAMONDSeHEARTSeSPADEScKNIGHT OF CLUBS
eDIAMONDSeHEARTSeSPADEScNINE OF CLUBSeDIAMONDSeHEARTSeSPADEScQUEEN OF CLUBSeDIAMONDSeHEARTS
eSPADEScRED JOKERcSEVEN OF CLUBSeDIAMONDSeHEARTSeSPADEScSIX OF CLUBSeDIAMONDSeHEARTSeSPADES
cTEN OF CLUBSeDIAMONDSeHEARTSeSPADEScTHREE OF CLUBSeDIAMONDSeHEARTSeSPADEScTRUMP-1cTRUMP-10
cTRUMP-11cTRUMP-12cTRUMP-13cTRUMP-14cTRUMP-15cTRUMP-16cTRUMP-17cTRUMP-18cTRUMP-19cTRUMP-2
cTRUMP-20cTRUMP-21cTRUMP-3cTRUMP-4cTRUMP-5cTRUMP-6cTRUMP-7cTRUMP-8cTRUMP-9cTWO OF CLUBSeDIAMONDS
eHEARTSeSPADEScWHITE JOKERaPLDaPLUaPLUNGERaPLUS SIGNcABOVE EQUALS SIGNcIN LEFT HALF CIRCLE
dRIGHT HALF CIRCLEdTRIANGLEcWITH BLACK TRIANGLEdCIRCUMFLEX ACCENT ABOVEdDOT BELOW
dSMALL CIRCLE ABOVEdSUBSCRIPT TWOdTILDE ABOVEeBELOWaPLUS-MINUS SIGNaPLUTObFORM FIVEcFOURcTHREE
cTWOaPMaPOCKET CALCULATORaPOLICE CARbCARS REVOLVING LIGHTbOFFICERaPOODLE
aPOP DIRECTIONAL FORMATTINGcISOLATEaPOPCORNaPORTABLE STEREOaPOSEIDONaPOSITION INDICATOR
aPOSTAL HORNbMARKcFACEaPOSTBOXaPOT OF FOODaPOTABLE WATER SYMBOLaPOTATOaPOTTED PLANTaPOUCH
aPOULTRY LEGaPOUND SIGNaPOURING LIQUIDaPOUTING CAT FACEbFACEaPOWER ON SYMBOLbON-OFF SYMBOL
bSLEEP SYMBOLbSYMBOLaPRAYER BEADSaPRECEDESbABOVE ALMOST EQUAL TOcEQUALS SIGNcNOT ALMOST EQUAL TO
dEQUAL TOcSINGLE-LINE EQUALS SIGNdNOT EQUAL TObBUT NOT EQUIVALENT TObOR EQUAL TOcEQUIVALENT TO
bUNDER RELATIONaPREGNANT MANbPERSONbWOMANaPRESCRIPTION TAKEaPRESENTATION FORM FOR VERTICAL COLON
eCOMMAeEM DASHeEN DASHeEXCLAMATION MARKeHORIZONTAL ELLIPSISeIDEOGRAPHIC COMMAfFULL STOP
eLEFT ANGLE BRACKETfBLACK LENTICULAR BRACKETfCORNER BRACKETfCURLY BRACKETfDOUBLE ANGLE BRACKET
fPARENTHESISfSQUARE BRACKETfTORTOISE SHELL BRACKETfWHITE CORNER BRACKETgLENTICULAR BRACKET
eLOW LINEeQUESTION MARKeRIGHT ANGLE BRACKETfBLACK LENTICULAR BRACKETfCORNER BRACKET
fCURLY BRACKETfDOUBLE ANGLE BRACKETfPARENTHESISfSQUARE BRACKETfTORTOISE SHELL BRACKET
fWHITE CORNER BRACKETgLENTICULAR BRACKEThBRAKCETeSEMICOLONeTWO DOT LEADEReWAVY LOW LINEaPRETZEL
aPREVIOUS PAGEaPRIMEaPRINCEaPRINCESSaPRINT SCREEN SYMBOLaPRINTERbICONaPRIVACY MESSAGE
aPRIVATE USE ONEcTWObUSE-1bUSE-2aPROBING CANEaPROHIBITED SIGNaPROJECTIVEaPROPERTY LINE
aPROPORTIONaPROPORTIONAL TOaPROSERPINAaPSALTER PAHLAVI FOUR DOTS WITH CROSSfDOTcLETTER ALEPH
dBETHdDALETHdGIMELdHEdHETHdKAPHdLAMEDHdMEM-QOPHdNUNdPEdSADHEdSAMEKHdSHINdTAWdWAW-AYIN-RESHdYODH
dZAYINcNUMBER FOURdONEeHUNDREDdTENdTHREEdTWENTYdTWOcSECTION MARKcTURNED SECTION MARKaPU1aPU2
aPUBLIC ADDRESS LOUDSPEAKERaPUNCTUATION SPACEaPUNCTUS ELEVATUS MARKaPURPLE HEARTaPURSEaPUSHPIN
aPUT LITTER IN ITS PLACE SYMBOL"

def namesWithQ : String :=
  "aQUADRANT LOWER LEFTcRIGHTbUPPER LEFTdAND LOWER LEFT AND LOWER RIGHTfRIGHT
eUPPER RIGHT AND LOWER LEFTiRIGHTcRIGHTdAND LOWER LEFTgAND LOWER RIGHT
aQUADRUPLE INTEGRAL OPERATORbPRIMEaQUARTER NOTEaQUATERNION INTEGRAL OPERATOR
aQUESTION EXCLAMATION MARKbMARKaQUESTIONED EQUAL TOaQUINCUNXaQUOTATION MARK"

def namesWithR : String :=
  "aRABBITbFACEaRACCOONaRACING CARbMOTORCYCLEaRADICAL SYMBOL BOTTOMaRADIObBUTTONaRADIOACTIVE SIGN
aRAILWAY CARbTRACKaRAINaRAINBOWaRAISED BACK OF HANDbCOMMAbDOTbDOTTED INTERPOLATION MARKERbFIST
bHANDcWITH FINGERS SPLAYEDdPART BETWEEN MIDDLE AND RING FINGERSbINTERPOLATION MARKERbMC SIGN
bMD SIGNbMR SIGNbSQUAREaRAMaRATaRATIOaRAZORaRECEIPTaRECORD SEPARATORaRECREATIONAL VEHICLE
aRECYCLED PAPER SYMBOLaRECYCLING SYMBOL FOR GENERIC MATERIALSdTYPE-1 PLASTICSdTYPE-2 PLASTICS
dTYPE-3 PLASTICSdTYPE-4 PLASTICSdTYPE-5 PLASTICSdTYPE-6 PLASTICSdTYPE-7 PLASTICSaRED APPLE
bGIFT ENVELOPEaREFERENCE MARKaREGIONAL INDICATOR SYMBOL LETTER AeBeCeDeEeFeGeHeIeJeKeLeMeNeOePeQ
eReSeTeUeVeWeXeYeZaREGISTERED SIGNaREJANG CONSONANT SIGN HdNdNGdRbLETTER AcBAcCAcDAcGAcHAcJAcKA
cLAcMAcMBAcNAcNDAcNGAcNGGAcNYAcNYJAcPAcRAcSAcTAcWAcYAbSECTION MARKbVIRAMAbVOWEL SIGN AIdAUdEdEA
dEUdIdOdUaRELIEVED FACEaREMINDER RIBBONaREPLACEMENT CHARACTERaRESPONSEaRESTRICTED LEFT ENTRY-1
cENTRY-2aRESTROOMaRETURN LEFTbRIGHTbSYMBOLaREVERSE CHECKER BOARDbINDEX
bLIGHT FOUR POINTED PINWHEEL STARbLINE FEEDbSOLIDUScOPERATORcPRECEDING SUBSET
cWITH HORIZONTAL STROKEbTILDE OPERATOR ABOVE LEFTWARDS ARROWeRIGHTWARDS ARROWaREVERSED ANGLE
cWITH UNDERBARbCOMMAbDOUBLE PRIMEdQUOTATION MARKcSTROKE NOT SIGNbEMPTY SETbFORKED PARAGRAPHOS
bHAND WITH MIDDLE FINGER EXTENDEDbNOT SIGNbPILCROW SIGNbPRIMEbQUESTION MARK
bRAISED HAND WITH FINGERS SPLAYEDbRIGHT ANGLEbROTATED FLORAL HEART BULLETbSANS-SERIF CAPITAL L
bSEMICOLONbTHUMBS DOWN SIGNcUP SIGNbTILDEcEQUALSbTRIPLE PRIMEbVICTORY HANDaREVOLVING HEARTS
aRHINOCEROSaRIaRIAL SIGNaRIBBONbARROW DOWN LEFTdRIGHTcLEFT DOWNdUPcRIGHT DOWNdUPcUP LEFTdRIGHT
aRICE BALLbCRACKERaRIFLEaRIGHT AND LOWER ONE EIGHTH BLOCKcUPPER ONE EIGHTH BLOCKbANGER BUBBLE
bANGLEcBRACKETdWITH DOTcDOTTED SUBSTITUTION MARKERcSUBSTITUTION MARKERcVARIANT WITH SQUARE
cWITH ARCdDOWNWARDS ZIGZAG ARROWbARC GREATER-THAN BRACKETbARROW WITH CIRCLED PLUSdSMALL CIRCLE
bBLACK LENTICULAR BRACKETcTORTOISE SHELL BRACKETbCEILINGbCORNER BRACKETbCURLY BRACKETdLOWER HOOK
dMIDDLE PIECEdUPPER HOOKbDOTTED SUBSTITUTION BRACKETbDOUBLE ANGLE BRACKET
cARROW WITH ROUNDED HEADcPARENTHESIScQUOTATION MARKcWIGGLY FENCEbFISH TAILbFIVE EIGHTHS BLOCK
bFLOORbHALF BLACK CIRCLEdSTARcBLOCKcFOLDERcMEDIUM SHADEcRUNNING MANbHAND TELEPHONE RECEIVER
bLOW PARAPHRASE BRACKETbNORMAL FACTOR SEMIDIRECT PRODUCTbONE EIGHTH BLOCKcQUARTER BLOCK
bOPEN SQUARED DOTbOUTER JOINbPARENTHESIScEXTENSIONcLOWER HOOKcUPPER HOOKbRAISED OMISSION BRACKET
bS-SHAPED BAG DELIMITERbSEMIDIRECT PRODUCTbSEVEN EIGHTHS BLOCKbSIDEWAYS U BRACKET
bSINGLE QUOTATION MARKbSPEAKERcWITH ONE SOUND WAVEdTHREE SOUND WAVESbSPEECH BUBBLE
bSQUARE BRACKETdEXTENSIONdLOWER CORNERdUPPER CORNERdWITH DOUBLE STROKEeQUILLeSTROKE
eTICK IN BOTTOM CORNERgTOP CORNEReUNDERBARbSUBSTITUTION BRACKETbTACK
bTHIRD WHITE RIGHT POINTING INDEXbTHOUGHT BUBBLEbTHREE EIGHTHS BLOCKcQUARTERS BLOCK
bTORTOISE SHELL BRACKETbTRANSPOSITION BRACKETbTRIANGLEcABOVE LEFT TRIANGLE
bTRIANGULAR ONE QUARTER BLOCKbVERTICAL BAR WITH QUILLcBOX LINEbWHITE CORNER BRACKET
cCURLY BRACKETcLENTICULAR BRACKETcPARENTHESIScSQUARE BRACKETcTORTOISE SHELL BRACKETbWIGGLY FENCE
aRIGHT-FACING ARMENIAN ETERNITY SIGNbFISTbSVASTI SIGNdWITH DOTS
aRIGHT-HANDED INTERLACED PENTAGRAMaRIGHT-POINTING ANGLE BRACKETbCURVED ANGLE BRACKET
bDOUBLE ANGLE QUOTATION MARKbMAGNIFYING GLASSaRIGHT-SHADED WHITE RIGHTWARDS ARROW
aRIGHT-SIDE ARC CLOCKWISE ARROWaRIGHT-TO-LEFT EMBEDDINGbISOLATEbMARKbOVERRIDE
aRIGHTHAND INTERIOR PRODUCTaRIGHTWARDS ARROWcABOVE ALMOST EQUAL TOdREVERSE ALMOST EQUAL TO
eTILDE OPERATORdSHORT LEFTWARDS ARROWdTILDE OPERATORcAND UPPER AND LOWER ONE EIGHTH BLOCK
cFROM BAReTO BLACK DIAMONDcOVER LEFTWARDS ARROWcTHROUGH GREATER-THANdSUPERSETdXcTO BAR
dBLACK DIAMONDcWITH CORNER DOWNWARDSdDOTTED STEMdDOUBLE VERTICAL STROKEdEQUILATERAL ARROWHEAD
dHOOKdLARGE TRIANGLE ARROWHEADdLOOPdMEDIUM TRIANGLE ARROWHEADdNOTCHED TAILdPLUS BELOW
dSMALL EQUILATERAL ARROWHEADeTRIANGLE ARROWHEADdSTROKEdTAILeWITH DOUBLE VERTICAL STROKE
fVERTICAL STROKEdTIP DOWNWARDSeUPWARDSdVERTICAL STROKEbARROW-TAIL
bBACK-TILTED SHADOWED WHITE ARROWbBLACK ARROWcCIRCLED WHITE ARROWbBOTTOM SHADED WHITE ARROW
bCOMPRESSED ARROWbDASHED ARROWbDOUBLE ARROWdFROM BARdWITH STROKEeVERTICAL STROKEcARROW-TAIL
cDASH ARROWbFINGER-POST ARROWbFRONT-TILTED SHADOWED WHITE ARROWbHAND
bHARPOON OVER LEFTWARDS HARPOONcWITH BARB DOWN ABOVE LEFTWARDS HARPOON WITH BARB DOWN
fBELOW LONG DASHfFROM BARfTO BAReDOWNWARDSeUP ABOVE LEFTWARDS HARPOON WITH BARB UPgLONG DASH
gRIGHTWARDS HARPOON WITH BARB DOWNfFROM BARfTO BAReUPWARDSbHEAVY ARROWcCOMPRESSED ARROW
bLEFT-SHADED WHITE ARROWbOPEN-HEADED ARROWbPAIRED ARROWSbQUADRUPLE ARROW
bRIGHT-SHADED WHITE ARROWbROCKETbSANS-SERIF ARROWbSQUARED ARROWbSQUIGGLE ARROW
bTOP SHADED WHITE ARROWbTRIANGLE ARROWHEADbTRIANGLE-HEADED ARROW
dOVER LEFTWARDS TRIANGLE-HEADED ARROWdTO BARdWITH BOLD SHAFTeDOUBLE HORIZONTAL STROKE
fVERTICAL STROKEeHEAVY SHAFTeLONG TIP DOWNWARDSgUPWARDSeMEDIUM SHAFTeNARROW SHAFT
eVERY HEAVY SHAFTcDASHED ARROWcPAIRED ARROWSbTRIPLE ARROWcDASH ARROWbTWO HEADED ARROW
bTWO-HEADED ARROW FROM BARdWITH DOUBLE VERTICAL STROKEeTAILfWITH DOUBLE VERTICAL STROKE
gVERTICAL STROKEeTRIANGLE ARROWHEADSeVERTICAL STROKEcTRIPLE DASH ARROWbWAVE ARROWbWHITE ARROW
dFROM WALLdWITHIN TRIANGLE ARROWHEADaRINGbABOVEbBUOYbEQUAL TObIN EQUAL TObOPERATORbPOINT
aRINGED PLANETaRINGING BELLaRISING DIAGONAL CROSSING FALLING DIAGONALdSOUTH EAST ARROWaRLEaRLI
aRLMaRLOaROASTED SWEET POTATOaROBOT FACEaROCKaROCKETaROLL OF PAPERaROLLED-UP NEWSPAPER
aROLLER COASTERbSKATEaROLLING ON THE FLOOR LAUGHINGaROMAN AS SIGNbCENTURIAL SIGNbDENARIUS SIGN
bDIMIDIA SEXTULA SIGNbDUPONDIUS SIGNbNUMERAL EIGHTcELEVENcFIFTYdEARLY FORMdTHOUSANDcFIVEdHUNDRED
dTHOUSANDcFOURcNINEcONEdHUNDREDeTHOUSANDdTHOUSANDeC DcREVERSED ONE HUNDREDcSEVENcSIXdLATE FORM
cTENdTHOUSANDcTHREEcTWELVEcTWObQUINARIUS SIGNbSEMUNCIA SIGNbSESTERTIUS SIGNbSEXTANS SIGN
bSEXTULA SIGNbSILIQUA SIGNbUNCIA SIGNaROOSTERaROSEaROSETTEaROTATED CAPITAL QbFLORAL HEART BULLET
bHEAVY BLACK HEART BULLETbLIGHT FOUR POINTED BLACK CUSPbWHITE FOUR POINTED CUSPaROUND PUSHPIN
bTARGETaROUNDED SYMBOL FOR CAIdFUdLUdSHOUdSHUANGXIdXIaROWBOATaRSaRUBLE SIGNaRUGBY FOOTBALL
aRULE-DELAYEDaRUMI DIGIT EIGHTcFIVEcFOURcNINEcONEcSEVENcSIXcTHREEcTWObFRACTION ONE HALFdQUARTER
dTHIRDcTWO THIRDSbNUMBER EIGHT HUNDREDcEIGHTYcFIFTYcFIVE HUNDREDcFORTYcFOUR HUNDREDcNINE HUNDRED
cNINETYcONE HUNDREDcSEVEN HUNDREDcSEVENTYcSIX HUNDREDcSIXTYcTENcTHIRTYcTHREE HUNDREDcTWENTY
cTWO HUNDREDaRUNIC ARLAUG SYMBOLbBELGTHOR SYMBOLbCROSS PUNCTUATIONbLETTER AC AcAESCcALGIZ EOLHX
cANSUZ AcBERKANAN BEORC BJARKAN BcCcCALCcCEALCcCENcCWEORTHcDcDAGAZ DAEG DcDOTTED-LcDOTTED-N
cDOTTED-PcEcEARcEHWAZ EH EcENGcETHcFEHU FEOH FE FcFRANKS CASKET ACeAESCeEHeISeOScGcGAR
cGEBO GYFU GcGERcHAEGL HcHAGLAZ HcICELANDIC-YRcINGcINGWAZcIORcISAZ IS ISS IcIWAZ EOHcJERAN JcK
cKAUN KcKAUNAcLAUKAZ LAGU LOGR LcLONG-BRANCH-AR AEcLONG-BRANCH-HAGALL HcLONG-BRANCH-MADR M
cLONG-BRANCH-OSS OcLONG-BRANCH-YRcMANNAZ MAN McNAUDIZ NYD NAUD NcOcOEcONcOOcOPEN-PcOS O
cOTHALAN ETHEL OcPERTHO PEORTH PcQcRAIDO RAD REID RcSHcSHORT-TWIG-AR AcSHORT-TWIG-BJARKAN B
cSHORT-TWIG-HAGALL HcSHORT-TWIG-MADR McSHORT-TWIG-NAUD NcSHORT-TWIG-OSS OcSHORT-TWIG-SOL S
cSHORT-TWIG-TYR TcSHORT-TWIG-YRcSIGEL LONG-BRANCH-SOL ScSOWILO ScSTANcTHURISAZ THURS THORN
cTIWAZ TIR TYR TcURUZ UR UcVcWcWUNJO WYNN WcXcYcYRcZbMULTIPLE PUNCTUATIONbSINGLE PUNCTUATION
bTVIMADUR SYMBOLaRUNNERaRUNNING SHIRT WITH SASHaRUPEE SIGNaRUSSIAN ASTROLOGICAL SYMBOL BINOVILE
dNOVILEdQUINTILEdSENTAGONdTREDECILEdVIGINTILE"

def namesWithS : String :=
  "aS IN TRIANGLEaSAFETY PINbVESTaSAGITTARIUSaSAILBOATaSAKE BOTTLE AND CUPaSALT SHAKERaSALTIRE
aSALUTING FACEaSAMARITAN ABBREVIATION MARKbLETTER ALAFcBAAcBITcDALATcFIcGAMANcINcITcIYcKAAF
cLABATcMIMcNUNcQUFcRISHcSHANcSINGAATcTAAFcTITcTSAADIYcYUTcZENbMARK DAGESHcEPENTHETIC YUTcIN
cIN-ALAFcNEQUDAAcOCCLUSIONbMODIFIER LETTER EPENTHETIC YUTdIdSHORT AbPUNCTUATION AFSAAQcANGED
cANNAAUcARKAANUcATMAAUcBAUcMELODIC QITSAcNEQUDAAcQITSAcSHIYYAALAAcSOF MASHFAATcTURUcZAEFcZIQAA
bVOWEL SIGN AdAAdEdIdLONG AeAAeEeIeUdOdOVERLONG AeAAdSHORT AdSUKUNdUaSANDWICH
aSANS-SERIF HEAVY DOUBLE COMMA QUOTATION MARK ORNAMENTdTURNED COMMA QUOTATION MARK ORNAMENT
cLOW DOUBLE COMMA QUOTATION MARK ORNAMENTbINTERROBANG ORNAMENTaSARIaSATELLITEbANTENNAaSATURN
aSAURASHTRA CONSONANT SIGN HAARUbDANDAbDIGIT EIGHTcFIVEcFOURcNINEcONEcSEVENcSIXcTHREEcTWOcZERO
bDOUBLE DANDAbLETTER AcAAcAIcAUcBAcBHAcCAcCHAcDAcDDAcDDHAcDHAcEcEEcGAcGHAcHAcIcIIcJAcJHAcKAcKHA
cLAcLLAcMAcNAcNGAcNNAcNYAcOcOOcPAcPHAcRAcSAcSHAcSSAcTAcTHAcTTAcTTHAcUcUUcVAcVOCALIC LdLLdRdRRcYA
bSIGN ANUSVARAcCANDRABINDUcVIRAMAcVISARGAbVOWEL SIGN AAdAIdAUdEdEEdIdIIdOdOOdUdUUdVOCALIC LeLLeR
eRRaSAUROPODaSAXOPHONEaSCALESaSCARFaSCHOOLbSATCHELaSCIaSCOOTERaSCORPIONaSCORPIUSaSCREEN
aSCREWDRIVERaSCRIPT CAPITAL BcEcFcHcIcLcMcPcRbLIGATURE ET ORNAMENTbSMALL EcGcLcOaSCROLLaSCRUPLE
aSEALaSEATaSECOND PLACE MEDALaSECTION SIGNaSECTORaSEDNAaSEE-NO-EVIL MONKEYaSEEDLINGaSEGMENT
aSEGMENTED DIGIT EIGHTcFIVEcFOURcNINEcONEcSEVENcSIXcTHREEcTWOcZEROaSELFIEaSEMICOLON
aSEMIDIRECT PRODUCT WITH BOTTOM CLOSEDaSEMISEXTILEaSEPARATED SYMBOL
aSERIOUS FACE WITH SYMBOLS COVERING MOUTHaSERVICE MARKaSESAME DOTaSESQUIQUADRATEaSET MINUS
bTRANSMIT STATEaSEWING NEEDLEaSEXTILEaSGCaSHADOWED WHITE CIRCLEcLATIN CROSScSTAR
aSHALLOW PAN OF FOODaSHAMROCKaSHARADA ABBREVIATION SIGNbCONTINUATION SIGNbDANDAbDIGIT EIGHTcFIVE
cFOURcNINEcONEcSEVENcSIXcTHREEcTWOcZERObDOUBLE DANDAbEKAMbEXTRA SHORT VOWEL MARKbHEADSTROKE
bLETTER AcAAcAIcAUcBAcBHAcCAcCHAcDAcDDAcDDHAcDHAcEcGAcGHAcHAcIcIIcJAcJHAcKAcKHAcLAcLLAcMAcNAcNGA
cNNAcNYAcOcPAcPHAcRAcSAcSHAcSSAcTAcTHAcTTAcTTHAcUcUUcVAcVOCALIC LdLLdRdRRcYAbOMbSANDHI MARK
bSECTION MARK-1cMARK-2bSEPARATORbSIGN ANUSVARAcAVAGRAHAcCANDRABINDUcINVERTED CANDRABINDU
cJIHVAMULIYAcNUKTAcSIDDHAMcUPADHMANIYAcVIRAMAcVISARGAbSUTRA MARKbVOWEL MODIFIER MARKcSIGN AAdAI
dAUdEdIdIIdOdPRISHTHAMATRA EdUdUUdVOCALIC LeLLeReRRaSHARKaSHAVED ICEaSHAVIAN LETTER ADOcAGEcAH
cAIRcAREcARRAYcASHcAWEcBIBcCHURCHcDEADcEARcEATcEGGcERRcFEEcGAGcHA-HAcHUNGcIANcICEcIFcJUDGEcKICK
cLOLLcMEASUREcMIMEcNUNcOAKcOILcONcOOZEcORcOUTcPEEPcROARcSOcSUREcTHEYcTHIGHcTOTcUPcVOWcWOEcWOOL
cYEAcYEWcZOOaSHEEPaSHIELDaSHIFT INbOUTaSHINTO SHRINEaSHIPaSHOCKED FACE WITH EXPLODING HEAD
aSHOOTING STARaSHOPPING BAGSbTROLLEYaSHORT BACKSLANTED SOUTH ARROW
bBENT ARROW POINTING DOWNWARDS THEN NORTH EASTbDOWN TACKdWITH OVERBARbLEFT TACK
bRIGHTWARDS ARROW ABOVE LEFTWARDS ARROWbSLANTED NORTH ARROWbUP TACKdABOVE SHORT DOWN TACK
dWITH UNDERBARaSHORTCAKEaSHORTHAND FORMAT CONTINUING OVERLAPcDOWN STEPcLETTER OVERLAPcUP STEP
aSHORTSaSHOULDERED OPEN BOXaSHOWERaSHRIMPaSHRUGaSHUFFLE PRODUCTaSHYaSIaSIDDHAM DANDA
bDOUBLE DANDAbEND OF TEXT MARKbLETTER AcAAcAIcALTERNATE UcAUcBAcBHAcCAcCHAcDAcDDAcDDHAcDHAcEcGA
cGHAcHAcIcIIcJAcJHAcKAcKHAcLAcMAcNAcNGAcNNAcNYAcOcPAcPHAcRAcSAcSHAcSSAcTAcTHA
cTHREE-CIRCLE ALTERNATE IcTTAcTTHAcTWO-CIRCLE ALTERNATE IeIIcUcUUcVAcVOCALIC LdLLdRdRRcYA
bREPETITION MARK-1cMARK-2cMARK-3bSECTION MARK DOUBLE RINGfWITH RAYS
dWITH CIRCLES AND FOUR ENCLOSURESgRAYSgTWO ENCLOSURESeDOUBLE CRESCENTSeQUADRUPLE CRESCENTS
eRAYS AND DOTTED CRESCENTShDOUBLE CRESCENTShTRIPLE CRESCENTSeSEPTUPLE CRESCENTS
eTRIDENT AND DOTTED CRESCENTSgU-SHAPED ORNAMENTSeTRIPLE CRESCENTSbSEPARATOR BARcDOT
bSIGN ANUSVARAcCANDRABINDUcNUKTAcSIDDHAMcVIRAMAcVISARGAbVOWEL SIGN AAdAIdALTERNATE UeUUdAUdEdI
dIIdOdUdUUdVOCALIC ReRRaSIDEWAYS BLACK DOWN POINTING INDEXcLEFT POINTING INDEX
cRIGHT POINTING INDEXcUP POINTING INDEXbWHITE DOWN POINTING INDEXcLEFT POINTING INDEX
cRIGHT POINTING INDEXcUP POINTING INDEXaSIGN OF THE HORNSaSIGNWRITING AIR BLOW SMALL ROTATIONS
cBLOWING OUTcSUCK SMALL ROTATIONScSUCKING INbBREATH EXHALEcINHALEbBRUSH BETWEENcMULTIPLEcSINGLE
bCHEEKS NEUTRALcPUFFEDcSUCKEDbCOLONbCOMMAbDREAMY EYEBROWS DOWN NEUTRALdNEUTRAL DOWNeUP
dUP NEUTRALbDYNAMIC ARROWHEAD LARGEdSMALLcEVERY OTHER TIMEcFASTcGRADUALcRELAXEDcSIMULTANEOUS
dALTERNATINGcSLOWcTENSEbEARSbEXCITEMENTbEYE BLINK MULTIPLEdSINGLEcWINKbEYEBROWS STRAIGHT DOWN
dNEUTRALdUPbEYEGAZE-FLOORPLANE CURVEDcSTRAIGHTdALTERNATINGdDOUBLEbEYEGAZE-WALLPLANE CIRCLING
cCURVEDcSTRAIGHTdALTERNATINGdDOUBLEbEYELASHES DOWNcFLUTTERINGcUPbEYES CLOSEDcHALF CLOSEDdOPEN
cOPENcSQUEEZEDcWIDE OPENcWIDENING MOVEMENTbFACE DIRECTION POSITION NOSE FORWARD TILTING
fUP OR DOWNiTILTINGbFILL MODIFIER-2cMODIFIER-3cMODIFIER-4cMODIFIER-5cMODIFIER-6bFINGER
bFLICK LARGE MULTIPLEdSINGLEcSEQUENTIALcSMALL MULTIPLEdSINGLEbFLOORPLANE SHOULDER HIP MOVE
bFOREHEAD CONTACTcNEUTRALcWRINKLEDbFULL STOPbGRASP BETWEENcMULTIPLEcSINGLEbHAIRbHAND-ANGLEcINDEX
dMIDDLE LITTLEeRINGdRING LITTLEfOUTdTHUMBeINeOUTcLITTLE INDEXeTHUMB INDEX THUMBhOUTdUP
cMIDDLE RING LITTLEfINfOUTcRING DOWN MIDDLE THUMB INDEX CROSSdLITTLEbHAND-CIRCLEcINDEXdBENT
dHINGEdMIDDLEeCROSS LITTLEeCROSSEDeLITTLEeRINGeTHUMBdRING LITTLEcLITTLE INDEXdUP
cMIDDLE RING LITTLEfBENTdUPcRING LITTLEbHAND-CLAWcFOUR FINGERS CONJOINED
cINDEX THUMB CURVE THUMB INSIDEcMIDDLE RING LITTLE CONJOINEDgSIDEcNO THUMBcTHUMB FORWARDdSIDE
bHAND-CUPcFIVE FINGERS SPREADfOPENcINDEXdRING LITTLEdTHUMBeOPENcMIDDLE RING LITTLEcNO THUMBcOPEN
dNO THUMBdTHUMB FORWARDeSIDEcTHUMB FORWARDdSIDEbHAND-CURLICUEcINDEX RING LITTLE ON
cMIDDLE RING LITTLE ONcOPENbHAND-FISTcFOUR FINGERS CONJOINED BENTcHEELcINDEXdBENTeOVER MIDDLE
dCUPPEDdHINGEDeLOWeMIDDLE UPgTHUMB SIDEdMIDDLEeBENTfTHUMB STRAIGHTeCONJOINEDfCUPPED
gTHUMB FORWARDfHINGEDgTHUMB SIDEfINDEX BENTfMIDDLE BENTfTHUMB FORWARDgSIDEhBENThCONJOINED
eCROSS LITTLEeCROSSEDfTHUMB SIDEeHINGEDfSPREAD THUMB SIDEeLITTLEeRAISED KNUCKLESeRINGfBENT
fCONJOINEDeSTRAIGHT THUMB BENTeTHUMBfANGLEDgOUTfBENTfCIRCLEDfCONJOINED HINGEDfCUPPEDfHINGED
fHOOKEDeUP SPREAD THUMB FORWARDdRAISED KNUCKLEdRING LITTLEdTHUMB ANGLED IN MIDDLE UP
fOUT MIDDLE UPeCIRCLEeCIRCLED MIDDLE UPeCUPPED MIDDLE UPeCURLICUEeCURVE THUMB INSIDEgUNDER
eFORWARD INDEX BENTgSTRAIGHTeHOOKeHOOKED MIDDLE HINGEDgUPeSIDEfBOTH BENTfINDEX BENTgHINGE
fTHUMB BENTgCONJOINEDgDIAGONALdUP MIDDLE HINGEDgTHUMB CONJOINEDhSIDEcLITTLE BENTdDOWN
eOTHERS CIRCLEDeRIPPLE CURVEDfSTRAIGHTdINDEXeTHUMBdRAISED KNUCKLEdTHUMBdTOUCHES THUMBdUP
cMIDDLE BENT OVER INDEXdDOWNdLITTLEdRAISED KNUCKLEdRING LITTLEdTHUMB ANGLED INDEX UP
fOUT INDEX CROSSEDhUPeCIRCLED INDEX HINGEDgUPeCUPPED INDEX UPeHOOKED INDEX UPeLITTLEdUP
eTHUMB SIDEcRING DOWNdINDEXdLITTLEdMIDDLEeCONJOINEDeRAISED KNUCKLESdRAISED KNUCKLEdTHUMBdUP
cTHUMBdBETWEEN INDEX MIDDLEgSTRAIGHTeMIDDLE RINGeRING LITTLEdFORWARDdHEEL
dOVER FOUR RAISED KNUCKLESeTWO FINGERSdSIDE BENTeCONJOINEDeDIAGONALdUNDER FOUR FINGERS
eINDEX BENTeLITTLE UPeTHREE FINGERSeTWO FINGERSbHAND-FLATcBETWEEN PALM FACINGS
cFIVE FINGERS SPREADfBENTfFOUR BENTfHINGEDgNO THUMBgTHUMB SIDEfTHUMB FORWARDcFOUR FINGERSeBENT
eCONJOINEDfSPLITeHINGEDcHEELdFIVE FINGERS SPREADgBENTgFOUR BENTdTHUMB SIDEcSPLIT CENTRE
eTHUMB SIDEgBENTdINDEX THUMB SIDEdLITTLEcTHUMB BENTdFORWARDdSIDEbHAND-HINGE
cFIVE FINGERS SPREAD OPENcFOUR FINGERS CONJOINEDcINDEXdHINGEDdMIDDLE LITTLEeRINGfCONJOINED
dRING LITTLEdTHUMBeLARGEeOPENeSIDEeSMALLcLITTLEdINDEXeTHUMBdTHUMBcMIDDLEdRING LITTLEcNO THUMB
cOPENdNO THUMBdTHUMB FORWARDeSIDEcRINGdDOWN INDEX THUMB HOOK MIDDLEcSMALL
cTHUMB BETWEEN MIDDLE RINGdSIDEeTOUCHING INDEXbHAND-HOOKcCURLICUEcINDEX RING LITTLE INfOUTfUNDER
cMIDDLE RING LITTLE CONJOINEDgINgOUTdTHUMBcRING THUMBbHAND-OVALcFIVE FINGERS SPREADcINDEX
cLITTLE UPcNO THUMBcRING LITTLEcTHUMB FORWARDdSIDEbHEADcMOVEMENT CIRCLE
cMOVEMENT-FLOORPLANE CURVEdSTRAIGHTcMOVEMENT-WALLPLANE CURVEdSTRAIGHTdTILTcRIMbLIMB COMBINATION
cLENGTH-1cLENGTH-2cLENGTH-3cLENGTH-4cLENGTH-5cLENGTH-6cLENGTH-7bLIP LOWER OVER UPPER
cUPPER OVER LOWERbLIPS PRESSED TOGETHERbLOCATION DEPTHcHEAD NECKcHEIGHTcLIMBS DIGITScTORSOcWIDTH
bLOCATION-FLOORPLANE SPACEbLOCATION-WALLPLANE SPACEbMOUTH CLOSED CONTACTdFORWARDdNEUTRALcCORNERS
cFROWNdOPENdWRINKLEDcKISSdFORWARDdWRINKLEDcOPEN CIRCLEdFORWARDdOVALeWRINKLEDeYAWNdRECTANGLE
eWRINKLEDeYAWNdWRINKLEDcSMILEdOPENdWRINKLEDcTENSEdFORWARDdSUCKEDcWRINKLES DOUBLEdSINGLE
bMOVEMENT-DIAGONAL AWAY LARGEdLARGESTdMEDIUMdSMALLcBETWEEN AWAY LARGEeLARGESTeMEDIUMeSMALL
dTOWARDS LARGEeLARGESTeMEDIUMeSMALLcTOWARDS LARGEdLARGESTdMEDIUMdSMALL
bMOVEMENT-FLOORPLANE ARM CIRCLE HITTING WALL LARGE DOUBLEhSINGLEgMEDIUM DOUBLEhSINGLE
gSMALL DOUBLEhSINGLEcBENDcBOX LARGEdMEDIUMdSMALLcCHECKcCORNER LARGEdMEDIUMdSMALLcCROSS
cCURVE COMBINEDdHITTING CEILING LARGEfSMALLeFLOOR LARGEfSMALLdLARGEdLARGESTdMEDIUMdSMALL
cDOUBLE ALTERNATINGeWRIST FLEXdSTRAIGHTdWRIST FLEXcFINGER CIRCLES HITTING WALL DOUBLEgSINGLE
dCONTACTcHUMP HITTING CEILING LARGE DOUBLEgTRIPLEfSMALL DOUBLEgTRIPLEeFLOOR LARGE DOUBLE
fSMALL DOUBLEfTRIPLE LARGE TRIPLEgSMALL TRIPLEdSMALLcJAWcLOOP HITTING CEILING LARGE DOUBLE
gSINGLEfSMALL DOUBLEgSINGLEeFLOOR LARGE DOUBLEgSINGLEfSMALL DOUBLEgSINGLEdSMALLcPEAKS LARGE
dMEDIUMdSMALLcSHAKING PARALLELcSINGLE STRAIGHT LARGEeLARGESTeMEDIUMeSMALLdWRIST FLEX
cTRIPLE ALTERNATING MOVEMENTeWRIST FLEXdSTRAIGHT MOVEMENTdWRIST FLEXcWAVE HITTING CEILING LARGE
fSMALLeFLOOR LARGEfSMALLdLARGEdSMALLdSNAKEcWRIST CIRCLE HITTING WALL DOUBLEgSINGLEcZIGZAG LARGE
dMEDIUMdSMALLbMOVEMENT-HINGE DOWN SEQUENTIALcSIDE TO SIDE SCISSORScUP DOWN ALTERNATING LARGE
fSMALLeLARGEeSMALLdSEQUENTIALbMOVEMENT-WALLPLANE ARM CIRCLE MEDIUM DOUBLEfSINGLEeSMALL DOUBLE
fSINGLEcBEND LARGEdMEDIUMdSMALLcBOX LARGEdMEDIUMdSMALLcCHECK LARGEdMEDIUMdSMALLcCORNER LARGE
dMEDIUMdROTATIONdSMALLcCROSScCURVE HALF-CIRCLE LARGEeLARGESTeMEDIUMeSMALLdHITTING CHEST
eFRONT WALLdQUARTER LARGEeLARGESTeMEDIUMeSMALLdTHEN STRAIGHTdTHREE-QUARTER CIRCLE MEDIUMfSMALL
cCURVED CROSS MEDIUMeSMALLcDOUBLE ALTERNATINGeWRIST FLEXdSTRAIGHTdWRIST FLEX
cFINGER CIRCLES DOUBLEeSINGLEdCONTACTcHUMP HITTING CHESTeFRONT WALLdLARGEdMEDIUMdSMALLcJAW
cLOOP HITTING CHESTeFRONT WALLdLARGEdMEDIUMdSMALLeDOUBLEcPEAKS LARGEdMEDIUMdSMALLcSHAKING
cSINGLE STRAIGHT LARGEeLARGESTeMEDIUMeSMALLdWRIST FLEXcTRIPLE ALTERNATINGeWRIST FLEX
dSTRAIGHT MOVEMENTdWRIST FLEXcWAVE CURVE DOUBLE LARGEfMEDIUMfSMALLeTRIPLE LARGEfMEDIUMfSMALL
dDIAGONAL PATH LARGEfMEDIUMfSMALLdHITTING CHESTeFRONT WALLcWRIST CIRCLE FRONT DOUBLEfSINGLE
cZIGZAG LARGEdMEDIUMdSMALLbNECKbNOSE CONTACTcNEUTRALcWIGGLEScWRINKLESbPARENTHESIS
bROTATION MODIFIER-10cMODIFIER-11cMODIFIER-12cMODIFIER-13cMODIFIER-14cMODIFIER-15cMODIFIER-16
cMODIFIER-2cMODIFIER-3cMODIFIER-4cMODIFIER-5cMODIFIER-6cMODIFIER-7cMODIFIER-8cMODIFIER-9
bROTATION-FLOORPLANE ALTERNATINGdHITTING CEILINGeFLOORcDOUBLEdHITTING CEILINGeFLOORcSINGLE
dHITTING CEILINGeFLOORbROTATION-WALLPLANE ALTERNATEcALTERNATING HITTING CHESTeFRONT WALLcDOUBLE
dHITTING CHESTeFRONT WALLcSINGLEdHITTING CHESTeFRONT WALLbRUB BETWEENcMULTIPLEcSINGLEbSEMICOLON
bSHOULDER HIP POSITIONSdSPINEcTILTING FROM WAISTbSQUEEZE FLICK ALTERNATINGcLARGE MULTIPLEdSINGLE
cSEQUENTIALcSMALL MULTIPLEdSINGLEbSTRIKE BETWEENcMULTIPLEcSINGLEbSURFACE BETWEENcSYMBOLSbTEETH
cBITE LIPScMOVEMENTcON LIPSeMOVEMENTdTONGUEeMOVEMENTbTENSE CHEEKS HIGHdLOWdMIDDLE
bTONGUE CENTRE INSIDE MOUTHdSTICKING OUTcINSIDE MOUTH RELAXEDcLICKING LIPScMOVES AGAINST CHEEK
cSTICKING OUT FARcTIP BETWEEN LIPSdTOUCHING INSIDE MOUTHbTORSO-FLOORPLANE TWISTING
bTORSO-WALLPLANE CURVED BENDcSTRAIGHT STRETCHbTOUCH BETWEENcMULTIPLEcSINGLE
bTRAVEL-FLOORPLANE ROTATION-FLOORPLANE ALTERNATINGdDOUBLEdSINGLEcROTATION-WALLPLANE ALTERNATING
dDOUBLEdSINGLEcSHAKINGbTRAVEL-WALLPLANE ARM SPIRAL DOUBLEeSINGLEeTRIPLE
cROTATION-FLOORPLANE ALTERNATINGdDOUBLEdSINGLEcROTATION-WALLPLANE ALTERNATINGdDOUBLEdSINGLE
cSHAKINGbUPPER BODY TILTING FROM HIP JOINTSbWALLPLANE SHOULDER HIP MOVEaSILHOUETTE OF JAPAN
aSIMILAR ABOVE GREATER-THAN ABOVE EQUALS SIGNcLESS-THAN ABOVE EQUALS SIGNbMINUS SIMILAR
bOR GREATER-THANcLESS-THANaSINE WAVEaSINGLE CHARACTER INTRODUCERbGRAPHIC CHARACTER INTRODUCER
bHIGH-REVERSED-9 QUOTATION MARKbLEFT-POINTING ANGLE QUOTATION MARKbLOW-9 QUOTATION MARK
bRIGHT-POINTING ANGLE QUOTATION MARKbSHIFT THREEcTWOaSINGLE-SHIFT-2aSINGLE-SHIFT-3
aSINHALA ARCHAIC DIGIT EIGHTdFIVEdFOURdNINEdONEdSEVENdSIXdTHREEdTWOcNUMBER EIGHTYdFIFTYdFORTY
dNINETYdONE HUNDREDeTHOUSANDdSEVENTYdSIXTYdTENdTHIRTYdTWENTYbLETTER AAYANNAcAEEYANNAcAEYANNA
cAIYANNAcALPAPRAANA BAYANNAdCAYANNAdDAYANNAdDDAYANNAdGAYANNAdJAYANNAdKAYANNAdPAYANNAdTAYANNA
dTTAYANNAcAMBA BAYANNAcAUYANNAcAYANNAcDANTAJA LAYANNAdNAYANNAdSAYANNAcEEYANNAcEYANNAcFAYANNA
cHAYANNAcIIYANNAcILUUYANNAcILUYANNAcIRUUYANNAcIRUYANNAcIYANNAcKANTAJA NAASIKYAYA
cMAHAAPRAANA BAYANNAdCAYANNAdDAYANNAdDDAYANNAdGAYANNAdJAYANNAdKAYANNAdPAYANNAdTAYANNAdTTAYANNA
cMAYANNAcMUURDHAJA LAYANNAdNAYANNAdSAYANNAcOOYANNAcOYANNAcRAYANNAcSANYAKA DAYANNAdDDAYANNA
dGAYANNAdJAYANNAcTAALUJA NAASIKYAYAdSANYOOGA NAAKSIKYAYAdSAYANNAcUUYANNAcUYANNAcVAYANNAcYAYANNA
bLITH DIGIT EIGHTdFIVEdFOURdNINEdONEdSEVENdSIXdTHREEdTWOdZERObPUNCTUATION KUNDDALIYA
bSIGN AL-LAKUNAcANUSVARAYAcCANDRABINDUcVISARGAYAbVOWEL SIGN AELA-PILLAdDIGA AEDA-PILLA
eGAETTA-PILLAeGAYANUKITTAeIS-PILLAeKOMBUVAePAA-PILLAdGAETTA-PILLAdGAYANUKITTAdKETTI AEDA-PILLA
eIS-PILLAePAA-PILLAdKOMBU DEKAdKOMBUVAeHAA AELA-PILLAfDIGA AELA-PILLAfGAYANUKITTA
aSIX PETALLED BLACK AND WHITE FLORETTEbPOINTED BLACK STARcPINWHEEL STARcSTAR WITH MIDDLE DOT
aSIX-PER-EM SPACEaSIXTEEN POINTED ASTERISKaSKATEBOARDaSKI AND SKI BOOTaSKIERaSKULL
bAND CROSSBONESaSKUNKaSLANTED EQUAL TO OR GREATER-THANfWITH DOT INSIDEeLESS-THANfWITH DOT INSIDE
bNORTH ARROW WITH HOOKED HEADeHORIZONTAL TAILaSLAVONIC ASTERISKaSLEDaSLEEPING ACCOMMODATIONbFACE
bSYMBOLaSLEEPY FACEaSLEUTH OR SPYaSLICE OF PIZZAaSLIGHTLY FROWNING FACEbSMILING FACEaSLOPE
aSLOPING LARGE ANDcORaSLOT MACHINEaSLOTHaSMALL AIRPLANEbAMPERSANDbASTERISKbBLUE DIAMONDbCOLON
bCOMMAbCOMMERCIAL ATbCONTAINS AS MEMBERcWITH OVERBARdVERTICAL BAR AT END OF HORIZONTAL STROKE
bDOLLAR SIGNbELEMENT OFdWITH OVERBAReVERTICAL BAR AT END OF HORIZONTAL STROKEbEM DASH
bEQUALS SIGNbEXCLAMATION MARKbFULL STOPbGREATER-THAN SIGNbHYPHEN-MINUSbIDEOGRAPHIC COMMA
bLEFT CURLY BRACKETcPARENTHESIScTORTOISE SHELL BRACKETbLESS-THAN SIGNbNUMBER SIGNbORANGE DIAMOND
bPERCENT SIGNbPLUS SIGNbQUESTION MARKbREVERSE SOLIDUSbRIGHT CURLY BRACKETcPARENTHESIS
cTORTOISE SHELL BRACKETbROMAN NUMERAL EIGHTdELEVENdFIFTYdFIVEeHUNDREDdFOURdNINEdONEeHUNDRED
eTHOUSANDdSEVENdSIXdTENdTHREEdTWELVEdTWObSEMICOLONbTILDEbTWO DOTS OVER ONE DOT PUNCTUATION
bVEE WITH UNDERBARaSMALLER THANcOR EQUAL TOaSMASH PRODUCTaSMILE
aSMILING CAT FACE WITH HEART-SHAPED EYESeOPEN MOUTHbFACE WITH HALOdHEART-SHAPED EYESdHORNS
dOPEN MOUTHfAND COLD SWEATgSMILING EYESgTIGHTLY-CLOSED EYESdSMILING EYESfAND HAND COVERING MOUTH
gTHREE HEARTSdSUNGLASSESdTEARaSMIRKING FACEaSMOKING SYMBOLaSNAILaSNAKEaSNEEZING FACE
aSNOW CAPPED MOUNTAINaSNOWBOARDERaSNOWFLAKEaSNOWMANbWITHOUT SNOWaSOaSOCCER BALLaSOCKS
aSOFT HYPHENbICE CREAMbSHELL FLOPPY DISKaSOFTBALLaSOFTWARE-FUNCTION SYMBOL
aSOGDIAN COMBINING CURVE ABOVEdBELOWcDOT ABOVEdBELOWcHOOK ABOVEdBELOWcLONG HOOK BELOWcRESH BELOW
cSTROKE BELOWcTWO DOTS ABOVEeBELOWbINDEPENDENT SHINbLETTER ALEPHcAYINcBETHcFETHcGIMELcHEcHETH
cKAPHcLAMEDHcLESHcMEMcNUNcPEcRESH-AYINcSADHEcSAMEKHcSHINcTAWcWAWcYODHcZAYINbNUMBER ONEdHUNDRED
cTENcTWENTYbPUNCTUATION CIRCLE WITH DOTcHALF CIRCLE WITH DOTcTWO CIRCLES WITH DOTSdVERTICAL BARS
fWITH DOTSaSOHaSOLID QUILT SQUARE ORNAMENTeIN BLACK SQUAREaSOLIDUSbWITH OVERBARaSOM SIGN
aSOON WITH RIGHTWARDS ARROW ABOVEaSORA SOMPENG DIGIT EIGHTdFIVEdFOURdNINEdONEdSEVENdSIXdTHREE
dTWOdZEROcLETTER AHdBAHdCAHdDAHdEEHdEHdGAHdHAHdIHdJAHdKAHdLAHdMAEdMAHdNAHdNGAHdNYAHdOHdPAHdRAH
dSAHdTAHdUHdVAHdYAHaSOSaSOUND RECORDING COPYRIGHTaSOUTH EAST ARROWdAND SOUTH WEST ARROW
dCROSSING NORTH EAST ARROWdTO CORNERdWITH HOOKcBLACK ARROWcDOUBLE ARROWcPOINTING BUDdLEAF
dVINE LEAFcSANS-SERIF ARROWcTRIANGLE-HEADED ARROWeTO BARcWHITE ARROWbWEST ARROW
dAND NORTH WEST ARROWdWITH HOOKcBLACK ARROWcDOUBLE ARROWcPOINTING BUDdLEAFdVINE LEAF
cSANS-SERIF ARROWcTRIANGLE-HEADED ARROWeTO BARcWHITE ARROWaSOYOMBO CLUSTER-INITIAL LETTER LAdRA
dSAdSHAbFINAL CONSONANT SIGN -AeBeDeGeKeLeMeNeNGeReSeSHbGEMINATION MARK
bHEAD MARK WITH MOON AND SUNhAND FLAMEiTRIPLE FLAMEbLETTER -AcAcBAcBHAcCAcCHAcDAcDDAcDDHAcDHA
cDZAcGAcGHAcHAcJAcJHAcKAcKHAcKSSAcLAcMAcNAcNGAcNNAcNYAcPAcPHAcRAcSAcSHAcSSAcTAcTHAcTSAcTSHAcTTA
cTTHAcVAcYAcZAcZHAbMARK DOUBLE SHADcPLUTAcSHADcTSHEGbSIGN ANUSVARAcJIHVAMULIYAcUPADHMANIYA
cVISARGAbSUBJOINERbTERMINAL MARK-1cMARK-2bVOWEL LENGTH MARKcSIGN AIdAUdEdIdOdOEdUdUEdVOCALIC LeR
aSPaSPAaSPACEaSPAGHETTIaSPARKLEaSPARKLESaSPARKLING HEARTaSPEAK-NO-EVIL MONKEYaSPEAKER
bWITH CANCELLATION STROKEcONE SOUND WAVEcTHREE SOUND WAVESaSPEAKING HEAD IN SILHOUETTE
aSPEECH BALLOONaSPEEDBOATaSPESMILO SIGNaSPHERICAL ANGLEcOPENING LEFTdUPaSPIDERbWEB
aSPIRAL CALENDAR PADbNOTE PADbSHELLaSPLASHING SWEAT SYMBOLaSPONGEaSPOOL OF THREADaSPOON
aSPORTS MEDALaSPOUTING WHALEaSQUARE A OVER MbAARUbAMbANPEAbAPAATObARUHUAbAUbBAARERUbBARbBEETA
bBIRUbBORUTObBQbBUSSYERUbC OVER KGbCALbCAPbCCbCDbCMcCUBEDcSQUAREDbCObCORPORATIONbCUPbDAbDAASUbDB
bDESIbDJbDLbDMcCUBEDcSQUAREDbDORUbEEKAAbERA NAME HEISEIdMEIZIdREIWAdSYOUWAdTAISYOUbERGbESUKUUDO
bEVbFMbFOOTbFOUR CORNERSbGALbGANMAbGARONbGBbGHZbGIGAbGINIIbGIRUDAAbGPAbGURAMUbGURAMUTONbGYbHA
bHAITUbHEKUTAARUbHERUTUbHGbHIRAGANA HOKAbHONbHOONbHOORUbHPbHPAbHUARADDObHUIITObHURANbHZbIMAGE OF
dOR EQUAL TOeNOT EQUAL TObINbININGUbINTIbIUbK OHMbKAbKAIRIbKARATTObKARORIIbKBbKCALbKEESUbKGbKHZ
bKIRObKIROGURAMUbKIROMEETORUbKIROWATTObKKbKLbKMcCAPITALcCUBEDcSQUAREDbKOOPObKORUNAbKPAbKT
bKUROONEbKURUZEIRObKVbKWbKYURIIbLEFT OPEN BOX OPERATORbLMbLNbLOGbLOZENGEbLXbM CUBEDcOHMcOVER S
eSQUAREDcSQUAREDbMAbMAHHAbMAIKURObMAIRUbMANSYONbMARUKUbMBcSMALLbMEETORUbMEGAbMEGATONbMGbMHZ
bMIKURONbMILbMIRIbMIRIBAARUbMLbMMcCUBEDcSQUAREDbMOLbMPAbMSbMU AcFcGcLcMcScVcWbMVcMEGAbMWcMEGAbNA
bNANObNFbNMbNOTTObNSbNVbNWbONSUbOOMUbORIGINAL OFdOR EQUAL TOeNOT EQUAL TObOVbPAcAMPSbPAASENTO
bPAATUbPCbPEEZIbPENIHIbPENSUbPESObPFbPHbPIASUTORUbPIKObPIKURUbPMbPOINTObPONDObPOSITION INDICATOR
bPPMbPRbPSbPVbPWbRADcOVER SeSQUAREDbREMUbRENTOGENbRIGHT OPEN BOX OPERATORbRIRAbRITTORUbROOT
bRUPIIbRUUBURUbSAIKURUbSANTIIMUbSENTIbSENTObSIRINGUbSRbSVbTARGETbTHZbTONbUONbV OVER MbWATTObWB
bWITH BOTTOM HALF BLACKcCONTOURED OUTLINEcDIAGONAL CROSSHATCH FILLcHORIZONTAL FILL
cLEFT HALF BLACKcLOWER LEFT DIAGONAL HALF BLACKdRIGHT DIAGONAL HALF BLACK
cORTHOGONAL CROSSHATCH FILLcRIGHT HALF BLACKcTOP HALF BLACKcUPPER LEFT DIAGONAL HALF BLACK
eTO LOWER RIGHT FILLdRIGHT DIAGONAL HALF BLACKeTO LOWER LEFT FILLcVERTICAL FILLbYAADObYAARUbYUAN
aSQUARED ASTERISKbCJK UNIFIED IDEOGRAPH-4E00dIDEOGRAPH-4E09dIDEOGRAPH-4E2DdIDEOGRAPH-4E8C
dIDEOGRAPH-4EA4dIDEOGRAPH-518DdIDEOGRAPH-521DdIDEOGRAPH-524DdIDEOGRAPH-5272dIDEOGRAPH-53CC
dIDEOGRAPH-53F3dIDEOGRAPH-5408dIDEOGRAPH-5439dIDEOGRAPH-55B6dIDEOGRAPH-58F0dIDEOGRAPH-591A
dIDEOGRAPH-5929dIDEOGRAPH-5B57dIDEOGRAPH-5DE6dIDEOGRAPH-5F8CdIDEOGRAPH-624BdIDEOGRAPH-6253
dIDEOGRAPH-6295dIDEOGRAPH-6307dIDEOGRAPH-6355dIDEOGRAPH-6599dIDEOGRAPH-65B0dIDEOGRAPH-6620
dIDEOGRAPH-6708dIDEOGRAPH-6709dIDEOGRAPH-6E80dIDEOGRAPH-6F14dIDEOGRAPH-7121dIDEOGRAPH-751F
dIDEOGRAPH-7533dIDEOGRAPH-7981dIDEOGRAPH-7A7AdIDEOGRAPH-7D42dIDEOGRAPH-89E3dIDEOGRAPH-8CA9
dIDEOGRAPH-8D70dIDEOGRAPH-904AdIDEOGRAPH-914DbCLbCOOLbDOT OPERATORbEIGHT K
bFALLING DIAGONAL SLASHbFIVE POINT ONEbFOUR DOT PUNCTUATIONcKbFREEbHCbHDRbHI-RESbHVbID
bKATAKANA DEcKOKOcSAbKEYbLATIN CAPITAL LETTER AeBeCeDeEeFeGeHeIeJeKeLeMeNeOePeQeReSeTeUeVeWeXeY
eZcSMALL LETTER DbLOGICAL ANDcORbLOSSLESSbMINUSbMVbNEWbNGbOKbONE HUNDRED TWENTY PbPLUSbPPV
bRISING DIAGONAL SLASHbSALTIREbSDbSECOND SCREENbSEVEN POINT ONEbSHVbSIXTY PbSMALL CIRCLEbSOS
bSQUAREbSSbTHREE DbTIMESbTWENTY-TWO POINT TWObTWO KbUHDbUP WITH EXCLAMATION MARKbVODbVSbWC
aSQUAT BLACK RIGHTWARDS ARROWaSQUIDaSS2aSS3aSSAaSTaSTADIUMaSTAFF OF AESCULAPIUScHERMES
aSTAMPED ENVELOPEaSTANDING PERSONaSTAR AND CRESCENTbEQUALSbOF DAVIDbOPERATOR
bWITH LEFT HALF BLACKcRIGHT HALF BLACKaSTART OF GUARDED AREAcHEADINGcPROTECTED AREA
cSELECTED AREAcSTRINGcTEXTaSTATIONaSTATUE OF LIBERTYaSTEAM LOCOMOTIVEaSTEAMING BOWL
aSTENOGRAPHIC FULL STOPaSTETHOSCOPEaSTICK FIGUREcLEANING LEFTdRIGHTcWITH ARMS RAISEDdDRESS
aSTOCK CHARTaSTOPWATCHaSTRAIGHT RULERaSTRAIGHTNESSaSTRAWBERRYaSTRESS OUTLINED WHITE STAR
aSTRICTLY EQUIVALENT TOaSTRING TERMINATORaSTSaSTUDIO MICROPHONEaSTUFFED FLATBREADaSTUPAaSTXaSUB
aSUBSCRIPT EIGHTbEQUALS SIGNbFIVEbFOURbLEFT PARENTHESISbMINUSbNINEbONEbPLUS SIGN
bRIGHT PARENTHESISbSEVENbSIXbTHREEbTWObZEROaSUBSET ABOVE RIGHTWARDS ARROWcSUBSETcSUPERSETbOF
cABOVE ALMOST EQUAL TOdEQUALS SIGNdNOT EQUAL TOdTILDE OPERATORcOR EQUAL TOfWITH DOT ABOVE
cWITH NOT EQUAL TObWITH DOTcMULTIPLICATION SIGN BELOWcPLUS SIGN BELOWaSUBSTITUTEaSUCCEEDS
bABOVE ALMOST EQUAL TOcEQUALS SIGNcNOT ALMOST EQUAL TOdEQUAL TOcSINGLE-LINE EQUALS SIGN
dNOT EQUAL TObBUT NOT EQUIVALENT TObOR EQUAL TOcEQUIVALENT TObUNDER RELATIONaSUMMATION BOTTOM
bTOPbWITH INTEGRALaSUNbBEHIND CLOUDbWITH FACEaSUNDANESE AVAGRAHAbCONSONANT SIGN PAMINGKAL
dPANYAKRAdPANYIKUdPASANGAN MAeWAbDIGIT EIGHTcFIVEcFOURcNINEcONEcSEVENcSIXcTHREEcTWOcZERO
bLETTER AcAEcBAcBHAcCAcDAcEcEUcFAcFINAL KdMcGAcHAcIcJAcKAcKHAcLAcLEUcMAcNAcNGAcNYAcOcPAcQAcRA
cREUcSAcSYAcTAcUcVAcWAcXAcYAcZAbPUNCTUATION BINDU BA SATANGAdCAKRAdDA SATANGAdKA SATANGA
dLEU SATANGAdPANGLONGdPURNAMAdSURYAbSIGN PAMAAEHcPANGLAYARcPANGWISADcPANYECEKcVIRAMA
bVOWEL SIGN PAMEPETdPANAELAENGdPANEULEUNGdPANGHULUdPANOLONGdPANYUKUaSUNFLOWERaSUNRISE
bOVER MOUNTAINSaSUNSET OVER BUILDINGSaSUPERHEROaSUPERSCRIPT EIGHTbEQUALS SIGNbFIVEbFOUR
bLATIN SMALL LETTER IeNbLEFT PARENTHESISbMINUSbNINEbONEbPLUS SIGNbRIGHT PARENTHESISbSEVENbSIX
bTHREEbTWObZEROaSUPERSET ABOVE LEFTWARDS ARROWcSUBSETcSUPERSET
bBESIDE AND JOINED BY DASH WITH SUBSETcSUBSETbOFcABOVE ALMOST EQUAL TOdEQUALS SIGNdNOT EQUAL TO
dTILDE OPERATORcOR EQUAL TOfWITH DOT ABOVEcWITH NOT EQUAL TObPRECEDING SOLIDUSbWITH DOT
cMULTIPLICATION SIGN BELOWcPLUS SIGN BELOWaSUPERVILLAINaSURFACE INTEGRALaSURFERaSUSHI
aSUSPENSION RAILWAYaSWANaSWASH AMPERSAND ORNAMENTaSWIMMERaSWUNG DASHaSYLOTI NAGRI LETTER AdBHO
dBOdCHOdCOdDDHOdDDOdDHOdDOdEdGHOdGOdHOdIdJHOdJOdKHOdKOdLOdMOdNOdOdPHOdPOdROdRROdSOdTHOdTOdTTHO
dTTOdUcPOETRY MARK-1dMARK-2dMARK-3dMARK-4cSIGN ALTERNATE HASANTAdANUSVARAdDVISVARAdHASANTA
cVOWEL SIGN AeEeIeOOeUaSYMBOL FOR ACKNOWLEDGEcBACKSPACEcBELLcCANCELcCARRIAGE RETURN
cDATA LINK ESCAPEcDELETEdFORM TWOcDEVICE CONTROL FOUReONEeTHREEeTWOcEND OF MEDIUMeTEXT
eTRANSMISSIONfBLOCKcENQUIRYcESCAPEcFILE SEPARATORcFORM FEEDcGROUP SEPARATOR
cHORIZONTAL TABULATIONcLINE FEEDcMARKS CHAPTERcNEGATIVE ACKNOWLEDGEcNEWLINEcNULL
cRECORD SEPARATORcSAMARITAN SOURCEcSHIFT INdOUTcSPACEcSTART OF HEADINGeTEXTcSUBSTITUTEdFORM TWO
cSYNCHRONOUS IDLEcTYPE A ELECTRONICScUNIT SEPARATORcVERTICAL TABULATIONaSYMMETRYaSYNaSYNAGOGUE
aSYNCHRONOUS IDLEaSYRIAC ABBREVIATION MARKbBARREKHbCOLON SKEWED LEFTdRIGHTbCONTRACTION
bDOTTED ZLAMA ANGULARdHORIZONTALbEND OF PARAGRAPHbESASA ABOVEcBELOWbFEMININE DOT
bHARKLEAN ASTERISCUScMETOBELUScOBELUSbHBASA ABOVEcBELOWbHBASA-ESASA DOTTEDbHORIZONTAL COLON
bLETTER ALAPHcBETHcDALATHcDOTLESS DALATH RISHcEcFINAL SEMKATHcGAMALdGARSHUNIcHEcHETHcKAPHcLAMADH
cMALAYALAM BHAdJAdLLAdLLLAdNGAdNNAdNNNAdNYAdRAdSSAdTTAcMIMcNUNcPEcPERSIAN BHETHdDHALATHdGHAMAL
cQAPHcREVERSED PEcRISHcSADHEcSEMKATHcSHINcSOGDIAN FEdKHAPHdZHAINcSUPERSCRIPT ALAPHcTAWcTETH
dGARSHUNIcWAWcYUDHdHEcZAINbMUSICbOBLIQUE LINE ABOVEdBELOWbPTHAHA ABOVEcBELOWcDOTTEDbQUSHSHAYA
bRBASA ABOVEcBELOWbRUKKAKHAbRWAHAbSUBLINEAR COLONdSKEWED LEFTeRIGHTcFULL STOPbSUPRALINEAR COLON
dSKEWED LEFTcFULL STOPbTHREE DOTS ABOVEdBELOWbTWO VERTICAL DOTS ABOVEeBELOWbZQAPHA ABOVEcBELOW
cDOTTEDaSYRINGE"

def namesWithT : String :=
  "aT-REXaT-SHIRTaTABaTABLE TENNIS PADDLE AND BALLaTACOaTAG AMPERSANDbAPOSTROPHEbASTERISK
bCIRCUMFLEX ACCENTbCOLONbCOMMAbCOMMERCIAL ATbDIGIT EIGHTcFIVEcFOURcNINEcONEcSEVENcSIXcTHREEcTWO
cZERObDOLLAR SIGNbEQUALS SIGNbEXCLAMATION MARKbFULL STOPbGRAVE ACCENTbGREATER-THAN SIGN
bHYPHEN-MINUSbLATIN CAPITAL LETTER AeBeCeDeEeFeGeHeIeJeKeLeMeNeOePeQeReSeTeUeVeWeXeYeZ
cSMALL LETTER AeBeCeDeEeFeGeHeIeJeKeLeMeNeOePeQeReSeTeUeVeWeXeYeZbLEFT CURLY BRACKETcPARENTHESIS
cSQUARE BRACKETbLESS-THAN SIGNbLOW LINEbNUMBER SIGNbPERCENT SIGNbPLUS SIGNbQUESTION MARK
bQUOTATION MARKbREVERSE SOLIDUSbRIGHT CURLY BRACKETcPARENTHESIScSQUARE BRACKETbSEMICOLONbSOLIDUS
bSPACEbTILDEbVERTICAL LINEaTAGALOG LETTER AcARCHAIC RAcBAcDAcGAcHAcIcKAcLAcMAcNAcNGAcPAcRAcSAcTA
cUcWAcYAbSIGN PAMUDPODcVIRAMAbVOWEL SIGN IdUaTAGBANWA LETTER AcBAcDAcGAcIcKAcLAcMAcNAcNGAcPAcSA
cTAcUcWAcYAbVOWEL SIGN IdUaTAI LE LETTER AdAIdAUEdEdEEdEHdFAdHAdIdKAdKHAdLAdMAdNAdNGAdOdOOdPA
dPHAdQAdSAdTAdTHAdTONE-2dTONE-3dTONE-4dTONE-5dTONE-6dTSAdTSHAdUdUEdVAdXAdYA
bTHAM COMBINING CRYPTOGRAMMIC DOTcCONSONANT SIGN BAeFINAL NGAeHIGH RATHA OR LOW PAeLA TANG LAI
eLOW PAeMAeMEDIAL LAfRAeSAcHORA DIGIT EIGHTeFIVEeFOUReNINEeONEeSEVENeSIXeTHREEeTWOeZEROcLETTER A
dBAdDAdEEdGREAT SAdHIGH CAeCHAeFAeHAeKAeKHAeKXAePAePHAeRATHAeSAeSHAeSSAeTAeTHAeYAdIdIIdLAdLAE
dLLAdLOW CAeCHAeFAeHAeKAeKHAeKXAePAePHAeRATHAeSAeTAeTHAeYAdLUEdMAdNAdNGAdNYAdOOdRAdRANAdRATAdRUE
dUdUUdWAcSIGN CAANGdDOKMAIdHANGdHOYdKAANdKAANKUUdKEOWdKHUEN TONE-3eTONE-4eTONE-5dKHUEN-LUE KARAN
dMAI KANGfLAIeSAMeYAMOKdRA HAAMdREVERSED ROTATED RANAdSAKOTdSATKAANdSATKAANKUUdSAWANdTONE-1
dTONE-2dWIANGdWIANGWAAKcTHAM DIGIT EIGHTeFIVEeFOUReNINEeONEeSEVENeSIXeTHREEeTWOeZERO
cVOWEL SIGN AeAAeAEeAIeEeIeIIeMAI SATeOeOA ABOVEfBELOWeOOeOYeTALL AAeTHAM AIeUeUEeUUeUUE
bVIET LETTER HIGH BOeCHOeCOeDOeFOeGOeHOeKHHOeKHOeKOeLOeMOeNGOeNOeNYOeOePHOePOeROeSOeTHOeTOeVOeYO
dLOW BOeCHOeCOeDOeFOeGOeHOeKHHOeKHOeKOeLOeMOeNGOeNOeNYOeOePHOePOeROeSOeTHOeTOeVOeYOcMAI KANG
dKHITcSYMBOL HO HOIdKOI KOIdKONdNUENGdSAMcTONE MAI EKeNUENGeSONGeTHOcVOWEL AAdAMdANdAUEdAYdEdI
dIAdOdUdUAdUEdUEAaTAKEOUT BOXaTAKRI ABBREVIATION SIGNbDIGIT EIGHTcFIVEcFOURcNINEcONEcSEVENcSIX
cTHREEcTWOcZERObLETTER AcAAcAIcARCHAIC KHAcAUcBAcBHAcCAcCHAcDAcDDAcDDHAcDHAcEcGAcGHAcHAcIcIIcJA
cJHAcKAcKHAcLAcMAcNAcNGAcNNAcNYAcOcPAcPHAcRAcRRAcSAcSHAcTAcTHAcTTAcTTHAcUcUUcVAcYAbSIGN ANUSVARA
cNUKTAcVIRAMAcVISARGAbVOWEL SIGN AAdAIdAUdEdIdIIdOdUdUUaTALLY MARK FIVEcONEaTAMALE
aTAMIL AND ODD SIGNbAS ABOVE SIGNbAU LENGTH MARKbCREDIT SIGNbCURRENT SIGNbDAY SIGNbDEBIT SIGN
bDIGIT EIGHTcFIVEcFOURcNINEcONEcSEVENcSIXcTHREEcTWOcZERObDRY CULTIVATION SIGN
bFRACTION DOWNSCALING FACTOR KIIZHcONE EIGHTHdEIGHTIETHdFIFTHdFORTIETHdHALF-1dHALF-2
dONE-HUNDRED-AND-SIXTIETHdQUARTERdSIXTEENTH-1dSIXTEENTH-2dSIXTY-FOURTHdTENTHdTHIRTY-SECOND
dTHREE-HUNDRED-AND-TWENTIETHdTWENTIETHcTHREE EIGHTIETHSdQUARTERSdSIXTEENTHSdSIXTY-FOURTHS
dTWENTIETHSbIN POSSESSION SIGNbLAND SIGNbLETTER AcAAcAIcAUcCAcEcEEcHAcIcIIcJAcKAcLAcLLAcLLLAcMA
cNAcNGAcNNAcNNNAcNYAcOcOOcPAcRAcRRAcSAcSHAcSSAcTAcTTAcUcUUcVAcYAbMONTH SIGNbNUMBER ONE HUNDRED
dTHOUSANDcSIGNcTENbOMbPUNCTUATION END OF TEXTbRUPEE SIGNbSALT PAN SIGNbSIGN AAZHAAKKUcANUSVARA
cCEVITUcKAACUcKURUNIcKUZHIcMUKKURUNIcMUTHALIYAcMUUVUZHAKKUcNELcPAARAMcPANAMcPATHAKKUcPONcUZHAKKU
cVAKAIYARAAcVARAAKANcVELIcVIRAMAcVISARGAbSPENT SIGNbSTARTING FROM SIGNbTOTAL SIGN
bTRADITIONAL CREDIT SIGNcNUMBER SIGNbVOWEL SIGN AAdAIdAUdEdEEdIdIIdOdOOdUdUU
bWET CULTIVATION SIGNbYEAR SIGNaTANABATA TREEaTANGERINEaTANGSA DIGIT EIGHTcFIVEcFOURcNINEcONE
cSEVENcSIXcTHREEcTWOcZERObLETTER ACcAQcAWCcAWQcAWXcAWZcAXcAZcBAcCAcCHAcDAcDHAcECcEQcEXcEZcFA
cFINAL NGcGAcGHAcHAcHTAcHTTAcICcIQcIXcIZcKAcKHAcLAcLONG UEXcMAcMCcMQcMXcMZcNAcNGAcNHAcNYAcOCcOQ
cOXcOZcPAcPHAcRAcSAcSHAcSHORT AWXdUEZcTAcTHAcTSAcUCcUECcUEQcUEXcUEZcUICcUIQcUIUCcUIUQcUIUXcUIUZ
cUIXcUIZcUQcUXcUZcVCcVQcVXcVZcWAcXAcYAcZAaTANGUT COMPONENT-001bCOMPONENT-002bCOMPONENT-003
bCOMPONENT-004bCOMPONENT-005bCOMPONENT-006bCOMPONENT-007bCOMPONENT-008bCOMPONENT-009
bCOMPONENT-010bCOMPONENT-011bCOMPONENT-012bCOMPONENT-013bCOMPONENT-014bCOMPONENT-015
bCOMPONENT-016bCOMPONENT-017bCOMPONENT-018bCOMPONENT-019bCOMPONENT-020bCOMPONENT-021
bCOMPONENT-022bCOMPONENT-023bCOMPONENT-024bCOMPONENT-025bCOMPONENT-026bCOMPONENT-027
bCOMPONENT-028bCOMPONENT-029bCOMPONENT-030bCOMPONENT-031bCOMPONENT-032bCOMPONENT-033
bCOMPONENT-034bCOMPONENT-035bCOMPONENT-036bCOMPONENT-037bCOMPONENT-038bCOMPONENT-039
bCOMPONENT-040bCOMPONENT-041bCOMPONENT-042bCOMPONENT-043bCOMPONENT-044bCOMPONENT-045
bCOMPONENT-046bCOMPONENT-047bCOMPONENT-048bCOMPONENT-049bCOMPONENT-050bCOMPONENT-051
bCOMPONENT-052bCOMPONENT-053bCOMPONENT-054bCOMPONENT-055bCOMPONENT-056bCOMPONENT-057
bCOMPONENT-058bCOMPONENT-059bCOMPONENT-060bCOMPONENT-061bCOMPONENT-062bCOMPONENT-063
bCOMPONENT-064bCOMPONENT-065bCOMPONENT-066bCOMPONENT-067bCOMPONENT-068bCOMPONENT-069
bCOMPONENT-070bCOMPONENT-071bCOMPONENT-072bCOMPONENT-073bCOMPONENT-074bCOMPONENT-075
bCOMPONENT-076bCOMPONENT-077bCOMPONENT-078bCOMPONENT-079bCOMPONENT-080bCOMPONENT-081
bCOMPONENT-082bCOMPONENT-083bCOMPONENT-084bCOMPONENT-085bCOMPONENT-086bCOMPONENT-087
bCOMPONENT-088bCOMPONENT-089bCOMPONENT-090bCOMPONENT-091bCOMPONENT-092bCOMPONENT-093
bCOMPONENT-094bCOMPONENT-095bCOMPONENT-096bCOMPONENT-097bCOMPONENT-098bCOMPONENT-099
bCOMPONENT-100bCOMPONENT-101bCOMPONENT-102bCOMPONENT-103bCOMPONENT-104bCOMPONENT-105
bCOMPONENT-106bCOMPONENT-107bCOMPONENT-108bCOMPONENT-109bCOMPONENT-110bCOMPONENT-111
bCOMPONENT-112bCOMPONENT-113bCOMPONENT-114bCOMPONENT-115bCOMPONENT-116bCOMPONENT-117
bCOMPONENT-118bCOMPONENT-119bCOMPONENT-120bCOMPONENT-121bCOMPONENT-122bCOMPONENT-123
bCOMPONENT-124bCOMPONENT-125bCOMPONENT-126bCOMPONENT-127bCOMPONENT-128bCOMPONENT-129
bCOMPONENT-130bCOMPONENT-131bCOMPONENT-132bCOMPONENT-133bCOMPONENT-134bCOMPONENT-135
bCOMPONENT-136bCOMPONENT-137bCOMPONENT-138bCOMPONENT-139bCOMPONENT-140bCOMPONENT-141
bCOMPONENT-142bCOMPONENT-143bCOMPONENT-144bCOMPONENT-145bCOMPONENT-146bCOMPONENT-147
bCOMPONENT-148bCOMPONENT-149bCOMPONENT-150bCOMPONENT-151bCOMPONENT-152bCOMPONENT-153
bCOMPONENT-154bCOMPONENT-155bCOMPONENT-156bCOMPONENT-157bCOMPONENT-158bCOMPONENT-159
bCOMPONENT-160bCOMPONENT-161bCOMPONENT-162bCOMPONENT-163bCOMPONENT-164bCOMPONENT-165
bCOMPONENT-166bCOMPONENT-167bCOMPONENT-168bCOMPONENT-169bCOMPONENT-170bCOMPONENT-171
bCOMPONENT-172bCOMPONENT-173bCOMPONENT-174bCOMPONENT-175bCOMPONENT-176bCOMPONENT-177
bCOMPONENT-178bCOMPONENT-179bCOMPONENT-180bCOMPONENT-181bCOMPONENT-182bCOMPONENT-183
bCOMPONENT-184bCOMPONENT-185bCOMPONENT-186bCOMPONENT-187bCOMPONENT-188bCOMPONENT-189
bCOMPONENT-190bCOMPONENT-191bCOMPONENT-192bCOMPONENT-193bCOMPONENT-194bCOMPONENT-195
bCOMPONENT-196bCOMPONENT-197bCOMPONENT-198bCOMPONENT-199bCOMPONENT-200bCOMPONENT-201
bCOMPONENT-202bCOMPONENT-203bCOMPONENT-204bCOMPONENT-205bCOMPONENT-206bCOMPONENT-207
bCOMPONENT-208bCOMPONENT-209bCOMPONENT-210bCOMPONENT-211bCOMPONENT-212bCOMPONENT-213
bCOMPONENT-214bCOMPONENT-215bCOMPONENT-216bCOMPONENT-217bCOMPONENT-218bCOMPONENT-219
bCOMPONENT-220bCOMPONENT-221bCOMPONENT-222bCOMPONENT-223bCOMPONENT-224bCOMPONENT-225
bCOMPONENT-226bCOMPONENT-227bCOMPONENT-228bCOMPONENT-229bCOMPONENT-230bCOMPONENT-231
bCOMPONENT-232bCOMPONENT-233bCOMPONENT-234bCOMPONENT-235bCOMPONENT-236bCOMPONENT-237
bCOMPONENT-238bCOMPONENT-239bCOMPONENT-240bCOMPONENT-241bCOMPONENT-242bCOMPONENT-243
bCOMPONENT-244bCOMPONENT-245bCOMPONENT-246bCOMPONENT-247bCOMPONENT-248bCOMPONENT-249
bCOMPONENT-250bCOMPONENT-251bCOMPONENT-252bCOMPONENT-253bCOMPONENT-254bCOMPONENT-255
bCOMPONENT-256bCOMPONENT-257bCOMPONENT-258bCOMPONENT-259bCOMPONENT-260bCOMPONENT-261
bCOMPONENT-262bCOMPONENT-263bCOMPONENT-264bCOMPONENT-265bCOMPONENT-266bCOMPONENT-267
bCOMPONENT-268bCOMPONENT-269bCOMPONENT-270bCOMPONENT-271bCOMPONENT-272bCOMPONENT-273
bCOMPONENT-274bCOMPONENT-275bCOMPONENT-276bCOMPONENT-277bCOMPONENT-278bCOMPONENT-279
bCOMPONENT-280bCOMPONENT-281bCOMPONENT-282bCOMPONENT-283bCOMPONENT-284bCOMPONENT-285
bCOMPONENT-286bCOMPONENT-287bCOMPONENT-288bCOMPONENT-289bCOMPONENT-290bCOMPONENT-291
bCOMPONENT-292bCOMPONENT-293bCOMPONENT-294bCOMPONENT-295bCOMPONENT-296bCOMPONENT-297
bCOMPONENT-298bCOMPONENT-299bCOMPONENT-300bCOMPONENT-301bCOMPONENT-302bCOMPONENT-303
bCOMPONENT-304bCOMPONENT-305bCOMPONENT-306bCOMPONENT-307bCOMPONENT-308bCOMPONENT-309
bCOMPONENT-310bCOMPONENT-311bCOMPONENT-312bCOMPONENT-313bCOMPONENT-314bCOMPONENT-315
bCOMPONENT-316bCOMPONENT-317bCOMPONENT-318bCOMPONENT-319bCOMPONENT-320bCOMPONENT-321
bCOMPONENT-322bCOMPONENT-323bCOMPONENT-324bCOMPONENT-325bCOMPONENT-326bCOMPONENT-327
bCOMPONENT-328bCOMPONENT-329bCOMPONENT-330bCOMPONENT-331bCOMPONENT-332bCOMPONENT-333
bCOMPONENT-334bCOMPONENT-335bCOMPONENT-336bCOMPONENT-337bCOMPONENT-338bCOMPONENT-339
bCOMPONENT-340bCOMPONENT-341bCOMPONENT-342bCOMPONENT-343bCOMPONENT-344bCOMPONENT-345
bCOMPONENT-346bCOMPONENT-347bCOMPONENT-348bCOMPONENT-349bCOMPONENT-350bCOMPONENT-351
bCOMPONENT-352bCOMPONENT-353bCOMPONENT-354bCOMPONENT-355bCOMPONENT-356bCOMPONENT-357
bCOMPONENT-358bCOMPONENT-359bCOMPONENT-360bCOMPONENT-361bCOMPONENT-362bCOMPONENT-363
bCOMPONENT-364bCOMPONENT-365bCOMPONENT-366bCOMPONENT-367bCOMPONENT-368bCOMPONENT-369
bCOMPONENT-370bCOMPONENT-371bCOMPONENT-372bCOMPONENT-373bCOMPONENT-374bCOMPONENT-375
bCOMPONENT-376bCOMPONENT-377bCOMPONENT-378bCOMPONENT-379bCOMPONENT-380bCOMPONENT-381
bCOMPONENT-382bCOMPONENT-383bCOMPONENT-384bCOMPONENT-385bCOMPONENT-386bCOMPONENT-387
bCOMPONENT-388bCOMPONENT-389bCOMPONENT-390bCOMPONENT-391bCOMPONENT-392bCOMPONENT-393
bCOMPONENT-394bCOMPONENT-395bCOMPONENT-396bCOMPONENT-397bCOMPONENT-398bCOMPONENT-399
bCOMPONENT-400bCOMPONENT-401bCOMPONENT-402bCOMPONENT-403bCOMPONENT-404bCOMPONENT-405
bCOMPONENT-406bCOMPONENT-407bCOMPONENT-408bCOMPONENT-409bCOMPONENT-410bCOMPONENT-411
bCOMPONENT-412bCOMPONENT-413bCOMPONENT-414bCOMPONENT-415bCOMPONENT-416bCOMPONENT-417
bCOMPONENT-418bCOMPONENT-419bCOMPONENT-420bCOMPONENT-421bCOMPONENT-422bCOMPONENT-423
bCOMPONENT-424bCOMPONENT-425bCOMPONENT-426bCOMPONENT-427bCOMPONENT-428bCOMPONENT-429
bCOMPONENT-430bCOMPONENT-431bCOMPONENT-432bCOMPONENT-433bCOMPONENT-434bCOMPONENT-435
bCOMPONENT-436bCOMPONENT-437bCOMPONENT-438bCOMPONENT-439bCOMPONENT-440bCOMPONENT-441
bCOMPONENT-442bCOMPONENT-443bCOMPONENT-444bCOMPONENT-445bCOMPONENT-446bCOMPONENT-447
bCOMPONENT-448bCOMPONENT-449bCOMPONENT-450bCOMPONENT-451bCOMPONENT-452bCOMPONENT-453
bCOMPONENT-454bCOMPONENT-455bCOMPONENT-456bCOMPONENT-457bCOMPONENT-458bCOMPONENT-459
bCOMPONENT-460bCOMPONENT-461bCOMPONENT-462bCOMPONENT-463bCOMPONENT-464bCOMPONENT-465
bCOMPONENT-466bCOMPONENT-467bCOMPONENT-468bCOMPONENT-469bCOMPONENT-470bCOMPONENT-471
bCOMPONENT-472bCOMPONENT-473bCOMPONENT-474bCOMPONENT-475bCOMPONENT-476bCOMPONENT-477
bCOMPONENT-478bCOMPONENT-479bCOMPONENT-480bCOMPONENT-481bCOMPONENT-482bCOMPONENT-483
bCOMPONENT-484bCOMPONENT-485bCOMPONENT-486bCOMPONENT-487bCOMPONENT-488bCOMPONENT-489
bCOMPONENT-490bCOMPONENT-491bCOMPONENT-492bCOMPONENT-493bCOMPONENT-494bCOMPONENT-495
bCOMPONENT-496bCOMPONENT-497bCOMPONENT-498bCOMPONENT-499bCOMPONENT-500bCOMPONENT-501
bCOMPONENT-502bCOMPONENT-503bCOMPONENT-504bCOMPONENT-505bCOMPONENT-506bCOMPONENT-507
bCOMPONENT-508bCOMPONENT-509bCOMPONENT-510bCOMPONENT-511bCOMPONENT-512bCOMPONENT-513
bCOMPONENT-514bCOMPONENT-515bCOMPONENT-516bCOMPONENT-517bCOMPONENT-518bCOMPONENT-519
bCOMPONENT-520bCOMPONENT-521bCOMPONENT-522bCOMPONENT-523bCOMPONENT-524bCOMPONENT-525
bCOMPONENT-526bCOMPONENT-527bCOMPONENT-528bCOMPONENT-529bCOMPONENT-530bCOMPONENT-531
bCOMPONENT-532bCOMPONENT-533bCOMPONENT-534bCOMPONENT-535bCOMPONENT-536bCOMPONENT-537
bCOMPONENT-538bCOMPONENT-539bCOMPONENT-540bCOMPONENT-541bCOMPONENT-542bCOMPONENT-543
bCOMPONENT-544bCOMPONENT-545bCOMPONENT-546bCOMPONENT-547bCOMPONENT-548bCOMPONENT-549
bCOMPONENT-550bCOMPONENT-551bCOMPONENT-552bCOMPONENT-553bCOMPONENT-554bCOMPONENT-555
bCOMPONENT-556bCOMPONENT-557bCOMPONENT-558bCOMPONENT-559bCOMPONENT-560bCOMPONENT-561
bCOMPONENT-562bCOMPONENT-563bCOMPONENT-564bCOMPONENT-565bCOMPONENT-566bCOMPONENT-567
bCOMPONENT-568bCOMPONENT-569bCOMPONENT-570bCOMPONENT-571bCOMPONENT-572bCOMPONENT-573
bCOMPONENT-574bCOMPONENT-575bCOMPONENT-576bCOMPONENT-577bCOMPONENT-578bCOMPONENT-579
bCOMPONENT-580bCOMPONENT-581bCOMPONENT-582bCOMPONENT-583bCOMPONENT-584bCOMPONENT-585
bCOMPONENT-586bCOMPONENT-587bCOMPONENT-588bCOMPONENT-589bCOMPONENT-590bCOMPONENT-591
bCOMPONENT-592bCOMPONENT-593bCOMPONENT-594bCOMPONENT-595bCOMPONENT-596bCOMPONENT-597
bCOMPONENT-598bCOMPONENT-599bCOMPONENT-600bCOMPONENT-601bCOMPONENT-602bCOMPONENT-603
bCOMPONENT-604bCOMPONENT-605bCOMPONENT-606bCOMPONENT-607bCOMPONENT-608bCOMPONENT-609
bCOMPONENT-610bCOMPONENT-611bCOMPONENT-612bCOMPONENT-613bCOMPONENT-614bCOMPONENT-615
bCOMPONENT-616bCOMPONENT-617bCOMPONENT-618bCOMPONENT-619bCOMPONENT-620bCOMPONENT-621
bCOMPONENT-622bCOMPONENT-623bCOMPONENT-624bCOMPONENT-625bCOMPONENT-626bCOMPONENT-627
bCOMPONENT-628bCOMPONENT-629bCOMPONENT-630bCOMPONENT-631bCOMPONENT-632bCOMPONENT-633
bCOMPONENT-634bCOMPONENT-635bCOMPONENT-636bCOMPONENT-637bCOMPONENT-638bCOMPONENT-639
bCOMPONENT-640bCOMPONENT-641bCOMPONENT-642bCOMPONENT-643bCOMPONENT-644bCOMPONENT-645
bCOMPONENT-646bCOMPONENT-647bCOMPONENT-648bCOMPONENT-649bCOMPONENT-650bCOMPONENT-651
bCOMPONENT-652bCOMPONENT-653bCOMPONENT-654bCOMPONENT-655bCOMPONENT-656bCOMPONENT-657
bCOMPONENT-658bCOMPONENT-659bCOMPONENT-660bCOMPONENT-661bCOMPONENT-662bCOMPONENT-663
bCOMPONENT-664bCOMPONENT-665bCOMPONENT-666bCOMPONENT-667bCOMPONENT-668bCOMPONENT-669
bCOMPONENT-670bCOMPONENT-671bCOMPONENT-672bCOMPONENT-673bCOMPONENT-674bCOMPONENT-675
bCOMPONENT-676bCOMPONENT-677bCOMPONENT-678bCOMPONENT-679bCOMPONENT-680bCOMPONENT-681
bCOMPONENT-682bCOMPONENT-683bCOMPONENT-684bCOMPONENT-685bCOMPONENT-686bCOMPONENT-687
bCOMPONENT-688bCOMPONENT-689bCOMPONENT-690bCOMPONENT-691bCOMPONENT-692bCOMPONENT-693
bCOMPONENT-694bCOMPONENT-695bCOMPONENT-696bCOMPONENT-697bCOMPONENT-698bCOMPONENT-699
bCOMPONENT-700bCOMPONENT-701bCOMPONENT-702bCOMPONENT-703bCOMPONENT-704bCOMPONENT-705
bCOMPONENT-706bCOMPONENT-707bCOMPONENT-708bCOMPONENT-709bCOMPONENT-710bCOMPONENT-711
bCOMPONENT-712bCOMPONENT-713bCOMPONENT-714bCOMPONENT-715bCOMPONENT-716bCOMPONENT-717
bCOMPONENT-718bCOMPONENT-719bCOMPONENT-720bCOMPONENT-721bCOMPONENT-722bCOMPONENT-723
bCOMPONENT-724bCOMPONENT-725bCOMPONENT-726bCOMPONENT-727bCOMPONENT-728bCOMPONENT-729
bCOMPONENT-730bCOMPONENT-731bCOMPONENT-732bCOMPONENT-733bCOMPONENT-734bCOMPONENT-735
bCOMPONENT-736bCOMPONENT-737bCOMPONENT-738bCOMPONENT-739bCOMPONENT-740bCOMPONENT-741
bCOMPONENT-742bCOMPONENT-743bCOMPONENT-744bCOMPONENT-745bCOMPONENT-746bCOMPONENT-747
bCOMPONENT-748bCOMPONENT-749bCOMPONENT-750bCOMPONENT-751bCOMPONENT-752bCOMPONENT-753
bCOMPONENT-754bCOMPONENT-755bCOMPONENT-756bCOMPONENT-757bCOMPONENT-758bCOMPONENT-759
bCOMPONENT-760bCOMPONENT-761bCOMPONENT-762bCOMPONENT-763bCOMPONENT-764bCOMPONENT-765
bCOMPONENT-766bCOMPONENT-767bCOMPONENT-768bITERATION MARKaTAPE CARTRIDGEbDRIVEaTAURUSaTAXI
aTEACUP WITHOUT HANDLEaTEAPOTaTEAR-OFF CALENDARaTEARDROP-BARBED RIGHTWARDS ARROW
aTEARDROP-SPOKED ASTERISKaTEDDY BEARaTELEPHONE LOCATION SIGNbON TOP OF MODEMbRECEIVERcWITH PAGE
bRECORDERbSIGNaTELESCOPEaTELEVISIONaTELUGU AI LENGTH MARKbDIGIT EIGHTcFIVEcFOURcNINEcONEcSEVEN
cSIXcTHREEcTWOcZERObFRACTION DIGIT ONE FOR EVEN POWERS OF FOURfODD POWERS OF FOUR
dTHREE FOR EVEN POWERS OF FOURfODD POWERS OF FOURdTWO FOR EVEN POWERS OF FOURfODD POWERS OF FOUR
dZERO FOR ODD POWERS OF FOURbLENGTH MARKbLETTER AcAAcAIcAUcBAcBHAcCAcCHAcDAcDDAcDDHAcDHAcDZAcE
cEEcGAcGHAcHAcIcIIcJAcJHAcKAcKHAcLAcLLAcLLLAcMAcNAcNAKAARA POLLUcNGAcNNAcNYAcOcOOcPAcPHAcRAcRRA
cRRRAcSAcSHAcSSAcTAcTHAcTSAcTTAcTTHAcUcUUcVAcVOCALIC LdLLdRdRRcYAbSIGN ANUSVARAcAVAGRAHA
cCANDRABINDUcCOMBINING ANUSVARA ABOVEdCANDRABINDU ABOVEcNUKTAcSIDDHAMcTUUMUcVIRAMAcVISARGA
bVOWEL SIGN AAdAIdAUdEdEEdIdIIdOdOOdUdUUdVOCALIC LeLLeReRRaTENGE SIGNaTENNIS RACQUET AND BALL
aTENTaTEST TUBEaTETRAGRAM FOR ACCUMULATIONcADVANCEcAGGRAVATIONcASCENTcBARRIERcBOLD RESOLUTION
cBRANCHING OUTcCENTREcCHANGEcCLOSED MOUTHcCLOSENESScCLOSUREcCOMPLETIONcCOMPLIANCEcCONSTANCY
cCONTACTcCONTENTIONcCONTRARIETYcDARKENINGcDECISIVENESScDEFECTIVENESS OR DISTORTIONcDEPARTURE
cDIFFICULTIEScDIMINISHMENTcDIMMINGcDIVERGENCEcDOUBTcDUTIEScEASEcEMBELLISHMENTcENCOUNTERS
cENDEAVOURcENLARGEMENTcETERNITYcEXHAUSTIONcFAILUREcFLIGHTcFOLLOWINGcFOSTERINGcFULL CIRCLE
cFULLNESScGATHERINGdINcGOING TO MEETcGREATNESScGUARDEDNESScHARDNESScHOLDING BACKcINCREASEcINNER
cJOYcKEEPING SMALLcKINSHIPcLABOURINGcLAW OR MODELcLEGIONcMASSINGcMEASUREcMIREDcON THE VERGE
cOPPOSITIONcPACKINGcPATTERNcPENETRATIONcPURITYcREACHcRELEASEcRESIDENCEcRESISTANCEcRESPONSE
cRITUALcSEVERANCEcSINKINGcSTOPPAGEcSTOVEcSTRENGTHcUNITYcVASTNESS OR WASTINGcWAITINGcWATCH
cYOUTHFULNESSaTHAANA AABAAFILIbABAFILIbEBEFILIbEEBEEFILIbEYBEYFILIbIBIFILIbLETTER AINUcALIFUcBAA
cCHAVIYANIcDAADHUcDAVIYANIcDHAALUcFAAFUcGAAFUcGHAINUcGNAVIYANIcHAAcHHAAcJAVIYANIcKAAFUcKHAA
cLAAMUcLHAVIYANIcMEEMUcNAAcNOONUcPAVIYANIcQAAFUcRAAcSAADHUcSEENUcSHAVIYANIcSHEENUcTAVIYANIcTHAA
cTHAALUcTOcTTAAcVAAVUcWAAVUcYAAcZAAcZAVIYANIcZObOABOAFILIbOBOFILIbOOBOOFILIbSUKUNbUBUFILI
aTHAI CHARACTER ANGKHANKHUcBO BAIMAIcCHO CHANdCHANGdCHINGdCHOEcDO CHADAdDEKcFO FAdFANcFONGMAN
cHO HIPdNOKHUKcKHO KHAIdKHONdKHUATdKHWAIdRAKHANGcKHOMUTcKO KAIcLAKKHANGYAOcLO CHULAdLINGcLU
cMAI CHATTAWAdEKdHAN-AKATdTHOdTRIcMAITAIKHUcMAIYAMOKcMO MAcNGO NGUcNIKHAHITcNO NENdNUcO ANG
cPAIYANNOIcPHINTHUcPHO PHANdPHUNGdSAMPHAOcPO PLAcRO RUAcRUcSARA AdAAdAEdAI MAIMALAIeMAIMUANdAMdE
dIdIIdOdUdUEdUEEdUUcSO RUSIdSALAdSOdSUAcTHANTHAKHATcTHO NANGMONTHOdPHUTHAOdTHAHANdTHANdTHONG
dTHUNGcTO PATAKdTAOcWO WAENcYAMAKKANcYO YAKdYINGbCURRENCY SYMBOL BAHTbDIGIT EIGHTcFIVEcFOURcNINE
cONEcSEVENcSIXcTHREEcTWOcZEROaTHERE DOES NOT EXISTbEXISTSaTHEREFOREaTHERMODYNAMICaTHERMOMETER
aTHIN GREEK CROSSbSALTIREbSPACEaTHINKING FACEaTHIRD PLACE MEDALaTHONG SANDALaTHOUGHT BALLOON
aTHREE BUTTON MOUSEbCONSECUTIVE EQUALS SIGNSbDIMENSIONAL ANGLEbDOT PUNCTUATIONbLEFTWARDS ARROWS
bLINES CONVERGING LEFTdRIGHTbNETWORKED COMPUTERSbPOINTED BLACK STARbRAYS ABOVEcBELOWcLEFTcRIGHT
bRIGHTWARDS ARROWSbSPEECH BUBBLESaTHREE-D BOTTOM-LIGHTED RIGHTWARDS ARROWHEAD
bLEFT-LIGHTED DOWNWARDS EQUILATERAL ARROWHEADbRIGHT-LIGHTED UPWARDS EQUILATERAL ARROWHEAD
bTOP-LIGHTED LEFTWARDS EQUILATERAL ARROWHEADcRIGHTWARDS ARROWHEADdEQUILATERAL ARROWHEAD
aTHREE-EM DASHaTHREE-PER-EM SPACEaTHUMBS DOWN SIGNbUP SIGNaTHUNDER CLOUD AND RAINaTHUNDERSTORM
aTIBETAN ASTROLOGICAL SIGN -KHYUD PAdSDONG TSHUGSdSGRA GCAN -CHAR RTAGS
bCANTILLATION SIGN CANG TE-UdHEAVY BEATdLIGHT BEATdSBUB -CHALbDIGIT EIGHTcFIVEcFOURcHALF EIGHT
dFIVEdFOURdNINEdONEdSEVENdSIXdTHREEdTWOdZEROcNINEcONEcSEVENcSIXcTHREEcTWOcZERObKU RU KHA
eBZHI MIG CANbLETTER -AcAcBAcBHAcCAcCHAcDAcDDAcDDHAcDHAcDZAcDZHAcFIXED-FORM RAcGAcGHAcHAcJAcKA
cKHAcKKAcKSSAcLAcMAcNAcNGAcNNAcNYAcPAcPHAcRAcRRAcSAcSHAcSSAcTAcTHAcTSAcTSHAcTTAcTTHAcWAcYAcZA
cZHAbLOGOTYPE SIGN CHAD RTAGSdLHAG RTAGSbMARK ANG KHANG GYASeGYONcBKA- SHOG GI MGO RGYANeYIG MGO
cBSDUS RTAGScBSKA- SHOG GI MGO RGYANcBSKUR YIG MGOcCARET -DZUD RTAGS BZHI MIG CANfME LONG CAN
dYIG MGO PHUR SHAD MAcCHE MGOcCLOSING BRDA RNYING YIG MGO SGAB MAdYIG MGO SGAB MA
cDELIMITER TSHEG BSTARcGTER TSHEGdYIG MGO -UM GTER TSHEG MAgRNAM BCAD MAfTRUNCATED A
cGUG RTAGS GYASeGYONcHALANTAcINITIAL BRDA RNYING YIG MGO MDUN MAdYIG MGO MDUN MA
cINTERSYLLABIC TSHEGcLEADING MCHAN RTAGScMNYAM YIG GI MGO RGYANcNGAS BZUNG NYI ZLAeSGOR RTAGS
cNYIS SHADdTSHEGeSHADcPALUTAcRGYA GRAM SHADcRIN CHEN SPUNGS SHADcSBRUL SHADcSHAD
cTRAILING MCHAN RTAGScTSA -PHRUcTSHEG SHADcYIG MGO TSHEG SHAD MAbSIGN GRU CAN RGYINGS
dMED RGYINGScINVERTED MCHU CANcLCE TSA CANcLCI RTAGScMAR TSHEScMCHU CANcNYI ZLA NAA DA
cRDEL DKAR GCIGeGNYISeGSUMeRDEL NAGdNAG GCIGeGNYISeGSUMeRDEL DKARcRJES SU NGA ROcRNAM BCAD
cSNA LDANcYANG RTAGScYAR TSHESbSUBJOINED LETTER -AdAdBAdBHAdCAdCHAdDAdDDAdDDHAdDHAdDZAdDZHA
dFIXED-FORM RAeWAeYAdGAdGHAdHAdJAdKAdKHAdKSSAdLAdMAdNAdNGAdNNAdNYAdPAdPHAdRAdSAdSHAdSSAdTAdTHA
dTSAdTSHAdTTAdTTHAdWAdYAdZAdZHAcSIGN INVERTED MCHU CANdLCE TSA CANdMCHU CANbSYLLABLE OM
bSYMBOL DRIL BUcNOR BUeBZHI -KHYILeGSUM -KHYILeNYIS -KHYILcPADMA GDANcPHUR PAcRDO RJEeRGYA GRAM
bVOWEL SIGN AAdEdEEdIdIIdOdOOdREVERSED IeIIdUdUUdVOCALIC LeLLeReRRaTICKETaTIE OVER INFINITY
aTIFINAGH CONSONANT JOINERbLETTER AHAGGAR YAZHcAYER YAGHcBERBER ACADEMY YAHeYAJcTAWELLEMET YAZ
cTUAREG YAGHdYAGNdYAHdYAKdYAKHdYANGdYAQdYAZHcYAcYAAcYABcYABHcYACHcYADcYADDcYADDHcYADHcYAFcYAG
cYAGHcYAGHHcYAHcYAHHcYAJcYAKcYAKHcYAKHHcYALcYAMcYANcYAPcYAQcYARcYARRcYAScYASHcYASScYATcYATHcYATT
cYAVcYAWcYAYcYAZcYAZHcYAZZcYEcYEYcYIcYOcYUbMODIFIER LETTER LABIALIZATION MARKbSEPARATOR MARK
aTIGERbFACEaTIGHT TRIFOLIATE SNOWFLAKEaTILDEbOPERATORcABOVE LEFTWARDS ARROWdRIGHTWARDS ARROW
cWITH DOT ABOVEdRISING DOTSbWITH DOT ABOVEdBELOWcRING ABOVEaTIMER CLOCK
aTIMES WITH LEFT HALF BLACKcRIGHT HALF BLACKaTINYbTWO DOTS OVER ONE DOT PUNCTUATIONaTIRED FACE
aTIRHUTA ABBREVIATION SIGNbANJIbDIGIT EIGHTcFIVEcFOURcNINEcONEcSEVENcSIXcTHREEcTWOcZERObGVANG
bLETTER AcAAcAIcAUcBAcBHAcCAcCHAcDAcDDAcDDHAcDHAcEcGAcGHAcHAcIcIIcJAcJHAcKAcKHAcLAcMAcNAcNGAcNNA
cNYAcOcPAcPHAcRAcSAcSHAcSSAcTAcTHAcTTAcTTHAcUcUUcVAcVOCALIC LdLLdRdRRcYAbOMbSIGN ANUSVARA
cAVAGRAHAcCANDRABINDUcNUKTAcVIRAMAcVISARGAbVOWEL SIGN AAdAIdAUdEdIdIIdOdSHORT EeOdUdUUdVOCALIC L
eLLeReRRaTIRONIAN SIGN CAPITAL ETcETaTOILETaTOKYO TOWERaTOMATOaTONGUEaTOOLBOXaTOOTHaTOOTHBRUSH
aTOP ARC ANTICLOCKWISE ARROWeWITH PLUScCLOCKWISE ARROW WITH MINUSbCURLY BRACKET
bHALF BLACK CIRCLEcINTEGRALcLEFT PARENTHESIScRIGHT PARENTHESIScSECTION SIGNbHATbLEFT CORNERcCROP
cHALF BRACKETbPARENTHESISbRIGHT CORNERcCROPcHALF BRACKETbSQUARE BRACKETbTORTOISE SHELL BRACKET
bWITH UPWARDS ARROW ABOVEaTORTOISE SHELL BRACKETED CJK UNIFIED IDEOGRAPH-4E09fIDEOGRAPH-4E8C
fIDEOGRAPH-52DDfIDEOGRAPH-5B89fIDEOGRAPH-6253fIDEOGRAPH-6557fIDEOGRAPH-672CfIDEOGRAPH-70B9
fIDEOGRAPH-76D7dLATIN CAPITAL LETTER SaTOTAL RUNOUTaTOTO LETTER AcAEcBAcBREATHY AEdEdEOdIdIUcCHA
cDAcEcEOcGAcHAcIcIUcJAcKAcLAcMAcNAcNGAcOcPAcRAcSAcTAcUcWAcYAbSIGN RISING TONEaTRACKBALLaTRACTOR
aTRADE MARK SIGNaTRAINaTRAMbCARaTRANSPLUTOaTRANSVERSAL INTERSECTIONaTRIANGLE WITH DOT ABOVE
cROUNDED CORNERScSERIFS AT BOTTOMcUNDERBARaTRIANGLE-HEADED RIGHTWARDS ARROWaTRIANGULAR BULLET
bFLAG ON POSTbRULERaTRICOLONaTRIDENT EMBLEMaTRIGRAM FOR EARTHcFIREcHEAVENcLAKEcMOUNTAINcTHUNDER
cWATERcWINDaTRIPLE COLON OPERATORbDAGGERbHORIZONTAL BAR WITH DOUBLE VERTICAL STROKE
eTRIPLE VERTICAL STROKEbINTEGRALbNESTED GREATER-THANcLESS-THANbPLUSbPRIME
bSOLIDUS BINARY RELATIONbTILDEbVERTICAL BAR BINARY RELATIONdDELIMITERdRIGHT TURNSTILE
dWITH HORIZONTAL STROKEaTROLLaTROLLEYBUSaTROPHYaTROPICAL DRINKbFISHaTRUEbLIGHT MOON ARTAaTRUMPET
aTUGRIK SIGNaTULIPaTUMBLER GLASSaTURKEYaTURKISH LIRA SIGNaTURNED AMPERSANDbANGLEbBLACK PENTAGON
cSHOGI PIECEbCAPITAL FbCOMMAbDAGGERbDIGIT THREEcTWObGREEK SMALL LETTER IOTA
bNORTH EAST POINTING LEAFcWEST POINTING LEAFbNOT SIGNbOK HAND SIGNbSANS-SERIF CAPITAL GdLdY
bSEMICOLONbSMALL FbSOUTH EAST POINTING LEAFcWEST POINTING LEAFbWHITE SHOGI PIECEaTURTLE
aTWELVE POINTED BLACK STARaTWISTED RIGHTWARDS ARROWSaTWO ASTERISKS ALIGNED VERTICALLY
bBUTTON MOUSEbCONSECUTIVE EQUALS SIGNSbDOT LEADERcPUNCTUATIONbDOTS OVER ONE DOT PUNCTUATION
bHEARTSbINTERSECTING LOGICAL ANDdORbJOINED SQUARESbLOGICAL AND OPERATORcOR OPERATOR
bMEN HOLDING HANDSbSPEECH BUBBLESbWOMEN HOLDING HANDSaTWO-EM DASH"

def namesWithU : String :=
  "aUGARITIC LETTER AINcALPAcBETAcDELTAcDHALcGAMLAcGHAINcHOcHOTAcIcKAFcKHAcLAMDAcMEMcNUNcPUcQOPA
cRASHAcSADEcSAMKAcSHINcSSUcTETcTHANNAcTOcUcWOcYODcZETAcZUbWORD DIVIDERaUMBRELLAbON GROUND
bWITH RAIN DROPSaUNAMUSED FACEaUNCERTAINTY SIGNaUNDERTIEaUNDO SYMBOLaUNICORN FACEaUNION
bABOVE BAR ABOVE INTERSECTIONcINTERSECTIONbBESIDE AND JOINED WITH UNIONbWITH LOGICAL OR
cMINUS SIGNcOVERBARaUNIT SEPARATORaUNITED SYMBOLaUNIVERSAL RECYCLING SYMBOL
aUNMARRIED PARTNERSHIP SYMBOLaUP ARROW THROUGH CIRCLEbARROWHEADcBETWEEN TWO HORIZONTAL BARS
cIN A RECTANGLE BOXbBARB LEFT DOWN BARB LEFT HARPOONfRIGHT HARPOONcRIGHT DOWN BARB LEFT HARPOON
fRIGHT HARPOONbDOWN ARROWdWITH BASEcBLACK ARROWcDOUBLE ARROWcSANS-SERIF ARROW
cTRIANGLE-HEADED ARROWcWHITE ARROWbFISH TAILbRIGHT DIAGONAL ELLIPSISbTACKcWITH CIRCLE ABOVE
aUP-POINTING AIRPLANEbMILITARY AIRPLANEbRED TRIANGLEbSMALL AIRPLANEcRED TRIANGLE
bTRIANGLE WITH LEFT HALF BLACKdRIGHT HALF BLACK
aUPPER AND LEFT AND LOWER TRIANGULAR THREE QUARTERS BLOCKcLOWER ONE EIGHTH BLOCK
dTRIANGULAR HALF BLOCKcRIGHT AND LOWER TRIANGULAR THREE QUARTERS BLOCKbBLADE SCISSORS
bFIVE EIGHTHS BLOCKbHALF BLOCKdAND LOWER HALF INVERSE MEDIUM SHADEcCIRCLE
cINVERSE MEDIUM SHADE AND LOWER HALF BLOCKdWHITE CIRCLEcMEDIUM SHADE
bLEFT BLOCK DIAGONAL LOWER CENTRE TO LOWER MIDDLE RIGHThUPPER MIDDLE RIGHTiRIGHT
fLEFT TO LOWER MIDDLE RIGHThUPPER CENTREiMIDDLE RIGHTfMIDDLE LEFT TO UPPER CENTREjMIDDLE RIGHT
jRIGHTeUPPER MIDDLE LEFT TO UPPER CENTREjRIGHTcCORNER WITH DOT
cOR LOWER RIGHT CURLY BRACKET SECTIONcQUADRANT CIRCULAR ARCcTO LOWER RIGHT FILLcTRIANGLE
cTRIANGULAR MEDIUM SHADEbONE EIGHTH BLOCKcQUARTER BLOCK
bRIGHT BLOCK DIAGONAL LOWER MIDDLE LEFT TO LOWER CENTREjRIGHTeUPPER CENTRE TO LOWER MIDDLE RIGHT
iRIGHThUPPER MIDDLE RIGHTfLEFT TO LOWER CENTREiMIDDLE RIGHThUPPER MIDDLE RIGHT
fMIDDLE LEFT TO LOWER CENTREjMIDDLE RIGHTjRIGHTcDROP-SHADOWED WHITE SQUARE
cOR LOWER LEFT CURLY BRACKET SECTIONcPENCILcQUADRANT CIRCULAR ARCcSHADOWED WHITE CIRCLEeSQUARE
cTO LOWER LEFT FILLcTRIANGLEcTRIANGULAR MEDIUM SHADEbSEVEN EIGHTHS BLOCKbTHREE EIGHTHS BLOCK
cQUARTERS BLOCKbTRIANGULAR ONE QUARTER BLOCKaUPSIDE-DOWN FACEaUPWARDS ANCORAbARROW
cAND RIGHT ONE EIGHTH BLOCKcFROM BARcLEFTWARDS OF DOWNWARDS ARROWcTO BARcWITH DOUBLE STROKE
dEQUILATERAL ARROWHEADdHORIZONTAL STROKEdLARGE TRIANGLE ARROWHEADdMEDIUM TRIANGLE ARROWHEAD
dNOTCHED TAILdSMALL EQUILATERAL ARROWHEADeTRIANGLE ARROWHEADdTIP LEFTWARDSeRIGHTWARDS
bBLACK ARROWcCIRCLED WHITE ARROWbCOMPRESSED ARROWbDASHED ARROWbDOUBLE ARROWbFINGER-POST ARROW
bHARPOON WITH BARB LEFT BESIDE DOWNWARDS HARPOON WITH BARB RIGHTgUPWARDS HARPOON WITH BARB RIGHT
fFROM BARfTO BAReLEFTWARDSeRIGHT FROM BARfTO BAReRIGHTWARDSbHEAVY ARROWcCOMPRESSED ARROW
bPAIRED ARROWSbQUADRUPLE ARROWbROCKETbSANS-SERIF ARROWbSQUARED ARROWbTRIANGLE ARROWHEAD
bTRIANGLE-HEADED ARROWdLEFTWARDS OF DOWNWARDS TRIANGLE-HEADED ARROWdTO BARdWITH BOLD SHAFT
eDOUBLE HORIZONTAL STROKEeHEAVY SHAFTeLONG TIP LEFTWARDSgRIGHTWARDSeMEDIUM SHAFTeNARROW SHAFT
eVERY HEAVY SHAFTcDASHED ARROWcPAIRED ARROWSbTRIPLE ARROWbTWO HEADED ARROW
bTWO-HEADED ARROW FROM SMALL CIRCLEdWITH TRIANGLE ARROWHEADSbWHITE ARROWdFROM BAR
fWITH HORIZONTAL BARdON PEDESTALfWITH HORIZONTAL BARgVERTICAL BARdWITHIN TRIANGLE ARROWHEAD
cDOUBLE ARROWeON PEDESTALaURANUSaUS"

def namesWithV : String :=
  "aVAI COMMAbDIGIT EIGHTcFIVEcFOURcNINEcONEcSEVENcSIXcTHREEcTWOcZERObFULL STOPbQUESTION MARK
bSYLLABLE AcANcBAcBEcBEEcBHAcBHEcBHEEcBHIcBHOcBHOOcBHUcBIcBOcBOOcBUcCAcCEcCEEcCIcCOcCOOcCUcDAcDE
cDEEcDHAcDHEcDHEEcDHHAcDHHEcDHHEEcDHHIcDHHOcDHHOOcDHHUcDHIcDHOcDHOOcDHUcDIcDOcDOOcDUcEcEEcEENcEN
cFAcFEcFEEcFIcFOcFOOcFUcGAcGBAcGBEcGBEEcGBENcGBIcGBOcGBONcGBOOcGBUcGEcGEEcGENcGIcGOcGOOcGUcHA
cHANcHEcHEEcHENcHIcHINcHOcHONcHOOcHUcHUNcIcINcJAcJEcJEEcJIcJOcJOOcJUcKAcKANcKEcKEEcKIcKOcKOOcKPA
cKPANcKPEcKPEEcKPENcKPIcKPOcKPOOcKPUcKUcLAcLEcLEEcLENGTHENERcLIcLOcLOOcLUcMAcMBAcMBEcMBEEcMBI
cMBOcMBOOcMBUcMEcMEEcMGBAcMGBEcMGBEEcMGBIcMGBOcMGBOOcMGBUcMIcMOcMOOcMUcNAcNDAcNDEcNDEEcNDIcNDO
cNDOLE DOdFAdKAdMAdSOOcNDOOcNDUcNEcNEEcNGcNGANcNGENcNGGAcNGGEcNGGEEcNGGENcNGGIcNGGOcNGGOOcNGGU
cNGONcNIcNJAcNJEcNJEEcNJIcNJOcNJOOcNJUcNOcNOOcNUcNYAcNYEcNYEEcNYIcNYOcNYOOcNYUcOcONcOOcOONcPAcPE
cPEEcPIcPOcPOOcPUcRAcREcREEcRIcROcROOcRUcSAcSEcSEEcSHAcSHEcSHEEcSHIcSHOcSHOOcSHUcSIcSOcSOOcSUcTA
cTEcTEEcTHAcTHEcTHEEcTHIcTHOcTHOOcTHUcTIcTOcTOOcTUcUcUNcVAcVEcVEEcVIcVOcVOOcVUcWAcWANcWEcWEE
cWEENcWENcWIcWINcWOcWONcWOOcWOONcWUcWUNcYAcYEcYEEcYIcYOcYOOcYUcZAcZEcZEEcZHAcZHEcZHEEcZHIcZHO
cZHOOcZHUcZIcZOcZOOcZUbSYMBOL BANGcDANGcDO-OcDOONGcFAAcFEENGcJONGcKEENGcKUNGcNIIcTAAcTINGcTONG
aVAMPIREaVARIATION SELECTOR-1bSELECTOR-10bSELECTOR-100bSELECTOR-101bSELECTOR-102bSELECTOR-103
bSELECTOR-104bSELECTOR-105bSELECTOR-106bSELECTOR-107bSELECTOR-108bSELECTOR-109bSELECTOR-11
bSELECTOR-110bSELECTOR-111bSELECTOR-112bSELECTOR-113bSELECTOR-114bSELECTOR-115bSELECTOR-116
bSELECTOR-117bSELECTOR-118bSELECTOR-119bSELECTOR-12bSELECTOR-120bSELECTOR-121bSELECTOR-122
bSELECTOR-123bSELECTOR-124bSELECTOR-125bSELECTOR-126bSELECTOR-127bSELECTOR-128bSELECTOR-129
bSELECTOR-13bSELECTOR-130bSELECTOR-131bSELECTOR-132bSELECTOR-133bSELECTOR-134bSELECTOR-135
bSELECTOR-136bSELECTOR-137bSELECTOR-138bSELECTOR-139bSELECTOR-14bSELECTOR-140bSELECTOR-141
bSELECTOR-142bSELECTOR-143bSELECTOR-144bSELECTOR-145bSELECTOR-146bSELECTOR-147bSELECTOR-148
bSELECTOR-149bSELECTOR-15bSELECTOR-150bSELECTOR-151bSELECTOR-152bSELECTOR-153bSELECTOR-154
bSELECTOR-155bSELECTOR-156bSELECTOR-157bSELECTOR-158bSELECTOR-159bSELECTOR-16bSELECTOR-160
bSELECTOR-161bSELECTOR-162bSELECTOR-163bSELECTOR-164bSELECTOR-165bSELECTOR-166bSELECTOR-167
bSELECTOR-168bSELECTOR-169bSELECTOR-17bSELECTOR-170bSELECTOR-171bSELECTOR-172bSELECTOR-173
bSELECTOR-174bSELECTOR-175bSELECTOR-176bSELECTOR-177bSELECTOR-178bSELECTOR-179bSELECTOR-18
bSELECTOR-180bSELECTOR-181bSELECTOR-182bSELECTOR-183bSELECTOR-184bSELECTOR-185bSELECTOR-186
bSELECTOR-187bSELECTOR-188bSELECTOR-189bSELECTOR-19bSELECTOR-190bSELECTOR-191bSELECTOR-192
bSELECTOR-193bSELECTOR-194bSELECTOR-195bSELECTOR-196bSELECTOR-197bSELECTOR-198bSELECTOR-199
bSELECTOR-2bSELECTOR-20bSELECTOR-200bSELECTOR-201bSELECTOR-202bSELECTOR-203bSELECTOR-204
bSELECTOR-205bSELECTOR-206bSELECTOR-207bSELECTOR-208bSELECTOR-209bSELECTOR-21bSELECTOR-210
bSELECTOR-211bSELECTOR-212bSELECTOR-213bSELECTOR-214bSELECTOR-215bSELECTOR-216bSELECTOR-217
bSELECTOR-218bSELECTOR-219bSELECTOR-22bSELECTOR-220bSELECTOR-221bSELECTOR-222bSELECTOR-223
bSELECTOR-224bSELECTOR-225bSELECTOR-226bSELECTOR-227bSELECTOR-228bSELECTOR-229bSELECTOR-23
bSELECTOR-230bSELECTOR-231bSELECTOR-232bSELECTOR-233bSELECTOR-234bSELECTOR-235bSELECTOR-236
bSELECTOR-237bSELECTOR-238bSELECTOR-239bSELECTOR-24bSELECTOR-240bSELECTOR-241bSELECTOR-242
bSELECTOR-243bSELECTOR-244bSELECTOR-245bSELECTOR-246bSELECTOR-247bSELECTOR-248bSELECTOR-249
bSELECTOR-25bSELECTOR-250bSELECTOR-251bSELECTOR-252bSELECTOR-253bSELECTOR-254bSELECTOR-255
bSELECTOR-256bSELECTOR-26bSELECTOR-27bSELECTOR-28bSELECTOR-29bSELECTOR-3bSELECTOR-30bSELECTOR-31
bSELECTOR-32bSELECTOR-33bSELECTOR-34bSELECTOR-35bSELECTOR-36bSELECTOR-37bSELECTOR-38bSELECTOR-39
bSELECTOR-4bSELECTOR-40bSELECTOR-41bSELECTOR-42bSELECTOR-43bSELECTOR-44bSELECTOR-45bSELECTOR-46
bSELECTOR-47bSELECTOR-48bSELECTOR-49bSELECTOR-5bSELECTOR-50bSELECTOR-51bSELECTOR-52bSELECTOR-53
bSELECTOR-54bSELECTOR-55bSELECTOR-56bSELECTOR-57bSELECTOR-58bSELECTOR-59bSELECTOR-6bSELECTOR-60
bSELECTOR-61bSELECTOR-62bSELECTOR-63bSELECTOR-64bSELECTOR-65bSELECTOR-66bSELECTOR-67bSELECTOR-68
bSELECTOR-69bSELECTOR-7bSELECTOR-70bSELECTOR-71bSELECTOR-72bSELECTOR-73bSELECTOR-74bSELECTOR-75
bSELECTOR-76bSELECTOR-77bSELECTOR-78bSELECTOR-79bSELECTOR-8bSELECTOR-80bSELECTOR-81bSELECTOR-82
bSELECTOR-83bSELECTOR-84bSELECTOR-85bSELECTOR-86bSELECTOR-87bSELECTOR-88bSELECTOR-89bSELECTOR-9
bSELECTOR-90bSELECTOR-91bSELECTOR-92bSELECTOR-93bSELECTOR-94bSELECTOR-95bSELECTOR-96bSELECTOR-97
bSELECTOR-98bSELECTOR-99aVECTOR OR CROSS PRODUCTaVEDIC SIGN ANUSVARA ANTARGOMUKHAdBAHIRGOMUKHA
dUBHAYATO MUKHAdVAMAGOMUKHAeWITH TAILcARDHAVISARGAcATIKRAMAcDOUBLE ANUSVARA ANTARGOMUKHA
cHEXIFORM LONG ANUSVARAcJIHVAMULIYAcLONG ANUSVARAcNIHSHVASAcREVERSED VISARGA ANUDATTAeUDATTA
cROTATED ARDHAVISARGAcRTHANG LONG ANUSVARAcTIRYAKcUPADHMANIYAcVISARGA ANUDATTAeWITH TAILdSVARITA
dUDATTAeWITH TAILcYAJURVEDIC MIDLINE SVARITAbTONE ATHARVAVEDIC INDEPENDENT SVARITAcCANDRA ABOVE
dBELOWcDOT BELOWcDOUBLE RING ABOVEdSVARITAcKARSHANAcKATHAKA ANUDATTAcPRENKHA
cRIGVEDIC KASHMIRI INDEPENDENT SVARITAcRING ABOVEcSHARAcTHREE DOTS BELOWcTRIPLE SVARITA
cTWO DOTS BELOWcYAJURVEDIC AGGRAVATED INDEPENDENT SVARITAdINDEPENDENT SVARITA
dKATHAKA INDEPENDENT SVARITAgSCHROEDERaVERSICLEaVERTICAL BAR BESIDE RIGHT TRIANGLE
cDOUBLE LEFT TURNSTILEcTRIPLE RIGHT TURNSTILEcWITH HORIZONTAL STROKEbELLIPSISbFOUR DOTS
bIDEOGRAPHIC ITERATION MARKbKANA REPEAT MARKeLOWER HALFeUPPER HALFdWITH VOICED SOUND MARK
hUPPER HALFbLINEcEXTENSIONcWITH CIRCLE ABOVEeBELOWdMIDDLE DOTbMALE WITH STROKE SIGN
bONE EIGHTH BLOCK-2dBLOCK-3dBLOCK-4dBLOCK-5dBLOCK-6dBLOCK-7bSIX DOTSbTAB KEYbTABULATIONcSET
bTILDEbTRAFFIC LIGHTbZIGZAG LINEaVERY BOLD GREEK CROSSbHEAVY EIGHT POINTED BLACK STAR
dSPOKED ASTERISKcFIVE SPOKED ASTERISKcGREEK CROSScREVERSE SOLIDUScSALTIREcSIX SPOKED ASTERISK
cSOLIDUScWHITE CIRCLEdSQUAREbMUCH GREATER-THANcLESS-THANaVESTAaVIBRATION MODEaVICTORY HAND
aVIDEO CAMERAbGAMEaVIDEOCASSETTEaVIETNAMESE ALTERNATE READING MARK CAeNHAYaVIEWDATA SQUARE
aVIOLINaVIRGOaVITHKUQI CAPITAL LETTER AdBBEdBEdCEdCHEdDEdDHEdEdEIdFEdGAdHAdHHAdIdIJEdJEdKAdLA
dLLAdMEdNEdNJEdOdPEdQAdREdSEdSHEdTEdTHEdUdVEdXEdYdZEbSMALL LETTER AdBBEdBEdCEdCHEdDEdDHEdEdEIdFE
dGAdHAdHHAdIdIJEdJEdKAdLAdLLAdMEdNEdNJEdOdPEdQAdREdSEdSHEdTEdTHEdUdVEdXEdYdZEaVOIDED GREEK CROSS
aVOLCANOaVOLLEYBALLaVOLUME INTEGRALaVS1aVS10aVS100aVS101aVS102aVS103aVS104aVS105aVS106aVS107
aVS108aVS109aVS11aVS110aVS111aVS112aVS113aVS114aVS115aVS116aVS117aVS118aVS119aVS12aVS120aVS121
aVS122aVS123aVS124aVS125aVS126aVS127aVS128aVS129aVS13aVS130aVS131aVS132aVS133aVS134aVS135aVS136
aVS137aVS138aVS139aVS14aVS140aVS141aVS142aVS143aVS144aVS145aVS146aVS147aVS148aVS149aVS15aVS150
aVS151aVS152aVS153aVS154aVS155aVS156aVS157aVS158aVS159aVS16aVS160aVS161aVS162aVS163aVS164aVS165
aVS166aVS167aVS168aVS169aVS17aVS170aVS171aVS172aVS173aVS174aVS175aVS176aVS177aVS178aVS179aVS18
aVS180aVS181aVS182aVS183aVS184aVS185aVS186aVS187aVS188aVS189aVS19aVS190aVS191aVS192aVS193aVS194
aVS195aVS196aVS197aVS198aVS199aVS2aVS20aVS200aVS201aVS202aVS203aVS204aVS205aVS206aVS207aVS208
aVS209aVS21aVS210aVS211aVS212aVS213aVS214aVS215aVS216aVS217aVS218aVS219aVS22aVS220aVS221aVS222
aVS223aVS224aVS225aVS226aVS227aVS228aVS229aVS23aVS230aVS231aVS232aVS233aVS234aVS235aVS236aVS237
aVS238aVS239aVS24aVS240aVS241aVS242aVS243aVS244aVS245aVS246aVS247aVS248aVS249aVS25aVS250aVS251
aVS252aVS253aVS254aVS255aVS256aVS26aVS27aVS28aVS29aVS3aVS30aVS31aVS32aVS33aVS34aVS35aVS36aVS37
aVS38aVS39aVS4aVS40aVS41aVS42aVS43aVS44aVS45aVS46aVS47aVS48aVS49aVS5aVS50aVS51aVS52aVS53aVS54
aVS55aVS56aVS57aVS58aVS59aVS6aVS60aVS61aVS62aVS63aVS64aVS65aVS66aVS67aVS68aVS69aVS7aVS70aVS71
aVS72aVS73aVS74aVS75aVS76aVS77aVS78aVS79aVS8aVS80aVS81aVS82aVS83aVS84aVS85aVS86aVS87aVS88aVS89
aVS9aVS90aVS91aVS92aVS93aVS94aVS95aVS96aVS97aVS98aVS99aVTaVTSaVULCANUS
aVULGAR FRACTION FIVE EIGHTHSdSIXTHScFOUR FIFTHScONE EIGHTHdFIFTHdHALFdNINTHdQUARTERdSEVENTH
dSIXTHdTENTHdTHIRDcSEVEN EIGHTHScTHREE EIGHTHSdFIFTHSdQUARTERScTWO FIFTHSdTHIRDScZERO THIRDS"

def namesWithW : String :=
  "aWAFFLEaWANCHO DIGIT EIGHTcFIVEcFOURcNINEcONEcSEVENcSIXcTHREEcTWOcZERObLETTER AcAAcAANcAANGcANG
cAUcBAcCAcDAcEcENcFAcGAcHAcIcINGcJAcKAcKHAcLAcLLHAcMAcNAcNGAcNYAcOcONcONGcPAcPHAcRAcSAcSHAcTA
cTHAcTRAcTSAcUcUENcVAcWAcYAcYIHcZAbNGUN SIGNbTONE KOIcKOINIcTUPcTUPNI
aWANING CRESCENT MOON SYMBOLbGIBBOUS MOON SYMBOLaWARANG CITI CAPITAL LETTER AeAMeANGeATeBUeDAeE
eENNeENYeGAeHAReHIYOeHOLOeHORReIIeKOeNGAAeNUNGeOeODDePUeSIIeSSUUeTTEeUCeUUeVIYOeWIeYAeYOeYUeYUJ
cDIGIT EIGHTdFIVEdFOURdNINEdONEdSEVENdSIXdTHREEdTWOdZEROcNUMBER EIGHTYdFIFTYdFORTYdNINETY
dSEVENTYdSIXTYdTENdTHIRTYdTWENTYcOMcSMALL LETTER AeAMeANGeATeBUeDAeEeENNeENYeGAeHAReHIYOeHOLO
eHORReIIeKOeNGAAeNUNGeOeODDePUeSIIeSSUUeTTEeUCeUUeVIYOeWIeYAeYOeYUeYUJaWARNING SIGNaWASTEBASKET
aWATCHaWATER BUFFALObCLOSETbPOLObWAVEaWATERMELONaWAVE ARROW POINTING DIRECTLY LEFTeRIGHTbDASH
aWAVING BLACK FLAGbHAND SIGNbWHITE FLAGaWAVY DASHbLINEbLOW LINEbOVERLINE
aWAXING CRESCENT MOON SYMBOLbGIBBOUS MOON SYMBOLaWEARY CAT FACEbFACEaWEDDING
aWEDGE-TAILED RIGHTWARDS ARROWaWEIERSTRASS ELLIPTIC FUNCTIONaWEIGHT LIFTERaWEST SYRIAC CROSS
aWHALEaWHEELbOF DHARMAaWHEELCHAIR SYMBOLaWHITE ARROW SHAFT WIDTH ONEeTWO THIRDSbBULLET
bCHESS BISHOPdROTATED NINETY DEGREESeTWO HUNDRED SEVENTY DEGREEScEQUIHOPPER
dROTATED NINETY DEGREEScKINGdROTATED NINETY DEGREESeTWO HUNDRED SEVENTY DEGREEScKNIGHT
dROTATED FORTY-FIVE DEGREESeNINETY DEGREESeONE HUNDRED THIRTY-FIVE DEGREES
eTHREE HUNDRED FIFTEEN DEGREESeTWO HUNDRED SEVENTY DEGREESgTWENTY-FIVE DEGREEScKNIGHT-BISHOP
cKNIGHT-QUEENcKNIGHT-ROOKcPAWNdROTATED NINETY DEGREESeTWO HUNDRED SEVENTY DEGREEScQUEEN
dROTATED NINETY DEGREESeTWO HUNDRED SEVENTY DEGREEScROOKdROTATED NINETY DEGREES
eTWO HUNDRED SEVENTY DEGREEScTURNED BISHOPdKINGdKNIGHTdPAWNdQUEENdROOKbCIRCLE
cCONTAINING BLACK SMALL CIRCLEcWITH DOT RIGHTdDOWN ARROWdLOWER LEFT QUADRANTeRIGHT QUADRANT
dTWO DOTSdUPPER LEFT QUADRANTeRIGHT QUADRANTbCLUB SUITbCONCAVE-SIDED DIAMONDdWITH LEFTWARDS TICK
eRIGHTWARDS TICKbDIAMONDcCONTAINING BLACK MEDIUM DIAMONDeSMALL DIAMONDeVERY SMALL DIAMOND
cIN SQUAREcSUITcWITH CENTRED DOTbDOWN POINTING BACKHAND INDEXdINDEXdLEFT HAND INDEX
bDOWN-POINTING SMALL TRIANGLEcTRIANGLEbDRAUGHTS KINGcMANbEXCLAMATION MARK ORNAMENTbFLAG
cWITH HORIZONTAL MIDDLE BLACK STRIPEbFLORETTEbFLOWERbFOUR POINTED CUSPdSTARbFROWNING FACE
bHARD SHELL FLOPPY DISKbHEARTcSUITbHEAVY CHECK MARKcSALTIRE WITH ROUNDED CORNERSbHEXAGON
bHORIZONTAL ELLIPSEbHOURGLASSbLARGE SQUAREbLATIN CROSSbLEFT LANE MERGEcPOINTING BACKHAND INDEX
dINDEXbLEFT-POINTING POINTERcSMALL TRIANGLEcTRIANGLEbLOZENGE CONTAINING BLACK SMALL LOZENGE
bMEDIUM DIAMONDcLOZENGEcSMALL SQUAREcSQUAREcSTARbMOON SELENAbNIBbPARALLELOGRAMbPENNANTbPENTAGON
bQUESTION MARK ORNAMENTbRECTANGLEbRIGHT POINTING BACKHAND INDEXdINDEXbRIGHT-POINTING PENTAGON
cPOINTERcSMALL TRIANGLEcTRIANGLEbSCISSORSbSESAME DOTbSHOGI PIECEbSMALL LOZENGEcSQUAREcSTAR
bSMILING FACEbSPADE SUITbSQUAREcBUTTONcCONTAINING BLACK MEDIUM SQUAREeSMALL SQUARE
eVERY SMALL SQUAREcWITH CENTRE VERTICAL LINEdLEFTWARDS TICKdLOWER LEFT QUADRANTeRIGHT QUADRANT
dRIGHTWARDS TICKdROUNDED CORNERSdUPPER LEFT QUADRANTeRIGHT QUADRANTdVERTICAL BISECTING LINEbSTAR
bSUNcBEHIND CLOUDeWITH RAINcWITH RAYSdSMALL CLOUDbTELEPHONEbTOUCHTONE TELEPHONEbTRAPEZIUM
bTRIANGLE CONTAINING SMALL WHITE TRIANGLEbTWO-WAY LEFT WAY TRAFFICbUP POINTING BACKHAND INDEX
dINDEXbUP-POINTING CHEVRONcSMALL TRIANGLEcTRIANGLEdWITH DOTbVERTICAL BARcELLIPSEcRECTANGLE
bVERY SMALL SQUAREaWHITE-FEATHERED RIGHTWARDS ARROWaWIDE-HEADED DOWNWARDS BARB ARROW
cHEAVY BARB ARROWcLIGHT BARB ARROWcMEDIUM BARB ARROWcVERY HEAVY BARB ARROWbLEFTWARDS BARB ARROW
cHEAVY BARB ARROWcLIGHT BARB ARROWcMEDIUM BARB ARROWcVERY HEAVY BARB ARROWbNORTH EAST BARB ARROW
dHEAVY BARB ARROWdLIGHT BARB ARROWdMEDIUM BARB ARROWdVERY HEAVY BARB ARROWcWEST BARB ARROW
dHEAVY BARB ARROWdLIGHT BARB ARROWdMEDIUM BARB ARROWdVERY HEAVY BARB ARROWbRIGHTWARDS BARB ARROW
cHEAVY BARB ARROWcLIGHT BARB ARROWcMEDIUM BARB ARROWcVERY HEAVY BARB ARROWbSOUTH EAST BARB ARROW
dHEAVY BARB ARROWdLIGHT BARB ARROWdMEDIUM BARB ARROWdVERY HEAVY BARB ARROWcWEST BARB ARROW
dHEAVY BARB ARROWdLIGHT BARB ARROWdMEDIUM BARB ARROWdVERY HEAVY BARB ARROWbUPWARDS BARB ARROW
cHEAVY BARB ARROWcLIGHT BARB ARROWcMEDIUM BARB ARROWcVERY HEAVY BARB ARROWaWIGGLY VERTICAL LINE
aWILTED FLOWERaWIND BLOWING FACEbCHIMEaWINDOWaWINE GLASSaWINKING FACEaWIRED KEYBOARDaWJ
aWOLF FACEaWOMANbWITH BUNNY EARSaWOMANS BOOTSbCLOTHESbHATbSANDALaWOMENS SYMBOLaWON SIGNaWOOD
aWORD JOINERbSEPARATOR MIDDLE DOTaWORLD MAPaWORMaWORRIED FACEaWRAPPED PRESENTaWREATH PRODUCT
aWRENCHaWRESTLERSaWRITING HAND"

def namesWithX : String :=
  "aX IN A RECTANGLE BOXaX-RAYaXIANGQI BLACK CANNONcCHARIOTcELEPHANTcGENERALcHORSEcMANDARINcSOLDIER
bRED CANNONcCHARIOTcELEPHANTcGENERALcHORSEcMANDARINcSOLDIERaXOR"

def namesWithY : String :=
  "aYAWNING FACEaYELLOW HEARTaYEN SIGNaYEZIDI COMBINING HAMZA MARKcMADDA MARKbHYPHENATION MARK
bLETTER BEcCHHIMcCHIMcCIMcDADcDALcELIFcETcEWcEYNcFAcGAFcHAYcHHAcJAcKAFcKHAFcLAMdWITH DOT ABOVE
cMIMcNUNcOWcPEcPHEcQAFcRAcRHAcSADcSEcSHINcSINcTAcTHEcUMcVAdALTERNATE FORMcWAWcXAcXHEYNcYOT
dWITH CIRCUMFLEX ABOVEcZAcZALcZEaYI RADICAL BBUTcBURcCHEcCIPcCUOPcCYcCYPcCYTcDDURcDUcGAcGEPcGGOP
cGGUOcGOTcHMOcHXITcHXOPcHXUOcJJIEcJJUTcJJYcJOcKEcKITcLIcLIEcLYRcMIcMOPcNBIEcNYIPcNYOPcNZUPcOP
cPUTcPYTcQOTcSHATcSHOPcSHURcSHYcSSIcTATcTUcVEPcVURcWOcYITcYOcZAcZOTcZUPcZURcZZIETbSYLLABLE AcAP
cATcAXcBAcBAPcBATcBAXcBBAcBBAPcBBATcBBAXcBBEcBBEPcBBEXcBBIcBBIEcBBIEPcBBIETcBBIEXcBBIPcBBITcBBIX
cBBOcBBOPcBBOTcBBOXcBBUcBBUOcBBUOPcBBUOXcBBUPcBBURcBBURXcBBUTcBBUXcBBYcBBYPcBBYTcBBYXcBEcBEPcBEX
cBIcBIEcBIEPcBIETcBIEXcBIPcBITcBIXcBOcBOPcBOTcBOXcBUcBUOcBUOPcBUOXcBUPcBURcBURXcBUTcBUXcBYcBYP
cBYRcBYRXcBYTcBYXcCAcCAPcCATcCAXcCEcCEPcCEXcCHAcCHAPcCHATcCHAXcCHEcCHEPcCHETcCHEXcCHOcCHOPcCHOT
cCHOXcCHUcCHUOcCHUOPcCHUOTcCHUOXcCHUPcCHURcCHURXcCHUXcCHYcCHYPcCHYRcCHYRXcCHYTcCHYXcCIcCIEcCIEP
cCIETcCIEXcCIPcCITcCIXcCOcCOPcCOTcCOXcCUcCUOcCUOPcCUOXcCUPcCURcCURXcCUTcCUXcCYcCYPcCYRcCYRXcCYT
cCYXcDAcDAPcDATcDAXcDDAcDDAPcDDATcDDAXcDDEcDDEPcDDEXcDDIcDDIEcDDIEPcDDIEXcDDIPcDDITcDDIXcDDO
cDDOPcDDOTcDDOXcDDUcDDUOcDDUOPcDDUOXcDDUPcDDURcDDURXcDDUTcDDUXcDEcDEPcDEXcDIcDIEcDIEPcDIEXcDIP
cDITcDIXcDOcDOPcDOTcDOXcDUcDUOcDUOXcDUPcDURcDURXcDUTcDUXcEcEXcFAcFAPcFATcFAXcFIcFIPcFITcFIXcFO
cFOPcFOXcFUcFUPcFURcFURXcFUTcFUXcFYcFYPcFYTcFYXcGAcGAPcGATcGAXcGEcGEPcGETcGEXcGGAcGGAPcGGATcGGAX
cGGEcGGEPcGGETcGGEXcGGIcGGIEcGGIEPcGGIEXcGGITcGGIXcGGOcGGOPcGGOTcGGOXcGGUcGGUOcGGUOPcGGUOTcGGUOX
cGGUPcGGURcGGURXcGGUTcGGUXcGIcGIEcGIEPcGIETcGIEXcGIPcGITcGIXcGOcGOPcGOTcGOXcGUcGUOcGUOPcGUOT
cGUOXcGUPcGURcGURXcGUTcGUXcHAcHAPcHATcHAXcHEcHEPcHEXcHIEcHIEXcHITcHLAcHLAPcHLATcHLAXcHLEcHLEP
cHLEXcHLIcHLIEcHLIEPcHLIEXcHLIPcHLITcHLIXcHLOcHLOPcHLOXcHLUcHLUOcHLUOPcHLUOXcHLUPcHLURcHLURX
cHLUTcHLUXcHLYcHLYPcHLYRcHLYRXcHLYTcHLYXcHMAcHMAPcHMATcHMAXcHMIcHMIEcHMIEPcHMIEXcHMIPcHMITcHMIX
cHMOcHMOPcHMOTcHMOXcHMUcHMUOcHMUOPcHMUOXcHMUPcHMURcHMURXcHMUTcHMUXcHMYcHMYPcHMYRcHMYRXcHMYXcHNA
cHNAPcHNATcHNAXcHNEcHNEPcHNEXcHNIcHNIEcHNIEPcHNIETcHNIEXcHNIPcHNITcHNIXcHNOPcHNOTcHNOXcHNUO
cHNUOXcHNUTcHOcHOPcHOTcHOXcHUOcHUOPcHUOTcHUOXcHXAcHXAPcHXATcHXAXcHXEcHXEPcHXEXcHXIcHXIEcHXIEP
cHXIETcHXIEXcHXIPcHXITcHXIXcHXOcHXOPcHXOTcHXOXcHXUOcHXUOPcHXUOTcHXUOXcIcIEcIEPcIETcIEXcIPcIT
cITERATION MARKcIXcJIcJIEcJIEPcJIETcJIEXcJIPcJITcJIXcJJIcJJIEcJJIEPcJJIETcJJIEXcJJIPcJJITcJJIX
cJJOcJJOPcJJOTcJJOXcJJUcJJUOcJJUOPcJJUOXcJJUPcJJURcJJURXcJJUTcJJUXcJJYcJJYPcJJYTcJJYXcJOcJOPcJOT
cJOXcJUcJUOcJUOPcJUOTcJUOXcJUPcJURcJURXcJUTcJUXcJYcJYPcJYRcJYRXcJYTcJYXcKAcKAPcKATcKAXcKEcKEP
cKETcKEXcKIcKIEcKIEPcKIEXcKIPcKITcKIXcKOcKOPcKOTcKOXcKUcKUOcKUOPcKUOXcKUPcKURcKURXcKUTcKUXcLA
cLAPcLATcLAXcLEcLEPcLEXcLIcLIEcLIEPcLIETcLIEXcLIPcLITcLIXcLOcLOPcLOTcLOXcLUcLUOcLUOPcLUOTcLUOX
cLUPcLURcLURXcLUTcLUXcLYcLYPcLYRcLYRXcLYTcLYXcMAcMAPcMATcMAXcMEcMEXcMGAcMGAPcMGATcMGAXcMGEcMGEP
cMGEXcMGIEcMGIEXcMGOcMGOPcMGOTcMGOXcMGUcMGUOcMGUOPcMGUOXcMGUPcMGURcMGURXcMGUTcMGUXcMIcMIEcMIEP
cMIEXcMIPcMITcMIXcMOcMOPcMOTcMOXcMUcMUOcMUOPcMUOTcMUOXcMUPcMURcMURXcMUTcMUXcMYcMYPcMYTcMYXcNA
cNAPcNAXcNBAcNBAPcNBATcNBAXcNBIcNBIEcNBIEPcNBIEXcNBIPcNBITcNBIXcNBOcNBOPcNBOTcNBOXcNBUcNBUPcNBUR
cNBURXcNBUTcNBUXcNBYcNBYPcNBYRcNBYRXcNBYTcNBYXcNDAcNDAPcNDATcNDAXcNDEcNDEPcNDEXcNDIcNDIEcNDIEX
cNDIPcNDITcNDIXcNDOcNDOPcNDOTcNDOXcNDUcNDUPcNDURcNDURXcNDUTcNDUXcNEcNEPcNEXcNGAcNGAPcNGATcNGAX
cNGEcNGEPcNGEXcNGIEcNGIEPcNGIEXcNGOcNGOPcNGOTcNGOXcNGUOcNGUOTcNGUOXcNIcNIEcNIEPcNIEXcNIPcNITcNIX
cNJIcNJIEcNJIEPcNJIETcNJIEXcNJIPcNJITcNJIXcNJOcNJOPcNJOTcNJOXcNJUcNJUOcNJUOXcNJUPcNJURcNJURX
cNJUXcNJYcNJYPcNJYRcNJYRXcNJYTcNJYXcNOcNOPcNOTcNOXcNRAcNRAPcNRATcNRAXcNREcNREPcNRETcNREXcNRO
cNROPcNROXcNRUcNRUPcNRURcNRURXcNRUTcNRUXcNRYcNRYPcNRYRcNRYRXcNRYTcNRYXcNUcNUOcNUOPcNUOXcNUPcNUR
cNURXcNUTcNUXcNYIcNYIEcNYIEPcNYIETcNYIEXcNYIPcNYITcNYIXcNYOcNYOPcNYOTcNYOXcNYUcNYUOcNYUOPcNYUOX
cNYUPcNYUTcNYUXcNZAcNZAPcNZATcNZAXcNZEcNZEXcNZIcNZIEcNZIEPcNZIEXcNZIPcNZITcNZIXcNZOPcNZOXcNZU
cNZUOcNZUOXcNZUPcNZURcNZURXcNZUXcNZYcNZYPcNZYRcNZYRXcNZYTcNZYXcOcOPcOTcOXcPAcPAPcPATcPAXcPIcPIE
cPIEPcPIEXcPIPcPITcPIXcPOcPOPcPOTcPOXcPUcPUOcPUOPcPUOXcPUPcPURcPURXcPUTcPUXcPYcPYPcPYRcPYRXcPYT
cPYXcQIcQIEcQIEPcQIETcQIEXcQIPcQITcQIXcQOcQOPcQOTcQOXcQUcQUOcQUOPcQUOTcQUOXcQUPcQURcQURXcQUTcQUX
cQYcQYPcQYRcQYRXcQYTcQYXcRAcRAPcRATcRAXcREcREPcREXcROcROPcROTcROXcRRAcRRAXcRREcRREPcRRETcRREX
cRROcRROPcRROTcRROXcRRUcRRUOcRRUOXcRRUPcRRURcRRURXcRRUTcRRUXcRRYcRRYPcRRYRcRRYRXcRRYTcRRYXcRU
cRUOcRUOPcRUOXcRUPcRURcRURXcRUTcRUXcRYcRYPcRYRcRYRXcRYTcRYXcSAcSAPcSATcSAXcSEcSEPcSEXcSHAcSHAP
cSHATcSHAXcSHEcSHEPcSHETcSHEXcSHOcSHOPcSHOTcSHOXcSHUcSHUOcSHUOPcSHUOXcSHUPcSHURcSHURXcSHUTcSHUX
cSHYcSHYPcSHYRcSHYRXcSHYTcSHYXcSIcSIEcSIEPcSIEXcSIPcSITcSIXcSOcSOPcSOTcSOXcSSAcSSAPcSSATcSSAX
cSSEcSSEPcSSEXcSSIcSSIEcSSIEPcSSIEXcSSIPcSSITcSSIXcSSOcSSOPcSSOTcSSOXcSSUcSSUPcSSUTcSSUXcSSY
cSSYPcSSYRcSSYRXcSSYTcSSYXcSUcSUOcSUOPcSUOXcSUPcSURcSURXcSUTcSUXcSYcSYPcSYRcSYRXcSYTcSYXcTAcTAP
cTATcTAXcTEcTEPcTEXcTIcTIEcTIEPcTIEXcTIPcTITcTIXcTOcTOPcTOTcTOXcTUcTUOcTUOPcTUOTcTUOXcTUPcTUR
cTURXcTUTcTUXcUOcUOPcUOXcVAcVAPcVATcVAXcVEPcVEXcVIcVIEcVIEPcVIETcVIEXcVIPcVITcVIXcVOcVOPcVOTcVOX
cVUcVUPcVURcVURXcVUTcVUXcVYcVYPcVYRcVYRXcVYTcVYXcWAcWAPcWATcWAXcWEcWEPcWEXcWOcWOPcWOXcWUcWUO
cWUOPcWUOXcXIcXIEcXIEPcXIETcXIEXcXIPcXITcXIXcXOcXOPcXOTcXOXcXUOcXUOXcXYcXYPcXYRcXYRXcXYTcXYXcYI
cYIEcYIEPcYIETcYIEXcYIPcYITcYIXcYOcYOPcYOTcYOXcYUcYUOcYUOPcYUOTcYUOXcYUPcYURcYURXcYUTcYUXcYYcYYP
cYYRcYYRXcYYTcYYXcZAcZAPcZATcZAXcZEcZEPcZEXcZHAcZHAPcZHATcZHAXcZHEcZHEPcZHETcZHEXcZHOcZHOPcZHOT
cZHOXcZHUcZHUOcZHUOPcZHUOXcZHUPcZHURcZHURXcZHUTcZHUXcZHYcZHYPcZHYRcZHYRXcZHYTcZHYXcZIcZIEcZIEP
cZIEXcZIPcZITcZIXcZOcZOPcZOTcZOXcZUcZUOcZUOPcZUOXcZUPcZURcZURXcZUTcZUXcZYcZYPcZYRcZYRXcZYTcZYX
cZZAcZZAPcZZATcZZAXcZZEcZZEPcZZEXcZZIcZZIEcZZIEPcZZIETcZZIEXcZZIPcZZITcZZIXcZZOcZZOPcZZOXcZZU
cZZUPcZZURcZZURXcZZUXcZZYcZZYPcZZYRcZZYRXcZZYTcZZYXaYIN YANGaYO-YO"

def namesWithZ : String :=
  "aZ NOTATION BAG MEMBERSHIPcDOMAIN ANTIRESTRICTIONcLEFT BINDING BRACKETdIMAGE BRACKET
cRANGE ANTIRESTRICTIONcRELATIONAL COMPOSITIONcRIGHT BINDING BRACKETdIMAGE BRACKET
cSCHEMA COMPOSITIONdPIPINGdPROJECTIONcSPOTcTYPE COLON
aZANABAZAR SQUARE CLOSING DOUBLE-LINED HEAD MARKdHEAD MARKcCLUSTER-FINAL LETTER LAeRAeVAeYA
cCLUSTER-INITIAL LETTER RAcFINAL CONSONANT MARKcINITIAL DOUBLE-LINED HEAD MARKdHEAD MARK
cLETTER -AdAdBAdBHAdCAdCHAdDAdDDAdDDHAdDHAdDZAdDZHAdGAdGHAdHAdJAdKAdKHAdKSSAdLAdMAdNAdNGAdNNA
dNYAdPAdPHAdRAdSAdSHAdSSAdTAdTHAdTSAdTSHAdTTAdTTHAdVAdYAdZAdZHAcMARK DOUBLE SHADdLONG TSHEGdSHAD
dTSHEGcSIGN ANUSVARAdCANDRA WITH ORNAMENTdCANDRABINDUeWITH ORNAMENTdVIRAMAdVISARGAcSUBJOINER
cVOWEL LENGTH MARKdSIGN AIeAUeEeIeOeOEeREVERSED IeUeUEaZEBRA FACEaZERO WIDTH JOINER
cNO-BREAK SPACEcNON-JOINERcSPACEaZEUSaZIPPER-MOUTH FACE
aZNAMENNY COMBINING ATTACHING VERTICAL OMETcLOWER TONAL RANGE INDICATORcMARK BORZAYAdCHASHKA
ePOLNAYAdCURVED OMETdDEMESTVENNY ZADERZHKAdDVOETOCHIEdGORAZDO NIZKO ON LEFTgRIGHT
fS KRYZHEM ON LEFTiRIGHTeVYSOKOdKACHKAdKRYZHeON LEFTdKUPNAYAdLOMKAdMALO POVYSHE ON LEFTgRIGHT
fS KHOKHLOM ON LEFTiRIGHTgKRYZHEMfSTRANNOdNIZKO ON LEFTfRIGHTeS KRYZHEM ON LEFThRIGHTdOBLACHKO
dONdOTSECHKAdPODCHASHIEeWITH VERTICAL STROKEdPODVERTKAdPOVYSHE ON LEFTfRIGHTeS KHOKHLOM ON LEFT
hRIGHTfKRYZHEMeSTRANNOdRAVNOdRAZSEKAdSKOBAdSOROCHYA NOZHKAdSREDNE ON LEFTfRIGHT
dSTRANNO MALO POVYSHEdTIKHAYAdTOCHKAdTSATA ON LEFTfRIGHTeS KRYZHEMdUDARKAdVYSOKO ON LEFTfRIGHT
eS KHOKHLOM ON LEFThRIGHTfKRYZHEMdZADERZHKAdZELOdZEVOKcTONAL RANGE MARK MRACHNOfSVETLOfTRESVETLO
bNEUME CHASHKAcCHELYUSTKAcDEMESTVENNY KLYUCHcDERBITSAcDOUBLE ZAPYATAYAcDUDAcDVA V CHELNUcFITA
cGOLUBCHIK BORZYdMRACHNYdSVETLYdTIKHYdTRESVETLYcKHAMILOcKLYUCHcKOBYLAcKRYUKdTIKHYcKRYZHcKUFISMA
cMECHIKdKLYUCHENEPOSTOYANNYdKLYUCHEPOVODNYdKLYUCHEVOYdPOVODNYcNEMKAcOBLAKOcOSOKA
dKLYUCHEVAYA NEPOSTOYANNAYAeSVETLAYAdKRYUKOVAYA SVETLAYAdSVETLAYAdTRESVETLAYAcPALKAcPARAKLIT
cPAUKcPEREVODKAdNEPOSTOYANNAYAcPODCHASHIEcPOLKULIZMYcREVERSED CHELYUSTKAcROG
cSKAMEYTSA DVOECHELNAYA KLYUCHEVAYAeNEPOSTOYANNAYAePROSTAYAeSVETLAYAdKLYUCHENEPOSTOYANNAYA
dKLYUCHEVAYA SVETLAYAeTIKHAYAdMRACHNAYAdSVETLAYAdTIKHAYAdTRESVETLAYAcSLOZHITIEdS KRYZHEM
eZAPYATOYdZAKRYTOEcSTATYAdNEPOSTOYANNAYAdS DVUMYA ZAPYATYMIeKRYZHEMfI ZAPYATOYeROGOMeZAPYATOY
fI KRYZHEMgPODCHASHIEMdZAKRYTAYAeS ZAPYATOYcSTOPITSAdS OCHKOMdWITH SOROCHYA NOZHKA
cSTRELA DVOECHELNAYAeKLYUCHEVAYAdDVOECHELNOKRYZHEVAYAdDVOECHELNOPOVODNAYAeKLYUCHEVAYAdGROMNAYA
eWITH SINGLE ZAPYATAYAdGROMOKRYZHEVAYAePOVODNAYAdGROMOPOVODNAYAeWITH DOUBLE ZAPYATAYA
fSINGLE ZAPYATAYAdKLYUCHENEPOSTOYANNAYAdKLYUCHEPOVODNAYAdKRYUKOVAYAeGROMNAYA
fWITH SINGLE ZAPYATAYAeGROMOKRYZHEVAYAfPOVODNAYAeGROMOPOVODNAYAfWITH DOUBLE ZAPYATAYA
gSINGLE ZAPYATAYAePOVODNAYAeTRYASKAdKRYZHEVAYAdMRACHNOTIKHAYAdNEPOSTOYANNAYAdPOLUPOVODNAYA
dPOVODNAYAdPROSTAYAdTIKHAYA PUTNAYAdTRYASOGLASNAYAdTRYASOPOVODNAYAdTRYASOSTRELNAYA
cVRAKHIYA KLYUCHEVAYA MRACHNAYAePROSTAYAeSVETLAYAeTRESVETLAYAdMRACHNAYAdPROSTAYAdSVETLAYA
dTRESVETLAYAcZANOZHEKcZAPYATAYAcZMEYTSAbPRIZNAK MODIFIER DIRECTION FLIPdKRYZHdLEVEL-2dLEVEL-3
dROGaZOMBIEaZWJaZWNBSPaZWNJaZWSP"

def nameGroups : List String := [
  namesWithA, namesWithB, namesWithC, namesWithD, namesWithE, namesWithF, namesWithG,
  namesWithH, namesWithI, namesWithJ, namesWithK, namesWithL, namesWithM, namesWithN,
  namesWithO, namesWithP, namesWithQ, namesWithR, namesWithS, namesWithT, namesWithU,
  namesWithV, namesWithW, namesWithX, namesWithY, namesWithZ]

/-! ## Looking up names -/

/-- The entries of a group of names: how many words of the name before are kept, and the words
behind them. -/
def nameEntries (group : Text) : List (Nat × Text) :=
  ((group.filter (· != '\n')).foldr (fun c (words, entries) =>
    if c.isLower then ([], (c.toNat - 'a'.toNat, words) :: entries) else (c :: words, entries))
    (([] : Text), ([] : List (Nat × Text)))).2

/-- Is a name, which is given by its words, among entries? `before` is the name before them. -/
def entriesHold (name before : List Text) : List (Nat × Text) → Bool
  | [] => false
  | (kept, words) :: entries =>
    let next := before.take kept ++ cutAt ' ' words
    next = name || entriesHold name next entries

/-- Is the name in the table? Small letters count as capital ones. -/
def isListedName (name : Text) : Bool :=
  let words := cutAt ' ' (name.map Char.toUpper)
  nameGroups.any fun group => entriesHold words [] (nameEntries group.toList)

def ideographSpans : List Span := [
  (0x3400, 0x4DBF), (0x4E00, 0x9FFF), (0x20000, 0x2A6DF), (0x2A700, 0x2B738),
  (0x2B740, 0x2B81D), (0x2B820, 0x2CEA1), (0x2CEB0, 0x2EBE0), (0x30000, 0x3134A)]

def behind? (start text : Text) : Option Text :=
  if start.isPrefixOf text then some (text.drop start.length) else none

/-- Is the name that of an ideograph? It ends with four or five digits, of which the letters are
capital ones. -/
def isIdeographName (name : Text) : Bool :=
  match behind? "CJK UNIFIED IDEOGRAPH-".toList name with
  | none => false
  | some digits =>
    let digit? (c : Char) : Option Nat :=
      if c.isDigit then some (c.toNat - '0'.toNat)
      else if 'A' ≤ c && c ≤ 'F' then some (c.toNat - 'A'.toNat + 10)
      else none
    (digits.length = 4 || digits.length = 5) &&
      (digits.mapM digit?).any fun values =>
        inSpans ideographSpans (values.foldl (fun sum value => 16 * sum + value) 0)

/-- The consonants that a syllable may begin with. -/
def leadingConsonants : List Text :=
  ["G", "GG", "N", "D", "DD", "R", "M", "B", "BB", "S", "SS", "", "J", "JJ", "C", "K", "T", "P",
    "H"].map String.toList

def vowels : List Text :=
  ["A", "AE", "YA", "YAE", "EO", "E", "YEO", "YE", "O", "WA", "WAE", "OE", "YO", "U", "WEO", "WE",
    "WI", "YU", "EU", "YI", "I"].map String.toList

def trailingConsonants : List Text :=
  ["", "G", "GG", "GS", "N", "NJ", "NH", "D", "L", "LG", "LM", "LB", "LS", "LT", "LP", "LH", "M",
    "B", "BS", "S", "SS", "NG", "J", "C", "K", "T", "P", "H"].map String.toList

/-- What follows the longest one of some letters at the start of a text. -/
def behindLongest? (letters : List Text) (text : Text) : Option Text :=
  ((letters.filter fun found => found.isPrefixOf text).map List.length).max?.map text.drop

def isSyllableName (name : Text) : Bool :=
  let rest := do
    let behindStart ← behind? "HANGUL SYLLABLE ".toList name
    let behindConsonant ← behindLongest? leadingConsonants behindStart
    let behindVowel ← behindLongest? vowels behindConsonant
    behindLongest? trailingConsonants behindVowel
  rest = some []

def isCharacterName (name : Text) : Bool :=
  isIdeographName name || isSyllableName name || isListedName name

end DiagnosticMarkers.Text
