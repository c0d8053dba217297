import LabelPress.Text.Named.Run

/-
  Names of characters: the scripts from U+10000 on.

  Key definitions include:
    * `Text.scriptNames`
-/

namespace LabelPress

namespace Text

/- The names from U+10000 to U+1CFFF. -/
def scriptNames :
    List NameRun :=
  [
    ⟨0x10000, [
      "aLINEAR B SYLLABLE B008 AdB038 EdB028 IdB061 OdB010 UdB001 DA",
      "dB045 DEdB007 DIdB014 DOdB051 DUdB057 JAdB046 JE"]⟩,
    ⟨0x1000D, [
      "aLINEAR B SYLLABLE B036 JOdB065 JUdB077 KAdB044 KEdB067 KIdB070 KO",
      "dB081 KUdB080 MAdB013 MEdB073 MIdB015 MOdB023 MUdB006 NAdB024 NE",
      "dB030 NIdB052 NOdB055 NUdB003 PAdB072 PEdB039 PIdB011 POdB050 PU",
      "dB016 QAdB078 QEdB021 QIdB032 QO"]⟩,
    ⟨0x10028, [
      "aLINEAR B SYLLABLE B060 RAdB027 REdB053 RIdB002 ROdB026 RUdB031 SA",
      "dB009 SEdB041 SIdB012 SOdB058 SUdB059 TAdB004 TEdB037 TIdB005 TO",
      "dB069 TUdB054 WAdB075 WEdB040 WIdB042 WO"]⟩,
    ⟨0x1003C, [
      "aLINEAR B SYLLABLE B017 ZAdB074 ZE"]⟩,
    ⟨0x1003F, [
      "aLINEAR B SYLLABLE B020 ZOdB025 A2dB043 A3dB085 AUdB071 DWEdB090 DWO",
      "dB048 NWAdB029 PU2dB062 PTEdB076 RA2dB033 RA3dB068 RO2dB066 TA2",
      "dB087 TWEdB091 TWO"]⟩,
    ⟨0x10050, [
      "aLINEAR B SYMBOL B018dB019dB022dB034dB047dB049dB056dB063dB064dB079",
      "dB082dB083dB086dB089"]⟩,
    ⟨0x10080, [
      "aLINEAR B IDEOGRAM B100 MANdB102 WOMANdB104 DEERdB105 EQUID",
      "dB105F MAREdB105M STALLIONdB106F EWEdB106M RAMdB107F SHE-GOAT",
      "dB107M HE-GOATdB108F SOWdB108M BOARdB109F COWdB109M BULLdB120 WHEAT",
      "dB121 BARLEYdB122 OLIVEdB123 SPICEdB125 CYPERUScMONOGRAM B127 KAPO",
      "dB128 KANAKOcIDEOGRAM B130 OILdB131 WINEdB132cMONOGRAM B133 AREPA",
      "dB135 MERIcIDEOGRAM B140 BRONZEdB141 GOLDdB142dB145 WOOLdB146dB150",
      "dB151 HORNdB152dB153dB154cMONOGRAM B156 TURO2cIDEOGRAM B157dB158",
      "dB159 CLOTHdB160dB161dB162 GARMENTdB163 ARMOURdB164dB165dB166dB167",
      "dB168dB169dB170dB171dB172dB173 MONTHdB174dB176 TREEdB177dB178dB179",
      "dB180dB181dB182dB183dB184dB185dB189dB190dB191 HELMETdB220 FOOTSTOOL",
      "dB225 BATHTUBdB230 SPEARdB231 ARROWdB232dB233 SWORDdB234dB236",
      "dB240 WHEELED CHARIOTdB241 CHARIOTdB242 CHARIOT FRAMEdB243 WHEEL",
      "dB245dB246cMONOGRAM B247 DIPTEcIDEOGRAM B248dB249dB251dB252dB253",
      "dB254 DARTdB255dB256dB257dB258dB259dVESSEL B155eB200eB201eB202eB203",
      "eB204eB205eB206eB207eB208eB209eB210eB211eB212eB213eB214eB215eB216",
      "eB217eB218eB219eB221eB222eB226eB227eB228eB229eB250eB305"]⟩,
    ⟨0x10100, [
      "aAEGEAN WORD SEPARATOR LINEdDOTbCHECK MARK"]⟩,
    ⟨0x10107, [
      "aAEGEAN NUMBER ONEcTWOcTHREEcFOURcFIVEcSIXcSEVENcEIGHTcNINEcTEN",
      "cTWENTYcTHIRTYcFORTYcFIFTYcSIXTYcSEVENTYcEIGHTYcNINETYcONE HUNDRED",
      "cTWO HUNDREDcTHREE HUNDREDcFOUR HUNDREDcFIVE HUNDREDcSIX HUNDRED",
      "cSEVEN HUNDREDcEIGHT HUNDREDcNINE HUNDREDcONE THOUSANDcTWO THOUSAND",
      "cTHREE THOUSANDcFOUR THOUSANDcFIVE THOUSANDcSIX THOUSAND",
      "cSEVEN THOUSANDcEIGHT THOUSANDcNINE THOUSANDcTEN THOUSAND",
      "cTWENTY THOUSANDcTHIRTY THOUSANDcFORTY THOUSANDcFIFTY THOUSAND",
      "cSIXTY THOUSANDcSEVENTY THOUSANDcEIGHTY THOUSANDcNINETY THOUSAND"]⟩,
    ⟨0x10137, [
      "aAEGEAN WEIGHT BASE UNITcFIRST SUBUNITcSECOND SUBUNITcTHIRD SUBUNIT",
      "cFOURTH SUBUNITbDRY MEASURE FIRST SUBUNIT",
      "bLIQUID MEASURE FIRST SUBUNITbMEASURE SECOND SUBUNITcTHIRD SUBUNIT",
      "aGREEK ACROPHONIC ATTIC ONE QUARTEReHALFeDRACHMAdFIVEdFIFTY",
      "dFIVE HUNDREDeTHOUSANDdFIFTY THOUSANDdFIVE TALENTSdTEN TALENTS",
      "dFIFTY TALENTSdONE HUNDRED TALENTSdFIVE HUNDRED TALENTS",
      "dONE THOUSAND TALENTSdFIVE THOUSAND TALENTSeSTATERSdTEN STATERS",
      "dFIFTY STATERSdONE HUNDRED STATERSdFIVE HUNDRED STATERS",
      "dONE THOUSAND STATERSdTEN THOUSAND STATERSdFIFTY THOUSAND STATERS",
      "dTEN MNAScHERAEUM ONE PLETHRONcTHESPIAN ONEcHERMIONIAN ONE",
      "cEPIDAUREAN TWOcTHESPIAN TWOcCYRENAIC TWO DRACHMAS",
      "cEPIDAUREAN TWO DRACHMAScTROEZENIAN FIVEdTENeALTERNATE FORM",
      "cHERMIONIAN TENcMESSENIAN TENcTHESPIAN TENdTHIRTYcTROEZENIAN FIFTY",
      "eALTERNATE FORMcHERMIONIAN FIFTYcTHESPIAN FIFTYdONE HUNDRED",
      "dTHREE HUNDREDcEPIDAUREAN FIVE HUNDREDcTROEZENIAN FIVE HUNDRED",
      "cTHESPIAN FIVE HUNDREDcCARYSTIAN FIVE HUNDREDcNAXIAN FIVE HUNDRED",
      "cTHESPIAN ONE THOUSANDdFIVE THOUSANDcDELPHIC FIVE MNAS",
      "cSTRATIAN FIFTY MNASbONE HALF SIGNeALTERNATE FORMbTWO THIRDS SIGN",
      "bTHREE QUARTERS SIGNbYEAR SIGNbTALENT SIGNbDRACHMA SIGNbOBOL SIGN",
      "bTWO OBOLS SIGNbTHREE OBOLS SIGNbFOUR OBOLS SIGNbFIVE OBOLS SIGN",
      "bMETRETES SIGNbKYATHOS BASE SIGNbLITRA SIGNbOUNKIA SIGNbXESTES SIGN",
      "bARTABE SIGNbAROURA SIGNbGRAMMA SIGNbTRYBLION BASE SIGNbZERO SIGN",
      "bONE QUARTER SIGNbSINUSOID SIGNbINDICTION SIGNaNOMISMA SIGN"]⟩,
    ⟨0x10190, [
      "aROMAN SEXTANS SIGNbUNCIA SIGNbSEMUNCIA SIGNbSEXTULA SIGN",
      "bDIMIDIA SEXTULA SIGNbSILIQUA SIGNbDENARIUS SIGNbQUINARIUS SIGN",
      "bSESTERTIUS SIGNbDUPONDIUS SIGNbAS SIGNbCENTURIAL SIGNaASCIA SYMBOL"]⟩,
    ⟨0x101A0, [
      "aGREEK SYMBOL TAU RHO"]⟩,
    ⟨0x101D0, [
      "aPHAISTOS DISC SIGN PEDESTRIANdPLUMED HEADdTATTOOED HEADdCAPTIVE",
      "dCHILDdWOMANdHELMETdGAUNTLETdTIARAdARROWdBOWdSHIELDdCLUBdMANACLES",
      "dMATTOCKdSAWdLIDdBOOMERANGdCARPENTRY PLANEdDOLIUMdCOMBdSLINGdCOLUMN",
      "dBEEHIVEdSHIPdHORNdHIDEdBULLS LEGdCATdRAMdEAGLEdDOVEdTUNNYdBEE",
      "dPLANE TREEdVINEdPAPYRUSdROSETTEdLILYdOX BACKdFLUTEdGRATERdSTRAINER",
      "dSMALL AXEdWAVY BANDdCOMBINING OBLIQUE STROKE"]⟩,
    ⟨0x10280, [
      "aLYCIAN LETTER AcEcBcBHcGcDcIcWcZcTHcJcKcQcLcMcNcMMcNNcUcPcKKcRcScT",
      "cTTcANcENcHcX"]⟩,
    ⟨0x102A0, [
      "aCARIAN LETTER AcP2cDcLcUUUcRcLDcA2cQcBcMcOcD2cTcSHcSH2cScC-18cUcNN",
      "cXcNcTT2cPcSScIcEcUUUUcKcK2cNDcUUcGcG2cSTcST2cNGcIIcC-39cTTcUUU2cRR",
      "cMBcMB2cMB3cMB4cLD2cE2cUUU3"]⟩,
    ⟨0x102E0, [
      "aCOPTIC EPACT THOUSANDS MARKcDIGIT ONEdTWOdTHREEdFOURdFIVEdSIXdSEVEN",
      "dEIGHTdNINEcNUMBER TENdTWENTYdTHIRTYdFORTYdFIFTYdSIXTYdSEVENTY",
      "dEIGHTYdNINETYdONE HUNDREDdTWO HUNDREDdTHREE HUNDREDdFOUR HUNDRED",
      "dFIVE HUNDREDdSIX HUNDREDdSEVEN HUNDREDdEIGHT HUNDREDdNINE HUNDRED"]⟩,
    ⟨0x10300, [
      "aOLD ITALIC LETTER AdBEdKEdDEdEdVEdZEdHEdTHEdIdKAdELdEMdENdESHdOdPE",
      "dSHEdKUdERdESdTEdUdEKSdPHEdKHEdEFdERSdCHEdIIdUUdESScNUMERAL ONEdFIVE",
      "dTENdFIFTY"]⟩,
    ⟨0x1032D, [
      "aOLD ITALIC LETTER YEdNORTHERN TSEdSOUTHERN TSEaGOTHIC LETTER AHSA",
      "cBAIRKANcGIBAcDAGScAIHVUScQAIRTHRAcIUJAcHAGLcTHIUTHcEIScKUSMAcLAGUS",
      "cMANNAcNAUTHScJERcURUScPAIRTHRAcNINETYcRAIDAcSAUILcTEIWScWINJAcFAIHU",
      "cIGGWScHWAIRcOTHALcNINE HUNDRED"]⟩,
    ⟨0x10350, [
      "aOLD PERMIC LETTER ANdBURdGAIdDOIdEdZHOIdDZHOIdZATAdDZITAdIdKOKEdLEI",
      "dMENOEdNENOEdVOOIdPEEIdREIdSIIdTAIdUdCHERYdSHOOIdSHCHOOIdYRYdYERUdO",
      "dOOdEFdHAdTSIUdVERdYERdYERIdYATdIEdYUdYAdIA",
      "aCOMBINING OLD PERMIC LETTER ANeDOIeZATAeNENOEeSII"]⟩,
    ⟨0x10380, [
      "aUGARITIC LETTER ALPAcBETAcGAMLAcKHAcDELTAcHOcWOcZETAcHOTAcTETcYOD",
      "cKAFcSHINcLAMDAcMEMcDHALcNUNcZUcSAMKAcAINcPUcSADEcQOPAcRASHAcTHANNA",
      "cGHAINcTOcIcUcSSU"]⟩,
    ⟨0x1039F, [
      "aUGARITIC WORD DIVIDERaOLD PERSIAN SIGN AdIdUdKAdKUdGAdGUdXAdCAdJA",
      "dJIdTAdTUdDAdDIdDUdTHAdPAdBAdFAdNAdNUdMAdMIdMUdYAdVAdVIdRAdRUdLAdSA",
      "dZAdSHAdSSAdHA"]⟩,
    ⟨0x103C8, [
      "aOLD PERSIAN SIGN AURAMAZDAAdAURAMAZDAA-2dAURAMAZDAAHAdXSHAAYATHIYA",
      "dDAHYAAUSHdDAHYAAUSH-2dBAGAdBUUMISHcWORD DIVIDERcNUMBER ONEdTWOdTEN",
      "dTWENTYdHUNDRED"]⟩,
    ⟨0x10400, [
      "aDESERET CAPITAL LETTER LONG IeEeAeAHeOeOOdSHORT IeEeAeAHeOeOOdAYdOW",
      "dWUdYEEdHdPEEdBEEdTEEdDEEdCHEEdJEEdKAYdGAYdEFdVEEdETHdTHEEdESdZEE",
      "dESHdZHEEdERdELdEMdENdENGdOIdEWbSMALL LETTER LONG IeEeAeAHeOeOO",
      "dSHORT IeEeAeAHeOeOOdAYdOWdWUdYEEdHdPEEdBEEdTEEdDEEdCHEEdJEEdKAYdGAY",
      "dEFdVEEdETHdTHEEdESdZEEdESHdZHEEdERdELdEMdENdENGdOIdEW",
      "aSHAVIAN LETTER PEEPcTOTcKICKcFEEcTHIGHcSOcSUREcCHURCHcYEAcHUNGcBIB",
      "cDEADcGAGcVOWcTHEYcZOOcMEASUREcJUDGEcWOEcHA-HAcLOLLcMIMEcIFcEGGcASH",
      "cADOcONcWOOLcOUTcAHcROARcNUNcEATcAGEcICEcUPcOAKcOOZEcOILcAWEcAREcOR",
      "cAIRcERRcARRAYcEARcIANcYEWaOSMANYA LETTER ALEFcBAcTAcJAcXAcKHAcDEEL",
      "cRAcSAcSHIINcDHAcCAYNcGAcFAcQAAFcKAAFcLAANcMIINcNUUNcWAWcHAcYAcAcEcI",
      "cOcUcAAcEEcOO"]⟩,
    ⟨0x104A0, [
      "aOSMANYA DIGIT ZEROcONEcTWOcTHREEcFOURcFIVEcSIXcSEVENcEIGHTcNINE"]⟩,
    ⟨0x104B0, [
      "aOSAGE CAPITAL LETTER AdAIdAINdAHdBRAdCHAdEHCHAdEdEINdHAdHYAdIdKA",
      "dEHKAdKYAdLAdMAdNAdOdOINdPAdEHPAdSAdSHAdTAdEHTAdTSAdEHTSAdTSHAdDHAdU",
      "dWAdKHAdGHAdZAdZHA"]⟩,
    ⟨0x104D8, [
      "aOSAGE SMALL LETTER AdAIdAINdAHdBRAdCHAdEHCHAdEdEINdHAdHYAdIdKAdEHKA",
      "dKYAdLAdMAdNAdOdOINdPAdEHPAdSAdSHAdTAdEHTAdTSAdEHTSAdTSHAdDHAdUdWA",
      "dKHAdGHAdZAdZHA"]⟩,
    ⟨0x10500, [
      "aELBASAN LETTER AcBEcCEcCHEcDEcNDEcDHEcEIcEcFEcGEcGJEcHEcIcJEcKEcLE",
      "cLLEcMEcNEcNAcNJEcOcPEcQEcREcRREcSEcSHEcTEcTHEcUcVEcXEcYcZEcZHEcGHE",
      "cGHAMMAcKHE"]⟩,
    ⟨0x10530, [
      "aCAUCASIAN ALBANIAN LETTER ALTdBETdGIMdDATdEBdZARLdEYNdZHILdTASdCHA",
      "dYOWDdZHAdIRBdSHAdLANdINYAdXEYNdDYANdCARdJHOXdKARdLYITdHEYTdQAYdAOR",
      "dCHOYdCHIdCYAYdMAQdQARdNOWCdDZYAYdSHAKdJAYNdONdTYAYdFAMdDZAYdCHAT",
      "dPENdGHEYSdRATdSEYKdVEYZdTIWRdSHOYdIWNdCYAWdCAYNdYAYDdPIWRdKIW"]⟩,
    ⟨0x1056F, [
      "aCAUCASIAN ALBANIAN CITATION MARKaVITHKUQI CAPITAL LETTER AdBBEdBE",
      "dCEdCHEdDEdDHEdEIdEdFEdGA"]⟩,
    ⟨0x1057C, [
      "aVITHKUQI CAPITAL LETTER HAdHHAdIdIJEdJEdKAdLAdLLAdMEdNEdNJEdOdPEdQA",
      "dRE"]⟩,
    ⟨0x1058C, [
      "aVITHKUQI CAPITAL LETTER SEdSHEdTEdTHEdUdVEdXE"]⟩,
    ⟨0x10594, [
      "aVITHKUQI CAPITAL LETTER YdZE"]⟩,
    ⟨0x10597, [
      "aVITHKUQI SMALL LETTER AdBBEdBEdCEdCHEdDEdDHEdEIdEdFEdGA"]⟩,
    ⟨0x105A3, [
      "aVITHKUQI SMALL LETTER HAdHHAdIdIJEdJEdKAdLAdLLAdMEdNEdNJEdOdPEdQA",
      "dRE"]⟩,
    ⟨0x105B3, [
      "aVITHKUQI SMALL LETTER SEdSHEdTEdTHEdUdVEdXE"]⟩,
    ⟨0x105BB, [
      "aVITHKUQI SMALL LETTER YdZE"]⟩,
    ⟨0x10600, [
      "aLINEAR A SIGN AB001dAB002dAB003dAB004dAB005dAB006dAB007dAB008dAB009",
      "dAB010dAB011dAB013dAB016dAB017dAB020dAB021dAB021FdAB021MdAB022",
      "dAB022FdAB022MdAB023dAB023MdAB024dAB026dAB027dAB028dA028BdAB029",
      "dAB030dAB031dAB034dAB037dAB038dAB039dAB040dAB041dAB044dAB045dAB046",
      "dAB047dAB048dAB049dAB050dAB051dAB053dAB054dAB055dAB056dAB057dAB058",
      "dAB059dAB060dAB061dAB065dAB066dAB067dAB069dAB070dAB073dAB074dAB076",
      "dAB077dAB078dAB079dAB080dAB081dAB082dAB085dAB086dAB087dA100-102",
      "dAB118dAB120dA120BdAB122dAB123dAB131AdAB131BdA131CdAB164dAB171dAB180",
      "dAB188dAB191dA301dA302dA303dA304dA305dA306dA307dA308dA309AdA309B",
      "dA309CdA310dA311dA312dA313AdA313BdA313CdA314dA315dA316dA317dA318",
      "dA319dA320dA321dA322dA323dA324dA325dA326dA327dA328dA329dA330dA331",
      "dA332dA333dA334dA335dA336dA337dA338dA339dA340dA341dA342dA343dA344",
      "dA345dA346dA347dA348dA349dA350dA351dA352dA353dA354dA355dA356dA357",
      "dA358dA359dA360dA361dA362dA363dA364dA365dA366dA367dA368dA369dA370",
      "dA371dA400-VASdA401-VASdA402-VASdA403-VASdA404-VASdA405-VASdA406-VAS",
      "dA407-VASdA408-VASdA409-VASdA410-VASdA411-VASdA412-VASdA413-VAS",
      "dA414-VASdA415-VASdA416-VASdA417-VASdA418-VASdA501dA502dA503dA504",
      "dA505dA506dA508dA509dA510dA511dA512dA513dA515dA516dA520dA521dA523",
      "dA524dA525dA526dA527dA528dA529dA530dA531dA532dA534dA535dA536dA537",
      "dA538dA539dA540dA541dA542dA545dA547dA548dA549dA550dA551dA552dA553",
      "dA554dA555dA556dA557dA559dA563dA564dA565dA566dA568dA569dA570dA571",
      "dA572dA573dA574dA575dA576dA577dA578dA579dA580dA581dA582dA583dA584",
      "dA585dA586dA587dA588dA589dA591dA592dA594dA595dA596dA598dA600dA601",
      "dA602dA603dA604dA606dA608dA609dA610dA611dA612dA613dA614dA615dA616",
      "dA617dA618dA619dA620dA621dA622dA623dA624dA626dA627dA628dA629dA634",
      "dA637dA638dA640dA642dA643dA644dA645dA646dA648dA649dA651dA652dA653",
      "dA654dA655dA656dA657dA658dA659dA660dA661dA662dA663dA664"]⟩,
    ⟨0x10740, [
      "aLINEAR A SIGN A701 AdA702 BdA703 DdA704 EdA705 FdA706 HdA707 J",
      "dA708 KdA709 LdA709-2 L2dA709-3 L3dA709-4 L4dA709-6 L6dA710 WdA711 X",
      "dA712 YdA713 OMEGAdA714 ABBdA715 BBdA717 DDdA726 EYYYdA732 JE"]⟩,
    ⟨0x10760, [
      "aLINEAR A SIGN A800dA801dA802dA803dA804dA805dA806dA807"]⟩,
    ⟨0x10780, [
      "aMODIFIER LETTER SMALL CAPITAL AAcSUPERSCRIPT TRIANGULAR COLON",
      "dHALF TRIANGULAR COLONcSMALL AEdCAPITAL BdB WITH HOOK"]⟩,
    ⟨0x10787, [
      "aMODIFIER LETTER SMALL DZ DIGRAPHfWITH RETROFLEX HOOKgCURL",
      "dDEZH DIGRAPHdD WITH TAILfHOOKgAND TAILdREVERSED E",
      "dCLOSED REVERSED OPEN EdFENG DIGRAPHdRAMS HORNdCAPITAL GdG WITH HOOK",
      "dCAPITAL G WITH HOOKdH WITH STROKEdCAPITAL HdHENG WITH HOOK",
      "dDOTLESS J WITH STROKE AND HOOKdLS DIGRAPHdLZ DIGRAPHdL WITH BELT",
      "dCAPITAL L WITH BELTdL WITH RETROFLEX HOOK AND BELTdLEZH",
      "eWITH RETROFLEX HOOKdTURNED YfWITH BELTdO WITH STROKEdCAPITAL OE",
      "dCLOSED OMEGAdQdTURNED R WITH LONG LEGiAND RETROFLEX HOOK",
      "dR WITH TAILfFISHHOOKdCAPITAL RdTC DIGRAPH WITH CURLdTS DIGRAPH",
      "fWITH RETROFLEX HOOKdTESH DIGRAPHdT WITH RETROFLEX HOOK",
      "dV WITH RIGHT HOOK"]⟩,
    ⟨0x107B2, [
      "aMODIFIER LETTER SMALL CAPITAL YcGLOTTAL STOP WITH STROKE",
      "cREVERSED GLOTTAL STOP WITH STROKEcBILABIAL CLICKcDENTAL CLICK",
      "cLATERAL CLICKcALVEOLAR CLICKcRETROFLEX CLICK WITH RETROFLEX HOOK",
      "cSMALL S WITH CURL"]⟩,
    ⟨0x10800, [
      "aCYPRIOT SYLLABLE AcEcIcOcUcJA"]⟩,
    ⟨0x10808, [
      "aCYPRIOT SYLLABLE JO"]⟩,
    ⟨0x1080A, [
      "aCYPRIOT SYLLABLE KAcKEcKIcKOcKUcLAcLEcLIcLOcLUcMAcMEcMIcMOcMUcNAcNE",
      "cNIcNOcNUcPAcPEcPIcPOcPUcRAcREcRIcROcRUcSAcSEcSIcSOcSUcTAcTEcTIcTO",
      "cTUcWAcWEcWIcWO"]⟩,
    ⟨0x10837, [
      "aCYPRIOT SYLLABLE XAcXE"]⟩,
    ⟨0x1083C, [
      "aCYPRIOT SYLLABLE ZA"]⟩,
    ⟨0x1083F, [
      "aCYPRIOT SYLLABLE ZOaIMPERIAL ARAMAIC LETTER ALEPHdBETHdGIMELdDALETH",
      "dHEdWAWdZAYINdHETHdTETHdYODHdKAPHdLAMEDHdMEMdNUNdSAMEKHdAYINdPE",
      "dSADHEdQOPHdRESHdSHINdTAW"]⟩,
    ⟨0x10857, [
      "aIMPERIAL ARAMAIC SECTION SIGNcNUMBER ONEdTWOdTHREEdTENdTWENTY",
      "dONE HUNDREDeTHOUSANDdTEN THOUSANDaPALMYRENE LETTER ALEPHcBETHcGIMEL",
      "cDALETHcHEcWAWcZAYINcHETHcTETHcYODHcKAPHcLAMEDHcMEMcFINAL NUNcNUN",
      "cSAMEKHcAYINcPEcSADHEcQOPHcRESHcSHINcTAWbLEFT-POINTING FLEURON",
      "bRIGHT-POINTING FLEURONbNUMBER ONEcTWOcTHREEcFOURcFIVEcTENcTWENTY",
      "aNABATAEAN LETTER FINAL ALEPHcALEPHcFINAL BETHcBETHcGIMELcDALETH",
      "cFINAL HEcHEcWAWcZAYINcHETHcTETHcFINAL YODHcYODHcFINAL KAPHcKAPH",
      "cFINAL LAMEDHcLAMEDHcFINAL MEMcMEMcFINAL NUNcNUNcSAMEKHcAYINcPE",
      "cSADHEcQOPHcRESHcFINAL SHINcSHINcTAW"]⟩,
    ⟨0x108A7, [
      "aNABATAEAN NUMBER ONEcTWOcTHREEcFOURbCRUCIFORM NUMBER FOUR",
      "bNUMBER FIVEcTENcTWENTYcONE HUNDRED"]⟩,
    ⟨0x108E0, [
      "aHATRAN LETTER ALEPHcBETHcGIMELcDALETH-RESHcHEcWAWcZAYNcHETHcTETH",
      "cYODHcKAPHcLAMEDHcMEMcNUNcSAMEKHcAYNcPEcSADHEcQOPH"]⟩,
    ⟨0x108F4, [
      "aHATRAN LETTER SHINcTAW"]⟩,
    ⟨0x108FB, [
      "aHATRAN NUMBER ONEcFIVEcTENcTWENTYcONE HUNDREDaPHOENICIAN LETTER ALF",
      "cBETcGAMLcDELTcHEcWAUcZAIcHETcTETcYODcKAFcLAMDcMEMcNUNcSEMKcAINcPE",
      "cSADEcQOFcROSHcSHINcTAUbNUMBER ONEcTENcTWENTYcONE HUNDREDcTWOcTHREE"]⟩,
    ⟨0x1091F, [
      "aPHOENICIAN WORD SEPARATORaLYDIAN LETTER AcBcGcDcEcVcIcYcKcLcMcNcOcR",
      "cSScTcUcFcQcScTTcANcENcLYcNNcC"]⟩,
    ⟨0x1093F, [
      "aLYDIAN TRIANGULAR MARK"]⟩,
    ⟨0x10980, [
      "aMEROITIC HIEROGLYPHIC LETTER AdEdIdOdYAdWAdBAdBA-2dPAdMAdNAdNA-2dNE",
      "dNE-2dRAdRA-2dLAdKHAdHHAdSAdSA-2dSEdKAdQAdTAdTA-2dTEdTE-2dTOdDA",
      "cSYMBOL VIDJdVIDJ-2bCURSIVE LETTER AdEdIdOdYAdWAdBAdPAdMAdNAdNEdRA",
      "dLAdKHAdHHAdSAdARCHAIC SAdSEdKAdQAdTAdTEdTOdDA"]⟩,
    ⟨0x109BC, [
      "aMEROITIC CURSIVE FRACTION ELEVEN TWELFTHSdONE HALFcLOGOGRAM RMTdIMN",
      "cNUMBER ONEdTWOdTHREEdFOURdFIVEdSIXdSEVENdEIGHTdNINEdTENdTWENTY",
      "dTHIRTYdFORTYdFIFTYdSIXTYdSEVENTY"]⟩,
    ⟨0x109D2, [
      "aMEROITIC CURSIVE NUMBER ONE HUNDREDdTWO HUNDREDdTHREE HUNDRED",
      "dFOUR HUNDREDdFIVE HUNDREDdSIX HUNDREDdSEVEN HUNDREDdEIGHT HUNDRED",
      "dNINE HUNDREDdONE THOUSANDdTWO THOUSANDdTHREE THOUSANDdFOUR THOUSAND",
      "dFIVE THOUSANDdSIX THOUSANDdSEVEN THOUSANDdEIGHT THOUSAND",
      "dNINE THOUSANDdTEN THOUSANDdTWENTY THOUSANDdTHIRTY THOUSAND",
      "dFORTY THOUSANDdFIFTY THOUSANDdSIXTY THOUSANDdSEVENTY THOUSAND",
      "dEIGHTY THOUSANDdNINETY THOUSANDdONE HUNDRED THOUSAND",
      "dTWO HUNDRED THOUSANDdTHREE HUNDRED THOUSANDdFOUR HUNDRED THOUSAND",
      "dFIVE HUNDRED THOUSANDdSIX HUNDRED THOUSANDdSEVEN HUNDRED THOUSAND",
      "dEIGHT HUNDRED THOUSANDdNINE HUNDRED THOUSANDcFRACTION ONE TWELFTH",
      "dTWO TWELFTHSdTHREE TWELFTHSdFOUR TWELFTHSdFIVE TWELFTHS",
      "dSIX TWELFTHSdSEVEN TWELFTHSdEIGHT TWELFTHSdNINE TWELFTHS",
      "dTEN TWELFTHSaKHAROSHTHI LETTER AbVOWEL SIGN IdUdVOCALIC R"]⟩,
    ⟨0x10A05, [
      "aKHAROSHTHI VOWEL SIGN EdO"]⟩,
    ⟨0x10A0C, [
      "aKHAROSHTHI VOWEL LENGTH MARKbSIGN DOUBLE RING BELOWcANUSVARA",
      "cVISARGAbLETTER KAcKHAcGAcGHA"]⟩,
    ⟨0x10A15, [
      "aKHAROSHTHI LETTER CAcCHAcJA"]⟩,
    ⟨0x10A19, [
      "aKHAROSHTHI LETTER NYAcTTAcTTHAcDDAcDDHAcNNAcTAcTHAcDAcDHAcNAcPAcPHA",
      "cBAcBHAcMAcYAcRAcLAcVAcSHAcSSAcSAcZAcHAcKKAcTTTHAcTTTAcVHA"]⟩,
    ⟨0x10A38, [
      "aKHAROSHTHI SIGN BAR ABOVEcCAUDAcDOT BELOW"]⟩,
    ⟨0x10A3F, [
      "aKHAROSHTHI VIRAMAbDIGIT ONEcTWOcTHREEcFOURbNUMBER TENcTWENTY",
      "cONE HUNDREDdTHOUSANDbFRACTION ONE HALF"]⟩,
    ⟨0x10A50, [
      "aKHAROSHTHI PUNCTUATION DOTcSMALL CIRCLEcCIRCLEcCRESCENT BAR",
      "cMANGALAMcLOTUScDANDAcDOUBLE DANDAcLINES"]⟩,
    ⟨0x10A60, [
      "aOLD SOUTH ARABIAN LETTER HEeLAMEDHeHETHeMEMeQOPHeWAWeSHINeRESHeBETH",
      "eTAWeSATeKAPHeNUNeKHETHeSADHEeSAMEKHeFEeALEFeAYNeDHADHEeGIMELeDALETH",
      "eGHAYNeTETHeZAYNeDHALETHeYODHeTHAWeTHETHdNUMBER ONEeFIFTY",
      "dNUMERIC INDICATORbNORTH ARABIAN LETTER HEHeLAMeHAHeMEEMeQAFeWAW",
      "eES-2eREHeBEHeTEHeES-1eKAFeNOONeKHAHeSADeES-3eFEHeALEFeAINeDADeGEEM",
      "eDALeGHAINeTAHeZAINeTHALeYEHeTHEHeZAHdNUMBER ONEeTENeTWENTY"]⟩,
    ⟨0x10AC0, [
      "aMANICHAEAN LETTER ALEPHcBETHcBHETHcGIMELcGHIMELcDALETHcHEcWAW",
      "bSIGN UDbLETTER ZAYINcZHAYINcJAYINcJHAYINcHETHcTETHcYODHcKAPHcXAPH",
      "cKHAPHcLAMEDHcDHAMEDHcTHAMEDHcMEMcNUNcSAMEKHcAYINcAAYINcPEcFEcSADHE",
      "cQOPHcXOPHcQHOPHcRESHcSHINcSSHINcTAWbABBREVIATION MARK ABOVEdBELOW"]⟩,
    ⟨0x10AEB, [
      "aMANICHAEAN NUMBER ONEcFIVEcTENcTWENTYcONE HUNDREDbPUNCTUATION STAR",
      "cFLEURONcDOUBLE DOT WITHIN DOTcDOT WITHIN DOTcDOTcTWO DOTS",
      "cLINE FILLER"]⟩,
    ⟨0x10B00, [
      "aAVESTAN LETTER AcAAcAOcAAOcANcAANcAEcAEEcEcEEcOcOOcIcIIcUcUUcKEcXE",
      "cXYEcXVEcGEcGGEcGHEcCEcJEcTEcTHEcDEcDHEcTTEcPEcFEcBEcBHEcNGEcNGYE",
      "cNGVEcNEcNYEcNNEcMEcHMEcYYEcYEcVEcREcLEcSEcZEcSHEcZHEcSHYEcSSHEcHE"]⟩,
    ⟨0x10B39, [
      "aAVESTAN ABBREVIATION MARKaTINY TWO DOTS OVER ONE DOT PUNCTUATION",
      "aSMALL TWO DOTS OVER ONE DOT PUNCTUATION",
      "aLARGE TWO DOTS OVER ONE DOT PUNCTUATION",
      "bONE DOT OVER TWO DOTS PUNCTUATION",
      "bTWO RINGS OVER ONE RING PUNCTUATION",
      "bONE RING OVER TWO RINGS PUNCTUATION",
      "aINSCRIPTIONAL PARTHIAN LETTER ALEPHdBETHdGIMELdDALETHdHEdWAWdZAYIN",
      "dHETHdTETHdYODHdKAPHdLAMEDHdMEMdNUNdSAMEKHdAYINdPEdSADHEdQOPHdRESH",
      "dSHINdTAW"]⟩,
    ⟨0x10B58, [
      "aINSCRIPTIONAL PARTHIAN NUMBER ONEdTWOdTHREEdFOURdTENdTWENTY",
      "dONE HUNDREDeTHOUSANDbPAHLAVI LETTER ALEPHdBETHdGIMELdDALETHdHE",
      "dWAW-AYIN-RESHdZAYINdHETHdTETHdYODHdKAPHdLAMEDHdMEM-QOPHdNUNdSAMEKH",
      "dPEdSADHEdSHINdTAW"]⟩,
    ⟨0x10B78, [
      "aINSCRIPTIONAL PAHLAVI NUMBER ONEdTWOdTHREEdFOURdTENdTWENTY",
      "dONE HUNDREDeTHOUSANDaPSALTER PAHLAVI LETTER ALEPHdBETHdGIMELdDALETH",
      "dHEdWAW-AYIN-RESHdZAYINdHETHdYODHdKAPHdLAMEDHdMEM-QOPHdNUNdSAMEKHdPE",
      "dSADHEdSHINdTAW"]⟩,
    ⟨0x10B99, [
      "aPSALTER PAHLAVI SECTION MARKcTURNED SECTION MARK",
      "cFOUR DOTS WITH CROSSfDOT"]⟩,
    ⟨0x10BA9, [
      "aPSALTER PAHLAVI NUMBER ONEdTWOdTHREEdFOURdTENdTWENTYdONE HUNDRED"]⟩,
    ⟨0x10C00, [
      "aOLD TURKIC LETTER ORKHON AdYENISEI AeAEdORKHON IdYENISEI IeE",
      "dORKHON OeOEdYENISEI OEdORKHON ABdYENISEI ABdORKHON AEBdYENISEI AEB",
      "dORKHON AGdYENISEI AGdORKHON AEGdYENISEI AEGdORKHON ADdYENISEI AD",
      "dORKHON AEDeEZdYENISEI EZdORKHON AYdYENISEI AYdORKHON AEY",
      "dYENISEI AEYdORKHON AEKdYENISEI AEKdORKHON OEKdYENISEI OEKdORKHON AL",
      "dYENISEI ALdORKHON AELeELTeEMeANeAENdYENISEI AENdORKHON ENT",
      "dYENISEI ENTdORKHON ENCdYENISEI ENCdORKHON ENYdYENISEI ENYeANG",
      "dORKHON ENGdYENISEI AENGdORKHON EPeOPeICeECdYENISEI ECdORKHON AQ",
      "dYENISEI AQdORKHON IQdYENISEI IQdORKHON OQdYENISEI OQdORKHON AR",
      "dYENISEI ARdORKHON AEReASeAESeASHdYENISEI ASHdORKHON ESHdYENISEI ESH",
      "dORKHON ATdYENISEI ATdORKHON AETdYENISEI AETdORKHON OTeBASH"]⟩,
    ⟨0x10C80, [
      "aOLD HUNGARIAN CAPITAL LETTER AeAAeEBeAMBeECeENCeECSeEDeANDeE",
      "eCLOSE EeEEeEFeEGeEGYeEHeIeIIeEJeEKeAKeUNKeELeELYeEMeENeENYeOeOO",
      "eNIKOLSBURG OEeRUDIMENTA OEeOEEeEPeEMPeEReSHORT EReESeESZeETeENTeETY",
      "eECHeUeUUeNIKOLSBURG UEeRUDIMENTA UEeEVeEZeEZSeENT-SHAPED SIGNeUS"]⟩,
    ⟨0x10CC0, [
      "aOLD HUNGARIAN SMALL LETTER AeAAeEBeAMBeECeENCeECSeEDeANDeEeCLOSE E",
      "eEEeEFeEGeEGYeEHeIeIIeEJeEKeAKeUNKeELeELYeEMeENeENYeOeOO",
      "eNIKOLSBURG OEeRUDIMENTA OEeOEEeEPeEMPeEReSHORT EReESeESZeETeENTeETY",
      "eECHeUeUUeNIKOLSBURG UEeRUDIMENTA UEeEVeEZeEZSeENT-SHAPED SIGNeUS"]⟩,
    ⟨0x10CFA, [
      "aOLD HUNGARIAN NUMBER ONEdFIVEdTENdFIFTYdONE HUNDREDeTHOUSAND",
      "aHANIFI ROHINGYA LETTER AdBAdPAdTAdTTAdJAdCAdHAdKHAdFAdDAdDDAdRAdRRA",
      "dZAdSAdSHAdKAdGAdLAdMAdNAdWAdKINNA WAdYAdKINNA YAdNGAdNYAdVAcVOWEL A",
      "dIdUdEdOcMARK SAKINdNA KHONNAcSIGN HARBAHAYdTAHALAdTANAdTASSI"]⟩,
    ⟨0x10D30, [
      "aHANIFI ROHINGYA DIGIT ZEROdONEdTWOdTHREEdFOURdFIVEdSIXdSEVENdEIGHT",
      "dNINE"]⟩,
    ⟨0x10E60, [
      "aRUMI DIGIT ONEcTWOcTHREEcFOURcFIVEcSIXcSEVENcEIGHTcNINEbNUMBER TEN",
      "cTWENTYcTHIRTYcFORTYcFIFTYcSIXTYcSEVENTYcEIGHTYcNINETYcONE HUNDRED",
      "cTWO HUNDREDcTHREE HUNDREDcFOUR HUNDREDcFIVE HUNDREDcSIX HUNDRED",
      "cSEVEN HUNDREDcEIGHT HUNDREDcNINE HUNDREDbFRACTION ONE HALFdQUARTER",
      "dTHIRDcTWO THIRDS"]⟩,
    ⟨0x10E80, [
      "aYEZIDI LETTER ELIFcBEcPEcPHEcTHEcSEcCIMcCHIMcCHHIMcHHAcXAcDALcZAL",
      "cRAcRHAcZAcJAcSINcSHINcSADcDADcTAcZEcEYNcXHEYNcFAcVAdALTERNATE FORM",
      "cQAFcKAFcKHAFcGAFcLAMcMIMcNUNcUMcWAWcOWcEWcHAYcYOTcET"]⟩,
    ⟨0x10EAB, [
      "aYEZIDI COMBINING HAMZA MARKcMADDA MARKbHYPHENATION MARK"]⟩,
    ⟨0x10EB0, [
      "aYEZIDI LETTER LAM WITH DOT ABOVEcYOT WITH CIRCUMFLEX ABOVE"]⟩,
    ⟨0x10F00, [
      "aOLD SOGDIAN LETTER ALEPHdFINAL ALEPHdBETHdFINAL BETHdGIMELdHE",
      "dFINAL HEdWAWdZAYINdHETHdYODHdKAPHdLAMEDHdMEMdNUNdFINAL NUN",
      "fWITH VERTICAL TAILdSAMEKHdAYINdALTERNATE AYINdPEdSADHEdFINAL SADHE",
      "fWITH VERTICAL TAILdRESH-AYIN-DALETHdSHINdTAWdFINAL TAW",
      "fWITH VERTICAL TAILcNUMBER ONEdTWOdTHREEdFOURdFIVEdTENdTWENTYdTHIRTY",
      "dONE HUNDREDcFRACTION ONE HALFcLIGATURE AYIN-DALETH"]⟩,
    ⟨0x10F30, [
      "aSOGDIAN LETTER ALEPHcBETHcGIMELcHEcWAWcZAYINcHETHcYODHcKAPHcLAMEDH",
      "cMEMcNUNcSAMEKHcAYINcPEcSADHEcRESH-AYINcSHINcTAWcFETHcLESH",
      "bINDEPENDENT SHINbCOMBINING DOT BELOWcTWO DOTS BELOWcDOT ABOVE",
      "cTWO DOTS ABOVEcCURVE ABOVEdBELOWcHOOK ABOVEdBELOWcLONG HOOK BELOW",
      "cRESH BELOWcSTROKE BELOWbNUMBER ONEcTENcTWENTYcONE HUNDRED",
      "bPUNCTUATION TWO VERTICAL BARSfWITH DOTScCIRCLE WITH DOT",
      "cTWO CIRCLES WITH DOTScHALF CIRCLE WITH DOT"]⟩,
    ⟨0x10F70, [
      "aOLD UYGHUR LETTER ALEPHdBETHdGIMEL-HETHdWAWdZAYINdFINAL HETHdYODH",
      "dKAPHdLAMEDHdMEMdNUNdSAMEKHdPEdSADHEdRESHdSHINdTAWdLESH",
      "cCOMBINING DOT ABOVEeBELOWdTWO DOTS ABOVEfBELOWcPUNCTUATION BAR",
      "dTWO BARSeDOTSdFOUR DOTS"]⟩,
    ⟨0x10FB0, [
      "aCHORASMIAN LETTER ALEPHcSMALL ALEPHcBETHcGIMELcDALETHcHEcWAW",
      "cCURLED WAWcZAYINcHETHcYODHcKAPHcLAMEDHcMEMcNUNcSAMEKHcAYINcPEcRESH",
      "cSHINcTAWbNUMBER ONEcTWOcTHREEcFOURcTENcTWENTYcONE HUNDRED"]⟩,
    ⟨0x10FE0, [
      "aELYMAIC LETTER ALEPHcBETHcGIMELcDALETHcHEcWAWcZAYINcHETHcTETHcYODH",
      "cKAPHcLAMEDHcMEMcNUNcSAMEKHcAYINcPEcSADHEcQOPHcRESHcSHINcTAW",
      "bLIGATURE ZAYIN-YODH"]⟩,
    ⟨0x11000, [
      "aBRAHMI SIGN CANDRABINDUcANUSVARAcVISARGAcJIHVAMULIYAcUPADHMANIYA",
      "bLETTER AcAAcIcIIcUcUUcVOCALIC RdRRdLdLLcEcAIcOcAUcKAcKHAcGAcGHAcNGA",
      "cCAcCHAcJAcJHAcNYAcTTAcTTHAcDDAcDDHAcNNAcTAcTHAcDAcDHAcNAcPAcPHAcBA",
      "cBHAcMAcYAcRAcLAcVAcSHAcSSAcSAcHAcLLAcOLD TAMIL LLLAeRRAeNNNA",
      "bVOWEL SIGN AAdBHATTIPROLU AAdIdIIdUdUUdVOCALIC ReRReLeLLdEdAIdOdAU",
      "bVIRAMAbDANDAbDOUBLE DANDAbPUNCTUATION DOTcDOUBLE DOTcLINE",
      "cCRESCENT BARcLOTUS"]⟩,
    ⟨0x11052, [
      "aBRAHMI NUMBER ONEcTWOcTHREEcFOURcFIVEcSIXcSEVENcEIGHTcNINEcTEN",
      "cTWENTYcTHIRTYcFORTYcFIFTYcSIXTYcSEVENTYcEIGHTYcNINETYcONE HUNDRED",
      "dTHOUSANDbDIGIT ZEROcONEcTWOcTHREEcFOURcFIVEcSIXcSEVENcEIGHTcNINE",
      "bSIGN OLD TAMIL VIRAMAbLETTER OLD TAMIL SHORT EfO",
      "bVOWEL SIGN OLD TAMIL SHORT EgObLETTER OLD TAMIL LLA"]⟩,
    ⟨0x1107F, [
      "aBRAHMI NUMBER JOINERaKAITHI SIGN CANDRABINDUcANUSVARAcVISARGA",
      "bLETTER AcAAcIcIIcUcUUcEcAIcOcAUcKAcKHAcGAcGHAcNGAcCAcCHAcJAcJHAcNYA",
      "cTTAcTTHAcDDAcDDDHAcDDHAcRHAcNNAcTAcTHAcDAcDHAcNAcPAcPHAcBAcBHAcMA",
      "cYAcRAcLAcVAcSHAcSSAcSAcHAbVOWEL SIGN AAdIdIIdUdUUdEdAIdOdAU",
      "bSIGN VIRAMAcNUKTAbABBREVIATION SIGNbENUMERATION SIGNbNUMBER SIGN",
      "bSECTION MARKbDOUBLE SECTION MARKbDANDAbDOUBLE DANDA",
      "bVOWEL SIGN VOCALIC R"]⟩,
    ⟨0x110CD, [
      "aKAITHI NUMBER SIGN ABOVE"]⟩,
    ⟨0x110D0, [
      "aSORA SOMPENG LETTER SAHdTAHdBAHdCAHdDAHdGAHdMAHdNGAHdLAHdNAHdVAH",
      "dPAHdYAHdRAHdHAHdKAHdJAHdNYAHdAHdEEHdIHdUHdOHdEHdMAE"]⟩,
    ⟨0x110F0, [
      "aSORA SOMPENG DIGIT ZEROdONEdTWOdTHREEdFOURdFIVEdSIXdSEVENdEIGHT",
      "dNINE"]⟩,
    ⟨0x11100, [
      "aCHAKMA SIGN CANDRABINDUcANUSVARAcVISARGAbLETTER AAcIcUcEcKAAcKHAA",
      "cGAAcGHAAcNGAAcCAAcCHAAcJAAcJHAAcNYAAcTTAAcTTHAAcDDAAcDDHAAcNNAAcTAA",
      "cTHAAcDAAcDHAAcNAAcPAAcPHAAcBAAcBHAAcMAAcYYAAcYAAcRAAcLAAcWAAcSAA",
      "cHAAbVOWEL SIGN AdIdIIdUdUUdEdAIdOdAUdOIbO MARKbAU MARKbVIRAMA",
      "bMAAYYAA"]⟩,
    ⟨0x11136, [
      "aCHAKMA DIGIT ZEROcONEcTWOcTHREEcFOURcFIVEcSIXcSEVENcEIGHTcNINE",
      "bSECTION MARKbDANDAbDOUBLE DANDAbQUESTION MARKbLETTER LHAA",
      "bVOWEL SIGN AAdEIbLETTER VAA"]⟩,
    ⟨0x11150, [
      "aMAHAJANI LETTER AcIcUcEcOcKAcKHAcGAcGHAcCAcCHAcJAcJHAcNYAcTTAcTTHA",
      "cDDAcDDHAcNNAcTAcTHAcDAcDHAcNAcPAcPHAcBAcBHAcMAcRAcLAcVAcSAcHAcRRA",
      "bSIGN NUKTAbABBREVIATION SIGNbSECTION MARKbLIGATURE SHRI"]⟩,
    ⟨0x11180, [
      "aSHARADA SIGN CANDRABINDUcANUSVARAcVISARGAbLETTER AcAAcIcIIcUcUU",
      "cVOCALIC RdRRdLdLLcEcAIcOcAUcKAcKHAcGAcGHAcNGAcCAcCHAcJAcJHAcNYAcTTA",
      "cTTHAcDDAcDDHAcNNAcTAcTHAcDAcDHAcNAcPAcPHAcBAcBHAcMAcYAcRAcLAcLLAcVA",
      "cSHAcSSAcSAcHAbVOWEL SIGN AAdIdIIdUdUUdVOCALIC ReRReLeLLdEdAIdOdAU",
      "bSIGN VIRAMAcAVAGRAHAcJIHVAMULIYAcUPADHMANIYAbOMbDANDAbDOUBLE DANDA",
      "bABBREVIATION SIGNbSEPARATORbSANDHI MARKbSIGN NUKTA",
      "bVOWEL MODIFIER MARKbEXTRA SHORT VOWEL MARKbSUTRA MARK",
      "bVOWEL SIGN PRISHTHAMATRA EbSIGN INVERTED CANDRABINDUbDIGIT ZEROcONE",
      "cTWOcTHREEcFOURcFIVEcSIXcSEVENcEIGHTcNINEbEKAMbSIGN SIDDHAM",
      "bHEADSTROKEbCONTINUATION SIGNbSECTION MARK-1cMARK-2"]⟩,
    ⟨0x111E1, [
      "aSINHALA ARCHAIC DIGIT ONEdTWOdTHREEdFOURdFIVEdSIXdSEVENdEIGHTdNINE",
      "cNUMBER TENdTWENTYdTHIRTYdFORTYdFIFTYdSIXTYdSEVENTYdEIGHTYdNINETY",
      "dONE HUNDREDeTHOUSAND"]⟩,
    ⟨0x11200, [
      "aKHOJKI LETTER AcAAcIcUcEcAIcOcAUcKAcKHAcGAcGGAcGHAcNGAcCAcCHAcJA",
      "cJJA"]⟩,
    ⟨0x11213, [
      "aKHOJKI LETTER NYAcTTAcTTHAcDDAcDDHAcNNAcTAcTHAcDAcDDDAcDHAcNAcPA",
      "cPHAcBAcBBAcBHAcMAcYAcRAcLAcVAcSAcHAcLLAbVOWEL SIGN AAdIdIIdUdEdAIdO",
      "dAUbSIGN ANUSVARAcVIRAMAcNUKTAcSHADDAbDANDAbDOUBLE DANDA",
      "bWORD SEPARATORbSECTION MARKbDOUBLE SECTION MARKbABBREVIATION SIGN",
      "bSIGN SUKUN"]⟩,
    ⟨0x11280, [
      "aMULTANI LETTER AcIcUcEcKAcKHAcGA"]⟩,
    ⟨0x11288, [
      "aMULTANI LETTER GHA"]⟩,
    ⟨0x1128A, [
      "aMULTANI LETTER CAcCHAcJAcJJA"]⟩,
    ⟨0x1128F, [
      "aMULTANI LETTER NYAcTTAcTTHAcDDAcDDDAcDDHAcNNAcTAcTHAcDAcDHAcNAcPA",
      "cPHAcBA"]⟩,
    ⟨0x1129F, [
      "aMULTANI LETTER BHAcMAcYAcRAcLAcVAcSAcHAcRRAcRHAbSECTION MARK"]⟩,
    ⟨0x112B0, [
      "aKHUDAWADI LETTER AcAAcIcIIcUcUUcEcAIcOcAUcKAcKHAcGAcGGAcGHAcNGAcCA",
      "cCHAcJAcJJAcJHAcNYAcTTAcTTHAcDDAcDDDAcRRAcDDHAcNNAcTAcTHAcDAcDHAcNA",
      "cPAcPHAcBAcBBAcBHAcMAcYAcRAcLAcVAcSHAcSAcHAbSIGN ANUSVARA",
      "bVOWEL SIGN AAdIdIIdUdUUdEdAIdOdAUbSIGN NUKTAcVIRAMA"]⟩,
    ⟨0x112F0, [
      "aKHUDAWADI DIGIT ZEROcONEcTWOcTHREEcFOURcFIVEcSIXcSEVENcEIGHTcNINE"]⟩,
    ⟨0x11300, [
      "aGRANTHA SIGN COMBINING ANUSVARA ABOVEcCANDRABINDUcANUSVARAcVISARGA"]⟩,
    ⟨0x11305, [
      "aGRANTHA LETTER AcAAcIcIIcUcUUcVOCALIC RdL"]⟩,
    ⟨0x1130F, [
      "aGRANTHA LETTER EEcAI"]⟩,
    ⟨0x11313, [
      "aGRANTHA LETTER OOcAUcKAcKHAcGAcGHAcNGAcCAcCHAcJAcJHAcNYAcTTAcTTHA",
      "cDDAcDDHAcNNAcTAcTHAcDAcDHAcNA"]⟩,
    ⟨0x1132A, [
      "aGRANTHA LETTER PAcPHAcBAcBHAcMAcYAcRA"]⟩,
    ⟨0x11332, [
      "aGRANTHA LETTER LAcLLA"]⟩,
    ⟨0x11335, [
      "aGRANTHA LETTER VAcSHAcSSAcSAcHA"]⟩,
    ⟨0x1133B, [
      "aCOMBINING BINDU BELOWaGRANTHA SIGN NUKTAcAVAGRAHAbVOWEL SIGN AAdI",
      "dIIdUdUUdVOCALIC ReRR"]⟩,
    ⟨0x11347, [
      "aGRANTHA VOWEL SIGN EEdAI"]⟩,
    ⟨0x1134B, [
      "aGRANTHA VOWEL SIGN OOdAUbSIGN VIRAMA"]⟩,
    ⟨0x11350, [
      "aGRANTHA OM"]⟩,
    ⟨0x11357, [
      "aGRANTHA AU LENGTH MARK"]⟩,
    ⟨0x1135D, [
      "aGRANTHA SIGN PLUTAbLETTER VEDIC ANUSVARAdDOUBLE ANUSVARAcVOCALIC RR",
      "dLLbVOWEL SIGN VOCALIC LeLL"]⟩,
    ⟨0x11366, [
      "aCOMBINING GRANTHA DIGIT ZEROdONEdTWOdTHREEdFOURdFIVEdSIX"]⟩,
    ⟨0x11370, [
      "aCOMBINING GRANTHA LETTER AdKAdNAdVIdPA"]⟩,
    ⟨0x11400, [
      "aNEWA LETTER AcAAcIcIIcUcUUcVOCALIC RdRRdLdLLcEcAIcOcAUcKAcKHAcGA",
      "cGHAcNGAcNGHAcCAcCHAcJAcJHAcNYAcNYHAcTTAcTTHAcDDAcDDHAcNNAcTAcTHAcDA",
      "cDHAcNAcNHAcPAcPHAcBAcBHAcMAcMHAcYAcRAcRHAcLAcLHAcWAcSHAcSSAcSAcHA",
      "bVOWEL SIGN AAdIdIIdUdUUdVOCALIC ReRReLeLLdEdAIdOdAUbSIGN VIRAMA",
      "cCANDRABINDUcANUSVARAcVISARGAcNUKTAcAVAGRAHAcFINAL ANUSVARAbOM",
      "bSIDDHIbDANDAbDOUBLE DANDAbCOMMAbGAP FILLERbABBREVIATION SIGN",
      "bDIGIT ZEROcONEcTWOcTHREEcFOURcFIVEcSIXcSEVENcEIGHTcNINE",
      "bDOUBLE COMMAbPLACEHOLDER MARK"]⟩,
    ⟨0x1145D, [
      "aNEWA INSERTION SIGNbSANDHI MARKbLETTER VEDIC ANUSVARA",
      "bSIGN JIHVAMULIYAcUPADHMANIYA"]⟩,
    ⟨0x11480, [
      "aTIRHUTA ANJIbLETTER AcAAcIcIIcUcUUcVOCALIC RdRRdLdLLcEcAIcOcAUcKA",
      "cKHAcGAcGHAcNGAcCAcCHAcJAcJHAcNYAcTTAcTTHAcDDAcDDHAcNNAcTAcTHAcDA",
      "cDHAcNAcPAcPHAcBAcBHAcMAcYAcRAcLAcVAcSHAcSSAcSAcHAbVOWEL SIGN AAdI",
      "dIIdUdUUdVOCALIC ReRReLeLLdEdSHORT EdAIdOdSHORT OdAU",
      "bSIGN CANDRABINDUcANUSVARAcVISARGAcVIRAMAcNUKTAcAVAGRAHAbGVANG",
      "bABBREVIATION SIGNbOM"]⟩,
    ⟨0x114D0, [
      "aTIRHUTA DIGIT ZEROcONEcTWOcTHREEcFOURcFIVEcSIXcSEVENcEIGHTcNINE"]⟩,
    ⟨0x11580, [
      "aSIDDHAM LETTER AcAAcIcIIcUcUUcVOCALIC RdRRdLdLLcEcAIcOcAUcKAcKHAcGA",
      "cGHAcNGAcCAcCHAcJAcJHAcNYAcTTAcTTHAcDDAcDDHAcNNAcTAcTHAcDAcDHAcNAcPA",
      "cPHAcBAcBHAcMAcYAcRAcLAcVAcSHAcSSAcSAcHAbVOWEL SIGN AAdIdIIdUdUU",
      "dVOCALIC ReRR"]⟩,
    ⟨0x115B8, [
      "aSIDDHAM VOWEL SIGN EdAIdOdAUbSIGN CANDRABINDUcANUSVARAcVISARGA",
      "cVIRAMAcNUKTAcSIDDHAMbDANDAbDOUBLE DANDAbSEPARATOR DOTcBAR",
      "bREPETITION MARK-1cMARK-2cMARK-3bEND OF TEXT MARK",
      "bSECTION MARK WITH TRIDENT AND U-SHAPED ORNAMENTSgDOTTED CRESCENTS",
      "eRAYS AND DOTTED CRESCENTShDOUBLE CRESCENTShTRIPLE CRESCENTS",
      "dDOUBLE RINGfWITH RAYSdWITH DOUBLE CRESCENTSeTRIPLE CRESCENTS",
      "eQUADRUPLE CRESCENTSeSEPTUPLE CRESCENTSeCIRCLES AND RAYS",
      "gTWO ENCLOSURESgFOUR ENCLOSURESbLETTER THREE-CIRCLE ALTERNATE I",
      "cTWO-CIRCLE ALTERNATE IeIIcALTERNATE UbVOWEL SIGN ALTERNATE UeUU"]⟩,
    ⟨0x11600, [
      "aMODI LETTER AcAAcIcIIcUcUUcVOCALIC RdRRdLdLLcEcAIcOcAUcKAcKHAcGA",
      "cGHAcNGAcCAcCHAcJAcJHAcNYAcTTAcTTHAcDDAcDDHAcNNAcTAcTHAcDAcDHAcNAcPA",
      "cPHAcBAcBHAcMAcYAcRAcLAcVAcSHAcSSAcSAcHAcLLAbVOWEL SIGN AAdIdIIdUdUU",
      "dVOCALIC ReRReLeLLdEdAIdOdAUbSIGN ANUSVARAcVISARGAcVIRAMA",
      "cARDHACANDRAbDANDAbDOUBLE DANDAbABBREVIATION SIGNbSIGN HUVA"]⟩,
    ⟨0x11650, [
      "aMODI DIGIT ZEROcONEcTWOcTHREEcFOURcFIVEcSIXcSEVENcEIGHTcNINE"]⟩,
    ⟨0x11660, [
      "aMONGOLIAN BIRGA WITH ORNAMENTbROTATED BIRGA",
      "bDOUBLE BIRGA WITH ORNAMENTbTRIPLE BIRGA WITH ORNAMENT",
      "bBIRGA WITH DOUBLE ORNAMENTbROTATED BIRGA WITH ORNAMENT",
      "eDOUBLE ORNAMENTbINVERTED BIRGAdWITH DOUBLE ORNAMENTbSWIRL BIRGA",
      "dWITH ORNAMENTeDOUBLE ORNAMENT",
      "bTURNED SWIRL BIRGA WITH DOUBLE ORNAMENT"]⟩,
    ⟨0x11680, [
      "aTAKRI LETTER AcAAcIcIIcUcUUcEcAIcOcAUcKAcKHAcGAcGHAcNGAcCAcCHAcJA",
      "cJHAcNYAcTTAcTTHAcDDAcDDHAcNNAcTAcTHAcDAcDHAcNAcPAcPHAcBAcBHAcMAcYA",
      "cRAcLAcVAcSHAcSAcHAcRRAbSIGN ANUSVARAcVISARGAbVOWEL SIGN AAdIdIIdU",
      "dUUdEdAIdOdAUbSIGN VIRAMAcNUKTAbLETTER ARCHAIC KHAbABBREVIATION SIGN"]⟩,
    ⟨0x116C0, [
      "aTAKRI DIGIT ZEROcONEcTWOcTHREEcFOURcFIVEcSIXcSEVENcEIGHTcNINE"]⟩,
    ⟨0x11700, [
      "aAHOM LETTER KAcKHAcNGAcNAcTAcALTERNATE TAcPAcPHAcBAcMAcJAcCHAcTHA",
      "cRAcLAcSAcNYAcHAcAcDAcDHAcGAcALTERNATE GAcGHAcBHAcJHAcALTERNATE BA"]⟩,
    ⟨0x1171D, [
      "aAHOM CONSONANT SIGN MEDIAL LAeRAeLIGATING RAbVOWEL SIGN AdAAdIdIIdU",
      "dUUdEdAWdOdAIdAMbSIGN KILLER"]⟩,
    ⟨0x11730, [
      "aAHOM DIGIT ZEROcONEcTWOcTHREEcFOURcFIVEcSIXcSEVENcEIGHTcNINE",
      "bNUMBER TENcTWENTYbSIGN SMALL SECTIONcSECTIONcRULAIbSYMBOL VI",
      "bLETTER CAcTTAcTTHAcDDAcDDHAcNNAcLLA"]⟩,
    ⟨0x11800, [
      "aDOGRA LETTER AcAAcIcIIcUcUUcEcAIcOcAUcKAcKHAcGAcGHAcNGAcCAcCHAcJA",
      "cJHAcNYAcTTAcTTHAcDDAcDDHAcNNAcTAcTHAcDAcDHAcNAcPAcPHAcBAcBHAcMAcYA",
      "cRAcLAcVAcSHAcSSAcSAcHAcRRAbVOWEL SIGN AAdIdIIdUdUUdVOCALIC ReRRdE",
      "dAIdOdAUbSIGN ANUSVARAcVISARGAcVIRAMAcNUKTAbABBREVIATION SIGN"]⟩,
    ⟨0x118A0, [
      "aWARANG CITI CAPITAL LETTER NGAAeAeWIeYUeYAeYOeIIeUUeEeOeANGeGAeKO",
      "eENYeYUJeUCeENNeODDeTTEeNUNGeDAeATeAMeBUePUeHIYOeHOLOeHORReHAReSSUU",
      "eSIIeVIYOcSMALL LETTER NGAAeAeWIeYUeYAeYOeIIeUUeEeOeANGeGAeKOeENY",
      "eYUJeUCeENNeODDeTTEeNUNGeDAeATeAMeBUePUeHIYOeHOLOeHORReHAReSSUUeSII",
      "eVIYOcDIGIT ZEROdONEdTWOdTHREEdFOURdFIVEdSIXdSEVENdEIGHTdNINE",
      "cNUMBER TENdTWENTYdTHIRTYdFORTYdFIFTYdSIXTYdSEVENTYdEIGHTYdNINETY"]⟩,
    ⟨0x118FF, [
      "aWARANG CITI OMaDIVES AKURU LETTER AdAAdIdIIdUdUUdE"]⟩,
    ⟨0x11909, [
      "aDIVES AKURU LETTER O"]⟩,
    ⟨0x1190C, [
      "aDIVES AKURU LETTER KAdKHAdGAdGHAdNGAdCAdCHAdJA"]⟩,
    ⟨0x11915, [
      "aDIVES AKURU LETTER NYAdTTA"]⟩,
    ⟨0x11918, [
      "aDIVES AKURU LETTER DDAdDDHAdNNAdTAdTHAdDAdDHAdNAdPAdPHAdBAdBHAdMA",
      "dYAdYYAdRAdLAdVAdSHAdSSAdSAdHAdLLAdZAcVOWEL SIGN AAeIeIIeUeUUeE"]⟩,
    ⟨0x11937, [
      "aDIVES AKURU VOWEL SIGN AIeO"]⟩,
    ⟨0x1193B, [
      "aDIVES AKURU SIGN ANUSVARAdCANDRABINDUdHALANTAcVIRAMA",
      "cPREFIXED NASAL SIGNcMEDIAL YAcINITIAL RAcMEDIAL RAcSIGN NUKTA",
      "cDOUBLE DANDAcGAP FILLERcEND OF TEXT MARK"]⟩,
    ⟨0x11950, [
      "aDIVES AKURU DIGIT ZEROdONEdTWOdTHREEdFOURdFIVEdSIXdSEVENdEIGHTdNINE"]⟩,
    ⟨0x119A0, [
      "aNANDINAGARI LETTER AcAAcIcIIcUcUUcVOCALIC RdRR"]⟩,
    ⟨0x119AA, [
      "aNANDINAGARI LETTER EcAIcOcAUcKAcKHAcGAcGHAcNGAcCAcCHAcJAcJHAcNYA",
      "cTTAcTTHAcDDAcDDHAcNNAcTAcTHAcDAcDHAcNAcPAcPHAcBAcBHAcMAcYAcRAcLAcVA",
      "cSHAcSSAcSAcHAcLLAcRRAbVOWEL SIGN AAdIdIIdUdUUdVOCALIC ReRR"]⟩,
    ⟨0x119DA, [
      "aNANDINAGARI VOWEL SIGN EdAIdOdAUbSIGN ANUSVARAcVISARGAcVIRAMA",
      "cAVAGRAHAcSIDDHAMbHEADSTROKEbVOWEL SIGN PRISHTHAMATRA E"]⟩,
    ⟨0x11A00, [
      "aZANABAZAR SQUARE LETTER AcVOWEL SIGN IeUEeUeEeOEeOeAIeAUeREVERSED I",
      "dLENGTH MARKcLETTER KAdKHAdGAdGHAdNGAdCAdCHAdJAdNYAdTTAdTTHAdDDA",
      "dDDHAdNNAdTAdTHAdDAdDHAdNAdPAdPHAdBAdBHAdMAdTSAdTSHAdDZAdDZHAdZHAdZA",
      "d-AdYAdRAdLAdVAdSHAdSSAdSAdHAdKSSAcFINAL CONSONANT MARKcSIGN VIRAMA",
      "dCANDRABINDUeWITH ORNAMENTdCANDRA WITH ORNAMENTdANUSVARAdVISARGA",
      "cCLUSTER-INITIAL LETTER RAcCLUSTER-FINAL LETTER YAeRAeLAeVA",
      "cINITIAL HEAD MARKcCLOSING HEAD MARKcMARK TSHEGdSHADdDOUBLE SHAD",
      "dLONG TSHEGcINITIAL DOUBLE-LINED HEAD MARK",
      "cCLOSING DOUBLE-LINED HEAD MARKcSUBJOINER"]⟩,
    ⟨0x11A50, [
      "aSOYOMBO LETTER AbVOWEL SIGN IdUEdUdEdOdOEdAIdAUdVOCALIC ReL",
      "cLENGTH MARKbLETTER KAcKHAcGAcGHAcNGAcCAcCHAcJAcJHAcNYAcTTAcTTHAcDDA",
      "cDDHAcNNAcTAcTHAcDAcDHAcNAcPAcPHAcBAcBHAcMAcTSAcTSHAcDZAcZHAcZAc-A",
      "cYAcRAcLAcVAcSHAcSSAcSAcHAcKSSAbSIGN JIHVAMULIYAcUPADHMANIYA",
      "bCLUSTER-INITIAL LETTER RAdLAdSHAdSAbFINAL CONSONANT SIGN GeKeNGeDeN",
      "eBeMeReLeSHeSe-AbSIGN ANUSVARAcVISARGAbGEMINATION MARKbSUBJOINER",
      "bMARK TSHEGcSHADcDOUBLE SHADcPLUTA",
      "bHEAD MARK WITH MOON AND SUN AND TRIPLE FLAMEiFLAMEgSUN",
      "bTERMINAL MARK-1cMARK-2"]⟩,
    ⟨0x11AB0, [
      "aCANADIAN SYLLABICS NATTILIK HIdHIIdHOdHOOdHAdHAAdSHRIdSHRIIdSHRO",
      "dSHROOdSHRAdSHRAAcSPEcSPIcSPOcSPAaPAU CIN HAU LETTER PAeKAeLAeMAeDA",
      "eZAeVAeNGAeHAeGAeKHAeSAeBAeCAeTAeTHAeNAePHAeRAeFAeCHAeAeEeIeOeUeUA",
      "eIAeFINAL PfKfTfMfNfLfWfNGfYdRISING TONE LONGeTONE",
      "dSANDHI GLOTTAL STOPdRISING TONE LONG FINALfFINAL",
      "dSANDHI GLOTTAL STOP FINALeTONE LONGeTONEfLONG FINALfFINAL",
      "dMID-LEVEL TONEdGLOTTAL STOP VARIANTdMID-LEVEL TONE LONG FINALfFINAL",
      "dLOW-FALLING TONE LONGeTONEdGLOTTAL STOPdLOW-FALLING TONE LONG FINAL",
      "fFINALdGLOTTAL STOP FINAL"]⟩,
    ⟨0x11C00, [
      "aBHAIKSUKI LETTER AcAAcIcIIcUcUUcVOCALIC RdRRdL"]⟩,
    ⟨0x11C0A, [
      "aBHAIKSUKI LETTER EcAIcOcAUcKAcKHAcGAcGHAcNGAcCAcCHAcJAcJHAcNYAcTTA",
      "cTTHAcDDAcDDHAcNNAcTAcTHAcDAcDHAcNAcPAcPHAcBAcBHAcMAcYAcRAcLAcVAcSHA",
      "cSSAcSAcHAbVOWEL SIGN AAdIdIIdUdUUdVOCALIC ReRReL"]⟩,
    ⟨0x11C38, [
      "aBHAIKSUKI VOWEL SIGN EdAIdOdAUbSIGN CANDRABINDUcANUSVARAcVISARGA",
      "cVIRAMAcAVAGRAHAbDANDAbDOUBLE DANDAbWORD SEPARATORbGAP FILLER-1",
      "cFILLER-2"]⟩,
    ⟨0x11C50, [
      "aBHAIKSUKI DIGIT ZEROcONEcTWOcTHREEcFOURcFIVEcSIXcSEVENcEIGHTcNINE",
      "bNUMBER ONEcTWOcTHREEcFOURcFIVEcSIXcSEVENcEIGHTcNINEcTENcTWENTY",
      "cTHIRTYcFORTYcFIFTYcSIXTYcSEVENTYcEIGHTYcNINETYbHUNDREDS UNIT MARK"]⟩,
    ⟨0x11C70, [
      "aMARCHEN HEAD MARKbMARK SHADbLETTER KAcKHAcGAcNGAcCAcCHAcJAcNYAcTA",
      "cTHAcDAcNAcPAcPHAcBAcMAcTSAcTSHAcDZAcWAcZHAcZAc-AcYAcRAcLAcSHAcSAcHA",
      "cA"]⟩,
    ⟨0x11C92, [
      "aMARCHEN SUBJOINED LETTER KAdKHAdGAdNGAdCAdCHAdJAdNYAdTAdTHAdDAdNA",
      "dPAdPHAdBAdMAdTSAdTSHAdDZAdWAdZHAdZA"]⟩,
    ⟨0x11CA9, [
      "aMARCHEN SUBJOINED LETTER YAdRAdLAdSHAdSAdHAdAbVOWEL SIGN AAdIdUdEdO",
      "bSIGN ANUSVARAcCANDRABINDU"]⟩,
    ⟨0x11D00, [
      "aMASARAM GONDI LETTER AdAAdIdIIdUdUUdE"]⟩,
    ⟨0x11D08, [
      "aMASARAM GONDI LETTER AIdO"]⟩,
    ⟨0x11D0B, [
      "aMASARAM GONDI LETTER AUdKAdKHAdGAdGHAdNGAdCAdCHAdJAdJHAdNYAdTTA",
      "dTTHAdDDAdDDHAdNNAdTAdTHAdDAdDHAdNAdPAdPHAdBAdBHAdMAdYAdRAdLAdVAdSHA",
      "dSSAdSAdHAdLLAdKSSAdJNYAdTRAcVOWEL SIGN AAeIeIIeUeUUeVOCALIC R"]⟩,
    ⟨0x11D3A, [
      "aMASARAM GONDI VOWEL SIGN E"]⟩,
    ⟨0x11D3C, [
      "aMASARAM GONDI VOWEL SIGN AIeO"]⟩,
    ⟨0x11D3F, [
      "aMASARAM GONDI VOWEL SIGN AUcSIGN ANUSVARAdVISARGAdNUKTAdCANDRA",
      "dHALANTAcVIRAMAcREPHAcRA-KARA"]⟩,
    ⟨0x11D50, [
      "aMASARAM GONDI DIGIT ZEROdONEdTWOdTHREEdFOURdFIVEdSIXdSEVENdEIGHT",
      "dNINE"]⟩,
    ⟨0x11D60, [
      "aGUNJALA GONDI LETTER AdAAdIdIIdUdUU"]⟩,
    ⟨0x11D67, [
      "aGUNJALA GONDI LETTER EEdAI"]⟩,
    ⟨0x11D6A, [
      "aGUNJALA GONDI LETTER OOdAUdYAdVAdBAdBHAdMAdKAdKHAdTAdTHAdLAdGAdGHA",
      "dDAdDHAdNAdCAdCHAdTTAdTTHAdLLAdJAdJHAdDDAdDDHAdNGAdPAdPHAdHAdRAdSA",
      "cVOWEL SIGN AAeIeIIeUeUU"]⟩,
    ⟨0x11D90, [
      "aGUNJALA GONDI VOWEL SIGN EEeAI"]⟩,
    ⟨0x11D93, [
      "aGUNJALA GONDI VOWEL SIGN OOeAUcSIGN ANUSVARAdVISARGAcVIRAMAcOM"]⟩,
    ⟨0x11DA0, [
      "aGUNJALA GONDI DIGIT ZEROdONEdTWOdTHREEdFOURdFIVEdSIXdSEVENdEIGHT",
      "dNINE"]⟩,
    ⟨0x11EE0, [
      "aMAKASAR LETTER KAcGAcNGAcPAcBAcMAcTAcDAcNAcCAcJAcNYAcYAcRAcLAcVAcSA",
      "cAbANGKAbVOWEL SIGN IdUdEdObPASSIMBANGbEND OF SECTION"]⟩,
    ⟨0x11FB0, [
      "aLISU LETTER YHA"]⟩,
    ⟨0x11FC0, [
      "aTAMIL FRACTION ONE THREE-HUNDRED-AND-TWENTIETH",
      "dONE-HUNDRED-AND-SIXTIETHdEIGHTIETHdSIXTY-FOURTHdFORTIETH",
      "dTHIRTY-SECONDcTHREE EIGHTIETHSdSIXTY-FOURTHScONE TWENTIETH",
      "dSIXTEENTH-1dSIXTEENTH-2dTENTHdEIGHTHcTHREE TWENTIETHSdSIXTEENTHS",
      "cONE FIFTHdQUARTERdHALF-1dHALF-2cTHREE QUARTERS",
      "cDOWNSCALING FACTOR KIIZHbSIGN NELcCEVITUcAAZHAAKKUcUZHAKKU",
      "cMUUVUZHAKKUcKURUNIcPATHAKKUcMUKKURUNIcKAACUcPANAMcPONcVARAAKAN",
      "cPAARAMcKUZHIcVELIbWET CULTIVATION SIGNbDRY CULTIVATION SIGN",
      "bLAND SIGNbSALT PAN SIGNbTRADITIONAL CREDIT SIGNcNUMBER SIGN",
      "bCURRENT SIGNbAND ODD SIGNbSPENT SIGNbTOTAL SIGNbIN POSSESSION SIGN",
      "bSTARTING FROM SIGNbSIGN MUTHALIYAcVAKAIYARAA"]⟩,
    ⟨0x11FFF, [
      "aTAMIL PUNCTUATION END OF TEXTaCUNEIFORM SIGN AdTIMES AeBAD",
      "eGAN2 TENUeHAeIGIeLAGAR GUNUeMUSHeSAGcA2cABdTIMES ASH2eDUN3 GUNUeGAL",
      "eGAN2 TENUeHAeIGI GUNUeIMINeLAGABeSHESHeU PLUS U PLUS UdGUNUcAB2",
      "dTIMES BALAGeGAN2 TENUeME PLUS ENeSHA3eTAK4cADcAKdTIMES ERIN2",
      "eSHITA PLUS GISHcALdTIMES ALeDIM2eGISHeHAeKAD3eKIeSHEeUSHcALANcALEPH",
      "cAMARdTIMES SHEcANdOVER ANdTHREE TIMES",
      "dPLUS NAGA OPPOSING AN PLUS NAGAfSQUAREDcANSHEcAPINcARADdTIMES KUR",
      "cARKABcASAL2cASHdZIDA TENUdKABA TENU",
      "dOVER ASH TUG2 OVER TUG2 TUG2 OVER TUG2 PAPfOVER ASH",
      "hCROSSING ASH OVER ASH OVER ASHcASH2cASHGABcBAcBADcBAG3cBAHAR2cBAL",
      "dOVER BALcBALAGcBARcBARA2cBIdTIMES AeGAReIGI GUNUcBUdOVER BU ABfUN",
      "dCROSSING BUcBULUGdOVER BULUGcBURcBUR2cDAcDAG",
      "dKISIM5 TIMES A PLUS MASHfAMARfBALAGfBIfGAgPLUS MASHfGIfGIR2fGUDfHA",
      "fIRgPLUS LUfKAKfLAfLUgPLUS MASH2fLUMfNEfPAP PLUS PAPfSIfTAK4",
      "fU2 PLUS GIR2fUSHcDAMcDARcDARA3cDARA4cDIcDIBcDIMdTIMES SHEcDIM2cDIN",
      "dKASKAL U GUNU DISHcDISHcDUdOVER DUdGUNUdSHESHIGcDUBdTIMES ESH2cDUB2",
      "cDUGcDUGUDcDUHcDUNcDUN3dGUNUeGUNUcDUN4cDUR2cEdTIMES PAP",
      "dOVER E NUN OVER NUNcE2dTIMES A PLUS HA PLUS DAeGAReMIeSALeSHEeU",
      "cEDINcEGIRcELcENdTIMES GAN2fTENUeMEdCROSSING ENdOPPOSING ENdSQUARED",
      "cERENcERIN2cESH2cEZENdTIMES AfPLUS LALhTIMES LALeANeBADeDUN3 GUNU",
      "gGUNUeHAfGUNUeIGI GUNUeKASKALfSQUAREDeKU3eLAeLAL TIMES LALeLIeLUeU2",
      "eUDcGAdGUNUcGA2dTIMES A PLUS DA PLUS HAgHAgIGIeAB2 TENU PLUS TABeAN",
      "eASHeASH2 PLUS GALeBADeBAR PLUS RAeBURfPLUS RAeDAeDIeDIM TIMES SHE",
      "eDUBeELfPLUS LAeENfTIMES GAN2 TENUeGAN2 TENUeGAReGIeGI4fPLUS A",
      "eGIR2 PLUS SUeHA PLUS LU PLUS ESH2eHALfPLUS LAeHI PLUS LIeHUB2",
      "eIGI GUNUeISH PLUS HU PLUS ASHeKAKeKASKALeKIDfPLUS LALeKU3 PLUS AN",
      "eLAeME PLUS ENeMIeNUNfOVER NUNePAeSALeSAReSHEfPLUS TUReSHIDeSUMeTAK4",
      "eUeUDfPLUS DUdOVER GA2cGABAdCROSSING GABAcGADdOVER GAD GAR OVER GAR",
      "cGALdGAD OVER GAD GAR OVER GARcGALAMcGAMcGANcGAN2dTENUdOVER GAN2",
      "dCROSSING GAN2cGARcGAR3cGASHANcGESHTINdTIMES KURcGIdTIMES EeU",
      "dCROSSING GIcGI4dOVER GI4dCROSSING GI4cGIDIMcGIR2dGUNUcGIR3",
      "dTIMES A PLUS IGIeGAN2 TENUeIGIeLU PLUS IGIePAcGISALcGISH",
      "dCROSSING GISHdTIMES BADeTAK4dTENUcGUdCROSSING GUcGU2dTIMES KAK",
      "fTIMES IGI GUNUeNUNeSAL PLUS TUG2dGUNUcGUDdTIMES A PLUS KUReKUR",
      "dOVER GUD LUGALcGULcGUMdTIMES SHEcGURcGUR7cGURUNcGURUSHcHAdTENUdGUNU",
      "cHALcHIdTIMES ASHeASH2eBADeDISHeGADeKINeNUNeSHEeUcHUcHUB2dTIMES AN",
      "eHALeKASKALeLISHeUDcHUL2cIdAcIBcIDIMdOVER IDIM BURfSQUAREDcIGcIGI",
      "dDIBdRIdOVER IGI SHIR OVER SHIR UD OVER UDdGUNUcILdTIMES GAN2 TENU",
      "cIL2cIMdTIMES TAK4dCROSSING IMdOPPOSING IMdSQUAREDcIMINcINcIRcISHcKA",
      "dTIMES AeADfPLUS KU3eASH2eBADeBALAGeBAReBIeERIN2eESH2eGAeGAL",
      "eGAN2 TENUeGARfPLUS SHA3 PLUS AeGIeGIR2eGISH PLUS SARfCROSSING GISH",
      "eGUeGUR7eIGIeIMeKAKeKIeKIDeLIeLUeMEfPLUS DUgGIgTEeMIfPLUS NUNUZeNE",
      "eNUNePIeRUeSAeSAReSHAeSHEeSHIDeSHUeSIGeSUHUReTAReUeU2eUD",
      "eUMUM TIMES PAeUSHeZIcKA2dCROSSING KA2cKABcKAD2cKAD3cKAD4cKAD5",
      "dOVER KAD5cKAKdTIMES IGI GUNUcKALdTIMES BADdCROSSING KALcKAM2cKAM4",
      "cKASKALdLAGAB TIMES U OVER LAGAB TIMES U",
      "dOVER KASKAL LAGAB TIMES U OVER LAGAB TIMES UcKESH2cKIdTIMES BADeU",
      "eUDcKIDcKINcKISALcKISHcKISIM5dOVER KISIM5cKU",
      "dOVER HI TIMES ASH2 KU OVER HI TIMES ASH2cKU3cKU4dVARIANT FORMcKU7",
      "cKULdGUNUcKUNcKURdOPPOSING KURcKUSHU2cKWU318cLAcLAGABdTIMES A",
      "fPLUS DA PLUS HAgGARgLALeALeANeASH ZIDA TENUeBADeBIeDAReENeGAeGAR",
      "eGUDfPLUS GUDeHAeHALeHI TIMES NUNeIGI GUNUeIMfPLUS HAgLUeKIeKINeKU3",
      "eKULfPLUS HI PLUS AeLAGABeLISHeLUeLULeMEfPLUS ENeMUSHeNE",
      "eSHE PLUS SUMeSHITA PLUS GISH PLUS ERIN2hTENUeSHU2fPLUS SHU2eSUMeTAG",
      "eTAK4eTE PLUS A PLUS SU PLUS NAeUfPLUS AgU PLUS UeU2 PLUS ASHeUDeUSH",
      "dSQUAREDcLAGARdTIMES SHEfPLUS SUMdGUNUeOVER LAGAR GUNU SHEcLAHSHU",
      "cLALdTIMES LALcLAMdTIMES KURfPLUS RUcLIcLILcLIMMU2cLISHcLUdTIMES BAD",
      "cLU2dTIMES ALeBADeESH2fTENUeGAN2 TENUeHI TIMES BADeIMeKAD2eKAD3",
      "fPLUS ASHeKIeLA PLUS ASHeLAGABeME PLUS ENeNEeNUeSI PLUS ASH",
      "eSIK2 PLUS BUeTUG2dTENUdCROSSING LU2dOPPOSING LU2dSQUAREDdSHESHIG",
      "cLU3cLUGALdOVER LUGALdOPPOSING LUGALdSHESHIGcLUHcLULcLUMdOVER LUM",
      "fGAR OVER GARcMAdTIMES TAK4dGUNUcMA2cMAHcMARcMASHcMASH2cMEcMEScMI",
      "cMINcMUdOVER MUcMUGdGUNUcMUNSUBcMURGU2cMUSHdTIMES AeKUReZAdOVER MUSH",
      "fTIMES A PLUS NAdCROSSING MUSHcMUSH3dTIMES AfPLUS DIeDIdGUNUcNAcNA2",
      "cNAGAdINVERTEDdTIMES SHU TENUdOPPOSING NAGAcNAGARcNAM NUTILLUcNAM",
      "cNAM2cNEdTIMES AeUDdSHESHIGcNIdTIMES EcNI2cNIMdTIMES GAN2 TENU",
      "eGAR PLUS GAN2 TENUcNINDA2dTIMES ANeASHfPLUS ASHeGUD",
      "eME PLUS GAN2 TENUeNEeNUNeSHEfPLUS A ANgASHhPLUS ASHeU2 PLUS ASHeUSH",
      "cNISAGcNUcNU11cNUNdLAGAR TIMES GARfMASHfSALgOVER NUN LAGAR TIMES SAL",
      "fUSHdTENUdOVER NUNdCROSSING NUNfLAGAR OVER LAGARcNUNUZ",
      "dAB2 TIMES ASHGABfBIfDUGfGUDfIGI GUNUfKAD3fLAfNEfSILA3fU2",
      "dKISIM5 TIMES BIgUcPAcPADcPANcPAPcPESH2cPIdTIMES AeABeBIeBUeEeIeIBeU",
      "eU2dCROSSING PIcPIRIGdTIMES KALeUDeZAdOPPOSING PIRIGcRAcRABcRIcRUcSA",
      "cSAG NUTILLUcSAGdTIMES AeDUeDUBeHAeKAKeKUReLUMeMIeNUNeSALeSHIDeTAB",
      "eU2eUBeUMeUReUSHdOVER SAGdGUNUcSALdLAGAB TIMES ASH2cSANGA2cSARcSHA",
      "cSHA3dTIMES AeBADeGISHeNEeSHU2eTUReUfPLUS AcSHA6cSHAB6cSHAR2cSHEdHU",
      "dOVER SHE GAD OVER GAD GAR OVER GARfTAB OVER TAB GAR OVER GARcSHEG9",
      "cSHENcSHESHcSHESH2cSHESHLAMcSHIDdTIMES AeIMcSHIMdTIMES AeBALeBULUG",
      "eDINeGAReIGIfGUNUeKUSHU2eLULeMUGeSALcSHINIGcSHIRdTENU",
      "dOVER SHIR BUR OVER BURcSHITAcSHUdOVER INVERTED SHUcSHU2cSHUBURcSI",
      "dGUNUcSIGcSIG4dOVER SIG4 SHU2cSIK2cSILA3cSUdOVER SUcSUDcSUD2cSUHUR",
      "cSUMcSUMASHcSURcSUR9cTAdASTERISKdTIMES HIeMIdGUNUcTAB",
      "dOVER TAB NI OVER NI DISH OVER DISHdSQUAREDcTAGdTIMES BIeGUDeSHEeSHU",
      "eTUG2eUDcTAK4cTARcTEdGUNUcTIdTENUcTILcTIRdTIMES TAK4dOVER TIR",
      "fGAD OVER GAD GAR OVER GARcTUcTUG2cTUKcTUMcTURdOVER TUR ZA OVER ZAcU",
      "dGUDdU UdOVER U PA OVER PA GAR OVER GARfSUR OVER SUR",
      "fU REVERSED OVER U REVERSEDcU2cUBcUDdKUSHU2dTIMES BADeMI",
      "eU PLUS U PLUS UjGUNUdGUNUdSHESHIGeTIMES BADcUDUGcUMdTIMES LAGAB",
      "eME PLUS DAeSHA3eUcUMBINcUMUMdTIMES KASKALePAcUNdGUNUcURdCROSSING UR",
      "dSHESHIGcUR2dTIMES A PLUS HAgNAeALeHAeNUNeU2fPLUS ASHgBIcUR4cURI",
      "cURI3cURUdTIMES AeASHGABeBAReDUNeGAeGALeGAN2 TENUeGAReGUeHAeIGIeIM",
      "eISHeKIeLUMeMINePAeSHEeSIG4eTUeU PLUS GUDeUDeURUDAcURUDAdTIMES UcUSH",
      "dTIMES AeKUeKUReTAK4cUSHXcUSH2cUSHUMXcUTUKIcUZ3dTIMES KASKALcUZUcZA",
      "dTENUdSQUARED TIMES KURcZAGcZAMXcZE2cZIdOVER ZIcZI3cZIBdKABA TENU",
      "cZIGcZIZ2cZUcZU5dTIMES AcZUBURcZUMcKAP ELAMITEcAB TIMES NUN",
      "cAB2 TIMES AcAMAR TIMES KUGcDAG KISIM5 TIMES U2 PLUS MASHcDAG3",
      "cDISH PLUS SHUcDUB TIMES SHEcEZEN TIMES GUDeSHE",
      "cGA2 TIMES AN PLUS KAK PLUS AeASH2cGE22cGIGcHUSHcKA TIMES ANSHEeASH3",
      "eGISHeGUDeHI TIMES ASH2eLUMePAeSHULeTUeUR2cLAGAB TIMES GI",
      "cLU2 SHESHIG TIMES BADdTIMES ESH2 PLUS LALeSHUcMESHcMUSH3 TIMES ZA",
      "cNA4cNINcNIN9cNINDA2 TIMES BALeGIcNU11 ROTATED NINETY DEGREES",
      "cPESH2 ASTERISKcPIR2cSAG TIMES IGI GUNUcTI2cUM TIMES MEcU U"]⟩,
    ⟨0x12400, [
      "aCUNEIFORM NUMERIC SIGN TWO ASHdTHREE ASHdFOUR ASHdFIVE ASHdSIX ASH",
      "dSEVEN ASHdEIGHT ASHdNINE ASHdTHREE DISHdFOUR DISHdFIVE DISH",
      "dSIX DISHdSEVEN DISHdEIGHT DISHdNINE DISHdFOUR UdFIVE UdSIX U",
      "dSEVEN UdEIGHT UdNINE UdONE GESH2dTWO GESH2dTHREE GESH2dFOUR GESH2",
      "dFIVE GESH2dSIX GESH2dSEVEN GESH2dEIGHT GESH2dNINE GESH2dONE GESHU",
      "dTWO GESHUdTHREE GESHUdFOUR GESHUdFIVE GESHUdTWO SHAR2dTHREE SHAR2",
      "fVARIANT FORMdFOUR SHAR2dFIVE SHAR2dSIX SHAR2dSEVEN SHAR2",
      "dEIGHT SHAR2dNINE SHAR2dONE SHARUdTWO SHARUdTHREE SHARUfVARIANT FORM",
      "dFOUR SHARUdFIVE SHARUdSHAR2 TIMES GAL PLUS DISHhMINdONE BURU",
      "dTWO BURUdTHREE BURUfVARIANT FORMdFOUR BURUdFIVE BURU",
      "dTHREE VARIANT FORM ESH16gESH21dFOUR VARIANT FORM LIMMUgLIMMU4",
      "gLIMMU AhBdSIX VARIANT FORM ASH9dSEVEN VARIANT FORM IMIN3gIMIN AhB",
      "dEIGHT VARIANT FORM USSUgUSSU3dNINE VARIANT FORM ILIMMUgILIMMU3",
      "gILIMMU4gILIMMU AdTWO ASH TENUdTHREE ASH TENUdFOUR ASH TENU",
      "dFIVE ASH TENUdSIX ASH TENUdONE BAN2dTWO BAN2dTHREE BAN2dFOUR BAN2",
      "fVARIANT FORMdFIVE BAN2fVARIANT FORMdNIGIDAMINdNIGIDAESHdONE ESHE3",
      "dTWO ESHE3dONE THIRD DISHdTWO THIRDS DISHdFIVE SIXTHS DISH",
      "dONE THIRD VARIANT FORM AdTWO THIRDS VARIANT FORM AdONE EIGHTH ASH",
      "eQUARTER ASHdOLD ASSYRIAN ONE SIXTHgQUARTERdONE QUARTER GUReHALF GUR",
      "dELAMITE ONE THIRDeTWO THIRDSeFORTYeFIFTYdFOUR U VARIANT FORM",
      "dFIVE U VARIANT FORMdSIX U VARIANT FORMdSEVEN U VARIANT FORM",
      "dEIGHT U VARIANT FORMdNINE U VARIANT FORM"]⟩,
    ⟨0x12470, [
      "aCUNEIFORM PUNCTUATION SIGN OLD ASSYRIAN WORD DIVIDERdVERTICAL COLON",
      "dDIAGONAL COLONeTRICOLONeQUADCOLON"]⟩,
    ⟨0x12480, [
      "aCUNEIFORM SIGN AB TIMES NUN TENUeSHU2cAD TIMES ESH2",
      "cBAD TIMES DISH TENUcBAHAR2 TIMES AB2eNIeZAcBU OVER BU TIMES NA2",
      "cDA TIMES TAK4cDAG TIMES KURcDIM TIMES IGIeU U UcDIM2 TIMES UD",
      "cDUG TIMES ANSHEeASHfAT LEFTeDINeDUNeERIN2eGAeGIeGIR2 GUNUeGISHeHA",
      "eHIeIGI GUNUeKASKALeKUReKUSHU2fPLUS KASKALeLAK-020eLAMfTIMES KUR",
      "eLUH PLUS GISHeMASHeMESeMIeNIePIeSHEeSI GUNUcE2 TIMES KURePAP",
      "cERIN2 XcESH2 CROSSING ESH2cEZEN SHESHIG TIMES ASHfHIfIGI GUNUfLA",
      "fLALfMEfMESfSUdTIMES SUcGA2 TIMES BAHAR2eDIM GUNUeDUG TIMES IGI GUNU",
      "gKASKALeERENeGAeGAR PLUS DIgNEeHA PLUS AeKUSHU2 PLUS KASKALeLAM",
      "fTIMES KUReLUHeMUSHeNEfPLUS E2gGIeSHIMeZIZ2",
      "cGABA ROTATED NINETY DEGREEScGESHTIN TIMES U",
      "cGISH TIMES GISH CROSSING GISHcGU2 TIMES IGI GUNU",
      "cGUD PLUS GISH TIMES TAK4cHA TENU GUNU",
      "cHI TIMES ASH OVER HI TIMES ASHcKA TIMES BUeKAeU U UeUR",
      "cLAGAB TIMES ZU OVER ZUcLAK-003cLAK-021cLAK-025cLAK-030cLAK-050",
      "cLAK-051cLAK-062cLAK-079 OVER LAK-079 GUNUcLAK-080",
      "cLAK-081 OVER LAK-081cLAK-092cLAK-130cLAK-142cLAK-210cLAK-219",
      "cLAK-220cLAK-225cLAK-228cLAK-238cLAK-265cLAK-266cLAK-343cLAK-347",
      "cLAK-348cLAK-383cLAK-384cLAK-390cLAK-441cLAK-449dTIMES GUeIGI",
      "ePAP PLUS LU3gPAP PLUS LU3eU2 PLUS BAcLAK-450cLAK-457cLAK-470",
      "cLAK-483cLAK-490cLAK-492cLAK-493cLAK-495cLAK-550cLAK-608cLAK-617",
      "dTIMES ASHeBADeDUN3 GUNU GUNUeKU3eLAeTAReTEeU2eUDeURUDAcLAK-636",
      "cLAK-648dTIMES DUBeGAeIGIfGUNUeNIePAP PLUS PAP PLUS LU3",
      "eSHESH PLUS KIeUDeURUDAcLAK-724cLAK-749cLU2 GUNU TIMES ASH",
      "dTIMES DISHeHALePAPfPLUS PAP PLUS LU3eTAK4cMI PLUS ZA7",
      "cMUSH OVER MUSH TIMES GAgKAKcNINDA2 TIMES DIM GUNUeGISHeGULeHIeKESH2",
      "eLAK-050eMASHePAP PLUS PAPeUfPLUS UeURUDAcSAG GUNU TIMES HAdTIMES EN",
      "eSHE AT LEFTeTAK4cSHA6 TENUcSHE OVER SHEdPLUS HUB2eNAM2eSAR",
      "cSHU2 PLUS DUG TIMES NIeE2 TIMES ANcSI TIMES TAK4cTAK4 PLUS SAG",
      "cTUM TIMES GAN2 TENUeTHREE DISHcUR2 INVERTEDdTIMES UD",
      "cURU TIMES DARA3eLAK-668eLU3cZA7cZU OVER ZU PLUS SAR",
      "cZU5 TIMES THREE DISH TENU"]⟩,
    ⟨0x12F90, [
      "aCYPRO-MINOAN SIGN CM001cCM002cCM004cCM005cCM006cCM007cCM008cCM009",
      "cCM010cCM011cCM012cCM012BcCM013cCM015cCM017cCM019cCM021cCM023cCM024",
      "cCM025cCM026cCM027cCM028cCM029cCM030cCM033cCM034cCM035cCM036cCM037",
      "cCM038cCM039cCM040cCM041cCM044cCM046cCM047cCM049cCM050cCM051cCM052",
      "cCM053cCM054cCM055cCM056cCM058cCM059cCM060cCM061cCM062cCM063cCM064",
      "cCM066cCM067cCM068cCM069cCM070cCM071cCM072cCM073cCM074cCM075cCM075B",
      "cCM076cCM078cCM079cCM080cCM081cCM082cCM083cCM084cCM085cCM086cCM087",
      "cCM088cCM089cCM090cCM091cCM092cCM094cCM095cCM096cCM097cCM098cCM099",
      "cCM100cCM101cCM102cCM103cCM104cCM105cCM107cCM108cCM109cCM110cCM112",
      "cCM114cCM301cCM302"]⟩,
    ⟨0x13000, [
      "aEGYPTIAN HIEROGLYPH A001cA002cA003cA004cA005cA005AcA006cA006AcA006B",
      "cA007cA008cA009cA010cA011cA012cA013cA014cA014AcA015cA016cA017cA017A",
      "cA018cA019cA020cA021cA022cA023cA024cA025cA026cA027cA028cA029cA030",
      "cA031cA032cA032AcA033cA034cA035cA036cA037cA038cA039cA040cA040AcA041",
      "cA042cA042AcA043cA043AcA044cA045cA045AcA046cA047cA048cA049cA050cA051",
      "cA052cA053cA054cA055cA056cA057cA058cA059cA060cA061cA062cA063cA064",
      "cA065cA066cA067cA068cA069cA070cB001cB002cB003cB004cB005cB005AcB006",
      "cB007cB008cB009cC001cC002cC002AcC002BcC002CcC003cC004cC005cC006cC007",
      "cC008cC009cC010cC010AcC011cC012cC013cC014cC015cC016cC017cC018cC019",
      "cC020cC021cC022cC023cC024cD001cD002cD003cD004cD005cD006cD007cD008",
      "cD008AcD009cD010cD011cD012cD013cD014cD015cD016cD017cD018cD019cD020",
      "cD021cD022cD023cD024cD025cD026cD027cD027AcD028cD029cD030cD031cD031A",
      "cD032cD033cD034cD034AcD035cD036cD037cD038cD039cD040cD041cD042cD043",
      "cD044cD045cD046cD046AcD047cD048cD048AcD049cD050cD050AcD050BcD050C",
      "cD050DcD050EcD050FcD050GcD050HcD050IcD051cD052cD052AcD053cD054cD054A",
      "cD055cD056cD057cD058cD059cD060cD061cD062cD063cD064cD065cD066cD067",
      "cD067AcD067BcD067CcD067DcD067EcD067FcD067GcD067HcE001cE002cE003cE004",
      "cE005cE006cE007cE008cE008AcE009cE009AcE010cE011cE012cE013cE014cE015",
      "cE016cE016AcE017cE017AcE018cE019cE020cE020AcE021cE022cE023cE024cE025",
      "cE026cE027cE028cE028AcE029cE030cE031cE032cE033cE034cE034AcE036cE037",
      "cE038cF001cF001AcF002cF003cF004cF005cF006cF007cF008cF009cF010cF011",
      "cF012cF013cF013AcF014cF015cF016cF017cF018cF019cF020cF021cF021AcF022",
      "cF023cF024cF025cF026cF027cF028cF029cF030cF031cF031AcF032cF033cF034",
      "cF035cF036cF037cF037AcF038cF038AcF039cF040cF041cF042cF043cF044cF045",
      "cF045AcF046cF046AcF047cF047AcF048cF049cF050cF051cF051AcF051BcF051C",
      "cF052cF053cG001cG002cG003cG004cG005cG006cG006AcG007cG007AcG007BcG008",
      "cG009cG010cG011cG011AcG012cG013cG014cG015cG016cG017cG018cG019cG020",
      "cG020AcG021cG022cG023cG024cG025cG026cG026AcG027cG028cG029cG030cG031",
      "cG032cG033cG034cG035cG036cG036AcG037cG037AcG038cG039cG040cG041cG042",
      "cG043cG043AcG044cG045cG045AcG046cG047cG048cG049cG050cG051cG052cG053",
      "cG054cH001cH002cH003cH004cH005cH006cH006AcH007cH008cI001cI002cI003",
      "cI004cI005cI005AcI006cI007cI008cI009cI009AcI010cI010AcI011cI011A",
      "cI012cI013cI014cI015cK001cK002cK003cK004cK005cK006cK007cK008cL001",
      "cL002cL002AcL003cL004cL005cL006cL006AcL007cL008cM001cM001AcM001B",
      "cM002cM003cM003AcM004cM005cM006cM007cM008cM009cM010cM010AcM011cM012",
      "cM012AcM012BcM012CcM012DcM012EcM012FcM012GcM012HcM013cM014cM015",
      "cM015AcM016cM016AcM017cM017AcM018cM019cM020cM021cM022cM022AcM023",
      "cM024cM024AcM025cM026cM027cM028cM028AcM029cM030cM031cM031AcM032cM033",
      "cM033AcM033BcM034cM035cM036cM037cM038cM039cM040cM040AcM041cM042cM043",
      "cM044cN001cN002cN003cN004cN005cN006cN007cN008cN009cN010cN011cN012",
      "cN013cN014cN015cN016cN017cN018cN018AcN018BcN019cN020cN021cN022cN023",
      "cN024cN025cN025AcN026cN027cN028cN029cN030cN031cN032cN033cN033AcN034",
      "cN034AcN035cN035AcN036cN037cN037AcN038cN039cN040cN041cN042cNL001",
      "cNL002cNL003cNL004cNL005cNL005AcNL006cNL007cNL008cNL009cNL010cNL011",
      "cNL012cNL013cNL014cNL015cNL016cNL017cNL017AcNL018cNL019cNL020cNU001",
      "cNU002cNU003cNU004cNU005cNU006cNU007cNU008cNU009cNU010cNU010AcNU011",
      "cNU011AcNU012cNU013cNU014cNU015cNU016cNU017cNU018cNU018AcNU019cNU020",
      "cNU021cNU022cNU022AcO001cO001AcO002cO003cO004cO005cO005AcO006cO006A",
      "cO006BcO006CcO006DcO006EcO006FcO007cO008cO009cO010cO010AcO010BcO010C",
      "cO011cO012cO013cO014cO015cO016cO017cO018cO019cO019AcO020cO020AcO021",
      "cO022cO023cO024cO024AcO025cO025AcO026cO027cO028cO029cO029AcO030",
      "cO030AcO031cO032cO033cO033AcO034cO035cO036cO036AcO036BcO036CcO036D",
      "cO037cO038cO039cO040cO041cO042cO043cO044cO045cO046cO047cO048cO049",
      "cO050cO050AcO050BcO051cP001cP001AcP002cP003cP003AcP004cP005cP006",
      "cP007cP008cP009cP010cP011cQ001cQ002cQ003cQ004cQ005cQ006cQ007cR001",
      "cR002cR002AcR003cR003AcR003BcR004cR005cR006cR007cR008cR009cR010",
      "cR010AcR011cR012cR013cR014cR015cR016cR016AcR017cR018cR019cR020cR021",
      "cR022cR023cR024cR025cR026cR027cR028cR029cS001cS002cS002AcS003cS004",
      "cS005cS006cS006AcS007cS008cS009cS010cS011cS012cS013cS014cS014AcS014B",
      "cS015cS016cS017cS017AcS018cS019cS020cS021cS022cS023cS024cS025cS026",
      "cS026AcS026BcS027cS028cS029cS030cS031cS032cS033cS034cS035cS035AcS036",
      "cS037cS038cS039cS040cS041cS042cS043cS044cS045cS046cT001cT002cT003",
      "cT003AcT004cT005cT006cT007cT007AcT008cT008AcT009cT009AcT010cT011",
      "cT011AcT012cT013cT014cT015cT016cT016AcT017cT018cT019cT020cT021cT022",
      "cT023cT024cT025cT026cT027cT028cT029cT030cT031cT032cT032AcT033cT033A",
      "cT034cT035cT036cU001cU002cU003cU004cU005cU006cU006AcU006BcU007cU008",
      "cU009cU010cU011cU012cU013cU014cU015cU016cU017cU018cU019cU020cU021",
      "cU022cU023cU023AcU024cU025cU026cU027cU028cU029cU029AcU030cU031cU032",
      "cU032AcU033cU034cU035cU036cU037cU038cU039cU040cU041cU042cV001cV001A",
      "cV001BcV001CcV001DcV001EcV001FcV001GcV001HcV001IcV002cV002AcV003",
      "cV004cV005cV006cV007cV007AcV007BcV008cV009cV010cV011cV011AcV011B",
      "cV011CcV012cV012AcV012BcV013cV014cV015cV016cV017cV018cV019cV020",
      "cV020AcV020BcV020CcV020DcV020EcV020FcV020GcV020HcV020IcV020JcV020K",
      "cV020LcV021cV022cV023cV023AcV024cV025cV026cV027cV028cV028AcV029",
      "cV029AcV030cV030AcV031cV031AcV032cV033cV033AcV034cV035cV036cV037",
      "cV037AcV038cV039cV040cV040AcW001cW002cW003cW003AcW004cW005cW006cW007",
      "cW008cW009cW009AcW010cW010AcW011cW012cW013cW014cW014AcW015cW016cW017",
      "cW017AcW018cW018AcW019cW020cW021cW022cW023cW024cW024AcW025cX001cX002",
      "cX003cX004cX004AcX004BcX005cX006cX006AcX007cX008cX008AcY001cY001A",
      "cY002cY003cY004cY005cY006cY007cY008cZ001cZ002cZ002AcZ002BcZ002C",
      "cZ002DcZ003cZ003AcZ003BcZ004cZ004AcZ005cZ005AcZ006cZ007cZ008cZ009",
      "cZ010cZ011cZ012cZ013cZ014cZ015cZ015AcZ015BcZ015CcZ015DcZ015EcZ015F",
      "cZ015GcZ015HcZ015IcZ016cZ016AcZ016BcZ016CcZ016DcZ016EcZ016FcZ016G",
      "cZ016HcAA001cAA002cAA003cAA004cAA005cAA006cAA007cAA007AcAA007BcAA008",
      "cAA009cAA010cAA011cAA012cAA013cAA014cAA015cAA016cAA017cAA018cAA019",
      "cAA020cAA021cAA022cAA023cAA024cAA025cAA026cAA027cAA028cAA029cAA030",
      "cAA031cAA032"]⟩,
    ⟨0x13430, [
      "aEGYPTIAN HIEROGLYPH VERTICAL JOINERcHORIZONTAL JOINER",
      "cINSERT AT TOP STARTeBOTTOM STARTeTOP ENDeBOTTOM ENDcOVERLAY MIDDLE",
      "cBEGIN SEGMENTcEND SEGMENT"]⟩,
    ⟨0x14400, [
      "aANATOLIAN HIEROGLYPH A001cA002cA003cA004cA005cA006cA007cA008cA009",
      "cA010cA010AcA011cA012cA013cA014cA015cA016cA017cA018cA019cA020cA021",
      "cA022cA023cA024cA025cA026cA026AcA027cA028cA029cA030cA031cA032cA033",
      "cA034cA035cA036cA037cA038cA039cA039AcA040cA041cA041AcA042cA043cA044",
      "cA045cA045AcA046cA046AcA046BcA047cA048cA049cA050cA051cA052cA053cA054",
      "cA055cA056cA057cA058cA059cA060cA061cA062cA063cA064cA065cA066cA066A",
      "cA066BcA066CcA067cA068cA069cA070cA071cA072cA073cA074cA075cA076cA077",
      "cA078cA079cA080cA081cA082cA083cA084cA085cA086cA087cA088cA089cA090",
      "cA091cA092cA093cA094cA095cA096cA097cA097AcA098cA098AcA099cA100cA100A",
      "cA101cA101AcA102cA102AcA103cA104cA104AcA104BcA104CcA105cA105AcA105B",
      "cA106cA107cA107AcA107BcA107CcA108cA109cA110cA110AcA110BcA111cA112",
      "cA113cA114cA115cA115AcA116cA117cA118cA119cA120cA121cA122cA123cA124",
      "cA125cA125AcA126cA127cA128cA129cA130cA131cA132cA133cA134cA135cA135A",
      "cA136cA137cA138cA139cA140cA141cA142cA143cA144cA145cA146cA147cA148",
      "cA149cA150cA151cA152cA153cA154cA155cA156cA157cA158cA159cA160cA161",
      "cA162cA163cA164cA165cA166cA167cA168cA169cA170cA171cA172cA173cA174",
      "cA175cA176cA177cA178cA179cA180cA181cA182cA183cA184cA185cA186cA187",
      "cA188cA189cA190cA191cA192cA193cA194cA195cA196cA197cA198cA199cA200",
      "cA201cA202cA202AcA202BcA203cA204cA205cA206cA207cA207AcA208cA209",
      "cA209AcA210cA211cA212cA213cA214cA215cA215AcA216cA216AcA217cA218cA219",
      "cA220cA221cA222cA223cA224cA225cA226cA227cA227AcA228cA229cA230cA231",
      "cA232cA233cA234cA235cA236cA237cA238cA239cA240cA241cA242cA243cA244",
      "cA245cA246cA247cA248cA249cA250cA251cA252cA253cA254cA255cA256cA257",
      "cA258cA259cA260cA261cA262cA263cA264cA265cA266cA267cA267AcA268cA269",
      "cA270cA271cA272cA273cA274cA275cA276cA277cA278cA279cA280cA281cA282",
      "cA283cA284cA285cA286cA287cA288cA289cA289AcA290cA291cA292cA293cA294",
      "cA294AcA295cA296cA297cA298cA299cA299AcA300cA301cA302cA303cA304cA305",
      "cA306cA307cA308cA309cA309AcA310cA311cA312cA313cA314cA315cA316cA317",
      "cA318cA319cA320cA321cA322cA323cA324cA325cA326cA327cA328cA329cA329A",
      "cA330cA331cA332AcA332BcA332CcA333cA334cA335cA336cA336AcA336BcA336C",
      "cA337cA338cA339cA340cA341cA342cA343cA344cA345cA346cA347cA348cA349",
      "cA350cA351cA352cA353cA354cA355cA356cA357cA358cA359cA359AcA360cA361",
      "cA362cA363cA364cA364AcA365cA366cA367cA368cA368AcA369cA370cA371cA371A",
      "cA372cA373cA374cA375cA376cA377cA378cA379cA380cA381cA381AcA382",
      "cA383 RA OR RIcA383AcA384cA385cA386cA386AcA387cA388cA389cA390cA391",
      "cA392cA393 EIGHTcA394cA395cA396cA397cA398cA399cA400cA401cA402cA403",
      "cA404cA405cA406cA407cA408cA409cA410 BEGIN LOGOGRAM MARK",
      "cA410A END LOGOGRAM MARKcA411cA412cA413cA414cA415cA416cA417cA418",
      "cA419cA420cA421cA422cA423cA424cA425cA426cA427cA428cA429cA430cA431",
      "cA432cA433cA434cA435cA436cA437cA438cA439cA440cA441cA442cA443cA444",
      "cA445cA446cA447cA448cA449cA450cA450AcA451cA452cA453cA454cA455cA456",
      "cA457cA457AcA458cA459cA460cA461cA462cA463cA464cA465cA466cA467cA468",
      "cA469cA470cA471cA472cA473cA474cA475cA476cA477cA478cA479cA480cA481",
      "cA482cA483cA484cA485cA486cA487cA488cA489cA490cA491cA492cA493cA494",
      "cA495cA496cA497cA501cA502cA503cA504cA505cA506cA507cA508cA509cA510",
      "cA511cA512cA513cA514cA515cA516cA517cA518cA519cA520cA521cA522cA523",
      "cA524cA525cA526cA527cA528cA529cA530"]⟩,
    ⟨0x16800, [
      "aBAMUM LETTER PHASE-A NGKUE MFONdGBIEE FONdPON MFON PIPAEMGBIEE",
      "fPIPAEMBAdNAA MFONdSHUENSHUETdTITA MFONdNZA MFONdSHINDA PA NJI",
      "dPON PA NJI PIPAEMGBIEEgPIPAEMBAdMAEMBGBIEEdTU MAEMBAdNGANGU",
      "dMAEMVEUXdMANSUAEdMVEUAENGAMdSEUNYAMdNTOQPENdKEUKEUTNDAdNKINDIdSUU",
      "dNGKUENZEUMdLAPAQdLET KUTdNTAP MFAAdMAEKEUPdPASHAEdGHEUAERAEdPAMSHAE",
      "dMON NGGEUAETdNZUN MEUTdU YUQ NAEdGHEUAEGHEUAEdNTAP NTAAdSISAdMGBASA",
      "dMEUNJOMNDEUQdMOOMPUQdKAFAdPA LEERAEWAdNDA LEERAEWAdPETdMAEMKPEN",
      "dNIKAdPUPdTUAEPdLUAEPdSONJAMdTEUTEUWENdMAENYIdKETdNDAANGGEUAETdKUOQ",
      "dMOOMEUTdSHUMdLOMMAEdFIRIdROMdKPOQdSOQdMAP PIEETdSHIRAEdNTAP",
      "dSHOQ NSHUT YUMdNYIT MONGKEUAEQdPAARAEdNKAARAEdUNKNOWNdNGGENdMAESI",
      "dNJAMdMBANYIdNYETdTEUAENdSOTdPAAMdNSHIEEdMAEMdNYIdKAQdNSHAdVEEdLU",
      "dNENdNAQdMBAQcPHASE-B NSHUETdTU MAEMGBIEEdSIEEdSET TUdLOM NTEUM",
      "dMBA MAELEEdKIEEMdYEURAEdMBAARAEdKAMdPEESHIdYAFU LEERAEWA",
      "dLAM NSHUT NYAMdNTIEE SHEUOQdNDU NJAAdGHEUGHEUAEMdPITdTU NSIEE",
      "dSHET NJAQdSHEUAEQTUdMFON TEUAEQdMBIT MBAAKETdNYI NTEUMdKEUPUQ",
      "dGHEUGHENdKEUYEUXdLAANAEdPARUMdVEUMdNGKINDI MVOPdNGGEU MBUdWUAET",
      "dSAKEUAEdTAAMdMEUQdNGGUOQeLARGEdMFIYAQdSUEdMBEURIdMONTIEENdNYAEMAE",
      "dPUNGAAMdMEUT NGGEETdFEUXdMBUOQdFEEdKEUAEMdMA NJEUAENAeNJUQAdLET",
      "dNGGAAMdNSENdMAdKIQdNGOMcPHASE-C NGKUE MAEMBAdNZAdYUMdWANGKUOQdNGGEN",
      "dNDEUAEREEdNGKAQdGHARAEdMBEEKEETdGBAYIdNYIR MKPARAQ MEUNdNTU MBIT",
      "dMBEUMdPIRIEENdNDOMBUdMBAA CABBAGE-TREEdKEUSHEUAEPdGHAPdKEUKAQ",
      "dYU MUOMAEdNZEUMdMBUEdNSEUAENdMBITdYEUQdKPARAQdKAAdSEUXdNDIDA",
      "dTAASHAEdNJUEQdTITA YUEdSUAETdNGGUAEN NYAMdVEUXdNANSANAQdMA KEUAERI",
      "dNTAAdNGGUONdLAPdMBIRIEENdMGBASAQdNTEUNGBAdTEUTEUXdNGGUMdFUEdNDEUT",
      "dNSAdNSHAQdBUNGdVEUAEPENdMBERAEdRUdNJAEMdLAMdTITUAEPdNSUOT NGOM",
      "dNJEEEEdKETdNGGUdMAESIdMBUAEMdLUdKUTdNJAMdNGOMdWUPdNGGUEETdNSOMdNTEN",
      "dKUOP NKAARAEdNSUNdNDAMdMA NSIEEdYAAdNDAPdSHUEQdSETFONdMBIdMAEMBA",
      "dMBANYIdKEUSEUXdMBEUXdKEUMdMBAA PICKETdYUWOQdNJEUXdMIEEdMUAEdSHIQ",
      "dKEN LAWeFATIGUEdNGAQdNAQdLIQdPINdPENdTETcPHASE-D MBUOdWAPdNJIdMFON",
      "dNJIEEdLIEEdNJEUTdNSHEEdNGGAAMAEdNYAMdWUAENdNGKUNdSHEEdNGKAP",
      "dKEUAETMEUNdTEUTdSHEUAEdNJAPdSUEdKETdYAEMMAEdKUOMdSAPdMFEUTdNDEUX",
      "dMALEERIdMEUTdSEUAEQdYENdNJEUAEMdKEUOT MBUAEdNGKEURIdTUdGHAAdNGKYEE",
      "dFEUFEUAETdNDEEdMGBOFUMdLEUAEPdNDONdMONIdMGBEUNdPUUTdMGBIEEdMFOdLUM",
      "dNSIEEPdMBAAdKWAETdNYETdTEUAENdSOTdYUWOQdKEUMdRAEMdTEEEEdNGKEUAEQ",
      "dMFEUAEdNSIEETdKEUPdPIPdPEUTAEdNYUEdLETdNGGAAMdMFIEEdNGGWAENdYUOM",
      "dPAPdYUOPdNDAMdNTEUMdSUAEdKUNdNGGEUXdNGKIEEdTUOTdMEUNdKUQdNSUMdTEUN",
      "dMAENJETdNGGAPdLEUMdNGGUOMdNSHUTdNJUEQdGHEUAEdKUdREN OLDdTAEdTOQdNYI",
      "dRIIdLEEEEdMEEEEdMdSUUdMUdSHIIdSHEUXdKYEEdNUdSHUdNTEEdPEEdNIdSHOQ",
      "dPUQdMVOPdLOQdREN MUCHdTIdNTUUdMBAA SEVENdSAQdFAAcPHASE-E NDAPdTOON",
      "dMBEUMdLAPdVOMdLOONdPAAdSOMdRAQdNSHUOPdNDUNdPUAEdTAMdNGKAdKPEUXdWUO",
      "dSEEdNGGEUAETdPAAMdTOOdKUOPdLOMdNSHIEEdNGOPdMAEMdNGKEUXdNGOQdNSHUE",
      "dRIMGBAdNJEUXdPEEMdSAAdNGGURAEdMGBAdGHEUXdNGKEUAEMdNJAEMLIdMAPdLOOT",
      "dNGGEEEEdNDIQdTAEN NTEUMdSETdPUMdNDAA SOFTNESSdNGGUAESHAE NYAMdYIEE",
      "dGHEUNdTUAEdYEUAEdPOdTUMAEdKEUAEdSUAENdTEUAEQdVEUAEdWEUXdLAAMdPU",
      "dTAAQdGHAAMAEdNGEUREUTdSHEUAEQdMGBENdMBEEdNZAQdNKOMdGBETdTUMdKUET",
      "dYAPdNYI CLEAVERdYITdMFEUQdNDIAQdPIEEQdYUEQdLEUAEMdFUEdGBEUXdNGKUP",
      "dKETdMAEdNGKAAMIdGHETdFAdNTUMdPEUTdYEUMdNGGEUAEdNYI BETWEENdNZUQ",
      "dPOONdMIEEdFUETdNAEdMUAEdGHEUAEdFU IdMVIdPUAQdNGKUMdKUTdPIETdNTAP",
      "dYEUAETdNGGUPdPA PEOPLEdFU CALLdFOMdNJEEdAdTOQdOdIdLAQdPA PLURALdTAA",
      "dTAQdNDAA MY HOUSEdSHIQdYEUXdNGUAEdYUAENdYOQ SWIMMINGeCOVERdYUQdYUN",
      "dKEUXdPEUXdNJEE EPOCHdPUEdWUEdFEEdVEEdLUdMIdREUXdRAEdNGUAETdNGAdSHO",
      "dSHOQdFU REMEDYdNAdPIdLOQdKOdMENdMAdMAQdTEUdKIdMONdTENdFAQdGHOM",
      "cPHASE-F KAdUdKUdEEdREEdTAEdNYIdLAdRIIdRIEEdMEEEEdTAAdNDAAdNJAEMdM",
      "dSUUdSHIIdSIdSEUXdKYEEdKETdNUAEdNUdNJUAEdYOQdSHUdYAdNSHAdPEUXdNTEE",
      "dWUEdPEEdRUdNIdREUXdKENdNGKWAENdNGGAdSHOdPUAEdFOMdWAdLIdLOQdKOdMBEN",
      "dRENdMAdMOdMBAAdTETdKPAdSAMBAdVUEQ"]⟩,
    ⟨0x16A40, [
      "aMRO LETTER TAcNGIcYOcMIMcBAcDAcAcPHIcKHAIcHAOcDAIcCHUcKEAAEcOLcMAEM",
      "cNINcPAcOOcOcROcSHIcTHEAcEAcWAcEcKOcLANcLAcHAIcRIcTEK"]⟩,
    ⟨0x16A60, [
      "aMRO DIGIT ZEROcONEcTWOcTHREEcFOURcFIVEcSIXcSEVENcEIGHTcNINE"]⟩,
    ⟨0x16A6E, [
      "aMRO DANDAbDOUBLE DANDAaTANGSA LETTER OZcOCcOQcOXcAZcACcAQcAXcVZcVC",
      "cVQcVXcEZcECcEQcEXcIZcICcIQcIXcUZcUCcUQcUXcAWZcAWCcAWQcAWXcUIZcUIC",
      "cUIQcUIXcFINAL NGcLONG UEXcSHORT UEZdAWXcUECcUEZcUEQcUEXcUIUZcUIUC",
      "cUIUQcUIUXcMZcMCcMQcMXcKAcKHAcGAcNGAcSAcYAcWAcPAcNYAcPHAcBAcMAcNAcHA",
      "cLAcHTAcTAcDAcRAcNHAcSHAcCAcTSAcGHAcHTTAcTHAcXAcFAcDHAcCHAcZA"]⟩,
    ⟨0x16AC0, [
      "aTANGSA DIGIT ZEROcONEcTWOcTHREEcFOURcFIVEcSIXcSEVENcEIGHTcNINE"]⟩,
    ⟨0x16AD0, [
      "aBASSA VAH LETTER ENNIdKAdSEdFAdMBEdYIEdGAHdDHIIdKPAHdJOdHWAHdWAdZO",
      "dGBUdDOdCEdUWUdTOdBAdVUdYEINdPAdWADDAdAdOdOOdUdEEdEdI"]⟩,
    ⟨0x16AF0, [
      "aBASSA VAH COMBINING HIGH TONEdLOW TONEdMID TONEdLOW-MID TONE",
      "dHIGH-LOW TONEcFULL STOP"]⟩,
    ⟨0x16B00, [
      "aPAHAWH HMONG VOWEL KEEBdKEEVdKIBdKIVdKAUBdKAUVdKUBdKUVdKEBdKEVdKAIB",
      "dKAIVdKOOBdKOOVdKAWBdKAWVdKUABdKUAVdKOBdKOVdKIABdKIAVdKABdKAVdKWB",
      "dKWVdKAABdKAAVcCONSONANT VAUdNTSAUdLAUdHAUdNLAUdRAUdNKAUdQHAUdYAU",
      "dHLAUdMAUdCHAUdNCHAUdHNAUdPLHAUdNTHAUdNAUdAUdXAUdCAUcMARK CIM TUBeSO",
      "eKESeKHAVeSUAMeHOMeTAUMcSIGN VOS THOMeTSHAB CEEBdCIM CHEEMdVOS THIAB",
      "eFEEMdXYEEM NTXIVeRHOeTOVeFAIBdVOS SEEVdMEEJ SUABdVOS NRUAdIB YAM",
      "dXAUSdCIM TSOV ROG"]⟩,
    ⟨0x16B50, [
      "aPAHAWH HMONG DIGIT ZEROdONEdTWOdTHREEdFOURdFIVEdSIXdSEVENdEIGHT",
      "dNINE"]⟩,
    ⟨0x16B5B, [
      "aPAHAWH HMONG NUMBER TENSdHUNDREDSdTEN THOUSANDSdMILLIONS",
      "dHUNDRED MILLIONSdTEN BILLIONSdTRILLIONS"]⟩,
    ⟨0x16B63, [
      "aPAHAWH HMONG SIGN VOS LUBdXYOOdHLIdTHIRD-STAGE HLIdZWJ THAJdHNUB",
      "dNQIGdXIABdNTUJdAVdTXHEEJ CEEVdMEEJ TSEEBdTAUdLOSdMUS",
      "dCIM HAIS LUS NTOG NTOGeCUAM TSHOOJeTXWVfCHWVePUB DAWBeNRES TOS"]⟩,
    ⟨0x16B7D, [
      "aPAHAWH HMONG CLAN SIGN TSHEEJeYEEGeLISeLAUJeXYOOJeKOOeHAWJeMUAS",
      "eTHOJeTSABePHABeKHABeHAMeVAJeFAJeYAJeTSWBeKWMeVWJ"]⟩,
    ⟨0x16E40, [
      "aMEDEFAIDRIN CAPITAL LETTER MdSdVdWdATIUdZdKPdPdTdGdFdIdKdAdJdEdBdC",
      "dUdYUdLdQdHPdNYdXdDdOEdNdRdOdAIdYbSMALL LETTER MdSdVdWdATIUdZdKPdPdT",
      "dGdFdIdKdAdJdEdBdCdUdYUdLdQdHPdNYdXdDdOEdNdRdOdAIdYbDIGIT ZEROcONE",
      "cTWOcTHREEcFOURcFIVEcSIXcSEVENcEIGHTcNINEbNUMBER TENcELEVENcTWELVE",
      "cTHIRTEENcFOURTEENcFIFTEENcSIXTEENcSEVENTEENcEIGHTEENcNINETEEN",
      "bDIGIT ONE ALTERNATE FORMcTWO ALTERNATE FORMcTHREE ALTERNATE FORM",
      "bCOMMAbFULL STOPbSYMBOL AIVAbEXCLAMATION OH"]⟩,
    ⟨0x16F00, [
      "aMIAO LETTER PAcBAcYI PAcPLAcMAcMHAcARCHAIC MAcFAcVAcVFAcTAcDA",
      "cYI TTAdTAcTTAcDDAcNAcNHAcYI NNAcARCHAIC NAcNNAcNNHAcLAcLYAcLHAcLHYA",
      "cTLHAcDLHAcTLHYAcDLHYAcKAcGAcYI KAcQAcQGAcNGAcNGHAcARCHAIC NGAcHAcXA",
      "cGHAcGHHAcTSSAcDZZAcNYAcNYHAcTSHAcDZHAcYI TSHAdDZHAcREFORMED TSHA",
      "cSHAcSSAcZHAcZSHAcTSAcDZAcYI TSAcSAcZAcZSAcZZAcZZSAcARCHAIC ZZAcZZYA",
      "cZZSYAcWAcAHcHHAcBRIcSYIcDZYIcTEcTSEcRTE"]⟩,
    ⟨0x16F4F, [
      "aMIAO SIGN CONSONANT MODIFIER BARbLETTER NASALIZATION",
      "bSIGN ASPIRATIONcREFORMED VOICINGdASPIRATIONbVOWEL SIGN AdAAdAHHdAN",
      "dANGdOdOOdWOdWdEdENdENGdOEYdIdIAdIANdIANGdIOdIEdIIdIUdINGdUdUAdUAN",
      "dUANGdUUdUEIdUNGdYdYIdAEdAEEdERRdROUNDED ERRdERdROUNDED ERdAIdEIdAU",
      "dOUdNdNGdUOGdYUIdOGdOERdVWdIGdEAdIONGdUI"]⟩,
    ⟨0x16F8F, [
      "aMIAO TONE RIGHTcTOP RIGHTcABOVEcBELOWbLETTER TONE-2cTONE-3cTONE-4",
      "cTONE-5cTONE-6cTONE-7cTONE-8cREFORMED TONE-1dTONE-2dTONE-4dTONE-5",
      "dTONE-6dTONE-8"]⟩,
    ⟨0x16FE0, [
      "aTANGUT ITERATION MARKaNUSHU ITERATION MARKaOLD CHINESE HOOK MARK",
      "cITERATION MARKaKHITAN SMALL SCRIPT FILLER"]⟩,
    ⟨0x16FF0, [
      "aVIETNAMESE ALTERNATE READING MARK CAeNHAY"]⟩,
    ⟨0x18800, [
      "aTANGUT COMPONENT-001bCOMPONENT-002bCOMPONENT-003bCOMPONENT-004",
      "bCOMPONENT-005bCOMPONENT-006bCOMPONENT-007bCOMPONENT-008",
      "bCOMPONENT-009bCOMPONENT-010bCOMPONENT-011bCOMPONENT-012",
      "bCOMPONENT-013bCOMPONENT-014bCOMPONENT-015bCOMPONENT-016",
      "bCOMPONENT-017bCOMPONENT-018bCOMPONENT-019bCOMPONENT-020",
      "bCOMPONENT-021bCOMPONENT-022bCOMPONENT-023bCOMPONENT-024",
      "bCOMPONENT-025bCOMPONENT-026bCOMPONENT-027bCOMPONENT-028",
      "bCOMPONENT-029bCOMPONENT-030bCOMPONENT-031bCOMPONENT-032",
      "bCOMPONENT-033bCOMPONENT-034bCOMPONENT-035bCOMPONENT-036",
      "bCOMPONENT-037bCOMPONENT-038bCOMPONENT-039bCOMPONENT-040",
      "bCOMPONENT-041bCOMPONENT-042bCOMPONENT-043bCOMPONENT-044",
      "bCOMPONENT-045bCOMPONENT-046bCOMPONENT-047bCOMPONENT-048",
      "bCOMPONENT-049bCOMPONENT-050bCOMPONENT-051bCOMPONENT-052",
      "bCOMPONENT-053bCOMPONENT-054bCOMPONENT-055bCOMPONENT-056",
      "bCOMPONENT-057bCOMPONENT-058bCOMPONENT-059bCOMPONENT-060",
      "bCOMPONENT-061bCOMPONENT-062bCOMPONENT-063bCOMPONENT-064",
      "bCOMPONENT-065bCOMPONENT-066bCOMPONENT-067bCOMPONENT-068",
      "bCOMPONENT-069bCOMPONENT-070bCOMPONENT-071bCOMPONENT-072",
      "bCOMPONENT-073bCOMPONENT-074bCOMPONENT-075bCOMPONENT-076",
      "bCOMPONENT-077bCOMPONENT-078bCOMPONENT-079bCOMPONENT-080",
      "bCOMPONENT-081bCOMPONENT-082bCOMPONENT-083bCOMPONENT-084",
      "bCOMPONENT-085bCOMPONENT-086bCOMPONENT-087bCOMPONENT-088",
      "bCOMPONENT-089bCOMPONENT-090bCOMPONENT-091bCOMPONENT-092",
      "bCOMPONENT-093bCOMPONENT-094bCOMPONENT-095bCOMPONENT-096",
      "bCOMPONENT-097bCOMPONENT-098bCOMPONENT-099bCOMPONENT-100",
      "bCOMPONENT-101bCOMPONENT-102bCOMPONENT-103bCOMPONENT-104",
      "bCOMPONENT-105bCOMPONENT-106bCOMPONENT-107bCOMPONENT-108",
      "bCOMPONENT-109bCOMPONENT-110bCOMPONENT-111bCOMPONENT-112",
      "bCOMPONENT-113bCOMPONENT-114bCOMPONENT-115bCOMPONENT-116",
      "bCOMPONENT-117bCOMPONENT-118bCOMPONENT-119bCOMPONENT-120",
      "bCOMPONENT-121bCOMPONENT-122bCOMPONENT-123bCOMPONENT-124",
      "bCOMPONENT-125bCOMPONENT-126bCOMPONENT-127bCOMPONENT-128",
      "bCOMPONENT-129bCOMPONENT-130bCOMPONENT-131bCOMPONENT-132",
      "bCOMPONENT-133bCOMPONENT-134bCOMPONENT-135bCOMPONENT-136",
      "bCOMPONENT-137bCOMPONENT-138bCOMPONENT-139bCOMPONENT-140",
      "bCOMPONENT-141bCOMPONENT-142bCOMPONENT-143bCOMPONENT-144",
      "bCOMPONENT-145bCOMPONENT-146bCOMPONENT-147bCOMPONENT-148",
      "bCOMPONENT-149bCOMPONENT-150bCOMPONENT-151bCOMPONENT-152",
      "bCOMPONENT-153bCOMPONENT-154bCOMPONENT-155bCOMPONENT-156",
      "bCOMPONENT-157bCOMPONENT-158bCOMPONENT-159bCOMPONENT-160",
      "bCOMPONENT-161bCOMPONENT-162bCOMPONENT-163bCOMPONENT-164",
      "bCOMPONENT-165bCOMPONENT-166bCOMPONENT-167bCOMPONENT-168",
      "bCOMPONENT-169bCOMPONENT-170bCOMPONENT-171bCOMPONENT-172",
      "bCOMPONENT-173bCOMPONENT-174bCOMPONENT-175bCOMPONENT-176",
      "bCOMPONENT-177bCOMPONENT-178bCOMPONENT-179bCOMPONENT-180",
      "bCOMPONENT-181bCOMPONENT-182bCOMPONENT-183bCOMPONENT-184",
      "bCOMPONENT-185bCOMPONENT-186bCOMPONENT-187bCOMPONENT-188",
      "bCOMPONENT-189bCOMPONENT-190bCOMPONENT-191bCOMPONENT-192",
      "bCOMPONENT-193bCOMPONENT-194bCOMPONENT-195bCOMPONENT-196",
      "bCOMPONENT-197bCOMPONENT-198bCOMPONENT-199bCOMPONENT-200",
      "bCOMPONENT-201bCOMPONENT-202bCOMPONENT-203bCOMPONENT-204",
      "bCOMPONENT-205bCOMPONENT-206bCOMPONENT-207bCOMPONENT-208",
      "bCOMPONENT-209bCOMPONENT-210bCOMPONENT-211bCOMPONENT-212",
      "bCOMPONENT-213bCOMPONENT-214bCOMPONENT-215bCOMPONENT-216",
      "bCOMPONENT-217bCOMPONENT-218bCOMPONENT-219bCOMPONENT-220",
      "bCOMPONENT-221bCOMPONENT-222bCOMPONENT-223bCOMPONENT-224",
      "bCOMPONENT-225bCOMPONENT-226bCOMPONENT-227bCOMPONENT-228",
      "bCOMPONENT-229bCOMPONENT-230bCOMPONENT-231bCOMPONENT-232",
      "bCOMPONENT-233bCOMPONENT-234bCOMPONENT-235bCOMPONENT-236",
      "bCOMPONENT-237bCOMPONENT-238bCOMPONENT-239bCOMPONENT-240",
      "bCOMPONENT-241bCOMPONENT-242bCOMPONENT-243bCOMPONENT-244",
      "bCOMPONENT-245bCOMPONENT-246bCOMPONENT-247bCOMPONENT-248",
      "bCOMPONENT-249bCOMPONENT-250bCOMPONENT-251bCOMPONENT-252",
      "bCOMPONENT-253bCOMPONENT-254bCOMPONENT-255bCOMPONENT-256",
      "bCOMPONENT-257bCOMPONENT-258bCOMPONENT-259bCOMPONENT-260",
      "bCOMPONENT-261bCOMPONENT-262bCOMPONENT-263bCOMPONENT-264",
      "bCOMPONENT-265bCOMPONENT-266bCOMPONENT-267bCOMPONENT-268",
      "bCOMPONENT-269bCOMPONENT-270bCOMPONENT-271bCOMPONENT-272",
      "bCOMPONENT-273bCOMPONENT-274bCOMPONENT-275bCOMPONENT-276",
      "bCOMPONENT-277bCOMPONENT-278bCOMPONENT-279bCOMPONENT-280",
      "bCOMPONENT-281bCOMPONENT-282bCOMPONENT-283bCOMPONENT-284",
      "bCOMPONENT-285bCOMPONENT-286bCOMPONENT-287bCOMPONENT-288",
      "bCOMPONENT-289bCOMPONENT-290bCOMPONENT-291bCOMPONENT-292",
      "bCOMPONENT-293bCOMPONENT-294bCOMPONENT-295bCOMPONENT-296",
      "bCOMPONENT-297bCOMPONENT-298bCOMPONENT-299bCOMPONENT-300",
      "bCOMPONENT-301bCOMPONENT-302bCOMPONENT-303bCOMPONENT-304",
      "bCOMPONENT-305bCOMPONENT-306bCOMPONENT-307bCOMPONENT-308",
      "bCOMPONENT-309bCOMPONENT-310bCOMPONENT-311bCOMPONENT-312",
      "bCOMPONENT-313bCOMPONENT-314bCOMPONENT-315bCOMPONENT-316",
      "bCOMPONENT-317bCOMPONENT-318bCOMPONENT-319bCOMPONENT-320",
      "bCOMPONENT-321bCOMPONENT-322bCOMPONENT-323bCOMPONENT-324",
      "bCOMPONENT-325bCOMPONENT-326bCOMPONENT-327bCOMPONENT-328",
      "bCOMPONENT-329bCOMPONENT-330bCOMPONENT-331bCOMPONENT-332",
      "bCOMPONENT-333bCOMPONENT-334bCOMPONENT-335bCOMPONENT-336",
      "bCOMPONENT-337bCOMPONENT-338bCOMPONENT-339bCOMPONENT-340",
      "bCOMPONENT-341bCOMPONENT-342bCOMPONENT-343bCOMPONENT-344",
      "bCOMPONENT-345bCOMPONENT-346bCOMPONENT-347bCOMPONENT-348",
      "bCOMPONENT-349bCOMPONENT-350bCOMPONENT-351bCOMPONENT-352",
      "bCOMPONENT-353bCOMPONENT-354bCOMPONENT-355bCOMPONENT-356",
      "bCOMPONENT-357bCOMPONENT-358bCOMPONENT-359bCOMPONENT-360",
      "bCOMPONENT-361bCOMPONENT-362bCOMPONENT-363bCOMPONENT-364",
      "bCOMPONENT-365bCOMPONENT-366bCOMPONENT-367bCOMPONENT-368",
      "bCOMPONENT-369bCOMPONENT-370bCOMPONENT-371bCOMPONENT-372",
      "bCOMPONENT-373bCOMPONENT-374bCOMPONENT-375bCOMPONENT-376",
      "bCOMPONENT-377bCOMPONENT-378bCOMPONENT-379bCOMPONENT-380",
      "bCOMPONENT-381bCOMPONENT-382bCOMPONENT-383bCOMPONENT-384",
      "bCOMPONENT-385bCOMPONENT-386bCOMPONENT-387bCOMPONENT-388",
      "bCOMPONENT-389bCOMPONENT-390bCOMPONENT-391bCOMPONENT-392",
      "bCOMPONENT-393bCOMPONENT-394bCOMPONENT-395bCOMPONENT-396",
      "bCOMPONENT-397bCOMPONENT-398bCOMPONENT-399bCOMPONENT-400",
      "bCOMPONENT-401bCOMPONENT-402bCOMPONENT-403bCOMPONENT-404",
      "bCOMPONENT-405bCOMPONENT-406bCOMPONENT-407bCOMPONENT-408",
      "bCOMPONENT-409bCOMPONENT-410bCOMPONENT-411bCOMPONENT-412",
      "bCOMPONENT-413bCOMPONENT-414bCOMPONENT-415bCOMPONENT-416",
      "bCOMPONENT-417bCOMPONENT-418bCOMPONENT-419bCOMPONENT-420",
      "bCOMPONENT-421bCOMPONENT-422bCOMPONENT-423bCOMPONENT-424",
      "bCOMPONENT-425bCOMPONENT-426bCOMPONENT-427bCOMPONENT-428",
      "bCOMPONENT-429bCOMPONENT-430bCOMPONENT-431bCOMPONENT-432",
      "bCOMPONENT-433bCOMPONENT-434bCOMPONENT-435bCOMPONENT-436",
      "bCOMPONENT-437bCOMPONENT-438bCOMPONENT-439bCOMPONENT-440",
      "bCOMPONENT-441bCOMPONENT-442bCOMPONENT-443bCOMPONENT-444",
      "bCOMPONENT-445bCOMPONENT-446bCOMPONENT-447bCOMPONENT-448",
      "bCOMPONENT-449bCOMPONENT-450bCOMPONENT-451bCOMPONENT-452",
      "bCOMPONENT-453bCOMPONENT-454bCOMPONENT-455bCOMPONENT-456",
      "bCOMPONENT-457bCOMPONENT-458bCOMPONENT-459bCOMPONENT-460",
      "bCOMPONENT-461bCOMPONENT-462bCOMPONENT-463bCOMPONENT-464",
      "bCOMPONENT-465bCOMPONENT-466bCOMPONENT-467bCOMPONENT-468",
      "bCOMPONENT-469bCOMPONENT-470bCOMPONENT-471bCOMPONENT-472",
      "bCOMPONENT-473bCOMPONENT-474bCOMPONENT-475bCOMPONENT-476",
      "bCOMPONENT-477bCOMPONENT-478bCOMPONENT-479bCOMPONENT-480",
      "bCOMPONENT-481bCOMPONENT-482bCOMPONENT-483bCOMPONENT-484",
      "bCOMPONENT-485bCOMPONENT-486bCOMPONENT-487bCOMPONENT-488",
      "bCOMPONENT-489bCOMPONENT-490bCOMPONENT-491bCOMPONENT-492",
      "bCOMPONENT-493bCOMPONENT-494bCOMPONENT-495bCOMPONENT-496",
      "bCOMPONENT-497bCOMPONENT-498bCOMPONENT-499bCOMPONENT-500",
      "bCOMPONENT-501bCOMPONENT-502bCOMPONENT-503bCOMPONENT-504",
      "bCOMPONENT-505bCOMPONENT-506bCOMPONENT-507bCOMPONENT-508",
      "bCOMPONENT-509bCOMPONENT-510bCOMPONENT-511bCOMPONENT-512",
      "bCOMPONENT-513bCOMPONENT-514bCOMPONENT-515bCOMPONENT-516",
      "bCOMPONENT-517bCOMPONENT-518bCOMPONENT-519bCOMPONENT-520",
      "bCOMPONENT-521bCOMPONENT-522bCOMPONENT-523bCOMPONENT-524",
      "bCOMPONENT-525bCOMPONENT-526bCOMPONENT-527bCOMPONENT-528",
      "bCOMPONENT-529bCOMPONENT-530bCOMPONENT-531bCOMPONENT-532",
      "bCOMPONENT-533bCOMPONENT-534bCOMPONENT-535bCOMPONENT-536",
      "bCOMPONENT-537bCOMPONENT-538bCOMPONENT-539bCOMPONENT-540",
      "bCOMPONENT-541bCOMPONENT-542bCOMPONENT-543bCOMPONENT-544",
      "bCOMPONENT-545bCOMPONENT-546bCOMPONENT-547bCOMPONENT-548",
      "bCOMPONENT-549bCOMPONENT-550bCOMPONENT-551bCOMPONENT-552",
      "bCOMPONENT-553bCOMPONENT-554bCOMPONENT-555bCOMPONENT-556",
      "bCOMPONENT-557bCOMPONENT-558bCOMPONENT-559bCOMPONENT-560",
      "bCOMPONENT-561bCOMPONENT-562bCOMPONENT-563bCOMPONENT-564",
      "bCOMPONENT-565bCOMPONENT-566bCOMPONENT-567bCOMPONENT-568",
      "bCOMPONENT-569bCOMPONENT-570bCOMPONENT-571bCOMPONENT-572",
      "bCOMPONENT-573bCOMPONENT-574bCOMPONENT-575bCOMPONENT-576",
      "bCOMPONENT-577bCOMPONENT-578bCOMPONENT-579bCOMPONENT-580",
      "bCOMPONENT-581bCOMPONENT-582bCOMPONENT-583bCOMPONENT-584",
      "bCOMPONENT-585bCOMPONENT-586bCOMPONENT-587bCOMPONENT-588",
      "bCOMPONENT-589bCOMPONENT-590bCOMPONENT-591bCOMPONENT-592",
      "bCOMPONENT-593bCOMPONENT-594bCOMPONENT-595bCOMPONENT-596",
      "bCOMPONENT-597bCOMPONENT-598bCOMPONENT-599bCOMPONENT-600",
      "bCOMPONENT-601bCOMPONENT-602bCOMPONENT-603bCOMPONENT-604",
      "bCOMPONENT-605bCOMPONENT-606bCOMPONENT-607bCOMPONENT-608",
      "bCOMPONENT-609bCOMPONENT-610bCOMPONENT-611bCOMPONENT-612",
      "bCOMPONENT-613bCOMPONENT-614bCOMPONENT-615bCOMPONENT-616",
      "bCOMPONENT-617bCOMPONENT-618bCOMPONENT-619bCOMPONENT-620",
      "bCOMPONENT-621bCOMPONENT-622bCOMPONENT-623bCOMPONENT-624",
      "bCOMPONENT-625bCOMPONENT-626bCOMPONENT-627bCOMPONENT-628",
      "bCOMPONENT-629bCOMPONENT-630bCOMPONENT-631bCOMPONENT-632",
      "bCOMPONENT-633bCOMPONENT-634bCOMPONENT-635bCOMPONENT-636",
      "bCOMPONENT-637bCOMPONENT-638bCOMPONENT-639bCOMPONENT-640",
      "bCOMPONENT-641bCOMPONENT-642bCOMPONENT-643bCOMPONENT-644",
      "bCOMPONENT-645bCOMPONENT-646bCOMPONENT-647bCOMPONENT-648",
      "bCOMPONENT-649bCOMPONENT-650bCOMPONENT-651bCOMPONENT-652",
      "bCOMPONENT-653bCOMPONENT-654bCOMPONENT-655bCOMPONENT-656",
      "bCOMPONENT-657bCOMPONENT-658bCOMPONENT-659bCOMPONENT-660",
      "bCOMPONENT-661bCOMPONENT-662bCOMPONENT-663bCOMPONENT-664",
      "bCOMPONENT-665bCOMPONENT-666bCOMPONENT-667bCOMPONENT-668",
      "bCOMPONENT-669bCOMPONENT-670bCOMPONENT-671bCOMPONENT-672",
      "bCOMPONENT-673bCOMPONENT-674bCOMPONENT-675bCOMPONENT-676",
      "bCOMPONENT-677bCOMPONENT-678bCOMPONENT-679bCOMPONENT-680",
      "bCOMPONENT-681bCOMPONENT-682bCOMPONENT-683bCOMPONENT-684",
      "bCOMPONENT-685bCOMPONENT-686bCOMPONENT-687bCOMPONENT-688",
      "bCOMPONENT-689bCOMPONENT-690bCOMPONENT-691bCOMPONENT-692",
      "bCOMPONENT-693bCOMPONENT-694bCOMPONENT-695bCOMPONENT-696",
      "bCOMPONENT-697bCOMPONENT-698bCOMPONENT-699bCOMPONENT-700",
      "bCOMPONENT-701bCOMPONENT-702bCOMPONENT-703bCOMPONENT-704",
      "bCOMPONENT-705bCOMPONENT-706bCOMPONENT-707bCOMPONENT-708",
      "bCOMPONENT-709bCOMPONENT-710bCOMPONENT-711bCOMPONENT-712",
      "bCOMPONENT-713bCOMPONENT-714bCOMPONENT-715bCOMPONENT-716",
      "bCOMPONENT-717bCOMPONENT-718bCOMPONENT-719bCOMPONENT-720",
      "bCOMPONENT-721bCOMPONENT-722bCOMPONENT-723bCOMPONENT-724",
      "bCOMPONENT-725bCOMPONENT-726bCOMPONENT-727bCOMPONENT-728",
      "bCOMPONENT-729bCOMPONENT-730bCOMPONENT-731bCOMPONENT-732",
      "bCOMPONENT-733bCOMPONENT-734bCOMPONENT-735bCOMPONENT-736",
      "bCOMPONENT-737bCOMPONENT-738bCOMPONENT-739bCOMPONENT-740",
      "bCOMPONENT-741bCOMPONENT-742bCOMPONENT-743bCOMPONENT-744",
      "bCOMPONENT-745bCOMPONENT-746bCOMPONENT-747bCOMPONENT-748",
      "bCOMPONENT-749bCOMPONENT-750bCOMPONENT-751bCOMPONENT-752",
      "bCOMPONENT-753bCOMPONENT-754bCOMPONENT-755bCOMPONENT-756",
      "bCOMPONENT-757bCOMPONENT-758bCOMPONENT-759bCOMPONENT-760",
      "bCOMPONENT-761bCOMPONENT-762bCOMPONENT-763bCOMPONENT-764",
      "bCOMPONENT-765bCOMPONENT-766bCOMPONENT-767bCOMPONENT-768"]⟩,
    ⟨0x1AFF0, [
      "aKATAKANA LETTER MINNAN TONE-2dTONE-3dTONE-4dTONE-5"]⟩,
    ⟨0x1AFF5, [
      "aKATAKANA LETTER MINNAN TONE-7dTONE-8dNASALIZED TONE-1eTONE-2eTONE-3",
      "eTONE-4eTONE-5"]⟩,
    ⟨0x1AFFD, [
      "aKATAKANA LETTER MINNAN NASALIZED TONE-7eTONE-8"]⟩,
    ⟨0x1B000, [
      "aKATAKANA LETTER ARCHAIC EaHIRAGANA LETTER ARCHAIC YE",
      "aHENTAIGANA LETTER A-1cA-2cA-3cA-WOcI-1cI-2cI-3cI-4cU-1cU-2cU-3cU-4",
      "cU-5cE-2cE-3cE-4cE-5cE-6cO-1cO-2cO-3cKA-1cKA-2cKA-3cKA-4cKA-5cKA-6",
      "cKA-7cKA-8cKA-9cKA-10cKA-11cKA-KEcKI-1cKI-2cKI-3cKI-4cKI-5cKI-6cKI-7",
      "cKI-8cKU-1cKU-2cKU-3cKU-4cKU-5cKU-6cKU-7cKE-1cKE-2cKE-3cKE-4cKE-5",
      "cKE-6cKO-1cKO-2cKO-3cKO-KIcSA-1cSA-2cSA-3cSA-4cSA-5cSA-6cSA-7cSA-8",
      "cSI-1cSI-2cSI-3cSI-4cSI-5cSI-6cSU-1cSU-2cSU-3cSU-4cSU-5cSU-6cSU-7",
      "cSU-8cSE-1cSE-2cSE-3cSE-4cSE-5cSO-1cSO-2cSO-3cSO-4cSO-5cSO-6cSO-7",
      "cTA-1cTA-2cTA-3cTA-4cTI-1cTI-2cTI-3cTI-4cTI-5cTI-6cTI-7cTU-1cTU-2",
      "cTU-3cTU-4cTU-TOcTE-1cTE-2cTE-3cTE-4cTE-5cTE-6cTE-7cTE-8cTE-9cTO-1",
      "cTO-2cTO-3cTO-4cTO-5cTO-6cTO-RAcNA-1cNA-2cNA-3cNA-4cNA-5cNA-6cNA-7",
      "cNA-8cNA-9cNI-1cNI-2cNI-3cNI-4cNI-5cNI-6cNI-7cNI-TEcNU-1cNU-2cNU-3",
      "cNE-1cNE-2cNE-3cNE-4cNE-5cNE-6cNE-KOcNO-1cNO-2cNO-3cNO-4cNO-5cHA-1",
      "cHA-2cHA-3cHA-4cHA-5cHA-6cHA-7cHA-8cHA-9cHA-10cHA-11cHI-1cHI-2cHI-3",
      "cHI-4cHI-5cHI-6cHI-7cHU-1cHU-2cHU-3cHE-1cHE-2cHE-3cHE-4cHE-5cHE-6",
      "cHE-7cHO-1cHO-2cHO-3cHO-4cHO-5cHO-6cHO-7cHO-8cMA-1cMA-2cMA-3cMA-4",
      "cMA-5cMA-6cMA-7cMI-1cMI-2cMI-3cMI-4cMI-5cMI-6cMI-7cMU-1cMU-2cMU-3",
      "cMU-4cME-1cME-2cME-MAcMO-1cMO-2cMO-3cMO-4cMO-5cMO-6cYA-1cYA-2cYA-3",
      "cYA-4cYA-5cYA-YOcYU-1cYU-2cYU-3cYU-4cYO-1cYO-2cYO-3cYO-4cYO-5cYO-6",
      "cRA-1cRA-2cRA-3cRA-4cRI-1cRI-2cRI-3cRI-4cRI-5cRI-6cRI-7cRU-1cRU-2",
      "cRU-3cRU-4cRU-5cRU-6cRE-1cRE-2cRE-3cRE-4cRO-1cRO-2cRO-3cRO-4cRO-5",
      "cRO-6cWA-1cWA-2cWA-3cWA-4cWA-5cWI-1cWI-2cWI-3cWI-4cWI-5cWE-1cWE-2",
      "cWE-3cWE-4cWO-1cWO-2cWO-3cWO-4cWO-5cWO-6cWO-7cN-MU-MO-1cN-MU-MO-2",
      "aHIRAGANA LETTER ARCHAIC WUaKATAKANA LETTER ARCHAIC YIdYEdWU"]⟩,
    ⟨0x1B150, [
      "aHIRAGANA LETTER SMALL WIdWEdWO"]⟩,
    ⟨0x1B164, [
      "aKATAKANA LETTER SMALL WIdWEdWOdN"]⟩,
    ⟨0x1BC00, [
      "aDUPLOYAN LETTER HcXcPcTcFcKcLcBcDcVcGcRcP NcD ScF NcK McR ScTH",
      "cSLOAN DHcDHcKKcSLOAN JcHLcLHcRHcMcNcJcScM NcN McJ McS JcM WITH DOT",
      "cN WITH DOTcJ WITH DOTeDOTS INSIDE AND ABOVEcS WITH DOTfBELOWcM S",
      "cN ScJ ScS ScM N ScN M ScJ M ScS J ScJ S WITH DOTdNeScS TeRdPeRcT S",
      "dR ScWcWHcW RcS NdMcK R ScG R ScS KeRcAcSLOAN OWcOAcOcAOUcIcEcIE",
      "cSHORT IcUIcEEcSLOAN EHcROMANIAN IcSLOAN EEcLONG IcYEcUcEUcXWcU N",
      "cLONG UcROMANIAN UcUHcSLOAN UcOOHcOWcOUcWAcWOcWIcWEIcWOWcNASAL UdOdI",
      "dAcPERNIN ANdAMcSLOAN ENdANdONcVOCALIC M"]⟩,
    ⟨0x1BC70, [
      "aDUPLOYAN AFFIX LEFT HORIZONTAL SECANTcMID HORIZONTAL SECANT",
      "cRIGHT HORIZONTAL SECANTcLOW VERTICAL SECANTcMID VERTICAL SECANT",
      "cHIGH VERTICAL SECANTcATTACHED SECANTdLEFT-TO-RIGHT SECANTdTANGENT",
      "dTAILdE HOOKdI HOOKdTANGENT HOOK"]⟩,
    ⟨0x1BC80, [
      "aDUPLOYAN AFFIX HIGH ACUTEdTIGHT ACUTEdGRAVEdLONG GRAVEdDOTdCIRCLE",
      "dLINEdWAVEdVERTICAL"]⟩,
    ⟨0x1BC90, [
      "aDUPLOYAN AFFIX LOW ACUTEdTIGHT ACUTEdGRAVEdLONG GRAVEdDOTdCIRCLE",
      "dLINEdWAVEdVERTICALdARROW"]⟩,
    ⟨0x1BC9C, [
      "aDUPLOYAN SIGN O WITH CROSSbTHICK LETTER SELECTORbDOUBLE MARK",
      "bPUNCTUATION CHINOOK FULL STOPaSHORTHAND FORMAT LETTER OVERLAP",
      "cCONTINUING OVERLAPcDOWN STEPcUP STEP"]⟩,
    ⟨0x1CF00, [
      "aZNAMENNY COMBINING MARK GORAZDO NIZKO S KRYZHEM ON LEFT",
      "dNIZKO S KRYZHEM ON LEFTdTSATA ON LEFTdGORAZDO NIZKO ON LEFT",
      "dNIZKO ON LEFTdSREDNE ON LEFTdMALO POVYSHE ON LEFTdPOVYSHE ON LEFT",
      "dVYSOKO ON LEFTdMALO POVYSHE S KHOKHLOM ON LEFT",
      "dPOVYSHE S KHOKHLOM ON LEFTdVYSOKO S KHOKHLOM ON LEFT",
      "dGORAZDO NIZKO S KRYZHEM ON RIGHTdNIZKO S KRYZHEM ON RIGHT",
      "dTSATA ON RIGHTdGORAZDO NIZKO ON RIGHTdNIZKO ON RIGHT",
      "dSREDNE ON RIGHTdMALO POVYSHE ON RIGHTdPOVYSHE ON RIGHT",
      "dVYSOKO ON RIGHTdMALO POVYSHE S KHOKHLOM ON RIGHT",
      "dPOVYSHE S KHOKHLOM ON RIGHTdVYSOKO S KHOKHLOM ON RIGHT",
      "dTSATA S KRYZHEMdMALO POVYSHE S KRYZHEMdSTRANNO MALO POVYSHE",
      "dPOVYSHE S KRYZHEMeSTRANNOdVYSOKO S KRYZHEMdMALO POVYSHE STRANNO",
      "dGORAZDO VYSOKOdZELOdONdRAVNOdTIKHAYAdBORZAYAdUDARKAdPODVERTKAdLOMKA",
      "dKUPNAYAdKACHKAdZEVOKdSKOBAdRAZSEKAdKRYZH ON LEFT"]⟩,
    ⟨0x1CF30, [
      "aZNAMENNY COMBINING TONAL RANGE MARK MRACHNOfSVETLOfTRESVETLO",
      "cMARK ZADERZHKAdDEMESTVENNY ZADERZHKAdOTSECHKAdPODCHASHIE",
      "eWITH VERTICAL STROKEdCHASHKAePOLNAYAdOBLACHKOdSOROCHYA NOZHKA",
      "dTOCHKAdDVOETOCHIEcATTACHING VERTICAL OMETcMARK CURVED OMETdKRYZH",
      "cLOWER TONAL RANGE INDICATORbPRIZNAK MODIFIER LEVEL-2dLEVEL-3",
      "dDIRECTION FLIPdKRYZHdROG"]⟩,
    ⟨0x1CF50, [
      "aZNAMENNY NEUME KRYUKdTIKHYcPARAKLITcDVA V CHELNUcKLYUCHcZANOZHEK",
      "cSTOPITSAdS OCHKOMcPEREVODKAdNEPOSTOYANNAYA",
      "cSTOPITSA WITH SOROCHYA NOZHKAcCHELYUSTKAcPALKAcZAPYATAYA",
      "cGOLUBCHIK BORZYdTIKHYdMRACHNYdSVETLYdTRESVETLYcVRAKHIYA PROSTAYA",
      "dMRACHNAYAdSVETLAYAdTRESVETLAYAdKLYUCHEVAYA PROSTAYAeMRACHNAYA",
      "eSVETLAYAeTRESVETLAYAcDOUBLE ZAPYATAYAcREVERSED CHELYUSTKAcDERBITSA",
      "cKHAMILOcCHASHKAcPODCHASHIEcSKAMEYTSA MRACHNAYAdSVETLAYAdTRESVETLAYA",
      "dTIKHAYAcDEMESTVENNY KLYUCHcSKAMEYTSA KLYUCHEVAYA SVETLAYA",
      "dKLYUCHENEPOSTOYANNAYAdKLYUCHEVAYA TIKHAYAdDVOECHELNAYA PROSTAYA",
      "eSVETLAYAeNEPOSTOYANNAYAeKLYUCHEVAYAcSLOZHITIEdS ZAPYATOYdZAKRYTOE",
      "dS KRYZHEMcKRYZHcROGcFITAcKOBYLAcZMEYTSAcSTATYAdS ZAPYATOYeKRYZHEM",
      "eZAPYATOY I KRYZHEMeKRYZHEM I ZAPYATOYdZAKRYTAYAeS ZAPYATOYdS ROGOM",
      "eDVUMYA ZAPYATYMIeZAPYATOY I PODCHASHIEMcPOLKULIZMY",
      "cSTATYA NEPOSTOYANNAYAcSTRELA PROSTAYAdMRACHNOTIKHAYAdKRYZHEVAYA",
      "dPOLUPOVODNAYAdPOVODNAYAdNEPOSTOYANNAYAdKLYUCHEPOVODNAYA",
      "dKLYUCHENEPOSTOYANNAYAdTIKHAYA PUTNAYAdDVOECHELNAYA",
      "dDVOECHELNOKRYZHEVAYAdDVOECHELNOPOVODNAYAdDVOECHELNAYA KLYUCHEVAYA",
      "dDVOECHELNOPOVODNAYA KLYUCHEVAYAdGROMNAYA WITH SINGLE ZAPYATAYA",
      "dGROMOPOVODNAYA WITH SINGLE ZAPYATAYAdGROMNAYAdGROMOPOVODNAYA",
      "eWITH DOUBLE ZAPYATAYAdGROMOKRYZHEVAYAePOVODNAYAcMECHIKdPOVODNY",
      "dKLYUCHEVOYdKLYUCHEPOVODNYdKLYUCHENEPOSTOYANNYcSTRELA TRYASOGLASNAYA",
      "dTRYASOPOVODNAYAdTRYASOSTRELNAYAcOSOKAdSVETLAYAdTRESVETLAYA",
      "dKRYUKOVAYA SVETLAYAdKLYUCHEVAYA SVETLAYAeNEPOSTOYANNAYA",
      "cSTRELA KRYUKOVAYAePOVODNAYAeGROMNAYA WITH SINGLE ZAPYATAYA",
      "eGROMOPOVODNAYA WITH SINGLE ZAPYATAYAeGROMNAYAeGROMOPOVODNAYA",
      "fWITH DOUBLE ZAPYATAYAeGROMOKRYZHEVAYAfPOVODNAYAeTRYASKAcKUFISMA",
      "cOBLAKOcDUDAcNEMKAcPAUK"]⟩]

end Text

end LabelPress
