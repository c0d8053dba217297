import LabelPress.Text.Named.Run

/-
  Names of characters: the alphabets and syllabaries up to U+1FFF.

  Key definitions include:
    * `Text.alphabetNames`
-/

namespace LabelPress

namespace Text

/- The names up to U+1FFF. -/
def alphabetNames :
    List NameRun :=
  [
    ⟨0x20, [
      "aSPACEaEXCLAMATION MARKaQUOTATION MARKaNUMBER SIGNaDOLLAR SIGN",
      "aPERCENT SIGNaAMPERSANDaAPOSTROPHEaLEFT PARENTHESIS",
      "aRIGHT PARENTHESISaASTERISKaPLUS SIGNaCOMMAaHYPHEN-MINUSaFULL STOP",
      "aSOLIDUSaDIGIT ZERObONEbTWObTHREEbFOURbFIVEbSIXbSEVENbEIGHTbNINE",
      "aCOLONaSEMICOLONaLESS-THAN SIGNaEQUALS SIGNaGREATER-THAN SIGN",
      "aQUESTION MARKaCOMMERCIAL ATaLATIN CAPITAL LETTER AdBdCdDdEdFdGdHdI",
      "dJdKdLdMdNdOdPdQdRdSdTdUdVdWdXdYdZaLEFT SQUARE BRACKET",
      "aREVERSE SOLIDUSaRIGHT SQUARE BRACKETaCIRCUMFLEX ACCENTaLOW LINE",
      "aGRAVE ACCENTaLATIN SMALL LETTER AdBdCdDdEdFdGdHdIdJdKdLdMdNdOdPdQdR",
      "dSdTdUdVdWdXdYdZaLEFT CURLY BRACKETaVERTICAL LINE",
      "aRIGHT CURLY BRACKETaTILDE"]⟩,
    ⟨0xA0, [
      "aNO-BREAK SPACEaINVERTED EXCLAMATION MARKaCENT SIGNaPOUND SIGN",
      "aCURRENCY SIGNaYEN SIGNaBROKEN BARaSECTION SIGNaDIAERESISaCOPY",
      "RIGHT SIGNaFEMININE ORDINAL INDICATOR",
      "aLEFT-POINTING DOUBLE ANGLE QUOTATION MARKaNOT SIGNaSOFT HYPHEN",
      "aREGISTERED SIGNaMACRONaDEGREE SIGNaPLUS-MINUS SIGNaSUPERSCRIPT TWO",
      "bTHREEaACUTE ACCENTaMICRO SIGNaPILCROW SIGNaMIDDLE DOTaCEDILLA",
      "aSUPERSCRIPT ONEaMASCULINE ORDINAL INDICATOR",
      "aRIGHT-POINTING DOUBLE ANGLE QUOTATION MARK",
      "aVULGAR FRACTION ONE QUARTERdHALFcTHREE QUARTERS",
      "aINVERTED QUESTION MARKaLATIN CAPITAL LETTER A WITH GRAVEfACUTE",
      "fCIRCUMFLEXfTILDEfDIAERESISfRING ABOVEdAEdC WITH CEDILLA",
      "dE WITH GRAVEfACUTEfCIRCUMFLEXfDIAERESISdI WITH GRAVEfACUTE",
      "fCIRCUMFLEXfDIAERESISdETHdN WITH TILDEdO WITH GRAVEfACUTEfCIRCUMFLEX",
      "fTILDEfDIAERESISaMULTIPLICATION SIGN",
      "aLATIN CAPITAL LETTER O WITH STROKEdU WITH GRAVEfACUTEfCIRCUMFLEX",
      "fDIAERESISdY WITH ACUTEdTHORNbSMALL LETTER SHARP SdA WITH GRAVE",
      "fACUTEfCIRCUMFLEXfTILDEfDIAERESISfRING ABOVEdAEdC WITH CEDILLA",
      "dE WITH GRAVEfACUTEfCIRCUMFLEXfDIAERESISdI WITH GRAVEfACUTE",
      "fCIRCUMFLEXfDIAERESISdETHdN WITH TILDEdO WITH GRAVEfACUTEfCIRCUMFLEX",
      "fTILDEfDIAERESISaDIVISION SIGNaLATIN SMALL LETTER O WITH STROKE",
      "dU WITH GRAVEfACUTEfCIRCUMFLEXfDIAERESISdY WITH ACUTEdTHORN",
      "dY WITH DIAERESISbCAPITAL LETTER A WITH MACRON",
      "bSMALL LETTER A WITH MACRONbCAPITAL LETTER A WITH BREVE",
      "bSMALL LETTER A WITH BREVEbCAPITAL LETTER A WITH OGONEK",
      "bSMALL LETTER A WITH OGONEKbCAPITAL LETTER C WITH ACUTE",
      "bSMALL LETTER C WITH ACUTEbCAPITAL LETTER C WITH CIRCUMFLEX",
      "bSMALL LETTER C WITH CIRCUMFLEXbCAPITAL LETTER C WITH DOT ABOVE",
      "bSMALL LETTER C WITH DOT ABOVEbCAPITAL LETTER C WITH CARON",
      "bSMALL LETTER C WITH CARONbCAPITAL LETTER D WITH CARON",
      "bSMALL LETTER D WITH CARONbCAPITAL LETTER D WITH STROKE",
      "bSMALL LETTER D WITH STROKEbCAPITAL LETTER E WITH MACRON",
      "bSMALL LETTER E WITH MACRONbCAPITAL LETTER E WITH BREVE",
      "bSMALL LETTER E WITH BREVEbCAPITAL LETTER E WITH DOT ABOVE",
      "bSMALL LETTER E WITH DOT ABOVEbCAPITAL LETTER E WITH OGONEK",
      "bSMALL LETTER E WITH OGONEKbCAPITAL LETTER E WITH CARON",
      "bSMALL LETTER E WITH CARONbCAPITAL LETTER G WITH CIRCUMFLEX",
      "bSMALL LETTER G WITH CIRCUMFLEXbCAPITAL LETTER G WITH BREVE",
      "bSMALL LETTER G WITH BREVEbCAPITAL LETTER G WITH DOT ABOVE",
      "bSMALL LETTER G WITH DOT ABOVEbCAPITAL LETTER G WITH CEDILLA",
      "bSMALL LETTER G WITH CEDILLAbCAPITAL LETTER H WITH CIRCUMFLEX",
      "bSMALL LETTER H WITH CIRCUMFLEXbCAPITAL LETTER H WITH STROKE",
      "bSMALL LETTER H WITH STROKEbCAPITAL LETTER I WITH TILDE",
      "bSMALL LETTER I WITH TILDEbCAPITAL LETTER I WITH MACRON",
      "bSMALL LETTER I WITH MACRONbCAPITAL LETTER I WITH BREVE",
      "bSMALL LETTER I WITH BREVEbCAPITAL LETTER I WITH OGONEK",
      "bSMALL LETTER I WITH OGONEKbCAPITAL LETTER I WITH DOT ABOVE",
      "bSMALL LETTER DOTLESS IbCAPITAL LIGATURE IJbSMALL LIGATURE IJ",
      "bCAPITAL LETTER J WITH CIRCUMFLEXbSMALL LETTER J WITH CIRCUMFLEX",
      "bCAPITAL LETTER K WITH CEDILLAbSMALL LETTER K WITH CEDILLAdKRA",
      "bCAPITAL LETTER L WITH ACUTEbSMALL LETTER L WITH ACUTE",
      "bCAPITAL LETTER L WITH CEDILLAbSMALL LETTER L WITH CEDILLA",
      "bCAPITAL LETTER L WITH CARONbSMALL LETTER L WITH CARON",
      "bCAPITAL LETTER L WITH MIDDLE DOTbSMALL LETTER L WITH MIDDLE DOT",
      "bCAPITAL LETTER L WITH STROKEbSMALL LETTER L WITH STROKE",
      "bCAPITAL LETTER N WITH ACUTEbSMALL LETTER N WITH ACUTE",
      "bCAPITAL LETTER N WITH CEDILLAbSMALL LETTER N WITH CEDILLA",
      "bCAPITAL LETTER N WITH CARONbSMALL LETTER N WITH CARON",
      "ePRECEDED BY APOSTROPHEbCAPITAL LETTER ENGbSMALL LETTER ENG",
      "bCAPITAL LETTER O WITH MACRONbSMALL LETTER O WITH MACRON",
      "bCAPITAL LETTER O WITH BREVEbSMALL LETTER O WITH BREVE",
      "bCAPITAL LETTER O WITH DOUBLE ACUTEbSMALL LETTER O WITH DOUBLE ACUTE",
      "bCAPITAL LIGATURE OEbSMALL LIGATURE OEbCAPITAL LETTER R WITH ACUTE",
      "bSMALL LETTER R WITH ACUTEbCAPITAL LETTER R WITH CEDILLA",
      "bSMALL LETTER R WITH CEDILLAbCAPITAL LETTER R WITH CARON",
      "bSMALL LETTER R WITH CARONbCAPITAL LETTER S WITH ACUTE",
      "bSMALL LETTER S WITH ACUTEbCAPITAL LETTER S WITH CIRCUMFLEX",
      "bSMALL LETTER S WITH CIRCUMFLEXbCAPITAL LETTER S WITH CEDILLA",
      "bSMALL LETTER S WITH CEDILLAbCAPITAL LETTER S WITH CARON",
      "bSMALL LETTER S WITH CARONbCAPITAL LETTER T WITH CEDILLA",
      "bSMALL LETTER T WITH CEDILLAbCAPITAL LETTER T WITH CARON",
      "bSMALL LETTER T WITH CARONbCAPITAL LETTER T WITH STROKE",
      "bSMALL LETTER T WITH STROKEbCAPITAL LETTER U WITH TILDE",
      "bSMALL LETTER U WITH TILDEbCAPITAL LETTER U WITH MACRON",
      "bSMALL LETTER U WITH MACRONbCAPITAL LETTER U WITH BREVE",
      "bSMALL LETTER U WITH BREVEbCAPITAL LETTER U WITH RING ABOVE",
      "bSMALL LETTER U WITH RING ABOVEbCAPITAL LETTER U WITH DOUBLE ACUTE",
      "bSMALL LETTER U WITH DOUBLE ACUTEbCAPITAL LETTER U WITH OGONEK",
      "bSMALL LETTER U WITH OGONEKbCAPITAL LETTER W WITH CIRCUMFLEX",
      "bSMALL LETTER W WITH CIRCUMFLEXbCAPITAL LETTER Y WITH CIRCUMFLEX",
      "bSMALL LETTER Y WITH CIRCUMFLEXbCAPITAL LETTER Y WITH DIAERESIS",
      "dZ WITH ACUTEbSMALL LETTER Z WITH ACUTE",
      "bCAPITAL LETTER Z WITH DOT ABOVEbSMALL LETTER Z WITH DOT ABOVE",
      "bCAPITAL LETTER Z WITH CARONbSMALL LETTER Z WITH CARONdLONG S",
      "dB WITH STROKEbCAPITAL LETTER B WITH HOOKfTOPBAR",
      "bSMALL LETTER B WITH TOPBARbCAPITAL LETTER TONE SIX",
      "bSMALL LETTER TONE SIXbCAPITAL LETTER OPEN OdC WITH HOOK",
      "bSMALL LETTER C WITH HOOKbCAPITAL LETTER AFRICAN DdD WITH HOOK",
      "fTOPBARbSMALL LETTER D WITH TOPBARdTURNED DELTA",
      "bCAPITAL LETTER REVERSED EdSCHWAdOPEN EdF WITH HOOK",
      "bSMALL LETTER F WITH HOOKbCAPITAL LETTER G WITH HOOKdGAMMA",
      "bSMALL LETTER HVbCAPITAL LETTER IOTAdI WITH STROKEdK WITH HOOK",
      "bSMALL LETTER K WITH HOOKdL WITH BARdLAMBDA WITH STROKE",
      "bCAPITAL LETTER TURNED MdN WITH LEFT HOOK",
      "bSMALL LETTER N WITH LONG RIGHT LEG",
      "bCAPITAL LETTER O WITH MIDDLE TILDEfHORNbSMALL LETTER O WITH HORN",
      "bCAPITAL LETTER OIbSMALL LETTER OIbCAPITAL LETTER P WITH HOOK",
      "bSMALL LETTER P WITH HOOKbLETTER YRbCAPITAL LETTER TONE TWO",
      "bSMALL LETTER TONE TWObCAPITAL LETTER ESHbLETTER REVERSED ESH LOOP",
      "bSMALL LETTER T WITH PALATAL HOOKbCAPITAL LETTER T WITH HOOK",
      "bSMALL LETTER T WITH HOOKbCAPITAL LETTER T WITH RETROFLEX HOOK",
      "dU WITH HORNbSMALL LETTER U WITH HORNbCAPITAL LETTER UPSILON",
      "dV WITH HOOKdY WITH HOOKbSMALL LETTER Y WITH HOOK",
      "bCAPITAL LETTER Z WITH STROKEbSMALL LETTER Z WITH STROKE",
      "bCAPITAL LETTER EZHeREVERSEDbSMALL LETTER EZH REVERSEDeWITH TAIL",
      "bLETTER TWO WITH STROKEbCAPITAL LETTER TONE FIVE",
      "bSMALL LETTER TONE FIVEbLETTER INVERTED GLOTTAL STOP WITH STROKE",
      "cWYNNcDENTAL CLICKcLATERAL CLICKcALVEOLAR CLICKcRETROFLEX CLICK",
      "bCAPITAL LETTER DZ WITH CARONdD WITH SMALL LETTER Z WITH CARON",
      "bSMALL LETTER DZ WITH CARONbCAPITAL LETTER LJdL WITH SMALL LETTER J",
      "bSMALL LETTER LJbCAPITAL LETTER NJdN WITH SMALL LETTER J",
      "bSMALL LETTER NJbCAPITAL LETTER A WITH CARON",
      "bSMALL LETTER A WITH CARONbCAPITAL LETTER I WITH CARON",
      "bSMALL LETTER I WITH CARONbCAPITAL LETTER O WITH CARON",
      "bSMALL LETTER O WITH CARONbCAPITAL LETTER U WITH CARON",
      "bSMALL LETTER U WITH CARON",
      "bCAPITAL LETTER U WITH DIAERESIS AND MACRON",
      "bSMALL LETTER U WITH DIAERESIS AND MACRON",
      "bCAPITAL LETTER U WITH DIAERESIS AND ACUTE",
      "bSMALL LETTER U WITH DIAERESIS AND ACUTE",
      "bCAPITAL LETTER U WITH DIAERESIS AND CARON",
      "bSMALL LETTER U WITH DIAERESIS AND CARON",
      "bCAPITAL LETTER U WITH DIAERESIS AND GRAVE",
      "bSMALL LETTER U WITH DIAERESIS AND GRAVEdTURNED E",
      "bCAPITAL LETTER A WITH DIAERESIS AND MACRON",
      "bSMALL LETTER A WITH DIAERESIS AND MACRON",
      "bCAPITAL LETTER A WITH DOT ABOVE AND MACRON",
      "bSMALL LETTER A WITH DOT ABOVE AND MACRON",
      "bCAPITAL LETTER AE WITH MACRONbSMALL LETTER AE WITH MACRON",
      "bCAPITAL LETTER G WITH STROKEbSMALL LETTER G WITH STROKE",
      "bCAPITAL LETTER G WITH CARONbSMALL LETTER G WITH CARON",
      "bCAPITAL LETTER K WITH CARONbSMALL LETTER K WITH CARON",
      "bCAPITAL LETTER O WITH OGONEKbSMALL LETTER O WITH OGONEK",
      "bCAPITAL LETTER O WITH OGONEK AND MACRON",
      "bSMALL LETTER O WITH OGONEK AND MACRONbCAPITAL LETTER EZH WITH CARON",
      "bSMALL LETTER EZH WITH CARONdJ WITH CARONbCAPITAL LETTER DZ",
      "dD WITH SMALL LETTER ZbSMALL LETTER DZbCAPITAL LETTER G WITH ACUTE",
      "bSMALL LETTER G WITH ACUTEbCAPITAL LETTER HWAIRdWYNNdN WITH GRAVE",
      "bSMALL LETTER N WITH GRAVE",
      "bCAPITAL LETTER A WITH RING ABOVE AND ACUTE",
      "bSMALL LETTER A WITH RING ABOVE AND ACUTE",
      "bCAPITAL LETTER AE WITH ACUTEbSMALL LETTER AE WITH ACUTE",
      "bCAPITAL LETTER O WITH STROKE AND ACUTE",
      "bSMALL LETTER O WITH STROKE AND ACUTE",
      "bCAPITAL LETTER A WITH DOUBLE GRAVEbSMALL LETTER A WITH DOUBLE GRAVE",
      "bCAPITAL LETTER A WITH INVERTED BREVE",
      "bSMALL LETTER A WITH INVERTED BREVE",
      "bCAPITAL LETTER E WITH DOUBLE GRAVEbSMALL LETTER E WITH DOUBLE GRAVE",
      "bCAPITAL LETTER E WITH INVERTED BREVE",
      "bSMALL LETTER E WITH INVERTED BREVE",
      "bCAPITAL LETTER I WITH DOUBLE GRAVEbSMALL LETTER I WITH DOUBLE GRAVE",
      "bCAPITAL LETTER I WITH INVERTED BREVE",
      "bSMALL LETTER I WITH INVERTED BREVE",
      "bCAPITAL LETTER O WITH DOUBLE GRAVEbSMALL LETTER O WITH DOUBLE GRAVE",
      "bCAPITAL LETTER O WITH INVERTED BREVE",
      "bSMALL LETTER O WITH INVERTED BREVE",
      "bCAPITAL LETTER R WITH DOUBLE GRAVEbSMALL LETTER R WITH DOUBLE GRAVE",
      "bCAPITAL LETTER R WITH INVERTED BREVE",
      "bSMALL LETTER R WITH INVERTED BREVE",
      "bCAPITAL LETTER U WITH DOUBLE GRAVEbSMALL LETTER U WITH DOUBLE GRAVE",
      "bCAPITAL LETTER U WITH INVERTED BREVE",
      "bSMALL LETTER U WITH INVERTED BREVE",
      "bCAPITAL LETTER S WITH COMMA BELOWbSMALL LETTER S WITH COMMA BELOW",
      "bCAPITAL LETTER T WITH COMMA BELOWbSMALL LETTER T WITH COMMA BELOW",
      "bCAPITAL LETTER YOGHbSMALL LETTER YOGHbCAPITAL LETTER H WITH CARON",
      "bSMALL LETTER H WITH CARONbCAPITAL LETTER N WITH LONG RIGHT LEG",
      "bSMALL LETTER D WITH CURLbCAPITAL LETTER OUbSMALL LETTER OU",
      "bCAPITAL LETTER Z WITH HOOKbSMALL LETTER Z WITH HOOK",
      "bCAPITAL LETTER A WITH DOT ABOVEbSMALL LETTER A WITH DOT ABOVE",
      "bCAPITAL LETTER E WITH CEDILLAbSMALL LETTER E WITH CEDILLA",
      "bCAPITAL LETTER O WITH DIAERESIS AND MACRON",
      "bSMALL LETTER O WITH DIAERESIS AND MACRON",
      "bCAPITAL LETTER O WITH TILDE AND MACRON",
      "bSMALL LETTER O WITH TILDE AND MACRON",
      "bCAPITAL LETTER O WITH DOT ABOVEbSMALL LETTER O WITH DOT ABOVE",
      "bCAPITAL LETTER O WITH DOT ABOVE AND MACRON",
      "bSMALL LETTER O WITH DOT ABOVE AND MACRON",
      "bCAPITAL LETTER Y WITH MACRONbSMALL LETTER Y WITH MACRONdL WITH CURL",
      "dN WITH CURLdT WITH CURLdDOTLESS JdDB DIGRAPHdQP DIGRAPH",
      "bCAPITAL LETTER A WITH STROKEdC WITH STROKE",
      "bSMALL LETTER C WITH STROKEbCAPITAL LETTER L WITH BAR",
      "dT WITH DIAGONAL STROKEbSMALL LETTER S WITH SWASH TAIL",
      "dZ WITH SWASH TAILbCAPITAL LETTER GLOTTAL STOP",
      "bSMALL LETTER GLOTTAL STOPbCAPITAL LETTER B WITH STROKEdU BAR",
      "dTURNED VdE WITH STROKEbSMALL LETTER E WITH STROKE",
      "bCAPITAL LETTER J WITH STROKEbSMALL LETTER J WITH STROKE",
      "bCAPITAL LETTER SMALL Q WITH HOOK TAILbSMALL LETTER Q WITH HOOK TAIL",
      "bCAPITAL LETTER R WITH STROKEbSMALL LETTER R WITH STROKE",
      "bCAPITAL LETTER Y WITH STROKEbSMALL LETTER Y WITH STROKEdTURNED A",
      "dALPHAdTURNED ALPHAdB WITH HOOKdOPEN OdC WITH CURLdD WITH TAILfHOOK",
      "dREVERSED EdSCHWAeWITH HOOKdOPEN EdREVERSED OPEN EgWITH HOOK",
      "dCLOSED REVERSED OPEN EdDOTLESS J WITH STROKEdG WITH HOOKdSCRIPT G",
      "bLETTER SMALL CAPITAL GbSMALL LETTER GAMMAdRAMS HORNdTURNED H",
      "dH WITH HOOKdHENG WITH HOOKdI WITH STROKEdIOTA",
      "bLETTER SMALL CAPITAL IbSMALL LETTER L WITH MIDDLE TILDEfBELT",
      "fRETROFLEX HOOKdLEZHdTURNED MfWITH LONG LEGdM WITH HOOK",
      "dN WITH LEFT HOOKfRETROFLEX HOOKbLETTER SMALL CAPITAL N",
      "bSMALL LETTER BARRED ObLETTER SMALL CAPITAL OE",
      "bSMALL LETTER CLOSED OMEGAdPHIdTURNED RfWITH LONG LEGgHOOK",
      "dR WITH LONG LEGfTAILfFISHHOOKdREVERSED R WITH FISHHOOK",
      "bLETTER SMALL CAPITAL ReINVERTED RbSMALL LETTER S WITH HOOKdESH",
      "dDOTLESS J WITH STROKE AND HOOKdSQUAT REVERSED ESHdESH WITH CURL",
      "dTURNED TdT WITH RETROFLEX HOOKdU BARdUPSILONdV WITH HOOKdTURNED VeW",
      "eYbLETTER SMALL CAPITAL YbSMALL LETTER Z WITH RETROFLEX HOOKfCURL",
      "dEZHeWITH CURLbLETTER GLOTTAL STOPcPHARYNGEAL VOICED FRICATIVE",
      "cINVERTED GLOTTAL STOPcSTRETCHED CcBILABIAL CLICKcSMALL CAPITAL B",
      "bSMALL LETTER CLOSED OPEN EbLETTER SMALL CAPITAL G WITH HOOKeH",
      "bSMALL LETTER J WITH CROSSED-TAILdTURNED KbLETTER SMALL CAPITAL L",
      "bSMALL LETTER Q WITH HOOKbLETTER GLOTTAL STOP WITH STROKE",
      "cREVERSED GLOTTAL STOP WITH STROKEbSMALL LETTER DZ DIGRAPH",
      "dDEZH DIGRAPHdDZ DIGRAPH WITH CURLdTS DIGRAPHdTESH DIGRAPH",
      "dTC DIGRAPH WITH CURLdFENG DIGRAPHdLS DIGRAPHdLZ DIGRAPH",
      "bLETTER BILABIAL PERCUSSIVEcBIDENTAL PERCUSSIVE",
      "bSMALL LETTER TURNED H WITH FISHHOOKhAND TAIL",
      "aMODIFIER LETTER SMALL HeWITH HOOKdJdRdTURNED RfWITH HOOK",
      "dCAPITAL INVERTED RdWdYcPRIMEcDOUBLE PRIMEcTURNED COMMAcAPOSTROPHE",
      "cREVERSED COMMAcRIGHT HALF RINGcLEFT HALF RINGcGLOTTAL STOP",
      "cREVERSED GLOTTAL STOPcLEFT ARROWHEADcRIGHT ARROWHEADcUP ARROWHEAD",
      "cDOWN ARROWHEADcCIRCUMFLEX ACCENTaCARON",
      "aMODIFIER LETTER VERTICAL LINEcMACRONcACUTE ACCENTcGRAVE ACCENT",
      "cLOW VERTICAL LINEdMACRONdGRAVE ACCENTdACUTE ACCENTcTRIANGULAR COLON",
      "cHALF TRIANGULAR COLONcCENTRED RIGHT HALF RINGdLEFT HALF RING",
      "cUP TACKcDOWN TACKcPLUS SIGNcMINUS SIGNaBREVEaDOT ABOVEaRING ABOVE",
      "aOGONEKaSMALL TILDEaDOUBLE ACUTE ACCENTaMODIFIER LETTER RHOTIC HOOK",
      "cCROSS ACCENTcSMALL GAMMAdLdSdXdREVERSED GLOTTAL STOP",
      "cEXTRA-HIGH TONE BARcHIGH TONE BARcMID TONE BARcLOW TONE BAR",
      "cEXTRA-LOW TONE BARcYIN DEPARTING TONE MARKcYANG DEPARTING TONE MARK",
      "cVOICINGcUNASPIRATEDcDOUBLE APOSTROPHEcLOW DOWN ARROWHEAD",
      "dUP ARROWHEADdLEFT ARROWHEADdRIGHT ARROWHEADdRING",
      "cMIDDLE GRAVE ACCENTdDOUBLE GRAVE ACCENTeACUTE ACCENTcLOW TILDE",
      "cRAISED COLONcBEGIN HIGH TONEcEND HIGH TONEcBEGIN LOW TONE",
      "cEND LOW TONEcSHELFcOPEN SHELFcLOW LEFT ARROWaCOMBINING GRAVE ACCENT",
      "bACUTE ACCENTbCIRCUMFLEX ACCENTbTILDEbMACRONbOVERLINEbBREVE",
      "bDOT ABOVEbDIAERESISbHOOK ABOVEbRING ABOVEbDOUBLE ACUTE ACCENTbCARON",
      "bVERTICAL LINE ABOVEbDOUBLE VERTICAL LINE ABOVEcGRAVE ACCENT",
      "bCANDRABINDUbINVERTED BREVEbTURNED COMMA ABOVEbCOMMA ABOVE",
      "bREVERSED COMMA ABOVEbCOMMA ABOVE RIGHTbGRAVE ACCENT BELOW",
      "bACUTE ACCENT BELOWbLEFT TACK BELOWbRIGHT TACK BELOW",
      "bLEFT ANGLE ABOVEbHORNbLEFT HALF RING BELOWbUP TACK BELOW",
      "bDOWN TACK BELOWbPLUS SIGN BELOWbMINUS SIGN BELOW",
      "bPALATALIZED HOOK BELOWbRETROFLEX HOOK BELOWbDOT BELOW",
      "bDIAERESIS BELOWbRING BELOWbCOMMA BELOWbCEDILLAbOGONEK",
      "bVERTICAL LINE BELOWbBRIDGE BELOWbINVERTED DOUBLE ARCH BELOW",
      "bCARON BELOWbCIRCUMFLEX ACCENT BELOWbBREVE BELOW",
      "bINVERTED BREVE BELOWbTILDE BELOWbMACRON BELOWbLOW LINE",
      "bDOUBLE LOW LINEbTILDE OVERLAYbSHORT STROKE OVERLAY",
      "bLONG STROKE OVERLAYbSHORT SOLIDUS OVERLAYbLONG SOLIDUS OVERLAY",
      "bRIGHT HALF RING BELOWbINVERTED BRIDGE BELOWbSQUARE BELOW",
      "bSEAGULL BELOWbX ABOVEbVERTICAL TILDEbDOUBLE OVERLINE",
      "bGRAVE TONE MARKbACUTE TONE MARKbGREEK PERISPOMENIcKORONIS",
      "cDIALYTIKA TONOScYPOGEGRAMMENIbBRIDGE ABOVEbEQUALS SIGN BELOW",
      "bDOUBLE VERTICAL LINE BELOWbLEFT ANGLE BELOWbNOT TILDE ABOVE",
      "bHOMOTHETIC ABOVEbALMOST EQUAL TO ABOVEbLEFT RIGHT ARROW BELOW",
      "bUPWARDS ARROW BELOWbGRAPHEME JOINERbRIGHT ARROWHEAD ABOVE",
      "bLEFT HALF RING ABOVEbFERMATAbX BELOWbLEFT ARROWHEAD BELOW",
      "bRIGHT ARROWHEAD BELOWdAND UP ARROWHEAD BELOWcHALF RING ABOVE",
      "bDOT ABOVE RIGHTbASTERISK BELOWbDOUBLE RING BELOWbZIGZAG ABOVE",
      "bDOUBLE BREVE BELOWcBREVEcMACRONdBELOWcTILDEcINVERTED BREVE",
      "cRIGHTWARDS ARROW BELOWbLATIN SMALL LETTER AeEeIeOeUeCeDeHeMeReTeVeX",
      "aGREEK CAPITAL LETTER HETAbSMALL LETTER HETA",
      "bCAPITAL LETTER ARCHAIC SAMPIbSMALL LETTER ARCHAIC SAMPI",
      "bNUMERAL SIGNbLOWER NUMERAL SIGNbCAPITAL LETTER PAMPHYLIAN DIGAMMA",
      "bSMALL LETTER PAMPHYLIAN DIGAMMA"]⟩,
    ⟨0x37A, [
      "aGREEK YPOGEGRAMMENIbSMALL REVERSED LUNATE SIGMA SYMBOL",
      "cDOTTED LUNATE SIGMA SYMBOLcREVERSED DOTTED LUNATE SIGMA SYMBOL",
      "bQUESTION MARKbCAPITAL LETTER YOT"]⟩,
    ⟨0x384, [
      "aGREEK TONOSbDIALYTIKA TONOSbCAPITAL LETTER ALPHA WITH TONOS",
      "bANO TELEIAbCAPITAL LETTER EPSILON WITH TONOSdETA WITH TONOS",
      "dIOTA WITH TONOS"]⟩,
    ⟨0x38C, [
      "aGREEK CAPITAL LETTER OMICRON WITH TONOS"]⟩,
    ⟨0x38E, [
      "aGREEK CAPITAL LETTER UPSILON WITH TONOSdOMEGA WITH TONOS",
      "bSMALL LETTER IOTA WITH DIALYTIKA AND TONOSbCAPITAL LETTER ALPHA",
      "dBETAdGAMMAdDELTAdEPSILONdZETAdETAdTHETAdIOTAdKAPPAdLAMDAdMUdNUdXI",
      "dOMICRONdPIdRHO"]⟩,
    ⟨0x3A3, [
      "aGREEK CAPITAL LETTER SIGMAdTAUdUPSILONdPHIdCHIdPSIdOMEGA",
      "dIOTA WITH DIALYTIKAdUPSILON WITH DIALYTIKA",
      "bSMALL LETTER ALPHA WITH TONOSdEPSILON WITH TONOSdETA WITH TONOS",
      "dIOTA WITH TONOSdUPSILON WITH DIALYTIKA AND TONOSdALPHAdBETAdGAMMA",
      "dDELTAdEPSILONdZETAdETAdTHETAdIOTAdKAPPAdLAMDAdMUdNUdXIdOMICRONdPI",
      "dRHOdFINAL SIGMAdSIGMAdTAUdUPSILONdPHIdCHIdPSIdOMEGA",
      "dIOTA WITH DIALYTIKAdUPSILON WITH DIALYTIKAdOMICRON WITH TONOS",
      "dUPSILON WITH TONOSdOMEGA WITH TONOSbCAPITAL KAI SYMBOLbBETA SYMBOL",
      "bTHETA SYMBOLbUPSILON WITH HOOK SYMBOLdACUTE AND HOOK SYMBOL",
      "dDIAERESIS AND HOOK SYMBOLbPHI SYMBOLbPI SYMBOLbKAI SYMBOL",
      "bLETTER ARCHAIC KOPPAbSMALL LETTER ARCHAIC KOPPAbLETTER STIGMA",
      "bSMALL LETTER STIGMAbLETTER DIGAMMAbSMALL LETTER DIGAMMA",
      "bLETTER KOPPAbSMALL LETTER KOPPAbLETTER SAMPIbSMALL LETTER SAMPI",
      "aCOPTIC CAPITAL LETTER SHEIbSMALL LETTER SHEIbCAPITAL LETTER FEI",
      "bSMALL LETTER FEIbCAPITAL LETTER KHEIbSMALL LETTER KHEI",
      "bCAPITAL LETTER HORIbSMALL LETTER HORIbCAPITAL LETTER GANGIA",
      "bSMALL LETTER GANGIAbCAPITAL LETTER SHIMAbSMALL LETTER SHIMA",
      "bCAPITAL LETTER DEIbSMALL LETTER DEIaGREEK KAPPA SYMBOLbRHO SYMBOL",
      "bLUNATE SIGMA SYMBOLbLETTER YOTbCAPITAL THETA SYMBOL",
      "bLUNATE EPSILON SYMBOLbREVERSED LUNATE EPSILON SYMBOL",
      "bCAPITAL LETTER SHObSMALL LETTER SHObCAPITAL LUNATE SIGMA SYMBOL",
      "cLETTER SANbSMALL LETTER SANbRHO WITH STROKE SYMBOL",
      "bCAPITAL REVERSED LUNATE SIGMA SYMBOLcDOTTED LUNATE SIGMA SYMBOL",
      "cREVERSED DOTTED LUNATE SIGMA SYMBOL",
      "aCYRILLIC CAPITAL LETTER IE WITH GRAVEdIOdDJEdGJEdUKRAINIAN IEdDZE",
      "dBYELORUSSIAN-UKRAINIAN IdYIdJEdLJEdNJEdTSHEdKJEdI WITH GRAVE",
      "dSHORT UdDZHEdAdBEdVEdGHEdDEdIEdZHEdZEdIdSHORT IdKAdELdEMdENdOdPEdER",
      "dESdTEdUdEFdHAdTSEdCHEdSHAdSHCHAdHARD SIGNdYERUdSOFT SIGNdEdYUdYA",
      "bSMALL LETTER AdBEdVEdGHEdDEdIEdZHEdZEdIdSHORT IdKAdELdEMdENdOdPEdER",
      "dESdTEdUdEFdHAdTSEdCHEdSHAdSHCHAdHARD SIGNdYERUdSOFT SIGNdEdYUdYA",
      "dIE WITH GRAVEdIOdDJEdGJEdUKRAINIAN IEdDZEdBYELORUSSIAN-UKRAINIAN I",
      "dYIdJEdLJEdNJEdTSHEdKJEdI WITH GRAVEdSHORT UdDZHE",
      "bCAPITAL LETTER OMEGAbSMALL LETTER OMEGAbCAPITAL LETTER YAT",
      "bSMALL LETTER YATbCAPITAL LETTER IOTIFIED EbSMALL LETTER IOTIFIED E",
      "bCAPITAL LETTER LITTLE YUSbSMALL LETTER LITTLE YUS",
      "bCAPITAL LETTER IOTIFIED LITTLE YUSbSMALL LETTER IOTIFIED LITTLE YUS",
      "bCAPITAL LETTER BIG YUSbSMALL LETTER BIG YUS",
      "bCAPITAL LETTER IOTIFIED BIG YUSbSMALL LETTER IOTIFIED BIG YUS",
      "bCAPITAL LETTER KSIbSMALL LETTER KSIbCAPITAL LETTER PSI",
      "bSMALL LETTER PSIbCAPITAL LETTER FITAbSMALL LETTER FITA",
      "bCAPITAL LETTER IZHITSAbSMALL LETTER IZHITSA",
      "bCAPITAL LETTER IZHITSA WITH DOUBLE GRAVE ACCENT",
      "bSMALL LETTER IZHITSA WITH DOUBLE GRAVE ACCENTbCAPITAL LETTER UK",
      "bSMALL LETTER UKbCAPITAL LETTER ROUND OMEGAbSMALL LETTER ROUND OMEGA",
      "bCAPITAL LETTER OMEGA WITH TITLObSMALL LETTER OMEGA WITH TITLO",
      "bCAPITAL LETTER OTbSMALL LETTER OTbCAPITAL LETTER KOPPA",
      "bSMALL LETTER KOPPAbTHOUSANDS SIGNaCOMBINING CYRILLIC TITLO",
      "cPALATALIZATIONcDASIA PNEUMATAcPSILI PNEUMATAcPOKRYTIE",
      "cHUNDRED THOUSANDS SIGNcMILLIONS SIGN",
      "aCYRILLIC CAPITAL LETTER SHORT I WITH TAIL",
      "bSMALL LETTER SHORT I WITH TAILbCAPITAL LETTER SEMISOFT SIGN",
      "bSMALL LETTER SEMISOFT SIGNbCAPITAL LETTER ER WITH TICK",
      "bSMALL LETTER ER WITH TICKbCAPITAL LETTER GHE WITH UPTURN",
      "bSMALL LETTER GHE WITH UPTURNbCAPITAL LETTER GHE WITH STROKE",
      "bSMALL LETTER GHE WITH STROKEbCAPITAL LETTER GHE WITH MIDDLE HOOK",
      "bSMALL LETTER GHE WITH MIDDLE HOOKbCAPITAL LETTER ZHE WITH DESCENDER",
      "bSMALL LETTER ZHE WITH DESCENDERbCAPITAL LETTER ZE WITH DESCENDER",
      "bSMALL LETTER ZE WITH DESCENDERbCAPITAL LETTER KA WITH DESCENDER",
      "bSMALL LETTER KA WITH DESCENDER",
      "bCAPITAL LETTER KA WITH VERTICAL STROKE",
      "bSMALL LETTER KA WITH VERTICAL STROKEbCAPITAL LETTER KA WITH STROKE",
      "bSMALL LETTER KA WITH STROKEbCAPITAL LETTER BASHKIR KA",
      "bSMALL LETTER BASHKIR KAbCAPITAL LETTER EN WITH DESCENDER",
      "bSMALL LETTER EN WITH DESCENDERbCAPITAL LIGATURE EN GHE",
      "bSMALL LIGATURE EN GHEbCAPITAL LETTER PE WITH MIDDLE HOOK",
      "bSMALL LETTER PE WITH MIDDLE HOOKbCAPITAL LETTER ABKHASIAN HA",
      "bSMALL LETTER ABKHASIAN HAbCAPITAL LETTER ES WITH DESCENDER",
      "bSMALL LETTER ES WITH DESCENDERbCAPITAL LETTER TE WITH DESCENDER",
      "bSMALL LETTER TE WITH DESCENDERbCAPITAL LETTER STRAIGHT U",
      "bSMALL LETTER STRAIGHT UbCAPITAL LETTER STRAIGHT U WITH STROKE",
      "bSMALL LETTER STRAIGHT U WITH STROKE",
      "bCAPITAL LETTER HA WITH DESCENDERbSMALL LETTER HA WITH DESCENDER",
      "bCAPITAL LIGATURE TE TSEbSMALL LIGATURE TE TSE",
      "bCAPITAL LETTER CHE WITH DESCENDERbSMALL LETTER CHE WITH DESCENDER",
      "bCAPITAL LETTER CHE WITH VERTICAL STROKE",
      "bSMALL LETTER CHE WITH VERTICAL STROKEbCAPITAL LETTER SHHA",
      "bSMALL LETTER SHHAbCAPITAL LETTER ABKHASIAN CHE",
      "bSMALL LETTER ABKHASIAN CHE",
      "bCAPITAL LETTER ABKHASIAN CHE WITH DESCENDER",
      "bSMALL LETTER ABKHASIAN CHE WITH DESCENDERbLETTER PALOCHKA",
      "bCAPITAL LETTER ZHE WITH BREVEbSMALL LETTER ZHE WITH BREVE",
      "bCAPITAL LETTER KA WITH HOOKbSMALL LETTER KA WITH HOOK",
      "bCAPITAL LETTER EL WITH TAILbSMALL LETTER EL WITH TAIL",
      "bCAPITAL LETTER EN WITH HOOKbSMALL LETTER EN WITH HOOK",
      "bCAPITAL LETTER EN WITH TAILbSMALL LETTER EN WITH TAIL",
      "bCAPITAL LETTER KHAKASSIAN CHEbSMALL LETTER KHAKASSIAN CHE",
      "bCAPITAL LETTER EM WITH TAILbSMALL LETTER EM WITH TAILdPALOCHKA",
      "bCAPITAL LETTER A WITH BREVEbSMALL LETTER A WITH BREVE",
      "bCAPITAL LETTER A WITH DIAERESISbSMALL LETTER A WITH DIAERESIS",
      "bCAPITAL LIGATURE A IEbSMALL LIGATURE A IE",
      "bCAPITAL LETTER IE WITH BREVEbSMALL LETTER IE WITH BREVE",
      "bCAPITAL LETTER SCHWAbSMALL LETTER SCHWA",
      "bCAPITAL LETTER SCHWA WITH DIAERESIS",
      "bSMALL LETTER SCHWA WITH DIAERESISbCAPITAL LETTER ZHE WITH DIAERESIS",
      "bSMALL LETTER ZHE WITH DIAERESISbCAPITAL LETTER ZE WITH DIAERESIS",
      "bSMALL LETTER ZE WITH DIAERESISbCAPITAL LETTER ABKHASIAN DZE",
      "bSMALL LETTER ABKHASIAN DZEbCAPITAL LETTER I WITH MACRON",
      "bSMALL LETTER I WITH MACRONbCAPITAL LETTER I WITH DIAERESIS",
      "bSMALL LETTER I WITH DIAERESISbCAPITAL LETTER O WITH DIAERESIS",
      "bSMALL LETTER O WITH DIAERESISbCAPITAL LETTER BARRED O",
      "bSMALL LETTER BARRED ObCAPITAL LETTER BARRED O WITH DIAERESIS",
      "bSMALL LETTER BARRED O WITH DIAERESIS",
      "bCAPITAL LETTER E WITH DIAERESISbSMALL LETTER E WITH DIAERESIS",
      "bCAPITAL LETTER U WITH MACRONbSMALL LETTER U WITH MACRON",
      "bCAPITAL LETTER U WITH DIAERESISbSMALL LETTER U WITH DIAERESIS",
      "bCAPITAL LETTER U WITH DOUBLE ACUTEbSMALL LETTER U WITH DOUBLE ACUTE",
      "bCAPITAL LETTER CHE WITH DIAERESISbSMALL LETTER CHE WITH DIAERESIS",
      "bCAPITAL LETTER GHE WITH DESCENDERbSMALL LETTER GHE WITH DESCENDER",
      "bCAPITAL LETTER YERU WITH DIAERESISbSMALL LETTER YERU WITH DIAERESIS",
      "bCAPITAL LETTER GHE WITH STROKE AND HOOK",
      "bSMALL LETTER GHE WITH STROKE AND HOOKbCAPITAL LETTER HA WITH HOOK",
      "bSMALL LETTER HA WITH HOOKbCAPITAL LETTER HA WITH STROKE",
      "bSMALL LETTER HA WITH STROKEbCAPITAL LETTER KOMI DE",
      "bSMALL LETTER KOMI DEbCAPITAL LETTER KOMI DJEbSMALL LETTER KOMI DJE",
      "bCAPITAL LETTER KOMI ZJEbSMALL LETTER KOMI ZJE",
      "bCAPITAL LETTER KOMI DZJEbSMALL LETTER KOMI DZJE",
      "bCAPITAL LETTER KOMI LJEbSMALL LETTER KOMI LJE",
      "bCAPITAL LETTER KOMI NJEbSMALL LETTER KOMI NJE",
      "bCAPITAL LETTER KOMI SJEbSMALL LETTER KOMI SJE",
      "bCAPITAL LETTER KOMI TJEbSMALL LETTER KOMI TJE",
      "bCAPITAL LETTER REVERSED ZEbSMALL LETTER REVERSED ZE",
      "bCAPITAL LETTER EL WITH HOOKbSMALL LETTER EL WITH HOOK",
      "bCAPITAL LETTER LHAbSMALL LETTER LHAbCAPITAL LETTER RHA",
      "bSMALL LETTER RHAbCAPITAL LETTER YAEbSMALL LETTER YAE",
      "bCAPITAL LETTER QAbSMALL LETTER QAbCAPITAL LETTER WEbSMALL LETTER WE",
      "bCAPITAL LETTER ALEUT KAbSMALL LETTER ALEUT KA",
      "bCAPITAL LETTER EL WITH MIDDLE HOOKbSMALL LETTER EL WITH MIDDLE HOOK",
      "bCAPITAL LETTER EN WITH MIDDLE HOOKbSMALL LETTER EN WITH MIDDLE HOOK",
      "bCAPITAL LETTER PE WITH DESCENDERbSMALL LETTER PE WITH DESCENDER",
      "bCAPITAL LETTER SHHA WITH DESCENDERbSMALL LETTER SHHA WITH DESCENDER",
      "bCAPITAL LETTER EN WITH LEFT HOOKbSMALL LETTER EN WITH LEFT HOOK",
      "bCAPITAL LETTER DZZHEbSMALL LETTER DZZHEbCAPITAL LETTER DCHE",
      "bSMALL LETTER DCHEbCAPITAL LETTER EL WITH DESCENDER",
      "bSMALL LETTER EL WITH DESCENDER"]⟩,
    ⟨0x531, [
      "aARMENIAN CAPITAL LETTER AYBdBENdGIMdDAdECHdZAdEHdETdTOdZHEdINIdLIWN",
      "dXEHdCAdKENdHOdJAdGHADdCHEHdMENdYIdNOWdSHAdVOdCHAdPEHdJHEHdRAdSEH",
      "dVEWdTIWNdREHdCOdYIWNdPIWRdKEHdOHdFEH"]⟩,
    ⟨0x559, [
      "aARMENIAN MODIFIER LETTER LEFT HALF RINGbAPOSTROPHEbEMPHASIS MARK",
      "bEXCLAMATION MARKbCOMMAbQUESTION MARKbABBREVIATION MARK",
      "bSMALL LETTER TURNED AYBdAYBdBENdGIMdDAdECHdZAdEHdETdTOdZHEdINIdLIWN",
      "dXEHdCAdKENdHOdJAdGHADdCHEHdMENdYIdNOWdSHAdVOdCHAdPEHdJHEHdRAdSEH",
      "dVEWdTIWNdREHdCOdYIWNdPIWRdKEHdOHdFEHcLIGATURE ECH YIWN",
      "cLETTER YI WITH STROKEbFULL STOPbHYPHEN"]⟩,
    ⟨0x58D, [
      "aRIGHT-FACING ARMENIAN ETERNITY SIGN",
      "aLEFT-FACING ARMENIAN ETERNITY SIGNaARMENIAN DRAM SIGN"]⟩,
    ⟨0x591, [
      "aHEBREW ACCENT ETNAHTAcSEGOLcSHALSHELETcZAQEF QATANdGADOLcTIPEHA",
      "cREVIAcZARQAcPASHTAcYETIVcTEVIRcGERESHdMUQDAMcGERSHAYIMcQARNEY PARA",
      "cTELISHA GEDOLAcPAZERcATNAH HAFUKHcMUNAHcMAHAPAKHcMERKHAdKEFULA",
      "cDARGAcQADMAcTELISHA QETANAcYERAH BEN YOMOcOLEcILUYcDEHIcZINOR",
      "bMARK MASORA CIRCLEbPOINT SHEVAcHATAF SEGOLdPATAHdQAMATScHIRIQcTSERE",
      "cSEGOLcPATAHcQAMATScHOLAMdHASER FOR VAVcQUBUTScDAGESH OR MAPIQcMETEG",
      "bPUNCTUATION MAQAFbPOINT RAFEbPUNCTUATION PASEQbPOINT SHIN DOT",
      "cSIN DOTbPUNCTUATION SOF PASUQbMARK UPPER DOTcLOWER DOT",
      "bPUNCTUATION NUN HAFUKHAbPOINT QAMATS QATAN"]⟩,
    ⟨0x5D0, [
      "aHEBREW LETTER ALEFcBETcGIMELcDALETcHEcVAVcZAYINcHETcTETcYOD",
      "cFINAL KAFcKAFcLAMEDcFINAL MEMcMEMcFINAL NUNcNUNcSAMEKHcAYIN",
      "cFINAL PEcPEcFINAL TSADIcTSADIcQOFcRESHcSHINcTAV"]⟩,
    ⟨0x5EF, [
      "aHEBREW YOD TRIANGLEbLIGATURE YIDDISH DOUBLE VAVdVAV YODdDOUBLE YOD",
      "bPUNCTUATION GERESHcGERSHAYIM"]⟩,
    ⟨0x600, [
      "aARABIC NUMBER SIGNbSIGN SANAHbFOOTNOTE MARKERbSIGN SAFHAcSAMVAT",
      "bNUMBER MARK ABOVEaARABIC-INDIC CUBE ROOTbFOURTH ROOTaARABIC RAY",
      "aARABIC-INDIC PER MILLE SIGNcTEN THOUSAND SIGNaAFGHANI SIGN",
      "aARABIC COMMAbDATE SEPARATORbPOETIC VERSE SIGNbSIGN MISRA",
      "cSALLALLAHOU ALAYHE WASSALLAMcALAYHE ASSALLAMcRAHMATULLAH ALAYHE",
      "cRADI ALLAHOU ANHUcTAKHALLUSbSMALL HIGH TAH",
      "dLIGATURE ALEF WITH LAM WITH YEHdZAINcFATHAcDAMMAcKASRAbSEMICOLON",
      "bLETTER MARKbEND OF TEXT MARKbTRIPLE DOT PUNCTUATION MARK",
      "bQUESTION MARKbLETTER KASHMIRI YEHcHAMZAcALEF WITH MADDA ABOVE",
      "eHAMZA ABOVEcWAW WITH HAMZA ABOVEcALEF WITH HAMZA BELOW",
      "cYEH WITH HAMZA ABOVEcALEFcBEHcTEH MARBUTAcTEHcTHEHcJEEMcHAHcKHAH",
      "cDALcTHALcREHcZAINcSEENcSHEENcSADcDADcTAHcZAHcAINcGHAIN",
      "cKEHEH WITH TWO DOTS ABOVEeTHREE DOTS BELOW",
      "cFARSI YEH WITH INVERTED VfTWO DOTS ABOVEfTHREE DOTS ABOVEbTATWEEL",
      "bLETTER FEHcQAFcKAFcLAMcMEEMcNOONcHEHcWAWcALEF MAKSURAcYEHbFATHATAN",
      "bDAMMATANbKASRATANbFATHAbDAMMAbKASRAbSHADDAbSUKUNbMADDAH ABOVE",
      "bHAMZA ABOVEcBELOWbSUBSCRIPT ALEFbINVERTED DAMMAbMARK NOON GHUNNA",
      "bZWARAKAYbVOWEL SIGN SMALL V ABOVEdINVERTED SMALL V ABOVEdDOT BELOW",
      "bREVERSED DAMMAbFATHA WITH TWO DOTSbWAVY HAMZA BELOW",
      "aARABIC-INDIC DIGIT ZEROcONEcTWOcTHREEcFOURcFIVEcSIXcSEVENcEIGHT",
      "cNINEaARABIC PERCENT SIGNbDECIMAL SEPARATORbTHOUSANDS SEPARATOR",
      "bFIVE POINTED STARbLETTER DOTLESS BEHdQAFcSUPERSCRIPT ALEF",
      "cALEF WASLAdWITH WAVY HAMZA ABOVEgBELOWcHIGH HAMZAeALEFeWAW",
      "cU WITH HAMZA ABOVEcHIGH HAMZA YEHcTTEHcTTEHEHcBEEHcTEH WITH RING",
      "eTHREE DOTS ABOVE DOWNWARDScPEHcTEHEHcBEHEHcHAH WITH HAMZA ABOVE",
      "eTWO DOTS VERTICAL ABOVEcNYEHcDYEHcHAH WITH THREE DOTS ABOVEcTCHEH",
      "cTCHEHEHcDDALcDAL WITH RINGeDOT BELOWgAND SMALL TAHcDAHALcDDAHALcDUL",
      "cDAL WITH THREE DOTS ABOVE DOWNWARDSeFOUR DOTS ABOVEcRREH",
      "cREH WITH SMALL VeRINGeDOT BELOWeSMALL V BELOW",
      "eDOT BELOW AND DOT ABOVEeTWO DOTS ABOVEcJEHcREH WITH FOUR DOTS ABOVE",
      "cSEEN WITH DOT BELOW AND DOT ABOVEeTHREE DOTS BELOW",
      "hAND THREE DOTS ABOVEcSAD WITH TWO DOTS BELOWeTHREE DOTS ABOVE",
      "cTAH WITH THREE DOTS ABOVEcAIN WITH THREE DOTS ABOVEcDOTLESS FEH",
      "cFEH WITH DOT MOVED BELOWfBELOWcVEHcFEH WITH THREE DOTS BELOWcPEHEH",
      "cQAF WITH DOT ABOVEeTHREE DOTS ABOVEcKEHEHcSWASH KAFcKAF WITH RING",
      "eDOT ABOVEcNGcKAF WITH THREE DOTS BELOWcGAFdWITH RINGcNGOEH",
      "cGAF WITH TWO DOTS BELOWcGUEHcGAF WITH THREE DOTS ABOVE",
      "cLAM WITH SMALL VeDOT ABOVEeTHREE DOTS ABOVEgBELOW",
      "cNOON WITH DOT BELOWdGHUNNAcRNOONcNOON WITH RINGeTHREE DOTS ABOVE",
      "cHEH DOACHASHMEEcTCHEH WITH DOT ABOVEcHEH WITH YEH ABOVEdGOAL",
      "eWITH HAMZA ABOVEcTEH MARBUTA GOALcWAW WITH RINGcKIRGHIZ OEcOEcUcYU",
      "cKIRGHIZ YUcWAW WITH TWO DOTS ABOVEcVEcFARSI YEHcYEH WITH TAIL",
      "eSMALL VcWAW WITH DOT ABOVEcEcYEH WITH THREE DOTS BELOWdBARREE",
      "eWITH HAMZA ABOVEbFULL STOPbLETTER AE",
      "bSMALL HIGH LIGATURE SAD WITH LAM WITH ALEF MAKSURA",
      "eQAF WITH LAM WITH ALEF MAKSURAdMEEM INITIAL FORMdLAM ALEFdJEEM",
      "dTHREE DOTSdSEENbEND OF AYAHbSTART OF RUB EL HIZB",
      "bSMALL HIGH ROUNDED ZEROdUPRIGHT RECTANGULAR ZERO",
      "dDOTLESS HEAD OF KHAHdMEEM ISOLATED FORMcLOW SEENcHIGH MADDAcWAWcYEH",
      "cHIGH YEHdNOONbPLACE OF SAJDAHbEMPTY CENTRE LOW STOPdHIGH STOP",
      "bROUNDED HIGH STOP WITH FILLED CENTREbSMALL LOW MEEM",
      "bLETTER DAL WITH INVERTED VcREH WITH INVERTED V",
      "aEXTENDED ARABIC-INDIC DIGIT ZEROdONEdTWOdTHREEdFOURdFIVEdSIXdSEVEN",
      "dEIGHTdNINEaARABIC LETTER SHEEN WITH DOT BELOWcDAD WITH DOT BELOW",
      "cGHAIN WITH DOT BELOWbSIGN SINDHI AMPERSANDdPOSTPOSITION MEN",
      "bLETTER HEH WITH INVERTED VaSYRIAC END OF PARAGRAPH",
      "bSUPRALINEAR FULL STOPbSUBLINEAR FULL STOPbSUPRALINEAR COLON",
      "bSUBLINEAR COLONbHORIZONTAL COLONbCOLON SKEWED LEFTdRIGHT",
      "bSUPRALINEAR COLON SKEWED LEFTbSUBLINEAR COLON SKEWED RIGHT",
      "bCONTRACTIONbHARKLEAN OBELUScMETOBELUScASTERISCUS"]⟩,
    ⟨0x70F, [
      "aSYRIAC ABBREVIATION MARKbLETTER ALAPHcSUPERSCRIPT ALAPHcBETHcGAMAL",
      "dGARSHUNIcDALATHcDOTLESS DALATH RISHcHEcWAWcZAINcHETHcTETHdGARSHUNI",
      "cYUDHdHEcKAPHcLAMADHcMIMcNUNcSEMKATHcFINAL SEMKATHcEcPEcREVERSED PE",
      "cSADHEcQAPHcRISHcSHINcTAWcPERSIAN BHETHdGHAMALdDHALATHbPTHAHA ABOVE",
      "cBELOWcDOTTEDbZQAPHA ABOVEcBELOWcDOTTEDbRBASA ABOVEcBELOW",
      "bDOTTED ZLAMA HORIZONTALdANGULARbHBASA ABOVEcBELOW",
      "bHBASA-ESASA DOTTEDbESASA ABOVEcBELOWbRWAHAbFEMININE DOTbQUSHSHAYA",
      "bRUKKAKHAbTWO VERTICAL DOTS ABOVEeBELOWbTHREE DOTS ABOVEdBELOW",
      "bOBLIQUE LINE ABOVEdBELOWbMUSICbBARREKH"]⟩,
    ⟨0x74D, [
      "aSYRIAC LETTER SOGDIAN ZHAINdKHAPHdFE",
      "aARABIC LETTER BEH WITH THREE DOTS HORIZONTALLY BELOW",
      "eDOT BELOW AND THREE DOTS ABOVEeTHREE DOTS POINTING UPWARDS BELOW",
      "jAND TWO DOTS ABOVEeTWO DOTS BELOW AND DOT ABOVE",
      "eINVERTED SMALL V BELOWeSMALL VcHAH WITH TWO DOTS ABOVE",
      "eTHREE DOTS POINTING UPWARDS BELOW",
      "cDAL WITH TWO DOTS VERTICALLY BELOW AND SMALL TAH",
      "eINVERTED SMALL V BELOWcREH WITH STROKEcSEEN WITH FOUR DOTS ABOVE",
      "cAIN WITH TWO DOTS ABOVEeTHREE DOTS POINTING DOWNWARDS ABOVE",
      "eTWO DOTS VERTICALLY ABOVEcFEH WITH TWO DOTS BELOW",
      "eTHREE DOTS POINTING UPWARDS BELOWcKEHEH WITH DOT ABOVE",
      "eTHREE DOTS ABOVEgPOINTING UPWARDS BELOWcMEEM WITH DOT ABOVEfBELOW",
      "cNOON WITH TWO DOTS BELOWeSMALL TAHfVcLAM WITH BAR",
      "cREH WITH TWO DOTS VERTICALLY ABOVEeHAMZA ABOVE",
      "cSEEN WITH TWO DOTS VERTICALLY ABOVE",
      "cHAH WITH SMALL ARABIC LETTER TAH BELOWiAND TWO DOTS",
      "cSEEN WITH SMALL ARABIC LETTER TAH AND TWO DOTS",
      "cREH WITH SMALL ARABIC LETTER TAH AND TWO DOTS",
      "cHAH WITH SMALL ARABIC LETTER TAH ABOVE",
      "cALEF WITH EXTENDED ARABIC-INDIC DIGIT TWO ABOVEhTHREE ABOVE",
      "cFARSI YEH WITH EXTENDED ARABIC-INDIC DIGIT TWO ABOVEiTHREE ABOVE",
      "iFOUR BELOWcWAW WITH EXTENDED ARABIC-INDIC DIGIT TWO ABOVE",
      "hTHREE ABOVEcYEH BARREE WITH EXTENDED ARABIC-INDIC DIGIT TWO ABOVE",
      "iTHREE ABOVEcHAH WITH EXTENDED ARABIC-INDIC DIGIT FOUR BELOW",
      "cSEEN WITH EXTENDED ARABIC-INDIC DIGIT FOUR ABOVEeINVERTED V",
      "cKAF WITH TWO DOTS ABOVEaTHAANA LETTER HAAcSHAVIYANIcNOONUcRAAcBAA",
      "cLHAVIYANIcKAAFUcALIFUcVAAVUcMEEMUcFAAFUcDHAALUcTHAAcLAAMUcGAAFU",
      "cGNAVIYANIcSEENUcDAVIYANIcZAVIYANIcTAVIYANIcYAAcPAVIYANIcJAVIYANI",
      "cCHAVIYANIcTTAAcHHAAcKHAAcTHAALUcZAAcSHEENUcSAADHUcDAADHUcTOcZOcAINU",
      "cGHAINUcQAAFUcWAAVUbABAFILIbAABAAFILIbIBIFILIbEEBEEFILIbUBUFILI",
      "bOOBOOFILIbEBEFILIbEYBEYFILIbOBOFILIbOABOAFILIbSUKUNbLETTER NAA"]⟩,
    ⟨0x7C0, [
      "aNKO DIGIT ZEROcONEcTWOcTHREEcFOURcFIVEcSIXcSEVENcEIGHTcNINE",
      "bLETTER AcEEcIcEcUcOOcOcDAGBASINNAcNcBAcPAcTAcJAcCHAcDAcRAcRRAcSA",
      "cGBAcFAcKAcLAcNA WOLOSOcMAcNYAcNAcHAcWAcYAcNYA WOLOSOcJONA JAdCHAdRA",
      "bCOMBINING SHORT HIGH TONEdLOW TONEdRISING TONEcLONG DESCENDING TONE",
      "dHIGH TONEdLOW TONEdRISING TONEcNASALIZATION MARKcDOUBLE DOT ABOVE",
      "bHIGH TONE APOSTROPHEbLOW TONE APOSTROPHEbSYMBOL OO DENNEN",
      "cGBAKURUNENbCOMMAbEXCLAMATION MARKbLAJANYALAN"]⟩,
    ⟨0x7FD, [
      "aNKO DANTAYALANbDOROME SIGNbTAMAN SIGNaSAMARITAN LETTER ALAFcBIT",
      "cGAMANcDALATcIYcBAAcZENcITcTITcYUTcKAAFcLABATcMIMcNUNcSINGAATcINcFI",
      "cTSAADIYcQUFcRISHcSHANcTAAFbMARK INcIN-ALAFcOCCLUSIONcDAGESH",
      "bMODIFIER LETTER EPENTHETIC YUTbMARK EPENTHETIC YUT",
      "bVOWEL SIGN LONG EdEdOVERLONG AAdLONG AAdAAdOVERLONG AdLONG AdA",
      "bMODIFIER LETTER SHORT AbVOWEL SIGN SHORT AdLONG UdU",
      "bMODIFIER LETTER IbVOWEL SIGN LONG IdIdOdSUKUNbMARK NEQUDAA"]⟩,
    ⟨0x830, [
      "aSAMARITAN PUNCTUATION NEQUDAAcAFSAAQcANGEDcBAUcATMAAUcSHIYYAALAA",
      "bABBREVIATION MARKbPUNCTUATION MELODIC QITSAcZIQAAcQITSAcZAEFcTURU",
      "cARKAANUcSOF MASHFAATcANNAAU"]⟩,
    ⟨0x840, [
      "aMANDAIC LETTER HALQAcABcAGcADcAHcUSHENNAcAZcITcATTcAKSAcAKcALcAMcAN",
      "cAScINcAPcASZcAQcARcASHcATcDUSHENNAcKADcAINbAFFRICATION MARK",
      "bVOCALIZATION MARKbGEMINATION MARK"]⟩,
    ⟨0x85E, [
      "aMANDAIC PUNCTUATION"]⟩,
    ⟨0x860, [
      "aSYRIAC LETTER MALAYALAM NGAdJAdNYAdTTAdNNAdNNNAdBHAdRAdLLAdLLLAdSSA"]⟩,
    ⟨0x870, [
      "aARABIC LETTER ALEF WITH ATTACHED FATHAfTOP RIGHT FATHA",
      "eRIGHT MIDDLE STROKEeLEFT MIDDLE STROKEeATTACHED KASRA",
      "fBOTTOM RIGHT KASRAfROUND DOT ABOVEfRIGHT ROUND DOTfLEFT ROUND DOT",
      "fROUND DOT BELOWeDOT ABOVEeATTACHED TOP RIGHT FATHA AND DOT ABOVE",
      "eRIGHT MIDDLE STROKE AND DOT ABOVE",
      "eATTACHED BOTTOM RIGHT KASRA AND DOT ABOVE",
      "fTOP RIGHT FATHA AND LEFT RINGeRIGHT MIDDLE STROKE AND LEFT RING",
      "eATTACHED BOTTOM RIGHT KASRA AND LEFT RINGfRIGHT HAMZAfLEFT HAMZA",
      "bTATWEEL WITH OVERSTRUCK HAMZAeWAWdTWO DOTS BELOWbLETTER THIN YEH",
      "bBASELINE ROUND DOTbRAISED ROUND DOT",
      "bLETTER NOON WITH INVERTED SMALL VcHAH WITH INVERTED SMALL V BELOW",
      "cTAH WITH DOT BELOWeTHREE DOTS BELOW",
      "cKEHEH WITH TWO DOTS VERTICALLY BELOWbVERTICAL TAIL"]⟩,
    ⟨0x890, [
      "aARABIC POUND MARK ABOVEbPIASTRE MARK ABOVE"]⟩,
    ⟨0x898, [
      "aARABIC SMALL HIGH WORD AL-JUZcLOW WORD ISHMAAMeIMAALAeTASHEEL",
      "bMADDA WAAJIBbSUPERSCRIPT ALEF MOKHASSASbDOUBLED MADDA",
      "bHALF MADDA OVER MADDAbLETTER BEH WITH SMALL V BELOWeHAMZA ABOVE",
      "cJEEM WITH TWO DOTS ABOVEcTAH WITH TWO DOTS ABOVE",
      "cFEH WITH DOT BELOW AND THREE DOTS ABOVEcQAF WITH DOT BELOW",
      "cLAM WITH DOUBLE BARcMEEM WITH THREE DOTS ABOVE",
      "cYEH WITH TWO DOTS BELOW AND HAMZA ABOVEiDOT ABOVEcREH WITH LOOP",
      "cWAW WITH DOT WITHINcROHINGYA YEHcLOW ALEFcDAL WITH THREE DOTS BELOW",
      "cSAD WITH THREE DOTS BELOWcGAF WITH INVERTED STROKEcSTRAIGHT WAW",
      "cZAIN WITH INVERTED V ABOVEcAIN WITH THREE DOTS BELOW",
      "cKAF WITH DOT BELOWcQAF WITH DOT BELOW AND NO DOTS ABOVE",
      "cBEH WITH SMALL MEEM ABOVEcPEH WITH SMALL MEEM ABOVE",
      "cTEH WITH SMALL TEH ABOVEcREH WITH SMALL NOON ABOVE",
      "cYEH WITH TWO DOTS BELOW AND SMALL NOON ABOVEcAFRICAN FEHdQAFdNOON",
      "cPEH WITH SMALL VcTEH WITH SMALL VcTTEH WITH SMALL V",
      "cTCHEH WITH SMALL VcKEHEH WITH SMALL VcGHAIN WITH THREE DOTS ABOVE",
      "cAFRICAN QAF WITH THREE DOTS ABOVEcJEEM WITH THREE DOTS ABOVEgBELOW",
      "cLAM WITH SMALL ARABIC LETTER TAH ABOVEcGRAFbSMALL FARSI YEH",
      "cHIGH FARSI YEHdYEH BARREE WITH TWO DOTS BELOWdWORD SAHdZAH",
      "bLARGE ROUND DOT ABOVEeBELOWbSUKUN BELOWbLARGE CIRCLE BELOW",
      "cROUND DOT INSIDE CIRCLE BELOWbSMALL LOW WAWcHIGH WORD AR-RUBdSAD",
      "dAINdQAFdNOON WITH KASRAcLOW NOON WITH KASRAcHIGH WORD ATH-THALATHA",
      "eAS-SAJDAeAN-NISFeSAKTAeQIFeWAQFAdFOOTNOTE MARKERdSIGN SAFHA",
      "bDISPUTED END OF AYAHbTURNED DAMMA BELOWbCURLY FATHAcDAMMAcKASRA",
      "cFATHATANcDAMMATANcKASRATANbTONE ONE DOT ABOVEcTWO DOTS ABOVE",
      "cLOOP ABOVEcONE DOT BELOWcTWO DOTS BELOWcLOOP BELOWbOPEN FATHATAN",
      "cDAMMATANcKASRATANbSMALL HIGH WAWbFATHA WITH RINGdDOT ABOVE",
      "bKASRA WITH DOT BELOWbLEFT ARROWHEAD ABOVEbRIGHT ARROWHEAD ABOVE",
      "bLEFT ARROWHEAD BELOWbRIGHT ARROWHEAD BELOW",
      "bDOUBLE RIGHT ARROWHEAD ABOVEfWITH DOT",
      "bRIGHT ARROWHEAD ABOVE WITH DOTbDAMMA WITH DOT",
      "bMARK SIDEWAYS NOON GHUNNAaDEVANAGARI SIGN INVERTED CANDRABINDU",
      "cCANDRABINDUcANUSVARAcVISARGAbLETTER SHORT AcAcAAcIcIIcUcUU",
      "cVOCALIC RdLcCANDRA EcSHORT EcEcAIcCANDRA OcSHORT OcOcAUcKAcKHAcGA",
      "cGHAcNGAcCAcCHAcJAcJHAcNYAcTTAcTTHAcDDAcDDHAcNNAcTAcTHAcDAcDHAcNA",
      "cNNNAcPAcPHAcBAcBHAcMAcYAcRAcRRAcLAcLLAcLLLAcVAcSHAcSSAcSAcHA",
      "bVOWEL SIGN OEdOOEbSIGN NUKTAcAVAGRAHAbVOWEL SIGN AAdIdIIdUdUU",
      "dVOCALIC ReRRdCANDRA EdSHORT EdEdAIdCANDRA OdSHORT OdOdAU",
      "bSIGN VIRAMAbVOWEL SIGN PRISHTHAMATRA EdAWbOMbSTRESS SIGN UDATTA",
      "dANUDATTAbGRAVE ACCENTbACUTE ACCENTbVOWEL SIGN CANDRA LONG EdUEdUUE",
      "bLETTER QAcKHHAcGHHAcZAcDDDHAcRHAcFAcYYAcVOCALIC RRdLL",
      "bVOWEL SIGN VOCALIC LeLLbDANDAbDOUBLE DANDAbDIGIT ZEROcONEcTWOcTHREE",
      "cFOURcFIVEcSIXcSEVENcEIGHTcNINEbABBREVIATION SIGN",
      "bSIGN HIGH SPACING DOTbLETTER CANDRA AcOEcOOEcAWcUEcUUEcMARWARI DDA",
      "cZHAcHEAVY YAcGGAcJJAcGLOTTAL STOPcDDDAcBBAaBENGALI ANJI",
      "bSIGN CANDRABINDUcANUSVARAcVISARGA"]⟩,
    ⟨0x985, [
      "aBENGALI LETTER AcAAcIcIIcUcUUcVOCALIC RdL"]⟩,
    ⟨0x98F, [
      "aBENGALI LETTER EcAI"]⟩,
    ⟨0x993, [
      "aBENGALI LETTER OcAUcKAcKHAcGAcGHAcNGAcCAcCHAcJAcJHAcNYAcTTAcTTHA",
      "cDDAcDDHAcNNAcTAcTHAcDAcDHAcNA"]⟩,
    ⟨0x9AA, [
      "aBENGALI LETTER PAcPHAcBAcBHAcMAcYAcRA"]⟩,
    ⟨0x9B2, [
      "aBENGALI LETTER LA"]⟩,
    ⟨0x9B6, [
      "aBENGALI LETTER SHAcSSAcSAcHA"]⟩,
    ⟨0x9BC, [
      "aBENGALI SIGN NUKTAcAVAGRAHAbVOWEL SIGN AAdIdIIdUdUUdVOCALIC ReRR"]⟩,
    ⟨0x9C7, [
      "aBENGALI VOWEL SIGN EdAI"]⟩,
    ⟨0x9CB, [
      "aBENGALI VOWEL SIGN OdAUbSIGN VIRAMAbLETTER KHANDA TA"]⟩,
    ⟨0x9D7, [
      "aBENGALI AU LENGTH MARK"]⟩,
    ⟨0x9DC, [
      "aBENGALI LETTER RRAcRHA"]⟩,
    ⟨0x9DF, [
      "aBENGALI LETTER YYAcVOCALIC RRdLLbVOWEL SIGN VOCALIC LeLL"]⟩,
    ⟨0x9E6, [
      "aBENGALI DIGIT ZEROcONEcTWOcTHREEcFOURcFIVEcSIXcSEVENcEIGHTcNINE",
      "bLETTER RA WITH MIDDLE DIAGONALeLOWER DIAGONALbRUPEE MARKcSIGN",
      "bCURRENCY NUMERATOR ONEdTWOdTHREEdFOURdONE LESS THAN THE DENOMINATOR",
      "cDENOMINATOR SIXTEENbISSHARbGANDA MARKbLETTER VEDIC ANUSVARA",
      "bABBREVIATION SIGNbSANDHI MARK"]⟩,
    ⟨0xA01, [
      "aGURMUKHI SIGN ADAK BINDIcBINDIcVISARGA"]⟩,
    ⟨0xA05, [
      "aGURMUKHI LETTER AcAAcIcIIcUcUU"]⟩,
    ⟨0xA0F, [
      "aGURMUKHI LETTER EEcAI"]⟩,
    ⟨0xA13, [
      "aGURMUKHI LETTER OOcAUcKAcKHAcGAcGHAcNGAcCAcCHAcJAcJHAcNYAcTTAcTTHA",
      "cDDAcDDHAcNNAcTAcTHAcDAcDHAcNA"]⟩,
    ⟨0xA2A, [
      "aGURMUKHI LETTER PAcPHAcBAcBHAcMAcYAcRA"]⟩,
    ⟨0xA32, [
      "aGURMUKHI LETTER LAcLLA"]⟩,
    ⟨0xA35, [
      "aGURMUKHI LETTER VAcSHA"]⟩,
    ⟨0xA38, [
      "aGURMUKHI LETTER SAcHA"]⟩,
    ⟨0xA3C, [
      "aGURMUKHI SIGN NUKTA"]⟩,
    ⟨0xA3E, [
      "aGURMUKHI VOWEL SIGN AAdIdIIdUdUU"]⟩,
    ⟨0xA47, [
      "aGURMUKHI VOWEL SIGN EEdAI"]⟩,
    ⟨0xA4B, [
      "aGURMUKHI VOWEL SIGN OOdAUbSIGN VIRAMA"]⟩,
    ⟨0xA51, [
      "aGURMUKHI SIGN UDAAT"]⟩,
    ⟨0xA59, [
      "aGURMUKHI LETTER KHHAcGHHAcZAcRRA"]⟩,
    ⟨0xA5E, [
      "aGURMUKHI LETTER FA"]⟩,
    ⟨0xA66, [
      "aGURMUKHI DIGIT ZEROcONEcTWOcTHREEcFOURcFIVEcSIXcSEVENcEIGHTcNINE",
      "bTIPPIbADDAKbIRIbURAbEK ONKARbSIGN YAKASHbABBREVIATION SIGN"]⟩,
    ⟨0xA81, [
      "aGUJARATI SIGN CANDRABINDUcANUSVARAcVISARGA"]⟩,
    ⟨0xA85, [
      "aGUJARATI LETTER AcAAcIcIIcUcUUcVOCALIC RdLbVOWEL CANDRA E"]⟩,
    ⟨0xA8F, [
      "aGUJARATI LETTER EcAIbVOWEL CANDRA O"]⟩,
    ⟨0xA93, [
      "aGUJARATI LETTER OcAUcKAcKHAcGAcGHAcNGAcCAcCHAcJAcJHAcNYAcTTAcTTHA",
      "cDDAcDDHAcNNAcTAcTHAcDAcDHAcNA"]⟩,
    ⟨0xAAA, [
      "aGUJARATI LETTER PAcPHAcBAcBHAcMAcYAcRA"]⟩,
    ⟨0xAB2, [
      "aGUJARATI LETTER LAcLLA"]⟩,
    ⟨0xAB5, [
      "aGUJARATI LETTER VAcSHAcSSAcSAcHA"]⟩,
    ⟨0xABC, [
      "aGUJARATI SIGN NUKTAcAVAGRAHAbVOWEL SIGN AAdIdIIdUdUUdVOCALIC ReRR",
      "dCANDRA E"]⟩,
    ⟨0xAC7, [
      "aGUJARATI VOWEL SIGN EdAIdCANDRA O"]⟩,
    ⟨0xACB, [
      "aGUJARATI VOWEL SIGN OdAUbSIGN VIRAMA"]⟩,
    ⟨0xAD0, [
      "aGUJARATI OM"]⟩,
    ⟨0xAE0, [
      "aGUJARATI LETTER VOCALIC RRdLLbVOWEL SIGN VOCALIC LeLL"]⟩,
    ⟨0xAE6, [
      "aGUJARATI DIGIT ZEROcONEcTWOcTHREEcFOURcFIVEcSIXcSEVENcEIGHTcNINE",
      "bABBREVIATION SIGNbRUPEE SIGN"]⟩,
    ⟨0xAF9, [
      "aGUJARATI LETTER ZHAbSIGN SUKUNcSHADDAcMADDAHcTHREE-DOT NUKTA ABOVE",
      "cCIRCLE NUKTA ABOVEcTWO-CIRCLE NUKTA ABOVE"]⟩,
    ⟨0xB01, [
      "aORIYA SIGN CANDRABINDUcANUSVARAcVISARGA"]⟩,
    ⟨0xB05, [
      "aORIYA LETTER AcAAcIcIIcUcUUcVOCALIC RdL"]⟩,
    ⟨0xB0F, [
      "aORIYA LETTER EcAI"]⟩,
    ⟨0xB13, [
      "aORIYA LETTER OcAUcKAcKHAcGAcGHAcNGAcCAcCHAcJAcJHAcNYAcTTAcTTHAcDDA",
      "cDDHAcNNAcTAcTHAcDAcDHAcNA"]⟩,
    ⟨0xB2A, [
      "aORIYA LETTER PAcPHAcBAcBHAcMAcYAcRA"]⟩,
    ⟨0xB32, [
      "aORIYA LETTER LAcLLA"]⟩,
    ⟨0xB35, [
      "aORIYA LETTER VAcSHAcSSAcSAcHA"]⟩,
    ⟨0xB3C, [
      "aORIYA SIGN NUKTAcAVAGRAHAbVOWEL SIGN AAdIdIIdUdUUdVOCALIC ReRR"]⟩,
    ⟨0xB47, [
      "aORIYA VOWEL SIGN EdAI"]⟩,
    ⟨0xB4B, [
      "aORIYA VOWEL SIGN OdAUbSIGN VIRAMA"]⟩,
    ⟨0xB55, [
      "aORIYA SIGN OVERLINEbAI LENGTH MARKbAU LENGTH MARK"]⟩,
    ⟨0xB5C, [
      "aORIYA LETTER RRAcRHA"]⟩,
    ⟨0xB5F, [
      "aORIYA LETTER YYAcVOCALIC RRdLLbVOWEL SIGN VOCALIC LeLL"]⟩,
    ⟨0xB66, [
      "aORIYA DIGIT ZEROcONEcTWOcTHREEcFOURcFIVEcSIXcSEVENcEIGHTcNINE",
      "bISSHARbLETTER WAbFRACTION ONE QUARTERdHALFcTHREE QUARTERS",
      "cONE SIXTEENTHdEIGHTHcTHREE SIXTEENTHS"]⟩,
    ⟨0xB82, [
      "aTAMIL SIGN ANUSVARAcVISARGA"]⟩,
    ⟨0xB85, [
      "aTAMIL LETTER AcAAcIcIIcUcUU"]⟩,
    ⟨0xB8E, [
      "aTAMIL LETTER EcEEcAI"]⟩,
    ⟨0xB92, [
      "aTAMIL LETTER OcOOcAUcKA"]⟩,
    ⟨0xB99, [
      "aTAMIL LETTER NGAcCA"]⟩,
    ⟨0xB9C, [
      "aTAMIL LETTER JA"]⟩,
    ⟨0xB9E, [
      "aTAMIL LETTER NYAcTTA"]⟩,
    ⟨0xBA3, [
      "aTAMIL LETTER NNAcTA"]⟩,
    ⟨0xBA8, [
      "aTAMIL LETTER NAcNNNAcPA"]⟩,
    ⟨0xBAE, [
      "aTAMIL LETTER MAcYAcRAcRRAcLAcLLAcLLLAcVAcSHAcSSAcSAcHA"]⟩,
    ⟨0xBBE, [
      "aTAMIL VOWEL SIGN AAdIdIIdUdUU"]⟩,
    ⟨0xBC6, [
      "aTAMIL VOWEL SIGN EdEEdAI"]⟩,
    ⟨0xBCA, [
      "aTAMIL VOWEL SIGN OdOOdAUbSIGN VIRAMA"]⟩,
    ⟨0xBD0, [
      "aTAMIL OM"]⟩,
    ⟨0xBD7, [
      "aTAMIL AU LENGTH MARK"]⟩,
    ⟨0xBE6, [
      "aTAMIL DIGIT ZEROcONEcTWOcTHREEcFOURcFIVEcSIXcSEVENcEIGHTcNINE",
      "bNUMBER TENcONE HUNDREDdTHOUSANDbDAY SIGNbMONTH SIGNbYEAR SIGN",
      "bDEBIT SIGNbCREDIT SIGNbAS ABOVE SIGNbRUPEE SIGNbNUMBER SIGN"]⟩,
    ⟨0xC00, [
      "aTELUGU SIGN COMBINING CANDRABINDU ABOVEcCANDRABINDUcANUSVARA",
      "cVISARGAcCOMBINING ANUSVARA ABOVEbLETTER AcAAcIcIIcUcUUcVOCALIC RdL"]⟩,
    ⟨0xC0E, [
      "aTELUGU LETTER EcEEcAI"]⟩,
    ⟨0xC12, [
      "aTELUGU LETTER OcOOcAUcKAcKHAcGAcGHAcNGAcCAcCHAcJAcJHAcNYAcTTAcTTHA",
      "cDDAcDDHAcNNAcTAcTHAcDAcDHAcNA"]⟩,
    ⟨0xC2A, [
      "aTELUGU LETTER PAcPHAcBAcBHAcMAcYAcRAcRRAcLAcLLAcLLLAcVAcSHAcSSAcSA",
      "cHA"]⟩,
    ⟨0xC3C, [
      "aTELUGU SIGN NUKTAcAVAGRAHAbVOWEL SIGN AAdIdIIdUdUUdVOCALIC ReRR"]⟩,
    ⟨0xC46, [
      "aTELUGU VOWEL SIGN EdEEdAI"]⟩,
    ⟨0xC4A, [
      "aTELUGU VOWEL SIGN OdOOdAUbSIGN VIRAMA"]⟩,
    ⟨0xC55, [
      "aTELUGU LENGTH MARKbAI LENGTH MARK"]⟩,
    ⟨0xC58, [
      "aTELUGU LETTER TSAcDZAcRRRA"]⟩,
    ⟨0xC5D, [
      "aTELUGU LETTER NAKAARA POLLU"]⟩,
    ⟨0xC60, [
      "aTELUGU LETTER VOCALIC RRdLLbVOWEL SIGN VOCALIC LeLL"]⟩,
    ⟨0xC66, [
      "aTELUGU DIGIT ZEROcONEcTWOcTHREEcFOURcFIVEcSIXcSEVENcEIGHTcNINE"]⟩,
    ⟨0xC77, [
      "aTELUGU SIGN SIDDHAMbFRACTION DIGIT ZERO FOR ODD POWERS OF FOUR",
      "dONE FOR ODD POWERS OF FOURdTWO FOR ODD POWERS OF FOUR",
      "dTHREE FOR ODD POWERS OF FOURdONE FOR EVEN POWERS OF FOUR",
      "dTWO FOR EVEN POWERS OF FOURdTHREE FOR EVEN POWERS OF FOUR",
      "bSIGN TUUMUaKANNADA SIGN SPACING CANDRABINDUcCANDRABINDUcANUSVARA",
      "cVISARGAcSIDDHAMbLETTER AcAAcIcIIcUcUUcVOCALIC RdL"]⟩,
    ⟨0xC8E, [
      "aKANNADA LETTER EcEEcAI"]⟩,
    ⟨0xC92, [
      "aKANNADA LETTER OcOOcAUcKAcKHAcGAcGHAcNGAcCAcCHAcJAcJHAcNYAcTTAcTTHA",
      "cDDAcDDHAcNNAcTAcTHAcDAcDHAcNA"]⟩,
    ⟨0xCAA, [
      "aKANNADA LETTER PAcPHAcBAcBHAcMAcYAcRAcRRAcLAcLLA"]⟩,
    ⟨0xCB5, [
      "aKANNADA LETTER VAcSHAcSSAcSAcHA"]⟩,
    ⟨0xCBC, [
      "aKANNADA SIGN NUKTAcAVAGRAHAbVOWEL SIGN AAdIdIIdUdUUdVOCALIC ReRR"]⟩,
    ⟨0xCC6, [
      "aKANNADA VOWEL SIGN EdEEdAI"]⟩,
    ⟨0xCCA, [
      "aKANNADA VOWEL SIGN OdOOdAUbSIGN VIRAMA"]⟩,
    ⟨0xCD5, [
      "aKANNADA LENGTH MARKbAI LENGTH MARK"]⟩,
    ⟨0xCDD, [
      "aKANNADA LETTER NAKAARA POLLUcFA"]⟩,
    ⟨0xCE0, [
      "aKANNADA LETTER VOCALIC RRdLLbVOWEL SIGN VOCALIC LeLL"]⟩,
    ⟨0xCE6, [
      "aKANNADA DIGIT ZEROcONEcTWOcTHREEcFOURcFIVEcSIXcSEVENcEIGHTcNINE"]⟩,
    ⟨0xCF1, [
      "aKANNADA SIGN JIHVAMULIYAcUPADHMANIYA"]⟩,
    ⟨0xD00, [
      "aMALAYALAM SIGN COMBINING ANUSVARA ABOVEcCANDRABINDUcANUSVARA",
      "cVISARGAbLETTER VEDIC ANUSVARAcAcAAcIcIIcUcUUcVOCALIC RdL"]⟩,
    ⟨0xD0E, [
      "aMALAYALAM LETTER EcEEcAI"]⟩,
    ⟨0xD12, [
      "aMALAYALAM LETTER OcOOcAUcKAcKHAcGAcGHAcNGAcCAcCHAcJAcJHAcNYAcTTA",
      "cTTHAcDDAcDDHAcNNAcTAcTHAcDAcDHAcNAcNNNAcPAcPHAcBAcBHAcMAcYAcRAcRRA",
      "cLAcLLAcLLLAcVAcSHAcSSAcSAcHAcTTTAbSIGN VERTICAL BAR VIRAMA",
      "cCIRCULAR VIRAMAcAVAGRAHAbVOWEL SIGN AAdIdIIdUdUUdVOCALIC ReRR"]⟩,
    ⟨0xD46, [
      "aMALAYALAM VOWEL SIGN EdEEdAI"]⟩,
    ⟨0xD4A, [
      "aMALAYALAM VOWEL SIGN OdOOdAUbSIGN VIRAMAbLETTER DOT REPHbSIGN PARA"]⟩,
    ⟨0xD54, [
      "aMALAYALAM LETTER CHILLU MdYdLLLbAU LENGTH MARK",
      "bFRACTION ONE ONE-HUNDRED-AND-SIXTIETHdFORTIETHcTHREE EIGHTIETHS",
      "cONE TWENTIETHdTENTHcTHREE TWENTIETHScONE FIFTHbLETTER ARCHAIC II",
      "cVOCALIC RRdLLbVOWEL SIGN VOCALIC LeLL"]⟩,
    ⟨0xD66, [
      "aMALAYALAM DIGIT ZEROcONEcTWOcTHREEcFOURcFIVEcSIXcSEVENcEIGHTcNINE",
      "bNUMBER TENcONE HUNDREDdTHOUSANDbFRACTION ONE QUARTERdHALF",
      "cTHREE QUARTERScONE SIXTEENTHdEIGHTHcTHREE SIXTEENTHSbDATE MARK",
      "bLETTER CHILLU NNdNdRRdLdLLdK"]⟩,
    ⟨0xD81, [
      "aSINHALA SIGN CANDRABINDUcANUSVARAYAcVISARGAYA"]⟩,
    ⟨0xD85, [
      "aSINHALA LETTER AYANNAcAAYANNAcAEYANNAcAEEYANNAcIYANNAcIIYANNA",
      "cUYANNAcUUYANNAcIRUYANNAcIRUUYANNAcILUYANNAcILUUYANNAcEYANNAcEEYANNA",
      "cAIYANNAcOYANNAcOOYANNAcAUYANNA"]⟩,
    ⟨0xD9A, [
      "aSINHALA LETTER ALPAPRAANA KAYANNAcMAHAAPRAANA KAYANNA",
      "cALPAPRAANA GAYANNAcMAHAAPRAANA GAYANNAcKANTAJA NAASIKYAYA",
      "cSANYAKA GAYANNAcALPAPRAANA CAYANNAcMAHAAPRAANA CAYANNA",
      "cALPAPRAANA JAYANNAcMAHAAPRAANA JAYANNAcTAALUJA NAASIKYAYA",
      "dSANYOOGA NAAKSIKYAYAcSANYAKA JAYANNAcALPAPRAANA TTAYANNA",
      "cMAHAAPRAANA TTAYANNAcALPAPRAANA DDAYANNAcMAHAAPRAANA DDAYANNA",
      "cMUURDHAJA NAYANNAcSANYAKA DDAYANNAcALPAPRAANA TAYANNA",
      "cMAHAAPRAANA TAYANNAcALPAPRAANA DAYANNAcMAHAAPRAANA DAYANNA",
      "cDANTAJA NAYANNA"]⟩,
    ⟨0xDB3, [
      "aSINHALA LETTER SANYAKA DAYANNAcALPAPRAANA PAYANNA",
      "cMAHAAPRAANA PAYANNAcALPAPRAANA BAYANNAcMAHAAPRAANA BAYANNAcMAYANNA",
      "cAMBA BAYANNAcYAYANNAcRAYANNA"]⟩,
    ⟨0xDBD, [
      "aSINHALA LETTER DANTAJA LAYANNA"]⟩,
    ⟨0xDC0, [
      "aSINHALA LETTER VAYANNAcTAALUJA SAYANNAcMUURDHAJA SAYANNA",
      "cDANTAJA SAYANNAcHAYANNAcMUURDHAJA LAYANNAcFAYANNA"]⟩,
    ⟨0xDCA, [
      "aSINHALA SIGN AL-LAKUNA"]⟩,
    ⟨0xDCF, [
      "aSINHALA VOWEL SIGN AELA-PILLAdKETTI AEDA-PILLAdDIGA AEDA-PILLA",
      "dKETTI IS-PILLAdDIGA IS-PILLAdKETTI PAA-PILLA"]⟩,
    ⟨0xDD6, [
      "aSINHALA VOWEL SIGN DIGA PAA-PILLA"]⟩,
    ⟨0xDD8, [
      "aSINHALA VOWEL SIGN GAETTA-PILLAdKOMBUVAdDIGA KOMBUVAdKOMBU DEKA",
      "dKOMBUVA HAA AELA-PILLAfDIGA AELA-PILLAfGAYANUKITTAdGAYANUKITTA"]⟩,
    ⟨0xDE6, [
      "aSINHALA LITH DIGIT ZEROdONEdTWOdTHREEdFOURdFIVEdSIXdSEVENdEIGHT",
      "dNINE"]⟩,
    ⟨0xDF2, [
      "aSINHALA VOWEL SIGN DIGA GAETTA-PILLAeGAYANUKITTA",
      "bPUNCTUATION KUNDDALIYA"]⟩,
    ⟨0xE01, [
      "aTHAI CHARACTER KO KAIcKHO KHAIdKHUATdKHWAIdKHONdRAKHANGcNGO NGU",
      "cCHO CHANdCHINGdCHANGcSO SOcCHO CHOEcYO YINGcDO CHADAcTO PATAK",
      "cTHO THANdNANGMONTHOdPHUTHAOcNO NENcDO DEKcTO TAOcTHO THUNGdTHAHAN",
      "dTHONGcNO NUcBO BAIMAIcPO PLAcPHO PHUNGcFO FAcPHO PHANcFO FAN",
      "cPHO SAMPHAOcMO MAcYO YAKcRO RUAcRUcLO LINGcLUcWO WAENcSO SALAdRUSI",
      "dSUAcHO HIPcLO CHULAcO ANGcHO NOKHUKcPAIYANNOIcSARA AcMAI HAN-AKAT",
      "cSARA AAdAMdIdIIdUEdUEEdUdUUcPHINTHU"]⟩,
    ⟨0xE3F, [
      "aTHAI CURRENCY SYMBOL BAHTbCHARACTER SARA EdAEdOdAI MAIMUANeMAIMALAI",
      "cLAKKHANGYAOcMAIYAMOKcMAITAIKHUcMAI EKdTHOdTRIdCHATTAWAcTHANTHAKHAT",
      "cNIKHAHITcYAMAKKANcFONGMANbDIGIT ZEROcONEcTWOcTHREEcFOURcFIVEcSIX",
      "cSEVENcEIGHTcNINEbCHARACTER ANGKHANKHUcKHOMUT"]⟩,
    ⟨0xE81, [
      "aLAO LETTER KOcKHO SUNG"]⟩,
    ⟨0xE84, [
      "aLAO LETTER KHO TAM"]⟩,
    ⟨0xE86, [
      "aLAO LETTER PALI GHAcNGOcCOcPALI CHAcSO TAM"]⟩,
    ⟨0xE8C, [
      "aLAO LETTER PALI JHAcNYOcPALI NYAdTTAdTTHAdDDAdDDHAdNNAcDOcTO",
      "cTHO SUNGdTAMcPALI DHAcNOcBOcPOcPHO SUNGcFO TAMcPHO TAMcFO SUNG",
      "cPALI BHAcMOcYOcLO LING"]⟩,
    ⟨0xEA5, [
      "aLAO LETTER LO LOOT"]⟩,
    ⟨0xEA7, [
      "aLAO LETTER WOcSANSKRIT SHAdSSAcSO SUNGcHO SUNGcPALI LLAcOcHO TAM",
      "bELLIPSISbVOWEL SIGN AdMAI KANdAAdAMdIdIIdYdYYdUdUUbSIGN PALI VIRAMA",
      "bVOWEL SIGN MAI KONbSEMIVOWEL SIGN LOdNYO"]⟩,
    ⟨0xEC0, [
      "aLAO VOWEL SIGN EdEIdOdAYdAI"]⟩,
    ⟨0xEC6, [
      "aLAO KO LA"]⟩,
    ⟨0xEC8, [
      "aLAO TONE MAI EKdTHOdTIdCATAWAbCANCELLATION MARKbNIGGAHITA"]⟩,
    ⟨0xED0, [
      "aLAO DIGIT ZEROcONEcTWOcTHREEcFOURcFIVEcSIXcSEVENcEIGHTcNINE"]⟩,
    ⟨0xEDC, [
      "aLAO HO NOcMObLETTER KHMU GOdNYO"]⟩,
    ⟨0xF00, [
      "aTIBETAN SYLLABLE OMbMARK GTER YIG MGO TRUNCATED Af-UM RNAM BCAD MA",
      "gGTER TSHEG MAcINITIAL YIG MGO MDUN MAcCLOSING YIG MGO SGAB MA",
      "cCARET YIG MGO PHUR SHAD MAcYIG MGO TSHEG SHAD MAcSBRUL SHAD",
      "cBSKUR YIG MGOcBKA- SHOG YIG MGOcINTERSYLLABIC TSHEG",
      "cDELIMITER TSHEG BSTARcSHADcNYIS SHADcTSHEG SHADcNYIS TSHEG SHAD",
      "cRIN CHEN SPUNGS SHADcRGYA GRAM SHADcCARET -DZUD RTAGS ME LONG CAN",
      "cGTER TSHEGbLOGOTYPE SIGN CHAD RTAGSdLHAG RTAGS",
      "bASTROLOGICAL SIGN SGRA GCAN -CHAR RTAGSd-KHYUD PAdSDONG TSHUGS",
      "bSIGN RDEL DKAR GCIGeGNYISeGSUMdNAG GCIGeGNYISdDKAR RDEL NAG",
      "bDIGIT ZEROcONEcTWOcTHREEcFOURcFIVEcSIXcSEVENcEIGHTcNINEcHALF ONE",
      "dTWOdTHREEdFOURdFIVEdSIXdSEVENdEIGHTdNINEdZERObMARK BSDUS RTAGS",
      "cNGAS BZUNG NYI ZLAcCARET -DZUD RTAGS BZHI MIG CAN",
      "cNGAS BZUNG SGOR RTAGScCHE MGOcTSA -PHRUcGUG RTAGS GYONeGYAS",
      "cANG KHANG GYONeGYASbSIGN YAR TSHEScMAR TSHESbLETTER KAcKHAcGAcGHA",
      "cNGAcCAcCHAcJA"]⟩,
    ⟨0xF49, [
      "aTIBETAN LETTER NYAcTTAcTTHAcDDAcDDHAcNNAcTAcTHAcDAcDHAcNAcPAcPHAcBA",
      "cBHAcMAcTSAcTSHAcDZAcDZHAcWAcZHAcZAc-AcYAcRAcLAcSHAcSSAcSAcHAcAcKSSA",
      "cFIXED-FORM RAcKKAcRRA"]⟩,
    ⟨0xF71, [
      "aTIBETAN VOWEL SIGN AAdIdIIdUdUUdVOCALIC ReRReLeLLdEdEEdOdOO",
      "bSIGN RJES SU NGA ROcRNAM BCADbVOWEL SIGN REVERSED IeII",
      "bSIGN NYI ZLA NAA DAcSNA LDANbMARK HALANTAcPALUTAbSIGN LCI RTAGS",
      "cYANG RTAGScLCE TSA CANcMCHU CANcGRU CAN RGYINGSdMED RGYINGS",
      "cINVERTED MCHU CANbSUBJOINED SIGN LCE TSA CANdMCHU CAN",
      "dINVERTED MCHU CANcLETTER KAdKHAdGAdGHAdNGAdCAdCHAdJA"]⟩,
    ⟨0xF99, [
      "aTIBETAN SUBJOINED LETTER NYAdTTAdTTHAdDDAdDDHAdNNAdTAdTHAdDAdDHAdNA",
      "dPAdPHAdBAdBHAdMAdTSAdTSHAdDZAdDZHAdWAdZHAdZAd-AdYAdRAdLAdSHAdSSAdSA",
      "dHAdAdKSSAdFIXED-FORM WAeYAeRA"]⟩,
    ⟨0xFBE, [
      "aTIBETAN KU RU KHAeBZHI MIG CANbCANTILLATION SIGN HEAVY BEAT",
      "dLIGHT BEATdCANG TE-UdSBUB -CHALbSYMBOL DRIL BUcRDO RJEcPADMA GDAN",
      "cRDO RJE RGYA GRAMcPHUR PAcNOR BUeNYIS -KHYILeGSUM -KHYIL",
      "eBZHI -KHYIL"]⟩,
    ⟨0xFCE, [
      "aTIBETAN SIGN RDEL NAG RDEL DKAReGSUMbMARK BSKA- SHOG GI MGO RGYAN",
      "cMNYAM YIG GI MGO RGYANcNYIS TSHEG",
      "cINITIAL BRDA RNYING YIG MGO MDUN MA",
      "cCLOSING BRDA RNYING YIG MGO SGAB MAaRIGHT-FACING SVASTI SIGN",
      "aLEFT-FACING SVASTI SIGNaRIGHT-FACING SVASTI SIGN WITH DOTS",
      "aLEFT-FACING SVASTI SIGN WITH DOTSaTIBETAN MARK LEADING MCHAN RTAGS",
      "cTRAILING MCHAN RTAGS"]⟩,
    ⟨0x1000, [
      "aMYANMAR LETTER KAcKHAcGAcGHAcNGAcCAcCHAcJAcJHAcNYAcNNYAcTTAcTTHA",
      "cDDAcDDHAcNNAcTAcTHAcDAcDHAcNAcPAcPHAcBAcBHAcMAcYAcRAcLAcWAcSAcHA",
      "cLLAcAcSHAN AcIcIIcUcUUcEcMON EcOcAUbVOWEL SIGN TALL AAdAAdIdIIdUdUU",
      "dEdAIdMON IIeOdE ABOVEbSIGN ANUSVARAcDOT BELOWcVISARGAcVIRAMAcASAT",
      "bCONSONANT SIGN MEDIAL YAeRAeWAeHAbLETTER GREAT SAbDIGIT ZEROcONE",
      "cTWOcTHREEcFOURcFIVEcSIXcSEVENcEIGHTcNINEbSIGN LITTLE SECTION",
      "cSECTIONbSYMBOL LOCATIVEcCOMPLETEDcAFOREMENTIONEDcGENITIVE",
      "bLETTER SHAcSSAcVOCALIC RdRRdLdLLbVOWEL SIGN VOCALIC ReRReLeLL",
      "bLETTER MON NGAdJHAdBBAdBBEbCONSONANT SIGN MON MEDIAL NAfMAfLA",
      "bLETTER SGAW KAREN SHAbVOWEL SIGN SGAW KAREN EU",
      "bTONE MARK SGAW KAREN HATHIfKE PHObLETTER WESTERN PWO KAREN THAfPWA",
      "bVOWEL SIGN WESTERN PWO KAREN EUgUEbSIGN WESTERN PWO KAREN TONE-1",
      "fTONE-2fTONE-3fTONE-4fTONE-5bLETTER EASTERN PWO KAREN NNAfYWAfGHWA",
      "bVOWEL SIGN GEBA KAREN IdKAYAH OEeUeEEbLETTER SHAN KAdKHAdGAdCAdZA",
      "dNYAdDAdNAdPHAdFAdBAdTHAdHAbCONSONANT SIGN SHAN MEDIAL WA",
      "bVOWEL SIGN SHAN AAeEfABOVEeFINAL YbSIGN SHAN TONE-2dTONE-3dTONE-5",
      "dTONE-6dCOUNCIL TONE-2eTONE-3eEMPHATIC TONEbLETTER RUMAI PALAUNG FA",
      "bSIGN RUMAI PALAUNG TONE-5bSHAN DIGIT ZEROdONEdTWOdTHREEdFOURdFIVE",
      "dSIXdSEVENdEIGHTdNINEbSIGN KHAMTI TONE-1dTONE-3bVOWEL SIGN AITON A",
      "eAIbSYMBOL SHAN ONEdEXCLAMATIONaGEORGIAN CAPITAL LETTER ANdBANdGAN",
      "dDONdENdVINdZENdTANdINdKANdLASdMANdNARdONdPARdZHARdRAEdSANdTARdUN",
      "dPHARdKHARdGHANdQARdSHINdCHINdCANdJILdCILdCHARdXANdJHANdHAEdHEdHIE",
      "dWEdHARdHOE"]⟩,
    ⟨0x10C7, [
      "aGEORGIAN CAPITAL LETTER YN"]⟩,
    ⟨0x10CD, [
      "aGEORGIAN CAPITAL LETTER AEN"]⟩,
    ⟨0x10D0, [
      "aGEORGIAN LETTER ANcBANcGANcDONcENcVINcZENcTANcINcKANcLAScMANcNARcON",
      "cPARcZHARcRAEcSANcTARcUNcPHARcKHARcGHANcQARcSHINcCHINcCANcJILcCIL",
      "cCHARcXANcJHANcHAEcHEcHIEcWEcHARcHOEcFIcYNcELIFIcTURNED GANcAIN",
      "bPARAGRAPH SEPARATORaMODIFIER LETTER GEORGIAN NAR",
      "aGEORGIAN LETTER AENcHARD SIGNcLABIAL SIGNaHANGUL CHOSEONG KIYEOK",
      "cSSANGKIYEOKcNIEUNcTIKEUTcSSANGTIKEUTcRIEULcMIEUMcPIEUPcSSANGPIEUP",
      "cSIOScSSANGSIOScIEUNGcCIEUCcSSANGCIEUCcCHIEUCHcKHIEUKHcTHIEUTH",
      "cPHIEUPHcHIEUHcNIEUN-KIYEOKcSSANGNIEUNcNIEUN-TIKEUTcNIEUN-PIEUP",
      "cTIKEUT-KIYEOKcRIEUL-NIEUNcSSANGRIEULcRIEUL-HIEUHcKAPYEOUNRIEUL",
      "cMIEUM-PIEUPcKAPYEOUNMIEUMcPIEUP-KIYEOKcPIEUP-NIEUNcPIEUP-TIKEUT",
      "cPIEUP-SIOScPIEUP-SIOS-KIYEOKcPIEUP-SIOS-TIKEUTcPIEUP-SIOS-PIEUP",
      "cPIEUP-SSANGSIOScPIEUP-SIOS-CIEUCcPIEUP-CIEUCcPIEUP-CHIEUCH",
      "cPIEUP-THIEUTHcPIEUP-PHIEUPHcKAPYEOUNPIEUPcKAPYEOUNSSANGPIEUP",
      "cSIOS-KIYEOKcSIOS-NIEUNcSIOS-TIKEUTcSIOS-RIEULcSIOS-MIEUMcSIOS-PIEUP",
      "cSIOS-PIEUP-KIYEOKcSIOS-SSANGSIOScSIOS-IEUNGcSIOS-CIEUCcSIOS-CHIEUCH",
      "cSIOS-KHIEUKHcSIOS-THIEUTHcSIOS-PHIEUPHcSIOS-HIEUHcCHITUEUMSIOS",
      "cCHITUEUMSSANGSIOScCEONGCHIEUMSIOScCEONGCHIEUMSSANGSIOScPANSIOS",
      "cIEUNG-KIYEOKcIEUNG-TIKEUTcIEUNG-MIEUMcIEUNG-PIEUPcIEUNG-SIOS",
      "cIEUNG-PANSIOScSSANGIEUNGcIEUNG-CIEUCcIEUNG-CHIEUCHcIEUNG-THIEUTH",
      "cIEUNG-PHIEUPHcYESIEUNGcCIEUC-IEUNGcCHITUEUMCIEUCcCHITUEUMSSANGCIEUC",
      "cCEONGCHIEUMCIEUCcCEONGCHIEUMSSANGCIEUCcCHIEUCH-KHIEUKH",
      "cCHIEUCH-HIEUHcCHITUEUMCHIEUCHcCEONGCHIEUMCHIEUCHcPHIEUPH-PIEUP",
      "cKAPYEOUNPHIEUPHcSSANGHIEUHcYEORINHIEUHcKIYEOK-TIKEUTcNIEUN-SIOS",
      "cNIEUN-CIEUCcNIEUN-HIEUHcTIKEUT-RIEULcFILLERbJUNGSEONG FILLERcAcAE",
      "cYAcYAEcEOcEcYEOcYEcOcWAcWAEcOEcYOcUcWEOcWEcWIcYUcEUcYIcIcA-OcA-U",
      "cYA-OcYA-YOcEO-OcEO-UcEO-EUcYEO-OcYEO-UcO-EOcO-EcO-YEcO-OcO-UcYO-YA",
      "cYO-YAEcYO-YEOcYO-OcYO-IcU-AcU-AEcU-EO-EUcU-YEcU-UcYU-AcYU-EOcYU-E",
      "cYU-YEOcYU-YEcYU-UcYU-IcEU-UcEU-EUcYI-UcI-AcI-YAcI-OcI-UcI-EU",
      "cI-ARAEAcARAEAcARAEA-EOcARAEA-UcARAEA-IcSSANGARAEAcA-EUcYA-UcYEO-YA",
      "cO-YAcO-YAEbJONGSEONG KIYEOKcSSANGKIYEOKcKIYEOK-SIOScNIEUN",
      "cNIEUN-CIEUCcNIEUN-HIEUHcTIKEUTcRIEULcRIEUL-KIYEOKcRIEUL-MIEUM",
      "cRIEUL-PIEUPcRIEUL-SIOScRIEUL-THIEUTHcRIEUL-PHIEUPHcRIEUL-HIEUH",
      "cMIEUMcPIEUPcPIEUP-SIOScSIOScSSANGSIOScIEUNGcCIEUCcCHIEUCHcKHIEUKH",
      "cTHIEUTHcPHIEUPHcHIEUHcKIYEOK-RIEULcKIYEOK-SIOS-KIYEOKcNIEUN-KIYEOK",
      "cNIEUN-TIKEUTcNIEUN-SIOScNIEUN-PANSIOScNIEUN-THIEUTHcTIKEUT-KIYEOK",
      "cTIKEUT-RIEULcRIEUL-KIYEOK-SIOScRIEUL-NIEUNcRIEUL-TIKEUT",
      "cRIEUL-TIKEUT-HIEUHcSSANGRIEULcRIEUL-MIEUM-KIYEOKcRIEUL-MIEUM-SIOS",
      "cRIEUL-PIEUP-SIOScRIEUL-PIEUP-HIEUHcRIEUL-KAPYEOUNPIEUP",
      "cRIEUL-SSANGSIOScRIEUL-PANSIOScRIEUL-KHIEUKHcRIEUL-YEORINHIEUH",
      "cMIEUM-KIYEOKcMIEUM-RIEULcMIEUM-PIEUPcMIEUM-SIOScMIEUM-SSANGSIOS",
      "cMIEUM-PANSIOScMIEUM-CHIEUCHcMIEUM-HIEUHcKAPYEOUNMIEUMcPIEUP-RIEUL",
      "cPIEUP-PHIEUPHcPIEUP-HIEUHcKAPYEOUNPIEUPcSIOS-KIYEOKcSIOS-TIKEUT",
      "cSIOS-RIEULcSIOS-PIEUPcPANSIOScIEUNG-KIYEOKcIEUNG-SSANGKIYEOK",
      "cSSANGIEUNGcIEUNG-KHIEUKHcYESIEUNGcYESIEUNG-SIOScYESIEUNG-PANSIOS",
      "cPHIEUPH-PIEUPcKAPYEOUNPHIEUPHcHIEUH-NIEUNcHIEUH-RIEULcHIEUH-MIEUM",
      "cHIEUH-PIEUPcYEORINHIEUHcKIYEOK-NIEUNcKIYEOK-PIEUPcKIYEOK-CHIEUCH",
      "cKIYEOK-KHIEUKHcKIYEOK-HIEUHcSSANGNIEUNaETHIOPIC SYLLABLE HAcHUcHI",
      "cHAAcHEEcHEcHOcHOAcLAcLUcLIcLAAcLEEcLEcLOcLWAcHHAcHHUcHHIcHHAAcHHEE",
      "cHHEcHHOcHHWAcMAcMUcMIcMAAcMEEcMEcMOcMWAcSZAcSZUcSZIcSZAAcSZEEcSZE",
      "cSZOcSZWAcRAcRUcRIcRAAcREEcREcROcRWAcSAcSUcSIcSAAcSEEcSEcSOcSWAcSHA",
      "cSHUcSHIcSHAAcSHEEcSHEcSHOcSHWAcQAcQUcQIcQAAcQEEcQEcQOcQOAcQWA"]⟩,
    ⟨0x124A, [
      "aETHIOPIC SYLLABLE QWIcQWAAcQWEEcQWE"]⟩,
    ⟨0x1250, [
      "aETHIOPIC SYLLABLE QHAcQHUcQHIcQHAAcQHEEcQHEcQHO"]⟩,
    ⟨0x1258, [
      "aETHIOPIC SYLLABLE QHWA"]⟩,
    ⟨0x125A, [
      "aETHIOPIC SYLLABLE QHWIcQHWAAcQHWEEcQHWE"]⟩,
    ⟨0x1260, [
      "aETHIOPIC SYLLABLE BAcBUcBIcBAAcBEEcBEcBOcBWAcVAcVUcVIcVAAcVEEcVEcVO",
      "cVWAcTAcTUcTIcTAAcTEEcTEcTOcTWAcCAcCUcCIcCAAcCEEcCEcCOcCWAcXAcXUcXI",
      "cXAAcXEEcXEcXOcXOAcXWA"]⟩,
    ⟨0x128A, [
      "aETHIOPIC SYLLABLE XWIcXWAAcXWEEcXWE"]⟩,
    ⟨0x1290, [
      "aETHIOPIC SYLLABLE NAcNUcNIcNAAcNEEcNEcNOcNWAcNYAcNYUcNYIcNYAAcNYEE",
      "cNYEcNYOcNYWAcGLOTTAL AdUdIdAAdEEdEdOdWAcKAcKUcKIcKAAcKEEcKEcKOcKOA",
      "cKWA"]⟩,
    ⟨0x12B2, [
      "aETHIOPIC SYLLABLE KWIcKWAAcKWEEcKWE"]⟩,
    ⟨0x12B8, [
      "aETHIOPIC SYLLABLE KXAcKXUcKXIcKXAAcKXEEcKXEcKXO"]⟩,
    ⟨0x12C0, [
      "aETHIOPIC SYLLABLE KXWA"]⟩,
    ⟨0x12C2, [
      "aETHIOPIC SYLLABLE KXWIcKXWAAcKXWEEcKXWE"]⟩,
    ⟨0x12C8, [
      "aETHIOPIC SYLLABLE WAcWUcWIcWAAcWEEcWEcWOcWOAcPHARYNGEAL AdUdIdAAdEE",
      "dEdO"]⟩,
    ⟨0x12D8, [
      "aETHIOPIC SYLLABLE ZAcZUcZIcZAAcZEEcZEcZOcZWAcZHAcZHUcZHIcZHAAcZHEE",
      "cZHEcZHOcZHWAcYAcYUcYIcYAAcYEEcYEcYOcYOAcDAcDUcDIcDAAcDEEcDEcDOcDWA",
      "cDDAcDDUcDDIcDDAAcDDEEcDDEcDDOcDDWAcJAcJUcJIcJAAcJEEcJEcJOcJWAcGAcGU",
      "cGIcGAAcGEEcGEcGOcGOAcGWA"]⟩,
    ⟨0x1312, [
      "aETHIOPIC SYLLABLE GWIcGWAAcGWEEcGWE"]⟩,
    ⟨0x1318, [
      "aETHIOPIC SYLLABLE GGAcGGUcGGIcGGAAcGGEEcGGEcGGOcGGWAAcTHAcTHUcTHI",
      "cTHAAcTHEEcTHEcTHOcTHWAcCHAcCHUcCHIcCHAAcCHEEcCHEcCHOcCHWAcPHAcPHU",
      "cPHIcPHAAcPHEEcPHEcPHOcPHWAcTSAcTSUcTSIcTSAAcTSEEcTSEcTSOcTSWAcTZA",
      "cTZUcTZIcTZAAcTZEEcTZEcTZOcTZOAcFAcFUcFIcFAAcFEEcFEcFOcFWAcPAcPUcPI",
      "cPAAcPEEcPEcPOcPWAcRYAcMYAcFYA"]⟩,
    ⟨0x135D, [
      "aETHIOPIC COMBINING GEMINATION AND VOWEL LENGTH MARK",
      "cVOWEL LENGTH MARKcGEMINATION MARKbSECTION MARKbWORDSPACEbFULL STOP",
      "bCOMMAbSEMICOLONbCOLONbPREFACE COLONbQUESTION MARK",
      "bPARAGRAPH SEPARATORbDIGIT ONEcTWOcTHREEcFOURcFIVEcSIXcSEVENcEIGHT",
      "cNINEbNUMBER TENcTWENTYcTHIRTYcFORTYcFIFTYcSIXTYcSEVENTYcEIGHTY",
      "cNINETYcHUNDREDcTEN THOUSAND"]⟩,
    ⟨0x1380, [
      "aETHIOPIC SYLLABLE SEBATBEIT MWAcMWIcMWEEcMWEcSEBATBEIT BWAcBWIcBWEE",
      "cBWEcSEBATBEIT FWAcFWIcFWEEcFWEcSEBATBEIT PWAcPWIcPWEEcPWE",
      "bTONAL MARK YIZETdDERETdRIKRIKdSHORT RIKRIKdDIFATdKENATdCHIRETdHIDET",
      "dDERET-HIDETdKURT"]⟩,
    ⟨0x13A0, [
      "aCHEROKEE LETTER AcEcIcOcUcVcGAcKAcGEcGIcGOcGUcGVcHAcHEcHIcHOcHUcHV",
      "cLAcLEcLIcLOcLUcLVcMAcMEcMIcMOcMUcNAcHNAcNAHcNEcNIcNOcNUcNVcQUAcQUE",
      "cQUIcQUOcQUUcQUVcSAcScSEcSIcSOcSUcSVcDAcTAcDEcTEcDIcTIcDOcDUcDVcDLA",
      "cTLAcTLEcTLIcTLOcTLUcTLVcTSAcTSEcTSIcTSOcTSUcTSVcWAcWEcWIcWOcWUcWV",
      "cYAcYEcYIcYOcYUcYVcMV"]⟩,
    ⟨0x13F8, [
      "aCHEROKEE SMALL LETTER YEdYIdYOdYUdYVdMV"]⟩,
    ⟨0x1400, [
      "aCANADIAN SYLLABICS HYPHENcEcAAIcIcIIcOcOOcY-CREE OOcCARRIER EEdIcA",
      "cAAcWEcWEST-CREE WEcWIcWEST-CREE WIcWIIcWEST-CREE WIIcWO",
      "cWEST-CREE WOcWOOcWEST-CREE WOOcNASKAPI WOOcWAcWEST-CREE WAcWAA",
      "cWEST-CREE WAAcNASKAPI WAAcAIcY-CREE WcGLOTTAL STOPcFINAL ACUTE",
      "dGRAVEdBOTTOM HALF RINGdTOP HALF RINGdRIGHT HALF RINGdRING",
      "dDOUBLE ACUTEeSHORT VERTICAL STROKESdMIDDLE DOT",
      "dSHORT HORIZONTAL STROKEdPLUSdDOWN TACKcENcINcONcANcPEcPAAIcPIcPII",
      "cPOcPOOcY-CREE POOcCARRIER HEEdHIcPAcPAAcPWEcWEST-CREE PWEcPWI",
      "cWEST-CREE PWIcPWIIcWEST-CREE PWIIcPWOcWEST-CREE PWOcPWOO",
      "cWEST-CREE PWOOcPWAcWEST-CREE PWAcPWAAcWEST-CREE PWAAcY-CREE PWAAcP",
      "cWEST-CREE PcCARRIER HcTEcTAAIcTIcTIIcTOcTOOcY-CREE TOOcCARRIER DEE",
      "dDIcTAcTAAcTWEcWEST-CREE TWEcTWIcWEST-CREE TWIcTWIIcWEST-CREE TWII",
      "cTWOcWEST-CREE TWOcTWOOcWEST-CREE TWOOcTWAcWEST-CREE TWAcTWAA",
      "cWEST-CREE TWAAcNASKAPI TWAAcTcTTEcTTIcTTOcTTAcKEcKAAIcKIcKIIcKOcKOO",
      "cY-CREE KOOcKAcKAAcKWEcWEST-CREE KWEcKWIcWEST-CREE KWIcKWII",
      "cWEST-CREE KWIIcKWOcWEST-CREE KWOcKWOOcWEST-CREE KWOOcKWA",
      "cWEST-CREE KWAcKWAAcWEST-CREE KWAAcNASKAPI KWAAcKcKW",
      "cSOUTH-SLAVEY KEHdKIHdKOHdKAHcCEcCAAIcCIcCIIcCOcCOOcY-CREE COOcCA",
      "cCAAcCWEcWEST-CREE CWEcCWIcWEST-CREE CWIcCWIIcWEST-CREE CWIIcCWO",
      "cWEST-CREE CWOcCWOOcWEST-CREE CWOOcCWAcWEST-CREE CWAcCWAA",
      "cWEST-CREE CWAAcNASKAPI CWAAcCcSAYISI THcMEcMAAIcMIcMIIcMOcMOO",
      "cY-CREE MOOcMAcMAAcMWEcWEST-CREE MWEcMWIcWEST-CREE MWIcMWII",
      "cWEST-CREE MWIIcMWOcWEST-CREE MWOcMWOOcWEST-CREE MWOOcMWA",
      "cWEST-CREE MWAcMWAAcWEST-CREE MWAAcNASKAPI MWAAcMcWEST-CREE McMH",
      "cATHAPASCAN McSAYISI McNEcNAAIcNIcNIIcNOcNOOcY-CREE NOOcNAcNAAcNWE",
      "cWEST-CREE NWEcNWAcWEST-CREE NWAcNWAAcWEST-CREE NWAAcNASKAPI NWAAcN",
      "cCARRIER NGcNHcLEcLAAIcLIcLIIcLOcLOOcY-CREE LOOcLAcLAAcLWE",
      "cWEST-CREE LWEcLWIcWEST-CREE LWIcLWIIcWEST-CREE LWIIcLWO",
      "cWEST-CREE LWOcLWOOcWEST-CREE LWOOcLWAcWEST-CREE LWAcLWAA",
      "cWEST-CREE LWAAcLcWEST-CREE LcMEDIAL LcSEcSAAIcSIcSIIcSOcSOO",
      "cY-CREE SOOcSAcSAAcSWEcWEST-CREE SWEcSWIcWEST-CREE SWIcSWII",
      "cWEST-CREE SWIIcSWOcWEST-CREE SWOcSWOOcWEST-CREE SWOOcSWA",
      "cWEST-CREE SWAcSWAAcWEST-CREE SWAAcNASKAPI SWAAcScATHAPASCAN ScSW",
      "cBLACKFOOT ScMOOSE-CREE SKcNASKAPI SKWdS-WdSPWAdSTWAdSKWAdSCWAcSHE",
      "cSHIcSHIIcSHOcSHOOcSHAcSHAAcSHWEcWEST-CREE SHWEcSHWIcWEST-CREE SHWI",
      "cSHWIIcWEST-CREE SHWIIcSHWOcWEST-CREE SHWOcSHWOOcWEST-CREE SHWOO",
      "cSHWAcWEST-CREE SHWAcSHWAAcWEST-CREE SHWAAcSHcYEcYAAIcYIcYIIcYOcYOO",
      "cY-CREE YOOcYAcYAAcYWEcWEST-CREE YWEcYWIcWEST-CREE YWIcYWII",
      "cWEST-CREE YWIIcYWOcWEST-CREE YWOcYWOOcWEST-CREE YWOOcYWA",
      "cWEST-CREE YWAcYWAAcWEST-CREE YWAAcNASKAPI YWAAcYcBIBLE-CREE Y",
      "cWEST-CREE YcSAYISI YIcREcR-CREE REcWEST-CREE LEcRAAIcRIcRIIcROcROO",
      "cWEST-CREE LOcRAcRAAcWEST-CREE LAcRWAAcWEST-CREE RWAAcRcWEST-CREE R",
      "cMEDIAL RcFEcFAAIcFIcFIIcFOcFOOcFAcFAAcFWAAcWEST-CREE FWAAcFcTHE",
      "cN-CREE THEcTHIcN-CREE THIcTHIIcN-CREE THIIcTHOcTHOOcTHAcTHAAcTHWAA",
      "cWEST-CREE THWAAcTHcTTHEcTTHIcTTHOcTTHAcTTHcTYEcTYIcTYOcTYA",
      "cNUNAVIK HEdHIdHIIdHOdHOOdHAdHAAdHcNUNAVUT HcHKcQAAIcQIcQIIcQOcQOO",
      "cQAcQAAcQcTLHEcTLHIcTLHOcTLHAcWEST-CREE REdRIdROdRAcNGAAIcNGIcNGII",
      "cNGOcNGOOcNGAcNGAAcNGcNNGcSAYISI SHEdSHIdSHOdSHAcWOODS-CREE THEdTHI",
      "dTHOdTHAdTHcLHIcLHIIcLHOcLHOOcLHAcLHAAcLHcTH-CREE THEdTHIdTHIIdTHO",
      "dTHOOdTHAdTHAAdTHcAIVILIK BcBLACKFOOT EdIdOdAdWEdWIdWOdWAdNEdNIdNO",
      "dNAdKEdKIdKOdKAcSAYISI HEdHIdHOdHAcCARRIER GHUdGHOdGHEdGHEEdGHIdGHA",
      "dRUdROdREdREEdRIdRAdWUdWOdWEdWEEdWIdWAdHWUdHWOdHWEdHWEEdHWIdHWAdTHU",
      "dTHOdTHEdTHEEdTHIdTHAdTTUdTTOdTTEdTTEEdTTIdTTAdPUdPOdPEdPEEdPIdPAdP",
      "dGUdGOdGEdGEEdGIdGAdKHUdKHOdKHEdKHEEdKHIdKHAdKKUdKKOdKKEdKKEEdKKI",
      "dKKAdKKdNUdNOdNEdNEEdNIdNAdMUdMOdMEdMEEdMIdMAdYUdYOdYEdYEEdYIdYAdJU",
      "cSAYISI JUcCARRIER JOdJEdJEEdJIcSAYISI JIcCARRIER JAdJJUdJJOdJJE",
      "dJJEEdJJIdJJAdLUdLOdLEdLEEdLIdLAdDLUdDLOdDLEdDLEEdDLIdDLAdLHUdLHO",
      "dLHEdLHEEdLHIdLHAdTLHUdTLHOdTLHEdTLHEEdTLHIdTLHAdTLUdTLOdTLEdTLEE",
      "dTLIdTLAdZUdZOdZEdZEEdZIdZAdZdINITIAL ZdDZUdDZOdDZEdDZEEdDZIdDZAdSU",
      "dSOdSEdSEEdSIdSAdSHUdSHOdSHEdSHEEdSHIdSHAdSHdTSUdTSOdTSEdTSEEdTSI",
      "dTSAdCHUdCHOdCHEdCHEEdCHIdCHAdTTSUdTTSOdTTSEdTTSEEdTTSIdTTSA",
      "cCHI SIGNcFULL STOPcQAIcNGAIcNNGIcNNGIIcNNGOcNNGOOcNNGAcNNGAA",
      "cWOODS-CREE THWEEdTHWIdTHWIIdTHWOdTHWOOdTHWAdTHWAAdFINAL TH",
      "cBLACKFOOT WaOGHAM SPACE MARKbLETTER BEITHcLUIScFEARNcSAILcNIONcUATH",
      "cDAIRcTINNEcCOLLcCEIRTcMUINcGORTcNGEADALcSTRAIFcRUIScAILMcONNcUR",
      "cEADHADHcIODHADHcEABHADHcORcUILLEANNcIFINcEAMHANCHOLLcPEITH",
      "bFEATHER MARKbREVERSED FEATHER MARK"]⟩,
    ⟨0x16A0, [
      "aRUNIC LETTER FEHU FEOH FE FcVcURUZ UR UcYRcYcWcTHURISAZ THURS THORN",
      "cETHcANSUZ AcOS OcAC AcAESCcLONG-BRANCH-OSS OcSHORT-TWIG-OSS OcOcOE",
      "cONcRAIDO RAD REID RcKAUNAcCENcKAUN KcGcENGcGEBO GYFU GcGAR",
      "cWUNJO WYNN WcHAGLAZ HcHAEGL HcLONG-BRANCH-HAGALL H",
      "cSHORT-TWIG-HAGALL HcNAUDIZ NYD NAUD NcSHORT-TWIG-NAUD NcDOTTED-N",
      "cISAZ IS ISS IcEcJERAN JcGERcLONG-BRANCH-AR AEcSHORT-TWIG-AR A",
      "cIWAZ EOHcPERTHO PEORTH PcALGIZ EOLHXcSOWILO S",
      "cSIGEL LONG-BRANCH-SOL ScSHORT-TWIG-SOL ScCcZcTIWAZ TIR TYR T",
      "cSHORT-TWIG-TYR TcDcBERKANAN BEORC BJARKAN BcSHORT-TWIG-BJARKAN B",
      "cDOTTED-PcOPEN-PcEHWAZ EH EcMANNAZ MAN McLONG-BRANCH-MADR M",
      "cSHORT-TWIG-MADR McLAUKAZ LAGU LOGR LcDOTTED-LcINGWAZcING",
      "cDAGAZ DAEG DcOTHALAN ETHEL OcEARcIORcCWEORTHcCALCcCEALCcSTAN",
      "cLONG-BRANCH-YRcSHORT-TWIG-YRcICELANDIC-YRcQcXbSINGLE PUNCTUATION",
      "bMULTIPLE PUNCTUATIONbCROSS PUNCTUATIONbARLAUG SYMBOL",
      "bTVIMADUR SYMBOLbBELGTHOR SYMBOLbLETTER KcSHcOOcFRANKS CASKET OSeIS",
      "eEHeACeAESC"]⟩,
    ⟨0x1700, [
      "aTAGALOG LETTER AcIcUcKAcGAcNGAcTAcDAcNAcPAcBAcMAcYAcRAcLAcWAcSAcHA",
      "bVOWEL SIGN IdUbSIGN VIRAMAcPAMUDPOD"]⟩,
    ⟨0x171F, [
      "aTAGALOG LETTER ARCHAIC RAaHANUNOO LETTER AcIcUcKAcGAcNGAcTAcDAcNA",
      "cPAcBAcMAcYAcRAcLAcWAcSAcHAbVOWEL SIGN IdUbSIGN PAMUDPOD",
      "aPHILIPPINE SINGLE PUNCTUATIONbDOUBLE PUNCTUATION"]⟩,
    ⟨0x1740, [
      "aBUHID LETTER AcIcUcKAcGAcNGAcTAcDAcNAcPAcBAcMAcYAcRAcLAcWAcSAcHA",
      "bVOWEL SIGN IdU"]⟩,
    ⟨0x1760, [
      "aTAGBANWA LETTER AcIcUcKAcGAcNGAcTAcDAcNAcPAcBAcMAcYA"]⟩,
    ⟨0x176E, [
      "aTAGBANWA LETTER LAcWAcSA"]⟩,
    ⟨0x1772, [
      "aTAGBANWA VOWEL SIGN IdU"]⟩,
    ⟨0x1780, [
      "aKHMER LETTER KAcKHAcKOcKHOcNGOcCAcCHAcCOcCHOcNYOcDAcTTHAcDOcTTHO",
      "cNNOcTAcTHAcTOcTHOcNOcBAcPHAcPOcPHOcMOcYOcROcLOcVOcSHAcSSOcSAcHAcLA",
      "cQAbINDEPENDENT VOWEL QAQdQAAdQIdQIIdQUdQUKdQUUdQUUVdRYdRYYdLYdLYY",
      "dQEdQAIdQOO TYPE ONEfTWOdQAUbVOWEL INHERENT AQdAAcSIGN AAdIdIIdYdYY",
      "dUdUUdUAdOEdYAdIEdEdAEdAIdOOdAUbSIGN NIKAHITcREAHMUKcYUUKALEAPINTU",
      "cMUUSIKATOANcTRIISAPcBANTOCcROBATcTOANDAKHIATcKAKABATcAHSDA",
      "cSAMYOK SANNYAcVIRIAMcCOENGcBATHAMASATcKHANcBARIYOOSAN",
      "cCAMNUC PII KUUHcLEK TOOcBEYYALcPHNAEK MUANcKOOMUUT",
      "bCURRENCY SYMBOL RIELbSIGN AVAKRAHASANYAcATTHACAN"]⟩,
    ⟨0x17E0, [
      "aKHMER DIGIT ZEROcONEcTWOcTHREEcFOURcFIVEcSIXcSEVENcEIGHTcNINE"]⟩,
    ⟨0x17F0, [
      "aKHMER SYMBOL LEK ATTAK SONeMUOYePIIeBEIeBUONePRAMePRAM-MUOY",
      "ePRAM-PIIePRAM-BEIePRAM-BUON"]⟩,
    ⟨0x1800, [
      "aMONGOLIAN BIRGAbELLIPSISbCOMMAbFULL STOPbCOLONbFOUR DOTS",
      "bTODO SOFT HYPHENbSIBE SYLLABLE BOUNDARY MARKERbMANCHU COMMA",
      "cFULL STOPbNIRUGUbFREE VARIATION SELECTOR ONEeTWOeTHREE",
      "bVOWEL SEPARATORbFREE VARIATION SELECTOR FOURbDIGIT ZEROcONEcTWO",
      "cTHREEcFOURcFIVEcSIXcSEVENcEIGHTcNINE"]⟩,
    ⟨0x1820, [
      "aMONGOLIAN LETTER AcEcIcOcUcOEcUEcEEcNAcANGcBAcPAcQAcGAcMAcLAcSAcSHA",
      "cTAcDAcCHAcJAcYAcRAcWAcFAcKAcKHAcTSAcZAcHAAcZRAcLHAcZHIcCHI",
      "cTODO LONG VOWEL SIGNdEdIdOdUdOEdUEdANGdBAdPAdQAdGAdMAdTAdDAdCHAdJA",
      "dTSAdYAdWAdKAdGAAdHAAdJIAdNIAdDZAcSIBE EdIdIYdUEdUdANGdKAdGAdHAdPA",
      "dSHAdTAdDAdJAdFAdGAAdHAAdTSAdZAdRAAdCHAdZHAcMANCHU IdKAdRAdFAdZHA",
      "cCHA WITH TWO DOTS"]⟩,
    ⟨0x1880, [
      "aMONGOLIAN LETTER ALI GALI ANUSVARA ONEeVISARGA ONEeDAMARUeUBADAMA",
      "eINVERTED UBADAMAeBALUDAeTHREE BALUDAeAeIeKAeNGAeCAeTTAeTTHAeDDAeNNA",
      "eTAeDAePAePHAeSSAeZHAeZAeAHcTODO ALI GALI TAfZHAcMANCHU ALI GALI GHA",
      "fNGAfCAfJHAfTTAfDDHAfTAfDHAfSSAfCYAfZHAfZAcALI GALI HALF UfYA",
      "cMANCHU ALI GALI BHAcALI GALI DAGALGAcMANCHU ALI GALI LHA"]⟩,
    ⟨0x18B0, [
      "aCANADIAN SYLLABICS OYcAYcAAYcWAYcPOYcPAYcPWOYcTAYcKAYcKWAYcMAYcNOY",
      "cNAYcLAYcSOYcSAYcSHOYcSHAYcSHWOYcYOYcYAYcRAYcNWIcOJIBWAY NWIcNWII",
      "cOJIBWAY NWIIcNWOcOJIBWAY NWOcNWOOcOJIBWAY NWOOcRWEEcRWIcRWIIcRWO",
      "cRWOOcRWAcOJIBWAY PdTdKdCdMdNdSdSHcEASTERN WcWESTERN W",
      "cFINAL SMALL RINGdRAISED DOTcR-CREE RWEcWEST-CREE LOOdLAAcTHWEcTHWA",
      "cTTHWEcTTHOOcTTHAAcTLHWEcTLHOOcSAYISI SHWEdSHOOdHOOcCARRIER GWU",
      "dDENE GEEdGAAdGWAcSAYISI JUUcCARRIER JWAcBEAVER DENE LeR",
      "cCARRIER DENTAL S"]⟩,
    ⟨0x1900, [
      "aLIMBU VOWEL-CARRIER LETTERbLETTER KAcKHAcGAcGHAcNGAcCAcCHAcJAcJHA",
      "cYANcTAcTHAcDAcDHAcNAcPAcPHAcBAcBHAcMAcYAcRAcLAcWAcSHAcSSAcSAcHA",
      "cGYANcTRA"]⟩,
    ⟨0x1920, [
      "aLIMBU VOWEL SIGN AdIdUdEEdAIdOOdAUdEdObSUBJOINED LETTER YAdRAdWA"]⟩,
    ⟨0x1930, [
      "aLIMBU SMALL LETTER KAdNGAdANUSVARAdTAdNAdPAdMAdRAdLAbSIGN MUKPHRENG",
      "cKEMPHRENGcSA-I"]⟩,
    ⟨0x1940, [
      "aLIMBU SIGN LOO"]⟩,
    ⟨0x1944, [
      "aLIMBU EXCLAMATION MARKbQUESTION MARKbDIGIT ZEROcONEcTWOcTHREEcFOUR",
      "cFIVEcSIXcSEVENcEIGHTcNINEaTAI LE LETTER KAdXAdNGAdTSAdSAdYAdTAdTHA",
      "dLAdPAdPHAdMAdFAdVAdHAdQAdKHAdTSHAdNAdAdIdEEdEHdUdOOdOdUEdEdAUEdAI"]⟩,
    ⟨0x1970, [
      "aTAI LE LETTER TONE-2dTONE-3dTONE-4dTONE-5dTONE-6"]⟩,
    ⟨0x1980, [
      "aNEW TAI LUE LETTER HIGH QAeLOW QAeHIGH KAfXAfNGAeLOW KAfXAfNGA",
      "eHIGH TSAfSAfYAeLOW TSAfSAfYAeHIGH TAfTHAfNAeLOW TAfTHAfNAeHIGH PA",
      "fPHAfMAeLOW PAfPHAfMAeHIGH FAfVAfLAeLOW FAfVAfLAeHIGH HAfDAfBA",
      "eLOW HAfDAfBAeHIGH KVAfXVAeLOW KVAfXVAeHIGH SUAeLOW SUA"]⟩,
    ⟨0x19B0, [
      "aNEW TAI LUE VOWEL SIGN VOWEL SHORTENERfAAfIIfUfUUfEfAEfOfOAfUEfAY",
      "fAAYfUYfOYfOAYfUEYfIYdLETTER FINAL VfNGfNfMfKfDfBdTONE MARK-1eMARK-2"]⟩,
    ⟨0x19D0, [
      "aNEW TAI LUE DIGIT ZEROeONEeTWOeTHREEeFOUReFIVEeSIXeSEVENeEIGHTeNINE",
      "dTHAM DIGIT ONE"]⟩,
    ⟨0x19DE, [
      "aNEW TAI LUE SIGN LAEeLAEVaKHMER SYMBOL PATHAMASATcMUOY KOET",
      "cPII KOETcBEI KOETcBUON KOETcPRAM KOETcPRAM-MUOY KOETcPRAM-PII KOET",
      "cPRAM-BEI KOETcPRAM-BUON KOETcDAP KOETcDAP-MUOY KOETcDAP-PII KOET",
      "cDAP-BEI KOETcDAP-BUON KOETcDAP-PRAM KOETcTUTEYASATcMUOY ROCcPII ROC",
      "cBEI ROCcBUON ROCcPRAM ROCcPRAM-MUOY ROCcPRAM-PII ROCcPRAM-BEI ROC",
      "cPRAM-BUON ROCcDAP ROCcDAP-MUOY ROCcDAP-PII ROCcDAP-BEI ROC",
      "cDAP-BUON ROCcDAP-PRAM ROCaBUGINESE LETTER KAcGAcNGAcNGKAcPAcBAcMA",
      "cMPAcTAcDAcNAcNRAcCAcJAcNYAcNYCAcYAcRAcLAcVAcSAcAcHAbVOWEL SIGN IdU",
      "dEdOdAE"]⟩,
    ⟨0x1A1E, [
      "aBUGINESE PALLAWAbEND OF SECTIONaTAI THAM LETTER HIGH KAeKHAeKXA",
      "dLOW KAeKXAeKHAdNGAdHIGH CAeCHAdLOW CAeSAeCHAdNYAdRATAdHIGH RATHAdDA",
      "dLOW RATHAdRANAdHIGH TAeTHAdLOW TAeTHAdNAdBAdHIGH PAePHAeFAdLOW PA",
      "eFAePHAdMAdLOW YAdHIGH YAdRAdRUEdLAdLUEdWAdHIGH SHAeSSAeSAeHAdLLAdA",
      "dLOW HAdIdIIdUdUUdEEdOOdLAEdGREAT SAcCONSONANT SIGN MEDIAL RAfLA",
      "eLA TANG LAIcSIGN MAI KANG LAIcCONSONANT SIGN FINAL NGAeLOW PA",
      "eHIGH RATHA OR LOW PAeMAeBAeSA"]⟩,
    ⟨0x1A60, [
      "aTAI THAM SIGN SAKOTcVOWEL SIGN AeMAI SATeAAeTALL AAeIeIIeUEeUUEeU",
      "eUUeOeOA BELOWeOYeEeAEeOOeAIeTHAM AIeOA ABOVEcSIGN MAI KANGdTONE-1",
      "dTONE-2dKHUEN TONE-3eTONE-4eTONE-5dRA HAAMdMAI SAMdKHUEN-LUE KARAN"]⟩,
    ⟨0x1A7F, [
      "aTAI THAM COMBINING CRYPTOGRAMMIC DOTcHORA DIGIT ZEROeONEeTWOeTHREE",
      "eFOUReFIVEeSIXeSEVENeEIGHTeNINE"]⟩,
    ⟨0x1A90, [
      "aTAI THAM THAM DIGIT ZEROeONEeTWOeTHREEeFOUReFIVEeSIXeSEVENeEIGHT",
      "eNINE"]⟩,
    ⟨0x1AA0, [
      "aTAI THAM SIGN WIANGdWIANGWAAKdSAWANdKEOWdHOYdDOKMAI",
      "dREVERSED ROTATED RANAdMAI YAMOKdKAANdKAANKUUdSATKAANdSATKAANKUU",
      "dHANGdCAANG"]⟩,
    ⟨0x1AB0, [
      "aCOMBINING DOUBLED CIRCUMFLEX ACCENTbDIAERESIS-RINGbINFINITY",
      "bDOWNWARDS ARROWbTRIPLE DOTbX-X BELOWbWIGGLY LINE BELOW",
      "bOPEN MARK BELOWbDOUBLE OPEN MARK BELOW",
      "bLIGHT CENTRALIZATION STROKE BELOW",
      "bSTRONG CENTRALIZATION STROKE BELOWbPARENTHESES ABOVE",
      "bDOUBLE PARENTHESES ABOVEbPARENTHESES BELOWcOVERLAY",
      "bLATIN SMALL LETTER W BELOWeTURNED W BELOW",
      "bLEFT PARENTHESIS ABOVE LEFTbRIGHT PARENTHESIS ABOVE RIGHT",
      "bLEFT PARENTHESIS BELOW LEFTbRIGHT PARENTHESIS BELOW RIGHT",
      "bSQUARE BRACKETS ABOVEbNUMBER SIGN ABOVEbINVERTED DOUBLE ARCH ABOVE",
      "bPLUS SIGN ABOVEbDOUBLE PLUS SIGN ABOVEeBELOWbTRIPLE ACUTE ACCENT",
      "bLATIN SMALL LETTER INSULAR GfRfT"]⟩,
    ⟨0x1B00, [
      "aBALINESE SIGN ULU RICEMdCANDRAcCECEKcSURANGcBISAHbLETTER AKARA",
      "dTEDUNGcIKARAdTEDUNGcUKARAdTEDUNGcRA REPAeTEDUNGcLA LENGAeTEDUNG",
      "cEKARAcAIKARAcOKARAdTEDUNGcKAdMAHAPRANAcGAdGORAcNGAcCAdLACAcJAdJERA",
      "cNYAcTA LATIKdMURDA MAHAPRANAcDA MURDA ALPAPRANAeMAHAPRANAcNA RAMBAT",
      "cTAdTAWAcDAdMADUcNAcPAdKAPALcBAdKEMBANGcMAcYAcRAcLAcWAcSA SAGAdSAPA",
      "cSAcHAbSIGN REREKANbVOWEL SIGN TEDUNGdULUeSARIdSUKUeILUTdRA REPA",
      "fTEDUNGdLA LENGAfTEDUNGdTALINGeREPAeTEDUNGeREPA TEDUNGdPEPETeTEDUNG",
      "bADEG ADEGbLETTER KAF SASAKcKHOT SASAKcTZIR SASAKcEF SASAKcVE SASAK",
      "cZAL SASAKcASYURA SASAKcARCHAIC JNYA"]⟩,
    ⟨0x1B50, [
      "aBALINESE DIGIT ZEROcONEcTWOcTHREEcFOURcFIVEcSIXcSEVENcEIGHTcNINE",
      "bPANTIbPAMADAbWINDUbCARIK PAMUNGKAHcSIKIcPARERENbPAMENENG",
      "bMUSICAL SYMBOL DONGdDENGdDUNGdDANGeSURANGdDINGdDAENGdDEUNGdDAING",
      "dDANG GEDEdCOMBINING TEGEHeENDEPeKEMPULeKEMPLIeJEGOGAN",
      "eKEMPUL WITH JEGOGANeKEMPLI WITH JEGOGANeBENDEeGONG",
      "dRIGHT-HAND OPEN DUGfDAGeCLOSED TUKfTAKdLEFT-HAND OPEN PANGfPUNG",
      "eCLOSED PLAKfPLUKeOPEN PINGbPANTI LANTANGbPAMADA LANTANG"]⟩,
    ⟨0x1B80, [
      "aSUNDANESE SIGN PANYECEKcPANGLAYARcPANGWISADbLETTER AcIcUcAEcOcEcEU",
      "cKAcQAcGAcNGAcCAcJAcZAcNYAcTAcDAcNAcPAcFAcVAcBAcMAcYAcRAcLAcWAcSAcXA",
      "cHAbCONSONANT SIGN PAMINGKALdPANYAKRAdPANYIKUbVOWEL SIGN PANGHULU",
      "dPANYUKUdPANAELAENGdPANOLONGdPAMEPETdPANEULEUNGbSIGN PAMAAEHcVIRAMA",
      "bCONSONANT SIGN PASANGAN MAeWAbLETTER KHAcSYAbDIGIT ZEROcONEcTWO",
      "cTHREEcFOURcFIVEcSIXcSEVENcEIGHTcNINEbAVAGRAHAbLETTER REUcLEUcBHA",
      "cFINAL KdMaBATAK LETTER AcSIMALUNGUN AcHAcSIMALUNGUN HA",
      "cMANDAILING HAcBAcKARO BAcPAcSIMALUNGUN PAcNAcMANDAILING NAcWA",
      "cSIMALUNGUN WAcPAKPAK WAcGAcSIMALUNGUN GAcJAcDAcRAcSIMALUNGUN RAcMA",
      "cSIMALUNGUN MAcSOUTHERN TAcNORTHERN TAcSAcSIMALUNGUN SA",
      "cMANDAILING SAcYAcSIMALUNGUN YAcNGAcLAcSIMALUNGUN LAcNYAcCAcNDAcMBA",
      "cIcUbSIGN TOMPIbVOWEL SIGN EdPAKPAK EdEEdIdKARO IdOdKARO OdU",
      "eFOR SIMALUNGUN SAbCONSONANT SIGN NGdHbPANGOLATbPANONGONAN"]⟩,
    ⟨0x1BFC, [
      "aBATAK SYMBOL BINDU NA METEKdPINARBORASdJUDULdPANGOLAT",
      "aLEPCHA LETTER KAcKLAcKHAcGAcGLAcNGAcCAcCHAcJAcNYAcTAcTHAcDAcNAcPA",
      "cPLAcPHAcFAcFLAcBAcBLAcMAcMLAcTSAcTSHAcDZAcYAcRAcLAcHAcHLAcVAcSAcSHA",
      "cWAcAbSUBJOINED LETTER YAdRAbVOWEL SIGN AAdIdOdOOdUdUUdE",
      "bCONSONANT SIGN KdMdLdNdPdRdTdNYIN-DOdKANGbSIGN RANcNUKTA"]⟩,
    ⟨0x1C3B, [
      "aLEPCHA PUNCTUATION TA-ROLcNYET THYOOM TA-ROLcCER-WAcTSHOOK CER-WA",
      "cTSHOOKbDIGIT ZEROcONEcTWOcTHREEcFOURcFIVEcSIXcSEVENcEIGHTcNINE"]⟩,
    ⟨0x1C4D, [
      "aLEPCHA LETTER TTAcTTHAcDDAaOL CHIKI DIGIT ZEROdONEdTWOdTHREEdFOUR",
      "dFIVEdSIXdSEVENdEIGHTdNINEcLETTER LAdATdAGdANGdALdLAAdAAKdAAJdAAM",
      "dAAWdLIdISdIHdINYdIRdLUdUCdUDdUNNdUYdLEdEPdEDDdENdERRdLOdOTTdOBdOV",
      "dOHcMU TTUDDAGcGAAHLAA TTUDDAAGcMU-GAAHLAA TTUDDAAGcRELAAcPHAARKAA",
      "cAHADcPUNCTUATION MUCAADdDOUBLE MUCAAD",
      "aCYRILLIC SMALL LETTER ROUNDED VEdLONG-LEGGED DEdNARROW OdWIDE ES",
      "dTALL TEdTHREE-LEGGED TEdTALL HARD SIGNeYATdUNBLENDED UK"]⟩,
    ⟨0x1C90, [
      "aGEORGIAN MTAVRULI CAPITAL LETTER ANeBANeGANeDONeENeVINeZENeTANeIN",
      "eKANeLASeMANeNAReONePAReZHAReRAEeSANeTAReUNePHAReKHAReGHANeQAReSHIN",
      "eCHINeCANeJILeCILeCHAReXANeJHANeHAEeHEeHIEeWEeHAReHOEeFIeYNeELIFI",
      "eTURNED GANeAIN"]⟩,
    ⟨0x1CBD, [
      "aGEORGIAN MTAVRULI CAPITAL LETTER AENeHARD SIGNeLABIAL SIGN",
      "aSUNDANESE PUNCTUATION BINDU SURYAdPANGLONGdPURNAMAdCAKRA",
      "dLEU SATANGAdKA SATANGAdDA SATANGAdBA SATANGA"]⟩,
    ⟨0x1CD0, [
      "aVEDIC TONE KARSHANAcSHARAcPRENKHAbSIGN NIHSHVASA",
      "cYAJURVEDIC MIDLINE SVARITA",
      "bTONE YAJURVEDIC AGGRAVATED INDEPENDENT SVARITAdINDEPENDENT SVARITA",
      "dKATHAKA INDEPENDENT SVARITAcCANDRA BELOW",
      "cYAJURVEDIC KATHAKA INDEPENDENT SVARITA SCHROEDERcDOUBLE SVARITA",
      "cTRIPLE SVARITAcKATHAKA ANUDATTAcDOT BELOWcTWO DOTS BELOW",
      "cTHREE DOTS BELOWcRIGVEDIC KASHMIRI INDEPENDENT SVARITA",
      "cATHARVAVEDIC INDEPENDENT SVARITAbSIGN VISARGA SVARITAdUDATTA",
      "cREVERSED VISARGA UDATTAcVISARGA ANUDATTAcREVERSED VISARGA ANUDATTA",
      "cVISARGA UDATTA WITH TAILdANUDATTA WITH TAILcANUSVARA ANTARGOMUKHA",
      "dBAHIRGOMUKHAdVAMAGOMUKHAeWITH TAILcTIRYAKcHEXIFORM LONG ANUSVARA",
      "cLONG ANUSVARAcRTHANG LONG ANUSVARAcANUSVARA UBHAYATO MUKHA",
      "cARDHAVISARGAcROTATED ARDHAVISARGAbTONE CANDRA ABOVE",
      "bSIGN JIHVAMULIYAcUPADHMANIYAcATIKRAMAbTONE RING ABOVE",
      "cDOUBLE RING ABOVEbSIGN DOUBLE ANUSVARA ANTARGOMUKHA"]⟩,
    ⟨0x1D00, [
      "aLATIN LETTER SMALL CAPITAL AeAEbSMALL LETTER TURNED AE",
      "bLETTER SMALL CAPITAL BARRED BeCeDeETHeEbSMALL LETTER TURNED OPEN E",
      "eIbLETTER SMALL CAPITAL JeKeL WITH STROKEeMeREVERSED NeOeOPEN O",
      "bSMALL LETTER SIDEWAYS OeOPEN OeO WITH STROKEdTURNED OE",
      "bLETTER SMALL CAPITAL OUbSMALL LETTER TOP HALF OdBOTTOM HALF O",
      "bLETTER SMALL CAPITAL PeREVERSED ReTURNED ReTeU",
      "bSMALL LETTER SIDEWAYS UeDIAERESIZED UeTURNED M",
      "bLETTER SMALL CAPITAL VeWeZeEZHcVOICED LARYNGEAL SPIRANTcAIN",
      "aGREEK LETTER SMALL CAPITAL GAMMAeLAMDAePIeRHOePSI",
      "aCYRILLIC LETTER SMALL CAPITAL ELaMODIFIER LETTER CAPITAL AdAEdB",
      "dBARRED BdDdEdREVERSED EdGdHdIdJdKdLdMdNdREVERSED NdOdOUdPdRdTdUdW",
      "cSMALL AdTURNED AdALPHAdTURNED AEdBdDdEdSCHWAdOPEN EdTURNED OPEN EdG",
      "dTURNED IdKdMdENGdOdOPEN OdTOP HALF OdBOTTOM HALF OdPdTdUdSIDEWAYS U",
      "dTURNED MdVdAINdBETAdGREEK GAMMAdDELTAdGREEK PHIdCHI",
      "aLATIN SUBSCRIPT SMALL LETTER IeReUeV",
      "aGREEK SUBSCRIPT SMALL LETTER BETAeGAMMAeRHOePHIeCHI",
      "aLATIN SMALL LETTER UEdB WITH MIDDLE TILDEdD WITH MIDDLE TILDE",
      "dF WITH MIDDLE TILDEdM WITH MIDDLE TILDEdN WITH MIDDLE TILDE",
      "dP WITH MIDDLE TILDEdR WITH MIDDLE TILDEfFISHHOOK AND MIDDLE TILDE",
      "dS WITH MIDDLE TILDEdT WITH MIDDLE TILDEdZ WITH MIDDLE TILDE",
      "dTURNED GaMODIFIER LETTER CYRILLIC ENaLATIN SMALL LETTER INSULAR G",
      "dTH WITH STRIKETHROUGHcCAPITAL LETTER I WITH STROKE",
      "cLETTER IOTA WITH STROKEdP WITH STROKEcCAPITAL LETTER U WITH STROKE",
      "cLETTER UPSILON WITH STROKEdB WITH PALATAL HOOKdD WITH PALATAL HOOK",
      "dF WITH PALATAL HOOKdG WITH PALATAL HOOKdK WITH PALATAL HOOK",
      "dL WITH PALATAL HOOKdM WITH PALATAL HOOKdN WITH PALATAL HOOK",
      "dP WITH PALATAL HOOKdR WITH PALATAL HOOKdS WITH PALATAL HOOK",
      "dESH WITH PALATAL HOOKdV WITH PALATAL HOOKdX WITH PALATAL HOOK",
      "dZ WITH PALATAL HOOKdA WITH RETROFLEX HOOKdALPHA WITH RETROFLEX HOOK",
      "dD WITH HOOK AND TAILdE WITH RETROFLEX HOOK",
      "dOPEN E WITH RETROFLEX HOOKdREVERSED OPEN E WITH RETROFLEX HOOK",
      "dSCHWA WITH RETROFLEX HOOKdI WITH RETROFLEX HOOK",
      "dOPEN O WITH RETROFLEX HOOKdESH WITH RETROFLEX HOOK",
      "dU WITH RETROFLEX HOOKdEZH WITH RETROFLEX HOOK",
      "aMODIFIER LETTER SMALL TURNED ALPHAdCeWITH CURLdETHdREVERSED OPEN E",
      "dFdDOTLESS J WITH STROKEdSCRIPT GdTURNED HdI WITH STROKEdIOTA",
      "dCAPITAL IfWITH STROKEdJ WITH CROSSED-TAILdL WITH RETROFLEX HOOK",
      "fPALATAL HOOKdCAPITAL LdM WITH HOOKdTURNED M WITH LONG LEG",
      "dN WITH LEFT HOOKfRETROFLEX HOOKdCAPITAL NdBARRED OdPHIdS WITH HOOK",
      "dESHdT WITH PALATAL HOOKdU BARdUPSILONdCAPITAL UdV WITH HOOK",
      "dTURNED VdZeWITH RETROFLEX HOOKfCURLdEZHdTHETA",
      "aCOMBINING DOTTED GRAVE ACCENTcACUTE ACCENTbSNAKE BELOW",
      "bSUSPENSION MARKbMACRON-ACUTEbGRAVE-MACRONbMACRON-GRAVEbACUTE-MACRON",
      "bGRAVE-ACUTE-GRAVEbACUTE-GRAVE-ACUTEbLATIN SMALL LETTER R BELOW",
      "bBREVE-MACRONbMACRON-BREVEbDOUBLE CIRCUMFLEX ABOVEbOGONEK ABOVE",
      "bZIGZAG BELOWbIS BELOWbUR ABOVEbUS ABOVE",
      "bLATIN SMALL LETTER FLATTENED OPEN A ABOVEeAEeAOeAVeC CEDILLA",
      "eINSULAR DeETHeGcLETTER SMALL CAPITAL GcSMALL LETTER KeL",
      "cLETTER SMALL CAPITAL LfMcSMALL LETTER NcLETTER SMALL CAPITAL NfR",
      "cSMALL LETTER R ROTUNDAeSeLONG SeZeALPHAeBeBETAeSCHWAeF",
      "eL WITH DOUBLE MIDDLE TILDEeO WITH LIGHT CENTRALIZATION STROKEePeESH",
      "eU WITH LIGHT CENTRALIZATION STROKEeWeA WITH DIAERESIS",
      "eO WITH DIAERESISeU WITH DIAERESISbUP TACK ABOVEbKAVYKA ABOVE RIGHT",
      "dLEFTbDOT ABOVE LEFTbWIDE INVERTED BRIDGE BELOWbDOT BELOW LEFT",
      "bDELETION MARKbDOUBLE INVERTED BREVE BELOWbALMOST EQUAL TO BELOW",
      "bLEFT ARROWHEAD ABOVEbRIGHT ARROWHEAD AND DOWN ARROWHEAD BELOW",
      "aLATIN CAPITAL LETTER A WITH RING BELOW",
      "bSMALL LETTER A WITH RING BELOWbCAPITAL LETTER B WITH DOT ABOVE",
      "bSMALL LETTER B WITH DOT ABOVEbCAPITAL LETTER B WITH DOT BELOW",
      "bSMALL LETTER B WITH DOT BELOWbCAPITAL LETTER B WITH LINE BELOW",
      "bSMALL LETTER B WITH LINE BELOW",
      "bCAPITAL LETTER C WITH CEDILLA AND ACUTE",
      "bSMALL LETTER C WITH CEDILLA AND ACUTE",
      "bCAPITAL LETTER D WITH DOT ABOVEbSMALL LETTER D WITH DOT ABOVE",
      "bCAPITAL LETTER D WITH DOT BELOWbSMALL LETTER D WITH DOT BELOW",
      "bCAPITAL LETTER D WITH LINE BELOWbSMALL LETTER D WITH LINE BELOW",
      "bCAPITAL LETTER D WITH CEDILLAbSMALL LETTER D WITH CEDILLA",
      "bCAPITAL LETTER D WITH CIRCUMFLEX BELOW",
      "bSMALL LETTER D WITH CIRCUMFLEX BELOW",
      "bCAPITAL LETTER E WITH MACRON AND GRAVE",
      "bSMALL LETTER E WITH MACRON AND GRAVE",
      "bCAPITAL LETTER E WITH MACRON AND ACUTE",
      "bSMALL LETTER E WITH MACRON AND ACUTE",
      "bCAPITAL LETTER E WITH CIRCUMFLEX BELOW",
      "bSMALL LETTER E WITH CIRCUMFLEX BELOW",
      "bCAPITAL LETTER E WITH TILDE BELOWbSMALL LETTER E WITH TILDE BELOW",
      "bCAPITAL LETTER E WITH CEDILLA AND BREVE",
      "bSMALL LETTER E WITH CEDILLA AND BREVE",
      "bCAPITAL LETTER F WITH DOT ABOVEbSMALL LETTER F WITH DOT ABOVE",
      "bCAPITAL LETTER G WITH MACRONbSMALL LETTER G WITH MACRON",
      "bCAPITAL LETTER H WITH DOT ABOVEbSMALL LETTER H WITH DOT ABOVE",
      "bCAPITAL LETTER H WITH DOT BELOWbSMALL LETTER H WITH DOT BELOW",
      "bCAPITAL LETTER H WITH DIAERESISbSMALL LETTER H WITH DIAERESIS",
      "bCAPITAL LETTER H WITH CEDILLAbSMALL LETTER H WITH CEDILLA",
      "bCAPITAL LETTER H WITH BREVE BELOWbSMALL LETTER H WITH BREVE BELOW",
      "bCAPITAL LETTER I WITH TILDE BELOWbSMALL LETTER I WITH TILDE BELOW",
      "bCAPITAL LETTER I WITH DIAERESIS AND ACUTE",
      "bSMALL LETTER I WITH DIAERESIS AND ACUTEbCAPITAL LETTER K WITH ACUTE",
      "bSMALL LETTER K WITH ACUTEbCAPITAL LETTER K WITH DOT BELOW",
      "bSMALL LETTER K WITH DOT BELOWbCAPITAL LETTER K WITH LINE BELOW",
      "bSMALL LETTER K WITH LINE BELOWbCAPITAL LETTER L WITH DOT BELOW",
      "bSMALL LETTER L WITH DOT BELOW",
      "bCAPITAL LETTER L WITH DOT BELOW AND MACRON",
      "bSMALL LETTER L WITH DOT BELOW AND MACRON",
      "bCAPITAL LETTER L WITH LINE BELOWbSMALL LETTER L WITH LINE BELOW",
      "bCAPITAL LETTER L WITH CIRCUMFLEX BELOW",
      "bSMALL LETTER L WITH CIRCUMFLEX BELOWbCAPITAL LETTER M WITH ACUTE",
      "bSMALL LETTER M WITH ACUTEbCAPITAL LETTER M WITH DOT ABOVE",
      "bSMALL LETTER M WITH DOT ABOVEbCAPITAL LETTER M WITH DOT BELOW",
      "bSMALL LETTER M WITH DOT BELOWbCAPITAL LETTER N WITH DOT ABOVE",
      "bSMALL LETTER N WITH DOT ABOVEbCAPITAL LETTER N WITH DOT BELOW",
      "bSMALL LETTER N WITH DOT BELOWbCAPITAL LETTER N WITH LINE BELOW",
      "bSMALL LETTER N WITH LINE BELOW",
      "bCAPITAL LETTER N WITH CIRCUMFLEX BELOW",
      "bSMALL LETTER N WITH CIRCUMFLEX BELOW",
      "bCAPITAL LETTER O WITH TILDE AND ACUTE",
      "bSMALL LETTER O WITH TILDE AND ACUTE",
      "bCAPITAL LETTER O WITH TILDE AND DIAERESIS",
      "bSMALL LETTER O WITH TILDE AND DIAERESIS",
      "bCAPITAL LETTER O WITH MACRON AND GRAVE",
      "bSMALL LETTER O WITH MACRON AND GRAVE",
      "bCAPITAL LETTER O WITH MACRON AND ACUTE",
      "bSMALL LETTER O WITH MACRON AND ACUTEbCAPITAL LETTER P WITH ACUTE",
      "bSMALL LETTER P WITH ACUTEbCAPITAL LETTER P WITH DOT ABOVE",
      "bSMALL LETTER P WITH DOT ABOVEbCAPITAL LETTER R WITH DOT ABOVE",
      "bSMALL LETTER R WITH DOT ABOVEbCAPITAL LETTER R WITH DOT BELOW",
      "bSMALL LETTER R WITH DOT BELOW",
      "bCAPITAL LETTER R WITH DOT BELOW AND MACRON",
      "bSMALL LETTER R WITH DOT BELOW AND MACRON",
      "bCAPITAL LETTER R WITH LINE BELOWbSMALL LETTER R WITH LINE BELOW",
      "bCAPITAL LETTER S WITH DOT ABOVEbSMALL LETTER S WITH DOT ABOVE",
      "bCAPITAL LETTER S WITH DOT BELOWbSMALL LETTER S WITH DOT BELOW",
      "bCAPITAL LETTER S WITH ACUTE AND DOT ABOVE",
      "bSMALL LETTER S WITH ACUTE AND DOT ABOVE",
      "bCAPITAL LETTER S WITH CARON AND DOT ABOVE",
      "bSMALL LETTER S WITH CARON AND DOT ABOVE",
      "bCAPITAL LETTER S WITH DOT BELOW AND DOT ABOVE",
      "bSMALL LETTER S WITH DOT BELOW AND DOT ABOVE",
      "bCAPITAL LETTER T WITH DOT ABOVEbSMALL LETTER T WITH DOT ABOVE",
      "bCAPITAL LETTER T WITH DOT BELOWbSMALL LETTER T WITH DOT BELOW",
      "bCAPITAL LETTER T WITH LINE BELOWbSMALL LETTER T WITH LINE BELOW",
      "bCAPITAL LETTER T WITH CIRCUMFLEX BELOW",
      "bSMALL LETTER T WITH CIRCUMFLEX BELOW",
      "bCAPITAL LETTER U WITH DIAERESIS BELOW",
      "bSMALL LETTER U WITH DIAERESIS BELOW",
      "bCAPITAL LETTER U WITH TILDE BELOWbSMALL LETTER U WITH TILDE BELOW",
      "bCAPITAL LETTER U WITH CIRCUMFLEX BELOW",
      "bSMALL LETTER U WITH CIRCUMFLEX BELOW",
      "bCAPITAL LETTER U WITH TILDE AND ACUTE",
      "bSMALL LETTER U WITH TILDE AND ACUTE",
      "bCAPITAL LETTER U WITH MACRON AND DIAERESIS",
      "bSMALL LETTER U WITH MACRON AND DIAERESIS",
      "bCAPITAL LETTER V WITH TILDEbSMALL LETTER V WITH TILDE",
      "bCAPITAL LETTER V WITH DOT BELOWbSMALL LETTER V WITH DOT BELOW",
      "bCAPITAL LETTER W WITH GRAVEbSMALL LETTER W WITH GRAVE",
      "bCAPITAL LETTER W WITH ACUTEbSMALL LETTER W WITH ACUTE",
      "bCAPITAL LETTER W WITH DIAERESISbSMALL LETTER W WITH DIAERESIS",
      "bCAPITAL LETTER W WITH DOT ABOVEbSMALL LETTER W WITH DOT ABOVE",
      "bCAPITAL LETTER W WITH DOT BELOWbSMALL LETTER W WITH DOT BELOW",
      "bCAPITAL LETTER X WITH DOT ABOVEbSMALL LETTER X WITH DOT ABOVE",
      "bCAPITAL LETTER X WITH DIAERESISbSMALL LETTER X WITH DIAERESIS",
      "bCAPITAL LETTER Y WITH DOT ABOVEbSMALL LETTER Y WITH DOT ABOVE",
      "bCAPITAL LETTER Z WITH CIRCUMFLEXbSMALL LETTER Z WITH CIRCUMFLEX",
      "bCAPITAL LETTER Z WITH DOT BELOWbSMALL LETTER Z WITH DOT BELOW",
      "bCAPITAL LETTER Z WITH LINE BELOWbSMALL LETTER Z WITH LINE BELOW",
      "dH WITH LINE BELOWdT WITH DIAERESISdW WITH RING ABOVE",
      "dY WITH RING ABOVEdA WITH RIGHT HALF RINGdLONG S WITH DOT ABOVE",
      "gDIAGONAL STROKEgHIGH STROKEbCAPITAL LETTER SHARP S",
      "bSMALL LETTER DELTAbCAPITAL LETTER A WITH DOT BELOW",
      "bSMALL LETTER A WITH DOT BELOWbCAPITAL LETTER A WITH HOOK ABOVE",
      "bSMALL LETTER A WITH HOOK ABOVE",
      "bCAPITAL LETTER A WITH CIRCUMFLEX AND ACUTE",
      "bSMALL LETTER A WITH CIRCUMFLEX AND ACUTE",
      "bCAPITAL LETTER A WITH CIRCUMFLEX AND GRAVE",
      "bSMALL LETTER A WITH CIRCUMFLEX AND GRAVE",
      "bCAPITAL LETTER A WITH CIRCUMFLEX AND HOOK ABOVE",
      "bSMALL LETTER A WITH CIRCUMFLEX AND HOOK ABOVE",
      "bCAPITAL LETTER A WITH CIRCUMFLEX AND TILDE",
      "bSMALL LETTER A WITH CIRCUMFLEX AND TILDE",
      "bCAPITAL LETTER A WITH CIRCUMFLEX AND DOT BELOW",
      "bSMALL LETTER A WITH CIRCUMFLEX AND DOT BELOW",
      "bCAPITAL LETTER A WITH BREVE AND ACUTE",
      "bSMALL LETTER A WITH BREVE AND ACUTE",
      "bCAPITAL LETTER A WITH BREVE AND GRAVE",
      "bSMALL LETTER A WITH BREVE AND GRAVE",
      "bCAPITAL LETTER A WITH BREVE AND HOOK ABOVE",
      "bSMALL LETTER A WITH BREVE AND HOOK ABOVE",
      "bCAPITAL LETTER A WITH BREVE AND TILDE",
      "bSMALL LETTER A WITH BREVE AND TILDE",
      "bCAPITAL LETTER A WITH BREVE AND DOT BELOW",
      "bSMALL LETTER A WITH BREVE AND DOT BELOW",
      "bCAPITAL LETTER E WITH DOT BELOWbSMALL LETTER E WITH DOT BELOW",
      "bCAPITAL LETTER E WITH HOOK ABOVEbSMALL LETTER E WITH HOOK ABOVE",
      "bCAPITAL LETTER E WITH TILDEbSMALL LETTER E WITH TILDE",
      "bCAPITAL LETTER E WITH CIRCUMFLEX AND ACUTE",
      "bSMALL LETTER E WITH CIRCUMFLEX AND ACUTE",
      "bCAPITAL LETTER E WITH CIRCUMFLEX AND GRAVE",
      "bSMALL LETTER E WITH CIRCUMFLEX AND GRAVE",
      "bCAPITAL LETTER E WITH CIRCUMFLEX AND HOOK ABOVE",
      "bSMALL LETTER E WITH CIRCUMFLEX AND HOOK ABOVE",
      "bCAPITAL LETTER E WITH CIRCUMFLEX AND TILDE",
      "bSMALL LETTER E WITH CIRCUMFLEX AND TILDE",
      "bCAPITAL LETTER E WITH CIRCUMFLEX AND DOT BELOW",
      "bSMALL LETTER E WITH CIRCUMFLEX AND DOT BELOW",
      "bCAPITAL LETTER I WITH HOOK ABOVEbSMALL LETTER I WITH HOOK ABOVE",
      "bCAPITAL LETTER I WITH DOT BELOWbSMALL LETTER I WITH DOT BELOW",
      "bCAPITAL LETTER O WITH DOT BELOWbSMALL LETTER O WITH DOT BELOW",
      "bCAPITAL LETTER O WITH HOOK ABOVEbSMALL LETTER O WITH HOOK ABOVE",
      "bCAPITAL LETTER O WITH CIRCUMFLEX AND ACUTE",
      "bSMALL LETTER O WITH CIRCUMFLEX AND ACUTE",
      "bCAPITAL LETTER O WITH CIRCUMFLEX AND GRAVE",
      "bSMALL LETTER O WITH CIRCUMFLEX AND GRAVE",
      "bCAPITAL LETTER O WITH CIRCUMFLEX AND HOOK ABOVE",
      "bSMALL LETTER O WITH CIRCUMFLEX AND HOOK ABOVE",
      "bCAPITAL LETTER O WITH CIRCUMFLEX AND TILDE",
      "bSMALL LETTER O WITH CIRCUMFLEX AND TILDE",
      "bCAPITAL LETTER O WITH CIRCUMFLEX AND DOT BELOW",
      "bSMALL LETTER O WITH CIRCUMFLEX AND DOT BELOW",
      "bCAPITAL LETTER O WITH HORN AND ACUTE",
      "bSMALL LETTER O WITH HORN AND ACUTE",
      "bCAPITAL LETTER O WITH HORN AND GRAVE",
      "bSMALL LETTER O WITH HORN AND GRAVE",
      "bCAPITAL LETTER O WITH HORN AND HOOK ABOVE",
      "bSMALL LETTER O WITH HORN AND HOOK ABOVE",
      "bCAPITAL LETTER O WITH HORN AND TILDE",
      "bSMALL LETTER O WITH HORN AND TILDE",
      "bCAPITAL LETTER O WITH HORN AND DOT BELOW",
      "bSMALL LETTER O WITH HORN AND DOT BELOW",
      "bCAPITAL LETTER U WITH DOT BELOWbSMALL LETTER U WITH DOT BELOW",
      "bCAPITAL LETTER U WITH HOOK ABOVEbSMALL LETTER U WITH HOOK ABOVE",
      "bCAPITAL LETTER U WITH HORN AND ACUTE",
      "bSMALL LETTER U WITH HORN AND ACUTE",
      "bCAPITAL LETTER U WITH HORN AND GRAVE",
      "bSMALL LETTER U WITH HORN AND GRAVE",
      "bCAPITAL LETTER U WITH HORN AND HOOK ABOVE",
      "bSMALL LETTER U WITH HORN AND HOOK ABOVE",
      "bCAPITAL LETTER U WITH HORN AND TILDE",
      "bSMALL LETTER U WITH HORN AND TILDE",
      "bCAPITAL LETTER U WITH HORN AND DOT BELOW",
      "bSMALL LETTER U WITH HORN AND DOT BELOWbCAPITAL LETTER Y WITH GRAVE",
      "bSMALL LETTER Y WITH GRAVEbCAPITAL LETTER Y WITH DOT BELOW",
      "bSMALL LETTER Y WITH DOT BELOWbCAPITAL LETTER Y WITH HOOK ABOVE",
      "bSMALL LETTER Y WITH HOOK ABOVEbCAPITAL LETTER Y WITH TILDE",
      "bSMALL LETTER Y WITH TILDEbCAPITAL LETTER MIDDLE-WELSH LL",
      "bSMALL LETTER MIDDLE-WELSH LLbCAPITAL LETTER MIDDLE-WELSH V",
      "bSMALL LETTER MIDDLE-WELSH VbCAPITAL LETTER Y WITH LOOP",
      "bSMALL LETTER Y WITH LOOPaGREEK SMALL LETTER ALPHA WITH PSILIfDASIA",
      "fPSILI AND VARIAfDASIA AND VARIAfPSILI AND OXIAfDASIA AND OXIA",
      "fPSILI AND PERISPOMENIfDASIA AND PERISPOMENI",
      "bCAPITAL LETTER ALPHA WITH PSILIfDASIAfPSILI AND VARIA",
      "fDASIA AND VARIAfPSILI AND OXIAfDASIA AND OXIAfPSILI AND PERISPOMENI",
      "fDASIA AND PERISPOMENIbSMALL LETTER EPSILON WITH PSILIfDASIA",
      "fPSILI AND VARIAfDASIA AND VARIAfPSILI AND OXIAfDASIA AND OXIA"]⟩,
    ⟨0x1F18, [
      "aGREEK CAPITAL LETTER EPSILON WITH PSILIfDASIAfPSILI AND VARIA",
      "fDASIA AND VARIAfPSILI AND OXIAfDASIA AND OXIA"]⟩,
    ⟨0x1F20, [
      "aGREEK SMALL LETTER ETA WITH PSILIfDASIAfPSILI AND VARIA",
      "fDASIA AND VARIAfPSILI AND OXIAfDASIA AND OXIAfPSILI AND PERISPOMENI",
      "fDASIA AND PERISPOMENIbCAPITAL LETTER ETA WITH PSILIfDASIA",
      "fPSILI AND VARIAfDASIA AND VARIAfPSILI AND OXIAfDASIA AND OXIA",
      "fPSILI AND PERISPOMENIfDASIA AND PERISPOMENI",
      "bSMALL LETTER IOTA WITH PSILIfDASIAfPSILI AND VARIAfDASIA AND VARIA",
      "fPSILI AND OXIAfDASIA AND OXIAfPSILI AND PERISPOMENI",
      "fDASIA AND PERISPOMENIbCAPITAL LETTER IOTA WITH PSILIfDASIA",
      "fPSILI AND VARIAfDASIA AND VARIAfPSILI AND OXIAfDASIA AND OXIA",
      "fPSILI AND PERISPOMENIfDASIA AND PERISPOMENI",
      "bSMALL LETTER OMICRON WITH PSILIfDASIAfPSILI AND VARIA",
      "fDASIA AND VARIAfPSILI AND OXIAfDASIA AND OXIA"]⟩,
    ⟨0x1F48, [
      "aGREEK CAPITAL LETTER OMICRON WITH PSILIfDASIAfPSILI AND VARIA",
      "fDASIA AND VARIAfPSILI AND OXIAfDASIA AND OXIA"]⟩,
    ⟨0x1F50, [
      "aGREEK SMALL LETTER UPSILON WITH PSILIfDASIAfPSILI AND VARIA",
      "fDASIA AND VARIAfPSILI AND OXIAfDASIA AND OXIAfPSILI AND PERISPOMENI",
      "fDASIA AND PERISPOMENI"]⟩,
    ⟨0x1F59, [
      "aGREEK CAPITAL LETTER UPSILON WITH DASIA"]⟩,
    ⟨0x1F5B, [
      "aGREEK CAPITAL LETTER UPSILON WITH DASIA AND VARIA"]⟩,
    ⟨0x1F5D, [
      "aGREEK CAPITAL LETTER UPSILON WITH DASIA AND OXIA"]⟩,
    ⟨0x1F5F, [
      "aGREEK CAPITAL LETTER UPSILON WITH DASIA AND PERISPOMENI",
      "bSMALL LETTER OMEGA WITH PSILIfDASIAfPSILI AND VARIAfDASIA AND VARIA",
      "fPSILI AND OXIAfDASIA AND OXIAfPSILI AND PERISPOMENI",
      "fDASIA AND PERISPOMENIbCAPITAL LETTER OMEGA WITH PSILIfDASIA",
      "fPSILI AND VARIAfDASIA AND VARIAfPSILI AND OXIAfDASIA AND OXIA",
      "fPSILI AND PERISPOMENIfDASIA AND PERISPOMENI",
      "bSMALL LETTER ALPHA WITH VARIAfOXIAdEPSILON WITH VARIAfOXIA",
      "dETA WITH VARIAfOXIAdIOTA WITH VARIAfOXIAdOMICRON WITH VARIAfOXIA",
      "dUPSILON WITH VARIAfOXIAdOMEGA WITH VARIAfOXIA"]⟩,
    ⟨0x1F80, [
      "aGREEK SMALL LETTER ALPHA WITH PSILI AND YPOGEGRAMMENI",
      "fDASIA AND YPOGEGRAMMENIfPSILI AND VARIA AND YPOGEGRAMMENI",
      "fDASIA AND VARIA AND YPOGEGRAMMENIfPSILI AND OXIA AND YPOGEGRAMMENI",
      "fDASIA AND OXIA AND YPOGEGRAMMENI",
      "fPSILI AND PERISPOMENI AND YPOGEGRAMMENI",
      "fDASIA AND PERISPOMENI AND YPOGEGRAMMENI",
      "bCAPITAL LETTER ALPHA WITH PSILI AND PROSGEGRAMMENI",
      "fDASIA AND PROSGEGRAMMENIfPSILI AND VARIA AND PROSGEGRAMMENI",
      "fDASIA AND VARIA AND PROSGEGRAMMENI",
      "fPSILI AND OXIA AND PROSGEGRAMMENIfDASIA AND OXIA AND PROSGEGRAMMENI",
      "fPSILI AND PERISPOMENI AND PROSGEGRAMMENI",
      "fDASIA AND PERISPOMENI AND PROSGEGRAMMENI",
      "bSMALL LETTER ETA WITH PSILI AND YPOGEGRAMMENI",
      "fDASIA AND YPOGEGRAMMENIfPSILI AND VARIA AND YPOGEGRAMMENI",
      "fDASIA AND VARIA AND YPOGEGRAMMENIfPSILI AND OXIA AND YPOGEGRAMMENI",
      "fDASIA AND OXIA AND YPOGEGRAMMENI",
      "fPSILI AND PERISPOMENI AND YPOGEGRAMMENI",
      "fDASIA AND PERISPOMENI AND YPOGEGRAMMENI",
      "bCAPITAL LETTER ETA WITH PSILI AND PROSGEGRAMMENI",
      "fDASIA AND PROSGEGRAMMENIfPSILI AND VARIA AND PROSGEGRAMMENI",
      "fDASIA AND VARIA AND PROSGEGRAMMENI",
      "fPSILI AND OXIA AND PROSGEGRAMMENIfDASIA AND OXIA AND PROSGEGRAMMENI",
      "fPSILI AND PERISPOMENI AND PROSGEGRAMMENI",
      "fDASIA AND PERISPOMENI AND PROSGEGRAMMENI",
      "bSMALL LETTER OMEGA WITH PSILI AND YPOGEGRAMMENI",
      "fDASIA AND YPOGEGRAMMENIfPSILI AND VARIA AND YPOGEGRAMMENI",
      "fDASIA AND VARIA AND YPOGEGRAMMENIfPSILI AND OXIA AND YPOGEGRAMMENI",
      "fDASIA AND OXIA AND YPOGEGRAMMENI",
      "fPSILI AND PERISPOMENI AND YPOGEGRAMMENI",
      "fDASIA AND PERISPOMENI AND YPOGEGRAMMENI",
      "bCAPITAL LETTER OMEGA WITH PSILI AND PROSGEGRAMMENI",
      "fDASIA AND PROSGEGRAMMENIfPSILI AND VARIA AND PROSGEGRAMMENI",
      "fDASIA AND VARIA AND PROSGEGRAMMENI",
      "fPSILI AND OXIA AND PROSGEGRAMMENIfDASIA AND OXIA AND PROSGEGRAMMENI",
      "fPSILI AND PERISPOMENI AND PROSGEGRAMMENI",
      "fDASIA AND PERISPOMENI AND PROSGEGRAMMENI",
      "bSMALL LETTER ALPHA WITH VRACHYfMACRONfVARIA AND YPOGEGRAMMENI",
      "fYPOGEGRAMMENIfOXIA AND YPOGEGRAMMENI"]⟩,
    ⟨0x1FB6, [
      "aGREEK SMALL LETTER ALPHA WITH PERISPOMENIgAND YPOGEGRAMMENI",
      "bCAPITAL LETTER ALPHA WITH VRACHYfMACRONfVARIAfOXIAfPROSGEGRAMMENI",
      "bKORONISbPROSGEGRAMMENIbPSILIbPERISPOMENIbDIALYTIKA AND PERISPOMENI",
      "bSMALL LETTER ETA WITH VARIA AND YPOGEGRAMMENIfYPOGEGRAMMENI",
      "fOXIA AND YPOGEGRAMMENI"]⟩,
    ⟨0x1FC6, [
      "aGREEK SMALL LETTER ETA WITH PERISPOMENIgAND YPOGEGRAMMENI",
      "bCAPITAL LETTER EPSILON WITH VARIAfOXIAdETA WITH VARIAfOXIA",
      "fPROSGEGRAMMENIbPSILI AND VARIAdOXIAdPERISPOMENI",
      "bSMALL LETTER IOTA WITH VRACHYfMACRONfDIALYTIKA AND VARIAhOXIA"]⟩,
    ⟨0x1FD6, [
      "aGREEK SMALL LETTER IOTA WITH PERISPOMENIfDIALYTIKA AND PERISPOMENI",
      "bCAPITAL LETTER IOTA WITH VRACHYfMACRONfVARIAfOXIA"]⟩,
    ⟨0x1FDD, [
      "aGREEK DASIA AND VARIAdOXIAdPERISPOMENI",
      "bSMALL LETTER UPSILON WITH VRACHYfMACRONfDIALYTIKA AND VARIAhOXIA",
      "dRHO WITH PSILIfDASIAdUPSILON WITH PERISPOMENI",
      "fDIALYTIKA AND PERISPOMENIbCAPITAL LETTER UPSILON WITH VRACHYfMACRON",
      "fVARIAfOXIAdRHO WITH DASIAbDIALYTIKA AND VARIAdOXIAbVARIA"]⟩,
    ⟨0x1FF2, [
      "aGREEK SMALL LETTER OMEGA WITH VARIA AND YPOGEGRAMMENIfYPOGEGRAMMENI",
      "fOXIA AND YPOGEGRAMMENI"]⟩,
    ⟨0x1FF6, [
      "aGREEK SMALL LETTER OMEGA WITH PERISPOMENIgAND YPOGEGRAMMENI",
      "bCAPITAL LETTER OMICRON WITH VARIAfOXIAdOMEGA WITH VARIAfOXIA",
      "fPROSGEGRAMMENIbOXIAbDASIA"]⟩]

end Text

end LabelPress
