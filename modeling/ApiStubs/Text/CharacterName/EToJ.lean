/-! Names of characters that begin with a letter from E to J. -/

namespace ApiStubs.Text.CharacterName

def namesEToJ : List String :=
  ["E-MAIL SYMBOL,EAGLE,EAR,EAR (OF (MAIZE,RICE),WITH HEARING AID),EARTH,EARTH (GLOBE (AMERICAS,",
   "ASIA-AUSTRALIA,EUROPE-AFRICA),GROUND),EAST SYRIAC CROSS,EDITORIAL CORONIS,EGG,EGYPTIAN ",
   "HIEROGLYPH (A001,A002,A003,A004,A005,A005A,A006,A006A,A006B,A007,A008,A009,A010,A011,A012,",
   "A013,A014,A014A,A015,A016,A017,A017A,A018,A019,A020,A021,A022,A023,A024,A025,A026,A027,A028,",
   "A029,A030,A031,A032,A032A,A033,A034,A035,A036,A037,A038,A039,A040,A040A,A041,A042,A042A,A043,",
   "A043A,A044,A045,A045A,A046,A047,A048,A049,A050,A051,A052,A053,A054,A055,A056,A057,A058,A059,",
   "A060,A061,A062,A063,A064,A065,A066,A067,A068,A069,A070,AA001,AA002,AA003,AA004,AA005,AA006,",
   "AA007,AA007A,AA007B,AA008,AA009,AA010,AA011,AA012,AA013,AA014,AA015,AA016,AA017,AA018,AA019,",
   "AA020,AA021,AA022,AA023,AA024,AA025,AA026,AA027,AA028,AA029,AA030,AA031,AA032,B001,B002,B003,",
   "B004,B005,B005A,B006,B007,B008,B009,BEGIN SEGMENT,C001,C002,C002A,C002B,C002C,C003,C004,C005,",
   "C006,C007,C008,C009,C010,C010A,C011,C012,C013,C014,C015,C016,C017,C018,C019,C020,C021,C022,",
   "C023,C024,D001,D002,D003,D004,D005,D006,D007,D008,D008A,D009,D010,D011,D012,D013,D014,D015,",
   "D016,D017,D018,D019,D020,D021,D022,D023,D024,D025,D026,D027,D027A,D028,D029,D030,D031,D031A,",
   "D032,D033,D034,D034A,D035,D036,D037,D038,D039,D040,D041,D042,D043,D044,D045,D046,D046A,D047,",
   "D048,D048A,D049,D050,D050A,D050B,D050C,D050D,D050E,D050F,D050G,D050H,D050I,D051,D052,D052A,",
   "D053,D054,D054A,D055,D056,D057,D058,D059,D060,D061,D062,D063,D064,D065,D066,D067,D067A,D067B,",
   "D067C,D067D,D067E,D067F,D067G,D067H,E001,E002,E003,E004,E005,E006,E007,E008,E008A,E009,E009A,",
   "E010,E011,E012,E013,E014,E015,E016,E016A,E017,E017A,E018,E019,E020,E020A,E021,E022,E023,E024,",
   "E025,E026,E027,E028,E028A,E029,E030,E031,E032,E033,E034,E034A,E036,E037,E038,END SEGMENT,F001,",
   "F001A,F002,F003,F004,F005,F006,F007,F008,F009,F010,F011,F012,F013,F013A,F014,F015,F016,F017,",
   "F018,F019,F020,F021,F021A,F022,F023,F024,F025,F026,F027,F028,F029,F030,F031,F031A,F032,F033,",
   "F034,F035,F036,F037,F037A,F038,F038A,F039,F040,F041,F042,F043,F044,F045,F045A,F046,F046A,F047,",
   "F047A,F048,F049,F050,F051,F051A,F051B,F051C,F052,F053,G001,G002,G003,G004,G005,G006,G006A,",
   "G007,G007A,G007B,G008,G009,G010,G011,G011A,G012,G013,G014,G015,G016,G017,G018,G019,G020,G020A,",
   "G021,G022,G023,G024,G025,G026,G026A,G027,G028,G029,G030,G031,G032,G033,G034,G035,G036,G036A,",
   "G037,G037A,G038,G039,G040,G041,G042,G043,G043A,G044,G045,G045A,G046,G047,G048,G049,G050,G051,",
   "G052,G053,G054,H001,H002,H003,H004,H005,H006,H006A,H007,H008,HORIZONTAL JOINER,I001,I002,I003,",
   "I004,I005,I005A,I006,I007,I008,I009,I009A,I010,I010A,I011,I011A,I012,I013,I014,I015,INSERT AT ",
   "(BOTTOM (END,START),TOP (END,START)),K001,K002,K003,K004,K005,K006,K007,K008,L001,L002,L002A,",
   "L003,L004,L005,L006,L006A,L007,L008,M001,M001A,M001B,M002,M003,M003A,M004,M005,M006,M007,M008,",
   "M009,M010,M010A,M011,M012,M012A,M012B,M012C,M012D,M012E,M012F,M012G,M012H,M013,M014,M015,",
   "M015A,M016,M016A,M017,M017A,M018,M019,M020,M021,M022,M022A,M023,M024,M024A,M025,M026,M027,",
   "M028,M028A,M029,M030,M031,M031A,M032,M033,M033A,M033B,M034,M035,M036,M037,M038,M039,M040,",
   "M040A,M041,M042,M043,M044,N001,N002,N003,N004,N005,N006,N007,N008,N009,N010,N011,N012,N013,",
   "N014,N015,N016,N017,N018,N018A,N018B,N019,N020,N021,N022,N023,N024,N025,N025A,N026,N027,N028,",
   "N029,N030,N031,N032,N033,N033A,N034,N034A,N035,N035A,N036,N037,N037A,N038,N039,N040,N041,N042,",
   "NL001,NL002,NL003,NL004,NL005,NL005A,NL006,NL007,NL008,NL009,NL010,NL011,NL012,NL013,NL014,",
   "NL015,NL016,NL017,NL017A,NL018,NL019,NL020,NU001,NU002,NU003,NU004,NU005,NU006,NU007,NU008,",
   "NU009,NU010,NU010A,NU011,NU011A,NU012,NU013,NU014,NU015,NU016,NU017,NU018,NU018A,NU019,NU020,",
   "NU021,NU022,NU022A,O001,O001A,O002,O003,O004,O005,O005A,O006,O006A,O006B,O006C,O006D,O006E,",
   "O006F,O007,O008,O009,O010,O010A,O010B,O010C,O011,O012,O013,O014,O015,O016,O017,O018,O019,",
   "O019A,O020,O020A,O021,O022,O023,O024,O024A,O025,O025A,O026,O027,O028,O029,O029A,O030,O030A,",
   "O031,O032,O033,O033A,O034,O035,O036,O036A,O036B,O036C,O036D,O037,O038,O039,O040,O041,O042,",
   "O043,O044,O045,O046,O047,O048,O049,O050,O050A,O050B,O051,OVERLAY MIDDLE,P001,P001A,P002,P003,",
   "P003A,P004,P005,P006,P007,P008,P009,P010,P011,Q001,Q002,Q003,Q004,Q005,Q006,Q007,R001,R002,",
   "R002A,R003,R003A,R003B,R004,R005,R006,R007,R008,R009,R010,R010A,R011,R012,R013,R014,R015,R016,",
   "R016A,R017,R018,R019,R020,R021,R022,R023,R024,R025,R026,R027,R028,R029,S001,S002,S002A,S003,",
   "S004,S005,S006,S006A,S007,S008,S009,S010,S011,S012,S013,S014,S014A,S014B,S015,S016,S017,S017A,",
   "S018,S019,S020,S021,S022,S023,S024,S025,S026,S026A,S026B,S027,S028,S029,S030,S031,S032,S033,",
   "S034,S035,S035A,S036,S037,S038,S039,S040,S041,S042,S043,S044,S045,S046,T001,T002,T003,T003A,",
   "T004,T005,T006,T007,T007A,T008,T008A,T009,T009A,T010,T011,T011A,T012,T013,T014,T015,T016,",
   "T016A,T017,T018,T019,T020,T021,T022,T023,T024,T025,T026,T027,T028,T029,T030,T031,T032,T032A,",
   "T033,T033A,T034,T035,T036,U001,U002,U003,U004,U005,U006,U006A,U006B,U007,U008,U009,U010,U011,",
   "U012,U013,U014,U015,U016,U017,U018,U019,U020,U021,U022,U023,U023A,U024,U025,U026,U027,U028,",
   "U029,U029A,U030,U031,U032,U032A,U033,U034,U035,U036,U037,U038,U039,U040,U041,U042,V001,V001A,",
   "V001B,V001C,V001D,V001E,V001F,V001G,V001H,V001I,V002,V002A,V003,V004,V005,V006,V007,V007A,",
   "V007B,V008,V009,V010,V011,V011A,V011B,V011C,V012,V012A,V012B,V013,V014,V015,V016,V017,V018,",
   "V019,V020,V020A,V020B,V020C,V020D,V020E,V020F,V020G,V020H,V020I,V020J,V020K,V020L,V021,V022,",
   "V023,V023A,V024,V025,V026,V027,V028,V028A,V029,V029A,V030,V030A,V031,V031A,V032,V033,V033A,",
   "V034,V035,V036,V037,V037A,V038,V039,V040,V040A,VERTICAL JOINER,W001,W002,W003,W003A,W004,W005,",
   "W006,W007,W008,W009,W009A,W010,W010A,W011,W012,W013,W014,W014A,W015,W016,W017,W017A,W018,",
   "W018A,W019,W020,W021,W022,W023,W024,W024A,W025,X001,X002,X003,X004,X004A,X004B,X005,X006,",
   "X006A,X007,X008,X008A,Y001,Y001A,Y002,Y003,Y004,Y005,Y006,Y007,Y008,Z001,Z002,Z002A,Z002B,",
   "Z002C,Z002D,Z003,Z003A,Z003B,Z004,Z004A,Z005,Z005A,Z006,Z007,Z008,Z009,Z010,Z011,Z012,Z013,",
   "Z014,Z015,Z015A,Z015B,Z015C,Z015D,Z015E,Z015F,Z015G,Z015H,Z015I,Z016,Z016A,Z016B,Z016C,Z016D,",
   "Z016E,Z016F,Z016G,Z016H),EIGHT (PETALLED OUTLINED BLACK FLORETTE,POINTED (BLACK STAR,PINWHEEL ",
   "STAR,RECTILINEAR BLACK STAR),SPOKED ASTERISK,TEARDROP-SPOKED PROPELLER ASTERISK),EIGHTH NOTE,",
   "EJECT SYMBOL,ELBASAN LETTER (A,BE,CE,CHE,DE,DHE,E,EI,FE,GE,GHAMMA,GHE,GJE,HE,I,JE,KE,KHE,LE,",
   "LLE,ME,NA,NDE,NE,NJE,O,PE,QE,RE,RRE,SE,SHE,TE,THE,U,VE,XE,Y,ZE,ZHE),ELECTRIC (ARROW,LIGHT ",
   "BULB,PLUG,TORCH),ELECTRICAL INTERSECTION,ELEMENT (OF,OF (OPENING (DOWNWARDS,UPWARDS),WITH (",
   "DOT ABOVE,LONG HORIZONTAL STROKE,OVERBAR,TWO HORIZONTAL STROKES,UNDERBAR,VERTICAL BAR AT END ",
   "OF HORIZONTAL STROKE))),ELEPHANT,ELEVATOR,ELF,ELYMAIC (LETTER (ALEPH,AYIN,BETH,DALETH,GIMEL,",
   "HE,HETH,KAPH,LAMEDH,MEM,NUN,PE,QOPH,RESH,SADHE,SAMEKH,SHIN,TAW,TETH,WAW,YODH,ZAYIN),LIGATURE ",
   "ZAYIN-YODH),EM (DASH,QUAD,SPACE),EMOJI (COMPONENT (BALD,CURLY HAIR,RED HAIR,WHITE HAIR),",
   "MODIFIER FITZPATRICK TYPE-(1-2,3,4,5,6)),EMPHASIS SYMBOL,EMPTY (DOCUMENT,NEST,NOTE,NOTE (PAD,",
   "PAGE),PAGE,PAGES,SET,SET WITH (LEFT ARROW ABOVE,OVERBAR,RIGHT ARROW ABOVE,SMALL CIRCLE ",
   "ABOVE)),EN (DASH,QUAD,SPACE),END (OF (GUARDED AREA,LINE,MEDIUM,PROOF,PROTECTED AREA,SELECTED ",
   "AREA,TEXT,TRANSMISSION,TRANSMISSION BLOCK),WITH LEFTWARDS ARROW ABOVE),ENQ,ENQUIRY,ENTER ",
   "SYMBOL,ENVELOPE,ENVELOPE WITH (DOWNWARDS ARROW ABOVE,LIGHTNING),EOL,EOM,EOT,EPA,EQUAL (AND ",
   "PARALLEL TO,TO (BY DEFINITION,OR (GREATER-THAN,LESS-THAN,PRECEDES,SUCCEEDS))),EQUALS (COLON,",
   "SIGN,SIGN (ABOVE (LEFTWARDS ARROW,PLUS SIGN,RIGHTWARDS ARROW,TILDE OPERATOR),AND SLANTED (",
   "PARALLEL,PARALLEL WITH TILDE ABOVE),WITH (BUMPY ABOVE,DOT BELOW,INFINITY BELOW,TWO DOTS ABOVE ",
   "AND TWO DOTS BELOW)),WITH ASTERISK),EQUIANGULAR TO,EQUIVALENT (TO,WITH FOUR DOTS ABOVE),ERASE ",
   "TO THE (LEFT,RIGHT),ERIS FORM (ONE,TWO),ERROR-BARRED (BLACK (CIRCLE,DIAMOND,SQUARE),WHITE (",
   "CIRCLE,DIAMOND,SQUARE)),ESA,ESC,ESCAPE,ESTIMATED SYMBOL,ESTIMATES,ETB,ETHIOPIC (COLON,",
   "COMBINING (GEMINATION (AND VOWEL LENGTH MARK,MARK),VOWEL LENGTH MARK),COMMA,DIGIT (EIGHT,FIVE,",
   "FOUR,NINE,ONE,SEVEN,SIX,THREE,TWO),FULL STOP,NUMBER (EIGHTY,FIFTY,FORTY,HUNDRED,NINETY,",
   "SEVENTY,SIXTY,TEN,TEN THOUSAND,THIRTY,TWENTY),PARAGRAPH SEPARATOR,PREFACE COLON,QUESTION MARK,",
   "SECTION MARK,SEMICOLON,SYLLABLE (BA,BAA,BBA,BBAA,BBE,BBEE,BBI,BBO,BBU,BE,BEE,BI,BO,BOA,BU,BWA,",
   "BWE,BWEE,BWI,CA,CAA,CCA,CCAA,CCE,CCEE,CCHA,CCHAA,CCHE,CCHEE,CCHHA,CCHHAA,CCHHE,CCHHEE,CCHHI,",
   "CCHHO,CCHHU,CCHI,CCHO,CCHU,CCI,CCO,CCU,CE,CEE,CHA,CHAA,CHE,CHEE,CHI,CHO,CHOA,CHU,CHWA,CI,CO,",
   "COA,CU,CWA,DA,DAA,DDA,DDAA,DDE,DDEE,DDHAA,DDHE,DDHEE,DDHI,DDHO,DDHU,DDI,DDO,DDOA,DDU,DDWA,DE,",
   "DEE,DI,DO,DOA,DU,DWA,DZAA,DZE,DZEE,DZI,DZO,DZU,FA,FAA,FE,FEE,FI,FO,FU,FWA,FWE,FWEE,FWI,FYA,GA,",
   "GAA,GE,GEE,GGA,GGAA,GGE,GGEE,GGI,GGO,GGU,GGWA,GGWAA,GGWE,GGWEE,GGWI,GI,GLOTTAL (A,AA,E,EE,I,O,",
   "OA,U,WA),GO,GOA,GU,GURAGE (BWEE,BWI,FWEE,FWI,GWE,GWEE,GWI,HHWA,KWE,KWEE,KWI,MWEE,MWI,PWEE,PWI,",
   "QWE,QWEE,QWI),GWA,GWAA,GWE,GWEE,GWI,GYA,GYAA,GYE,GYEE,GYI,GYO,GYU,HA,HAA,HE,HEE,HHA,HHAA,HHE,",
   "HHEE,HHI,HHO,HHU,HHWA,HHWE,HHWEE,HHWI,HHYA,HHYAA,HHYE,HHYEE,HHYI,HHYO,HHYU,HI,HO,HOA,HU,JA,",
   "JAA,JE,JEE,JI,JO,JOA,JU,JWA,KA,KAA,KE,KEE,KI,KO,KOA,KU,KWA,KWAA,KWE,KWEE,KWI,KXA,KXAA,KXE,",
   "KXEE,KXI,KXO,KXU,KXWA,KXWAA,KXWE,KXWEE,KXWI,KYA,KYAA,KYE,KYEE,KYI,KYO,KYU,LA,LAA,LE,LEE,LI,LO,",
   "LOA,LU,LWA,MA,MAA,ME,MEE,MI,MO,MOA,MU,MWA,MWE,MWEE,MWI,MYA,NA,NAA,NE,NEE,NI,NO,NOA,NU,NWA,NYA,",
   "NYAA,NYE,NYEE,NYI,NYO,NYOA,NYU,NYWA,PA,PAA,PE,PEE,PHA,PHAA,PHARYNGEAL (A,AA,E,EE,I,O,U),PHE,",
   "PHEE,PHI,PHO,PHOA,PHU,PHWA,PI,PO,POA,PU,PWA,PWE,PWEE,PWI,QA,QAA,QE,QEE,QHA,QHAA,QHE,QHEE,QHI,",
   "QHO,QHU,QHWA,QHWAA,QHWE,QHWEE,QHWI,QI,QO,QOA,QU,QWA,QWAA,QWE,QWEE,QWI,QYA,QYAA,QYE,QYEE,QYI,",
   "QYO,QYU,RA,RAA,RE,REE,RI,RO,ROA,RU,RWA,RYA,SA,SAA,SE,SEBATBEIT (BWA,FWA,MWA,PWA),SEE,SHA,SHAA,",
   "SHE,SHEE,SHI,SHO,SHOA,SHU,SHWA,SI,SO,SOA,SSA,SSAA,SSE,SSEE,SSI,SSO,SSU,SU,SWA,SZA,SZAA,SZE,",
   "SZEE,SZI,SZO,SZU,SZWA,TA,TAA,TE,TEE,THA,THAA,THE,THEE,THI,THO,THOA,THU,THWA,TI,TO,TOA,TSA,",
   "TSAA,TSE,TSEE,TSI,TSO,TSU,TSWA,TTHAA,TTHE,TTHEE,TTHI,TTHO,TTHU,TU,TWA,TZA,TZAA,TZE,TZEE,TZI,",
   "TZO,TZOA,TZU,VA,VAA,VE,VEE,VI,VO,VU,VWA,WA,WAA,WE,WEE,WI,WO,WOA,WU,XA,XAA,XE,XEE,XI,XO,XOA,XU,",
   "XWA,XWAA,XWE,XWEE,XWI,XYA,XYAA,XYE,XYEE,XYI,XYO,XYU,YA,YAA,YE,YEE,YI,YO,YOA,YU,ZA,ZAA,ZE,ZEE,",
   "ZHA,ZHAA,ZHE,ZHEE,ZHI,ZHO,ZHU,ZHWA,ZI,ZO,ZOA,ZU,ZWA,ZZA,ZZAA,ZZE,ZZEE,ZZI,ZZO,ZZU),TONAL MARK ",
   "(CHIRET,DERET,DERET-HIDET,DIFAT,HIDET,KENAT,KURT,RIKRIK,SHORT RIKRIK,YIZET),WORDSPACE),ETX,",
   "EULER CONSTANT,EURO SIGN,EURO-CURRENCY SIGN,EUROPEAN (CASTLE,POST OFFICE),EVERGREEN TREE,",
   "EXCESS,EXCLAMATION (MARK,QUESTION MARK),EXPRESSIONLESS FACE,EXTENDED ARABIC-INDIC DIGIT (",
   "EIGHT,FIVE,FOUR,NINE,ONE,SEVEN,SIX,THREE,TWO,ZERO),EXTRATERRESTRIAL ALIEN,EXTREMELY HEAVY (",
   "FIVE SPOKED ASTERISK,GREEK CROSS,SALTIRE,SIX SPOKED ASTERISK,WHITE (CIRCLE,SQUARE)),EYE,",
   "EYEGLASSES,EYES,FACE (HOLDING BACK TEARS,MASSAGE,PALM,SAVOURING DELICIOUS FOOD,SCREAMING IN ",
   "FEAR,THROWING A KISS,WITH (COLD SWEAT,COWBOY HAT,DIAGONAL MOUTH,FINGER COVERING CLOSED LIPS,",
   "HEAD-BANDAGE,LOOK OF TRIUMPH,MEDICAL MASK,MONOCLE,NO GOOD GESTURE,OK GESTURE,ONE EYEBROW ",
   "RAISED,OPEN (EYES AND HAND OVER MOUTH,MOUTH,MOUTH (AND COLD SWEAT,VOMITING)),PARTY HORN AND ",
   "PARTY HAT,PEEKING EYE,PLEADING EYES,ROLLING EYES,STUCK-OUT (TONGUE,TONGUE AND (TIGHTLY-CLOSED ",
   "EYES,WINKING EYE)),TEARS OF JOY,THERMOMETER,UNEVEN EYES AND WAVY MOUTH),WITHOUT MOUTH),",
   "FACSIMILE SIGN,FACTORY,FAIRY,FALAFEL,FALLEN LEAF,FALLING DIAGONAL (CROSSING (NORTH EAST ARROW,",
   "RISING DIAGONAL),IN WHITE CIRCLE IN BLACK SQUARE),FAMILY,FARSI SYMBOL,FATHER CHRISTMAS,FAX (",
   "ICON,MACHINE),FEARFUL FACE,FEATHER,FEMALE SIGN,FEMININE ORDINAL INDICATOR,FENCER,FERRIS WHEEL,",
   "FERRY,FF,FIELD HOCKEY STICK AND BALL,FIGURE (DASH,SPACE),FILE (CABINET,FOLDER,SEPARATOR),FILM ",
   "(FRAMES,PROJECTOR),FINITE PART INTEGRAL,FIRE,FIRE (ENGINE,EXTINGUISHER),FIRECRACKER,FIREWORK ",
   "SPARKLER,FIREWORKS,FIRST (PLACE MEDAL,QUARTER (MOON,MOON (SYMBOL,WITH FACE)),STRONG ISOLATE),",
   "FISH,FISH CAKE WITH SWIRL DESIGN,FISHEYE,FISHING POLE AND FISH,FISTED HAND SIGN,FIVE DOT (",
   "MARK,PUNCTUATION),FLAG IN HOLE,FLAMINGO,FLAT SHOE,FLATBREAD,FLATNESS,FLEUR-DE-LIS,FLEXED ",
   "BICEPS,FLOPPY DISK,FLORAL HEART,FLOWER,FLOWER (PLAYING CARDS,PUNCTUATION MARK),FLUSHED FACE,",
   "FLY,FLYING (DISC,ENVELOPE,SAUCER),FOG,FOGGY,FOLDER,FONDUE,FOOT,FOOTPRINTS,FOR ALL,FORCES,FORK ",
   "AND (KNIFE,KNIFE WITH PLATE),FORKED PARAGRAPHOS,FORKING,FORM FEED,FORTUNE COOKIE,FOUNTAIN,",
   "FOUR (BALLOON-SPOKED ASTERISK,CLUB-SPOKED ASTERISK,CORNER ARROWS CIRCLING ANTICLOCKWISE,DOT (",
   "MARK,PUNCTUATION),LEAF CLOVER,POINTED BLACK STAR,TEARDROP-SPOKED ASTERISK),FOUR-PER-EM SPACE,",
   "FOURTH ROOT,FOX FACE,FRACTION (NUMERATOR ONE,SLASH),FRAME WITH (AN X,PICTURE,TILES),FREEZING ",
   "FACE,FRENCH (FRANC SIGN,FRIES),FRIED SHRIMP,FROG FACE,FRONT-(FACING BABY CHICK,TILTED ",
   "SHADOWED WHITE RIGHTWARDS ARROW),FROWN,FROWNING FACE WITH OPEN MOUTH,FS,FSI,FUEL PUMP,FULL (",
   "BLOCK,MOON (SYMBOL,WITH FACE),OUTER JOIN,STOP),FULLWIDTH (AMPERSAND,APOSTROPHE,ASTERISK,",
   "BROKEN BAR,CENT SIGN,CIRCUMFLEX ACCENT,COLON,COMMA,COMMERCIAL AT,DIGIT (EIGHT,FIVE,FOUR,NINE,",
   "ONE,SEVEN,SIX,THREE,TWO,ZERO),DOLLAR SIGN,EQUALS SIGN,EXCLAMATION MARK,FULL STOP,GRAVE ACCENT,",
   "GREATER-THAN SIGN,HYPHEN-MINUS,LATIN (CAPITAL LETTER (A,B,C,D,E,F,G,H,I,J,K,L,M,N,O,P,Q,R,S,T,",
   "U,V,W,X,Y,Z),SMALL LETTER (A,B,C,D,E,F,G,H,I,J,K,L,M,N,O,P,Q,R,S,T,U,V,W,X,Y,Z)),LEFT (CURLY ",
   "BRACKET,PARENTHESIS,SQUARE BRACKET,WHITE PARENTHESIS),LESS-THAN SIGN,LOW LINE,MACRON,NOT SIGN,",
   "NUMBER SIGN,PERCENT SIGN,PLUS SIGN,POUND SIGN,QUESTION MARK,QUOTATION MARK,REVERSE SOLIDUS,",
   "RIGHT (CURLY BRACKET,PARENTHESIS,SQUARE BRACKET,WHITE PARENTHESIS),SEMICOLON,SOLIDUS,TILDE,",
   "VERTICAL LINE,WON SIGN,YEN SIGN),FUNCTION APPLICATION,FUNERAL URN,FUSE,FVS1,FVS2,FVS3,FVS4,",
   "GAME DIE,GARLIC,GEAR,GEAR (WITH HANDLES,WITHOUT HUB),GEM STONE,GEMINI,GENIE,GEOMETRIC ",
   "PROPORTION,GEOMETRICALLY (EQUAL TO,EQUIVALENT TO),GEORGIAN (CAPITAL LETTER (AEN,AN,BAN,CAN,",
   "CHAR,CHIN,CIL,DON,EN,GAN,GHAN,HAE,HAR,HE,HIE,HOE,IN,JHAN,JIL,KAN,KHAR,LAS,MAN,NAR,ON,PAR,PHAR,",
   "QAR,RAE,SAN,SHIN,TAN,TAR,UN,VIN,WE,XAN,YN,ZEN,ZHAR),LETTER (AEN,AIN,AN,BAN,CAN,CHAR,CHIN,CIL,",
   "DON,ELIFI,EN,FI,GAN,GHAN,HAE,HAR,HARD SIGN,HE,HIE,HOE,IN,JHAN,JIL,KAN,KHAR,LABIAL SIGN,LAS,",
   "MAN,NAR,ON,PAR,PHAR,QAR,RAE,SAN,SHIN,TAN,TAR,TURNED GAN,UN,VIN,WE,XAN,YN,ZEN,ZHAR),MTAVRULI ",
   "CAPITAL LETTER (AEN,AIN,AN,BAN,CAN,CHAR,CHIN,CIL,DON,ELIFI,EN,FI,GAN,GHAN,HAE,HAR,HARD SIGN,",
   "HE,HIE,HOE,IN,JHAN,JIL,KAN,KHAR,LABIAL SIGN,LAS,MAN,NAR,ON,PAR,PHAR,QAR,RAE,SAN,SHIN,TAN,TAR,",
   "TURNED GAN,UN,VIN,WE,XAN,YN,ZEN,ZHAR),PARAGRAPH SEPARATOR,SMALL LETTER (AEN,AN,BAN,CAN,CHAR,",
   "CHIN,CIL,DON,EN,GAN,GHAN,HAE,HAR,HE,HIE,HOE,IN,JHAN,JIL,KAN,KHAR,LAS,MAN,NAR,ON,PAR,PHAR,QAR,",
   "RAE,SAN,SHIN,TAN,TAR,UN,VIN,WE,XAN,YN,ZEN,ZHAR)),GERMAN PENNY SIGN,GETA MARK,GHOST,GIMEL ",
   "SYMBOL,GIRAFFE FACE,GIRL,GIRLS SYMBOL,GLAGOLITIC (CAPITAL LETTER (AZU,BIG YUS,BUKY,CAUDATE ",
   "CHRIVI,CHRIVI,DJERVI,DOBRO,DZELO,FITA,FRITU,GLAGOLI,HERU,I,INITIAL IZHE,IOTATED (BIG YUS,",
   "SMALL YUS),IZHE,IZHITSA,KAKO,LATINATE MYSLITE,LJUDIJE,MYSLITE,NASHI,ONU,OTU,PE,POKOJI,RITSI,",
   "SHA,SHTA,SHTAPIC,SLOVO,SMALL (YUS,YUS WITH TAIL),SPIDERY HA,TROKUTASTI A,TSI,TVRIDO,UKU,VEDE,",
   "YATI,YERI,YERU,YESTU,YO,YU,ZEMLJA,ZHIVETE),SMALL LETTER (AZU,BIG YUS,BUKY,CAUDATE CHRIVI,",
   "CHRIVI,DJERVI,DOBRO,DZELO,FITA,FRITU,GLAGOLI,HERU,I,INITIAL IZHE,IOTATED (BIG YUS,SMALL YUS),",
   "IZHE,IZHITSA,KAKO,LATINATE MYSLITE,LJUDIJE,MYSLITE,NASHI,ONU,OTU,PE,POKOJI,RITSI,SHA,SHTA,",
   "SHTAPIC,SLOVO,SMALL (YUS,YUS WITH TAIL),SPIDERY HA,TROKUTASTI A,TSI,TVRIDO,UKU,VEDE,YATI,YERI,",
   "YERU,YESTU,YO,YU,ZEMLJA,ZHIVETE)),GLASS OF MILK,GLEICH STARK,GLOBE WITH MERIDIANS,GLOVES,",
   "GLOWING STAR,GOAL NET,GOAT,GOGGLES,GOLFER,GORILLA,GOTHIC LETTER (AHSA,AIHVUS,BAIRKAN,DAGS,EIS,",
   "FAIHU,GIBA,HAGL,HWAIR,IGGWS,IUJA,JER,KUSMA,LAGUS,MANNA,NAUTHS,NINE HUNDRED,NINETY,OTHAL,",
   "PAIRTHRA,QAIRTHRA,RAIDA,SAUIL,TEIWS,THIUTH,URUS,WINJA),GRADUATION CAP,GRANTHA (AU LENGTH MARK,",
   "LETTER (A,AA,AI,AU,BA,BHA,CA,CHA,DA,DDA,DDHA,DHA,EE,GA,GHA,HA,I,II,JA,JHA,KA,KHA,LA,LLA,MA,NA,",
   "NGA,NNA,NYA,OO,PA,PHA,RA,SA,SHA,SSA,TA,THA,TTA,TTHA,U,UU,VA,VEDIC (ANUSVARA,DOUBLE ANUSVARA),",
   "VOCALIC (L,LL,R,RR),YA),OM,SIGN (ANUSVARA,AVAGRAHA,CANDRABINDU,COMBINING ANUSVARA ABOVE,NUKTA,",
   "PLUTA,VIRAMA,VISARGA),VOWEL SIGN (AA,AI,AU,EE,I,II,OO,U,UU,VOCALIC (L,LL,R,RR))),GRAPES,GRAVE ",
   "ACCENT,GREATER-THAN (ABOVE (DOUBLE-LINE EQUAL ABOVE LESS-THAN,LESS-THAN ABOVE DOUBLE-LINE ",
   "EQUAL,RIGHTWARDS ARROW,SIMILAR (ABOVE LESS-THAN,OR EQUAL),SLANTED EQUAL ABOVE LESS-THAN ABOVE ",
   "SLANTED EQUAL),AND (NOT APPROXIMATE,SINGLE-LINE NOT EQUAL TO),BESIDE LESS-THAN,BUT NOT (EQUAL ",
   "TO,EQUIVALENT TO),CLOSED BY (CURVE,CURVE ABOVE SLANTED EQUAL),EQUAL TO OR LESS-THAN,OR (",
   "APPROXIMATE,EQUAL TO,EQUIVALENT TO,LESS-THAN,SLANTED EQUAL (TO,TO WITH DOT (ABOVE,ABOVE LEFT,",
   "INSIDE))),OVER EQUAL TO,OVERLAPPING LESS-THAN,SIGN,WITH (CIRCLE INSIDE,DOT,QUESTION MARK ",
   "ABOVE)),GREEK (ACROPHONIC (ATTIC (FIFTY,FIFTY (STATERS,TALENTS,THOUSAND,THOUSAND STATERS),",
   "FIVE,FIVE (HUNDRED,HUNDRED (STATERS,TALENTS),STATERS,TALENTS,THOUSAND,THOUSAND TALENTS),ONE (",
   "DRACHMA,HALF,HUNDRED (STATERS,TALENTS),QUARTER,THOUSAND (STATERS,TALENTS)),TEN (MNAS,STATERS,",
   "TALENTS,THOUSAND STATERS)),CARYSTIAN FIVE HUNDRED,CYRENAIC TWO DRACHMAS,DELPHIC FIVE MNAS,",
   "EPIDAUREAN (FIVE HUNDRED,TWO,TWO DRACHMAS),HERAEUM ONE PLETHRON,HERMIONIAN (FIFTY,ONE,TEN),",
   "MESSENIAN TEN,NAXIAN FIVE HUNDRED,STRATIAN FIFTY MNAS,THESPIAN (FIFTY,FIVE (HUNDRED,THOUSAND),",
   "ONE,ONE (HUNDRED,THOUSAND),TEN,THIRTY,THREE HUNDRED,TWO),TROEZENIAN (FIFTY,FIFTY ALTERNATE ",
   "FORM,FIVE,FIVE HUNDRED,TEN,TEN ALTERNATE FORM)),ANO TELEIA,AROURA SIGN,ARTABE SIGN,BETA ",
   "SYMBOL,CAPITAL (DOTTED LUNATE SIGMA SYMBOL,KAI SYMBOL,LETTER (ALPHA,ALPHA WITH (DASIA,DASIA ",
   "AND (OXIA,OXIA AND PROSGEGRAMMENI,PERISPOMENI,PERISPOMENI AND PROSGEGRAMMENI,PROSGEGRAMMENI,",
   "VARIA,VARIA AND PROSGEGRAMMENI),MACRON,OXIA,PROSGEGRAMMENI,PSILI,PSILI AND (OXIA,OXIA AND ",
   "PROSGEGRAMMENI,PERISPOMENI,PERISPOMENI AND PROSGEGRAMMENI,PROSGEGRAMMENI,VARIA,VARIA AND ",
   "PROSGEGRAMMENI),TONOS,VARIA,VRACHY),ARCHAIC SAMPI,BETA,CHI,DELTA,EPSILON,EPSILON WITH (DASIA,",
   "DASIA AND (OXIA,VARIA),OXIA,PSILI,PSILI AND (OXIA,VARIA),TONOS,VARIA),ETA,ETA WITH (DASIA,",
   "DASIA AND (OXIA,OXIA AND PROSGEGRAMMENI,PERISPOMENI,PERISPOMENI AND PROSGEGRAMMENI,",
   "PROSGEGRAMMENI,VARIA,VARIA AND PROSGEGRAMMENI),OXIA,PROSGEGRAMMENI,PSILI,PSILI AND (OXIA,OXIA ",
   "AND PROSGEGRAMMENI,PERISPOMENI,PERISPOMENI AND PROSGEGRAMMENI,PROSGEGRAMMENI,VARIA,VARIA AND ",
   "PROSGEGRAMMENI),TONOS,VARIA),GAMMA,HETA,IOTA,IOTA WITH (DASIA,DASIA AND (OXIA,PERISPOMENI,",
   "VARIA),DIALYTIKA,MACRON,OXIA,PSILI,PSILI AND (OXIA,PERISPOMENI,VARIA),TONOS,VARIA,VRACHY),",
   "KAPPA,LAMDA,MU,NU,OMEGA,OMEGA WITH (DASIA,DASIA AND (OXIA,OXIA AND PROSGEGRAMMENI,PERISPOMENI,",
   "PERISPOMENI AND PROSGEGRAMMENI,PROSGEGRAMMENI,VARIA,VARIA AND PROSGEGRAMMENI),OXIA,",
   "PROSGEGRAMMENI,PSILI,PSILI AND (OXIA,OXIA AND PROSGEGRAMMENI,PERISPOMENI,PERISPOMENI AND ",
   "PROSGEGRAMMENI,PROSGEGRAMMENI,VARIA,VARIA AND PROSGEGRAMMENI),TONOS,VARIA),OMICRON,OMICRON ",
   "WITH (DASIA,DASIA AND (OXIA,VARIA),OXIA,PSILI,PSILI AND (OXIA,VARIA),TONOS,VARIA),PAMPHYLIAN ",
   "DIGAMMA,PHI,PI,PSI,RHO,RHO WITH DASIA,SAN,SHO,SIGMA,TAU,THETA,UPSILON,UPSILON WITH (DASIA,",
   "DASIA AND (OXIA,PERISPOMENI,VARIA),DIALYTIKA,MACRON,OXIA,TONOS,VARIA,VRACHY),XI,YOT,ZETA),",
   "LUNATE SIGMA SYMBOL,REVERSED (DOTTED LUNATE SIGMA SYMBOL,LUNATE SIGMA SYMBOL),THETA SYMBOL),",
   "DASIA,DASIA AND (OXIA,PERISPOMENI,VARIA),DIALYTIKA (AND (OXIA,PERISPOMENI,VARIA),TONOS),",
   "DRACHMA SIGN,FIVE OBOLS SIGN,FOUR OBOLS SIGN,GRAMMA SIGN,INDICTION SIGN,INSTRUMENTAL NOTATION ",
   "SYMBOL-(1,11,12,13,14,17,18,19,2,23,24,25,26,27,29,30,32,36,37,38,39,4,40,42,43,45,47,48,49,5,",
   "50,51,52,53,54,7,8),KAI SYMBOL,KAPPA SYMBOL,KORONIS,KYATHOS BASE SIGN,LETTER (ARCHAIC KOPPA,",
   "DIGAMMA,KOPPA,SAMPI,SMALL CAPITAL (GAMMA,LAMDA,OMEGA,PI,PSI,RHO),STIGMA,YOT),LITRA SIGN,LOWER ",
   "NUMERAL SIGN,LUNATE (EPSILON SYMBOL,SIGMA SYMBOL),METRETES SIGN,MUSICAL LEIMMA,NUMERAL SIGN,",
   "OBOL SIGN,ONE (HALF (SIGN,SIGN ALTERNATE FORM),QUARTER SIGN),OUNKIA SIGN,OXIA,PERISPOMENI,PHI ",
   "SYMBOL,PI SYMBOL,PROSGEGRAMMENI,PSILI,PSILI AND (OXIA,PERISPOMENI,VARIA),QUESTION MARK,",
   "REVERSED LUNATE EPSILON SYMBOL,RHO (SYMBOL,WITH STROKE SYMBOL),SINUSOID SIGN,SMALL (DOTTED ",
   "LUNATE SIGMA SYMBOL,LETTER (ALPHA,ALPHA WITH (DASIA,DASIA AND (OXIA,OXIA AND YPOGEGRAMMENI,",
   "PERISPOMENI,PERISPOMENI AND YPOGEGRAMMENI,VARIA,VARIA AND YPOGEGRAMMENI,YPOGEGRAMMENI),MACRON,",
   "OXIA,OXIA AND YPOGEGRAMMENI,PERISPOMENI,PERISPOMENI AND YPOGEGRAMMENI,PSILI,PSILI AND (OXIA,",
   "OXIA AND YPOGEGRAMMENI,PERISPOMENI,PERISPOMENI AND YPOGEGRAMMENI,VARIA,VARIA AND ",
   "YPOGEGRAMMENI,YPOGEGRAMMENI),TONOS,VARIA,VARIA AND YPOGEGRAMMENI,VRACHY,YPOGEGRAMMENI),",
   "ARCHAIC (KOPPA,SAMPI),BETA,CHI,DELTA,DIGAMMA,EPSILON,EPSILON WITH (DASIA,DASIA AND (OXIA,",
   "VARIA),OXIA,PSILI,PSILI AND (OXIA,VARIA),TONOS,VARIA),ETA,ETA WITH (DASIA,DASIA AND (OXIA,",
   "OXIA AND YPOGEGRAMMENI,PERISPOMENI,PERISPOMENI AND YPOGEGRAMMENI,VARIA,VARIA AND ",
   "YPOGEGRAMMENI,YPOGEGRAMMENI),OXIA,OXIA AND YPOGEGRAMMENI,PERISPOMENI,PERISPOMENI AND ",
   "YPOGEGRAMMENI,PSILI,PSILI AND (OXIA,OXIA AND YPOGEGRAMMENI,PERISPOMENI,PERISPOMENI AND ",
   "YPOGEGRAMMENI,VARIA,VARIA AND YPOGEGRAMMENI,YPOGEGRAMMENI),TONOS,VARIA,VARIA AND ",
   "YPOGEGRAMMENI,YPOGEGRAMMENI),FINAL SIGMA,GAMMA,HETA,IOTA,IOTA WITH (DASIA,DASIA AND (OXIA,",
   "PERISPOMENI,VARIA),DIALYTIKA,DIALYTIKA AND (OXIA,PERISPOMENI,TONOS,VARIA),MACRON,OXIA,",
   "PERISPOMENI,PSILI,PSILI AND (OXIA,PERISPOMENI,VARIA),TONOS,VARIA,VRACHY),KAPPA,KOPPA,LAMDA,MU,",
   "NU,OMEGA,OMEGA WITH (DASIA,DASIA AND (OXIA,OXIA AND YPOGEGRAMMENI,PERISPOMENI,PERISPOMENI AND ",
   "YPOGEGRAMMENI,VARIA,VARIA AND YPOGEGRAMMENI,YPOGEGRAMMENI),OXIA,OXIA AND YPOGEGRAMMENI,",
   "PERISPOMENI,PERISPOMENI AND YPOGEGRAMMENI,PSILI,PSILI AND (OXIA,OXIA AND YPOGEGRAMMENI,",
   "PERISPOMENI,PERISPOMENI AND YPOGEGRAMMENI,VARIA,VARIA AND YPOGEGRAMMENI,YPOGEGRAMMENI),TONOS,",
   "VARIA,VARIA AND YPOGEGRAMMENI,YPOGEGRAMMENI),OMICRON,OMICRON WITH (DASIA,DASIA AND (OXIA,",
   "VARIA),OXIA,PSILI,PSILI AND (OXIA,VARIA),TONOS,VARIA),PAMPHYLIAN DIGAMMA,PHI,PI,PSI,RHO,RHO ",
   "WITH (DASIA,PSILI),SAMPI,SAN,SHO,SIGMA,STIGMA,TAU,THETA,UPSILON,UPSILON WITH (DASIA,DASIA AND ",
   "(OXIA,PERISPOMENI,VARIA),DIALYTIKA,DIALYTIKA AND (OXIA,PERISPOMENI,TONOS,VARIA),MACRON,OXIA,",
   "PERISPOMENI,PSILI,PSILI AND (OXIA,PERISPOMENI,VARIA),TONOS,VARIA,VRACHY),XI,ZETA),REVERSED (",
   "DOTTED LUNATE SIGMA SYMBOL,LUNATE SIGMA SYMBOL)),SUBSCRIPT SMALL LETTER (BETA,CHI,GAMMA,PHI,",
   "RHO),SYMBOL TAU RHO,TALENT SIGN,THETA SYMBOL,THREE (OBOLS SIGN,QUARTERS SIGN),TONOS,TRYBLION ",
   "BASE SIGN,TWO (OBOLS SIGN,THIRDS SIGN),UPSILON WITH (ACUTE AND HOOK SYMBOL,DIAERESIS AND HOOK ",
   "SYMBOL,HOOK SYMBOL),VARIA,VOCAL NOTATION SYMBOL-(1,10,11,12,13,14,15,16,17,18,19,2,20,21,22,",
   "23,24,3,4,5,50,51,52,53,54,6,7,8,9),XESTES SIGN,YEAR SIGN,YPOGEGRAMMENI,ZERO SIGN),GREEN (",
   "APPLE,BOOK,HEART,SALAD),GRIMACING FACE,GRINNING (CAT FACE WITH SMILING EYES,FACE,FACE WITH (",
   "ONE LARGE AND ONE SMALL EYE,SMILING EYES,STAR EYES)),GROUP (MARK,SEPARATOR),GROWING HEART,GS,",
   "GUARANI SIGN,GUARDSMAN,GUIDE DOG,GUITAR,GUJARATI (ABBREVIATION SIGN,DIGIT (EIGHT,FIVE,FOUR,",
   "NINE,ONE,SEVEN,SIX,THREE,TWO,ZERO),LETTER (A,AA,AI,AU,BA,BHA,CA,CHA,DA,DDA,DDHA,DHA,E,GA,GHA,",
   "HA,I,II,JA,JHA,KA,KHA,LA,LLA,MA,NA,NGA,NNA,NYA,O,PA,PHA,RA,SA,SHA,SSA,TA,THA,TTA,TTHA,U,UU,VA,",
   "VOCALIC (L,LL,R,RR),YA,ZHA),OM,RUPEE SIGN,SIGN (ANUSVARA,AVAGRAHA,CANDRABINDU,CIRCLE NUKTA ",
   "ABOVE,MADDAH,NUKTA,SHADDA,SUKUN,THREE-DOT NUKTA ABOVE,TWO-CIRCLE NUKTA ABOVE,VIRAMA,VISARGA),",
   "VOWEL (CANDRA (E,O),SIGN (AA,AI,AU,CANDRA (E,O),E,I,II,O,U,UU,VOCALIC (L,LL,R,RR)))),GUNJALA ",
   "GONDI (DIGIT (EIGHT,FIVE,FOUR,NINE,ONE,SEVEN,SIX,THREE,TWO,ZERO),LETTER (A,AA,AI,AU,BA,BHA,CA,",
   "CHA,DA,DDA,DDHA,DHA,EE,GA,GHA,HA,I,II,JA,JHA,KA,KHA,LA,LLA,MA,NA,NGA,OO,PA,PHA,RA,SA,TA,THA,",
   "TTA,TTHA,U,UU,VA,YA),OM,SIGN (ANUSVARA,VISARGA),VIRAMA,VOWEL SIGN (AA,AI,AU,EE,I,II,OO,U,UU)),",
   "GURMUKHI (ABBREVIATION SIGN,ADDAK,DIGIT (EIGHT,FIVE,FOUR,NINE,ONE,SEVEN,SIX,THREE,TWO,ZERO),",
   "EK ONKAR,IRI,LETTER (A,AA,AI,AU,BA,BHA,CA,CHA,DA,DDA,DDHA,DHA,EE,FA,GA,GHA,GHHA,HA,I,II,JA,",
   "JHA,KA,KHA,KHHA,LA,LLA,MA,NA,NGA,NNA,NYA,OO,PA,PHA,RA,RRA,SA,SHA,TA,THA,TTA,TTHA,U,UU,VA,YA,",
   "ZA),SIGN (ADAK BINDI,BINDI,NUKTA,UDAAT,VIRAMA,VISARGA,YAKASH),TIPPI,URA,VOWEL SIGN (AA,AI,AU,",
   "EE,I,II,OO,U,UU)),HADES,HAIR SPACE,HAIRCUT,HALFWIDTH (BLACK SQUARE,DOWNWARDS ARROW,FORMS ",
   "LIGHT VERTICAL,HANGUL (FILLER,LETTER (A,AE,CHIEUCH,CIEUC,E,EO,EU,HIEUH,I,IEUNG,KHIEUKH,KIYEOK,",
   "KIYEOK-SIOS,MIEUM,NIEUN,NIEUN-(CIEUC,HIEUH),O,OE,PHIEUPH,PIEUP,PIEUP-SIOS,RIEUL,RIEUL-(HIEUH,",
   "KIYEOK,MIEUM,PHIEUPH,PIEUP,SIOS,THIEUTH),SIOS,SSANGCIEUC,SSANGKIYEOK,SSANGPIEUP,SSANGSIOS,",
   "SSANGTIKEUT,THIEUTH,TIKEUT,U,WA,WAE,WE,WEO,WI,YA,YAE,YE,YEO,YI,YO,YU)),IDEOGRAPHIC (COMMA,",
   "FULL STOP),KATAKANA (LETTER (A,E,HA,HE,HI,HO,HU,I,KA,KE,KI,KO,KU,MA,ME,MI,MO,MU,N,NA,NE,NI,NO,",
   "NU,O,RA,RE,RI,RO,RU,SA,SE,SI,SMALL (A,E,I,O,TU,U,YA,YO,YU),SO,SU,TA,TE,TI,TO,TU,U,WA,WO,YA,YO,",
   "YU),MIDDLE DOT,SEMI-VOICED SOUND MARK,VOICED SOUND MARK),KATAKANA-HIRAGANA PROLONGED SOUND ",
   "MARK,LEFT CORNER BRACKET,LEFTWARDS ARROW,RIGHT CORNER BRACKET,RIGHTWARDS ARROW,UPWARDS ARROW,",
   "WHITE CIRCLE),HAMBURGER,HAMMER,HAMMER AND (PICK,SICKLE,WRENCH),HAMSA,HAMSTER FACE,HAND WITH ",
   "INDEX (AND MIDDLE FINGERS CROSSED,FINGER AND THUMB CROSSED),HANDBAG,HANDBALL,HANDSHAKE,HANGUL ",
   "(CHOSEONG (CEONGCHIEUMCHIEUCH,CEONGCHIEUMCIEUC,CEONGCHIEUMSIOS,CEONGCHIEUMSSANGCIEUC,",
   "CEONGCHIEUMSSANGSIOS,CHIEUCH,CHIEUCH-(HIEUH,KHIEUKH),CHITUEUMCHIEUCH,CHITUEUMCIEUC,",
   "CHITUEUMSIOS,CHITUEUMSSANGCIEUC,CHITUEUMSSANGSIOS,CIEUC,CIEUC-IEUNG,FILLER,HIEUH,HIEUH-SIOS,",
   "IEUNG,IEUNG-(CHIEUCH,CIEUC,HIEUH,KIYEOK,MIEUM,PANSIOS,PHIEUPH,PIEUP,RIEUL,SIOS,THIEUTH,",
   "TIKEUT),KAPYEOUNMIEUM,KAPYEOUNPHIEUPH,KAPYEOUNPIEUP,KAPYEOUNRIEUL,KAPYEOUNSSANGPIEUP,KHIEUKH,",
   "KIYEOK,KIYEOK-TIKEUT,MIEUM,MIEUM-(KIYEOK,PIEUP,SIOS,TIKEUT),NIEUN,NIEUN-(CIEUC,HIEUH,KIYEOK,",
   "PIEUP,SIOS,TIKEUT),PANSIOS,PHIEUPH,PHIEUPH-(HIEUH,PIEUP),PIEUP,PIEUP-(CHIEUCH,CIEUC,HIEUH,",
   "KHIEUKH,KIYEOK,NIEUN,PHIEUPH,SIOS,SIOS-(CIEUC,KIYEOK,PIEUP,THIEUTH,TIKEUT),SSANGSIOS,THIEUTH,",
   "TIKEUT),RIEUL,RIEUL-(CIEUC,HIEUH,KAPYEOUNPIEUP,KHIEUKH,KIYEOK,MIEUM,NIEUN,PIEUP,SIOS,",
   "SSANGKIYEOK,SSANGPIEUP,SSANGTIKEUT,TIKEUT),SIOS,SIOS-(CHIEUCH,CIEUC,HIEUH,IEUNG,KHIEUKH,",
   "KIYEOK,MIEUM,NIEUN,PHIEUPH,PIEUP,PIEUP-KIYEOK,RIEUL,SSANGSIOS,THIEUTH,TIKEUT),SSANGCIEUC,",
   "SSANGCIEUC-HIEUH,SSANGHIEUH,SSANGIEUNG,SSANGKIYEOK,SSANGNIEUN,SSANGPIEUP,SSANGRIEUL,SSANGSIOS,",
   "SSANGSIOS-PIEUP,SSANGTHIEUTH,SSANGTIKEUT,SSANGYEORINHIEUH,THIEUTH,TIKEUT,TIKEUT-(CIEUC,KIYEOK,",
   "MIEUM,PIEUP,RIEUL,SIOS),YEORINHIEUH,YESIEUNG),DOUBLE DOT TONE MARK,FILLER,JONGSEONG (CHIEUCH,",
   "CIEUC,CIEUC-(PIEUP,SSANGPIEUP),HIEUH,HIEUH-(MIEUM,NIEUN,PIEUP,RIEUL),IEUNG,IEUNG-(KHIEUKH,",
   "KIYEOK,SSANGKIYEOK),KAPYEOUNMIEUM,KAPYEOUNPHIEUPH,KAPYEOUNPIEUP,KAPYEOUNRIEUL,KHIEUKH,KIYEOK,",
   "KIYEOK-(CHIEUCH,HIEUH,KHIEUKH,NIEUN,PIEUP,RIEUL,SIOS,SIOS-KIYEOK),MIEUM,MIEUM-(CHIEUCH,CIEUC,",
   "HIEUH,KIYEOK,NIEUN,PANSIOS,PIEUP,PIEUP-SIOS,RIEUL,SIOS,SSANGNIEUN,SSANGSIOS),NIEUN,NIEUN-(",
   "CHIEUCH,CIEUC,HIEUH,KIYEOK,PANSIOS,RIEUL,SIOS,THIEUTH,TIKEUT),PANSIOS,PANSIOS-(KAPYEOUNPIEUP,",
   "PIEUP),PHIEUPH,PHIEUPH-(PIEUP,SIOS,THIEUTH),PIEUP,PIEUP-(CHIEUCH,CIEUC,HIEUH,MIEUM,PHIEUPH,",
   "RIEUL,RIEUL-PHIEUPH,SIOS,SIOS-TIKEUT,TIKEUT),RIEUL,RIEUL-(HIEUH,KAPYEOUNPIEUP,KHIEUKH,KIYEOK,",
   "KIYEOK-(HIEUH,SIOS),MIEUM,MIEUM-(HIEUH,KIYEOK,SIOS),NIEUN,PANSIOS,PHIEUPH,PIEUP,PIEUP-(HIEUH,",
   "PHIEUPH,SIOS,TIKEUT),SIOS,SSANGKIYEOK,SSANGSIOS,THIEUTH,TIKEUT,TIKEUT-HIEUH,YEORINHIEUH,",
   "YEORINHIEUH-HIEUH,YESIEUNG),SIOS,SIOS-(CHIEUCH,CIEUC,HIEUH,KAPYEOUNPIEUP,KIYEOK,MIEUM,PANSIOS,",
   "PIEUP,RIEUL,THIEUTH,TIKEUT),SSANGCIEUC,SSANGIEUNG,SSANGKIYEOK,SSANGMIEUM,SSANGNIEUN,",
   "SSANGPIEUP,SSANGRIEUL,SSANGRIEUL-KHIEUKH,SSANGSIOS,SSANGSIOS-(KIYEOK,TIKEUT),SSANGTIKEUT,",
   "SSANGTIKEUT-PIEUP,SSANGYESIEUNG,THIEUTH,TIKEUT,TIKEUT-(CHIEUCH,CIEUC,KIYEOK,PIEUP,RIEUL,SIOS,",
   "SIOS-KIYEOK,THIEUTH),YEORINHIEUH,YESIEUNG,YESIEUNG-(HIEUH,KHIEUKH,KIYEOK,MIEUM,PANSIOS,SIOS,",
   "SSANGKIYEOK)),JUNGSEONG (A,A-(EU,O,U),AE,ARAEA,ARAEA-(A,E,EO,I,U),E,EO,EO-(EU,O,U),EU,EU-(A,E,",
   "EO,EU,O,U),FILLER,I,I-(A,ARAEA,EU,I,O,O-I,U,YA,YA-O,YAE,YE,YEO,YO,YU),O,O-(E,EO,O,O-I,U,YA,",
   "YAE,YE,YEO),OE,SSANGARAEA,U,U-(A,AE,EO-EU,I-I,U,YE,YEO),WA,WAE,WE,WEO,WI,YA,YA-(O,U,YO),YAE,",
   "YE,YEO,YEO-(O,U,YA),YI,YI-U,YO,YO-(A,AE,EO,I,O,YA,YAE,YEO),YU,YU-(A,AE,E,EO,I,O,U,YE,YEO)),",
   "LETTER (A,AE,ARAEA,ARAEAE,CHIEUCH,CIEUC,E,EO,EU,HIEUH,I,IEUNG,KAPYEOUNMIEUM,KAPYEOUNPHIEUPH,",
   "KAPYEOUNPIEUP,KAPYEOUNSSANGPIEUP,KHIEUKH,KIYEOK,KIYEOK-SIOS,MIEUM,MIEUM-(PANSIOS,PIEUP,SIOS),",
   "NIEUN,NIEUN-(CIEUC,HIEUH,PANSIOS,SIOS,TIKEUT),O,OE,PANSIOS,PHIEUPH,PIEUP,PIEUP-(CIEUC,KIYEOK,",
   "SIOS,SIOS-(KIYEOK,TIKEUT),THIEUTH,TIKEUT),RIEUL,RIEUL-(HIEUH,KIYEOK,KIYEOK-SIOS,MIEUM,PANSIOS,",
   "PHIEUPH,PIEUP,PIEUP-SIOS,SIOS,THIEUTH,TIKEUT,YEORINHIEUH),SIOS,SIOS-(CIEUC,KIYEOK,NIEUN,PIEUP,",
   "TIKEUT),SSANGCIEUC,SSANGHIEUH,SSANGIEUNG,SSANGKIYEOK,SSANGNIEUN,SSANGPIEUP,SSANGSIOS,",
   "SSANGTIKEUT,THIEUTH,TIKEUT,U,WA,WAE,WE,WEO,WI,YA,YAE,YE,YEO,YEORINHIEUH,YESIEUNG,YESIEUNG-(",
   "PANSIOS,SIOS),YI,YO,YO-(I,YA,YAE),YU,YU-(I,YE,YEO)),SINGLE DOT TONE MARK),HANGZHOU NUMERAL (",
   "EIGHT,FIVE,FOUR,NINE,ONE,SEVEN,SIX,TEN,THIRTY,THREE,TWENTY,TWO),HANIFI ROHINGYA (DIGIT (EIGHT,",
   "FIVE,FOUR,NINE,ONE,SEVEN,SIX,THREE,TWO,ZERO),LETTER (A,BA,CA,DA,DDA,FA,GA,HA,JA,KA,KHA,KINNA (",
   "WA,YA),LA,MA,NA,NGA,NYA,PA,RA,RRA,SA,SHA,TA,TTA,VA,WA,YA,ZA),MARK (NA KHONNA,SAKIN),SIGN (",
   "HARBAHAY,TAHALA,TANA,TASSI),VOWEL (A,E,I,O,U)),HANUNOO (LETTER (A,BA,DA,GA,HA,I,KA,LA,MA,NA,",
   "NGA,PA,RA,SA,TA,U,WA,YA),SIGN PAMUDPOD,VOWEL SIGN (I,U)),HAPPY PERSON RAISING ONE HAND,HARD ",
   "DISK,HATCHING CHICK,HATRAN (LETTER (ALEPH,AYN,BETH,DALETH-RESH,GIMEL,HE,HETH,KAPH,LAMEDH,MEM,",
   "NUN,PE,QOPH,SADHE,SAMEKH,SHIN,TAW,TETH,WAW,YODH,ZAYN),NUMBER (FIVE,ONE,ONE HUNDRED,TEN,",
   "TWENTY)),HEADPHONE,HEADSTONE,HEADSTONE GRAVEYARD SYMBOL,HEAR-NO-EVIL MONKEY,HEART (DECORATION,",
   "HANDS,WITH (ARROW,RIBBON,TIP ON THE LEFT)),HEAVY (AMPERSAND ORNAMENT,ARROW SHAFT WIDTH (ONE,",
   "ONE (HALF,THIRD),TWO THIRDS),ASTERISK,BALLOT X,BLACK (CURVED (DOWNWARDS AND RIGHTWARDS ARROW,",
   "UPWARDS AND RIGHTWARDS ARROW),HEART),BLACK-FEATHERED (NORTH EAST ARROW,RIGHTWARDS ARROW,SOUTH ",
   "EAST ARROW),CHECK MARK,CHEVRON SNOWFLAKE,CIRCLE,CIRCLE WITH (CIRCLE INSIDE,STROKE AND TWO ",
   "DOTS ABOVE),CIRCLED SALTIRE,CONCAVE-POINTED BLACK RIGHTWARDS ARROW,DASHED TRIANGLE-HEADED ",
   "RIGHTWARDS ARROW,DIVISION SIGN,DOLLAR SIGN,DOUBLE (COMMA QUOTATION MARK ORNAMENT,TURNED COMMA ",
   "QUOTATION MARK ORNAMENT),DOWNWARDS ARROW WITH (EQUILATERAL ARROWHEAD,LARGE EQUILATERAL ",
   "ARROWHEAD),EIGHT (POINTED (BLACK STAR,PINWHEEL STAR,RECTILINEAR BLACK STAR),SPOKED ASTERISK,",
   "TEARDROP-SPOKED PROPELLER ASTERISK),EQUALS SIGN,EXCLAMATION MARK (ORNAMENT,SYMBOL),FIVE (",
   "POINTED BLACK STAR,SPOKED ASTERISK),FOUR BALLOON-SPOKED ASTERISK,GREEK CROSS,HEART ",
   "EXCLAMATION MARK ORNAMENT,HORIZONTAL FILL,INTERROBANG ORNAMENT,LARGE CIRCLE,LATIN CROSS,",
   "LEFT-POINTING ANGLE (BRACKET ORNAMENT,QUOTATION MARK ORNAMENT),LEFTWARDS ARROW WITH (",
   "EQUILATERAL ARROWHEAD,LARGE EQUILATERAL ARROWHEAD),LIGATURE OPEN ET ORNAMENT,LOW (DOUBLE ",
   "COMMA QUOTATION MARK ORNAMENT,SINGLE COMMA QUOTATION MARK ORNAMENT),LOWER RIGHT-SHADOWED ",
   "WHITE RIGHTWARDS ARROW,MINUS SIGN,MULTIPLICATION X,NORTH (EAST (ARROW,POINTING (BUD,VINE ",
   "LEAF)),WEST POINTING (BUD,VINE LEAF)),OPEN CENTRE CROSS,OUTLINED BLACK STAR,OVAL WITH OVAL ",
   "INSIDE,PLUS SIGN,RIGHT-POINTING ANGLE (BRACKET ORNAMENT,QUOTATION MARK ORNAMENT),RIGHTWARDS (",
   "ARROW,ARROW WITH (EQUILATERAL ARROWHEAD,LARGE EQUILATERAL ARROWHEAD)),ROUND-TIPPED RIGHTWARDS ",
   "ARROW,SALTIRE,SANS-SERIF INTERROBANG ORNAMENT,SCRIPT LIGATURE ET ORNAMENT,SINGLE (COMMA ",
   "QUOTATION MARK ORNAMENT,TURNED COMMA QUOTATION MARK ORNAMENT),SIX (POINTED BLACK STAR,SPOKED ",
   "ASTERISK),SOUTH (EAST (ARROW,POINTING (BUD,VINE LEAF)),WEST POINTING (BUD,VINE LEAF)),SPARKLE,",
   "TEARDROP-(SHANKED RIGHTWARDS ARROW,SPOKED (ASTERISK,PINWHEEL ASTERISK)),TRIANGLE-HEADED ",
   "RIGHTWARDS ARROW,TWELVE POINTED (BLACK STAR,PINWHEEL STAR),UPPER RIGHT-SHADOWED WHITE ",
   "RIGHTWARDS ARROW,UPWARDS ARROW WITH (EQUILATERAL ARROWHEAD,LARGE EQUILATERAL ARROWHEAD),",
   "VERTICAL BAR,WEDGE-TAILED RIGHTWARDS ARROW,WHITE (CIRCLE,DOWN-POINTING TRIANGLE,SQUARE),",
   "WIDE-HEADED RIGHTWARDS ARROW),HEBREW (ACCENT (ATNAH HAFUKH,DARGA,DEHI,ETNAHTA,GERESH,GERESH ",
   "MUQDAM,GERSHAYIM,ILUY,MAHAPAKH,MERKHA,MERKHA KEFULA,MUNAH,OLE,PASHTA,PAZER,QADMA,QARNEY PARA,",
   "REVIA,SEGOL,SHALSHELET,TELISHA (GEDOLA,QETANA),TEVIR,TIPEHA,YERAH BEN YOMO,YETIV,ZAQEF (GADOL,",
   "QATAN),ZARQA,ZINOR),LETTER (ALEF,ALEF WITH (MAPIQ,PATAH,QAMATS),ALTERNATIVE (AYIN,PLUS SIGN),",
   "AYIN,BET,BET WITH (DAGESH,RAFE),DALET,DALET WITH DAGESH,FINAL (KAF,KAF WITH DAGESH,MEM,NUN,PE,",
   "PE WITH DAGESH,TSADI),GIMEL,GIMEL WITH DAGESH,HE,HE WITH MAPIQ,HET,KAF,KAF WITH (DAGESH,RAFE),",
   "LAMED,LAMED WITH DAGESH,MEM,MEM WITH DAGESH,NUN,NUN WITH DAGESH,PE,PE WITH (DAGESH,RAFE),QOF,",
   "QOF WITH DAGESH,RESH,RESH WITH DAGESH,SAMEKH,SAMEKH WITH DAGESH,SHIN,SHIN WITH (DAGESH,DAGESH ",
   "AND (SHIN DOT,SIN DOT),SHIN DOT,SIN DOT),TAV,TAV WITH DAGESH,TET,TET WITH DAGESH,TSADI,TSADI ",
   "WITH DAGESH,VAV,VAV WITH (DAGESH,HOLAM),WIDE (ALEF,DALET,FINAL MEM,HE,KAF,LAMED,RESH,TAV),YOD,",
   "YOD WITH (DAGESH,HIRIQ),ZAYIN,ZAYIN WITH DAGESH),LIGATURE (ALEF LAMED,YIDDISH (DOUBLE (VAV,",
   "YOD),VAV YOD,YOD YOD PATAH)),MARK (LOWER DOT,MASORA CIRCLE,UPPER DOT),POINT (DAGESH OR MAPIQ,",
   "HATAF (PATAH,QAMATS,SEGOL),HIRIQ,HOLAM,HOLAM HASER FOR VAV,JUDEO-SPANISH VARIKA,METEG,PATAH,",
   "QAMATS,QAMATS QATAN,QUBUTS,RAFE,SEGOL,SHEVA,SHIN DOT,SIN DOT,TSERE),PUNCTUATION (GERESH,",
   "GERSHAYIM,MAQAF,NUN HAFUKHA,PASEQ,SOF PASUQ),YOD TRIANGLE),HEDGEHOG,HELICOPTER,HELLSCHREIBER ",
   "PAUSE SYMBOL,HELM SYMBOL,HELMET WITH WHITE CROSS,HENTAIGANA LETTER (A-(1,2,3,WO),E-(1,2,3,4,5,",
   "6),HA-(1,10,11,2,3,4,5,6,7,8,9),HE-(1,2,3,4,5,6,7),HI-(1,2,3,4,5,6,7),HO-(1,2,3,4,5,6,7,8),",
   "HU-(1,2,3),I-(1,2,3,4),KA-(1,10,11,2,3,4,5,6,7,8,9,KE),KE-(1,2,3,4,5,6),KI-(1,2,3,4,5,6,7,8),",
   "KO-(1,2,3,KI),KU-(1,2,3,4,5,6,7),MA-(1,2,3,4,5,6,7),ME-(1,2,MA),MI-(1,2,3,4,5,6,7),MO-(1,2,3,",
   "4,5,6),MU-(1,2,3,4),N-MU-MO-(1,2),NA-(1,2,3,4,5,6,7,8,9),NE-(1,2,3,4,5,6,KO),NI-(1,2,3,4,5,6,",
   "7,TE),NO-(1,2,3,4,5),NU-(1,2,3),O-(1,2,3),RA-(1,2,3,4),RE-(1,2,3,4),RI-(1,2,3,4,5,6,7),RO-(1,",
   "2,3,4,5,6),RU-(1,2,3,4,5,6),SA-(1,2,3,4,5,6,7,8),SE-(1,2,3,4,5),SI-(1,2,3,4,5,6),SO-(1,2,3,4,",
   "5,6,7),SU-(1,2,3,4,5,6,7,8),TA-(1,2,3,4),TE-(1,2,3,4,5,6,7,8,9),TI-(1,2,3,4,5,6,7),TO-(1,2,3,",
   "4,5,6,RA),TU-(1,2,3,4,TO),U-(1,2,3,4,5),WA-(1,2,3,4,5),WE-(1,2,3,4),WI-(1,2,3,4,5),WO-(1,2,3,",
   "4,5,6,7),YA-(1,2,3,4,5,YO),YO-(1,2,3,4,5,6),YU-(1,2,3,4)),HERB,HERMITIAN CONJUGATE MATRIX,",
   "HEXAGRAM FOR (ABUNDANCE,AFTER COMPLETION,APPROACH,BEFORE COMPLETION,BITING THROUGH,",
   "BREAKTHROUGH,COMING TO MEET,CONFLICT,CONTEMPLATION,DARKENING OF THE LIGHT,DECREASE,",
   "DELIVERANCE,DEVELOPMENT,DIFFICULTY AT THE BEGINNING,DISPERSION,DURATION,ENTHUSIASM,FELLOWSHIP,",
   "FOLLOWING,GATHERING TOGETHER,GRACE,GREAT (POSSESSION,POWER,PREPONDERANCE,TAMING),HOLDING ",
   "TOGETHER,INCREASE,INFLUENCE,INNER TRUTH,INNOCENCE,LIMITATION,MODESTY,MOUTH CORNERS,",
   "OBSTRUCTION,OPPOSITION,OPPRESSION,PEACE,PROGRESS,PUSHING UPWARD,RETREAT,RETURN,REVOLUTION,",
   "SMALL (PREPONDERANCE,TAMING),SPLITTING APART,STANDSTILL,THE (ABYSMAL WATER,ARMY,AROUSING ",
   "THUNDER,CAULDRON,CLINGING FIRE,CREATIVE HEAVEN,FAMILY,GENTLE WIND,JOYOUS LAKE,KEEPING STILL ",
   "MOUNTAIN,MARRYING MAIDEN,RECEPTIVE EARTH,WANDERER,WELL),TREADING,WAITING,WORK ON THE DECAYED,",
   "YOUTHFUL FOLLY),HIBISCUS,HIGH (BRIGHTNESS SYMBOL,OCTET PRESET,VOLTAGE SIGN),HIGH-(HEELED SHOE,",
   "SPEED (TRAIN,TRAIN WITH BULLET NOSE)),HIKING BOOT,HINDU TEMPLE,HIPPOPOTAMUS,HIRAGANA (DIGRAPH ",
   "YORI,ITERATION MARK,LETTER (A,ARCHAIC (WU,YE),BA,BE,BI,BO,BU,DA,DE,DI,DO,DU,E,GA,GE,GI,GO,GU,",
   "HA,HE,HI,HO,HU,I,KA,KE,KI,KO,KU,MA,ME,MI,MO,MU,N,NA,NE,NI,NO,NU,O,PA,PE,PI,PO,PU,RA,RE,RI,RO,",
   "RU,SA,SE,SI,SMALL (A,E,I,KA,KE,O,TU,U,WA,WE,WI,WO,YA,YO,YU),SO,SU,TA,TE,TI,TO,TU,U,VU,WA,WE,",
   "WI,WO,YA,YO,YU,ZA,ZE,ZI,ZO,ZU),VOICED ITERATION MARK),HISTORIC SITE,HOCHO,HOLE,HOLLOW QUILT ",
   "SQUARE (ORNAMENT,ORNAMENT IN BLACK SQUARE),HOMOTHETIC,HONEY POT,HONEYBEE,HOOK,HOP,HORIZONTAL (",
   "BAR,BLACK (HEXAGON,OCTAGON),ELLIPSIS,LINE EXTENSION,MALE WITH STROKE SIGN,ONE EIGHTH BLOCK-(",
   "1358,2,3,4,5,6,7),SCAN LINE-(1,3,7,9),TAB KEY,TABULATION,TABULATION (SET,WITH JUSTIFICATION),",
   "TRAFFIC LIGHT),HORSE,HORSE (FACE,RACING),HOSPITAL,HOT (BEVERAGE,DOG,PEPPER,SPRINGS),HOTEL,",
   "HOURGLASS,HOURGLASS WITH FLOWING SAND,HOUSE,HOUSE (BUILDING,BUILDINGS,WITH GARDEN),HRYVNIA ",
   "SIGN,HT,HTJ,HTS,HUGGING FACE,HUNDRED POINTS SYMBOL,HUSHED FACE,HUT,HYGIEA,HYPHEN,HYPHEN (",
   "BULLET,WITH DIAERESIS),HYPHEN-MINUS,HYPHENATION POINT,HYPODIASTOLE,HYSTERESIS SYMBOL,I LOVE ",
   "YOU HAND SIGN,ICE (CREAM,CUBE,HOCKEY STICK AND PUCK,SKATE),IDENTICAL (TO,TO AND SLANTED ",
   "PARALLEL,WITH DOT ABOVE),IDENTIFICATION CARD,IDEOGRAPHIC (ANNOTATION (BOTTOM MARK,EARTH MARK,",
   "FIRST MARK,FOUR MARK,FOURTH MARK,HEAVEN MARK,LINKING MARK,MAN MARK,MIDDLE MARK,ONE MARK,",
   "REVERSE MARK,SECOND MARK,THIRD MARK,THREE MARK,TOP MARK,TWO MARK),CLOSING MARK,COMMA,",
   "DEPARTING TONE MARK,DESCRIPTION CHARACTER (ABOVE TO (BELOW,MIDDLE AND BELOW),FULL SURROUND,",
   "LEFT TO (MIDDLE AND RIGHT,RIGHT),OVERLAID,SURROUND FROM (ABOVE,BELOW,LEFT,LOWER LEFT,UPPER (",
   "LEFT,RIGHT))),ENTERING TONE MARK,FULL STOP,HALF FILL SPACE,ITERATION MARK,LEVEL TONE MARK,",
   "NUMBER ZERO,RISING TONE MARK,SPACE,TALLY MARK (FIVE,FOUR,ONE,THREE,TWO),TELEGRAPH (LINE FEED ",
   "SEPARATOR SYMBOL,SYMBOL FOR (APRIL,AUGUST,DAY (EIGHT,EIGHTEEN,ELEVEN,FIFTEEN,FIVE,FOUR,",
   "FOURTEEN,NINE,NINETEEN,ONE,SEVEN,SEVENTEEN,SIX,SIXTEEN,TEN,THIRTEEN,THIRTY,THIRTY-ONE,THREE,",
   "TWELVE,TWENTY,TWENTY-(EIGHT,FIVE,FOUR,NINE,ONE,SEVEN,SIX,THREE,TWO),TWO),DECEMBER,FEBRUARY,",
   "HOUR (EIGHT,EIGHTEEN,ELEVEN,FIFTEEN,FIVE,FOUR,FOURTEEN,NINE,NINETEEN,ONE,SEVEN,SEVENTEEN,SIX,",
   "SIXTEEN,TEN,THIRTEEN,THREE,TWELVE,TWENTY,TWENTY-(FOUR,ONE,THREE,TWO),TWO,ZERO),JANUARY,JULY,",
   "JUNE,MARCH,MAY,NOVEMBER,OCTOBER,SEPTEMBER)),VARIATION INDICATOR),IMAGE (OF,OF OR ",
   "APPROXIMATELY EQUAL TO),IMP,IMPERIAL ARAMAIC (LETTER (ALEPH,AYIN,BETH,DALETH,GIMEL,HE,HETH,",
   "KAPH,LAMEDH,MEM,NUN,PE,QOPH,RESH,SADHE,SAMEKH,SHIN,TAW,TETH,WAW,YODH,ZAYIN),NUMBER (ONE,ONE (",
   "HUNDRED,THOUSAND),TEN,TEN THOUSAND,THREE,TWENTY,TWO),SECTION SIGN),INBOX TRAY,INCOMING ",
   "ENVELOPE,INCOMPLETE INFINITY,INCREASE FONT SIZE SYMBOL,INCREASES AS,INCREMENT,IND,INDEX,INDEX ",
   "POINTING AT THE VIEWER,INDIAN RUPEE SIGN,INDIC SIYAQ (ALTERNATE LAKH MARK,FRACTION (ONE (HALF,",
   "QUARTER),THREE QUARTERS),LAKH MARK,NUMBER (ALTERNATE (ONE,TEN THOUSAND,TWO),EIGHT,EIGHT (",
   "HUNDRED,THOUSAND),EIGHTY,EIGHTY THOUSAND,FIFTY,FIFTY THOUSAND,FIVE,FIVE (HUNDRED,THOUSAND),",
   "FORTY,FORTY THOUSAND,FOUR,FOUR (HUNDRED,THOUSAND),KAROR,KARORAN,LAKH,LAKHAN,NINE,NINE (",
   "HUNDRED,THOUSAND),NINETY,NINETY THOUSAND,ONE,ONE (HUNDRED,THOUSAND),PREFIXED (EIGHT,FIVE,FOUR,",
   "NINE,ONE,SEVEN,SIX,THREE,TWO),SEVEN,SEVEN (HUNDRED,THOUSAND),SEVENTY,SEVENTY THOUSAND,SIX,SIX ",
   "(HUNDRED,THOUSAND),SIXTY,SIXTY THOUSAND,TEN,TEN THOUSAND,THIRTY,THIRTY THOUSAND,THREE,THREE (",
   "HUNDRED,THOUSAND),TWENTY,TWENTY THOUSAND,TWO,TWO (HUNDRED,THOUSAND)),PLACEHOLDER,RUPEE MARK),",
   "INFINITY,INFINITY NEGATED WITH VERTICAL BAR,INFORMATION (DESK PERSON,SEPARATOR (FOUR,ONE,",
   "THREE,TWO),SOURCE),INHIBIT (ARABIC FORM SHAPING,SYMMETRIC SWAPPING),INPUT SYMBOL FOR (LATIN (",
   "CAPITAL LETTERS,LETTERS,SMALL LETTERS),NUMBERS,SYMBOLS),INSCRIPTIONAL (PAHLAVI (LETTER (ALEPH,",
   "BETH,DALETH,GIMEL,HE,HETH,KAPH,LAMEDH,MEM-QOPH,NUN,PE,SADHE,SAMEKH,SHIN,TAW,TETH,",
   "WAW-AYIN-RESH,YODH,ZAYIN),NUMBER (FOUR,ONE,ONE (HUNDRED,THOUSAND),TEN,THREE,TWENTY,TWO)),",
   "PARTHIAN (LETTER (ALEPH,AYIN,BETH,DALETH,GIMEL,HE,HETH,KAPH,LAMEDH,MEM,NUN,PE,QOPH,RESH,SADHE,",
   "SAMEKH,SHIN,TAW,TETH,WAW,YODH,ZAYIN),NUMBER (FOUR,ONE,ONE (HUNDRED,THOUSAND),TEN,THREE,TWENTY,",
   "TWO))),INSERTION SYMBOL,INTEGRAL,INTEGRAL (AROUND A POINT OPERATOR,AVERAGE WITH SLASH,",
   "EXTENSION,WITH (DOUBLE STROKE,INTERSECTION,LEFTWARDS ARROW WITH HOOK,OVERBAR,TIMES SIGN,",
   "UNDERBAR,UNION)),INTERCALATE,INTERIOR PRODUCT,INTERLINEAR ANNOTATION (ANCHOR,SEPARATOR,",
   "TERMINATOR),INTERLOCKED FEMALE AND MALE SIGN,INTERROBANG,INTERSECTION,INTERSECTION (ABOVE (",
   "BAR ABOVE UNION,UNION),BESIDE AND JOINED WITH INTERSECTION,WITH (DOT,LOGICAL AND,OVERBAR)),",
   "INVERSE (BULLET,CHECK MARK,CHECKER BOARD FILL,DOWNWARDS ARROW WITH TIP LEFTWARDS,MEDIUM SHADE,",
   "WHITE CIRCLE),INVERTED (EXCLAMATION MARK,INTERROBANG,LAZY S,LOW (KAVYKA,KAVYKA WITH KAVYKA ",
   "ABOVE),OHM SIGN,PENTAGRAM,QUESTION MARK,UNDERTIE),INVISIBLE (PLUS,SEPARATOR,TIMES),IZAKAYA ",
   "LANTERN,JACK-O-LANTERN,JAPANESE (BANK SYMBOL,CASTLE,DOLLS,GOBLIN,INDUSTRIAL STANDARD SYMBOL,",
   "OGRE,POST OFFICE,SYMBOL FOR BEGINNER),JAR,JAVANESE (CONSONANT SIGN (CAKRA,KERET,PENGKAL),",
   "DIGIT (EIGHT,FIVE,FOUR,NINE,ONE,SEVEN,SIX,THREE,TWO,ZERO),LEFT RERENGGAN,LETTER (A,AI,BA,BA ",
   "MURDA,CA,CA MURDA,DA,DA MAHAPRANA,DDA,DDA MAHAPRANA,E,GA,GA MURDA,HA,I,I KAWI,II,JA,JA ",
   "MAHAPRANA,KA,KA (MURDA,SASAK),LA,MA,NA,NA MURDA,NGA,NGA (LELET,LELET RASWADI),NYA,NYA MURDA,O,",
   "PA,PA (CEREK,MURDA),RA,RA AGUNG,SA,SA (MAHAPRANA,MURDA),TA,TA MURDA,TTA,TTA MAHAPRANA,U,WA,",
   "YA),PADA (ADEG,ADEG ADEG,ANDAP,ISEN-ISEN,LINGSA,LUHUR,LUNGSI,MADYA,PANGKAT,PISELEH,TIRTA ",
   "TUMETES,WINDU),PANGKON,PANGRANGKEP,RIGHT RERENGGAN,SIGN (CECAK,CECAK TELU,LAYAR,PANYANGGA,",
   "WIGNYAN),TURNED PADA PISELEH,VOWEL SIGN (DIRGA MURE,PEPET,SUKU,SUKU MENDUT,TALING,TARUNG,",
   "TOLONG,WULU,WULU MELIK)),JEANS,JIGSAW PUZZLE PIECE,JOIN,JOYSTICK,JUGGLING,JUNO,JUPITER"]

end ApiStubs.Text.CharacterName
